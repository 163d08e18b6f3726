import LogSteward.Connection.Retry

/-!
# Attempts and pauses

A retry goes on from one attempt to the next by counting, and stops where the counter has reached
the limit (`RetryPolicy.attemptFrom_eq`).  The limit is a number that the counter can hold, so the
counter never starts over.

With every party, whatever state it answers from, a retry makes the attempts up to the first that
succeeds, or all that are allowed, with a pause between two of them and none after the last
(`RetryPolicy.attempts_bounded`).
-/

namespace LogSteward

namespace RetryStep

/-- The number of an attempt. -/
def number? : RetryStep → Option UInt32
  | attempt n => some n
  | pause _ => none

/-- How long a pause is. -/
def interval? : RetryStep → Option Nat
  | attempt _ => none
  | pause ms => some ms

end RetryStep

namespace RetryPolicy

variable {ε α σ : Type}

/-! ### The counter -/

/-- There is always at least one attempt. -/
theorem toNat_limit (p : RetryPolicy) : p.limit.toNat = max p.maxAttempts.toNat 1 := by
  show (if p.maxAttempts ≤ 1 then 1 else p.maxAttempts).toNat = _
  split
  · next h =>
    have : p.maxAttempts.toNat ≤ 1 := UInt32.le_iff_toNat_le.mp h
    rw [UInt32.toNat_one]
    omega
  · next h =>
    have : ¬ p.maxAttempts.toNat ≤ 1 := fun le => h (UInt32.le_iff_toNat_le.mpr le)
    omega

/-- Below the limit there is a next number. -/
theorem toNat_add_one {number limit : UInt32} (h : number < limit) :
    (number + 1).toNat = number.toNat + 1 := by
  have below : number.toNat < limit.toNat := UInt32.lt_iff_toNat_lt.mp h
  have bound : limit.toNat < 2 ^ 32 := limit.toNat_lt
  rw [UInt32.toNat_add, UInt32.toNat_one]
  exact Nat.mod_eq_of_lt (by omega)

/-- **The loop.**  The counter is compared with the limit after an attempt that failed, and goes up
by one after the pause. -/
theorem attemptFrom_eq (interval : Nat) (limit number : UInt32) :
    (attemptFrom interval number (limit.toNat - number.toNat) :
        Dialogue (RetryStep.Answer ε α) (Except (Exhausted ε) α))
      = .ask (.attempt number) fun
        | .ok a => .done (.ok a)
        | .error e =>
          if limit ≤ number then .done (.error ⟨number, e⟩)
          else .ask (.pause interval) fun () =>
            attemptFrom interval (number + 1) (limit.toNat - (number + 1).toNat) := by
  by_cases last : limit ≤ number
  · have none_left : limit.toNat - number.toNat = 0 :=
      Nat.sub_eq_zero_of_le (UInt32.le_iff_toNat_le.mp last)
    rw [none_left, attemptFrom]
    refine congrArg (Dialogue.ask _) (funext fun r => ?_)
    cases r with
    | ok a => rfl
    | error e => exact (if_pos last).symm
  · have below : number < limit := UInt32.not_le.mp last
    have left : limit.toNat - number.toNat = limit.toNat - (number + 1).toNat + 1 := by
      have : number.toNat < limit.toNat := UInt32.lt_iff_toNat_lt.mp below
      rw [toNat_add_one below]
      omega
    rw [left, attemptFrom]
    refine congrArg (Dialogue.ask _) (funext fun r => ?_)
    cases r with
    | ok a => rfl
    | error e => exact (if_neg last).symm

section Loop

variable {answer : (q : RetryStep) → σ → q.Answer ε α × σ} {s : σ} {number : UInt32}
  (interval : Nat) (limit : UInt32)

/-- An attempt that succeeds is the last one, and there is no pause after it. -/
theorem attemptFrom_ok {a : α} (h : (answer (.attempt number) s).1 = .ok a) :
    let d := attemptFrom interval number (limit.toNat - number.toNat)
    d.run answer s = (.ok a, (answer (.attempt number) s).2) ∧
      d.transcript answer s = [.attempt number] := by
  intro d
  rw [show d = _ from attemptFrom_eq interval limit number]
  simp only [Dialogue.run, Dialogue.transcript, h, and_self]

/-- The last attempt that is allowed ends with its own error. -/
theorem attemptFrom_spent {limit : UInt32} {e : ε} (h : (answer (.attempt number) s).1 = .error e)
    (last : limit ≤ number) :
    let d := attemptFrom interval number (limit.toNat - number.toNat)
    d.run answer s = (.error ⟨number, e⟩, (answer (.attempt number) s).2) ∧
      d.transcript answer s = [.attempt number] := by
  intro d
  rw [show d = _ from attemptFrom_eq interval limit number]
  simp only [Dialogue.run, Dialogue.transcript, h, if_pos last, and_self]

/-- After an attempt that fails there is a pause and another attempt, if one is left. -/
theorem attemptFrom_further {limit : UInt32} {e : ε} (h : (answer (.attempt number) s).1 = .error e)
    (more : ¬ limit ≤ number) :
    let d := attemptFrom interval number (limit.toNat - number.toNat)
    let rest := attemptFrom interval (number + 1) (limit.toNat - (number + 1).toNat)
    let s' := (answer (.pause interval) (answer (.attempt number) s).2).2
    d.run answer s = rest.run answer s' ∧
      d.transcript answer s
        = .attempt number :: .pause interval :: rest.transcript answer s' := by
  intro d rest s'
  rw [show d = _ from attemptFrom_eq interval limit number]
  simp only [Dialogue.run, Dialogue.transcript, h, if_neg more]
  exact ⟨rfl, rfl⟩

end Loop

/-! ### What becomes of the attempts -/

section Attempts

variable (interval : Nat) (answer : (q : RetryStep) → σ → q.Answer ε α × σ) (s : σ)

/-- The state after the given number of attempts, with a pause after each of them. -/
def stateAfter : Nat → σ
  | 0 => s
  | n + 1 => (answer (.pause interval) (answer (.attempt (.ofNat (n + 1))) (stateAfter n)).2).2

/-- How the attempt with the given number turns out when those before it have been made, and the
state that it leaves. -/
def turnOut (n : Nat) : Except ε α × σ :=
  answer (.attempt (.ofNat n)) (stateAfter interval answer s (n - 1))

/-- The attempt with which a retry ends: the first that succeeds, or the last that is allowed. -/
structure IsLast (limit n : Nat) : Prop where
  made : 1 ≤ n ∧ n ≤ limit
  failed : ∀ m, 1 ≤ m → m < n → ∃ e, (turnOut interval answer s m).1 = .error e
  ends : (∃ a, (turnOut interval answer s n).1 = .ok a) ∨ n = limit

/-- The steps of so many attempts, the first of which has the given number: a pause between every
two of them. -/
def steps (first count : Nat) : List RetryStep :=
  ((List.range' first count).map fun n => .attempt (.ofNat n)).intersperse (.pause interval)

theorem turnOut_add_one (n : Nat) : turnOut interval answer s (n + 1)
    = answer (.attempt (.ofNat (n + 1))) (stateAfter interval answer s n) :=
  rfl

theorem steps_add_two (first count : Nat) : steps interval first (count + 2)
    = .attempt (.ofNat first) :: .pause interval :: steps interval (first + 1) (count + 1) :=
  rfl

/-- What is left to do after some attempts goes on to the attempt with the given number, and has the
outcome of this attempt. -/
structure EndsAt (limit : UInt32) (made n : Nat)
    (rest : Dialogue (RetryStep.Answer ε α) (Except (Exhausted ε) α)) : Prop where
  later : made < n
  run : rest.run answer (stateAfter interval answer s made)
    = ((turnOut interval answer s n).1.mapError (⟨limit, ·⟩), (turnOut interval answer s n).2)
  transcript : rest.transcript answer (stateAfter interval answer s made)
    = steps interval (made + 1) (n - made)

variable {interval answer s}

/-- The next attempt is the last one. -/
theorem EndsAt.next {limit : UInt32} {made : Nat}
    {rest : Dialogue (RetryStep.Answer ε α) (Except (Exhausted ε) α)}
    (run : rest.run answer (stateAfter interval answer s made)
      = ((turnOut interval answer s (made + 1)).1.mapError (⟨limit, ·⟩),
        (turnOut interval answer s (made + 1)).2))
    (transcript : rest.transcript answer (stateAfter interval answer s made)
      = [.attempt (.ofNat (made + 1))]) : EndsAt interval answer s limit made (made + 1) rest where
  later := Nat.lt_succ_self made
  run := run
  transcript := by
    rw [transcript, Nat.add_sub_cancel_left]
    rfl

/-- The next attempt is not the last one: a pause follows, and what is then left to do. -/
theorem EndsAt.further {limit : UInt32} {made n : Nat}
    {rest rest' : Dialogue (RetryStep.Answer ε α) (Except (Exhausted ε) α)}
    (h : EndsAt interval answer s limit (made + 1) n rest')
    (run : rest.run answer (stateAfter interval answer s made)
      = rest'.run answer (stateAfter interval answer s (made + 1)))
    (transcript : rest.transcript answer (stateAfter interval answer s made)
      = .attempt (.ofNat (made + 1)) :: .pause interval ::
        rest'.transcript answer (stateAfter interval answer s (made + 1))) :
    EndsAt interval answer s limit made n rest where
  later := Nat.lt_of_succ_lt h.later
  run := run.trans h.run
  transcript := by
    obtain ⟨count, rfl⟩ := Nat.exists_eq_add_of_lt h.later
    have more : made + 1 + count + 1 - made = count + 2 := by omega
    have left : made + 1 + count + 1 - (made + 1) = count + 1 := by omega
    rw [transcript, h.transcript, more, left, steps_add_two]

/-- After attempts that have all failed, the attempts that are left go on to the last one. -/
theorem endsAt_attemptFrom {limit : UInt32} (made : Nat) (h : made < limit.toNat)
    (failed : ∀ m, 1 ≤ m → m ≤ made → ∃ e, (turnOut interval answer s m).1 = .error e) :
    ∃ n, IsLast interval answer s limit.toNat n ∧ EndsAt interval answer s limit made n
      (attemptFrom interval (.ofNat (made + 1))
        (limit.toNat - (UInt32.ofNat (made + 1)).toNat)) := by
  have number : (UInt32.ofNat (made + 1)).toNat = made + 1 :=
    UInt32.toNat_ofNat_of_lt' (Nat.lt_of_le_of_lt h limit.toNat_lt)
  have before : ∀ m, 1 ≤ m → m < made + 1 → ∃ e, (turnOut interval answer s m).1 = .error e :=
    fun m first le => failed m first (Nat.le_of_lt_succ le)
  have tried := turnOut_add_one interval answer s made
  cases turned : (answer (.attempt (.ofNat (made + 1))) (stateAfter interval answer s made)).1 with
  | ok a =>
    obtain ⟨run, transcript⟩ := attemptFrom_ok interval limit turned
    refine ⟨made + 1, ⟨⟨by omega, h⟩, before, .inl ⟨a, turned⟩⟩, .next ?_ transcript⟩
    rw [run, tried, turned]
    rfl
  | error e =>
    by_cases last : limit ≤ UInt32.ofNat (made + 1)
    · have reached : made + 1 = limit.toNat := by
        rw [UInt32.le_iff_toNat_le, number] at last
        omega
      have full : UInt32.ofNat (made + 1) = limit := by rw [reached, UInt32.ofNat_toNat]
      obtain ⟨run, transcript⟩ := attemptFrom_spent interval turned last
      refine ⟨made + 1, ⟨⟨by omega, h⟩, before, .inr reached⟩, .next ?_ transcript⟩
      rw [run, tried, turned, full]
      rfl
    · have further : made + 1 < limit.toNat := by
        rw [UInt32.le_iff_toNat_le, number] at last
        omega
      have counted : UInt32.ofNat (made + 1) + 1 = .ofNat (made + 1 + 1) :=
        (UInt32.ofNat_add _ 1).symm
      have failures : ∀ m, 1 ≤ m → m ≤ made + 1 → ∃ e, (turnOut interval answer s m).1 = .error e :=
        fun m first le => (Nat.lt_or_eq_of_le le).elim (before m first) fun eq => ⟨e, eq ▸ turned⟩
      obtain ⟨n, isLast, ends⟩ := endsAt_attemptFrom (made + 1) further failures
      obtain ⟨run, transcript⟩ := attemptFrom_further interval turned last
      rw [counted] at run transcript
      exact ⟨n, isLast, ends.further run transcript⟩
termination_by limit.toNat - made

end Attempts

/-! ### Counting the steps -/

/-- The numbers of the attempts follow one another. -/
theorem numbers_steps (interval first count : Nat) (h : first + count ≤ UInt32.size) :
    ((steps interval first count).filterMap RetryStep.number?).map UInt32.toNat
      = List.range' first count := by
  induction count generalizing first with
  | zero => rfl
  | succ count ih =>
    have number : (UInt32.ofNat first).toNat = first := UInt32.toNat_ofNat_of_lt' (by omega)
    cases count with
    | zero => exact congrArg ([·]) number
    | succ count =>
      have rest := ih (first + 1) (by omega)
      rw [steps_add_two, List.range'_succ, ← rest]
      exact congrArg (· :: _) number

/-- There is one pause less than there are attempts. -/
theorem pauses_steps (interval first count : Nat) :
    (steps interval first count).filterMap RetryStep.interval?
      = List.replicate (count - 1) interval := by
  induction count generalizing first with
  | zero => rfl
  | succ count ih =>
    cases count with
    | zero => rfl
    | succ count =>
      rw [steps_add_two]
      exact congrArg (interval :: ·) (ih (first + 1))

/-- **Retrying is bounded.**  Whatever state the attempts and the pauses depend on, and however
often is allowed, a retry comes to an end: it makes the attempts from the first to the last of them,
each with its number, pauses between every two, and results in what the last attempt turns out as.
If that is a failure, as many attempts were made as are allowed. -/
theorem attempts_bounded (p : RetryPolicy) (answer : (q : RetryStep) → σ → q.Answer ε α × σ)
    (s : σ) :
    let allowed := max p.maxAttempts.toNat 1
    let result := (p.run.run answer s).1
    let made := p.run.transcript answer s
    ∃ n, IsLast p.interval answer s allowed n ∧
      result = (turnOut p.interval answer s n).1.mapError (⟨.ofNat allowed, ·⟩) ∧
      (UInt32.ofNat allowed).toNat = allowed ∧
      made = steps p.interval 1 n ∧
      (made.filterMap RetryStep.number?).map UInt32.toNat = List.range' 1 n ∧
      made.filterMap RetryStep.interval? = List.replicate (n - 1) p.interval := by
  intro allowed result made
  have limit : p.limit.toNat = allowed := p.toNat_limit
  have limit_eq : p.limit = .ofNat allowed := by rw [← limit, UInt32.ofNat_toNat]
  have positive : 0 < p.limit.toNat := by
    rw [limit]
    exact Nat.lt_of_lt_of_le Nat.one_pos (Nat.le_max_right _ 1)
  have untried : ∀ m, 1 ≤ m → m ≤ 0 → ∃ e, (turnOut p.interval answer s m).1 = .error e :=
    fun m first le => absurd (Nat.le_trans first le) (by decide)
  obtain ⟨n, isLast, ends⟩ := endsAt_attemptFrom 0 positive untried
  have made_eq : made = steps p.interval 1 n := ends.transcript
  have within : 1 + n ≤ UInt32.size := by
    have := Nat.lt_of_le_of_lt isLast.made.2 p.limit.toNat_lt
    simp only [UInt32.size]
    omega
  rw [limit] at isLast
  refine ⟨n, isLast, ?_, by rw [← limit, UInt32.ofNat_toNat], made_eq, ?_, ?_⟩
  · rw [← limit_eq]
    exact congrArg Prod.fst ends.run
  · rw [made_eq, numbers_steps _ _ _ within]
  · rw [made_eq, pauses_steps]

end RetryPolicy

end LogSteward
