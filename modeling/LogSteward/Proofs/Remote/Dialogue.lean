import LogSteward.Remote.Dialogue

/-!
# What a dialogue asks, and who answers it

`Asks P d` says of a dialogue that every question it may come to ask satisfies `P`, whatever the
answers are.  A run depends on the party that answers only through the answers: two parties whose
states stay related while they answer alike give the same result, hear the same questions and end
in related states (`run_simulates`).

A dialogue that is carried out in terms of other questions (`interpret`) is a run with the party
that answers each question by holding the dialogue it is put as (`run_interpret`).

`turns` keeps the answers that a run hears beside its questions, and `states` the states that the
party is in on the way.
-/

namespace LogSteward.Dialogue

variable {Q R : Type} {A : Q → Type} {B : R → Type} {α β σ τ : Type}

/-- Every question that may be asked satisfies `P`, whatever the answers are. -/
def Asks (P : Q → Prop) : Dialogue A α → Prop
  | done _ => True
  | ask q next => P q ∧ ∀ r, (next r).Asks P

theorem Asks.mono {P P' : Q → Prop} (h : ∀ q, P q → P' q) {d : Dialogue A α} (hd : d.Asks P) :
    d.Asks P' := by
  induction d with
  | done a => exact hd
  | ask q next ih => exact ⟨h q hd.1, fun r => ih r (hd.2 r)⟩

theorem asks_anything (d : Dialogue A α) : d.Asks fun _ => True := by
  induction d with
  | done a => trivial
  | ask q next ih => exact ⟨trivial, ih⟩

theorem Asks.andThen {P : Q → Prop} {d : Dialogue A α} {f : α → Dialogue A β} (hd : d.Asks P)
    (hf : ∀ a, (f a).Asks P) : (d.andThen f).Asks P := by
  induction d with
  | done a => exact hf a
  | ask q next ih => exact ⟨hd.1, fun r => ih r (hd.2 r)⟩

/-- A dialogue that is carried out in terms of other questions asks what each question is put as. -/
theorem asks_interpret {P : R → Prop} {put : (q : Q) → Dialogue B (A q)}
    (h : ∀ q, (put q).Asks P) (d : Dialogue A α) : (d.interpret put).Asks P := by
  induction d with
  | done a => trivial
  | ask q next ih => exact (h q).andThen ih

/-- What no answer to such a question changes, a run keeps. -/
theorem Asks.run_keeps {P : Q → Prop} {I : σ → Prop} {answer : (q : Q) → σ → A q × σ}
    (step : ∀ q s, P q → I s → I (answer q s).2) {d : Dialogue A α} (hd : d.Asks P) {s : σ}
    (h : I s) : I (d.run answer s).2 := by
  induction d generalizing s with
  | done a => exact h
  | ask q next ih => exact ih _ (hd.2 _) (step q s hd.1 h)

/-! ### Questions with their answers -/

/-- A question and the answer to it. -/
abbrev Turn {Q : Type} (A : Q → Type) : Type := (q : Q) × A q

/-- What is asked and answered in a dialogue with a party that answers from a state. -/
def turns (answer : (q : Q) → σ → A q × σ) : Dialogue A α → σ → List (Turn A)
  | done _, _ => []
  | ask q next, s => ⟨q, (answer q s).1⟩ :: (next (answer q s).1).turns answer (answer q s).2

/-- The questions of the turns are the transcript. -/
theorem map_fst_turns (answer : (q : Q) → σ → A q × σ) (d : Dialogue A α) (s : σ) :
    (d.turns answer s).map Sigma.fst = d.transcript answer s := by
  induction d generalizing s with
  | done a => rfl
  | ask q next ih => exact congrArg (q :: ·) (ih _ _)

/-- What goes on after a dialogue is asked and answered after it. -/
theorem turns_andThen (answer : (q : Q) → σ → A q × σ) (d : Dialogue A α) (f : α → Dialogue A β)
    (s : σ) :
    (d.andThen f).turns answer s
      = d.turns answer s ++ (f (d.run answer s).1).turns answer (d.run answer s).2 := by
  induction d generalizing s with
  | done a => rfl
  | ask q next ih => exact congrArg (_ :: ·) (ih _ _)

/-! ### The states on the way -/

/-- The states that the party is in during a dialogue, from the first to the last. -/
def states (answer : (q : Q) → σ → A q × σ) : Dialogue A α → σ → List σ
  | done _, s => [s]
  | ask q next, s => s :: (next (answer q s).1).states answer (answer q s).2

/-! ### Two parties that answer alike -/

/-- **Simulation.**  Two parties that answer every question of a dialogue alike, from related
states and leaving related states, are told apart by nothing in it: the results agree, the
questions agree, and the states in the end are related. -/
theorem run_simulates {P : Q → Prop} {answer : (q : Q) → σ → A q × σ}
    {answer' : (q : Q) → τ → A q × τ} {Alike : σ → τ → Prop}
    (step : ∀ q s t, P q → Alike s t →
      (answer q s).1 = (answer' q t).1 ∧ Alike (answer q s).2 (answer' q t).2)
    {d : Dialogue A α} (hd : d.Asks P) {s : σ} {t : τ} (h : Alike s t) :
    (d.run answer s).1 = (d.run answer' t).1 ∧ Alike (d.run answer s).2 (d.run answer' t).2 ∧
      d.transcript answer s = d.transcript answer' t := by
  induction d generalizing s t with
  | done a => exact ⟨rfl, h, rfl⟩
  | ask q next ih =>
      obtain ⟨hr, hs⟩ := step q s t hd.1 h
      obtain ⟨h₁, h₂, h₃⟩ := ih (answer q s).1 (hd.2 _) hs
      rw [hr] at h₁ h₂ h₃
      refine ⟨?_, ?_, ?_⟩
      · simpa only [run, hr] using h₁
      · simpa only [run, hr] using h₂
      · simpa only [transcript, hr] using congrArg (q :: ·) h₃

/-! ### Dialogues carried out in terms of other questions -/

/-- To put questions in terms of others is to be answered in terms of others. -/
theorem run_interpret (put : (q : Q) → Dialogue B (A q)) (answer : (r : R) → σ → B r × σ)
    (d : Dialogue A α) (s : σ) :
    (d.interpret put).run answer s = d.run (fun q s => (put q).run answer s) s := by
  induction d generalizing s with
  | done a => rfl
  | ask q next ih =>
      simp only [interpret, run_andThen, run]
      exact ih _ _

/-- If it depends on a question alone as which questions it is put, the party hears these for
each. -/
theorem transcript_interpret_flatMap {P : Q → Prop} {put : (q : Q) → Dialogue B (A q)}
    {answer : (r : R) → σ → B r × σ} {requests : Q → List R}
    (each : ∀ q s, P q → (put q).transcript answer s = requests q) {d : Dialogue A α}
    (hd : d.Asks P) (s : σ) :
    (d.interpret put).transcript answer s
      = (d.transcript (fun q s => (put q).run answer s) s).flatMap requests := by
  induction d generalizing s with
  | done a => rfl
  | ask q next ih =>
      simp only [interpret, transcript_andThen, transcript, each q s hd.1, List.flatMap_cons]
      exact congrArg (requests q ++ ·) (ih _ (hd.2 _) _)

/-- If every question is put as exactly one other question, the party hears one for each. -/
theorem transcript_interpret {P : Q → Prop} {put : (q : Q) → Dialogue B (A q)}
    {answer : (r : R) → σ → B r × σ} {request : Q → R}
    (single : ∀ q s, P q → (put q).transcript answer s = [request q]) {d : Dialogue A α}
    (hd : d.Asks P) (s : σ) :
    (d.interpret put).transcript answer s
      = (d.transcript (fun q s => (put q).run answer s) s).map request :=
  (transcript_interpret_flatMap single hd s).trans List.map_eq_flatMap.symm

/-! ### Questions that are put as one other question each -/

section Single

variable {put : (q : Q) → Dialogue B (A q)} {request : Q → R}
  {hear : (q : Q) → B (request q) → A q}

/-- What is asked and answered among the other questions is what the dialogue itself asks and hears,
question by question. -/
theorem turns_interpret (single : ∀ q, put q = .ask (request q) fun b => .done (hear q b))
    (answer : (r : R) → σ → B r × σ) (d : Dialogue A α) (s : σ) :
    ∃ heard : List ((q : Q) × B (request q)),
      d.turns (fun q s => (put q).run answer s) s = heard.map (fun h => ⟨h.1, hear h.1 h.2⟩) ∧
        (d.interpret put).turns answer s = heard.map fun h => ⟨request h.1, h.2⟩ := by
  induction d generalizing s with
  | done a => exact ⟨[], rfl, rfl⟩
  | ask q next ih =>
      have heard_once : (put q).run answer s
          = (hear q (answer (request q) s).1, (answer (request q) s).2) := by
        rw [single]
        rfl
      obtain ⟨heard, hd, hi⟩ :=
        ih (hear q (answer (request q) s).1) (answer (request q) s).2
      refine ⟨⟨q, (answer (request q) s).1⟩ :: heard, ?_, ?_⟩
      · simp only [turns, heard_once, hd, List.map_cons]
      · simp only [interpret, single, andThen, turns, hi, List.map_cons]

/-- The last question is put last, and what is put before it are the questions before it. -/
theorem turns_interpret_last (single : ∀ q, put q = .ask (request q) fun b => .done (hear q b))
    (answer : (r : R) → σ → B r × σ) (d : Dialogue A α) (s : σ) {before : List (Turn A)}
    {last : Turn A} (h : d.turns (fun q s => (put q).run answer s) s = before ++ [last]) :
    ∃ (put_before : List (Turn B)) (b : B (request last.1)),
      (d.interpret put).turns answer s = put_before ++ [⟨request last.1, b⟩] ∧
        hear last.1 b = last.2 ∧
        ∀ t ∈ put_before, ∃ q b, t = ⟨request q, b⟩ ∧ ⟨q, hear q b⟩ ∈ before := by
  obtain ⟨heard, hd, hi⟩ := turns_interpret single answer d s
  obtain ⟨heard_before, heard_last, rfl, rfl, hl⟩ := List.map_eq_append_iff.mp (hd.symm.trans h)
  obtain ⟨x, rfl, rfl⟩ := List.map_eq_singleton_iff.mp hl
  refine ⟨heard_before.map fun h => ⟨request h.1, h.2⟩, x.2, by simp [hi], rfl, fun t ht => ?_⟩
  obtain ⟨y, hy, rfl⟩ := List.mem_map.mp ht
  exact ⟨y.1, y.2, rfl, List.mem_map.mpr ⟨y, hy, rfl⟩⟩

end Single

end LogSteward.Dialogue
