import LogSteward.Proofs.Remote.Passage
import LogSteward.Proofs.Retention.Shelf
import LogSteward.Proofs.Retention.Stage

/-!
# Passes that overlap

Any number of passes over one plan may be under way at a time, and their calls reach the store in
any order.  A call may fail on its way: before it has any effect, or after the store has carried it
out (`Passage`).  `Overlap.run` is the run of a schedule that starts passes and lets them make
their next call.

The store converges (`overlap_converges`).  What carries the proof is that a pass writes nothing
but the planned documents, so that no call of one pass undoes what another one has seen to: a
policy that meets its entry goes on to meet it, and every pass is at a stage at which the entries
before the present one are met (`Standing`).  `Discipline` is the induction over schedules, done
once for whatever the passes keep.
-/

namespace LogSteward

/-! ### Calls on their way -/

/-- The answer to a call as it arrives, and the policies it leaves. -/
def PolicyShelf.reply (shelf : PolicyShelf) (w : Passage) (q : PolicyCall) :
    q.Answer × PolicyShelf :=
  match w with
  | .clear => shelf.answer q
  | .lost e => (FaultyShelf.failure e q, shelf)
  | .unheard e => (FaultyShelf.failure e q, (shelf.answer q).2)

/-- A pass under way. -/
structure Pass where
  /-- What is still to come of it. -/
  rest : PolicyDialogue (Except PolicyError (List CategoryOutcome))
  /-- The calls it has made, in order. -/
  calls : List PolicyCall := []
  /-- Whether none of them has failed. -/
  unhurt : Bool := true

namespace Pass

/-- The pass after its next call, and the policies that the call leaves.  A pass that is over stays
as it is. -/
def advance (pass : Pass) (w : Passage) (shelf : PolicyShelf) : Pass × PolicyShelf :=
  match pass.rest with
  | .done _ => (pass, shelf)
  | .ask q next =>
    let (r, shelf') := shelf.reply w q
    ( { rest := next r, calls := pass.calls ++ [q], unhurt := pass.unhurt && w = .clear }, shelf')

end Pass

/-- A pass of which a call has failed remains one. -/
theorem Pass.unhurt_of_advance {pass : Pass} {w : Passage} {shelf : PolicyShelf}
    (h : (pass.advance w shelf).1.unhurt = true) : pass.unhurt = true := by
  unfold advance at h
  split at h
  · exact h
  · exact (Bool.and_eq_true_iff.mp h).1

/-- A store of policies and the passes that have been started, in the order of their start. -/
structure Overlap where
  shelf : PolicyShelf
  passes : List Pass := []

namespace Overlap

/-- What happens next. -/
inductive Move where
  /-- A further pass is started. -/
  | start
  /-- The pass of the given number makes its next call. -/
  | advance (i : Nat) (w : Passage)
deriving DecidableEq

def step (p : Plan) (s : Overlap) : Move → Overlap
  | .start => { s with passes := s.passes ++ [{ rest := p.reconcile }] }
  | .advance i w =>
    match s.passes[i]? with
    | none => s
    | some pass =>
      let (pass', shelf) := pass.advance w s.shelf
      { shelf, passes := s.passes.set i pass' }

/-- The run of a schedule. -/
def run (p : Plan) (s : Overlap) (ms : List Move) : Overlap :=
  ms.foldl (step p) s

end Overlap

/-! ### What one call of a pass does -/

/-- What a pass at a stage may do: the call, the stage it leads to and the policies it leaves. -/
inductive Stage.Step (shelf : PolicyShelf) :
    Passage → Stage → PolicyCall → Stage → PolicyShelf → Prop where
  /-- The policy meets its entry. -/
  | keep {past : List CategoryOutcome} {e : PlannedPolicy} {todo : List PlannedPolicy}
      (h : shelf.Meets e) :
      Step shelf .clear (.fetching past (e :: todo)) (.get e.name)
        (.fetching (past ++ [⟨e.category, .unchanged⟩]) todo) shelf
  /-- The policy is not there, does not meet its entry, or cannot be fetched. -/
  | find {w : Passage} {past : List CategoryOutcome} {e : PlannedPolicy}
      {todo : List PlannedPolicy} (o : PolicyOutcome) (h : w = .clear → ¬ shelf.Meets e) :
      Step shelf w (.fetching past (e :: todo)) (.get e.name) (.writing past e o todo) shelf
  | giveUp {w : Passage} {past : List CategoryOutcome} {e : PlannedPolicy}
      {todo : List PlannedPolicy} (err : PolicyError) (h : w ≠ .clear) :
      Step shelf w (.fetching past (e :: todo)) (.get e.name) (.failed err) shelf
  | write {past : List CategoryOutcome} {e : PlannedPolicy} {o : PolicyOutcome}
      {todo : List PlannedPolicy} :
      Step shelf .clear (.writing past e o todo) (.put e.name e.document)
        (.fetching (past ++ [⟨e.category, o⟩]) todo) (shelf.insert e.name e.document)
  | abort {w : Passage} {past : List CategoryOutcome} {e : PlannedPolicy} {o : PolicyOutcome}
      {todo : List PlannedPolicy} (err : PolicyError) (shelf' : PolicyShelf) (h : w ≠ .clear)
      (h' : shelf' = shelf ∨ shelf' = shelf.insert e.name e.document) :
      Step shelf w (.writing past e o todo) (.put e.name e.document) (.failed err) shelf'

namespace Stage

/-- A fetch that fails leads to a write, if it says that there is no policy, or to failure. -/
theorem step_fetch_error {shelf : PolicyShelf} {w : Passage} (hw : w ≠ .clear)
    (past : List CategoryOutcome) (e : PlannedPolicy) (todo : List PlannedPolicy)
    (err : RemoteError) :
    Step shelf w (.fetching past (e :: todo)) (.get e.name) (afterFetch past e todo (.error err))
      shelf := by
  by_cases h : err.isNotFound = true
  · rw [afterFetch, if_pos h]
    exact .find _ fun h' => absurd h' hw
  · rw [afterFetch, if_neg h]
    exact .giveUp _ hw

/-- A policy is fetched, and the stage after it depends on the reply. -/
theorem step_fetching (shelf : PolicyShelf) (w : Passage) (past : List CategoryOutcome)
    (e : PlannedPolicy) (todo : List PlannedPolicy) :
    Step shelf w (.fetching past (e :: todo)) (.get e.name)
      (afterFetch past e todo (shelf.reply w (.get e.name)).1) (shelf.reply w (.get e.name)).2 := by
  have unmoved : (shelf.answer (.get e.name)).2 = shelf := by
    simp only [PolicyShelf.answer]
    split <;> rfl
  cases w with
  | clear =>
      simp only [PolicyShelf.reply, unmoved]
      cases h : shelf[e.name]? with
      | none =>
          have hm : ¬ shelf.Meets e := by simp [PolicyShelf.Meets, h]
          simp only [PolicyShelf.answer, h]
          exact .find _ fun _ => hm
      | some d =>
          have hm : shelf.Meets e ↔ d.thresholds = e.thresholds := by
            simp [PolicyShelf.Meets, h]
          simp only [PolicyShelf.answer, h, afterFetch]
          split
          · next hd => exact .keep (hm.mpr hd)
          · next hd => exact .find _ fun _ => mt hm.mp hd
  | lost err => exact step_fetch_error (by simp) past e todo err
  | unheard err =>
      simp only [PolicyShelf.reply, unmoved]
      exact step_fetch_error (by simp) past e todo err

/-- A policy is written, and the stage after it depends on the reply. -/
theorem step_writing (shelf : PolicyShelf) (w : Passage) (past : List CategoryOutcome)
    (e : PlannedPolicy) (o : PolicyOutcome) (todo : List PlannedPolicy) :
    Step shelf w (.writing past e o todo) (.put e.name e.document)
      (afterWrite past e o todo (shelf.reply w (.put e.name e.document)).1)
      (shelf.reply w (.put e.name e.document)).2 := by
  cases w with
  | clear => exact .write
  | lost err => exact .abort _ _ (by simp) (.inl rfl)
  | unheard err => exact .abort _ _ (by simp) (.inr rfl)

end Stage

/-- **One call of a pass.**  A pass at a stage is over, or makes one of the steps of its stage. -/
theorem Pass.advance_cases {pass : Pass} {st : Stage} (h : pass.rest = st.rest) (w : Passage)
    (shelf : PolicyShelf) :
    (∃ r, pass.rest = .done r ∧ pass.advance w shelf = (pass, shelf)) ∨
    ∃ q st' shelf', st.Step shelf w q st' shelf' ∧
      pass.advance w shelf
        = ({ rest := st'.rest, calls := pass.calls ++ [q], unhurt := pass.unhurt && w = .clear },
          shelf') := by
  cases st with
  | fetching past todo =>
      cases todo with
      | nil =>
          rw [Stage.rest_fetching_nil] at h
          exact .inl ⟨_, h, by simp only [advance, h]⟩
      | cons e todo =>
          rw [Stage.rest_fetching_cons] at h
          exact .inr ⟨_, _, _, Stage.step_fetching shelf w past e todo, by simp only [advance, h]⟩
  | writing past e o todo =>
      rw [Stage.rest_writing] at h
      exact .inr ⟨_, _, _, Stage.step_writing shelf w past e o todo, by simp only [advance, h]⟩
  | failed err =>
      exact .inl ⟨_, h, by simp only [advance, h, Stage.rest_failed]⟩

/-! ### What one pass does to the others -/

/-- The policies are left alone, or the document of an entry is put. -/
def Plan.Touches (p : Plan) (shelf shelf' : PolicyShelf) : Prop :=
  shelf' = shelf ∨ ∃ e ∈ p.entries, shelf' = shelf.insert e.name e.document

/-- Whatever meets the plan keeps meeting it when a pass touches the shelf. -/
theorem Plan.Touches.meets {p : Plan} (hp : p.Unambiguous) {shelf shelf' : PolicyShelf}
    (h : p.Touches shelf shelf') {e : PlannedPolicy} (he : e ∈ p.entries) (hm : shelf.Meets e) :
    shelf'.Meets e := by
  obtain rfl | ⟨e', he', rfl⟩ := h
  · exact hm
  · exact hm.insert (hp e' he' e he)

/-- A policy for which there is no entry is not touched. -/
theorem Plan.Touches.getElem?_eq {p : Plan} {shelf shelf' : PolicyShelf}
    (h : p.Touches shelf shelf') {n : String} (hn : ∀ e ∈ p.entries, e.name ≠ n) :
    shelf'[n]? = shelf[n]? := by
  obtain rfl | ⟨e, he, rfl⟩ := h
  · rfl
  · exact PolicyShelf.getElem?_insert_of_ne (hn e he) _ _

/-- The entries that a stage has behind it: those of the plan before the one it is at. -/
def Stage.Behind (p : Plan) (seen : List PlannedPolicy) : Stage → Prop
  | fetching _ todo => p.entries = seen ++ todo
  | writing _ e _ todo => p.entries = seen ++ e :: todo
  | failed _ => seen <+: p.entries

/-- What a pass has seen is the beginning of the plan. -/
theorem Stage.Behind.isPrefix {p : Plan} {seen : List PlannedPolicy} {st : Stage}
    (h : st.Behind p seen) : seen <+: p.entries := by
  cases st with
  | fetching past todo => exact ⟨todo, h.symm⟩
  | writing past e o todo => exact ⟨e :: todo, h.symm⟩
  | failed err => exact h

/-- The pass is at a stage of the plan, and the policies of the entries behind it meet them. -/
def Standing (p : Plan) (shelf : PolicyShelf) (pass : Pass) : Prop :=
  ∃ st seen, pass.rest = Stage.rest st ∧ st.Behind p seen ∧ ∀ e ∈ seen, shelf.Meets e

theorem standing_start (p : Plan) (shelf : PolicyShelf) :
    Standing p shelf { rest := p.reconcile } :=
  ⟨.fetching [] p.entries, [], p.reconcile_eq_rest, rfl, by simp⟩

/-- What one pass has brought about stays when another one touches the shelf. -/
theorem Standing.touch {p : Plan} (hp : p.Unambiguous) {shelf shelf' : PolicyShelf} {pass : Pass}
    (h : Standing p shelf pass) (ht : p.Touches shelf shelf') : Standing p shelf' pass := by
  obtain ⟨st, seen, hr, hb, hm⟩ := h
  exact ⟨st, seen, hr, hb, fun e he => ht.meets hp (hb.isPrefix.subset he) (hm e he)⟩

/-- A step of a stage leaves the policies alone or puts the document of an entry, and the entries
behind the stage it leads to meet theirs. -/
theorem Stage.Step.behind {p : Plan} (hp : p.Unambiguous) {shelf shelf' : PolicyShelf}
    {w : Passage} {st st' : Stage} {q : PolicyCall} (h : st.Step shelf w q st' shelf')
    {seen : List PlannedPolicy} (hb : st.Behind p seen) (hm : ∀ e ∈ seen, shelf.Meets e) :
    p.Touches shelf shelf' ∧ ∃ seen', st'.Behind p seen' ∧ ∀ e ∈ seen', shelf'.Meets e := by
  cases h with
  | @keep past e todo he =>
      refine ⟨.inl rfl, seen ++ [e], ?_, ?_⟩
      · simpa [Behind] using hb
      · simpa [or_imp, forall_and] using ⟨hm, he⟩
  | find o _ => exact ⟨.inl rfl, seen, hb, hm⟩
  | giveUp err _ => exact ⟨.inl rfl, seen, hb.isPrefix, hm⟩
  | @write past e o todo =>
      -- the entries behind the pass were met before the write, and it spoils none of them
      have hb' : (fetching (past ++ [⟨e.category, o⟩]) todo).Behind p (seen ++ [e]) := by
        simpa [Behind] using hb
      have ht : p.Touches shelf (shelf.insert e.name e.document) :=
        .inr ⟨e, hb'.isPrefix.subset (by simp), rfl⟩
      refine ⟨ht, seen ++ [e], hb', fun d hd => ?_⟩
      rcases List.mem_append.mp hd with hd' | hd'
      · exact ht.meets hp (hb'.isPrefix.subset hd) (hm d hd')
      · rw [List.mem_singleton.mp hd']
        exact shelf.meets_insert e
  | @abort _ past e o todo err _ _ h' =>
      have he : e ∈ p.entries := by simp [show p.entries = seen ++ e :: todo from hb]
      have ht : p.Touches shelf shelf' := h'.imp id fun h' => ⟨e, he, h'⟩
      exact ⟨ht, seen, hb.isPrefix,
        fun d hd => ht.meets hp (hb.isPrefix.subset hd) (hm d hd)⟩

/-- A pass that goes on keeps its standing, and touches the shelf only as planned. -/
theorem Standing.advance {p : Plan} (hp : p.Unambiguous) {shelf : PolicyShelf} {pass : Pass}
    (h : Standing p shelf pass) (w : Passage) :
    p.Touches shelf (pass.advance w shelf).2 ∧
      Standing p (pass.advance w shelf).2 (pass.advance w shelf).1 := by
  obtain ⟨st, seen, hr, hb, hm⟩ := h
  obtain ⟨r, -, ha⟩ | ⟨q, st', shelf', hs, ha⟩ := Pass.advance_cases hr w shelf
  · rw [ha]
    exact ⟨.inl rfl, st, seen, hr, hb, hm⟩
  · rw [ha]
    obtain ⟨ht, seen', hb', hm'⟩ := hs.behind hp hb hm
    exact ⟨ht, st', seen', rfl, hb', hm'⟩

/-- When a pass has returned success, the policies of all entries meet them. -/
theorem Standing.met {p : Plan} {shelf : PolicyShelf} {pass : Pass} (h : Standing p shelf pass)
    {os : List CategoryOutcome} (hd : pass.rest = .done (.ok os)) :
    ∀ e ∈ p.entries, shelf.Meets e := by
  obtain ⟨st, seen, hr, hb, hm⟩ := h
  rw [hd] at hr
  cases st with
  | failed err => cases hr
  | writing past e o todo =>
      rw [Stage.rest_writing] at hr
      cases hr
  | fetching past todo =>
      cases todo with
      | nil =>
          rw [show p.entries = seen ++ [] from hb, List.append_nil]
          exact hm
      | cons e todo =>
          rw [Stage.rest_fetching_cons] at hr
          cases hr

/-! ### Passes that find everything in place -/

/-- The pass has only fetched, and found all it fetched unchanged: it is about to fetch the policy
of the next entry, or it is over. -/
def Quiet (p : Plan) (pass : Pass) : Prop :=
  ∃ seen todo, p.entries = seen ++ todo ∧
    pass.calls = seen.map (fun e => .get e.name) ∧
    match todo with
    | [] => pass.rest = .done (.ok (seen.map fun e => ⟨e.category, .unchanged⟩))
    | e :: _ => ∃ next, pass.rest = .ask (.get e.name) next

/-- As long as none of its calls fails, the pass goes from fetch to fetch. -/
def Idle (p : Plan) (pass : Pass) : Prop :=
  pass.unhurt = true → ∃ seen todo, p.entries = seen ++ todo ∧
    pass.calls = seen.map (fun e => .get e.name) ∧
    pass.rest = (Stage.fetching (seen.map fun e => ⟨e.category, .unchanged⟩) todo).rest

theorem idle_start (p : Plan) : Idle p { rest := p.reconcile } :=
  fun _ => ⟨[], p.entries, rfl, rfl, p.reconcile_eq_rest⟩

/-- Where everything meets the plan, a pass goes on without a write. -/
theorem Idle.advance {p : Plan} {shelf : PolicyShelf} (hm : ∀ e ∈ p.entries, shelf.Meets e)
    {pass : Pass} (h : Idle p pass) (w : Passage) : Idle p (pass.advance w shelf).1 := by
  by_cases hu : pass.unhurt = true
  · obtain ⟨seen, todo, hp, hc, hr⟩ := h hu
    obtain ⟨r, -, ha⟩ | ⟨q, st', shelf', hs, ha⟩ := Pass.advance_cases hr w shelf
    · rw [ha]
      exact h
    · rw [ha]
      intro hu'
      obtain ⟨-, hw⟩ : pass.unhurt = true ∧ w = .clear := by simpa using hu'
      cases hs with
      | @keep _ e todo _ =>
          exact ⟨seen ++ [e], todo, by simpa using hp, by simp [hc], by simp⟩
      | @find _ _ e todo o h => exact absurd (hm e (by simp [hp])) (h hw)
      | giveUp err h => exact absurd hw h
  · exact fun hu' => absurd (Pass.unhurt_of_advance hu') hu

/-- An idle pass none of whose calls has failed has only fetched, and found everything in place. -/
theorem Idle.quiet {p : Plan} {pass : Pass} (h : Idle p pass) (hu : pass.unhurt = true) :
    Quiet p pass := by
  obtain ⟨seen, todo, hp, hc, hr⟩ := h hu
  refine ⟨seen, todo, hp, hc, ?_⟩
  cases todo with
  | nil => rw [hr, Stage.rest_fetching_nil]
  | cons e todo => exact ⟨_, by rw [hr, Stage.rest_fetching_cons]⟩

/-! ### Whole schedules -/

/-- What the policies (`Inv`) and every pass (`Own`, of its number) keep, whatever the passes do:
it holds of a pass that is started, the pass keeps it when it advances, and it is not spoilt by the
other passes. -/
structure Discipline (p : Plan) (Inv : PolicyShelf → Prop) (Own : Nat → PolicyShelf → Pass → Prop) :
    Prop where
  calm {shelf shelf' : PolicyShelf} : Inv shelf → p.Touches shelf shelf' → Inv shelf'
  start {i : Nat} {shelf : PolicyShelf} : Inv shelf → Own i shelf { rest := p.reconcile }
  touch {i : Nat} {shelf shelf' : PolicyShelf} {pass : Pass} :
    Own i shelf pass → p.Touches shelf shelf' → Own i shelf' pass
  advance {i : Nat} {shelf : PolicyShelf} {pass : Pass} (w : Passage) :
    Inv shelf → Own i shelf pass → p.Touches shelf (pass.advance w shelf).2 ∧
      Own i (pass.advance w shelf).2 (pass.advance w shelf).1

/-- The policies and all passes keep what they are to keep. -/
def Overlap.Keeps (Inv : PolicyShelf → Prop) (Own : Nat → PolicyShelf → Pass → Prop)
    (s : Overlap) : Prop :=
  Inv s.shelf ∧ ∀ i pass, s.passes[i]? = some pass → Own i s.shelf pass

namespace Discipline

variable {p : Plan} {Inv : PolicyShelf → Prop} {Own : Nat → PolicyShelf → Pass → Prop}

/-- One move keeps the discipline of all passes. -/
theorem step (d : Discipline p Inv Own) {s : Overlap} (h : s.Keeps Inv Own) (m : Overlap.Move) :
    (Overlap.step p s m).Keeps Inv Own := by
  obtain ⟨hi, ho⟩ := h
  cases m with
  | start =>
      refine ⟨hi, fun i pass hpass => ?_⟩
      simp only [Overlap.step, List.getElem?_append] at hpass
      split at hpass
      · exact ho i pass hpass
      · rw [List.getElem?_singleton] at hpass
        split at hpass
        · cases hpass
          exact d.start hi
        · cases hpass
  | advance j w =>
      simp only [Overlap.step]
      cases hj : s.passes[j]? with
      | none => exact ⟨hi, ho⟩
      | some moved =>
          obtain ⟨ht, hm⟩ := d.advance w hi (ho j moved hj)
          refine ⟨d.calm hi ht, fun i pass hpass => ?_⟩
          rcases eq_or_ne j i with rfl | hne
          · have hlt : j < s.passes.length := (List.getElem?_eq_some_iff.mp hj).1
            rw [List.getElem?_set_self hlt] at hpass
            cases hpass
            exact hm
          · rw [List.getElem?_set_ne hne] at hpass
            exact d.touch (ho i pass hpass) ht

/-- Any schedule of moves keeps the discipline of all passes. -/
theorem run (d : Discipline p Inv Own) {s : Overlap} (h : s.Keeps Inv Own)
    (ms : List Overlap.Move) : (Overlap.run p s ms).Keeps Inv Own := by
  induction ms generalizing s with
  | nil => exact h
  | cons m ms ih => exact ih (d.step h m)

end Discipline

/-- Every pass of an unambiguous plan stands at a stage of it, next to whatever is kept of the
policies. -/
theorem discipline_standing {p : Plan} (hp : p.Unambiguous) {Inv : PolicyShelf → Prop}
    (calm : ∀ shelf shelf', Inv shelf → p.Touches shelf shelf' → Inv shelf') :
    Discipline p Inv fun _ => Standing p where
  calm h ht := calm _ _ h ht
  start _ := standing_start p _
  touch h ht := h.touch hp ht
  advance w _ h := h.advance hp w

/-- Once the policies meet all entries, passes that are started are idle. -/
theorem discipline_idle {p : Plan} (hp : p.Unambiguous) (n : Nat) :
    Discipline p (fun shelf => ∀ e ∈ p.entries, shelf.Meets e) fun i shelf pass =>
      Standing p shelf pass ∧ (n ≤ i → Idle p pass) where
  calm h ht e he := ht.meets hp he (h e he)
  start _ := ⟨standing_start p _, fun _ => idle_start p⟩
  touch h ht := ⟨h.1.touch hp ht, h.2⟩
  advance w hm h := ⟨(h.1.advance hp w).1, (h.1.advance hp w).2, fun hi => (h.2 hi).advance hm w⟩

namespace Overlap

/-- Passes that have been started stay where they are in the order of their start. -/
theorem keeps_standing_run {p : Plan} (hp : p.Unambiguous) (shelf : PolicyShelf)
    (ms : List Move) : (run p { shelf } ms).Keeps (fun _ => True) fun _ => Standing p :=
  (discipline_standing hp fun _ _ _ _ => trivial).run ⟨trivial, by simp⟩ ms

/-- **Convergence.**  Any number of passes over the plan for storage settings overlap, in any
order of their calls and with any calls failing, from any policies:
* a policy that is none of a category's stays as it is;
* a policy that meets its entry goes on to meet it;
* from when one pass has returned success on, all policies meet their entries, and a pass that is
  started later and of which no call fails only fetches and finds every policy unchanged. -/
theorem overlap_converges (settings : StorageSettings) (shelf : PolicyShelf) (ms : List Move) :
    let p := Plan.ofSettings settings
    let here := run p { shelf } ms
    (∀ n, (∀ c : Category, c.policyName ≠ n) → here.shelf[n]? = shelf[n]?) ∧
    (∀ e ∈ p.entries, here.shelf.Meets e → ∀ ms', (run p here ms').shelf.Meets e) ∧
    ∀ pass ∈ here.passes, ∀ os, pass.rest = .done (.ok os) → ∀ ms',
      let there := run p here ms'
      (∀ e ∈ p.entries, there.shelf.Meets e) ∧
      ∀ i later, here.passes.length ≤ i → there.passes[i]? = some later → later.unhurt = true →
        Quiet p later := by
  intro p here
  have hp : p.Unambiguous := Plan.unambiguous_ofSettings settings
  have hs : here.Keeps (fun _ => True) fun _ => Standing p := keeps_standing_run hp shelf ms
  refine ⟨fun n hn => ?_, fun e he hm ms' => ?_, fun pass hpass os hd ms' => ?_⟩
  · have other : ∀ e ∈ p.entries, e.name ≠ n := fun e _ => hn e.category
    exact ((discipline_standing hp fun _ _ h ht => (ht.getElem?_eq other).trans h).run
      ⟨rfl, by simp⟩ ms).1
  · exact ((discipline_standing hp fun _ _ h ht => ht.meets hp he h).run ⟨hm, hs.2⟩ ms').1
  · obtain ⟨j, hj⟩ := List.getElem?_of_mem hpass
    have hmet : ∀ e ∈ p.entries, here.shelf.Meets e := (hs.2 j pass hj).met hd
    -- nothing is asked yet of the passes to come, whose numbers are not given out
    have unborn : ∀ i pass, here.passes[i]? = some pass → ¬ here.passes.length ≤ i :=
      fun i pass hi => by have := (List.getElem?_eq_some_iff.mp hi).1; omega
    obtain ⟨hm, ho⟩ := (discipline_idle hp here.passes.length).run
      ⟨hmet, fun i pass hi => ⟨hs.2 i pass hi, fun hlt => absurd hlt (unborn i pass hi)⟩⟩ ms'
    exact ⟨hm, fun i later hi hl hu => ((ho i later hl).2 hi).quiet hu⟩

/-- A schedule of one pass to whose fetches the answer gets lost, each reported as if there were no
policy. -/
def blindPass : List Move :=
  .start :: (List.replicate 10
    [.advance 0 (.lost ⟨.policyGet, .notFound ""⟩), .advance 0 .clear]).flatten

/-- A pass that fetches nothing but writes all policies returns success, and a pass after it, while
the first one is asked to go on, leaves all policies meeting their entries. -/
theorem overlap_converges_blindPass :
    ∃ pass ∈ (run (Plan.ofSettings {}) { shelf := {} } blindPass).passes,
      pass.rest = .done (.ok (Category.catalogue.map (⟨·, .created⟩))) ∧
      ∀ e ∈ (Plan.ofSettings {}).entries,
        (run (Plan.ofSettings {}) (run (Plan.ofSettings {}) { shelf := {} } blindPass)
          [.start, .advance 1 .clear, .advance 0 .clear, .advance 1 .clear]).shelf.Meets e := by
  have hd : ∃ pass ∈ (run (Plan.ofSettings {}) { shelf := {} } blindPass).passes,
      pass.rest = .done (.ok (Category.catalogue.map (⟨·, .created⟩))) :=
    ⟨_, .head _, rfl⟩
  obtain ⟨pass, hpass, hr⟩ := hd
  exact ⟨pass, hpass, hr, ((overlap_converges {} {} blindPass).2.2 pass hpass _ hr _).1⟩

end Overlap

end LogSteward
