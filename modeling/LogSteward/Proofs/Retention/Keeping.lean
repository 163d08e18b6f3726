import Mathlib.Logic.Function.Basic
import LogSteward.Proofs.Retention.Shelf
import LogSteward.Proofs.Retention.Stage

/-!
# Passes over a store that keeps what is put

A store is *honest* about the policies of the categories if a policy it hands out is the one it
holds, if it says of no policy it holds that there is none, and if it holds what it has accepted
(`HonestStore`).  It may refuse any call.

A pass over such a store that returns success has the outcomes that the policies held before it
call for, category by category (`dueFor`), and leaves the store holding the documents that these
outcomes amount to (`settled`).
-/

namespace LogSteward

/-- The outcome that a stored policy calls for. -/
def PolicyOutcome.dueFor (stored : Option Policy) (t : Thresholds) : PolicyOutcome :=
  match stored with
  | none => .created
  | some d =>
    if d.thresholds = t then .unchanged else .updated (d.thresholds.differences t)

namespace PlannedPolicy

/-- What is stored for an entry after it was reconciled. -/
def settled (e : PlannedPolicy) (stored : Option Policy) : Option Policy :=
  if (PolicyOutcome.dueFor stored e.thresholds).wrote then some e.document else stored

/-- The calls by which an entry is reconciled. -/
def calls (e : PlannedPolicy) (stored : Option Policy) : List PolicyCall :=
  .get e.name ::
    if (PolicyOutcome.dueFor stored e.thresholds).wrote then [.put e.name e.document] else []

/-- What is stored after an entry was reconciled has its thresholds. -/
theorem thresholds_settled (e : PlannedPolicy) (stored : Option Policy) :
    (e.settled stored).map Policy.thresholds = some e.thresholds := by
  cases stored with
  | none => simp [settled, PolicyOutcome.dueFor, PolicyOutcome.wrote, document]
  | some d =>
      by_cases h : d.thresholds = e.thresholds <;>
        simp [settled, PolicyOutcome.dueFor, PolicyOutcome.wrote, document, h]

end PlannedPolicy

/-- A store holds the policies `held` of the categories and is honest about them. -/
structure HonestStore {σ : Type} (answer : (q : PolicyCall) → σ → q.Answer × σ)
    (held : σ → Category → Option Policy) : Prop where
  fetch_keeps : ∀ c s, held (answer (.get (Category.policyName c)) s).2 = held s
  fetched : ∀ c s d, (answer (.get (Category.policyName c)) s).1 = .ok d → held s c = some d
  missed : ∀ c s e, (answer (.get (Category.policyName c)) s).1 = .error e →
    e.isNotFound = true → held s c = none
  stored : ∀ c d s, (answer (.put (Category.policyName c) d) s).1 = .ok () →
    held (answer (.put (Category.policyName c) d) s).2 = Function.update (held s) c (some d)

namespace HonestStore

variable {σ : Type} {answer : (q : PolicyCall) → σ → q.Answer × σ}
  {held : σ → Category → Option Policy}

/-- A pass that is about to write and returns success has written. -/
theorem run_writing (h : HonestStore answer held) {past os : List CategoryOutcome}
    {e : PlannedPolicy} {o : PolicyOutcome} {todo : List PlannedPolicy} {s s' : σ}
    (hr : (Stage.writing past e o todo).rest.run answer s = (.ok os, s')) :
    ∃ s₁, (Stage.fetching (past ++ [⟨e.category, o⟩]) todo).rest.run answer s₁ = (.ok os, s') ∧
      (Stage.writing past e o todo).rest.transcript answer s
        = .put e.name e.document ::
          (Stage.fetching (past ++ [⟨e.category, o⟩]) todo).rest.transcript answer s₁ ∧
      held s₁ = Function.update (held s) e.category (some e.document) := by
  rw [Stage.rest_writing] at hr ⊢
  simp only [Dialogue.run, Dialogue.transcript] at hr ⊢
  cases ha : (answer (.put e.name e.document) s).1 with
  | error err =>
      rw [ha] at hr
      cases hr
  | ok u =>
      rw [ha] at hr
      exact ⟨_, hr, rfl, h.stored e.category e.document s ha⟩

/-- A pass that is about to fetch the policy of an entry and returns success has reconciled it. -/
theorem run_fetching_cons (h : HonestStore answer held) {past os : List CategoryOutcome}
    {e : PlannedPolicy} {todo : List PlannedPolicy} {s s' : σ}
    (hr : (Stage.fetching past (e :: todo)).rest.run answer s = (.ok os, s')) :
    ∃ s₁,
      let past' := past ++ [⟨e.category, .dueFor (held s e.category) e.thresholds⟩]
      (Stage.fetching past' todo).rest.run answer s₁ = (.ok os, s') ∧
      (Stage.fetching past (e :: todo)).rest.transcript answer s
        = e.calls (held s e.category)
          ++ (Stage.fetching past' todo).rest.transcript answer s₁ ∧
      held s₁ = Function.update (held s) e.category (e.settled (held s e.category)) := by
  rw [Stage.rest_fetching_cons] at hr ⊢
  simp only [Dialogue.run, Dialogue.transcript] at hr ⊢
  have kept : held (answer (.get e.name) s).2 = held s := h.fetch_keeps e.category s
  cases ha : (answer (.get e.name) s).1 with
  | ok d =>
      have hs : held s e.category = some d := h.fetched e.category s d ha
      rw [ha] at hr
      by_cases hd : d.thresholds = e.thresholds
      · simp only [Stage.afterFetch, if_pos hd] at hr ⊢
        refine ⟨(answer (.get e.name) s).2, ?_⟩
        simp only [hs, PolicyOutcome.dueFor, if_pos hd, PlannedPolicy.calls,
          PlannedPolicy.settled, PolicyOutcome.wrote, kept]
        exact ⟨hr, rfl, by rw [if_neg Bool.false_ne_true, ← hs, Function.update_eq_self]⟩
      · simp only [Stage.afterFetch, if_neg hd] at hr ⊢
        obtain ⟨s₁, hr₁, ht, hh⟩ := h.run_writing hr
        refine ⟨s₁, ?_⟩
        simp only [hs, PolicyOutcome.dueFor, if_neg hd, PlannedPolicy.calls,
          PlannedPolicy.settled, PolicyOutcome.wrote]
        exact ⟨hr₁, by rw [ht]; rfl, by rw [hh, kept]; rfl⟩
  | error err =>
      rw [ha] at hr
      by_cases hn : err.isNotFound = true
      · have hs : held s e.category = none := h.missed e.category s err ha hn
        simp only [Stage.afterFetch, if_pos hn] at hr ⊢
        obtain ⟨s₁, hr₁, ht, hh⟩ := h.run_writing hr
        refine ⟨s₁, ?_⟩
        simp only [hs, PolicyOutcome.dueFor, PlannedPolicy.calls, PlannedPolicy.settled,
          PolicyOutcome.wrote]
        exact ⟨hr₁, by rw [ht]; rfl, by rw [hh, kept]; rfl⟩
      · simp only [Stage.afterFetch, if_neg hn] at hr
        cases hr

/-- **A pass over distinct categories** that returns success: its outcomes, its calls, and what is
stored after it, all by what was stored before it. -/
theorem run_fetching (h : HonestStore answer held) {past os : List CategoryOutcome}
    {todo : List PlannedPolicy} (hd : (todo.map PlannedPolicy.category).Nodup) {s s' : σ}
    (hr : (Stage.fetching past todo).rest.run answer s = (.ok os, s')) :
    os = past ++ todo.map
        (fun e => ⟨e.category, .dueFor (held s e.category) e.thresholds⟩) ∧
      (Stage.fetching past todo).rest.transcript answer s
        = todo.flatMap (fun e => e.calls (held s e.category)) ∧
      (∀ e ∈ todo, held s' e.category = e.settled (held s e.category)) ∧
      ∀ c ∉ todo.map PlannedPolicy.category, held s' c = held s c := by
  induction todo generalizing past s with
  | nil =>
      rw [Stage.rest_fetching_nil] at hr ⊢
      cases hr
      simp [Dialogue.transcript]
  | cons e todo ih =>
      obtain ⟨s₁, hr₁, ht, hh⟩ := h.run_fetching_cons hr
      obtain ⟨hnot, hd'⟩ := List.nodup_cons.mp hd
      obtain ⟨ho, ht', hin, hout⟩ := ih hd' hr₁
      -- the entries that follow are of other categories, whose policies are still as they were
      have same : ∀ e' ∈ todo, held s₁ e'.category = held s e'.category := fun e' he' => by
        rw [hh, Function.update_of_ne]
        exact fun hc => hnot (hc ▸ List.mem_map_of_mem he')
      refine ⟨?_, ?_, ?_, ?_⟩
      · rw [ho, List.map_congr_left fun e' he' => by rw [same e' he']]
        simp
      · rw [ht, ht', List.flatMap_cons]
        congr 1
        exact List.flatMap_congr fun e' he' => by rw [same e' he']
      · intro e' he'
        rcases List.mem_cons.mp he' with rfl | he'
        · rw [hout _ hnot, hh, Function.update_self]
        · rw [hin e' he', same e' he']
      · intro c hc
        simp only [List.map_cons, List.mem_cons, not_or] at hc
        obtain ⟨hne, hc'⟩ := hc
        rw [hout c hc', hh, Function.update_of_ne hne]

end HonestStore

namespace PolicyShelf

/-- A faithful store is honest about what is on it. -/
theorem honest : HonestStore answer fun shelf c => shelf[c.policyName]? where
  fetch_keeps c shelf := by
    simp only [answer]
    split <;> rfl
  fetched c shelf d h := by
    simp only [answer] at h
    split at h
    · next hd => rw [hd, Except.ok.inj h]
    · cases h
  missed c shelf e h _ := by
    simp only [answer] at h
    split at h
    · cases h
    · next hd => exact hd
  stored c d shelf _ := shelf.getElem?_insert_policyName c d

/-- A pass over a faithful store returns success. -/
theorem run_fetching_ok (past : List CategoryOutcome) (todo : List PlannedPolicy)
    (shelf : PolicyShelf) :
    ∃ os shelf', (Stage.fetching past todo).rest.run answer shelf = (.ok os, shelf') := by
  induction todo generalizing past shelf with
  | nil => exact ⟨past, shelf, by rw [Stage.rest_fetching_nil]; rfl⟩
  | cons e todo ih =>
      rw [Stage.rest_fetching_cons]
      simp only [Dialogue.run, answer]
      cases hs : shelf[e.name]? with
      | none =>
          simp only [Stage.afterFetch, RemoteError.isNotFound, if_true, Stage.rest_writing]
          exact ih _ _
      | some d =>
          by_cases hd : d.thresholds = e.thresholds
          · simp only [Stage.afterFetch, if_pos hd]
            exact ih _ _
          · simp only [Stage.afterFetch, if_neg hd, Stage.rest_writing]
            exact ih _ _

/-- A store that keeps what is put lets every pass come to its end. -/
theorem run_reconcile_ok (p : Plan) (shelf : PolicyShelf) :
    ∃ os shelf', p.reconcile.run answer shelf = (.ok os, shelf') := by
  rw [p.reconcile_eq_rest]
  exact run_fetching_ok [] p.entries shelf

end PolicyShelf

end LogSteward
