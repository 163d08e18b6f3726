import LogSteward.Retention.Reconcile

/-!
# Where a pass stands

Between two of its calls a pass stands in one of few places: it is about to fetch the policy of
the first entry that is left (`fetching`), it has found that the policy of an entry has to be
written and is about to do so (`writing`), or it has failed (`failed`).  A pass that has nothing
left to fetch is over.

`Stage.rest` is the part of the pass that is still to come.  `rest_fetching_cons` and
`rest_writing` say which call comes next and at which stage each answer leaves the pass
(`afterFetch`, `afterWrite`); everything a pass can do follows from these two.
-/

namespace LogSteward

/-- How a policy is brought in line once it has been fetched. -/
def reconcileFetched (name : String) (t : Thresholds) :
    Except RemoteError Policy → PolicyDialogue (Except PolicyError PolicyOutcome)
  | .ok stored =>
    if stored.thresholds = t then .done (.ok .unchanged)
    else writePolicy name t (.updated (stored.thresholds.differences t))
  | .error e =>
    if e.isNotFound then writePolicy name t .created
    else .done (.error ⟨.policyGet, name, e⟩)

/-- A policy is fetched, and written unless its thresholds are those given. -/
theorem reconcilePolicy_eq (name : String) (t : Thresholds) :
    reconcilePolicy name t = .ask (.get name) (reconcileFetched name t) := by
  rw [reconcilePolicy]
  congr 1
  funext r
  cases r with
  | ok stored =>
      dsimp only
      by_cases h : stored.thresholds = t
      · rw [reconcileFetched, if_pos h, Thresholds.differences_eq_nil_iff.mpr h]
      · rw [reconcileFetched, if_neg h]
        cases hd : stored.thresholds.differences t with
        | nil => exact absurd (Thresholds.differences_eq_nil_iff.mp hd) h
        | cons f fs => rfl
  | error e => rfl

/-- Where a pass stands between two calls.  `past` are the outcomes it has so far. -/
inductive Stage where
  /-- The policies of the entries `todo` are still to be fetched. -/
  | fetching (past : List CategoryOutcome) (todo : List PlannedPolicy)
  /-- The policy of `e` is to be written, with outcome `o`, before `todo` is gone on with. -/
  | writing (past : List CategoryOutcome) (e : PlannedPolicy) (o : PolicyOutcome)
      (todo : List PlannedPolicy)
  | failed (err : PolicyError)

namespace Stage

/-- Puts the outcomes of a pass after earlier ones. -/
def collect (past : List CategoryOutcome) :
    Except PolicyError (List CategoryOutcome) →
      PolicyDialogue (Except PolicyError (List CategoryOutcome))
  | .error err => .done (.error err)
  | .ok os => .done (.ok (past ++ os))

/-- Goes on with `todo` after the outcome for a category, unless that is a failure. -/
def carryOn (past : List CategoryOutcome) (c : Category) (todo : List PlannedPolicy) :
    Except PolicyError PolicyOutcome → PolicyDialogue (Except PolicyError (List CategoryOutcome))
  | .error err => .done (.error err)
  | .ok o => (reconcileEntries todo).andThen (collect (past ++ [⟨c, o⟩]))

/-- What is still to come of a pass. -/
def rest : Stage → PolicyDialogue (Except PolicyError (List CategoryOutcome))
  | fetching past todo => (reconcileEntries todo).andThen (collect past)
  | writing past e o todo =>
    (writePolicy e.name e.thresholds o).andThen (carryOn past e.category todo)
  | failed err => .done (.error err)

/-- The stage after the policy of `e` was fetched. -/
def afterFetch (past : List CategoryOutcome) (e : PlannedPolicy) (todo : List PlannedPolicy) :
    Except RemoteError Policy → Stage
  | .ok stored =>
    if stored.thresholds = e.thresholds then fetching (past ++ [⟨e.category, .unchanged⟩]) todo
    else writing past e (.updated (stored.thresholds.differences e.thresholds)) todo
  | .error err =>
    if err.isNotFound then writing past e .created todo
    else failed ⟨.policyGet, e.name, err⟩

/-- The stage after the policy of `e` was written. -/
def afterWrite (past : List CategoryOutcome) (e : PlannedPolicy) (o : PolicyOutcome)
    (todo : List PlannedPolicy) : Except RemoteError Unit → Stage
  | .ok () => fetching (past ++ [⟨e.category, o⟩]) todo
  | .error err => failed ⟨.policyPut, e.name, err⟩

theorem rest_fetching_nil (past : List CategoryOutcome) :
    (fetching past []).rest = .done (.ok past) := by
  simp [rest, reconcileEntries, reconcileEach, Dialogue.andThen, collect]

theorem rest_failed (err : PolicyError) : (failed err).rest = .done (.error err) :=
  rfl

/-- To go on with an entry is to reconcile its policy and to carry on with the others. -/
theorem rest_fetching (past : List CategoryOutcome) (e : PlannedPolicy)
    (todo : List PlannedPolicy) :
    (fetching past (e :: todo)).rest
      = (reconcilePolicy e.name e.thresholds).andThen (carryOn past e.category todo) := by
  simp only [rest, reconcileEntries, reconcileEach, Dialogue.andThen_assoc]
  congr 1
  funext r
  cases r with
  | error err => rfl
  | ok o =>
      simp only [Dialogue.andThen_assoc, carryOn, reconcileEntries]
      congr 1
      funext r
      cases r with
      | error err => rfl
      | ok os => simp [Dialogue.andThen, collect]

/-- A pass with entries left fetches the policy of the first one. -/
theorem rest_fetching_cons (past : List CategoryOutcome) (e : PlannedPolicy)
    (todo : List PlannedPolicy) :
    (fetching past (e :: todo)).rest
      = .ask (.get e.name) fun r => (afterFetch past e todo r).rest := by
  rw [rest_fetching, reconcilePolicy_eq, Dialogue.andThen]
  congr 1
  funext r
  cases r with
  | ok stored =>
      by_cases h : stored.thresholds = e.thresholds <;>
        simp only [reconcileFetched, afterFetch, h, if_true, if_false] <;> rfl
  | error err =>
      cases h : err.isNotFound <;> simp only [reconcileFetched, afterFetch, h] <;> rfl

/-- A pass that has found a difference writes the document of the entry. -/
theorem rest_writing (past : List CategoryOutcome) (e : PlannedPolicy) (o : PolicyOutcome)
    (todo : List PlannedPolicy) :
    (writing past e o todo).rest
      = .ask (.put e.name e.document) fun r => (afterWrite past e o todo r).rest := by
  simp only [rest, writePolicy, Dialogue.andThen, PlannedPolicy.document]
  congr 1
  funext r
  cases r with
  | ok _ => rfl
  | error err => rfl

end Stage

/-- A pass over entries is what is left at its first stage. -/
theorem reconcileEntries_eq_rest (es : List PlannedPolicy) :
    reconcileEntries es = (Stage.fetching [] es).rest := by
  have h : Stage.collect [] = Dialogue.done := by
    funext r
    cases r <;> rfl
  rw [Stage.rest, h, Dialogue.andThen_done]

/-- A pass begins before the first entry of its plan. -/
theorem Plan.reconcile_eq_rest (p : Plan) : p.reconcile = (Stage.fetching [] p.entries).rest :=
  reconcileEntries_eq_rest p.entries

end LogSteward
