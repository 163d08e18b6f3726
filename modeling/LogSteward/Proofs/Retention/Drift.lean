import Mathlib.Data.Finset.Basic
import Mathlib.Order.Bounds.Basic
import LogSteward.Proofs.Retention.Shelf
import LogSteward.Proofs.Retention.Stage

/-!
# Which drift is repaired

A stored document is compared with the planned one by its thresholds alone.  The recovery priorities
and whether indices are deleted in the end are not compared (`Policy.withUncompared`), so a document
that has lost them stays as it is.  Any other difference has the whole document replaced, and the
fields that are reported are those whose values would have had to be taken over from the planned
document (`Policy.adopt`) for it to be left alone (`drift_repaired`).
-/

namespace LogSteward

namespace Policy

/-! ### What is not compared -/

/-- The document with other recovery priorities and another deletion. -/
def withUncompared (p : Policy) (hot warm : Option SetPriority) (delete : Option Bare) :
    Policy where
  phases :=
    { hot := { actions := { p.phases.hot.actions with setPriority := hot } }
      warm := { actions := { p.phases.warm.actions with setPriority := warm } }
      delete := { p.phases.delete with actions := { delete } } }

/-- The documents that set the same thresholds are those that differ in nothing that is compared. -/
theorem thresholds_eq_iff {p : Policy} {t : Thresholds} :
    p.thresholds = t ↔
      ∃ hot warm delete, p = (ofThresholds t).withUncompared hot warm delete := by
  constructor
  · rintro rfl
    obtain ⟨⟨⟨rollover, hot⟩⟩, ⟨warm, readonly⟩, minAge, ⟨delete⟩⟩ := p
    refine ⟨hot, warm, delete, ?_⟩
    cases readonly <;> rfl
  · rintro ⟨hot, warm, delete, rfl⟩
    exact thresholds_ofThresholds t

/-! ### Fields of another document -/

/-- The document with the given fields of another one. -/
def adopt (p q : Policy) (S : Finset Thresholds.Field) : Policy where
  phases :=
    { hot :=
        { actions :=
            { p.phases.hot.actions with
              rollover :=
                { maxSize := (if .maxSize ∈ S then q else p).phases.hot.actions.rollover.maxSize
                  maxAge := (if .maxAge ∈ S then q else p).phases.hot.actions.rollover.maxAge } } }
      warm :=
        { actions :=
            { p.phases.warm.actions with
              readonly := (if .readOnly ∈ S then q else p).phases.warm.actions.readonly } }
      delete :=
        { p.phases.delete with minAge := (if .minAge ∈ S then q else p).phases.delete.minAge } }

/-- A document that has adopted some fields differs in the others. -/
theorem differsAt_adopt (p q : Policy) (S : Finset Thresholds.Field) (f : Thresholds.Field) :
    (p.adopt q S).thresholds.DiffersAt q.thresholds f ↔
      f ∉ S ∧ p.thresholds.DiffersAt q.thresholds f := by
  by_cases h : f ∈ S <;> cases f <;> simp [Thresholds.DiffersAt, thresholds, adopt, h]

/-- A document must adopt just the fields in which it differs. -/
theorem thresholds_adopt_iff {p q : Policy} {S : Finset Thresholds.Field} :
    (p.adopt q S).thresholds = q.thresholds ↔
      (p.thresholds.differences q.thresholds).toFinset ⊆ S := by
  rw [← Thresholds.differences_eq_nil_iff, List.eq_nil_iff_forall_not_mem]
  simp only [Thresholds.mem_differences, differsAt_adopt, not_and, Finset.subset_iff,
    List.mem_toFinset]
  exact forall_congr' fun f => ⟨fun h hd => by_contra fun hf => h hf hd, fun h hf hd => hf (h hd)⟩

end Policy

/-! ### Reconciling one policy -/

/-- Reconciling leaves the store as it is, and writes nothing. -/
def LeavesAlone (name : String) (t : Thresholds) (shelf : PolicyShelf) : Prop :=
  (reconcilePolicy name t).run PolicyShelf.answer shelf = (.ok .unchanged, shelf) ∧
    (reconcilePolicy name t).transcript PolicyShelf.answer shelf = [.get name]

section Stored

variable {shelf : PolicyShelf} {name : String} {p : Policy} {t : Thresholds}

/-- A policy with the planned thresholds is left alone. -/
theorem run_reconcilePolicy_same (stored : shelf[name]? = some p) (h : p.thresholds = t) :
    LeavesAlone name t shelf := by
  rw [LeavesAlone, reconcilePolicy_eq, Dialogue.run, Dialogue.transcript, PolicyShelf.answer,
    stored]
  simp only [reconcileFetched, if_pos h, Dialogue.run, Dialogue.transcript, and_self]

/-- A policy with other thresholds is replaced, and the differences are reported. -/
theorem run_reconcilePolicy_other (stored : shelf[name]? = some p) (h : p.thresholds ≠ t) :
    (reconcilePolicy name t).run PolicyShelf.answer shelf
        = (.ok (.updated (p.thresholds.differences t)),
            shelf.insert name (Policy.ofThresholds t)) ∧
      (reconcilePolicy name t).transcript PolicyShelf.answer shelf
        = [.get name, .put name (Policy.ofThresholds t)] := by
  rw [reconcilePolicy_eq, Dialogue.run, Dialogue.transcript, PolicyShelf.answer, stored]
  simp only [reconcileFetched, if_neg h, writePolicy, Dialogue.run, Dialogue.transcript,
    PolicyShelf.answer, and_self]

/-- A policy that is there is left alone exactly if its thresholds are the planned ones. -/
theorem leavesAlone_iff (stored : shelf[name]? = some p) :
    LeavesAlone name t shelf ↔ p.thresholds = t := by
  refine ⟨fun h => ?_, run_reconcilePolicy_same stored⟩
  by_contra hp
  have := h.1
  rw [(run_reconcilePolicy_other stored hp).1] at this
  cases this

end Stored

/-- **What is repaired.**  Of a store that holds a document for a policy, reconciling leaves
everything as it is exactly if the document is the planned one but for the recovery priorities and
the presence of the deletion.  In every other case the store then holds the planned document; the
fields that are reported are in their fixed order, and they are the least set of fields that the
document would have had to adopt from the planned one to be left alone. -/
theorem drift_repaired {shelf : PolicyShelf} {name : String} {p : Policy}
    (stored : shelf[name]? = some p) (t : Thresholds) :
    let planned := Policy.ofThresholds t
    let ignored := ∃ hot warm delete, p = planned.withUncompared hot warm delete
    (LeavesAlone name t shelf ↔ ignored) ∧
      (¬ ignored → ∃ changed,
        (reconcilePolicy name t).run PolicyShelf.answer shelf
            = (.ok (.updated changed), shelf.insert name planned) ∧
          (reconcilePolicy name t).transcript PolicyShelf.answer shelf
            = [.get name, .put name planned] ∧
          changed.Sublist [.maxAge, .maxSize, .minAge, .readOnly] ∧
          IsLeast {S | LeavesAlone name t (shelf.insert name (p.adopt planned S))}
            changed.toFinset) := by
  intro planned ignored
  have untouched : LeavesAlone name t shelf ↔ ignored :=
    (leavesAlone_iff stored).trans Policy.thresholds_eq_iff
  refine ⟨untouched, fun drifted => ⟨p.thresholds.differences t, ?_⟩⟩
  have other : p.thresholds ≠ t := fun h => drifted (Policy.thresholds_eq_iff.mp h)
  obtain ⟨run, calls⟩ := run_reconcilePolicy_other stored other
  have adopted (S : Finset Thresholds.Field) :
      LeavesAlone name t (shelf.insert name (p.adopt planned S)) ↔
        (p.thresholds.differences t).toFinset ⊆ S := by
    rw [leavesAlone_iff (PolicyShelf.getElem?_insert_self ..)]
    simpa only [planned, Policy.thresholds_ofThresholds]
      using Policy.thresholds_adopt_iff (p := p) (q := planned) (S := S)
  exact ⟨run, calls, List.filter_sublist, (adopted _).mpr subset_rfl,
    fun S hS => (adopted S).mp hS⟩

/-- A document with another age, and the planned one without its priorities and its deletion. -/
theorem drift_repaired_age :
    let t : Thresholds := { maxSize := "1b", maxAge := "1d", minAge := "2d", readOnly := false }
    let p := Policy.ofThresholds { t with maxAge := "9d" }
    let q := (Policy.ofThresholds t).withUncompared none none none
    let shelf := ({} : PolicyShelf).insert "flows" p
    let shelf' := ({} : PolicyShelf).insert "flows" q
    (shelf["flows"]? = some p ∧ shelf'["flows"]? = some q) ∧
      (reconcilePolicy "flows" t).run PolicyShelf.answer shelf
        = (.ok (.updated [.maxAge]), shelf.insert "flows" (Policy.ofThresholds t)) ∧
      LeavesAlone "flows" t shelf' := by
  intro t p q shelf shelf'
  have stored : shelf["flows"]? = some p := PolicyShelf.getElem?_insert_self ..
  have stored' : shelf'["flows"]? = some q := PolicyShelf.getElem?_insert_self ..
  have drifted : p.thresholds ≠ t := by decide
  obtain ⟨changed, run, -⟩ :=
    (drift_repaired stored t).2 fun h => drifted (Policy.thresholds_eq_iff.mpr h)
  have : changed = [.maxAge] := by
    have := congrArg Prod.fst ((run_reconcilePolicy_other stored drifted).1.symm.trans run)
    cases this
    decide
  exact ⟨⟨stored, stored'⟩, this ▸ run, (drift_repaired stored' t).1.mpr ⟨none, none, none, rfl⟩⟩

end LogSteward
