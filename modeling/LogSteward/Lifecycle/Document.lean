import LogSteward.Retention.Thresholds

/-!
# Lifecycle policy documents

The document that the store keeps for a policy: three phases with their actions.  An action is
either in the document or not; there is no flag for an absent one.  `Policy.ofThresholds` writes
thresholds into a document and `Policy.thresholds` reads them back, so the two documents agree on
their thresholds exactly when the store need not be written.
-/

namespace LogSteward

/-- When the index being written to is closed off and replaced by a fresh one. -/
structure Rollover where
  maxSize : String := ""
  maxAge : String := ""
deriving DecidableEq

/-- The recovery priority of an index: higher ones recover first. -/
structure SetPriority where
  priority : UInt32
deriving DecidableEq

/-- An action without parameters. -/
structure Bare where
deriving DecidableEq

/-- What is done with an index while it is written to. -/
structure HotActions where
  rollover : Rollover := {}
  setPriority : Option SetPriority := none
deriving DecidableEq

structure HotPhase where
  actions : HotActions := {}
deriving DecidableEq

/-- What is done with an index after it has rolled over. -/
structure WarmActions where
  setPriority : Option SetPriority := none
  readonly : Option Bare := none
deriving DecidableEq

structure WarmPhase where
  actions : WarmActions := {}
deriving DecidableEq

/-- What is done with an index at the end of its life. -/
structure DeleteActions where
  delete : Option Bare := none
deriving DecidableEq

structure DeletePhase where
  minAge : String := ""
  actions : DeleteActions := {}
deriving DecidableEq

/-- The phases of a policy in the order in which an index passes through them. -/
structure Phases where
  hot : HotPhase := {}
  warm : WarmPhase := {}
  delete : DeletePhase := {}
deriving DecidableEq

/-- A lifecycle policy as the store keeps it. -/
structure Policy where
  phases : Phases := {}
deriving DecidableEq

namespace Policy

/-- The recovery priority of indices that are written to. -/
def hotPriority : UInt32 := 100

/-- The recovery priority of indices that have rolled over. -/
def warmPriority : UInt32 := 50

/-- The document for a set of thresholds. -/
def ofThresholds (t : Thresholds) : Policy where
  phases :=
    { hot :=
        { actions :=
            { rollover := { maxSize := t.maxSize, maxAge := t.maxAge }
              setPriority := some ⟨hotPriority⟩ } }
      warm :=
        { actions :=
            { setPriority := some ⟨warmPriority⟩
              readonly := if t.readOnly then some {} else none } }
      delete := { minAge := t.minAge, actions := { delete := some {} } } }

/-- The thresholds that a document sets. -/
def thresholds (p : Policy) : Thresholds where
  maxSize := p.phases.hot.actions.rollover.maxSize
  maxAge := p.phases.hot.actions.rollover.maxAge
  minAge := p.phases.delete.minAge
  readOnly := p.phases.warm.actions.readonly.isSome

@[simp] theorem thresholds_ofThresholds (t : Thresholds) : (ofThresholds t).thresholds = t := by
  cases t with
  | mk _ _ _ readOnly => cases readOnly <;> rfl

end Policy

end LogSteward
