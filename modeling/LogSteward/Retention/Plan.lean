import LogSteward.Lifecycle.Document

/-!
# Retention plans

The thresholds that storage settings ask for, category by category in catalogue order.
-/

namespace LogSteward

/-- What is planned for one category. -/
structure PlannedPolicy where
  category : Category
  /-- The retention window in force. -/
  days : Int64
  thresholds : Thresholds
deriving DecidableEq

namespace PlannedPolicy

/-- The name under which the policy is kept. -/
def name (e : PlannedPolicy) : String :=
  e.category.policyName

def document (e : PlannedPolicy) : Policy :=
  Policy.ofThresholds e.thresholds

end PlannedPolicy

/-- What is planned for a store. -/
structure Plan where
  totalBytes : UInt64
  entries : List PlannedPolicy
deriving DecidableEq

namespace Plan

/-- The plan for the whole catalogue under the given settings. -/
def ofSettings (s : StorageSettings) : Plan where
  totalBytes := s.totalBytes
  entries := Category.catalogue.map fun c =>
    { category := c
      days := s.retention.days c
      thresholds := Thresholds.plan s.totalBytes c (s.retention.days c) {} }

/-- What is planned for a category. -/
def entry? (p : Plan) (c : Category) : Option PlannedPolicy :=
  p.entries.find? (·.category == c)

end Plan

end LogSteward
