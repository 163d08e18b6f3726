/-!
# Log categories

The catalogue of time-series log categories that have a managed lifecycle policy, in the order
in which they are planned and reconciled, with the share of the storage budget each one draws.

The major tier draws 70% of the budget and the minor tier 10%; within a tier every category has a
fixed fraction.  The shares do not depend on which categories are in use, so what remains of the
budget is headroom.
-/

namespace LogSteward

/-- The part of the storage budget a category draws from. -/
inductive Tier where
  | major
  | minor
deriving DecidableEq

namespace Tier

def name : Tier → String
  | major => "major"
  | minor => "minor"

/-- The fraction of the whole budget that the tier may use. -/
def share : Tier → Float
  | major => 0.7
  | minor => 0.1

end Tier

/-- A kind of log with a lifecycle policy of its own. -/
inductive Category where
  | flows
  | dns
  | bgp
  | l7
  | auditEe
  | auditKube
  | snapshots
  | complianceReports
  | benchmarkResults
  | events
deriving DecidableEq

namespace Category

/-- Every category, in the order of planning. -/
def catalogue : List Category :=
  [flows, dns, bgp, l7, auditEe, auditKube, snapshots, complianceReports, benchmarkResults, events]

theorem mem_catalogue (c : Category) : c ∈ catalogue := by
  cases c <;> decide

theorem nodup_catalogue : catalogue.Nodup := by
  decide

/-- The category's part of an index name. -/
def slug : Category → String
  | flows => "flows"
  | dns => "dns"
  | bgp => "bgp"
  | l7 => "l7"
  | auditEe => "audit_ee"
  | auditKube => "audit_kube"
  | snapshots => "snapshots"
  | complianceReports => "compliance_reports"
  | benchmarkResults => "benchmark_results"
  | events => "events"

/-- The category with the given slug. -/
def ofSlug? (s : String) : Option Category :=
  catalogue.find? (·.slug == s)

/-- What the name of every managed index starts with. -/
def indexStem : String := "tigera_secure_ee"

def indexName (c : Category) : String :=
  indexStem ++ "_" ++ c.slug

/-- The name under which the category's policy is kept in the store. -/
def policyName (c : Category) : String :=
  c.indexName ++ "_policy"

def tier : Category → Tier
  | flows | dns | bgp | l7 => .major
  | auditEe | auditKube | snapshots | complianceReports | benchmarkResults | events => .minor

/-- The fraction of its tier that the category may use. -/
def fraction : Category → Float
  | flows => 0.85
  | dns | bgp | l7 => 0.05
  | auditEe | auditKube | snapshots | complianceReports | benchmarkResults | events => 1.0 / 6.0

/-- Indices that have rolled over are closed for writing in every category but `events`. -/
def readOnlyAfterRollover : Category → Bool
  | events => false
  | _ => true

end Category

end LogSteward
