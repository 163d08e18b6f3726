import LogSteward.Retention.Category

/-!
# Storage settings

What a deployment may configure: the size of the store and a retention window, in days, for six
kinds of logs.  Every value may be left open and then has a default; a window that is set, also to
zero, is used as it stands.
-/

namespace LogSteward

/-- The retention windows that can be set, in days. -/
structure RetentionWindows where
  flows : Option Int64 := none
  dnsLogs : Option Int64 := none
  bgpLogs : Option Int64 := none
  auditReports : Option Int64 := none
  snapshots : Option Int64 := none
  complianceReports : Option Int64 := none
deriving DecidableEq

namespace RetentionWindows

/-- The window of flow, DNS and BGP logs where none is set. -/
def logDays : Int64 := 8

/-- The window of audit logs, snapshots and compliance reports where none is set. -/
def reportDays : Int64 := 91

/-- The window of L7 logs, which cannot be set. -/
def l7Days : Int64 := 1

/-- The window of benchmark results and events, which cannot be set. -/
def fixedDays : Int64 := 91

/-- The window in force for a category. -/
def days (w : RetentionWindows) : Category → Int64
  | .flows => w.flows.getD logDays
  | .dns => w.dnsLogs.getD logDays
  | .bgp => w.bgpLogs.getD logDays
  | .l7 => l7Days
  | .auditEe | .auditKube => w.auditReports.getD reportDays
  | .snapshots => w.snapshots.getD reportDays
  | .complianceReports => w.complianceReports.getD reportDays
  | .benchmarkResults | .events => fixedDays

end RetentionWindows

/-- The size of the store and its retention windows. -/
structure StorageSettings where
  storageBytes : Option UInt64 := none
  retention : RetentionWindows := {}
deriving DecidableEq

namespace StorageSettings

/-- One gibibyte. -/
def gib : UInt64 := 1024 * 1024 * 1024

/-- The size of a store for which none is set: ten gibibytes. -/
def defaultBytes : UInt64 := 10 * gib

def totalBytes (s : StorageSettings) : UInt64 :=
  s.storageBytes.getD defaultBytes

end StorageSettings

end LogSteward
