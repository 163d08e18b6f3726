import LogSteward.Json.Record
import LogSteward.Retention.Plan

/-!
# The written form of storage settings

Settings are read from and written as JSON.  Every field may be missing or `null`, which leaves its
value open; on writing, an open value is `null`.
-/

namespace LogSteward

open Json

namespace RetentionWindows

inductive Key where
  | flows
  | dnsLogs
  | bgpLogs
  | auditReports
  | snapshots
  | complianceReports
deriving DecidableEq

def layout : Layout RetentionWindows where
  Field := Key
  fields := [.flows, .dnsLogs, .bgpLogs, .auditReports, .snapshots, .complianceReports]
  key
    | .flows => "flows"
    | .dnsLogs => "dns_logs"
    | .bgpLogs => "bgp_logs"
    | .auditReports => "audit_reports"
    | .snapshots => "snapshots"
    | .complianceReports => "compliance_reports"
  Value _ := Option Int64
  read _ := readOption (readInteger int64?)
  build? slots :=
    some
      { flows := (slots .flows).getD none
        dnsLogs := (slots .dnsLogs).getD none
        bgpLogs := (slots .bgpLogs).getD none
        auditReports := (slots .auditReports).getD none
        snapshots := (slots .snapshots).getD none
        complianceReports := (slots .complianceReports).getD none }

def toJson (w : RetentionWindows) : Json :=
  let days := ofOption fun d : Int64 => .number d.toInt
  .object
    [ ("flows", days w.flows)
    , ("dns_logs", days w.dnsLogs)
    , ("bgp_logs", days w.bgpLogs)
    , ("audit_reports", days w.auditReports)
    , ("snapshots", days w.snapshots)
    , ("compliance_reports", days w.complianceReports) ]

end RetentionWindows

namespace StorageSettings

inductive Key where
  | storageBytes
  | retention
deriving DecidableEq

def layout : Layout StorageSettings where
  Field := Key
  fields := [.storageBytes, .retention]
  key
    | .storageBytes => "storage_bytes"
    | .retention => "retention"
  Value
    | .storageBytes => Option UInt64
    | .retention => RetentionWindows
  read
    | .storageBytes => readOption (readInteger uint64?)
    | .retention => RetentionWindows.layout.reader
  build? slots :=
    some
      { storageBytes := (slots .storageBytes).getD none
        retention := (slots .retention).getD {} }

def toJson (s : StorageSettings) : Json :=
  .object
    [ ("storage_bytes", ofOption (fun n : UInt64 => .number n.toNat) s.storageBytes)
    , ("retention", s.retention.toJson) ]

/-- The settings that a text describes. -/
def decode (s : String) : Except Fault StorageSettings :=
  Json.decode layout.reader s

/-- The text that describes settings. -/
def encode (s : StorageSettings) : String :=
  s.toJson.compact

end StorageSettings

end LogSteward
