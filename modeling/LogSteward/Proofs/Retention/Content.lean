import LogSteward.Proofs.Json.Repetition
import LogSteward.Proofs.Retention.Format

/-!
# What settings say

The facets of storage settings, with their keys: every value is open by default.  The forms of
settings are what their facets make of them (`StorageSettings.form_eq`), and no text is read as
settings that has one of the keys of a record twice (`StorageSettings.strict`).
-/

namespace LogSteward

open Json

namespace RetentionWindows

def facet : (f : Key) → Facet RetentionWindows (layout.Value f)
  | .flows => .defaulted "flows" flows none (.option (.whole Int64.toInt))
  | .dnsLogs => .defaulted "dns_logs" dnsLogs none (.option (.whole Int64.toInt))
  | .bgpLogs => .defaulted "bgp_logs" bgpLogs none (.option (.whole Int64.toInt))
  | .auditReports => .defaulted "audit_reports" auditReports none (.option (.whole Int64.toInt))
  | .snapshots => .defaulted "snapshots" snapshots none (.option (.whole Int64.toInt))
  | .complianceReports =>
    .defaulted "compliance_reports" complianceReports none (.option (.whole Int64.toInt))

def content : Content RetentionWindows :=
  .record [⟨_, facet .flows⟩, ⟨_, facet .dnsLogs⟩, ⟨_, facet .bgpLogs⟩, ⟨_, facet .auditReports⟩,
    ⟨_, facet .snapshots⟩, ⟨_, facet .complianceReports⟩]

theorem faceted : layout.Faceted facet where
  keys f := by cases f <;> rfl
  named f := by cases f <;> rfl
  build slots a h := by
    obtain ⟨_, _, _, _, _, _⟩ := a
    cases Layout.getD_of_or (h .flows)
    cases Layout.getD_of_or (h .dnsLogs)
    cases Layout.getD_of_or (h .bgpLogs)
    cases Layout.getD_of_or (h .auditReports)
    cases Layout.getD_of_or (h .snapshots)
    cases Layout.getD_of_or (h .complianceReports)
    rfl
  built := by
    rintro slots a ⟨⟩ f
    cases f <;> exact Option.or_some

theorem form_eq : form = content.conveys :=
  faceted.form_eq_conveys fun f => by cases f <;> rfl

theorem strict : Strict layout.reader content.repeats :=
  faceted.strict fun f => by
    have days := strict_option (strict_plain (takes_integer int64?))
    cases f <;> exact days

end RetentionWindows

namespace StorageSettings

def facet : (f : Key) → Facet StorageSettings (layout.Value f)
  | .storageBytes =>
    .defaulted "storage_bytes" storageBytes none (.option (.whole fun n => n.toNat))
  | .retention => .defaulted "retention" retention {} RetentionWindows.content

/-- What a text says of settings. -/
def content : Content StorageSettings :=
  .record [⟨_, facet .storageBytes⟩, ⟨_, facet .retention⟩]

theorem faceted : layout.Faceted facet where
  keys f := by cases f <;> rfl
  named f := by cases f <;> rfl
  build slots a h := by
    obtain ⟨_, _⟩ := a
    cases Layout.getD_of_or (h .storageBytes)
    cases Layout.getD_of_or (h .retention)
    rfl
  built := by
    rintro slots a ⟨⟩ f
    cases f <;> exact Option.or_some

/-- **The forms of settings** are what their facets make of them. -/
theorem form_eq : form = content.conveys :=
  faceted.form_eq_conveys fun
    | .storageBytes => rfl
    | .retention => RetentionWindows.form_eq

/-- **Settings are read strictly.** -/
theorem strict : Strict layout.reader content.repeats :=
  faceted.strict fun
    | .storageBytes => strict_option (strict_plain (takes_integer uint64?))
    | .retention => RetentionWindows.strict

end StorageSettings

end LogSteward
