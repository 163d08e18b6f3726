import LogSteward.Retention.Format
import LogSteward.Proofs.Json.Lists

/-!
# Settings there and back

The spellings of storage settings (`StorageSettings.form`).  All of them are read as those settings,
and the text that is written of settings is one of them: a value that is open is `null` in it.
-/

namespace LogSteward

open Json

namespace RetentionWindows

def form : Form RetentionWindows :=
  layout.form fun _ => optionForm (integerForm Int64.toInt)

theorem reads : Reads layout.reader form :=
  Layout.reads_reader (fun f => by cases f <;> rfl) fun _ =>
    reads_option reads_int64 not_null_integer

theorem form_compact (w : RetentionWindows) : form w (Utf8.encode w.toJson.compact) := by
  have nodup : [Key.flows, Key.dnsLogs, Key.bgpLogs, Key.auditReports, Key.snapshots,
      Key.complianceReports].Nodup := by decide
  have days : ∀ d : Option Int64, optionForm (integerForm Int64.toInt) d
      (Utf8.encode (ofOption (fun d : Int64 => .number d.toInt) d).compact) :=
    optionForm_compact integerForm_compact
  refine Layout.form_compact
    [⟨Key.flows, w.flows⟩, ⟨Key.dnsLogs, w.dnsLogs⟩, ⟨Key.bgpLogs, w.bgpLogs⟩,
      ⟨Key.auditReports, w.auditReports⟩, ⟨Key.snapshots, w.snapshots⟩,
      ⟨Key.complianceReports, w.complianceReports⟩] nodup ?_ rfl
  exact .cons ⟨rfl, days _⟩ (.cons ⟨rfl, days _⟩ (.cons ⟨rfl, days _⟩ (.cons ⟨rfl, days _⟩
    (.cons ⟨rfl, days _⟩ (.cons ⟨rfl, days _⟩ .nil)))))

end RetentionWindows

namespace StorageSettings

/-- The spellings of settings. -/
def form : Form StorageSettings :=
  layout.form fun
    | .storageBytes => optionForm (integerForm fun n : UInt64 => n.toNat)
    | .retention => RetentionWindows.form

/-- **Every spelling of settings is read as those settings.** -/
theorem reads : Reads layout.reader form :=
  Layout.reads_reader (fun f => by cases f <;> rfl) fun
    | .storageBytes => reads_option reads_uint64 not_null_integer
    | .retention => RetentionWindows.reads

/-- **The text that is written of settings** spells them. -/
theorem form_compact (s : StorageSettings) : form s (Utf8.encode s.toJson.compact) := by
  have nodup : [Key.storageBytes, Key.retention].Nodup := by decide
  refine Layout.form_compact [⟨Key.storageBytes, s.storageBytes⟩, ⟨Key.retention, s.retention⟩]
    nodup ?_ rfl
  exact .cons ⟨rfl, optionForm_compact integerForm_compact _⟩
    (.cons ⟨rfl, RetentionWindows.form_compact _⟩ .nil)

end StorageSettings

end LogSteward
