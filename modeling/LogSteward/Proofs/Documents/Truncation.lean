import LogSteward.Proofs.Access.Format
import LogSteward.Proofs.Json.Truncation
import LogSteward.Proofs.Rest.Calls
import LogSteward.Proofs.Retention.Format

/-!
# Documents that are cut short

No document is read without its end, and neither is a policy that is wrapped as in a listing.  One
record at a time, from the values that its members are written of.
-/

namespace LogSteward

open Json

/-! ### Policies -/

namespace Rollover

theorem guarded : Guarded layout.reader form toJson :=
  Layout.guarded reads form_compact fun r => ⟨_, rfl, by simp,
    .cons rfl (guarded_text.settles r.maxSize) (.cons rfl (guarded_text.settles r.maxAge) .nil)⟩

end Rollover

namespace SetPriority

theorem guarded : Guarded layout.reader form toJson :=
  Layout.guarded reads form_compact fun p =>
    ⟨_, rfl, List.nodup_singleton _, .cons rfl (settles_uint32 p.priority) .nil⟩

end SetPriority

namespace Bare

theorem guarded : Guarded layout.reader form toJson :=
  Layout.guarded reads form_compact fun _ => ⟨_, rfl, List.nodup_nil, .nil⟩

end Bare

namespace HotActions

theorem guarded : Guarded layout.reader form toJson :=
  Layout.guarded reads form_compact fun
    | ⟨r, none⟩ =>
      ⟨_, rfl, List.nodup_singleton _, .cons rfl (Rollover.guarded.settles r) .nil⟩
    | ⟨r, some p⟩ =>
      ⟨_, rfl, by simp [member], .cons rfl (Rollover.guarded.settles r)
        (.cons rfl (SetPriority.guarded.settles_some p) .nil)⟩

end HotActions

namespace HotPhase

theorem guarded : Guarded layout.reader form toJson :=
  Layout.guarded reads form_compact fun p =>
    ⟨_, rfl, List.nodup_singleton _, .cons rfl (HotActions.guarded.settles p.actions) .nil⟩

end HotPhase

namespace WarmActions

theorem guarded : Guarded layout.reader form toJson :=
  Layout.guarded reads form_compact fun
    | ⟨none, none⟩ => ⟨_, rfl, List.nodup_nil, .nil⟩
    | ⟨none, some b⟩ =>
      ⟨_, rfl, List.nodup_singleton _, .cons rfl (Bare.guarded.settles_some b) .nil⟩
    | ⟨some p, none⟩ =>
      ⟨_, rfl, List.nodup_singleton _, .cons rfl (SetPriority.guarded.settles_some p) .nil⟩
    | ⟨some p, some b⟩ =>
      ⟨_, rfl, by simp [member], .cons rfl (SetPriority.guarded.settles_some p)
        (.cons rfl (Bare.guarded.settles_some b) .nil)⟩

end WarmActions

namespace WarmPhase

theorem guarded : Guarded layout.reader form toJson :=
  Layout.guarded reads form_compact fun p =>
    ⟨_, rfl, List.nodup_singleton _, .cons rfl (WarmActions.guarded.settles p.actions) .nil⟩

end WarmPhase

namespace DeleteActions

theorem guarded : Guarded layout.reader form toJson :=
  Layout.guarded reads form_compact fun
    | ⟨none⟩ => ⟨_, rfl, List.nodup_nil, .nil⟩
    | ⟨some b⟩ =>
      ⟨_, rfl, List.nodup_singleton _, .cons rfl (Bare.guarded.settles_some b) .nil⟩

end DeleteActions

namespace DeletePhase

theorem guarded : Guarded layout.reader form toJson :=
  Layout.guarded reads form_compact fun p => ⟨_, rfl, by simp,
    .cons rfl (guarded_text.settles p.minAge)
      (.cons rfl (DeleteActions.guarded.settles p.actions) .nil)⟩

end DeletePhase

namespace Phases

theorem guarded : Guarded layout.reader form toJson :=
  Layout.guarded reads form_compact fun p => ⟨_, rfl, by simp,
    .cons rfl (HotPhase.guarded.settles p.hot)
      (.cons rfl (WarmPhase.guarded.settles p.warm)
        (.cons rfl (DeletePhase.guarded.settles p.delete) .nil))⟩

end Phases

namespace Policy

/-- **A policy that is cut short is not read.** -/
theorem guarded : Guarded layout.reader form toJson :=
  Layout.guarded reads form_compact fun p =>
    ⟨_, rfl, List.nodup_singleton _, .cons rfl (Phases.guarded.settles p.phases) .nil⟩

end Policy

namespace PolicyCall

/-- A policy as it is wrapped. -/
def wrapped (p : Policy) : Json :=
  .object [("policy", p.toJson)]

/-- No part of a policy in its envelope is one. -/
theorem guarded_envelope : Guarded envelope.reader envelopeForm wrapped :=
  Layout.guarded reads_envelope envelopeForm_written fun p =>
    ⟨_, rfl, List.nodup_singleton _, .cons rfl (Policy.guarded.settles p) .nil⟩

end PolicyCall

/-! ### Roles -/

/-- No part of a list of texts is one. -/
theorem guarded_texts : Guarded (readList readText) (listForm textForm)
    fun texts : List String => list (texts.map text) :=
  guarded_list guarded_text element_text

namespace IndexGrant

theorem guarded : Guarded layout.reader form toJson :=
  Layout.guarded reads form_compact fun g => ⟨_, rfl, by simp,
    .cons rfl (guarded_texts.settles g.names) (.cons rfl (guarded_texts.settles g.privileges) .nil)⟩

end IndexGrant

namespace ApplicationGrant

theorem guarded : Guarded layout.reader form toJson :=
  Layout.guarded reads form_compact fun g => ⟨_, rfl, by simp,
    .cons rfl (guarded_text.settles g.application)
      (.cons rfl (guarded_texts.settles g.privileges)
        (.cons rfl (guarded_texts.settles g.resources) .nil))⟩

end ApplicationGrant

namespace RoleDefinition

theorem settles_indices (indices : List IndexGrant) : Settles (readList IndexGrant.layout.reader)
    indices (Utf8.encode (list (indices.map IndexGrant.toJson)).compact) :=
  (guarded_list IndexGrant.guarded Layout.element_form).settles indices

theorem settles_applications (applications : List ApplicationGrant) :
    Settles (readList ApplicationGrant.layout.reader) applications
      (Utf8.encode (list (applications.map ApplicationGrant.toJson)).compact) :=
  (guarded_list ApplicationGrant.guarded Layout.element_form).settles applications

/-- **A role that is cut short is not read**, even when its list of applications is left out. -/
theorem guarded : Guarded layout.reader form toJson :=
  Layout.guarded reads form_compact fun
    | ⟨cluster, indices, []⟩ => ⟨_, rfl, by simp,
        .cons rfl (guarded_texts.settles cluster) (.cons rfl (settles_indices indices) .nil)⟩
    | ⟨cluster, indices, g :: gs⟩ => ⟨_, rfl, by simp,
        .cons rfl (guarded_texts.settles cluster)
          (.cons rfl (settles_indices indices) (.cons rfl (settles_applications (g :: gs)) .nil))⟩

end RoleDefinition

/-! ### Settings -/

namespace RetentionWindows

theorem settles_days : ∀ d : Option Int64, Settles (readOption (readInteger int64?)) d
    (Utf8.encode (ofOption (fun d : Int64 => .number d.toInt) d).compact) :=
  settles_option rfl settles_int64 fun _ => begins_integer _

theorem guarded : Guarded layout.reader form toJson :=
  Layout.guarded reads form_compact fun w => ⟨_, rfl, by simp,
    .cons rfl (settles_days w.flows) (.cons rfl (settles_days w.dnsLogs)
      (.cons rfl (settles_days w.bgpLogs) (.cons rfl (settles_days w.auditReports)
        (.cons rfl (settles_days w.snapshots)
          (.cons rfl (settles_days w.complianceReports) .nil)))))⟩

end RetentionWindows

namespace StorageSettings

theorem settles_bytes : ∀ n : Option UInt64, Settles (readOption (readInteger uint64?)) n
    (Utf8.encode (ofOption (fun n : UInt64 => .number n.toNat) n).compact) :=
  settles_option rfl settles_uint64 fun _ => begins_integer _

/-- **Settings that are cut short are not read.** -/
theorem guarded : Guarded layout.reader form toJson :=
  Layout.guarded reads form_compact fun s => ⟨_, rfl, by simp,
    .cons rfl (settles_bytes s.storageBytes)
      (.cons rfl (RetentionWindows.guarded.settles s.retention) .nil)⟩

end StorageSettings

end LogSteward
