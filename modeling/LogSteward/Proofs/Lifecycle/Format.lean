import LogSteward.Lifecycle.Format
import LogSteward.Proofs.Json.Writing

/-!
# Policies there and back

The spellings of a policy (`Policy.form`) are the objects that have its phases with their actions,
each in any order, with any members besides them at every level.  All of them are read as that
policy (`Policy.reads`), and the text that is written of a policy is one of them
(`Policy.form_compact`).
-/

namespace LogSteward

open Json

namespace Rollover

def form : Form Rollover :=
  layout.form fun _ => textForm

theorem reads : Reads layout.reader form :=
  Layout.reads_reader (fun f => by cases f <;> rfl) fun _ => reads_text

theorem form_compact (r : Rollover) : form r (Utf8.encode r.toJson.compact) := by
  have nodup : [Key.maxSize, Key.maxAge].Nodup := by decide
  refine Layout.form_compact [⟨Key.maxSize, r.maxSize⟩, ⟨Key.maxAge, r.maxAge⟩] nodup ?_ rfl
  exact .cons ⟨rfl, textForm_compact _⟩ (.cons ⟨rfl, textForm_compact _⟩ .nil)

end Rollover

namespace SetPriority

def form : Form SetPriority :=
  layout.form fun _ => integerForm fun n : UInt32 => n.toNat

theorem reads : Reads layout.reader form :=
  Layout.reads_single reads_uint32

theorem form_compact (p : SetPriority) : form p (Utf8.encode p.toJson.compact) :=
  Layout.form_compact_single (integerForm_compact p.priority) rfl

end SetPriority

namespace Bare

def form : Form Bare :=
  layout.form nofun

theorem reads : Reads layout.reader form :=
  Layout.reads_reader nofun nofun

theorem form_compact (b : Bare) : form b (Utf8.encode b.toJson.compact) :=
  Layout.form_compact [] .nil .nil rfl

end Bare

namespace HotActions

def form : Form HotActions :=
  layout.form fun
    | .rollover => Rollover.form
    | .setPriority => optionForm SetPriority.form

theorem reads : Reads layout.reader form :=
  Layout.reads_reader (fun f => by cases f <;> rfl) fun
    | .rollover => Rollover.reads
    | .setPriority => reads_option SetPriority.reads Layout.not_null_form

theorem form_compact (a : HotActions) : form a (Utf8.encode a.toJson.compact) := by
  have nodup : [Key.rollover, Key.setPriority].Nodup := by decide
  refine Layout.form_compact
    (⟨Key.rollover, a.rollover⟩ :: a.setPriority.toList.map fun p => ⟨Key.setPriority, some p⟩)
    ?_ ?_ ?_
  · cases a.setPriority with
    | none => exact List.nodup_singleton _
    | some p => exact nodup
  · exact .cons ⟨rfl, Rollover.form_compact _⟩
      (Layout.writes_member (L := layout) Key.setPriority some rfl SetPriority.form_compact _)
  · obtain ⟨rollover, _ | p⟩ := a <;> rfl

end HotActions

namespace HotPhase

def form : Form HotPhase :=
  layout.form fun _ => HotActions.form

theorem reads : Reads layout.reader form :=
  Layout.reads_single HotActions.reads

theorem form_compact (p : HotPhase) : form p (Utf8.encode p.toJson.compact) :=
  Layout.form_compact_single (HotActions.form_compact p.actions) rfl

end HotPhase

namespace WarmActions

def form : Form WarmActions :=
  layout.form fun
    | .setPriority => optionForm SetPriority.form
    | .readonly => optionForm Bare.form

theorem reads : Reads layout.reader form :=
  Layout.reads_reader (fun f => by cases f <;> rfl) fun
    | .setPriority => reads_option SetPriority.reads Layout.not_null_form
    | .readonly => reads_option Bare.reads Layout.not_null_form

theorem form_compact (a : WarmActions) : form a (Utf8.encode a.toJson.compact) := by
  have nodup : [Key.setPriority, Key.readonly].Nodup := by decide
  refine Layout.form_compact
    (a.setPriority.toList.map (fun p => ⟨Key.setPriority, some p⟩)
      ++ a.readonly.toList.map fun b => ⟨Key.readonly, some b⟩) ?_ ?_ ?_
  · cases a.setPriority with
    | none =>
        cases a.readonly with
        | none => exact List.nodup_nil
        | some b => exact List.nodup_singleton _
    | some p =>
        cases a.readonly with
        | none => exact List.nodup_singleton _
        | some b => exact nodup
  · exact List.rel_append
      (Layout.writes_member (L := layout) Key.setPriority some rfl SetPriority.form_compact _)
      (Layout.writes_member (L := layout) Key.readonly some rfl Bare.form_compact _)
  · obtain ⟨_ | p, _ | b⟩ := a <;> rfl

end WarmActions

namespace WarmPhase

def form : Form WarmPhase :=
  layout.form fun _ => WarmActions.form

theorem reads : Reads layout.reader form :=
  Layout.reads_single WarmActions.reads

theorem form_compact (p : WarmPhase) : form p (Utf8.encode p.toJson.compact) :=
  Layout.form_compact_single (WarmActions.form_compact p.actions) rfl

end WarmPhase

namespace DeleteActions

def form : Form DeleteActions :=
  layout.form fun _ => optionForm Bare.form

theorem reads : Reads layout.reader form :=
  Layout.reads_single (reads_option Bare.reads Layout.not_null_form)

theorem form_compact (a : DeleteActions) : form a (Utf8.encode a.toJson.compact) := by
  refine Layout.form_compact (a.delete.toList.map fun b => ⟨(), some b⟩) ?_ ?_ ?_
  · cases a.delete with
    | none => exact List.nodup_nil
    | some b => exact List.nodup_singleton _
  · exact Layout.writes_member (L := layout) () some rfl Bare.form_compact _
  · obtain ⟨_ | b⟩ := a <;> rfl

end DeleteActions

namespace DeletePhase

def form : Form DeletePhase :=
  layout.form fun
    | .minAge => textForm
    | .actions => DeleteActions.form

theorem reads : Reads layout.reader form :=
  Layout.reads_reader (fun f => by cases f <;> rfl) fun
    | .minAge => reads_text
    | .actions => DeleteActions.reads

theorem form_compact (p : DeletePhase) : form p (Utf8.encode p.toJson.compact) := by
  have nodup : [Key.minAge, Key.actions].Nodup := by decide
  refine Layout.form_compact [⟨Key.minAge, p.minAge⟩, ⟨Key.actions, p.actions⟩] nodup ?_ rfl
  exact .cons ⟨rfl, textForm_compact _⟩ (.cons ⟨rfl, DeleteActions.form_compact _⟩ .nil)

end DeletePhase

namespace Phases

def form : Form Phases :=
  layout.form fun
    | .hot => HotPhase.form
    | .warm => WarmPhase.form
    | .delete => DeletePhase.form

theorem reads : Reads layout.reader form :=
  Layout.reads_reader (fun f => by cases f <;> rfl) fun
    | .hot => HotPhase.reads
    | .warm => WarmPhase.reads
    | .delete => DeletePhase.reads

theorem form_compact (p : Phases) : form p (Utf8.encode p.toJson.compact) := by
  have nodup : [Key.hot, Key.warm, Key.delete].Nodup := by decide
  refine Layout.form_compact [⟨Key.hot, p.hot⟩, ⟨Key.warm, p.warm⟩, ⟨Key.delete, p.delete⟩]
    nodup ?_ rfl
  exact .cons ⟨rfl, HotPhase.form_compact _⟩
    (.cons ⟨rfl, WarmPhase.form_compact _⟩ (.cons ⟨rfl, DeletePhase.form_compact _⟩ .nil))

end Phases

namespace Policy

/-- The spellings of a policy. -/
def form : Form Policy :=
  layout.form fun _ => Phases.form

/-- **Every spelling of a policy is read as that policy.** -/
theorem reads : Reads layout.reader form :=
  Layout.reads_single Phases.reads

/-- **The text that is written of a policy** spells it. -/
theorem form_compact (p : Policy) : form p (Utf8.encode p.toJson.compact) :=
  Layout.form_compact_single (Phases.form_compact p.phases) rfl

end Policy

end LogSteward
