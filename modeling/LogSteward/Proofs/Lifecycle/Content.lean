import LogSteward.Proofs.Json.Repetition
import LogSteward.Proofs.Lifecycle.Format

/-!
# What policies say

The facets of a policy and of its parts, with their keys and defaults.  The forms of a policy are
what its facets make of it (`Policy.form_eq`), and no text is read as a policy that has one of the
keys of a record twice (`Policy.strict`).
-/

namespace LogSteward

open Json

namespace Rollover

def facet : (f : Key) → Facet Rollover (layout.Value f)
  | .maxSize => .defaulted "max_size" maxSize "" .text
  | .maxAge => .defaulted "max_age" maxAge "" .text

def content : Content Rollover :=
  .record [⟨_, facet .maxSize⟩, ⟨_, facet .maxAge⟩]

theorem faceted : layout.Faceted facet where
  keys f := by cases f <;> rfl
  named f := by cases f <;> rfl
  build slots r h := by
    obtain ⟨size, age⟩ := r
    cases Layout.getD_of_or (h .maxSize)
    cases Layout.getD_of_or (h .maxAge)
    rfl
  built := by
    rintro slots r ⟨⟩ f
    cases f <;> exact Option.or_some

theorem form_eq : form = content.conveys :=
  faceted.form_eq_conveys fun f => by cases f <;> rfl

theorem strict : Strict layout.reader content.repeats :=
  faceted.strict fun
    | .maxSize | .maxAge => strict_plain takes_text

end Rollover

namespace SetPriority

def facet : Facet SetPriority UInt32 :=
  .required "priority" priority (.whole fun n => n.toNat)

def content : Content SetPriority :=
  .record [⟨_, facet⟩]

theorem faceted : layout.Faceted fun _ => facet where
  keys f := rfl
  named _ := rfl
  build slots p h := by
    have hp : slots () = some p.priority := Layout.eq_some_of_or_none (h ())
    simp only [layout, Layout.single, hp, Option.map_some]
  built slots p h f := by
    obtain ⟨n, hn, rfl⟩ := Option.map_eq_some_iff.mp h
    exact Option.or_none.trans hn

theorem form_eq : form = content.conveys :=
  faceted.form_eq_conveys fun _ => rfl

theorem strict : Strict layout.reader content.repeats :=
  faceted.strict fun _ => strict_plain (takes_integer uint32?)

end SetPriority

namespace Bare

/-- Any object says as much. -/
def content : Content Bare :=
  .record []

theorem faceted : layout.Faceted nofun where
  keys := nofun
  named := nofun
  build _ _ _ := rfl
  built := nofun

theorem form_eq : form = content.conveys :=
  faceted.form_eq_conveys nofun

theorem strict : Strict layout.reader content.repeats :=
  faceted.strict nofun

end Bare

namespace HotActions

def facet : (f : Key) → Facet HotActions (layout.Value f)
  | .rollover => .defaulted "rollover" rollover {} Rollover.content
  | .setPriority => .defaulted "set_priority" setPriority none SetPriority.content.option

def content : Content HotActions :=
  .record [⟨_, facet .rollover⟩, ⟨_, facet .setPriority⟩]

theorem faceted : layout.Faceted facet where
  keys f := by cases f <;> rfl
  named f := by cases f <;> rfl
  build slots a h := by
    obtain ⟨rollover, priority⟩ := a
    cases Layout.getD_of_or (h .rollover)
    cases Layout.getD_of_or (h .setPriority)
    rfl
  built := by
    rintro slots a ⟨⟩ f
    cases f <;> exact Option.or_some

theorem form_eq : form = content.conveys :=
  faceted.form_eq_conveys fun
    | .rollover => Rollover.form_eq
    | .setPriority => congrArg optionForm SetPriority.form_eq

theorem strict : Strict layout.reader content.repeats :=
  faceted.strict fun
    | .rollover => Rollover.strict
    | .setPriority => strict_option SetPriority.strict

end HotActions

namespace HotPhase

def facet : Facet HotPhase HotActions :=
  .defaulted "actions" actions {} HotActions.content

def content : Content HotPhase :=
  .record [⟨_, facet⟩]

theorem faceted : layout.Faceted fun _ => facet :=
  Layout.faceted_single _ _ mk _ _ _ (fun _ => rfl) fun _ => rfl

theorem form_eq : form = content.conveys :=
  faceted.form_eq_conveys fun _ => HotActions.form_eq

theorem strict : Strict layout.reader content.repeats :=
  faceted.strict fun _ => HotActions.strict

end HotPhase

namespace WarmActions

def facet : (f : Key) → Facet WarmActions (layout.Value f)
  | .setPriority => .defaulted "set_priority" setPriority none SetPriority.content.option
  | .readonly => .defaulted "readonly" readonly none Bare.content.option

def content : Content WarmActions :=
  .record [⟨_, facet .setPriority⟩, ⟨_, facet .readonly⟩]

theorem faceted : layout.Faceted facet where
  keys f := by cases f <;> rfl
  named f := by cases f <;> rfl
  build slots a h := by
    obtain ⟨_, _⟩ := a
    cases Layout.getD_of_or (h .setPriority)
    cases Layout.getD_of_or (h .readonly)
    rfl
  built := by
    rintro slots a ⟨⟩ f
    cases f <;> exact Option.or_some

theorem form_eq : form = content.conveys :=
  faceted.form_eq_conveys fun
    | .setPriority => congrArg optionForm SetPriority.form_eq
    | .readonly => congrArg optionForm Bare.form_eq

theorem strict : Strict layout.reader content.repeats :=
  faceted.strict fun
    | .setPriority => strict_option SetPriority.strict
    | .readonly => strict_option Bare.strict

end WarmActions

namespace WarmPhase

def facet : Facet WarmPhase WarmActions :=
  .defaulted "actions" actions {} WarmActions.content

def content : Content WarmPhase :=
  .record [⟨_, facet⟩]

theorem faceted : layout.Faceted fun _ => facet :=
  Layout.faceted_single _ _ mk _ _ _ (fun _ => rfl) fun _ => rfl

theorem form_eq : form = content.conveys :=
  faceted.form_eq_conveys fun _ => WarmActions.form_eq

theorem strict : Strict layout.reader content.repeats :=
  faceted.strict fun _ => WarmActions.strict

end WarmPhase

namespace DeleteActions

def facet : Facet DeleteActions (Option Bare) :=
  .defaulted "delete" delete none Bare.content.option

def content : Content DeleteActions :=
  .record [⟨_, facet⟩]

theorem faceted : layout.Faceted fun _ => facet :=
  Layout.faceted_single _ _ mk _ _ _ (fun _ => rfl) fun _ => rfl

theorem form_eq : form = content.conveys :=
  faceted.form_eq_conveys fun _ => congrArg optionForm Bare.form_eq

theorem strict : Strict layout.reader content.repeats :=
  faceted.strict fun _ => strict_option Bare.strict

end DeleteActions

namespace DeletePhase

def facet : (f : Key) → Facet DeletePhase (layout.Value f)
  | .minAge => .defaulted "min_age" minAge "" .text
  | .actions => .defaulted "actions" actions {} DeleteActions.content

def content : Content DeletePhase :=
  .record [⟨_, facet .minAge⟩, ⟨_, facet .actions⟩]

theorem faceted : layout.Faceted facet where
  keys f := by cases f <;> rfl
  named f := by cases f <;> rfl
  build slots a h := by
    obtain ⟨_, _⟩ := a
    cases Layout.getD_of_or (h .minAge)
    cases Layout.getD_of_or (h .actions)
    rfl
  built := by
    rintro slots a ⟨⟩ f
    cases f <;> exact Option.or_some

theorem form_eq : form = content.conveys :=
  faceted.form_eq_conveys fun
    | .minAge => rfl
    | .actions => DeleteActions.form_eq

theorem strict : Strict layout.reader content.repeats :=
  faceted.strict fun
    | .minAge => strict_plain takes_text
    | .actions => DeleteActions.strict

end DeletePhase

namespace Phases

def facet : (f : Key) → Facet Phases (layout.Value f)
  | .hot => .defaulted "hot" hot {} HotPhase.content
  | .warm => .defaulted "warm" warm {} WarmPhase.content
  | .delete => .defaulted "delete" delete {} DeletePhase.content

def content : Content Phases :=
  .record [⟨_, facet .hot⟩, ⟨_, facet .warm⟩, ⟨_, facet .delete⟩]

theorem faceted : layout.Faceted facet where
  keys f := by cases f <;> rfl
  named f := by cases f <;> rfl
  build slots a h := by
    obtain ⟨_, _, _⟩ := a
    cases Layout.getD_of_or (h .hot)
    cases Layout.getD_of_or (h .warm)
    cases Layout.getD_of_or (h .delete)
    rfl
  built := by
    rintro slots a ⟨⟩ f
    cases f <;> exact Option.or_some

theorem form_eq : form = content.conveys :=
  faceted.form_eq_conveys fun
    | .hot => HotPhase.form_eq
    | .warm => WarmPhase.form_eq
    | .delete => DeletePhase.form_eq

theorem strict : Strict layout.reader content.repeats :=
  faceted.strict fun
    | .hot => HotPhase.strict
    | .warm => WarmPhase.strict
    | .delete => DeletePhase.strict

end Phases

namespace Policy

def facet : Facet Policy Phases :=
  .defaulted "phases" phases {} Phases.content

/-- What a text says of a policy. -/
def content : Content Policy :=
  .record [⟨_, facet⟩]

theorem faceted : layout.Faceted fun _ => facet :=
  Layout.faceted_single _ _ mk _ _ _ (fun _ => rfl) fun _ => rfl

/-- **The forms of a policy** are what its facets make of it. -/
theorem form_eq : form = content.conveys :=
  faceted.form_eq_conveys fun _ => Phases.form_eq

/-- **Policies are read strictly.** -/
theorem strict : Strict layout.reader content.repeats :=
  faceted.strict fun _ => Phases.strict

end Policy

end LogSteward
