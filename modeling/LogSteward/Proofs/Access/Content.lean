import LogSteward.Proofs.Access.Format
import LogSteward.Proofs.Json.Repetition

/-!
# What roles say

The facets of a role and of the grants in it, with their keys and defaults.  The parts of a grant
have no defaults.  The forms of a role are what its facets make of it (`RoleDefinition.form_eq`),
and no text is read as a role that has one of the keys of a record twice (`RoleDefinition.strict`).
-/

namespace LogSteward

open Json

namespace IndexGrant

def facet : (f : Key) → Facet IndexGrant (layout.Value f)
  | .names => .required "names" names (.list .text)
  | .privileges => .required "privileges" privileges (.list .text)

def content : Content IndexGrant :=
  .record [⟨_, facet .names⟩, ⟨_, facet .privileges⟩]

theorem faceted : layout.Faceted facet where
  keys f := by cases f <;> rfl
  named f := by cases f <;> rfl
  build slots g h := by
    have names := Layout.eq_some_of_or_none (h .names)
    have privileges := Layout.eq_some_of_or_none (h .privileges)
    simp only [layout, names, privileges]
    rfl
  built slots g h f := by
    obtain ⟨_, h0, h⟩ := Option.bind_eq_some_iff.mp h
    obtain ⟨_, h1, h⟩ := Option.bind_eq_some_iff.mp h
    cases h
    cases f
    · exact Option.or_none.trans h0
    · exact Option.or_none.trans h1

theorem form_eq : form = content.conveys :=
  faceted.form_eq_conveys fun f => by cases f <;> rfl

theorem strict : Strict layout.reader content.repeats :=
  faceted.strict fun
    | .names | .privileges => strict_list (strict_plain takes_text)

end IndexGrant

namespace ApplicationGrant

def facet : (f : Key) → Facet ApplicationGrant (layout.Value f)
  | .application => .required "application" application .text
  | .privileges => .required "privileges" privileges (.list .text)
  | .resources => .required "resources" resources (.list .text)

def content : Content ApplicationGrant :=
  .record [⟨_, facet .application⟩, ⟨_, facet .privileges⟩, ⟨_, facet .resources⟩]

theorem faceted : layout.Faceted facet where
  keys f := by cases f <;> rfl
  named f := by cases f <;> rfl
  build slots g h := by
    have application := Layout.eq_some_of_or_none (h .application)
    have privileges := Layout.eq_some_of_or_none (h .privileges)
    have resources := Layout.eq_some_of_or_none (h .resources)
    simp only [layout, application, privileges, resources]
    rfl
  built slots g h f := by
    obtain ⟨_, h0, h⟩ := Option.bind_eq_some_iff.mp h
    obtain ⟨_, h1, h⟩ := Option.bind_eq_some_iff.mp h
    obtain ⟨_, h2, h⟩ := Option.bind_eq_some_iff.mp h
    cases h
    cases f
    · exact Option.or_none.trans h0
    · exact Option.or_none.trans h1
    · exact Option.or_none.trans h2

theorem form_eq : form = content.conveys :=
  faceted.form_eq_conveys fun f => by cases f <;> rfl

theorem strict : Strict layout.reader content.repeats :=
  faceted.strict fun
    | .application => strict_plain takes_text
    | .privileges | .resources => strict_list (strict_plain takes_text)

end ApplicationGrant

namespace RoleDefinition

def facet : (f : Key) → Facet RoleDefinition (layout.Value f)
  | .cluster => .defaulted "cluster" cluster [] (.list .text)
  | .indices => .defaulted "indices" indices [] IndexGrant.content.list
  | .applications => .defaulted "applications" applications [] ApplicationGrant.content.list

/-- What a text says of a role. -/
def content : Content RoleDefinition :=
  .record [⟨_, facet .cluster⟩, ⟨_, facet .indices⟩, ⟨_, facet .applications⟩]

theorem faceted : layout.Faceted facet where
  keys f := by cases f <;> rfl
  named f := by cases f <;> rfl
  build slots a h := by
    obtain ⟨_, _, _⟩ := a
    cases Layout.getD_of_or (h .cluster)
    cases Layout.getD_of_or (h .indices)
    cases Layout.getD_of_or (h .applications)
    rfl
  built := by
    rintro slots a ⟨⟩ f
    cases f <;> exact Option.or_some

/-- **The forms of a role** are what its facets make of it. -/
theorem form_eq : form = content.conveys :=
  faceted.form_eq_conveys fun
    | .cluster => rfl
    | .indices => congrArg listForm IndexGrant.form_eq
    | .applications => congrArg listForm ApplicationGrant.form_eq

/-- **Roles are read strictly.** -/
theorem strict : Strict layout.reader content.repeats :=
  faceted.strict fun
    | .cluster => strict_list (strict_plain takes_text)
    | .indices => strict_list IndexGrant.strict
    | .applications => strict_list ApplicationGrant.strict

end RoleDefinition

end LogSteward
