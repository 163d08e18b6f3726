import LogSteward.Access.Principal
import LogSteward.Proofs.Json.Lists

/-!
# Roles and users there and back

The spellings of a role (`RoleDefinition.form`) and of the grants in it.  All of them are read as
that role, and the text that is written of a role is one of them.  The list of applications is left
out of it when it is empty.

What is written of a user is its password and the names of its roles: a reader of such records gets
back both (`UserBody.decode_encode`).
-/

namespace LogSteward

open Json

namespace IndexGrant

def form : Form IndexGrant :=
  layout.form fun _ => listForm textForm

theorem reads : Reads layout.reader form :=
  Layout.reads_reader (fun f => by cases f <;> rfl) fun _ => reads_list reads_text element_text

theorem form_compact (g : IndexGrant) : form g (Utf8.encode g.toJson.compact) := by
  have nodup : [Key.names, Key.privileges].Nodup := by decide
  refine Layout.form_compact [⟨Key.names, g.names⟩, ⟨Key.privileges, g.privileges⟩] nodup ?_ rfl
  exact .cons ⟨rfl, listForm_compact textForm_compact _⟩
    (.cons ⟨rfl, listForm_compact textForm_compact _⟩ .nil)

end IndexGrant

namespace ApplicationGrant

def form : Form ApplicationGrant :=
  layout.form fun
    | .application => textForm
    | .privileges | .resources => listForm textForm

theorem reads : Reads layout.reader form :=
  Layout.reads_reader (fun f => by cases f <;> rfl) fun
    | .application => reads_text
    | .privileges | .resources => reads_list reads_text element_text

theorem form_compact (g : ApplicationGrant) : form g (Utf8.encode g.toJson.compact) := by
  have nodup : [Key.application, Key.privileges, Key.resources].Nodup := by decide
  refine Layout.form_compact
    [⟨Key.application, g.application⟩, ⟨Key.privileges, g.privileges⟩,
      ⟨Key.resources, g.resources⟩] nodup ?_ rfl
  exact .cons ⟨rfl, textForm_compact _⟩
    (.cons ⟨rfl, listForm_compact textForm_compact _⟩
      (.cons ⟨rfl, listForm_compact textForm_compact _⟩ .nil))

end ApplicationGrant

namespace RoleDefinition

/-- The spellings of a role. -/
def form : Form RoleDefinition :=
  layout.form fun
    | .cluster => listForm textForm
    | .indices => listForm IndexGrant.form
    | .applications => listForm ApplicationGrant.form

/-- **Every spelling of a role is read as that role.** -/
theorem reads : Reads layout.reader form :=
  Layout.reads_reader (fun f => by cases f <;> rfl) fun
    | .cluster => reads_list reads_text element_text
    | .indices => reads_list IndexGrant.reads Layout.element_form
    | .applications => reads_list ApplicationGrant.reads Layout.element_form

/-- **The text that is written of a role** spells it. -/
theorem form_compact (r : RoleDefinition) : form r (Utf8.encode r.toJson.compact) := by
  obtain ⟨cluster, indices, applications⟩ := r
  cases applications with
  | nil =>
      have nodup : [Key.cluster, Key.indices].Nodup := by decide
      refine Layout.form_compact [⟨Key.cluster, cluster⟩, ⟨Key.indices, indices⟩] nodup ?_ rfl
      exact .cons ⟨rfl, listForm_compact textForm_compact _⟩
        (.cons ⟨rfl, listForm_compact IndexGrant.form_compact _⟩ .nil)
  | cons g gs =>
      have nodup : [Key.cluster, Key.indices, Key.applications].Nodup := by decide
      refine Layout.form_compact
        [⟨Key.cluster, cluster⟩, ⟨Key.indices, indices⟩, ⟨Key.applications, g :: gs⟩] nodup ?_ rfl
      exact .cons ⟨rfl, listForm_compact textForm_compact _⟩
        (.cons ⟨rfl, listForm_compact IndexGrant.form_compact _⟩
          (.cons ⟨rfl, listForm_compact ApplicationGrant.form_compact _⟩ .nil))

end RoleDefinition

namespace UserBody

inductive Key where
  | password
  | roles
deriving DecidableEq

/-- A user that is written: the password, and the names of the roles. -/
def layout : Layout UserBody where
  Field := Key
  fields := [.password, .roles]
  key
    | .password => "password"
    | .roles => "roles"
  Value
    | .password => String
    | .roles => List String
  read
    | .password => readText
    | .roles => readList readText
  build? slots := do
    return { password := ← slots .password, roles := ← slots .roles }

def form : Form UserBody :=
  layout.form fun
    | .password => textForm
    | .roles => listForm textForm

theorem reads : Reads layout.reader form :=
  Layout.reads_reader (fun f => by cases f <;> rfl) fun
    | .password => reads_text
    | .roles => reads_list reads_text element_text

theorem form_compact (b : UserBody) : form b (Utf8.encode b.toJson.compact) := by
  have nodup : [Key.password, Key.roles].Nodup := by decide
  refine Layout.form_compact [⟨Key.password, b.password⟩, ⟨Key.roles, b.roles⟩] nodup ?_ rfl
  exact .cons ⟨rfl, textForm_compact _⟩ (.cons ⟨rfl, listForm_compact textForm_compact _⟩ .nil)

/-- **What is written of a user** is read back as its password and its roles. -/
theorem decode_encode (b : UserBody) : decode layout.reader b.encode = .ok b := by
  have read := reads.decodeOctets blanks_nil b.form_compact blanks_nil
  rwa [List.nil_append, List.append_nil] at read

end UserBody

end LogSteward
