import LogSteward.Proofs.Access.Content
import LogSteward.Proofs.Lifecycle.Content
import LogSteward.Proofs.Retention.Content

/-!
# Documents mean what they say

What a document is decoded to depends on its content alone (`documents_read_by_content`): every text
that says that a document is `a`, in whatever order, with whatever blanks, escapes and additions, is
decoded to `a`, and a text that contradicts itself is not decoded at all.
-/

namespace LogSteward

open Json

namespace Json.Content

/-- The text says that the value is `a`, with blanks around what it says. -/
def Tells (c : Content α) (a : α) (s : String) : Prop :=
  ∃ w t w', Blanks w ∧ c.conveys a t ∧ Blanks w' ∧ Utf8.encode s = w ++ (t ++ w')

/-- Some record in the text has one of its keys twice. -/
def Contradicts (c : Content α) (s : String) : Prop :=
  ∃ w t, Blanks w ∧ c.repeats t ∧ Utf8.encode s = w ++ t

end Json.Content

/-- Texts are decoded by what they say. -/
structure ReadByContent (encode : α → String) (decode : String → Except Fault α)
    (c : Content α) : Prop where
  written : ∀ a, c.Tells a (encode a)
  told : ∀ a s, c.Tells a s → decode s = .ok a
  contradicted : ∀ a s, c.Contradicts s → decode s ≠ .ok a

/-- What a record needs for its documents to be read by their content. -/
theorem ReadByContent.of_reads {read : Reader α} {F : Form α} {c : Content α} {write : α → Json}
    (reads : Reads read F) (form : F = c.conveys) (strict : Strict read c.repeats)
    (compact : ∀ a, F a (Utf8.encode (write a).compact)) :
    ReadByContent (fun a => (write a).compact) (decode read) c where
  written a := by
    refine ⟨[], _, [], blanks_nil, form ▸ compact a, blanks_nil, ?_⟩
    rw [List.nil_append, List.append_nil]
  told := by
    rintro a s ⟨w, t, w', hw, ht, hw', hs⟩
    rw [decode, hs]
    exact reads.decodeOctets hw (form.symm ▸ ht) hw'
  contradicted := by
    rintro a s ⟨w, t, hw, ht, hs⟩
    rw [decode, hs]
    exact strict.decodeOctets hw ht a

/-- **Documents are read by their content.**  A text that says what a policy, a role or settings are
is decoded to just that, and none that has a key of one of their records twice is decoded. -/
theorem documents_read_by_content :
    ReadByContent Policy.encode Policy.decode Policy.content ∧
      ReadByContent RoleDefinition.encode RoleDefinition.decode RoleDefinition.content ∧
      ReadByContent StorageSettings.encode StorageSettings.decode StorageSettings.content :=
  ⟨.of_reads Policy.reads Policy.form_eq Policy.strict Policy.form_compact,
    .of_reads RoleDefinition.reads RoleDefinition.form_eq RoleDefinition.strict
      RoleDefinition.form_compact,
    .of_reads StorageSettings.reads StorageSettings.form_eq StorageSettings.strict
      StorageSettings.form_compact⟩

end LogSteward
