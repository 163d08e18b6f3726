import LogSteward.Proofs.Access.Format
import LogSteward.Proofs.Lifecycle.Format
import LogSteward.Proofs.Retention.Format

/-!
# Documents there and back

Whatever document is written, whole or in part, is read back from its compact text
(`documents_round_trip`).  So the text tells everything about the document: an action that is left
out, a list of applications that is left out and a retention value that is `null` each stand for one
value only.
-/

namespace LogSteward

open Json

/-- What is written is read back, and so no two values have the same text. -/
structure RoundTrips (read : Reader α) (write : α → Json) : Prop where
  decode_compact : ∀ a, decode read (write a).compact = .ok a
  injective : Function.Injective fun a => (write a).compact

/-- A reader that takes every spelling of a value takes the one that is written. -/
theorem RoundTrips.of_reads {read : Reader α} {F : Form α} {write : α → Json}
    (reads : Reads read F) (compact : ∀ a, F a (Utf8.encode (write a).compact)) :
    RoundTrips read write := by
  have decode_compact : ∀ a, decode read (write a).compact = .ok a := fun a => by
    have := reads.decodeOctets blanks_nil (compact a) blanks_nil
    rwa [List.nil_append, List.append_nil] at this
  refine ⟨decode_compact, fun a b (h : (write a).compact = (write b).compact) => ?_⟩
  have ha := decode_compact a
  rw [h, decode_compact b] at ha
  exact (Except.ok.inj ha).symm

/-- **Every document is read back from its text**: policies, roles and settings, and the parts that
they are made of. -/
theorem documents_round_trip :
    (RoundTrips Policy.layout.reader Policy.toJson ∧
      RoundTrips Phases.layout.reader Phases.toJson ∧
      RoundTrips Rollover.layout.reader Rollover.toJson ∧
      RoundTrips SetPriority.layout.reader SetPriority.toJson ∧
      RoundTrips WarmActions.layout.reader WarmActions.toJson ∧
      RoundTrips DeletePhase.layout.reader DeletePhase.toJson) ∧
    (RoundTrips RoleDefinition.layout.reader RoleDefinition.toJson ∧
      RoundTrips IndexGrant.layout.reader IndexGrant.toJson ∧
      RoundTrips ApplicationGrant.layout.reader ApplicationGrant.toJson) ∧
    (RoundTrips StorageSettings.layout.reader StorageSettings.toJson ∧
      RoundTrips RetentionWindows.layout.reader RetentionWindows.toJson) :=
  ⟨⟨.of_reads Policy.reads Policy.form_compact,
      .of_reads Phases.reads Phases.form_compact,
      .of_reads Rollover.reads Rollover.form_compact,
      .of_reads SetPriority.reads SetPriority.form_compact,
      .of_reads WarmActions.reads WarmActions.form_compact,
      .of_reads DeletePhase.reads DeletePhase.form_compact⟩,
    ⟨.of_reads RoleDefinition.reads RoleDefinition.form_compact,
      .of_reads IndexGrant.reads IndexGrant.form_compact,
      .of_reads ApplicationGrant.reads ApplicationGrant.form_compact⟩,
    ⟨.of_reads StorageSettings.reads StorageSettings.form_compact,
      .of_reads RetentionWindows.reads RetentionWindows.form_compact⟩⟩

end LogSteward
