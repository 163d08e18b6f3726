import LogSteward.Proofs.Access.Targets
import LogSteward.Proofs.Remote.Stops
import LogSteward.Proofs.Retention.Visits

/-!
# The calls of a task

What a task does with a store gives up at the first call that fails, and for no other reason: passes
over policies, listings, and everything that is done with the principals of a target, whose roles
all have names.
-/

namespace LogSteward

open Dialogue

/-! ### Policies -/

/-- The call has failed; to learn that there is no policy is no failure. -/
def PolicyCall.Failed (t : Turn PolicyCall.Answer) : Prop :=
  ∃ e, failure? t = some e

section Policies

variable {α : Type}

/-- A computation over policies that gives up at the first failure. -/
abbrev PolicyDialogue.Stops (d : PolicyDialogue (Except PolicyError α)) : Prop :=
  Dialogue.Stops PolicyCall.Failed (∃ a, · = .ok a) (∃ e, · = .error e) d

/-- Writing a policy stops at the write if that fails. -/
theorem stops_writePolicy (name : String) (t : Thresholds) (outcome : PolicyOutcome) :
    (writePolicy name t outcome).Stops
  | .ok () => ⟨fun ⟨_, h⟩ => (nomatch h), fun _ => ⟨_, rfl⟩⟩
  | .error e => ⟨fun _ => ⟨_, rfl, _, rfl⟩, fun clear => absurd ⟨e, rfl⟩ clear⟩

/-- Reconciling one policy stops at its first call that fails. -/
theorem stops_reconcilePolicy (name : String) (t : Thresholds) :
    (reconcilePolicy name t).Stops := by
  intro r
  cases r with
  | ok stored =>
    refine ⟨fun ⟨_, h⟩ => (nomatch h), fun _ => ?_⟩
    simp only
    split
    · exact ⟨_, rfl⟩
    · exact stops_writePolicy name t _
  | error e =>
    simp only [PolicyCall.Failed, PolicyCall.failure?]
    by_cases gone : e.isNotFound = true
    · simp only [if_pos gone]
      exact ⟨fun ⟨_, h⟩ => (nomatch h), fun _ => stops_writePolicy name t _⟩
    · simp only [if_neg gone]
      exact ⟨fun _ => ⟨_, rfl, _, rfl⟩, fun clear => absurd ⟨e, rfl⟩ clear⟩

/-- A pass over policies stops at its first call that fails. -/
theorem stops_reconcileEntries (es : List PlannedPolicy) : (reconcileEntries es).Stops := by
  induction es with
  | nil => exact ⟨_, rfl⟩
  | cons e es ih =>
    refine (stops_reconcilePolicy e.name e.thresholds).andThen ?_ ?_
    · rintro _ ⟨o, rfl⟩
      refine ih.andThen ?_ ?_
      · rintro _ ⟨os, rfl⟩
        exact ⟨_, rfl⟩
      · rintro _ ⟨err, rfl⟩
        exact ⟨_, rfl, _, rfl⟩
    · rintro _ ⟨err, rfl⟩
      exact ⟨_, rfl, _, rfl⟩

end Policies

/-! ### Principals -/

def AccessCall.Failed (t : Turn AccessCall.Answer) : Prop :=
  ∃ e, t.1.verdict t.2 = .error e

/-- The failure is that of a call. -/
def AccessError.IsRemote (e : AccessError) : Prop :=
  ∃ op name source, e = .remote op name source

section Access

variable {α : Type}

/-- A computation over principals that gives up at the first call that fails, and for no other
reason. -/
abbrev AccessDialogue.Stops (d : AccessDialogue (Except AccessError α)) : Prop :=
  Dialogue.Stops AccessCall.Failed (∃ a, · = .ok a) (∃ e, · = .error e ∧ e.IsRemote) d

theorem stops_made (c : AccessCall) : c.made.Stops := by
  intro r
  simp only [AccessCall.Failed]
  cases c.verdict r with
  | ok _ => exact ⟨fun ⟨_, h⟩ => (nomatch h), fun _ => ⟨_, rfl⟩⟩
  | error e => exact ⟨fun _ => ⟨_, rfl, _, rfl, _, _, _, rfl⟩, fun clear => absurd ⟨e, rfl⟩ clear⟩

/-- Calls that are made in turn stop at the first one that fails. -/
theorem stops_inTurn (cs : List AccessCall) : (inTurn cs (.ok ())).Stops := by
  induction cs with
  | nil => exact ⟨_, rfl⟩
  | cons c cs ih =>
    refine (stops_made c).andThen ?_ ?_
    · rintro _ ⟨_, rfl⟩
      exact ih
    · rintro _ ⟨e, rfl, remote⟩
      exact ⟨_, rfl, e, rfl, remote⟩

theorem stops_listAll : Principal.listAll.Stops := by
  intro r
  cases r with
  | ok us => exact ⟨fun ⟨_, h⟩ => (nomatch h), fun _ => ⟨_, rfl⟩⟩
  | error e => exact ⟨fun _ => ⟨_, rfl, _, rfl, _, _, _, rfl⟩, fun clear => absurd ⟨e, rfl⟩ clear⟩

namespace Principal

/-- Where all roles have names, a deletion is nothing but calls that are made in turn. -/
theorem delete_named {p : Principal} (h : "" ∉ p.roleNames) :
    p.delete = inTurn (p.roleNames.map .deleteRole ++ [.deleteUser p.username]) (.ok ()) := by
  have all : p.roleNames.takeWhile (· ≠ "") = p.roleNames :=
    List.takeWhile_eq_self_iff.mpr fun n hn => decide_eq_true fun he => h (he ▸ hn)
  rw [delete_eq, refusal, if_neg h, all, inTurn_unlessFailed]

/-- A principal with a role of its own is created up to the first call that fails. -/
theorem HasOwnRole.stops_create {p : Principal} (own : p.HasOwnRole) : p.create.Stops := by
  have named : "" ∉ p.defined.map Prod.fst := by
    rw [own.defined]
    exact fun h => own.named (List.mem_singleton.mp h).symm
  rw [create_named named]
  exact stops_inTurn _

/-- A principal whose roles have names is deleted up to the first call that fails. -/
theorem stops_delete {p : Principal} (named : "" ∉ p.roleNames) : p.delete.Stops := by
  rw [delete_named named]
  exact stops_inTurn _

end Principal

/-- The ending is that of a failed call. -/
def Ending.IsRemote (e : Ending) : Prop :=
  ∃ f, e.failure = some (.access f) ∧ f.IsRemote

/-- To take principals one by one stops where taking one of them does. -/
theorem stops_confirmEach {verb : String}
    {act : Principal → AccessDialogue (Except AccessError Unit)} {ps : List Principal}
    (h : ∀ p ∈ ps, (act p).Stops) :
    Dialogue.Stops AccessCall.Failed (·.failure = none) Ending.IsRemote
      (confirmEach verb act ps) := by
  induction ps with
  | nil => rfl
  | cons p ps ih =>
    obtain ⟨hp, hps⟩ := List.forall_mem_cons.mp h
    refine hp.andThen ?_ ?_
    · rintro _ ⟨_, rfl⟩
      exact (ih hps).andThen (fun e good => good) fun e bad => ⟨_, rfl, bad⟩
    · rintro _ ⟨e, rfl, remote⟩
      exact ⟨_, rfl, e, rfl, remote⟩

/-- A provision stops at the first call that fails, whatever the target is. -/
theorem Target.stops_provision (t : Target) (password : String) :
    Dialogue.Stops AccessCall.Failed (·.failure = none) Ending.IsRemote (t.provision password) :=
  stops_confirmEach fun p mem => (t.hasOwnRole_accounts password p mem).stops_create

theorem Target.stops_retraction (t : Target) :
    Dialogue.Stops AccessCall.Failed (·.failure = none) Ending.IsRemote t.retraction := by
  refine stops_confirmEach fun p mem => Principal.stops_delete fun unnamed => ?_
  exact t.named "" (List.mem_flatMap.mpr ⟨p, mem, unnamed⟩) rfl

end Access

end LogSteward
