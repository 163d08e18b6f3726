import LogSteward.Proofs.Command.Passes

/-!
# Passwords of principals

What is asked of a store for principals, and what is noted on the way, does not depend on their
passwords, but for the bodies of the users that are written, where the passwords are
(`AccessDialogue.Alike`).
-/

namespace LogSteward

/-- Two computations over principals make the same notes and differ at most in the passwords of the
users that they write. -/
inductive AccessDialogue.Alike {ν α : Type} :
    Dialogue (Noting ν AccessCall.Answer) α → Dialogue (Noting ν AccessCall.Answer) α → Prop where
  | done (a : α) : Alike (.done a) (.done a)
  | same (q : AccessCall ⊕ ν)
      {next next' : Noting ν AccessCall.Answer q → Dialogue (Noting ν AccessCall.Answer) α}
      (goesOn : ∀ r, Alike (next r) (next' r)) : Alike (.ask q next) (.ask q next')
  | putUser (name : String) {b b' : UserBody}
      {next next' : Except RemoteError Unit → Dialogue (Noting ν AccessCall.Answer) α}
      (roles : b.roles = b'.roles) (goesOn : ∀ r, Alike (next r) (next' r)) :
      Alike (.ask (Sum.inl (.putUser name b)) next) (.ask (Sum.inl (.putUser name b')) next')

namespace AccessDialogue.Alike

variable {ν μ α β : Type} {d d' : Dialogue (Noting ν AccessCall.Answer) α}

theorem refl (d : Dialogue (Noting ν AccessCall.Answer) α) : Alike d d := by
  induction d with
  | done a => exact .done a
  | ask q next ih => exact .same q ih

theorem andThen {f f' : α → Dialogue (Noting ν AccessCall.Answer) β} (h : Alike d d')
    (hf : ∀ a, Alike (f a) (f' a)) : Alike (d.andThen f) (d'.andThen f') := by
  induction h with
  | done a => exact hf a
  | same q goesOn ih => exact .same q ih
  | putUser name roles goesOn ih => exact .putUser name roles ih

theorem noted (ns : List ν) (h : Alike d d') : Alike (.noted ns d) (.noted ns d') := by
  induction ns with
  | nil => exact h
  | cons n ns ih => exact .same (.inr n) fun _ => ih

theorem mapNotes (f : ν → μ) (h : Alike d d') : Alike (d.mapNotes f) (d'.mapNotes f) := by
  induction h with
  | done a => exact .done a
  | same q goesOn ih =>
    cases q with
    | inl q => exact .same (.inl q) ih
    | inr n => exact .same (.inr (f n)) fun _ => ih ()
  | putUser name roles goesOn ih => exact .putUser name roles ih

/-- A principal is written in the same way whatever its password is, and the same is logged. -/
theorem create (p : Principal) (password password' : String) :
    Alike (p.withPassword password).createNoting (p.withPassword password').createNoting := by
  refine .andThen ?_ fun r => .refl _
  unfold Principal.create AccessDialogue.unlessFailed
  rw [Dialogue.commented_andThen, Dialogue.commented_andThen]
  refine .andThen (.refl _) fun r => ?_
  cases r with
  | error e => exact .done _
  | ok _ => exact .putUser p.username rfl fun _ => .done _

/-- Principals are provisioned in the same way whatever their password is. -/
theorem takeEach (verb : String) (ps : List Principal) (password password' : String) :
    Alike (takeEach verb Principal.createNoting (ps.map (·.withPassword password)))
      (takeEach verb Principal.createNoting (ps.map (·.withPassword password'))) := by
  induction ps with
  | nil => exact .done _
  | cons p ps ih =>
    refine ((create p password password').mapNotes _).andThen fun r => ?_
    cases r with
    | error e => exact .done _
    | ok _ => exact ih.noted _

end AccessDialogue.Alike

end LogSteward
