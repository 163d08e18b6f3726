import LogSteward.Remote.Noting

/-!
# Laws of notes

What is heard of a computation in parts is what is heard of the parts, one after the other
(`heard_andThen`), and notes of another kind are heard as these (`heard_mapNotes`).  `silent` drops
all notes.  Putting questions in terms of others commutes with it, and whatever is noted of answers
and results, the silent computation is the one that was there before (`silent_commented`,
`silent_concluded`).
-/

namespace LogSteward.Dialogue

variable {ν μ Q R : Type} {A : Q → Type} {B : R → Type} {α β : Type}

/-! ### What is heard -/

/-- Of two steps, the notes of the first are heard before those of the second. -/
theorem heard_andThen (d : Dialogue (Noting ν A) α) (f : α → Dialogue (Noting ν A) β) :
    (d.andThen f).heard = d.heard.andThen fun (ns, a) =>
      (f a).heard.andThen fun (ms, b) => done (ns ++ ms, b) := by
  induction d with
  | done a => exact (andThen_done _).symm
  | ask q next ih =>
    cases q with
    | inl q => exact congrArg (ask q) (funext ih)
    | inr n =>
      simp only [andThen, heard, ih, andThen_assoc]
      rfl

theorem heard_noted (ns : List ν) (d : Dialogue (Noting ν A) α) :
    (noted ns d).heard = d.heard.andThen fun (ms, a) => done (ns ++ ms, a) := by
  induction ns with
  | nil => exact (andThen_done _).symm
  | cons n ns ih =>
    simp only [noted, heard, ih, andThen_assoc]
    rfl

/-- Notes of another kind are heard as these. -/
theorem heard_mapNotes (f : ν → μ) (d : Dialogue (Noting ν A) α) :
    (d.mapNotes f).heard = d.heard.andThen fun (ns, a) => done (ns.map f, a) := by
  induction d with
  | done a => rfl
  | ask q next ih =>
    cases q with
    | inl q => exact congrArg (ask q) (funext ih)
    | inr n =>
      simp only [mapNotes, heard, ih, andThen_assoc]
      rfl

/-! ### Notes on answers -/

theorem noted_andThen (ns : List ν) (d : Dialogue (Noting ν A) α)
    (f : α → Dialogue (Noting ν A) β) : (noted ns d).andThen f = noted ns (d.andThen f) := by
  induction ns with
  | nil => rfl
  | cons n ns ih => exact congrArg (ask (Sum.inr n)) (funext fun _ => ih)

/-- The answers in two steps are commented on in each of them. -/
theorem commented_andThen (remarks : (q : Q) → A q → List ν) (d : Dialogue A α)
    (f : α → Dialogue A β) :
    (d.andThen f).commented remarks
      = (d.commented remarks).andThen fun a => (f a).commented remarks := by
  induction d with
  | done a => rfl
  | ask q next ih =>
    refine congrArg (ask (Sum.inl q)) (funext fun r => ?_)
    exact (congrArg (noted _) (ih r)).trans (noted_andThen _ _ _).symm

/-! ### Without notes -/

/-- The computation without its notes. -/
def silent : Dialogue (Noting ν A) α → Dialogue A α
  | done a => done a
  | ask (.inl q) next => ask q fun r => (next r).silent
  | ask (.inr _) next => (next ()).silent

theorem silent_andThen (d : Dialogue (Noting ν A) α) (f : α → Dialogue (Noting ν A) β) :
    (d.andThen f).silent = d.silent.andThen fun a => (f a).silent := by
  induction d with
  | done a => rfl
  | ask q next ih =>
    cases q with
    | inl q => exact congrArg (ask q) (funext ih)
    | inr n => exact ih ()

theorem silent_noted (ns : List ν) (d : Dialogue (Noting ν A) α) :
    (noted ns d).silent = d.silent := by
  induction ns with
  | nil => rfl
  | cons n ns ih => exact ih

/-- Without its notes, a commented dialogue is the one that was there before. -/
theorem silent_commented (remarks : (q : Q) → A q → List ν) (d : Dialogue A α) :
    (d.commented remarks).silent = d := by
  induction d with
  | done a => rfl
  | ask q next ih => exact congrArg (ask q) (funext fun r => (silent_noted _ _).trans (ih r))

/-- Notes on the result do not change it. -/
theorem silent_concluded (remarks : α → List ν) (d : Dialogue A α) :
    (d.concluded remarks).silent = d := by
  rw [concluded, silent_andThen, silent_commented]
  simp only [silent_noted]
  exact andThen_done d

/-- Questions that are put in terms of others, with notes of their own. -/
theorem silent_interpretNoting (put : (q : Q) → Dialogue (Noting ν B) (A q))
    (d : Dialogue (Noting ν A) α) :
    (d.interpretNoting put).silent = d.silent.interpret fun q => (put q).silent := by
  induction d with
  | done a => rfl
  | ask q next ih =>
    cases q with
    | inl q =>
      refine (silent_andThen _ _).trans ?_
      exact congrArg _ (funext ih)
    | inr n => exact ih ()

end LogSteward.Dialogue
