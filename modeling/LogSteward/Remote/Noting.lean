import LogSteward.Remote.Dialogue

/-!
# Notes in a dialogue

A computation that puts something out on its way, besides asking questions: a note is a question
that needs no answer.  So notes stand in the computation where they are made, between the questions,
also if these are put in terms of other questions.  `Dialogue.heard` gathers them beside the result.
-/

namespace LogSteward

/-- What is answered to questions and to notes; notes are only taken down. -/
abbrev Noting (ν : Type) {Q : Type} (A : Q → Type) : Q ⊕ ν → Type
  | .inl q => A q
  | .inr _ => Unit

namespace Dialogue

variable {ν μ Q R : Type} {A : Q → Type} {B : R → Type} {α : Type}

/-- Makes notes and goes on. -/
def noted : List ν → Dialogue (Noting ν A) α → Dialogue (Noting ν A) α
  | [], d => d
  | n :: ns, d => ask (Sum.inr n) fun () => noted ns d

/-- Makes notes on every answer. -/
def commented (remarks : (q : Q) → A q → List ν) : Dialogue A α → Dialogue (Noting ν A) α
  | done a => done a
  | ask q next => ask (Sum.inl q) fun r => noted (remarks q r) ((next r).commented remarks)

/-- Makes notes on the result. -/
def concluded (remarks : α → List ν) (d : Dialogue A α) : Dialogue (Noting ν A) α :=
  (d.commented fun _ _ => []).andThen fun a => noted (remarks a) (done a)

/-- Puts each question in terms of others and makes the same notes. -/
def interpretNoting (put : (q : Q) → Dialogue (Noting ν B) (A q)) :
    Dialogue (Noting ν A) α → Dialogue (Noting ν B) α :=
  interpret fun
    | .inl q => put q
    | .inr n => call (Sum.inr n)

/-- The same computation with notes of another kind. -/
def mapNotes (f : ν → μ) : Dialogue (Noting ν A) α → Dialogue (Noting μ A) α
  | done a => done a
  | ask (.inl q) next => ask (Sum.inl q) fun r => (next r).mapNotes f
  | ask (.inr n) next => ask (Sum.inr (f n)) fun () => (next ()).mapNotes f

/-- The dialogue without its notes, which are gathered beside the result. -/
def heard : Dialogue (Noting ν A) α → Dialogue A (List ν × α)
  | done a => done ([], a)
  | ask (.inl q) next => ask q fun r => (next r).heard
  | ask (.inr n) next => (next ()).heard.andThen fun (ns, a) => done (n :: ns, a)

end Dialogue

end LogSteward
