/-!
# Dialogues

A dialogue is a computation that asks another party questions and goes on with its answers.  What it
asks is data, so the calls that a computation makes, and their order, can be spoken about without
fixing who answers: a faithful store, one that fails at will, or a server.

`Dialogue.run` holds a dialogue with a party that has a state; `Dialogue.transcript` lists what was
asked; `Dialogue.interpret` turns each question into a dialogue in terms of other questions.
-/

namespace LogSteward

/-- A computation that asks questions `q : Q`, each of which is answered by an `A q`. -/
inductive Dialogue {Q : Type} (A : Q → Type) (α : Type) : Type where
  | done (a : α)
  | ask (q : Q) (next : A q → Dialogue A α)

namespace Dialogue

variable {Q R : Type} {A : Q → Type} {B : R → Type} {α β σ : Type}

/-- Goes on with the result of a dialogue. -/
def andThen : Dialogue A α → (α → Dialogue A β) → Dialogue A β
  | done a, f => f a
  | ask q next, f => ask q fun r => (next r).andThen f

instance : Monad (Dialogue A) where
  pure := done
  bind := andThen

/-- The dialogue of one question. -/
def call (q : Q) : Dialogue A (A q) :=
  ask q done

/-- The result of a dialogue with a party that answers from a state, and the state it leaves. -/
def run (answer : (q : Q) → σ → A q × σ) : Dialogue A α → σ → α × σ
  | done a, s => (a, s)
  | ask q next, s =>
    let (r, s') := answer q s
    (next r).run answer s'

/-- The questions of a dialogue with a party that answers from a state. -/
def transcript (answer : (q : Q) → σ → A q × σ) : Dialogue A α → σ → List Q
  | done _, _ => []
  | ask q next, s =>
    let (r, s') := answer q s
    q :: (next r).transcript answer s'

/-- The same computation, with each question put as a dialogue in terms of other questions. -/
def interpret (put : (q : Q) → Dialogue B (A q)) : Dialogue A α → Dialogue B α
  | done a => done a
  | ask q next => (put q).andThen fun r => (next r).interpret put

theorem andThen_done (d : Dialogue A α) : d.andThen done = d := by
  induction d with
  | done a => rfl
  | ask q next ih => exact congrArg (ask q) (funext ih)

theorem andThen_assoc {γ : Type} (d : Dialogue A α) (f : α → Dialogue A β) (g : β → Dialogue A γ) :
    (d.andThen f).andThen g = d.andThen fun a => (f a).andThen g := by
  induction d with
  | done a => rfl
  | ask q next ih => exact congrArg (ask q) (funext ih)

/-- What goes on after a dialogue starts from the state that the dialogue leaves. -/
theorem run_andThen (answer : (q : Q) → σ → A q × σ) (d : Dialogue A α) (f : α → Dialogue A β)
    (s : σ) :
    (d.andThen f).run answer s = (f (d.run answer s).1).run answer (d.run answer s).2 := by
  induction d generalizing s with
  | done a => rfl
  | ask q next ih => exact ih _ _

/-- The questions of a dialogue come before those of what goes on after it. -/
theorem transcript_andThen (answer : (q : Q) → σ → A q × σ) (d : Dialogue A α)
    (f : α → Dialogue A β) (s : σ) :
    (d.andThen f).transcript answer s
      = d.transcript answer s
        ++ (f (d.run answer s).1).transcript answer (d.run answer s).2 := by
  induction d generalizing s with
  | done a => rfl
  | ask q next ih => exact congrArg (q :: ·) (ih _ _)

theorem interpret_andThen (put : (q : Q) → Dialogue B (A q)) (d : Dialogue A α)
    (f : α → Dialogue A β) :
    (d.andThen f).interpret put = (d.interpret put).andThen fun a => (f a).interpret put := by
  induction d with
  | done a => rfl
  | ask q next ih =>
    simp only [andThen, interpret, andThen_assoc]
    exact congrArg _ (funext ih)

end Dialogue

end LogSteward
