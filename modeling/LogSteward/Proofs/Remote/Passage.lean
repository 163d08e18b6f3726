import LogSteward.Proofs.Remote.Dialogue
import LogSteward.Remote.Error

/-!
# Calls on their way

A call may fail on its way to the store: before it has any effect, or after the store has carried it
out, when only its answer is lost (`Passage`).  `along` is a party to which calls get through as a
list of passages says.
-/

namespace LogSteward

/-- How a call gets through to the store and its answer back. -/
inductive Passage where
  /-- It is carried out and its answer arrives. -/
  | clear
  /-- It fails and is not carried out. -/
  | lost (e : RemoteError)
  /-- It is carried out, but reported as failed. -/
  | unheard (e : RemoteError)
deriving DecidableEq

namespace Dialogue

variable {Q : Type} {A : Q → Type} {α σ : Type}

/-- A party to which calls get through as the passages say, one after the other; those that come
after them get through without harm. -/
def along (answer : (q : Q) → σ → A q × σ) (fail : RemoteError → (q : Q) → A q) (q : Q) :
    σ × List Passage → A q × (σ × List Passage)
  | (s, []) => ((answer q s).1, ((answer q s).2, []))
  | (s, .clear :: ws) => ((answer q s).1, ((answer q s).2, ws))
  | (s, .lost e :: ws) => (fail e q, (s, ws))
  | (s, .unheard e :: ws) => (fail e q, ((answer q s).2, ws))

/-- A call has the effect it has on the party, unless it is lost. -/
theorem along_state (answer : (q : Q) → σ → A q × σ) (fail : RemoteError → (q : Q) → A q) (q : Q)
    (s : σ) (ws : List Passage) :
    (∃ e ws', ws = .lost e :: ws' ∧ along answer fail q (s, ws) = (fail e q, (s, ws'))) ∨
      (∀ e ws', ws ≠ .lost e :: ws') ∧ (along answer fail q (s, ws)).2.1 = (answer q s).2 := by
  match ws with
  | [] | .clear :: _ | .unheard _ :: _ => exact .inr ⟨nofun, rfl⟩
  | .lost e :: ws' => exact .inl ⟨e, ws', rfl, rfl⟩

/-- Where nothing is said of the calls to come, they get through without harm. -/
theorem run_along_nil (answer : (q : Q) → σ → A q × σ) (fail : RemoteError → (q : Q) → A q)
    (d : Dialogue A α) (s : σ) :
    d.run (along answer fail) (s, []) = ((d.run answer s).1, ((d.run answer s).2, [])) := by
  induction d generalizing s with
  | done a => rfl
  | ask q next ih => exact ih _ _

end Dialogue

end LogSteward
