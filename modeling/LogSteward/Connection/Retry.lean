import LogSteward.Remote.Dialogue

/-!
# Bounded retry

Trying something until it succeeds or the attempts are spent, with a pause between two attempts and
none after the last.  Attempts are numbered from one.
-/

namespace LogSteward

/-- How often something is tried, and how long the pause between two attempts is. -/
structure RetryPolicy where
  /-- The number of attempts; anything below one counts as one. -/
  maxAttempts : UInt32 := 10
  /-- The pause, in milliseconds. -/
  interval : Nat := 500
deriving DecidableEq

/-- A step of a retry. -/
inductive RetryStep where
  | attempt (number : UInt32)
  | pause (interval : Nat)
deriving DecidableEq

/-- What a step yields: an attempt succeeds or fails. -/
abbrev RetryStep.Answer (ε α : Type) : RetryStep → Type
  | attempt _ => Except ε α
  | pause _ => Unit

/-- All attempts have failed: how many there were, and how the last one failed. -/
structure Exhausted (ε : Type) where
  attempts : UInt32
  lastError : ε
deriving DecidableEq

namespace RetryPolicy

/-- The number of attempts that are made at most. -/
def limit (p : RetryPolicy) : UInt32 :=
  max p.maxAttempts 1

/-- Tries again from the given attempt on, after which `left` more may follow. -/
def attemptFrom (interval : Nat) (number : UInt32) :
    (left : Nat) → Dialogue (RetryStep.Answer ε α) (Except (Exhausted ε) α)
  | 0 =>
    .ask (.attempt number) fun
      | .ok a => .done (.ok a)
      | .error e => .done (.error ⟨number, e⟩)
  | left + 1 =>
    .ask (.attempt number) fun
      | .ok a => .done (.ok a)
      | .error _ => .ask (.pause interval) fun () => attemptFrom interval (number + 1) left

/-- Tries until an attempt succeeds or all are spent. -/
def run (p : RetryPolicy) : Dialogue (RetryStep.Answer ε α) (Except (Exhausted ε) α) :=
  attemptFrom p.interval 1 (p.limit.toNat - 1)

end RetryPolicy

/-- The answers of something that may succeed or fail from a state, with pauses that do nothing. -/
def RetryStep.answerBy (construct : UInt32 → σ → Except ε α × σ) :
    (s : RetryStep) → σ → s.Answer ε α × σ
  | attempt n, st => construct n st
  | pause _, st => ((), st)

end LogSteward
