import Std.Data.TreeMap
import LogSteward.Remote.Fault
import LogSteward.Retention.Reconcile

/-!
# A store of policies

The policies by name, as a faithful store keeps them: a policy that is put replaces the one of that
name, and one that is not there is reported as not found.  Failures can be imposed on it; a call
that is made to fail has no effect.
-/

namespace LogSteward

/-- Policies by name. -/
abbrev PolicyShelf := Std.TreeMap String Policy

namespace PolicyShelf

/-- How a faithful store answers a call. -/
def answer : (c : PolicyCall) → PolicyShelf → c.Answer × PolicyShelf
  | .get name, shelf =>
    match shelf[name]? with
    | some p => (.ok p, shelf)
    | none => (.error ⟨.policyGet, .notFound name⟩, shelf)
  | .put name p, shelf => (.ok (), shelf.insert name p)

end PolicyShelf

/-- A store of policies on which failures are imposed. -/
structure FaultyShelf where
  shelf : PolicyShelf := {}
  rules : List FaultRule := []

namespace FaultyShelf

/-- The answer to a call that fails. -/
def failure (e : RemoteError) : (c : PolicyCall) → c.Answer
  | .get _ => .error e
  | .put _ _ => .error e

/-- A call fails as the rules say, and is answered faithfully if they do not apply. -/
def answer (c : PolicyCall) (s : FaultyShelf) : c.Answer × FaultyShelf :=
  match FaultRule.fire c.operation c.name s.rules with
  | (some e, rules) => (failure e c, { s with rules })
  | (none, _) =>
    let (r, shelf) := s.shelf.answer c
    (r, { s with shelf })

end FaultyShelf

end LogSteward
