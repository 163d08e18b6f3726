import LogSteward.Remote.Error

/-!
# Injected failures

A store on which failures are imposed: a rule names the operation it fails, perhaps only for one
name and only so many times.  Of the rules that apply, the first one fires.
-/

namespace LogSteward

/-- Fails calls of an operation. -/
structure FaultRule where
  operation : Operation
  /-- The name that the rule is limited to. -/
  name : Option String := none
  /-- How often the rule can still fire, if that is limited. -/
  remaining : Option Nat := none
  /-- The failure of a call for a given name. -/
  cause : String → RemoteCause

namespace FaultRule

def applies (r : FaultRule) (op : Operation) (name : String) : Bool :=
  r.operation = op && (r.name.isNone || r.name = some name) && r.remaining ≠ some 0

/-- The rule after it has fired once. -/
def spend (r : FaultRule) : FaultRule :=
  { r with remaining := r.remaining.map (· - 1) }

/-- The failure imposed on a call, if any, and the rules that are left. -/
def fire (op : Operation) (name : String) : List FaultRule → Option RemoteError × List FaultRule
  | [] => (none, [])
  | r :: rs =>
    if r.applies op name then (some ⟨op, r.cause name⟩, r.spend :: rs)
    else
      let (e, rs') := fire op name rs
      (e, r :: rs')

end FaultRule

end LogSteward
