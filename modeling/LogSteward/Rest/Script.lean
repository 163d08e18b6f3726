import LogSteward.Rest.Message

/-!
# A scripted store

A party that answers requests by rules: each rule is for a method, a path or both, may be good for a
number of uses only, and says what comes back.  Of the rules that apply, the first one answers; a
request for which there is none gets an empty reply of status 404.  Requests that arrive are kept.
A store that is cut off is reached by none.
-/

namespace LogSteward.Rest

/-- What a rule has the store do. -/
inductive Reaction where
  /-- Replies with a status and a body, of which the end may be missing. -/
  | reply (status : Nat) (body : Octets) (complete : Bool)
  /-- Closes the connection without a reply. -/
  | hangUp
deriving DecidableEq

structure ScriptRule where
  method : Option String := none
  /-- The path with the query. -/
  path : Option String := none
  /-- How often the rule can still answer, if that is limited. -/
  remaining : Option Nat := none
  reaction : Reaction
deriving DecidableEq

namespace ScriptRule

def applies (r : ScriptRule) (q : Request) : Bool :=
  r.method.all (· = q.method.name) && r.path.all (· = q.address.target) && r.remaining ≠ some 0

/-- The rule after it has answered once. -/
def spend (r : ScriptRule) : ScriptRule :=
  { r with remaining := r.remaining.map (· - 1) }

end ScriptRule

namespace Reaction

def answer : Reaction → Except String Reply
  | hangUp => .error "the connection was closed without a reply"
  | reply status body complete =>
    if isBodiless status then .ok ⟨status, some []⟩
    else .ok ⟨status, if complete then some body else none⟩

end Reaction

/-- The reaction to a request, and the rules that are left. -/
def react (q : Request) : List ScriptRule → Reaction × List ScriptRule
  | [] => (.reply 404 [] true, [])
  | r :: rs =>
    if r.applies q then (r.reaction, r.spend :: rs)
    else
      let (a, rs') := react q rs
      (a, r :: rs')

/-- A store that answers by rules. -/
structure ScriptedStore where
  rules : List ScriptRule := []
  /-- Whether requests do not arrive. -/
  cutOff : Bool := false
  /-- The requests that have arrived, in order. -/
  received : List Request := []
deriving DecidableEq

namespace ScriptedStore

def answer (q : Request) (s : ScriptedStore) : Answer q × ScriptedStore :=
  if s.cutOff then (.error "the store cannot be reached", s)
  else
    let (a, rules) := react q s.rules
    (a.answer, { s with rules, received := s.received ++ [q] })

end ScriptedStore

end LogSteward.Rest
