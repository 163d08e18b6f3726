import Std.Data.TreeMap
import LogSteward.Access.Synchronize
import LogSteward.Remote.Fault

/-!
# A store of roles and users

Roles and users by name, as a faithful store keeps them: what is put replaces what has that name,
deleting what is not there is reported as not found, and users are listed in the order of their
names.  Failures can be imposed on it; a call that is made to fail has no effect.
-/

namespace LogSteward

/-- Roles and users by name. -/
structure Registry where
  roles : Std.TreeMap String RoleDefinition := {}
  users : Std.TreeMap String UserBody := {}

namespace Registry

/-- The users in the order of their names. -/
def records (g : Registry) : List UserRecord :=
  g.users.toList.map fun (username, body) => { username, roles := body.roles }

/-- How a faithful store answers a call. -/
def answer : (c : AccessCall) → Registry → c.Answer × Registry
  | .putRole name d, g => (.ok (), { g with roles := g.roles.insert name d })
  | .deleteRole name, g =>
    if g.roles.contains name then (.ok (), { g with roles := g.roles.erase name })
    else (.error ⟨.roleDelete, .notFound name⟩, g)
  | .putUser name b, g => (.ok (), { g with users := g.users.insert name b })
  | .deleteUser name, g =>
    if g.users.contains name then (.ok (), { g with users := g.users.erase name })
    else (.error ⟨.userDelete, .notFound name⟩, g)
  | .listUsers, g => (.ok g.records, g)

end Registry

/-- A store of roles and users on which failures are imposed. -/
structure FaultyRegistry where
  registry : Registry := {}
  rules : List FaultRule := []

namespace FaultyRegistry

/-- The answer to a call that fails. -/
def failure (e : RemoteError) : (c : AccessCall) → c.Answer
  | .putRole _ _ | .deleteRole _ | .putUser _ _ | .deleteUser _ | .listUsers => .error e

/-- A call fails as the rules say, and is answered faithfully if they do not apply. -/
def answer (c : AccessCall) (s : FaultyRegistry) : c.Answer × FaultyRegistry :=
  match FaultRule.fire c.operation c.name s.rules with
  | (some e, rules) => (failure e c, { s with rules })
  | (none, _) =>
    let (r, registry) := s.registry.answer c
    (r, { s with registry })

end FaultyRegistry

end LogSteward
