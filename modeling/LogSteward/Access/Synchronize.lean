import LogSteward.Access.Principal
import LogSteward.Remote.Error
import LogSteward.Remote.Noting
import LogSteward.Telemetry.Event

/-!
# Provisioning principals

Roles are written before the principal that has them and deleted before it.  The first failure ends
the run, and what has been done by then stays.  A role without a name is never sent to the store.
What came of a principal is logged, unless it failed at a role.
-/

namespace LogSteward

/-- A call to a store of roles and users. -/
inductive AccessCall where
  | putRole (name : String) (definition : RoleDefinition)
  | deleteRole (name : String)
  | putUser (name : String) (body : UserBody)
  | deleteUser (name : String)
  | listUsers
deriving DecidableEq

namespace AccessCall

/-- What a call yields. -/
abbrev Answer : AccessCall → Type
  | listUsers => Except RemoteError (List UserRecord)
  | putRole _ _ | deleteRole _ | putUser _ _ | deleteUser _ => Except RemoteError Unit

def operation : AccessCall → Operation
  | putRole _ _ => .rolePut
  | deleteRole _ => .roleDelete
  | putUser _ _ => .userPut
  | deleteUser _ => .userDelete
  | listUsers => .userList

/-- The role or user that a call is about; a star stands for all of them. -/
def name : AccessCall → String
  | putRole n _ | deleteRole n | putUser n _ | deleteUser n => n
  | listUsers => "*"

end AccessCall

inductive AccessError where
  /-- A role has an empty name. -/
  | unnamedRole
  /-- A call for a role or user failed. -/
  | remote (operation : Operation) (name : String) (source : RemoteError)
deriving DecidableEq

namespace AccessError

def message : AccessError → String
  | unnamedRole => "invalid role"
  | remote _ _ _ => "access operation failed"

/-- Why a role is invalid. -/
def unnamedReason : String := "empty_name"

end AccessError

/-- A computation over a store of roles and users. -/
abbrev AccessDialogue := Dialogue AccessCall.Answer

/-- Reports the failure of a call with the name it was for. -/
def reported (op : Operation) (name : String) : Except RemoteError α → Except AccessError α
  | .ok a => .ok a
  | .error e => .error (.remote op name e)

/-- Goes on unless there was a failure. -/
def AccessDialogue.unlessFailed (d : AccessDialogue (Except AccessError Unit))
    (next : AccessDialogue (Except AccessError α)) : AccessDialogue (Except AccessError α) :=
  d.andThen fun
    | .ok () => next
    | .error e => .done (.error e)

/-- Writes a role. -/
def putRole (name : String) (definition : RoleDefinition) :
    AccessDialogue (Except AccessError Unit) :=
  if name = "" then .done (.error .unnamedRole)
  else .ask (.putRole name definition) fun r => .done (reported .rolePut name r)

/-- Deletes a role. -/
def deleteRole (name : String) : AccessDialogue (Except AccessError Unit) :=
  if name = "" then .done (.error .unnamedRole)
  else .ask (.deleteRole name) fun r => .done (reported .roleDelete name r)

/-- Writes the roles that have a definition, in order. -/
def putRoles : List Role → AccessDialogue (Except AccessError Unit)
  | [] => .done (.ok ())
  | r :: rs =>
    match r.definition with
    | some d => (putRole r.name d).unlessFailed (putRoles rs)
    | none => putRoles rs

/-- Deletes roles, in order. -/
def deleteRoles : List Role → AccessDialogue (Except AccessError Unit)
  | [] => .done (.ok ())
  | r :: rs => (deleteRole r.name).unlessFailed (deleteRoles rs)

namespace Principal

/-- Writes the roles of a principal that have a definition, and then the principal. -/
def create (p : Principal) : AccessDialogue (Except AccessError Unit) :=
  (putRoles p.roles).unlessFailed
    (.ask (.putUser p.username p.body) fun r => .done (reported .userPut p.username r))

/-- Deletes the roles of a principal, and then the principal. -/
def delete (p : Principal) : AccessDialogue (Except AccessError Unit) :=
  (deleteRoles p.roles).unlessFailed
    (.ask (.deleteUser p.username) fun r => .done (reported .userDelete p.username r))

/-- The principals of the store, with the names of their roles. -/
def listAll : AccessDialogue (Except AccessError (List Principal)) :=
  .ask .listUsers fun r =>
    .done ((reported .userList "*" r).map (·.map UserRecord.toPrincipal))

/-! ### What is logged -/

/-- An event about principals. -/
def said (level : Verbosity) (message : String) (fields : List (String × FieldValue)) : Event :=
  { level, target := "loghold_access::sync", message, fields }

/-- What is logged of a principal once it has been created, or not. -/
def createEvents (p : Principal) : Except AccessError Unit → List Event
  | .ok () =>
    [said .info "principal provisioned"
      [("principal", .shown p.username), ("roles", .number p.roles.length)]]
  | .error (.remote .userPut _ e) =>
    [said .error "failed to create principal"
      [("principal", .shown p.username), ("error", .shown e.message)]]
  | .error _ => []

/-- What is logged of a principal once it has been deleted, or not. -/
def deleteEvents (p : Principal) : Except AccessError Unit → List Event
  | .ok () => [said .info "principal retracted" [("principal", .shown p.username)]]
  | .error (.remote .userDelete _ e) =>
    [said .error "failed to delete principal"
      [("principal", .shown p.username), ("error", .shown e.message)]]
  | .error _ => []

/-- What is logged of a listing, if there is none. -/
def listEvents : Except AccessError (List Principal) → List Event
  | .error (.remote _ _ e) =>
    [said .error "failed to list principals" [("error", .shown e.message)]]
  | _ => []

/-- Creates a principal and logs what came of it. -/
def createNoting (p : Principal) :
    Dialogue (Noting Event AccessCall.Answer) (Except AccessError Unit) :=
  p.create.concluded p.createEvents

/-- Deletes a principal and logs what came of it. -/
def deleteNoting (p : Principal) :
    Dialogue (Noting Event AccessCall.Answer) (Except AccessError Unit) :=
  p.delete.concluded p.deleteEvents

/-- Lists the principals and logs if this fails. -/
def listNoting : Dialogue (Noting Event AccessCall.Answer) (Except AccessError (List Principal)) :=
  listAll.concluded listEvents

end Principal

end LogSteward
