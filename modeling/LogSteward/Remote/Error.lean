import LogSteward.Json.Reader

/-!
# Failures of a remote store

A failure says which operation failed and why.  That something does not exist is a signal rather
than a defect: callers branch on it.  Messages are constant; what varies is kept as data.
-/

namespace LogSteward

/-- The operations of a store: those that this library asks for, and others by their names. -/
inductive Operation where
  | policyGet
  | policyPut
  | rolePut
  | roleDelete
  | userPut
  | userDelete
  | userList
  | other (name : String)
deriving DecidableEq

namespace Operation

/-- The operations that this library asks for. -/
def asked : List Operation :=
  [policyGet, policyPut, rolePut, roleDelete, userPut, userDelete, userList]

def name : Operation → String
  | policyGet => "ilm.get"
  | policyPut => "ilm.put"
  | rolePut => "role.put"
  | roleDelete => "role.delete"
  | userPut => "user.put"
  | userDelete => "user.delete"
  | userList => "user.list"
  | other name => name

/-- The operation with the given name. -/
def ofName (s : String) : Operation :=
  (asked.find? (·.name == s)).getD (other s)

theorem name_ofName (s : String) : (ofName s).name = s := by
  unfold ofName
  cases h : asked.find? (·.name == s) with
  | none => rfl
  | some op => simpa using List.find?_some h

end Operation

/-- Why an operation failed. -/
inductive RemoteCause where
  /-- What the name addresses does not exist. -/
  | notFound (name : String)
  /-- The store refused: the status and the body of its answer. -/
  | refused (status : Nat) (body : String)
  /-- The request was not delivered, or its answer could not be read. -/
  | undelivered (reason : String)
  /-- The answer does not have the shape that was expected. -/
  | unreadable (fault : Json.Fault)
  /-- No address can be derived from the endpoint. -/
  | badEndpoint (endpoint : String)
deriving DecidableEq

/-- The failure of an operation. -/
structure RemoteError where
  operation : Operation
  cause : RemoteCause
deriving DecidableEq

namespace RemoteError

def isNotFound (e : RemoteError) : Bool :=
  match e.cause with
  | .notFound _ => true
  | _ => false

/-- Whether a further, underlying failure is kept with the error. -/
def hasSource (e : RemoteError) : Bool :=
  match e.cause with
  | .undelivered _ | .unreadable _ => true
  | _ => false

def message (e : RemoteError) : String :=
  match e.cause with
  | .notFound _ => "remote resource not found"
  | .refused _ _ => "remote api request failed"
  | .undelivered _ => "remote transport failure"
  | .unreadable _ => "remote payload could not be decoded"
  | .badEndpoint _ => "invalid remote endpoint"

end RemoteError

end LogSteward
