import Std.Data.TreeMap
import LogSteward.Access.Synchronize
import LogSteward.Connection.Bootstrap
import LogSteward.Lifecycle.Format
import LogSteward.Rest.Message
import LogSteward.Retention.Reconcile
import LogSteward.Text.Base64

/-!
# The store over HTTP

Each call to a store is one request to an address below the store's endpoint, and the reply is
judged the same way for all of them: what is not there has status 404, success is a status from 200
to 299, and every other status is a refusal that is kept with its body.  An endpoint below which
there is no address is refused before anything is sent.

`Client.askPolicy` and `Client.askAccess` put the calls of the two stores as requests; with
`Dialogue.interpret` they turn a computation over a store into one over HTTP.  Every reply is logged
as soon as it is there.
-/

namespace LogSteward

open Rest

/-- The credentials as they are sent along with each request. -/
def Credentials.authorization (c : Credentials) : String :=
  "Basic " ++ Base64.encode (Utf8.encode (c.username ++ ":" ++ c.password))

/-- What a reply to a request for a name amounts to. -/
def Rest.judge (op : Operation) (name : String) : Except String Reply → Except RemoteError Reply
  | .error reason => .error ⟨op, .undelivered reason⟩
  | .ok r =>
    if r.status = 404 then .error ⟨op, .notFound name⟩
    else if r.isSuccess then .ok r
    else .error ⟨op, .refused r.status r.text⟩

/-- Said of a reply whose body broke off. -/
def Rest.brokenOff : String := "the reply broke off"

/-- Reads the body of a reply. -/
def Rest.readBody (op : Operation) (read : Json.Reader α) (r : Reply) : Except RemoteError α :=
  match r.body with
  | none => .error ⟨op, .undelivered brokenOff⟩
  | some body =>
    match Json.decodeOctets read body with
    | .ok a => .ok a
    | .error f => .error ⟨op, .unreadable f⟩

namespace PolicyCall

/-- Where the policy is, below the endpoint. -/
def path (c : PolicyCall) : List String :=
  ["_ilm", "policy", c.name]

/-- A policy as a listing of policies wraps it. -/
def envelope : Json.Layout Policy :=
  Json.Layout.single "policy" Policy.layout.reader id

/-- The policy of a name in a listing; of two for the same name, the later one counts. -/
def pick (name : String) (listing : List (String × Policy)) : Except RemoteError Policy :=
  match listing.reverse.lookup name with
  | some p => .ok p
  | none => .error ⟨.policyGet, .notFound name⟩

/-- A policy as it is sent. -/
def written (p : Policy) : String :=
  (Json.object [("policy", p.toJson)]).compact

end PolicyCall

namespace AccessCall

/-- Where the role, the user or the listing of users is, below the endpoint. -/
def path : AccessCall → List String
  | putRole name _ | deleteRole name => ["_security", "role", name]
  | putUser name _ | deleteUser name => ["_security", "user", name]
  | listUsers => ["_security", "user"]

/-- The roles of a user, as a listing of users gives them. -/
def userRoles : Json.Layout (List String) :=
  Json.Layout.single "roles" (Json.readList Json.readText) fun roles => some (roles.getD [])

/-- The users of a listing in the order of their names; of two with the same name, the later one
counts. -/
def users (listing : List (String × List String)) : List UserRecord :=
  let held : Std.TreeMap String (List String) := listing.foldl (fun m (k, v) => m.insert k v) {}
  held.toList.map fun (username, roles) => { username, roles }

end AccessCall

namespace Client

/-- Sends a request to an address below the endpoint and judges the reply. -/
def send (c : Client) (op : Operation) (name : String) (method : Method) (path : List String)
    (body : Option String) : Exchange (Except RemoteError Reply) :=
  match c.endpoint.below? path with
  | none => .done (.error ⟨op, .badEndpoint c.endpoint.toText⟩)
  | some address =>
    .ask
      { method, body, address := address.requested
        authorization := c.credentials.authorization } fun r =>
      .done (judge op name r)

/-- Puts a call to the store of policies as a request. -/
def askPolicy (c : Client) : (q : PolicyCall) → Exchange q.Answer
  | .get name =>
    (c.send .policyGet name .get (PolicyCall.get name).path none).andThen fun r => .done do
      let listing ← readBody .policyGet (Json.readDictionary PolicyCall.envelope.reader) (← r)
      PolicyCall.pick name listing
  | .put name p =>
    (c.send .policyPut name .put (PolicyCall.put name p).path (some (PolicyCall.written p))).andThen
      fun r => .done (r.map fun _ => ())

/-- Puts a call to the store of roles and users as a request. -/
def askAccess (c : Client) : (q : AccessCall) → Exchange q.Answer
  | .putRole name d =>
    (c.send .rolePut name .put (AccessCall.putRole name d).path (some d.encode)).andThen
      fun r => .done (r.map fun _ => ())
  | .deleteRole name =>
    (c.send .roleDelete name .delete (AccessCall.deleteRole name).path none).andThen
      fun r => .done (r.map fun _ => ())
  | .putUser name b =>
    (c.send .userPut name .put (AccessCall.putUser name b).path (some b.encode)).andThen
      fun r => .done (r.map fun _ => ())
  | .deleteUser name =>
    (c.send .userDelete name .delete (AccessCall.deleteUser name).path none).andThen
      fun r => .done (r.map fun _ => ())
  | .listUsers =>
    (c.send .userList AccessCall.listUsers.name .get AccessCall.listUsers.path none).andThen
      fun r => .done do
        let listing ← readBody .userList (Json.readDictionary AccessCall.userRoles.reader) (← r)
        return AccessCall.users listing

/-- A computation over the store of policies, carried out over HTTP. -/
def overPolicies (c : Client) (d : PolicyDialogue α) : Exchange α :=
  d.interpret c.askPolicy

/-- A computation over the store of roles and users, carried out over HTTP. -/
def overAccess (c : Client) (d : AccessDialogue α) : Exchange α :=
  d.interpret c.askAccess

/-- What is logged of the reply to a request for a name. -/
def responded (op : Operation) (name : String) : Except String Reply → List Event
  | .ok r =>
    [{ level := .debug, target := "loghold_store::client", message := "log store responded"
       fields :=
        [("operation", .text op.name), ("name", .text name), ("status", .number r.status)] }]
  | .error _ => []

/-- Puts a call to the store of policies as a request and logs the reply. -/
def askPolicyNoting (c : Client) (q : PolicyCall) : Dialogue (Noting Event Answer) q.Answer :=
  (c.askPolicy q).commented fun _ => responded q.operation q.name

/-- Puts a call to the store of roles and users as a request and logs the reply. -/
def askAccessNoting (c : Client) (q : AccessCall) : Dialogue (Noting Event Answer) q.Answer :=
  (c.askAccess q).commented fun _ => responded q.operation q.name

/-- A computation over the store of policies that logs, carried out over HTTP. -/
def overPoliciesNoting (c : Client) (d : Dialogue (Noting Event PolicyCall.Answer) α) :
    Dialogue (Noting Event Answer) α :=
  d.interpretNoting c.askPolicyNoting

/-- A computation over the store of roles and users that logs, carried out over HTTP. -/
def overAccessNoting (c : Client) (d : Dialogue (Noting Event AccessCall.Answer) α) :
    Dialogue (Noting Event Answer) α :=
  d.interpretNoting c.askAccessNoting

end Client

end LogSteward
