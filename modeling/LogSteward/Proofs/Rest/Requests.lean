import LogSteward.Proofs.Rest.Calls

/-!
# Every call is one request

Below an endpoint that has segments there is an address for every call, of either store, and the
call is exactly one request to it (`Client.askPolicy_eq`, `Client.askAccess_eq`): which one depends
on the call alone (`PolicyCall.request`, `AccessCall.request`), and so does what is made of the
answer (`PolicyCall.heard`, `AccessCall.heard`).
-/

namespace LogSteward

open Rest

/-! ### What a reply amounts to -/

namespace Rest

variable {op : Operation} {name : String} {r : Reply}

/-- Only a reply with a status of success is judged to be one. -/
theorem judge_ok {a : Except String Reply} (h : judge op name a = .ok r) :
    a = .ok r ∧ r.isSuccess = true := by
  cases a with
  | error reason => cases h
  | ok r' =>
      rw [judge] at h
      split at h
      · cases h
      · split at h
        · cases h
          exact ⟨rfl, ‹_›⟩
        · cases h

theorem judge_success (h : r.isSuccess = true) : judge op name (.ok r) = .ok r := by
  rw [judge, if_neg (PolicyCall.isSuccess_ne_404 h), if_pos h]

end Rest

/-! ### Requests -/

namespace Client

variable {c : Client} {parts : List String}

/-- Where a path is below the endpoint, if anything is. -/
def addressOf (c : Client) (path : List String) : Url :=
  (c.endpoint.below? path).getD c.endpoint

theorem below?_addressOf (h : c.endpoint.path = .segments parts) (path : List String) :
    c.endpoint.below? path = some (c.addressOf path) := by
  simp only [addressOf, Url.below?, h, Option.getD_some]

/-- A request to an address below the endpoint. -/
def requestOf (c : Client) (method : Method) (path : List String) (body : Option String) :
    Request where
  method := method
  address := (c.addressOf path).requested
  authorization := c.credentials.authorization
  body := body

/-- Below an endpoint with segments, something is sent, and the reply is judged. -/
theorem send_eq (h : c.endpoint.path = .segments parts) (op : Operation) (name : String)
    (method : Method) (path : List String) (body : Option String) :
    c.send op name method path body
      = .ask (c.requestOf method path body) fun a => .done (judge op name a) := by
  simp only [send, below?_addressOf h, requestOf]

end Client

namespace PolicyCall

def method : PolicyCall → Method
  | get _ => .get
  | put _ _ => .put

/-- The text that is sent along. -/
def sent : PolicyCall → Option String
  | get _ => none
  | put _ p => some (written p)

/-- The request as which a client puts a call. -/
def request (c : Client) (q : PolicyCall) : Request :=
  c.requestOf q.method q.path q.sent

/-- What the answer to its request amounts to. -/
def heard : (q : PolicyCall) → Except String Reply → q.Answer
  | get name, a => found name a
  | put name _, a => (judge .policyPut name a).map fun _ => ()

end PolicyCall

namespace AccessCall

def method : AccessCall → Method
  | putRole _ _ | putUser _ _ => .put
  | deleteRole _ | deleteUser _ => .delete
  | listUsers => .get

/-- The text that is sent along. -/
def sent : AccessCall → Option String
  | putRole _ d => some d.encode
  | putUser _ b => some b.encode
  | deleteRole _ | deleteUser _ | listUsers => none

/-- The request as which a client puts a call. -/
def request (c : Client) (q : AccessCall) : Request :=
  c.requestOf q.method q.path q.sent

/-- The users that the answer to the request of a listing gives. -/
def listed (a : Except String Reply) : Except RemoteError (List UserRecord) := do
  let listing ← readBody .userList (Json.readDictionary userRoles.reader)
    (← judge .userList listUsers.name a)
  return users listing

/-- What the answer to its request amounts to. -/
def heard : (q : AccessCall) → Except String Reply → q.Answer
  | listUsers, a => listed a
  | putRole name _, a => (judge .rolePut name a).map fun _ => ()
  | deleteRole name, a => (judge .roleDelete name a).map fun _ => ()
  | putUser name _, a => (judge .userPut name a).map fun _ => ()
  | deleteUser name, a => (judge .userDelete name a).map fun _ => ()

end AccessCall

namespace Client

variable {c : Client} {parts : List String}

/-- Below an endpoint with segments, a call about policies is one request. -/
theorem askPolicy_eq (h : c.endpoint.path = .segments parts) (q : PolicyCall) :
    c.askPolicy q = .ask (q.request c) fun a => .done (q.heard a) := by
  cases q with
  | get name | put name p =>
      simp only [askPolicy, send_eq h, Dialogue.andThen, PolicyCall.heard]
      rfl

/-- Below an endpoint with segments, a call about principals is one request. -/
theorem askAccess_eq (h : c.endpoint.path = .segments parts) (q : AccessCall) :
    c.askAccess q = .ask (q.request c) fun a => .done (q.heard a) := by
  cases q with
  | listUsers | putRole name d | deleteRole name | putUser name b | deleteUser name =>
      simp only [askAccess, send_eq h, Dialogue.andThen, AccessCall.heard]
      rfl

end Client

end LogSteward
