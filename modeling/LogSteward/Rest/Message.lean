import LogSteward.Remote.Dialogue
import LogSteward.Text.Utf8
import LogSteward.Url.Parse

/-!
# Requests and replies

What is sent to a store over HTTP and what comes back.  A reply is what the HTTP library hands back
of a request: it follows redirects by itself, and may refuse to send a request at all.  What it does
on the way is not seen here.  A reply whose body broke off before its announced end is told apart
from one with a short body.  A request that is not delivered, or not answered, or that the library
refuses, has a reason instead of a reply.
-/

namespace LogSteward.Rest

inductive Method where
  | get
  | put
  | delete
deriving DecidableEq

def Method.name : Method → String
  | .get => "GET"
  | .put => "PUT"
  | .delete => "DELETE"

structure Request where
  method : Method
  address : Url
  /-- Who asks, as the header `Authorization` says it. -/
  authorization : String
  /-- The JSON text that is sent along. -/
  body : Option String := none
deriving DecidableEq

/-- The type of the body that a request carries. -/
def Request.contentType? (r : Request) : Option String :=
  r.body.map fun _ => "application/json"

/-- Whether replies with a status never have a body. -/
def isBodiless (status : Nat) : Bool :=
  status = 204 || status = 304

structure Reply where
  status : Nat
  /-- The body, unless it broke off. -/
  body : Option Octets
deriving DecidableEq

namespace Reply

/-- Whether the request was carried out. -/
def isSuccess (r : Reply) : Bool :=
  200 ≤ r.status && r.status < 300

/-- The body as a text; one that broke off is not kept. -/
def text (r : Reply) : String :=
  r.body.elim "" Utf8.decodeLossy

end Reply

/-- What becomes of a request: a reply, or the reason why there is none. -/
abbrev Answer (_ : Request) : Type := Except String Reply

/-- A computation that sends requests. -/
abbrev Exchange : Type → Type := Dialogue Answer

end LogSteward.Rest
