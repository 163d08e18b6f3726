import LogSteward.Connection.Material
import LogSteward.Connection.Retry
import LogSteward.Remote.Noting
import LogSteward.Telemetry.Event
import LogSteward.Url.Parse

/-!
# Setting up a connection

From secrets to a client that is ready to use.  The material is looked up and checked in a fixed
order, the administrator's credentials first, then the authority, then the client's identity, and
the first defect decides.  A secret with credentials or an authority that does not exist yet is
waited for; that of the client's identity is not.

The library that encrypts connections is tried out on the authorities alone, and, for a store that
wants to see an identity, on both together.  The client is built from the same material afterwards.
-/

namespace LogSteward

/-- Where the store is and how it is reached. -/
structure ConnectionSettings where
  endpoint : Url
  /-- Whether the store is outside the cluster: it then has an authority of its own and wants to see
  the client's identity. -/
  external : Bool := false
  /-- Authorities that are given instead of a secret. -/
  authority : Option Octets := none
  /-- How long a request may take, in milliseconds. -/
  timeout : Option Nat := none

namespace ConnectionSettings

/-- What stands for the secret in failures about authorities that were given. -/
def overrideOrigin : String := "ca-override"

/-- The secret that holds the authority. -/
def authoritySecret (s : ConnectionSettings) : String :=
  if s.external then Secret.externalAuthority else Secret.internalAuthority

end ConnectionSettings

/-- A client that is ready to use. -/
structure Client where
  endpoint : Url
  credentials : Credentials

namespace Bootstrap

/-- Looks up a secret; what is to be said of its absence is given. -/
def lookUp (source : SecretSource) (name : String) (absent : ConnectionError) :
    Except ConnectionError Secret :=
  match source name with
  | .error e => .error (.unreadable name e)
  | .ok none => .error absent
  | .ok (some s) => .ok s

/-- The credentials of the administrator. -/
def credentials (source : SecretSource) : Except ConnectionError Credentials := do
  let s ← lookUp source Secret.administrator (.waiting Secret.administrator)
  Credentials.ofSecret s

/-- The authorities and the name of their origin, before they are checked. -/
def authorities (source : SecretSource) (s : ConnectionSettings) :
    Except ConnectionError (String × List Octets) :=
  match s.authority with
  | some pem => do
    let roots ← TlsMaterial.rootsOfPem ConnectionSettings.overrideOrigin pem
    return (ConnectionSettings.overrideOrigin, roots)
  | none => do
    let name := s.authoritySecret
    let secret ← lookUp source name (.waiting name)
    match secret.get? Secret.authorityKey with
    | none => throw (.config name .missingAuthority)
    | some pem =>
      let roots ← TlsMaterial.rootsOfPem name pem
      return (name, roots)

/-- Tries material out: what the library refuses is wrong, for the given reason. -/
def check (library : TlsLibrary) (m : TlsMaterial) (origin : String) (reason : ConfigReason) :
    Except ConnectionError Unit :=
  (library m).mapError fun _ => .config origin reason

/-- The trusted authorities. -/
def roots (library : TlsLibrary) (source : SecretSource) (s : ConnectionSettings) :
    Except ConnectionError (List Octets) := do
  let (origin, roots) ← authorities source s
  check library { roots } origin .invalidCertificate
  return roots

/-- The identity in the client's secret, before it is checked. -/
def presented (source : SecretSource) : Except ConnectionError Identity := do
  let name := Secret.clientIdentity
  let secret ← lookUp source name (.config name .missingClientSecret)
  Identity.ofSecret secret

/-- The identity of the client, which only an external store wants to see. -/
def identity (library : TlsLibrary) (source : SecretSource) (s : ConnectionSettings)
    (roots : List Octets) : Except ConnectionError (Option Identity) :=
  if s.external then do
    let identity ← presented source
    check library { roots, identity := some identity } Secret.clientIdentity .invalidClientIdentity
    return some identity
  else .ok none

/-- The material of a connection. -/
def resolve (library : TlsLibrary) (source : SecretSource) (s : ConnectionSettings) :
    Except ConnectionError ConnectionMaterial := do
  let credentials ← credentials source
  let roots ← roots library source s
  let identity ← identity library source s roots
  return { credentials, tls := { roots, identity } }

/-- The steps of setting up a connection from its material. -/
def connectWith (p : RetryPolicy) (s : ConnectionSettings) (m : ConnectionMaterial) :
    Dialogue (RetryStep.Answer String Unit) (Except ConnectionError Client) :=
  p.run.andThen fun
    | .ok () => .done (.ok { endpoint := s.endpoint, credentials := m.credentials })
    | .error e => .done (.error (.unbuilt e.attempts e.lastError))

/-- How attempts to build a client turn out, which depends on the material alone. -/
def buildAnswer (library : TlsLibrary) (m : TlsMaterial) :
    (q : RetryStep) → Unit → q.Answer String Unit × Unit :=
  RetryStep.answerBy fun _ st => (library m, st)

/-- The client that results from setting up a connection. -/
def connect (library : TlsLibrary) (source : SecretSource) (p : RetryPolicy)
    (s : ConnectionSettings) : Except ConnectionError Client :=
  match resolve library source s with
  | .error e => .error e
  | .ok m => ((connectWith p s m).run (buildAnswer library m.tls) ()).1

/-- The pauses made while setting up a connection. -/
def pauses (library : TlsLibrary) (source : SecretSource) (p : RetryPolicy)
    (s : ConnectionSettings) : List Nat :=
  match resolve library source s with
  | .error _ => []
  | .ok m =>
    ((connectWith p s m).transcript (buildAnswer library m.tls) ()).filterMap fun
      | .pause ms => some ms
      | .attempt _ => none

/-! ### What is logged -/

/-- What is logged of material that the library refuses. -/
def rejection (library : TlsLibrary) (m : TlsMaterial) (origin : String) (reason : ConfigReason) :
    List Event :=
  match library m with
  | .ok () => []
  | .error words =>
    [{ level := .warn, target := "loghold_store::bootstrap", message := "tls material rejected"
       fields :=
        [("secret", .text origin), ("reason", .text reason.text), ("error", .shown words)] }]

/-- What is logged while the material of a connection is resolved. -/
def resolveEvents (library : TlsLibrary) (source : SecretSource) (s : ConnectionSettings) :
    List Event :=
  match credentials source, authorities source s with
  | .ok _, .ok (origin, roots) =>
    match library { roots }, s.external, presented source with
    | .ok (), true, .ok identity =>
      rejection library { roots, identity := some identity } Secret.clientIdentity
        .invalidClientIdentity
    | .ok (), _, _ => []
    | .error _, _, _ => rejection library { roots } origin .invalidCertificate
  | _, _ => []

/-- What is logged of an attempt to build a client. -/
def attemptEvents (p : RetryPolicy) (s : ConnectionSettings) :
    (q : RetryStep) → q.Answer String Unit → List Event
  | .attempt n, outcome =>
    { level := .debug, target := "loghold_store::bootstrap", message := "building log store client"
      fields := [("attempt", .number n.toNat), ("endpoint", .shown s.endpoint.toText)] }
    :: match outcome with
      | .ok () => []
      | .error words =>
        [{ level := .warn, target := "loghold_store::retry"
           message := "log store client construction failed"
           fields :=
            [ ("attempt", .number n.toNat), ("max_attempts", .number p.limit.toNat)
            , ("error", .shown words) ] }]
  | .pause _, _ => []

/-- What is logged of a client that is ready. -/
def readyEvent (s : ConnectionSettings) (c : Client) : Event :=
  { level := .info, target := "loghold_store::bootstrap", message := "log store client ready"
    fields :=
      [ ("endpoint", .shown s.endpoint.toText), ("external", .truth s.external)
      , ("username", .shown c.credentials.username) ] }

/-- What is logged while a connection is set up. -/
def connectEvents (library : TlsLibrary) (source : SecretSource) (p : RetryPolicy)
    (s : ConnectionSettings) : List Event :=
  resolveEvents library source s ++ match resolve library source s with
    | .error _ => []
    | .ok m =>
      let attempts := (connectWith p s m).commented (attemptEvents p s)
      let (events, result) := (attempts.heard.run (buildAnswer library m.tls) ()).1
      events ++ (result.toOption.map (readyEvent s)).toList

end Bootstrap

end LogSteward
