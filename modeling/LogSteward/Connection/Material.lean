import LogSteward.Connection.Secret
import LogSteward.Tls.Pem

/-!
# Connection material

The credentials and the certificates with which a store is reached, and how they are read from
secrets.  Material that is not there yet is told apart from material that is wrong: a caller waits
for the one and reports the other.

Certificates and keys are taken out of PEM texts here.  Whether they can be used is for the library
that encrypts connections to say (`TlsLibrary`): which kinds of keys it knows, and what it demands
of a certificate, is its own affair.
-/

namespace LogSteward

/-- What is wrong with connection material. -/
inductive ConfigReason where
  | expectedSingleEntry
  | nonUtf8Password
  | emptyCredentials
  | invalidCertificate
  | missingAuthority
  | missingClientSecret
  | missingClientCertificate
  | missingClientKey
  | invalidClientIdentity
  /-- A reason in the words of another source. -/
  | other (text : String)
deriving DecidableEq

namespace ConfigReason

def text : ConfigReason → String
  | expectedSingleEntry => "expected_single_entry"
  | nonUtf8Password => "non_utf8_password"
  | emptyCredentials => "empty_credentials"
  | invalidCertificate => "invalid_certificate"
  | missingAuthority => "missing_ca_certificate"
  | missingClientSecret => "missing_client_secret"
  | missingClientCertificate => "missing_client_certificate"
  | missingClientKey => "missing_client_key"
  | invalidClientIdentity => "invalid_client_identity"
  | other t => t

end ConfigReason

/-- Why a connection cannot be set up. -/
inductive ConnectionError where
  /-- A secret does not exist yet. -/
  | waiting (secret : String)
  /-- The material in a secret, or given in its stead, is wrong. -/
  | config (secret : String) (reason : ConfigReason)
  /-- A secret cannot be read. -/
  | unreadable (secret : String) (failure : ReadFailure)
  /-- The client could not be built in the given number of attempts; the last one failed in these
  words. -/
  | unbuilt (attempts : UInt32) (cause : String)
deriving DecidableEq

namespace ConnectionError

def message : ConnectionError → String
  | waiting _ => "waiting for prerequisite secret"
  | config _ _ => "invalid connection material"
  | unreadable _ _ => "failed to read secret"
  | unbuilt _ _ => "log store client construction failed"

def isWaiting : ConnectionError → Bool
  | waiting _ => true
  | _ => false

def isConfig : ConnectionError → Bool
  | config _ _ => true
  | _ => false

end ConnectionError

/-- The name and the password with which the store is used. -/
structure Credentials where
  username : String
  password : String
deriving DecidableEq

namespace Credentials

/-- The credentials in a secret: its only entry, neither part of it empty. -/
def ofSecret (s : Secret) : Except ConnectionError Credentials :=
  match s.toList with
  | [(username, octets)] =>
    match Utf8.decode? octets with
    | none => .error (.config s.name .nonUtf8Password)
    | some password =>
      if username = "" ∨ password = "" then .error (.config s.name .emptyCredentials)
      else .ok { username, password }
  | _ => .error (.config s.name .expectedSingleEntry)

/-- The credentials as they are shown in diagnostics, without the password. -/
def diagnostic (c : Credentials) : String :=
  Diagnostic.record "Credentials"
    [("username", Diagnostic.quoted c.username), ("password", Diagnostic.redacted)]

end Credentials

/-- A private key. -/
structure PrivateKey where
  kind : Pem.Kind
  content : Octets
deriving DecidableEq

/-- A chain of certificates, the client's own first, and the key that belongs to it. -/
structure Identity where
  chain : List Octets
  key : PrivateKey
deriving DecidableEq

/-- The authorities that are trusted, and what the client shows of itself. -/
structure TlsMaterial where
  roots : List Octets
  identity : Option Identity := none
deriving DecidableEq

namespace Identity

/-- The identity in a PEM text: all of its certificates and the last of its keys. -/
def ofPem? (s : Octets) : Option Identity := do
  let items ← Pem.items s
  if items.any (·.kind = .unrelated) then none
  let certificates := items.filter (·.kind = .certificate)
  let keys := items.filter (·.kind ≠ .certificate)
  match certificates, keys.getLast? with
  | c :: cs, some key => some { chain := (c :: cs).map (·.content), key := ⟨key.kind, key.content⟩ }
  | _, _ => none

/-- The certificate and the key of a client as one PEM text: each begins on a line of its own. -/
def joined (certificate key : Octets) : Octets :=
  certificate ++ [0x0A] ++ key

/-- The identity in a secret. -/
def ofSecret (s : Secret) : Except ConnectionError Identity :=
  match s.get? Secret.clientCertificateKey with
  | none => .error (.config s.name .missingClientCertificate)
  | some certificate =>
    match s.get? Secret.clientPrivateKey with
    | none => .error (.config s.name .missingClientKey)
    | some key =>
      match ofPem? (joined certificate key) with
      | some identity => .ok identity
      | none => .error (.config s.name .invalidClientIdentity)

end Identity

namespace TlsMaterial

/-- The authorities in a PEM text, at least one. -/
def rootsOfPem (origin : String) (s : Octets) : Except ConnectionError (List Octets) :=
  match Pem.items s with
  | none => .error (.config origin .invalidCertificate)
  | some items =>
    match items.filter (·.kind = .certificate) with
    | [] => .error (.config origin .invalidCertificate)
    | c :: cs => .ok ((c :: cs).map (·.content))

/-- The material as it is shown in diagnostics. -/
def diagnostic (m : TlsMaterial) : String :=
  Diagnostic.record "TlsMaterial"
    [ ("roots", toString m.roots.length)
    , ("identity", if m.identity.isSome then "true" else "false") ]

end TlsMaterial

/-- A library that encrypts connections: it accepts the material of a connection, or refuses it in
words of its own, and for the same material does the same at any time. -/
abbrev TlsLibrary : Type := TlsMaterial → Except String Unit

/-- All that is needed to reach a store. -/
structure ConnectionMaterial where
  credentials : Credentials
  tls : TlsMaterial
deriving DecidableEq

namespace ConnectionMaterial

/-- The material as it is shown in diagnostics, without the password. -/
def diagnostic (m : ConnectionMaterial) : String :=
  Diagnostic.record "ConnectionMaterial"
    [("credentials", m.credentials.diagnostic), ("tls", m.tls.diagnostic)]

end ConnectionMaterial

end LogSteward
