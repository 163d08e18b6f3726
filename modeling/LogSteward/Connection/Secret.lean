import Std.Data.TreeMap
import LogSteward.Text.Diagnostic
import LogSteward.Text.Utf8

/-!
# Secrets

A secret is a named set of entries, each a key and its octets.  A secret that does not exist yet is
not a failure, so a source of secrets yields one, none, or the failure to read it.
-/

namespace LogSteward

/-- Why a file or a directory cannot be read. -/
inductive FileError where
  | notFound
  | notADirectory
  | isADirectory
  /-- Links lead in a circle. -/
  | linkLoop
  | nameTooLong
  /-- A path holds a zero character. -/
  | invalidPath
  /-- What was to be a text is not UTF-8. -/
  | notText
  /-- A failure of another kind, in its own words. -/
  | other (text : String)
deriving DecidableEq

namespace FileError

/-- The name of the kind of failure. -/
def kind : FileError → String
  | notFound => "NotFound"
  | notADirectory => "NotADirectory"
  | isADirectory => "IsADirectory"
  | linkLoop => "FilesystemLoop"
  | nameTooLong => "InvalidFilename"
  | invalidPath => "InvalidInput"
  | notText => "InvalidData"
  | other _ => "Other"

/-- The failure in the words of the operating system. -/
def message : FileError → String
  | notFound => "No such file or directory (os error 2)"
  | notADirectory => "Not a directory (os error 20)"
  | isADirectory => "Is a directory (os error 21)"
  | linkLoop => "Too many levels of symbolic links (os error 40)"
  | nameTooLong => "File name too long (os error 36)"
  | invalidPath => "file name contained an unexpected NUL byte"
  | notText => "stream did not contain valid UTF-8"
  | other text => text

end FileError

structure Secret where
  name : String
  entries : Std.TreeMap String Octets

namespace Secret

/-- The secret with the given entries; of two with the same key, the later one counts. -/
def ofList (name : String) (entries : List (String × Octets)) : Secret where
  name := name
  entries := entries.foldl (fun m (k, v) => m.insert k v) {}

/-- The entries in the order of their keys. -/
def toList (s : Secret) : List (String × Octets) :=
  s.entries.toList

def get? (s : Secret) (key : String) : Option Octets :=
  s.entries[key]?

def size (s : Secret) : Nat :=
  s.entries.size

/-- The secret as it is shown in diagnostics, without the values of its entries. -/
def diagnostic (s : Secret) : String :=
  Diagnostic.record "Secret"
    [ ("name", Diagnostic.quoted s.name)
    , ("keys", Diagnostic.strings (s.toList.map Prod.fst)) ]

/-- The secret of the administrator: one entry, user name and password. -/
def administrator : String := "log-store-admin-user"

/-- The secret with the certificate authority of a store inside the cluster. -/
def internalAuthority : String := "log-store-internal-ca"

/-- The secret with the certificate authority of an external store. -/
def externalAuthority : String := "log-store-external-ca"

/-- The secret with the certificate and the key shown to an external store. -/
def clientIdentity : String := "log-store-client-certs"

/-- The key of the certificate in the secret of an authority. -/
def authorityKey : String := "tls.crt"

/-- The key of the client's certificate. -/
def clientCertificateKey : String := "client.crt"

/-- The key of the client's private key. -/
def clientPrivateKey : String := "client.key"

end Secret

/-- The failure to read a secret: what could not be read, and why. -/
structure ReadFailure where
  path : String
  cause : FileError
deriving DecidableEq

/-- Yields a secret, none if it does not exist, or the failure to read it. -/
abbrev SecretSource := String → Except ReadFailure (Option Secret)

namespace SecretSource

/-- A source that holds the given secrets; of two with the same name, the later one counts. -/
def ofList (secrets : List Secret) : SecretSource :=
  let held : Std.TreeMap String Secret := secrets.foldl (fun m s => m.insert s.name s) {}
  fun name => .ok held[name]?

end SecretSource

end LogSteward
