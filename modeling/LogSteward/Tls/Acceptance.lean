import LogSteward.Connection.Material
import LogSteward.Tls.Certificate
import LogSteward.Tls.RsaKey

/-!
# A library that knows RSA keys

What a library accepts that knows certificates of the versions 1 and 3 and, of private keys, those
for RSA.  It refuses keys of other kinds, which other libraries know as well.
-/

namespace LogSteward

namespace Identity

/-- The public half of a private key for RSA. -/
def publicKey? (k : PrivateKey) : Option RsaKey :=
  match k.kind with
  | .privateKey => (RsaPrivateKey.ofWrapped? k.content).map (·.key)
  | .rsaPrivateKey => (RsaPrivateKey.ofDer? k.content).map (·.key)
  | _ => none

/-- An identity can be used if its first certificate is of version 3 and has the public half of its
key. -/
def isUsable (i : Identity) : Bool :=
  match i.chain.head?.bind Certificate.ofDer?, publicKey? i.key with
  | some c, some key => c.version = 3 && RsaKey.ofPublicInfo? c.publicInfo = some key
  | _, _ => false

end Identity

/-- The library accepts material if every authority is a certificate and the identity, if there is
one, can be used. -/
def TlsLibrary.rsa : TlsLibrary := fun m =>
  if !m.roots.all (fun r => (Certificate.ofDer? r).isSome) then .error "invalid certificate"
  else if !m.identity.all Identity.isUsable then .error "invalid identity"
  else .ok ()

end LogSteward
