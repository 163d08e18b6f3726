import LogSteward.Tls.Der

/-!
# Certificates

The outline of an X.509 certificate: what is signed, the algorithm of the signature, and the
signature.  Neither signatures nor dates are looked at.  An authority may have a certificate of
version 1, which has no extensions, or of version 3; a client has one of version 3.
-/

namespace LogSteward

open Der

/-- An extension of a certificate. -/
structure Extension where
  identifier : Octets
  /-- Whether a certificate with this extension is of no use to who does not know it. -/
  isCritical : Bool
  content : Octets
deriving DecidableEq

namespace Extension

/-- A value that is true or false, and false if it is left out. -/
def flag? : List Element → Option (Bool × List Element)
  | e :: rest =>
    if e.tag = booleanTag then
      match e.content with
      | [0xFF] => some (true, rest)
      | [0x00] => some (false, rest)
      | _ => none
    else some (false, e :: rest)
  | [] => some (false, [])

def ofElement? (e : Element) : Option Extension :=
  match e.members? with
  | some (identifier :: rest) =>
    match flag? rest with
    | some (isCritical, [content]) =>
      if identifier.tag = identifierTag ∧ content.tag = octetStringTag then
        some ⟨identifier.content, isCritical, content.content⟩
      else none
    | _ => none
  | _ => none

/-- What the identifiers of the extensions of certificates begin with. -/
def family : Octets := [0x55, 0x1D]

/-- Says what a key may be used for, in bits. -/
def keyUsage : Octets := family ++ [15]

/-- The known extensions that are sequences: names of the subject, whether it is an authority,
limits to names, where to look for revocations, and what the key may be used for, in identifiers. -/
def sequences : List Octets :=
  [17, 19, 30, 31, 37].map fun n => family ++ [n]

/-- Whether an extension is known. -/
def isKnown (x : Extension) : Bool :=
  x.identifier = keyUsage || sequences.contains x.identifier

/-- Whether an extension by itself can be in a certificate. -/
def isReadable (x : Extension) : Bool :=
  if sequences.contains x.identifier then (only? x.content).any (·.tag = sequenceTag)
  else x.identifier = keyUsage || !x.isCritical

/-- Whether extensions can be in a certificate together: none of the known ones is there twice. -/
def areReadable : List Extension → Bool
  | [] => true
  | x :: xs =>
    x.isReadable && !(x.isKnown && xs.any (·.identifier = x.identifier)) && areReadable xs

end Extension

/-- What is read off a certificate. -/
structure Certificate where
  version : Nat
  publicInfo : Element
deriving DecidableEq

namespace Certificate

/-- The extensions among the last members of what is signed. -/
def extensions? : List Element → Option (List Extension)
  | [] => some []
  | [e] =>
    if e.tag = memberTag 3 then
      ((sequence? e.content).bind fun xs => xs.mapM Extension.ofElement?)
    else none
  | _ => none

/-- Whether members are a number and then sequences. -/
def isOutline : List Element → Bool
  | serial :: rest => serial.tag = integerTag && rest.all (·.tag = sequenceTag)
  | [] => false

/-- The content of what says that a certificate is of version 3: the number 2. -/
def versionThree : Element := ⟨memberTag 0, [0x02, 0x01, 0x02]⟩

/-- Reads a certificate.  What is signed are a serial number, an algorithm, issuer, validity,
subject and public key information; in version 3 the version stands before them and extensions after
them, and the algorithm is the one of the signature. -/
def ofDer? (s : Octets) : Option Certificate :=
  match sequence? s with
  | some [signed, algorithm, signature] =>
    if algorithm.tag = sequenceTag ∧ signature.bits?.isSome then
      match signed.members? with
      | some [serial, inner, issuer, validity, subject, publicInfo] =>
        if isOutline [serial, inner, issuer, validity, subject, publicInfo] then
          some { version := 1, publicInfo }
        else none
      | some (version :: serial :: inner :: issuer :: validity :: subject :: publicInfo :: rest) =>
        if version = versionThree ∧ inner = algorithm
            ∧ isOutline [serial, inner, issuer, validity, subject, publicInfo]
            ∧ (extensions? rest).any Extension.areReadable then
          some { version := 3, publicInfo }
        else none
      | _ => none
    else none
  | _ => none

end Certificate

end LogSteward
