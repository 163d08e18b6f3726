import LogSteward.Tls.Der

/-!
# RSA keys

The two halves of an RSA key.  A private key is accepted only if its numbers fit each other as far
as that can be told without factoring.
-/

namespace LogSteward

open Der

/-- The public half of an RSA key: modulus and exponent. -/
structure RsaKey where
  modulus : Nat
  exponent : Nat
deriving DecidableEq

/-- The numbers of a private key. -/
structure RsaPrivateKey where
  key : RsaKey
  /-- The private exponent. -/
  secret : Nat
  /-- The two factors of the modulus. -/
  first : Nat
  second : Nat
  /-- The private exponent, reduced for each of the factors. -/
  firstSecret : Nat
  secondSecret : Nat
  /-- The inverse of the second factor by the first. -/
  inverse : Nat
deriving DecidableEq

/-- How many binary digits a number has. -/
def bitLength (n : Nat) : Nat :=
  if n = 0 then 0 else n.log2 + 1

namespace RsaKey

/-- Whether a key is of a length that is in use, and has a common exponent. -/
def isCommon (k : RsaKey) : Bool :=
  k.modulus % 2 = 1 && 2048 ≤ bitLength k.modulus && bitLength k.modulus ≤ 4096
    && k.exponent % 2 = 1 && 65537 ≤ k.exponent && k.exponent < 0x200000000

/-- What names the algorithm: its identifier and an empty parameter. -/
def algorithm : Octets :=
  [ 0x06, 0x09, 0x2A, 0x86, 0x48, 0x86, 0xF7, 0x0D, 0x01, 0x01, 0x01, 0x05, 0x00 ]

/-- Whether a value names the algorithm. -/
def isAlgorithm (e : Element) : Bool :=
  e.tag = sequenceTag && e.content = algorithm

/-- The key in the public key information of a certificate. -/
def ofPublicInfo? (e : Element) : Option RsaKey :=
  match e.members? with
  | some [a, key] =>
    if isAlgorithm a then
      match key.bits?.bind sequence? with
      | some [n, e] => do return ⟨← n.natural?, ← e.natural?⟩
      | _ => none
    else none
  | _ => none

end RsaKey

namespace RsaPrivateKey

/-- Whether a number can be one of two factors of a number with so many binary digits. -/
def isFactor (bits p : Nat) : Bool :=
  p % 2 = 1 && bitLength p = (bits + 1) / 2 && bitLength p % 512 = 0

/-- Whether the numbers of a key fit each other. -/
def isSound (k : RsaPrivateKey) : Bool :=
  let n := k.key.modulus
  let bits := bitLength n
  k.key.isCommon && isFactor bits k.first && isFactor bits k.second
    && k.first * k.second % n = 0
    && k.secret % 2 = 1 && (bits + 1) / 2 < bitLength k.secret && k.secret < n
    && k.firstSecret % 2 = 1 && k.firstSecret < k.first
    && k.secondSecret % 2 = 1 && k.secondSecret < k.second
    && k.inverse < k.first && k.second * k.inverse % k.first = 1

/-- The key with the given numbers, after a version. -/
def ofNumbers? : List Nat → Option RsaPrivateKey
  | [0, n, e, d, p, q, dp, dq, i] => some ⟨⟨n, e⟩, d, p, q, dp, dq, i⟩
  | _ => none

/-- A key that is written as the sequence of its numbers. -/
def ofDer? (s : Octets) : Option RsaPrivateKey := do
  let k ← ofNumbers? (← (← sequence? s).mapM Element.natural?)
  if k.isSound then some k else none

/-- A key that is wrapped together with the name of its algorithm, and perhaps with attributes. -/
def ofWrapped? (s : Octets) : Option RsaPrivateKey :=
  match sequence? s with
  | some (version :: algorithm :: key :: attributes) =>
    if version.natural? = some 0 ∧ RsaKey.isAlgorithm algorithm ∧ key.tag = octetStringTag
        ∧ attributes.length ≤ 1 ∧ attributes.all (·.tag = memberTag 0) then
      ofDer? key.content
    else none
  | _ => none

end RsaPrivateKey

end LogSteward
