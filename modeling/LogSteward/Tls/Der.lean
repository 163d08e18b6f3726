import LogSteward.Text.Utf8

/-!
# Values in DER

A value is a tag, a length and that many octets, and each value has one spelling.  Only lengths
below 65535 and tags of one octet are known.
-/

namespace LogSteward.Der

/-- A value: its tag and its content. -/
structure Element where
  tag : UInt8
  content : Octets
deriving DecidableEq

def booleanTag : UInt8 := 0x01
def integerTag : UInt8 := 0x02
def bitStringTag : UInt8 := 0x03
def octetStringTag : UInt8 := 0x04
def identifierTag : UInt8 := 0x06
def sequenceTag : UInt8 := 0x30

/-- The tag of the member with the given number. -/
def memberTag (n : UInt8) : UInt8 := 0xA0 + n

/-- The number that octets spell, the highest first. -/
def number (bs : Octets) : Nat :=
  bs.foldl (fun n b => n * 256 + b.toNat) 0

/-- A length, and what follows it.  It is spelled with as few octets as there can be. -/
def length? : Octets → Option (Nat × Octets)
  | 0x81 :: a :: rest => if 0x80 ≤ a then some (a.toNat, rest) else none
  | 0x82 :: a :: b :: rest =>
    let n := number [a, b]
    if 0x100 ≤ n ∧ n < 0xFFFF then some (n, rest) else none
  | a :: rest => if a < 0x80 then some (a.toNat, rest) else none
  | [] => none

/-- The first value, and what follows it. -/
def first? : Octets → Option (Element × Octets)
  | [] => none
  | tag :: rest =>
    if tag &&& 0x1F = 0x1F then none
    else match length? rest with
    | some (n, rest') =>
      if n ≤ rest'.length then some (⟨tag, rest'.take n⟩, rest'.drop n) else none
    | none => none

/-- The values that octets consist of, at most `fuel` of them. -/
def elementsUpTo : Nat → Octets → Option (List Element)
  | _, [] => some []
  | 0, _ :: _ => none
  | fuel + 1, s =>
    match first? s with
    | some (e, rest) => (elementsUpTo fuel rest).map (e :: ·)
    | none => none

/-- The values that octets consist of. -/
def elements (s : Octets) : Option (List Element) :=
  elementsUpTo s.length s

namespace Element

/-- The values in a sequence. -/
def members? (e : Element) : Option (List Element) :=
  if e.tag = sequenceTag then elements e.content else none

/-- A number that is not negative. -/
def natural? (e : Element) : Option Nat :=
  if e.tag = integerTag then
    match e.content with
    | [] => none
    | [b] => if b < 0x80 then some b.toNat else none
    | a :: b :: rest =>
      if a < 0x80 ∧ (a ≠ 0 ∨ 0x80 ≤ b) then some (number (a :: b :: rest)) else none
  else none

/-- The octets in a string of bits that fill octets. -/
def bits? (e : Element) : Option Octets :=
  if e.tag = bitStringTag then
    match e.content with
    | 0 :: rest => some rest
    | _ => none
  else none

end Element

/-- The only value that octets consist of. -/
def only? (s : Octets) : Option Element :=
  match elements s with
  | some [e] => some e
  | _ => none

/-- The values in a sequence that octets consist of. -/
def sequence? (s : Octets) : Option (List Element) :=
  (only? s).bind Element.members?

end LogSteward.Der
