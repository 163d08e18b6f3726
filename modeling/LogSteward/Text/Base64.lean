import LogSteward.Text.Utf8

/-!
# Base64

Octets written with sixty-four characters, three octets as four characters; a last group that is
short is filled up with `=` when it is written.
-/

namespace LogSteward.Base64

/-- The character for a number below sixty-four. -/
def digit (n : Nat) : Char :=
  if n < 26 then Char.ofNat (n + 65)
  else if n < 52 then Char.ofNat (n - 26 + 97)
  else if n < 62 then Char.ofNat (n - 52 + 48)
  else if n = 62 then '+'
  else '/'

/-- The number that an octet of the text stands for. -/
def value? (b : UInt8) : Option Nat :=
  let n := b.toNat
  if 65 ≤ n ∧ n ≤ 90 then some (n - 65)
  else if 97 ≤ n ∧ n ≤ 122 then some (n - 97 + 26)
  else if 48 ≤ n ∧ n ≤ 57 then some (n - 48 + 52)
  else if n = 43 then some 62
  else if n = 47 then some 63
  else none

/-- The octet that fills up the last group. -/
def pad : UInt8 := 0x3D

/-- The characters that stand for octets. -/
def encodeChars : Octets → List Char
  | a :: b :: c :: rest =>
    let n := a.toNat * 0x10000 + b.toNat * 0x100 + c.toNat
    digit (n / 0x40000) :: digit (n / 0x1000 % 64) :: digit (n / 64 % 64) :: digit (n % 64)
      :: encodeChars rest
  | [a, b] =>
    let n := a.toNat * 0x10000 + b.toNat * 0x100
    [digit (n / 0x40000), digit (n / 0x1000 % 64), digit (n / 64 % 64), '=']
  | [a] =>
    let n := a.toNat * 0x10000
    [digit (n / 0x40000), digit (n / 0x1000 % 64), '=', '=']
  | [] => []

/-- The text that stands for octets. -/
def encode (bs : Octets) : String :=
  String.ofList (encodeChars bs)

/-- The octet that two characters stand for. -/
def one? (a b : UInt8) : Option Octets := do
  let n := (← value? a) * 64 + (← value? b)
  return [UInt8.ofNat (n / 16)]

/-- The octets that three characters stand for. -/
def two? (a b c : UInt8) : Option Octets := do
  let n := ((← value? a) * 64 + (← value? b)) * 64 + (← value? c)
  return [UInt8.ofNat (n / 1024), UInt8.ofNat (n / 4 % 256)]

/-- The octets that four characters stand for. -/
def three? (a b c d : UInt8) : Option Octets := do
  let n := (((← value? a) * 64 + (← value? b)) * 64 + (← value? c)) * 64 + (← value? d)
  return [UInt8.ofNat (n / 0x10000), UInt8.ofNat (n / 0x100 % 256), UInt8.ofNat (n % 256)]

/-- The octets that a text stands for, which is given as octets itself.  The last group may be short
without being filled up. -/
def decode? : Octets → Option Octets
  | [] => some []
  | [_] => none
  | [a, b] => one? a b
  | [a, b, c] => two? a b c
  | [a, b, c, d] =>
    if d ≠ pad then three? a b c d else if c ≠ pad then two? a b c else one? a b
  | a :: b :: c :: d :: rest => do
    let first ← three? a b c d
    let more ← decode? rest
    return first ++ more

end LogSteward.Base64
