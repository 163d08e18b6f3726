import LogSteward.Json.Reader

/-!
# Numerals

The number literals of JSON.  Only whole numbers are ever asked for, so a numeral is kept as its
digits: `Numeral.whole?` is the number it stands for if it is written as a whole number that fits
in 64 bits.  Any other numeral stands for a double; one whose magnitude is beyond the doubles is
refused as malformed, which is decided on the first 64 bits' worth of its digits.
-/

namespace LogSteward.Json

/-- A number literal. -/
structure Numeral where
  negative : Bool
  /-- The digits before the point. -/
  whole : List Nat
  /-- The digits after the point, if there is one. -/
  fraction : Option (List Nat)
  /-- The exponent, if there is one. -/
  exponent : Option Int
deriving DecidableEq

namespace Numeral

/-- The number that decimal digits spell. -/
def ofDigits (ds : List Nat) : Nat :=
  ds.foldl (fun n d => n * 10 + d) 0

/-- The whole number that a numeral stands for, if it is written as one and fits in 64 bits, signed
or not.  A negative zero is not a whole number. -/
def whole? (n : Numeral) : Option Int :=
  match n.fraction, n.exponent with
  | none, none =>
    let m := ofDigits n.whole
    if n.negative then
      if 0 < m ∧ m ≤ 0x8000000000000000 then some (-(m : Int)) else none
    else if m < 0x10000000000000000 then some m else none
  | _, _ => none

/-- Digits that are kept as 64 bits and the power of ten they are scaled by. -/
structure Scaled where
  bits : Nat
  power : Int

/-- Takes digits before the point: once a digit does not fit, it and all further ones only scale. -/
def Scaled.takeWhole (bits : Nat) : List Nat → Scaled
  | [] => ⟨bits, 0⟩
  | d :: ds =>
    if bits * 10 + d < 0x10000000000000000 then takeWhole (bits * 10 + d) ds
    else ⟨bits, ds.length + 1⟩

/-- Takes digits after the point: once a digit does not fit, it and all further ones are dropped. -/
def Scaled.takeFraction (s : Scaled) : List Nat → Scaled
  | [] => s
  | d :: ds =>
    if s.bits * 10 + d < 0x10000000000000000 then
      takeFraction ⟨s.bits * 10 + d, s.power - 1⟩ ds
    else s

/-- A power of ten up to the 308th, as the nearest double. -/
def tenTo (n : Nat) : Float :=
  Float.ofScientific 1 false n

/-- Whether scaling leaves the doubles.  Small powers beyond the table of doubles are divided out
in two steps. -/
def Scaled.overflows (s : Scaled) : Bool :=
  if 0 ≤ s.power then
    if s.power ≤ 308 then (s.bits.toUInt64.toFloat * tenTo s.power.toNat).isInf
    else s.bits != 0
  else false

/-- An exponent of ten digits and more no longer fits in 32 bits. -/
def exponentLimit : Int := 0x7FFFFFFF

/-- Whether the magnitude of a numeral is beyond the doubles. -/
def overflows (n : Numeral) : Bool :=
  if n.whole?.isSome then false
  else
    let s := (Scaled.takeWhole 0 n.whole).takeFraction (n.fraction.getD [])
    match n.exponent with
    | none => s.overflows
    | some e =>
      if exponentLimit < e then s.bits != 0
      else if e < -exponentLimit then false
      else Scaled.overflows ⟨s.bits, s.power + e⟩

end Numeral

/-- The leading decimal digits, and what follows them. -/
def takeDigits (s : Octets) : List Nat × Octets :=
  ((s.takeWhile Octet.isDigit).map fun b => b.toNat - 0x30, s.dropWhile Octet.isDigit)

/-- One digit or more. -/
def readDigits (s : Octets) : Except Fault (List Nat × Octets) :=
  match takeDigits s with
  | ([], []) => .error .truncated
  | ([], _ :: _) => .error .malformed
  | (d :: ds, rest) => .ok (d :: ds, rest)

/-- The digits before the point: a leading zero stands alone. -/
def readWhole (s : Octets) : Except Fault (List Nat × Octets) :=
  match readDigits s with
  | .error f => .error f
  | .ok (0 :: _ :: _, _) => .error .malformed
  | .ok r => .ok r

/-- The point and the digits after it, if there is a point. -/
def readFraction : Octets → Except Fault (Option (List Nat) × Octets)
  | [] => .ok (none, [])
  | b :: s =>
    if b = Octet.point then
      match readDigits s with
      | .error f => .error f
      | .ok (ds, rest) => .ok (some ds, rest)
    else .ok (none, b :: s)

/-- The sign of an exponent: whether it is negative, and what follows. -/
def readSign : Octets → Bool × Octets
  | [] => (false, [])
  | b :: s =>
    if b = Octet.minus then (true, s) else if b = Octet.plus then (false, s) else (false, b :: s)

/-- The exponent, if there is one. -/
def readExponent : Octets → Except Fault (Option Int × Octets)
  | [] => .ok (none, [])
  | b :: s =>
    if Octet.isExponent b then
      let (negative, s') := readSign s
      match readDigits s' with
      | .error f => .error f
      | .ok (ds, rest) =>
        let e : Int := Numeral.ofDigits ds
        .ok (some (if negative then -e else e), rest)
    else .ok (none, b :: s)

/-- Reads a number literal. -/
def readNumeral (s : Octets) : Except Fault (Numeral × Octets) :=
  let (negative, s₀) := match s with
    | Octet.minus :: rest => (true, rest)
    | _ => (false, s)
  match readWhole s₀ with
  | .error f => .error f
  | .ok (whole, s₁) =>
    match readFraction s₁ with
    | .error f => .error f
    | .ok (fraction, s₂) =>
      match readExponent s₂ with
      | .error f => .error f
      | .ok (exponent, s₃) =>
        let n : Numeral := { negative, whole, fraction, exponent }
        if n.overflows then .error .malformed else .ok (n, s₃)

end LogSteward.Json
