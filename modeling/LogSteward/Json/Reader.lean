import LogSteward.Json.Value

/-!
# Reading JSON

A reader takes a value off the front of the octets that are left, or says why it cannot.  Reading
goes strictly from left to right and the first defect decides: a text that ended early, one that is
no JSON, or one that is JSON but not the value that was asked for.

This module reads the pieces: blanks, fixed words, strings.  A string stands for the characters it
spells; one whose octets are ill-formed, or that spells half of a surrogate pair, is no JSON.
-/

namespace LogSteward.Json

/-- Why a text could not be read. -/
inductive Fault where
  /-- The text ended early. -/
  | truncated
  /-- The text is JSON but not the value asked for. -/
  | mismatched
  /-- The text is not JSON. -/
  | malformed
deriving DecidableEq

/-- Takes a value off the front of the octets. -/
abbrev Reader := StateT Octets (Except Fault)

namespace Octet

@[match_pattern] abbrev quote : UInt8 := 0x22
@[match_pattern] abbrev backslash : UInt8 := 0x5C
@[match_pattern] abbrev comma : UInt8 := 0x2C
@[match_pattern] abbrev colon : UInt8 := 0x3A
@[match_pattern] abbrev minus : UInt8 := 0x2D
@[match_pattern] abbrev plus : UInt8 := 0x2B
@[match_pattern] abbrev point : UInt8 := 0x2E
@[match_pattern] abbrev zero : UInt8 := 0x30
@[match_pattern] abbrev openBracket : UInt8 := 0x5B
@[match_pattern] abbrev closeBracket : UInt8 := 0x5D
@[match_pattern] abbrev openBrace : UInt8 := 0x7B
@[match_pattern] abbrev closeBrace : UInt8 := 0x7D
@[match_pattern] abbrev letterF : UInt8 := 0x66
@[match_pattern] abbrev letterN : UInt8 := 0x6E
@[match_pattern] abbrev letterT : UInt8 := 0x74
@[match_pattern] abbrev letterU : UInt8 := 0x75

/-- The blanks that may stand between tokens. -/
def isBlank (b : UInt8) : Bool :=
  b == 0x20 || b == 0x09 || b == 0x0A || b == 0x0D

def isDigit (b : UInt8) : Bool :=
  0x30 ≤ b && b ≤ 0x39

/-- Octets that may not stand in a string. -/
def isControl (b : UInt8) : Bool :=
  b < 0x20

/-- The sign before an exponent. -/
def isSign (b : UInt8) : Bool :=
  b == plus || b == minus

/-- The letter before an exponent. -/
def isExponent (b : UInt8) : Bool :=
  b == 0x65 || b == 0x45

/-- The value of a hexadecimal digit. -/
def hexValue? (b : UInt8) : Option Nat :=
  if 0x30 ≤ b ∧ b ≤ 0x39 then some (b.toNat - 0x30)
  else if 0x61 ≤ b ∧ b ≤ 0x66 then some (b.toNat - 0x61 + 10)
  else if 0x41 ≤ b ∧ b ≤ 0x46 then some (b.toNat - 0x41 + 10)
  else none

/-- The octet that a short escape stands for. -/
def shortEscape? (b : UInt8) : Option UInt8 :=
  if b = 0x22 then some 0x22
  else if b = 0x5C then some 0x5C
  else if b = 0x2F then some 0x2F
  else if b = 0x62 then some 0x08
  else if b = 0x66 then some 0x0C
  else if b = 0x6E then some 0x0A
  else if b = 0x72 then some 0x0D
  else if b = 0x74 then some 0x09
  else none

end Octet

/-- The octets after leading blanks. -/
def skipBlanks (s : Octets) : Octets :=
  s.dropWhile Octet.isBlank

/-- Reads the rest of a fixed word. -/
def readWord : Octets → Octets → Except Fault Octets
  | [], s => .ok s
  | _ :: _, [] => .error .truncated
  | w :: ws, b :: s => if b = w then readWord ws s else .error .malformed

/-- The number that four hexadecimal digits spell. -/
def hexNumber? (ds : List UInt8) : Option Nat :=
  ds.foldlM (fun n d => (Octet.hexValue? d).map (n * 16 + ·)) 0

/-- Where the reading of a string stands. -/
inductive Strand where
  /-- Between characters. -/
  | plain
  /-- After a backslash. -/
  | escape
  /-- Among the four digits of a numeric escape, perhaps the second of a pair. -/
  | digits (first : Option Nat) (read : List UInt8)
  /-- After the first half of a surrogate pair. -/
  | half (first : Nat)
  /-- After the backslash that follows the first half of a pair. -/
  | halfEscape (first : Nat)
deriving DecidableEq

/-- What a numeric escape adds to a string: an error if it is a half without its partner. -/
def closeEscape (first : Option Nat) (n : Nat) : Except Fault (Octets × Strand) :=
  match first with
  | none =>
    if 0xDC00 ≤ n ∧ n ≤ 0xDFFF then .error .malformed
    else if 0xD800 ≤ n ∧ n ≤ 0xDBFF then .ok ([], .half n)
    else .ok (String.utf8EncodeChar (Char.ofNat n), .plain)
  | some h =>
    if 0xDC00 ≤ n ∧ n ≤ 0xDFFF then
      .ok (String.utf8EncodeChar (Char.ofNat (0x10000 + (h - 0xD800) * 0x400 + (n - 0xDC00))),
        .plain)
    else .error .malformed

/-- One octet of a string, its closing quote apart: what it adds, and where reading stands then. -/
def Strand.step : Strand → UInt8 → Except Fault (Octets × Strand)
  | .plain, b =>
    if b = Octet.backslash then .ok ([], .escape)
    else if Octet.isControl b then .error .malformed
    else .ok ([b], .plain)
  | .escape, b =>
    if b = Octet.letterU then .ok ([], .digits none [])
    else match Octet.shortEscape? b with
      | some c => .ok ([c], .plain)
      | none => .error .malformed
  | .digits first read, b =>
    let ds := read ++ [b]
    if ds.length < 4 then .ok ([], .digits first ds)
    else match hexNumber? ds with
      | some n => closeEscape first n
      | none => .error .malformed
  | .half h, b => if b = Octet.backslash then .ok ([], .halfEscape h) else .error .malformed
  | .halfEscape h, b =>
    if b = Octet.letterU then .ok ([], .digits (some h) []) else .error .malformed

/-- Reads a string after its opening quote, up to and with the closing one. -/
def readQuoted (st : Strand) (acc : Octets) : Octets → Except Fault (String × Octets)
  | [] => .error .truncated
  | b :: s =>
    if st = .plain ∧ b = Octet.quote then
      match Utf8.decode? acc.reverse with
      | some t => .ok (t, s)
      | none => .error .malformed
    else match st.step b with
      | .ok (bs, st') => readQuoted st' (bs.reverse ++ acc) s
      | .error f => .error f

end LogSteward.Json
