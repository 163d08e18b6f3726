/-!
# Punycode

A label of a host name with characters outside of ASCII is written in letters and digits: first its
ASCII characters, then for each further character how far it is from the one before, counting code
points and places.  The distances are numbers of variable length whose digit thresholds adapt.
`encode` writes a label in this way and `decode?` reads it.
-/

namespace LogSteward.Punycode

/-- The character for a number below thirty-six. -/
def digit (n : Nat) : Char :=
  if n < 26 then Char.ofNat (n + 97) else Char.ofNat (n - 26 + 48)

/-- The bound below which a digit at place `k` ends a number. -/
def threshold (k bias : Nat) : Nat :=
  if k ≤ bias then 1 else if bias + 26 ≤ k then 26 else k - bias

/-- The digits of a number from place `k` on, at most `fuel + 1` of them. -/
def digitsFrom (bias k q : Nat) : (fuel : Nat) → List Char
  | 0 => [digit q]
  | fuel + 1 =>
    let t := threshold k bias
    if q < t then [digit q]
    else digit (t + (q - t) % (36 - t)) :: digitsFrom bias (k + 36) ((q - t) / (36 - t)) fuel

/-- The digits of a number: each one divides what is left by ten or more. -/
def digits (bias q : Nat) : List Char :=
  digitsFrom bias 36 q q

/-- Scales a distance down until it is small, and counts the steps in places. -/
def scale (delta k : Nat) : (fuel : Nat) → Nat × Nat
  | 0 => (delta, k)
  | fuel + 1 => if 455 < delta then scale (delta / 35) (k + 36) fuel else (delta, k)

/-- The bias after a distance, when `count` characters have been written. -/
def adapt (delta count : Nat) (first : Bool) : Nat :=
  let d := if first then delta / 700 else delta / 2
  let (d, k) := scale (d + d / count) 0 delta
  k + 36 * d / (d + 38)

/-- How far the writing of a label has come. -/
structure State where
  /-- The distance from the last character written. -/
  delta : Nat
  bias : Nat
  /-- How many characters have been written. -/
  written : Nat
  output : List Char

/-- Passes over a character of the label while `code` is being written. -/
def place (code basic : Nat) (st : State) (c : Char) : State :=
  if c.toNat < code then { st with delta := st.delta + 1 }
  else if c.toNat = code then
    { delta := 0
      bias := adapt st.delta (st.written + 1) (st.written = basic)
      written := st.written + 1
      output := st.output ++ digits st.bias st.delta }
  else st

/-- Writes all characters with the given code points, in rising order; `last` is the first code
point that has not been passed. -/
def codes (label : List Char) (basic : Nat) : (last : Nat) → List Nat → State → State
  | _, [], st => st
  | last, code :: rest, st =>
    let st := { st with delta := st.delta + (code - last) * (st.written + 1) }
    let st := label.foldl (place code basic) st
    codes label basic (code + 1) rest { st with delta := st.delta + 1 }

/-- The code points outside of ASCII in a label, in rising order. -/
def foreign (label : List Char) : List Nat :=
  (((label.filter (0x7F < ·.toNat)).map Char.toNat).eraseDups).mergeSort (· ≤ ·)

/-- A label in letters and digits. -/
def encode (label : List Char) : List Char :=
  let basic := label.filter (·.toNat < 0x80)
  let start := if basic.isEmpty then [] else basic ++ ['-']
  (codes label basic.length 0x80 (foreign label) ⟨0, 72, basic.length, start⟩).output

/-- The number that a digit stands for. -/
def value? (c : Char) : Option Nat :=
  if c.isDigit then some (c.toNat - '0'.toNat + 26)
  else if c.isLower then some (c.toNat - 'a'.toNat)
  else none

/-- Reads a number from place `k` on, where a digit counts `weight` times: its sum with `sofar`, and
what follows it. -/
def readNumber (bias k weight sofar : Nat) : List Char → Option (Nat × List Char)
  | [] => none
  | c :: cs =>
    match value? c with
    | none => none
    | some d =>
      let t := threshold k bias
      if d < t then some (sofar + d * weight, cs)
      else readNumber bias (k + 36) (weight * (36 - t)) (sofar + d * weight) cs

/-- Reads at most `fuel` distances and puts a character into the label for each of them.  `code` is
the code point and `at_` the place from which the next distance counts. -/
def readCodes : (fuel : Nat) → (code at_ bias : Nat) → List Char → List Char → Option (List Char)
  | _, _, _, _, label, [] => some label
  | 0, _, _, _, _, _ :: _ => none
  | fuel + 1, code, at_, bias, label, c :: cs =>
    match readNumber bias 36 1 at_ (c :: cs) with
    | none => none
    | some (n, rest) =>
      let count := label.length + 1
      let code' := code + n / count
      if code'.isValidChar then
        let place := n % count
        readCodes fuel code' (place + 1) (adapt (n - at_) count (at_ = 0))
          (label.insertIdx place (Char.ofNat code')) rest
      else none

/-- The label that letters and digits stand for. -/
def decode? (s : List Char) : Option (List Char) :=
  let written := (s.reverse.takeWhile (· ≠ '-')).reverse
  let basic := s.take (s.length - written.length - 1)
  readCodes written.length 0x80 0 72 basic written

end LogSteward.Punycode
