import LogSteward.Url.Name
import LogSteward.Url.Percent

/-!
# Hosts

The host of an address: a name, an address of four numbers, or one of eight groups in brackets.  A
name is percent-decoded and put into ASCII; one that ends in a number has to be an address.
-/

namespace LogSteward

/-- Why a text is not an address. -/
inductive UrlError where
  | noBase
  | emptyHost
  | badPort
  | badIpv4
  | badIpv6
  | badName
  | badHostCharacter
deriving DecidableEq

namespace UrlError

def message : UrlError → String
  | noBase => "relative URL without a base"
  | emptyHost => "empty host"
  | badPort => "invalid port number"
  | badIpv4 => "invalid IPv4 address"
  | badIpv6 => "invalid IPv6 address"
  | badName => "invalid international domain name"
  | badHostCharacter => "invalid domain character"

end UrlError

namespace Host

/-! ### Addresses of four numbers -/

/-- A number in one of the three bases: its spelling says which. -/
def number? (s : List Char) : Option Nat :=
  let (base, ds) := match s with
    | '0' :: 'x' :: rest => (16, rest)
    | '0' :: 'X' :: rest => (16, rest)
    | '0' :: d :: rest => (8, d :: rest)
    | _ => (10, s)
  if s = [] then none
  else ds.foldlM
    (fun n c => match hexValue? c with
      | some v => if v < base then some (n * base + v) else none
      | none => none)
    0

/-- The labels of a name, without the empty one after a last dot. -/
def labels (s : List Char) : List (List Char) :=
  match (splitAt '.' s).reverse with
  | [] :: p :: rest => (p :: rest).reverse
  | ps => ps.reverse

/-- Whether a name has to be an address of four numbers. -/
def endsInNumber (s : List Char) : Bool :=
  match (labels s).getLast? with
  | some l => (l ≠ [] && l.all Char.isDigit) || (number? l).isSome
  | none => false

/-- The number that an address stands for: the last of its numbers fills up what the others leave
over. -/
def ipv4? (s : List Char) : Option Nat := do
  let ns ← (labels s).mapM number?
  if 4 < ns.length then none
  match ns.reverse with
  | [] => none
  | last :: before =>
    if before.any (255 < ·) then none
    else if Nat.pow 256 (4 - before.length) ≤ last then none
    else
      let high := before.reverse.zipIdx.foldl (fun n (v, i) => n + v * Nat.pow 256 (3 - i)) 0
      some (high + last)

/-- An address of four numbers. -/
def ipv4Text (n : Nat) : String :=
  ".".intercalate ([3, 2, 1, 0].map fun i => toString (n / Nat.pow 256 i % 256))

/-! ### Addresses of eight groups -/

/-- A group of up to four hexadecimal digits. -/
def group? (s : List Char) : Option Nat :=
  if s = [] ∨ 4 < s.length then none
  else s.foldlM (fun n c => (hexValue? c).map (n * 16 + ·)) 0

/-- Two groups, spelled as an address of four decimal numbers. -/
def dotted? (s : List Char) : Option (List Nat) := do
  let parts := splitAt '.' s
  if parts.length ≠ 4 then none
  let ns ← parts.mapM fun p =>
    if p.all Char.isDigit ∧ p ≠ [] ∧ p.length ≤ 3 ∧ (p.length = 1 ∨ p.head? ≠ some '0') then
      (number? p).bind fun n => if n ≤ 255 then some n else none
    else none
  match ns with
  | [a, b, c, d] => some [a * 256 + b, c * 256 + d]
  | _ => none

/-- Groups between colons, of which the last may be spelled as four numbers. -/
def groups? : List (List Char) → Option (List Nat)
  | [] => some []
  | [g] => if g.contains '.' then dotted? g else (group? g).map ([·])
  | g :: gs => do
    let n ← group? g
    let ns ← groups? gs
    return n :: ns

/-- Splits at the first place where two colons stand. -/
def splitGap : List Char → Option (List Char × List Char)
  | ':' :: ':' :: rest => some ([], rest)
  | c :: rest => (splitGap rest).map fun (a, b) => (c :: a, b)
  | [] => none

/-- The groups of one side of the gap. -/
def side? (s : List Char) : Option (List Nat) :=
  if s = [] then some [] else groups? (splitAt ':' s)

/-- The eight groups of an address; a gap stands for groups of zeros. -/
def ipv6? (s : List Char) : Option (List Nat) :=
  match splitGap s with
  | none => do
    let gs ← groups? (splitAt ':' s)
    if gs.length = 8 then some gs else none
  | some (left, right) => do
    let l ← if left.contains '.' then none else side? left
    let r ← side? right
    if l.length + r.length ≤ 7 then
      some (l ++ List.replicate (8 - l.length - r.length) 0 ++ r)
    else none

/-- The length of the run of zeros that a list begins with. -/
def zeros (gs : List Nat) : Nat :=
  (gs.takeWhile (· = 0)).length

/-- The place and length of the first longest run of zeros from the `i`-th group on. -/
def longestZeros : Nat → List Nat → Nat × Nat
  | _, [] => (0, 0)
  | i, g :: gs =>
    let (at_, size) := longestZeros (i + 1) gs
    if size ≤ zeros (g :: gs) then (i, zeros (g :: gs)) else (at_, size)

def hexText (n : Nat) : String :=
  String.ofList (Nat.toDigits 16 n)

/-- An address of eight groups, with a gap for the first longest run of two zeros or more. -/
def ipv6Text (gs : List Nat) : String :=
  let (at_, size) := longestZeros 0 gs
  let text (gs : List Nat) := ":".intercalate (gs.map hexText)
  if 2 ≤ size then text (gs.take at_) ++ "::" ++ text (gs.drop (at_ + size)) else text gs

/-! ### Hosts -/

/-- The host in brackets, if a text is one. -/
def bracketed? (s : List Char) : Option (Except UrlError String) :=
  match s with
  | '[' :: rest =>
    some <| match rest.reverse with
      | ']' :: inner =>
        match ipv6? inner.reverse with
        | some gs => .ok ("[" ++ ipv6Text gs ++ "]")
        | none => .error .badIpv6
      | _ => .error .badIpv6
  | _ => none

/-- The host of an address with a common scheme. -/
def ofText (s : List Char) : Except UrlError String :=
  match bracketed? s with
  | some r => r
  | none =>
    match Utf8.decode? (Percent.decodeChars s) with
    | none => .error .badName
    | some decoded =>
      match Name.ofText? decoded.toList with
      | none => .error .badName
      | some [] => .error .emptyHost
      | some name =>
        if endsInNumber name then
          match ipv4? name with
          | some n => .ok (ipv4Text n)
          | none => .error .badIpv4
        else .ok (String.ofList name)

/-- The characters that a host of an uncommon scheme may not hold. -/
def isBadCharacter (c : Char) : Bool :=
  [ '\x00', '\t', '\n', '\r', ' ', '#', '/', ':', '<', '>', '?', '@', '[', '\\', ']', '^'
  , '|' ].contains c

/-- The host of an address with an uncommon scheme, which is kept as it is. -/
def ofUncommonText (s : List Char) : Except UrlError String :=
  match bracketed? s with
  | some r => r
  | none =>
    if s.any isBadCharacter then .error .badHostCharacter
    else .ok (Percent.encode Percent.controls (String.ofList s))

end Host

end LogSteward
