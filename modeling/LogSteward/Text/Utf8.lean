/-!
# UTF-8

Text as octets and back.  `Utf8.scan` reads octets left to right; an ill-formed stretch is given up
at the first octet that cannot continue it and yields one `none`, so a well-formed text is one that
yields none of them (`decode?`), and a forgiving reader puts U+FFFD for each (`decodeLossy`).
-/

namespace LogSteward

/-- A sequence of bytes. -/
abbrev Octets := List UInt8

namespace Utf8

/-- The octets of a text. -/
def encode (s : String) : Octets :=
  s.toList.flatMap String.utf8EncodeChar

/-- A character whose first octets have been read. -/
structure Pending where
  /-- How many octets are still to come. -/
  missing : Nat
  /-- The bounds of the next octet. -/
  low : UInt8
  high : UInt8
  /-- The bits read so far. -/
  code : Nat
deriving DecidableEq

/-- What the first octet of a character says. -/
inductive Lead where
  | single (c : Char)
  | multi (p : Pending)
  | illFormed

/-- The second octet is bounded more tightly where a longer form, a surrogate or a code point past
the last one would begin. -/
def lead (b : UInt8) : Lead :=
  if b < 0x80 then .single (Char.ofNat b.toNat)
  else if b < 0xC2 then .illFormed
  else if b < 0xE0 then .multi ⟨1, 0x80, 0xBF, b.toNat - 0xC0⟩
  else if b = 0xE0 then .multi ⟨2, 0xA0, 0xBF, 0⟩
  else if b = 0xED then .multi ⟨2, 0x80, 0x9F, 0xD⟩
  else if b < 0xF0 then .multi ⟨2, 0x80, 0xBF, b.toNat - 0xE0⟩
  else if b = 0xF0 then .multi ⟨3, 0x90, 0xBF, 0⟩
  else if b < 0xF4 then .multi ⟨3, 0x80, 0xBF, b.toNat - 0xF0⟩
  else if b = 0xF4 then .multi ⟨3, 0x80, 0x8F, 4⟩
  else .illFormed

/-- One octet where a character may begin: what it completes, and what it leaves open. -/
def start (b : UInt8) : List (Option Char) × Option Pending :=
  match lead b with
  | .single c => ([some c], none)
  | .multi p => ([], some p)
  | .illFormed => ([none], none)

/-- One octet: what it completes, and what it leaves open. -/
def step : Option Pending → UInt8 → List (Option Char) × Option Pending
  | none, b => start b
  | some p, b =>
    if p.low ≤ b ∧ b ≤ p.high then
      let code := p.code * 64 + (b.toNat - 0x80)
      if p.missing ≤ 1 then ([some (Char.ofNat code)], none)
      else ([], some ⟨p.missing - 1, 0x80, 0xBF, code⟩)
    else
      let (cs, q) := start b
      (none :: cs, q)

/-- The characters of a sequence of octets, `none` for each ill-formed stretch. -/
def scan : Option Pending → Octets → List (Option Char)
  | none, [] => []
  | some _, [] => [none]
  | p, b :: rest => (step p b).1 ++ scan (step p b).2 rest

/-- The text of well-formed octets. -/
def decode? (bs : Octets) : Option String :=
  ((scan none bs).mapM id).map String.ofList

/-- The text of any octets, with U+FFFD for each ill-formed stretch. -/
def decodeLossy (bs : Octets) : String :=
  String.ofList ((scan none bs).map (·.getD '\uFFFD'))

end Utf8

end LogSteward
