import LogSteward.Text.Base64

/-!
# PEM

A PEM text is read line by line.  A block opens at a line that begins with `-----BEGIN `, bears the
label that stands there before five dashes, and closes at the line that begins with the matching
`-----END `.  The lines between them hold base64.  All other lines are ignored.  A block that is not
closed, and an opening line that is not ended by dashes, make the whole text unreadable.
-/

namespace LogSteward.Pem

/-- The octets of an ASCII text. -/
def ascii (s : String) : Octets :=
  s.toList.map fun c => UInt8.ofNat c.toNat

def beginMark : Octets := ascii "-----BEGIN "
def endMark : Octets := ascii "-----END "
def dashes : Octets := ascii "-----"

/-- Whether an octet ends a line. -/
def isLineEnd (b : UInt8) : Bool :=
  b == 0x0A || b == 0x0D

/-- The lines of a text, without what ends them; `line` is what has been read of the first one. -/
def linesFrom (line : Octets) : Octets → List Octets
  | [] => [line]
  | b :: rest => if isLineEnd b then line :: linesFrom [] rest else linesFrom (line ++ [b]) rest

def lines (s : Octets) : List Octets :=
  linesFrom [] s

/-- A block: its label, and the lines in it one after the other. -/
structure Block where
  label : Octets
  body : Octets
deriving DecidableEq

/-- What a line says. -/
inductive Line where
  /-- A block opens. -/
  | opening (label : Octets)
  /-- A block tries to open, but its line is ill-formed. -/
  | badOpening
  | other (line : Octets)

/-- The label on an opening line, after its mark: it ends before exactly five dashes. -/
def label? (s : Octets) : Option Octets :=
  let core := (s.reverse.dropWhile fun b => b == 0x20 || b == 0x2D).reverse
  let trailer := s.drop core.length
  if trailer.count 0x2D = 5 then
    some (core ++ trailer.takeWhile (· ≠ 0x2D))
  else none

/-- Reads a line for what it says. -/
def Line.of (line : Octets) : Line :=
  if beginMark.isPrefixOf line then
    match label? (line.drop beginMark.length) with
    | some label => .opening label
    | none => .badOpening
  else .other line

/-- Whether a line closes the block with the given label. -/
def closes (label line : Octets) : Bool :=
  (endMark ++ label ++ dashes).isPrefixOf line

/-- The blocks in a list of lines; `current` is the block that is open.  A block that opens inside
another one takes over the lines read so far. -/
def blocksFrom (current : Option Block) : List Octets → Option (List Block)
  | [] => if current.isSome then none else some []
  | l :: ls =>
    match Line.of l with
    | .badOpening => none
    | .opening label => blocksFrom (some ⟨label, (current.map (·.body)).getD []⟩) ls
    | .other line =>
      match current with
      | none => blocksFrom none ls
      | some b =>
        if closes b.label line then (blocksFrom none ls).map (b :: ·)
        else blocksFrom (some ⟨b.label, b.body ++ line⟩) ls

/-- The blocks of a text, unless it is unreadable. -/
def blocks (s : Octets) : Option (List Block) :=
  blocksFrom none (lines s)

/-- The kinds of blocks that are known. -/
inductive Kind where
  | certificate
  /-- A private key in one of three forms. -/
  | privateKey
  | rsaPrivateKey
  | ecPrivateKey
  /-- Something known that is neither. -/
  | unrelated
deriving DecidableEq

/-- The kind that a label names.  Blocks with other labels are passed over. -/
def Kind.ofLabel? (label : Octets) : Option Kind :=
  if label = ascii "CERTIFICATE" then some .certificate
  else if label = ascii "PRIVATE KEY" then some .privateKey
  else if label = ascii "RSA PRIVATE KEY" then some .rsaPrivateKey
  else if label = ascii "EC PRIVATE KEY" then some .ecPrivateKey
  else if label = ascii "PUBLIC KEY" ∨ label = ascii "X509 CRL"
      ∨ label = ascii "CERTIFICATE REQUEST" ∨ label = ascii "ECHCONFIG" then some .unrelated
  else none

/-- What a block holds. -/
structure Item where
  kind : Kind
  content : Octets
deriving DecidableEq

/-- The blanks between the characters of base64. -/
def isFiller (b : UInt8) : Bool :=
  b == 0x20 || (0x09 ≤ b && b ≤ 0x0D)

/-- What a block of a known kind holds; the error is content that is not base64. -/
def Block.item? (b : Block) : Option (Option Item) :=
  match Kind.ofLabel? b.label with
  | none => some none
  | some kind =>
    (Base64.decode? (b.body.filter (!isFiller ·))).map fun content => some { kind, content }

/-- The contents of the blocks of known kinds, unless the text is unreadable. -/
def items (s : Octets) : Option (List Item) := do
  let bs ← blocks s
  let found ← bs.mapM Block.item?
  return found.filterMap id

end LogSteward.Pem
