import LogSteward.Json.Skip

/-!
# Reading values of a known shape

Readers for strings, whole numbers, optional values, lists, dictionaries and records.

A record is described by a `Layout`: its fields in order of declaration, how each is spelled and
read, and how the record is built from the fields that are there.  It may be written as an object,
where unknown members are passed over and a field may come in any place but only once, or as a list
of its fields in order of declaration, where fields at the end may be left out.
-/

namespace LogSteward.Json

/-- The fault of a value that is not of the kind asked for.  A scalar is first read to its end. -/
def refuse (s : Octets) : Fault :=
  match s with
  | [] => .truncated
  | b :: rest =>
    let after {α : Type} (r : Except Fault α) : Fault :=
      match r with
      | .error f => f
      | .ok _ => .mismatched
    if b = Octet.letterN then after (readWord [0x75, 0x6C, 0x6C] rest)
    else if b = Octet.letterT then after (readWord [0x72, 0x75, 0x65] rest)
    else if b = Octet.letterF then after (readWord [0x61, 0x6C, 0x73, 0x65] rest)
    else if b = Octet.quote then after (readQuoted .plain [] rest)
    else if b = Octet.minus ∨ Octet.isDigit b then after (readNumeral (b :: rest))
    else if b = Octet.openBracket ∨ b = Octet.openBrace then .mismatched
    else .malformed

/-- Reads a string. -/
def readText : Reader String := fun s =>
  match skipBlanks s with
  | Octet.quote :: rest => readQuoted .plain [] rest
  | rest => .error (refuse rest)

/-- Reads a whole number that the given type can hold. -/
def readInteger (convert? : Int → Option α) : Reader α := fun s =>
  match skipBlanks s with
  | [] => .error .truncated
  | b :: rest =>
    if b = Octet.minus ∨ Octet.isDigit b then
      match readNumeral (b :: rest) with
      | .error f => .error f
      | .ok (n, rest') =>
        match n.whole?.bind convert? with
        | some a => .ok (a, rest')
        | none => .error .mismatched
    else .error (refuse (b :: rest))

def uint32? (n : Int) : Option UInt32 :=
  if 0 ≤ n ∧ n < 0x100000000 then some (UInt32.ofNat n.toNat) else none

def uint64? (n : Int) : Option UInt64 :=
  if 0 ≤ n ∧ n < 0x10000000000000000 then some (UInt64.ofNat n.toNat) else none

def int64? (n : Int) : Option Int64 :=
  if -0x8000000000000000 ≤ n ∧ n < 0x8000000000000000 then some (Int64.ofInt n) else none

/-- Reads a value, or `null` for its absence. -/
def readOption (read : Reader α) : Reader (Option α) := fun s =>
  match skipBlanks s with
  | Octet.letterN :: rest =>
    match readWord [0x75, 0x6C, 0x6C] rest with
    | .ok rest' => .ok (none, rest')
    | .error f => .error f
  | rest =>
    match read rest with
    | .ok (a, rest') => .ok (some a, rest')
    | .error f => .error f

/-- Reads the elements of a list up to and with its closing bracket, at least one.  An element
that takes nothing off the octets is refused. -/
def readElements (read : Reader α) (s : Octets) : Except Fault (List α × Octets) :=
  match read s with
  | .error f => .error f
  | .ok (a, rest) =>
    match skipBlanks rest with
    | [] => .error .truncated
    | b :: rest' =>
      if b = Octet.closeBracket then .ok ([a], rest')
      else if b = Octet.comma then
        if rest'.length < s.length then
          match readElements read rest' with
          | .ok (as, rest'') => .ok (a :: as, rest'')
          | .error f => .error f
        else .error .malformed
      else .error .malformed
termination_by s.length

/-- Reads a list. -/
def readList (read : Reader α) : Reader (List α) := fun s =>
  match skipBlanks s with
  | Octet.openBracket :: rest =>
    match skipBlanks rest with
    | [] => .error .truncated
    | Octet.closeBracket :: rest' => .ok ([], rest')
    | rest' => readElements read rest'
  | rest => .error (refuse rest)

/-- Reads the colon after a key. -/
def readColon (s : Octets) : Except Fault Octets :=
  match skipBlanks s with
  | [] => .error .truncated
  | b :: rest => if b = Octet.colon then .ok rest else .error .malformed

/-- Reads the opening quote and the rest of a key. -/
def readKey (s : Octets) : Except Fault (String × Octets) :=
  match skipBlanks s with
  | [] => .error .truncated
  | b :: rest => if b = Octet.quote then readQuoted .plain [] rest else .error .malformed

/-- Reads the members of an object up to and with its closing brace, at least one.  `onMember` is
given what the members before have amounted to, the key, and the octets after the key. -/
def readMembers (onMember : σ → String → Octets → Except Fault (σ × Octets)) (acc : σ)
    (s : Octets) : Except Fault (σ × Octets) :=
  match readKey s with
  | .error f => .error f
  | .ok (key, rest) =>
    match onMember acc key rest with
    | .error f => .error f
    | .ok (acc', rest') =>
      match skipBlanks rest' with
      | [] => .error .truncated
      | b :: rest'' =>
        if b = Octet.closeBrace then .ok (acc', rest'')
        else if b = Octet.comma then
          if rest''.length < s.length then readMembers onMember acc' rest''
          else .error .malformed
        else .error .malformed
termination_by s.length

/-- Reads an object after its opening brace. -/
def readObject (onMember : σ → String → Octets → Except Fault (σ × Octets)) (acc : σ)
    (s : Octets) : Except Fault (σ × Octets) :=
  match skipBlanks s with
  | [] => .error .truncated
  | Octet.closeBrace :: rest => .ok (acc, rest)
  | rest => readMembers onMember acc rest

/-- The shape of a record. -/
structure Layout (α : Type) where
  /-- The names of the fields inside the library. -/
  Field : Type
  [decEq : DecidableEq Field]
  /-- The fields in order of declaration. -/
  fields : List Field
  /-- How a field is spelled. -/
  key : Field → String
  /-- What a field holds. -/
  Value : Field → Type
  read : (f : Field) → Reader (Value f)
  /-- The record with the given fields, unless one that it cannot do without is missing. -/
  build? : ((f : Field) → Option (Value f)) → Option α

namespace Layout

attribute [instance] Layout.decEq

/-- The fields of a record that have been read. -/
abbrev Slots (L : Layout α) := (f : L.Field) → Option (L.Value f)

/-- No field has been read. -/
def empty (L : Layout α) : L.Slots := fun _ => none

/-- One more field has been read. -/
def Slots.set {L : Layout α} (slots : L.Slots) (f : L.Field) (v : L.Value f) : L.Slots :=
  fun g => if h : g = f then some (h ▸ v) else slots g

/-- The field that a key names. -/
def field? (L : Layout α) (key : String) : Option L.Field :=
  L.fields.find? (L.key · == key)

/-- Reads a member after its key: a known one once, an unknown one any number of times. -/
def onMember (L : Layout α) (slots : L.Slots) (key : String) (s : Octets) :
    Except Fault (L.Slots × Octets) :=
  match L.field? key with
  | none =>
    match readColon s with
    | .error f => .error f
    | .ok rest =>
      match skipValue rest with
      | .ok rest' => .ok (slots, rest')
      | .error f => .error f
  | some f =>
    if (slots f).isSome then .error .mismatched
    else
      match readColon s with
      | .error e => .error e
      | .ok rest =>
        match L.read f rest with
        | .ok (v, rest') => .ok (slots.set f v, rest')
        | .error e => .error e

/-- Reads the fields of a record written as a list, as far as they are there.  `first` says that no
comma has to come before the next one. -/
def readFields (L : Layout α) (first : Bool) (slots : L.Slots) :
    List L.Field → Octets → Except Fault (L.Slots × Octets)
  | [], s => .ok (slots, s)
  | f :: fs, s =>
    match skipBlanks s with
    | [] => .error .truncated
    | b :: rest =>
      if b = Octet.closeBracket then .ok (slots, b :: rest)
      else
        let next : Except Fault Octets :=
          if first then .ok (b :: rest)
          else if b = Octet.comma then .ok rest
          else .error .malformed
        match next with
        | .error e => .error e
        | .ok s' =>
          match L.read f s' with
          | .error e => .error e
          | .ok (v, s'') => readFields L false (slots.set f v) fs s''

/-- Reads the closing bracket of a record written as a list, after which nothing is left over. -/
def readClose (s : Octets) : Except Fault Octets :=
  match skipBlanks s with
  | [] => .error .truncated
  | b :: rest =>
    if b = Octet.closeBracket then .ok rest else .error .malformed

/-- Reads a record. -/
def reader (L : Layout α) : Reader α := fun s =>
  match skipBlanks s with
  | Octet.openBrace :: rest =>
    match readObject L.onMember L.empty rest with
    | .error f => .error f
    | .ok (slots, rest') =>
      match L.build? slots with
      | some a => .ok (a, rest')
      | none => .error .mismatched
  | Octet.openBracket :: rest =>
    match L.readFields true L.empty L.fields rest with
    | .error f => .error f
    | .ok (slots, rest') =>
      match L.build? slots with
      | none => .error .mismatched
      | some a =>
        match readClose rest' with
        | .ok rest'' => .ok (a, rest'')
        | .error f => .error f
  | rest => .error (refuse rest)

/-- A record of one field. -/
def single (key : String) (read : Reader β) (build? : Option β → Option α) : Layout α where
  Field := Unit
  fields := [()]
  key _ := key
  Value _ := β
  read _ := read
  build? slots := build? (slots ())

/-- A record without fields: any object is one, and so is the empty list. -/
def fieldless (a : α) : Layout α where
  Field := Empty
  fields := []
  key := nofun
  Value := nofun
  read := nofun
  build? _ := some a

end Layout

/-- Reads an object whose keys are not known beforehand, in the order of its members. -/
def readDictionary (read : Reader α) : Reader (List (String × α)) := fun s =>
  match skipBlanks s with
  | Octet.openBrace :: rest =>
    let onMember (acc : List (String × α)) (key : String) (s : Octets) :=
      match readColon s with
      | .error f => .error f
      | .ok s' =>
        match read s' with
        | .ok (a, s'') => .ok ((key, a) :: acc, s'')
        | .error f => .error f
    match readObject onMember [] rest with
    | .ok (acc, rest') => .ok (acc.reverse, rest')
    | .error f => .error f
  | rest => .error (refuse rest)

/-- Reads a whole text: one value with nothing but blanks after it. -/
def decodeOctets (read : Reader α) (s : Octets) : Except Fault α :=
  match read s with
  | .error f => .error f
  | .ok (a, rest) => if (skipBlanks rest).isEmpty then .ok a else .error .malformed

/-- Reads a whole text. -/
def decode (read : Reader α) (s : String) : Except Fault α :=
  decodeOctets read (Utf8.encode s)

end LogSteward.Json
