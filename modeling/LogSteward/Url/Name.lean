import LogSteward.Url.Name.Direction
import LogSteward.Url.Name.Joining
import LogSteward.Url.Name.Mapping
import LogSteward.Url.Punycode

/-!
# Names of hosts

A name consists of labels with dots between them.  Its characters are first replaced by what they
stand for.  A label with characters outside of ASCII is written in ASCII with a mark in front; one
that bears the mark already has to be what would be written.  A label does not begin with a mark of
another character, has joiners only where they are of use, and keeps to one direction if the name
has a label written from right to left.
-/

namespace LogSteward.Name

/-- The characters of ASCII that no name holds. -/
def isForbidden (c : Char) : Bool :=
  c.toNat ≤ 0x20 || c.toNat = 0x7F
    || ['%', '#', '/', ':', '<', '>', '?', '@', '[', '\\', ']', '^', '|'].contains c

def isAscii (cs : List Char) : Bool :=
  cs.all (·.toNat < 0x80)

/-- What begins a label that stands for characters outside of ASCII. -/
def codeMark : List Char := ['x', 'n', '-', '-']

/-- The most characters of a label that is not in ASCII. -/
def labelLimit : Nat := 1000

/-- The most characters that such a label may have been written with after the mark. -/
def codeLimit : Nat := 2000

/-- Whether a label that is not in ASCII may stand in a name of one direction. -/
def isFit (label : List Char) : Bool :=
  label.length ≤ labelLimit && !label.head?.any isMark && joinersFit [] label

/-- A label of a name. -/
structure Label where
  /-- The label as it is shown. -/
  shown : List Char
  /-- The label in ASCII. -/
  written : List Char
deriving DecidableEq

/-- The label that a text spells: the mark is taken off if it stands for something that needs it and
that is spelled as it would be written. -/
def Label.ofText? (label : List Char) : Option Label :=
  if codeMark.isPrefixOf label then
    let code := label.drop codeMark.length
    match if code.length ≤ codeLimit then Punycode.decode? code else none with
    | none => none
    | some shown =>
      if !isAscii shown && mapped? shown = some shown && isFit shown
          && Punycode.encode shown = code then
        some ⟨shown, label⟩
      else none
  else if isAscii label then some ⟨label, label⟩
  else if isFit label then some ⟨label, codeMark ++ Punycode.encode label⟩
  else none

/-- A name in ASCII, if a text spells one. -/
def ofText? (s : List Char) : Option (List Char) :=
  match (mapped? s).bind fun cs => (splitAt '.' cs).mapM Label.ofText? with
  | none => none
  | some labels =>
    let name := joinWith '.' (labels.map (·.written))
    if keepDirections (labels.map (·.shown)) && !name.any isForbidden then some name else none

end LogSteward.Name
