import LogSteward.Text.Hex
import LogSteward.Text.Utf8

/-!
# Percent-encoding

A character that may not stand in a part of an address is written as its octets, each as `%` and two
upper-case digits.  Which ones these are differs from part to part; characters outside of ASCII are
always among them.
-/

namespace LogSteward.Percent

/-- The characters of ASCII that are encoded in a part of an address. -/
abbrev Reserved := Char → Bool

/-- The characters that are encoded everywhere. -/
def controls : Reserved := fun c =>
  c.toNat < 0x20 || c.toNat = 0x7F

/-- The characters encoded in a query. -/
def query : Reserved := fun c =>
  controls c || [' ', '"', '#', '<', '>'].contains c

/-- The characters encoded in a query of a common scheme. -/
def specialQuery : Reserved := fun c =>
  query c || c = '\''

/-- The characters encoded in a fragment. -/
def fragment : Reserved := fun c =>
  controls c || [' ', '"', '<', '>', '`'].contains c

/-- The characters encoded in a path. -/
def path : Reserved := fun c =>
  fragment c || ['#', '?', '{', '}'].contains c

/-- The characters encoded in a segment that is added to a path. -/
def segment : Reserved := fun c =>
  path c || ['/', '%'].contains c

/-- The characters encoded in a segment that is added to a path of a common scheme. -/
def specialSegment : Reserved := fun c =>
  segment c || c = '\\'

/-- The characters encoded in a user name or a password. -/
def userinfo : Reserved := fun c =>
  path c || ['/', ':', ';', '=', '@', '[', '\\', ']', '^', '|'].contains c

/-- An upper-case hexadecimal digit. -/
def hexDigit (n : Nat) : Char :=
  (Nat.digitChar (n % 16)).toUpper

/-- An octet as three characters. -/
def octet (b : UInt8) : List Char :=
  ['%', hexDigit (b.toNat / 16), hexDigit b.toNat]

/-- A character as it stands in a part of an address. -/
def encodeChar (reserved : Reserved) (c : Char) : List Char :=
  if c.toNat < 0x80 ∧ reserved c = false then [c] else (String.utf8EncodeChar c).flatMap octet

/-- A text as it stands in a part of an address. -/
def encode (reserved : Reserved) (s : String) : String :=
  String.ofList (s.toList.flatMap (encodeChar reserved))

/-- The octets that a text stands for; a sign without two digits after it stands for itself. -/
def decodeChars : List Char → Octets
  | '%' :: a :: b :: rest =>
    match hexValue? a, hexValue? b with
    | some h, some l => UInt8.ofNat (h * 16 + l) :: decodeChars rest
    | _, _ => 0x25 :: decodeChars (a :: b :: rest)
  | c :: rest => String.utf8EncodeChar c ++ decodeChars rest
  | [] => []
termination_by cs => cs.length

/-- The octets that a text stands for. -/
def decode (s : String) : Octets :=
  decodeChars s.toList

end LogSteward.Percent
