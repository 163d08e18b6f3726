import LogSteward.Text.Mark
import LogSteward.Text.Unassigned

/-!
# Diagnostic text

How values are shown to a person who looks for a fault: strings in quotes with everything that
cannot be seen escaped, lists in brackets, records with their names and fields.  A secret is never
shown; `redacted` stands in its place.
-/

namespace LogSteward.Diagnostic

/-- Characters that are not seen: controls, blanks other than the space, characters of format, and
letters without a shape. -/
def unseen : CodePoints :=
  [ (0x00, 0x1F), (0x7F, 0xA0), (0xAD, 0xAD), (0x600, 0x605), (0x61C, 0x61C), (0x6DD, 0x6DD)
  , (0x70F, 0x70F), (0x890, 0x891), (0x8E2, 0x8E2), (0x115F, 0x1160), (0x1680, 0x1680)
  , (0x180E, 0x180E), (0x2000, 0x200F), (0x2028, 0x202F), (0x205F, 0x2064), (0x2066, 0x206F)
  , (0x3000, 0x3000), (0x3164, 0x3164), (0xFEFF, 0xFEFF), (0xFFA0, 0xFFA0), (0xFFF9, 0xFFFB)
  , (0x110BD, 0x110BD), (0x110CD, 0x110CD), (0x13430, 0x1343F), (0x1BCA0, 0x1BCA3)
  , (0x1D173, 0x1D17A), (0xE0001, 0xE0001), (0xE0020, 0xE007F) ]

/-- Whether a character is seen by itself. -/
def isSeen (c : Char) : Bool :=
  !unseen.contains c.toNat && isAssigned c && !isExtending c

/-- A character inside quotes. -/
def escapeChar (c : Char) : List Char :=
  if c = '"' then ['\\', '"']
  else if c = '\\' then ['\\', '\\']
  else if c = '\n' then ['\\', 'n']
  else if c = '\r' then ['\\', 'r']
  else if c = '\t' then ['\\', 't']
  else if c = '\x00' then ['\\', '0']
  else if isSeen c then [c]
  else ['\\', 'u', '{'] ++ Nat.toDigits 16 c.toNat ++ ['}']

/-- A string in quotes. -/
def quoted (s : String) : String :=
  "\"" ++ String.ofList (s.toList.flatMap escapeChar) ++ "\""

/-- What stands in the place of a secret. -/
def redacted : String := quoted "<redacted>"

def list (xs : List String) : String :=
  "[" ++ ", ".intercalate xs ++ "]"

def strings (xs : List String) : String :=
  list (xs.map quoted)

def option : Option String → String
  | none => "None"
  | some s => "Some(" ++ s ++ ")"

/-- A record with its name and its fields. -/
def record (name : String) (fields : List (String × String)) : String :=
  name ++ " \x7b " ++ ", ".intercalate (fields.map fun (k, v) => k ++ ": " ++ v) ++ " \x7d"

end LogSteward.Diagnostic
