import LogSteward.Text.Utf8

/-!
# JSON values

The values that are written as JSON, and their two written forms: compact, without any blanks, and
indented by two spaces.  Numbers are whole; a string is written with the short escapes where there
is one, `\u00xx` for the other control characters below U+0020, and every other character as it is.
-/

namespace LogSteward

inductive Json where
  | null
  | flag (b : Bool)
  | number (n : Int)
  | text (s : String)
  | list (xs : List Json)
  | object (members : List (String × Json))

namespace Json

/-- A lower-case hexadecimal digit. -/
def hexDigit (n : Nat) : Char :=
  Nat.digitChar (n % 16)

/-- A character inside a quoted string. -/
def escapeChar (c : Char) : List Char :=
  if c = '"' then ['\\', '"']
  else if c = '\\' then ['\\', '\\']
  else if c = '\n' then ['\\', 'n']
  else if c = '\r' then ['\\', 'r']
  else if c = '\t' then ['\\', 't']
  else if c = '\x08' then ['\\', 'b']
  else if c = '\x0c' then ['\\', 'f']
  else if c.toNat < 0x20 then ['\\', 'u', '0', '0', hexDigit (c.toNat / 16), hexDigit c.toNat]
  else [c]

/-- A string in quotes. -/
def quoted (s : String) : String :=
  "\"" ++ String.ofList (s.toList.flatMap escapeChar) ++ "\""

/-- An array of optional entries: absent ones are written as `null`. -/
def ofOption (write : α → Json) : Option α → Json
  | none => null
  | some a => write a

mutual

/-- The written form without blanks. -/
def compact : Json → String
  | null => "null"
  | flag b => if b then "true" else "false"
  | number n => toString n
  | text s => quoted s
  | list xs => "[" ++ compactList xs ++ "]"
  | object ms => "\x7b" ++ compactMembers ms ++ "\x7d"

/-- Array elements, separated by commas. -/
def compactList : List Json → String
  | [] => ""
  | [x] => compact x
  | x :: y :: rest => compact x ++ "," ++ compactList (y :: rest)

/-- Object members, separated by commas. -/
def compactMembers : List (String × Json) → String
  | [] => ""
  | [(k, x)] => quoted k ++ ":" ++ compact x
  | (k, x) :: m :: rest => quoted k ++ ":" ++ compact x ++ "," ++ compactMembers (m :: rest)

end

/-- A line break followed by the blanks of an indentation level. -/
def newline (depth : Nat) : String :=
  "\n" ++ String.ofList (List.replicate (2 * depth) ' ')

mutual

/-- The written form with one element or member a line; empty arrays and objects stay closed. -/
def indented (depth : Nat) : Json → String
  | null => "null"
  | flag b => if b then "true" else "false"
  | number n => toString n
  | text s => quoted s
  | list [] => "[]"
  | list (x :: xs) => "[" ++ indentedList (depth + 1) (x :: xs) ++ newline depth ++ "]"
  | object [] => "\x7b\x7d"
  | object (m :: ms) => "\x7b" ++ indentedMembers (depth + 1) (m :: ms) ++ newline depth ++ "\x7d"

/-- Array elements, each on a line of its own. -/
def indentedList (depth : Nat) : List Json → String
  | [] => ""
  | [x] => newline depth ++ indented depth x
  | x :: y :: rest => newline depth ++ indented depth x ++ "," ++ indentedList depth (y :: rest)

/-- Object members, each on a line of its own. -/
def indentedMembers (depth : Nat) : List (String × Json) → String
  | [] => ""
  | [(k, x)] => newline depth ++ quoted k ++ ": " ++ indented depth x
  | (k, x) :: m :: rest =>
    newline depth ++ quoted k ++ ": " ++ indented depth x ++ ","
      ++ indentedMembers depth (m :: rest)

end

end Json

end LogSteward
