import LogSteward.Text.Blank
import LogSteward.Text.Hex
import LogSteward.Text.Letter

/-!
# Patterns of values

A directive may ask for a value of a field by a regular expression.  Whether a value fits it is
known only when the value is; whether it is well-formed decides at once whether there is a directive
at all, and that is what is told here.

A pattern stands between braces, so it has no closing brace, and whatever would need one is
ill-formed.  It is about characters, or, where that is turned off, about octets; then nothing in it
may fit an octet outside of ASCII.  Of the classes of characters only those within ASCII are known.
-/

namespace LogSteward.Pattern

/-- How a part of a pattern is read. -/
structure Mode where
  /-- Capital and small letters fit each other. -/
  foldsCase : Bool := false
  /-- The pattern is about octets. -/
  ofOctets : Bool := false
  /-- Blanks, and comments up to the end of a line, are passed over. -/
  isSpaced : Bool := false
deriving DecidableEq

/-- The text after blanks and comments. -/
def skipSpace (inComment : Bool) : List Char → List Char
  | [] => []
  | c :: cs =>
    if inComment then skipSpace (c ≠ '\n') cs
    else if isBlank c then skipSpace false cs
    else if c = '#' then skipSpace true cs
    else c :: cs

/-- The text from the first character on that counts. -/
def Mode.skip (m : Mode) (cs : List Char) : List Char :=
  if m.isSpaced then skipSpace false cs else cs

/-- What one character, or one that is escaped, stands for. -/
inductive Piece where
  /-- A character, perhaps given as an octet. -/
  | literal (c : Char) (isOctet : Bool)
  /-- The digits, the blanks or the characters of words, or all others. -/
  | kind (isNegated : Bool)
  /-- A place in the text, perhaps one where a word begins or ends. -/
  | place (ofWord : Bool)

namespace Piece

/-- Whether a piece may stand in a pattern by itself. -/
def isAllowed (m : Mode) : Piece → Bool
  | literal c isOctet =>
    if m.ofOctets then !isOctet || c.toNat < 0x80 else !m.foldsCase
  | kind isNegated => m.ofOctets && !isNegated
  | place ofWord => !ofWord || m.ofOctets

/-- Whether a piece may be a member of a set. -/
def isMember (m : Mode) : Piece → Bool
  | literal c _ => !m.ofOctets || c.toNat < 0x80
  | kind isNegated => m.ofOctets && !isNegated
  | place _ => false

end Piece

/-! ### Escaped characters -/

/-- A number of so many hexadecimal digits. -/
def hex? (m : Mode) : Nat → Nat → List Char → Option (Nat × List Char)
  | 0, n, cs => some (n, cs)
  | _ + 1, _, [] => none
  | k + 1, n, c :: cs =>
    match hexValue? c with
    | some v => hex? m k (n * 16 + v) (m.skip cs)
    | none => none

/-- A character that is given by its number. -/
def numbered? (m : Mode) (digits : Nat) (cs : List Char) : Option (Piece × List Char) :=
  match hex? m digits 0 (m.skip cs) with
  | some (n, rest) =>
    if n.isValidChar then some (.literal (Char.ofNat n) (digits = 2), rest) else none
  | none => none

/-- What stands after a backslash. -/
def escaped? (m : Mode) : List Char → Option (Piece × List Char)
  | [] => none
  | c :: cs =>
    if c = 'x' then numbered? m 2 cs
    else if c = 'u' then numbered? m 4 cs
    else if c = 'U' then numbered? m 8 cs
    else if ['d', 's', 'w'].contains c then some (.kind false, cs)
    else if ['D', 'S', 'W'].contains c then some (.kind true, cs)
    else if ['b', 'B', '<', '>'].contains c then some (.place true, cs)
    else if ['A', 'z'].contains c then some (.place false, cs)
    else if ['a', 'f', 'n', 'r', 't', 'v'].contains c then some (.literal c false, cs)
    else if c.toNat < 0x80 && !c.isAlphanum then some (.literal c false, cs)
    else none

/-! ### Sets -/

/-- What is left after the opening of a set.  Hyphens that it begins with, or else a bracket, are
members. -/
def openSet (m : Mode) (cs : List Char) : Option (List Char) :=
  let afterSign := match m.skip cs with
    | '^' :: rest => if m.ofOctets then [] else m.skip rest
    | rest => rest
  let rec dashes : Nat → List Char → List Char
    | fuel + 1, '-' :: rest => dashes fuel (m.skip rest)
    | _, rest => rest
  let rest := match afterSign with
    | ']' :: rest => m.skip rest
    | rest => dashes rest.length rest
  if rest.isEmpty then none else some rest

/-- The names of the known classes. -/
def classNames : List String :=
  [ "alnum", "alpha", "ascii", "blank", "cntrl", "digit", "graph", "lower", "print", "punct"
  , "space", "upper", "word", "xdigit" ]

/-- Whether a class by name that begins after a bracket is the class's complement, and what follows
it. -/
def namedClass? : List Char → Option (Bool × List Char)
  | ':' :: cs =>
    let (isNegated, body) := match cs with
      | '^' :: rest => (true, rest)
      | _ => (false, cs)
    match body.dropWhile (· ≠ ':') with
    | ':' :: ']' :: rest =>
      if classNames.contains (String.ofList (body.takeWhile (· ≠ ':'))) then
        some (isNegated, rest)
      else none
    | _ => none
  | _ => none

/-- A piece in a set. -/
def setPiece? (m : Mode) : List Char → Option (Piece × List Char)
  | [] => none
  | '\\' :: cs => escaped? m cs
  | c :: cs => some (.literal c false, cs)

/-- What is left after a member of a set: a piece, or a range from one character to another. -/
def member? (m : Mode) (cs : List Char) : Option (List Char) :=
  match setPiece? m cs with
  | none => none
  | some (first, rest) =>
    let alone := if first.isMember m then some (m.skip rest) else none
    match m.skip rest with
    | '-' :: rest' =>
      match m.skip rest' with
      | [] => none
      | ']' :: _ | '-' :: _ => alone
      | rest'' =>
        match first, setPiece? m rest'' with
        | .literal c _, some (.literal d o, rest) =>
          if c ≤ d && first.isMember m && (Piece.literal d o).isMember m then some rest else none
        | _, _ => none
    | _ => alone

/-- What is left after a set, whose members are being read; `depth` sets are open around it.  At
most `fuel` members and brackets are read. -/
def closeSet (m : Mode) : (fuel depth : Nat) → List Char → Option (List Char)
  | 0, _, _ => none
  | fuel + 1, depth, cs =>
    match m.skip cs with
    | [] => none
    | '[' :: rest =>
      match namedClass? rest with
      | some (isNegated, rest) =>
        if isNegated && m.ofOctets then none else closeSet m fuel depth rest
      | none => (openSet m rest).bind (closeSet m fuel (depth + 1))
    | ']' :: rest => if depth = 0 then some rest else closeSet m fuel (depth - 1) rest
    | '&' :: '&' :: rest | '-' :: '-' :: rest | '~' :: '~' :: rest => closeSet m fuel depth rest
    | rest => (member? m rest).bind (closeSet m fuel depth)

/-- What is left after a set that begins after a bracket. -/
def set? (m : Mode) (cs : List Char) : Option (List Char) :=
  if m.foldsCase && !m.ofOctets then none
  else (openSet m cs).bind (closeSet m (cs.length + 1) 0)

/-! ### Patterns -/

/-- How deep groups and repetitions may stand in each other. -/
def depthLimit : Nat := 250

/-- What has been read at one level of a pattern. -/
structure Level where
  mode : Mode := {}
  /-- The depths of the pieces of the present alternative, the last one first.  One that only sets
  the mode has no depth. -/
  pieces : List (Option Nat) := []
  /-- The depths of the alternatives before it. -/
  alternatives : List Nat := []

namespace Level

/-- The depth of the present alternative. -/
def sequenceDepth (l : Level) : Nat :=
  match l.pieces with
  | [] => 0
  | [d] => d.getD 0
  | ds => (ds.map (·.getD 0)).foldl max 0 + 1

/-- The depth of all that has been read at a level. -/
def depth (l : Level) : Nat :=
  match l.alternatives with
  | [] => l.sequenceDepth
  | ds => ds.foldl max l.sequenceDepth + 1

def push (l : Level) (depth : Option Nat) : Level :=
  { l with pieces := depth :: l.pieces }

end Level

/-- What has been read of a pattern. -/
structure State where
  level : Level := {}
  /-- The levels around the present one, the innermost first. -/
  outer : List Level := []
  /-- The names given to groups. -/
  names : List (List Char) := []

namespace State

def push (st : State) (depth : Option Nat) : State :=
  { st with level := st.level.push depth }

/-- Opens a group. -/
def descend (st : State) (m : Mode) : State :=
  { st with level := { mode := m }, outer := st.level :: st.outer }

end State

/-- Turns a flag on or off; some flags have no part in whether a pattern is well-formed. -/
def Mode.turn (m : Mode) (flag : Char) (on : Bool) : Option Mode :=
  match flag with
  | 'i' => some { m with foldsCase := on }
  | 'u' => some { m with ofOctets := !on }
  | 'x' => some { m with isSpaced := on }
  | 'm' | 's' | 'U' | 'R' => some m
  | _ => none

/-- Reads flags up to a colon or a closing bracket: the mode, the flags, and the text from there on.
A sign turns off the flags after it, of which there have to be some. -/
def flags? (m : Mode) (seen : List Char) : List Char → Option (Mode × List Char × List Char)
  | [] => none
  | c :: cs =>
    if c = ':' ∨ c = ')' then if seen.head? = some '-' then none else some (m, seen, c :: cs)
    else if seen.contains c then none
    else if c = '-' then flags? m ('-' :: seen) cs
    else match m.turn c (!seen.contains '-') with
      | some m' => flags? m' (c :: seen) cs
      | none => none

/-- Whether a group may have a name. -/
def isGroupName : List Char → Bool
  | [] => false
  | c :: cs =>
    (c = '_' || isLetter c)
      && cs.all fun c => ['_', '.', '[', ']'].contains c || isLetterOrNumber c

/-- Opens a group that is given a name. -/
def openNamed (st : State) (cs : List Char) : Option (State × List Char) :=
  let name := cs.takeWhile (· ≠ '>')
  match cs.dropWhile (· ≠ '>') with
  | [] => none
  | _ :: rest =>
    if isGroupName name && !st.names.contains name then
      some ({ st with names := name :: st.names }.descend st.level.mode, rest)
    else none

/-- Opens a group, or sets the mode for the rest of one. -/
def openGroup (st : State) (cs : List Char) : Option (State × List Char) :=
  match st.level.mode.skip cs with
  | '?' :: '=' :: _ | '?' :: '!' :: _ | '?' :: '<' :: '=' :: _ | '?' :: '<' :: '!' :: _ => none
  | '?' :: 'P' :: '<' :: rest | '?' :: '<' :: rest => openNamed st rest
  | '?' :: rest =>
    match flags? st.level.mode [] rest with
    | some (m, seen, ')' :: rest) =>
      if seen.isEmpty then none
      else some ({ st with level := { st.level with mode := m } }.push none, rest)
    | some (m, _, rest) => some (st.descend m, rest.drop 1)
    | none => none
  | rest => some (st.descend st.level.mode, rest)

/-- Closes a group. -/
def closeGroup (st : State) : Option State :=
  match st.outer with
  | [] => none
  | l :: outer => some { st with level := l.push (some (st.level.depth + 1)), outer }

/-- Reads what one character begins. -/
def step (st : State) (c : Char) (cs : List Char) : Option (State × List Char) :=
  let m := st.level.mode
  let single (piece : Piece) (rest : List Char) :=
    if piece.isAllowed m then some (st.push (some 0), rest) else none
  match c with
  | '(' => openGroup st cs
  | ')' => (closeGroup st).map (·, cs)
  | '|' =>
    let l := st.level
    let alternatives := l.sequenceDepth :: l.alternatives
    some ({ st with level := { l with pieces := [], alternatives } }, cs)
  | '[' => (set? m cs).map (st.push (some 1), ·)
  | '?' | '*' | '+' =>
    match st.level.pieces with
    | some d :: pieces =>
      let rest := match cs with
        | '?' :: rest => rest
        | _ => cs
      some ({ st with level := { st.level with pieces := some (d + 1) :: pieces } }, rest)
    | _ => none
  | '{' => none
  | '\\' => (escaped? m cs).bind fun (piece, rest) => single piece rest
  | '.' => if m.ofOctets then none else some (st.push (some 0), cs)
  | '^' | '$' => single (.place false) cs
  | _ => single (.literal c false) cs

/-- Reads a pattern to its end, in at most `fuel` steps. -/
def reads : (fuel : Nat) → State → List Char → Bool
  | 0, _, _ => false
  | fuel + 1, st, cs =>
    match st.level.mode.skip cs with
    | [] => st.outer.isEmpty && st.level.depth ≤ depthLimit
    | c :: rest =>
      match step st c rest with
      | some (st', rest') => reads fuel st' rest'
      | none => false

/-- Whether a text is a pattern.  Each step takes a character at least. -/
def isWellFormed (cs : List Char) : Bool :=
  reads (cs.length + 1) {} cs

/-! ### Numbers -/

/-- A text without a sign at its beginning. -/
def unsigned : List Char → List Char
  | '+' :: cs | '-' :: cs => cs
  | cs => cs

/-- Whether what stands after the digits of a number is nothing or an exponent. -/
def isExponent : List Char → Bool
  | [] => true
  | c :: cs => (c = 'e' || c = 'E') && unsigned cs ≠ [] && (unsigned cs).all Char.isDigit

/-- Whether a text is a number, or the name of a number that has no digits. -/
def isNumeral (cs : List Char) : Bool :=
  let body := unsigned cs
  let whole := body.takeWhile Char.isDigit
  let (part, rest) := match body.dropWhile Char.isDigit with
    | '.' :: rest => (rest.takeWhile Char.isDigit, rest.dropWhile Char.isDigit)
    | rest => ([], rest)
  ["inf", "infinity", "nan"].contains (String.ofList (body.map Char.toLower))
    || ((whole ≠ [] || part ≠ []) && isExponent rest)

end LogSteward.Pattern
