import LogSteward.Json.Numeral

/-!
# Skipping values

The value of a member nobody asked for is passed over.  It has to be well-formed, but it may be
nested to any depth, its numbers may be of any magnitude and its strings may hold ill-formed octets
and halves of surrogate pairs.  `skipFrom` is a pushdown automaton: it takes one octet at a time and
keeps the brackets that are open.
-/

namespace LogSteward.Json

/-- An open bracket. -/
inductive Bracket where
  | list
  | object
deriving DecidableEq

/-- Where the passing over of a number stands: what has to come or may come next. -/
inductive Figure where
  /-- After the sign: a digit has to come. -/
  | sign
  /-- After a leading zero: no further digit may come. -/
  | zero
  /-- Among the digits before the point. -/
  | whole
  /-- After the point: a digit has to come. -/
  | point
  /-- Among the digits after the point. -/
  | fraction
  /-- After the exponent's letter: a sign or a digit has to come. -/
  | letter
  /-- After the exponent's sign: a digit has to come. -/
  | letterSign
  /-- Among the digits of the exponent. -/
  | exponent
deriving DecidableEq

namespace Figure

/-- Whether a number may end here. -/
def mayEnd : Figure → Bool
  | zero | whole | fraction | exponent => true
  | sign | point | letter | letterSign => false

/-- The octet that goes on with a number, if it does. -/
def step? : Figure → UInt8 → Option Figure
  | sign, b => if b = Octet.zero then some zero else if Octet.isDigit b then some whole else none
  | zero, b =>
    if b = Octet.point then some point else if Octet.isExponent b then some letter else none
  | whole, b =>
    if Octet.isDigit b then some whole
    else if b = Octet.point then some point
    else if Octet.isExponent b then some letter
    else none
  | point, b => if Octet.isDigit b then some fraction else none
  | fraction, b =>
    if Octet.isDigit b then some fraction else if Octet.isExponent b then some letter else none
  | letter, b =>
    if Octet.isSign b then some letterSign else if Octet.isDigit b then some exponent else none
  | letterSign, b => if Octet.isDigit b then some exponent else none
  | exponent, b => if Octet.isDigit b then some exponent else none

end Figure

/-- Where the passing over of a string stands. -/
inductive Thread where
  | plain
  | escape
  | digits (read : List UInt8)
deriving DecidableEq

/-- One octet of a string, its closing quote apart. -/
def Thread.step : Thread → UInt8 → Except Fault Thread
  | .plain, b =>
    if b = Octet.backslash then .ok .escape
    else if Octet.isControl b then .error .malformed
    else .ok .plain
  | .escape, b =>
    if b = Octet.letterU then .ok (.digits [])
    else if (Octet.shortEscape? b).isSome then .ok .plain
    else .error .malformed
  | .digits read, b =>
    let ds := read ++ [b]
    if ds.length < 4 then .ok (.digits ds)
    else if (hexNumber? ds).isSome then .ok .plain
    else .error .malformed

/-- What is expected next while a value is passed over. -/
inductive Skip where
  /-- A value. -/
  | value
  /-- The first element of a list, or its end. -/
  | element
  /-- The first key of an object, or its end. -/
  | member
  /-- A further key. -/
  | key
  /-- The colon after a key. -/
  | colon
  /-- What follows a value inside a list or an object. -/
  | after
  /-- The rest of a fixed word. -/
  | word (rest : Octets)
  /-- The rest of a string, which may be a key. -/
  | thread (t : Thread) (isKey : Bool)
  /-- The rest of a number. -/
  | figure (f : Figure)
deriving DecidableEq

namespace Skip

/-- The first octet of a value. -/
def begin (nest : List Bracket) (b : UInt8) : Except Fault (Skip × List Bracket) :=
  if b = Octet.letterN then .ok (word [0x75, 0x6C, 0x6C], nest)
  else if b = Octet.letterT then .ok (word [0x72, 0x75, 0x65], nest)
  else if b = Octet.letterF then .ok (word [0x61, 0x6C, 0x73, 0x65], nest)
  else if b = Octet.quote then .ok (thread .plain false, nest)
  else if b = Octet.minus then .ok (figure .sign, nest)
  else if b = Octet.zero then .ok (figure .zero, nest)
  else if Octet.isDigit b then .ok (figure .whole, nest)
  else if b = Octet.openBracket then .ok (element, .list :: nest)
  else if b = Octet.openBrace then .ok (member, .object :: nest)
  else .error .malformed

/-- An octet that follows a value inside a bracket: a comma, or the end of the bracket. -/
def afterValue (nest : List Bracket) (b : UInt8) : Except Fault (Skip × List Bracket) :=
  match nest with
  | .list :: outer =>
    if b = Octet.comma then .ok (value, .list :: outer)
    else if b = Octet.closeBracket then .ok (after, outer)
    else .error .malformed
  | .object :: outer =>
    if b = Octet.comma then .ok (key, .object :: outer)
    else if b = Octet.closeBrace then .ok (after, outer)
    else .error .malformed
  | [] => .error .malformed

/-- One octet. -/
def step (st : Skip) (nest : List Bracket) (b : UInt8) : Except Fault (Skip × List Bracket) :=
  match st with
  | value => if Octet.isBlank b then .ok (value, nest) else begin nest b
  | element =>
    if Octet.isBlank b then .ok (element, nest)
    else if b = Octet.closeBracket then .ok (after, nest.tail)
    else begin nest b
  | member =>
    if Octet.isBlank b then .ok (member, nest)
    else if b = Octet.closeBrace then .ok (after, nest.tail)
    else if b = Octet.quote then .ok (thread .plain true, nest)
    else .error .malformed
  | key =>
    if Octet.isBlank b then .ok (key, nest)
    else if b = Octet.quote then .ok (thread .plain true, nest)
    else .error .malformed
  | colon =>
    if Octet.isBlank b then .ok (colon, nest)
    else if b = Octet.colon then .ok (value, nest)
    else .error .malformed
  | after => if Octet.isBlank b then .ok (after, nest) else afterValue nest b
  | word [] => .error .malformed
  | word (w :: ws) =>
    if b = w then .ok (if ws = [] then after else word ws, nest) else .error .malformed
  | thread t isKey =>
    if t = .plain ∧ b = Octet.quote then .ok (if isKey then colon else after, nest)
    else match t.step b with
      | .ok t' => .ok (thread t' isKey, nest)
      | .error f => .error f
  | figure f =>
    match f.step? b with
    | some f' => .ok (figure f', nest)
    | none =>
      if f.mayEnd then
        if Octet.isBlank b then .ok (after, nest) else afterValue nest b
      else .error .malformed

/-- Whether the value is over before the next octet: all brackets are closed, and a number does
not go on with it. -/
def isOver (st : Skip) (nest : List Bracket) (next : Option UInt8) : Bool :=
  nest.isEmpty &&
    match st with
    | after => true
    | figure f => f.mayEnd && (next.bind f.step?).isNone
    | _ => false

/-- The fault of a text that ends here: only a number that breaks off is malformed at once. -/
def endFault : Skip → Fault
  | figure f => if f.mayEnd then .truncated else .malformed
  | _ => .truncated

end Skip

/-- Passes over the rest of a value, and yields what follows it. -/
def skipFrom (st : Skip) (nest : List Bracket) : Octets → Except Fault Octets
  | [] => if st.isOver nest none then .ok [] else .error st.endFault
  | b :: s =>
    if st.isOver nest (some b) then .ok (b :: s)
    else match st.step nest b with
      | .ok (st', nest') => skipFrom st' nest' s
      | .error f => .error f

/-- Passes over a value. -/
def skipValue (s : Octets) : Except Fault Octets :=
  skipFrom .value [] s

end LogSteward.Json
