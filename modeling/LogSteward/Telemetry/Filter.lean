import LogSteward.Telemetry.Pattern
import LogSteward.Text.Split

/-!
# Filters of events

A filter is a list of directives, separated by commas, that say up to which level events and spans
are recorded.  A directive may be limited to targets that begin in a given way, to a span of a given
name, and to spans that have given fields: `target[span{field}]=level`.  A directive that is only a
level holds everywhere; one that is only a target records everything there.

Of the directives that name neither a span nor a value, the most specific one decides.  One that is
about spans records every span that it is about, as soon as its level is recorded anywhere: the span
has to be known for what happens in it to be judged.
-/

namespace LogSteward

/-- How much is recorded; each level includes those before it. -/
inductive Verbosity where
  | off
  | error
  | warn
  | info
  | debug
  | trace
deriving DecidableEq

namespace Verbosity

def rank : Verbosity → Nat
  | off => 0
  | error => 1
  | warn => 2
  | info => 3
  | debug => 4
  | trace => 5

/-- The level with the given name or number. -/
def ofName? (s : String) : Option Verbosity :=
  let digits := (s.dropPrefix "+").toString
  if digits.length > 0 ∧ digits.all Char.isDigit then
    match digits.toNat? with
    | some 0 => some off
    | some 1 => some error
    | some 2 => some warn
    | some 3 => some info
    | some 4 => some debug
    | some 5 => some trace
    | _ => none
  else match lowerAscii s with
    | "off" => some off
    | "error" => some error
    | "warn" => some warn
    | "info" => some info
    | "debug" => some debug
    | "trace" => some trace
    | _ => none

end Verbosity

/-- A field that a span must have, perhaps with a given value. -/
structure FieldPattern where
  name : String
  value : Option String
deriving DecidableEq

structure Directive where
  level : Verbosity := .trace
  target : Option String := none
  span : Option String := none
  fields : List FieldPattern := []
deriving DecidableEq

/-- What is asked of a filter: whether it records a span. -/
structure SpanSite where
  target : String
  name : String
  fields : List String
  level : Verbosity
deriving DecidableEq

namespace Directive

/-- Where the reading of a directive stands, and where the piece being read begins. -/
inductive State where
  | start
  | levelOrTarget (at_ : Nat)
  | span (at_ : Nat)
  | field (at_ : Nat)
  | fields
  | target
  | level (at_ : Nat)

/-- A field: a name, and perhaps a value between an equals sign and the next one, which is a number
or a well-formed pattern. -/
def field? (cs : List Char) : Option FieldPattern :=
  let name := String.ofList (cs.takeWhile (· ≠ '='))
  match cs.dropWhile (· ≠ '=') with
  | [] => some ⟨name, none⟩
  | _ :: rest =>
    let value := rest.takeWhile (· ≠ '=')
    if Pattern.isNumeral value || Pattern.isWellFormed value then
      some ⟨name, some (String.ofList value)⟩
    else none

/-- Whether a directive may begin with a character. -/
def mayBegin (c : Char) : Bool :=
  c = '-' || c = ':' || c = '_' || isLetterOrNumber c

/-- Reads one character, the `i`-th of a directive that is spelled by `whole`. -/
def step (whole : List Char) (i : Nat) (c : Char) (d : Directive) :
    State → Option (Directive × State)
  | .start =>
    if c = '[' then some (d, .span (i + 1))
    else if mayBegin c then some (d, .levelOrTarget i)
    else none
  | .levelOrTarget b =>
    let d' := { d with target := some (String.ofList ((whole.drop b).take (i - b))) }
    if c = '=' then some (d', .level (i + 1))
    else if c = '[' then some (d', .span (i + 1))
    else some (d, .levelOrTarget b)
  | .target => if c = '=' then some (d, .level (i + 1)) else none
  | .span b =>
    let name := String.ofList ((whole.drop b).take (i - b))
    if c = ']' then some ({ d with span := some name }, .target)
    else if c = '{' then
      some ({ d with span := if name = "" then none else some name }, .field (i + 1))
    else some (d, .span b)
  | .field b =>
    if c = '}' then
      match (whole.drop b).take (i - b) with
      | [] => none
      | cs => (field? cs).map fun f => ({ d with fields := d.fields ++ [f] }, .fields)
    else some (d, .field b)
  | .fields => if c = ']' then some (d, .target) else none
  | .level b => some (d, .level b)

/-- Reads characters from the `i`-th on. -/
def steps (whole : List Char) (i : Nat) : List Char → Directive → State → Option (Directive × State)
  | [], d, st => some (d, st)
  | c :: cs, d, st =>
    match step whole i c d st with
    | some (d', st') => steps whole (i + 1) cs d' st'
    | none => none

/-- What a directive says when it ends. -/
def finish (whole : List Char) (d : Directive) : State → Option Directive
  | .levelOrTarget b =>
    let name := String.ofList (whole.drop b)
    match Verbosity.ofName? name with
    | some level => some { d with level, target := none }
    | none => some { d with level := .trace, target := some name }
  | .level b =>
    match whole.drop b with
    | [] => some { d with level := .trace }
    | cs => (Verbosity.ofName? (String.ofList cs)).map fun level => { d with level }
  | .target => some d
  | _ => none

/-- The directive that a text spells. -/
def ofText? (s : String) : Option Directive :=
  let whole := s.toList
  match steps whole 0 (trimBlanks s).toList {} .start with
  | some (d, st) => finish whole d st
  | none => none

/-- Whether the directive is limited to targets that begin as the given one does. -/
def fitsTarget (d : Directive) (target : String) : Bool :=
  match d.target with
  | some t => target.startsWith t
  | none => true

/-- Whether the directive is about spans of a name or with fields. -/
def isAboutSpans (d : Directive) : Bool :=
  d.span.isSome || !d.fields.isEmpty

/-- Whether the directive also holds outside the spans it is about. -/
def isGeneral (d : Directive) : Bool :=
  d.span.isNone && d.fields.all (·.value.isNone)

/-- Whether the directive is about a site. -/
def isAbout (d : Directive) (site : SpanSite) : Bool :=
  d.fitsTarget site.target && (d.span.isNone || d.span = some site.name)
    && d.fields.all fun f => site.fields.contains f.name

/-- Whether one list of names comes after another one or is the same. -/
def notBefore : List String → List String → Bool
  | _, [] => true
  | [], _ :: _ => false
  | s :: ss, t :: ts => if s = t then notBefore ss ts else decide (t < s)

/-- Whether one directive is at least as specific as another: it has a longer target, more fields,
or else fields that do not come before. -/
def atLeastAsSpecific (d e : Directive) : Bool :=
  let targetSize (d : Directive) := d.target.elim 0 (·.utf8ByteSize + 1)
  if targetSize d ≠ targetSize e then targetSize e < targetSize d
  else if d.fields.length ≠ e.fields.length then e.fields.length < d.fields.length
  else notBefore (d.fields.map (·.name)) (e.fields.map (·.name))

end Directive

/-- A list of directives. -/
abbrev EventFilter := List Directive

namespace EventFilter

/-- The filter of some directives; without any, errors are recorded. -/
def ofDirectives : List Directive → EventFilter
  | [] => [{ level := .error }]
  | ds => ds

/-- The pieces of a text between commas that are not empty. -/
def pieces (s : String) : List String :=
  ((splitAt ',' s.toList).map String.ofList).filter (· ≠ "")

/-- The directives that a text spells, unless one of them is ill-formed. -/
def ofText? (s : String) : Option EventFilter :=
  ((pieces s).mapM Directive.ofText?).map ofDirectives

/-- The well-formed directives that a text spells. -/
def ofTextLossy (s : String) : EventFilter :=
  ofDirectives ((pieces s).filterMap Directive.ofText?)

/-- Whether a level is recorded anywhere.  Where values of fields are asked for, it may be. -/
def reaches (f : EventFilter) (level : Verbosity) : Bool :=
  f.any fun d => level.rank ≤ d.level.rank || d.fields.any (·.value.isSome)

/-- The most specific of some directives; of equally specific ones, the last. -/
def mostSpecific? (ds : List Directive) : Option Directive :=
  ds.foldl
    (fun best d => match best with
      | some b => if d.atLeastAsSpecific b then some d else some b
      | none => some d)
    none

/-- The general directive that decides about a site. -/
def deciding? (f : EventFilter) (site : SpanSite) : Option Directive :=
  mostSpecific? (f.filter fun d => d.isGeneral && d.fitsTarget site.target)

/-- Whether a span is recorded: a directive is about it, whatever its level, or the one that decides
has its level; and its level is recorded somewhere. -/
def records (f : EventFilter) (site : SpanSite) : Bool :=
  f.reaches site.level
    && (f.any (fun d => d.isAboutSpans && d.isAbout site)
      || (f.deciding? site).any fun d => site.level.rank ≤ d.level.rank)

end EventFilter

end LogSteward
