import LogSteward.Command.Level

/-!
# The words of a command line

A value follows its option as the next word or after an equals sign; a word that begins with a dash
is never a value by itself.

On one level an option may stand once.  What is said on a deeper level overrides what is said above
it, and the command line as a whole overrides the environment; the environment is consulted on every
level on which the command line is silent, and has to be well-formed even where it is overridden.

A level is closed after those below it, and the first defect decides.
-/

namespace LogSteward

/-- The form of a word. -/
inductive Word where
  /-- Two dashes and nothing else. -/
  | dashes
  /-- Two dashes and a name, perhaps with a value after an equals sign. -/
  | long (name : String) (value : Option String)
  /-- One dash and letters. -/
  | short (first : Char)
  | plain
deriving DecidableEq

def Word.of (w : String) : Word :=
  match w.toList with
  | ['-', '-'] => .dashes
  | '-' :: '-' :: rest =>
    match rest.dropWhile (· ≠ '=') with
    | [] => .long (String.ofList rest) none
    | _ :: value => .long (String.ofList (rest.takeWhile (· ≠ '='))) (some (String.ofList value))
  | '-' :: c :: _ => .short c
  | _ => .plain

/-- Where a value comes from. -/
inductive Origin where
  | environment
  | commandLine
deriving DecidableEq

/-- The options that have a value. -/
abbrev Given : Type := (f : Flag) → Option (Origin × f.Value)

namespace Given

def nothing : Given := fun _ => none

/-- One more option has a value. -/
def set (g : Given) (f : Flag) (o : Origin) (v : f.Value) : Given :=
  fun h => if e : h = f then some (o, e ▸ v) else g h

/-- Takes the value of an option, which must not have one yet. -/
def take (g : Given) (f : Flag) (o : Origin) (s : String) : Except UsageError Given :=
  if (g f).isSome then .error .optionRepeated
  else (f.read s).map fun v => g.set f o v

/-- Takes the values of the options that have none from the environment. -/
def consult (environment : String → Option String) (l : Level) (g : Given) :
    Except UsageError Given :=
  Flag.all.foldlM
    (fun g f =>
      match f.standIn?.bind environment with
      | some s => if l.admits f ∧ (g f).isNone then g.take f .environment s else .ok g
      | none => .ok g)
    g

/-- What counts if something is given on a level and on the one below it. -/
def override (outer inner : Given) : Given := fun f =>
  match outer f, inner f with
  | some (.commandLine, v), some (.environment, _) => some (.commandLine, v)
  | o, none => o
  | _, some v => some v

/-- The value of an option. -/
def value? (g : Given) (f : Flag) : Option f.Value :=
  (g f).map Prod.snd

end Given

/-- What has been read on a level. -/
structure Said where
  given : Given := Given.nothing
  /-- The option read last, and its value if that has been read. -/
  last : Option (Flag × Option String) := none

namespace Said

/-- Whether the next word may be a value. -/
def awaitsValue (s : Said) : Bool :=
  s.last.any (·.2.isNone)

/-- Takes the value of the option read last. -/
def settle (s : Said) : Except UsageError Given :=
  match s.last with
  | none => .ok s.given
  | some (_, none) => .error .valueRefused
  | some (f, some v) => s.given.take f .commandLine v

/-- Reads an option. -/
def option (s : Said) (l : Level) (name : String) (value : Option String) :
    Except UsageError Said :=
  if name = Level.helpWord then
    match value with
    | some _ => .error .valueUnexpected
    | none => s.settle.bind fun _ => .error .help
  else match l.flag? name with
    | none => .error .optionUnknown
    | some f =>
      match f.isSwitch, value with
      | true, some _ => .error .valueUnexpected
      | true, none => do
        let given ← (← s.settle).take f .commandLine "true"
        return { given }
      | false, some v => do
        let given ← (← s.settle).take f .commandLine v
        return { given }
      | false, none => do
        let given ← s.settle
        return { given, last := some (f, none) }

/-- What an option of one dash comes to. -/
def short (s : Said) (c : Char) : UsageError :=
  if c = 'h' then
    match s.settle with
    | .ok _ => .help
    | .error e => e
  else .optionUnknown

/-- Closes a level below which nothing was opened, or something was. -/
def close (environment : String → Option String) (l : Level) (opened : Bool) (s : Said) :
    Except UsageError Given := do
  let g ← (← s.settle).consult environment l
  if opened then return g
  if l.isGroup then
    if Flag.all.all fun f => (g f).isNone then throw .nothingSaid else throw .commandMissing
  if Flag.all.any fun f => l.requires f && (g f).isNone then throw .optionMissing
  return g

end Said

/-- Reads the words of a level and those below it: the task that was named, and what was given. -/
def Level.parse (environment : String → Option String) (l : Level) (said : Said) :
    List String → Except UsageError (Level × Given)
  | [] => do
    return (l, ← said.close environment l false)
  | w :: ws =>
    if l.isGroup ∧ w = helpWord ∧ ¬said.awaitsValue then .error (l.helpOn ws)
    else match if said.awaitsValue then none else l.below? w with
      | some l' => do
        let (task, inner) ← parse environment l' {} ws
        let outer ← said.close environment l true
        return (task, outer.override inner)
      | none =>
        match Word.of w with
        | .dashes =>
          match ws with
          | [] => do return (l, ← said.close environment l false)
          | w' :: _ => .error (l.strayAfterDashes w')
        | .long name value => do
          let said ← said.option l name value
          parse environment l said ws
        | .short c => .error (said.short c)
        | .plain =>
          match said.last with
          | some (f, none) => parse environment l { said with last := some (f, some w) } ws
          | _ => .error l.stray

end LogSteward
