import LogSteward.Command.Flag

/-!
# Levels of commands

The program, the two groups of tasks, and the tasks.  A word opens a level below another one; a
group is there for the levels below it.  Some options may stand on any level, the others on those of
the tasks that they are for.
-/

namespace LogSteward

/-- The levels of commands. -/
inductive Level where
  | program
  | policies
  | principals
  | apply
  | plan
  | list
  | provision
  | retract
deriving DecidableEq

namespace Level

/-- The level that a word opens. -/
def below? : Level → String → Option Level
  | program, "policies" => some policies
  | program, "principals" => some principals
  | policies, "apply" => some apply
  | policies, "plan" => some plan
  | principals, "list" => some list
  | principals, "provision" => some provision
  | principals, "retract" => some retract
  | _, _ => none

/-- Whether the level is there for the levels below it. -/
def isGroup : Level → Bool
  | program | policies | principals => true
  | _ => false

/-- Whether an option may stand on a level. -/
def admits : Level → Flag → Bool
  | apply, .settings | plan, .settings => true
  | provision, .cluster | provision, .tenant | provision, .passwordVariable => true
  | retract, .cluster | retract, .tenant => true
  | _, .settings | _, .cluster | _, .tenant | _, .passwordVariable => false
  | _, _ => true

/-- Whether an option has to be given. -/
def requires : Level → Flag → Bool
  | provision, .cluster | retract, .cluster => true
  | _, _ => false

/-- The option of a level that a word names. -/
def flag? (l : Level) (name : String) : Option Flag :=
  Flag.all.find? fun f => f.name == name && l.admits f

/-- The word for help on the levels below. -/
def helpWord : String := "help"

/-- What asking for help on further words comes to. -/
def helpOn : Level → List String → UsageError
  | _, [] => .help
  | l, w :: ws =>
    match l.below? w with
    | some l' => helpOn l' ws
    | none => if l.isGroup ∧ w = helpWord ∧ ws = [] then .help else .commandUnknown

/-- What a word that is neither an option nor a value comes to. -/
def stray (l : Level) : UsageError :=
  if l.isGroup then .commandUnknown else .optionUnknown

/-- What a word after two lone dashes comes to. -/
def strayAfterDashes (l : Level) (w : String) : UsageError :=
  if (l.below? w).isSome then .optionUnknown
  else if l.isGroup ∧ w = helpWord then .optionUnknown
  else l.stray

end Level

end LogSteward
