import LogSteward.Text.Blank

/-!
# Log formats

The two forms in which log events can be written, and their names.  A name is read without regard
to blanks around it and to the case of its letters.
-/

namespace LogSteward

inductive LogFormat where
  | json
  | pretty
deriving DecidableEq

namespace LogFormat

def name : LogFormat → String
  | json => "json"
  | pretty => "pretty"

/-- The format with the given name. -/
def ofName? (s : String) : Option LogFormat :=
  match lowerAscii (trimBlanks s) with
  | "json" => some json
  | "pretty" => some pretty
  | _ => none

theorem ofName?_name (f : LogFormat) : ofName? f.name = some f := by
  cases f <;> decide +kernel

/-- What is said of a name that no format has. -/
def unknownMessage : String := "unknown log format"

end LogFormat

/-- How log events are written, and which. -/
structure LoggingConfig where
  /-- The events that are written, as filter directives. -/
  level : String := "info"
  format : LogFormat := .pretty
deriving DecidableEq

end LogSteward
