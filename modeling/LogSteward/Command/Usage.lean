/-!
# Misuse

Why the words of a command line are not accepted, and what the user is told.
-/

namespace LogSteward

/-- Why the words of a command line are not accepted, or that help is asked for. -/
inductive UsageError where
  | help
  /-- A group was named and nothing else said. -/
  | nothingSaid
  | commandMissing
  | commandUnknown
  | optionUnknown
  /-- An option that has to be given is missing. -/
  | optionMissing
  /-- An option stands twice on one level. -/
  | optionRepeated
  /-- A switch was given a value. -/
  | valueUnexpected
  /-- A value is missing, empty, or not one of those allowed. -/
  | valueRefused
  /-- A value cannot be read. -/
  | valueInvalid
deriving DecidableEq

namespace UsageError

/-- The status with which the program ends: asking for help is no failure. -/
def exitStatus : UsageError → UInt8
  | help => 0
  | _ => 2

/-- The commands and options that there are. -/
def overview : String :=
  "usage: [options] <command>

commands:
  policies apply [--settings FILE]
  policies plan [--settings FILE]
  principals list
  principals provision --cluster NAME [--tenant NAME] [--password-env NAME]
  principals retract --cluster NAME [--tenant NAME]

options:
  --endpoint URL  --external  --secrets-dir DIR  --ca-override FILE
  --timeout SECONDS  --log-format json|pretty  --output table|json"

/-- What the user is told. -/
def message : UsageError → String
  | help | nothingSaid => overview
  | commandMissing => "error: a command is missing"
  | commandUnknown => "error: there is no such command"
  | optionUnknown => "error: there is no such option here"
  | optionMissing => "error: an option that is needed is missing"
  | optionRepeated => "error: an option is given twice"
  | valueUnexpected => "error: an option that takes no value has one"
  | valueRefused => "error: the value of an option is missing or not allowed"
  | valueInvalid => "error: the value of an option cannot be read"

end UsageError

end LogSteward
