import LogSteward.Command.Usage
import LogSteward.Telemetry.Format
import LogSteward.Url.Parse

/-!
# Options

The options of the program and its tasks: how each is spelled, which environment variable stands in
for it, and how its value is read.
-/

namespace LogSteward

/-- The forms of what commands print. -/
inductive OutputForm where
  | table
  | json
deriving DecidableEq

namespace OutputForm

def name : OutputForm → String
  | table => "table"
  | json => "json"

def ofName? : String → Option OutputForm
  | "table" => some table
  | "json" => some json
  | _ => none

end OutputForm

/-- The options of the program and its tasks. -/
inductive Flag where
  | endpoint
  | external
  | secretsDir
  | authorityFile
  | timeout
  | logFormat
  | output
  | settings
  | cluster
  | tenant
  | passwordVariable
deriving DecidableEq

namespace Flag

def all : List Flag :=
  [ endpoint, external, secretsDir, authorityFile, timeout, logFormat, output
  , settings, cluster, tenant, passwordVariable ]

/-- How an option is spelled after its two dashes. -/
def name : Flag → String
  | endpoint => "endpoint"
  | external => "external"
  | secretsDir => "secrets-dir"
  | authorityFile => "ca-override"
  | timeout => "timeout"
  | logFormat => "log-format"
  | output => "output"
  | settings => "settings"
  | cluster => "cluster"
  | tenant => "tenant"
  | passwordVariable => "password-env"

/-- The environment variable that stands in for an option. -/
def standIn? : Flag → Option String
  | endpoint => some "LOGHOLD_ENDPOINT"
  | external => some "LOGHOLD_EXTERNAL"
  | secretsDir => some "LOGHOLD_SECRETS_DIR"
  | authorityFile => some "LOGHOLD_CA_OVERRIDE"
  | timeout => some "LOGHOLD_TIMEOUT_SECS"
  | logFormat => some "LOGHOLD_LOG_FORMAT"
  | _ => none

/-- Whether the option is a switch, which takes no value on the command line. -/
def isSwitch : Flag → Bool
  | external => true
  | _ => false

abbrev Value : Flag → Type
  | endpoint => Url
  | external => Bool
  | timeout => UInt64
  | logFormat => LogFormat
  | output => OutputForm
  | secretsDir | authorityFile | settings | cluster | tenant | passwordVariable => String

/-- A path, which is not empty. -/
def readPath (s : String) : Except UsageError String :=
  if s = "" then .error .valueRefused else .ok s

/-- A word without a plus sign before it. -/
def unsigned (s : String) : List Char :=
  match s.toList with
  | '+' :: ds => ds
  | ds => ds

/-- A number of seconds, at least one; a plus sign and zeros may come before it. -/
def readSeconds (s : String) : Except UsageError UInt64 :=
  let digits := unsigned s
  let n : Nat := digits.foldl (fun n d => n * 10 + (d.toNat - '0'.toNat)) 0
  if digits ≠ [] ∧ digits.all Char.isDigit ∧ 1 ≤ n ∧ n < 0x10000000000000000 then .ok n.toUInt64
  else .error .valueInvalid

/-- Reads the value of an option. -/
def read : (f : Flag) → String → Except UsageError f.Value
  | endpoint, s => (Url.ofText s).mapError fun _ => .valueInvalid
  | external, s =>
    if s = "true" then .ok true else if s = "false" then .ok false else .error .valueRefused
  | timeout, s => readSeconds s
  | logFormat, s =>
    match LogFormat.ofName? s with
    | some f => .ok f
    | none => .error .valueInvalid
  | output, s =>
    match OutputForm.ofName? s with
    | some f => .ok f
    | none => .error .valueRefused
  | secretsDir, s | authorityFile, s | settings, s => readPath s
  | cluster, s | tenant, s | passwordVariable, s => .ok s

end Flag

end LogSteward
