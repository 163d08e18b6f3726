import LogSteward.Command.Line

/-!
# Invocations

What a command line asks for: a task, and the options that hold for all tasks.
-/

namespace LogSteward

/-- The cluster and the tenant whose principals are meant; no tenant is an empty one. -/
structure Target where
  cluster : String
  tenant : String := ""
deriving DecidableEq

inductive Task where
  /-- Bring the policies of the store in line with the settings in a file. -/
  | applyPolicies (settings : Option String)
  /-- Show the plan for the settings in a file. -/
  | planPolicies (settings : Option String)
  | listPrincipals
  /-- Write the known principals of a target; a variable holds their password. -/
  | provision (target : Target) (passwordVariable : String)
  /-- Delete the known principals of a target. -/
  | retract (target : Target)
deriving DecidableEq

/-- How the task is called. -/
def Task.label : Task → String
  | applyPolicies _ => "policies apply"
  | planPolicies _ => "policies plan"
  | listPrincipals => "principals list"
  | provision _ _ => "principals provision"
  | retract _ => "principals retract"

structure Invocation where
  task : Task
  endpoint : Option Url := none
  external : Bool := false
  secretsDir : String := "/var/run/secrets/loghold"
  authorityFile : Option String := none
  /-- How long a request may take, in seconds. -/
  timeout : UInt64 := 30
  logFormat : Option LogFormat := none
  output : OutputForm := .table
deriving DecidableEq

namespace Invocation

/-- The variable that holds the password of new principals unless another one is named. -/
def defaultPasswordVariable : String := "LOGHOLD_PRINCIPAL_PASSWORD"

/-- The target that is given. -/
def target (g : Given) : Except UsageError Target :=
  match g.value? .cluster with
  | some cluster => .ok { cluster, tenant := (g.value? .tenant).getD "" }
  | none => .error .optionMissing

/-- The task of a level. -/
def taskOf (l : Level) (g : Given) : Except UsageError Task :=
  match l with
  | .apply => .ok (.applyPolicies (g.value? .settings))
  | .plan => .ok (.planPolicies (g.value? .settings))
  | .list => .ok .listPrincipals
  | .provision => do
    return .provision (← target g) ((g.value? .passwordVariable).getD defaultPasswordVariable)
  | .retract => do
    return .retract (← target g)
  | .program | .policies | .principals => .error .commandMissing

/-- The invocation that the words of a command line spell in an environment. -/
def ofWords (environment : String → Option String) (words : List String) :
    Except UsageError Invocation := do
  let (level, g) ← Level.program.parse environment {} words
  let unset : Invocation := { task := ← taskOf level g }
  return { unset with
    endpoint := g.value? .endpoint
    external := (g.value? .external).getD unset.external
    secretsDir := (g.value? .secretsDir).getD unset.secretsDir
    authorityFile := g.value? .authorityFile
    timeout := (g.value? .timeout).getD unset.timeout
    logFormat := g.value? .logFormat
    output := (g.value? .output).getD unset.output }

end Invocation

end LogSteward
