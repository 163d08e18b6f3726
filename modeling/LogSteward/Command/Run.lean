import LogSteward.Command.Error
import LogSteward.Command.Invocation
import LogSteward.Command.Report
import LogSteward.Connection.Mount
import LogSteward.Rest.Client
import LogSteward.Retention.Format
import LogSteward.Telemetry.Output

/-!
# Running a task

A task first reads its own input, then connects to the store if it needs one, and then does its
work there.  The first failure ends it; what has been printed by then stays printed.  All of this is
one pass: what is printed and what is logged on the way are its notes, and how it ended is logged
last.

`Invocation.pass` is a computation over HTTP, so what a task sends, and in which order, can be
spoken about for every way in which a store may reply.  `Invocation.Pass.stdout` is what then stands
on standard output; `Invocation.run` leaves the log aside.
-/

namespace LogSteward

open Rest

/-- What a task finds where it runs. -/
structure Surroundings where
  /-- The value of an environment variable that is set. -/
  lookUp : String → Option String
  readFile : String → Except FileError Octets
  /-- The secrets below a directory. -/
  secretsIn : String → SecretSource
  /-- The library that encrypts connections. -/
  library : TlsLibrary
  /-- The name that the pass is given. -/
  passId : String

namespace Surroundings

/-- A file tree as seen from a working directory in it. -/
def ofFiles (lookUp : String → Option String) (t : FileTree) (directory : String)
    (library : TlsLibrary) (passId : String) : Surroundings :=
  { lookUp
    readFile := t.read directory
    secretsIn := Mount.source t directory
    library
    passId }

/-- The settings in a file; without a file, those where nothing is set. -/
def settings (w : Surroundings) : Option String → Except CommandError StorageSettings
  | none => .ok {}
  | some path =>
    match w.readFile path with
    | .error e => .error (.settingsUnreadable path e)
    | .ok content =>
      match Utf8.decode? content with
      | none => .error (.settingsUnreadable path .notText)
      | some text => (StorageSettings.decode text).mapError (.settingsInvalid path)

/-- The password in a variable. -/
def password (w : Surroundings) (name : String) : Except CommandError String :=
  match w.lookUp name with
  | none => .error (.passwordUnset name)
  | some p => if p = "" then .error (.passwordEmpty name) else .ok p

/-- The authorities in a file, if one is named. -/
def authority (w : Surroundings) : Option String → Except CommandError (Option Octets)
  | none => .ok none
  | some path =>
    match w.readFile path with
    | .ok content => .ok (some content)
    | .error e => .error (.authorityUnreadable path e)

end Surroundings

/-- The text of a report. -/
def Report.text (r : Report) (form : OutputForm) : String :=
  match form with
  | .table => r.table
  | .json => r.json.indented 0 ++ "\n"

/-- How a task ended: what it printed, and why it did not go on, if so. -/
structure Ending where
  output : String := ""
  failure : Option CommandError := none
deriving DecidableEq

namespace Ending

def exitStatus (e : Ending) : UInt8 :=
  e.failure.elim 0 CommandError.exitStatus

/-- What is written for the user beside the output. -/
def complaint (e : Ending) : String :=
  e.failure.elim "" fun f => "error: " ++ f.message ++ "\n"

/-- Ends with a failure before anything was printed. -/
def failed (e : CommandError) : Ending :=
  { failure := some e }

/-- Ends with a report, unless there was a failure. -/
def ofReport (form : OutputForm) : Except CommandError Report → Ending
  | .error e => failed e
  | .ok r => { output := r.text form }

/-- What goes on after some output. -/
def after (output : String) (e : Ending) : Ending :=
  { e with output := output ++ e.output }

/-- The ending of a task that made notes on its way. -/
def ofNotes (notes : List Note) (failure : Option CommandError) : Ending :=
  { output := String.join (notes.map Note.text), failure }

end Ending

/-- The principals that are known of a target. -/
def Target.principals (t : Target) : List Principal :=
  [Principal.ingestion t.cluster t.tenant, Principal.dashboard t.cluster t.tenant]

/-- A task whose input has been read. -/
inductive Job where
  | preview (plan : Plan)
  | apply (plan : Plan)
  | list
  | provision (target : Target) (password : String)
  | retract (target : Target)
deriving DecidableEq

namespace Task

/-- Reads the input of a task. -/
def prepare (w : Surroundings) : Task → Except CommandError Job
  | applyPolicies path => (w.settings path).map fun s => .apply (Plan.ofSettings s)
  | planPolicies path => (w.settings path).map fun s => .preview (Plan.ofSettings s)
  | listPrincipals => .ok .list
  | provision target name => (w.password name).map (.provision target)
  | retract target => .ok (.retract target)

end Task

/-- A computation that makes notes on its way; the result is why it did not go on, if so. -/
abbrev Noted {Q : Type} (A : Q → Type) : Type :=
  Dialogue (Noting Note A) (Option CommandError)

/-- How it ends, without what is logged. -/
def Dialogue.ended {Q : Type} {A : Q → Type} (d : Noted A) : Dialogue A Ending :=
  d.heard.andThen fun (notes, failure) => .done (.ofNotes notes failure)

/-- Takes the principals in order and confirms each of them once it is done. -/
def takeEach (verb : String)
    (act : Principal → Dialogue (Noting Event AccessCall.Answer) (Except AccessError Unit)) :
    List Principal → Noted AccessCall.Answer
  | [] => .done none
  | p :: ps =>
    ((act p).mapNotes .logged).andThen fun
      | .error e => .done (some (.access e))
      | .ok () => .noted [.printed (verb ++ " " ++ p.username ++ ".\n")] (takeEach verb act ps)

namespace Job

/-- What is logged of a pass over policies that has come to its end. -/
def reconciledEvent (os : List CategoryOutcome) : Event :=
  { level := .info, target := "loghold_cli::commands::policies"
    message := "lifecycle policies reconciled"
    fields :=
      [ ("policies", .number os.length)
      , ("written", .number (os.countP (·.outcome.wrote))) ] }

/-- Prints a report, unless there was a failure. -/
def present (form : OutputForm) : Except CommandError Report → Noted Answer
  | .error e => .done (some e)
  | .ok r => .noted [.printed (r.text form)] (.done none)

/-- Goes on with a client if there is one, after what is logged of setting it up. -/
def withClient (setup : List Event) (client : Except CommandError Client)
    (work : Client → Noted Answer) : Noted Answer :=
  .noted (setup.map .logged) <| match client with
    | .error e => .done (some e)
    | .ok c => work c

/-- Does the work, for which all tasks but the preview need a client. -/
def work (form : OutputForm) (setup : List Event) (client : Except CommandError Client) :
    Job → Noted Answer
  | preview plan => present form (.ok (.ofPlan plan))
  | apply plan =>
    withClient setup client fun c =>
      ((c.overPoliciesNoting plan.reconcileNoting).mapNotes .logged).andThen fun
        | .error e => .done (some (.policy e))
        | .ok os => .noted [.logged (reconciledEvent os)] (present form (.ok (.ofOutcomes os)))
  | list =>
    withClient setup client fun c =>
      ((c.overAccessNoting Principal.listNoting).mapNotes .logged).andThen fun r =>
        present form (r.map Report.ofPrincipals |>.mapError .access)
  | provision target password =>
    withClient setup client fun c =>
      (takeEach "Provisioned" Principal.createNoting
        (target.principals.map (·.withPassword password))).interpretNoting fun q =>
          (c.askAccessNoting q).mapNotes .logged
  | retract target =>
    withClient setup client fun c =>
      (takeEach "Retracted" Principal.deleteNoting target.principals).interpretNoting fun q =>
        (c.askAccessNoting q).mapNotes .logged

/-- Does the work without its log. -/
def perform (form : OutputForm) (client : Except CommandError Client) (j : Job) :
    Exchange Ending :=
  (j.work form [] client).ended

end Job

namespace Invocation

/-- All that a pass puts out: within its span the notes, and after it how it ended. -/
structure Pass where
  recorder : Recorder
  span : Span
  notes : List Note
  failure : Option CommandError

namespace Pass

/-- How the pass ended, without what was logged. -/
def ending (p : Pass) : Ending :=
  .ofNotes p.notes p.failure

/-- What is logged of the pass as a whole. -/
def conclusion (p : Pass) : Event :=
  match p.failure with
  | none => said .info "pass completed" []
  | some e => said .warn "pass failed" [("exit_code", .number e.exitStatus.toNat)]
where
  said (level : Verbosity) (message : String) (more : List (String × FieldValue)) : Event :=
    { level, target := "loghold_cli::cli", message, fields := p.span.fields ++ more }

/-- All notes in order, each with the span it is made in. -/
def told (p : Pass) : List (Option Span × Note) :=
  p.notes.map (some p.span, ·) ++ [(none, .logged p.conclusion)]

/-- What stands on standard output after the pass. -/
def stdout (style : LogStyle) (p : Pass) : String :=
  p.recorder.output style 0 p.told

end Pass

/-- The settings of the connection. -/
def connectionSettings (i : Invocation) (w : Surroundings) :
    Except CommandError ConnectionSettings :=
  match i.endpoint with
  | none => .error .noEndpoint
  | some endpoint =>
    (w.authority i.authorityFile).map fun authority =>
      { endpoint, authority
        external := i.external
        timeout := some (i.timeout.toNat * 1000) }

/-- Connects to the store. -/
def connect (i : Invocation) (w : Surroundings) : Except CommandError Client := do
  let settings ← i.connectionSettings w
  (Bootstrap.connect w.library (w.secretsIn i.secretsDir) {} settings).mapError .connection

/-- What is logged while the connection is set up. -/
def connectEvents (i : Invocation) (w : Surroundings) : List Event :=
  match i.connectionSettings w with
  | .error _ => []
  | .ok settings => Bootstrap.connectEvents w.library (w.secretsIn i.secretsDir) {} settings

/-- Reads the input of the task and does its work. -/
def work (i : Invocation) (w : Surroundings) : Noted Answer :=
  match i.task.prepare w with
  | .error e => .done (some e)
  | .ok job => job.work i.output (i.connectEvents w) (i.connect w)

/-- The variable with the directives for the log. -/
def logVariable : String := "RUST_LOG"

/-- What records the log. -/
def recorder (i : Invocation) (w : Surroundings) : Recorder :=
  let unset : LoggingConfig := {}
  (Recorder.none.install (w.lookUp logVariable)
    { unset with format := i.logFormat.getD unset.format }).2

/-- The span of the pass. -/
def span (i : Invocation) (w : Surroundings) : Span :=
  { target := "loghold_telemetry::init", name := "pass", level := .info
    fields := [("command", .text i.task.label), ("pass_id", .shown w.passId)] }

/-- Carries out an invocation. -/
def pass (i : Invocation) (w : Surroundings) : Exchange Pass :=
  (i.work w).heard.andThen fun (notes, failure) =>
    .done { recorder := i.recorder w, span := i.span w, notes, failure }

/-- Carries out an invocation without its log. -/
def run (i : Invocation) (w : Surroundings) : Exchange Ending :=
  (i.pass w).andThen fun p => .done p.ending

end Invocation

end LogSteward
