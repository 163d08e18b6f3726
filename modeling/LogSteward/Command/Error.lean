import LogSteward.Access.Synchronize
import LogSteward.Connection.Material
import LogSteward.Retention.Reconcile

/-!
# Failures of commands

Why a command did not do what was asked, in the words that its user sees, and the status with which
the program ends.  Three classes are told apart: input that has to be corrected, prerequisites to
wait for, and failures of the outside.  A failure of the outside is told as a chain, from what was
attempted down to what went wrong.
-/

namespace LogSteward

/-- What the user can do about a failure. -/
inductive CommandError.Class where
  /-- Correct the input. -/
  | validation
  /-- See to what failed. -/
  | failure
  /-- Try again later. -/
  | waiting
deriving DecidableEq

/-- The status with which the program ends. -/
def CommandError.Class.exitStatus : CommandError.Class → UInt8
  | .validation => 2
  | .failure => 3
  | .waiting => 4

/-- Why a command did not do what was asked. -/
inductive CommandError where
  /-- It was not said where the store is. -/
  | noEndpoint
  /-- The variable that should hold the password is not set. -/
  | passwordUnset (name : String)
  | passwordEmpty (name : String)
  /-- The file with the settings cannot be read. -/
  | settingsUnreadable (path : String) (cause : FileError)
  /-- The file with the settings holds something else. -/
  | settingsInvalid (path : String) (fault : Json.Fault)
  /-- The file with the authorities cannot be read. -/
  | authorityUnreadable (path : String) (cause : FileError)
  | connection (e : ConnectionError)
  | policy (e : PolicyError)
  | access (e : AccessError)
deriving DecidableEq

/-- A fault in words. -/
def Json.Fault.text : Json.Fault → String
  | .truncated => "the text ended early"
  | .mismatched => "a value is not of the kind expected"
  | .malformed => "the text is not JSON"

/-- The failure of a store, followed by what is behind it. -/
def RemoteError.chain (e : RemoteError) : List String :=
  e.message :: match e.cause with
    | .undelivered reason => [reason]
    | .unreadable fault => [fault.text]
    | _ => []

/-- The failure to connect, followed by what is behind it. -/
def ConnectionError.chain (e : ConnectionError) : List String :=
  e.message :: match e with
    | .unreadable _ failure => [failure.cause.message]
    | .unbuilt _ cause => [cause]
    | .waiting _ | .config _ _ => []

namespace CommandError

/-- What is said of a chain of failures. -/
def told (chain : List String) : String :=
  ": ".intercalate chain

/-- The class and the words of a failure to connect. -/
def ofConnection : ConnectionError → Class × String
  | .waiting secret => (.waiting, "waiting for secret '" ++ secret ++ "' to be created")
  | .config secret reason =>
    (.validation, "invalid connection material in '" ++ secret ++ "': " ++ reason.text)
  | e => (.failure, told e.chain)

/-- The class and the words of a failure to reconcile a policy. -/
def ofPolicy (e : PolicyError) : Class × String :=
  (.failure, told (("failed to reconcile lifecycle policy " ++ e.policy)
    :: e.message :: e.source.chain))

/-- The class and the words of a failure to change or list principals. -/
def ofAccess : AccessError → Class × String
  | .unnamedRole => (.validation, "invalid role definition: " ++ AccessError.unnamedReason)
  | .remote op name source =>
    (.failure, told (("principal operation on " ++ name ++ " failed")
      :: (AccessError.remote op name source).message :: source.chain))

/-- The class and the words of a failure. -/
def report : CommandError → Class × String
  | noEndpoint =>
    (.validation, "store endpoint is required (pass --endpoint or set LOGHOLD_ENDPOINT)")
  | passwordUnset v => (.validation, "environment variable " ++ v ++ " is not set")
  | passwordEmpty v => (.validation, "environment variable " ++ v ++ " is empty")
  | settingsUnreadable path cause => (.failure, told ["failed to read " ++ path, cause.message])
  | settingsInvalid path fault =>
    (.validation, told ["settings file " ++ path ++ " is not valid", fault.text])
  | authorityUnreadable path cause =>
    (.validation, told ["failed to read CA override " ++ path, cause.message])
  | connection e => ofConnection e
  | policy e => ofPolicy e
  | access e => ofAccess e

def kind (e : CommandError) : Class :=
  e.report.1

def message (e : CommandError) : String :=
  e.report.2

def exitStatus (e : CommandError) : UInt8 :=
  e.kind.exitStatus

/-- How the program names a failure of whatever kind. -/
def title : String := "cli error"

end CommandError

end LogSteward
