import LogSteward.Telemetry.Filter
import LogSteward.Telemetry.Format

/-!
# Installing the log

A process has one recorder of log events.  Asking for it a second time leaves the first in place;
where something else has been installed before, asking fails every time.  The filter comes from the
environment, or from the configuration where the environment has none that is well-formed.
-/

namespace LogSteward

/-- What records the log events of a process. -/
inductive Recorder where
  | none
  /-- A recorder of this library. -/
  | own (format : LogFormat) (filter : EventFilter)
  /-- A recorder installed by something else. -/
  | foreign (filter : EventFilter)

namespace Recorder

/-- What is said when something else has been installed before. -/
def failureMessage : String := "failed to install tracing subscriber"

/-- The filter in force: the environment's, or else the configuration's. -/
def chooseFilter (environment : Option String) (level : String) : EventFilter :=
  match environment.bind EventFilter.ofText? with
  | some f => f
  | .none => EventFilter.ofTextLossy level

/-- Asks for the recorder: whether there is one of this library, and the recorder in force. -/
def install (environment : Option String) (c : LoggingConfig) : Recorder → Bool × Recorder
  | none => (true, own c.format (chooseFilter environment c.level))
  | own f filter => (true, own f filter)
  | foreign filter => (false, foreign filter)

/-- The format of the recorder of this library. -/
def format? : Recorder → Option LogFormat
  | own f _ => some f
  | _ => .none

/-- Whether a span is recorded. -/
def records (site : SpanSite) : Recorder → Bool
  | none => false
  | own _ filter | foreign filter => filter.records site

end Recorder

end LogSteward
