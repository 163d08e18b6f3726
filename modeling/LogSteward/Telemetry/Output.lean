import LogSteward.Telemetry.Event
import LogSteward.Telemetry.Logging

/-!
# Standard output

The log is written to standard output, among what a command prints.  Both are kept apart as notes,
in the order in which they are made; what stands on standard output follows from the notes, the
recorder in force, and the way in which it writes a line (`Recorder.output`).  What libraries log on
their own account is not among the notes.

How a line looks, and up to which level directives about a span let through what happens in it, is
up to the library that writes the log (`LogStyle`).
-/

namespace LogSteward

/-- Something that a run puts out. -/
inductive Note where
  | printed (text : String)
  | logged (e : Event)
deriving DecidableEq

/-- The text that is printed. -/
def Note.text : Note → String
  | printed t => t
  | logged _ => ""

/-- How the library writes the log. -/
structure LogStyle where
  /-- The line of an event without its end: the format, how many lines came before it, the span it
  happens in, if that is recorded, and the event. -/
  line : LogFormat → Nat → Option Span → Event → String
  /-- The level up to which the directives about a span let through what happens in it. -/
  inside : EventFilter → Span → Verbosity

namespace Recorder

/-- The line that is written for an event, if one is.  A recorder that something else has installed
does not write to standard output. -/
def line? (style : LogStyle) (span : Option Span) (n : Nat) (e : Event) : Recorder → Option String
  | own format filter =>
    let entered := span.filter fun s => filter.records s.site
    let inside := entered.elim .off (style.inside filter)
    if e.level.rank ≤ inside.rank || filter.admits e then
      some (style.line format n entered e ++ "\n")
    else Option.none
  | none | foreign _ => Option.none

/-- What notes amount to on standard output, each with the span it is made in, after `n` lines of
the log. -/
def output (style : LogStyle) (r : Recorder) (n : Nat) : List (Option Span × Note) → String
  | [] => ""
  | (_, .printed t) :: rest => t ++ output style r n rest
  | (span, .logged e) :: rest =>
    match r.line? style span n e with
    | some line => line ++ output style r (n + 1) rest
    | Option.none => output style r n rest

end Recorder

end LogSteward
