import LogSteward.Telemetry.Filter

/-!
# Events

What is logged: how serious it is, which part of the program says it, a message, and what else is
said of it, field by field.  Events happen within a span, which is open as long as a command is
carried out and has fields of its own, or outside of all spans.

The general directive that decides about an event is the most specific one that fits its target and
asks for no field that it lacks.  Directives about spans let events through beyond that, and only
within the spans.
-/

namespace LogSteward

/-- What a field says. -/
inductive FieldValue where
  | text (s : String)
  /-- Something that is not a text, in the words in which it is shown. -/
  | shown (words : String)
  | number (n : Nat)
  | truth (b : Bool)
deriving DecidableEq

structure Event where
  level : Verbosity
  /-- The part of the program that says it. -/
  target : String
  message : String
  fields : List (String × FieldValue) := []
deriving DecidableEq

structure Span where
  target : String
  name : String
  level : Verbosity
  fields : List (String × FieldValue)
deriving DecidableEq

/-- What a filter is asked about the span. -/
def Span.site (s : Span) : SpanSite :=
  { target := s.target, name := s.name, fields := s.fields.map Prod.fst, level := s.level }

/-- The names of the fields, of which the message is one. -/
def Event.fieldNames (e : Event) : List String :=
  "message" :: e.fields.map Prod.fst

/-- Whether a filter lets an event through that happens outside of all spans. -/
def EventFilter.admits (f : EventFilter) (e : Event) : Bool :=
  (mostSpecific? (f.filter fun d =>
    d.isGeneral && d.fitsTarget e.target && d.fields.all (e.fieldNames.contains ·.name))).any
      fun d => e.level.rank ≤ d.level.rank

end LogSteward
