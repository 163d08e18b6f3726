import LogSteward.Json.Record
import LogSteward.Lifecycle.Document

/-!
# The written form of lifecycle policies

How policy documents and their parts are written as JSON and read back.  On reading, every field
has a default but the priority of `set_priority`; on writing, an absent action is left out.
-/

namespace LogSteward

open Json

namespace Rollover

inductive Key where
  | maxSize
  | maxAge
deriving DecidableEq

def layout : Layout Rollover where
  Field := Key
  fields := [.maxSize, .maxAge]
  key
    | .maxSize => "max_size"
    | .maxAge => "max_age"
  Value _ := String
  read _ := readText
  build? slots := some { maxSize := (slots .maxSize).getD "", maxAge := (slots .maxAge).getD "" }

def toJson (r : Rollover) : Json :=
  .object [("max_size", .text r.maxSize), ("max_age", .text r.maxAge)]

end Rollover

namespace SetPriority

def layout : Layout SetPriority :=
  .single "priority" (readInteger uint32?) fun p => p.map SetPriority.mk

def toJson (p : SetPriority) : Json :=
  .object [("priority", .number p.priority.toNat)]

end SetPriority

namespace Bare

def layout : Layout Bare :=
  .fieldless {}

def toJson (_ : Bare) : Json :=
  .object []

end Bare

/-- A member that is left out when its value is absent. -/
def Json.member (key : String) (write : α → Json) : Option α → List (String × Json)
  | none => []
  | some a => [(key, write a)]

namespace HotActions

inductive Key where
  | rollover
  | setPriority
deriving DecidableEq

def layout : Layout HotActions where
  Field := Key
  fields := [.rollover, .setPriority]
  key
    | .rollover => "rollover"
    | .setPriority => "set_priority"
  Value
    | .rollover => Rollover
    | .setPriority => Option SetPriority
  read
    | .rollover => Rollover.layout.reader
    | .setPriority => readOption SetPriority.layout.reader
  build? slots :=
    some
      { rollover := (slots .rollover).getD {}
        setPriority := (slots .setPriority).getD none }

def toJson (a : HotActions) : Json :=
  .object
    (("rollover", a.rollover.toJson) :: member "set_priority" SetPriority.toJson a.setPriority)

end HotActions

namespace HotPhase

def layout : Layout HotPhase :=
  .single "actions" HotActions.layout.reader fun a => some { actions := a.getD {} }

def toJson (p : HotPhase) : Json :=
  .object [("actions", p.actions.toJson)]

end HotPhase

namespace WarmActions

inductive Key where
  | setPriority
  | readonly
deriving DecidableEq

def layout : Layout WarmActions where
  Field := Key
  fields := [.setPriority, .readonly]
  key
    | .setPriority => "set_priority"
    | .readonly => "readonly"
  Value
    | .setPriority => Option SetPriority
    | .readonly => Option Bare
  read
    | .setPriority => readOption SetPriority.layout.reader
    | .readonly => readOption Bare.layout.reader
  build? slots :=
    some
      { setPriority := (slots .setPriority).getD none
        readonly := (slots .readonly).getD none }

def toJson (a : WarmActions) : Json :=
  .object (member "set_priority" SetPriority.toJson a.setPriority
    ++ member "readonly" Bare.toJson a.readonly)

end WarmActions

namespace WarmPhase

def layout : Layout WarmPhase :=
  .single "actions" WarmActions.layout.reader fun a => some { actions := a.getD {} }

def toJson (p : WarmPhase) : Json :=
  .object [("actions", p.actions.toJson)]

end WarmPhase

namespace DeleteActions

def layout : Layout DeleteActions :=
  .single "delete" (readOption Bare.layout.reader) fun d => some { delete := d.getD none }

def toJson (a : DeleteActions) : Json :=
  .object (member "delete" Bare.toJson a.delete)

end DeleteActions

namespace DeletePhase

inductive Key where
  | minAge
  | actions
deriving DecidableEq

def layout : Layout DeletePhase where
  Field := Key
  fields := [.minAge, .actions]
  key
    | .minAge => "min_age"
    | .actions => "actions"
  Value
    | .minAge => String
    | .actions => DeleteActions
  read
    | .minAge => readText
    | .actions => DeleteActions.layout.reader
  build? slots :=
    some { minAge := (slots .minAge).getD "", actions := (slots .actions).getD {} }

def toJson (p : DeletePhase) : Json :=
  .object [("min_age", .text p.minAge), ("actions", p.actions.toJson)]

end DeletePhase

namespace Phases

inductive Key where
  | hot
  | warm
  | delete
deriving DecidableEq

def layout : Layout Phases where
  Field := Key
  fields := [.hot, .warm, .delete]
  key
    | .hot => "hot"
    | .warm => "warm"
    | .delete => "delete"
  Value
    | .hot => HotPhase
    | .warm => WarmPhase
    | .delete => DeletePhase
  read
    | .hot => HotPhase.layout.reader
    | .warm => WarmPhase.layout.reader
    | .delete => DeletePhase.layout.reader
  build? slots :=
    some
      { hot := (slots .hot).getD {}
        warm := (slots .warm).getD {}
        delete := (slots .delete).getD {} }

def toJson (p : Phases) : Json :=
  .object [("hot", p.hot.toJson), ("warm", p.warm.toJson), ("delete", p.delete.toJson)]

end Phases

namespace Policy

def layout : Layout Policy :=
  .single "phases" Phases.layout.reader fun p => some { phases := p.getD {} }

def toJson (p : Policy) : Json :=
  .object [("phases", p.phases.toJson)]

/-- The policy that a text describes. -/
def decode (s : String) : Except Fault Policy :=
  Json.decode layout.reader s

/-- The text that describes a policy. -/
def encode (p : Policy) : String :=
  p.toJson.compact

end Policy

end LogSteward
