import LogSteward.Access.Principal
import LogSteward.Retention.Reconcile
import LogSteward.Text.Column

/-!
# Reports

What the commands print: plans, outcomes and principals, each as a table and as JSON.  The members
of the JSON objects are in the order of their keys.
-/

namespace LogSteward

/-- The two forms of a report. -/
structure Report where
  table : String
  json : Json

namespace Report

/-- The columns of a plan; the last one is not padded. -/
def planColumns : List Column :=
  [.left 36, .right 6, .right 14, .right 8, .right 8, .left 0]

/-- The cells of an entry of a plan. -/
def planCells (e : PlannedPolicy) : List String :=
  [ e.name, toString e.days.toInt, e.thresholds.maxSize, e.thresholds.maxAge, e.thresholds.minAge
  , if e.thresholds.readOnly then "true" else "false" ]

def planTable (p : Plan) : String :=
  "total: " ++ toString p.totalBytes.toNat ++ "b\n"
    ++ Column.line planColumns ["POLICY", "DAYS", "MAX_SIZE", "MAX_AGE", "DELETE", "READONLY"]
    ++ String.join (p.entries.map fun e => Column.line planColumns (planCells e))

open Json in
def entryJson (e : PlannedPolicy) : Json :=
  .object
    [ ("category", .text e.category.slug)
    , ("delete_min_age", .text e.thresholds.minAge)
    , ("policy", .text e.name)
    , ("read_only_after_rollover", .flag e.thresholds.readOnly)
    , ("retention_days", .number e.days.toInt)
    , ("rollover_max_age", .text e.thresholds.maxAge)
    , ("rollover_max_size", .text e.thresholds.maxSize) ]

def planJson (p : Plan) : Json :=
  .object
    [ ("policies", .list (p.entries.map entryJson))
    , ("total_bytes", .number p.totalBytes.toNat) ]

def ofPlan (p : Plan) : Report where
  table := planTable p
  json := planJson p

/-- The columns of the outcomes; the last one is not padded. -/
def outcomeColumns : List Column :=
  [.left 36, .left 10, .left 0]

/-- The cells of an outcome: a dash stands for no change. -/
def outcomeCells (o : CategoryOutcome) : List String :=
  [ o.category.policyName, o.outcome.label
  , match o.outcome.changed with
    | [] => "-"
    | f :: fs => ",".intercalate ((f :: fs).map (·.name)) ]

def outcomesTable (os : List CategoryOutcome) : String :=
  Column.line outcomeColumns ["POLICY", "OUTCOME", "CHANGED"]
    ++ String.join (os.map fun o => Column.line outcomeColumns (outcomeCells o))

def outcomeJson (o : CategoryOutcome) : Json :=
  .object
    [ ("changed", .list (o.outcome.changed.map fun f => .text f.name))
    , ("outcome", .text o.outcome.label)
    , ("policy", .text o.category.policyName) ]

def ofOutcomes (os : List CategoryOutcome) : Report where
  table := outcomesTable os
  json := .list (os.map outcomeJson)

/-- The columns of a listing of principals; the last one is not padded. -/
def principalColumns : List Column :=
  [.left 48, .left 0]

def principalsTable (ps : List Principal) : String :=
  Column.line principalColumns ["USERNAME", "ROLES"]
    ++ String.join (ps.map fun p =>
      Column.line principalColumns [p.username, ",".intercalate p.roleNames])

def principalJson (p : Principal) : Json :=
  .object [("roles", .list (p.roleNames.map .text)), ("username", .text p.username)]

def ofPrincipals (ps : List Principal) : Report where
  table := principalsTable ps
  json := .list (ps.map principalJson)

end Report

end LogSteward
