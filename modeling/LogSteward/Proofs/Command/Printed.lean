import LogSteward.Command.Run
import LogSteward.Proofs.Json.Spelling
import LogSteward.Proofs.Retention.Shelf

/-!
# Reading what is printed

The JSON that is printed of a plan, of the outcomes of a pass and of principals, as a program that
knows its members reads it: each member once, and none may be missing.  What is printed of a plan is
read as the rows of its entries (`PrintedPlan.decode_printed`), what is printed of outcomes and of
principals as theirs (`OutcomeRow.decode_printed`, `PrincipalRow.decode_printed`).
-/

namespace LogSteward

open Json

namespace Json

/-- Reads a flag. -/
def readFlag : Reader Bool := fun s =>
  match skipBlanks s with
  | Octet.letterT :: rest => (readWord [0x72, 0x75, 0x65] rest).map (true, ·)
  | Octet.letterF :: rest => (readWord [0x61, 0x6C, 0x73, 0x65] rest).map (false, ·)
  | rest => .error (refuse rest)

/-- A flag is read from either of its words. -/
theorem reads_flag : Reads readFlag flagForm where
  blanks s := by simp [readFlag]
  complete := by
    rintro b t rest rfl -
    cases b <;> rfl

end Json

/-! ### Plans -/

/-- A row of a plan. -/
structure PlanRow where
  category : String
  policy : String
  days : Int64
  thresholds : Thresholds
deriving DecidableEq

namespace PlanRow

inductive Key where
  | category
  | policy
  | days
  | maxSize
  | maxAge
  | minAge
  | readOnly
deriving DecidableEq

def layout : Layout PlanRow where
  Field := Key
  fields := [.category, .policy, .days, .maxSize, .maxAge, .minAge, .readOnly]
  key
    | .category => "category"
    | .policy => "policy"
    | .days => "retention_days"
    | .maxSize => "rollover_max_size"
    | .maxAge => "rollover_max_age"
    | .minAge => "delete_min_age"
    | .readOnly => "read_only_after_rollover"
  Value
    | .category | .policy | .maxSize | .maxAge | .minAge => String
    | .days => Int64
    | .readOnly => Bool
  read
    | .category | .policy | .maxSize | .maxAge | .minAge => readText
    | .days => readInteger int64?
    | .readOnly => readFlag
  build? slots := do
    let thresholds :=
      { maxSize := ← slots .maxSize, maxAge := ← slots .maxAge, minAge := ← slots .minAge
        readOnly := ← slots .readOnly }
    return { category := ← slots .category, policy := ← slots .policy, days := ← slots .days
             thresholds }

/-- The row of an entry. -/
def ofEntry (e : PlannedPolicy) : PlanRow where
  category := e.category.slug
  policy := e.name
  days := e.days
  thresholds := e.thresholds

def form : Form PlanRow :=
  layout.form fun
    | .category | .policy | .maxSize | .maxAge | .minAge => textForm
    | .days => integerForm Int64.toInt
    | .readOnly => flagForm

theorem reads : Reads layout.reader form :=
  Layout.reads_reader (fun f => by cases f <;> rfl) fun
    | .category | .policy | .maxSize | .maxAge | .minAge => reads_text
    | .days => reads_int64
    | .readOnly => reads_flag

/-- However the JSON of an entry is laid out, it spells the row of the entry. -/
theorem means_entry (e : PlannedPolicy) : Means form (Report.entryJson e) (ofEntry e) := by
  have nodup : [Key.category, Key.minAge, Key.policy, Key.readOnly, Key.days, Key.maxAge,
      Key.maxSize].Nodup := by decide
  refine Layout.means_record (L := layout)
    [⟨Key.category, e.category.slug⟩, ⟨Key.minAge, e.thresholds.minAge⟩, ⟨Key.policy, e.name⟩,
      ⟨Key.readOnly, e.thresholds.readOnly⟩, ⟨Key.days, e.days⟩, ⟨Key.maxAge, e.thresholds.maxAge⟩,
      ⟨Key.maxSize, e.thresholds.maxSize⟩] nodup ?_ rfl
  exact .cons ⟨rfl, means_text _⟩ (.cons ⟨rfl, means_text _⟩ (.cons ⟨rfl, means_text _⟩
    (.cons ⟨rfl, means_flag _⟩ (.cons ⟨rfl, means_number _⟩ (.cons ⟨rfl, means_text _⟩
      (.cons ⟨rfl, means_text _⟩ .nil))))))

end PlanRow

/-- A plan as it is printed. -/
structure PrintedPlan where
  totalBytes : UInt64
  rows : List PlanRow
deriving DecidableEq

namespace PrintedPlan

inductive Key where
  | totalBytes
  | rows
deriving DecidableEq

def layout : Layout PrintedPlan where
  Field := Key
  fields := [.totalBytes, .rows]
  key
    | .totalBytes => "total_bytes"
    | .rows => "policies"
  Value
    | .totalBytes => UInt64
    | .rows => List PlanRow
  read
    | .totalBytes => readInteger uint64?
    | .rows => readList PlanRow.layout.reader
  build? slots := do
    return { totalBytes := ← slots .totalBytes, rows := ← slots .rows }

def form : Form PrintedPlan :=
  layout.form fun
    | .totalBytes => integerForm fun n => n.toNat
    | .rows => listForm PlanRow.form

theorem reads : Reads layout.reader form :=
  Layout.reads_reader (fun f => by cases f <;> rfl) fun
    | .totalBytes => reads_uint64
    | .rows => reads_list PlanRow.reads Layout.element_form

/-- The plan as it is printed. -/
def ofPlan (p : Plan) : PrintedPlan where
  totalBytes := p.totalBytes
  rows := p.entries.map PlanRow.ofEntry

/-- The plan for settings has a row for each category. -/
theorem policies_ofSettings (s : StorageSettings) :
    (ofPlan (.ofSettings s)).rows.map PlanRow.policy
      = Category.catalogue.map Category.policyName := by
  rw [ofPlan, Plan.entries_ofSettings, List.map_map, List.map_map]
  rfl

/-- However the JSON of a plan is laid out, it spells the plan as it is printed. -/
theorem means_plan (p : Plan) : Means form (Report.planJson p) (ofPlan p) := by
  have nodup : [Key.rows, Key.totalBytes].Nodup := by decide
  refine Layout.means_record (L := layout)
    [⟨Key.rows, p.entries.map PlanRow.ofEntry⟩, ⟨Key.totalBytes, p.totalBytes⟩] nodup ?_ rfl
  exact .cons ⟨rfl, means_map PlanRow.means_entry p.entries⟩
    (.cons ⟨rfl, means_number p.totalBytes⟩ .nil)

/-- **A plan that is printed** is read as its rows. -/
theorem decode_printed (p : Plan) :
    decode layout.reader (Ending.ofReport .json (.ok (.ofPlan p))).output = .ok (ofPlan p) :=
  (means_plan p).decode_indented reads

end PrintedPlan

/-! ### Outcomes -/

/-- A row of the outcomes of a pass. -/
structure OutcomeRow where
  policy : String
  outcome : String
  changed : List String
deriving DecidableEq

namespace OutcomeRow

inductive Key where
  | policy
  | outcome
  | changed
deriving DecidableEq

def layout : Layout OutcomeRow where
  Field := Key
  fields := [.policy, .outcome, .changed]
  key
    | .policy => "policy"
    | .outcome => "outcome"
    | .changed => "changed"
  Value
    | .policy | .outcome => String
    | .changed => List String
  read
    | .policy | .outcome => readText
    | .changed => readList readText
  build? slots := do
    return { policy := ← slots .policy, outcome := ← slots .outcome, changed := ← slots .changed }

def form : Form OutcomeRow :=
  layout.form fun
    | .policy | .outcome => textForm
    | .changed => listForm textForm

theorem reads : Reads layout.reader form :=
  Layout.reads_reader (fun f => by cases f <;> rfl) fun
    | .policy | .outcome => reads_text
    | .changed => reads_list reads_text element_text

/-- The row of an outcome. -/
def ofOutcome (o : CategoryOutcome) : OutcomeRow where
  policy := o.category.policyName
  outcome := o.outcome.label
  changed := o.outcome.changed.map (·.name)

/-- However the JSON of an outcome is laid out, it spells the row of the outcome. -/
theorem means_outcome (o : CategoryOutcome) : Means form (Report.outcomeJson o) (ofOutcome o) := by
  have nodup : [Key.changed, Key.outcome, Key.policy].Nodup := by decide
  have field (f : Thresholds.Field) : Means textForm (.text f.name) f.name := means_text f.name
  refine Layout.means_record (L := layout)
    [⟨Key.changed, o.outcome.changed.map (·.name)⟩, ⟨Key.outcome, o.outcome.label⟩,
      ⟨Key.policy, o.category.policyName⟩] nodup ?_ rfl
  exact .cons ⟨rfl, means_map field _⟩ (.cons ⟨rfl, means_text _⟩ (.cons ⟨rfl, means_text _⟩ .nil))

/-- **Outcomes that are printed** are read as their rows. -/
theorem decode_printed (os : List CategoryOutcome) :
    decode (readList layout.reader) (Ending.ofReport .json (.ok (.ofOutcomes os))).output
      = .ok (os.map ofOutcome) :=
  (means_map means_outcome os).decode_indented (reads_list reads Layout.element_form)

end OutcomeRow

/-! ### Principals -/

/-- A row of a listing of principals. -/
structure PrincipalRow where
  username : String
  roles : List String
deriving DecidableEq

namespace PrincipalRow

inductive Key where
  | username
  | roles
deriving DecidableEq

def layout : Layout PrincipalRow where
  Field := Key
  fields := [.username, .roles]
  key
    | .username => "username"
    | .roles => "roles"
  Value
    | .username => String
    | .roles => List String
  read
    | .username => readText
    | .roles => readList readText
  build? slots := do
    return { username := ← slots .username, roles := ← slots .roles }

def form : Form PrincipalRow :=
  layout.form fun
    | .username => textForm
    | .roles => listForm textForm

theorem reads : Reads layout.reader form :=
  Layout.reads_reader (fun f => by cases f <;> rfl) fun
    | .username => reads_text
    | .roles => reads_list reads_text element_text

/-- The row of a principal, without its password and the definitions of its roles. -/
def ofPrincipal (p : Principal) : PrincipalRow where
  username := p.username
  roles := p.roleNames

/-- However the JSON of a principal is laid out, it spells its name and its roles. -/
theorem means_principal (p : Principal) : Means form (Report.principalJson p) (ofPrincipal p) := by
  have nodup : [Key.roles, Key.username].Nodup := by decide
  have roles : Means (listForm textForm) (.list (p.roleNames.map .text)) p.roleNames := by
    simpa using means_map means_text p.roleNames
  refine Layout.means_record (L := layout) [⟨Key.roles, p.roleNames⟩, ⟨Key.username, p.username⟩]
    nodup ?_ rfl
  exact .cons ⟨rfl, roles⟩ (.cons ⟨rfl, means_text p.username⟩ .nil)

/-- **Principals that are printed** are read as their rows. -/
theorem decode_printed (ps : List Principal) :
    decode (readList layout.reader) (Ending.ofReport .json (.ok (.ofPrincipals ps))).output
      = .ok (ps.map ofPrincipal) :=
  (means_map means_principal ps).decode_indented (reads_list reads Layout.element_form)

end PrincipalRow

end LogSteward
