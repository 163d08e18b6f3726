import Std.Data.String.ToInt
import Std.Data.String.ToNat
import LogSteward.Proofs.Command.Printed
import LogSteward.Proofs.Text.Columns

/-!
# Reading tables

The tables that are printed of a plan and of the outcomes of a pass, read back at runs of blanks
(`PrintedPlan.ofTable?`, `OutcomeRow.ofTable?`).  No cell that is printed has a blank of its own or
is empty, whatever the settings are, so a table is read as the very rows as which the JSON of the
same report is (`reports_agree`).
-/

namespace LogSteward

open Json Column

/-- A report as it is printed. -/
def Report.shown (r : Report) (form : OutputForm) : String :=
  (Ending.ofReport form (.ok r)).output

/-! ### Cells -/

theorem isCell_nat (n : Nat) : IsCell (toString n) := by
  have digits : (toString n).toList = Nat.toDigits 10 n := by
    rw [Nat.toString_eq_ofList_toDigits, String.toList_ofList]
  have figure {c : Char} (h : c ∈ (toString n).toList) : 0x30 ≤ c.toNat := by
    rw [digits] at h
    exact (toNat_of_mem_toDigits h).1
  refine ⟨fun empty => ?_, fun blank => absurd (figure blank) (by decide),
    fun newline => absurd (figure newline) (by decide)⟩
  rw [empty] at digits
  exact Nat.toDigits_ne_nil digits.symm

theorem isCell_int (n : Int) : IsCell (toString n) := by
  cases n with
  | ofNat n => exact isCell_nat n
  | negSucc n =>
    have minus : IsCell "-" := by decide
    exact minus.append (isCell_nat (n + 1))

theorem isCell_policyName (k : Category) : IsCell k.policyName := by
  cases k <;> decide

/-- Every age at which a rollover is due makes up a cell. -/
theorem RolloverRule.isCell_age (r : RolloverRule) (days : Int64) : IsCell (r.age days) := by
  unfold age
  split
  · decide
  · split
    · decide
    · exact (isCell_int _).append (by decide)

theorem isCell_ageText (days : Int64) : IsCell (ageText days) :=
  (isCell_int _).append (by decide)

theorem isCell_sizeText (bytes : UInt64) : IsCell (sizeText bytes) :=
  (isCell_nat _).append (by decide)

/-- All thresholds of a plan make up cells, whatever is planned for. -/
theorem Thresholds.isCell_plan (total : UInt64) (k : Category) (days : Int64) (r : RolloverRule) :
    IsCell (plan total k days r).maxSize ∧ IsCell (plan total k days r).maxAge ∧
      IsCell (plan total k days r).minAge := by
  rw [plan]
  exact ⟨isCell_sizeText _, r.isCell_age days, isCell_ageText days⟩

/-- The thresholds of an entry are planned for the size of the store, its category and its
retention. -/
theorem Plan.thresholds_ofSettings {s : StorageSettings} {e : PlannedPolicy}
    (planned : e ∈ (ofSettings s).entries) :
    e.thresholds = Thresholds.plan s.totalBytes e.category e.days {} := by
  obtain ⟨k, -, rfl⟩ := List.mem_map.mp planned
  rfl

/-- No cell of a planned policy runs into another one, however wide they are. -/
theorem isCell_planCells {s : StorageSettings} {e : PlannedPolicy}
    (planned : e ∈ (Plan.ofSettings s).entries) : ∀ cell ∈ Report.planCells e, IsCell cell := by
  have thresholds := Thresholds.isCell_plan s.totalBytes e.category e.days {}
  rw [← Plan.thresholds_ofSettings planned] at thresholds
  obtain ⟨maxSize, maxAge, minAge⟩ := thresholds
  have flag (b : Bool) : IsCell (if b then "true" else "false") := by
    cases b <;> decide
  simp only [Report.planCells, List.forall_mem_cons]
  exact ⟨isCell_policyName _, isCell_int _, maxSize, maxAge, minAge, flag _, nofun⟩

/-! ### Numbers -/

/-- The number of bytes that a size amounts to. -/
def sizeBytes? (size : String) : Option UInt64 :=
  match size.toList.reverse with
  | 'b' :: figures => (String.ofList figures.reverse).toNat?.bind fun n => uint64? n
  | _ => none

/-- A size is read back from its text. -/
theorem sizeBytes?_sizeText (bytes : UInt64) : sizeBytes? (sizeText bytes) = some bytes := by
  have text : (sizeText bytes).toList.reverse = 'b' :: (toString bytes.toNat).toList.reverse := by
    simp [sizeText]
  have read : (toString bytes.toNat).toNat? = some bytes.toNat := Nat.toNat?_repr _
  rw [sizeBytes?, text]
  simp only [List.reverse_reverse, String.ofList_toList]
  rw [read, Option.bind_some, uint64?_toNat]

/-! ### Plans -/

/-- The category whose policy has a name. -/
def Category.ofPolicyName? (name : String) : Option Category :=
  catalogue.find? (·.policyName = name)

/-- A category is known by the name of its policy. -/
theorem Category.ofPolicyName?_policyName (k : Category) :
    ofPolicyName? k.policyName = some k := by
  cases k <;> decide

/-- The flag that a word means. -/
def flag? : String → Option Bool
  | "true" => some true
  | "false" => some false
  | _ => none

/-- The row of a plan that cells say; the category is that of the policy. -/
def PlanRow.ofCells? : List String → Option PlanRow
  | [policy, days, maxSize, maxAge, minAge, readOnly] => do
    let category ← Category.ofPolicyName? policy
    let days ← int64? (← days.toInt?)
    let readOnly ← flag? readOnly
    return { category := category.slug, policy, days
             thresholds := { maxSize, maxAge, minAge, readOnly } }
  | _ => none

/-- An entry is read back from the cells of its row. -/
theorem PlanRow.ofCells?_planCells (e : PlannedPolicy) :
    ofCells? (Report.planCells e) = some (ofEntry e) := by
  have days : (toString e.days.toInt).toInt? = some e.days.toInt := Int.toInt?_repr _
  have flag (b : Bool) : flag? (if b then "true" else "false") = some b := by
    cases b <;> rfl
  simp only [ofCells?, Report.planCells, PlannedPolicy.name, Category.ofPolicyName?_policyName,
    days, int64?_toInt, flag, Option.bind_eq_bind, Option.bind_some]
  rfl

/-- The plan that a table says: the size of the store in the first line, a heading in the second,
and then a row in each. -/
def PrintedPlan.ofTable? (s : String) : Option PrintedPlan :=
  match Column.rows s with
  | ["total:", size] :: _ :: rows => do
    return { totalBytes := ← sizeBytes? size, rows := ← rows.mapM PlanRow.ofCells? }
  | _ => none

/-- Rows that can be read one by one can be read in a list. -/
theorem mapM_map_eq_some {α β γ : Type} {f : β → Option γ} {g : α → β} {h : α → γ}
    (each : ∀ a, f (g a) = some (h a)) (as : List α) : (as.map g).mapM f = some (as.map h) := by
  induction as with
  | nil => rfl
  | cons a as ih =>
    rw [List.map_cons, List.mapM_cons, each, ih]
    rfl

/-- A plan is read back from its table, if each of its cells is one. -/
theorem PrintedPlan.ofTable?_planTable {p : Plan}
    (h : ∀ e ∈ p.entries, ∀ cell ∈ Report.planCells e, IsCell cell) :
    ofTable? (Report.planTable p) = some (ofPlan p) := by
  let table := String.join (p.entries.map fun e => line Report.planColumns (Report.planCells e))
  let heading := ["POLICY", "DAYS", "MAX_SIZE", "MAX_AGE", "DELETE", "READONLY"]
  have text : Report.planTable p
      = "total:" ++ " " ++ sizeText p.totalBytes ++ "\n"
        ++ (line Report.planColumns heading ++ table) := by
    have spaced : "total: " = "total:" ++ " " := rfl
    have ended : "b\n" = "b" ++ "\n" := rfl
    rw [Report.planTable, spaced, ended, sizeText]
    simp only [String.append_assoc, table, heading]
  have total : IsRow ("total:" ++ " " ++ sizeText p.totalBytes) ["total:", sizeText p.totalBytes] :=
    (IsRow.cell (by decide)).append (.cell (isCell_sizeText _))
  have rows : Column.rows (Report.planTable p)
      = ["total:", sizeText p.totalBytes] :: heading :: p.entries.map Report.planCells := by
    rw [text, Column.rows, lines_append total.unbroken, List.map_cons, total.words_eq]
    refine congrArg (_ :: ·) ((rows_line_append rfl (by decide) _).trans ?_)
    rw [rows_join (fun _ => rfl) h]
  rw [ofTable?, rows]
  simp only [sizeBytes?_sizeText, mapM_map_eq_some PlanRow.ofCells?_planCells, Option.bind_eq_bind,
    Option.bind_some]
  rfl

/-! ### Outcomes -/

/-- The row of outcomes that cells say: names between commas, none of them for a dash. -/
def OutcomeRow.ofCells? : List String → Option OutcomeRow
  | [policy, outcome, changed] =>
    some
      { policy, outcome
        changed :=
          if changed = "-" then [] else (splitAt ',' changed.toList).map String.ofList }
  | _ => none

/-- The outcomes that a table says: a heading in the first line, and then a row in each. -/
def OutcomeRow.ofTable? (s : String) : Option (List OutcomeRow) :=
  match Column.rows s with
  | _ :: rows => rows.mapM ofCells?
  | [] => none

section Commas

variable {name : String} {names : List String}

/-- Cells with commas between them make up a cell. -/
theorem isCell_commas (h : ∀ n ∈ name :: names, IsCell n) :
    IsCell (",".intercalate (name :: names)) := by
  induction names generalizing name with
  | nil => simpa using h
  | cons next names ih =>
    obtain ⟨first, others⟩ := List.forall_mem_cons.mp h
    rw [String.intercalate_cons_cons]
    exact (first.append (by decide)).append (ih others)

/-- Names without commas are the pieces between the commas. -/
theorem splitAt_commas (h : ∀ n ∈ name :: names, ',' ∉ n.toList) :
    (splitAt ',' (",".intercalate (name :: names)).toList).map String.ofList = name :: names := by
  induction names generalizing name with
  | nil =>
    rw [String.intercalate_singleton, splitAt_of_notMem (h name List.mem_cons_self),
      List.map_singleton, String.ofList_toList]
  | cons next names ih =>
    obtain ⟨first, others⟩ := List.forall_mem_cons.mp h
    rw [String.intercalate_cons_cons, splitAt_first rfl first, List.map_cons, ih others,
      String.ofList_toList]

end Commas

/-- What changed is one cell, from which its names are read. -/
theorem outcomeCells_eq (o : CategoryOutcome) : ∃ changed,
    Report.outcomeCells o = [o.category.policyName, o.outcome.label, changed] ∧ IsCell changed ∧
      (if changed = "-" then [] else (splitAt ',' changed.toList).map String.ofList)
        = o.outcome.changed.map (·.name) := by
  have named (f : Thresholds.Field) : IsCell f.name ∧ ',' ∉ f.name.toList ∧ f.name ≠ "-" := by
    cases f <;> decide
  unfold Report.outcomeCells
  cases o.outcome.changed with
  | nil => exact ⟨"-", rfl, by decide, rfl⟩
  | cons f fs =>
    have each {P : String → Prop} (h : ∀ f : Thresholds.Field, P f.name) :
        ∀ n ∈ (f :: fs).map (·.name), P n := fun n hn => by
      obtain ⟨f, -, rfl⟩ := List.mem_map.mp hn
      exact h f
    have read : (splitAt ',' (",".intercalate ((f :: fs).map (·.name))).toList).map String.ofList
        = (f :: fs).map (·.name) := splitAt_commas (each fun f => (named f).2.1)
    refine ⟨_, rfl, isCell_commas (each fun f => (named f).1), (if_neg fun dash => ?_).trans read⟩
    -- a lone dash would be the name of what changed
    rw [show ",".intercalate ((f :: fs).map (·.name)) = "-" from dash] at read
    exact (named f).2.2 (List.cons.inj read).1.symm

theorem isCell_outcomeCells (o : CategoryOutcome) :
    ∀ cell ∈ Report.outcomeCells o, IsCell cell := by
  have label (outcome : PolicyOutcome) : IsCell outcome.label := by
    cases outcome with
    | created | unchanged => decide
    | updated fs => exact (by decide : IsCell "updated")
  obtain ⟨changed, cells, isCell, -⟩ := outcomeCells_eq o
  simp only [cells, List.forall_mem_cons]
  exact ⟨isCell_policyName _, label _, isCell, nofun⟩

/-- An outcome is read back from the cells of its row. -/
theorem OutcomeRow.ofCells?_outcomeCells (o : CategoryOutcome) :
    ofCells? (Report.outcomeCells o) = some (ofOutcome o) := by
  obtain ⟨changed, cells, -, read⟩ := outcomeCells_eq o
  rw [cells, ofCells?, read]
  rfl

/-- Outcomes are read back from their table. -/
theorem OutcomeRow.ofTable?_outcomesTable (os : List CategoryOutcome) :
    ofTable? (Report.outcomesTable os) = some (os.map ofOutcome) := by
  have rows : Column.rows (Report.outcomesTable os)
      = ["POLICY", "OUTCOME", "CHANGED"] :: os.map Report.outcomeCells := by
    rw [Report.outcomesTable, rows_line_append rfl (by decide),
      rows_join (fun _ => rfl) fun o _ => isCell_outcomeCells o]
  rw [ofTable?, rows]
  exact mapM_map_eq_some ofCells?_outcomeCells os

/-! ### Reports -/

/-- **The table and the JSON of a report say the same.**  Whatever the settings are, the table of
their plan is read back, line by line at runs of blanks, as the size of the store and the rows as
which its JSON is read: policy, days, sizes, ages and the flag, in the same order.  The table of any
outcomes is read, at runs of blanks and at commas, and with a lone dash for no change, as the rows
as which their JSON is read. -/
theorem reports_agree :
    (∀ s : StorageSettings,
      let p := Plan.ofSettings s
      decode PrintedPlan.layout.reader ((Report.ofPlan p).shown .json) = .ok (.ofPlan p) ∧
        PrintedPlan.ofTable? ((Report.ofPlan p).shown .table) = some (.ofPlan p)) ∧
      ∀ os : List CategoryOutcome,
        let rows := os.map OutcomeRow.ofOutcome
        decode (readList OutcomeRow.layout.reader) ((Report.ofOutcomes os).shown .json) = .ok rows ∧
          OutcomeRow.ofTable? ((Report.ofOutcomes os).shown .table) = some rows :=
  ⟨fun _ =>
      ⟨PrintedPlan.decode_printed _, PrintedPlan.ofTable?_planTable fun _ => isCell_planCells⟩,
    fun os => ⟨OutcomeRow.decode_printed os, OutcomeRow.ofTable?_outcomesTable os⟩⟩

end LogSteward
