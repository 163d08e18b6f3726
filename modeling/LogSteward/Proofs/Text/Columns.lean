import LogSteward.Text.Column
import LogSteward.Text.Split

/-!
# Reading columns

A row of cells laid out in columns is read back at its runs of blanks (`Column.isRow_line`), however
wide the cells and the columns are: cells have no blanks of their own and are not empty
(`Column.IsCell`), and there is at least one blank between two of them.  Rows that follow each other
are read line by line (`Column.rows_join`).
-/

namespace LogSteward.Column

/-! ### Words and lines -/

/-- The words of a line: what stands between its runs of blanks. -/
def words (line : String) : List String :=
  ((splitAt ' ' line.toList).filter (· ≠ [])).map String.ofList

/-- The lines of a text, each of which is ended by a line break. -/
def lines (s : String) : List String :=
  (splitAt '\n' s.toList).dropLast.map String.ofList

/-- The words of a text, line by line. -/
def rows (s : String) : List (List String) :=
  (lines s).map words

theorem words_append (s t : String) : words (s ++ " " ++ t) = words s ++ words t := by
  rw [words, splitAt_between rfl, List.filter_append, List.map_append, words, words]

theorem lines_append {s : String} (h : '\n' ∉ s.toList) (t : String) :
    lines (s ++ "\n" ++ t) = s :: lines t := by
  rw [lines, splitAt_first rfl h, List.dropLast_cons_of_ne_nil (splitAt_ne_nil _ _),
    List.map_cons, String.ofList_toList, lines]

/-! ### Cells -/

/-- A text that can be told from what is around it. -/
structure IsCell (s : String) : Prop where
  ne_empty : s ≠ ""
  not_blank : ' ' ∉ s.toList
  not_break : '\n' ∉ s.toList

instance (s : String) : Decidable (IsCell s) :=
  decidable_of_iff (s ≠ "" ∧ ' ' ∉ s.toList ∧ '\n' ∉ s.toList)
    ⟨fun ⟨a, b, c⟩ => ⟨a, b, c⟩, fun ⟨a, b, c⟩ => ⟨a, b, c⟩⟩

/-- Cells that are put next to each other make up a cell. -/
theorem IsCell.append {s t : String} (hs : IsCell s) (ht : IsCell t) : IsCell (s ++ t) where
  ne_empty h := hs.ne_empty (String.append_eq_empty_iff.mp h).1
  not_blank h := by
    rw [String.toList_append] at h
    exact (List.mem_append.mp h).elim hs.not_blank ht.not_blank
  not_break h := by
    rw [String.toList_append] at h
    exact (List.mem_append.mp h).elim hs.not_break ht.not_break

/-- The line has the given cells as its words. -/
structure IsRow (line : String) (cells : List String) : Prop where
  unbroken : '\n' ∉ line.toList
  words_eq : words line = cells

namespace IsRow

theorem cell {s : String} (h : IsCell s) : IsRow s [s] where
  unbroken := h.not_break
  words_eq := by
    have nonempty : s.toList ≠ [] := fun empty => h.ne_empty (String.toList_eq_nil_iff.mp empty)
    rw [words, splitAt_of_notMem h.not_blank, List.filter_cons_of_pos (by simpa using nonempty),
      List.filter_nil, List.map_singleton, String.ofList_toList]

/-- Lines are put next to each other with a blank between them. -/
theorem append {s t : String} {cells cells' : List String} (h : IsRow s cells)
    (h' : IsRow t cells') : IsRow (s ++ " " ++ t) (cells ++ cells') where
  unbroken hm := by
    simp only [String.toList_append, List.mem_append] at hm
    rcases hm with (hm | hm) | hm
    · exact h.unbroken hm
    · exact absurd hm (by decide)
    · exact h'.unbroken hm
  words_eq := by rw [words_append, h.words_eq, h'.words_eq]

theorem blanks (n : Nat) : IsRow (String.ofList (List.replicate n ' ')) [] := by
  induction n with
  | zero => exact ⟨by decide, rfl⟩
  | succ n ih =>
    have first : IsRow "" [] := ⟨by decide, rfl⟩
    have split : String.ofList (List.replicate (n + 1) ' ')
        = "" ++ " " ++ String.ofList (List.replicate n ' ') :=
      String.toList_inj.mp (by simp [List.replicate_succ])
    rw [split]
    exact first.append ih

end IsRow

namespace IsRow

variable {s : String} (h : IsCell s)

include h

/-- Blanks behind a cell do not count. -/
theorem blanks_behind (n : Nat) : IsRow (s ++ String.ofList (List.replicate n ' ')) [s] := by
  cases n with
  | zero =>
    rw [List.replicate_zero, String.ofList_nil, String.append_empty]
    exact cell h
  | succ n =>
    have first : s ++ String.ofList (List.replicate (n + 1) ' ')
        = s ++ " " ++ String.ofList (List.replicate n ' ') :=
      String.toList_inj.mp (by simp [List.replicate_succ])
    rw [first]
    exact (cell h).append (blanks n)

theorem blanks_before (n : Nat) : IsRow (String.ofList (List.replicate n ' ') ++ s) [s] := by
  cases n with
  | zero =>
    rw [List.replicate_zero, String.ofList_nil, String.empty_append]
    exact cell h
  | succ n =>
    have last : String.ofList (List.replicate (n + 1) ' ') ++ s
        = String.ofList (List.replicate n ' ') ++ " " ++ s :=
      String.toList_inj.mp (by simp [List.replicate_succ'])
    rw [last]
    exact (blanks n).append (cell h)

end IsRow

/-- A cell is the only word where it stands in a column. -/
theorem isRow_fit (c : Column) {s : String} (h : IsCell s) : IsRow (c.fit s) [s] := by
  unfold fit
  cases c.side with
  | left => exact .blanks_behind h _
  | right => exact .blanks_before h _

/-! ### Rows -/

/-- **Cells are the words of the line** in which they are laid out. -/
theorem isRow_line {columns : List Column} {cells : List String}
    (each : columns.length = cells.length) (h : ∀ s ∈ cells, IsCell s) :
    IsRow (" ".intercalate (columns.zipWith fit cells)) cells := by
  -- the last cell has no blank behind it, so what is left of the columns decides how to go on
  induction cells generalizing columns with
  | nil =>
    rw [List.zipWith_nil_right, String.intercalate_nil]
    exact ⟨by decide, rfl⟩
  | cons s cells ih =>
    obtain ⟨c, columns, rfl⟩ := List.exists_cons_of_length_eq_add_one each
    obtain ⟨first, others⟩ := List.forall_mem_cons.mp h
    have rest := ih (Nat.succ.inj each) others
    rw [List.zipWith_cons_cons]
    cases fitted : columns.zipWith fit cells with
    | nil =>
      have last : cells = [] := by
        have := congrArg List.length fitted
        rw [List.length_zipWith, Nat.succ.inj each, Nat.min_self] at this
        exact List.eq_nil_of_length_eq_zero this
      rw [last, String.intercalate_singleton]
      exact isRow_fit c first
    | cons t more =>
      rw [String.intercalate_cons_cons, ← fitted]
      exact (isRow_fit c first).append rest

/-- The first line of a table is read as its cells. -/
theorem rows_line_append {columns : List Column} {cells : List String}
    (each : columns.length = cells.length) (h : ∀ s ∈ cells, IsCell s) (t : String) :
    rows (line columns cells ++ t) = cells :: rows t := by
  obtain ⟨unbroken, words_eq⟩ := isRow_line each h
  rw [rows, line, lines_append unbroken, List.map_cons, words_eq]
  rfl

/-- **Rows are read line by line.** -/
theorem rows_join {α : Type} {columns : List Column} {cells : α → List String} {xs : List α}
    (each : ∀ x, columns.length = (cells x).length) (h : ∀ x ∈ xs, ∀ s ∈ cells x, IsCell s) :
    rows (String.join (xs.map fun x => line columns (cells x))) = xs.map cells := by
  induction xs with
  | nil => rfl
  | cons x xs ih =>
    obtain ⟨first, others⟩ := List.forall_mem_cons.mp h
    rw [List.map_cons, String.join_cons, rows_line_append (each x) first, ih others, List.map_cons]

end LogSteward.Column
