import Mathlib.Data.List.Basic
import LogSteward.Connection.FileTree

/-!
# Paths as texts

A path falls into parts at its slashes, and to put a relative path below another one is to put its
parts after the other's (`parts_join`).  In which order several paths are put together does not
matter (`join_assoc`).
-/

namespace LogSteward.FileTree

/-! ### Slashes at the ends -/

theorem startsWith_slash_iff {s : String} :
    s.startsWith "/" = true ↔ s.toList.head? = some '/' := by
  rw [String.startsWith_string_iff]
  exact List.singleton_prefix_iff_head?_eq_some

theorem endsWith_slash_iff {s : String} :
    s.endsWith "/" = true ↔ s.toList.getLast? = some '/' := by
  have suffix : s.endsWith "/" = true ↔ ['/'] <:+ s.toList := by
    simpa using @String.Slice.endsWith_string_iff "/" s.toSlice
  exact suffix.trans List.singleton_suffix_iff_getLast?_eq_some

theorem startsWith_append {path : String} (nonempty : path ≠ "") (below : String) :
    (path ++ below).startsWith "/" = path.startsWith "/" := by
  rw [Bool.eq_iff_iff, startsWith_slash_iff, startsWith_slash_iff, String.toList_append,
    List.head?_append_of_ne_nil _ (mt String.toList_eq_nil_iff.mp nonempty)]

theorem endsWith_append (before : String) {path : String} (nonempty : path ≠ "") :
    (before ++ path).endsWith "/" = path.endsWith "/" := by
  rw [Bool.eq_iff_iff, endsWith_slash_iff, endsWith_slash_iff, String.toList_append,
    List.getLast?_append_of_ne_nil _ (mt String.toList_eq_nil_iff.mp nonempty)]

/-- A path that ends in a slash. -/
theorem exists_closed {path : String} (closed : path.endsWith "/" = true) :
    ∃ before, path = before ++ "/" := by
  obtain ⟨before, h⟩ := List.getLast?_eq_some_iff.mp (endsWith_slash_iff.mp closed)
  exact ⟨.ofList before, by rw [← String.toList_inj, h]; simp⟩

/-- A name that begins with no slash leads below. -/
theorem not_startsWith_of_notMem {name : String} (plain : '/' ∉ name.toList) :
    ¬ name.startsWith "/" = true := by
  rw [startsWith_slash_iff]
  exact fun first => plain (List.mem_of_head? first)

/-! ### Putting paths together -/

/-- The slash after a path that does not end in one. -/
def separator (path : String) : String :=
  if path.endsWith "/" then "" else "/"

/-- An absolute path stands for itself, and so does any path below nothing. -/
theorem join_of_absolute {path below : String} (h : path = "" ∨ below.startsWith "/" = true) :
    join path below = below :=
  if_pos h

/-- A relative path is put behind the other one, with one slash between them. -/
theorem join_of_relative {path below : String} (h : ¬ (path = "" ∨ below.startsWith "/" = true)) :
    join path below = path ++ separator path ++ below := by
  rw [join, if_neg h, separator]
  split
  · rw [String.append_empty]
  · rfl

theorem append_separator_endsWith (path : String) :
    (path ++ separator path).endsWith "/" = true := by
  rw [separator]
  split
  · next closed => rwa [String.append_empty]
  · rw [endsWith_append path (by decide)]
    exact endsWith_slash_iff.mpr rfl

/-- What is put behind a path is put behind it wherever it is seen from. -/
theorem join_append (directory : String) {path : String} (nonempty : path ≠ "") (more : String) :
    join directory (path ++ more) = join directory path ++ more := by
  have same := startsWith_append nonempty more
  by_cases top : directory = "" ∨ path.startsWith "/" = true
  · rw [join_of_absolute top, join_of_absolute (same ▸ top)]
  · rw [join_of_relative top, join_of_relative (same ▸ top)]
    simp only [String.append_assoc]

/-- What is put below another path still ends in the same way. -/
theorem separator_join (directory : String) {path : String} (nonempty : path ≠ "") :
    join directory path ≠ "" ∧ separator (join directory path) = separator path := by
  by_cases top : directory = "" ∨ path.startsWith "/" = true
  · rw [join_of_absolute top]
    exact ⟨nonempty, rfl⟩
  · have same := endsWith_append (directory ++ separator directory) nonempty
    rw [join_of_relative top]
    exact ⟨by simp [nonempty], by rw [separator, same, separator]⟩

/-- A name is put directly after a slash. -/
theorem join_of_closed {path name : String} (closed : path.endsWith "/" = true)
    (plain : '/' ∉ name.toList) : join path name = path ++ name := by
  have nonempty : path ≠ "" := by
    rintro rfl
    cases endsWith_slash_iff.mp closed
  have relative : ¬ (path = "" ∨ name.startsWith "/" = true) :=
    not_or.mpr ⟨nonempty, not_startsWith_of_notMem plain⟩
  rw [join_of_relative relative, separator, if_pos closed, String.append_empty]

/-- A slash is added where there is none. -/
theorem join_of_open {path name : String} (nonempty : path ≠ "")
    (notClosed : ¬ path.endsWith "/" = true) (plain : '/' ∉ name.toList) :
    join path name = path ++ "/" ++ name := by
  have relative : ¬ (path = "" ∨ name.startsWith "/" = true) :=
    not_or.mpr ⟨nonempty, not_startsWith_of_notMem plain⟩
  rw [join_of_relative relative, separator, if_neg notClosed]

/-- It does not matter in which order paths are put together. -/
theorem join_assoc (root path : String) {name : String} (plain : '/' ∉ name.toList) :
    join (join root path) name = join root (join path name) := by
  have named {p : String} (nonempty : p ≠ "") : join p name = p ++ separator p ++ name :=
    join_of_relative (not_or.mpr ⟨nonempty, not_startsWith_of_notMem plain⟩)
  by_cases blank : path = ""
  · subst blank
    rw [join_of_absolute (.inl rfl : "" = "" ∨ _)]
    by_cases top : root = ""
    · subst top
      rfl
    · -- the root gets a slash at its end, and no second one
      have closed : separator (root ++ separator root) = "" :=
        if_pos (append_separator_endsWith root)
      have relative : ¬ (root = "" ∨ "".startsWith "/" = true) :=
        not_or.mpr ⟨top, not_startsWith_of_notMem (by decide)⟩
      rw [join_of_relative relative, String.append_empty, named (by simp [top]), closed,
        String.append_empty, named top]
  · obtain ⟨nonempty, same⟩ := separator_join root blank
    rw [named nonempty, same, named blank, String.append_assoc, String.append_assoc,
      join_append root blank]

/-! ### Parts -/

/-- The parts of two paths with a slash between them are those of both. -/
theorem parts_append (path below : String) :
    parts (path ++ "/" ++ below) = parts path ++ parts below := by
  rw [parts, splitAt_between rfl, List.map_append, parts, parts]

theorem parts_of_notMem {name : String} (plain : '/' ∉ name.toList) : parts name = [name] := by
  rw [parts, splitAt_of_notMem plain, List.map_singleton, String.ofList_toList]

/-- One more name is one more part, in place of the empty one after a slash at the end. -/
theorem parts_join (path : String) :
    ∃ before, (parts path = before ∨ parts path = before ++ [""]) ∧
      ∀ name, '/' ∉ name.toList → parts (join path name) = before ++ [name] := by
  by_cases blank : path = ""
  · refine ⟨[], .inr (by subst blank; rfl), fun name plain => ?_⟩
    rw [join_of_absolute (.inl blank), parts_of_notMem plain, List.nil_append]
  by_cases closed : path.endsWith "/" = true
  · obtain ⟨before, rfl⟩ := exists_closed closed
    have split := parts_append before ""
    rw [String.append_empty] at split
    refine ⟨parts before, .inr split, fun name plain => ?_⟩
    rw [join_of_closed closed plain, parts_append, parts_of_notMem plain]
  · refine ⟨parts path, .inl rfl, fun name plain => ?_⟩
    rw [join_of_open blank closed plain, parts_append, parts_of_notMem plain]

end LogSteward.FileTree
