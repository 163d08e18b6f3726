/-!
# Pieces of a text

A text falls into pieces at each place where a certain character stands, and the pieces make up the
text again.
-/

namespace LogSteward

/-- The pieces of a text between the places where a character stands. -/
def splitAt (sep : Char) : List Char → List (List Char)
  | [] => [[]]
  | c :: cs =>
    if c = sep then [] :: splitAt sep cs
    else match splitAt sep cs with
      | [] => [[c]]
      | p :: ps => (c :: p) :: ps

/-- Puts pieces together again. -/
def joinWith (sep : Char) : List (List Char) → List Char
  | [] => []
  | [p] => p
  | p :: q :: ps => p ++ sep :: joinWith sep (q :: ps)

theorem splitAt_ne_nil (sep : Char) (cs : List Char) : splitAt sep cs ≠ [] := by
  cases cs with
  | nil => simp [splitAt]
  | cons c cs =>
    simp only [splitAt]
    split
    · simp
    · split <;> simp

/-- Nothing is lost by splitting. -/
theorem joinWith_splitAt (sep : Char) (cs : List Char) : joinWith sep (splitAt sep cs) = cs := by
  induction cs with
  | nil => rfl
  | cons c cs ih =>
    simp only [splitAt]
    split
    · next h =>
      cases hs : splitAt sep cs with
      | nil => exact absurd hs (splitAt_ne_nil sep cs)
      | cons p ps => rw [← ih, hs, joinWith, h, List.nil_append]
    · cases hs : splitAt sep cs with
      | nil => exact absurd hs (splitAt_ne_nil sep cs)
      | cons p ps =>
        rw [hs] at ih
        cases ps with
        | nil => simpa [joinWith] using ih
        | cons q ps => simpa [joinWith] using ih

/-- The pieces on both sides of a separator. -/
theorem splitAt_append (sep : Char) (s t : List Char) :
    splitAt sep (s ++ sep :: t) = splitAt sep s ++ splitAt sep t := by
  induction s with
  | nil => exact if_pos rfl
  | cons c s ih =>
    rw [List.cons_append, splitAt, splitAt, ih]
    split
    · rfl
    · cases pieces : splitAt sep s with
      | nil => exact absurd pieces (splitAt_ne_nil sep s)
      | cons p ps => rfl

theorem splitAt_of_notMem {sep : Char} {s : List Char} (h : sep ∉ s) : splitAt sep s = [s] := by
  induction s with
  | nil => rfl
  | cons c s ih =>
    obtain ⟨first, rest⟩ := List.ne_and_not_mem_of_not_mem_cons h
    rw [splitAt, if_neg (Ne.symm first), ih rest]

section Marks

variable {sep : Char} {mark : String} (alone : mark.toList = [sep])

include alone

/-- Texts with a separator between them fall into pieces on their own. -/
theorem splitAt_between (s t : String) :
    splitAt sep (s ++ mark ++ t).toList = splitAt sep s.toList ++ splitAt sep t.toList := by
  rw [String.append_assoc, String.toList_append, String.toList_append, alone]
  exact splitAt_append sep _ _

/-- A text without separators is the first piece of what begins with it. -/
theorem splitAt_first {s : String} (h : sep ∉ s.toList) (t : String) :
    splitAt sep (s ++ mark ++ t).toList = s.toList :: splitAt sep t.toList := by
  rw [splitAt_between alone, splitAt_of_notMem h, List.singleton_append]

end Marks

end LogSteward
