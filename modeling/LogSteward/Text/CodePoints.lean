/-!
# Sets of code points

A property of characters is given by the ranges of code points that have it.  A code point has the
property if it lies in one of the ranges.
-/

namespace LogSteward

/-- A set of code points: ranges, each with its ends, in rising order. -/
abbrev CodePoints := List (Nat × Nat)

namespace CodePoints

/-- Whether a code point is in a set.  Looking stops at the first range that begins above it. -/
def contains : CodePoints → Nat → Bool
  | [], _ => false
  | (low, high) :: rest, n => if n < low then false else n ≤ high || contains rest n

/-- Only what lies in one of the ranges is in a set. -/
theorem exists_of_contains {s : CodePoints} {n : Nat} (h : s.contains n) :
    ∃ r ∈ s, r.1 ≤ n ∧ n ≤ r.2 := by
  induction s with
  | nil => simp [contains] at h
  | cons r rest ih =>
    obtain ⟨low, high⟩ := r
    simp only [contains] at h
    split at h
    · simp at h
    · next hlow =>
      simp only [Bool.or_eq_true, decide_eq_true_eq] at h
      rcases h with h | h
      · exact ⟨(low, high), by simp, Nat.le_of_not_lt hlow, h⟩
      · obtain ⟨r, hr, hn⟩ := ih h
        exact ⟨r, by simp [hr], hn⟩

end CodePoints

end LogSteward
