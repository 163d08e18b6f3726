import Mathlib.Data.List.Basic
import LogSteward.Url.Parse

/-!
# Names below an address

A name of letters, digits and underscores is added to a path as it stands (`below?_words`): no
character of it is dropped or encoded, and it stands for no directory.
-/

namespace LogSteward.Url

/-- Letters, digits and the underscore. -/
def isWordChar (c : Char) : Bool :=
  c.isAlphanum || c == '_'

/-- A name of letters, digits and underscores. -/
def IsWord (s : String) : Prop :=
  s.toList.all isWordChar = true

instance (s : String) : Decidable (IsWord s) :=
  inferInstanceAs (Decidable (s.toList.all isWordChar = true))

theorem IsWord.isWordChar {s : String} (h : IsWord s) {c : Char} (hc : c ∈ s.toList) :
    isWordChar c = true :=
  List.all_eq_true.mp h c hc

theorem lt_of_isWordChar {c : Char} (h : isWordChar c = true) : c.toNat < 0x80 := by
  delta isWordChar Char.isAlphanum Char.isAlpha Char.isUpper Char.isLower Char.isDigit at h
  simp only [Bool.or_eq_true, Bool.and_eq_true, decide_eq_true_eq, beq_iff_eq,
    UInt32.le_iff_toNat_le] at h
  rcases h with ((⟨-, h⟩ | ⟨-, h⟩) | ⟨-, h⟩) | rfl
  · exact Nat.lt_of_le_of_lt h (by decide)
  · exact Nat.lt_of_le_of_lt h (by decide)
  · exact Nat.lt_of_le_of_lt h (by decide)
  · decide

/-- No word character is dropped from a name or encoded in it. -/
theorem isWordChar_facts {c : Char} (h : isWordChar c = true) :
    isDropped c = false ∧ Percent.specialSegment c = false := by
  have ascii : ∀ n < 0x80, isWordChar (Char.ofNat n) = true →
      isDropped (Char.ofNat n) = false ∧ Percent.specialSegment (Char.ofNat n) = false := by
    decide
  have := ascii c.toNat (lt_of_isWordChar h)
  rw [Char.ofNat_toNat] at this
  exact this h

/-- A word is encoded as it stands, as long as nothing special about it is reserved. -/
theorem encode_word {set : Percent.Reserved}
    (hset : ∀ c, Percent.specialSegment c = false → set c = false) {s : String} (h : IsWord s) :
    Percent.encode set s = s := by
  have single : ∀ c ∈ s.toList, Percent.encodeChar set c = [c] := fun c hc =>
    if_pos ⟨lt_of_isWordChar (h.isWordChar hc), hset c (isWordChar_facts (h.isWordChar hc)).2⟩
  rw [Percent.encode, List.flatMap_congr single, List.flatMap_singleton', String.ofList_toList]

theorem cleaned_word {s : String} (h : IsWord s) : cleaned s.toList = s.toList :=
  List.filter_eq_self.mpr fun c hc => by rw [(isWordChar_facts (h.isWordChar hc)).1]; rfl

/-- A name stands for no directory. -/
theorem not_directory_word {s : String} (h : IsWord s) :
    isHere s = false ∧ isAbove s = false := by
  have here : ∀ x ∈ [".", "%2e", "%2E"], ¬ IsWord x := by decide
  have above : ∀ x ∈ ["..", ".%2e", ".%2E", "%2e.", "%2E.", "%2e%2e", "%2e%2E", "%2E%2e", "%2E%2E"],
      ¬ IsWord x := by decide
  refine ⟨?_, ?_⟩
  · by_contra hs
    rw [Bool.not_eq_false, isHere, List.contains_iff_mem] at hs
    exact here s hs h
  · by_contra hs
    rw [Bool.not_eq_false, isAbove, List.contains_iff_mem] at hs
    exact above s hs h

/-- A name is added as it stands, after the root alone in place of its empty segment. -/
theorem pushName_word (common : Bool) (parts : List String) {s : String} (h : IsWord s) :
    pushName common parts s = (if parts = [""] then [] else parts) ++ [s] := by
  have hdot : ¬ (s = "." ∨ s = "..") := by
    rintro (rfl | rfl)
    · exact absurd h (by decide)
    · exact absurd h (by decide)
  -- more is encoded in addresses of common schemes than in others
  have hcode :
      Percent.encode (if common then Percent.specialSegment else Percent.segment) s = s := by
    refine encode_word (fun c hc => ?_) h
    cases common with
    | true => exact hc
    | false =>
        simp only [Percent.specialSegment, Bool.or_eq_false_iff] at hc
        exact hc.1
  obtain ⟨hhere, habove⟩ := not_directory_word h
  have hadd : ∀ path, addSegment path s true = path ++ [s] := fun path => by
    rw [addSegment, habove, hhere]
    rfl
  rw [pushName, if_neg hdot, cleaned_word h, String.ofList_toList]
  simp only [hcode, hadd]
  split <;> rfl

/-- The segments of a path that names are added after: an empty last one is taken for the slash at
its end. -/
def stem (parts : List String) : List String :=
  if dropEmptyLast parts = [""] then [] else dropEmptyLast parts

/-- A path that ends in a name is not the root alone. -/
theorem concat_ne_root (parts : List String) {w : String} (hw : w ≠ "") : parts ++ [w] ≠ [""] := by
  intro e
  rcases List.append_eq_singleton_iff.mp e with ⟨-, e⟩ | ⟨-, e⟩
  · exact hw (List.cons.inj e).1
  · cases e

/-- Words are put behind each other as segments. -/
theorem foldl_pushName_words (common : Bool) {names : List String}
    (h : ∀ n ∈ names, IsWord n ∧ n ≠ "") (parts : List String) {w : String} (hw : w ≠ "") :
    names.foldl (pushName common) (parts ++ [w]) = parts ++ w :: names := by
  induction names generalizing parts w with
  | nil => rfl
  | cons n names ih =>
      obtain ⟨⟨hn, hne⟩, h⟩ := List.forall_mem_cons.mp h
      -- after one name the path is no longer the root alone
      rw [List.foldl_cons, pushName_word common _ hn, if_neg (concat_ne_root parts hw), ih h _ hne]
      simp

/-- **Names of letters, digits and underscores** make up the path below an address as they
stand. -/
theorem below?_words {u : Url} {parts : List String} (hu : u.path = .segments parts) {n : String}
    {names : List String} (hn : IsWord n ∧ n ≠ "") (h : ∀ n ∈ names, IsWord n ∧ n ≠ "") :
    u.below? (n :: names) = some { u with path := .segments (stem parts ++ n :: names) } := by
  rw [below?, hu]
  simp only [List.foldl_cons, pushName_word _ _ hn.1, foldl_pushName_words _ h _ hn.2]
  rfl

end LogSteward.Url
