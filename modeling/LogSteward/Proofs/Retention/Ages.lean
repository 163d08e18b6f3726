import Std.Data.String.ToNat
import LogSteward.Proofs.Retention.Rewriting

/-!
# What the planned thresholds say

Sizes and ages are texts in the store's notation.  This module reads ages back (`ageHours?`) and
says what is planned in terms of numbers: the size never passes the limit, the age of deletion tells
the days, and the age of rollover is an hour, a day or an even part of the window
(`RolloverRule.age_eq`, `RolloverRule.partDays_bounds`).

The three regimes of the age of rollover join: read as a number of hours, it never shrinks as the
window grows, and never grows with the number of rollovers (`RolloverRule.hours_mono`,
`RolloverRule.hours_anti`).
-/

namespace LogSteward

/-! ### Ages as numbers -/

/-- The hours that an age amounts to, which is a number of hours or of days. -/
def ageHours? (age : String) : Option Nat :=
  match age.toList.reverse with
  | 'h' :: figures => (String.ofList figures.reverse).toNat?
  | 'd' :: figures => (String.ofList figures.reverse).toNat?.map (24 * ·)
  | _ => none

theorem ageHours?_hours (n : Nat) : ageHours? (toString n ++ "h") = some n := by
  have text : (toString n ++ "h").toList.reverse = 'h' :: (toString n).toList.reverse := by simp
  rw [ageHours?, text]
  simp only [List.reverse_reverse, String.ofList_toList]
  exact Nat.toNat?_repr n

theorem ageHours?_days (n : Nat) : ageHours? (toString n ++ "d") = some (24 * n) := by
  have text : (toString n ++ "d").toList.reverse = 'd' :: (toString n).toList.reverse := by simp
  have read : (toString n).toNat? = some n := Nat.toNat?_repr n
  rw [ageHours?, text]
  simp only [List.reverse_reverse, String.ofList_toList, read, Option.map_some]

namespace RolloverRule

variable (r : RolloverRule) (days : Int64)

/-! ### The number of rollovers -/

/-- A window is divided by what the rule says, but at least by one. -/
theorem divisor_toInt : r.divisor.toInt = max r.perWindow.toInt 1 := by
  have one : r.perWindow < 1 ↔ r.perWindow.toInt < 1 := Int64.lt_iff_toInt_lt
  simp only [divisor, one]
  split
  · rw [Int64.toInt_one]
    omega
  · omega

/-- There is no division by zero. -/
theorem divisor_pos : 1 ≤ r.divisor.toInt := by
  rw [divisor_toInt]
  exact Int.le_max_right _ _

theorem divisor_mono {r r' : RolloverRule} (h : r.perWindow ≤ r'.perWindow) :
    r.divisor.toInt ≤ r'.divisor.toInt := by
  have := Int64.le_iff_toInt_le.mp h
  rw [divisor_toInt, divisor_toInt]
  omega

/-- A window can be divided by the number of rollovers, and that is a division of whole numbers. -/
theorem divisible : r.divisor ≠ 0 ∧ r.divisor ≠ -1 ∧
    (days / r.divisor).toInt = days.toInt.tdiv r.divisor.toInt := by
  have pos := r.divisor_pos
  have zero : r.divisor ≠ 0 := fun h => absurd (h ▸ pos) (by decide)
  have negative : r.divisor ≠ -1 := fun h => absurd (h ▸ pos) (by decide)
  exact ⟨zero, negative, Int64.toInt_div_of_ne_right _ _ negative⟩

/-! ### The age of rollover -/

/-- The days after which an index rolls over, if its window is a day or longer. -/
def partDays : Nat :=
  (max 1 (days.toInt / r.divisor.toInt)).toNat

/-- The age of a rollover: an hour where there is no retention, and else whole days. -/
theorem age_eq :
    r.age days = if days.toInt ≤ 0 then "1h" else toString (r.partDays days) ++ "d" := by
  have pos := r.divisor_pos
  have zero : days ≤ 0 ↔ days.toInt ≤ 0 := Int64.le_iff_toInt_le
  have below : days < r.divisor ↔ days.toInt < r.divisor.toInt := Int64.lt_iff_toInt_lt
  simp only [age, zero, below, partDays]
  split
  · rfl
  split
  · next positive short =>
      -- a window shorter than the number of rollovers has less than a day for each
      rw [Int.ediv_eq_zero_of_lt (by omega) short]
      rfl
  · next positive long =>
      have one : 1 ≤ days.toInt / r.divisor.toInt :=
        (Int.le_ediv_iff_mul_le (by omega)).mpr (by omega)
      obtain ⟨n, hn⟩ := Int.eq_ofNat_of_zero_le (by omega : 0 ≤ days.toInt / r.divisor.toInt)
      rw [(r.divisible days).2.2, Int.tdiv_eq_ediv_of_nonneg (by omega), Int.max_eq_right one, hn]
      rfl

/-- The days are an even part of the window, as far as that has a day for each rollover. -/
theorem partDays_bounds (h : 0 < days.toInt) :
    1 ≤ r.partDays days ∧ (r.partDays days : Int) ≤ days.toInt ∧
      days.toInt < (r.partDays days + 1) * r.divisor.toInt ∧
      (r.divisor.toInt ≤ days.toInt → r.partDays days * r.divisor.toInt ≤ days.toInt) := by
  have pos := r.divisor_pos
  have exact : (r.partDays days : Int) = max 1 (days.toInt / r.divisor.toInt) := by
    rw [partDays]
    omega
  have part : days.toInt / r.divisor.toInt ≤ days.toInt := Int.ediv_le_self _ (by omega)
  refine ⟨by omega, by omega, ?_, fun long => ?_⟩
  · calc days.toInt
        < (days.toInt / r.divisor.toInt + 1) * r.divisor.toInt :=
          Int.lt_ediv_add_one_mul_self _ (by omega)
      _ ≤ (r.partDays days + 1) * r.divisor.toInt :=
          Int.mul_le_mul_of_nonneg_right (by omega) (by omega)
  · have one : 1 ≤ days.toInt / r.divisor.toInt :=
      (Int.le_ediv_iff_mul_le (by omega)).mpr (by omega)
    rw [exact, Int.max_eq_right one]
    exact Int.ediv_mul_le _ (by omega)

/-- The hours after which an index rolls over. -/
def hours : Nat :=
  if days.toInt ≤ 0 then 1 else 24 * r.partDays days

/-- The age of a rollover is read back as its hours. -/
theorem ageHours?_age : ageHours? (r.age days) = some (r.hours days) := by
  rw [age_eq, hours]
  split
  · exact ageHours?_hours 1
  · exact ageHours?_days _

/-- A rollover is never due at once. -/
theorem hours_pos : 1 ≤ r.hours days := by
  rw [hours]
  split
  · exact Nat.le_refl 1
  · have := (r.partDays_bounds days (by omega)).1
    omega

/-- In a longer window an index does not roll over earlier. -/
theorem hours_mono {days days' : Int64} (h : days ≤ days') : r.hours days ≤ r.hours days' := by
  have le := Int64.le_iff_toInt_le.mp h
  by_cases short : days.toInt ≤ 0
  · rw [hours, if_pos short]
    exact r.hours_pos days'
  · have parts : days.toInt / r.divisor.toInt ≤ days'.toInt / r.divisor.toInt :=
      Int.ediv_le_ediv (by have := r.divisor_pos; omega) le
    rw [hours, hours, if_neg short, if_neg (by omega), partDays, partDays]
    omega

/-- With more rollovers in a window an index does not roll over later. -/
theorem hours_anti {r r' : RolloverRule} (h : r.perWindow ≤ r'.perWindow) :
    r'.hours days ≤ r.hours days := by
  have le := divisor_mono h
  by_cases short : days.toInt ≤ 0
  · have same : r'.hours days = r.hours days := by
      rw [hours, hours, if_pos short, if_pos short]
    exact Nat.le_of_eq same
  · have pos := r.divisor_pos
    have some_left : 0 ≤ days.toInt / r'.divisor.toInt := Int.ediv_nonneg (by omega) (by omega)
    have parts : days.toInt / r'.divisor.toInt ≤ days.toInt / r.divisor.toInt := by
      refine (Int.le_ediv_iff_mul_le (by omega)).mpr ?_
      calc days.toInt / r'.divisor.toInt * r.divisor.toInt
          ≤ days.toInt / r'.divisor.toInt * r'.divisor.toInt :=
            Int.mul_le_mul_of_nonneg_left le some_left
        _ ≤ days.toInt := Int.ediv_mul_le _ (by omega)
    rw [hours, hours, if_neg short, if_neg short, partDays, partDays]
    omega

/-! ### The size of rollover -/

/-- Whatever the share comes to, an index does not grow past the limit. -/
theorem size_le (total : UInt64) (tierShare categoryShare : Float) :
    r.size total tierShare categoryShare ≤ r.sizeLimit := by
  simp only [size, Min.min]
  split
  · next h => exact h
  · exact UInt64.le_refl _

end RolloverRule

/-! ### The plan -/

/-- **Planned thresholds are well formed and consistent**, for every window and every rule, also one
with no rollovers or a negative number of them. -/
theorem thresholds_consistent (total : UInt64) (c : Category) (days : Int64) (r : RolloverRule) :
    let t := Thresholds.plan total c days r
    let rollovers : Int := max r.perWindow.toInt 1
    -- the one division that is made is that of whole numbers
    (r.divisor.toInt = rollovers ∧ r.divisor ≠ 0 ∧ r.divisor ≠ -1 ∧
        (days / r.divisor).toInt = days.toInt.tdiv rollovers) ∧
      (∃ n : Nat, n ≤ r.sizeLimit.toNat ∧ t.maxSize = toString n ++ "b") ∧
      (∀ tierShare categoryShare, r.size total tierShare categoryShare ≤ r.sizeLimit) ∧
      t.minAge = toString days.toInt ++ "d" ∧
      (∀ total' c' days' r', (Thresholds.plan total' c' days' r').minAge = t.minAge →
        days' = days) ∧
      (t.maxAge = "1h" ↔ days.toInt ≤ 0) ∧
      (0 < days.toInt → ∃ n : Nat, t.maxAge = toString n ++ "d" ∧ 1 ≤ n ∧ n ≤ days.toInt ∧
        days.toInt < (n + 1) * rollovers ∧ (rollovers ≤ days.toInt → n * rollovers ≤ days.toInt)) ∧
      ∃ hours, ageHours? t.maxAge = some hours ∧ 1 ≤ hours ∧
        (∀ total' c' days', days ≤ days' → ∃ hours',
          ageHours? (Thresholds.plan total' c' days' r).maxAge = some hours' ∧ hours ≤ hours') ∧
        ∀ total' c' r', r.perWindow ≤ r'.perWindow → ∃ hours',
          ageHours? (Thresholds.plan total' c' days r').maxAge = some hours' ∧ hours' ≤ hours := by
  intro t rollovers
  have divisor : r.divisor.toInt = rollovers := r.divisor_toInt
  have age : t.maxAge = if days.toInt ≤ 0 then "1h" else toString (r.partDays days) ++ "d" :=
    r.age_eq days
  refine ⟨⟨divisor, divisor ▸ r.divisible days⟩,
    ⟨_, UInt64.le_iff_toNat_le.mp (r.size_le total c.tier.share c.fraction), rfl⟩,
    r.size_le total, rfl, fun _ _ _ _ h => ageText_injective h, ?_, fun positive => ?_,
    r.hours days, r.ageHours?_age days, r.hours_pos days,
    fun _ _ days' h => ⟨_, r.ageHours?_age days', r.hours_mono h⟩,
    fun _ _ r' h => ⟨_, r'.ageHours?_age days, RolloverRule.hours_anti days h⟩⟩
  · rw [age]
    split
    · next h => exact iff_of_true rfl h
    · next h =>
        -- an age in days is read as a multiple of 24 hours
        refine iff_of_false (fun same => ?_) h
        have := congrArg ageHours? same
        rw [ageHours?_days, show ageHours? "1h" = some 1 from ageHours?_hours 1] at this
        have := Option.some.inj this
        omega
  · rw [age, if_neg (by omega)]
    exact ⟨_, rfl, divisor ▸ r.partDays_bounds days positive⟩

end LogSteward
