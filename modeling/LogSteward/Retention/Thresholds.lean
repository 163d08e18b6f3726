import LogSteward.Retention.Settings

/-!
# Rollover and deletion thresholds

How large and how old an index may grow before it rolls over, and when it is deleted.  An index
rolls over several times within its retention window, so that older segments are closed before
they are removed; it never grows past a fixed size limit, whatever the budget is.
-/

namespace LogSteward

/-- How often an index rolls over within its retention window, and how large it may grow. -/
structure RolloverRule where
  /-- Rollovers in a window; anything below one counts as one. -/
  perWindow : Int64 := 4
  /-- The largest size of an index, in bytes. -/
  sizeLimit : UInt64 := 30 * StorageSettings.gib
deriving DecidableEq

namespace RolloverRule

/-- The number of rollovers in a window, at least one. -/
def divisor (r : RolloverRule) : Int64 :=
  if r.perWindow < 1 then 1 else r.perWindow

/-- The size at which an index rolls over: its share of the budget, spread over the rollovers of a
window, cut to whole bytes and to the size limit.  A share that is negative or not a number counts
as zero. -/
def size (r : RolloverRule) (total : UInt64) (tierShare categoryShare : Float) : UInt64 :=
  let share := total.toFloat * tierShare * categoryShare / r.divisor.toFloat
  min share.toUInt64 r.sizeLimit

/-- The age at which an index rolls over.  A window of no days rolls over hourly, one shorter than
the number of rollovers daily; else the window is divided evenly and the remainder is dropped. -/
def age (r : RolloverRule) (days : Int64) : String :=
  if days ≤ 0 then "1h"
  else if days < r.divisor then "1d"
  else toString (days / r.divisor).toInt ++ "d"

end RolloverRule

/-- A number of days, in the store's notation for ages. -/
def ageText (days : Int64) : String :=
  toString days.toInt ++ "d"

/-- A number of bytes, in the store's notation for sizes. -/
def sizeText (bytes : UInt64) : String :=
  toString bytes.toNat ++ "b"

/-- What decides when the indices of a category roll over, are closed and are deleted. -/
structure Thresholds where
  /-- The size at which an index rolls over. -/
  maxSize : String
  /-- The age at which an index rolls over. -/
  maxAge : String
  /-- The age after rollover at which an index is deleted. -/
  minAge : String
  /-- Whether an index that has rolled over is closed for writing. -/
  readOnly : Bool
deriving DecidableEq

namespace Thresholds

/-- The thresholds of a category that is kept for the given days in a store of the given size. -/
def plan (total : UInt64) (c : Category) (days : Int64) (r : RolloverRule) : Thresholds where
  maxSize := sizeText (r.size total c.tier.share c.fraction)
  maxAge := r.age days
  minAge := ageText days
  readOnly := c.readOnlyAfterRollover

/-- One of the four thresholds. -/
inductive Field where
  | maxAge
  | maxSize
  | minAge
  | readOnly
deriving DecidableEq

namespace Field

/-- The thresholds in the order in which they are reported. -/
def all : List Field := [maxAge, maxSize, minAge, readOnly]

def name : Field → String
  | maxAge => "max_age"
  | maxSize => "max_size"
  | minAge => "min_age"
  | readOnly => "readonly"

end Field

/-- Whether two sets of thresholds differ in a field. -/
def DiffersAt (a b : Thresholds) : Field → Prop
  | .maxAge => a.maxAge ≠ b.maxAge
  | .maxSize => a.maxSize ≠ b.maxSize
  | .minAge => a.minAge ≠ b.minAge
  | .readOnly => a.readOnly ≠ b.readOnly

instance (a b : Thresholds) (f : Field) : Decidable (a.DiffersAt b f) := by
  cases f <;> unfold DiffersAt <;> infer_instance

/-- The fields in which two sets of thresholds differ, in the order age, size, deletion, closing. -/
def differences (a b : Thresholds) : List Field :=
  Field.all.filter (a.DiffersAt b ·)

theorem mem_differences {a b : Thresholds} {f : Field} :
    f ∈ a.differences b ↔ a.DiffersAt b f := by
  cases f <;> simp [differences, Field.all]

/-- Thresholds that differ nowhere are the same. -/
theorem differences_eq_nil_iff {a b : Thresholds} : a.differences b = [] ↔ a = b := by
  cases a; cases b
  simp [differences, Field.all, DiffersAt]
  grind

end Thresholds

end LogSteward
