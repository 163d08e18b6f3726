/-!
# Hexadecimal digits
-/

namespace LogSteward

/-- The value of a hexadecimal digit. -/
def hexValue? (c : Char) : Option Nat :=
  if '0' ≤ c ∧ c ≤ '9' then some (c.toNat - 0x30)
  else if 'a' ≤ c ∧ c ≤ 'f' then some (c.toNat - 0x61 + 10)
  else if 'A' ≤ c ∧ c ≤ 'F' then some (c.toNat - 0x41 + 10)
  else none

/-- A digit is below sixteen. -/
theorem hexValue?_lt {c : Char} {n : Nat} (h : hexValue? c = some n) : n < 16 := by
  simp only [hexValue?, Char.le_def, UInt32.le_iff_toNat_le] at h
  simp only [Char.toNat] at h
  split at h
  · next hc =>
    have : c.val.toNat ≤ 0x39 := hc.2
    cases h; omega
  · split at h
    · next hc =>
      have : c.val.toNat ≤ 0x66 := hc.2
      cases h; omega
    · split at h
      · next hc =>
        have : c.val.toNat ≤ 0x46 := hc.2
        cases h; omega
      · cases h

end LogSteward
