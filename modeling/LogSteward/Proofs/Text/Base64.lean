import LogSteward.Proofs.Text.Utf8
import LogSteward.Text.Base64

/-!
# Base64 there and back

Each of the sixty-four characters is one octet of text, which stands for the number the character
was written for (`octet`, `value?_octet`).  A group of three octets, or what is left of one at the
end, is read back from the characters written for it, and so are all of them
(`decode?_encode`).
-/

namespace LogSteward.Base64

/-- The octet of text that the character for a number is. -/
def octet (n : Nat) : UInt8 :=
  UInt8.ofNat (digit n).toNat

/-! ### Single characters -/

/-- Each of the sixty-four digits is one octet, is read back, and is not the padding. -/
theorem digit_facts : ∀ n < 64, String.utf8EncodeChar (digit n) = [octet n] ∧
    value? (octet n) = some n ∧ octet n ≠ pad := by
  decide

section Digits

variable {n : Nat} (h : n < 64)

include h

theorem encodeChar_digit : String.utf8EncodeChar (digit n) = [octet n] :=
  (digit_facts n h).1

theorem value?_octet : value? (octet n) = some n :=
  (digit_facts n h).2.1

theorem octet_ne_pad : octet n ≠ pad :=
  (digit_facts n h).2.2

end Digits

/-! ### Groups -/

/-- What characters spell in a group is read from it. -/
theorem three?_octet {i j k l : Nat} (hi : i < 64) (hj : j < 64) (hk : k < 64) (hl : l < 64)
    {a b c : UInt8}
    (spelled : ((i * 64 + j) * 64 + k) * 64 + l
      = a.toNat * 0x10000 + b.toNat * 0x100 + c.toNat) :
    three? (octet i) (octet j) (octet k) (octet l) = some [a, b, c] := by
  have ha := a.toNat_lt
  have hb := b.toNat_lt
  have hc := c.toNat_lt
  simp only [three?, value?_octet hi, value?_octet hj, value?_octet hk, value?_octet hl, spelled,
    Option.bind_eq_bind, Option.bind_some, Option.pure_def]
  rw [show (a.toNat * 0x10000 + b.toNat * 0x100 + c.toNat) / 0x10000 = a.toNat by omega,
    show (a.toNat * 0x10000 + b.toNat * 0x100 + c.toNat) / 0x100 % 256 = b.toNat by omega,
    show (a.toNat * 0x10000 + b.toNat * 0x100 + c.toNat) % 256 = c.toNat by omega]
  simp only [UInt8.ofNat_toNat]

/-- Three digits are read back as two octets. -/
theorem two?_octet {i j k : Nat} (hi : i < 64) (hj : j < 64) (hk : k < 64) {a b : UInt8}
    (spelled : ((i * 64 + j) * 64 + k) * 64 = a.toNat * 0x10000 + b.toNat * 0x100) :
    two? (octet i) (octet j) (octet k) = some [a, b] := by
  have ha := a.toNat_lt
  have hb := b.toNat_lt
  simp only [two?, value?_octet hi, value?_octet hj, value?_octet hk, Option.bind_eq_bind,
    Option.bind_some, Option.pure_def]
  rw [show ((i * 64 + j) * 64 + k) / 1024 = a.toNat by omega,
    show ((i * 64 + j) * 64 + k) / 4 % 256 = b.toNat by omega]
  simp only [UInt8.ofNat_toNat]

/-- Two digits are read back as one octet. -/
theorem one?_octet {i j : Nat} (hi : i < 64) (hj : j < 64) {a : UInt8}
    (spelled : ((i * 64 + j) * 64) * 64 = a.toNat * 0x10000) :
    one? (octet i) (octet j) = some [a] := by
  simp only [one?, value?_octet hi, value?_octet hj, Option.bind_eq_bind, Option.bind_some,
    Option.pure_def]
  rw [show (i * 64 + j) / 16 = a.toNat by omega, UInt8.ofNat_toNat]

/-- A group that is not filled up is read by itself. -/
theorem decode?_group {a b c d : UInt8} (full : d ≠ pad) (rest : Octets) :
    decode? (a :: b :: c :: d :: rest)
      = (three? a b c d).bind fun first => (decode? rest).map (first ++ ·) := by
  cases rest with
  | nil =>
    have read : decode? [a, b, c, d] = three? a b c d := if_pos full
    rw [read]
    cases three? a b c d with
    | none => rfl
    | some first => exact congrArg some (List.append_nil first).symm
  | cons e rest =>
    have read : decode? (a :: b :: c :: d :: e :: rest)
        = (three? a b c d).bind fun first => (decode? (e :: rest)).bind (some <| first ++ ·) := rfl
    rw [read]
    cases three? a b c d with
    | none => rfl
    | some first => cases decode? (e :: rest) <;> rfl

theorem decode?_padded {a b c : UInt8} (h : c ≠ pad) : decode? [a, b, c, pad] = two? a b c :=
  (if_neg (not_not_intro rfl)).trans (if_pos h)

theorem decode?_padded_twice (a b : UInt8) : decode? [a, b, pad, pad] = one? a b :=
  (if_neg (not_not_intro rfl)).trans (if_neg (not_not_intro rfl))

/-- The numbers for which the characters of a group are written. -/
theorem digits_lt {n : Nat} (h : n < 0x1000000) :
    n / 0x40000 < 64 ∧ n / 0x1000 % 64 < 64 ∧ n / 64 % 64 < 64 ∧ n % 64 < 64 := by
  omega

/-! ### Texts -/

/-- **Round trip**: octets are read back from the text that stands for them. -/
theorem decode?_encode (bs : Octets) : decode? (Utf8.encode (encode bs)) = some bs := by
  have padded : String.utf8EncodeChar '=' = [pad] := by decide
  rw [encode, Utf8.encode_ofList]
  -- by the groups that are written, of which the last one may be short
  induction bs using encodeChars.induct with
  | case1 a b c rest ih =>
    have := a.toNat_lt
    have := b.toNat_lt
    have := c.toNat_lt
    have small : a.toNat * 0x10000 + b.toNat * 0x100 + c.toNat < 0x1000000 := by omega
    obtain ⟨h₁, h₂, h₃, h₄⟩ := digits_lt small
    simp only [encodeChars, List.flatMap_cons, encodeChar_digit, h₁, h₂, h₃, h₄, List.cons_append,
      List.nil_append]
    rw [decode?_group (octet_ne_pad h₄),
      three?_octet (a := a) (b := b) (c := c) h₁ h₂ h₃ h₄ (by omega), ih]
    rfl
  | case2 a b =>
    have := a.toNat_lt
    have := b.toNat_lt
    have small : a.toNat * 0x10000 + b.toNat * 0x100 < 0x1000000 := by omega
    obtain ⟨h₁, h₂, h₃, -⟩ := digits_lt small
    simp only [encodeChars, List.flatMap_cons, List.flatMap_nil, encodeChar_digit, h₁, h₂, h₃,
      padded, List.cons_append, List.nil_append]
    rw [decode?_padded (octet_ne_pad h₃), two?_octet (a := a) (b := b) h₁ h₂ h₃ (by omega)]
  | case3 a =>
    have := a.toNat_lt
    have small : a.toNat * 0x10000 < 0x1000000 := by omega
    obtain ⟨h₁, h₂, -, -⟩ := digits_lt small
    simp only [encodeChars, List.flatMap_cons, List.flatMap_nil, encodeChar_digit, h₁, h₂, padded,
      List.cons_append, List.nil_append]
    rw [decode?_padded_twice, one?_octet (a := a) h₁ h₂ (by omega)]
  | case4 => rfl

end LogSteward.Base64
