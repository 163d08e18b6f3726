import LogSteward.Proofs.Json.Grammar
import LogSteward.Proofs.Text.Utf8

/-!
# Whole numbers

A whole number that fits in 64 bits, signed or not, is read from its decimal digits
(`reads_integer`).  The digits have no leading zero, they end where no octet goes on with the
number, and the number they spell is the one that was written.
-/

namespace LogSteward.Json

/-! ### Decimal digits -/

/-- The octets of a natural number in decimal. -/
def decimal (n : Nat) : Octets :=
  (Nat.toDigits 10 n).map fun c => UInt8.ofNat c.toNat

/-- The values of the decimal digits of a natural number. -/
def figures (n : Nat) : List Nat :=
  (Nat.toDigits 10 n).map fun c => c.toNat - 0x30

theorem toNat_of_mem_toDigits {n : Nat} {c : Char} (h : c ∈ Nat.toDigits 10 n) :
    0x30 ≤ c.toNat ∧ c.toNat ≤ 0x39 := by
  have := Nat.isDigit_of_mem_toDigits (by decide) (Nat.le_refl 10) h
  simpa [Char.isDigit, UInt32.le_iff_toNat_le] using this

theorem encode_toString (n : Nat) : Utf8.encode (toString n) = decimal n := by
  have single : ∀ c ∈ Nat.toDigits 10 n, String.utf8EncodeChar c = [UInt8.ofNat c.toNat] :=
    fun c hc => if_pos (Nat.le_trans (toNat_of_mem_toDigits hc).2 (by decide))
  rw [Nat.toString_eq_ofList_toDigits, Utf8.encode_ofList, List.flatMap_congr single, decimal,
    List.map_eq_flatMap]

theorem isDigit_of_mem_decimal {n : Nat} {b : UInt8} (h : b ∈ decimal n) :
    Octet.isDigit b = true := by
  obtain ⟨c, hc, rfl⟩ := List.mem_map.mp h
  obtain ⟨hl, hh⟩ := toNat_of_mem_toDigits hc
  simp only [Octet.isDigit, Bool.and_eq_true, decide_eq_true_eq, UInt8.le_iff_toNat_le,
    Utf8.toNat_ofNat (n := c.toNat) (by omega), UInt8.reduceToNat]
  exact ⟨hl, hh⟩

theorem decimal_ne_nil (n : Nat) : decimal n ≠ [] := by
  simp [decimal, Nat.toDigits_ne_nil]

theorem map_toNat_decimal (n : Nat) : (decimal n).map (fun b => b.toNat - 0x30) = figures n := by
  rw [decimal, figures, List.map_map]
  refine List.map_congr_left fun c hc => ?_
  have := (toNat_of_mem_toDigits hc).2
  rw [Function.comp_apply, Utf8.toNat_ofNat (by omega)]

/-- A number is made up of its figures. -/
theorem ofDigits_figures (n : Nat) : Numeral.ofDigits (figures n) = n := by
  have h : Nat.ofDigitChars 10 (Nat.toDigits 10 n) 0 = n := Nat.ofDigitChars_ten_toDigits
  rw [Nat.ofDigitChars_eq_foldl] at h
  have zero : '0'.toNat = 0x30 := rfl
  rw [Numeral.ofDigits, figures, List.foldl_map]
  simpa only [zero, Nat.mul_comm 10] using h

/-- A number other than zero is not written with a leading zero. -/
theorem head?_toDigits_ne {n : Nat} (h : 0 < n) : (Nat.toDigits 10 n).head? ≠ some '0' := by
  -- the first digit of `n` is that of `n / 10`, until a single one is left
  induction n using Nat.strongRecOn with
  | ind n ih =>
      by_cases hn : n < 10
      · rw [Nat.toDigits_of_lt_base hn]
        match n, hn with
        | 1, _ | 2, _ | 3, _ | 4, _ | 5, _ | 6, _ | 7, _ | 8, _ | 9, _ => decide
      · rw [Nat.toDigits_of_base_le (by decide) (Nat.le_of_not_lt hn),
          List.head?_append_of_ne_nil _ Nat.toDigits_ne_nil]
        exact ih (n / 10) (by omega) (by omega)

/-- A leading zero stands alone. -/
theorem figures_ne_zero_cons (n d : Nat) (ds : List Nat) : figures n ≠ 0 :: d :: ds := by
  intro h
  -- zero is one digit long, and the first digit of any other number is not a zero
  rcases Nat.eq_zero_or_pos n with rfl | hn
  · exact absurd h (by rw [figures, Nat.toDigits_zero]; simp)
  · rw [figures] at h
    obtain ⟨c, cs, hc, h0, -⟩ := List.map_eq_cons_iff.mp h
    obtain ⟨hl, -⟩ := toNat_of_mem_toDigits (n := n) (c := c) (by simp [hc])
    have : c = '0' := Char.toNat_inj.mp (by show c.toNat = 0x30; omega)
    exact head?_toDigits_ne hn (by rw [hc, this]; rfl)

/-! ### Reading -/

theorem not_isDigit_of_ends {rest : Octets} (h : Ends rest) :
    ∀ b ∈ rest.head?, Octet.isDigit b = false := fun b hb => by
  have := h b hb
  simp only [Octet.isFigure, Bool.or_eq_false_iff] at this
  exact this.1.1

/-- The digits of a number are taken to its end. -/
theorem takeDigits_decimal (n : Nat) {rest : Octets} (h : Ends rest) :
    takeDigits (decimal n ++ rest) = (figures n, rest) := by
  have hd : ∀ b ∈ decimal n, Octet.isDigit b = true := fun b hb => isDigit_of_mem_decimal hb
  have ht : rest.takeWhile Octet.isDigit = [] ∧ rest.dropWhile Octet.isDigit = rest := by
    cases rest with
    | nil => exact ⟨rfl, rfl⟩
    | cons b rest => simp [not_isDigit_of_ends h b rfl]
  rw [takeDigits, List.takeWhile_append_of_pos hd, List.dropWhile_append_of_pos hd, ht.1, ht.2,
    List.append_nil, map_toNat_decimal]

theorem readWhole_decimal (n : Nat) {rest : Octets} (h : Ends rest) :
    readWhole (decimal n ++ rest) = .ok (figures n, rest) := by
  have hd : readDigits (decimal n ++ rest) = .ok (figures n, rest) := by
    rw [readDigits, takeDigits_decimal n h]
    split
    · next he => exact absurd he (by simp [figures, Nat.toDigits_ne_nil])
    · next he => exact absurd he (by simp [figures, Nat.toDigits_ne_nil])
    · next he => rw [← (Prod.mk.inj he).1, ← (Prod.mk.inj he).2]
  rw [readWhole, hd]
  split
  · next he => cases he
  · next he =>
      rw [Except.ok.injEq, Prod.mk.injEq] at he
      exact absurd he.1 (figures_ne_zero_cons n _ _)
  · next he => exact he.symm

theorem readFraction_of_ends {rest : Octets} (h : Ends rest) :
    readFraction rest = .ok (none, rest) := by
  cases rest with
  | nil => rfl
  | cons b rest =>
      have := h b rfl
      simp only [Octet.isFigure, Bool.or_eq_false_iff, beq_eq_false_iff_ne] at this
      exact if_neg this.1.2

theorem readExponent_of_ends {rest : Octets} (h : Ends rest) :
    readExponent rest = .ok (none, rest) := by
  cases rest with
  | nil => rfl
  | cons b rest =>
      have := h b rfl
      simp only [Octet.isFigure, Bool.or_eq_false_iff] at this
      exact if_neg (by rw [this.2]; exact Bool.false_ne_true)

/-- A numeral that is written as a whole number. -/
def Numeral.ofWhole (negative : Bool) (n : Nat) : Numeral where
  negative := negative
  whole := figures n
  fraction := none
  exponent := none

theorem Numeral.whole?_ofWhole {n : Nat} (h : n < 0x10000000000000000) :
    (ofWhole false n).whole? = some (n : Int) := by
  simp only [whole?, ofWhole, ofDigits_figures, Bool.false_eq_true, if_false]
  exact if_pos h

theorem Numeral.whole?_ofWhole_negative {n : Nat} (h : 0 < n) (h' : n ≤ 0x8000000000000000) :
    (ofWhole true n).whole? = some (-(n : Int)) := by
  simp only [whole?, ofWhole, ofDigits_figures, if_true]
  exact if_pos ⟨h, h'⟩

theorem Numeral.overflows_of_whole? {n : Numeral} {i : Int} (h : n.whole? = some i) :
    n.overflows = false := by
  simp [overflows, h]

/-- The first octet of a natural number. -/
theorem exists_decimal_eq_cons (n : Nat) :
    ∃ b ds, decimal n = b :: ds ∧ Octet.isDigit b = true := by
  obtain ⟨b, ds, hd⟩ := List.exists_cons_of_ne_nil (decimal_ne_nil n)
  exact ⟨b, ds, hd, isDigit_of_mem_decimal (n := n) (by simp [hd])⟩

/-- A number below the limit is read from its digits. -/
theorem readNumeral_decimal {n : Nat} (h : n < 0x10000000000000000) {rest : Octets}
    (he : Ends rest) :
    readNumeral (decimal n ++ rest) = .ok (.ofWhole false n, rest) := by
  obtain ⟨b, ds, hd, hb⟩ := exists_decimal_eq_cons n
  have unsigned : ∀ s, decimal n ++ rest ≠ Octet.minus :: s := fun s hs => by
    rw [hd, List.cons_append, List.cons.injEq] at hs
    exact Octet.ne_of_isDigit hb rfl hs.1
  have fits := Numeral.overflows_of_whole? (Numeral.whole?_ofWhole h)
  rw [readNumeral]
  · simp only [readWhole_decimal n he, readFraction_of_ends he, readExponent_of_ends he]
    exact if_neg (ne_true_of_eq_false fits)
  · exact unsigned

/-- A negative number above the limit is read from its digits. -/
theorem readNumeral_minus_decimal {n : Nat} (h : 0 < n) (h' : n ≤ 0x8000000000000000)
    {rest : Octets} (he : Ends rest) :
    readNumeral (Octet.minus :: (decimal n ++ rest)) = .ok (.ofWhole true n, rest) := by
  have fits := Numeral.overflows_of_whole? (Numeral.whole?_ofWhole_negative h h')
  refine (readNumeral.eq_1 _).trans ?_
  simp only [readWhole_decimal n he, readFraction_of_ends he, readExponent_of_ends he]
  exact if_neg (ne_true_of_eq_false fits)

/-- **Whole numbers** that fit in 64 bits are read from their decimal digits. -/
theorem reads_integer {convert? : Int → Option α} {toInt : α → Int}
    (convert : ∀ a, convert? (toInt a) = some a)
    (bounds : ∀ a, -0x8000000000000000 ≤ toInt a ∧ toInt a < 0x10000000000000000) :
    Reads (readInteger convert?) (integerForm toInt) where
  blanks s := by simp [readInteger]
  complete := by
    rintro a t rest ht he
    have hc := convert a
    obtain ⟨hl, hh⟩ := bounds a
    unfold integerForm at ht
    generalize toInt a = i at ht hc hl hh
    subst ht
    cases i with
    | ofNat n =>
        have hn : n < 0x10000000000000000 := by
          have : (n : Int) < 0x10000000000000000 := hh
          omega
        obtain ⟨b, ds, hd, hb⟩ := exists_decimal_eq_cons n
        have hw := Octet.isBlank_of_isDigit hb
        have text : Utf8.encode (toString (Int.ofNat n)) = decimal n := encode_toString n
        rw [text, readInteger, hd, List.cons_append, skipBlanks_cons hw]
        simp only [← List.cons_append, ← hd, readNumeral_decimal hn he]
        rw [if_pos (.inr hb), Numeral.whole?_ofWhole hn]
        simp only [Option.bind_some]
        rw [show convert? (n : Int) = some a from hc]
    | negSucc n =>
        have hn : n + 1 ≤ 0x8000000000000000 := by omega
        have text : Utf8.encode (toString (Int.negSucc n)) = Octet.minus :: decimal (n + 1) := by
          rw [← encode_toString]
          exact Utf8.encode_append "-" (toString (n + 1))
        rw [text, readInteger, List.cons_append, skipBlanks_cons rfl]
        simp only [readNumeral_minus_decimal (Nat.succ_pos n) hn he]
        rw [if_pos (.inl trivial), Numeral.whole?_ofWhole_negative (Nat.succ_pos n) hn]
        simp only [Option.bind_some]
        rw [show convert? (-((n + 1 : Nat) : Int)) = some a from hc]

theorem reads_uint32 : Reads (readInteger uint32?) (integerForm fun n => n.toNat) :=
  reads_integer
    (fun n => by
      have := n.toNat_lt
      rw [uint32?, if_pos (by omega)]
      simp)
    fun n => by
      have := n.toNat_lt
      omega

theorem uint64?_toNat (n : UInt64) : uint64? n.toNat = some n := by
  have := n.toNat_lt
  rw [uint64?, if_pos (by omega)]
  simp

theorem int64?_toInt (n : Int64) : int64? n.toInt = some n := by
  have hl := n.le_toInt
  have hh := n.toInt_lt
  rw [int64?, if_pos (by omega), Int64.ofInt_toInt]

theorem reads_uint64 : Reads (readInteger uint64?) (integerForm fun n => n.toNat) :=
  reads_integer uint64?_toNat
    fun n => by
      have := n.toNat_lt
      omega

theorem reads_int64 : Reads (readInteger int64?) (integerForm Int64.toInt) :=
  reads_integer int64?_toInt
    fun n => by
      have hl := n.le_toInt
      have hh := n.toInt_lt
      omega

/-- No number begins like `null`. -/
theorem not_null_integer {toInt : α → Int} {a : α} {t : Octets} (h : integerForm toInt a t) :
    Opens (· ≠ Octet.letterN) t := by
  unfold integerForm at h
  subst h
  cases toInt a with
  | ofNat n =>
      obtain ⟨b, ds, hd, hb⟩ := exists_decimal_eq_cons n
      have text : Utf8.encode (toString (Int.ofNat n)) = b :: ds := (encode_toString n).trans hd
      rw [text]
      exact ⟨[], b, ds, blanks_nil, Octet.isBlank_of_isDigit hb, Octet.ne_of_isDigit hb rfl, rfl⟩
  | negSucc n => exact ⟨[], _, _, blanks_nil, rfl, by decide, Utf8.encode_append "-" _⟩

end LogSteward.Json
