import LogSteward.Text.Utf8

/-!
# UTF-8 there and back

The octets of a text scan to the characters of that text, whatever octets follow them
(`scan_encodeChar`), so that every text is read back from its octets (`decode?_encode`).  The other
way round, octets of which the scan gives up nothing begin with those of a character
(`exists_char`), so that no other octets are read as a text (`decode?_eq_some_iff`).
-/

namespace LogSteward.Utf8

theorem toNat_ofNat {n : Nat} (h : n < 256) : (UInt8.ofNat n).toNat = n :=
  UInt8.toNat_ofNat_of_lt' h

/-! ### The first octet of a character -/

/-- An octet below 0x80 is a character by itself. -/
theorem lead_single {v : Nat} (h : v < 0x80) : lead (UInt8.ofNat v) = .single (Char.ofNat v) := by
  have hv := toNat_ofNat (n := v) (by omega)
  rw [lead, if_pos (UInt8.lt_iff_toNat_lt.mpr (by rw [hv]; exact h)), hv]

theorem lead_two {k : Nat} (h : 2 ≤ k) (h' : k < 0x20) :
    lead (UInt8.ofNat (k + 0xC0)) = .multi ⟨1, 0x80, 0xBF, k⟩ := by
  have hv := toNat_ofNat (n := k + 0xC0) (by omega)
  simp only [lead, UInt8.lt_iff_toNat_lt, hv, UInt8.reduceToNat]
  rw [if_neg (by omega), if_neg (by omega), if_pos (by omega), Nat.add_sub_cancel]

theorem lead_three {k : Nat} (h : k < 0x10) :
    lead (UInt8.ofNat (k + 0xE0))
      = .multi ⟨2, if k = 0 then 0xA0 else 0x80, if k = 13 then 0x9F else 0xBF, k⟩ := by
  have hv := toNat_ofNat (n := k + 0xE0) (by omega)
  simp only [lead, UInt8.lt_iff_toNat_lt, ← UInt8.toNat_inj, hv, UInt8.reduceToNat]
  rw [if_neg (by omega), if_neg (by omega), if_neg (by omega)]
  by_cases h₀ : k = 0
  · subst h₀; rfl
  by_cases h₁ : k = 13
  · subst h₁; rfl
  rw [if_neg (by omega), if_neg (by omega), if_pos (by omega), if_neg h₀, if_neg h₁,
    Nat.add_sub_cancel]

theorem lead_four {k : Nat} (h : k < 5) :
    lead (UInt8.ofNat (k + 0xF0))
      = .multi ⟨3, if k = 0 then 0x90 else 0x80, if k = 4 then 0x8F else 0xBF, k⟩ := by
  match k with
  | 0 | 1 | 2 | 3 | 4 => rfl
  | k + 5 => omega

/-- After the first octet of several, the others are awaited. -/
theorem scan_multi {b : UInt8} {p : Pending} (h : lead b = .multi p) (rest : Octets) :
    scan none (b :: rest) = scan (some p) rest := by
  simp only [scan, step, start, h, List.nil_append]

/-! ### The octets that follow it -/

/-- One more octet of a character: either it is complete, or another one is awaited. -/
theorem step_more {missing k n : Nat} {low high : UInt8} (hk : k < 0x40)
    (hl : low.toNat ≤ k + 0x80) (hh : k + 0x80 ≤ high.toNat) :
    step (some ⟨missing, low, high, n⟩) (UInt8.ofNat (k + 0x80))
      = if missing ≤ 1 then ([some (Char.ofNat (n * 64 + k))], none)
        else ([], some ⟨missing - 1, 0x80, 0xBF, n * 64 + k⟩) := by
  have hv := toNat_ofNat (n := k + 0x80) (by omega)
  simp only [step, UInt8.le_iff_toNat_le, hv]
  rw [if_pos ⟨hl, hh⟩, Nat.add_sub_cancel]

/-- An octet that is not the last one. -/
theorem scan_more {missing k n : Nat} {low high : UInt8} (hk : k < 0x40)
    (hl : low.toNat ≤ k + 0x80) (hh : k + 0x80 ≤ high.toNat) (rest : Octets) :
    scan (some ⟨missing + 2, low, high, n⟩) (UInt8.ofNat (k + 0x80) :: rest)
      = scan (some ⟨missing + 1, 0x80, 0xBF, n * 64 + k⟩) rest := by
  rw [scan, step_more hk hl hh, if_neg (by omega)]
  rfl

/-- The last octet, which has the widest bounds. -/
theorem scan_last {k n : Nat} {low high : UInt8} (hk : k < 0x40) (hl : low.toNat ≤ k + 0x80)
    (hh : k + 0x80 ≤ high.toNat) (rest : Octets) :
    scan (some ⟨1, low, high, n⟩) (UInt8.ofNat (k + 0x80) :: rest)
      = some (Char.ofNat (n * 64 + k)) :: scan none rest := by
  rw [scan, step_more hk hl hh, if_pos (Nat.le_refl 1)]
  rfl

/-- The widest bounds hold of every octet that goes on with a character. -/
theorem low_le (k : Nat) : (0x80 : UInt8).toNat ≤ k + 0x80 :=
  Nat.le_add_left 0x80 k

theorem le_high {k : Nat} (hk : k < 0x40) : k + 0x80 ≤ (0xBF : UInt8).toNat :=
  Nat.le_of_lt_succ (Nat.add_lt_add_right hk 0x80)

/-- The octets of a character scan to it. -/
theorem scan_encodeChar (c : Char) (rest : Octets) :
    scan none (String.utf8EncodeChar c ++ rest) = some c :: scan none rest := by
  have hvalid : c.val.toNat < 0xD800 ∨ 0xDFFF < c.val.toNat ∧ c.val.toNat < 0x110000 := c.valid
  have hc : Char.ofNat c.val.toNat = c := Char.ofNat_toNat c
  unfold String.utf8EncodeChar
  generalize c.val.toNat = v at hvalid hc ⊢
  subst hc
  have h₀ : v % 64 < 0x40 := Nat.mod_lt _ (by omega)
  have h₁ : v / 64 % 64 < 0x40 := Nat.mod_lt _ (by omega)
  have h₂ : v / 4096 % 64 < 0x40 := Nat.mod_lt _ (by omega)
  dsimp only
  -- by the number of octets; only the first one that follows has bounds of its own, which leave out
  -- surrogates and longer spellings than needed
  split
  · simp only [List.cons_append, List.nil_append, scan, step, start,
      lead_single (v := v) (by omega)]
  split
  · rw [Nat.mod_eq_of_lt (by omega : v / 64 < 0x20)]
    simp only [List.cons_append, List.nil_append]
    rw [scan_multi (lead_two (by omega) (by omega)), scan_last h₀ (low_le _) (le_high h₀),
      show v / 64 * 64 + v % 64 = v by omega]
  split
  · rw [Nat.mod_eq_of_lt (by omega : v / 4096 < 0x10)]
    simp only [List.cons_append, List.nil_append]
    rw [scan_multi (lead_three (by omega)), scan_more h₁ _ _, scan_last h₀ (low_le _) (le_high h₀),
      show (v / 4096 * 64 + v / 64 % 64) * 64 + v % 64 = v by omega]
    · split
      · exact (by omega : 0xA0 ≤ v / 64 % 64 + 0x80)
      · exact low_le _
    · split
      · exact (by omega : v / 64 % 64 + 0x80 ≤ 0x9F)
      · exact le_high h₁
  · rw [Nat.mod_eq_of_lt (by omega : v / 262144 < 0x08)]
    simp only [List.cons_append, List.nil_append]
    rw [scan_multi (lead_four (by omega)), scan_more h₂ _ _, scan_more h₁ (low_le _) (le_high h₁),
      scan_last h₀ (low_le _) (le_high h₀),
      show ((v / 262144 * 64 + v / 4096 % 64) * 64 + v / 64 % 64) * 64 + v % 64 = v by omega]
    · split
      · exact (by omega : 0x90 ≤ v / 4096 % 64 + 0x80)
      · exact low_le _
    · split
      · exact (by omega : v / 4096 % 64 + 0x80 ≤ 0x8F)
      · exact le_high h₂

/-! ### Texts -/

@[simp] theorem encode_append (s t : String) : encode (s ++ t) = encode s ++ encode t := by
  simp [encode]

theorem encode_ofList (cs : List Char) :
    encode (String.ofList cs) = cs.flatMap String.utf8EncodeChar := by
  simp [encode]

/-- The octets of characters are read as these. -/
theorem scan_flatMap_encodeChar (cs : List Char) :
    scan none (cs.flatMap String.utf8EncodeChar) = cs.map some := by
  induction cs with
  | nil => rfl
  | cons c cs ih => rw [List.flatMap_cons, scan_encodeChar, ih, List.map_cons]

/-- Octets of characters are read as the text of these characters. -/
theorem decode?_flatMap_encodeChar (cs : List Char) :
    decode? (cs.flatMap String.utf8EncodeChar) = some (String.ofList cs) := by
  have h : (cs.map some).mapM id = some cs := by
    induction cs with
    | nil => rfl
    | cons c cs ih => simp [ih]
  rw [decode?, scan_flatMap_encodeChar, h]
  rfl

/-- **Round trip**: a text is read back from its octets. -/
theorem decode?_encode (s : String) : decode? (encode s) = some s := by
  rw [encode, decode?_flatMap_encodeChar, String.ofList_toList]

/-! ### Octets of which nothing is given up -/

theorem toNat_ofNat_char {v : Nat} (h : v.isValidChar) : (Char.ofNat v).val.toNat = v := by
  rw [Char.ofNat, dif_pos h]
  rfl

theorem encodeChar_single {v : Nat} (h : v < 0x80) :
    String.utf8EncodeChar (Char.ofNat v) = [UInt8.ofNat v] := by
  rw [String.utf8EncodeChar, toNat_ofNat_char (.inl (by omega))]
  exact if_pos (by omega)

theorem encodeChar_two {k k₁ : Nat} (h : 2 ≤ k) (h' : k < 0x20) (h₁ : k₁ < 0x40) :
    String.utf8EncodeChar (Char.ofNat (k * 64 + k₁))
      = [UInt8.ofNat (k + 0xC0), UInt8.ofNat (k₁ + 0x80)] := by
  rw [String.utf8EncodeChar, toNat_ofNat_char (.inl (by omega))]
  rw [if_neg (by omega), if_pos (by omega), show (k * 64 + k₁) / 64 % 32 = k by omega,
    show (k * 64 + k₁) % 64 = k₁ by omega]

theorem encodeChar_three {k k₁ k₂ : Nat} (h : k < 0x10) (h₁ : k₁ < 0x40) (h₂ : k₂ < 0x40)
    (short : k = 0 → 0x20 ≤ k₁) (surrogate : k = 13 → k₁ < 0x20) :
    String.utf8EncodeChar (Char.ofNat ((k * 64 + k₁) * 64 + k₂))
      = [UInt8.ofNat (k + 0xE0), UInt8.ofNat (k₁ + 0x80), UInt8.ofNat (k₂ + 0x80)] := by
  have valid : ((k * 64 + k₁) * 64 + k₂).isValidChar := by
    by_cases hk : k ≤ 13
    · exact .inl (by omega)
    · exact .inr (by omega)
  rw [String.utf8EncodeChar, toNat_ofNat_char valid]
  rw [if_neg (by omega), if_neg (by omega), if_pos (by omega),
    show ((k * 64 + k₁) * 64 + k₂) / 4096 % 16 = k by omega,
    show ((k * 64 + k₁) * 64 + k₂) / 64 % 64 = k₁ by omega,
    show ((k * 64 + k₁) * 64 + k₂) % 64 = k₂ by omega]

theorem encodeChar_four {k k₁ k₂ k₃ : Nat} (h : k < 5) (h₁ : k₁ < 0x40) (h₂ : k₂ < 0x40)
    (h₃ : k₃ < 0x40) (short : k = 0 → 0x10 ≤ k₁) (last : k = 4 → k₁ < 0x10) :
    String.utf8EncodeChar (Char.ofNat (((k * 64 + k₁) * 64 + k₂) * 64 + k₃))
      = [UInt8.ofNat (k + 0xF0), UInt8.ofNat (k₁ + 0x80), UInt8.ofNat (k₂ + 0x80),
          UInt8.ofNat (k₃ + 0x80)] := by
  rw [String.utf8EncodeChar, toNat_ofNat_char (.inr (by omega))]
  rw [if_neg (by omega), if_neg (by omega), if_neg (by omega),
    show (((k * 64 + k₁) * 64 + k₂) * 64 + k₃) / 262144 % 8 = k by omega,
    show (((k * 64 + k₁) * 64 + k₂) * 64 + k₃) / 4096 % 64 = k₁ by omega,
    show (((k * 64 + k₁) * 64 + k₂) * 64 + k₃) / 64 % 64 = k₂ by omega,
    show (((k * 64 + k₁) * 64 + k₂) * 64 + k₃) % 64 = k₃ by omega]

/-- What goes on with a character, if nothing is given up. -/
theorem scan_pending {missing n : Nat} {low high : UInt8} {bs : Octets}
    (h : none ∉ scan (some ⟨missing, low, high, n⟩) bs) (hl : 0x80 ≤ low.toNat)
    (hh : high.toNat ≤ 0xBF) :
    ∃ k rest, bs = UInt8.ofNat (k + 0x80) :: rest ∧ k < 0x40 ∧ low.toNat ≤ k + 0x80 ∧
      k + 0x80 ≤ high.toNat := by
  cases bs with
  | nil => exact absurd List.mem_cons_self h
  | cons b rest =>
      by_cases hb : low ≤ b ∧ b ≤ high
      · obtain ⟨hlb, hbh⟩ := hb
        rw [UInt8.le_iff_toNat_le] at hlb hbh
        refine ⟨b.toNat - 0x80, rest, ?_, by omega, by omega, by omega⟩
        rw [Nat.sub_add_cancel (by omega), UInt8.ofNat_toNat]
      · rw [scan, step, if_neg hb] at h
        exact absurd List.mem_cons_self h

/-- Octets of which nothing is given up begin with those of a character. -/
theorem exists_char {b : UInt8} {bs : Octets} (h : none ∉ scan none (b :: bs)) :
    ∃ c rest, b :: bs = String.utf8EncodeChar c ++ rest := by
  have hb : b = UInt8.ofNat b.toNat := (UInt8.ofNat_toNat).symm
  have hlt : b.toNat < 0x100 := b.toNat_lt
  generalize b.toNat = v at hb hlt
  subst hb
  -- by the first octet, which says how many follow and bounds the second
  by_cases h₁ : v < 0x80
  · exact ⟨Char.ofNat v, bs, by rw [encodeChar_single h₁]; rfl⟩
  by_cases h₂ : 0xC2 ≤ v ∧ v < 0xE0
  · obtain ⟨k, rfl⟩ := Nat.exists_eq_add_of_le' (show 0xC0 ≤ v by omega)
    rw [scan_multi (lead_two (by omega) (by omega))] at h
    obtain ⟨k₁, rest, rfl, hk₁, -, -⟩ := scan_pending h (by decide) (by decide)
    exact ⟨Char.ofNat (k * 64 + k₁), rest, by rw [encodeChar_two (by omega) (by omega) hk₁]; rfl⟩
  by_cases h₃ : 0xE0 ≤ v ∧ v < 0xF0
  · obtain ⟨k, rfl⟩ := Nat.exists_eq_add_of_le' h₃.1
    rw [scan_multi (lead_three (by omega))] at h
    obtain ⟨k₁, rest, rfl, hk₁, hl, hh⟩ :=
      scan_pending h (by split <;> decide) (by split <;> decide)
    rw [scan_more hk₁ hl hh] at h
    obtain ⟨k₂, rest, rfl, hk₂, -, -⟩ := scan_pending h (by decide) (by decide)
    have short : k = 0 → 0x20 ≤ k₁ := by
      rintro rfl
      have : 0xA0 ≤ k₁ + 0x80 := hl
      omega
    have surrogate : k = 13 → k₁ < 0x20 := by
      rintro rfl
      exact Nat.lt_of_add_lt_add_right (Nat.lt_succ_of_le hh)
    exact ⟨Char.ofNat ((k * 64 + k₁) * 64 + k₂), rest, by
      rw [encodeChar_three (by omega) hk₁ hk₂ short surrogate]; rfl⟩
  by_cases h₄ : 0xF0 ≤ v ∧ v < 0xF5
  · obtain ⟨k, rfl⟩ := Nat.exists_eq_add_of_le' h₄.1
    rw [scan_multi (lead_four (by omega))] at h
    obtain ⟨k₁, rest, rfl, hk₁, hl, hh⟩ :=
      scan_pending h (by split <;> decide) (by split <;> decide)
    rw [scan_more hk₁ hl hh] at h
    obtain ⟨k₂, rest, rfl, hk₂, hl₂, hh₂⟩ := scan_pending h (by decide) (by decide)
    rw [scan_more hk₂ hl₂ hh₂] at h
    obtain ⟨k₃, rest, rfl, hk₃, -, -⟩ := scan_pending h (by decide) (by decide)
    have short : k = 0 → 0x10 ≤ k₁ := by
      rintro rfl
      have : 0x90 ≤ k₁ + 0x80 := hl
      omega
    have last : k = 4 → k₁ < 0x10 := by
      rintro rfl
      exact Nat.lt_of_add_lt_add_right (Nat.lt_succ_of_le hh)
    exact ⟨Char.ofNat (((k * 64 + k₁) * 64 + k₂) * 64 + k₃), rest, by
      rw [encodeChar_four (by omega) hk₁ hk₂ hk₃ short last]; rfl⟩
  · have illFormed : lead (UInt8.ofNat v) = .illFormed := by
      have hv := toNat_ofNat hlt
      simp only [lead, UInt8.lt_iff_toNat_lt, ← UInt8.toNat_inj, hv, UInt8.reduceToNat]
      grind
    rw [scan, step, start, illFormed] at h
    exact absurd List.mem_cons_self h

/-- Octets of which nothing is given up are those of the characters they are read as. -/
theorem eq_of_scan {bs : Octets} (h : none ∉ scan none bs) :
    ∃ cs : List Char, bs = cs.flatMap String.utf8EncodeChar := by
  generalize hn : bs.length = n
  induction n using Nat.strongRecOn generalizing bs with
  | ind n ih =>
      cases bs with
      | nil => exact ⟨[], rfl⟩
      | cons b bs =>
          obtain ⟨c, rest, he⟩ := exists_char h
          rw [he, scan_encodeChar] at h
          have shorter : rest.length < n := by
            have := congrArg List.length he
            have := String.length_utf8EncodeChar c
            have := Char.utf8Size_pos c
            simp only [List.length_append] at *
            omega
          obtain ⟨cs, rfl⟩ := ih _ shorter (fun hm => h (List.mem_cons_of_mem _ hm)) rfl
          exact ⟨c :: cs, he⟩

/-- One octet that is none of a character spoils the text. -/
theorem mapM_id_eq_none {l : List (Option Char)} (h : none ∈ l) : l.mapM id = none := by
  induction l with
  | nil => cases h
  | cons a l ih =>
      cases a with
      | none => rfl
      | some a =>
          rw [List.mapM_cons, ih ((List.mem_cons.mp h).resolve_left nofun)]
          rfl

/-- **Octets are read as a text if and only if they are that text's.** -/
theorem decode?_eq_some_iff {bs : Octets} {s : String} : decode? bs = some s ↔ bs = encode s := by
  refine ⟨fun h => ?_, fun h => h ▸ decode?_encode s⟩
  have whole : none ∉ scan none bs := fun hm => by
    rw [decode?, mapM_id_eq_none hm] at h
    cases h
  obtain ⟨cs, rfl⟩ := eq_of_scan whole
  rw [decode?_flatMap_encodeChar] at h
  cases h
  exact (encode_ofList cs).symm

end LogSteward.Utf8
