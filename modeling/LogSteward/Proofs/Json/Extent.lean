import LogSteward.Proofs.Json.Lists

/-!
# How far readers get

Put in front of a well-formed value, a reader takes that value, with all its octets, or nothing
(`Takes`).  This holds whether or not the value is one that the reader is for.  So what a reader
that succeeds has come past can be told from the text alone.
-/

namespace LogSteward.Json

/-- Of a well-formed value, the reader takes all or nothing. -/
structure Takes (read : Reader α) : Prop where
  blanks : ∀ s, read (skipBlanks s) = read s
  whole : ∀ {v rest : Octets} {a : α} {s : Octets}, WellFormed .value v → Ends rest →
    read (v ++ rest) = .ok (a, s) → s = rest

/-- What follows a slot comes next, when the slot has been read. -/
theorem Takes.slot {read : Reader α} (h : Takes read) {t rest : Octets} {b : UInt8}
    (hb : Octet.isBlank b = false) (hb' : Octet.isFigure b = false) {a : α} {s : Octets}
    (ht : WellFormed .slot t) (hr : read (t ++ b :: rest) = .ok (a, s)) :
    skipBlanks s = b :: rest := by
  cases ht with
  | slot hw hv hw' =>
      rw [List.append_assoc, List.append_assoc, ← h.blanks, skipBlanks_append hw, h.blanks] at hr
      rw [h.whole hv (ends_append hw' (ends_cons hb' rest)) hr, skipBlanks_append hw',
        skipBlanks_cons hb]

/-! ### The first octet of a value -/

/-- The first octet of a value tells what kind of value it is. -/
theorem WellFormed.kinds {v : Octets} (h : WellFormed .value v) :
    ∃ b s, v = b :: s ∧
      ((b = Octet.letterN ∨ b = Octet.letterT ∨ b = Octet.letterF) ∧ v ∈ words ∨
        b = Octet.quote ∧ (∃ t, Loose t ∧ s = t ++ [Octet.quote]) ∨
        (b = Octet.minus ∨ Octet.isDigit b = true) ∧ IsNumber v ∨
        b = Octet.openBracket ∧
          (∃ t, s = t ++ [Octet.closeBracket] ∧ (Blanks t ∨ WellFormed .elements t)) ∨
        b = Octet.openBrace ∧
          ∃ t, s = t ++ [Octet.closeBrace] ∧ (Blanks t ∨ WellFormed .members t)) := by
  cases h with
  | word h =>
      have words := h
      simp only [Json.words, List.mem_cons, List.not_mem_nil, or_false] at h
      rcases h with rfl | rfl | rfl <;> exact ⟨_, _, rfl, .inl ⟨by decide, words⟩⟩
  | text h => exact ⟨_, _, rfl, .inr (.inl ⟨rfl, _, h, rfl⟩)⟩
  | number h =>
      obtain ⟨b, s, hb, rfl⟩ := h.first
      exact ⟨b, s, rfl, .inr (.inr (.inl ⟨hb, h⟩))⟩
  | emptyList h => exact ⟨_, _, rfl, .inr (.inr (.inr (.inl ⟨rfl, _, rfl, .inl h⟩)))⟩
  | list h => exact ⟨_, _, rfl, .inr (.inr (.inr (.inl ⟨rfl, _, rfl, .inr h⟩)))⟩
  | emptyObject h => exact ⟨_, _, rfl, .inr (.inr (.inr (.inr ⟨rfl, _, rfl, .inl h⟩)))⟩
  | object h => exact ⟨_, _, rfl, .inr (.inr (.inr (.inr ⟨rfl, _, rfl, .inr h⟩)))⟩

/-- The first octet of a value is no blank. -/
theorem WellFormed.first {v : Octets} (h : WellFormed .value v) :
    ∃ b s, Octet.isBlank b = false ∧ v = b :: s := by
  obtain ⟨b, s, rfl, hb⟩ := h.kinds
  refine ⟨b, s, ?_, rfl⟩
  rcases hb with ⟨rfl | rfl | rfl, -⟩ | ⟨rfl, -⟩ | ⟨rfl | hb, -⟩ | ⟨rfl, -⟩ | ⟨rfl, -⟩
  · rfl
  · rfl
  · rfl
  · rfl
  · rfl
  · exact Octet.isBlank_of_isDigit hb
  · rfl
  · rfl

section Kinds

variable {s : Octets}

/-- What begins with a quote is a string. -/
theorem WellFormed.of_quote (h : WellFormed .value (Octet.quote :: s)) :
    ∃ t, Loose t ∧ s = t ++ [Octet.quote] := by
  obtain ⟨b, s, he, hb⟩ := h.kinds
  obtain ⟨rfl, rfl⟩ := List.cons.inj he
  rcases hb with ⟨hb, -⟩ | ⟨-, h⟩ | ⟨hb, -⟩ | ⟨hb, -⟩ | ⟨hb, -⟩
  case inr.inl => exact h
  all_goals exact absurd hb (by decide)

/-- What begins with a bracket is a list. -/
theorem WellFormed.of_bracket (h : WellFormed .value (Octet.openBracket :: s)) :
    ∃ t, s = t ++ [Octet.closeBracket] ∧ (Blanks t ∨ WellFormed .elements t) := by
  obtain ⟨b, s, he, hb⟩ := h.kinds
  obtain ⟨rfl, rfl⟩ := List.cons.inj he
  rcases hb with ⟨hb, -⟩ | ⟨hb, -⟩ | ⟨hb, -⟩ | ⟨-, h⟩ | ⟨hb, -⟩
  case inr.inr.inr.inl => exact h
  all_goals exact absurd hb (by decide)

/-- What begins with a brace is an object. -/
theorem WellFormed.of_brace (h : WellFormed .value (Octet.openBrace :: s)) :
    ∃ t, s = t ++ [Octet.closeBrace] ∧ (Blanks t ∨ WellFormed .members t) := by
  obtain ⟨b, s, he, hb⟩ := h.kinds
  obtain ⟨rfl, rfl⟩ := List.cons.inj he
  rcases hb with ⟨hb, -⟩ | ⟨hb, -⟩ | ⟨hb, -⟩ | ⟨hb, -⟩ | ⟨-, h⟩
  case inr.inr.inr.inr => exact h
  all_goals exact absurd hb (by decide)

/-- What begins like `null` is `null`. -/
theorem WellFormed.of_letterN (h : WellFormed .value (Octet.letterN :: s)) :
    s = [0x75, 0x6C, 0x6C] := by
  obtain ⟨b, s, he, hb⟩ := h.kinds
  obtain ⟨rfl, rfl⟩ := List.cons.inj he
  rcases hb with ⟨-, h⟩ | ⟨hb, -⟩ | ⟨hb, -⟩ | ⟨hb, -⟩ | ⟨hb, -⟩
  case inl =>
    simp only [words, List.mem_cons, List.not_mem_nil, or_false, List.cons.injEq] at h
    rcases h with ⟨-, h⟩ | ⟨hb, -⟩ | ⟨hb, -⟩
    · exact h
    · exact absurd hb (by decide)
    · exact absurd hb (by decide)
  all_goals exact absurd hb (by decide)

end Kinds

/-! ### Strings -/

/-- A numeric escape ends between characters or after the first half of a pair. -/
theorem strand_of_closeEscape {first : Option Nat} {n : Nat} {bs : Octets} {st : Strand}
    (h : closeEscape first n = .ok (bs, st)) : st = .plain ∨ ∃ m, st = .half m := by
  cases first with
  | none =>
      simp only [closeEscape] at h
      split at h
      · cases h
      · split at h
        · exact .inr ⟨n, (Prod.mk.inj (Except.ok.inj h)).2.symm⟩
        · exact .inl (Prod.mk.inj (Except.ok.inj h)).2.symm
  | some m =>
      simp only [closeEscape] at h
      split at h
      · exact .inl (Prod.mk.inj (Except.ok.inj h)).2.symm
      · cases h

theorem readQuoted_step {st st' : Strand} {b : UInt8} {bs : Octets}
    (hq : st = .plain → b ≠ Octet.quote) (h : st.step b = .ok (bs, st')) (acc s : Octets) :
    readQuoted st acc (b :: s) = readQuoted st' (bs.reverse ++ acc) s := by
  rw [readQuoted, if_neg fun both => hq both.1 both.2, h]

/-- The reading of a string ends with its closing quote, if it gets there.  It may have come past
the first half of a surrogate pair. -/
theorem readQuoted_loose {t : Octets} (h : Loose t) {st : Strand}
    (hst : st = .plain ∨ ∃ n, st = .half n) {acc rest : Octets} {x : String} {s : Octets}
    (hr : readQuoted st acc (t ++ Octet.quote :: rest) = .ok (x, s)) : s = rest := by
  induction h generalizing st acc with
  | nil =>
      rcases hst with rfl | ⟨n, rfl⟩
      · rw [List.nil_append, readQuoted, if_pos ⟨rfl, rfl⟩] at hr
        split at hr
        · cases hr
          rfl
        · cases hr
      · cases hr
  | @plain b t quote backslash control _ ih =>
      rcases hst with rfl | ⟨n, rfl⟩
      · simp only [List.cons_append, readQuoted, Strand.step, quote, backslash, control, and_false,
          if_false, Bool.false_eq_true] at hr
        exact ih (.inl rfl) hr
      · simp [readQuoted, Strand.step, backslash] at hr
  | @short b t known _ ih =>
      have hu : b ≠ Octet.letterU := fun e => absurd (e ▸ known) (by decide)
      rcases hst with rfl | ⟨n, rfl⟩
      · obtain ⟨c, hc⟩ := Option.isSome_iff_exists.mp known
        have hs : Strand.escape.step b = .ok ([c], .plain) := by
          rw [Strand.step, if_neg hu, hc]
        have both : ∀ y, readQuoted .plain acc (Octet.backslash :: b :: y)
            = readQuoted .plain (c :: acc) y := fun y =>
          (readQuoted_step (fun _ => by decide) rfl _ _).trans
            (readQuoted_step (by rintro ⟨⟩) hs _ _)
        exact ih (.inl rfl) ((both _).symm.trans hr)
      · simp [readQuoted, Strand.step, hu] at hr
  | @code ds t length number _ ih =>
      obtain ⟨n, hn⟩ := Option.isSome_iff_exists.mp number
      have digits : ∀ {first : Option Nat} {acc : Octets},
          readQuoted (.digits first []) acc (ds ++ (t ++ Octet.quote :: rest)) = .ok (x, s) →
            s = rest := by
        intro first acc hr
        cases hc : closeEscape first n with
        | error f =>
            obtain ⟨a, b, c, d, rfl⟩ := List.length_eq_four.mp length
            simp [readQuoted, Strand.step, hn, hc] at hr
        | ok r =>
            obtain ⟨bs, st⟩ := r
            rw [readQuoted_digits length hn hc] at hr
            exact ih (strand_of_closeEscape hc) hr
      simp only [List.cons_append, List.append_assoc] at hr
      rcases hst with rfl | ⟨n, rfl⟩
      · exact digits hr
      · exact digits hr

theorem readText_quote {b : UInt8} {s : Octets} {r : String × Octets}
    (hb : Octet.isBlank b = false) (hr : readText (b :: s) = .ok r) : b = Octet.quote := by
  rw [readText, skipBlanks_cons hb] at hr
  split at hr
  · next he => exact (List.cons.inj he).1
  · cases hr

/-- To read a text is to take all of it. -/
theorem takes_text : Takes readText where
  blanks s := by simp [readText]
  whole := by
    intro v rest a s hv he hr
    obtain ⟨b, s', hb, rfl⟩ := hv.first
    obtain rfl := readText_quote hb hr
    obtain ⟨t, ht, rfl⟩ := hv.of_quote
    rw [List.cons_append, readText, skipBlanks_cons rfl, List.append_assoc] at hr
    exact readQuoted_loose ht (.inl rfl) hr

/-! ### Whole numbers -/

theorem readDigits_ok {s rest : Octets} {ns : List Nat} (hr : readDigits s = .ok (ns, rest)) :
    ∃ ds, Digits ds ∧ s = ds ++ rest ∧ ns = ds.map (fun b => b.toNat - 0x30) ∧
      ∀ b ∈ rest.head?, Octet.isDigit b = false := by
  have split_ : s.takeWhile Octet.isDigit ++ s.dropWhile Octet.isDigit = s :=
    List.takeWhile_append_dropWhile
  have next : ∀ b ∈ (s.dropWhile Octet.isDigit).head?, Octet.isDigit b = false := fun b hb => by
    have := List.head?_dropWhile_not Octet.isDigit s
    rw [Option.mem_def.mp hb] at this
    simpa using this
  rw [readDigits] at hr
  split at hr
  · cases hr
  · cases hr
  · next d ds rest' ht =>
      cases hr
      rw [takeDigits, Prod.mk.injEq] at ht
      obtain ⟨hd, rfl⟩ := ht
      refine ⟨_, ⟨fun he => ?_, fun b hb => ?_⟩, split_.symm, hd.symm, next⟩
      · rw [he] at hd
        cases hd
      · exact List.mem_takeWhile_imp hb

theorem readWhole_ok {s rest : Octets} {ns : List Nat} (hr : readWhole s = .ok (ns, rest)) :
    ∃ ds, (ds = [Octet.zero] ∨ Digits ds ∧ ds.head? ≠ some Octet.zero) ∧ s = ds ++ rest ∧
      ∀ b ∈ rest.head?, Octet.isDigit b = false := by
  rw [readWhole] at hr
  split at hr
  · cases hr
  · cases hr
  · next hne hn =>
      cases hr
      obtain ⟨ds, hd, hs, rfl, next⟩ := readDigits_ok hn
      refine ⟨ds, ?_, hs, next⟩
      rcases ds with _ | ⟨d, _ | ⟨d', ds⟩⟩
      · exact absurd rfl hd.1
      · by_cases hz : d = Octet.zero
        · exact .inl (by rw [hz])
        · exact .inr ⟨hd, fun he => hz (Option.some.inj he)⟩
      · refine .inr ⟨hd, fun he => ?_⟩
        obtain rfl := Option.some.inj he
        exact hne _ _ _ rfl

theorem readFraction_none {s rest : Octets} (hr : readFraction s = .ok (none, rest)) :
    rest = s ∧ ∀ b ∈ s.head?, b ≠ Octet.point := by
  cases s with
  | nil =>
      cases hr
      exact ⟨rfl, nofun⟩
  | cons b s =>
      rw [readFraction] at hr
      split at hr
      · split at hr <;> cases hr
      · next hb =>
          cases hr
          exact ⟨rfl, fun c hc => by rwa [← Option.some.inj hc]⟩

theorem readExponent_none {s rest : Octets} (hr : readExponent s = .ok (none, rest)) :
    rest = s ∧ ∀ b ∈ s.head?, Octet.isExponent b = false := by
  cases s with
  | nil =>
      cases hr
      exact ⟨rfl, nofun⟩
  | cons b s =>
      rw [readExponent] at hr
      split at hr
      · simp only at hr
        split at hr <;> cases hr
      · next hb =>
          cases hr
          exact ⟨rfl, fun c hc => by rw [← Option.some.inj hc]; simpa using hb⟩

/-- A numeral without point and exponent is followed by nothing that goes on with it. -/
theorem readNumeral_ok {s rest : Octets} {n : Numeral} (hr : readNumeral s = .ok (n, rest))
    (hf : n.fraction = none) (he : n.exponent = none) :
    ∃ t, IsNumber t ∧ s = t ++ rest ∧ Ends rest := by
  rw [readNumeral.eq_def] at hr
  split at hr
  next negative s₀ hm =>
  have sign : ∃ sign, (sign = [] ∨ sign = [Octet.minus]) ∧ s = sign ++ s₀ := by
    split at hm
    · exact ⟨_, .inr rfl, by rw [← (Prod.mk.inj hm).2]; rfl⟩
    · exact ⟨_, .inl rfl, (Prod.mk.inj hm).2⟩
  obtain ⟨sign, hsign, rfl⟩ := sign
  split at hr
  · cases hr
  · next whole s₁ hw =>
      obtain ⟨ds, hds, rfl, digit⟩ := readWhole_ok hw
      split at hr
      · cases hr
      · next fraction s₂ hfr =>
          split at hr
          · cases hr
          · next exponent s₃ hex =>
              simp only at hr
              split at hr
              · cases hr
              · cases hr
                obtain rfl : fraction = none := hf
                obtain rfl : exponent = none := he
                obtain ⟨rfl, point⟩ := readFraction_none hfr
                obtain ⟨rfl, letter⟩ := readExponent_none hex
                refine ⟨_, .mk hsign hds (.inl rfl) (.inl rfl), by simp, fun b hb => ?_⟩
                simp [Octet.isFigure, digit b hb, point b hb, letter b hb]

/-- An integer that is read is a number, and all of it. -/
theorem readInteger_ok {convert? : Int → Option α} {b : UInt8} {s rest : Octets} {a : α}
    (hb : Octet.isBlank b = false) (hr : readInteger convert? (b :: s) = .ok (a, rest)) :
    (b = Octet.minus ∨ Octet.isDigit b = true) ∧
      ∃ t, IsNumber t ∧ b :: s = t ++ rest ∧ Ends rest := by
  rw [readInteger, skipBlanks_cons hb] at hr
  simp only at hr
  split at hr
  · next hf =>
      split at hr
      · cases hr
      · next n rest' hn =>
          split at hr
          · next a' ha =>
              cases hr
              obtain ⟨i, hi, -⟩ := Option.bind_eq_some_iff.mp ha
              unfold Numeral.whole? at hi
              split at hi
              · next hfr hex => exact ⟨hf, readNumeral_ok hn hfr hex⟩
              · cases hi
          · cases hr
  · cases hr

/-- The octets after a value are determined. -/
theorem takes_integer (convert? : Int → Option α) : Takes (readInteger convert?) where
  blanks s := by simp [readInteger]
  whole := by
    intro v rest a s hv he hr
    obtain ⟨b, t, hb, rfl⟩ := hv.first
    obtain ⟨hf, t', ht', hs, he'⟩ := readInteger_ok hb hr
    -- both numbers are passed over, so they end in the same place
    have passed := skipValue_wellFormed blanks_nil hv he
    have passed' := skipValue_wellFormed blanks_nil (.number ht') he'
    rw [List.nil_append] at passed passed'
    rw [← hs] at passed'
    exact Except.ok.inj (passed'.symm.trans passed)

/-! ### Optional values and lists -/

/-- To read what may be missing is to take all of it. -/
theorem takes_option {read : Reader α} (h : Takes read) : Takes (readOption read) where
  blanks s := by simp [readOption]
  whole := by
    intro v rest a s hv he hr
    obtain ⟨b, t, hb, rfl⟩ := hv.first
    rw [List.cons_append, readOption, skipBlanks_cons hb] at hr
    split at hr
    · next y hy =>
        obtain ⟨rfl, rfl⟩ := List.cons.inj hy
        obtain rfl := hv.of_letterN
        cases hr
        rfl
    · split at hr
      · next hx =>
          cases hr
          exact h.whole hv he hx
      · cases hr

/-- An element that has been read is followed by the end of the list or by a comma. -/
theorem readElements_eq_ok_iff {read : Reader α} {s : Octets} {r : List α × Octets} :
    readElements read s = .ok r ↔ ∃ a rest t, read s = .ok (a, rest) ∧
      (skipBlanks rest = Octet.closeBracket :: t ∧ r = ([a], t) ∨
        skipBlanks rest = Octet.comma :: t ∧ t.length < s.length ∧
          ∃ as s', readElements read t = .ok (as, s') ∧ r = (a :: as, s')) := by
  constructor
  · intro hr
    rw [readElements] at hr
    split at hr
    · cases hr
    · next a rest ha =>
        split at hr
        · cases hr
        · next b t hb =>
            refine ⟨a, rest, t, ha, ?_⟩
            split at hr
            · next hc => exact .inl ⟨hc ▸ hb, (Except.ok.inj hr).symm⟩
            · split at hr
              · next hc =>
                  split at hr
                  · next hl =>
                      split at hr
                      · next as s' has =>
                          exact .inr ⟨hc ▸ hb, hl, as, s', has, (Except.ok.inj hr).symm⟩
                      · cases hr
                  · cases hr
              · cases hr
  · rintro ⟨a, rest, t, ha, ⟨hb, rfl⟩ | ⟨hb, hl, as, s', has, rfl⟩⟩
    · rw [readElements, ha]
      simp only [hb, if_true]
    · rw [readElements, ha]
      simp only [hb, has]
      rw [if_neg (by decide), if_pos trivial, if_pos hl]

theorem length_skipBlanks_le (s : Octets) : (skipBlanks s).length ≤ s.length :=
  (List.dropWhile_suffix _).length_le

/-- Blanks before the first element do not matter. -/
theorem readElements_of_skipBlanks {read : Reader α} (h : Takes read) {s : Octets}
    {r : List α × Octets} (hr : readElements read (skipBlanks s) = .ok r) :
    readElements read s = .ok r := by
  obtain ⟨a, rest, t, ha, next⟩ := readElements_eq_ok_iff.mp hr
  refine readElements_eq_ok_iff.mpr ⟨a, rest, t, h.blanks s ▸ ha, ?_⟩
  rcases next with last | ⟨hb, hl, more⟩
  · exact .inl last
  · exact .inr ⟨hb, hl.trans_le (length_skipBlanks_le s), more⟩

theorem readElements_whole {read : Reader α} (h : Takes read) {part : Part} {t : Octets}
    (ht : WellFormed part t) (hp : part = .elements) {rest s : Octets} {as : List α}
    (hr : readElements read (t ++ Octet.closeBracket :: rest) = .ok (as, s)) : s = rest := by
  induction ht generalizing as with
  | element ht =>
      obtain ⟨a, rest', y, ha, ⟨hb, he⟩ | ⟨hb, -⟩⟩ := readElements_eq_ok_iff.mp hr
      · rw [h.slot rfl rfl ht ha] at hb
        rw [(Prod.mk.inj he).2, (List.cons.inj hb).2]
      · rw [h.slot rfl rfl ht ha] at hb
        exact absurd (List.cons.inj hb).1 (by decide)
  | elements ht _ _ ih =>
      rw [List.append_assoc, List.cons_append] at hr
      obtain ⟨a, rest', y, ha, ⟨hb, -⟩ | ⟨hb, -, as', s', has, he⟩⟩ := readElements_eq_ok_iff.mp hr
      · rw [h.slot rfl rfl ht ha] at hb
        exact absurd (List.cons.inj hb).1 (by decide)
      · rw [h.slot rfl rfl ht ha] at hb
        obtain ⟨-, rfl⟩ := List.cons.inj hb
        obtain ⟨-, rfl⟩ := Prod.mk.inj he
        exact ih rfl has
  | _ => cases hp

/-- A list that has been read is over at once, or has elements. -/
theorem readList_bracket_ok {read : Reader α} (h : Takes read) {s : Octets} {r : List α × Octets}
    (hr : readList read (Octet.openBracket :: s) = .ok r) :
    (∃ t, skipBlanks s = Octet.closeBracket :: t ∧ r = ([], t)) ∨
      (∀ t, skipBlanks s ≠ Octet.closeBracket :: t) ∧ readElements read s = .ok r := by
  rw [readList_bracket] at hr
  split at hr
  · cases hr
  · next t ht => exact .inl ⟨t, ht, (Except.ok.inj hr).symm⟩
  · next hne => exact .inr ⟨hne, readElements_of_skipBlanks h hr⟩

theorem readList_first {read : Reader α} {b : UInt8} {s : Octets} {r : List α × Octets}
    (hb : Octet.isBlank b = false) (hr : readList read (b :: s) = .ok r) :
    b = Octet.openBracket := by
  rw [readList, skipBlanks_cons hb] at hr
  split at hr
  · next he => exact (List.cons.inj he).1
  · cases hr

/-- What opens with an octet that is no blank goes on with it once blanks are passed. -/
theorem Opens.skipBlanks {p : UInt8 → Prop} {t : Octets} (h : Opens p t) (rest : Octets) :
    ∃ b s, p b ∧ Json.skipBlanks (t ++ rest) = b :: s := by
  obtain ⟨w, b, s, hw, hb, hp, rfl⟩ := h
  refine ⟨b, s ++ rest, hp, ?_⟩
  rw [List.append_assoc, skipBlanks_append hw, List.cons_append, skipBlanks_cons hb]

/-- The elements of a list do not begin with the end of the list. -/
theorem WellFormed.elements_ne {t : Octets} (h : WellFormed .elements t) (rest y : Octets) :
    skipBlanks (t ++ rest) ≠ Octet.closeBracket :: y := by
  obtain ⟨b, s, hb, hs⟩ := (opens_wellFormed h).skipBlanks rest
  intro he
  rw [hs] at he
  exact hb (List.cons.inj he).1

/-- To read a list is to take all of it. -/
theorem takes_list {read : Reader α} (h : Takes read) : Takes (readList read) where
  blanks s := by simp [readList]
  whole := by
    intro v rest as s hv he hr
    obtain ⟨b, t, hb, rfl⟩ := hv.first
    obtain rfl := readList_first hb hr
    obtain ⟨t, rfl, ht⟩ := hv.of_bracket
    rw [List.cons_append, List.append_assoc, List.singleton_append] at hr
    rcases readList_bracket_ok h hr with ⟨y, hy, he⟩ | ⟨hne, hr⟩
    · rcases ht with ht | ht
      · rw [skipBlanks_append ht, skipBlanks_cons rfl] at hy
        rw [(Prod.mk.inj he).2, (List.cons.inj hy).2]
      · exact absurd hy (ht.elements_ne _ y)
    · rcases ht with ht | ht
      · exact absurd (by rw [skipBlanks_append ht, skipBlanks_cons rfl]) (hne rest)
      · exact readElements_whole h ht rfl hr

end LogSteward.Json
