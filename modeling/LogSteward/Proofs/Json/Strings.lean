import LogSteward.Proofs.Json.Grammar
import LogSteward.Proofs.Text.Utf8

/-!
# Strings

Every spelling of a string is read as that string (`reads_text`), whichever of its characters are
escaped.  A reader works on octets and decodes them when the closing quote has come, so what is
carried along a spelling is the octets of the characters read so far.

Written strings are spellings (`textForm_quoted`).
-/

namespace LogSteward.Json

/-! ### Octets that stand for themselves -/

/-- An octet that may stand in a string as it is. -/
def Octet.isPlain (b : UInt8) : Bool :=
  b != quote && b != backslash && !isControl b

theorem readQuoted_plain {b : UInt8} (hb : Octet.isPlain b = true) (acc s : Octets) :
    readQuoted .plain acc (b :: s) = readQuoted .plain (b :: acc) s := by
  simp only [Octet.isPlain, Bool.and_eq_true, bne_iff_ne, Bool.not_eq_true'] at hb
  obtain ⟨⟨hq, hs⟩, hc⟩ := hb
  simp [readQuoted, Strand.step, hq, hs, hc]

theorem readQuoted_plains {t : Octets} (ht : ∀ b ∈ t, Octet.isPlain b = true) (acc s : Octets) :
    readQuoted .plain acc (t ++ s) = readQuoted .plain (t.reverse ++ acc) s := by
  induction t generalizing acc with
  | nil => rfl
  | cons b t ih =>
      obtain ⟨hb, ht⟩ := List.forall_mem_cons.mp ht
      rw [List.cons_append, readQuoted_plain hb, ih ht]
      simp

theorem Octet.isPlain_of_ge {b : UInt8} (h : 0x80 ≤ b.toNat) : isPlain b = true := by
  have hq : b ≠ quote := fun hb => by subst hb; exact absurd h (by decide)
  have hs : b ≠ backslash := fun hb => by subst hb; exact absurd h (by decide)
  have hc : ¬ b < 0x20 := fun hb => by
    have := UInt8.lt_iff_toNat_lt.mp hb
    simp only [UInt8.reduceToNat] at this
    omega
  simp [isPlain, hq, hs, isControl, hc]

/-- An ASCII character is one octet. -/
theorem utf8EncodeChar_ascii {c : Char} (h : c.toNat < 0x80) :
    String.utf8EncodeChar c = [UInt8.ofNat c.toNat] :=
  if_pos (Nat.le_of_lt_succ h)

/-- Beyond ASCII, no octet of a character is one. -/
theorem ge_of_mem_utf8EncodeChar {c : Char} (h : 0x80 ≤ c.toNat) {b : UInt8}
    (hb : b ∈ String.utf8EncodeChar c) : 0x80 ≤ b.toNat := by
  have hc : ¬ c.val.toNat ≤ 127 := Nat.not_le_of_lt h
  simp only [String.utf8EncodeChar, if_neg hc] at hb
  have key : ∀ k, 0x80 ≤ k → k < 256 → b = UInt8.ofNat k → 0x80 ≤ b.toNat := fun k h₁ h₂ hk => by
    rw [hk, Utf8.toNat_ofNat h₂]
    exact h₁
  split at hb <;> [skip; split at hb] <;>
    simp only [List.mem_cons, List.not_mem_nil, or_false] at hb
  · rcases hb with hb | hb <;> exact key _ (by omega) (by omega) hb
  · rcases hb with hb | hb | hb <;> exact key _ (by omega) (by omega) hb
  · rcases hb with hb | hb | hb | hb <;> exact key _ (by omega) (by omega) hb

theorem isPlain_utf8EncodeChar {c : Char} (quote : c ≠ '"') (backslash : c ≠ '\\')
    (control : 0x20 ≤ c.toNat) : ∀ b ∈ String.utf8EncodeChar c, Octet.isPlain b = true := by
  intro b hb
  by_cases h : c.toNat < 0x80
  · rw [utf8EncodeChar_ascii h, List.mem_singleton] at hb
    have hn : b.toNat = c.toNat := by rw [hb, Utf8.toNat_ofNat (by omega)]
    have hq : b ≠ Octet.quote := fun e => quote (Char.toNat_inj.mp (by rw [← hn, e]; rfl))
    have hs : b ≠ Octet.backslash := fun e => backslash (Char.toNat_inj.mp (by rw [← hn, e]; rfl))
    have hc : ¬ b < 0x20 := fun e => by
      have := UInt8.lt_iff_toNat_lt.mp e
      simp only [UInt8.reduceToNat] at this
      omega
    simp [Octet.isPlain, hq, hs, Octet.isControl, hc]
  · exact Octet.isPlain_of_ge (ge_of_mem_utf8EncodeChar (by omega) hb)

/-! ### Escapes -/

theorem readQuoted_short {e c : Char} (h : (e, c) ∈ shortEscapes) (acc s : Octets) :
    readQuoted .plain acc (Octet.backslash :: UInt8.ofNat e.toNat :: s)
      = readQuoted .plain ((String.utf8EncodeChar c).reverse ++ acc) s := by
  simp only [shortEscapes, List.mem_cons, Prod.mk.injEq, List.not_mem_nil, or_false] at h
  rcases h with ⟨rfl, rfl⟩ | ⟨rfl, rfl⟩ | ⟨rfl, rfl⟩ | ⟨rfl, rfl⟩ | ⟨rfl, rfl⟩ | ⟨rfl, rfl⟩ |
    ⟨rfl, rfl⟩ | ⟨rfl, rfl⟩ <;> rfl

/-- The four digits of a numeric escape. -/
theorem readQuoted_digits {first : Option Nat} {ds bs : Octets} {n : Nat} {st : Strand}
    (length : ds.length = 4) (h : hexNumber? ds = some n) (hc : closeEscape first n = .ok (bs, st))
    (acc s : Octets) :
    readQuoted (.digits first []) acc (ds ++ s) = readQuoted st (bs.reverse ++ acc) s := by
  match ds, length with
  | [a, b, c, d], _ => simp [readQuoted, Strand.step, h, hc]

/-- A spelling of a character adds its octets. -/
theorem readQuoted_char {c : Char} {t : Octets} (h : SpellsChar c t) (acc s : Octets) :
    readQuoted .plain acc (t ++ s)
      = readQuoted .plain ((String.utf8EncodeChar c).reverse ++ acc) s := by
  cases h with
  | plain quote backslash control =>
      exact readQuoted_plains (isPlain_utf8EncodeChar quote backslash control) acc s
  | short h => exact readQuoted_short h acc s
  | code length h =>
      have hv : c.toNat < 0xD800 ∨ 0xDFFF < c.toNat ∧ c.toNat < 0x110000 := c.valid
      have hc : closeEscape none c.toNat = .ok (String.utf8EncodeChar c, .plain) := by
        rw [closeEscape, if_neg (by omega), if_neg (by omega), Char.ofNat_toNat]
      exact readQuoted_digits length h hc acc s
  | pair length length' h h' high low value =>
      rename_i ds es m n
      have hm : closeEscape none m = .ok ([], .half m) := by
        rw [closeEscape, if_neg (by omega), if_pos high]
      have hn : closeEscape (some m) n = .ok (String.utf8EncodeChar c, .plain) := by
        rw [closeEscape, if_pos low, ← value, Char.ofNat_toNat]
      -- the first half adds nothing and is kept in the state, the second one adds the character
      calc readQuoted .plain acc
            (Octet.backslash :: Octet.letterU ::
              (ds ++ Octet.backslash :: Octet.letterU :: es) ++ s)
          = readQuoted (.digits none []) acc
              (ds ++ (Octet.backslash :: Octet.letterU :: (es ++ s))) := by
            simp only [List.cons_append, List.append_assoc]
            rfl
        _ = readQuoted (.half m) acc (Octet.backslash :: Octet.letterU :: (es ++ s)) :=
            readQuoted_digits length h hm acc _
        _ = readQuoted (.digits (some m) []) acc (es ++ s) := rfl
        _ = readQuoted .plain ((String.utf8EncodeChar c).reverse ++ acc) s :=
            readQuoted_digits length' h' hn acc s

/-- Every spelling of characters is read as these. -/
theorem readQuoted_chars {cs : List Char} {t : Octets} (h : SpellsChars cs t) (acc s : Octets) :
    readQuoted .plain acc (t ++ s)
      = readQuoted .plain ((cs.flatMap String.utf8EncodeChar).reverse ++ acc) s := by
  induction h generalizing acc with
  | nil => rfl
  | cons h hs ih =>
      rw [List.append_assoc, readQuoted_char h, ih]
      simp

/-- A string is read up to and with its closing quote. -/
theorem readQuoted_spelling {text : String} {t : Octets} (h : SpellsChars text.toList t)
    (rest : Octets) : readQuoted .plain [] (t ++ Octet.quote :: rest) = .ok (text, rest) := by
  rw [readQuoted_chars h, List.append_nil, readQuoted, if_pos ⟨rfl, rfl⟩, List.reverse_reverse,
    Utf8.decode?_flatMap_encodeChar, String.ofList_toList]

/-- Every spelling of a text is read as the text. -/
theorem reads_text : Reads readText textForm where
  blanks s := by simp [readText]
  complete := by
    rintro text t rest ⟨body, h, rfl⟩ -
    rw [List.cons_append, readText, skipBlanks_cons rfl, List.append_assoc]
    exact readQuoted_spelling h rest

/-- A key is a string. -/
theorem readKey_spelling {key : String} {w k : Octets} (hw : Blanks w) (hk : textForm key k)
    (rest : Octets) : readKey (w ++ (k ++ rest)) = .ok (key, rest) := by
  obtain ⟨body, h, rfl⟩ := hk
  rw [readKey, skipBlanks_append hw, List.cons_append, skipBlanks_cons rfl]
  simp only [List.append_assoc, List.singleton_append, if_true]
  exact readQuoted_spelling h rest

/-! ### Written strings -/

theorem spellsChar_short {e c : Char} (h : (e, c) ∈ shortEscapes) :
    SpellsChar c (['\\', e].flatMap String.utf8EncodeChar) := by
  have ascii : ∀ p ∈ shortEscapes, p.1.toNat < 0x80 := by decide
  rw [List.flatMap_cons, List.flatMap_singleton, utf8EncodeChar_ascii (ascii _ h)]
  exact .short h

/-- The four digits by which a control character is written. -/
def controlDigits (n : Nat) : Octets :=
  ['0', '0', hexDigit (n / 16), hexDigit n].flatMap String.utf8EncodeChar

theorem hexNumber?_controlDigits :
    ∀ n < 0x20, (controlDigits n).length = 4 ∧ hexNumber? (controlDigits n) = some n := by
  decide

/-- A written character spells that character. -/
theorem spellsChar_escapeChar (c : Char) :
    SpellsChar c ((escapeChar c).flatMap String.utf8EncodeChar) := by
  fun_cases escapeChar c
  case case8 h =>
    obtain ⟨length, number⟩ := hexNumber?_controlDigits _ h
    exact .code length number
  case case9 quote backslash _ _ _ _ _ control =>
    rw [List.flatMap_singleton]
    exact .plain quote backslash (Nat.le_of_not_lt control)
  all_goals
    subst c
    exact spellsChar_short (by decide)

/-- What is written of characters spells them. -/
theorem spellsChars_escaped (cs : List Char) :
    SpellsChars cs ((cs.flatMap escapeChar).flatMap String.utf8EncodeChar) := by
  induction cs with
  | nil => exact .nil
  | cons c cs ih =>
      rw [List.flatMap_cons, List.flatMap_append]
      exact .cons (spellsChar_escapeChar c) ih

/-- A written string spells that string. -/
theorem textForm_quoted (s : String) : textForm s (Utf8.encode (quoted s)) := by
  refine ⟨_, spellsChars_escaped s.toList, ?_⟩
  simp only [quoted, Utf8.encode_append, Utf8.encode_ofList]
  rfl

end LogSteward.Json
