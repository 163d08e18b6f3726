import LogSteward.Proofs.Json.Lists

/-!
# Texts that are cut short

What a reader makes of the first octets of a value when the others are missing.  It has run out of
octets (`RunsOut`): it has failed for that reason, or has taken all there is, as with a number whose
last digits are missing.  Strings, lists, objects and dictionaries are closed: as long as their last
octet is missing they are not read at all (`Guarded`), so their texts are decoded as a whole or not
at all (`Guarded.onlyWhole`).

That holds of a record as soon as it holds of the members that are written of it
(`Layout.guarded`); nothing is gained from it that almost every field may be missing, since the
brace that closes the record is the last octet of all.
-/

namespace LogSteward.Json

/-- Reading has come to the end of the octets. -/
def RunsOut (r : Except Fault (α × Octets)) : Prop :=
  r = .error .truncated ∨ ∃ a, r = .ok (a, [])

theorem ends_nil : Ends [] :=
  nofun

/-- A text that goes on after `t` is cut in `t` or after the octet that follows. -/
theorem cut_at {t x p q : Octets} {b : UInt8} (h : t ++ b :: x = p ++ q) :
    p <+: t ∨ ∃ p', p = t ++ b :: p' ∧ x = p' ++ q := by
  rcases List.append_eq_append_iff.mp h with ⟨p', rfl, hx⟩ | ⟨t', rfl, -⟩
  · cases p' with
    | nil => exact .inl (by simp)
    | cons c p' =>
        obtain ⟨rfl, rfl⟩ := List.cons.inj hx
        exact .inr ⟨p', rfl, rfl⟩
  · exact .inl ⟨t', rfl⟩

/-- The octets are those of a text without some at its end. -/
def CutShort (p : Octets) (s : String) : Prop :=
  ∃ q, q ≠ [] ∧ Utf8.encode s = p ++ q

/-- The text is decoded as `a`, but not when octets are missing at its end. -/
structure OnlyWhole (read : Reader α) (a : α) (s : String) : Prop where
  whole : decode read s = .ok a
  octets : ∀ p, CutShort p s → decodeOctets read p = .error .truncated

/-- Neither when characters are missing. -/
theorem OnlyWhole.texts {read : Reader α} {a : α} {s : String} (h : OnlyWhole read a s) {t : String}
    (cut : CutShort (Utf8.encode t) s) : decode read t = .error .truncated :=
  h.octets _ cut

/-- The octets `t` are read as `a`, whatever follows, and to read less of them runs out. -/
structure Settles (read : Reader α) (a : α) (t : Octets) : Prop where
  complete : ∀ {rest}, Ends rest → read (t ++ rest) = .ok (a, rest)
  cut : ∀ {p}, p <+: t → RunsOut (read p)

/-- The first octet is neither a blank nor that of `null` nor the bracket that closes a list. -/
def Begins (t : Octets) : Prop :=
  ∃ b s, Octet.isBlank b = false ∧ b ≠ Octet.letterN ∧ b ≠ Octet.closeBracket ∧ t = b :: s

/-- What is written of a value is read as that value, and nothing is read of it as long as its last
octet is missing. -/
structure Guarded (read : Reader α) (F : Form α) (write : α → Json) : Prop where
  reads : Reads read F
  compact : ∀ a, F a (Utf8.encode (write a).compact)
  begins : ∀ a, Begins (Utf8.encode (write a).compact)
  cut : ∀ a {p q}, Utf8.encode (write a).compact = p ++ q → q ≠ [] → read p = .error .truncated

namespace Guarded

variable {α : Type} {read : Reader α} {F : Form α} {write : α → Json}

/-- What is written of a value is read whole, and nothing shorter is. -/
theorem settles (h : Guarded read F write) (a : α) :
    Settles read a (Utf8.encode (write a).compact) where
  complete := h.reads.complete (h.compact a)
  cut := by
    rintro p ⟨q, hq⟩
    by_cases hne : q = []
    · subst hne
      rw [List.append_nil] at hq
      have := h.reads.complete (h.compact a) ends_nil
      rw [List.append_nil] at this
      exact .inr ⟨a, hq ▸ this⟩
    · exact .inl (h.cut a hq.symm hne)

/-- **Of a text that is written the whole is decoded, and nothing less.** -/
theorem onlyWhole (h : Guarded read F write) (a : α) : OnlyWhole read a (write a).compact where
  whole := by
    have read_back := h.reads.decodeOctets blanks_nil (h.compact a) blanks_nil
    rwa [List.nil_append, List.append_nil] at read_back
  octets := by
    rintro p ⟨q, hq, hp⟩
    rw [decodeOctets, h.cut a hp hq]

end Guarded

/-! ### Strings -/

/-- A string that is cut is unfinished, or the cut comes after it. -/
theorem readQuoted_cut {st : Strand} {acc p q rest : Octets} {s : String}
    (h : readQuoted st acc (p ++ q) = .ok (s, rest)) :
    readQuoted st acc p = .error .truncated ∨
      ∃ r, readQuoted st acc p = .ok (s, r) ∧ rest = r ++ q := by
  induction p generalizing st acc with
  | nil => exact .inl rfl
  | cons b p ih =>
      rw [List.cons_append, readQuoted] at h
      rw [readQuoted]
      by_cases hb : st = .plain ∧ b = Octet.quote
      · rw [if_pos hb] at h ⊢
        cases hd : Utf8.decode? acc.reverse with
        | none =>
            rw [hd] at h
            cases h
        | some t =>
            rw [hd] at h
            cases h
            exact .inr ⟨p, rfl, rfl⟩
      · rw [if_neg hb] at h ⊢
        cases hs : st.step b with
        | error f =>
            rw [hs] at h
            cases h
        | ok next =>
            rw [hs] at h
            exact ih h

/-- A string is not read without its closing quote. -/
theorem readQuoted_unclosed {s : String} {body p q : Octets} (h : SpellsChars s.toList body)
    (hp : body ++ [Octet.quote] = p ++ q) (hq : q ≠ []) :
    readQuoted .plain [] p = .error .truncated := by
  have whole := readQuoted_spelling h []
  rw [hp] at whole
  rcases readQuoted_cut whole with short | ⟨r, -, hr⟩
  · exact short
  · exact absurd (List.append_eq_nil_iff.mp hr.symm).2 hq

theorem readKey_unclosed {key : String} {k p q : Octets} (hk : textForm key k) (hp : k = p ++ q)
    (hq : q ≠ []) : readKey p = .error .truncated := by
  obtain ⟨body, h, rfl⟩ := hk
  cases p with
  | nil => rfl
  | cons b p =>
      obtain ⟨rfl, rest⟩ := List.cons.inj hp
      rw [readKey, skipBlanks_cons rfl]
      exact readQuoted_unclosed h rest hq

theorem guarded_text : Guarded readText textForm text where
  reads := reads_text
  compact := textForm_compact
  begins s := by
    obtain ⟨body, -, hs⟩ := textForm_compact s
    exact ⟨_, _, rfl, by decide, by decide, hs⟩
  cut s p q hp hq := by
    obtain ⟨body, h, hs⟩ := textForm_compact s
    rw [hs] at hp
    cases p with
    | nil => rfl
    | cons b p =>
        obtain ⟨rfl, rest⟩ := List.cons.inj hp
        rw [readText, skipBlanks_cons rfl]
        exact readQuoted_unclosed h rest hq

/-! ### Whole numbers -/

/-- The first digits of a number are those of a number that is not greater. -/
theorem decimal_of_prefix {n : Nat} {p : Octets} (h : p <+: decimal n) (hne : p ≠ []) :
    ∃ m, p = decimal m ∧ m ≤ n ∧ (0 < n → 0 < m) := by
  induction n using Nat.strongRecOn with
  | ind n ih =>
      by_cases hn : n < 10
      · -- of a single digit there is no less
        refine ⟨n, ?_, Nat.le_refl n, id⟩
        rw [decimal, Nat.toDigits_of_lt_base hn, List.map_singleton] at h ⊢
        obtain ⟨ds, rfl, none⟩ := (List.prefix_cons_iff.mp h).resolve_left hne
        rw [List.prefix_nil.mp none]
      · have digits : decimal n = decimal (n / 10) ++ [UInt8.ofNat (n % 10).digitChar.toNat] := by
          rw [decimal, Nat.toDigits_of_base_le (by decide) (Nat.le_of_not_lt hn), List.map_append]
          rfl
        rw [digits] at h
        rcases List.prefix_concat_iff.mp h with rfl | h
        · exact ⟨n, digits.symm, Nat.le_refl n, id⟩
        · obtain ⟨m, rfl, hm, hpos⟩ := ih (n / 10) (by omega) h
          exact ⟨m, rfl, by omega, fun _ => hpos (by omega)⟩

/-- A whole number without its last digits is one between it and zero. -/
theorem integer_of_prefix {i : Int} {p : Octets} (h : p <+: Utf8.encode (toString i))
    (hne : p ≠ []) (hm : p ≠ [Octet.minus]) :
    ∃ j, p = Utf8.encode (toString j) ∧ (0 ≤ j ∧ j ≤ i ∨ i ≤ j ∧ j ≤ 0) := by
  cases i with
  | ofNat n =>
      have text (n : Nat) : Utf8.encode (toString (Int.ofNat n)) = decimal n := encode_toString n
      rw [text] at h
      obtain ⟨m, rfl, hle, -⟩ := decimal_of_prefix h hne
      exact ⟨m, (text m).symm, .inl ⟨by omega, by simpa using hle⟩⟩
  | negSucc n =>
      have text (n : Nat) : Utf8.encode (toString (Int.negSucc n))
          = Octet.minus :: decimal (n + 1) := by
        rw [← encode_toString]
        exact Utf8.encode_append "-" (toString (n + 1))
      rw [text] at h
      rcases List.prefix_cons_iff.mp h with rfl | ⟨ds, rfl, digits⟩
      · exact absurd rfl hne
      · obtain ⟨m, rfl, hle, hpos⟩ := decimal_of_prefix digits (fun hd => hm (by rw [hd]))
        obtain ⟨k, rfl⟩ : ∃ k, m = k + 1 := ⟨m - 1, by have := hpos (Nat.succ_pos n); omega⟩
        exact ⟨Int.negSucc k, (text k).symm, .inr ⟨by omega, by omega⟩⟩

/-- A whole number settles if its type has all those between it and zero. -/
theorem settles_integer {convert? : Int → Option α} {toInt : α → Int}
    (reads : Reads (readInteger convert?) (integerForm toInt))
    (between : ∀ a j, 0 ≤ j ∧ j ≤ toInt a ∨ toInt a ≤ j ∧ j ≤ 0 → ∃ b, toInt b = j) (a : α) :
    Settles (readInteger convert?) a (Utf8.encode (number (toInt a)).compact) where
  complete := reads.complete (integerForm_compact a)
  cut := by
    intro p h
    rw [compact] at h
    by_cases hne : p = []
    · exact .inl (by rw [hne]; rfl)
    by_cases hm : p = [Octet.minus]
    · exact .inl (by rw [hm]; rfl)
    obtain ⟨j, rfl, hj⟩ := integer_of_prefix h hne hm
    obtain ⟨b, rfl⟩ := between a j hj
    have := reads.complete (a := b) rfl ends_nil
    rw [List.append_nil] at this
    exact .inr ⟨b, this⟩

theorem settles_uint32 (n : UInt32) :
    Settles (readInteger uint32?) n (Utf8.encode (number n.toNat).compact) :=
  settles_integer reads_uint32
    (fun a j hj => ⟨UInt32.ofNat j.toNat, by
      have := a.toNat_lt
      rw [UInt32.toNat_ofNat_of_lt' (show j.toNat < 2 ^ 32 by omega)]
      omega⟩) n

theorem settles_uint64 (n : UInt64) :
    Settles (readInteger uint64?) n (Utf8.encode (number n.toNat).compact) :=
  settles_integer reads_uint64
    (fun a j hj => ⟨UInt64.ofNat j.toNat, by
      have := a.toNat_lt
      rw [UInt64.toNat_ofNat_of_lt' (show j.toNat < 2 ^ 64 by omega)]
      omega⟩) n

theorem settles_int64 (n : Int64) :
    Settles (readInteger int64?) n (Utf8.encode (number n.toInt).compact) :=
  settles_integer reads_int64
    (fun a j hj => ⟨Int64.ofInt j, by
      have := a.le_toInt
      have := a.toInt_lt
      rw [Int64.toInt_ofInt_of_le (by omega) (by omega)]⟩) n

/-- No whole number begins like anything else. -/
theorem begins_integer (i : Int) : Begins (Utf8.encode (number i).compact) := by
  rw [compact]
  cases i with
  | ofNat n =>
      obtain ⟨b, ds, hd, hb⟩ := exists_decimal_eq_cons n
      have text : Utf8.encode (toString (Int.ofNat n)) = b :: ds := (encode_toString n).trans hd
      exact ⟨b, ds, Octet.isBlank_of_isDigit hb, Octet.ne_of_isDigit hb rfl,
        Octet.ne_of_isDigit hb rfl, text⟩
  | negSucc n => exact ⟨_, _, rfl, by decide, by decide, Utf8.encode_append "-" _⟩

/-! ### Optional values -/

section Options

variable {α : Type} {read : Reader α}

/-- What does not begin like `null` is left to the reader of the value. -/
theorem readOption_value {s : Octets} (hs : skipBlanks s = s)
    (hn : ∀ rest, s ≠ Octet.letterN :: rest) :
    readOption read s = (read s).map fun r => (some r.1, r.2) := by
  rw [readOption, hs]
  split
  · exact absurd rfl (hn _)
  · cases read s <;> rfl

theorem settles_null (nil : read [] = .error .truncated) :
    Settles (readOption read) none (Utf8.encode null.compact) where
  complete := by
    intro rest _
    rw [compact]
    rfl
  cut := by
    intro p h
    rw [compact] at h
    have word : p <+: [0x6E, 0x75, 0x6C, 0x6C] := h
    simp only [List.prefix_cons_iff, List.prefix_nil] at word
    rcases word with rfl | ⟨_, rfl, rfl | ⟨_, rfl, rfl | ⟨_, rfl, rfl | ⟨_, rfl, rfl⟩⟩⟩⟩
    · rw [readOption_value rfl (by simp), nil]
      exact .inl rfl
    · exact .inl rfl
    · exact .inl rfl
    · exact .inl rfl
    · exact .inr ⟨none, rfl⟩

theorem Settles.some {a : α} {t : Octets} (h : Settles read a t) (begins : Begins t) :
    Settles (readOption read) (some a) t where
  complete := by
    intro rest he
    have whole := h.complete he
    obtain ⟨b, s, hb, hn, -, rfl⟩ := begins
    rw [List.cons_append] at whole ⊢
    rw [readOption_value (skipBlanks_cons hb _) fun _ he => hn (List.cons.inj he).1, whole]
    rfl
  cut := by
    intro p hp
    have runs := h.cut hp
    have short : readOption read p = (read p).map fun r => (Option.some r.1, r.2) := by
      cases p with
      | nil => exact readOption_value rfl (by simp)
      | cons c p =>
          obtain ⟨b, s, hb, hn, -, rfl⟩ := begins
          obtain ⟨rfl, -⟩ := List.cons_prefix_cons.mp hp
          exact readOption_value (skipBlanks_cons hb _) fun _ he => hn (List.cons.inj he).1
    rw [short]
    rcases runs with h | ⟨a, h⟩
    · exact .inl (by rw [h]; rfl)
    · exact .inr ⟨Option.some a, by rw [h]; rfl⟩

theorem Guarded.settles_some {F : Form α} {write : α → Json} (h : Guarded read F write) (a : α) :
    Settles (readOption read) (some a) (Utf8.encode (write a).compact) :=
  (h.settles a).some (h.begins a)

/-- What may be missing settles what is read, if what is there does. -/
theorem settles_option {write : α → Json} (nil : read [] = .error .truncated)
    (h : ∀ a, Settles read a (Utf8.encode (write a).compact))
    (begins : ∀ a, Begins (Utf8.encode (write a).compact)) :
    ∀ o : Option α, Settles (readOption read) o (Utf8.encode (ofOption write o).compact)
  | none => settles_null nil
  | some a => (h a).some (begins a)

end Options

/-! ### Lists -/

section Lists

variable {α : Type} {read : Reader α} {F : Form α} {write : α → Json}

/-- An element that has run out of octets is not followed by anything. -/
theorem readElements_runsOut {p : Octets} (h : RunsOut (read p)) :
    readElements read p = .error .truncated := by
  rw [readElements]
  rcases h with h | ⟨a, h⟩
  · rw [h]
  · rw [h]
    rfl

theorem readElements_unclosed (h : Guarded read F write) (a : α) (as : List α) {p q : Octets}
    (hp : Utf8.encode (compactList ((a :: as).map write)) ++ [Octet.closeBracket] = p ++ q)
    (hq : q ≠ []) : readElements read p = .error .truncated := by
  induction as generalizing a p with
  | nil =>
      simp only [List.map_cons, List.map_nil, compactList] at hp
      rcases cut_at hp with short | ⟨p', -, hr⟩
      · exact readElements_runsOut ((h.settles a).cut short)
      · exact absurd (List.append_eq_nil_iff.mp hr.symm).2 hq
  | cons b as ih =>
      simp only [List.map_cons, compactList, Utf8.encode_append, encode_comma, List.append_assoc,
        List.singleton_append] at hp
      rcases cut_at hp with short | ⟨p', rfl, hr⟩
      · exact readElements_runsOut ((h.settles a).cut short)
      · have := ih b hr
        rw [readElements, (h.settles a).complete (ends_cons rfl p')]
        simp only
        rw [skipBlanks_cons rfl]
        simp only
        rw [if_neg (by decide), if_pos trivial, if_pos (by simp; omega), this]

theorem encode_list (xs : List Json) : Utf8.encode (list xs).compact
    = Octet.openBracket :: (Utf8.encode (compactList xs) ++ [Octet.closeBracket]) := by
  rw [compact, Utf8.encode_append, Utf8.encode_append]
  rfl

/-- The text of elements begins with the first one. -/
theorem prefix_compactList (x : Json) (xs : List Json) :
    Utf8.encode x.compact <+: Utf8.encode (compactList (x :: xs)) := by
  cases xs with
  | nil => exact List.prefix_rfl
  | cons y ys =>
      simp only [compactList, Utf8.encode_append, List.append_assoc]
      exact List.prefix_append _ _

/-- No part of a list is one, if that holds of its elements. -/
theorem guarded_list (h : Guarded read F write) (opens : Form.Element F) :
    Guarded (readList read) (listForm F) fun as : List α => list (as.map write) where
  reads := reads_list h.reads opens
  compact := listForm_compact h.compact
  begins as := ⟨_, _, rfl, by decide, by decide, encode_list _⟩
  cut as p q hp hq := by
    rw [encode_list] at hp
    cases p with
    | nil => rfl
    | cons c p =>
        obtain ⟨rfl, body⟩ := List.cons.inj hp
        rw [readList_bracket]
        cases p with
        | nil => rfl
        | cons c p =>
            cases as with
            | nil =>
                obtain ⟨rfl, none⟩ := List.cons.inj body
                exact absurd (List.append_eq_nil_iff.mp none.symm).2 hq
            | cons a as =>
                -- the first element begins with something else than a closing bracket
                obtain ⟨b, s, hb, -, hne, first⟩ := h.begins a
                obtain ⟨t, ht⟩ := prefix_compactList (write a) (as.map write)
                have start := body
                rw [List.map_cons, ← ht, first] at start
                obtain ⟨rfl, -⟩ := List.cons.inj start
                have unclosed := readElements_unclosed h a as body hq
                rw [skipBlanks_cons hb]
                split
                · rfl
                · next hc => exact absurd (List.cons.inj hc).1 hne
                · exact unclosed

end Lists

/-! ### Objects -/

section Objects

variable {σ : Type} {onMember : σ → String → Octets → Except Fault (σ × Octets)}

/-- A member is read, whatever follows, and to read less of it runs out of octets. -/
structure Sure (onMember : σ → String → Octets → Except Fault (σ × Octets)) (s : σ) (key : String)
    (t : Octets) (s' : σ) : Prop where
  complete : ∀ {rest}, Ends rest → onMember s key (t ++ rest) = .ok (s', rest)
  cut : ∀ {p}, p <+: t → RunsOut (onMember s key p)

theorem readKey_quoted (key : String) (rest : Octets) :
    readKey (Utf8.encode (quoted key) ++ rest) = .ok (key, rest) := by
  have read := readKey_spelling blanks_nil (textForm_quoted key) rest
  rwa [List.nil_append] at read

/-- The members are cut in this one, or after the octet that follows it. -/
theorem readMembers_cut {s s' : σ} {key : String} {t x p q : Octets} {b : UInt8}
    (h : Sure onMember s key t s') (hp : Utf8.encode (quoted key) ++ (t ++ b :: x) = p ++ q) :
    readMembers onMember s p = .error .truncated ∨
      ∃ p', p = Utf8.encode (quoted key) ++ (t ++ b :: p') ∧ x = p' ++ q := by
  generalize hkey : Utf8.encode (quoted key) = k at hp ⊢
  have hk : textForm key k := hkey ▸ textForm_quoted key
  have runsOut {p' : Octets} (hp : p' <+: t) :
      readMembers onMember s (k ++ p') = .error .truncated := by
    rw [readMembers, ← hkey, readKey_quoted]
    simp only
    rcases h.cut hp with h | ⟨s'', h⟩
    · rw [h]
    · rw [h]
      rfl
  rcases List.append_eq_append_iff.mp hp with ⟨p', rfl, rest⟩ | ⟨k', hk', -⟩
  · rcases cut_at rest with short | ⟨p'', rfl, hx⟩
    · exact .inl (runsOut short)
    · exact .inr ⟨p'', rfl, hx⟩
  · by_cases hne : k' = []
    · rw [hne, List.append_nil] at hk'
      rw [← hk', ← List.append_nil k]
      exact .inl (runsOut List.nil_prefix)
    · refine .inl ?_
      rw [readMembers, readKey_unclosed hk hk' hne]

theorem readMembers_unclosed {s s' : σ} {m : String × Json} {ms : List (String × Json)}
    (h : Written (Sure onMember) s (m :: ms) s') {p q : Octets}
    (hp : Utf8.encode (compactMembers (m :: ms)) ++ [Octet.closeBrace] = p ++ q) (hq : q ≠ []) :
    readMembers onMember s p = .error .truncated := by
  induction ms generalizing s m p with
  | nil =>
      obtain ⟨key, x⟩ := m
      cases h with
      | cons h _ =>
          simp only [compactMembers, Utf8.encode_append, encode_colon, List.append_assoc,
            List.singleton_append] at hp
          rcases readMembers_cut h hp with short | ⟨p', -, hx⟩
          · exact short
          · exact absurd (List.append_eq_nil_iff.mp hx.symm).2 hq
  | cons m' ms ih =>
      obtain ⟨key, x⟩ := m
      cases h with
      | cons h hs =>
          simp only [compactMembers, Utf8.encode_append, encode_colon, encode_comma,
            List.append_assoc, List.singleton_append] at hp
          rcases readMembers_cut h hp with short | ⟨p', hp', hx⟩
          · exact short
          · have next := readMembers_cons blanks_nil (textForm_quoted key) blanks_nil
              (fun _ he => h.complete he) p'
            rw [List.nil_append, List.nil_append] at next
            rw [hp', next, ih hs hx]

theorem encode_object (ms : List (String × Json)) : Utf8.encode (object ms).compact
    = Octet.openBrace :: (Utf8.encode (compactMembers ms) ++ [Octet.closeBrace]) := by
  rw [compact, Utf8.encode_append, Utf8.encode_append]
  rfl

/-- The text of members begins with the first key. -/
theorem prefix_compactMembers (m : String × Json) (ms : List (String × Json)) :
    Utf8.encode (quoted m.1) <+: Utf8.encode (compactMembers (m :: ms)) := by
  obtain ⟨key, x⟩ := m
  cases ms <;> simp only [compactMembers, Utf8.encode_append, List.append_assoc] <;>
    exact List.prefix_append _ _

/-- An object is not read without its closing brace. -/
theorem readObject_unclosed {s s' : σ} {ms : List (String × Json)}
    (h : Written (Sure onMember) s ms s') {p q : Octets}
    (hp : Utf8.encode (compactMembers ms) ++ [Octet.closeBrace] = p ++ q) (hq : q ≠ []) :
    readObject onMember s p = .error .truncated := by
  cases p with
  | nil => rfl
  | cons c p =>
      cases ms with
      | nil =>
          obtain ⟨rfl, none⟩ := List.cons.inj hp
          exact absurd (List.append_eq_nil_iff.mp none.symm).2 hq
      | cons m ms =>
          obtain ⟨key, x⟩ := m
          obtain ⟨body, -, hk⟩ := textForm_quoted key
          obtain ⟨t, ht⟩ := prefix_compactMembers (key, x) ms
          have first := hp
          rw [← ht, hk] at first
          obtain ⟨rfl, -⟩ := List.cons.inj first
          have unclosed := readMembers_unclosed h hp hq
          rw [readObject, skipBlanks_cons rfl]
          exact unclosed

end Objects

theorem readColon_colon (s : Octets) : readColon (Octet.colon :: s) = .ok s :=
  readColon_blanks blanks_nil s

/-! ### Dictionaries -/

section Dictionaries

variable {α : Type} {read : Reader α}

theorem sure_entry {a : α} {t : Octets} (h : Settles read a t) (acc : List (String × α))
    (key : String) : Sure (onEntry read) acc key (Octet.colon :: t) ((key, a) :: acc) where
  complete he := by
    rw [List.cons_append, onEntry, readColon_colon]
    simp only [h.complete he]
  cut := by
    intro p hp
    rcases List.prefix_cons_iff.mp hp with rfl | ⟨p', rfl, hp'⟩
    · exact .inl rfl
    · rw [onEntry, readColon_colon]
      rcases h.cut hp' with hr | ⟨a', hr⟩ <;> simp only [hr]
      · exact .inl rfl
      · exact .inr ⟨_, rfl⟩

variable {F : Form α} {write : α → Json}

/-- The entries of a dictionary as they are written. -/
def entriesJson (write : α → Json) (entries : List (String × α)) : Json :=
  object (entries.map fun e => (e.1, write e.2))

theorem written_entries (h : Guarded read F write) (entries acc : List (String × α)) :
    ∃ acc', Written (Sure (onEntry read)) acc (entries.map fun e => (e.1, write e.2)) acc' := by
  induction entries generalizing acc with
  | nil => exact ⟨acc, .nil⟩
  | cons e es ih =>
      obtain ⟨key, a⟩ := e
      obtain ⟨acc', written⟩ := ih ((key, a) :: acc)
      exact ⟨acc', .cons (sure_entry (h.settles a) acc key) written⟩

theorem dictionaryForm_compact (compact : ∀ a, F a (Utf8.encode (write a).compact))
    (entries : List (String × α)) :
    dictionaryForm F entries (Utf8.encode (entriesJson write entries).compact) := by
  have written (acc : List (String × α)) :
      Written (Entry F) acc (entries.map fun e => (e.1, write e.2)) (acc ++ entries) := by
    induction entries generalizing acc with
    | nil =>
        rw [List.append_nil]
        exact .nil
    | cons e es ih =>
        rw [List.append_cons]
        exact .cons (Entry.written acc e.1 (compact e.2)) (ih _)
  exact objectForm_compact (written [])

/-- A dictionary is not read without its closing brace. -/
theorem guarded_dictionary (h : Guarded read F write) :
    Guarded (readDictionary read) (dictionaryForm F) (entriesJson write) where
  reads := reads_dictionary h.reads
  compact := dictionaryForm_compact h.compact
  begins entries := ⟨_, _, rfl, by decide, by decide, encode_object _⟩
  cut entries p q hp hq := by
    rw [entriesJson, encode_object] at hp
    cases p with
    | nil => rfl
    | cons c p =>
        obtain ⟨rfl, body⟩ := List.cons.inj hp
        obtain ⟨acc', written⟩ := written_entries h entries []
        rw [readDictionary_brace, readObject_unclosed written body hq]

end Dictionaries

/-! ### Records -/

namespace Layout

variable {α : Type} {L : Layout α}

theorem sure_field {slots : L.Slots} {key : String} {f : L.Field} {v : L.Value f} {t : Octets}
    (hf : L.field? key = some f) (new : slots f = none) (h : Settles (L.read f) v t) :
    Sure L.onMember slots key (Octet.colon :: t) (slots.set f v) where
  complete he := by
    simp only [onMember, hf, new, Option.isSome_none, Bool.false_eq_true, if_false,
      List.cons_append, readColon_colon, h.complete he]
  cut := by
    intro p hp
    simp only [onMember, hf, new, Option.isSome_none, Bool.false_eq_true, if_false]
    rcases List.prefix_cons_iff.mp hp with rfl | ⟨p', rfl, hp'⟩
    · exact .inl rfl
    · rw [readColon_colon]
      rcases h.cut hp' with hr | ⟨v', hr⟩ <;> simp only [hr]
      · exact .inl rfl
      · exact .inr ⟨_, rfl⟩

/-- The members as they are written are fields, and their values settle. -/
inductive Fitting (L : Layout α) : List (String × Json) → Prop where
  | nil : L.Fitting []
  | cons {key : String} {x : Json} {ms : List (String × Json)} {f : L.Field} {v : L.Value f}
      (hf : L.field? key = some f) (hv : Settles (L.read f) v (Utf8.encode x.compact))
      (hs : L.Fitting ms) : L.Fitting ((key, x) :: ms)

theorem key_of_field? {key : String} {f : L.Field} (h : L.field? key = some f) : L.key f = key := by
  simpa using List.find?_some h

/-- All fields of a record are read for sure. -/
theorem written_fields {ms : List (String × Json)} (fitting : L.Fitting ms)
    (nodup : (ms.map Prod.fst).Nodup) {slots : L.Slots}
    (new : ∀ m ∈ ms, ∀ f, L.field? m.1 = some f → slots f = none) :
    ∃ slots', Written (Sure L.onMember) slots ms slots' := by
  induction fitting generalizing slots with
  | nil => exact ⟨slots, .nil⟩
  | @cons key x ms f v hf hv _ ih =>
      obtain ⟨hnot, nodup⟩ := List.nodup_cons.mp nodup
      obtain ⟨hnew, new⟩ := List.forall_mem_cons.mp new
      have later : ∀ m ∈ ms, ∀ g, L.field? m.1 = some g → slots.set f v g = none := by
        intro m hm g hg
        -- a field with the same key would be the same member again
        have hne : g ≠ f := by
          rintro rfl
          have same : m.1 = key := (key_of_field? hg).symm.trans (key_of_field? hf)
          exact hnot (List.mem_map.mpr ⟨m, hm, same⟩)
        rw [Slots.set_of_ne _ hne, new m hm g hg]
      obtain ⟨slots', written⟩ := ih nodup later
      exact ⟨slots', .cons (sure_field hf (hnew f hf) hv) written⟩

/-- **A record that is cut short is not read**, if each member that is written is a field of it and
settles. -/
theorem guarded {F : Form α} {write : α → Json} (reads : Reads L.reader F)
    (compact : ∀ a, F a (Utf8.encode (write a).compact))
    (members : ∀ a, ∃ ms, write a = object ms ∧ (ms.map Prod.fst).Nodup ∧ L.Fitting ms) :
    Guarded L.reader F write where
  reads := reads
  compact := compact
  begins a := by
    obtain ⟨ms, hms, -⟩ := members a
    rw [hms, encode_object]
    exact ⟨_, _, rfl, by decide, by decide, rfl⟩
  cut a p q hp hq := by
    obtain ⟨ms, hms, nodup, fitting⟩ := members a
    rw [hms, encode_object] at hp
    cases p with
    | nil => rfl
    | cons c p =>
        obtain ⟨rfl, body⟩ := List.cons.inj hp
        have new : ∀ m ∈ ms, ∀ f, L.field? m.1 = some f → L.empty f = none := fun _ _ _ _ => rfl
        obtain ⟨slots, written⟩ := written_fields fitting nodup new
        rw [reader_brace, readObject_unclosed written body hq]

end Layout

end LogSteward.Json
