import LogSteward.Proofs.Json.Numerals
import LogSteward.Proofs.Json.Records
import Mathlib.Data.List.Forall2
import Mathlib.Data.List.Nodup
import LogSteward.Lifecycle.Format

/-!
# Written values

The compact text of an object is an object (`objectForm_compact`): its members are those written,
in their order, without blanks.  So what is written of a record is read as that record, as soon as
each member written is one of its fields.
-/

namespace LogSteward.Json

theorem integerForm_compact {toInt : α → Int} (a : α) :
    integerForm toInt a (Utf8.encode (number (toInt a)).compact) := by
  rw [compact]
  rfl

theorem textForm_compact (s : String) : textForm s (Utf8.encode (text s).compact) := by
  rw [compact]
  exact textForm_quoted s

/-! ### Well-formedness -/

theorem Loose.append_plains {t s : Octets} (ht : ∀ b ∈ t, Octet.isPlain b = true) (hs : Loose s) :
    Loose (t ++ s) := by
  induction t with
  | nil => exact hs
  | cons b t ih =>
      obtain ⟨hb, ht⟩ := List.forall_mem_cons.mp ht
      simp only [Octet.isPlain, Bool.and_eq_true, bne_iff_ne, Bool.not_eq_true'] at hb
      exact .plain hb.1.1 hb.1.2 hb.2 (ih ht)

/-- A spelling of a character may stand in a string that nobody reads. -/
theorem SpellsChar.loose {c : Char} {t s : Octets} (h : SpellsChar c t) (hs : Loose s) :
    Loose (t ++ s) := by
  cases h with
  | plain quote backslash control =>
      exact .append_plains (isPlain_utf8EncodeChar quote backslash control) hs
  | @short e h =>
      have known : ∀ p ∈ shortEscapes,
          (Octet.shortEscape? (UInt8.ofNat p.1.toNat)).isSome = true := by decide
      exact .short (known _ h) hs
  | code length h => exact .code length (by rw [h]; rfl) hs
  | pair length length' h h' _ _ _ =>
      simp only [List.cons_append, List.append_assoc]
      exact .code length (by rw [h]; rfl) (.code length' (by rw [h']; rfl) hs)

theorem SpellsChars.loose {cs : List Char} {t : Octets} (h : SpellsChars cs t) : Loose t := by
  induction h with
  | nil => exact .nil
  | cons h _ ih => exact h.loose ih

theorem loose_quoted (s : String) :
    ∃ t, Loose t ∧ Utf8.encode (quoted s) = Octet.quote :: (t ++ [Octet.quote]) := by
  obtain ⟨t, h, ht⟩ := textForm_quoted s
  exact ⟨t, h.loose, ht⟩

/-- The digits of a number before its point. -/
theorem whole_decimal (n : Nat) :
    decimal n = [Octet.zero] ∨ Digits (decimal n) ∧ (decimal n).head? ≠ some Octet.zero := by
  rcases Nat.eq_zero_or_pos n with rfl | hn
  · exact .inl rfl
  · refine .inr ⟨⟨decimal_ne_nil n, fun d hd => isDigit_of_mem_decimal hd⟩, fun h => ?_⟩
    rw [decimal, List.head?_map, Option.map_eq_some_iff] at h
    obtain ⟨c, hc, h0⟩ := h
    have hm := toNat_of_mem_toDigits (List.mem_of_mem_head? hc)
    have hv : c.toNat = 0x30 := by
      have := congrArg UInt8.toNat h0
      rwa [Utf8.toNat_ofNat (by omega)] at this
    exact head?_toDigits_ne hn (by rw [hc, Char.toNat_inj.mp (show c.toNat = '0'.toNat from hv)])

theorem isNumber_decimal {sign : Octets} (hs : sign = [] ∨ sign = [Octet.minus]) (n : Nat) :
    IsNumber (sign ++ decimal n) := by
  have := IsNumber.mk hs (whole_decimal n) (.inl rfl) (.inl rfl)
  rwa [List.append_nil, List.append_nil] at this

theorem isNumber_toString (n : Int) : IsNumber (Utf8.encode (toString n)) := by
  cases n with
  | ofNat n => exact encode_toString n ▸ isNumber_decimal (.inl rfl) n
  | negSucc n =>
      have text : Utf8.encode (toString (Int.negSucc n)) = [Octet.minus] ++ decimal (n + 1) := by
        rw [← encode_toString]
        exact Utf8.encode_append "-" (toString (n + 1))
      rw [text]
      exact isNumber_decimal (.inr rfl) (n + 1)

theorem encode_colon : Utf8.encode ":" = [Octet.colon] :=
  rfl

theorem encode_comma : Utf8.encode "," = [Octet.comma] :=
  rfl

theorem WellFormed.alone {t : Octets} (h : WellFormed .value t) : WellFormed .slot t := by
  have := WellFormed.slot blanks_nil h blanks_nil
  rwa [List.nil_append, List.append_nil] at this

theorem wellFormed_member (key : String) {t : Octets} (h : WellFormed .value t) :
    WellFormed .member (Utf8.encode (quoted key) ++ Octet.colon :: t) := by
  obtain ⟨k, hk, he⟩ := loose_quoted key
  have := WellFormed.member blanks_nil hk blanks_nil h.alone
  rw [he]
  simpa using this

-- one theorem for each of the functions that write: a value, the elements of a list, the members of
-- an object
mutual

/-- **Every value is written as well-formed JSON.** -/
theorem wellFormed_compact : ∀ x : Json, WellFormed .value (Utf8.encode x.compact)
  | null => by
      rw [compact]
      exact .word (by decide)
  | flag b => by
      rw [compact]
      cases b <;> exact .word (by decide)
  | number n => by
      rw [compact]
      exact .number (isNumber_toString n)
  | text s => by
      obtain ⟨t, ht, he⟩ := loose_quoted s
      rw [compact, he]
      exact .text ht
  | list [] => by
      rw [compact]
      exact .emptyList blanks_nil
  | list (x :: xs) => by
      rw [compact, Utf8.encode_append, Utf8.encode_append]
      exact .list (wellFormed_compactList (x :: xs) (by simp))
  | object [] => by
      rw [compact]
      exact .emptyObject blanks_nil
  | object (m :: ms) => by
      rw [compact, Utf8.encode_append, Utf8.encode_append]
      exact .object (wellFormed_compactMembers (m :: ms) (by simp))

theorem wellFormed_compactList :
    ∀ xs : List Json, xs ≠ [] → WellFormed .elements (Utf8.encode (compactList xs))
  | [], h => absurd rfl h
  | [x], _ => .element (wellFormed_compact x).alone
  | x :: y :: xs, _ => by
      have := WellFormed.elements (wellFormed_compact x).alone
        (wellFormed_compactList (y :: xs) (by simp))
      simpa [compactList, encode_comma] using this

theorem wellFormed_compactMembers :
    ∀ ms : List (String × Json), ms ≠ [] → WellFormed .members (Utf8.encode (compactMembers ms))
  | [], h => absurd rfl h
  | [(key, x)], _ => by
      have := WellFormed.lastMember (wellFormed_member key (wellFormed_compact x))
      simpa [compactMembers, encode_colon] using this
  | (key, x) :: m :: ms, _ => by
      have := WellFormed.members (wellFormed_member key (wellFormed_compact x))
        (wellFormed_compactMembers (m :: ms) (by simp))
      simpa [compactMembers, encode_colon, encode_comma] using this

end

/-! ### Objects -/

section Objects

variable {σ : Type} {Row : σ → String → Octets → σ → Prop}

/-- The members as they are written take what they amount to from `s` to `s'`. -/
inductive Written (Row : σ → String → Octets → σ → Prop) : σ → List (String × Json) → σ → Prop where
  | nil {s : σ} : Written Row s [] s
  | cons {s s' s'' : σ} {key : String} {x : Json} {ms : List (String × Json)}
      (h : Row s key (Octet.colon :: Utf8.encode x.compact) s') (hs : Written Row s' ms s'') :
      Written Row s ((key, x) :: ms) s''

/-- One more member at the front. -/
theorem Members.cons {s s' s'' : σ} {key : String} {w k t w' ts : Octets} (hw : Blanks w)
    (hk : textForm key k) (h : Row s key t s') (hw' : Blanks w') (hs : Members Row s' ts s'') :
    Members Row s (w ++ (k ++ (t ++ (w' ++ Octet.comma :: ts)))) s'' := by
  obtain ⟨hl, hw₁, hk', h', hw₁'⟩ := hs
  have := Members.mk (Leading.cons hw hk h hw' hl) hw₁ hk' h' hw₁'
  simpa using this

/-- What is written of members spells them. -/
theorem members_compact {s s' : σ} {m : String × Json} {ms : List (String × Json)}
    (h : Written Row s (m :: ms) s') :
    Members Row s (Utf8.encode (compactMembers (m :: ms))) s' := by
  induction ms generalizing s m with
  | nil =>
      obtain ⟨key, x⟩ := m
      cases h with
      | cons h hs =>
          cases hs
          have := Members.mk .nil blanks_nil (textForm_quoted key) h blanks_nil
          simpa [compactMembers, encode_colon, encode_comma] using this
  | cons m' ms ih =>
      obtain ⟨key, x⟩ := m
      cases h with
      | cons h hs =>
          have := Members.cons blanks_nil (textForm_quoted key) h blanks_nil (ih hs)
          simpa [compactMembers, encode_colon, encode_comma] using this

/-- **A written object is an object** with the members written. -/
theorem objectForm_compact {s s' : σ} {ms : List (String × Json)} (h : Written Row s ms s') :
    objectForm Row s s' (Utf8.encode (object ms).compact) := by
  refine ⟨Utf8.encode (compactMembers ms), ?_, ?_⟩
  · rw [compact, Utf8.encode_append, Utf8.encode_append]
    rfl
  · cases ms with
    | nil =>
        cases h
        exact .inl ⟨blanks_nil, rfl⟩
    | cons m ms => exact .inr (members_compact h)

end Objects

theorem Entry.written {α : Type} {F : Form α} (entries : List (String × α)) (key : String) {a : α}
    {x : Json} (h : F a (Utf8.encode x.compact)) :
    Entry F entries key (Octet.colon :: Utf8.encode x.compact) (entries ++ [(key, a)]) :=
  .mk blanks_nil blanks_nil h

/-! ### Records -/

namespace Layout

variable {α : Type} {L : Layout α} {F : (f : L.Field) → Form (L.Value f)}

theorem Slots.set_of_ne (slots : L.Slots) {f g : L.Field} (h : g ≠ f) (v : L.Value f) :
    slots.set f v g = slots g := by
  simp [Slots.set, h]

/-- A field with its value. -/
abbrev Filled (L : Layout α) : Type := (f : L.Field) × L.Value f

/-- More fields have been read, one after the other. -/
def Slots.fill (slots : L.Slots) : List L.Filled → L.Slots
  | [] => slots
  | v :: vs => fill (slots.set v.1 v.2) vs

/-- A member as it is written is a field with its value. -/
def Writes (L : Layout α) (F : (f : L.Field) → Form (L.Value f)) (m : String × Json)
    (v : L.Filled) : Prop :=
  L.key v.1 = m.1 ∧ F v.1 v.2 (Utf8.encode m.2.compact)

theorem Row.written {slots : L.Slots} {f : L.Field} {v : L.Value f} {x : Json}
    (new : slots f = none) (h : F f v (Utf8.encode x.compact)) :
    L.Row F slots (L.key f) (Octet.colon :: Utf8.encode x.compact) (slots.set f v) :=
  .known new blanks_nil blanks_nil h

/-- A member that is no field may have any value. -/
theorem Row.unasked (slots : L.Slots) {key : String} (new : ∀ f ∈ L.fields, L.key f ≠ key)
    (x : Json) : L.Row F slots key (Octet.colon :: Utf8.encode x.compact) slots :=
  .unknown new blanks_nil blanks_nil (wellFormed_compact x)

/-- Fields that are written once each are read as they are written. -/
theorem written_of_writes {ms : List (String × Json)} {vs : List L.Filled}
    (h : List.Forall₂ (L.Writes F) ms vs) (nodup : (vs.map Sigma.fst).Nodup) {slots : L.Slots}
    (new : ∀ v ∈ vs, slots v.1 = none) :
    Written (L.Row F) slots ms (slots.fill vs) := by
  induction h generalizing slots with
  | nil => exact .nil
  | @cons m v ms vs hm _ ih =>
      obtain ⟨key, x⟩ := m
      obtain ⟨rfl, hx⟩ := hm
      obtain ⟨hnot, nodup⟩ := List.nodup_cons.mp nodup
      obtain ⟨hv, new⟩ := List.forall_mem_cons.mp new
      refine .cons (Row.written hv hx) (ih nodup fun v' hv' => ?_)
      -- the slot of a later member is still empty, since no field is written twice
      have hne : v'.1 ≠ v.1 := fun e => hnot (e ▸ List.mem_map_of_mem hv')
      rw [Slots.set_of_ne _ hne, new v' hv']

/-- A record that is written spells what is built from it. -/
theorem form_of_written {a : α} {ms : List (String × Json)} {slots : L.Slots}
    (h : Written (L.Row F) L.empty ms slots) (build : L.build? slots = some a) :
    L.form F a (Utf8.encode (object ms).compact) :=
  ⟨slots, objectForm_compact h, build⟩

/-- **A written record spells that record** if the members written are fields of it. -/
theorem form_compact {a : α} {ms : List (String × Json)} (vs : List L.Filled)
    (nodup : (vs.map Sigma.fst).Nodup) (h : List.Forall₂ (L.Writes F) ms vs)
    (build : L.build? (L.empty.fill vs) = some a) :
    L.form F a (Utf8.encode (object ms).compact) :=
  form_of_written (written_of_writes h nodup fun _ _ => rfl) build

/-- A record of one field, which is written. -/
theorem form_compact_single {β : Type} {key : String} {read : Reader β}
    {build? : Option β → Option α} {F : Form β} {a : α} {b : β} {x : Json}
    (h : F b (Utf8.encode x.compact)) (build : build? (some b) = some a) :
    (single key read build?).form (fun _ => F) a (Utf8.encode (object [(key, x)]).compact) :=
  form_compact [⟨(), b⟩] (List.nodup_singleton _) (.cons ⟨rfl, h⟩ .nil) build

/-- A field that is left out when its value is absent. -/
theorem writes_member {β : Type} {key : String} {write : β → Json} (f : L.Field)
    (v : β → L.Value f) (hk : L.key f = key)
    (h : ∀ b, F f (v b) (Utf8.encode (write b).compact)) :
    ∀ o : Option β, List.Forall₂ (L.Writes F) (Json.member key write o)
      (o.toList.map fun b => ⟨f, v b⟩)
  | none => .nil
  | some b => .cons ⟨hk, h b⟩ .nil

end Layout

end LogSteward.Json
