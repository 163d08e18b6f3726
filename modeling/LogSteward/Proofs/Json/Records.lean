import LogSteward.Proofs.Json.Skipping
import LogSteward.Proofs.Json.Strings

/-!
# Objects, records and dictionaries

What a reader makes of an object follows from what it makes of one member: `readObject` goes along
the members as `Row` does (`readObject_object`), and a fault in one of them is the fault of the
object, whatever comes after it (`readObject_fault`).

A record is read from any object that has its fields (`Layout.reads_reader`): in any order, with
any members besides them.  A dictionary is read with its entries in their order.
-/

namespace LogSteward.Json

theorem readColon_blanks {w : Octets} (hw : Blanks w) (s : Octets) :
    readColon (w ++ Octet.colon :: s) = .ok s := by
  rw [readColon, skipBlanks_append hw, skipBlanks_cons rfl]
  rfl

/-! ### Members -/

section Members

variable {σ τ : Type} {Row : σ → String → Octets → σ → Prop} {φ : σ → τ}
  {onMember : τ → String → Octets → Except Fault (τ × Octets)}

/-- A member before a comma. -/
theorem readMembers_cons {s s' : τ} {key : String} {w k t w' : Octets} (hw : Blanks w)
    (hk : textForm key k) (hw' : Blanks w')
    (h : ∀ rest, Ends rest → onMember s key (t ++ rest) = .ok (s', rest)) (x : Octets) :
    readMembers onMember s (w ++ (k ++ (t ++ (w' ++ Octet.comma :: x))))
      = readMembers onMember s' x := by
  rw [readMembers, readKey_spelling hw hk]
  simp only
  rw [h _ (ends_append hw' (ends_cons rfl x))]
  simp only
  rw [skipBlanks_append hw', skipBlanks_cons rfl]
  simp only
  -- the members go on, as there is less left after the comma than there was before the key
  rw [if_neg (by decide), if_pos trivial, if_pos (by simp; omega)]

/-- The last member. -/
theorem readMembers_last {s s' : τ} {key : String} {w k t w' : Octets} (hw : Blanks w)
    (hk : textForm key k) (hw' : Blanks w')
    (h : ∀ rest, Ends rest → onMember s key (t ++ rest) = .ok (s', rest)) (x : Octets) :
    readMembers onMember s (w ++ (k ++ (t ++ (w' ++ Octet.closeBrace :: x)))) = .ok (s', x) := by
  rw [readMembers, readKey_spelling hw hk]
  simp only
  rw [h _ (ends_append hw' (ends_cons rfl x))]
  simp only
  rw [skipBlanks_append hw', skipBlanks_cons rfl]
  simp only
  rw [if_pos trivial]

/-- A member that cannot be read. -/
theorem readMembers_fault {s : τ} {key : String} {w k x : Octets} (hw : Blanks w)
    (hk : textForm key k) {f : Fault} (h : onMember s key x = .error f) :
    readMembers onMember s (w ++ (k ++ x)) = .error f := by
  rw [readMembers, readKey_spelling hw hk]
  simp only
  rw [h]

/-- An object with a member. -/
theorem readObject_members {key : String} {w k : Octets} (hw : Blanks w) (hk : textForm key k)
    (s : τ) (x : Octets) :
    readObject onMember s (w ++ (k ++ x)) = readMembers onMember s (k ++ x) := by
  obtain ⟨body, -, rfl⟩ := hk
  rw [readObject, skipBlanks_append hw, List.cons_append, skipBlanks_cons rfl]
  rfl

/-- `onMember` goes along a member as `Row` does, up to `φ`. -/
def Follows (Row : σ → String → Octets → σ → Prop) (φ : σ → τ)
    (onMember : τ → String → Octets → Except Fault (τ × Octets)) : Prop :=
  ∀ ⦃s s' key t⦄, Row s key t s' → ∀ rest, Ends rest →
    onMember (φ s) key (t ++ rest) = .ok (φ s', rest)

/-- Members are read one by one, whatever comes after them. -/
theorem readMembers_leading (hf : Follows Row φ onMember) {s s' : σ} {lead : Octets}
    (hl : Leading Row s lead s') (x : Octets) :
    readMembers onMember (φ s) (lead ++ x) = readMembers onMember (φ s') x := by
  induction hl with
  | nil => rfl
  | cons hw hk h hw' _ ih =>
      simp only [List.append_assoc, List.cons_append]
      rw [readMembers_cons hw hk hw' (hf h), ih]

/-- The reading of an object gets to each member, blanks before the first key left out. -/
theorem readObject_leading (hf : Follows Row φ onMember) {s s' : σ} {lead : Octets}
    (hl : Leading Row s lead s') {key : String} {w k : Octets} (hw : Blanks w)
    (hk : textForm key k) (x : Octets) :
    ∃ w', Blanks w' ∧ readObject onMember (φ s) (lead ++ (w ++ (k ++ x)))
      = readMembers onMember (φ s') (w' ++ (k ++ x)) := by
  cases hl with
  | nil => exact ⟨[], blanks_nil, readObject_members hw hk _ x⟩
  | cons hw₁ hk₁ h hw₁' hs =>
      refine ⟨w, hw, ?_⟩
      simp only [List.append_assoc, List.cons_append]
      -- the blanks before the first key are gone once the brace is passed
      rw [readObject_members hw₁ hk₁]
      rw [← List.nil_append (_ ++ _), readMembers_cons blanks_nil hk₁ hw₁' (hf h),
        readMembers_leading hf hs]

/-- An object is read up to and with its closing brace. -/
theorem readObject_object (hf : Follows Row φ onMember) {s s' : σ} {t : Octets}
    (h : objectForm Row s s' t) : ∃ body, t = Octet.openBrace :: body ∧ ∀ rest,
      readObject onMember (φ s) (body ++ rest) = .ok (φ s', rest) := by
  obtain ⟨body, rfl, h⟩ := h
  refine ⟨body ++ [Octet.closeBrace], rfl, fun rest => ?_⟩
  rw [List.append_assoc, List.singleton_append]
  rcases h with ⟨hw, rfl⟩ | ⟨hl, hw, hk, h, hw'⟩
  · rw [readObject, skipBlanks_append hw, skipBlanks_cons rfl]
    rfl
  · simp only [List.append_assoc]
    obtain ⟨w₁, hw₁, hr⟩ := readObject_leading hf hl hw hk _
    rw [hr, readMembers_last hw₁ hk hw' (hf h)]

/-- A member that cannot be read is the fault of the object. -/
theorem readObject_fault (hf : Follows Row φ onMember) {s s' : σ} {lead : Octets}
    (hl : Leading Row s lead s') {key : String} {w k x : Octets} (hw : Blanks w)
    (hk : textForm key k) {f : Fault} (h : onMember (φ s') key x = .error f) :
    readObject onMember (φ s) (lead ++ (w ++ (k ++ x))) = .error f := by
  obtain ⟨w₁, hw₁, hr⟩ := readObject_leading hf hl hw hk x
  rw [hr, readMembers_fault hw₁ hk h]

end Members

/-! ### Records -/

namespace Layout

variable {α : Type} {L : Layout α} {F : (f : L.Field) → Form (L.Value f)}

theorem field?_eq_none {key : String} (h : ∀ f ∈ L.fields, L.key f ≠ key) :
    L.field? key = none := by
  simpa [field?] using h

/-- A record's reader goes along its members. -/
theorem follows_onMember (keys : ∀ f, L.field? (L.key f) = some f)
    (reads : ∀ f, Reads (L.read f) (F f)) : Follows (L.Row F) id L.onMember := by
  intro s s' key t h rest he
  cases h with
  | @known f v w w' t new hw hw' h =>
      simp only [onMember, keys, id, new, List.append_assoc, List.cons_append]
      rw [readColon_blanks hw]
      simp only [(reads f).padded hw' h he]
      rfl
  | unknown new hw hw' h =>
      simp only [onMember, field?_eq_none new, id, List.append_assoc, List.cons_append]
      rw [readColon_blanks hw]
      simp only [skipValue_wellFormed hw' h he]

/-- A record in braces: its object, and what is built from it. -/
theorem reader_brace (L : Layout α) (s : Octets) :
    L.reader (Octet.openBrace :: s)
      = match readObject L.onMember L.empty s with
        | .error f => .error f
        | .ok (slots, rest) =>
          match L.build? slots with
          | some a => .ok (a, rest)
          | none => .error .mismatched :=
  rfl

/-- **Records** are read from objects. -/
theorem reads_reader (keys : ∀ f, L.field? (L.key f) = some f)
    (reads : ∀ f, Reads (L.read f) (F f)) : Reads L.reader (L.form F) where
  blanks s := by simp [reader]
  complete := by
    rintro a t rest ⟨slots, h, build⟩ -
    obtain ⟨body, rfl, hr⟩ := readObject_object (follows_onMember keys reads) h
    have ho : readObject L.onMember L.empty (body ++ rest) = .ok (slots, rest) := hr rest
    rw [List.cons_append, reader_brace, ho]
    simp only [build]

/-- A field that cannot be read is the fault of the record. -/
theorem reader_fault (keys : ∀ f, L.field? (L.key f) = some f)
    (reads : ∀ f, Reads (L.read f) (F f)) {slots : L.Slots} {lead : Octets}
    (hl : Leading (L.Row F) L.empty lead slots) {f : L.Field} (new : slots f = none)
    {w k w' x : Octets} (hw : Blanks w) (hk : textForm (L.key f) k) (hw' : Blanks w') {e : Fault}
    (h : L.read f x = .error e) :
    L.reader (Octet.openBrace :: (lead ++ (w ++ (k ++ (w' ++ Octet.colon :: x))))) = .error e := by
  have member : L.onMember slots (L.key f) (w' ++ Octet.colon :: x) = .error e := by
    simp only [onMember, keys, new, Option.isSome_none, Bool.false_eq_true, if_false,
      readColon_blanks hw', h]
  rw [reader_brace,
    show readObject L.onMember L.empty _ = .error e from
      readObject_fault (follows_onMember keys reads) hl hw hk member]

/-- No record begins like `null`. -/
theorem not_null_form {a : α} {t : Octets} (h : L.form F a t) : Opens (· ≠ Octet.letterN) t := by
  obtain ⟨_, ⟨body, rfl, -⟩, -⟩ := h
  exact ⟨[], _, _, blanks_nil, rfl, by decide, rfl⟩

/-- A record of one field, of which each value has its form. -/
theorem reads_single {β : Type} {key : String} {read : Reader β} {build? : Option β → Option α}
    {F : Form β} (h : Reads read F) :
    Reads (single key read build?).reader ((single key read build?).form fun _ => F) :=
  reads_reader (fun (f : Unit) => by cases f; simp [field?, single]) fun _ => h

end Layout

/-- A value that is not read from anything that begins like `null`. -/
theorem reads_option {α : Type} {read : Reader α} {F : Form α} (h : Reads read F)
    (opens : ∀ {a t}, F a t → Opens (· ≠ Octet.letterN) t) :
    Reads (readOption read) (optionForm F) where
  blanks s := by simp [readOption]
  complete := by
    rintro (_ | a) t rest ht he
    · simp only [optionForm] at ht
      subst ht
      rfl
    · obtain ⟨w, b, s, hw, hb, hne, rfl⟩ := opens ht
      have hr := h.complete ht he
      rw [List.append_assoc, ← h.blanks, skipBlanks_append hw, List.cons_append,
        skipBlanks_cons hb] at hr
      rw [readOption, List.append_assoc, skipBlanks_append hw, List.cons_append,
        skipBlanks_cons hb]
      split
      · next hs => exact absurd (List.cons.inj hs).1 hne
      · rw [hr]

/-! ### Dictionaries -/

/-- The reading of a dictionary's entry. -/
def onEntry (read : Reader α) (acc : List (String × α)) (key : String) (s : Octets) :
    Except Fault (List (String × α) × Octets) :=
  match readColon s with
  | .error f => .error f
  | .ok s' =>
    match read s' with
    | .ok (a, s'') => .ok ((key, a) :: acc, s'')
    | .error f => .error f

theorem follows_onEntry {read : Reader α} {F : Form α} (h : Reads read F) :
    Follows (Entry F) List.reverse (onEntry read) := by
  intro s s' key t he rest hr
  cases he with
  | mk hw hw' ha =>
      simp only [onEntry, List.append_assoc, List.cons_append]
      rw [readColon_blanks hw]
      simp only [h.padded hw' ha hr, List.reverse_append, List.reverse_singleton,
        List.singleton_append]

theorem readDictionary_brace (read : Reader α) (s : Octets) :
    readDictionary read (Octet.openBrace :: s)
      = match readObject (onEntry read) [] s with
        | .ok (acc, rest) => .ok (acc.reverse, rest)
        | .error f => .error f :=
  rfl

/-- **Dictionaries** are read from objects, their entries in order. -/
theorem reads_dictionary {read : Reader α} {F : Form α} (h : Reads read F) :
    Reads (readDictionary read) (dictionaryForm F) where
  blanks s := by simp [readDictionary]
  complete := by
    rintro entries t rest ht -
    obtain ⟨body, rfl, hr⟩ := readObject_object (follows_onEntry h) ht
    rw [List.cons_append, readDictionary_brace, ← List.reverse_nil, hr rest]
    simp only [List.reverse_reverse]

/-- An entry whose value cannot be read is the fault of the dictionary. -/
theorem readDictionary_fault {read : Reader α} {F : Form α} (h : Reads read F)
    {entries : List (String × α)} {lead : Octets} (hl : Leading (Entry F) [] lead entries)
    {key : String} {w k w' x : Octets} (hw : Blanks w) (hk : textForm key k) (hw' : Blanks w')
    {f : Fault} (hx : read x = .error f) :
    readDictionary read
      (Octet.openBrace :: (lead ++ (w ++ (k ++ (w' ++ Octet.colon :: x))))) = .error f := by
  have hm : onEntry read entries.reverse key (w' ++ Octet.colon :: x) = .error f := by
    rw [onEntry, readColon_blanks hw']
    simp only [hx]
  rw [readDictionary_brace, ← List.reverse_nil, readObject_fault (follows_onEntry h) hl hw hk hm]

end LogSteward.Json
