import LogSteward.Proofs.Json.Lists

/-!
# Texts of a value

A value has many texts: any blanks may stand between its tokens, and each character of a string may
be escaped (`Spells`).  The indented text is one of them (`spells_indented`).

To speak of a text by what can be read in it, a value *means* something in a form if each of its
texts is a spelling of that in the form (`Means`).  What a list or a record means follows from what
its elements and members mean, so what is printed of reports is read without going along their texts
again (`Means.decode_indented`).
-/

namespace LogSteward.Json

/-- A member of an object: a key and a value. -/
inductive Pair (F : Form α) : Form (String × α) where
  | mk {key : String} {a : α} {k w w' t : Octets} (hk : textForm key k) (hw : Blanks w)
      (hw' : Blanks w') (h : F a t) : Pair F (key, a) (k ++ (w ++ Octet.colon :: (w' ++ t)))

/-- The texts of a value. -/
inductive Spells : Form Json where
  | null : Spells null (Utf8.encode "null")
  | flag (b : Bool) : Spells (flag b) (Utf8.encode (if b then "true" else "false"))
  | number (n : Int) : Spells (number n) (Utf8.encode (toString n))
  | text {s : String} {t : Octets} (h : textForm s t) : Spells (text s) t
  | emptyList {w : Octets} (hw : Blanks w) :
      Spells (list []) (Octet.openBracket :: (w ++ [Octet.closeBracket]))
  | list {xs : List Json} {t : Octets} (h : Elements Spells xs t) :
      Spells (list xs) (Octet.openBracket :: (t ++ [Octet.closeBracket]))
  | emptyObject {w : Octets} (hw : Blanks w) :
      Spells (object []) (Octet.openBrace :: (w ++ [Octet.closeBrace]))
  | object {ms : List (String × Json)} {t : Octets} (h : Elements (Pair Spells) ms t) :
      Spells (object ms) (Octet.openBrace :: (t ++ [Octet.closeBrace]))

/-! ### What values mean -/

/-- Each text of the value is a spelling of `a`. -/
def Means (F : Form α) (x : Json) (a : α) : Prop :=
  ∀ t, Spells x t → F a t

theorem means_text (s : String) : Means textForm (text s) s := by
  rintro t ⟨⟩
  assumption

theorem means_number {toInt : α → Int} (a : α) :
    Means (integerForm toInt) (number (toInt a)) a := by
  rintro t ⟨⟩
  rfl

/-- A flag. -/
def flagForm : Form Bool := fun b t =>
  t = Utf8.encode (if b then "true" else "false")

theorem means_flag (b : Bool) : Means flagForm (flag b) b := by
  rintro t ⟨⟩
  rfl

theorem elements_mean {F : Form α} {xs : List Json} {as : List α}
    (h : List.Forall₂ (Means F) xs as) {t : Octets} (ht : Elements Spells xs t) :
    Elements F as t := by
  induction ht generalizing as with
  | last hw hx hw' =>
      cases h with
      | cons ha hs =>
          cases hs
          exact .last hw (ha _ hx) hw'
  | cons hw hx hw' _ ih =>
      cases h with
      | cons ha hs => exact .cons hw (ha _ hx) hw' (ih hs)

/-- A list spells what its elements spell. -/
theorem means_list {F : Form α} {xs : List Json} {as : List α}
    (h : List.Forall₂ (Means F) xs as) : Means (listForm F) (list xs) as := by
  intro t ht
  cases ht with
  | emptyList hw =>
      cases h
      exact ⟨_, rfl, .inl ⟨rfl, hw⟩⟩
  | list ht => exact ⟨_, rfl, .inr (elements_mean h ht)⟩

theorem means_map {β : Type} {F : Form α} {write : β → Json} {get : β → α}
    (h : ∀ b, Means F (write b) (get b)) (bs : List β) :
    Means (listForm F) (list (bs.map write)) (bs.map get) :=
  means_list (List.forall₂_map_left_iff.mpr (List.forall₂_map_right_iff.mpr
    (List.forall₂_same.mpr fun b _ => h b)))

section Objects

variable {σ : Type} {Row : σ → String → Octets → σ → Prop}

/-- The members take what they amount to from `s` to `s'`, whatever their texts are. -/
inductive Taking (Row : σ → String → Octets → σ → Prop) : σ → List (String × Json) → σ → Prop where
  | nil {s : σ} : Taking Row s [] s
  | cons {s s' s'' : σ} {key : String} {x : Json} {ms : List (String × Json)}
      (h : ∀ w w' t, Blanks w → Blanks w' → Spells x t →
        Row s key (w ++ Octet.colon :: (w' ++ t)) s')
      (hs : Taking Row s' ms s'') : Taking Row s ((key, x) :: ms) s''

theorem Taking.members {s s' : σ} {ms : List (String × Json)} (h : Taking Row s ms s') {t : Octets}
    (ht : Elements (Pair Spells) ms t) : Members Row s t s' := by
  induction ht generalizing s with
  | last hw hp hw' =>
      cases h with
      | cons h hs =>
          cases hs
          cases hp with
          | mk hk hw₁ hw₂ hx =>
              have := Members.mk .nil hw hk (h _ _ _ hw₁ hw₂ hx) hw'
              simpa using this
  | cons hw hp hw' _ ih =>
      cases h with
      | cons h hs =>
          cases hp with
          | mk hk hw₁ hw₂ hx =>
              have := Members.cons hw hk (h _ _ _ hw₁ hw₂ hx) hw' (ih hs)
              simpa using this

/-- An object that is laid out in any way is taken as it is meant. -/
theorem Taking.object {s s' : σ} {ms : List (String × Json)} (h : Taking Row s ms s') {t : Octets}
    (ht : Spells (object ms) t) : objectForm Row s s' t := by
  cases ht with
  | emptyObject hw =>
      cases h
      exact ⟨_, rfl, .inl ⟨hw, rfl⟩⟩
  | object ht => exact ⟨_, rfl, .inr (h.members ht)⟩

end Objects

namespace Layout

variable {α : Type} {L : Layout α} {F : (f : L.Field) → Form (L.Value f)}

/-- A member means a field with its value. -/
def Meant (L : Layout α) (F : (f : L.Field) → Form (L.Value f)) (m : String × Json)
    (v : L.Filled) : Prop :=
  L.key v.1 = m.1 ∧ Means (F v.1) m.2 v.2

/-- Members of different fields fill the slots of these. -/
theorem taking_of_meant {ms : List (String × Json)} {vs : List L.Filled}
    (h : List.Forall₂ (L.Meant F) ms vs) (nodup : (vs.map Sigma.fst).Nodup) {slots : L.Slots}
    (new : ∀ v ∈ vs, slots v.1 = none) : Taking (L.Row F) slots ms (slots.fill vs) := by
  induction h generalizing slots with
  | nil => exact .nil
  | @cons m v ms vs hm _ ih =>
      obtain ⟨key, x⟩ := m
      obtain ⟨rfl, hx⟩ := hm
      obtain ⟨hnot, nodup⟩ := List.nodup_cons.mp nodup
      obtain ⟨hv, new⟩ := List.forall_mem_cons.mp new
      refine .cons (fun _ _ _ hw hw' ht => .known hv hw hw' (hx _ ht)) (ih nodup fun v' hv' => ?_)
      -- the slot of a later member is still empty, since no field is written twice
      have hne : v'.1 ≠ v.1 := fun e => hnot (e ▸ List.mem_map_of_mem hv')
      rw [Slots.set_of_ne _ hne, new v' hv']

/-- **A record** is what its members mean. -/
theorem means_record {a : α} {ms : List (String × Json)} (vs : List L.Filled)
    (nodup : (vs.map Sigma.fst).Nodup) (h : List.Forall₂ (L.Meant F) ms vs)
    (build : L.build? (L.empty.fill vs) = some a) : Means (L.form F) (object ms) a :=
  fun _ ht => ⟨_, (taking_of_meant h nodup fun _ _ => rfl).object ht, build⟩

end Layout

/-! ### Indented texts -/

theorem blanks_newline (depth : Nat) : Blanks (Utf8.encode (newline depth)) := by
  rw [newline, Utf8.encode_append, Utf8.encode_ofList (List.replicate (2 * depth) ' ')]
  intro b hb
  rcases List.mem_append.mp hb with hb | hb
  · rw [List.mem_singleton.mp hb]
    rfl
  · obtain ⟨c, hc, hb⟩ := List.mem_flatMap.mp hb
    rw [List.eq_of_mem_replicate hc] at hb
    rw [List.mem_singleton.mp hb]
    rfl

/-- A member on a line of its own. -/
theorem pair_indented (key : String) {x : Json} {t : Octets} (h : Spells x t) :
    Pair Spells (key, x) (Utf8.encode (quoted key) ++ (Utf8.encode ": " ++ t)) := by
  have blank : Blanks [0x20] := by simp [Blanks, Octet.isBlank]
  have pair := Pair.mk (textForm_quoted key) blanks_nil blank h
  exact pair

-- one theorem for each of the functions that write; the blanks after the last element are those
-- before the closing bracket
mutual

/-- **The indented text of a value** is one of its texts. -/
theorem spells_indented : ∀ (depth : Nat) (x : Json), Spells x (Utf8.encode (x.indented depth))
  | _, null => by
      rw [indented]
      exact .null
  | _, flag b => by
      rw [indented]
      exact .flag b
  | _, number n => by
      rw [indented]
      exact .number n
  | _, text s => by
      rw [indented]
      exact .text (textForm_quoted s)
  | _, list [] => by
      rw [indented]
      exact .emptyList blanks_nil
  | depth, list (x :: xs) => by
      have := Spells.list (elements_indented (depth + 1) (x :: xs) (by simp) (blanks_newline depth))
      rw [List.append_assoc] at this
      simp only [indented, Utf8.encode_append, List.append_assoc]
      exact this
  | _, object [] => by
      rw [indented]
      exact .emptyObject blanks_nil
  | depth, object (m :: ms) => by
      have members := members_indented (depth + 1) (m :: ms) (by simp) (blanks_newline depth)
      have := Spells.object members
      rw [List.append_assoc] at this
      simp only [indented, Utf8.encode_append, List.append_assoc]
      exact this

theorem elements_indented : ∀ (depth : Nat) (xs : List Json), xs ≠ [] → ∀ {w : Octets}, Blanks w →
    Elements Spells xs (Utf8.encode (indentedList depth xs) ++ w)
  | _, [], h => absurd rfl h
  | depth, [x], _ => fun hw => by
      have := Elements.last (blanks_newline depth) (spells_indented depth x) hw
      simpa [indentedList] using this
  | depth, x :: y :: xs, _ => fun hw => by
      have := Elements.cons (blanks_newline depth) (spells_indented depth x) blanks_nil
        (elements_indented depth (y :: xs) (by simp) hw)
      simpa [indentedList, encode_comma] using this

theorem members_indented : ∀ (depth : Nat) (ms : List (String × Json)), ms ≠ [] →
    ∀ {w : Octets}, Blanks w →
      Elements (Pair Spells) ms (Utf8.encode (indentedMembers depth ms) ++ w)
  | _, [], h => absurd rfl h
  | depth, [(key, x)], _ => fun hw => by
      have := Elements.last (blanks_newline depth) (pair_indented key (spells_indented depth x)) hw
      simpa [indentedMembers] using this
  | depth, (key, x) :: m :: ms, _ => fun hw => by
      have := Elements.cons (blanks_newline depth) (pair_indented key (spells_indented depth x))
        blanks_nil (members_indented depth (m :: ms) (by simp) hw)
      simpa [indentedMembers, encode_comma] using this

end

/-- What is printed of a value, on lines of its own, is read as what the value means. -/
theorem Means.decode_indented {reader : Reader α} {F : Form α} {x : Json} {a : α} (h : Means F x a)
    (reads : Reads reader F) : decode reader (x.indented 0 ++ "\n") = .ok a := by
  have blank : Blanks [0x0A] := by simp [Blanks, Octet.isBlank]
  have read := reads.decodeOctets blanks_nil (h _ (spells_indented 0 x)) blank
  rw [decode, Utf8.encode_append]
  exact read

end LogSteward.Json
