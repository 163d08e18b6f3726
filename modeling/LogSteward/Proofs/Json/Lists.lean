import LogSteward.Proofs.Json.Writing

/-!
# Lists

The spellings of a list are those of its elements, between brackets and separated by commas, with
any blanks around each (`listForm`).  All of them are read as that list (`reads_list`), and what is
written of a list is one of them (`listForm_compact`).
-/

namespace LogSteward.Json

/-- The elements of a list with blanks around them, separated by commas: at least one. -/
inductive Elements (F : Form α) : List α → Octets → Prop where
  | last {a : α} {w t w' : Octets} (hw : Blanks w) (h : F a t) (hw' : Blanks w') :
      Elements F [a] (w ++ (t ++ w'))
  | cons {a : α} {as : List α} {w t w' ts : Octets} (hw : Blanks w) (h : F a t) (hw' : Blanks w')
      (hs : Elements F as ts) : Elements F (a :: as) (w ++ (t ++ (w' ++ Octet.comma :: ts)))

/-- A list, from its opening bracket to its closing one. -/
def listForm (F : Form α) : Form (List α) := fun as t =>
  ∃ body, t = Octet.openBracket :: (body ++ [Octet.closeBracket]) ∧
    (as = [] ∧ Blanks body ∨ Elements F as body)

/-- No spelling begins with a blank or with the bracket that closes a list. -/
def Form.Element (F : Form α) : Prop :=
  ∀ ⦃a t⦄, F a t → ∃ b s, Octet.isBlank b = false ∧ b ≠ Octet.closeBracket ∧ t = b :: s

theorem element_text : Form.Element textForm := by
  rintro _ _ ⟨body, -, rfl⟩
  exact ⟨_, _, rfl, by decide, rfl⟩

theorem Layout.element_form {L : Layout α} {F : (f : L.Field) → Form (L.Value f)} :
    Form.Element (L.form F) := by
  rintro _ _ ⟨_, ⟨body, rfl, -⟩, -⟩
  exact ⟨_, _, rfl, by decide, rfl⟩

/-! ### Reading -/

section Reading

variable {read : Reader α} {F : Form α}

/-- Every spelling of elements is read as these. -/
theorem readElements_spelling (h : Reads read F) {as : List α} {t : Octets}
    (ht : Elements F as t) (rest : Octets) :
    readElements read (t ++ Octet.closeBracket :: rest) = .ok (as, rest) := by
  induction ht with
  | last hw ht hw' =>
      simp only [List.append_assoc]
      rw [readElements, h.padded hw ht (ends_append hw' (ends_cons rfl _))]
      simp only
      rw [skipBlanks_append hw', skipBlanks_cons rfl]
      simp only [if_true]
  | cons hw ht hw' _ ih =>
      simp only [List.append_assoc, List.cons_append]
      rw [readElements, h.padded hw ht (ends_append hw' (ends_cons rfl _))]
      simp only
      rw [skipBlanks_append hw', skipBlanks_cons rfl]
      simp only
      rw [if_neg (by decide), if_pos trivial, if_pos (by simp; omega), ih]

/-- The first element of a list may stand right after the bracket. -/
theorem Elements.trim (opens : Form.Element F) {as : List α} {t : Octets} (h : Elements F as t) :
    ∃ b s, b ≠ Octet.closeBracket ∧ Elements F as (b :: s) ∧
      ∀ rest, skipBlanks (t ++ rest) = b :: (s ++ rest) := by
  cases h with
  | last hw ht hw' =>
      obtain ⟨b, s, hb, hne, rfl⟩ := opens ht
      refine ⟨b, s ++ _, hne, .last blanks_nil ht hw', fun rest => ?_⟩
      rw [List.append_assoc, skipBlanks_append hw, List.cons_append, List.cons_append,
        skipBlanks_cons hb]
  | cons hw ht hw' hs =>
      obtain ⟨b, s, hb, hne, rfl⟩ := opens ht
      refine ⟨b, s ++ _, hne, .cons blanks_nil ht hw' hs, fun rest => ?_⟩
      rw [List.append_assoc, skipBlanks_append hw, List.cons_append, List.cons_append,
        skipBlanks_cons hb]

/-- After its bracket, a list is empty or has elements. -/
theorem readList_bracket (read : Reader α) (s : Octets) :
    readList read (Octet.openBracket :: s)
      = match skipBlanks s with
        | [] => .error .truncated
        | Octet.closeBracket :: rest => .ok ([], rest)
        | rest => readElements read rest :=
  rfl

/-- **Lists** are read. -/
theorem reads_list (h : Reads read F) (opens : Form.Element F) :
    Reads (readList read) (listForm F) where
  blanks s := by simp [readList]
  complete := by
    rintro as t rest ⟨body, rfl, ⟨rfl, hw⟩ | he⟩ -
    · rw [List.cons_append, readList_bracket, List.append_assoc, skipBlanks_append hw]
      rfl
    · obtain ⟨b, s, hne, he', hs⟩ := he.trim opens
      have elements := readElements_spelling h he' rest
      rw [List.cons_append, readList_bracket, List.append_assoc, List.singleton_append, hs]
      split
      · next hc => cases hc
      · next hc => exact absurd (List.cons.inj hc).1 hne
      · exact elements

end Reading

/-! ### Writing -/

theorem elements_compact {F : Form α} {write : α → Json}
    (h : ∀ a, F a (Utf8.encode (write a).compact)) (a : α) (as : List α) :
    Elements F (a :: as) (Utf8.encode (compactList ((a :: as).map write))) := by
  induction as generalizing a with
  | nil =>
      have := Elements.last blanks_nil (h a) blanks_nil
      simpa [compactList] using this
  | cons b as ih =>
      have := Elements.cons blanks_nil (h a) blanks_nil (ih b)
      simpa [compactList, encode_comma] using this

/-- **A written list spells that list.** -/
theorem listForm_compact {F : Form α} {write : α → Json}
    (h : ∀ a, F a (Utf8.encode (write a).compact)) (as : List α) :
    listForm F as (Utf8.encode (list (as.map write)).compact) := by
  refine ⟨Utf8.encode (compactList (as.map write)), ?_, ?_⟩
  · rw [compact, Utf8.encode_append, Utf8.encode_append]
    rfl
  · cases as with
    | nil => exact .inl ⟨rfl, blanks_nil⟩
    | cons a as => exact .inr (elements_compact h a as)

/-- A written optional value spells that value. -/
theorem optionForm_compact {F : Form α} {write : α → Json}
    (h : ∀ a, F a (Utf8.encode (write a).compact)) :
    ∀ o : Option α, optionForm F o (Utf8.encode (ofOption write o).compact)
  | none => by
      rw [ofOption, compact]
      rfl
  | some a => h a

end LogSteward.Json
