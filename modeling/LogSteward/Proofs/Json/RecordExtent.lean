import LogSteward.Proofs.Json.Extent

/-!
# How far records get

The reader of a record takes the whole of a well-formed value or nothing, as soon as the readers of
its fields do (`Layout.takes_reader`), whether the value is an object or a list.  On the way through
an object, no field that is there gets lost (`Layout.Grows`).
-/

namespace LogSteward.Json

/-! ### Objects -/

section Objects

variable {σ : Type} {onMember : σ → String → Octets → Except Fault (σ × Octets)}

/-- A member that has been read is followed by the end of the object or by a comma. -/
theorem readMembers_eq_ok_iff {acc : σ} {s : Octets} {r : σ × Octets} :
    readMembers onMember acc s = .ok r ↔ ∃ key rest acc' rest' t,
      readKey s = .ok (key, rest) ∧ onMember acc key rest = .ok (acc', rest') ∧
        (skipBlanks rest' = Octet.closeBrace :: t ∧ r = (acc', t) ∨
          skipBlanks rest' = Octet.comma :: t ∧ t.length < s.length ∧
            readMembers onMember acc' t = .ok r) := by
  constructor
  · intro hr
    rw [readMembers] at hr
    split at hr
    · cases hr
    · next key rest hk =>
        split at hr
        · cases hr
        · next acc' rest' hm =>
            split at hr
            · cases hr
            · next b t hb =>
                refine ⟨key, rest, acc', rest', t, hk, hm, ?_⟩
                split at hr
                · next hc => exact .inl ⟨hc ▸ hb, (Except.ok.inj hr).symm⟩
                · split at hr
                  · next hc =>
                      split at hr
                      · next hl => exact .inr ⟨hc ▸ hb, hl, hr⟩
                      · cases hr
                  · cases hr
  · rintro ⟨key, rest, acc', rest', t, hk, hm, ⟨hb, rfl⟩ | ⟨hb, hl, hr⟩⟩
    · rw [readMembers, hk]
      simp only [hm, hb, if_true]
    · rw [readMembers, hk]
      simp only [hm, hb]
      rw [if_neg (by decide), if_pos trivial, if_pos hl, hr]

/-- Blanks before the first member do not matter. -/
theorem readMembers_of_skipBlanks {acc : σ} {s : Octets} {r : σ × Octets}
    (hr : readMembers onMember acc (skipBlanks s) = .ok r) :
    readMembers onMember acc s = .ok r := by
  obtain ⟨key, rest, acc', rest', t, hk, hm, next⟩ := readMembers_eq_ok_iff.mp hr
  refine readMembers_eq_ok_iff.mpr ⟨key, rest, acc', rest', t, ?_, hm, ?_⟩
  · rw [← hk, readKey, readKey, skipBlanks_skipBlanks]
  · rcases next with last | ⟨hb, hl, more⟩
    · exact .inl last
    · exact .inr ⟨hb, hl.trans_le (length_skipBlanks_le s), more⟩

/-- An object that has been read is over at once, or has members. -/
theorem readObject_ok {acc : σ} {s : Octets} {r : σ × Octets}
    (hr : readObject onMember acc s = .ok r) :
    (∃ t, skipBlanks s = Octet.closeBrace :: t ∧ r = (acc, t)) ∨
      (∀ t, skipBlanks s ≠ Octet.closeBrace :: t) ∧ readMembers onMember acc s = .ok r := by
  rw [readObject] at hr
  split at hr
  · cases hr
  · next t ht => exact .inl ⟨t, ht, (Except.ok.inj hr).symm⟩
  · next hne => exact .inr ⟨hne, readMembers_of_skipBlanks hr⟩

/-- A key is read to its closing mark. -/
theorem readKey_loose {w k : Octets} (hw : Blanks w) (hk : Loose k) {key : String}
    {rest s : Octets}
    (hr : readKey (w ++ Octet.quote :: (k ++ Octet.quote :: rest)) = .ok (key, s)) :
    s = rest := by
  rw [readKey, skipBlanks_append hw, skipBlanks_cons rfl] at hr
  exact readQuoted_loose hk (.inl rfl) hr

end Objects

namespace Layout

variable {α : Type} {L : Layout α}

/-- Every field that is there is there later, too. -/
def Grows (slots slots' : L.Slots) : Prop :=
  ∀ f, (slots f).isSome = true → (slots' f).isSome = true

theorem grows_set (slots : L.Slots) (f : L.Field) (v : L.Value f) :
    Grows slots (slots.set f v) := by
  intro g hg
  unfold Slots.set
  split
  · rfl
  · exact hg

/-- A member that has been read is followed by what follows its slot, and its field is there. -/
theorem onMember_ok (takes : ∀ f, Takes (L.read f)) {slots slots' : L.Slots} {key : String}
    {w t rest s : Octets} {b : UInt8} (hb : Octet.isBlank b = false)
    (hb' : Octet.isFigure b = false) (hw : Blanks w) (ht : WellFormed .slot t)
    (hr : L.onMember slots key (w ++ Octet.colon :: (t ++ b :: rest)) = .ok (slots', s)) :
    skipBlanks s = b :: rest ∧ Grows slots slots' ∧
      ∀ f, L.field? key = some f → (slots' f).isSome = true := by
  rw [onMember] at hr
  split at hr
  · next hf =>
      rw [readColon_blanks hw] at hr
      cases ht with
      | slot hw hv hw' =>
          have passed := skipValue_wellFormed hw hv (ends_append hw' (ends_cons hb' rest))
          simp only [List.append_assoc, passed] at hr
          cases hr
          refine ⟨?_, fun _ h => h, fun f he => by rw [hf] at he; cases he⟩
          rw [skipBlanks_append hw', skipBlanks_cons hb]
  · next f hf =>
      split at hr
      · cases hr
      · rw [readColon_blanks hw] at hr
        simp only at hr
        split at hr
        · next v s' hv =>
            cases hr
            refine ⟨(takes f).slot hb hb' ht hv, grows_set slots f v, fun g hg => ?_⟩
            obtain rfl := Option.some.inj (hf.symm.trans hg)
            simp [Slots.set]
        · cases hr

/-- A member whose key has been read as such. -/
theorem readMembers_member (takes : ∀ f, Takes (L.read f)) {slots : L.Slots} {m x : Octets}
    {b : UInt8} (hb : Octet.isBlank b = false) (hb' : Octet.isFigure b = false)
    (hm : WellFormed .member m) {r : L.Slots × Octets}
    (hr : readMembers L.onMember slots (m ++ b :: x) = .ok r) :
    ∃ slots', Grows slots slots' ∧ (b = Octet.closeBrace ∧ r = (slots', x) ∨
      b = Octet.comma ∧ readMembers L.onMember slots' x = .ok r) ∧
        ∀ key y, readKey (m ++ b :: x) = .ok (key, y) →
          ∀ f, L.field? key = some f → (slots' f).isSome = true := by
  cases hm with
  | member hw hk hw' ht =>
      obtain ⟨key, rest, slots', rest', t, hkey, hmem, next⟩ := readMembers_eq_ok_iff.mp hr
      simp only [List.append_assoc, List.cons_append] at hkey hmem
      obtain rfl := readKey_loose hw hk hkey
      obtain ⟨hs, grows, there⟩ := onMember_ok takes hb hb' hw' ht hmem
      refine ⟨slots', grows, ?_, fun key' y hk' f hf => there f ?_⟩
      · rw [hs] at next
        rcases next with ⟨he, rfl⟩ | ⟨he, -, more⟩
        · obtain ⟨rfl, rfl⟩ := List.cons.inj he
          exact .inl ⟨rfl, rfl⟩
        · obtain ⟨rfl, rfl⟩ := List.cons.inj he
          exact .inr ⟨rfl, more⟩
      · simp only [List.append_assoc, List.cons_append] at hk'
        rw [hkey] at hk'
        rwa [(Prod.mk.inj (Except.ok.inj hk')).1]

/-- Members are read to the closing brace. -/
theorem readMembers_whole (takes : ∀ f, Takes (L.read f)) {part : Part} {t : Octets}
    (ht : WellFormed part t) (hp : part = .members) {slots : L.Slots} {rest : Octets}
    {r : L.Slots × Octets}
    (hr : readMembers L.onMember slots (t ++ Octet.closeBrace :: rest) = .ok r) : r.2 = rest := by
  induction ht generalizing slots with
  | lastMember hm =>
      obtain ⟨slots', -, ⟨-, rfl⟩ | ⟨hc, -⟩, -⟩ := readMembers_member takes rfl rfl hm hr
      · rfl
      · exact absurd hc (by decide)
  | members hm _ _ ih =>
      rw [List.append_assoc, List.cons_append] at hr
      obtain ⟨slots', -, ⟨hc, -⟩ | ⟨-, more⟩, -⟩ := readMembers_member takes rfl rfl hm hr
      · exact absurd hc (by decide)
      · exact ih rfl more
  | _ => cases hp

/-! ### Records written as lists -/

/-- Goes on with the field `f` and with those after it. -/
def readFrom (L : Layout α) (slots : L.Slots) (f : L.Field) (fs : List L.Field) (s : Octets) :
    Except Fault (L.Slots × Octets) :=
  match L.read f s with
  | .error e => .error e
  | .ok (v, s') => L.readFields false (slots.set f v) fs s'

theorem readFields_first {f : L.Field} {fs : List L.Field} {slots : L.Slots} {s : Octets}
    (blanks : ∀ s, L.read f (skipBlanks s) = L.read f s)
    (hne : ∀ t, skipBlanks s ≠ Octet.closeBracket :: t) {r : L.Slots × Octets}
    (hr : L.readFields true slots (f :: fs) s = .ok r) : L.readFrom slots f fs s = .ok r := by
  rw [readFields] at hr
  split at hr
  · cases hr
  · next b t hb =>
      have hc : b ≠ Octet.closeBracket := fun e => hne t (e ▸ hb)
      rw [if_neg hc] at hr
      simp only [if_true, ← hb, blanks] at hr
      exact hr

/-- A further field comes after a comma. -/
theorem readFields_comma {f : L.Field} {fs : List L.Field} {slots : L.Slots} {s t : Octets}
    (hs : skipBlanks s = Octet.comma :: t) :
    L.readFields false slots (f :: fs) s = L.readFrom slots f fs t := by
  rw [readFields, hs]
  rfl

/-- There is no further field where the list ends. -/
theorem readFields_close {first : Bool} {fs : List L.Field} {slots : L.Slots} {s t : Octets}
    (hs : skipBlanks s = Octet.closeBracket :: t) {r : L.Slots × Octets}
    (hr : L.readFields first slots fs s = .ok r) :
    skipBlanks r.2 = Octet.closeBracket :: t := by
  cases fs with
  | nil =>
      cases hr
      exact hs
  | cons f fs =>
      rw [readFields, hs] at hr
      cases hr
      rfl

theorem readClose_ok {s t : Octets} (hr : readClose s = .ok t) :
    skipBlanks s = Octet.closeBracket :: t := by
  rw [readClose] at hr
  split at hr
  · cases hr
  · next b rest hb =>
      split at hr
      · next hc =>
          cases hr
          exact hc ▸ hb
      · cases hr

theorem readFrom_whole (takes : ∀ f, Takes (L.read f)) {part : Part} {t : Octets}
    (ht : WellFormed part t) (hp : part = .elements) {f : L.Field} {fs : List L.Field}
    {slots : L.Slots} {rest s : Octets} {r : L.Slots × Octets}
    (hr : L.readFrom slots f fs (t ++ Octet.closeBracket :: rest) = .ok r)
    (hs : readClose r.2 = .ok s) : s = rest := by
  induction ht generalizing slots f fs with
  | element ht =>
      rw [readFrom] at hr
      split at hr
      · cases hr
      · next v s' hv =>
          have close := readFields_close ((takes f).slot rfl rfl ht hv) hr
          exact (List.cons.inj ((readClose_ok hs).symm.trans close)).2
  | elements ht _ _ ih =>
      rw [List.append_assoc, List.cons_append, readFrom] at hr
      split at hr
      · cases hr
      · next v s' hv =>
          have comma := (takes f).slot rfl rfl ht hv
          cases fs with
          | nil =>
              cases hr
              exact absurd (List.cons.inj ((readClose_ok hs).symm.trans comma)).1 (by decide)
          | cons g fs =>
              rw [readFields_comma comma] at hr
              exact ih rfl hr
  | _ => cases hp

/-! ### Records -/

theorem reader_first {b : UInt8} {s : Octets} {r : α × Octets} (hb : Octet.isBlank b = false)
    (hr : L.reader (b :: s) = .ok r) : b = Octet.openBrace ∨ b = Octet.openBracket := by
  rw [reader, skipBlanks_cons hb] at hr
  split at hr
  · next he => exact .inl (List.cons.inj he).1
  · next he => exact .inr (List.cons.inj he).1
  · cases hr

theorem reader_brace_ok {s : Octets} {r : α × Octets}
    (hr : L.reader (Octet.openBrace :: s) = .ok r) :
    ∃ slots, readObject L.onMember L.empty s = .ok (slots, r.2) := by
  rw [reader_brace] at hr
  split at hr
  · cases hr
  · next slots rest ho =>
      split at hr
      · cases hr
        exact ⟨slots, ho⟩
      · cases hr

theorem reader_bracket (L : Layout α) (s : Octets) :
    L.reader (Octet.openBracket :: s)
      = match L.readFields true L.empty L.fields s with
        | .error f => .error f
        | .ok (slots, rest) =>
          match L.build? slots with
          | none => .error .mismatched
          | some a =>
            match readClose rest with
            | .ok rest' => .ok (a, rest')
            | .error f => .error f :=
  rfl

theorem reader_bracket_ok {s : Octets} {r : α × Octets}
    (hr : L.reader (Octet.openBracket :: s) = .ok r) :
    ∃ q, L.readFields true L.empty L.fields s = .ok q ∧ readClose q.2 = .ok r.2 := by
  rw [reader_bracket] at hr
  split at hr
  · cases hr
  · next slots rest hf =>
      split at hr
      · cases hr
      · split at hr
        · next hc =>
            cases hr
            exact ⟨_, hf, hc⟩
        · cases hr

theorem readObject_whole (takes : ∀ f, Takes (L.read f)) {t rest : Octets}
    (ht : Blanks t ∨ WellFormed .members t) {slots : L.Slots} {r : L.Slots × Octets}
    (hr : readObject L.onMember slots (t ++ Octet.closeBrace :: rest) = .ok r) : r.2 = rest := by
  rcases readObject_ok hr with ⟨y, hy, rfl⟩ | ⟨hne, hr⟩
  · rcases ht with ht | ht
    · rw [skipBlanks_append ht, skipBlanks_cons rfl] at hy
      exact (List.cons.inj hy).2.symm
    · obtain ⟨b, s, rfl, hs⟩ := (opens_wellFormed ht).skipBlanks (Octet.closeBrace :: rest)
      exact absurd (List.cons.inj (hs.symm.trans hy)).1 (by decide)
  · rcases ht with ht | ht
    · exact absurd (by rw [skipBlanks_append ht, skipBlanks_cons rfl]) (hne rest)
    · exact readMembers_whole takes ht rfl hr

/-- Fields in brackets are read to the closing bracket. -/
theorem readFields_whole (takes : ∀ f, Takes (L.read f)) {t rest s : Octets}
    (ht : Blanks t ∨ WellFormed .elements t) {fs : List L.Field} {slots : L.Slots}
    {r : L.Slots × Octets}
    (hr : L.readFields true slots fs (t ++ Octet.closeBracket :: rest) = .ok r)
    (hs : readClose r.2 = .ok s) : s = rest := by
  rcases ht with ht | ht
  · have close : skipBlanks (t ++ Octet.closeBracket :: rest) = Octet.closeBracket :: rest := by
      rw [skipBlanks_append ht, skipBlanks_cons rfl]
    exact (List.cons.inj ((readClose_ok hs).symm.trans (readFields_close close hr))).2
  · cases fs with
    | nil =>
        cases hr
        exact absurd (readClose_ok hs) (ht.elements_ne _ s)
    | cons f fs =>
        exact readFrom_whole takes ht rfl
          (readFields_first (takes f).blanks (ht.elements_ne _) hr) hs

/-- **Records** are taken whole or not at all. -/
theorem takes_reader (takes : ∀ f, Takes (L.read f)) : Takes L.reader where
  blanks s := by simp [reader]
  whole := by
    intro v rest a s hv he hr
    obtain ⟨b, t, hb, rfl⟩ := hv.first
    rcases reader_first hb hr with rfl | rfl
    · obtain ⟨t, rfl, ht⟩ := hv.of_brace
      rw [List.cons_append, List.append_assoc, List.singleton_append] at hr
      obtain ⟨slots, ho⟩ := reader_brace_ok hr
      exact readObject_whole takes ht ho
    · obtain ⟨t, rfl, ht⟩ := hv.of_bracket
      rw [List.cons_append, List.append_assoc, List.singleton_append] at hr
      obtain ⟨q, hf, hc⟩ := reader_bracket_ok hr
      exact readFields_whole takes ht hf hc

end Layout

end LogSteward.Json
