import LogSteward.Proofs.Json.Content
import LogSteward.Proofs.Json.RecordExtent

/-!
# Texts that repeat a key

No reader takes a text in which a record has one of its keys twice (`Strict`): not at the front of
the octets and not further inside, whatever comes between the two members and whatever comes after
the second one.  For the reader of a record, it is enough that its fields are read strictly
(`Layout.Faceted.strict`).

What carries the proof is that well-formed members and elements that come before are passed one
after the other, since readers take them whole.
-/

namespace LogSteward.Json

/-- The reader takes well-formed values whole, and nothing that repeats a key. -/
structure Strict (read : Reader α) (repeats : Octets → Prop) : Prop where
  takes : Takes read
  opens : ∀ {t}, repeats t → ∃ b s, (b = Octet.openBrace ∨ b = Octet.openBracket) ∧ t = b :: s
  refuses : ∀ {t}, repeats t → ∀ r, read t ≠ .ok r

namespace Strict

variable {α : Type} {read : Reader α} {repeats : Octets → Prop}

theorem padded (h : Strict read repeats) {w t : Octets} (hw : Blanks w) (ht : repeats t)
    (r : α × Octets) : read (w ++ t) ≠ .ok r := by
  rw [← h.takes.blanks, skipBlanks_append hw, h.takes.blanks]
  exact h.refuses ht r

/-- A text that repeats a key, with blanks before it, is not decoded. -/
theorem decodeOctets (h : Strict read repeats) {w t : Octets} (hw : Blanks w) (ht : repeats t)
    (a : α) : decodeOctets read (w ++ t) ≠ .ok a := by
  intro hr
  rw [Json.decodeOctets] at hr
  split at hr
  · cases hr
  · next hx => exact h.padded hw ht _ hx

/-- What repeats a key does not begin with a closing bracket. -/
theorem ne_close (h : Strict read repeats) {w t : Octets} (hw : Blanks w) (ht : repeats t)
    (y : Octets) : skipBlanks (w ++ t) ≠ Octet.closeBracket :: y := by
  obtain ⟨b, s, hb, rfl⟩ := h.opens ht
  rw [skipBlanks_append hw, skipBlanks_cons (by rcases hb with rfl | rfl <;> rfl)]
  rintro he
  rw [(List.cons.inj he).1] at hb
  exact absurd hb (by decide)

end Strict

/-- Where there are no keys, none is repeated. -/
theorem strict_plain {read : Reader α} (h : Takes read) : Strict read fun _ => False where
  takes := h
  opens h := h.elim
  refuses h := h.elim

theorem strict_option {read : Reader α} {repeats : Octets → Prop} (h : Strict read repeats) :
    Strict (readOption read) repeats where
  takes := takes_option h.takes
  opens := h.opens
  refuses := by
    intro t ht r hr
    obtain ⟨b, s, hb, rfl⟩ := h.opens ht
    rw [readOption, skipBlanks_cons (by rcases hb with rfl | rfl <;> rfl)] at hr
    split at hr
    · next he =>
        rw [(List.cons.inj he).1] at hb
        exact absurd hb (by decide)
    · split at hr
      · next hx => exact h.refuses ht _ hx
      · cases hr

/-! ### Lists -/

/-- The elements that come first are passed. -/
theorem readElements_ahead {read : Reader α} (h : Takes read) {n : Nat} {lead : Octets}
    (hl : Ahead .slot n lead) {x : Octets} {r : List α × Octets}
    (hr : readElements read (lead ++ x) = .ok r) : ∃ q, readElements read x = .ok q := by
  induction hl generalizing r with
  | nil => exact ⟨r, hr⟩
  | cons ht _ ih =>
      rw [List.append_assoc, List.cons_append] at hr
      obtain ⟨a, rest, t, ha, ⟨hc, -⟩ | ⟨hc, -, as, s, has, -⟩⟩ := readElements_eq_ok_iff.mp hr
      · exact absurd (List.cons.inj ((h.slot rfl rfl ht ha).symm.trans hc)).1 (by decide)
      · obtain ⟨-, rfl⟩ := List.cons.inj ((h.slot rfl rfl ht ha).symm.trans hc)
        exact ih has

theorem Ahead.ne_close {n : Nat} {lead : Octets} (hl : Ahead .slot n lead) {x : Octets}
    (hx : ∀ y, skipBlanks x ≠ Octet.closeBracket :: y) (y : Octets) :
    skipBlanks (lead ++ x) ≠ Octet.closeBracket :: y := by
  cases hl with
  | nil => exact hx y
  | cons ht _ =>
      rw [List.append_assoc, List.cons_append]
      exact (WellFormed.element ht).elements_ne _ y

/-- A list is strict if its elements are. -/
theorem strict_list {read : Reader α} {repeats : Octets → Prop} (h : Strict read repeats) :
    Strict (readList read) (RepeatsInList repeats) where
  takes := takes_list h.takes
  opens := by
    rintro t ⟨n, lead, w, x, -, -, -, rfl⟩
    exact ⟨_, _, .inr rfl, rfl⟩
  refuses := by
    rintro t ⟨n, lead, w, x, hl, hw, hx, rfl⟩ r hr
    rcases readList_bracket_ok h.takes hr with ⟨y, hy, -⟩ | ⟨-, hr⟩
    · exact hl.ne_close (h.ne_close hw hx) y hy
    · obtain ⟨q, hq⟩ := readElements_ahead h.takes hl hr
      obtain ⟨a, rest, t, ha, -⟩ := readElements_eq_ok_iff.mp hq
      exact h.padded hw hx _ ha

/-! ### Records -/

/-- Where a key comes, the octets go on with a quote. -/
theorem opens_key {key : String} {w k : Octets} (hw : Blanks w) (hk : textForm key k)
    (x : Octets) : Opens (· = Octet.quote) (w ++ (k ++ x)) := by
  obtain ⟨body, -, rfl⟩ := hk
  exact ⟨w, _, _, hw, rfl, rfl, rfl⟩

theorem wellFormed_key {key : String} {w k w' t : Octets} (hw : Blanks w) (hk : textForm key k)
    (hw' : Blanks w') (ht : WellFormed .slot t) :
    WellFormed .member (w ++ (k ++ (w' ++ Octet.colon :: t))) := by
  obtain ⟨body, hb, rfl⟩ := hk
  have := WellFormed.member hw hb.loose hw' ht
  simpa using this

theorem Ahead.opens {n : Nat} {lead : Octets} (hl : Ahead .member n lead) {x : Octets}
    (hx : Opens (· = Octet.quote) x) : Opens (· = Octet.quote) (lead ++ x) := by
  cases hl with
  | nil => exact hx
  | cons hm _ =>
      rw [List.append_assoc]
      exact (opens_wellFormed hm).append _

namespace Layout

variable {α : Type} {L : Layout α} {facet : (f : L.Field) → Facet α (L.Value f)}

/-- The members that come first are passed. -/
theorem readMembers_ahead (takes : ∀ f, Takes (L.read f)) {n : Nat} {lead : Octets}
    (hl : Ahead .member n lead) {slots : L.Slots} {x : Octets} {r : L.Slots × Octets}
    (hr : readMembers L.onMember slots (lead ++ x) = .ok r) :
    ∃ slots', Grows slots slots' ∧ readMembers L.onMember slots' x = .ok r := by
  induction hl generalizing slots with
  | nil => exact ⟨slots, fun _ h => h, hr⟩
  | cons hm _ ih =>
      rw [List.append_assoc, List.cons_append] at hr
      obtain ⟨slots₁, grows, ⟨hc, -⟩ | ⟨-, hr⟩, -⟩ := readMembers_member takes rfl rfl hm hr
      · exact absurd hc (by decide)
      · obtain ⟨slots₂, grows', hr⟩ := ih hr
        exact ⟨slots₂, fun f hf => grows' f (grows f hf), hr⟩

/-- Once a member with the key of a field is passed, the field is there. -/
theorem readMembers_key (takes : ∀ f, Takes (L.read f)) {key : String} {f : L.Field}
    (hf : L.field? key = some f) {w k w' t x : Octets} (hw : Blanks w) (hk : textForm key k)
    (hw' : Blanks w') (ht : WellFormed .slot t) {slots : L.Slots} {r : L.Slots × Octets}
    (hr : readMembers L.onMember slots
      (w ++ (k ++ (w' ++ Octet.colon :: (t ++ Octet.comma :: x)))) = .ok r) :
    ∃ slots', (slots' f).isSome = true ∧ readMembers L.onMember slots' x = .ok r := by
  have hm : w ++ (k ++ (w' ++ Octet.colon :: (t ++ Octet.comma :: x)))
      = (w ++ (k ++ (w' ++ Octet.colon :: t))) ++ Octet.comma :: x := by simp
  have read := readKey_spelling hw hk (w' ++ Octet.colon :: (t ++ Octet.comma :: x))
  rw [hm] at hr read
  obtain ⟨slots', -, ⟨hc, -⟩ | ⟨-, hr⟩, there⟩ :=
    readMembers_member takes rfl rfl (wellFormed_key hw hk hw' ht) hr
  · exact absurd hc (by decide)
  · exact ⟨slots', there _ _ read f hf, hr⟩

theorem readObject_ahead (takes : ∀ f, Takes (L.read f)) {n : Nat} {lead : Octets}
    (hl : Ahead .member n lead) {slots : L.Slots} {x : Octets} (hx : Opens (· = Octet.quote) x)
    {r : L.Slots × Octets} (hr : readObject L.onMember slots (lead ++ x) = .ok r) :
    ∃ slots', readMembers L.onMember slots' x = .ok r := by
  rcases readObject_ok hr with ⟨y, hy, -⟩ | ⟨-, hr⟩
  · obtain ⟨b, s, rfl, hs⟩ := (hl.opens hx).skipBlanks []
    rw [List.append_nil, hy] at hs
    exact absurd (List.cons.inj hs).1 (by decide)
  · obtain ⟨slots', -, hr⟩ := readMembers_ahead takes hl hr
    exact ⟨slots', hr⟩

/-- The fields that come first are passed. -/
theorem readFrom_ahead (takes : ∀ f, Takes (L.read f)) {n : Nat} {lead : Octets}
    (hl : Ahead .slot n lead) {slots : L.Slots} {f g : L.Field} {fs : List L.Field} {x : Octets}
    {r : L.Slots × Octets} (hg : (f :: fs)[n]? = some g)
    (hr : L.readFrom slots f fs (lead ++ x) = .ok r) : ∃ q, L.read g x = .ok q := by
  induction hl generalizing slots f fs with
  | nil =>
      obtain rfl := Option.some.inj hg
      rw [readFrom] at hr
      split at hr
      · cases hr
      · next v s hv => exact ⟨_, hv⟩
  | cons ht _ ih =>
      rw [List.append_assoc, List.cons_append, readFrom] at hr
      split at hr
      · cases hr
      · next v s hv =>
          cases fs with
          | nil => cases hg
          | cons f' fs =>
              rw [readFields_comma ((takes f).slot rfl rfl ht hv)] at hr
              exact ih hg hr

namespace Faceted

/-- A key for the second time is refused. -/
theorem onMember_again (h : L.Faceted facet) {slots : L.Slots} {f : L.Field}
    (hf : (slots f).isSome = true) (x : Octets) :
    L.onMember slots (L.key f) x = .error .mismatched := by
  simp only [onMember, h.keys, hf, if_true]

/-- A value that is refused is refused as that of a member. -/
theorem onMember_refuses (h : L.Faceted facet) {f : L.Field} {w x : Octets} (hw : Blanks w)
    (hx : ∀ r, L.read f x ≠ .ok r) (slots : L.Slots) (r : L.Slots × Octets) :
    L.onMember slots (L.key f) (w ++ Octet.colon :: x) ≠ .ok r := by
  intro hr
  simp only [onMember, h.keys, readColon_blanks hw] at hr
  split at hr
  · cases hr
  · split at hr
    · next hv => exact hx _ hv
    · cases hr

/-- **Records are read strictly** if their fields are. -/
theorem strict (h : L.Faceted facet)
    (fields : ∀ f, Strict (L.read f) (facet f).content.repeats) :
    Strict L.reader (Repeats (L.facets facet)) where
  takes := takes_reader fun f => (fields f).takes
  opens := by
    intro t ht
    cases ht with
    | twice _ _ _ _ _ _ _ _ _ => exact ⟨_, _, .inl rfl, rfl⟩
    | member _ _ _ _ _ _ _ => exact ⟨_, _, .inl rfl, rfl⟩
    | element _ _ _ _ => exact ⟨_, _, .inr rfl, rfl⟩
  refuses := by
    have takes := fun f => (fields f).takes
    intro t ht r hr
    cases ht with
    | twice hp hl hw hk hw' ht hb hw'' hk' =>
        obtain ⟨f, -, rfl⟩ := List.mem_map.mp hp
        simp only [h.named] at hk hk'
        obtain ⟨slots, ho⟩ := reader_brace_ok hr
        obtain ⟨slots₁, hr₁⟩ := readObject_ahead takes hl (opens_key hw hk _) ho
        obtain ⟨slots₂, there, hr₂⟩ := readMembers_key takes (h.keys f) hw hk hw' ht hr₁
        obtain ⟨slots₃, grows, hr₃⟩ := readMembers_ahead takes hb hr₂
        rw [readMembers_fault hw'' hk' (h.onMember_again (grows f there) _)] at hr₃
        cases hr₃
    | member hp hl hw hk hw' hw'' hx =>
        obtain ⟨f, -, rfl⟩ := List.mem_map.mp hp
        simp only [h.named] at hk
        obtain ⟨slots, ho⟩ := reader_brace_ok hr
        obtain ⟨slots₁, hr₁⟩ := readObject_ahead takes hl (opens_key hw hk _) ho
        obtain ⟨key, rest, slots₂, rest', t, hkey, hm, -⟩ := readMembers_eq_ok_iff.mp hr₁
        rw [readKey_spelling hw hk] at hkey
        cases hkey
        exact h.onMember_refuses hw' ((fields f).padded hw'' hx) _ _ hm
    | element hp hl hw hx =>
        rw [facets, List.getElem?_map, Option.map_eq_some_iff] at hp
        obtain ⟨f, hf, rfl⟩ := hp
        obtain ⟨q, hq, -⟩ := reader_bracket_ok hr
        generalize L.fields = fs at hf hq
        cases fs with
        | nil => cases hf
        | cons g fs =>
            have first := readFields_first (takes g).blanks
              (hl.ne_close ((fields f).ne_close hw hx)) hq
            obtain ⟨r, hr⟩ := readFrom_ahead takes hl hf first
            exact (fields f).padded hw hx r hr

end Faceted

end Layout

end LogSteward.Json
