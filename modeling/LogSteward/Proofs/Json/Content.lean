import LogSteward.Proofs.Json.Lists

/-!
# What texts say

The content of a text, apart from how it is written.  A record has facets: each has a key, may have
a default, and has a content of its own (`Facet`).  An object says that a record is `a` (`Conveys`)
if each of its members with the key of a facet says what that facet of `a` is, no such key comes
twice, and the facets without a member have their defaults in `a`.  The order of the members, the
blanks between tokens, the way in which characters are escaped and members with other keys do not
matter.

A text may also contradict itself: `Repeats` says that somewhere in it a record has one of its keys
twice.

The forms of a layout are what the objects say that have its fields as facets
(`Layout.form_eq_conveys`).
-/

namespace LogSteward.Json

/-- What octets say about a value. -/
structure Content (β : Type) where
  /-- The octets say which value it is. -/
  conveys : Form β
  /-- The octets begin with a text in which some record has one of its keys twice. -/
  repeats : Octets → Prop

/-- A part of a record that is written as a member of an object. -/
structure Facet (α β : Type) where
  key : String
  get : α → β
  /-- What it is in a record without the member, which has to be there if there is no default. -/
  default : Option β
  content : Content β

/-- The facets of a record, in the order in which they are declared. -/
abbrev Facets (α : Type) : Type 1 := List ((β : Type) × Facet α β)

namespace Facet

variable {α β : Type}

/-- A facet that has to be there. -/
def required (key : String) (get : α → β) (content : Content β) : Facet α β :=
  { key, get, content, default := none }

/-- A facet with a default. -/
def defaulted (key : String) (get : α → β) (d : β) (content : Content β) : Facet α β :=
  { key, get, content, default := some d }

end Facet

/-! ### What objects say -/

section Conveys

variable {α : Type}

/-- A member tells of a facet that has not been told of, or of something else.  The keys that have
been told of go from `seen` to `seen'`. -/
inductive Told (fs : Facets α) (a : α) : List String → String → Octets → List String → Prop where
  | facet {p : (β : Type) × Facet α β} {seen : List String} {w w' t : Octets} (hp : p ∈ fs)
      (new : p.2.key ∉ seen) (hw : Blanks w) (hw' : Blanks w')
      (h : p.2.content.conveys (p.2.get a) t) :
      Told fs a seen p.2.key (w ++ Octet.colon :: (w' ++ t)) (p.2.key :: seen)
  | other {seen : List String} {key : String} {w w' t : Octets} (hk : ∀ p ∈ fs, p.2.key ≠ key)
      (hw : Blanks w) (hw' : Blanks w') (h : WellFormed .value t) :
      Told fs a seen key (w ++ Octet.colon :: (w' ++ t)) seen

/-- An object that says what each facet of a record is, those apart that have their default. -/
def Conveys (fs : Facets α) : Form α := fun a t =>
  ∃ seen, objectForm (Told fs a) [] seen t ∧
    ∀ p ∈ fs, p.2.key ∈ seen ∨ p.2.default = some (p.2.get a)

end Conveys

/-! ### Texts that contradict themselves -/

/-- So many parts, each with a comma after it. -/
inductive Ahead (part : Part) : Nat → Octets → Prop where
  | nil : Ahead part 0 []
  | cons {n : Nat} {t ts : Octets} (h : WellFormed part t) (hs : Ahead part n ts) :
      Ahead part (n + 1) (t ++ Octet.comma :: ts)

/-- A list that has such an element, and whatever comes after that. -/
def RepeatsInList (repeats : Octets → Prop) (t : Octets) : Prop :=
  ∃ n lead w x, Ahead .slot n lead ∧ Blanks w ∧ repeats x ∧
    t = Octet.openBracket :: (lead ++ (w ++ x))

/-- A record that has one of its keys twice, or a part where that happens; and whatever comes after
that. -/
inductive Repeats {α : Type} (fs : Facets α) : Octets → Prop where
  /-- Two members of an object have the key. -/
  | twice {p : (β : Type) × Facet α β} {m n : Nat} {lead w k w' t between w'' k' x : Octets}
      (hp : p ∈ fs) (hl : Ahead .member m lead) (hw : Blanks w) (hk : textForm p.2.key k)
      (hw' : Blanks w') (ht : WellFormed .slot t) (hb : Ahead .member n between) (hw'' : Blanks w'')
      (hk' : textForm p.2.key k') :
      Repeats fs (Octet.openBrace :: (lead ++ (w ++ (k ++ (w' ++ Octet.colon ::
        (t ++ Octet.comma :: (between ++ (w'' ++ (k' ++ x)))))))))
  /-- It happens in the value of a member. -/
  | member {p : (β : Type) × Facet α β} {n : Nat} {lead w k w' w'' x : Octets} (hp : p ∈ fs)
      (hl : Ahead .member n lead) (hw : Blanks w) (hk : textForm p.2.key k) (hw' : Blanks w')
      (hw'' : Blanks w'') (h : p.2.content.repeats x) :
      Repeats fs (Octet.openBrace :: (lead ++ (w ++ (k ++ (w' ++ Octet.colon :: (w'' ++ x))))))
  /-- It happens in a part of a record that is written as a list. -/
  | element {p : (β : Type) × Facet α β} {n : Nat} {lead w x : Octets} (hp : fs[n]? = some p)
      (hl : Ahead .slot n lead) (hw : Blanks w) (h : p.2.content.repeats x) :
      Repeats fs (Octet.openBracket :: (lead ++ (w ++ x)))

/-! ### Contents -/

namespace Content

variable {α β : Type}

/-- A text in which there are no records. -/
def plain (conveys : Form β) : Content β :=
  { conveys, repeats := fun _ => False }

def text : Content String :=
  plain textForm

def whole (toInt : β → Int) : Content β :=
  plain (integerForm toInt)

def option (c : Content β) : Content (Option β) where
  conveys := optionForm c.conveys
  repeats := c.repeats

def list (c : Content β) : Content (List β) where
  conveys := listForm c.conveys
  repeats := RepeatsInList c.repeats

def record (fs : Facets α) : Content α where
  conveys := Conveys fs
  repeats := Repeats fs

end Content

/-! ### Objects that take the same way -/

section Simulation

variable {σ τ : Type} {Row : σ → String → Octets → σ → Prop}
  {Row' : τ → String → Octets → τ → Prop} {Good : σ → Prop} {Related : σ → τ → Prop}

/-- Each member that leads to a good state comes from one, and leads from related states to related
states. -/
structure Matches (Row : σ → String → Octets → σ → Prop) (Row' : τ → String → Octets → τ → Prop)
    (Good : σ → Prop) (Related : σ → τ → Prop) : Prop where
  back : ∀ {s s' key t}, Row s key t s' → Good s' → Good s
  step : ∀ {s s' key t u}, Row s key t s' → Good s' → Related s u →
    ∃ u', Row' u key t u' ∧ Related s' u'

theorem Matches.good_leading (h : Matches Row Row' Good Related) {s s' : σ} {t : Octets}
    (hl : Leading Row s t s') (good : Good s') : Good s := by
  induction hl with
  | nil => exact good
  | cons _ _ hr _ _ ih => exact h.back hr (ih good)

/-- Members before the last are matched one by one. -/
theorem Matches.leading (h : Matches Row Row' Good Related) {s s' : σ} {t : Octets}
    (hl : Leading Row s t s') (good : Good s') {u : τ} (hu : Related s u) :
    ∃ u', Leading Row' u t u' ∧ Related s' u' := by
  induction hl generalizing u with
  | nil => exact ⟨u, .nil, hu⟩
  | cons hw hk hr hw' hs ih =>
      obtain ⟨u₁, hr', hu₁⟩ := h.step hr (h.good_leading hs good) hu
      obtain ⟨u₂, hs', hu₂⟩ := ih good hu₁
      exact ⟨u₂, .cons hw hk hr' hw' hs', hu₂⟩

/-- An object takes related states to related states. -/
theorem Matches.objectForm (h : Matches Row Row' Good Related) {s s' : σ} {t : Octets}
    (ho : objectForm Row s s' t) (good : Good s') {u : τ} (hu : Related s u) :
    ∃ u', Json.objectForm Row' u u' t ∧ Related s' u' := by
  obtain ⟨body, rfl, ⟨hw, rfl⟩ | ⟨hl, hw, hk, hr, hw'⟩⟩ := ho
  · exact ⟨u, ⟨body, rfl, .inl ⟨hw, rfl⟩⟩, hu⟩
  · obtain ⟨u₁, hl', hu₁⟩ := h.leading hl (h.back hr good) hu
    obtain ⟨u₂, hr', hu₂⟩ := h.step hr good hu₁
    exact ⟨u₂, ⟨_, rfl, .inr ⟨hl', hw, hk, hr', hw'⟩⟩, hu₂⟩

end Simulation

/-! ### Records -/

namespace Layout

variable {α : Type} {L : Layout α} {facet : (f : L.Field) → Facet α (L.Value f)}

/-- The fields of a record as its facets. -/
def facets (L : Layout α) (facet : (f : L.Field) → Facet α (L.Value f)) : Facets α :=
  L.fields.map fun f => ⟨L.Value f, facet f⟩

/-- The fields of a record are its facets: each has the key of its facet, and a record is built from
fields as from their values and defaults. -/
structure Faceted (L : Layout α) (facet : (f : L.Field) → Facet α (L.Value f)) : Prop where
  keys : ∀ f, L.field? (L.key f) = some f
  named : ∀ f, (facet f).key = L.key f
  build : ∀ slots a, (∀ f, (slots f).or (facet f).default = some ((facet f).get a)) →
    L.build? slots = some a
  built : ∀ slots a, L.build? slots = some a →
    ∀ f, (slots f).or (facet f).default = some ((facet f).get a)

namespace Faceted

variable {F : (f : L.Field) → Form (L.Value f)}

theorem mem_fields (h : L.Faceted facet) (f : L.Field) : f ∈ L.fields :=
  List.mem_of_find?_eq_some (h.keys f)

theorem mem_facets (h : L.Faceted facet) (f : L.Field) :
    (⟨L.Value f, facet f⟩ : (β : Type) × Facet α β) ∈ L.facets facet :=
  List.mem_map_of_mem (h.mem_fields f)

/-- Different fields have different keys. -/
theorem key_injective (h : L.Faceted facet) {f g : L.Field} (he : L.key f = L.key g) : f = g :=
  Option.some.inj ((h.keys f).symm.trans (he ▸ h.keys g))

/-- The fields of which the keys have been seen, as they are in the record. -/
def known (facet : (f : L.Field) → Facet α (L.Value f)) (a : α) (seen : List String) : L.Slots :=
  fun f => if L.key f ∈ seen then some ((facet f).get a) else none

theorem known_cons (h : L.Faceted facet) (a : α) (seen : List String) (f : L.Field) :
    known facet a (L.key f :: seen) = (known facet a seen).set f ((facet f).get a) := by
  funext g
  by_cases hg : g = f
  · subst hg
    simp [known, Slots.set]
  · have hk : L.key g ≠ L.key f := fun he => hg (h.key_injective he)
    rw [Slots.set_of_ne _ hg]
    simp [known, hk]

/-- What an object tells is what the fields of the record are. -/
theorem matches_told (h : L.Faceted facet) (fields : ∀ f, F f = (facet f).content.conveys) (a : α) :
    Matches (Told (L.facets facet) a) (L.Row F) (fun _ => True)
      (fun seen slots => slots = known facet a seen) where
  back _ _ := trivial
  step := by
    rintro seen seen' key t slots told - rfl
    cases told with
    | facet hp new hw hw' ht =>
        obtain ⟨f, -, rfl⟩ := List.mem_map.mp hp
        simp only [h.named] at new ht ⊢
        refine ⟨_, .known (if_neg new) hw hw' ((fields f).symm ▸ ht), ?_⟩
        exact (h.known_cons a seen f).symm
    | other hk hw hw' ht =>
        refine ⟨_, .unknown (fun f hf he => ?_) hw hw' ht, rfl⟩
        exact hk _ (List.mem_map_of_mem hf) ((h.named f).trans he)

/-- What the fields of a record are is told of it, if they are as in `a` in the end. -/
theorem matches_row (h : L.Faceted facet) (fields : ∀ f, F f = (facet f).content.conveys) (a : α) :
    Matches (L.Row F) (Told (L.facets facet) a)
      (fun slots => ∀ f v, slots f = some v → v = (facet f).get a)
      (fun slots seen => ∀ f, (slots f).isSome = true ↔ L.key f ∈ seen) where
  back := by
    intro slots slots' key t hr good
    cases hr with
    | @known f v _ _ _ new _ _ _ =>
        intro g v' hv
        have hg : g ≠ f := by
          rintro rfl
          rw [new] at hv
          cases hv
        exact good g v' (by rw [Slots.set_of_ne _ hg, hv])
    | unknown _ _ _ _ => exact good
  step := by
    intro slots slots' key t seen hr good related
    cases hr with
    | @known f v w w' t new hw hw' ht =>
        obtain rfl := good f v (by simp [Slots.set])
        have hnew : L.key f ∉ seen := fun hs => by
          have := (related f).mpr hs
          rw [new] at this
          cases this
        refine ⟨L.key f :: seen, ?_, fun g => ?_⟩
        · have := Told.facet (a := a) (h.mem_facets f) (by rwa [h.named]) hw hw' (fields f ▸ ht)
          rwa [h.named] at this
        · by_cases hg : g = f
          · subst hg
            simp [Slots.set]
          · have hk : L.key g ≠ L.key f := fun he => hg (h.key_injective he)
            rw [Slots.set_of_ne _ hg, related]
            simp [hk]
    | unknown new hw hw' ht =>
        refine ⟨seen, .other (fun p hp he => ?_) hw hw' ht, related⟩
        obtain ⟨f, hf, rfl⟩ := List.mem_map.mp hp
        exact new f hf ((h.named f).symm.trans he)

/-- **The forms of a record** are what the objects say that have its fields as facets. -/
theorem form_eq_conveys (h : L.Faceted facet) (fields : ∀ f, F f = (facet f).content.conveys) :
    L.form F = Conveys (L.facets facet) := by
  funext a t
  refine propext ⟨?_, ?_⟩
  · rintro ⟨slots, ho, hb⟩
    have built := h.built slots a hb
    have good : ∀ f v, slots f = some v → v = (facet f).get a := fun f v hv => by
      have := built f
      rw [hv, Option.some_or] at this
      exact Option.some.inj this
    obtain ⟨seen, told, related⟩ := (h.matches_row fields a).objectForm ho good
      (u := []) (fun f => by simp [empty])
    refine ⟨seen, told, fun p hp => ?_⟩
    obtain ⟨f, -, rfl⟩ := List.mem_map.mp hp
    simp only [h.named]
    cases hs : slots f with
    | some v => exact .inl ((related f).mp (by rw [hs]; rfl))
    | none =>
        have := built f
        rw [hs, Option.none_or] at this
        exact .inr this
  · rintro ⟨seen, told, all⟩
    obtain ⟨slots, ho, rfl⟩ := (h.matches_told fields a).objectForm told trivial
      (u := L.empty) rfl
    refine ⟨_, ho, h.build _ a fun f => ?_⟩
    by_cases hk : L.key f ∈ seen
    · rw [known, if_pos hk, Option.some_or]
    · rw [known, if_neg hk, Option.none_or]
      exact (all _ (h.mem_facets f)).resolve_left fun hs => hk ((h.named f) ▸ hs)

end Faceted

/-- A value that is there, or else the default. -/
theorem getD_of_or {β : Type} {o : Option β} {d b : β} (h : o.or (some d) = some b) :
    o.getD d = b :=
  Option.some.inj (Option.or_some.symm.trans h)

/-- A value that has no default is there. -/
theorem eq_some_of_or_none {β : Type} {o : Option β} {b : β} (h : o.or none = some b) :
    o = some b :=
  Option.or_none.symm.trans h

/-- A record of one field, with a default. -/
theorem faceted_single {β : Type} (key : String) (read : Reader β) (make : β → α) (get : α → β)
    (d : β) (c : Content β) (get_make : ∀ b, get (make b) = b) (make_get : ∀ a, make (get a) = a) :
    (single key read fun v => some (make (v.getD d))).Faceted
      fun _ => .defaulted key get d c where
  keys f := by
    cases f
    simp [field?, single]
  named _ := rfl
  build slots a h := by
    have hv : (slots ()).getD d = get a := getD_of_or (h ())
    exact (congrArg (fun b => some (make b)) hv).trans (congrArg some (make_get a))
  built slots a hb f := by
    obtain rfl : make ((slots ()).getD d) = a := Option.some.inj hb
    exact Option.or_some.trans (congrArg some (get_make _).symm)

end Layout

end LogSteward.Json
