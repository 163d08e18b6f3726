import LogSteward.Proofs.Json.Grammar

/-!
# Passing over values

Any well-formed value is passed over, up to its last octet, whatever brackets are open around it
(`skipFrom_wellFormed`): the automaton gets from where a value is expected to where one has ended,
with the same brackets open.  So a value nobody asked for is left behind whole
(`skipValue_wellFormed`).
-/

namespace LogSteward.Json

open Skip

theorem skipFrom_cons {st st' : Skip} {nest nest' : List Bracket} {b : UInt8}
    (h : st.isOver nest (some b) = false) (hs : st.step nest b = .ok (st', nest')) (s : Octets) :
    skipFrom st nest (b :: s) = skipFrom st' nest' s := by
  simp [skipFrom, h, hs]

/-! ### Blanks -/

/-- The states in which blanks may come before what is expected. -/
def Skip.awaits : Skip → Bool
  | value | element | member | key | colon => true
  | after | word _ | thread _ _ | figure _ => false

theorem isOver_of_awaits {st : Skip} (hst : st.awaits = true) (nest : List Bracket)
    (next : Option UInt8) : st.isOver nest next = false := by
  cases st <;> first | exact Bool.and_false _ | cases hst

theorem skipFrom_blanks {st : Skip} (hst : st.awaits = true) (nest : List Bracket) {w : Octets}
    (hw : Blanks w) (s : Octets) : skipFrom st nest (w ++ s) = skipFrom st nest s := by
  induction w with
  | nil => rfl
  | cons b w ih =>
      obtain ⟨hb, hw⟩ := List.forall_mem_cons.mp hw
      have hs : st.step nest b = .ok (st, nest) := by
        cases st <;> first | exact if_pos hb | cases hst
      exact (skipFrom_cons (isOver_of_awaits hst _ _) hs _).trans (ih hw)

/-- Inside a bracket, blanks may come after a value. -/
theorem skipFrom_after_blanks (br : Bracket) (nest : List Bracket) {w : Octets} (hw : Blanks w)
    (s : Octets) : skipFrom .after (br :: nest) (w ++ s) = skipFrom .after (br :: nest) s := by
  induction w with
  | nil => rfl
  | cons b w ih =>
      obtain ⟨hb, hw⟩ := List.forall_mem_cons.mp hw
      have hs : after.step (br :: nest) b = .ok (after, br :: nest) := if_pos hb
      exact (skipFrom_cons rfl hs _).trans (ih hw)

/-- The first octet of a value. -/
theorem skipFrom_begin {nest nest' : List Bracket} {b : UInt8} {st : Skip}
    (hb : Octet.isBlank b = false) (h : begin nest b = .ok (st, nest')) (s : Octets) :
    skipFrom .value nest (b :: s) = skipFrom st nest' s := by
  have hs : value.step nest b = .ok (st, nest') := by
    rw [step, if_neg (by rw [hb]; exact Bool.false_ne_true), h]
  exact skipFrom_cons (isOver_of_awaits rfl _ _) hs s

/-! ### Words and strings -/

theorem isOver_word (ws : Octets) (nest : List Bracket) (next : Option UInt8) :
    (word ws).isOver nest next = false :=
  Bool.and_false _

theorem isOver_thread (t : Thread) (isKey : Bool) (nest : List Bracket) (next : Option UInt8) :
    (thread t isKey).isOver nest next = false :=
  Bool.and_false _

theorem skipFrom_word {ws : Octets} (hne : ws ≠ []) (nest : List Bracket) (s : Octets) :
    skipFrom (.word ws) nest (ws ++ s) = skipFrom .after nest s := by
  induction ws with
  | nil => exact absurd rfl hne
  | cons w ws ih =>
      have hs : (word (w :: ws)).step nest w = .ok (if ws = [] then after else word ws, nest) :=
        if_pos rfl
      refine (skipFrom_cons (isOver_word _ _ _) hs _).trans ?_
      by_cases hws : ws = []
      · subst hws
        rfl
      · rw [if_neg hws]
        exact ih hws

theorem skipFrom_thread {t : Thread} {b : UInt8} {t' : Thread} (hq : t = .plain → b ≠ Octet.quote)
    (h : t.step b = .ok t') (isKey : Bool) (nest : List Bracket) (s : Octets) :
    skipFrom (.thread t isKey) nest (b :: s) = skipFrom (.thread t' isKey) nest s := by
  have hs : (thread t isKey).step nest b = .ok (thread t' isKey, nest) := by
    rw [step, if_neg fun ⟨ht, hb⟩ => hq ht hb, h]
  exact skipFrom_cons (isOver_thread _ _ _ _) hs s

/-- The four digits of a numeric escape. -/
theorem skipFrom_digits {ds : Octets} (length : ds.length = 4) (h : (hexNumber? ds).isSome = true)
    (isKey : Bool) (nest : List Bracket) (s : Octets) :
    skipFrom (.thread (.digits []) isKey) nest (ds ++ s)
      = skipFrom (.thread .plain isKey) nest s := by
  match ds, length with
  | [a, b, c, d], _ =>
      have last : (Thread.digits [a, b, c]).step d = .ok .plain := if_pos h
      refine (skipFrom_thread (t := .digits []) nofun rfl isKey nest _).trans ?_
      refine (skipFrom_thread (t := .digits [a]) nofun rfl isKey nest _).trans ?_
      refine (skipFrom_thread (t := .digits [a, b]) nofun rfl isKey nest _).trans ?_
      exact skipFrom_thread (t := .digits [a, b, c]) nofun last isKey nest s

/-- A string is passed over up to and with its closing quote. -/
theorem skipFrom_loose {t : Octets} (h : Loose t) (isKey : Bool) (nest : List Bracket)
    (s : Octets) :
    skipFrom (.thread .plain isKey) nest (t ++ Octet.quote :: s)
      = skipFrom (if isKey then .colon else .after) nest s := by
  induction h with
  | nil =>
      have hs : (thread .plain isKey).step nest Octet.quote
          = .ok (if isKey then colon else after, nest) := by
        rw [step, if_pos ⟨rfl, rfl⟩]
      exact skipFrom_cons (isOver_thread _ _ _ _) hs s
  | plain quote backslash control _ ih =>
      refine (skipFrom_thread (fun _ => quote) ?_ isKey nest _).trans ih
      rw [Thread.step, if_neg backslash, if_neg (by rw [control]; exact Bool.false_ne_true)]
  | @short b t h' _ ih =>
      have hu : b ≠ Octet.letterU := fun hb => by subst hb; exact absurd h' (by decide)
      have hs : Thread.escape.step b = .ok .plain := by
        rw [Thread.step, if_neg hu, if_pos h']
      refine (skipFrom_thread (fun _ => by decide) rfl isKey nest _).trans ?_
      exact (skipFrom_thread (t := .escape) nofun hs isKey nest _).trans ih
  | @code ds t length h' _ ih =>
      simp only [List.cons_append, List.append_assoc]
      refine (skipFrom_thread (fun _ => by decide) rfl isKey nest _).trans ?_
      refine (skipFrom_thread (t := .escape) nofun rfl isKey nest _).trans ?_
      exact (skipFrom_digits length h' isKey nest _).trans ih

/-! ### Numbers -/

theorem skipFrom_figures {f f' : Figure} {t : Octets} (h : t.foldlM Figure.step? f = some f')
    (nest : List Bracket) (s : Octets) :
    skipFrom (.figure f) nest (t ++ s) = skipFrom (.figure f') nest s := by
  induction t generalizing f with
  | nil =>
      cases h
      rfl
  | cons b t ih =>
      obtain ⟨g, hg, h⟩ := Option.bind_eq_some_iff.mp h
      have ho : (figure f).isOver nest (some b) = false := by
        simp [isOver, hg]
      have hs : (figure f).step nest b = .ok (figure g, nest) := by
        simp [step, hg]
      exact (skipFrom_cons ho hs _).trans (ih h)

/-- A number that may end is over where no octet goes on with it. -/
theorem skipFrom_figure_ends {f : Figure} (hf : f.mayEnd = true) (nest : List Bracket)
    {rest : Octets} (he : Ends rest) :
    skipFrom (.figure f) nest rest = skipFrom .after nest rest := by
  cases rest with
  | nil => simp [skipFrom, isOver, endFault, hf]
  | cons b s =>
      have hb := he b rfl
      simp only [Octet.isFigure, Bool.or_eq_false_iff, beq_eq_false_iff_ne] at hb
      obtain ⟨⟨hd, hp⟩, hx⟩ := hb
      have hn : f.step? b = none := by
        cases f <;> simp_all [Figure.step?, Figure.mayEnd]
      simp [skipFrom, isOver, step, hf, hn]

/-- Digits that come where a number stays as it is. -/
theorem foldlM_digits {f : Figure} (stays : ∀ d, Octet.isDigit d = true → f.step? d = some f)
    {ds : Octets} (hd : ∀ d ∈ ds, Octet.isDigit d = true) :
    ds.foldlM Figure.step? f = some f := by
  induction ds with
  | nil => rfl
  | cons d ds ih =>
      obtain ⟨h, hd⟩ := List.forall_mem_cons.mp hd
      rw [List.foldlM_cons, stays d h]
      exact ih hd

/-- One digit or more, of which the first one gets where the others stay. -/
theorem foldlM_some_digits {f g : Figure}
    (gets : ∀ d, Octet.isDigit d = true → f.step? d = some g)
    (stays : ∀ d, Octet.isDigit d = true → g.step? d = some g) {ds : Octets} (hd : Digits ds) :
    ds.foldlM Figure.step? f = some g := by
  obtain ⟨hne, hd⟩ := hd
  cases ds with
  | nil => exact absurd rfl hne
  | cons d ds =>
      obtain ⟨h, hd⟩ := List.forall_mem_cons.mp hd
      rw [List.foldlM_cons, gets d h]
      exact foldlM_digits stays hd

/-- The point and the digits after it, if they are there. -/
theorem foldlM_fraction {f : Figure} (hf : f = .zero ∨ f = .whole) {t : Octets}
    (ht : t = [] ∨ ∃ ds, Digits ds ∧ t = Octet.point :: ds) :
    ∃ g, (g = f ∨ g = .fraction) ∧ t.foldlM Figure.step? f = some g := by
  rcases ht with rfl | ⟨ds, hd, rfl⟩
  · exact ⟨f, .inl rfl, rfl⟩
  · have point : f.step? Octet.point = some .point := by
      rcases hf with rfl | rfl <;> rfl
    refine ⟨.fraction, .inr rfl, ?_⟩
    rw [List.foldlM_cons, point]
    exact foldlM_some_digits (f := .point) (fun d h => if_pos h) (fun d h => if_pos h) hd

/-- The exponent, if it is there. -/
theorem foldlM_exponent {f : Figure} (hf : f = .zero ∨ f = .whole ∨ f = .fraction) {t : Octets}
    (ht : t = [] ∨ ∃ e sign ds, Octet.isExponent e = true ∧
      (sign = [] ∨ ∃ b, Octet.isSign b = true ∧ sign = [b]) ∧ Digits ds ∧
        t = e :: (sign ++ ds)) :
    ∃ g, g.mayEnd = true ∧ t.foldlM Figure.step? f = some g := by
  rcases ht with rfl | ⟨e, sign, ds, he, hs, hd, rfl⟩
  · refine ⟨f, ?_, rfl⟩
    rcases hf with rfl | rfl | rfl <;> rfl
  · -- where the exponent begins, the number may already be over
    have letter : f.step? e = some .letter := by
      have hb : e = 0x65 ∨ e = 0x45 := by
        simpa [Octet.isExponent] using he
      rcases hf with rfl | rfl | rfl <;> rcases hb with rfl | rfl <;> rfl
    refine ⟨.exponent, rfl, ?_⟩
    rw [List.foldlM_cons, letter]
    have stays : ∀ d, Octet.isDigit d = true → Figure.exponent.step? d = some .exponent :=
      fun d h => if_pos h
    rcases hs with rfl | ⟨b, hb, rfl⟩
    · refine foldlM_some_digits (fun d h => ?_) stays hd
      rw [Figure.step?, Octet.isSign_of_isDigit h, if_neg Bool.false_ne_true, if_pos h]
    · show (b :: ds).foldlM Figure.step? .letter = some .exponent
      rw [List.foldlM_cons, Figure.step?, if_pos hb]
      exact foldlM_some_digits (f := .letterSign) (fun d h => if_pos h) stays hd

theorem begin_digit {d : UInt8} (h : Octet.isDigit d = true) (hz : d ≠ Octet.zero)
    (nest : List Bracket) : begin nest d = .ok (figure .whole, nest) := by
  have hne : ∀ x, Octet.isDigit x = false → d ≠ x := fun x hx => Octet.ne_of_isDigit h hx
  simp [begin, h, hz, hne Octet.letterN rfl, hne Octet.letterT rfl, hne Octet.letterF rfl,
    hne Octet.quote rfl, hne Octet.minus rfl]

/-- The sign and the digits before the point. -/
theorem skipFrom_whole {sign whole : Octets} (hs : sign = [] ∨ sign = [Octet.minus])
    (hw : whole = [Octet.zero] ∨ Digits whole ∧ whole.head? ≠ some Octet.zero) :
    ∃ f : Figure, (f = .zero ∨ f = .whole) ∧ ∀ nest s,
      skipFrom .value nest (sign ++ (whole ++ s)) = skipFrom (.figure f) nest s := by
  have minus : ∀ nest s,
      skipFrom .value nest (Octet.minus :: s) = skipFrom (.figure .sign) nest s :=
    fun nest s => skipFrom_begin rfl rfl s
  rcases hw with rfl | ⟨⟨hne, hd⟩, hz⟩
  · refine ⟨.zero, .inl rfl, fun nest s => ?_⟩
    rcases hs with rfl | rfl
    · exact skipFrom_begin rfl rfl s
    · exact (minus nest _).trans (skipFrom_figures (t := [Octet.zero]) rfl nest s)
  · cases whole with
    | nil => exact absurd rfl hne
    | cons d ds =>
        obtain ⟨h, hd⟩ := List.forall_mem_cons.mp hd
        have hz : d ≠ Octet.zero := fun e => hz (by rw [e]; rfl)
        have rest : ds.foldlM Figure.step? .whole = some .whole :=
          foldlM_digits (f := .whole) (fun d h => if_pos h) hd
        refine ⟨.whole, .inr rfl, fun nest s => ?_⟩
        rcases hs with rfl | rfl
        · exact (skipFrom_begin (Octet.isBlank_of_isDigit h) (begin_digit h hz nest) _).trans
            (skipFrom_figures rest nest s)
        · have first : (d :: ds).foldlM Figure.step? .sign = some .whole := by
            rw [List.foldlM_cons, Figure.step?, if_neg hz, if_pos h]
            exact rest
          exact (minus nest _).trans (skipFrom_figures first nest s)

/-- A number begins with its sign or with a digit. -/
theorem IsNumber.first {t : Octets} (h : IsNumber t) :
    ∃ b s, (b = Octet.minus ∨ Octet.isDigit b = true) ∧ t = b :: s := by
  cases h with
  | @mk sign whole fraction exponent hs hw _ _ =>
      rcases hs with rfl | rfl
      · rcases hw with rfl | ⟨⟨hne, hd⟩, -⟩
        · exact ⟨_, _, .inr rfl, rfl⟩
        · cases whole with
          | nil => exact absurd rfl hne
          | cons d ds => exact ⟨d, _, .inr (hd d (by simp)), rfl⟩
      · exact ⟨_, _, .inl rfl, rfl⟩

/-- A number is passed over where no octet goes on with it. -/
theorem skipFrom_number {t : Octets} (h : IsNumber t) (nest : List Bracket) {rest : Octets}
    (he : Ends rest) : skipFrom .value nest (t ++ rest) = skipFrom .after nest rest := by
  cases h with
  | @mk sign whole fraction exponent hs hw hf hx =>
      obtain ⟨f, hf₀, start⟩ := skipFrom_whole hs hw
      obtain ⟨g, hg, point⟩ := foldlM_fraction hf₀ hf
      have hg' : g = .zero ∨ g = .whole ∨ g = .fraction := by
        rcases hg with rfl | rfl
        · rcases hf₀ with h | h
          · exact .inl h
          · exact .inr (.inl h)
        · exact .inr (.inr rfl)
      obtain ⟨k, hk, letter⟩ := foldlM_exponent hg' hx
      calc skipFrom .value nest (sign ++ (whole ++ (fraction ++ exponent)) ++ rest)
          = skipFrom .value nest (sign ++ (whole ++ (fraction ++ (exponent ++ rest)))) := by
            simp only [List.append_assoc]
        _ = skipFrom (.figure f) nest (fraction ++ (exponent ++ rest)) := start nest _
        _ = skipFrom (.figure g) nest (exponent ++ rest) := skipFrom_figures point nest _
        _ = skipFrom (.figure k) nest rest := skipFrom_figures letter nest _
        _ = skipFrom .after nest rest := skipFrom_figure_ends hk nest he

/-! ### Values -/

/-- How the octets of a part are passed over. -/
def Part.Passed : Part → Octets → Prop
  | value, t => ∀ nest rest, Ends rest →
      skipFrom .value nest (t ++ rest) = skipFrom .after nest rest
  | slot, t => ∀ br nest rest, Ends rest →
      skipFrom .value (br :: nest) (t ++ rest) = skipFrom .after (br :: nest) rest
  | elements, t => ∀ nest rest,
      skipFrom .value (.list :: nest) (t ++ Octet.closeBracket :: rest)
        = skipFrom .after nest rest
  | member, t => ∀ br nest rest, Ends rest →
      skipFrom .key (br :: nest) (t ++ rest) = skipFrom .after (br :: nest) rest
  | members, t => ∀ nest rest,
      skipFrom .key (.object :: nest) (t ++ Octet.closeBrace :: rest)
        = skipFrom .after nest rest

/-- No value begins with a closing bracket, and a member begins with a quote. -/
theorem opens_wellFormed {part : Part} {t : Octets} (h : WellFormed part t) :
    match part with
    | .value | .slot | .elements => Opens (· ≠ Octet.closeBracket) t
    | .member | .members => Opens (· = Octet.quote) t := by
  have first : ∀ {b : UInt8} {s : Octets}, Octet.isBlank b = false → b ≠ Octet.closeBracket →
      Opens (· ≠ Octet.closeBracket) (b :: s) :=
    fun {b s} hb hne => ⟨[], b, s, blanks_nil, hb, hne, rfl⟩
  induction h with
  | word h =>
      simp only [words, List.mem_cons, List.not_mem_nil, or_false] at h
      rcases h with rfl | rfl | rfl <;> exact first rfl (by decide)
  | text _ | emptyList _ | list _ _ | emptyObject _ | object _ _ => exact first rfl (by decide)
  | number h =>
      obtain ⟨b, s, hb, rfl⟩ := h.first
      have hne : b ≠ Octet.closeBracket := fun e => by
        subst e
        exact absurd hb (by decide)
      have hw : Octet.isBlank b = false := by
        rcases hb with rfl | hb
        · rfl
        · exact Octet.isBlank_of_isDigit hb
      exact first hw hne
  | slot hw h hw' ih => exact (ih.append _).blanks hw
  | element h ih => exact ih
  | elements h hs ih _ => exact ih.append _
  | member hw hk hw' h ih => exact ⟨_, _, _, hw, rfl, rfl, rfl⟩
  | lastMember h ih => exact ih
  | members h hs ih _ => exact ih.append _

/-- The first element of a list is a value like any other. -/
theorem skipFrom_element {t : Octets} (h : Opens (· ≠ Octet.closeBracket) t)
    (nest : List Bracket) : skipFrom .element nest t = skipFrom .value nest t := by
  obtain ⟨w, b, s, hw, hb, hne, rfl⟩ := h
  rw [skipFrom_blanks rfl nest hw, skipFrom_blanks rfl nest hw]
  have hs : element.step nest b = value.step nest b := by
    rw [step, step, if_neg (by simp [hb]), if_neg hne, if_neg (by simp [hb])]
  rw [skipFrom, skipFrom, hs, isOver_of_awaits rfl, isOver_of_awaits rfl]

/-- The first member of an object is a member like any other. -/
theorem skipFrom_member {t : Octets} (h : Opens (· = Octet.quote) t) (nest : List Bracket) :
    skipFrom .member nest t = skipFrom .key nest t := by
  obtain ⟨w, b, s, hw, hb, rfl, rfl⟩ := h
  rw [skipFrom_blanks rfl nest hw, skipFrom_blanks rfl nest hw]
  rfl

/-- **Every well-formed part is passed over**, whatever brackets are open around it. -/
theorem skipFrom_wellFormed {part : Part} {t : Octets} (h : WellFormed part t) :
    part.Passed t := by
  -- by induction on how the octets are made up; the brackets around them are not fixed, since the
  -- parts of a list or an object stand inside one bracket more
  induction h with
  | word h =>
      intro nest rest _
      simp only [words, List.mem_cons, List.not_mem_nil, or_false] at h
      rcases h with rfl | rfl | rfl
      · exact (skipFrom_begin rfl rfl _).trans (skipFrom_word (by decide) nest rest)
      · exact (skipFrom_begin rfl rfl _).trans (skipFrom_word (by decide) nest rest)
      · exact (skipFrom_begin rfl rfl _).trans (skipFrom_word (by decide) nest rest)
  | text h =>
      intro nest rest _
      simp only [List.cons_append, List.append_assoc]
      exact (skipFrom_begin rfl rfl _).trans (skipFrom_loose h false nest rest)
  | number h => exact fun nest rest he => skipFrom_number h nest he
  | emptyList hw =>
      intro nest rest _
      simp only [List.cons_append, List.append_assoc]
      refine (skipFrom_begin rfl rfl _).trans ?_
      rw [skipFrom_blanks rfl _ hw]
      exact skipFrom_cons (isOver_of_awaits rfl _ _) rfl rest
  | @list t h ih =>
      intro nest rest _
      simp only [List.cons_append, List.append_assoc]
      refine (skipFrom_begin rfl rfl _).trans ?_
      -- after `[` the automaton still allows for `]`, which no value begins with
      rw [skipFrom_element ((opens_wellFormed h).append _)]
      exact ih nest rest
  | emptyObject hw =>
      intro nest rest _
      simp only [List.cons_append, List.append_assoc]
      refine (skipFrom_begin rfl rfl _).trans ?_
      rw [skipFrom_blanks rfl _ hw]
      exact skipFrom_cons (isOver_of_awaits rfl _ _) rfl rest
  | @object t h ih =>
      intro nest rest _
      simp only [List.cons_append, List.append_assoc]
      refine (skipFrom_begin rfl rfl _).trans ?_
      rw [skipFrom_member ((opens_wellFormed h).append _)]
      exact ih nest rest
  | slot hw h hw' ih =>
      intro br nest rest he
      simp only [List.append_assoc]
      rw [skipFrom_blanks rfl _ hw, ih _ _ (ends_append hw' he), skipFrom_after_blanks _ _ hw']
  | element h ih =>
      intro nest rest
      rw [ih _ _ _ (ends_cons rfl rest)]
      exact skipFrom_cons rfl rfl rest
  | elements h hs ih ihs =>
      intro nest rest
      simp only [List.append_assoc, List.cons_append]
      rw [ih _ _ _ (ends_cons rfl _)]
      exact (skipFrom_cons rfl rfl _).trans (ihs nest rest)
  | member hw hk hw' h ih =>
      intro br nest rest he
      simp only [List.append_assoc, List.cons_append]
      rw [skipFrom_blanks rfl _ hw]
      refine (skipFrom_cons (isOver_of_awaits rfl _ _) rfl _).trans ?_
      refine (skipFrom_loose hk true _ _).trans ?_
      refine (skipFrom_blanks rfl _ hw' _).trans ?_
      exact (skipFrom_cons (isOver_of_awaits rfl _ _) rfl _).trans (ih br nest rest he)
  | lastMember h ih =>
      intro nest rest
      rw [ih _ _ _ (ends_cons rfl rest)]
      exact skipFrom_cons rfl rfl rest
  | members h hs ih ihs =>
      intro nest rest
      simp only [List.append_assoc, List.cons_append]
      rw [ih _ _ _ (ends_cons rfl _)]
      exact (skipFrom_cons rfl rfl _).trans (ihs nest rest)

/-- A value nobody asked for is left behind whole. -/
theorem skipValue_wellFormed {w t : Octets} (hw : Blanks w) (h : WellFormed .value t)
    {rest : Octets} (he : Ends rest) : skipValue (w ++ (t ++ rest)) = .ok rest := by
  have ended : skipFrom .after [] rest = .ok rest := by
    cases rest with
    | nil => rfl
    | cons b s => exact if_pos rfl
  rw [skipValue, skipFrom_blanks rfl _ hw, skipFrom_wellFormed h [] rest he, ended]

end LogSteward.Json
