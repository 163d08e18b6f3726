import Mathlib.Data.List.DropRight
import LogSteward.Json.Record

/-!
# The grammar of JSON

Which octets spell a value.  A `Form` relates the values of a type to their spellings: a string has
many, for each character may be written as it is or escaped (`SpellsChar`); a whole number has one;
a record (`Layout.form`) is an object with its members in any order, any blanks between tokens, and
any further members whose keys are not its own.  The value of such a member is any well-formed JSON
(`WellFormed`), nested to any depth.

A reader *reads* a form if it takes every spelling off the front of the octets (`Reads`), whatever
follows, as long as that does not go on with a number (`Ends`).
-/

namespace LogSteward.Json

/-- Which octets spell which values. -/
abbrev Form (α : Type) : Type := α → Octets → Prop

def Blanks (w : Octets) : Prop :=
  ∀ b ∈ w, Octet.isBlank b = true

theorem blanks_nil : Blanks [] :=
  fun _ h => absurd h List.not_mem_nil

theorem skipBlanks_append {w : Octets} (hw : Blanks w) (s : Octets) :
    skipBlanks (w ++ s) = skipBlanks s :=
  List.dropWhile_append_of_pos hw

@[simp] theorem skipBlanks_skipBlanks (s : Octets) : skipBlanks (skipBlanks s) = skipBlanks s :=
  List.dropWhile_idempotent Octet.isBlank s

theorem skipBlanks_cons {b : UInt8} (hb : Octet.isBlank b = false) (s : Octets) :
    skipBlanks (b :: s) = b :: s := by
  simp [skipBlanks, hb]

theorem skipBlanks_eq_nil {w : Octets} (hw : Blanks w) : skipBlanks w = [] := by
  rw [← List.append_nil w, skipBlanks_append hw]
  rfl

/-- The octets begin, after any blanks, with one that `p` holds of. -/
def Opens (p : UInt8 → Prop) (t : Octets) : Prop :=
  ∃ w b s, Blanks w ∧ Octet.isBlank b = false ∧ p b ∧ t = w ++ b :: s

theorem Opens.append {p : UInt8 → Prop} {t : Octets} (h : Opens p t) (s : Octets) :
    Opens p (t ++ s) := by
  obtain ⟨w, b, s', hw, hb, hp, rfl⟩ := h
  exact ⟨w, b, s' ++ s, hw, hb, hp, by simp⟩

theorem Opens.blanks {p : UInt8 → Prop} {t w : Octets} (hw : Blanks w) (h : Opens p t) :
    Opens p (w ++ t) := by
  obtain ⟨w', b, s, hw', hb, hp, rfl⟩ := h
  refine ⟨w ++ w', b, s, fun x hx => ?_, hb, hp, by simp⟩
  exact (List.mem_append.mp hx).elim (hw x) (hw' x)

/-! ### Strings -/

/-- The characters with a short escape, after the character that the backslash is followed by. -/
def shortEscapes : List (Char × Char) :=
  [('"', '"'), ('\\', '\\'), ('/', '/'), ('b', '\x08'), ('f', '\x0c'), ('n', '\n'), ('r', '\r'),
    ('t', '\t')]

/-- The spellings of a character inside a string. -/
inductive SpellsChar (c : Char) : Octets → Prop where
  | plain (quote : c ≠ '"') (backslash : c ≠ '\\') (control : 0x20 ≤ c.toNat) :
      SpellsChar c (String.utf8EncodeChar c)
  | short {e : Char} (h : (e, c) ∈ shortEscapes) :
      SpellsChar c [Octet.backslash, UInt8.ofNat e.toNat]
  | code {ds : Octets} (length : ds.length = 4) (h : hexNumber? ds = some c.toNat) :
      SpellsChar c (Octet.backslash :: Octet.letterU :: ds)
  /-- A character beyond U+FFFF, as the two halves of a surrogate pair. -/
  | pair {ds es : Octets} {m n : Nat} (length : ds.length = 4) (length' : es.length = 4)
      (h : hexNumber? ds = some m) (h' : hexNumber? es = some n)
      (high : 0xD800 ≤ m ∧ m ≤ 0xDBFF) (low : 0xDC00 ≤ n ∧ n ≤ 0xDFFF)
      (value : c.toNat = 0x10000 + (m - 0xD800) * 0x400 + (n - 0xDC00)) :
      SpellsChar c
        (Octet.backslash :: Octet.letterU :: (ds ++ Octet.backslash :: Octet.letterU :: es))

inductive SpellsChars : List Char → Octets → Prop where
  | nil : SpellsChars [] []
  | cons {c : Char} {cs : List Char} {t ts : Octets} (h : SpellsChar c t)
      (hs : SpellsChars cs ts) : SpellsChars (c :: cs) (t ++ ts)

/-- A string in quotes. -/
def textForm : Form String := fun s t =>
  ∃ body, SpellsChars s.toList body ∧ t = Octet.quote :: (body ++ [Octet.quote])

/-! ### Numbers -/

/-- A whole number in decimal, which has a single spelling. -/
def integerForm (toInt : α → Int) : Form α := fun a t =>
  t = Utf8.encode (toString (toInt a))

def Digits (ds : Octets) : Prop :=
  ds ≠ [] ∧ ∀ d ∈ ds, Octet.isDigit d = true

/-- Any number: sign, digits before the point, point and digits after it, exponent. -/
inductive IsNumber : Octets → Prop where
  | mk {sign whole fraction exponent : Octets} (hs : sign = [] ∨ sign = [Octet.minus])
      (hw : whole = [Octet.zero] ∨ Digits whole ∧ whole.head? ≠ some Octet.zero)
      (hf : fraction = [] ∨ ∃ ds, Digits ds ∧ fraction = Octet.point :: ds)
      (he : exponent = [] ∨ ∃ e sign ds, Octet.isExponent e = true ∧
        (sign = [] ∨ ∃ b, Octet.isSign b = true ∧ sign = [b]) ∧ Digits ds ∧
          exponent = e :: (sign ++ ds)) :
      IsNumber (sign ++ (whole ++ (fraction ++ exponent)))

/-! ### Values nobody asked for -/

/-- The octets between the quotes of a string that nobody reads: its escapes have to be such, but
they need not spell characters. -/
inductive Loose : Octets → Prop where
  | nil : Loose []
  | plain {b : UInt8} {t : Octets} (quote : b ≠ Octet.quote) (backslash : b ≠ Octet.backslash)
      (control : Octet.isControl b = false) (h : Loose t) : Loose (b :: t)
  | short {b : UInt8} {t : Octets} (h' : (Octet.shortEscape? b).isSome = true) (h : Loose t) :
      Loose (Octet.backslash :: b :: t)
  | code {ds t : Octets} (length : ds.length = 4) (h' : (hexNumber? ds).isSome = true)
      (h : Loose t) : Loose (Octet.backslash :: Octet.letterU :: (ds ++ t))

/-- The fixed words: `null`, `true` and `false`. -/
def words : List Octets :=
  [[0x6E, 0x75, 0x6C, 0x6C], [0x74, 0x72, 0x75, 0x65], [0x66, 0x61, 0x6C, 0x73, 0x65]]

/-- The parts of a JSON text. -/
inductive Part where
  | value
  /-- A value with blanks around it. -/
  | slot
  /-- Slots, separated by commas. -/
  | elements
  /-- A key, a colon and a slot. -/
  | member
  /-- Members, separated by commas. -/
  | members

/-- The octets of a part are well-formed JSON. -/
inductive WellFormed : Part → Octets → Prop where
  | word {w : Octets} (h : w ∈ words) : WellFormed .value w
  | text {t : Octets} (h : Loose t) : WellFormed .value (Octet.quote :: (t ++ [Octet.quote]))
  | number {t : Octets} (h : IsNumber t) : WellFormed .value t
  | emptyList {w : Octets} (h : Blanks w) :
      WellFormed .value (Octet.openBracket :: (w ++ [Octet.closeBracket]))
  | list {t : Octets} (h : WellFormed .elements t) :
      WellFormed .value (Octet.openBracket :: (t ++ [Octet.closeBracket]))
  | emptyObject {w : Octets} (h : Blanks w) :
      WellFormed .value (Octet.openBrace :: (w ++ [Octet.closeBrace]))
  | object {t : Octets} (h : WellFormed .members t) :
      WellFormed .value (Octet.openBrace :: (t ++ [Octet.closeBrace]))
  | slot {w v w' : Octets} (hw : Blanks w) (h : WellFormed .value v) (hw' : Blanks w') :
      WellFormed .slot (w ++ (v ++ w'))
  | element {t : Octets} (h : WellFormed .slot t) : WellFormed .elements t
  | elements {t ts : Octets} (h : WellFormed .slot t) (hs : WellFormed .elements ts) :
      WellFormed .elements (t ++ Octet.comma :: ts)
  | member {w k w' t : Octets} (hw : Blanks w) (hk : Loose k) (hw' : Blanks w')
      (h : WellFormed .slot t) :
      WellFormed .member (w ++ Octet.quote :: (k ++ Octet.quote :: (w' ++ Octet.colon :: t)))
  | lastMember {t : Octets} (h : WellFormed .member t) : WellFormed .members t
  | members {t ts : Octets} (h : WellFormed .member t) (hs : WellFormed .members ts) :
      WellFormed .members (t ++ Octet.comma :: ts)

/-! ### Optional values, objects, records -/

/-- A value, or `null` in its place. -/
def optionForm (F : Form α) : Form (Option α)
  | some a => F a
  | none => fun t => t = [0x6E, 0x75, 0x6C, 0x6C]

/-- Members of an object, each with a comma after it.  `Row s key t s'` says that a member with the
given key and the octets `t` after the key takes what the members before it amount to from `s` to
`s'`. -/
inductive Leading (Row : σ → String → Octets → σ → Prop) : σ → Octets → σ → Prop where
  | nil {s : σ} : Leading Row s [] s
  | cons {s s' s'' : σ} {key : String} {w k t w' ts : Octets} (hw : Blanks w)
      (hk : textForm key k) (h : Row s key t s') (hw' : Blanks w') (hs : Leading Row s' ts s'') :
      Leading Row s (w ++ (k ++ (t ++ (w' ++ Octet.comma :: ts)))) s''

/-- The members of an object, separated by commas: at least one. -/
inductive Members (Row : σ → String → Octets → σ → Prop) (s : σ) : Octets → σ → Prop where
  | mk {s₁ s' : σ} {lead : Octets} {key : String} {w k t w' : Octets}
      (hl : Leading Row s lead s₁) (hw : Blanks w) (hk : textForm key k) (h : Row s₁ key t s')
      (hw' : Blanks w') : Members Row s (lead ++ (w ++ (k ++ (t ++ w')))) s'

/-- An object that takes `s` to `s'`, from its opening brace to its closing one. -/
def objectForm (Row : σ → String → Octets → σ → Prop) (s s' : σ) (t : Octets) : Prop :=
  ∃ body, t = Octet.openBrace :: (body ++ [Octet.closeBrace]) ∧
    (Blanks body ∧ s' = s ∨ Members Row s body s')

/-- A member of a record: a field that is not there yet, or something else. -/
inductive Layout.Row (L : Layout α) (F : (f : L.Field) → Form (L.Value f)) :
    L.Slots → String → Octets → L.Slots → Prop where
  | known {slots : L.Slots} {f : L.Field} {v : L.Value f} {w w' t : Octets}
      (new : slots f = none) (hw : Blanks w) (hw' : Blanks w') (h : F f v t) :
      L.Row F slots (L.key f) (w ++ Octet.colon :: (w' ++ t)) (slots.set f v)
  | unknown {slots : L.Slots} {key : String} {w w' t : Octets}
      (new : ∀ f ∈ L.fields, L.key f ≠ key) (hw : Blanks w) (hw' : Blanks w')
      (h : WellFormed .value t) :
      L.Row F slots key (w ++ Octet.colon :: (w' ++ t)) slots

/-- A record as an object. -/
def Layout.form (L : Layout α) (F : (f : L.Field) → Form (L.Value f)) : Form α := fun a t =>
  ∃ slots, objectForm (L.Row F) L.empty slots t ∧ L.build? slots = some a

/-- An entry of a dictionary, which comes after those before it. -/
inductive Entry (F : Form α) :
    List (String × α) → String → Octets → List (String × α) → Prop where
  | mk {entries : List (String × α)} {key : String} {a : α} {w w' t : Octets} (hw : Blanks w)
      (hw' : Blanks w') (h : F a t) :
      Entry F entries key (w ++ Octet.colon :: (w' ++ t)) (entries ++ [(key, a)])

/-- An object with any keys, and its entries in their order. -/
def dictionaryForm (F : Form α) : Form (List (String × α)) :=
  objectForm (Entry F) []

/-! ### Reading -/

/-- Whether an octet goes on with a number. -/
def Octet.isFigure (b : UInt8) : Bool :=
  isDigit b || b == point || isExponent b

/-- The octets do not go on with a number. -/
def Ends (s : Octets) : Prop :=
  ∀ b ∈ s.head?, Octet.isFigure b = false

theorem ends_cons {b : UInt8} (h : Octet.isFigure b = false) (s : Octets) : Ends (b :: s) := by
  simpa [Ends] using h

theorem Octet.isFigure_of_isBlank {b : UInt8} (h : isBlank b = true) : isFigure b = false := by
  simp only [isBlank, Bool.or_eq_true, beq_iff_eq] at h
  rcases h with ((rfl | rfl) | rfl) | rfl <;> rfl

theorem Octet.ne_of_isDigit {b x : UInt8} (h : isDigit b = true) (hx : isDigit x = false) :
    b ≠ x := by
  rintro rfl
  rw [h] at hx
  cases hx

theorem Octet.isBlank_of_isDigit {b : UInt8} (h : isDigit b = true) : isBlank b = false := by
  have hne : ∀ x, isDigit x = false → b ≠ x := fun x hx => ne_of_isDigit h hx
  simp [isBlank, hne 0x20 rfl, hne 0x09 rfl, hne 0x0A rfl, hne 0x0D rfl]

theorem Octet.isSign_of_isDigit {b : UInt8} (h : isDigit b = true) : isSign b = false := by
  simp [isSign, ne_of_isDigit (x := plus) h rfl, ne_of_isDigit (x := minus) h rfl]

theorem ends_of_blanks {w : Octets} (hw : Blanks w) : Ends w :=
  fun b hb => Octet.isFigure_of_isBlank (hw b (List.mem_of_mem_head? hb))

theorem ends_append {w : Octets} (hw : Blanks w) {s : Octets} (hs : Ends s) : Ends (w ++ s) := by
  cases w with
  | nil => exact hs
  | cons b w => exact ends_cons (Octet.isFigure_of_isBlank (hw b (by simp))) _

/-- The reader takes every spelling of a value off the front of the octets, after any blanks. -/
structure Reads (read : Reader α) (F : Form α) : Prop where
  blanks : ∀ s, read (skipBlanks s) = read s
  complete : ∀ {a t rest}, F a t → Ends rest → read (t ++ rest) = .ok (a, rest)

namespace Reads

variable {read : Reader α} {F : Form α}

/-- A value is read with blanks before it and whatever may follow it. -/
theorem padded (h : Reads read F) {a : α} {w t rest : Octets} (hw : Blanks w) (ht : F a t)
    (he : Ends rest) : read (w ++ (t ++ rest)) = .ok (a, rest) := by
  rw [← h.blanks, skipBlanks_append hw, h.blanks, h.complete ht he]

/-- A text that spells a value, with blanks around it, is read as that value. -/
theorem decodeOctets (h : Reads read F) {a : α} {w t w' : Octets} (hw : Blanks w) (ht : F a t)
    (hw' : Blanks w') : decodeOctets read (w ++ (t ++ w')) = .ok a := by
  rw [Json.decodeOctets, h.padded hw ht (ends_of_blanks hw')]
  simp [skipBlanks_eq_nil hw']

end Reads

end LogSteward.Json
