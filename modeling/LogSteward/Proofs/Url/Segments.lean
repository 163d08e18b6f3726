import LogSteward.Proofs.Text.Utf8
import LogSteward.Proofs.Url.Names

/-!
# Any name below an address

Percent-encoding loses nothing if the percent sign itself is encoded (`Percent.decode_encode`).  So
the segment that a name is written as (`Url.written`) stands for no other name, and, unless the name
is a dot or two, for no directory.

But a name that is a dot or two is left out of a path, and of others the tabs and line breaks are
dropped, so that what is left may be a dot or two after all.  `Url.below?_name` says for every name
where it leads; the names that lead to a segment of their own are the addressable ones
(`Url.isAddressable_iff`).
-/

namespace LogSteward

namespace Percent

/-! ### Encoding and decoding -/

theorem hexDigit_mod (n : Nat) : hexDigit (n % 16) = hexDigit n := by
  rw [hexDigit, hexDigit, Nat.mod_mod]

theorem hexValue?_hexDigit (n : Nat) : hexValue? (hexDigit n) = some (n % 16) := by
  have table : ∀ k < 16, hexValue? (hexDigit k) = some k := by decide
  rw [← hexDigit_mod, table _ (Nat.mod_lt _ (by decide))]

theorem decodeChars_octet (b : UInt8) (rest : List Char) :
    decodeChars (octet b ++ rest) = b :: decodeChars rest := by
  simp only [octet, List.cons_append, List.nil_append]
  rw [decodeChars]
  simp only [hexValue?_hexDigit]
  have hb : b.toNat < 256 := b.toNat_lt
  rw [show b.toNat / 16 % 16 * 16 + b.toNat % 16 = b.toNat by omega, UInt8.ofNat_toNat]

theorem decodeChars_octets (bs : Octets) (rest : List Char) :
    decodeChars (bs.flatMap octet ++ rest) = bs ++ decodeChars rest := by
  induction bs with
  | nil => rfl
  | cons b bs ih =>
      rw [List.flatMap_cons, List.append_assoc, decodeChars_octet, ih, List.cons_append]

theorem decodeChars_cons {c : Char} (h : c ≠ '%') (rest : List Char) :
    decodeChars (c :: rest) = String.utf8EncodeChar c ++ decodeChars rest := by
  rw [decodeChars]
  exact fun _ _ _ he => absurd he h

variable {set : Reserved}

/-- A character is read back, encoded or not. -/
theorem decodeChars_encodeChar (h : set '%' = true) (c : Char) (rest : List Char) :
    decodeChars (encodeChar set c ++ rest) = String.utf8EncodeChar c ++ decodeChars rest := by
  rw [encodeChar]
  split
  · next hc =>
    refine decodeChars_cons (fun he => ?_) rest
    rw [he, h] at hc
    cases hc.2
  · exact decodeChars_octets _ rest

/-- **Round trip**: if the percent sign is encoded, a text stands for its own octets. -/
theorem decode_encode (h : set '%' = true) (s : String) :
    decode (encode set s) = Utf8.encode s := by
  rw [decode, encode, String.toList_ofList, Utf8.encode]
  induction s.toList with
  | nil => rw [List.flatMap_nil, decodeChars, List.flatMap_nil]
  | cons c cs ih => rw [List.flatMap_cons, decodeChars_encodeChar h, ih, List.flatMap_cons]

/-- The characters that octets are written with. -/
def signs : List Char := "%0123456789ABCDEF".toList

theorem hexDigit_mem_signs (n : Nat) : hexDigit n ∈ signs := by
  have table : ∀ k < 16, hexDigit k ∈ signs := by decide
  exact hexDigit_mod n ▸ table _ (Nat.mod_lt _ (by decide))

theorem lt_of_mem_signs {c : Char} (h : c ∈ signs) : c.toNat < 0x80 := by
  have ascii : signs.all (·.toNat < 0x80) = true := by decide
  exact of_decide_eq_true (List.all_eq_true.mp ascii c h)

/-- What is left of a text when it is encoded. -/
theorem mem_encode {s : String} {c : Char} (hc : c ∈ (encode set s).toList) :
    c.toNat < 0x80 ∧ set c = false ∨ c ∈ signs := by
  rw [encode, String.toList_ofList] at hc
  obtain ⟨d, -, hd⟩ := List.mem_flatMap.mp hc
  rw [encodeChar] at hd
  split at hd
  · next h =>
    rw [List.mem_singleton.mp hd]
    exact .inl h
  · obtain ⟨b, -, hb⟩ := List.mem_flatMap.mp hd
    refine .inr ?_
    simp only [octet, List.mem_cons, List.not_mem_nil, or_false] at hb
    rcases hb with rfl | rfl | rfl
    · decide
    · exact hexDigit_mem_signs _
    · exact hexDigit_mem_signs _

theorem not_mem_encode {c : Char} (h : set c = true) (h' : c ∉ signs) (s : String) :
    c ∉ (encode set s).toList := by
  intro hc
  rcases mem_encode hc with ⟨-, hset⟩ | hsign
  · rw [h] at hset
    cases hset
  · exact h' hsign

end Percent

namespace Url

/-! ### The segment for a name -/

/-- What is encoded in a name. -/
def reserved (common : Bool) : Percent.Reserved :=
  if common then Percent.specialSegment else Percent.segment

/-- What is left of a name without tabs and line breaks. -/
def bare (name : String) : String :=
  String.ofList (cleaned name.toList)

/-- The segment that a name is written as. -/
def written (common : Bool) (name : String) : String :=
  Percent.encode (reserved common) (bare name)

/-- A name that can stand in a path: it is not a dot or two, and has no tab or line break. -/
structure IsAddressable (name : String) : Prop where
  not_dot : name ≠ "."
  not_dots : name ≠ ".."
  unbroken : ∀ c ∈ name.toList, isDropped c = false

/-- Whether a name can be addressed can be read off its characters. -/
theorem isAddressable_iff_all {name : String} :
    IsAddressable name ↔
      name ≠ "." ∧ name ≠ ".." ∧ name.toList.all (!isDropped ·) = true := by
  rw [List.all_eq_true]
  simp only [Bool.not_eq_true']
  exact ⟨fun ⟨h, h', h''⟩ => ⟨h, h', h''⟩, fun ⟨h, h', h''⟩ => ⟨h, h', h''⟩⟩

instance (name : String) : Decidable (IsAddressable name) :=
  decidable_of_iff' _ isAddressable_iff_all

/-- Nothing but one segment: it does not end in itself, and is not taken for a directory. -/
structure IsSegment (common : Bool) (s : String) : Prop where
  ascii : ∀ c ∈ s.toList, c.toNat < 0x80
  unended : ∀ c ∈ s.toList, isSlash common c = false ∧ c ≠ '?' ∧ c ≠ '#'
  not_here : isHere s = false
  not_above : isAbove s = false

/-- A name is bare exactly if nothing would be dropped from it. -/
theorem bare_eq_iff {name : String} :
    bare name = name ↔ ∀ c ∈ name.toList, isDropped c = false := by
  rw [bare, cleaned, ← String.toList_inj, String.toList_ofList, List.filter_eq_self]
  simp only [Bool.not_eq_true']

theorem IsAddressable.bare {name : String} (h : IsAddressable name) : bare name = name :=
  bare_eq_iff.mpr h.unbroken

theorem reserved_percent (common : Bool) : reserved common '%' = true := by
  cases common <;> decide

/-- What is written of a name is read back as far as it is not dropped. -/
theorem decode_written (common : Bool) (name : String) :
    Percent.decode (written common name) = Utf8.encode (bare name) :=
  Percent.decode_encode (reserved_percent common) _

/-- What a written name stands for can be read off. -/
theorem bare_of_decode {common : Bool} {name s : String}
    (h : Percent.decode (written common name) = Utf8.encode s) : bare name = s := by
  rw [decode_written] at h
  exact Option.some.inj (by rw [← Utf8.decode?_encode, h, Utf8.decode?_encode])

/-- **No two addressable names** are written alike. -/
theorem name_of_written {common : Bool} {name name' : String} (h : IsAddressable name)
    (h' : IsAddressable name') (e : written common name = written common name') : name = name' := by
  rw [← h.bare, ← h'.bare]
  exact bare_of_decode (by rw [e, decode_written])

/-- A written name is taken for a directory only if it was one before: every spelling of a directory
stands for the same octets. -/
theorem isHere_written (common : Bool) (name : String) :
    isHere (written common name) = true ↔ bare name = "." := by
  have spellings : ∀ s ∈ [".", "%2e", "%2E"], Percent.decode s = Utf8.encode "." := by
    decide +kernel
  constructor
  · intro h
    rw [isHere, List.contains_iff_mem] at h
    exact bare_of_decode (spellings _ h)
  · intro h
    rw [written, h]
    cases common <;> decide

/-- A segment leads upwards exactly if two dots are all that is left of the name. -/
theorem isAbove_written (common : Bool) (name : String) :
    isAbove (written common name) = true ↔ bare name = ".." := by
  have spellings : ∀ s ∈ ["..", ".%2e", ".%2E", "%2e.", "%2E.", "%2e%2e", "%2e%2E", "%2E%2e",
      "%2E%2E"], Percent.decode s = Utf8.encode ".." := by
    decide +kernel
  constructor
  · intro h
    rw [isAbove, List.contains_iff_mem] at h
    exact bare_of_decode (spellings _ h)
  · intro h
    rw [written, h]
    cases common <;> decide

/-- A name that leaves anything but dots is written as a segment. -/
theorem isSegment_written (common : Bool) {name : String} (h : bare name ≠ ".")
    (h' : bare name ≠ "..") : IsSegment common (written common name) where
  ascii c hc := by
    rcases Percent.mem_encode hc with ⟨hc, -⟩ | hc
    · exact hc
    · exact Percent.lt_of_mem_signs hc
  unended c hc := by
    have slash : c ≠ '/' := by
      rintro rfl
      exact Percent.not_mem_encode (by cases common <;> decide) (by decide) _ hc
    have backslash : common = true → c ≠ '\\' := by
      rintro rfl rfl
      exact Percent.not_mem_encode (by decide) (by decide) _ hc
    have question : c ≠ '?' := by
      rintro rfl
      exact Percent.not_mem_encode (by cases common <;> decide) (by decide) _ hc
    have hash : c ≠ '#' := by
      rintro rfl
      exact Percent.not_mem_encode (by cases common <;> decide) (by decide) _ hc
    refine ⟨?_, question, hash⟩
    cases common with
    | false => simp [isSlash, slash]
    | true => simp [isSlash, slash, backslash rfl]
  not_here := Bool.eq_false_iff.mpr (mt (isHere_written common name).mp h)
  not_above := Bool.eq_false_iff.mpr (mt (isAbove_written common name).mp h')

/-- A name that can be addressed is written as a segment. -/
theorem IsAddressable.isSegment {name : String} (h : IsAddressable name) (common : Bool) :
    IsSegment common (written common name) :=
  isSegment_written common (h.bare.symm ▸ h.not_dot) (h.bare.symm ▸ h.not_dots)

theorem IsSegment.not_slash {common : Bool} {s : String} (h : IsSegment common s) :
    '/' ∉ s.toList := by
  intro hs
  have := (h.unended '/' hs).1
  rw [isSlash] at this
  cases this

/-! ### Where a name leads -/

/-- The path that a name leads to below two segments, the second of which is `last`. -/
def placed (common : Bool) (base : List String) (last name : String) : List String :=
  if name = "." ∨ name = ".." then base ++ [last]
  else if bare name = ".." then base ++ [""]
  else if bare name = "." then base ++ [last, ""]
  else base ++ [last, written common name]

theorem placed_addressable (common : Bool) (base : List String) (last : String) {name : String}
    (h : IsAddressable name) :
    placed common base last name = base ++ [last, written common name] := by
  rw [placed, h.bare, if_neg (not_or_intro h.not_dot h.not_dots), if_neg h.not_dots,
    if_neg h.not_dot]

/-- **The addressable names** are those that lead to one segment which stands for them. -/
theorem isAddressable_iff (common : Bool) (base : List String) (last name : String) :
    IsAddressable name ↔ ∃ s, placed common base last name = base ++ [last, s] ∧
      IsSegment common s ∧ Percent.decode s = Utf8.encode name := by
  constructor
  · intro h
    refine ⟨_, placed_addressable common base last h, h.isSegment common, ?_⟩
    rw [decode_written, h.bare]
  · rintro ⟨s, at_s, -, decoded⟩
    rw [placed] at at_s
    split_ifs at at_s with dots above here
    · cases List.append_cancel_left at_s
    · cases List.append_cancel_left at_s
    · -- the segment is empty, but some character of the name is a dot
      injection List.append_cancel_left at_s with _ at_s
      injection at_s with empty
      have unwritten : written common "" = "" := by
        cases common <;> decide
      have : bare "" = name := bare_of_decode (unwritten.trans empty ▸ decoded)
      rw [← this] at here
      exact absurd here (by decide)
    · injection List.append_cancel_left at_s with _ at_s
      injection at_s with written
      have kept : bare name = name := bare_of_decode (written ▸ decoded)
      exact ⟨fun h => dots (.inl h), fun h => dots (.inr h), bare_eq_iff.mp kept⟩

/-- A name leads out of the second segment only if two dots are left of it, but it was not two
dots. -/
theorem placed_below (common : Bool) (base : List String) (last : String) {name : String}
    (h : bare name = ".." → name = "..") :
    ∃ rest, placed common base last name = base ++ last :: rest := by
  rw [placed]
  split_ifs with dots above here
  · exact ⟨[], rfl⟩
  · exact absurd (.inr (h above)) dots
  · exact ⟨[""], rfl⟩
  · exact ⟨[written common name], rfl⟩

/-- Unless it is left out, a name is put behind the rest as it is written. -/
theorem pushName_written (common : Bool) {parts : List String} (hp : parts ≠ [""]) {name : String}
    (h : ¬ (name = "." ∨ name = "..")) :
    pushName common parts name = addSegment parts (written common name) true := by
  rw [pushName, if_neg h, written, reserved, bare]
  simp only [if_neg hp]

/-- A written name is added as a directory only if what is left of the name is one. -/
theorem addSegment_written (common : Bool) (parts : List String) (name : String) :
    addSegment parts (written common name) true
      = if bare name = ".." then above parts ++ [""]
        else if bare name = "." then parts ++ [""]
        else parts ++ [written common name] := by
  simp only [addSegment, isAbove_written, isHere_written, if_true]

/-- A name is put where it is placed. -/
theorem pushName_eq (common : Bool) {base : List String} {last : String} (hl : last ≠ "")
    (hd : isDrive last = false) (name : String) :
    pushName common (base ++ [last]) name = placed common base last name := by
  have up : above (base ++ [last]) = base := by
    rw [above, List.getLast?_concat, Option.any_some, hd, List.dropLast_concat]
    rfl
  by_cases h : name = "." ∨ name = ".."
  · rw [pushName, placed, if_pos h, if_pos h]
  · rw [pushName_written common (concat_ne_root base hl) h, addSegment_written, placed, if_neg h,
      up]
    simp only [List.append_assoc, List.cons_append, List.nil_append]

theorem stem_eq {parts : List String} (h : parts.getLast? ≠ some "") : stem parts = parts := by
  have kept : dropEmptyLast parts = parts := by
    rw [dropEmptyLast.eq_def]
    split
    · rfl
    · exact if_neg h
  have notRoot : parts ≠ [""] := by
    rintro rfl
    exact h rfl
  rw [stem, kept, if_neg notRoot]

/-- A slash at the end of a path makes no difference to what is added to it. -/
theorem stem_slash {parts : List String} (h : parts.getLast? ≠ some "") :
    stem (parts ++ [""]) = stem parts := by
  cases parts with
  | nil => rfl
  | cons s rest =>
      have dropped : dropEmptyLast (s :: rest ++ [""]) = s :: rest := by
        rw [dropEmptyLast.eq_2 _ (by simp), List.getLast?_concat, if_pos rfl, List.dropLast_concat]
      have notRoot : s :: rest ≠ [""] := by
        rintro e
        rw [e] at h
        exact h rfl
      rw [stem, dropped, if_neg notRoot, stem_eq h]

/-- **Every name below two words**, whatever it is, leads to where it is placed. -/
theorem below?_name {u : Url} {parts : List String} (hu : u.path = .segments parts)
    {first last : String} (hf : IsWord first ∧ first ≠ "") (hl : IsWord last ∧ last ≠ "")
    (hd : isDrive last = false) (name : String) :
    let path := placed (isCommon u.scheme) (stem parts ++ [first]) last name
    u.below? [first, last, name] = some { u with path := .segments path } := by
  have words := below?_words hu hf (List.forall_mem_singleton.mpr hl)
  rw [below?, hu] at words ⊢
  simp only [List.foldl_cons, List.foldl_nil] at words ⊢
  injection words with words
  injection words with _ _ _ _ _ words
  injection words with words
  rw [words, show stem parts ++ [first, last] = stem parts ++ [first] ++ [last] by simp,
    pushName_eq _ hl.2 hd]

end Url

end LogSteward
