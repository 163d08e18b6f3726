import LogSteward.Proofs.Connection.Growth
import LogSteward.Proofs.Connection.Similarity

/-!
# Mounted secrets are what is mounted

A secret that is mounted holds the files of its directory, each under its name, as far as the names
are visible; links to files count as files.  What makes it impossible to read is an entry that
cannot be opened: since directories and files are found as they stand (`FileTree.resolve_entry`),
this is a link that leads nowhere, or an entry whose path is longer than the system takes
(`exists_entry_eq_error_iff`).

In which order a directory lists its entries does not matter (`Mount.alike_of_reordered`), and the
secrets may as well be held in memory (`Bootstrap.resolve_of_readable`).
-/

namespace LogSteward

namespace Mount

open FileTree

variable {t t' : FileTree} {directory root name key : String} {es : List (String × FileTree)}

/-- The name of an entry that counts. -/
def IsVisible (key : String) : Prop :=
  ¬ key.startsWith "." = true

/-! ### One entry -/

/-- An entry whose name begins with a dot is passed over. -/
theorem entry_hidden (hidden : ¬ IsVisible key) : entry t directory root name key = .ok none :=
  if_pos (not_not.mp hidden)

/-- Any other entry contributes the file to which its path leads, if it leads to one. -/
theorem entry_visible (plain : '/' ∉ key.toList) (visible : IsVisible key) :
    entry t directory root name key
      = match t.resolve directory (join (join root name) key) with
        | .error e => .error ⟨shown (join name key), e⟩
        | .ok (.file content) => .ok (some (key, content))
        | .ok _ => .ok none := by
  rw [join_assoc root name plain]
  exact if_neg visible

/-- What an entry contributes is a file, under the name of the entry. -/
theorem entry_eq_some_iff (plain : '/' ∉ key.toList) {e : String × Octets} :
    entry t directory root name key = .ok (some e) ↔ e.1 = key ∧ IsVisible key ∧
      t.resolve directory (join (join root name) key) = .ok (.file e.2) := by
  by_cases visible : IsVisible key
  · rw [entry_visible plain visible]
    cases t.resolve directory (join (join root name) key) with
    | error e => simp
    | ok found =>
      cases found with
      | file content => simp [Prod.ext_iff, visible, eq_comm]
      | directory es | link target => simp
  · simp [entry_hidden visible, visible]

/-- An entry that cannot be read: it is visible, and it is a link that leads nowhere, or its path is
longer than the system takes. -/
def IsUnreadable (t : FileTree) (directory place key : String) (found : FileTree) : Prop :=
  IsVisible key ∧
    ((∃ target e, found = .link target ∧ t.resolve directory (join place key) = .error e) ∨
      pathLimit < (join place key).utf8ByteSize)

/-- An entry cannot be read if its path is too long, or if it is a link that cannot be followed. -/
theorem exists_entry_eq_error_iff (wf : t.WellFormed)
    (listed : t.list directory (join root name) = .ok es) {found : FileTree}
    (mem : (key, found) ∈ es) : (∃ f, entry t directory root name key = .error f) ↔
      IsUnreadable t directory (join root name) key found := by
  unfold IsUnreadable
  have place := isPath_of_resolve_ok (list_eq_ok_iff.mp listed)
  have named : IsEntryName key := (entries_of_list wf listed).1 _ mem
  by_cases visible : IsVisible key
  case neg => simp [entry_hidden visible, visible]
  rw [entry_visible named.plain visible]
  by_cases long : pathLimit < (join (join root name) key).utf8ByteSize
  · simp [place.resolve_join_long named long, visible, long]
  have whole := place.below named (Nat.not_lt.mp long)
  cases found with
  | file content | directory es' =>
    simp [resolve_entry wf listed mem nofun whole, long]
  | link target =>
    cases t.resolve directory (join (join root name) key) with
    | error e => simp [visible]
    | ok found =>
      cases found <;> simp [long]

/-! ### A secret -/

/-- A directory that can be listed is taken for a secret, entry by entry. -/
theorem source_of_list (listed : t.list directory (join root name) = .ok es) :
    source t directory root name
      = (es.mapM fun e => entry t directory root name e.1).map fun found =>
          some (Secret.ofList name (found.filterMap id)) := by
  rw [source, listed]
  dsimp only
  generalize es.mapM (fun e => entry t directory root name e.1) = contributed
  cases contributed with
  | error e => rfl
  | ok found => rfl

/-- A secret does not exist exactly if its directory is not found. -/
theorem source_eq_none_iff : source t directory root name = .ok none ↔
    t.list directory (join root name) = .error .notFound := by
  cases listed : t.list directory (join root name) with
  | error e => cases e <;> simp [source, listed]
  | ok es => simp [source_of_list listed, map_eq_ok_iff]

/-- A secret does not exist if no entry where it would be mounted has its name. -/
theorem source_of_absent (wf : t.WellFormed) (listed : t.list directory root = .ok es)
    (named : IsEntryName name) (absent : find? name es = none) (whole : IsPath (join root name)) :
    source t directory root name = .ok none :=
  source_eq_none_iff.mpr (list_eq_notFound_iff.mpr (resolve_absent wf listed named absent whole))

/-- A secret with one file has one entry. -/
theorem source_of_file {content : Octets} (wf : t.WellFormed)
    (listed : t.list directory (join root name) = .ok [(key, .file content)])
    (visible : IsVisible key) (whole : IsPath (join (join root name) key)) :
    source t directory root name = .ok (some (Secret.ofList name [(key, content)])) := by
  have mem := List.mem_singleton_self (key, FileTree.file content)
  have file : entry t directory root name key = .ok (some (key, content)) :=
    (entry_eq_some_iff ((entries_of_list wf listed).1 _ mem).plain).mpr
      ⟨rfl, visible, resolve_entry wf listed mem nofun whole⟩
  rw [source_of_list listed]
  simp only [List.mapM_cons, List.mapM_nil, file]
  rfl

/-- **A secret cannot be read** if its directory cannot be listed though it is there, or if one of
its entries cannot be read. -/
theorem exists_source_eq_error_iff (wf : t.WellFormed) :
    (∃ f, source t directory root name = .error f) ↔
      (∃ e, t.list directory (join root name) = .error e ∧ e ≠ .notFound) ∨
        ∃ es, t.list directory (join root name) = .ok es ∧
          ∃ key found, (key, found) ∈ es ∧ IsUnreadable t directory (join root name) key found := by
  cases listed : t.list directory (join root name) with
  | error e => cases e <;> simp [source, listed]
  | ok es =>
    simp only [source_of_list listed, map_eq_error_iff, exists_mapM_eq_error_iff]
    constructor
    · rintro ⟨⟨key, found⟩, mem, fails⟩
      exact .inr ⟨es, rfl, key, found, mem, (exists_entry_eq_error_iff wf listed mem).mp fails⟩
    · rintro (⟨e, h, -⟩ | ⟨es', h, key, found, mem, unreadable⟩)
      · cases h
      · cases h
        exact ⟨_, mem, (exists_entry_eq_error_iff wf listed mem).mpr unreadable⟩

/-- The keys that are contributed are names of entries, in the same order. -/
theorem keys_of_contributed {contributed : List (Option (String × Octets))}
    (names : ∀ e ∈ es, IsEntryName e.1)
    (each : List.Forall₂ (fun e c => entry t directory root name e.1 = .ok c) es contributed) :
    ((contributed.filterMap id).map Prod.fst).Sublist (es.map Prod.fst) := by
  induction each with
  | nil => exact .slnil
  | @cons e c _ _ first _ ih =>
    obtain ⟨named, names⟩ := List.forall_mem_cons.mp names
    cases c with
    | none => exact (ih names).cons _
    | some x =>
      have same := ((entry_eq_some_iff named.plain).mp first).1
      simpa [same] using ih names

/-- **A secret holds the visible files of its directory**, each under its name. -/
theorem mem_toList_of_source (wf : t.WellFormed) {s : Secret}
    (held : source t directory root name = .ok (some s)) :
    ∃ es, t.list directory (join root name) = .ok es ∧ ∀ key content, (key, content) ∈ s.toList ↔
      (∃ found, (key, found) ∈ es) ∧ IsVisible key ∧
        t.resolve directory (join (join root name) key) = .ok (.file content) := by
  cases listed : t.list directory (join root name) with
  | error e => cases e <;> simp [source, listed] at held
  | ok es =>
    refine ⟨es, rfl, fun key content => ?_⟩
    obtain ⟨names, distinct⟩ := entries_of_list wf listed
    rw [source_of_list listed, map_eq_ok_iff] at held
    obtain ⟨contributed, each, h⟩ := held
    cases h
    have kept := keys_of_contributed names (mapM_eq_ok_iff.mp each)
    have read : (key, content) ∈ contributed.filterMap id ↔
        ∃ e ∈ es, entry t directory root name e.1 = .ok (some (key, content)) := by
      rw [← mem_iff_of_mapM_eq_ok each, List.mem_filterMap]
      exact ⟨fun ⟨_, mem, same⟩ => same ▸ mem, fun mem => ⟨_, mem, rfl⟩⟩
    rw [Secret.mem_toList_ofList name (kept.nodup distinct), read]
    constructor
    · rintro ⟨⟨_, found⟩, mem, contributes⟩
      obtain ⟨rfl, visible, file⟩ := (entry_eq_some_iff (names _ mem).plain).mp contributes
      exact ⟨⟨found, mem⟩, visible, file⟩
    · rintro ⟨⟨found, mem⟩, visible, file⟩
      exact ⟨_, mem, (entry_eq_some_iff (names _ mem).plain).mpr ⟨rfl, visible, file⟩⟩

/-! ### The order of a listing -/

/-- Both times there is no secret, both times it cannot be read, or both times it is the same. -/
inductive Alike : Except ReadFailure (Option Secret) → Except ReadFailure (Option Secret) → Prop
  | absent : Alike (.ok none) (.ok none)
  | unreadable (f f' : ReadFailure) : Alike (.error f) (.error f')
  | same {s s' : Secret} (name : s.name = s'.name) (entries : s.toList = s'.toList) :
      Alike (.ok (some s)) (.ok (some s'))

/-- Secrets with the same entries have them in the same order. -/
theorem toList_congr {s s' : Secret} (h : ∀ e, e ∈ s.toList ↔ e ∈ s'.toList) :
    s.toList = s'.toList := by
  have distinct (s : Secret) : s.toList.Nodup :=
    Std.TreeMap.distinct_keys_toList.imp fun differ same =>
      differ (Std.LawfulEqCmp.compare_eq_iff_eq.mpr (congrArg Prod.fst same))
  have same : s.toList.Perm s'.toList :=
    (List.perm_ext_iff_of_nodup (distinct s) (distinct s')).mpr h
  exact (Std.TreeMap.Equiv.of_toList_perm same).toList_eq

section Reordered

variable (wf : t.WellFormed) (h : t.Reordered t')
include wf h

/-- Listed in another order, a directory has the same entries in another order. -/
theorem list_reordered (directory path : String) :
    Parallel (fun es es' => Reordered (.directory es) (.directory es')) (t.list directory path)
      (t'.list directory path) := by
  have listed := Reordered.similarity.list ⟨wf, h⟩ directory path
  generalize t.list directory path = x, t'.list directory path = x' at listed
  cases listed with
  | error e => exact .error e
  | ok both => exact .ok both.2

/-- A file is found by the same path in whichever order entries are listed. -/
theorem file_reordered {path : String} {content : Octets}
    (found : t.resolve directory path = .ok (.file content)) :
    t'.resolve directory path = .ok (.file content) := by
  have places := Reordered.similarity.resolve ⟨wf, h⟩ directory path
  rw [found] at places
  generalize t'.resolve directory path = x' at places
  cases places with
  | ok both =>
    cases both.2 with
    | file => rfl

theorem IsUnreadable.reordered {found found' : FileTree} (below : found.Reordered found')
    {place : String} (unreadable : IsUnreadable t directory place key found) :
    IsUnreadable t' directory place key found' := by
  refine ⟨unreadable.1, unreadable.2.imp_left ?_⟩
  rintro ⟨target, e, rfl, unresolved⟩
  have places := Reordered.similarity.resolve ⟨wf, h⟩ directory (join place key)
  rw [unresolved] at places
  generalize resolved : t'.resolve directory (join place key) = x' at places
  cases places with
  | error =>
    cases below with
    | link => exact ⟨target, e, rfl, rfl⟩

theorem absent_reordered (absent : source t directory root name = .ok none) :
    source t' directory root name = .ok none := by
  have listed := list_reordered wf h directory (join root name)
  rw [source_eq_none_iff] at absent ⊢
  rw [absent] at listed
  generalize t'.list directory (join root name) = x' at listed
  cases listed with
  | error => rfl

theorem unreadable_reordered (unreadable : ∃ f, source t directory root name = .error f) :
    ∃ f, source t' directory root name = .error f := by
  have listed := list_reordered wf h directory (join root name)
  rw [exists_source_eq_error_iff wf] at unreadable
  rw [exists_source_eq_error_iff (h.wellFormed wf)]
  rcases unreadable with ⟨e, fails, other⟩ | ⟨es, ok, key, found, mem, spoilt⟩
  · rw [fails] at listed
    generalize t'.list directory (join root name) = x' at listed
    cases listed with
    | error => exact .inl ⟨e, rfl, other⟩
  · rw [ok] at listed
    generalize t'.list directory (join root name) = x' at listed
    cases listed with
    | ok both =>
      obtain ⟨⟨_, found'⟩, mem', rfl, below⟩ := both.exists_entry mem
      exact .inr ⟨_, rfl, _, found', mem', spoilt.reordered wf h below⟩

/-- A secret has the same entries in whichever order they are listed. -/
theorem held_reordered {s s' : Secret} (held : source t directory root name = .ok (some s))
    (held' : source t' directory root name = .ok (some s')) {e : String × Octets}
    (mem : e ∈ s.toList) : e ∈ s'.toList := by
  have listed := list_reordered wf h directory (join root name)
  obtain ⟨es, ok, holds⟩ := mem_toList_of_source wf held
  obtain ⟨es', ok', holds'⟩ := mem_toList_of_source (h.wellFormed wf) held'
  obtain ⟨key, content⟩ := e
  obtain ⟨⟨found, entry⟩, visible, file⟩ := (holds key content).mp mem
  rw [ok, ok'] at listed
  cases listed with
  | ok both =>
    obtain ⟨⟨_, found'⟩, entry', rfl, -⟩ := both.exists_entry entry
    exact (holds' _ content).mpr ⟨⟨found', entry'⟩, visible, file_reordered wf h file⟩

/-- **In which order entries are listed does not matter.** -/
theorem alike_of_reordered (directory root name : String) :
    Alike (source t directory root name) (source t' directory root name) := by
  have wf' := h.wellFormed wf
  cases outcome : source t directory root name with
  | error f =>
    obtain ⟨f', outcome'⟩ := unreadable_reordered wf h ⟨f, outcome⟩
    rw [outcome']
    exact .unreadable f f'
  | ok found =>
    cases found with
    | none =>
      rw [absent_reordered wf h outcome]
      exact .absent
    | some s =>
      cases outcome' : source t' directory root name with
      | error f' =>
        obtain ⟨f, fails⟩ := unreadable_reordered wf' h.symm ⟨f', outcome'⟩
        cases outcome.symm.trans fails
      | ok found' =>
        cases found' with
        | none => cases outcome.symm.trans (absent_reordered wf' h.symm outcome')
        | some s' =>
          refine .same ?_ (toList_congr fun e => ⟨held_reordered wf h outcome outcome',
            held_reordered wf' h.symm outcome' outcome⟩)
          exact (labelled t directory root name s outcome).trans
            (labelled t' directory root name s' outcome').symm

end Reordered

end Mount

/-! ### Secrets in memory -/

/-- The secrets that a source has under the given names. -/
def SecretSource.held (source : SecretSource) (names : List String) : List Secret :=
  names.filterMap fun name => (source name).toOption.join

/-- A list of the secrets that a source holds serves them as the source does. -/
theorem SecretSource.ofList_held {source : SecretSource} (labelled : source.Labelled)
    (names : List String) (name : String) : ofList (source.held names) name
      = .ok (if name ∈ names then (source name).toOption.join else none) := by
  induction names using List.reverseRecOn with
  | nil => rfl
  | append_singleton names last ih =>
    cases found : (source last).toOption.join with
    | none =>
      have same : source.held (names ++ [last]) = source.held names := by
        simp [held, found]
      rw [same, ih]
      by_cases here : name = last
      · simp [here, found]
      · simp [here]
    | some secret =>
      have more : source.held (names ++ [last]) = source.held names ++ [secret] := by
        simp [held, found]
      have named : secret.name = last := by
        refine labelled last secret ?_
        cases read : source last with
        | error f =>
          rw [read] at found
          cases found
        | ok held =>
          rw [read] at found
          exact congrArg Except.ok found
      rw [more, ofList_concat, named, ih]
      by_cases here : name = last
      · simp [here, found]
      · simp [here, Ne.symm here]

namespace Bootstrap

variable {library : TlsLibrary} {source memory : SecretSource} {s : ConnectionSettings}

/-- The outcomes are the same, unless the first is that a secret cannot be read. -/
def SameIfReadable {α : Type} (x y : Except ConnectionError α) : Prop :=
  x = y ∨ ∃ name f, x = .error (.unreadable name f)

namespace SameIfReadable

variable {α β : Type} {x y : Except ConnectionError α}

theorem refl (x : Except ConnectionError α) : SameIfReadable x x :=
  .inl rfl

theorem bind {f g : α → Except ConnectionError β} (h : SameIfReadable x y)
    (hf : ∀ a, SameIfReadable (f a) (g a)) : SameIfReadable (x >>= f) (y >>= g) := by
  rcases h with rfl | ⟨name, e, rfl⟩
  · cases x with
    | error e => exact .refl _
    | ok a => exact hf a
  · exact .inr ⟨name, e, rfl⟩

end SameIfReadable

/-- A look-up is served from memory as from the source, unless that cannot be read. -/
theorem sameIfReadable_lookUp {name : String}
    (same : ∀ found, source name = .ok found → memory name = .ok found) (absent : ConnectionError) :
    SameIfReadable (lookUp source name absent) (lookUp memory name absent) := by
  cases read : source name with
  | error f => exact .inr ⟨name, f, by rw [lookUp, read]⟩
  | ok found => exact .inl (lookUp_congr (read.trans (same found read).symm) absent)

/-- Where the same secrets can be read, resolving comes to the same unless it comes to one that
cannot be read. -/
theorem sameIfReadable_resolve
    (same : ∀ part name found, Part.secret? s part = some name → source name = .ok found →
      memory name = .ok found) :
    SameIfReadable (resolve library source s) (resolve library memory s) := by
  have credentials : SameIfReadable (credentials source) (credentials memory) :=
    (sameIfReadable_lookUp (fun found => same .credentials _ found rfl) _).bind fun _ => .refl _
  have authorities : SameIfReadable (authorities source s) (authorities memory s) := by
    unfold Bootstrap.authorities
    split
    · exact .refl _
    · next none =>
      have asked : Part.secret? s .authorities = some s.authoritySecret := by
        simp [Part.secret?, none]
      exact (sameIfReadable_lookUp (fun found => same _ _ found asked) _).bind fun _ => .refl _
  have roots : SameIfReadable (roots library source s) (roots library memory s) :=
    authorities.bind fun _ => .refl _
  have identity (rs : List Octets) :
      SameIfReadable (identity library source s rs) (identity library memory s rs) := by
    unfold Bootstrap.identity
    split
    · next external =>
      have asked : Part.secret? s .identity = some Secret.clientIdentity := if_pos external
      have presented : SameIfReadable (presented source) (presented memory) :=
        (sameIfReadable_lookUp (fun found => same _ _ found asked) _).bind fun _ => .refl _
      exact presented.bind fun _ => .refl _
    · exact .refl _
  exact credentials.bind fun _ => roots.bind fun _ => (identity _).bind fun _ => .refl _

/-- Resolving over a source, as long as no secret is met that cannot be read, comes to the same as
over the secrets that it has. -/
theorem resolve_held {names : List String} (labelled : source.Labelled)
    (asked : ∀ part name, Part.secret? s part = some name → name ∈ names)
    (readable : ∀ name f, resolve library source s ≠ .error (.unreadable name f)) :
    resolve library source s = resolve library (.ofList (source.held names)) s := by
  have same : SameIfReadable (resolve library source s)
      (resolve library (.ofList (source.held names)) s) := by
    refine sameIfReadable_resolve fun part name found ask read => ?_
    rw [SecretSource.ofList_held labelled, if_pos (asked part name ask), read]
    rfl
  exact same.resolve_right fun ⟨name, f, h⟩ => readable name f h

end Bootstrap

namespace Mount

open FileTree

/-- **A directory of mounted secrets is seen as it is.**  For every well-formed tree, there is no
secret exactly if its directory is not found, which means that following the path comes to a name
that is not there; it cannot be read exactly if the directory cannot be listed otherwise, or if one
of its entries is visible and is a link that leads nowhere, or has a path that is longer than the
system takes; and otherwise it has one entry for each visible name that leads to a file, with the
content of this file.  What is listed and is no link leads to itself.  None of this depends on the
order in which directories list their entries, and resolving the material of a connection, as long
as every secret that it asks for can be read, comes to the same as over these secrets in memory. -/
theorem source_faithful {t : FileTree} (wf : t.WellFormed) (directory root name : String) :
    let place := join root name
    let outcome := source t directory root name
    (outcome = .ok none ↔ t.list directory place = .error .notFound) ∧
    (t.list directory place = .error .notFound ↔ place = "" ∨
      IsPath place ∧ ∃ p rest, Steps t (.root t) (parts (join directory place)) p rest ∧
        Halts p rest (.error .notFound)) ∧
    ((∃ f, outcome = .error f) ↔ (∃ e, t.list directory place = .error e ∧ e ≠ .notFound) ∨
      ∃ es, t.list directory place = .ok es ∧ ∃ key found, (key, found) ∈ es ∧ IsVisible key ∧
        ((∃ target e, found = .link target ∧ t.resolve directory (join place key) = .error e) ∨
          pathLimit < (join place key).utf8ByteSize)) ∧
    (∀ s, outcome = .ok (some s) →
      s.name = name ∧ (s.toList.map Prod.fst).Nodup ∧ ∃ es, t.list directory place = .ok es ∧
        ∀ key content, (key, content) ∈ s.toList ↔ (∃ found, (key, found) ∈ es) ∧ IsVisible key ∧
          t.resolve directory (join place key) = .ok (.file content)) ∧
    (∀ es key found, t.list directory place = .ok es → (key, found) ∈ es →
      (∀ target, found ≠ .link target) → (join place key).utf8ByteSize ≤ pathLimit →
      t.resolve directory (join place key) = .ok found) ∧
    (∀ t', t.Reordered t' → Alike outcome (source t' directory root name)) ∧
    (∀ library settings names, (∀ part asked, Bootstrap.Part.secret? settings part = some asked →
        asked ∈ names) →
      (∀ asked f,
        Bootstrap.resolve library (source t directory root) settings
          ≠ .error (.unreadable asked f)) →
      Bootstrap.resolve library (source t directory root) settings
        = Bootstrap.resolve library (.ofList ((source t directory root).held names)) settings) := by
  intro place outcome
  refine ⟨source_eq_none_iff, list_eq_notFound_iff.trans resolve_eq_notFound_iff,
    exists_source_eq_error_iff wf, fun s held => ⟨?_, ?_, ?_⟩, ?_, ?_, ?_⟩
  · exact labelled t directory root name s held
  · exact Std.TreeMap.map_fst_toList_eq_keys ▸ Std.TreeMap.nodup_keys
  · exact mem_toList_of_source wf held
  · intro es key found listed mem direct short
    have whole := isPath_of_resolve_ok (list_eq_ok_iff.mp listed)
    exact resolve_entry wf listed mem direct
      (whole.below ((entries_of_list wf listed).1 _ mem) short)
  · intro t' h
    exact alike_of_reordered wf h directory root name
  · intro library settings names asked readable
    exact Bootstrap.resolve_held (labelled t directory root) asked readable

/-- A secret as it is usually mounted: behind two links, beside the directory to which they lead.
It is the same in whichever order the entries are listed. -/
theorem source_faithful_links :
    let es : List (String × FileTree) :=
      [ ("..2024", .directory [("admin", .file [0x70])]), ("..data", .link "..2024")
      , ("admin", .link "..data/admin") ]
    let t := FileTree.directory [("s", .directory es)]
    let t' := FileTree.directory [("s", .directory es.reverse)]
    t.WellFormed ∧ t.Reordered t' ∧
      source t "" "/" "s" = .ok (some (Secret.ofList "s" [("admin", [0x70])])) ∧
      Alike (source t "" "/" "s") (source t' "" "/" "s") := by
  intro es t t'
  have admin : WellFormed (.directory [("admin", .file [0x70])]) :=
    .directory (by decide) (by decide) (List.forall_mem_singleton.mpr (.file _))
  have mounted : WellFormed (.directory es) := by
    refine .directory (by decide) (by decide) ?_
    exact List.forall_mem_cons.mpr ⟨admin,
      List.forall_mem_cons.mpr ⟨.link _, List.forall_mem_singleton.mpr (.link _)⟩⟩
  have wf : t.WellFormed :=
    .directory (by decide) (by decide) (List.forall_mem_singleton.mpr mounted)
  have reordered : t.Reordered t' := by
    refine .directory (.refl _) ?_
    simp only [List.forall_mem_singleton]
    exact fun _ => .of_perm mounted es.reverse_perm.symm
  have listed : t.list "" (join "/" "s") = .ok es := list_of_root wf (List.mem_singleton_self _)
  have found : t.resolve "" (join (join "/" "s") "admin") = .ok (.file [0x70]) := by
    have path : join (join "/" "s") "admin" = "/s/admin" := by
      have place : join "/" "s" = "/s" :=
        join_of_closed (endsWith_slash_iff.mpr rfl) (by decide)
      rw [place, join_of_open (by decide) (mt endsWith_slash_iff.mp (by decide)) (by decide)]
      rfl
    have whole : IsPath "/s/admin" := ⟨by decide, by decide, by decide⟩
    have split : parts (join "" "/s/admin") = ["", "s", "admin"] := rfl
    have enter : Steps t (.root t) ["", "s", "admin"] ((Place.root t).into (.directory es))
        ["admin"] :=
      .more (.stay _ rfl (.inl rfl)) (.more (.into _ rfl (by decide) rfl nofun) (.refl _ _))
    have current : IsEntryName "..data" := by decide
    have version : IsEntryName "..2024" := by decide
    rw [path, whole.resolve_eq, split, enter.follow_eq]
    exact follow_behind_links rfl rfl (by decide) current version rfl rfl rfl rfl
  have held : source t "" "/" "s" = .ok (some (Secret.ofList "s" [("admin", [0x70])])) := by
    have visible : IsVisible "admin" := mt String.startsWith_string_iff.mp (by decide)
    have version : entry t "" "/" "s" "..2024" = .ok none :=
      entry_hidden (not_not.mpr (String.startsWith_string_iff.mpr (by decide)))
    have current : entry t "" "/" "s" "..data" = .ok none :=
      entry_hidden (not_not.mpr (String.startsWith_string_iff.mpr (by decide)))
    have file : entry t "" "/" "s" "admin" = .ok (some ("admin", [0x70])) :=
      (entry_eq_some_iff (by decide)).mpr ⟨rfl, visible, found⟩
    rw [source_of_list listed]
    simp only [es, List.mapM_cons, version, current, file]
    rfl
  exact ⟨wf, reordered, held, (source_faithful wf "" "/" "s").2.2.2.2.2.1 t' reordered⟩

/-! ### Paths that are too long -/

/-- A text of so many characters. -/
def repeated (c : Char) (n : Nat) : String :=
  .ofList (.replicate n c)

theorem repeated_add_one (c : Char) (n : Nat) :
    repeated c (n + 1) = repeated c n ++ .singleton c := by
  rw [repeated, List.replicate_succ', String.ofList_append]
  rfl

theorem utf8ByteSize_repeated (c : Char) (n : Nat) :
    (repeated c n).utf8ByteSize = n * c.utf8Size := by
  induction n with
  | zero => rw [Nat.zero_mul]; rfl
  | succ n ih =>
    rw [repeated_add_one, String.utf8ByteSize_append, ih, String.utf8ByteSize_singleton,
      Nat.succ_mul]

theorem eq_of_mem_repeated {c d : Char} {n : Nat} (mem : d ∈ (repeated c n).toList) : d = c := by
  rw [repeated, String.toList_ofList] at mem
  exact List.eq_of_mem_replicate mem

/-- A text of letters is a name, if it is neither empty nor too long. -/
theorem isEntryName_repeated {n : Nat} (positive : 0 < n) (short : n ≤ nameLimit) :
    IsEntryName (repeated 'k' n) := by
  have size : (repeated 'k' n).utf8ByteSize = n := by
    rw [utf8ByteSize_repeated]
    exact Nat.mul_one n
  have letters {c : Char} (other : c ≠ 'k') : c ∉ (repeated 'k' n).toList :=
    fun mem => other (eq_of_mem_repeated mem)
  have noDot {name : String} (dot : '.' ∈ name.toList) : repeated 'k' n ≠ name := by
    rintro rfl
    exact letters (by decide) dot
  have nonempty : repeated 'k' n ≠ "" := by
    intro blank
    rw [blank] at size
    exact Nat.ne_of_lt positive size
  exact
    { nonempty
      notHere := noDot (by decide)
      notAbove := noDot (by decide)
      short := size.le.trans short
      plain := letters (by decide)
      noZero := letters (by decide) }

/-- Slashes at the end of the path of a directory lead to the same directory. -/
theorem list_slashes {t : FileTree} {directory path : String} {es : List (String × FileTree)}
    (listed : t.list directory path = .ok es) (n : Nat)
    (short : path.utf8ByteSize + n ≤ pathLimit) :
    t.list directory (path ++ repeated '/' n) = .ok es := by
  induction n with
  | zero =>
    rw [repeated, List.replicate_zero, String.ofList_nil, String.append_empty]
    exact listed
  | succ n ih =>
    rw [repeated_add_one, ← String.append_assoc]
    refine list_slash (ih (Nat.le_of_succ_le short)) ?_
    rw [String.utf8ByteSize_append, String.utf8ByteSize_append, utf8ByteSize_repeated]
    have one : '/'.utf8Size = 1 := rfl
    rw [one, Nat.mul_one, Nat.add_assoc]
    exact short

/-- A visible file whose path is too long: the secret cannot be read, though its directory is listed
and no entry is a link. -/
theorem unreadable_of_long {t : FileTree} {directory root name key : String} {content : Octets}
    (wf : t.WellFormed) (listed : t.list directory (join root name) = .ok [(key, .file content)])
    (visible : IsVisible key) (long : pathLimit < (join (join root name) key).utf8ByteSize) :
    ¬ ((∃ f, source t directory root name = .error f) ↔
      (∃ e, t.list directory (join root name) = .error e ∧ e ≠ .notFound) ∨
        ∃ es, t.list directory (join root name) = .ok es ∧
          ∃ key found, (key, found) ∈ es ∧ IsVisible key ∧ ∃ target e, found = .link target ∧
            t.resolve directory (join (join root name) key) = .error e) := by
  intro claimed
  have unreadable := (exists_source_eq_error_iff wf).mpr
    (.inr ⟨_, listed, key, _, List.mem_singleton_self _, visible, .inr long⟩)
  rcases claimed.mp unreadable with
    ⟨e, fails, -⟩ | ⟨es, ok, _, found, mem, -, target, e, rfl, -⟩
  · cases listed.symm.trans fails
  · cases listed.symm.trans ok
    cases List.mem_singleton.mp mem

/-- A directory with one file, and no link, whose path can be taken but not that of the file. -/
theorem source_unreadable_long :
    let key := repeated 'k' 200
    let t := FileTree.directory [("s", .directory [(key, .file [0x76])])]
    let name := "s" ++ repeated '/' 3950
    let place := join "/" name
    t.WellFormed ∧ t.list "" place = .ok [(key, .file [0x76])] ∧ IsVisible key ∧
      ¬ ((∃ f, source t "" "/" name = .error f) ↔
        (∃ e, t.list "" place = .error e ∧ e ≠ .notFound) ∨
        ∃ es, t.list "" place = .ok es ∧ ∃ key found, (key, found) ∈ es ∧ IsVisible key ∧
          ∃ target e, found = .link target ∧ t.resolve "" (join place key) = .error e) := by
  intro key t name place
  have entry : IsEntryName key := isEntryName_repeated (by decide) (by decide)
  have wf : t.WellFormed :=
    .directory (by decide) (by simp) (List.forall_mem_singleton.mpr (.directory
      (List.forall_mem_singleton.mpr entry) (by simp) (List.forall_mem_singleton.mpr (.file _))))
  have visible : IsVisible key := by
    rw [IsVisible, String.startsWith_string_iff]
    exact fun dot => absurd (eq_of_mem_repeated (dot.subset List.mem_cons_self)) (by decide)
  have place_eq : place = "/s" ++ repeated '/' 3950 := by
    simp only [place, name]
    rw [join_append "/" (by decide), join_of_closed (endsWith_slash_iff.mpr rfl) (by decide)]
    rfl
  have listed : t.list "" place = .ok [(key, .file [0x76])] := by
    rw [show place = join "/" "s" ++ repeated '/' 3950 from join_append "/" (by decide) _]
    refine list_slashes (list_of_root wf (List.mem_singleton_self _)) 3950 ?_
    rw [join_of_closed (endsWith_slash_iff.mpr rfl) (by decide)]
    decide
  have long : pathLimit < (join place key).utf8ByteSize := by
    have relative : ¬ (place = "" ∨ key.startsWith "/" = true) := by
      rw [place_eq]
      exact not_or.mpr ⟨by simp, not_startsWith_of_notMem entry.plain⟩
    rw [join_of_relative relative, String.utf8ByteSize_append, String.utf8ByteSize_append,
      utf8ByteSize_repeated, place_eq, String.utf8ByteSize_append, utf8ByteSize_repeated]
    have two : "/s".utf8ByteSize = 2 := rfl
    have one : '/'.utf8Size = 1 ∧ 'k'.utf8Size = 1 := ⟨rfl, rfl⟩
    rw [two, one.1, one.2, pathLimit]
    omega
  exact ⟨wf, listed, visible, unreadable_of_long wf listed visible long⟩

end Mount

end LogSteward
