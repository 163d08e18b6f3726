import LogSteward.Proofs.Connection.Building
import LogSteward.Proofs.Connection.Growth
import LogSteward.Proofs.Connection.Similarity

/-!
# Passwords in files and secrets

File trees, secrets and sources of secrets that differ at most in passwords (`MayDiffer`).  A path
leads to the same place in two such trees (`FileTree.MayDiffer.resolve`), the secrets that are
mounted in them have the same names and keys (`Mount.source_parallel`), the material of a connection
can be resolved from both or from neither (`Bootstrap.resolve_parallel`), and the same is logged of
it (`Bootstrap.connectEvents_congr`).
-/

namespace LogSteward

/-! ### Secrets -/

/-- Two values are the same, or both are the text of a password. -/
def Octets.MayDiffer (v v' : Octets) : Prop :=
  v = v' ∨ ∃ p p', p ≠ "" ∧ p' ≠ "" ∧ v = Utf8.encode p ∧ v' = Utf8.encode p'

/-- Two secrets have the same name and the same keys, and differ at most in passwords. -/
structure Secret.MayDiffer (s s' : Secret) : Prop where
  name : s.name = s'.name
  entries : ∀ key, Option.Rel Octets.MayDiffer (s.get? key) (s'.get? key)

namespace Secret.MayDiffer

/-- Entries with the same keys and related values, in whichever order they are given. -/
theorem ofList (name : String) {es es' : List (String × Octets)}
    (h : List.Forall₂ (fun e e' => e.1 = e'.1 ∧ Octets.MayDiffer e.2 e'.2) es es') :
    MayDiffer (.ofList name es) (.ofList name es') where
  name := rfl
  entries key := by
    suffices ∀ held held' : Std.TreeMap String Octets,
        Option.Rel Octets.MayDiffer held[key]? held'[key]? →
        Option.Rel Octets.MayDiffer (es.foldl (fun m e => m.insert e.1 e.2) held)[key]?
          (es'.foldl (fun m e => m.insert e.1 e.2) held')[key]? from
      this {} {} (by simp only [Std.TreeMap.getElem?_emptyc]; exact .none)
    induction h with
    | nil => exact fun held held' same => same
    | @cons e e' _ _ he _ ih =>
      intro held held' same
      refine ih _ _ ?_
      rw [Std.TreeMap.getElem?_insert, Std.TreeMap.getElem?_insert, he.1]
      split
      · exact .some he.2
      · exact same

theorem keys {s s' : Secret} (h : s.MayDiffer s') : s.entries.keys = s'.entries.keys := by
  refine List.Perm.eq_of_pairwise (fun a b _ _ lt lt' => ?_) Std.TreeMap.ordered_keys
    Std.TreeMap.ordered_keys ?_
  · cases lt.symm.trans (Std.OrientedCmp.gt_iff_lt.mpr lt')
  · rw [List.perm_ext_iff_of_nodup Std.TreeMap.nodup_keys Std.TreeMap.nodup_keys]
    intro key
    rw [Std.TreeMap.mem_keys, Std.TreeMap.mem_keys, Std.TreeMap.mem_iff_isSome_getElem?,
      Std.TreeMap.mem_iff_isSome_getElem?]
    have same := h.entries key
    unfold get? at same
    generalize s.entries[key]? = v, s'.entries[key]? = v' at same ⊢
    cases same with
    | none => exact Iff.rfl
    | some _ => exact Iff.rfl

/-- The entries side by side, in the order of their keys. -/
theorem toList {s s' : Secret} (h : s.MayDiffer s') :
    List.Forall₂ (fun e e' => e.1 = e'.1 ∧ Octets.MayDiffer e.2 e'.2) s.toList s'.toList := by
  have keys : List.Forall₂ Eq (s.toList.map Prod.fst) (s'.toList.map Prod.fst) := by
    rw [List.forall₂_eq_eq_eq]
    exact Std.TreeMap.map_fst_toList_eq_keys.trans
      (h.keys.trans Std.TreeMap.map_fst_toList_eq_keys.symm)
  rw [List.forall₂_map_left_iff, List.forall₂_map_right_iff] at keys
  rw [List.forall₂_iff_zip] at keys ⊢
  refine ⟨keys.1, fun {e e'} mem => ?_⟩
  obtain ⟨key, value⟩ := e
  obtain ⟨key', value'⟩ := e'
  obtain ⟨he, he'⟩ := List.of_mem_zip mem
  obtain rfl : key = key' := keys.2 mem
  have same := h.entries key
  rw [get?, get?, Std.TreeMap.mem_toList_iff_getElem?_eq_some.mp he,
    Std.TreeMap.mem_toList_iff_getElem?_eq_some.mp he'] at same
  cases same with
  | some differ => exact ⟨rfl, differ⟩

end Secret.MayDiffer

/-! ### File trees -/

/-- Two trees have the same shape and the same links, and their files differ at most in
passwords. -/
inductive FileTree.MayDiffer : FileTree → FileTree → Prop where
  | file {content content' : Octets} (h : Octets.MayDiffer content content') :
      MayDiffer (.file content) (.file content')
  | link (target : String) : MayDiffer (.link target) (.link target)
  | empty : MayDiffer (.directory []) (.directory [])
  | entry (name : String) {t t' : FileTree} {es es' : List (String × FileTree)}
      (h : MayDiffer t t') (rest : MayDiffer (.directory es) (.directory es')) :
      MayDiffer (.directory ((name, t) :: es)) (.directory ((name, t') :: es'))

namespace FileTree.MayDiffer

theorem find? {es es' : List (String × FileTree)} (h : MayDiffer (.directory es) (.directory es'))
    (name : String) :
    Option.Rel MayDiffer (FileTree.find? name es) (FileTree.find? name es') := by
  induction es generalizing es' with
  | nil =>
    cases h
    exact .none
  | cons e es ih =>
    cases h with
    | entry n ht rest =>
      by_cases same : n = name
      · simp only [FileTree.find?, List.find?_cons, same, beq_self_eq_true]
        exact .some ht
      · simp only [FileTree.find?, List.find?_cons, beq_eq_false_iff_ne.mpr same]
        exact ih rest

/-- Trees that differ at most in passwords are followed in the same way. -/
theorem similarity : Similarity MayDiffer where
  inside {es t'} h := by
    cases h with
    | empty => exact ⟨_, rfl, MayDiffer.empty.find?⟩
    | entry name ht rest => exact ⟨_, rfl, (MayDiffer.entry name ht rest).find?⟩
  outside h := by
    cases h with
    | empty | entry _ _ _ => exact ⟨_, rfl⟩
  link h := by
    cases h with
    | link => rfl
  direct h := by
    cases h with
    | link => rfl

/-- A path leads to the same place in both trees. -/
theorem resolve {t t' : FileTree} (h : MayDiffer t t') (directory path : String) :
    Parallel MayDiffer (t.resolve directory path) (t'.resolve directory path) :=
  similarity.resolve h directory path

/-- A directory has the same entries in both, with trees below them that may differ. -/
theorem list {t t' : FileTree} (h : MayDiffer t t') (directory path : String) :
    Parallel (fun es es' => MayDiffer (.directory es) (.directory es')) (t.list directory path)
      (t'.list directory path) :=
  similarity.list h directory path

theorem names {es es' : List (String × FileTree)} (h : MayDiffer (.directory es) (.directory es')) :
    List.Forall₂ (fun e e' => e.1 = e'.1) es es' := by
  induction es generalizing es' with
  | nil =>
    cases h
    exact .nil
  | cons e es ih =>
    cases h with
    | entry name _ rest => exact .cons rfl (ih rest)

end FileTree.MayDiffer

/-! ### Mounted secrets -/

namespace Mount

variable {t t' : FileTree}

/-- An entry of a secret counts in both trees or in neither. -/
theorem entry_parallel (h : t.MayDiffer t') (directory root name key : String) :
    Parallel (Option.Rel fun e e' => e.1 = e'.1 ∧ Octets.MayDiffer e.2 e'.2)
      (entry t directory root name key) (entry t' directory root name key) := by
  have places := h.resolve directory (FileTree.join root (FileTree.join name key))
  unfold entry
  dsimp only
  split
  · exact .ok .none
  · generalize t.resolve directory _ = x, t'.resolve directory _ = x' at places
    cases places with
    | error e => exact .error _
    | ok differ =>
      cases differ with
      | file content => exact .ok (.some ⟨rfl, content⟩)
      | link _ | empty | entry _ _ _ => exact .ok .none

/-- A secret is mounted in both trees or in neither, under the same keys. -/
theorem source_parallel (h : t.MayDiffer t') (directory root name : String) :
    Parallel (Option.Rel Secret.MayDiffer) (source t directory root name)
      (source t' directory root name) := by
  have listed := h.list directory (FileTree.join root name)
  unfold source
  generalize t.list directory _ = x, t'.list directory _ = x' at listed
  cases listed with
  | error e =>
    cases e with
    | notFound => exact .ok .none
    | _ => exact .error _
  | @ok es es' differ =>
    have entries : Parallel
        (List.Forall₂ (Option.Rel fun e e' => e.1 = e'.1 ∧ Octets.MayDiffer e.2 e'.2))
        (es.mapM fun e => entry t directory root name e.1)
        (es'.mapM fun e => entry t' directory root name e.1) :=
      .mapM (differ.names.imp fun e e' same => same ▸ entry_parallel h directory root name e.1)
    dsimp only
    generalize es.mapM (fun e => entry t directory root name e.1) = found,
      es'.mapM (fun e => entry t' directory root name e.1) = found' at entries
    cases entries with
    | error e => exact .error e
    | ok found => exact .ok (.some (.ofList name (List.rel_filterMap (fun _ _ same => same) found)))

end Mount

/-! ### Sources of secrets -/

/-- Of the secrets of a connection, two sources differ at most in the administrator's password. -/
structure SecretSource.MayDiffer (source source' : SecretSource) : Prop where
  others : ∀ name ∈ [Secret.internalAuthority, Secret.externalAuthority, Secret.clientIdentity],
    source name = source' name
  administrator : Parallel (Option.Rel Secret.MayDiffer) (source Secret.administrator)
    (source' Secret.administrator)

/-! ### The material of a connection -/

/-- The credentials are taken from both secrets, with the same name of the user, or from
neither. -/
theorem Credentials.ofSecret_parallel {secret secret' : Secret} (h : secret.MayDiffer secret') :
    Parallel (fun c c' => c.username = c'.username) (ofSecret secret) (ofSecret secret') := by
  have entries := h.toList
  unfold ofSecret
  rw [← h.name]
  generalize secret.toList = es, secret'.toList = es' at entries
  cases entries with
  | nil => exact .error _
  | @cons e e' _ _ same rest =>
    cases rest with
    | cons _ _ => exact .error _
    | nil =>
      obtain ⟨username, value⟩ := e
      obtain ⟨username', value'⟩ := e'
      obtain ⟨rfl, rfl | ⟨p, p', hp, hp', rfl, rfl⟩⟩ := same
      · exact .refl (R := fun (c c' : Credentials) => c.username = c'.username) (fun _ => rfl) _
      · simp only [Utf8.decode?_encode, hp, hp', or_false]
        split
        · exact .error _
        · exact .ok rfl

namespace Bootstrap

variable {source source' : SecretSource}

/-- A look-up finds related secrets, or fails in the same way. -/
theorem lookUp_parallel {name : String}
    (h : Parallel (Option.Rel Secret.MayDiffer) (source name) (source' name))
    (absent : ConnectionError) :
    Parallel Secret.MayDiffer (lookUp source name absent) (lookUp source' name absent) := by
  unfold lookUp
  generalize source name = x, source' name = x' at h
  cases h with
  | error e => exact .error _
  | ok both =>
    cases both with
    | none => exact .error _
    | some differ => exact .ok differ

/-- The credentials of both sources have the same name of the user, or the same error. -/
theorem credentials_parallel (h : source.MayDiffer source') :
    Parallel (fun c c' => c.username = c'.username) (credentials source) (credentials source') :=
  (lookUp_parallel h.administrator _).bind fun _ _ => Credentials.ofSecret_parallel

/-- The authorities are not affected by the administrator's password. -/
theorem authorities_same (h : source.MayDiffer source') (s : ConnectionSettings) :
    authorities source s = authorities source' s := by
  refine authorities_congr fun _ => h.others _ ?_
  unfold ConnectionSettings.authoritySecret
  split <;> decide

theorem presented_same (h : source.MayDiffer source') : presented source = presented source' :=
  presented_congr (h.others _ (by decide))

variable (library : TlsLibrary)

/-- Material can be resolved from both sources or from neither, and differs at most in the
password. -/
theorem resolve_parallel (h : source.MayDiffer source') (s : ConnectionSettings) :
    Parallel (fun m m' => m.credentials.username = m'.credentials.username ∧ m.tls = m'.tls)
      (resolve library source s) (resolve library source' s) := by
  unfold resolve roots identity
  simp only [authorities_same h s, presented_same h]
  refine (credentials_parallel h).bind fun c c' same => ?_
  refine (Parallel.refl (R := (· = ·)) (fun _ => rfl) _).bind fun rs rs' sameRoots => ?_
  subst sameRoots
  refine (Parallel.refl (R := (· = ·)) (fun _ => rfl) _).bind fun i i' sameIdentity => ?_
  exact .ok ⟨same, by rw [sameIdentity]⟩

/-- What is logged does not tell the sources apart. -/
theorem connectEvents_congr (h : source.MayDiffer source') (p : RetryPolicy)
    (s : ConnectionSettings) :
    connectEvents library source p s = connectEvents library source' p s := by
  cases resolved : resolve library source s with
  | ok m =>
    have material := resolve_parallel library h s
    rw [resolved] at material
    obtain ⟨m', resolved', username⟩ : ∃ m', resolve library source' s = .ok m' ∧
        m.credentials.username = m'.credentials.username := by
      generalize resolve library source' s = x at material
      cases material with
      | ok same => exact ⟨_, rfl, same.1⟩
    rw [connectEvents_of_resolve resolved, connectEvents_of_resolve resolved']
    simp only [readyEvent, username]
  | error e =>
    have material := resolve_parallel library h s
    have logged : resolveEvents library source s = resolveEvents library source' s := by
      have credentials := credentials_parallel h
      unfold resolveEvents
      rw [authorities_same h s, presented_same h]
      generalize Bootstrap.credentials source = x, Bootstrap.credentials source' = x' at credentials
      cases credentials with
      | error e => rfl
      | ok same => cases authorities source' s <;> rfl
    rw [resolved] at material
    have resolved' : resolve library source' s = .error e := by
      generalize resolve library source' s = x at material
      cases material
      rfl
    simp only [connectEvents, logged, resolved, resolved']

end Bootstrap

end LogSteward
