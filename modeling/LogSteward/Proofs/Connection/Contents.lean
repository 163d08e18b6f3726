import Mathlib.Data.List.Forall2
import LogSteward.Connection.Bootstrap
import LogSteward.Connection.Mount
import LogSteward.Proofs.Text.Utf8

/-!
# What secrets hold

Credentials, authorities and identities are read from secrets exactly as they are held there
(`Credentials.HeldBy`, `TlsMaterial.Bundled`, `Identity.HeldBy`), and what is wrong with a secret is
said of it by name.  Sources of secrets name each as it is asked for (`SecretSource.Labelled`).
-/

namespace LogSteward

/-! ### Steps that may fail -/

section Steps

variable {ε α β : Type} {x : Except ε α} {f : α → Except ε β}

/-- Two steps succeed exactly if the first does and then the second. -/
theorem bind_eq_ok_iff {b : β} : (x >>= f) = .ok b ↔ ∃ a, x = .ok a ∧ f a = .ok b := by
  cases x with
  | error e => exact iff_of_false nofun nofun
  | ok a => simp [bind, Except.bind]

/-- Two steps fail exactly if the first does, or the second after it. -/
theorem bind_eq_error_iff {e : ε} :
    (x >>= f) = .error e ↔ x = .error e ∨ ∃ a, x = .ok a ∧ f a = .error e := by
  cases x with
  | error e' => simp [bind, Except.bind]
  | ok a => simp [bind, Except.bind]

theorem map_eq_ok_iff {g : α → β} {b : β} : x.map g = .ok b ↔ ∃ a, x = .ok a ∧ g a = b := by
  cases x <;> simp [Except.map]

theorem map_eq_error_iff {g : α → β} {e : ε} : x.map g = .error e ↔ x = .error e := by
  cases x <;> simp [Except.map]

/-- Steps over a list succeed exactly if each of them does. -/
theorem mapM_eq_ok_iff {as : List α} {bs : List β} :
    as.mapM f = .ok bs ↔ List.Forall₂ (fun a b => f a = .ok b) as bs := by
  induction as generalizing bs with
  | nil =>
    cases bs with
    | nil => exact iff_of_true rfl .nil
    | cons b bs => exact iff_of_false nofun nofun
  | cons a as ih =>
    simp only [List.mapM_cons, bind_eq_ok_iff, ih]
    constructor
    · rintro ⟨b, hb, bs', hbs, h⟩
      cases h
      exact .cons hb hbs
    · rintro (_ | ⟨hb, hbs⟩)
      exact ⟨_, hb, _, hbs, rfl⟩

/-- What such steps yield comes from one of them. -/
theorem mem_iff_of_mapM_eq_ok {as : List α} {bs : List β} (h : as.mapM f = .ok bs) {b : β} :
    b ∈ bs ↔ ∃ a ∈ as, f a = .ok b := by
  induction mapM_eq_ok_iff.mp h with
  | nil => exact iff_of_false List.not_mem_nil nofun
  | cons first rest ih => simp [ih (mapM_eq_ok_iff.mpr rest), first, eq_comm]

/-- A list cannot be gone through if one of its elements fails. -/
theorem exists_mapM_eq_error_iff {as : List α} :
    (∃ e, as.mapM f = .error e) ↔ ∃ a ∈ as, ∃ e, f a = .error e := by
  induction as with
  | nil => exact iff_of_false nofun nofun
  | cons a as ih =>
    simp only [List.mapM_cons, bind_eq_error_iff, List.mem_cons, exists_eq_or_imp, exists_or, ← ih]
    cases f a with
    | error e => simp
    | ok b => simp [pure, Except.pure]

end Steps

/-- Both fail in the same way, or both succeed with related results. -/
inductive Parallel {ε α β : Type} (R : α → β → Prop) : Except ε α → Except ε β → Prop where
  | error (e : ε) : Parallel R (.error e) (.error e)
  | ok {a : α} {b : β} (h : R a b) : Parallel R (.ok a) (.ok b)

namespace Parallel

variable {ε ε' α β α' β' : Type} {R : α → β → Prop} {S : α' → β' → Prop} {x : Except ε α}
  {y : Except ε β}

theorem refl {R : α → α → Prop} (h : ∀ a, R a a) (x : Except ε α) : Parallel R x x := by
  cases x with
  | error e => exact .error e
  | ok a => exact .ok (h a)

theorem bind {f : α → Except ε α'} {g : β → Except ε β'} (h : Parallel R x y)
    (hf : ∀ a b, R a b → Parallel S (f a) (g b)) : Parallel S (x >>= f) (y >>= g) := by
  cases h with
  | error e => exact .error e
  | ok h => exact hf _ _ h

theorem map {f : α → α'} {g : β → β'} (h : Parallel R x y) (hf : ∀ a b, R a b → S (f a) (g b)) :
    Parallel S (x.map f) (y.map g) := by
  cases h with
  | error e => exact .error e
  | ok h => exact .ok (hf _ _ h)

theorem mapError (h : Parallel R x y) (f : ε → ε') : Parallel R (x.mapError f) (y.mapError f) := by
  cases h with
  | error e => exact .error (f e)
  | ok h => exact .ok h

/-- Lists that are gone through side by side. -/
theorem mapM {f : α → Except ε α'} {g : β → Except ε β'} {as : List α} {bs : List β}
    (h : List.Forall₂ (fun a b => Parallel S (f a) (g b)) as bs) :
    Parallel (List.Forall₂ S) (as.mapM f) (bs.mapM g) := by
  induction h with
  | nil => exact .ok .nil
  | cons h _ ih =>
    rw [List.mapM_cons, List.mapM_cons]
    exact h.bind fun _ _ first => ih.bind fun _ _ rest => .ok (.cons first rest)

end Parallel

/-! ### What secrets hold -/

/-- Entries of different keys are all held. -/
theorem Secret.mem_toList_ofList (name : String) {es : List (String × Octets)}
    (distinct : (es.map Prod.fst).Nodup) {e : String × Octets} :
    e ∈ (ofList name es).toList ↔ e ∈ es := by
  obtain ⟨key, value⟩ := e
  suffices ∀ held : Std.TreeMap String Octets, (∀ e ∈ es, held[e.1]? = none) →
      ((es.foldl (fun m e => m.insert e.1 e.2) held)[key]? = some value ↔
        (key, value) ∈ es ∨ held[key]? = some value) by
    refine Std.TreeMap.mem_toList_iff_getElem?_eq_some.trans ((this {} ?_).trans ?_)
    · simp
    · simp
  induction es with
  | nil => simp
  | cons e es ih =>
    obtain ⟨new, distinct⟩ := List.nodup_cons.mp distinct
    intro held fresh
    obtain ⟨first, others⟩ := List.forall_mem_cons.mp fresh
    have inserted (k : String) :
        (held.insert e.1 e.2)[k]? = if e.1 = k then some e.2 else held[k]? := by
      simp only [Std.TreeMap.getElem?_insert, Std.LawfulEqCmp.compare_eq_iff_eq]
    have later : ∀ x ∈ es, (held.insert e.1 e.2)[x.1]? = none := by
      intro x mem
      have other : e.1 ≠ x.1 := fun same => new (same ▸ List.mem_map_of_mem mem)
      rw [inserted, if_neg other]
      exact others x mem
    rw [List.foldl_cons, ih distinct _ later, inserted, List.mem_cons, or_assoc, or_left_comm]
    refine or_congr Iff.rfl ?_
    split
    · next same =>
      subst same
      simp [first, Prod.ext_iff, eq_comm]
    · next other =>
      simp [Prod.ext_iff, Ne.symm other]

/-- The secrets carry the names under which they are found. -/
def SecretSource.Labelled (source : SecretSource) : Prop :=
  ∀ name secret, source name = .ok (some secret) → secret.name = name

/-- A secret that is added last is found, and the others as before. -/
theorem SecretSource.ofList_concat (secrets : List Secret) (secret : Secret) (name : String) :
    ofList (secrets ++ [secret]) name
      = if secret.name = name then .ok (some secret) else ofList secrets name := by
  simp only [ofList, List.foldl_append, List.foldl_cons, List.foldl_nil,
    Std.TreeMap.getElem?_insert, Std.LawfulEqCmp.compare_eq_iff_eq]
  split <;> rfl

/-- Secrets that are given in a list are found by their own names. -/
theorem SecretSource.labelled_ofList (secrets : List Secret) : (ofList secrets).Labelled := by
  suffices ∀ held : Std.TreeMap String Secret,
      (∀ name (secret : Secret), held[name]? = some secret → secret.name = name) →
      ∀ name (secret : Secret),
        (secrets.foldl (fun m s => m.insert s.name s) held)[name]? = some secret →
          secret.name = name by
    intro name secret found
    refine this {} ?_ name secret (Except.ok.inj found)
    simp
  induction secrets with
  | nil => exact fun held labelled => labelled
  | cons s secrets ih =>
    intro held labelled
    refine ih _ fun name secret found => ?_
    rw [Std.TreeMap.getElem?_insert] at found
    split at found
    · next same =>
      cases found
      exact Std.LawfulEqOrd.eq_of_compare same
    · exact labelled name secret found

/-- Mounted secrets have the names under which they are mounted. -/
theorem Mount.labelled (t : FileTree) (directory root : String) :
    (Mount.source t directory root).Labelled := by
  intro name secret found
  unfold Mount.source at found
  split at found
  · cases found
  · cases found
  · split at found
    · cases found
    · cases found
      rfl

/-- The credentials are what the secret holds: its only entry, neither part of it empty. -/
structure Credentials.HeldBy (c : Credentials) (s : Secret) : Prop where
  only : s.toList = [(c.username, Utf8.encode c.password)]
  username_ne : c.username ≠ ""
  password_ne : c.password ≠ ""

namespace Credentials

variable {s : Secret}

theorem ofSecret_eq_ok_iff {c : Credentials} : ofSecret s = .ok c ↔ c.HeldBy s := by
  constructor
  · intro h
    unfold ofSecret at h
    split at h
    · next username octets hs =>
      split at h
      · cases h
      · next password hp =>
        split at h
        · cases h
        · next nonempty =>
          cases h
          obtain ⟨hu, hp'⟩ := not_or.mp nonempty
          exact ⟨by rw [hs, Utf8.decode?_eq_some_iff.mp hp], hu, hp'⟩
    · cases h
  · rintro ⟨only, hu, hp⟩
    rw [ofSecret, only]
    simp only [Utf8.decode?_encode]
    exact if_neg (not_or.mpr ⟨hu, hp⟩)

/-- Whatever is wrong with credentials, it is said of the secret. -/
theorem ofSecret_eq_error {e : ConnectionError} (h : ofSecret s = .error e) :
    ∃ reason, e = .config s.name reason := by
  unfold ofSecret at h
  split at h
  · split at h
    · cases h
      exact ⟨_, rfl⟩
    · split at h
      · cases h
        exact ⟨_, rfl⟩
      · cases h
  · cases h
    exact ⟨_, rfl⟩

end Credentials

namespace TlsMaterial

/-- The authorities are those in the PEM text: its certificates, of which there is at least one. -/
structure Bundled (pem : Octets) (roots : List Octets) : Prop where
  certificates : ∃ items, Pem.items pem = some items ∧
    roots = (items.filter (·.kind = .certificate)).map (·.content)
  nonempty : roots ≠ []

/-- Authorities are taken from a text if it bundles them. -/
theorem rootsOfPem_eq_ok_iff {origin : String} {pem : Octets} {roots : List Octets} :
    rootsOfPem origin pem = .ok roots ↔ Bundled pem roots := by
  unfold rootsOfPem
  split
  · next h =>
    refine iff_of_false nofun ?_
    rintro ⟨⟨items, hi, -⟩, -⟩
    rw [h] at hi
    cases hi
  · next items h =>
    split
    · next hc =>
      refine iff_of_false nofun ?_
      rintro ⟨⟨items', hi, hr⟩, nonempty⟩
      cases h.symm.trans hi
      exact nonempty (hr.trans (congrArg (List.map _) hc))
    · next c cs hc =>
      constructor
      · intro read
        cases read
        exact ⟨⟨items, h, by rw [hc]⟩, nofun⟩
      · rintro ⟨⟨items', hi, hr⟩, -⟩
        cases h.symm.trans hi
        rw [hr, hc]

/-- Whatever is wrong with the text of the authorities, it is said of where the text is from. -/
theorem rootsOfPem_eq_error {origin : String} {pem : Octets} {e : ConnectionError}
    (h : rootsOfPem origin pem = .error e) : e = .config origin .invalidCertificate := by
  unfold rootsOfPem at h
  split at h
  · cases h
    rfl
  · split at h
    · cases h
      rfl
    · cases h

end TlsMaterial

namespace Identity

/-- The identity is what the secret holds: the certificate and the key in it as one PEM text. -/
def HeldBy (i : Identity) (s : Secret) : Prop :=
  ∃ certificate key, s.get? Secret.clientCertificateKey = some certificate ∧
    s.get? Secret.clientPrivateKey = some key ∧ ofPem? (joined certificate key) = some i

variable {s : Secret}

theorem ofSecret_eq_ok_iff {i : Identity} : ofSecret s = .ok i ↔ i.HeldBy s := by
  unfold ofSecret HeldBy
  cases s.get? Secret.clientCertificateKey with
  | none => simp
  | some certificate =>
      cases s.get? Secret.clientPrivateKey with
      | none => simp
      | some key => cases h : ofPem? (joined certificate key) <;> simp [h]

/-- Whatever is wrong with an identity, it is said of the secret. -/
theorem ofSecret_eq_error {e : ConnectionError} (h : ofSecret s = .error e) :
    ∃ reason, e = .config s.name reason := by
  unfold ofSecret at h
  split at h
  · cases h
    exact ⟨_, rfl⟩
  · split at h
    · cases h
      exact ⟨_, rfl⟩
    · split at h
      · cases h
      · cases h
        exact ⟨_, rfl⟩

end Identity

end LogSteward
