import Mathlib.Data.List.Chain
import LogSteward.Proofs.Connection.Defects

/-!
# Connection material over time

Resolving the material of a connection looks only at the secrets that the settings ask for
(`resolve_congr`), and what it finds wrong with a secret is said before the later ones are looked
at.  So where secrets are added and never changed (`Grows`), an answer stays what it is until the
secret that it finds missing is there (`resolve_grows`).  Whoever asks again and again waits for the
administrator's secret, then for that of the authorities, and then no more (`answers_of_growth`).
-/

namespace LogSteward.Bootstrap

variable {library : TlsLibrary} {source source' source'' : SecretSource} {s : ConnectionSettings}

/-! ### The secrets that are asked for -/

/-- Two sources agree on the secrets that the settings ask for. -/
structure Agree (s : ConnectionSettings) (source source' : SecretSource) : Prop where
  administrator : source Secret.administrator = source' Secret.administrator
  authorities : s.authority = none → source s.authoritySecret = source' s.authoritySecret
  identity : s.external = true → source Secret.clientIdentity = source' Secret.clientIdentity

theorem lookUp_congr {name : String} (h : source name = source' name) (absent : ConnectionError) :
    lookUp source name absent = lookUp source' name absent := by
  rw [lookUp, h, lookUp]

/-- The credentials come from the administrator's secret alone. -/
theorem credentials_congr (h : source Secret.administrator = source' Secret.administrator) :
    credentials source = credentials source' := by
  rw [credentials, lookUp_congr h, credentials]

/-- The authorities come from one secret, and from none if they are given. -/
theorem authorities_congr
    (h : s.authority = none → source s.authoritySecret = source' s.authoritySecret) :
    authorities source s = authorities source' s := by
  unfold authorities
  split
  · rfl
  · next none => simp only [lookUp_congr (h none)]

theorem roots_congr
    (h : s.authority = none → source s.authoritySecret = source' s.authoritySecret) :
    roots library source s = roots library source' s := by
  rw [roots, authorities_congr h, roots]

/-- An identity comes from the client's secret alone. -/
theorem presented_congr (h : source Secret.clientIdentity = source' Secret.clientIdentity) :
    presented source = presented source' := by
  rw [presented, lookUp_congr h, presented]

/-- The client's secret matters only to a store that is outside the cluster. -/
theorem identity_congr
    (h : s.external = true → source Secret.clientIdentity = source' Secret.clientIdentity)
    (rs : List Octets) : identity library source s rs = identity library source' s rs := by
  unfold identity
  split
  · next external => simp only [presented_congr (h external)]
  · rfl

/-- Beyond the credentials and the authorities, the identity decides. -/
theorem resolve_of_roots {c : Credentials} {rs : List Octets} (hc : credentials source = .ok c)
    (hr : roots library source s = .ok rs) :
    resolve library source s =
      (identity library source s rs).map fun i => { credentials := c, tls := ⟨rs, i⟩ } := by
  rw [resolve, hc, hr]
  cases h : identity library source s rs <;> simp only [bind, Except.bind, h] <;> rfl

/-- Sources that agree on the secrets that are asked for have the same material. -/
theorem resolve_congr (h : Agree s source source') :
    resolve library source s = resolve library source' s := by
  simp only [resolve, credentials_congr h.administrator, roots_congr h.authorities,
    identity_congr h.identity]

/-! ### Growth -/

/-- Secrets that can all be read are added, and none is changed or taken away. -/
structure Grows (source source' : SecretSource) : Prop where
  readable : ∀ name, ∃ found, source name = .ok found
  still_readable : ∀ name, ∃ found, source' name = .ok found
  kept : ∀ name secret, source name = .ok (some secret) → source' name = .ok (some secret)

namespace Grows

theorem trans (h : Grows source source') (h' : Grows source' source'') : Grows source source'' where
  readable := h.readable
  still_readable := h'.still_readable
  kept name secret found := h'.kept name secret (h.kept name secret found)

instance : Trans Grows Grows Grows := ⟨trans⟩

/-- A secret that is added to those held, under a name that none of them has. -/
theorem ofList {secrets : List Secret} {secret : Secret}
    (fresh : SecretSource.ofList secrets secret.name = .ok none) :
    Grows (.ofList secrets) (.ofList (secrets ++ [secret])) where
  readable _ := ⟨_, rfl⟩
  still_readable _ := ⟨_, rfl⟩
  kept name held found := by
    rw [SecretSource.ofList_concat]
    split
    · next same =>
      rw [← same, fresh] at found
      cases found
    · exact found

/-- A secret stays as it is, or it was not there. -/
theorem same_or_absent (h : Grows source source') (name : String) :
    source name = source' name ∨ source name = .ok none := by
  obtain ⟨found, hf⟩ := h.readable name
  cases found with
  | none => exact .inr hf
  | some secret => exact .inl (hf.trans (h.kept name secret hf).symm)

end Grows

/-- An answer stays, unless it is about a secret that is missing: that a secret is waited for stays
until it is there. -/
theorem resolve_grows (library : TlsLibrary) (h : Grows source source')
    (s : ConnectionSettings) :
    resolve library source' s = resolve library source s ∨
      (∃ name, resolve library source s = .error (.waiting name) ∧ source' name ≠ .ok none) ∨
      resolve library source s = .error (.config Secret.clientIdentity .missingClientSecret) := by
  -- While a secret that is waited for is in neither source, both answers are the same.
  have awaited {name : String} (w : Awaited source s name)
      (w' : source' name = .ok none → Awaited source' s name) :
      resolve library source' s = resolve library source s ∨
        ∃ name, resolve library source s = .error (.waiting name) ∧ source' name ≠ .ok none := by
    have waits : resolve library source s = _ := resolve_eq_waiting_iff.mpr w
    by_cases absent : source' name = .ok none
    · exact .inl ((resolve_eq_waiting_iff.mpr (w' absent)).trans waits.symm)
    · exact .inr ⟨name, waits, absent⟩
  rcases h.same_or_absent Secret.administrator with same | absent
  case inr => exact (awaited ⟨absent, .inl rfl⟩ fun absent' => ⟨absent', .inl rfl⟩).imp_right .inl
  have sameC := credentials_congr same
  cases hc : credentials source with
  | error e => exact .inl (by rw [resolve, ← sameC, hc, resolve, hc]; rfl)
  | ok c =>
    have yields : YieldsCredentials source' c := credentials_eq_ok_iff.mp (sameC ▸ hc)
    by_cases missing : s.authority = none ∧ source s.authoritySecret = .ok none
    · obtain ⟨given, absent⟩ := missing
      exact (awaited ⟨absent, .inr ⟨⟨c, credentials_eq_ok_iff.mp hc⟩, given, rfl⟩⟩ fun absent' =>
        ⟨absent', .inr ⟨⟨c, yields⟩, given, rfl⟩⟩).imp_right .inl
    have sameR : roots library source s = roots library source' s := roots_congr fun given =>
      (h.same_or_absent _).resolve_right fun absent => missing ⟨given, absent⟩
    cases hr : roots library source s with
    | error e => exact .inl (by rw [resolve, ← sameC, ← sameR, resolve, hc, hr]; rfl)
    | ok rs =>
      by_cases missing : s.external = true ∧ source Secret.clientIdentity = .ok none
      · obtain ⟨external, absent⟩ := missing
        refine .inr (.inr ?_)
        rw [resolve_of_roots hc hr, identity, if_pos external]
        simp only [presented, lookUp, absent]
        rfl
      have sameI : identity library source s rs = identity library source' s rs :=
        identity_congr (fun external => (h.same_or_absent _).resolve_right
          fun absent => missing ⟨external, absent⟩) rs
      exact .inl (by rw [resolve_of_roots (sameC ▸ hc) (sameR ▸ hr), resolve_of_roots hc hr, sameI])

/-- What is waited for after the growth was waited for before it, or the administrator's secret
was. -/
theorem Awaited.before {name : String} (h : Grows source source') (w : Awaited source' s name) :
    Awaited source s name ∨ Awaited source s Secret.administrator := by
  obtain ⟨absent', which⟩ := w
  have absent : source name = .ok none := by
    rcases h.same_or_absent name with same | absent
    · exact same.trans absent'
    · exact absent
  rcases which with rfl | ⟨⟨c, yields⟩, given, rfl⟩
  · exact .inl ⟨absent, .inl rfl⟩
  · rcases h.same_or_absent Secret.administrator with same | absentA
    · have yields : YieldsCredentials source c :=
        credentials_eq_ok_iff.mp (credentials_congr same ▸ credentials_eq_ok_iff.mpr yields)
      exact .inl ⟨absent, .inr ⟨⟨c, yields⟩, given, rfl⟩⟩
    · exact .inr ⟨absentA, .inl rfl⟩

/-- Asking again and again: the administrator's secret is waited for, then that of the authorities,
and then no more. -/
theorem answers_of_growth (library : TlsLibrary) (s : ConnectionSettings)
    (sources : List SecretSource) (growth : sources.IsChain Grows) :
    ∃ i j rest, sources.map (resolve library · s) =
        List.replicate i (.error (.waiting Secret.administrator)) ++
          List.replicate j (.error (.waiting s.authoritySecret)) ++ rest ∧
      ∀ r ∈ rest, ∀ name, r ≠ .error (.waiting name) := by
  induction sources with
  | nil => exact ⟨0, 0, [], rfl, nofun⟩
  | cons first later ih =>
    obtain ⟨i, j, rest, answers, done⟩ := ih growth.tail
    have before {name : String} (w : .error (.waiting name) ∈ later.map (resolve library · s)) :
        Awaited first s name ∨ Awaited first s Secret.administrator := by
      obtain ⟨source, mem, w⟩ := List.mem_map.mp w
      exact (resolve_eq_waiting_iff.mp w).before (List.rel_of_pairwise_cons growth.pairwise mem)
    by_cases waitsA : Awaited first s Secret.administrator
    · refine ⟨i + 1, j, rest, ?_, done⟩
      rw [List.map_cons, answers, resolve_eq_waiting_iff.mpr waitsA]
      rfl
    have i_eq : i = 0 := by
      by_contra some
      refine waitsA (or_self_iff.mp (before ?_))
      simp [answers, some]
    by_cases waitsR : Awaited first s s.authoritySecret
    · refine ⟨0, j + 1, rest, ?_, done⟩
      rw [List.map_cons, answers, resolve_eq_waiting_iff.mpr waitsR, i_eq]
      rfl
    have j_eq : j = 0 := by
      by_contra some
      refine (@before s.authoritySecret ?_).elim waitsR waitsA
      simp [answers, some]
    refine ⟨0, 0, resolve library first s :: rest, by simp [answers, i_eq, j_eq],
      fun r mem name w => ?_⟩
    rcases List.mem_cons.mp mem with rfl | mem
    · obtain ⟨absent, rfl | ⟨yields, given, rfl⟩⟩ := resolve_eq_waiting_iff.mp w
      · exact waitsA ⟨absent, .inl rfl⟩
      · exact waitsR ⟨absent, .inr ⟨yields, given, rfl⟩⟩
    · exact done r mem name w

/-- Only the secrets that the settings ask for matter, and waiting for them comes to an end:
material that is complete or wrong stays so, except for an identity that is missing; a secret is
waited for until it is there, and never after. -/
theorem resolve_over_time (library : TlsLibrary) (s : ConnectionSettings) :
    (∀ source source', Agree s source source' →
      resolve library source s = resolve library source' s) ∧
    (∀ source source', Grows source source' →
      (∀ m, resolve library source s = .ok m → resolve library source' s = .ok m) ∧
      (∀ name reason, resolve library source s = .error (.config name reason) →
        ¬ (name = Secret.clientIdentity ∧ reason = .missingClientSecret) →
        resolve library source' s = .error (.config name reason)) ∧
      (∀ name, resolve library source s = .error (.waiting name) →
        (source' name = .ok none → resolve library source' s = .error (.waiting name)) ∧
        (source' name ≠ .ok none → resolve library source' s ≠ .error (.waiting name) ∧
          ∀ source'', Grows source' source'' →
            resolve library source'' s ≠ .error (.waiting name)))) ∧
    (∀ sources : List SecretSource, sources.IsChain Grows →
      ∃ i j rest, sources.map (resolve library · s) =
          List.replicate i (.error (.waiting Secret.administrator)) ++
            List.replicate j (.error (.waiting s.authoritySecret)) ++ rest ∧
        ∀ r ∈ rest, ∀ name, r ≠ .error (.waiting name)) := by
  refine ⟨fun _ _ => resolve_congr, fun source source' h => ⟨?ok, ?config, ?waiting⟩,
    answers_of_growth library s⟩
  case ok =>
    intro m hm
    rcases resolve_grows library h s with same | ⟨name, w, -⟩ | lost
    · exact same.trans hm
    · cases hm.symm.trans w
    · cases hm.symm.trans lost
  case config =>
    intro name reason hc other
    rcases resolve_grows library h s with same | ⟨name, w, -⟩ | lost
    · exact same.trans hc
    · cases hc.symm.trans w
    · cases hc.symm.trans lost
      exact absurd ⟨rfl, rfl⟩ other
  case waiting =>
    intro name w
    refine ⟨fun absent => ?_, fun there => ⟨?_, fun source'' h' => ?_⟩⟩
    · rcases resolve_grows library h s with same | ⟨name', w', there⟩ | lost
      · exact same.trans w
      · cases w.symm.trans w'
        exact absurd absent there
      · cases w.symm.trans lost
    · exact fun w' => there (resolve_eq_waiting_iff.mp w').1
    · intro w'
      have absent := (resolve_eq_waiting_iff.mp w').1
      rcases h'.same_or_absent name with same | absent'
      · exact there (same.trans absent)
      · exact there absent'

/-- Both secrets are waited for in turn; authorities that are wrong are not waited for. -/
theorem resolve_over_time_twice :
    let s : ConnectionSettings := { endpoint := { scheme := "https", path := .segments [] } }
    let admin := Secret.ofList Secret.administrator [("admin", Utf8.encode "secret")]
    let garbled := Secret.ofList Secret.internalAuthority [(Secret.authorityKey, [0x2D])]
    let sources : List SecretSource := [.ofList [], .ofList [admin], .ofList [admin, garbled]]
    sources.IsChain Grows ∧
    sources.map (resolve .rsa · s) =
      [ .error (.waiting Secret.administrator)
      , .error (.waiting Secret.internalAuthority)
      , .error (.config Secret.internalAuthority .invalidCertificate) ] ∧
    ∃ i j rest, sources.map (resolve .rsa · s) =
        List.replicate i (.error (.waiting Secret.administrator)) ++
          List.replicate j (.error (.waiting Secret.internalAuthority)) ++ rest ∧
      ∀ r ∈ rest, ∀ name, r ≠ .error (.waiting name) := by
  intro s admin garbled sources
  have growth : sources.IsChain Grows := by
    refine .cons_cons (@Grows.ofList [] admin ?_)
      (.cons_cons (@Grows.ofList [admin] garbled ?_) (.singleton _))
    · rfl
    · simp only [admin, garbled]
      rfl
  refine ⟨growth, ?_, (resolve_over_time .rsa s).2.2 sources growth⟩
  simp only [sources, s, admin, garbled]
  rfl

end LogSteward.Bootstrap
