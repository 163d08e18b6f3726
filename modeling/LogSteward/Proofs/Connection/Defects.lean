import LogSteward.Proofs.Connection.Contents
import LogSteward.Tls.Acceptance

/-!
# The first defect of connection material

The material of a connection has three parts (`Part`): the administrator's credentials, the
authorities, and the identity of the client.  What each of them is read as is decided by the secrets
and by what the library accepts (`YieldsCredentials`, `YieldsRoots`, `YieldsIdentity`), and a part
that yields nothing has a defect (`Sound`).  The identity is tried out beside the authorities, so
that it can be at fault only if these are not.

All of this holds for every library, whatever it accepts.

Resolving the material succeeds if no part has a defect, and then it has what the parts yield
(`resolve_eq_ok_iff`).  Otherwise the first part with a defect decides, whatever is wrong with those
after it, and the failure tells whether its secret is waited for, cannot be read, or holds the wrong
thing (`Verdict`, `first_defect_decides`).
-/

namespace LogSteward

namespace Bootstrap

variable {library : TlsLibrary} {source : SecretSource} {s : ConnectionSettings}

/-! ### The parts of the material -/

/-- The parts of the material, in the order in which they are looked up. -/
inductive Part where
  | credentials
  | authorities
  | identity
deriving DecidableEq

namespace Part

/-- The parts that are looked up before another one. -/
def earlier : Part → List Part
  | credentials => []
  | authorities => [credentials]
  | identity => [credentials, authorities]

/-- The secret that a part is looked up in, if there is one: authorities may be given, and the
identity is for external stores only. -/
def secret? (s : ConnectionSettings) : Part → Option String
  | credentials => some Secret.administrator
  | authorities => if s.authority.isSome then none else some s.authoritySecret
  | identity => if s.external then some Secret.clientIdentity else none

/-- What stands for a part in failures that are about its content. -/
def origin (s : ConnectionSettings) (part : Part) : String :=
  (part.secret? s).getD ConnectionSettings.overrideOrigin

end Part

/-- The PEM text in which the authorities are: the one that is given, or else that of the secret. -/
inductive AuthorityText (source : SecretSource) (s : ConnectionSettings) (pem : Octets) : Prop where
  | given (h : s.authority = some pem)
  | held {secret : Secret} (h : s.authority = none)
      (found : source s.authoritySecret = .ok (some secret))
      (entry : secret.get? Secret.authorityKey = some pem)

def YieldsCredentials (source : SecretSource) (c : Credentials) : Prop :=
  ∃ secret, source Secret.administrator = .ok (some secret) ∧ c.HeldBy secret

/-- The authorities are those of the text, and the library accepts them. -/
def YieldsRoots (library : TlsLibrary) (source : SecretSource) (s : ConnectionSettings)
    (roots : List Octets) : Prop :=
  ∃ pem, AuthorityText source s pem ∧ TlsMaterial.Bundled pem roots ∧ library { roots } = .ok ()

/-- An external store is shown the identity that the secret holds, which the library accepts beside
the authorities; another one is shown none. -/
def YieldsIdentity (library : TlsLibrary) (source : SecretSource) (s : ConnectionSettings)
    (roots : List Octets) : Option Identity → Prop
  | none => s.external = false
  | some i => s.external = true ∧ library { roots, identity := some i } = .ok () ∧
      ∃ secret, source Secret.clientIdentity = .ok (some secret) ∧ i.HeldBy secret

/-- The part has no defect. -/
def Sound (library : TlsLibrary) (source : SecretSource) (s : ConnectionSettings) : Part → Prop
  | .credentials => ∃ c, YieldsCredentials source c
  | .authorities => ∃ roots, YieldsRoots library source s roots
  | .identity => ∀ roots, YieldsRoots library source s roots →
      ∃ i, YieldsIdentity library source s roots i

/-- The part has a defect, and those before it have none. -/
def FirstDefect (library : TlsLibrary) (source : SecretSource) (s : ConnectionSettings)
    (part : Part) : Prop :=
  ¬ Sound library source s part ∧ ∀ p ∈ part.earlier, Sound library source s p

/-- What is said of a part that has a defect, by the state its secret is in. -/
inductive Verdict (source : SecretSource) (s : ConnectionSettings) (part : Part) :
    ConnectionError → Prop where
  | unreadable {name : String} {f : ReadFailure} (asked : part.secret? s = some name)
      (found : source name = .error f) : Verdict source s part (.unreadable name f)
  | waiting {name : String} (asked : part.secret? s = some name) (absent : source name = .ok none)
      (awaited : part ≠ .identity) : Verdict source s part (.waiting name)
  | missing (asked : part.secret? s = some Secret.clientIdentity)
      (absent : source Secret.clientIdentity = .ok none) (unawaited : part = .identity) :
      Verdict source s part (.config Secret.clientIdentity .missingClientSecret)
  /-- The secret is named as it was asked for, or as it names itself. -/
  | wrong {name : String} {secret : Secret} {holder : String} {reason : ConfigReason}
      (asked : part.secret? s = some name) (found : source name = .ok (some secret))
      (named : holder = name ∨ holder = secret.name) :
      Verdict source s part (.config holder reason)
  | given {reason : ConfigReason} (unasked : part.secret? s = none) :
      Verdict source s part (.config ConnectionSettings.overrideOrigin reason)

/-! ### One part -/

/-- A secret is looked up with success exactly if it is there. -/
theorem lookUp_eq_ok_iff {name : String} {absent : ConnectionError} {secret : Secret} :
    lookUp source name absent = .ok secret ↔ source name = .ok (some secret) := by
  unfold lookUp
  cases source name with
  | error f => exact iff_of_false nofun nofun
  | ok found => cases found <;> simp

/-- A look-up fails because the secret cannot be read, or because it is not there. -/
theorem lookUp_eq_error {name : String} {absent e : ConnectionError}
    (h : lookUp source name absent = .error e) :
    (∃ f, source name = .error f ∧ e = .unreadable name f) ∨
      source name = .ok none ∧ e = absent := by
  unfold lookUp at h
  split at h
  · next f hf =>
    cases h
    exact .inl ⟨f, hf, rfl⟩
  · next hn =>
    cases h
    exact .inr ⟨hn, rfl⟩
  · cases h

/-- Material passes the check exactly if the library accepts it. -/
theorem check_eq_ok_iff {m : TlsMaterial} {origin : String} {reason : ConfigReason} {u : Unit} :
    check library m origin reason = .ok u ↔ library m = .ok () := by
  unfold check
  cases library m <;> simp [Except.mapError]

/-- Material that the library refuses is wrong where it comes from. -/
theorem check_eq_error {m : TlsMaterial} {origin : String} {reason : ConfigReason}
    {e : ConnectionError} (h : check library m origin reason = .error e) :
    e = .config origin reason := by
  unfold check at h
  cases hm : library m with
  | ok _ =>
    rw [hm] at h
    cases h
  | error words =>
    rw [hm] at h
    cases h
    rfl

/-- Credentials are resolved exactly if the administrator's secret yields them. -/
theorem credentials_eq_ok_iff {c : Credentials} :
    credentials source = .ok c ↔ YieldsCredentials source c := by
  simp only [credentials, bind_eq_ok_iff, lookUp_eq_ok_iff, Credentials.ofSecret_eq_ok_iff,
    YieldsCredentials]

/-- The error of the credentials is the verdict on them. -/
theorem verdict_credentials {e : ConnectionError} (h : credentials source = .error e) :
    Verdict source s .credentials e := by
  rw [credentials, bind_eq_error_iff] at h
  rcases h with h | ⟨secret, found, h⟩
  · rcases lookUp_eq_error h with ⟨f, hf, rfl⟩ | ⟨absent, rfl⟩
    · exact .unreadable rfl hf
    · exact .waiting rfl absent nofun
  · obtain ⟨reason, rfl⟩ := Credentials.ofSecret_eq_error h
    exact .wrong rfl (lookUp_eq_ok_iff.mp found) (.inr rfl)

theorem secret?_authorities_given {pem : Octets} (h : s.authority = some pem) :
    Part.authorities.secret? s = none := by
  rw [Part.secret?, h]
  rfl

/-- Unless authorities are given, they are in a secret. -/
theorem secret?_authorities (h : s.authority = none) :
    Part.authorities.secret? s = some s.authoritySecret := by
  rw [Part.secret?, h]
  rfl

/-- Authorities are had, together with their origin, from the text that is given or that the secret
holds, if it is a bundle of certificates. -/
theorem authorities_eq_ok_iff {origin : String} {roots : List Octets} :
    authorities source s = .ok (origin, roots) ↔ origin = Part.authorities.origin s ∧
      ∃ pem, AuthorityText source s pem ∧ TlsMaterial.rootsOfPem origin pem = .ok roots := by
  unfold authorities Part.origin
  split
  · next pem h =>
    rw [secret?_authorities_given h]
    simp only [bind_eq_ok_iff]
    constructor
    · rintro ⟨rs, hr, hp⟩
      cases hp
      exact ⟨rfl, pem, .given h, hr⟩
    · rintro ⟨rfl, pem', text, hr⟩
      cases text with
      | given h' =>
        rw [h] at h'
        cases h'
        exact ⟨roots, hr, rfl⟩
      | held h' => rw [h] at h'; cases h'
  · next h =>
    rw [secret?_authorities h]
    simp only [bind_eq_ok_iff, lookUp_eq_ok_iff]
    constructor
    · rintro ⟨secret, found, hr⟩
      split at hr
      · cases hr
      · next pem entry =>
        obtain ⟨rs, hr, hp⟩ := bind_eq_ok_iff.mp hr
        cases hp
        exact ⟨rfl, pem, .held h found entry, hr⟩
    · rintro ⟨rfl, pem, text, hr⟩
      cases text with
      | given h' => rw [h] at h'; cases h'
      | held _ found entry =>
        refine ⟨_, found, ?_⟩
        rw [entry]
        exact bind_eq_ok_iff.mpr ⟨roots, hr, rfl⟩

/-- What is wrong with the text of the authorities is said of where the text is from. -/
theorem verdict_of_text {pem : Octets} (text : AuthorityText source s pem) (reason : ConfigReason) :
    Verdict source s .authorities (.config (Part.authorities.origin s) reason) := by
  unfold Part.origin
  cases text with
  | given h =>
    rw [secret?_authorities_given h]
    exact .given (secret?_authorities_given h)
  | held h found =>
    rw [secret?_authorities h]
    exact .wrong (secret?_authorities h) found (.inl rfl)

/-- What is wrong with the text of the authorities is the verdict on them. -/
theorem verdict_authorities {e : ConnectionError} (h : authorities source s = .error e) :
    Verdict source s .authorities e := by
  unfold authorities at h
  split at h
  · next pem hs =>
    rcases bind_eq_error_iff.mp h with h | ⟨_, _, h⟩
    · rw [TlsMaterial.rootsOfPem_eq_error h]
      exact .given (secret?_authorities_given hs)
    · cases h
  · next hs =>
    rcases bind_eq_error_iff.mp h with h | ⟨secret, found, h⟩
    · rcases lookUp_eq_error h with ⟨f, hf, rfl⟩ | ⟨absent, rfl⟩
      · exact .unreadable (secret?_authorities hs) hf
      · exact .waiting (secret?_authorities hs) absent nofun
    · replace found := lookUp_eq_ok_iff.mp found
      split at h
      · cases h
        exact .wrong (secret?_authorities hs) found (.inl rfl)
      · rcases bind_eq_error_iff.mp h with h | ⟨_, _, h⟩
        · rw [TlsMaterial.rootsOfPem_eq_error h]
          exact .wrong (secret?_authorities hs) found (.inl rfl)
        · cases h

/-- Authorities are resolved exactly if their text yields them. -/
theorem roots_eq_ok_iff {rs : List Octets} :
    roots library source s = .ok rs ↔ YieldsRoots library source s rs := by
  simp only [roots, bind_eq_ok_iff, Prod.exists, authorities_eq_ok_iff, check_eq_ok_iff,
    TlsMaterial.rootsOfPem_eq_ok_iff]
  constructor
  · rintro ⟨origin, rs', ⟨rfl, pem, text, bundled⟩, -, accepted, h⟩
    cases h
    exact ⟨pem, text, bundled, accepted⟩
  · rintro ⟨pem, text, bundled, accepted⟩
    exact ⟨_, rs, ⟨rfl, pem, text, bundled⟩, (), accepted, rfl⟩

theorem verdict_roots {e : ConnectionError} (h : roots library source s = .error e) :
    Verdict source s .authorities e := by
  rcases bind_eq_error_iff.mp h with h | ⟨⟨origin, rs⟩, read, h⟩
  · exact verdict_authorities h
  · obtain ⟨rfl, pem, text, -⟩ := authorities_eq_ok_iff.mp read
    rcases bind_eq_error_iff.mp h with h | ⟨_, _, h⟩
    · rw [check_eq_error h]
      exact verdict_of_text text _
    · cases h

/-- An identity is presented exactly if the client's secret is there and holds it. -/
theorem presented_eq_ok_iff {i : Identity} : presented source = .ok i ↔
    ∃ secret, source Secret.clientIdentity = .ok (some secret) ∧ i.HeldBy secret := by
  simp only [presented, bind_eq_ok_iff, lookUp_eq_ok_iff, Identity.ofSecret_eq_ok_iff]

/-- An identity is resolved exactly if the client's secret yields it beside the authorities. -/
theorem identity_eq_ok_iff {rs : List Octets} {i : Option Identity} :
    identity library source s rs = .ok i ↔ YieldsIdentity library source s rs i := by
  unfold identity
  split
  · next external =>
    simp only [bind_eq_ok_iff, presented_eq_ok_iff, check_eq_ok_iff]
    constructor
    · rintro ⟨i', held, -, accepted, h⟩
      cases h
      exact ⟨external, accepted, held⟩
    · intro yields
      cases i with
      | none => cases external.symm.trans yields
      | some i =>
        obtain ⟨-, accepted, held⟩ := yields
        exact ⟨i, held, (), accepted, rfl⟩
  · next internal =>
    cases i with
    | none => exact iff_of_true rfl (Bool.eq_false_iff.mpr internal)
    | some i => exact iff_of_false nofun fun ⟨external, _⟩ => internal external

/-- What is wrong with the client's secret, or with what is in it. -/
theorem verdict_presented (asked : Part.identity.secret? s = some Secret.clientIdentity)
    {e : ConnectionError} (h : presented source = .error e) : Verdict source s .identity e := by
  rcases bind_eq_error_iff.mp h with h | ⟨secret, found, h⟩
  · rcases lookUp_eq_error h with ⟨f, hf, rfl⟩ | ⟨absent, rfl⟩
    · exact .unreadable asked hf
    · exact .missing asked absent rfl
  · obtain ⟨reason, rfl⟩ := Identity.ofSecret_eq_error h
    exact .wrong asked (lookUp_eq_ok_iff.mp found) (.inr rfl)

theorem verdict_identity {rs : List Octets} {e : ConnectionError}
    (h : identity library source s rs = .error e) : Verdict source s .identity e := by
  unfold identity at h
  split at h
  · next external =>
    have asked : Part.identity.secret? s = some Secret.clientIdentity := if_pos external
    rcases bind_eq_error_iff.mp h with h | ⟨i, held, h⟩
    · exact verdict_presented asked h
    · obtain ⟨secret, found, -⟩ := presented_eq_ok_iff.mp held
      rcases bind_eq_error_iff.mp h with h | ⟨_, _, h⟩
      · rw [check_eq_error h]
        exact .wrong asked found (.inl rfl)
      · cases h
  · cases h

/-! ### All parts -/

/-- Material is resolved exactly if its parts are yielded. -/
theorem resolve_eq_ok_iff {m : ConnectionMaterial} :
    resolve library source s = .ok m ↔ YieldsCredentials source m.credentials ∧
      YieldsRoots library source s m.tls.roots ∧
      YieldsIdentity library source s m.tls.roots m.tls.identity := by
  simp only [resolve, bind_eq_ok_iff, credentials_eq_ok_iff, roots_eq_ok_iff, identity_eq_ok_iff]
  constructor
  · rintro ⟨c, hc, rs, hr, i, hi, h⟩
    cases h
    exact ⟨hc, hr, hi⟩
  · rintro ⟨hc, hr, hi⟩
    exact ⟨_, hc, _, hr, _, hi, rfl⟩

/-- There is material exactly if every part is sound. -/
theorem exists_resolve_iff :
    (∃ m, resolve library source s = .ok m) ↔ ∀ part, Sound library source s part := by
  simp only [resolve_eq_ok_iff]
  constructor
  · rintro ⟨m, hc, hr, hi⟩ part
    cases part with
    | credentials => exact ⟨_, hc⟩
    | authorities => exact ⟨_, hr⟩
    | identity =>
      -- a text yields the authorities that are resolved from it, and no others
      intro roots yields
      have same := (roots_eq_ok_iff.mpr yields).symm.trans (roots_eq_ok_iff.mpr hr)
      exact ⟨_, Except.ok.inj same ▸ hi⟩
  · intro sound
    obtain ⟨c, hc⟩ := sound .credentials
    obtain ⟨roots, hr⟩ := sound .authorities
    obtain ⟨identity, hi⟩ := sound .identity roots hr
    exact ⟨⟨c, roots, identity⟩, hc, hr, hi⟩

/-- Of two parts that have a defect, one comes before the other. -/
theorem FirstDefect.unique {p q : Part} (hp : FirstDefect library source s p)
    (hq : FirstDefect library source s q) : p = q := by
  have ordered : p = q ∨ p ∈ q.earlier ∨ q ∈ p.earlier := by cases p <;> cases q <;> decide
  rcases ordered with h | h | h
  · exact h
  · exact absurd (hq.2 p h) hp.1
  · exact absurd (hp.2 q h) hq.1

/-- A failure is about the first part that has a defect. -/
theorem verdict_of_resolve {e : ConnectionError} (h : resolve library source s = .error e) :
    ∃ part, FirstDefect library source s part ∧ Verdict source s part e := by
  rcases bind_eq_error_iff.mp h with hc | ⟨c, hc, h⟩
  · refine ⟨.credentials, ⟨?_, nofun⟩, verdict_credentials hc⟩
    rintro ⟨c, hy⟩
    cases hc.symm.trans (credentials_eq_ok_iff.mpr hy)
  have soundC : Sound library source s .credentials := ⟨c, credentials_eq_ok_iff.mp hc⟩
  rcases bind_eq_error_iff.mp h with hr | ⟨rs, hr, h⟩
  · refine ⟨.authorities, ⟨?_, by simpa [Part.earlier] using soundC⟩, verdict_roots hr⟩
    rintro ⟨rs, hy⟩
    cases hr.symm.trans (roots_eq_ok_iff.mpr hy)
  have yields := roots_eq_ok_iff.mp hr
  have soundR : Sound library source s .authorities := ⟨rs, yields⟩
  rcases bind_eq_error_iff.mp h with hi | ⟨_, _, h⟩
  · refine ⟨.identity, ⟨?_, by simpa [Part.earlier] using ⟨soundC, soundR⟩⟩, verdict_identity hi⟩
    intro sound
    obtain ⟨i, hy⟩ := sound rs yields
    cases hi.symm.trans (identity_eq_ok_iff.mpr hy)
  · cases h

/-- The part that is defective first decides the error. -/
theorem FirstDefect.verdict {part : Part} (first : FirstDefect library source s part) :
    ∃ e, resolve library source s = .error e ∧ Verdict source s part e := by
  cases h : resolve library source s with
  | ok m => exact absurd (exists_resolve_iff.mp ⟨m, h⟩ part) first.1
  | error e =>
    obtain ⟨part', first', verdict⟩ := verdict_of_resolve h
    exact ⟨e, rfl, first.unique first' ▸ verdict⟩

/-- The library accepts material that is resolved. -/
theorem accepted_of_resolve {m : ConnectionMaterial} (h : resolve library source s = .ok m) :
    library m.tls = .ok () := by
  obtain ⟨-, ⟨pem, -, -, accepted⟩, yields⟩ := resolve_eq_ok_iff.mp h
  obtain ⟨credentials, roots, identity⟩ := m
  cases identity with
  | none => exact accepted
  | some i => exact yields.2.1

/-! ### What the failures tell -/

/-- The secret is waited for: it does not exist, and it is the administrator's, or that of the
authorities when none are given and the administrator's credentials are there. -/
def Awaited (source : SecretSource) (s : ConnectionSettings) (name : String) : Prop :=
  source name = .ok none ∧ (name = Secret.administrator ∨
    (∃ c, YieldsCredentials source c) ∧ s.authority = none ∧ name = s.authoritySecret)

/-- Exactly these secrets are waited for. -/
theorem resolve_eq_waiting_iff {name : String} :
    resolve library source s = .error (.waiting name) ↔ Awaited source s name := by
  constructor
  · intro h
    obtain ⟨part, first, verdict⟩ := verdict_of_resolve h
    cases verdict with
    | waiting asked absent awaited =>
      refine ⟨absent, ?_⟩
      cases part with
      | credentials => exact .inl (Option.some.inj asked).symm
      | authorities =>
        refine .inr ⟨first.2 .credentials List.mem_cons_self, ?_⟩
        cases given : s.authority with
        | none => exact ⟨rfl, (Option.some.inj ((secret?_authorities given).symm.trans asked)).symm⟩
        | some pem => cases (secret?_authorities_given given).symm.trans asked
      | identity => exact absurd rfl awaited
  · rintro ⟨absent, rfl | ⟨⟨c, yields⟩, given, rfl⟩⟩
    · rw [resolve, credentials, lookUp, absent]
      rfl
    · rw [resolve, credentials_eq_ok_iff.mpr yields, roots, authorities, given]
      simp only [lookUp, absent]
      rfl

/-- A secret that cannot be read is reported if it is that of the first part with a defect. -/
theorem resolve_eq_unreadable_iff {name : String} {f : ReadFailure} :
    resolve library source s = .error (.unreadable name f) ↔
      ∃ part, FirstDefect library source s part ∧ part.secret? s = some name ∧
        source name = .error f := by
  constructor
  · intro h
    obtain ⟨part, first, verdict⟩ := verdict_of_resolve h
    cases verdict with
    | unreadable asked found => exact ⟨part, first, asked, found⟩
  · rintro ⟨part, first, asked, found⟩
    obtain ⟨e, h, verdict⟩ := first.verdict
    cases verdict with
    | unreadable asked' found' =>
      cases asked.symm.trans asked'
      cases found.symm.trans found'
      exact h
    | waiting asked' absent =>
      cases asked.symm.trans asked'
      cases found.symm.trans absent
    | missing asked' absent =>
      cases asked.symm.trans asked'
      cases found.symm.trans absent
    | wrong asked' found' =>
      cases asked.symm.trans asked'
      cases found.symm.trans found'
    | given unasked => cases asked.symm.trans unasked

/-- Where secrets carry their names, wrong material is said of the secret that was asked for. -/
theorem config_of_labelled (labelled : source.Labelled) {name : String} {reason : ConfigReason}
    (h : resolve library source s = .error (.config name reason)) :
    ∃ part, FirstDefect library source s part ∧ name = part.origin s := by
  obtain ⟨part, first, verdict⟩ := verdict_of_resolve h
  refine ⟨part, first, ?_⟩
  unfold Part.origin
  cases verdict with
  | missing asked => rw [asked]; rfl
  | wrong asked found named =>
    rw [asked]
    exact named.elim id fun own => own.trans (labelled _ _ found)
  | given unasked => rw [unasked]; rfl

/-- **The first defect decides**, whatever the library accepts, how resolving the material ends, and
without a defect it succeeds with what the parts yield.  Waited for are the administrator's secret
and that of the authorities, and never that of the client's identity.  A secret that cannot be read
is reported if it is that of the first part with a defect.  All else is wrong material, and said of
the secret that holds it, or of the authorities that were given. -/
theorem first_defect_decides (library : TlsLibrary) (source : SecretSource)
    (s : ConnectionSettings) :
    ((∃ m, resolve library source s = .ok m) ↔ ∀ part, Sound library source s part) ∧
    (∀ m, resolve library source s = .ok m ↔ YieldsCredentials source m.credentials ∧
      YieldsRoots library source s m.tls.roots ∧
      YieldsIdentity library source s m.tls.roots m.tls.identity) ∧
    (∀ part, FirstDefect library source s part →
      ∃ e, resolve library source s = .error e ∧ Verdict source s part e) ∧
    (∀ name, resolve library source s = .error (.waiting name) ↔ Awaited source s name) ∧
    resolve library source s ≠ .error (.waiting Secret.clientIdentity) ∧
    (∀ name f, resolve library source s = .error (.unreadable name f) ↔
      ∃ part, FirstDefect library source s part ∧ part.secret? s = some name ∧
        source name = .error f) ∧
    (source.Labelled → ∀ name reason, resolve library source s = .error (.config name reason) →
      ∃ part, FirstDefect library source s part ∧ name = part.origin s) := by
  refine ⟨exists_resolve_iff, fun _ => resolve_eq_ok_iff, fun _ => FirstDefect.verdict,
    fun _ => resolve_eq_waiting_iff, ?_, fun _ _ => resolve_eq_unreadable_iff,
    fun labelled _ _ => config_of_labelled labelled⟩
  rw [Ne, resolve_eq_waiting_iff]
  rintro ⟨-, h | ⟨-, -, h⟩⟩
  · exact absurd h (by decide)
  · unfold ConnectionSettings.authoritySecret at h
    split at h
    · exact absurd h (by decide)
    · exact absurd h (by decide)

/-- Authorities that are no PEM text are reported though the client's identity is missing too. -/
theorem first_defect_decides_garbled :
    let s : ConnectionSettings :=
      { endpoint := { scheme := "https", path := .segments [] }, external := true }
    let source := SecretSource.ofList
      [ .ofList Secret.administrator [("admin", Utf8.encode "secret")]
      , .ofList Secret.externalAuthority [(Secret.authorityKey, [0x2D])] ]
    resolve .rsa source s = .error (.config Secret.externalAuthority .invalidCertificate) ∧
      ∃ part, FirstDefect .rsa source s part ∧ Secret.externalAuthority = part.origin s :=
  ⟨by rfl, (first_defect_decides _ _ _).2.2.2.2.2.2 (SecretSource.labelled_ofList _) _
    .invalidCertificate (by rfl)⟩

end Bootstrap

end LogSteward
