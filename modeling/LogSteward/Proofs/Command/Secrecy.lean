import LogSteward.Proofs.Command.Faults
import LogSteward.Proofs.Connection.Mounts
import LogSteward.Proofs.Connection.Secrecy
import LogSteward.Proofs.Rest.Secrecy
import LogSteward.Tls.Acceptance

/-!
# Passwords in whole runs

An invocation knows two passwords: that of the administrator, which is in a secret, and that of the
principals it provisions, which is in an environment variable.  Surroundings that differ in nothing
but these (`Surroundings.DifferInPasswords`) cannot be told apart by what the invocation prints or
logs, by the status with which it ends, or by the requests it sends, unless one looks at who asks
and at the passwords of the users it writes (`passwords_unseen`).

File trees of the same shape that differ at most in passwords are surroundings of that kind
(`Surroundings.DifferInPasswords.ofFiles`).
-/

namespace LogSteward

open Rest

/-! ### Surroundings -/

/-- For an invocation, two surroundings differ in nothing but the administrator's password and the
password of the principals, neither of which is read for anything else. -/
structure Surroundings.DifferInPasswords (i : Invocation) (w w' : Surroundings) : Prop where
  /-- The variables that stand in for options are the same. -/
  standIns : ∀ f name, Flag.standIn? f = some name → w.lookUp name = w'.lookUp name
  logged : w.lookUp Invocation.logVariable = w'.lookUp Invocation.logVariable
  password : ∀ target name, i.task = .provision target name → w.lookUp name = w'.lookUp name ∨
    ∃ p p', p ≠ "" ∧ p' ≠ "" ∧ w.lookUp name = some p ∧ w'.lookUp name = some p'
  settings : ∀ path, i.task.settingsFile? = some path → w.readFile path = w'.readFile path
  authority : ∀ path, i.authorityFile = some path → w.readFile path = w'.readFile path
  secrets : (w.secretsIn i.secretsDir).MayDiffer (w'.secretsIn i.secretsDir)
  library : w.library = w'.library
  passId : w.passId = w'.passId

/-- Where everything is in files, it is enough that the files differ at most in passwords, and that
neither what is read as settings or authorities nor the secrets of others differ. -/
theorem Surroundings.DifferInPasswords.ofFiles {i : Invocation} {env env' : String → Option String}
    {t t' : FileTree} {directory : String} (trees : t.MayDiffer t')
    (standIns : ∀ f name, Flag.standIn? f = some name → env name = env' name)
    (logged : env Invocation.logVariable = env' Invocation.logVariable)
    (password : ∀ target name, i.task = .provision target name → env name = env' name ∨
      ∃ p p', p ≠ "" ∧ p' ≠ "" ∧ env name = some p ∧ env' name = some p')
    (read : ∀ path, i.task.settingsFile? = some path ∨ i.authorityFile = some path →
      t.read directory path = t'.read directory path)
    (others : ∀ name ∈ [Secret.internalAuthority, Secret.externalAuthority, Secret.clientIdentity],
      Mount.source t directory i.secretsDir name = Mount.source t' directory i.secretsDir name)
    (library : TlsLibrary) (passId : String) :
    (Surroundings.ofFiles env t directory library passId).DifferInPasswords i
      (.ofFiles env' t' directory library passId) where
  standIns := standIns
  logged := logged
  password := password
  settings path h := read path (.inl h)
  authority path h := read path (.inr h)
  secrets := ⟨others, Mount.source_parallel trees directory i.secretsDir Secret.administrator⟩
  library := rfl
  passId := rfl

/-! ### The words of a command line -/

section Words

variable {env env' : String → Option String}

/-- The environment is consulted for options only through what stands in for them. -/
theorem Given.consult_congr (h : ∀ f name, Flag.standIn? f = some name → env name = env' name)
    (l : Level) (g : Given) : g.consult env l = g.consult env' l := by
  have same (f : Flag) : f.standIn?.bind env = f.standIn?.bind env' :=
    Option.bind_congr fun name => h f name
  unfold consult
  simp only [same]

theorem Said.close_congr (h : ∀ f name, Flag.standIn? f = some name → env name = env' name)
    (l : Level) (opened : Bool) (s : Said) : s.close env l opened = s.close env' l opened := by
  unfold close
  simp only [Given.consult_congr h]

theorem Level.parse_congr (h : ∀ f name, Flag.standIn? f = some name → env name = env' name)
    (l : Level) (said : Said) (ws : List String) : l.parse env said ws = l.parse env' said ws := by
  induction ws generalizing l said with
  | nil => simp only [parse, Said.close_congr h]
  | cons w ws ih => simp only [parse, Said.close_congr h, ih]

/-- Of the environment, the words of a command line need the variables that stand in for
options. -/
theorem Invocation.ofWords_congr (h : ∀ f name, Flag.standIn? f = some name → env name = env' name)
    (words : List String) : ofWords env words = ofWords env' words := by
  rw [ofWords, Level.parse_congr h, ofWords]

end Words

/-! ### The connection -/

namespace Invocation

variable {i : Invocation} {w w' : Surroundings}

/-- Of all files, the settings of a connection need the one with the authorities. -/
theorem connectionSettings_congr
    (h : ∀ path, i.authorityFile = some path → w.readFile path = w'.readFile path) :
    i.connectionSettings w = i.connectionSettings w' := by
  have same : w.authority i.authorityFile = w'.authority i.authorityFile := by
    cases named : i.authorityFile with
    | none => rfl
    | some path => rw [Surroundings.authority, h path named, Surroundings.authority]
  rw [connectionSettings, same, connectionSettings]

/-- Both times there is a client of the endpoint, or the same failure, and the same is logged. -/
theorem connect_parallel (h : w.DifferInPasswords i w') :
    Parallel (fun c c' => i.endpoint = some c.endpoint ∧ c.endpoint = c'.endpoint)
      (i.connect w) (i.connect w') ∧ i.connectEvents w = i.connectEvents w' := by
  have same := connectionSettings_congr h.authority
  cases set : i.connectionSettings w with
  | error e =>
    rw [connect, connect, connectEvents, connectEvents, ← same, set]
    exact ⟨.error e, rfl⟩
  | ok s =>
    have sets := sets_iff.mpr set
    have material := Bootstrap.resolve_parallel w.library h.secrets s
    rw [connect_of_sets sets, connect_of_sets (sets_iff.mpr (same ▸ set)), connectEvents,
      connectEvents, ← same, set, ← h.library]
    refine ⟨(material.map fun _ _ _ => ⟨sets.endpoint, rfl⟩).mapError _, ?_⟩
    exact Bootstrap.connectEvents_congr w.library h.secrets {} s

end Invocation

/-! ### Jobs -/

/-- Two jobs differ at most in the password of the principals that they provision. -/
def Job.MayDiffer (j j' : Job) : Prop :=
  j = j' ∨ ∃ target p p', j = .provision target p ∧ j' = .provision target p'

theorem Surroundings.settings_congr {w w' : Surroundings} {file : Option String}
    (h : ∀ path, file = some path → w.readFile path = w'.readFile path) :
    w.settings file = w'.settings file := by
  cases file with
  | none => rfl
  | some path => rw [settings, h path rfl, settings]

/-- The same input is read, but for the password of the principals, or the same is wrong with it. -/
theorem Task.prepare_parallel {i : Invocation} {w w' : Surroundings}
    (h : w.DifferInPasswords i w') :
    Parallel Job.MayDiffer (i.task.prepare w) (i.task.prepare w') := by
  have equal (x : Except CommandError Job) : Parallel Job.MayDiffer x x :=
    .refl (fun _ => .inl rfl) x
  cases task : i.task with
  | applyPolicies path | planPolicies path =>
    have same : w.settings path = w'.settings path :=
      Surroundings.settings_congr fun name hn => h.settings name (by rw [task]; exact hn)
    simp only [prepare, same]
    exact equal _
  | listPrincipals | retract target => exact equal _
  | provision target name =>
    simp only [prepare, Surroundings.password]
    rcases h.password target name task with same | ⟨p, p', hp, hp', held, held'⟩
    · rw [same]
      exact equal _
    · rw [held, held']
      simp only [if_neg hp, if_neg hp']
      exact .ok (.inr ⟨target, p, p', rfl, rfl⟩)

namespace Job

variable {endpoint : Option Url} {x x' : Except CommandError Client}

/-- Clients of one endpoint do alike work alike, whichever they are. -/
theorem withClient_alike (setup : List Event)
    (clients : Parallel (fun c c' => endpoint = some c.endpoint ∧ c.endpoint = c'.endpoint) x x')
    {task task' : Client → Noted Answer}
    (alike : ∀ c c', c.endpoint = c'.endpoint →
      Exchange.Alike (some c.endpoint) (task c).heard (task' c').heard) :
    Exchange.Alike endpoint (withClient setup x task).heard (withClient setup x' task').heard := by
  refine .heard_noted _ ?_
  cases clients with
  | error e => exact .refl _
  | @ok c c' h =>
    obtain ⟨rfl, same⟩ := h
    exact alike c c' same

/-- Jobs that may differ are done alike, and the same is noted on the way. -/
theorem work_alike {j j' : Job} (jobs : j.MayDiffer j')
    (clients : Parallel (fun c c' => endpoint = some c.endpoint ∧ c.endpoint = c'.endpoint) x x')
    (form : OutputForm) (setup : List Event) :
    Exchange.Alike endpoint (j.work form setup x).heard (j'.work form setup x').heard := by
  have noting {c c' : Client} (same : c.endpoint = c'.endpoint) (q : AccessCall) :=
    (Client.askAccessNoting_alike same q).heard_mapNotes Note.logged
  rcases jobs with rfl | ⟨target, p, p', rfl, rfl⟩
  · cases j with
    | preview plan => exact .refl _
    | apply plan =>
      refine withClient_alike setup clients fun c c' same => .heard_andThen ?_ fun _ => .refl _
      exact (Exchange.Alike.interpret (Client.askPolicyNoting_alike same) _).heard_mapNotes _
    | list =>
      refine withClient_alike setup clients fun c c' same => .heard_andThen ?_ fun _ => .refl _
      exact (Exchange.Alike.interpret (Client.askAccessNoting_alike same) _).heard_mapNotes _
    | provision target password | retract target =>
      exact withClient_alike setup clients fun c c' same => .interpret (noting same) _
  · refine withClient_alike setup clients fun c c' same => .interpretAccess (noting same) ?_ ?_
    · exact fun name b b' roles =>
        (Client.askAccessNoting_putUser_alike same name roles).heard_mapNotes Note.logged
    · exact .takeEach "Provisioned" target.principals p p'

end Job

/-! ### A directory with passwords -/

namespace FileTree

/-- A directory with the administrator's secret and a file with an authority. -/
def ofAdministrator (password : String) (authority : Octets) : FileTree :=
  .directory
    [ (Secret.administrator, .directory [("admin", .file (Utf8.encode password))])
    , ("ca.pem", .file authority) ]

variable (password : String) (authority : Octets)

theorem wellFormed_ofAdministrator : (ofAdministrator password authority).WellFormed := by
  have user : IsEntryName Secret.administrator := by decide
  have file : IsEntryName "ca.pem" := by decide
  have key : IsEntryName "admin" := by decide
  refine .directory (List.forall_mem_cons.mpr ⟨user, List.forall_mem_singleton.mpr file⟩)
    (by simp [Secret.administrator]) ?_
  refine List.forall_mem_cons.mpr ⟨?_, List.forall_mem_singleton.mpr (.file _)⟩
  exact .directory (List.forall_mem_singleton.mpr key) (List.nodup_singleton _)
    (List.forall_mem_singleton.mpr (.file _))

/-- Of two such directories with the same authority, only the passwords differ. -/
theorem mayDiffer_ofAdministrator {p p' : String} (hp : p ≠ "") (hp' : p' ≠ "") :
    (ofAdministrator p authority).MayDiffer (ofAdministrator p' authority) := by
  refine .entry _ (.entry _ (.file (.inr ?_)) .empty) (.entry _ (.file (.inl rfl)) .empty)
  exact ⟨p, p', hp, hp', rfl, rfl⟩

theorem read_ofAdministrator :
    (ofAdministrator password authority).read "" "/ca.pem" = .ok authority := by
  have path : join "/" "ca.pem" = "/ca.pem" :=
    join_of_closed (endsWith_slash_iff.mpr rfl) (by decide)
  have found := resolve_of_root (wellFormed_ofAdministrator password authority)
    (List.mem_cons_of_mem _ (List.mem_singleton_self _)) nofun
  rw [path] at found
  rw [read, ofAdministrator, found]

theorem source_ofAdministrator :
    Mount.source (ofAdministrator password authority) "" "/" Secret.administrator
      = .ok (some (.ofList Secret.administrator [("admin", Utf8.encode password)])) := by
  have wf := wellFormed_ofAdministrator password authority
  have user : IsEntryName Secret.administrator := by decide
  have key : IsEntryName "admin" := by decide
  refine Mount.source_of_file wf (list_of_root wf List.mem_cons_self)
    (mt String.startsWith_string_iff.mp (by decide)) (user.isPath.below key ?_)
  have place : join "/" Secret.administrator = "/log-store-admin-user" :=
    join_of_closed (endsWith_slash_iff.mpr rfl) user.plain
  rw [place, join_of_open (by decide) (mt endsWith_slash_iff.mp (by decide)) key.plain]
  decide

/-- No other secret is there. -/
theorem source_ofAdministrator_of_ne {name : String} (named : IsEntryName name)
    (user : name ≠ Secret.administrator) (file : name ≠ "ca.pem") :
    Mount.source (ofAdministrator password authority) "" "/" name = .ok none := by
  refine Mount.source_of_absent (wellFormed_ofAdministrator password authority) (list_root _) named
    ?_ named.isPath
  simp [find?, user.symm, file.symm]

end FileTree

/-! ### Whole passes -/

/-- Surroundings that differ in nothing but passwords lead to alike exchanges, with the same
notes. -/
theorem Invocation.pass_alike {i : Invocation} {w w' : Surroundings}
    (h : w.DifferInPasswords i w') : Exchange.Alike i.endpoint (i.pass w) (i.pass w') := by
  have recorder : i.recorder w = i.recorder w' := by
    rw [Invocation.recorder, h.logged, Invocation.recorder]
  have span : i.span w = i.span w' := by
    rw [Invocation.span, h.passId, Invocation.span]
  have work : Exchange.Alike i.endpoint (i.work w).heard (i.work w').heard := by
    have prepared := Task.prepare_parallel h
    obtain ⟨clients, events⟩ := connect_parallel h
    unfold Invocation.work
    generalize i.task.prepare w = x, i.task.prepare w' = x' at prepared
    cases prepared with
    | error e => exact .refl _
    | ok jobs => exact events ▸ Job.work_alike jobs clients i.output (i.connectEvents w)
  unfold pass
  rw [recorder, span]
  exact work.andThen fun _ => .done _

/-- **Passwords are not seen.**  In surroundings that differ in nothing but passwords, the same
words are read as the same invocation, and with a server that is blind to who asks and to the
passwords of users, the invocation ends in the same way, with the same standard output, log
included, the same complaint and status, and sends the same requests but for those two.  Nor are
passwords in diagnostics. -/
theorem passwords_unseen {i : Invocation} {w w' : Surroundings} (differ : w.DifferInPasswords i w')
    {σ : Type} {answer : (q : Request) → σ → Answer q × σ} {Same : σ → σ → Prop}
    (blind : Blind i.endpoint answer Same) {s s' : σ} (same : Same s s') :
    let pass := ((i.pass w).run answer s).1
    let pass' := ((i.pass w').run answer s').1
    ((∀ words, Invocation.ofWords w.lookUp words = Invocation.ofWords w'.lookUp words) ∧
      pass.ending.exitStatus = pass'.ending.exitStatus ∧
      (∀ style, pass.stdout style = pass'.stdout style) ∧
      pass.ending.output = pass'.ending.output ∧
      pass.ending.complaint = pass'.ending.complaint ∧
      List.Forall₂ (Request.Alike i.endpoint) ((i.pass w).transcript answer s)
        ((i.pass w').transcript answer s')) ∧
    (∀ (p : Principal) password, (p.withPassword password).diagnostic = p.diagnostic) ∧
    (∀ (b : UserBody) password, { b with password }.diagnostic = b.diagnostic) ∧
    (∀ (c : Credentials) password, { c with password }.diagnostic = c.diagnostic) ∧
    (∀ (m : ConnectionMaterial) password,
      { m with credentials := { m.credentials with password } }.diagnostic = m.diagnostic) ∧
    (∀ secret secret' : Secret, secret.name = secret'.name →
      secret.toList.map Prod.fst = secret'.toList.map Prod.fst →
      secret.diagnostic = secret'.diagnostic) := by
  intro pass pass'
  obtain ⟨passes, requests⟩ := (Invocation.pass_alike differ).run blind same
  have passes : pass = pass' := passes
  refine ⟨⟨Invocation.ofWords_congr differ.standIns, ?_, fun style => ?_, ?_, ?_, requests⟩,
    fun _ _ => rfl, fun _ _ => rfl, fun _ _ => rfl, fun _ _ => rfl,
    fun secret secret' name keys => ?_⟩
  · rw [passes]
  · rw [passes]
  · rw [passes]
  · rw [passes]
  · rw [Secret.diagnostic, name, keys, Secret.diagnostic]

/-- The administrator and the principals have other passwords: the principals are provisioned by the
same four requests but for these. -/
theorem passwords_unseen_provision :
    let i : Invocation :=
      { task := .provision { cluster := "cluster" } "PASSWORD"
        endpoint := some { scheme := "http", host := some "store", path := .segments [""] }
        secretsDir := "/"
        authorityFile := some "/ca.pem" }
    let authority := Utf8.encode
      "-----BEGIN CERTIFICATE-----\nMBQwDQIBATAAMAAwADAAMAAwAAMBAA==\n-----END CERTIFICATE-----\n"
    let w (p q : String) : Surroundings :=
      .ofFiles (fun v => if v = "PASSWORD" then some q else none) (.ofAdministrator p authority) ""
        .rsa "1"
    let answer : (q : Request) → Unit → Answer q × Unit :=
      fun _ s => (.ok { status := 200, body := some [] }, s)
    (w "one" "two").DifferInPasswords i (w "three" "four") ∧
      ((i.pass (w "one" "two")).transcript answer ()).length = 4 ∧
      List.Forall₂ (Request.Alike i.endpoint) ((i.pass (w "one" "two")).transcript answer ())
        ((i.pass (w "three" "four")).transcript answer ()) := by
  intro i authority w answer
  have trees : (FileTree.ofAdministrator "one" authority).MayDiffer
      (.ofAdministrator "three" authority) :=
    FileTree.mayDiffer_ofAdministrator authority (by decide) (by decide)
  have differ : (w "one" "two").DifferInPasswords i (w "three" "four") := by
    refine .ofFiles trees ?_ ?_ ?_ ?_ ?_ .rsa "1"
    · intro f name h
      cases f <;> cases h <;> rfl
    · rfl
    · rintro target name h
      cases h
      exact .inr ⟨"two", "four", by decide, by decide, rfl, rfl⟩
    · rintro path (h | h)
      · cases h
      · cases h
        rw [FileTree.read_ofAdministrator, FileTree.read_ofAdministrator]
    · intro name mem
      have named : FileTree.IsEntryName name ∧ name ≠ Secret.administrator ∧ name ≠ "ca.pem" := by
        revert name
        refine List.forall_mem_cons.mpr ⟨by decide, List.forall_mem_cons.mpr ⟨by decide, ?_⟩⟩
        exact List.forall_mem_singleton.mpr (by decide)
      obtain ⟨named, user, file⟩ := named
      exact (FileTree.source_ofAdministrator_of_ne "one" authority named user file).trans
        (FileTree.source_ofAdministrator_of_ne "three" authority named user file).symm
  have blind : Blind i.endpoint answer (· = ·) := fun _ _ _ _ _ same => ⟨rfl, same⟩
  refine ⟨differ, ?_, (passwords_unseen differ blind rfl).1.2.2.2.2.2⟩
  let endpoint : Url := { scheme := "http", host := some "store", path := .segments [""] }
  let settings : ConnectionSettings :=
    { endpoint, authority := some authority, timeout := some (i.timeout.toNat * 1000) }
  have sets : i.Sets (w "one" "two") settings :=
    ⟨rfl, rfl, ⟨authority, FileTree.read_ofAdministrator "one" authority, rfl⟩, rfl⟩
  -- no other secret is asked for, so they may as well be given in a list
  have listed : Bootstrap.Agree settings ((w "one" "two").secretsIn i.secretsDir)
      (.ofList [.ofList Secret.administrator [("admin", Utf8.encode "one")]]) :=
    ⟨FileTree.source_ofAdministrator "one" authority, nofun, nofun⟩
  have connected :
      i.connect (w "one" "two") = .ok { endpoint, credentials := ⟨"admin", "one"⟩ } := by
    rw [Invocation.connect_of_sets sets, Bootstrap.resolve_congr listed]
    rfl
  rw [← Invocation.transcript_pass, Invocation.run_eq, connected]
  rfl

end LogSteward
