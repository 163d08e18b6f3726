import LogSteward.Proofs.Command.Calls
import LogSteward.Proofs.Connection.Building
import LogSteward.Tls.Acceptance

/-!
# The first fault of an invocation

An invocation goes through five phases: it reads its own input, sees where the store is, reads the
authorities it was given, sets up the material of a connection, and then does its work with the
store.  What can go wrong in each of them, and with which status the program is then to end, is said
of the surroundings and of what the store answers alone (`Fault`).

The first phase in which something goes wrong decides the status, and only the last one sends
requests (`first_fault_decides`).  A task that ends in a report prints nothing if it fails; standard
output is not empty then all the same, because the log is written there (`failed_plan_is_logged`).
-/

namespace LogSteward

open Rest

/-- The task does its work with the store. -/
def Task.Connects : Task → Prop
  | .planPolicies _ => False
  | .applyPolicies _ | .listPrincipals | .provision _ _ | .retract _ => True

/-- The task prints one report or nothing. -/
def Task.Reports : Task → Prop
  | .applyPolicies _ | .planPolicies _ | .listPrincipals => True
  | .provision _ _ | .retract _ => False

/-- The file with the settings that the task reads. -/
def Task.settingsFile? : Task → Option String
  | .applyPolicies path | .planPolicies path => path
  | .listPrincipals | .provision _ _ | .retract _ => none

theorem Ending.exitStatus_of_failure {e : Ending} (h : e.failure = none) : e.exitStatus = 0 := by
  rw [exitStatus, h]
  rfl

/-- What fails at the store ends with status three. -/
theorem Ending.IsRemote.exitStatus {e : Ending} (h : e.IsRemote) : e.exitStatus = 3 := by
  obtain ⟨f, hf, op, name, source, rfl⟩ := h
  rw [Ending.exitStatus, hf]
  rfl

namespace Job

variable {σ : Type}

/-- A call to the store that is part of the job fails, with a party that answers requests from the
state `s`. -/
def CallFails (client : Client) (answer : (q : Request) → σ → Answer q × σ) (s : σ) : Job → Prop
  | preview _ => False
  | apply plan => ∃ t ∈ plan.reconcile.turns (fun q s => (client.askPolicy q).run answer s) s,
      PolicyCall.Failed t
  | list => ∃ t ∈ Principal.listAll.turns (fun q s => (client.askAccess q).run answer s) s,
      AccessCall.Failed t
  | provision target password =>
      ∃ t ∈ (target.provision password).turns (fun q s => (client.askAccess q).run answer s) s,
        AccessCall.Failed t
  | retract target =>
      ∃ t ∈ target.retraction.turns (fun q s => (client.askAccess q).run answer s) s,
        AccessCall.Failed t

/-- With a client a job fails as a failure of the store if a call fails, and succeeds otherwise. -/
theorem run_perform (form : OutputForm) (client : Client) (job : Job)
    (answer : (q : Request) → σ → Answer q × σ) (s : σ) :
    let ending := ((job.perform form (.ok client)).run answer s).1
    job.CallFails client answer s ∧ ending.exitStatus = 3 ∨
      ¬ job.CallFails client answer s ∧ ending.exitStatus = 0 := by
  intro ending
  cases job with
  | preview plan => exact .inr ⟨id, by simp only [ending, perform_preview]; rfl⟩
  | apply plan =>
    simp only [ending, perform_apply, Client.overPolicies, Dialogue.run_andThen]
    refine ((stops_reconcileEntries plan.entries).run_interpret client.askPolicy answer s).imp
      (And.imp_right ?_) (And.imp_right ?_)
    · rintro ⟨e, he⟩
      rw [Plan.reconcile, he]
      rfl
    · rintro ⟨os, ho⟩
      rw [Plan.reconcile, ho]
      rfl
  | list =>
    simp only [ending, perform_list, Client.overAccess, Dialogue.run_andThen]
    refine (stops_listAll.run_interpret client.askAccess answer s).imp
      (And.imp_right ?_) (And.imp_right ?_)
    · rintro ⟨e, he, op, name, source, rfl⟩
      rw [he]
      rfl
    · rintro ⟨ps, hp⟩
      rw [hp]
      rfl
  | provision target password =>
    simp only [ending, perform_provision]
    exact ((target.stops_provision password).run_interpret client.askAccess answer s).imp
      (And.imp_right Ending.IsRemote.exitStatus) (And.imp_right Ending.exitStatus_of_failure)
  | retract target =>
    simp only [ending, perform_retract]
    exact (target.stops_retraction.run_interpret client.askAccess answer s).imp
      (And.imp_right Ending.IsRemote.exitStatus) (And.imp_right Ending.exitStatus_of_failure)

end Job

namespace Invocation

/-- The settings of the connection are what the invocation says, and the authorities are those in
its file. -/
structure Sets (i : Invocation) (w : Surroundings) (c : ConnectionSettings) : Prop where
  endpoint : i.endpoint = some c.endpoint
  external : c.external = i.external
  authority : match i.authorityFile with
    | none => c.authority = none
    | some path => ∃ content, w.readFile path = .ok content ∧ c.authority = some content
  timeout : c.timeout = some (i.timeout.toNat * 1000)

/-- The phases of an invocation. -/
inductive Phase where
  | input
  | endpoint
  | authority
  | material
  | work
deriving DecidableEq

/-- The phases that come before another one. -/
def Phase.earlier : Phase → List Phase
  | input => []
  | endpoint => [input]
  | authority => [input, endpoint]
  | material => [input, endpoint, authority]
  | work => [input, endpoint, authority, material]

/-- What goes wrong in a phase, and the status that this calls for. -/
inductive Fault {σ : Type} (i : Invocation) (w : Surroundings)
    (answer : (q : Request) → σ → Answer q × σ) (s : σ) : Phase → UInt8 → Prop where
  | settingsUnreadable {path : String} {e : FileError} (named : i.task.settingsFile? = some path)
      (read : w.readFile path = .error e) : Fault i w answer s .input 3
  | settingsNotText {path : String} {content : Octets} (named : i.task.settingsFile? = some path)
      (read : w.readFile path = .ok content) (coded : ∀ text, content ≠ Utf8.encode text) :
      Fault i w answer s .input 3
  | settingsInvalid {path : String} {text : String} {fault : Json.Fault}
      (named : i.task.settingsFile? = some path)
      (read : w.readFile path = .ok (Utf8.encode text))
      (decoded : StorageSettings.decode text = .error fault) : Fault i w answer s .input 2
  | noPassword {target : Target} {name : String} (task : i.task = .provision target name)
      (held : w.lookUp name = none ∨ w.lookUp name = some "") : Fault i w answer s .input 2
  | noEndpoint (connects : i.task.Connects) (unset : i.endpoint = none) :
      Fault i w answer s .endpoint 2
  | authorityUnreadable {path : String} {e : FileError} (connects : i.task.Connects)
      (named : i.authorityFile = some path) (read : w.readFile path = .error e) :
      Fault i w answer s .authority 2
  | waiting {c : ConnectionSettings} {secret : String} (connects : i.task.Connects)
      (sets : i.Sets w c)
      (ends : Bootstrap.resolve w.library (w.secretsIn i.secretsDir) c = .error (.waiting secret)) :
      Fault i w answer s .material 4
  | wrong {c : ConnectionSettings} {secret : String} {reason : ConfigReason}
      (connects : i.task.Connects) (sets : i.Sets w c)
      (ends : Bootstrap.resolve w.library (w.secretsIn i.secretsDir) c
        = .error (.config secret reason)) :
      Fault i w answer s .material 2
  | unreadable {c : ConnectionSettings} {secret : String} {f : ReadFailure}
      (connects : i.task.Connects) (sets : i.Sets w c)
      (ends : Bootstrap.resolve w.library (w.secretsIn i.secretsDir) c
        = .error (.unreadable secret f)) :
      Fault i w answer s .material 3
  | remote {job : Job} {client : Client} (prepared : i.task.prepare w = .ok job)
      (connected : i.connect w = .ok client) (fails : job.CallFails client answer s) :
      Fault i w answer s .work 3

section Phases

variable {i : Invocation} {w : Surroundings} {σ : Type}
  {answer : (q : Request) → σ → Answer q × σ} {s : σ} {status : UInt8}

/-! ### The input -/

/-- What is wrong with the file of settings that is named. -/
theorem fault_settings_iff {path : Option String} (reads : i.task.settingsFile? = path)
    (task : ∀ target name, i.task ≠ .provision target name) :
    i.Fault w answer s .input status ↔ ∃ e, w.settings path = .error e ∧ e.exitStatus = status := by
  constructor
  · intro fault
    cases fault with
    | settingsUnreadable named read =>
      rw [← reads, named, Surroundings.settings]
      simp only [read]
      exact ⟨_, rfl, rfl⟩
    | @settingsNotText _ content named read coded =>
      have undecoded : Utf8.decode? content = none :=
        Option.eq_none_iff_forall_ne_some.mpr fun text h =>
          coded text (Utf8.decode?_eq_some_iff.mp h)
      rw [← reads, named, Surroundings.settings]
      simp only [read, undecoded]
      exact ⟨_, rfl, rfl⟩
    | settingsInvalid named read decoded =>
      rw [← reads, named, Surroundings.settings]
      simp only [read, Utf8.decode?_encode, decoded]
      exact ⟨_, rfl, rfl⟩
    | noPassword provision held => exact absurd provision (task _ _)
  · rintro ⟨e, h, rfl⟩
    unfold Surroundings.settings at h
    split at h
    · cases h
    · split at h
      · next read =>
        cases h
        exact .settingsUnreadable reads read
      · next read =>
        split at h
        · next undecoded =>
          cases h
          refine .settingsNotText reads read fun text coded => ?_
          rw [coded, Utf8.decode?_encode] at undecoded
          cases undecoded
        · next text decoded =>
          rw [Utf8.decode?_eq_some_iff.mp decoded] at read
          cases invalid : StorageSettings.decode text with
          | ok s => rw [invalid] at h; cases h
          | error fault =>
            rw [invalid] at h
            cases h
            exact .settingsInvalid reads read invalid

/-- The input of a provision is at fault exactly if no password can be had from its variable. -/
theorem fault_password_iff {target : Target} {name : String}
    (task : i.task = .provision target name) :
    i.Fault w answer s .input status ↔ ∃ e, w.password name = .error e ∧ e.exitStatus = status := by
  have unread : i.task.settingsFile? = none := by rw [task]; rfl
  constructor
  · intro fault
    cases fault with
    | settingsUnreadable named => cases unread.symm.trans named
    | settingsNotText named => cases unread.symm.trans named
    | settingsInvalid named => cases unread.symm.trans named
    | noPassword task' held =>
      cases task.symm.trans task'
      rw [Surroundings.password]
      rcases held with unset | empty
      · simp only [unset]
        exact ⟨_, rfl, rfl⟩
      · simp only [empty]
        exact ⟨_, rfl, rfl⟩
  · rintro ⟨e, h, rfl⟩
    unfold Surroundings.password at h
    split at h
    · next unset =>
      cases h
      exact .noPassword task (.inl unset)
    · next p held =>
      split at h
      · next empty =>
        cases h
        exact .noPassword task (.inr (empty ▸ held))
      · cases h

/-- The input is at fault if it cannot be read, and with the status of that failure. -/
theorem fault_input_iff : i.Fault w answer s .input status ↔
    ∃ e, i.task.prepare w = .error e ∧ e.exitStatus = status := by
  cases task : i.task with
  | applyPolicies path =>
    simp only [Task.prepare, map_eq_error_iff]
    exact fault_settings_iff (by rw [task]; rfl) (by simp [task])
  | planPolicies path =>
    simp only [Task.prepare, map_eq_error_iff]
    exact fault_settings_iff (by rw [task]; rfl) (by simp [task])
  | provision target name =>
    simp only [Task.prepare, map_eq_error_iff]
    exact fault_password_iff task
  | listPrincipals | retract target =>
    have unread : i.task.settingsFile? = none := by rw [task]; rfl
    rw [fault_settings_iff unread (by simp [task])]
    exact iff_of_false (fun ⟨_, h, _⟩ => nomatch h) (fun ⟨_, h, _⟩ => nomatch h)

/-- Input without a fault can be read. -/
theorem exists_prepared (clear : ∀ c, ¬ i.Fault w answer s .input c) :
    ∃ job, i.task.prepare w = .ok job := by
  cases h : i.task.prepare w with
  | ok job => exact ⟨job, rfl⟩
  | error e => exact absurd (fault_input_iff.mpr ⟨e, h, rfl⟩) (clear _)

/-- Only a plan is shown without the store. -/
theorem connects_iff {job : Job} (prepared : i.task.prepare w = .ok job) :
    i.task.Connects ↔ ∀ plan, job ≠ .preview plan := by
  cases task : i.task with
  | planPolicies path =>
    rw [task] at prepared
    obtain ⟨settings, -, rfl⟩ := map_eq_ok_iff.mp prepared
    exact iff_of_false id fun works => works _ rfl
  | applyPolicies path | provision target name =>
    rw [task] at prepared
    obtain ⟨_, -, rfl⟩ := map_eq_ok_iff.mp prepared
    exact iff_of_true trivial fun _ => nofun
  | listPrincipals | retract target =>
    rw [task] at prepared
    cases prepared
    exact iff_of_true trivial fun _ => nofun

/-! ### The connection -/

/-- Without a file there are no authorities; with one, they are its content. -/
theorem authority_eq_ok_iff {file : Option String} {authority : Option Octets} :
    w.authority file = .ok authority ↔ match file with
      | none => authority = none
      | some path => ∃ content, w.readFile path = .ok content ∧ authority = some content := by
  cases file with
  | none => exact ⟨fun h => (Except.ok.inj h).symm, fun h => congrArg Except.ok h.symm⟩
  | some path =>
    cases read : w.readFile path with
    | error e => simp [Surroundings.authority, read]
    | ok content => simp [Surroundings.authority, read, eq_comm]

/-- The settings of the connection are what the invocation says and the named file holds. -/
theorem sets_iff {c : ConnectionSettings} : i.Sets w c ↔ i.connectionSettings w = .ok c := by
  rw [connectionSettings]
  cases set : i.endpoint with
  | none => exact iff_of_false (fun sets => nomatch set.symm.trans sets.endpoint) nofun
  | some endpoint =>
    simp only [map_eq_ok_iff, authority_eq_ok_iff]
    obtain ⟨endpoint', external, authority, timeout⟩ := c
    constructor
    · rintro ⟨he, rfl, ha, rfl⟩
      cases set.symm.trans he
      exact ⟨authority, ha, rfl⟩
    · rintro ⟨authority', ha, h⟩
      cases h
      exact ⟨set, rfl, ha, rfl⟩

/-- A connection fails where its material does. -/
theorem connect_of_sets {c : ConnectionSettings} (sets : i.Sets w c) : i.connect w =
    ((Bootstrap.resolve w.library (w.secretsIn i.secretsDir) c).map fun m =>
      { endpoint := c.endpoint, credentials := m.credentials }).mapError .connection := by
  rw [connect, sets_iff.mp sets, ← Bootstrap.connect_eq]
  rfl

/-- The client is one of the endpoint that was given. -/
theorem endpoint_of_connect {c : Client} (connected : i.connect w = .ok c) :
    i.endpoint = some c.endpoint := by
  obtain ⟨settings, set, -⟩ := bind_eq_ok_iff.mp connected
  have sets := sets_iff.mpr set
  rw [connect_of_sets sets] at connected
  cases resolved : Bootstrap.resolve w.library (w.secretsIn i.secretsDir) settings with
  | error e =>
    rw [resolved] at connected
    cases connected
  | ok m =>
    rw [resolved] at connected
    cases connected
    exact sets.endpoint

/-- The material is at fault if it cannot be resolved. -/
theorem fault_material_iff : i.Fault w answer s .material status ↔
    i.task.Connects ∧ ∃ c e, i.Sets w c ∧
      Bootstrap.resolve w.library (w.secretsIn i.secretsDir) c = .error e ∧
      (CommandError.connection e).exitStatus = status := by
  constructor
  · intro fault
    cases fault with
    | waiting connects sets ends | wrong connects sets ends | unreadable connects sets ends =>
      exact ⟨connects, _, _, sets, ends, rfl⟩
  · rintro ⟨connects, c, e, sets, ends, rfl⟩
    obtain ⟨part, -, verdict⟩ := Bootstrap.verdict_of_resolve ends
    cases verdict with
    | unreadable => exact .unreadable connects sets ends
    | waiting => exact .waiting connects sets ends
    | missing | wrong | given => exact .wrong connects sets ends

/-- Where nothing goes wrong on the way, there is a connection. -/
theorem exists_connected (connects : i.task.Connects)
    (clear : ∀ phase c, ¬ i.Fault w answer s phase c) : ∃ client, i.connect w = .ok client := by
  cases set : i.endpoint with
  | none => exact absurd (.noEndpoint connects set) (clear .endpoint 2)
  | some endpoint =>
    cases given : w.authority i.authorityFile with
    | error e =>
      cases named : i.authorityFile with
      | none => rw [named] at given; cases given
      | some path =>
        cases read : w.readFile path with
        | error cause =>
          exact absurd (.authorityUnreadable connects named read) (clear .authority 2)
        | ok content => simp [Surroundings.authority, named, read] at given
    | ok authority =>
      have sets : i.Sets w _ := sets_iff.mpr <| by
        rw [connectionSettings, set]
        simp only [given]
        rfl
      rw [connect_of_sets sets]
      cases ends : Bootstrap.resolve w.library (w.secretsIn i.secretsDir) _ with
      | error e =>
        exact absurd (fault_material_iff.mpr ⟨connects, _, e, sets, ends, rfl⟩) (clear _ _)
      | ok m => exact ⟨_, rfl⟩

/-- Without a connection nothing is done. -/
theorem run_unconnected {e : CommandError} (connects : i.task.Connects)
    (clear : ∀ c, ¬ i.Fault w answer s .input c) (h : i.connect w = .error e) :
    i.run w = .done (.failed e) := by
  obtain ⟨job, prepared⟩ := exists_prepared clear
  rw [run_eq, prepared, h]
  exact Job.perform_error ((connects_iff prepared).mp connects) i.output e

/-- Before the work starts, the first fault ends the run, and nothing has been done. -/
theorem Fault.ends {phase : Phase} (fault : i.Fault w answer s phase status)
    (first : ∀ p ∈ phase.earlier, ∀ c, ¬ i.Fault w answer s p c) (before : phase ≠ .work) :
    ∃ e, i.run w = .done (.failed e) ∧ e.exitStatus = status := by
  cases phase with
  | input =>
    obtain ⟨e, h, rfl⟩ := fault_input_iff.mp fault
    exact ⟨e, by rw [run_eq, h], rfl⟩
  | endpoint =>
    have clear := first .input (by decide)
    cases fault with
    | noEndpoint connects unset =>
      refine ⟨.noEndpoint, run_unconnected connects clear ?_, rfl⟩
      rw [connect, connectionSettings, unset]
      rfl
  | authority =>
    have clear := first .input (by decide)
    cases fault with
    | @authorityUnreadable path cause connects named read =>
      cases set : i.endpoint with
      | none => exact absurd (.noEndpoint connects set) (first .endpoint (by decide) _)
      | some endpoint =>
        refine ⟨.authorityUnreadable path cause, run_unconnected connects clear ?_, rfl⟩
        rw [connect, connectionSettings, set]
        simp only [Surroundings.authority, named, read]
        rfl
  | material =>
    have clear := first .input (by decide)
    obtain ⟨connects, c, e, sets, ends, rfl⟩ := fault_material_iff.mp fault
    refine ⟨.connection e, run_unconnected connects clear ?_, rfl⟩
    rw [connect_of_sets sets, ends]
    rfl
  | work => exact absurd rfl before

/-- A task that does not confirm what it does prints nothing but the report in which it ends. -/
theorem exists_report (reports : i.task.Reports) (answer : (q : Request) → σ → Answer q × σ)
    (s : σ) : ∃ r, ((i.run w).run answer s).1 = .ofReport i.output r := by
  have failed (e : CommandError) : ∃ r, Ending.failed e = .ofReport i.output r := ⟨.error e, rfl⟩
  rw [run_eq]
  cases task : i.task with
  | planPolicies path =>
    rw [Task.prepare]
    cases w.settings path with
    | error e => exact failed e
    | ok settings =>
      simp only [Except.map, Job.perform_preview]
      exact ⟨.ok (.ofPlan (Plan.ofSettings settings)), rfl⟩
  | applyPolicies path =>
    rw [Task.prepare]
    cases w.settings path with
    | error e => exact failed e
    | ok settings =>
      cases i.connect w with
      | error e => exact failed e
      | ok client =>
        simp only [Except.map, Job.perform_apply, Dialogue.run_andThen]
        exact ⟨_, rfl⟩
  | listPrincipals =>
    cases i.connect w with
    | error e => exact failed e
    | ok client =>
      simp only [Task.prepare, Job.perform_list, Dialogue.run_andThen]
      exact ⟨_, rfl⟩
  | provision target name | retract target =>
    rw [task] at reports
    exact reports.elim

/-! ### The first fault -/

theorem Phase.mem_earlier_work {phase : Phase} (h : phase ≠ .work) : phase ∈ work.earlier := by
  cases phase with
  | input | endpoint | authority | material => decide
  | work => exact absurd rfl h

/-- Of phases with a property there is a first one. -/
theorem Phase.exists_first {P : Phase → Prop} (h : ∃ phase, P phase) :
    ∃ phase, P phase ∧ ∀ p ∈ phase.earlier, ¬ P p := by
  by_contra none
  simp only [not_exists, not_and] at none
  have input : ¬ P .input := fun h => none _ h nofun
  have endpoint : ¬ P .endpoint := fun h => none _ h (by simp [earlier, input])
  have authority : ¬ P .authority := fun h => none _ h (by simp [earlier, input, endpoint])
  have material : ¬ P .material := fun h =>
    none _ h (by simp [earlier, input, endpoint, authority])
  have work : ¬ P .work := fun h =>
    none _ h (by simp [earlier, input, endpoint, authority, material])
  obtain ⟨phase, h⟩ := h
  cases phase <;> contradiction

/-- The first fault decides the status. -/
theorem Fault.exitStatus {phase : Phase} (fault : i.Fault w answer s phase status)
    (first : ∀ p ∈ phase.earlier, ∀ c, ¬ i.Fault w answer s p c) :
    ((i.run w).run answer s).1.exitStatus = status := by
  by_cases before : phase = .work
  · subst before
    cases fault with
    | @remote job client prepared connected fails =>
      rw [run_eq, prepared, connected]
      rcases job.run_perform i.output client answer s with ⟨-, ends⟩ | ⟨clear, -⟩
      · exact ends
      · exact absurd fails clear
  · obtain ⟨e, ends, rfl⟩ := fault.ends first before
    rw [ends]
    rfl

theorem Fault.status_ne_zero {phase : Phase} (fault : i.Fault w answer s phase status) :
    status ≠ 0 := by
  cases fault <;> decide

/-- Without a fault everything is done. -/
theorem exitStatus_of_no_fault (clear : ∀ phase c, ¬ i.Fault w answer s phase c) :
    ((i.run w).run answer s).1.exitStatus = 0 := by
  obtain ⟨job, prepared⟩ := exists_prepared (clear .input)
  rw [run_eq, prepared]
  by_cases connects : i.task.Connects
  · obtain ⟨client, connected⟩ := exists_connected connects clear
    rw [connected]
    rcases job.run_perform i.output client answer s with ⟨fails, -⟩ | ⟨-, ends⟩
    · exact absurd (.remote prepared connected fails) (clear .work 3)
    · exact ends
  · obtain ⟨plan, rfl⟩ : ∃ plan, job = .preview plan := by
      by_contra works
      exact connects ((connects_iff prepared).mpr fun plan h => works ⟨plan, h⟩)
    simp only [Job.perform_preview]
    rfl

/-- A task that does not confirm what it does prints nothing if it fails. -/
theorem output_of_failure (reports : i.task.Reports)
    (failed : ((i.run w).run answer s).1.exitStatus ≠ 0) :
    ((i.run w).run answer s).1.output = "" := by
  obtain ⟨r, hr⟩ := exists_report (w := w) reports answer s
  rw [hr] at failed ⊢
  cases r with
  | error e => rfl
  | ok r => exact absurd rfl failed

/-- **The first fault decides.**  An invocation ends with the status of the first phase in which
something goes wrong, and with status zero exactly if nothing does.  Requests are sent only if
nothing has gone wrong before the work, and never to show a plan.  A task that does not confirm what
it does prints nothing of its own if it fails: what stands on standard output then are lines of the
log. -/
theorem first_fault_decides (i : Invocation) (w : Surroundings) {σ : Type}
    (answer : (q : Request) → σ → Answer q × σ) (s : σ) :
    let pass := ((i.pass w).run answer s).1
    let requests := (i.pass w).transcript answer s
    (∀ phase status, i.Fault w answer s phase status →
      (∀ p ∈ phase.earlier, ∀ c, ¬ i.Fault w answer s p c) → pass.ending.exitStatus = status) ∧
    (pass.ending.exitStatus = 0 ↔ ∀ phase status, ¬ i.Fault w answer s phase status) ∧
    ((∃ phase status, phase ≠ .work ∧ i.Fault w answer s phase status) → requests = []) ∧
    ((∃ path, i.task = .planPolicies path) → requests = []) ∧
    (i.task.Reports → pass.ending.exitStatus ≠ 0 → pass.ending.output = "" ∧
      ∀ style, ∃ lines, pass.stdout style = String.join lines ∧
        ∀ line ∈ lines, pass.IsLine style line) := by
  intro pass requests
  have ending : ((i.run w).run answer s).1 = pass.ending :=
    congrArg Prod.fst (i.run_pass w answer s)
  have sent : (i.run w).transcript answer s = requests := i.transcript_pass w answer s
  rw [← ending, ← sent]
  refine ⟨fun phase status fault first => fault.exitStatus first, ⟨?_, exitStatus_of_no_fault⟩,
    ?_, ?_, ?_⟩
  · -- of several faults, the first one has decided
    intro zero phase status fault
    obtain ⟨phase, ⟨status, fault⟩, first⟩ :=
      Phase.exists_first (P := fun p => ∃ c, i.Fault w answer s p c) ⟨phase, status, fault⟩
    refine fault.status_ne_zero ?_
    rw [← fault.exitStatus fun p mem c fc => first p mem ⟨c, fc⟩]
    exact zero
  · rintro ⟨phase, status, before, fault⟩
    obtain ⟨phase', ⟨status, fault'⟩, first⟩ :=
      Phase.exists_first (P := fun p => ∃ c, i.Fault w answer s p c) ⟨phase, status, fault⟩
    have before' : phase' ≠ .work := by
      rintro rfl
      exact first phase (Phase.mem_earlier_work before) ⟨_, fault⟩
    obtain ⟨e, ends, -⟩ := fault'.ends (fun p mem c fc => first p mem ⟨c, fc⟩) before'
    rw [ends]
    rfl
  · rintro ⟨path, task⟩
    rw [run_eq, task, Task.prepare]
    cases w.settings path with
    | error e => rfl
    | ok settings =>
      simp only [Except.map, Job.perform_preview]
      rfl
  · intro reports failed
    have unprinted := output_of_failure reports failed
    exact ⟨unprinted, Pass.stdout_of_unprinted (ending ▸ unprinted)⟩

end Phases

/-- Settings that cannot be read are reported though the endpoint is missing too. -/
theorem first_fault_decides_unreadable :
    let i : Invocation := { task := .applyPolicies (some "settings.json") }
    let w : Surroundings :=
      { lookUp := fun _ => none, readFile := fun _ => .error .notFound
        secretsIn := fun _ _ => .ok none, library := .rsa, passId := "pass" }
    let answer : (q : Request) → Unit → Answer q × Unit := fun _ s => (.error "", s)
    let pass := ((i.pass w).run answer ()).1
    i.Fault w answer () .input 3 ∧ i.Fault w answer () .endpoint 2 ∧
      pass.ending.exitStatus = 3 ∧ (i.pass w).transcript answer () = [] ∧
      ∀ style, ∃ lines, pass.stdout style = String.join lines ∧
        ∀ line ∈ lines, pass.IsLine style line := by
  intro i w answer pass
  have input : i.Fault w answer () .input 3 := .settingsUnreadable rfl rfl
  obtain ⟨first, -, quiet, -, printed⟩ := first_fault_decides i w answer ()
  have status : pass.ending.exitStatus = 3 := first _ _ input nofun
  refine ⟨input, .noEndpoint trivial rfl, status, quiet ⟨.input, 3, by decide, input⟩, ?_⟩
  exact (printed trivial (by rw [status]; decide)).2

/-- A plan that cannot be shown leaves something on standard output nevertheless: the log says there
that the pass has failed. -/
theorem failed_plan_is_logged :
    let i : Invocation := { task := .planPolicies (some "settings.json") }
    let w : Surroundings :=
      { lookUp := fun _ => none, readFile := fun _ => .error .notFound
        secretsIn := fun _ _ => .ok none, library := .rsa, passId := "pass" }
    let answer : (q : Request) → Unit → Answer q × Unit := fun _ s => (.error "", s)
    let pass := ((i.pass w).run answer ()).1
    i.task.Reports ∧ pass.ending.exitStatus = 3 ∧ ∀ style, pass.stdout style ≠ "" := by
  intro i w answer pass
  have default : pass.recorder = .own .pretty [{ level := .info }] :=
    congrArg (Recorder.own .pretty) EventFilter.ofTextLossy_default
  exact ⟨trivial, rfl, Pass.stdout_ne_empty default⟩

end Invocation

end LogSteward
