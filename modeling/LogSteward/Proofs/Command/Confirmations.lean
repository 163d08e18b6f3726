import LogSteward.Proofs.Access.Format
import LogSteward.Proofs.Access.Targets
import LogSteward.Proofs.Command.Faults
import LogSteward.Proofs.Rest.Requests
import LogSteward.Tls.Acceptance

/-!
# Confirmations

To provision the principals of a target, or to retract them, is to make four calls in order
(`Target.due`), of which the second and the last complete a principal and are confirmed.  A run that
makes calls in order and confirms those that complete something (`confirmCalls`) ends at the first
call that is not carried out.  How it may go with a server is the inductive relation `ConfirmedRun`,
and that every run goes in this way is proved once (`ConfirmedRun.of_run`).

What such a run prints, its status and its complaint then follow by induction on the relation: they
say exactly what has been done (`Faithful`).  What is sent for a user on the way is the password and
the one role that is the user's own (`Target.body_of_due`).
-/

namespace LogSteward

open Dialogue Rest

/-! ### Requests that were carried out -/

namespace Rest

/-- Whether a request was carried out, as the answer to it says. -/
def isCarriedOut : Except String Reply → Bool
  | .ok r => r.isSuccess
  | .error _ => false

variable {op : Operation} {name : String} {a : Except String Reply}

/-- The reply to a request that was carried out is taken, and any other answer is a failure. -/
theorem judge_cases (op : Operation) (name : String) (a : Except String Reply) :
    isCarriedOut a = true ∧ (∃ r, judge op name a = .ok r) ∨
      isCarriedOut a = false ∧ ∃ e, judge op name a = .error e := by
  cases judged : judge op name a with
  | ok r =>
    obtain ⟨rfl, success⟩ := judge_ok judged
    exact .inl ⟨success, r, rfl⟩
  | error e =>
    refine .inr ⟨?_, e, rfl⟩
    cases a with
    | error reason => rfl
    | ok r =>
      by_contra carried
      rw [judge_success (Bool.not_eq_false _ ▸ carried)] at judged
      cases judged

end Rest

/-! ### Calls that are confirmed -/

/-- What is printed once a call has been carried out: the line for the principal that it
completes. -/
def AccessCall.confirmation? : AccessCall → Option String
  | putUser name _ => some ("Provisioned " ++ name ++ ".\n")
  | deleteUser name => some ("Retracted " ++ name ++ ".\n")
  | putRole _ _ | deleteRole _ | listUsers => none

/-- Makes calls in order, confirms those that complete a principal, and gives up at the first that
fails. -/
def confirmCalls : List AccessCall → AccessDialogue Ending
  | [] => .done {}
  | c :: cs =>
    c.made.andThen fun
      | .error e => .done (.failed (.access e))
      | .ok () => (confirmCalls cs).andThen fun e => .done (e.after (c.confirmation?.getD ""))

/-- A principal that is completed by its second call is confirmed after it. -/
theorem confirmEach_eq {verb : String} {act : Principal → AccessDialogue (Except AccessError Unit)}
    {calls : Principal → List AccessCall} {ps : List Principal}
    (completes : ∀ p ∈ ps, ∃ role user, calls p = [role, user] ∧
      act p = inTurn [role, user] (.ok ()) ∧ role.confirmation? = none ∧
      user.confirmation? = some (verb ++ " " ++ p.username ++ ".\n")) :
    confirmEach verb act ps = confirmCalls (ps.flatMap calls) := by
  induction ps with
  | nil => rfl
  | cons p ps ih =>
    obtain ⟨completed, others⟩ := List.forall_mem_cons.mp completes
    obtain ⟨role, user, called, acts, silent, confirmed⟩ := completed
    rw [confirmEach, acts, List.flatMap_cons, called, List.cons_append, List.singleton_append,
      confirmCalls, inTurn, inTurn_single, AccessDialogue.unlessFailed, andThen_assoc]
    refine congrArg role.made.andThen (funext fun r => ?_)
    cases r with
    | error e => rfl
    | ok _ =>
      -- nothing is printed after the call for the role
      simp only [silent, Option.getD_none, Ending.after_empty, andThen_done]
      rw [confirmCalls, confirmed, ih others]
      rfl

/-! ### How a run goes -/

/-- How a run that makes calls in order may go with a server: which calls it makes and what is
answered to their requests, and how it ends. -/
inductive ConfirmedRun : List AccessCall → List (AccessCall × Except String Reply) → Ending → Prop
  | done : ConfirmedRun [] [] {}
  | failed {c : AccessCall} {a : Except String Reply} {e : RemoteError} (cs : List AccessCall)
      (fails : judge c.operation c.name a = .error e) :
      ConfirmedRun (c :: cs) [(c, a)] (.failed (.access (.remote c.operation c.name e)))
  | further {c : AccessCall} {a : Except String Reply} {cs : List AccessCall}
      {heard : List (AccessCall × Except String Reply)} {ending : Ending}
      (carried : isCarriedOut a = true) (rest : ConfirmedRun cs heard ending) :
      ConfirmedRun (c :: cs) ((c, a) :: heard) (ending.after (c.confirmation?.getD ""))

/-- A call that changes the store is carried out if its request is. -/
theorem AccessCall.verdict_heard {c : AccessCall} (changes : c ≠ .listUsers)
    (a : Except String Reply) :
    c.verdict (c.heard a) = (judge c.operation c.name a).map fun _ => () := by
  cases c with
  | listUsers => exact absurd rfl changes
  | putRole name d | deleteRole name | putUser name b | deleteUser name => rfl

/-- Every run goes in this way, and sends the requests of the calls that it makes. -/
theorem ConfirmedRun.of_run {c : Client} {parts : List String}
    (hierarchical : c.endpoint.path = .segments parts) {cs : List AccessCall}
    (change : ∀ q ∈ cs, q ≠ .listUsers) {σ : Type} (answer : (q : Request) → σ → Answer q × σ)
    (s : σ) :
    ∃ heard, ConfirmedRun cs heard ((c.overAccess (confirmCalls cs)).run answer s).1 ∧
      (c.overAccess (confirmCalls cs)).turns answer s
        = heard.map fun h => ⟨h.1.request c, h.2⟩ := by
  induction cs generalizing s with
  | nil => exact ⟨[], .done, rfl⟩
  | cons q qs ih =>
    obtain ⟨changes, change⟩ := List.forall_mem_cons.mp change
    obtain ⟨heard, confirmed, turns⟩ := ih change (answer (q.request c) s).2
    simp only [Client.overAccess, confirmCalls, AccessCall.made, andThen, interpret,
      c.askAccess_eq hierarchical, AccessCall.verdict_heard changes, run, Dialogue.turns]
    rcases judge_cases q.operation q.name (answer (q.request c) s).1 with
      ⟨carried, r, judged⟩ | ⟨-, e, judged⟩
    · refine ⟨(q, (answer (q.request c) s).1) :: heard, ?_, ?_⟩
      · simp only [judged, Except.map, reported, interpret_andThen, run_andThen]
        exact .further carried confirmed
      · simp only [judged, Except.map, reported, interpret_andThen, turns_andThen]
        exact congrArg (_ :: ·) ((List.append_nil _).trans turns)
    · refine ⟨[(q, (answer (q.request c) s).1)], ?_, ?_⟩
      · simp only [judged, Except.map, reported]
        exact .failed qs judged
      · simp only [judged, Except.map, reported]
        rfl

/-! ### What a run reports -/

/-- The lines for the calls that complete a principal and were carried out, in order. -/
def confirmations (heard : List (AccessCall × Except String Reply)) : List String :=
  heard.filterMap fun h => if isCarriedOut h.2 then h.1.confirmation? else none

/-- What a run prints, its status and its complaint say exactly what was done of the calls that were
due. -/
structure Faithful (due : List AccessCall) (heard : List (AccessCall × Except String Reply))
    (ending : Ending) : Prop where
  /-- The calls are those that are due, in order, as far as the run gets. -/
  inOrder : heard.map Prod.fst <+: due
  /-- Nothing is called for after a call that was not carried out. -/
  stops : ∀ h ∈ heard.dropLast, isCarriedOut h.2 = true
  /-- Nothing but a call that was not carried out ends a run before the last call that is due. -/
  complete : (∀ h ∈ heard, isCarriedOut h.2 = true) → heard.map Prod.fst = due
  output : ending.output = String.join (confirmations heard)
  status_eq_zero_iff : ending.exitStatus = 0 ↔
    heard.map Prod.fst = due ∧ ∀ h ∈ heard, isCarriedOut h.2 = true
  /-- What failed is the last call, and the complaint names what it was for. -/
  complaint : ending.exitStatus ≠ 0 → ending.exitStatus = 3 ∧
    ∃ h reason, heard.getLast? = some h ∧ isCarriedOut h.2 = false ∧ ending.complaint
      = "error: principal operation on " ++ h.1.name ++ " failed: " ++ reason ++ "\n"

/-- The complaint of a failed call names what the call was for. -/
theorem Ending.complaint_remote (op : Operation) (name : String) (e : RemoteError) :
    ∃ reason, (failed (.access (.remote op name e))).complaint
      = "error: principal operation on " ++ name ++ " failed: " ++ reason ++ "\n" := by
  refine ⟨CommandError.told ((AccessError.remote op name e).message :: e.chain), ?_⟩
  simp only [complaint, failed, Option.elim, CommandError.message, CommandError.report,
    CommandError.ofAccess, CommandError.told, String.intercalate_cons_cons, String.append_assoc]
  rfl

namespace Faithful

variable {c : AccessCall} {a : Except String Reply} {due : List AccessCall}
  {heard : List (AccessCall × Except String Reply)} {ending : Ending}

theorem done : Faithful [] [] {} where
  inOrder := List.prefix_rfl
  stops := nofun
  complete _ := rfl
  output := rfl
  status_eq_zero_iff := ⟨fun _ => ⟨rfl, nofun⟩, fun _ => rfl⟩
  complaint failed := absurd rfl failed

/-- The first call is not carried out, whatever would have come after it. -/
theorem failed {e : RemoteError} (cs : List AccessCall) (refused : isCarriedOut a = false) :
    Faithful (c :: cs) [(c, a)] (.failed (.access (.remote c.operation c.name e))) := by
  have incomplete : ¬ ∀ h ∈ [(c, a)], isCarriedOut h.2 = true := fun all =>
    absurd (List.forall_mem_singleton.mp all) (by simp [refused])
  exact
    { inOrder := ⟨cs, rfl⟩
      stops := nofun
      complete := fun all => absurd all incomplete
      output := by simp [confirmations, refused, Ending.failed]
      status_eq_zero_iff := iff_of_false nofun fun all => incomplete all.2
      complaint := fun _ => by
        obtain ⟨reason, complaint⟩ := Ending.complaint_remote c.operation c.name e
        exact ⟨rfl, (c, a), reason, rfl, refused, complaint⟩ }

/-- The first call is carried out and confirmed, if it completes a principal. -/
theorem further (h : Faithful due heard ending) (carried : isCarriedOut a = true) :
    Faithful (c :: due) ((c, a) :: heard) (ending.after (c.confirmation?.getD "")) where
  inOrder := (List.prefix_cons_inj c).mpr h.inOrder
  stops := by
    cases heard with
    | nil => exact nofun
    | cons x xs => exact List.forall_mem_cons.mpr ⟨carried, h.stops⟩
  complete all := congrArg (c :: ·) (h.complete (List.forall_mem_cons.mp all).2)
  output := by
    rw [Ending.after, h.output]
    cases printed : c.confirmation? with
    | none => simp [confirmations, printed]
    | some line => simp [confirmations, carried, printed, String.join_cons]
  status_eq_zero_iff := by
    simp only [List.map_cons, List.cons_inj_right, List.forall_mem_cons, carried, true_and]
    exact h.status_eq_zero_iff
  complaint failed := by
    obtain ⟨three, x, reason, last, refused, complaint⟩ := h.complaint failed
    exact ⟨three, x, reason, by simp [List.getLast?_cons, last], refused, complaint⟩

end Faithful

/-- **Every confirmed run is reported faithfully.** -/
theorem ConfirmedRun.faithful {due : List AccessCall}
    {heard : List (AccessCall × Except String Reply)} {ending : Ending}
    (h : ConfirmedRun due heard ending) : Faithful due heard ending := by
  induction h with
  | done => exact .done
  | @failed c a e cs fails =>
    refine .failed cs ?_
    rcases judge_cases c.operation c.name a with ⟨-, r, judged⟩ | ⟨refused, -⟩
    · exact nomatch fails.symm.trans judged
    · exact refused
  | further carried _ ih => exact ih.further carried

/-! ### The calls that are due -/

/-- A principal with a role of its own is written by two calls: its role, and then itself. -/
theorem Principal.HasOwnRole.writes {p : Principal} (own : p.HasOwnRole) :
    ∃ d, p.writes = [.putRole p.username d, .putUser p.username p.body] := by
  obtain ⟨d, roles⟩ := own.roles
  refine ⟨d, ?_⟩
  rw [Principal.writes, Principal.defined, roles]
  rfl

/-- The calls of a deed for one principal with a role of its own: for the role, and then for the
user of the same name, who is given the password and exactly this role. -/
def Deed.calls (name : String) (definition : RoleDefinition) : Deed → List AccessCall
  | provision password =>
    [.putRole name definition, .putUser name { password, roles := [name] }]
  | retract => [.deleteRole name, .deleteUser name]

namespace Target

/-- The calls that a deed for the target is to make. -/
def due (t : Target) : Deed → List AccessCall
  | .provision password => (t.accounts password).flatMap Principal.writes
  | .retract =>
    t.principals.flatMap fun p => p.roleNames.map .deleteRole ++ [.deleteUser p.username]

/-- A deed is to make the calls that are due and to confirm what they complete. -/
theorem deed_eq (t : Target) (d : Deed) : t.deed d = confirmCalls (t.due d) := by
  cases d with
  | provision password =>
    refine confirmEach_eq fun p mem => ?_
    have own := t.hasOwnRole_accounts password p mem
    have named : "" ∉ p.defined.map Prod.fst := by
      rw [own.defined, List.mem_singleton]
      exact own.named.symm
    obtain ⟨d, writes⟩ := own.writes
    exact ⟨_, _, writes, writes ▸ Principal.create_named named, rfl, rfl⟩
  | retract =>
    refine confirmEach_eq fun p mem => ?_
    -- without a password, accounts are the principals themselves
    have own : p.HasOwnRole := t.hasOwnRole_accounts "" p mem
    have named : "" ∉ p.roleNames := by
      rw [own.roleNames, List.mem_singleton]
      exact own.named.symm
    have calls : p.roleNames.map AccessCall.deleteRole ++ [.deleteUser p.username]
        = [.deleteRole p.username, .deleteUser p.username] := by
      rw [own.roleNames]
      rfl
    exact ⟨_, _, calls, calls ▸ Principal.delete_named named, rfl, rfl⟩

/-- The calls for the principal that writes logs come before those for the one that installs
dashboards. -/
theorem due_eq (t : Target) (d : Deed) :
    ∃ forWriter forInstaller,
      t.due d = d.calls (Principal.ingestion t.cluster t.tenant).username forWriter
        ++ d.calls (Principal.dashboard t.cluster t.tenant).username forInstaller := by
  cases d with
  | provision password => exact ⟨_, _, rfl⟩
  | retract => exact ⟨{}, {}, rfl⟩

theorem due_changes (t : Target) (d : Deed) : ∀ c ∈ t.due d, c ≠ .listUsers := by
  obtain ⟨forWriter, forInstaller, due⟩ := t.due_eq d
  rw [due]
  cases d with
  | provision password | retract => simp [Deed.calls]

/-- What is sent for a user who is due says, when it is read, that the user gets the password and
the one role of the same name. -/
theorem body_of_due {t : Target} {password name : String} {b : UserBody}
    (mem : .putUser name b ∈ t.due (.provision password)) (c : Client) :
    ∃ text, ((AccessCall.putUser name b).request c).body = some text ∧
      Json.decode UserBody.layout.reader text = .ok { password, roles := [name] } := by
  obtain ⟨forWriter, forInstaller, due⟩ := t.due_eq (.provision password)
  have body : b = { password, roles := [name] } := by
    rw [due] at mem
    simp only [Deed.calls, List.cons_append, List.nil_append, List.mem_cons, reduceCtorEq,
      AccessCall.putUser.injEq, false_or, or_false, List.not_mem_nil] at mem
    rcases mem with ⟨rfl, body⟩ | ⟨rfl, body⟩
    · exact body
    · exact body
  exact ⟨b.encode, rfl, body ▸ b.decode_encode⟩

end Target

/-- The invocation asks for the deed: to provision, it names a variable with a password. -/
inductive Deed.AskedBy (i : Invocation) (w : Surroundings) (t : Target) : Deed → Prop
  | provision {name password : String} (task : i.task = .provision t name)
      (held : w.lookUp name = some password) (nonempty : password ≠ "") :
      AskedBy i w t (.provision password)
  | retract (task : i.task = .retract t) : AskedBy i w t .retract

namespace Invocation

variable {i : Invocation} {w : Surroundings} {t : Target} {d : Deed} {c : Client}

/-- Where its input is sound and the store can be reached, a run is the deed that is asked for. -/
theorem run_deed (asked : d.AskedBy i w t) (connected : i.connect w = .ok c) :
    i.run w = c.overAccess (t.deed d) := by
  cases asked with
  | provision task held nonempty =>
    simp only [run_eq, task, Task.prepare, Surroundings.password, held, if_neg nonempty, connected]
    exact Job.perform_provision i.output c t _
  | retract task =>
    simp only [run_eq, task, Task.prepare, connected]
    exact Job.perform_retract i.output c t

/-- **What is reported is what was done.**  An invocation that provisions the principals of a
target, or retracts them, below an endpoint that has segments, calls for the role and then the user
of the one that writes logs, and then of the one that installs dashboards, each role having the name
of its user, and ends at the first request that is not carried out.  It confirms exactly the
principals whose user request was carried out, in order; its status is zero exactly if all four
requests were, and otherwise it complains with the name of the principal at which it failed. -/
theorem deed_faithful {endpoint : Url} {parts : List String} (asked : d.AskedBy i w t)
    (given : i.endpoint = some endpoint) (hierarchical : endpoint.path = .segments parts)
    (connected : i.connect w = .ok c) :
    let writer := (Principal.ingestion t.cluster t.tenant).username
    let installer := (Principal.dashboard t.cluster t.tenant).username
    (writer ≠ installer ∧ writer ≠ "" ∧ installer ≠ "") ∧
    (∃ forWriter forInstaller,
      t.due d = d.calls writer forWriter ++ d.calls installer forInstaller) ∧
    ∀ {σ : Type} (answer : (q : Request) → σ → Answer q × σ) (s : σ), ∃ heard,
      (i.run w).turns answer s = heard.map (fun h => ⟨h.1.request c, h.2⟩) ∧
        Faithful (t.due d) heard ((i.run w).run answer s).1 := by
  intro writer installer
  have distinct : [writer, installer].Nodup := t.nodup_usernames
  refine ⟨⟨?_, ?_, ?_⟩, ?_, ?_⟩
  · exact fun same => (List.nodup_cons.mp distinct).1 (List.mem_singleton.mpr same)
  · exact Principal.scopedName_ne_empty (by decide) _ _
  · exact Principal.scopedName_ne_empty (by decide) _ _
  · exact t.due_eq d
  · intro σ answer s
    have same := Option.some.inj (given.symm.trans (endpoint_of_connect connected))
    rw [same] at hierarchical
    rw [run_deed asked connected, t.deed_eq]
    obtain ⟨heard, confirmed, turns⟩ :=
      ConfirmedRun.of_run hierarchical (t.due_changes d) answer s
    exact ⟨heard, turns, confirmed.faithful⟩

/-- The server fails at the third request of a provision: the principal that writes logs is
confirmed, and the complaint names the one that installs dashboards. -/
theorem deed_faithful_interrupted :
    let t : Target := { cluster := "cluster" }
    let i : Invocation :=
      { task := .provision t "PASSWORD"
        endpoint := some { scheme := "http", host := some "store", path := .segments [""] } }
    let admin := Secret.ofList Secret.administrator [("admin", Utf8.encode "one")]
    let authority := Secret.ofList Secret.internalAuthority [(Secret.authorityKey, Utf8.encode
      "-----BEGIN CERTIFICATE-----\nMBQwDQIBATAAMAAwADAAMAAwAAMBAA==\n-----END CERTIFICATE-----\n")]
    let w : Surroundings :=
      { lookUp := fun v => if v = "PASSWORD" then some "two" else none
        readFile := fun _ => .error .notFound
        secretsIn := fun _ => .ofList [authority, admin]
        library := .rsa
        passId := "pass" }
    let answer : (q : Request) → Nat → Answer q × Nat := fun _ n =>
      (.ok { status := if n = 2 then 503 else 201, body := some [] }, n + 1)
    let ending := ((i.run w).run answer 0).1
    (∃ heard, Faithful (t.due (.provision "two")) heard ending) ∧
      ((i.run w).turns answer 0).length = 3 ∧
      ending.output = "Provisioned tigera-ee-linseed_cluster_.\n" ∧ ending.exitStatus = 3 ∧
      ending.complaint = "error: principal operation on tigera-ee-dashboards-installer_cluster_ "
        ++ "failed: access operation failed: remote api request failed\n" := by
  intro t i admin authority w answer ending
  have asked : Deed.AskedBy i w t (.provision "two") := .provision rfl rfl (by decide)
  have connected : i.connect w = .ok
      { endpoint := { scheme := "http", host := some "store", path := .segments [""] }
        credentials := { username := "admin", password := "one" } } := by
    simp only [t, i, w, admin, authority]
    rfl
  obtain ⟨heard, -, faithful⟩ := (deed_faithful asked rfl rfl connected).2.2 answer 0
  refine ⟨⟨heard, faithful⟩, ?_⟩
  simp only [ending, run_deed asked connected]
  refine ⟨rfl, ?_, rfl, ?_⟩
  · decide
  · decide

end Invocation

end LogSteward
