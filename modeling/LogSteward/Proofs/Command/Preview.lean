import LogSteward.Proofs.Command.Faults
import LogSteward.Proofs.Command.Printed
import LogSteward.Proofs.Rest.Refinement
import LogSteward.Tls.Acceptance

/-!
# The plan as a preview

`policies plan` prints what `policies apply` is going to write.  With any server, the requests by
which policies are written are for rows of the plan, in the order of the rows, and each has a
document with the thresholds of its row; with a server that has none of the policies there is one
for each row (`preview_faithful`).
-/

namespace LogSteward

open Rest Json

/-! ### Writes -/

/-- The request writes the policy of the row to the store that is at the endpoint: a document that
sets the thresholds of the row. -/
structure Rest.Request.WritesRow (endpoint : Option Url) (q : Request) (row : PlanRow) : Prop where
  method : q.method = .put
  address : ∃ base address, endpoint = some base ∧
    base.below? ["_ilm", "policy", row.policy] = some address ∧ q.address = address.requested
  document : ∃ text p, q.body = some text ∧ decode PolicyCall.envelope.reader text = .ok p ∧
    p.thresholds = row.thresholds

namespace Client

variable {c : Client} {e : PlannedPolicy}

theorem writesRow_store {address : Url} (h : c.endpoint.below? e.write.path = some address) :
    (c.store address e.document).WritesRow (some c.endpoint) (.ofEntry e) where
  method := rfl
  address := ⟨_, _, rfl, h, rfl⟩
  document := by
    have read := PolicyCall.reads_envelope.decodeOctets blanks_nil
      (PolicyCall.envelopeForm_written e.document) blanks_nil
    rw [List.nil_append, List.append_nil] at read
    exact ⟨_, _, rfl, read, Policy.thresholds_ofThresholds _⟩

/-- Writes are put as requests for their rows, unless there is no address for them. -/
theorem writesRow_requests (c : Client) (es : List PlannedPolicy) :
    ∃ sent : List PlannedPolicy, sent.Sublist es ∧
      List.Forall₂ (Request.WritesRow (some c.endpoint))
        ((es.map PlannedPolicy.write).flatMap c.requests) (sent.map .ofEntry) ∧
      ((∀ e ∈ es, (c.endpoint.below? e.write.path).isSome = true) → sent = es) := by
  induction es with
  | nil => exact ⟨[], List.Sublist.refl _, .nil, fun _ => rfl⟩
  | cons e es ih =>
      obtain ⟨sent, sublist, writes, all⟩ := ih
      rw [List.map_cons, List.flatMap_cons]
      cases h : c.endpoint.below? e.write.path with
      | none =>
          have none : c.requests e.write = [] := by
            rw [PlannedPolicy.write] at h ⊢
            rw [requests, h]
            rfl
          rw [none]
          refine ⟨sent, sublist.cons e, writes, fun reached => ?_⟩
          have := reached e List.mem_cons_self
          rw [h] at this
          cases this
      | some address =>
          have single : c.requests e.write = [c.store address e.document] := by
            rw [PlannedPolicy.write] at h ⊢
            rw [requests, h]
            rfl
          rw [single]
          exact ⟨e :: sent, sublist.cons_cons e, .cons (writesRow_store h) writes, fun reached =>
            congrArg (e :: ·) (all fun e' he' => reached e' (List.mem_cons_of_mem _ he'))⟩

/-- The writes among requests are the requests of the writes. -/
theorem filter_put_requests (c : Client) (calls : List PolicyCall) :
    (calls.flatMap c.requests).filter (·.method = .put)
      = (calls.filter PolicyCall.isPut).flatMap c.requests := by
  induction calls with
  | nil => rfl
  | cons q calls ih =>
      rw [List.flatMap_cons, List.filter_append, ih]
      cases q with
      | get name =>
          have none : (c.requests (.get name)).filter (·.method = .put) = [] := by
            rw [requests]
            cases c.endpoint.below? (PolicyCall.get name).path <;> rfl
          rw [none]
          rfl
      | put name p =>
          have all : (c.requests (.put name p)).filter (·.method = .put)
              = c.requests (.put name p) := by
            rw [requests]
            cases c.endpoint.below? (PolicyCall.put name p).path <;> rfl
          rw [all]
          rfl

/-- The writes of a computation over HTTP. -/
theorem writes_overPolicies {σ : Type} (answer : (q : Request) → σ → Answer q × σ) (c : Client)
    {α : Type} (d : PolicyDialogue α) (state : σ) :
    ((c.overPolicies d).transcript answer state).filter (·.method = .put)
      = ((d.transcript (fun q s => (c.askPolicy q).run answer s) state).filter
          PolicyCall.isPut).flatMap c.requests := by
  rw [c.transcript_overPolicies, c.filter_put_requests]

/-- A pass writes for some of the rows of its plan, in their order, with any server. -/
theorem writes_reconcile {σ : Type} (answer : (q : Request) → σ → Answer q × σ) (c : Client)
    (p : Plan) (state : σ) :
    ∃ written, written.Sublist (p.entries.map PlanRow.ofEntry) ∧
      List.Forall₂ (Request.WritesRow (some c.endpoint))
        (((c.overPolicies p.reconcile).transcript answer state).filter (·.method = .put))
        written := by
  obtain ⟨called, among, puts⟩ :=
    p.writes_reconcile (fun q s => (c.askPolicy q).run answer s) state
  obtain ⟨sent, among', writes, -⟩ := c.writesRow_requests called
  refine ⟨sent.map .ofEntry, (among'.trans among).map _, ?_⟩
  rw [c.writes_overPolicies, puts]
  exact writes

end Client

/-! ### A store without policies -/

/-- A pass over a store that has none of the policies writes and creates all of them. -/
theorem PolicyShelf.reconcile_absent (s : StorageSettings) {shelf : PolicyShelf}
    (absent : ∀ k : Category, shelf[k.policyName]? = none) :
    let p := Plan.ofSettings s
    (p.reconcile.run PolicyShelf.answer shelf).1
        = .ok (Category.catalogue.map (⟨·, .created⟩)) ∧
      (p.reconcile.transcript PolicyShelf.answer shelf).filter PolicyCall.isPut
        = p.entries.map PlannedPolicy.write := by
  intro p
  obtain ⟨os, shelf', hr⟩ := PolicyShelf.run_reconcile_ok p shelf
  rw [p.reconcile_eq_rest] at hr ⊢
  obtain ⟨ho, ht, -, -⟩ :=
    PolicyShelf.honest.run_fetching (Plan.nodup_categories_ofSettings s) hr
  simp only [absent] at ho ht
  refine ⟨?_, ?_⟩
  · rw [hr, ho, Plan.entries_ofSettings, List.map_map]
    rfl
  · rw [ht, List.filter_flatMap, List.map_eq_flatMap]
    rfl

/-- So it does over HTTP, with a server that has none of them. -/
theorem Client.reconcile_absent {c : Client} {parts : List String} {σ : Type}
    {answer : (q : Request) → σ → Answer q × σ} {held : σ → Category → Option Policy}
    (path : c.endpoint.path = .segments parts) (keeps : c.KeepsPolicies parts answer held)
    (s : StorageSettings) {state : σ} (absent : ∀ k, held state k = none) :
    let p := Plan.ofSettings s
    ((c.overPolicies p.reconcile).run answer state).1
        = .ok (Category.catalogue.map (⟨·, .created⟩)) ∧
      List.Forall₂ (Request.WritesRow (some c.endpoint))
        (((c.overPolicies p.reconcile).transcript answer state).filter (·.method = .put))
        (p.entries.map PlanRow.ofEntry) := by
  intro p
  have none (k : Category) : ({} : PolicyShelf)[k.policyName]? = none :=
    Std.TreeMap.getElem?_emptyc
  obtain ⟨result, puts⟩ := PolicyShelf.reconcile_absent s none
  have mirrors : Client.Mirrors held state {} := fun k => (absent k).trans (none k).symm
  -- the calls are answered as a faithful store without policies answers them
  obtain ⟨run, -, calls⟩ := Dialogue.run_simulates (A := PolicyCall.Answer)
    (P := PolicyCall.IsForCategory)
    (fun q s shelf hq hs => Client.run_askPolicy (q := q) path keeps hq hs) p.asks_reconcile mirrors
  have reached : ∀ e ∈ p.entries, (c.endpoint.below? e.write.path).isSome = true := fun e _ =>
    Option.isSome_iff_exists.mpr ⟨_, Client.below?_policy path e.category⟩
  obtain ⟨sent, -, writes, all⟩ := c.writesRow_requests p.entries
  refine ⟨?_, ?_⟩
  · rw [Client.overPolicies, Dialogue.run_interpret, run, result]
  · rw [c.writes_overPolicies, calls, puts]
    rw [all reached] at writes
    exact writes

/-! ### Whole runs -/

namespace Invocation

variable {i : Invocation} {w : Surroundings} {file : Option String} {s : StorageSettings}

/-- A preview prints the plan for the settings that were read. -/
theorem run_plan (plans : i.task = .planPolicies file) (accepted : w.settings file = .ok s) :
    i.run w = .done (.ofReport i.output (.ok (.ofPlan (.ofSettings s)))) := by
  rw [run_eq, plans, Task.prepare, accepted]
  exact Job.perform_preview i.output _ _

/-- An application does the work of the plan for the settings that were read. -/
theorem run_apply (applies : i.task = .applyPolicies file) (accepted : w.settings file = .ok s) :
    i.run w = (Job.apply (Plan.ofSettings s)).perform i.output (i.connect w) := by
  rw [run_eq, applies, Task.prepare, accepted]
  rfl

end Invocation

/-- **The plan is a faithful preview.**  Let settings be accepted that are the same for `policies
plan` and for `policies apply`.  The first prints, without any request, a plan with a row for each
policy.  Whatever a server answers, the second one writes policies only for rows of the plan, in
their order, each at most once and with the thresholds of the row.  If the server keeps policies and
has none of them yet, there is one write for each row, and each policy is reported as created. -/
theorem preview_faithful {w : Surroundings} {i j : Invocation} {file : Option String}
    {s : StorageSettings} (applies : i.task = .applyPolicies file)
    (plans : j.task = .planPolicies file) (json : j.output = .json)
    (accepted : w.settings file = .ok s) :
    ∃ plan : PrintedPlan,
      (∃ output, j.run w = .done { output } ∧
        decode PrintedPlan.layout.reader output = .ok plan) ∧
      plan.rows.map PlanRow.policy = Category.catalogue.map Category.policyName ∧
      ∀ {σ : Type} (answer : (q : Request) → σ → Answer q × σ) (state : σ),
        let ending := ((i.run w).run answer state).1
        let writes := ((i.run w).transcript answer state).filter (·.method = .put)
        (∃ written, written.Sublist plan.rows ∧
          List.Forall₂ (Request.WritesRow i.endpoint) writes written) ∧
        ∀ c parts held, i.connect w = .ok c → c.endpoint.path = .segments parts →
          c.KeepsPolicies parts answer held → (∀ k, held state k = none) →
            List.Forall₂ (Request.WritesRow i.endpoint) writes plan.rows ∧
            ending = .ofReport i.output
              (.ok (.ofOutcomes (Category.catalogue.map (⟨·, .created⟩)))) ∧
            (i.output = .json → decode (readList OutcomeRow.layout.reader) ending.output
              = .ok (plan.rows.map fun r => ⟨r.policy, "created", []⟩)) := by
  refine ⟨.ofPlan (.ofSettings s), ⟨_, ?_, PrintedPlan.decode_printed _⟩,
    PrintedPlan.policies_ofSettings s, ?_⟩
  · rw [Invocation.run_plan plans accepted, json]
    rfl
  intro σ answer state ending writes
  have run := Invocation.run_apply applies accepted
  cases connected : i.connect w with
  | error e =>
      have none : writes = [] := by
        simp only [writes, run, connected]
        rfl
      exact ⟨⟨[], List.nil_sublist _, none ▸ .nil⟩, nofun⟩
  | ok c =>
      rw [connected] at run
      have requests : (i.run w).transcript answer state
          = (c.overPolicies (Plan.ofSettings s).reconcile).transcript answer state := by
        rw [run, Job.perform_apply, Dialogue.transcript_andThen]
        exact List.append_nil _
      simp only [writes, requests]
      rw [Invocation.endpoint_of_connect connected]
      refine ⟨c.writes_reconcile answer _ state, ?_⟩
      intro c' parts held hc path keeps absent
      cases hc
      obtain ⟨result, each⟩ := Client.reconcile_absent path keeps s absent
      have ends : ending = .ofReport i.output
          (.ok (.ofOutcomes (Category.catalogue.map (⟨·, .created⟩)))) := by
        simp only [ending, run, Job.perform_apply, Dialogue.run_andThen, result]
        rfl
      refine ⟨each, ends, fun json => ?_⟩
      rw [ends, json, OutcomeRow.decode_printed, PrintedPlan.ofPlan, Plan.entries_ofSettings]
      rfl

/-- Without a settings file, and with a server that has no policies yet: ten requests write the ten
rows of the plan. -/
theorem preview_faithful_default :
    let i : Invocation :=
      { task := .applyPolicies none, output := .json
        endpoint := some { scheme := "http", host := some "store", path := .segments [""] } }
    let j : Invocation := { task := .planPolicies none, output := .json }
    let admin := Secret.ofList Secret.administrator [("admin", Utf8.encode "secret")]
    let authority := Secret.ofList Secret.internalAuthority [(Secret.authorityKey, Utf8.encode
      "-----BEGIN CERTIFICATE-----\nMBQwDQIBATAAMAAwADAAMAAwAAMBAA==\n-----END CERTIFICATE-----\n")]
    let w : Surroundings :=
      { lookUp := fun _ => none
        readFile := fun _ => .error .notFound
        secretsIn := fun _ => .ofList [authority, admin]
        library := .rsa
        passId := "pass" }
    w.settings none = .ok {} ∧
      ∃ (output : String) (plan : PrintedPlan), j.run w = .done { output } ∧
        decode PrintedPlan.layout.reader output = .ok plan ∧ plan.rows.length = 10 ∧
        List.Forall₂ (Request.WritesRow i.endpoint)
          (((i.run w).transcript ShelfServer.answer {}).filter (·.method = .put)) plan.rows := by
  intro i j admin authority w
  obtain ⟨plan, ⟨output, printed, read⟩, names, runs⟩ :=
    preview_faithful (w := w) (i := i) (j := j) rfl rfl rfl (s := {}) rfl
  have ten : plan.rows.length = 10 := by
    simpa [Category.catalogue] using congrArg List.length names
  refine ⟨rfl, output, plan, printed, read, ten, ?_⟩
  have connected : i.connect w
      = .ok ⟨{ scheme := "http", host := some "store", path := .segments [""] },
          ⟨"admin", "secret"⟩⟩ := by
    simp only [i, w, admin, authority]
    rfl
  exact ((runs ShelfServer.answer {}).2 _ [""] _ connected rfl (ShelfServer.keepsPolicies _)
    fun _ => Std.TreeMap.getElem?_emptyc).1

end LogSteward
