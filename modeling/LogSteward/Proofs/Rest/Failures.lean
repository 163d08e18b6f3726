import LogSteward.Proofs.Access.Order
import LogSteward.Proofs.Rest.Refinement
import LogSteward.Proofs.Rest.Requests
import LogSteward.Proofs.Retention.Visits

/-!
# Failures say which request has failed

A failure carries an operation and a name.  Over HTTP they are those of the last request that was
sent, and the cause is what the answer to that request amounts to (`Client.PointsAtLast`): every
request before it was answered as it should be.  This holds of everything that can be done with the
policies of a plan and with principals (`Client.failures_located`).
-/

namespace LogSteward

open Rest Dialogue

/-! ### Requests and what became of them -/

/-- How an operation is requested for a name: by which method, and where below the endpoint. -/
def Operation.requested? (name : String) : Operation → Option (Method × List String)
  | policyGet => some (.get, ["_ilm", "policy", name])
  | policyPut => some (.put, ["_ilm", "policy", name])
  | rolePut => some (.put, ["_security", "role", name])
  | roleDelete => some (.delete, ["_security", "role", name])
  | userPut => some (.put, ["_security", "user", name])
  | userDelete => some (.delete, ["_security", "user", name])
  | userList => if name = "*" then some (.get, ["_security", "user"]) else none
  | other _ => none

/-- The request is the client's for an operation on what has a name. -/
structure Client.Requests (c : Client) (op : Operation) (name : String) (q : Request) : Prop where
  authorization : q.authorization = c.credentials.authorization
  target : ∃ path address, op.requested? name = some (q.method, path) ∧
    c.endpoint.below? path = some address ∧ q.address = address.requested

/-- A failure of an operation on what has a name says what became of a request with the answer
`a`. -/
structure Rest.Explains (op : Operation) (name : String) (a : Except String Reply)
    (e : RemoteError) : Prop where
  operation : e.operation = op
  named : ∀ n, e.cause = .notFound n → n = name
  notFound_iff : e.isNotFound = true ↔ ∃ r, a = .ok r ∧ r.status = 404
  refused_iff : ∀ status text, e.cause = .refused status text ↔
    ∃ r, a = .ok r ∧ r.status = status ∧ r.text = text ∧ status ≠ 404 ∧ r.isSuccess = false
  unreadable : ∀ f, e.cause = .unreadable f →
    (op = .policyGet ∨ op = .userList) ∧ ∃ r, a = .ok r ∧ r.isSuccess = true
  undelivered : ∀ reason, e.cause = .undelivered reason → ¬ ∃ r, a = .ok r ∧ r.body ≠ none
  addressed : ∀ endpoint, e.cause ≠ .badEndpoint endpoint

/-- A request was answered with a success or, if it fetches a policy, with status 404. -/
def Client.Passed (c : Client) (t : Turn Answer) : Prop :=
  ∃ r, t.2 = .ok r ∧
    (r.isSuccess = true ∨ r.status = 404 ∧ ∃ name, c.Requests .policyGet name t.1)

/-- The failure of an operation on what has a name is that of the last of the requests. -/
inductive Client.PointsAtLast (c : Client) (op : Operation) (name : String) (e : RemoteError) :
    List (Turn Answer) → Prop where
  | mk {before : List (Turn Answer)} {q : Request} {a : Except String Reply}
      (requested : c.Requests op name q) (explains : Explains op name a e)
      (passed : ∀ t ∈ before, c.Passed t) : c.PointsAtLast op name e (before ++ [⟨q, a⟩])

/-! ### What an answer amounts to -/

namespace Rest

variable {op : Operation} {name : String} {a : Except String Reply} {r : Reply} {e : RemoteError}

theorem judge_map_ok (h : (judge op name a).map (fun _ => ()) = .ok ()) :
    ∃ r, judge op name a = .ok r := by
  cases hj : judge op name a with
  | ok r => exact ⟨r, rfl⟩
  | error e =>
      rw [hj] at h
      cases h

theorem judge_map_error (h : (judge op name a).map (fun _ => ()) = .error e) :
    judge op name a = .error e := by
  cases hj : judge op name a with
  | ok r =>
      rw [hj] at h
      cases h
  | error e' =>
      rw [hj] at h
      cases h
      rfl

/-- What is said of an answer that is no success. -/
theorem judge_explains (h : judge op name a = .error e) : Explains op name a e := by
  cases a with
  | error reason =>
      cases h
      constructor <;> simp [RemoteError.isNotFound]
  | ok r =>
      by_cases h₄ : r.status = 404
      · rw [judge, if_pos h₄] at h
        cases h
        constructor <;> simp [RemoteError.isNotFound, h₄]
      · cases hs : r.isSuccess with
        | true =>
            rw [judge, if_neg h₄, if_pos hs] at h
            cases h
        | false =>
            rw [judge, if_neg h₄, if_neg (ne_true_of_eq_false hs)] at h
            cases h
            constructor <;> simp [RemoteError.isNotFound, h₄, hs]

/-- What is said of a success that cannot be read. -/
theorem readBody_explains {α : Type} {read : Json.Reader α} (hr : r.isSuccess = true)
    (reads : op = .policyGet ∨ op = .userList) (h : readBody op read r = .error e) :
    Explains op name (.ok r) e := by
  have h₄ : r.status ≠ 404 := PolicyCall.isSuccess_ne_404 hr
  cases hb : r.body with
  | none =>
      rw [readBody, hb] at h
      cases h
      constructor <;> simp [RemoteError.isNotFound, h₄, hr, hb]
  | some body =>
      simp only [readBody, hb] at h
      cases hd : Json.decodeOctets read body with
      | ok x =>
          rw [hd] at h
          cases h
      | error f =>
          rw [hd] at h
          cases h
          constructor <;> simp [RemoteError.isNotFound, h₄, hr, reads]

end Rest

/-! ### Calls for policies -/

namespace PolicyCall

variable {c : Client} {parts : List String}

/-- A call is one request, for its own operation and name. -/
theorem requests (h : c.endpoint.path = .segments parts) (q : PolicyCall) :
    c.Requests q.operation q.name (q.request c) := by
  refine ⟨rfl, q.path, c.addressOf q.path, ?_, Client.below?_addressOf h _, rfl⟩
  cases q <;> rfl

/-- A call that has failed says what became of its request. -/
theorem failure?_explains {q : PolicyCall} {a : Except String Reply} {e : RemoteError}
    (h : failure? ⟨q, q.heard a⟩ = some e) : Explains q.operation q.name a e := by
  cases q with
  | get name =>
      simp only [heard, found] at h
      cases hj : judge .policyGet name a with
      | error e' =>
          simp only [hj, Bind.bind, Except.bind, failure?] at h
          split at h
          · cases h
          · cases h
            exact judge_explains hj
      | ok r =>
          obtain ⟨rfl, hr⟩ := judge_ok hj
          simp only [hj, Bind.bind, Except.bind] at h
          cases hb : readBody .policyGet (Json.readDictionary envelope.reader) r with
          | error e' =>
              simp only [hb, failure?] at h
              split at h
              · cases h
              · cases h
                exact readBody_explains hr (.inl rfl) hb
          | ok listing =>
              simp only [hb, pick] at h
              -- a policy that is not listed is none, which is no failure
              cases hl : listing.reverse.lookup name with
              | some p => rw [hl] at h; cases h
              | none => rw [hl] at h; cases h
  | put name p =>
      refine judge_explains (judge_map_error ?_)
      rw [heard] at h
      cases hm : (judge .policyPut name a).map fun _ => () with
      | ok _ =>
          rw [hm] at h
          cases h
      | error e' =>
          rw [hm] at h
          cases h
          exact hm

/-- The request of a call that has not failed was answered as it should be. -/
theorem failure?_passed (h : c.endpoint.path = .segments parts) {q : PolicyCall}
    {a : Except String Reply} (hf : failure? ⟨q, q.heard a⟩ = none) :
    c.Passed ⟨q.request c, a⟩ := by
  cases hj : judge q.operation q.name a with
  | ok r =>
      obtain ⟨rfl, hr⟩ := judge_ok hj
      exact ⟨r, rfl, .inl hr⟩
  | error e =>
      cases q with
      | get name =>
          have fetched : (get name).heard a = .error e := by
            simp only [heard, found, show judge .policyGet name a = .error e from hj]
            rfl
          rw [fetched] at hf
          have hn : e.isNotFound = true := by
            by_contra hn
            cases (if_neg hn).symm.trans hf
          obtain ⟨r, rfl, h₄⟩ := (judge_explains hj).notFound_iff.mp hn
          exact ⟨r, rfl, .inr ⟨h₄, name, (get name).requests h⟩⟩
      | put name p =>
          have refused : (put name p).heard a = .error e := by
            simp only [heard, show judge .policyPut name a = .error e from hj]
            rfl
          rw [refused] at hf
          cases hf

end PolicyCall

/-! ### Calls for roles and users -/

namespace AccessCall

variable {c : Client} {parts : List String}

theorem requests (h : c.endpoint.path = .segments parts) (q : AccessCall) :
    c.Requests q.operation q.name (q.request c) := by
  refine ⟨rfl, q.path, c.addressOf q.path, ?_, Client.below?_addressOf h _, rfl⟩
  cases q <;> rfl

/-- A call that has failed says what became of its request. -/
theorem verdict_explains {q : AccessCall} {a : Except String Reply} {e : RemoteError}
    (h : q.verdict (q.heard a) = .error e) : Explains q.operation q.name a e := by
  cases q with
  | listUsers =>
      simp only [verdict, heard, listed] at h
      cases hj : judge .userList listUsers.name a with
      | error e' =>
          rw [hj] at h
          cases h
          exact judge_explains hj
      | ok r =>
          obtain ⟨rfl, hr⟩ := judge_ok hj
          simp only [hj, Bind.bind, Except.bind] at h
          cases hb : readBody .userList (Json.readDictionary userRoles.reader) r with
          | error e' =>
              rw [hb] at h
              cases h
              exact readBody_explains hr (.inr rfl) hb
          | ok listing =>
              rw [hb] at h
              cases h
  | putRole _ _ | deleteRole _ | putUser _ _ | deleteUser _ =>
      exact judge_explains (judge_map_error h)

/-- The request of a call that was carried out was answered as it should be. -/
theorem verdict_passed {q : AccessCall} {a : Except String Reply}
    (hv : q.verdict (q.heard a) = .ok ()) : c.Passed ⟨q.request c, a⟩ := by
  cases hj : judge q.operation q.name a with
  | ok r =>
      obtain ⟨rfl, hr⟩ := judge_ok hj
      exact ⟨r, rfl, .inl hr⟩
  | error e =>
      cases q with
      | listUsers =>
          simp only [verdict, heard, listed,
            show judge .userList listUsers.name a = .error e from hj] at hv
          cases hv
      | putRole _ _ | deleteRole _ | putUser _ _ | deleteUser _ =>
          obtain ⟨r, hr⟩ := judge_map_ok hv
          cases hj.symm.trans hr

end AccessCall

/-- What fails in a run that calls for roles in their order and then for a user is its last call. -/
theorem InOrder.remote {roles : List AccessCall} {user : AccessCall}
    {heard : List (Turn AccessCall.Answer)} {op : Operation} {name : String} {e : RemoteError}
    (h : InOrder roles user heard (.error (.remote op name e))) :
    ∃ before last, heard = before ++ [last] ∧ (∀ t ∈ before, t.1.verdict t.2 = .ok ()) ∧
      last.1.verdict last.2 = .error e ∧ last.1 ∈ roles ++ [user] ∧
      last.1.operation = op ∧ last.1.name = name := by
  have carried_out (cs : List AccessCall) : ∀ t ∈ accepted cs, t.1.verdict t.2 = .ok () := by
    intro t ht
    obtain ⟨q, -, rfl⟩ := List.mem_map.mp ht
    exact q.verdict_accepted
  generalize hr : Except.error (AccessError.remote op name e) = result at h
  cases h with
  | user named r =>
      cases hv : user.verdict r with
      | ok _ =>
          rw [hv] at hr
          cases hr
      | error e' =>
          rw [hv] at hr
          cases hr
          exact ⟨accepted roles, ⟨user, r⟩, rfl, carried_out roles, hv, by simp, rfl, rfl⟩
  | @role before after q split named e' =>
      cases hr
      refine ⟨accepted before, ⟨q, FaultyRegistry.failure e q⟩, rfl, carried_out before, ?_,
        by simp [split], rfl, rfl⟩
      cases q <;> rfl
  | unnamed split named unnamed => cases hr

/-! ### Runs -/

namespace Client

variable {c : Client} {parts : List String} {σ : Type} {answer : (q : Request) → σ → Answer q × σ}

/-- A pass that fails points at its last request. -/
theorem pass_pointsAtLast (h : c.endpoint.path = .segments parts) (p : Plan) (s : σ)
    {err : PolicyError} (fails : ((c.overPolicies p.reconcile).run answer s).1 = .error err) :
    c.PointsAtLast err.operation err.policy err.source
        ((c.overPolicies p.reconcile).turns answer s) ∧
      ∃ e ∈ p.entries, e.name = err.policy := by
  rw [overPolicies, run_interpret, Plan.reconcile_eq_rest] at fails
  obtain ⟨vs, r, tour, heard, result⟩ :=
    Stage.exists_tour (fun q s => (c.askPolicy q).run answer s) p.entries [] s
  rw [result] at fails
  obtain rfl : r = .error err := by
    cases r with
    | ok os => cases fails
    | error err' => exact fails
  obtain ⟨past, e, later, before, last, split, -, ends, clear, name, failed, hop, hpolicy⟩ :=
    tour.error
  obtain ⟨sent, a, hs, ha, earlier⟩ :=
    turns_interpret_last (askPolicy_eq h) answer _ s (heard.trans ends)
  have hlast : PolicyCall.failure? ⟨last.1, last.1.heard a⟩ = some err.source := by
    rw [ha]
    exact failed
  rw [overPolicies, Plan.reconcile_eq_rest, hs, hop, hpolicy, ← name]
  refine ⟨.mk (last.1.requests h) (PolicyCall.failure?_explains hlast) fun t ht => ?_, e,
    by simp [split], name.symm⟩
  obtain ⟨q, b, rfl, hq⟩ := earlier t ht
  exact PolicyCall.failure?_passed h (clear _ hq)

/-- So does a run that calls for roles and then for a user. -/
theorem inOrder_pointsAtLast (h : c.endpoint.path = .segments parts) {user : AccessCall}
    {roles : List AccessCall} (forRoles : ∀ q ∈ roles, q.IsForRole) (s : σ) {op : Operation}
    {name : String} {e : RemoteError}
    (fails : ((c.overAccess (inOrder user roles)).run answer s).1 = .error (.remote op name e)) :
    c.PointsAtLast op name e ((c.overAccess (inOrder user roles)).turns answer s) ∧
      ∃ q ∈ roles ++ [user], q.operation = op ∧ q.name = name := by
  rw [overAccess, run_interpret] at fails
  have form : InOrder roles user _ _ :=
    InOrder.of_run (fun q s => (c.askAccess q).run answer s) forRoles s
  rw [fails] at form
  obtain ⟨before, last, ends, clear, failed, called, rfl, rfl⟩ := form.remote
  obtain ⟨sent, a, hs, ha, earlier⟩ := turns_interpret_last (askAccess_eq h) answer _ s ends
  have hlast : last.1.verdict (last.1.heard a) = .error e := by
    rw [ha]
    exact failed
  rw [overAccess, hs]
  refine ⟨.mk (last.1.requests h) (AccessCall.verdict_explains hlast) fun t ht => ?_, last.1,
    called, rfl, rfl⟩
  obtain ⟨q, b, rfl, hq⟩ := earlier t ht
  exact AccessCall.verdict_passed (clear _ hq)

/-- A listing that fails points at its only request. -/
theorem listing_pointsAtLast (h : c.endpoint.path = .segments parts) (s : σ) {op : Operation}
    {name : String} {e : RemoteError}
    (fails : ((c.overAccess Principal.listAll).run answer s).1 = .error (.remote op name e)) :
    c.PointsAtLast op name e ((c.overAccess Principal.listAll).turns answer s) ∧
      op = .userList ∧ name = "*" := by
  simp only [overAccess, Principal.listAll, interpret, askAccess_eq h, Dialogue.andThen,
    Dialogue.run, Dialogue.turns] at fails ⊢
  generalize answer (AccessCall.listUsers.request c) s = came at fails ⊢
  cases hl : AccessCall.listUsers.heard came.1 with
  | ok users =>
      rw [hl] at fails
      cases fails
  | error e' =>
      rw [hl] at fails
      cases fails
      have failed :
          AccessCall.listUsers.verdict (AccessCall.listUsers.heard came.1) = .error e := by
        rw [hl]
        rfl
      have points : c.PointsAtLast .userList "*" e
          ([] ++ [⟨AccessCall.listUsers.request c, came.1⟩]) :=
        .mk (AccessCall.listUsers.requests h) (AccessCall.verdict_explains failed) (by simp)
      exact ⟨points, rfl, rfl⟩

/-- **Failures point at the request that has failed.**  Below an endpoint that has segments, and
whatever the server answers, a failure of a pass, of the creation or deletion of a principal, or of
a listing has the operation and the name of the last request that was sent.  Every request before it
was answered with a success or, if it fetched a policy, with status 404; and the cause says what
became of the last one: that it had status 404, or which other status that is no success, or that
the body of a success, which only the two operations that fetch something read, is not what it has
to be, or that no complete reply came. -/
theorem failures_located (c : Client) {parts : List String} (h : c.endpoint.path = .segments parts)
    {σ : Type} (answer : (q : Request) → σ → Answer q × σ) (s : σ) :
    (∀ (p : Plan) (err : PolicyError), let pass := c.overPolicies p.reconcile
      (pass.run answer s).1 = .error err →
        c.PointsAtLast err.operation err.policy err.source (pass.turns answer s) ∧
          ∃ e ∈ p.entries, e.name = err.policy) ∧
    (∀ (p : Principal) (op : Operation) (name : String) (e : RemoteError),
      let creation := c.overAccess p.create
      (creation.run answer s).1 = .error (.remote op name e) →
        c.PointsAtLast op name e (creation.turns answer s) ∧
          (op = .rolePut ∧ (∃ r ∈ p.roles, r.definition.isSome = true ∧ r.name = name) ∨
            op = .userPut ∧ name = p.username)) ∧
    (∀ (p : Principal) (op : Operation) (name : String) (e : RemoteError),
      let deletion := c.overAccess p.delete
      (deletion.run answer s).1 = .error (.remote op name e) →
        c.PointsAtLast op name e (deletion.turns answer s) ∧
          (op = .roleDelete ∧ (∃ r ∈ p.roles, r.name = name) ∨
            op = .userDelete ∧ name = p.username)) ∧
    ∀ (op : Operation) (name : String) (e : RemoteError),
      let listing := c.overAccess Principal.listAll
      (listing.run answer s).1 = .error (.remote op name e) →
        c.PointsAtLast op name e (listing.turns answer s) ∧ op = .userList ∧ name = "*" := by
  refine ⟨fun p err => pass_pointsAtLast h p s, fun p op name e => ?_, fun p op name e => ?_,
    fun op name e => listing_pointsAtLast h s⟩
  · have forRoles : ∀ q ∈ p.defined.map AccessCall.write, q.IsForRole :=
      List.forall_mem_map.mpr fun _ _ => trivial
    rw [p.create_inOrder]
    intro creation fails
    obtain ⟨points, q, hq, rfl, rfl⟩ := inOrder_pointsAtLast h forRoles s fails
    refine ⟨points, ?_⟩
    rcases List.mem_append.mp hq with hq | hq
    · obtain ⟨_, hp, rfl⟩ := List.mem_map.mp hq
      obtain ⟨r, hr, hp⟩ := List.mem_filterMap.mp hp
      obtain ⟨d, hd, rfl⟩ := Option.map_eq_some_iff.mp hp
      exact .inl ⟨rfl, r, hr, Option.isSome_of_eq_some hd, rfl⟩
    · rw [List.mem_singleton.mp hq]
      exact .inr ⟨rfl, rfl⟩
  · have forRoles : ∀ q ∈ p.roleNames.map AccessCall.deleteRole, q.IsForRole :=
      List.forall_mem_map.mpr fun _ _ => trivial
    rw [p.delete_inOrder]
    intro deletion fails
    obtain ⟨points, q, hq, rfl, rfl⟩ := inOrder_pointsAtLast h forRoles s fails
    refine ⟨points, ?_⟩
    rcases List.mem_append.mp hq with hq | hq
    · obtain ⟨_, hn, rfl⟩ := List.mem_map.mp hq
      obtain ⟨r, hr, rfl⟩ := List.mem_map.mp hn
      exact .inl ⟨rfl, r, hr, rfl⟩
    · rw [List.mem_singleton.mp hq]
      exact .inr ⟨rfl, rfl⟩

/-- A server that takes the role and then refuses the user. -/
theorem failures_located_user :
    let answer (_ : Request) (n : Nat) : Except String Reply × Nat :=
      (.ok ⟨if n = 0 then 200 else 503, some []⟩, n + 1)
    let p : Principal := { username := "svc", roles := [{ name := "a", definition := some {} }] }
    let creation := nearby.overAccess p.create
    let e : RemoteError := ⟨.userPut, .refused 503 ""⟩
    nearby.endpoint.path = .segments [""] ∧
      (creation.run answer 0).1 = .error (.remote .userPut "svc" e) ∧
      nearby.PointsAtLast .userPut "svc" e (creation.turns answer 0) := by
  intro answer p creation e
  have fails : (creation.run answer 0).1 = .error (.remote .userPut "svc" e) := by rfl
  exact ⟨rfl, fails, ((failures_located nearby rfl answer 0).2.1 p _ _ _ fails).1⟩

end Client

end LogSteward
