import LogSteward.Proofs.Remote.Dialogue
import LogSteward.Proofs.Retention.Keeping

/-!
# What a pass asks and hears

A pass visits the entries of its plan in order.  On a visit it fetches the policy of the entry, and
writes it if the answer calls for that (`PlannedPolicy.CallsForWrite`); the first call that fails
ends the pass.  A fetch that finds no policy has not failed.

Nothing is assumed of the store: it may answer each call as it likes, whatever it has answered
before.  `Tour` says which visits a pass makes and what it returns, `Stage.exists_tour` that every
pass is one, and `reconcile_discipline` puts together what follows from it.
-/

namespace LogSteward

open Dialogue

/-- Why a call has failed, if it has.  To learn that there is no policy is no failure of a fetch. -/
def PolicyCall.failure? : Turn PolicyCall.Answer → Option RemoteError
  | ⟨.get _, .ok _⟩ => none
  | ⟨.get _, .error e⟩ => if e.isNotFound then none else some e
  | ⟨.put _ _, .ok _⟩ => none
  | ⟨.put _ _, .error e⟩ => some e

/-- Whether a call is a write. -/
def PolicyCall.isPut : PolicyCall → Bool
  | .get _ => false
  | .put _ _ => true

/-- The call by which the document of an entry is written. -/
def PlannedPolicy.write (e : PlannedPolicy) : PolicyCall :=
  .put e.name e.document

/-- The answer to the fetch of an entry's policy calls for a write: there is no policy, or its
thresholds are not the planned ones. -/
def PlannedPolicy.CallsForWrite (e : PlannedPolicy) : Except RemoteError Policy → Prop
  | .ok d => d.thresholds ≠ e.thresholds
  | .error err => err.isNotFound = true

/-! ### Visits -/

/-- What a pass hears about an entry. -/
structure Visit where
  /-- The answer to the fetch. -/
  fetched : Except RemoteError Policy
  /-- The answer to the write, if there was one. -/
  written : Option (Except RemoteError Unit)

namespace Visit

/-- The calls of a visit to an entry, with their answers. -/
def turns (v : Visit) (e : PlannedPolicy) : List (Turn PolicyCall.Answer) :=
  ⟨.get e.name, v.fetched⟩ :: (v.written.map fun r => ⟨.put e.name e.document, r⟩).toList

/-- The policy of the entry was written if and only if the answer to the fetch called for it. -/
def Proper (v : Visit) (e : PlannedPolicy) : Prop :=
  v.written.isSome = true ↔ e.CallsForWrite v.fetched

/-- No call of the visit has failed. -/
def Clear (v : Visit) (e : PlannedPolicy) : Prop :=
  ∀ x ∈ v.turns e, PolicyCall.failure? x = none

/-- What a visit without failures amounts to. -/
def outcome (v : Visit) (e : PlannedPolicy) : PolicyOutcome :=
  .dueFor v.fetched.toOption e.thresholds

/-- A visit without failures has written if its outcome says so. -/
theorem wrote_outcome {v : Visit} {e : PlannedPolicy} (proper : v.Proper e) (clear : v.Clear e) :
    (v.outcome e).wrote = v.written.isSome := by
  refine Bool.eq_iff_iff.mpr (Iff.trans ?_ proper.symm)
  have fetch := clear ⟨.get e.name, v.fetched⟩ List.mem_cons_self
  obtain ⟨err | d, written⟩ := v
  · by_cases h : err.isNotFound = true
    · exact iff_of_true rfl h
    · cases (if_neg h).symm.trans fetch
  · by_cases h : d.thresholds = e.thresholds <;>
      simp [outcome, Except.toOption, PolicyOutcome.dueFor, PolicyOutcome.wrote,
        PlannedPolicy.CallsForWrite, h]

end Visit

/-- The visits that a pass makes to entries, and what it returns. -/
inductive Tour :
    List PlannedPolicy → List Visit → Except PolicyError (List CategoryOutcome) → Prop where
  | home : Tour [] [] (.ok [])
  /-- A call fails. -/
  | stop {e : PlannedPolicy} {todo : List PlannedPolicy} {v : Visit}
      {before : List (Turn PolicyCall.Answer)} {call : Turn PolicyCall.Answer}
      {err : RemoteError} (proper : v.Proper e) (calls : v.turns e = before ++ [call])
      (clear : ∀ x ∈ before, PolicyCall.failure? x = none)
      (fails : PolicyCall.failure? call = some err) :
      Tour (e :: todo) [v] (.error ⟨call.1.operation, e.name, err⟩)
  | next {e : PlannedPolicy} {todo : List PlannedPolicy} {v : Visit} {vs : List Visit}
      {r : Except PolicyError (List CategoryOutcome)} (proper : v.Proper e) (clear : v.Clear e)
      (rest : Tour todo vs r) :
      Tour (e :: todo) (v :: vs) (r.map (⟨e.category, v.outcome e⟩ :: ·))

/-- The calls of visits to entries, with their answers. -/
def visitsTo (es : List PlannedPolicy) (vs : List Visit) : List (Turn PolicyCall.Answer) :=
  (vs.zip es).flatMap fun x => x.1.turns x.2

/-! ### Every pass is a tour -/

namespace Stage

variable {σ : Type} {answer : (q : PolicyCall) → σ → q.Answer × σ}

/-- The rest of a pass with the entries `todo` before it is a tour of them. -/
def Tours (answer : (q : PolicyCall) → σ → q.Answer × σ) (todo : List PlannedPolicy) : Prop :=
  ∀ past s, ∃ vs r, Tour todo vs r ∧
    (fetching past todo).rest.turns answer s = visitsTo todo vs ∧
    ((fetching past todo).rest.run answer s).1 = r.map (past ++ ·)

/-- A pass that was called on to write an entry goes on as a tour. -/
theorem Tours.writing {todo : List PlannedPolicy} (ih : Tours answer todo) {e : PlannedPolicy}
    {f : Except RemoteError Policy} (calls : e.CallsForWrite f)
    (clear : PolicyCall.failure? ⟨.get e.name, f⟩ = none) (past : List CategoryOutcome) (s : σ) :
    let stage := Stage.writing past e (.dueFor f.toOption e.thresholds) todo
    ∃ vs r, Tour (e :: todo) vs r ∧
      ⟨.get e.name, f⟩ :: stage.rest.turns answer s = visitsTo (e :: todo) vs ∧
      (stage.rest.run answer s).1 = r.map (past ++ ·) := by
  intro stage
  have proper : ∀ r, Visit.Proper ⟨f, some r⟩ e := fun r => iff_of_true rfl calls
  simp only [stage, rest_writing, Dialogue.turns, Dialogue.run]
  cases hr : (answer (.put e.name e.document) s).1 with
  | ok u =>
      obtain ⟨vs, r, tour, hx, hrun⟩ :=
        ih (past ++ [⟨e.category, .dueFor f.toOption e.thresholds⟩])
          (answer (.put e.name e.document) s).2
      refine ⟨⟨f, some (.ok u)⟩ :: vs, _, .next (proper _) ?_ tour, ?_, ?_⟩
      · intro x hx
        simp only [Visit.turns, Option.map_some, Option.toList_some, List.mem_cons,
          List.not_mem_nil, or_false] at hx
        rcases hx with rfl | rfl
        · exact clear
        · rfl
      · rw [afterWrite, hx]
        rfl
      · rw [afterWrite, hrun]
        cases r <;> simp [Except.map, Visit.outcome]
  | error err =>
      have calls : Visit.turns ⟨f, some (.error err)⟩ e
          = [⟨.get e.name, f⟩] ++ [⟨.put e.name e.document, .error err⟩] := rfl
      refine ⟨[⟨f, some (.error err)⟩], _, .stop (proper _) calls ?_ rfl, rfl, rfl⟩
      intro x hx
      rw [List.mem_singleton.mp hx]
      exact clear

/-- **Every pass is a tour** of its entries, whatever the answers of the store are. -/
theorem exists_tour (answer : (q : PolicyCall) → σ → q.Answer × σ) (todo : List PlannedPolicy) :
    Tours answer todo := by
  induction todo with
  | nil =>
      intro past s
      rw [rest_fetching_nil]
      exact ⟨[], _, .home, rfl, by simp [Dialogue.run, Except.map]⟩
  | cons e todo ih =>
      intro past s
      rw [rest_fetching_cons]
      simp only [Dialogue.turns, Dialogue.run]
      cases hf : (answer (.get e.name) s).1 with
      | ok d =>
          by_cases h : d.thresholds = e.thresholds
          · obtain ⟨vs, r, tour, hx, hrun⟩ :=
              ih (past ++ [⟨e.category, .unchanged⟩]) (answer (.get e.name) s).2
            have proper : Visit.Proper ⟨.ok d, none⟩ e :=
              iff_of_false Bool.false_ne_true fun hne => hne h
            refine ⟨⟨.ok d, none⟩ :: vs, _, .next proper ?_ tour, ?_, ?_⟩
            · intro x hx
              rw [List.mem_singleton.mp hx]
              rfl
            · rw [afterFetch, if_pos h, hx]
              rfl
            · rw [afterFetch, if_pos h, hrun]
              cases r <;>
                simp [Except.map, Visit.outcome, Except.toOption, PolicyOutcome.dueFor, h]
          · simpa only [afterFetch, if_neg h, Except.toOption, PolicyOutcome.dueFor]
              using ih.writing (f := .ok d) h rfl past (answer (.get e.name) s).2
      | error err =>
          by_cases h : err.isNotFound = true
          · simpa only [afterFetch, if_pos h, Except.toOption, PolicyOutcome.dueFor]
              using ih.writing (f := .error err) h (if_pos h) past (answer (.get e.name) s).2
          · have proper : Visit.Proper ⟨.error err, none⟩ e := iff_of_false Bool.false_ne_true h
            have calls : Visit.turns ⟨.error err, none⟩ e
                = [] ++ [⟨.get e.name, .error err⟩] := rfl
            rw [afterFetch, if_neg h]
            exact ⟨[⟨.error err, none⟩], _, .stop proper calls (by simp) (if_neg h), rfl, rfl⟩

end Stage

/-! ### What a tour amounts to -/

namespace Tour

variable {es : List PlannedPolicy} {vs : List Visit}
  {r : Except PolicyError (List CategoryOutcome)}

/-- No more entries are visited than there are. -/
theorem length_le (h : Tour es vs r) : vs.length ≤ es.length := by
  induction h with
  | home => exact Nat.le_refl 0
  | stop _ _ _ _ => exact Nat.succ_le_succ (Nat.zero_le _)
  | next _ _ _ ih => exact Nat.succ_le_succ ih

theorem proper (h : Tour es vs r) : ∀ x ∈ vs.zip es, x.1.Proper x.2 := by
  induction h with
  | home => simp
  | stop proper _ _ _ => simpa using proper
  | next proper _ _ ih =>
      rw [List.zip_cons_cons]
      exact List.forall_mem_cons.mpr ⟨proper, ih⟩

/-- A tour with outcomes has visited every entry, and no call of it has failed. -/
theorem ok {os : List CategoryOutcome} (h : Tour es vs (.ok os)) :
    vs.length = es.length ∧ (∀ x ∈ vs.zip es, x.1.Clear x.2) ∧
      os = (vs.zip es).map fun x => ⟨x.2.category, x.1.outcome x.2⟩ := by
  generalize hr : Except.ok os = r at h
  induction h generalizing os with
  | home =>
      cases hr
      simp
  | stop _ _ _ _ => cases hr
  | @next _ _ _ _ r _ clear _ ih =>
      cases r with
      | error err => cases hr
      | ok os' =>
          obtain ⟨hl, hc, ho⟩ := ih rfl
          cases hr
          rw [List.zip_cons_cons]
          exact ⟨congrArg (· + 1) hl, List.forall_mem_cons.mpr ⟨clear, hc⟩, congrArg _ ho⟩

/-- A tour that ends in an error ends with the first call that failed, and the error says which call
that was and why. -/
theorem error {err : PolicyError} (h : Tour es vs (.error err)) :
    ∃ past e later before call, es = past ++ e :: later ∧ vs.length = past.length + 1 ∧
      visitsTo es vs = before ++ [call] ∧ (∀ x ∈ before, PolicyCall.failure? x = none) ∧
      call.1.name = e.name ∧ PolicyCall.failure? call = some err.source ∧
      err.operation = call.1.operation ∧ err.policy = e.name := by
  generalize hr : Except.error err = r at h
  induction h generalizing err with
  | home => cases hr
  | @stop e todo v before call _ _ calls clear fails =>
      cases hr
      have name : call.1.name = e.name := by
        have mem : call ∈ v.turns e := by simp [calls]
        rcases List.mem_cons.mp mem with rfl | mem
        · rfl
        · obtain ⟨r, -, rfl⟩ := Option.map_eq_some_iff.mp (Option.mem_toList.mp mem)
          rfl
      refine ⟨[], e, todo, before, call, rfl, rfl, ?_, clear, name, fails, rfl, rfl⟩
      simp [visitsTo, calls]
  | @next e _ v _ r _ clear _ ih =>
      cases r with
      | ok os => cases hr
      | error err' =>
          cases hr
          obtain ⟨past, e', later, before, call, rfl, hl, hx, clear', name, fails, hop, hpolicy⟩ :=
            ih rfl
          refine ⟨e :: past, e', later, v.turns e ++ before, call, rfl, congrArg (· + 1) hl, ?_,
            ?_, name, fails, hop, hpolicy⟩
          · rw [visitsTo, List.zip_cons_cons, List.flatMap_cons, ← visitsTo, hx, List.append_assoc]
          · intro x hx
            exact (List.mem_append.mp hx).elim (clear x) (clear' x)

/-- **A pass writes what is planned**, for some of the entries in their order, and nothing else. -/
theorem writes (h : Tour es vs r) : ∃ written : List PlannedPolicy, written.Sublist es ∧
    ((visitsTo es vs).map Sigma.fst).filter PolicyCall.isPut
      = written.map PlannedPolicy.write := by
  have visit (v : Visit) (e : PlannedPolicy) : ∃ written : List PlannedPolicy,
      written.Sublist [e] ∧ ((v.turns e).map Sigma.fst).filter PolicyCall.isPut
        = written.map PlannedPolicy.write := by
    obtain ⟨f, _ | r⟩ := v
    · exact ⟨[], List.nil_sublist _, rfl⟩
    · exact ⟨[e], List.Sublist.refl _, rfl⟩
  induction h with
  | home => exact ⟨[], List.Sublist.refl _, rfl⟩
  | @stop e todo v _ _ _ _ _ _ _ =>
      obtain ⟨written, hs, hw⟩ := visit v e
      refine ⟨written, hs.trans (List.singleton_sublist.mpr List.mem_cons_self), ?_⟩
      simpa [visitsTo] using hw
  | @next e _ v _ _ _ _ _ ih =>
      obtain ⟨written, hs, hw⟩ := visit v e
      obtain ⟨written', hs', hw'⟩ := ih
      refine ⟨written ++ written', hs.append hs', ?_⟩
      rw [List.map_append, ← hw, ← hw', ← List.filter_append, ← List.map_append]
      rfl

end Tour

/-- The writes of a pass, with any store. -/
theorem Plan.writes_reconcile {σ : Type} (answer : (q : PolicyCall) → σ → q.Answer × σ) (p : Plan)
    (s : σ) : ∃ written : List PlannedPolicy, written.Sublist p.entries ∧
      (p.reconcile.transcript answer s).filter PolicyCall.isPut
        = written.map PlannedPolicy.write := by
  obtain ⟨vs, r, tour, heard, -⟩ := Stage.exists_tour answer p.entries [] s
  rw [← p.reconcile_eq_rest] at heard
  rw [← map_fst_turns, heard]
  exact tour.writes

/-- The writes of a visit. -/
theorem Visit.countP_turns (v : Visit) (e : PlannedPolicy) :
    (v.turns e).countP (·.1.isPut) = if v.written.isSome then 1 else 0 := by
  obtain ⟨f, _ | r⟩ := v <;> rfl

/-- As many outcomes tell of a write as there are writes. -/
theorem countP_wrote {xs : List (Visit × PlannedPolicy)} (proper : ∀ x ∈ xs, x.1.Proper x.2)
    (clear : ∀ x ∈ xs, x.1.Clear x.2) :
    xs.countP (fun x => (x.1.outcome x.2).wrote)
      = (xs.flatMap fun x => x.1.turns x.2).countP (·.1.isPut) := by
  induction xs with
  | nil => rfl
  | cons x xs ih =>
      obtain ⟨hp, proper⟩ := List.forall_mem_cons.mp proper
      obtain ⟨hc, clear⟩ := List.forall_mem_cons.mp clear
      rw [List.flatMap_cons, List.countP_cons, List.countP_append, Visit.countP_turns,
        ih proper clear, Visit.wrote_outcome hp hc, Nat.add_comm]

/-- A visit amounts to a creation if and only if its fetch finds no policy. -/
theorem Visit.outcome_eq_created_iff {v : Visit} {e : PlannedPolicy} (clear : v.Clear e) :
    v.outcome e = .created ↔ ∃ err, v.fetched = .error err ∧ err.isNotFound = true := by
  have fetch := clear ⟨.get e.name, v.fetched⟩ List.mem_cons_self
  obtain ⟨err | d, written⟩ := v
  · by_cases h : err.isNotFound = true
    · exact iff_of_true rfl ⟨err, rfl, h⟩
    · cases (if_neg h).symm.trans fetch
  · by_cases h : d.thresholds = e.thresholds <;>
      simp [outcome, Except.toOption, PolicyOutcome.dueFor, h]

/-- What has been updated differed somewhere. -/
theorem PolicyOutcome.dueFor_ne_updated_nil (stored : Option Policy) (t : Thresholds) :
    dueFor stored t ≠ .updated [] := by
  cases stored with
  | none => exact nofun
  | some d =>
      by_cases h : d.thresholds = t
      · simp [dueFor, h]
      · simpa [dueFor, h] using mt Thresholds.differences_eq_nil_iff.mp h

/-- **Call discipline of a pass**, whatever the store answers.  For the entries in order a pass
fetches the policy and then writes the planned document if and only if the answer calls for that.
It either visits all entries without a failure, and reports one outcome for each, or it ends with
the first call that fails, and reports that call's operation, the entry's name and the failure. -/
theorem reconcile_discipline {σ : Type} (answer : (q : PolicyCall) → σ → q.Answer × σ) (p : Plan)
    (s : σ) :
    let heard := p.reconcile.turns answer s
    p.reconcile.transcript answer s = heard.map Sigma.fst ∧
    ∃ visits : List Visit,
      heard = visitsTo p.entries visits ∧
      visits.length ≤ p.entries.length ∧
      (∀ x ∈ visits.zip p.entries,
        x.1.written.isSome = true ↔ x.2.CallsForWrite x.1.fetched) ∧
      match (p.reconcile.run answer s).1 with
      | .ok os =>
          visits.length = p.entries.length ∧
          (∀ x ∈ heard, PolicyCall.failure? x = none) ∧
          os.map CategoryOutcome.category = p.entries.map PlannedPolicy.category ∧
          os.countP (·.outcome.wrote) = heard.countP (·.1.isPut) ∧
          (∀ (i : Nat) (o : CategoryOutcome) (v : Visit), os[i]? = some o → visits[i]? = some v →
            (o.outcome = .created ↔ ∃ err, v.fetched = .error err ∧ err.isNotFound = true)) ∧
          ∀ o ∈ os, o.outcome ≠ .updated []
      | .error err =>
          ∃ past e later before call, p.entries = past ++ e :: later ∧
            visits.length = past.length + 1 ∧
            heard = before ++ [call] ∧ (∀ x ∈ before, PolicyCall.failure? x = none) ∧
            PolicyCall.failure? call = some err.source ∧
            call.1.name = e.name ∧ err.policy = e.name ∧
            err.operation.name = if call.1.isPut then "ilm.put" else "ilm.get" := by
  intro heard
  refine ⟨(map_fst_turns answer _ s).symm, ?_⟩
  obtain ⟨vs, r, tour, hx, hrun⟩ := Stage.exists_tour answer p.entries [] s
  rw [← p.reconcile_eq_rest] at hx hrun
  have hr : (p.reconcile.run answer s).1 = r := by
    rw [hrun]
    cases r <;> rfl
  replace hx : heard = visitsTo p.entries vs := hx
  refine ⟨vs, hx, tour.length_le, tour.proper, ?_⟩
  rw [hr]
  cases r with
  | ok os =>
      obtain ⟨hl, clear, rfl⟩ := tour.ok
      refine ⟨hl, ?_, ?_, ?_, ?_, ?_⟩
      · intro x mem
        rw [hx] at mem
        obtain ⟨y, hy, mem⟩ := List.mem_flatMap.mp mem
        exact clear y hy x mem
      · have categories : ((vs.zip p.entries).map Prod.snd).map PlannedPolicy.category
            = p.entries.map PlannedPolicy.category := by
          rw [List.map_snd_zip (Nat.le_of_eq hl.symm)]
        rw [List.map_map] at categories ⊢
        exact categories
      · rw [hx, List.countP_map]
        exact countP_wrote tour.proper clear
      · intro i o v ho hv
        rw [List.getElem?_map, Option.map_eq_some_iff] at ho
        obtain ⟨x, hx, rfl⟩ := ho
        obtain ⟨hv', -⟩ := List.getElem?_zip_eq_some.mp hx
        rw [← Option.some.inj (hv'.symm.trans hv)]
        exact Visit.outcome_eq_created_iff (clear x (List.mem_of_getElem? hx))
      · intro o ho
        obtain ⟨x, -, rfl⟩ := List.mem_map.mp ho
        exact PolicyOutcome.dueFor_ne_updated_nil _ _
  | error err =>
      obtain ⟨past, e, later, before, call, hes, hl, hcalls, clear, name, fails, hop, hpolicy⟩ :=
        tour.error
      refine ⟨past, e, later, before, call, hes, hl, hx.trans hcalls, clear, fails, name, hpolicy,
        ?_⟩
      rw [hop]
      obtain ⟨_ | _, _⟩ := call <;> rfl

end LogSteward
