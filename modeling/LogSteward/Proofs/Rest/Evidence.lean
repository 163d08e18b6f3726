import LogSteward.Proofs.Rest.Calls
import LogSteward.Proofs.Retention.Stage

/-!
# A policy is overwritten on evidence only

What follows the fetch of a policy over HTTP, for every answer there can be.  A write is sent if and
only if the answer is evidence that the stored policy is not as planned (`Evidence`): the store has
said that there is none, or has listed policies of which the one of the name is missing or differs.
A refusal, a reply that broke off and a listing that cannot be read are none.
-/

namespace LogSteward

open Rest Json PolicyCall

/-- The failure to fetch a policy. -/
def PolicyError.ofFetch (name : String) (cause : RemoteCause) : PolicyError :=
  ⟨.policyGet, name, ⟨.policyGet, cause⟩⟩

/-- The answer to the fetch of a policy shows that it is not as planned. -/
inductive Evidence (name : String) (t : Thresholds) (a : Except String Reply) : Prop where
  | absent {r : Reply} (h : a = .ok r) (h' : r.status = 404)
  | unlisted {listing : List (String × Policy)} (h : Lists a listing)
      (h' : listing.reverse.lookup name = none)
  | differing {listing : List (String × Policy)} {p : Policy} (h : Lists a listing)
      (h' : listing.reverse.lookup name = some p) {f : Thresholds.Field}
      (h'' : p.thresholds.DiffersAt t f)

/-- The answer to the fetch of a policy shows that it is as planned. -/
def Confirmed (name : String) (t : Thresholds) (a : Except String Reply) : Prop :=
  ∃ listing p, Lists a listing ∧ listing.reverse.lookup name = some p ∧ p.thresholds = t

/-- An answer is evidence, or it confirms the policy, or the fetch has failed; and then not because
there is no such policy. -/
theorem evidence_cases (name : String) (t : Thresholds) (a : Except String Reply) :
    Evidence name t a ∨ Confirmed name t a ∨
      ∃ e, found name a = .error e ∧ e.isNotFound = false := by
  cases a with
  | error reason => exact .inr (.inr ⟨_, found_error name reason, rfl⟩)
  | ok r =>
      by_cases h₄ : r.status = 404
      · exact .inl (.absent rfl h₄)
      cases hs : r.isSuccess with
      | false => exact .inr (.inr ⟨_, found_refused name h₄ hs, rfl⟩)
      | true =>
          cases hb : r.body with
          | none => exact .inr (.inr ⟨_, found_brokenOff name hs hb, rfl⟩)
          | some body =>
              cases hl : decodeListing body with
              | error f => exact .inr (.inr ⟨_, found_unreadable name hs hb hl, rfl⟩)
              | ok listing =>
                  have lists : Lists (.ok r) listing := ⟨r, body, rfl, hs, hb, hl⟩
                  -- only now does it matter whose policies are listed
                  cases hp : listing.reverse.lookup name with
                  | none => exact .inl (.unlisted lists hp)
                  | some p =>
                      by_cases ht : p.thresholds = t
                      · exact .inr (.inl ⟨listing, p, lists, hp, ht⟩)
                      · obtain ⟨f, hf⟩ := List.exists_mem_of_ne_nil _
                          (mt Thresholds.differences_eq_nil_iff.mp ht)
                        exact .inl (.differing lists hp (Thresholds.mem_differences.mp hf))

namespace Client

variable {c : Client} {name : String} {t : Thresholds} {address : Url}

/-- The write of a planned policy, and what comes of it. -/
def writing (c : Client) (address : Url) (name : String) (t : Thresholds) (o : PolicyOutcome) :
    Exchange (Except PolicyError PolicyOutcome) :=
  .ask (c.store address (Policy.ofThresholds t)) fun a => .done
    (match judge .policyPut name a with
    | .ok _ => .ok o
    | .error e => .error ⟨.policyPut, name, e⟩)

/-- What follows the answer to the fetch of a policy. -/
def afterAnswer (c : Client) (address : Url) (name : String) (t : Thresholds)
    (a : Except String Reply) : Exchange (Except PolicyError PolicyOutcome) :=
  match found name a with
  | .ok stored =>
    if stored.thresholds = t then .done (.ok .unchanged)
    else c.writing address name t (.updated (stored.thresholds.differences t))
  | .error e =>
    if e.isNotFound then c.writing address name t .created
    else .done (.error ⟨.policyGet, name, e⟩)

/-- A policy that is to be written is written by one request. -/
theorem overPolicies_writePolicy (h : c.endpoint.below? (PolicyCall.get name).path = some address)
    (o : PolicyOutcome) :
    c.overPolicies (writePolicy name t o) = c.writing address name t o := by
  have hp : c.endpoint.below? (PolicyCall.put name (Policy.ofThresholds t)).path = some address := h
  simp only [overPolicies, writePolicy, Dialogue.interpret, askPolicy_put hp, Dialogue.andThen,
    writing]
  congr 1
  funext a
  cases judge .policyPut name a with
  | ok r => rfl
  | error e => rfl

/-- Reconciling a policy over HTTP: a fetch, and what follows its answer. -/
theorem overPolicies_reconcilePolicy
    (h : c.endpoint.below? (PolicyCall.get name).path = some address) :
    c.overPolicies (reconcilePolicy name t)
      = .ask (c.fetch address) (c.afterAnswer address name t) := by
  rw [reconcilePolicy_eq, overPolicies, Dialogue.interpret, askPolicy_get h, Dialogue.andThen]
  congr 1
  funext a
  simp only [Dialogue.andThen, afterAnswer]
  cases found name a with
  | ok stored =>
      by_cases hd : stored.thresholds = t
      · simp only [reconcileFetched, if_pos hd]
        rfl
      · simp only [reconcileFetched, if_neg hd]
        exact overPolicies_writePolicy h _
  | error e =>
      by_cases hn : e.isNotFound = true
      · simp only [reconcileFetched, if_pos hn]
        exact overPolicies_writePolicy h _
      · simp only [reconcileFetched, if_neg hn]
        rfl

/-! ### Which answers are followed by a write -/

/-- An answer that is evidence is followed by the write of the planned document. -/
theorem afterAnswer_of_evidence {a : Except String Reply} (h : Evidence name t a) :
    ∃ o, c.afterAnswer address name t a = c.writing address name t o := by
  rw [afterAnswer]
  cases h with
  | absent h h' =>
      subst h
      rw [found_404 name h']
      exact ⟨.created, rfl⟩
  | unlisted h h' =>
      rw [found_listed name h, pick, h']
      exact ⟨.created, rfl⟩
  | @differing listing p h h' f h'' =>
      have hne : p.thresholds ≠ t := fun e => by
        have := Thresholds.mem_differences.mpr h''
        rw [Thresholds.differences_eq_nil_iff.mpr e] at this
        cases this
      rw [found_listed name h, pick, h']
      exact ⟨_, if_neg hne⟩

/-- A policy that is confirmed to be in order is left alone. -/
theorem afterAnswer_of_confirmed {a : Except String Reply} (h : Confirmed name t a) :
    c.afterAnswer address name t a = .done (.ok .unchanged) := by
  obtain ⟨listing, p, h, h', ht⟩ := h
  rw [afterAnswer, found_listed name h, pick, h']
  exact if_pos ht

/-- An answer by which the fetch has failed ends the reconciling. -/
theorem afterAnswer_of_error {a : Except String Reply} {cause : RemoteCause}
    (h : found name a = .error ⟨.policyGet, cause⟩)
    (h' : RemoteError.isNotFound ⟨.policyGet, cause⟩ = false) :
    c.afterAnswer address name t a = .done (.error (.ofFetch name cause)) := by
  rw [afterAnswer, h]
  exact if_neg (ne_true_of_eq_false h')

/-- There is a write exactly if there is evidence that one is needed. -/
theorem afterAnswer_asks_iff {a : Except String Reply} :
    (∃ q k, c.afterAnswer address name t a = .ask q k) ↔ Evidence name t a := by
  refine ⟨fun ⟨q, k, hq⟩ => ?_, fun h => ?_⟩
  · rcases evidence_cases name t a with h | h | ⟨e, h, hn⟩
    · exact h
    · rw [afterAnswer_of_confirmed h] at hq
      cases hq
    · rw [afterAnswer, h] at hq
      simp only [hn, Bool.false_eq_true, if_false] at hq
      cases hq
  · obtain ⟨o, ho⟩ := afterAnswer_of_evidence h
    exact ⟨_, _, ho⟩

/-- It is reported as unchanged exactly if it is confirmed to be in order. -/
theorem afterAnswer_unchanged_iff {a : Except String Reply} :
    c.afterAnswer address name t a = .done (.ok .unchanged) ↔ Confirmed name t a := by
  refine ⟨fun hd => ?_, afterAnswer_of_confirmed⟩
  rcases evidence_cases name t a with h | h | ⟨e, h, hn⟩
  · obtain ⟨o, ho⟩ : ∃ o, c.afterAnswer address name t a = c.writing address name t o :=
      afterAnswer_of_evidence h
    rw [ho] at hd
    cases hd
  · exact h
  · rw [afterAnswer, h] at hd
    simp only [hn, Bool.false_eq_true, if_false] at hd
    cases hd

/-- **A policy is overwritten on evidence only.**  Reconciling a policy fetches it; then, whatever
the answer is:
* a write is sent if and only if the answer is evidence, it is the only one, and it carries the
  planned document, wrapped;
* the policy is reported as unchanged if and only if the answer confirms it;
* an answer that does not come, a refusal, a reply that broke off, and a listing that cannot be
  read, if only in an entry of another name, are failures that say which of these it was. -/
theorem writes_iff_evidence (c : Client) (name : String) (t : Thresholds) :
    match c.endpoint.below? (PolicyCall.get name).path with
    | none =>
      c.overPolicies (reconcilePolicy name t)
        = .done (.error (.ofFetch name (.badEndpoint c.endpoint.toText)))
    | some address =>
      ∃ next, c.overPolicies (reconcilePolicy name t) = .ask (c.fetch address) next ∧ ∀ a,
        ((∃ q k, next a = .ask q k) ↔ Evidence name t a) ∧
        (∀ q k, next a = .ask q k →
          q = c.store address (Policy.ofThresholds t) ∧ ∀ b, ∃ res, k b = .done res) ∧
        (next a = .done (.ok .unchanged) ↔ Confirmed name t a) ∧
        (∀ reason, a = .error reason →
          next a = .done (.error (.ofFetch name (.undelivered reason)))) ∧
        ∀ r, a = .ok r →
          (r.isSuccess = false → r.status ≠ 404 →
            next a = .done (.error (.ofFetch name (.refused r.status r.text)))) ∧
          (r.isSuccess = true → r.body = none →
            next a = .done (.error (.ofFetch name (.undelivered brokenOff)))) ∧
          (r.isSuccess = true → ∀ body f, r.body = some body →
            decodeListing body = .error f ∨ Spoiled f body →
              next a = .done (.error (.ofFetch name (.unreadable f)))) := by
  cases h : c.endpoint.below? (PolicyCall.get name).path with
  | none =>
      rw [reconcilePolicy_eq, overPolicies, Dialogue.interpret, askPolicy, send]
      simp only [h]
      rfl
  | some address =>
      refine ⟨_, overPolicies_reconcilePolicy h, fun a =>
        ⟨afterAnswer_asks_iff, fun q k hq => ?_, afterAnswer_unchanged_iff, ?_, ?_⟩⟩
      · obtain ⟨o, ho⟩ := afterAnswer_of_evidence (afterAnswer_asks_iff.mp ⟨q, k, hq⟩)
        rw [ho] at hq
        cases hq
        exact ⟨rfl, fun b => ⟨_, rfl⟩⟩
      · rintro reason rfl
        exact afterAnswer_of_error (found_error name reason) rfl
      · rintro r rfl
        refine ⟨fun hs h₄ => ?_, fun hs hb => ?_, fun hs body f hb hf => ?_⟩
        · exact afterAnswer_of_error (found_refused name h₄ hs) rfl
        · exact afterAnswer_of_error (found_brokenOff name hs hb) rfl
        · have hl : decodeListing body = .error f := hf.elim id decode_spoiled
          exact afterAnswer_of_error (found_unreadable name hs hb hl) rfl

end Client

end LogSteward
