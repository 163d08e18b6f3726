import LogSteward.Proofs.Remote.Dialogue
import LogSteward.Proofs.Rest.Calls
import LogSteward.Proofs.Retention.Rewriting
import LogSteward.Proofs.Url.Names

/-!
# The store over HTTP is a store of policies

A server that keeps a policy for each category (`Client.KeepsPolicies`) may spell what it hands out
in any way: with escapes and blanks, with its members in any order, with any members besides them at
every level, and with the policies of other names in the same listing.  Over HTTP it is told apart
from a faithful store by no computation over the policies of the categories
(`overPolicies_refines`): each call is answered alike, from the same policies and leaving the same
policies (`run_askPolicy`), and so is every run of them.
-/

namespace LogSteward

open Rest Json PolicyCall

/-! ### What is asked -/

/-- The call is for the policy of a category. -/
def PolicyCall.IsForCategory (q : PolicyCall) : Prop :=
  ∃ k, q.name = Category.policyName k

/-- To write a policy asks for no other. -/
theorem asks_writePolicy (name : String) (t : Thresholds) (o : PolicyOutcome) :
    (writePolicy name t o).Asks fun q => q.name = name :=
  ⟨rfl, fun r => by cases r <;> trivial⟩

/-- Reconciling a policy asks for nothing but that policy. -/
theorem asks_reconcilePolicy (name : String) (t : Thresholds) :
    (reconcilePolicy name t).Asks fun q => q.name = name := by
  rw [reconcilePolicy_eq]
  refine ⟨rfl, fun r => ?_⟩
  cases r with
  | ok stored =>
      by_cases h : stored.thresholds = t
      · rw [reconcileFetched, if_pos h]
        trivial
      · rw [reconcileFetched, if_neg h]
        exact asks_writePolicy name t _
  | error e =>
      by_cases h : e.isNotFound = true
      · rw [reconcileFetched, if_pos h]
        exact asks_writePolicy name t _
      · rw [reconcileFetched, if_neg h]
        trivial

/-- A pass asks for policies of categories only. -/
theorem asks_reconcileEntries (es : List PlannedPolicy) :
    (reconcileEntries es).Asks IsForCategory := by
  induction es with
  | nil => trivial
  | cons e es ih =>
      refine ((asks_reconcilePolicy e.name e.thresholds).mono fun q hq => ⟨e.category, hq⟩).andThen
        fun r => ?_
      cases r with
      | error err => trivial
      | ok o =>
          refine ih.andThen fun r => ?_
          cases r <;> trivial

/-- A pass asks for the policies of categories only. -/
theorem Plan.asks_reconcile (p : Plan) : p.reconcile.Asks IsForCategory :=
  asks_reconcileEntries p.entries

/-! ### Servers -/

namespace Client

/-- Where a policy is, for a client whose endpoint has the given segments. -/
def policyAddress (c : Client) (parts : List String) (name : String) : Url :=
  { c.endpoint with path := .segments (Url.stem parts ++ ["_ilm", "policy", name]) }

/-- The request as which a call is put. -/
def request (c : Client) (parts : List String) : PolicyCall → Request
  | .get name => c.fetch (c.policyAddress parts name)
  | .put name p => c.store (c.policyAddress parts name) p

/-- A request of the client for the policy of a category. -/
structure Reaches (c : Client) (parts : List String) (k : Category) (q : Request) : Prop where
  address : q.address = (c.policyAddress parts k.policyName).requested
  authorization : q.authorization = c.credentials.authorization

/-- The answer lists a policy under its name, once, among the policies of any other names. -/
inductive Shows (k : Category) (p : Policy) : Except String Reply → Prop where
  | mk {w body w' : Octets} (before after : List (String × Policy)) (hw : Blanks w)
      (h : listingForm (before ++ (k.policyName, p) :: after) body) (hw' : Blanks w')
      (other : ∀ e ∈ before ++ after, e.1 ≠ k.policyName) :
      Shows k p (.ok ⟨200, some (w ++ (body ++ w'))⟩)

/-- A server keeps a policy for each category, `held`, and answers the requests of a client about
them: what is sent, wrapped, is kept; what is not there has status 404; and what is there is
listed. -/
structure KeepsPolicies (c : Client) (parts : List String) {σ : Type}
    (answer : (q : Request) → σ → Answer q × σ) (held : σ → Category → Option Policy) : Prop where
  put : ∀ k p q s text, c.Reaches parts k q → q.method = .put → q.body = some text →
    envelopeForm p (Utf8.encode text) →
      (∃ r, (answer q s).1 = .ok r ∧ r.isSuccess = true) ∧
        held (answer q s).2 = Function.update (held s) k (some p)
  get_keeps : ∀ k q s, c.Reaches parts k q → q.method = .get → held (answer q s).2 = held s
  get_absent : ∀ k q s, c.Reaches parts k q → q.method = .get → held s k = none →
    ∃ r, (answer q s).1 = .ok r ∧ r.status = 404
  get_present : ∀ k p q s, c.Reaches parts k q → q.method = .get → held s k = some p →
    Shows k p (answer q s).1

variable {c : Client} {parts : List String}

/-- A fetch reaches the policy of its category. -/
theorem reaches_fetch (c : Client) (parts : List String) (k : Category) :
    c.Reaches parts k (c.fetch (c.policyAddress parts k.policyName)) :=
  ⟨rfl, rfl⟩

theorem reaches_store (c : Client) (parts : List String) (k : Category) (p : Policy) :
    c.Reaches parts k (c.store (c.policyAddress parts k.policyName) p) :=
  ⟨rfl, rfl⟩

/-- The policies of categories are below every endpoint that has segments. -/
theorem below?_policy (hu : c.endpoint.path = .segments parts) (k : Category) :
    c.endpoint.below? (PolicyCall.get k.policyName).path
      = some (c.policyAddress parts k.policyName) := by
  have words : ∀ k : Category, ∀ n ∈ ["policy", k.policyName], Url.IsWord n ∧ n ≠ "" := by
    intro k
    cases k <;> decide
  exact Url.below?_words hu (by decide) (words k)

/-- What is shown is found. -/
theorem Shows.found {k : Category} {p : Policy} {a : Except String Reply} (h : Shows k p a) :
    found k.policyName a = .ok p := by
  obtain ⟨before, after, hw, h, hw', other⟩ := h
  have lists := reads_listing.decodeOctets hw h hw'
  have look : (before ++ (k.policyName, p) :: after).reverse.lookup k.policyName = some p := by
    -- of entries of one name the last one counts, but no other is of this name
    refine List.lookup_eq_some_iff.mpr ⟨after.reverse, before.reverse, by simp, fun e he => ?_⟩
    have hne := other e (List.mem_append_right _ (List.mem_reverse.mp he))
    simpa using hne.symm
  rw [found_listed _ ⟨_, _, rfl, rfl, rfl, lists⟩, pick, look]

/-! ### Refinement -/

variable {σ : Type} {answer : (q : Request) → σ → Answer q × σ}
  {held : σ → Category → Option Policy}

/-- The server has the policies of the categories that are on the shelf. -/
def Mirrors (held : σ → Category → Option Policy) (s : σ) (shelf : PolicyShelf) : Prop :=
  ∀ k, held s k = shelf[k.policyName]?

/-- **One call** over HTTP: the answer of a faithful store, and the policies that it would have. -/
theorem run_askPolicy (hu : c.endpoint.path = .segments parts)
    (server : c.KeepsPolicies parts answer held) {q : PolicyCall} {s : σ} {shelf : PolicyShelf}
    (hq : q.IsForCategory) (hs : Mirrors held s shelf) :
    ((c.askPolicy q).run answer s).1 = (PolicyShelf.answer q shelf).1 ∧
      Mirrors held ((c.askPolicy q).run answer s).2 (PolicyShelf.answer q shelf).2 := by
  obtain ⟨k, hk⟩ := hq
  cases q with
  | get name =>
      obtain rfl : name = k.policyName := hk
      have reaches := c.reaches_fetch parts k
      rw [askPolicy_get (below?_policy hu k)]
      have kept :
          Mirrors held (answer (c.fetch (c.policyAddress parts k.policyName)) s).2 shelf := by
        rw [Mirrors, server.get_keeps k _ s reaches rfl]
        exact hs
      simp only [Dialogue.run, PolicyShelf.answer]
      cases hp : shelf[k.policyName]? with
      | none =>
          obtain ⟨r, hr, h₄⟩ := server.get_absent k _ s reaches rfl ((hs k).trans hp)
          refine ⟨?_, kept⟩
          rw [hr, found_404 _ h₄]
      | some p => exact ⟨(server.get_present k p _ s reaches rfl ((hs k).trans hp)).found, kept⟩
  | put name p =>
      obtain rfl : name = k.policyName := hk
      obtain ⟨⟨r, hr, hsuccess⟩, hheld⟩ := server.put k p _ s _ (c.reaches_store parts k p) rfl rfl
        (envelopeForm_written p)
      rw [askPolicy_put (below?_policy hu k)]
      simp only [Dialogue.run, PolicyShelf.answer]
      refine ⟨?_, congrFun ?_⟩
      · rw [hr, judge, if_neg (isSuccess_ne_404 hsuccess), if_pos hsuccess]
        rfl
      · rw [hheld, show held s = fun k => shelf[k.policyName]? from funext hs]
        exact (shelf.getElem?_insert_policyName k p).symm

/-- Each call is one request. -/
theorem transcript_askPolicy (hu : c.endpoint.path = .segments parts) {q : PolicyCall}
    (hq : q.IsForCategory) (s : σ) :
    (c.askPolicy q).transcript answer s = [c.request parts q] := by
  obtain ⟨k, hk⟩ := hq
  cases q with
  | get name =>
      obtain rfl : name = k.policyName := hk
      rw [askPolicy_get (below?_policy hu k)]
      rfl
  | put name p =>
      obtain rfl : name = k.policyName := hk
      rw [askPolicy_put (below?_policy hu k)]
      rfl

/-- **Any computation** over the policies of the categories goes over HTTP as it does with a
faithful store. -/
theorem run_overPolicies (hu : c.endpoint.path = .segments parts)
    (server : c.KeepsPolicies parts answer held) {s : σ} {shelf : PolicyShelf}
    (hs : Mirrors held s shelf) {α : Type} {d : PolicyDialogue α} (hd : d.Asks IsForCategory) :
    ((c.overPolicies d).run answer s).1 = (d.run PolicyShelf.answer shelf).1 ∧
      Mirrors held ((c.overPolicies d).run answer s).2 (d.run PolicyShelf.answer shelf).2 ∧
      (c.overPolicies d).transcript answer s
        = (d.transcript PolicyShelf.answer shelf).map (c.request parts) := by
  obtain ⟨hr, hm, ht⟩ := Dialogue.run_simulates (A := PolicyCall.Answer) (P := IsForCategory)
    (fun q s shelf hq hs => run_askPolicy (q := q) hu server hq hs) hd hs
  refine ⟨?_, ?_, ?_⟩
  · rw [overPolicies, Dialogue.run_interpret, hr]
  · rw [overPolicies, Dialogue.run_interpret]
    exact hm
  · rw [overPolicies, Dialogue.transcript_interpret (P := IsForCategory)
      (fun q s hq => transcript_askPolicy hu hq s) hd, ht]

/-- **The store over HTTP refines a store of policies.**  With a server that keeps the policies of
the categories, and a faithful store that has the same ones:
* any computation that calls for policies of categories, in any order and with any documents, has
  the same result over HTTP, and leaves the same policies;
* so has a pass over any plan;
* after a pass over the plan for storage settings, another one sends ten requests, each of which
  fetches the policy of a category, and finds all of them unchanged. -/
theorem overPolicies_refines (hu : c.endpoint.path = .segments parts)
    (server : c.KeepsPolicies parts answer held) {s : σ} {shelf : PolicyShelf}
    (hs : Mirrors held s shelf) :
    (∀ (α : Type) (d : PolicyDialogue α), d.Asks IsForCategory →
      ((c.overPolicies d).run answer s).1 = (d.run PolicyShelf.answer shelf).1 ∧
        Mirrors held ((c.overPolicies d).run answer s).2 (d.run PolicyShelf.answer shelf).2) ∧
    (∀ p : Plan,
      ((c.overPolicies p.reconcile).run answer s).1
          = (p.reconcile.run PolicyShelf.answer shelf).1 ∧
        Mirrors held ((c.overPolicies p.reconcile).run answer s).2
          (p.reconcile.run PolicyShelf.answer shelf).2) ∧
    ∀ settings, let again := c.overPolicies (Plan.ofSettings settings).reconcile
      let s' := (again.run answer s).2
      again.transcript answer s'
          = Category.catalogue.map (fun k => c.fetch (c.policyAddress parts k.policyName)) ∧
        (again.run answer s').1 = .ok (Category.catalogue.map (⟨·, .unchanged⟩)) := by
  refine ⟨fun α d hd => ?_, fun p => ?_, fun settings => ?_⟩
  · obtain ⟨hr, hm, -⟩ := run_overPolicies hu server hs hd
    exact ⟨hr, hm⟩
  · obtain ⟨hr, hm, -⟩ := run_overPolicies hu server hs p.asks_reconcile
    exact ⟨hr, hm⟩
  · intro again s'
    have asks := (Plan.ofSettings settings).asks_reconcile
    -- a faithful store answers every call, and the first pass leaves the server with the policies
    -- that the store then has
    obtain ⟨os, shelf₁, first⟩ := PolicyShelf.run_reconcile_ok (Plan.ofSettings settings) shelf
    obtain ⟨os', shelf₂, second⟩ := PolicyShelf.run_reconcile_ok (Plan.ofSettings settings) shelf₁
    have hs' : Mirrors held s' shelf₁ := by
      have := (run_overPolicies hu server hs asks).2.1
      rwa [first] at this
    obtain ⟨hr, -, ht⟩ := run_overPolicies hu server hs' asks
    rw [second] at hr
    obtain ⟨ho, hc⟩ := PolicyShelf.honest.run_reconcile_again
      (Plan.nodup_categories_ofSettings settings) first second
    refine ⟨?_, ?_⟩
    · rw [ht, hc, Plan.entries_ofSettings, List.map_map, List.map_map]
      rfl
    · rw [hr, ho, Plan.entries_ofSettings, List.map_map]
      rfl

end Client

/-! ### A server with members of its own -/

namespace ShelfServer

/-- A policy as the server lists it: with its version, and what it is used by. -/
def listed (p : Policy) : Json :=
  .object
    [("version", .number 1), ("policy", p.toJson), ("in_use_by", .object [("indices", .list [])])]

/-- The listing of a policy, after one that the server comes with. -/
def listing (name : String) (p : Policy) : Json :=
  .object [("slm-history-ilm-policy", listed {}), (name, listed p)]

/-- The server reads what it is sent, keeps it on a shelf, and lists it. -/
def answer (q : Request) (shelf : PolicyShelf) : Answer q × PolicyShelf :=
  match q.address.path, q.method, q.body with
  | .segments ["_ilm", "policy", name], .put, some body =>
    match decodeOctets envelope.reader (Utf8.encode body) with
    | .ok p => (.ok ⟨200, some []⟩, shelf.insert name p)
    | .error _ => (.ok ⟨400, some []⟩, shelf)
  | .segments ["_ilm", "policy", name], .get, _ =>
    match shelf[name]? with
    | some p => (.ok ⟨200, some (Utf8.encode (listing name p).compact)⟩, shelf)
    | none => (.ok ⟨404, some []⟩, shelf)
  | _, _, _ => (.ok ⟨404, some []⟩, shelf)

theorem envelopeForm_listed (p : Policy) : envelopeForm p (Utf8.encode (listed p).compact) := by
  have unasked : ∀ (slots : envelope.Slots) (key : String) (x : Json), "policy" ≠ key →
      envelope.Row (fun _ => Policy.form) slots key (Octet.colon :: Utf8.encode x.compact) slots :=
    fun slots key x hne => Layout.Row.unasked slots (fun _ _ => hne) x
  have written : Written (envelope.Row fun _ => Policy.form) envelope.empty
      [("version", .number 1), ("policy", p.toJson), ("in_use_by", .object [("indices", .list [])])]
      (envelope.empty.set () p) :=
    .cons (unasked _ _ _ (by decide))
      (.cons (Layout.Row.written (L := envelope) (f := ()) rfl p.form_compact)
        (.cons (unasked _ _ _ (by decide)) .nil))
  exact Layout.form_of_written written rfl

/-- The listing spells the policy next to one of the store's own. -/
theorem listingForm_listing (name : String) (p : Policy) :
    listingForm [("slm-history-ilm-policy", {}), (name, p)]
      (Utf8.encode (listing name p).compact) := by
  have written : Written (Entry envelopeForm) []
      [("slm-history-ilm-policy", listed {}), (name, listed p)]
      [("slm-history-ilm-policy", {}), (name, p)] :=
    .cons (Entry.written _ _ (envelopeForm_listed {}))
      (.cons (Entry.written _ _ (envelopeForm_listed p)) .nil)
  exact objectForm_compact written

/-- Where the policies of categories are, below an endpoint without a path. -/
theorem path_of_reaches {c : Client} {k : Category} {q : Request} (h : c.Reaches [""] k q) :
    q.address.path = .segments ["_ilm", "policy", k.policyName] := by
  rw [h.address]
  rfl

/-- The server keeps the policies of the categories for every client at its root. -/
theorem keepsPolicies (c : Client) :
    c.KeepsPolicies [""] answer fun shelf k => shelf[k.policyName]? where
  put k p q s body hq hm hb hf := by
    have read := reads_envelope.decodeOctets blanks_nil hf blanks_nil
    rw [List.nil_append, List.append_nil] at read
    simp only [answer, path_of_reaches hq, hm, hb, read]
    exact ⟨⟨_, rfl, rfl⟩, s.getElem?_insert_policyName k p⟩
  get_keeps k q s hq hm := by
    simp only [answer, path_of_reaches hq, hm]
    cases s[k.policyName]? <;> rfl
  get_absent k q s hq hm hs := by
    simp only [answer, path_of_reaches hq, hm, hs]
    exact ⟨_, rfl, rfl⟩
  get_present k p q s hq hm hs := by
    have other : ∀ k : Category, "slm-history-ilm-policy" ≠ k.policyName := by
      intro k
      cases k <;> decide
    have shows := Client.Shows.mk [("slm-history-ilm-policy", {})] [] blanks_nil
      (listingForm_listing k.policyName p) blanks_nil (by simpa using other k)
    simp only [answer, path_of_reaches hq, hm, hs]
    simpa using shows

end ShelfServer

namespace Client

/-- A client of a server on the same host. -/
def nearby : Client where
  endpoint :=
    { scheme := "https", host := some "localhost", port := some 9200, path := .segments [""] }
  credentials := { username := "elastic", password := "secret" }

/-- Two passes of a client over a server that holds nothing yet and lists more than is asked for:
the second one fetches ten policies. -/
theorem overPolicies_refines_nearby :
    nearby.endpoint.path = .segments [""] ∧
      nearby.KeepsPolicies [""] ShelfServer.answer (fun shelf k => shelf[k.policyName]?) ∧
      let pass := nearby.overPolicies (Plan.ofSettings {}).reconcile
      pass.transcript ShelfServer.answer (pass.run ShelfServer.answer {}).2
        = Category.catalogue.map
            (fun k => nearby.fetch (nearby.policyAddress [""] k.policyName)) :=
  ⟨rfl, ShelfServer.keepsPolicies nearby,
    ((overPolicies_refines rfl (ShelfServer.keepsPolicies nearby) fun _ => rfl).2.2 {}).1⟩

end Client

end LogSteward
