import LogSteward.Proofs.Lifecycle.Format
import LogSteward.Proofs.Remote.Dialogue
import LogSteward.Rest.Client

/-!
# Calls to the store of policies as requests

Below an address, a fetch and a write are one request each (`Client.askPolicy_get`,
`Client.askPolicy_put`), and what the reply to a fetch amounts to is `PolicyCall.found`.

A listing is an object with an entry for each name, in which an object wraps the policy
(`PolicyCall.listingForm`).  An entry that cannot be read spoils the whole listing, whatever its
name is (`PolicyCall.decode_spoiled`).
-/

namespace LogSteward

open Rest Json

namespace PolicyCall

/-! ### Listings -/

/-- The spellings of a policy that is wrapped. -/
def envelopeForm : Form Policy :=
  envelope.form fun _ => Policy.form

/-- Every spelling of a policy in its envelope is read as the policy. -/
theorem reads_envelope : Reads envelope.reader envelopeForm :=
  Layout.reads_single Policy.reads

/-- A policy as it is sent is wrapped. -/
theorem envelopeForm_written (p : Policy) : envelopeForm p (Utf8.encode (written p)) :=
  Layout.form_compact_single p.form_compact rfl

/-- The spellings of a listing. -/
def listingForm : Form (List (String × Policy)) :=
  dictionaryForm envelopeForm

theorem reads_listing : Reads (readDictionary envelope.reader) listingForm :=
  reads_dictionary reads_envelope

/-- The policies that a body lists. -/
def decodeListing (body : Octets) : Except Fault (List (String × Policy)) :=
  decodeOctets (readDictionary envelope.reader) body

/-- A listing of which some entry cannot be read: what comes before it is well-formed. -/
inductive Spoiled (f : Fault) : Octets → Prop where
  | mk {before : List (String × Policy)} {name : String} {w lead w₁ k w₂ x : Octets} (hw : Blanks w)
      (hl : Leading (Entry envelopeForm) [] lead before) (hw₁ : Blanks w₁) (hk : textForm name k)
      (hw₂ : Blanks w₂) (h : envelope.reader x = .error f) :
      Spoiled f
        (w ++ Octet.openBrace :: (lead ++ (w₁ ++ (k ++ (w₂ ++ Octet.colon :: x)))))

/-- One policy that cannot be read spoils the listing. -/
theorem decode_spoiled {f : Fault} {body : Octets} (h : Spoiled f body) :
    decodeListing body = .error f := by
  obtain ⟨hw, hl, hw₁, hk, hw₂, h⟩ := h
  have hr := readDictionary_fault reads_envelope hl hw₁ hk hw₂ h
  rw [decodeListing, decodeOctets, ← reads_listing.blanks, skipBlanks_append hw,
    reads_listing.blanks, hr]

/-! ### What a reply amounts to -/

/-- The policy of a name as the answer to its fetch gives it. -/
def found (name : String) (a : Except String Reply) : Except RemoteError Policy := do
  let listing ← readBody .policyGet (readDictionary envelope.reader) (← judge .policyGet name a)
  pick name listing

/-- The answer is a success whose body lists the given policies. -/
def Lists (a : Except String Reply) (listing : List (String × Policy)) : Prop :=
  ∃ r body, a = .ok r ∧ r.isSuccess = true ∧ r.body = some body ∧ decodeListing body = .ok listing

theorem isSuccess_ne_404 {r : Reply} (h : r.isSuccess = true) : r.status ≠ 404 := by
  intro h'
  simp [Reply.isSuccess, h'] at h

theorem found_error (name reason : String) :
    found name (.error reason) = .error ⟨.policyGet, .undelivered reason⟩ :=
  rfl

theorem found_404 (name : String) {r : Reply} (h : r.status = 404) :
    found name (.ok r) = .error ⟨.policyGet, .notFound name⟩ := by
  simp only [found, judge, if_pos h]
  rfl

theorem found_refused (name : String) {r : Reply} (h : r.status ≠ 404) (h' : r.isSuccess = false) :
    found name (.ok r) = .error ⟨.policyGet, .refused r.status r.text⟩ := by
  simp only [found, judge, if_neg h, h', Bool.false_eq_true, if_false]
  rfl

/-- Of a success, the body is read and the policy picked out of it. -/
theorem found_success (name : String) {r : Reply} (h : r.isSuccess = true) :
    found name (.ok r)
      = (readBody .policyGet (readDictionary envelope.reader) r).bind (pick name) := by
  simp only [found, judge, if_neg (isSuccess_ne_404 h), h, if_true]
  rfl

theorem found_brokenOff (name : String) {r : Reply} (h : r.isSuccess = true)
    (hb : r.body = none) :
    found name (.ok r) = .error ⟨.policyGet, .undelivered brokenOff⟩ := by
  rw [found_success name h, readBody, hb]
  rfl

/-- A success with a body that is no listing is a failure. -/
theorem found_unreadable (name : String) {r : Reply} (h : r.isSuccess = true) {body : Octets}
    (hb : r.body = some body) {f : Fault} (hf : decodeListing body = .error f) :
    found name (.ok r) = .error ⟨.policyGet, .unreadable f⟩ := by
  rw [found_success name h, readBody, hb]
  simp only [show decodeOctets (readDictionary envelope.reader) body = .error f from hf]
  rfl

/-- In a listing, the last policy of the name is found, if there is one. -/
theorem found_listed (name : String) {a : Except String Reply} {listing : List (String × Policy)}
    (h : Lists a listing) : found name a = pick name listing := by
  obtain ⟨r, body, rfl, hs, hb, hl⟩ := h
  rw [found_success name hs, readBody, hb]
  simp only [show decodeOctets (readDictionary envelope.reader) body = .ok listing from hl]
  rfl

end PolicyCall

/-! ### Requests -/

namespace Client

/-- The request by which a policy is fetched from an address. -/
def fetch (c : Client) (address : Url) : Request where
  method := .get
  address := address.requested
  authorization := c.credentials.authorization

/-- The request by which a policy is written to an address. -/
def store (c : Client) (address : Url) (p : Policy) : Request where
  method := .put
  address := address.requested
  authorization := c.credentials.authorization
  body := some (PolicyCall.written p)

/-- A policy is fetched by one request. -/
theorem askPolicy_get {c : Client} {name : String} {address : Url}
    (h : c.endpoint.below? (PolicyCall.get name).path = some address) :
    c.askPolicy (.get name)
      = .ask (c.fetch address) fun a => .done (PolicyCall.found name a) := by
  simp only [askPolicy, send, h]
  rfl

/-- A policy is written by one request. -/
theorem askPolicy_put {c : Client} {name : String} {p : Policy} {address : Url}
    (h : c.endpoint.below? (PolicyCall.put name p).path = some address) :
    c.askPolicy (.put name p)
      = .ask (c.store address p) fun a =>
          .done ((judge .policyPut name a).map fun _ => ()) := by
  simp only [askPolicy, send, h]
  rfl

/-- The requests as which a call is put: one, unless there is no address for it below the
endpoint. -/
def requests (c : Client) : PolicyCall → List Request
  | .get name => (c.endpoint.below? (PolicyCall.get name).path).toList.map c.fetch
  | .put name p => (c.endpoint.below? (PolicyCall.put name p).path).toList.map (c.store · p)

section Transcripts

variable {σ : Type} (answer : (q : Request) → σ → Answer q × σ)

/-- What a call about policies asks for does not depend on the replies. -/
theorem transcript_requests (c : Client) (q : PolicyCall) (s : σ) :
    (c.askPolicy q).transcript answer s = c.requests q := by
  cases q with
  | get name =>
      cases h : c.endpoint.below? (PolicyCall.get name).path with
      | none =>
          simp only [askPolicy, send, requests, h]
          rfl
      | some address =>
          rw [askPolicy_get h, requests, h]
          rfl
  | put name p =>
      cases h : c.endpoint.below? (PolicyCall.put name p).path with
      | none =>
          simp only [askPolicy, send, requests, h]
          rfl
      | some address =>
          rw [askPolicy_put h, requests, h]
          rfl

/-- The requests of a computation are those of its calls. -/
theorem transcript_overPolicies (c : Client) {α : Type} (d : PolicyDialogue α) (s : σ) :
    (c.overPolicies d).transcript answer s
      = (d.transcript (fun q s => (c.askPolicy q).run answer s) s).flatMap c.requests :=
  Dialogue.transcript_interpret_flatMap (fun q s _ => c.transcript_requests answer q s)
    d.asks_anything s

end Transcripts

end Client

end LogSteward
