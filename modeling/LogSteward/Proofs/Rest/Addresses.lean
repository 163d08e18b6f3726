import LogSteward.Proofs.Rest.Refinement
import LogSteward.Proofs.Url.Segments
import LogSteward.Proofs.Url.Texts

/-!
# Where the calls for a resource lead

A call for one policy, role or user is a single request, and the address it goes to is made from the
endpoint, the kind of the resource and its name (`Client.sendsTo_iff`).  As long as names are
addressable, the text of that address says which resource is meant
(`ResourceCall.resource_of_address`).

`Client.resources_addressed` says what holds of all names and what of the addressable ones only;
`Client.resources_misaddressed` shows what becomes of others.
-/

namespace LogSteward

open Rest Url

/-! ### Calls for one resource -/

inductive ResourceKind where
  | policy
  | role
  | user
deriving DecidableEq

namespace ResourceKind

/-- The first of the two segments below which the resources of a kind are. -/
def area : ResourceKind → String
  | policy => "_ilm"
  | role | user => "_security"

/-- The second of them. -/
def noun : ResourceKind → String
  | policy => "policy"
  | role => "role"
  | user => "user"

theorem area_word (k : ResourceKind) : IsWord k.area ∧ k.area ≠ "" := by
  cases k <;> decide

theorem noun_word (k : ResourceKind) : IsWord k.noun ∧ k.noun ≠ "" := by
  cases k <;> decide

theorem not_slash_area (k : ResourceKind) : '/' ∉ k.area.toList := by
  cases k <;> decide

theorem not_slash_noun (k : ResourceKind) : '/' ∉ k.noun.toList := by
  cases k <;> decide

theorem isDrive_noun (k : ResourceKind) : isDrive k.noun = false := by
  cases k <;> decide

/-- Different kinds are called by different words. -/
theorem noun_injective {k k' : ResourceKind} (h : k.noun = k'.noun) : k = k' := by
  revert h
  cases k <;> cases k' <;> decide

end ResourceKind

/-- A call for one policy, role or user. -/
inductive ResourceCall where
  | policy (q : PolicyCall)
  | access (q : AccessCall) (single : q ≠ .listUsers)

namespace ResourceCall

/-- What a call yields. -/
abbrev Answer : ResourceCall → Type
  | policy q => q.Answer
  | access q _ => q.Answer

/-- The name of the resource. -/
def name : ResourceCall → String
  | policy q => q.name
  | access q _ => q.name

def kind : ResourceCall → ResourceKind
  | policy _ => .policy
  | access (.putRole _ _) _ | access (.deleteRole _) _ => .role
  | access (.putUser _ _) _ | access (.deleteUser _) _ => .user
  | access .listUsers single => absurd rfl single

/-- Where the resource is, below the endpoint. -/
def path (q : ResourceCall) : List String :=
  [q.kind.area, q.kind.noun, q.name]

end ResourceCall

/-! ### Calls as requests -/

namespace ResourceCall

/-- The address of a resource below the endpoint. -/
def address (q : ResourceCall) (endpoint : Url) (parts : List String) : Url :=
  endpoint.requested.withPath
    (placed (isCommon endpoint.scheme) (stem parts ++ [q.kind.area]) q.kind.noun q.name)

/-- What an address says of the resource, if its name is addressable. -/
theorem address_eq {q : ResourceCall} (h : IsAddressable q.name) (endpoint : Url)
    (parts : List String) :
    q.address endpoint parts = endpoint.requested.withPath
      (stem parts ++ [q.kind.area, q.kind.noun, written (isCommon endpoint.scheme) q.name]) := by
  rw [address, placed_addressable _ _ _ h, List.append_assoc]
  rfl

/-- No part of an address that is written has a slash of its own. -/
theorem not_slash_of_mem {q : ResourceCall} (h : IsAddressable q.name) (common : Bool) :
    ∀ s ∈ [q.kind.area, q.kind.noun, written common q.name], '/' ∉ s.toList := by
  intro s hs
  rcases List.mem_cons.mp hs with rfl | hs
  · exact q.kind.not_slash_area
  rcases List.mem_cons.mp hs with rfl | hs
  · exact q.kind.not_slash_noun
  rw [List.mem_singleton.mp hs]
  exact (h.isSegment common).not_slash

/-- **No two resources have the same address**, as far as their names are addressable. -/
theorem resource_of_address {q q' : ResourceCall} {endpoint : Url} {parts : List String}
    (h : IsAddressable q.name) (h' : IsAddressable q'.name)
    (e : (q.address endpoint parts).toText = (q'.address endpoint parts).toText) :
    q.kind = q'.kind ∧ q.name = q'.name := by
  rw [address_eq h, address_eq h'] at e
  have same := slashed_inj (not_slash_of_mem h _) (not_slash_of_mem h' _)
    (slashed_of_toText q.kind.area_word.2 q'.kind.area_word.2 e (by simp only [List.length_cons]))
  simp only [List.cons.injEq, and_true] at same
  obtain ⟨-, noun, same⟩ := same
  exact ⟨ResourceKind.noun_injective noun, name_of_written h h' same⟩

/-- Where the path of a call leads, below an endpoint with segments. -/
theorem below?_path (q : ResourceCall) {endpoint : Url} {parts : List String}
    (h : endpoint.path = .segments parts) :
    endpoint.below? q.path = some (endpoint.withPath
      (placed (isCommon endpoint.scheme) (stem parts ++ [q.kind.area]) q.kind.noun q.name)) :=
  below?_name h q.kind.area_word q.kind.noun_word q.kind.isDrive_noun q.name

end ResourceCall

namespace Client

variable {c : Client} {q : ResourceCall} {parts : List String}

/-- Puts a call for one resource as a request. -/
def ask (c : Client) : (q : ResourceCall) → Exchange q.Answer
  | .policy q => c.askPolicy q
  | .access q _ => c.askAccess q

/-- The call is one request to the address, and nothing else. -/
def SendsTo (c : Client) (q : ResourceCall) (address : Url) : Prop :=
  ∃ r, ∃ next : Except String Reply → q.Answer,
    r.address = address ∧ c.ask q = .ask r fun a => .done (next a)

/-- How a call is sent does not depend on the client, and the reply is judged as it comes. -/
theorem ask_eq (q : ResourceCall) : ∃ op method body, ∃ next : Except RemoteError Reply → q.Answer,
    ∀ c : Client,
      c.ask q = (c.send op q.name method q.path body).andThen fun r => .done (next r) := by
  match q with
  | .policy (.get _) | .policy (.put _ _) => exact ⟨_, _, _, _, fun _ => rfl⟩
  | .access (.putRole _ _) _ | .access (.deleteRole _) _ | .access (.putUser _ _) _
  | .access (.deleteUser _) _ => exact ⟨_, _, _, _, fun _ => rfl⟩
  | .access .listUsers single => exact absurd rfl single

theorem SendsTo.unique {u u' : Url} (h : c.SendsTo q u) (h' : c.SendsTo q u') : u = u' := by
  obtain ⟨r, next, rfl, h⟩ := h
  obtain ⟨r', next', rfl, h'⟩ := h'
  rw [h] at h'
  injection h' with hr
  rw [hr]

/-- **Where a call goes**, whatever name it is for. -/
theorem sendsTo_address (q : ResourceCall) (h : c.endpoint.path = .segments parts) :
    c.SendsTo q (q.address c.endpoint parts) := by
  obtain ⟨op, method, body, next, asked⟩ := ask_eq q
  refine ⟨{ method, body, address := q.address c.endpoint parts
            authorization := c.credentials.authorization },
    fun a => next (judge op q.name a), rfl, ?_⟩
  rw [asked, send, q.below?_path h]
  rfl

/-- A call is sent to its own address and no other. -/
theorem sendsTo_iff (q : ResourceCall) (h : c.endpoint.path = .segments parts) (u : Url) :
    c.SendsTo q u ↔ u = q.address c.endpoint parts :=
  ⟨fun hu => hu.unique (sendsTo_address q h), fun hu => hu ▸ sendsTo_address q h⟩

/-- A slash at the end of the endpoint's path makes no difference to any call. -/
theorem ask_slash (q : ResourceCall) (h : c.endpoint.path = .segments parts)
    (hs : parts.getLast? ≠ some "") :
    ({ c with endpoint := c.endpoint.withPath (parts ++ [""]) } : Client).ask q = c.ask q := by
  obtain ⟨op, method, body, next, asked⟩ := ask_eq q
  have slash : (c.endpoint.withPath (parts ++ [""])).path = .segments (parts ++ [""]) := rfl
  rw [asked, asked, send, send, q.below?_path h, q.below?_path slash, stem_slash hs]
  rfl

/-- **The addresses of all calls** of a client.  Those with an addressable name, and only those, go
to one segment that stands for the name, so what they are for can be read off; of the others, those
that become two dots lead out of their kind.  A slash at the end of the endpoint makes no
difference. -/
theorem resources_addressed (c : Client) {parts : List String}
    (h : c.endpoint.path = .segments parts) :
    let address (q : ResourceCall) := q.address c.endpoint parts
    let base (q : ResourceCall) := stem parts ++ [q.kind.area, q.kind.noun]
    (∀ q u, c.SendsTo q u ↔ u = address q) ∧
      (∀ q, IsAddressable q.name ↔ ∃ s,
        address q = c.endpoint.requested.withPath (base q ++ [s]) ∧
          IsSegment (isCommon c.endpoint.scheme) s ∧ Percent.decode s = Utf8.encode q.name) ∧
      (∀ q q', IsAddressable q.name → IsAddressable q'.name →
        (address q).toText = (address q').toText → q.kind = q'.kind ∧ q.name = q'.name) ∧
      (∀ q, (bare q.name = ".." → q.name = "..") → ∃ rest,
        address q = c.endpoint.requested.withPath (base q ++ rest)) ∧
      (parts.getLast? ≠ some "" → ∀ q,
        ({ c with endpoint := c.endpoint.withPath (parts ++ [""]) } : Client).ask q = c.ask q) := by
  intro address base
  have joined : ∀ (q : ResourceCall) (rest : List String),
      base q ++ rest = stem parts ++ [q.kind.area] ++ q.kind.noun :: rest := fun q rest => by
    simp only [base, List.append_assoc, List.cons_append, List.nil_append]
  refine ⟨fun q => sendsTo_iff q h, fun q => ?_, fun q q' hq hq' =>
    ResourceCall.resource_of_address hq hq', fun q hq => ?_, fun hs q => ask_slash q h hs⟩
  · rw [isAddressable_iff (isCommon c.endpoint.scheme) (stem parts ++ [q.kind.area]) q.kind.noun]
    simp only [address, ResourceCall.address, withPath_inj, joined]
  · obtain ⟨rest, hrest⟩ := placed_below (isCommon c.endpoint.scheme)
      (stem parts ++ [q.kind.area]) q.kind.noun hq
    refine ⟨rest, ?_⟩
    simp only [address, ResourceCall.address, hrest, joined]

/-- A client of a server that is not at its host's root. -/
def behind : Client :=
  { nearby with endpoint := nearby.endpoint.withPath ["es"] }

/-- The slash in one name and the percent sign in the other are encoded, so that the two roles have
different addresses, both with a slash at the end of the endpoint and without it. -/
theorem resources_addressed_behind :
    let q : ResourceCall := .access (.deleteRole "a/b") nofun
    let q' : ResourceCall := .access (.deleteRole "a%2Fb") nofun
    let address (q : ResourceCall) := q.address behind.endpoint ["es"]
    behind.endpoint.path = .segments ["es"] ∧
      (address q).toText = "https://localhost:9200/es/_security/role/a%2Fb" ∧
      (IsAddressable q.name ∧ IsAddressable q'.name ∧ (address q).toText ≠ (address q').toText) ∧
      behind.SendsTo q (address q) ∧
      ({ behind with endpoint := behind.endpoint.withPath ["es", ""] } : Client).ask q
        = behind.ask q := by
  intro q q' address
  have at_es : behind.endpoint.path = .segments ["es"] := rfl
  obtain ⟨sent, -, apart, -, slash⟩ := resources_addressed behind at_es
  have hq : IsAddressable q.name := by decide
  have hq' : IsAddressable q'.name := by decide
  refine ⟨at_es, by decide +kernel, ⟨hq, hq', fun e => ?_⟩, (sent q _).mpr rfl, slash (by decide) q⟩
  exact absurd (apart q q' hq hq' e).2 (by decide)

/-- What becomes of names that are not addressable: those of one dot and of two lead to the same
address, at which no role is, and two dots before a line break lead out of the roles. -/
theorem resources_misaddressed :
    let delete (name : String) : ResourceCall := .access (.deleteRole name) nofun
    (∃ address, nearby.SendsTo (delete ".") address ∧ nearby.SendsTo (delete "..") address ∧
        address.toText = "https://localhost:9200/_security/role") ∧
      ∃ address, nearby.SendsTo (delete "..\n") address ∧
        address.toText = "https://localhost:9200/_security/" :=
  ⟨⟨_, sendsTo_address _ rfl, sendsTo_address _ rfl, by decide +kernel⟩,
    _, sendsTo_address _ rfl, by decide +kernel⟩

end Client

end LogSteward
