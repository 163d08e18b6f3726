import LogSteward.Proofs.Access.Provision
import LogSteward.Proofs.Command.Passes
import LogSteward.Proofs.Command.Printed
import LogSteward.Proofs.Json.Content
import LogSteward.Proofs.Rest.Requests
import LogSteward.Proofs.Text.Order

/-!
# The listing of principals

What is made of a listing of users: one principal for each of its keys, in the order of their
octets, with the roles that come last for it (`Principal.OfListing`).  A listing is taken whole or
not at all: an entry whose roles are no list of texts spoils it, wherever it stands
(`AccessCall.decode_spoiled`).

`Client.listing_complete` says so of everything a server may answer, up to what is printed.
-/

namespace LogSteward

open Rest Json

namespace AccessCall

/-! ### Users in a listing -/

/-- A user in a listing: a record that may have the member `roles`, a list of texts, and without it
has no roles. -/
def listedUser : Layout (List String) where
  Field := Unit
  fields := [()]
  key _ := "roles"
  Value _ := List String
  read _ := readList readText
  build? slots := some ((slots ()).getD [])

/-- Users are read as what they are. -/
theorem userRoles_eq : userRoles = listedUser :=
  rfl

/-- The users that a body lists, with their roles, in the order in which they are sent. -/
def decodeUsers (body : Octets) : Except Fault (List (String × List String)) :=
  decodeOctets (readDictionary listedUser.reader) body

/-- What is told of a user in a listing: the list of its roles, which is empty if it is missing. -/
def userFacets : Facets (List String) :=
  [⟨List String, .defaulted "roles" id [] (.list .text)⟩]

/-- The spellings of a user in a listing: its roles may be missing, and it may have members besides
them. -/
def userForm : Form (List String) :=
  Conveys userFacets

/-- The one field of a listed user is its roles, which may be missing. -/
theorem faceted_user : listedUser.Faceted fun _ => .defaulted "roles" id [] (.list .text) :=
  Layout.faceted_single "roles" (readList readText) id id [] (.list .text) (fun _ => rfl)
    fun _ => rfl

theorem userForm_eq : listedUser.form (fun _ => listForm textForm) = userForm :=
  faceted_user.form_eq_conveys fun _ => rfl

/-- Every spelling of a listed user is read as its roles. -/
theorem reads_user : Reads listedUser.reader userForm :=
  userForm_eq ▸ Layout.reads_reader (fun _ => rfl) fun _ => reads_list reads_text element_text

/-- The octets begin as a user with well-formed members, none of them its roles, up to roles that
are no list of texts. -/
inductive IllTyped (f : Fault) : Octets → Prop where
  | mk {roles : List String} {lead w k w' x : Octets}
      (hl : Leading (Told userFacets roles) [] lead []) (hw : Blanks w) (hk : textForm "roles" k)
      (hw' : Blanks w') (h : readList readText x = .error f) :
      IllTyped f (Octet.openBrace :: (lead ++ (w ++ (k ++ (w' ++ Octet.colon :: x)))))

/-- Roles that are no list of texts make the user unreadable. -/
theorem read_illTyped {f : Fault} {x : Octets} (h : IllTyped f x) :
    listedUser.reader x = .error f := by
  obtain ⟨hl, hw, hk, hw', h⟩ := h
  -- none of the members before has been taken for the roles
  obtain ⟨slots, hl, rfl⟩ := (faceted_user.matches_told (F := fun _ => listForm textForm)
    (fun _ => rfl) _).leading hl trivial (u := listedUser.empty) rfl
  exact Layout.reader_fault (L := listedUser) (fun _ => rfl)
    (fun _ => reads_list reads_text element_text) hl (f := ()) rfl hw hk hw' h

/-- A listing with such a user: what comes before it is well-formed. -/
inductive Spoiled (f : Fault) : Octets → Prop where
  | mk {before : List (String × List String)} {name : String} {w lead w₁ k w₂ w₃ x : Octets}
      (hw : Blanks w) (hl : Leading (Entry userForm) [] lead before) (hw₁ : Blanks w₁)
      (hk : textForm name k) (hw₂ : Blanks w₂) (hw₃ : Blanks w₃) (h : IllTyped f x) :
      Spoiled f
        (w ++ Octet.openBrace :: (lead ++ (w₁ ++ (k ++ (w₂ ++ Octet.colon :: (w₃ ++ x))))))

/-- One user that cannot be read spoils the listing, wherever it stands. -/
theorem decode_spoiled {f : Fault} {body : Octets} (h : Spoiled f body) :
    decodeUsers body = .error f := by
  obtain ⟨hw, hl, hw₁, hk, hw₂, hw₃, h⟩ := h
  have user := read_illTyped h
  rw [← reads_user.blanks, ← skipBlanks_append hw₃, reads_user.blanks] at user
  have hr := readDictionary_fault reads_user hl hw₁ hk hw₂ user
  rw [decodeUsers, decodeOctets, ← (reads_dictionary reads_user).blanks, skipBlanks_append hw,
    (reads_dictionary reads_user).blanks, hr]

/-! ### What a reply amounts to -/

/-- The answer is a success whose body lists the given users. -/
def Lists (a : Except String Reply) (listing : List (String × List String)) : Prop :=
  ∃ r body, a = .ok r ∧ r.isSuccess = true ∧ r.body = some body ∧ decodeUsers body = .ok listing

/-- Of a success, the users are those of the body, if that can be read. -/
theorem listed_success {r : Reply} (h : r.isSuccess = true) {body : Octets}
    (hb : r.body = some body) :
    listed (.ok r) = match decodeUsers body with
      | .ok listing => .ok (users listing)
      | .error f => .error ⟨.userList, .unreadable f⟩ := by
  rw [listed, judge_success h, decodeUsers, userRoles_eq]
  simp only [Bind.bind, Except.bind, readBody, hb]
  cases decodeOctets (readDictionary listedUser.reader) body <;> rfl

/-- Users are had exactly from a success whose body lists them. -/
theorem listed_eq_ok_iff {a : Except String Reply} {us : List UserRecord} :
    listed a = .ok us ↔ ∃ listing, Lists a listing ∧ us = users listing := by
  constructor
  · intro h
    cases hj : judge .userList listUsers.name a with
    | error e =>
        rw [listed, hj] at h
        cases h
    | ok r =>
        obtain ⟨rfl, hr⟩ := judge_ok hj
        cases hb : r.body with
        | none =>
            rw [listed, hj] at h
            simp only [Bind.bind, Except.bind, readBody, hb] at h
            cases h
        | some body =>
            rw [listed_success hr hb] at h
            cases hd : decodeUsers body with
            | error f =>
                rw [hd] at h
                cases h
            | ok listing =>
                rw [hd] at h
                cases h
                exact ⟨listing, ⟨r, body, rfl, hr, hb, hd⟩, rfl⟩
  · rintro ⟨listing, ⟨r, body, rfl, hr, hb, hd⟩, rfl⟩
    rw [listed_success hr hb, hd]

/-! ### The users of a listing -/

/-- The users of a listing by name. -/
def held (listing : List (String × List String)) : Std.TreeMap String (List String) :=
  listing.foldl (fun m (k, v) => m.insert k v) {}

theorem users_eq (listing : List (String × List String)) :
    users listing = (held listing).toList.map fun x => { username := x.1, roles := x.2 } :=
  rfl

/-- Of two users with the same name, the later one counts. -/
theorem getElem?_held (listing : List (String × List String)) (name : String) :
    (held listing)[name]? = listing.reverse.lookup name := by
  have inserted (m : Std.TreeMap String (List String)) :
      listing.foldl (fun m (k, v) => m.insert k v) m = m.insertMany listing := by
    induction listing generalizing m with
    | nil => rfl
    | cons e es ih => rw [List.foldl_cons, ih, Std.TreeMap.insertMany_cons]
  rw [held, inserted, Registry.getElem?_insertMany_lookup]
  simp

/-- A user has the roles that come last for its name. -/
theorem mem_users {listing : List (String × List String)} {u : UserRecord} :
    u ∈ users listing ↔ listing.reverse.lookup u.username = some u.roles := by
  rw [← getElem?_held, ← Std.TreeMap.mem_toList_iff_getElem?_eq_some, users_eq, List.mem_map]
  constructor
  · rintro ⟨x, hx, rfl⟩
    exact hx
  · exact fun h => ⟨_, h, rfl⟩

/-- Users come in the order of the octets of their names. -/
theorem users_ordered (listing : List (String × List String)) :
    ((users listing).map fun u => Utf8.encode u.username).Pairwise (· < ·) := by
  rw [users_eq, List.map_map, List.pairwise_map]
  refine Std.TreeMap.ordered_keys_toList.imp fun h => Utf8.encode_lt ?_
  exact compareOfLessAndEq_eq_lt.mp h

end AccessCall

/-! ### Principals -/

/-- The principals that a listing describes: one for each key, in the order of their octets, with
the roles that come last for it. -/
structure Principal.OfListing (listing : List (String × List String)) (ps : List Principal) :
    Prop where
  ordered : (ps.map fun p => Utf8.encode p.username).Pairwise (· < ·)
  keys : ∀ name, name ∈ ps.map Principal.username ↔ name ∈ listing.map Prod.fst
  roles : ∀ p ∈ ps, listing.reverse.lookup p.username = some p.roleNames
  bare : ∀ p ∈ ps, p.password = "" ∧ ∀ r ∈ p.roles, r.definition = none

theorem UserRecord.roleNames_toPrincipal (u : UserRecord) : u.toPrincipal.roleNames = u.roles := by
  rw [toPrincipal, Principal.roleNames, List.map_map, List.map_id'']
  exact fun _ => rfl

/-- The principals of a listing are as the listing says. -/
theorem Principal.ofListing_users (listing : List (String × List String)) :
    OfListing listing ((AccessCall.users listing).map UserRecord.toPrincipal) where
  ordered := by
    rw [List.map_map]
    exact AccessCall.users_ordered listing
  keys name := by
    have listed : (∃ u ∈ AccessCall.users listing, u.username = name) ↔
        (listing.reverse.lookup name).isSome = true := by
      rw [Option.isSome_iff_exists]
      constructor
      · rintro ⟨u, hu, rfl⟩
        exact ⟨u.roles, AccessCall.mem_users.mp hu⟩
      · rintro ⟨roles, h⟩
        exact ⟨⟨name, roles⟩, AccessCall.mem_users.mpr h, rfl⟩
    rw [List.map_map, List.mem_map]
    refine listed.trans ?_
    simp
  roles p hp := by
    obtain ⟨u, hu, rfl⟩ := List.mem_map.mp hp
    rw [u.roleNames_toPrincipal]
    exact AccessCall.mem_users.mp hu
  bare p hp := by
    obtain ⟨u, -, rfl⟩ := List.mem_map.mp hp
    refine ⟨rfl, fun r hr => ?_⟩
    obtain ⟨name, -, rfl⟩ := List.mem_map.mp hr
    rfl

namespace Client

open AccessCall

/-- What is made of the answer to a listing. -/
def principals (a : Except String Reply) : Except AccessError (List Principal) :=
  (reported .userList "*" (listed a)).map (·.map UserRecord.toPrincipal)

/-- What the listing prints as JSON. -/
def printed (a : Except String Reply) : Ending :=
  .ofReport .json ((principals a).map Report.ofPrincipals |>.mapError .access)

/-- A listing yields its principals. -/
theorem principals_of_lists {a : Except String Reply} {listing : List (String × List String)}
    (h : Lists a listing) :
    principals a = .ok ((users listing).map UserRecord.toPrincipal) := by
  rw [principals, listed_eq_ok_iff.mpr ⟨listing, h, rfl⟩]
  rfl

/-- Principals are had exactly from a success whose body lists users. -/
theorem principals_ok_iff {a : Except String Reply} :
    (∃ ps, principals a = .ok ps) ↔ ∃ listing, Lists a listing := by
  constructor
  · rintro ⟨ps, h⟩
    cases hl : listed a with
    | ok us =>
        obtain ⟨listing, lists, -⟩ := listed_eq_ok_iff.mp hl
        exact ⟨listing, lists⟩
    | error e =>
        rw [principals, hl] at h
        cases h
  · rintro ⟨listing, h⟩
    exact ⟨_, principals_of_lists h⟩

/-- **The listing of principals is complete, in order and without repetitions.**  Below an endpoint
that has segments it is one request, and whatever the answer is:
* it succeeds if and only if the answer is a success whose body can be read as a whole;
* then there is one principal for each key, in strictly increasing order of their octets, with the
  roles that come last for the key, and with neither a password nor definitions of roles; and what
  is printed, read back, is the list of their names and roles;
* every way to spell users with their roles is read as these;
* a user whose roles are no list of texts is the failure of the whole listing. -/
theorem listing_complete (c : Client) :
    match c.endpoint.path with
    | .sealed _ =>
      c.overAccess Principal.listAll
        = .done (.error (.remote .userList "*" ⟨.userList, .badEndpoint c.endpoint.toText⟩))
    | .segments _ =>
      ∃ (result : Except String Reply → Except AccessError (List Principal))
        (printed : Except String Reply → Ending),
        c.overAccess Principal.listAll
            = .ask (AccessCall.listUsers.request c) (fun a => .done (result a)) ∧
          Job.list.perform .json (.ok c)
            = .ask (AccessCall.listUsers.request c) (fun a => .done (printed a)) ∧
          ∀ a, ((∃ ps, result a = .ok ps) ↔ ∃ listing, Lists a listing) ∧
            (∀ listing, Lists a listing → ∃ ps, result a = .ok ps ∧
              Principal.OfListing listing ps ∧ (printed a).failure = none ∧
              decode (readList PrincipalRow.layout.reader) (printed a).output
                = .ok (ps.map fun p => ⟨p.username, p.roleNames⟩)) ∧
            (∀ err, result a = .error err → ∃ e, err = .remote .userList "*" e) ∧
            ∀ r body, a = .ok r → r.isSuccess = true → r.body = some body →
              (∀ entries w t w', Blanks w → dictionaryForm userForm entries t → Blanks w' →
                body = w ++ (t ++ w') → Lists a entries) ∧
              ∀ f, Spoiled f body →
                result a = .error (.remote .userList "*" ⟨.userList, .unreadable f⟩) := by
  cases hp : c.endpoint.path with
  | sealed text =>
      simp only [overAccess, Principal.listAll, Dialogue.interpret, askAccess, send, Url.below?, hp]
      rfl
  | segments parts =>
      have asked : c.overAccess Principal.listAll
          = .ask (AccessCall.listUsers.request c) (fun a => .done (principals a)) := by
        simp only [overAccess, Principal.listAll, Dialogue.interpret, askAccess_eq hp]
        rfl
      refine ⟨principals, printed, asked, ?_, fun a =>
        ⟨principals_ok_iff, fun listing h => ?_, fun err h => ?_, ?_⟩⟩
      · rw [Job.perform_list, asked]
        rfl
      · have listed := principals_of_lists h
        refine ⟨_, listed, Principal.ofListing_users listing, ?_, ?_⟩
        · rw [printed, listed]
          rfl
        · rw [printed, listed]
          exact PrincipalRow.decode_printed _
      · cases hl : listed a with
        | ok us =>
            rw [principals, hl] at h
            cases h
        | error e =>
            rw [principals, hl] at h
            cases h
            exact ⟨e, rfl⟩
      · rintro r body rfl hr hb
        refine ⟨?_, fun f hf => ?_⟩
        · rintro entries w t w' hw ht hw' rfl
          exact ⟨r, _, rfl, hr, hb, (reads_dictionary reads_user).decodeOctets hw ht hw'⟩
        · rw [principals, listed_success hr hb, decode_spoiled hf]
          rfl

end Client

end LogSteward
