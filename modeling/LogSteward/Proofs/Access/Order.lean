import LogSteward.Proofs.Access.Provision

/-!
# Roles before the user

The creation and the deletion of a principal have the same form: a call for each role in its order,
up to the first one that fails or has no name, and then, if there is none such, one call for the
user (`inOrder`).  What is asked and answered in it, and what it results in, is the same with every
party (`InOrder`).  A store to which calls get through as they may has carried out the first few
calls of the form, whenever one looks at it (`states_inOrder`); so a user is never there, or gone,
before its roles are (`creation_in_order`).
-/

namespace LogSteward

/-- The call is for a role. -/
def AccessCall.IsForRole : AccessCall → Prop
  | putRole _ _ | deleteRole _ => True
  | putUser _ _ | deleteUser _ | listUsers => False

/-- A call for each role, and then one for the user. -/
def inOrder (user : AccessCall) : List AccessCall → AccessDialogue (Except AccessError Unit)
  | [] => user.made
  | c :: cs =>
    if c.name = "" then .done (.error .unnamedRole) else c.made.unlessFailed (inOrder user cs)

/-! ### The form of creations and deletions -/

/-- Calls for roles before the one for the user, as calls in turn. -/
theorem inOrder_eq (user : AccessCall) (roles : List AccessCall) :
    inOrder user roles
      = (inTurn (roles.takeWhile (·.name ≠ "")) (refusal (roles.map AccessCall.name))).unlessFailed
        (inTurn [user] (.ok ())) := by
  induction roles with
  | nil => exact (inTurn_single user).symm
  | cons c cs ih =>
      rw [inOrder, List.map_cons]
      by_cases hn : c.name = ""
      · rw [if_pos hn, List.takeWhile_cons_of_neg (by simpa using hn), refusal,
          if_pos (by simp [hn])]
        rfl
      · rw [if_neg hn, List.takeWhile_cons_of_pos (by simpa using hn), refusal_cons hn, ih]
        exact (AccessDialogue.unlessFailed_assoc _ _ _).symm

/-- A principal is created in order: first its roles, as far as they are defined. -/
theorem Principal.create_inOrder (p : Principal) :
    p.create = inOrder (.putUser p.username p.body) (p.defined.map .write) := by
  rw [inOrder_eq, create_eq, List.takeWhile_map, List.map_map]
  rfl

/-- A principal is deleted in order: first its roles. -/
theorem Principal.delete_inOrder (p : Principal) :
    p.delete = inOrder (.deleteUser p.username) (p.roleNames.map .deleteRole) := by
  rw [inOrder_eq, delete_eq, List.takeWhile_map, List.map_map, List.map_id'']
  · rfl
  · exact fun _ => rfl

/-! ### One call and the rest -/

section Runs

variable {α σ : Type} {answer : (c : AccessCall) → σ → c.Answer × σ} {s : σ} {c : AccessCall}

/-- After a call that is accepted, a computation goes on. -/
theorem made_ok (h : c.verdict (answer c s).1 = .ok ())
    (next : AccessDialogue (Except AccessError Unit)) :
    (c.made.unlessFailed next).run answer s = next.run answer (answer c s).2 ∧
      (c.made.unlessFailed next).turns answer s
        = ⟨c, (answer c s).1⟩ :: next.turns answer (answer c s).2 ∧
      (c.made.unlessFailed next).states answer s = s :: next.states answer (answer c s).2 := by
  simp only [AccessCall.made, AccessDialogue.unlessFailed, Dialogue.andThen, Dialogue.run,
    Dialogue.turns, Dialogue.states, h, reported, and_self]

/-- A call that fails ends a computation. -/
theorem made_error {e : RemoteError} (h : c.verdict (answer c s).1 = .error e)
    (next : AccessDialogue (Except AccessError Unit)) :
    (c.made.unlessFailed next).run answer s
        = (.error (.remote c.operation c.name e), (answer c s).2) ∧
      (c.made.unlessFailed next).turns answer s = [⟨c, (answer c s).1⟩] ∧
      (c.made.unlessFailed next).states answer s = [s, (answer c s).2] := by
  simp only [AccessCall.made, AccessDialogue.unlessFailed, Dialogue.andThen, Dialogue.run,
    Dialogue.turns, Dialogue.states, h, reported, and_self]

end Runs

/-! ### What is asked and answered -/

/-- How a call is answered that is carried out. -/
def AccessCall.accepted : (c : AccessCall) → c.Answer
  | .putRole _ _ | .deleteRole _ | .putUser _ _ | .deleteUser _ => .ok ()
  | .listUsers => .ok []

theorem AccessCall.verdict_accepted (c : AccessCall) : c.verdict c.accepted = .ok () := by
  cases c <;> rfl

/-- Of a call that is not a listing, nothing is heard but that it was carried out. -/
theorem AccessCall.eq_accepted {c : AccessCall} (hc : c ≠ .listUsers) {r : c.Answer}
    (h : c.verdict r = .ok ()) : r = c.accepted := by
  cases c with
  | listUsers => exact absurd rfl hc
  | putRole _ _ | deleteRole _ | putUser _ _ | deleteUser _ => exact h

theorem AccessCall.IsForRole.ne_listUsers {c : AccessCall} (h : c.IsForRole) : c ≠ .listUsers := by
  rintro rfl
  exact h

/-- An answer that fails says nothing but its error. -/
theorem AccessCall.eq_failure {c : AccessCall} {r : c.Answer} {e : RemoteError}
    (h : c.verdict r = .error e) : r = FaultyRegistry.failure e c := by
  cases c with
  | listUsers =>
      cases r with
      | ok _ => cases h
      | error e' => cases h; rfl
  | putRole _ _ | deleteRole _ | putUser _ _ | deleteUser _ => exact h

/-- The calls, all of them accepted. -/
def accepted (cs : List AccessCall) : List (Dialogue.Turn AccessCall.Answer) :=
  cs.map fun c => ⟨c, c.accepted⟩

theorem accepted_append (cs cs' : List AccessCall) :
    accepted (cs ++ cs') = accepted cs ++ accepted cs' :=
  List.map_append

/-- What is asked and answered in a computation that makes the calls for roles in their order and
then the one for the user, and what it results in. -/
inductive InOrder (roles : List AccessCall) (user : AccessCall) :
    List (Dialogue.Turn AccessCall.Answer) → Except AccessError Unit → Prop where
  /-- The calls for the roles are all accepted, and the one for the user decides. -/
  | user (named : ∀ c ∈ roles, c.name ≠ "") (r : user.Answer) :
      InOrder roles user (accepted roles ++ [⟨user, r⟩])
        (reported user.operation user.name (user.verdict r))
  /-- A call for a role fails, and is the last. -/
  | role {before after : List AccessCall} {c : AccessCall} (split : roles = before ++ c :: after)
      (named : ∀ b ∈ before ++ [c], b.name ≠ "") (e : RemoteError) :
      InOrder roles user (accepted before ++ [⟨c, FaultyRegistry.failure e c⟩])
        (.error (.remote c.operation c.name e))
  /-- It is the turn of a role without a name, for which there is no call. -/
  | unnamed {before after : List AccessCall} {c : AccessCall} (split : roles = before ++ c :: after)
      (named : ∀ b ∈ before, b.name ≠ "") (unnamed : c.name = "") :
      InOrder roles user (accepted before) (.error .unnamedRole)

namespace InOrder

variable {roles : List AccessCall} {user c : AccessCall}
  {heard : List (Dialogue.Turn AccessCall.Answer)} {result : Except AccessError Unit}

theorem cons (hc : c.name ≠ "") (h : InOrder roles user heard result) :
    InOrder (c :: roles) user (⟨c, c.accepted⟩ :: heard) result := by
  cases h with
  | user named r => exact .user (List.forall_mem_cons.mpr ⟨hc, named⟩) r
  | @role before after c' split named e =>
      have split : c :: roles = (c :: before) ++ c' :: after := congrArg (c :: ·) split
      exact .role split (List.forall_mem_cons.mpr ⟨hc, named⟩) e
  | @unnamed before after c' split named unnamed =>
      have split : c :: roles = (c :: before) ++ c' :: after := congrArg (c :: ·) split
      exact .unnamed split (List.forall_mem_cons.mpr ⟨hc, named⟩) unnamed

/-- **The form is kept with every party**, whatever it answers. -/
theorem of_run {σ : Type} (answer : (c : AccessCall) → σ → c.Answer × σ)
    (forRoles : ∀ c ∈ roles, c.IsForRole) (s : σ) :
    InOrder roles user ((inOrder user roles).turns answer s)
      ((inOrder user roles).run answer s).1 := by
  induction roles generalizing s with
  | nil => exact .user (List.forall_mem_nil _) _
  | cons c cs ih =>
      obtain ⟨hc, hcs⟩ := List.forall_mem_cons.mp forRoles
      have split : c :: cs = [] ++ c :: cs := rfl
      rw [inOrder]
      by_cases hn : c.name = ""
      · rw [if_pos hn]
        exact .unnamed split (List.forall_mem_nil _) hn
      · rw [if_neg hn]
        cases hv : c.verdict (answer c s).1 with
        | error e =>
            obtain ⟨run, turns, -⟩ := made_error hv (inOrder user cs)
            rw [run, turns, AccessCall.eq_failure hv]
            exact .role split (List.forall_mem_singleton.mpr hn) e
        | ok _ =>
            obtain ⟨run, turns, -⟩ := made_ok hv (inOrder user cs)
            rw [run, turns, AccessCall.eq_accepted hc.ne_listUsers hv]
            exact (ih hcs _).cons hn

theorem not_mem_accepted {cs : List AccessCall} (h : user ∉ cs) (r : user.Answer) :
    ⟨user, r⟩ ∉ accepted cs := by
  intro hm
  obtain ⟨c, hc, he⟩ := List.mem_map.mp hm
  obtain rfl : c = user := congrArg Sigma.fst he
  exact h hc

/-- The call for the user comes last, after all those for the roles have been accepted. -/
theorem heard_user (h : InOrder roles user heard result) (other : user ∉ roles) {r : user.Answer}
    (hr : ⟨user, r⟩ ∈ heard) :
    heard = accepted roles ++ [⟨user, r⟩] ∧
      result = reported user.operation user.name (user.verdict r) := by
  cases h with
  | user named r' =>
      rcases List.mem_append.mp hr with hr | hr
      · exact absurd hr (not_mem_accepted other r)
      · obtain rfl : r = r' := by simpa using hr
        exact ⟨rfl, rfl⟩
  | role split named e =>
      subst split
      rcases List.mem_append.mp hr with hr | hr
      · exact absurd hr (not_mem_accepted (fun hu => other (List.mem_append_left _ hu)) r)
      · obtain rfl := congrArg Sigma.fst (List.mem_singleton.mp hr)
        exact absurd (List.mem_append_right _ List.mem_cons_self) other
  | unnamed split named unnamed =>
      subst split
      exact absurd hr (not_mem_accepted (fun hu => other (List.mem_append_left _ hu)) r)

/-- It succeeds exactly if the call for the user does. -/
theorem ok_iff (h : InOrder roles user heard result) (other : user ∉ roles)
    (change : user ≠ .listUsers) :
    result = .ok () ↔ ⟨user, user.accepted⟩ ∈ heard := by
  constructor
  · intro ok
    cases h with
    | user named r =>
        cases hv : user.verdict r with
        | error e =>
            rw [hv] at ok
            cases ok
        | ok _ =>
            rw [AccessCall.eq_accepted change hv]
            exact List.mem_append_right _ (List.mem_singleton.mpr rfl)
    | role split named e => cases ok
    | unnamed split named unnamed => cases ok
  · intro hm
    rw [(h.heard_user other hm).2, AccessCall.verdict_accepted]
    rfl

end InOrder

/-! ### The store on the way -/

/-- A call is carried out whole or not at all, whatever comes in between. -/
theorem Registry.along_prefix (c : AccessCall) (s : Registry × List Passage) :
    ∃ done, done <+: [c] ∧ (Registry.along c s).2.1 = s.1.after done := by
  rcases Dialogue.along_state Registry.answer FaultyRegistry.failure c s.1 s.2
    with ⟨e, ws', -, he⟩ | ⟨-, he⟩
  · exact ⟨[], List.nil_prefix, congrArg (·.2.1) he⟩
  · exact ⟨[c], List.prefix_rfl, he⟩

/-- **At any time the first few of the calls have been carried out**, and nothing else, whatever
happens to them on the way. -/
theorem states_inOrder (user : AccessCall) (roles : List AccessCall) (g : Registry)
    (ws : List Passage) :
    ∀ s ∈ (inOrder user roles).states Registry.along (g, ws),
      ∃ done, done <+: roles ++ [user] ∧ s.1 = g.after done := by
  have nothing (g : Registry) (cs : List AccessCall) : ∃ done, done <+: cs ∧ g = g.after done :=
    ⟨[], List.nil_prefix, rfl⟩
  induction roles generalizing g ws with
  | nil =>
      refine List.forall_mem_cons.mpr ⟨nothing g _, List.forall_mem_singleton.mpr ?_⟩
      exact Registry.along_prefix user (g, ws)
  | cons c cs ih =>
      rw [inOrder]
      by_cases hn : c.name = ""
      · rw [if_pos hn]
        exact List.forall_mem_singleton.mpr (nothing g _)
      · rw [if_neg hn]
        cases hv : c.verdict (Registry.along c (g, ws)).1 with
        | error e =>
            rw [(made_error hv (inOrder user cs)).2.2]
            refine List.forall_mem_cons.mpr ⟨nothing g _, List.forall_mem_singleton.mpr ?_⟩
            obtain ⟨done, hd, he⟩ := Registry.along_prefix c (g, ws)
            exact ⟨done, hd.trans ⟨cs ++ [user], rfl⟩, he⟩
        | ok _ =>
            rw [(made_ok hv (inOrder user cs)).2.2]
            refine List.forall_mem_cons.mpr ⟨nothing g _, fun s hs => ?_⟩
            obtain ⟨done, hd, he⟩ := ih _ _ s hs
            refine ⟨c :: done, (List.prefix_cons_inj c).mpr hd, ?_⟩
            rw [he, Registry.along_accepted hv]
            rfl

/-- As long as only roles have been called for, the users are the same. -/
theorem Registry.users_after {cs : List AccessCall} (h : ∀ c ∈ cs, c.IsForRole) (g : Registry) :
    (g.after cs).users = g.users := by
  induction cs generalizing g with
  | nil => rfl
  | cons c cs ih =>
      obtain ⟨hc, hcs⟩ := List.forall_mem_cons.mp h
      refine (ih hcs _).trans ?_
      cases c with
      | putRole n d => rfl
      | deleteRole n =>
          simp only [answer]
          split <;> rfl
      | putUser _ _ | deleteUser _ | listUsers => exact hc.elim

/-! ### Creations -/

/-- **A creation writes the roles first.**  Whatever the store answers, the calls are one for each
role that has a definition, in the order of the roles, up to the first that fails or has no name;
if there is none such, the last call writes the user, with the password and the names of all roles.
It succeeds exactly if the user was written, and a failure is reported with the role or user whose
call failed.  So, whatever happens to the calls on the way, the users of a store are as they were
until all defined roles have been written. -/
theorem creation_in_order (p : Principal) :
    let roles := p.roles.filterMap fun r => r.definition.map (AccessCall.putRole r.name)
    let user := AccessCall.putUser p.username
      { password := p.password, roles := p.roles.map Role.name }
    (∀ {σ : Type} (answer : (c : AccessCall) → σ → c.Answer × σ) (s : σ),
      let heard := p.create.turns answer s
      let result := (p.create.run answer s).1
      InOrder roles user heard result ∧ (result = .ok () ↔ ⟨user, user.accepted⟩ ∈ heard) ∧
        ∀ r, ⟨user, r⟩ ∈ heard → heard = accepted roles ++ [⟨user, r⟩]) ∧
    ∀ g ws, ∀ s ∈ p.create.states Registry.along (g, ws),
      s.1.users = g.users ∨ g.Provisioned p s.1 := by
  intro roles user
  have written : p.defined.map .write = roles :=
    List.map_filterMap.trans (congrArg (p.roles.filterMap ·) (funext fun _ => Option.map_map ..))
  have creation : p.create = inOrder user roles := written ▸ p.create_inOrder
  have forRoles : ∀ c ∈ roles, c.IsForRole := written ▸ List.forall_mem_map.mpr fun _ _ => trivial
  constructor
  · intro σ answer s heard result
    have form : InOrder roles user heard result := by
      simp only [heard, result, creation]
      exact .of_run answer forRoles s
    have other : user ∉ roles := fun hu => forRoles user hu
    exact ⟨form, form.ok_iff other nofun, fun r hr => (form.heard_user other hr).1⟩
  · intro g ws s hs
    rw [creation] at hs
    obtain ⟨done, hd, he⟩ := states_inOrder user roles g ws s hs
    rw [he]
    rcases List.prefix_concat_iff.mp hd with rfl | hd
    · rw [← written]
      exact .inr (Registry.provisioned_after g p)
    · exact .inl (Registry.users_after (fun c hc => forRoles c (hd.subset hc)) g)

end LogSteward
