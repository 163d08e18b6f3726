import LogSteward.Access.Registry
import LogSteward.Proofs.Command.Passes
import LogSteward.Proofs.Remote.Passage

/-!
# Retractions that were interrupted

A retraction deletes the roles of a principal and then its user, and gives up at the first call
that fails; that something is not there any more counts as such a failure.  So what it comes to in a
second attempt is decided by the first of its deletions alone (`DeletesFirst`).  As long as nothing
has been deleted, a second attempt does everything.  But once something has been, it is the first
role that has gone, and every further attempt fails on it and gets no further: the user stays
(`retraction_again`).  The same goes for the retraction of the principals of a target.
-/

namespace LogSteward

/-! ### Single deletions -/

/-- The call deletes something. -/
def AccessCall.IsDeletion : AccessCall → Prop
  | deleteRole _ | deleteUser _ => True
  | putRole _ _ | putUser _ _ | listUsers => False

namespace Registry

variable {g : Registry} {c : AccessCall}

/-- What the call is to delete is there. -/
def Holds (g : Registry) : AccessCall → Prop
  | .deleteRole n => n ∈ g.roles
  | .deleteUser n => n ∈ g.users
  | .putRole _ _ | .putUser _ _ | .listUsers => False

/-- A store to which calls get through as the passages say. -/
abbrev along (c : AccessCall) : Registry × List Passage → c.Answer × (Registry × List Passage) :=
  Dialogue.along answer FaultyRegistry.failure c

/-- What is not there is reported as not found. -/
theorem answer_of_not_holds (hc : c.IsDeletion) (h : ¬ g.Holds c) :
    g.answer c = (FaultyRegistry.failure ⟨c.operation, .notFound c.name⟩ c, g) := by
  cases c with
  | deleteRole n | deleteUser n => exact if_neg h
  | putRole _ _ | putUser _ _ | listUsers => exact hc.elim

/-- What has been deleted is not there. -/
theorem not_holds_answer (hc : c.IsDeletion) : ¬ (g.answer c).2.Holds c := by
  cases c with
  | deleteRole n | deleteUser n =>
      simp only [answer]
      split
      · simp [Holds]
      · next h => exact h
  | putRole _ _ | putUser _ _ | listUsers => exact hc.elim

/-- A deletion adds nothing. -/
theorem Holds.of_answer {q : AccessCall} (hq : q.IsDeletion) (h : (g.answer q).2.Holds c) :
    g.Holds c := by
  cases q with
  | deleteRole n | deleteUser n =>
      simp only [answer] at h
      split at h
      · cases c with
        | deleteRole m | deleteUser m => simp_all [Holds]
        | putRole _ _ | putUser _ _ | listUsers => exact h
      · exact h
  | putRole _ _ | putUser _ _ | listUsers => exact hq.elim

end Registry

/-! ### The first deletion -/

/-- The computation first deletes something, gives up if that fails, and goes on with nothing but
deletions. -/
def DeletesFirst (c : AccessCall) (giveUp : RemoteError → α) (d : AccessDialogue α) : Prop :=
  c.IsDeletion ∧ ∃ next, d = .ask c next ∧
    (∀ e, next (FaultyRegistry.failure e c) = .done (giveUp e)) ∧
    ∀ r, (next r).Asks AccessCall.IsDeletion

namespace DeletesFirst

variable {α β : Type} {c : AccessCall} {giveUp : RemoteError → α} {d : AccessDialogue α}

theorem andThen {f : α → AccessDialogue β} {giveUp' : RemoteError → β}
    (h : DeletesFirst c giveUp d) (stop : ∀ e, f (giveUp e) = .done (giveUp' e))
    (hf : ∀ a, (f a).Asks AccessCall.IsDeletion) : DeletesFirst c giveUp' (d.andThen f) := by
  obtain ⟨hc, next, rfl, hstop, hnext⟩ := h
  refine ⟨hc, fun r => (next r).andThen f, rfl, fun e => ?_, fun r => (hnext r).andThen hf⟩
  change (next _).andThen f = _
  rw [hstop]
  exact stop e

theorem unlessFailed {c : AccessCall} {err : RemoteError → AccessError}
    {d : AccessDialogue (Except AccessError Unit)} {next : AccessDialogue (Except AccessError α)}
    (h : DeletesFirst c (fun e => .error (err e)) d) (hn : next.Asks AccessCall.IsDeletion) :
    DeletesFirst c (fun e => .error (err e)) (AccessDialogue.unlessFailed d next) :=
  h.andThen (fun _ => rfl) fun r => by
    cases r with
    | ok _ => exact hn
    | error e => trivial

/-- If the first call is lost, nothing is deleted; else what it is to delete has gone in the end. -/
theorem run_along (h : DeletesFirst c giveUp d) (g : Registry) (ws : List Passage) :
    (∃ e ws', ws = .lost e :: ws') ∧ (d.run Registry.along (g, ws)).2.1 = g ∨
      (∀ e ws', ws ≠ .lost e :: ws') ∧ ¬ (d.run Registry.along (g, ws)).2.1.Holds c := by
  obtain ⟨hc, next, rfl, hstop, hnext⟩ := h
  have keeps : ∀ (q : AccessCall) (s : Registry × List Passage), q.IsDeletion → ¬ s.1.Holds c →
      ¬ (Registry.along q s).2.1.Holds c := by
    intro q s hq hs held
    rcases Dialogue.along_state Registry.answer FaultyRegistry.failure q s.1 s.2
      with ⟨e, ws', -, he⟩ | ⟨-, he⟩
    · exact hs (congrArg (·.2.1) he ▸ held)
    · exact hs (.of_answer hq (he ▸ held))
  rcases Dialogue.along_state Registry.answer FaultyRegistry.failure c g ws
    with ⟨e, ws', rfl, he⟩ | ⟨hw, he⟩
  · refine .inl ⟨⟨e, ws', rfl⟩, ?_⟩
    simp only [Dialogue.run, he, hstop]
  · exact .inr ⟨hw, (hnext _).run_keeps keeps (he ▸ Registry.not_holds_answer hc)⟩

/-- What is to be deleted first has gone: nothing else is deleted. -/
theorem run_answer (h : DeletesFirst c giveUp d) {g : Registry} (gone : ¬ g.Holds c) :
    d.run Registry.answer g = (giveUp ⟨c.operation, .notFound c.name⟩, g) := by
  obtain ⟨hc, next, rfl, hstop, -⟩ := h
  rw [Dialogue.run, Registry.answer_of_not_holds hc gone]
  simp only [hstop]
  rfl

end DeletesFirst

/-! ### What deletes principals -/

theorem asks_deleteRole (n : String) : (deleteRole n).Asks AccessCall.IsDeletion := by
  unfold deleteRole
  split
  · trivial
  · exact ⟨trivial, fun _ => trivial⟩

theorem asks_unlessFailed {P : AccessCall → Prop} {d : AccessDialogue (Except AccessError Unit)}
    {next : AccessDialogue (Except AccessError α)} (hd : d.Asks P) (hn : next.Asks P) :
    (AccessDialogue.unlessFailed d next).Asks P := by
  refine hd.andThen fun r => ?_
  cases r with
  | ok _ => exact hn
  | error e => trivial

theorem asks_deleteRoles (rs : List Role) : (deleteRoles rs).Asks AccessCall.IsDeletion := by
  induction rs with
  | nil => trivial
  | cons r rs ih => exact asks_unlessFailed (asks_deleteRole r.name) ih

/-- To delete a principal asks for nothing but deletions. -/
theorem Principal.asks_delete (p : Principal) : p.delete.Asks AccessCall.IsDeletion :=
  asks_unlessFailed (asks_deleteRoles p.roles) ⟨trivial, fun _ => trivial⟩

/-- What is asked for principals one after the other is what is asked for each of them. -/
theorem asks_confirmEach {P : AccessCall → Prop} {verb : String}
    {act : Principal → AccessDialogue (Except AccessError Unit)} {ps : List Principal}
    (h : ∀ p ∈ ps, (act p).Asks P) : (confirmEach verb act ps).Asks P := by
  induction ps with
  | nil => trivial
  | cons p ps ih =>
      obtain ⟨hp, hps⟩ := List.forall_mem_cons.mp h
      refine hp.andThen fun r => ?_
      cases r with
      | ok _ => exact (ih hps).andThen fun _ => trivial
      | error e => trivial

/-- To retract principals asks for nothing but deletions. -/
theorem asks_retracted (ps : List Principal) :
    (confirmEach "Retracted" Principal.delete ps).Asks AccessCall.IsDeletion :=
  asks_confirmEach fun p _ => p.asks_delete

/-- What a principal's retraction deletes first: its first role, or the user if it has none. -/
def Principal.firstDeletion (p : Principal) : AccessCall :=
  match p.roles with
  | [] => .deleteUser p.username
  | r :: _ => .deleteRole r.name

/-- How the retraction of a principal fails if its first deletion does. -/
def Principal.failsFirst (p : Principal) (e : RemoteError) : AccessError :=
  .remote p.firstDeletion.operation p.firstDeletion.name e

/-- A principal whose roles have names is deleted from its first role on. -/
theorem Principal.deletesFirst {p : Principal} (named : ∀ n ∈ p.roleNames, n ≠ "") :
    DeletesFirst p.firstDeletion (fun e => .error (p.failsFirst e)) p.delete := by
  obtain ⟨username, password, _ | ⟨r, rs⟩⟩ := p
  · exact ⟨trivial, _, rfl, fun e => rfl, fun r => trivial⟩
  · have hr : r.name ≠ "" := named _ (by simp [roleNames])
    have role : DeletesFirst (.deleteRole r.name)
        (fun e => Except.error (.remote .roleDelete r.name e)) (deleteRole r.name) :=
      ⟨trivial, _, if_neg hr, fun e => rfl, fun r => trivial⟩
    exact (role.unlessFailed (asks_deleteRoles rs)).unlessFailed ⟨trivial, fun _ => trivial⟩

/-- The retraction of principals, the first of which has named roles. -/
theorem deletesFirst_retracted {p : Principal} (named : ∀ n ∈ p.roleNames, n ≠ "")
    (ps : List Principal) :
    DeletesFirst p.firstDeletion (fun e => Ending.failed (.access (p.failsFirst e)))
      (confirmEach "Retracted" Principal.delete (p :: ps)) :=
  (Principal.deletesFirst named).andThen (fun e => rfl) fun r => by
    cases r with
    | ok _ => exact (asks_retracted ps).andThen fun _ => trivial
    | error e => trivial

/-! ### Undisturbed retractions -/

namespace Registry

/-- The users and the roles of these names have gone, and nothing else has changed. -/
structure Without (g : Registry) (users roles : List String) (g' : Registry) : Prop where
  users : ∀ n, g'.users[n]? = if n ∈ users then none else g.users[n]?
  roles : ∀ n, g'.roles[n]? = if n ∈ roles then none else g.roles[n]?

/-- The principal is there with all its roles. -/
structure Keeps (g : Registry) (p : Principal) : Prop where
  user : p.username ∈ g.users
  roles : ∀ n ∈ p.roleNames, n ∈ g.roles

namespace Without

variable {g g₁ g₂ : Registry} {us us' rs rs' : List String}

theorem refl (g : Registry) : g.Without [] [] g :=
  ⟨fun _ => rfl, fun _ => rfl⟩

theorem trans (h : g.Without us rs g₁) (h' : g₁.Without us' rs' g₂) :
    g.Without (us ++ us') (rs ++ rs') g₂ := by
  refine ⟨fun n => ?_, fun n => ?_⟩
  · rw [h'.users, h.users]
    by_cases hn : n ∈ us <;> by_cases hn' : n ∈ us' <;> simp [hn, hn']
  · rw [h'.roles, h.roles]
    by_cases hn : n ∈ rs <;> by_cases hn' : n ∈ rs' <;> simp [hn, hn']

theorem mem_users (h : g.Without us rs g₁) {n : String} : n ∈ g₁.users ↔ n ∈ g.users ∧ n ∉ us := by
  rw [Std.TreeMap.mem_iff_isSome_getElem?, Std.TreeMap.mem_iff_isSome_getElem?, h.users]
  by_cases hn : n ∈ us <;> simp [hn]

theorem mem_roles (h : g.Without us rs g₁) {n : String} : n ∈ g₁.roles ↔ n ∈ g.roles ∧ n ∉ rs := by
  rw [Std.TreeMap.mem_iff_isSome_getElem?, Std.TreeMap.mem_iff_isSome_getElem?, h.roles]
  by_cases hn : n ∈ rs <;> simp [hn]

end Without

/-- A role that is there can be deleted. -/
theorem without_deleteRole {g : Registry} {n : String} (h : n ∈ g.roles) :
    ∃ g', g.answer (.deleteRole n) = (.ok (), g') ∧ g.Without [] [n] g' := by
  refine ⟨{ g with roles := g.roles.erase n }, if_pos h, fun m => rfl, fun m => ?_⟩
  change (g.roles.erase n)[m]? = _
  rw [Std.TreeMap.getElem?_erase]
  simp only [Std.LawfulEqCmp.compare_eq_iff_eq, List.mem_singleton, @eq_comm _ m]

/-- A user that is there can be deleted. -/
theorem without_deleteUser {g : Registry} {n : String} (h : n ∈ g.users) :
    ∃ g', g.answer (.deleteUser n) = (.ok (), g') ∧ g.Without [n] [] g' := by
  refine ⟨{ g with users := g.users.erase n }, if_pos h, fun m => ?_, fun m => rfl⟩
  change (g.users.erase n)[m]? = _
  rw [Std.TreeMap.getElem?_erase]
  simp only [Std.LawfulEqCmp.compare_eq_iff_eq, List.mem_singleton, @eq_comm _ m]

end Registry

/-- Different roles that are all there can be deleted one after the other. -/
theorem run_deleteRoles {rs : List Role} (named : ∀ n ∈ rs.map Role.name, n ≠ "")
    (distinct : (rs.map Role.name).Nodup) {g : Registry}
    (held : ∀ n ∈ rs.map Role.name, n ∈ g.roles) :
    ∃ g', (deleteRoles rs).run Registry.answer g = (.ok (), g') ∧
      g.Without [] (rs.map Role.name) g' := by
  induction rs generalizing g with
  | nil => exact ⟨g, rfl, .refl g⟩
  | cons r rs ih =>
      simp only [List.map_cons, List.forall_mem_cons, List.nodup_cons] at named distinct held
      obtain ⟨g₁, answered, h₁⟩ := Registry.without_deleteRole held.1
      have others : ∀ n ∈ rs.map Role.name, n ∈ g₁.roles := fun n hn => by
        refine h₁.mem_roles.mpr ⟨held.2 n hn, fun he => distinct.1 ?_⟩
        rwa [List.mem_singleton.mp he] at hn
      obtain ⟨g₂, hr, h₂⟩ := ih named.2 distinct.2 others
      refine ⟨g₂, ?_, h₁.trans h₂⟩
      rw [deleteRoles, AccessDialogue.unlessFailed, Dialogue.run_andThen, deleteRole,
        if_neg named.1, Dialogue.run, answered]
      exact hr

/-- **A retraction that is not disturbed** takes away the user and the roles, and nothing else. -/
theorem Principal.run_delete {p : Principal} (named : ∀ n ∈ p.roleNames, n ≠ "")
    (distinct : p.roleNames.Nodup) {g : Registry} (kept : g.Keeps p) :
    ∃ g', p.delete.run Registry.answer g = (.ok (), g') ∧
      g.Without [p.username] p.roleNames g' := by
  obtain ⟨g₁, hr, h₁⟩ := run_deleteRoles named distinct kept.roles
  have user : p.username ∈ g₁.users := h₁.mem_users.mpr ⟨kept.user, List.not_mem_nil⟩
  obtain ⟨g₂, answered, h₂⟩ := Registry.without_deleteUser user
  refine ⟨g₂, ?_, ?_⟩
  · rw [delete, AccessDialogue.unlessFailed, Dialogue.run_andThen, hr]
    simp only [Dialogue.run]
    rw [answered]
    rfl
  · have := h₁.trans h₂
    rwa [List.nil_append, List.append_nil] at this

/-- The same of several principals that have nothing in common. -/
theorem run_retracted {ps : List Principal} (named : ∀ n ∈ ps.flatMap Principal.roleNames, n ≠ "")
    (distinct : (ps.flatMap Principal.roleNames).Nodup)
    (users : (ps.map Principal.username).Nodup) {g : Registry} (kept : ∀ p ∈ ps, g.Keeps p) :
    ∃ e g', (confirmEach "Retracted" Principal.delete ps).run Registry.answer g = (e, g') ∧
      e.failure = none ∧
      g.Without (ps.map Principal.username) (ps.flatMap Principal.roleNames) g' := by
  induction ps generalizing g with
  | nil => exact ⟨{}, g, rfl, rfl, .refl g⟩
  | cons p ps ih =>
      simp only [List.flatMap_cons, List.forall_mem_append, List.nodup_append, List.map_cons,
        List.nodup_cons, List.forall_mem_cons] at named distinct users kept
      obtain ⟨g₁, hr, h₁⟩ := p.run_delete named.1 distinct.1 kept.1
      have others : ∀ q ∈ ps, g₁.Keeps q := fun q hq => by
        refine ⟨h₁.mem_users.mpr ⟨(kept.2 q hq).user, fun he => users.1 ?_⟩, fun n hn =>
          h₁.mem_roles.mpr ⟨(kept.2 q hq).roles n hn, fun he => ?_⟩⟩
        · exact List.mem_singleton.mp he ▸ List.mem_map_of_mem hq
        · exact distinct.2.2 n he n (List.mem_flatMap.mpr ⟨q, hq, hn⟩) rfl
      obtain ⟨e, g₂, hr', he, h₂⟩ := ih named.2 distinct.2.1 users.2 others
      refine ⟨e.after ("Retracted" ++ " " ++ p.username ++ ".\n"), g₂, ?_, he, h₁.trans h₂⟩
      rw [confirmEach, Dialogue.run_andThen, hr]
      simp only
      rw [Dialogue.run_andThen, hr']
      rfl

/-! ### Targets -/

/-- A name for a cluster and a tenant is never empty. -/
theorem Principal.scopedName_ne_empty {name : String} (h : name ≠ "") (cluster tenant : String) :
    scopedName name cluster tenant ≠ "" := by
  simp [scopedName, h]

/-- The principals of a target have different names. -/
theorem Principal.ingestionName_ne_dashboardName (cluster tenant : String) :
    scopedName ingestionName cluster tenant ≠ scopedName dashboardName cluster tenant := by
  intro h
  have := congrArg String.toList h
  simp [scopedName, ingestionName, dashboardName] at this

/-- The retraction of the principals of a target. -/
def Target.retraction (t : Target) : AccessDialogue Ending :=
  confirmEach "Retracted" Principal.delete t.principals

/-- No role of a target is without a name. -/
theorem Target.named (t : Target) : ∀ n ∈ t.principals.flatMap Principal.roleNames, n ≠ "" := by
  intro n hn
  have : n = Principal.scopedName Principal.ingestionName t.cluster t.tenant ∨
      n = Principal.scopedName Principal.dashboardName t.cluster t.tenant := by
    simpa [principals, Principal.ingestion, Principal.dashboard, Principal.withOwnRole,
      Principal.roleNames] using hn
  rcases this with rfl | rfl
  · exact Principal.scopedName_ne_empty (by decide) _ _
  · exact Principal.scopedName_ne_empty (by decide) _ _

/-- The principals of a target have different names. -/
theorem Target.nodup_usernames (t : Target) : (t.principals.map Principal.username).Nodup := by
  have := Principal.ingestionName_ne_dashboardName t.cluster t.tenant
  simpa [principals, Principal.ingestion, Principal.dashboard, Principal.withOwnRole] using this

/-- The roles of a target have different names. -/
theorem Target.nodup_roleNames (t : Target) :
    (t.principals.flatMap Principal.roleNames).Nodup :=
  t.nodup_usernames

/-! ### Second attempts -/

/-- What is left undone by a first attempt `d` at taking users and roles away from `g`, and what an
undisturbed second one comes to.  The calls of the first one get through as `ws` says. -/
structure Resumption (d : AccessDialogue α) (finished : α → Prop) (stuck : α)
    (users roles : List String) (g : Registry) (ws : List Passage) : Prop where
  /-- If the first call is lost, nothing has been deleted, and the second attempt does it all. -/
  untouched : (∃ e ws', ws = .lost e :: ws') → (d.run Registry.along (g, ws)).2.1 = g ∧
    ∃ a g', d.run Registry.answer g = (a, g') ∧ finished a ∧ g.Without users roles g'
  /-- Otherwise something has been deleted, and the second attempt changes nothing any more. -/
  begun : (∀ e ws', ws ≠ .lost e :: ws') → (d.run Registry.along (g, ws)).2.1 ≠ g ∧
    d.run Registry.answer (d.run Registry.along (g, ws)).2.1
      = (stuck, (d.run Registry.along (g, ws)).2.1)

/-- A second attempt finishes the work if the first one was lost before it began, and otherwise is
stuck where the first one began. -/
theorem DeletesFirst.resumption {c : AccessCall} {giveUp : RemoteError → α} {d : AccessDialogue α}
    (h : DeletesFirst c giveUp d) {g : Registry} (held : g.Holds c) {finished : α → Prop}
    {users roles : List String}
    (undisturbed : ∃ a g', d.run Registry.answer g = (a, g') ∧ finished a ∧
      g.Without users roles g') (ws : List Passage) :
    Resumption d finished (giveUp ⟨c.operation, .notFound c.name⟩) users roles g ws := by
  rcases h.run_along g ws with ⟨hw, same⟩ | ⟨hw, gone⟩
  · exact ⟨fun _ => ⟨same, undisturbed⟩, fun hw' => by
      obtain ⟨e, ws', rfl⟩ := hw
      exact absurd rfl (hw' e ws')⟩
  · exact ⟨fun ⟨e, ws', hl⟩ => absurd hl (hw e ws'), fun _ =>
      ⟨fun same => gone (same.symm ▸ held), h.run_answer gone⟩⟩

/-- How the retraction of a principal fails if what it deletes first is not there. -/
def Principal.missing (p : Principal) : AccessError :=
  p.failsFirst ⟨p.firstDeletion.operation, .notFound p.firstDeletion.name⟩

/-- What is kept of a principal includes what is deleted first. -/
theorem Registry.Keeps.holds_firstDeletion {g : Registry} {p : Principal} (h : g.Keeps p) :
    g.Holds p.firstDeletion := by
  obtain ⟨username, password, _ | ⟨r, rs⟩⟩ := p
  · exact h.user
  · exact h.roles r.name (by simp [Principal.roleNames])

/-- **A retraction can be resumed only if it has not begun.**  Of a store that has a principal with
its roles, a second attempt takes everything away if the first call of the first attempt was lost.
In every other case the second attempt fails, as something is not found, and leaves the store as
it is.  The same goes for the principals of a target. -/
theorem retraction_again (g : Registry) (ws : List Passage) :
    (∀ p : Principal, (∀ n ∈ p.roleNames, n ≠ "") → p.roleNames.Nodup → g.Keeps p →
      Resumption p.delete (· = .ok ()) (.error p.missing) [p.username] p.roleNames g ws) ∧
    (∀ t : Target, (∀ p ∈ t.principals, g.Keeps p) →
      Resumption t.retraction (·.failure = none)
        (.failed (.access (Principal.ingestion t.cluster t.tenant).missing))
        (t.principals.map Principal.username) (t.principals.flatMap Principal.roleNames) g ws) := by
  constructor
  · intro p named distinct kept
    obtain ⟨g', hr, without⟩ := p.run_delete named distinct kept
    refine (Principal.deletesFirst named).resumption kept.holds_firstDeletion ?_ ws
    exact ⟨_, g', hr, rfl, without⟩
  · intro t kept
    have first := deletesFirst_retracted (p := Principal.ingestion t.cluster t.tenant)
      (fun n hn => t.named n (List.mem_append_left _ hn))
      [Principal.dashboard t.cluster t.tenant]
    exact first.resumption (kept _ (by simp [Target.principals])).holds_firstDeletion
      (run_retracted t.named t.nodup_roleNames t.nodup_usernames kept) ws

/-- The principals of a cluster, in a store that has nothing else. -/
theorem retraction_again_cluster :
    let t : Target := { cluster := "cluster", tenant := "" }
    let p := Principal.ingestion t.cluster t.tenant
    let q := Principal.dashboard t.cluster t.tenant
    let g : Registry :=
      { roles := (({} : Std.TreeMap String RoleDefinition).insert p.username {}).insert
          q.username {}
        users := (({} : Std.TreeMap String UserBody).insert p.username p.body).insert
          q.username q.body }
    ((∀ n ∈ p.roleNames, n ≠ "") ∧ p.roleNames.Nodup ∧ g.Keeps p ∧ g.Keeps q) ∧
      Resumption p.delete (· = .ok ()) (.error p.missing) [p.username] p.roleNames g [.clear] ∧
      Resumption t.retraction (·.failure = none) (.failed (.access p.missing))
        [p.username, q.username] (p.roleNames ++ q.roleNames) g [.clear] := by
  intro t p q g
  have named : ∀ n ∈ p.roleNames, n ≠ "" := by decide
  have keptP : g.Keeps p := ⟨by decide +kernel, by decide +kernel⟩
  have keptQ : g.Keeps q := ⟨by decide +kernel, by decide +kernel⟩
  have kept : ∀ r ∈ t.principals, g.Keeps r :=
    List.forall_mem_cons.mpr ⟨keptP, List.forall_mem_singleton.mpr keptQ⟩
  exact ⟨⟨named, by decide, keptP, keptQ⟩,
    (retraction_again g [.clear]).1 p named (by decide) keptP,
    (retraction_again g [.clear]).2 t kept⟩

/-- A store with one principal, whose user could not be deleted: its role has gone, so that the next
attempt fails and the user stays. -/
theorem retraction_stuck :
    let p := Principal.ingestion "cluster" ""
    let g : Registry :=
      { roles := ({} : Std.TreeMap String RoleDefinition).insert p.username {}
        users := ({} : Std.TreeMap String UserBody).insert p.username p.body }
    let boom : RemoteError := ⟨.userDelete, .refused 500 "boom"⟩
    let g' := (p.delete.run Registry.along (g, [.clear, .lost boom])).2.1
    ((∀ n ∈ p.roleNames, n ≠ "") ∧ p.roleNames.Nodup ∧ g.Keeps p) ∧
      (p.delete.run Registry.along (g, [.clear, .lost boom])).1
        = .error (.remote .userDelete p.username boom) ∧
      (p.delete.run Registry.answer g').1
        = .error (.remote .roleDelete p.username ⟨.roleDelete, .notFound p.username⟩) ∧
      p.username ∈ (p.delete.run Registry.answer g').2.users := by
  refine ⟨⟨by decide, by decide, by decide +kernel, by decide +kernel⟩, ?_, ?_, by decide +kernel⟩
  · rfl
  · rfl

end LogSteward
