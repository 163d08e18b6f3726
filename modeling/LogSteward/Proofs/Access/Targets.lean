import LogSteward.Proofs.Access.Provision

/-!
# The principals of different targets

The names of a target's principals and of their roles are made of the cluster and the tenant, joined
by an underscore (`Target.scope`).  Targets for which this is the same text share their principals,
whichever way it is divided; those for which it is not have no name in common
(`Target.disjoint_names_iff`), and no run for one of them touches what a run for the other has
provisioned (`targets_apart`).
-/

namespace LogSteward

/-! ### Runs over several principals -/

section Confirming

variable {σ : Type} {answer : (c : AccessCall) → σ → c.Answer × σ} {verb : String}
  {act : Principal → AccessDialogue (Except AccessError Unit)} {p : Principal}
  {ps : List Principal} {s : σ}

/-- A principal that is done is confirmed before the others are taken. -/
theorem confirmEach_cons_ok (h : ((act p).run answer s).1 = .ok ()) (ps : List Principal) :
    (confirmEach verb act (p :: ps)).run answer s
      = let rest := (confirmEach verb act ps).run answer ((act p).run answer s).2
        (rest.1.after (verb ++ " " ++ p.username ++ ".\n"), rest.2) := by
  rw [confirmEach, Dialogue.run_andThen, h]
  exact Dialogue.run_andThen answer _ _ _

/-- A principal that fails is the last one, and is not confirmed. -/
theorem confirmEach_cons_error {e : AccessError} (h : ((act p).run answer s).1 = .error e)
    (ps : List Principal) :
    (confirmEach verb act (p :: ps)).run answer s
      = (.failed (.access e), ((act p).run answer s).2) := by
  rw [confirmEach, Dialogue.run_andThen, h]
  rfl

/-- If none fails, all are done. -/
theorem confirmEach_ok (h : ∀ p ∈ ps, ∀ s, ((act p).run answer s).1 = .ok ()) (s : σ) :
    ((confirmEach verb act ps).run answer s).1.failure = none := by
  induction ps generalizing s with
  | nil => rfl
  | cons p ps ih =>
      obtain ⟨hp, hps⟩ := List.forall_mem_cons.mp h
      rw [confirmEach_cons_ok (hp s)]
      exact ih hps _

end Confirming

/-! ### Principals with a role of their own -/

namespace Principal

/-- The principal has one role, which is defined and has its name. -/
structure HasOwnRole (p : Principal) : Prop where
  named : p.username ≠ ""
  roles : ∃ d, p.roles = [{ name := p.username, definition := some d }]

variable {p : Principal}

theorem HasOwnRole.defined (h : p.HasOwnRole) : p.defined.map Prod.fst = [p.username] := by
  obtain ⟨d, hd⟩ := h.roles
  rw [Principal.defined, hd]
  rfl

theorem HasOwnRole.roleNames (h : p.HasOwnRole) : p.roleNames = [p.username] := by
  obtain ⟨d, hd⟩ := h.roles
  rw [Principal.roleNames, hd]
  rfl

/-- Its own role has a name, that of the principal. -/
theorem HasOwnRole.rolesNamed (h : p.HasOwnRole) :
    ∀ r ∈ p.roles, r.definition.isSome = true → r.name ≠ "" := by
  obtain ⟨d, hd⟩ := h.roles
  rw [hd]
  exact List.forall_mem_singleton.mpr fun _ => h.named

end Principal

theorem AccessCall.Within.mono {users roles names : List String} (hu : users ⊆ names)
    (hr : roles ⊆ names) {c : AccessCall} (h : c.Within users roles) : c.Within names names := by
  cases c with
  | putRole n d | deleteRole n => exact hr h
  | putUser n b | deleteUser n => exact hu h
  | listUsers => trivial

namespace Registry

variable {g g' : Registry} {p : Principal}

/-- The store has the principal as it was given, and its roles as they are defined. -/
structure Carries (g : Registry) (p : Principal) : Prop where
  user : g.users[p.username]? = some p.body
  roles : ∀ r ∈ p.roles, ∃ d, r.definition = some d ∧ g.roles[r.name]? = some d

/-- A principal that has been provisioned is carried by the store. -/
theorem Provisioned.carries (h : g.Provisioned p g') (own : p.HasOwnRole) : g'.Carries p where
  user := by rw [h.users, if_pos rfl]
  roles := by
    obtain ⟨d, hd⟩ := own.roles
    have : p.defined = [(p.username, d)] := by rw [Principal.defined, hd]; rfl
    rw [hd]
    refine List.forall_mem_singleton.mpr ⟨d, rfl, ?_⟩
    rw [h.roles, this]
    simp

/-- It stays carried as long as only others are affected. -/
theorem Carries.of_sameBut {users roles : List String} (h : g.Carries p)
    (same : g.SameBut users roles g') (hu : p.username ∉ users)
    (hr : ∀ n ∈ p.roleNames, n ∉ roles) : g'.Carries p where
  user := (same.users _ hu).trans h.user
  roles r hm := by
    obtain ⟨d, hd, hg⟩ := h.roles r hm
    exact ⟨d, hd, (same.roles _ (hr _ (List.mem_map_of_mem hm))).trans hg⟩

/-- Principals of different names, provisioned one after the other with success, are all there in
the end. -/
theorem carries_provisioned {ps : List Principal} (own : ∀ p ∈ ps, p.HasOwnRole)
    (distinct : (ps.map Principal.username).Nodup) {g : Registry} {ws : List Passage}
    (h : ((confirmEach "Provisioned" Principal.create ps).run along (g, ws)).1.failure = none) :
    ∀ p ∈ ps,
      ((confirmEach "Provisioned" Principal.create ps).run along (g, ws)).2.1.Carries p := by
  induction ps generalizing g ws with
  | nil => exact nofun
  | cons p ps ih =>
      obtain ⟨own, owns⟩ := List.forall_mem_cons.mp own
      obtain ⟨new, distinct⟩ := List.nodup_cons.mp distinct
      cases hp : (p.create.run along (g, ws)).1 with
      | error e =>
          rw [confirmEach_cons_error hp] at h
          cases h
      | ok _ =>
          rw [confirmEach_cons_ok hp] at h ⊢
          have here := (Principal.provisioned_attempt own.rolesNamed hp).carries own
          -- the principals that follow have other names
          have others : (confirmEach "Provisioned" Principal.create ps).Asks
              (·.Within (ps.map Principal.username) (ps.map Principal.username)) := by
            refine asks_confirmEach fun q hq => q.asks_create.mono fun c => ?_
            have : [q.username] ⊆ ps.map Principal.username :=
              List.cons_subset.mpr ⟨List.mem_map_of_mem hq, List.nil_subset _⟩
            exact .mono this ((owns q hq).defined ▸ this)
          refine List.forall_mem_cons.mpr ⟨?_, ih owns distinct h⟩
          refine here.of_sameBut (sameBut_run others _ _) new ?_
          rw [own.roleNames]
          exact List.forall_mem_singleton.mpr new

end Registry

/-! ### Targets -/

/-- What can be done for a target. -/
inductive Deed where
  | provision (password : String)
  | retract
deriving DecidableEq

namespace Target

/-- The cluster and the tenant, joined as in the names of the target's principals. -/
def scope (t : Target) : String :=
  t.cluster ++ "_" ++ t.tenant

/-- The names of the target's principals, which are those of their roles as well. -/
def names (t : Target) : List String :=
  t.principals.map Principal.username

/-- The principals of the target with their password. -/
def accounts (t : Target) (password : String) : List Principal :=
  t.principals.map (·.withPassword password)

/-- The provision of the principals of a target. -/
def provision (t : Target) (password : String) : AccessDialogue Ending :=
  confirmEach "Provisioned" Principal.create (t.accounts password)

/-- A deed for the target, as a computation. -/
def deed (t : Target) : Deed → AccessDialogue Ending
  | .provision password => t.provision password
  | .retract => t.retraction

/-- The store after deeds for the target, one after the other, whose calls get through as the
passages say. -/
def afterDeeds (t : Target) (g : Registry) (deeds : List (Deed × List Passage)) : Registry :=
  deeds.foldl (fun g d => ((t.deed d.1).run Registry.along (g, d.2)).2.1) g

/-- The names of a target end in its scope. -/
theorem names_eq (t : Target) :
    t.names = [Principal.ingestionName ++ "_" ++ t.scope, Principal.dashboardName ++ "_" ++ t.scope]
    := by
  simp only [names, principals, scope, List.map_cons, List.map_nil, Principal.ingestion,
    Principal.dashboard, Principal.withOwnRole, Principal.scopedName, String.append_assoc]

theorem map_username_accounts (t : Target) (password : String) :
    (t.accounts password).map Principal.username = t.names := by
  simp only [accounts, names, List.map_map]
  rfl

/-- Each account of a target has one role, of its own name. -/
theorem hasOwnRole_accounts (t : Target) (password : String) :
    ∀ p ∈ t.accounts password, p.HasOwnRole := by
  have own : ∀ (name : String) (d : RoleDefinition), name ≠ "" →
      ((Principal.withOwnRole name d).withPassword password).HasOwnRole :=
    fun name d h => ⟨h, d, rfl⟩
  exact List.forall_mem_cons.mpr ⟨own _ _ (Principal.scopedName_ne_empty (by decide) _ _),
    List.forall_mem_singleton.mpr (own _ _ (Principal.scopedName_ne_empty (by decide) _ _))⟩

/-- **Targets have names in common** exactly if cluster and tenant, joined, are the same text. -/
theorem disjoint_names_iff (t t' : Target) :
    (∀ n ∈ t.names, n ∉ t'.names) ↔ t.scope ≠ t'.scope := by
  -- the names of the two principals differ in their eleventh character
  have cross : ∀ s s' : String,
      Principal.ingestionName ++ "_" ++ s ≠ Principal.dashboardName ++ "_" ++ s' := by
    intro s s' h
    have := congrArg String.toList h
    simp [Principal.ingestionName, Principal.dashboardName] at this
  rw [names_eq, names_eq, List.forall_mem_cons, List.forall_mem_singleton]
  simp only [List.mem_cons, List.not_mem_nil, or_false, not_or, String.append_right_inj]
  constructor
  · intro h
    exact h.1.1
  · intro h
    exact ⟨⟨h, cross _ _⟩, (cross _ _).symm, h⟩

/-- A cluster without an underscore can be read off: different targets are then joined to different
texts. -/
theorem scope_injective {t t' : Target} (h : '_' ∉ t.cluster.toList) (h' : '_' ∉ t'.cluster.toList)
    (same : t.scope = t'.scope) : t = t' := by
  have cut (s u : String) (hs : '_' ∉ s.toList) :
      (s ++ "_" ++ u).toList.takeWhile (· ≠ '_') = s.toList := by
    rw [String.toList_append, String.toList_append, List.append_assoc,
      List.takeWhile_append_of_pos fun c hc => decide_eq_true (ne_of_mem_of_not_mem hc hs)]
    exact List.append_nil _
  have cluster : t.cluster = t'.cluster := by
    rw [← String.toList_inj, ← cut _ t.tenant h, ← cut _ t'.tenant h']
    exact congrArg (fun s => s.toList.takeWhile (· ≠ '_')) same
  have tenant : t.tenant = t'.tenant := by
    rw [scope, scope, cluster] at same
    exact (String.append_right_inj _).mp same
  cases t
  cases t'
  cases cluster
  cases tenant
  rfl

/-- A deed is about the target's own principals and roles. -/
theorem asks_deed (t : Target) (d : Deed) : (t.deed d).Asks (·.Within t.names t.names) := by
  have mem {p : Principal} (hp : p.username ∈ t.names) : [p.username] ⊆ t.names :=
    List.cons_subset.mpr ⟨hp, List.nil_subset _⟩
  cases d with
  | provision password =>
      refine asks_confirmEach fun p hp => p.asks_create.mono fun c => ?_
      have named : p.username ∈ t.names :=
        t.map_username_accounts password ▸ List.mem_map_of_mem hp
      exact .mono (mem named) ((t.hasOwnRole_accounts password p hp).defined ▸ mem named)
  | retract =>
      refine asks_confirmEach fun p hp => p.asks_delete_within.mono fun c => ?_
      have named : p.username ∈ t.names := List.mem_map_of_mem hp
      -- a principal has the same roles with a password as without
      have own := t.hasOwnRole_accounts "" (p.withPassword "") (List.mem_map_of_mem hp)
      exact .mono (mem named) (own.roleNames ▸ mem named)

/-- Deeds for a target leave alone whatever is not the target's. -/
theorem sameBut_afterDeeds (t : Target) (g : Registry) (deeds : List (Deed × List Passage)) :
    g.SameBut t.names t.names (t.afterDeeds g deeds) := by
  induction deeds generalizing g with
  | nil => exact .refl g _ _
  | cons d deeds ih => exact (Registry.sameBut_run (t.asks_deed d.1) g d.2).trans (ih _)

/-- A provision that is not disturbed succeeds. -/
theorem provision_ok (t : Target) (password : String) (g : Registry) :
    ((t.provision password).run Registry.answer g).1.failure = none :=
  confirmEach_ok (fun p hp g => by
    rw [← p.attempt_nil g]
    exact p.attempt_undisturbed (t.hasOwnRole_accounts password p hp).rolesNamed g) g

/-- A provision that succeeds leaves the target's principals and roles as they were given. -/
theorem carries_provision {t : Target} {password : String} {g : Registry} {ws : List Passage}
    (h : ((t.provision password).run Registry.along (g, ws)).1.failure = none) :
    ∀ p ∈ t.accounts password,
      ((t.provision password).run Registry.along (g, ws)).2.1.Carries p := by
  refine Registry.carries_provisioned (t.hasOwnRole_accounts password) ?_ h
  rw [map_username_accounts]
  exact t.nodup_usernames

end Target

/-- **Targets do not touch each other if cluster and tenant, joined, differ**, as they do for
different targets whose clusters have no underscore; if they do not differ, the targets have the
same names.  What is done for one target, whatever is answered to it, is about its own names, which
the other target has none of.  So what a provision of the other one has left there with success is
still there after any deeds for the first, and whatever became of their calls. -/
theorem targets_apart (t t' : Target) :
    (t.scope = t'.scope → t.names = t'.names) ∧
    ('_' ∉ t.cluster.toList → '_' ∉ t'.cluster.toList → t ≠ t' → t.scope ≠ t'.scope) ∧
    (t.scope ≠ t'.scope →
      (∀ n ∈ t.names, n ∉ t'.names) ∧
      (∀ d, (t.deed d).Asks (·.Within t.names t.names)) ∧
      (∀ password g, ((t'.provision password).run Registry.answer g).1.failure = none) ∧
      ∀ password g ws, ((t'.provision password).run Registry.along (g, ws)).1.failure = none →
        ∀ deeds, ∀ p ∈ t'.accounts password,
          (t.afterDeeds ((t'.provision password).run Registry.along (g, ws)).2.1 deeds).Carries p)
    := by
  refine ⟨fun same => by rw [t.names_eq, t'.names_eq, same],
    fun h h' different same => different (Target.scope_injective h h' same), fun apart => ?_⟩
  have disjoint := (t.disjoint_names_iff t').mpr apart
  refine ⟨disjoint, t.asks_deed, t'.provision_ok, fun password g ws h deeds p hp => ?_⟩
  have other : p.username ∉ t.names := fun hn =>
    disjoint _ hn (t'.map_username_accounts password ▸ List.mem_map_of_mem hp)
  refine (Target.carries_provision h p hp).of_sameBut (t.sameBut_afterDeeds _ deeds) other ?_
  rw [(t'.hasOwnRole_accounts password p hp).roleNames]
  exact List.forall_mem_singleton.mpr other

/-- Two tenants of a cluster, one of which is provisioned and retracted after the other one. -/
theorem targets_apart_tenants :
    let t : Target := { cluster := "cluster", tenant := "t1" }
    let t' : Target := { cluster := "cluster", tenant := "t2" }
    let given := (t'.provision "pw").run Registry.along ({}, [])
    ('_' ∉ t.cluster.toList ∧ '_' ∉ t'.cluster.toList ∧ t ≠ t' ∧ given.1.failure = none) ∧
      t.scope ≠ t'.scope ∧ (∀ n ∈ t.names, n ∉ t'.names) ∧
      ∀ p ∈ t'.accounts "pw",
        (t.afterDeeds given.2.1 [(.provision "other", []), (.retract, [])]).Carries p := by
  intro t t' given
  have plain : '_' ∉ t.cluster.toList := by decide
  have plain' : '_' ∉ t'.cluster.toList := by decide
  have different : t ≠ t' := by decide
  have ok : given.1.failure = none := rfl
  have apart := (targets_apart t t').2.1 plain plain' different
  obtain ⟨disjoint, -, -, kept⟩ := (targets_apart t t').2.2 apart
  exact ⟨⟨plain, plain', different, ok⟩, apart, disjoint, kept "pw" {} [] ok _⟩

/-- Two targets that divide one text in different ways: to provision the second is to overwrite the
first, and to retract it is to leave neither. -/
theorem targets_shared :
    let t : Target := { cluster := "a_b", tenant := "c" }
    let t' : Target := { cluster := "a", tenant := "b_c" }
    let first := (t.provision "one").run Registry.answer {}
    let second := (t'.provision "two").run Registry.answer first.2
    let last := t'.retraction.run Registry.answer second.2
    t ≠ t' ∧ t.names = t'.names ∧
      first.1.failure = none ∧ second.1.failure = none ∧ last.1.failure = none ∧
      (∀ n ∈ t.names, n ∈ first.2.users ∧ n ∈ first.2.roles) ∧
      (∀ n ∈ t.names, second.2.users[n]? ≠ first.2.users[n]?) ∧
      ∀ n ∈ t.names, n ∉ last.2.users ∧ n ∉ last.2.roles := by
  refine ⟨by decide, by decide, rfl, rfl, rfl, ?_, ?_, ?_⟩
  · decide +kernel
  · decide +kernel
  · decide +kernel

end LogSteward
