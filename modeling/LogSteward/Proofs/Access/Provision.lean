import LogSteward.Proofs.Access.Course

/-!
# Provisions that were interrupted

To provision a principal is to write its roles and then its user, and what is written replaces what
was there.  So it does not matter what earlier attempts came to, or whether a call that was reported
as failed had been carried out: the attempt that succeeds writes everything again, in the same order
(`provision_again`).  Nothing but the principal's own roles and user is ever touched
(`Registry.SameBut`).
-/

namespace LogSteward

/-! ### What calls may change -/

/-- The call changes nothing but these users and roles. -/
def AccessCall.Within (users roles : List String) : AccessCall → Prop
  | putRole n _ | deleteRole n => n ∈ roles
  | putUser n _ | deleteUser n => n ∈ users
  | listUsers => True

namespace Registry

variable {g g₁ g₂ : Registry} {users roles : List String} {c : AccessCall}

/-- The stores differ at most in these users and roles. -/
structure SameBut (g : Registry) (users roles : List String) (g' : Registry) : Prop where
  users : ∀ n ∉ users, g'.users[n]? = g.users[n]?
  roles : ∀ n ∉ roles, g'.roles[n]? = g.roles[n]?

theorem SameBut.refl (g : Registry) (users roles : List String) : g.SameBut users roles g :=
  ⟨fun _ _ => rfl, fun _ _ => rfl⟩

theorem SameBut.trans (h : g.SameBut users roles g₁) (h' : g₁.SameBut users roles g₂) :
    g.SameBut users roles g₂ :=
  ⟨fun n hn => (h'.users n hn).trans (h.users n hn),
    fun n hn => (h'.roles n hn).trans (h.roles n hn)⟩

theorem getElem?_insert_ne {α : Type} (m : Std.TreeMap String α) {k n : String} (h : k ≠ n)
    (a : α) : (m.insert k a)[n]? = m[n]? := by
  rw [Std.TreeMap.getElem?_insert, if_neg]
  simpa using h

theorem getElem?_erase_ne {α : Type} (m : Std.TreeMap String α) {k n : String} (h : k ≠ n) :
    (m.erase k)[n]? = m[n]? := by
  rw [Std.TreeMap.getElem?_erase, if_neg]
  simpa using h

/-- A call affects only the user or the role that it names. -/
theorem sameBut_answer (hc : c.Within users roles) : g.SameBut users roles (g.answer c).2 := by
  cases c with
  | putRole k d =>
      have hk : k ∈ roles := hc
      exact ⟨fun _ _ => rfl, fun n hn => getElem?_insert_ne _ (ne_of_mem_of_not_mem hk hn) d⟩
  | putUser k b =>
      have hk : k ∈ users := hc
      exact ⟨fun n hn => getElem?_insert_ne _ (ne_of_mem_of_not_mem hk hn) b, fun _ _ => rfl⟩
  | deleteRole k =>
      have hk : k ∈ roles := hc
      simp only [answer]
      split
      · exact ⟨fun _ _ => rfl, fun n hn => getElem?_erase_ne _ (ne_of_mem_of_not_mem hk hn)⟩
      · exact .refl g users roles
  | deleteUser k =>
      have hk : k ∈ users := hc
      simp only [answer]
      split
      · exact ⟨fun n hn => getElem?_erase_ne _ (ne_of_mem_of_not_mem hk hn), fun _ _ => rfl⟩
      · exact .refl g users roles
  | listUsers => exact .refl g users roles

/-- **What a computation does not ask for stays as it is**, whatever happens to its calls on the
way. -/
theorem sameBut_run {α : Type} {d : AccessDialogue α} (hd : d.Asks (·.Within users roles))
    (g : Registry) (ws : List Passage) :
    g.SameBut users roles (d.run along (g, ws)).2.1 := by
  let kept (s : Registry × List Passage) : Prop := g.SameBut users roles s.1
  have step : ∀ c s, AccessCall.Within users roles c → kept s → kept (along c s).2 := by
    intro c s hc hs
    rcases Dialogue.along_state answer FaultyRegistry.failure c s.1 s.2
      with ⟨e, ws', -, he⟩ | ⟨-, he⟩
    · change g.SameBut users roles (along c s).2.1
      rw [along, he]
      exact hs
    · change g.SameBut users roles (along c s).2.1
      rw [along, he]
      exact hs.trans (sameBut_answer hc)
  exact hd.run_keeps step (.refl g users roles)

/-! ### What calls have changed -/

/-- The store after calls that were all carried out. -/
def after (g : Registry) (cs : List AccessCall) : Registry :=
  cs.foldl (fun g c => (g.answer c).2) g

theorem after_append (g : Registry) (cs cs' : List AccessCall) :
    g.after (cs ++ cs') = (g.after cs).after cs' :=
  List.foldl_append

end Registry

theorem AccessCall.verdict_failure (e : RemoteError) (c : AccessCall) :
    c.verdict (FaultyRegistry.failure e c) = .error e := by
  cases c <;> rfl

/-- A call that is accepted has been carried out. -/
theorem Registry.along_accepted {c : AccessCall} {g : Registry} {ws : List Passage}
    (h : c.verdict (Registry.along c (g, ws)).1 = .ok ()) :
    (Registry.along c (g, ws)).2.1 = (g.answer c).2 := by
  rcases Dialogue.along_state Registry.answer FaultyRegistry.failure c g ws
    with ⟨e, ws', -, he⟩ | ⟨-, he⟩
  · rw [Registry.along, he, AccessCall.verdict_failure] at h
    cases h
  · exact he

/-- Calls in turn that succeed have all been carried out, whatever happened on the way. -/
theorem run_along_inTurn {cs : List AccessCall} {result : Except AccessError Unit} {g : Registry}
    {ws : List Passage} (h : ((inTurn cs result).run Registry.along (g, ws)).1 = .ok ()) :
    ((inTurn cs result).run Registry.along (g, ws)).2.1 = g.after cs := by
  induction cs generalizing g ws with
  | nil => rfl
  | cons c cs ih =>
      cases hv : c.verdict (Registry.along c (g, ws)).1 with
      | error e =>
          rw [(inTurn_cons_error hv cs result).1] at h
          cases h
      | ok _ =>
          rw [(inTurn_cons_ok hv cs result).1] at h ⊢
          rw [ih h, Registry.along_accepted hv]
          rfl

namespace Principal

/-- What is written is accepted. -/
theorem verdict_write {p : Principal} {c : AccessCall} (hc : c ∈ p.writes) (g : Registry) :
    c.verdict (g.answer c).1 = .ok () := by
  rcases List.mem_append.mp hc with hc | hc
  · obtain ⟨r, -, rfl⟩ := List.mem_map.mp hc
    rfl
  · rw [List.mem_singleton.mp hc]
    rfl

/-- A store that nothing disturbs carries out all writes of a principal. -/
theorem run_writes {p : Principal} {cs : List AccessCall} (hcs : ∀ c ∈ cs, c ∈ p.writes)
    (result : Except AccessError Unit) (g : Registry) :
    (inTurn cs result).run Registry.answer g = (result, g.after cs) := by
  induction cs generalizing g with
  | nil => rfl
  | cons c cs ih =>
      obtain ⟨hc, hcs⟩ := List.forall_mem_cons.mp hcs
      rw [(inTurn_cons_ok (verdict_write hc g) cs result).1, ih hcs]
      rfl

/-- What is asked for in a creation, whether or not a role is refused in it. -/
theorem asks_create (p : Principal) :
    p.create.Asks (·.Within [p.username] (p.defined.map Prod.fst)) := by
  rw [create_eq]
  refine asks_unlessFailed ((asks_inTurn _ _).mono fun c hc => ?_)
    ((asks_inTurn _ _).mono fun c hc => ?_)
  · obtain ⟨r, hr, rfl⟩ := List.mem_map.mp hc
    exact List.mem_map_of_mem ((List.takeWhile_sublist _).mem hr)
  · rw [List.mem_singleton.mp hc]
    exact List.mem_singleton.mpr rfl

/-- What is asked for in a deletion, whether or not a role is refused in it. -/
theorem asks_delete_within (p : Principal) :
    p.delete.Asks (·.Within [p.username] p.roleNames) := by
  rw [delete_eq]
  refine asks_unlessFailed ((asks_inTurn _ _).mono fun c hc => ?_)
    ((asks_inTurn _ _).mono fun c hc => ?_)
  · obtain ⟨n, hn, rfl⟩ := List.mem_map.mp hc
    exact (List.takeWhile_sublist _).mem hn
  · rw [List.mem_singleton.mp hc]
    exact List.mem_singleton.mpr rfl

end Principal

namespace Registry

variable {g g₁ g₂ : Registry} {p : Principal}

/-- The store once a principal has been provisioned: of definitions for the same role, the last one
counts. -/
structure Provisioned (g : Registry) (p : Principal) (g' : Registry) : Prop where
  roles : ∀ n, g'.roles[n]? = (p.defined.reverse.lookup n).or g.roles[n]?
  users : ∀ n, g'.users[n]? = if n = p.username then some p.body else g.users[n]?

/-- The stores have the same roles and users. -/
structure Alike (g g' : Registry) : Prop where
  roles : g.roles.Equiv g'.roles
  users : g.users.Equiv g'.users

/-- There is only one way to have provisioned a principal. -/
theorem Provisioned.alike (h₁ : g.Provisioned p g₁) (h₂ : g.Provisioned p g₂) : g₁.Alike g₂ where
  roles := .of_forall_constGet?_eq fun n => (h₁.roles n).trans (h₂.roles n).symm
  users := .of_forall_constGet?_eq fun n => (h₁.users n).trans (h₂.users n).symm

/-- Roles that are written one after the other. -/
theorem after_roles (rs : List (String × RoleDefinition)) (g : Registry) :
    g.after (rs.map .write) = { g with roles := g.roles.insertMany rs } := by
  induction rs generalizing g with
  | nil => rfl
  | cons r rs ih =>
      rw [Std.TreeMap.insertMany_cons]
      exact ih _

/-- Of several values for one key, the last one stays. -/
theorem getElem?_insertMany_lookup {α : Type} (m : Std.TreeMap String α)
    (kvs : List (String × α)) (n : String) :
    (m.insertMany kvs)[n]? = (kvs.reverse.lookup n).or m[n]? := by
  rw [Std.TreeMap.getElem?_insertMany_list, List.findSomeRev?_eq_findSome?_reverse,
    List.lookup_eq_findSome?]
  congr 2
  funext ⟨k, a⟩
  simp only [Std.LawfulEqCmp.compare_eq_iff_eq, beq_iff_eq, @eq_comm _ k]

/-- The writes of a principal provision it, whatever was there before. -/
theorem provisioned_after (g : Registry) (p : Principal) :
    g.Provisioned p (g.after p.writes) := by
  have : g.after p.writes
      = { roles := g.roles.insertMany p.defined, users := g.users.insert p.username p.body } := by
    rw [Principal.writes, after_append, after_roles]
    rfl
  rw [this]
  refine ⟨getElem?_insertMany_lookup g.roles p.defined, fun n => ?_⟩
  rw [Std.TreeMap.getElem?_insert]
  simp only [Std.LawfulEqCmp.compare_eq_iff_eq, @eq_comm _ p.username]

/-- What was left undone by earlier attempts is made up for. -/
theorem Provisioned.of_sameBut (h' : g₁.Provisioned p g₂)
    (h : g.SameBut [p.username] (p.defined.map Prod.fst) g₁) : g.Provisioned p g₂ where
  roles n := by
    rw [h'.roles]
    by_cases hn : n ∈ p.defined.map Prod.fst
    · have : (p.defined.reverse.lookup n).isSome = true := by simpa using hn
      obtain ⟨d, hd⟩ := Option.isSome_iff_exists.mp this
      rw [hd, Option.some_or, Option.some_or]
    · rw [h.roles n hn]
  users n := by
    rw [h'.users]
    by_cases hn : n = p.username
    · rw [if_pos hn, if_pos hn]
    · rw [if_neg hn, if_neg hn, h.users n (by simpa using hn)]

end Registry

/-! ### Attempts -/

namespace Principal

/-- An attempt to provision a principal, whose calls get through as the passages say: its result and
the store it leaves. -/
def attempt (p : Principal) (g : Registry) (ws : List Passage) :
    Except AccessError Unit × Registry :=
  ((p.create.run Registry.along (g, ws)).1, (p.create.run Registry.along (g, ws)).2.1)

/-- The store that is left by attempts, one after the other. -/
def attempts (p : Principal) (g : Registry) (wss : List (List Passage)) : Registry :=
  wss.foldl (fun g ws => (p.attempt g ws).2) g

theorem attempt_nil (p : Principal) (g : Registry) :
    p.attempt g [] = p.create.run Registry.answer g :=
  congrArg (fun r => (r.1, r.2.1)) (Dialogue.run_along_nil _ FaultyRegistry.failure p.create g)

/-- No role that is written is without a name. -/
theorem defined_named {p : Principal}
    (named : ∀ r ∈ p.roles, r.definition.isSome = true → r.name ≠ "") :
    "" ∉ p.defined.map Prod.fst := by
  intro h
  obtain ⟨⟨n, d⟩, hm, rfl⟩ := List.mem_map.mp h
  obtain ⟨r, hr, hd⟩ := List.mem_filterMap.mp hm
  obtain ⟨d', hd', he⟩ := Option.map_eq_some_iff.mp hd
  exact named r hr (by rw [hd']; rfl) (congrArg Prod.fst he)

/-- Attempts leave alone whatever is not the principal's. -/
theorem sameBut_attempts (p : Principal) (g : Registry) (wss : List (List Passage)) :
    g.SameBut [p.username] (p.defined.map Prod.fst) (p.attempts g wss) := by
  induction wss generalizing g with
  | nil => exact .refl g _ _
  | cons ws wss ih => exact (Registry.sameBut_run p.asks_create g ws).trans (ih _)

/-- An attempt that succeeds provisions the principal. -/
theorem provisioned_attempt {p : Principal}
    (named : ∀ r ∈ p.roles, r.definition.isSome = true → r.name ≠ "") {g : Registry}
    {ws : List Passage} (h : (p.attempt g ws).1 = .ok ()) :
    g.Provisioned p (p.attempt g ws).2 := by
  rw [attempt, create_named (defined_named named)] at h ⊢
  rw [run_along_inTurn h]
  exact Registry.provisioned_after g p

/-- An attempt that is not disturbed succeeds. -/
theorem attempt_undisturbed {p : Principal}
    (named : ∀ r ∈ p.roles, r.definition.isSome = true → r.name ≠ "") (g : Registry) :
    (p.attempt g []).1 = .ok () := by
  rw [attempt_nil, create_named (defined_named named), run_writes fun _ hc => hc]

end Principal

/-- **A provision can be repeated and resumed.**  Let any number of attempts go before, each of them
cut short by a call that is lost or unheard, or not.  A further attempt that is not disturbed
succeeds, and one that succeeds leaves the roles and users that a single attempt would have left of
the initial store: each defined role with the last definition given for it, the user with its
password and the names of its roles, and everything else as it was. -/
theorem provision_again {p : Principal}
    (named : ∀ r ∈ p.roles, r.definition.isSome = true → r.name ≠ "") (g : Registry)
    (before : List (List Passage)) :
    let once := p.create.run Registry.answer g
    (once.1 = .ok () ∧ g.Provisioned p once.2) ∧
      (p.attempt (p.attempts g before) []).1 = .ok () ∧
      ∀ last, (p.attempt (p.attempts g before) last).1 = .ok () →
        g.Provisioned p (p.attempt (p.attempts g before) last).2 ∧
          once.2.Alike (p.attempt (p.attempts g before) last).2 := by
  intro once
  have single : p.attempt g [] = once := p.attempt_nil g
  have ok : once.1 = .ok () := single ▸ Principal.attempt_undisturbed named g
  have settled : g.Provisioned p once.2 :=
    single ▸ Principal.provisioned_attempt named (Principal.attempt_undisturbed named g)
  refine ⟨⟨ok, settled⟩, Principal.attempt_undisturbed named _, fun last hl => ?_⟩
  have again := (Principal.provisioned_attempt named hl).of_sameBut (p.sameBut_attempts g before)
  exact ⟨again, settled.alike again⟩

/-- Two attempts that are cut short, at a role that is named twice, and a third that is not. -/
theorem provision_again_third :
    let p : Principal :=
      { username := "svc", password := "pw"
        roles :=
          [ { name := "r", definition := some { cluster := ["monitor"] } }, { name := "s" }
          , { name := "r", definition := some {} } ] }
    let boom : RemoteError := ⟨.rolePut, .refused 500 "boom"⟩
    let before : List (List Passage) := [[.lost boom], [.clear, .unheard boom]]
    let last := p.attempt (p.attempts {} before) [.clear]
    (∀ r ∈ p.roles, r.definition.isSome = true → r.name ≠ "") ∧
      (p.attempt {} [.lost boom]).1 = .error (.remote .rolePut "r" boom) ∧ last.1 = .ok () ∧
      ({} : Registry).Provisioned p last.2 ∧ (p.create.run Registry.answer {}).2.Alike last.2 := by
  intro p boom before last
  have named : ∀ r ∈ p.roles, r.definition.isSome = true → r.name ≠ "" := by decide
  have ok : last.1 = .ok () := rfl
  exact ⟨named, rfl, ok, (provision_again named {} before).2.2 [.clear] ok⟩

end LogSteward
