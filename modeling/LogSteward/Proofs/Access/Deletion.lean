import Mathlib.Data.List.Nodup
import LogSteward.Proofs.Access.Order

/-!
# What a deletion takes away

A faithful store carries out the calls that it accepts and no others, if none is carried out that is
reported as failed (`Registry.run_along_carriedOut`).  A deletion that it accepts takes away
something that was there, so the deletions that are accepted one after the other are of different
things (`Registry.Taken`).  This says of each way in which the deletion of a principal can end what
it has taken away (`Deletion`).
-/

namespace LogSteward

open Dialogue (Turn)

/-! ### Calls that are carried out -/

/-- The calls that are accepted. -/
def carriedOut (heard : List (Turn AccessCall.Answer)) : List AccessCall :=
  (heard.filter fun t => (t.1.verdict t.2).toBool).map Sigma.fst

theorem carriedOut_cons_ok {c : AccessCall} {r : c.Answer} (h : c.verdict r = .ok ())
    (heard : List (Turn AccessCall.Answer)) :
    carriedOut (⟨c, r⟩ :: heard) = c :: carriedOut heard := by
  simp [carriedOut, h, Except.toBool]

theorem carriedOut_cons_error {c : AccessCall} {r : c.Answer} {e : RemoteError}
    (h : c.verdict r = .error e) (heard : List (Turn AccessCall.Answer)) :
    carriedOut (⟨c, r⟩ :: heard) = carriedOut heard := by
  simp [carriedOut, h, Except.toBool]

/-- Calls that were accepted were carried out. -/
theorem carriedOut_accepted (cs : List AccessCall) (heard : List (Turn AccessCall.Answer)) :
    carriedOut (accepted cs ++ heard) = cs ++ carriedOut heard := by
  induction cs with
  | nil => rfl
  | cons c cs ih => exact (carriedOut_cons_ok c.verdict_accepted _).trans (congrArg (c :: ·) ih)

theorem carriedOut_all (cs : List AccessCall) : carriedOut (accepted cs) = cs := by
  have := carriedOut_accepted cs []
  rwa [List.append_nil, show carriedOut [] = [] from rfl, List.append_nil] at this

theorem carriedOut_failure (cs : List AccessCall) (c : AccessCall) (e : RemoteError) :
    carriedOut (accepted cs ++ [⟨c, FaultyRegistry.failure e c⟩]) = cs := by
  rw [carriedOut_accepted, carriedOut_cons_error (AccessCall.verdict_failure e c)]
  exact List.append_nil cs

namespace Registry

variable {g g' : Registry} {ws : List Passage} {c : AccessCall} {users roles names : List String}

/-- A store that refuses a call is left as it is. -/
theorem answer_error {e : RemoteError} (h : c.verdict (g.answer c).1 = .error e) :
    (g.answer c).2 = g := by
  cases c with
  | deleteRole n | deleteUser n =>
      simp only [answer] at h ⊢
      split at h
      · cases h
      · next hn => rw [if_neg hn]
  | putRole _ _ | putUser _ _ => cases h
  | listUsers => rfl

/-- If nothing is carried out that is reported as failed, an answer says what has happened. -/
theorem along_told (told : ∀ e, .unheard e ∉ ws) (c : AccessCall) (g : Registry) :
    (∀ e, .unheard e ∉ (along c (g, ws)).2.2) ∧
      (c.verdict (along c (g, ws)).1 = .ok () ∧ (along c (g, ws)).2.1 = (g.answer c).2 ∧
          c.verdict (g.answer c).1 = .ok () ∨
        ∃ e, c.verdict (along c (g, ws)).1 = .error e ∧ (along c (g, ws)).2.1 = g) := by
  have clear : c.verdict (g.answer c).1 = .ok () ∨
      ∃ e, c.verdict (g.answer c).1 = .error e ∧ (g.answer c).2 = g := by
    cases hv : c.verdict (g.answer c).1 with
    | ok _ => exact .inl rfl
    | error e => exact .inr ⟨e, rfl, answer_error hv⟩
  match ws with
  | [] => exact ⟨told, clear.imp (fun h => ⟨h, rfl, h⟩) id⟩
  | .clear :: ws =>
      exact ⟨fun e he => told e (List.mem_cons_of_mem _ he), clear.imp (fun h => ⟨h, rfl, h⟩) id⟩
  | .lost e :: ws =>
      exact ⟨fun e' he => told e' (List.mem_cons_of_mem _ he),
        .inr ⟨e, AccessCall.verdict_failure e c, rfl⟩⟩
  | .unheard e :: ws => exact absurd List.mem_cons_self (told e)

/-- What has been accepted has been carried out, and nothing else. -/
theorem run_along_carriedOut {α : Type} (told : ∀ e, .unheard e ∉ ws) (d : AccessDialogue α) :
    (d.run along (g, ws)).2.1 = g.after (carriedOut (d.turns along (g, ws))) := by
  induction d generalizing g ws with
  | done a => rfl
  | ask c next ih =>
      have step := along_told told c g
      rw [Dialogue.run, Dialogue.turns]
      generalize along c (g, ws) = s at step
      obtain ⟨r, g', ws'⟩ := s
      obtain ⟨told', ⟨hv, rfl, -⟩ | ⟨e, hv, rfl⟩⟩ := step
      · rw [carriedOut_cons_ok hv]
        exact ih r told'
      · rw [carriedOut_cons_error hv]
        exact ih r told'

/-! ### What deletions take away -/

theorem without_absent (hu : ∀ n ∈ users, n ∉ g.users) (hr : ∀ n ∈ roles, n ∉ g.roles) :
    g.Without users roles g where
  users n := by
    split
    · next h => exact Std.TreeMap.getElem?_eq_none (hu n h)
    · rfl
  roles n := by
    split
    · next h => exact Std.TreeMap.getElem?_eq_none (hr n h)
    · rfl

/-- To delete a role takes it away, if it is there, and nothing else. -/
theorem without_answer_deleteRole (g : Registry) (n : String) :
    g.Without [] [n] (g.answer (.deleteRole n)).2 := by
  by_cases hn : n ∈ g.roles
  · obtain ⟨g', he, hw⟩ := without_deleteRole hn
    rwa [he]
  · rw [answer_of_not_holds (c := .deleteRole n) trivial hn]
    exact without_absent (List.forall_mem_nil _) (List.forall_mem_singleton.mpr hn)

/-- To delete a user takes it away, if it is there, and nothing else. -/
theorem without_answer_deleteUser (g : Registry) (n : String) :
    g.Without [n] [] (g.answer (.deleteUser n)).2 := by
  by_cases hn : n ∈ g.users
  · obtain ⟨g', he, hw⟩ := without_deleteUser hn
    rwa [he]
  · rw [answer_of_not_holds (c := .deleteUser n) trivial hn]
    exact without_absent (List.forall_mem_singleton.mpr hn) (List.forall_mem_nil _)

/-- After their deletion the roles are gone, and nothing else is. -/
theorem without_after (g : Registry) (names : List String) :
    g.Without [] names (g.after (names.map .deleteRole)) := by
  induction names generalizing g with
  | nil => exact .refl g
  | cons n names ih => exact (g.without_answer_deleteRole n).trans (ih _)

/-- After their deletion the roles and the user are gone, and nothing else is. -/
theorem without_after_user (g : Registry) (names : List String) (user : String) :
    g.Without [user] names (g.after (names.map .deleteRole ++ [.deleteUser user])) := by
  rw [after_append]
  have := (g.without_after names).trans (without_answer_deleteUser _ user)
  rwa [List.nil_append, List.append_nil] at this

/-- What a store accepts to delete was there. -/
theorem holds_of_accepted (hc : c.IsDeletion) (h : c.verdict (g.answer c).1 = .ok ()) :
    g.Holds c := by
  by_contra hn
  rw [answer_of_not_holds hc hn, AccessCall.verdict_failure] at h
  cases h

/-- Deletions that are accepted one after the other are of different things that were there. -/
theorem held_of_accepted {α : Type} {d : AccessDialogue α} {cs : List AccessCall}
    (told : ∀ e, .unheard e ∉ ws) (deletions : ∀ c ∈ cs, c.IsDeletion)
    (h : accepted cs <+: d.turns along (g, ws)) : cs.Nodup ∧ ∀ c ∈ cs, g.Holds c := by
  induction cs generalizing d g ws with
  | nil => exact ⟨List.nodup_nil, List.forall_mem_nil _⟩
  | cons c cs ih =>
      obtain ⟨hc, hcs⟩ := List.forall_mem_cons.mp deletions
      cases d with
      | done a => cases List.prefix_nil.mp h
      | ask q next =>
          obtain ⟨first, rest⟩ := List.cons_prefix_cons.mp h
          obtain rfl : c = q := congrArg Sigma.fst first
          have answered : c.accepted = (along c (g, ws)).1 := eq_of_heq (Sigma.mk.inj first).2
          have step := along_told told c g
          generalize along c (g, ws) = s at step answered rest
          obtain ⟨r, g', ws'⟩ := s
          obtain ⟨told', ⟨-, rfl, hv⟩ | ⟨e, hv, -⟩⟩ := step
          · obtain ⟨distinct, held⟩ := ih told' hcs rest
            exact ⟨List.nodup_cons.mpr ⟨fun hm => not_holds_answer hc (held c hm), distinct⟩,
              List.forall_mem_cons.mpr ⟨holds_of_accepted hc hv,
                fun c' hc' => .of_answer hc (held c' hc')⟩⟩
          · obtain rfl : c.accepted = r := answered
            rw [AccessCall.verdict_accepted] at hv
            cases hv

/-- The users and the roles of these names were there and are gone, and nothing else has changed. -/
structure Taken (g : Registry) (us rs : List String) (g' : Registry) : Prop
    extends g.Without us rs g' where
  users_held : ∀ n ∈ us, n ∈ g.users
  roles_held : ∀ n ∈ rs, n ∈ g.roles
  distinct : rs.Nodup

section Taken

variable {α : Type} {d : AccessDialogue α} {user : String}

theorem isDeletion_deleteRole (names : List String) :
    ∀ c ∈ names.map .deleteRole, AccessCall.IsDeletion c :=
  List.forall_mem_map.mpr fun _ _ => trivial

/-- If no reply is lost, roles whose deletion was accepted had been there. -/
theorem taken_roles (told : ∀ e, .unheard e ∉ ws)
    (h : accepted (names.map .deleteRole) <+: d.turns along (g, ws)) :
    g.Taken [] names (g.after (names.map .deleteRole)) := by
  obtain ⟨distinct, held⟩ := held_of_accepted told (isDeletion_deleteRole names) h
  exact ⟨g.without_after names, List.forall_mem_nil _,
    fun n hn => held _ (List.mem_map_of_mem hn), .of_map _ distinct⟩

/-- If no reply is lost, a user whose deletion was accepted had been there. -/
theorem taken_user (told : ∀ e, .unheard e ∉ ws)
    (h : accepted (names.map .deleteRole ++ [.deleteUser user]) <+: d.turns along (g, ws)) :
    g.Taken [user] names (g.after (names.map .deleteRole ++ [.deleteUser user])) := by
  have deletions : ∀ c ∈ names.map .deleteRole ++ [.deleteUser user], AccessCall.IsDeletion c :=
    List.forall_mem_append.mpr
      ⟨isDeletion_deleteRole names, List.forall_mem_singleton.mpr trivial⟩
  obtain ⟨distinct, held⟩ := held_of_accepted told deletions h
  obtain ⟨heldRoles, heldUser⟩ := List.forall_mem_append.mp held
  exact ⟨g.without_after_user names user,
    List.forall_mem_singleton.mpr (heldUser _ (List.mem_singleton.mpr rfl)),
    fun n hn => heldRoles _ (List.mem_map_of_mem hn),
    .of_map _ (distinct.sublist (List.sublist_append_left ..))⟩

end Taken

end Registry

/-! ### How the deletion of a principal ends -/

theorem isForRole_deleteRole (names : List String) :
    ∀ c ∈ names.map .deleteRole, AccessCall.IsForRole c :=
  List.forall_mem_map.mpr fun _ _ => trivial

/-- What is asked and answered in the deletion of a principal, what it results in, and what it
leaves of the store. -/
inductive Deletion (p : Principal) (g : Registry) :
    List (Turn AccessCall.Answer) → Except AccessError Unit → Registry → Prop where
  /-- The roles and the user have been deleted. -/
  | done {g' : Registry} (named : ∀ n ∈ p.roleNames, n ≠ "")
      (taken : g.Taken [p.username] p.roleNames g') :
      Deletion p g (accepted (p.roleNames.map .deleteRole ++ [.deleteUser p.username])) (.ok ()) g'
  /-- The roles have been deleted, and the call for the user fails. -/
  | user {g' : Registry} (named : ∀ n ∈ p.roleNames, n ≠ "") (taken : g.Taken [] p.roleNames g')
      (e : RemoteError) :
      Deletion p g (accepted (p.roleNames.map .deleteRole) ++ [⟨.deleteUser p.username, .error e⟩])
        (.error (.remote .userDelete p.username e)) g'
  /-- The call for a role fails, and the roles before it have been deleted. -/
  | role {g' : Registry} {before after : List String} {n : String}
      (split : p.roleNames = before ++ n :: after) (named : ∀ m ∈ before ++ [n], m ≠ "")
      (taken : g.Taken [] before g') (e : RemoteError) :
      Deletion p g (accepted (before.map .deleteRole) ++ [⟨.deleteRole n, .error e⟩])
        (.error (.remote .roleDelete n e)) g'
  /-- A role has no name, and the roles before it have been deleted. -/
  | unnamed {g' : Registry} {before after : List String}
      (split : p.roleNames = before ++ "" :: after) (named : ∀ m ∈ before, m ≠ "")
      (taken : g.Taken [] before g') :
      Deletion p g (accepted (before.map .deleteRole)) (.error .unnamedRole) g'

/-- Nothing but the calls that are accepted has an effect. -/
theorem Principal.deletion {p : Principal} {g : Registry} {ws : List Passage}
    (told : ∀ e, .unheard e ∉ ws) :
    Deletion p g (p.delete.turns Registry.along (g, ws)) (p.delete.run Registry.along (g, ws)).1
      (p.delete.run Registry.along (g, ws)).2.1 := by
  have form : InOrder (p.roleNames.map .deleteRole) (.deleteUser p.username)
      (p.delete.turns Registry.along (g, ws)) (p.delete.run Registry.along (g, ws)).1 := by
    rw [p.delete_inOrder]
    exact .of_run _ (isForRole_deleteRole p.roleNames) _
  have taken (names : List String) (h : accepted (names.map .deleteRole)
      <+: p.delete.turns Registry.along (g, ws)) := Registry.taken_roles told h
  have takenUser (h : accepted (p.roleNames.map .deleteRole ++ [.deleteUser p.username])
      <+: p.delete.turns Registry.along (g, ws)) := Registry.taken_user told h
  have named {names : List String} (h : ∀ c ∈ names.map AccessCall.deleteRole, c.name ≠ "") :
      ∀ n ∈ names, n ≠ "" := fun n hn => h _ (List.mem_map_of_mem hn)
  rw [Registry.run_along_carriedOut told]
  generalize p.delete.turns Registry.along (g, ws) = heard at form taken takenUser ⊢
  generalize (p.delete.run Registry.along (g, ws)).1 = result at form ⊢
  cases form with
  | user hn r =>
      cases r with
      | ok _ =>
          have all : accepted (p.roleNames.map .deleteRole) ++ [⟨.deleteUser p.username, .ok ()⟩]
              = accepted (p.roleNames.map .deleteRole ++ [.deleteUser p.username]) :=
            (accepted_append _ [.deleteUser p.username]).symm
          rw [all, carriedOut_all]
          rw [all] at takenUser
          exact .done (named hn) (takenUser List.prefix_rfl)
      | error e =>
          have none : carriedOut
              (accepted (p.roleNames.map .deleteRole) ++ [⟨.deleteUser p.username, .error e⟩])
              = p.roleNames.map .deleteRole := carriedOut_failure _ (.deleteUser p.username) e
          rw [none]
          exact .user (named hn) (taken _ ⟨_, rfl⟩) e
  | role split hn e =>
      obtain ⟨before, rest, hs, rfl, hr⟩ := List.map_eq_append_iff.mp split
      obtain ⟨n, after, rfl, rfl, -⟩ := List.map_eq_cons_iff.mp hr
      rw [carriedOut_failure]
      refine .role hs (named ?_) (taken _ ⟨_, rfl⟩) e
      rwa [List.map_append]
  | unnamed split hn unnamed =>
      obtain ⟨before, rest, hs, rfl, hr⟩ := List.map_eq_append_iff.mp split
      obtain ⟨n, after, rfl, rfl, -⟩ := List.map_eq_cons_iff.mp hr
      obtain rfl : n = "" := unnamed
      rw [carriedOut_all]
      exact .unnamed hs (named hn) (taken _ List.prefix_rfl)

/-- What is deleted was there. -/
theorem Deletion.held {p : Principal} {g g' : Registry} {heard : List (Turn AccessCall.Answer)}
    (h : Deletion p g heard (.ok ()) g') :
    p.username ∈ g.users ∧ (∀ n ∈ p.roleNames, n ≠ "") ∧ p.roleNames.Nodup ∧
      ∀ n ∈ p.roleNames, n ∈ g.roles := by
  cases h with
  | done named taken =>
      exact ⟨List.forall_mem_singleton.mp taken.users_held, named, taken.distinct, taken.roles_held⟩

/-- **A deletion takes away what it names, the roles first.**  Of a store in which nothing has an
effect that is reported as failed, it takes the roles and the user, or the roles before the one that
fails or has no name, or all roles but not the user; nothing else changes.  While a role that was
there still is, no user has changed.  If no call fails on its way, a deletion succeeds exactly if
the user and the roles are there, and the names of the roles are different and not empty. -/
theorem deletion_roles_first (p : Principal) (g : Registry) {ws : List Passage}
    (told : ∀ e, .unheard e ∉ ws) :
    Deletion p g (p.delete.turns Registry.along (g, ws)) (p.delete.run Registry.along (g, ws)).1
        (p.delete.run Registry.along (g, ws)).2.1 ∧
      (∀ s ∈ p.delete.states Registry.along (g, ws),
        (∃ n ∈ p.roleNames, n ∈ g.roles ∧ n ∈ s.1.roles) → s.1.users = g.users) ∧
      ((p.delete.run Registry.answer g).1 = .ok () ↔
        p.username ∈ g.users ∧ (∀ n ∈ p.roleNames, n ≠ "") ∧ p.roleNames.Nodup ∧
          ∀ n ∈ p.roleNames, n ∈ g.roles) := by
  refine ⟨p.deletion told, fun s hs => ?_, fun ok => ?_, ?_⟩
  · rintro ⟨n, hn, -, still⟩
    rw [p.delete_inOrder] at hs
    obtain ⟨done, hd, he⟩ := states_inOrder _ _ g ws s hs
    rw [he] at still ⊢
    rcases List.prefix_concat_iff.mp hd with rfl | hd
    · exact absurd hn ((g.without_after_user _ _).mem_roles.mp still).2
    · exact g.users_after fun c hc => isForRole_deleteRole _ c (hd.subset hc)
  · have none : ∀ e, Passage.unheard e ∉ [] := fun _ => List.not_mem_nil
    have undisturbed := p.deletion (g := g) none
    rw [Dialogue.run_along_nil, ok] at undisturbed
    exact undisturbed.held
  · rintro ⟨user, named, distinct, roles⟩
    obtain ⟨g', hr, -⟩ := p.run_delete named distinct ⟨user, roles⟩
    rw [hr]

/-- A principal whose second role is not there. -/
theorem deletion_roles_first_second :
    let p : Principal := { username := "svc", roles := [.named "a", .named "b", .named "c"] }
    let g : Registry :=
      { roles := (({} : Std.TreeMap String RoleDefinition).insert "a" {}).insert "c" {}
        users := ({} : Std.TreeMap String UserBody).insert "svc" p.body }
    (∀ e, .unheard e ∉ [Passage.clear]) ∧
      Deletion p g [⟨.deleteRole "a", .ok ()⟩,
        ⟨.deleteRole "b", .error ⟨.roleDelete, .notFound "b"⟩⟩]
        (.error (.remote .roleDelete "b" ⟨.roleDelete, .notFound "b"⟩))
        (p.delete.run Registry.along (g, [.clear])).2.1 ∧
      (p.delete.run Registry.answer g).1 ≠ .ok () := by
  intro p g
  have told : ∀ e, .unheard e ∉ [Passage.clear] := by simp
  obtain ⟨deletion, -, ok⟩ := deletion_roles_first p g told
  refine ⟨told, deletion, fun h => ?_⟩
  have : "b" ∈ g.roles := (ok.mp h).2.2.2 "b" (by decide)
  exact absurd this (by decide +kernel)

end LogSteward
