import Mathlib.Data.List.TakeWhile
import LogSteward.Proofs.Access.Retraction

/-!
# The course of a provision

To write or delete a principal is to make a number of calls in turn (`inTurn`): the calls for its
roles up to the first one without a name, and, if there is none, the one for the user
(`Principal.create_eq`, `Principal.delete_eq`).

A computation of that form asks for nothing but its calls, in their order, and gives up at the first
that fails (`Courses.of_inTurn`).  So a role without a name is refused only after the calls for the
roles before it (`unnamed_role_refused`).
-/

namespace LogSteward

/-- Whether a call was carried out, as its answer says. -/
def AccessCall.verdict : (c : AccessCall) → c.Answer → Except RemoteError Unit
  | .listUsers, r => r.map fun _ => ()
  | .putRole _ _, r | .deleteRole _, r | .putUser _ _, r | .deleteUser _, r => r

namespace AccessDialogue

variable {α : Type}

/-- It does not matter how steps that end with the first failure are grouped. -/
theorem unlessFailed_assoc (d e : AccessDialogue (Except AccessError Unit))
    (next : AccessDialogue (Except AccessError α)) :
    (d.unlessFailed e).unlessFailed next = d.unlessFailed (e.unlessFailed next) := by
  refine (Dialogue.andThen_assoc _ _ _).trans (congrArg d.andThen (funext fun r => ?_))
  cases r <;> rfl

theorem unlessFailed_done (d : AccessDialogue (Except AccessError Unit)) :
    d.unlessFailed (.done (.ok ())) = d := by
  refine Eq.trans (congrArg d.andThen (funext fun r => ?_)) d.andThen_done
  cases r <;> rfl

end AccessDialogue

/-- Makes a call and reports its failure. -/
def AccessCall.made (c : AccessCall) : AccessDialogue (Except AccessError Unit) :=
  .ask c fun r => .done (reported c.operation c.name (c.verdict r))

/-- Makes calls in order, gives up at the first that fails, and has the given result after the
last. -/
def inTurn : List AccessCall → Except AccessError Unit → AccessDialogue (Except AccessError Unit)
  | [], result => .done result
  | c :: cs, result => c.made.unlessFailed (inTurn cs result)

/-! ### Sequences of calls -/

theorem inTurn_single (c : AccessCall) : inTurn [c] (.ok ()) = c.made :=
  AccessDialogue.unlessFailed_done _

theorem inTurn_unlessFailed (cs cs' : List AccessCall) (result : Except AccessError Unit) :
    (inTurn cs (.ok ())).unlessFailed (inTurn cs' result) = inTurn (cs ++ cs') result := by
  induction cs with
  | nil => rfl
  | cons c cs ih => rw [inTurn, AccessDialogue.unlessFailed_assoc, ih, List.cons_append, inTurn]

theorem inTurn_error_unlessFailed (cs : List AccessCall) (e : AccessError)
    (next : AccessDialogue (Except AccessError Unit)) :
    (inTurn cs (.error e)).unlessFailed next = inTurn cs (.error e) := by
  induction cs with
  | nil => rfl
  | cons c cs ih => rw [inTurn, AccessDialogue.unlessFailed_assoc, ih]

theorem asks_inTurn (cs : List AccessCall) (result : Except AccessError Unit) :
    (inTurn cs result).Asks (· ∈ cs) := by
  induction cs with
  | nil => trivial
  | cons c cs ih =>
      exact asks_unlessFailed ⟨List.mem_cons_self, fun _ => trivial⟩
        (ih.mono fun _ => List.mem_cons_of_mem c)

section Runs

variable {σ : Type} {answer : (c : AccessCall) → σ → c.Answer × σ} {s : σ} {c : AccessCall}

/-- After a call that is carried out, the others are made. -/
theorem inTurn_cons_ok (h : c.verdict (answer c s).1 = .ok ()) (cs : List AccessCall)
    (result : Except AccessError Unit) :
    (inTurn (c :: cs) result).run answer s = (inTurn cs result).run answer (answer c s).2 ∧
      (inTurn (c :: cs) result).transcript answer s
        = c :: (inTurn cs result).transcript answer (answer c s).2 := by
  rw [inTurn, AccessDialogue.unlessFailed, Dialogue.run_andThen, Dialogue.transcript_andThen]
  simp only [AccessCall.made, Dialogue.run, Dialogue.transcript, h, reported]
  exact ⟨trivial, rfl⟩

/-- A call that fails is the last one. -/
theorem inTurn_cons_error {e : RemoteError} (h : c.verdict (answer c s).1 = .error e)
    (cs : List AccessCall) (result : Except AccessError Unit) :
    (inTurn (c :: cs) result).run answer s
        = (.error (.remote c.operation c.name e), (answer c s).2) ∧
      (inTurn (c :: cs) result).transcript answer s = [c] := by
  rw [inTurn, AccessDialogue.unlessFailed, Dialogue.run_andThen, Dialogue.transcript_andThen]
  simp only [AccessCall.made, Dialogue.run, Dialogue.transcript, h, reported]
  exact ⟨trivial, rfl⟩

end Runs

/-- How a computation that makes the calls `cs` in turn goes with a party: either all of them are
answered well, or the last one made is the first that fails. -/
structure Courses {σ : Type} (answer : (c : AccessCall) → σ → c.Answer × σ) (s : σ)
    (d : AccessDialogue (Except AccessError Unit)) (cs : List AccessCall)
    (result : Except AccessError Unit) : Prop where
  calls : d.transcript answer s <+: cs
  ends : (d.run answer s).1 = result ∧ d.transcript answer s = cs ∨
    ∃ c e, (d.transcript answer s).getLast? = some c ∧
      (d.run answer s).1 = .error (.remote c.operation c.name e)

/-- Calls in turn end with the last one, or with the first that fails. -/
theorem Courses.of_inTurn {σ : Type} (answer : (c : AccessCall) → σ → c.Answer × σ) (s : σ)
    (cs : List AccessCall) (result : Except AccessError Unit) :
    Courses answer s (inTurn cs result) cs result := by
  induction cs generalizing s with
  | nil => exact ⟨List.prefix_rfl, .inl ⟨rfl, rfl⟩⟩
  | cons c cs ih =>
      cases hv : c.verdict (answer c s).1 with
      | error e =>
          obtain ⟨hr, ht⟩ := inTurn_cons_error hv cs result
          exact ⟨ht ▸ ⟨cs, rfl⟩, .inr ⟨c, e, by rw [ht]; rfl, by rw [hr]⟩⟩
      | ok _ =>
          obtain ⟨hr, ht⟩ := inTurn_cons_ok hv cs result
          obtain ⟨calls, ends⟩ := ih (answer c s).2
          refine ⟨by rw [ht]; exact (List.prefix_cons_inj c).mpr calls, ?_⟩
          rw [hr, ht]
          rcases ends with ⟨hr', ht'⟩ | ⟨c', e, hl, hr'⟩
          · exact .inl ⟨hr', by rw [ht']⟩
          · exact .inr ⟨c', e, by rw [List.getLast?_cons, hl]; rfl, hr'⟩

/-! ### The calls for a principal -/

/-- The roles that have a definition, with it. -/
def Role.definitions (rs : List Role) : List (String × RoleDefinition) :=
  rs.filterMap fun r => r.definition.map (r.name, ·)

/-- The call that writes a role. -/
def AccessCall.write (r : String × RoleDefinition) : AccessCall :=
  .putRole r.1 r.2

/-- What comes of roles with these names: one without a name is refused. -/
def refusal (names : List String) : Except AccessError Unit :=
  if "" ∈ names then .error .unnamedRole else .ok ()

theorem refusal_cons {n : String} (h : n ≠ "") (names : List String) :
    refusal (n :: names) = refusal names := by
  simp only [refusal, List.mem_cons, h.symm, false_or]

/-- A role with a name is written by one call. -/
theorem putRole_named {n : String} (h : n ≠ "") (d : RoleDefinition) :
    putRole n d = (AccessCall.putRole n d).made :=
  if_neg h

/-- A role with a name is deleted by one call. -/
theorem deleteRole_named {n : String} (h : n ≠ "") :
    deleteRole n = (AccessCall.deleteRole n).made :=
  if_neg h

/-- Roles are written in turn, up to the first one without a name. -/
theorem putRoles_eq (rs : List Role) :
    putRoles rs = inTurn (((Role.definitions rs).takeWhile (·.1 ≠ "")).map .write)
      (refusal ((Role.definitions rs).map Prod.fst)) := by
  induction rs with
  | nil => rfl
  | cons r rs ih =>
      cases hd : r.definition with
      | none =>
          have : Role.definitions (r :: rs) = Role.definitions rs := by
            simp [Role.definitions, hd]
          rw [this, ← ih, putRoles, hd]
      | some d =>
          have : Role.definitions (r :: rs) = (r.name, d) :: Role.definitions rs := by
            simp [Role.definitions, hd]
          rw [this, putRoles, hd, List.map_cons]
          by_cases hn : r.name = ""
          · simp only [putRole, if_pos hn]
            simp [refusal, hn, inTurn, AccessDialogue.unlessFailed, Dialogue.andThen]
          · rw [List.takeWhile_cons_of_pos (by simpa using hn), refusal_cons hn]
            simp only [putRole_named hn, ih]
            rfl

/-- Roles are deleted in turn, up to the first one without a name. -/
theorem deleteRoles_eq (rs : List Role) :
    deleteRoles rs = inTurn (((rs.map Role.name).takeWhile (· ≠ "")).map .deleteRole)
      (refusal (rs.map Role.name)) := by
  induction rs with
  | nil => rfl
  | cons r rs ih =>
      rw [deleteRoles, List.map_cons]
      by_cases hn : r.name = ""
      · simp only [deleteRole, if_pos hn]
        simp [refusal, hn, inTurn, AccessDialogue.unlessFailed, Dialogue.andThen]
      · rw [List.takeWhile_cons_of_pos (by simpa using hn), refusal_cons hn]
        rw [deleteRole_named hn, ih]
        rfl

namespace Principal

/-- The roles of a principal that have a definition, with it. -/
def defined (p : Principal) : List (String × RoleDefinition) :=
  Role.definitions p.roles

/-- What is written to create a principal. -/
def writes (p : Principal) : List AccessCall :=
  p.defined.map .write ++ [.putUser p.username p.body]

/-- The calls before the first role without a name, and the refusal if there is one. -/
theorem create_eq (p : Principal) :
    p.create
      = (inTurn ((p.defined.takeWhile (·.1 ≠ "")).map .write)
          (refusal (p.defined.map Prod.fst))).unlessFailed
        (inTurn [.putUser p.username p.body] (.ok ())) := by
  rw [create, putRoles_eq, inTurn_single]
  rfl

/-- A principal is deleted in turn after its roles, unless one of them has no name. -/
theorem delete_eq (p : Principal) :
    p.delete
      = (inTurn ((p.roleNames.takeWhile (· ≠ "")).map .deleteRole)
          (refusal p.roleNames)).unlessFailed
        (inTurn [.deleteUser p.username] (.ok ())) := by
  rw [delete, deleteRoles_eq, inTurn_single]
  rfl

/-- Where all roles have names, a creation is nothing but calls in turn. -/
theorem create_named {p : Principal} (h : "" ∉ p.defined.map Prod.fst) :
    p.create = inTurn p.writes (.ok ()) := by
  have all : p.defined.takeWhile (·.1 ≠ "") = p.defined :=
    List.takeWhile_eq_self_iff.mpr fun r hr =>
      decide_eq_true fun he => h (he ▸ List.mem_map_of_mem hr)
  rw [create_eq, refusal, if_neg h, all, inTurn_unlessFailed, writes]

/-- The roles before the one without a name are written nevertheless. -/
theorem create_unnamed {p : Principal} (h : "" ∈ p.defined.map Prod.fst) :
    p.create = inTurn ((p.defined.takeWhile (·.1 ≠ "")).map .write) (.error .unnamedRole) := by
  rw [create_eq, refusal, if_pos h, inTurn_error_unlessFailed]

/-- The roles before the one without a name are deleted nevertheless. -/
theorem delete_unnamed {p : Principal} (h : "" ∈ p.roleNames) :
    p.delete = inTurn ((p.roleNames.takeWhile (· ≠ "")).map .deleteRole) (.error .unnamedRole) := by
  rw [delete_eq, refusal, if_pos h, inTurn_error_unlessFailed]

end Principal

/-! ### Roles without a name -/

/-- A computation is to end in the refusal of a role without a name, after the calls `due` for the
roles before it.  Nothing is called, and nothing changed, exactly if there are none. -/
structure Refused {σ : Type} (answer : (c : AccessCall) → σ → c.Answer × σ) (s : σ)
    (d : AccessDialogue (Except AccessError Unit)) (due : List AccessCall) : Prop
    extends Courses answer s d due (.error .unnamedRole) where
  uncalled_iff : d.transcript answer s = [] ↔ due = []
  untouched : due = [] → d.run answer s = (.error .unnamedRole, s)

/-- Calls in turn before a role without a name end in its refusal, unless one of them fails. -/
theorem Refused.of_inTurn {σ : Type} (answer : (c : AccessCall) → σ → c.Answer × σ) (s : σ)
    (due : List AccessCall) : Refused answer s (inTurn due (.error .unnamedRole)) due where
  toCourses := .of_inTurn answer s due _
  uncalled_iff := by
    cases due with
    | nil => exact ⟨fun _ => rfl, fun _ => rfl⟩
    | cons c cs => exact ⟨nofun, nofun⟩
  untouched h := by rw [h]; rfl

/-- **A role without a name is refused when its turn comes.**  The roles before it are written, or
deleted, first: with every store, the calls are those for them, in order, up to the first that
fails, and the refusal comes after the last of them.  So it comes before any call exactly if there
is nothing to be called for before it. -/
theorem unnamed_role_refused (p : Principal) {σ : Type}
    (answer : (c : AccessCall) → σ → c.Answer × σ) (s : σ) :
    ((∃ r ∈ p.roles, r.definition.isSome = true ∧ r.name = "") →
      Refused answer s p.create ((p.defined.takeWhile (·.1 ≠ "")).map .write)) ∧
    ((∃ r ∈ p.roles, r.name = "") →
      Refused answer s p.delete ((p.roleNames.takeWhile (· ≠ "")).map .deleteRole)) := by
  constructor
  · rintro ⟨r, hr, hd, hn⟩
    obtain ⟨d, hd⟩ := Option.isSome_iff_exists.mp hd
    have unnamed : "" ∈ p.defined.map Prod.fst := by
      refine List.mem_map.mpr ⟨(r.name, d), List.mem_filterMap.mpr ⟨r, hr, ?_⟩, hn⟩
      rw [hd]
      rfl
    rw [Principal.create_unnamed unnamed]
    exact .of_inTurn answer s _
  · rintro ⟨r, hr, hn⟩
    rw [Principal.delete_unnamed (List.mem_map.mpr ⟨r, hr, hn⟩)]
    exact .of_inTurn answer s _

/-- A principal whose second role has no name. -/
theorem unnamed_role_refused_second :
    let p : Principal :=
      { username := "svc"
        roles := [{ name := "a", definition := some {} }, { name := "", definition := some {} }] }
    ((∃ r ∈ p.roles, r.definition.isSome = true ∧ r.name = "") ∧ ∃ r ∈ p.roles, r.name = "") ∧
      Refused Registry.answer {} p.create [.putRole "a" {}] ∧
      Refused Registry.answer {} p.delete [.deleteRole "a"] := by
  intro p
  have defined : ∃ r ∈ p.roles, r.definition.isSome = true ∧ r.name = "" := by decide
  have unnamed : ∃ r ∈ p.roles, r.name = "" := by decide
  exact ⟨⟨defined, unnamed⟩, (unnamed_role_refused p Registry.answer {}).1 defined,
    (unnamed_role_refused p Registry.answer {}).2 unnamed⟩

/-- The role before the one without a name has been written when the creation is refused, and
deleted when the deletion is. -/
theorem unnamed_role_refused_late :
    let p : Principal :=
      { username := "svc"
        roles := [{ name := "a", definition := some {} }, { name := "", definition := some {} }] }
    let created := p.create.run Registry.answer {}
    (∃ r ∈ p.roles, r.definition.isSome = true ∧ r.name = "") ∧
      created.1 = .error .unnamedRole ∧
      p.create.transcript Registry.answer {} = [.putRole "a" {}] ∧ "a" ∈ created.2.roles ∧
      (p.delete.run Registry.answer created.2).1 = .error .unnamedRole ∧
      p.delete.transcript Registry.answer created.2 = [.deleteRole "a"] ∧
      "a" ∉ (p.delete.run Registry.answer created.2).2.roles := by
  refine ⟨by decide, rfl, rfl, by decide +kernel, rfl, rfl, by decide +kernel⟩

end LogSteward
