import Mathlib.Data.List.Forall2
import LogSteward.Proofs.Access.Secrecy
import LogSteward.Rest.Client

/-!
# Passwords in requests

Two exchanges are alike if they differ only in who asks and in the passwords of the users that they
write (`Exchange.Alike`): a server that is blind to both answers them in the same way all along, so
that they have the same result (`Exchange.Alike.run`).  Of computations that make notes this is said
of what is heard of them, so that alike ones make the same notes.

What is done with principals that differ in their passwords, by clients that differ in their
credentials, are exchanges of that kind (`Exchange.Alike.interpretAccess`,
`Client.askAccessNoting_putUser_alike`).
-/

namespace LogSteward

namespace Rest

/-! ### Requests -/

/-- The request writes a user of the store that is at the endpoint. -/
def Request.WritesUser (endpoint : Option Url) (q : Request) : Prop :=
  q.method = .put ∧ ∃ base name address, endpoint = some base ∧
    base.below? ["_security", "user", name] = some address ∧ q.address = address.requested

/-- Two requests differ at most in who asks and, if they write a user, in the password. -/
structure Request.Alike (endpoint : Option Url) (q q' : Request) : Prop where
  method : q.method = q'.method
  address : q.address = q'.address
  body : q.body = q'.body ∨ q.WritesUser endpoint ∧ ∃ b b' : UserBody, b.roles = b'.roles ∧
    q.body = some b.encode ∧ q'.body = some b'.encode

/-- Two exchanges send alike requests, whatever the replies are, and have the same result. -/
inductive Exchange.Alike (endpoint : Option Url) {α : Type} : Exchange α → Exchange α → Prop where
  | done (a : α) : Alike endpoint (.done a) (.done a)
  | ask {q q' : Request} {next next' : Except String Reply → Exchange α}
      (alike : q.Alike endpoint q') (goesOn : ∀ r, Alike endpoint (next r) (next' r)) :
      Alike endpoint (.ask q next) (.ask q' next')

/-- A server answers alike requests in the same way, in states that it cannot tell apart. -/
def Blind {σ : Type} (endpoint : Option Url) (answer : (q : Request) → σ → Answer q × σ)
    (Same : σ → σ → Prop) : Prop :=
  ∀ q q' s s', q.Alike endpoint q' → Same s s' →
    (answer q s).1 = (answer q' s').1 ∧ Same (answer q s).2 (answer q' s').2

namespace Exchange.Alike

variable {endpoint : Option Url} {α β σ : Type} {d d' : Exchange α}

theorem refl (d : Exchange α) : Alike endpoint d d := by
  induction d with
  | done a => exact .done a
  | ask q next ih => exact .ask ⟨rfl, rfl, .inl rfl⟩ ih

theorem andThen {f f' : α → Exchange β} (h : Alike endpoint d d')
    (hf : ∀ a, Alike endpoint (f a) (f' a)) :
    Alike endpoint (d.andThen f) (d'.andThen f') := by
  induction h with
  | done a => exact hf a
  | ask alike goesOn ih => exact .ask alike ih

/-- **A server that is blind to who asks and to the passwords of users** makes no difference between
alike exchanges. -/
theorem run {answer : (q : Request) → σ → Answer q × σ} {Same : σ → σ → Prop}
    (h : Alike endpoint d d') (blind : Blind endpoint answer Same) {s s' : σ} (same : Same s s') :
    (d.run answer s).1 = (d'.run answer s').1 ∧
      List.Forall₂ (Request.Alike endpoint) (d.transcript answer s) (d'.transcript answer s') := by
  induction h generalizing s s' with
  | done a => exact ⟨rfl, .nil⟩
  | @ask q q' next next' alike goesOn ih =>
    obtain ⟨replies, states⟩ := blind q q' s s' alike same
    obtain ⟨results, requests⟩ := ih (answer q s).1 states
    rw [replies] at results requests
    simp only [Dialogue.run, Dialogue.transcript, replies]
    exact ⟨results, .cons alike requests⟩

/-! ### What is heard -/

variable {ν μ : Type} {n n' : Dialogue (Noting ν Answer) α}

/-- If alike steps follow alike ones, the same is heard of both. -/
theorem heard_andThen {f f' : α → Dialogue (Noting ν Answer) β}
    (h : Alike endpoint n.heard n'.heard) (hf : ∀ a, Alike endpoint (f a).heard (f' a).heard) :
    Alike endpoint (n.andThen f).heard (n'.andThen f').heard := by
  rw [Dialogue.heard_andThen, Dialogue.heard_andThen]
  exact h.andThen fun (_, a) => (hf a).andThen fun _ => .done _

theorem heard_noted (ns : List ν) (h : Alike endpoint n.heard n'.heard) :
    Alike endpoint (Dialogue.noted ns n).heard (Dialogue.noted ns n').heard := by
  rw [Dialogue.heard_noted, Dialogue.heard_noted]
  exact h.andThen fun _ => .done _

theorem heard_mapNotes (f : ν → μ) (h : Alike endpoint n.heard n'.heard) :
    Alike endpoint (n.mapNotes f).heard (n'.mapNotes f).heard := by
  rw [Dialogue.heard_mapNotes, Dialogue.heard_mapNotes]
  exact h.andThen fun _ => .done _

/-- What is noted of a reply does not tell alike requests apart. -/
theorem heard_commented (h : Alike endpoint d d') (remarks : Except String Reply → List ν) :
    Alike endpoint (d.commented fun _ => remarks).heard (d'.commented fun _ => remarks).heard := by
  induction h with
  | done a => exact .done _
  | ask alike goesOn ih => exact .ask alike fun r => heard_noted _ (ih r)

/-- A computation whose questions are put as alike requests. -/
theorem interpret {Q : Type} {A : Q → Type} {put put' : (q : Q) → Dialogue (Noting ν Answer) (A q)}
    (same : ∀ q, Alike endpoint (put q).heard (put' q).heard) (d : Dialogue (Noting ν A) α) :
    Alike endpoint (d.interpretNoting put).heard (d.interpretNoting put').heard := by
  induction d with
  | done a => exact .done _
  | ask q next ih =>
    cases q with
    | inl q => exact (same q).heard_andThen ih
    | inr n => exact (ih ()).andThen fun _ => .done _

/-- Computations over principals that differ at most in passwords, if users that differ in nothing
else are written by alike requests. -/
theorem interpretAccess {put put' : (q : AccessCall) → Dialogue (Noting ν Answer) q.Answer}
    (same : ∀ q, Alike endpoint (put q).heard (put' q).heard)
    (putUser : ∀ name b b', b.roles = b'.roles →
      Alike endpoint (put (.putUser name b)).heard (put' (.putUser name b')).heard)
    {d d' : Dialogue (Noting ν AccessCall.Answer) α} (alike : AccessDialogue.Alike d d') :
    Alike endpoint (d.interpretNoting put).heard (d'.interpretNoting put').heard := by
  induction alike with
  | done a => exact .done _
  | same q goesOn ih =>
    cases q with
    | inl q => exact (same q).heard_andThen ih
    | inr n => exact (ih ()).andThen fun _ => .done _
  | putUser name roles goesOn ih => exact (putUser name _ _ roles).heard_andThen ih

end Exchange.Alike

end Rest

open Rest

/-! ### Clients -/

namespace Client

variable {c c' : Client}

/-- Clients of one endpoint send alike requests, also if these write users of different
passwords. -/
theorem send_alike (h : c.endpoint = c'.endpoint) (op : Operation) (name : String) {method : Method}
    {path : List String} {body body' : Option String}
    (bodies : body = body' ∨ (method = .put ∧ ∃ name, path = ["_security", "user", name]) ∧
      ∃ b b' : UserBody, b.roles = b'.roles ∧ body = some b.encode ∧ body' = some b'.encode) :
    Exchange.Alike (some c.endpoint) (c.send op name method path body)
      (c'.send op name method path body') := by
  unfold send
  rw [← h]
  cases at' : c.endpoint.below? path with
  | none => exact .done _
  | some address =>
    refine .ask ⟨rfl, rfl, bodies.imp_right ?_⟩ fun _ => .done _
    rintro ⟨⟨put, name, rfl⟩, told⟩
    exact ⟨⟨put, c.endpoint, name, address, rfl, at', rfl⟩, told⟩

/-- Who asks is all that tells calls about policies apart. -/
theorem askPolicy_alike (h : c.endpoint = c'.endpoint) (q : PolicyCall) :
    Exchange.Alike (some c.endpoint) (c.askPolicy q) (c'.askPolicy q) := by
  cases q with
  | get name | put name p => exact (send_alike h _ _ (.inl rfl)).andThen fun _ => .done _

theorem askAccess_alike (h : c.endpoint = c'.endpoint) (q : AccessCall) :
    Exchange.Alike (some c.endpoint) (c.askAccess q) (c'.askAccess q) := by
  cases q with
  | putRole name d | deleteRole name | putUser name b | deleteUser name | listUsers =>
    exact (send_alike h _ _ (.inl rfl)).andThen fun _ => .done _

/-- Beside who asks, a write of a user may differ in the password. -/
theorem askAccess_putUser_alike (h : c.endpoint = c'.endpoint) (name : String) {b b' : UserBody}
    (roles : b.roles = b'.roles) :
    Exchange.Alike (some c.endpoint) (c.askAccess (.putUser name b))
      (c'.askAccess (.putUser name b')) :=
  (send_alike h _ _ (.inr ⟨⟨rfl, name, rfl⟩, b, b', roles, rfl, rfl⟩)).andThen fun _ => .done _

/-- The same is logged of the replies to calls about policies. -/
theorem askPolicyNoting_alike (h : c.endpoint = c'.endpoint) (q : PolicyCall) :
    Exchange.Alike (some c.endpoint) (c.askPolicyNoting q).heard (c'.askPolicyNoting q).heard :=
  (askPolicy_alike h q).heard_commented _

theorem askAccessNoting_alike (h : c.endpoint = c'.endpoint) (q : AccessCall) :
    Exchange.Alike (some c.endpoint) (c.askAccessNoting q).heard (c'.askAccessNoting q).heard :=
  (askAccess_alike h q).heard_commented _

/-- The same is logged of the replies to writes of users with other passwords. -/
theorem askAccessNoting_putUser_alike (h : c.endpoint = c'.endpoint) (name : String)
    {b b' : UserBody} (roles : b.roles = b'.roles) :
    Exchange.Alike (some c.endpoint) (c.askAccessNoting (.putUser name b)).heard
      (c'.askAccessNoting (.putUser name b')).heard :=
  (askAccess_putUser_alike h name roles).heard_commented _

end Client

end LogSteward
