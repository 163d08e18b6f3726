import LogSteward.Command.Run
import LogSteward.Proofs.Remote.Noting

/-!
# Passes without their log

What is logged changes neither what a pass asks, nor what it prints, nor how it ends.  So everything
but the log can be said of computations that make no notes: reconciling a plan, taking principals in
order (`confirmEach`), and the work of each task, to which a whole run comes down
(`Invocation.run_eq`).

Where nothing is printed, there is nothing on standard output but lines of the log
(`Invocation.Pass.stdout_of_unprinted`).  Unless the log is turned down, there is at least the line
that says how the pass ended (`Invocation.Pass.stdout_ne_empty`).
-/

namespace LogSteward

open Dialogue Rest

/-! ### Endings -/

theorem Ending.after_empty (e : Ending) : e.after "" = e := by
  rw [after, String.empty_append]

theorem Ending.ofNotes_cons (n : Note) (ns : List Note) (failure : Option CommandError) :
    ofNotes (n :: ns) failure = (ofNotes ns failure).after n.text := by
  rw [ofNotes, List.map_cons, String.join_cons]
  rfl

namespace Dialogue

variable {Q R α : Type} {A : Q → Type} {B : R → Type}

/-- What is printed stands before all that is printed later. -/
theorem ended_ask_note (n : Note) (next : Unit → Noted A) :
    ended (.ask (Sum.inr n) next) = (ended (next ())).andThen fun e => .done (e.after n.text) := by
  simp only [ended, heard, andThen_assoc]
  exact congrArg _ (funext fun _ => congrArg done (Ending.ofNotes_cons n _ _))

/-- What is logged makes no difference. -/
theorem ended_noted_logged (es : List Event) (d : Noted A) :
    ended (noted (es.map .logged) d) = d.ended := by
  induction es with
  | nil => rfl
  | cons e es ih =>
    rw [List.map_cons, noted, ended_ask_note, ih]
    simp only [Note.text, Ending.after_empty]
    exact andThen_done _

theorem ended_noted_printed (text : String) (d : Noted A) :
    ended (noted [.printed text] d) = d.ended.andThen fun e => .done (e.after text) :=
  ended_ask_note _ _

/-- A computation that only logs may as well be silent. -/
theorem ended_logged_andThen (d : Dialogue (Noting Event A) α) (f : α → Noted A) :
    ended ((d.mapNotes .logged).andThen f) = d.silent.andThen fun a => ended (f a) := by
  induction d with
  | done a => rfl
  | ask q next ih =>
    cases q with
    | inl q => exact congrArg (ask q) (funext ih)
    | inr e => exact (ended_noted_logged [e] _).trans (ih ())

/-- Questions may be put in terms of others before or after the notes are dropped, if that only
logs. -/
theorem ended_interpretNoting (put : (q : Q) → Dialogue (Noting Event B) (A q)) (d : Noted A) :
    ended (d.interpretNoting fun q => (put q).mapNotes .logged)
      = d.ended.interpret fun q => (put q).silent := by
  induction d with
  | done a => rfl
  | ask q next ih =>
    cases q with
    | inl q => exact (ended_logged_andThen (put q) _).trans (congrArg _ (funext ih))
    | inr n =>
      rw [ended_ask_note, interpret_andThen, ← ih ()]
      exact ended_ask_note n _

end Dialogue

/-! ### Policies -/

/-- If steps that log are others without their log, so are the passes made of them. -/
theorem silent_reconcileEach {Q : Type} {A : Q → Type}
    {noting : String → Thresholds → Dialogue (Noting Event A) (Except PolicyError PolicyOutcome)}
    {step : String → Thresholds → Dialogue A (Except PolicyError PolicyOutcome)}
    (silent : ∀ name t, (noting name t).silent = step name t) (es : List PlannedPolicy) :
    (reconcileEach noting es).silent = reconcileEach step es := by
  induction es with
  | nil => rfl
  | cons e es ih =>
    simp only [reconcileEach, silent_andThen, silent]
    refine congrArg _ (funext fun r => ?_)
    cases r with
    | error err => rfl
    | ok o =>
      simp only [silent_andThen, ih]
      refine congrArg _ (funext fun rs => ?_)
      cases rs with
      | error err => rfl
      | ok os => rfl

/-- What is logged of a pass over policies does not change it. -/
theorem Plan.silent_reconcileNoting (p : Plan) : p.reconcileNoting.silent = p.reconcile :=
  silent_reconcileEach (fun _ _ => silent_concluded _ _) p.entries

/-! ### Principals -/

/-- Takes the principals in order and confirms each of them once it is done, without a log. -/
def confirmEach (verb : String) (act : Principal → AccessDialogue (Except AccessError Unit)) :
    List Principal → AccessDialogue Ending
  | [] => .done {}
  | p :: ps =>
    (act p).andThen fun
      | .error e => .done (.failed (.access e))
      | .ok () =>
        (confirmEach verb act ps).andThen fun e =>
          .done (e.after (verb ++ " " ++ p.username ++ ".\n"))

/-- Taking principals with a log is taking them without one, as far as endings go. -/
theorem ended_takeEach {verb : String}
    {noting : Principal → Dialogue (Noting Event AccessCall.Answer) (Except AccessError Unit)}
    {act : Principal → AccessDialogue (Except AccessError Unit)}
    (silent : ∀ p, (noting p).silent = act p) (ps : List Principal) :
    ended (takeEach verb noting ps) = confirmEach verb act ps := by
  induction ps with
  | nil => rfl
  | cons p ps ih =>
    rw [takeEach, ended_logged_andThen, silent, confirmEach]
    refine congrArg _ (funext fun r => ?_)
    cases r with
    | error e => rfl
    | ok _ => exact (ended_noted_printed _ _).trans (congrArg (andThen · _) ih)

/-! ### Over HTTP -/

namespace Client

variable {α : Type}

/-- What is logged of replies does not change a computation over policies. -/
theorem silent_overPoliciesNoting (c : Client) (d : Dialogue (Noting Event PolicyCall.Answer) α) :
    (c.overPoliciesNoting d).silent = c.overPolicies d.silent := by
  rw [overPoliciesNoting, silent_interpretNoting]
  exact congrArg (interpret · d.silent) (funext fun q => silent_commented _ _)

/-- What is logged of replies does not change a computation over principals. -/
theorem silent_overAccessNoting (c : Client) (d : Dialogue (Noting Event AccessCall.Answer) α) :
    (c.overAccessNoting d).silent = c.overAccess d.silent := by
  rw [overAccessNoting, silent_interpretNoting]
  exact congrArg (interpret · d.silent) (funext fun q => silent_commented _ _)

theorem ended_interpretNoting (c : Client) (d : Noted AccessCall.Answer) :
    ended (d.interpretNoting fun q => (c.askAccessNoting q).mapNotes .logged)
      = c.overAccess d.ended := by
  rw [Dialogue.ended_interpretNoting]
  exact congrArg (interpret · d.ended) (funext fun q => silent_commented _ _)

end Client

/-! ### Tasks -/

namespace Job

/-- To present a report is to end with it. -/
theorem ended_present (form : OutputForm) (r : Except CommandError Report) :
    ended (present form r) = .done (.ofReport form r) := by
  cases r with
  | error e => rfl
  | ok r =>
    rw [present, ended_noted_printed]
    exact congrArg done (congrArg (Ending.mk · none) String.append_empty)

/-- The work of a job without its log: what is logged while a client is set up does not matter. -/
theorem ended_work (form : OutputForm) (setup : List Event) (client : Except CommandError Client)
    (j : Job) : ended (j.work form setup client) = j.perform form client := by
  cases j with
  | preview plan => rfl
  | apply plan | list | provision target password | retract target =>
    exact ended_noted_logged setup _

/-- A preview is printed, with a client or without. -/
theorem perform_preview (form : OutputForm) (client : Except CommandError Client) (plan : Plan) :
    (preview plan).perform form client = .done (.ofReport form (.ok (.ofPlan plan))) :=
  ended_present form (.ok (.ofPlan plan))

/-- Without a client there is no work. -/
theorem perform_error {j : Job} (connects : ∀ plan, j ≠ .preview plan) (form : OutputForm)
    (e : CommandError) : j.perform form (.error e) = .done (.failed e) := by
  cases j with
  | preview plan => exact absurd rfl (connects plan)
  | apply plan | list | provision target password | retract target => rfl

variable (form : OutputForm) (c : Client)

/-- To apply a plan is to reconcile its policies over HTTP and to report the outcomes. -/
theorem perform_apply (plan : Plan) :
    (apply plan).perform form (.ok c) = (c.overPolicies plan.reconcile).andThen fun r =>
      .done (.ofReport form (r.map Report.ofOutcomes |>.mapError .policy)) := by
  refine (ended_logged_andThen _ _).trans ?_
  rw [Client.silent_overPoliciesNoting, Plan.silent_reconcileNoting]
  refine congrArg _ (funext fun r => ?_)
  cases r with
  | error e => rfl
  | ok os => exact (ended_noted_logged [reconciledEvent os] _).trans (ended_present form _)

/-- To list the principals is to ask for them over HTTP and to report them. -/
theorem perform_list :
    list.perform form (.ok c) = (c.overAccess Principal.listAll).andThen fun r =>
      .done (.ofReport form (r.map Report.ofPrincipals |>.mapError .access)) := by
  refine (ended_logged_andThen _ _).trans ?_
  rw [Client.silent_overAccessNoting, Principal.listNoting, silent_concluded]
  exact congrArg _ (funext fun r => ended_present form _)

/-- To provision a target is to create its principals over HTTP, each with the password. -/
theorem perform_provision (target : Target) (password : String) :
    (provision target password).perform form (.ok c)
      = c.overAccess (confirmEach "Provisioned" Principal.create
        (target.principals.map (·.withPassword password))) := by
  refine (c.ended_interpretNoting _).trans (congrArg _ ?_)
  exact ended_takeEach (fun p => silent_concluded _ _) _

/-- To retract a target is to delete its principals over HTTP. -/
theorem perform_retract (target : Target) :
    (retract target).perform form (.ok c)
      = c.overAccess (confirmEach "Retracted" Principal.delete target.principals) := by
  refine (c.ended_interpretNoting _).trans (congrArg _ ?_)
  exact ended_takeEach (fun p => silent_concluded _ _) _

end Job

/-! ### Whole runs -/

/-- A run reads the input of the task and does its work. -/
theorem Invocation.run_eq (i : Invocation) (w : Surroundings) :
    i.run w = match i.task.prepare w with
      | .error e => .done (.failed e)
      | .ok job => job.perform i.output (i.connect w) := by
  have ended : i.run w = (i.work w).ended := andThen_assoc _ _ _
  rw [ended, work]
  cases i.task.prepare w with
  | error e => rfl
  | ok job => exact job.ended_work i.output (i.connectEvents w) (i.connect w)

section Runs

variable (i : Invocation) (w : Surroundings) {σ : Type}
  (answer : (q : Request) → σ → Answer q × σ) (s : σ)

/-- A run asks what its pass asks, and ends as it does. -/
theorem Invocation.run_pass :
    (i.run w).run answer s = (((i.pass w).run answer s).1.ending, ((i.pass w).run answer s).2) :=
  run_andThen answer _ _ s

/-- The log is no reason to ask for anything else. -/
theorem Invocation.transcript_pass :
    (i.run w).transcript answer s = (i.pass w).transcript answer s :=
  (transcript_andThen answer _ _ s).trans (List.append_nil _)

end Runs

/-! ### The log unless it is set -/

theorem Verbosity.ofName?_info : ofName? "info" = some .info := by
  have unsigned : ("info".dropPrefix "+").toString = "info" := by decide +kernel
  have digits : "info".all Char.isDigit = false := by simp
  have lowered : lowerAscii "info" = "info" := by decide +kernel
  unfold ofName?
  simp only [unsigned]
  rw [digits, if_neg (fun numeric => nomatch numeric.2), lowered]
  rfl

/-- The name of a level is a directive for everything up to it. -/
theorem Directive.ofText?_info : Directive.ofText? "info" = some { level := .info } := by
  have trimmed : (trimBlanks "info").toList = ['i', 'n', 'f', 'o'] := by decide +kernel
  have begins : mayBegin 'i' = true := by decide +kernel
  have first : step "info".toList 0 'i' {} .start = some ({}, .levelOrTarget 0) := by
    rw [step, if_neg (by decide), if_pos begins]
  have read :
      steps "info".toList 0 ['i', 'n', 'f', 'o'] {} .start = some ({}, .levelOrTarget 0) := by
    simp only [steps, first]
    rfl
  have whole : String.ofList ("info".toList.drop 0) = "info" := rfl
  unfold ofText?
  simp only [trimmed, read]
  unfold finish
  dsimp only
  rw [whole, Verbosity.ofName?_info]

/-- Unless something else is set, whatever is at least information is logged. -/
theorem EventFilter.ofTextLossy_default :
    ofTextLossy ({} : LoggingConfig).level = [{ level := .info }] := by
  have only : pieces "info" = ["info"] := by decide +kernel
  rw [ofTextLossy, only, List.filterMap_cons_some Directive.ofText?_info]
  rfl

/-! ### Standard output -/

theorem join_eq_empty_iff {texts : List String} :
    String.join texts = "" ↔ ∀ text ∈ texts, text = "" := by
  induction texts with
  | nil => exact iff_of_true rfl nofun
  | cons text texts ih =>
    rw [String.join_cons, String.append_eq_empty_iff, ih, List.forall_mem_cons]

namespace Invocation.Pass

/-- A line of the log: that of an event of the pass, as the recorder writes it. -/
def IsLine (p : Pass) (style : LogStyle) (line : String) : Prop :=
  ∃ span n e, (span, Note.logged e) ∈ p.told ∧ p.recorder.line? style span n e = some line

/-- Notes that print nothing amount to lines of the log. -/
theorem output_of_unprinted (p : Pass) (style : LogStyle) {notes : List (Option Span × Note)}
    (among : ∀ note ∈ notes, note ∈ p.told) (unprinted : ∀ note ∈ notes, note.2.text = "")
    (n : Nat) :
    ∃ lines, p.recorder.output style n notes = String.join lines ∧
      ∀ line ∈ lines, p.IsLine style line := by
  induction notes generalizing n with
  | nil => exact ⟨[], rfl, nofun⟩
  | cons note notes ih =>
    obtain ⟨first, later⟩ := List.forall_mem_cons.mp among
    obtain ⟨blank, blanks⟩ := List.forall_mem_cons.mp unprinted
    have others := ih later blanks
    obtain ⟨span, note⟩ := note
    cases note with
    | printed text =>
      obtain rfl : text = "" := blank
      simp only [Recorder.output, String.empty_append]
      exact others n
    | logged e =>
      cases written : p.recorder.line? style span n e with
      | none =>
        simp only [Recorder.output, written]
        exact others n
      | some line =>
        obtain ⟨lines, output, logged⟩ := others (n + 1)
        refine ⟨line :: lines, ?_, List.forall_mem_cons.mpr ⟨⟨span, n, e, first, written⟩, logged⟩⟩
        simp only [Recorder.output, written, output, String.join_cons]

/-- A pass that prints nothing leaves lines of the log on standard output, and nothing else. -/
theorem stdout_of_unprinted {p : Pass} (unprinted : p.ending.output = "") (style : LogStyle) :
    ∃ lines, p.stdout style = String.join lines ∧ ∀ line ∈ lines, p.IsLine style line := by
  refine p.output_of_unprinted style (fun _ mem => mem) (fun note mem => ?_) 0
  rcases List.mem_append.mp mem with mem | mem
  · obtain ⟨note, noted, rfl⟩ := List.mem_map.mp mem
    exact join_eq_empty_iff.mp unprinted note.text (List.mem_map_of_mem noted)
  · rw [List.mem_singleton.mp mem]
    rfl

/-- An event that is written leaves something on standard output. -/
theorem output_ne_empty {r : Recorder} {style : LogStyle} {e : Event}
    (written : ∀ n, ∃ line, r.line? style none n e = some line ∧ line ≠ "")
    (notes : List (Option Span × Note)) (n : Nat) :
    r.output style n (notes ++ [(none, .logged e)]) ≠ "" := by
  induction notes generalizing n with
  | nil =>
    obtain ⟨line, writes, nonempty⟩ := written n
    simp only [List.nil_append, Recorder.output, writes]
    exact fun empty => nonempty (String.append_eq_empty_iff.mp empty).1
  | cons note notes ih =>
    obtain ⟨span, note⟩ := note
    cases note with
    | printed text => exact fun empty => ih n (String.append_eq_empty_iff.mp empty).2
    | logged e =>
      rw [List.cons_append, Recorder.output]
      split
      · exact fun empty => ih (n + 1) (String.append_eq_empty_iff.mp empty).2
      · exact ih n

/-- By default the log says how a pass ended, whatever came of it. -/
theorem stdout_ne_empty {p : Pass} {format : LogFormat}
    (default : p.recorder = .own format [{ level := .info }]) (style : LogStyle) :
    p.stdout style ≠ "" := by
  refine output_ne_empty (fun n => ?_) _ 0
  have admitted : EventFilter.admits [{ level := .info }] p.conclusion = true := by
    unfold conclusion
    cases p.failure <;> rfl
  rw [default, Recorder.line?]
  simp only [admitted, Bool.or_true, if_true]
  exact ⟨_, rfl, fun empty => absurd (String.append_eq_empty_iff.mp empty).2 (by decide)⟩

end Invocation.Pass

end LogSteward
