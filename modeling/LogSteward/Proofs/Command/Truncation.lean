import LogSteward.Proofs.Command.Passes
import LogSteward.Proofs.Documents.Truncation
import LogSteward.Proofs.Rest.Refinement
import LogSteward.Proofs.Rest.Requests
import LogSteward.Proofs.Retention.Visits

/-!
# What is made of texts that are cut short

A pass that fetches a listing that is cut short ends there: nothing is written for the policy that
was fetched, nor for any that come later (`Client.pass_breaksOff`).  A settings file that is cut
short is not taken for settings with fewer members or smaller numbers
(`Surroundings.settings_cutShort`); its text has no characters beyond ASCII, so it is still a text
wherever it is cut.

`truncation_detected` puts this together with what holds of the documents themselves.
-/

namespace LogSteward

open Rest Json Dialogue

/-! ### Listings -/

namespace PolicyCall

/-- The text of a listing, with policies as they are wrapped. -/
def listing (entries : List (String × Policy)) : String :=
  (entriesJson wrapped entries).compact

/-- No part of a listing is a listing. -/
theorem onlyWhole_listing (entries : List (String × Policy)) :
    OnlyWhole (readDictionary envelope.reader) entries (listing entries) :=
  (guarded_dictionary guarded_envelope).onlyWhole entries

/-- The reply is a success, but its body is a listing that is cut short. -/
def BreaksOff (r : Reply) : Prop :=
  r.isSuccess = true ∧
    ∃ entries body, r.body = some body ∧ CutShort body (listing entries)

/-- In a listing that breaks off, no policy is found. -/
theorem found_breaksOff (name : String) {r : Reply} (h : BreaksOff r) :
    found name (.ok r) = .error ⟨.policyGet, .unreadable .truncated⟩ := by
  obtain ⟨success, entries, body, hb, cut⟩ := h
  exact found_unreadable name success hb ((onlyWhole_listing entries).octets body cut)

end PolicyCall

/-! ### Passes -/

/-- A visit whose fetch has failed is over. -/
theorem Visit.fetch_error {v : Visit} {e : PlannedPolicy} (proper : v.Proper e) {name : String}
    {err : RemoteError} (he : err.isNotFound = false) {before after : List (Turn PolicyCall.Answer)}
    (split : v.turns e = before ++ ⟨.get name, .error err⟩ :: after) :
    name = e.name ∧ v = ⟨.error err, none⟩ ∧ before = [] ∧ after = [] := by
  obtain ⟨fetched, _ | written⟩ := v
  · obtain ⟨rfl, turn⟩ | ⟨before, rfl, turn⟩ := List.cons_eq_append_iff.mp split
    · cases turn
      exact ⟨rfl, rfl, rfl, rfl⟩
    · cases before <;> cases turn
  · obtain ⟨rfl, turn⟩ | ⟨before, rfl, turn⟩ := List.cons_eq_append_iff.mp split
    · cases turn
      -- a failed fetch does not call for a write
      exact absurd (proper.mp rfl) (ne_true_of_eq_false he)
    · rcases before with _ | ⟨_, _ | _⟩ <;> cases turn

/-- A tour ends with a fetch that fails, and what was written before were earlier entries. -/
theorem Tour.fetch_error {es : List PlannedPolicy} {vs : List Visit}
    {r : Except PolicyError (List CategoryOutcome)} (h : Tour es vs r) {name : String}
    {err : RemoteError} (he : err.isNotFound = false) {before after : List (Turn PolicyCall.Answer)}
    (split : visitsTo es vs = before ++ ⟨.get name, .error err⟩ :: after) :
    after = [] ∧ ∃ past e later, es = past ++ e :: later ∧ name = e.name ∧
      r = .error ⟨.policyGet, e.name, err⟩ ∧
      ∀ t ∈ before, t.1.isPut = true → ∃ e' ∈ past, t.1 = e'.write := by
  induction h generalizing before with
  | home => simp [visitsTo] at split
  | @stop e todo v _ _ _ proper calls _ fails =>
      have visit : v.turns e = before ++ ⟨.get name, .error err⟩ :: after := by
        simpa [visitsTo] using split
      obtain ⟨rfl, rfl, rfl, rfl⟩ := Visit.fetch_error proper he visit
      obtain ⟨-, last⟩ := List.append_inj' (calls.symm.trans visit) rfl
      cases last
      cases (if_neg (ne_true_of_eq_false he)).symm.trans fails
      exact ⟨rfl, [], e, todo, rfl, rfl, rfl, by simp⟩
  | @next e todo v vs _ proper clear _ ih =>
      have failed : PolicyCall.failure? ⟨.get name, .error err⟩ = some err :=
        if_neg (ne_true_of_eq_false he)
      have visits : v.turns e ++ visitsTo todo vs = before ++ ⟨.get name, .error err⟩ :: after :=
        split
      -- the visit is clear, so that the fetch is not one of its calls
      obtain ⟨before', rfl, rest⟩ : ∃ before', before = v.turns e ++ before' ∧
          visitsTo todo vs = before' ++ ⟨.get name, .error err⟩ :: after := by
        rcases List.append_eq_append_iff.mp visits with h | ⟨calls, hv, turn⟩
        · exact h
        · rcases calls with _ | ⟨call, calls⟩
          · exact ⟨[], by simpa using hv.symm, by simpa using turn.symm⟩
          · obtain ⟨rfl, -⟩ := List.cons.inj turn
            cases failed.symm.trans (clear _ (by simp [hv]))
      obtain ⟨rfl, past, e', later, rfl, rfl, rfl, earlier⟩ := ih rest
      refine ⟨rfl, e :: past, e', later, rfl, rfl, rfl, fun t ht put => ?_⟩
      rcases List.mem_append.mp ht with ht | ht
      · refine ⟨e, List.mem_cons_self, ?_⟩
        rcases List.mem_cons.mp ht with rfl | ht
        · cases put
        · obtain ⟨_, -, rfl⟩ := Option.map_eq_some_iff.mp (Option.mem_toList.mp ht)
          rfl
      · obtain ⟨e'', mem, hw⟩ := earlier t ht put
        exact ⟨e'', List.mem_cons_of_mem _ mem, hw⟩

namespace Client

variable {c : Client} {σ : Type} {answer : (q : Request) → σ → Answer q × σ}

/-- A client that cannot say where a path is sends nothing. -/
theorem turns_sealed {text : String} (h : c.endpoint.path = .sealed text) {α : Type}
    (d : PolicyDialogue α) (s : σ) : (c.overPolicies d).turns answer s = [] := by
  have none_sent : ∀ q, c.requests q = [] := by
    intro q
    cases q <;> simp [requests, Url.below?, h]
  have sent := c.transcript_overPolicies answer d s
  rw [← map_fst_turns, List.flatMap_eq_nil_iff.mpr fun q _ => none_sent q] at sent
  exact List.map_eq_nil_iff.mp sent

/-- **A pass ends with a listing that is cut short**: it fails for the policy that was fetched, and
what it has written belongs to earlier entries. -/
theorem pass_breaksOff (p : Plan) (s : σ) {before after : List (Turn Answer)} {q : Request}
    {r : Reply}
    (turns : (c.overPolicies p.reconcile).turns answer s = before ++ ⟨q, .ok r⟩ :: after)
    (get : q.method = .get) (breaks : PolicyCall.BreaksOff r) :
    after = [] ∧ ∃ past e later, p.entries = past ++ e :: later ∧
      q = (PolicyCall.get e.name).request c ∧
      ((c.overPolicies p.reconcile).run answer s).1
        = .error ⟨.policyGet, e.name, ⟨.policyGet, .unreadable .truncated⟩⟩ ∧
      ∀ t ∈ before, t.1.method = .put → ∃ e' ∈ past, t.1 = e'.write.request c := by
  cases hp : c.endpoint.path with
  | sealed text =>
      rw [turns_sealed hp] at turns
      simp at turns
  | segments parts =>
      obtain ⟨heard, asked, sent⟩ := turns_interpret (askPolicy_eq hp) answer p.reconcile s
      obtain ⟨heard₁, rest, rfl, rfl, hrest⟩ := List.map_eq_append_iff.mp (sent.symm.trans turns)
      obtain ⟨⟨call, a⟩, heard₂, rfl, turn, rfl⟩ := List.map_eq_cons_iff.mp hrest
      cases turn
      cases call with
      | put name d => cases get
      | get name =>
          obtain ⟨vs, result, tour, visits, hrun⟩ :=
            Stage.exists_tour (fun q s => (c.askPolicy q).run answer s) p.entries [] s
          rw [← p.reconcile_eq_rest] at visits hrun
          have split := visits.symm.trans asked
          have unreadable : (PolicyCall.get name).heard (.ok r)
              = .error ⟨.policyGet, .unreadable .truncated⟩ :=
            PolicyCall.found_breaksOff name breaks
          simp only [List.map_append, List.map_cons, unreadable] at split
          obtain ⟨none_after, past, e, later, hes, rfl, rfl, earlier⟩ := tour.fetch_error rfl split
          refine ⟨by simpa using none_after, past, e, later, hes, rfl, ?_, fun t ht put => ?_⟩
          · rw [overPolicies, run_interpret, hrun]
            rfl
          · obtain ⟨⟨call, b⟩, hcall, rfl⟩ := List.mem_map.mp ht
            have isPut : call.isPut = true := by
              cases call with
              | get _ => cases put
              | put _ _ => rfl
            obtain ⟨e', he', hw⟩ :=
              earlier _ (List.mem_map.mpr ⟨⟨call, b⟩, hcall, rfl⟩) isPut
            exact ⟨e', he', congrArg (PolicyCall.request c) hw⟩

end Client

/-! ### Settings -/

/-- The text has no characters beyond ASCII. -/
def Ascii (s : String) : Prop :=
  ∀ b ∈ Utf8.encode s, b < 0x80

theorem Ascii.append {s t : String} (hs : Ascii s) (ht : Ascii t) : Ascii (s ++ t) := by
  intro b hb
  rw [Utf8.encode_append] at hb
  exact (List.mem_append.mp hb).elim (hs b) (ht b)

/-- Octets of ASCII are those of a text. -/
theorem Utf8.exists_encode_eq {p : Octets} (h : ∀ b ∈ p, b < 0x80) : ∃ s, encode s = p := by
  refine ⟨String.ofList (p.map fun b => Char.ofNat b.toNat), ?_⟩
  rw [encode_ofList, List.flatMap_map]
  induction p with
  | nil => rfl
  | cons b p ih =>
      obtain ⟨hb, hp⟩ := List.forall_mem_cons.mp h
      have small : b.toNat < 0x80 := UInt8.lt_iff_toNat_lt.mp hb
      have char : (Char.ofNat b.toNat).toNat = b.toNat :=
        toNat_ofNat_char (.inl (by omega))
      rw [List.flatMap_cons, ih hp, Json.utf8EncodeChar_ascii (by omega), char,
        UInt8.ofNat_toNat, List.singleton_append]

instance (s : String) : Decidable (Ascii s) :=
  List.decidableBAll (fun b => b < 0x80) (Utf8.encode s)

theorem ascii_number (i : Int) : Ascii (number i).compact := by
  have digits (n : Nat) : ∀ b ∈ decimal n, b < 0x80 := by
    intro b hb
    have digit := isDigit_of_mem_decimal hb
    simp only [Octet.isDigit, Bool.and_eq_true, decide_eq_true_eq, UInt8.le_iff_toNat_le,
      UInt8.reduceToNat] at digit
    exact UInt8.lt_iff_toNat_lt.mpr (Nat.lt_of_le_of_lt digit.2 (by decide))
  have natural (n : Nat) : Ascii (toString n) := by
    rw [Ascii, encode_toString]
    exact digits n
  rw [compact]
  cases i with
  | ofNat n => exact natural n
  | negSucc n => exact Ascii.append (s := "-") (by decide +kernel) (natural (n + 1))

/-- What may be missing is written in ASCII if what is there is. -/
theorem ascii_option {α : Type} {write : α → Json} (h : ∀ a, Ascii (write a).compact) :
    ∀ o : Option α, Ascii (ofOption write o).compact
  | none => by
      rw [ofOption, compact]
      decide +kernel
  | some a => h a

/-- Members are written in ASCII if their keys and values are. -/
theorem ascii_members {ms : List (String × Json)}
    (h : ∀ m ∈ ms, Ascii (quoted m.1) ∧ Ascii m.2.compact) : Ascii (compactMembers ms) := by
  induction ms with
  | nil => decide +kernel
  | cons m ms ih =>
      obtain ⟨⟨key, value⟩, rest⟩ := List.forall_mem_cons.mp h
      have member := (key.append (t := ":") (by decide +kernel)).append value
      cases ms with
      | nil => exact member
      | cons m' ms =>
          rw [compactMembers]
          exact (member.append (t := ",") (by decide +kernel)).append (ih rest)

theorem ascii_object {ms : List (String × Json)}
    (h : ∀ m ∈ ms, Ascii (quoted m.1) ∧ Ascii m.2.compact) : Ascii (object ms).compact := by
  rw [compact]
  have opened := Ascii.append (s := "\x7b") (by decide +kernel) (ascii_members h)
  exact opened.append (by decide +kernel)

/-- Windows of retention are written in ASCII. -/
theorem RetentionWindows.ascii_compact (w : RetentionWindows) : Ascii w.toJson.compact := by
  have days : ∀ d : Option Int64, Ascii (ofOption (fun d : Int64 => .number d.toInt) d).compact :=
    ascii_option fun _ => ascii_number _
  refine ascii_object ?_
  simp only [List.forall_mem_cons, List.not_mem_nil, false_implies, implies_true, and_true, days]
  decide +kernel

/-- Settings are written in ASCII, so a text that is cut within a character is none of them. -/
theorem StorageSettings.ascii_encode (s : StorageSettings) : Ascii s.encode := by
  refine ascii_object ?_
  simp only [List.forall_mem_cons, List.not_mem_nil, false_implies, implies_true, and_true,
    RetentionWindows.ascii_compact, ascii_option fun _ => ascii_number _]
  decide +kernel

/-- **A settings file that is cut short** is refused: it is a text that ends early. -/
theorem Surroundings.settings_cutShort {w : Surroundings} {path : String} {content : Octets}
    (file : w.readFile path = .ok content) {s : StorageSettings} (cut : CutShort content s.encode) :
    w.settings (some path) = .error (.settingsInvalid path .truncated) := by
  have ascii : ∀ b ∈ content, b < 0x80 := by
    obtain ⟨q, -, hp⟩ := cut
    exact fun b hb => s.ascii_encode b (hp ▸ List.mem_append_left q hb)
  obtain ⟨text, rfl⟩ := Utf8.exists_encode_eq ascii
  have refused : StorageSettings.decode text = .error .truncated :=
    (StorageSettings.guarded.onlyWhole s).texts cut
  simp only [settings, file, Utf8.decode?_encode, refused]
  rfl

/-- **A text that is cut short is never taken for another one.**  Whatever octets are missing at the
end, and be it all of them:
* no policy, role or settings are read from the text of any, and no policies from a listing of them:
  the fault is always that the text ended early, although the whole text is read;
* a policy whose listing is cut short is not fetched, and a pass that asks for it ends there, with
  this fault as its failure for that policy.  Nothing is sent after that, and what was written
  before are policies of earlier entries;
* a task whose settings file is cut short does nothing, and the program ends with status 2. -/
theorem truncation_detected :
    (∀ d : Policy, OnlyWhole Policy.layout.reader d d.encode) ∧
    (∀ d : RoleDefinition, OnlyWhole RoleDefinition.layout.reader d d.encode) ∧
    (∀ d : StorageSettings, OnlyWhole StorageSettings.layout.reader d d.encode) ∧
    (∀ entries : List (String × Policy),
      OnlyWhole (readDictionary PolicyCall.envelope.reader) entries (PolicyCall.listing entries)) ∧
    (∀ (c : Client) (σ : Type) (answer : (q : Request) → σ → Answer q × σ) (s : σ) (r : Reply),
      PolicyCall.BreaksOff r →
        (∀ parts name, c.endpoint.path = .segments parts →
          (answer ((PolicyCall.get name).request c) s).1 = .ok r →
            ((c.askPolicy (.get name)).run answer s).1
              = .error ⟨.policyGet, .unreadable .truncated⟩) ∧
        ∀ (plan : Plan) (before after : List (Turn Answer)) (q : Request),
          let pass := c.overPolicies plan.reconcile
          pass.turns answer s = before ++ ⟨q, .ok r⟩ :: after → q.method = .get →
            after = [] ∧ ∃ past e later, plan.entries = past ++ e :: later ∧
              q = (PolicyCall.get e.name).request c ∧
              (pass.run answer s).1
                = .error ⟨.policyGet, e.name, ⟨.policyGet, .unreadable .truncated⟩⟩ ∧
              ∀ t ∈ before, t.1.method = .put → ∃ e' ∈ past, t.1 = e'.write.request c) ∧
    ∀ (d : StorageSettings) (w : Surroundings) (path : String) (content : Octets),
      w.readFile path = .ok content → CutShort content d.encode → ∀ i : Invocation,
        (i.task = .applyPolicies (some path) ∨ i.task = .planPolicies (some path)) →
          let ending := Ending.failed (.settingsInvalid path .truncated)
          i.run w = .done ending ∧ ending.exitStatus = 2 := by
  refine ⟨Policy.guarded.onlyWhole, RoleDefinition.guarded.onlyWhole,
    StorageSettings.guarded.onlyWhole, PolicyCall.onlyWhole_listing,
    fun c σ answer s r breaks => ⟨fun parts name hp reply => ?_, fun plan before after q => ?_⟩,
    fun d w path content file cut i task => ?_⟩
  · simp only [c.askPolicy_eq hp, Dialogue.run, reply]
    exact PolicyCall.found_breaksOff name breaks
  · intro pass turns get
    exact c.pass_breaksOff plan s turns get breaks
  · refine ⟨?_, rfl⟩
    have refused := Surroundings.settings_cutShort file cut
    rcases task with task | task <;>
      simp only [Invocation.run_eq, task, Task.prepare, refused] <;> rfl

/-- A server whose replies end in the middle of a key: of a pass there is only the first fetch. -/
theorem truncation_detected_first_fetch :
    let r : Reply := ⟨200, some (Utf8.encode "\x7b\"a\":\x7b\"poli")⟩
    let answer (_ : Request) (n : Nat) : Except String Reply × Nat := (.ok r, n + 1)
    let pass := Client.nearby.overPolicies (Plan.ofSettings {}).reconcile
    let fetch := (PolicyCall.get Category.flows.policyName).request Client.nearby
    PolicyCall.BreaksOff r ∧ pass.turns answer 0 = [⟨fetch, .ok r⟩] := by
  intro r answer pass fetch
  have breaks : PolicyCall.BreaksOff r :=
    ⟨rfl, [("a", {})], _, rfl, (Utf8.encode (PolicyCall.listing [("a", {})])).drop 11,
      by decide +kernel, by decide +kernel⟩
  have turns : ∃ after, pass.turns answer 0 = [] ++ ⟨fetch, .ok r⟩ :: after := ⟨_, rfl⟩
  obtain ⟨after, turns⟩ := turns
  obtain ⟨rfl, -⟩ := (truncation_detected.2.2.2.2.1 Client.nearby Nat answer 0 r breaks).2
    (Plan.ofSettings {}) [] after fetch turns rfl
  exact ⟨breaks, turns⟩

end LogSteward
