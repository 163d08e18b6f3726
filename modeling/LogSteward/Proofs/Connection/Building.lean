import LogSteward.Proofs.Connection.Attempts
import LogSteward.Proofs.Connection.Defects
import LogSteward.Proofs.Remote.Noting

/-!
# Clients from material that has been resolved

The library is tried out on the very material from which the client is built afterwards: on the
authorities alone if that is all of it, and on authorities and identity together otherwise
(`Bootstrap.accepted_of_resolve`).  So whatever the library is, as long as the material alone
decides what it says, there is nothing left that could fail in an attempt to build a client: a
connection fails exactly where its material does, and otherwise the first attempt succeeds
(`Bootstrap.connected_at_once`).  The log then tells of this attempt and of the client, and of
nothing else (`Bootstrap.connectEvents_of_resolve`).
-/

namespace LogSteward.Bootstrap

variable {library : TlsLibrary} {source : SecretSource} {s : ConnectionSettings}

/-- The steps made while setting up a connection: none if there is no material for it. -/
def steps (library : TlsLibrary) (source : SecretSource) (p : RetryPolicy)
    (s : ConnectionSettings) : List RetryStep :=
  match resolve library source s with
  | .error _ => []
  | .ok m => (connectWith p s m).transcript (buildAnswer library m.tls) ()

/-- The pauses are those among the steps. -/
theorem pauses_eq (library : TlsLibrary) (source : SecretSource) (p : RetryPolicy)
    (s : ConnectionSettings) :
    pauses library source p s = (steps library source p s).filterMap RetryStep.interval? := by
  unfold pauses steps
  cases resolve library source s with
  | error e => rfl
  | ok m =>
    refine congrArg (List.filterMap · _) (funext fun q => ?_)
    cases q with
    | attempt n => rfl
    | pause ms => rfl

/-- Where the library accepts the material, the client is built at the first attempt. -/
theorem connectWith_of_accepted {m : ConnectionMaterial} (h : library m.tls = .ok ())
    (p : RetryPolicy) (s : ConnectionSettings) :
    (connectWith p s m).run (buildAnswer library m.tls) ()
        = (.ok { endpoint := s.endpoint, credentials := m.credentials }, ()) ∧
      (connectWith p s m).transcript (buildAnswer library m.tls) () = [.attempt 1] := by
  have built : (buildAnswer library m.tls (.attempt 1) ()).1 = .ok () := h
  have counted : @RetryPolicy.run String Unit p
      = RetryPolicy.attemptFrom p.interval 1 (p.limit.toNat - UInt32.toNat 1) := rfl
  obtain ⟨run, transcript⟩ := RetryPolicy.attemptFrom_ok p.interval p.limit built
  rw [connectWith, Dialogue.run_andThen, Dialogue.transcript_andThen, counted, run, transcript]
  exact ⟨rfl, rfl⟩

/-- A connection fails where its material does, and is a client of the endpoint otherwise. -/
theorem connect_eq (library : TlsLibrary) (source : SecretSource) (p : RetryPolicy)
    (s : ConnectionSettings) : connect library source p s =
      (resolve library source s).map fun m =>
        { endpoint := s.endpoint, credentials := m.credentials } := by
  unfold connect
  cases h : resolve library source s with
  | error e => rfl
  | ok m => exact congrArg Prod.fst (connectWith_of_accepted (accepted_of_resolve h) p s).1

/-- There is one attempt if there is material, and none otherwise. -/
theorem steps_eq (library : TlsLibrary) (source : SecretSource) (p : RetryPolicy)
    (s : ConnectionSettings) : steps library source p s =
      match resolve library source s with
      | .error _ => []
      | .ok _ => [.attempt 1] := by
  unfold steps
  cases h : resolve library source s with
  | error e => rfl
  | ok m => exact (connectWith_of_accepted (accepted_of_resolve h) p s).2

/-! ### What is logged -/

/-- Of material that is accepted, nothing is logged while it is resolved. -/
theorem resolveEvents_of_resolve {m : ConnectionMaterial} (h : resolve library source s = .ok m) :
    resolveEvents library source s = [] := by
  obtain ⟨c, hc, h⟩ := bind_eq_ok_iff.mp h
  obtain ⟨rs, hr, h⟩ := bind_eq_ok_iff.mp h
  obtain ⟨i, hi, -⟩ := bind_eq_ok_iff.mp h
  obtain ⟨⟨origin, roots⟩, ha, hr⟩ := bind_eq_ok_iff.mp hr
  obtain ⟨⟨⟩, checked, yields⟩ := bind_eq_ok_iff.mp hr
  obtain rfl : roots = rs := Except.ok.inj yields
  have accepted := check_eq_ok_iff.mp checked
  unfold resolveEvents
  simp only [hc, ha, accepted]
  unfold identity at hi
  split at hi
  · next external =>
    obtain ⟨shown, hs, hi⟩ := bind_eq_ok_iff.mp hi
    obtain ⟨⟨⟩, accepted, -⟩ := bind_eq_ok_iff.mp hi
    simp only [external, hs, rejection, check_eq_ok_iff.mp accepted]
  · next internal => simp only [internal]

/-- Of a connection that is set up, the one attempt and the client are logged. -/
theorem connectEvents_of_resolve {m : ConnectionMaterial}
    (h : resolve library source s = .ok m) (p : RetryPolicy) :
    connectEvents library source p s = attemptEvents p s (.attempt 1) (.ok ()) ++
      [readyEvent s { endpoint := s.endpoint, credentials := m.credentials }] := by
  have built : library m.tls = .ok () := accepted_of_resolve h
  unfold connectEvents connectWith RetryPolicy.run
  rw [resolveEvents_of_resolve h, h]
  cases p.limit.toNat - 1 with
  | zero | succ left =>
    simp only [RetryPolicy.attemptFrom, Dialogue.andThen, Dialogue.commented, Dialogue.heard,
      Dialogue.run, buildAnswer, RetryStep.answerBy, built, Dialogue.heard_noted, List.append_nil,
      List.nil_append]
    rfl

/-! ### Connections -/

/-- What is wrong with material is never that a client could not be built. -/
theorem resolve_ne_unbuilt (library : TlsLibrary) (source : SecretSource) (s : ConnectionSettings)
    (attempts : UInt32) (cause : String) :
    resolve library source s ≠ .error (.unbuilt attempts cause) := by
  intro h
  obtain ⟨part, -, verdict⟩ := verdict_of_resolve h
  cases verdict

/-- **Material that has been resolved connects, and at the first attempt**, for every library for
which the material alone decides what is accepted.  Whatever the retry policy and the time that a
request may take, a connection is refused for the very reason for which its material is, before
anything is tried, and otherwise there is a client of the endpoint with the credentials of the
material, after a single attempt and without a pause.  That a client could not be built is never the
reason. -/
theorem connected_at_once (library : TlsLibrary) (source : SecretSource) (s : ConnectionSettings)
    (p : RetryPolicy) (timeout : Option Nat) :
    let client (m : ConnectionMaterial) : Client :=
      { endpoint := s.endpoint, credentials := m.credentials }
    connect library source p { s with timeout } = (resolve library source s).map client ∧
      steps library source p { s with timeout }
        = (match resolve library source s with
          | .error _ => []
          | .ok _ => [.attempt 1]) ∧
      pauses library source p { s with timeout } = [] ∧
      ∀ attempts cause,
        connect library source p { s with timeout } ≠ .error (.unbuilt attempts cause) := by
  intro client
  -- the time a request may take is not looked at
  have same : resolve library source { s with timeout } = resolve library source s := rfl
  refine ⟨?_, ?_, ?_, fun attempts cause => ?_⟩
  · rw [connect_eq, same]
  · rw [steps_eq, same]
  · rw [pauses_eq, steps_eq]
    cases resolve library source { s with timeout } with
    | error e => rfl
    | ok m => rfl
  · rw [connect_eq]
    cases h : resolve library source { s with timeout } with
    | error e =>
      intro unbuilt
      cases unbuilt
      exact resolve_ne_unbuilt library source _ attempts cause h
    | ok m => exact nofun

end LogSteward.Bootstrap
