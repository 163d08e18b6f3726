import LogSteward.Remote.Error
import LogSteward.Remote.Noting
import LogSteward.Retention.Plan
import LogSteward.Telemetry.Event
import LogSteward.Text.Diagnostic

/-!
# Reconciling policies

Bringing the policies of a store in line with a plan: fetch a policy, compare its thresholds with
those planned, and write the whole document if one of them differs or the policy does not exist.
Policies are taken in the order of the plan; the first failure ends the pass, and what has been
written by then stays.  What came of a policy is logged before the next one is taken.
-/

namespace LogSteward

/-- A call to a store of policies. -/
inductive PolicyCall where
  | get (name : String)
  | put (name : String) (policy : Policy)
deriving DecidableEq

namespace PolicyCall

/-- What a call yields. -/
abbrev Answer : PolicyCall → Type
  | get _ => Except RemoteError Policy
  | put _ _ => Except RemoteError Unit

def operation : PolicyCall → Operation
  | get _ => .policyGet
  | put _ _ => .policyPut

/-- The policy that a call is about. -/
def name : PolicyCall → String
  | get n | put n _ => n

end PolicyCall

/-- What reconciling did to a policy. -/
inductive PolicyOutcome where
  /-- There was no policy, and one was written. -/
  | created
  /-- The policy differed in the given thresholds and was replaced. -/
  | updated (changed : List Thresholds.Field)
  /-- The policy was as planned. -/
  | unchanged
deriving DecidableEq

namespace PolicyOutcome

/-- Whether the policy was written. -/
def wrote : PolicyOutcome → Bool
  | unchanged => false
  | _ => true

def label : PolicyOutcome → String
  | created => "created"
  | updated _ => "updated"
  | unchanged => "unchanged"

/-- The thresholds that differed. -/
def changed : PolicyOutcome → List Thresholds.Field
  | updated fs => fs
  | _ => []

end PolicyOutcome

/-- The failure of a pass: the policy at which it stopped, and the failure of the store. -/
structure PolicyError where
  operation : Operation
  policy : String
  source : RemoteError
deriving DecidableEq

namespace PolicyError

def message (_ : PolicyError) : String :=
  "lifecycle policy operation failed"

end PolicyError

/-- A computation over a store of policies. -/
abbrev PolicyDialogue := Dialogue PolicyCall.Answer

/-- Writes the document for the given thresholds. -/
def writePolicy (name : String) (t : Thresholds) (outcome : PolicyOutcome) :
    PolicyDialogue (Except PolicyError PolicyOutcome) :=
  .ask (.put name (Policy.ofThresholds t)) fun
    | .ok () => .done (.ok outcome)
    | .error e => .done (.error ⟨.policyPut, name, e⟩)

/-- Brings one policy in line with the given thresholds. -/
def reconcilePolicy (name : String) (t : Thresholds) :
    PolicyDialogue (Except PolicyError PolicyOutcome) :=
  .ask (.get name) fun
    | .ok stored =>
      match stored.thresholds.differences t with
      | [] => .done (.ok .unchanged)
      | f :: fs => writePolicy name t (.updated (f :: fs))
    | .error e =>
      if e.isNotFound then writePolicy name t .created
      else .done (.error ⟨.policyGet, name, e⟩)

/-- What reconciling did to the policy of a category. -/
structure CategoryOutcome where
  category : Category
  outcome : PolicyOutcome
deriving DecidableEq

/-- Takes the entries of a plan in order, until one of them fails. -/
def reconcileEach {Q : Type} {A : Q → Type}
    (step : String → Thresholds → Dialogue A (Except PolicyError PolicyOutcome)) :
    List PlannedPolicy → Dialogue A (Except PolicyError (List CategoryOutcome))
  | [] => .done (.ok [])
  | e :: es =>
    (step e.name e.thresholds).andThen fun
      | .error err => .done (.error err)
      | .ok o =>
        (reconcileEach step es).andThen fun
          | .error err => .done (.error err)
          | .ok os => .done (.ok (⟨e.category, o⟩ :: os))

/-- Brings the policies of the given entries in line, in order. -/
def reconcileEntries :
    List PlannedPolicy → PolicyDialogue (Except PolicyError (List CategoryOutcome)) :=
  reconcileEach reconcilePolicy

/-- Brings the policies of a store in line with a plan. -/
def Plan.reconcile (p : Plan) : PolicyDialogue (Except PolicyError (List CategoryOutcome)) :=
  reconcileEntries p.entries

/-! ### What is logged -/

/-- What is logged of a policy, once it is clear what came of it. -/
def reconcileEvent (name : String) : Except PolicyError PolicyOutcome → Event
  | .ok .unchanged => said .debug "lifecycle policy up to date" []
  | .ok .created => said .info "lifecycle policy created" []
  | .ok (.updated changed) =>
    said .info "lifecycle policy replaced"
      [("changed", .shown (Diagnostic.strings (changed.map (·.name))))]
  | .error e =>
    said .error
      (if e.operation = .policyGet then "failed to fetch lifecycle policy"
        else "failed to apply lifecycle policy")
      [("error", .shown e.source.message)]
where
  said (level : Verbosity) (message : String) (more : List (String × FieldValue)) : Event :=
    { level, target := "loghold_policy::reconcile", message
      fields := ("policy", .text name) :: more }

/-- Brings the policies of a store in line with a plan and logs what came of each. -/
def Plan.reconcileNoting (p : Plan) :
    Dialogue (Noting Event PolicyCall.Answer) (Except PolicyError (List CategoryOutcome)) :=
  reconcileEach
    (fun name t => (reconcilePolicy name t).concluded fun r => [reconcileEvent name r]) p.entries

end LogSteward
