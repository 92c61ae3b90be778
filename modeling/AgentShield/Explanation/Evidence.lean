import AgentShield.Metrics.Compute
import AgentShield.Runtime.EventLog

/-!
The evidence of an incident (`explanation/evidence.py`): selected fields of the recent events
of a live session, once the deny cascade is among them.
-/
namespace AgentShield.Explanation
open Schema Events Keyed Policy Session Metrics

structure IncidentWorkerEvidence where
  workerId : String
  role : String
  assignedTask : Option String

structure PolicyEvidence where
  rule : String
  outcome : String := "deny"
  reason : String

structure QuarantineEvidence where
  workerId : String
  state : String := "quarantined"

structure ContainmentEvidence where
  taintedArtifactIds : List String
  excludedFromReplacementContext : Option Bool

structure ReplacementEvidence where
  quarantinedWorkerId : String
  replacementWorkerId : String
  replacementRole : String

structure TestEvidence where
  passed : Bool
  exitCode : Option Int
  summary : String

structure ReviewerEvidence where
  workerId : String
  result : String

structure IncidentEvidence where
  schemaVersion : String := "1"
  sessionId : Uuid
  worker : IncidentWorkerEvidence
  requestedResourcePath : String
  policy : PolicyEvidence
  quarantine : QuarantineEvidence
  containment : ContainmentEvidence
  replacement : Option ReplacementEvidence
  beforeFixTest : Option TestEvidence
  afterFixTest : Option TestEvidence
  reviewer : Option ReviewerEvidence
  finalRecoveryState : WorkflowState

/- `_text`: scalar text only, stripped and bounded. -/
def evidenceText (value : Option JsonValue) (fallback : String) (limit : Nat) : String :=
  match value with
  | some (.str text) =>
    let stripped := Text.strip text.toList
    if stripped.isEmpty then fallback else String.ofList (stripped.take limit)
  | _ => fallback

def textOf (event : Event) (key fallback : String) (limit : Nat) : String :=
  evidenceText (metadataGet event.metadata key) fallback limit

def firstOf (events : List Event) (eventType : EventType) (agentId : Option String) :
    Option Event :=
  events.find? fun event =>
    event.eventType = eventType ∧ (agentId = none ∨ event.agentId = agentId)

def stringsOf (event : Event) (key : String) : List String :=
  match metadataGet event.metadata key with
  | some (.strs values) => values
  | _ => []

def flag (event : Event) (value : Bool) : Bool :=
  metadataGet event.metadata "passed" = some (.bool value)

/- `bool` is a subclass of `int`. -/
def exitCode (event : Event) : Option Int :=
  match metadataGet event.metadata "exit_code" with
  | some (.int code) => some code
  | some (.bool code) => some (if code then 1 else 0)
  | _ => none

def testEvidence (event : Event) : TestEvidence :=
  { passed := flag event true
    exitCode := exitCode event
    summary := textOf event "detail" "Test result recorded." 1000 }

def completes (step : String) (event : Event) : Bool :=
  event.eventType = .taskCompleted ∧ metadataGet event.metadata "step" = some (.str step)

def roleOf (session : LiveRuntimeSession) (workerId : String) : String :=
  evidenceText ((session.workers.get? workerId).map fun worker => .str worker.role) "unknown" 64

def assignedTask (events : List Event) (workerId : String) : Option String :=
  let assignments := events.filter fun event =>
    event.eventType = .taskAssigned ∧ event.agentId = some workerId
  assignments.getLast?.map fun event => textOf event "task" "Assigned task not recorded." 1000

def taintedIds (quarantine : Event) : List String :=
  (stringsOf quarantine "tainted_artifacts").map fun id =>
    evidenceText (some (.str id)) "unknown" 64

def replacementOf (session : LiveRuntimeSession) (events : List Event) (workerId : String) :
    Option (ReplacementEvidence × List String) := do
  let reassignment ← events.find? fun event =>
    event.eventType = .taskReassigned ∧ event.sourceAgentId = some workerId ∧
      event.targetAgentId.any (· ≠ "")
  let replacementId ← reassignment.targetAgentId
  let created := firstOf events .agentCreated (some replacementId)
  return (
    { quarantinedWorkerId := workerId
      replacementWorkerId := replacementId
      replacementRole := match created with
        | some event => textOf event "role" "unknown" 64
        | none => roleOf session replacementId },
    match created with
    | some event => stringsOf event "trusted_context"
    | none => [])

def reviewerOf (events : List Event) : Option ReviewerEvidence := do
  let event ← events.reverse.find? fun event =>
    completes "review" event ∧ event.agentId.any (· ≠ "")
  let workerId ← event.agentId
  return { workerId, result := textOf event "detail" "Review completed." 1000 }

/- The model rejects a workflow state outside these. -/
def finalState (state : WorkflowState) : Option WorkflowState :=
  if state ∈ [.underAttack, .recovering, .recovered, .failed] then some state else none

inductive Evidence where
  | noIncident
  | incident (evidence : IncidentEvidence)
  /- pydantic's `ValidationError`. -/
  | invalid

/-- Evidence only when the deny cascade is among the recent events. -/
def buildIncidentEvidence (session : LiveRuntimeSession) : Evidence :=
  let events := recentWindow session.bus
  match firstOf events .policyViolation none with
  | none => .noIncident
  | some violation =>
    match violation.agentId with
    | none => .noIncident
    | some workerId =>
      match firstOf events .agentQuarantined (some workerId) with
      | none => .noIncident
      | some quarantine =>
        let tainted := taintedIds quarantine
        let replacement := replacementOf session events workerId
        let tests := events.filter (completes "pytest")
        match finalState session.workflowState with
        | none => .invalid
        | some finalRecoveryState => .incident
          { sessionId := session.sessionId
            worker :=
              { workerId
                role := roleOf session workerId
                assignedTask := assignedTask events workerId }
            requestedResourcePath := textOf violation "resource" "unknown resource" 2000
            policy :=
              { rule := textOf violation "violation_type" "unknown" 64
                reason := textOf violation "reason" "unknown" 1000 }
            quarantine := { workerId }
            containment :=
              { taintedArtifactIds := tainted
                excludedFromReplacementContext := replacement.map fun found =>
                  !tainted.any fun id => id ∈ found.2 }
            replacement := replacement.map Prod.fst
            beforeFixTest := (tests.find? fun event => flag event false).map testEvidence
            afterFixTest := (tests.reverse.find? fun event => flag event true).map testEvidence
            reviewer := reviewerOf events
            finalRecoveryState }

end AgentShield.Explanation
