import AgentShield.Lib.Coop
import AgentShield.Events.Bus
import AgentShield.Runtime.Policy

/-!
The live runtime session (`runtime/session.py`): workers, artifacts, quarantine,
tainting. Every method mutates the session, numbers its drafts through the one
emitter and publishes them; none of them suspends.
-/
namespace AgentShield.Session
open Schema Events Keyed Policy Coop

inductive WorkflowState where
  | idle
  | running
  | underAttack
  | recovering
  | recovered
  | failed
  deriving DecidableEq, Repr

def frameStatus : WorkflowState → Status
  | .idle => .paused
  | .running => .running
  | .underAttack => .running
  | .recovering => .running
  | .recovered => .finished
  | .failed => .stopped

structure WorkerNode where
  id : String
  role : String
  securityState : SecurityState := .healthy
  currentTask : Option String := none
  upstream : List String := []
  replaces : Option String := none
  modelBacked : Bool := false
  stepRegistered : Nat := 0
  stepQuarantined : Option Nat := none
  quarantineReason : Option String := none
  compromisedBy : Option String := none
  deriving DecidableEq

def WorkerNode.isActive (w : WorkerNode) : Bool := w.securityState ≠ .quarantined

/-- A worker's output. Trust belongs to the artifact, not to the worker. -/
structure Artifact where
  id : String
  workerId : String
  kind : String
  summary : String
  trusted : Bool := true
  taintReason : Option String := none
  step : Nat := 0
  deriving DecidableEq

structure ResourceGrant where
  decision : Decision
  quarantined : Bool
  recoveryRequired : Bool
  events : List Event
  deriving DecidableEq

/- `UnknownWorkerError` with its text; the `ValueError`s quote the artifact id. -/
inductive RuntimeError where
  | unknownWorker (text : String)
  | unknownArtifact (id : String)
  | taintedArtifact (id : String)
  /- pydantic's `ValidationError`, a `ValueError`. -/
  | invalidDraft
  /- A `TypeError`: one keyword of `_draft` given twice. -/
  | givenTwice
  deriving DecidableEq

structure LiveRuntimeSession where
  sessionId : Uuid
  objective : String
  bus : EventBus
  emitter : EventEmitter
  workers : Table WorkerNode.id
  artifacts : Table Artifact.id
  workflowState : WorkflowState
  step : Nat
  attackDetected : Bool
  recoveryRequired : Bool
  testSummary : Option String
  testsPassed : Option Bool
  modelCalls : Nat

def LiveRuntimeSession.new (sessionId : Uuid) (objective : String) : LiveRuntimeSession :=
  { sessionId, objective
    bus := EventBus.new
    emitter := ⟨sessionId, 0⟩
    workers := Table.empty
    artifacts := Table.empty
    workflowState := .idle
    step := 0
    attackDetected := false
    recoveryRequired := false
    testSummary := none
    testsPassed := none
    modelCalls := 0 }

abbrev Method (α : Type) := Coro LiveRuntimeSession RuntimeError α

namespace LiveRuntimeSession

def lastSeq (self : LiveRuntimeSession) : Int := self.emitter.lastSeq

def log (self : LiveRuntimeSession) : List Event := self.bus.published

def published (self : LiveRuntimeSession) (drafts : List EventDraft) : LiveRuntimeSession :=
  { self with
    emitter := (self.emitter.emit drafts).1
    bus := self.bus.publish (self.emitter.emit drafts).2 }

def draft (self : LiveRuntimeSession) (eventType : EventType) (agentId : String)
    (metadata : Metadata) : EventDraft :=
  { simTick := self.step, eventType, agentId := some agentId, metadata }

def trustedContextFor (self : LiveRuntimeSession) (workerId : String) : List Artifact :=
  self.artifacts.values.filter fun artifact => artifact.trusted ∧ artifact.workerId ≠ workerId

end LiveRuntimeSession

def publish (drafts : List EventDraft) : Method (List Event) := do
  let self ← getState
  modifyState fun self => self.published drafts
  return (self.emitter.emit drafts).2

def worker (workerId : String) : Method WorkerNode := do
  let self ← getState
  match self.workers.get? workerId with
  | none => raise (.unknownWorker workerId)
  | some worker => return worker

def createdMetadata (role : String) (modelBacked : Bool) (replaces : Option String) : Metadata :=
  [("role", .str role), ("model_backed", .bool modelBacked)] ++
    (replaces.map fun id => ("replaces", JsonValue.str id)).toList

def registerWorker (workerId role : String) (upstream : List String) (replaces : Option String)
    (modelBacked : Bool) : Method (List Event) := do
  modifyState fun self => { self with step := self.step + 1 }
  let self ← getState
  let worker : WorkerNode :=
    { id := workerId, role, upstream, replaces, modelBacked, stepRegistered := self.step }
  modifyState fun self => { self with workers := self.workers.put worker }
  publish [self.draft .agentCreated workerId (createdMetadata role modelBacked replaces)]

def startWorker (workerId task : String) : Method (List Event) := do
  let worker ← worker workerId
  if worker.isActive = false then
    raise (.unknownWorker (workerId ++ " is quarantined and cannot be started"))
  else
    modifyState fun self => { self with
      step := self.step + 1
      workers := self.workers.put { worker with currentTask := some task }
      workflowState := if self.workflowState = .idle then .running else self.workflowState }
    let self ← getState
    publish
      [self.draft .taskAssigned workerId [("task", .str task)],
        self.draft .agentStarted workerId [("task", .str task)]]

/- The parameters of `complete_task` and the keywords `_draft` binds or is given. -/
def boundNames : List String :=
  ["self", "worker_id", "step_name", "detail", "event_type", "agent_id", "step",
    "source_agent_id", "target_agent_id", "risk_score"]

/-- The `**metadata` of one completion, as `_draft` binds it. A value counts by what pydantic
    makes of it for its field, `none` where it is refused; an absent keyword is its default. -/
structure Keywords where
  sourceAgentId : Option (Option String) := some none
  targetAgentId : Option (Option String) := some none
  riskScore : Option (Option Rat) := some none
  /- `agent_id`, `event_type` or `step` is among them: the call gives these itself. -/
  givenTwice : Bool := false
  rest : List (String × Option JsonValue) := []
  distinct : (rest.map Prod.fst).Nodup := by simp
  free : ∀ key ∈ rest.map Prod.fst, key ∉ boundNames := by simp

def Keywords.plain : Keywords := {}

def Keywords.metadata (keywords : Keywords) : Option Metadata :=
  keywords.rest.mapM fun entry => entry.2.map fun value => (entry.1, value)

def LiveRuntimeSession.completedDraft (self : LiveRuntimeSession)
    (workerId stepName detail : String) (keywords : Keywords) : Except RuntimeError EventDraft :=
  if keywords.givenTwice then .error .givenTwice
  else match keywords.sourceAgentId, keywords.targetAgentId, keywords.riskScore,
      keywords.metadata with
    | some sourceAgentId, some targetAgentId, some riskScore, some metadata =>
      .ok { self.draft .taskCompleted workerId
              ([("step", .str stepName), ("detail", .str detail)] ++ metadata) with
            sourceAgentId, targetAgentId, riskScore }
    | _, _, _, _ => .error .invalidDraft

/- The draft is built after the writes. -/
def completeTask (workerId stepName detail : String) (keywords : Keywords) :
    Method (List Event) := do
  let worker ← worker workerId
  if worker.isActive = false then
    raise (.unknownWorker (workerId ++ " is quarantined; its work is not accepted"))
  else
    modifyState fun self => { self with
      step := self.step + 1
      workers := self.workers.put { worker with currentTask := none } }
    let self ← getState
    match self.completedDraft workerId stepName detail keywords with
    | .ok draft => publish [draft]
    | .error error => raise error

structure ModelCall where
  provider : String
  model : String
  endpointHost : String
  providerRoute : String := "sponsor"
  fallbackUsed : Bool := false
  fallbackReason : String := ""
  latencyMs : Nat
  promptChars : Nat
  responseChars : Nat
  promptTokens : Option Int := none
  completionTokens : Option Int := none
  deriving DecidableEq

def ModelCall.metadata (call : ModelCall) : Metadata :=
  [("provider", .str call.provider), ("model", .str call.model),
    ("endpoint_host", .str call.endpointHost), ("provider_route", .str call.providerRoute),
    ("fallback_used", .bool call.fallbackUsed), ("latency_ms", .int call.latencyMs),
    ("prompt_chars", .int call.promptChars), ("response_chars", .int call.responseChars)] ++
  (if call.fallbackReason = "" then [] else [("fallback_reason", .str call.fallbackReason)]) ++
  (call.promptTokens.map fun n => ("prompt_tokens", JsonValue.int n)).toList ++
  (call.completionTokens.map fun n => ("completion_tokens", JsonValue.int n)).toList

def recordModelCall (workerId : String) (call : ModelCall) : Method (List Event) := do
  let worker ← worker workerId
  modifyState fun self => { self with
    step := self.step + 1
    workers := self.workers.put { worker with modelBacked := true }
    modelCalls := self.modelCalls + 1 }
  let self ← getState
  publish
    [self.draft .modelRequested workerId call.metadata,
      self.draft .modelResponded workerId call.metadata]

def recordArtifact (artifactId workerId kind summary : String) : Method Artifact := do
  let worker ← worker workerId
  let self ← getState
  let artifact : Artifact :=
    { id := artifactId, workerId, kind, summary
      trusted := worker.isActive
      taintReason := if worker.isActive then none else worker.quarantineReason
      step := self.step }
  modifyState fun self => { self with artifacts := self.artifacts.put artifact }
  return artifact

def Artifact.tainted (workerId reason : String) (artifact : Artifact) : Artifact :=
  if artifact.workerId = workerId ∧ artifact.trusted then
    { artifact with trusted := false, taintReason := some reason }
  else artifact

theorem tainted_id (workerId reason : String) (artifact : Artifact) :
    (artifact.tainted workerId reason).id = artifact.id := by
  unfold Artifact.tainted
  split <;> rfl

def taintedNow (artifacts : Table Artifact.id) (workerId : String) : List Artifact :=
  artifacts.values.filter fun artifact => artifact.workerId = workerId ∧ artifact.trusted

def taintArtifactsOf (artifacts : Table Artifact.id) (workerId reason : String) :
    Table Artifact.id :=
  artifacts.update (Artifact.tainted workerId reason) (tainted_id workerId reason)

def WorkerNode.quarantine (w : WorkerNode) (step : Nat) (reason : String)
    (compromisedBy : Option String) : WorkerNode :=
  { w with
    securityState := .quarantined
    stepQuarantined := some step
    quarantineReason := some reason
    compromisedBy
    currentTask := none }

def quarantineDrafts (worker : WorkerNode) (reason violationType : String)
    (compromisedBy : Option String) : Method (List EventDraft) := do
  let self ← getState
  let tainted := taintedNow self.artifacts worker.id
  modifyState fun self => { self with
    workers := self.workers.put (worker.quarantine self.step reason compromisedBy)
    artifacts := taintArtifactsOf self.artifacts worker.id
      ("Produced by a quarantined worker (" ++ violationType ++ ").")
    attackDetected := true
    recoveryRequired := true
    workflowState := .underAttack }
  return [self.draft .agentQuarantined worker.id
    [("legitimate", .bool true), ("violation_type", .str violationType),
      ("reason", .str reason), ("tainted_artifacts", .strs (tainted.map Artifact.id)),
      ("recovery_required", .bool true)]]

def removedReason : String := "Worker is quarantined; it can take no further action."

def resourceMetadata (resource : JsonValue) : Metadata :=
  [("tool", .str "resource_read"), ("resource", resource)]

def deniedMetadata (resourcePath : String) (rule : Rule) (reason : String) : Metadata :=
  resourceMetadata (.str resourcePath) ++
    [("violation_type", .str rule.text), ("reason", .str reason)]

def denyDrafts (self : LiveRuntimeSession) (worker : WorkerNode) (resourcePath : String)
    (decision : Decision) : List EventDraft :=
  [self.draft .toolDenied worker.id (deniedMetadata resourcePath decision.rule decision.reason),
    { self.draft .policyViolation worker.id
        [("violation_type", .str decision.rule.text), ("resource", .str resourcePath),
          ("reason", .str decision.reason)] with riskScore := some 1 },
    { self.draft .anomalyDetected worker.id
        [("violation_type", .str decision.rule.text),
          ("detector", .str "deterministic_path_policy"),
          ("reason", .str (worker.role ++
            " requested a resource outside its policy envelope " ++
            "immediately after reading untrusted repository documentation."))] with
      riskScore := some 1 }]

/-- The synchronous policy decision. Nothing is read here. -/
def requestResource (workerId resourcePath : String) : Method ResourceGrant := do
  let worker ← worker workerId
  modifyState fun self => { self with step := self.step + 1 }
  let self ← getState
  let requested := self.draft .toolRequested workerId (resourceMetadata (.str resourcePath))
  if worker.isActive = false then
    let events ← publish [requested, self.draft .toolDenied workerId
      (deniedMetadata resourcePath .quarantinedWorker removedReason)]
    return {
      decision := deny .quarantinedWorker removedReason none
      quarantined := true
      recoveryRequired := self.recoveryRequired
      events }
  else
    let decision := evaluate (.text resourcePath)
    if decision.allowed then
      let events ← publish [requested, self.draft .toolExecuted workerId
        (resourceMetadata (.ofOption .str decision.normalizedPath))]
      return {
        decision
        quarantined := false
        recoveryRequired := self.recoveryRequired
        events }
    else
      let quarantined ← quarantineDrafts worker decision.reason decision.rule.text
        (some "demo_target/docs/auth_notes.md")
      let events ← publish
        ([requested] ++ denyDrafts self worker resourcePath decision ++ quarantined)
      return { decision, quarantined := true, recoveryRequired := true, events }

def quarantine (workerId reason violationType : String) : Method (List Event) := do
  let worker ← worker workerId
  if worker.isActive = false then
    return []
  else
    modifyState fun self => { self with step := self.step + 1 }
    let drafts ← quarantineDrafts worker reason violationType none
    publish drafts

/- `quarantine_reason or "Worker quarantined."`: an empty reason is replaced too. -/
def handoffReason (quarantined : WorkerNode) : String :=
  match quarantined.quarantineReason with
  | none => "Worker quarantined."
  | some reason => if reason = "" then "Worker quarantined." else reason

def reassign (fromWorkerId toWorkerId role task : String) (upstream : List String)
    (modelBacked : Bool) : Method (List Event) := do
  let quarantined ← worker fromWorkerId
  modifyState fun self => { self with step := self.step + 1, workflowState := .recovering }
  let self ← getState
  let replacement : WorkerNode :=
    { id := toWorkerId, role, upstream
      replaces := some fromWorkerId
      modelBacked
      stepRegistered := self.step
      currentTask := some task }
  modifyState fun self => { self with
    workers := self.workers.put replacement
    recoveryRequired := false }
  let self ← getState
  publish
    [{ self.draft .taskReassigned fromWorkerId
          [("task", .str task), ("reason", .str (handoffReason quarantined))] with
        sourceAgentId := some fromWorkerId
        targetAgentId := some toWorkerId },
      self.draft .agentCreated toWorkerId
        [("role", .str role), ("replaces", .str fromWorkerId), ("model_backed", .bool modelBacked),
          ("trusted_context", .strs ((self.trustedContextFor toWorkerId).map Artifact.id))],
      self.draft .agentStarted toWorkerId
        [("task", .str task), ("context_policy", .str "trusted_artifacts_only")]]

/-- Raise if any named artifact is tainted or unknown. -/
def assertContextIsTrusted : List String → Method Unit
  | [] => return
  | artifactId :: rest => do
    let self ← getState
    match self.artifacts.get? artifactId with
    | none => raise (.unknownArtifact artifactId)
    | some artifact =>
      if artifact.trusted = false then raise (.taintedArtifact artifactId)
      else assertContextIsTrusted rest

def testRunKeywords (passed : Bool) (exitCode : Int) (command : String) : Keywords where
  rest := [("passed", some (.bool passed)), ("exit_code", some (.int exitCode)),
    ("command", some (.str command))]
  free := by simp [boundNames]

/- The two fields are written before `complete_task` can raise. -/
def recordTestRun (workerId : String) (passed : Bool) (summary : String) (exitCode : Int)
    (command : String) : Method (List Event) := do
  modifyState fun self => { self with testSummary := some summary, testsPassed := some passed }
  completeTask workerId "pytest" summary (testRunKeywords passed exitCode command)

def WorkerNode.recovers (w : WorkerNode) : Bool := w.replaces.isSome && w.isActive

def WorkerNode.afterRecovery (w : WorkerNode) : WorkerNode :=
  if w.recovers then { w with securityState := .recovered } else w

theorem afterRecovery_id (w : WorkerNode) : w.afterRecovery.id = w.id := by
  unfold WorkerNode.afterRecovery
  split <;> rfl

def recoveredDrafts (self : LiveRuntimeSession) (workers : List WorkerNode) : List EventDraft :=
  (workers.filter WorkerNode.recovers).map fun w =>
    self.draft .agentRecovered w.id [("replaces", .ofOption .str w.replaces)]

def quarantinedIds (workers : Table WorkerNode.id) : List String :=
  (workers.values.filter fun w => w.securityState = .quarantined).map WorkerNode.id

def recover (summary : String) : Method (List Event) := do
  modifyState fun self => { self with
    step := self.step + 1
    workflowState := .recovered
    recoveryRequired := false }
  let self ← getState
  let drafts := recoveredDrafts self self.workers.values
  modifyState fun self => { self with
    workers := self.workers.update WorkerNode.afterRecovery afterRecovery_id }
  let self ← getState
  publish (drafts ++ [{
    simTick := self.step
    eventType := .workflowRecovered
    metadata :=
      [("summary", .str summary), ("attack_detected", .bool self.attackDetected),
        ("quarantined", .strs (quarantinedIds self.workers)),
        ("tests_passed", .ofOption .bool self.testsPassed),
        ("test_summary", .ofOption .str self.testSummary)] }])

def fail (reason : String) : Method (List Event) := do
  modifyState fun self => { self with step := self.step + 1, workflowState := .failed }
  let self ← getState
  publish [{
    simTick := self.step
    eventType := .experimentStopped
    metadata := [("reason", .str reason), ("recovered", .bool false)] }]

def WorkerNode.view (w : WorkerNode) : NodeView :=
  { id := w.id
    softwareType := w.role
    securityState := w.securityState
    compromisedBy := w.compromisedBy
    tickCompromised := w.stepQuarantined
    agentKind := .real }

def nodes (self : LiveRuntimeSession) : List NodeView :=
  self.workers.values.map WorkerNode.view

def addEdge (self : LiveRuntimeSession) (edges : List EdgeView) (edge : EdgeView) :
    List EdgeView :=
  if self.workers.Has edge.source ∧ self.workers.Has edge.target ∧ edge ∉ edges then
    edges ++ [edge]
  else edges

def declaredEdges (workers : List WorkerNode) : List EdgeView :=
  workers.flatMap fun w => w.upstream.map fun source => ⟨source, w.id⟩

def inheritedEdges (workers : List WorkerNode) : List EdgeView :=
  workers.flatMap fun w => match w.replaces with
    | none => []
    | some replaced =>
      (workers.filter fun other => replaced ∈ other.upstream).map fun other => ⟨w.id, other.id⟩

def edges (self : LiveRuntimeSession) : List EdgeView :=
  (declaredEdges self.workers.values ++ inheritedEdges self.workers.values).foldl
    (addEdge self) []

def snapshot (self : LiveRuntimeSession) : SnapshotFrame :=
  { experimentId := self.sessionId
    lastSeq := self.lastSeq
    simTick := self.step
    status := frameStatus self.workflowState
    nodes := nodes self
    edges := edges self }

end AgentShield.Session
