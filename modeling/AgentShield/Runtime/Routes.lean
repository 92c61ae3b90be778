import AgentShield.Runtime.SessionEffects
import AgentShield.Runtime.Resources

/-!
The HTTP handlers of one live session (`api/routes_runtime.py`). Each checks its
worker, calls the session and answers with a view of it; only the commentary
handler really waits. The disk under the sandbox is a parameter.
-/
namespace AgentShield.Routes
open Schema Events Keyed Policy Coop Session Resources

inductive Detail where
  | text (text : String)
  | unknownWorker (workerId : String)
  | unknownArtifact (artifactId : String)
  | taintedArtifact (artifactId : String)
  | invalidDraft
  deriving DecidableEq

inductive HttpError where
  | http (statusCode : Nat) (detail : Detail)
  /- An exception no handler catches: status 500. -/
  | uncaught
  deriving DecidableEq

abbrev Handler (α : Type) := Coro LiveRuntimeSession HttpError α

structure WorkerSpec where
  id : String
  role : String
  upstream : List String := []
  replaces : Option String := none
  modelBacked : Bool := false
  deriving DecidableEq

structure WorkerView where
  id : String
  role : String
  securityState : SecurityState
  currentTask : Option String
  upstream : List String
  replaces : Option String
  modelBacked : Bool
  quarantineReason : Option String
  stepQuarantined : Option Nat
  deriving DecidableEq

structure ArtifactView where
  id : String
  workerId : String
  kind : String
  summary : String
  trusted : Bool
  taintReason : Option String
  deriving DecidableEq

structure RuntimeSessionSummary where
  sessionId : Uuid
  objective : String
  workflowState : WorkflowState
  step : Nat
  lastSeq : Int
  attackDetected : Bool
  recoveryRequired : Bool
  modelCalls : Nat
  testsPassed : Option Bool
  testSummary : Option String
  workers : List WorkerView
  artifacts : List ArtifactView
  deriving DecidableEq

structure ResourceDecision where
  decision : String
  rule : String
  reason : String
  resourcePath : String
  normalizedPath : Option String
  quarantined : Bool
  recoveryRequired : Bool
  content : Option String := none
  error : Option String := none
  deriving DecidableEq

structure RuntimeEventPage where
  sessionId : Uuid
  lastSeq : Int
  events : List Event
  deriving DecidableEq

inductive Response where
  | summary (summary : RuntimeSessionSummary)
  | decision (decision : ResourceDecision)
  | events (page : RuntimeEventPage)
  | snapshot (frame : SnapshotFrame)
  | explanation
  deriving DecidableEq

def workerView (w : WorkerNode) : WorkerView :=
  { id := w.id
    role := w.role
    securityState := w.securityState
    currentTask := w.currentTask
    upstream := w.upstream
    replaces := w.replaces
    modelBacked := w.modelBacked
    quarantineReason := w.quarantineReason
    stepQuarantined := w.stepQuarantined }

def artifactView (a : Artifact) : ArtifactView :=
  { id := a.id
    workerId := a.workerId
    kind := a.kind
    summary := a.summary
    trusted := a.trusted
    taintReason := a.taintReason }

def summaryOf (session : LiveRuntimeSession) : RuntimeSessionSummary :=
  { sessionId := session.sessionId
    objective := session.objective
    workflowState := session.workflowState
    step := session.step
    lastSeq := session.lastSeq
    attackDetected := session.attackDetected
    recoveryRequired := session.recoveryRequired
    modelCalls := session.modelCalls
    testsPassed := session.testsPassed
    testSummary := session.testSummary
    workers := session.workers.values.map workerView
    artifacts := session.artifacts.values.map artifactView }

def answerSummary : Handler Response := do
  let session ← getState
  return .summary (summaryOf session)

def workerCall (workerId : String) : Handler Unit := do
  let session ← getState
  if session.workers.Has workerId then return
  else raise (.http 404 (.unknownWorker workerId))

/-- Authorize an action authored by a worker, not a control-plane action. -/
def activeWorkerCall (workerId : String) : Handler Unit := do
  workerCall workerId
  let session ← getState
  match session.workers.get? workerId with
  | none => return
  | some w =>
    if w.isActive = false then
      raise (.http 409 (.text (workerId ++ " is quarantined and cannot act")))
    else return

/- `except UnknownWorkerError`; any other exception goes through. -/
def exceptUnknownWorker (statusCode : Nat) : RuntimeError → HttpError
  | .unknownWorker text => .http statusCode (.text text)
  | _ => .uncaught

def exceptValueError (statusCode : Nat) : RuntimeError → HttpError
  | .unknownArtifact artifactId => .http statusCode (.unknownArtifact artifactId)
  | .taintedArtifact artifactId => .http statusCode (.taintedArtifact artifactId)
  | .invalidDraft => .http statusCode .invalidDraft
  | .unknownWorker _ => .uncaught
  | .givenTwice => .uncaught

def noExcept : RuntimeError → HttpError := fun _ => .uncaught

def registerWorker (spec : WorkerSpec) : Handler Response := do
  let _ ← translate noExcept
    (Session.registerWorker spec.id spec.role spec.upstream spec.replaces spec.modelBacked)
  answerSummary

/-- The content of an allowed request, or the failure of the read half. -/
def withContent (disk : Disk) (root : Path) (response : ResourceDecision)
    (normalizedPath : String) : Except HttpError ResourceDecision :=
  match readSandboxResource disk root normalizedPath with
  | .ok text => .ok { response with content := some text }
  | .error (.resourceAccess text) => .ok { response with error := some text }
  | .error (.policyBypass _) => .error (.http 500 (.text "policy bypass guard tripped"))
  | .error .undecodable => .error .uncaught

def grantAnswer (disk : Disk) (root : Path) (resourcePath : String) (includeContent : Bool)
    (grant : ResourceGrant) : Handler Response :=
  let decision := grant.decision
  let response : ResourceDecision :=
    { decision := decision.decision
      rule := decision.rule.text
      reason := decision.reason
      resourcePath
      normalizedPath := decision.normalizedPath
      quarantined := grant.quarantined
      recoveryRequired := grant.recoveryRequired }
  if decision.allowed = true ∧ includeContent = true then
    match decision.normalizedPath with
    | none => return .decision response
    | some normalizedPath =>
      match withContent disk root response normalizedPath with
      | .ok full => return .decision full
      | .error e => raise e
  else return .decision response

def requestResource (disk : Disk) (root : Path) (workerId resourcePath : String)
    (includeContent : Bool) : Handler Response := do
  workerCall workerId
  let grant ← translate (exceptUnknownWorker 404) (Session.requestResource workerId resourcePath)
  grantAnswer disk root resourcePath includeContent grant

def recordModelCall (workerId : String) (call : ModelCall) : Handler Response := do
  activeWorkerCall workerId
  let _ ← translate (exceptUnknownWorker 409) (Session.recordModelCall workerId call)
  answerSummary

def startTask (workerId task : String) : Handler Response := do
  activeWorkerCall workerId
  let _ ← translate (exceptUnknownWorker 409) (Session.startWorker workerId task)
  answerSummary

def completeTask (workerId step detail : String) : Handler Response := do
  activeWorkerCall workerId
  let _ ← translate (exceptUnknownWorker 409) (Session.completeTask workerId step detail .plain)
  answerSummary

def recordArtifact (id workerId kind summary : String) : Handler Response := do
  activeWorkerCall workerId
  let _ ← translate noExcept (Session.recordArtifact id workerId kind summary)
  answerSummary

def reassign (fromWorkerId : String) (toWorker : WorkerSpec) (task : String)
    (contextArtifactIds : List String) : Handler Response := do
  workerCall fromWorkerId
  translate (exceptValueError 409) (assertContextIsTrusted contextArtifactIds)
  let _ ← translate noExcept
    (Session.reassign fromWorkerId toWorker.id toWorker.role task toWorker.upstream
      toWorker.modelBacked)
  answerSummary

def recordTestRun (workerId : String) (passed : Bool) (summary : String) (exitCode : Int)
    (command : String) : Handler Response := do
  activeWorkerCall workerId
  let _ ← translate (exceptUnknownWorker 409)
    (Session.recordTestRun workerId passed summary exitCode command)
  answerSummary

def recover (summary : String) : Handler Response := do
  let _ ← translate noExcept (Session.recover summary)
  answerSummary

def fail (reason : String) : Handler Response := do
  let _ ← translate noExcept (Session.fail reason)
  answerSummary

def getSessionEvents (sinceSeq : Int) : Handler Response := do
  let session ← getState
  match session.bus.since sinceSeq with
  | none => raise (.http 409 (.text
      "since_seq is older than the replay buffer; reconnect for a snapshot"))
  | some events => return .events ⟨session.sessionId, session.lastSeq, events⟩

def getSessionSnapshot : Handler Response := do
  let session ← getState
  return .snapshot (Session.snapshot session)

/- The commentary reads the session once, then waits for its provider, any number of times. -/
def getExplanation : Nat → Handler Response
  | 0 => return .explanation
  | waits + 1 => do
    suspend
    getExplanation waits

inductive Request where
  | registerWorker (spec : WorkerSpec)
  | requestResource (workerId resourcePath : String) (includeContent : Bool)
  | recordModelCall (workerId : String) (call : ModelCall)
  | startTask (workerId task : String)
  | completeTask (workerId step detail : String)
  | recordArtifact (id workerId kind summary : String)
  | reassign (fromWorkerId : String) (toWorker : WorkerSpec) (task : String)
      (contextArtifactIds : List String)
  | recordTestRun (workerId : String) (passed : Bool) (summary : String) (exitCode : Int)
      (command : String)
  | recover (summary : String)
  | fail (reason : String)
  | getSession
  | getSessionEvents (sinceSeq : Int)
  | getSessionSnapshot
  | getExplanation (waits : Nat)

def handle (disk : Disk) (root : Path) : Request → Handler Response
  | .registerWorker spec => registerWorker spec
  | .requestResource workerId resourcePath includeContent =>
    requestResource disk root workerId resourcePath includeContent
  | .recordModelCall workerId call => recordModelCall workerId call
  | .startTask workerId task => startTask workerId task
  | .completeTask workerId step detail => completeTask workerId step detail
  | .recordArtifact id workerId kind summary => recordArtifact id workerId kind summary
  | .reassign fromWorkerId toWorker task contextArtifactIds =>
    reassign fromWorkerId toWorker task contextArtifactIds
  | .recordTestRun workerId passed summary exitCode command =>
    recordTestRun workerId passed summary exitCode command
  | .recover summary => recover summary
  | .fail reason => fail reason
  | .getSession => answerSummary
  | .getSessionEvents sinceSeq => getSessionEvents sinceSeq
  | .getSessionSnapshot => getSessionSnapshot
  | .getExplanation waits => getExplanation waits

end AgentShield.Routes
