import AgentShield.Lib.Remote
import AgentShield.Runtime.Routes

/-!
The flow's way to AgentShield (`workswarm/agentshield_client.py`): requests and answers over
a network that may lose either, and what the client makes of getting no answer.
-/
namespace AgentShield.WorkSwarm
open Session Resources Routes Remote

def within (text : String) (least most : Nat) : Bool := least ≤ text.length && text.length ≤ most

def validSpec (spec : WorkerSpec) : Bool := within spec.id 1 64 && within spec.role 1 64

/- The bounds of `schemas/runtime.py`; outside them the answer is a 422. -/
def validBody : Request → Bool
  | .registerWorker spec => validSpec spec
  | .requestResource workerId resourcePath _ =>
    within workerId 1 64 && within resourcePath 0 2000
  | .recordModelCall _ call =>
    within call.provider 0 64 && within call.model 0 128 && within call.endpointHost 0 128 &&
      call.providerRoute ∈ ["runpod", "sponsor", "sponsor_fallback"] &&
      within call.fallbackReason 0 200
  | .startTask _ task => within task 1 1000
  | .completeTask _ step detail => within step 1 64 && within detail 0 4000
  | .recordArtifact id _ kind summary =>
    within id 1 64 && within kind 1 32 && within summary 0 4000
  | .reassign _ toWorker task _ => validSpec toWorker && within task 1 1000
  | .recordTestRun _ _ summary _ command => within command 0 500 && within summary 0 1000
  | .recover summary => within summary 1 2000
  | .fail reason => within reason 1 2000
  | .getSession => true
  | .getSessionEvents _ => true
  | .getSessionSnapshot => true
  | .getExplanation _ => true

structure Server where
  session : LiveRuntimeSession
  /- History: the requests that came to a handler, and its answers, delivered or not. -/
  received : List Request
  answers : List (Request × Response)

/-- A request that arrives. The client takes any status but a success for no answer. -/
def serveRequest (disk : Disk) (root : Path) (request : Request) (s : Server) :
    Server × Option Response :=
  if validBody request then
    match ((handle disk root request).run s.session).finish with
    | (session, .ok response) =>
      ({ session
         received := s.received ++ [request]
         answers := s.answers ++ [(request, response)] }, some response)
    | (session, .error _) => ({ s with session, received := s.received ++ [request] }, none)
  else (s, none)

/-- The answer the flow obeys. -/
structure Decision where
  allowed : Bool
  rule : String
  reason : String
  resourcePath : String
  normalizedPath : Option String := none
  quarantined : Bool := false
  recoveryRequired : Bool := false
  content : Option String := none
  error : Option String := none
  failClosed : Bool := false
  deriving DecidableEq

structure Document where
  path : String
  text : String
  deriving DecidableEq

/-- What the components of one run share. -/
structure RunContext where
  denials : List Decision
  quarantinedWorker : Option String
  failClosed : Bool
  researcherRequestedPaths : List String
  trustedArtifactIds : List String
  taintedArtifactIds : List String
  released : List Document

def RunContext.new : RunContext := ⟨[], none, false, [], [], [], []⟩

inductive Abort where
  | unavailable (what : String)
  /- What `summary` does not catch. -/
  | httpError
  | keyError
  | workerRaised
  deriving DecidableEq

abbrev Flow := Prog Request Response RunContext Abort

def call (request : Request) (what : String) : Flow Response := do
  match ← send request with
  | some response => return response
  | none => raise (.unavailable what)

def failedClosed (resourcePath : String) : Decision :=
  { allowed := false
    rule := "control_plane_unreachable"
    reason :=
      "AgentShield could not be reached. A security control that fails open " ++
      "is not a security control, so this request is denied."
    resourcePath
    failClosed := true }

def ofBody (body : ResourceDecision) : Decision :=
  { allowed := body.decision == "allow"
    rule := body.rule
    reason := body.reason
    resourcePath := body.resourcePath
    normalizedPath := body.normalizedPath
    quarantined := body.quarantined
    recoveryRequired := body.recoveryRequired
    content := body.content
    error := body.error }

/-- Ask AgentShield about one resource. Fails closed. -/
def requestResource (workerId resourcePath : String) : Flow Decision := do
  match ← send (.requestResource workerId resourcePath true) with
  | none => return failedClosed resourcePath
  | some (.decision body) => return ofBody body
  | some _ => raise .keyError

def startTask (workerId task : String) : Flow Response :=
  call (.startTask workerId task) "start_task"

def completeTask (workerId step detail : String) : Flow Response :=
  call (.completeTask workerId step detail) "complete_task"

def recordArtifact (artifactId workerId kind summary : String) : Flow Response :=
  call (.recordArtifact artifactId workerId kind summary) "record_artifact"

def reassign (fromWorkerId : String) (toWorker : WorkerSpec) (task : String)
    (contextArtifactIds : List String) : Flow Response :=
  call (.reassign fromWorkerId toWorker task contextArtifactIds) "reassign"

def recordModelCall (workerId : String) (modelCall : ModelCall) : Flow Response :=
  call (.recordModelCall workerId modelCall) "record_model_call"

def summary : Flow RuntimeSessionSummary := do
  match ← send .getSession with
  | some (.summary body) => return body
  | some _ => raise .keyError
  | none => raise .httpError

end AgentShield.WorkSwarm
