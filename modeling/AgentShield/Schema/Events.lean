/-!
Events and the views of a state (`schemas/events.py`, `schemas/experiment.py`,
`schemas/frames.py`). An event's random id and wall-clock time are left out:
no function reads them.
-/
namespace AgentShield.Schema

inductive EventType where
  | experimentStarted
  | experimentStopped
  | agentCreated
  | agentStarted
  | agentStopped
  | messageSent
  | messageReceived
  | modelRequested
  | modelResponded
  | toolRequested
  | toolExecuted
  | toolDenied
  | memoryRead
  | memoryWrite
  | credentialAccessed
  | credentialRevoked
  | compromiseAttempted
  | compromiseSucceeded
  | compromiseFailed
  | anomalyDetected
  | agentQuarantined
  | agentReleased
  | permissionChanged
  | inferenceDisabled
  | threatSignaturePublished
  | threatSignatureReceived
  | agentRecovered
  | policyViolation
  | attestationIssued
  | attestationVerified
  | taskAssigned
  | taskReassigned
  | taskCompleted
  | workflowRecovered
  deriving DecidableEq, Repr

/- The JSON values the program writes into `metadata`; a float is the number it denotes. -/
inductive JsonValue where
  | null
  | bool (value : Bool)
  | int (value : Int)
  | float (value : Rat)
  | str (value : String)
  | strs (values : List String)
  deriving DecidableEq

abbrev Metadata := List (String × JsonValue)

def JsonValue.ofOption (wrap : α → JsonValue) : Option α → JsonValue
  | none => .null
  | some a => wrap a

def metadataGet (metadata : Metadata) (key : String) : Option JsonValue :=
  (metadata.find? fun entry => entry.1 = key).map Prod.snd

/-- Engine output: no identity, no clock. -/
structure EventDraft where
  simTick : Nat
  eventType : EventType
  agentId : Option String := none
  sourceAgentId : Option String := none
  targetAgentId : Option String := none
  riskScore : Option Rat := none
  metadata : Metadata := []
  deriving DecidableEq

abbrev Uuid := BitVec 128

/-- Emitted, ordered, streamable. -/
structure Event extends EventDraft where
  seq : Nat
  experimentId : Uuid
  deriving DecidableEq

inductive SecurityState where
  | healthy
  | suspicious
  | compromised
  | quarantined
  | recovered
  deriving DecidableEq, Repr

inductive AgentKind where
  | simulated
  | real
  deriving DecidableEq, Repr

inductive Status where
  | running
  | paused
  | finished
  | stopped
  deriving DecidableEq, Repr

structure NodeView where
  id : String
  softwareType : String
  securityState : SecurityState
  compromisedBy : Option String := none
  tickCompromised : Option Nat := none
  agentKind : AgentKind := .simulated
  deriving DecidableEq

structure EdgeView where
  source : String
  target : String
  deriving DecidableEq

structure SnapshotFrame where
  experimentId : Uuid
  /- -1 before the first event. -/
  lastSeq : Int
  simTick : Nat
  status : Status
  nodes : List NodeView
  edges : List EdgeView
  deriving DecidableEq

end AgentShield.Schema
