import AgentShield.Lib.Numerals
import AgentShield.Client.Reducer

/-!
The run as a story (`lib/runtime/narrative.ts`): milestones keep a beat of their own, the other
events are folded into the worker that produced them.
-/
namespace AgentShield.Client
open Schema Events Keyed

inductive Severity where
  | critical
  | high
  | warn
  | contained
  | ok
  | neutral
  deriving DecidableEq

inductive BeatKind where
  | milestone
  | activity
  deriving DecidableEq

structure Beat where
  anchor : Event
  seq : Nat
  tick : Nat
  kind : BeatKind
  /- `undefined` for a step that `STEP_COPY` inherits from `Object.prototype`. -/
  severity : Option Severity
  label : Option String
  detail : String
  actor : Option String
  actorRole : Option String
  count : Nat
  deriving DecidableEq

def activityNoun : EventType → Option (String × String)
  | .toolRequested => some ("file requested", "files requested")
  | .toolExecuted => some ("file read", "files read")
  | .modelRequested => some ("model call", "model calls")
  | .memoryRead => some ("memory read", "memory reads")
  | .memoryWrite => some ("memory write", "memory writes")
  | .messageSent => some ("message", "messages")
  | .messageReceived => some ("message", "messages")
  | .agentCreated => some ("worker registered", "workers registered")
  | _ => none

def silent : EventType → Bool
  | .modelResponded => true
  | .agentStopped => true
  | _ => false

structure StepCopy where
  label : String
  severity : Severity

def stepCopies : List (String × StepCopy) :=
  [("analysis", ⟨"Repository analysed", .neutral⟩),
    ("research", ⟨"Vulnerability investigated", .neutral⟩),
    ("regression_test", ⟨"Regression coverage added", .neutral⟩),
    ("vulnerability_proven", ⟨"Vulnerability reproduced", .warn⟩),
    ("vulnerability_NOT_proven", ⟨"Vulnerability NOT reproduced", .high⟩),
    ("patch", ⟨"Patch applied", .neutral⟩),
    ("review", ⟨"Independently reviewed", .ok⟩)]

/- The names every object has: looked up in `STEP_COPY` they are found, and have no label. -/
def inheritedNames : List String :=
  ["constructor", "__defineGetter__", "__defineSetter__", "hasOwnProperty", "__lookupGetter__",
    "__lookupSetter__", "isPrototypeOf", "propertyIsEnumerable", "toString", "valueOf",
    "__proto__", "toLocaleString"]

/- `str(meta[key])`: anything but a text is the empty one. -/
def textOf (metadata : Metadata) (key : String) : String :=
  match metadataGet metadata key with
  | some (.str value) => value
  | _ => ""

def plural (count : Nat) (noun : String × String) : String :=
  toString count ++ " " ++ if count = 1 then noun.1 else noun.2

structure Milestone where
  label : Option String
  severity : Option Severity
  detail : String

def stepMilestone (metadata : Metadata) (step : String) : Option Milestone :=
  if step = "pytest" then
    let passed := decide (metadataGet metadata "passed" = some (.bool true))
    some
      { label := some (if passed then "Regression suite passed" else "Regression suite failed")
        severity := some (if passed then .ok else .critical)
        detail := textOf metadata "detail" }
  else
    match stepCopies.find? fun copy => copy.1 = step with
    | some copy => some ⟨some copy.2.label, some copy.2.severity, textOf metadata "detail"⟩
    | none =>
      if step ∈ inheritedNames then some ⟨none, none, textOf metadata "detail"⟩
      else if step = "" then none
      else some ⟨some step, some .neutral, textOf metadata "detail"⟩

def milestoneFor (event : Event) (replacementIds : List String) : Option Milestone :=
  let metadata := event.metadata
  match event.eventType with
  | .taskAssigned => some ⟨some "Task assigned", some .neutral, textOf metadata "task"⟩
  | .toolDenied =>
    some ⟨some "AgentShield denied the request", some .critical, textOf metadata "resource"⟩
  | .policyViolation =>
    some ⟨some "Policy violation", some .critical,
      if textOf metadata "reason" ≠ "" then textOf metadata "reason"
      else textOf metadata "violation_type"⟩
  | .anomalyDetected => some ⟨some "Anomaly detected", some .warn, textOf metadata "detector"⟩
  | .agentQuarantined => some ⟨some "Worker quarantined", some .contained, textOf metadata "reason"⟩
  | .taskReassigned =>
    some ⟨some "Task reassigned", some .contained,
      match truthy event.targetAgentId with
      | some target => "to " ++ target
      | none => textOf metadata "task"⟩
  | .agentCreated =>
    if textOf metadata "replaces" ≠ "" then
      some ⟨some "Replacement worker created", some .contained,
        "replaces " ++ textOf metadata "replaces"⟩
    else none
  | .agentStarted =>
    match truthy event.agentId with
    | some id =>
      if id ∈ replacementIds then
        some ⟨some "Replacement started on trusted context only", some .ok,
          textOf metadata "context_policy"⟩
      else none
    | none => none
  | .agentRecovered => some ⟨some "Worker recovered", some .ok, ""⟩
  | .taskCompleted => stepMilestone metadata (textOf metadata "step")
  | .workflowRecovered => some ⟨some "Workflow recovered", some .ok, textOf metadata "summary"⟩
  | .experimentStopped => some ⟨some "Workflow stopped", some .high, textOf metadata "reason"⟩
  | _ => none

structure Role where
  agentId : String
  role : String

structure Cast where
  roles : Table Role.agentId
  replacementIds : List String

def castOne (cast : Cast) (event : Event) : Cast :=
  match truthy event.agentId with
  | none => cast
  | some agentId =>
    if event.eventType ≠ .agentCreated then cast
    else
      let role := textOf event.metadata "role"
      { roles := if role ≠ "" then cast.roles.put ⟨agentId, role⟩ else cast.roles
        replacementIds := if textOf event.metadata "replaces" ≠ "" then
          cast.replacementIds ++ [agentId] else cast.replacementIds }

def castOf (events : List Event) : Cast := events.foldl castOne ⟨Table.empty, []⟩

def Cast.roleOf (cast : Cast) (agentId : String) : Option String :=
  (cast.roles.get? agentId).map Role.role

structure Tally where
  eventType : EventType
  count : Nat

structure Activity where
  beat : Beat
  counts : Table Tally.eventType

structure Telling where
  beats : List Beat
  activity : Option Activity

def Activity.detail (activity : Activity) : String :=
  ", ".intercalate (activity.counts.values.filterMap fun tally =>
    (activityNoun tally.eventType).map (plural tally.count))

def Activity.closed (activity : Activity) : Beat := { activity.beat with detail := activity.detail }

def closeActivity (telling : Telling) : Telling :=
  match telling.activity with
  | none => telling
  | some activity => ⟨telling.beats ++ [activity.closed], none⟩

def milestoneBeat (cast : Cast) (event : Event) (milestone : Milestone) : Beat :=
  { anchor := event
    seq := event.seq
    tick := event.simTick
    kind := .milestone
    severity := milestone.severity
    label := milestone.label
    detail := milestone.detail
    actor := event.agentId
    actorRole := (truthy event.agentId).bind cast.roleOf
    count := 1 }

/- Registering the team is about the team, not about its workers. -/
def activityActor (event : Event) : Option String :=
  if event.eventType = .agentCreated then none else event.agentId

def activityLabel (cast : Cast) (event : Event) : String :=
  if event.eventType = .agentCreated then "Team assembled"
  else match truthy event.agentId with
    | some actor => (cast.roleOf actor).getD actor ++ " working"
    | none => "Session activity"

def openActivity (cast : Cast) (event : Event) : Activity :=
  { beat :=
      { anchor := event
        seq := event.seq
        tick := event.simTick
        kind := .activity
        severity := some .neutral
        label := some (activityLabel cast event)
        detail := ""
        actor := activityActor event
        actorRole := (truthy (activityActor event)).bind cast.roleOf
        count := 1 }
    counts := Table.empty.put ⟨event.eventType, 1⟩ }

def Activity.fold (activity : Activity) (event : Event) : Activity :=
  { beat := { activity.beat with count := activity.beat.count + 1 }
    counts := activity.counts.put ⟨event.eventType,
      ((activity.counts.get? event.eventType).map Tally.count).getD 0 + 1⟩ }

def tell (cast : Cast) (telling : Telling) (event : Event) : Telling :=
  if silent event.eventType then telling
  else
    match milestoneFor event cast.replacementIds with
    | some milestone =>
      ⟨(closeActivity telling).beats ++ [milestoneBeat cast event milestone], none⟩
    | none =>
      match telling.activity with
      | none => ⟨telling.beats, some (openActivity cast event)⟩
      | some activity =>
        if activity.beat.label = some (activityLabel cast event) then
          ⟨telling.beats, some (activity.fold event)⟩
        else ⟨(closeActivity telling).beats, some (openActivity cast event)⟩

def deriveNarrative (events : List Event) : List Beat :=
  (closeActivity (events.foldl (tell (castOf events)) ⟨[], none⟩)).beats

end AgentShield.Client
