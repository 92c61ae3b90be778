import AgentShield.Client.Verdict

/-!
The incident on the banner (`lib/runtime/incident.ts`): one loop in which each field is found
by its own rule, and one search for the request afterwards.
-/
namespace AgentShield.Client
open Schema Events Keyed

inductive CascadeKey where
  | requested
  | denied
  | violation
  | quarantined
  deriving DecidableEq

def CascadeKey.label : CascadeKey → String
  | .requested => "Tool request"
  | .denied => "Request denied"
  | .violation => "Policy violation"
  | .quarantined => "Worker quarantined"

structure CascadeStep where
  key : CascadeKey
  label : String
  detail : String
  seq : Option Nat
  deriving DecidableEq

structure Incident where
  detected : Bool
  workerId : Option String
  workerRole : Option String
  resource : Option String
  rule : Option String
  reason : Option String
  taintedArtifactIds : List String
  replacementWorkerId : Option String
  replacementRole : Option String
  trustedContextIds : List String
  trustedContextOnly : Bool
  cascade : List CascadeStep
  deriving DecidableEq

def strings (metadata : Metadata) (key : String) : List String :=
  match metadataGet metadata key with
  | some (.strs values) => values
  | _ => []

structure Hit where
  seq : Nat
  detail : String
  deriving DecidableEq

structure Findings where
  /- Newest first. -/
  roles : List (String × String) := []
  reached : CascadeKey → Option Hit := fun _ => none
  detected : Bool := false
  workerId : Option String := none
  resource : Option String := none
  rule : Option String := none
  reason : Option String := none
  taintedArtifactIds : List String := []
  replacementWorkerId : Option String := none
  trustedContextIds : List String := []
  trustedContextOnly : Bool := false

def reach (reached : CascadeKey → Option Hit) (key : CascadeKey) (hit : Hit) :
    CascadeKey → Option Hit :=
  fun other => if other = key then some hit else reached other

def Findings.withRole (found : Findings) (agentId : String) (role : Option String) : Findings :=
  match role with
  | none => found
  | some role => { found with roles := (agentId, role) :: found.roles }

def Findings.roleOf (found : Findings) (agentId : String) : Option String :=
  List.lookup agentId found.roles

def notice (found : Findings) (event : Event) : Findings :=
  let metadata := event.metadata
  match event.eventType with
  | .agentCreated =>
    match truthy event.agentId with
    | none => found
    | some agentId =>
      let found := found.withRole agentId (str metadata "role")
      if (str metadata "replaces").isSome then
        { found with
          replacementWorkerId := some agentId
          trustedContextIds := strings metadata "trusted_context" }
      else found
  | .agentStarted =>
    if event.agentId = found.replacementWorkerId ∧
        str metadata "context_policy" = some "trusted_artifacts_only" then
      { found with trustedContextOnly := true }
    else found
  | .toolDenied =>
    if (found.reached .denied).isSome then found
    else
      { found with
        resource := (str metadata "resource").or found.resource
        rule := (str metadata "violation_type").or found.rule
        reason := (str metadata "reason").or found.reason
        reached := reach found.reached .denied
          ⟨event.seq, "Refused before anything was opened."⟩ }
  | .policyViolation =>
    -- The step is pinned to the first violation, the fields are not.
    { found with
      detected := true
      workerId := event.agentId.or found.workerId
      resource := (str metadata "resource").or found.resource
      rule := (str metadata "violation_type").or found.rule
      reason := (str metadata "reason").or found.reason
      reached :=
        if (found.reached .violation).isSome then found.reached
        else reach found.reached .violation
          ⟨event.seq, (str metadata "violation_type").getD "policy violation"⟩ }
  | .agentQuarantined =>
    if (found.reached .quarantined).isSome then found
    else
      { found with
        workerId := event.agentId.or found.workerId
        taintedArtifactIds := strings metadata "tainted_artifacts"
        reached := reach found.reached .quarantined
          ⟨event.seq, "Removed from the team; its output is untrusted."⟩ }
  | _ => found

def requestFor (events : List Event) (resource : String) : Option Event :=
  events.find? fun event =>
    event.eventType = .toolRequested ∧ str event.metadata "resource" = some resource

/- `reached` after the second loop. -/
def originate (events : List Event) (found : Findings) : CascadeKey → Option Hit :=
  match found.resource with
  | none => found.reached
  | some resource =>
    match requestFor events resource with
    | none => found.reached
    | some event => reach found.reached .requested ⟨event.seq, resource⟩

def cascadeStep (reached : CascadeKey → Option Hit) (key : CascadeKey) : CascadeStep :=
  { key
    label := key.label
    detail := ((reached key).map Hit.detail).getD ""
    seq := (reached key).map Hit.seq }

def deriveIncident (events : List Event) : Incident :=
  let found := events.foldl notice {}
  { detected := found.detected
    workerId := found.workerId
    workerRole := (truthy found.workerId).bind found.roleOf
    resource := found.resource
    rule := found.rule
    reason := found.reason
    taintedArtifactIds := found.taintedArtifactIds
    replacementWorkerId := found.replacementWorkerId
    replacementRole := (truthy found.replacementWorkerId).bind found.roleOf
    trustedContextIds := found.trustedContextIds
    trustedContextOnly := found.trustedContextOnly
    cascade := [CascadeKey.requested, .denied, .violation, .quarantined].map
      (cascadeStep (originate events found)) }

structure Story where
  workerId : Option String := none
  resource : Option String := none
  rule : Option String := none
  reason : Option String := none
  taintedArtifactIds : List String := []
  denied : Option Nat := none
  violation : Option Nat := none
  quarantined : Option Nat := none

def retell (story : Story) (event : Event) : Story :=
  match event.eventType with
  | .toolDenied =>
    if story.denied.isSome then story
    else
      { story with
        resource := (str event.metadata "resource").or story.resource
        rule := (str event.metadata "violation_type").or story.rule
        reason := (str event.metadata "reason").or story.reason
        denied := some event.seq }
  | .policyViolation =>
    { story with
      workerId := event.agentId.or story.workerId
      resource := (str event.metadata "resource").or story.resource
      rule := (str event.metadata "violation_type").or story.rule
      reason := (str event.metadata "reason").or story.reason
      violation := story.violation.or (some event.seq) }
  | .agentQuarantined =>
    if story.quarantined.isSome then story
    else
      { story with
        workerId := event.agentId.or story.workerId
        taintedArtifactIds := strings event.metadata "tainted_artifacts"
        quarantined := some event.seq }
  | _ => story

def storyOf (events : List Event) : Story := events.foldl retell {}

def Findings.seqOf (found : Findings) (key : CascadeKey) : Option Nat :=
  (found.reached key).map Hit.seq

def Findings.story (found : Findings) : Story :=
  { workerId := found.workerId
    resource := found.resource
    rule := found.rule
    reason := found.reason
    taintedArtifactIds := found.taintedArtifactIds
    denied := found.seqOf .denied
    violation := found.seqOf .violation
    quarantined := found.seqOf .quarantined }

theorem notice_requested (found : Findings) (event : Event) :
    (notice found event).reached .requested = found.reached .requested := by
  unfold notice
  dsimp only
  split
  · split
    · rfl
    · rename_i agentId _
      cases str event.metadata "role" <;> split <;> rfl
  · split <;> rfl
  · split <;> rfl
  · split <;> rfl
  · split <;> rfl
  · rfl

theorem tell_other (story : Story) {event : Event} (denied : event.eventType ≠ .toolDenied)
    (violation : event.eventType ≠ .policyViolation)
    (quarantined : event.eventType ≠ .agentQuarantined) : retell story event = story := by
  unfold retell
  split
  · contradiction
  · contradiction
  · contradiction
  · rfl

/-- The loop tells the story, whatever else it gathers. -/
theorem notice_tells (found : Findings) (event : Event) :
    (notice found event).story = retell found.story event := by
  unfold notice
  dsimp only
  split
  · rename_i type
    rw [tell_other found.story (by simp [type]) (by simp [type]) (by simp [type])]
    split
    · rfl
    · cases str event.metadata "role" <;> split <;> rfl
  · rename_i type
    rw [tell_other found.story (by simp [type]) (by simp [type]) (by simp [type])]
    split <;> rfl
  · rename_i type
    cases denied : found.reached .denied with
    | none => simp [retell, type, Findings.story, Findings.seqOf, reach, denied]
    | some hit => simp [retell, type, Findings.story, Findings.seqOf, denied]
  · rename_i type
    cases violation : found.reached .violation with
    | none => simp [retell, type, Findings.story, Findings.seqOf, reach, violation]
    | some hit => simp [retell, type, Findings.story, Findings.seqOf, violation]
  · rename_i type
    cases quarantined : found.reached .quarantined with
    | none => simp [retell, type, Findings.story, Findings.seqOf, reach, quarantined]
    | some hit => simp [retell, type, Findings.story, Findings.seqOf, quarantined]
  · rename_i denied violation quarantined
    exact (tell_other found.story denied violation quarantined).symm

theorem findings_story (events : List Event) :
    (events.foldl notice {}).story = storyOf events ∧
      (events.foldl notice {}).reached .requested = none := by
  constructor
  · exact (List.foldl_hom Findings.story fun found event => (notice_tells found event).symm).symm
  · refine List.foldlRecOn (motive := fun found : Findings => found.reached .requested = none)
      events notice rfl ?_
    intro found unreached event _
    rw [notice_requested, unreached]

/-- What the banner shows of the story. -/
theorem incident_story (events : List Event) :
    (deriveIncident events).workerId = (storyOf events).workerId ∧
    (deriveIncident events).resource = (storyOf events).resource ∧
    (deriveIncident events).rule = (storyOf events).rule ∧
    (deriveIncident events).reason = (storyOf events).reason ∧
    (deriveIncident events).taintedArtifactIds = (storyOf events).taintedArtifactIds ∧
    (deriveIncident events).cascade.map CascadeStep.seq =
      [((storyOf events).resource.bind (requestFor events)).map Event.seq,
        (storyOf events).denied, (storyOf events).violation, (storyOf events).quarantined] := by
  obtain ⟨story, unreached⟩ := findings_story events
  rw [← story]
  refine ⟨rfl, rfl, rfl, rfl, rfl, ?_⟩
  unfold deriveIncident
  generalize events.foldl notice {} = found at unreached
  cases resource : found.resource with
  | none => simp [cascadeStep, originate, Findings.story, Findings.seqOf, resource, unreached]
  | some resource' =>
    cases request : requestFor events resource' with
    | none =>
      simp [cascadeStep, originate, Findings.story, Findings.seqOf, resource, request, unreached]
    | some event =>
      simp [cascadeStep, originate, Findings.story, Findings.seqOf, resource, request, reach]

end AgentShield.Client
