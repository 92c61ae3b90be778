import AgentShield.Runtime.Session

/-!
What each session operation can do, said once: the state it leaves, in every
case, with the guard of the case. Nothing below unfolds the methods again.
-/
namespace AgentShield.Session
open Schema Events Keyed Policy Coop

inductive Operation where
  | registerWorker (workerId role : String) (upstream : List String) (replaces : Option String)
      (modelBacked : Bool)
  | startWorker (workerId task : String)
  | completeTask (workerId stepName detail : String) (keywords : Keywords)
  | recordModelCall (workerId : String) (call : ModelCall)
  | recordArtifact (artifactId workerId kind summary : String)
  | requestResource (workerId resourcePath : String)
  | quarantine (workerId reason violationType : String)
  | reassign (fromWorkerId toWorkerId role task : String) (upstream : List String)
      (modelBacked : Bool)
  | assertContextIsTrusted (artifactIds : List String)
  | recordTestRun (workerId : String) (passed : Bool) (summary : String) (exitCode : Int)
      (command : String)
  | recover (summary : String)
  | fail (reason : String)

def perform : Operation → Method Unit
  | .registerWorker workerId role upstream replaces modelBacked => do
    let _ ← registerWorker workerId role upstream replaces modelBacked
  | .startWorker workerId task => do
    let _ ← startWorker workerId task
  | .completeTask workerId stepName detail keywords => do
    let _ ← completeTask workerId stepName detail keywords
  | .recordModelCall workerId call => do
    let _ ← recordModelCall workerId call
  | .recordArtifact artifactId workerId kind summary => do
    let _ ← recordArtifact artifactId workerId kind summary
  | .requestResource workerId resourcePath => do
    let _ ← requestResource workerId resourcePath
  | .quarantine workerId reason violationType => do
    let _ ← quarantine workerId reason violationType
  | .reassign fromWorkerId toWorkerId role task upstream modelBacked => do
    let _ ← reassign fromWorkerId toWorkerId role task upstream modelBacked
  | .assertContextIsTrusted artifactIds => assertContextIsTrusted artifactIds
  | .recordTestRun workerId passed summary exitCode command => do
    let _ ← recordTestRun workerId passed summary exitCode command
  | .recover summary => do
    let _ ← recover summary
  | .fail reason => do
    let _ ← fail reason

namespace LiveRuntimeSession

def advanced (s : LiveRuntimeSession) : LiveRuntimeSession := { s with step := s.step + 1 }

def withWorker (s : LiveRuntimeSession) (w : WorkerNode) : LiveRuntimeSession :=
  { s with workers := s.workers.put w }

def starting (s : LiveRuntimeSession) (w : WorkerNode) (task : String) : LiveRuntimeSession :=
  { s with
    workers := s.workers.put { w with currentTask := some task }
    workflowState := if s.workflowState = WorkflowState.idle then .running else s.workflowState }

def calling (s : LiveRuntimeSession) (w : WorkerNode) : LiveRuntimeSession :=
  { s with
    workers := s.workers.put { w with modelBacked := true }
    modelCalls := s.modelCalls + 1 }

def newArtifact (s : LiveRuntimeSession) (artifactId kind summary : String) (w : WorkerNode) :
    Artifact :=
  { id := artifactId, workerId := w.id, kind, summary
    trusted := w.isActive
    taintReason := if w.isActive then none else w.quarantineReason
    step := s.step }

def recording (s : LiveRuntimeSession) (artifactId kind summary : String) (w : WorkerNode) :
    LiveRuntimeSession :=
  { s with artifacts := s.artifacts.put (s.newArtifact artifactId kind summary w) }

def quarantining (s : LiveRuntimeSession) (w : WorkerNode) (reason violationType : String)
    (compromisedBy : Option String) : LiveRuntimeSession :=
  { s with
    workers := s.workers.put (w.quarantine s.step reason compromisedBy)
    artifacts := taintArtifactsOf s.artifacts w.id
      ("Produced by a quarantined worker (" ++ violationType ++ ").")
    attackDetected := true
    recoveryRequired := true
    workflowState := .underAttack }

def quarantinedDraft (s : LiveRuntimeSession) (w : WorkerNode) (reason violationType : String) :
    EventDraft :=
  s.draft .agentQuarantined w.id
    [("legitimate", .bool true), ("violation_type", .str violationType),
      ("reason", .str reason),
      ("tainted_artifacts", .strs ((taintedNow s.artifacts w.id).map Artifact.id)),
      ("recovery_required", .bool true)]

def requestedDraft (s : LiveRuntimeSession) (workerId resourcePath : String) : EventDraft :=
  s.draft .toolRequested workerId (resourceMetadata (.str resourcePath))

def replacing (s : LiveRuntimeSession) (replacement : WorkerNode) : LiveRuntimeSession :=
  { s with
    workers := s.workers.put replacement
    workflowState := .recovering
    recoveryRequired := false }

def reassignedDrafts (s : LiveRuntimeSession) (quarantined : WorkerNode)
    (fromWorkerId toWorkerId role task : String) (modelBacked : Bool) : List EventDraft :=
  [{ s.draft .taskReassigned fromWorkerId
        [("task", .str task), ("reason", .str (handoffReason quarantined))] with
      sourceAgentId := some fromWorkerId
      targetAgentId := some toWorkerId },
    s.draft .agentCreated toWorkerId
      [("role", .str role), ("replaces", .str fromWorkerId), ("model_backed", .bool modelBacked),
        ("trusted_context", .strs ((s.trustedContextFor toWorkerId).map Artifact.id))],
    s.draft .agentStarted toWorkerId
      [("task", .str task), ("context_policy", .str "trusted_artifacts_only")]]

def recovering (s : LiveRuntimeSession) : LiveRuntimeSession :=
  { s with
    workers := s.workers.update WorkerNode.afterRecovery afterRecovery_id
    workflowState := .recovered
    recoveryRequired := false }

def recoveredDraft (s : LiveRuntimeSession) (summary : String) : EventDraft :=
  { simTick := s.step
    eventType := .workflowRecovered
    metadata :=
      [("summary", .str summary), ("attack_detected", .bool s.attackDetected),
        ("quarantined", .strs (quarantinedIds s.workers)),
        ("tests_passed", .ofOption .bool s.testsPassed),
        ("test_summary", .ofOption .str s.testSummary)] }

def failing (s : LiveRuntimeSession) : LiveRuntimeSession := { s with workflowState := .failed }

def stoppedDraft (s : LiveRuntimeSession) (reason : String) : EventDraft :=
  { simTick := s.step
    eventType := .experimentStopped
    metadata := [("reason", .str reason), ("recovered", .bool false)] }

def tested (s : LiveRuntimeSession) (passed : Bool) (summary : String) : LiveRuntimeSession :=
  { s with testSummary := some summary, testsPassed := some passed }

end LiveRuntimeSession
open LiveRuntimeSession

@[simp] theorem draft_eventType (s : LiveRuntimeSession) (eventType : EventType)
    (agentId : String) (metadata : Metadata) :
    (s.draft eventType agentId metadata).eventType = eventType := rfl

@[simp] theorem draft_agentId (s : LiveRuntimeSession) (eventType : EventType)
    (agentId : String) (metadata : Metadata) :
    (s.draft eventType agentId metadata).agentId = some agentId := rfl

@[simp] theorem draft_simTick (s : LiveRuntimeSession) (eventType : EventType)
    (agentId : String) (metadata : Metadata) :
    (s.draft eventType agentId metadata).simTick = s.step := rfl

@[simp] theorem draft_metadata (s : LiveRuntimeSession) (eventType : EventType)
    (agentId : String) (metadata : Metadata) :
    (s.draft eventType agentId metadata).metadata = metadata := rfl

@[simp] theorem recoveredDraft_eventType (s : LiveRuntimeSession) (summary : String) :
    (s.recoveredDraft summary).eventType = .workflowRecovered := rfl

@[simp] theorem stoppedDraft_eventType (s : LiveRuntimeSession) (reason : String) :
    (s.stoppedDraft reason).eventType = .experimentStopped := rfl

theorem publish_run (s : LiveRuntimeSession) (drafts : List EventDraft) :
    (publish drafts).run s = .done (s.published drafts) (.ok (s.emitter.emit drafts).2) := rfl

theorem worker_found {s : LiveRuntimeSession} {workerId : String} {w : WorkerNode}
    (found : s.workers.get? workerId = some w) : (worker workerId).run s = .done s (.ok w) := by
  simp [worker, found]

theorem worker_missing {s : LiveRuntimeSession} {workerId : String}
    (missing : s.workers.get? workerId = none) :
    (worker workerId).run s = .done s (.error (.unknownWorker workerId)) := by
  simp [worker, missing]

theorem quarantineDrafts_run (s : LiveRuntimeSession) (w : WorkerNode)
    (reason violationType : String) (compromisedBy : Option String) :
    (quarantineDrafts w reason violationType compromisedBy).run s =
      .done (s.quarantining w reason violationType compromisedBy)
        (.ok [s.quarantinedDraft w reason violationType]) := rfl

theorem registerWorker_run (s : LiveRuntimeSession) (workerId role : String)
    (upstream : List String) (replaces : Option String) (modelBacked : Bool) :
    ∃ r, (registerWorker workerId role upstream replaces modelBacked).run s =
      .done ((s.advanced.withWorker
          { id := workerId, role, upstream, replaces, modelBacked
            stepRegistered := s.step + 1 }).published
        [s.advanced.draft .agentCreated workerId
          (createdMetadata role modelBacked replaces)]) (.ok r) := ⟨_, rfl⟩

theorem startWorker_run {s : LiveRuntimeSession} {workerId : String} {w : WorkerNode}
    (found : s.workers.get? workerId = some w) (active : w.isActive = true) (task : String) :
    ∃ r, (startWorker workerId task).run s =
      .done ((s.advanced.starting w task).published
        [s.advanced.draft .taskAssigned workerId [("task", .str task)],
          s.advanced.draft .agentStarted workerId [("task", .str task)]]) (.ok r) := by
  simp only [startWorker, bind_apply, worker_found found, bind_ok, active, Bool.true_eq_false,
    ↓reduceIte]
  exact ⟨_, rfl⟩

theorem startWorker_inactive {s : LiveRuntimeSession} {workerId : String} {w : WorkerNode}
    (found : s.workers.get? workerId = some w) (inactive : w.isActive = false) (task : String) :
    (startWorker workerId task).run s = .done s (.error (.unknownWorker
      (workerId ++ " is quarantined and cannot be started"))) := by
  simp only [startWorker, bind_apply, worker_found found, bind_ok, inactive, ↓reduceIte,
    raise_apply]

section
variable {s : LiveRuntimeSession} {workerId stepName detail : String} {keywords : Keywords}
  {draft : EventDraft}

theorem completedDraft_shape
    (drafted : s.completedDraft workerId stepName detail keywords = .ok draft) :
    ∃ sourceAgentId targetAgentId riskScore metadata, draft =
      { s.draft .taskCompleted workerId
          ([("step", .str stepName), ("detail", .str detail)] ++ metadata) with
        sourceAgentId, targetAgentId, riskScore } := by
  unfold completedDraft at drafted
  split at drafted
  · cases drafted
  · split at drafted
    · exact ⟨_, _, _, _, (Except.ok.inj drafted).symm⟩
    · cases drafted

theorem completedDraft_eventType
    (drafted : s.completedDraft workerId stepName detail keywords = .ok draft) :
    draft.eventType = .taskCompleted := by
  obtain ⟨_, _, _, _, rfl⟩ := completedDraft_shape drafted
  rfl

theorem completedDraft_agentId
    (drafted : s.completedDraft workerId stepName detail keywords = .ok draft) :
    draft.agentId = some workerId := by
  obtain ⟨_, _, _, _, rfl⟩ := completedDraft_shape drafted
  rfl

theorem completedDraft_simTick
    (drafted : s.completedDraft workerId stepName detail keywords = .ok draft) :
    draft.simTick = s.step := by
  obtain ⟨_, _, _, _, rfl⟩ := completedDraft_shape drafted
  rfl

end

theorem completedDraft_plain (s : LiveRuntimeSession) (workerId stepName detail : String) :
    s.completedDraft workerId stepName detail .plain =
      .ok (s.draft .taskCompleted workerId [("step", .str stepName), ("detail", .str detail)]) := rfl

theorem completedDraft_testRun (s : LiveRuntimeSession) (workerId summary : String)
    (passed : Bool) (exitCode : Int) (command : String) :
    s.completedDraft workerId "pytest" summary (testRunKeywords passed exitCode command) =
      .ok (s.draft .taskCompleted workerId
        ([("step", .str "pytest"), ("detail", .str summary)] ++
          [("passed", .bool passed), ("exit_code", .int exitCode),
            ("command", .str command)])) := rfl

theorem completeTask_run {s : LiveRuntimeSession} {workerId : String} {w : WorkerNode}
    (found : s.workers.get? workerId = some w) (active : w.isActive = true)
    {stepName detail : String} {keywords : Keywords} {draft : EventDraft}
    (drafted : s.advanced.completedDraft workerId stepName detail keywords = .ok draft) :
    ∃ r, (completeTask workerId stepName detail keywords).run s =
      .done ((s.advanced.withWorker { w with currentTask := none }).published [draft])
        (.ok r) := by
  have made : (s.advanced.withWorker { w with currentTask := none }).completedDraft workerId
      stepName detail keywords = .ok draft := drafted
  simp only [advanced, withWorker] at made
  simp only [completeTask, bind_apply, worker_found found, bind_ok, active, Bool.true_eq_false,
    ↓reduceIte, modifyState_apply, getState_apply, made]
  exact ⟨_, rfl⟩

theorem completeTask_undrafted {s : LiveRuntimeSession} {workerId : String} {w : WorkerNode}
    (found : s.workers.get? workerId = some w) (active : w.isActive = true)
    {stepName detail : String} {keywords : Keywords} {error : RuntimeError}
    (refused : s.advanced.completedDraft workerId stepName detail keywords = .error error) :
    (completeTask workerId stepName detail keywords).run s =
      .done (s.advanced.withWorker { w with currentTask := none }) (.error error) := by
  have unmade : (s.advanced.withWorker { w with currentTask := none }).completedDraft workerId
      stepName detail keywords = .error error := refused
  simp only [advanced, withWorker] at unmade
  simp only [completeTask, bind_apply, worker_found found, bind_ok, active, Bool.true_eq_false,
    ↓reduceIte, modifyState_apply, getState_apply, unmade]
  rfl

theorem completeTask_inactive {s : LiveRuntimeSession} {workerId : String} {w : WorkerNode}
    (found : s.workers.get? workerId = some w) (inactive : w.isActive = false)
    (stepName detail : String) (keywords : Keywords) :
    (completeTask workerId stepName detail keywords).run s = .done s (.error (.unknownWorker
      (workerId ++ " is quarantined; its work is not accepted"))) := by
  simp only [completeTask, bind_apply, worker_found found, bind_ok, inactive, ↓reduceIte,
    raise_apply]

theorem recordModelCall_run {s : LiveRuntimeSession} {workerId : String} {w : WorkerNode}
    (found : s.workers.get? workerId = some w) (call : ModelCall) :
    ∃ r, (recordModelCall workerId call).run s =
      .done ((s.advanced.calling w).published
        [s.advanced.draft .modelRequested workerId call.metadata,
          s.advanced.draft .modelResponded workerId call.metadata]) (.ok r) := by
  simp only [recordModelCall, bind_apply, worker_found found, bind_ok]
  exact ⟨_, rfl⟩

theorem recordArtifact_run {s : LiveRuntimeSession} {workerId : String} {w : WorkerNode}
    (found : s.workers.get? workerId = some w) (artifactId kind summary : String) :
    ∃ r, (recordArtifact artifactId workerId kind summary).run s =
      .done (s.recording artifactId kind summary w) (.ok r) := by
  obtain rfl := Table.get?_key found
  simp only [recordArtifact, bind_apply, worker_found found, bind_ok]
  exact ⟨_, rfl⟩

theorem requestResource_removed {s : LiveRuntimeSession} {workerId : String} {w : WorkerNode}
    (found : s.workers.get? workerId = some w) (inactive : w.isActive = false)
    (resourcePath : String) :
    ∃ r, (requestResource workerId resourcePath).run s =
      .done (s.advanced.published
        [s.advanced.requestedDraft workerId resourcePath,
          s.advanced.draft .toolDenied workerId
            (deniedMetadata resourcePath .quarantinedWorker removedReason)]) (.ok r) ∧
      r.decision = deny .quarantinedWorker removedReason none := by
  simp only [requestResource, bind_apply, worker_found found, bind_ok, modifyState_apply,
    getState_apply, inactive, ↓reduceIte]
  exact ⟨_, rfl, rfl⟩

theorem requestResource_served {s : LiveRuntimeSession} {workerId : String} {w : WorkerNode}
    (found : s.workers.get? workerId = some w) (active : w.isActive = true)
    {resourcePath : String} (allowed : (evaluate (.text resourcePath)).allowed = true) :
    ∃ r, (requestResource workerId resourcePath).run s =
      .done (s.advanced.published
        [s.advanced.requestedDraft workerId resourcePath,
          s.advanced.draft .toolExecuted workerId (resourceMetadata
            (.ofOption .str (evaluate (.text resourcePath)).normalizedPath))]) (.ok r) ∧
      r.decision = evaluate (.text resourcePath) := by
  simp only [requestResource, bind_apply, worker_found found, bind_ok, modifyState_apply,
    getState_apply, active, allowed, Bool.true_eq_false, ↓reduceIte]
  exact ⟨_, rfl, rfl⟩

theorem requestResource_denied {s : LiveRuntimeSession} {workerId : String} {w : WorkerNode}
    (found : s.workers.get? workerId = some w) (active : w.isActive = true)
    {resourcePath : String} (denied : (evaluate (.text resourcePath)).allowed = false) :
    ∃ r, (requestResource workerId resourcePath).run s =
      .done ((s.advanced.quarantining w (evaluate (.text resourcePath)).reason
          (evaluate (.text resourcePath)).rule.text
          (some "demo_target/docs/auth_notes.md")).published
        ([s.advanced.requestedDraft workerId resourcePath] ++
          denyDrafts s.advanced w resourcePath (evaluate (.text resourcePath)) ++
          [s.advanced.quarantinedDraft w (evaluate (.text resourcePath)).reason
            (evaluate (.text resourcePath)).rule.text])) (.ok r) ∧
      r.decision = evaluate (.text resourcePath) := by
  simp only [requestResource, bind_apply, worker_found found, bind_ok, modifyState_apply,
    getState_apply, active, denied, Bool.true_eq_false, Bool.false_eq_true, ↓reduceIte]
  exact ⟨_, rfl, rfl⟩

theorem quarantine_run {s : LiveRuntimeSession} {workerId : String} {w : WorkerNode}
    (found : s.workers.get? workerId = some w) (active : w.isActive = true)
    (reason violationType : String) :
    ∃ r, (quarantine workerId reason violationType).run s =
      .done ((s.advanced.quarantining w reason violationType none).published
        [s.advanced.quarantinedDraft w reason violationType]) (.ok r) := by
  simp only [quarantine, bind_apply, worker_found found, bind_ok, active, Bool.true_eq_false,
    ↓reduceIte]
  exact ⟨_, rfl⟩

theorem quarantine_inactive {s : LiveRuntimeSession} {workerId : String} {w : WorkerNode}
    (found : s.workers.get? workerId = some w) (inactive : w.isActive = false)
    (reason violationType : String) :
    (quarantine workerId reason violationType).run s = .done s (.ok []) := by
  simp only [quarantine, bind_apply, worker_found found, bind_ok, inactive, ↓reduceIte,
    pure_apply]

theorem reassign_run {s : LiveRuntimeSession} {fromWorkerId : String} {w : WorkerNode}
    (found : s.workers.get? fromWorkerId = some w) (toWorkerId role task : String)
    (upstream : List String) (modelBacked : Bool) :
    ∃ r, (reassign fromWorkerId toWorkerId role task upstream modelBacked).run s =
      .done ((s.advanced.replacing
          { id := toWorkerId, role, upstream
            replaces := some fromWorkerId
            modelBacked
            stepRegistered := s.step + 1
            currentTask := some task }).published
        (s.advanced.reassignedDrafts w fromWorkerId toWorkerId role task modelBacked))
        (.ok r) := by
  simp only [reassign, bind_apply, worker_found found, bind_ok]
  exact ⟨_, rfl⟩

theorem recover_run (s : LiveRuntimeSession) (summary : String) :
    ∃ r, (recover summary).run s =
      .done (s.advanced.recovering.published
        (recoveredDrafts s.advanced s.workers.values ++
          [s.advanced.recovering.recoveredDraft summary])) (.ok r) := ⟨_, rfl⟩

theorem fail_run (s : LiveRuntimeSession) (reason : String) :
    ∃ r, (fail reason).run s =
      .done (s.advanced.failing.published [s.advanced.stoppedDraft reason]) (.ok r) := ⟨_, rfl⟩

theorem assertContextIsTrusted_run (s : LiveRuntimeSession) (artifactIds : List String) :
    ∃ r, (assertContextIsTrusted artifactIds).run s = .done s r ∧
      (r = .ok () → ∀ artifactId ∈ artifactIds, ∃ artifact,
        s.artifacts.get? artifactId = some artifact ∧ artifact.trusted = true) := by
  induction artifactIds with
  | nil => exact ⟨_, rfl, by simp⟩
  | cons artifactId rest ih =>
    simp only [assertContextIsTrusted, bind_apply, getState_apply, bind_ok]
    cases found : s.artifacts.get? artifactId with
    | none => exact ⟨_, rfl, by simp⟩
    | some artifact =>
      by_cases trusted : artifact.trusted = true
      · obtain ⟨r, run, accepted⟩ := ih
        simp only [trusted, Bool.true_eq_false, ↓reduceIte]
        refine ⟨r, run, ?_⟩
        intro ok other member
        rcases List.mem_cons.mp member with same | later
        · subst same
          exact ⟨artifact, found, trusted⟩
        · exact accepted ok other later
      · simp only [Bool.eq_false_iff.mpr trusted, ↓reduceIte]
        exact ⟨_, rfl, by simp⟩

inductive Effect (s : LiveRuntimeSession) :
    Operation → LiveRuntimeSession → List EventDraft → Prop where
  | unchanged (op : Operation) : Effect s op s []
  | registered (workerId role : String) (upstream : List String) (replaces : Option String)
      (modelBacked : Bool) :
      Effect s (.registerWorker workerId role upstream replaces modelBacked)
        (s.advanced.withWorker
          { id := workerId, role, upstream, replaces, modelBacked
            stepRegistered := s.step + 1 })
        [s.advanced.draft .agentCreated workerId (createdMetadata role modelBacked replaces)]
  | started {workerId : String} {w : WorkerNode} (found : s.workers.get? workerId = some w)
      (active : w.isActive = true) (task : String) :
      Effect s (.startWorker workerId task) (s.advanced.starting w task)
        [s.advanced.draft .taskAssigned workerId [("task", .str task)],
          s.advanced.draft .agentStarted workerId [("task", .str task)]]
  | completed {workerId : String} {w : WorkerNode} (found : s.workers.get? workerId = some w)
      (active : w.isActive = true) {stepName detail : String} {keywords : Keywords}
      {draft : EventDraft}
      (drafted : s.advanced.completedDraft workerId stepName detail keywords = .ok draft) :
      Effect s (.completeTask workerId stepName detail keywords)
        (s.advanced.withWorker { w with currentTask := none }) [draft]
  | undrafted {workerId : String} {w : WorkerNode} (found : s.workers.get? workerId = some w)
      (active : w.isActive = true) {stepName detail : String} {keywords : Keywords}
      {error : RuntimeError}
      (refused : s.advanced.completedDraft workerId stepName detail keywords = .error error) :
      Effect s (.completeTask workerId stepName detail keywords)
        (s.advanced.withWorker { w with currentTask := none }) []
  | called {workerId : String} {w : WorkerNode} (found : s.workers.get? workerId = some w)
      (call : ModelCall) :
      Effect s (.recordModelCall workerId call) (s.advanced.calling w)
        [s.advanced.draft .modelRequested workerId call.metadata,
          s.advanced.draft .modelResponded workerId call.metadata]
  | recorded {workerId : String} {w : WorkerNode} (found : s.workers.get? workerId = some w)
      (artifactId kind summary : String) :
      Effect s (.recordArtifact artifactId workerId kind summary)
        (s.recording artifactId kind summary w) []
  | refused {workerId : String} {w : WorkerNode} (found : s.workers.get? workerId = some w)
      (inactive : w.isActive = false) (resourcePath : String) :
      Effect s (.requestResource workerId resourcePath) s.advanced
        [s.advanced.requestedDraft workerId resourcePath,
          s.advanced.draft .toolDenied workerId
            (deniedMetadata resourcePath .quarantinedWorker removedReason)]
  | served {workerId : String} {w : WorkerNode} (found : s.workers.get? workerId = some w)
      (active : w.isActive = true) {resourcePath : String}
      (allowed : (evaluate (.text resourcePath)).allowed = true) :
      Effect s (.requestResource workerId resourcePath) s.advanced
        [s.advanced.requestedDraft workerId resourcePath,
          s.advanced.draft .toolExecuted workerId (resourceMetadata
            (.ofOption .str (evaluate (.text resourcePath)).normalizedPath))]
  | denied {workerId : String} {w : WorkerNode} (found : s.workers.get? workerId = some w)
      (active : w.isActive = true) {resourcePath : String}
      (denied : (evaluate (.text resourcePath)).allowed = false) :
      Effect s (.requestResource workerId resourcePath)
        (s.advanced.quarantining w (evaluate (.text resourcePath)).reason
          (evaluate (.text resourcePath)).rule.text (some "demo_target/docs/auth_notes.md"))
        ([s.advanced.requestedDraft workerId resourcePath] ++
          denyDrafts s.advanced w resourcePath (evaluate (.text resourcePath)) ++
          [s.advanced.quarantinedDraft w (evaluate (.text resourcePath)).reason
            (evaluate (.text resourcePath)).rule.text])
  | quarantined {workerId : String} {w : WorkerNode} (found : s.workers.get? workerId = some w)
      (active : w.isActive = true) (reason violationType : String) :
      Effect s (.quarantine workerId reason violationType)
        (s.advanced.quarantining w reason violationType none)
        [s.advanced.quarantinedDraft w reason violationType]
  | reassigned {fromWorkerId : String} {w : WorkerNode}
      (found : s.workers.get? fromWorkerId = some w) (toWorkerId role task : String)
      (upstream : List String) (modelBacked : Bool) :
      Effect s (.reassign fromWorkerId toWorkerId role task upstream modelBacked)
        (s.advanced.replacing
          { id := toWorkerId, role, upstream
            replaces := some fromWorkerId
            modelBacked
            stepRegistered := s.step + 1
            currentTask := some task })
        (s.advanced.reassignedDrafts w fromWorkerId toWorkerId role task modelBacked)
  | testRejected (workerId : String) (passed : Bool) (summary : String) (exitCode : Int)
      (command : String) :
      Effect s (.recordTestRun workerId passed summary exitCode command)
        (s.tested passed summary) []
  | tested {workerId : String} {w : WorkerNode} (found : s.workers.get? workerId = some w)
      (active : w.isActive = true) (passed : Bool) (summary : String) (exitCode : Int)
      (command : String) :
      Effect s (.recordTestRun workerId passed summary exitCode command)
        ((s.tested passed summary).advanced.withWorker { w with currentTask := none })
        [s.advanced.draft .taskCompleted workerId
          ([("step", .str "pytest"), ("detail", .str summary)] ++
            [("passed", .bool passed), ("exit_code", .int exitCode),
              ("command", .str command)])]
  | recovered (summary : String) :
      Effect s (.recover summary) s.advanced.recovering
        (recoveredDrafts s.advanced s.workers.values ++
          [s.advanced.recovering.recoveredDraft summary])
  | failed (reason : String) :
      Effect s (.fail reason) s.advanced.failing [s.advanced.stoppedDraft reason]

theorem forall_recovered {P : EventDraft → Prop} {s s' : LiveRuntimeSession}
    {workers : List WorkerNode} {summary : String}
    (each : ∀ w : WorkerNode,
      P (s.draft .agentRecovered w.id [("replaces", .ofOption .str w.replaces)]))
    (last : P (s'.recoveredDraft summary)) :
    ∀ d ∈ recoveredDrafts s workers ++ [s'.recoveredDraft summary], P d := by
  intro d member
  rcases List.mem_append.mp member with one | final
  · obtain ⟨w, _, rfl⟩ := List.mem_map.mp one
    exact each w
  · obtain rfl := List.mem_singleton.mp final
    exact last

theorem effect_bus {s body : LiveRuntimeSession} {op : Operation} {drafts : List EventDraft}
    (effect : Effect s op body drafts) : body.bus = s.bus ∧ body.emitter = s.emitter := by
  cases effect <;> exact ⟨rfl, rfl⟩

@[simp] theorem published_log (s : LiveRuntimeSession) (drafts : List EventDraft) :
    (s.published drafts).log =
      s.log ++ number s.emitter.experimentId s.emitter.nextSeq drafts :=
  publish_published s.bus _

/- Every operation appends the drafts it publishes, numbered on, and nothing else. -/
theorem effect_log {s body : LiveRuntimeSession} {op : Operation} {drafts : List EventDraft}
    (effect : Effect s op body drafts) :
    (body.published drafts).log =
      s.log ++ number s.emitter.experimentId s.emitter.nextSeq drafts := by
  obtain ⟨bus, emitter⟩ := effect_bus effect
  rw [published_log, emitter, LiveRuntimeSession.log, bus]
  rfl

theorem effect_appends {s body : LiveRuntimeSession} {op : Operation} {drafts : List EventDraft}
    (effect : Effect s op body drafts) :
    ∃ events, (body.published drafts).log = s.log ++ events ∧
      ∀ e ∈ events, e.toEventDraft ∈ drafts :=
  ⟨_, effect_log effect, fun _ => number_member⟩

theorem exec_performed {α : Type} {c : Method α} {s s' : LiveRuntimeSession}
    {r : Except RuntimeError α} (run : c.run s = .done s' r) :
    exec (do let _ ← c) s = s' :=
  (exec_dropped c s).trans (atomic_exec run)

theorem exec_missing {α : Type} {s : LiveRuntimeSession} {workerId : String}
    (missing : s.workers.get? workerId = none) (next : WorkerNode → Method α) :
    exec (do let _ ← (worker workerId >>= next)) s = s :=
  exec_performed (r := .error (.unknownWorker workerId))
    (by rw [bind_apply, worker_missing missing, bind_error])

theorem perform_effect (op : Operation) (s : LiveRuntimeSession) :
    ∃ body drafts, Effect s op body drafts ∧ exec (perform op) s = body.published drafts := by
  cases op with
  | registerWorker workerId role upstream replaces modelBacked =>
    obtain ⟨r, run⟩ := registerWorker_run s workerId role upstream replaces modelBacked
    rw [perform, exec_performed run]
    exact ⟨_, _, .registered workerId role upstream replaces modelBacked, rfl⟩
  | startWorker workerId task =>
    cases found : s.workers.get? workerId with
    | none =>
      rw [perform, startWorker, exec_missing found]
      exact ⟨_, _, .unchanged _, rfl⟩
    | some w =>
      cases active : w.isActive with
      | false =>
        rw [perform, exec_performed (startWorker_inactive found active task)]
        exact ⟨_, _, .unchanged _, rfl⟩
      | true =>
        obtain ⟨r, run⟩ := startWorker_run found active task
        rw [perform, exec_performed run]
        exact ⟨_, _, .started found active task, rfl⟩
  | completeTask workerId stepName detail keywords =>
    cases found : s.workers.get? workerId with
    | none =>
      rw [perform, completeTask, exec_missing found]
      exact ⟨_, _, .unchanged _, rfl⟩
    | some w =>
      cases active : w.isActive with
      | false =>
        rw [perform, exec_performed (completeTask_inactive found active stepName detail keywords)]
        exact ⟨_, _, .unchanged _, rfl⟩
      | true =>
        cases made : s.advanced.completedDraft workerId stepName detail keywords with
        | ok draft =>
          obtain ⟨r, run⟩ := completeTask_run found active made
          rw [perform, exec_performed run]
          exact ⟨_, _, .completed found active made, rfl⟩
        | error error =>
          rw [perform, exec_performed (completeTask_undrafted found active made)]
          exact ⟨_, _, .undrafted found active made, rfl⟩
  | recordModelCall workerId call =>
    cases found : s.workers.get? workerId with
    | none =>
      rw [perform, recordModelCall, exec_missing found]
      exact ⟨_, _, .unchanged _, rfl⟩
    | some w =>
      obtain ⟨r, run⟩ := recordModelCall_run found call
      rw [perform, exec_performed run]
      exact ⟨_, _, .called found call, rfl⟩
  | recordArtifact artifactId workerId kind summary =>
    cases found : s.workers.get? workerId with
    | none =>
      rw [perform, recordArtifact, exec_missing found]
      exact ⟨_, _, .unchanged _, rfl⟩
    | some w =>
      obtain ⟨r, run⟩ := recordArtifact_run found artifactId kind summary
      rw [perform, exec_performed run]
      exact ⟨_, _, .recorded found artifactId kind summary, rfl⟩
  | requestResource workerId resourcePath =>
    cases found : s.workers.get? workerId with
    | none =>
      rw [perform, requestResource, exec_missing found]
      exact ⟨_, _, .unchanged _, rfl⟩
    | some w =>
      cases active : w.isActive with
      | false =>
        obtain ⟨r, run, _⟩ := requestResource_removed found active resourcePath
        rw [perform, exec_performed run]
        exact ⟨_, _, .refused found active resourcePath, rfl⟩
      | true =>
        cases allowed : (evaluate (.text resourcePath)).allowed with
        | true =>
          obtain ⟨r, run, _⟩ := requestResource_served found active allowed
          rw [perform, exec_performed run]
          exact ⟨_, _, .served found active allowed, rfl⟩
        | false =>
          obtain ⟨r, run, _⟩ := requestResource_denied found active allowed
          rw [perform, exec_performed run]
          exact ⟨_, _, .denied found active allowed, rfl⟩
  | quarantine workerId reason violationType =>
    cases found : s.workers.get? workerId with
    | none =>
      rw [perform, quarantine, exec_missing found]
      exact ⟨_, _, .unchanged _, rfl⟩
    | some w =>
      cases active : w.isActive with
      | false =>
        rw [perform, exec_performed (quarantine_inactive found active reason violationType)]
        exact ⟨_, _, .unchanged _, rfl⟩
      | true =>
        obtain ⟨r, run⟩ := quarantine_run found active reason violationType
        rw [perform, exec_performed run]
        exact ⟨_, _, .quarantined found active reason violationType, rfl⟩
  | reassign fromWorkerId toWorkerId role task upstream modelBacked =>
    cases found : s.workers.get? fromWorkerId with
    | none =>
      rw [perform, reassign, exec_missing found]
      exact ⟨_, _, .unchanged _, rfl⟩
    | some w =>
      obtain ⟨r, run⟩ := reassign_run found toWorkerId role task upstream modelBacked
      rw [perform, exec_performed run]
      exact ⟨_, _, .reassigned found toWorkerId role task upstream modelBacked, rfl⟩
  | assertContextIsTrusted artifactIds =>
    obtain ⟨r, run, _⟩ := assertContextIsTrusted_run s artifactIds
    rw [perform, atomic_exec run]
    exact ⟨_, _, .unchanged _, rfl⟩
  | recordTestRun workerId passed summary exitCode command =>
    have first : (recordTestRun workerId passed summary exitCode command).run s =
        (completeTask workerId "pytest" summary (testRunKeywords passed exitCode command)).run
          (s.tested passed summary) := rfl
    cases found : (s.tested passed summary).workers.get? workerId with
    | none =>
      have rejected := first
      rw [completeTask, bind_apply, worker_missing found, bind_error] at rejected
      rw [perform, exec_performed rejected]
      exact ⟨_, _, .testRejected workerId passed summary exitCode command, rfl⟩
    | some w =>
      cases active : w.isActive with
      | false =>
        have rejected := completeTask_inactive found active "pytest" summary
          (testRunKeywords passed exitCode command)
        rw [perform, exec_performed (first.trans rejected)]
        exact ⟨_, _, .testRejected workerId passed summary exitCode command, rfl⟩
      | true =>
        obtain ⟨r, run⟩ := completeTask_run found active
          (completedDraft_testRun _ workerId summary passed exitCode command)
        rw [perform, exec_performed (first.trans run)]
        exact ⟨_, _, Effect.tested (s := s) found active passed summary exitCode command, rfl⟩
  | recover summary =>
    obtain ⟨r, run⟩ := recover_run s summary
    rw [perform, exec_performed run]
    exact ⟨_, _, .recovered summary, rfl⟩
  | fail reason =>
    obtain ⟨r, run⟩ := fail_run s reason
    rw [perform, exec_performed run]
    exact ⟨_, _, .failed reason, rfl⟩

end AgentShield.Session
