import AgentShield.Runtime.Requests

/-!
The security state as a fold of the published log. The session mutates first and
publishes afterwards; the fold reads the log alone and arrives at the same
states, flags and workflow state after every operation.
-/
namespace AgentShield.LogFold
open Schema Events Keyed Policy Coop Session LiveRuntimeSession Routes Resources

structure SecurityView where
  states : String → Option SecurityState
  workflowState : WorkflowState
  attackDetected : Bool
  recoveryRequired : Bool

def statesOf (workers : Table WorkerNode.id) (id : String) : Option SecurityState :=
  (workers.get? id).map WorkerNode.securityState

def viewOf (s : LiveRuntimeSession) : SecurityView :=
  { states := statesOf s.workers
    workflowState := s.workflowState
    attackDetected := s.attackDetected
    recoveryRequired := s.recoveryRequired }

def initialView : SecurityView :=
  { states := fun _ => none
    workflowState := .idle
    attackDetected := false
    recoveryRequired := false }

def mark (states : String → Option SecurityState) (agentId : Option String)
    (state : SecurityState) : String → Option SecurityState :=
  fun id => if agentId = some id then some state else states id

/-- What one published event says about the security state. -/
def applyEvent (v : SecurityView) (e : EventDraft) : SecurityView :=
  match e.eventType with
  | .agentCreated => { v with states := mark v.states e.agentId .healthy }
  | .agentQuarantined =>
    { states := mark v.states e.agentId .quarantined
      workflowState := .underAttack
      attackDetected := true
      recoveryRequired := true }
  | .taskReassigned => { v with workflowState := .recovering, recoveryRequired := false }
  | .agentRecovered => { v with states := mark v.states e.agentId .recovered }
  | .workflowRecovered => { v with workflowState := .recovered, recoveryRequired := false }
  | .experimentStopped => { v with workflowState := .failed }
  | .taskAssigned =>
    { v with workflowState := if v.workflowState = .idle then .running else v.workflowState }
  | _ => v

def foldLog (log : List Event) : SecurityView :=
  (log.map Event.toEventDraft).foldl applyEvent initialView

theorem states_put (workers : Table WorkerNode.id) (w : WorkerNode) :
    statesOf (workers.put w) = mark (statesOf workers) (some w.id) w.securityState := by
  funext id
  simp only [statesOf, mark, Table.get?_put, Option.some.injEq]
  by_cases same : w.id = id
  · rw [if_pos same.symm, if_pos same]
    rfl
  · rw [if_neg (Ne.symm same), if_neg same]

theorem states_put_same {workers : Table WorkerNode.id} {workerId : String} {old w : WorkerNode}
    (found : workers.get? workerId = some old) (id : w.id = old.id)
    (state : w.securityState = old.securityState) :
    statesOf (workers.put w) = statesOf workers := by
  rw [states_put]
  funext other
  simp only [mark, Option.some.injEq]
  split
  · rename_i same
    have here : old.id = workerId := Table.get?_key found
    rw [← same, id, here, statesOf, found, state]
    rfl
  · rfl

theorem fold_recovered (s : LiveRuntimeSession) (workers : List WorkerNode) (v : SecurityView) :
    (recoveredDrafts s workers).foldl applyEvent v =
      { v with states := fun id =>
          if ∃ w ∈ workers, w.id = id ∧ w.recovers = true then some .recovered
          else v.states id } := by
  induction workers generalizing v with
  | nil => simp [recoveredDrafts]
  | cons w rest ih =>
    by_cases recovers : w.recovers = true
    · have head : recoveredDrafts s (w :: rest) =
          s.draft .agentRecovered w.id [("replaces", .ofOption .str w.replaces)] ::
            recoveredDrafts s rest := by
        simp [recoveredDrafts, recovers]
      rw [head, List.foldl_cons, ih]
      simp only [applyEvent, draft_eventType, draft_agentId, mark, SecurityView.mk.injEq, and_true]
      funext id
      by_cases later : ∃ w ∈ rest, w.id = id ∧ w.recovers = true
      · simp [later]
      · by_cases same : w.id = id
        · simp [later, same, recovers]
        · simp [later, same]
    · have head : recoveredDrafts s (w :: rest) = recoveredDrafts s rest := by
        simp [recoveredDrafts, recovers]
      rw [head, ih]
      simp [recovers]

theorem states_recovering (workers : Table WorkerNode.id) :
    statesOf (workers.update WorkerNode.afterRecovery afterRecovery_id) =
    fun id => if ∃ w ∈ workers.values, w.id = id ∧ w.recovers = true then some .recovered
      else statesOf workers id := by
  funext id
  rw [statesOf, statesOf, Table.get?_update]
  cases found : workers.get? id with
  | none =>
    rw [if_neg]
    · rfl
    · rintro ⟨w, member, rfl, _⟩
      rw [Table.get?_of_member member] at found
      cases found
  | some w =>
    by_cases recovers : w.recovers = true
    · rw [if_pos ⟨w, Table.get?_member found, Table.get?_key found, recovers⟩]
      simp [WorkerNode.afterRecovery, recovers]
    · rw [if_neg]
      · simp [WorkerNode.afterRecovery, recovers]
      · rintro ⟨other, member, rfl, yes⟩
        rw [Table.get?_of_member member] at found
        obtain rfl := Option.some.inj found
        exact recovers yes

/- One operation: the drafts it publishes say what it did. -/
theorem view_step {s body : LiveRuntimeSession} {op : Operation} {drafts : List EventDraft}
    (effect : Effect s op body drafts) : viewOf body = drafts.foldl applyEvent (viewOf s) := by
  cases effect with
  | unchanged => rfl
  | registered =>
    simp [viewOf, withWorker, advanced, states_put, applyEvent]
  | started found =>
    simp only [viewOf, starting, advanced, states_put_same found, applyEvent, List.foldl_cons,
      List.foldl_nil, draft_eventType]
    rfl
  | completed found active drafted =>
    simp [viewOf, withWorker, advanced, states_put_same found, applyEvent,
      completedDraft_eventType drafted]
  | undrafted found => simp [viewOf, withWorker, advanced, states_put_same found]
  | called found =>
    simp [viewOf, calling, advanced, states_put_same found, applyEvent]
  | recorded => rfl
  | refused => rfl
  | served => rfl
  | denied =>
    simp [viewOf, quarantining, advanced, states_put, applyEvent, requestedDraft, denyDrafts,
      quarantinedDraft, WorkerNode.quarantine]
  | quarantined =>
    simp [viewOf, quarantining, advanced, states_put, applyEvent, quarantinedDraft,
      WorkerNode.quarantine]
  | reassigned =>
    simp [viewOf, replacing, advanced, states_put, applyEvent, reassignedDrafts]
  | testRejected => rfl
  | tested found =>
    simp [viewOf, withWorker, advanced, tested, states_put_same found, applyEvent]
  | recovered =>
    rw [List.foldl_append, fold_recovered]
    simp only [viewOf, recovering, advanced, states_recovering, List.foldl_cons, List.foldl_nil,
      applyEvent, recoveredDraft_eventType]
  | failed => rfl

theorem foldLog_append (log : List Event) (experimentId : Uuid) (seq : Nat)
    (drafts : List EventDraft) :
    foldLog (log ++ number experimentId seq drafts) = drafts.foldl applyEvent (foldLog log) := by
  rw [foldLog, List.map_append, List.foldl_append, number_drafts, foldLog]

theorem calls_mirrored (disk : Disk) (root : Path) (sessionId : Uuid) (objective : String)
    (calls : List Call) :
    let s := serial (call disk root) (LiveRuntimeSession.new sessionId objective) calls
    viewOf s = foldLog s.log := by
  refine serial_call_invariant (fun s => viewOf s = foldLog s.log) rfl ?_ disk root calls
  intro s op body drafts mirrored effect
  have step := view_step effect
  rw [effect_log effect, foldLog_append, ← mirrored]
  exact step

theorem operations_as_calls (disk : Disk) (root : Path) (s : LiveRuntimeSession)
    (ops : List Operation) :
    serial perform s ops = serial (call disk root) s (ops.map Call.operation) := by
  induction ops generalizing s with
  | nil => rfl
  | cons op rest ih =>
    have head : exec (call disk root (.operation op)) s = exec (perform op) s :=
      exec_translate noExcept (perform op) s
    rw [List.map_cons, serial, serial, List.foldl_cons, List.foldl_cons, head]
    exact ih (exec (perform op) s)

/-- After every sequence of operations the security states, the workflow state and the two
    flags are the fold of the published log, so equal logs end in equal security states. -/
theorem security_state_is_log_fold (sessionId : Uuid) (objective : String)
    (ops : List Operation) :
    viewOf (serial perform (LiveRuntimeSession.new sessionId objective) ops) =
      foldLog (serial perform (LiveRuntimeSession.new sessionId objective) ops).log ∧
    ∀ (sessionId' : Uuid) (objective' : String) (ops' : List Operation),
      (serial perform (LiveRuntimeSession.new sessionId' objective') ops').log =
        (serial perform (LiveRuntimeSession.new sessionId objective) ops).log →
      viewOf (serial perform (LiveRuntimeSession.new sessionId' objective') ops') =
        viewOf (serial perform (LiveRuntimeSession.new sessionId objective) ops) := by
  have mirrored : ∀ sessionId objective ops,
      viewOf (serial perform (LiveRuntimeSession.new sessionId objective) ops) =
        foldLog (serial perform (LiveRuntimeSession.new sessionId objective) ops).log := by
    intro sessionId objective ops
    rw [operations_as_calls (fun _ => none) []]
    exact calls_mirrored (fun _ => none) [] sessionId objective (ops.map Call.operation)
  refine ⟨mirrored sessionId objective ops, ?_⟩
  intro sessionId' objective' ops' same
  rw [mirrored sessionId' objective' ops', same, ← mirrored sessionId objective ops]

end AgentShield.LogFold
