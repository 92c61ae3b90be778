import AgentShield.Runtime.Requests

/-!
Quarantine over whole runs of HTTP requests. Every operation but two refuses to
touch a quarantined worker or leaves it quarantined; registering its id again
and naming it as a replacement put a fresh, healthy worker under that id.
-/
namespace AgentShield.Quarantine
open Schema Events Keyed Coop Session LiveRuntimeSession Routes Resources

def Quarantined (id : String) (s : LiveRuntimeSession) : Prop :=
  ∃ w, s.workers.get? id = some w ∧ w.securityState = .quarantined

def actionTypes : List EventType :=
  [.taskAssigned, .agentStarted, .taskCompleted, .modelRequested, .toolExecuted]

/-- The event records an action of the worker `id`. -/
def ActionOf (id : String) (d : EventDraft) : Prop :=
  d.agentId = some id ∧ d.eventType ∈ actionTypes

/-- The request registers the id again, or is an accepted hand-over to the id. -/
def Reregisters (id : String) (s : LiveRuntimeSession) : Request → Prop
  | .registerWorker spec => spec.id = id
  | .reassign fromWorkerId toWorker _ contextArtifactIds =>
    toWorker.id = id ∧ s.workers.Has fromWorkerId ∧
      ∀ artifactId ∈ contextArtifactIds, ∃ artifact,
        s.artifacts.get? artifactId = some artifact ∧ artifact.trusted = true
  | _ => False

/- The operations that check nothing themselves must not name the id. -/
def Spares (id : String) : Operation → Prop
  | .registerWorker workerId _ _ _ _ => workerId ≠ id
  | .recordModelCall workerId _ => workerId ≠ id
  | .reassign _ toWorkerId _ _ _ _ => toWorkerId ≠ id
  | _ => True

theorem active_iff (w : WorkerNode) : w.isActive = true ↔ w.securityState ≠ .quarantined := by
  simp [WorkerNode.isActive]

theorem active_other {s : LiveRuntimeSession} {id workerId : String} {w : WorkerNode}
    (quarantined : Quarantined id s) (found : s.workers.get? workerId = some w)
    (active : w.isActive = true) : workerId ≠ id := by
  obtain ⟨old, here, state⟩ := quarantined
  intro same
  rw [same, here] at found
  obtain rfl := Option.some.inj found
  exact (active_iff old).mp active state

theorem put_other {s body : LiveRuntimeSession} {id : String} {w : WorkerNode}
    (quarantined : Quarantined id s) (stored : body.workers = s.workers.put w)
    (other : w.id ≠ id) : Quarantined id body := by
  obtain ⟨old, here, state⟩ := quarantined
  refine ⟨old, ?_, state⟩
  rw [stored, Table.get?_put, if_neg other.symm, here]

theorem put_quarantined {s body : LiveRuntimeSession} {id : String} {w : WorkerNode}
    (quarantined : Quarantined id s) (stored : body.workers = s.workers.put w)
    (state : w.securityState = .quarantined) : Quarantined id body := by
  by_cases same : w.id = id
  · refine ⟨w, ?_, state⟩
    rw [stored, Table.get?_put, if_pos same.symm]
  · exact put_other quarantined stored same

theorem recovering_keeps {s : LiveRuntimeSession} {id : String} (quarantined : Quarantined id s) :
    Quarantined id s.recovering := by
  obtain ⟨old, here, state⟩ := quarantined
  have inactive : old.recovers = false := by
    simp [WorkerNode.recovers, WorkerNode.isActive, state]
  refine ⟨old, ?_, state⟩
  rw [LiveRuntimeSession.recovering, Table.get?_update, here]
  simp [WorkerNode.afterRecovery, inactive]

theorem quarantined_step {s body : LiveRuntimeSession} {op : Operation}
    {drafts : List EventDraft} {id : String} (effect : Effect s op body drafts)
    (quarantined : Quarantined id s) (spares : Spares id op) :
    Quarantined id body ∧ ∀ d ∈ drafts, ¬ ActionOf id d := by
  cases effect with
  | unchanged => exact ⟨quarantined, by simp⟩
  | registered workerId role upstream replaces modelBacked =>
    have other : workerId ≠ id := spares
    exact ⟨put_other quarantined rfl other, by simp [ActionOf, other]⟩
  | @started workerId w found active task =>
    have other := active_other quarantined found active
    exact ⟨put_other quarantined rfl (Table.get?_key found ▸ other), by simp [ActionOf, other]⟩
  | @completed workerId w found active _ _ _ _ drafted =>
    have other := active_other quarantined found active
    exact ⟨put_other quarantined rfl (Table.get?_key found ▸ other),
      by simp [ActionOf, completedDraft_agentId drafted, other]⟩
  | undrafted found active =>
    have other := active_other quarantined found active
    exact ⟨put_other quarantined rfl (Table.get?_key found ▸ other), by simp⟩
  | @called workerId w found call =>
    have other : workerId ≠ id := spares
    exact ⟨put_other quarantined rfl (Table.get?_key found ▸ other), by simp [ActionOf, other]⟩
  | recorded => exact ⟨quarantined, by simp⟩
  | refused => exact ⟨quarantined, by simp [ActionOf, actionTypes, requestedDraft]⟩
  | @served workerId w found active =>
    have other := active_other quarantined found active
    exact ⟨quarantined, by simp [ActionOf, requestedDraft, other]⟩
  | denied =>
    refine ⟨put_quarantined quarantined rfl rfl, ?_⟩
    simp [ActionOf, actionTypes, requestedDraft, denyDrafts, quarantinedDraft]
  | quarantined =>
    refine ⟨put_quarantined quarantined rfl rfl, ?_⟩
    simp [ActionOf, actionTypes, quarantinedDraft]
  | reassigned found toWorkerId role task upstream modelBacked =>
    have other : toWorkerId ≠ id := spares
    exact ⟨put_other quarantined rfl other, by simp [ActionOf, actionTypes, reassignedDrafts, other]⟩
  | testRejected => exact ⟨quarantined, by simp⟩
  | @tested workerId w found active passed summary exitCode command =>
    have other := active_other quarantined found active
    exact ⟨put_other quarantined rfl (Table.get?_key found ▸ other), by simp [ActionOf, other]⟩
  | recovered =>
    refine ⟨recovering_keeps quarantined, ?_⟩
    exact forall_recovered (by simp [ActionOf, actionTypes]) (by simp [ActionOf, actionTypes])
  | failed => exact ⟨quarantined, by simp [ActionOf, actionTypes]⟩

theorem issued_spares {s : LiveRuntimeSession} {id : String} {request : Request} {op : Operation}
    (issues : Issues s request op) (quarantined : Quarantined id s)
    (kept : ¬ Reregisters id s request) : Spares id op := by
  cases issues with
  | registerWorker spec => exact kept
  | recordModelCall found active call => exact active_other quarantined found active
  | reassign registered toWorker task trusted =>
    intro same
    exact kept ⟨same, registered, trusted⟩
  | _ => trivial

/-- A quarantined id stays quarantined, and never acts again, in every run of requests
    none of which registers it again while it is quarantined. -/
theorem quarantine_permanent_unless_reregistered (disk : Disk) (root : Path) (sessionId : Uuid)
    (objective id : String) (before after : List Request)
    (quarantined : Quarantined id
      (serial (handle disk root) (LiveRuntimeSession.new sessionId objective) before))
    (kept : ∀ first request rest, after = first ++ request :: rest →
      ¬ Reregisters id (serial (handle disk root) (LiveRuntimeSession.new sessionId objective)
        (before ++ first)) request) :
    Quarantined id
      (serial (handle disk root) (LiveRuntimeSession.new sessionId objective)
        (before ++ after)) ∧
    ∃ events,
      (serial (handle disk root) (LiveRuntimeSession.new sessionId objective)
        (before ++ after)).log =
      (serial (handle disk root) (LiveRuntimeSession.new sessionId objective) before).log ++
        events ∧
      ∀ e ∈ events, ¬ ActionOf id e.toEventDraft := by
  simp only [serial_append] at kept ⊢
  apply requests_keep disk root (Quarantined id) (fun s request => ¬ Reregisters id s request)
    (ActionOf id) ?_ quarantined after kept
  intro s request op body drafts holds meets issues effect
  have step := quarantined_step effect holds (issued_spares issues holds meets)
  exact step

def writer : WorkerSpec := { id := "writer", role := "developer" }

theorem denied_writer_stays_quarantined :
    Quarantined "writer"
      (serial (handle (fun _ => none) []) (LiveRuntimeSession.new 0 "objective")
        ([.registerWorker writer, .requestResource "writer" "" true] ++
          [.startTask "writer" "task"])) := by
  have permanent := quarantine_permanent_unless_reregistered (fun _ => none) [] 0 "objective"
    "writer" [.registerWorker writer, .requestResource "writer" "" true]
    [.startTask "writer" "task"] ⟨_, rfl, rfl⟩
  apply (permanent ?_).1
  intro first request rest split
  cases first with
  | nil =>
    obtain ⟨rfl, _⟩ := List.cons.inj split
    exact fun reregisters => reregisters
  | cons head tail => simp at split

/-- Registering the quarantined id again makes it healthy, and it acts again. -/
theorem registered_again_revives :
    Quarantined "writer"
      (serial (handle (fun _ => none) []) (LiveRuntimeSession.new 0 "objective")
        [.registerWorker writer, .requestResource "writer" "" true]) ∧
    ¬ Quarantined "writer"
      (serial (handle (fun _ => none) []) (LiveRuntimeSession.new 0 "objective")
        [.registerWorker writer, .requestResource "writer" "" true, .registerWorker writer]) := by
  refine ⟨⟨_, rfl, rfl⟩, ?_⟩
  rintro ⟨w, found, state⟩
  obtain rfl := Option.some.inj found
  exact absurd state (by decide)

end AgentShield.Quarantine
