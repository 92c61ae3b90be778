import AgentShield.Lib.History
import AgentShield.Runtime.PolicyLanguage
import AgentShield.Runtime.Requests

/-!
The published log of a session under concurrent requests: its numbering, its
ticks, the deny cascade as one contiguous block, and the decision that stands
directly before every executed request.
-/
namespace AgentShield.EventLog
open Schema Events Keyed Policy Coop Session LiveRuntimeSession Routes Resources

/-- The log is numbered 0, 1, 2, ... and its ticks never decrease. -/
structure Ordered (s : LiveRuntimeSession) : Prop where
  next : s.emitter.nextSeq = s.log.length
  seqs : s.log.map Event.seq = List.range s.log.length
  past : ∀ e ∈ s.log, e.simTick ≤ s.step
  ticks : s.log.Pairwise fun a b => a.simTick ≤ b.simTick

theorem effect_ticks {s body : LiveRuntimeSession} {op : Operation} {drafts : List EventDraft}
    (effect : Effect s op body drafts) :
    s.step ≤ body.step ∧ ∀ d ∈ drafts, d.simTick = body.step := by
  cases effect with
  | unchanged => simp
  | registered => simp [withWorker, advanced]
  | started => simp [starting, advanced]
  | completed found active drafted =>
    simp [withWorker, advanced, completedDraft_simTick drafted]
  | undrafted => simp [withWorker, advanced]
  | called => simp [calling, advanced]
  | recorded => simp [recording]
  | refused => simp [requestedDraft, advanced]
  | served => simp [requestedDraft, advanced]
  | denied => simp [requestedDraft, denyDrafts, quarantinedDraft, quarantining, advanced]
  | quarantined => simp [quarantinedDraft, quarantining, advanced]
  | reassigned => simp [reassignedDrafts, replacing, advanced]
  | testRejected => simp [LiveRuntimeSession.tested]
  | tested => simp [withWorker, LiveRuntimeSession.tested, advanced]
  | recovered =>
    exact ⟨Nat.le_succ s.step, forall_recovered (fun _ => rfl) rfl⟩
  | failed => simp [stoppedDraft, failing, advanced]

theorem ordered_step {s body : LiveRuntimeSession} {op : Operation} {drafts : List EventDraft}
    (ordered : Ordered s) (effect : Effect s op body drafts) :
    Ordered (body.published drafts) := by
  obtain ⟨forward, now⟩ := effect_ticks effect
  obtain ⟨_, emitter⟩ := effect_bus effect
  have grown := effect_log effect
  have drafted : ∀ e ∈ number s.emitter.experimentId s.emitter.nextSeq drafts,
      e.simTick = body.step := fun e member => now _ (number_member member)
  refine ⟨?_, ?_, ?_, ?_⟩
  · have next : (body.published drafts).emitter.nextSeq = body.emitter.nextSeq + drafts.length := rfl
    rw [next, emitter, grown, List.length_append, number_length, ordered.next]
  · rw [grown, List.map_append, ordered.seqs, number_seqs, List.length_append, number_length,
      ordered.next, List.range_eq_range', List.range_eq_range', ← List.range'_append_1,
      Nat.zero_add]
  · intro e member
    rw [grown] at member
    rcases List.mem_append.mp member with old | new
    · exact (ordered.past e old).trans forward
    · exact (drafted e new).le
  · rw [grown]
    refine List.pairwise_append.mpr ⟨ordered.ticks, ?_, ?_⟩
    · apply List.pairwise_of_forall_mem_list
      intro a first b second
      rw [drafted a first, drafted b second]
    · intro a first b second
      rw [drafted b second]
      exact (ordered.past a first).trans forward

def executedDraft (s : LiveRuntimeSession) (workerId resourcePath : String) : EventDraft :=
  s.draft .toolExecuted workerId
    (resourceMetadata (.ofOption .str (evaluate (.text resourcePath)).normalizedPath))

def cascadeDrafts (s : LiveRuntimeSession) (w : WorkerNode) (resourcePath : String) :
    List EventDraft :=
  [s.requestedDraft w.id resourcePath] ++
    denyDrafts s w resourcePath (evaluate (.text resourcePath)) ++
    [s.quarantinedDraft w (evaluate (.text resourcePath)).reason
      (evaluate (.text resourcePath)).rule.text]

theorem effect_executes {s body : LiveRuntimeSession} {op : Operation} {drafts : List EventDraft}
    (effect : Effect s op body drafts) :
    (∀ d ∈ drafts, d.eventType ≠ .toolExecuted) ∨
      ∃ workerId w resourcePath, s.workers.get? workerId = some w ∧ w.isActive = true ∧
        (evaluate (.text resourcePath)).allowed = true ∧
        drafts = [s.advanced.requestedDraft workerId resourcePath,
          executedDraft s.advanced workerId resourcePath] := by
  cases effect with
  | @served workerId w found active resourcePath allowed =>
    exact Or.inr ⟨workerId, w, resourcePath, found, active, allowed, rfl⟩
  | recovered =>
    left
    exact forall_recovered (by simp) (by simp)
  | completed found active drafted =>
    left
    simp [completedDraft_eventType drafted]
  | _ =>
    left
    simp [requestedDraft, denyDrafts, quarantinedDraft, reassignedDrafts]

theorem effect_violates {s body : LiveRuntimeSession} {op : Operation} {drafts : List EventDraft}
    (effect : Effect s op body drafts) :
    (∀ d ∈ drafts, d.eventType ≠ .policyViolation) ∨
      ∃ w resourcePath, drafts = cascadeDrafts s.advanced w resourcePath := by
  cases effect with
  | @denied workerId w found active resourcePath denied =>
    obtain rfl := Table.get?_key found
    exact Or.inr ⟨w, resourcePath, rfl⟩
  | recovered =>
    left
    exact forall_recovered (by simp) (by simp)
  | completed found active drafted =>
    left
    simp [completedDraft_eventType drafted]
  | _ =>
    left
    simp [requestedDraft, quarantinedDraft, reassignedDrafts]

structure DenyCascade (id : String) (requested denied violation anomaly quarantined : Event) :
    Prop where
  requested_type : requested.eventType = .toolRequested
  denied_type : denied.eventType = .toolDenied
  violation_type : violation.eventType = .policyViolation
  anomaly_type : anomaly.eventType = .anomalyDetected
  quarantined_type : quarantined.eventType = .agentQuarantined
  one_worker : ∀ e ∈ [requested, denied, violation, anomaly, quarantined], e.agentId = some id

def BlockedViolations (log : List Event) : Prop :=
  ∀ before e after, log = before ++ e :: after → e.eventType = .policyViolation →
    ∃ first requested denied anomaly quarantined rest id,
      before = first ++ [requested, denied] ∧ after = anomaly :: quarantined :: rest ∧
        DenyCascade id requested denied e anomaly quarantined

theorem cascade_blocked (experimentId : Uuid) (seq : Nat) (s : LiveRuntimeSession)
    (w : WorkerNode) (resourcePath : String) :
    BlockedViolations (number experimentId seq (cascadeDrafts s w resourcePath)) := by
  intro before e after split type
  simp only [cascadeDrafts, denyDrafts, List.cons_append, List.nil_append, number] at split
  rcases before with _ | ⟨requested, _ | ⟨denied, _ | ⟨third, _ | ⟨fourth, _ | ⟨fifth, more⟩⟩⟩⟩⟩
  · obtain ⟨rfl, _⟩ := List.cons.inj split
    cases type
  · simp only [List.cons_append, List.nil_append, List.cons.injEq] at split
    obtain ⟨_, rfl, _⟩ := split
    cases type
  · simp only [List.cons_append, List.nil_append, List.cons.injEq] at split
    obtain ⟨rfl, rfl, rfl, rfl⟩ := split
    refine ⟨[], _, _, _, _, [], w.id, rfl, rfl, rfl, rfl, rfl, rfl, rfl, ?_⟩
    simp [requestedDraft, quarantinedDraft]
  · simp only [List.cons_append, List.nil_append, List.cons.injEq] at split
    obtain ⟨_, _, _, rfl, _⟩ := split
    cases type
  · simp only [List.cons_append, List.nil_append, List.cons.injEq] at split
    obtain ⟨_, _, _, _, rfl, _⟩ := split
    cases type
  · simp at split

theorem blocked_step {s body : LiveRuntimeSession} {op : Operation} {drafts : List EventDraft}
    (blocked : BlockedViolations s.log) (effect : Effect s op body drafts) :
    BlockedViolations (body.published drafts).log := by
  intro before e after split type
  rw [effect_log effect] at split
  rcases History.split_append split with ⟨middle, old, rfl⟩ | ⟨middle, rfl, new⟩
  · obtain ⟨first, requested, denied, anomaly, quarantined, rest, id, front, back, cascade⟩ :=
      blocked before e middle old type
    exact ⟨first, requested, denied, anomaly, quarantined, _, id, front, by rw [back]; rfl,
      cascade⟩
  · rcases effect_violates effect with none | ⟨w, resourcePath, same⟩
    · have member : e.toEventDraft ∈ drafts := number_member (by rw [new]; simp)
      exact absurd type (none _ member)
    · rw [same] at new
      obtain ⟨first, requested, denied, anomaly, quarantined, rest, id, front, back, cascade⟩ :=
        cascade_blocked _ _ _ _ _ middle e after new type
      exact ⟨s.log ++ first, requested, denied, anomaly, quarantined, rest, id,
        by rw [front, List.append_assoc], back, cascade⟩

structure Decided (id resource path : String) (requested executed : Event) : Prop where
  requested_type : requested.eventType = .toolRequested
  requested_by : requested.agentId = some id
  requested_resource : metadataGet requested.metadata "resource" = some (.str resource)
  allowed : (evaluate (.text resource)).allowed = true
  normalized : (evaluate (.text resource)).normalizedPath = some path
  executed_by : executed.agentId = some id
  executed_resource : metadataGet executed.metadata "resource" = some (.str path)

theorem served_decided (experimentId : Uuid) (seq : Nat) (s : LiveRuntimeSession)
    (workerId resourcePath : String) (allowed : (evaluate (.text resourcePath)).allowed = true)
    {before : List Event} {e : Event} {after : List Event}
    (split : number experimentId seq [s.requestedDraft workerId resourcePath,
      executedDraft s workerId resourcePath] = before ++ e :: after)
    (type : e.eventType = .toolExecuted) :
    ∃ requested path, before = [requested] ∧ Decided workerId resourcePath path requested e := by
  obtain ⟨_, segments, _, _, normalized⟩ := allowed_resolution allowed
  simp only [number] at split
  rcases before with _ | ⟨requested, _ | ⟨second, more⟩⟩
  · obtain ⟨rfl, _⟩ := List.cons.inj split
    cases type
  · simp only [List.cons_append, List.nil_append, List.cons.injEq] at split
    obtain ⟨rfl, rfl, _⟩ := split
    refine ⟨_, _, rfl, rfl, rfl, ?_, allowed, normalized, rfl, ?_⟩
    · simp [requestedDraft, resourceMetadata, metadataGet]
    · simp [executedDraft, resourceMetadata, metadataGet, normalized, JsonValue.ofOption]
  · simp at split

/-- Every execution in the log of `c` follows its own decision, made in an earlier
    configuration in which the worker was active. -/
def DecidedExecutions (disk : Disk) (root : Path) (start : LiveRuntimeSession)
    (c : Config LiveRuntimeSession HttpError Response) : Prop :=
  ∀ before e after, c.state.log = before ++ e :: after → e.eventType = .toolExecuted →
    ∃ first requested id resource path c₀ w, before = first ++ [requested] ∧
      Decided id resource path requested e ∧
      Reachable (handle disk root) start c₀ ∧
      Relation.ReflTransGen (Step (handle disk root)) c₀ c ∧
      c₀.state.log = first ∧ c₀.state.workers.get? id = some w ∧ w.isActive = true

theorem executions_arrive (disk : Disk) (root : Path) {start : LiveRuntimeSession}
    {c c' : Config LiveRuntimeSession HttpError Response} (request : Request)
    (reach : Reachable (handle disk root) start c) (step : Step (handle disk root) c c')
    (decided : DecidedExecutions disk root start c)
    (state : c'.state = exec (handle disk root request) c.state) :
    DecidedExecutions disk root start c' := by
  obtain ⟨op, body, drafts, effect, ended⟩ := request_effect disk root request c.state
  intro before e after split type
  rw [state, ended, effect_log effect] at split
  rcases History.split_append split with ⟨middle, old, rfl⟩ | ⟨middle, rfl, new⟩
  · obtain ⟨first, requested, id, resource, path, c₀, w, front, decision, reach₀, later, rest⟩ :=
      decided before e middle old type
    exact ⟨first, requested, id, resource, path, c₀, w, front, decision, reach₀,
      later.tail step, rest⟩
  · rcases effect_executes effect with none | ⟨workerId, w, resourcePath, found, active,
      allowed, same⟩
    · have member : e.toEventDraft ∈ drafts := number_member (by rw [new]; simp)
      exact absurd type (none _ member)
    · rw [same] at new
      obtain ⟨requested, path, rfl, decision⟩ := served_decided _ _ _ _ _ allowed new type
      exact ⟨c.state.log, requested, workerId, resourcePath, path, c, w, rfl, decision, reach,
        .single step, rfl, found, active⟩

/-- The log of every interleaving of requests on one session. -/
theorem event_stream_integrity (disk : Disk) (root : Path) (sessionId : Uuid)
    (objective : String) (c : Config LiveRuntimeSession HttpError Response)
    (reach : Reachable (handle disk root) (LiveRuntimeSession.new sessionId objective) c) :
    c.state.log.map Event.seq = List.range c.state.log.length ∧
    c.state.log.Pairwise (fun a b => a.simTick ≤ b.simTick) ∧
    BlockedViolations c.state.log ∧
    DecidedExecutions disk root (LiveRuntimeSession.new sessionId objective) c := by
  have all : Ordered c.state ∧ BlockedViolations c.state.log ∧
      DecidedExecutions disk root (LiveRuntimeSession.new sessionId objective) c := by
    refine prompt_induction (motive := fun c => Ordered c.state ∧ BlockedViolations c.state.log ∧
      DecidedExecutions disk root (LiveRuntimeSession.new sessionId objective) c)
      (handle_prompt disk root) ?_ ?_ ?_ reach
    · refine ⟨⟨rfl, rfl, by simp [LiveRuntimeSession.new, LiveRuntimeSession.log, EventBus.new],
        List.Pairwise.nil⟩, ?_, ?_⟩
      · intro before e after split
        simp [LiveRuntimeSession.new, LiveRuntimeSession.log, EventBus.new] at split
      · intro before e after split
        simp [LiveRuntimeSession.new, LiveRuntimeSession.log, EventBus.new] at split
    · rintro c c' request before step ⟨ordered, blocked, decided⟩ state
      obtain ⟨op, body, drafts, effect, ended⟩ := request_effect disk root request c.state
      refine ⟨?_, ?_, executions_arrive disk root request before step decided state⟩
      · rw [state, ended]
        exact ordered_step ordered effect
      · rw [state, ended]
        exact blocked_step blocked effect
    · rintro c c' before step ⟨ordered, blocked, decided⟩ state
      refine ⟨state ▸ ordered, state ▸ blocked, ?_⟩
      intro front e after split type
      rw [state] at split
      obtain ⟨first, requested, id, resource, path, c₀, w, same, decision, reach₀, later, rest⟩ :=
        decided front e after split type
      exact ⟨first, requested, id, resource, path, c₀, w, same, decision, reach₀,
        later.tail step, rest⟩
  exact ⟨all.1.seqs, all.1.ticks, all.2⟩

def reader : WorkerSpec := { id := "reader", role := "researcher" }

/- The request arrives while the commentary waits for its provider. -/
theorem reader_log_ordered :
    (exec (handle (fun _ => none) [] (.requestResource "reader" "demo_target/x" true))
      (exec (handle (fun _ => none) [] (.registerWorker reader))
        (LiveRuntimeSession.new 0 "objective"))).log.Pairwise
          fun a b => a.simTick ≤ b.simTick := by
  have first : Reachable (handle (fun _ => none) []) (LiveRuntimeSession.new 0 "objective") _ :=
    .tail .refl (.arrive (.registerWorker reader) _)
  have waiting := first.tail (.arrive (.getExplanation 1) _)
  have second := waiting.tail (.arrive (.requestResource "reader" "demo_target/x" true) _)
  exact (event_stream_integrity (fun _ => none) [] 0 "objective" _ second).2.1

end AgentShield.EventLog
