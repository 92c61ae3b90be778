import AgentShield.Api.StoredRun
import AgentShield.Explanation.Evidence
import AgentShield.Runtime.LogFold

/-!
The window of recent events that the live metrics and the evidence are taken from: the whole
log until the first event is evicted, and then nothing.
-/
namespace AgentShield.Explanation
open Schema Events Keyed Policy Coop Session LiveRuntimeSession Routes Resources EventLog Metrics
  Engine TopologyBuilder Orchestrator Streams ExperimentHistory

/-- The last events published, as many as the buffer holds. -/
def lastEvents (bus : EventBus) : List Event :=
  bus.published.drop (bus.published.length - ringSize)

theorem recentWindow_eq {bus : EventBus} (sound : bus.Sound) :
    recentWindow bus = if bus.published.length ≤ ringSize then bus.published else [] := by
  unfold recentWindow
  rw [since_start sound]
  split <;> rfl

theorem recentWindow_all {bus : EventBus} (sound : bus.Sound)
    (few : bus.published.length ≤ ringSize) : recentWindow bus = bus.published := by
  rw [recentWindow_eq sound, if_pos few]

theorem recentWindow_exact {bus : EventBus} (sound : bus.Sound) :
    recentWindow bus = lastEvents bus ↔ bus.published.length ≤ ringSize := by
  rw [recentWindow_eq sound]
  unfold lastEvents
  constructor
  · intro same
    by_contra many
    rw [if_neg many] at same
    have counted := congrArg List.length same
    rw [List.length_nil, List.length_drop] at counted
    have positive : 0 < ringSize := by decide
    omega
  · intro few
    rw [if_pos few, Nat.sub_eq_zero_of_le few, List.drop_zero]

def publishBatch (state : EventEmitter × EventBus) (drafts : List EventDraft) :
    EventEmitter × EventBus :=
  ((state.1.emit drafts).1, state.2.publish (state.1.emit drafts).2)

def historyOf (experimentId : Uuid) (batches : List (List EventDraft)) : EventEmitter × EventBus :=
  batches.foldl publishBatch (⟨experimentId, 0⟩, EventBus.new)

theorem historyOf_sound (experimentId : Uuid) (batches : List (List EventDraft)) :
    (historyOf experimentId batches).2.Sound := by
  have steps : ∀ state : EventEmitter × EventBus, state.2.Sound →
      state.1.nextSeq = state.2.published.length → (batches.foldl publishBatch state).2.Sound := by
    induction batches with
    | nil =>
      intro state sound _
      exact sound
    | cons drafts rest ih =>
      intro state sound next
      exact ih (publishBatch state drafts) (publish_sound sound (emit_seqs next drafts))
        (emit_next next drafts)
  exact steps _ new_sound rfl

theorem publishes_sound {experimentId : Uuid} {runner runner' : ExperimentRunner}
    (numbered : Numbered experimentId runner) (sound : runner.bus.Sound)
    (publishes : Publishes runner runner') : runner'.bus.Sound := by
  obtain ⟨drafts, bus, _⟩ := publishes
  have next : runner.emitter.nextSeq = runner.bus.published.length := by
    rw [numbered.emitter]
  rw [bus]
  exact publish_sound sound (emit_seqs next drafts)

theorem runner_sound {rng : Rng} {networkx : Networkx} {experimentId : Uuid}
    {config : ExperimentConfig} {hasGateway : Bool} {c : Orchestrator.Config}
    (reach : Orchestrator.Reachable rng (created rng networkx experimentId config hasGateway) c) :
    c.runner.bus.Sound := by
  induction reach with
  | refl => exact publish_sound new_sound (emit_seqs rfl _)
  | tail reach turn ih =>
    cases turn with
    | own step => exact publishes_sound (reachable_numbered reach) ih (runner_act step)
    | stream published buffer =>
      constructor
      · rw [published]
        exact ih.seqs
      · rw [published, buffer]
        exact ih.buffer

/-- What the window needs of a session: a sound bus, every violation inside its cascade, and
    a workflow that does not fall back behind an attack. -/
structure Watched (s : LiveRuntimeSession) : Prop where
  sound : s.bus.Sound
  next : s.emitter.nextSeq = s.bus.published.length
  blocked : BlockedViolations s.log
  attacked : ∀ e ∈ s.log, e.eventType = .policyViolation → ∃ state,
    finalState s.workflowState = some state

theorem new_watched (sessionId : Uuid) (objective : String) :
    Watched (LiveRuntimeSession.new sessionId objective) := by
  refine ⟨new_sound, rfl, ?_, ?_⟩
  · intro before e after split
    simp [LiveRuntimeSession.new, LiveRuntimeSession.log, EventBus.new] at split
  · intro e member
    cases member

theorem attacked_step {s body : LiveRuntimeSession} {op : Operation} {drafts : List EventDraft}
    (effect : Effect s op body drafts) :
    (∀ state, finalState s.workflowState = some state →
      ∃ state, finalState body.workflowState = some state) ∧
    ((∃ d ∈ drafts, d.eventType = .policyViolation) →
      ∃ state, finalState body.workflowState = some state) := by
  have quiet : ∀ drafts : List EventDraft, (∀ d ∈ drafts, d.eventType ≠ .policyViolation) →
      (∃ d ∈ drafts, d.eventType = .policyViolation) →
      ∃ state, finalState body.workflowState = some state := by
    rintro drafts none_ ⟨d, member, type⟩
    exact absurd type (none_ d member)
  cases effect with
  | denied => exact ⟨fun _ _ => ⟨_, rfl⟩, fun _ => ⟨_, rfl⟩⟩
  | quarantined => exact ⟨fun _ _ => ⟨_, rfl⟩, fun _ => ⟨_, rfl⟩⟩
  | reassigned => exact ⟨fun _ _ => ⟨_, rfl⟩, fun _ => ⟨_, rfl⟩⟩
  | recovered => exact ⟨fun _ _ => ⟨_, rfl⟩, fun _ => ⟨_, rfl⟩⟩
  | failed => exact ⟨fun _ _ => ⟨_, rfl⟩, fun _ => ⟨_, rfl⟩⟩
  | started =>
    refine ⟨?_, quiet _ (by simp)⟩
    intro state final
    cases workflow : s.workflowState with
    | idle =>
      rw [workflow] at final
      cases final
    | _ =>
      rw [workflow] at final
      simp only [starting, advanced, workflow]
      exact ⟨state, final⟩
  | unchanged => exact ⟨fun state final => ⟨state, final⟩, quiet _ (by simp)⟩
  | registered => exact ⟨fun state final => ⟨state, final⟩, quiet _ (by simp)⟩
  | completed found active drafted =>
    exact ⟨fun state final => ⟨state, final⟩,
      quiet _ (by simp [completedDraft_eventType drafted])⟩
  | undrafted => exact ⟨fun state final => ⟨state, final⟩, quiet _ (by simp)⟩
  | called => exact ⟨fun state final => ⟨state, final⟩, quiet _ (by simp)⟩
  | recorded => exact ⟨fun state final => ⟨state, final⟩, quiet _ (by simp)⟩
  | refused => exact ⟨fun state final => ⟨state, final⟩, quiet _ (by simp [requestedDraft])⟩
  | served => exact ⟨fun state final => ⟨state, final⟩, quiet _ (by simp [requestedDraft])⟩
  | testRejected => exact ⟨fun state final => ⟨state, final⟩, quiet _ (by simp)⟩
  | tested => exact ⟨fun state final => ⟨state, final⟩, quiet _ (by simp)⟩

theorem watched_step {s body : LiveRuntimeSession} {op : Operation} {drafts : List EventDraft}
    (watched : Watched s) (effect : Effect s op body drafts) :
    Watched (body.published drafts) := by
  obtain ⟨bus, emitter⟩ := effect_bus effect
  have next : body.emitter.nextSeq = body.bus.published.length := by
    rw [bus, emitter]
    exact watched.next
  obtain ⟨keeps, raises⟩ := attacked_step effect
  refine ⟨?_, emit_next next drafts, blocked_step watched.blocked effect, ?_⟩
  · apply publish_sound _ (emit_seqs next drafts)
    rw [bus]
    exact watched.sound
  · intro e member type
    rw [effect_log effect] at member
    rcases List.mem_append.mp member with old | new
    · obtain ⟨state, final⟩ := watched.attacked e old type
      exact keeps state final
    · exact raises ⟨_, number_member new, type⟩

theorem reachable_watched {disk : Disk} {root : Path} {sessionId : Uuid} {objective : String}
    {c : Config LiveRuntimeSession HttpError Unit}
    (reach : Reachable (call disk root) (LiveRuntimeSession.new sessionId objective) c) :
    Watched c.state :=
  reachable_call_invariant Watched (new_watched sessionId objective)
    (fun _ _ _ _ watched effect => watched_step watched effect) reach

theorem firstOf_some {events : List Event} {eventType : EventType} {agentId : Option String}
    {event : Event} (member : event ∈ events) (type : event.eventType = eventType)
    (agent : agentId = none ∨ event.agentId = agentId) :
    ∃ first ∈ events, firstOf events eventType agentId = some first ∧
      first.eventType = eventType := by
  have matches_ : (decide (event.eventType = eventType ∧
      (agentId = none ∨ event.agentId = agentId))) = true := decide_eq_true ⟨type, agent⟩
  cases found : firstOf events eventType agentId with
  | none =>
    unfold firstOf at found
    exact absurd matches_ (List.find?_eq_none.mp found event member)
  | some first =>
    unfold firstOf at found
    have holds := List.find?_some found
    rw [decide_eq_true_eq] at holds
    exact ⟨first, List.mem_of_find?_eq_some found, rfl, holds.1⟩

theorem incident_found {s : LiveRuntimeSession} (watched : Watched s)
    (few : s.log.length ≤ ringSize) {violation : Event} (member : violation ∈ s.log)
    (type : violation.eventType = .policyViolation) :
    ∃ evidence, buildIncidentEvidence s = .incident evidence := by
  have window : recentWindow s.bus = s.log := recentWindow_all watched.sound few
  obtain ⟨first, inside, found, kind⟩ := firstOf_some member type (Or.inl (Eq.refl none))
  obtain ⟨before, after, split⟩ := List.append_of_mem inside
  obtain ⟨_, _, _, anomaly, quarantined, rest, id, _, back, cascade⟩ :=
    watched.blocked before first after split kind
  have mine : first.agentId = some id := cascade.one_worker first (by simp)
  have there : quarantined ∈ s.log := by
    rw [split, back]
    simp
  obtain ⟨_, _, isolated, _⟩ := firstOf_some there cascade.quarantined_type
    (Or.inr (cascade.one_worker quarantined (by simp)))
  obtain ⟨state, final⟩ := watched.attacked first inside kind
  unfold buildIncidentEvidence
  rw [window]
  dsimp only
  rw [found]
  dsimp only
  rw [mine]
  dsimp only
  rw [isolated]
  dsimp only
  rw [final]
  exact ⟨_, rfl⟩

/-- The endpoints see the last events, and no deny cascade among them goes unreported. -/
structure SeesRecent (s : LiveRuntimeSession) : Prop where
  window : recentWindow s.bus = lastEvents s.bus
  reported : ∀ violation ∈ lastEvents s.bus, violation.eventType = .policyViolation →
    buildIncidentEvidence s ≠ .noIncident

/-- The window is the last events exactly while none has been evicted; a session's evidence
    then misses no cascade. -/
theorem window_until_first_eviction (experimentId : Uuid) (batches : List (List EventDraft))
    (rng : Rng) (networkx : Networkx) (config : ExperimentConfig) (hasGateway : Bool)
    (disk : Disk) (root : Path) (sessionId : Uuid) (objective : String) :
    (recentWindow (historyOf experimentId batches).2 =
        lastEvents (historyOf experimentId batches).2 ↔
      (historyOf experimentId batches).2.published.length ≤ ringSize) ∧
    (∀ c : Orchestrator.Config,
      Orchestrator.Reachable rng (created rng networkx experimentId config hasGateway) c →
      (recentWindow c.runner.bus = lastEvents c.runner.bus ↔
        c.runner.bus.published.length ≤ ringSize)) ∧
    ∀ c : Config LiveRuntimeSession HttpError Unit,
      Reachable (call disk root) (LiveRuntimeSession.new sessionId objective) c →
      (SeesRecent c.state ↔ c.state.log.length ≤ ringSize) := by
  refine ⟨recentWindow_exact (historyOf_sound experimentId batches), ?_, ?_⟩
  · intro c reach
    exact recentWindow_exact (runner_sound reach)
  · intro c reach
    have watched := reachable_watched reach
    constructor
    · intro sees
      exact (recentWindow_exact watched.sound).mp sees.window
    · intro few
      refine ⟨(recentWindow_exact watched.sound).mpr few, ?_⟩
      intro violation member type
      obtain ⟨evidence, found⟩ := incident_found watched few (List.mem_of_mem_drop member) type
      rw [found]
      exact Evidence.noConfusion

theorem denied_reader_is_seen :
    SeesRecent (exec (call (fun _ => none) []
        (.request (.requestResource "reader" "demo_target/secrets/x" true)))
      (exec (call (fun _ => none) [] (.request (.registerWorker reader)))
        (LiveRuntimeSession.new 0 "objective"))) := by
  have first : Reachable (call (fun _ => none) []) (LiveRuntimeSession.new 0 "objective") _ :=
    .tail .refl (.arrive (.request (.registerWorker reader)) _)
  have second := first.tail
    (.arrive (.request (.requestResource "reader" "demo_target/secrets/x" true)) _)
  exact ((window_until_first_eviction 0 [] default default { seed := 1 } false (fun _ => none) [] 0
    "objective").2.2 _ second).mpr (by decide)

def smallCall : ModelCall :=
  { provider := "openai", model := "gpt", endpointHost := "api.openai.com"
    latencyMs := 1, promptChars := 1, responseChars := 1 }

def chattyCalls (n : Nat) : List Operation :=
  .registerWorker "reader" "researcher" [] none false ::
    List.replicate n (.recordModelCall "reader" smallCall)

def chatty (n : Nat) : LiveRuntimeSession :=
  serial perform (LiveRuntimeSession.new 0 "objective") (chattyCalls n)

theorem chatty_log (n : Nat) : (chatty n).log.length = 1 + 2 * n ∧
    ∃ w, (chatty n).workers.get? "reader" = some w ∧ w.isActive = true := by
  unfold chatty chattyCalls
  refine serial_replicate (P := fun n (s : LiveRuntimeSession) => s.log.length = 1 + 2 * n ∧
    ∃ w, s.workers.get? "reader" = some w ∧ w.isActive = true) ⟨rfl, _, rfl, rfl⟩ ?_ n
  rintro n s ⟨count, w, found, active⟩
  obtain ⟨r, run⟩ := recordModelCall_run found smallCall
  rw [perform, exec_performed run]
  constructor
  · rw [published_log, List.length_append, number_length]
    change s.log.length + 2 = _
    omega
  · have id : w.id = "reader" := Table.get?_key found
    refine ⟨{ w with modelBacked := true }, ?_, active⟩
    change (s.workers.put { w with modelBacked := true }).get? "reader" = _
    rw [Table.get?_put, if_pos]
    exact id.symm

def deniedAtLast (n : Nat) : LiveRuntimeSession :=
  serial perform (LiveRuntimeSession.new 0 "objective")
    (chattyCalls n ++ [.requestResource "reader" "demo_target/secrets/x"])

theorem deniedAtLast_log (n : Nat) : ∃ before cascade, (deniedAtLast n).log = before ++ cascade ∧
    before.length = 1 + 2 * n ∧ cascade.length = 5 ∧
    ∃ violation ∈ cascade, violation.eventType = .policyViolation := by
  obtain ⟨count, w, found, active⟩ := chatty_log n
  have denied : (evaluate (.text "demo_target/secrets/x")).allowed = false := by decide
  obtain ⟨r, run, _⟩ := requestResource_denied found active denied
  have last : deniedAtLast n = exec (perform
      (.requestResource "reader" "demo_target/secrets/x")) (chatty n) :=
    serial_concat perform _ _ _
  rw [last, perform, exec_performed run, effect_log (.denied found active denied)]
  refine ⟨_, _, rfl, count, by rw [number_length]; rfl, ?_⟩
  simp only [denyDrafts, List.cons_append, List.nil_append, number, List.mem_cons]
  exact ⟨_, Or.inr (Or.inr (Or.inl rfl)), rfl⟩

theorem deniedAtLast_watched (n : Nat) : Watched (deniedAtLast n) := by
  unfold deniedAtLast
  rw [LogFold.operations_as_calls (fun _ => none) []]
  exact serial_call_invariant Watched (new_watched 0 "objective")
    (fun _ _ _ _ watched effect => watched_step watched effect) (fun _ => none) [] _

theorem evicted_unseen {s : LiveRuntimeSession} (watched : Watched s)
    {before cascade : List Event} {violation : Event} (log : s.log = before ++ cascade)
    (many : ringSize < s.log.length) (few : cascade.length ≤ ringSize)
    (member : violation ∈ cascade) :
    recentWindow s.bus ≠ lastEvents s.bus ∧ violation ∈ lastEvents s.bus ∧
      buildIncidentEvidence s = .noIncident := by
  have published : s.bus.published = before ++ cascade := log
  have evicted : ¬ s.bus.published.length ≤ ringSize := not_le.mpr many
  refine ⟨mt (recentWindow_exact watched.sound).mp evicted, ?_, ?_⟩
  · have within : (before ++ cascade).length - ringSize ≤ before.length := by
      rw [List.length_append]
      omega
    unfold lastEvents
    rw [published, List.drop_append_of_le_length within]
    exact List.mem_append_right _ member
  · have nothing : recentWindow s.bus = [] := by
      rw [recentWindow_eq watched.sound, if_neg evicted]
    unfold buildIncidentEvidence
    rw [nothing]
    rfl

/-- A cascade among the last 2000 events, and no incident in the evidence. -/
theorem chatty_session_without_incident :
    2000 < (deniedAtLast 1000).log.length ∧
      recentWindow (deniedAtLast 1000).bus ≠ lastEvents (deniedAtLast 1000).bus ∧
      (∃ violation ∈ lastEvents (deniedAtLast 1000).bus,
        violation.eventType = .policyViolation) ∧
      buildIncidentEvidence (deniedAtLast 1000) = .noIncident := by
  obtain ⟨before, cascade, log, early, five, violation, member, type⟩ := deniedAtLast_log 1000
  have many : 2000 < (deniedAtLast 1000).log.length := by
    rw [log, List.length_append, early, five]
    decide
  have few : cascade.length ≤ ringSize := by
    rw [five]
    decide
  obtain ⟨unlike, there, unseen⟩ := evicted_unseen (deniedAtLast_watched 1000) log many few member
  exact ⟨many, unlike, ⟨violation, there, type⟩, unseen⟩

end AgentShield.Explanation
