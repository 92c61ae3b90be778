import AgentShield.Client.Stage
import AgentShield.Runtime.LogFold

/-!
What a client that joined a live session shows of each worker later on, and when that is the
state the session holds: the client follows a quarantine, and nothing else.
-/
namespace AgentShield.Client
open Schema Events Keyed Engine Coop Session LiveRuntimeSession Policy Routes LogFold Comparator

/-- The stage shows every worker, and in the state that the session holds. -/
def ShowsTruth (engine : EngineSort StageNode) (client : GraphState) (s : LiveRuntimeSession) :
    Prop :=
  ∀ w ∈ s.workers.values,
    (∃ node ∈ (buildStage engine (some (summaryOf s)) client).nodes, node.id = w.id) ∧
      ∀ node ∈ (buildStage engine (some (summaryOf s)) client).nodes, node.id = w.id →
        node.securityState = w.securityState

/- The client applies the snapshot of `joined`, and then every event published since. -/
def ShownSince (engine : EngineSort StageNode) (client : GraphState)
    (joined s : LiveRuntimeSession) : Prop :=
  ∃ attached client', reduce client (.snapshot (snapshot joined)) = .ok attached ∧
    reduceAll attached (s.log.drop joined.log.length) = .ok client' ∧ ShowsTruth engine client' s

/- Every registration of the API has an id: `min_length=1`. -/
def Identifies : Operation → Prop
  | .registerWorker workerId _ _ _ _ => workerId ≠ ""
  | .reassign _ toWorkerId _ _ _ _ => toWorkerId ≠ ""
  | _ => True

/-- No worker of the snapshot is registered again, or made a replacement, unless it is healthy;
    and none of them is recovered, unless it already was. -/
def Follows (joined s : LiveRuntimeSession) : Operation → Prop
  | .registerWorker workerId _ _ _ _ =>
    joined.workers.Has workerId → statesOf s.workers workerId = some .healthy
  | .reassign fromWorkerId toWorkerId _ _ _ _ =>
    s.workers.Has fromWorkerId → joined.workers.Has toWorkerId →
      statesOf s.workers toWorkerId = some .healthy
  | .recover _ =>
    ∀ w ∈ s.workers.values, w.recovers = true → joined.workers.Has w.id →
      w.securityState = .recovered
  | _ => True

structure Later (joined s : LiveRuntimeSession) : Prop where
  session : s.sessionId = joined.sessionId
  listed : ∀ id, joined.workers.Has id → s.workers.Has id
  grown : joined.log.length ≤ s.log.length

theorem effect_has {s body : LiveRuntimeSession} {op : Operation} {drafts : List EventDraft}
    (effect : Effect s op body drafts) {id : String} (has : s.workers.Has id) :
    body.workers.Has id := by
  have put : ∀ w : WorkerNode, (s.workers.put w).Has id := fun w => Table.has_put.mpr (Or.inr has)
  cases effect with
  | recovered =>
    unfold Table.Has Table.keys
    simp only [recovering, advanced, Table.update_values, map_keeps_keys afterRecovery_id]
    exact has
  | registered => exact put _
  | started => exact put _
  | completed => exact put _
  | undrafted => exact put _
  | called => exact put _
  | denied => exact put _
  | quarantined => exact put _
  | reassigned => exact put _
  | tested => exact put _
  | unchanged => exact has
  | recorded => exact has
  | refused => exact has
  | served => exact has
  | testRejected => exact has
  | failed => exact has

theorem effect_session {s body : LiveRuntimeSession} {op : Operation} {drafts : List EventDraft}
    (effect : Effect s op body drafts) : body.sessionId = s.sessionId := by
  cases effect <;> rfl

theorem later_step {joined s : LiveRuntimeSession} (later : Later joined s) (op : Operation) :
    Later joined (exec (perform op) s) := by
  obtain ⟨body, drafts, effect, ended⟩ := perform_effect op s
  rw [ended]
  constructor
  · exact (effect_session effect).trans later.session
  · exact fun id has => effect_has effect (later.listed id has)
  · rw [effect_log effect, List.length_append]
    exact Nat.le_add_right_of_le later.grown

theorem later_run (joined : LiveRuntimeSession) (ops : List Operation) :
    Later joined (serial perform joined ops) := by
  have start : Later joined joined := ⟨rfl, fun _ has => has, Nat.le_refl _⟩
  exact serial_invariant start (fun op _ later => later_step later op) ops

theorem effect_identified {s body : LiveRuntimeSession} {op : Operation}
    {drafts : List EventDraft} (identifies : Identifies op) (named : Named (nodes s))
    (effect : Effect s op body drafts) : Named (nodes body) := by
  have kept : ∀ w : WorkerNode, w.id ≠ "" → ∀ view ∈ (s.workers.put w).values.map WorkerNode.view,
      view.id ≠ "" := by
    intro w present view member
    obtain ⟨other, inside, rfl⟩ := List.mem_map.mp member
    rcases Table.put_member inside with rfl | ⟨old, _⟩
    · exact present
    · exact named _ (List.mem_map_of_mem old)
  have known : ∀ {workerId w}, s.workers.get? workerId = some w → w.id ≠ "" := by
    intro workerId w found
    exact named w.view (List.mem_map_of_mem (Table.get?_member found))
  cases effect with
  | recovered =>
    intro view member
    obtain ⟨w', inside, rfl⟩ := List.mem_map.mp member
    obtain ⟨w, present, rfl⟩ := List.mem_map.mp inside
    change w.afterRecovery.id ≠ ""
    rw [afterRecovery_id]
    exact named w.view (List.mem_map_of_mem present)
  | registered => exact kept _ identifies
  | started found => exact kept _ (known found :)
  | completed found => exact kept _ (known found :)
  | undrafted found => exact kept _ (known found :)
  | called found => exact kept _ (known found :)
  | denied found => exact kept _ (known found :)
  | quarantined found => exact kept _ (known found :)
  | reassigned found => exact kept _ identifies
  | tested found => exact kept _ (known found :)
  | unchanged => exact named
  | recorded => exact named
  | refused => exact named
  | served => exact named
  | testRejected => exact named
  | failed => exact named

theorem run_identified (sessionId : Uuid) (objective : String) {ops : List Operation}
    (identified : ∀ op ∈ ops, Identifies op) :
    Named (nodes (serial perform (LiveRuntimeSession.new sessionId objective) ops)) := by
  have step : ∀ op s, Named (nodes s) → Identifies op → Named (nodes (exec (perform op) s)) := by
    intro op s named identifies
    obtain ⟨body, drafts, effect, ended⟩ := perform_effect op s
    have named' : Named (nodes body) := effect_identified identifies named effect
    rw [ended]
    exact named'
  have start : Named (nodes (LiveRuntimeSession.new sessionId objective)) := by
    intro view member
    cases member
  apply @serial_guarded _ _ _ _ perform (fun s => Named (nodes s)) (fun _ op => Identifies op) _
    start step
  intro before op after split
  apply identified
  rw [split]
  exact List.mem_append_right _ List.mem_cons_self

def Agree (joined s : LiveRuntimeSession) : Prop :=
  ∀ view ∈ nodes joined, statesOf s.workers view.id =
    some (observeAll ((s.log.drop joined.log.length).map Event.toEventDraft) view).securityState

theorem view_has {s : LiveRuntimeSession} {view : NodeView} (member : view ∈ nodes s) :
    s.workers.Has view.id := by
  obtain ⟨w, inside, rfl⟩ := List.mem_map.mp member
  exact List.mem_map_of_mem inside

theorem view_of_has {s : LiveRuntimeSession} {id : String} (has : s.workers.Has id) :
    ∃ view ∈ nodes s, view.id = id := by
  obtain ⟨w, found⟩ := Table.has_iff_get?.mp has
  have named : w.id = id := Table.get?_key found
  exact ⟨w.view, List.mem_map_of_mem (Table.get?_member found), named⟩

theorem statesOf_member {workers : Table WorkerNode.id} {w : WorkerNode}
    (member : w ∈ workers.values) : statesOf workers w.id = some w.securityState := by
  unfold statesOf
  rw [Table.get?_of_member member]
  rfl

theorem nodes_distinct (s : LiveRuntimeSession) : ((nodes s).map NodeView.id).Nodup := by
  unfold nodes
  rw [List.map_map]
  exact s.workers.distinct

theorem showsTruth_iff {engine : EngineSort StageNode} {client : GraphState}
    {s : LiveRuntimeSession}
    (here : client.experimentId = some s.sessionId) :
    ShowsTruth engine client s ↔ ∀ w ∈ s.workers.values,
      displayedState (some client.nodes) (workerView w) = w.securityState := by
  have live : (if client.experimentId = some (summaryOf s).sessionId then some client.nodes
      else none) = some client.nodes := if_pos here
  unfold ShowsTruth
  simp only [mem_stage, live]
  constructor
  · intro shows_ w member
    have shown := (shows_ w member).2
      (stageNode (some client.nodes) (depths (summaryOf s).workers) (workerView w))
    exact shown ⟨workerView w, List.mem_map_of_mem member, rfl⟩ rfl
  · intro displayed w member
    refine ⟨⟨_, ⟨workerView w, List.mem_map_of_mem member, rfl⟩, rfl⟩, ?_⟩
    rintro node ⟨worker, inside, rfl⟩ same
    obtain ⟨w', member', rfl⟩ := List.mem_map.mp inside
    have one : w'.id = w.id := same
    have found := Table.get?_of_member member'
    rw [one, Table.get?_of_member member] at found
    obtain rfl := Option.some.inj found
    exact displayed w member

theorem shownSince_iff (engine : EngineSort StageNode) (client : GraphState)
    {joined s : LiveRuntimeSession}
    (named : Named (nodes joined)) (later : Later joined s) :
    ShownSince engine client joined s ↔ Agree joined s := by
  have views : (reduceSnapshot client (snapshot joined)).nodes.values = nodes joined :=
    reduceSnapshot_values client (nodes_distinct joined)
  have named' : Named (reduceSnapshot client (snapshot joined)).nodes.values := by
    rw [views]
    exact named
  obtain ⟨client', reduced, folded⟩ := reduceAll_views (s.log.drop joined.log.length) named'
  rw [views] at folded
  have here : client'.experimentId = some s.sessionId := by
    rw [reduceAll_experiment reduced, later.session]
    rfl
  have shown : ShownSince engine client joined s ↔ ShowsTruth engine client' s := by
    constructor
    · rintro ⟨attached, other, first, rest, truth⟩
      cases first
      rw [reduced] at rest
      cases rest
      exact truth
    · intro truth
      exact ⟨_, client', rfl, reduced, truth⟩
  rw [shown, showsTruth_iff here]
  constructor
  · intro displayed view member
    obtain ⟨w, found⟩ := Table.has_iff_get?.mp (later.listed _ (view_has member))
    have state := displayed w (Table.get?_member found)
    have id : w.id = view.id := Table.get?_key found
    have there : client'.nodes.get? view.id = some (observeAll
        ((s.log.drop joined.log.length).map Event.toEventDraft) view) := by
      rw [← observeAll_id ((s.log.drop joined.log.length).map Event.toEventDraft) view]
      apply Table.get?_of_member
      rw [folded]
      exact List.mem_map_of_mem member
    unfold displayedState at state
    simp only [workerView, id, Option.bind_some, there, Option.map_some, Option.getD_some] at state
    unfold statesOf
    rw [found, Option.map_some, state]
  · intro agree w member
    unfold displayedState
    simp only [workerView, Option.bind_some]
    cases found : client'.nodes.get? w.id with
    | none => rfl
    | some shown =>
      have inside := Table.get?_member found
      rw [folded] at inside
      obtain ⟨view, listed, rfl⟩ := List.mem_map.mp inside
      have id := Table.get?_key found
      rw [observeAll_id] at id
      have state := agree view listed
      rw [id, statesOf_member member] at state
      exact (Option.some.inj state).symm

theorem later_drafts {joined s : LiveRuntimeSession} (later : Later joined s) {op : Operation}
    {body : LiveRuntimeSession} {drafts : List EventDraft} (effect : Effect s op body drafts) :
    ((body.published drafts).log.drop joined.log.length).map Event.toEventDraft =
      (s.log.drop joined.log.length).map Event.toEventDraft ++ drafts := by
  rw [effect_log effect, List.drop_append_of_le_length later.grown, List.map_append, number_drafts]

theorem unmarked_shown {drafts : List EventDraft} {view : NodeView} {state : Option SecurityState}
    (unmarked : ∀ d ∈ drafts, ¬ Marks d) (same : state = some view.securityState) :
    state = some (observeAll drafts view).securityState := by
  rw [observeAll_unmarked unmarked]
  exact same

theorem quarantine_shown {front : List EventDraft} (unmarked : ∀ d ∈ front, ¬ Marks d)
    {last : EventDraft} (type : last.eventType = .agentQuarantined) {id : String}
    (subject : last.agentId = some id) (view : NodeView) :
    (observeAll (front ++ [last]) view).securityState =
      if id = view.id then .quarantined else view.securityState := by
  rw [observeAll_concat, observeAll_unmarked unmarked]
  unfold observe
  by_cases same : id = view.id
  · simp [type, subject, same]
  · simp [type, subject, same]

theorem effect_followed {joined s body : LiveRuntimeSession} {op : Operation}
    {drafts : List EventDraft} (effect : Effect s op body drafts)
    (follows : Follows joined s op) {view : NodeView} (listed : joined.workers.Has view.id)
    (agree : statesOf s.workers view.id = some view.securityState) :
    statesOf body.workers view.id = some (observeAll drafts view).securityState := by
  -- Whoever is put back with the state it had shows nothing.
  have put_back : ∀ {workerId : String} {old w : WorkerNode},
      s.workers.get? workerId = some old → w.id = old.id →
      w.securityState = old.securityState →
      statesOf (s.workers.put w) view.id = some view.securityState := by
    intro workerId old w found id state
    rw [states_put_same found id state]
    exact agree
  -- A new worker is healthy, and so was the one it takes the place of.
  have put_new : ∀ w : WorkerNode, w.securityState = .healthy →
      (w.id = view.id → statesOf s.workers view.id = some .healthy) →
      statesOf (s.workers.put w) view.id = some view.securityState := by
    intro w healthy before
    rw [states_put]
    unfold mark
    split
    · rename_i same
      rw [healthy, ← agree, before (Option.some.inj same)]
    · exact agree
  have put_quarantined : ∀ w : WorkerNode, w.securityState = .quarantined →
      statesOf (s.workers.put w) view.id =
        some (if w.id = view.id then .quarantined else view.securityState) := by
    intro w quarantined
    rw [states_put, mark, quarantined, agree]
    simp only [Option.some.injEq]
    split <;> rfl
  cases effect with
  | unchanged => exact agree
  | registered workerId role upstream replaces modelBacked =>
    apply unmarked_shown (by simp [Marks])
    apply put_new _ rfl
    intro same
    subst same
    exact follows listed
  | started found => exact unmarked_shown (by simp [Marks]) (put_back found rfl rfl)
  | completed found active drafted =>
    exact unmarked_shown (by simp [Marks, completedDraft_eventType drafted])
      (put_back found rfl rfl)
  | undrafted found => exact put_back found rfl rfl
  | called found => exact unmarked_shown (by simp [Marks]) (put_back found rfl rfl)
  | recorded => exact agree
  | refused => exact unmarked_shown (by simp [Marks, requestedDraft]) agree
  | served => exact unmarked_shown (by simp [Marks, requestedDraft]) agree
  | denied =>
    rw [quarantine_shown (by simp [Marks, requestedDraft, denyDrafts]) rfl rfl]
    exact put_quarantined _ rfl
  | @quarantined workerId w found active reason violationType =>
    rw [← List.nil_append [s.advanced.quarantinedDraft w reason violationType],
      quarantine_shown (by simp) rfl rfl]
    exact put_quarantined _ rfl
  | @reassigned fromWorkerId w found toWorkerId role task upstream modelBacked =>
    apply unmarked_shown (by simp [Marks, reassignedDrafts])
    apply put_new _ rfl
    intro same
    subst same
    exact follows (Table.has_iff_get?.mpr ⟨w, found⟩) listed
  | testRejected => exact agree
  | tested found => exact unmarked_shown (by simp [Marks]) (put_back found rfl rfl)
  | recovered summary =>
    apply unmarked_shown
    · exact forall_recovered (fun w => by simp [Marks]) (by simp [Marks])
    · change statesOf (s.workers.update WorkerNode.afterRecovery afterRecovery_id) view.id = _
      rw [states_recovering]
      dsimp only
      split
      · rename_i someone
        obtain ⟨w, member, same, recovers⟩ := someone
        rw [← same] at listed agree
        rw [← agree, statesOf_member member, follows w member recovers listed]
      · exact agree
  | failed => exact unmarked_shown (by simp [Marks, stoppedDraft]) agree

theorem agree_kept {joined s body : LiveRuntimeSession} (later : Later joined s)
    (agree : Agree joined s) {op : Operation} {drafts : List EventDraft}
    (effect : Effect s op body drafts) (unmarked : ∀ d ∈ drafts, ¬ Marks d)
    (after : Agree joined (body.published drafts)) {id : String} (listed : joined.workers.Has id) :
    statesOf body.workers id = statesOf s.workers id := by
  obtain ⟨view, member, rfl⟩ := view_of_has listed
  have shown := after view member
  rw [later_drafts later effect, observeAll_append, observeAll_unmarked unmarked,
    ← agree view member] at shown
  exact shown

theorem agree_step_iff {joined s : LiveRuntimeSession} (later : Later joined s)
    (agree : Agree joined s) (op : Operation) :
    Agree joined (exec (perform op) s) ↔ Follows joined s op := by
  constructor
  · intro after
    cases op with
    | registerWorker workerId role upstream replaces modelBacked =>
      intro listed
      obtain ⟨r, run⟩ := registerWorker_run s workerId role upstream replaces modelBacked
      rw [perform, exec_performed run] at after
      rw [← agree_kept later agree (.registered workerId role upstream replaces modelBacked)
        (by simp [Marks]) after listed]
      simp [withWorker, advanced, states_put, mark]
    | reassign fromWorkerId toWorkerId role task upstream modelBacked =>
      intro present listed
      obtain ⟨w, found⟩ := Table.has_iff_get?.mp present
      obtain ⟨r, run⟩ := reassign_run found toWorkerId role task upstream modelBacked
      rw [perform, exec_performed run] at after
      rw [← agree_kept later agree (.reassigned found toWorkerId role task upstream modelBacked)
        (by simp [Marks, reassignedDrafts]) after listed]
      simp [replacing, advanced, states_put, mark]
    | recover summary =>
      intro w member recovers listed
      obtain ⟨r, run⟩ := recover_run s summary
      rw [perform, exec_performed run] at after
      have kept := agree_kept later agree (.recovered summary)
        (forall_recovered (fun w => by simp [Marks]) (by simp [Marks])) after listed
      change statesOf (s.workers.update WorkerNode.afterRecovery afterRecovery_id) w.id = _ at kept
      rw [states_recovering, statesOf_member member] at kept
      simp only [if_pos (⟨w, member, rfl, recovers⟩ :
        ∃ w' ∈ s.workers.values, w'.id = w.id ∧ w'.recovers = true)] at kept
      exact (Option.some.inj kept).symm
    | _ => trivial
  · intro follows view member
    obtain ⟨body, drafts, effect, ended⟩ := perform_effect op s
    have state := agree view member
    have listed := view_has member
    rw [ended, later_drafts later effect, observeAll_append]
    rw [← observeAll_id ((s.log.drop joined.log.length).map Event.toEventDraft) view] at state
    rw [← observeAll_id ((s.log.drop joined.log.length).map Event.toEventDraft) view] at listed
    rw [← observeAll_id ((s.log.drop joined.log.length).map Event.toEventDraft) view]
    exact effect_followed effect follows listed state

theorem agree_at_once (joined : LiveRuntimeSession) : Agree joined joined := by
  intro view member
  rw [List.drop_length]
  obtain ⟨w, inside, rfl⟩ := List.mem_map.mp member
  exact statesOf_member inside

theorem agree_run {joined : LiveRuntimeSession} {ops : List Operation}
    (follow : ∀ done op left, ops = done ++ op :: left →
      Follows joined (serial perform joined done) op) :
    Agree joined (serial perform joined ops) := by
  apply (@serial_guarded _ _ _ _ perform (fun s => Later joined s ∧ Agree joined s)
    (Follows joined) joined ⟨later_run joined [], agree_at_once joined⟩ _ ops follow).2
  intro op s inv follows
  exact ⟨later_step inv.1 op, (agree_step_iff inv.1 inv.2 op).mpr follows⟩

/-- A client that joined after `before` shows the truth all through `after` exactly when the
    operations of `after` leave the workers that it joined with as it can follow them. -/
theorem stage_shows_truth_iff_followed (engine : EngineSort StageNode) (sessionId : Uuid)
    (objective : String) (before after : List Operation) (client : GraphState)
    (identified : ∀ op ∈ before, Identifies op) :
    let joined := serial perform (LiveRuntimeSession.new sessionId objective) before
    (∀ done left, after = done ++ left →
        ShownSince engine client joined (serial perform joined done)) ↔
      ∀ done op left, after = done ++ op :: left →
        Follows joined (serial perform joined done) op := by
  intro joined
  have named : Named (nodes joined) := run_identified sessionId objective identified
  have shown : ∀ done, ShownSince engine client joined (serial perform joined done) ↔
      Agree joined (serial perform joined done) :=
    fun done => shownSince_iff engine client named (later_run joined done)
  constructor
  · intro truth done op left split
    have now := (shown done).mp (truth done (op :: left) split)
    have next := (shown (done ++ [op])).mp (truth (done ++ [op]) left (by simp [split]))
    rw [serial_concat] at next
    exact (agree_step_iff (later_run joined done) now op).mp next
  · intro follow done left split
    apply (shown done).mpr
    apply agree_run
    intro first op rest part
    exact follow first op (rest ++ left) (by simp [split, part])

def handover : List Operation :=
  [.registerWorker "reader" "researcher" [] none false,
    .quarantine "reader" "reads secrets" "secret_path",
    .reassign "reader" "helper" "researcher" "read" [] false]

theorem handover_identified : ∀ op ∈ handover, Identifies op := by
  simp [handover, Identifies]

theorem handover_shown_to_the_end :
    ShownSince .insertion initialGraphState
      (serial perform (LiveRuntimeSession.new 0 "objective") handover)
      (serial perform (serial perform (LiveRuntimeSession.new 0 "objective") handover)
        [.completeTask "helper" "read" "" .plain,
          .quarantine "helper" "reads secrets" "secret_path"])
    := by
  refine (stage_shows_truth_iff_followed .insertion 0 "objective" handover
    [.completeTask "helper" "read" "" .plain, .quarantine "helper" "reads secrets" "secret_path"]
    initialGraphState handover_identified).mpr ?_ _ [] (List.append_nil _).symm
  intro done op left split
  have member : op ∈ [Operation.completeTask "helper" "read" "" .plain,
      .quarantine "helper" "reads secrets" "secret_path"] := by
    rw [split]
    exact List.mem_append_right _ List.mem_cons_self
  rcases List.mem_pair.mp member with rfl | rfl
  · trivial
  · trivial

/-- The recovery of the helper reaches the session and the log, and not the stage of the client
    that joined before it. -/
theorem recovery_is_not_shown :
    let joined := serial perform (LiveRuntimeSession.new 0 "objective") handover
    let s := exec (perform (.recover "done")) joined
    statesOf s.workers "helper" = some .recovered ∧
      (∃ event ∈ s.log.drop joined.log.length,
        event.eventType = .agentRecovered ∧ event.agentId = some "helper") ∧
      ∀ engine, ¬ ShownSince engine initialGraphState joined s := by
  refine ⟨by decide, by decide, ?_⟩
  intro engine shown
  have later := later_run (serial perform (LiveRuntimeSession.new 0 "objective") handover) []
  have agree := (shownSince_iff engine initialGraphState
    (run_identified 0 "objective" handover_identified)
    (later_step later (.recover "done"))).mp shown
  have follows := (agree_step_iff later (agree_at_once _) (.recover "done")).mp agree
  unfold Follows at follows
  revert follows
  decide

end AgentShield.Client
