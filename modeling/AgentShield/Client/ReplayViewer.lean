import AgentShield.Api.StoredRun
import AgentShield.Client.Reducer
import AgentShield.Engine.Simulate
import AgentShield.Scenarios.Exposure

/-!
The replay viewer (`lib/replay/loadReplayData.ts`): the stored events after tick 0,
folded over a snapshot of tick 0 that is built anew.
-/
namespace AgentShield.Client
open Schema Events Keyed Engine Scenarios TopologyBuilder Propagation ExperimentHistory Paging
  Orchestrator Simulate

def eventPageLimit : Between 1 2000 := ⟨500, by decide⟩

/- `throw new Error(...)` unless `res.ok`. -/
def fetched {α : Type} (what : String) : Except HTTPException α → Except String α
  | .ok body => .ok body
  | .error failure => .error ("failed to " ++ what ++ ": " ++ toString failure.statusCode)

structure ReplayData where
  incomplete : Bool
  initialState : GraphState
  events : List Event

section
variable (rng : Rng) (networkx : Networkx) (connected : Option Pool) (experimentId : Uuid)

/- `await` for each page in turn; `none` when `rounds` pages do not suffice. -/
def fetchReplayEvents (rounds : Nat) (lastSeq : Int) : Option (Except String (List Event)) :=
  collect (fun sinceSeq => fetched "fetch events"
    (getExperimentEvents connected experimentId eventPageLimit sinceSeq)) rounds lastSeq []

def loadReplayData (rounds : Nat) : Option (Except String ReplayData) :=
  match fetched "get experiment detail" (getExperimentDetail connected experimentId) with
  | .error text => some (.error text)
  | .ok detail =>
    match fetched "fetch replay snapshot"
        (getReplaySnapshot rng networkx connected experimentId) with
    | .error text => some (.error text)
    | .ok snapshot =>
      match reduce initialGraphState (.snapshot snapshot) with
      | .error text => some (.error text)
      | .ok initialState =>
        match fetchReplayEvents connected experimentId rounds snapshot.lastSeq with
        | none => none
        | some (.error text) => some (.error text)
        | some (.ok events) =>
          some (.ok
            { incomplete := decide (detail.isComplete ≠ some true)
              initialState
              events })

end

/- Reading past the end of `events` is a `TypeError`. -/
def foldEvents (start : GraphState) (events : List Event) : Nat → Except String GraphState
  | 0 => .ok start
  | i + 1 => do
    let state ← foldEvents start events i
    match events[i]? with
    | none => .error "Cannot read properties of undefined (reading 'schema_version')"
    | some event => reduce state (.event event schemaVersion)

theorem reduceAll_concat (state : GraphState) (events : List Event) (last : Event) :
    reduceAll state (events ++ [last]) =
      reduceAll state events >>= fun state => reduce state (.event last schemaVersion) := by
  induction events generalizing state with
  | nil =>
    change (reduce state (.event last schemaVersion)).bind (fun state => .ok state) =
      reduce state (.event last schemaVersion)
    cases reduce state (.event last schemaVersion) <;> rfl
  | cons event rest ih =>
    rw [List.cons_append]
    unfold reduceAll
    cases reduce state (.event event schemaVersion) with
    | error text => rfl
    | ok state => exact ih state

theorem foldEvents_take (start : GraphState) (events : List Event) {count : Nat}
    (inside : count ≤ events.length) :
    foldEvents start events count = reduceAll start (events.take count) := by
  induction count with
  | zero => rfl
  | succ i ih =>
    have event := List.getElem?_eq_getElem inside
    rw [List.take_add_one, event, Option.toList_some, reduceAll_concat,
      ← ih (Nat.le_of_succ_le inside)]
    conv_lhs => unfold foldEvents
    rw [event]

theorem reduceAll_newCompromises {events : List Event} {state state' : GraphState}
    (reduced : reduceAll state events = .ok state') :
    state'.metrics.newCompromises =
      state.metrics.newCompromises + events.countP (fun event => First event.toEventDraft) := by
  induction events generalizing state with
  | nil =>
    cases reduced
    rfl
  | cons event rest ih =>
    have one : (reduceEvent state event).metrics.newCompromises =
        state.metrics.newCompromises + if First event.toEventDraft then 1 else 0 := by
      have same : (event.eventType = .compromiseSucceeded ∧ alreadyCompromised event = false) ↔
          First event.toEventDraft := by
        unfold First alreadyCompromised
        rw [decide_eq_false_iff_not]
      unfold reduceEvent reduceMetrics
      simp only [same]
      split <;> split <;> rfl
    rw [@ih (reduceEvent state event) reduced, one, List.countP_cons]
    simp only [decide_eq_true_eq]
    omega

theorem reduceSnapshot_first {frame : SnapshotFrame}
    (distinct : (frame.nodes.map NodeView.id).Nodup) :
    (reduceSnapshot initialGraphState frame).nodes.values = frame.nodes ∧
      (reduceSnapshot initialGraphState frame).metrics.newCompromises =
        frame.nodes.countP exposed := by
  constructor
  · exact reduceSnapshot_values initialGraphState distinct
  · exact List.countP_eq_length_filter.symm

theorem buildWorld_exposed (rng : Rng) (networkx : Networkx) (config : ExperimentConfig) :
    (buildWorld rng networkx config).1.views.countP exposed =
      exposure (buildWorld rng networkx config).1 := by
  obtain ⟨_, each⟩ := buildWorld_zero rng networkx config
  unfold WorldState.views exposure
  rw [List.countP_map]
  apply List.countP_congr
  intro node member
  have kind := (each node member).2
  simp only [Function.comp_apply, exposed, view_securityState, decide_eq_true_eq]
  split at kind
  · simp [kind]
  · simp [kind]

theorem views_distinct (state : WorldState) : (state.views.map NodeView.id).Nodup := by
  unfold WorldState.views
  rw [List.map_map]
  exact state.nodes.distinct

theorem tick0_stored {rng : Rng} {networkx : Networkx} {experimentId : Uuid}
    {config : ExperimentConfig} {hasGateway : Bool} {c : Config} {pool : Pool}
    (reach : Reachable rng (created rng networkx experimentId config hasGateway) c)
    (stored : pool.eventsOf experimentId = c.runner.bus.published) :
    ∃ lastSeq, lastSeqOfTick0 pool experimentId = some lastSeq := by
  obtain ⟨event, member, start⟩ := reachable_started reach
  apply Option.ne_none_iff_exists'.mp
  unfold lastSeqOfTick0
  rw [stored, ne_eq, List.max?_eq_none_iff, List.map_eq_nil_iff, List.filter_eq_nil_iff]
  intro never
  exact never event member (decide_eq_true start)

def laterDrafts (drafts : List EventDraft) : List EventDraft :=
  drafts.filter fun d => ¬ d.simTick ≤ 0

def Viewed (rng : Rng) (networkx : Networkx) (pool : Pool) (experimentId : Uuid) (rounds : Nat)
    (final : GraphState) : Prop :=
  ∃ data, loadReplayData rng networkx (some pool) experimentId rounds = some (.ok data) ∧
    foldEvents data.initialState data.events data.events.length = .ok final

section
variable {rng : Rng} {networkx : Networkx} {experimentId : Uuid} {config : ExperimentConfig}
  {hasGateway : Bool} {c : Config} {pool : Pool} {rounds : Nat}

theorem fetched_of_persisted
    (reach : Reachable rng (created rng networkx experimentId config hasGateway) c)
    (persisted : Persisted pool experimentId c.runner)
    (enough : c.runner.bus.published.length < rounds * eventPageLimit.val) {lastSeq : Nat}
    (last : lastSeqOfTick0 pool experimentId = some lastSeq) :
    ∃ events, fetchReplayEvents (some pool) experimentId rounds lastSeq = some (.ok events) ∧
      events.map Event.toEventDraft = laterDrafts c.runner.log := by
  have numbered := reachable_numbered reach
  have stored := stored_run numbered persisted
  obtain ⟨row, recorded, _⟩ := persisted.recorded
  have sorted : BySeq c.runner.bus.published := bySeq_of_range (numbered_seqs numbered)
  have ordered : c.runner.bus.published.Pairwise fun a b => a.simTick ≤ b.simTick :=
    (List.pairwise_map (f := Event.toEventDraft)).mp (reachable_inOrder reach).sorted
  have fetches : ∀ sinceSeq, fetched "fetch events"
      (getExperimentEvents (some pool) experimentId eventPageLimit sinceSeq) =
        .ok (page (fun row : Event => (row.seq : Int)) c.runner.bus.published
          eventPageLimit.val sinceSeq) := by
    intro sinceSeq
    rw [getExperimentEvents_recorded recorded, stored]
    rfl
  have few : (after (fun row : Event => (row.seq : Int)) c.runner.bus.published lastSeq).length <
      rounds * eventPageLimit.val :=
    Nat.lt_of_le_of_lt (List.length_filter_le _ _) enough
  refine ⟨c.runner.bus.published.filter fun event => ¬ event.simTick ≤ 0, ?_, ?_⟩
  · unfold fetchReplayEvents
    rw [collect_all sorted eventPageLimit.property.1 fetches few, List.nil_append,
      tick0_cut stored ordered last]
  · unfold laterDrafts ExperimentRunner.log
    rw [List.filter_map]
    rfl

theorem loaded_of_persisted
    (reach : Reachable rng (created rng networkx experimentId config hasGateway) c)
    (persisted : Persisted pool experimentId c.runner)
    (enough : c.runner.bus.published.length < rounds * eventPageLimit.val) :
    ∃ frame events, frame.nodes = (buildWorld rng networkx config).1.views ∧
      events.map Event.toEventDraft = laterDrafts c.runner.log ∧
      loadReplayData rng networkx (some pool) experimentId rounds = some (.ok
        { incomplete := false
          initialState := reduceSnapshot initialGraphState frame
          events }) := by
  obtain ⟨row, recorded, same, complete⟩ := persisted.recorded
  have configured : row.config = config := same.trans (reachable_progress reach).configured
  obtain ⟨lastSeq, last⟩ := tick0_stored reach (stored_run (reachable_numbered reach) persisted)
  obtain ⟨events, pages, told⟩ := fetched_of_persisted reach persisted enough last
  obtain ⟨frame, snapshot, nodes, seq⟩ : ∃ frame,
      getReplaySnapshot rng networkx (some pool) experimentId = .ok frame ∧
        frame.nodes = (buildWorld rng networkx config).1.views ∧ frame.lastSeq = lastSeq := by
    refine ⟨_, getReplaySnapshot_recorded recorded last, ?_, rfl⟩
    rw [configured]
  refine ⟨frame, events, nodes, told, ?_⟩
  unfold loadReplayData
  rw [getExperimentDetail_recorded recorded, snapshot]
  simp only [fetched, reduce]
  rw [seq, pages]
  simp only [complete, ne_eq, not_true_eq_false, decide_false]

theorem viewed_of_persisted
    (reach : Reachable rng (created rng networkx experimentId config hasGateway) c)
    (persisted : Persisted pool experimentId c.runner)
    (enough : c.runner.bus.published.length < rounds * eventPageLimit.val) :
    ∃ final, (∀ other, Viewed rng networkx pool experimentId rounds other ↔ other = final) ∧
      final.nodes.values =
        foldViews (buildWorld rng networkx config).1.views (laterDrafts c.runner.log) ∧
      final.metrics.newCompromises = exposure (buildWorld rng networkx config).1 +
        (laterDrafts c.runner.log).countP (fun d => First d) := by
  obtain ⟨frame, events, nodes, told, loaded⟩ := loaded_of_persisted reach persisted enough
  have distinct : (frame.nodes.map NodeView.id).Nodup := by
    rw [nodes]
    exact views_distinct _
  obtain ⟨views, seeded⟩ := reduceSnapshot_first distinct
  have named : Named (reduceSnapshot initialGraphState frame).nodes.values := by
    rw [views, nodes]
    exact effects_named (.none _)
  obtain ⟨final, reduced, folded⟩ := reduceAll_views events named
  refine ⟨final, ?_, ?_, ?_⟩
  · intro other
    unfold Viewed
    rw [loaded]
    constructor
    · rintro ⟨data, same, result⟩
      cases same
      rw [foldEvents_take _ _ (Nat.le_refl _), List.take_length, reduced] at result
      exact (Except.ok.inj result).symm
    · rintro rfl
      refine ⟨_, rfl, ?_⟩
      rw [foldEvents_take _ _ (Nat.le_refl _), List.take_length, reduced]
  · rw [folded, views, nodes, told]
  · rw [reduceAll_newCompromises reduced, seeded, nodes, buildWorld_exposed, ← told, List.countP_map]
    rfl

/-- After the initial drafts, nothing of tick 0 compromises or quarantines an agent, and the
    loop holds nothing back that does. -/
structure QuietStart (rng : Rng) (networkx : Networkx) (config : ExperimentConfig) (c : Config) :
    Prop where
  published : ∀ d ∈ c.runner.log.drop (initialDrafts rng networkx config).length,
    d.simTick = 0 → ¬ Marks d
  held : NothingHeldBack c.loop

variable {s : WorldState} {drafts ended : List EventDraft}

theorem later_of_split (split : Split rng networkx config c s drafts ended) :
    laterDrafts c.runner.log = laterDrafts drafts ++ laterDrafts ended := by
  have cut : laterDrafts (initialDrafts rng networkx config) = [] := by
    apply List.filter_eq_nil_iff.mpr
    intro d member late
    exact of_decide_eq_true late (Nat.le_of_eq (initial_now rng networkx config d member))
  unfold laterDrafts at cut ⊢
  rw [split.log, List.filter_append, List.filter_append, cut, List.nil_append]

theorem later_notices (split : Split rng networkx config c s drafts ended) :
    ∀ d ∈ laterDrafts ended, ¬ Marks d :=
  fun d member => notices_unmarked split.notices d (List.mem_of_mem_filter member)

theorem quietStart_iff (split : Split rng networkx config c s drafts ended) :
    QuietStart rng networkx config c ↔
      ∀ d ∈ (drafts.filter fun d => d.simTick ≤ 0) ++ c.loop.unpublished, ¬ Marks d := by
  have rest : c.runner.log.drop (initialDrafts rng networkx config).length = drafts ++ ended := by
    rw [split.log, List.append_assoc]
    exact List.drop_left
  constructor
  · intro quiet d member
    rcases List.mem_append.mp member with early | late
    · obtain ⟨published, now⟩ := List.mem_filter.mp early
      apply quiet.published d
      · rw [rest]
        exact List.mem_append_left ended published
      · exact Nat.le_zero.mp (of_decide_eq_true now)
    · exact quiet.held d late
  · intro unmarked
    constructor
    · rw [rest]
      intro d member now
      rcases List.mem_append.mp member with published | notice
      · apply unmarked d
        apply List.mem_append_left
        exact List.mem_filter.mpr ⟨published, decide_eq_true (Nat.le_of_eq now)⟩
      · exact notices_unmarked split.notices d notice
    · intro d member
      exact unmarked d (List.mem_append_right _ member)

theorem later_views_iff
    (reach : Reachable rng (created rng networkx experimentId config hasGateway) c) :
    foldViews (buildWorld rng networkx config).1.views (laterDrafts c.runner.log) =
        c.runner.state.views ↔ QuietStart rng networkx config c := by
  obtain ⟨s, drafts, ended, split⟩ := reachable_split reach
  obtain ⟨w, early, middle⟩ := effects_cut split.rounds 0
  rw [later_of_split split, foldViews_append, foldViews_unmarked (later_notices split),
    quietStart_iff split]
  exact middle_tells_iff (buildWorld_wellFormed rng networkx config) early middle split.held

theorem later_exposure
    (reach : Reachable rng (created rng networkx experimentId config hasGateway) c)
    (quiet : QuietStart rng networkx config c) :
    exposure (buildWorld rng networkx config).1 +
      (laterDrafts c.runner.log).countP (fun d => First d) = exposure c.runner.state := by
  obtain ⟨s, drafts, ended, split⟩ := reachable_split reach
  obtain ⟨w, early, middle⟩ := effects_cut split.rounds 0
  have unmarked := (quietStart_iff split).mp quiet
  have wellFormed := buildWorld_wellFormed rng networkx config
  have wellFormed' := effects_wellFormed wellFormed early
  have before := effects_exposure wellFormed early
  have between := effects_exposure wellFormed' middle
  have behind := effects_exposure (effects_wellFormed wellFormed' middle) split.held
  rw [countP_none fun d member first =>
    unmarked d (List.mem_append_left _ member) (Or.inl first.1)] at before
  rw [countP_none fun d member first =>
    unmarked d (List.mem_append_right _ member) (Or.inl first.1)] at behind
  have notices := countP_none fun d member (first : First d) =>
    later_notices split d member (Or.inl first.1)
  rw [later_of_split split, List.countP_append, notices, behind, between, before]
  rfl

/-- The viewer shows the nodes of the end, and one compromise for each agent with a date. -/
def ReachesEnd (rng : Rng) (networkx : Networkx) (pool : Pool) (experimentId : Uuid)
    (rounds : Nat) (state : WorldState) : Prop :=
  ∃ final, Viewed rng networkx pool experimentId rounds final ∧
    final.nodes.values = state.views ∧ final.metrics.newCompromises = exposure state

theorem replay_viewer_reaches_end_iff (rng : Rng) (networkx : Networkx) (experimentId : Uuid)
    (config : ExperimentConfig) (hasGateway : Bool) (c : Config)
    (reach : Reachable rng (created rng networkx experimentId config hasGateway) c) (pool : Pool)
    (persisted : Persisted pool experimentId c.runner) (rounds : Nat)
    (enough : c.runner.bus.published.length < rounds * eventPageLimit.val) :
    ReachesEnd rng networkx pool experimentId rounds c.runner.state ↔
      QuietStart rng networkx config c := by
  obtain ⟨final, only, views, count⟩ := viewed_of_persisted reach persisted enough
  rw [← later_views_iff reach]
  constructor
  · rintro ⟨other, viewed, same, _⟩
    obtain rfl := (only other).mp viewed
    rw [← views]
    exact same
  · intro same
    refine ⟨final, (only final).mpr rfl, views.trans same, ?_⟩
    rw [count]
    exact later_exposure reach ((later_views_iff reach).mp same)

end

def noRows : Pool := ⟨Table.empty, Table.empty⟩

def quietTick : ExperimentConfig :=
  { oneTick with
    pSame := impossible
    pCross := impossible }

theorem quiet_tick_fails :
    isFinished (buildWorld default default quietTick).1 quietTick = false ∧
      (advance default (buildWorld default default quietTick).1 quietTick).2 ≠ [] ∧
      ∀ d ∈ (advance default (buildWorld default default quietTick).1 quietTick).2, ¬ Marks d := by
  refine ⟨one_tick_spreads.1, ?_⟩
  decide +kernel

/-- The run of a quiet tick finished, is stored completely, and the viewer shows its end. -/
theorem replay_viewer_reaches_quiet_end :
    ∃ c, Reachable default (created default default 0 quietTick false) c ∧
      c.runner.status = .finished ∧
      c.runner.log.length > (initialDrafts default default quietTick).length ∧
      ReachesEnd default default (storeOf noRows 0 c.runner) 0
        (c.runner.bus.published.length + 1) c.runner.state := by
  obtain ⟨going, attempts, failed⟩ := quiet_tick_fails
  obtain ⟨c, run⟩ := ticked_finishes going (by decide)
  have reach := oneTickRun_reachable run
  have log := run.log.trans (ticked_log going)
  have quiet : QuietStart default default quietTick c := by
    constructor
    · intro d later _
      rw [log, List.drop_left] at later
      exact failed d later
    · rw [run.done]
      exact List.forall_mem_nil _
  refine ⟨c, reach, run.finished, ?_, ?_⟩
  · rw [log, List.length_append]
    exact Nat.lt_add_of_pos_right (List.length_pos_of_ne_nil attempts)
  · exact (replay_viewer_reaches_end_iff default default 0 quietTick false c reach _
      (reachable_stored noRows reach rfl) _ (Nat.lt_of_lt_of_le (Nat.lt_succ_self _)
        (Nat.le_mul_of_pos_right _ (by decide)))).mpr quiet

theorem replay_viewer_misses_first_tick :
    ∃ c, Reachable default (created default default 0 oneTick false) c ∧
      c.runner.status = .finished ∧ Persisted (storeOf noRows 0 c.runner) 0 c.runner ∧
      ∀ rounds, c.runner.bus.published.length < rounds * eventPageLimit.val →
        ¬ ReachesEnd default default (storeOf noRows 0 c.runner) 0 rounds c.runner.state := by
  obtain ⟨going, d, member, now, marks⟩ := one_tick_spreads
  obtain ⟨c, run⟩ := ticked_finishes going (by decide)
  have reach := oneTickRun_reachable run
  have persisted := reachable_stored noRows reach rfl
  refine ⟨c, reach, run.finished, persisted, ?_⟩
  rintro rounds enough ⟨final, viewed, same, _⟩
  obtain ⟨last, only, views, _⟩ := viewed_of_persisted reach persisted enough
  obtain rfl := (only final).mp viewed
  have quiet := (later_views_iff reach).mp (views.symm.trans same)
  apply quiet.published d _ now marks
  rw [run.log, ticked_log going, List.drop_left]
  exact member

end AgentShield.Client
