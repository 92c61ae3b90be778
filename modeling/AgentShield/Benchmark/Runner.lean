import AgentShield.Explanation.RecentWindow
import AgentShield.Orchestrator.ReplayEquivalence

/-!
A benchmark run (`benchmark/runner.py`), which drives the engine with no clock and no bus,
against a live run of the same configuration that came to its end.
-/
namespace AgentShield.Benchmark
open Schema Events Engine GraphBuilder Scenarios Agents Gateway TopologyBuilder Propagation
  Simulate Replay Metrics Orchestrator ExperimentHistory Explanation Loop

/- `duration_s` is left out: it is read off the clock. -/
structure BenchmarkRun where
  name : String
  config : ExperimentConfig
  finalState : WorldState
  graph : SecurityGraph
  events : List Event
  metrics : MetricsResponse

def computeMetrics (state : WorldState) (graph : SecurityGraph) (events : List Event) :
    MetricsResponse :=
  { compromiseFraction := compromiseFraction state
    retainedUtility := retainedUtility state
    blastRadiusFraction := blastRadiusFraction graph
    privilegedExposure := privilegedExposure graph
    securityPlaneIntegrity := securityPlaneIntegrity graph
    attackSuccessRate := attackSuccessRate events
    falseQuarantineRate := falseQuarantineRate events
    detectionLatency := detectionLatency state events
    containmentLatency := containmentLatency events }

def draftsToEvents (experimentId : Uuid) (drafts : List EventDraft) : List Event :=
  (EventEmitter.emit ⟨experimentId, 0⟩ drafts).2

section
variable (rng : Rng) (networkx : Networkx) (provider : Provider) (experimentId : Uuid)
  (name : String) (config : ExperimentConfig)

def benchmarkRun (state : WorldState) (drafts : List EventDraft) : BenchmarkRun :=
  let events := draftsToEvents experimentId drafts
  let graph := buildSecurityGraph rng state config
  { name, config
    finalState := state
    graph, events
    metrics := computeMetrics state graph events }

def runHeadless (rounds : Nat) : Option BenchmarkRun :=
  (simulate rng networkx config rounds).map fun acc =>
    benchmarkRun rng experimentId name config acc.1 acc.2

/- `_run_headless_async`; the gateway asks one provider, whichever it was built with. -/
def runHeadlessAsync (rounds : Nat) : Option BenchmarkRun :=
  (whileLoop (fun acc => !isFinished acc.1.1 config)
    (collecting (asyncTick rng provider config)) rounds
    (((buildWorld rng networkx config).1, ModelGateway.new config),
      startDrafts rng networkx config)).map fun acc =>
    benchmarkRun rng experimentId name config acc.1.1 acc.2

/-- `none` when the loop is not over after `rounds` rounds. -/
def runPreset (rounds : Nat) : Option BenchmarkRun :=
  if usesAsyncScenario config then
    runHeadlessAsync rng networkx provider experimentId name config rounds
  else runHeadless rng networkx experimentId name config rounds

end

section
variable {γ σ : Type} {A : Answering γ} {rng : Rng} {config : ExperimentConfig}
  {hasGateway : Bool} {at_ : WorldState → γ → σ} {tick : σ → σ × List EventDraft}

theorem loop_of_rounds (worldOf : σ → WorldState)
    (reads : ∀ state g, worldOf (at_ state g) = state)
    (computes : Computes A rng config hasGateway at_ tick) {world state : WorldState}
    {g₀ g : γ} {drafts : List EventDraft}
    (rounds : Rounds A rng config hasGateway world g₀ drafts state g)
    (finished : isFinished state config = true) (initial : List EventDraft) :
    ∃ enough, ∀ fuel, enough ≤ fuel →
      whileLoop (fun acc => !isFinished (worldOf acc.1) config) (collecting tick) fuel
        (at_ world g₀, initial) = some (at_ state g, initial ++ drafts) := by
  obtain ⟨n, reached, _, through⟩ := rounds_iterate computes rounds initial
  refine ⟨n, fun fuel enough => ?_⟩
  rw [← reached]
  apply whileLoop_of_rounds _ _ enough
  · intro k below
    obtain ⟨before, gs, sofar, here, going, _⟩ := through k below
    rw [here]
    dsimp only
    rw [reads, going]
    rfl
  · rw [reached]
    dsimp only
    rw [reads, finished]
    rfl

theorem alone_computes (A : Answering γ) (rng : Rng) (config : ExperimentConfig) :
    Computes A rng config false (fun state _ => state) fun state => advance rng state config := by
  intro state g drafts state' g' asked round
  cases round with
  | sync alone => rfl
  | async together awaited => cases together

end

/-- The same drafts, but for notices among the first ones. -/
inductive Tells : List Event → List Event → Prop where
  | nil : Tells [] []
  | cons {event event' : Event} {events events' : List Event}
      (same : event.toEventDraft = event'.toEventDraft) (rest : Tells events events') :
      Tells (event :: events) (event' :: events')
  | notice {event : Event} {events events' : List Event}
      (stopped : event.eventType = .experimentStopped) (rest : Tells events events') :
      Tells (event :: events) events'

theorem numbered_tell (experimentId experimentId' : Uuid) {notices : List EventDraft}
    (stops : ∀ d ∈ notices, d.eventType = .experimentStopped) (drafts : List EventDraft)
    (seq : Nat) :
    Tells (number experimentId seq (drafts ++ notices)) (number experimentId' seq drafts) := by
  induction drafts generalizing seq with
  | nil =>
    rw [List.nil_append]
    induction notices generalizing seq with
    | nil => exact .nil
    | cons d notices ih =>
      obtain ⟨first, later⟩ := List.forall_mem_cons.mp stops
      exact .notice first (ih later (seq + 1))
  | cons d drafts ih => exact .cons rfl (ih (seq + 1))

structure Reads (asks : Event → Bool) : Prop where
  draft : ∀ event event', event.toEventDraft = event'.toEventDraft → asks event = asks event'
  deaf : ∀ event, event.eventType = .experimentStopped → asks event = false

theorem ofType_reads {eventType : EventType} (other : eventType ≠ .experimentStopped) :
    Reads (ofType eventType) where
  draft event event' same := by
    have types : event.eventType = event'.eventType := congrArg EventDraft.eventType same
    simp [ofType, types]
  deaf event stopped := by simp [ofType, stopped, Ne.symm other]

theorem Reads.and {asks : Event → Bool} (reads : Reads asks) {more : EventDraft → Bool} :
    Reads fun event => asks event && more event.toEventDraft where
  draft event event' same := by rw [reads.draft event event' same, same]
  deaf event stopped := by rw [reads.deaf event stopped, Bool.false_and]

theorem tells_countP {asks : Event → Bool} (reads : Reads asks) {events events' : List Event}
    (tells : Tells events events') : events.countP asks = events'.countP asks := by
  induction tells with
  | nil => rfl
  | cons same rest ih => rw [List.countP_cons, List.countP_cons, ih, reads.draft _ _ same]
  | notice stopped rest ih => rw [List.countP_cons, ih, reads.deaf _ stopped]; simp

theorem tells_foldl {β : Type} {note : β → Event → β}
    (draft : ∀ b event event', event.toEventDraft = event'.toEventDraft →
      note b event = note b event')
    (deaf : ∀ b event, event.eventType = .experimentStopped → note b event = b)
    {events events' : List Event} (tells : Tells events events') (b : β) :
    events.foldl note b = events'.foldl note b := by
  induction tells generalizing b with
  | nil => rfl
  | cons same rest ih => rw [List.foldl_cons, List.foldl_cons, draft b _ _ same, ih]
  | notice stopped rest ih => rw [List.foldl_cons, deaf b _ stopped, ih]

theorem tells_firstTicks {counts : Event → Bool} (reads : Reads counts)
    {events events' : List Event} (tells : Tells events events') :
    firstTicks counts events = firstTicks counts events' := by
  apply tells_foldl _ _ tells
  · intro first event event' same
    have agent : event.agentId = event'.agentId := congrArg EventDraft.agentId same
    have tick : event.simTick = event'.simTick := congrArg EventDraft.simTick same
    simp only [agent, tick, reads.draft _ _ same]
  · intro first event stopped
    cases agent : event.agentId <;> simp [reads.deaf _ stopped]

theorem attackSuccessRate_tells {events events' : List Event} (tells : Tells events events') :
    attackSuccessRate events = attackSuccessRate events' := by
  unfold attackSuccessRate
  rw [tells_countP (ofType_reads (by decide)) tells, tells_countP (ofType_reads (by decide)) tells]

theorem falseQuarantineRate_eq (events : List Event) :
    falseQuarantineRate events =
      if events.countP (ofType .agentQuarantined) = 0 then 0
      else fraction
        (events.countP fun event => ofType .agentQuarantined event && illegitimate event)
        (events.countP (ofType .agentQuarantined)) := by
  unfold falseQuarantineRate
  dsimp only
  have empty : (events.filter (ofType .agentQuarantined)).isEmpty = true ↔
      events.countP (ofType .agentQuarantined) = 0 := by
    rw [List.isEmpty_iff, List.countP_eq_length_filter, List.length_eq_zero_iff]
  have both : (events.filter (ofType .agentQuarantined)).countP illegitimate =
      events.countP fun event => ofType .agentQuarantined event && illegitimate event := by
    simp only [List.countP_filter, Bool.and_comm]
  rw [both, ← List.countP_eq_length_filter]
  by_cases none_ : events.countP (ofType .agentQuarantined) = 0
  · rw [if_pos none_, if_pos (empty.mpr none_)]
  · rw [if_neg none_, if_neg (mt empty.mp none_)]

theorem computeMetrics_tells (state : WorldState) (graph : SecurityGraph)
    {events events' : List Event} (tells : Tells events events') :
    computeMetrics state graph events = computeMetrics state graph events' := by
  have detected : firstTicks (ofType .anomalyDetected) events =
      firstTicks (ofType .anomalyDetected) events' :=
    tells_firstTicks (ofType_reads (by decide)) tells
  have founded : Reads fun event => ofType .agentQuarantined event && !illegitimate event :=
    @Reads.and _ (ofType_reads (by decide)) fun d =>
      !decide (metadataGet d.metadata "legitimate" = some (.bool false))
  have quarantined := tells_firstTicks founded tells
  have unfounded : Reads fun event => ofType .agentQuarantined event && illegitimate event :=
    @Reads.and _ (ofType_reads (by decide)) fun d =>
      decide (metadataGet d.metadata "legitimate" = some (.bool false))
  have rates : falseQuarantineRate events = falseQuarantineRate events' := by
    rw [falseQuarantineRate_eq, falseQuarantineRate_eq, tells_countP unfounded tells,
      tells_countP (ofType_reads (by decide)) tells]
  unfold computeMetrics detectionLatency containmentLatency
  rw [attackSuccessRate_tells tells, rates, detected, quarantined]

theorem done_whole {γ : Type} {A : Answering γ} {rng : Rng} {config : ExperimentConfig}
    {hasGateway : Bool} {s state : WorldState} {gs g : γ} {loop : LoopPlace}
    (over_ : loop = .done) (place : At A rng config hasGateway s gs state g loop) : state = s := by
  cases place with
  | created => rfl
  | sleeping => rfl
  | paused going => rfl
  | done => rfl
  | waiting going together awaited => cases over_
  | cancelled => rfl
  | interrupted going together awaited => cases over_

theorem preset_of_rounds {rng : Rng} {networkx : Networkx} {provider : Provider}
    {config : ExperimentConfig} {s : WorldState} {gs : ModelGateway} {drafts : List EventDraft}
    (taken : Rounds (gatewayAnswers provider) rng config (buildsGateway config)
      (buildWorld rng networkx config).1 (ModelGateway.new config) drafts s gs)
    (finished : isFinished s config = true) (experimentId : Uuid) (name : String) :
    ∃ enough, ∀ rounds, enough ≤ rounds →
      runPreset rng networkx provider experimentId name config rounds =
        some (benchmarkRun rng experimentId name config s
          (startDrafts rng networkx config ++ drafts)) := by
  by_cases together : usesAsyncScenario config = true
  · have gateway : buildsGateway config = true := together
    rw [gateway] at taken
    obtain ⟨enough, returned⟩ := loop_of_rounds Prod.fst (fun _ _ => rfl)
      (async_computes rng provider config) taken finished (startDrafts rng networkx config)
    refine ⟨enough, fun fuel few => ?_⟩
    rw [runPreset, if_pos together, runHeadlessAsync, returned fuel few]
    rfl
  · have alone : buildsGateway config = false := Bool.eq_false_iff.mpr together
    rw [alone] at taken
    obtain ⟨enough, returned⟩ := loop_of_rounds id (fun _ _ => rfl)
      (alone_computes _ rng config) taken finished (startDrafts rng networkx config)
    refine ⟨enough, fun fuel few => ?_⟩
    have simulated : simulate rng networkx config fuel =
        some (s, startDrafts rng networkx config ++ drafts) := returned fuel few
    rw [runPreset, if_neg together, runHeadless, simulated]
    rfl

/-- A live run that came to its end and the benchmark of its configuration have the same world
    and the same drafts, but for the notices of a stop that came later. The endpoint reports
    the benchmark's metrics while the buffer holds the whole log, and else only those of them
    that are read off the world. -/
theorem benchmark_is_live_run (rng : Rng) (networkx : Networkx) (provider : Provider)
    (experimentId benchmarkId : Uuid) (name : String) (config : ExperimentConfig) (c : Config)
    (g : ModelGateway)
    (run : Run (gatewayAnswers provider) rng
      (created rng networkx experimentId config (buildsGateway config))
      (ModelGateway.new config) c g)
    (over_ : c.loop = .done) (finished : isFinished c.runner.state config = true) :
    ∃ benchmark notices enough, (∀ rounds, enough ≤ rounds →
        runPreset rng networkx provider benchmarkId name config rounds = some benchmark) ∧
      benchmark.finalState = c.runner.state ∧
      c.runner.log = benchmark.events.map Event.toEventDraft ++ notices ∧
      (∀ d ∈ notices, d.eventType = .experimentStopped) ∧
      getMetrics rng (some c.runner) = some (if c.runner.log.length ≤ ringSize
        then benchmark.metrics
        else computeMetrics benchmark.finalState benchmark.graph []) := by
  have reach := run_reachable gatewayAnswers_length run
  have progress := run_progress run
  obtain ⟨s, gs, drafts, notices, rounds, place, log, stops, _⟩ := progress.rounds
  have whole := done_whole over_ place
  rw [whole] at finished
  obtain ⟨enough, returns⟩ := preset_of_rounds rounds finished benchmarkId name
  have published : c.runner.bus.published =
      number experimentId 0 (startDrafts rng networkx config ++ drafts ++ notices) := by
    rw [(reachable_numbered reach).events, log]
    rfl
  have tells := numbered_tell experimentId benchmarkId stops
    (startDrafts rng networkx config ++ drafts) 0
  refine ⟨_, notices, enough, returns, whole.symm, ?_, stops, ?_⟩
  · rw [log]
    congr 1
    exact (emitted_drafts benchmarkId _).symm
  · have length : c.runner.log.length = c.runner.bus.published.length := List.length_map _
    have reported : getMetrics rng (some c.runner) = some (computeMetrics c.runner.state
      (buildSecurityGraph rng c.runner.state c.runner.config) (recentWindow c.runner.bus)) := rfl
    rw [reported, whole, progress.configured, recentWindow_eq (runner_sound reach), length]
    congr 1
    split
    · rw [published]
      exact computeMetrics_tells s _ tells
    · rfl

theorem one_tick_short : (initialDrafts default default oneTick ++
    (advance default (buildWorld default default oneTick).1 oneTick).2).length ≤ ringSize := by
  decide +kernel

/-- A run of one tick that spreads: the benchmark ends in its world, with its drafts, and the
    endpoint reports its metrics. -/
theorem one_tick_benchmark : ∃ (c : Config) (benchmark : BenchmarkRun) (enough : Nat),
    c.runner.status = .finished ∧
    (∃ d ∈ c.runner.log.drop (initialDrafts default default oneTick).length, Marks d) ∧
    (∀ rounds, enough ≤ rounds →
      runPreset default default (mockProvider default) 1 "one tick" oneTick rounds =
        some benchmark) ∧
    benchmark.finalState = c.runner.state ∧
    benchmark.events.map Event.toEventDraft <+: c.runner.log ∧
    getMetrics default (some c.runner) = some benchmark.metrics := by
  obtain ⟨going, d, told, _, marks⟩ := one_tick_spreads
  obtain ⟨c, run⟩ := ticked_finishes going (by decide)
  have sleeping := ticked_sleeping going
  have log := run.log.trans (ticked_log going)
  have finished : isFinished c.runner.state oneTick = true := by
    rw [run.state, sleeping]
    exact finished_at_max (n := 1) (by decide)
  obtain ⟨benchmark, notices, enough, returns, same, told_, _, metrics⟩ :=
    benchmark_is_live_run default default (mockProvider default) 0 1 "one tick" oneTick c
      (ModelGateway.new oneTick) (run.unasked _ _) run.done finished
  refine ⟨c, benchmark, enough, run.finished, ⟨d, ?_, marks⟩, returns, same, ?_, ?_⟩
  · rw [log, List.drop_left]
    exact told
  · rw [told_]
    exact List.prefix_append _ _
  · rw [metrics, if_pos]
    rw [log]
    exact one_tick_short

end AgentShield.Benchmark
