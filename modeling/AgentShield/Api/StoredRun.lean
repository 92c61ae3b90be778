import AgentShield.Api.History
import AgentShield.Api.Streams
import AgentShield.Orchestrator.LoopRuns
import AgentShield.Scenarios.Chronology

/-!
A run as the history keeps it: its events are numbered from 0 on, and stand in the
order of their ticks.
-/
namespace AgentShield.ExperimentHistory
open Schema Keyed Events Engine TopologyBuilder Scenarios Orchestrator Streams Paging

structure Numbered (experimentId : Uuid) (runner : ExperimentRunner) : Prop where
  events : runner.bus.published = number experimentId 0 runner.log
  emitter : runner.emitter = ⟨experimentId, runner.bus.published.length⟩

theorem publishes_numbered {experimentId : Uuid} {runner runner' : ExperimentRunner}
    (numbered : Numbered experimentId runner) (publishes : Publishes runner runner') :
    Numbered experimentId runner' := by
  obtain ⟨drafts, bus, emitter⟩ := publishes
  have published : runner'.bus.published = runner.bus.published ++
      number experimentId runner.bus.published.length drafts := by
    rw [bus]
    unfold ExperimentRunner.publish EventEmitter.emit
    rw [publish_published, numbered.emitter]
  have log : runner'.log = runner.log ++ drafts := by
    unfold ExperimentRunner.log
    rw [published, List.map_append, number_drafts]
  have lengths : runner.log.length = runner.bus.published.length := List.length_map _
  constructor
  · rw [published, log, number_append, ← numbered.events, Nat.zero_add, lengths]
  · rw [emitter, published]
    unfold ExperimentRunner.publish EventEmitter.emit
    rw [numbered.emitter, List.length_append, number_length]

theorem reachable_numbered {rng : Rng} {networkx : Networkx} {experimentId : Uuid}
    {config : ExperimentConfig} {hasGateway : Bool} {c : Config}
    (reach : Reachable rng (created rng networkx experimentId config hasGateway) c) :
    Numbered experimentId c.runner := by
  induction reach with
  | refl =>
    have fresh : Numbered experimentId
        (ExperimentRunner.new rng networkx experimentId config hasGateway) := ⟨rfl, rfl⟩
    exact publishes_numbered fresh ⟨_, rfl, rfl⟩
  | tail _ turn ih =>
    cases turn with
    | own step => exact publishes_numbered ih (runner_act step)
    | stream published buffer =>
      have same := ih.events
      have emitter := ih.emitter
      rw [← published] at same emitter
      refine ⟨?_, emitter⟩
      unfold ExperimentRunner.log at same ⊢
      rw [published] at same ⊢
      exact same

theorem endLoop_kept (runner : ExperimentRunner) :
    (endLoop runner).1.log = runner.log ∧ (endLoop runner).1.state = runner.state := by
  unfold endLoop
  split <;> exact ⟨rfl, rfl⟩

theorem runTick_going (rng : Rng) (runner : ExperimentRunner) :
    (runTick rng runner).2.isOver = false := by
  unfold runTick
  dsimp only
  split
  · cases runAsyncScenarios runner.config (advance rng runner.state runner.config).1.tick
        runner.config.activeScenarios (advance rng runner.state runner.config).1 [] <;> rfl
  · rfl

theorem afterPause_over {rng : Rng} {runner : ExperimentRunner}
    (over_ : (afterPause rng runner).2.isOver = true) :
    (afterPause rng runner).1.log = runner.log ∧
      (afterPause rng runner).1.state = runner.state := by
  unfold afterPause at over_ ⊢
  split
  · rename_i running
    rw [if_pos running, runTick_going] at over_
    cases over_
  · exact endLoop_kept runner

theorem loopHead_over {rng : Rng} {runner : ExperimentRunner}
    (over_ : (loopHead rng runner).2.isOver = true) :
    (loopHead rng runner).1.log = runner.log ∧ (loopHead rng runner).1.state = runner.state := by
  unfold loopHead at over_ ⊢
  split
  · rename_i head
    rw [if_pos head] at over_
    split
    · rename_i unpaused
      rw [if_pos unpaused] at over_
      exact afterPause_over over_
    · exact ⟨rfl, rfl⟩
  · exact endLoop_kept runner

/-- The rounds that are published, the drafts that are held, and the notices of the stop. -/
structure Split (rng : Rng) (networkx : Networkx) (config : ExperimentConfig) (c : Config)
    (s : WorldState) (drafts ended : List EventDraft) : Prop where
  rounds : Effects config (buildWorld rng networkx config).1 drafts s
  held : Effects config s c.loop.unpublished c.runner.state
  log : c.runner.log = initialDrafts rng networkx config ++ drafts ++ ended
  notices : ∀ d ∈ ended, d.eventType = .experimentStopped
  going : c.loop.isOver = false → ended = []

theorem reachable_split {rng : Rng} {networkx : Networkx} {experimentId : Uuid}
    {config : ExperimentConfig} {hasGateway : Bool} {c : Config}
    (reach : Reachable rng (created rng networkx experimentId config hasGateway) c) :
    ∃ s drafts ended, Split rng networkx config c s drafts ended := by
  obtain ⟨s, gs, drafts, ended, rounds, place, log, notices, none_⟩ :=
    (reachable_progress reach).rounds
  refine ⟨s, drafts, ended, rounds_effects rounds, ?_, log, notices, none_⟩
  generalize c.loop = loop at place
  generalize c.runner.state = state at place
  cases place with
  | created => exact .none s
  | sleeping => exact .none s
  | paused going => exact .none s
  | done => exact .none s
  | waiting going together awaited => exact advance_effects rng s config
  | cancelled => exact .none s
  | interrupted going together awaited => exact advance_effects rng s config

theorem initial_now (rng : Rng) (networkx : Networkx) (config : ExperimentConfig) :
    ∀ d ∈ initialDrafts rng networkx config, d.simTick = 0 := by
  intro d member
  rcases List.mem_cons.mp member with rfl | topology
  · rfl
  · rcases List.mem_append.mp topology with created | seeded
    · obtain ⟨entry, _, rfl⟩ := List.mem_map.mp created
      rfl
    · rw [List.mem_singleton.mp seeded]
      rfl

def InOrder (runner : ExperimentRunner) : Prop := Chronological runner.log 0 runner.state.tick

theorem going_inOrder {rng : Rng} {networkx : Networkx} {config : ExperimentConfig} {c : Config}
    {s : WorldState} {drafts ended : List EventDraft}
    (split : Split rng networkx config c s drafts ended) (going : c.loop.isOver = false) :
    InOrder c.runner := by
  have start := chronological_now (initial_now rng networkx config) (Nat.le_refl 0)
  have published := chronological_append start (effects_chronological split.rounds)
  have later := (effects_chronological split.held).bounds
  unfold InOrder
  rw [split.log, split.going going, List.append_nil]
  exact ⟨published.sorted, published.since,
    fun d member => Nat.le_trans (published.upTo d member) later,
    Nat.le_trans published.bounds later⟩

theorem reachable_inOrder {rng : Rng} {networkx : Networkx} {experimentId : Uuid}
    {config : ExperimentConfig} {hasGateway : Bool} {c : Config}
    (reach : Reachable rng (created rng networkx experimentId config hasGateway) c) :
    InOrder c.runner := by
  induction reach with
  | refl =>
    obtain ⟨s, drafts, ended, split⟩ := reachable_split (.refl : Reachable rng
      (created rng networkx experimentId config hasGateway) _)
    exact going_inOrder split rfl
  | @tail b c reach turn ih =>
    cases over_ : c.loop.isOver with
    | false =>
      obtain ⟨s, drafts, ended, split⟩ := reachable_split (reach.tail turn)
      exact going_inOrder split over_
    | true =>
      -- A loop that is over has published nothing but a notice of its stop.
      have kept : ∀ {runner : ExperimentRunner}, runner.log = b.runner.log ∧
          runner.state = b.runner.state → InOrder runner := by
        rintro runner ⟨log, state⟩
        unfold InOrder at ih ⊢
        rwa [log, state]
      cases turn_cases turn with
      | head place => exact kept (loopHead_over over_)
      | unpaused place => exact kept (afterPause_over over_)
      | @answered drafts locals responses place _ all =>
        exfalso
        cases resumed : locals.resume b.runner.config b.runner.state.tick responses with
        | finished state realDrafts =>
          rw [resumed] at over_
          cases over_
        | gathering later =>
          rw [resumed] at over_
          cases over_
      | cancelled suspended => exact ih
      | calls calls =>
        rcases calls.log with same | ⟨_, grown⟩
        · exact kept ⟨same, calls.state⟩
        · have notice : Chronological [stoppedDraft b.runner.state.tick] b.runner.state.tick
              b.runner.state.tick :=
            chronological_now (fun d member => by rw [List.mem_singleton.mp member]; rfl)
              (Nat.le_refl _)
          unfold InOrder at ih ⊢
          rw [grown, calls.state]
          exact chronological_append ih notice

theorem numbered_seqs {experimentId : Uuid} {runner : ExperimentRunner}
    (numbered : Numbered experimentId runner) :
    runner.bus.published.map Event.seq = List.range runner.bus.published.length := by
  rw [numbered.events, number_seqs, number_length, List.range_eq_range']

theorem stored_run {pool : Pool} {experimentId : Uuid} {runner : ExperimentRunner}
    (numbered : Numbered experimentId runner) (persisted : Persisted pool experimentId runner) :
    pool.eventsOf experimentId = runner.bus.published :=
  persisted_events persisted (congrArg EventEmitter.nextSeq numbered.emitter)
    (numbered_seqs numbered)

def storeOf (before : Pool) (experimentId : Uuid) (runner : ExperimentRunner) : Pool :=
  finalize (writeBatch (insertExperimentRow before experimentId runner) experimentId
    runner.bus.published) experimentId runner

theorem storeOf_persisted {before : Pool} {experimentId : Uuid} {runner : ExperimentRunner}
    (unknown : before.eventsOf experimentId = []) (numbered : Numbered experimentId runner)
    (inhabited : runner.bus.published ≠ []) :
    Persisted (storeOf before experimentId runner) experimentId runner := by
  have fresh : (insertExperimentRow before experimentId runner).eventsOf experimentId = [] :=
    unknown
  have stored := writeBatch_events fresh runner.log
  rw [← numbered.events] at stored
  have complete := provedComplete_of_all stored inhabited (numbered_seqs numbered)
  have last : runner.emitter.lastSeq = (runner.bus.published.length : Int) - 1 := by
    rw [numbered.emitter]
    rfl
  rw [← last] at complete
  apply finalize_persists unknown _ (Drained.start.written runner.bus.published) complete
  intro event member
  rw [numbered.events] at member
  exact number_signed member

theorem reachable_started {rng : Rng} {networkx : Networkx} {experimentId : Uuid}
    {config : ExperimentConfig} {hasGateway : Bool} {c : Config}
    (reach : Reachable rng (created rng networkx experimentId config hasGateway) c) :
    ∃ event ∈ c.runner.bus.published, event.simTick = 0 := by
  obtain ⟨s, drafts, ended, split⟩ := reachable_split reach
  have start : ({ simTick := 0, eventType := .experimentStarted } : EventDraft) ∈ c.runner.log := by
    rw [split.log]
    exact List.mem_append_left _ (List.mem_append_left _ List.mem_cons_self)
  obtain ⟨event, member, same⟩ := List.mem_map.mp start
  exact ⟨event, member, congrArg EventDraft.simTick same⟩

/-- Every run can be stored completely, wherever it is. -/
theorem reachable_stored (before : Pool) {rng : Rng} {networkx : Networkx} {experimentId : Uuid}
    {config : ExperimentConfig} {hasGateway : Bool} {c : Config}
    (reach : Reachable rng (created rng networkx experimentId config hasGateway) c)
    (unknown : before.eventsOf experimentId = []) :
    Persisted (storeOf before experimentId c.runner) experimentId c.runner := by
  obtain ⟨event, member, _⟩ := reachable_started reach
  exact storeOf_persisted unknown (reachable_numbered reach) (List.ne_nil_of_mem member)

theorem tick0_cut {pool : Pool} {experimentId : Uuid} {events : List Event} {lastSeq : Nat}
    (stored : pool.eventsOf experimentId = events)
    (ordered : events.Pairwise fun a b => a.simTick ≤ b.simTick)
    (found : lastSeqOfTick0 pool experimentId = some lastSeq) :
    after (fun row : Event => (row.seq : Int)) events lastSeq =
      events.filter fun event => ¬ event.simTick ≤ 0 := by
  unfold lastSeqOfTick0 at found
  rw [stored] at found
  obtain ⟨member, greatest⟩ := List.max?_eq_some_iff.mp found
  obtain ⟨last, inside, same⟩ := List.mem_map.mp member
  obtain ⟨present, start⟩ := List.mem_filter.mp inside
  have sorted : BySeq events := stored ▸ eventsOf_bySeq pool experimentId
  unfold Paging.after
  apply List.filter_congr
  intro event here
  rw [decide_eq_decide]
  constructor
  · intro above early
    have among : event.seq ∈ (events.filter fun row => row.simTick = 0).map Event.seq :=
      List.mem_map_of_mem
        (List.mem_filter.mpr ⟨here, decide_eq_true (Nat.le_zero.mp early)⟩)
    exact absurd (Int.ofNat_lt.mp above) (Nat.not_lt.mpr (greatest event.seq among))
  · intro late
    obtain ⟨front, rest, rfl⟩ := List.append_of_mem present
    obtain ⟨_, _, across⟩ := List.pairwise_append.mp ordered
    obtain ⟨_, tail, _⟩ := List.pairwise_append.mp sorted
    rcases List.mem_append.mp here with before | behind
    · have earlier := across event before last List.mem_cons_self
      rw [of_decide_eq_true start] at earlier
      exact absurd earlier late
    · rcases List.mem_cons.mp behind with rfl | later
      · rw [of_decide_eq_true start] at late
        exact absurd (Nat.le_refl 0) late
      · rw [← same]
        exact (List.pairwise_cons.mp tail).1 event later

end AgentShield.ExperimentHistory
