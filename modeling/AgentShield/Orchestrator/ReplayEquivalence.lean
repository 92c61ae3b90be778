import AgentShield.Engine.Replay
import AgentShield.Orchestrator.LoopRuns

/-!
The replay of a run (`engine/replay.py`) against the run itself, from the tick that
was recorded when the run finished or was stopped.
-/
namespace AgentShield.Orchestrator
open Schema Events Engine Scenarios Agents Gateway TopologyBuilder Propagation Simulate Replay Loop

theorem no_gateway {config : ExperimentConfig} (simulated : config.realAgentCount.val = 0) :
    buildsGateway config = false := by
  unfold buildsGateway
  rw [simulated]
  rfl

theorem whole_rounds {γ : Type} {A : Answering γ} {rng : Rng} {config : ExperimentConfig}
    {hasGateway : Bool} {s state : WorldState} {gs g : γ} {loop : LoopPlace}
    (alone : hasGateway = false) (place : At A rng config hasGateway s gs state g loop) :
    state = s := by
  cases place with
  | created => rfl
  | sleeping => rfl
  | paused going => rfl
  | done => rfl
  | waiting going together awaited =>
    rw [alone] at together
    cases together
  | cancelled => rfl
  | interrupted going together awaited =>
    rw [alone] at together
    cases together

theorem emitted_drafts (experimentId : Uuid) (drafts : List EventDraft) :
    (EventEmitter.emit ⟨experimentId, 0⟩ drafts).2.map Event.toEventDraft = drafts :=
  number_drafts experimentId 0 drafts

/-- Wherever a run without real agents finishes or is stopped, its replay up to the recorded
    tick returns its state and, but for the notices of its stop, its drafts. -/
theorem sync_replay_returns_live_run (rng : Rng) (networkx : Networkx)
    (experimentId replayId : Uuid) (config : ExperimentConfig)
    (simulated : config.realAgentCount.val = 0) (owned : 0 < ticksPerRound config)
    (inLoop : Bool) (c : Config)
    (reach : Reachable rng (created rng networkx experimentId config (buildsGateway config)) c)
    (rounds : Nat) (enough : c.runner.state.tick ≤ rounds) :
    ∃ events notices,
      reconstructFinalState rng networkx inLoop replayId config c.runner.state.tick rounds =
        .ok (some (c.runner.state, events)) ∧
      c.runner.log = events.map Event.toEventDraft ++ notices ∧
      ∀ d ∈ notices, d.eventType = .experimentStopped := by
  rw [no_gateway simulated] at reach
  obtain ⟨s, gs, drafts, ended, taken, place, log, notices, _⟩ := (reachable_progress reach).rounds
  rw [whole_rounds rfl place] at enough ⊢
  have replayed := replay_of_rounds id (fun _ _ => rfl) (sync_computes rng config) owned rfl
    taken (startDrafts rng networkx config) enough
  refine ⟨(EventEmitter.emit ⟨replayId, 0⟩ (startDrafts rng networkx config ++ drafts)).2, ended,
    ?_, ?_, notices⟩
  · have supported : ¬ (0 < config.realAgentCount.val ∧ config.modelProvider ≠ .mock) := by
      rw [simulated]
      exact fun both => Nat.lt_irrefl 0 both.1
    have alone : usesAsyncScenario config = false := by
      unfold usesAsyncScenario
      rw [simulated]
      rfl
    have reconstructed : reconstructSync rng networkx config s.tick rounds =
        some (s, startDrafts rng networkx config ++ drafts) := replayed
    unfold reconstructFinalState
    rw [if_neg supported, alone, if_neg (by simp), reconstructed]
    rfl
  · rw [emitted_drafts]
    exact log

/-- The run of one tick, its replay, and what the tick published. -/
theorem sync_replay_returns_one_tick :
    ∃ c, Reachable default (created default default 0 oneTick false) c ∧
      c.runner.status = .finished ∧
      (∃ d ∈ c.runner.log.drop (initialDrafts default default oneTick).length, Marks d) ∧
      ∃ events notices,
        reconstructFinalState default default true 0 oneTick c.runner.state.tick
          c.runner.state.tick = .ok (some (c.runner.state, events)) ∧
        c.runner.log = events.map Event.toEventDraft ++ notices ∧
        ∀ d ∈ notices, d.eventType = .experimentStopped := by
  obtain ⟨going, d, told, _, marks⟩ := one_tick_spreads
  obtain ⟨c, run⟩ := ticked_finishes going (by decide)
  have reach := oneTickRun_reachable run
  refine ⟨c, reach, run.finished, ⟨d, ?_, marks⟩, ?_⟩
  · rw [run.log, ticked_log going, List.drop_left]
    exact told
  · exact sync_replay_returns_live_run default default 0 0 oneTick rfl (by decide) true c reach
      c.runner.state.tick (Nat.le_refl _)

/-- The reconstruction at the recorded tick has the views that the log folds to. -/
def Replays (rng : Rng) (networkx : Networkx) (inLoop : Bool) (replayId : Uuid)
    (config : ExperimentConfig) (rounds : Nat) (runner : ExperimentRunner) : Prop :=
  ∃ state events,
    reconstructFinalState rng networkx inLoop replayId config runner.state.tick rounds =
      .ok (some (state, events)) ∧
    state.views = foldViews (buildWorld rng networkx config).1.views runner.log

/-- The tick rises, and where the scenarios of a tick are awaited, that tick taken to its end
    compromises and quarantines nobody; or the tick never rises, and no round did. -/
def Replayable (rng : Rng) (networkx : Networkx) (config : ExperimentConfig) (c : Config)
    (gateway : ModelGateway) : Prop :=
  if ticksPerRound config = 0 then
    ∀ d ∈ c.runner.log.drop (startDrafts rng networkx config).length, ¬ Marks d
  else
    ∀ drafts locals, c.loop = .awaitingScenarios drafts locals →
      ∀ d ∈ drafts ++ (answered (mockProvider rng) config c.runner.state.tick
        (.gathering locals) gateway).2, ¬ Marks d

theorem replays_iff {rng : Rng} {networkx : Networkx} {config : ExperimentConfig}
    (real : 0 < config.realAgentCount.val) (mock : config.modelProvider = .mock)
    {runner : ExperimentRunner} {replayId : Uuid} {rounds : Nat}
    {end_ : (WorldState × ModelGateway) × List EventDraft}
    (returned : reconstructAsync rng networkx config runner.state.tick rounds = some end_) :
    Replays rng networkx false replayId config rounds runner ↔
      end_.1.1.views = foldViews (buildWorld rng networkx config).1.views runner.log := by
  have supported : ¬ (0 < config.realAgentCount.val ∧ config.modelProvider ≠ .mock) :=
    fun both => both.2 mock
  have together : usesAsyncScenario config = true := decide_eq_true real
  have reconstructed : reconstructFinalState rng networkx false replayId config runner.state.tick
      rounds = .ok (some (end_.1.1, (EventEmitter.emit ⟨replayId, 0⟩ end_.2).2)) := by
    unfold reconstructFinalState
    rw [if_neg supported, together, if_neg (by simp), returned]
    rfl
  unfold Replays
  constructor
  · rintro ⟨state, events, same, views⟩
    rw [reconstructed] at same
    injection same with same
    injection same with same
    injection same with same
    rw [same]
    exact views
  · intro views
    exact ⟨_, _, reconstructed, views⟩

section
variable {rng : Rng} {networkx : Networkx} {config : ExperimentConfig} {g g₀ : ModelGateway}

theorem log_views {γ : Type} {A : Answering γ} {hasGateway : Bool} {g₀ gs : γ} {s : WorldState}
    {drafts ended : List EventDraft}
    (taken : Rounds A rng config hasGateway (buildWorld rng networkx config).1 g₀ drafts s gs)
    (notices : ∀ d ∈ ended, d.eventType = .experimentStopped) :
    foldViews (buildWorld rng networkx config).1.views
        (startDrafts rng networkx config ++ drafts ++ ended) = s.views ∧
      s.views = foldViews (buildWorld rng networkx config).1.views drafts := by
  have told := (effects_mirror (rounds_effects taken)).views
  have start : foldViews (buildWorld rng networkx config).1.views
      (startDrafts rng networkx config) = (buildWorld rng networkx config).1.views :=
    buildWorld_drafts_observed rng networkx config
  constructor
  · rw [foldViews_append, foldViews_append, start, ← told]
    exact foldViews_unmarked (notices_unmarked notices) _
  · exact told

theorem replays_at_start (real : 0 < config.realAgentCount.val)
    (mock : config.modelProvider = .mock) (unowned : ticksPerRound config = 0)
    {runner : ExperimentRunner} {loop : LoopPlace} {replayId : Uuid} {rounds : Nat}
    (progress : Progress (gatewayAnswers (mockProvider rng)) rng config true
      (buildWorld rng networkx config).1 g₀ (startDrafts rng networkx config) runner loop g) :
    Replays rng networkx false replayId config rounds runner ↔
      ∀ d ∈ runner.log.drop (startDrafts rng networkx config).length, ¬ Marks d := by
  obtain ⟨s, gs, drafts, ended, taken, place, log, notices, _⟩ := progress.rounds
  have never : runner.state.tick = 0 := by
    obtain ⟨n, _, ticks, _⟩ := rounds_iterate (async_computes rng _ config) taken []
    rw [unowned, Nat.mul_zero, Nat.add_zero] at ticks
    have still : s.tick = 0 := ticks
    have sync := advance_tick rng s config
    rw [unowned, Nat.add_zero] at sync
    generalize runner.state = state at place
    cases place with
    | created => exact still
    | sleeping => exact still
    | paused going => exact still
    | done => exact still
    | waiting going together awaited => exact sync.trans still
    | cancelled => exact still
    | interrupted going together awaited => exact sync.trans still
  have returned : reconstructAsync rng networkx config runner.state.tick rounds =
      some (((buildWorld rng networkx config).1, ModelGateway.new config),
        startDrafts rng networkx config) := by
    rw [never]
    exact whileLoop_of_rounds (runs_for_zero _) (shouldContinue_at _ config) (Nat.zero_le rounds)
  obtain ⟨whole, told⟩ := log_views taken notices
  have rest : runner.log.drop (startDrafts rng networkx config).length = drafts ++ ended := by
    rw [log, List.append_assoc]
    exact List.drop_left
  rw [replays_iff real mock returned, rest, log, whole, told, eq_comm,
    rising_same_iff (effects_mirror (rounds_effects taken)).rising]
  constructor
  · intro unmarked d member
    rcases List.mem_append.mp member with published | notice
    · exact unmarked d published
    · exact notices_unmarked notices d notice
  · intro unmarked d member
    exact unmarked d (List.mem_append_left ended member)

/- Where no tick is cut, the replay takes the rounds of the run. -/
theorem replays_uncut (real : 0 < config.realAgentCount.val)
    (mock : config.modelProvider = .mock) (owned : 0 < ticksPerRound config)
    {runner : ExperimentRunner} {gs : ModelGateway} {drafts ended : List EventDraft}
    (taken : Rounds (gatewayAnswers (mockProvider rng)) rng config true
      (buildWorld rng networkx config).1 (ModelGateway.new config) drafts runner.state gs)
    (log : runner.log = startDrafts rng networkx config ++ drafts ++ ended)
    (notices : ∀ d ∈ ended, d.eventType = .experimentStopped) {replayId : Uuid} {rounds : Nat}
    (enough : runner.state.tick ≤ rounds) :
    Replays rng networkx false replayId config rounds runner := by
  have returned := replay_of_rounds Prod.fst (fun _ _ => rfl) (async_computes rng _ config)
    owned rfl taken (startDrafts rng networkx config) enough
  obtain ⟨whole, _⟩ := log_views taken notices
  rw [replays_iff real mock returned, log, whole]

/- The replay takes the tick that is cut to its end. -/
theorem replays_cut_iff (real : 0 < config.realAgentCount.val)
    (mock : config.modelProvider = .mock) (owned : 0 < ticksPerRound config)
    {runner : ExperimentRunner} {s : WorldState} {gs : ModelGateway}
    {drafts ended : List EventDraft}
    (taken : Rounds (gatewayAnswers (mockProvider rng)) rng config true
      (buildWorld rng networkx config).1 (ModelGateway.new config) drafts s gs)
    (log : runner.log = startDrafts rng networkx config ++ drafts ++ ended)
    (notices : ∀ d ∈ ended, d.eventType = .experimentStopped)
    (going : isFinished s config = false) {locals : Gathering} {asked : Answered}
    (awaited : Awaited (gatewayAnswers (mockProvider rng)) config (advance rng s config).1.tick gs
      (asyncHalf config (advance rng s config).1) g (.gathering locals) asked)
    (halfway : runner.state = (advance rng s config).1) {replayId : Uuid} {rounds : Nat}
    (enough : runner.state.tick ≤ rounds) :
    Replays rng networkx false replayId config rounds runner ↔
      ∀ d ∈ (advance rng s config).2 ++ (answered (mockProvider rng) config
        (advance rng s config).1.tick (.gathering locals) g).2, ¬ Marks d := by
  obtain ⟨asked', round⟩ := async_round rng (mockProvider rng) config s gs
  have tick : (asyncTick rng (mockProvider rng) config (s, gs)).1.1.tick = runner.state.tick := by
    rw [halfway]
    exact (round_tick round).trans (advance_tick rng s config).symm
  rw [← tick] at enough
  have returned := replay_of_rounds Prod.fst (fun _ _ => rfl) (async_computes rng _ config)
    owned rfl (taken.next going round) (startDrafts rng networkx config) enough
  rw [tick] at returned
  have whole_tick : (asyncTick rng (mockProvider rng) config (s, gs)).2 =
      (advance rng s config).2 ++ (answered (mockProvider rng) config
        (advance rng s config).1.tick (.gathering locals) g).2 := by
    have finished := awaited_answered awaited
    unfold asyncHalf at finished
    rw [answered_scenarios] at finished
    rw [finished]
    rfl
  have mirrors := effects_mirror (round_effects round)
  obtain ⟨whole, _⟩ := log_views taken notices
  rw [replays_iff real mock returned, log, whole, mirrors.views,
    rising_same_iff mirrors.rising, whole_tick]

theorem replays_iff_replayable (real : 0 < config.realAgentCount.val)
    (mock : config.modelProvider = .mock) {c : Config} {replayId : Uuid} {rounds : Nat}
    (progress : Progress (gatewayAnswers (mockProvider rng)) rng config true
      (buildWorld rng networkx config).1 (ModelGateway.new config)
      (startDrafts rng networkx config) c.runner c.loop g)
    (kept : ∀ lost, c.loop ≠ .cancelled lost) (enough : c.runner.state.tick ≤ rounds) :
    Replays rng networkx false replayId config rounds c.runner ↔
      Replayable rng networkx config c g := by
  unfold Replayable
  by_cases unowned : ticksPerRound config = 0
  · rw [if_pos unowned]
    exact replays_at_start real mock unowned progress
  · rw [if_neg unowned]
    have owned := Nat.pos_of_ne_zero unowned
    obtain ⟨s, gs, drafts, ended, taken, place, log, notices, _⟩ := progress.rounds
    have uncut : c.runner.state = s → (∀ drafts locals,
        c.loop ≠ .awaitingScenarios drafts locals) →
        (Replays rng networkx false replayId config rounds c.runner ↔
          ∀ drafts locals, c.loop = .awaitingScenarios drafts locals →
            ∀ d ∈ drafts ++ (answered (mockProvider rng) config c.runner.state.tick
              (.gathering locals) g).2, ¬ Marks d) := by
      intro reached elsewhere
      rw [← reached] at taken
      exact iff_of_true (replays_uncut real mock owned taken log notices enough)
        fun drafts locals waits => absurd waits (elsewhere drafts locals)
    generalize loop_ : c.loop = loop at place kept uncut ⊢
    generalize state_ : c.runner.state = state at place uncut enough ⊢
    cases place with
    | created => exact uncut rfl (by simp)
    | sleeping => exact uncut rfl (by simp)
    | paused going => exact uncut rfl (by simp)
    | done => exact uncut rfl (by simp)
    | cancelled => exact absurd rfl (kept _)
    | interrupted going together awaited => exact absurd rfl (kept _)
    | @waiting g locals asked going together awaited =>
      rw [← state_] at enough
      rw [replays_cut_iff real mock owned taken log notices going awaited state_ enough]
      constructor
      · intro unmarked drafts' locals' waits
        obtain ⟨rfl, rfl⟩ := LoopPlace.awaitingScenarios.inj waits
        exact unmarked
      · intro unmarked
        exact unmarked _ _ rfl

end

theorem kept_replays {rng : Rng} {networkx : Networkx} {config : ExperimentConfig}
    {c c' : Config} (kept : Kept c c') (inLoop : Bool) (replayId : Uuid) (rounds : Nat) :
    Replays rng networkx inLoop replayId config rounds c'.runner ↔
      Replays rng networkx inLoop replayId config rounds c.runner := by
  obtain ⟨state, notices, log, unheard⟩ := kept
  unfold Replays
  rw [state, log, foldViews_append, foldViews_unmarked (notices_unmarked unheard)]

theorem replays_outside_loop {rng : Rng} {networkx : Networkx} {config : ExperimentConfig}
    (real : 0 < config.realAgentCount.val) {replayId : Uuid} {rounds : Nat}
    {runner : ExperimentRunner} :
    ¬ Replays rng networkx true replayId config rounds runner := by
  rintro ⟨state, events, returned, _⟩
  have together : usesAsyncScenario config = true := decide_eq_true real
  unfold reconstructFinalState at returned
  split at returned
  · cases returned
  · rw [if_pos ⟨together, rfl⟩] at returned
    cases returned

/-- At every place of a run of the deterministic provider at which it is stopped, and where it
    finished: never within an event loop, as the history's handlers are, and outside of one
    where no tick is cut that compromises or quarantines. -/
theorem async_replay_returns_logged_state_iff (rng : Rng) (networkx : Networkx)
    (experimentId replayId : Uuid) (config : ExperimentConfig)
    (real : 0 < config.realAgentCount.val) (mock : config.modelProvider = .mock)
    (c c' : Config) (g : ModelGateway)
    (run : Run (gatewayAnswers (mockProvider rng)) rng
      (created rng networkx experimentId config (buildsGateway config)) (.new config) c g)
    (kept : ∀ lost, c.loop ≠ .cancelled lost) (stopped : Reachable rng c.stop c')
    (inLoop : Bool) (rounds : Nat) (enough : c'.runner.state.tick ≤ rounds) :
    Replays rng networkx inLoop replayId config rounds c'.runner ↔
      inLoop = false ∧ Replayable rng networkx config c g := by
  have together : buildsGateway config = true := decide_eq_true real
  rw [together] at run
  have reach := run_reachable gatewayAnswers_length run
  have inv := inv_reachable (inv_created rng networkx experimentId config true) reach
  have same := stop_kept inv stopped
  rw [same.state] at enough
  cases inLoop with
  | true => simpa using replays_outside_loop real
  | false =>
    rw [kept_replays same, replays_iff_replayable real mock (run_progress run) kept enough]
    exact (and_iff_right rfl).symm

def calmAgents : ExperimentConfig :=
  { twoRealAgents with
    pSame := impossible
    pCross := impossible }

def calmWait : Config :=
  (created default default 0 calmAgents true).withLoop
    (loopHead default (created default default 0 calmAgents true).runner)

def cutTick (c : Config) (gateway : ModelGateway) : List EventDraft :=
  match c.loop with
  | .awaitingScenarios drafts locals => drafts ++ (answered (mockProvider default)
      c.runner.config c.runner.state.tick (.gathering locals) gateway).2
  | _ => []

theorem calm_wait_fails :
    calmWait.runner.status = .running ∧ calmWait.runner.hasTask = true ∧
      calmWait.loop.isOver = false ∧ calmWait.runner.config = calmAgents ∧
      (∃ d ∈ cutTick calmWait (.new calmAgents), d.eventType = .compromiseFailed) ∧
      ∀ d ∈ cutTick calmWait (.new calmAgents), ¬ Marks d := by
  decide +kernel

/-- The state of the cut tick is replayed, though not by an endpoint. -/
theorem async_replay_takes_calm_tick :
    (∃ d ∈ cutTick calmWait (.new calmAgents), d.eventType = .compromiseFailed) ∧
    ∃ c', Reachable default calmWait.stop c' ∧ c'.stops = [] ∧
      Replays default default false 0 calmAgents c'.runner.state.tick c'.runner ∧
      ¬ Replays default default true 0 calmAgents c'.runner.state.tick c'.runner := by
  obtain ⟨status, task, suspended, configured, attempts, unmarked⟩ := calm_wait_fails
  have run : Run (gatewayAnswers (mockProvider default)) default
      (created default default 0 calmAgents true) (.new calmAgents) calmWait
      (.new calmAgents) := by
    apply Run.next .start
    apply Answers.elsewhere (.own (.enters rfl rfl))
    intro drafts locals waits
    cases waits
  have kept : ∀ lost, calmWait.loop ≠ .cancelled lost := by
    intro lost over_
    rw [over_] at suspended
    cases suspended
  have replayable : Replayable default default calmAgents calmWait (.new calmAgents) := by
    unfold Replayable
    rw [if_neg (by decide)]
    intro drafts locals waits d member
    apply unmarked d
    unfold cutTick
    rw [waits, configured]
    exact member
  obtain ⟨c', later, ceased⟩ : ∃ c', Reachable default calmWait.stop c' ∧ c'.stops = [] :=
    stop_completes status task suspended rfl
  have replays := fun inLoop => async_replay_returns_logged_state_iff default default 0 0
    calmAgents (by decide) rfl calmWait c' (.new calmAgents) run kept later inLoop
    c'.runner.state.tick (Nat.le_refl _)
  refine ⟨attempts, c', later, ceased, (replays false).mpr ⟨rfl, replayable⟩, ?_⟩
  intro inside
  cases ((replays true).mp inside).1

theorem replay_takes_the_cut_tick :
    ∃ c g c', Run (gatewayAnswers (mockProvider default)) default
        (created default default 0 twoRealAgents (buildsGateway twoRealAgents))
        (.new twoRealAgents) c g ∧
      Reachable default c.stop c' ∧ c'.stops = [] ∧
      ∀ rounds, c'.runner.state.tick ≤ rounds →
        ¬ Replays default default false 0 twoRealAgents rounds c'.runner := by
  have run : Run (gatewayAnswers (mockProvider default)) default
      (created default default 0 twoRealAgents true) (.new twoRealAgents) firstWait
      (.new twoRealAgents) := by
    apply Run.next .start
    apply Answers.elsewhere (.own (.enters rfl rfl))
    intro drafts locals waits
    cases waits
  obtain ⟨held_back, status, task, suspended, _⟩ := first_wait_holds_back
  obtain ⟨c', later, ceased⟩ : ∃ c', Reachable default firstWait.stop c' ∧ c'.stops = [] :=
    stop_completes status task suspended rfl
  refine ⟨firstWait, .new twoRealAgents, c', run, later, ceased, ?_⟩
  intro rounds enough replays
  have inv := inv_reachable (inv_created default default 0 twoRealAgents true)
    (run_reachable gatewayAnswers_length run)
  have same := stop_kept inv later
  rw [same.state] at enough
  have kept : ∀ lost, firstWait.loop ≠ .cancelled lost := by
    intro lost over_
    rw [over_] at suspended
    cases suspended
  have replayable := (replays_iff_replayable (by decide) rfl (run_progress run) kept enough).mp
    ((kept_replays same false 0 rounds).mp replays)
  apply held_back
  unfold Replayable at replayable
  rw [if_neg (by decide)] at replayable
  intro d member
  generalize firstWait.loop = loop at replayable member kept
  cases loop with
  | awaitingScenarios drafts locals =>
    exact replayable drafts locals rfl d (List.mem_append_left _ member)
  | cancelled lost => exact absurd rfl (kept lost)
  | created => cases member
  | awaitingPause woken => cases member
  | sleeping => cases member
  | done => cases member

end AgentShield.Orchestrator
