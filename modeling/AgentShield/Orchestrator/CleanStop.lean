import AgentShield.Lib.History
import AgentShield.Orchestrator.LoopRuns
import AgentShield.Scenarios.Vocabulary

/-!
How a run ends. It is going, it is being stopped, it was stopped, or it finished on
its own; the notice of the stop and the terminal event come last, and once.
-/
namespace AgentShield.Orchestrator
open Schema Keyed Events Engine Scenarios Agents TopologyBuilder Propagation

def Unstopped (drafts : List EventDraft) : Prop := ∀ d ∈ drafts, d.eventType ≠ .experimentStopped

theorem unstopped_append {first later : List EventDraft} (clean : Unstopped first)
    (more : Unstopped later) : Unstopped (first ++ later) := by
  intro d member
  rcases List.mem_append.mp member with old | new
  · exact clean d old
  · exact more d new

/-- The run is going. -/
structure Live (runner : ExperimentRunner) : Prop where
  status : runner.status = .running ∨ runner.status = .paused
  running : runner.running = true
  task : runner.hasTask = true
  unset : runner.terminalEvent = false
  clean : Unstopped runner.log

def Held (loop : LoopPlace) : Prop :=
  ∀ drafts locals, loop = .awaitingScenarios drafts locals →
    Says tickTypes drafts ∧ Says tickTypes locals.drafts

/-- The run finished on its own. -/
structure Finished (runner : ExperimentRunner) (loop : LoopPlace) : Prop where
  status : runner.status = .finished
  task : runner.hasTask = false
  set : runner.terminalEvent = true
  ceased : loop.isOver = true
  clean : Unstopped runner.log

inductive Onward (result : ExperimentRunner × LoopPlace) : Prop where
  | live (live : Live result.1) (held : Held result.2) (alive : result.2.isOver = false)
  | finished (finished : Finished result.1 result.2)

theorem live_publish {runner : ExperimentRunner} (live : Live runner) {drafts : List EventDraft}
    (told : Says tickTypes drafts) : Live (runner.publish drafts) := by
  refine ⟨live.status, live.running, live.task, live.unset, ?_⟩
  rw [publish_log]
  exact unstopped_append live.clean (says_unstopped told)

theorem live_state {runner : ExperimentRunner} (live : Live runner) (state : WorldState) :
    Live { runner with state } :=
  ⟨live.status, live.running, live.task, live.unset, live.clean⟩

theorem held_elsewhere {loop : LoopPlace}
    (elsewhere : ∀ drafts locals, loop ≠ .awaitingScenarios drafts locals) : Held loop :=
  fun drafts locals waits => absurd waits (elsewhere drafts locals)

theorem publishTick_onward {runner : ExperimentRunner} (live : Live runner)
    {drafts : List EventDraft} (told : Says tickTypes drafts) : Onward (publishTick runner drafts) :=
  .live (live_publish live told) (held_elsewhere (by simp [publishTick])) rfl

theorem continueTick_onward {runner : ExperimentRunner} (live : Live runner)
    {drafts : List EventDraft} (told : Says tickTypes drafts) {run : AsyncRun}
    (said : Says tickTypes run.said) :
    Onward (continueTick runner drafts run) := by
  cases run with
  | finished state realDrafts =>
    exact publishTick_onward (live_state live state) (says_append told said)
  | gathering locals =>
    refine .live live ?_ rfl
    intro drafts' locals' waits
    cases waits
    exact ⟨told, said⟩

theorem runTick_onward (rng : Rng) {runner : ExperimentRunner} (live : Live runner) :
    Onward (runTick rng runner) := by
  have told := advance_tells rng runner.state runner.config
  have advanced := live_state live (advance rng runner.state runner.config).1
  unfold runTick
  dsimp only
  split
  · refine continueTick_onward advanced told ?_
    rw [runAsyncScenarios_said]
    exact says_none
  · exact publishTick_onward advanced told

theorem endLoop_onward {runner : ExperimentRunner} (live : Live runner) :
    Onward (endLoop runner) := by
  unfold endLoop
  rw [if_pos live.running]
  exact .finished ⟨rfl, rfl, rfl, rfl, live.clean⟩

theorem afterPause_onward (rng : Rng) {runner : ExperimentRunner} (live : Live runner) :
    Onward (afterPause rng runner) := by
  unfold afterPause
  rw [if_pos live.running]
  exact runTick_onward rng live

theorem loopHead_onward (rng : Rng) {runner : ExperimentRunner} (live : Live runner) :
    Onward (loopHead rng runner) := by
  unfold loopHead
  split
  · split
    · exact afterPause_onward rng live
    · exact .live live (held_elsewhere (by simp)) rfl
  · exact endLoop_onward live

def EndsWithNotice (log : List EventDraft) : Prop :=
  ∃ before, Unstopped before ∧ (log = before ∨ ∃ tick, log = before ++ [stoppedDraft tick])

/-- The run is over: it finished, or a stop has come to its end. -/
structure Over (c : Config) : Prop where
  status : c.runner.status = .finished ∨ c.runner.status = .stopped
  task : c.runner.hasTask = false
  set : c.runner.terminalEvent = true
  ceased : c.loop.isOver = true
  again : .first ∉ c.stops
  last : EndsWithNotice c.runner.log

/-- How far a run has got. -/
inductive Phase (c : Config) : Prop where
  | going (live : Live c.runner) (held : Held c.loop) (alive : c.loop.isOver = false)
      (kept : c.cancelRequested = false) (calls : c.stops = [])
  | stopping (status : c.runner.status = .stopped) (task : c.runner.hasTask = true)
      (requested : c.cancelRequested = true) (unset : c.runner.terminalEvent = false)
      (once : c.stops.count .first = 1) (clean : Unstopped c.runner.log)
  | over_ (ended : Over c)

theorem phase_onward {c : Config} (kept : c.cancelRequested = false) (calls : c.stops = [])
    {result : ExperimentRunner × LoopPlace} (onward : Onward result) :
    Phase (c.withLoop result) := by
  cases onward with
  | live live held alive => exact .going live held alive kept calls
  | finished finished =>
    refine .over_ ⟨Or.inl finished.status, finished.task, finished.set, finished.ceased, ?_,
      _, finished.clean, Or.inl rfl⟩
    have none : (c.withLoop result).stops = [] := calls
    rw [none]
    exact List.not_mem_nil

theorem live_called {runner runner' : ExperimentRunner} (live : Live runner)
    (status : runner'.status = .running ∨ runner'.status = .paused)
    (running : runner'.running = runner.running) (task : runner'.hasTask = runner.hasTask)
    (terminal : runner'.terminalEvent = runner.terminalEvent)
    (published : runner'.bus.published = runner.bus.published) : Live runner' := by
  have log : runner'.log = runner.log := congrArg (List.map Event.toEventDraft) published
  exact ⟨status, running.trans live.running, task.trans live.task, terminal.trans live.unset,
    log ▸ live.clean⟩

theorem held_wake {loop : LoopPlace} (held : Held loop) : Held loop.wake := by
  cases loop with
  | awaitingPause woken => exact held_elsewhere (by simp [LoopPlace.wake])
  | created => exact held
  | awaitingScenarios drafts locals => exact held
  | sleeping => exact held
  | done => exact held
  | cancelled lost => exact held

theorem stop_going {c : Config} (live : Live c.runner) (alive : c.loop.isOver = false)
    (calls : c.stops = []) : Phase c.stop := by
  have first : c.stop = c.firstStop := by
    unfold Config.stop
    rcases live.status with running | paused
    · rw [running]
    · rw [paused]
  have asked : c.firstStop = { c with
      runner := { c.runner with running := false, status := .stopped }
      cancelRequested := true
      stops := [.first] } := by
    unfold Config.firstStop
    dsimp only
    rw [if_pos live.task, alive, calls]
    rfl
  rw [first, asked]
  exact .stopping rfl live.task rfl live.unset rfl live.clean

theorem going_turn {rng : Rng} {c c' : Config} (live : Live c.runner) (held : Held c.loop)
    (alive : c.loop.isOver = false) (kept : c.cancelRequested = false) (calls : c.stops = [])
    (turn : Turn rng c c') : Phase c' := by
  cases turn with
  | stream published buffer =>
    exact .going (live_called live live.status rfl rfl rfl published) held alive kept calls
  | own step =>
    cases step with
    | enters place => exact phase_onward kept calls (loopHead_onward rng live)
    | unpaused place => exact phase_onward kept calls (afterPause_onward rng live)
    | slept place => exact phase_onward kept calls (loopHead_onward rng live)
    | answered place _ responses =>
      obtain ⟨told, said⟩ := held _ _ place
      exact phase_onward kept calls (continueTick_onward live told (resume_tells said responses))
    | cancels requested =>
      rw [kept] at requested
      cases requested
    | pauses accepted =>
      rcases pause_cases accepted with rfl | ⟨_, rfl⟩
      · exact .going live held alive kept calls
      · exact .going (live_called live (Or.inr rfl) rfl rfl rfl rfl) held alive kept calls
    | @resumes runner accepted =>
      have resumed : Live runner := by
        rcases resume_cases accepted with rfl | ⟨_, rfl⟩
        · exact live
        · exact live_called live (Or.inl rfl) rfl rfl rfl rfl
      split
      · exact .going resumed (held_wake held) (by rw [wake_isOver]; exact alive) kept calls
      · exact .going resumed held alive kept calls
    | setsSpeed accepted =>
      obtain ⟨speed, rfl⟩ := setSpeed_cases accepted
      exact .going (live_called live live.status rfl rfl rfl rfl) held alive kept calls
    | stops => exact stop_going live alive calls
    | stopEnds waiting =>
      rw [calls] at waiting
      exact absurd waiting (by simp)
    | stopReturns waiting =>
      rw [calls] at waiting
      exact absurd waiting (by simp)

/-- While the stop waits for the loop, the loop does not publish; then the notice comes. -/
theorem stopping_turn {rng : Rng} {c c' : Config} (status : c.runner.status = .stopped)
    (task : c.runner.hasTask = true) (requested : c.cancelRequested = true)
    (unset : c.runner.terminalEvent = false) (once : c.stops.count .first = 1)
    (clean : Unstopped c.runner.log) (turn : Turn rng c c') : Phase c' := by
  have asked : ¬ c.cancelRequested = false := by simp [requested]
  cases turn with
  | stream published buffer =>
    have log : ∀ bus : EventBus, bus.published = c.runner.bus.published →
        { c.runner with bus }.log = c.runner.log :=
      fun bus same => congrArg (List.map Event.toEventDraft) same
    exact .stopping status task requested unset once (by rw [log _ published]; exact clean)
  | own step =>
    cases step with
    | enters place kept => exact absurd kept asked
    | unpaused place kept => exact absurd kept asked
    | slept place kept => exact absurd kept asked
    | answered place kept responses => exact absurd kept asked
    | cancels _ suspended => exact .stopping status task requested unset once clean
    | pauses accepted =>
      rcases pause_cases accepted with rfl | ⟨running, rfl⟩
      · exact .stopping status task requested unset once clean
      · rw [status] at running
        cases running
    | resumes accepted =>
      rcases resume_cases accepted with rfl | ⟨paused, rfl⟩
      · exact .stopping status task requested unset once clean
      · rw [status] at paused
        cases paused
    | setsSpeed accepted =>
      obtain ⟨speed, rfl⟩ := setSpeed_cases accepted
      exact .stopping status task requested unset once clean
    | stops =>
      unfold Config.stop
      rw [status]
      dsimp only
      split
      · refine .stopping status task requested unset ?_ clean
        rw [List.count_cons_of_ne (by decide)]
        exact once
      · exact .stopping status task requested unset once clean
    | @stopEnds before after waiting ceased =>
      refine .over_ ⟨Or.inr status, rfl, rfl, ceased, ?_, ?_⟩
      · show StopCall.first ∉ before ++ after
        rw [waiting, List.count_append, List.count_cons_self] at once
        rw [List.mem_append, ← List.count_pos_iff, ← List.count_pos_iff]
        omega
      · exact ⟨_, clean, Or.inr ⟨_, stopped_log _⟩⟩
    | @stopReturns before after waiting ceased =>
      refine .stopping status task requested unset ?_ clean
      rw [waiting, List.count_append, List.count_cons_of_ne (by decide), ← List.count_append] at once
      exact once

/-- What a run keeps once it is over. -/
structure Frozen (c c' : Config) : Prop where
  log : c'.runner.log = c.runner.log
  status : c'.runner.status = c.runner.status
  ended : Over c'

theorem frozen_called {c : Config} (ended : Over c) (runner : ExperimentRunner)
    (status : runner.status = c.runner.status) (task : runner.hasTask = c.runner.hasTask)
    (terminal : runner.terminalEvent = c.runner.terminalEvent)
    (published : runner.bus.published = c.runner.bus.published)
    {cancelRequested : Bool} {stops : List StopCall} (again : .first ∉ stops) :
    Frozen c ⟨runner, c.loop, cancelRequested, stops⟩ := by
  have log : runner.log = c.runner.log := congrArg (List.map Event.toEventDraft) published
  exact ⟨log, status, status ▸ ended.status, task.trans ended.task,
    terminal.trans ended.set, ended.ceased, again, log ▸ ended.last⟩

theorem over_turn {rng : Rng} {c c' : Config} (ended : Over c) (turn : Turn rng c c') :
    Frozen c c' := by
  have same : Frozen c c := ⟨rfl, rfl, ended⟩
  have still : ∀ place, c.loop = place → place.isOver = true :=
    fun place there => there ▸ ended.ceased
  cases turn with
  | @stream bus published buffer =>
    exact frozen_called ended { c.runner with bus } rfl rfl rfl published ended.again
  | own step =>
    cases step with
    | enters place => cases still _ place
    | unpaused place => cases still _ place
    | slept place => cases still _ place
    | answered place => cases still _ place
    | cancels _ suspended =>
      rw [ended.ceased] at suspended
      cases suspended
    | pauses accepted =>
      rcases pause_cases accepted with rfl | ⟨running, rfl⟩
      · exact same
      · rcases ended.status with other | other <;> cases running.symm.trans other
    | resumes accepted =>
      rcases resume_cases accepted with rfl | ⟨paused, rfl⟩
      · have unpaused : ¬ c.runner.status = .paused := by
          intro paused
          rcases ended.status with other | other <;> cases paused.symm.trans other
        rw [if_neg unpaused]
        exact same
      · rcases ended.status with other | other <;> cases paused.symm.trans other
    | setsSpeed accepted =>
      obtain ⟨speed, rfl⟩ := setSpeed_cases accepted
      exact frozen_called ended { c.runner with speed } rfl rfl rfl rfl ended.again
    | stops =>
      have idle : c.stop = c := by
        unfold Config.stop
        rcases ended.status with finished | stopped
        · rw [finished]
        · rw [stopped, ended.task]
          rfl
      rw [idle]
      exact same
    | stopEnds waiting =>
      exact absurd (waiting ▸ ended.again) (by simp)
    | stopReturns waiting =>
      refine frozen_called ended c.runner rfl rfl rfl rfl ?_
      intro first
      apply ended.again
      rw [waiting]
      rcases List.mem_append.mp first with early | late
      · exact List.mem_append_left _ early
      · exact List.mem_append_right _ (List.mem_cons_of_mem _ late)

theorem phase_turn {rng : Rng} {c c' : Config} (phase : Phase c) (turn : Turn rng c c') :
    Phase c' := by
  cases phase with
  | going live held alive kept calls => exact going_turn live held alive kept calls turn
  | stopping status task requested unset once clean =>
    exact stopping_turn status task requested unset once clean turn
  | over_ ended => exact .over_ (over_turn ended turn).ended

theorem phase_created (rng : Rng) (networkx : Networkx) (experimentId : Uuid)
    (config : ExperimentConfig) (hasGateway : Bool) :
    Phase (created rng networkx experimentId config hasGateway) := by
  refine .going ⟨Or.inl rfl, rfl, rfl, rfl, ?_⟩ (held_elsewhere (by simp [created])) rfl rfl rfl
  have log : (created rng networkx experimentId config hasGateway).runner.log =
      [] ++ ({ simTick := 0, eventType := .experimentStarted } ::
        (buildWorld rng networkx config).2) :=
    publish_log (ExperimentRunner.new rng networkx experimentId config hasGateway) _
  rw [log]
  intro d member
  rcases List.mem_cons.mp member with rfl | topology
  · simp
  · exact buildWorld_unstopped rng networkx config d topology

theorem phase_reachable {rng : Rng} {start c : Config} (phase : Phase start)
    (reach : Reachable rng start c) : Phase c := by
  induction reach with
  | refl => exact phase
  | tail _ turn ih => exact phase_turn ih turn

theorem over_reachable {rng : Rng} {c c' : Config} (ended : Over c)
    (later : Reachable rng c c') : Frozen c c' := by
  induction later with
  | refl => exact ⟨rfl, rfl, ended⟩
  | tail _ turn ih =>
    obtain ⟨log, status, still⟩ := ih
    obtain ⟨log', status', still'⟩ := over_turn still turn
    exact ⟨log'.trans log, status'.trans status, still'⟩

theorem status_turn {rng : Rng} {c c' : Config} (phase : Phase c)
    (final : c.runner.status = .finished ∨ c.runner.status = .stopped)
    (turn : Turn rng c c') : c'.runner.status = c.runner.status := by
  cases phase with
  | going live =>
    rcases live.status with going | going <;> rcases final with final | final <;>
      cases going.symm.trans final
  | over_ ended => exact (over_turn ended turn).status
  | stopping status task requested unset once clean =>
    have asked : ¬ c.cancelRequested = false := by simp [requested]
    cases turn with
    | stream => rfl
    | own step =>
      cases step with
      | enters place kept => exact absurd kept asked
      | unpaused place kept => exact absurd kept asked
      | slept place kept => exact absurd kept asked
      | answered place kept => exact absurd kept asked
      | cancels => rfl
      | pauses accepted =>
        rcases pause_cases accepted with rfl | ⟨running, _⟩
        · rfl
        · cases running.symm.trans status
      | resumes accepted =>
        rcases resume_cases accepted with rfl | ⟨paused, _⟩
        · rfl
        · cases paused.symm.trans status
      | setsSpeed accepted =>
        obtain ⟨speed, rfl⟩ := setSpeed_cases accepted
        rfl
      | stops =>
        unfold Config.stop
        rw [status]
        dsimp only
        split
        · exact status
        · exact status
      | stopEnds => rfl
      | stopReturns => rfl

theorem status_final {rng : Rng} {c c' : Config} (phase : Phase c)
    (final : c.runner.status = .finished ∨ c.runner.status = .stopped)
    (later : Reachable rng c c') : c'.runner.status = c.runner.status := by
  induction later with
  | refl => rfl
  | tail before turn ih =>
    exact (status_turn (phase_reachable phase before) (ih ▸ final) turn).trans ih

theorem phase_endsWithNotice {c : Config} (phase : Phase c) : EndsWithNotice c.runner.log := by
  cases phase with
  | going live => exact ⟨_, live.clean, Or.inl rfl⟩
  | stopping _ _ _ _ _ clean => exact ⟨_, clean, Or.inl rfl⟩
  | over_ ended => exact ended.last

theorem phase_terminal {c : Config} (phase : Phase c) (set : c.runner.terminalEvent = true) :
    Over c := by
  cases phase with
  | going live =>
    rw [live.unset] at set
    cases set
  | stopping _ _ _ unset =>
    rw [unset] at set
    cases set
  | over_ ended => exact ended

theorem notice_last {log before after : List EventDraft} {d : EventDraft}
    (ends : EndsWithNotice log) (split : log = before ++ d :: after)
    (notice : d.eventType = .experimentStopped) : after = [] := by
  obtain ⟨clean, unstopped, rfl | ⟨tick, rfl⟩⟩ := ends
  · exact absurd notice (unstopped d (by simp [split]))
  · rcases History.split_append split with ⟨middle, inside, _⟩ | ⟨middle, _, rest⟩
    · exact absurd notice (unstopped d (by simp [inside]))
    · cases middle with
      | nil => exact (List.cons.inj rest).2.symm
      | cons x middle => exact absurd rest (by simp)

theorem notice_once {log : List EventDraft} (ends : EndsWithNotice log) :
    (log.filter fun d => d.eventType = .experimentStopped).length ≤ 1 := by
  obtain ⟨clean, unstopped, rest⟩ := ends
  have none : clean.filter (fun d => d.eventType = .experimentStopped) = [] := by
    rw [List.filter_eq_nil_iff]
    intro d member
    simpa using unstopped d member
  rcases rest with rfl | ⟨tick, rfl⟩
  · rw [none]
    exact Nat.zero_le 1
  · rw [List.filter_append, none]
    exact List.length_filter_le _ _

theorem runner_stop_is_clean (rng : Rng) (networkx : Networkx) (experimentId : Uuid)
    (config : ExperimentConfig) (hasGateway : Bool) {c : Config}
    (reach : Reachable rng (created rng networkx experimentId config hasGateway) c) :
    (c.runner.log.filter fun d => d.eventType = .experimentStopped).length ≤ 1 ∧
      (∀ before d after, c.runner.log = before ++ d :: after →
        d.eventType = .experimentStopped → after = []) ∧
      ∀ c', Reachable rng c c' →
        (c.runner.terminalEvent = true → c'.runner.log = c.runner.log) ∧
          (c.runner.status = .finished ∨ c.runner.status = .stopped →
            c'.runner.status = c.runner.status) := by
  have phase := phase_reachable (phase_created rng networkx experimentId config hasGateway) reach
  have ends := phase_endsWithNotice phase
  refine ⟨notice_once ends, fun _ _ _ split notice => notice_last ends split notice, ?_⟩
  intro c' later
  constructor
  · intro set
    exact (over_reachable (phase_terminal phase set) later).log
  · intro final
    exact status_final phase final later

def stopAsked : Config := (created default default 0 smallNetwork false).stop

def stoppedAtOnce : Config :=
  { stopAsked with
    runner := { stopAsked.runner with hasTask := false }
    loop := .cancelled []
    stops := [] }.stopped

theorem stoppedAtOnce_reached :
    Reachable default (created default default 0 smallNetwork false) stoppedAtOnce := by
  have asked : Reachable default (created default default 0 smallNetwork false) stopAsked :=
    .single (.own (.stops _))
  have cancelled := asked.tail (.own (.cancels rfl rfl))
  exact cancelled.tail (.own (@Step.stopEnds default _ [] [] rfl rfl))

theorem stoppedAtOnce_is_clean :
    (stoppedAtOnce.runner.log.filter fun d => d.eventType = .experimentStopped).length ≤ 1 ∧
      stoppedAtOnce.runner.terminalEvent = true ∧
      stoppedAtOnce.stop.runner.log = stoppedAtOnce.runner.log ∧
      stoppedAtOnce.stop.runner.status = .stopped := by
  obtain ⟨once, _, later⟩ :=
    runner_stop_is_clean default default 0 smallNetwork false stoppedAtOnce_reached
  obtain ⟨log, status⟩ := later stoppedAtOnce.stop (.single (.own (.stops _)))
  exact ⟨once, rfl, log rfl, status (Or.inr rfl)⟩

end AgentShield.Orchestrator
