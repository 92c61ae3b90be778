import AgentShield.Engine.Simulate
import AgentShield.Orchestrator.SnapshotConsistency
import AgentShield.Scenarios.Rounds

/-!
The runner and its rounds. At every await the log is what the runner published at
first, then whole rounds, then perhaps the notice that it was stopped; the state is
the one after these rounds, or after the synchronous half of the next.
-/
namespace AgentShield.Orchestrator
open Schema Keyed Events Engine Scenarios Agents TopologyBuilder Propagation

theorem runAsyncScenarios_rest {config : ExperimentConfig} {tick : Nat} {names : List String}
    {state : WorldState} {drafts : List EventDraft} {locals : Gathering}
    (waits : runAsyncScenarios config tick names state drafts = .gathering locals) :
    locals.rest.length < names.length := by
  induction names with
  | nil => cases waits
  | cons name rest ih =>
    unfold runAsyncScenarios at waits
    split at waits
    · cases made : attempts state config tick with
      | nil =>
        rw [made] at waits
        exact Nat.lt_succ_of_lt (ih waits)
      | cons first others =>
        rw [made] at waits
        obtain rfl := AsyncRun.gathering.inj waits
        exact Nat.lt_succ_self _
    · exact Nat.lt_succ_of_lt (ih waits)

def stoppedDraft (tick : Nat) : EventDraft :=
  { simTick := tick, eventType := .experimentStopped }

/- A call: it may wake the loop, and it says that the run is stopped only once the loop is. -/
structure Calls (c c' : Config) : Prop where
  config : c'.runner.config = c.runner.config
  gateway : c'.runner.hasGateway = c.runner.hasGateway
  state : c'.runner.state = c.runner.state
  task : c'.runner.hasTask = false → c.runner.hasTask = false ∨ c.loop.isOver = true
  loop : c'.loop = c.loop ∨ ∃ woken, c.loop = .awaitingPause woken ∧ c'.loop = .awaitingPause true
  log : c'.runner.log = c.runner.log ∨ (c.runner.hasTask = false ∨ c.loop.isOver = true) ∧
    c'.runner.log = c.runner.log ++ [stoppedDraft c.runner.state.tick]

inductive TurnCase (rng : Rng) (c : Config) : Config → Prop where
  | head (place : c.loop = .created ∨ c.loop = .sleeping) :
      TurnCase rng c (c.withLoop (loopHead rng c.runner))
  | unpaused (place : c.loop = .awaitingPause true) :
      TurnCase rng c (c.withLoop (afterPause rng c.runner))
  | answered {drafts : List EventDraft} {locals : Gathering}
      {responses : List (Option ModelResponse)}
      (place : c.loop = .awaitingScenarios drafts locals) (kept : c.cancelRequested = false)
      (all : responses.length = locals.attempts.length) :
      TurnCase rng c (c.withLoop (continueTick c.runner drafts
        (locals.resume c.runner.config c.runner.state.tick responses)))
  | cancelled (suspended : c.loop.isOver = false) :
      TurnCase rng c { c with loop := .cancelled c.loop.unpublished }
  | calls {c' : Config} (calls : Calls c c') : TurnCase rng c c'

theorem stopped_log (c : Config) :
    c.stopped.runner.log = c.runner.log ++ [stoppedDraft c.runner.state.tick] :=
  publish_log c.runner _

theorem calls_unheard {c : Config} {runner : ExperimentRunner} {cancelRequested : Bool}
    {stops : List StopCall} (config : runner.config = c.runner.config)
    (gateway : runner.hasGateway = c.runner.hasGateway) (state : runner.state = c.runner.state)
    (task : runner.hasTask = c.runner.hasTask)
    (published : runner.bus.published = c.runner.bus.published) :
    Calls c ⟨runner, c.loop, cancelRequested, stops⟩ := by
  refine ⟨config, gateway, state, ?_, Or.inl rfl, Or.inl ?_⟩
  · intro none
    exact Or.inl (task ▸ none)
  · exact congrArg (List.map Event.toEventDraft) published

theorem firstStop_calls (c : Config) : Calls c c.firstStop := by
  unfold Config.firstStop
  dsimp only
  split
  · split
    · rename_i ceased
      exact ⟨rfl, rfl, rfl, fun _ => Or.inr ceased, Or.inl rfl,
        Or.inr ⟨Or.inr ceased, stopped_log _⟩⟩
    · exact calls_unheard rfl rfl rfl rfl rfl
  · rename_i idle
    have none := Bool.eq_false_iff.mpr idle
    exact ⟨rfl, rfl, rfl, fun _ => Or.inl none, Or.inl rfl, Or.inr ⟨Or.inl none, stopped_log _⟩⟩

theorem stop_calls (c : Config) : Calls c c.stop := by
  have idle : Calls c c := calls_unheard rfl rfl rfl rfl rfl
  unfold Config.stop
  split
  · exact idle
  · split
    · exact calls_unheard rfl rfl rfl rfl rfl
    · exact idle
  · exact firstStop_calls c
  · exact firstStop_calls c

theorem pause_calls {c : Config} {runner : ExperimentRunner}
    (accepted : c.runner.pause = .ok runner) : Calls c { c with runner } := by
  rcases pause_cases accepted with rfl | ⟨_, rfl⟩
  · exact calls_unheard rfl rfl rfl rfl rfl
  · exact calls_unheard rfl rfl rfl rfl rfl

theorem resume_calls {c : Config} {runner : ExperimentRunner}
    (accepted : c.runner.resume = .ok runner) :
    Calls c { c with
      runner
      loop := if c.runner.status = .paused then c.loop.wake else c.loop } := by
  have unheard : Calls c { c with runner } := by
    rcases resume_cases accepted with rfl | ⟨_, rfl⟩
    · exact calls_unheard rfl rfl rfl rfl rfl
    · exact calls_unheard rfl rfl rfl rfl rfl
  refine ⟨unheard.config, unheard.gateway, unheard.state, unheard.task, ?_, unheard.log⟩
  dsimp only
  split
  · cases c.loop with
    | awaitingPause woken => exact Or.inr ⟨woken, rfl, rfl⟩
    | created => exact Or.inl rfl
    | awaitingScenarios drafts locals => exact Or.inl rfl
    | sleeping => exact Or.inl rfl
    | done => exact Or.inl rfl
    | cancelled lost => exact Or.inl rfl
  · exact Or.inl rfl

theorem turn_cases {rng : Rng} {c c' : Config} (turn : Turn rng c c') : TurnCase rng c c' := by
  cases turn with
  | own step =>
    cases step with
    | enters place kept => exact .head (Or.inl place)
    | unpaused place kept => exact .unpaused place
    | answered place kept responses all => exact .answered place kept all
    | slept place kept => exact .head (Or.inr place)
    | cancels requested suspended => exact .cancelled suspended
    | pauses accepted => exact .calls (pause_calls accepted)
    | resumes accepted => exact .calls (resume_calls accepted)
    | setsSpeed accepted =>
      obtain ⟨speed, rfl⟩ := setSpeed_cases accepted
      exact .calls (calls_unheard rfl rfl rfl rfl rfl)
    | stops => exact .calls (stop_calls c)
    | stopEnds waiting ceased =>
      exact .calls ⟨rfl, rfl, rfl, fun _ => Or.inr ceased, Or.inl rfl,
        Or.inr ⟨Or.inr ceased, stopped_log _⟩⟩
    | stopReturns waiting ceased => exact .calls (calls_unheard rfl rfl rfl rfl rfl)
  | stream published buffer => exact .calls (calls_unheard rfl rfl rfl rfl published)

section
variable {γ : Type} (A : Answering γ) (rng : Rng) (config : ExperimentConfig) (hasGateway : Bool)

/- The loop stands after the rounds that lead to `s`, or has taken the synchronous half of
   the next one; with what the gateway has used. -/
inductive At (s : WorldState) (gs : γ) : WorldState → γ → LoopPlace → Prop where
  | created : At s gs s gs .created
  | sleeping : At s gs s gs .sleeping
  | paused {woken : Bool} (going : isFinished s config = false) :
      At s gs s gs (.awaitingPause woken)
  | done : At s gs s gs .done
  | waiting {g : γ} {locals : Gathering} {asked : Answered}
      (going : isFinished s config = false) (together : hasGateway = true)
      (awaited : Awaited A config (advance rng s config).1.tick gs
        (asyncHalf config (advance rng s config).1) g (.gathering locals) asked) :
      At s gs (advance rng s config).1 g (.awaitingScenarios (advance rng s config).2 locals)
  | cancelled : At s gs s gs (.cancelled [])
  | interrupted {g : γ} {locals : Gathering} {asked : Answered}
      (going : isFinished s config = false) (together : hasGateway = true)
      (awaited : Awaited A config (advance rng s config).1.tick gs
        (asyncHalf config (advance rng s config).1) g (.gathering locals) asked) :
      At s gs (advance rng s config).1 g (.cancelled (advance rng s config).2)

variable (world : WorldState) (g₀ : γ) (initial : List EventDraft)

structure Logged (runner : ExperimentRunner) (s : WorldState) (gs : γ) : Prop where
  configured : runner.config = config
  gateway : runner.hasGateway = hasGateway
  rounds : ∃ drafts, Rounds A rng config hasGateway world g₀ drafts s gs ∧
    runner.log = initial ++ drafts

structure Progress (runner : ExperimentRunner) (loop : LoopPlace) (g : γ) : Prop where
  configured : runner.config = config
  gateway : runner.hasGateway = hasGateway
  task : runner.hasTask = false → loop.isOver = true
  rounds : ∃ s gs drafts ended, Rounds A rng config hasGateway world g₀ drafts s gs ∧
    At A rng config hasGateway s gs runner.state g loop ∧
    runner.log = initial ++ drafts ++ ended ∧
    (∀ d ∈ ended, d.eventType = .experimentStopped) ∧ (loop.isOver = false → ended = [])

end

section
variable {γ : Type} {A : Answering γ} {rng : Rng} {config : ExperimentConfig} {hasGateway : Bool}
  {world : WorldState} {g₀ : γ} {initial : List EventDraft}

theorem progress_of_logged {runner : ExperimentRunner} {s : WorldState} {g gs : γ}
    {loop : LoopPlace} (logged : Logged A rng config hasGateway world g₀ initial runner s gs)
    (place : At A rng config hasGateway s gs runner.state g loop)
    (task : runner.hasTask = false → loop.isOver = true) :
    Progress A rng config hasGateway world g₀ initial runner loop g := by
  obtain ⟨drafts, rounds, log⟩ := logged.rounds
  refine ⟨logged.configured, logged.gateway, task, s, gs, drafts, [], rounds, place, ?_, ?_, ?_⟩
  · rw [List.append_nil]
    exact log
  · intro d member
    cases member
  · intro _
    rfl

theorem has_task {hasTask over_ : Bool} (task : hasTask = true) :
    hasTask = false → over_ = true := by
  intro none
  rw [task] at none
  cases none

theorem logged_round {runner : ExperimentRunner} {s s' : WorldState} {gs g' : γ}
    {drafts : List EventDraft} {asked : Answered}
    (logged : Logged A rng config hasGateway world g₀ initial runner s gs)
    (going : isFinished s config = false)
    (round : Round A rng config hasGateway s gs drafts s' g' asked) :
    Logged A rng config hasGateway world g₀ initial
      (({ runner with state := s' } : ExperimentRunner).publish drafts) s' g' := by
  obtain ⟨before, rounds, log⟩ := logged.rounds
  refine ⟨logged.configured, logged.gateway, before ++ drafts, rounds.next going round, ?_⟩
  have same : ({ runner with state := s' } : ExperimentRunner).log = runner.log := rfl
  rw [publish_log, same, log, List.append_assoc]

theorem continueTick_progress {runner : ExperimentRunner} {s : WorldState} {gs g : γ}
    {run : AsyncRun} {asked : Answered}
    (logged : Logged A rng config hasGateway world g₀ initial runner s gs)
    (task : runner.hasTask = true) (going : isFinished s config = false)
    (together : hasGateway = true) (state : runner.state = (advance rng s config).1)
    (awaited : Awaited A config (advance rng s config).1.tick gs
      (asyncHalf config (advance rng s config).1) g run asked) :
    Progress A rng config hasGateway world g₀ initial
      (continueTick runner (advance rng s config).2 run).1
      (continueTick runner (advance rng s config).2 run).2 g := by
  cases run with
  | finished s' drafts =>
    apply progress_of_logged (logged_round logged going (.async together awaited)) .sleeping
    exact has_task task
  | gathering locals =>
    have place : At A rng config hasGateway s gs runner.state g
        (.awaitingScenarios (advance rng s config).2 locals) := by
      rw [state]
      exact .waiting going together awaited
    apply progress_of_logged logged place
    exact has_task task

theorem runTick_progress {runner : ExperimentRunner} {gs : γ}
    (logged : Logged A rng config hasGateway world g₀ initial runner runner.state gs)
    (task : runner.hasTask = true) (going : isFinished runner.state config = false) :
    Progress A rng config hasGateway world g₀ initial (runTick rng runner).1
      (runTick rng runner).2 gs := by
  obtain rfl := logged.configured
  unfold runTick
  dsimp only
  by_cases together : runner.hasGateway = true
  · rw [if_pos together]
    have gateway : hasGateway = true := logged.gateway.symm.trans together
    have advanced : Logged A rng runner.config hasGateway world g₀ initial
        { runner with state := (advance rng runner.state runner.config).1 } runner.state gs :=
      ⟨logged.configured, logged.gateway, logged.rounds⟩
    exact continueTick_progress advanced task going gateway rfl .here
  · rw [if_neg together]
    have alone : hasGateway = false := logged.gateway.symm.trans (Bool.eq_false_iff.mpr together)
    apply progress_of_logged (logged_round logged going (.sync alone)) .sleeping
    exact has_task task

theorem endLoop_progress {runner : ExperimentRunner} {gs : γ}
    (logged : Logged A rng config hasGateway world g₀ initial runner runner.state gs) :
    Progress A rng config hasGateway world g₀ initial (endLoop runner).1 (endLoop runner).2 gs := by
  unfold endLoop
  split
  · exact progress_of_logged ⟨logged.configured, logged.gateway, logged.rounds⟩ .done fun _ => rfl
  · exact progress_of_logged ⟨logged.configured, logged.gateway, logged.rounds⟩ .done fun _ => rfl

theorem afterPause_progress {runner : ExperimentRunner} {gs : γ}
    (logged : Logged A rng config hasGateway world g₀ initial runner runner.state gs)
    (task : runner.hasTask = true) (going : isFinished runner.state config = false) :
    Progress A rng config hasGateway world g₀ initial (afterPause rng runner).1
      (afterPause rng runner).2 gs := by
  unfold afterPause
  split
  · exact runTick_progress logged task going
  · exact endLoop_progress logged

theorem loopHead_progress {runner : ExperimentRunner} {gs : γ}
    (logged : Logged A rng config hasGateway world g₀ initial runner runner.state gs)
    (task : runner.hasTask = true) :
    Progress A rng config hasGateway world g₀ initial (loopHead rng runner).1
      (loopHead rng runner).2 gs := by
  unfold loopHead
  split
  · rename_i head
    have going : isFinished runner.state config = false := logged.configured ▸ head.2
    split
    · exact afterPause_progress logged task going
    · apply progress_of_logged logged (.paused going)
      exact has_task task
  · exact endLoop_progress logged

end

section
variable {γ : Type}

inductive Answers (A : Answering γ) (rng : Rng) : Config → γ → Config → γ → Prop where
  | answered {c : Config} {drafts : List EventDraft} {locals : Gathering} {g g' : γ}
      {responses : List (Option ModelResponse)} (place : c.loop = .awaitingScenarios drafts locals)
      (kept : c.cancelRequested = false) (given : A g locals.attempts responses g') :
      Answers A rng c g (c.withLoop (continueTick c.runner drafts
        (locals.resume c.runner.config c.runner.state.tick responses))) g'
  | elsewhere {c c' : Config} {g : γ} (turn : Turn rng c c')
      (unasked : ∀ drafts locals, c.loop = .awaitingScenarios drafts locals →
        c'.loop = c.loop ∨ c'.loop.isOver = true) : Answers A rng c g c' g

inductive Run (A : Answering γ) (rng : Rng) (start : Config) (g : γ) : Config → γ → Prop where
  | start : Run A rng start g start g
  | next {c c' : Config} {g' g'' : γ} (before : Run A rng start g c g')
      (answers : Answers A rng c g' c' g'') : Run A rng start g c' g''

end

theorem turn_answers {rng : Rng} {c c' : Config} (turn : Turn rng c c') :
    Answers anyAnswers rng c () c' () := by
  have known := turn_cases turn
  cases known with
  | answered place kept all => exact .answered place kept all
  | head place =>
    apply Answers.elsewhere turn
    intro drafts locals waits
    rw [waits] at place
    rcases place with other | other <;> cases other
  | unpaused place =>
    apply Answers.elsewhere turn
    intro drafts locals waits
    rw [waits] at place
    cases place
  | cancelled suspended => exact .elsewhere turn fun _ _ _ => Or.inr rfl
  | calls calls =>
    apply Answers.elsewhere turn
    intro drafts locals waits
    rcases calls.loop with same | ⟨woken, paused, _⟩
    · exact Or.inl same
    · rw [waits] at paused
      cases paused

theorem reachable_run {rng : Rng} {start c : Config} (reach : Reachable rng start c) :
    Run anyAnswers rng start () c () := by
  induction reach with
  | refl => exact .start
  | tail _ turn ih => exact ih.next (turn_answers turn)

theorem run_reachable {γ : Type} {A : Answering γ} {rng : Rng} {start c : Config} {g g' : γ}
    (complete : ∀ {g attempts responses g'}, A g attempts responses g' →
      responses.length = attempts.length)
    (run : Run A rng start g c g') : Reachable rng start c := by
  induction run with
  | start => exact .refl
  | next _ answers ih =>
    apply ih.tail
    cases answers with
    | answered place kept given => exact .own (.answered place kept _ (complete given))
    | elsewhere turn unasked => exact turn

section
variable {γ : Type} {A : Answering γ} {rng : Rng} {config : ExperimentConfig} {hasGateway : Bool}
  {world : WorldState} {g₀ : γ} {initial : List EventDraft}

theorem progress_going {runner : ExperimentRunner} {loop : LoopPlace} {g : γ}
    (progress : Progress A rng config hasGateway world g₀ initial runner loop g)
    (going : loop.isOver = false) : runner.hasTask = true ∧
    ∃ s gs, Logged A rng config hasGateway world g₀ initial runner s gs ∧
      At A rng config hasGateway s gs runner.state g loop := by
  constructor
  · apply Bool.of_not_eq_false
    intro none
    rw [progress.task none] at going
    cases going
  · obtain ⟨s, gs, drafts, ended, rounds, place, log, _, none⟩ := progress.rounds
    rw [none going, List.append_nil] at log
    exact ⟨s, gs, ⟨progress.configured, progress.gateway, drafts, rounds, log⟩, place⟩

theorem calls_progress {c c' : Config} {g : γ}
    (progress : Progress A rng config hasGateway world g₀ initial c.runner c.loop g)
    (calls : Calls c c') :
    Progress A rng config hasGateway world g₀ initial c'.runner c'.loop g := by
  have over_ : c'.loop.isOver = c.loop.isOver := by
    rcases calls.loop with same | ⟨woken, before, after⟩
    · rw [same]
    · rw [before, after]
      rfl
  obtain ⟨s, gs, drafts, ended, rounds, place, log, notices, none⟩ := progress.rounds
  have place' : At A rng config hasGateway s gs c'.runner.state g c'.loop := by
    rw [calls.state]
    rcases calls.loop with same | ⟨woken, before, after⟩
    · rw [same]
      exact place
    · rw [after]
      rw [before] at place
      generalize c.runner.state = state at place
      cases place with
      | paused going => exact .paused going
  constructor
  · exact calls.config.trans progress.configured
  · exact calls.gateway.trans progress.gateway
  · intro idle
    rw [over_]
    rcases calls.task idle with before | ceased
    · exact progress.task before
    · exact ceased
  · rcases calls.log with same | ⟨ceased, grown⟩
    · refine ⟨s, gs, drafts, ended, rounds, place', ?_, notices, ?_⟩
      · rw [same]
        exact log
      · rw [over_]
        exact none
    · refine ⟨s, gs, drafts, ended ++ [stoppedDraft c.runner.state.tick], rounds, place', ?_, ?_, ?_⟩
      · rw [grown, log, List.append_assoc]
      · intro d member
        rcases List.mem_append.mp member with old | new
        · exact notices d old
        · rw [List.mem_singleton.mp new]
          rfl
      · intro going
        rw [over_] at going
        have over' : c.loop.isOver = true := by
          rcases ceased with idle | ceased
          · exact progress.task idle
          · exact ceased
        rw [going] at over'
        cases over'

theorem cancelled_progress {c : Config} {g : γ}
    (progress : Progress A rng config hasGateway world g₀ initial c.runner c.loop g)
    (suspended : c.loop.isOver = false) :
    Progress A rng config hasGateway world g₀ initial c.runner
      (.cancelled c.loop.unpublished) g := by
  obtain ⟨_, s, gs, logged, place⟩ := progress_going progress suspended
  apply progress_of_logged logged _ fun _ => rfl
  generalize c.loop = loop at place suspended
  generalize c.runner.state = state at place
  cases place with
  | created => exact .cancelled
  | sleeping => exact .cancelled
  | paused going => exact .cancelled
  | done => cases suspended
  | waiting going together awaited => exact .interrupted going together awaited
  | cancelled => cases suspended
  | interrupted going together awaited => cases suspended

theorem answered_progress {c : Config} {g g' : γ} {drafts : List EventDraft}
    {locals : Gathering} {responses : List (Option ModelResponse)}
    (progress : Progress A rng config hasGateway world g₀ initial c.runner c.loop g)
    (place : c.loop = .awaitingScenarios drafts locals)
    (given : A g locals.attempts responses g') :
    Progress A rng config hasGateway world g₀ initial
      (c.withLoop (continueTick c.runner drafts
        (locals.resume c.runner.config c.runner.state.tick responses))).runner
      (c.withLoop (continueTick c.runner drafts
        (locals.resume c.runner.config c.runner.state.tick responses))).loop g' := by
  have suspended : c.loop.isOver = false := by
    rw [place]
    rfl
  obtain ⟨task, s, gs, logged, waits⟩ := progress_going progress suspended
  rw [place] at waits
  obtain rfl := logged.configured
  generalize reached : c.runner.state = state' at waits
  cases waits with
  | waiting going together awaited =>
    exact continueTick_progress logged task going together reached (awaited.answered given)

theorem elsewhere_progress {c c' : Config} {g : γ}
    (progress : Progress A rng config hasGateway world g₀ initial c.runner c.loop g)
    (turn : Turn rng c c') (unasked : ∀ drafts locals, c.loop = .awaitingScenarios drafts locals →
      c'.loop = c.loop ∨ c'.loop.isOver = true) :
    Progress A rng config hasGateway world g₀ initial c'.runner c'.loop g := by
  have known := turn_cases turn
  cases known with
  | head place =>
    have suspended : c.loop.isOver = false := by rcases place with same | same <;> rw [same] <;> rfl
    obtain ⟨task, s, gs, logged, here⟩ := progress_going progress suspended
    have stands : s = c.runner.state ∧ gs = g := by
      generalize c.runner.state = state at here
      rcases place with same | same
      · rw [same] at here
        cases here with
        | created => exact ⟨rfl, rfl⟩
      · rw [same] at here
        cases here with
        | sleeping => exact ⟨rfl, rfl⟩
    obtain ⟨rfl, rfl⟩ := stands
    exact loopHead_progress logged task
  | unpaused place =>
    have suspended : c.loop.isOver = false := by
      rw [place]
      rfl
    obtain ⟨task, s, gs, logged, here⟩ := progress_going progress suspended
    have stands : s = c.runner.state ∧ gs = g ∧ isFinished s config = false := by
      generalize c.runner.state = state at here
      rw [place] at here
      cases here with
      | paused going => exact ⟨rfl, rfl, going⟩
    obtain ⟨rfl, rfl, going⟩ := stands
    exact afterPause_progress logged task going
  | @answered drafts locals responses place kept all =>
    -- An answered gathering has less left to run, so the loop would have moved.
    exfalso
    have moved := unasked drafts locals place
    rw [place] at moved
    unfold Config.withLoop at moved
    cases resumed : locals.resume c.runner.config c.runner.state.tick responses with
    | finished state realDrafts =>
      rw [resumed] at moved
      rcases moved with same | ceased
      · cases same
      · cases ceased
    | gathering later =>
      rw [resumed] at moved
      rcases moved with same | ceased
      · have one : later = locals := (LoopPlace.awaitingScenarios.inj same).2
        have shorter := runAsyncScenarios_rest resumed
        rw [one] at shorter
        exact Nat.lt_irrefl _ shorter
      · cases ceased
  | cancelled suspended =>
    have ceased := cancelled_progress progress suspended
    exact ceased
  | calls calls => exact calls_progress progress calls

theorem answers_progress {c c' : Config} {g g' : γ}
    (progress : Progress A rng config hasGateway world g₀ initial c.runner c.loop g)
    (answers : Answers A rng c g c' g') :
    Progress A rng config hasGateway world g₀ initial c'.runner c'.loop g' := by
  cases answers with
  | answered place kept given => exact answered_progress progress place given
  | elsewhere turn unasked => exact elsewhere_progress progress turn unasked

end

def initialDrafts (rng : Rng) (networkx : Networkx) (config : ExperimentConfig) :
    List EventDraft :=
  { simTick := 0, eventType := .experimentStarted } :: (buildWorld rng networkx config).2

theorem created_progress {γ : Type} (A : Answering γ) (g₀ : γ) (rng : Rng) (networkx : Networkx)
    (experimentId : Uuid) (config : ExperimentConfig) (hasGateway : Bool) :
    Progress A rng config hasGateway (buildWorld rng networkx config).1 g₀
      (initialDrafts rng networkx config)
      (created rng networkx experimentId config hasGateway).runner
      (created rng networkx experimentId config hasGateway).loop g₀ := by
  have logged : Logged A rng config hasGateway (buildWorld rng networkx config).1 g₀
      (initialDrafts rng networkx config)
      (created rng networkx experimentId config hasGateway).runner
      (buildWorld rng networkx config).1 g₀ := by
    refine ⟨rfl, rfl, [], .none, ?_⟩
    rw [List.append_nil]
    exact publish_log (ExperimentRunner.new rng networkx experimentId config hasGateway) _
  exact progress_of_logged logged .created fun none => nomatch none

/-- Every place of every run of the runner is explained by rounds. -/
theorem run_progress {γ : Type} {A : Answering γ} {g₀ g : γ} {rng : Rng} {networkx : Networkx}
    {experimentId : Uuid} {config : ExperimentConfig} {hasGateway : Bool} {c : Config}
    (run : Run A rng (created rng networkx experimentId config hasGateway) g₀ c g) :
    Progress A rng config hasGateway (buildWorld rng networkx config).1 g₀
      (initialDrafts rng networkx config) c.runner c.loop g := by
  induction run with
  | start => exact created_progress A g₀ rng networkx experimentId config hasGateway
  | next _ answers ih => exact answers_progress ih answers

theorem reachable_progress {rng : Rng} {networkx : Networkx} {experimentId : Uuid}
    {config : ExperimentConfig} {hasGateway : Bool} {c : Config}
    (reach : Reachable rng (created rng networkx experimentId config hasGateway) c) :
    Progress anyAnswers rng config hasGateway (buildWorld rng networkx config).1 ()
      (initialDrafts rng networkx config) c.runner c.loop () :=
  run_progress (reachable_run reach)

/- The state is the one that the published drafts lead to, and perhaps some that are held. -/
theorem progress_effects {γ : Type} {A : Answering γ} {rng : Rng} {config : ExperimentConfig}
    {hasGateway : Bool} {world : WorldState} {g₀ g : γ} {initial : List EventDraft}
    {runner : ExperimentRunner} {loop : LoopPlace}
    (progress : Progress A rng config hasGateway world g₀ initial runner loop g) :
    ∃ drafts held ended, Effects config world (drafts ++ held) runner.state ∧
      runner.log = initial ++ drafts ++ ended ∧ ∀ d ∈ ended, d.eventType = .experimentStopped := by
  obtain ⟨s, gs, drafts, ended, rounds, place, log, notices, _⟩ := progress.rounds
  have effects := rounds_effects rounds
  have ahead : ∃ held, Effects config s held runner.state := by
    generalize runner.state = state at place
    cases place with
    | created => exact ⟨[], .none s⟩
    | sleeping => exact ⟨[], .none s⟩
    | paused going => exact ⟨[], .none s⟩
    | done => exact ⟨[], .none s⟩
    | waiting going together awaited => exact ⟨_, advance_effects rng s config⟩
    | cancelled => exact ⟨[], .none s⟩
    | interrupted going together awaited => exact ⟨_, advance_effects rng s config⟩
  obtain ⟨held, more⟩ := ahead
  exact ⟨drafts, held, ended, effects_append effects more, log, notices⟩

structure Kept (c c' : Config) : Prop where
  state : c'.runner.state = c.runner.state
  log : ∃ notices, c'.runner.log = c.runner.log ++ notices ∧
    ∀ d ∈ notices, d.eventType = .experimentStopped

theorem calls_kept {c c' : Config} (calls : Calls c c') : Kept c c' := by
  refine ⟨calls.state, ?_⟩
  rcases calls.log with same | ⟨_, grown⟩
  · refine ⟨[], by rw [same, List.append_nil], ?_⟩
    intro d member
    cases member
  · refine ⟨_, grown, ?_⟩
    intro d member
    rw [List.mem_singleton.mp member]
    rfl

theorem kept_trans {c c' c'' : Config} (first : Kept c c') (second : Kept c' c'') :
    Kept c c'' := by
  refine ⟨second.state.trans first.state, ?_⟩
  obtain ⟨notices, log, stopped⟩ := first.log
  obtain ⟨more, log', stopped'⟩ := second.log
  refine ⟨notices ++ more, by rw [log', log, List.append_assoc], ?_⟩
  intro d member
  rcases List.mem_append.mp member with old | new
  · exact stopped d old
  · exact stopped' d new

theorem ended_kept {rng : Rng} {c c' : Config} (ended : Ended c) (turn : Turn rng c c') :
    Kept c c' := by
  have unheard : Kept c c := calls_kept (calls_unheard rfl rfl rfl rfl rfl)
  cases turn with
  | own step =>
    cases step with
    | enters place kept => cases ended_idle ended place kept
    | unpaused place kept => cases ended_idle ended place kept
    | answered place kept => cases ended_idle ended place kept
    | slept place kept => cases ended_idle ended place kept
    | cancels requested suspended => exact ⟨rfl, unheard.log⟩
    | pauses accepted => exact calls_kept (pause_calls accepted)
    | resumes accepted => exact calls_kept (resume_calls accepted)
    | setsSpeed accepted =>
      obtain ⟨speed, rfl⟩ := setSpeed_cases accepted
      exact ⟨rfl, unheard.log⟩
    | stops => exact calls_kept (stop_calls c)
    | stopEnds waiting ceased =>
      refine ⟨rfl, [stoppedDraft c.runner.state.tick], stopped_log _, ?_⟩
      intro d member
      rw [List.mem_singleton.mp member]
      rfl
    | stopReturns waiting ceased => exact ⟨rfl, unheard.log⟩
  | stream published buffer =>
    exact calls_kept (calls_unheard rfl rfl rfl rfl published)

/-- What `stop` leaves, whatever else happens then. -/
theorem stop_kept {initial : List NodeView} {rng : Rng} {c c' : Config} (inv : Inv initial c)
    (later : Reachable rng c.stop c') : Kept c c' := by
  obtain ⟨stopped, ended, _⟩ := inv_stop inv
  have whole : Kept c c' ∧ Inv initial c' ∧ Ended c' := by
    induction later with
    | refl => exact ⟨calls_kept (stop_calls c), stopped, ended⟩
    | tail _ turn ih =>
      obtain ⟨kept, inv', ended'⟩ := ih
      exact ⟨kept_trans kept (ended_kept ended' turn), inv_turn inv' turn,
        (ended_turn inv' ended' turn).1⟩
  exact whole.1

/- While the scenarios are awaited, what they did so far is chained to the state. -/
def Anchored (runner : ExperimentRunner) (loop : LoopPlace) : Prop :=
  ∀ drafts locals, loop = .awaitingScenarios drafts locals →
    (AsyncRun.gathering locals).Chained runner.config runner.state

structure Chains (runner runner' : ExperimentRunner) (loop' : LoopPlace) : Prop where
  config : runner'.config = runner.config
  effects : ∃ drafts, Effects runner.config runner.state drafts runner'.state
  anchored : Anchored runner' loop'

theorem chains_same {runner runner' : ExperimentRunner} {loop' : LoopPlace}
    (config : runner'.config = runner.config) (state : runner'.state = runner.state)
    (elsewhere : ∀ drafts locals, loop' ≠ .awaitingScenarios drafts locals) :
    Chains runner runner' loop' := by
  refine ⟨config, ⟨[], ?_⟩, ?_⟩
  · rw [state]
    exact .none _
  · intro drafts locals waits
    exact absurd waits (elsewhere drafts locals)

theorem continueTick_chains (runner : ExperimentRunner) (drafts : List EventDraft)
    {run : AsyncRun} (chained : run.Chained runner.config runner.state) :
    Chains runner (continueTick runner drafts run).1 (continueTick runner drafts run).2 := by
  cases run with
  | finished state realDrafts =>
    refine ⟨rfl, ⟨realDrafts, chained.1⟩, ?_⟩
    intro drafts locals waits
    cases waits
  | gathering locals =>
    refine ⟨rfl, ⟨[], .none _⟩, ?_⟩
    intro drafts locals waits
    cases waits
    exact chained

theorem runTick_chains (rng : Rng) (runner : ExperimentRunner) :
    Chains runner (runTick rng runner).1 (runTick rng runner).2 := by
  have advanced := advance_effects rng runner.state runner.config
  unfold runTick
  dsimp only
  split
  · obtain ⟨config, ⟨drafts, effects⟩, anchored⟩ := continueTick_chains
      { runner with state := (advance rng runner.state runner.config).1 }
      (advance rng runner.state runner.config).2
      (asyncHalf_chained runner.config (advance rng runner.state runner.config).1)
    exact ⟨config, ⟨_, effects_append advanced effects⟩, anchored⟩
  · refine ⟨rfl, ⟨_, advanced⟩, ?_⟩
    intro drafts locals waits
    cases waits

theorem endLoop_chains (runner : ExperimentRunner) :
    Chains runner (endLoop runner).1 (endLoop runner).2 := by
  unfold endLoop
  split
  · exact chains_same rfl rfl (by simp)
  · exact chains_same rfl rfl (by simp)

theorem afterPause_chains (rng : Rng) (runner : ExperimentRunner) :
    Chains runner (afterPause rng runner).1 (afterPause rng runner).2 := by
  unfold afterPause
  split
  · exact runTick_chains rng runner
  · exact endLoop_chains runner

theorem loopHead_chains (rng : Rng) (runner : ExperimentRunner) :
    Chains runner (loopHead rng runner).1 (loopHead rng runner).2 := by
  unfold loopHead
  split
  · split
    · exact afterPause_chains rng runner
    · exact chains_same rfl rfl (by simp)
  · exact endLoop_chains runner

theorem turn_chains {rng : Rng} {c c' : Config} (anchored : Anchored c.runner c.loop)
    (turn : Turn rng c c') : Chains c.runner c'.runner c'.loop := by
  have known := turn_cases turn
  cases known with
  | head place => exact loopHead_chains rng c.runner
  | unpaused place => exact afterPause_chains rng c.runner
  | answered place kept all =>
    exact continueTick_chains _ _ (resume_chained (anchored _ _ place) _)
  | cancelled suspended => exact chains_same rfl rfl (by simp)
  | calls calls =>
    refine ⟨calls.config, ⟨[], ?_⟩, ?_⟩
    · rw [calls.state]
      exact .none _
    · intro drafts locals waits
      rw [calls.config, calls.state]
      rcases calls.loop with same | ⟨woken, _, paused⟩
      · rw [same] at waits
        exact anchored drafts locals waits
      · rw [paused] at waits
        cases waits

theorem reachable_chains {rng : Rng} {c c' : Config} (anchored : Anchored c.runner c.loop)
    (reach : Reachable rng c c') : Chains c.runner c'.runner c'.loop := by
  induction reach with
  | refl => exact ⟨rfl, ⟨[], .none _⟩, anchored⟩
  | tail _ turn ih =>
    obtain ⟨config, ⟨drafts, effects⟩, there⟩ := ih
    obtain ⟨config', ⟨later, more⟩, here⟩ := turn_chains there turn
    rw [config] at more
    exact ⟨config'.trans config, ⟨_, effects_append effects more⟩, here⟩

theorem created_chains {rng : Rng} {networkx : Networkx} {experimentId : Uuid}
    {config : ExperimentConfig} {hasGateway : Bool} {c : Config}
    (reach : Reachable rng (created rng networkx experimentId config hasGateway) c) :
    c.runner.config = config ∧ Anchored c.runner c.loop ∧
      ∃ drafts, Effects config (buildWorld rng networkx config).1 drafts c.runner.state := by
  have chains := reachable_chains (by intro drafts locals waits; cases waits) reach
  exact ⟨chains.config, chains.anchored, chains.effects⟩

/-- From a place of a run on, whatever is drawn from then on. -/
theorem later_effects {rng rng' : Rng} {networkx : Networkx} {experimentId : Uuid}
    {config : ExperimentConfig} {hasGateway : Bool} {c c' : Config}
    (reach : Reachable rng (created rng networkx experimentId config hasGateway) c)
    (later : Reachable rng' c c') :
    ∃ drafts, Effects config c.runner.state drafts c'.runner.state := by
  obtain ⟨configured, anchored, _⟩ := created_chains reach
  obtain ⟨drafts, effects⟩ := (reachable_chains anchored later).effects
  rw [configured] at effects
  exact ⟨drafts, effects⟩

theorem ticked_log {config : ExperimentConfig}
    (going : isFinished (buildWorld default default config).1 config = false) :
    (ticked config).runner.log = initialDrafts default default config ++
      (advance default (buildWorld default default config).1 config).2 := by
  rw [ticked_sleeping going]
  have start : (created default default 0 config false).runner.log =
      initialDrafts default default config :=
    publish_log (ExperimentRunner.new default default 0 config false) _
  rw [← start]
  exact publish_log _ _

structure OneTickRun (config : ExperimentConfig) (c : Config) : Prop where
  later : Reachable default (ticked config) c
  unasked : ∀ {γ : Type} (A : Answering γ) (g : γ),
    Run A default (created default default 0 config false) g c g
  finished : c.runner.status = .finished
  done : c.loop = .done
  state : c.runner.state = (ticked config).runner.state
  emitter : c.runner.emitter = (ticked config).runner.emitter
  log : c.runner.log = (ticked config).runner.log

theorem ticked_finishes {config : ExperimentConfig}
    (going : isFinished (buildWorld default default config).1 config = false)
    (one : config.maxTicks.val ≤ 1 * ticksPerRound config) : ∃ c, OneTickRun config c := by
  have sleeping := ticked_sleeping going
  have over_ : isFinished (ticked config).runner.state (ticked config).runner.config = true := by
    rw [sleeping]
    exact Simulate.finished_at_max one
  have running : (ticked config).runner.running = true := by rw [sleeping]; rfl
  have place : (ticked config).loop = .sleeping := by rw [sleeping]; rfl
  have ends : loopHead default (ticked config).runner =
      ({ (ticked config).runner with
        status := .finished
        terminalEvent := true
        hasTask := false }, .done) := by
    unfold loopHead endLoop
    rw [if_neg (by rw [over_]; simp), if_pos running]
  have sleeps : Step default (ticked config)
      ((ticked config).withLoop (loopHead default (ticked config).runner)) := .slept place rfl
  rw [ends] at sleeps
  refine ⟨_, .single (.own sleeps), ?_, rfl, rfl, rfl, rfl, rfl⟩
  intro γ A g
  have first : Run A default (created default default 0 config false) g (ticked config) g :=
    .next .start (.elsewhere (.own (.enters rfl rfl)) fun _ _ waits => by cases waits)
  refine first.next (.elsewhere (.own sleeps) fun _ _ waits => ?_)
  rw [place] at waits
  cases waits

theorem oneTickRun_reachable {config : ExperimentConfig} {c : Config} (run : OneTickRun config c) :
    Reachable default (created default default 0 config false) c :=
  (ticked_reachable config).trans run.later

end AgentShield.Orchestrator
