import AgentShield.Events.BusLaws
import AgentShield.Orchestrator.Runner
import AgentShield.Scenarios.Rounds

/-!
The runner's state against its log, at every await: the state is what the log
says after the drafts of the tick in progress, published or not.
-/
namespace AgentShield.Orchestrator
open Schema Keyed Events Engine Scenarios Agents TopologyBuilder Propagation

structure Consistent (initial : List NodeView) (runner : ExperimentRunner) (loop : LoopPlace) :
    Prop where
  next : runner.emitter.nextSeq = runner.bus.published.length
  seqs : runner.bus.published.map Event.seq = List.range runner.bus.published.length
  views : runner.state.views = foldViews initial (runner.log ++ loop.unpublished)
  rising : Rising (foldViews initial runner.log) loop.unpublished
  locals : ∀ drafts gathering, loop = .awaitingScenarios drafts gathering →
    (AsyncRun.gathering gathering).Mirrors runner.state runner.config runner.state.tick

def Settled (initial : List NodeView) (runner : ExperimentRunner) : Prop :=
  Consistent initial runner .sleeping

@[simp] theorem sleeping_unpublished : LoopPlace.sleeping.unpublished = [] := rfl

theorem settled_views {initial : List NodeView} {runner : ExperimentRunner}
    (settled : Settled initial runner) : runner.state.views = foldViews initial runner.log := by
  have views := settled.views
  rwa [sleeping_unpublished, List.append_nil] at views

theorem consistent_of_settled {initial : List NodeView} {runner : ExperimentRunner}
    (settled : Settled initial runner) {loop : LoopPlace} (held : loop.unpublished = [])
    (elsewhere : ∀ drafts gathering, loop ≠ .awaitingScenarios drafts gathering) :
    Consistent initial runner loop := by
  constructor
  · exact settled.next
  · exact settled.seqs
  · rw [held]
    exact settled.views
  · rw [held]
    exact settled.rising
  · intro drafts gathering same
    exact absurd same (elsewhere drafts gathering)

theorem settled_of_consistent {initial : List NodeView} {runner : ExperimentRunner}
    {loop : LoopPlace} (consistent : Consistent initial runner loop)
    (held : loop.unpublished = []) : Settled initial runner := by
  constructor
  · exact consistent.next
  · exact consistent.seqs
  · have views := consistent.views
    rwa [held] at views
  · have rising := consistent.rising
    rwa [held] at rising
  · intro drafts gathering same
    cases same

theorem publish_log (runner : ExperimentRunner) (drafts : List EventDraft) :
    (runner.publish drafts).log = runner.log ++ drafts := by
  have published : (runner.publish drafts).bus.published = runner.bus.published ++
      number runner.emitter.experimentId runner.emitter.nextSeq drafts :=
    publish_published runner.bus _
  unfold ExperimentRunner.log
  rw [published, List.map_append, number_drafts]

theorem publish_numbered {runner : ExperimentRunner}
    (next : runner.emitter.nextSeq = runner.bus.published.length)
    (seqs : runner.bus.published.map Event.seq = List.range runner.bus.published.length)
    (drafts : List EventDraft) :
    (runner.publish drafts).emitter.nextSeq = (runner.publish drafts).bus.published.length ∧
      (runner.publish drafts).bus.published.map Event.seq =
        List.range (runner.publish drafts).bus.published.length := by
  have published : (runner.publish drafts).bus.published = runner.bus.published ++
      number runner.emitter.experimentId runner.emitter.nextSeq drafts :=
    publish_published runner.bus _
  constructor
  · exact emit_next next drafts
  · rw [published, List.map_append, seqs, number_seqs, List.length_append, number_length, next,
      List.range_eq_range', List.range_eq_range', ← List.range'_append_1, Nat.zero_add]

theorem publish_settled {initial : List NodeView} {runner : ExperimentRunner}
    (next : runner.emitter.nextSeq = runner.bus.published.length)
    (seqs : runner.bus.published.map Event.seq = List.range runner.bus.published.length)
    {drafts : List EventDraft}
    (views : runner.state.views = foldViews initial (runner.log ++ drafts)) :
    Settled initial (runner.publish drafts) := by
  obtain ⟨next', seqs'⟩ := publish_numbered next seqs drafts
  constructor
  · exact next'
  · exact seqs'
  · have same : (runner.publish drafts).state = runner.state := rfl
    rw [publish_log, sleeping_unpublished, List.append_nil, same]
    exact views
  · exact rising_unmarked (by intro d member; cases member) _
  · intro drafts gathering same
    cases same

theorem continueTick_consistent {initial : List NodeView} {runner : ExperimentRunner}
    {drafts : List EventDraft} {run : AsyncRun}
    (next : runner.emitter.nextSeq = runner.bus.published.length)
    (seqs : runner.bus.published.map Event.seq = List.range runner.bus.published.length)
    (views : runner.state.views = foldViews initial (runner.log ++ drafts))
    (rising : Rising (foldViews initial runner.log) drafts)
    (mirrors : run.Mirrors runner.state runner.config runner.state.tick) :
    Consistent initial (continueTick runner drafts run).1 (continueTick runner drafts run).2 := by
  cases run with
  | finished state realDrafts =>
    have told : Engine.Mirrors runner.state realDrafts state := mirrors
    apply publish_settled
    · exact next
    · exact seqs
    · have log : ({ runner with state } : ExperimentRunner).log = runner.log := rfl
      rw [log, ← List.append_assoc, foldViews_append, ← views]
      exact told.views
  | gathering locals =>
    constructor
    · exact next
    · exact seqs
    · exact views
    · exact rising
    · intro drafts gathering same
      cases same
      exact mirrors

theorem runTick_consistent {initial : List NodeView} {runner : ExperimentRunner} (rng : Rng)
    (settled : Settled initial runner) :
    Consistent initial (runTick rng runner).1 (runTick rng runner).2 := by
  have told := effects_mirror (advance_effects rng runner.state runner.config)
  have before := settled_views settled
  have after : (advance rng runner.state runner.config).1.views =
      foldViews initial (runner.log ++ (advance rng runner.state runner.config).2) := by
    rw [told.views, before, foldViews_append]
  have rising := told.rising
  rw [before] at rising
  unfold runTick
  dsimp only
  split
  · apply continueTick_consistent
    · exact settled.next
    · exact settled.seqs
    · exact after
    · exact rising
    · exact runAsyncScenarios_mirrors _ (mirrors_same _)
  · apply publish_settled
    · exact settled.next
    · exact settled.seqs
    · exact after

theorem endLoop_consistent {initial : List NodeView} {runner : ExperimentRunner}
    (settled : Settled initial runner) :
    Consistent initial (endLoop runner).1 (endLoop runner).2 := by
  unfold endLoop
  split
  · exact ⟨settled.next, settled.seqs, settled.views, settled.rising, by simp⟩
  · exact ⟨settled.next, settled.seqs, settled.views, settled.rising, by simp⟩

theorem afterPause_consistent {initial : List NodeView} {runner : ExperimentRunner} (rng : Rng)
    (settled : Settled initial runner) :
    Consistent initial (afterPause rng runner).1 (afterPause rng runner).2 := by
  unfold afterPause
  split
  · exact runTick_consistent rng settled
  · exact endLoop_consistent settled

theorem loopHead_consistent {initial : List NodeView} {runner : ExperimentRunner} (rng : Rng)
    (settled : Settled initial runner) :
    Consistent initial (loopHead rng runner).1 (loopHead rng runner).2 := by
  unfold loopHead
  split
  · split
    · exact afterPause_consistent rng settled
    · exact consistent_of_settled settled rfl (by simp)
  · exact endLoop_consistent settled

structure Segment (initial : List NodeView) (before : ExperimentRunner)
    (result : ExperimentRunner × LoopPlace) : Prop where
  consistent : Consistent initial result.1 result.2
  kept : result.2.isOver = true ∨
    result.1.status = before.status ∧ result.1.hasTask = before.hasTask

theorem continueTick_kept (runner : ExperimentRunner) (drafts : List EventDraft)
    (run : AsyncRun) :
    (continueTick runner drafts run).1.status = runner.status ∧
      (continueTick runner drafts run).1.hasTask = runner.hasTask := by
  cases run <;> exact ⟨rfl, rfl⟩

theorem runTick_kept (rng : Rng) (runner : ExperimentRunner) :
    (runTick rng runner).1.status = runner.status ∧
      (runTick rng runner).1.hasTask = runner.hasTask := by
  unfold runTick
  dsimp only
  split
  · exact continueTick_kept _ _ _
  · exact ⟨rfl, rfl⟩

theorem endLoop_over (runner : ExperimentRunner) : (endLoop runner).2.isOver = true := by
  unfold endLoop
  split <;> rfl

theorem afterPause_segment {initial : List NodeView} {runner : ExperimentRunner} (rng : Rng)
    (settled : Settled initial runner) : Segment initial runner (afterPause rng runner) := by
  constructor
  · exact afterPause_consistent rng settled
  · unfold afterPause
    split
    · exact Or.inr (runTick_kept rng runner)
    · exact Or.inl (endLoop_over runner)

theorem loopHead_segment {initial : List NodeView} {runner : ExperimentRunner} (rng : Rng)
    (settled : Settled initial runner) : Segment initial runner (loopHead rng runner) := by
  constructor
  · exact loopHead_consistent rng settled
  · unfold loopHead
    split
    · split
      · exact (afterPause_segment rng settled).kept
      · exact Or.inr ⟨rfl, rfl⟩
    · exact Or.inl (endLoop_over runner)

def Ended (c : Config) : Prop := c.cancelRequested = true ∨ c.loop.isOver = true

theorem ended_idle {c : Config} (ended : Ended c) {place : LoopPlace} (same : c.loop = place)
    (kept : c.cancelRequested = false) : place.isOver = true := by
  rcases ended with requested | ceased
  · rw [kept] at requested
    cases requested
  · rw [← same]
    exact ceased

structure Inv (initial : List NodeView) (c : Config) : Prop where
  consistent : Consistent initial c.runner c.loop
  finished : c.runner.status = .finished → c.loop.isOver = true
  stopped : c.runner.status = .stopped → Ended c
  task : c.runner.hasTask = false → Ended c

theorem consistent_congr {initial : List NodeView} {runner runner' : ExperimentRunner}
    {loop : LoopPlace} (consistent : Consistent initial runner loop)
    (published : runner'.bus.published = runner.bus.published)
    (emitter : runner'.emitter = runner.emitter) (state : runner'.state = runner.state)
    (config : runner'.config = runner.config) : Consistent initial runner' loop := by
  have log : runner'.log = runner.log := by
    unfold ExperimentRunner.log
    rw [published]
  constructor
  · rw [emitter, published]
    exact consistent.next
  · rw [published]
    exact consistent.seqs
  · rw [state, log]
    exact consistent.views
  · rw [log]
    exact consistent.rising
  · rw [state, config]
    exact consistent.locals

theorem publish_unmarked_consistent {initial : List NodeView} {runner : ExperimentRunner}
    {loop : LoopPlace} (consistent : Consistent initial runner loop) {drafts : List EventDraft}
    (unmarked : ∀ d ∈ drafts, ¬ Marks d) :
    Consistent initial (runner.publish drafts) loop := by
  obtain ⟨next, seqs⟩ := publish_numbered consistent.next consistent.seqs drafts
  have logged : foldViews initial (runner.publish drafts).log =
      foldViews initial runner.log := by
    rw [publish_log, foldViews_append, foldViews_unmarked unmarked]
  constructor
  · exact next
  · exact seqs
  · rw [foldViews_append, logged, ← foldViews_append]
    exact consistent.views
  · rw [logged]
    exact consistent.rising
  · exact consistent.locals

theorem stopped_consistent {initial : List NodeView} {c : Config}
    (consistent : Consistent initial c.runner c.loop) :
    Consistent initial c.stopped.runner c.stopped.loop := by
  have unmarked : ∀ d ∈ [({ simTick := c.runner.state.tick, eventType := .experimentStopped } :
      EventDraft)], ¬ Marks d := by simp [Marks]
  exact consistent_congr (publish_unmarked_consistent consistent unmarked) rfl rfl rfl rfl

theorem pause_cases {runner runner' : ExperimentRunner} (accepted : runner.pause = .ok runner') :
    runner' = runner ∨
      runner.status = .running ∧ runner' = { runner with pauseEvent := false, status := .paused } := by
  unfold ExperimentRunner.pause at accepted
  split at accepted
  · exact Or.inl (Except.ok.inj accepted).symm
  · split at accepted
    · cases accepted
    · rename_i running
      exact Or.inr ⟨not_not.mp running, (Except.ok.inj accepted).symm⟩

theorem resume_cases {runner runner' : ExperimentRunner}
    (accepted : runner.resume = .ok runner') :
    runner' = runner ∨
      runner.status = .paused ∧ runner' = { runner with status := .running, pauseEvent := true } := by
  unfold ExperimentRunner.resume at accepted
  split at accepted
  · exact Or.inl (Except.ok.inj accepted).symm
  · split at accepted
    · cases accepted
    · rename_i paused
      exact Or.inr ⟨not_not.mp paused, (Except.ok.inj accepted).symm⟩

theorem setSpeed_cases {runner runner' : ExperimentRunner} {multiplier : Rat}
    (accepted : runner.setSpeed multiplier = .ok runner') :
    ∃ speed, runner' = { runner with speed } := by
  unfold ExperimentRunner.setSpeed at accepted
  split at accepted
  · cases accepted
  · exact ⟨_, (Except.ok.inj accepted).symm⟩

@[simp] theorem wake_unpublished (place : LoopPlace) :
    place.wake.unpublished = place.unpublished := by
  cases place <;> rfl

@[simp] theorem wake_isOver (place : LoopPlace) : place.wake.isOver = place.isOver := by
  cases place <;> rfl

theorem wake_consistent {initial : List NodeView} {runner : ExperimentRunner}
    {loop : LoopPlace} (consistent : Consistent initial runner loop) :
    Consistent initial runner loop.wake := by
  cases loop with
  | awaitingPause woken => exact ⟨consistent.next, consistent.seqs, consistent.views,
      consistent.rising, by simp [LoopPlace.wake]⟩
  | created => exact consistent
  | awaitingScenarios drafts locals => exact consistent
  | sleeping => exact consistent
  | done => exact consistent
  | cancelled lost => exact consistent

theorem inv_segment {initial : List NodeView} {c : Config} (inv : Inv initial c)
    (kept : c.cancelRequested = false) (going : c.loop.isOver = false)
    {result : ExperimentRunner × LoopPlace} (segment : Segment initial c.runner result) :
    Inv initial (c.withLoop result) := by
  have active : ¬ Ended c := by
    rintro (requested | ceased)
    · rw [kept] at requested
      cases requested
    · rw [going] at ceased
      cases ceased
  have ceased_or : result.2.isOver = true ∨
      result.1.status ≠ .finished ∧ result.1.status ≠ .stopped ∧ result.1.hasTask ≠ false := by
    rcases segment.kept with ceased | ⟨status, task⟩
    · exact Or.inl ceased
    · right
      refine ⟨?_, ?_, ?_⟩
      · intro finished
        have ceased := inv.finished (status ▸ finished)
        exact active (Or.inr ceased)
      · intro stopped
        exact active (inv.stopped (status ▸ stopped))
      · intro none
        exact active (inv.task (task ▸ none))
  constructor
  · exact segment.consistent
  · intro finished
    rcases ceased_or with ceased | ⟨other, _⟩
    · exact ceased
    · exact absurd finished other
  · intro stopped
    rcases ceased_or with ceased | ⟨_, other, _⟩
    · exact Or.inr ceased
    · exact absurd stopped other
  · intro none
    rcases ceased_or with ceased | ⟨_, _, other⟩
    · exact Or.inr ceased
    · exact absurd none other

theorem inv_firstStop {initial : List NodeView} {c : Config} (inv : Inv initial c) :
    Inv initial c.firstStop ∧ Ended c.firstStop ∧ c.firstStop.loop = c.loop := by
  unfold Config.firstStop
  dsimp only
  split
  · split
    · rename_i ceased
      refine ⟨⟨?_, fun _ => ceased, fun _ => Or.inr ceased, fun _ => Or.inr ceased⟩, Or.inr ceased, rfl⟩
      exact stopped_consistent (consistent_congr inv.consistent rfl rfl rfl rfl)
    · refine ⟨⟨?_, ?_, fun _ => Or.inl rfl, fun _ => Or.inl rfl⟩, Or.inl rfl, rfl⟩
      · exact consistent_congr inv.consistent rfl rfl rfl rfl
      · intro finished
        cases finished
  · rename_i none
    have ended : Ended c := inv.task (Bool.eq_false_iff.mpr none)
    refine ⟨⟨?_, ?_, fun _ => ended, fun _ => ended⟩, ended, rfl⟩
    · exact stopped_consistent (consistent_congr inv.consistent rfl rfl rfl rfl)
    · intro finished
      cases finished

theorem inv_stop {initial : List NodeView} {c : Config} (inv : Inv initial c) :
    Inv initial c.stop ∧ Ended c.stop ∧ c.stop.loop = c.loop := by
  unfold Config.stop
  cases status : c.runner.status with
  | running => exact inv_firstStop inv
  | paused => exact inv_firstStop inv
  | finished => exact ⟨inv, Or.inr (inv.finished status), rfl⟩
  | stopped =>
    dsimp only
    split
    · exact ⟨⟨inv.consistent, inv.finished, inv.stopped, inv.task⟩, inv.stopped status, rfl⟩
    · exact ⟨inv, inv.stopped status, rfl⟩

theorem inv_runner {initial : List NodeView} {c : Config} (inv : Inv initial c)
    {runner : ExperimentRunner} (published : runner.bus.published = c.runner.bus.published)
    (emitter : runner.emitter = c.runner.emitter) (state : runner.state = c.runner.state)
    (config : runner.config = c.runner.config) (task : runner.hasTask = c.runner.hasTask)
    (status : runner.status = c.runner.status ∨
      runner.status ≠ .finished ∧ runner.status ≠ .stopped) :
    Inv initial { c with runner } := by
  constructor
  · exact consistent_congr inv.consistent published emitter state config
  · intro finished
    rcases status with same | ⟨other, _⟩
    · exact inv.finished (same ▸ finished)
    · exact absurd finished other
  · intro stopped
    rcases status with same | ⟨_, other⟩
    · exact inv.stopped (same ▸ stopped)
    · exact absurd stopped other
  · intro none
    exact inv.task (task ▸ none)

theorem inv_wake {initial : List NodeView} {c : Config} (inv : Inv initial c) :
    Inv initial { c with loop := c.loop.wake } := by
  constructor
  · exact wake_consistent inv.consistent
  · simpa using inv.finished
  · simpa [Ended] using inv.stopped
  · simpa [Ended] using inv.task

theorem inv_step {initial : List NodeView} {rng : Rng} {c c' : Config} (inv : Inv initial c)
    (step : Step rng c c') : Inv initial c' := by
  cases step with
  | enters place kept =>
    have settled := settled_of_consistent inv.consistent (by rw [place]; rfl)
    exact inv_segment inv kept (by rw [place]; rfl) (loopHead_segment rng settled)
  | unpaused place kept =>
    have settled := settled_of_consistent inv.consistent (by rw [place]; rfl)
    exact inv_segment inv kept (by rw [place]; rfl) (afterPause_segment rng settled)
  | @answered drafts locals place kept responses all =>
    have consistent := inv.consistent
    rw [place] at consistent
    have mirrors := consistent.locals drafts locals rfl
    refine inv_segment inv kept (by rw [place]; rfl) ⟨?_, Or.inr (continueTick_kept _ _ _)⟩
    exact continueTick_consistent consistent.next consistent.seqs consistent.views
      consistent.rising (resume_mirrors mirrors responses)
  | slept place kept =>
    have settled := settled_of_consistent inv.consistent (by rw [place]; rfl)
    exact inv_segment inv kept (by rw [place]; rfl) (loopHead_segment rng settled)
  | cancels requested suspended =>
    have consistent := inv.consistent
    refine ⟨?_, fun _ => rfl, fun _ => Or.inr rfl, fun _ => Or.inr rfl⟩
    exact ⟨consistent.next, consistent.seqs, consistent.views, consistent.rising, by simp⟩
  | pauses accepted =>
    rcases pause_cases accepted with rfl | ⟨_, rfl⟩
    · exact inv
    · exact inv_runner inv rfl rfl rfl rfl rfl (Or.inr ⟨by simp, by simp⟩)
  | @resumes runner accepted =>
    have kept : Inv initial { c with runner } := by
      rcases resume_cases accepted with rfl | ⟨_, rfl⟩
      · exact inv
      · exact inv_runner inv rfl rfl rfl rfl rfl (Or.inr ⟨by simp, by simp⟩)
    split
    · exact inv_wake kept
    · exact kept
  | setsSpeed accepted =>
    obtain ⟨speed, rfl⟩ := setSpeed_cases accepted
    exact inv_runner inv rfl rfl rfl rfl rfl (Or.inl rfl)
  | stops => exact (inv_stop inv).1
  | stopEnds waiting ceased =>
    refine ⟨?_, fun _ => ceased, fun _ => Or.inr ceased, fun _ => Or.inr ceased⟩
    exact stopped_consistent (consistent_congr inv.consistent rfl rfl rfl rfl)
  | stopReturns waiting ceased =>
    exact ⟨inv.consistent, inv.finished, inv.stopped, inv.task⟩

theorem inv_turn {initial : List NodeView} {rng : Rng} {c c' : Config} (inv : Inv initial c)
    (turn : Turn rng c c') : Inv initial c' := by
  cases turn with
  | own step => exact inv_step inv step
  | stream published buffer => exact inv_runner inv published rfl rfl rfl rfl (Or.inl rfl)

theorem inv_created (rng : Rng) (networkx : Networkx) (experimentId : Uuid)
    (config : ExperimentConfig) (hasGateway : Bool) :
    Inv (buildWorld rng networkx config).1.views
      (created rng networkx experimentId config hasGateway) := by
  have observed : (buildWorld rng networkx config).1.views =
      foldViews (buildWorld rng networkx config).1.views
        ({ simTick := 0, eventType := .experimentStarted } ::
          (buildWorld rng networkx config).2) :=
    (buildWorld_drafts_observed rng networkx config).symm
  have settled : Settled (buildWorld rng networkx config).1.views
      (ExperimentRunner.new rng networkx experimentId config hasGateway).publishInitial :=
    publish_settled rfl rfl observed
  have scheduled : Consistent (buildWorld rng networkx config).1.views
      (ExperimentRunner.new rng networkx experimentId config hasGateway).publishInitial
      .created := consistent_of_settled settled rfl (by simp)
  constructor
  · exact consistent_congr scheduled rfl rfl rfl rfl
  · intro finished
    cases finished
  · intro stopped
    cases stopped
  · intro none
    cases none

theorem inv_reachable {initial : List NodeView} {rng : Rng} {start c : Config}
    (inv : Inv initial start) (reach : Reachable rng start c) : Inv initial c := by
  induction reach with
  | refl => exact inv
  | tail _ turn ih => exact inv_turn ih turn

theorem ended_turn {initial : List NodeView} {rng : Rng} {c c' : Config} (inv : Inv initial c)
    (ended : Ended c) (turn : Turn rng c c') :
    Ended c' ∧ c'.loop.unpublished = c.loop.unpublished := by
  cases turn with
  | own step =>
    cases step with
    | enters place kept => cases ended_idle ended place kept
    | unpaused place kept => cases ended_idle ended place kept
    | answered place kept => cases ended_idle ended place kept
    | slept place kept => cases ended_idle ended place kept
    | cancels requested suspended => exact ⟨Or.inr rfl, rfl⟩
    | pauses accepted => exact ⟨ended, rfl⟩
    | resumes accepted =>
      split
      · exact ⟨by simpa [Ended] using ended, wake_unpublished c.loop⟩
      · exact ⟨ended, rfl⟩
    | setsSpeed accepted => exact ⟨ended, rfl⟩
    | stops =>
      obtain ⟨_, ended', same⟩ := inv_stop inv
      exact ⟨ended', by rw [same]⟩
    | stopEnds waiting ceased => exact ⟨ended, rfl⟩
    | stopReturns waiting ceased => exact ⟨ended, rfl⟩
  | stream published buffer => exact ⟨ended, rfl⟩

/-- The node views of the snapshot are the fold of the events up to its `last_seq`. -/
def Agrees (initial : List NodeView) (runner : ExperimentRunner) : Prop :=
  runner.snapshot.nodes = foldViews initial ((runner.bus.published.filter fun event =>
    (event.seq : Int) ≤ runner.snapshot.lastSeq).map Event.toEventDraft)

/-- The loop does not hold a draft that compromises or quarantines an agent: it is not
    waiting for real agents, nor was it cancelled there, in a tick that did either. -/
def NothingHeldBack (loop : LoopPlace) : Prop := ∀ d ∈ loop.unpublished, ¬ Marks d

instance (loop : LoopPlace) : Decidable (NothingHeldBack loop) :=
  inferInstanceAs (Decidable (∀ d ∈ loop.unpublished, ¬ Marks d))

theorem stop_completes {rng : Rng} {c : Config} (going : c.runner.status = .running)
    (task : c.runner.hasTask = true) (suspended : c.loop.isOver = false)
    (alone : c.stops = []) : ∃ c', Reachable rng c.stop c' ∧ c'.stops = [] := by
  have waits : c.stop.cancelRequested = true ∧ c.stop.loop = c.loop ∧ c.stop.stops = [.first] := by
    unfold Config.stop
    rw [going]
    simp [Config.firstStop, task, suspended, alone]
  obtain ⟨requested, same, waiting⟩ := waits
  have cancels : Step rng c.stop { c.stop with loop := .cancelled c.stop.loop.unpublished } :=
    .cancels requested (by rw [same]; exact suspended)
  have ends := @Step.stopEnds rng { c.stop with loop := .cancelled c.stop.loop.unpublished }
    [] [] waiting rfl
  exact ⟨_, (Relation.ReflTransGen.single (.own cancels)).tail (.own ends), rfl⟩

def oneTick : ExperimentConfig :=
  { smallNetwork with
    maxTicks := ⟨1, by decide⟩
    pSame := certain
    pCross := certain
    defenseEnabled := false }

def ticked (config : ExperimentConfig) : Config :=
  (created default default 0 config false).withLoop
    (loopHead default (created default default 0 config false).runner)

theorem ticked_reachable (config : ExperimentConfig) :
    Reachable default (created default default 0 config false) (ticked config) :=
  .single (.own (.enters rfl rfl))

theorem ticked_sleeping {config : ExperimentConfig}
    (going : isFinished (buildWorld default default config).1 config = false) :
    ticked config = (created default default 0 config false).withLoop (publishTick
      { (created default default 0 config false).runner with
        state := (advance default (buildWorld default default config).1 config).1 }
      (advance default (buildWorld default default config).1 config).2) := by
  unfold ticked loopHead
  rw [if_pos ⟨rfl, going⟩]
  rfl

theorem one_tick_spreads :
    isFinished (buildWorld default default oneTick).1 oneTick = false ∧
      ∃ d ∈ (advance default (buildWorld default default oneTick).1 oneTick).2,
        d.simTick = 0 ∧ Marks d := by
  decide

def twoRealAgents : ExperimentConfig :=
  { smallNetwork with
    pSame := certain
    pCross := certain
    defenseEnabled := false
    realAgentCount := twoAgents }

/- With probability 1 every draw succeeds. Tick 0 compromises the simulated neighbours of
   agent-000, and waits for the model on its one real neighbour. -/
def firstWait : Config :=
  (created default default 0 twoRealAgents true).withLoop
    (loopHead default (created default default 0 twoRealAgents true).runner)

theorem first_wait_holds_back : ¬ NothingHeldBack firstWait.loop ∧
    firstWait.runner.status = .running ∧ firstWait.runner.hasTask = true ∧
    firstWait.loop.isOver = false ∧ ∃ node ∈ firstWait.runner.state.nodes.values,
      node.securityState = .compromised ∧ node.compromisedBy ≠ none := by
  decide +kernel

end AgentShield.Orchestrator
