import AgentShield.Events.StreamLaws
import AgentShield.Orchestrator.SnapshotConsistency
import AgentShield.Runtime.EventLog

/-!
The two streams: `experiment_stream` over a runner (`api/ws.py`) and
`runtime_stream` over a live session (`api/routes_runtime.py`). Both publishers
keep to their bus, so the one loop delivers for both.
-/
namespace AgentShield.Streams
open Schema Events StreamHandler

section
open Coop Session Routes Resources

abbrev SessionConfig := Coop.Config LiveRuntimeSession HttpError Unit

def sessionPublisher (disk : Disk) (root : Path) : Publisher SessionConfig where
  bus c := c.state.bus
  setBus c bus := { c with state := { c.state with bus } }
  snapshot c := Session.snapshot c.state
  act := Coop.Step (call disk root)

structure SessionGood (c : SessionConfig) : Prop where
  next : c.state.emitter.nextSeq = c.state.bus.published.length
  quiet : ∀ t ∈ c.tasks, ∀ s, (t s).Leaves s

theorem session_act {disk : Disk} {root : Path} {c c' : SessionConfig} (good : SessionGood c)
    (acts : Coop.Step (call disk root) c c') :
    (∃ drafts, c'.state.bus = c.state.bus.publish (c.state.emitter.emit drafts).2 ∧
      c'.state.emitter = (c.state.emitter.emit drafts).1) ∧
    ∀ t ∈ c'.tasks, ∀ s, (t s).Leaves s := by
  cases acts with
  | arrive request =>
    obtain ⟨state, tasks⟩ := settle_prompt (call_prompt disk root request) c.state good.quiet
    obtain ⟨op, body, drafts, effect, ended⟩ := call_effect disk root request c.state
    obtain ⟨bus, emitter⟩ := effect_bus effect
    refine ⟨⟨drafts, ?_, ?_⟩, tasks⟩
    · rw [state, ended, ← bus, ← emitter]
      rfl
    · rw [state, ended, ← emitter]
      rfl
  | resume before after task s =>
    have others : ∀ t ∈ before ++ after, ∀ s, (t s).Leaves s := by
      intro t member
      apply good.quiet
      rcases List.mem_append.mp member with early | late
      · exact List.mem_append_left _ early
      · exact List.mem_append_right _ (List.mem_cons_of_mem task late)
    obtain ⟨state, tasks⟩ := settle_leaves (good.quiet task (by simp) s) others
    refine ⟨⟨[], ?_, ?_⟩, tasks⟩
    · rw [state]
      rfl
    · rw [state]
      rfl

theorem session_lawful (disk : Disk) (root : Path) :
    (sessionPublisher disk root).Lawful SessionGood := by
  constructor
  · intro c bus
    rfl
  · intro c bus good published
    constructor
    · exact good.next.trans (congrArg List.length published.symm)
    · exact good.quiet
  · intro c c' good acts
    obtain ⟨⟨drafts, bus, emitter⟩, quiet⟩ := session_act good acts
    constructor
    · rw [bus, emitter]
      exact emit_next good.next drafts
    · exact quiet
  · intro c c' good acts
    obtain ⟨⟨drafts, bus, _⟩, _⟩ := session_act good acts
    exact ⟨_, bus, emit_seqs good.next drafts⟩
  · intro c good
    have last : (Session.snapshot c.state).lastSeq = (c.state.emitter.nextSeq : Int) - 1 := rfl
    exact last.trans (by rw [good.next]; rfl)

end

section
open Orchestrator Engine TopologyBuilder Scenarios

def runnerPublisher (rng : Rng) : Publisher Orchestrator.Config where
  bus c := c.runner.bus
  setBus c bus := { c with runner := { c.runner with bus } }
  snapshot c := c.runner.snapshot
  act := Orchestrator.Step rng

def Publishes (before after : ExperimentRunner) : Prop :=
  ∃ drafts, after.bus = (before.publish drafts).bus ∧
    after.emitter = (before.publish drafts).emitter

theorem publishes_nothing {before after : ExperimentRunner} (bus : after.bus = before.bus)
    (emitter : after.emitter = before.emitter) : Publishes before after :=
  ⟨[], bus, emitter⟩

theorem continueTick_publishes (runner : ExperimentRunner) (drafts : List EventDraft)
    (run : AsyncRun) : Publishes runner (continueTick runner drafts run).1 := by
  cases run with
  | finished state realDrafts => exact ⟨drafts ++ realDrafts, rfl, rfl⟩
  | gathering locals => exact publishes_nothing rfl rfl

theorem runTick_publishes (rng : Rng) (runner : ExperimentRunner) :
    Publishes runner (runTick rng runner).1 := by
  unfold runTick
  dsimp only
  split
  · exact continueTick_publishes { runner with
      state := (advance rng runner.state runner.config).1 } _ _
  · exact ⟨_, rfl, rfl⟩

theorem endLoop_publishes (runner : ExperimentRunner) :
    Publishes runner (endLoop runner).1 := by
  unfold endLoop
  split <;> exact publishes_nothing rfl rfl

theorem afterPause_publishes (rng : Rng) (runner : ExperimentRunner) :
    Publishes runner (afterPause rng runner).1 := by
  unfold afterPause
  split
  · exact runTick_publishes rng runner
  · exact endLoop_publishes runner

theorem loopHead_publishes (rng : Rng) (runner : ExperimentRunner) :
    Publishes runner (loopHead rng runner).1 := by
  unfold loopHead
  split
  · split
    · exact afterPause_publishes rng runner
    · exact publishes_nothing rfl rfl
  · exact endLoop_publishes runner

theorem firstStop_publishes (c : Orchestrator.Config) :
    Publishes c.runner c.firstStop.runner := by
  unfold Orchestrator.Config.firstStop
  dsimp only
  split
  · split
    · exact ⟨_, rfl, rfl⟩
    · exact publishes_nothing rfl rfl
  · exact ⟨_, rfl, rfl⟩

theorem stop_publishes (c : Orchestrator.Config) : Publishes c.runner c.stop.runner := by
  unfold Orchestrator.Config.stop
  cases c.runner.status with
  | running => exact firstStop_publishes c
  | paused => exact firstStop_publishes c
  | finished => exact publishes_nothing rfl rfl
  | stopped =>
    dsimp only
    split <;> exact publishes_nothing rfl rfl

theorem runner_act {rng : Rng} {c c' : Orchestrator.Config} (acts : Orchestrator.Step rng c c') :
    Publishes c.runner c'.runner := by
  cases acts with
  | enters place kept => exact loopHead_publishes rng c.runner
  | unpaused place kept => exact afterPause_publishes rng c.runner
  | answered place kept responses all => exact continueTick_publishes c.runner _ _
  | slept place kept => exact loopHead_publishes rng c.runner
  | cancels requested suspended => exact publishes_nothing rfl rfl
  | pauses accepted =>
    rcases pause_cases accepted with rfl | ⟨_, rfl⟩ <;> exact publishes_nothing rfl rfl
  | resumes accepted =>
    rcases resume_cases accepted with rfl | ⟨_, rfl⟩ <;> exact publishes_nothing rfl rfl
  | setsSpeed accepted =>
    obtain ⟨speed, rfl⟩ := setSpeed_cases accepted
    exact publishes_nothing rfl rfl
  | stops => exact stop_publishes c
  | stopEnds waiting ceased => exact ⟨_, rfl, rfl⟩
  | stopReturns waiting ceased => exact publishes_nothing rfl rfl

def RunnerGood (c : Orchestrator.Config) : Prop :=
  c.runner.emitter.nextSeq = c.runner.bus.published.length

theorem runner_lawful (rng : Rng) : (runnerPublisher rng).Lawful RunnerGood := by
  constructor
  · intro c bus
    rfl
  · intro c bus good published
    exact good.trans (congrArg List.length published.symm)
  · intro c c' good acts
    obtain ⟨drafts, bus, emitter⟩ := runner_act acts
    unfold RunnerGood at good ⊢
    rw [bus, emitter]
    exact emit_next good drafts
  · intro c c' good acts
    obtain ⟨drafts, bus, _⟩ := runner_act acts
    exact ⟨_, bus, emit_seqs good drafts⟩
  · intro c good
    have last : c.runner.snapshot.lastSeq = (c.runner.emitter.nextSeq : Int) - 1 := rfl
    exact last.trans (by rw [good]; rfl)

end

theorem created_sound (rng : Engine.Rng) (networkx : TopologyBuilder.Networkx)
    (experimentId : Uuid) (config : ExperimentConfig) (hasGateway : Bool) :
    (Orchestrator.created rng networkx experimentId config hasGateway).runner.bus.Sound := by
  apply publish_sound new_sound
  exact emit_seqs rfl _

/-- Whatever the interleaving, a client of either stream is sent every event after its
    number, or one snapshot and every event after that: once each, in order, without a gap,
    up to where its handler is; and until the client leaves, the handler goes on by itself to
    the end of what is published. -/
theorem streams_deliver_exactly_once (disk : Resources.Disk) (root : Resources.Path)
    (sessionId : Uuid) (objective : String) (rng : Engine.Rng) (networkx : TopologyBuilder.Networkx)
    (experimentId : Uuid) (config : ExperimentConfig) (hasGateway : Bool)
    (sinceSeq : Option Int) :
    (∀ c, Reaches (sessionPublisher disk root) sinceSeq
        ⟨⟨Session.LiveRuntimeSession.new sessionId objective, []⟩, .accepting, []⟩ c →
      Delivered (Taken (sessionPublisher disk root) sinceSeq
          ⟨⟨Session.LiveRuntimeSession.new sessionId objective, []⟩, .accepting, []⟩ c)
        sinceSeq c.state.state.bus c.place c.received ∧
      Progresses (sessionPublisher disk root) sinceSeq c) ∧
    (∀ c, Reaches (runnerPublisher rng) sinceSeq
        ⟨Orchestrator.created rng networkx experimentId config hasGateway, .accepting, []⟩ c →
      Delivered (Taken (runnerPublisher rng) sinceSeq
          ⟨Orchestrator.created rng networkx experimentId config hasGateway, .accepting, []⟩ c)
        sinceSeq c.state.runner.bus c.place c.received ∧
      Progresses (runnerPublisher rng) sinceSeq c) := by
  constructor
  · intro c run
    have fresh : SessionGood ⟨Session.LiveRuntimeSession.new sessionId objective, []⟩ :=
      ⟨rfl, by simp⟩
    have lawful := session_lawful disk root
    exact ⟨delivers lawful fresh new_sound run, progresses lawful fresh new_sound run⟩
  · intro c run
    have inv := Orchestrator.inv_created rng networkx experimentId config hasGateway
    have sound := created_sound rng networkx experimentId config hasGateway
    have lawful := runner_lawful rng
    exact ⟨delivers lawful inv.consistent.next sound run,
      progresses lawful inv.consistent.next sound run⟩

def stepped {σ : Type} (p : Publisher σ) (sinceSeq : Option Int) (c : StreamHandler.Config σ) :
    StreamHandler.Config σ :=
  match advance p sinceSeq c.state c.place with
  | none => c
  | some (s, place, frames) => ⟨s, place, c.received ++ frames⟩

theorem reaches_stepped {σ : Type} {p : Publisher σ} {sinceSeq : Option Int}
    {start c : StreamHandler.Config σ} (run : Reaches p sinceSeq start c) :
    Reaches p sinceSeq start (stepped p sinceSeq c) := by
  unfold stepped
  cases next : advance p sinceSeq c.state c.place with
  | none => exact run
  | some result => exact run.tail (.advance c.received next)

section
open Coop Session Routes Resources

abbrev SessionStream := StreamHandler.Config SessionConfig

def registering (id : String) (c : SessionStream) : SessionStream :=
  let registered := call (fun _ => none) [] (.request (.registerWorker { id, role := "Developer" }))
  { c with state := settle c.state.tasks (registered.run c.state.state) }

def letIn : SessionStream :=
  registering "second" (registering "first"
    ⟨⟨LiveRuntimeSession.new 0 "objective", []⟩, .accepting, []⟩)

def resuming : SessionStream → SessionStream :=
  stepped (sessionPublisher (fun _ => none) []) (some 0)

def resumed : SessionStream :=
  resuming (resuming (registering "third" (resuming (resuming (resuming (resuming letIn))))))

theorem resumed_reached : Reaches (sessionPublisher (fun _ => none) []) (some 0)
    ⟨⟨LiveRuntimeSession.new 0 "objective", []⟩, .accepting, []⟩ resumed := by
  have registers : ∀ id {c}, Reaches (sessionPublisher (fun _ => none) []) (some 0)
      ⟨⟨LiveRuntimeSession.new 0 "objective", []⟩, .accepting, []⟩ c →
      Reaches (sessionPublisher (fun _ => none) []) (some 0)
        ⟨⟨LiveRuntimeSession.new 0 "objective", []⟩, .accepting, []⟩ (registering id c) :=
    fun id c run => run.tail (.publish c.place c.received (.arrive _ c.state))
  have subscribed := reaches_stepped (registers "second" (registers "first" .refl))
  have waits := reaches_stepped (reaches_stepped (reaches_stepped subscribed))
  exact reaches_stepped (reaches_stepped (registers "third" waits))

end

def numberOf : Frame → Int
  | .snapshot frame => frame.lastSeq
  | .event event => event.seq

theorem resumed_streams_delivered :
    resumed.received.map numberOf = [1, 2] ∧
    CaughtUp resumed.state.state.bus resumed.place ∧
    Delivered (Taken (sessionPublisher (fun _ => none) []) (some 0)
        ⟨⟨Session.LiveRuntimeSession.new 0 "objective", []⟩, .accepting, []⟩ resumed)
      (some 0) resumed.state.state.bus resumed.place resumed.received ∧
    ∃ c, Reaches (runnerPublisher default) (some 0)
        ⟨Orchestrator.created default default 0 Orchestrator.twoRealAgents true,
          .accepting, []⟩ c ∧
      CaughtUp c.state.runner.bus c.place ∧
      Delivered (Taken (runnerPublisher default) (some 0)
          ⟨Orchestrator.created default default 0 Orchestrator.twoRealAgents true,
            .accepting, []⟩ c)
        (some 0) c.state.runner.bus c.place c.received := by
  have streams := streams_deliver_exactly_once (fun _ => none) [] 0 "objective" default default 0
    Orchestrator.twoRealAgents true (some 0)
  obtain ⟨delivered, _⟩ := streams.1 resumed resumed_reached
  refine ⟨by decide, rfl, delivered, ?_⟩
  obtain ⟨_, progresses⟩ := streams.2 _ .refl
  obtain ⟨c, runs, caught, _⟩ := progresses.catches_up nofun
  have run := own_reaches runs
  exact ⟨c, run, caught, (streams.2 c run).1⟩

end AgentShield.Streams
