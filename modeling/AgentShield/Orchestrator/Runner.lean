import Mathlib.Algebra.Order.Ring.Unbundled.Rat
import Mathlib.Logic.Relation
import AgentShield.Engine.Topology
import AgentShield.Events.Bus
import AgentShield.Scenarios.Registry

/-!
The runner of one experiment (`orchestrator/runner.py`): the loop task, which can
be elsewhere at each of its awaits, and the calls that arrive meanwhile.
-/
namespace AgentShield.Orchestrator
open Schema Keyed Events Engine Scenarios Agents TopologyBuilder Propagation

structure ExperimentRunner where
  experimentId : Uuid
  config : ExperimentConfig
  bus : EventBus
  emitter : EventEmitter
  /- `_gateway is not None`. -/
  hasGateway : Bool
  status : Status
  state : WorldState
  running : Bool
  hasTask : Bool
  speed : Rat
  pauseEvent : Bool
  terminalEvent : Bool
  initialDrafts : List EventDraft

def statusText : Status → String
  | .running => "running"
  | .paused => "paused"
  | .finished => "finished"
  | .stopped => "stopped"

structure InvalidTransitionError where
  text : String
  deriving DecidableEq

namespace ExperimentRunner

def new (rng : Rng) (networkx : Networkx) (experimentId : Uuid) (config : ExperimentConfig)
    (hasGateway : Bool) : ExperimentRunner :=
  let (state, topologyDrafts) := buildWorld rng networkx config
  { experimentId, config
    bus := .new
    emitter := ⟨experimentId, 0⟩
    hasGateway
    status := .running
    state
    running := true
    hasTask := false
    speed := 1
    pauseEvent := true
    terminalEvent := false
    initialDrafts := { simTick := 0, eventType := .experimentStarted } :: topologyDrafts }

/- `events = self._emitter.emit(drafts); await self.bus.publish(events)`, which never
   suspends. -/
def publish (self : ExperimentRunner) (drafts : List EventDraft) : ExperimentRunner :=
  { self with
    emitter := (self.emitter.emit drafts).1
    bus := self.bus.publish (self.emitter.emit drafts).2 }

def publishInitial (self : ExperimentRunner) : ExperimentRunner := self.publish self.initialDrafts

def pause (self : ExperimentRunner) : Except InvalidTransitionError ExperimentRunner :=
  if self.status = .paused then .ok self
  else if self.status ≠ .running then
    .error ⟨"cannot pause an experiment with status '" ++ statusText self.status ++ "'"⟩
  else .ok { self with pauseEvent := false, status := .paused }

def resume (self : ExperimentRunner) : Except InvalidTransitionError ExperimentRunner :=
  if self.status = .running then .ok self
  else if self.status ≠ .paused then
    .error ⟨"cannot resume an experiment with status '" ++ statusText self.status ++ "'"⟩
  else .ok { self with status := .running, pauseEvent := true }

def setSpeed (self : ExperimentRunner) (multiplier : Rat) :
    Except InvalidTransitionError ExperimentRunner :=
  if self.status = .finished ∨ self.status = .stopped then
    .error ⟨"cannot change speed of an experiment with status '" ++ statusText self.status ++
      "'"⟩
  else .ok { self with speed := max (1 / 4) (min 8 multiplier) }

def snapshot (self : ExperimentRunner) : SnapshotFrame :=
  { experimentId := self.experimentId
    lastSeq := self.emitter.lastSeq
    simTick := self.state.tick
    status := self.status
    nodes := self.state.views
    edges := self.state.edges.map fun edge => ⟨edge.1, edge.2⟩ }

def log (self : ExperimentRunner) : List EventDraft := self.bus.published.map Event.toEventDraft

end ExperimentRunner

/-- Where the loop task is: at an await, or over. -/
inductive LoopPlace where
  | created
  | awaitingPause (woken : Bool)
  | awaitingScenarios (drafts : List EventDraft) (locals : Gathering)
  | sleeping
  | done
  /- `lost` is history: the drafts the loop held when `CancelledError` reached it. -/
  | cancelled (lost : List EventDraft)

def LoopPlace.unpublished : LoopPlace → List EventDraft
  | .awaitingScenarios drafts _ => drafts
  | .cancelled lost => lost
  | _ => []

def LoopPlace.isOver : LoopPlace → Bool
  | .done => true
  | .cancelled _ => true
  | _ => false

def LoopPlace.wake : LoopPlace → LoopPlace
  | .awaitingPause _ => .awaitingPause true
  | place => place

def publishTick (self : ExperimentRunner) (drafts : List EventDraft) :
    ExperimentRunner × LoopPlace :=
  (self.publish drafts, .sleeping)

def continueTick (self : ExperimentRunner) (drafts : List EventDraft) :
    AsyncRun → ExperimentRunner × LoopPlace
  | .finished state realDrafts => publishTick { self with state } (drafts ++ realDrafts)
  | .gathering locals => (self, .awaitingScenarios drafts locals)

/- `self.state` is assigned here, and published only after the awaits below. -/
def runTick (rng : Rng) (self : ExperimentRunner) : ExperimentRunner × LoopPlace :=
  let (state, drafts) := advance rng self.state self.config
  let self := { self with state }
  if self.hasGateway then
    continueTick self drafts
      (runAsyncScenarios self.config self.state.tick self.config.activeScenarios self.state [])
  else publishTick self drafts

def endLoop (self : ExperimentRunner) : ExperimentRunner × LoopPlace :=
  if self.running then
    ({ self with status := .finished, terminalEvent := true, hasTask := false }, .done)
  else ({ self with hasTask := false }, .done)

def afterPause (rng : Rng) (self : ExperimentRunner) : ExperimentRunner × LoopPlace :=
  if self.running then runTick rng self else endLoop self

def loopHead (rng : Rng) (self : ExperimentRunner) : ExperimentRunner × LoopPlace :=
  if self.running ∧ isFinished self.state self.config = false then
    if self.pauseEvent then afterPause rng self else (self, .awaitingPause false)
  else endLoop self

inductive StopCall where
  | first
  | again
  deriving DecidableEq

structure Config where
  runner : ExperimentRunner
  loop : LoopPlace
  cancelRequested : Bool
  stops : List StopCall

def created (rng : Rng) (networkx : Networkx) (experimentId : Uuid) (config : ExperimentConfig)
    (hasGateway : Bool) : Config :=
  { runner :=
      { (ExperimentRunner.new rng networkx experimentId config hasGateway).publishInitial with
        hasTask := true }
    loop := .created
    cancelRequested := false
    stops := [] }

namespace Config

def withLoop (c : Config) (result : ExperimentRunner × LoopPlace) : Config :=
  { c with runner := result.1, loop := result.2 }

def stopped (c : Config) : Config :=
  { c with
    runner := { c.runner.publish
        [{ simTick := c.runner.state.tick, eventType := .experimentStopped }] with
      terminalEvent := true } }

def firstStop (c : Config) : Config :=
  let c := { c with runner := { c.runner with running := false, status := .stopped } }
  if c.runner.hasTask then
    if c.loop.isOver then { c with runner := { c.runner with hasTask := false } }.stopped
    else { c with cancelRequested := true, stops := .first :: c.stops }
  else c.stopped

/- `stop()` up to where it waits for the task, if it does. -/
def stop (c : Config) : Config :=
  match c.runner.status with
  | .finished => c
  | .stopped =>
    if c.runner.hasTask ∧ c.loop.isOver = false then { c with stops := .again :: c.stops }
    else c
  | .running => c.firstStop
  | .paused => c.firstStop

end Config

/-- One turn of the event loop: the loop task, or a call. -/
inductive Step (rng : Rng) : Config → Config → Prop where
  | enters {c : Config} (place : c.loop = .created) (kept : c.cancelRequested = false) :
      Step rng c (c.withLoop (loopHead rng c.runner))
  | unpaused {c : Config} (place : c.loop = .awaitingPause true)
      (kept : c.cancelRequested = false) :
      Step rng c (c.withLoop (afterPause rng c.runner))
  | answered {c : Config} {drafts : List EventDraft} {locals : Gathering}
      (place : c.loop = .awaitingScenarios drafts locals) (kept : c.cancelRequested = false)
      (responses : List (Option ModelResponse))
      (all : responses.length = locals.attempts.length) :
      Step rng c (c.withLoop (continueTick c.runner drafts
        (locals.resume c.runner.config c.runner.state.tick responses)))
  | slept {c : Config} (place : c.loop = .sleeping) (kept : c.cancelRequested = false) :
      Step rng c (c.withLoop (loopHead rng c.runner))
  | cancels {c : Config} (requested : c.cancelRequested = true)
      (suspended : c.loop.isOver = false) :
      Step rng c { c with loop := .cancelled c.loop.unpublished }
  | pauses {c : Config} {runner : ExperimentRunner} (accepted : c.runner.pause = .ok runner) :
      Step rng c { c with runner }
  | resumes {c : Config} {runner : ExperimentRunner} (accepted : c.runner.resume = .ok runner) :
      Step rng c { c with
        runner
        loop := if c.runner.status = .paused then c.loop.wake else c.loop }
  | setsSpeed {c : Config} {multiplier : Rat} {runner : ExperimentRunner}
      (accepted : c.runner.setSpeed multiplier = .ok runner) :
      Step rng c { c with runner }
  | stops (c : Config) : Step rng c c.stop
  | stopEnds {c : Config} {before after : List StopCall}
      (waiting : c.stops = before ++ .first :: after) (ceased : c.loop.isOver = true) :
      Step rng c { c with
        runner := { c.runner with hasTask := false }
        stops := before ++ after }.stopped
  | stopReturns {c : Config} {before after : List StopCall}
      (waiting : c.stops = before ++ .again :: after) (ceased : c.loop.isOver = true) :
      Step rng c { c with stops := before ++ after }

/- A stream handler changes its subscription, and nothing that was published. -/
inductive Turn (rng : Rng) : Config → Config → Prop where
  | own {c c' : Config} (step : Step rng c c') : Turn rng c c'
  | stream (c : Config) {bus : EventBus} (published : bus.published = c.runner.bus.published)
      (buffer : bus.buffer = c.runner.bus.buffer) :
      Turn rng c { c with runner := { c.runner with bus } }

/-- Any interleaving, from the end of the create request on. -/
def Reachable (rng : Rng) : Config → Config → Prop := Relation.ReflTransGen (Turn rng)

end AgentShield.Orchestrator
