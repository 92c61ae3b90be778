import AgentShield.Api.StoredRun
import AgentShield.Orchestrator.CleanStop

/-!
The writer of one experiment (`persistence/writer.py`): one more subscriber of the runner's
bus. Its task waits for an event or for the terminal event, drains its queue in bounded
passes, and finalizes when it has seen the terminal event and its queue is empty.
-/
namespace AgentShield.Persistence
open Schema Events Engine TopologyBuilder Orchestrator StreamHandler Streams ExperimentHistory

def drainBatchCap : Nat := 500

inductive Place where
  | inserting
  | failed
  | scheduled
  /- `asyncio.wait` on both tasks: the result of `get_task`, and whether `term_task` is done. -/
  | racing (got : Option Event) (terminal : Bool)
  /- `asyncio.wait(pending)`; a `get()` that is cancelled while it waits takes nothing. -/
  | cancelling (got : Option Event) (terminal : Bool)
  | writing (batch : List Event) (terminal : Bool)
  | finalizing (summary : ExperimentRunner)
  | finalized
  | cancelled

structure PostgresWriter where
  experimentId : Uuid
  run : Orchestrator.Config
  pool : Pool
  queue : Nat
  place : Place
  /- History: what was handed to `_write_batch`, call by call. -/
  handed : List (List Event)

namespace PostgresWriter

def bus (self : PostgresWriter) : EventBus := self.run.runner.bus

def withBus (self : PostgresWriter) (bus : EventBus) : PostgresWriter :=
  { self with run := { self.run with runner := { self.run.runner with bus } } }

def unsubscribe (self : PostgresWriter) : PostgresWriter :=
  self.withBus (self.bus.unsubscribe self.queue)

def start (experimentId : Uuid) (pool : Pool) (run : Orchestrator.Config) : PostgresWriter :=
  let (bus, queue) := run.runner.bus.subscribe
  { experimentId
    run := { run with runner := { run.runner with bus } }
    pool
    queue
    place := .inserting
    handed := [] }

/- `get_nowait` until the batch is full or the queue is empty. -/
def takeNowait (queue : Nat) : Nat → EventBus → EventBus × List Event
  | 0, bus => (bus, [])
  | room + 1, bus =>
    match bus.getNowait queue with
    | none => (bus, [])
    | some (bus, event) =>
      let (bus, rest) := takeNowait queue room bus
      (bus, event :: rest)

def checkEnd (self : PostgresWriter) (terminal : Bool) : PostgresWriter :=
  { self with
    place := if terminal ∧ (self.bus.getNowait self.queue).isNone then
        .finalizing self.run.runner
      else .racing none false }

/-- One pass, after the wait. -/
def pass (self : PostgresWriter) (got : Option Event) (terminal : Bool) : PostgresWriter :=
  let (bus, more) := takeNowait self.queue (drainBatchCap - got.toList.length) self.bus
  let batch := got.toList ++ more
  let self := self.withBus bus
  if batch.isEmpty then self.checkEnd terminal
  else { self with handed := self.handed ++ [batch], place := .writing batch terminal }

/- The wait returned; whatever is pending is cancelled, and waited for. -/
def awake (self : PostgresWriter) (got : Option Event) (terminal : Bool) : PostgresWriter :=
  if got.isSome ∧ terminal then self.pass got terminal
  else { self with place := .cancelling got terminal }

end PostgresWriter

def Place.hasTask : Place → Bool
  | .inserting => false
  | .failed => false
  | .finalized => false
  | .cancelled => false
  | _ => true

/-- One turn of the event loop: the runner's, another subscriber's, or the writer's. -/
inductive Step (rng : Rng) : PostgresWriter → PostgresWriter → Prop where
  | runs {w : PostgresWriter} {run : Orchestrator.Config}
      (step : Orchestrator.Step rng w.run run) : Step rng w { w with run }
  | others {w : PostgresWriter} {bus : EventBus}
      (elsewhere : Elsewhere w.bus bus (some w.queue)) : Step rng w (w.withBus bus)
  | inserts {w : PostgresWriter} (place : w.place = .inserting) :
      Step rng w { w with
        pool := insertExperimentRow w.pool w.experimentId w.run.runner
        place := .scheduled }
  | insertFails {w : PostgresWriter} (place : w.place = .inserting) :
      Step rng w { w.unsubscribe with place := .failed }
  | enters {w : PostgresWriter} (place : w.place = .scheduled) :
      Step rng w { w with place := .racing none false }
  | gets {w : PostgresWriter} {bus : EventBus} {event : Event} {terminal : Bool}
      (place : w.place = .racing none terminal)
      (got : w.bus.getNowait w.queue = some (bus, event)) :
      Step rng w { w.withBus bus with place := .racing (some event) terminal }
  | hears {w : PostgresWriter} {got : Option Event} (place : w.place = .racing got false)
      (set : w.run.runner.terminalEvent = true) :
      Step rng w { w with place := .racing got true }
  | awakes {w : PostgresWriter} {got : Option Event} {terminal : Bool}
      (place : w.place = .racing got terminal) (done : got.isSome ∨ terminal) :
      Step rng w (w.awake got terminal)
  | ceases {w : PostgresWriter} {got : Option Event} {terminal : Bool}
      (place : w.place = .cancelling got terminal) : Step rng w (w.pass got terminal)
  | writes {w : PostgresWriter} {batch : List Event} {terminal : Bool}
      (place : w.place = .writing batch terminal) (ok : Bool) :
      Step rng w (PostgresWriter.checkEnd { w with
        pool := if ok then writeBatch w.pool w.experimentId batch else w.pool } terminal)
  | finalizes {w : PostgresWriter} {summary : ExperimentRunner}
      (place : w.place = .finalizing summary) (ok : Bool) :
      Step rng w { w.unsubscribe with
        pool := if ok then finalize w.pool w.experimentId summary else w.pool
        place := .finalized }
  | cancels {w : PostgresWriter} (task : w.place.hasTask = true) :
      Step rng w { w.unsubscribe with place := .cancelled }

def Reaches (rng : Rng) : PostgresWriter → PostgresWriter → Prop :=
  Relation.ReflTransGen (Step rng)

/- The create route: the writer has started before the first events are published. -/
def createdWith (rng : Rng) (networkx : Networkx) (experimentId : Uuid)
    (config : ExperimentConfig) (hasGateway : Bool) (pool : Pool) : PostgresWriter :=
  let runner := ExperimentRunner.new rng networkx experimentId config hasGateway
  let (bus, queue) := runner.bus.subscribe
  { experimentId
    run := { created rng networkx experimentId config hasGateway with
      runner := { { runner with bus }.publishInitial with hasTask := true } }
    pool := insertExperimentRow pool experimentId runner
    queue
    place := .scheduled
    handed := [] }

/-- A writer that has just subscribed: the one of the create route, or one that joins the
    run later; and how many events were published before. -/
inductive Subscribed (rng : Rng) (networkx : Networkx) (experimentId : Uuid)
    (config : ExperimentConfig) (hasGateway : Bool) : PostgresWriter → Nat → Prop where
  | route (pool : Pool) :
      Subscribed rng networkx experimentId config hasGateway
        (createdWith rng networkx experimentId config hasGateway pool) 0
  | joins {run : Orchestrator.Config}
      (reach : Reachable rng (created rng networkx experimentId config hasGateway) run)
      (pool : Pool) :
      Subscribed rng networkx experimentId config hasGateway
        (.start experimentId pool run) run.runner.bus.published.length

def Place.Finalizes : Place → Prop
  | .finalizing _ => True
  | .finalized => True
  | _ => False

/-- Everything published since the subscription was taken, in order, or is in the queue. -/
def Flows (first : Nat) (bus : EventBus) (queue : Nat) (taken : List Event) : Prop :=
  ∃ next, Holds bus queue next ∧ first ≤ next ∧ taken = (bus.published.take next).drop first

section
variable {first queue : Nat} {bus : EventBus} {taken : List Event}

theorem flows_publish (flows : Flows first bus queue taken) (events : List Event) :
    Flows first (bus.publish events) queue taken := by
  obtain ⟨next, holds, order, rfl⟩ := flows
  refine ⟨next, holds_publish holds events, order, ?_⟩
  rw [publish_published, List.take_append_of_le_length holds.bound]

theorem flows_elsewhere {bus' : EventBus} (elsewhere : Elsewhere bus bus' (some queue))
    (flows : Flows first bus queue taken) : Flows first bus' queue taken := by
  obtain ⟨next, holds, order, same⟩ := flows
  refine ⟨next, holds_elsewhere elsewhere rfl holds, order, ?_⟩
  rw [elsewhere.published]
  exact same

theorem flows_get {bus' : EventBus} {event : Event} (flows : Flows first bus queue taken)
    (got : bus.getNowait queue = some (bus', event)) :
    Flows first bus' queue (taken ++ [event]) := by
  obtain ⟨next, holds, order, rfl⟩ := flows
  obtain ⟨here, published, _, holds'⟩ := holds_get holds got
  refine ⟨next + 1, holds', Nat.le_succ_of_le order, ?_⟩
  have within : first ≤ (bus.published.take next).length := by
    rw [List.length_take]
    have bound := holds.bound
    omega
  rw [published, List.take_add_one, here, Option.toList_some, List.drop_append_of_le_length within]

theorem flows_takeNowait (room : Nat) (flows : Flows first bus queue taken) :
    Flows first (PostgresWriter.takeNowait queue room bus).1 queue
      (taken ++ (PostgresWriter.takeNowait queue room bus).2) := by
  induction room generalizing bus taken with
  | zero =>
    rw [PostgresWriter.takeNowait, List.append_nil]
    exact flows
  | succ room ih =>
    unfold PostgresWriter.takeNowait
    split
    · rw [List.append_nil]
      exact flows
    · rename_i bus' event got
      have later := ih (flows_get flows got)
      rw [List.append_assoc] at later
      exact later

theorem flows_all (flows : Flows first bus queue taken) (empty : bus.getNowait queue = none) :
    taken = bus.published.drop first := by
  obtain ⟨next, holds, _, rfl⟩ := flows
  rw [List.take_of_length_le (holds_nothing holds empty)]

theorem takeNowait_kept (queue room : Nat) (bus : EventBus) :
    (PostgresWriter.takeNowait queue room bus).1.published = bus.published ∧
      (PostgresWriter.takeNowait queue room bus).1.buffer = bus.buffer := by
  induction room generalizing bus with
  | zero => exact ⟨rfl, rfl⟩
  | succ room ih =>
    unfold PostgresWriter.takeNowait
    split
    · exact ⟨rfl, rfl⟩
    · rename_i bus' event got
      obtain ⟨q, rest, _, _, rfl⟩ := getNowait_some got
      obtain ⟨published, buffer⟩ := ih
        { bus with subscribers := bus.subscribers.put { q with events := rest } }
      exact ⟨published, buffer⟩

end

def Place.held : Place → List Event
  | .racing got _ => got.toList
  | .cancelling got _ => got.toList
  | _ => []

def Place.heard : Place → Bool
  | .racing _ terminal => terminal
  | .cancelling _ terminal => terminal
  | .writing _ terminal => terminal
  | .finalizing _ => true
  | .finalized => true
  | _ => false

def Accounted (first : Nat) (w : PostgresWriter) : Place → Prop
  | .failed => True
  | .cancelled => True
  | .finalizing _ => w.handed.flatten = w.bus.published.drop first
  | .finalized => w.handed.flatten = w.bus.published.drop first
  | place => Flows first w.bus w.queue (w.handed.flatten ++ place.held)

section
variable {rng : Rng} {networkx : Networkx} {experimentId : Uuid} {config : ExperimentConfig}
  {hasGateway : Bool} {first : Nat} {w w' : PostgresWriter}

structure Inv (rng : Rng) (networkx : Networkx) (experimentId : Uuid) (config : ExperimentConfig)
    (hasGateway : Bool) (first : Nat) (w : PostgresWriter) : Prop where
  reach : Reachable rng (created rng networkx experimentId config hasGateway) w.run
  heard : w.place.heard = true → w.run.runner.terminalEvent = true
  accounted : Accounted first w w.place

theorem terminal_published {run run' : Orchestrator.Config}
    (reach : Reachable rng (created rng networkx experimentId config hasGateway) run)
    (set : run.runner.terminalEvent = true) (step : Orchestrator.Step rng run run') :
    run'.runner.bus.published = run.runner.bus.published ∧
      run'.runner.terminalEvent = true := by
  have phase := phase_reachable (phase_created rng networkx experimentId config hasGateway) reach
  have frozen := over_turn (phase_terminal phase set) (.own step)
  obtain ⟨drafts, bus, _⟩ := runner_act step
  have published : run'.runner.bus.published =
      run.runner.bus.published ++ (run.runner.emitter.emit drafts).2 := by
    rw [bus]
    exact publish_published run.runner.bus _
  have log := frozen.log
  unfold ExperimentRunner.log at log
  rw [published, List.map_append, List.append_right_eq_self, List.map_eq_nil_iff] at log
  refine ⟨?_, frozen.ended.set⟩
  rw [published, log, List.append_nil]

theorem accounted_goes_on {run : Orchestrator.Config}
    (flows : ∀ taken, Flows first w.bus w.queue taken → Flows first run.runner.bus w.queue taken)
    (published : w.place.heard = true → run.runner.bus.published = w.bus.published)
    (accounted : Accounted first w w.place) : Accounted first { w with run } w.place := by
  obtain ⟨_, _, _, _, place, _⟩ := w
  cases place with
  | failed => trivial
  | cancelled => trivial
  | finalizing summary => exact accounted.trans (congrArg _ (published rfl).symm)
  | finalized => exact accounted.trans (congrArg _ (published rfl).symm)
  | inserting => exact flows _ accounted
  | scheduled => exact flows _ accounted
  | racing got terminal => exact flows _ accounted
  | cancelling got terminal => exact flows _ accounted
  | writing batch terminal => exact flows _ accounted

theorem inv_runs {run : Orchestrator.Config}
    (inv : Inv rng networkx experimentId config hasGateway first w)
    (step : Orchestrator.Step rng w.run run) :
    Inv rng networkx experimentId config hasGateway first { w with run } := by
  obtain ⟨reach, heard, accounted⟩ := inv
  have frozen := fun known => terminal_published reach (heard known) step
  have flows : ∀ taken, Flows first w.bus w.queue taken →
      Flows first run.runner.bus w.queue taken := by
    intro taken flows
    obtain ⟨drafts, bus, _⟩ := runner_act step
    rw [bus]
    exact flows_publish flows _
  exact ⟨reach.tail (.own step), fun known => (frozen known).2,
    accounted_goes_on flows (fun known => (frozen known).1) accounted⟩

theorem reach_withBus {bus : EventBus}
    (reach : Reachable rng (created rng networkx experimentId config hasGateway) w.run)
    (published : bus.published = w.bus.published) (buffer : bus.buffer = w.bus.buffer) :
    Reachable rng (created rng networkx experimentId config hasGateway) (w.withBus bus).run :=
  reach.tail (.stream w.run published buffer)

theorem inv_others {bus : EventBus} (inv : Inv rng networkx experimentId config hasGateway first w)
    (elsewhere : Elsewhere w.bus bus (some w.queue)) :
    Inv rng networkx experimentId config hasGateway first (w.withBus bus) :=
  ⟨reach_withBus inv.reach elsewhere.published elsewhere.buffer, inv.heard,
    accounted_goes_on (fun _ => flows_elsewhere elsewhere) (fun _ => elsewhere.published)
      inv.accounted⟩

theorem inv_checkEnd {terminal : Bool}
    (reach : Reachable rng (created rng networkx experimentId config hasGateway) w.run)
    (heard : terminal = true → w.run.runner.terminalEvent = true)
    (flows : Flows first w.bus w.queue w.handed.flatten) :
    Inv rng networkx experimentId config hasGateway first (w.checkEnd terminal) := by
  unfold PostgresWriter.checkEnd
  split
  · rename_i last
    refine ⟨reach, fun _ => heard last.1, ?_⟩
    exact flows_all flows (Option.isNone_iff_eq_none.mp last.2)
  · refine ⟨reach, fun known => Bool.noConfusion known, ?_⟩
    change Flows first w.bus w.queue (w.handed.flatten ++ [])
    rw [List.append_nil]
    exact flows

theorem inv_pass {got : Option Event} {terminal : Bool}
    (reach : Reachable rng (created rng networkx experimentId config hasGateway) w.run)
    (heard : terminal = true → w.run.runner.terminalEvent = true)
    (flows : Flows first w.bus w.queue (w.handed.flatten ++ got.toList)) :
    Inv rng networkx experimentId config hasGateway first (w.pass got terminal) := by
  have taken := flows_takeNowait (drainBatchCap - got.toList.length) flows
  obtain ⟨published, buffer⟩ := takeNowait_kept w.queue
    (drainBatchCap - got.toList.length) w.bus
  have reach' := reach_withBus reach published buffer
  unfold PostgresWriter.pass
  dsimp only
  rw [List.append_assoc] at taken
  split
  · rename_i nothing
    rw [List.isEmpty_iff.mp nothing, List.append_nil] at taken
    exact inv_checkEnd reach' heard taken
  · refine ⟨reach', heard, ?_⟩
    change Flows first _ w.queue ((w.handed ++ [_]).flatten ++ [])
    rw [List.append_nil, List.flatten_append, List.flatten_singleton]
    exact taken

theorem inv_step (inv : Inv rng networkx experimentId config hasGateway first w)
    (step : Step rng w w') : Inv rng networkx experimentId config hasGateway first w' := by
  have accounted := inv.accounted
  have heard := inv.heard
  cases step with
  | runs step => exact inv_runs inv step
  | others elsewhere => exact inv_others inv elsewhere
  | inserts place =>
    rw [place] at accounted
    exact ⟨inv.reach, fun known => Bool.noConfusion known, accounted⟩
  | insertFails place =>
    exact ⟨reach_withBus inv.reach rfl rfl, fun known => Bool.noConfusion known, trivial⟩
  | enters place =>
    rw [place] at accounted
    exact ⟨inv.reach, fun known => Bool.noConfusion known, accounted⟩
  | @gets bus event terminal place got =>
    rw [place] at accounted heard
    obtain ⟨q, rest, _, _, rfl⟩ := getNowait_some got
    refine ⟨reach_withBus inv.reach rfl rfl, heard, ?_⟩
    have taken := flows_get accounted got
    rw [List.append_assoc] at taken
    exact taken
  | hears place set =>
    rw [place] at accounted
    exact ⟨inv.reach, fun _ => set, accounted⟩
  | awakes place done =>
    rw [place] at accounted heard
    unfold PostgresWriter.awake
    split
    · exact inv_pass inv.reach heard accounted
    · exact ⟨inv.reach, heard, accounted⟩
  | ceases place =>
    rw [place] at accounted heard
    exact inv_pass inv.reach heard accounted
  | writes place ok =>
    rw [place] at accounted heard
    change Flows first w.bus w.queue (w.handed.flatten ++ []) at accounted
    rw [List.append_nil] at accounted
    exact inv_checkEnd inv.reach heard accounted
  | finalizes place ok =>
    rw [place] at accounted heard
    exact ⟨reach_withBus inv.reach rfl rfl, heard, accounted⟩
  | cancels task =>
    exact ⟨reach_withBus inv.reach rfl rfl, fun known => Bool.noConfusion known, trivial⟩

theorem publish_buffer (bus : EventBus) (events : List Event) :
    (bus.publish events).buffer = events.foldl ringAppend bus.buffer := by
  induction events generalizing bus with
  | nil => rfl
  | cons event rest ih => exact ih (bus.publishOne event)

theorem subscribed_inv (subscribed : Subscribed rng networkx experimentId config hasGateway w first) :
    Inv rng networkx experimentId config hasGateway first w := by
  cases subscribed with
  | route pool =>
    refine ⟨.single (.stream _ ?_ ?_), fun known => Bool.noConfusion known, ?_⟩
    · exact (publish_published _ _).trans (publish_published EventBus.new _).symm
    · exact (publish_buffer _ _).trans (publish_buffer EventBus.new _).symm
    · exact flows_publish ⟨0, subscribe_holds .new, Nat.le_refl 0, rfl⟩ _
  | @joins run reach pool =>
    refine ⟨reach.tail (.stream run rfl rfl), fun known => Bool.noConfusion known, ?_⟩
    have none_taken : (run.runner.bus.published.take run.runner.bus.published.length).drop
        run.runner.bus.published.length = [] := by
      rw [List.take_length, List.drop_length]
    exact ⟨_, subscribe_holds run.runner.bus, Nat.le_refl _, none_taken.symm⟩

theorem reaches_inv {start : PostgresWriter}
    (subscribed : Subscribed rng networkx experimentId config hasGateway start first)
    (reaches : Reaches rng start w) : Inv rng networkx experimentId config hasGateway first w := by
  induction reaches with
  | refl => exact subscribed_inv subscribed
  | tail _ step ih => exact inv_step ih step

end

instance : DecidablePred Place.Finalizes := fun place =>
  match place with
  | .finalizing _ => isTrue trivial
  | .finalized => isTrue trivial
  | .inserting => isFalse id
  | .failed => isFalse id
  | .scheduled => isFalse id
  | .racing _ _ => isFalse id
  | .cancelling _ _ => isFalse id
  | .writing _ _ => isFalse id
  | .cancelled => isFalse id

/-- However the runner, the other subscribers and the writer interleave, a writer that
    finalizes has handed on every event since its subscription, once and in order. -/
theorem writer_hands_over_everything (rng : Rng) (networkx : Networkx) (experimentId : Uuid)
    (config : ExperimentConfig) (hasGateway : Bool) {start w : PostgresWriter} {first : Nat}
    (subscribed : Subscribed rng networkx experimentId config hasGateway start first)
    (reaches : Reaches rng start w) (ends : w.place.Finalizes) :
    w.run.runner.terminalEvent = true ∧
      w.handed.flatten = w.bus.published.drop first ∧
      w.handed.flatten.map Event.seq =
        List.range' first (w.bus.published.length - first) := by
  obtain ⟨reach, heard, accounted⟩ := reaches_inv subscribed reaches
  have all : w.place.heard = true ∧ w.handed.flatten = w.bus.published.drop first := by
    cases place : w.place with
    | finalizing summary =>
      rw [place] at accounted
      exact ⟨rfl, accounted⟩
    | finalized =>
      rw [place] at accounted
      exact ⟨rfl, accounted⟩
    | _ =>
      rw [place] at ends
      exact ends.elim
  refine ⟨heard all.1, all.2, ?_⟩
  have seqs : w.bus.published.map Event.seq = List.range w.bus.published.length :=
    numbered_seqs (reachable_numbered reach)
  rw [all.2, List.map_drop, seqs, List.range_eq_range', List.drop_range']
  simp

def emptyPool : Pool := ⟨Keyed.Table.empty, Keyed.Table.empty⟩

def watched : PostgresWriter := createdWith default default 0 smallNetwork false emptyPool

def stoppedRun : Orchestrator.Config :=
  { watched.run.stop with
    runner := { watched.run.stop.runner with hasTask := false }
    loop := .cancelled []
    stops := [] }.stopped

def lastPass : PostgresWriter :=
  { watched with run := stoppedRun, place := .cancelling none true }.pass none true

theorem stoppedRun_reached : Reaches default watched { watched with run := stoppedRun } := by
  have asked : Reaches default watched _ := .single (.runs (.stops _))
  have cancelled := asked.tail (.runs (.cancels rfl rfl))
  exact cancelled.tail (.runs (@Orchestrator.Step.stopEnds default _ [] [] rfl rfl))

theorem lastPass_reached : Reaches default watched lastPass := by
  have enters := stoppedRun_reached.tail (.enters rfl)
  have hears := enters.tail (.hears rfl rfl)
  have awakes := hears.tail (.awakes rfl (Or.inr rfl))
  exact awakes.tail (.ceases rfl)

def lastBatch : List Event :=
  (PostgresWriter.takeNowait watched.queue drainBatchCap stoppedRun.runner.bus).2

theorem lastPass_writing :
    lastPass.place = .writing lastBatch true ∧ lastPass.handed = [lastBatch] := by
  have some_taken : lastBatch.isEmpty = false := by decide
  unfold lastBatch at some_taken
  unfold lastPass PostgresWriter.pass
  dsimp only [Option.toList_none, List.nil_append, List.length_nil, Nat.sub_zero]
  split
  · rename_i nothing
    cases some_taken.symm.trans nothing
  · exact ⟨rfl, rfl⟩

theorem stopped_run_handed_over :
    ∃ w, Reaches default watched w ∧ w.place.Finalizes ∧
      w.handed.flatten = w.bus.published ∧ w.handed.flatten ≠ [] := by
  obtain ⟨place, handed⟩ := lastPass_writing
  have writes := lastPass_reached.tail (.writes place false)
  have final : (lastPass.checkEnd true).place.Finalizes := by decide
  obtain ⟨_, all, _⟩ := writer_hands_over_everything default default 0 smallNetwork false
    (.route emptyPool) writes final
  refine ⟨_, writes, final, all, ?_⟩
  change lastPass.handed.flatten ≠ []
  rw [handed, List.flatten_singleton]
  decide

end AgentShield.Persistence
