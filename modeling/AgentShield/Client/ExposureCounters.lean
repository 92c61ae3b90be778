import AgentShield.Client.ReplayViewer

/-!
The exposure counters of the dashboard (`selectMetrics`), for a client that joins a run anywhere,
applies its events, and reconnects with fresh snapshots.
-/
namespace AgentShield.Client
open Schema Events Keyed Engine Scenarios TopologyBuilder Propagation ExperimentHistory
  Orchestrator Streams

/-- The client joins the run at `joined`. Then the run goes on, the client applies the event that
    is its next, or starts again from a snapshot; its last one is that of `base`, and `missed` are
    the events that it so skips. -/
inductive Watching (rng : Rng) (joined : Config) : Config → Config → GraphState → List Event →
    Prop where
  | connects {client client' : GraphState}
      (elsewhere : client.experimentId ≠ some joined.runner.experimentId)
      (reduced : reduce client (.snapshot joined.runner.snapshot) = .ok client') :
      Watching rng joined joined joined client' []
  | passes {base c c' : Config} {client : GraphState} {missed : List Event}
      (watching : Watching rng joined base c client missed) (turn : Turn rng c c') :
      Watching rng joined base c' client missed
  | receives {base c : Config} {client client' : GraphState} {missed : List Event}
      (watching : Watching rng joined base c client missed) {event : Event}
      (published : event ∈ c.runner.bus.published) (next : (event.seq : Int) = client.lastSeq + 1)
      (reduced : reduce client (.event event schemaVersion) = .ok client') :
      Watching rng joined base c client' missed
  | reconnects {base c : Config} {client client' : GraphState} {missed : List Event}
      (watching : Watching rng joined base c client missed)
      (reduced : reduce client (.snapshot c.runner.snapshot) = .ok client') :
      Watching rng joined c c client' (missed ++
        c.runner.bus.published.filter fun event => client.lastSeq < (event.seq : Int))

def CaughtUp (client : GraphState) (c : Config) : Prop :=
  client.lastSeq = c.runner.emitter.lastSeq

def Exposes (id : String) (d : EventDraft) : Prop := Success id d ∨ Quarantine id d

instance (id : String) (d : EventDraft) : Decidable (Exposes id d) :=
  inferInstanceAs (Decidable ((_ ∧ _) ∨ (_ ∧ _)))

def Shown (base : Config) (id : String) : Prop :=
  ∃ view ∈ base.runner.state.views, view.id = id ∧ exposed view = true

instance (base : Config) (id : String) : Decidable (Shown base id) :=
  inferInstanceAs (Decidable (∃ view ∈ base.runner.state.views, view.id = id ∧ exposed view = true))

def ToldOf (base c : Config) (id : String) : Prop :=
  Shown base id ∨ ∃ d ∈ c.runner.log, Exposes id d

instance (base c : Config) (id : String) : Decidable (ToldOf base c id) :=
  inferInstanceAs (Decidable (_ ∨ ∃ d ∈ c.runner.log, Exposes id d))

/-- The exposed agents that neither the snapshot of `base` nor any event has told of. -/
def untold (base c : Config) : Nat :=
  c.runner.state.views.countP fun view => exposed view = true ∧ ¬ ToldOf base c view.id

theorem endLoop_experiment (runner : ExperimentRunner) :
    (endLoop runner).1.experimentId = runner.experimentId := by
  unfold endLoop
  split <;> rfl

theorem continueTick_experiment (runner : ExperimentRunner) (drafts : List EventDraft)
    (run : AsyncRun) :
    (continueTick runner drafts run).1.experimentId = runner.experimentId := by
  cases run <;> rfl

theorem afterPause_experiment (rng : Rng) (runner : ExperimentRunner) :
    (afterPause rng runner).1.experimentId = runner.experimentId := by
  unfold afterPause
  split
  · unfold runTick
    dsimp only
    split
    · exact continueTick_experiment _ _ _
    · rfl
  · exact endLoop_experiment runner

theorem loopHead_experiment (rng : Rng) (runner : ExperimentRunner) :
    (loopHead rng runner).1.experimentId = runner.experimentId := by
  unfold loopHead
  split
  · split
    · exact afterPause_experiment rng runner
    · rfl
  · exact endLoop_experiment runner

theorem stop_experiment (c : Config) : c.stop.runner.experimentId = c.runner.experimentId := by
  have first : c.firstStop.runner.experimentId = c.runner.experimentId := by
    unfold Config.firstStop
    dsimp only
    split
    · split <;> rfl
    · rfl
  unfold Config.stop
  cases c.runner.status with
  | running => exact first
  | paused => exact first
  | finished => rfl
  | stopped =>
    dsimp only
    split <;> rfl

theorem turn_experiment {rng : Rng} {c c' : Config} (turn : Turn rng c c') :
    c'.runner.experimentId = c.runner.experimentId := by
  cases turn with
  | own step =>
    cases step with
    | enters => exact loopHead_experiment rng c.runner
    | unpaused => exact afterPause_experiment rng c.runner
    | answered => exact continueTick_experiment _ _ _
    | slept => exact loopHead_experiment rng c.runner
    | cancels => rfl
    | pauses accepted => rcases pause_cases accepted with rfl | ⟨_, rfl⟩ <;> rfl
    | resumes accepted => rcases resume_cases accepted with rfl | ⟨_, rfl⟩ <;> rfl
    | setsSpeed accepted =>
      obtain ⟨speed, rfl⟩ := setSpeed_cases accepted
      rfl
    | stops => exact stop_experiment c
    | stopEnds => rfl
    | stopReturns => rfl
  | stream => rfl

theorem turn_grows {rng : Rng} {c c' : Config} (turn : Turn rng c c') :
    ∃ later, c'.runner.bus.published = c.runner.bus.published ++ later := by
  cases turn with
  | own step =>
    obtain ⟨drafts, bus, _⟩ := runner_act step
    refine ⟨(c.runner.emitter.emit drafts).2, ?_⟩
    rw [bus]
    exact publish_published c.runner.bus _
  | stream published => exact ⟨[], published.trans (List.append_nil _).symm⟩

/- Of what is published, the client has read all but `unread`, and `since` after `base`. -/
structure ReadUp (base c : Config) (client : GraphState) (since unread : List Event) : Prop where
  published : c.runner.bus.published = base.runner.bus.published ++ since ++ unread
  next : client.lastSeq + 1 = ((base.runner.bus.published ++ since).length : Nat)

def Counted (joined c : Config) (client : GraphState) (missed : List Event) : Prop :=
  ∃ since unread, ReadUp joined c client since unread ∧
    client.metrics.newCompromises + missed.countP (fun event => First event.toEventDraft) =
      joined.runner.state.views.countP exposed +
        since.countP (fun event => First event.toEventDraft)

structure Folded (rng : Rng) (joined base c : Config) (client : GraphState) : Prop where
  before : Reachable rng joined base
  after : Reachable rng base c
  nodes : ∃ since unread, ReadUp base c client since unread ∧
    client.nodes.values = foldViews base.runner.state.views (since.map Event.toEventDraft)

structure Followed (rng : Rng) (joined base c : Config) (client : GraphState)
    (missed : List Event) : Prop where
  reach : Reachable rng joined c
  experiment : c.runner.experimentId = joined.runner.experimentId
  here : client.experimentId = some joined.runner.experimentId
  counted : Counted joined c client missed
  folded : Folded rng joined base c client

theorem readUp_now {base : Config} {client : GraphState} (next : base.runner.emitter.nextSeq =
    base.runner.bus.published.length) (lastSeq : client.lastSeq = base.runner.snapshot.lastSeq) :
    ReadUp base base client [] [] := by
  constructor
  · rw [List.append_nil, List.append_nil]
  · have last : base.runner.snapshot.lastSeq = (base.runner.emitter.nextSeq : Int) - 1 := rfl
    rw [lastSeq, last, next, List.append_nil]
    omega

theorem readUp_grows {base c c' : Config} {client : GraphState} {since unread later : List Event}
    (readUp : ReadUp base c client since unread)
    (grown : c'.runner.bus.published = c.runner.bus.published ++ later) :
    ReadUp base c' client since (unread ++ later) := by
  refine ⟨?_, readUp.next⟩
  rw [grown, readUp.published, List.append_assoc _ unread]

theorem readUp_receives {base c : Config} {client : GraphState} {since unread : List Event}
    (readUp : ReadUp base c client since unread)
    (seqs : c.runner.bus.published.map Event.seq = List.range c.runner.bus.published.length)
    {event : Event} (published : event ∈ c.runner.bus.published)
    (next : (event.seq : Int) = client.lastSeq + 1) :
    ∃ unread', ReadUp base c (reduceEvent client event) (since ++ [event]) unread' := by
  have here := readUp.next
  rw [← next] at here
  rw [readUp.published] at seqs published
  obtain ⟨rest, rfl⟩ := History.numbered_next seqs published (Int.ofNat_inj.mp here)
  refine ⟨rest, ?_, ?_⟩
  · rw [readUp.published]
    simp
  · have lastSeq : (reduceEvent client event).lastSeq = event.seq := rfl
    rw [lastSeq, here]
    simp only [List.length_append, List.length_singleton]
    omega

theorem readUp_skipped {base c : Config} {client : GraphState} {since unread : List Event}
    (readUp : ReadUp base c client since unread)
    (seqs : c.runner.bus.published.map Event.seq = List.range c.runner.bus.published.length) :
    (c.runner.bus.published.filter fun event => client.lastSeq < (event.seq : Int)) = unread := by
  have next := readUp.next
  rw [readUp.published] at seqs ⊢
  apply History.numbered_after seqs
  intro event
  apply decide_eq_decide.mpr
  omega

section
variable {rng : Rng} {networkx : Networkx} {experimentId : Uuid} {config : ExperimentConfig}
  {hasGateway : Bool} {joined : Config}

theorem reachable_consistent {c : Config}
    (reach : Reachable rng (created rng networkx experimentId config hasGateway) c) :
    Consistent (buildWorld rng networkx config).1.views c.runner c.loop :=
  (inv_reachable (inv_created rng networkx experimentId config hasGateway) reach).consistent

theorem reachable_named {c : Config}
    (reach : Reachable rng (created rng networkx experimentId config hasGateway) c) :
    Named c.runner.state.views := by
  obtain ⟨_, _, drafts, effects⟩ := created_chains reach
  exact effects_named effects

theorem folded_now {c : Config} (start : Reachable rng joined c) (client : GraphState)
    (consistent : Consistent (buildWorld rng networkx config).1.views c.runner c.loop) :
    Folded rng joined c c (reduceSnapshot client c.runner.snapshot) := by
  refine ⟨start, .refl, [], [], readUp_now consistent.next rfl, ?_⟩
  have distinct : (c.runner.snapshot.nodes.map NodeView.id).Nodup := views_distinct _
  rw [reduceSnapshot_values client distinct]
  exact (foldViews_unmarked (by simp) _).symm

theorem folded_receives {base c : Config} {client : GraphState} {event : Event}
    (start : Reachable rng (created rng networkx experimentId config hasGateway) joined)
    (folded : Folded rng joined base c client)
    (seqs : c.runner.bus.published.map Event.seq = List.range c.runner.bus.published.length)
    (published : event ∈ c.runner.bus.published) (next : (event.seq : Int) = client.lastSeq + 1) :
    Folded rng joined base c (reduceEvent client event) := by
  obtain ⟨before, after, since, unread, readUp, nodes⟩ := folded
  obtain ⟨unread', readUp'⟩ := readUp_receives readUp seqs published next
  refine ⟨before, after, _, unread', readUp', ?_⟩
  have named : Named client.nodes.values := by
    rw [nodes]
    intro view member
    obtain ⟨first, inside, rfl⟩ := List.mem_map.mp member
    rw [observeAll_id]
    exact reachable_named (start.trans before) first inside
  have observed : (reduceEvent client event).nodes.values =
      client.nodes.values.map (observe event.toEventDraft) := reduceNodes_values named event
  rw [observed, nodes, List.map_append, foldViews_append]
  rfl

theorem readUp_reconnects {c : Config} {client : GraphState} {since unread : List Event}
    (readUp : ReadUp joined c client since unread)
    (next : c.runner.emitter.nextSeq = c.runner.bus.published.length) :
    ReadUp joined c (reduceSnapshot client c.runner.snapshot) (since ++ unread) [] := by
  have all : c.runner.bus.published = joined.runner.bus.published ++ (since ++ unread) := by
    rw [readUp.published, List.append_assoc]
  constructor
  · rw [all, List.append_nil]
  · have last : (reduceSnapshot client c.runner.snapshot).lastSeq =
        (c.runner.emitter.nextSeq : Int) - 1 := rfl
    rw [← all, last, next]
    omega

theorem watching_followed {base c : Config} {client : GraphState} {missed : List Event}
    (start : Reachable rng (created rng networkx experimentId config hasGateway) joined)
    (watching : Watching rng joined base c client missed) :
    Followed rng joined base c client missed := by
  induction watching with
  | @connects client client' elsewhere reduced =>
    cases reduced
    have consistent := reachable_consistent start
    refine ⟨.refl, rfl, rfl, ⟨[], [], readUp_now consistent.next rfl, ?_⟩,
      folded_now .refl client consistent⟩
    have other : ¬ some joined.runner.snapshot.experimentId = client.experimentId :=
      fun same => elsewhere same.symm
    unfold reduceSnapshot
    simp only [other, decide_false, Bool.false_eq_true, if_false, List.countP_nil, Nat.add_zero]
    exact List.countP_eq_length_filter.symm
  | @passes base c c' client missed _ turn ih =>
    obtain ⟨later, grown⟩ := turn_grows turn
    obtain ⟨since, unread, readUp, count⟩ := ih.counted
    obtain ⟨before, after, since', unread', readUp', nodes⟩ := ih.folded
    exact ⟨ih.reach.tail turn, (turn_experiment turn).trans ih.experiment, ih.here,
      ⟨since, _, readUp_grows readUp grown, count⟩,
      ⟨before, after.tail turn, since', _, readUp_grows readUp' grown, nodes⟩⟩
  | @receives base c client client' missed _ event published next reduced ih =>
    cases reduced
    have consistent := reachable_consistent (start.trans ih.reach)
    refine ⟨ih.reach, ih.experiment, ih.here, ?_,
      folded_receives start ih.folded consistent.seqs published next⟩
    obtain ⟨since, unread, readUp, count⟩ := ih.counted
    obtain ⟨unread', readUp'⟩ := readUp_receives readUp consistent.seqs published next
    refine ⟨_, unread', readUp', ?_⟩
    have one : reduceAll client [event] = .ok (reduceEvent client event) := rfl
    rw [reduceAll_newCompromises one, List.countP_append]
    omega
  | @reconnects base c client client' missed _ reduced ih =>
    cases reduced
    have consistent := reachable_consistent (start.trans ih.reach)
    refine ⟨ih.reach, ih.experiment, congrArg some ih.experiment, ?_,
      folded_now ih.reach client consistent⟩
    obtain ⟨since, unread, readUp, count⟩ := ih.counted
    refine ⟨_, [], readUp_reconnects readUp consistent.next, ?_⟩
    have same : some c.runner.snapshot.experimentId = client.experimentId :=
      (congrArg some ih.experiment).trans ih.here.symm
    have kept : (reduceSnapshot client c.runner.snapshot).metrics = client.metrics := by
      unfold reduceSnapshot
      simp only [same, decide_true, if_true]
    rw [kept, readUp_skipped readUp consistent.seqs, List.countP_append, List.countP_append]
    omega

end

section
variable {rng : Rng} {networkx : Networkx} {experimentId : Uuid} {config : ExperimentConfig}
  {hasGateway : Bool} {joined : Config}

theorem catches_up {base c : Config} {client : GraphState} {missed : List Event}
    (start : Reachable rng (created rng networkx experimentId config hasGateway) joined)
    (watching : Watching rng joined base c client missed) :
    ∃ client', Watching rng joined base c client' missed ∧ CaughtUp client' c := by
  have followed := watching_followed start watching
  have consistent := reachable_consistent (start.trans followed.reach)
  obtain ⟨since, unread, readUp⟩ : ∃ since unread, ReadUp joined c client since unread := by
    obtain ⟨since, unread, readUp, _⟩ := followed.counted
    exact ⟨since, unread, readUp⟩
  clear followed
  induction unread generalizing client since with
  | nil =>
    refine ⟨client, watching, ?_⟩
    have next := readUp.next
    rw [← List.append_nil (joined.runner.bus.published ++ since), ← readUp.published,
      ← consistent.next] at next
    have last : c.runner.emitter.lastSeq = (c.runner.emitter.nextSeq : Int) - 1 := rfl
    unfold CaughtUp
    omega
  | cons event rest ih =>
    have published : event ∈ c.runner.bus.published := by
      rw [readUp.published]
      simp
    have seqs := consistent.seqs
    rw [readUp.published] at seqs
    have place := (History.numbered_read seqs).2
    rw [List.map_cons, List.length_cons, List.range'_succ] at place
    have next : (event.seq : Int) = client.lastSeq + 1 := by
      rw [readUp.next, (List.cons.inj place).1]
    apply ih (.receives watching published next rfl) (since ++ [event])
    · constructor
      · rw [readUp.published]
        simp
      · have lastSeq : (reduceEvent client event).lastSeq = event.seq := rfl
        rw [lastSeq, next, readUp.next]
        simp only [List.length_append, List.length_singleton]
        omega

end

end AgentShield.Client
