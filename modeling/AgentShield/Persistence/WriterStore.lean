import AgentShield.Persistence.Writer

/-!
What a writer of the create route leaves in Postgres: its batches, each written or skipped,
and the verdict of `_finalize` on them.
-/
namespace AgentShield.Persistence
open Schema Events Engine TopologyBuilder Orchestrator StreamHandler Streams ExperimentHistory

theorem drained_config {before pool : Pool} {experimentId : Uuid}
    {runner runner' : ExperimentRunner} {handed : List Event}
    (same : runner'.config = runner.config)
    (drained : Drained before experimentId runner handed pool) :
    Drained before experimentId runner' handed pool := by
  induction drained with
  | start =>
    have row : insertExperimentRow before experimentId runner =
        insertExperimentRow before experimentId runner' := by
      unfold insertExperimentRow
      rw [same]
    rw [row]
    exact .start
  | written sofar batch ih => exact .written ih batch
  | skipped sofar batch ih => exact .skipped ih batch

/-- The store holds what was handed over, up to the batch in hand. -/
def Stored (before : Pool) (w : PostgresWriter) : Place → Prop
  | .writing batch _ => ∃ earlier, w.handed = earlier ++ [batch] ∧
      Drained before w.experimentId w.run.runner earlier.flatten w.pool
  | .finalizing summary => summary.bus.published = w.bus.published ∧
      Drained before w.experimentId summary w.handed.flatten w.pool
  | .scheduled => Drained before w.experimentId w.run.runner w.handed.flatten w.pool
  | .racing _ _ => Drained before w.experimentId w.run.runner w.handed.flatten w.pool
  | .cancelling _ _ => Drained before w.experimentId w.run.runner w.handed.flatten w.pool
  | _ => True

section
variable {rng : Rng} {networkx : Networkx} {experimentId : Uuid} {config : ExperimentConfig}
  {hasGateway : Bool} {first : Nat} {before : Pool} {w w' : PostgresWriter}

theorem stored_goes_on {run : Orchestrator.Config}
    (configured : run.runner.config = w.run.runner.config)
    (published : w.place.heard = true → run.runner.bus.published = w.bus.published)
    (stored : Stored before w w.place) : Stored before { w with run } w.place := by
  have on : ∀ handed, Drained before w.experimentId w.run.runner handed w.pool →
      Drained before w.experimentId run.runner handed w.pool :=
    fun handed => drained_config configured
  cases place : w.place with
  | writing batch terminal =>
    rw [place] at stored
    obtain ⟨earlier, handed, drained⟩ := stored
    exact ⟨earlier, handed, on _ drained⟩
  | finalizing summary =>
    rw [place] at stored published
    exact ⟨stored.1.trans (published rfl).symm, stored.2⟩
  | scheduled =>
    rw [place] at stored
    exact on _ stored
  | racing got terminal =>
    rw [place] at stored
    exact on _ stored
  | cancelling got terminal =>
    rw [place] at stored
    exact on _ stored
  | _ => trivial

theorem stored_checkEnd {terminal : Bool}
    (drained : Drained before w.experimentId w.run.runner w.handed.flatten w.pool) :
    Stored before (w.checkEnd terminal) (w.checkEnd terminal).place := by
  unfold PostgresWriter.checkEnd
  split
  · exact ⟨rfl, drained⟩
  · exact drained

theorem stored_pass {got : Option Event} {terminal : Bool}
    (drained : Drained before w.experimentId w.run.runner w.handed.flatten w.pool) :
    Stored before (w.pass got terminal) (w.pass got terminal).place := by
  have same : ∀ bus, (w.withBus bus).run.runner.config = w.run.runner.config := fun _ => rfl
  unfold PostgresWriter.pass
  dsimp only
  split
  · exact stored_checkEnd (drained_config (same _) drained)
  · exact ⟨_, rfl, drained_config (same _) drained⟩

theorem checkEnd_begun {terminal : Bool} : (w.checkEnd terminal).place ≠ .inserting := by
  unfold PostgresWriter.checkEnd
  dsimp only
  split <;> exact Place.noConfusion

theorem pass_begun {got : Option Event} {terminal : Bool} :
    (w.pass got terminal).place ≠ .inserting := by
  unfold PostgresWriter.pass
  dsimp only
  split
  · exact checkEnd_begun
  · exact Place.noConfusion

theorem stored_step (inv : Inv rng networkx experimentId config hasGateway first w)
    (stored : Stored before w w.place) (begun : w.place ≠ .inserting) (step : Step rng w w') :
    Stored before w' w'.place ∧ w'.place ≠ .inserting := by
  cases step with
  | @runs run step =>
    have reach := inv.reach
    have configured : run.runner.config = w.run.runner.config := by
      rw [(created_chains (reach.tail (.own step))).1, (created_chains reach).1]
    exact ⟨stored_goes_on configured
      (fun known => (terminal_published reach (inv.heard known) step).1) stored, begun⟩
  | others elsewhere => exact ⟨stored_goes_on rfl (fun _ => elsewhere.published) stored, begun⟩
  | inserts place => exact absurd place begun
  | insertFails place => exact absurd place begun
  | enters place =>
    rw [place] at stored
    exact ⟨stored, Place.noConfusion⟩
  | @gets bus event terminal place got =>
    rw [place] at stored
    have same : (w.withBus bus).run.runner.config = w.run.runner.config := rfl
    exact ⟨drained_config same stored, Place.noConfusion⟩
  | hears place set =>
    rw [place] at stored
    exact ⟨stored, Place.noConfusion⟩
  | awakes place done =>
    rw [place] at stored
    unfold PostgresWriter.awake
    split
    · exact ⟨stored_pass stored, pass_begun⟩
    · exact ⟨stored, Place.noConfusion⟩
  | ceases place =>
    rw [place] at stored
    exact ⟨stored_pass stored, pass_begun⟩
  | @writes batch terminal place ok =>
    rw [place] at stored
    obtain ⟨earlier, handed, drained⟩ := stored
    refine ⟨stored_checkEnd ?_, checkEnd_begun⟩
    change Drained before w.experimentId w.run.runner w.handed.flatten _
    rw [handed, List.flatten_append, List.flatten_singleton]
    cases ok with
    | true => exact .written drained batch
    | false => exact .skipped drained batch
  | finalizes place ok => exact ⟨trivial, Place.noConfusion⟩
  | cancels task => exact ⟨trivial, Place.noConfusion⟩

theorem pass_experimentId {got : Option Event} {terminal : Bool} :
    (w.pass got terminal).experimentId = w.experimentId := by
  unfold PostgresWriter.pass
  dsimp only
  split <;> rfl

theorem reaches_experimentId {start : PostgresWriter} (reaches : Reaches rng start w) :
    w.experimentId = start.experimentId := by
  induction reaches with
  | refl => rfl
  | tail _ step ih =>
    refine Eq.trans ?_ ih
    cases step with
    | awakes =>
      unfold PostgresWriter.awake
      split
      · exact pass_experimentId
      · rfl
    | ceases => exact pass_experimentId
    | _ => rfl

theorem reaches_stored {start : PostgresWriter}
    (subscribed : Subscribed rng networkx experimentId config hasGateway start first)
    (stored : Stored before start start.place) (begun : start.place ≠ .inserting)
    (reaches : Reaches rng start w) : Stored before w w.place ∧ w.place ≠ .inserting := by
  induction reaches with
  | refl => exact ⟨stored, begun⟩
  | tail reaches step ih => exact stored_step (reaches_inv subscribed reaches) ih.1 ih.2 step

end

/-- When the check of `_finalize` finds the range of numbers whole, the history is the run. -/
theorem verdict_is_sound (rng : Rng) (networkx : Networkx) (experimentId : Uuid)
    (config : ExperimentConfig) (hasGateway : Bool) (before : Pool)
    (unknown : before.eventsOf experimentId = []) {w : PostgresWriter} {summary : ExperimentRunner}
    (reaches : Reaches rng (createdWith rng networkx experimentId config hasGateway before) w)
    (place : w.place = .finalizing summary)
    (complete : provedComplete w.pool experimentId summary.emitter.lastSeq = true) :
    Persisted (finalize w.pool experimentId summary) experimentId summary := by
  have subscribed := @Subscribed.route rng networkx experimentId config hasGateway before
  have stored : Stored before (createdWith rng networkx experimentId config hasGateway before)
      .scheduled := drained_config rfl .start
  obtain ⟨reach, _, accounted⟩ := reaches_inv subscribed reaches
  obtain ⟨stored, _⟩ := reaches_stored subscribed stored Place.noConfusion reaches
  rw [place] at stored accounted
  obtain ⟨published, drained⟩ := stored
  rw [reaches_experimentId reaches] at drained
  have all : w.handed.flatten = summary.bus.published := by
    rw [published]
    exact accounted
  rw [all] at drained
  refine finalize_persists unknown ?_ drained complete
  intro event member
  rw [published] at member
  have numbered := (reachable_numbered reach).events
  exact number_signed (numbered ▸ member)

/-- Whatever became of the batches, the flag that `_finalize` records says whether the numbers
    that are stored are all those of the run. -/
theorem completeness_flag_is_exact (rng : Rng) (networkx : Networkx) (experimentId : Uuid)
    (config : ExperimentConfig) (hasGateway : Bool) {c : Orchestrator.Config}
    (reach : Reachable rng (created rng networkx experimentId config hasGateway) c) :
    ∃ last : Nat, c.runner.emitter.lastSeq = last ∧
      ∀ (pool : Pool) (row : ExperimentRow), pool.experiments.get? experimentId = some row →
        ∃ recorded, (finalize pool experimentId c.runner).experiments.get? experimentId =
            some recorded ∧
          (recorded.isComplete = some true ↔
            ∀ seq, seq ∈ (pool.eventsOf experimentId).map Event.seq ↔ seq ≤ last) := by
  have numbered := reachable_numbered reach
  obtain ⟨s, drafts, ended, split⟩ := reachable_split reach
  have started : c.runner.bus.published.length ≠ 0 := by
    intro nothing
    have log : c.runner.log = [] := by
      unfold ExperimentRunner.log
      rw [List.length_eq_zero_iff.mp nothing, List.map_nil]
    rw [split.log] at log
    cases log
  obtain ⟨last, count⟩ := Nat.exists_eq_succ_of_ne_zero started
  have seq : c.runner.emitter.lastSeq = last := by
    rw [numbered.emitter, count]
    change ((last + 1 : Nat) : Int) - 1 = last
    omega
  refine ⟨last, seq, ?_⟩
  intro pool row known
  have mine : row.experimentId = experimentId := Keyed.Table.get?_key known
  refine ⟨finalized pool experimentId c.runner row, ?_, ?_⟩
  · unfold finalize
    rw [Keyed.Table.get?_update, known]
    rfl
  · unfold finalized
    rw [if_pos mine, seq, ← provedComplete_iff, Option.some.injEq]

def stoppedPool (drafts : List EventDraft) : Pool :=
  writeBatch (insertExperimentRow emptyPool 0 stoppedRun.runner) 0 (number 0 0 drafts)

theorem stoppedPool_seqs (drafts : List EventDraft) :
    ((stoppedPool drafts).eventsOf 0).map Event.seq = List.range drafts.length := by
  unfold stoppedPool
  rw [writeBatch_events rfl, number_seqs, List.range_eq_range']

theorem stoppedRun_length : stoppedRun.runner.log.length = watched.run.runner.log.length + 1 := by
  have published : stoppedRun.runner.bus.published = watched.run.runner.bus.published ++ _ :=
    publish_published _ _
  unfold ExperimentRunner.log
  rw [List.length_map, List.length_map, published, List.length_append]
  rfl

theorem completeness_flag_of_stopped_run :
    (∃ recorded, (finalize (stoppedPool watched.run.runner.log) 0
        stoppedRun.runner).experiments.get? 0 = some recorded ∧
      recorded.isComplete ≠ some true) ∧
    ∃ recorded, (finalize (stoppedPool stoppedRun.runner.log) 0
        stoppedRun.runner).experiments.get? 0 = some recorded ∧
      recorded.isComplete = some true := by
  have reach := (reaches_inv (.route emptyPool) stoppedRun_reached).reach
  obtain ⟨last, level, flag⟩ := completeness_flag_is_exact default default 0 smallNetwork false reach
  have count : stoppedRun.runner.log.length = last + 1 := by
    have numbered := reachable_numbered reach
    have length : stoppedRun.runner.log.length = stoppedRun.runner.bus.published.length :=
      List.length_map _
    rw [numbered.emitter] at level
    change ((stoppedRun.runner.bus.published.length : Nat) : Int) - 1 = last at level
    omega
  have short := stoppedRun_length
  obtain ⟨lost, recorded, iff_lost⟩ := flag (stoppedPool watched.run.runner.log) _ rfl
  obtain ⟨kept, recorded', iff_kept⟩ := flag (stoppedPool stoppedRun.runner.log) _ rfl
  rw [stoppedPool_seqs] at iff_lost iff_kept
  refine ⟨⟨lost, recorded, ?_⟩, kept, recorded', iff_kept.mpr ?_⟩
  · intro complete
    have stored := (iff_lost.mp complete last).mpr (Nat.le_refl last)
    have before := List.mem_range.mp stored
    omega
  · intro seq
    rw [List.mem_range, count, Nat.lt_succ_iff]

end AgentShield.Persistence
