import Mathlib.Data.List.Sort
import AgentShield.Lib.Paging
import AgentShield.Orchestrator.Runner

/-!
What `persistence/writer.py` leaves in Postgres and `api/routes_history.py` reads from
it again. Configurations and events are read back as they were written.
-/
namespace AgentShield.ExperimentHistory
open Schema Keyed Events Engine TopologyBuilder Orchestrator Paging

structure ExperimentRow where
  experimentId : Uuid
  config : ExperimentConfig
  finalStatus : Option Status := none
  finalSimTick : Option Nat := none
  finalLastSeq : Option Int := none
  isComplete : Option Bool := none

/- `PRIMARY KEY (experiment_id, seq)`. -/
def eventKey (row : Event) : Uuid × Nat := (row.experimentId, row.seq)

structure Pool where
  experiments : Table ExperimentRow.experimentId
  experimentEvents : Table eventKey

def Pool.eventsOf (pool : Pool) (experimentId : Uuid) : List Event :=
  (pool.experimentEvents.values.filter fun row => row.experimentId = experimentId).insertionSort
    fun a b => a.seq ≤ b.seq

def insertExperimentRow (pool : Pool) (experimentId : Uuid) (runner : ExperimentRunner) : Pool :=
  { pool with experiments := pool.experiments.put { experimentId, config := runner.config } }

/- `ON CONFLICT (experiment_id, seq) DO NOTHING`. -/
def insertEvent (experimentId : Uuid) (rows : Table eventKey) (event : Event) : Table eventKey :=
  let row := { event with experimentId }
  if rows.Has (eventKey row) then rows else rows.put row

def writeBatch (pool : Pool) (experimentId : Uuid) (events : List Event) : Pool :=
  { pool with
    experimentEvents := events.foldl (insertEvent experimentId) pool.experimentEvents }

/- `count(*)`, `min(seq)` and `max(seq)` against `summary.last_seq`. -/
def provedComplete (pool : Pool) (experimentId : Uuid) (lastSeq : Int) : Bool :=
  let seqs := (pool.eventsOf experimentId).map Event.seq
  decide ((seqs.length : Int) = lastSeq + 1 ∧ seqs.min? = some 0 ∧
    seqs.max?.map Int.ofNat = some lastSeq)

def finalized (pool : Pool) (experimentId : Uuid) (runner : ExperimentRunner)
    (row : ExperimentRow) : ExperimentRow :=
  if row.experimentId = experimentId then
    { row with
      finalStatus := some runner.status
      finalSimTick := some runner.state.tick
      finalLastSeq := some runner.emitter.lastSeq
      isComplete := some (provedComplete pool experimentId runner.emitter.lastSeq) }
  else row

theorem finalized_id (pool : Pool) (experimentId : Uuid) (runner : ExperimentRunner)
    (row : ExperimentRow) :
    (finalized pool experimentId runner row).experimentId = row.experimentId := by
  unfold finalized
  split <;> rfl

def finalize (pool : Pool) (experimentId : Uuid) (runner : ExperimentRunner) : Pool :=
  { pool with
    experiments := pool.experiments.update (finalized pool experimentId runner)
      (finalized_id pool experimentId runner) }

structure HTTPException where
  statusCode : Nat
  detail : String
  deriving DecidableEq

def getPool : Option Pool → Except HTTPException Pool
  | none => .error ⟨503, "history unavailable: Postgres not connected"⟩
  | some pool => .ok pool

def requireExperiment (pool : Pool) (experimentId : Uuid) : Except HTTPException ExperimentRow :=
  match pool.experiments.get? experimentId with
  | none => .error ⟨404, "experiment not found"⟩
  | some row => .ok row

def getExperimentDetail (connected : Option Pool) (experimentId : Uuid) :
    Except HTTPException ExperimentRow := do
  let pool ← getPool connected
  requireExperiment pool experimentId

/- `since_seq`, and `limit` with `ge=1, le=MAX_EVENT_LIMIT`; `next_seq` is the page's `next`. -/
def getExperimentEvents (connected : Option Pool) (experimentId : Uuid) (limit : Between 1 2000)
    (sinceSeq : Int) : Except HTTPException (Page Event Int) := do
  let pool ← getPool connected
  let _ ← requireExperiment pool experimentId
  return page (fun row => row.seq) (pool.eventsOf experimentId) limit.val sinceSeq

/- `MAX(seq) ... AND sim_tick = 0`. -/
def lastSeqOfTick0 (pool : Pool) (experimentId : Uuid) : Option Nat :=
  (((pool.eventsOf experimentId).filter fun row => row.simTick = 0).map Event.seq).max?

def getReplaySnapshot (rng : Rng) (networkx : Networkx) (connected : Option Pool)
    (experimentId : Uuid) : Except HTTPException SnapshotFrame := do
  let pool ← getPool connected
  let row ← requireExperiment pool experimentId
  let world := (buildWorld rng networkx row.config).1
  match lastSeqOfTick0 pool experimentId with
  | none => .error ⟨404, "no tick-0 events persisted for this experiment"⟩
  | some lastSeq =>
    return {
      experimentId
      lastSeq
      simTick := 0
      status := row.finalStatus.getD .stopped
      nodes := world.views
      edges := world.edges.map fun edge => ⟨edge.1, edge.2⟩ }

section
variable {pool : Pool} {experimentId : Uuid} {row : ExperimentRow}

theorem getExperimentDetail_recorded (recorded : pool.experiments.get? experimentId = some row) :
    getExperimentDetail (some pool) experimentId = .ok row := by
  change requireExperiment pool experimentId = .ok row
  unfold requireExperiment
  rw [recorded]

theorem getExperimentEvents_recorded (recorded : pool.experiments.get? experimentId = some row)
    (limit : Between 1 2000) (sinceSeq : Int) :
    getExperimentEvents (some pool) experimentId limit sinceSeq =
      .ok (page (fun row => row.seq) (pool.eventsOf experimentId) limit.val sinceSeq) := by
  have known := getExperimentDetail_recorded recorded
  change (getExperimentDetail (some pool) experimentId).bind _ = _
  rw [known]
  rfl

theorem getReplaySnapshot_recorded {rng : Rng} {networkx : Networkx} {lastSeq : Nat}
    (recorded : pool.experiments.get? experimentId = some row)
    (last : lastSeqOfTick0 pool experimentId = some lastSeq) :
    getReplaySnapshot rng networkx (some pool) experimentId = .ok
      { experimentId
        lastSeq
        simTick := 0
        status := row.finalStatus.getD .stopped
        nodes := (buildWorld rng networkx row.config).1.views
        edges := (buildWorld rng networkx row.config).1.edges.map
          fun edge => ⟨edge.1, edge.2⟩ } := by
  have known := getExperimentDetail_recorded recorded
  change (getExperimentDetail (some pool) experimentId).bind _ = _
  rw [known]
  change (match lastSeqOfTick0 pool experimentId with
    | none => _
    | some lastSeq => _) = _
  rw [last]
  rfl

end

/-- The experiment's rows come from the run, and `finalize` found no gap. -/
structure Persisted (pool : Pool) (experimentId : Uuid) (runner : ExperimentRunner) : Prop where
  recorded : ∃ row, pool.experiments.get? experimentId = some row ∧
    row.config = runner.config ∧ row.isComplete = some true
  written : ∀ event ∈ pool.eventsOf experimentId, event ∈ runner.bus.published
  complete : provedComplete pool experimentId runner.emitter.lastSeq = true

theorem mem_eventsOf {pool : Pool} {experimentId : Uuid} {event : Event} :
    event ∈ pool.eventsOf experimentId ↔
      event ∈ pool.experimentEvents.values ∧ event.experimentId = experimentId := by
  unfold Pool.eventsOf
  rw [(List.perm_insertionSort _ _).mem_iff, List.mem_filter, decide_eq_true_eq]

theorem eventsOf_seqs (pool : Pool) (experimentId : Uuid) :
    ((pool.eventsOf experimentId).map Event.seq).Nodup := by
  apply List.Nodup.map_on
  · intro a first b second same
    obtain ⟨present, mine⟩ := mem_eventsOf.mp first
    obtain ⟨present', mine'⟩ := mem_eventsOf.mp second
    apply List.inj_on_of_nodup_map pool.experimentEvents.distinct present present'
    unfold eventKey
    rw [mine, mine', same]
  · apply (List.perm_insertionSort _ _).nodup_iff.mpr
    exact (List.Nodup.of_map _ pool.experimentEvents.distinct).filter _

def BySeq (events : List Event) : Prop := Sorted (fun event : Event => (event.seq : Int)) events

theorem bySeq_of_range {events : List Event}
    (seqs : events.map Event.seq = List.range events.length) : BySeq events := by
  have increasing : (events.map Event.seq).Pairwise (· < ·) := by
    rw [seqs]
    exact List.pairwise_lt_range
  exact (List.pairwise_map.mp increasing).imp Int.ofNat_lt.mpr

theorem eventsOf_bySeq (pool : Pool) (experimentId : Uuid) : BySeq (pool.eventsOf experimentId) := by
  have total : Std.Total fun a b : Event => a.seq ≤ b.seq := ⟨fun a b => Nat.le_total a.seq b.seq⟩
  have trans : IsTrans Event fun a b => a.seq ≤ b.seq := ⟨fun _ _ _ => Nat.le_trans⟩
  have weak : (pool.eventsOf experimentId).Pairwise fun a b => a.seq ≤ b.seq :=
    List.pairwise_insertionSort _ _
  have distinct : (pool.eventsOf experimentId).Pairwise fun a b => a.seq ≠ b.seq :=
    List.pairwise_map.mp (eventsOf_seqs pool experimentId)
  apply (weak.and distinct).imp
  rintro a b ⟨below, differ⟩
  exact Int.ofNat_lt.mpr (Nat.lt_of_le_of_ne below differ)

theorem bySeq_nodup {events : List Event} (sorted : BySeq events) : events.Nodup := by
  apply sorted.imp
  rintro a b less rfl
  exact lt_irrefl _ less

/-- What is persisted completely is what was published. -/
theorem persisted_events {pool : Pool} {experimentId : Uuid} {runner : ExperimentRunner}
    (persisted : Persisted pool experimentId runner)
    (next : runner.emitter.nextSeq = runner.bus.published.length)
    (seqs : runner.bus.published.map Event.seq = List.range runner.bus.published.length) :
    pool.eventsOf experimentId = runner.bus.published := by
  have all : runner.bus.published.length ≤ (pool.eventsOf experimentId).length := by
    have counted := of_decide_eq_true persisted.complete
    rw [List.length_map] at counted
    have last : runner.emitter.lastSeq = (runner.emitter.nextSeq : Int) - 1 := rfl
    rw [last, next] at counted
    have count := counted.1
    omega
  have mine := eventsOf_bySeq pool experimentId
  have stored := List.subperm_of_subset (bySeq_nodup mine) persisted.written
  apply (stored.perm_of_length_le all).eq_of_pairwise _ mine (bySeq_of_range seqs)
  intro a b _ _ below above
  exact absurd (lt_trans below above) (lt_irrefl _)

inductive Drained (before : Pool) (experimentId : Uuid) (runner : ExperimentRunner) :
    List Event → Pool → Prop where
  | start : Drained before experimentId runner [] (insertExperimentRow before experimentId runner)
  | written {handed : List Event} {pool : Pool}
      (sofar : Drained before experimentId runner handed pool) (batch : List Event) :
      Drained before experimentId runner (handed ++ batch) (writeBatch pool experimentId batch)
  | skipped {handed : List Event} {pool : Pool}
      (sofar : Drained before experimentId runner handed pool) (batch : List Event) :
      Drained before experimentId runner (handed ++ batch) pool

theorem insertEvent_member {experimentId : Uuid} {rows : Table eventKey} {event row : Event}
    (member : row ∈ (insertEvent experimentId rows event).values) :
    row = { event with experimentId } ∨ row ∈ rows.values := by
  unfold insertEvent at member
  dsimp only at member
  split at member
  · exact Or.inr member
  · rcases Table.put_member member with new | ⟨old, _⟩
    · exact Or.inl new
    · exact Or.inr old

theorem writeBatch_member {experimentId : Uuid} {batch : List Event} {rows : Table eventKey}
    {row : Event} (member : row ∈ (batch.foldl (insertEvent experimentId) rows).values) :
    row ∈ rows.values ∨ ∃ event ∈ batch, row = { event with experimentId } := by
  induction batch generalizing rows with
  | nil => exact Or.inl member
  | cons event rest ih =>
    rcases ih member with early | ⟨later, there, same⟩
    · rcases insertEvent_member early with new | old
      · exact Or.inr ⟨event, List.mem_cons_self, new⟩
      · exact Or.inl old
    · exact Or.inr ⟨later, List.mem_cons_of_mem event there, same⟩

theorem drained_rows {before : Pool} {experimentId : Uuid} {runner : ExperimentRunner}
    {handed : List Event} {pool : Pool} (unknown : before.eventsOf experimentId = [])
    (drained : Drained before experimentId runner handed pool) :
    pool.experiments.get? experimentId = some { experimentId, config := runner.config } ∧
      ∀ row ∈ pool.eventsOf experimentId, ∃ event ∈ handed, row = { event with experimentId } := by
  induction drained with
  | start =>
    constructor
    · simp [insertExperimentRow]
    · intro row member
      have before_ : row ∈ before.eventsOf experimentId := member
      rw [unknown] at before_
      cases before_
  | written sofar batch ih =>
    refine ⟨ih.1, ?_⟩
    intro row member
    obtain ⟨present, mine⟩ := mem_eventsOf.mp member
    rcases writeBatch_member present with old | ⟨event, there, same⟩
    · obtain ⟨event, there, same⟩ := ih.2 row (mem_eventsOf.mpr ⟨old, mine⟩)
      exact ⟨event, List.mem_append_left batch there, same⟩
    · exact ⟨event, List.mem_append_right _ there, same⟩
  | skipped sofar batch ih =>
    refine ⟨ih.1, ?_⟩
    intro row member
    obtain ⟨event, there, same⟩ := ih.2 row member
    exact ⟨event, List.mem_append_left batch there, same⟩

/-- A run is persisted completely when `finalize` says so. -/
theorem finalize_persists {before pool : Pool} {experimentId : Uuid} {runner : ExperimentRunner}
    (unknown : before.eventsOf experimentId = [])
    (signed : ∀ event ∈ runner.bus.published, event.experimentId = experimentId)
    (drained : Drained before experimentId runner runner.bus.published pool)
    (complete : provedComplete pool experimentId runner.emitter.lastSeq = true) :
    Persisted (finalize pool experimentId runner) experimentId runner := by
  obtain ⟨recorded, rows⟩ := drained_rows unknown drained
  constructor
  · have updated : (finalize pool experimentId runner).experiments.get? experimentId =
        some (finalized pool experimentId runner { experimentId, config := runner.config }) := by
      unfold finalize
      rw [Table.get?_update, recorded]
      rfl
    refine ⟨_, updated, ?_⟩
    unfold finalized
    rw [if_pos rfl]
    exact ⟨rfl, congrArg some complete⟩
  · intro row member
    obtain ⟨event, there, rfl⟩ := rows row member
    have mine := signed event there
    subst mine
    exact there
  · exact complete

theorem writeBatch_events {before : Pool} {experimentId : Uuid}
    (unknown : before.eventsOf experimentId = []) (drafts : List EventDraft) :
    (writeBatch before experimentId (number experimentId 0 drafts)).eventsOf experimentId =
      number experimentId 0 drafts := by
  generalize batch : number experimentId 0 drafts = events
  have signed : ∀ event ∈ events, event.experimentId = experimentId := by
    intro event member
    rw [← batch] at member
    exact number_signed member
  have seqs : events.map Event.seq = List.range events.length := by
    rw [← batch, number_seqs, number_length, List.range_eq_range']
  have others : ∀ row ∈ before.experimentEvents.values, row.experimentId ≠ experimentId := by
    intro row member mine
    have here := mem_eventsOf.mpr ⟨member, mine⟩
    rw [unknown] at here
    cases here
  have distinct : ((before.experimentEvents.values ++ events).map eventKey).Nodup := by
    rw [List.map_append]
    apply List.nodup_append.mpr
    refine ⟨before.experimentEvents.distinct, ?_, ?_⟩
    · apply List.Nodup.of_map Prod.snd
      rw [List.map_map]
      have same : events.map (Prod.snd ∘ eventKey) = events.map Event.seq := rfl
      rw [same, seqs]
      exact List.nodup_range
    · intro key old key' new same
      obtain ⟨row, member, rfl⟩ := List.mem_map.mp old
      obtain ⟨event, inside, rfl⟩ := List.mem_map.mp new
      exact others row member ((congrArg Prod.fst same).trans (signed event inside))
  have inserts : ∀ (rows : Table eventKey), ∀ event ∈ events, ¬ rows.Has (eventKey event) →
      insertEvent experimentId rows event = rows.put event := by
    intro rows event member absent
    have same := signed event member
    subst same
    exact if_neg absent
  have rows := Table.foldl_new_values inserts distinct
  have sorted : events.Pairwise fun a b => a.seq ≤ b.seq :=
    (bySeq_of_range seqs).imp fun less => Int.ofNat_le.mp (le_of_lt less)
  unfold Pool.eventsOf writeBatch
  dsimp only
  rw [rows, List.filter_append, List.filter_eq_nil_iff.mpr, List.nil_append,
    List.filter_eq_self.mpr, sorted.insertionSort_eq]
  · intro event member
    exact decide_eq_true (signed event member)
  · intro row member mine
    exact others row member (of_decide_eq_true mine)

/-- Count, least and greatest tell the whole set: the rows of one experiment differ in their
    numbers. -/
theorem provedComplete_iff (pool : Pool) (experimentId : Uuid) (last : Nat) :
    provedComplete pool experimentId last = true ↔
      ∀ seq, seq ∈ (pool.eventsOf experimentId).map Event.seq ↔ seq ≤ last := by
  have distinct := eventsOf_seqs pool experimentId
  unfold provedComplete
  dsimp only
  rw [decide_eq_true_eq]
  generalize (pool.eventsOf experimentId).map Event.seq = seqs at distinct
  constructor
  · rintro ⟨count, _, greatest⟩
    obtain ⟨most, found, same⟩ := Option.map_eq_some_iff.mp greatest
    have bound := (List.max?_eq_some_iff.mp found).2
    have within : seqs ⊆ List.range (last + 1) := by
      intro seq member
      have below := bound seq member
      have level := Int.ofNat.inj same
      exact List.mem_range.mpr (by omega)
    have full : (List.range (last + 1)).length ≤ seqs.length := by
      rw [List.length_range]
      omega
    have perm := (List.subperm_of_subset distinct within).perm_of_length_le full
    intro seq
    rw [perm.mem_iff, List.mem_range, Nat.lt_succ_iff]
  · intro exactly
    have perm : seqs.Perm (List.range (last + 1)) := by
      apply (List.perm_ext_iff_of_nodup distinct List.nodup_range).mpr
      intro seq
      rw [exactly, List.mem_range, Nat.lt_succ_iff]
    refine ⟨?_, ?_, ?_⟩
    · rw [perm.length_eq, List.length_range]
      omega
    · apply List.min?_eq_some_iff.mpr
      exact ⟨(exactly 0).mpr (Nat.zero_le last), fun _ _ => Nat.zero_le _⟩
    · have greatest : seqs.max? = some last := by
        apply List.max?_eq_some_iff.mpr
        exact ⟨(exactly last).mpr (le_refl last), fun seq member => (exactly seq).mp member⟩
      rw [greatest]
      rfl

theorem provedComplete_of_all {pool : Pool} {experimentId : Uuid} {events : List Event}
    (stored : pool.eventsOf experimentId = events) (inhabited : events ≠ [])
    (seqs : events.map Event.seq = List.range events.length) :
    provedComplete pool experimentId ((events.length : Int) - 1) = true := by
  obtain ⟨last, count⟩ := Nat.exists_eq_succ_of_ne_zero (mt List.length_eq_zero_iff.mp inhabited)
  have level : (events.length : Int) - 1 = last := by omega
  rw [level, provedComplete_iff, stored, seqs, count]
  intro seq
  rw [List.mem_range, Nat.lt_succ_iff]

end AgentShield.ExperimentHistory
