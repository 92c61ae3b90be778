import AgentShield.Api.Listing
import AgentShield.Client.ReplayViewer

/-!
Reading the history page by page: the loop of `loadReplayData` over the event log, and the
list of experiments by its cursors.
-/
namespace AgentShield.Client
open Schema Events Keyed ExperimentHistory Paging

section
variable {connected : Option Pool} {experimentId : Uuid}

def experimentEvents (connected : Option Pool) (experimentId : Uuid) (limit : Nat)
    (sinceSeq : Int) : Except HTTPException (Page Event Int) := do
  let pool ← getPool connected
  let _ ← requireExperiment pool experimentId
  return page (fun row => row.seq) (pool.eventsOf experimentId) limit sinceSeq

theorem getExperimentEvents_limit (limit : Between 1 2000) (sinceSeq : Int) :
    getExperimentEvents connected experimentId limit sinceSeq =
      experimentEvents connected experimentId limit.val sinceSeq := rfl

/- The loop of `loadReplayData`, whatever the limit. -/
def replayPages (connected : Option Pool) (experimentId : Uuid) (limit rounds : Nat)
    (cutoff : Int) : Option (Except String (List Event)) :=
  collect (fun sinceSeq => fetched "fetch events"
    (experimentEvents connected experimentId limit sinceSeq)) rounds cutoff []

theorem fetchReplayEvents_pages (rounds : Nat) (lastSeq : Int) :
    fetchReplayEvents connected experimentId rounds lastSeq =
      replayPages connected experimentId eventPageLimit.val rounds lastSeq := rfl

end

theorem experimentEvents_recorded {pool : Pool} {experimentId : Uuid} {row : ExperimentRow}
    (recorded : pool.experiments.get? experimentId = some row) (limit : Nat) (sinceSeq : Int) :
    experimentEvents (some pool) experimentId limit sinceSeq =
      .ok (page (fun row => (row.seq : Int)) (pool.eventsOf experimentId) limit sinceSeq) := by
  change (getExperimentDetail (some pool) experimentId).bind _ = _
  rw [getExperimentDetail_recorded recorded]
  rfl

theorem replayPages_all {pool : Pool} {experimentId : Uuid} {row : ExperimentRow}
    (recorded : pool.experiments.get? experimentId = some row) {limit : Nat}
    (some_limit : 1 ≤ limit) (cutoff : Int) {rounds : Nat}
    (enough : (pool.eventsOf experimentId).length < rounds * limit) :
    replayPages (some pool) experimentId limit rounds cutoff =
      some (.ok (after (fun row => (row.seq : Int)) (pool.eventsOf experimentId) cutoff)) := by
  have fetches : ∀ sinceSeq, fetched "fetch events"
      (experimentEvents (some pool) experimentId limit sinceSeq) =
        .ok (page (fun row => (row.seq : Int)) (pool.eventsOf experimentId) limit sinceSeq) := by
    intro sinceSeq
    rw [experimentEvents_recorded recorded]
    rfl
  have few : (after (fun row => (row.seq : Int)) (pool.eventsOf experimentId) cutoff).length <
      rounds * limit :=
    Nat.lt_of_le_of_lt (List.length_filter_le _ _) enough
  unfold replayPages
  rw [collect_all (eventsOf_bySeq pool experimentId) some_limit fetches few, List.nil_append]

section
variable {τ : Type} [LinearOrder τ]

def followCursors (iso : Printing τ) (uuid : Printing Uuid) (connected : Option (Experiments τ))
    (filter : ListFilter) (limit rounds : Nat) :
    Option (Except HTTPException (List (ExperimentListItem τ))) :=
  collect (fun cursor => (listExperiments iso uuid connected filter limit cursor).map
    fun page => (⟨page.rows, page.next.map some⟩ : Page (ExperimentListItem τ) (Option String)))
    rounds none []

def StandsBefore (iso : Printing τ) (uuid : Printing Uuid) (experiments : Experiments τ)
    (filter : ListFilter) (cursor : Option String) (items : List (ExperimentListItem τ)) : Prop :=
  ∃ since, cursor = since.map (cursorOf iso uuid) ∧
    items = (resume ListedRow.key (listed experiments filter) since).map rowToListItem

theorem followCursors_all {iso : Printing τ} {uuid : Printing Uuid}
    (plain : ∀ createdAt, '|' ∉ (iso.print createdAt).toList) (experiments : Experiments τ)
    (filter : ListFilter) {limit rounds : Nat} (some_limit : 1 ≤ limit)
    (enough : (listed experiments filter).length < rounds * limit) :
    followCursors iso uuid (some experiments) filter limit rounds =
      some (.ok ((listed experiments filter).map rowToListItem)) := by
  have start : StandsBefore iso uuid experiments filter none
      ((listed experiments filter).map rowToListItem) := ⟨none, rfl, rfl⟩
  have few : ((listed experiments filter).map rowToListItem).length < rounds * limit := by
    rwa [List.length_map]
  unfold followCursors
  rw [collect_before _ start few, List.nil_append]
  rintro cursor items ⟨since, rfl, rfl⟩
  rw [listExperiments_page plain]
  rcases pageAhead_pages (listed_sorted experiments filter) some_limit since with
    last | ⟨next, more, full, onward⟩
  · left
    rw [last]
    rfl
  · right
    refine ⟨some (cursorOf iso uuid next), ?_, ?_, some next, rfl, ?_⟩
    · rw [more, ← List.map_take]
      rfl
    · rwa [List.length_map]
    · rw [← List.map_drop, ← onward]
      rfl

/-- Every stored event after the cutoff and every experiment of a filter is read exactly once,
    however many go on a page. -/
theorem paging_is_complete (iso : Printing τ) (uuid : Printing Uuid)
    (plain : ∀ createdAt, '|' ∉ (iso.print createdAt).toList) :
    (∀ (pool : Pool) (experimentId : Uuid) (row : ExperimentRow),
      pool.experiments.get? experimentId = some row → ∀ (limit : Nat), 1 ≤ limit →
      ∀ cutoff : Int, ∃ events : List Event, BySeq events ∧
        (∀ event, event ∈ events ↔ event ∈ pool.experimentEvents.values ∧
          event.experimentId = experimentId ∧ cutoff < event.seq) ∧
        ∀ rounds, (pool.eventsOf experimentId).length < rounds * limit →
          replayPages (some pool) experimentId limit rounds cutoff = some (.ok events)) ∧
    ∀ (experiments : Experiments τ) (filter : ListFilter) (limit : Nat), 1 ≤ limit →
      ∃ rows : List (ListedRow τ), Sorted ListedRow.key rows ∧
        rows.Perm (experiments.values.filter fun row => filter.admits row.toExperimentRow) ∧
        ∀ rounds, experiments.values.length < rounds * limit →
          followCursors iso uuid (some experiments) filter limit rounds =
            some (.ok (rows.map rowToListItem)) := by
  constructor
  · intro pool experimentId row recorded limit some_limit cutoff
    refine ⟨_, sorted_after (eventsOf_bySeq pool experimentId) cutoff, ?_,
      fun rounds enough => replayPages_all recorded some_limit cutoff enough⟩
    intro event
    unfold after
    rw [List.mem_filter, mem_eventsOf, decide_eq_true_eq, and_assoc]
  · intro experiments filter limit some_limit
    have perm : (listed experiments filter).Perm (experiments.values.filter _) :=
      List.perm_insertionSort _ _
    refine ⟨_, listed_sorted experiments filter, perm, ?_⟩
    intro rounds enough
    have few : (listed experiments filter).length < rounds * limit :=
      Nat.lt_of_le_of_lt (perm.length_eq.trans_le (List.length_filter_le _ _)) enough
    exact followCursors_all plain experiments filter some_limit few

end

def threeListed : Experiments (Fin 10) :=
  { values :=
      [{ experimentId := 1, config := smallNetwork, createdAt := 4 },
        { experimentId := 2, config := smallNetwork, createdAt := 4 },
        { experimentId := 3, config := smallNetwork, finalStatus := some .stopped, createdAt := 2 }]
    distinct := by decide }

def gapped : Pool :=
  { experiments := Table.empty.put { experimentId := 1, config := smallNetwork }
    experimentEvents :=
      { values := [0, 1, 3].map fun seq =>
          { seq, experimentId := 1, simTick := 0, eventType := .experimentStarted }
        distinct := by decide } }

theorem paging_of_few :
    (∃ events : List Event, BySeq events ∧
      (∀ event, event ∈ events ↔ event ∈ gapped.experimentEvents.values ∧
        event.experimentId = 1 ∧ 0 < (event.seq : Int)) ∧
      ∀ rounds, (gapped.eventsOf 1).length < rounds * 1 →
        replayPages (some gapped) 1 1 rounds 0 = some (.ok events)) ∧
    ∃ rows : List (ListedRow (Fin 10)), Sorted ListedRow.key rows ∧
      rows.Perm (threeListed.values.filter fun row =>
        ListFilter.admits { status := some .incomplete } row.toExperimentRow) ∧
      ∀ rounds, threeListed.values.length < rounds * 1 →
        followCursors withinMinute canonical (some threeListed) { status := some .incomplete } 1
          rounds = some (.ok (rows.map rowToListItem)) := by
  have plain : ∀ second, '|' ∉ (withinMinute.print second).toList := by decide +kernel
  obtain ⟨events, listing⟩ := paging_is_complete withinMinute canonical plain
  exact ⟨events gapped 1 _ rfl 1 (le_refl 1) 0,
    listing threeListed { status := some .incomplete } 1 (le_refl 1)⟩

end AgentShield.Client
