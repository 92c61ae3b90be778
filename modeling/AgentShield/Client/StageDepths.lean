import Mathlib.Order.Bounds.Defs
import AgentShield.Lib.Relaxation
import AgentShield.Client.Stage

/-!
The columns of the stage (`depths`): each worker's longest chain of handoffs, where a
replacement takes the place of the worker it replaced.
-/
namespace AgentShield.Client
open Schema Keyed Routes Relaxation Relation

/-- The link that counts: to the worker replaced, or without one to the upstream workers. -/
def Parent (workers : List WorkerView) (w p : WorkerView) : Prop :=
  p ∈ workers ∧ (w.replaces = some p.id ∨ w.replaces = none ∧ p.id ∈ w.upstream)

instance (workers : List WorkerView) (w p : WorkerView) : Decidable (Parent workers w p) :=
  inferInstanceAs (Decidable (_ ∧ _))

/-- `n` handoffs in a row end at `w`. -/
inductive Chain (workers : List WorkerView) : WorkerView → Nat → Prop where
  | start (w : WorkerView) : Chain workers w 0
  | handoff {w p : WorkerView} {n : Nat} (here : p ∈ workers) (replaces : w.replaces = none)
      (declared : p.id ∈ w.upstream) (chain : Chain workers p n) : Chain workers w (n + 1)
  | replacement {w p : WorkerView} {n : Nat} (here : p ∈ workers)
      (replaces : w.replaces = some p.id) (chain : Chain workers p n) : Chain workers w n

def nextDepth (workers : List WorkerView) (depth : Table Depth.id) (worker : WorkerView) : Nat :=
  (match worker.replaces with
    | some replaced => [replaced]
    | none => worker.upstream).foldl
    (fun next parentId =>
      if parentId ∉ workers.map WorkerView.id then next
      else if worker.replaces = some parentId then max next (depthOf depth parentId)
      else max next (depthOf depth parentId + 1))
    0

theorem nextDepth_replacement {workers : List WorkerView} {depth : Table Depth.id}
    {w p : WorkerView} (here : p ∈ workers) (replaces : w.replaces = some p.id) :
    nextDepth workers depth w = depthOf depth p.id := by
  unfold nextDepth
  rw [replaces]
  dsimp only
  rw [List.foldl_cons, List.foldl_nil, if_neg (not_not.mpr (List.mem_map_of_mem here)), if_pos rfl,
    Nat.zero_max]

theorem nextDepth_dangling {workers : List WorkerView} {depth : Table Depth.id} {w : WorkerView}
    {replaced : String} (replaces : w.replaces = some replaced)
    (absent : replaced ∉ workers.map WorkerView.id) : nextDepth workers depth w = 0 := by
  unfold nextDepth
  rw [replaces]
  dsimp only
  rw [List.foldl_cons, List.foldl_nil, if_pos absent]

theorem nextDepth_le_iff {workers : List WorkerView} {depth : Table Depth.id} {w : WorkerView}
    (replaces : w.replaces = none) (bound : Nat) : nextDepth workers depth w ≤ bound ↔
      ∀ p ∈ workers, p.id ∈ w.upstream → depthOf depth p.id + 1 ≤ bound := by
  have whole : ∀ (parents : List String) (start : Nat), parents.foldl
      (fun next parentId =>
        if parentId ∉ workers.map WorkerView.id then next
        else if w.replaces = some parentId then max next (depthOf depth parentId)
        else max next (depthOf depth parentId + 1)) start ≤ bound ↔
      start ≤ bound ∧ ∀ parentId ∈ parents, parentId ∈ workers.map WorkerView.id →
        depthOf depth parentId + 1 ≤ bound := by
    intro parents
    induction parents with
    | nil => simp
    | cons parentId rest ih =>
      intro start
      have alone : w.replaces ≠ some parentId := by
        rw [replaces]
        exact nofun
      rw [List.foldl_cons, ih, List.forall_mem_cons]
      by_cases registered : parentId ∈ workers.map WorkerView.id
      · rw [if_neg (not_not.mpr registered), if_neg alone, Nat.max_le, and_assoc]
        simp only [registered, true_imp_iff]
      · rw [if_pos registered]
        simp only [registered, false_imp_iff, true_and]
  unfold nextDepth
  rw [replaces] at whole ⊢
  dsimp only
  rw [whole]
  simp only [Nat.zero_le, true_and]
  constructor
  · intro every p here declared
    exact every p.id declared (List.mem_map_of_mem here)
  · intro every parentId declared registered
    obtain ⟨p, here, rfl⟩ := List.mem_map.mp registered
    exact every p here declared

theorem nextDepth_reads {workers : List WorkerView} {depth depth' : Table Depth.id}
    {w : WorkerView} (same : ∀ p, Parent workers w p → depthOf depth p.id = depthOf depth' p.id) :
    nextDepth workers depth w = nextDepth workers depth' w := by
  unfold nextDepth
  apply List.foldl_ext
  intro next parentId asked
  by_cases registered : parentId ∈ workers.map WorkerView.id
  · obtain ⟨p, here, rfl⟩ := List.mem_map.mp registered
    have agree : depthOf depth p.id = depthOf depth' p.id := by
      apply same p ⟨here, _⟩
      rcases replaces : w.replaces with _ | replaced
      · rw [replaces] at asked
        exact Or.inr ⟨rfl, asked⟩
      · rw [replaces] at asked
        rw [List.mem_singleton.mp asked]
        exact Or.inl rfl
    rw [agree]
  · rw [if_pos registered, if_pos registered]

def depthIn (depth : Table Depth.id) (id : String) : Option Nat := (depth.get? id).map Depth.depth

def relaxation (workers : List WorkerView) :
    System WorkerView String Nat (Table Depth.id) where
  name := WorkerView.id
  get := depthIn
  put depth id value := depth.put ⟨id, value⟩
  next := nextDepth workers
  Parent := Parent workers
  get_put depth id value id' := by
    unfold depthIn
    rw [Table.get?_put]
    split
    · rfl
    · rfl
  reads depth depth' w same := by
    apply nextDepth_reads
    intro p parent
    exact congrArg (fun value => value.getD 0) (same p parent)

theorem deepen_relaxes (workers : List WorkerView) : deepen workers = (relaxation workers).relax :=
  rfl

theorem deepenAll_relaxes (workers : List WorkerView) (passes : Nat) (depth : Table Depth.id) :
    deepenAll workers passes depth = (relaxation workers).relaxAll workers passes depth := by
  induction passes generalizing depth with
  | zero => rfl
  | succ passes ih =>
    rw [deepenAll, System.relaxAll, deepen_relaxes, ← ih]

theorem depth_settled {workers : List WorkerView} {depth : Table Depth.id} {w : WorkerView}
    (settled : (relaxation workers).Settled depth w) :
    depthOf depth w.id = nextDepth workers depth w :=
  congrArg (fun value => value.getD 0) settled

variable {workers : List WorkerView} {depth : Table Depth.id}

theorem chain_le (settled : ∀ w ∈ workers, depthOf depth w.id = nextDepth workers depth w)
    {w : WorkerView} {n : Nat} (chain : Chain workers w n) (here : w ∈ workers) :
    n ≤ depthOf depth w.id := by
  induction chain with
  | start w => exact Nat.zero_le _
  | @handoff w p n there replaces declared chain ih =>
    rw [settled w here]
    exact (Nat.succ_le_succ (ih there)).trans
      ((nextDepth_le_iff replaces _).mp (Nat.le_refl _) p there declared)
  | @replacement w p n there replaces chain ih =>
    rw [settled w here, nextDepth_replacement there replaces]
    exact ih there

theorem furthest_upstream {w : WorkerView} (replaces : w.replaces = none) :
    nextDepth workers depth w = 0 ∨
      ∃ p ∈ workers, p.id ∈ w.upstream ∧ nextDepth workers depth w = depthOf depth p.id + 1 := by
  have least : ∀ bound, nextDepth workers depth w ≤ bound ↔ _ := nextDepth_le_iff replaces
  by_contra! neither
  obtain ⟨positive, nobody⟩ := neither
  have closer : nextDepth workers depth w ≤ nextDepth workers depth w - 1 := by
    apply (least _).mpr
    intro p here declared
    have bound := (least _).mp (Nat.le_refl _) p here declared
    have differ := nobody p here declared
    omega
  omega

theorem chain_reached (settled : ∀ w ∈ workers, depthOf depth w.id = nextDepth workers depth w)
    (acyclic : ∀ w ∈ workers, ¬ TransGen (Parent workers) w w) {w : WorkerView}
    (here : w ∈ workers) : Chain workers w (depthOf depth w.id) := by
  induction high : System.ancestors (Parent workers) workers w using Nat.strong_induction_on
    generalizing w with
  | _ high_ ih =>
    subst high
    rw [settled w here]
    have closer : ∀ p, Parent workers w p → Chain workers p (depthOf depth p.id) :=
      fun p parent => ih _ (System.ancestors_fall acyclic parent parent.1) parent.1 rfl
    rcases replaces : w.replaces with _ | replaced
    · rcases furthest_upstream replaces with none | ⟨p, there, declared, next⟩
      · rw [none]
        exact .start w
      · rw [next]
        exact .handoff there replaces declared (closer p ⟨there, Or.inr ⟨replaces, declared⟩⟩)
    · by_cases registered : replaced ∈ workers.map WorkerView.id
      · obtain ⟨p, there, rfl⟩ := List.mem_map.mp registered
        rw [nextDepth_replacement there replaces]
        exact .replacement there replaces (closer p ⟨there, Or.inl replaces⟩)
      · rw [nextDepth_dangling replaces registered]
        exact .start w

/-- Without a cycle of links the passes end in time, and a worker's column is the length of its
    longest chain. -/
theorem stage_columns_are_longest_chains (distinct : (workers.map WorkerView.id).Nodup)
    (acyclic : ∀ w ∈ workers, ¬ TransGen (Parent workers) w w) :
    (∀ passes, workers.length ≤ passes →
      deepenAll workers passes Table.empty = depths workers) ∧
    workers.foldl (deepen workers) (depths workers, false) = (depths workers, false) ∧
    ∀ w ∈ workers,
      IsGreatest {n | Chain workers w n} (depthOf (depths workers) w.id) ∧
      (∀ p ∈ workers, w.replaces = some p.id →
        depthOf (depths workers) w.id = depthOf (depths workers) p.id) ∧
      (w.replaces = none →
        (∀ p ∈ workers, p.id ∈ w.upstream →
          depthOf (depths workers) p.id < depthOf (depths workers) w.id) ∧
        (depthOf (depths workers) w.id = 0 ∨ ∃ p ∈ workers, p.id ∈ w.upstream ∧
          depthOf (depths workers) w.id = depthOf (depths workers) p.id + 1)) := by
  have ends : ∀ passes, workers.length ≤ passes → ∀ w ∈ workers,
      (relaxation workers).Settled (deepenAll workers passes Table.empty) w := by
    intro passes enough
    have inside : ∀ w ∈ workers, ∀ p, (relaxation workers).Parent w p → p ∈ workers :=
      fun _ _ _ parent => parent.1
    rw [deepenAll_relaxes]
    exact System.relaxAll_settles distinct inside acyclic Table.empty enough
  have last := ends (workers.length + 1) (Nat.le_succ _)
  have settled : ∀ w ∈ workers,
      depthOf (depths workers) w.id = nextDepth workers (depths workers) w :=
    fun w here => depth_settled (last w here)
  refine ⟨?_, ?_, ?_⟩
  · intro passes enough
    have same : ∀ more, deepenAll workers (workers.length + more) Table.empty =
        deepenAll workers workers.length Table.empty := by
      intro more
      rw [deepenAll_relaxes, deepenAll_relaxes, System.relaxAll_add]
      apply System.relaxAll_settled
      rw [← deepenAll_relaxes]
      exact ends workers.length (Nat.le_refl _)
    obtain ⟨more, rfl⟩ := Nat.exists_eq_add_of_le enough
    rw [same, depths, same]
  · rw [deepen_relaxes]
    exact System.pass_settled last
  · intro w here
    refine ⟨⟨chain_reached settled acyclic here, ?_⟩, ?_, ?_⟩
    · intro n chain
      exact chain_le settled chain here
    · intro p there replaces
      rw [settled w here, nextDepth_replacement there replaces]
    · intro replaces
      rw [settled w here]
      constructor
      · intro p there declared
        exact (nextDepth_le_iff replaces _).mp (Nat.le_refl _) p there declared
      · exact furthest_upstream replaces

def shownWorker (id : String) (upstream : List String) (replaces : Option String) : WorkerView :=
  workerView { id, role := "Developer", upstream, replaces }

def handedOver : List WorkerView :=
  [shownWorker "second" ["analyst"] (some "first"), shownWorker "first" ["analyst"] none,
    shownWorker "analyst" [] none]

theorem second_stands_beside_first :
    depthOf (depths handedOver) "second" = depthOf (depths handedOver) "first" := by
  have acyclic : ∀ w ∈ handedOver, ¬ TransGen (Parent handedOver) w w :=
    acyclic_of_rank (fun w => if w.id = "second" then 2 else if w.id = "first" then 1 else 0)
      (fun _ _ parent => parent.1) (by decide)
  obtain ⟨_, _, columns⟩ := stage_columns_are_longest_chains (by decide) acyclic
  obtain ⟨_, beside, _⟩ := columns (shownWorker "second" ["analyst"] (some "first"))
    (by decide)
  exact beside (shownWorker "first" ["analyst"] none) (by decide) rfl

end AgentShield.Client
