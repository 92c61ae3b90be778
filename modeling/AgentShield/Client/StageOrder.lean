import Mathlib.Data.List.Induction
import Mathlib.Logic.Relation
import AgentShield.Lib.Comparator
import AgentShield.Client.StageDepths

/-!
The order inside a column of the stage: a comparator that puts a replacement below the worker it
replaced, and otherwise keeps the order of the report.
-/
namespace AgentShield.Client
open Schema Keyed Coop Session Routes Comparator Relation Relaxation

def reported (nodes : List StageNode) (node : StageNode) : Nat :=
  (nodes.map StageNode.id).idxOf node.id

def stageColumns (engine : EngineSort StageNode) (nodes : List StageNode) : List StageColumn :=
  let grouped := nodes.foldl group Table.empty
  (grouped.values.insertionSort fun a b => a.column ≤ b.column).map fun bucket =>
    { bucket with
      nodes := engine.sort (compareNodes fun node => reported nodes node) bucket.nodes }

theorem buildStage_columns (engine : EngineSort StageNode) (summary : RuntimeSessionSummary)
    (stream : GraphState) : (buildStage engine (some summary) stream).columns =
      stageColumns engine (summary.workers.map (stageNode
        (if stream.experimentId = some summary.sessionId then some stream.nodes else none)
        (depths summary.workers))) := by
  unfold buildStage
  dsimp only
  split
  · rename_i empty
    rw [List.isEmpty_iff.mp empty]
    rfl
  · rfl

theorem bucket_column {nodes : List StageNode} {bucket : StageColumn}
    (present : bucket ∈ (nodes.foldl group Table.empty).values) :
    ∀ node ∈ bucket.nodes, node.column = bucket.column := by
  induction nodes using List.reverseRecOn generalizing bucket with
  | nil => cases present
  | append_singleton nodes last ih =>
    rw [List.foldl_append, List.foldl_cons, List.foldl_nil, group] at present
    rcases Table.put_member present with rfl | ⟨old, _⟩
    · intro node member
      rcases List.mem_append.mp member with before | new
      · cases found : (nodes.foldl group Table.empty).get? last.column with
        | none =>
          rw [found] at before
          cases before
        | some existing =>
          rw [found] at before
          exact (ih (Table.get?_member found) node before).trans (Table.get?_key found)
      · rw [List.mem_singleton.mp new]
    · exact ih old

theorem mem_bucket {nodes : List StageNode} {bucket : StageColumn}
    (present : bucket ∈ (nodes.foldl group Table.empty).values) {node : StageNode} :
    node ∈ bucket.nodes ↔ node ∈ nodes ∧ node.column = bucket.column := by
  constructor
  · intro member
    exact ⟨(groups_bucketed nodes node).mp ⟨bucket, present, member⟩,
      bucket_column present node member⟩
  · rintro ⟨member, column⟩
    obtain ⟨other, there, inside⟩ := (groups_bucketed nodes node).mpr member
    have same : other = bucket := by
      apply List.inj_on_of_nodup_map (nodes.foldl group Table.empty).distinct there present
      exact (bucket_column there node inside).symm.trans column
    rwa [← same]

section
variable {engine : EngineSort StageNode}

theorem mem_stageColumns {nodes : List StageNode} {column : StageColumn} :
    column ∈ stageColumns engine nodes ↔ ∃ bucket ∈ (nodes.foldl group Table.empty).values,
      column = { bucket with
        nodes := engine.sort (compareNodes fun node => reported nodes node) bucket.nodes } := by
  unfold stageColumns
  dsimp only
  rw [List.mem_map]
  simp only [List.mem_insertionSort, eq_comm]

theorem mem_column {nodes : List StageNode} {column : StageColumn}
    (present : column ∈ stageColumns engine nodes) {node : StageNode} :
    node ∈ column.nodes ↔ node ∈ nodes ∧ node.column = column.column := by
  obtain ⟨bucket, here, rfl⟩ := mem_stageColumns.mp present
  exact engine.mem.trans (mem_bucket here)

end

section Comparing
variable {order : StageNode → Nat} {among : List StageNode}

def Took (a b : StageNode) : Prop := a.replaces = some b.id

instance (a b : StageNode) : Decidable (Took a b) :=
  inferInstanceAs (Decidable (a.replaces = some b.id))

theorem compare_took {a b : StageNode} (took : Took a b) : compareNodes order a b = 1 := if_pos took

theorem compare_taken {a b : StageNode} (alone : ¬ Took a b) (took : Took b a) :
    compareNodes order a b = -1 :=
  (if_neg alone).trans (if_pos took)

theorem compare_order {a b : StageNode} (alone : ¬ Took a b) (alone' : ¬ Took b a) :
    compareNodes order a b = order a - order b :=
  (if_neg alone).trans (if_neg alone')

theorem compare_neg_iff {a b : StageNode} (once : Took b a → ¬ Took a b) :
    compareNodes order a b < 0 ↔ Took b a ∨ ¬ Took a b ∧ order a < order b := by
  by_cases took : Took a b
  · have alone : ¬ Took b a := fun back => once back took
    rw [compare_took took]
    simp [took, alone]
  · by_cases taken : Took b a
    · rw [compare_taken took taken]
      simp [taken]
    · rw [compare_order took taken]
      simp only [taken, took, false_or, not_false_eq_true, true_and]
      omega

structure Reported (order : StageNode → Nat) (among : List StageNode) : Prop where
  ids : ∀ a ∈ among, ∀ b ∈ among, a.id = b.id → a = b
  orders : ∀ a ∈ among, ∀ b ∈ among, order a = order b → a = b
  once : ∀ a ∈ among, ∀ b ∈ among, Took b a → ¬ Took a b

/- A replacement reported before the worker it replaced: between the two stand only other
   replacements of that worker, which itself replaced nobody reported later. -/
def Tolerated (order : StageNode → Nat) (among : List StageNode) : Prop :=
  ∀ replacement ∈ among, ∀ replaced ∈ among, Took replacement replaced →
    order replacement < order replaced →
      (∀ x ∈ among, order replacement < order x → order x < order replaced → Took x replaced) ∧
      ∀ first ∈ among, Took replaced first → order first < order replaced

variable {a b c : StageNode}

theorem before_iff (well : Reported order among) (ha : a ∈ among) (hb : b ∈ among) :
    compareNodes order a b < 0 ↔ Took b a ∨ ¬ Took a b ∧ order a < order b :=
  compare_neg_iff (well.once a ha b hb)

theorem took_one (well : Reported order among) (hb : b ∈ among) (hc : c ∈ among)
    (first : Took a b) (second : Took a c) : b = c :=
  well.ids b hb c hc (Option.some.inj (first.symm.trans second))

theorem compare_zero (well : Reported order among) (ha : a ∈ among) (hb : b ∈ among) :
    compareNodes order a b = 0 ↔ a = b := by
  constructor
  · intro level
    by_cases took : Took a b
    · rw [compare_took took] at level
      cases level
    · by_cases taken : Took b a
      · rw [compare_taken took taken] at level
        cases level
      · rw [compare_order took taken] at level
        exact well.orders a ha b hb (by omega)
  · rintro rfl
    have alone : ¬ Took a a := fun took => well.once a ha a ha took took
    rw [compare_order alone alone]
    omega

theorem compare_opposite (well : Reported order among) (ha : a ∈ among) (hb : b ∈ among) :
    compareNodes order a b < 0 ↔ 0 < compareNodes order b a := by
  by_cases took : Took a b
  · have alone : ¬ Took b a := fun back => well.once a ha b hb back took
    rw [compare_took took, compare_taken alone took]
    decide
  · by_cases taken : Took b a
    · rw [compare_took taken, compare_taken took taken]
      decide
    · rw [compare_order took taken, compare_order taken took]
      omega

theorem no_cycle_from_first (well : Reported order among) (tolerated : Tolerated order among)
    (ha : a ∈ among) (hb : b ∈ among) (hc : c ∈ among) (first : order a < order b)
    (second : order a < order c) (bc : compareNodes order b c < 0)
    (ca : compareNodes order c a < 0) : False := by
  rw [before_iff well hb hc] at bc
  rw [before_iff well hc ha] at ca
  -- a was reported before c and yet comes after it
  have took : Took a c := by
    rcases ca with took | ⟨_, behind⟩
    · exact took
    · omega
  obtain ⟨between, above⟩ := tolerated a ha c hc took second
  by_cases middle : order b < order c
  · have alone := between b hb first middle
    rcases bc with taken | ⟨free, _⟩
    · exact well.once b hb c hc taken alone
    · exact free alone
  · rcases bc with taken | ⟨_, behind⟩
    · exact middle (above b hb taken)
    · exact middle behind

theorem no_cycle (well : Reported order among) (tolerated : Tolerated order among)
    (ha : a ∈ among) (hb : b ∈ among) (hc : c ∈ among) (ab : compareNodes order a b < 0)
    (bc : compareNodes order b c < 0) (ca : compareNodes order c a < 0) : False := by
  have apart : ∀ {x y}, x ∈ among → y ∈ among → compareNodes order x y < 0 →
      order x ≠ order y := by
    intro x y hx hy below same
    rw [(compare_zero well hx hy).mpr (well.orders x hx y hy same)] at below
    exact lt_irrefl 0 below
  have one := apart ha hb ab
  have two := apart hb hc bc
  have three := apart hc ha ca
  by_cases low : order a < order b
  · by_cases least : order a < order c
    · exact no_cycle_from_first well tolerated ha hb hc low least bc ca
    · exact no_cycle_from_first well tolerated hc ha hb (by omega) (by omega) ab bc
  · by_cases least : order b < order c
    · exact no_cycle_from_first well tolerated hb hc ha least (by omega) ca ab
    · exact no_cycle_from_first well tolerated hc ha hb (by omega) (by omega) ab bc

/-- The comparator is a strict weak order exactly on what is tolerated. -/
theorem consistent_iff_tolerated (well : Reported order among) :
    Consistent (compareNodes order) among ↔ Tolerated order among := by
  constructor
  · intro consistent replacement hr replaced hw took earlier
    have above : compareNodes order replaced replacement < 0 :=
      (before_iff well hw hr).mpr (Or.inl took)
    have never : ∀ x ∈ among, ¬ (compareNodes order replacement x < 0 ∧
        compareNodes order x replaced < 0) := by
      intro x hx through
      have below := consistent.transitive _ hr x hx _ hw through.1 through.2
      rw [compare_took took] at below
      cases below
    constructor
    · intro x hx after before
      by_contra free
      apply never x hx
      constructor
      · apply (before_iff well hr hx).mpr
        by_cases taken : Took x replacement
        · exact Or.inl taken
        · right
          refine ⟨fun other => ?_, after⟩
          rw [took_one well hx hw other took] at before
          exact lt_irrefl _ before
      · apply (before_iff well hx hw).mpr
        exact Or.inr ⟨free, before⟩
    · intro first hf chained
      by_contra! later
      have lower : compareNodes order first replaced < 0 :=
        (before_iff well hf hw).mpr (Or.inl chained)
      have through := consistent.transitive first hf replaced hw replacement hr lower above
      rcases (before_iff well hf hr).mp through with other | ⟨_, behind⟩
      · rw [took_one well hf hw other took] at chained
        exact well.once replaced hw replaced hw chained chained
      · omega
  · intro tolerated
    refine ⟨?_, ?_, ?_, ?_⟩
    · intro a ha
      exact (compare_zero well ha ha).mpr rfl
    · intro a ha b hb
      exact compare_opposite well ha hb
    · intro a ha b hb c hc ab bc
      by_contra! behind
      rcases behind.lt_or_eq with above | level
      · exact no_cycle well tolerated ha hb hc ab bc ((compare_opposite well hc ha).mpr above)
      · have same := (compare_zero well ha hc).mp level.symm
        subst same
        have back := (compare_opposite well ha hb).mp ab
        omega
    · intro a ha b hb c hc level level'
      rw [compare_zero well ha hb] at level
      rw [compare_zero well hb hc] at level'
      rw [compare_zero well ha hc, level, level']

end Comparing

/-- Every column is sorted by a strict weak order, and each replacement in it is drawn below the
    worker it replaced. -/
def DrawnBelow (engine : EngineSort StageNode) (nodes : List StageNode) : Prop :=
  ∀ column ∈ stageColumns engine nodes,
    Consistent (compareNodes fun node => reported nodes node) column.nodes ∧
      ∀ replacement ∈ column.nodes, ∀ replaced ∈ column.nodes, Took replacement replaced →
        [replaced, replacement].Sublist column.nodes

def TookAmong (nodes : List StageNode) (a b : StageNode) : Prop := b ∈ nodes ∧ Took a b

instance (nodes : List StageNode) (a b : StageNode) : Decidable (TookAmong nodes a b) :=
  inferInstanceAs (Decidable (_ ∧ _))

def Acyclic (nodes : List StageNode) : Prop :=
  ∀ node ∈ nodes, ¬ TransGen (TookAmong nodes) node node

theorem reported_well {nodes among : List StageNode}
    (distinct : (nodes.map StageNode.id).Nodup) (acyclic : Acyclic nodes)
    (inside : ∀ node ∈ among, node ∈ nodes) :
    Reported (fun node => reported nodes node) among := by
  have ids : ∀ a ∈ nodes, ∀ b ∈ nodes, a.id = b.id → a = b :=
    fun a ha b hb same => List.inj_on_of_nodup_map distinct ha hb same
  refine ⟨?_, ?_, ?_⟩
  · intro a ha b hb
    exact ids a (inside a ha) b (inside b hb)
  · intro a ha b hb same
    apply ids a (inside a ha) b (inside b hb)
    exact (List.idxOf_inj (List.mem_map_of_mem (inside a ha))).mp same
  · intro a ha b hb taken took
    apply acyclic a (inside a ha)
    exact .head ⟨inside b hb, took⟩ (.single ⟨inside a ha, taken⟩)

section
variable {engine : EngineSort StageNode} {nodes : List StageNode}

theorem mem_together {column : StageColumn} (present : column ∈ stageColumns engine nodes)
    (node : StageNode) :
    node ∈ column.nodes ↔ node ∈ nodes.filter fun node => node.column = column.column := by
  rw [mem_column present, List.mem_filter, decide_eq_true_eq]

theorem drawn_consistent (drawn : DrawnBelow engine nodes) {node : StageNode}
    (here : node ∈ nodes) : Consistent (compareNodes fun node => reported nodes node)
      (nodes.filter fun other => other.column = node.column) := by
  obtain ⟨bucket, present, inside⟩ := (groups_bucketed nodes node).mpr here
  have listed := (@mem_stageColumns engine nodes _).mpr ⟨bucket, present, rfl⟩
  have consistent := (drawn _ listed).1.mono fun node there => (mem_together listed node).mpr there
  rw [bucket_column present node inside]
  exact consistent

end

/-- Replacements are drawn below exactly where each column's report is tolerated, whatever
    engine sorts. -/
theorem drawn_below_iff (engine : EngineSort StageNode) {nodes : List StageNode}
    (distinct : (nodes.map StageNode.id).Nodup) (acyclic : Acyclic nodes) :
    DrawnBelow engine nodes ↔
      ∀ column, Tolerated (fun node => reported nodes node)
        (nodes.filter fun node => node.column = column) := by
  have well : ∀ column, Reported (fun node => reported nodes node)
      (nodes.filter fun node => node.column = column) :=
    fun column => reported_well distinct acyclic fun node member => (List.mem_filter.mp member).1
  constructor
  · intro drawn number replacement member
    obtain ⟨here, rfl⟩ := (List.mem_filter.mp member).imp_right of_decide_eq_true
    have consistent := drawn_consistent drawn here
    exact (consistent_iff_tolerated (well _)).mp consistent replacement member
  · intro tolerated column present
    have consistent := (consistent_iff_tolerated (well column.column)).mpr (tolerated column.column)
    refine ⟨consistent.mono fun node there => (mem_together present node).mp there, ?_⟩
    intro replacement hr replaced hw took
    have above : compareNodes (fun node => reported nodes node) replaced replacement < 0 := by
      rw [mem_together present] at hr hw
      exact (before_iff (well column.column) hw hr).mpr (Or.inl took)
    obtain ⟨bucket, there, rfl⟩ := mem_stageColumns.mp present
    have sorted : Consistent (compareNodes fun node => reported nodes node) bucket.nodes :=
      consistent.mono fun node member => (mem_together present node).mp (engine.mem.mpr member)
    exact engine.precedes sorted (engine.mem.mp hw) (engine.mem.mp hr) above

def stageNodes (session : LiveRuntimeSession) : List StageNode :=
  (summaryOf session).workers.map (stageNode none (depths (summaryOf session).workers))

def team : List Request :=
  [.registerWorker { id := "second", role := "Developer" },
    .registerWorker { id := "other", role := "Developer" },
    .registerWorker { id := "first", role := "Developer" }]

def handedBack (replaced : String) : LiveRuntimeSession :=
  serial (handle (fun _ => none) []) (LiveRuntimeSession.new 0 "objective")
    (team ++ [.reassign replaced { id := "second", role := "Developer" } "task" []])

theorem next_one_drawn_below : DrawnBelow .insertion (stageNodes (handedBack "other")) := by
  have acyclic : Acyclic (stageNodes (handedBack "other")) :=
    acyclic_of_rank (fun node => if node.id = "second" then 1 else 0) (fun _ _ took => took.1)
      (by decide)
  have tolerated : ∀ replacement ∈ stageNodes (handedBack "other"),
      ∀ replaced ∈ stageNodes (handedBack "other"), Took replacement replaced →
        (∀ x ∈ stageNodes (handedBack "other"),
          reported (stageNodes (handedBack "other")) replacement <
            reported (stageNodes (handedBack "other")) x →
          ¬ reported (stageNodes (handedBack "other")) x <
            reported (stageNodes (handedBack "other")) replaced) ∧ replaced.replaces = none := by
    decide
  apply (drawn_below_iff .insertion (by decide) acyclic).mpr
  intro column replacement hr replaced hw took _
  obtain ⟨nobody, original⟩ := tolerated replacement (List.mem_filter.mp hr).1 replaced
    (List.mem_filter.mp hw).1 took
  constructor
  · intro x hx after before
    exact absurd before (nobody x (List.mem_filter.mp hx).1 after)
  · intro first _ chained
    rw [Took, original] at chained
    cases chained

/-- With a third worker between them the three comparisons form a cycle for every engine, and
    the replacement is drawn on top. -/
theorem replacement_on_top :
    ((stageNodes (handedBack "first")).map StageNode.id).Nodup ∧
      Acyclic (stageNodes (handedBack "first")) ∧
      (∀ engine, ¬ DrawnBelow engine (stageNodes (handedBack "first"))) ∧
      (buildStage .insertion (some (summaryOf (handedBack "first"))) initialGraphState).columns.map
        (fun column => column.nodes.map StageNode.id) = [["second", "other", "first"]] := by
  have acyclic : Acyclic (stageNodes (handedBack "first")) :=
    acyclic_of_rank (fun node => if node.id = "second" then 1 else 0) (fun _ _ took => took.1)
      (by decide)
  refine ⟨by decide, acyclic, ?_, by decide⟩
  intro engine drawn
  have cycle : ∃ second ∈ stageNodes (handedBack "first"),
      ∃ other ∈ stageNodes (handedBack "first"), ∃ first ∈ stageNodes (handedBack "first"),
        other.column = second.column ∧ first.column = second.column ∧
        compareNodes (fun node => reported (stageNodes (handedBack "first")) node)
          first second < 0 ∧
        compareNodes (fun node => reported (stageNodes (handedBack "first")) node)
          second other < 0 ∧
        0 ≤ compareNodes (fun node => reported (stageNodes (handedBack "first")) node)
          first other := by
    decide
  obtain ⟨second, hs, other, ho, first, hf, beside, beside', above, next, below⟩ := cycle
  have there : ∀ node ∈ stageNodes (handedBack "first"), node.column = second.column →
      node ∈ (stageNodes (handedBack "first")).filter fun node => node.column = second.column :=
    fun node member same => List.mem_filter.mpr ⟨member, decide_eq_true same⟩
  have through := (drawn_consistent drawn hs).transitive first (there first hf beside') second
    (there second hs rfl) other (there other ho beside) above next
  exact absurd through (not_lt.mpr below)

end AgentShield.Client
