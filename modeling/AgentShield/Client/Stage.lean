import Mathlib.Data.List.Sort
import AgentShield.Client.Reducer
import AgentShield.Lib.Comparator
import AgentShield.Runtime.Routes

/-!
The causal layout of the swarm (`lib/runtime/stage.ts`): the polled summary, with the security
states of the stream where it has an opinion.
-/
namespace AgentShield.Client
open Schema Keyed Routes Comparator

structure StageNode where
  id : String
  role : String
  securityState : SecurityState
  currentTask : Option String
  quarantineReason : Option String
  replaces : Option String
  modelBacked : Bool
  column : Nat
  deriving DecidableEq

structure StageColumn where
  column : Nat
  nodes : List StageNode

structure Reassignment where
  workerId : String
  replacementId : String

structure Stage where
  columns : List StageColumn
  reassignments : Table Reassignment.workerId
  breached : Bool

def emptyStage : Stage := ⟨[], Table.empty, false⟩

structure Depth where
  id : String
  depth : Nat

def depthOf (depth : Table Depth.id) (id : String) : Nat :=
  ((depth.get? id).map Depth.depth).getD 0

def deepen (workers : List WorkerView) (pass : Table Depth.id × Bool) (worker : WorkerView) :
    Table Depth.id × Bool :=
  let parents := match worker.replaces with
    | some replaced => [replaced]
    | none => worker.upstream
  let next := parents.foldl
    (fun next parentId =>
      if parentId ∉ workers.map WorkerView.id then next
      else if worker.replaces = some parentId then max next (depthOf pass.1 parentId)
      else max next (depthOf pass.1 parentId + 1))
    0
  if (pass.1.get? worker.id).map Depth.depth = some next then pass
  else (pass.1.put ⟨worker.id, next⟩, true)

def deepenAll (workers : List WorkerView) : Nat → Table Depth.id → Table Depth.id
  | 0, depth => depth
  | passes + 1, depth =>
    let (depth, changed) := workers.foldl (deepen workers) (depth, false)
    if changed then deepenAll workers passes depth else depth

/- Capped by the worker count: nothing promises that `upstream` is acyclic. -/
def depths (workers : List WorkerView) : Table Depth.id :=
  deepenAll workers (workers.length + 1) Table.empty

def displayedState (live : Option (Table NodeView.id)) (worker : WorkerView) : SecurityState :=
  ((live.bind fun nodes => nodes.get? worker.id).map NodeView.securityState).getD
    worker.securityState

def stageNode (live : Option (Table NodeView.id)) (depth : Table Depth.id)
    (worker : WorkerView) : StageNode :=
  { id := worker.id
    role := worker.role
    securityState := displayedState live worker
    currentTask := worker.currentTask
    quarantineReason := worker.quarantineReason
    replaces := worker.replaces
    modelBacked := worker.modelBacked
    column := depthOf depth worker.id }

def group (grouped : Table StageColumn.column) (node : StageNode) : Table StageColumn.column :=
  let bucket := ((grouped.get? node.column).map StageColumn.nodes).getD []
  grouped.put ⟨node.column, bucket ++ [node]⟩

/- A replacement below the worker it replaced, then the order of the summary. -/
def compareNodes (order : StageNode → Nat) (a b : StageNode) : Int :=
  if a.replaces = some b.id then 1
  else if b.replaces = some a.id then -1
  else order a - order b

def reassign (reassignments : Table Reassignment.workerId) (node : StageNode) :
    Table Reassignment.workerId :=
  match truthy node.replaces with
  | none => reassignments
  | some replaced => reassignments.put ⟨replaced, node.id⟩

/- `engine` is the `sort` of the JavaScript engine. -/
def buildStage (engine : EngineSort StageNode) (summary : Option RuntimeSessionSummary)
    (stream : GraphState) : Stage :=
  match summary with
  | none => emptyStage
  | some summary =>
    if summary.workers.isEmpty then emptyStage
    else
      let live := if stream.experimentId = some summary.sessionId then some stream.nodes else none
      let nodes := summary.workers.map (stageNode live (depths summary.workers))
      let order := fun node : StageNode => (nodes.map StageNode.id).idxOf node.id
      let grouped := nodes.foldl group Table.empty
      let columns := (grouped.values.insertionSort fun a b => a.column ≤ b.column).map fun bucket =>
        { bucket with nodes := engine.sort (compareNodes order) bucket.nodes }
      { columns
        reassignments := nodes.foldl reassign Table.empty
        breached := nodes.any fun node => node.securityState = .quarantined }

def Stage.nodes (stage : Stage) : List StageNode := stage.columns.flatMap StageColumn.nodes

def Bucketed (grouped : Table StageColumn.column) (node : StageNode) : Prop :=
  ∃ bucket ∈ grouped.values, node ∈ bucket.nodes

theorem group_bucketed (grouped : Table StageColumn.column) (node other : StageNode) :
    Bucketed (group grouped node) other ↔ Bucketed grouped other ∨ other = node := by
  unfold Bucketed group
  cases found : grouped.get? node.column with
  | none =>
    have absent : ¬ grouped.Has (StageColumn.column ⟨node.column, [node]⟩) :=
      Table.get?_none_iff.mp found
    simp [Table.put_values_of_absent absent, or_and_right, exists_or]
  | some existing =>
    have here := Table.get?_key found
    have member := Table.get?_member found
    simp only [Option.map_some, Option.getD_some]
    constructor
    · rintro ⟨bucket, inside, present⟩
      rcases Table.put_member inside with rfl | ⟨old, _⟩
      · rcases List.mem_append.mp present with before | new
        · exact Or.inl ⟨existing, member, before⟩
        · exact Or.inr (List.mem_singleton.mp new)
      · exact Or.inl ⟨bucket, old, present⟩
    · have put : ∀ bucket ∈ grouped.values, bucket.column ≠ node.column →
          bucket ∈ (grouped.put ⟨node.column, existing.nodes ++ [node]⟩).values := by
        intro bucket inside differ
        apply Table.get?_member (k := bucket.column)
        rw [Table.get?_put, if_neg differ]
        exact Table.get?_of_member inside
      have filled : (⟨node.column, existing.nodes ++ [node]⟩ : StageColumn) ∈
          (grouped.put ⟨node.column, existing.nodes ++ [node]⟩).values := by
        apply Table.get?_member (k := node.column)
        rw [Table.get?_put, if_pos rfl]
      rintro (⟨bucket, inside, present⟩ | rfl)
      · by_cases same : bucket.column = node.column
        · have one := Table.get?_of_member inside
          rw [same, found] at one
          obtain rfl := Option.some.inj one
          exact ⟨_, filled, List.mem_append_left _ present⟩
        · exact ⟨bucket, put bucket inside same, present⟩
      · exact ⟨_, filled, List.mem_append_right _ List.mem_cons_self⟩

theorem groups_bucketed (nodes : List StageNode) (node : StageNode) :
    Bucketed (nodes.foldl group Table.empty) node ↔ node ∈ nodes := by
  have whole : ∀ (nodes : List StageNode) grouped,
      Bucketed (nodes.foldl group grouped) node ↔ Bucketed grouped node ∨ node ∈ nodes := by
    intro nodes
    induction nodes with
    | nil => simp
    | cons first rest ih =>
      intro grouped
      rw [List.foldl_cons, ih, group_bucketed, List.mem_cons, or_assoc]
  rw [whole]
  exact or_iff_right fun ⟨_, never, _⟩ => nomatch never

/-- The stage shows each worker of the summary, and nobody else. -/
theorem mem_stage {engine : EngineSort StageNode} {summary : RuntimeSessionSummary}
    {stream : GraphState} {node : StageNode} :
    node ∈ (buildStage engine (some summary) stream).nodes ↔ ∃ worker ∈ summary.workers,
      stageNode (if stream.experimentId = some summary.sessionId then some stream.nodes else none)
        (depths summary.workers) worker = node := by
  unfold buildStage
  dsimp only
  split
  · rename_i empty
    rw [List.isEmpty_iff.mp empty]
    simp [Stage.nodes, emptyStage]
  · apply Iff.trans _ ((groups_bucketed _ _).trans List.mem_map)
    unfold Stage.nodes Bucketed
    simp only [List.mem_flatMap, List.mem_map, exists_exists_and_eq_and,
      (List.perm_insertionSort _ _).mem_iff, engine.mem]

end AgentShield.Client
