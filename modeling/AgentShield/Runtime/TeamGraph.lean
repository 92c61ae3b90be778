import Mathlib.Logic.Relation
import AgentShield.Lib.Distinct
import AgentShield.Runtime.SessionEffects

/-!
The team graph of a live session (`LiveRuntimeSession.edges`): the handoffs its workers
declared, and the ones a replacement inherits.
-/
namespace AgentShield.Session
open Schema Keyed Coop Distinct Relation

def handoffs (self : LiveRuntimeSession) : List EdgeView :=
  (declaredEdges self.workers.values ++ inheritedEdges self.workers.values).filter fun edge =>
    self.workers.Has edge.source ∧ self.workers.Has edge.target

theorem edges_firsts (self : LiveRuntimeSession) : edges self = firsts id (handoffs self) := by
  unfold edges handoffs firsts
  rw [List.foldl_filter]
  congr 1
  funext kept edge
  unfold addEdge keepFirst
  rw [List.map_id]
  by_cases registered : self.workers.Has edge.source ∧ self.workers.Has edge.target
  · obtain ⟨source, target⟩ := registered
    by_cases seen : edge ∈ kept
    · simp [source, target, seen]
    · simp [source, target, seen]
  · rw [if_neg fun all => registered ⟨all.1, all.2.1⟩, if_neg (by simpa using registered)]

/-- `source` hands its work to `target`, which declared it or the worker it replaced. -/
def HandsOff (source target : WorkerNode) : Prop :=
  source.id ∈ target.upstream ∨
    ∃ replaced, source.replaces = some replaced ∧ replaced ∈ target.upstream

theorem mem_declared {workers : List WorkerNode} {edge : EdgeView} :
    edge ∈ declaredEdges workers ↔
      ∃ w ∈ workers, edge.source ∈ w.upstream ∧ edge.target = w.id := by
  unfold declaredEdges
  simp only [List.mem_flatMap, List.mem_map]
  constructor
  · rintro ⟨w, here, source, declared, rfl⟩
    exact ⟨w, here, declared, rfl⟩
  · rintro ⟨w, here, declared, target⟩
    exact ⟨w, here, edge.source, declared, by rw [← target]⟩

theorem mem_inherited {workers : List WorkerNode} {edge : EdgeView} :
    edge ∈ inheritedEdges workers ↔ ∃ w ∈ workers, ∃ replaced, w.replaces = some replaced ∧
      ∃ other ∈ workers, replaced ∈ other.upstream ∧ edge = ⟨w.id, other.id⟩ := by
  unfold inheritedEdges
  rw [List.mem_flatMap]
  apply exists_congr
  intro w
  apply and_congr_right
  intro here
  cases w.replaces with
  | none => simp
  | some replaced =>
    simp only [List.mem_map, List.mem_filter, decide_eq_true_eq, and_assoc, Option.some.injEq,
      exists_eq_left', eq_comm (a := edge)]

theorem mem_handoffs {self : LiveRuntimeSession} {edge : EdgeView} :
    edge ∈ handoffs self ↔ ∃ source ∈ self.workers.values, ∃ target ∈ self.workers.values,
      HandsOff source target ∧ edge = ⟨source.id, target.id⟩ := by
  unfold handoffs
  rw [List.mem_filter, List.mem_append, mem_declared, mem_inherited, decide_eq_true_eq]
  constructor
  · rintro ⟨⟨target, here, declared, same⟩ | ⟨source, there, replaced, link, target, here,
      declared, rfl⟩, registered, _⟩
    · obtain ⟨source, there, named⟩ := List.mem_map.mp registered
      refine ⟨source, there, target, here, Or.inl ?_, ?_⟩
      · rwa [named]
      · rw [named, ← same]
    · exact ⟨source, there, target, here, Or.inr ⟨replaced, link, declared⟩, rfl⟩
  · rintro ⟨source, there, target, here, handed, rfl⟩
    refine ⟨?_, List.mem_map_of_mem there, List.mem_map_of_mem here⟩
    rcases handed with declared | ⟨replaced, link, declared⟩
    · exact Or.inl ⟨target, here, declared, rfl⟩
    · exact Or.inr ⟨source, there, replaced, link, target, here, declared, rfl⟩

theorem mem_edges {self : LiveRuntimeSession} {edge : EdgeView} :
    edge ∈ edges self ↔ ∃ source ∈ self.workers.values, ∃ target ∈ self.workers.values,
      HandsOff source target ∧ edge = ⟨source.id, target.id⟩ := by
  rw [edges_firsts, mem_firsts, mem_handoffs]

theorem worker_of_id {self : LiveRuntimeSession} {v w : WorkerNode}
    (hv : v ∈ self.workers.values) (hw : w ∈ self.workers.values) (same : v.id = w.id) : v = w :=
  List.inj_on_of_nodup_map self.workers.distinct hv hw same

theorem edge_between {self : LiveRuntimeSession} {source target : WorkerNode}
    (there : source ∈ self.workers.values) (here : target ∈ self.workers.values) :
    (⟨source.id, target.id⟩ : EdgeView) ∈ edges self ↔ HandsOff source target := by
  rw [mem_edges]
  constructor
  · rintro ⟨source', there', target', here', handed, same⟩
    obtain ⟨sources, targets⟩ := EdgeView.mk.inj same
    rwa [worker_of_id there there' sources, worker_of_id here here' targets]
  · intro handed
    exact ⟨source, there, target, here, handed, rfl⟩

/- `w` took over from `v`. -/
def TookOver (self : LiveRuntimeSession) (w v : WorkerNode) : Prop :=
  w ∈ self.workers.values ∧ v ∈ self.workers.values ∧ w.replaces = some v.id

def IsLast (self : LiveRuntimeSession) (w : WorkerNode) : Prop :=
  w ∈ self.workers.values ∧ ∀ v ∈ self.workers.values, v.replaces ≠ some w.id

/-- The handoffs of a whole chain belong to its last worker. -/
structure Inherits (s : LiveRuntimeSession) : Prop where
  inherited : ∀ last, IsLast s last → ∀ member, ReflTransGen (TookOver s) last member →
    ∀ other ∈ s.workers.values, member.id ∈ other.upstream → ⟨last.id, other.id⟩ ∈ edges s
  registered : ∀ edge ∈ edges s, s.workers.Has edge.source ∧ s.workers.Has edge.target
  distinct : (edges s).Nodup

/-- Inheritance looks one replacement back. -/
theorem replacements_inherit_iff (self : LiveRuntimeSession) :
    Inherits self ↔ ∀ last, IsLast self last → ∀ direct, TookOver self last direct →
      ∀ member, TransGen (TookOver self) direct member → ∀ other ∈ self.workers.values,
        member.id ∈ other.upstream → last.id ∈ other.upstream ∨ direct.id ∈ other.upstream := by
  constructor
  · intro holds last isLast direct took member chain other here declared
    have whole : ReflTransGen (TookOver self) last member :=
      (TransGen.head took chain).to_reflTransGen
    have edge := holds.inherited last isLast member whole other here declared
    rcases (edge_between isLast.1 here).mp edge with own | ⟨replaced, link, inherited⟩
    · exact Or.inl own
    · right
      rw [took.2.2] at link
      rwa [Option.some.inj link]
  · intro condition
    refine ⟨?_, ?_, ?_⟩
    · intro last isLast member chain other here declared
      apply (edge_between isLast.1 here).mpr
      rcases ReflTransGen.cases_head chain with rfl | ⟨direct, took, rest⟩
      · exact Or.inl declared
      · rcases reflTransGen_iff_eq_or_transGen.mp rest with rfl | further
        · exact Or.inr ⟨_, took.2.2, declared⟩
        · rcases condition last isLast direct took member further other here declared with
            own | before
          · exact Or.inl own
          · exact Or.inr ⟨_, took.2.2, before⟩
    · intro edge present
      obtain ⟨source, there, target, here, _, rfl⟩ := mem_edges.mp present
      exact ⟨List.mem_map_of_mem there, List.mem_map_of_mem here⟩
    · rw [edges_firsts]
      exact firsts_nodup _

inductive Staffed : LiveRuntimeSession → Prop where
  | new (sessionId : Uuid) (objective : String) :
      Staffed (LiveRuntimeSession.new sessionId objective)
  | registered {s : LiveRuntimeSession} (staffed : Staffed s) {workerId : String}
      (fresh : ¬ s.workers.Has workerId) (role : String) (upstream : List String)
      (modelBacked : Bool) :
      Staffed (exec (registerWorker workerId role upstream none modelBacked) s)
  | reassigned {s : LiveRuntimeSession} (staffed : Staffed s) {fromWorkerId toWorkerId : String}
      (known : s.workers.Has fromWorkerId) (fresh : ¬ s.workers.Has toWorkerId)
      (role task : String) (upstream : List String) (modelBacked : Bool) :
      Staffed (exec (reassign fromWorkerId toWorkerId role task upstream modelBacked) s)

def researcher : WorkerNode := { id := "researcher", role := "Researcher", stepRegistered := 1 }

def developer : WorkerNode :=
  { id := "developer", role := "Developer", upstream := ["researcher"], stepRegistered := 2 }

def replacement (workerId replaced : String) (step : Nat) : WorkerNode :=
  { researcher with
    id := workerId
    currentTask := some "task"
    replaces := some replaced
    stepRegistered := step }

def replacedTwice : LiveRuntimeSession :=
  let team := exec (registerWorker "developer" "Developer" ["researcher"] none false)
    (exec (registerWorker "researcher" "Researcher" [] none false)
      (LiveRuntimeSession.new 0 "objective"))
  exec (reassign "second" "third" "Researcher" "task" [] false)
    (exec (reassign "researcher" "second" "Researcher" "task" [] false) team)

theorem replacedTwice_staffed : Staffed replacedTwice := by
  apply Staffed.reassigned _ (by decide) (by decide)
  apply Staffed.reassigned _ (by decide) (by decide)
  apply Staffed.registered _ (by decide)
  apply Staffed.registered _ (by decide)
  exact .new 0 "objective"

/-- The developer declared the first researcher, and the third one is not drawn into its work. -/
theorem second_replacement_dangles : ∃ s, Staffed s ∧ ¬ Inherits s := by
  refine ⟨replacedTwice, replacedTwice_staffed, ?_⟩
  intro holds
  have missing : (⟨"third", "developer"⟩ : EdgeView) ∉ edges replacedTwice := by decide
  apply missing
  apply holds.inherited (replacement "third" "second" 4) _ researcher _ developer
  · decide
  · decide
  · unfold IsLast
    decide
  · apply ReflTransGen.tail (b := replacement "second" "researcher" 3)
    · apply ReflTransGen.single
      unfold TookOver
      decide
    · unfold TookOver
      decide

end AgentShield.Session
