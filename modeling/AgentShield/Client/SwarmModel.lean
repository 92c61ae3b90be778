import AgentShield.Client.Stage
import AgentShield.Runtime.TeamGraph

/-!
The swarm graph's structure (`lib/runtime/swarmModel.ts`): from the session summary, with the
security states of the stream where it has an opinion.
-/
namespace AgentShield.Client
open Schema Keyed Coop Routes Session Distinct

structure SwarmAttrs where
  softwareType : String
  agentKind : String := "real"
  replaces : Option String
  modelBacked : Bool

structure TopologyNode where
  id : String
  nodeType : String
  securityState : SecurityState
  attrs : SwarmAttrs

structure TopologyEdge where
  source : String
  target : String
  edgeType : String
  deriving DecidableEq

/- `structureKey`: what its text is made of. -/
inductive StructureKey where
  | none
  | session (sessionId : Uuid) (nodes edges : Nat)

structure TopologyModel where
  structureKey : StructureKey
  nodes : List TopologyNode
  edges : List TopologyEdge
  meshOnly : Bool

def swarmNode (live : Option (Table NodeView.id)) (worker : WorkerView) : TopologyNode :=
  { id := worker.id
    nodeType := "agent"
    securityState := displayedState live worker
    attrs :=
      { softwareType := worker.role
        replaces := worker.replaces
        modelBacked := worker.modelBacked } }

structure Drawn where
  seen : List String
  edges : List TopologyEdge

def edgeKey (edge : TopologyEdge) : String := edge.source ++ "|" ++ edge.target

def add (known : List String) (drawn : Drawn) (edge : TopologyEdge) : Drawn :=
  if edge.source ∉ known ∨ edge.target ∉ known then drawn
  else if edgeKey edge ∈ drawn.seen then drawn
  else ⟨drawn.seen ++ [edgeKey edge], drawn.edges ++ [edge]⟩

def delegatesTo (source target : String) : TopologyEdge := ⟨source, target, "delegates_to"⟩

def declaredDelegations (workers : List WorkerView) : List TopologyEdge :=
  workers.flatMap fun worker => worker.upstream.map fun upstream => delegatesTo upstream worker.id

def inheritedDelegations (workers : List WorkerView) : List TopologyEdge :=
  workers.flatMap fun worker => match truthy worker.replaces with
    | none => []
    | some replaced =>
      (workers.filter fun other => replaced ∈ other.upstream).map fun other =>
        delegatesTo worker.id other.id

def buildSwarmModel (summary : Option RuntimeSessionSummary) (stream : GraphState) :
    TopologyModel :=
  match summary with
  | none => { structureKey := .none, nodes := [], edges := [], meshOnly := true }
  | some summary =>
    let live := if stream.experimentId = some summary.sessionId then some stream.nodes else none
    let nodes := summary.workers.map (swarmNode live)
    let known := nodes.map TopologyNode.id
    let drawn := (declaredDelegations summary.workers ++ inheritedDelegations summary.workers).foldl
      (add known) ⟨[], []⟩
    { structureKey := .session summary.sessionId nodes.length drawn.edges.length
      nodes
      edges := drawn.edges
      meshOnly := true }

def TopologyEdge.view (edge : TopologyEdge) : EdgeView := ⟨edge.source, edge.target⟩

def joined (edge : EdgeView) : String := edge.source ++ "|" ++ edge.target

theorem drawn_firsts (known : List String) (asked : List TopologyEdge) :
    (asked.foldl (add known) ⟨[], []⟩).edges =
      firsts edgeKey (asked.filter fun edge => edge.source ∈ known ∧ edge.target ∈ known) := by
  have whole : asked.foldl (add known) ⟨[], []⟩ =
      ⟨(firsts edgeKey (asked.filter fun edge =>
        edge.source ∈ known ∧ edge.target ∈ known)).map edgeKey, firsts edgeKey
          (asked.filter fun edge => edge.source ∈ known ∧ edge.target ∈ known)⟩ := by
    induction asked using List.reverseRecOn with
    | nil => rfl
    | append_singleton asked edge ih =>
      rw [List.foldl_append, ih, List.foldl_cons, List.foldl_nil, List.filter_append,
        List.filter_singleton, add]
      by_cases registered : edge.source ∈ known ∧ edge.target ∈ known
      · rw [if_neg (by tauto), decide_eq_true registered, cond_true, firsts_concat, keepFirst]
        dsimp only
        split
        · rfl
        · rw [List.map_append, List.map_singleton]
      · rw [if_pos (by tauto), decide_eq_false registered, cond_false, List.append_nil]
  rw [whole]

/- Nobody with the empty id was replaced by the edge's source. -/
def shown (workers : List WorkerNode) (edge : EdgeView) : Bool :=
  workers.all fun w => w.id ≠ edge.source ∨ w.replaces ≠ some ""

theorem declared_view (workers : List WorkerNode) :
    (declaredDelegations (workers.map workerView)).map TopologyEdge.view =
      declaredEdges workers := by
  unfold declaredDelegations declaredEdges
  rw [List.flatMap_map, List.map_flatMap]
  congr 1
  funext w
  exact List.map_map

theorem shown_source {self : LiveRuntimeSession} {w : WorkerNode}
    (here : w ∈ self.workers.values) {edge : EdgeView} (source : edge.source = w.id) :
    shown self.workers.values edge = true ↔ w.replaces ≠ some "" := by
  unfold shown
  simp only [List.all_eq_true, decide_eq_true_eq]
  constructor
  · intro every
    exact (every w here).resolve_left fun differ => differ source.symm
  · intro named v there
    by_cases same : v.id = edge.source
    · right
      rwa [worker_of_id there here (same.trans source)]
    · exact Or.inl same

theorem inherited_view (self : LiveRuntimeSession) :
    (inheritedDelegations (self.workers.values.map workerView)).map TopologyEdge.view =
      (inheritedEdges self.workers.values).filter (shown self.workers.values) := by
  unfold inheritedDelegations inheritedEdges
  rw [List.flatMap_map, List.map_flatMap, List.filter_flatMap]
  apply List.flatMap_congr
  intro w here
  have named : ∀ other : WorkerNode,
      shown self.workers.values ⟨w.id, other.id⟩ = true ↔ w.replaces ≠ some "" :=
    fun _ => shown_source here rfl
  change List.map TopologyEdge.view (match truthy w.replaces with
    | none => []
    | some replaced => _) = _
  rcases replaces : w.replaces with _ | replaced
  · rfl
  · rw [replaces] at named
    by_cases blank : replaced = ""
    · subst blank
      symm
      apply List.filter_eq_nil_iff.mpr
      intro edge present
      obtain ⟨other, _, rfl⟩ := List.mem_map.mp present
      exact fun kept => (named other).mp kept rfl
    · have kept : truthy (some replaced) = some replaced := by
        unfold truthy
        split
        · rename_i same
          exact absurd (Option.some.inj same) blank
        · rfl
      have whole : (((self.workers.values.filter fun other => replaced ∈ other.upstream).map
          fun other => (⟨w.id, other.id⟩ : EdgeView)).filter (shown self.workers.values)) =
          (self.workers.values.filter fun other => replaced ∈ other.upstream).map
            fun other => (⟨w.id, other.id⟩ : EdgeView) := by
        apply List.filter_eq_self.mpr
        intro edge present
        obtain ⟨other, _, rfl⟩ := List.mem_map.mp present
        exact (named other).mpr fun same => blank (Option.some.inj same)
      dsimp only
      rw [whole, kept]
      dsimp only
      rw [List.filter_map, List.map_map, List.map_map]
      rfl

def shownHandoffs (self : LiveRuntimeSession) : List EdgeView :=
  (declaredEdges self.workers.values ++
    (inheritedEdges self.workers.values).filter (shown self.workers.values)).filter
      fun edge => self.workers.Has edge.source ∧ self.workers.Has edge.target

theorem drawn_handoffs (self : LiveRuntimeSession) (stream : GraphState) :
    (buildSwarmModel (some (summaryOf self)) stream).edges.map TopologyEdge.view =
      firsts joined (shownHandoffs self) := by
  have known : ∀ live, ((self.workers.values.map workerView).map (swarmNode live)).map
      TopologyNode.id = self.workers.keys := by
    intro live
    rw [List.map_map, List.map_map]
    rfl
  unfold shownHandoffs
  rw [← declared_view, ← inherited_view, ← List.map_append]
  unfold buildSwarmModel
  dsimp only [summaryOf]
  rw [drawn_firsts, known, List.filter_map]
  exact firsts_map TopologyEdge.view joined _

theorem mem_shown {self : LiveRuntimeSession} {edge : EdgeView} :
    edge ∈ shownHandoffs self ↔ edge ∈ handoffs self ∧
      (edge ∈ declaredEdges self.workers.values ∨ shown self.workers.values edge = true) := by
  unfold shownHandoffs handoffs
  simp only [List.mem_filter, List.mem_append]
  tauto

/- Two handoffs of the team that the screen cannot tell apart are one. -/
def ToldApart (self : LiveRuntimeSession) : Prop :=
  ∀ source ∈ self.workers.values, ∀ target ∈ self.workers.values,
    ∀ source' ∈ self.workers.values, ∀ target' ∈ self.workers.values,
      HandsOff source target → HandsOff source' target' →
        source.id ++ "|" ++ target.id = source'.id ++ "|" ++ target'.id →
          source = source' ∧ target = target'

def BlanksDeclared (self : LiveRuntimeSession) : Prop :=
  ∀ source ∈ self.workers.values, ∀ target ∈ self.workers.values,
    source.replaces = some "" → "" ∈ target.upstream → source.id ∈ target.upstream

theorem blanks_known {self : LiveRuntimeSession} (blanks : BlanksDeclared self) {edge : EdgeView}
    (inherited : edge ∈ inheritedEdges self.workers.values)
    (hidden : shown self.workers.values edge = false) :
    edge ∈ declaredEdges self.workers.values := by
  obtain ⟨w, here, replaced, link, other, there, declared, rfl⟩ := mem_inherited.mp inherited
  have blank : w.replaces = some "" := by
    by_contra named
    have kept : shown self.workers.values ⟨w.id, other.id⟩ = true :=
      (shown_source here rfl).mpr named
    rw [hidden] at kept
    cases kept
  rw [blank] at link
  rw [← Option.some.inj link] at declared
  exact mem_declared.mpr ⟨other, there, blanks w here other there blank declared, rfl⟩

theorem shown_all {self : LiveRuntimeSession} (blanks : BlanksDeclared self) :
    firsts id (shownHandoffs self) = Session.edges self := by
  rw [edges_firsts]
  unfold shownHandoffs handoffs
  rw [List.filter_append, List.filter_append, List.filter_filter,
    List.filter_congr fun edge _ => Bool.and_comm _ _, ← List.filter_filter]
  apply firsts_append_filter
  intro edge present hidden
  obtain ⟨inherited, registered⟩ := List.mem_filter.mp present
  exact List.mem_filter.mpr ⟨blanks_known blanks inherited hidden, registered⟩

/-- The screen draws the session's edges: the same pairs, in the same order, once each. -/
theorem team_graphs_agree_iff (self : LiveRuntimeSession) (stream : GraphState) :
    ((buildSwarmModel (some (summaryOf self)) stream).edges.map TopologyEdge.view =
        Session.edges self ∧ (Session.edges self).Nodup) ↔
      BlanksDeclared self ∧ ToldApart self := by
  rw [drawn_handoffs]
  constructor
  · rintro ⟨same, _⟩
    have drawn : ∀ edge ∈ Session.edges self, edge ∈ firsts joined (shownHandoffs self) := by
      rw [same]
      exact fun _ => id
    constructor
    · intro source there target here blank declared
      have edge : (⟨source.id, target.id⟩ : EdgeView) ∈ Session.edges self :=
        (edge_between there here).mpr (Or.inr ⟨"", blank, declared⟩)
      rcases (mem_shown.mp (firsts_member (drawn _ edge))).2 with own | kept
      · obtain ⟨w, present, own, named⟩ := mem_declared.mp own
        rwa [worker_of_id here present named]
      · exact absurd blank ((shown_source there rfl).mp kept)
    · intro source there target here source' there' target' here' handed handed' key
      have one := drawn _ ((edge_between there here).mpr handed)
      have two := drawn _ ((edge_between there' here').mpr handed')
      have equal := List.inj_on_of_nodup_map (firsts_distinct joined _) one two key
      obtain ⟨sources, targets⟩ := EdgeView.mk.inj equal
      exact ⟨worker_of_id there there' sources, worker_of_id here here' targets⟩
  · rintro ⟨blanks, apart⟩
    constructor
    · rw [← shown_all blanks]
      apply firsts_key_iff.mpr
      intro u hu v hv key
      obtain ⟨source, there, target, here, handed, rfl⟩ := mem_handoffs.mp (mem_shown.mp hu).1
      obtain ⟨source', there', target', here', handed', rfl⟩ :=
        mem_handoffs.mp (mem_shown.mp hv).1
      obtain ⟨rfl, rfl⟩ :=
        apart source there target here source' there' target' here' handed handed' key
      rfl
    · rw [edges_firsts]
      exact firsts_nodup _

def clashing : LiveRuntimeSession :=
  serial (handle (fun _ => none) []) (LiveRuntimeSession.new 0 "objective")
    [.registerWorker { id := "a", role := "Analyst" },
      .registerWorker { id := "b|c", role := "Developer", upstream := ["a"] },
      .registerWorker { id := "a|b", role := "Researcher" },
      .registerWorker { id := "c", role := "Reviewer", upstream := ["a|b"] }]

/-- A bar in an id: the session reports both handoffs, the screen draws one. -/
theorem bar_hides_a_handoff :
    Session.edges clashing = [⟨"a", "b|c"⟩, ⟨"a|b", "c"⟩] ∧
      (buildSwarmModel (some (summaryOf clashing)) initialGraphState).edges.map
        TopologyEdge.view = [⟨"a", "b|c"⟩] := by
  decide

end AgentShield.Client
