import Mathlib.Data.Finset.Union
import AgentShield.Graph.Builder
import AgentShield.Lib.Reach

/-!
Analysis of the security graph (`graph/analysis.py`, and what it uses of
`graph/security_graph.py`): blast radius and provenance.
-/
namespace AgentShield.Analysis
open Schema Keyed Engine GraphBuilder

def propagationEdgeTypes : List EdgeType :=
  [.communicatesWith, .delegatesTo, .canAccess, .usesCredential]

def multigraphNodes (graph : SecurityGraph) : List String :=
  graph.nodes.keys ++ graph.edges.values.flatMap fun edge => [edge.source, edge.target]

def subgraphView (graph : SecurityGraph) (edgeTypes : List EdgeType) : List (String × String) :=
  (graph.edges.values.filter fun edge => edge.edgeType ∈ edgeTypes).map
    fun edge => (edge.source, edge.target)

def compromisedIds (graph : SecurityGraph) : List String :=
  (graph.nodes.values.filter fun node => node.securityState = .compromised).map GraphNode.id

/- `nx.descendants`: everything reachable from a node but itself. -/
def descendants (view : List (String × String)) (nodeId : String) : Finset String :=
  (Reach.closure view {nodeId}).erase nodeId

/-- Every node reachable from a compromised one, these included. -/
def blastRadius (graph : SecurityGraph) : Finset String :=
  let view := subgraphView graph propagationEdgeTypes
  let compromised := (compromisedIds graph).toFinset ∩ (multigraphNodes graph).toFinset
  compromised ∪ compromised.biUnion (descendants view)

theorem mem_compromisedIds {graph : SecurityGraph} {id : String} :
    id ∈ compromisedIds graph ↔
      ∃ node ∈ graph.nodes.values, node.id = id ∧ node.securityState = .compromised := by
  unfold compromisedIds
  simp only [List.mem_map, List.mem_filter, decide_eq_true_eq]
  constructor
  · rintro ⟨node, ⟨member, compromised⟩, same⟩
    exact ⟨node, member, same, compromised⟩
  · rintro ⟨node, member, same, compromised⟩
    exact ⟨node, ⟨member, compromised⟩, same⟩

theorem mem_blastRadius {graph : SecurityGraph} {id : String} :
    id ∈ blastRadius graph ↔ ∃ source ∈ compromisedIds graph,
      Relation.ReflTransGen (Reach.Edge (subgraphView graph propagationEdgeTypes)) source id := by
  have known : ∀ source ∈ compromisedIds graph, source ∈ multigraphNodes graph := by
    intro source compromised
    obtain ⟨node, member, rfl, _⟩ := mem_compromisedIds.mp compromised
    exact List.mem_append_left _ (List.mem_map_of_mem member)
  unfold blastRadius
  simp only [Finset.mem_union, Finset.mem_inter, List.mem_toFinset, Finset.mem_biUnion]
  constructor
  · rintro (⟨compromised, _⟩ | ⟨source, ⟨compromised, _⟩, reached⟩)
    · exact ⟨id, compromised, .refl⟩
    · obtain ⟨start, here, path⟩ := Reach.mem_closure.mp (Finset.mem_of_mem_erase reached)
      obtain rfl := Finset.mem_singleton.mp here
      exact ⟨start, compromised, path⟩
  · rintro ⟨source, compromised, path⟩
    by_cases same : id = source
    · rw [same]
      exact Or.inl ⟨compromised, known source compromised⟩
    · right
      refine ⟨source, ⟨compromised, known source compromised⟩, Finset.mem_erase.mpr ⟨same, ?_⟩⟩
      exact Reach.mem_closure.mpr ⟨source, Finset.mem_singleton_self source, path⟩

/- `compromised_by.get(node_id)`: no entry, or an entry that is `None`. -/
def recordedSource (compromisedBy : List (String × Option String)) (nodeId : String) :
    Option String :=
  (compromisedBy.lookup nodeId).join

theorem recordedSource_member {compromisedBy : List (String × Option String)}
    {nodeId source : String} (recorded : recordedSource compromisedBy nodeId = some source) :
    source ∈ compromisedBy.filterMap Prod.snd := by
  unfold recordedSource at recorded
  obtain ⟨before, after, split, _⟩ :=
    List.lookup_eq_some_iff.mp (Option.join_eq_some_iff.mp recorded)
  rw [split]
  simp

/- The chain is also the set of nodes seen; a node that would repeat ends it. -/
def provenanceFrom (compromisedBy : List (String × Option String)) (chain : List String)
    (current : String) : List String :=
  match _recorded : recordedSource compromisedBy current with
  | none => chain
  | some source =>
    if source ∈ chain then chain
    else provenanceFrom compromisedBy (chain ++ [source]) source
termination_by ((compromisedBy.filterMap Prod.snd).toFinset \ chain.toFinset).card
decreasing_by
  rename_i unseen
  have known := recordedSource_member _recorded
  apply Finset.card_lt_card
  apply Finset.ssubset_iff_subset_ne.mpr
  constructor
  · apply Finset.sdiff_subset_sdiff (Finset.Subset.refl _)
    intro id member
    exact List.mem_toFinset.mpr (List.mem_append_left _ (List.mem_toFinset.mp member))
  · intro same
    have target : source ∈ (compromisedBy.filterMap Prod.snd).toFinset \ chain.toFinset := by
      rw [Finset.mem_sdiff, List.mem_toFinset, List.mem_toFinset]
      exact ⟨known, unseen⟩
    rw [← same, Finset.mem_sdiff] at target
    apply target.2
    rw [List.mem_toFinset]
    exact List.mem_append_right _ List.mem_cons_self

/-- The chain from a node back to the source of its compromise. -/
def provenance (compromisedBy : List (String × Option String)) (nodeId : String) : List String :=
  provenanceFrom compromisedBy [nodeId] nodeId

theorem provenanceFrom_first {compromisedBy : List (String × Option String)}
    {chain : List String} {current : String}
    (first : recordedSource compromisedBy current = none) :
    provenanceFrom compromisedBy chain current = chain := by
  unfold provenanceFrom
  split
  · rfl
  · rename_i source recorded
    rw [first] at recorded
    cases recorded

theorem provenanceFrom_next {compromisedBy : List (String × Option String)}
    {chain : List String} {current source : String}
    (recorded : recordedSource compromisedBy current = some source) (fresh : source ∉ chain) :
    provenanceFrom compromisedBy chain current =
      provenanceFrom compromisedBy (chain ++ [source]) source := by
  rw [provenanceFrom]
  split
  · rename_i none
    rw [recorded] at none
    cases none
  · rename_i other same
    rw [recorded] at same
    obtain rfl := Option.some.inj same
    exact if_neg fresh

def compromisedByOf (state : WorldState) : List (String × Option String) :=
  state.nodes.values.map fun node => (node.id, node.compromisedBy)

theorem recordedSource_node {state : WorldState} {node : AgentNode}
    (member : node ∈ state.nodes.values) :
    recordedSource (compromisedByOf state) node.id = node.compromisedBy := by
  have found := Table.get?_of_member member
  unfold Table.get? at found
  unfold recordedSource compromisedByOf
  generalize state.nodes.values = nodes at found
  induction nodes with
  | nil => cases found
  | cons first rest ih =>
    rw [List.map_cons]
    by_cases same : first.id = node.id
    · rw [List.find?_cons_of_pos (by simpa using same)] at found
      obtain rfl := Option.some.inj found
      rw [List.lookup_cons_self]
      rfl
    · rw [List.find?_cons_of_neg (by simpa using same)] at found
      have differ : (node.id == first.id) = false := by
        rw [beq_eq_false_iff_ne]
        exact fun h => same h.symm
      rw [List.lookup_cons, differ]
      exact ih found

end AgentShield.Analysis
