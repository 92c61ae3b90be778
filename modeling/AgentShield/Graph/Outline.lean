import Mathlib.Data.List.Sort
import AgentShield.Graph.Builder

/-!
What of the security graph does not depend on the states of its nodes: their ids and
types, and all edges.
-/
namespace AgentShield.GraphBuilder
open Schema Keyed Engine

def GraphNode.outline (node : GraphNode) : String × NodeType := (node.id, node.nodeType)

structure Alike (graph graph' : SecurityGraph) : Prop where
  nodes : graph'.nodes.values.map GraphNode.outline = graph.nodes.values.map GraphNode.outline
  edges : graph'.edges = graph.edges

theorem alike_addNode {graph graph' : SecurityGraph} (alike : Alike graph graph')
    {node node' : GraphNode} (same : node'.outline = node.outline) :
    Alike (graph.addNode node) (graph'.addNode node') := by
  have put : ∀ (graph : SecurityGraph) (node : GraphNode),
      (graph.addNode node).nodes.values.map GraphNode.outline =
        replaceOrAppend Prod.fst node.outline (graph.nodes.values.map GraphNode.outline) := by
    intro graph node
    have keeps : ∀ node : GraphNode, node.outline.1 = node.id := fun _ => rfl
    exact replaceOrAppend_map keeps node graph.nodes.values
  constructor
  · rw [put, put, alike.nodes, same]
  · exact alike.edges

theorem alike_addEdge {graph graph' : SecurityGraph} (alike : Alike graph graph')
    (edge : GraphEdge) : Alike (graph.addEdge edge) (graph'.addEdge edge) := by
  constructor
  · exact alike.nodes
  · unfold SecurityGraph.addEdge
    rw [alike.edges]

theorem alike_foldl {α : Type} {round round' : SecurityGraph → α → SecurityGraph}
    (each : ∀ graph graph' item, Alike graph graph' → Alike (round graph item) (round' graph' item))
    (items : List α) {graph graph' : SecurityGraph} (alike : Alike graph graph') :
    Alike (items.foldl round graph) (items.foldl round' graph') := by
  induction items generalizing graph graph' with
  | nil => exact alike
  | cons item rest ih => exact ih (each graph graph' item alike)

theorem alike_agents {nodes nodes' : List AgentNode}
    (ids : nodes'.map AgentNode.id = nodes.map AgentNode.id) {graph graph' : SecurityGraph}
    (alike : Alike graph graph') :
    Alike (nodes.foldl addAgent graph) (nodes'.foldl addAgent graph') := by
  induction nodes generalizing nodes' graph graph' with
  | nil =>
    obtain rfl := List.map_eq_nil_iff.mp ids
    exact alike
  | cons node rest ih =>
    cases nodes' with
    | nil => cases ids
    | cons node' rest' =>
      obtain ⟨same, later⟩ := List.cons.inj ids
      apply ih later
      unfold addAgent
      apply alike_addNode alike
      exact congrArg (fun id => (id, NodeType.agent)) same

section
variable {rng : Rng} {config : ExperimentConfig} {agentIds : List String}
  {graph graph' : SecurityGraph}

theorem alike_addLink (alike : Alike graph graph') (link : String × String) :
    Alike (addLink graph link) (addLink graph' link) :=
  alike_addEdge (alike_addEdge (alike_addEdge (alike_addEdge alike _) _) _) _

theorem alike_attachTools (alike : Alike graph graph') :
    Alike (attachTools rng graph agentIds config) (attachTools rng graph' agentIds config) := by
  unfold attachTools
  split
  · exact alike
  · apply alike_foldl _ _ alike
    intro graph graph' i alike
    apply alike_foldl _ _ (alike_addNode alike rfl)
    intro graph graph' agentId alike
    exact alike_addEdge alike _

theorem alike_attachCredentialsAndResources (alike : Alike graph graph')
    (compromised compromised' : Finset String) :
    Alike (attachCredentialsAndResources rng graph agentIds config compromised)
      (attachCredentialsAndResources rng graph' agentIds config compromised') := by
  unfold attachCredentialsAndResources
  split
  · exact alike
  · apply alike_foldl
    · intro graph graph' i alike
      unfold attachCredential
      dsimp only
      split
      · refine alike_addEdge (alike_addEdge (alike_addNode alike ?_) _) _
        rfl
      · refine alike_addEdge (alike_addNode alike ?_) _
        rfl
    · apply alike_foldl _ _ alike
      intro graph graph' i alike
      exact alike_addNode alike rfl

theorem alike_attachSecurityPlane (alike : Alike graph graph')
    (compromised compromised' : Finset String) :
    Alike (attachSecurityPlane graph agentIds config compromised)
      (attachSecurityPlane graph' agentIds config compromised') := by
  unfold attachSecurityPlane
  split
  · exact alike
  · apply alike_foldl
    · intro graph graph' entry alike
      exact alike_addEdge alike _
    · apply alike_foldl
      · intro graph graph' i alike
        refine alike_addEdge (alike_addEdge (alike_addNode alike ?_) _) _
        rfl
      · apply alike_foldl
        · intro graph graph' agentId alike
          exact alike_addEdge alike _
        · apply alike_foldl _ _ alike
          intro graph graph' control alike
          exact alike_addNode alike rfl

end

theorem sortedById_ids (nodes : List AgentNode) :
    (sortedById nodes).map AgentNode.id = sorted (nodes.map AgentNode.id) := by
  unfold sortedById sorted
  apply List.map_insertionSort
  intro a _ b _
  exact Iff.rfl

theorem build_alike (rng : Rng) (config : ExperimentConfig) {state state' : WorldState}
    (keys : state'.nodes.keys = state.nodes.keys) (edges : state'.edges = state.edges) :
    Alike (buildSecurityGraph rng state config) (buildSecurityGraph rng state' config) := by
  have ids : (sortedById state'.nodes.values).map AgentNode.id =
      (sortedById state.nodes.values).map AgentNode.id := by
    rw [sortedById_ids, sortedById_ids]
    exact congrArg sorted keys
  have agents : Alike ((sortedById state.nodes.values).foldl addAgent .empty)
      ((sortedById state'.nodes.values).foldl addAgent .empty) := alike_agents ids ⟨rfl, rfl⟩
  unfold buildSecurityGraph
  dsimp only
  rw [keys, edges]
  apply alike_attachSecurityPlane
  apply alike_attachCredentialsAndResources
  apply alike_attachTools
  apply alike_foldl _ _ agents
  intro graph graph' link alike
  exact alike_addLink alike link

/-- The sentinels are the same. -/
theorem alike_sentinel {graph graph' : SecurityGraph} (alike : Alike graph graph') {id : String}
    (sentinel : ∃ node ∈ graph.nodesOfType .sentinel, node.id = id) :
    ∃ node ∈ graph'.nodesOfType .sentinel, node.id = id := by
  obtain ⟨node, member, rfl⟩ := sentinel
  obtain ⟨present, type⟩ := List.mem_filter.mp member
  have outlined : node.outline ∈ graph'.nodes.values.map GraphNode.outline := by
    rw [alike.nodes]
    exact List.mem_map_of_mem present
  obtain ⟨node', present', same⟩ := List.mem_map.mp outlined
  obtain ⟨id, kind⟩ := Prod.mk.inj same
  refine ⟨node', List.mem_filter.mpr ⟨present', ?_⟩, id⟩
  rw [kind]
  exact type

end AgentShield.GraphBuilder
