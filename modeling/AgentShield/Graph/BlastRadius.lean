import AgentShield.Graph.Analysis
import AgentShield.Scenarios.Lifecycle

/-!
The blast radius of a world against what can still happen in it: every way a
compromise travels is an edge of the security graph.
-/
namespace AgentShield.Analysis
open Schema Keyed Engine GraphBuilder Scenarios TopologyBuilder

structure Keeps (id : String) (graph graph' : SecurityGraph) : Prop where
  node : graph'.nodes.get? id = graph.nodes.get? id
  edges : ∀ key, graph.edges.Has key → graph'.edges.Has key

theorem keeps_refl (id : String) (graph : SecurityGraph) : Keeps id graph graph :=
  ⟨rfl, fun _ has => has⟩

theorem keeps_trans {id : String} {graph graph' graph'' : SecurityGraph}
    (first : Keeps id graph graph') (second : Keeps id graph' graph'') : Keeps id graph graph'' :=
  ⟨second.node.trans first.node, fun key has => second.edges key (first.edges key has)⟩

theorem keeps_addNode {id : String} (graph : SecurityGraph) (node : GraphNode)
    (differ : id ≠ node.id) : Keeps id graph (graph.addNode node) := by
  constructor
  · unfold SecurityGraph.addNode
    rw [Table.get?_put, if_neg differ]
  · intro key has
    exact has

theorem keeps_addEdge (id : String) (graph : SecurityGraph) (edge : GraphEdge) :
    Keeps id graph (graph.addEdge edge) :=
  ⟨rfl, fun _ has => Table.has_put.mpr (Or.inr has)⟩

theorem keeps_foldl {α : Type} {id : String} {round : SecurityGraph → α → SecurityGraph}
    (items : List α) (each : ∀ graph, ∀ item ∈ items, Keeps id graph (round graph item))
    (graph : SecurityGraph) : Keeps id graph (items.foldl round graph) := by
  induction items generalizing graph with
  | nil => exact keeps_refl id graph
  | cons item rest ih =>
    apply keeps_trans (each graph item List.mem_cons_self)
    apply ih
    intro later other member
    exact each later other (List.mem_cons_of_mem item member)

theorem nodeId_ne {id : String} (letter : Char) (first : id.toList.head? = some letter)
    (other : letter ≠ 'a') (i : Nat) : nodeId i ≠ id := by
  intro same
  have agent : (nodeId i).toList.head? = some 'a' := by
    unfold nodeId
    rw [String.toList_append]
    rfl
  rw [same, first] at agent
  exact other (Option.some.inj agent)

theorem head_append {text rest : String} {letter : Char}
    (first : text.toList.head? = some letter) : (text ++ rest).toList.head? = some letter := by
  rw [String.toList_append, List.head?_append, first]
  rfl

theorem nodeId_ne_toolId (i j : Nat) : nodeId i ≠ toolId j :=
  nodeId_ne 't' (head_append rfl) (by decide) i

theorem nodeId_ne_resourceId (i j : Nat) : nodeId i ≠ resourceId j :=
  nodeId_ne 'r' (head_append rfl) (by decide) i

theorem nodeId_ne_credentialId (i j : Nat) : nodeId i ≠ credentialId j :=
  nodeId_ne 'c' (head_append rfl) (by decide) i

theorem nodeId_ne_sentinelId (i j : Nat) : nodeId i ≠ sentinelId j :=
  nodeId_ne 's' (head_append rfl) (by decide) i

theorem nodeId_ne_control (i : Nat) : ∀ control ∈ controls, nodeId i ≠ control.2 := by
  intro control member
  have first : control.2.toList.head? = some 'c' := by
    revert control
    decide
  exact nodeId_ne 'c' first (by decide) i

section
variable (rng : Rng) (config : ExperimentConfig) (agentIds : List String)
  (compromisedGraphNodes : Finset String) (i : Nat) (graph : SecurityGraph)

theorem keeps_attachTool (accessorsPerTool j : Nat) : Keeps (nodeId i) graph
    (attachTool rng config agentIds accessorsPerTool graph j) := by
  unfold attachTool
  refine keeps_trans ?_ (keeps_foldl _ ?_ _)
  · exact keeps_addNode graph _ (nodeId_ne_toolId i j)
  · intro graph agentId _
    exact keeps_addEdge _ graph _

theorem keeps_attachTools : Keeps (nodeId i) graph (attachTools rng graph agentIds config) := by
  unfold attachTools
  split
  · exact keeps_refl _ graph
  · apply keeps_foldl
    intro graph j _
    exact keeps_attachTool rng config agentIds i graph _ j

theorem keeps_attachCredential (j : Nat) : Keeps (nodeId i) graph
    (attachCredential rng config agentIds compromisedGraphNodes graph j) := by
  have added := fun credential edge (differ : nodeId i ≠ GraphNode.id credential) =>
    keeps_trans (keeps_addNode graph credential differ) (keeps_addEdge _ _ edge)
  unfold attachCredential
  dsimp only
  split
  · exact keeps_trans (added _ _ (nodeId_ne_credentialId i j)) (keeps_addEdge _ _ _)
  · exact added _ _ (nodeId_ne_credentialId i j)

theorem keeps_attachCredentialsAndResources : Keeps (nodeId i) graph
    (attachCredentialsAndResources rng graph agentIds config compromisedGraphNodes) := by
  unfold attachCredentialsAndResources
  split
  · exact keeps_refl _ graph
  · refine keeps_trans (keeps_foldl _ ?_ graph) (keeps_foldl _ ?_ _)
    · intro graph j _
      exact keeps_addNode graph _ (nodeId_ne_resourceId i j)
    · intro graph j _
      exact keeps_attachCredential rng config agentIds compromisedGraphNodes i graph j

theorem keeps_attachSentinel (j : Nat) :
    Keeps (nodeId i) graph (attachSentinel compromisedGraphNodes graph j) := by
  unfold attachSentinel
  refine keeps_trans (keeps_trans ?_ (keeps_addEdge _ _ _)) (keeps_addEdge _ _ _)
  exact keeps_addNode graph _ (nodeId_ne_sentinelId i j)

theorem keeps_attachSecurityPlane : Keeps (nodeId i) graph
    (attachSecurityPlane graph agentIds config compromisedGraphNodes) := by
  unfold attachSecurityPlane
  split
  · exact keeps_refl _ graph
  · refine keeps_trans (keeps_trans (keeps_trans ?_ (keeps_foldl _ ?_ _)) (keeps_foldl _ ?_ _))
      (keeps_foldl _ ?_ _)
    · apply keeps_foldl
      intro graph control member
      exact keeps_addNode graph _ (nodeId_ne_control i control member)
    · intro graph agentId _
      exact keeps_addEdge _ graph _
    · intro graph j _
      exact keeps_attachSentinel compromisedGraphNodes i graph j
    · intro graph entry _
      exact keeps_addEdge _ graph _

end

def AgentsNamed (state : WorldState) : Prop := ∀ node ∈ state.nodes.values, ∃ i, node.id = nodeId i

theorem agents_added {state : WorldState} {node : AgentNode} (member : node ∈ state.nodes.values) :
    ∃ added, ((sortedById state.nodes.values).foldl addAgent .empty).nodes.get? node.id =
      some added ∧ added.securityState = node.securityState := by
  have whole : ∀ (nodes : List AgentNode) (graph : SecurityGraph),
      (∀ other ∈ nodes, other ∈ state.nodes.values) →
      (node ∈ nodes ∨ ∃ added, graph.nodes.get? node.id = some added ∧
        added.securityState = node.securityState) →
      ∃ added, (nodes.foldl addAgent graph).nodes.get? node.id = some added ∧
        added.securityState = node.securityState := by
    intro nodes
    induction nodes with
    | nil =>
      rintro graph _ (never | already)
      · cases never
      · exact already
    | cons first rest ih =>
      intro graph known where_
      apply ih _ fun other later => known other (List.mem_cons_of_mem first later)
      by_cases same : node.id = first.id
      · obtain rfl := same_node member (known first List.mem_cons_self) same
        right
        unfold addAgent SecurityGraph.addNode
        simp only [Table.get?_put, ↓reduceIte]
        exact ⟨_, rfl, rfl⟩
      · rcases where_ with listed | ⟨added, found, state_⟩
        · rcases List.mem_cons.mp listed with rfl | later
          · exact absurd rfl same
          · exact Or.inl later
        · right
          refine ⟨added, ?_, state_⟩
          unfold addAgent SecurityGraph.addNode
          rw [Table.get?_put, if_neg same]
          exact found
  apply whole
  · intro other listed
    exact mem_sortedById.mp listed
  · exact Or.inl (mem_sortedById.mpr member)

theorem keeps_addLink (id : String) (graph : SecurityGraph) (link : String × String) :
    Keeps id graph (addLink graph link) := by
  unfold addLink
  refine keeps_trans (keeps_trans (keeps_trans ?_ (keeps_addEdge _ _ _)) (keeps_addEdge _ _ _))
    (keeps_addEdge _ _ _)
  exact keeps_addEdge id graph _

theorem links_added (id : String) {links : List (String × String)} {link : String × String}
    (member : link ∈ links) (graph : SecurityGraph) :
    (links.foldl addLink graph).edges.Has (link.1, link.2, .communicatesWith) ∧
      (links.foldl addLink graph).edges.Has (link.2, link.1, .communicatesWith) := by
  induction links generalizing graph with
  | nil => cases member
  | cons first rest ih =>
    rcases List.mem_cons.mp member with rfl | later
    · have kept : Keeps id (addLink graph link) (rest.foldl addLink (addLink graph link)) :=
        keeps_foldl rest (fun graph other _ => keeps_addLink id graph other) _
      constructor
      · apply kept.edges
        unfold addLink SecurityGraph.addEdge
        simp [Table.has_put, GraphEdge.key]
      · apply kept.edges
        unfold addLink SecurityGraph.addEdge
        simp [Table.has_put, GraphEdge.key]
    · exact ih later _

section
variable (rng : Rng) (state : WorldState) (config : ExperimentConfig)

theorem build_keeps (i : Nat) :
    Keeps (nodeId i) ((sortedById state.nodes.values).foldl addAgent .empty)
      (buildSecurityGraph rng state config) ∧
    Keeps (nodeId i) (state.edges.foldl addLink
      ((sortedById state.nodes.values).foldl addAgent .empty))
      (buildSecurityGraph rng state config) := by
  have plane : Keeps (nodeId i) (state.edges.foldl addLink
      ((sortedById state.nodes.values).foldl addAgent .empty))
      (buildSecurityGraph rng state config) := by
    unfold buildSecurityGraph
    refine keeps_trans (keeps_trans ?_ (keeps_attachCredentialsAndResources rng config _ _ i _))
      (keeps_attachSecurityPlane config _ _ i _)
    exact keeps_attachTools rng config _ i _
  constructor
  · apply keeps_trans _ plane
    apply keeps_foldl
    intro graph link _
    exact keeps_addLink _ graph link
  · exact plane

variable {rng} {state} {config}

theorem compromised_in_graph (named : AgentsNamed state) {node : AgentNode}
    (member : node ∈ state.nodes.values) (compromised : node.securityState = .compromised) :
    node.id ∈ compromisedIds (buildSecurityGraph rng state config) := by
  obtain ⟨i, name⟩ := named node member
  obtain ⟨added, found, state_⟩ := agents_added member
  have kept := (build_keeps rng state config i).1.node
  rw [← name, found] at kept
  exact mem_compromisedIds.mpr ⟨added, Table.get?_member kept, Table.get?_key kept,
    state_.trans compromised⟩

theorem link_in_graph {source target : String} (linked : (source, target) ∈ state.edges ∨
    (target, source) ∈ state.edges) :
    Reach.Edge (subgraphView (buildSecurityGraph rng state config) propagationEdgeTypes)
      source target := by
  have kept := (build_keeps rng state config 0).2.edges
  have has : (buildSecurityGraph rng state config).edges.Has
      (source, target, .communicatesWith) := by
    rcases linked with forth | back
    · exact kept _ (links_added (nodeId 0) forth _).1
    · exact kept _ (links_added (nodeId 0) back _).2
  obtain ⟨edge, member, same⟩ := List.mem_map.mp has
  unfold GraphEdge.key at same
  obtain ⟨from_, into⟩ := Prod.mk.inj same
  obtain ⟨into, type⟩ := Prod.mk.inj into
  apply List.mem_map.mpr
  refine ⟨edge, List.mem_filter.mpr ⟨member, ?_⟩, ?_⟩
  · rw [type]
    decide
  · rw [from_, into]

end

def HitSince (state : WorldState) (node' : AgentNode) : Prop :=
  node'.securityState = .compromised ∨ node'.tickCompromised ≠ none ∧
    ∀ node ∈ state.nodes.values, node.id = node'.id → node.tickCompromised = none

structure Inside (rng : Rng) (config : ExperimentConfig) (state state' : WorldState) : Prop where
  edges : state'.edges = state.edges
  mesh : Mesh state'
  hit : ∀ node' ∈ state'.nodes.values, HitSince state node' →
    node'.id ∈ blastRadius (buildSecurityGraph rng state config)

theorem inside_start {rng : Rng} {config : ExperimentConfig} {state : WorldState}
    (mesh : Mesh state) (named : AgentsNamed state) : Inside rng config state state := by
  refine ⟨rfl, mesh, ?_⟩
  intro node member hit
  rcases hit with compromised | ⟨marked, before⟩
  · exact mem_blastRadius.mpr ⟨node.id, compromised_in_graph named member compromised, .refl⟩
  · exact absurd (before node member rfl) marked

theorem effect_inside {rng : Rng} {config config' : ExperimentConfig}
    {state state' state'' : WorldState} {drafts : List EventDraft}
    (inside : Inside rng config state state')
    (effect : Effect config' state' drafts state'') : Inside rng config state state'' := by
  obtain ⟨change, evolves⟩ := effect_evolves effect
  refine ⟨evolves.edges.trans inside.edges,
    effects_mesh inside.mesh (effects_single effect), ?_⟩
  intro node'' member'' hit
  obtain ⟨node', member', step⟩ := evolves_step evolves member''
  cases step with
  | same => exact inside.hit node'' member' hit
  | quarantined going =>
    apply inside.hit node' member'
    rcases hit with compromised | since
    · cases compromised
    · exact Or.inr since
  | @compromised source healthy present attacking linked =>
    -- One more edge, from a source that is inside already.
    obtain ⟨start, known, path⟩ := mem_blastRadius.mp
      (inside.hit source present (Or.inl attacking))
    apply mem_blastRadius.mpr
    refine ⟨start, known, path.tail ?_⟩
    apply link_in_graph
    rw [← inside.edges]
    exact inside.mesh source present node'.id linked

theorem effects_inside {rng : Rng} {config config' : ExperimentConfig}
    {state state' : WorldState} {drafts : List EventDraft} (mesh : Mesh state)
    (named : AgentsNamed state) (effects : Effects config' state drafts state') :
    Inside rng config state state' :=
  effects_keep effect_inside (inside_start mesh named) effects

end AgentShield.Analysis
