import AgentShield.Graph.BlastRadius

/-!
What is in the security graph of a world: its nodes by their origin, and every edge along
which a compromise travels.
-/
namespace AgentShield.Analysis
open Schema Keyed Engine GraphBuilder Scenarios TopologyBuilder

theorem has_addEdge {graph : SecurityGraph} {edge : GraphEdge}
    {key : String × String × EdgeType} :
    (graph.addEdge edge).edges.Has key ↔ graph.edges.Has key ∨ key = edge.key := by
  unfold SecurityGraph.addEdge
  rw [Table.has_put, or_comm]

theorem foldl_adds {α β : Type} {Q : β → Prop} {p : α → Prop} {round : β → α → β}
    {items : List α} (each : ∀ acc, ∀ item ∈ items, Q (round acc item) ↔ Q acc ∨ p item)
    (acc : β) : Q (items.foldl round acc) ↔ Q acc ∨ ∃ item ∈ items, p item := by
  induction items generalizing acc with
  | nil => simp
  | cons item rest ih =>
    rw [List.foldl_cons, ih fun acc other later => each acc other (List.mem_cons_of_mem _ later),
      each acc item List.mem_cons_self, or_assoc, List.exists_mem_cons_iff]

theorem has_foldl {α : Type} {key : String × String × EdgeType} {p : α → Prop}
    {round : SecurityGraph → α → SecurityGraph} {items : List α}
    (each : ∀ graph, ∀ item ∈ items,
      (round graph item).edges.Has key ↔ graph.edges.Has key ∨ p item)
    (graph : SecurityGraph) :
    (items.foldl round graph).edges.Has key ↔
      graph.edges.Has key ∨ ∃ item ∈ items, p item :=
  foldl_adds (Q := fun graph : SecurityGraph => graph.edges.Has key) each graph

theorem has_foldl_none {α : Type} {key : String × String × EdgeType}
    {round : SecurityGraph → α → SecurityGraph} {items : List α}
    (each : ∀ graph, ∀ item ∈ items, (round graph item).edges.Has key ↔ graph.edges.Has key)
    (graph : SecurityGraph) :
    (items.foldl round graph).edges.Has key ↔ graph.edges.Has key := by
  rw [has_foldl (p := fun _ => False) (fun graph item member => by
    rw [each graph item member, or_false])]
  simp

section
variable {rng : Rng} {config : ExperimentConfig} {agentIds : List String}
  {compromisedGraphNodes : Finset String} {graph : SecurityGraph}
  {source target : String} {edgeType : EdgeType}

def accessors (rng : Rng) (config : ExperimentConfig) (agentIds : List String) (i : Nat) :
    List String :=
  (rng config.seed 0 (toolId i) "tool_access").sample agentIds
    (min agentIds.length (max 1 (agentIds.length / config.toolCount.val)))

def holder (rng : Rng) (config : ExperimentConfig) (agentIds : List String) (i : Nat) : String :=
  (rng config.seed 0 (credentialId i) "credential_holder").choice agentIds

theorem agents_edges (nodes : List AgentNode) {key : String × String × EdgeType} :
    ¬ (nodes.foldl addAgent .empty).edges.Has key := by
  have added : ∀ graph, ∀ node ∈ nodes, (addAgent graph node).edges.Has key ↔
      graph.edges.Has key := fun _ _ _ => Iff.rfl
  rw [has_foldl_none added]
  exact List.not_mem_nil

theorem addLink_edges (graph : SecurityGraph) (link : String × String)
    (untrusted : edgeType ≠ .trusts) :
    (addLink graph link).edges.Has (source, target, edgeType) ↔
      graph.edges.Has (source, target, edgeType) ∨ edgeType = .communicatesWith ∧
        (link = (source, target) ∨ link = (target, source)) := by
  unfold addLink
  simp only [has_addEdge, GraphEdge.key, Prod.mk.injEq, untrusted, and_false, or_false, or_assoc]
  constructor
  · rintro (before | ⟨rfl, rfl, rfl⟩ | ⟨rfl, rfl, rfl⟩)
    · exact Or.inl before
    · exact Or.inr ⟨rfl, Or.inl rfl⟩
    · exact Or.inr ⟨rfl, Or.inr rfl⟩
  · rintro (before | ⟨rfl, rfl | rfl⟩)
    · exact Or.inl before
    · exact Or.inr (Or.inl ⟨rfl, rfl, rfl⟩)
    · exact Or.inr (Or.inr ⟨rfl, rfl, rfl⟩)

theorem propagates_untrusted (propagates : edgeType ∈ propagationEdgeTypes) :
    edgeType ≠ .trusts := by
  rintro rfl
  revert propagates
  decide

def Linked (links : List (String × String)) (source target : String) : Prop :=
  (source, target) ∈ links ∨ (target, source) ∈ links

theorem links_edges (links : List (String × String)) (graph : SecurityGraph)
    (propagates : edgeType ∈ propagationEdgeTypes) :
    (links.foldl addLink graph).edges.Has (source, target, edgeType) ↔
      graph.edges.Has (source, target, edgeType) ∨ edgeType = .communicatesWith ∧
        Linked links source target := by
  rw [has_foldl fun graph link _ => addLink_edges graph link (propagates_untrusted propagates)]
  apply or_congr_right
  constructor
  · rintro ⟨link, member, type, rfl | rfl⟩
    · exact ⟨type, Or.inl member⟩
    · exact ⟨type, Or.inr member⟩
  · rintro ⟨type, forth | back⟩
    · exact ⟨_, forth, type, Or.inl rfl⟩
    · exact ⟨_, back, type, Or.inr rfl⟩

theorem attachTool_edges (graph : SecurityGraph) (i : Nat) {key : String × String × EdgeType} :
    (attachTool rng config agentIds (max 1 (agentIds.length / config.toolCount.val)) graph
        i).edges.Has key ↔
      graph.edges.Has key ∨ ∃ agentId ∈ accessors rng config agentIds i,
        key = (agentId, toolId i, .canAccess) := by
  unfold attachTool
  dsimp only
  rw [has_foldl (p := fun agentId => key = (agentId, toolId i, .canAccess))
    fun graph agentId _ => has_addEdge]
  simp only [mem_sorted]
  rfl

theorem attachTools_edges (inhabited : agentIds ≠ []) (graph : SecurityGraph)
    {key : String × String × EdgeType} :
    (attachTools rng graph agentIds config).edges.Has key ↔
      graph.edges.Has key ∨ ∃ i < config.toolCount.val,
        ∃ agentId ∈ accessors rng config agentIds i, key = (agentId, toolId i, .canAccess) := by
  unfold attachTools
  split
  · rename_i none_
    rcases none_ with zero | empty
    · simp [zero]
    · exact absurd empty inhabited
  · dsimp only
    rw [has_foldl fun graph i _ => attachTool_edges graph i]
    simp only [List.mem_range]

def CredentialEdge (rng : Rng) (config : ExperimentConfig) (agentIds : List String) (i : Nat)
    (key : String × String × EdgeType) : Prop :=
  key = (holder rng config agentIds i, credentialId i, .usesCredential) ∨
    0 < config.resourceCount.val ∧
      key = (credentialId i, resourceId (i % config.resourceCount.val), .canAccess)

theorem attachCredential_edges (graph : SecurityGraph) (i : Nat)
    {key : String × String × EdgeType} :
    (attachCredential rng config agentIds compromisedGraphNodes graph i).edges.Has key ↔
      graph.edges.Has key ∨ CredentialEdge rng config agentIds i key := by
  unfold attachCredential CredentialEdge
  dsimp only
  split
  · rename_i some_
    rw [has_addEdge, has_addEdge, or_assoc]
    simp only [some_, true_and]
    rfl
  · rename_i none_
    rw [has_addEdge]
    simp only [none_, false_and, or_false]
    rfl

theorem attachCredentials_edges (inhabited : agentIds ≠ []) (graph : SecurityGraph)
    {key : String × String × EdgeType} :
    (attachCredentialsAndResources rng graph agentIds config compromisedGraphNodes).edges.Has
        key ↔
      graph.edges.Has key ∨ ∃ i < config.credentialCount.val,
        CredentialEdge rng config agentIds i key := by
  unfold attachCredentialsAndResources
  rw [if_neg inhabited]
  dsimp only
  rw [has_foldl fun graph i _ => attachCredential_edges graph i]
  simp only [List.mem_range]
  apply or_congr_left
  apply has_foldl_none
  exact fun _ _ _ => Iff.rfl

theorem attachPlane_edges (graph : SecurityGraph)
    (propagates : edgeType ∈ propagationEdgeTypes) :
    (attachSecurityPlane graph agentIds config compromisedGraphNodes).edges.Has
        (source, target, edgeType) ↔ graph.edges.Has (source, target, edgeType) := by
  have apart : edgeType ≠ .quarantineAuthority ∧ edgeType ≠ .updatesThreatMemory ∧
      edgeType ≠ .monitors := by
    revert propagates
    cases edgeType <;> decide
  unfold attachSecurityPlane
  split
  · rfl
  · dsimp only
    rw [has_foldl_none, has_foldl_none, has_foldl_none, has_foldl_none]
    · exact fun _ _ _ => Iff.rfl
    · simp [has_addEdge, GraphEdge.key, apart]
    · intro graph i _
      unfold attachSentinel
      simp only [has_addEdge, GraphEdge.key, Prod.mk.injEq, apart, and_false, or_false]
      rfl
    · intro graph entry _
      unfold attachMonitor
      simp [has_addEdge, GraphEdge.key, apart]

end

/-- Every way in which a compromise travels. -/
inductive Carries (rng : Rng) (state : WorldState) (config : ExperimentConfig) :
    String → String → Prop where
  | link {source target : String} (linked : Linked state.edges source target) :
      Carries rng state config source target
  | tool {source : String} {i : Nat} (below : i < config.toolCount.val)
      (accesses : source ∈ accessors rng config (sorted state.nodes.keys) i) :
      Carries rng state config source (toolId i)
  | credential {i : Nat} (below : i < config.credentialCount.val) :
      Carries rng state config (holder rng config (sorted state.nodes.keys) i) (credentialId i)
  | resource {i : Nat} (below : i < config.credentialCount.val)
      (some_ : 0 < config.resourceCount.val) :
      Carries rng state config (credentialId i) (resourceId (i % config.resourceCount.val))

section
variable {rng : Rng} {state : WorldState} {config : ExperimentConfig}

theorem build_edges (inhabited : sorted state.nodes.keys ≠ []) {source target : String}
    {edgeType : EdgeType} (propagates : edgeType ∈ propagationEdgeTypes) :
    (buildSecurityGraph rng state config).edges.Has (source, target, edgeType) ↔
      (edgeType = .communicatesWith ∧ Linked state.edges source target ∨
        ∃ i < config.toolCount.val,
          ∃ agentId ∈ accessors rng config (sorted state.nodes.keys) i,
            (source, target, edgeType) = (agentId, toolId i, .canAccess)) ∨
      ∃ i < config.credentialCount.val, CredentialEdge rng config (sorted state.nodes.keys) i
        (source, target, edgeType) := by
  unfold buildSecurityGraph
  dsimp only
  rw [attachPlane_edges _ propagates, attachCredentials_edges inhabited,
    attachTools_edges inhabited, links_edges _ _ propagates]
  simp only [agents_edges, false_or]

theorem view_edge {graph : SecurityGraph} {source target : String} :
    Reach.Edge (subgraphView graph propagationEdgeTypes) source target ↔
      ∃ edgeType ∈ propagationEdgeTypes, graph.edges.Has (source, target, edgeType) := by
  unfold Reach.Edge subgraphView
  simp only [List.mem_map, List.mem_filter, decide_eq_true_eq, Prod.mk.injEq]
  constructor
  · rintro ⟨edge, ⟨member, type⟩, rfl, rfl⟩
    exact ⟨edge.edgeType, type, List.mem_map.mpr ⟨edge, member, rfl⟩⟩
  · rintro ⟨edgeType, type, has⟩
    obtain ⟨edge, member, same⟩ := List.mem_map.mp has
    simp only [GraphEdge.key, Prod.mk.injEq] at same
    obtain ⟨rfl, rfl, rfl⟩ := same
    exact ⟨edge, ⟨member, type⟩, rfl, rfl⟩

theorem edge_iff_carries (inhabited : sorted state.nodes.keys ≠ []) {source target : String} :
    Reach.Edge (subgraphView (buildSecurityGraph rng state config) propagationEdgeTypes)
      source target ↔ Carries rng state config source target := by
  rw [view_edge]
  constructor
  · rintro ⟨edgeType, propagates, has⟩
    rcases (build_edges inhabited propagates).mp has with
      (⟨_, linked⟩ | ⟨i, below, agentId, accesses, same⟩) | ⟨i, below, same | ⟨some_, same⟩⟩
    · exact .link linked
    · simp only [Prod.mk.injEq] at same
      obtain ⟨rfl, rfl, _⟩ := same
      exact .tool below accesses
    · simp only [Prod.mk.injEq] at same
      obtain ⟨rfl, rfl, _⟩ := same
      exact .credential below
    · simp only [Prod.mk.injEq] at same
      obtain ⟨rfl, rfl, _⟩ := same
      exact .resource below some_
  · intro carries
    cases carries with
    | link linked =>
      have propagates : EdgeType.communicatesWith ∈ propagationEdgeTypes := by decide
      exact ⟨_, propagates, (build_edges inhabited propagates).mpr (Or.inl (Or.inl ⟨rfl, linked⟩))⟩
    | tool below accesses =>
      have propagates : EdgeType.canAccess ∈ propagationEdgeTypes := by decide
      exact ⟨_, propagates, (build_edges inhabited propagates).mpr
        (Or.inl (Or.inr ⟨_, below, _, accesses, rfl⟩))⟩
    | credential below =>
      have propagates : EdgeType.usesCredential ∈ propagationEdgeTypes := by decide
      exact ⟨_, propagates, (build_edges inhabited propagates).mpr
        (Or.inr ⟨_, below, Or.inl rfl⟩)⟩
    | resource below some_ =>
      have propagates : EdgeType.canAccess ∈ propagationEdgeTypes := by decide
      exact ⟨_, propagates, (build_edges inhabited propagates).mpr
        (Or.inr ⟨_, below, Or.inr ⟨some_, rfl⟩⟩)⟩

end

def securityIds (config : ExperimentConfig) : List String :=
  (List.range config.credentialCount.val).map credentialId ++
    if config.sentinelCount.val = 0 then []
    else controls.map Prod.snd ++ (List.range config.sentinelCount.val).map sentinelId

inductive Origin (state : WorldState) (config : ExperimentConfig) (node : GraphNode) : Prop where
  | agent (agent : AgentNode) (member : agent ∈ state.nodes.values) (same : node.id = agent.id)
      (type : node.nodeType = .agent) (unchanged : node.securityState = agent.securityState)
  | asset (i : Nat) (id : node.id = toolId i ∨ node.id = resourceId i)
      (type : node.nodeType ≠ .agent) (healthy : node.securityState = .healthy)
  | security (member : node.id ∈ securityIds config) (type : node.nodeType ≠ .agent)
      (kept : node.securityState = stateFor node.id state.compromisedGraphNodes)

section
variable {P : GraphNode → Prop}

def All (P : GraphNode → Prop) (graph : SecurityGraph) : Prop := ∀ node ∈ graph.nodes.values, P node

theorem all_addNode {graph : SecurityGraph} {node : GraphNode} (all : All P graph)
    (holds : P node) : All P (graph.addNode node) := by
  intro other member
  rcases Table.put_member member with rfl | ⟨old, _⟩
  · exact holds
  · exact all other old

theorem all_foldl {α : Type} {round : SecurityGraph → α → SecurityGraph} {items : List α}
    (each : ∀ graph, ∀ item ∈ items, All P graph → All P (round graph item))
    {graph : SecurityGraph} (all : All P graph) : All P (items.foldl round graph) :=
  List.foldlRecOn items round all fun graph all item member => each graph item member all

theorem edges_foldl_nodes {α : Type} {edge : α → GraphEdge} (items : List α)
    (graph : SecurityGraph) :
    (items.foldl (fun graph item => graph.addEdge (edge item)) graph).nodes = graph.nodes := by
  induction items generalizing graph with
  | nil => rfl
  | cons item rest ih => exact ih _

end

section
variable {rng : Rng} {state : WorldState} {config : ExperimentConfig} {graph : SecurityGraph}

theorem agents_origin :
    All (Origin state config) ((sortedById state.nodes.values).foldl addAgent .empty) := by
  apply all_foldl
  · intro graph agent member all
    exact all_addNode all (.agent agent (mem_sortedById.mp member) rfl rfl rfl)
  · exact List.forall_mem_nil _

theorem links_origin (links : List (String × String)) (all : All (Origin state config) graph) :
    All (Origin state config) (links.foldl addLink graph) := by
  refine all_foldl ?_ all
  exact fun _ _ _ all => all

theorem tools_origin {agentIds : List String} (all : All (Origin state config) graph) :
    All (Origin state config) (attachTools rng graph agentIds config) := by
  unfold attachTools
  split
  · exact all
  · apply all_foldl _ all
    intro graph i _ all
    have tool : Origin state config { id := toolId i, nodeType := .tool } :=
      .asset i (Or.inl rfl) (by simp) rfl
    unfold attachTool All
    dsimp only
    rw [edges_foldl_nodes]
    exact all_addNode all tool

theorem credentials_origin {agentIds : List String} (all : All (Origin state config) graph) :
    All (Origin state config) (attachCredentialsAndResources rng graph agentIds config
      state.compromisedGraphNodes) := by
  unfold attachCredentialsAndResources
  split
  · exact all
  · apply all_foldl
    · intro graph i below all
      have listed : credentialId i ∈ securityIds config :=
        List.mem_append_left _ (List.mem_map_of_mem below)
      have credential : Origin state config
          { id := credentialId i, nodeType := .credential
            securityState := stateFor (credentialId i) state.compromisedGraphNodes } :=
        .security listed (by simp) rfl
      unfold attachCredential
      dsimp only
      split
      · exact all_addNode all credential
      · exact all_addNode all credential
    · apply all_foldl _ all
      intro graph i _ all
      exact all_addNode all (.asset i (Or.inr rfl) (by simp) rfl)

theorem plane_origin {agentIds : List String} (all : All (Origin state config) graph) :
    All (Origin state config) (attachSecurityPlane graph agentIds config
      state.compromisedGraphNodes) := by
  unfold attachSecurityPlane
  split
  · exact all
  · rename_i some_
    have sentinels : config.sentinelCount.val ≠ 0 := fun zero => some_ (Or.inl zero)
    have plane : ∀ id ∈ controls.map Prod.snd ++
        (List.range config.sentinelCount.val).map sentinelId, id ∈ securityIds config := by
      intro id member
      unfold securityIds
      rw [if_neg sentinels]
      exact List.mem_append_right _ member
    dsimp only
    refine all_foldl ?_ (all_foldl ?_ (all_foldl ?_ (all_foldl ?_ all)))
    · exact fun _ _ _ all => all
    · intro graph i below all
      refine all_addNode all (.security (plane _ ?_) (by simp) rfl)
      exact List.mem_append_right _ (List.mem_map_of_mem below)
    · exact fun _ _ _ all => all
    · intro graph control member all
      refine all_addNode all (.security (plane _ ?_) (by simp) rfl)
      exact List.mem_append_left _ (List.mem_map_of_mem member)

/-- Every node is an agent of the world, a tool or a resource, or keeps a state of its own. -/
theorem build_origin : All (Origin state config) (buildSecurityGraph rng state config) :=
  plane_origin (credentials_origin (tools_origin (links_origin _ agents_origin)))

theorem present_foldl {α : Type} {id : String} {p : α → Prop}
    {round : SecurityGraph → α → SecurityGraph} {items : List α}
    (each : ∀ graph, ∀ item ∈ items,
      (round graph item).nodes.Has id ↔ graph.nodes.Has id ∨ p item)
    (graph : SecurityGraph) :
    (items.foldl round graph).nodes.Has id ↔ graph.nodes.Has id ∨ ∃ item ∈ items, p item :=
  foldl_adds (Q := fun graph : SecurityGraph => graph.nodes.Has id) each graph

theorem present_addNode {graph : SecurityGraph} {node : GraphNode} {id : String} :
    (graph.addNode node).nodes.Has id ↔ graph.nodes.Has id ∨ id = node.id := by
  unfold SecurityGraph.addNode
  rw [Table.has_put, or_comm]

theorem credentials_present {agentIds : List String} {id : String} (inhabited : agentIds ≠ [])
    (listed : id ∈ (List.range config.credentialCount.val).map credentialId) :
    (attachCredentialsAndResources rng graph agentIds config
      state.compromisedGraphNodes).nodes.Has id := by
  obtain ⟨i, below, rfl⟩ := List.mem_map.mp listed
  unfold attachCredentialsAndResources
  rw [if_neg inhabited]
  dsimp only
  rw [present_foldl (p := fun j => credentialId i = credentialId j)]
  · exact Or.inr ⟨i, below, rfl⟩
  · intro graph j _
    unfold attachCredential
    dsimp only
    split
    · exact present_addNode
    · exact present_addNode

theorem plane_present {agentIds : List String} {id : String} (inhabited : agentIds ≠ []) :
    (attachSecurityPlane graph agentIds config state.compromisedGraphNodes).nodes.Has id ↔
      graph.nodes.Has id ∨ id ∈ if config.sentinelCount.val = 0 then []
        else controls.map Prod.snd ++ (List.range config.sentinelCount.val).map sentinelId := by
  unfold attachSecurityPlane
  by_cases zero : config.sentinelCount.val = 0
  · rw [if_pos (Or.inl zero), if_pos zero]
    simp
  · rw [if_neg (not_or.mpr ⟨zero, inhabited⟩), if_neg zero]
    dsimp only
    have monitors : ∀ graph, (agentIds.zipIdx.foldl (attachMonitor config.sentinelCount.val)
        graph).nodes = graph.nodes := edges_foldl_nodes _
    rw [monitors, present_foldl (p := fun i => id = sentinelId i), edges_foldl_nodes,
      present_foldl (p := fun control => id = control.2), or_assoc, List.mem_append,
      List.mem_map, List.mem_map]
    · simp only [eq_comm]
    · exact fun _ _ _ => present_addNode
    · exact fun _ _ _ => present_addNode

theorem security_present (inhabited : sorted state.nodes.keys ≠ []) {id : String}
    (listed : id ∈ securityIds config) :
    (buildSecurityGraph rng state config).nodes.Has id := by
  unfold buildSecurityGraph
  dsimp only
  rw [plane_present inhabited]
  rcases List.mem_append.mp listed with credential | plane
  · exact Or.inl (credentials_present inhabited credential)
  · exact Or.inr plane

theorem ids_apart {id other : String} {letter letter' : Char}
    (first : id.toList.head? = some letter) (first' : other.toList.head? = some letter')
    (differ : letter ≠ letter') : id ≠ other := by
  rintro rfl
  exact differ (Option.some.inj (first.symm.trans first'))

theorem securityIds_letter {id : String} (listed : id ∈ securityIds config) :
    id.toList.head? = some 'c' ∨ id.toList.head? = some 's' := by
  unfold securityIds at listed
  rcases List.mem_append.mp listed with credential | plane
  · obtain ⟨i, _, rfl⟩ := List.mem_map.mp credential
    exact Or.inl (head_append rfl)
  · split at plane
    · cases plane
    rcases List.mem_append.mp plane with ofControl | sentinel
    · left
      obtain ⟨control, member, rfl⟩ := List.mem_map.mp ofControl
      have letters : ∀ control ∈ controls, control.2.toList.head? = some 'c' := by decide
      exact letters control member
    · obtain ⟨i, _, rfl⟩ := List.mem_map.mp sentinel
      exact Or.inr (head_append rfl)

theorem securityIds_no_asset {id : String} (listed : id ∈ securityIds config) (i : Nat) :
    id ≠ toolId i ∧ id ≠ resourceId i := by
  rcases securityIds_letter listed with c | s
  · exact ⟨ids_apart c (head_append rfl) (by decide), ids_apart c (head_append rfl) (by decide)⟩
  · exact ⟨ids_apart s (head_append rfl) (by decide), ids_apart s (head_append rfl) (by decide)⟩

theorem securityIds_no_agent {id : String} (listed : id ∈ securityIds config) (i : Nat) :
    nodeId i ≠ id := by
  rcases securityIds_letter listed with c | s
  · exact nodeId_ne 'c' c (by decide) i
  · exact nodeId_ne 's' s (by decide) i

/-- The agent nodes are the agents of the world. -/
theorem agent_nodes (named : AgentsNamed state) {id : String} :
    id ∈ ((buildSecurityGraph rng state config).nodesOfType .agent).map GraphNode.id ↔
      id ∈ state.nodes.keys := by
  unfold SecurityGraph.nodesOfType
  simp only [List.mem_map, List.mem_filter, decide_eq_true_eq]
  constructor
  · rintro ⟨node, ⟨member, type⟩, rfl⟩
    cases build_origin node member with
    | agent agent inside same =>
      rw [same]
      exact List.mem_map_of_mem inside
    | asset _ _ other => exact absurd type other
    | security _ other => exact absurd type other
  · intro key
    obtain ⟨agent, inside, rfl⟩ := List.mem_map.mp key
    obtain ⟨i, name⟩ := named agent inside
    obtain ⟨added, found, _⟩ := agents_added inside
    have kept := (build_keeps rng state config i).1.node
    rw [← name, found] at kept
    have member := Table.get?_member kept
    have id : added.id = agent.id := Table.get?_key kept
    refine ⟨added, ⟨member, ?_⟩, id⟩
    cases build_origin added member with
    | agent _ _ _ type => exact type
    | asset j either =>
      rw [id, name] at either
      rcases either with tool | resource
      · exact absurd tool (nodeId_ne_toolId i j)
      · exact absurd resource (nodeId_ne_resourceId i j)
    | security listed =>
      rw [id, name] at listed
      exact absurd rfl (securityIds_no_agent listed i)

/-- The compromised nodes are the compromised agents and, of the nodes that keep a state of
    their own, those that the world lists. -/
theorem compromised_nodes (named : AgentsNamed state) (inhabited : sorted state.nodes.keys ≠ [])
    {id : String} :
    id ∈ compromisedIds (buildSecurityGraph rng state config) ↔
      (∃ agent ∈ state.nodes.values, agent.id = id ∧ agent.securityState = .compromised) ∨
        id ∈ securityIds config ∧ id ∈ state.compromisedGraphNodes := by
  constructor
  · intro compromised
    obtain ⟨node, member, rfl, state_⟩ := mem_compromisedIds.mp compromised
    cases build_origin node member with
    | agent agent inside same _ unchanged =>
      exact Or.inl ⟨agent, inside, same.symm, unchanged.symm.trans state_⟩
    | asset _ _ _ healthy =>
      rw [healthy] at state_
      cases state_
    | security listed _ kept =>
      rw [kept] at state_
      unfold stateFor at state_
      split at state_
      · rename_i inside
        exact Or.inr ⟨listed, inside⟩
      · cases state_
  · rintro (⟨agent, inside, rfl, state_⟩ | ⟨listed, inside⟩)
    · exact compromised_in_graph named inside state_
    · have present : (buildSecurityGraph rng state config).nodes.Has id :=
        security_present inhabited listed
      obtain ⟨node, member, rfl⟩ := List.mem_map.mp present
      refine mem_compromisedIds.mpr ⟨node, member, rfl, ?_⟩
      cases build_origin node member with
      | agent agent there same =>
        obtain ⟨i, name⟩ := named agent there
        exact absurd (name.symm.trans same.symm) (securityIds_no_agent listed i)
      | asset i either =>
        obtain ⟨tool, resource⟩ := securityIds_no_asset listed i
        exact absurd either (not_or.mpr ⟨tool, resource⟩)
      | security _ _ kept =>
        rw [kept]
        exact if_pos inside

def Exposed (state : WorldState) (id : String) : Prop :=
  ∃ agent ∈ state.nodes.values, agent.securityState = .compromised ∧
    Relation.ReflTransGen (Linked state.edges) agent.id id

/-- No compromise reaches a tool or a credential, and none sits in the security plane. -/
structure AmongAgents (rng : Rng) (state : WorldState) (config : ExperimentConfig) : Prop where
  security : ∀ id ∈ securityIds config, id ∉ state.compromisedGraphNodes
  tools : ∀ i < config.toolCount.val, ∀ agentId ∈ accessors rng config (sorted state.nodes.keys) i,
    ¬ Exposed state agentId
  credentials : ∀ i < config.credentialCount.val,
    ¬ Exposed state (holder rng config (sorted state.nodes.keys) i)

def MeshWithin (state : WorldState) : Prop :=
  ∀ edge ∈ state.edges, edge.1 ∈ state.nodes.keys ∧ edge.2 ∈ state.nodes.keys

theorem linked_agent {source target : String} (within : MeshWithin state)
    (linked : Linked state.edges source target) : target ∈ state.nodes.keys := by
  rcases linked with forth | back
  · exact (within _ forth).2
  · exact (within _ back).1

theorem exposed_in_blast (named : AgentsNamed state) {id : String} (exposed : Exposed state id) :
    id ∈ blastRadius (buildSecurityGraph rng state config) := by
  obtain ⟨agent, inside, compromised, path⟩ := exposed
  refine mem_blastRadius.mpr ⟨agent.id, compromised_in_graph named inside compromised, ?_⟩
  exact Relation.ReflTransGen.mono (fun _ _ linked => link_in_graph linked) _ _ path

theorem carried_in_blast (inhabited : sorted state.nodes.keys ≠ []) {source target : String}
    (reached : source ∈ blastRadius (buildSecurityGraph rng state config))
    (carries : Carries rng state config source target) :
    target ∈ blastRadius (buildSecurityGraph rng state config) := by
  obtain ⟨start, compromised, path⟩ := mem_blastRadius.mp reached
  exact mem_blastRadius.mpr ⟨start, compromised, path.tail ((edge_iff_carries inhabited).mpr carries)⟩

/-- Exactly then the blast radius holds agents only. -/
theorem blast_among_agents_iff (named : AgentsNamed state)
    (inhabited : sorted state.nodes.keys ≠ []) (within : MeshWithin state) :
    (∀ id ∈ blastRadius (buildSecurityGraph rng state config), id ∈ state.nodes.keys) ↔
      AmongAgents rng state config := by
  have key_named : ∀ id ∈ state.nodes.keys, ∃ i, id = nodeId i := by
    intro id key
    obtain ⟨agent, inside, rfl⟩ := List.mem_map.mp key
    exact named agent inside
  constructor
  · intro agents
    constructor
    · intro id listed inside
      have compromised : id ∈ compromisedIds (buildSecurityGraph rng state config) :=
        (compromised_nodes named inhabited).mpr (Or.inr ⟨listed, inside⟩)
      obtain ⟨i, rfl⟩ := key_named id (agents id (mem_blastRadius.mpr ⟨id, compromised, .refl⟩))
      exact securityIds_no_agent listed i rfl
    · intro i below agentId accesses exposed
      have tool := carried_in_blast inhabited (exposed_in_blast named exposed)
        (.tool below accesses)
      obtain ⟨j, same⟩ := key_named _ (agents _ tool)
      exact nodeId_ne_toolId j i same.symm
    · intro i below exposed
      have credential := carried_in_blast inhabited (exposed_in_blast named exposed)
        (.credential below)
      obtain ⟨j, same⟩ := key_named _ (agents _ credential)
      exact nodeId_ne_credentialId j i same.symm
  · intro among id reached
    obtain ⟨source, compromised, path⟩ := mem_blastRadius.mp reached
    have exposed : id ∈ state.nodes.keys ∧ Exposed state id := by
      induction path with
      | refl =>
        rcases (compromised_nodes named inhabited).mp compromised with
          ⟨agent, inside, rfl, state_⟩ | ⟨listed, inside⟩
        · exact ⟨List.mem_map_of_mem inside, agent, inside, state_, .refl⟩
        · exact absurd inside (among.security _ listed)
      | tail before edge ih =>
        obtain ⟨key, exposed⟩ := ih (mem_blastRadius.mpr ⟨source, compromised, before⟩)
        cases (edge_iff_carries inhabited).mp edge with
        | link linked =>
          obtain ⟨agent, inside, state_, mesh⟩ := exposed
          exact ⟨linked_agent within linked, agent, inside, state_, mesh.tail linked⟩
        | tool below accesses => exact absurd exposed (among.tools _ below _ accesses)
        | credential below => exact absurd exposed (among.credentials _ below)
        | @resource i =>
          obtain ⟨j, same⟩ := key_named _ key
          exact absurd same.symm (nodeId_ne_credentialId j i)
    exact exposed.1

end

end AgentShield.Analysis
