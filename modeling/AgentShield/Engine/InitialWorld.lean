import AgentShield.Engine.Topology

/-!
What the world at tick 0 looks like: its names, its mesh, its one patient zero.
-/
namespace AgentShield.TopologyBuilder
open Schema Keyed Engine

def agentIds (config : ExperimentConfig) : List String :=
  (List.range config.nodeCount.val).map nodeId

def drawnEdges (networkx : Networkx) (config : ExperimentConfig) : List (String × String) :=
  (networkx.barabasiAlbertGraph config.nodeCount.val config.edgeDensity.val config.seed).map
    fun edge => normalized (nodeId edge.1, nodeId edge.2)

def patientZero (rng : Rng) (networkx : Networkx) (config : ExperimentConfig) : String :=
  seedNode rng (drawnEdges networkx config) (sorted (agentIds config)) config

theorem buildWorld_member {rng : Rng} {networkx : Networkx} {config : ExperimentConfig}
    {node : AgentNode} (member : node ∈ (buildWorld rng networkx config).1.nodes.values) :
    ∃ entry ∈ (sorted (agentIds config)).zipIdx,
      node = makeNode rng (drawnEdges networkx config) (sorted (agentIds config)) config entry :=
  makeNodes_member member

theorem makeNodes_has (rng : Rng) (edges : List (String × String)) {sortedIds : List String}
    (config : ExperimentConfig) {id : String} (known : id ∈ sortedIds) :
    (makeNodes rng edges sortedIds config).Has id := by
  have whole : ∀ (entries : List (String × Nat)) (nodes : Table AgentNode.id),
      id ∈ entries.map Prod.fst ∨ nodes.Has id →
      (entries.foldl (fun nodes entry =>
        nodes.put (makeNode rng edges sortedIds config entry)) nodes).Has id := by
    intro entries
    induction entries with
    | nil =>
      rintro nodes (never | has)
      · cases never
      · exact has
    | cons entry rest ih =>
      rintro nodes (listed | has)
      · apply ih
        rcases List.mem_cons.mp listed with now | later
        · exact Or.inr (Table.has_put.mpr (Or.inl now))
        · exact Or.inl later
      · exact ih _ (Or.inr (Table.has_put.mpr (Or.inr has)))
  apply whole
  left
  rw [List.zipIdx_map_fst]
  exact known

theorem buildWorld_named {rng : Rng} {networkx : Networkx} {config : ExperimentConfig}
    {node : AgentNode} (member : node ∈ (buildWorld rng networkx config).1.nodes.values) :
    ∃ i, node.id = nodeId i := by
  obtain ⟨entry, inside, rfl⟩ := buildWorld_member member
  have listed : entry.1 ∈ sorted (agentIds config) := by
    rw [← List.zipIdx_map_fst 0 (sorted (agentIds config))]
    exact List.mem_map_of_mem inside
  obtain ⟨i, _, named⟩ := List.mem_map.mp (mem_sorted.mp listed)
  exact ⟨i, named.symm⟩

theorem mem_neighborsOf {edges : List (String × String)} {id other : String} :
    other ∈ neighborsOf edges id ↔
      ∃ edge ∈ edges, edge.1 = id ∧ edge.2 = other ∨ edge.1 ≠ id ∧ edge.2 = id ∧ edge.1 = other := by
  unfold neighborsOf
  rw [mem_sorted, List.mem_dedup, List.mem_filterMap]
  constructor
  · rintro ⟨edge, member, chosen⟩
    refine ⟨edge, member, ?_⟩
    split at chosen
    · rename_i from_
      exact Or.inl ⟨from_, Option.some.inj chosen⟩
    · rename_i elsewhere
      split at chosen
      · rename_i into
        exact Or.inr ⟨elsewhere, into, Option.some.inj chosen⟩
      · cases chosen
  · rintro ⟨edge, member, ⟨from_, same⟩ | ⟨elsewhere, into, same⟩⟩
    · refine ⟨edge, member, ?_⟩
      rw [if_pos from_, same]
    · refine ⟨edge, member, ?_⟩
      rw [if_neg elsewhere, if_pos into, same]

theorem mem_sortedEdges {edges : List (String × String)} {edge : String × String} :
    edge ∈ sortedEdges edges ↔ edge ∈ edges.map normalized := by
  unfold sortedEdges
  rw [(List.perm_insertionSort _ _).mem_iff, List.mem_dedup]

def Mesh (state : WorldState) : Prop :=
  ∀ node ∈ state.nodes.values, ∀ other ∈ node.neighbors,
    (node.id, other) ∈ state.edges ∨ (other, node.id) ∈ state.edges

theorem buildWorld_mesh (rng : Rng) (networkx : Networkx) (config : ExperimentConfig) :
    Mesh (buildWorld rng networkx config).1 := by
  intro node member other linked
  obtain ⟨entry, _, rfl⟩ := buildWorld_member member
  have sides : ∀ edge ∈ drawnEdges networkx config,
      edge ∈ sortedEdges (drawnEdges networkx config) ∨
        (edge.2, edge.1) ∈ sortedEdges (drawnEdges networkx config) := by
    intro edge drawn
    have listed := List.mem_map_of_mem (f := normalized) drawn
    rw [← mem_sortedEdges] at listed
    unfold normalized at listed
    split at listed
    · exact Or.inl listed
    · exact Or.inr listed
  obtain ⟨edge, drawn, ⟨from_, same⟩ | ⟨_, into, same⟩⟩ := mem_neighborsOf.mp linked
  · have side := sides edge drawn
    rw [← Prod.eta edge, from_, same] at side
    exact side
  · have side := (sides edge drawn).symm
    rw [← Prod.eta edge, into, same] at side
    exact side

theorem seedNode_member (rng : Rng) (edges : List (String × String)) {sortedIds : List String}
    (inhabited : sortedIds ≠ []) (config : ExperimentConfig) :
    seedNode rng edges sortedIds config ∈ sortedIds := by
  unfold seedNode
  split
  · exact Random.choice_member _ _ inhabited
  · have some_max : ∃ id ∈ sortedIds,
        degree edges id = (sortedIds.map (degree edges)).foldl max 0 := by
      have degrees : sortedIds.map (degree edges) ≠ [] := by simpa using inhabited
      obtain ⟨id, member, same⟩ := List.mem_map.mp (List.max_mem degrees)
      refine ⟨id, member, ?_⟩
      rw [List.foldl_max_eq_max degrees, same, Nat.zero_max]
    dsimp only
    cases found : sortedIds.find? fun nodeId => degree edges nodeId =
        (sortedIds.map (degree edges)).foldl max 0 with
    | none =>
      obtain ⟨id, member, same⟩ := some_max
      have never := List.find?_eq_none.mp found id member
      exact absurd (decide_eq_true same) never
    | some id => exact List.mem_of_find?_eq_some found

theorem agentIds_inhabited (config : ExperimentConfig) : sorted (agentIds config) ≠ [] := by
  intro none
  have zero : nodeId 0 ∈ sorted (agentIds config) := by
    rw [mem_sorted]
    apply List.mem_map_of_mem
    have enough := config.nodeCount.property.1
    rw [List.mem_range]
    omega
  rw [none] at zero
  cases zero

/-- There is a patient zero, and nobody else is compromised yet. -/
theorem buildWorld_zero (rng : Rng) (networkx : Networkx) (config : ExperimentConfig) :
    (∃ node ∈ (buildWorld rng networkx config).1.nodes.values,
      node.id = patientZero rng networkx config) ∧
    ∀ node ∈ (buildWorld rng networkx config).1.nodes.values, node.compromisedBy = none ∧
      if node.id = patientZero rng networkx config then
        node.securityState = .compromised ∧ node.tickCompromised = some 0
      else node.securityState = .healthy ∧ node.tickCompromised = none := by
  constructor
  · have known := seedNode_member rng (drawnEdges networkx config) (agentIds_inhabited config)
      config
    obtain ⟨node, member, named⟩ := List.mem_map.mp
      (makeNodes_has rng (drawnEdges networkx config) config known)
    exact ⟨node, member, named⟩
  · intro node member
    obtain ⟨entry, _, rfl⟩ := buildWorld_member member
    refine ⟨rfl, ?_⟩
    by_cases zero : entry.1 = patientZero rng networkx config
    · have chosen : entry.1 = seedNode rng (drawnEdges networkx config)
        (sorted (agentIds config)) config := zero
      simp [makeNode, ← chosen, ← zero]
    · have spared : entry.1 ≠ seedNode rng (drawnEdges networkx config)
        (sorted (agentIds config)) config := zero
      simp [makeNode, spared, zero]

end AgentShield.TopologyBuilder
