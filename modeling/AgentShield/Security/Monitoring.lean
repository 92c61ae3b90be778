import Mathlib.Algebra.Order.BigOperators.Group.Finset
import AgentShield.Graph.Contents
import AgentShield.Lib.Numerals
import AgentShield.Lib.RoundRobin
import AgentShield.Security.Detection

/-!
Who monitors whom: the security plane deals the agents to its sentinels, and detection loses
sight of those whom a compromised sentinel was dealt.
-/
namespace AgentShield.Detection
open Schema Keyed Engine GraphBuilder Analysis RoundRobin

def attachPlane (graph : SecurityGraph) (agentIds : List String) (sentinelCount : Nat)
    (compromisedGraphNodes : Finset String) : SecurityGraph :=
  if sentinelCount = 0 ∨ agentIds = [] then graph
  else
    let graph := controls.foldl (attachControl compromisedGraphNodes) graph
    let graph := agentIds.foldl
      (fun graph agentId => graph.addEdge
        ⟨"control-quarantine", agentId, .quarantineAuthority, []⟩) graph
    let graph := (List.range sentinelCount).foldl (attachSentinel compromisedGraphNodes) graph
    agentIds.zipIdx.foldl (attachMonitor sentinelCount) graph

theorem attachSecurityPlane_eq (graph : SecurityGraph) (agentIds : List String)
    (config : ExperimentConfig) (compromisedGraphNodes : Finset String) :
    attachSecurityPlane graph agentIds config compromisedGraphNodes =
      attachPlane graph agentIds config.sentinelCount.val compromisedGraphNodes := rfl

def graphBelow (rng : Rng) (state : WorldState) (config : ExperimentConfig) : SecurityGraph :=
  let sortedAgentIds := sorted state.nodes.keys
  let graph := (sortedById state.nodes.values).foldl addAgent .empty
  let graph := state.edges.foldl addLink graph
  let graph := attachTools rng graph sortedAgentIds config
  attachCredentialsAndResources rng graph sortedAgentIds config state.compromisedGraphNodes

def monitoredGraph (rng : Rng) (state : WorldState) (config : ExperimentConfig)
    (sentinelCount : Nat) : SecurityGraph :=
  attachPlane (graphBelow rng state config) (sorted state.nodes.keys) sentinelCount
    state.compromisedGraphNodes

theorem buildSecurityGraph_eq (rng : Rng) (state : WorldState) (config : ExperimentConfig) :
    buildSecurityGraph rng state config =
      monitoredGraph rng state config config.sentinelCount.val := rfl

def suppressed (rng : Rng) (state : WorldState) (config : ExperimentConfig)
    (sentinelCount : Nat) : List String :=
  if sentinelCount = 0 ∨ state.compromisedGraphNodes = ∅ then []
  else
    let graph := monitoredGraph rng state config sentinelCount
    let compromised := (graph.nodesOfType .sentinel).filter fun node =>
      node.id ∈ state.compromisedGraphNodes
    ((graph.edgesOfType .monitors).filter fun edge =>
      edge.source ∈ compromised.map GraphNode.id).map GraphEdge.target

theorem suppressedByCompromisedSentinels_eq (rng : Rng) (state : WorldState)
    (config : ExperimentConfig) :
    suppressedByCompromisedSentinels rng state config =
      suppressed rng state config config.sentinelCount.val := rfl

def sentinelIds (sentinelCount : Nat) : List String := (List.range sentinelCount).map sentinelId

theorem mem_sentinelIds {sentinelCount : Nat} {id : String} :
    id ∈ sentinelIds sentinelCount ↔ ∃ i < sentinelCount, sentinelId i = id := by
  unfold sentinelIds
  rw [List.mem_map]
  simp only [List.mem_range]

theorem total_sentinelId (i : Nat) : Numerals.total (sentinelId i).toList = i := by
  have all : ("sentinel-".toList.all fun c => !c.isDigit) = true := by decide
  have plain : ∀ c ∈ "sentinel-".toList, c.isDigit = false := by
    intro c member
    simpa using List.all_eq_true.mp all c member
  unfold sentinelId padded
  rw [String.toList_append, Numerals.total_after plain, String.toList_ofList,
    Numerals.total_zeros, Numerals.total_digits]

theorem sentinelId_injective : Function.Injective sentinelId := by
  intro i j same
  rw [← total_sentinelId i, same, total_sentinelId]

theorem sentinelIds_nodup (sentinelCount : Nat) : (sentinelIds sentinelCount).Nodup :=
  List.nodup_range.map sentinelId_injective

def Sentinel (graph : SecurityGraph) (id : String) : Prop :=
  ∃ node, graph.nodes.get? id = some node ∧ node.nodeType = .sentinel

theorem mem_sentinels {graph : SecurityGraph} {id : String} :
    id ∈ (graph.nodesOfType .sentinel).map GraphNode.id ↔ Sentinel graph id := by
  unfold SecurityGraph.nodesOfType
  rw [List.mem_map]
  constructor
  · rintro ⟨node, member, rfl⟩
    obtain ⟨inside, type⟩ := List.mem_filter.mp member
    exact ⟨node, Table.get?_of_member inside, of_decide_eq_true type⟩
  · rintro ⟨node, found, type⟩
    exact ⟨node, List.mem_filter.mpr ⟨Table.get?_member found, decide_eq_true type⟩,
      Table.get?_key found⟩

theorem sentinel_attached {compromisedGraphNodes : Finset String} {graph : SecurityGraph} {i : Nat}
    {id : String} : Sentinel (attachSentinel compromisedGraphNodes graph i) id ↔
      Sentinel graph id ∨ sentinelId i = id := by
  unfold attachSentinel Sentinel SecurityGraph.addEdge SecurityGraph.addNode
  simp only [Table.get?_put]
  by_cases here : id = sentinelId i
  · simp [here]
  · simp [here, Ne.symm here]

section
variable {rng : Rng} {config : ExperimentConfig} {agentIds : List String}
  {compromisedGraphNodes : Finset String} {graph : SecurityGraph}

abbrev Unwatched (graph : SecurityGraph) : Prop := All (fun node => node.nodeType ≠ .sentinel) graph

theorem unwatched_none {id : String} (unwatched : Unwatched graph) : ¬ Sentinel graph id := by
  rintro ⟨node, found, type⟩
  exact unwatched node (Table.get?_member found) type

theorem tools_unwatched (unwatched : Unwatched graph) :
    Unwatched (attachTools rng graph agentIds config) := by
  unfold attachTools
  split
  · exact unwatched
  · apply all_foldl _ unwatched
    intro graph i _ unwatched
    unfold attachTool All
    dsimp only
    rw [edges_foldl_nodes]
    exact all_addNode unwatched (by simp)

theorem credentials_unwatched (unwatched : Unwatched graph) :
    Unwatched (attachCredentialsAndResources rng graph agentIds config
      compromisedGraphNodes) := by
  unfold attachCredentialsAndResources
  split
  · exact unwatched
  · apply all_foldl
    · intro graph i _ unwatched
      have added : ∀ node : GraphNode, node.nodeType ≠ .sentinel → Unwatched (graph.addNode node) :=
        fun node type => all_addNode unwatched type
      unfold attachCredential
      dsimp only
      split <;> exact added _ (by simp)
    · apply all_foldl _ unwatched
      intro graph i _ unwatched
      exact all_addNode unwatched (by simp)

theorem below_unwatched (rng : Rng) (state : WorldState) (config : ExperimentConfig) :
    Unwatched (graphBelow rng state config) := by
  have agents : Unwatched ((sortedById state.nodes.values).foldl addAgent .empty) := by
    apply all_foldl
    · intro graph agent _ unwatched
      exact all_addNode unwatched (by simp)
    · exact List.forall_mem_nil _
  apply credentials_unwatched
  apply tools_unwatched
  apply all_foldl _ agents
  exact fun _ _ _ unwatched => unwatched

theorem plane_sentinels {sentinelCount : Nat} {id : String} (unwatched : Unwatched graph)
    (some_ : 0 < sentinelCount) (inhabited : agentIds ≠ []) :
    Sentinel (attachPlane graph agentIds sentinelCount compromisedGraphNodes) id ↔
      id ∈ sentinelIds sentinelCount := by
  unfold attachPlane
  rw [if_neg (not_or.mpr ⟨Nat.ne_of_gt some_, inhabited⟩)]
  dsimp only
  have monitors : ∀ graph, (agentIds.zipIdx.foldl (attachMonitor sentinelCount) graph).nodes =
      graph.nodes := edges_foldl_nodes _
  have controlled : Unwatched (controls.foldl (attachControl compromisedGraphNodes) graph) := by
    apply all_foldl _ unwatched
    intro graph control _ unwatched
    exact all_addNode unwatched (by simp)
  have governed : Unwatched (agentIds.foldl (fun graph agentId => graph.addEdge
      ⟨"control-quarantine", agentId, .quarantineAuthority, []⟩)
        (controls.foldl (attachControl compromisedGraphNodes) graph)) := by
    apply all_foldl _ controlled
    exact fun _ _ _ unwatched => unwatched
  have each : ∀ graph, ∀ i ∈ List.range sentinelCount,
      Sentinel (attachSentinel compromisedGraphNodes graph i) id ↔
        Sentinel graph id ∨ sentinelId i = id := fun _ _ _ => sentinel_attached
  have attached := foldl_adds (Q := fun graph => Sentinel graph id) each
  unfold Sentinel at attached ⊢
  rw [monitors, attached, mem_sentinelIds]
  simp only [List.mem_range]
  exact or_iff_right (unwatched_none governed)

theorem below_unmonitored {state : WorldState} {source target : String} :
    ¬ (graphBelow rng state config).edges.Has (source, target, .monitors) := by
  unfold graphBelow
  dsimp only
  have links : ¬ (state.edges.foldl addLink ((sortedById state.nodes.values).foldl addAgent
      .empty)).edges.Has (source, target, .monitors) := by
    rw [has_foldl fun graph link _ => addLink_edges graph link (by decide)]
    rintro (agents | ⟨_, _, type, _⟩)
    · exact agents_edges _ agents
    · cases type
  by_cases inhabited : sorted state.nodes.keys = []
  · unfold attachCredentialsAndResources attachTools
    rw [if_pos inhabited, if_pos (Or.inr inhabited)]
    exact links
  · rw [attachCredentials_edges inhabited, attachTools_edges inhabited]
    rintro ((before | ⟨_, _, _, _, same⟩) | ⟨_, _, same | ⟨_, same⟩⟩)
    · exact links before
    · simp at same
    · simp at same
    · simp at same

theorem plane_monitors {sentinelCount : Nat} {source target : String} (some_ : 0 < sentinelCount)
    (unmonitored : ¬ graph.edges.Has (source, target, .monitors)) :
    (attachPlane graph agentIds sentinelCount compromisedGraphNodes).edges.Has
        (source, target, .monitors) ↔
      ∃ j, agentIds[j]? = some target ∧ sentinelId (j % sentinelCount) = source := by
  unfold attachPlane
  split
  · rename_i none_
    rcases none_ with zero | rfl
    · exact absurd zero (Nat.ne_of_gt some_)
    · simp [unmonitored]
  · dsimp only
    have monitor : ∀ graph, ∀ entry ∈ agentIds.zipIdx,
        (attachMonitor sentinelCount graph entry).edges.Has (source, target, .monitors) ↔
          graph.edges.Has (source, target, .monitors) ∨
            entry.1 = target ∧ sentinelId (entry.2 % sentinelCount) = source := by
      intro graph entry _
      unfold attachMonitor
      rw [has_addEdge, GraphEdge.key]
      simp [eq_comm, and_comm]
    rw [has_foldl monitor, has_foldl_none, has_foldl_none, has_foldl_none]
    · rw [or_iff_right unmonitored]
      simp only [Prod.exists, List.mem_zipIdx_iff_getElem?]
      constructor
      · rintro ⟨_, j, listed, rfl, turn⟩
        exact ⟨j, listed, turn⟩
      · rintro ⟨j, listed, turn⟩
        exact ⟨target, j, listed, rfl, turn⟩
    · exact fun _ _ _ => Iff.rfl
    · simp [has_addEdge, GraphEdge.key]
    · intro graph i _
      unfold attachSentinel
      simp only [has_addEdge, GraphEdge.key, Prod.mk.injEq, reduceCtorEq, and_false, or_false]
      rfl

def monitoredBy (graph : SecurityGraph) (sentinel : String) : List String :=
  ((graph.edgesOfType .monitors).filter fun edge => edge.source = sentinel).map GraphEdge.target

theorem mem_monitors {edge : GraphEdge} :
    edge ∈ graph.edgesOfType .monitors ↔ edge ∈ graph.edges.values ∧ edge.edgeType = .monitors := by
  unfold SecurityGraph.edgesOfType
  rw [List.mem_filter, decide_eq_true_eq]

theorem mem_monitoredBy {source target : String} :
    target ∈ monitoredBy graph source ↔ graph.edges.Has (source, target, .monitors) := by
  unfold monitoredBy
  rw [List.mem_map]
  constructor
  · rintro ⟨edge, member, rfl⟩
    obtain ⟨monitors, from_⟩ := List.mem_filter.mp member
    obtain ⟨inside, type⟩ := mem_monitors.mp monitors
    have key : edge.key = (source, edge.target, .monitors) := by
      rw [GraphEdge.key, of_decide_eq_true from_, type]
    exact List.mem_map.mpr ⟨edge, inside, key⟩
  · intro has
    obtain ⟨edge, inside, key⟩ := List.mem_map.mp has
    simp only [GraphEdge.key, Prod.mk.injEq] at key
    obtain ⟨from_, rfl, type⟩ := key
    exact ⟨edge, List.mem_filter.mpr ⟨mem_monitors.mpr ⟨inside, type⟩, decide_eq_true from_⟩, rfl⟩

theorem monitoredBy_nodup (graph : SecurityGraph) (source : String) :
    (monitoredBy graph source).Nodup := by
  unfold monitoredBy
  have keys : (((graph.edgesOfType .monitors).filter fun edge => edge.source = source).map
      GraphEdge.key).Nodup := by
    have inside : ((graph.edgesOfType .monitors).filter fun edge => edge.source = source).Sublist
        graph.edges.values := List.filter_sublist.trans List.filter_sublist
    exact List.Nodup.sublist (inside.map GraphEdge.key) graph.edges.distinct
  have same : ((graph.edgesOfType .monitors).filter fun edge => edge.source = source).map
      GraphEdge.key = (((graph.edgesOfType .monitors).filter fun edge => edge.source = source).map
        GraphEdge.target).map fun target => (source, target, .monitors) := by
    rw [List.map_map]
    apply List.map_congr_left
    intro edge member
    obtain ⟨monitors, from_⟩ := List.mem_filter.mp member
    rw [GraphEdge.key, of_decide_eq_true from_, (mem_monitors.mp monitors).2]
    rfl
  rw [same] at keys
  exact keys.of_map

end

/-- The sentinels that are compromised. -/
def compromisedSentinels (sentinelCount : Nat) (compromisedGraphNodes : Finset String) :
    Finset String :=
  compromisedGraphNodes.filter fun id => id ∈ sentinelIds sentinelCount

/-- A number of sentinels share the agents, and detection is blind to what the compromised
    ones monitor. -/
structure FairlyMonitored (graph : SecurityGraph) (agentIds : List String) (sentinelCount : Nat)
    (compromisedGraphNodes : Finset String) (suppressed : List String) : Prop where
  sentinels : agentIds ≠ [] → ∀ id, id ∈ (graph.nodesOfType .sentinel).map GraphNode.id ↔
    id ∈ sentinelIds sentinelCount
  apart : (sentinelIds sentinelCount).Nodup
  monitors : ∀ edge ∈ graph.edgesOfType .monitors,
    edge.source ∈ sentinelIds sentinelCount ∧ edge.target ∈ agentIds
  once : ∀ agentId ∈ agentIds,
    ∃! edge, edge ∈ graph.edgesOfType .monitors ∧ edge.target = agentId
  share : ∀ sentinel ∈ sentinelIds sentinelCount,
    (monitoredBy graph sentinel).length = agentIds.length / sentinelCount ∨
      (monitoredBy graph sentinel).length = agentIds.length ⌈/⌉ sentinelCount
  blind : ∀ id, id ∈ suppressed ↔
    ∃ sentinel ∈ compromisedSentinels sentinelCount compromisedGraphNodes,
      id ∈ monitoredBy graph sentinel
  few : suppressed.toFinset.card ≤
    (compromisedSentinels sentinelCount compromisedGraphNodes).card *
      (agentIds.length ⌈/⌉ sentinelCount)

section
variable (rng : Rng) (state : WorldState) (config : ExperimentConfig) {sentinelCount : Nat}

theorem graph_monitors (some_ : 0 < sentinelCount) {source target : String} :
    (monitoredGraph rng state config sentinelCount).edges.Has (source, target, .monitors) ↔
      ∃ j, (sorted state.nodes.keys)[j]? = some target ∧ sentinelId (j % sentinelCount) = source :=
  plane_monitors some_ below_unmonitored

theorem monitors_placed (some_ : 0 < sentinelCount) {edge : GraphEdge}
    (member : edge ∈ (monitoredGraph rng state config sentinelCount).edgesOfType .monitors) :
    ∃ j, (sorted state.nodes.keys)[j]? = some edge.target ∧
      sentinelId (j % sentinelCount) = edge.source := by
  obtain ⟨inside, type⟩ := mem_monitors.mp member
  apply (graph_monitors rng state config some_).mp
  rw [← type]
  exact List.mem_map_of_mem inside

theorem sorted_nodup : (sorted state.nodes.keys).Nodup :=
  (List.perm_insertionSort _ _).nodup_iff.mpr state.nodes.distinct

theorem sorted_length : (sorted state.nodes.keys).length = state.nodes.keys.length :=
  (List.perm_insertionSort _ _).length_eq

theorem monitoredBy_dealt {i : Nat} (inside : i < sentinelCount) :
    (monitoredBy (monitoredGraph rng state config sentinelCount) (sentinelId i)).Perm
      (dealt (sorted state.nodes.keys) sentinelCount i) := by
  have distinct := (sorted_nodup state).sublist (dealt_sublist _ sentinelCount i)
  rw [List.perm_ext_iff_of_nodup (monitoredBy_nodup _ _) distinct]
  intro id
  rw [mem_monitoredBy, graph_monitors rng state config (Nat.zero_lt_of_lt inside), mem_dealt]
  simp only [sentinelId_injective.eq_iff]

theorem monitored_once (some_ : 0 < sentinelCount) {agentId : String}
    (listed : agentId ∈ state.nodes.keys) :
    ∃! edge, edge ∈ (monitoredGraph rng state config sentinelCount).edgesOfType .monitors ∧
      edge.target = agentId := by
  obtain ⟨j, place⟩ := List.mem_iff_getElem?.mp (mem_sorted.mpr listed)
  have has := (graph_monitors rng state config some_).mpr ⟨j, place, rfl⟩
  obtain ⟨edge, member, target⟩ := List.mem_map.mp (mem_monitoredBy.mpr has)
  obtain ⟨monitors, source⟩ := List.mem_filter.mp member
  refine ⟨edge, ⟨monitors, target⟩, ?_⟩
  rintro other ⟨monitors', target'⟩
  obtain ⟨i, place', source'⟩ := monitors_placed rng state config some_ monitors'
  rw [target'] at place'
  -- an agent stands in one place
  obtain ⟨below, _⟩ := List.getElem?_eq_some_iff.mp place'
  obtain rfl : i = j :=
    (List.getElem?_inj below (sorted_nodup state)).mp (place'.trans place.symm)
  have key : other.key = edge.key := by
    rw [GraphEdge.key, GraphEdge.key, ← source', of_decide_eq_true source, target, target',
      (mem_monitors.mp monitors').2, (mem_monitors.mp monitors).2]
  exact List.inj_on_of_nodup_map (monitoredGraph rng state config sentinelCount).edges.distinct
    (mem_monitors.mp monitors').1 (mem_monitors.mp monitors).1 key

theorem graph_sentinels (some_ : 0 < sentinelCount) (inhabited : sorted state.nodes.keys ≠ [])
    (id : String) :
    id ∈ ((monitoredGraph rng state config sentinelCount).nodesOfType .sentinel).map
      GraphNode.id ↔ id ∈ sentinelIds sentinelCount :=
  mem_sentinels.trans (plane_sentinels (below_unwatched rng state config) some_ inhabited)

theorem graph_compromised (some_ : 0 < sentinelCount) (inhabited : sorted state.nodes.keys ≠ [])
    (id : String) :
    id ∈ (((monitoredGraph rng state config sentinelCount).nodesOfType .sentinel).filter
        fun node => node.id ∈ state.compromisedGraphNodes).map GraphNode.id ↔
      id ∈ compromisedSentinels sentinelCount state.compromisedGraphNodes := by
  have sentinels := graph_sentinels rng state config some_ inhabited id
  unfold compromisedSentinels
  rw [Finset.mem_filter, ← sentinels, List.mem_map, List.mem_map]
  simp only [List.mem_filter, decide_eq_true_eq]
  constructor
  · rintro ⟨node, ⟨member, compromised⟩, rfl⟩
    exact ⟨compromised, node, member, rfl⟩
  · rintro ⟨compromised, node, member, rfl⟩
    exact ⟨node, ⟨member, compromised⟩, rfl⟩

theorem suppressed_blind (some_ : 0 < sentinelCount) (id : String) :
    id ∈ suppressed rng state config sentinelCount ↔
      ∃ sentinel ∈ compromisedSentinels sentinelCount state.compromisedGraphNodes,
        id ∈ monitoredBy (monitoredGraph rng state config sentinelCount) sentinel := by
  have inhabited_of : ∀ {edge : GraphEdge},
      edge ∈ (monitoredGraph rng state config sentinelCount).edgesOfType .monitors →
        sorted state.nodes.keys ≠ [] := by
    intro edge member empty
    obtain ⟨j, place, _⟩ := monitors_placed rng state config some_ member
    rw [empty] at place
    cases place
  unfold suppressed
  split
  · rename_i none_
    rcases none_ with zero | nobody
    · exact absurd zero (Nat.ne_of_gt some_)
    · simp [compromisedSentinels, nobody]
  · dsimp only
    rw [List.mem_map]
    constructor
    · rintro ⟨edge, member, rfl⟩
      obtain ⟨monitors, compromised⟩ := List.mem_filter.mp member
      have inhabited := inhabited_of monitors
      refine ⟨edge.source, ?_, ?_⟩
      · exact (graph_compromised rng state config some_ inhabited _).mp
          (of_decide_eq_true compromised)
      · exact List.mem_map_of_mem (List.mem_filter.mpr ⟨monitors, decide_eq_true rfl⟩)
    · rintro ⟨sentinel, compromised, watched⟩
      obtain ⟨edge, member, rfl⟩ := List.mem_map.mp watched
      obtain ⟨monitors, from_⟩ := List.mem_filter.mp member
      obtain rfl := of_decide_eq_true from_
      have inhabited := inhabited_of monitors
      have known := (graph_compromised rng state config some_ inhabited _).mpr compromised
      exact ⟨edge, List.mem_filter.mpr ⟨monitors, decide_eq_true known⟩, rfl⟩

theorem suppressed_few (some_ : 0 < sentinelCount) :
    (suppressed rng state config sentinelCount).toFinset.card ≤
      (compromisedSentinels sentinelCount state.compromisedGraphNodes).card *
        (state.nodes.keys.length ⌈/⌉ sentinelCount) := by
  let graph := monitoredGraph rng state config sentinelCount
  have covered : (suppressed rng state config sentinelCount).toFinset ⊆
      (compromisedSentinels sentinelCount state.compromisedGraphNodes).biUnion
        fun sentinel => (monitoredBy graph sentinel).toFinset := by
    intro id member
    obtain ⟨sentinel, compromised, watched⟩ :=
      (suppressed_blind rng state config some_ id).mp (List.mem_toFinset.mp member)
    exact Finset.mem_biUnion.mpr ⟨sentinel, compromised, List.mem_toFinset.mpr watched⟩
  have share : ∀ sentinel ∈ compromisedSentinels sentinelCount state.compromisedGraphNodes,
      (monitoredBy graph sentinel).toFinset.card ≤ state.nodes.keys.length ⌈/⌉ sentinelCount := by
    intro sentinel compromised
    obtain ⟨i, inside, rfl⟩ := mem_sentinelIds.mp (Finset.mem_filter.mp compromised).2
    calc (monitoredBy graph (sentinelId i)).toFinset.card
      _ ≤ (monitoredBy graph (sentinelId i)).length := List.toFinset_card_le _
      _ = (dealt (sorted state.nodes.keys) sentinelCount i).length :=
        (monitoredBy_dealt rng state config inside).length_eq
      _ ≤ (sorted state.nodes.keys).length ⌈/⌉ sentinelCount := dealt_length_le inside
      _ = state.nodes.keys.length ⌈/⌉ sentinelCount := by rw [sorted_length]
  exact (Finset.card_le_card covered).trans (Finset.card_biUnion_le_card_mul _ _ _ share)

end

/-- Monitoring is a fair partition of the agents, for any number of sentinels and so for
    the number that is configured. -/
theorem monitoring_is_a_fair_partition (rng : Rng) (state : WorldState)
    (config : ExperimentConfig) (sentinelCount : Nat) (some_ : 0 < sentinelCount) :
    FairlyMonitored (monitoredGraph rng state config sentinelCount) state.nodes.keys sentinelCount
        state.compromisedGraphNodes (suppressed rng state config sentinelCount) ∧
      (config.sentinelCount.val = sentinelCount →
        FairlyMonitored (buildSecurityGraph rng state config) state.nodes.keys sentinelCount
          state.compromisedGraphNodes (suppressedByCompromisedSentinels rng state config)) := by
  have fair : FairlyMonitored (monitoredGraph rng state config sentinelCount) state.nodes.keys
      sentinelCount state.compromisedGraphNodes (suppressed rng state config sentinelCount) := by
    constructor
    · intro nonempty
      apply graph_sentinels rng state config some_
      intro empty
      have none_ : state.nodes.keys.length = 0 := by rw [← sorted_length, empty, List.length_nil]
      exact nonempty (List.eq_nil_of_length_eq_zero none_)
    · exact sentinelIds_nodup sentinelCount
    · intro edge member
      obtain ⟨j, place, source⟩ := monitors_placed rng state config some_ member
      have turn := mem_sentinelIds.mpr ⟨_, Nat.mod_lt j some_, source⟩
      exact ⟨turn, mem_sorted.mp (List.mem_of_getElem? place)⟩
    · exact fun agentId listed => monitored_once rng state config some_ listed
    · intro sentinel listed
      obtain ⟨i, inside, rfl⟩ := mem_sentinelIds.mp listed
      rw [(monitoredBy_dealt rng state config inside).length_eq, ← sorted_length]
      exact dealt_fair inside
    · exact suppressed_blind rng state config some_
    · exact suppressed_few rng state config some_
  refine ⟨fair, ?_⟩
  rintro rfl
  rw [buildSecurityGraph_eq, suppressedByCompromisedSentinels_eq]
  exact fair

def monitoredAgent (i : Nat) : AgentNode :=
  { id := TopologyBuilder.nodeId i
    softwareType := "type-0"
    securityState := .healthy
    neighbors := [] }

def twoSentinels : ExperimentConfig := { smallNetwork with sentinelCount := ⟨2, by decide⟩ }

def halfBlind : WorldState where
  tick := 0
  nodes := ⟨(List.range 3).map monitoredAgent, by decide⟩
  edges := []
  compromisedGraphNodes := {sentinelId 1}

theorem half_blind_is_fair :
    suppressedByCompromisedSentinels default halfBlind twoSentinels =
        ["agent-001"] ∧
      FairlyMonitored (buildSecurityGraph default halfBlind twoSentinels)
        halfBlind.nodes.keys 2 {sentinelId 1}
        (suppressedByCompromisedSentinels default halfBlind twoSentinels) :=
  ⟨by decide, (monitoring_is_a_fair_partition _ _ _ 2 (by decide)).2 rfl⟩

end AgentShield.Detection
