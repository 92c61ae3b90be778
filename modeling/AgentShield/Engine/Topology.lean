import Mathlib.Data.List.Dedup
import AgentShield.Engine.NodeFold

/-!
The world at tick 0 (`engine/topology.py`): a drawn topology, its software types,
its real agents and the one compromise it starts with.
-/
namespace AgentShield.TopologyBuilder
open Schema Keyed Engine

/-- `nx.barabasi_albert_graph(n, m, seed)`, by its edges; its nodes are 0 to n - 1. -/
structure Networkx where
  barabasiAlbertGraph : Nat → Nat → Int → List (Nat × Nat)
  within : ∀ n m seed, 1 ≤ m → m < n → ∀ edge ∈ barabasiAlbertGraph n m seed,
    edge.1 < n ∧ edge.2 < n ∧ edge.1 ≠ edge.2

def drawnTree : List (Nat × Nat) :=
  [(0, 1), (2, 0), (3, 0), (4, 0), (5, 1), (6, 4), (7, 4), (8, 4), (9, 4), (10, 0), (11, 2),
    (12, 8), (13, 0), (14, 4), (15, 7), (16, 10), (17, 0), (18, 7), (19, 9), (20, 4), (21, 19),
    (22, 0), (23, 2), (24, 1)]

instance : Inhabited Networkx where
  default :=
    { barabasiAlbertGraph := fun n m seed =>
        if n = 25 ∧ m = 1 ∧ seed = 1 then drawnTree else []
      within := by
        intro n m seed _ _ edge member
        split at member
        · rename_i same
          rw [same.1]
          revert edge
          decide
        · cases member }

/- `_software_types`, by position among the sorted ids. -/
def softwareType (config : ExperimentConfig) (i : Nat) : String :=
  "sw-" ++ String.singleton
    ("abcdefghijklmnopqrstuvwxyz".toList.getD (i % config.softwareTypeCount.val) 'a')

def confidentialToken (rng : Rng) (seed : Int) (nodeId : String) : String :=
  "TOKEN-" ++ padded 16 16 (rng seed 0 nodeId "confidential_token").getrandbits

def neighborsOf (edges : List (String × String)) (nodeId : String) : List String :=
  sorted (edges.filterMap fun edge =>
    if edge.1 = nodeId then some edge.2
    else if edge.2 = nodeId then some edge.1
    else none).dedup

def degree (edges : List (String × String)) (nodeId : String) : Nat :=
  (neighborsOf edges nodeId).length

/- `sorted(sorted_ids, key=lambda n: (-degree[n], n))`. -/
def byDegree (edges : List (String × String)) (ids : List String) : List String :=
  ids.insertionSort fun a b => degree edges b < degree edges a ∨
    degree edges b = degree edges a ∧ a ≤ b

def selectRealAgents (edges : List (String × String)) (sortedIds : List String) (count : Nat) :
    List String :=
  (byDegree edges sortedIds).take count

/- The node compromised at the start; there is at least one agent. -/
def seedNode (rng : Rng) (edges : List (String × String)) (sortedIds : List String)
    (config : ExperimentConfig) : String :=
  match config.initialCompromised with
  | .randomNode => (rng config.seed 0 "topology" "initial_compromise").choice sortedIds
  | .highestDegree =>
    let maxDegree := (sortedIds.map (degree edges)).foldl max 0
    (sortedIds.find? fun nodeId => degree edges nodeId = maxDegree).getD ""

def makeNode (rng : Rng) (edges : List (String × String)) (sortedIds : List String)
    (config : ExperimentConfig) (entry : String × Nat) : AgentNode :=
  let (nodeId, i) := entry
  let isSeed := decide (nodeId = seedNode rng edges sortedIds config)
  let isReal := decide
    (nodeId ∈ selectRealAgents edges sortedIds config.realAgentCount.val)
  { id := nodeId
    softwareType := softwareType config i
    securityState := if isSeed then .compromised else .healthy
    neighbors := neighborsOf edges nodeId
    compromisedBy := none
    tickCompromised := if isSeed then some 0 else none
    agentKind := if isReal then .real else .simulated
    confidentialToken := if isReal then some (confidentialToken rng config.seed nodeId)
      else none }

def normalized (edge : String × String) : String × String :=
  if edge.1 < edge.2 then edge else (edge.2, edge.1)

def sortedEdges (edges : List (String × String)) : List (String × String) :=
  (edges.map normalized).dedup.insertionSort fun a b =>
    a.1 < b.1 ∨ a.1 = b.1 ∧ a.2 ≤ b.2

def makeNodes (rng : Rng) (edges : List (String × String)) (sortedIds : List String)
    (config : ExperimentConfig) : Table AgentNode.id :=
  sortedIds.zipIdx.foldl
    (fun nodes entry => nodes.put (makeNode rng edges sortedIds config entry)) Table.empty

def createdDraft (config : ExperimentConfig) (entry : String × Nat) : EventDraft :=
  { simTick := 0
    eventType := .agentCreated
    agentId := some entry.1
    metadata := [("software_type", .str (softwareType config entry.2))] }

def seededDraft (seedNode : String) : EventDraft :=
  { simTick := 0
    eventType := .compromiseSucceeded
    targetAgentId := some seedNode
    metadata := [("initial_compromise", .bool true)] }

/-- Assemble a world over a given topology. -/
def buildWorldFromAgents (rng : Rng) (agentIds : List String) (edges : List (String × String))
    (config : ExperimentConfig) : WorldState × List EventDraft :=
  let sortedIds := sorted agentIds
  ({ tick := 0
     nodes := makeNodes rng edges sortedIds config
     edges := sortedEdges edges },
    sortedIds.zipIdx.map (createdDraft config) ++
      [seededDraft (seedNode rng edges sortedIds config)])

def nodeId (i : Nat) : String := "agent-" ++ padded 10 3 i

/-- Draw a topology and assemble its world. -/
def buildWorld (rng : Rng) (networkx : Networkx) (config : ExperimentConfig) :
    WorldState × List EventDraft :=
  let n := config.nodeCount.val
  let graph := networkx.barabasiAlbertGraph n config.edgeDensity.val config.seed
  buildWorldFromAgents rng ((List.range n).map nodeId)
    (graph.map fun edge => normalized (nodeId edge.1, nodeId edge.2)) config

theorem makeNodes_member {rng : Rng} {edges : List (String × String)} {sortedIds : List String}
    {config : ExperimentConfig} {node : AgentNode}
    (member : node ∈ (makeNodes rng edges sortedIds config).values) :
    ∃ entry ∈ sortedIds.zipIdx, node = makeNode rng edges sortedIds config entry := by
  have whole : ∀ (entries : List (String × Nat)) (nodes : Table AgentNode.id),
      node ∈ (entries.foldl (fun nodes entry =>
        nodes.put (makeNode rng edges sortedIds config entry)) nodes).values →
      node ∈ nodes.values ∨
        ∃ entry ∈ entries, node = makeNode rng edges sortedIds config entry := by
    intro entries
    induction entries with
    | nil => exact fun _ inside => Or.inl inside
    | cons entry rest ih =>
      intro nodes inside
      rcases ih _ inside with early | ⟨later, there, same⟩
      · rcases Table.put_member early with new | ⟨old, _⟩
        · exact Or.inr ⟨entry, List.mem_cons_self, new⟩
        · exact Or.inl old
      · exact Or.inr ⟨later, List.mem_cons_of_mem entry there, same⟩
  rcases whole _ _ member with nothing | made
  · cases nothing
  · exact made

theorem observe_seeded (rng : Rng) (edges : List (String × String)) (sortedIds : List String)
    (config : ExperimentConfig) (entry : String × Nat) :
    observe (seededDraft (seedNode rng edges sortedIds config))
        (makeNode rng edges sortedIds config entry).view =
      (makeNode rng edges sortedIds config entry).view := by
  unfold observe seededDraft makeNode AgentNode.view
  by_cases same : seedNode rng edges sortedIds config = entry.1
  · simp [same, metadataGet]
  · simp [same]

theorem created_unmarked (config : ExperimentConfig) (entries : List (String × Nat)) :
    ∀ d ∈ entries.map (createdDraft config), ¬ Marks d := by
  intro d member
  obtain ⟨entry, _, rfl⟩ := List.mem_map.mp member
  simp [Marks, createdDraft]

theorem buildWorld_drafts_observed (rng : Rng) (networkx : Networkx)
    (config : ExperimentConfig) :
    foldViews (buildWorld rng networkx config).1.views (buildWorld rng networkx config).2 =
      (buildWorld rng networkx config).1.views := by
  unfold buildWorld buildWorldFromAgents
  dsimp only
  rw [foldViews_append, foldViews_unmarked (created_unmarked config _)]
  unfold foldViews WorldState.views
  rw [List.map_map]
  apply List.map_congr_left
  intro node member
  obtain ⟨entry, _, rfl⟩ := makeNodes_member member
  exact observe_seeded rng _ _ config entry

end AgentShield.TopologyBuilder
