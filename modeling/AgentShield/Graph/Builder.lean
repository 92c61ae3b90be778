import AgentShield.Engine.State

/-!
The typed security graph (`graph/types.py`, `graph/security_graph.py`) and how it
is built from a world (`graph/builder.py`).
-/
namespace AgentShield.GraphBuilder
open Schema Keyed Engine

inductive NodeType where
  | agent
  | tool
  | mcpServer
  | credential
  | resource
  | memoryStore
  | sentinel
  | securityControl
  deriving DecidableEq, Repr

inductive EdgeType where
  | communicatesWith
  | delegatesTo
  | trusts
  | canAccess
  | usesCredential
  | monitors
  | quarantineAuthority
  | updatesThreatMemory
  deriving DecidableEq, Repr

structure GraphNode where
  id : String
  nodeType : NodeType
  securityState : SecurityState := .healthy
  attrs : Metadata := []
  deriving DecidableEq

structure GraphEdge where
  source : String
  target : String
  edgeType : EdgeType
  attrs : Metadata := []
  deriving DecidableEq

/- Two nodes have at most one edge of a type: the multigraph's key is the type. -/
def GraphEdge.key (edge : GraphEdge) : String × String × EdgeType :=
  (edge.source, edge.target, edge.edgeType)

structure SecurityGraph where
  nodes : Table GraphNode.id
  edges : Table GraphEdge.key

namespace SecurityGraph

def empty : SecurityGraph := ⟨Table.empty, Table.empty⟩

def addNode (graph : SecurityGraph) (node : GraphNode) : SecurityGraph :=
  { graph with nodes := graph.nodes.put node }

def addEdge (graph : SecurityGraph) (edge : GraphEdge) : SecurityGraph :=
  { graph with edges := graph.edges.put edge }

def nodesOfType (graph : SecurityGraph) (nodeType : NodeType) : List GraphNode :=
  graph.nodes.values.filter fun node => node.nodeType = nodeType

/- `edges(frozenset({edge_type}))`; the callers collect sets, so the order is free. -/
def edgesOfType (graph : SecurityGraph) (edgeType : EdgeType) : List GraphEdge :=
  graph.edges.values.filter fun edge => edge.edgeType = edgeType

end SecurityGraph

def toolId (i : Nat) : String := "tool-" ++ padded 10 3 i
def resourceId (i : Nat) : String := "resource-" ++ padded 10 3 i
def credentialId (i : Nat) : String := "credential-" ++ padded 10 3 i
def sentinelId (i : Nat) : String := "sentinel-" ++ padded 10 3 i

def stateFor (nodeId : String) (compromisedGraphNodes : Finset String) : SecurityState :=
  if nodeId ∈ compromisedGraphNodes then .compromised else .healthy

def addAgent (graph : SecurityGraph) (node : AgentNode) : SecurityGraph :=
  graph.addNode
    { id := node.id
      nodeType := .agent
      securityState := node.securityState
      attrs := [("software_type", .str node.softwareType),
        ("agent_kind", .str (match node.agentKind with
          | .simulated => "simulated"
          | .real => "real"))] }

/- Both directions communicate, and trust mirrors them. -/
def addLink (graph : SecurityGraph) (link : String × String) : SecurityGraph :=
  ((((graph.addEdge ⟨link.1, link.2, .communicatesWith, []⟩).addEdge
    ⟨link.2, link.1, .communicatesWith, []⟩).addEdge
    ⟨link.1, link.2, .trusts, [("weight", .float 1)]⟩).addEdge
    ⟨link.2, link.1, .trusts, [("weight", .float 1)]⟩)

def attachTool (rng : Rng) (config : ExperimentConfig) (agentIds : List String)
    (accessorsPerTool : Nat) (graph : SecurityGraph) (i : Nat) : SecurityGraph :=
  let accessors := (rng config.seed 0 (toolId i) "tool_access").sample agentIds
    (min agentIds.length accessorsPerTool)
  (sorted accessors).foldl
    (fun graph agentId => graph.addEdge ⟨agentId, toolId i, .canAccess, []⟩)
    (graph.addNode { id := toolId i, nodeType := .tool })

def attachTools (rng : Rng) (graph : SecurityGraph) (agentIds : List String)
    (config : ExperimentConfig) : SecurityGraph :=
  if config.toolCount.val = 0 ∨ agentIds = [] then graph
  else
    let accessorsPerTool := max 1 (agentIds.length / config.toolCount.val)
    (List.range config.toolCount.val).foldl
      (attachTool rng config agentIds accessorsPerTool) graph

def attachCredential (rng : Rng) (config : ExperimentConfig) (agentIds : List String)
    (compromisedGraphNodes : Finset String) (graph : SecurityGraph) (i : Nat) : SecurityGraph :=
  let holder := (rng config.seed 0 (credentialId i) "credential_holder").choice agentIds
  let graph := (graph.addNode
    { id := credentialId i
      nodeType := .credential
      securityState := stateFor (credentialId i) compromisedGraphNodes }).addEdge
    ⟨holder, credentialId i, .usesCredential, []⟩
  if 0 < config.resourceCount.val then
    graph.addEdge ⟨credentialId i, resourceId (i % config.resourceCount.val), .canAccess, []⟩
  else graph

def attachCredentialsAndResources (rng : Rng) (graph : SecurityGraph) (agentIds : List String)
    (config : ExperimentConfig) (compromisedGraphNodes : Finset String) : SecurityGraph :=
  if agentIds = [] then graph
  else
    let resources := (List.range config.resourceCount.val).foldl
      (fun graph i => graph.addNode { id := resourceId i, nodeType := .resource }) graph
    (List.range config.credentialCount.val).foldl
      (attachCredential rng config agentIds compromisedGraphNodes) resources

def controls : List (String × String) :=
  [("trust_manager", "control-trust-manager"),
    ("threat_memory_store", "control-threat-memory"),
    ("attestation_service", "control-attestation"),
    ("quarantine_authority", "control-quarantine")]

def attachControl (compromisedGraphNodes : Finset String) (graph : SecurityGraph)
    (control : String × String) : SecurityGraph :=
  graph.addNode
    { id := control.2
      nodeType := .securityControl
      securityState := stateFor control.2 compromisedGraphNodes
      attrs := [("kind", .str control.1)] }

def attachSentinel (compromisedGraphNodes : Finset String) (graph : SecurityGraph) (i : Nat) :
    SecurityGraph :=
  ((graph.addNode
    { id := sentinelId i
      nodeType := .sentinel
      securityState := stateFor (sentinelId i) compromisedGraphNodes }).addEdge
    ⟨sentinelId i, "control-threat-memory", .updatesThreatMemory, []⟩).addEdge
    ⟨"control-threat-memory", sentinelId i, .updatesThreatMemory, []⟩

def attachMonitor (sentinelCount : Nat) (graph : SecurityGraph) (entry : String × Nat) :
    SecurityGraph :=
  graph.addEdge ⟨sentinelId (entry.2 % sentinelCount), entry.1, .monitors, []⟩

def attachSecurityPlane (graph : SecurityGraph) (agentIds : List String)
    (config : ExperimentConfig) (compromisedGraphNodes : Finset String) : SecurityGraph :=
  if config.sentinelCount.val = 0 ∨ agentIds = [] then graph
  else
    let graph := controls.foldl (attachControl compromisedGraphNodes) graph
    let graph := agentIds.foldl
      (fun graph agentId => graph.addEdge
        ⟨"control-quarantine", agentId, .quarantineAuthority, []⟩) graph
    let graph := (List.range config.sentinelCount.val).foldl
      (attachSentinel compromisedGraphNodes) graph
    agentIds.zipIdx.foldl (attachMonitor config.sentinelCount.val) graph

/-- A function of the world and the configuration alone. -/
def buildSecurityGraph (rng : Rng) (state : WorldState) (config : ExperimentConfig) :
    SecurityGraph :=
  let sortedAgentIds := sorted state.nodes.keys
  let graph := (sortedById state.nodes.values).foldl addAgent .empty
  let graph := state.edges.foldl addLink graph
  let graph := attachTools rng graph sortedAgentIds config
  let graph := attachCredentialsAndResources rng graph sortedAgentIds config
    state.compromisedGraphNodes
  attachSecurityPlane graph sortedAgentIds config state.compromisedGraphNodes

end AgentShield.GraphBuilder
