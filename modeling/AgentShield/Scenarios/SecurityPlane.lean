import AgentShield.Engine.NodeFold
import AgentShield.Graph.Builder

/-!
The scenarios against the security plane (`scenarios/sentinel_compromise_scenario.py`,
`scenarios/attestation_scenario.py`, `scenarios/byzantine_collusion_scenario.py`).
None of them owns the tick, and none touches an agent.
-/
namespace AgentShield
open Schema Keyed Engine GraphBuilder

def sortedNodes (nodes : List GraphNode) : List GraphNode :=
  nodes.insertionSort fun a b => a.id ≤ b.id

/- `if newly_compromised == state.compromised_graph_nodes` makes no difference to the state. -/
def Engine.WorldState.withCompromised (state : WorldState) (newly : Finset String) :
    WorldState :=
  { state with compromisedGraphNodes := newly }

namespace SentinelCompromise

def monitorsCompromised (graph : SecurityGraph) (state : WorldState) (sentinel : GraphNode) :
    Bool :=
  (graph.edgesOfType .monitors).any fun edge => edge.source = sentinel.id ∧
    ∃ node ∈ state.nodes.values, node.id = edge.target ∧ node.securityState = .compromised

def subvertedDraft (tick : Nat) (sentinelId : String) : EventDraft :=
  { simTick := tick
    eventType := .policyViolation
    agentId := some sentinelId
    metadata := [("violation_type", .str "sentinel_subverted"),
      ("sentinel_id", .str sentinelId)] }

def poisonedDraft (tick : Nat) (sentinelId : String) : EventDraft :=
  { simTick := tick
    eventType := .threatSignaturePublished
    agentId := some sentinelId
    metadata := [("legitimate", .bool false)] }

def visit (rng : Rng) (graph : SecurityGraph) (state : WorldState) (config : ExperimentConfig)
    (acc : List EventDraft × Finset String) (sentinel : GraphNode) :
    List EventDraft × Finset String :=
  if sentinel.id ∈ acc.2 then acc
  else if monitorsCompromised graph state sentinel = false then acc
  else
    let draw := (rng config.seed state.tick sentinel.id "sentinel_compromise").random
    if draw < config.sentinelCompromiseRate.val then
      (acc.1 ++ [subvertedDraft state.tick sentinel.id], insert sentinel.id acc.2)
    else acc

def step (rng : Rng) (state : WorldState) (config : ExperimentConfig) :
    WorldState × List EventDraft :=
  if config.sentinelCompromiseRate.val ≤ 0 then (state, [])
  else
    let graph := buildSecurityGraph rng state config
    let sentinels := sortedNodes (graph.nodesOfType .sentinel)
    if sentinels = [] then (state, [])
    else
      let (drafts, newly) := sentinels.foldl (visit rng graph state config)
        ([], state.compromisedGraphNodes)
      let poisoned := sorted ((sentinels.map GraphNode.id).filter fun id => id ∈ newly)
      (state.withCompromised newly, drafts ++ poisoned.map (poisonedDraft state.tick))

end SentinelCompromise

namespace Attestation

def issuedDraft (tick nonce : Nat) (agentId : String) : EventDraft :=
  { simTick := tick
    eventType := .attestationIssued
    agentId := some agentId
    metadata := [("nonce", .int nonce)] }

def verifiedDraft (tick nonce : Nat) (replayed : Bool) (agentId : String) : EventDraft :=
  { simTick := tick
    eventType := .attestationVerified
    agentId := some agentId
    metadata := [("nonce", .int nonce), ("replayed", .bool replayed)] }

def attest (rng : Rng) (state : WorldState) (config : ExperimentConfig) (agent : AgentNode) :
    List EventDraft :=
  let draw := (rng config.seed state.tick agent.id "attestation_replay").random
  let replayed := decide (draw < config.attestationReplayRate.val)
  let nonce := if replayed then state.tick - 1 else state.tick
  [issuedDraft state.tick nonce agent.id, verifiedDraft state.tick nonce replayed agent.id]

def step (rng : Rng) (state : WorldState) (config : ExperimentConfig) :
    WorldState × List EventDraft :=
  if config.attestationReplayRate.val ≤ 0 ∨ config.sentinelCount.val = 0 then (state, [])
  else
    let graph := buildSecurityGraph rng state config
    if (graph.nodesOfType .securityControl).any fun node =>
        metadataGet node.attrs "kind" = some (.str "attestation_service") then
      (state, (state.inState .compromised).flatMap (attest rng state config))
    else (state, [])

end Attestation

namespace ByzantineCollusion

/- `for i in range(0, len(compromised) - 1, 2)`. -/
def pairs : List AgentNode → List (AgentNode × AgentNode)
  | a :: b :: rest => (a, b) :: pairs rest
  | _ => []

def holds (graph : SecurityGraph) (agent : AgentNode) (credential : GraphNode) : Bool :=
  (graph.edgesOfType .usesCredential).any fun edge =>
    edge.source = agent.id ∧ edge.target = credential.id

def exceeded (rng : Rng) (graph : SecurityGraph) (state : WorldState)
    (config : ExperimentConfig) (credentials : List GraphNode) (source accomplice : AgentNode) :
    Option GraphNode :=
  credentials.find? fun credential =>
    !(holds graph source credential || holds graph accomplice credential) &&
      decide ((rng config.seed state.tick credential.id
        ("collusion:" ++ source.id ++ ":" ++ accomplice.id)).random <
          config.byzantineCollusionRate.val)

def violationDraft (tick : Nat) (credentialId : String) (source accomplice : AgentNode) :
    EventDraft :=
  { simTick := tick
    eventType := .policyViolation
    sourceAgentId := some source.id
    targetAgentId := some accomplice.id
    metadata := [("violation_type", .str "credential_scope_exceeded"),
      ("credential_id", .str credentialId),
      ("colluding_agents", .strs [source.id, accomplice.id])] }

def collude (rng : Rng) (graph : SecurityGraph) (state : WorldState) (config : ExperimentConfig)
    (credentials : List GraphNode) (acc : List EventDraft × Finset String)
    (pair : AgentNode × AgentNode) : List EventDraft × Finset String :=
  match exceeded rng graph state config credentials pair.1 pair.2 with
  | none => acc
  | some credential =>
    (acc.1 ++ [violationDraft state.tick credential.id pair.1 pair.2], insert credential.id acc.2)

def step (rng : Rng) (state : WorldState) (config : ExperimentConfig) :
    WorldState × List EventDraft :=
  if config.byzantineCollusionRate.val ≤ 0 then (state, [])
  else
    let compromised := state.inState .compromised
    if compromised.length < 2 then (state, [])
    else
      let graph := buildSecurityGraph rng state config
      let credentials := sortedNodes (graph.nodesOfType .credential)
      if credentials = [] then (state, [])
      else
        let (drafts, newly) := (pairs compromised).foldl
          (collude rng graph state config credentials) ([], state.compromisedGraphNodes)
        (state.withCompromised newly, drafts)

end ByzantineCollusion

structure Quiet (state : WorldState) (drafts : List EventDraft) (state' : WorldState) : Prop where
  nodes : state'.nodes = state.nodes
  edges : state'.edges = state.edges
  tick : state'.tick = state.tick
  kept : state.compromisedGraphNodes ⊆ state'.compromisedGraphNodes
  silent : ∀ d ∈ drafts, Silent d ∧ d.simTick = state.tick

theorem quiet_same (state : WorldState) : Quiet state [] state := by
  refine ⟨rfl, rfl, rfl, Finset.Subset.refl _, ?_⟩
  intro d member
  cases member

theorem quiet_mirrors {state state' : WorldState} {drafts : List EventDraft}
    (quiet : Quiet state drafts state') : Mirrors state drafts state' :=
  mirrors_unmarked quiet.nodes fun d member => (quiet.silent d member).1.1

structure Reporting (state : WorldState) (acc : List EventDraft × Finset String) : Prop where
  kept : state.compromisedGraphNodes ⊆ acc.2
  silent : ∀ d ∈ acc.1, Silent d ∧ d.simTick = state.tick

theorem reporting_start (state : WorldState) :
    Reporting state ([], state.compromisedGraphNodes) := by
  constructor
  · exact Finset.Subset.refl _
  · intro d member
    cases member

theorem reporting_more {state : WorldState} {acc : List EventDraft × Finset String}
    (reporting : Reporting state acc) {draft : EventDraft} (silent : Silent draft)
    (now : draft.simTick = state.tick) (id : String) :
    Reporting state (acc.1 ++ [draft], insert id acc.2) := by
  constructor
  · exact reporting.kept.trans (Finset.subset_insert id acc.2)
  · intro d member
    rcases List.mem_append.mp member with old | new
    · exact reporting.silent d old
    · obtain rfl := List.mem_singleton.mp new
      exact ⟨silent, now⟩

theorem reporting_loop {α : Type} {state : WorldState} {round : List EventDraft × Finset String →
      α → List EventDraft × Finset String} (items : List α)
    (each : ∀ acc item, Reporting state acc → Reporting state (round acc item))
    {acc : List EventDraft × Finset String} (reporting : Reporting state acc) :
    Reporting state (items.foldl round acc) := by
  induction items generalizing acc with
  | nil => exact reporting
  | cons item rest ih => exact ih (each acc item reporting)

theorem SentinelCompromise.visit_reporting (rng : Rng) (graph : SecurityGraph)
    (state : WorldState) (config : ExperimentConfig) (acc : List EventDraft × Finset String)
    (sentinel : GraphNode) (reporting : Reporting state acc) :
    Reporting state (SentinelCompromise.visit rng graph state config acc sentinel) := by
  unfold SentinelCompromise.visit
  split
  · exact reporting
  · split
    · exact reporting
    · dsimp only
      split
      · apply reporting_more reporting
        · simp [Silent, Marks, subvertedDraft]
        · rfl
      · exact reporting

theorem SentinelCompromise.step_quiet (rng : Rng) (state : WorldState)
    (config : ExperimentConfig) :
    Quiet state (SentinelCompromise.step rng state config).2
      (SentinelCompromise.step rng state config).1 := by
  unfold SentinelCompromise.step
  split
  · exact quiet_same state
  · dsimp only
    split
    · exact quiet_same state
    · have reporting := reporting_loop
        (sortedNodes ((buildSecurityGraph rng state config).nodesOfType .sentinel))
        (visit_reporting rng (buildSecurityGraph rng state config) state config)
        (reporting_start state)
      refine ⟨rfl, rfl, rfl, reporting.kept, ?_⟩
      intro d member
      rcases List.mem_append.mp member with subverted | poisoned
      · exact reporting.silent d subverted
      · obtain ⟨id, _, rfl⟩ := List.mem_map.mp poisoned
        constructor
        · simp [Silent, Marks, poisonedDraft]
        · rfl

theorem Attestation.step_quiet (rng : Rng) (state : WorldState) (config : ExperimentConfig) :
    Quiet state (Attestation.step rng state config).2 (Attestation.step rng state config).1 := by
  unfold Attestation.step
  split
  · exact quiet_same state
  · dsimp only
    split
    · refine ⟨rfl, rfl, rfl, Finset.Subset.refl _, ?_⟩
      intro d member
      obtain ⟨agent, _, inside⟩ := List.mem_flatMap.mp member
      simp only [Attestation.attest, List.mem_cons, List.not_mem_nil, or_false] at inside
      rcases inside with rfl | rfl
      · exact ⟨by simp [Silent, Marks, issuedDraft], rfl⟩
      · exact ⟨by simp [Silent, Marks, verifiedDraft], rfl⟩
    · exact quiet_same state

theorem ByzantineCollusion.collude_reporting (rng : Rng) (graph : SecurityGraph)
    (state : WorldState) (config : ExperimentConfig) (credentials : List GraphNode)
    (acc : List EventDraft × Finset String) (pair : AgentNode × AgentNode)
    (reporting : Reporting state acc) :
    Reporting state (ByzantineCollusion.collude rng graph state config credentials acc pair) := by
  unfold ByzantineCollusion.collude
  split
  · exact reporting
  · apply reporting_more reporting
    · simp [Silent, Marks, violationDraft]
    · rfl

theorem ByzantineCollusion.step_quiet (rng : Rng) (state : WorldState)
    (config : ExperimentConfig) :
    Quiet state (ByzantineCollusion.step rng state config).2
      (ByzantineCollusion.step rng state config).1 := by
  unfold ByzantineCollusion.step
  split
  · exact quiet_same state
  · dsimp only
    split
    · exact quiet_same state
    · split
      · exact quiet_same state
      · have reporting := reporting_loop (pairs (state.inState .compromised))
          (collude_reporting rng (buildSecurityGraph rng state config) state config
            (sortedNodes ((buildSecurityGraph rng state config).nodesOfType .credential)))
          (reporting_start state)
        exact ⟨rfl, rfl, rfl, reporting.kept, reporting.silent⟩

end AgentShield
