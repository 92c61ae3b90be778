import AgentShield.Engine.NodeFold
import AgentShield.Graph.Builder

/-!
Detection and quarantine (`security/detection.py`).
-/
namespace AgentShield.Detection
open Schema Keyed Engine GraphBuilder

def suppressedByCompromisedSentinels (rng : Rng) (state : WorldState)
    (config : ExperimentConfig) : List String :=
  if config.sentinelCount.val = 0 ∨ state.compromisedGraphNodes = ∅ then []
  else
    let graph := buildSecurityGraph rng state config
    let compromised := (graph.nodesOfType .sentinel).filter fun node =>
      node.id ∈ state.compromisedGraphNodes
    ((graph.edgesOfType .monitors).filter fun edge =>
      edge.source ∈ compromised.map GraphNode.id).map GraphEdge.target

def detected (rng : Rng) (state : WorldState) (config : ExperimentConfig) : List AgentNode :=
  let suppressed := suppressedByCompromisedSentinels rng state config
  (state.inState .compromised).filter fun node => node.id ∉ suppressed ∧
    (rng config.seed state.tick node.id "detect").random < config.detectorSensitivity.val

/- A subverted quarantine authority reports a healthy node. -/
def falselyReported (rng : Rng) (state : WorldState) (config : ExperimentConfig) :
    List AgentNode :=
  if 0 < config.falseQuarantineRate.val then
    (state.inState .healthy).filter fun node =>
      (rng config.seed state.tick node.id "false_quarantine").random <
        config.falseQuarantineRate.val
  else []

def anomalyDraft (config : ExperimentConfig) (tick : Nat) (node : AgentNode) : EventDraft :=
  { simTick := tick
    eventType := .anomalyDetected
    agentId := some node.id
    metadata := [("sensitivity", .float config.detectorSensitivity.val)] }

def quarantinedDraft (tick : Nat) (metadata : Metadata) (node : AgentNode) : EventDraft :=
  { simTick := tick, eventType := .agentQuarantined, agentId := some node.id, metadata }

def drafts (config : ExperimentConfig) (tick : Nat) (detected falselyReported : List AgentNode) :
    List EventDraft :=
  (detected.flatMap fun node => [anomalyDraft config tick node, quarantinedDraft tick [] node]) ++
    falselyReported.map (quarantinedDraft tick [("legitimate", .bool false)])

def quarantineIn (ids : List String) (node : AgentNode) : AgentNode :=
  if node.id ∈ ids then { node with securityState := .quarantined } else node

theorem quarantineIn_id (ids : List String) (node : AgentNode) :
    (quarantineIn ids node).id = node.id := by
  unfold quarantineIn
  split <;> rfl

def quarantineAll (ids : List String) (nodes : Table AgentNode.id) : Table AgentNode.id :=
  nodes.update (quarantineIn ids) (quarantineIn_id ids)

/-- Advance detection and quarantine for one tick. -/
def step (rng : Rng) (state : WorldState) (config : ExperimentConfig) :
    WorldState × List EventDraft :=
  if config.defenseEnabled = false then (state, [])
  else
    let detected := detected rng state config
    let falselyReported := falselyReported rng state config
    let quarantined := (detected ++ falselyReported).map AgentNode.id
    ({ state with nodes := quarantineAll quarantined state.nodes },
      drafts config state.tick detected falselyReported)

theorem step_clears {rng : Rng} {state : WorldState} {config : ExperimentConfig}
    (defended : config.defenseEnabled = true)
    (seeing : suppressedByCompromisedSentinels rng state config = [])
    (sure : ∀ id, (rng config.seed state.tick id "detect").random < config.detectorSensitivity.val) :
    ∀ node ∈ (step rng state config).1.nodes.values, node.securityState ≠ .compromised := by
  intro node member
  unfold step at member
  rw [if_neg (by rw [defended]; simp)] at member
  obtain ⟨old, there, rfl⟩ := List.mem_map.mp member
  by_cases compromised : old.securityState = .compromised
  · have caught : old ∈ detected rng state config := by
      unfold detected
      refine List.mem_filter.mpr ⟨mem_inState.mpr ⟨there, compromised⟩, ?_⟩
      rw [seeing]
      exact decide_eq_true ⟨List.not_mem_nil, sure old.id⟩
    unfold quarantineIn
    rw [if_pos (List.mem_map_of_mem (List.mem_append_left _ caught))]
    simp
  · unfold quarantineIn
    split
    · simp
    · exact compromised

theorem mem_detected {rng : Rng} {state : WorldState} {config : ExperimentConfig}
    {node : AgentNode} (member : node ∈ detected rng state config) :
    node ∈ state.nodes.values ∧ node.securityState = .compromised :=
  mem_inState.mp (List.mem_of_mem_filter member)

theorem mem_falselyReported {rng : Rng} {state : WorldState} {config : ExperimentConfig}
    {node : AgentNode} (member : node ∈ falselyReported rng state config) :
    node ∈ state.nodes.values ∧ node.securityState = .healthy := by
  unfold falselyReported at member
  split at member
  · exact mem_inState.mp (List.mem_of_mem_filter member)
  · cases member

theorem observeAll_quarantines {drafts : List EventDraft}
    (spread : ∀ d ∈ drafts, d.eventType ≠ .compromiseSucceeded) (view : NodeView) :
    observeAll drafts view =
      if ∃ d ∈ drafts, d.eventType = .agentQuarantined ∧ d.agentId = some view.id then
        { view with securityState := .quarantined }
      else view := by
  induction drafts generalizing view with
  | nil => simp
  | cons draft rest ih =>
    have here := spread draft List.mem_cons_self
    have later := ih (fun d member => spread d (List.mem_cons_of_mem draft member))
    have unfolded : observeAll (draft :: rest) view = observeAll rest (observe draft view) := rfl
    rw [unfolded, later, observe_id]
    have first : observe draft view =
        if draft.eventType = .agentQuarantined ∧ draft.agentId = some view.id then
          { view with securityState := .quarantined } else view := by
      unfold observe
      rw [if_neg]
      intro both
      exact here both.1
    rw [first]
    by_cases now : draft.eventType = .agentQuarantined ∧ draft.agentId = some view.id
    · simp [now]
    · simp only [List.mem_cons, exists_eq_or_imp, now, false_or, ↓reduceIte]

theorem drafts_spread {config : ExperimentConfig} {tick : Nat}
    {detected falselyReported : List AgentNode} :
    ∀ d ∈ drafts config tick detected falselyReported, d.eventType ≠ .compromiseSucceeded := by
  intro d member
  rcases List.mem_append.mp member with legitimate | unfounded
  · obtain ⟨node, _, inside⟩ := List.mem_flatMap.mp legitimate
    simp only [List.mem_cons, List.not_mem_nil, or_false] at inside
    rcases inside with rfl | rfl
    · simp [anomalyDraft]
    · simp [quarantinedDraft]
  · obtain ⟨node, _, rfl⟩ := List.mem_map.mp unfounded
    simp [quarantinedDraft]

theorem drafts_quarantine {config : ExperimentConfig} {tick : Nat}
    {detected falselyReported : List AgentNode} {id : String} :
    (∃ d ∈ drafts config tick detected falselyReported,
        d.eventType = .agentQuarantined ∧ d.agentId = some id) ↔
      id ∈ (detected ++ falselyReported).map AgentNode.id := by
  unfold drafts
  constructor
  · rintro ⟨d, member, type, subject⟩
    rcases List.mem_append.mp member with legitimate | unfounded
    · obtain ⟨node, inside, one⟩ := List.mem_flatMap.mp legitimate
      simp only [List.mem_cons, List.not_mem_nil, or_false] at one
      rcases one with rfl | rfl
      · cases type
      · obtain rfl := Option.some.inj subject
        exact List.mem_map_of_mem (List.mem_append_left _ inside)
    · obtain ⟨node, inside, rfl⟩ := List.mem_map.mp unfounded
      obtain rfl := Option.some.inj subject
      exact List.mem_map_of_mem (List.mem_append_right _ inside)
  · intro member
    obtain ⟨node, inside, rfl⟩ := List.mem_map.mp member
    rcases List.mem_append.mp inside with legitimate | unfounded
    · refine ⟨quarantinedDraft tick [] node, ?_, rfl, rfl⟩
      apply List.mem_append_left
      exact List.mem_flatMap.mpr ⟨node, legitimate, by simp⟩
    · refine ⟨quarantinedDraft tick [("legitimate", .bool false)] node, ?_, rfl, rfl⟩
      exact List.mem_append_right _ (List.mem_map_of_mem unfounded)

theorem view_quarantineIn (ids : List String) (node : AgentNode) :
    (quarantineIn ids node).view =
      if node.view.id ∈ ids then { node.view with securityState := .quarantined }
      else node.view := by
  unfold quarantineIn
  split
  · rename_i chosen
    exact (if_pos (c := node.view.id ∈ ids) chosen).symm
  · rename_i spared
    exact (if_neg (c := node.view.id ∈ ids) spared).symm

theorem rank_le_two (securityState : SecurityState) : rank securityState ≤ 2 := by
  cases securityState <;> decide

theorem drafts_mirror {state : WorldState} {config : ExperimentConfig}
    {detected falselyReported : List AgentNode}
    (caught : ∀ node ∈ detected, node ∈ state.nodes.values ∧ node.securityState = .compromised)
    (accused : ∀ node ∈ falselyReported, node ∈ state.nodes.values ∧
      node.securityState = .healthy) :
    Mirrors state (drafts config state.tick detected falselyReported)
      { state with
        nodes := quarantineAll ((detected ++ falselyReported).map AgentNode.id) state.nodes } := by
  have folded : ∀ view, observeAll (drafts config state.tick detected falselyReported) view =
      if view.id ∈ (detected ++ falselyReported).map AgentNode.id then
        { view with securityState := .quarantined } else view := by
    intro view
    rw [observeAll_quarantines drafts_spread]
    simp only [drafts_quarantine]
  constructor
  · unfold WorldState.views foldViews quarantineAll
    rw [Table.update_values, List.map_map, List.map_map]
    apply List.map_congr_left
    intro node _
    exact (view_quarantineIn _ node).trans (folded node.view).symm
  constructor
  · intro view _
    rw [folded]
    unfold Lower
    split
    · exact Nat.not_lt.mpr (rank_le_two view.securityState)
    · exact Nat.lt_irrefl _
  · intro d member marks
    have type : d.eventType = .agentQuarantined := by
      rcases marks with spread | quarantined
      · exact absurd spread (drafts_spread d member)
      · exact quarantined
    obtain ⟨id, subject⟩ : ∃ id, d.agentId = some id := by
      rcases List.mem_append.mp member with legitimate | unfounded
      · obtain ⟨node, _, one⟩ := List.mem_flatMap.mp legitimate
        simp only [List.mem_cons, List.not_mem_nil, or_false] at one
        rcases one with rfl | rfl <;> exact ⟨node.id, rfl⟩
      · obtain ⟨node, _, rfl⟩ := List.mem_map.mp unfounded
        exact ⟨node.id, rfl⟩
    have quarantined := drafts_quarantine.mp ⟨d, member, type, subject⟩
    obtain ⟨node, inside, rfl⟩ := List.mem_map.mp quarantined
    have before : node ∈ state.nodes.values ∧ rank node.securityState < 2 := by
      rcases List.mem_append.mp inside with legitimate | unfounded
      · obtain ⟨present, compromised⟩ := caught node legitimate
        exact ⟨present, by rw [compromised]; decide⟩
      · obtain ⟨present, healthy⟩ := accused node unfounded
        exact ⟨present, by rw [healthy]; decide⟩
    refine ⟨node.view, List.mem_map_of_mem before.1, ?_⟩
    have chosen := (folded node.view).trans (if_pos quarantined)
    rw [chosen]
    exact before.2

end AgentShield.Detection
