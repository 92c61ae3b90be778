import Mathlib.Data.List.Chain
import AgentShield.Engine.InitialWorld
import AgentShield.Graph.Analysis
import AgentShield.Scenarios.Effects

/-!
The life of an agent over a run: healthy, compromised, quarantined, with a source
and a date that are fixed once they are set.
-/
namespace AgentShield.Scenarios
open Schema Keyed Engine Agents TopologyBuilder Analysis

/-- What one effect does to one agent. -/
inductive NodeStep (state : WorldState) (node : AgentNode) : AgentNode → Prop where
  | same : NodeStep state node node
  | compromised {source : AgentNode} (healthy : node.securityState = .healthy)
      (present : source ∈ state.nodes.values) (attacking : source.securityState = .compromised)
      (linked : node.id ∈ source.neighbors) :
      NodeStep state node (node.compromise source.id state.tick)
  | quarantined (going : node.securityState = .healthy ∨ node.securityState = .compromised) :
      NodeStep state node { node with securityState := .quarantined }

/-- What an effect leaves of a world. -/
structure Evolves (state : WorldState) (change : AgentNode → AgentNode) (state' : WorldState) :
    Prop where
  nodes : state'.nodes.values = state.nodes.values.map change
  steps : ∀ node ∈ state.nodes.values, NodeStep state node (change node)
  edges : state'.edges = state.edges
  tick : state.tick ≤ state'.tick

theorem same_node {state : WorldState} {node other : AgentNode}
    (member : node ∈ state.nodes.values) (member' : other ∈ state.nodes.values)
    (same : node.id = other.id) : node = other := by
  have found := Table.get?_of_member member
  rw [same, Table.get?_of_member member'] at found
  exact (Option.some.inj found).symm

theorem claimed_step {state : WorldState} {attack : Attack}
    (made : attack.Made state state.tick) {node : AgentNode} (member : node ∈ state.nodes.values) :
    NodeStep state node (node.claimed attack.claims state.tick) := by
  unfold AgentNode.claimed
  cases found : attack.claims.get? node.id with
  | none => exact .same
  | some claim =>
    obtain ⟨source, attacking, target, inside, rfl⟩ := made_claim made (Table.get?_member found)
    obtain ⟨present, compromised⟩ := mem_inState.mp attacking
    obtain ⟨linked, there, healthy⟩ := mem_healthyNeighbors.mp inside
    have same := Table.get?_key found
    obtain rfl := same_node there member same
    exact .compromised healthy present compromised linked

theorem effect_evolves {config : ExperimentConfig} {state state' : WorldState}
    {drafts : List EventDraft} (effect : Effect config state drafts state') :
    ∃ change, Evolves state change state' := by
  cases effect with
  | quiet quiet =>
    refine ⟨id, ?_, fun node _ => .same, quiet.edges, Nat.le_of_eq quiet.tick.symm⟩
    rw [quiet.nodes, List.map_id]
  | @attack attack _ made nodes edges tick =>
    refine ⟨AgentNode.claimed attack.claims state.tick, ?_, ?_, edges, tick⟩
    · rw [nodes]
      rfl
    · intro node member
      exact claimed_step made member
  | @detection detected falselyReported caught accused distinct =>
    refine ⟨Detection.quarantineIn ((detected ++ falselyReported).map AgentNode.id), rfl, ?_,
      rfl, Nat.le_refl _⟩
    intro node member
    unfold Detection.quarantineIn
    split
    · rename_i chosen
      obtain ⟨other, reported, same⟩ := List.mem_map.mp chosen
      rcases List.mem_append.mp reported with legitimate | unfounded
      · obtain ⟨present, compromised⟩ := caught other legitimate
        obtain rfl := same_node present member same
        exact .quarantined (Or.inr compromised)
      · obtain ⟨present, healthy⟩ := accused other unfounded
        obtain rfl := same_node present member same
        exact .quarantined (Or.inl healthy)
    · exact .same

structure SameAgent (node node' : AgentNode) : Prop where
  id : node'.id = node.id
  softwareType : node'.softwareType = node.softwareType
  neighbors : node'.neighbors = node.neighbors
  agentKind : node'.agentKind = node.agentKind
  confidentialToken : node'.confidentialToken = node.confidentialToken

theorem step_same_agent {state : WorldState} {node node' : AgentNode}
    (step : NodeStep state node node') : SameAgent node node' := by
  cases step <;> exact ⟨rfl, rfl, rfl, rfl, rfl⟩

theorem evolves_member {state state' : WorldState} {change : AgentNode → AgentNode}
    (evolves : Evolves state change state') {node' : AgentNode}
    (member : node' ∈ state'.nodes.values) :
    ∃ node ∈ state.nodes.values, node' = change node := by
  rw [evolves.nodes] at member
  obtain ⟨node, inside, rfl⟩ := List.mem_map.mp member
  exact ⟨node, inside, rfl⟩

theorem evolves_step {state state' : WorldState} {change : AgentNode → AgentNode}
    (evolves : Evolves state change state') {node' : AgentNode}
    (member : node' ∈ state'.nodes.values) :
    ∃ node ∈ state.nodes.values, NodeStep state node node' := by
  obtain ⟨node, inside, rfl⟩ := evolves_member evolves member
  exact ⟨node, inside, evolves.steps node inside⟩

theorem evolves_present {state state' : WorldState} {change : AgentNode → AgentNode}
    (evolves : Evolves state change state') {node : AgentNode}
    (member : node ∈ state.nodes.values) : change node ∈ state'.nodes.values := by
  rw [evolves.nodes]
  exact List.mem_map_of_mem member

theorem effects_keys {config : ExperimentConfig} {state state' : WorldState}
    {drafts : List EventDraft} (effects : Effects config state drafts state') :
    state'.nodes.keys = state.nodes.keys := by
  apply effects_keep (P := fun state' => state'.nodes.keys = state.nodes.keys) _ rfl effects
  intro before drafts after kept effect
  obtain ⟨change, evolves⟩ := effect_evolves effect
  rw [← kept]
  unfold Table.keys
  rw [evolves.nodes, List.map_map]
  apply List.map_congr_left
  intro node member
  exact (step_same_agent (evolves.steps node member)).id

/- The path leads from the agent to the source it was compromised by, and so on. -/
inductive Traced (state : WorldState) (zero : String) : AgentNode → List String → Prop where
  | zero {node : AgentNode} (member : node ∈ state.nodes.values) (named : node.id = zero)
      (first : node.compromisedBy = none) (dated : node.tickCompromised = some 0) :
      Traced state zero node [zero]
  | hop {node source : AgentNode} {path : List String} {t u : Nat}
      (member : node ∈ state.nodes.values) (source_of : node.compromisedBy = some source.id)
      (linked : node.id ∈ source.neighbors) (dated : node.tickCompromised = some t)
      (earlier : source.tickCompromised = some u) (order : u ≤ t) (fresh : node.id ∉ path)
      (before : Traced state zero source path) : Traced state zero node (node.id :: path)

structure WellFormed (zero : String) (state : WorldState) : Prop where
  states : ∀ node ∈ state.nodes.values, node.securityState = .healthy ∨
    node.securityState = .compromised ∨ node.securityState = .quarantined
  untouched : ∀ node ∈ state.nodes.values, node.securityState = .healthy →
    node.tickCompromised = none
  marked : ∀ node ∈ state.nodes.values, node.securityState = .compromised →
    node.tickCompromised ≠ none
  dated : ∀ node ∈ state.nodes.values, ∀ t, node.tickCompromised = some t → t ≤ state.tick
  traced : ∀ node ∈ state.nodes.values, node.tickCompromised ≠ none →
    ∃ path, Traced state zero node path

theorem traced_member {state : WorldState} {zero : String} {node : AgentNode}
    {path : List String} (traced : Traced state zero node path) : node ∈ state.nodes.values := by
  cases traced with
  | zero member => exact member
  | hop member => exact member

theorem traced_marked {state : WorldState} {zero : String} {node : AgentNode}
    {path : List String} (traced : Traced state zero node path) :
    ∀ id ∈ path, ∃ other ∈ state.nodes.values, other.id = id ∧ other.tickCompromised ≠ none := by
  induction traced with
  | zero member named first dated =>
    intro id inside
    obtain rfl := List.mem_singleton.mp inside
    exact ⟨_, member, named, by rw [dated]; simp⟩
  | hop member source_of linked dated earlier order fresh before ih =>
    intro id inside
    rcases List.mem_cons.mp inside with rfl | later
    · exact ⟨_, member, rfl, by rw [dated]; simp⟩
    · exact ih id later

theorem step_fixed {state : WorldState} {zero : String} (wellFormed : WellFormed zero state)
    {node node' : AgentNode} (member : node ∈ state.nodes.values)
    (step : NodeStep state node node') (marked : node.tickCompromised ≠ none) :
    node'.compromisedBy = node.compromisedBy ∧ node'.tickCompromised = node.tickCompromised := by
  cases step with
  | same => exact ⟨rfl, rfl⟩
  | compromised healthy present attacking linked =>
    exact absurd (wellFormed.untouched node member healthy) marked
  | quarantined going => exact ⟨rfl, rfl⟩

theorem traced_evolves {state state' : WorldState} {zero : String}
    (wellFormed : WellFormed zero state) {change : AgentNode → AgentNode}
    (evolves : Evolves state change state') {node : AgentNode} {path : List String}
    (traced : Traced state zero node path) : Traced state' zero (change node) path := by
  induction traced with
  | @zero node member named first dated =>
    have step := evolves.steps node member
    obtain ⟨by_, date⟩ := step_fixed wellFormed member step (by rw [dated]; simp)
    apply Traced.zero (evolves_present evolves member)
    · exact (step_same_agent step).id.trans named
    · exact by_.trans first
    · exact date.trans dated
  | @hop node source path t u member source_of linked dated earlier order fresh before ih =>
    have step := evolves.steps node member
    have source_member := traced_member before
    have source_step := evolves.steps source source_member
    obtain ⟨by_, date⟩ := step_fixed wellFormed member step (by rw [dated]; simp)
    obtain ⟨_, source_date⟩ := step_fixed wellFormed source_member source_step
      (by rw [earlier]; simp)
    have agent := step_same_agent step
    have source_agent := step_same_agent source_step
    rw [← agent.id]
    apply Traced.hop (evolves_present evolves member) _ _ (date.trans dated)
      (source_date.trans earlier) order _ ih
    · rw [by_, source_of, source_agent.id]
    · rw [agent.id, source_agent.neighbors]
      exact linked
    · rw [agent.id]
      exact fresh

theorem effect_wellFormed {config : ExperimentConfig} {state state' : WorldState}
    {drafts : List EventDraft} {zero : String} (wellFormed : WellFormed zero state)
    (effect : Effect config state drafts state') : WellFormed zero state' := by
  obtain ⟨change, evolves⟩ := effect_evolves effect
  constructor
  · intro node' member'
    obtain ⟨node, member, step⟩ := evolves_step evolves member'
    cases step with
    | same => exact wellFormed.states node' member
    | compromised => exact Or.inr (Or.inl rfl)
    | quarantined => exact Or.inr (Or.inr rfl)
  · intro node' member' healthy
    obtain ⟨node, member, step⟩ := evolves_step evolves member'
    cases step with
    | same => exact wellFormed.untouched node' member healthy
    | compromised => cases healthy
    | quarantined => cases healthy
  · intro node' member' compromised
    obtain ⟨node, member, step⟩ := evolves_step evolves member'
    cases step with
    | same => exact wellFormed.marked node' member compromised
    | compromised =>
      intro none
      cases none
    | quarantined => cases compromised
  · intro node' member' t date
    obtain ⟨node, member, step⟩ := evolves_step evolves member'
    apply Nat.le_trans _ evolves.tick
    cases step with
    | same => exact wellFormed.dated node' member t date
    | compromised => exact Nat.le_of_eq (Option.some.inj date).symm
    | quarantined => exact wellFormed.dated node member t date
  · intro node' member' marked
    obtain ⟨node, member, made⟩ := evolves_member evolves member'
    have step := evolves.steps node member
    rw [← made] at step
    cases step with
    | same =>
      obtain ⟨path, traced⟩ := wellFormed.traced node' member marked
      rw [made]
      exact ⟨path, traced_evolves wellFormed evolves traced⟩
    | quarantined going =>
      obtain ⟨path, traced⟩ := wellFormed.traced node member marked
      rw [made]
      exact ⟨path, traced_evolves wellFormed evolves traced⟩
    | @compromised source healthy present attacking linked =>
      -- The source was compromised before, and the new agent is on no path yet.
      have source_marked := wellFormed.marked source present attacking
      obtain ⟨path, traced⟩ := wellFormed.traced source present source_marked
      obtain ⟨u, date⟩ := Option.ne_none_iff_exists'.mp source_marked
      have source_step := evolves.steps source present
      have agent := step_same_agent source_step
      obtain ⟨_, source_date⟩ := step_fixed wellFormed present source_step source_marked
      refine ⟨node.id :: path, Traced.hop member' ?_ ?_ rfl (source_date.trans date)
        (wellFormed.dated source present u date) ?_ (traced_evolves wellFormed evolves traced)⟩
      · rw [agent.id]
        rfl
      · rw [agent.neighbors]
        exact linked
      · intro inside
        obtain ⟨other, there, same, other_marked⟩ := traced_marked traced node.id inside
        obtain rfl := same_node there member same
        exact other_marked (wellFormed.untouched _ member healthy)

theorem effects_wellFormed {config : ExperimentConfig} {state state' : WorldState}
    {drafts : List EventDraft} {zero : String} (wellFormed : WellFormed zero state)
    (effects : Effects config state drafts state') : WellFormed zero state' :=
  effects_keep effect_wellFormed wellFormed effects

structure Moved (node node' : AgentNode) : Prop where
  agent : SameAgent node node'
  state : node'.securityState = node.securityState ∨
    node.securityState = .healthy ∧ node'.securityState = .compromised ∨
    node.securityState = .compromised ∧ node'.securityState = .quarantined ∨
    node.securityState = .healthy ∧ node'.securityState = .quarantined
  fixed : node.tickCompromised ≠ none →
    node'.compromisedBy = node.compromisedBy ∧ node'.tickCompromised = node.tickCompromised

theorem moved_refl (node : AgentNode) : Moved node node :=
  ⟨⟨rfl, rfl, rfl, rfl, rfl⟩, Or.inl rfl, fun _ => ⟨rfl, rfl⟩⟩

theorem moved_trans {node node' node'' : AgentNode} (first : Moved node node')
    (second : Moved node' node'') : Moved node node'' := by
  constructor
  · constructor
    · exact second.agent.id.trans first.agent.id
    · exact second.agent.softwareType.trans first.agent.softwareType
    · exact second.agent.neighbors.trans first.agent.neighbors
    · exact second.agent.agentKind.trans first.agent.agentKind
    · exact second.agent.confidentialToken.trans first.agent.confidentialToken
  · have one := first.state
    have two := second.state
    cases start : node.securityState <;> cases middle : node'.securityState <;>
      cases final : node''.securityState <;> simp_all
  · intro marked
    obtain ⟨by_, date⟩ := first.fixed marked
    obtain ⟨by_', date'⟩ := second.fixed (by rw [date]; exact marked)
    exact ⟨by_'.trans by_, date'.trans date⟩

theorem step_moved {state : WorldState} {zero : String} (wellFormed : WellFormed zero state)
    {node node' : AgentNode} (member : node ∈ state.nodes.values)
    (step : NodeStep state node node') : Moved node node' := by
  constructor
  · exact step_same_agent step
  · cases step with
    | same => exact Or.inl rfl
    | compromised healthy => exact Or.inr (Or.inl ⟨healthy, rfl⟩)
    | quarantined going =>
      rcases going with healthy | compromised
      · exact Or.inr (Or.inr (Or.inr ⟨healthy, rfl⟩))
      · exact Or.inr (Or.inr (Or.inl ⟨compromised, rfl⟩))
  · exact step_fixed wellFormed member step

structure Progressed (state state' : WorldState) : Prop where
  agents : ∃ change : AgentNode → AgentNode,
    state'.nodes.values = state.nodes.values.map change ∧
      ∀ node ∈ state.nodes.values, Moved node (change node)
  edges : state'.edges = state.edges
  tick : state.tick ≤ state'.tick

theorem progressed_refl (state : WorldState) : Progressed state state := by
  refine ⟨⟨id, (List.map_id _).symm, ?_⟩, rfl, Nat.le_refl _⟩
  intro node _
  exact moved_refl node

theorem progressed_trans {state state' state'' : WorldState} (first : Progressed state state')
    (second : Progressed state' state'') : Progressed state state'' := by
  obtain ⟨change, nodes, moves⟩ := first.agents
  obtain ⟨change', nodes', moves'⟩ := second.agents
  refine ⟨⟨change' ∘ change, ?_, ?_⟩, second.edges.trans first.edges,
    Nat.le_trans first.tick second.tick⟩
  · rw [nodes', nodes, List.map_map]
  · intro node member
    apply moved_trans (moves node member)
    apply moves'
    rw [nodes]
    exact List.mem_map_of_mem member

theorem effects_progressed {config : ExperimentConfig} {state state' : WorldState}
    {drafts : List EventDraft} {zero : String} (wellFormed : WellFormed zero state)
    (effects : Effects config state drafts state') : Progressed state state' := by
  induction effects with
  | none => exact progressed_refl state
  | next before effect ih =>
    have later := effects_wellFormed wellFormed before
    obtain ⟨change, evolves⟩ := effect_evolves effect
    apply progressed_trans ih
    refine ⟨⟨change, evolves.nodes, ?_⟩, evolves.edges, evolves.tick⟩
    intro node member
    exact step_moved later member (evolves.steps node member)

theorem buildWorld_wellFormed (rng : Rng) (networkx : Networkx) (config : ExperimentConfig) :
    WellFormed (patientZero rng networkx config) (buildWorld rng networkx config).1 := by
  obtain ⟨_, each⟩ := buildWorld_zero rng networkx config
  constructor
  · intro node member
    obtain ⟨_, kind⟩ := each node member
    split at kind
    · exact Or.inr (Or.inl kind.1)
    · exact Or.inl kind.1
  · intro node member healthy
    obtain ⟨_, kind⟩ := each node member
    split at kind
    · rw [healthy] at kind
      cases kind.1
    · exact kind.2
  · intro node member compromised
    obtain ⟨_, kind⟩ := each node member
    split at kind
    · rw [kind.2]
      simp
    · rw [compromised] at kind
      cases kind.1
  · intro node member t date
    obtain ⟨_, kind⟩ := each node member
    split at kind
    · rw [kind.2] at date
      exact Nat.le_of_eq (Option.some.inj date).symm
    · rw [kind.2] at date
      cases date
  · intro node member marked
    obtain ⟨first, kind⟩ := each node member
    split at kind
    · rename_i named
      exact ⟨_, .zero member named first kind.2⟩
    · exact absurd kind.2 marked

theorem effects_mesh {config : ExperimentConfig} {state state' : WorldState}
    {drafts : List EventDraft} (mesh : Mesh state)
    (effects : Effects config state drafts state') : Mesh state' := by
  apply effects_keep _ mesh effects
  intro before drafts after mesh effect node' member' other linked
  obtain ⟨change, evolves⟩ := effect_evolves effect
  obtain ⟨node, member, step⟩ := evolves_step evolves member'
  have agent := step_same_agent step
  rw [agent.neighbors] at linked
  rw [agent.id, evolves.edges]
  exact mesh node member other linked

structure Hop (state : WorldState) (agent source : String) : Prop where
  edge : (source, agent) ∈ state.edges ∨ (agent, source) ∈ state.edges
  dates : ∃ node ∈ state.nodes.values, ∃ node' ∈ state.nodes.values, node.id = agent ∧
    node'.id = source ∧ ∃ t u, node.tickCompromised = some t ∧ node'.tickCompromised = some u ∧
      u ≤ t

structure Provenance (state : WorldState) (zero : String) (agent : String)
    (chain : List String) : Prop where
  starts : chain.head? = some agent
  ends : chain.getLast? = some zero
  hops : chain.IsChain (Hop state)
  distinct : chain.Nodup

theorem traced_provenance {state : WorldState} {zero : String} (mesh : Mesh state)
    {node : AgentNode} {path : List String} (traced : Traced state zero node path) :
    Provenance state zero node.id path := by
  induction traced with
  | zero member named first dated =>
    refine ⟨?_, rfl, .singleton _, List.nodup_singleton _⟩
    rw [named]
    rfl
  | @hop node source path t u member source_of linked dated earlier order fresh before ih =>
    obtain ⟨starts, ends, hops, distinct⟩ := ih
    cases path with
    | nil => cases starts
    | cons first rest =>
      obtain rfl : first = source.id := Option.some.inj starts
      constructor
      · rfl
      · rw [List.getLast?_cons_cons]
        exact ends
      · apply List.IsChain.cons_cons _ hops
        constructor
        · exact mesh source (traced_member before) node.id linked
        · exact ⟨node, member, source, traced_member before, rfl, rfl, t, u, dated, earlier, order⟩
      · exact List.nodup_cons.mpr ⟨fresh, distinct⟩

theorem provenance_traced {state : WorldState} {zero : String} {node : AgentNode}
    {path : List String} (traced : Traced state zero node path) :
    provenance (compromisedByOf state) node.id = path := by
  have walks : ∀ before : List String, (∀ id ∈ path, id ∉ before) →
      provenanceFrom (compromisedByOf state) (before ++ [node.id]) node.id = before ++ path := by
    induction traced with
    | zero member named first dated =>
      intro before _
      rw [provenanceFrom_first ((recordedSource_node member).trans first), named]
    | @hop node source path t u member source_of linked dated earlier order fresh traced ih =>
      intro before apart
      have heads : source.id ∈ path := by
        cases traced with
        | zero _ named => simp [named]
        | hop => exact List.mem_cons_self
      have recorded := (recordedSource_node member).trans source_of
      have unseen : ∀ id ∈ path, id ∉ before ++ [node.id] := by
        intro id inside seen
        rcases List.mem_append.mp seen with old | here
        · exact apart id (List.mem_cons_of_mem _ inside) old
        · rw [List.mem_singleton.mp here] at inside
          exact fresh inside
      rw [provenanceFrom_next recorded (unseen source.id heads), ih (before ++ [node.id]) unseen,
        List.append_assoc]
      rfl
  exact walks [] (by simp)

end AgentShield.Scenarios
