import AgentShield.Graph.BlastRadius
import AgentShield.Orchestrator.LoopRuns
import AgentShield.Scenarios.QuarantineLedger

/-!
The agents over a run of the runner: how they move, how each compromise is traced
back to the patient zero, how far one can still spread, and how each quarantine is
accounted for.
-/
namespace AgentShield.Orchestrator
open Schema Engine Scenarios TopologyBuilder Analysis

/-- An agent that was ever compromised keeps the date; `provenance` leads from it to the one
    agent that nobody compromised. -/
structure Traceable (state : WorldState) (zero : String) : Prop where
  dated : ∀ node ∈ state.nodes.values, node.securityState = .compromised →
    node.tickCompromised ≠ none
  patientZero : ∃ node ∈ state.nodes.values, node.id = zero ∧ node.compromisedBy = none ∧
    node.tickCompromised = some 0
  unique : ∀ node ∈ state.nodes.values, node.tickCompromised ≠ none →
    node.compromisedBy = none → node.id = zero
  chains : ∀ node ∈ state.nodes.values, node.tickCompromised ≠ none →
    Provenance state zero node.id (provenance (compromisedByOf state) node.id)

theorem wellFormed_traceable {state : WorldState} {zero : String}
    (wellFormed : WellFormed zero state) (mesh : Mesh state)
    (patientZero : ∃ node ∈ state.nodes.values, node.id = zero ∧ node.compromisedBy = none ∧
      node.tickCompromised = some 0) : Traceable state zero := by
  constructor
  · exact wellFormed.marked
  · exact patientZero
  · intro node member marked first
    obtain ⟨path, traced⟩ := wellFormed.traced node member marked
    cases traced with
    | zero _ named => exact named
    | hop _ source_of =>
      rw [first] at source_of
      cases source_of
  · intro node member marked
    obtain ⟨path, traced⟩ := wellFormed.traced node member marked
    rw [provenance_traced traced]
    exact traced_provenance mesh traced

theorem effects_traceable {rng : Rng} {networkx : Networkx} {config : ExperimentConfig}
    {drafts : List EventDraft} {state : WorldState}
    (effects : Effects config (buildWorld rng networkx config).1 drafts state) :
    Traceable state (patientZero rng networkx config) := by
  have start := buildWorld_wellFormed rng networkx config
  have wellFormed := effects_wellFormed start effects
  apply wellFormed_traceable wellFormed (effects_mesh (buildWorld_mesh rng networkx config) effects)
  obtain ⟨⟨node, member, named⟩, each⟩ := buildWorld_zero rng networkx config
  obtain ⟨first, kind⟩ := each node member
  rw [if_pos named] at kind
  obtain ⟨change, nodes, moves⟩ := (effects_progressed start effects).agents
  have moved := moves node member
  obtain ⟨by_, date⟩ := moved.fixed (by rw [kind.2]; simp)
  refine ⟨change node, ?_, moved.agent.id.trans named, by_.trans first, date.trans kind.2⟩
  rw [nodes]
  exact List.mem_map_of_mem member

/-- In every state of every run, and from it to every later one. -/
theorem agents_only_move_forward (rng : Rng) (networkx : Networkx) (experimentId : Uuid)
    (config : ExperimentConfig) (hasGateway : Bool) (c c' : Config)
    (reach : Reachable rng (created rng networkx experimentId config hasGateway) c)
    (later : Reachable rng c c') :
    Traceable c.runner.state (patientZero rng networkx config) ∧
      Progressed c.runner.state c'.runner.state := by
  obtain ⟨_, _, drafts, effects⟩ := created_chains reach
  obtain ⟨more, further⟩ := later_effects reach later
  constructor
  · exact effects_traceable effects
  · have start := buildWorld_wellFormed rng networkx config
    exact effects_progressed (effects_wellFormed start effects) further

theorem agents_only_move_forward_at_first :
    Traceable (created default default 0 twoRealAgents true).runner.state
        (patientZero default default twoRealAgents) ∧
      Progressed (created default default 0 twoRealAgents true).runner.state
        firstWait.runner.state :=
  agents_only_move_forward default default 0 twoRealAgents true _ firstWait .refl
    (.single (.own (.enters rfl rfl)))

theorem effects_named {rng : Rng} {networkx : Networkx} {config : ExperimentConfig}
    {drafts : List EventDraft} {state : WorldState}
    (effects : Effects config (buildWorld rng networkx config).1 drafts state) :
    AgentsNamed state := by
  intro node member
  have known : node.id ∈ state.nodes.keys := List.mem_map_of_mem member
  rw [effects_keys effects] at known
  obtain ⟨node', member', same⟩ := List.mem_map.mp known
  obtain ⟨i, named⟩ := buildWorld_named member'
  exact ⟨i, same.symm.trans named⟩

/-- Whatever is drawn and answered later on, no agent outside the blast radius is hit. -/
theorem blast_radius_covers (rng rng' : Rng) (networkx : Networkx) (experimentId : Uuid)
    (config : ExperimentConfig) (hasGateway : Bool) (c c' : Config)
    (reach : Reachable rng (created rng networkx experimentId config hasGateway) c)
    (later : Reachable rng' c c') :
    ∀ node' ∈ c'.runner.state.nodes.values, HitSince c.runner.state node' →
      node'.id ∈ blastRadius (GraphBuilder.buildSecurityGraph rng c.runner.state config) := by
  obtain ⟨_, _, drafts, effects⟩ := created_chains reach
  obtain ⟨more, further⟩ := later_effects reach later
  have mesh := effects_mesh (buildWorld_mesh rng networkx config) effects
  exact (effects_inside mesh (effects_named effects) further).hit

theorem blast_radius_covers_first :
    ∃ node' ∈ firstWait.runner.state.nodes.values, node'.compromisedBy ≠ none ∧
      node'.id ∈ blastRadius (GraphBuilder.buildSecurityGraph default
        (created default default 0 twoRealAgents true).runner.state twoRealAgents) := by
  obtain ⟨_, _, _, _, hit⟩ := first_wait_holds_back
  have start : Reachable default (created default default 0 twoRealAgents true)
      (created default default 0 twoRealAgents true) := .refl
  have enters : Reachable default (created default default 0 twoRealAgents true) firstWait :=
    .single (.own (.enters rfl rfl))
  have covered := @blast_radius_covers default default default 0 twoRealAgents true _ _ start enters
  -- From here on, the two states are not to be computed.
  generalize firstWait.runner.state = state' at hit covered ⊢
  generalize (created default default 0 twoRealAgents true).runner.state = state at covered ⊢
  obtain ⟨node', member, compromised, attacked⟩ := hit
  exact ⟨node', member, attacked, covered node' member (Or.inl compromised)⟩

/-- Of each agent the log tells at most one quarantine, unfounded exactly when nothing was
    detected before it, and when the agent was never compromised. -/
theorem quarantines_accounted (rng : Rng) (networkx : Networkx) (experimentId : Uuid)
    (config : ExperimentConfig) (hasGateway : Bool) (c : Config)
    (reach : Reachable rng (created rng networkx experimentId config hasGateway) c) :
    ∀ node ∈ c.runner.state.nodes.values, ∀ before quarantine after,
      c.runner.log = before ++ quarantine :: after → Quarantine node.id quarantine →
      Accounted node before quarantine := by
  intro node member before quarantine after split contained
  obtain ⟨drafts, held, ended, effects, log, notices⟩ :=
    progress_effects (reachable_progress reach)
  have silent : ∀ d ∈ [({ simTick := 0, eventType := .experimentStarted } : EventDraft)],
      Silent d := by
    simp [Silent, Marks]
  have ledger := effects_ledger (buildWorld_ledger rng networkx config silent) effects node member
  rw [log] at split
  rcases History.split_append split with ⟨rest, inside, _⟩ | ⟨early, _, inside⟩
  · apply ledger.accounted before quarantine (rest ++ held) _ contained
    have published : [({ simTick := 0, eventType := .experimentStarted } : EventDraft)] ++
        (buildWorld rng networkx config).2 ++ drafts = before ++ quarantine :: rest := inside
    rw [← List.append_assoc, published, List.append_assoc]
    rfl
  · have stopped := notices quarantine (by rw [inside]; simp)
    rw [contained.1] at stopped
    cases stopped

def firstDetection : Config :=
  (created default default 0 smallNetwork false).withLoop
    (loopHead default (created default default 0 smallNetwork false).runner)

theorem first_detection_quarantines :
    ∃ node ∈ firstDetection.runner.state.nodes.values, ∃ d ∈ firstDetection.runner.log,
      d.eventType = .agentQuarantined ∧ d.agentId = some node.id := by
  decide +kernel

theorem quarantines_accounted_at_first :
    ∃ node ∈ firstDetection.runner.state.nodes.values, ∃ before quarantine after,
      firstDetection.runner.log = before ++ quarantine :: after ∧
        Accounted node before quarantine := by
  obtain ⟨node, member, quarantine, told, contained⟩ := first_detection_quarantines
  obtain ⟨before, after, split⟩ := List.append_of_mem told
  have enters : Reachable default (created default default 0 smallNetwork false) firstDetection :=
    .single (.own (.enters rfl rfl))
  have accounted := quarantines_accounted default default 0 smallNetwork false firstDetection enters
  exact ⟨node, member, before, quarantine, after, split,
    accounted node member before quarantine after split contained⟩

end AgentShield.Orchestrator
