import Mathlib.Algebra.Order.Field.Basic
import Mathlib.Algebra.Order.Field.Rat
import Mathlib.Data.Finset.Sort
import Mathlib.Data.String.Basic
import Mathlib.Tactic.Positivity
import AgentShield.Api.History
import AgentShield.Engine.Replay
import AgentShield.Graph.Contents
import AgentShield.Metrics.Compute
import AgentShield.Orchestrator.AgentLives

/-!
The blast-radius endpoints (`api/routes_graph.py`, `api/routes_history.py`), live and of a
replay, against the metric of the same graph.
-/
namespace AgentShield.ExperimentHistory
open Schema Keyed Events Engine Scenarios TopologyBuilder Propagation GraphBuilder Analysis Metrics
  Orchestrator Simulate Replay Loop

structure BlastRadiusResponse where
  compromised : List String
  reachable : List String
  fraction : Rat
  deriving DecidableEq

def blastRadiusResponse (graph : SecurityGraph) : BlastRadiusResponse :=
  let reachable := (blastRadius graph).sort (· ≤ ·)
  let totalAgents := (graph.nodesOfType .agent).length
  { compromised := sorted (compromisedIds graph)
    reachable
    fraction := if totalAgents = 0 then 0 else fraction reachable.length totalAgents }

def runnerFor : Option ExperimentRunner → Except HTTPException ExperimentRunner
  | none => .error ⟨404, "experiment not found"⟩
  | some runner => .ok runner

def securityGraphFor (rng : Rng) (registered : Option ExperimentRunner) :
    Except HTTPException SecurityGraph := do
  let runner ← runnerFor registered
  return buildSecurityGraph rng runner.state runner.config

def getBlastRadius (rng : Rng) (registered : Option ExperimentRunner) :
    Except HTTPException BlastRadiusResponse := do
  let graph ← securityGraphFor rng registered
  return blastRadiusResponse graph

def loadReplayTarget (pool : Pool) (experimentId : Uuid) :
    Except HTTPException (ExperimentConfig × Nat) :=
  match pool.experiments.get? experimentId with
  | none => .error ⟨404, "experiment not found"⟩
  | some row =>
    match row.finalSimTick with
    | none => .error ⟨409, "experiment has not finished; no final tick recorded yet"⟩
    | some targetTick => .ok (row.config, targetTick)

structure Reconstruction where
  world : WorldState
  config : ExperimentConfig
  graph : SecurityGraph
  events : List Event

def internalServerError : HTTPException := ⟨500, "Internal Server Error"⟩

/- A coroutine, so that its event loop runs. `replayId` is drawn by the reconstruction; `none`
   when it is not over after `rounds`. -/
def reconstructForReplay (rng : Rng) (networkx : Networkx) (replayId : Uuid) (rounds : Nat)
    (pool : Pool) (experimentId : Uuid) : Except HTTPException (Option Reconstruction) := do
  let (config, targetTick) ← loadReplayTarget pool experimentId
  match reconstructFinalState rng networkx true replayId config targetTick rounds with
  | .error (.unsupported text) => .error ⟨409, text⟩
  | .error .runningLoop => .error internalServerError
  | .ok replayed => return replayed.map fun (world, events) =>
      { world, config, graph := buildSecurityGraph rng world config, events }

def getReplayBlastRadius (rng : Rng) (networkx : Networkx) (replayId : Uuid) (rounds : Nat)
    (connected : Option Pool) (experimentId : Uuid) :
    Except HTTPException (Option BlastRadiusResponse) := do
  let pool ← getPool connected
  let reconstruction ← reconstructForReplay rng networkx replayId rounds pool experimentId
  return reconstruction.map fun replayed => blastRadiusResponse replayed.graph

def FractionAgrees (response : BlastRadiusResponse) (graph : SecurityGraph) : Prop :=
  response.fraction = blastRadiusFraction graph ∧ 0 ≤ response.fraction ∧ response.fraction ≤ 1

theorem fraction_injective {part part' whole : Nat} (some_ : whole ≠ 0) :
    fraction part whole = fraction part' whole ↔ part = part' := by
  have nonzero : (whole : Rat) ≠ 0 := Nat.cast_ne_zero.mpr some_
  unfold fraction
  rw [div_left_inj' nonzero, Nat.cast_inj]

theorem fraction_unit {part whole : Nat} (below : part ≤ whole) :
    0 ≤ fraction part whole ∧ fraction part whole ≤ 1 := by
  unfold fraction
  constructor
  · positivity
  · apply div_le_one_of_le₀
    · exact_mod_cast below
    · positivity

theorem agents_counted (graph : SecurityGraph) :
    (((graph.nodesOfType .agent).map GraphNode.id).toFinset).card =
      (graph.nodesOfType .agent).length := by
  have distinct : ((graph.nodesOfType .agent).map GraphNode.id).Nodup :=
    graph.nodes.distinct.sublist (List.Sublist.map GraphNode.id List.filter_sublist)
  rw [List.toFinset_card_of_nodup distinct, List.length_map]

/-- The two fractions count the same exactly if only agents are in reach. -/
theorem fraction_agrees_iff {graph : SecurityGraph}
    (inhabited : graph.nodesOfType .agent ≠ []) :
    FractionAgrees (blastRadiusResponse graph) graph ↔
      ∀ id ∈ blastRadius graph, id ∈ (graph.nodesOfType .agent).map GraphNode.id := by
  have some_ : (graph.nodesOfType .agent).length ≠ 0 := fun zero =>
    inhabited (List.length_eq_zero_iff.mp zero)
  unfold FractionAgrees blastRadiusResponse blastRadiusFraction
  dsimp only
  rw [agents_counted, if_neg some_, if_neg some_, Finset.length_sort, fraction_injective some_]
  constructor
  · rintro ⟨same, _⟩ id reached
    have whole := Finset.eq_of_subset_of_card_le Finset.inter_subset_left same.le
    rw [← whole] at reached
    exact List.mem_toFinset.mp (Finset.mem_inter.mp reached).2
  · intro agents
    have within : blastRadius graph ⊆ ((graph.nodesOfType .agent).map GraphNode.id).toFinset :=
      fun id reached => List.mem_toFinset.mpr (agents id reached)
    refine ⟨by rw [Finset.inter_eq_left.mpr within], fraction_unit ?_⟩
    rw [← agents_counted]
    exact Finset.card_le_card within

def Evolved (rng : Rng) (networkx : Networkx) (config : ExperimentConfig) (state : WorldState) :
    Prop :=
  ∃ drafts, Effects config (buildWorld rng networkx config).1 drafts state

theorem evolved_start (rng : Rng) (networkx : Networkx) (config : ExperimentConfig) :
    Evolved rng networkx config (buildWorld rng networkx config).1 := ⟨[], .none _⟩

section
variable {rng : Rng} {networkx : Networkx} {config : ExperimentConfig} {state : WorldState}

theorem buildWorld_has {i : Nat} (below : i < config.nodeCount.val) :
    nodeId i ∈ (buildWorld rng networkx config).1.nodes.keys := by
  apply makeNodes_has rng (drawnEdges networkx config)
  rw [mem_sorted]
  exact List.mem_map_of_mem (List.mem_range.mpr below)

theorem effects_edges {drafts : List EventDraft} {state' : WorldState}
    (effects : Effects config state drafts state') : state'.edges = state.edges := by
  apply effects_keep (P := fun state' => state'.edges = state.edges) _ rfl effects
  intro before drafts after kept effect
  obtain ⟨change, evolves⟩ := effect_evolves effect
  exact evolves.edges.trans kept

theorem normalized_ends (edge : String × String) :
    normalized edge = edge ∨ normalized edge = (edge.2, edge.1) := by
  unfold normalized
  split
  · exact Or.inl rfl
  · exact Or.inr rfl

theorem buildWorld_within (rng : Rng) (networkx : Networkx) (config : ExperimentConfig) :
    MeshWithin (buildWorld rng networkx config).1 := by
  have keys : ∀ i < config.nodeCount.val,
      nodeId i ∈ (buildWorld rng networkx config).1.nodes.keys := fun _ => buildWorld_has
  intro edge listed
  obtain ⟨pair, drawn, rfl⟩ := List.mem_map.mp (mem_sortedEdges.mp listed)
  obtain ⟨ends, there, rfl⟩ := List.mem_map.mp drawn
  have few : config.edgeDensity.val < config.nodeCount.val :=
    lt_of_le_of_lt config.edgeDensity.property.2 (lt_of_lt_of_le (by decide)
      config.nodeCount.property.1)
  obtain ⟨first, second, _⟩ :=
    networkx.within _ _ config.seed config.edgeDensity.property.1 few ends there
  have inner := normalized_ends (nodeId ends.1, nodeId ends.2)
  rcases normalized_ends (normalized (nodeId ends.1, nodeId ends.2)) with outer | outer
  · rcases inner with inner | inner
    · rw [outer, inner]
      exact ⟨keys _ first, keys _ second⟩
    · rw [outer, inner]
      exact ⟨keys _ second, keys _ first⟩
  · rcases inner with inner | inner
    · rw [outer, inner]
      exact ⟨keys _ second, keys _ first⟩
    · rw [outer, inner]
      exact ⟨keys _ first, keys _ second⟩

/-- For every world of a run the fractions agree exactly if the blast is among agents. -/
theorem evolved_agrees_iff (evolved : Evolved rng networkx config state) :
    FractionAgrees (blastRadiusResponse (buildSecurityGraph rng state config))
      (buildSecurityGraph rng state config) ↔ AmongAgents rng state config := by
  obtain ⟨drafts, effects⟩ := evolved
  have named : AgentsNamed state := effects_named effects
  have keys := effects_keys effects
  have positive : 0 < config.nodeCount.val :=
    lt_of_lt_of_le (by decide) config.nodeCount.property.1
  have zero : nodeId 0 ∈ state.nodes.keys := by
    rw [keys]
    exact buildWorld_has positive
  have inhabited : sorted state.nodes.keys ≠ [] :=
    List.ne_nil_of_mem (mem_sorted.mpr zero)
  have within : MeshWithin state := by
    unfold MeshWithin
    rw [keys, effects_edges effects]
    exact buildWorld_within rng networkx config
  have some_ : (buildSecurityGraph rng state config).nodesOfType .agent ≠ [] := by
    intro none_
    have listed : nodeId 0 ∈ ((buildSecurityGraph rng state config).nodesOfType .agent).map
        GraphNode.id := (agent_nodes named).mpr zero
    rw [none_] at listed
    cases listed
  rw [fraction_agrees_iff some_, ← blast_among_agents_iff named inhabited within]
  simp only [agent_nodes named]

theorem evolved_effects {state' : WorldState} {drafts : List EventDraft}
    (evolved : Evolved rng networkx config state) (effects : Effects config state drafts state') :
    Evolved rng networkx config state' := by
  obtain ⟨before, run⟩ := evolved
  exact ⟨_, effects_append run effects⟩

theorem evolved_iterate {σ : Type} {step : σ → σ × List EventDraft} (worldOf : σ → WorldState)
    (takes : ∀ s, ∃ drafts, Effects config (worldOf s) drafts (worldOf (step s).1)) {s : σ}
    (evolved : Evolved rng networkx config (worldOf s)) (drafts : List EventDraft) (n : Nat) :
    Evolved rng networkx config (worldOf ((collecting step)^[n] (s, drafts)).1) := by
  induction n with
  | zero => exact evolved
  | succ n ih =>
    rw [Function.iterate_succ_apply']
    obtain ⟨_, effects⟩ := takes ((collecting step)^[n] (s, drafts)).1
    exact evolved_effects ih effects

theorem reconstruct_evolved {inLoop : Bool} {replayId : Uuid} {targetTick rounds : Nat}
    {world : WorldState} {events : List Event}
    (returned : reconstructFinalState rng networkx inLoop replayId config targetTick rounds =
      .ok (some (world, events))) : Evolved rng networkx config world := by
  unfold reconstructFinalState at returned
  split at returned
  · cases returned
  split at returned
  · cases returned
  simp only [Except.ok.injEq, Option.map_eq_some_iff, Prod.mk.injEq] at returned
  obtain ⟨acc, replayed, rfl, _⟩ := returned
  split at replayed
  · obtain ⟨ended, looped, rfl⟩ := Option.map_eq_some_iff.mp replayed
    obtain ⟨n, _, _, _, rfl⟩ := whileLoop_returns_iff.mp looped
    have takes : ∀ s : WorldState × Gateway.ModelGateway, ∃ drafts, Effects config s.1 drafts
        (asyncTick rng (Gateway.mockProvider rng) config s).1.1 := by
      intro s
      obtain ⟨asked, round⟩ := async_round rng (Gateway.mockProvider rng) config s.1 s.2
      exact ⟨_, round_effects round⟩
    have start : Evolved rng networkx config
        ((buildWorld rng networkx config).1, Gateway.ModelGateway.new config).1 :=
      evolved_start rng networkx config
    exact evolved_iterate Prod.fst takes start _ n
  · obtain ⟨n, _, _, _, rfl⟩ := whileLoop_returns_iff.mp replayed
    exact evolved_iterate id (fun s => ⟨_, advance_effects rng s config⟩)
      (evolved_start rng networkx config) _ n

theorem reconstruction_evolved {pool : Pool} {experimentId replayId : Uuid} {rounds : Nat}
    {replayed : Reconstruction} (returned : reconstructForReplay rng networkx replayId rounds pool
      experimentId = .ok (some replayed)) :
    Evolved rng networkx replayed.config replayed.world ∧
      replayed.graph = buildSecurityGraph rng replayed.world replayed.config := by
  unfold reconstructForReplay at returned
  cases target : loadReplayTarget pool experimentId with
  | error exc =>
    rw [target] at returned
    cases returned
  | ok loaded =>
    rw [target] at returned
    cases ended : reconstructFinalState rng networkx true replayId loaded.1 loaded.2 rounds with
    | error exc => cases exc <;> simp [bind, Except.bind, ended] at returned
    | ok replayedState =>
      simp only [bind, Except.bind, ended, pure, Except.pure, Except.ok.injEq,
        Option.map_eq_some_iff] at returned
      obtain ⟨acc, rfl, rfl⟩ := returned
      exact ⟨reconstruct_evolved ended, rfl⟩

end

/-- Live and of a replay: the fraction is the metric's, and at most 1, exactly if no compromise
    reaches a tool or a credential and none sits in the security plane. -/
theorem blast_fractions_agree_iff (rng : Rng) (networkx : Networkx) :
    (∀ experimentId config hasGateway c,
      Orchestrator.Reachable rng (created rng networkx experimentId config hasGateway) c →
      ∃ response, getBlastRadius rng (some c.runner) = .ok response ∧
        (FractionAgrees response (buildSecurityGraph rng c.runner.state c.runner.config) ↔
          AmongAgents rng c.runner.state c.runner.config)) ∧
    ∀ pool experimentId replayId rounds replayed,
      reconstructForReplay rng networkx replayId rounds pool experimentId = .ok (some replayed) →
      ∃ response,
        getReplayBlastRadius rng networkx replayId rounds (some pool) experimentId =
          .ok (some response) ∧
        (FractionAgrees response replayed.graph ↔
          AmongAgents rng replayed.world replayed.config) := by
  constructor
  · intro experimentId config hasGateway c reach
    obtain ⟨configured, _, drafts, effects⟩ := created_chains reach
    refine ⟨_, rfl, ?_⟩
    rw [configured]
    exact evolved_agrees_iff ⟨drafts, effects⟩
  · intro pool experimentId replayId rounds replayed returned
    obtain ⟨evolved, graph⟩ := reconstruction_evolved returned
    refine ⟨blastRadiusResponse replayed.graph, ?_, ?_⟩
    · change (reconstructForReplay rng networkx replayId rounds pool experimentId).bind _ = _
      rw [returned]
      rfl
    · rw [graph]
      exact evolved_agrees_iff evolved

/- No replay of a run with real agents is answered: one provider is not deterministic, and the
   other needs an event loop of its own. -/
theorem replay_of_real_agents_fails (rng : Rng) (networkx : Networkx) (replayId : Uuid)
    (rounds : Nat) {pool : Pool} {experimentId : Uuid} {config : ExperimentConfig}
    {targetTick : Nat} (target : loadReplayTarget pool experimentId = .ok (config, targetTick))
    (real : 0 < config.realAgentCount.val) :
    ∃ exc, getReplayBlastRadius rng networkx replayId rounds (some pool) experimentId =
      .error exc := by
  obtain ⟨error, refused⟩ : ∃ error, reconstructFinalState rng networkx true replayId config
      targetTick rounds = .error error := by
    unfold reconstructFinalState
    split
    · exact ⟨_, rfl⟩
    · rw [if_pos ⟨decide_eq_true real, rfl⟩]
      exact ⟨_, rfl⟩
  obtain ⟨exc, fails⟩ : ∃ exc, reconstructForReplay rng networkx replayId rounds pool
      experimentId = .error exc := by
    simp only [reconstructForReplay, target, refused, bind, Except.bind]
    cases error with
    | unsupported text => exact ⟨_, rfl⟩
    | runningLoop => exact ⟨_, rfl⟩
  refine ⟨exc, ?_⟩
  change (reconstructForReplay rng networkx replayId rounds pool experimentId).bind _ = _
  rw [fails]
  rfl

theorem one_round : 1 ≤ 1 ∧ 1 ≤ 2000 := by decide

theorem one_node : 0 ≤ 1 ∧ 1 ≤ 20 := by decide

theorem one_sentinel : 0 ≤ 1 ∧ 1 ≤ 5 := by decide

def guarded : ExperimentConfig :=
  { smallNetwork with
    maxTicks := ⟨1, one_round⟩
    toolCount := ⟨1, one_node⟩
    credentialCount := ⟨1, one_node⟩
    sentinelCount := ⟨1, one_sentinel⟩ }

def finishedGuarded : Pool :=
  { experiments := Table.empty.put
      { experimentId := 0, config := guarded, finalSimTick := some 1 }
    experimentEvents := Table.empty }

theorem guarded_clears :
    isFinished (buildWorld default default guarded).1 guarded = false ∧
      (advance default (buildWorld default default guarded).1 guarded).1.compromisedGraphNodes =
        ∅ ∧
      ∀ agent ∈ (advance default (buildWorld default default guarded).1 guarded).1.nodes.values,
        agent.securityState ≠ .compromised := by
  have plane : (runSyncScenarios default (buildWorld default default guarded).1
      guarded).1.compromisedGraphNodes = ∅ := rfl
  have last : (advance default (buildWorld default default guarded).1 guarded).1 =
      (Detection.step default (runSyncScenarios default (buildWorld default default guarded).1
        guarded).1 guarded).1 := rfl
  refine ⟨one_tick_spreads.1, rfl, ?_⟩
  rw [last]
  apply Detection.step_clears
  · rfl
  · unfold Detection.suppressedByCompromisedSentinels
    rw [if_pos (Or.inr plane)]
  · intro id
    change (0 : Rat) < 1 / 5
    decide +kernel

theorem guarded_among_agents : AmongAgents default
    (advance default (buildWorld default default guarded).1 guarded).1 guarded := by
  obtain ⟨_, plane, clear⟩ := guarded_clears
  have unexposed : ∀ id, ¬ Exposed
      (advance default (buildWorld default default guarded).1 guarded).1 id := by
    rintro id ⟨agent, member, compromised, _⟩
    exact clear agent member compromised
  constructor
  · intro id _
    rw [plane]
    exact Finset.notMem_empty id
  · exact fun _ _ agentId _ => unexposed agentId
  · exact fun _ _ => unexposed _

def guardedDrafts : List EventDraft :=
  startDrafts default default guarded ++
    (advance default (buildWorld default default guarded).1 guarded).2

def guardedReplay : Reconstruction :=
  { world := (advance default (buildWorld default default guarded).1 guarded).1
    config := guarded
    graph := buildSecurityGraph default
      (advance default (buildWorld default default guarded).1 guarded).1 guarded
    events := (EventEmitter.emit ⟨0, 0⟩ guardedDrafts).2 }

theorem guarded_target : loadReplayTarget finishedGuarded 0 = .ok (guarded, 1) := rfl

theorem guarded_reconstructed :
    reconstructFinalState default default true 0 guarded 1 1 =
      .ok (some (guardedReplay.world, guardedReplay.events)) := by
  have going : shouldContinue (buildWorld default default guarded).1 guarded 1 = true :=
    shouldContinue_before guarded_clears.1 Nat.zero_lt_one
  have tick : guardedReplay.world.tick = 1 :=
    advance_tick default (buildWorld default default guarded).1 guarded
  have ended : shouldContinue guardedReplay.world guarded 1 = false :=
    if_pos (Nat.le_of_eq tick.symm)
  have replayed : reconstructSync default default guarded 1 1 =
      some (guardedReplay.world, guardedDrafts) := by
    unfold reconstructSync whileLoop
    rw [if_pos going]
    unfold whileLoop
    exact if_neg (Bool.eq_false_iff.mp ended)
  unfold reconstructFinalState
  rw [if_neg (by decide), if_neg (by decide), if_neg (by decide), replayed]
  rfl

/-- Live and of the replay, with a tool and a credential in the graph. -/
theorem guarded_network_agrees :
    (∃ response, getBlastRadius default (some (ticked guarded).runner) = .ok response ∧
      FractionAgrees response
        (buildSecurityGraph default (ticked guarded).runner.state guarded)) ∧
    ∃ response replayed,
      getReplayBlastRadius default default 0 1 (some finishedGuarded) 0 = .ok (some response) ∧
      reconstructForReplay default default 0 1 finishedGuarded 0 = .ok (some replayed) ∧
      FractionAgrees response replayed.graph := by
  obtain ⟨live, replay⟩ := blast_fractions_agree_iff default default
  obtain ⟨going, _, _⟩ := guarded_clears
  have sleeping := ticked_sleeping going
  constructor
  · obtain ⟨response, answered, agrees⟩ := live 0 guarded false (ticked guarded)
      (ticked_reachable guarded)
    have configured : (ticked guarded).runner.config = guarded := by rw [sleeping]; rfl
    have state : (ticked guarded).runner.state =
        (advance default (buildWorld default default guarded).1 guarded).1 := by
      rw [sleeping]
      rfl
    rw [configured, state] at agrees
    refine ⟨response, answered, ?_⟩
    rw [state]
    exact agrees.mpr guarded_among_agents
  · have returned : reconstructForReplay default default 0 1 finishedGuarded 0 =
        .ok (some guardedReplay) := by
      simp only [reconstructForReplay, guarded_target, guarded_reconstructed, bind, Except.bind]
      rfl
    obtain ⟨response, answered, agrees⟩ := replay _ _ _ _ _ returned
    exact ⟨response, guardedReplay, answered, returned, agrees.mpr guarded_among_agents⟩

def heldCredential : ExperimentConfig :=
  { smallNetwork with
    initialCompromised := .randomNode
    credentialCount := ⟨1, one_node⟩ }

/-- The credential in reach is counted among the agents. -/
theorem credential_counted_as_agent :
    ∃ response, getBlastRadius default
        (some (created default default 0 heldCredential false).runner) = .ok response ∧
      ¬ FractionAgrees response (buildSecurityGraph default
        (created default default 0 heldCredential false).runner.state heldCredential) := by
  refine ⟨_, rfl, ?_⟩
  intro agrees
  have among := (evolved_agrees_iff (evolved_start default default heldCredential)).mp agrees
  obtain ⟨⟨zero, inside, named⟩, others⟩ := buildWorld_zero default default heldCredential
  have held : holder default heldCredential
      (sorted (buildWorld default default heldCredential).1.nodes.keys) 0 =
        patientZero default default heldCredential := by decide
  have first := (others zero inside).2
  rw [if_pos named] at first
  refine among.credentials 0 (by decide) ⟨zero, inside, first.1, ?_⟩
  rw [held, named]

end AgentShield.ExperimentHistory
