import AgentShield.Engine.Simulate
import AgentShield.Scenarios.Exposure

/-!
The two arms of a comparison (`lib/comparison/useComparison.ts`): one configuration,
once with the defense and once without. The draws are keyed by site, so that whoever
is hit in the defended run is hit in the other one, if not before.
-/
namespace AgentShield.Comparison
open Schema Keyed Engine Scenarios Agents Propagation TopologyBuilder Simulate

def buildComparisonConfigs (baseConfig : ExperimentConfig) :
    ExperimentConfig × ExperimentConfig :=
  ({ baseConfig with defenseEnabled := true }, { baseConfig with defenseEnabled := false })

structure Shadow (node node' : AgentNode) : Prop where
  agent : SameAgent node node'
  exposed : node'.securityState = .compromised ∨
    node'.securityState = .healthy ∧ node.tickCompromised = none
  marked : node.securityState = .compromised → node.tickCompromised ≠ none

def Covered (state state' : WorldState) : Prop :=
  ∀ node ∈ state.nodes.values, ∃ node' ∈ state'.nodes.values, Shadow node node'

theorem covered_start (rng : Rng) (networkx : Networkx) (config : ExperimentConfig) :
    Covered (buildWorld rng networkx config).1 (buildWorld rng networkx config).1 := by
  obtain ⟨_, each⟩ := buildWorld_zero rng networkx config
  intro node member
  refine ⟨node, member, ⟨rfl, rfl, rfl, rfl, rfl⟩, ?_, ?_⟩
  · have kind := (each node member).2
    split at kind
    · exact Or.inl kind.1
    · exact Or.inr kind
  · exact (buildWorld_wellFormed rng networkx config).marked node member

theorem covered_nodes {state state' before before' : WorldState} (covered : Covered before before')
    (nodes : state.nodes = before.nodes) (nodes' : state'.nodes = before'.nodes) :
    Covered state state' := by
  unfold Covered
  rw [nodes, nodes']
  exact covered

theorem claimed_same_agent (claims : Table Claim.target) (tick : Nat) (node : AgentNode) :
    SameAgent node (node.claimed claims tick) := by
  unfold AgentNode.claimed
  split <;> exact ⟨rfl, rfl, rfl, rfl, rfl⟩

theorem shadow_claimed {node node' : AgentNode} (shadow : Shadow node node')
    {claims claims' : Table Claim.target} (tick tick' : Nat)
    (followed : claims.Has node.id → node'.securityState = .compromised ∨ claims'.Has node'.id) :
    Shadow (node.claimed claims tick) (node'.claimed claims' tick') := by
  have agent := claimed_same_agent claims tick node
  have agent' := claimed_same_agent claims' tick' node'
  constructor
  · constructor
    · rw [agent.id, agent'.id, shadow.agent.id]
    · rw [agent.softwareType, agent'.softwareType, shadow.agent.softwareType]
    · rw [agent.neighbors, agent'.neighbors, shadow.agent.neighbors]
    · rw [agent.agentKind, agent'.agentKind, shadow.agent.agentKind]
    · rw [agent.confidentialToken, agent'.confidentialToken, shadow.agent.confidentialToken]
  · rw [claimed_securityState]
    by_cases claimed' : claims'.Has node'.id
    · left
      rw [if_pos claimed']
    · rw [if_neg claimed']
      rcases shadow.exposed with compromised | ⟨healthy, undated⟩
      · exact Or.inl compromised
      · right
        refine ⟨healthy, ?_⟩
        apply Classical.byContradiction
        intro dated
        rcases (claimed_dated claims tick node).mp dated with before | claimed
        · exact before undated
        · rcases followed claimed with compromised | again
          · rw [healthy] at compromised
            cases compromised
          · exact claimed' again
  · intro compromised
    rw [claimed_securityState] at compromised
    rw [claimed_dated]
    split at compromised
    · rename_i claimed
      exact Or.inr claimed
    · exact Or.inl (shadow.marked compromised)

theorem shadow_quarantined {node node' : AgentNode} (shadow : Shadow node node')
    (ids : List String) : Shadow (Detection.quarantineIn ids node) node' := by
  unfold Detection.quarantineIn
  split
  · refine ⟨⟨?_, ?_, ?_, ?_, ?_⟩, shadow.exposed, ?_⟩
    · exact shadow.agent.id
    · exact shadow.agent.softwareType
    · exact shadow.agent.neighbors
    · exact shadow.agent.agentKind
    · exact shadow.agent.confidentialToken
    · intro compromised
      cases compromised
  · exact shadow

section
variable {rng : Rng} {base : ExperimentConfig}

theorem shadow_hits {tick : Nat} {source source' target target' : AgentNode}
    (attacker : Shadow source source') (victim : Shadow target target')
    (hits : Hits rng (buildComparisonConfigs base).1 tick source target) :
    Hits rng (buildComparisonConfigs base).2 tick source' target' := by
  unfold Hits linkProbability at hits ⊢
  rw [attacker.agent.id, attacker.agent.agentKind, attacker.agent.softwareType, victim.agent.id,
    victim.agent.agentKind, victim.agent.softwareType]
  exact hits

theorem propagation_covered {state state' : WorldState} (covered : Covered state state')
    (together : state'.tick = state.tick) :
    Covered (step rng state (buildComparisonConfigs base).1).1
      (step rng state' (buildComparisonConfigs base).2).1 := by
  intro after member
  obtain ⟨node, inside, rfl⟩ := List.mem_map.mp member
  obtain ⟨node', inside', shadow⟩ := covered node inside
  refine ⟨_, List.mem_map_of_mem inside', shadow_claimed shadow _ _ ?_⟩
  intro claimed
  obtain ⟨source, attacking, target, near, hits, named⟩ :=
    (step_has rng state (buildComparisonConfigs base).1 node.id).mp claimed
  obtain ⟨present, compromised⟩ := mem_inState.mp attacking
  obtain ⟨linked, there, healthy⟩ := mem_healthyNeighbors.mp near
  obtain rfl := same_node inside there named
  obtain ⟨source', present', attacker⟩ := covered source present
  -- The source carries a date, so that it is compromised on the other side.
  have compromised' : source'.securityState = .compromised :=
    attacker.exposed.resolve_right fun spared => attacker.marked compromised spared.2
  rcases shadow.exposed with already | ⟨healthy', _⟩
  · exact Or.inl already
  · right
    apply (step_has rng state' (buildComparisonConfigs base).2 node'.id).mpr
    refine ⟨source', mem_inState.mpr ⟨present', compromised'⟩, node', ?_, ?_, rfl⟩
    · apply mem_healthyNeighbors.mpr
      rw [attacker.agent.neighbors, shadow.agent.id]
      exact ⟨linked, inside', healthy'⟩
    · rw [together]
      exact shadow_hits attacker shadow hits

theorem detection_covered {state state' : WorldState} (covered : Covered state state')
    (config : ExperimentConfig) : Covered (Detection.step rng state config).1 state' := by
  unfold Detection.step
  split
  · exact covered
  · intro after member
    obtain ⟨node, inside, rfl⟩ := List.mem_map.mp member
    obtain ⟨node', inside', shadow⟩ := covered node inside
    exact ⟨node', inside', shadow_quarantined shadow _⟩

end

/- `propagation` is listed once, and no other active scenario spreads among simulated agents. -/
structure Spreads (config : ExperimentConfig) : Prop where
  once : config.activeScenarios.count "propagation" = 1
  alone : "adaptive_attacker" ∉ config.activeScenarios

theorem unowned_of_absent {names : List String} (absent : "propagation" ∉ names)
    (alone : "adaptive_attacker" ∉ names) : ∀ name ∈ names, name ∉ tickOwners := by
  intro name member owned
  simp only [tickOwners, List.mem_cons, List.not_mem_nil, or_false] at owned
  rcases owned with rfl | rfl
  · exact absent member
  · exact alone member

theorem one_spread {config : ExperimentConfig} (spreads : Spreads config) (rng : Rng)
    (state : WorldState) :
    ∃ before, Still state before ∧
      Still (step rng before config).1 (runSyncScenarios rng state config).1 := by
  have listed : "propagation" ∈ config.activeScenarios := by
    apply List.count_pos_iff.mp
    rw [spreads.once]
    exact Nat.one_pos
  obtain ⟨early, late, split, absent⟩ := List.eq_append_cons_of_mem listed
  have once := spreads.once
  have alone := spreads.alone
  rw [split] at once alone
  rw [List.count_append, List.count_cons_self, List.count_eq_zero.mpr absent] at once
  have absent' : "propagation" ∉ late := by
    apply List.count_eq_zero.mp
    omega
  have alone' : "adaptive_attacker" ∉ early ∧ "adaptive_attacker" ∉ late :=
    ⟨fun member => alone (List.mem_append_left _ member),
      fun member => alone (List.mem_append_right _ (List.mem_cons_of_mem _ member))⟩
  have spread : ∀ acc, (runSyncScenario rng config acc "propagation").1 =
      (step rng acc.1 config).1 := fun _ => rfl
  unfold runSyncScenarios
  rw [split, List.foldl_append, List.foldl_cons]
  refine ⟨_, unowned_names_still rng config (unowned_of_absent absent alone'.1) (state, []), ?_⟩
  rw [← spread]
  exact unowned_names_still rng config (unowned_of_absent absent' alone'.2) _

theorem undefended_advance (rng : Rng) (state : WorldState) (base : ExperimentConfig) :
    (advance rng state (buildComparisonConfigs base).2).1 =
      (runSyncScenarios rng state (buildComparisonConfigs base).2).1 := rfl

theorem advance_covered {rng : Rng} {base : ExperimentConfig} (spreads : Spreads base)
    {state state' : WorldState} (covered : Covered state state')
    (together : state'.tick = state.tick) :
    Covered (advance rng state (buildComparisonConfigs base).1).1
      (advance rng state' (buildComparisonConfigs base).2).1 := by
  have defended : Spreads (buildComparisonConfigs base).1 := ⟨spreads.once, spreads.alone⟩
  have undefended : Spreads (buildComparisonConfigs base).2 := ⟨spreads.once, spreads.alone⟩
  obtain ⟨before, early, late⟩ := one_spread defended rng state
  obtain ⟨before', early', late'⟩ := one_spread undefended rng state'
  have start : Covered before before' := covered_nodes covered early.nodes early'.nodes
  have ticks : before'.tick = before.tick := by rw [early.tick, early'.tick, together]
  have spread := @propagation_covered rng base _ _ start ticks
  have sync := covered_nodes spread late.nodes late'.nodes
  rw [undefended_advance]
  exact detection_covered sync (buildComparisonConfigs base).1

theorem worlds_covered (rng : Rng) (networkx : Networkx) {base : ExperimentConfig}
    (spreads : Spreads base) (n : Nat) :
    Covered (worldAfter rng networkx (buildComparisonConfigs base).1 n)
      (worldAfter rng networkx (buildComparisonConfigs base).2 n) := by
  induction n with
  | zero => exact covered_start rng networkx (buildComparisonConfigs base).1
  | succ n ih =>
    have together : (worldAfter rng networkx (buildComparisonConfigs base).2 n).tick =
        (worldAfter rng networkx (buildComparisonConfigs base).1 n).tick := by
      rw [worldAfter_tick, worldAfter_tick]
      rfl
    rw [worldAfter_succ, worldAfter_succ]
    exact advance_covered spreads ih together

def Compromised (state : WorldState) (id : String) : Prop :=
  ∃ node ∈ state.nodes.values, node.id = id ∧ node.securityState = .compromised

theorem advance_keeps_compromised {base : ExperimentConfig} (spreads : Spreads base) (rng : Rng)
    {state : WorldState} {id : String} (compromised : Compromised state id) :
    Compromised (advance rng state (buildComparisonConfigs base).2).1 id := by
  obtain ⟨before, early, late⟩ :=
    @one_spread (buildComparisonConfigs base).2 ⟨spreads.once, spreads.alone⟩ rng state
  obtain ⟨node, member, named, state_⟩ := compromised
  rw [undefended_advance]
  unfold Compromised
  rw [late.nodes]
  rw [← early.nodes] at member
  refine ⟨_, List.mem_map_of_mem member, (claimed_id _ _ node).trans named, ?_⟩
  rw [claimed_securityState, state_]
  exact ite_self _

def Extinct (state : WorldState) : Prop :=
  ∀ source ∈ state.inState .compromised, state.healthyNeighbors source = []

theorem extinct_of_finished {state : WorldState} {config : ExperimentConfig}
    (finished : isFinished state config = true) (early : state.tick < config.maxTicks.val) :
    Extinct state := by
  unfold isFinished at finished
  rw [decide_eq_false (Nat.not_le.mpr early), Bool.false_or, List.all_eq_true] at finished
  intro source attacking
  apply List.eq_nil_iff_forall_not_mem.mpr
  intro target near
  obtain ⟨linked, there, healthy⟩ := mem_healthyNeighbors.mp near
  have member : source ∈ state.nodes.values.filter fun node =>
      node.securityState = .compromised :=
    mem_sortedById.mp attacking
  have spared := List.all_eq_true.mp (finished source member) target
    (List.mem_filterMap.mpr ⟨target.id, linked, Table.get?_of_member there⟩)
  exact absurd healthy (of_decide_eq_true spared)

theorem extinct_nodes {state state' : WorldState} (extinct : Extinct state)
    (nodes : state'.nodes = state.nodes) : Extinct state' := by
  unfold Extinct WorldState.inState WorldState.healthyNeighbors
  rw [nodes]
  exact extinct

theorem extinct_step {state : WorldState} (extinct : Extinct state) (rng : Rng)
    (config : ExperimentConfig) : (step rng state config).1.nodes = state.nodes := by
  unfold step compromiseClaimed
  dsimp only
  apply Table.update_same
  intro node member
  unfold AgentNode.claimed
  rw [Table.get?_none_iff.mpr]
  intro claimed
  obtain ⟨source, attacking, target, near, _⟩ := (step_has rng state config node.id).mp claimed
  rw [extinct source attacking] at near
  cases near

theorem extinct_advance {base : ExperimentConfig} (spreads : Spreads base) (rng : Rng)
    {state : WorldState} (extinct : Extinct state) :
    (advance rng state (buildComparisonConfigs base).2).1.nodes = state.nodes := by
  obtain ⟨before, early, late⟩ :=
    @one_spread (buildComparisonConfigs base).2 ⟨spreads.once, spreads.alone⟩ rng state
  rw [undefended_advance, late.nodes, extinct_step (extinct_nodes extinct early.nodes), early.nodes]

theorem worlds_keep_compromised {rng : Rng} {networkx : Networkx} {base : ExperimentConfig}
    (spreads : Spreads base) {n m : Nat} (later : n ≤ m) {id : String}
    (compromised : Compromised (worldAfter rng networkx (buildComparisonConfigs base).2 n) id) :
    Compromised (worldAfter rng networkx (buildComparisonConfigs base).2 m) id := by
  induction m, later using Nat.le_induction with
  | base => exact compromised
  | succ m _ ih =>
    rw [worldAfter_succ]
    exact advance_keeps_compromised spreads rng ih

theorem worlds_extinct {rng : Rng} {networkx : Networkx} {base : ExperimentConfig}
    (spreads : Spreads base) {n m : Nat} (later : n ≤ m)
    (extinct : Extinct (worldAfter rng networkx (buildComparisonConfigs base).2 n)) :
    (worldAfter rng networkx (buildComparisonConfigs base).2 m).nodes =
      (worldAfter rng networkx (buildComparisonConfigs base).2 n).nodes := by
  induction m, later using Nat.le_induction with
  | base => rfl
  | succ m _ ih =>
    rw [worldAfter_succ, extinct_advance spreads rng (extinct_nodes extinct ih), ih]

theorem attempts_none {state : WorldState}
    (simulated : ∀ node ∈ state.nodes.values, node.agentKind = .simulated)
    (config : ExperimentConfig) (tick : Nat) : attempts state config tick = [] := by
  unfold attempts
  rw [List.filter_eq_nil_iff.mpr]
  · rfl
  · intro source attacking real
    have kind := simulated source (mem_inState.mp attacking).1
    rw [of_decide_eq_true real] at kind
    cases kind

theorem asyncHalf_idle {config : ExperimentConfig} {state : WorldState}
    (idle : attempts state config state.tick = []) :
    asyncHalf config state = .finished state [] := by
  unfold asyncHalf
  generalize config.activeScenarios = names
  induction names with
  | nil => rfl
  | cons name rest ih =>
    unfold runAsyncScenarios
    split
    · rw [idle]
      exact ih
    · exact ih

theorem awaited_finished {γ : Type} {A : Answering γ} {config : ExperimentConfig} {tick : Nat}
    {g g' : γ} {state : WorldState} {drafts : List EventDraft} {run : AsyncRun} {asked : Answered}
    (awaited : Awaited A config tick g (.finished state drafts) g' run asked) :
    run = .finished state drafts := by
  induction awaited with
  | here => rfl
  | answered _ _ ih => cases ih

theorem effects_simulated {config : ExperimentConfig} {state state' : WorldState}
    {drafts : List EventDraft}
    (simulated : ∀ node ∈ state.nodes.values, node.agentKind = .simulated)
    (effects : Effects config state drafts state') :
    ∀ node ∈ state'.nodes.values, node.agentKind = .simulated := by
  apply effects_keep (P := fun state => ∀ node ∈ state.nodes.values, node.agentKind = .simulated)
    _ simulated effects
  intro before drafts after simulated effect node' member'
  obtain ⟨change, evolves⟩ := effect_evolves effect
  obtain ⟨node, member, step⟩ := evolves_step evolves member'
  rw [(step_same_agent step).agentKind]
  exact simulated node member

theorem buildWorld_simulated (rng : Rng) (networkx : Networkx) {config : ExperimentConfig}
    (simulated : config.realAgentCount.val = 0) :
    ∀ node ∈ (buildWorld rng networkx config).1.nodes.values, node.agentKind = .simulated := by
  intro node member
  obtain ⟨entry, _, rfl⟩ := buildWorld_member member
  simp [makeNode, selectRealAgents, simulated]

theorem rounds_worldAfter {γ : Type} {A : Answering γ} {rng : Rng} {networkx : Networkx}
    {config : ExperimentConfig} {hasGateway : Bool} {g g' : γ} {drafts : List EventDraft}
    {state : WorldState} (simulated : config.realAgentCount.val = 0)
    (rounds : Rounds A rng config hasGateway (buildWorld rng networkx config).1 g drafts state g') :
    ∃ n, state = worldAfter rng networkx config n ∧
      ∀ k < n, isFinished (worldAfter rng networkx config k) config = false := by
  induction rounds with
  | none => exact ⟨0, rfl, fun k below => absurd below (Nat.not_lt_zero k)⟩
  | @next _ _ before _ _ _ _ rounds going round ih =>
    obtain ⟨n, rfl, early⟩ := ih
    refine ⟨n + 1, ?_, ?_⟩
    · rw [worldAfter_succ]
      cases round with
      | sync alone => rfl
      | async together awaited =>
        have effects := effects_append (rounds_effects rounds) (advance_effects rng _ config)
        have kinds := effects_simulated (buildWorld_simulated rng networkx simulated) effects
        rw [asyncHalf_idle (attempts_none kinds config _)] at awaited
        cases awaited_finished awaited
        rfl
    · intro k below
      rcases Nat.lt_succ_iff_lt_or_eq.mp below with before | rfl
      · exact early k before
      · exact going

theorem covered_compromised {state state' : WorldState} (covered : Covered state state')
    {id : String} (dated : Dated id state) : Compromised state' id := by
  obtain ⟨node, member, named, date⟩ := dated
  obtain ⟨node', member', shadow⟩ := covered node member
  exact ⟨node', member', shadow.agent.id.trans named,
    shadow.exposed.resolve_right fun spared => date spared.2⟩

/-- At every tick that both arms reach, and at their two ends, whoever was ever compromised in
    the defended run is compromised in the undefended one. -/
theorem defense_never_increases_exposure (rng : Rng) (networkx : Networkx)
    {base : ExperimentConfig} (simulated : base.realAgentCount.val = 0) (spreads : Spreads base)
    {hasGateway hasGateway' : Bool} {drafts drafts' : List EventDraft}
    {state state' : WorldState}
    (defended : Rounds anyAnswers rng (buildComparisonConfigs base).1 hasGateway
      (buildWorld rng networkx (buildComparisonConfigs base).1).1 () drafts state ())
    (undefended : Rounds anyAnswers rng (buildComparisonConfigs base).2 hasGateway'
      (buildWorld rng networkx (buildComparisonConfigs base).2).1 () drafts' state' ())
    (beside : state.tick = state'.tick ∨
      isFinished state (buildComparisonConfigs base).1 = true ∧
        isFinished state' (buildComparisonConfigs base).2 = true) :
    ∀ id, Infected ((buildWorld rng networkx (buildComparisonConfigs base).1).2 ++ drafts) id →
      Compromised state' id := by
  intro id told
  have dated := (infected_iff_dated (rounds_effects defended) id).mp told
  obtain ⟨n, rfl, going⟩ := rounds_worldAfter (by exact simulated) defended
  obtain ⟨m, rfl, _⟩ := rounds_worldAfter (by exact simulated) undefended
  rcases Nat.lt_or_ge m n with sooner | later
  · rcases beside with same | ⟨_, finished⟩
    · -- Every round takes a tick.
      rw [worldAfter_tick, worldAfter_tick] at same
      have owned : 0 < ticksPerRound base := by
        apply List.countP_pos_iff.mpr
        refine ⟨"propagation", ?_, by decide⟩
        apply List.count_pos_iff.mp
        rw [spreads.once]
        exact Nat.one_pos
      have less := Nat.mul_lt_mul_of_pos_right sooner owned
      exact absurd same (Nat.ne_of_gt less)
    · -- The undefended run is over before `max_ticks`, as the defended one went on.
      have early : (worldAfter rng networkx (buildComparisonConfigs base).2 m).tick <
          base.maxTicks.val := by
        have before := going m sooner
        unfold isFinished at before
        rw [Bool.or_eq_false_iff, decide_eq_false_iff_not, Nat.not_le, worldAfter_tick] at before
        rw [worldAfter_tick]
        exact before.1
      have nodes := worlds_extinct spreads (Nat.le_of_lt sooner)
        (extinct_of_finished finished early)
      have covered := covered_compromised (worlds_covered rng networkx spreads n) dated
      unfold Compromised at covered ⊢
      rwa [nodes] at covered
  · apply worlds_keep_compromised spreads later
    exact covered_compromised (worlds_covered rng networkx spreads n) dated

theorem arms_start {rng : Rng} {networkx : Networkx} {base : ExperimentConfig}
    (activeScenarios : List String)
    (going : isFinished (buildWorld rng networkx base).1 base = false) :
    let arms := buildComparisonConfigs { base with activeScenarios }
    isFinished (buildWorld rng networkx arms.1).1 arms.1 = false ∧
      isFinished (buildWorld rng networkx arms.2).1 arms.2 = false := ⟨going, going⟩

def comparedExperiment : ExperimentConfig :=
  { idleExperiment with activeScenarios := ["propagation"] }

def comparedArms : ExperimentConfig × ExperimentConfig := buildComparisonConfigs comparedExperiment

theorem patientZero_infected {rng : Rng} {networkx : Networkx} {config : ExperimentConfig}
    {state : WorldState} {drafts : List EventDraft}
    (effects : Effects config (buildWorld rng networkx config).1 drafts state) :
    Infected ((buildWorld rng networkx config).2 ++ drafts) (patientZero rng networkx config) := by
  have wellFormed := buildWorld_wellFormed rng networkx config
  obtain ⟨⟨zero, present, named⟩, each⟩ := buildWorld_zero rng networkx config
  have kind := (each zero present).2
  rw [if_pos named] at kind
  rw [infected_iff_dated effects, (effects_dated _ wellFormed effects).up]
  refine Or.inl ⟨zero, present, named, ?_⟩
  rw [kind.2]
  simp

theorem defense_never_increases_exposure_at_first :
    Compromised (advance default (buildWorld default default comparedArms.2).1 comparedArms.2).1
      (patientZero default default comparedArms.1) := by
  have starts := arms_start ["propagation"] idle_experiment_starts
  have ticks : (advance default (buildWorld default default comparedArms.1).1
        comparedArms.1).1.tick =
      (advance default (buildWorld default default comparedArms.2).1 comparedArms.2).1.tick := by
    rw [advance_tick, advance_tick]
    rfl
  have defended : Rounds anyAnswers default comparedArms.1 false
      (buildWorld default default comparedArms.1).1 () ([] ++ _) _ () :=
    Rounds.none.next starts.1 (.sync rfl)
  exact @defense_never_increases_exposure default default comparedExperiment rfl
    ⟨by decide, by decide⟩ false false _ _ _ _ defended
    (Rounds.none.next starts.2 (.sync rfl)) (Or.inl ticks) _
    (patientZero_infected (rounds_effects defended))

end AgentShield.Comparison
