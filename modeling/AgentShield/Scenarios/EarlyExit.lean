import AgentShield.Metrics.Compute
import AgentShield.Scenarios.Exposure
import AgentShield.Scenarios.Ticks

/-!
A run may stop once no healthy agent borders a compromised one: all that can still happen
to an agent is that it is quarantined.
-/
namespace AgentShield.Scenarios
open Schema Keyed Engine Agents Propagation TopologyBuilder Metrics

/-- The early exit of `is_finished`. -/
def Sealed (state : WorldState) : Prop :=
  ∀ node ∈ state.nodes.values, node.securityState = .compromised →
    ∀ neighbor ∈ node.neighbors.filterMap state.nodes.get?, neighbor.securityState ≠ .healthy

instance (state : WorldState) : Decidable (Sealed state) :=
  inferInstanceAs (Decidable (∀ _ ∈ _, _))

theorem isFinished_iff {state : WorldState} {config : ExperimentConfig} :
    isFinished state config = true ↔ config.maxTicks.val ≤ state.tick ∨ Sealed state := by
  unfold isFinished Sealed
  simp only [Bool.or_eq_true, decide_eq_true_eq, List.all_eq_true, List.mem_filter, and_imp]

theorem sealed_iff {state : WorldState} :
    Sealed state ↔ ∀ source ∈ state.inState .compromised, state.healthyNeighbors source = [] := by
  constructor
  · intro closed source attacking
    obtain ⟨present, compromised⟩ := mem_inState.mp attacking
    apply List.eq_nil_iff_forall_not_mem.mpr
    intro target inside
    unfold WorldState.healthyNeighbors at inside
    obtain ⟨neighbor, healthy⟩ := List.mem_filter.mp (mem_sortedById.mp inside)
    exact closed source present compromised target neighbor (of_decide_eq_true healthy)
  · intro none_ node present compromised neighbor inside healthy
    have reached : neighbor ∈ state.healthyNeighbors node :=
      mem_sortedById.mpr (List.mem_filter.mpr ⟨inside, decide_eq_true healthy⟩)
    rw [none_ node (mem_inState.mpr ⟨present, compromised⟩)] at reached
    cases reached

theorem sealed_of_nodes {state state' : WorldState} (same : state'.nodes = state.nodes)
    (closed : Sealed state) : Sealed state' := by
  unfold Sealed
  rw [same]
  exact closed

theorem made_unclaimed {state : WorldState} (closed : Sealed state) {tick : Nat} {attack : Attack}
    (made : attack.Made state tick) : attack.claims.values = [] := by
  apply List.eq_nil_iff_forall_not_mem.mpr
  intro claim member
  obtain ⟨source, attacking, target, inside, _⟩ := made_claim made member
  rw [sealed_iff.mp closed source attacking] at inside
  cases inside

theorem attack_idle {state : WorldState} (closed : Sealed state) {tick : Nat} {attack : Attack}
    (made : attack.Made state tick) :
    compromiseClaimed attack.claims tick state.nodes = state.nodes :=
  unclaimed_nodes (made_unclaimed closed made) tick state.nodes

theorem scenario_idle {name : String} {step : Scenario}
    (found : syncScenarios.lookup name = some step) (rng : Rng) {state : WorldState}
    (closed : Sealed state) (config : ExperimentConfig) :
    (step rng state config).1.nodes = state.nodes := by
  rcases registered_cases found with ⟨_, rfl⟩ | ⟨_, rfl⟩ | ⟨_, quiet⟩
  · exact attack_idle closed (Propagation.step_made rng state config)
  · exact attack_idle closed (AdaptiveAttacker.step_made rng state config)
  · exact (quiet rng state config).nodes

theorem runSyncScenarios_idle (rng : Rng) {state : WorldState} (closed : Sealed state)
    (config : ExperimentConfig) : (runSyncScenarios rng state config).1.nodes = state.nodes := by
  have whole : ∀ (names : List String) (acc : WorldState × List EventDraft),
      acc.1.nodes = state.nodes →
      (names.foldl (runSyncScenario rng config) acc).1.nodes = state.nodes := by
    intro names
    induction names with
    | nil => exact fun _ same => same
    | cons name rest ih =>
      intro acc same
      apply ih
      unfold runSyncScenario
      cases found : syncScenarios.lookup name with
      | none => exact same
      | some step => exact (scenario_idle found rng (sealed_of_nodes same closed) config).trans same
  exact whole config.activeScenarios (state, []) rfl

theorem realAgentStep_idle {state : WorldState} (closed : Sealed state)
    (config : ExperimentConfig) (tick : Nat) (responses : List (Option ModelResponse)) :
    (realAgentStep state tick (attempts state config tick) responses).1.nodes = state.nodes := by
  rw [realAgentStep_nodes]
  exact attack_idle closed (conclude_made state config tick responses)

/- What can still happen to an agent; `falsely` is whether a healthy one can be reported. -/
inductive Contains (falsely : Prop) (node : AgentNode) : AgentNode → Prop where
  | same : Contains falsely node node
  | quarantined (going : node.securityState = .compromised ∨ falsely) :
      Contains falsely node { node with securityState := .quarantined }

def Halted (falsely : Prop) (state state' : WorldState) : Prop :=
  ∃ change : AgentNode → AgentNode, state'.nodes.values = state.nodes.values.map change ∧
    ∀ node ∈ state.nodes.values, Contains falsely node (change node)

variable {falsely : Prop}

theorem contains_id {node node' : AgentNode} (contains : Contains falsely node node') :
    node'.id = node.id := by
  cases contains <;> rfl

theorem contains_date {node node' : AgentNode} (contains : Contains falsely node node') :
    node'.tickCompromised = node.tickCompromised := by
  cases contains <;> rfl

theorem contains_unaffected (honest : ¬ falsely) {node node' : AgentNode}
    (contains : Contains falsely node node') : unaffected node' = unaffected node := by
  cases contains with
  | same => rfl
  | quarantined going =>
    unfold unaffected
    rw [going.resolve_right honest]
    simp

theorem contains_free {node node' : AgentNode} (contains : Contains falsely node node')
    (free : node'.securityState ≠ .quarantined) : node' = node := by
  cases contains with
  | same => rfl
  | quarantined => exact absurd rfl free

theorem contains_trans {node node' node'' : AgentNode} (first : Contains falsely node node')
    (second : Contains falsely node' node'') : Contains falsely node node'' := by
  cases second with
  | same => exact first
  | quarantined going =>
    cases first with
    | same => exact .quarantined going
    | quarantined before => exact .quarantined before

theorem halted_same {state state' : WorldState} (same : state'.nodes = state.nodes) :
    Halted falsely state state' := by
  refine ⟨id, ?_, fun _ _ => .same⟩
  rw [same, List.map_id]

theorem halted_trans {state state' state'' : WorldState} (first : Halted falsely state state')
    (second : Halted falsely state' state'') : Halted falsely state state'' := by
  obtain ⟨change, nodes, each⟩ := first
  obtain ⟨change', nodes', each'⟩ := second
  refine ⟨change' ∘ change, ?_, ?_⟩
  · rw [nodes', nodes, List.map_map]
  · intro node member
    have there : change node ∈ state'.nodes.values := by
      rw [nodes]
      exact List.mem_map_of_mem member
    exact contains_trans (each node member) (each' _ there)

theorem halted_free {state state' : WorldState} (halted : Halted falsely state state')
    {node : AgentNode} (member : node ∈ state'.nodes.values)
    (free : node.securityState ≠ .quarantined) : node ∈ state.nodes.values := by
  obtain ⟨change, nodes, each⟩ := halted
  rw [nodes] at member
  obtain ⟨before, inside, rfl⟩ := List.mem_map.mp member
  rw [contains_free (each before inside) free]
  exact inside

theorem sealed_halted {state state' : WorldState} (closed : Sealed state)
    (halted : Halted falsely state state') : Sealed state' := by
  apply sealed_iff.mpr
  intro source attacking
  obtain ⟨present, compromised⟩ := mem_inState.mp attacking
  have attacked : source ∈ state.inState .compromised := by
    refine mem_inState.mpr ⟨halted_free halted present ?_, compromised⟩
    rw [compromised]
    decide
  apply List.eq_nil_iff_forall_not_mem.mpr
  intro target inside
  obtain ⟨linked, there, healthy⟩ := mem_healthyNeighbors.mp inside
  have before : target ∈ state.healthyNeighbors source := by
    refine mem_healthyNeighbors.mpr ⟨linked, halted_free halted there ?_, healthy⟩
    rw [healthy]
    decide
  rw [sealed_iff.mp closed source attacked] at before
  cases before

theorem detection_halted (rng : Rng) (state : WorldState) {config : ExperimentConfig}
    (reports : 0 < config.falseQuarantineRate.val → falsely) :
    Halted falsely state (Detection.step rng state config).1 := by
  unfold Detection.step
  split
  · exact halted_same rfl
  · refine ⟨_, rfl, ?_⟩
    intro node member
    unfold Detection.quarantineIn
    split
    · rename_i chosen
      obtain ⟨other, reported, named⟩ := List.mem_map.mp chosen
      apply Contains.quarantined
      rcases List.mem_append.mp reported with caught | accused
      · obtain ⟨present, compromised⟩ := Detection.mem_detected caught
        obtain rfl := same_node present member named
        exact Or.inl compromised
      · unfold Detection.falselyReported at accused
        split at accused
        · rename_i subverted
          exact Or.inr (reports subverted)
        · cases accused
    · exact .same

theorem advance_halted (rng : Rng) {state : WorldState} (closed : Sealed state)
    {config : ExperimentConfig} (reports : 0 < config.falseQuarantineRate.val → falsely) :
    Halted falsely state (advance rng state config).1 :=
  halted_trans (halted_same (runSyncScenarios_idle rng closed config))
    (detection_halted rng _ reports)

inductive Move (config : ExperimentConfig) (state : WorldState) : WorldState → Prop where
  | advance (rng : Rng) (names : List String) :
      Move config state (advance rng state { config with activeScenarios := names }).1
  | agents (tick : Nat) (responses : List (Option ModelResponse)) :
      Move config state (realAgentStep state tick (attempts state config tick) responses).1

inductive Visits (config : ExperimentConfig) (state : WorldState) :
    List WorldState → WorldState → Prop where
  | start : Visits config state [state] state
  | next {visited : List WorldState} {state' state'' : WorldState}
      (before : Visits config state visited state') (move : Move config state' state'') :
      Visits config state (visited ++ [state'']) state''

def everCompromised (states : List WorldState) : Finset String :=
  (states.flatMap fun state => (state.inState .compromised).map AgentNode.id).toFinset

theorem mem_everCompromised {states : List WorldState} {id : String} :
    id ∈ everCompromised states ↔
      ∃ state ∈ states, ∃ node ∈ state.nodes.values, node.securityState = .compromised ∧
        node.id = id := by
  unfold everCompromised
  simp only [List.mem_toFinset, List.mem_flatMap, List.mem_map, mem_inState, and_assoc]

theorem visits_last {config : ExperimentConfig} {state state' : WorldState}
    {visited : List WorldState} (visits : Visits config state visited state') :
    state' ∈ visited := by
  cases visits with
  | start => exact List.mem_cons_self
  | next => exact List.mem_append_right _ List.mem_cons_self

def Subverted (config : ExperimentConfig) : Prop := config.falseQuarantineRate.val ≠ 0

theorem move_halted {config : ExperimentConfig} {state state' : WorldState}
    (closed : Sealed state) (move : Move config state state') :
    Halted (Subverted config) state state' := by
  cases move with
  | advance rng names => exact advance_halted rng closed fun positive => ne_of_gt positive
  | agents tick responses => exact halted_same (realAgentStep_idle closed config tick responses)

theorem visits_halted {config : ExperimentConfig} {state state' : WorldState}
    {visited : List WorldState} (closed : Sealed state)
    (visits : Visits config state visited state') :
    Halted (Subverted config) state state' ∧
      ∀ later ∈ visited, Halted (Subverted config) state later := by
  induction visits with
  | start =>
    refine ⟨halted_same rfl, ?_⟩
    intro later member
    rw [List.mem_singleton.mp member]
    exact halted_same rfl
  | next _ move ih =>
    have reached := halted_trans ih.1 (move_halted (sealed_halted closed ih.1) move)
    refine ⟨reached, ?_⟩
    intro later member
    rcases List.mem_append.mp member with old | new
    · exact ih.2 later old
    · rw [List.mem_singleton.mp new]
      exact reached

theorem halted_utility {state state' : WorldState} (halted : Halted falsely state state')
    (honest : ¬ falsely) : retainedUtility state' = retainedUtility state := by
  obtain ⟨change, nodes, each⟩ := halted
  have counted : state'.nodes.values.countP unaffected = state.nodes.values.countP unaffected := by
    rw [nodes, List.countP_map]
    apply List.countP_congr
    intro node member
    rw [Function.comp_apply, contains_unaffected honest (each node member)]
  unfold retainedUtility
  rw [counted, nodes, List.isEmpty_map, List.length_map]

theorem halted_dated {state state' : WorldState} (halted : Halted falsely state state')
    (id : String) : Dated id state' ↔ Dated id state := by
  obtain ⟨change, nodes, each⟩ := halted
  unfold Dated
  rw [nodes]
  constructor
  · rintro ⟨node', member, rfl, dated⟩
    obtain ⟨node, inside, rfl⟩ := List.mem_map.mp member
    rw [contains_date (each node inside)] at dated
    exact ⟨node, inside, (contains_id (each node inside)).symm, dated⟩
  · rintro ⟨node, inside, rfl, dated⟩
    refine ⟨change node, List.mem_map_of_mem inside, contains_id (each node inside), ?_⟩
    rw [contains_date (each node inside)]
    exact dated

section
variable {γ : Type} {A : Answering γ}

inductive Carried (A : Answering γ) (rng : Rng) (config : ExperimentConfig) (hasGateway : Bool)
    (state : WorldState) (g : γ) : WorldState → γ → Prop where
  | none : Carried A rng config hasGateway state g state g
  | next {later : List EventDraft} {state' state'' : WorldState} {g' g'' : γ}
      {asked : Answered} (before : Carried A rng config hasGateway state g state' g')
      (going : state'.tick < config.maxTicks.val)
      (round : Round A rng config hasGateway state' g' later state'' g'' asked) :
      Carried A rng config hasGateway state g state'' g''

def AsyncRun.Idle (config : ExperimentConfig) (tick : Nat) (start : WorldState) : AsyncRun → Prop
  | .finished state _ => state.nodes = start.nodes
  | .gathering locals => locals.state.nodes = start.nodes ∧
      locals.attempts = attempts locals.state config tick

theorem runAsyncScenarios_idle {config : ExperimentConfig} {tick : Nat}
    {start state : WorldState} (same : state.nodes = start.nodes) (names : List String)
    (drafts : List EventDraft) :
    (runAsyncScenarios config tick names state drafts).Idle config tick start := by
  induction names with
  | nil => exact same
  | cons name rest ih =>
    unfold runAsyncScenarios
    split
    · cases made : attempts state config tick with
      | nil => exact ih
      | cons first others => exact ⟨same, made.symm⟩
    · exact ih

theorem awaited_idle {config : ExperimentConfig} {tick : Nat} {start : WorldState}
    (closed : Sealed start) {g g' : γ} {run run' : AsyncRun} {asked : Answered}
    (idle : run.Idle config tick start) (awaited : Awaited A config tick g run g' run' asked) :
    run'.Idle config tick start := by
  induction awaited with
  | here => exact idle
  | @answered _ _ locals responses _ _ _ ih =>
    obtain ⟨same, made⟩ := ih
    apply runAsyncScenarios_idle
    rw [made]
    exact (realAgentStep_idle (sealed_of_nodes same closed) config tick responses).trans same

theorem round_halted {rng : Rng} {config : ExperimentConfig} {hasGateway : Bool}
    {state state' : WorldState} (closed : Sealed state) {g g' : γ} {drafts : List EventDraft}
    {asked : Answered} (round : Round A rng config hasGateway state g drafts state' g' asked) :
    Halted (Subverted config) state state' := by
  have sync : Halted (Subverted config) state (advance rng state config).1 :=
    advance_halted rng closed fun positive => ne_of_gt positive
  cases round with
  | sync alone => exact sync
  | async together awaited =>
    have idle := awaited_idle (sealed_halted closed sync)
      (runAsyncScenarios_idle rfl config.activeScenarios []) awaited
    exact halted_trans sync (halted_same idle)

theorem carried_tick {rng : Rng} {config : ExperimentConfig} {hasGateway : Bool}
    {state state' : WorldState} {g g' : γ}
    (carried : Carried A rng config hasGateway state g state' g') : state.tick ≤ state'.tick := by
  induction carried with
  | none => exact Nat.le_refl _
  | next _ _ round ih =>
    rw [round_tick round]
    exact Nat.le_add_right_of_le ih

theorem carried_halted {rng : Rng} {config : ExperimentConfig} {hasGateway : Bool}
    {state state' : WorldState} (finished : isFinished state config = true) {g g' : γ}
    (carried : Carried A rng config hasGateway state g state' g') :
    Halted (Subverted config) state state' := by
  induction carried with
  | none => exact halted_same rfl
  | next before going round ih =>
    rcases isFinished_iff.mp finished with late | closed
    · exact absurd going (Nat.not_lt.mpr (Nat.le_trans late (carried_tick before)))
    · exact halted_trans ih (round_halted (sealed_halted closed ih) round)

end

/-- Stopping early loses no compromise, in any continuation of any run; and the loop that
    stops early agrees with the one carried on to `max_ticks`. -/
theorem early_exit_loses_no_compromise :
    (∀ (rng : Rng) (networkx : Networkx) (config : ExperimentConfig)
      (past future : List WorldState) (state state' : WorldState),
      Visits config (buildWorld rng networkx config).1 past state → Sealed state →
      Visits config state future state' →
        everCompromised (past ++ future) = everCompromised past ∧
          (config.falseQuarantineRate.val = 0 → retainedUtility state' = retainedUtility state)) ∧
    ∀ (γ : Type) (A : Answering γ) (rng : Rng) (networkx : Networkx) (config : ExperimentConfig)
      (hasGateway : Bool) (g₀ g g' : γ) (drafts : List EventDraft) (state state' : WorldState),
      Rounds A rng config hasGateway (buildWorld rng networkx config).1 g₀ drafts state g →
      isFinished state config = true →
      Carried A rng config hasGateway state g state' g' →
        (∀ id, Dated id state' ↔ Dated id state) ∧
          (config.falseQuarantineRate.val = 0 →
            retainedUtility state' = retainedUtility state) := by
  constructor
  · intro rng networkx config past future state state' run closed continued
    obtain ⟨halted, each⟩ := visits_halted closed continued
    refine ⟨?_, fun honest => halted_utility halted (not_not.mpr honest)⟩
    ext id
    rw [mem_everCompromised, mem_everCompromised]
    constructor
    · rintro ⟨later, member, node, inside, compromised, named⟩
      rcases List.mem_append.mp member with early | late
      · exact ⟨later, early, node, inside, compromised, named⟩
      · refine ⟨state, visits_last run, node, halted_free (each later late) inside ?_,
          compromised, named⟩
        rw [compromised]
        decide
    · rintro ⟨before, member, holds⟩
      exact ⟨before, List.mem_append_left _ member, holds⟩
  · intro γ A rng networkx config hasGateway g₀ g g' drafts state state' run finished carried
    have halted := carried_halted finished carried
    exact ⟨halted_dated halted, fun honest => halted_utility halted (not_not.mpr honest)⟩

def spentWorld : WorldState :=
  (advance default (buildWorld default default smallNetwork).1 smallNetwork).1

theorem early_exit_of_spent_world :
    everCompromised ([(buildWorld default default smallNetwork).1] ++ [spentWorld] ++
        ([spentWorld] ++ [(advance default spentWorld smallNetwork).1])) =
      everCompromised ([(buildWorld default default smallNetwork).1] ++ [spentWorld]) ∧
    (smallNetwork.falseQuarantineRate.val = 0 →
      retainedUtility (advance default spentWorld smallNetwork).1 = retainedUtility spentWorld) :=
  early_exit_loses_no_compromise.1 default default smallNetwork _ _ _ _
    (Visits.start.next (.advance default smallNetwork.activeScenarios)) (by decide +kernel)
    (Visits.start.next (.advance default smallNetwork.activeScenarios))

end AgentShield.Scenarios
