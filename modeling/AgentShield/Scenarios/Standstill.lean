import AgentShield.Graph.Outline
import AgentShield.Scenarios.Ticks

/-!
A run without an owner of the tick stands still: the draws of tick 0 are the same in
every iteration, so that detection finds in the first one whatever it will ever find.
-/
namespace AgentShield.Scenarios
open Schema Keyed Engine GraphBuilder Propagation

structure Still (state state' : WorldState) : Prop where
  nodes : state'.nodes = state.nodes
  edges : state'.edges = state.edges
  tick : state'.tick = state.tick
  kept : state.compromisedGraphNodes ⊆ state'.compromisedGraphNodes

theorem still_refl (state : WorldState) : Still state state :=
  ⟨rfl, rfl, rfl, Finset.Subset.refl _⟩

theorem still_trans {state state' state'' : WorldState} (first : Still state state')
    (second : Still state' state'') : Still state state'' :=
  ⟨second.nodes.trans first.nodes, second.edges.trans first.edges,
    second.tick.trans first.tick, first.kept.trans second.kept⟩

theorem quiet_still {state state' : WorldState} {drafts : List EventDraft}
    (quiet : Quiet state drafts state') : Still state state' :=
  ⟨quiet.nodes, quiet.edges, quiet.tick, quiet.kept⟩

theorem unowned_still {name : String} {step : Scenario} (unowned : name ∉ tickOwners)
    (found : syncScenarios.lookup name = some step) (rng : Rng) (state : WorldState)
    (config : ExperimentConfig) : Still state (step rng state config).1 := by
  rcases registered_cases found with ⟨rfl, rfl⟩ | ⟨rfl, rfl⟩ | ⟨_, quiet⟩
  · exact absurd (by decide) unowned
  · exact absurd (by decide) unowned
  · exact quiet_still (quiet rng state config)

theorem unowned_names_still (rng : Rng) (config : ExperimentConfig) {names : List String}
    (others : ∀ name ∈ names, name ∉ tickOwners) (acc : WorldState × List EventDraft) :
    Still acc.1 (names.foldl (runSyncScenario rng config) acc).1 := by
  induction names generalizing acc with
  | nil => exact still_refl acc.1
  | cons name rest ih =>
    apply still_trans _ (ih (fun other later => others other (List.mem_cons_of_mem name later)) _)
    unfold runSyncScenario
    cases found : syncScenarios.lookup name with
    | none => exact still_refl acc.1
    | some step => exact unowned_still (others name List.mem_cons_self) found rng acc.1 config

theorem runSyncScenarios_still (rng : Rng) (state : WorldState) {config : ExperimentConfig}
    (unowned : ticksPerRound config = 0) :
    Still state (runSyncScenarios rng state config).1 := by
  apply unowned_names_still rng config _ (state, [])
  intro name member owned
  exact List.countP_eq_zero.mp unowned name member (decide_eq_true owned)

theorem suppressed_mono {rng : Rng} {config : ExperimentConfig} {state state' : WorldState}
    (keys : state'.nodes.keys = state.nodes.keys) (edges : state'.edges = state.edges)
    (kept : state.compromisedGraphNodes ⊆ state'.compromisedGraphNodes) :
    Detection.suppressedByCompromisedSentinels rng state config ⊆
      Detection.suppressedByCompromisedSentinels rng state' config := by
  have alike := build_alike rng config keys edges
  unfold Detection.suppressedByCompromisedSentinels
  split
  · exact List.nil_subset _
  · rename_i active
    rw [not_or] at active
    have active' : ¬ (config.sentinelCount.val = 0 ∨ state'.compromisedGraphNodes = ∅) := by
      rintro (none | none)
      · exact active.1 none
      · rw [none] at kept
        exact active.2 (Finset.subset_empty.mp kept)
    rw [if_neg active']
    intro id suppressed
    obtain ⟨edge, member, rfl⟩ := List.mem_map.mp suppressed
    obtain ⟨monitors, subverted⟩ := List.mem_filter.mp member
    obtain ⟨node, inside, same⟩ := List.mem_map.mp (of_decide_eq_true subverted)
    obtain ⟨sentinel, compromised⟩ := List.mem_filter.mp inside
    obtain ⟨node', sentinel', id'⟩ := alike_sentinel alike ⟨node, sentinel, rfl⟩
    apply List.mem_map_of_mem
    apply List.mem_filter.mpr
    constructor
    · unfold SecurityGraph.edgesOfType
      rw [alike.edges]
      exact monitors
    · apply decide_eq_true
      rw [← same, ← id']
      apply List.mem_map_of_mem
      apply List.mem_filter.mpr ⟨sentinel', ?_⟩
      apply decide_eq_true
      rw [id']
      exact kept (of_decide_eq_true compromised)

/-- Detection has nothing left to do at this tick. -/
structure Settled (rng : Rng) (config : ExperimentConfig) (state : WorldState) : Prop where
  detected : Detection.detected rng state config = []
  falselyReported : Detection.falselyReported rng state config = []

theorem settled_still {rng : Rng} {config : ExperimentConfig} {state state' : WorldState}
    (settled : Settled rng config state) (still : Still state state') :
    Settled rng config state' := by
  have more : Detection.suppressedByCompromisedSentinels rng state config ⊆
      Detection.suppressedByCompromisedSentinels rng state' config :=
    suppressed_mono (congrArg Table.keys still.nodes) still.edges still.kept
  have same : ∀ securityState, state'.inState securityState = state.inState securityState := by
    intro securityState
    unfold WorldState.inState
    rw [still.nodes]
  constructor
  · have none := settled.detected
    unfold Detection.detected at none ⊢
    rw [List.filter_eq_nil_iff] at none ⊢
    intro node member caught
    rw [same] at member
    rw [still.tick, decide_eq_true_eq] at caught
    apply none node member
    rw [decide_eq_true_eq]
    exact ⟨fun inside => caught.1 (more inside), caught.2⟩
  · have none := settled.falselyReported
    unfold Detection.falselyReported at none ⊢
    rw [same, still.tick]
    exact none

theorem quarantineAll_none (nodes : Table AgentNode.id) :
    Detection.quarantineAll [] nodes = nodes := by
  apply Table.update_same
  intro node _
  unfold Detection.quarantineIn
  rw [if_neg List.not_mem_nil]

def NothingLeft (rng : Rng) (config : ExperimentConfig) (state : WorldState) : Prop :=
  config.defenseEnabled = false ∨ Settled rng config state

theorem detection_still {rng : Rng} {config : ExperimentConfig} {state : WorldState}
    (nothing : NothingLeft rng config state) :
    Still state (Detection.step rng state config).1 := by
  unfold Detection.step
  split
  · exact still_refl state
  · rename_i defended
    rcases nothing with undefended | settled
    · exact absurd undefended defended
    · rw [settled.detected, settled.falselyReported]
      exact ⟨quarantineAll_none state.nodes, rfl, rfl, Finset.Subset.refl _⟩

theorem spared_node {ids : List String} {state : WorldState} {node : AgentNode}
    (member : node ∈ (Detection.quarantineAll ids state.nodes).values)
    (free : node.securityState ≠ .quarantined) : node ∈ state.nodes.values ∧ node.id ∉ ids := by
  obtain ⟨before, inside, rfl⟩ := List.mem_map.mp member
  unfold Detection.quarantineIn at free ⊢
  split
  · rename_i chosen
    rw [if_pos chosen] at free
    exact absurd rfl free
  · rename_i spared
    exact ⟨inside, spared⟩

theorem detection_leaves_nothing (rng : Rng) (config : ExperimentConfig) (state : WorldState) :
    NothingLeft rng config (Detection.step rng state config).1 := by
  by_cases undefended : config.defenseEnabled = false
  · exact Or.inl undefended
  · right
    generalize chosen : (Detection.detected rng state config ++
      Detection.falselyReported rng state config).map AgentNode.id = ids
    have after : (Detection.step rng state config).1 =
        { state with nodes := Detection.quarantineAll ids state.nodes } := by
      unfold Detection.step
      rw [if_neg undefended, ← chosen]
    have keys : (Detection.quarantineAll ids state.nodes).keys = state.nodes.keys :=
      map_keeps_keys (Detection.quarantineIn_id ids) _
    have more : Detection.suppressedByCompromisedSentinels rng state config ⊆
        Detection.suppressedByCompromisedSentinels rng
          { state with nodes := Detection.quarantineAll ids state.nodes } config :=
      suppressed_mono keys rfl (Finset.Subset.refl _)
    rw [after]
    constructor
    · apply List.filter_eq_nil_iff.mpr
      intro node member caught
      rw [decide_eq_true_eq] at caught
      obtain ⟨present, compromised⟩ := mem_inState.mp member
      obtain ⟨before, spared⟩ := spared_node present (by rw [compromised]; simp)
      have found : node ∈ Detection.detected rng state config := by
        apply List.mem_filter.mpr
        refine ⟨mem_inState.mpr ⟨before, compromised⟩, decide_eq_true ⟨?_, caught.2⟩⟩
        exact fun suppressed => caught.1 (more suppressed)
      rw [← chosen] at spared
      exact spared (List.mem_map_of_mem (List.mem_append_left _ found))
    · unfold Detection.falselyReported
      split
      · rename_i subverted
        rw [List.filter_eq_nil_iff]
        intro node member accused
        obtain ⟨present, healthy⟩ := mem_inState.mp member
        obtain ⟨before, spared⟩ := spared_node present (by rw [healthy]; simp)
        have found : node ∈ Detection.falselyReported rng state config := by
          unfold Detection.falselyReported
          rw [if_pos subverted]
          exact List.mem_filter.mpr ⟨mem_inState.mpr ⟨before, healthy⟩, accused⟩
        rw [← chosen] at spared
        exact spared (List.mem_map_of_mem (List.mem_append_right _ found))
      · rfl

theorem nothing_left_still {rng : Rng} {config : ExperimentConfig} {state state' : WorldState}
    (nothing : NothingLeft rng config state) (still : Still state state') :
    NothingLeft rng config state' :=
  nothing.imp_right fun settled => settled_still settled still

/-- After its first iteration the run stands still. -/
theorem iterations_still (rng : Rng) {config : ExperimentConfig} (unowned : ticksPerRound config = 0)
    (state : WorldState) (n : Nat) :
    Still (advance rng state config).1
      ((fun state => (advance rng state config).1)^[n + 1] state) := by
  have whole : NothingLeft rng config ((fun state => (advance rng state config).1)^[n + 1] state) ∧
      Still (advance rng state config).1
        ((fun state => (advance rng state config).1)^[n + 1] state) := by
    induction n with
    | zero => exact ⟨detection_leaves_nothing rng config _, still_refl _⟩
    | succ n ih =>
      rw [Function.iterate_succ_apply']
      generalize (fun state => (advance rng state config).1)^[n + 1] state = before at ih ⊢
      obtain ⟨nothing, still⟩ := ih
      have sync := runSyncScenarios_still rng before unowned
      have left := nothing_left_still nothing sync
      exact ⟨detection_leaves_nothing rng config _,
        still_trans still (still_trans sync (detection_still left))⟩
  exact whole.2

theorem still_isFinished {state state' : WorldState} (still : Still state state')
    (config : ExperimentConfig) : isFinished state' config = isFinished state config := by
  unfold isFinished
  rw [still.nodes, still.tick]

end AgentShield.Scenarios
