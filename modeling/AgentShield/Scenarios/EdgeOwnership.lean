import AgentShield.Scenarios.Lifecycle
import AgentShield.Scenarios.Rounds
import AgentShield.Scenarios.Vocabulary

/-!
Who attempts which edge in an iteration of the loop. The spread leaves an edge
between two real agents to the models; the adaptive attacker does not look.
-/
namespace AgentShield.Scenarios
open Schema Keyed Engine Agents

/-- A scenario of the synchronous half, with the state it was given and what it said. -/
structure ScenarioRun where
  name : String
  before : WorldState
  drafts : List EventDraft

def syncRuns (rng : Rng) (config : ExperimentConfig) : List String → WorldState → List ScenarioRun
  | [], _ => []
  | name :: rest, state =>
    match syncScenarios.lookup name with
    | none => syncRuns rng config rest state
    | some step =>
      ⟨name, state, (step rng state config).2⟩ ::
        syncRuns rng config rest (step rng state config).1

theorem syncRuns_drafts (rng : Rng) (state : WorldState) (config : ExperimentConfig) :
    (runSyncScenarios rng state config).2 =
      (syncRuns rng config config.activeScenarios state).flatMap ScenarioRun.drafts := by
  have whole : ∀ (names : List String) (acc : WorldState × List EventDraft),
      (names.foldl (runSyncScenario rng config) acc).2 =
        acc.2 ++ (syncRuns rng config names acc.1).flatMap ScenarioRun.drafts := by
    intro names
    induction names with
    | nil => exact fun acc => (List.append_nil _).symm
    | cons name rest ih =>
      intro acc
      rw [List.foldl_cons, ih]
      cases found : syncScenarios.lookup name with
      | none => simp only [runSyncScenario, syncRuns, found]
      | some step =>
        simp only [runSyncScenario, syncRuns, found, List.flatMap_cons, List.append_assoc]
  exact whole config.activeScenarios (state, [])

def AsyncRun.pending : AsyncRun → List Attempt
  | .finished _ _ => []
  | .gathering locals => locals.attempts

/-- What the models were asked in an iteration, up to some await of its asynchronous half. -/
inductive Asks (rng : Rng) (config : ExperimentConfig) (hasGateway : Bool) (state : WorldState) :
    List Attempt → Prop where
  | none : Asks rng config hasGateway state []
  | sofar {asked : Answered} {run : AsyncRun} (together : hasGateway = true)
      (awaited : Awaited anyAnswers config (advance rng state config).1.tick ()
        (asyncHalf config (advance rng state config).1) () run asked) :
      Asks rng config hasGateway state (asked.map Prod.fst ++ run.pending)

def Attacks (source target : String) (d : EventDraft) : Prop :=
  d.eventType ∈ attackTypes ∧ d.sourceAgentId = some source ∧ d.targetAgentId = some target

/-- The pairs that a scenario attempts in an iteration. -/
inductive AttemptedBy (runs : List ScenarioRun) (asked : List Attempt) (source target : String) :
    String → Prop where
  | sync {run : ScenarioRun} {d : EventDraft} (ran : run ∈ runs) (said : d ∈ run.drafts)
      (attacks : Attacks source target d) : AttemptedBy runs asked source target run.name
  | models {attempt : Attempt} (made : attempt ∈ asked) (on : attempt.source.id = source)
      (against : attempt.target.id = target) :
      AttemptedBy runs asked source target "prompt_injection"

/-- Each edge has one owner, and an edge between real agents belongs to the models. -/
structure EdgesOwned (state : WorldState) (runs : List ScenarioRun) (asked : List Attempt) :
    Prop where
  real : ∀ run ∈ runs, ∀ source ∈ state.nodes.values, ∀ target ∈ state.nodes.values,
    source.agentKind = .real → target.agentKind = .real →
      ∀ d ∈ run.drafts, ¬ Attacks source.id target.id d
  one : ∀ source target name name', AttemptedBy runs asked source target name →
    AttemptedBy runs asked source target name' → name = name'

/-- No compromised real agent would rather attack a real neighbour than a simulated one. -/
def SparesReal (config : ExperimentConfig) (state : WorldState) : Prop :=
  ∀ source ∈ state.inState .compromised, source.agentKind = .real →
    ∀ target ∈ state.healthyNeighbors source, target.agentKind = .real →
      ∃ other ∈ state.healthyNeighbors source, other.agentKind ≠ .real ∧
        ¬ (AdaptiveAttacker.chooseStrategy state config).before target other

def Targets (drafts : List EventDraft) (source target : String) : Prop :=
  ∃ d ∈ drafts, Attacks source target d

theorem targets_concat (drafts : List EventDraft) {type : EventType} (listed : type ∈ attackTypes)
    (tick : Nat) (source target : String) (metadata : Metadata) (a b : String) :
    Targets (drafts ++ [Attack.draft type tick source target metadata]) a b ↔
      Targets drafts a b ∨ a = source ∧ b = target := by
  unfold Targets
  constructor
  · rintro ⟨d, member, attacks⟩
    rcases List.mem_append.mp member with old | new
    · exact Or.inl ⟨d, old, attacks⟩
    · obtain rfl := List.mem_singleton.mp new
      exact Or.inr ⟨(Option.some.inj attacks.2.1).symm, (Option.some.inj attacks.2.2).symm⟩
  · rintro (⟨d, old, attacks⟩ | ⟨rfl, rfl⟩)
    · exact ⟨d, List.mem_append_left _ old, attacks⟩
    · exact ⟨_, List.mem_append_right _ List.mem_cons_self, listed, rfl, rfl⟩

theorem succeed_targets (attack : Attack) (tick : Nat) (source target : String)
    (metadata : Metadata) (a b : String) :
    Targets (attack.succeed tick source target metadata).drafts a b ↔
      Targets attack.drafts a b ∨ a = source ∧ b = target := by
  unfold Attack.succeed
  split
  · exact targets_concat _ (by decide) _ _ _ _ _ _
  · exact targets_concat _ (by decide) _ _ _ _ _ _

theorem attempt_targets (attack : Attack) (tick : Nat) (source target : String)
    (metadata : Metadata) (hit : Bool) (a b : String) :
    Targets (attack.attempt tick source target metadata hit).drafts a b ↔
      Targets attack.drafts a b ∨ a = source ∧ b = target := by
  have attempted : Targets (attack.record
      (Attack.draft .compromiseAttempted tick source target metadata)).drafts a b ↔
        Targets attack.drafts a b ∨ a = source ∧ b = target :=
    targets_concat _ (by decide) _ _ _ _ _ _
  unfold Attack.attempt
  cases hit with
  | true =>
    rw [if_pos rfl, succeed_targets, attempted, or_assoc, or_self]
  | false =>
    have failed := targets_concat (attack.record
      (Attack.draft .compromiseAttempted tick source target metadata)).drafts
      (by decide : EventType.compromiseFailed ∈ attackTypes) tick source target metadata a b
    rw [attempted, or_assoc, or_self] at failed
    exact failed

theorem loop_targets {α : Type} {pairOf : α → String → String → Prop} {round : Attack → α → Attack}
    (each : ∀ (attack : Attack) item a b,
      Targets (round attack item).drafts a b ↔ Targets attack.drafts a b ∨ pairOf item a b)
    (items : List α) (attack : Attack) (a b : String) :
    Targets (items.foldl round attack).drafts a b ↔
      Targets attack.drafts a b ∨ ∃ item ∈ items, pairOf item a b := by
  induction items generalizing attack with
  | nil => simp
  | cons item rest ih =>
    rw [List.foldl_cons, ih, each, or_assoc]
    simp only [List.mem_cons, exists_eq_or_imp]

theorem start_targets (a b : String) : ¬ Targets Attack.start.drafts a b := by
  rintro ⟨d, member, _⟩
  cases member

theorem propagation_targets (rng : Rng) (state : WorldState) (config : ExperimentConfig)
    (a b : String) :
    Targets (Propagation.step rng state config).2 a b ↔
      ∃ source ∈ state.inState .compromised, ∃ target ∈ state.healthyNeighbors source,
        ¬ (source.agentKind = .real ∧ target.agentKind = .real) ∧ a = source.id ∧
          b = target.id := by
  have inner : ∀ source (attack : Attack) target a b,
      Targets (Propagation.attemptOn rng config state.tick source attack target).drafts a b ↔
        Targets attack.drafts a b ∨ (¬ (source.agentKind = .real ∧ target.agentKind = .real) ∧
          a = source.id ∧ b = target.id) := by
    intro source attack target a b
    unfold Propagation.attemptOn
    split
    · rename_i both
      simp [both]
    · rename_i other
      rw [attempt_targets, and_iff_right other]
  have outer : ∀ (attack : Attack) source a b,
      Targets (Propagation.attackFrom rng config state attack source).drafts a b ↔
        Targets attack.drafts a b ∨ ∃ target ∈ state.healthyNeighbors source,
          ¬ (source.agentKind = .real ∧ target.agentKind = .real) ∧ a = source.id ∧
            b = target.id :=
    fun attack source a b => loop_targets (inner source) _ attack a b
  exact (loop_targets outer _ .start a b).trans (or_iff_right (start_targets a b))

theorem adaptiveAttacker_targets (rng : Rng) (state : WorldState) (config : ExperimentConfig)
    (a b : String) :
    Targets (AdaptiveAttacker.step rng state config).2 a b ↔
      ∃ source ∈ state.inState .compromised, ∃ target,
        AdaptiveAttacker.chooseTarget state (AdaptiveAttacker.chooseStrategy state config)
          source = some target ∧ a = source.id ∧ b = target.id := by
  have each : ∀ (attack : Attack) source a b,
      Targets (AdaptiveAttacker.attackFrom rng config state
          (AdaptiveAttacker.chooseStrategy state config) attack source).drafts a b ↔
        Targets attack.drafts a b ∨ ∃ target,
          AdaptiveAttacker.chooseTarget state (AdaptiveAttacker.chooseStrategy state config)
            source = some target ∧ a = source.id ∧ b = target.id := by
    intro attack source a b
    unfold AdaptiveAttacker.attackFrom
    split
    · rename_i none
      simp [none]
    · rename_i target chosen
      rw [attempt_targets, chosen]
      simp
  exact (loop_targets each _ .start a b).trans (or_iff_right (start_targets a b))

instance (strategy : AdaptiveAttacker.Strategy) : Std.Total strategy.before where
  total a b := by
    have ids := String.le_total a.id b.id
    cases strategy <;> simp only [AdaptiveAttacker.Strategy.before] <;> grind

instance (strategy : AdaptiveAttacker.Strategy) : IsTrans AgentNode strategy.before where
  trans a b c := by
    have ids : a.id ≤ b.id → b.id ≤ c.id → a.id ≤ c.id := String.le_trans
    cases strategy <;> simp only [AdaptiveAttacker.Strategy.before] <;> grind

theorem before_antisymm {strategy : AdaptiveAttacker.Strategy} {a b : AgentNode}
    (first : strategy.before a b) (second : strategy.before b a) : a.id = b.id := by
  have ids : a.id ≤ b.id → b.id ≤ a.id → a.id = b.id := String.le_antisymm
  cases strategy <;> simp only [AdaptiveAttacker.Strategy.before] at first second <;> grind

theorem chosen_first {state : WorldState} {strategy : AdaptiveAttacker.Strategy}
    {source target : AgentNode}
    (chosen : AdaptiveAttacker.chooseTarget state strategy source = some target)
    {other : AgentNode} (inside : other ∈ state.healthyNeighbors source) :
    strategy.before target other := by
  have sorted := List.pairwise_insertionSort strategy.before (state.healthyNeighbors source)
  have member := (List.mem_insertionSort strategy.before).mpr inside
  unfold AdaptiveAttacker.chooseTarget at chosen
  obtain ⟨rest, split⟩ := List.head?_eq_some_iff.mp chosen
  rw [split] at sorted member
  rcases List.mem_cons.mp member with rfl | later
  · exact (Std.Total.total _ _).elim id id
  · exact (List.pairwise_cons.mp sorted).1 other later

theorem chooses_some {state : WorldState} {source target : AgentNode}
    (strategy : AdaptiveAttacker.Strategy) (inside : target ∈ state.healthyNeighbors source) :
    ∃ chosen, AdaptiveAttacker.chooseTarget state strategy source = some chosen := by
  unfold AdaptiveAttacker.chooseTarget
  cases sorted : (state.healthyNeighbors source).insertionSort strategy.before with
  | nil =>
    have member := (List.mem_insertionSort strategy.before).mpr inside
    rw [sorted] at member
    cases member
  | cons first rest => exact ⟨first, rfl⟩

theorem sparesReal_iff {config : ExperimentConfig} {state : WorldState} :
    SparesReal config state ↔ ∀ source ∈ state.inState .compromised, source.agentKind = .real →
      ∀ target, AdaptiveAttacker.chooseTarget state
        (AdaptiveAttacker.chooseStrategy state config) source = some target →
          target.agentKind ≠ .real := by
  constructor
  · intro spares source attacking real target chosen aimed
    obtain ⟨other, inside, _, preferred⟩ :=
      spares source attacking real target (AdaptiveAttacker.chosen_healthy chosen) aimed
    exact preferred (chosen_first chosen inside)
  · intro simulated source attacking real target inside aimed
    obtain ⟨other, chosen⟩ := chooses_some (AdaptiveAttacker.chooseStrategy state config) inside
    have spared := simulated source attacking real other chosen
    refine ⟨other, AdaptiveAttacker.chosen_healthy chosen, spared, ?_⟩
    intro preferred
    have same := before_antisymm preferred (chosen_first chosen inside)
    obtain ⟨_, present, _⟩ := mem_healthyNeighbors.mp inside
    obtain ⟨_, present', _⟩ := mem_healthyNeighbors.mp (AdaptiveAttacker.chosen_healthy chosen)
    obtain rfl := same_node present present' same
    exact spared aimed

def kinds (state : WorldState) : List (String × AgentKind) :=
  state.nodes.values.map fun node => (node.id, node.agentKind)

theorem effect_kinds {config : ExperimentConfig} {state state' : WorldState}
    {drafts : List EventDraft} (effect : Effect config state drafts state') :
    kinds state' = kinds state := by
  obtain ⟨change, evolves⟩ := effect_evolves effect
  unfold kinds
  rw [evolves.nodes, List.map_map]
  apply List.map_congr_left
  intro node member
  have same := step_same_agent (evolves.steps node member)
  simp only [Function.comp_apply, same.id, same.agentKind]

theorem effects_kinds {config : ExperimentConfig} {state state' : WorldState}
    {drafts : List EventDraft} (effects : Effects config state drafts state') :
    kinds state' = kinds state :=
  effects_keep (P := fun s => kinds s = kinds state)
    (fun kept effect => (effect_kinds effect).trans kept) rfl effects

theorem same_kind {state state' : WorldState} (same : kinds state' = kinds state)
    {node node' : AgentNode} (member : node ∈ state.nodes.values)
    (member' : node' ∈ state'.nodes.values) (id : node'.id = node.id) :
    node'.agentKind = node.agentKind := by
  have listed : (node'.id, node'.agentKind) ∈ kinds state :=
    same ▸ List.mem_map_of_mem (f := fun node => (node.id, node.agentKind)) member'
  obtain ⟨other, there, equal⟩ := List.mem_map.mp listed
  obtain ⟨id', kind⟩ := Prod.mk.inj equal
  obtain rfl := same_node there member (id'.trans id)
  exact kind.symm

theorem same_kinds_node {state state' : WorldState} (same : kinds state' = kinds state)
    {node : AgentNode} (member : node ∈ state.nodes.values) :
    ∃ node' ∈ state'.nodes.values, node'.id = node.id ∧ node'.agentKind = node.agentKind := by
  have listed : (node.id, node.agentKind) ∈ kinds state' :=
    same ▸ List.mem_map_of_mem (f := fun node => (node.id, node.agentKind)) member
  obtain ⟨other, there, equal⟩ := List.mem_map.mp listed
  obtain ⟨id, kind⟩ := Prod.mk.inj equal
  exact ⟨other, there, id, kind⟩

theorem syncRuns_member {rng : Rng} {config : ExperimentConfig} {names : List String}
    {state : WorldState} {run : ScenarioRun} (ran : run ∈ syncRuns rng config names state) :
    run.name ∈ names ∧ kinds run.before = kinds state ∧
      ∃ step, syncScenarios.lookup run.name = some step ∧
        run.drafts = (step rng run.before config).2 := by
  induction names generalizing state with
  | nil => cases ran
  | cons name rest ih =>
    unfold syncRuns at ran
    cases found : syncScenarios.lookup name with
    | none =>
      rw [found] at ran
      obtain ⟨listed, same, how⟩ := ih ran
      exact ⟨List.mem_cons_of_mem name listed, same, how⟩
    | some step =>
      rw [found] at ran
      rcases List.mem_cons.mp ran with rfl | later
      · exact ⟨List.mem_cons_self, rfl, step, found, rfl⟩
      · obtain ⟨listed, same, how⟩ := ih later
        have kept := effect_kinds (scenario_effect found rng state config)
        exact ⟨List.mem_cons_of_mem name listed, same.trans kept, how⟩

theorem mem_attempts_real {state : WorldState} {config : ExperimentConfig} {tick : Nat}
    {one : Attempt} (member : one ∈ attempts state config tick) :
    one.source.agentKind = .real ∧ one.target.agentKind = .real := by
  obtain ⟨source, chosen, inside⟩ := List.mem_flatMap.mp member
  obtain ⟨target, reached, rfl⟩ := List.mem_map.mp inside
  exact ⟨of_decide_eq_true (List.mem_filter.mp chosen).2,
    of_decide_eq_true (List.mem_filter.mp reached).2⟩

structure RealPair (state : WorldState) (source target : String) : Prop where
  source : ∃ node ∈ state.nodes.values, node.id = source ∧ node.agentKind = .real
  target : ∃ node ∈ state.nodes.values, node.id = target ∧ node.agentKind = .real

theorem chained_attempts_real {config : ExperimentConfig} {start : WorldState}
    {locals : Gathering} (chained : (AsyncRun.gathering locals).Chained config start)
    {attempt : Attempt} (made : attempt ∈ locals.attempts) :
    RealPair start attempt.source.id attempt.target.id := by
  obtain ⟨effects, _, same⟩ := chained
  rw [same] at made
  have kept := (effects_kinds effects).symm
  obtain ⟨attacking, inside⟩ := mem_attempts made
  obtain ⟨source, target⟩ := mem_attempts_real made
  obtain ⟨_, present, _⟩ := mem_healthyNeighbors.mp inside
  obtain ⟨node, there, id, kind⟩ := same_kinds_node kept (mem_inState.mp attacking).1
  obtain ⟨node', there', id', kind'⟩ := same_kinds_node kept present
  exact ⟨⟨node, there, id, kind.trans source⟩, ⟨node', there', id', kind'.trans target⟩⟩

theorem awaited_attempts_real {γ : Type} {A : Answering γ} {config : ExperimentConfig}
    {start : WorldState} {g g' : γ} {run run' : AsyncRun} {asked : Answered}
    (chained : run.Chained config start)
    (awaited : Awaited A config start.tick g run g' run' asked) :
    ∀ attempt ∈ asked.map Prod.fst, RealPair start attempt.source.id attempt.target.id := by
  induction awaited with
  | here =>
    intro attempt made
    cases made
  | answered before given ih =>
    intro attempt made
    rw [List.map_append, List.mem_append] at made
    rcases made with early | late
    · exact ih attempt early
    · obtain ⟨entry, member, rfl⟩ := List.mem_map.mp late
      exact chained_attempts_real (awaited_chained chained before) (List.of_mem_zip member).1

theorem asks_real {rng : Rng} {config : ExperimentConfig} {hasGateway : Bool}
    {state : WorldState} {asked : List Attempt} (asks : Asks rng config hasGateway state asked) :
    ∀ attempt ∈ asked, RealPair state attempt.source.id attempt.target.id := by
  intro attempt made
  cases asks with
  | none => cases made
  | @sofar answered run together awaited =>
    have chained := asyncHalf_chained config (advance rng state config).1
    have advanced : RealPair (advance rng state config).1 attempt.source.id attempt.target.id := by
      rcases List.mem_append.mp made with before | pending
      · exact awaited_attempts_real chained awaited attempt before
      · have now := awaited_chained chained awaited
        cases run with
        | finished => cases pending
        | gathering locals => exact chained_attempts_real now pending
    have kept := (effects_kinds (advance_effects rng state config)).symm
    obtain ⟨⟨node, there, id, kind⟩, ⟨node', there', id', kind'⟩⟩ := advanced
    obtain ⟨first, present, same, kind₁⟩ := same_kinds_node kept there
    obtain ⟨second, present', same', kind₂⟩ := same_kinds_node kept there'
    exact ⟨⟨first, present, same.trans id, kind₁.trans kind⟩,
      ⟨second, present', same'.trans id', kind₂.trans kind'⟩⟩

theorem not_realPair {state before : WorldState} (same : kinds before = kinds state)
    {source target : AgentNode} (present : source ∈ before.nodes.values)
    (present' : target ∈ before.nodes.values)
    (mixed : ¬ (source.agentKind = .real ∧ target.agentKind = .real)) :
    ¬ RealPair state source.id target.id := by
  rintro ⟨⟨node, there, id, kind⟩, ⟨node', there', id', kind'⟩⟩
  apply mixed
  exact ⟨(same_kind same there present id.symm).trans kind,
    (same_kind same there' present' id'.symm).trans kind'⟩

/-- But for an adaptive attacker that does not spare them, no scenario attempts real pairs. -/
theorem run_targets {rng : Rng} {config : ExperimentConfig} {names : List String}
    {state : WorldState} {run : ScenarioRun} (ran : run ∈ syncRuns rng config names state)
    (spares : run.name = "adaptive_attacker" → SparesReal config run.before)
    {source target : String} (targets : Targets run.drafts source target) :
    ¬ RealPair state source target ∧
      (run.name = "propagation" ∨ run.name = "adaptive_attacker") := by
  obtain ⟨_, same, step, found, drafts⟩ := syncRuns_member ran
  rw [drafts] at targets
  rcases registered_tells found with ⟨name, rfl⟩ | ⟨name, rfl⟩ | plane
  · obtain ⟨node, attacking, other, inside, mixed, rfl, rfl⟩ :=
      (propagation_targets _ _ _ _ _).mp targets
    obtain ⟨_, present, _⟩ := mem_healthyNeighbors.mp inside
    exact ⟨not_realPair same (mem_inState.mp attacking).1 present mixed, Or.inl name⟩
  · obtain ⟨node, attacking, other, chosen, rfl, rfl⟩ :=
      (adaptiveAttacker_targets _ _ _ _ _).mp targets
    obtain ⟨_, present, _⟩ := mem_healthyNeighbors.mp (AdaptiveAttacker.chosen_healthy chosen)
    have mixed : ¬ (node.agentKind = .real ∧ other.agentKind = .real) := by
      rintro ⟨real, aimed⟩
      exact sparesReal_iff.mp (spares name) node attacking real other chosen aimed
    exact ⟨not_realPair same (mem_inState.mp attacking).1 present mixed, Or.inr name⟩
  · obtain ⟨d, member, type, _⟩ := targets
    exact absurd (plane rng run.before config d member) (attacks_apart _ type)

theorem edges_owned_iff_spared (rng : Rng) (config : ExperimentConfig) (hasGateway : Bool)
    (apart : ¬ ("propagation" ∈ config.activeScenarios ∧
      "adaptive_attacker" ∈ config.activeScenarios))
    (state : WorldState) {asked : List Attempt} (asks : Asks rng config hasGateway state asked) :
    EdgesOwned state (syncRuns rng config config.activeScenarios state) asked ↔
      ∀ run ∈ syncRuns rng config config.activeScenarios state,
        run.name = "adaptive_attacker" → SparesReal config run.before := by
  constructor
  · rintro ⟨unreal, _⟩ run ran name
    obtain ⟨_, same, step, found, drafts⟩ := syncRuns_member ran
    have adaptive : step = AdaptiveAttacker.step := by
      rw [name] at found
      exact (Option.some.inj found).symm
    subst adaptive
    rw [sparesReal_iff]
    intro source attacking real target chosen aimed
    obtain ⟨_, present, _⟩ := mem_healthyNeighbors.mp (AdaptiveAttacker.chosen_healthy chosen)
    obtain ⟨d, said, attacks⟩ := (adaptiveAttacker_targets rng run.before config _ _).mpr
      ⟨source, attacking, target, chosen, rfl, rfl⟩
    obtain ⟨node, there, id, kind⟩ := same_kinds_node same.symm (mem_inState.mp attacking).1
    obtain ⟨node', there', id', kind'⟩ := same_kinds_node same.symm present
    rw [← id, ← id'] at attacks
    exact unreal run ran node there node' there' (kind.trans real) (kind'.trans aimed) d
      (drafts ▸ said) attacks
  · intro spares
    constructor
    · intro run ran source there target there' real real' d said attacks
      apply (run_targets ran (spares run ran) ⟨d, said, attacks⟩).1
      exact ⟨⟨source, there, rfl, real⟩, ⟨target, there', rfl, real'⟩⟩
    · intro source target name name' first second
      have models : ∀ attempt ∈ asked, attempt.source.id = source → attempt.target.id = target →
          RealPair state source target := by
        rintro attempt made rfl rfl
        exact asks_real asks attempt made
      cases first with
      | sync ran said attacks =>
        obtain ⟨mixed, owner⟩ := run_targets ran (spares _ ran) ⟨_, said, attacks⟩
        cases second with
        | models made on against => exact absurd (models _ made on against) mixed
        | sync ran' said' attacks' =>
          obtain ⟨_, owner'⟩ := run_targets ran' (spares _ ran') ⟨_, said', attacks'⟩
          have listed := (syncRuns_member ran).1
          have listed' := (syncRuns_member ran').1
          rcases owner with one | one <;> rcases owner' with other | other
          · rw [one, other]
          · exact absurd ⟨one ▸ listed, other ▸ listed'⟩ apart
          · exact absurd ⟨other ▸ listed', one ▸ listed⟩ apart
          · rw [one, other]
      | models made on against =>
        cases second with
        | models => rfl
        | sync ran' said' attacks' =>
          obtain ⟨mixed, _⟩ := run_targets ran' (spares _ ran') ⟨_, said', attacks'⟩
          exact absurd (models _ made on against) mixed

theorem asks_pending (rng : Rng) (config : ExperimentConfig) (state : WorldState) :
    Asks rng config true state (asyncHalf config (advance rng state config).1).pending :=
  .sofar rfl .here

def vainAttacker : ExperimentConfig :=
  { smallNetwork with
    pSame := impossible
    pCross := impossible
    defenseEnabled := false
    realAgentCount := twoAgents
    activeScenarios := ["adaptive_attacker", "prompt_injection"] }

def vainSpread : ExperimentConfig :=
  { vainAttacker with activeScenarios := ["propagation", "prompt_injection"] }

theorem spread_leaves_real_edges :
    EdgesOwned (TopologyBuilder.buildWorld default default vainSpread).1
      (syncRuns default vainSpread vainSpread.activeScenarios
        (TopologyBuilder.buildWorld default default vainSpread).1)
      (asyncHalf vainSpread (advance default
        (TopologyBuilder.buildWorld default default vainSpread).1 vainSpread).1).pending := by
  generalize (TopologyBuilder.buildWorld default default vainSpread).1 = state
  apply (edges_owned_iff_spared default vainSpread true (by decide) state
    (asks_pending default vainSpread state)).mpr
  intro run ran name
  have listed := (syncRuns_member ran).1
  rw [name] at listed
  exact absurd listed (by decide)

def vainWorld : WorldState := (TopologyBuilder.buildWorld default default vainAttacker).1

def vainRuns : List ScenarioRun :=
  syncRuns default vainAttacker vainAttacker.activeScenarios vainWorld

def vainAsked : List Attempt :=
  (asyncHalf vainAttacker (advance default vainWorld vainAttacker).1).pending

theorem attempted_twice : ∃ run ∈ vainRuns, run.name = "adaptive_attacker" ∧
    ∃ attempt ∈ vainAsked, Targets run.drafts attempt.source.id attempt.target.id := by
  unfold Targets Attacks
  decide +kernel

theorem vainAsked_asks : Asks default vainAttacker true vainWorld vainAsked := by
  unfold vainAsked
  exact asks_pending default vainAttacker vainWorld

/-- The attacker and the models attempt the same edge between two real agents. -/
theorem real_edge_attempted_twice :
    (∃ source target, AttemptedBy vainRuns vainAsked source target "adaptive_attacker" ∧
      AttemptedBy vainRuns vainAsked source target "prompt_injection" ∧
      RealPair vainWorld source target) ∧ ¬ EdgesOwned vainWorld vainRuns vainAsked := by
  obtain ⟨run, ran, name, attempt, asked, d, said, attacks⟩ := attempted_twice
  have real := asks_real vainAsked_asks attempt asked
  have first : AttemptedBy vainRuns vainAsked attempt.source.id attempt.target.id
      "adaptive_attacker" := name ▸ .sync ran said attacks
  have second : AttemptedBy vainRuns vainAsked attempt.source.id attempt.target.id
      "prompt_injection" := .models asked rfl rfl
  refine ⟨⟨_, _, first, second, real⟩, ?_⟩
  intro owned
  exact absurd (owned.one _ _ _ _ first second) (by decide)

end AgentShield.Scenarios
