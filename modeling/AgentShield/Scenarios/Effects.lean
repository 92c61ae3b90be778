import AgentShield.Scenarios.Registry

/-!
What one step of the simulator can do to a world, whatever it draws and whatever
the models answer: nothing, compromise healthy neighbours of compromised agents,
or quarantine. A tick is a chain of such effects.
-/
namespace AgentShield.Scenarios
open Schema Keyed Engine Agents

inductive Effect (config : ExperimentConfig) (state : WorldState) :
    List EventDraft → WorldState → Prop where
  | quiet {drafts : List EventDraft} {state' : WorldState} (quiet : Quiet state drafts state') :
      Effect config state drafts state'
  | attack {attack : Attack} {state' : WorldState} (made : attack.Made state state.tick)
      (nodes : state'.nodes = compromiseClaimed attack.claims state.tick state.nodes)
      (edges : state'.edges = state.edges) (tick : state.tick ≤ state'.tick) :
      Effect config state attack.drafts state'
  | detection {detected falselyReported : List AgentNode}
      (caught : ∀ node ∈ detected, node ∈ state.nodes.values ∧ node.securityState = .compromised)
      (accused : ∀ node ∈ falselyReported, node ∈ state.nodes.values ∧
        node.securityState = .healthy)
      (distinct : ((detected ++ falselyReported).map AgentNode.id).Nodup) :
      Effect config state (Detection.drafts config state.tick detected falselyReported)
        { state with
          nodes := Detection.quarantineAll ((detected ++ falselyReported).map AgentNode.id)
            state.nodes }

inductive Effects (config : ExperimentConfig) :
    WorldState → List EventDraft → WorldState → Prop where
  | none (state : WorldState) : Effects config state [] state
  | next {state state' state'' : WorldState} {drafts later : List EventDraft}
      (before : Effects config state drafts state') (effect : Effect config state' later state'') :
      Effects config state (drafts ++ later) state''

theorem effects_append {config : ExperimentConfig} {state state' state'' : WorldState}
    {drafts later : List EventDraft} (first : Effects config state drafts state')
    (second : Effects config state' later state'') :
    Effects config state (drafts ++ later) state'' := by
  induction second with
  | none => rwa [List.append_nil]
  | next _ effect ih =>
    rw [← List.append_assoc]
    exact ih.next effect

theorem effects_single {config : ExperimentConfig} {state state' : WorldState}
    {drafts : List EventDraft} (effect : Effect config state drafts state') :
    Effects config state drafts state' :=
  (Effects.none state).next effect

theorem effects_keep {config : ExperimentConfig} {P : WorldState → Prop}
    (keeps : ∀ {state drafts state'}, P state → Effect config state drafts state' → P state')
    {state state' : WorldState} {drafts : List EventDraft} (start : P state)
    (effects : Effects config state drafts state') : P state' := by
  induction effects with
  | none => exact start
  | next _ effect ih => exact keeps ih effect

theorem scenario_effect {name : String} {step : Scenario}
    (found : syncScenarios.lookup name = some step) (rng : Rng) (state : WorldState)
    (config : ExperimentConfig) :
    Effect config state (step rng state config).2 (step rng state config).1 := by
  rcases registered_cases found with ⟨_, rfl⟩ | ⟨_, rfl⟩ | ⟨_, quiet⟩
  · exact .attack (Propagation.step_made rng state config) rfl rfl (Nat.le_succ _)
  · exact .attack (AdaptiveAttacker.step_made rng state config) rfl rfl (Nat.le_succ _)
  · exact .quiet (quiet rng state config)

theorem inState_distinct (state : WorldState) (securityState : SecurityState) :
    ((state.inState securityState).map AgentNode.id).Nodup := by
  have sorted := List.perm_insertionSort (fun a b : AgentNode => a.id ≤ b.id)
    (state.nodes.values.filter fun node => node.securityState = securityState)
  apply (sorted.map AgentNode.id).nodup_iff.mpr
  exact state.nodes.distinct.sublist (List.Sublist.map _ List.filter_sublist)

theorem reported_distinct (rng : Rng) (state : WorldState) (config : ExperimentConfig) :
    ((Detection.detected rng state config ++ Detection.falselyReported rng state config).map
      AgentNode.id).Nodup := by
  rw [List.map_append, List.nodup_append]
  refine ⟨?_, ?_, ?_⟩
  · exact (inState_distinct state .compromised).sublist (List.Sublist.map _ List.filter_sublist)
  · unfold Detection.falselyReported
    split
    · exact (inState_distinct state .healthy).sublist (List.Sublist.map _ List.filter_sublist)
    · exact List.nodup_nil
  · intro id caught other accused same
    obtain ⟨node, member, rfl⟩ := List.mem_map.mp caught
    obtain ⟨node', member', rfl⟩ := List.mem_map.mp accused
    obtain ⟨present, compromised⟩ := Detection.mem_detected member
    obtain ⟨present', healthy⟩ := Detection.mem_falselyReported member'
    have found := Table.get?_of_member present
    rw [same, Table.get?_of_member present'] at found
    obtain rfl := Option.some.inj found
    rw [healthy] at compromised
    cases compromised

theorem detection_effect (rng : Rng) (state : WorldState) (config : ExperimentConfig) :
    Effect config state (Detection.step rng state config).2
      (Detection.step rng state config).1 := by
  unfold Detection.step
  split
  · exact .quiet (quiet_same state)
  · exact .detection (fun _ member => Detection.mem_detected member)
      (fun _ member => Detection.mem_falselyReported member) (reported_distinct rng state config)

theorem agents_effect (state : WorldState) (config : ExperimentConfig)
    (responses : List (Option ModelResponse)) :
    Effect config state
      (realAgentStep state state.tick (attempts state config state.tick) responses).2
      (realAgentStep state state.tick (attempts state config state.tick) responses).1 := by
  rw [realAgentStep_drafts]
  apply Effect.attack (conclude_made state config state.tick responses)
  · exact realAgentStep_nodes _ _ _ _
  · unfold realAgentStep
    dsimp only
    split <;> rfl
  · unfold realAgentStep
    dsimp only
    split <;> exact Nat.le_refl _

theorem runSyncScenario_effects {rng : Rng} {config : ExperimentConfig} {start : WorldState}
    {acc : WorldState × List EventDraft} (effects : Effects config start acc.2 acc.1)
    (name : String) :
    Effects config start (runSyncScenario rng config acc name).2
      (runSyncScenario rng config acc name).1 := by
  unfold runSyncScenario
  cases found : syncScenarios.lookup name with
  | none => exact effects
  | some step => exact effects.next (scenario_effect found rng acc.1 config)

theorem runSyncScenarios_effects (rng : Rng) (state : WorldState) (config : ExperimentConfig) :
    Effects config state (runSyncScenarios rng state config).2
      (runSyncScenarios rng state config).1 := by
  have whole : ∀ (names : List String) (acc : WorldState × List EventDraft),
      Effects config state acc.2 acc.1 →
      Effects config state (names.foldl (runSyncScenario rng config) acc).2
        (names.foldl (runSyncScenario rng config) acc).1 := by
    intro names
    induction names with
    | nil => exact fun _ effects => effects
    | cons name rest ih => exact fun acc effects => ih _ (runSyncScenario_effects effects name)
  exact whole config.activeScenarios (state, []) (.none state)

theorem advance_effects (rng : Rng) (state : WorldState) (config : ExperimentConfig) :
    Effects config state (advance rng state config).2 (advance rng state config).1 :=
  (runSyncScenarios_effects rng state config).next (detection_effect rng _ config)

def AsyncRun.Chained (config : ExperimentConfig) (start : WorldState) : AsyncRun → Prop
  | .finished state drafts => Effects config start drafts state ∧ state.tick = start.tick
  | .gathering locals => Effects config start locals.drafts locals.state ∧
      locals.state.tick = start.tick ∧
      locals.attempts = attempts locals.state config start.tick

theorem runAsyncScenarios_chained {config : ExperimentConfig} {start : WorldState}
    (names : List String) {state : WorldState} {drafts : List EventDraft}
    (effects : Effects config start drafts state) (tick : state.tick = start.tick) :
    (runAsyncScenarios config start.tick names state drafts).Chained config start := by
  induction names with
  | nil => exact ⟨effects, tick⟩
  | cons name rest ih =>
    unfold runAsyncScenarios
    split
    · cases made : attempts state config start.tick with
      | nil => exact ih
      | cons first others => exact ⟨effects, tick, made.symm⟩
    · exact ih

theorem realAgentStep_tick (state : WorldState) (tick : Nat) (attempts : List Attempt)
    (responses : List (Option ModelResponse)) :
    (realAgentStep state tick attempts responses).1.tick = state.tick := by
  unfold realAgentStep
  dsimp only
  split <;> rfl

theorem resume_chained {config : ExperimentConfig} {start : WorldState} {locals : Gathering}
    (chained : (AsyncRun.gathering locals).Chained config start)
    (responses : List (Option ModelResponse)) :
    (locals.resume config start.tick responses).Chained config start := by
  obtain ⟨effects, tick, made⟩ := chained
  have step : Effects config start
      (locals.drafts ++ (realAgentStep locals.state start.tick locals.attempts responses).2)
      (realAgentStep locals.state start.tick locals.attempts responses).1 := by
    rw [made, ← tick]
    exact effects.next (agents_effect locals.state config responses)
  unfold Gathering.resume
  exact runAsyncScenarios_chained locals.rest step ((realAgentStep_tick _ _ _ _).trans tick)

end AgentShield.Scenarios
