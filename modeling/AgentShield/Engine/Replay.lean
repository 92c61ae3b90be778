import AgentShield.Engine.Simulate
import AgentShield.Events.Bus
import AgentShield.Gateway.ModelGateway

/-!
Reconstructing a finished experiment (`engine/replay.py`): the engine's own loop
again, up to the recorded tick, with the deterministic provider.
-/
namespace AgentShield.Replay
open Schema Events Engine Scenarios Agents Gateway Propagation TopologyBuilder Simulate Loop

inductive ReplayError where
  /- `ReplayUnsupportedError`. -/
  | unsupported (text : String)
  /- The `RuntimeError` of `asyncio.run` in a thread whose event loop is running. -/
  | runningLoop
  deriving DecidableEq

def usesAsyncScenario (config : ExperimentConfig) : Bool := decide (0 < config.realAgentCount.val)

def shouldContinue (state : WorldState) (config : ExperimentConfig) (targetTick : Nat) : Bool :=
  if targetTick ≤ state.tick then false else !isFinished state config

def reconstructSync (rng : Rng) (networkx : Networkx) (config : ExperimentConfig)
    (targetTick rounds : Nat) : Option (WorldState × List EventDraft) :=
  whileLoop (fun acc => shouldContinue acc.1 config targetTick)
    (collecting fun state => advance rng state config) rounds
    ((buildWorld rng networkx config).1, startDrafts rng networkx config)

/- `run_async_scenarios`, with a gateway that answers whenever it is asked. -/
def answeredScenarios (provider : Provider) (config : ExperimentConfig) (tick : Nat) :
    List String → WorldState → ModelGateway → List EventDraft →
      (WorldState × ModelGateway) × List EventDraft
  | [], state, gateway, drafts => ((state, gateway), drafts)
  | name :: rest, state, gateway, drafts =>
    if name ∈ asyncScenarios then
      match attempts state config tick with
      | [] => answeredScenarios provider config tick rest state gateway drafts
      | first :: others =>
        let (gateway, responses) :=
          gateway.completeAll provider ((first :: others).map Attempt.request)
        let (state, stepDrafts) := realAgentStep state tick (first :: others) responses
        answeredScenarios provider config tick rest state gateway (drafts ++ stepDrafts)
    else answeredScenarios provider config tick rest state gateway drafts

def asyncTick (rng : Rng) (provider : Provider) (config : ExperimentConfig)
    (acc : WorldState × ModelGateway) : (WorldState × ModelGateway) × List EventDraft :=
  let (state, tickDrafts) := advance rng acc.1 config
  let (acc, asyncDrafts) := answeredScenarios provider config state.tick config.activeScenarios
    state acc.2 []
  (acc, tickDrafts ++ asyncDrafts)

def reconstructAsync (rng : Rng) (networkx : Networkx) (config : ExperimentConfig)
    (targetTick rounds : Nat) : Option ((WorldState × ModelGateway) × List EventDraft) :=
  whileLoop (fun acc => shouldContinue acc.1.1 config targetTick)
    (collecting (asyncTick rng (mockProvider rng) config)) rounds
    (((buildWorld rng networkx config).1, ModelGateway.new config),
      startDrafts rng networkx config)

/-- `none` when the loop is not over after `rounds` rounds. `inLoop` says whether the caller
    runs in an event loop already. -/
def reconstructFinalState (rng : Rng) (networkx : Networkx) (inLoop : Bool) (experimentId : Uuid)
    (config : ExperimentConfig) (targetTick rounds : Nat) :
    Except ReplayError (Option (WorldState × List Event)) :=
  if 0 < config.realAgentCount.val ∧ config.modelProvider ≠ .mock then
    .error (.unsupported ("replay reconstruction only supports model_provider='mock' -- a real " ++
      "provider run is not deterministically reproducible and replay must " ++
      "never silently re-issue real API calls"))
  else if usesAsyncScenario config ∧ inLoop then .error .runningLoop
  else
    let replayed :=
      if usesAsyncScenario config then
        (reconstructAsync rng networkx config targetTick rounds).map fun acc => (acc.1.1, acc.2)
      else reconstructSync rng networkx config targetTick rounds
    .ok (replayed.map fun acc => (acc.1, (EventEmitter.emit ⟨experimentId, 0⟩ acc.2).2))

section
variable {γ σ : Type} {A : Answering γ} {rng : Rng} {config : ExperimentConfig}
  {hasGateway : Bool} {at_ : WorldState → γ → σ} {tick : σ → σ × List EventDraft}

theorem shouldContinue_before {state : WorldState} {target : Nat}
    (going : isFinished state config = false) (before : state.tick < target) :
    shouldContinue state config target = true := by
  unfold shouldContinue
  rw [if_neg (Nat.not_le_of_lt before), going]
  rfl

theorem shouldContinue_at (state : WorldState) (config : ExperimentConfig) :
    shouldContinue state config state.tick = false :=
  if_pos (Nat.le_refl _)

theorem replay_of_rounds (worldOf : σ → WorldState)
    (reads : ∀ state g, worldOf (at_ state g) = state)
    (computes : Computes A rng config hasGateway at_ tick) (owned : 0 < ticksPerRound config)
    {world state : WorldState} {g₀ g : γ} {drafts : List EventDraft} (start : world.tick = 0)
    (rounds : Rounds A rng config hasGateway world g₀ drafts state g) (initial : List EventDraft)
    {fuel : Nat} (enough : state.tick ≤ fuel) :
    whileLoop (fun acc => shouldContinue (worldOf acc.1) config state.tick) (collecting tick) fuel
      (at_ world g₀, initial) = some (at_ state g, initial ++ drafts) := by
  obtain ⟨n, reached, ticks, through⟩ := rounds_iterate computes rounds initial
  rw [start, Nat.zero_add] at ticks
  rw [← reached]
  apply whileLoop_of_rounds
  · intro k below
    obtain ⟨before, gs, sofar, here, going, early⟩ := through k below
    rw [here]
    dsimp only
    rw [reads]
    apply shouldContinue_before going
    rw [early, start, Nat.zero_add, ticks]
    exact Nat.mul_lt_mul_of_pos_right below owned
  · rw [reached]
    dsimp only
    rw [reads]
    exact shouldContinue_at state config
  · calc n ≤ n * ticksPerRound config := Nat.le_mul_of_pos_right n owned
      _ = state.tick := ticks.symm
      _ ≤ fuel := enough

end

theorem sync_computes (rng : Rng) (config : ExperimentConfig) :
    Computes anyAnswers rng config false (fun state _ => state)
      (fun state => advance rng state config) := by
  intro state g drafts state' g' asked round
  cases round with
  | sync alone => rfl
  | async together awaited => cases together

def gatewayAnswers (provider : Provider) : Answering ModelGateway :=
  fun gateway attempts responses gateway' =>
    gateway.completeAll provider (attempts.map Attempt.request) = (gateway', responses)

theorem gatewayAnswers_length {provider : Provider} {gateway gateway' : ModelGateway}
    {attempts : List Attempt} {responses : List (Option ModelResponse)}
    (given : gatewayAnswers provider gateway attempts responses gateway') :
    responses.length = attempts.length := by
  have length := gateway.completeAll_length provider (attempts.map Attempt.request)
  rw [given, List.length_map] at length
  exact length

section
variable (provider : Provider) (config : ExperimentConfig) (tick : Nat)

def answered : AsyncRun → ModelGateway → (WorldState × ModelGateway) × List EventDraft
  | .finished state drafts, gateway => ((state, gateway), drafts)
  | .gathering locals, gateway =>
    let (gateway, responses) := gateway.completeAll provider (locals.attempts.map Attempt.request)
    let (state, stepDrafts) := realAgentStep locals.state tick locals.attempts responses
    answeredScenarios provider config tick locals.rest state gateway (locals.drafts ++ stepDrafts)

theorem answered_scenarios (names : List String) (state : WorldState) (gateway : ModelGateway)
    (drafts : List EventDraft) :
    answered provider config tick (runAsyncScenarios config tick names state drafts) gateway =
      answeredScenarios provider config tick names state gateway drafts := by
  induction names with
  | nil => rfl
  | cons name rest ih =>
    unfold runAsyncScenarios answeredScenarios
    split
    · cases attempts state config tick with
      | nil => exact ih
      | cons first others => rfl
    · exact ih

variable {provider} {config} {tick}

theorem awaited_answered {gateway gateway' : ModelGateway} {run run' : AsyncRun}
    {asked : Answered}
    (awaited : Awaited (gatewayAnswers provider) config tick gateway run gateway' run' asked) :
    answered provider config tick run' gateway' = answered provider config tick run gateway := by
  induction awaited with
  | here => rfl
  | @answered gateway' gateway'' locals responses asked before given ih =>
    rw [← ih]
    unfold Gathering.resume
    rw [answered_scenarios]
    have gathered : gateway'.completeAll provider (locals.attempts.map Attempt.request) =
        (gateway'', responses) := given
    unfold answered
    dsimp only
    rw [gathered]

theorem awaited_trans {γ : Type} {A : Answering γ} {g g' g'' : γ} {run run' run'' : AsyncRun}
    {asked asked' : Answered} (first : Awaited A config tick g run g' run' asked)
    (second : Awaited A config tick g' run' g'' run'' asked') :
    Awaited A config tick g run g'' run'' (asked ++ asked') := by
  induction second with
  | here => rwa [List.append_nil]
  | answered _ given ih =>
    rw [← List.append_assoc]
    exact ih.answered given

theorem scenarios_finish (names : List String) (state : WorldState) (gateway : ModelGateway)
    (drafts : List EventDraft) : ∃ asked, Awaited (gatewayAnswers provider) config tick gateway
      (runAsyncScenarios config tick names state drafts)
      (answeredScenarios provider config tick names state gateway drafts).1.2
      (.finished (answeredScenarios provider config tick names state gateway drafts).1.1
        (answeredScenarios provider config tick names state gateway drafts).2) asked := by
  induction names generalizing state gateway drafts with
  | nil => exact ⟨[], .here⟩
  | cons name rest ih =>
    unfold runAsyncScenarios answeredScenarios
    split
    · cases attempts state config tick with
      | nil => exact ih state gateway drafts
      | cons first others =>
        dsimp only
        obtain ⟨asked, later⟩ := ih _ _ _
        have given : gatewayAnswers provider gateway (first :: others) _ _ := rfl
        exact ⟨_, awaited_trans (Awaited.here.answered given) later⟩
    · exact ih state gateway drafts

end

theorem async_computes (rng : Rng) (provider : Provider) (config : ExperimentConfig) :
    Computes (gatewayAnswers provider) rng config true Prod.mk (asyncTick rng provider config) := by
  intro state gateway drafts state' gateway' asked round
  cases round with
  | sync alone => cases alone
  | async together awaited =>
    have finished := awaited_answered awaited
    unfold asyncHalf at finished
    rw [answered_scenarios] at finished
    unfold asyncTick
    dsimp only
    rw [← finished]
    rfl

theorem async_round (rng : Rng) (provider : Provider) (config : ExperimentConfig)
    (state : WorldState) (gateway : ModelGateway) :
    ∃ asked, Round (gatewayAnswers provider) rng config true state gateway
      (asyncTick rng provider config (state, gateway)).2
      (asyncTick rng provider config (state, gateway)).1.1
      (asyncTick rng provider config (state, gateway)).1.2 asked := by
  obtain ⟨asked, awaited⟩ := @scenarios_finish provider config (advance rng state config).1.tick
    config.activeScenarios (advance rng state config).1 gateway []
  exact ⟨asked, .async rfl awaited⟩

end AgentShield.Replay
