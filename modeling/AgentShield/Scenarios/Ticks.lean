import AgentShield.Lib.Loop
import AgentShield.Scenarios.Rounds

/-!
The tick is advanced by the scenarios that own it, once for each time they are
listed; the rounds of a run whose answers are a function, as a loop.
-/
namespace AgentShield.Scenarios
open Schema Engine Agents Propagation

def tickOwners : List String := ["propagation", "adaptive_attacker"]

def ticksPerRound (config : ExperimentConfig) : Nat :=
  config.activeScenarios.countP fun name => name ∈ tickOwners

theorem scenario_tick {name : String} {step : Scenario}
    (found : syncScenarios.lookup name = some step) (rng : Rng) (state : WorldState)
    (config : ExperimentConfig) :
    (step rng state config).1.tick = state.tick + if name ∈ tickOwners then 1 else 0 := by
  rcases registered_cases found with ⟨rfl, rfl⟩ | ⟨rfl, rfl⟩ | ⟨other, quiet⟩
  · rfl
  · rfl
  · have unowned : name ∉ tickOwners := by
      simp only [tickOwners, List.mem_cons, List.not_mem_nil, or_false, not_or]
      exact other
    rw [if_neg unowned]
    exact (quiet rng state config).tick

theorem runSyncScenario_tick (rng : Rng) (config : ExperimentConfig)
    (acc : WorldState × List EventDraft) (name : String) :
    (runSyncScenario rng config acc name).1.tick =
      acc.1.tick + if name ∈ tickOwners then 1 else 0 := by
  unfold runSyncScenario
  cases found : syncScenarios.lookup name with
  | some step => exact scenario_tick found rng acc.1 config
  | none =>
    -- Every owner is registered.
    have unowned : name ∉ tickOwners := by
      intro owned
      simp only [tickOwners, List.mem_cons, List.not_mem_nil, or_false] at owned
      rcases owned with rfl | rfl
      · cases found
      · cases found
    rw [if_neg unowned]
    rfl

theorem advance_tick (rng : Rng) (state : WorldState) (config : ExperimentConfig) :
    (advance rng state config).1.tick = state.tick + ticksPerRound config := by
  have whole : ∀ (names : List String) (acc : WorldState × List EventDraft),
      (names.foldl (runSyncScenario rng config) acc).1.tick =
        acc.1.tick + names.countP fun name => name ∈ tickOwners := by
    intro names
    induction names with
    | nil => exact fun _ => rfl
    | cons name rest ih =>
      intro acc
      rw [List.foldl_cons, ih, runSyncScenario_tick, List.countP_cons]
      simp only [decide_eq_true_eq]
      omega
  have detection : ∀ state, (Detection.step rng state config).1.tick = state.tick := by
    intro state
    unfold Detection.step
    split <;> rfl
  unfold advance
  rw [detection]
  exact whole config.activeScenarios (state, [])

section
variable {γ : Type} {A : Answering γ} {rng : Rng} {config : ExperimentConfig} {hasGateway : Bool}

theorem round_tick {state state' : WorldState} {g g' : γ} {drafts : List EventDraft}
    {asked : Answered} (round : Round A rng config hasGateway state g drafts state' g' asked) :
    state'.tick = state.tick + ticksPerRound config := by
  have sync := advance_tick rng state config
  cases round with
  | sync alone => exact sync
  | async together awaited =>
    have chained := awaited_chained (asyncHalf_chained config _) awaited
    exact chained.2.trans sync

variable {σ : Type}

/- `tick` does what every round does; `at_` puts the loop's locals together. -/
def Computes (A : Answering γ) (rng : Rng) (config : ExperimentConfig) (hasGateway : Bool)
    (at_ : WorldState → γ → σ) (tick : σ → σ × List EventDraft) : Prop :=
  ∀ state g drafts state' g' asked,
    Round A rng config hasGateway state g drafts state' g' asked →
      tick (at_ state g) = (at_ state' g', drafts)

variable {at_ : WorldState → γ → σ} {tick : σ → σ × List EventDraft}

theorem rounds_iterate (computes : Computes A rng config hasGateway at_ tick)
    {world state : WorldState} {g₀ g : γ} {drafts : List EventDraft}
    (rounds : Rounds A rng config hasGateway world g₀ drafts state g) (initial : List EventDraft) :
    ∃ n, (Loop.collecting tick)^[n] (at_ world g₀, initial) = (at_ state g, initial ++ drafts) ∧
      state.tick = world.tick + n * ticksPerRound config ∧
      ∀ k < n, ∃ before gs sofar,
        (Loop.collecting tick)^[k] (at_ world g₀, initial) = (at_ before gs, sofar) ∧
        isFinished before config = false ∧
        before.tick = world.tick + k * ticksPerRound config := by
  induction rounds with
  | none =>
    refine ⟨0, ?_, ?_, ?_⟩
    · rw [Function.iterate_zero_apply, List.append_nil]
    · rw [Nat.zero_mul, Nat.add_zero]
    · intro k below
      exact absurd below (Nat.not_lt_zero k)
  | next _ going round ih =>
    obtain ⟨n, reached, ticks, through⟩ := ih
    refine ⟨n + 1, ?_, ?_, ?_⟩
    · rw [Function.iterate_succ_apply', reached, ← List.append_assoc]
      unfold Loop.collecting
      rw [computes _ _ _ _ _ _ round]
    · rw [round_tick round, ticks, Nat.succ_mul, Nat.add_assoc]
    · intro k below
      rcases Nat.lt_succ_iff_lt_or_eq.mp below with early | rfl
      · exact through k early
      · exact ⟨_, _, _, reached, going, ticks⟩

end

end AgentShield.Scenarios
