import AgentShield.Scenarios.Standstill

/-!
A whole run in one call (`engine/simulate.py`), and when it ends: only the owners of
the tick bring the run closer to `max_ticks`.
-/
namespace AgentShield.Simulate
open Schema Engine Scenarios Propagation TopologyBuilder Loop

def startDrafts (rng : Rng) (networkx : Networkx) (config : ExperimentConfig) :
    List EventDraft :=
  { simTick := 0, eventType := .experimentStarted } :: (buildWorld rng networkx config).2

/-- `none` when the loop is not over after `rounds` rounds. -/
def simulate (rng : Rng) (networkx : Networkx) (config : ExperimentConfig) (rounds : Nat) :
    Option (WorldState × List EventDraft) :=
  whileLoop (fun acc => !isFinished acc.1 config) (collecting fun state => advance rng state config)
    rounds ((buildWorld rng networkx config).1, startDrafts rng networkx config)

section
variable (rng : Rng) (networkx : Networkx) (config : ExperimentConfig)

def worldAfter (n : Nat) : WorldState :=
  (fun state => (advance rng state config).1)^[n] (buildWorld rng networkx config).1

theorem worldAfter_succ (n : Nat) :
    worldAfter rng networkx config (n + 1) =
      (advance rng (worldAfter rng networkx config n) config).1 := by
  unfold worldAfter
  rw [Function.iterate_succ_apply']

theorem worldAfter_tick (n : Nat) :
    (worldAfter rng networkx config n).tick = n * ticksPerRound config := by
  induction n with
  | zero => exact (Nat.zero_mul _).symm
  | succ n ih => rw [worldAfter_succ, advance_tick, ih, Nat.succ_mul]

variable {rng} {networkx} {config}

theorem simulate_returns_iff {rounds : Nat} {state : WorldState} :
    (∃ drafts, simulate rng networkx config rounds = some (state, drafts)) ↔
      ∃ n ≤ rounds, (∀ k < n, isFinished (worldAfter rng networkx config k) config = false) ∧
        isFinished (worldAfter rng networkx config n) config = true ∧
        worldAfter rng networkx config n = state := by
  have world : ∀ n, ((collecting fun state => advance rng state config)^[n]
      ((buildWorld rng networkx config).1, startDrafts rng networkx config)).1 =
        worldAfter rng networkx config n := fun n => iterate_collecting_fst _ n _
  unfold simulate
  constructor
  · rintro ⟨drafts, returned⟩
    obtain ⟨n, few, runs, stops, same⟩ := whileLoop_returns_iff.mp returned
    refine ⟨n, few, ?_, ?_, ?_⟩
    · intro k below
      have going := runs k below
      dsimp only at going
      rwa [world, Bool.not_eq_true'] at going
    · rwa [world, Bool.not_eq_false'] at stops
    · rw [← world, same]
  · rintro ⟨n, few, going, stops, same⟩
    refine ⟨((collecting fun state => advance rng state config)^[n]
      ((buildWorld rng networkx config).1, startDrafts rng networkx config)).2, ?_⟩
    apply whileLoop_returns_iff.mpr
    refine ⟨n, few, ?_, ?_, Prod.ext ((world n).trans same) rfl⟩
    · intro k below
      dsimp only
      rw [world, going k below]
      rfl
    · rw [world, stops]
      rfl

variable (rng networkx config)

/-- Within `max_ticks` rounds, and not past tick `max_ticks`. -/
def EndsInTime : Prop :=
  ∃ state, (∃ drafts, simulate rng networkx config config.maxTicks.val = some (state, drafts)) ∧
    state.tick ≤ config.maxTicks.val

variable {rng} {networkx} {config}

theorem returns_of_finished {n : Nat}
    (finished : isFinished (worldAfter rng networkx config n) config = true)
    (few : n ≤ config.maxTicks.val) :
    ∃ first ≤ n, ∃ drafts, simulate rng networkx config config.maxTicks.val =
      some (worldAfter rng networkx config first, drafts) := by
  have some : ∃ n, isFinished (worldAfter rng networkx config n) config = true := ⟨n, finished⟩
  have least : Nat.find some ≤ n := Nat.find_min' some finished
  refine ⟨Nat.find some, least, ?_⟩
  apply simulate_returns_iff.mpr
  refine ⟨Nat.find some, Nat.le_trans least few, ?_, Nat.find_spec some, rfl⟩
  intro k below
  exact Bool.eq_false_iff.mpr (Nat.find_min some below)

theorem ends_of_finished {n : Nat}
    (finished : isFinished (worldAfter rng networkx config n) config = true)
    (few : n ≤ config.maxTicks.val)
    (fits : n * ticksPerRound config ≤ config.maxTicks.val) : EndsInTime rng networkx config := by
  obtain ⟨first, least, returned⟩ := returns_of_finished finished few
  refine ⟨worldAfter rng networkx config first, returned, ?_⟩
  rw [worldAfter_tick]
  exact Nat.le_trans (Nat.mul_le_mul_right _ least) fits

theorem finished_at_max {n : Nat} (reached : config.maxTicks.val ≤ n * ticksPerRound config) :
    isFinished (worldAfter rng networkx config n) config = true := by
  unfold isFinished
  rw [worldAfter_tick, decide_eq_true reached]
  rfl

theorem unowned_ends_iff (unowned : ticksPerRound config = 0) : EndsInTime rng networkx config ↔
    isFinished (buildWorld rng networkx config).1 config = true ∨
      isFinished (advance rng (buildWorld rng networkx config).1 config).1 config = true := by
  have some_tick : 1 ≤ config.maxTicks.val := config.maxTicks.property.1
  have fits : ∀ n, n * ticksPerRound config ≤ config.maxTicks.val := by
    intro n
    rw [unowned, Nat.mul_zero]
    exact Nat.zero_le _
  constructor
  · rintro ⟨state, returned, _⟩
    obtain ⟨n, _, _, finished, rfl⟩ := simulate_returns_iff.mp returned
    cases n with
    | zero => exact Or.inl finished
    | succ n =>
      right
      have still := iterations_still rng unowned (buildWorld rng networkx config).1 n
      rw [← still_isFinished still config]
      exact finished
  · rintro (finished | finished)
    · exact ends_of_finished (n := 0) finished (Nat.zero_le _) (fits 0)
    · exact ends_of_finished (n := 1) finished some_tick (fits 1)

theorem owned_returns (owned : 0 < ticksPerRound config) :
    ∃ n, ∃ drafts, simulate rng networkx config config.maxTicks.val =
      some (worldAfter rng networkx config n, drafts) := by
  have reached : config.maxTicks.val ≤ config.maxTicks.val * ticksPerRound config :=
    Nat.le_mul_of_pos_right _ owned
  obtain ⟨first, _, returned⟩ :=
    @returns_of_finished rng networkx config _ (finished_at_max reached) (Nat.le_refl _)
  exact ⟨first, returned⟩

theorem divided_ends (owned : 0 < ticksPerRound config)
    (divides : ticksPerRound config ∣ config.maxTicks.val) : EndsInTime rng networkx config := by
  obtain ⟨n, product⟩ := divides
  rw [Nat.mul_comm] at product
  apply ends_of_finished (finished_at_max (Nat.le_of_eq product))
  · rw [product]
    exact Nat.le_mul_of_pos_right n owned
  · exact Nat.le_of_eq product.symm

end

/-- Without an owner of the tick an experiment ends in time exactly when its spread is over at
    once, or after one iteration. With `k` owners it always returns, and in time where `k`
    divides `max_ticks`; where a run comes up to `max_ticks`, only there. -/
theorem simulate_ends_in_time (rng : Rng) (networkx : Networkx) (config : ExperimentConfig) :
    (ticksPerRound config = 0 → (EndsInTime rng networkx config ↔
      isFinished (buildWorld rng networkx config).1 config = true ∨
        isFinished (advance rng (buildWorld rng networkx config).1 config).1 config = true)) ∧
    (0 < ticksPerRound config → ∃ state drafts,
      simulate rng networkx config config.maxTicks.val = some (state, drafts) ∧
      (ticksPerRound config ∣ config.maxTicks.val → EndsInTime rng networkx config) ∧
      (config.maxTicks.val ≤ state.tick →
        (EndsInTime rng networkx config ↔ ticksPerRound config ∣ config.maxTicks.val))) := by
  refine ⟨unowned_ends_iff, ?_⟩
  intro owned
  obtain ⟨n, drafts, returned⟩ := @owned_returns rng networkx config owned
  refine ⟨_, drafts, returned, divided_ends owned, ?_⟩
  intro bounded
  constructor
  · rintro ⟨state, ⟨others, again⟩, fits⟩
    rw [returned] at again
    obtain ⟨rfl, _⟩ := Prod.ext_iff.mp (Option.some.inj again)
    rw [worldAfter_tick] at bounded fits
    exact ⟨n, by rw [Nat.mul_comm]; exact Nat.le_antisymm bounded fits⟩
  · exact divided_ends owned

def pairedExperiment : ExperimentConfig :=
  { smallNetwork with
    maxTicks := ⟨4, by decide⟩
    activeScenarios := ["propagation", "propagation"] }

theorem paired_experiment_ends : EndsInTime default default pairedExperiment := by
  have twice : ticksPerRound pairedExperiment = 2 := by decide
  obtain ⟨_, _, _, divided, _⟩ :=
    (simulate_ends_in_time default default pairedExperiment).2 (by omega)
  exact divided ⟨2, by rw [twice]; rfl⟩

def idleExperiment : ExperimentConfig :=
  { smallNetwork with
    defenseEnabled := false
    activeScenarios := [] }

theorem idle_experiment_starts :
    isFinished (buildWorld default default idleExperiment).1 idleExperiment = false := by
  decide +kernel

theorem idle_experiment_never_ends : ¬ EndsInTime default default idleExperiment ∧
    ∀ rounds, simulate default default idleExperiment rounds = none := by
  have still : ∀ state, (advance default state idleExperiment).1 = state := fun _ => rfl
  have same : ∀ n, worldAfter default default idleExperiment n =
      (buildWorld default default idleExperiment).1 := by
    intro n
    unfold worldAfter
    exact Function.iterate_fixed (still _) n
  have never : ∀ rounds, simulate default default idleExperiment rounds = none := by
    intro rounds
    apply Option.eq_none_iff_forall_ne_some.mpr
    rintro ⟨state, drafts⟩ returned
    obtain ⟨n, _, _, finished, _⟩ := simulate_returns_iff.mp ⟨drafts, returned⟩
    rw [same, idle_experiment_starts] at finished
    cases finished
  refine ⟨?_, never⟩
  rintro ⟨state, ⟨drafts, returned⟩, _⟩
  rw [never] at returned
  cases returned

end AgentShield.Simulate
