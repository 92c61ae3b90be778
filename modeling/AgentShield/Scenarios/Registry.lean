import AgentShield.Agents.Runtime
import AgentShield.Scenarios.AdaptiveAttacker
import AgentShield.Scenarios.SecurityPlane
import AgentShield.Security.Detection

/-!
The active scenarios of a tick (`scenarios/registry.py`) and the synchronous half
of a tick (`engine/tick.py`). A name in neither registry is skipped.
-/
namespace AgentShield.Scenarios
open Schema Engine Agents

abbrev Scenario := Rng → WorldState → ExperimentConfig → WorldState × List EventDraft

def syncScenarios : List (String × Scenario) :=
  [("propagation", Propagation.step),
    ("adaptive_attacker", AdaptiveAttacker.step),
    ("sentinel_compromise", SentinelCompromise.step),
    ("attestation", Attestation.step),
    ("byzantine_collusion", ByzantineCollusion.step)]

def asyncScenarios : List String := ["prompt_injection"]

def runSyncScenario (rng : Rng) (config : ExperimentConfig)
    (acc : WorldState × List EventDraft) (name : String) : WorldState × List EventDraft :=
  match syncScenarios.lookup name with
  | none => acc
  | some step =>
    let (state, drafts) := step rng acc.1 config
    (state, acc.2 ++ drafts)

def runSyncScenarios (rng : Rng) (state : WorldState) (config : ExperimentConfig) :
    WorldState × List EventDraft :=
  config.activeScenarios.foldl (runSyncScenario rng config) (state, [])

/-- The synchronous half of a tick: the active scenarios, then detection. -/
def advance (rng : Rng) (state : WorldState) (config : ExperimentConfig) :
    WorldState × List EventDraft :=
  let (state, scenarioDrafts) := runSyncScenarios rng state config
  let (state, securityDrafts) := Detection.step rng state config
  (state, scenarioDrafts ++ securityDrafts)

/- The locals of `run_async_scenarios` while the answers are awaited. -/
structure Gathering where
  state : WorldState
  drafts : List EventDraft
  attempts : List Attempt
  rest : List String

inductive AsyncRun where
  | finished (state : WorldState) (drafts : List EventDraft)
  | gathering (locals : Gathering)

/-- `run_async_scenarios` up to its next suspension; a step without attempts does not wait. -/
def runAsyncScenarios (config : ExperimentConfig) (tick : Nat) :
    List String → WorldState → List EventDraft → AsyncRun
  | [], state, drafts => .finished state drafts
  | name :: rest, state, drafts =>
    if name ∈ asyncScenarios then
      match attempts state config tick with
      | [] => runAsyncScenarios config tick rest state drafts
      | first :: others =>
        .gathering { state, drafts, attempts := first :: others, rest }
    else runAsyncScenarios config tick rest state drafts

/-- All the answers are there. -/
def Gathering.resume (config : ExperimentConfig) (tick : Nat) (locals : Gathering)
    (responses : List (Option ModelResponse)) : AsyncRun :=
  let (state, drafts) := realAgentStep locals.state tick locals.attempts responses
  runAsyncScenarios config tick locals.rest state (locals.drafts ++ drafts)

theorem registered_member {name : String} {step : Scenario}
    (found : syncScenarios.lookup name = some step) : (name, step) ∈ syncScenarios := by
  obtain ⟨before, after, split, _⟩ := List.lookup_eq_some_iff.mp found
  rw [split]
  exact List.mem_append_right before List.mem_cons_self

/-- What is registered: the two attackers, and steps that are quiet. -/
theorem registered_cases {name : String} {step : Scenario}
    (found : syncScenarios.lookup name = some step) :
    name = "propagation" ∧ step = Propagation.step ∨
      name = "adaptive_attacker" ∧ step = AdaptiveAttacker.step ∨
      (name ≠ "propagation" ∧ name ≠ "adaptive_attacker") ∧
        ∀ rng state config, Quiet state (step rng state config).2 (step rng state config).1 := by
  have member := registered_member found
  simp only [syncScenarios, List.mem_cons, Prod.mk.injEq, List.not_mem_nil, or_false] at member
  rcases member with attacker | attacker | ⟨rfl, rfl⟩ | ⟨rfl, rfl⟩ | ⟨rfl, rfl⟩
  · exact Or.inl attacker
  · exact Or.inr (Or.inl attacker)
  · exact Or.inr (Or.inr ⟨by decide, SentinelCompromise.step_quiet⟩)
  · exact Or.inr (Or.inr ⟨by decide, Attestation.step_quiet⟩)
  · exact Or.inr (Or.inr ⟨by decide, ByzantineCollusion.step_quiet⟩)

def AsyncRun.Mirrors (start : WorldState) (config : ExperimentConfig) (tick : Nat) :
    AsyncRun → Prop
  | .finished state drafts => Engine.Mirrors start drafts state
  | .gathering locals => Engine.Mirrors start locals.drafts locals.state ∧
      locals.attempts = attempts locals.state config tick

theorem runAsyncScenarios_mirrors {start : WorldState} {config : ExperimentConfig} {tick : Nat}
    (names : List String) {state : WorldState} {drafts : List EventDraft}
    (mirrors : Mirrors start drafts state) :
    (runAsyncScenarios config tick names state drafts).Mirrors start config tick := by
  induction names with
  | nil => exact mirrors
  | cons name rest ih =>
    unfold runAsyncScenarios
    split
    · cases made : attempts state config tick with
      | nil => exact ih
      | cons first others => exact ⟨mirrors, made.symm⟩
    · exact ih

theorem resume_mirrors {start : WorldState} {config : ExperimentConfig} {tick : Nat}
    {locals : Gathering} (mirrors : (AsyncRun.gathering locals).Mirrors start config tick)
    (responses : List (Option ModelResponse)) :
    (locals.resume config tick responses).Mirrors start config tick := by
  obtain ⟨sofar, made⟩ := mirrors
  unfold Gathering.resume
  apply runAsyncScenarios_mirrors
  rw [made]
  exact mirrors_append sofar (realAgentStep_mirrors locals.state config tick responses)

end AgentShield.Scenarios
