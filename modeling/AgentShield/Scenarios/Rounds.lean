import AgentShield.Engine.Topology
import AgentShield.Scenarios.Effects

/-!
The rounds of a run. While the spread goes on, the loop takes the synchronous half
of a tick and, with a gateway, the asynchronous half. How the models answer is a
parameter: anything at all, or what one provider says.
-/
namespace AgentShield.Scenarios
open Schema Engine Agents Propagation

/- What the gateway has used before, its attempts, their answers, what it has used after. -/
abbrev Answering (γ : Type) := γ → List Attempt → List (Option ModelResponse) → γ → Prop

def anyAnswers : Answering Unit :=
  fun _ attempts responses _ => responses.length = attempts.length

/- `run_async_scenarios` from its call to its first suspension. -/
def asyncHalf (config : ExperimentConfig) (state : WorldState) : AsyncRun :=
  runAsyncScenarios config state.tick config.activeScenarios state []

abbrev Answered := List (Attempt × Option ModelResponse)

section
variable {γ : Type} (A : Answering γ)

inductive Awaited (config : ExperimentConfig) (tick : Nat) (g : γ) (run : AsyncRun) :
    γ → AsyncRun → Answered → Prop where
  | here : Awaited config tick g run g run []
  | answered {g' g'' : γ} {locals : Gathering} {responses : List (Option ModelResponse)}
      {asked : Answered} (before : Awaited config tick g run g' (.gathering locals) asked)
      (given : A g' locals.attempts responses g'') :
      Awaited config tick g run g'' (locals.resume config tick responses)
        (asked ++ locals.attempts.zip responses)

inductive Round (rng : Rng) (config : ExperimentConfig) (hasGateway : Bool) (state : WorldState)
    (g : γ) : List EventDraft → WorldState → γ → Answered → Prop where
  | sync (alone : hasGateway = false) :
      Round rng config hasGateway state g (advance rng state config).2
        (advance rng state config).1 g []
  | async {g' : γ} {state' : WorldState} {drafts : List EventDraft} {asked : Answered}
      (together : hasGateway = true)
      (awaited : Awaited A config (advance rng state config).1.tick g
        (asyncHalf config (advance rng state config).1) g' (.finished state' drafts) asked) :
      Round rng config hasGateway state g ((advance rng state config).2 ++ drafts) state' g' asked

inductive Rounds (rng : Rng) (config : ExperimentConfig) (hasGateway : Bool)
    (state : WorldState) (g : γ) : List EventDraft → WorldState → γ → Prop where
  | none : Rounds rng config hasGateway state g [] state g
  | next {drafts later : List EventDraft} {state' state'' : WorldState} {g' g'' : γ}
      {asked : Answered} (before : Rounds rng config hasGateway state g drafts state' g')
      (going : isFinished state' config = false)
      (round : Round A rng config hasGateway state' g' later state'' g'' asked) :
      Rounds rng config hasGateway state g (drafts ++ later) state'' g''

variable {A}

theorem awaited_chained {config : ExperimentConfig} {start : WorldState} {g g' : γ}
    {run run' : AsyncRun} {asked : Answered} (chained : run.Chained config start)
    (awaited : Awaited A config start.tick g run g' run' asked) : run'.Chained config start := by
  induction awaited with
  | here => exact chained
  | answered _ _ ih => exact resume_chained ih _

theorem asyncHalf_chained (config : ExperimentConfig) (state : WorldState) :
    (asyncHalf config state).Chained config state :=
  runAsyncScenarios_chained config.activeScenarios (.none state) rfl

theorem round_effects {rng : Rng} {config : ExperimentConfig} {hasGateway : Bool}
    {state state' : WorldState} {g g' : γ} {drafts : List EventDraft} {asked : Answered}
    (round : Round A rng config hasGateway state g drafts state' g' asked) :
    Effects config state drafts state' := by
  cases round with
  | sync alone => exact advance_effects rng state config
  | async together awaited =>
    have chained := awaited_chained (asyncHalf_chained config _) awaited
    exact effects_append (advance_effects rng state config) chained.1

theorem rounds_effects {rng : Rng} {config : ExperimentConfig} {hasGateway : Bool}
    {state state' : WorldState} {g g' : γ} {drafts : List EventDraft}
    (rounds : Rounds A rng config hasGateway state g drafts state' g') :
    Effects config state drafts state' := by
  induction rounds with
  | none => exact .none state
  | next _ _ round ih => exact effects_append ih (round_effects round)

end

theorem effect_mirrors {config : ExperimentConfig} {state state' : WorldState}
    {drafts : List EventDraft} (effect : Effect config state drafts state') :
    Mirrors state drafts state' := by
  cases effect with
  | quiet quiet => exact quiet_mirrors quiet
  | attack made nodes edges tick => exact made_mirrors made nodes
  | detection caught accused distinct => exact Detection.drafts_mirror caught accused

theorem effects_mirror {config : ExperimentConfig} {state state' : WorldState}
    {drafts : List EventDraft} (effects : Effects config state drafts state') :
    Mirrors state drafts state' := by
  induction effects with
  | none => exact mirrors_same state
  | next _ effect ih => exact mirrors_append ih (effect_mirrors effect)

end AgentShield.Scenarios
