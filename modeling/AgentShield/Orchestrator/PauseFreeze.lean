import AgentShield.Orchestrator.CleanStop
import AgentShield.Scenarios.Ticks

/-!
What goes on after `pause`. The loop looks at the pause event at the head of an
iteration only: before its own exit test, and not again once it is woken or waits
for the models.
-/
namespace AgentShield.Orchestrator
open Schema Keyed Events Engine Scenarios Agents TopologyBuilder Propagation

def Resumes (c c' : Config) : Prop :=
  ∃ runner, c.runner.resume = .ok runner ∧ c' = { c with
    runner
    loop := if c.runner.status = .paused then c.loop.wake else c.loop }

/-- A turn that neither `resume` nor `stop` makes. -/
structure Undisturbed (rng : Rng) (c c' : Config) : Prop where
  turn : Turn rng c c'
  unresumed : ¬ Resumes c c'
  unstopped : c' ≠ c.stop

structure Still (c c' : Config) : Prop where
  log : c'.runner.log = c.runner.log
  tick : c'.runner.state.tick = c.runner.state.tick

theorem still_refl (c : Config) : Still c c := ⟨rfl, rfl⟩

end AgentShield.Orchestrator
