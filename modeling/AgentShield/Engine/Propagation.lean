import AgentShield.Engine.Attack

/-!
Probabilistic spread (`engine/propagation.py`) and when a run ends.
-/
namespace AgentShield.Propagation
open Schema Keyed Engine

def linkProbability (config : ExperimentConfig) (source target : AgentNode) : Rat :=
  if target.softwareType = source.softwareType then config.pSame.val else config.pCross.val

/- The body of the inner loop. A real-real edge belongs to the agents' runtime. -/
def attemptOn (rng : Rng) (config : ExperimentConfig) (tick : Nat) (source : AgentNode)
    (attack : Attack) (target : AgentNode) : Attack :=
  if source.agentKind = .real ∧ target.agentKind = .real then attack
  else
    let p := linkProbability config source target
    let draw := (rng config.seed tick target.id ("infect:" ++ source.id)).random
    attack.attempt tick source.id target.id [("probability", .float p)] (draw < p)

def attackFrom (rng : Rng) (config : ExperimentConfig) (state : WorldState)
    (attack : Attack) (source : AgentNode) : Attack :=
  (state.healthyNeighbors source).foldl (attemptOn rng config state.tick source) attack

/-- Advance exactly one tick. -/
def step (rng : Rng) (state : WorldState) (config : ExperimentConfig) :
    WorldState × List EventDraft :=
  let attack := (state.inState .compromised).foldl (attackFrom rng config state) .start
  ({ state with
      tick := state.tick + 1
      nodes := compromiseClaimed attack.claims state.tick state.nodes },
    attack.drafts)

/-- A run ends at `max_ticks`, or when no healthy node borders a compromised one. -/
def isFinished (state : WorldState) (config : ExperimentConfig) : Bool :=
  decide (config.maxTicks.val ≤ state.tick) ||
    (state.nodes.values.filter fun node => node.securityState = .compromised).all fun node =>
      (node.neighbors.filterMap state.nodes.get?).all fun neighbor =>
        decide (neighbor.securityState ≠ .healthy)

theorem made_attemptOn {rng : Rng} {config : ExperimentConfig} {state : WorldState}
    {source target : AgentNode} {attack : Attack} (made : attack.Made state state.tick)
    (attacking : source ∈ state.inState .compromised)
    (inside : target ∈ state.healthyNeighbors source) :
    (attemptOn rng config state.tick source attack target).Made state state.tick := by
  unfold attemptOn
  split
  · exact made
  · exact made_attempt made attacking inside rfl _

theorem made_attackFrom {rng : Rng} {config : ExperimentConfig} {state : WorldState}
    {source : AgentNode} {attack : Attack} (made : attack.Made state state.tick)
    (attacking : source ∈ state.inState .compromised) :
    (attackFrom rng config state attack source).Made state state.tick := by
  unfold attackFrom
  apply made_loop made
  intro attack made target inside
  exact made_attemptOn made attacking inside

theorem step_made (rng : Rng) (state : WorldState) (config : ExperimentConfig) :
    ((state.inState .compromised).foldl (attackFrom rng config state) .start).Made
      state state.tick := by
  apply made_loop .start
  intro attack made source attacking
  exact made_attackFrom made attacking

def Hits (rng : Rng) (config : ExperimentConfig) (tick : Nat) (source target : AgentNode) : Prop :=
  ¬ (source.agentKind = .real ∧ target.agentKind = .real) ∧
    (rng config.seed tick target.id ("infect:" ++ source.id)).random <
      linkProbability config source target

theorem step_has (rng : Rng) (state : WorldState) (config : ExperimentConfig) (id : String) :
    ((state.inState .compromised).foldl (attackFrom rng config state) .start).claims.Has id ↔
      ∃ source ∈ state.inState .compromised, ∃ target ∈ state.healthyNeighbors source,
        Hits rng config state.tick source target ∧ id = target.id := by
  have inner : ∀ source (attack : Attack) target id,
      (attemptOn rng config state.tick source attack target).claims.Has id ↔
        attack.claims.Has id ∨ Hits rng config state.tick source target ∧ id = target.id := by
    intro source attack target id
    unfold attemptOn Hits
    split
    · rename_i both
      simp [both]
    · rename_i open_
      rw [attempt_has, decide_eq_true_eq, and_iff_right open_]
  have outer : ∀ (attack : Attack) source id,
      (attackFrom rng config state attack source).claims.Has id ↔
        attack.claims.Has id ∨ ∃ target ∈ state.healthyNeighbors source,
          Hits rng config state.tick source target ∧ id = target.id := by
    intro attack source id
    exact loop_has (inner source) (state.healthyNeighbors source) attack id
  rw [loop_has outer]
  exact or_iff_right fun never => by cases never

end AgentShield.Propagation
