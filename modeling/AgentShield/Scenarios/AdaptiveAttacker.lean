import AgentShield.Engine.Propagation
import AgentShield.Lib.Binary64

/-!
The rule-based adaptive attacker (`scenarios/adaptive_attacker_scenario.py`): one
attempt for each compromised source and tick.
-/
namespace AgentShield.AdaptiveAttacker
open Schema Keyed Engine

inductive Strategy where
  | stealthy
  | aggressive
  deriving DecidableEq, Repr

def Strategy.text : Strategy → String
  | .stealthy => "stealthy"
  | .aggressive => "aggressive"

/- `_detection_rate`: the quarantined among the nodes ever attacked. -/
def attacked (state : WorldState) : List AgentNode :=
  state.nodes.values.filter fun node => node.compromisedBy.isSome ∧
    (node.securityState = .compromised ∨ node.securityState = .quarantined)

def detectionRate (state : WorldState) : Rat :=
  match attacked state with
  | [] => 0
  | nodes => Binary64.nearest
      ((nodes.filter fun node => node.securityState = .quarantined).length / nodes.length)

def chooseStrategy (state : WorldState) (config : ExperimentConfig) : Strategy :=
  if config.adaptiveDetectionThreshold.val ≤ detectionRate state then .stealthy else .aggressive

def Strategy.before (strategy : Strategy) (a b : AgentNode) : Prop :=
  match strategy with
  | .aggressive => b.neighbors.length < a.neighbors.length ∨
      b.neighbors.length = a.neighbors.length ∧ a.id ≤ b.id
  | .stealthy => a.neighbors.length < b.neighbors.length ∨
      b.neighbors.length = a.neighbors.length ∧ a.id ≤ b.id

instance (strategy : Strategy) : DecidableRel strategy.before := fun _ _ =>
  match strategy with
  | .aggressive => inferInstanceAs (Decidable (_ ∨ _))
  | .stealthy => inferInstanceAs (Decidable (_ ∨ _))

def chooseTarget (state : WorldState) (strategy : Strategy) (source : AgentNode) :
    Option AgentNode :=
  ((state.healthyNeighbors source).insertionSort strategy.before).head?

def attackFrom (rng : Rng) (config : ExperimentConfig) (state : WorldState)
    (strategy : Strategy) (attack : Attack) (source : AgentNode) : Attack :=
  match chooseTarget state strategy source with
  | none => attack
  | some target =>
    let p := Propagation.linkProbability config source target
    let draw := (rng config.seed state.tick target.id ("adaptive:" ++ source.id)).random
    attack.attempt state.tick source.id target.id
      [("probability", .float p), ("strategy", .str strategy.text)] (draw < p)

/-- Advance exactly one tick. -/
def step (rng : Rng) (state : WorldState) (config : ExperimentConfig) :
    WorldState × List EventDraft :=
  let attack := (state.inState .compromised).foldl
    (attackFrom rng config state (chooseStrategy state config)) .start
  ({ state with
      tick := state.tick + 1
      nodes := compromiseClaimed attack.claims state.tick state.nodes },
    attack.drafts)

theorem chosen_healthy {state : WorldState} {strategy : Strategy} {source target : AgentNode}
    (chosen : chooseTarget state strategy source = some target) :
    target ∈ state.healthyNeighbors source := by
  have member := List.mem_of_head? chosen
  exact (List.perm_insertionSort _ _).mem_iff.mp member

theorem made_attackFrom {rng : Rng} {config : ExperimentConfig} {state : WorldState}
    {strategy : Strategy} {source : AgentNode} {attack : Attack}
    (made : attack.Made state state.tick) (attacking : source ∈ state.inState .compromised) :
    (attackFrom rng config state strategy attack source).Made state state.tick := by
  unfold attackFrom
  cases chosen : chooseTarget state strategy source with
  | none => exact made
  | some target => exact made_attempt made attacking (chosen_healthy chosen) rfl _

theorem step_made (rng : Rng) (state : WorldState) (config : ExperimentConfig) :
    ((state.inState .compromised).foldl
      (attackFrom rng config state (chooseStrategy state config)) .start).Made
      state state.tick := by
  apply made_loop .start
  intro attack made source attacking
  exact made_attackFrom made attacking

end AgentShield.AdaptiveAttacker
