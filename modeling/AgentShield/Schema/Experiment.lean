import Mathlib.Data.Rat.Defs
import AgentShield.Schema.Events

/-!
What an experiment is configured with (`schemas/experiment.py`). A number with
bounds is a value within them: validation rejects every other.
-/
namespace AgentShield.Schema

/- `int = Field(..., ge=lo, le=hi)`. -/
abbrev Between (lo hi : Nat) := { n : Nat // lo ≤ n ∧ n ≤ hi }

abbrev Rate := { q : Rat // 0 ≤ q ∧ q ≤ 1 }

inductive InitialCompromised where
  | highestDegree
  | randomNode
  deriving DecidableEq, Repr

inductive ModelProviderName where
  | mock
  | vllm
  deriving DecidableEq, Repr

structure ExperimentConfig where
  seed : Int
  nodeCount : Between 25 100 := ⟨60, by decide⟩
  edgeDensity : Between 1 5 := ⟨2, by decide⟩
  softwareTypeCount : Between 1 5 := ⟨3, by decide⟩
  pSame : Rate := ⟨3 / 20, by decide +kernel⟩
  pCross : Rate := ⟨3 / 100, by decide +kernel⟩
  maxTicks : Between 1 2000 := ⟨200, by decide⟩
  detectorSensitivity : Rate := ⟨1 / 5, by decide +kernel⟩
  defenseEnabled : Bool := true
  initialCompromised : InitialCompromised := .highestDegree
  realAgentCount : Between 0 20 := ⟨0, by decide⟩
  modelProvider : ModelProviderName := .mock
  modelMaxTokens : Between 1 512 := ⟨64, by decide⟩
  modelMaxRetries : Between 0 3 := ⟨1, by decide⟩
  modelMaxRequestsPerExperiment : Between 1 5000 := ⟨500, by decide⟩
  toolCount : Between 0 20 := ⟨0, by decide⟩
  credentialCount : Between 0 20 := ⟨0, by decide⟩
  resourceCount : Between 0 20 := ⟨0, by decide⟩
  sentinelCount : Between 0 5 := ⟨0, by decide⟩
  activeScenarios : List String := ["propagation", "prompt_injection"]
  adaptiveDetectionThreshold : Rate := ⟨3 / 10, by decide +kernel⟩
  falseQuarantineRate : Rate := ⟨0, by decide⟩
  sentinelCompromiseRate : Rate := ⟨0, by decide⟩
  attestationReplayRate : Rate := ⟨0, by decide⟩
  byzantineCollusionRate : Rate := ⟨0, by decide⟩
  deriving DecidableEq

def smallNetwork : ExperimentConfig :=
  { seed := 1
    nodeCount := ⟨25, by decide⟩
    edgeDensity := ⟨1, by decide⟩ }

def certain : Rate := ⟨1, by decide⟩

def impossible : Rate := ⟨0, by decide⟩

def twoAgents : Between 0 20 := ⟨2, by decide⟩

end AgentShield.Schema
