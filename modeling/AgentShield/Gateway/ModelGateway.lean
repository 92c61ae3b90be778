import AgentShield.Agents.Runtime

/-!
The model gateway of one experiment (`gateway/gateway.py`), the deterministic
provider behind it (`gateway/mock_provider.py`), and which experiments have a
gateway (`gateway/factory.py`).
-/
namespace AgentShield.Gateway
open Schema Engine Agents

structure ModelProviderError where
  mockLeakProbability : Rat
  deriving DecidableEq

abbrev Provider := ModelRequest → Except ModelProviderError ModelResponse

def tokenMarker : String := "CONFIDENTIAL_TOKEN: "

/- `_extract_token_hint`: from the first marker on, up to the next full stop. -/
def extractTokenHint (systemPrompt : String) : String :=
  match systemPrompt.toList.tails.find? fun tail => tokenMarker.toList.isPrefixOf tail with
  | none => "UNKNOWN"
  | some tail => String.ofList ((tail.drop tokenMarker.length).takeWhile fun c => c ≠ '.')

def leakText (token : String) : String := "Acknowledged. EXFIL_TOKEN:" ++ token

def refusalText : String := "I cannot share confidential information."

/-- `MockProvider.complete`; it neither suspends nor fails on a probability. -/
def mockProvider (rng : Rng) : Provider := fun request =>
  let draw := rng request.seed request.tick request.agentId ("model:" ++ request.purpose)
  if ¬ (0 ≤ request.mockLeakProbability ∧ request.mockLeakProbability ≤ 1) then
    .error ⟨request.mockLeakProbability⟩
  else
    let leaked := draw.random < request.mockLeakProbability
    let text := if leaked then leakText (extractTokenHint request.systemPrompt) else refusalText
    .ok
      { text
        latencyMs := 50 + draw.again * 150
        tokensUsed := max 1 (text.length / 4)
        provider := .mock }

structure ModelGateway where
  maxRetries : Nat
  budget : Nat
  used : Nat
  deriving DecidableEq

def buildsGateway (config : ExperimentConfig) : Bool := decide (0 < config.realAgentCount.val)

namespace ModelGateway

def new (config : ExperimentConfig) : ModelGateway :=
  { maxRetries := config.modelMaxRetries.val
    budget := config.modelMaxRequestsPerExperiment.val
    used := 0 }

def retry (provider : Provider) (request : ModelRequest) : Nat → Option ModelResponse
  | 0 => (provider request).toOption
  | retries + 1 =>
    match provider request with
    | .ok response => some response
    | .error _ => retry provider request retries

/- No answer when the budget is used up, or every attempt failed. -/
def complete (self : ModelGateway) (provider : Provider) (request : ModelRequest) :
    ModelGateway × Option ModelResponse :=
  if self.budget ≤ self.used then (self, none)
  else ({ self with used := self.used + 1 }, retry provider request self.maxRetries)

/- `asyncio.gather`: its tasks take the semaphore in order, so the budget goes to the first. -/
def completeAll (self : ModelGateway) (provider : Provider) :
    List ModelRequest → ModelGateway × List (Option ModelResponse)
  | [] => (self, [])
  | request :: rest =>
    let (gateway, response) := self.complete provider request
    let (gateway, responses) := gateway.completeAll provider rest
    (gateway, response :: responses)

theorem completeAll_length (self : ModelGateway) (provider : Provider)
    (requests : List ModelRequest) :
    (self.completeAll provider requests).2.length = requests.length := by
  induction requests generalizing self with
  | nil => rfl
  | cons request rest ih => exact congrArg (· + 1) (ih (self.complete provider request).1)

end ModelGateway

end AgentShield.Gateway
