import AgentShield.Graph.Analysis
import AgentShield.Orchestrator.Runner

/-!
The metrics of a live experiment (`metrics/compute.py`) and the endpoint that reports them
(`api/routes_graph.py`). A fraction is the number its two counts denote.
-/
namespace AgentShield.Metrics
open Schema Events Keyed Engine GraphBuilder Analysis Orchestrator

def fraction (part whole : Nat) : Rat := part / whole

def compromiseFraction (state : WorldState) : Rat :=
  if state.nodes.values.isEmpty then 0
  else fraction
    (state.nodes.values.countP fun node => node.securityState = .compromised)
    state.nodes.values.length

def unaffected (node : AgentNode) : Bool :=
  node.securityState ≠ .compromised ∧ node.securityState ≠ .quarantined

def retainedUtility (state : WorldState) : Rat :=
  if state.nodes.values.isEmpty then 0
  else fraction (state.nodes.values.countP unaffected) state.nodes.values.length

def blastRadiusFraction (graph : SecurityGraph) : Rat :=
  let agentIds := ((graph.nodesOfType .agent).map GraphNode.id).toFinset
  if agentIds.card = 0 then 0
  else fraction (blastRadius graph ∩ agentIds).card agentIds.card

def privilegedExposure (graph : SecurityGraph) : Nat :=
  graph.nodes.values.countP fun node =>
    node.id ∈ blastRadius graph ∧ (node.nodeType = .credential ∨ node.nodeType = .resource)

def securityPlaneIntegrity (graph : SecurityGraph) : Rat :=
  let planeNodes := graph.nodesOfType .sentinel ++ graph.nodesOfType .securityControl
  if planeNodes.isEmpty then 1
  else fraction (planeNodes.countP fun node => node.securityState = .healthy) planeNodes.length

def ofType (eventType : EventType) (event : Event) : Bool := event.eventType = eventType

def attackSuccessRate (events : List Event) : Rat :=
  let succeeded := events.countP (ofType .compromiseSucceeded)
  let failed := events.countP (ofType .compromiseFailed)
  if succeeded + failed = 0 then 0 else fraction succeeded (succeeded + failed)

def illegitimate (event : Event) : Bool :=
  metadataGet event.metadata "legitimate" = some (.bool false)

def falseQuarantineRate (events : List Event) : Rat :=
  let quarantined := events.filter (ofType .agentQuarantined)
  if quarantined.isEmpty then 0
  else fraction (quarantined.countP illegitimate) quarantined.length

/- `first.setdefault(e.agent_id, e.sim_tick)` for each of the events that count. -/
def firstTicks (counts : Event → Bool) (events : List Event) : List (String × Nat) :=
  events.foldl (fun first event => match event.agentId with
    | none => first
    | some agentId =>
      if counts event ∧ first.lookup agentId = none then first ++ [(agentId, event.simTick)]
      else first) []

def mean (latencies : List Int) : Option Rat :=
  if latencies.isEmpty then none
  else some ((latencies.foldl (· + ·) 0 : Int) / (latencies.length : Int))

def detectionLatency (state : WorldState) (events : List Event) : Option Rat :=
  let firstDetected := firstTicks (ofType .anomalyDetected) events
  mean (state.nodes.values.filterMap fun node =>
    match node.tickCompromised, firstDetected.lookup node.id with
    | some compromised, some detected => some ((detected : Int) - compromised)
    | _, _ => none)

def containmentLatency (events : List Event) : Option Rat :=
  let firstDetected := firstTicks (ofType .anomalyDetected) events
  let firstQuarantined :=
    firstTicks (fun event => ofType .agentQuarantined event && !illegitimate event) events
  mean (firstQuarantined.filterMap fun entry =>
    (firstDetected.lookup entry.1).map fun detected => (entry.2 : Int) - detected)

def recentWindow (bus : EventBus) : List Event := (bus.since (-1)).getD []

structure MetricsResponse where
  compromiseFraction : Rat
  retainedUtility : Rat
  blastRadiusFraction : Rat
  privilegedExposure : Nat
  securityPlaneIntegrity : Rat
  attackSuccessRate : Rat
  falseQuarantineRate : Rat
  detectionLatency : Option Rat
  containmentLatency : Option Rat

/- `get_metrics`; without a runner the status is 404. -/
def getMetrics (rng : Rng) (registered : Option ExperimentRunner) : Option MetricsResponse :=
  registered.map fun runner =>
    let graph := buildSecurityGraph rng runner.state runner.config
    let events := recentWindow runner.bus
    { compromiseFraction := compromiseFraction runner.state
      retainedUtility := retainedUtility runner.state
      blastRadiusFraction := blastRadiusFraction graph
      privilegedExposure := privilegedExposure graph
      securityPlaneIntegrity := securityPlaneIntegrity graph
      attackSuccessRate := attackSuccessRate events
      falseQuarantineRate := falseQuarantineRate events
      detectionLatency := detectionLatency runner.state events
      containmentLatency := containmentLatency events }

end AgentShield.Metrics
