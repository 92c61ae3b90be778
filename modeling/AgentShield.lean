import AgentShield.Runtime.Session
import AgentShield.Events.Bus
import AgentShield.Schema.Events
import AgentShield.Lib.Coop
import AgentShield.Lib.Table
import AgentShield.Lib.Loop
import AgentShield.Lib.Paging
import AgentShield.Lib.Reach
import AgentShield.Runtime.PolicyLanguage
import AgentShield.Runtime.Resources
import AgentShield.Runtime.Enforcement
import AgentShield.Runtime.SessionEffects
import AgentShield.Runtime.Routes
import AgentShield.Runtime.Requests
import AgentShield.Runtime.Quarantine
import AgentShield.Runtime.Taint
import AgentShield.Runtime.LogFold
import AgentShield.Runtime.Recovery
import AgentShield.Runtime.EventLog
import AgentShield.Events.BusLaws
import AgentShield.Events.Stream
import AgentShield.Events.StreamLaws
import AgentShield.DemoTarget.Tokens
import AgentShield.Engine.State
import AgentShield.Engine.Attack
import AgentShield.Engine.Propagation
import AgentShield.Scenarios.AdaptiveAttacker
import AgentShield.Graph.Builder
import AgentShield.Scenarios.SecurityPlane
import AgentShield.Agents.Runtime
import AgentShield.Gateway.ModelGateway
import AgentShield.Security.Detection
import AgentShield.Scenarios.Registry
import AgentShield.Scenarios.Effects
import AgentShield.Scenarios.Rounds
import AgentShield.Scenarios.Chronology
import AgentShield.Scenarios.Exposure
import AgentShield.Scenarios.GraphNodes
import AgentShield.Scenarios.Ticks
import AgentShield.Graph.Outline
import AgentShield.Scenarios.Standstill
import AgentShield.Engine.Simulate
import AgentShield.Engine.Comparison
import AgentShield.Engine.Replay
import AgentShield.Engine.Topology
import AgentShield.Engine.InitialWorld
import AgentShield.Graph.Analysis
import AgentShield.Scenarios.Lifecycle
import AgentShield.Graph.BlastRadius
import AgentShield.Scenarios.QuarantineLedger
import AgentShield.Client.Reducer
import AgentShield.Orchestrator.Runner
import AgentShield.Orchestrator.SnapshotConsistency
import AgentShield.Orchestrator.LoopRuns
import AgentShield.Orchestrator.AgentLives
import AgentShield.Orchestrator.ReplayEquivalence
import AgentShield.Api.Streams
import AgentShield.Api.History
import AgentShield.Api.StoredRun
import AgentShield.Client.ReplayViewer
import AgentShield.Client.Verdict
import AgentShield.Client.LiveStage
import AgentShield.Client.ExposureCounters
import AgentShield.Client.HistoryPages
import AgentShield.Explanation.RecentWindow
import AgentShield.Runtime.FailedCalls
import AgentShield.Runtime.FoldingVolumes
import AgentShield.Client.ControlPanel
import AgentShield.Scenarios.Vocabulary
import AgentShield.Orchestrator.CleanStop
import AgentShield.Orchestrator.PauseFreeze
import AgentShield.Scenarios.EarlyExit
import AgentShield.Scenarios.EdgeOwnership
import AgentShield.Lib.Semaphore
import AgentShield.Gateway.Admission
import AgentShield.Gateway.Completion
import AgentShield.WorkSwarm.RepoPaths
import AgentShield.WorkSwarm.Rerooting
import AgentShield.WorkSwarm.Patcher
import AgentShield.WorkSwarm.Client
import AgentShield.WorkSwarm.Flow
import AgentShield.WorkSwarm.Steps
import AgentShield.WorkSwarm.FlowTrust
import AgentShield.WorkSwarm.FailClosed
import AgentShield.WorkSwarm.LostReads
import AgentShield.Persistence.Writer
import AgentShield.Persistence.WriterStore
import AgentShield.Client.LosslessRuns
import AgentShield.Client.SwarmModel
import AgentShield.Client.StageOrder
import AgentShield.Client.TestReport
import AgentShield.Client.NarrativeLaws
import AgentShield.Client.IncidentStory
import AgentShield.Api.BlastFraction
import AgentShield.WorkSwarm.AnswerRoundTrip
import AgentShield.Telemetry.SafeFields
import AgentShield.Telemetry.Scrubbing
import AgentShield.Security.Monitoring
import AgentShield.Metrics.Latencies
import AgentShield.WorkSwarm.Delivery
import AgentShield.WorkSwarm.ProvenRecovery
import AgentShield.WorkSwarm.HonestRun
import AgentShield.WorkSwarm.AuthPatch
import AgentShield.Lib.Grouping
import AgentShield.Client.Provenance
import AgentShield.Benchmark.Runner
