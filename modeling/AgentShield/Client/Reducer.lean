import AgentShield.Events.Bus
import AgentShield.Scenarios.Lifecycle
import AgentShield.Scenarios.Rounds

/-!
The client's fold of the stream (`lib/stream/reducer.ts`), and what it makes of a
simulator's tick.
-/
namespace AgentShield.Client
open Schema Events Keyed Engine Scenarios TopologyBuilder

def currentSchemaVersion : Nat := 1

/- `SCHEMA_VERSION`: every event the emitter makes carries it. -/
def schemaVersion : Nat := 1

def eventLogCap : Nat := 200
def incidentLogCap : Nat := 50

def incidentEventTypes : List EventType :=
  [.compromiseAttempted, .compromiseSucceeded, .compromiseFailed, .anomalyDetected,
    .agentQuarantined]

structure Incidents where
  agentId : String
  events : List Event

structure Metrics where
  newCompromises : Nat
  modelCalls : Nat
  deriving DecidableEq

structure GraphState where
  experimentId : Option Uuid
  lastSeq : Int
  tick : Nat
  nodes : Table NodeView.id
  edges : List EdgeView
  recentEvents : List Event
  metrics : Metrics
  incidentsByAgent : Table Incidents.agentId

def initialGraphState : GraphState :=
  { experimentId := none
    lastSeq := -1
    tick := 0
    nodes := Table.empty
    edges := []
    recentEvents := []
    metrics := ⟨0, 0⟩
    incidentsByAgent := Table.empty }

inductive StreamFrame where
  | snapshot (frame : SnapshotFrame)
  | event (event : Event) (schemaVersion : Nat)

/- The empty string is falsy. -/
def truthy : Option String → Option String
  | some "" => none
  | id => id

def lastOf (cap : Nat) (events : List Event) : List Event := events.drop (events.length - cap)

def recordIncident (incidentsByAgent : Table Incidents.agentId) (event : Event) :
    Table Incidents.agentId :=
  if event.eventType ∉ incidentEventTypes then incidentsByAgent
  else
    let agentIds := ([event.agentId, event.sourceAgentId, event.targetAgentId].filterMap
      truthy).eraseDups
    agentIds.foldl
      (fun next agentId =>
        let existing := ((next.get? agentId).map Incidents.events).getD []
        next.put ⟨agentId, lastOf incidentLogCap (existing ++ [event])⟩)
      incidentsByAgent

def alreadyCompromised (event : Event) : Bool :=
  metadataGet event.metadata "already_compromised" = some (.bool true)

/- `nodes.set(id, { ...existing, ... })`, if there is such a node. -/
def setNode (nodes : Table NodeView.id) (id : Option String) (change : NodeView → NodeView) :
    Table NodeView.id :=
  match (truthy id).bind nodes.get? with
  | none => nodes
  | some existing => nodes.put (change existing)

def compromisedView (event : Event) (existing : NodeView) : NodeView :=
  if alreadyCompromised event then { existing with securityState := .compromised }
  else
    { existing with
      securityState := .compromised
      compromisedBy := event.sourceAgentId
      tickCompromised := some event.simTick }

def quarantinedView (existing : NodeView) : NodeView :=
  { existing with securityState := .quarantined }

def reduceNodes (nodes : Table NodeView.id) (event : Event) : Table NodeView.id :=
  let nodes := if event.eventType = .compromiseSucceeded then
    setNode nodes event.targetAgentId (compromisedView event) else nodes
  if event.eventType = .agentQuarantined then setNode nodes event.agentId quarantinedView
  else nodes

def reduceMetrics (metrics : Metrics) (event : Event) : Metrics :=
  let metrics := if event.eventType = .compromiseSucceeded ∧ alreadyCompromised event = false then
    { metrics with newCompromises := metrics.newCompromises + 1 } else metrics
  if event.eventType = .modelRequested then
    { metrics with modelCalls := metrics.modelCalls + 1 } else metrics

def exposed (view : NodeView) : Bool :=
  decide (view.securityState = .compromised ∨ view.securityState = .quarantined)

def reduceSnapshot (state : GraphState) (frame : SnapshotFrame) : GraphState :=
  let sameExperiment := decide (some frame.experimentId = state.experimentId)
  let initialExposure := (frame.nodes.filter exposed).length
  { experimentId := some frame.experimentId
    lastSeq := frame.lastSeq
    tick := frame.simTick
    nodes := frame.nodes.foldl Table.put Table.empty
    edges := frame.edges
    recentEvents := if sameExperiment then state.recentEvents else []
    metrics := if sameExperiment then state.metrics else ⟨initialExposure, 0⟩
    incidentsByAgent := if sameExperiment then state.incidentsByAgent else Table.empty }

def reduceEvent (state : GraphState) (event : Event) : GraphState :=
  { state with
    lastSeq := event.seq
    tick := event.simTick
    nodes := reduceNodes state.nodes event
    recentEvents := lastOf eventLogCap (state.recentEvents ++ [event])
    metrics := reduceMetrics state.metrics event
    incidentsByAgent := recordIncident state.incidentsByAgent event }

/-- Pure; an unrecognized version is an error. -/
def reduce (state : GraphState) : StreamFrame → Except String GraphState
  | .snapshot frame => .ok (reduceSnapshot state frame)
  | .event event schemaVersion =>
    if schemaVersion ≠ currentSchemaVersion then
      .error ("Unrecognized schema_version " ++ toString schemaVersion ++
        "; this client understands " ++ toString currentSchemaVersion ++ ".")
    else .ok (reduceEvent state event)

def reduceAll (state : GraphState) : List Event → Except String GraphState
  | [] => .ok state
  | event :: rest => do
    let state ← reduce state (.event event schemaVersion)
    reduceAll state rest

theorem reduceSnapshot_values (state : GraphState) {frame : SnapshotFrame}
    (distinct : (frame.nodes.map NodeView.id).Nodup) :
    (reduceSnapshot state frame).nodes.values = frame.nodes :=
  Table.foldl_new_values (fun _ _ _ _ => rfl) distinct

theorem reduceAll_experiment {events : List Event} {state state' : GraphState}
    (reduced : reduceAll state events = .ok state') :
    state'.experimentId = state.experimentId := by
  induction events generalizing state with
  | nil =>
    cases reduced
    rfl
  | cons event rest ih => exact @ih (reduceEvent state event) reduced

def Named (views : List NodeView) : Prop := ∀ view ∈ views, view.id ≠ ""

theorem setNode_values {nodes : Table NodeView.id} (named : Named nodes.values)
    {change : NodeView → NodeView} (keeps : ∀ view, (change view).id = view.id)
    (id : Option String) :
    (setNode nodes id change).values =
      nodes.values.map fun view => if id = some view.id then change view else view := by
  have nobody : (∀ view ∈ nodes.values, id ≠ some view.id) →
      nodes.values = nodes.values.map fun view => if id = some view.id then change view
        else view := by
    intro other
    symm
    apply (List.map_congr_left ?_).trans (List.map_id _)
    intro view member
    exact if_neg (other view member)
  unfold setNode
  cases id with
  | none => exact nobody (by simp)
  | some name =>
    by_cases empty : name = ""
    · subst empty
      apply nobody
      intro view member same
      exact named view member (Option.some.inj same).symm
    · have kept : truthy (some name) = some name := by
        unfold truthy
        split
        · rename_i same
          exact absurd (Option.some.inj same) empty
        · rfl
      rw [kept, Option.bind_some]
      cases found : nodes.get? name with
      | none =>
        apply nobody
        intro view member same
        have present := Table.get?_of_member member
        rw [← Option.some.inj same, found] at present
        cases present
      | some existing =>
        have here := Table.get?_key found
        have has : nodes.Has (change existing).id := by
          rw [keeps]
          exact List.mem_map_of_mem (Table.get?_member found)
        dsimp only
        rw [Table.put_values_of_has has]
        apply List.map_congr_left
        intro view member
        rw [keeps, here]
        by_cases same : view.id = name
        · have one : existing = view := by
            rw [← same, Table.get?_of_member member] at found
            exact (Option.some.inj found).symm
          rw [if_pos same, if_pos (congrArg some same.symm), one]
        · rw [if_neg same, if_neg]
          intro other
          exact same (Option.some.inj other).symm

theorem reduceNodes_values {nodes : Table NodeView.id} (named : Named nodes.values)
    (event : Event) :
    (reduceNodes nodes event).values = nodes.values.map (observe event.toEventDraft) := by
  have compromised : ∀ view, (compromisedView event view).id = view.id := by
    intro view
    unfold compromisedView
    split <;> rfl
  have quarantined_id : ∀ view, (quarantinedView view).id = view.id := fun _ => rfl
  unfold reduceNodes
  by_cases success : event.eventType = .compromiseSucceeded
  · have other : ¬ event.eventType = .agentQuarantined := by
      rw [success]
      decide
    rw [if_pos success, if_neg other, setNode_values named compromised]
    apply List.map_congr_left
    intro view _
    unfold observe
    simp only [success, true_and, compromisedView, alreadyCompromised, decide_eq_true_eq,
      reduceCtorEq, false_and, if_false]
  · rw [if_neg success]
    by_cases quarantined : event.eventType = .agentQuarantined
    · rw [if_pos quarantined, setNode_values named quarantined_id]
      apply List.map_congr_left
      intro view _
      unfold observe
      simp only [quarantined, true_and, reduceCtorEq, false_and, if_false, quarantinedView]
    · rw [if_neg quarantined]
      symm
      apply (List.map_congr_left ?_).trans (List.map_id _)
      intro view _
      apply observe_unmarked
      rintro (marks | marks)
      · exact success marks
      · exact quarantined marks

theorem named_observed {views : List NodeView} (named : Named views) (draft : EventDraft) :
    Named (views.map (observe draft)) := by
  intro view member
  obtain ⟨before, inside, rfl⟩ := List.mem_map.mp member
  rw [observe_id]
  exact named before inside

/-- The events of the simulator are never refused, and change the views as they tell. -/
theorem reduceAll_views (events : List Event) {state : GraphState}
    (named : Named state.nodes.values) :
    ∃ state', reduceAll state events = .ok state' ∧
      state'.nodes.values = foldViews state.nodes.values (events.map Event.toEventDraft) := by
  induction events generalizing state with
  | nil =>
    refine ⟨state, rfl, ?_⟩
    exact (foldViews_unmarked (by simp) _).symm
  | cons event rest ih =>
    have nodes : (reduceEvent state event).nodes.values =
        state.nodes.values.map (observe event.toEventDraft) := reduceNodes_values named event
    have named' : Named (reduceEvent state event).nodes.values := by
      rw [nodes]
      exact named_observed named event.toEventDraft
    obtain ⟨state', reduced, views⟩ := ih named'
    refine ⟨state', reduced, ?_⟩
    rw [views, nodes]
    unfold foldViews
    rw [List.map_map]
    rfl

theorem nodeId_nonempty (i : Nat) : nodeId i ≠ "" := by
  intro empty
  have letters := congrArg String.toList empty
  unfold nodeId at letters
  rw [String.toList_append] at letters
  simp at letters

theorem effects_named {rng : Rng} {networkx : Networkx} {config : ExperimentConfig}
    {state : WorldState} {drafts : List EventDraft}
    (effects : Effects config (buildWorld rng networkx config).1 drafts state) :
    Named state.views := by
  intro view member
  obtain ⟨node, inside, rfl⟩ := List.mem_map.mp member
  have key : node.id ∈ state.nodes.keys := List.mem_map_of_mem inside
  rw [effects_keys effects] at key
  obtain ⟨first, present, same⟩ := List.mem_map.mp key
  obtain ⟨i, named⟩ := buildWorld_named present
  rw [view_id, ← same, named]
  exact nodeId_nonempty i

/-- A client that holds the views before a tick holds those after it, once it has folded
    the events of the tick. -/
theorem client_fold_refines_round (rng : Rng) (networkx : Networkx) (config : ExperimentConfig)
    (hasGateway : Bool) {before drafts : List EventDraft} {state state' : WorldState}
    {asked : Answered}
    (run : Rounds anyAnswers rng config hasGateway (buildWorld rng networkx config).1 () before
      state ())
    (round : Round anyAnswers rng config hasGateway state () drafts state' () asked)
    (client : GraphState) (holds : client.nodes.values = state.views) (events : List Event)
    (told : events.map Event.toEventDraft = drafts) :
    ∃ client', reduceAll client events = .ok client' ∧ client'.nodes.values = state'.views := by
  have named : Named client.nodes.values := by
    rw [holds]
    exact effects_named (rounds_effects run)
  obtain ⟨client', reduced, views⟩ := reduceAll_views events named
  refine ⟨client', reduced, ?_⟩
  rw [views, told, holds]
  exact (effects_mirror (round_effects round)).views.symm

def holding (state : WorldState) : GraphState :=
  { initialGraphState with
    nodes := ⟨state.views, by
      unfold WorldState.views
      rw [List.map_map]
      exact state.nodes.distinct⟩ }

theorem client_fold_refines_first_round :
    ∃ client', reduceAll (holding (buildWorld default default smallNetwork).1)
        (number 0 26 (advance default (buildWorld default default smallNetwork).1 smallNetwork).2) =
          .ok client' ∧
      client'.nodes.values =
        (advance default (buildWorld default default smallNetwork).1 smallNetwork).1.views :=
  client_fold_refines_round default default smallNetwork false .none (.sync rfl)
    (holding (buildWorld default default smallNetwork).1) rfl _ (number_drafts 0 26 _)

end AgentShield.Client
