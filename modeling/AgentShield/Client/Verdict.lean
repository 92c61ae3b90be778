import AgentShield.Client.Reducer
import AgentShield.Lib.Window
import AgentShield.Runtime.SessionEffects

/-!
What the judge reads off the screen (`lib/runtime/verdict.ts`), derived from the events that
the client still holds.
-/
namespace AgentShield.Client
open Schema Events Keyed Engine Coop Session LiveRuntimeSession Policy

structure CompletedStep where
  step : String
  workerId : Option String
  detail : String
  seq : Nat
  deriving DecidableEq

structure DemoVerdict where
  attackDetected : Bool := false
  agentQuarantined : Bool := false
  workflowRecovered : Bool := false
  testsPassed : Option Bool := none
  testSummary : Option String := none
  testCommand : Option String := none
  quarantinedWorkerId : Option String := none
  replacementWorkerId : Option String := none
  deniedResource : Option String := none
  violationReason : Option String := none
  violationType : Option String := none
  recoverySummary : Option String := none
  completedSteps : List CompletedStep := []
  deriving DecidableEq

def emptyVerdict : DemoVerdict := {}

def str (metadata : Metadata) (key : String) : Option String :=
  match metadataGet metadata key with
  | some (.str value) => truthy (some value)
  | _ => none

def judge (verdict : DemoVerdict) (event : Event) : DemoVerdict :=
  let metadata := event.metadata
  match event.eventType with
  | .policyViolation =>
    { verdict with
      attackDetected := true
      deniedResource := (str metadata "resource").or verdict.deniedResource
      violationReason := (str metadata "reason").or verdict.violationReason
      violationType := (str metadata "violation_type").or verdict.violationType }
  | .agentQuarantined =>
    { verdict with
      agentQuarantined := true
      quarantinedWorkerId := event.agentId.or verdict.quarantinedWorkerId }
  | .agentCreated =>
    if (str metadata "replaces").isSome then
      { verdict with replacementWorkerId := event.agentId.or verdict.replacementWorkerId }
    else verdict
  | .taskCompleted =>
    match str metadata "step" with
    | none => verdict
    | some step =>
      let completed : CompletedStep :=
        { step
          workerId := event.agentId
          detail := (str metadata "detail").getD ""
          seq := event.seq }
      let verdict := { verdict with completedSteps := verdict.completedSteps ++ [completed] }
      if step = "pytest" then
        { verdict with
          testsPassed := some (metadataGet metadata "passed" = some (.bool true))
          testSummary := str metadata "detail"
          testCommand := str metadata "command" }
      else verdict
  | .workflowRecovered =>
    { verdict with workflowRecovered := true, recoverySummary := str metadata "summary" }
  | _ => verdict

def deriveVerdict (events : List Event) : DemoVerdict := events.foldl judge emptyVerdict

inductive Light where
  | attackDetected
  | agentQuarantined
  | workflowRecovered

def Light.shownBy (verdict : DemoVerdict) : Light → Bool
  | .attackDetected => verdict.attackDetected
  | .agentQuarantined => verdict.agentQuarantined
  | .workflowRecovered => verdict.workflowRecovered

def Light.cause : Light → EventType
  | .attackDetected => .policyViolation
  | .agentQuarantined => .agentQuarantined
  | .workflowRecovered => .workflowRecovered

def Light.TurnedOnBy (light : Light) (event : Event) : Prop := event.eventType = light.cause

instance (light : Light) (event : Event) : Decidable (light.TurnedOnBy event) :=
  inferInstanceAs (Decidable (_ = _))

theorem judge_light (verdict : DemoVerdict) (event : Event) (light : Light) :
    light.shownBy (judge verdict event) = true ↔
      light.shownBy verdict = true ∨ light.TurnedOnBy event := by
  unfold judge Light.TurnedOnBy
  dsimp only
  split
  · rename_i type
    cases light <;> simp [Light.shownBy, Light.cause, type]
  · rename_i type
    cases light <;> simp [Light.shownBy, Light.cause, type]
  · rename_i type
    split <;> cases light <;> simp [Light.shownBy, Light.cause, type]
  · rename_i type
    split
    · cases light <;> simp [Light.shownBy, Light.cause, type]
    · split <;> cases light <;> simp [Light.shownBy, Light.cause, type]
  · rename_i type
    cases light <;> simp [Light.shownBy, Light.cause, type]
  · rename_i violation quarantine _ _ recovery
    cases light
    · exact (or_iff_left violation).symm
    · exact (or_iff_left quarantine).symm
    · exact (or_iff_left recovery).symm

/-- A light is on exactly if one of the events turns it on. -/
theorem deriveVerdict_light (events : List Event) (light : Light) :
    light.shownBy (deriveVerdict events) = true ↔ ∃ event ∈ events, light.TurnedOnBy event := by
  have whole : ∀ (events : List Event) (verdict : DemoVerdict),
      light.shownBy (events.foldl judge verdict) = true ↔
        light.shownBy verdict = true ∨ ∃ event ∈ events, light.TurnedOnBy event := by
    intro events
    induction events with
    | nil => simp
    | cons event rest ih =>
      intro verdict
      rw [List.foldl_cons, ih, judge_light, or_assoc, List.exists_mem_cons_iff]
  have off : light.shownBy emptyVerdict = false := by cases light <;> rfl
  unfold deriveVerdict
  rw [whole, off]
  simp

theorem lastOf_eq (cap : Nat) (events : List Event) : lastOf cap events = Window.last cap events :=
  rfl

theorem reduceAll_recent {events : List Event} {state state' : GraphState}
    (reduced : reduceAll state events = .ok state')
    (held : state.recentEvents.length ≤ eventLogCap) :
    state'.recentEvents = Window.last eventLogCap (state.recentEvents ++ events) := by
  induction events generalizing state with
  | nil =>
    cases reduced
    rw [List.append_nil, Window.last_of_few held]
  | cons event rest ih =>
    have one : (reduceEvent state event).recentEvents =
        Window.last eventLogCap (state.recentEvents ++ [event]) := by
      simp only [reduceEvent, lastOf_eq]
    have few : (reduceEvent state event).recentEvents.length ≤ eventLogCap := by
      rw [one]
      unfold Window.last
      rw [List.length_drop]
      omega
    rw [@ih (reduceEvent state event) reduced few, one, Window.last_last_append,
      List.append_assoc]
    rfl

theorem reduceAll_total (state : GraphState) (events : List Event) :
    ∃ state', reduceAll state events = .ok state' := by
  induction events generalizing state with
  | nil => exact ⟨state, rfl⟩
  | cons event rest ih => exact ih (reduceEvent state event)

/-- The client has folded the events, and the verdict over those it holds shows the light. -/
def Lit (light : Light) (client : GraphState) (events : List Event) : Prop :=
  ∃ client', reduceAll client events = .ok client' ∧
    light.shownBy (deriveVerdict client'.recentEvents) = true

theorem lit_iff {client : GraphState} (fresh : client.recentEvents = []) (light : Light)
    (events : List Event) :
    Lit light client events ↔ Window.Shows light.TurnedOnBy eventLogCap events := by
  have recent : ∀ client', reduceAll client events = .ok client' →
      client'.recentEvents = Window.last eventLogCap events := by
    intro client' reduced
    have none_held : client.recentEvents.length ≤ eventLogCap := by
      rw [fresh]
      exact Nat.zero_le _
    rw [reduceAll_recent reduced none_held, fresh, List.nil_append]
  unfold Lit Window.Shows
  constructor
  · rintro ⟨client', reduced, on⟩
    rw [deriveVerdict_light, recent client' reduced] at on
    exact on
  · intro shown
    obtain ⟨client', reduced⟩ := reduceAll_total client events
    refine ⟨client', reduced, ?_⟩
    rw [deriveVerdict_light, recent client' reduced]
    exact shown

/-- Over a stream of any length a light never goes out exactly if, among the 200 events that
    follow one that turns it on, another does, unless the stream ends before. -/
theorem light_stays_on_iff_renewed (light : Light) (client : GraphState)
    (fresh : client.recentEvents = []) (stream : List Event) :
    (∀ m n, m ≤ n → n ≤ stream.length →
      Lit light client (stream.take m) → Lit light client (stream.take n)) ↔
      Window.Renewed light.TurnedOnBy eventLogCap stream := by
  rw [← Window.keeps_showing_iff (by decide)]
  simp only [lit_iff fresh]

def troubledSession : LiveRuntimeSession :=
  serial perform (LiveRuntimeSession.new 0 "objective")
    [.registerWorker "reader" "researcher" [] none false,
      .registerWorker "coder" "developer" [] none false,
      .requestResource "reader" "demo_target/secrets/x", .recover "done"]

def analysis : Operation := .completeTask "coder" "analysis" "" .plain

def workedOn (n : Nat) : LiveRuntimeSession :=
  serial perform troubledSession (List.replicate n analysis)

theorem workedOn_log (n : Nat) :
    (∃ w, (workedOn n).workers.get? "coder" = some w ∧ w.isActive = true) ∧
      ∃ later, (workedOn n).log = troubledSession.log ++ later ∧ later.length = n ∧
        ∀ event ∈ later, event.eventType = .taskCompleted := by
  unfold workedOn
  refine serial_replicate (P := fun n (s : LiveRuntimeSession) =>
    (∃ w, s.workers.get? "coder" = some w ∧ w.isActive = true) ∧
      ∃ later, s.log = troubledSession.log ++ later ∧ later.length = n ∧
        ∀ event ∈ later, event.eventType = .taskCompleted) ?_ ?_ n
  · refine ⟨⟨_, rfl, rfl⟩, [], (List.append_nil _).symm, rfl, ?_⟩
    intro event member
    cases member
  · rintro n s ⟨⟨w, found, active⟩, later, log, count, tasks⟩
    have drafted := completedDraft_plain s.advanced "coder" "analysis" ""
    obtain ⟨r, run⟩ := completeTask_run found active drafted
    rw [analysis, perform, exec_performed run]
    constructor
    · have id : w.id = "coder" := Table.get?_key found
      refine ⟨{ w with currentTask := none }, ?_, active⟩
      change (s.workers.put { w with currentTask := none }).get? "coder" = _
      rw [Table.get?_put, if_pos]
      exact id.symm
    · rw [effect_log (.completed found active drafted), log, List.append_assoc]
      refine ⟨_, rfl, ?_, ?_⟩
      · rw [List.length_append, number_length, count]
        rfl
      · intro event member
        rcases List.mem_append.mp member with old | new
        · exact tasks event old
        · rw [List.mem_singleton.mp new]
          rfl

theorem troubled_lights (light : Light) :
    Window.Shows light.TurnedOnBy eventLogCap troubledSession.log := by
  cases light <;> decide

theorem troubled_lights_stay_on :
    Lit .attackDetected initialGraphState (troubledSession.log.take 5) ∧
      Lit .attackDetected initialGraphState (troubledSession.log.take 8) := by
  have lit : Lit .attackDetected initialGraphState (troubledSession.log.take 5) := by
    rw [lit_iff rfl]
    decide
  refine ⟨lit, ?_⟩
  refine (light_stays_on_iff_renewed .attackDetected initialGraphState rfl troubledSession.log).mpr
    ?_ 5 8 (by decide) (by decide) lit
  intro i x _ _ long
  have short : troubledSession.log.length ≤ eventLogCap := by decide
  omega

theorem light_goes_out (light : Light) :
    Lit light initialGraphState ((workedOn 200).log.take troubledSession.log.length) ∧
      ¬ Lit light initialGraphState (workedOn 200).log := by
  obtain ⟨_, later, log, count, tasks⟩ := workedOn_log 200
  rw [lit_iff rfl, lit_iff rfl, log, List.take_left]
  refine ⟨troubled_lights light, ?_⟩
  rintro ⟨event, recent, on⟩
  have full : later.length = eventLogCap := count
  rw [Window.last_append full] at recent
  unfold Light.TurnedOnBy at on
  rw [tasks event recent] at on
  cases light <;> cases on

/-- The three lights are on after the recovery, and off after 200 more completed tasks. -/
theorem lights_go_out :
    let before := (workedOn 200).log.take troubledSession.log.length
    (Lit .attackDetected initialGraphState before ∧ Lit .agentQuarantined initialGraphState before ∧
        Lit .workflowRecovered initialGraphState before) ∧
      ¬ Lit .attackDetected initialGraphState (workedOn 200).log ∧
      ¬ Lit .agentQuarantined initialGraphState (workedOn 200).log ∧
      ¬ Lit .workflowRecovered initialGraphState (workedOn 200).log := by
  obtain ⟨attack, attack'⟩ := light_goes_out .attackDetected
  obtain ⟨quarantine, quarantine'⟩ := light_goes_out .agentQuarantined
  obtain ⟨recovery, recovery'⟩ := light_goes_out .workflowRecovered
  exact ⟨⟨attack, quarantine, recovery⟩, attack', quarantine', recovery'⟩

end AgentShield.Client
