import AgentShield.Schema.Experiment
import AgentShield.Lib.History

/-!
The controls of one experiment (`lib/controls/reducer.ts`): at most one request is
pending, and answers may come late, twice, in any order or never.
-/
namespace AgentShield.Client
open Schema

inductive ControlStatus where
  | idle
  | running
  | paused
  | finished
  | stopped
  deriving DecidableEq

inductive PendingAction where
  | start
  | pause
  | resume
  | speed
  | reset
  deriving DecidableEq

structure ControlState where
  experimentId : Option String
  status : ControlStatus
  pending : Option PendingAction
  speed : Rat
  error : Option String
  operationId : Option Nat
  revision : Nat
  activeConfig : Option ExperimentConfig
  deriving DecidableEq

def initialControlState : ControlState :=
  { experimentId := none
    status := .idle
    pending := none
    speed := 1
    error := none
    operationId := none
    revision := 0
    activeConfig := none }

inductive ControlAction where
  | startRequested (operationId : Nat)
  | startSucceeded (operationId : Nat) (experimentId : String) (status : ControlStatus)
      (config : ExperimentConfig)
  | startFailed (operationId : Nat) (error : String)
  | pauseRequested (operationId : Nat)
  | pauseSucceeded (operationId : Nat) (status : ControlStatus)
  | pauseFailed (operationId : Nat) (error : String)
  | resumeRequested (operationId : Nat)
  | resumeSucceeded (operationId : Nat) (status : ControlStatus)
  | resumeFailed (operationId : Nat) (error : String)
  | speedRequested (operationId : Nat)
  | speedSucceeded (operationId : Nat) (speed : Rat)
  | speedFailed (operationId : Nat) (error : String)
  | resetRequested (operationId : Nat)
  | resetCreateSucceeded (operationId : Nat) (experimentId : String) (status : ControlStatus)
      (config : ExperimentConfig)
  | resetStopSucceededCreateFailed (operationId : Nat) (error : String)
  | resetFailed (operationId : Nat) (error : String)
  | statusSynced (experimentId : String) (revision : Nat) (status : ControlStatus)

namespace ControlState

def canStart (s : ControlState) : Bool :=
  (s.status == .idle || s.status == .finished || s.status == .stopped) && s.pending == none

def canPause (s : ControlState) : Bool := s.status == .running && s.pending == none

def canResume (s : ControlState) : Bool := s.status == .paused && s.pending == none

def canSetSpeed (s : ControlState) : Bool :=
  (s.status == .running || s.status == .paused) && s.pending == none

def canReset (s : ControlState) : Bool := s.experimentId != none && s.pending == none

def isCurrent (s : ControlState) (pending : PendingAction) (operationId : Nat) : Bool :=
  s.pending == some pending && s.operationId == some operationId

def request (s : ControlState) (pending : PendingAction) (operationId : Nat) : ControlState :=
  { s with
    pending := some pending
    operationId := some operationId
    revision := s.revision + 1
    error := none }

def settle (s : ControlState) (error : Option String) : ControlState :=
  { s with
    pending := none
    operationId := none
    error }

/- A fresh runner starts at its own default speed. -/
def create (s : ControlState) (experimentId : String) (status : ControlStatus)
    (config : ExperimentConfig) : ControlState :=
  { s.settle none with
    experimentId := some experimentId
    status
    speed := 1
    activeConfig := some config }

end ControlState

def controlReducer (s : ControlState) : ControlAction → ControlState
  | .startRequested operationId => if s.canStart then s.request .start operationId else s
  | .startSucceeded operationId experimentId status config =>
    if s.isCurrent .start operationId then s.create experimentId status config else s
  | .startFailed operationId error =>
    if s.isCurrent .start operationId then s.settle (some error) else s
  | .pauseRequested operationId => if s.canPause then s.request .pause operationId else s
  | .pauseSucceeded operationId status =>
    if s.isCurrent .pause operationId then { s.settle none with status } else s
  | .pauseFailed operationId error =>
    if s.isCurrent .pause operationId then s.settle (some error) else s
  | .resumeRequested operationId => if s.canResume then s.request .resume operationId else s
  | .resumeSucceeded operationId status =>
    if s.isCurrent .resume operationId then { s.settle none with status } else s
  | .resumeFailed operationId error =>
    if s.isCurrent .resume operationId then s.settle (some error) else s
  | .speedRequested operationId => if s.canSetSpeed then s.request .speed operationId else s
  | .speedSucceeded operationId speed =>
    if s.isCurrent .speed operationId then { s.settle none with speed } else s
  | .speedFailed operationId error =>
    if s.isCurrent .speed operationId then s.settle (some error) else s
  | .resetRequested operationId => if s.canReset then s.request .reset operationId else s
  | .resetCreateSucceeded operationId experimentId status config =>
    if s.isCurrent .reset operationId then s.create experimentId status config else s
  | .resetStopSucceededCreateFailed operationId error =>
    if s.isCurrent .reset operationId then
      { s.settle (some error) with status := .stopped }
    else s
  | .resetFailed operationId error =>
    if s.isCurrent .reset operationId then s.settle (some error) else s
  | .statusSynced experimentId revision status =>
    if some experimentId ≠ s.experimentId ∨ revision ≠ s.revision then s
    else { s with status }

/-- The state after these actions, in the order in which they arrived. -/
def controlRun (actions : List ControlAction) : ControlState :=
  actions.foldl controlReducer initialControlState

namespace ControlAction

def request? : ControlAction → Option (PendingAction × Nat)
  | .startRequested id => some (.start, id)
  | .pauseRequested id => some (.pause, id)
  | .resumeRequested id => some (.resume, id)
  | .speedRequested id => some (.speed, id)
  | .resetRequested id => some (.reset, id)
  | _ => none

def response? : ControlAction → Option (PendingAction × Nat)
  | .startSucceeded id _ _ _ => some (.start, id)
  | .startFailed id _ => some (.start, id)
  | .pauseSucceeded id _ => some (.pause, id)
  | .pauseFailed id _ => some (.pause, id)
  | .resumeSucceeded id _ => some (.resume, id)
  | .resumeFailed id _ => some (.resume, id)
  | .speedSucceeded id _ => some (.speed, id)
  | .speedFailed id _ => some (.speed, id)
  | .resetCreateSucceeded id _ _ _ => some (.reset, id)
  | .resetStopSucceededCreateFailed id _ => some (.reset, id)
  | .resetFailed id _ => some (.reset, id)
  | _ => none

def creates : ControlAction → Bool
  | .startSucceeded _ _ _ _ => true
  | .resetCreateSucceeded _ _ _ _ => true
  | _ => false

end ControlAction

def requestIds (actions : List ControlAction) : List Nat :=
  actions.filterMap fun action => action.request?.map Prod.snd

theorem isCurrent_iff {s : ControlState} {kind : PendingAction} {id : Nat} :
    s.isCurrent kind id = true ↔ s.pending = some kind ∧ s.operationId = some id := by
  simp [ControlState.isCurrent]

theorem guarded_cases (s : ControlState) (test : Bool) (kind : PendingAction) (id : Nat) :
    (if test && s.pending == none then s.request kind id else s) = s ∨
      s.pending = none ∧
        (if test && s.pending == none then s.request kind id else s) = s.request kind id := by
  split
  · rename_i can
    rw [Bool.and_eq_true, beq_iff_eq] at can
    exact Or.inr ⟨can.2, rfl⟩
  · exact Or.inl rfl

/-- What a request can do: nothing, or become the pending operation of a free panel. -/
theorem request_cases {s : ControlState} {action : ControlAction} {kind : PendingAction}
    {id : Nat} (asks : action.request? = some (kind, id)) :
    controlReducer s action = s ∨
      s.pending = none ∧ controlReducer s action = s.request kind id := by
  cases action with
  | startRequested id => cases asks; exact guarded_cases s _ .start id
  | pauseRequested id => cases asks; exact guarded_cases s _ .pause id
  | resumeRequested id => cases asks; exact guarded_cases s _ .resume id
  | speedRequested id => cases asks; exact guarded_cases s _ .speed id
  | resetRequested id => cases asks; exact guarded_cases s _ .reset id
  | _ => simp [ControlAction.request?] at asks

/-- A response of any operation but the pending one does nothing. -/
theorem response_other {s : ControlState} {action : ControlAction} {kind : PendingAction}
    {id : Nat} (answers : action.response? = some (kind, id))
    (other : s.isCurrent kind id = false) : controlReducer s action = s := by
  cases action <;> simp only [ControlAction.response?, Option.some.injEq, Prod.mk.injEq,
    reduceCtorEq] at answers <;>
    (obtain ⟨rfl, rfl⟩ := answers; simp only [controlReducer, other, Bool.false_eq_true, if_false])

/-- The response of the pending operation ends it; the request count stays. -/
theorem response_own {s : ControlState} {action : ControlAction} {kind : PendingAction}
    {id : Nat} (answers : action.response? = some (kind, id))
    (own : s.isCurrent kind id = true) :
    (controlReducer s action).pending = none ∧ (controlReducer s action).operationId = none ∧
      (controlReducer s action).revision = s.revision := by
  cases action <;> simp only [ControlAction.response?, Option.some.injEq, Prod.mk.injEq,
    reduceCtorEq] at answers <;>
    (obtain ⟨rfl, rfl⟩ := answers
     simp only [controlReducer, own, if_true, ControlState.create, ControlState.settle, and_self])

theorem synced_cases (s : ControlState) (experimentId : String) (revision : Nat)
    (status : ControlStatus) :
    controlReducer s (.statusSynced experimentId revision status) = s ∨
      s.experimentId = some experimentId ∧ s.revision = revision ∧
        controlReducer s (.statusSynced experimentId revision status) = { s with status } := by
  simp only [controlReducer]
  split
  · exact Or.inl rfl
  · rename_i current
    push Not at current
    exact Or.inr ⟨current.1.symm, current.2.symm, rfl⟩

theorem action_cases (action : ControlAction) :
    (∃ kind id, action.request? = some (kind, id)) ∨
      (∃ kind id, action.response? = some (kind, id)) ∨
        ∃ experimentId revision status, action = .statusSynced experimentId revision status := by
  cases action with
  | statusSynced experimentId revision status =>
    exact Or.inr (Or.inr ⟨experimentId, revision, status, rfl⟩)
  | _ => first | exact Or.inl ⟨_, _, rfl⟩ | exact Or.inr (Or.inl ⟨_, _, rfl⟩)

theorem identity_kept {s : ControlState} {action : ControlAction}
    (quiet : action.creates = false) :
    (controlReducer s action).experimentId = s.experimentId ∧
      (controlReducer s action).activeConfig = s.activeConfig := by
  rcases action_cases action with ⟨kind, id, asks⟩ | ⟨kind, id, answers⟩ | ⟨e, r, status, rfl⟩
  · rcases request_cases (s := s) asks with same | ⟨_, same⟩
    · rw [same]; exact ⟨rfl, rfl⟩
    · rw [same]; exact ⟨rfl, rfl⟩
  · cases own : s.isCurrent kind id with
    | false => rw [response_other answers own]; exact ⟨rfl, rfl⟩
    | true =>
      cases action <;> simp only [ControlAction.response?, ControlAction.creates,
        Option.some.injEq, Prod.mk.injEq, reduceCtorEq, Bool.true_eq_false] at answers quiet <;>
        (obtain ⟨rfl, rfl⟩ := answers
         simp only [controlReducer, own, if_true, ControlState.settle, and_self])
  · rcases synced_cases s e r status with same | ⟨_, _, same⟩
    · rw [same]; exact ⟨rfl, rfl⟩
    · rw [same]; exact ⟨rfl, rfl⟩

def Paired (s : ControlState) : Prop := s.pending = none ↔ s.operationId = none

theorem paired_step {s : ControlState} (paired : Paired s) (action : ControlAction) :
    Paired (controlReducer s action) := by
  rcases action_cases action with ⟨kind, id, asks⟩ | ⟨kind, id, answers⟩ | ⟨e, r, status, rfl⟩
  · rcases request_cases (s := s) asks with same | ⟨_, same⟩
    · rw [same]; exact paired
    · rw [same]; simp [Paired, ControlState.request]
  · cases own : s.isCurrent kind id with
    | false => rw [response_other answers own]; exact paired
    | true =>
      obtain ⟨pending, operationId, _⟩ := response_own answers own
      simp [Paired, pending, operationId]
  · rcases synced_cases s e r status with same | ⟨_, _, same⟩
    · rw [same]; exact paired
    · rw [same]; exact paired

theorem paired_run (actions : List ControlAction) {s : ControlState} (paired : Paired s) :
    Paired (actions.foldl controlReducer s) := by
  induction actions generalizing s with
  | nil => exact paired
  | cons action rest ih => exact ih (paired_step paired action)

def IsOwn (s : ControlState) (action : ControlAction) : Prop :=
  ∃ kind id, action.response? = some (kind, id) ∧ s.pending = some kind ∧
    s.operationId = some id

theorem isOwn_iff {s : ControlState} {action : ControlAction} {kind : PendingAction} {id : Nat}
    (answers : action.response? = some (kind, id)) :
    IsOwn s action ↔ s.isCurrent kind id = true := by
  rw [isCurrent_iff]
  constructor
  · rintro ⟨k, i, same, current⟩
    cases answers.symm.trans same
    exact current
  · exact fun current => ⟨kind, id, answers, current⟩

theorem not_own {s : ControlState} {action : ControlAction} (quiet : action.response? = none) :
    ¬ IsOwn s action := by
  rintro ⟨kind, id, answers, _⟩
  rw [quiet] at answers
  cases answers

/-- What an action may do to the panel. -/
structure Allowed (s : ControlState) (action : ControlAction) (s' : ControlState) : Prop where
  paired : Paired s'
  cleared : s.pending ≠ none → (s'.pending = none ↔ IsOwn s action)
  held : s.pending ≠ none → ¬ IsOwn s action →
    s'.pending = s.pending ∧ s'.operationId = s.operationId
  ignored : action.response? ≠ none → ¬ IsOwn s action → s' = s
  identity : s'.experimentId ≠ s.experimentId ∨ s'.activeConfig ≠ s.activeConfig →
    IsOwn s action ∧ action.creates = true
  synced : ∀ experimentId revision status,
    action = .statusSynced experimentId revision status →
      s' = { s with status := s'.status } ∧
        (s' ≠ s → s.experimentId = some experimentId ∧ s.revision = revision ∧
          s'.status = status)

theorem allowed_same {s : ControlState} {action : ControlAction} (paired : Paired s)
    (other : ¬ IsOwn s action) : Allowed s action s where
  paired := paired
  cleared := fun busy => ⟨fun free => absurd free busy, fun own => absurd own other⟩
  held := fun _ _ => ⟨rfl, rfl⟩
  ignored := fun _ _ => rfl
  identity := fun changed => absurd changed (by simp)
  synced := fun _ _ _ _ => ⟨rfl, fun changed => absurd rfl changed⟩

theorem allowed_request {s : ControlState} {action : ControlAction} {kind : PendingAction}
    {id : Nat} (paired : Paired s) (asks : action.request? = some (kind, id)) :
    Allowed s action (controlReducer s action) := by
  have quiet : action.response? = none := by
    cases action <;> first | rfl | exact absurd asks (by simp [ControlAction.request?])
  have unsynced : ∀ e r status, action ≠ .statusSynced e r status := by
    rintro e r status rfl
    cases asks
  rcases request_cases (s := s) asks with same | ⟨free, same⟩
  · rw [same]
    exact allowed_same paired (not_own quiet)
  · rw [same]
    exact
      { paired := by simp [Paired, ControlState.request]
        cleared := fun busy => absurd free busy
        held := fun busy => absurd free busy
        ignored := fun answers => absurd quiet answers
        identity := fun changed => absurd changed (by simp [ControlState.request])
        synced := fun e r status sync => absurd sync (unsynced e r status) }

theorem allowed_response {s : ControlState} {action : ControlAction} {kind : PendingAction}
    {id : Nat} (paired : Paired s) (answers : action.response? = some (kind, id)) :
    Allowed s action (controlReducer s action) := by
  have unsynced : ∀ e r status, action ≠ .statusSynced e r status := by
    rintro e r status rfl
    cases answers
  cases current : s.isCurrent kind id with
  | false =>
    rw [response_other answers current]
    refine allowed_same paired ?_
    rw [isOwn_iff answers, current]
    exact Bool.false_ne_true
  | true =>
    have own : IsOwn s action := (isOwn_iff answers).mpr current
    have free := (response_own answers current).1
    exact
      { paired := paired_step paired action
        cleared := fun _ => ⟨fun _ => own, fun _ => free⟩
        held := fun _ other => absurd own other
        ignored := fun _ other => absurd own other
        identity := by
          intro changed
          refine ⟨own, ?_⟩
          by_contra quiet
          obtain ⟨experimentId, activeConfig⟩ :=
            identity_kept (s := s) (eq_false_of_ne_true quiet)
          rcases changed with changed | changed
          · exact changed experimentId
          · exact changed activeConfig
        synced := fun e r status sync => absurd sync (unsynced e r status) }

theorem allowed_sync {s : ControlState} (paired : Paired s) (experimentId : String)
    (revision : Nat) (status : ControlStatus) :
    Allowed s (.statusSynced experimentId revision status)
      (controlReducer s (.statusSynced experimentId revision status)) := by
  have other : ¬ IsOwn s (.statusSynced experimentId revision status) := not_own rfl
  rcases synced_cases s experimentId revision status with same | ⟨experiment, fresh, same⟩
  · rw [same]
    exact allowed_same paired other
  · rw [same]
    exact
      { paired := paired
        cleared := fun busy => ⟨fun free => absurd free busy, fun own => absurd own other⟩
        held := fun _ _ => ⟨rfl, rfl⟩
        ignored := fun answers => absurd rfl answers
        identity := fun changed => absurd changed (by simp)
        synced := by
          intro e r written sync
          cases sync
          exact ⟨rfl, fun _ => ⟨experiment, fresh, rfl⟩⟩ }

theorem allowed_step {s : ControlState} (paired : Paired s) (action : ControlAction) :
    Allowed s action (controlReducer s action) := by
  rcases action_cases action with ⟨kind, id, asks⟩ | ⟨kind, id, answers⟩ | ⟨e, r, status, rfl⟩
  · exact allowed_request paired asks
  · exact allowed_response paired answers
  · exact allowed_sync paired e r status

theorem requestIds_append (first later : List ControlAction) :
    requestIds (first ++ later) = requestIds first ++ requestIds later :=
  List.filterMap_append

theorem operationId_source {s : ControlState} {action : ControlAction} {id : Nat}
    (pending : (controlReducer s action).operationId = some id) :
    s.operationId = some id ∨ id ∈ requestIds [action] := by
  rcases action_cases action with ⟨kind, i, asks⟩ | ⟨kind, i, answers⟩ | ⟨e, r, status, rfl⟩
  · rcases request_cases (s := s) asks with same | ⟨_, same⟩
    · exact Or.inl (same ▸ pending)
    · rw [same] at pending
      cases pending
      exact Or.inr (by simp [requestIds, asks])
  · cases own : s.isCurrent kind i with
    | false => exact Or.inl (response_other answers own ▸ pending)
    | true =>
      rw [(response_own answers own).2.1] at pending
      cases pending
  · rcases synced_cases s e r status with same | ⟨_, _, same⟩
    · exact Or.inl (same ▸ pending)
    · exact Or.inl (by rw [same] at pending; exact pending)

theorem operationId_run {actions : List ControlAction} {s : ControlState} {id : Nat}
    (pending : (actions.foldl controlReducer s).operationId = some id) :
    s.operationId = some id ∨ id ∈ requestIds actions := by
  induction actions generalizing s with
  | nil => exact Or.inl pending
  | cons action rest ih =>
    rw [← List.singleton_append, requestIds_append, List.mem_append]
    rcases ih pending with earlier | later
    · exact (operationId_source earlier).imp_right Or.inl
    · exact Or.inr (Or.inr later)

/-- Once an operation is answered, no later response of its id finds it pending. -/
theorem answered_once {before middle after : List ControlAction} {first second : ControlAction}
    {kind kind' : PendingAction} {id : Nat}
    (distinct : (requestIds (before ++ first :: (middle ++ second :: after))).Nodup)
    (own : IsOwn (controlRun before) first) (answers : first.response? = some (kind, id))
    (again : second.response? = some (kind', id)) :
    ¬ IsOwn (controlRun (before ++ first :: middle)) second := by
  intro late
  have current := (isOwn_iff answers).mp own
  have requested : id ∈ requestIds before := by
    rcases operationId_run (isCurrent_iff.mp current).2 with initial | asked
    · cases initial
    · exact asked
  have pending := (isCurrent_iff.mp ((isOwn_iff again).mp late)).2
  rw [controlRun, List.foldl_append, List.foldl_cons] at pending
  rcases operationId_run pending with kept | asked
  · have freed := (response_own answers current).2.1
    rw [controlRun] at freed
    rw [freed] at kept
    cases kept
  · rw [requestIds_append, ← List.singleton_append, requestIds_append, requestIds_append] at distinct
    have apart := (List.nodup_append.mp distinct).2.2 id requested id
    exact apart (List.mem_append_right _ (List.mem_append_left _ asked)) rfl

theorem controlRun_concat (before : List ControlAction) (action : ControlAction) :
    controlRun (before ++ [action]) = controlReducer (controlRun before) action :=
  List.foldl_concat ..

theorem responses_never_cross (actions : List ControlAction)
    (distinct : (requestIds actions).Nodup) :
    Paired (controlRun actions) ∧
      (∀ before action after, actions = before ++ action :: after →
        Allowed (controlRun before) action (controlRun (before ++ [action]))) ∧
      ∀ before first middle second after,
        actions = before ++ first :: (middle ++ second :: after) →
        IsOwn (controlRun before) first →
        second.response?.map Prod.snd = first.response?.map Prod.snd →
        ¬ IsOwn (controlRun (before ++ first :: middle)) second := by
  have paired : ∀ actions, Paired (controlRun actions) :=
    fun actions => paired_run actions (by simp [Paired, initialControlState])
  refine ⟨paired actions, ?_, ?_⟩
  · intro before action after _
    rw [controlRun_concat]
    exact allowed_step (paired before) action
  · rintro before first middle second after rfl own same late
    obtain ⟨kind, id, answers, current⟩ := own
    obtain ⟨kind', id', again, pending⟩ := late
    have one : id' = id := by simpa [answers, again] using same
    subst one
    exact answered_once distinct ⟨kind, id', answers, current⟩ answers again
      ⟨kind', id', again, pending⟩

def startAnsweredTwice : List ControlAction :=
  [.startRequested 0, .startSucceeded 0 "first" .running smallNetwork, .pauseRequested 1,
    .startSucceeded 0 "second" .finished smallNetwork, .pauseSucceeded 1 .paused]

theorem startAnsweredTwice_kept :
    Paired (controlRun startAnsweredTwice) ∧
      ¬ IsOwn (controlRun (startAnsweredTwice.take 3))
        (.startSucceeded 0 "second" .finished smallNetwork) ∧
      (controlRun startAnsweredTwice).experimentId = some "first" ∧
      (controlRun startAnsweredTwice).status = .paused := by
  have kept := responses_never_cross startAnsweredTwice (by decide)
  refine ⟨kept.1, ?_, rfl, rfl⟩
  exact kept.2.2 [.startRequested 0] (.startSucceeded 0 "first" .running smallNetwork)
    [.pauseRequested 1] (.startSucceeded 0 "second" .finished smallNetwork)
    [.pauseSucceeded 1 .paused] rfl ⟨.start, 0, rfl, rfl, rfl⟩ rfl

end AgentShield.Client
