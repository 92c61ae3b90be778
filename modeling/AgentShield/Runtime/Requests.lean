import AgentShield.Runtime.Routes

/-!
What a request does to the session, in terms of the session's own operations:
nothing, or one operation whose route guards held. Every handler but the
commentary runs to its end without a suspension.
-/
namespace AgentShield.Routes
open Schema Events Keyed Policy Coop Session Resources

/-- The operation a request performs when its route lets it through. -/
inductive Issues (s : LiveRuntimeSession) : Request → Operation → Prop where
  | registerWorker (spec : WorkerSpec) :
      Issues s (.registerWorker spec)
        (.registerWorker spec.id spec.role spec.upstream spec.replaces spec.modelBacked)
  | requestResource (workerId resourcePath : String) (includeContent : Bool) :
      Issues s (.requestResource workerId resourcePath includeContent)
        (.requestResource workerId resourcePath)
  | recordModelCall {workerId : String} {w : WorkerNode}
      (found : s.workers.get? workerId = some w) (active : w.isActive = true)
      (call : ModelCall) :
      Issues s (.recordModelCall workerId call) (.recordModelCall workerId call)
  | startTask {workerId : String} {w : WorkerNode} (found : s.workers.get? workerId = some w)
      (active : w.isActive = true) (task : String) :
      Issues s (.startTask workerId task) (.startWorker workerId task)
  | completeTask {workerId : String} {w : WorkerNode} (found : s.workers.get? workerId = some w)
      (active : w.isActive = true) (step detail : String) :
      Issues s (.completeTask workerId step detail) (.completeTask workerId step detail .plain)
  | recordArtifact {workerId : String} {w : WorkerNode}
      (found : s.workers.get? workerId = some w) (active : w.isActive = true)
      (id kind summary : String) :
      Issues s (.recordArtifact id workerId kind summary)
        (.recordArtifact id workerId kind summary)
  | reassign {fromWorkerId : String} (registered : s.workers.Has fromWorkerId)
      (toWorker : WorkerSpec) (task : String) {contextArtifactIds : List String}
      (trusted : ∀ artifactId ∈ contextArtifactIds, ∃ artifact,
        s.artifacts.get? artifactId = some artifact ∧ artifact.trusted = true) :
      Issues s (.reassign fromWorkerId toWorker task contextArtifactIds)
        (.reassign fromWorkerId toWorker.id toWorker.role task toWorker.upstream
          toWorker.modelBacked)
  | recordTestRun {workerId : String} {w : WorkerNode}
      (found : s.workers.get? workerId = some w) (active : w.isActive = true) (passed : Bool)
      (summary : String) (exitCode : Int) (command : String) :
      Issues s (.recordTestRun workerId passed summary exitCode command)
        (.recordTestRun workerId passed summary exitCode command)
  | recover (summary : String) : Issues s (.recover summary) (.recover summary)
  | fail (reason : String) : Issues s (.fail reason) (.fail reason)

theorem atomic_publish (drafts : List EventDraft) : Atomic (publish drafts) :=
  fun s => ⟨_, _, publish_run s drafts⟩

theorem atomic_worker (workerId : String) : Atomic (worker workerId) := by
  refine atomic_bind atomic_getState fun self => ?_
  split
  · exact atomic_raise _
  · exact atomic_pure _

theorem atomic_quarantineDrafts (w : WorkerNode) (reason violationType : String)
    (compromisedBy : Option String) :
    Atomic (quarantineDrafts w reason violationType compromisedBy) :=
  fun s => ⟨_, _, quarantineDrafts_run s w reason violationType compromisedBy⟩

theorem atomic_mutate {α : Type} (f : LiveRuntimeSession → LiveRuntimeSession)
    {next : LiveRuntimeSession → Method α} (later : ∀ self, Atomic (next self)) :
    Atomic (modifyState f >>= fun _ => getState >>= next) :=
  atomic_bind (atomic_modifyState f) fun _ => atomic_bind atomic_getState later

theorem atomic_registerWorker (workerId role : String) (upstream : List String)
    (replaces : Option String) (modelBacked : Bool) :
    Atomic (Session.registerWorker workerId role upstream replaces modelBacked) :=
  atomic_mutate _ fun _ => atomic_bind (atomic_modifyState _) fun _ => atomic_publish _

theorem atomic_startWorker (workerId task : String) : Atomic (startWorker workerId task) :=
  atomic_bind (atomic_worker workerId) fun _ =>
    atomic_ite (atomic_raise _) (atomic_mutate _ fun _ => atomic_publish _)

theorem atomic_completeTask (workerId stepName detail : String) (keywords : Keywords) :
    Atomic (Session.completeTask workerId stepName detail keywords) := by
  refine atomic_bind (atomic_worker workerId) fun w =>
    atomic_ite (atomic_raise _) (atomic_mutate _ fun self => ?_)
  cases self.completedDraft workerId stepName detail keywords with
  | ok draft => exact atomic_publish _
  | error error => exact atomic_raise _

theorem atomic_recordModelCall (workerId : String) (call : ModelCall) :
    Atomic (Session.recordModelCall workerId call) :=
  atomic_bind (atomic_worker workerId) fun _ => atomic_mutate _ fun _ => atomic_publish _

theorem atomic_recordArtifact (artifactId workerId kind summary : String) :
    Atomic (Session.recordArtifact artifactId workerId kind summary) :=
  atomic_bind (atomic_worker workerId) fun _ =>
    atomic_bind atomic_getState fun _ =>
      atomic_bind (atomic_modifyState _) fun _ => atomic_pure _

theorem atomic_requestResource (workerId resourcePath : String) :
    Atomic (Session.requestResource workerId resourcePath) := by
  refine atomic_bind (atomic_worker workerId) fun w => atomic_mutate _ fun self => ?_
  apply atomic_ite
  · exact atomic_bind (atomic_publish _) fun _ => atomic_pure _
  · apply atomic_ite
    · exact atomic_bind (atomic_publish _) fun _ => atomic_pure _
    · refine atomic_bind (atomic_quarantineDrafts _ _ _ _) fun drafts => ?_
      exact atomic_bind (atomic_publish _) fun _ => atomic_pure _

theorem atomic_quarantine (workerId reason violationType : String) :
    Atomic (Session.quarantine workerId reason violationType) := by
  refine atomic_bind (atomic_worker workerId) fun w => atomic_ite (atomic_pure []) ?_
  refine atomic_bind (atomic_modifyState _) fun _ => ?_
  exact atomic_bind (atomic_quarantineDrafts _ _ _ _) fun _ => atomic_publish _

theorem atomic_reassign (fromWorkerId toWorkerId role task : String) (upstream : List String)
    (modelBacked : Bool) :
    Atomic (Session.reassign fromWorkerId toWorkerId role task upstream modelBacked) :=
  atomic_bind (atomic_worker fromWorkerId) fun _ =>
    atomic_mutate _ fun _ => atomic_mutate _ fun _ => atomic_publish _

theorem readOnly_assertContextIsTrusted (artifactIds : List String) :
    ReadOnly (assertContextIsTrusted artifactIds) := by
  intro s
  obtain ⟨r, run, _⟩ := assertContextIsTrusted_run s artifactIds
  exact ⟨r, run⟩

theorem atomic_recordTestRun (workerId : String) (passed : Bool) (summary : String)
    (exitCode : Int) (command : String) :
    Atomic (Session.recordTestRun workerId passed summary exitCode command) :=
  atomic_bind (atomic_modifyState _) fun _ => atomic_completeTask _ _ _ _

theorem atomic_recover (summary : String) : Atomic (Session.recover summary) :=
  atomic_mutate _ fun _ => atomic_mutate _ fun _ => atomic_publish _

theorem atomic_fail (reason : String) : Atomic (Session.fail reason) :=
  atomic_mutate _ fun _ => atomic_publish _

theorem answerSummary_readOnly : ReadOnly answerSummary := fun _ => ⟨_, rfl⟩

theorem workerCall_cases (workerId : String) (s : LiveRuntimeSession) :
    s.workers.Has workerId ∧ (workerCall workerId).run s = .done s (.ok ()) ∨
      ∃ e, (workerCall workerId).run s = .done s (.error e) := by
  by_cases registered : s.workers.Has workerId
  · left
    simp [workerCall, registered]
  · right
    simp [workerCall, registered]

theorem activeWorkerCall_cases (workerId : String) (s : LiveRuntimeSession) :
    (∃ w, s.workers.get? workerId = some w ∧ w.isActive = true ∧
      (activeWorkerCall workerId).run s = .done s (.ok ())) ∨
      ∃ e, (activeWorkerCall workerId).run s = .done s (.error e) := by
  rcases workerCall_cases workerId s with ⟨registered, passed⟩ | ⟨e, stopped⟩
  · obtain ⟨w, found⟩ := Table.has_iff_get?.mp registered
    by_cases active : w.isActive = true
    · left
      refine ⟨w, found, active, ?_⟩
      simp [activeWorkerCall, passed, found, active]
    · right
      simp [activeWorkerCall, passed, found, active]
  · right
    simp [activeWorkerCall, stopped]

theorem exec_activeWorkerCall {α : Type} {c : Method α} (atomic : Atomic c)
    (workerId : String) (except : RuntimeError → HttpError)
    {next : α → Handler Response} (reads : ∀ a, ReadOnly (next a)) (s : LiveRuntimeSession) :
    (∃ w, s.workers.get? workerId = some w ∧ w.isActive = true ∧
      exec (activeWorkerCall workerId >>= fun _ => translate except c >>= next) s = exec c s) ∨
      exec (activeWorkerCall workerId >>= fun _ => translate except c >>= next) s = s := by
  rcases activeWorkerCall_cases workerId s with ⟨w, found, active, passed⟩ | ⟨e, stopped⟩
  · left
    refine ⟨w, found, active, ?_⟩
    rw [exec_passed passed, exec_then_readOnly atomic except reads]
  · right
    exact exec_stopped stopped _

theorem readOnly_grantAnswer (disk : Disk) (root : Path) (resourcePath : String)
    (includeContent : Bool) (grant : ResourceGrant) :
    ReadOnly (grantAnswer disk root resourcePath includeContent grant) := by
  intro s
  unfold grantAnswer
  dsimp only
  split
  · split
    · exact ⟨_, rfl⟩
    · split
      · exact ⟨_, rfl⟩
      · exact ⟨_, rfl⟩
  · exact ⟨_, rfl⟩

theorem exec_getExplanation (waits : Nat) (s : LiveRuntimeSession) :
    exec (getExplanation waits) s = s := by
  induction waits with
  | zero => rfl
  | succ waits ih => exact ih

/-- A request leaves the session alone or performs the one operation it issues. -/
theorem handle_effect (disk : Disk) (root : Path) (request : Request) (s : LiveRuntimeSession) :
    exec (handle disk root request) s = s ∨
      ∃ op, Issues s request op ∧ exec (handle disk root request) s = exec (perform op) s := by
  have summarizes : ∀ α : Type, ∀ _ : α, ReadOnly answerSummary :=
    fun _ _ => answerSummary_readOnly
  cases request with
  | registerWorker spec =>
    right
    refine ⟨_, .registerWorker spec, ?_⟩
    have atomic := atomic_registerWorker spec.id spec.role spec.upstream spec.replaces
      spec.modelBacked
    rw [handle, registerWorker, exec_then_readOnly atomic noExcept (summarizes _)]
    exact (exec_dropped _ s).symm
  | requestResource workerId resourcePath includeContent =>
    have atomic := atomic_requestResource workerId resourcePath
    rcases workerCall_cases workerId s with ⟨_, passed⟩ | ⟨e, stopped⟩
    · right
      refine ⟨_, .requestResource workerId resourcePath includeContent, ?_⟩
      rw [handle, requestResource, exec_passed passed,
        exec_then_readOnly atomic _ (readOnly_grantAnswer disk root resourcePath includeContent)]
      exact (exec_dropped _ s).symm
    · left
      exact exec_stopped stopped _
  | recordModelCall workerId call =>
    have atomic := atomic_recordModelCall workerId call
    rcases exec_activeWorkerCall atomic workerId (exceptUnknownWorker 409) (summarizes _) s with
      ⟨w, found, active, performed⟩ | stopped
    · right
      refine ⟨_, .recordModelCall found active call, performed.trans ?_⟩
      exact (exec_dropped _ s).symm
    · left
      exact stopped
  | startTask workerId task =>
    have atomic := atomic_startWorker workerId task
    rcases exec_activeWorkerCall atomic workerId (exceptUnknownWorker 409) (summarizes _) s with
      ⟨w, found, active, performed⟩ | stopped
    · right
      refine ⟨_, .startTask found active task, performed.trans ?_⟩
      exact (exec_dropped _ s).symm
    · left
      exact stopped
  | completeTask workerId step detail =>
    have atomic := atomic_completeTask workerId step detail .plain
    rcases exec_activeWorkerCall atomic workerId (exceptUnknownWorker 409) (summarizes _) s with
      ⟨w, found, active, performed⟩ | stopped
    · right
      refine ⟨_, .completeTask found active step detail, performed.trans ?_⟩
      exact (exec_dropped _ s).symm
    · left
      exact stopped
  | recordArtifact id workerId kind summary =>
    have atomic := atomic_recordArtifact id workerId kind summary
    rcases exec_activeWorkerCall atomic workerId noExcept (summarizes _) s with
      ⟨w, found, active, performed⟩ | stopped
    · right
      refine ⟨_, .recordArtifact found active id kind summary, performed.trans ?_⟩
      exact (exec_dropped _ s).symm
    · left
      exact stopped
  | reassign fromWorkerId toWorker task contextArtifactIds =>
    have atomic := atomic_reassign fromWorkerId toWorker.id toWorker.role task toWorker.upstream
      toWorker.modelBacked
    rcases workerCall_cases fromWorkerId s with ⟨registered, passed⟩ | ⟨e, stopped⟩
    case inr =>
      left
      exact exec_stopped stopped _
    obtain ⟨r, run, accepted⟩ := assertContextIsTrusted_run s contextArtifactIds
    cases r with
    | error e =>
      left
      rw [handle, reassign, exec_passed passed]
      exact exec_stopped (translate_error _ _ run) _
    | ok done =>
      right
      refine ⟨_, .reassign registered toWorker task (accepted rfl), ?_⟩
      rw [handle, reassign, exec_passed passed, exec_passed (translate_ok _ _ run),
        exec_then_readOnly atomic noExcept (summarizes _)]
      exact (exec_dropped _ s).symm
  | recordTestRun workerId passed summary exitCode command =>
    have atomic := atomic_recordTestRun workerId passed summary exitCode command
    rcases exec_activeWorkerCall atomic workerId (exceptUnknownWorker 409) (summarizes _) s with
      ⟨w, found, active, performed⟩ | stopped
    · right
      refine ⟨_, .recordTestRun found active passed summary exitCode command, performed.trans ?_⟩
      exact (exec_dropped _ s).symm
    · left
      exact stopped
  | recover summary =>
    right
    refine ⟨_, .recover summary, ?_⟩
    rw [handle, recover, exec_then_readOnly (atomic_recover summary) noExcept (summarizes _)]
    exact (exec_dropped _ s).symm
  | fail reason =>
    right
    refine ⟨_, .fail reason, ?_⟩
    rw [handle, fail, exec_then_readOnly (atomic_fail reason) noExcept (summarizes _)]
    exact (exec_dropped _ s).symm
  | getSession => exact Or.inl rfl
  | getSessionEvents sinceSeq =>
    left
    simp only [handle, getSessionEvents, exec, bind_apply, getState_apply, bind_ok]
    split <;> rfl
  | getSessionSnapshot => exact Or.inl rfl
  | getExplanation waits => exact Or.inl (exec_getExplanation waits s)

/-- The rule for runs of requests: what every issued operation keeps, as long as its request
    meets a condition, holds to the end, and none of the events added is of a kind that
    no such operation publishes. -/
theorem requests_keep (disk : Disk) (root : Path) (inv : LiveRuntimeSession → Prop)
    (meets : LiveRuntimeSession → Request → Prop) (excluded : EventDraft → Prop)
    (step : ∀ s request op body drafts, inv s → meets s request → Issues s request op →
      Effect s op body drafts → inv (body.published drafts) ∧ ∀ d ∈ drafts, ¬ excluded d)
    {s : LiveRuntimeSession} (start : inv s) (requests : List Request)
    (all : ∀ first request rest, requests = first ++ request :: rest →
      meets (serial (handle disk root) s first) request) :
    inv (serial (handle disk root) s requests) ∧
      ∃ events, (serial (handle disk root) s requests).log = s.log ++ events ∧
        ∀ e ∈ events, ¬ excluded e.toEventDraft := by
  apply @serial_guarded _ _ _ _ (handle disk root)
    (fun s' => inv s' ∧ ∃ events, s'.log = s.log ++ events ∧
      ∀ e ∈ events, ¬ excluded e.toEventDraft) meets s ⟨start, [], by simp, by simp⟩
    ?_ requests all
  rintro request s' ⟨holds, events, grown, silent⟩ meet
  rcases handle_effect disk root request s' with same | ⟨op, issues, performed⟩
  · rw [same]
    exact ⟨holds, events, grown, silent⟩
  · obtain ⟨body, drafts, effect, ended⟩ := perform_effect op s'
    obtain ⟨kept, quiet⟩ := step s' request op body drafts holds meet issues effect
    obtain ⟨more, longer, drafted⟩ := effect_appends effect
    rw [performed, ended]
    refine ⟨kept, events ++ more, ?_, ?_⟩
    · rw [longer, grown, List.append_assoc]
    · intro e member
      rcases List.mem_append.mp member with old | new
      · exact silent e old
      · exact quiet _ (drafted e new)

theorem atomic_answer {α : Type} {c : Method α} (atomic : Atomic c)
    (except : RuntimeError → HttpError) {next : α → Handler Response}
    (reads : ∀ a, ReadOnly (next a)) : Atomic (translate except c >>= next) :=
  atomic_bind (atomic_translate except atomic) fun a => readOnly_atomic (reads a)

theorem atomic_workerCall (workerId : String) : Atomic (workerCall workerId) :=
  atomic_bind atomic_getState fun _ => atomic_ite (atomic_pure ()) (atomic_raise _)

theorem atomic_activeWorkerCall (workerId : String) : Atomic (activeWorkerCall workerId) := by
  refine atomic_bind (atomic_workerCall workerId) fun _ =>
    atomic_bind atomic_getState fun session => ?_
  split
  · exact atomic_pure ()
  · exact atomic_ite (atomic_raise _) (atomic_pure ())

theorem getExplanation_leaves (waits : Nat) (s : LiveRuntimeSession) :
    ((getExplanation waits).run s).Leaves s := by
  induction waits generalizing s with
  | zero => exact .done s _
  | succ waits ih => exact .suspended s _ ih

theorem handle_prompt (disk : Disk) (root : Path) (request : Request) :
    Prompt (handle disk root request) := by
  have summarizes : ∀ α : Type, ∀ _ : α, ReadOnly answerSummary :=
    fun _ _ => answerSummary_readOnly
  cases request with
  | registerWorker spec =>
    exact atomic_prompt (atomic_answer (atomic_registerWorker _ _ _ _ _) _ (summarizes _))
  | requestResource workerId resourcePath includeContent =>
    refine atomic_prompt (atomic_bind (atomic_workerCall workerId) fun _ => ?_)
    exact atomic_answer (atomic_requestResource _ _) _
      (readOnly_grantAnswer disk root resourcePath includeContent)
  | recordModelCall workerId call =>
    refine atomic_prompt (atomic_bind (atomic_activeWorkerCall workerId) fun _ => ?_)
    exact atomic_answer (atomic_recordModelCall _ _) _ (summarizes _)
  | startTask workerId task =>
    refine atomic_prompt (atomic_bind (atomic_activeWorkerCall workerId) fun _ => ?_)
    exact atomic_answer (atomic_startWorker _ _) _ (summarizes _)
  | completeTask workerId step detail =>
    refine atomic_prompt (atomic_bind (atomic_activeWorkerCall workerId) fun _ => ?_)
    exact atomic_answer (atomic_completeTask _ _ _ _) _ (summarizes _)
  | recordArtifact id workerId kind summary =>
    refine atomic_prompt (atomic_bind (atomic_activeWorkerCall workerId) fun _ => ?_)
    exact atomic_answer (atomic_recordArtifact _ _ _ _) _ (summarizes _)
  | reassign fromWorkerId toWorker task contextArtifactIds =>
    refine atomic_prompt (atomic_bind (atomic_workerCall fromWorkerId) fun _ => ?_)
    refine atomic_bind (atomic_translate _
      (readOnly_atomic (readOnly_assertContextIsTrusted contextArtifactIds))) fun _ => ?_
    exact atomic_answer (atomic_reassign _ _ _ _ _ _) _ (summarizes _)
  | recordTestRun workerId passed summary exitCode command =>
    refine atomic_prompt (atomic_bind (atomic_activeWorkerCall workerId) fun _ => ?_)
    exact atomic_answer (atomic_recordTestRun _ _ _ _ _) _ (summarizes _)
  | recover summary => exact atomic_prompt (atomic_answer (atomic_recover _) _ (summarizes _))
  | fail reason => exact atomic_prompt (atomic_answer (atomic_fail _) _ (summarizes _))
  | getSession => exact atomic_prompt (readOnly_atomic answerSummary_readOnly)
  | getSessionEvents sinceSeq =>
    refine atomic_prompt (atomic_bind atomic_getState fun session => ?_)
    split
    · exact atomic_raise _
    · exact atomic_pure _
  | getSessionSnapshot => exact atomic_prompt (atomic_bind atomic_getState fun _ => atomic_pure _)
  | getExplanation waits =>
    intro s
    cases waits with
    | zero => trivial
    | succ waits => exact getExplanation_leaves waits

inductive Call where
  | request (request : Request)
  | operation (op : Operation)

def call (disk : Disk) (root : Path) : Call → Handler Unit
  | .request request => do let _ ← handle disk root request
  | .operation op => translate noExcept (perform op)

theorem atomic_perform (op : Operation) : Atomic (perform op) := by
  cases op with
  | assertContextIsTrusted artifactIds =>
    exact readOnly_atomic (readOnly_assertContextIsTrusted artifactIds)
  | registerWorker =>
    exact atomic_bind (atomic_registerWorker _ _ _ _ _) fun _ => atomic_pure ()
  | startWorker => exact atomic_bind (atomic_startWorker _ _) fun _ => atomic_pure ()
  | completeTask => exact atomic_bind (atomic_completeTask _ _ _ _) fun _ => atomic_pure ()
  | recordModelCall => exact atomic_bind (atomic_recordModelCall _ _) fun _ => atomic_pure ()
  | recordArtifact => exact atomic_bind (atomic_recordArtifact _ _ _ _) fun _ => atomic_pure ()
  | requestResource => exact atomic_bind (atomic_requestResource _ _) fun _ => atomic_pure ()
  | quarantine => exact atomic_bind (atomic_quarantine _ _ _) fun _ => atomic_pure ()
  | reassign => exact atomic_bind (atomic_reassign _ _ _ _ _ _) fun _ => atomic_pure ()
  | recordTestRun => exact atomic_bind (atomic_recordTestRun _ _ _ _ _) fun _ => atomic_pure ()
  | recover => exact atomic_bind (atomic_recover _) fun _ => atomic_pure ()
  | fail => exact atomic_bind (atomic_fail _) fun _ => atomic_pure ()

theorem call_prompt (disk : Disk) (root : Path) (c : Call) : Prompt (call disk root c) := by
  cases c with
  | request request => exact prompt_dropped (handle_prompt disk root request)
  | operation op => exact atomic_prompt (atomic_translate _ (atomic_perform op))

theorem request_effect (disk : Disk) (root : Path) (request : Request)
    (s : LiveRuntimeSession) :
    ∃ op body drafts, Effect s op body drafts ∧
      exec (handle disk root request) s = body.published drafts := by
  rcases handle_effect disk root request s with same | ⟨op, _, performed⟩
  · exact ⟨.fail "", s, [], .unchanged _, same⟩
  · obtain ⟨body, drafts, effect, ended⟩ := perform_effect op s
    exact ⟨op, body, drafts, effect, performed.trans ended⟩

/-- Whatever is called, it ends in an effect of some operation. -/
theorem call_effect (disk : Disk) (root : Path) (c : Call) (s : LiveRuntimeSession) :
    ∃ op body drafts, Effect s op body drafts ∧
      exec (call disk root c) s = body.published drafts := by
  cases c with
  | request request =>
    rw [call, exec_dropped]
    exact request_effect disk root request s
  | operation op =>
    obtain ⟨body, drafts, effect, ended⟩ := perform_effect op s
    refine ⟨op, body, drafts, effect, ?_⟩
    rw [← ended, call]
    exact exec_translate noExcept (perform op) s

theorem serial_call_invariant (inv : LiveRuntimeSession → Prop) {s : LiveRuntimeSession}
    (start : inv s)
    (preserved : ∀ s op body drafts, inv s → Effect s op body drafts →
      inv (body.published drafts)) (disk : Disk) (root : Path) (calls : List Call) :
    inv (serial (call disk root) s calls) := by
  refine serial_invariant start (fun c s holds => ?_) calls
  obtain ⟨op, body, drafts, effect, ended⟩ := call_effect disk root c s
  rw [ended]
  exact preserved s op body drafts holds effect

/-- What every effect preserves holds in every interleaving of calls. -/
theorem reachable_call_invariant (inv : LiveRuntimeSession → Prop) {s : LiveRuntimeSession}
    (start : inv s)
    (preserved : ∀ s op body drafts, inv s → Effect s op body drafts →
      inv (body.published drafts)) {disk : Disk} {root : Path}
    {c : Config LiveRuntimeSession HttpError Unit} (reach : Reachable (call disk root) s c) :
    inv c.state := by
  obtain ⟨calls, state⟩ := prompt_serializes (call_prompt disk root) reach
  rw [state]
  exact serial_call_invariant inv start preserved disk root calls

end AgentShield.Routes
