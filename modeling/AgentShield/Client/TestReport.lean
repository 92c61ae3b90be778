import AgentShield.Client.Verdict
import AgentShield.Runtime.Requests

/-!
The test result on the screen against the session's: the session keeps it in two fields, the
screen reads it off the completed tasks of the log.
-/
namespace AgentShield.Client
open Schema Events Keyed Coop Session LiveRuntimeSession Routes Resources

def TestsAgree (s : LiveRuntimeSession) : Prop :=
  (deriveVerdict s.log).testsPassed = s.testsPassed ∧
    (deriveVerdict s.log).testSummary = truthy s.testSummary

def Untested (event : Event) : Prop :=
  event.eventType = .taskCompleted → str event.metadata "step" ≠ some "pytest"

theorem judge_untested (verdict : DemoVerdict) {event : Event} (untested : Untested event) :
    (judge verdict event).testsPassed = verdict.testsPassed ∧
      (judge verdict event).testSummary = verdict.testSummary := by
  unfold judge
  dsimp only
  split
  · exact ⟨rfl, rfl⟩
  · exact ⟨rfl, rfl⟩
  · split
    · exact ⟨rfl, rfl⟩
    · exact ⟨rfl, rfl⟩
  · rename_i type
    split
    · exact ⟨rfl, rfl⟩
    · rename_i step named
      have other : step ≠ "pytest" := by
        rintro rfl
        exact untested type named
      rw [if_neg other]
      exact ⟨rfl, rfl⟩
  · exact ⟨rfl, rfl⟩
  · exact ⟨rfl, rfl⟩

theorem judge_tested (verdict : DemoVerdict) {event : Event}
    (type : event.eventType = .taskCompleted) (step : str event.metadata "step" = some "pytest") :
    (judge verdict event).testsPassed =
        some (decide (metadataGet event.metadata "passed" = some (.bool true))) ∧
      (judge verdict event).testSummary = str event.metadata "detail" := by
  unfold judge
  simp only [type, step, ↓reduceIte, and_self]

theorem verdict_untested (log : List Event) {events : List Event}
    (untested : ∀ event ∈ events, Untested event) :
    (deriveVerdict (log ++ events)).testsPassed = (deriveVerdict log).testsPassed ∧
      (deriveVerdict (log ++ events)).testSummary = (deriveVerdict log).testSummary := by
  unfold deriveVerdict
  rw [List.foldl_append]
  generalize log.foldl judge emptyVerdict = verdict
  induction events generalizing verdict with
  | nil => exact ⟨rfl, rfl⟩
  | cons event rest ih =>
    obtain ⟨passed, summary⟩ := judge_untested verdict (untested event List.mem_cons_self)
    obtain ⟨passed', summary'⟩ :=
      ih (fun e later => untested e (List.mem_cons_of_mem event later)) (judge verdict event)
    exact ⟨passed'.trans passed, summary'.trans summary⟩

def Tests : Operation → Prop
  | .completeTask _ _ _ _ => True
  | .recordTestRun _ _ _ _ _ => True
  | _ => False

theorem effect_untested {s body : LiveRuntimeSession} {op : Operation} {drafts : List EventDraft}
    (effect : Effect s op body drafts) (other : ¬ Tests op) :
    body.testsPassed = s.testsPassed ∧ body.testSummary = s.testSummary ∧
      ∀ draft ∈ drafts, draft.eventType ≠ .taskCompleted := by
  cases effect with
  | completed => exact absurd trivial other
  | undrafted => exact absurd trivial other
  | testRejected => exact absurd trivial other
  | tested => exact absurd trivial other
  | recovered summary =>
    refine ⟨rfl, rfl, forall_recovered (fun w => ?_) ?_⟩
    · simp
    · simp [recoveredDraft]
  | unchanged => exact ⟨rfl, rfl, List.forall_mem_nil _⟩
  | recorded => exact ⟨rfl, rfl, List.forall_mem_nil _⟩
  | registered => exact ⟨rfl, rfl, by simp⟩
  | started => exact ⟨rfl, rfl, by simp⟩
  | called => exact ⟨rfl, rfl, by simp⟩
  | refused => exact ⟨rfl, rfl, by simp [requestedDraft]⟩
  | served => exact ⟨rfl, rfl, by simp [requestedDraft]⟩
  | denied => exact ⟨rfl, rfl, by simp [requestedDraft, denyDrafts, quarantinedDraft]⟩
  | quarantined => exact ⟨rfl, rfl, by simp [quarantinedDraft]⟩
  | reassigned => exact ⟨rfl, rfl, by simp [reassignedDrafts]⟩
  | failed => exact ⟨rfl, rfl, by simp [stoppedDraft]⟩

theorem agree_untested {s body : LiveRuntimeSession} {op : Operation} {drafts : List EventDraft}
    (effect : Effect s op body drafts) (passed : body.testsPassed = s.testsPassed)
    (summary : body.testSummary = s.testSummary)
    (untested : ∀ draft ∈ drafts, draft.eventType = .taskCompleted →
      str draft.metadata "step" ≠ some "pytest") (agree : TestsAgree s) :
    TestsAgree (body.published drafts) := by
  obtain ⟨events, log, drafted⟩ := effect_appends effect
  have silent : ∀ event ∈ events, Untested event :=
    fun event member => untested _ (drafted event member)
  obtain ⟨same, same'⟩ := verdict_untested s.log silent
  unfold TestsAgree
  rw [log, same, same']
  exact ⟨agree.1.trans passed.symm, agree.2.trans (congrArg truthy summary).symm⟩

theorem agree_completed {s body : LiveRuntimeSession} {op : Operation} {draft : EventDraft}
    (effect : Effect s op body [draft]) (type : draft.eventType = .taskCompleted)
    (step : str draft.metadata "step" = some "pytest") :
    TestsAgree (body.published [draft]) ↔
      some (decide (metadataGet draft.metadata "passed" = some (.bool true))) = body.testsPassed ∧
        str draft.metadata "detail" = truthy body.testSummary := by
  let event : Event :=
    { draft with seq := s.emitter.nextSeq, experimentId := s.emitter.experimentId }
  have one : number s.emitter.experimentId s.emitter.nextSeq [draft] = [event] := rfl
  have completed : event.eventType = .taskCompleted := type
  obtain ⟨passed, summary⟩ := judge_tested (s.log.foldl judge emptyVerdict) completed step
  unfold TestsAgree
  rw [effect_log effect, one]
  unfold deriveVerdict
  rw [List.foldl_append, List.foldl_cons, List.foldl_nil, passed, summary]
  exact Iff.rfl

def Acts (s : LiveRuntimeSession) (workerId : String) : Prop :=
  ∃ w, s.workers.get? workerId = some w ∧ w.isActive = true

/-- The generic completion of a step called pytest reports a failed run with its detail: only
    where the session already has just that does it not contradict it. -/
def ReportsAsKept (s : LiveRuntimeSession) : Request → Prop
  | .completeTask workerId step detail => step = "pytest" → Acts s workerId →
      s.testsPassed = some false ∧ truthy s.testSummary = truthy (some detail)
  | _ => True

theorem recordTestRun_run {s : LiveRuntimeSession} {workerId : String} {w : WorkerNode}
    (found : s.workers.get? workerId = some w) (active : w.isActive = true) (passed : Bool)
    (summary : String) (exitCode : Int) (command : String) :
    ∃ r, (Session.recordTestRun workerId passed summary exitCode command).run s =
      .done (((s.tested passed summary).advanced.withWorker
        { w with currentTask := none }).published [s.advanced.draft .taskCompleted workerId
          ([("step", .str "pytest"), ("detail", .str summary)] ++ [("passed", .bool passed),
            ("exit_code", .int exitCode), ("command", .str command)])]) (.ok r) :=
  completeTask_run (s := s.tested passed summary) found active
    (completedDraft_testRun _ workerId summary passed exitCode command)

theorem str_text {step detail : String} {metadata : Metadata} {text : String}
    (named : str ([("step", .str step), ("detail", .str detail)] ++ metadata) "step" = some text) :
    step = text := by
  change truthy (some step) = some text at named
  unfold truthy at named
  split at named
  · cases named
  · exact Option.some.inj named

theorem active_route {α : Type} {c : Method α} (atomic : Atomic c) {workerId : String}
    (except : RuntimeError → HttpError) (s : LiveRuntimeSession) :
    let route := activeWorkerCall workerId >>= fun _ => translate except c >>= fun _ => answerSummary
    Acts s workerId ∧ exec route s = exec c s ∨ ¬ Acts s workerId ∧ exec route s = s := by
  rcases activeWorkerCall_cases workerId s with ⟨w, found, active, passed⟩ | ⟨e, stopped⟩
  · left
    refine ⟨⟨w, found, active⟩, ?_⟩
    rw [exec_passed passed, exec_then_readOnly atomic except fun _ => answerSummary_readOnly]
  · right
    refine ⟨?_, exec_stopped stopped _⟩
    rintro ⟨w, found, active⟩
    have has : s.workers.Has workerId := Table.has_iff_get?.mpr ⟨w, found⟩
    simp [activeWorkerCall, workerCall, has, found, active] at stopped

theorem agree_handle {disk : Disk} {root : Path} {s : LiveRuntimeSession} (agree : TestsAgree s)
    (request : Request) :
    TestsAgree (exec (handle disk root request) s) ↔ ReportsAsKept s request := by
  have others : (∀ op, Issues s request op → ¬ Tests op) →
      TestsAgree (exec (handle disk root request) s) := by
    intro untested
    rcases handle_effect disk root request s with same | ⟨op, issues, performed⟩
    · rwa [same]
    · obtain ⟨body, drafts, effect, ended⟩ := perform_effect op s
      obtain ⟨passed, summary, silent⟩ := effect_untested effect (untested op issues)
      rw [performed, ended]
      exact agree_untested effect passed summary
        (fun draft member type => absurd type (silent draft member)) agree
  cases request with
  | completeTask workerId step detail =>
    rcases active_route (atomic_completeTask workerId step detail .plain) (exceptUnknownWorker 409) s
      with ⟨acts, performed⟩ | ⟨refused, same⟩
    · obtain ⟨w, found, active⟩ := acts
      obtain ⟨r, run⟩ := completeTask_run found active
        (completedDraft_plain s.advanced workerId step detail)
      rw [handle, Routes.completeTask, performed, atomic_exec run]
      have effect := Effect.completed found active
        (completedDraft_plain s.advanced workerId step detail)
      by_cases pytest : step = "pytest"
      · subst pytest
        rw [agree_completed effect rfl rfl]
        constructor
        · rintro ⟨passed, summary⟩ _ _
          exact ⟨passed.symm, summary.symm⟩
        · intro kept
          obtain ⟨passed, summary⟩ := kept rfl ⟨w, found, active⟩
          exact ⟨passed.symm, summary.symm⟩
      · apply iff_of_true (agree_untested effect rfl rfl _ agree) fun same => absurd same pytest
        intro draft member _ named
        obtain rfl := List.mem_singleton.mp member
        exact pytest (str_text named)
    · rw [handle, Routes.completeTask, same]
      exact iff_of_true agree fun _ acts => absurd acts refused
  | recordTestRun workerId passed summary exitCode command =>
    refine iff_of_true ?_ trivial
    rcases active_route (atomic_recordTestRun workerId passed summary exitCode command)
      (exceptUnknownWorker 409) s with ⟨⟨w, found, active⟩, performed⟩ | ⟨_, same⟩
    · obtain ⟨r, run⟩ := recordTestRun_run found active passed summary exitCode command
      rw [handle, Routes.recordTestRun, performed, atomic_exec run]
      apply (agree_completed (.tested found active passed summary exitCode command) rfl rfl).mpr
      refine ⟨?_, rfl⟩
      cases passed
      · rfl
      · rfl
    · rwa [handle, Routes.recordTestRun, same]
  | _ =>
    refine iff_of_true (others ?_) trivial
    intro op issues
    cases issues <;> exact id

/-- The screen shows the session's own result throughout a run exactly if every completion of a
    step called pytest that a route accepts reports what the session has. -/
theorem screen_shows_the_tests_iff (disk : Disk) (root : Path) (sessionId : Uuid)
    (objective : String) (requests : List Request) :
    let run := serial (handle disk root) (LiveRuntimeSession.new sessionId objective)
    (∀ before after, requests = before ++ after → TestsAgree (run before)) ↔
      ∀ before request after, requests = before ++ request :: after →
        ReportsAsKept (run before) request := by
  intro run
  constructor
  · intro agree before request after split
    have here := agree before (request :: after) split
    have next := agree (before ++ [request]) after (by rw [split, List.append_assoc]; rfl)
    have last : run (before ++ [request]) = exec (handle disk root request) (run before) :=
      serial_concat _ _ before request
    rw [last] at next
    exact (agree_handle here request).mp next
  · rintro kept before after rfl
    have start : TestsAgree (LiveRuntimeSession.new sessionId objective) := ⟨rfl, rfl⟩
    apply serial_guarded start
      (fun request s agree meets => (agree_handle agree request).mpr meets) before
    rintro first request rest rfl
    exact kept first request (rest ++ after) (by rw [List.append_assoc]; rfl)

def claimedTests : LiveRuntimeSession :=
  serial (handle (fun _ => none) []) (LiveRuntimeSession.new 0 "objective")
    [.registerWorker { id := "developer", role := "Developer" },
      .completeTask "developer" "pytest" "12 passed"]

/-- No test run was reported to the session, and the screen shows a failed one. -/
theorem claimed_tests_are_shown :
    claimedTests.log.length < eventLogCap ∧ claimedTests.testsPassed = none ∧
      claimedTests.testSummary = none ∧
      (deriveVerdict claimedTests.log).testsPassed = some false ∧
      (deriveVerdict claimedTests.log).testSummary = some "12 passed" := by
  decide

end AgentShield.Client
