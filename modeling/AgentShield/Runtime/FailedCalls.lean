import AgentShield.Runtime.Requests

/-!
What a call of the session leaves behind when it raises. Every operation checks before it
writes, except the record of a test run and the draft of a completed task.
-/
namespace AgentShield.FailedCalls
open Schema Events Keyed Policy Coop Session LiveRuntimeSession

/-- The call raises an `UnknownWorkerError` or a `ValueError`. -/
def Raises (op : Operation) (s : LiveRuntimeSession) : Prop :=
  ∃ s' error, error ≠ .givenTwice ∧ (perform op).run s = .done s' (.error error)

/-- The call succeeds, or raises in the state it began in. -/
def Settled {α : Type} (c : Method α) (s : LiveRuntimeSession) : Prop :=
  (∃ s' a, c.run s = .done s' (.ok a)) ∨ ∃ error, c.run s = .done s (.error error)

theorem dropped_ok {α : Type} {c : Method α} {s s' : LiveRuntimeSession} {a : α}
    (run : c.run s = .done s' (.ok a)) :
    ((do let _ ← c) : Method Unit).run s = .done s' (.ok ()) := by
  rw [bind_apply, run, bind_ok]
  rfl

theorem settled_dropped {α : Type} {c : Method α} {s : LiveRuntimeSession} (settled : Settled c s) :
    Settled (do let _ ← c) s := by
  rcases settled with ⟨s', a, run⟩ | ⟨error, run⟩
  · exact Or.inl ⟨s', (), dropped_ok run⟩
  · right
    refine ⟨error, ?_⟩
    rw [bind_apply, run, bind_error]

theorem settled_worker {α : Type} {workerId : String} {next : WorkerNode → Method α}
    {s : LiveRuntimeSession}
    (found : ∀ w, s.workers.get? workerId = some w → Settled (worker workerId >>= next) s) :
    Settled (worker workerId >>= next) s := by
  cases known : s.workers.get? workerId with
  | none =>
    right
    refine ⟨.unknownWorker workerId, ?_⟩
    rw [bind_apply, worker_missing known, bind_error]
  | some w => exact found w known

/-- The operation writes before its last check. -/
def WritesFirst : Operation → Prop
  | .completeTask _ _ _ _ => True
  | .recordTestRun _ _ _ _ _ => True
  | _ => False

theorem perform_settled {op : Operation} (other : ¬ WritesFirst op) (s : LiveRuntimeSession) :
    Settled (perform op) s := by
  cases op with
  | registerWorker workerId role upstream replaces modelBacked =>
    obtain ⟨r, run⟩ := registerWorker_run s workerId role upstream replaces modelBacked
    exact settled_dropped (Or.inl ⟨_, r, run⟩)
  | startWorker workerId task =>
    apply settled_dropped
    apply settled_worker
    intro w found
    cases active : w.isActive with
    | false => exact Or.inr ⟨_, startWorker_inactive found active task⟩
    | true =>
      obtain ⟨r, run⟩ := startWorker_run found active task
      exact Or.inl ⟨_, r, run⟩
  | completeTask => exact absurd trivial other
  | recordModelCall workerId call =>
    apply settled_dropped
    apply settled_worker
    intro w found
    obtain ⟨r, run⟩ := recordModelCall_run found call
    exact Or.inl ⟨_, r, run⟩
  | recordArtifact artifactId workerId kind summary =>
    apply settled_dropped
    apply settled_worker
    intro w found
    obtain ⟨r, run⟩ := recordArtifact_run found artifactId kind summary
    exact Or.inl ⟨_, r, run⟩
  | requestResource workerId resourcePath =>
    apply settled_dropped
    apply settled_worker
    intro w found
    cases active : w.isActive with
    | false =>
      obtain ⟨r, run, _⟩ := requestResource_removed found active resourcePath
      exact Or.inl ⟨_, r, run⟩
    | true =>
      cases allowed : (evaluate (.text resourcePath)).allowed with
      | true =>
        obtain ⟨r, run, _⟩ := requestResource_served found active allowed
        exact Or.inl ⟨_, r, run⟩
      | false =>
        obtain ⟨r, run, _⟩ := requestResource_denied found active allowed
        exact Or.inl ⟨_, r, run⟩
  | quarantine workerId reason violationType =>
    apply settled_dropped
    apply settled_worker
    intro w found
    cases active : w.isActive with
    | false => exact Or.inl ⟨_, _, quarantine_inactive found active reason violationType⟩
    | true =>
      obtain ⟨r, run⟩ := quarantine_run found active reason violationType
      exact Or.inl ⟨_, r, run⟩
  | reassign fromWorkerId toWorkerId role task upstream modelBacked =>
    apply settled_dropped
    apply settled_worker
    intro w found
    obtain ⟨r, run⟩ := reassign_run found toWorkerId role task upstream modelBacked
    exact Or.inl ⟨_, r, run⟩
  | assertContextIsTrusted artifactIds =>
    obtain ⟨r, run, _⟩ := assertContextIsTrusted_run s artifactIds
    cases r with
    | ok done => exact Or.inl ⟨s, done, run⟩
    | error error => exact Or.inr ⟨error, run⟩
  | recordTestRun => exact absurd trivial other
  | recover summary =>
    obtain ⟨r, run⟩ := recover_run s summary
    exact settled_dropped (Or.inl ⟨_, r, run⟩)
  | fail reason =>
    obtain ⟨r, run⟩ := fail_run s reason
    exact settled_dropped (Or.inl ⟨_, r, run⟩)

theorem settled_unchanged {op : Operation} {s : LiveRuntimeSession} (settled : Settled (perform op) s)
    (raises : Raises op s) : exec (perform op) s = s := by
  obtain ⟨s', error, _, run⟩ := raises
  rcases settled with ⟨s'', a, succeeds⟩ | ⟨error', fails⟩
  · rw [succeeds] at run
    cases run
  · exact atomic_exec fails

/-- pydantic takes every keyword for its field. -/
structure Accepted (keywords : Keywords) : Prop where
  source : keywords.sourceAgentId.isSome
  target : keywords.targetAgentId.isSome
  risk : keywords.riskScore.isSome
  rest : ∀ entry ∈ keywords.rest, entry.2.isSome

theorem metadata_isSome (keywords : Keywords) :
    keywords.metadata.isSome ↔ ∀ entry ∈ keywords.rest, entry.2.isSome := by
  unfold Keywords.metadata
  induction keywords.rest with
  | nil => simp
  | cons entry rest ih =>
    rw [List.forall_mem_cons, ← ih, List.mapM_cons]
    cases entry.2 with
    | none => simp
    | some value => simp [Option.isSome_bind]

theorem completedDraft_cases (s : LiveRuntimeSession) (workerId stepName detail : String)
    {keywords : Keywords} (once : keywords.givenTwice = false) :
    (∃ draft, s.completedDraft workerId stepName detail keywords = .ok draft) ∧
        Accepted keywords ∨
      s.completedDraft workerId stepName detail keywords = .error .invalidDraft ∧
        ¬ Accepted keywords := by
  unfold completedDraft
  rw [once, if_neg Bool.false_ne_true]
  split
  · rename_i source target risk rest
    left
    refine ⟨⟨_, rfl⟩, ?_, ?_, ?_, ?_⟩
    · rw [source]; rfl
    · rw [target]; rfl
    · rw [risk]; rfl
    · rw [← metadata_isSome, rest]; rfl
  · rename_i refused
    right
    refine ⟨rfl, fun accepted => ?_⟩
    obtain ⟨source, hasSource⟩ := Option.isSome_iff_exists.mp accepted.source
    obtain ⟨target, hasTarget⟩ := Option.isSome_iff_exists.mp accepted.target
    obtain ⟨risk, hasRisk⟩ := Option.isSome_iff_exists.mp accepted.risk
    obtain ⟨rest, hasRest⟩ :=
      Option.isSome_iff_exists.mp ((metadata_isSome keywords).mpr accepted.rest)
    exact refused _ _ _ _ hasSource hasTarget hasRisk hasRest

theorem completedDraft_twice (s : LiveRuntimeSession) (workerId stepName detail : String)
    {keywords : Keywords} (twice : keywords.givenTwice = true) :
    s.completedDraft workerId stepName detail keywords = .error .givenTwice := by
  rw [completedDraft, if_pos twice]

theorem undrafted_changes (s : LiveRuntimeSession) (w : WorkerNode) :
    s.advanced.withWorker w ≠ s := by
  intro same
  have counted : s.step + 1 = s.step := congrArg LiveRuntimeSession.step same
  omega

theorem completeTask_settled {s : LiveRuntimeSession} {workerId : String}
    (idle : ¬ ∃ w, s.workers.get? workerId = some w ∧ w.isActive = true)
    (stepName detail : String) (keywords : Keywords) :
    Settled (perform (.completeTask workerId stepName detail keywords)) s := by
  apply settled_dropped
  apply settled_worker
  intro w found
  have inactive : w.isActive = false := by
    by_contra active
    exact idle ⟨w, found, by simpa using active⟩
  exact Or.inr ⟨_, completeTask_inactive found inactive stepName detail keywords⟩

section
variable (workerId : String) (passed : Bool) (summary : String) (exitCode : Int)
  (command : String) (s : LiveRuntimeSession)

theorem recordTestRun_settled :
    (∃ s', (perform (.recordTestRun workerId passed summary exitCode command)).run s =
        .done s' (.ok ())) ∧ (∃ w, s.workers.get? workerId = some w ∧ w.isActive = true) ∨
      ∃ error, error ≠ .givenTwice ∧
        (perform (.recordTestRun workerId passed summary exitCode command)).run s =
          .done (s.tested passed summary) (.error error) ∧
        ¬ ∃ w, s.workers.get? workerId = some w ∧ w.isActive = true := by
  have first : (recordTestRun workerId passed summary exitCode command).run s =
      (completeTask workerId "pytest" summary (testRunKeywords passed exitCode command)).run
        (s.tested passed summary) := rfl
  cases known : s.workers.get? workerId with
  | none =>
    right
    have missing : (s.tested passed summary).workers.get? workerId = none := known
    refine ⟨.unknownWorker workerId, by simp, ?_, by simp⟩
    rw [perform, bind_apply, first, completeTask, bind_apply, worker_missing missing, bind_error,
      bind_error]
  | some w =>
    have found : (s.tested passed summary).workers.get? workerId = some w := known
    cases active : w.isActive with
    | false =>
      right
      refine ⟨.unknownWorker (workerId ++ " is quarantined; its work is not accepted"), by simp,
        ?_, by simp [active]⟩
      rw [perform, bind_apply, first, completeTask_inactive found active, bind_error]
    | true =>
      left
      obtain ⟨r, run⟩ := completeTask_run found active
        (completedDraft_testRun _ workerId summary passed exitCode command)
      exact ⟨⟨_, dropped_ok (first.trans run)⟩, w, rfl, active⟩

theorem tested_same_iff : s.tested passed summary = s ↔
    s.testSummary = some summary ∧ s.testsPassed = some passed := by
  constructor
  · intro same
    rw [← same]
    exact ⟨rfl, rfl⟩
  · rintro ⟨noted, verdict⟩
    unfold LiveRuntimeSession.tested
    rw [← noted, ← verdict]

end

/-- A test run is recorded for an active worker, or says what the session says already, and
    what an active worker completes comes with keywords that make a draft: one keyword given
    twice is neither of the two errors. -/
def CheckedFirst (s : LiveRuntimeSession) : Operation → Prop
  | .recordTestRun workerId passed summary _ _ =>
    (∃ w, s.workers.get? workerId = some w ∧ w.isActive = true) ∨
      s.testSummary = some summary ∧ s.testsPassed = some passed
  | .completeTask workerId _ _ keywords =>
    (∃ w, s.workers.get? workerId = some w ∧ w.isActive = true) →
      keywords.givenTwice = true ∨ Accepted keywords
  | _ => True

theorem completeTask_unchanged_iff (s : LiveRuntimeSession) (workerId stepName detail : String)
    (keywords : Keywords) :
    (Raises (.completeTask workerId stepName detail keywords) s →
      exec (perform (.completeTask workerId stepName detail keywords)) s = s) ↔
    CheckedFirst s (.completeTask workerId stepName detail keywords) := by
  by_cases acts : ∃ w, s.workers.get? workerId = some w ∧ w.isActive = true
  · obtain ⟨w, found, active⟩ := acts
    have refuses : ∀ error,
        s.advanced.completedDraft workerId stepName detail keywords = .error error →
        (perform (.completeTask workerId stepName detail keywords)).run s =
          .done (s.advanced.withWorker { w with currentTask := none }) (.error error) := by
      intro error refused
      rw [perform, bind_apply, completeTask_undrafted found active refused, bind_error]
    cases twice : keywords.givenTwice with
    | true =>
      refine iff_of_true ?_ fun _ => Or.inl twice
      rintro ⟨s', error, value, raised⟩
      rw [refuses _ (completedDraft_twice s.advanced workerId stepName detail twice)] at raised
      cases raised
      exact absurd rfl value
    | false =>
      rcases completedDraft_cases s.advanced workerId stepName detail twice with
        ⟨⟨draft, made⟩, accepted⟩ | ⟨refused, invalid⟩
      · refine iff_of_true ?_ fun _ => Or.inr accepted
        obtain ⟨r, run⟩ := completeTask_run found active made
        exact settled_unchanged (settled_dropped (Or.inl ⟨_, r, run⟩))
      · refine iff_of_false ?_ ?_
        · intro unchanged
          have run := refuses _ refused
          have same := unchanged ⟨_, _, RuntimeError.noConfusion, run⟩
          rw [atomic_exec run] at same
          exact undrafted_changes s _ same
        · intro checked
          rcases checked ⟨w, found, active⟩ with given | accepted
          · rw [twice] at given
            cases given
          · exact invalid accepted
  · constructor
    · intro _ active
      exact absurd active acts
    · intro _ raises
      exact settled_unchanged (completeTask_settled acts stepName detail keywords) raises

theorem recordTestRun_unchanged_iff (s : LiveRuntimeSession) (workerId : String) (passed : Bool)
    (summary : String) (exitCode : Int) (command : String) :
    (Raises (.recordTestRun workerId passed summary exitCode command) s →
      exec (perform (.recordTestRun workerId passed summary exitCode command)) s = s) ↔
    CheckedFirst s (.recordTestRun workerId passed summary exitCode command) := by
  have cases_ := recordTestRun_settled workerId passed summary exitCode command s
  constructor
  · intro unchanged
    rcases cases_ with ⟨_, active⟩ | ⟨error, value, run, _⟩
    · exact Or.inl active
    · right
      have same := unchanged ⟨_, error, value, run⟩
      rw [atomic_exec run] at same
      exact (tested_same_iff passed summary s).mp same
  · rintro accepted ⟨s', error, _, raised⟩
    rcases cases_ with ⟨⟨s'', run⟩, _⟩ | ⟨error', _, run, inactive⟩
    · rw [run] at raised
      cases raised
    · rw [atomic_exec run]
      rcases accepted with active | same
      · exact absurd active inactive
      · exact (tested_same_iff passed summary s).mpr same

/-- A call that raises leaves the session as it was, unless it records a test run for a worker
    that is unknown or quarantined, or completes a task with a keyword pydantic refuses. -/
theorem failed_call_changes_nothing_iff (s : LiveRuntimeSession) (op : Operation) :
    (Raises op s → exec (perform op) s = s) ↔ CheckedFirst s op := by
  by_cases first : WritesFirst op
  · cases op with
    | completeTask => exact completeTask_unchanged_iff ..
    | recordTestRun => exact recordTestRun_unchanged_iff ..
    | _ => exact first.elim
  · constructor
    · intro _
      cases op with
      | completeTask => exact absurd trivial first
      | recordTestRun => exact absurd trivial first
      | _ => trivial
    · intro _ raises
      exact settled_unchanged (perform_settled first s) raises

theorem unknown_worker_leaves_a_test_result :
    Raises (.recordTestRun "nobody" false "1 failed" 1 "pytest")
        (LiveRuntimeSession.new 0 "objective") ∧
      (exec (perform (.recordTestRun "nobody" false "1 failed" 1 "pytest"))
        (LiveRuntimeSession.new 0 "objective")).testSummary ≠
          (LiveRuntimeSession.new 0 "objective").testSummary :=
  ⟨⟨_, _, RuntimeError.noConfusion, rfl⟩, by decide⟩

end AgentShield.FailedCalls
