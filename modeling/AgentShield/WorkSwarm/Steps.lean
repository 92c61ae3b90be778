import AgentShield.Runtime.Recovery
import AgentShield.WorkSwarm.Flow

/-!
What one request does to the three things of the session that the flow relies on: its
researcher is registered, a quarantine stays, the report on file is trusted or its author
is quarantined.
-/
namespace AgentShield.WorkSwarm
open Schema Events Keyed Coop Session LiveRuntimeSession Routes Resources Quarantine

def reportId : String := "researcher-report"

/-- The report is on file as the researcher's, and trusted unless its author is out. -/
def Filed (s : LiveRuntimeSession) : Prop :=
  ∃ artifact, s.artifacts.get? reportId = some artifact ∧
    artifact.workerId = securityResearcher ∧
    (artifact.trusted = true ∨ Quarantined securityResearcher s)

def Active (id : String) (s : LiveRuntimeSession) : Prop :=
  ∃ w, s.workers.get? id = some w ∧ w.isActive = true

theorem active_not_quarantined {id : String} {s : LiveRuntimeSession} (active : Active id s) :
    ¬ Quarantined id s := by
  rintro ⟨w, found, state⟩
  obtain ⟨v, here, up⟩ := active
  rw [found] at here
  obtain rfl := Option.some.inj here
  exact (active_iff w).mp up state

theorem filed_trusted {s : LiveRuntimeSession} (filed : Filed s)
    (active : Active securityResearcher s) :
    ∃ artifact, s.artifacts.get? reportId = some artifact ∧
      artifact.workerId = securityResearcher ∧ artifact.trusted = true := by
  obtain ⟨artifact, found, author, trusted | out⟩ := filed
  · exact ⟨artifact, found, author, trusted⟩
  · exact absurd out (active_not_quarantined active)

theorem registered_step {s body : LiveRuntimeSession} {op : Operation} {drafts : List EventDraft}
    {id : String} (effect : Effect s op body drafts) (has : s.workers.Has id) :
    body.workers.Has id := by
  have put : ∀ w : WorkerNode, (s.workers.put w).Has id := fun w => Table.has_put.mpr (Or.inr has)
  cases effect with
  | unchanged => exact has
  | registered => exact put _
  | started => exact put _
  | completed => exact put _
  | undrafted => exact put _
  | called => exact put _
  | recorded => exact has
  | refused => exact has
  | served => exact has
  | denied => exact put _
  | quarantined => exact put _
  | reassigned => exact put _
  | testRejected => exact has
  | tested => exact put _
  | recovered =>
    obtain ⟨w, found⟩ := Table.has_iff_get?.mp has
    refine Table.has_iff_get?.mpr ⟨w.afterRecovery, ?_⟩
    rw [recovering, Table.get?_update]
    exact congrArg (Option.map WorkerNode.afterRecovery) found
  | failed => exact has

def KeepsReport : Operation → Prop
  | .recordArtifact artifactId _ _ _ => artifactId ≠ reportId
  | _ => True

theorem quarantining_filed {s : LiveRuntimeSession} {w : WorkerNode}
    {reason violationType : String} {compromisedBy : Option String} (filed : Filed s)
    (keeps : Quarantined securityResearcher s →
      Quarantined securityResearcher (s.quarantining w reason violationType compromisedBy)) :
    Filed (s.quarantining w reason violationType compromisedBy) := by
  obtain ⟨artifact, found, author, trust⟩ := filed
  refine ⟨artifact.tainted w.id ("Produced by a quarantined worker (" ++ violationType ++ ")."),
    ?_, ?_, ?_⟩
  · rw [quarantining, taintArtifactsOf, Table.get?_update, found]
    rfl
  · unfold Artifact.tainted
    split <;> exact author
  · by_cases mine : w.id = securityResearcher
    · -- its author goes out with this very step
      right
      refine ⟨w.quarantine s.step reason compromisedBy, ?_, rfl⟩
      rw [quarantining, Table.get?_put, if_pos]
      exact mine.symm
    · have other : artifact.tainted w.id
          ("Produced by a quarantined worker (" ++ violationType ++ ").") = artifact := by
        unfold Artifact.tainted
        rw [if_neg]
        rintro ⟨same, _⟩
        exact mine (same.symm.trans author)
      rw [other]
      exact trust.imp_right keeps

theorem filed_step {s body : LiveRuntimeSession} {op : Operation} {drafts : List EventDraft}
    (effect : Effect s op body drafts) (filed : Filed s) (report : KeepsReport op)
    (keeps : Quarantined securityResearcher s → Quarantined securityResearcher body) :
    Filed body := by
  have same : body.artifacts = s.artifacts → Filed body := by
    intro artifacts
    obtain ⟨artifact, found, author, trust⟩ := filed
    exact ⟨artifact, artifacts ▸ found, author, trust.imp_right keeps⟩
  cases effect with
  | recorded found artifactId kind summary =>
    obtain ⟨artifact, here, author, trust⟩ := filed
    refine ⟨artifact, ?_, author, trust.imp_right keeps⟩
    rw [recording, Table.get?_put, if_neg]
    · exact here
    · exact fun same => report same.symm
  | denied => exact quarantining_filed (s := s.advanced) filed keeps
  | quarantined => exact quarantining_filed (s := s.advanced) filed keeps
  | _ => exact same rfl

def Untouched (id : String) : Operation → Prop
  | .registerWorker workerId _ _ _ _ => workerId ≠ id
  | .startWorker workerId _ => workerId ≠ id
  | .completeTask workerId _ _ _ => workerId ≠ id
  | .recordModelCall workerId _ => workerId ≠ id
  | .requestResource workerId _ => workerId ≠ id
  | .quarantine workerId _ _ => workerId ≠ id
  | .reassign _ toWorkerId _ _ _ _ => toWorkerId ≠ id
  | .recordTestRun workerId _ _ _ _ => workerId ≠ id
  | .recover _ => False
  | .recordArtifact _ _ _ _ => True
  | .assertContextIsTrusted _ => True
  | .fail _ => True

theorem untouched_step {s body : LiveRuntimeSession} {op : Operation} {drafts : List EventDraft}
    {id : String} (effect : Effect s op body drafts) (untouched : Untouched id op) :
    body.workers.get? id = s.workers.get? id := by
  have put : ∀ w : WorkerNode, w.id ≠ id → (s.workers.put w).get? id = s.workers.get? id := by
    intro w other
    rw [Table.get?_put, if_neg fun same => other same.symm]
  cases effect with
  | unchanged => rfl
  | registered => exact put _ untouched
  | started found => exact put _ (Table.get?_key found ▸ untouched)
  | completed found => exact put _ (Table.get?_key found ▸ untouched)
  | undrafted found => exact put _ (Table.get?_key found ▸ untouched)
  | called found => exact put _ (Table.get?_key found ▸ untouched)
  | recorded => rfl
  | refused => rfl
  | served => rfl
  | denied found => exact put _ (Table.get?_key found ▸ untouched)
  | quarantined found => exact put _ (Table.get?_key found ▸ untouched)
  | reassigned => exact put _ untouched
  | testRejected => rfl
  | tested found => exact put _ (Table.get?_key found ▸ untouched)
  | recovered => exact untouched.elim
  | failed => rfl

/-- A worker's own requests, one artifact apart from all others. -/
def By (workerId artifactId : String) : Request → Prop
  | .requestResource author _ _ => author = workerId
  | .recordModelCall author _ => author = workerId
  | .startTask author _ => author = workerId
  | .completeTask author _ _ => author = workerId
  | .recordArtifact id author _ _ => author = workerId ∧ id = artifactId
  | _ => False

def Spared (request : Request) : Prop :=
  match request with
  | .registerWorker spec => spec.id ≠ securityResearcher
  | .reassign _ toWorker _ _ => toWorker.id ≠ securityResearcher
  | _ => True

def LeavesReport : Request → Prop
  | .recordArtifact id _ _ _ => id ≠ reportId
  | _ => True

theorem by_spared {workerId artifactId : String} {request : Request}
    (own : By workerId artifactId request) : Spared request := by
  cases request with
  | registerWorker => exact own.elim
  | reassign => exact own.elim
  | _ => trivial

theorem by_leaves {workerId artifactId : String} {request : Request}
    (own : By workerId artifactId request) (other : artifactId ≠ reportId) :
    LeavesReport request := by
  cases request with
  | recordArtifact id author kind summary => exact own.2 ▸ other
  | _ => trivial

theorem spared_reregisters {request : Request} (spared : Spared request)
    (s : LiveRuntimeSession) : ¬ Reregisters securityResearcher s request := by
  cases request with
  | registerWorker => exact spared
  | reassign => exact fun again => spared again.1
  | _ => exact id

section
variable {disk : Disk} {root : Path} {request : Request} {s : LiveRuntimeSession}

theorem request_registered {id : String} (has : s.workers.Has id) :
    (exec (handle disk root request) s).workers.Has id := by
  obtain ⟨op, body, drafts, effect, ended⟩ := request_effect disk root request s
  have kept := registered_step effect has
  rw [ended]
  exact kept

theorem request_quarantined (spared : Spared request) (out : Quarantined securityResearcher s) :
    Quarantined securityResearcher (exec (handle disk root request) s) := by
  rcases handle_effect disk root request s with same | ⟨op, issues, performed⟩
  · rwa [same]
  · obtain ⟨body, drafts, effect, ended⟩ := perform_effect op s
    rw [performed, ended]
    exact (quarantined_step effect out
      (issued_spares issues out (spared_reregisters spared s))).1

theorem request_filed (spared : Spared request) (leaves : LeavesReport request) (filed : Filed s) :
    Filed (exec (handle disk root request) s) := by
  have keeps := @request_quarantined disk root request s spared
  rcases handle_effect disk root request s with same | ⟨op, issues, performed⟩
  · rwa [same]
  · obtain ⟨body, drafts, effect, ended⟩ := perform_effect op s
    rw [performed, ended] at keeps ⊢
    have report : KeepsReport op := by
      cases issues with
      | recordArtifact => exact leaves
      | _ => trivial
    have kept := filed_step effect filed report keeps
    exact kept

theorem request_active {workerId artifactId : String} (own : By workerId artifactId request)
    (other : workerId ≠ securityResearcher) (active : Active securityResearcher s) :
    Active securityResearcher (exec (handle disk root request) s) := by
  rcases handle_effect disk root request s with same | ⟨op, issues, performed⟩
  · rwa [same]
  · obtain ⟨body, drafts, effect, ended⟩ := perform_effect op s
    obtain ⟨w, found, up⟩ := active
    refine ⟨w, ?_, up⟩
    rw [performed, ended]
    refine (untouched_step effect ?_).trans found
    cases issues with
    | recordArtifact => trivial
    | requestResource => exact own ▸ other
    | recordModelCall => exact own ▸ other
    | startTask => exact own ▸ other
    | completeTask => exact own ▸ other
    | _ => exact own.elim

theorem published_quarantined {id : String} (drafts : List EventDraft) (out : Quarantined id s) :
    Quarantined id (s.published drafts) := out

/-- A denied read that comes to the policy puts its worker out. -/
theorem denied_read_quarantines {id path : String} {includeContent : Bool}
    (has : s.workers.Has id) (denied : (Policy.evaluate (.text path)).allowed = false) :
    Quarantined id (exec (handle disk root (.requestResource id path includeContent)) s) := by
  obtain ⟨w, found⟩ := Table.has_iff_get?.mp has
  have passed : (workerCall id).run s = .done s (.ok ()) := by
    simp [workerCall, has]
  rw [handle, Routes.requestResource, exec_passed passed,
    exec_then_readOnly (atomic_requestResource id path) _
      (readOnly_grantAnswer disk root path includeContent)]
  cases active : w.isActive with
  | false =>
    obtain ⟨r, run, _⟩ := requestResource_removed found active path
    rw [atomic_exec run]
    refine ⟨w, found, ?_⟩
    by_contra other
    exact Bool.false_ne_true (active.symm.trans ((active_iff w).mpr other))
  | true =>
    obtain ⟨r, run, _⟩ := requestResource_denied found active denied
    rw [atomic_exec run]
    have out := Recovery.quarantining_now s.advanced w (Policy.evaluate (.text path)).reason
      (Policy.evaluate (.text path)).rule.text (some "demo_target/docs/auth_notes.md")
    rw [Table.get?_key found] at out
    exact published_quarantined _ out

theorem activeRoute_run {α : Type} {c : Method α} {workerId : String} {w : WorkerNode}
    {s' : LiveRuntimeSession} {a : α} (except : RuntimeError → HttpError)
    (found : s.workers.get? workerId = some w) (active : w.isActive = true)
    (run : c.run s = .done s' (.ok a)) :
    (activeWorkerCall workerId >>= fun _ => translate except c >>= fun _ => answerSummary).run s =
      .done s' (.ok (.summary (summaryOf s'))) := by
  have has : s.workers.Has workerId := Table.has_iff_get?.mpr ⟨w, found⟩
  have passed : (activeWorkerCall workerId).run s = .done s (.ok ()) := by
    simp [activeWorkerCall, workerCall, has, found, active]
  simp only [bind_apply, passed, bind_ok, translate_ok except c run]
  rfl

theorem activeRoute_active {α : Type} {next : Unit → Handler α} {workerId : String} {a : α}
    (answered : ((activeWorkerCall workerId >>= next).run s).finish.2 = .ok a) :
    Active workerId s := by
  rcases activeWorkerCall_cases workerId s with ⟨w, found, active, _⟩ | ⟨e, stopped⟩
  · exact ⟨w, found, active⟩
  · simp only [bind_apply, stopped, bind_error, Outcome.finish] at answered
    cases answered

theorem completed_active {workerId step detail : String} {response : Response}
    (answered : ((handle disk root (.completeTask workerId step detail)).run s).finish.2 =
      .ok response) :
    Active workerId (exec (handle disk root (.completeTask workerId step detail)) s) := by
  obtain ⟨w, found, active⟩ := activeRoute_active answered
  obtain ⟨r, run⟩ := completeTask_run found active
    (completedDraft_plain s.advanced workerId step detail)
  have ended := activeRoute_run (exceptUnknownWorker 409) found active run
  refine ⟨{ w with currentTask := none }, ?_, active⟩
  rw [handle, Routes.completeTask, atomic_exec ended]
  change (s.workers.put { w with currentTask := none }).get? workerId = _
  rw [Table.get?_put, if_pos]
  exact (Table.get?_key found).symm

theorem recorded_filed {kind summary : String} {response : Response}
    (answered : ((handle disk root
      (.recordArtifact reportId securityResearcher kind summary)).run s).finish.2 =
      .ok response) :
    Filed (exec (handle disk root (.recordArtifact reportId securityResearcher kind summary)) s) := by
  obtain ⟨w, found, active⟩ := activeRoute_active answered
  obtain ⟨r, run⟩ := recordArtifact_run found reportId kind summary
  have ended := activeRoute_run noExcept found active run
  have author : w.id = securityResearcher := Table.get?_key found
  refine ⟨s.newArtifact reportId kind summary w, ?_, author, Or.inl active⟩
  rw [handle, Routes.recordArtifact, atomic_exec ended, recording, Table.get?_put, if_pos]
  rfl

end

end AgentShield.WorkSwarm
