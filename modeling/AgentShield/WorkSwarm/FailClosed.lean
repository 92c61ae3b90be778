import AgentShield.WorkSwarm.FlowTrust

/-!
Whose report the Developer works from, in every interleaving of the two branches and for
every pattern of lost requests and lost answers.
-/
namespace AgentShield.WorkSwarm
open Session Routes Resources Quarantine Coop Remote

section
variable {disk : Disk} {root : Path}

theorem stable_filed : Stable trust.swap (Plain Filed) := fun _ _ filed step => step.2.1 filed

def Cleared (s : LiveRuntimeSession) : Prop := Filed s ∧ Active securityResearcher s

theorem stable_cleared : Stable trust.swap (Plain Cleared) :=
  fun _ _ cleared step => ⟨step.2.1 cleared.1, step.2.2 cleared.2⟩

theorem proving_call {P R : LiveRuntimeSession → Prop} {may : Request → Prop} {request : Request}
    (plays : Plays disk root trust.swap P may) (own : may request)
    (stable : Stable trust.swap (Plain R))
    (proves : ∀ s response, P s →
      ((handle disk root request).run s).finish.2 = .ok response →
      R (exec (handle disk root request) s))
    (what : String) :
    Triple (serveRequest disk root) trust.swap (Plain P) (call request what)
      fun _ => Plain R := by
  refine triple_bind (Q := fun reply w => reply.isSome → R w.server.session) ?_ fun reply => ?_
  · refine triple_send plays.stable ?_ request fun w fate inv fact => ?_
    · exact fun reply w w' known step heard => stable w w' (known heard) step
    · rw [plays.inv] at inv
      refine ⟨(plays.called request own w fate inv fact).1, fun heard => ?_⟩
      have sent := serve_sent disk root request w.server fate
      obtain ⟨response, same⟩ := Option.isSome_iff_exists.mp heard
      rw [same] at sent
      change R (fate.serve (serveRequest disk root) request w.server).1.session
      cases sent with
      | handled session received answers answered =>
        rw [session]
        exact proves w.server.session _ fact answered
  · cases reply with
    | none => exact triple_raise _
    | some response =>
      refine triple_weaken (triple_ret stable response) (fun w known => known rfl) ?_
      exact fun _ _ known => known.2

theorem record_files (report : Report) :
    Triple (serveRequest disk root) trust.swap (Plain fun _ => True)
      (recordReport securityResearcher "researcher-report" "report" false report)
      fun _ => Plain Filed := by
  have files := @proving_call disk root _ _ _
    (.recordArtifact reportId securityResearcher "report" report.head)
    (researcher_plays disk root) trivial stable_filed
    (fun _ _ _ answered => recorded_filed answered) "record_artifact"
  exact triple_bind files fun _ => pure_triple (filed_plays disk root) ()

theorem passThrough_clears (report : Report) :
    Triple (serveRequest disk root) trust.swap (Plain Filed) (passThroughReport report)
      fun _ => Plain Cleared := by
  have completes := @proving_call disk root _ _ _
    (.completeTask securityResearcher "research" report.head)
    (filed_plays disk root) ⟨trivial, trivial⟩ stable_cleared (fun _ _ filed answered =>
      ⟨request_filed trivial trivial filed, completed_active answered⟩) "complete_task"
  refine triple_bind completes fun _ => ?_
  exact triple_weaken (triple_ret stable_cleared report) (fun _ known => known)
    fun _ _ known => known.2

theorem analystBranch_keeps (workers : Workers) :
    Triple (serveRequest disk root) trust (Plain fun _ => True) (analystBranch workers)
      fun _ => Plain fun _ => True := by
  have plays := analyst_plays disk root
  refine triple_bind (fetchForWorker_triple plays rfl fun _ _ => rfl) fun _ => ?_
  refine triple_bind (runWorker_triple plays workers _ fun _ => rfl) fun report => ?_
  exact recordReport_triple plays report (fun _ => ⟨rfl, rfl⟩) fun _ => rfl

theorem recovery_keeps :
    Triple (serveRequest disk root) trust.swap (Plain Filed) reassignAndFetch
      fun _ => Plain Filed := by
  have plays := filed_plays disk root
  have summarize : Triple (serveRequest disk root) trust.swap (Plain Filed) summary
      fun _ => Plain Filed := by
    refine triple_bind (send_triple plays ⟨trivial, trivial⟩) fun reply => ?_
    cases reply with
    | none => exact triple_raise _
    | some response =>
      cases response with
      | summary body =>
        exact triple_weaken (pure_triple plays body) (fun _ known => known.1) fun _ _ fact => fact
      | _ => exact triple_raise _
  refine triple_bind summarize fun body => ?_
  refine triple_bind (Q := fun _ => Plain Filed) ?_ fun _ => ?_
  · have noted := note_triple plays (R := fun _ => True)
      (holding_stable plays fun _ _ _ _ => trivial)
      (fun ctx => { ctx with
        trustedArtifactIds := (body.artifacts.filter ArtifactView.trusted).map ArtifactView.id
        taintedArtifactIds := (body.artifacts.filter fun a => !a.trusted).map ArtifactView.id })
      fun _ => rfl
    exact triple_weaken noted (fun _ fact => ⟨fact, trivial⟩) fun _ _ known => known.1
  · have spared : ∀ trusted, Spared (.reassign securityResearcher replacementSpec
        replacementTask trusted) := by
      intro trusted
      have other : replacementSpec.id ≠ securityResearcher := by decide
      exact other
    refine triple_bind (call_triple plays ⟨spared _, trivial⟩ "reassign") fun _ => ?_
    refine triple_bind (requestResource_triple plays ⟨trivial, trivial⟩) fun decision => ?_
    refine triple_bind (noteFailure_triple plays decision authModule) fun _ => ?_
    split
    · rename_i allowed
      exact release_triple plays allowed []
    · exact triple_weaken (pure_triple plays []) (fun _ known => known.1) fun _ _ fact => fact

/-- The original report is handed on with its author cleared, and only then. -/
theorem researchBranch_clears (workers : Workers) :
    Triple (serveRequest disk root) trust.swap (Plain fun _ => True) (researchBranch workers)
      fun research w => research.recovered = false → Cleared w.server.session := by
  have early := researcher_plays disk root
  have plays := filed_plays disk root
  refine triple_bind (fetchForWorker_triple early trivial fun _ _ => trivial) fun documents => ?_
  refine triple_bind (runWorker_triple early workers _ fun _ => trivial) fun report => ?_
  refine triple_bind (record_files report) fun _ => ?_
  refine triple_bind (Q := fun _ => Plain Filed) ?_ fun gate => ?_
  · refine triple_bind (Q := fun _ => Plain Filed) ?_ fun _ =>
      gateLoop_triple plays (fun _ => ⟨trivial, trivial⟩) _ _
    have noted := note_triple plays (R := fun _ => True)
      (holding_stable plays fun _ _ _ _ => trivial)
      (fun ctx => { ctx with researcherRequestedPaths := report.requestedFiles }) fun _ => rfl
    exact triple_weaken noted (fun _ fact => ⟨fact, trivial⟩) fun _ _ known => known.1
  · split
    · refine triple_bind recovery_keeps fun _ => ?_
      refine triple_bind (runWorker_triple plays workers _ fun _ => ⟨trivial, trivial⟩)
        fun replacement => ?_
      have other : ("replacement-report" : String) ≠ reportId := by decide
      refine triple_bind (recordReport_triple plays replacement (fun _ => ⟨trivial, other⟩)
        fun _ => ⟨trivial, trivial⟩) fun _ => ?_
      refine triple_weaken (triple_ret plays.stable (mergeResearch (some replacement) none))
        (fun _ known => known) ?_
      rintro _ w ⟨rfl, _⟩ original
      cases original
    · refine triple_bind (passThrough_clears report) fun original => ?_
      exact triple_weaken (triple_ret stable_cleared _) (fun _ known => known)
        fun _ _ known _ => known.2

end

section
variable {disk : Disk} {root : Path} {sessionId : Schema.Uuid} {objective : String}
  {modelBacked : Bool} {workers : Workers} {c : FlowRun}

theorem start_sound (sessionId : Schema.Uuid) (objective : String) (modelBacked : Bool)
    (workers : Workers) : FlowSound (FlowRun.start sessionId objective modelBacked workers).world where
  registered := Keyed.Table.has_iff_get?.mpr ⟨_, rfl⟩
  contained _ _ member := by cases member
  documents _ member := by cases member

theorem reachable_sound (reachable : Reachable (serveRequest disk root)
    (FlowRun.start sessionId objective modelBacked workers) c) :
    FlowSound c.world ∧ (ReceivesOriginal c → Cleared c.world.server.session) := by
  have sound := start_sound sessionId objective modelBacked workers
  have left : Safe (serveRequest disk root) trust _ (analystBranch workers) _ :=
    analystBranch_keeps workers _ sound trivial
  have right : Safe (serveRequest disk root) trust.swap _ (researchBranch workers) _ :=
    researchBranch_clears workers _ sound trivial
  obtain ⟨inv, _, safe⟩ := fork_safe left right sound reachable
  refine ⟨inv, ?_⟩
  rintro ⟨research, _, returned, original⟩
  rw [returned] at safe
  exact safe_returned safe inv original

end

theorem flow_agrees_on_trust (disk : Disk) (root : Path) (sessionId : Schema.Uuid)
    (objective : String) (modelBacked : Bool) (workers : Workers) (c : FlowRun)
    (reachable : Reachable (serveRequest disk root)
      (FlowRun.start sessionId objective modelBacked workers) c) :
    (ReceivesOriginal c →
      (∃ w, c.world.server.session.workers.get? securityResearcher = some w ∧
        w.securityState ≠ .quarantined) ∧
      ∃ artifact, c.world.server.session.artifacts.get? reportId = some artifact ∧
        artifact.workerId = securityResearcher ∧ artifact.trusted = true) ∧
    ∀ document ∈ c.world.memory.released, Granted c.world.server document := by
  obtain ⟨sound, clears⟩ := reachable_sound reachable
  refine ⟨fun original => ?_, sound.documents⟩
  obtain ⟨filed, active⟩ := clears original
  constructor
  · obtain ⟨w, found, up⟩ := active
    exact ⟨w, found, (active_iff w).mp up⟩
  · exact filed_trusted filed active

def notesDisk : Disk := fun path =>
  if path = ["demo_target".toList, "docs".toList, "auth_notes.md".toList] then
    some ⟨17, .ok "Compare in order."⟩
  else none

def candid : Workers where
  analyst := some ⟨"The repository has one authentication module.", [], []⟩
  researcher := some ⟨"The comparison is not constant-time.", ["app/auth.py"], []⟩
  replacement := none
  modelCall := fun _ => none

def candidRun : FlowRun :=
  (FlowRun.start 7 "Find and fix the authentication vulnerability." false candid).inTurn
    (serveRequest notesDisk []) fun _ => .answered

theorem candid_report_trusted :
    candidRun.world.memory.released ≠ [] ∧
      (∃ w, candidRun.world.server.session.workers.get? securityResearcher = some w ∧
        w.securityState ≠ .quarantined) ∧
      (∃ artifact, candidRun.world.server.session.artifacts.get? reportId = some artifact ∧
        artifact.workerId = securityResearcher ∧ artifact.trusted = true) ∧
      ∀ document ∈ candidRun.world.memory.released, Granted candidRun.world.server document := by
  have ended : candidRun.world.memory.released ≠ [] ∧ candidRun.left.result? = some () ∧
      candidRun.right.result? = some ⟨candid.researcher, false⟩ := by decide +kernel
  obtain ⟨released, left, right⟩ := ended
  obtain ⟨trusted, granted⟩ := flow_agrees_on_trust notesDisk [] 7 _ false candid candidRun
    (inTurn_reachable _ _ _)
  obtain ⟨active, artifact⟩ := trusted ⟨_, result_ret left, result_ret right, rfl⟩
  exact ⟨released, active, artifact, granted⟩

end AgentShield.WorkSwarm
