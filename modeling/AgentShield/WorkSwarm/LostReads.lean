import AgentShield.WorkSwarm.FailClosed

/-!
The way round the recovery: a denied read that is lost on its way is a denial for the client
and nothing for the server, and the original report goes on to the Developer.
-/
namespace AgentShield.WorkSwarm
open Session Routes Resources Quarantine Coop Remote Policy

/-- The calls of a worker's task. -/
def Lifecycle (workerId : String) : Request → Prop
  | .recordModelCall author _ => author = workerId
  | .startTask author _ => author = workerId
  | .completeTask author _ _ => author = workerId
  | .recordArtifact _ author _ _ => author = workerId
  | _ => False

def Harmless : Request → Prop
  | .requestResource _ path _ => (evaluate (.text path)).allowed = true
  | request => ∃ workerId, Lifecycle workerId request

section
variable {disk : Disk} {root : Path} {request : Request} {s : LiveRuntimeSession}

theorem put_active {id workerId : String} {w w' : WorkerNode}
    (found : s.workers.get? workerId = some w) (same : w'.id = w.id)
    (state : w'.securityState = w.securityState) (active : Active id s) :
    ∃ v, (s.workers.put w').get? id = some v ∧ v.isActive = true := by
  obtain ⟨v, here, up⟩ := active
  rw [Keyed.Table.get?_put]
  split
  · rename_i own
    have key : w.id = workerId := Keyed.Table.get?_key found
    rw [own, same, key, found] at here
    obtain rfl := Option.some.inj here
    refine ⟨w', rfl, ?_⟩
    rw [WorkerNode.isActive, state]
    exact up
  · exact ⟨v, here, up⟩

theorem harmless_active {id : String} (harmless : Harmless request) (active : Active id s) :
    Active id (exec (handle disk root request) s) := by
  rcases handle_effect disk root request s with same | ⟨op, issues, performed⟩
  · rwa [same]
  · obtain ⟨body, drafts, effect, ended⟩ := perform_effect op s
    rw [performed, ended]
    change Active id body
    cases issues with
    | requestResource workerId path content =>
      cases effect with
      | denied found up denied => exact absurd (harmless.symm.trans denied) Bool.noConfusion
      | _ => exact active
    | startTask =>
      cases effect with
      | started found => exact put_active found rfl rfl active
      | _ => exact active
    | completeTask =>
      cases effect with
      | completed found => exact put_active found rfl rfl active
      | undrafted found => exact put_active found rfl rfl active
      | _ => exact active
    | recordModelCall =>
      cases effect with
      | called found => exact put_active found rfl rfl active
      | _ => exact active
    | recordArtifact =>
      cases effect with
      | recorded found => exact active
      | _ => exact active
    | _ =>
      obtain ⟨_, none_⟩ := harmless
      exact none_.elim

theorem lifecycle_harmless {workerId : String} (own : Lifecycle workerId request) :
    Harmless request := by
  cases request with
  | requestResource => exact own.elim
  | _ => exact ⟨workerId, own⟩

/-- A call of an active worker's task is let through. -/
theorem lifecycle_answered (disk : Disk) (root : Path) {workerId : String}
    (own : Lifecycle workerId request)
    (active : Active workerId s) :
    ∃ response, ((handle disk root request).run s).finish.2 = .ok response := by
  obtain ⟨w, found, up⟩ := active
  cases request with
  | recordModelCall author call =>
    obtain rfl : author = workerId := own
    obtain ⟨r, run⟩ := recordModelCall_run found call
    rw [handle, Routes.recordModelCall, activeRoute_run (exceptUnknownWorker 409) found up run]
    exact ⟨_, rfl⟩
  | startTask author task =>
    obtain rfl : author = workerId := own
    obtain ⟨r, run⟩ := startWorker_run found up task
    rw [handle, Routes.startTask, activeRoute_run (exceptUnknownWorker 409) found up run]
    exact ⟨_, rfl⟩
  | completeTask author step detail =>
    obtain rfl : author = workerId := own
    obtain ⟨r, run⟩ := completeTask_run found up
      (completedDraft_plain s.advanced author step detail)
    rw [handle, Routes.completeTask, activeRoute_run (exceptUnknownWorker 409) found up run]
    exact ⟨_, rfl⟩
  | recordArtifact id author kind summary =>
    obtain rfl : author = workerId := own
    obtain ⟨r, run⟩ := recordArtifact_run found id kind summary
    rw [handle, Routes.recordArtifact, activeRoute_run noExcept found up run]
    exact ⟨_, rfl⟩
  | _ => exact own.elim

theorem allowed_answer {workerId path : String} {content : Bool} {response : Response}
    (active : Active workerId s) (allowed : (evaluate (.text path)).allowed = true)
    (answered : ((handle disk root (.requestResource workerId path content)).run s).finish.2 =
      .ok response) :
    ∃ body, response = .decision body ∧ body.decision = "allow" := by
  obtain ⟨w, found, up⟩ := active
  have passed : (workerCall workerId).run s = .done s (.ok ()) := by
    simp [workerCall, Keyed.Table.has_iff_get?.mpr ⟨w, found⟩]
  obtain ⟨grant, run, decision⟩ := requestResource_served found up allowed
  have allow : (evaluate (.text path)).decision = "allow" := by
    rw [Decision.decision, if_pos allowed]
  simp only [handle, Routes.requestResource, bind_apply, passed, bind_ok,
    translate_ok (exceptUnknownWorker 404) _ run, grantAnswer, decision] at answered
  split at answered
  · split at answered
    · cases answered
      exact ⟨_, rfl, allow⟩
    · split at answered
      · rename_i full complete
        cases answered
        refine ⟨full, rfl, ?_⟩
        unfold withContent at complete
        split at complete <;> cases complete <;> exact allow
      · cases answered
  · cases answered
    exact ⟨_, rfl, allow⟩

end

structure LosesDenied (fate : Request → Fate) : Prop where
  reads : ∀ workerId path content, (evaluate (.text path)).allowed = false →
    fate (.requestResource workerId path content) = .requestLost
  calls : ∀ workerId request, Lifecycle workerId request → fate request = .answered

def Manned (w : World Server RunContext) : Prop :=
  Active repoAnalyst w.server.session ∧ Active securityResearcher w.server.session

def Member (workerId : String) : Prop := workerId = repoAnalyst ∨ workerId = securityResearcher

theorem manned_active {workerId : String} {w : World Server RunContext} (manned : Manned w)
    (member : Member workerId) : Active workerId w.server.session := by
  rcases member with rfl | rfl
  · exact manned.1
  · exact manned.2

section
variable {disk : Disk} {root : Path} {fate : Request → Fate} {w : World Server RunContext}

theorem called_manned (disk : Disk) (root : Path) {request : Request}
    (harmless : Harmless request) (manned : Manned w)
    (one : Fate) : Manned (w.called (serveRequest disk root) request one) := by
  have sent := serve_sent disk root request w.server one
  unfold Manned
  rcases sent_session sent with ⟨session, _⟩ | ⟨session, _⟩
  · change Active _ (one.serve (serveRequest disk root) request w.server).1.session ∧
      Active _ (one.serve (serveRequest disk root) request w.server).1.session
    rw [session]
    exact manned
  · change Active _ (one.serve (serveRequest disk root) request w.server).1.session ∧
      Active _ (one.serve (serveRequest disk root) request w.server).1.session
    rw [session]
    exact ⟨harmless_active harmless manned.1, harmless_active harmless manned.2⟩

theorem served_reply {request : Request} {s : Server} {response : Response}
    (valid : validBody request = true)
    (answered : ((handle disk root request).run s.session).finish.2 = .ok response) :
    (serveRequest disk root request s).2 = some response := by
  unfold serveRequest
  rw [if_pos valid]
  rcases ended : ((handle disk root request).run s.session).finish with ⟨session, result⟩
  rw [ended] at answered
  obtain rfl : result = .ok response := answered
  rfl

theorem ends_call (loses : LosesDenied fate) (request : Request) {workerId : String}
    (own : Lifecycle workerId request) (member : Member workerId)
    (valid : validBody request = true) (manned : Manned w) (what : String) :
    Ends (serveRequest disk root) fate (call request what) w fun _ => Manned := by
  obtain ⟨response, ok⟩ := lifecycle_answered disk root own
    (manned_active manned member)
  have after := called_manned disk root (lifecycle_harmless own) manned
    (fate request)
  have reply : ((fate request).serve (serveRequest disk root) request w.server).2 =
      some response := by
    rw [loses.calls workerId request own]
    exact served_reply valid ok
  refine ends_bind (ends_send
    (R := fun reply w' => reply = some response ∧ Manned w') ⟨reply, after⟩) ?_
  rintro _ w' ⟨rfl, manned⟩
  exact ends_ret manned

def Quiet (decision : Decision) : Prop := decision.allowed = true ∨ decision.recoveryRequired = false

theorem ends_read (loses : LosesDenied fate) {workerId : String} (member : Member workerId)
    (manned : Manned w) (path : String) :
    Ends (serveRequest disk root) fate (requestResource workerId path) w
      fun decision w' => Quiet decision ∧ Manned w' := by
  have unheard : Quiet (failedClosed path) := Or.inr rfl
  cases allowed : (evaluate (.text path)).allowed with
  | false =>
    have lost := loses.reads workerId path true allowed
    refine ends_bind (ends_send (R := fun reply w' => reply = none ∧ Manned w') ?_) ?_
    · rw [lost]
      exact ⟨rfl, manned⟩
    · rintro _ w' ⟨rfl, manned⟩
      exact ends_ret ⟨unheard, manned⟩
  | true =>
    let request : Request := .requestResource workerId path true
    have sent := serve_sent disk root request w.server (fate request)
    have harmless : Harmless request := allowed
    have after := called_manned disk root harmless manned (fate request)
    have heard : ((fate request).serve (serveRequest disk root) request w.server).2 = none ∨
        ∃ body, ((fate request).serve (serveRequest disk root) request w.server).2 =
          some (.decision body) ∧ body.decision = "allow" := by
      generalize (fate request).serve (serveRequest disk root) request w.server = served at sent ⊢
      obtain ⟨s', reply⟩ := served
      cases sent with
      | unseen => exact Or.inl rfl
      | refused => exact Or.inl rfl
      | handled session received answers answered heard =>
        rcases heard with none_ | some_
        · exact Or.inl none_
        · obtain ⟨body, rfl, allow⟩ := allowed_answer (manned_active manned member) allowed answered
          exact Or.inr ⟨body, some_, allow⟩
    refine ends_bind (ends_send (R := fun reply w' => (reply = none ∨
      ∃ body, reply = some (.decision body) ∧ body.decision = "allow") ∧ Manned w')
      ⟨heard, after⟩) ?_
    · rintro _ w' ⟨rfl | ⟨body, rfl, allow⟩, manned⟩
      · exact ends_ret ⟨unheard, manned⟩
      · exact ends_ret ⟨Or.inl (beq_iff_eq.mpr allow), manned⟩

theorem ends_note (manned : Manned w) (f : RunContext → RunContext) :
    Ends (serveRequest disk root) fate (update f : Flow Unit) w fun _ => Manned :=
  ends_update (R := fun _ => Manned) manned

theorem ends_noteFailure (manned : Manned w) (decision : Decision) :
    Ends (serveRequest disk root) fate (noteFailure decision) w fun _ => Manned := by
  unfold noteFailure
  split
  · exact ends_note manned _
  · exact ends_ret manned

theorem ends_release (manned : Manned w) (decision : Decision) (path : String)
    (documents : List Document) :
    Ends (serveRequest disk root) fate (release decision path documents) w fun _ => Manned := by
  unfold release
  cases decision.content with
  | none => exact ends_ret manned
  | some text => exact ends_bind (ends_note manned _) fun _ _ manned => ends_ret manned

theorem ends_fetchAll (loses : LosesDenied fate) {workerId : String} (member : Member workerId)
    (paths : List String) (documents : List Document) (manned : Manned w) :
    Ends (serveRequest disk root) fate (fetchAll workerId paths documents) w
      fun _ => Manned := by
  induction paths generalizing documents w with
  | nil => exact ends_ret manned
  | cons path rest ih =>
    refine ends_bind (ends_read loses member manned path) fun decision _ read => ?_
    refine ends_bind (ends_noteFailure read.2 decision) fun _ _ manned => ?_
    split
    · exact ends_bind (ends_release manned decision path documents) fun documents _ manned =>
        ih documents manned
    · exact ends_bind (ends_note manned _) fun _ _ manned => ih documents manned

theorem ends_fetchForWorker (loses : LosesDenied fate) {workerId task : String}
    (member : Member workerId) (valid : validBody (.startTask workerId task) = true)
    (paths : List String) (manned : Manned w) :
    Ends (serveRequest disk root) fate (fetchForWorker workerId task paths) w fun _ => Manned :=
  ends_bind (ends_call loses (.startTask workerId task) rfl member valid manned "start_task")
    fun _ _ manned => ends_fetchAll loses member paths [] manned

/-- The workers answer, and the calls they report are well formed. -/
structure Workers.Answer (workers : Workers) : Prop where
  analyst : workers.analyst.isSome
  researcher : workers.researcher.isSome
  modelCall : ∀ workerId call, workers.modelCall workerId = some call →
    validBody (.recordModelCall workerId call) = true

theorem ends_runWorker (loses : LosesDenied fate) {workers : Workers} (answer : workers.Answer)
    {workerId : String} (member : Member workerId) (report : Report) (manned : Manned w) :
    Ends (serveRequest disk root) fate (runWorker workers workerId (some report)) w
      fun produced w' => produced = report ∧ Manned w' := by
  unfold runWorker
  dsimp only
  split
  · exact ends_ret ⟨rfl, manned⟩
  · rename_i call reported
    exact ends_bind (ends_call loses (.recordModelCall workerId call) rfl member
      (answer.modelCall _ call reported) manned "record_model_call") fun _ _ manned =>
        ends_ret ⟨rfl, manned⟩

theorem head_within (report : Report) {most : Nat} (enough : 400 ≤ most) :
    within report.head 0 most = true := by
  have short : report.head.length ≤ 400 := by
    rw [Report.head, String.length_ofList, List.length_take]
    omega
  simp only [within, Nat.zero_le, decide_true, Bool.true_and, decide_eq_true_eq]
  omega

theorem ends_completeTask (loses : LosesDenied fate) {workerId step : String}
    (member : Member workerId) (report : Report) (kind : within step 1 32 = true)
    (manned : Manned w) :
    Ends (serveRequest disk root) fate (completeTask workerId step report.head) w
      fun _ => Manned := by
  have named : within step 1 64 = true := by
    simp only [within, Bool.and_eq_true, decide_eq_true_eq] at kind ⊢
    omega
  have valid : validBody (.completeTask workerId step report.head) = true := by
    simp only [validBody, named, head_within report (by decide : 400 ≤ 4000), Bool.and_self]
  exact ends_call loses (.completeTask workerId step report.head) rfl member valid manned
    "complete_task"

theorem ends_recordReport (loses : LosesDenied fate) {workerId artifactId step : String}
    (member : Member workerId) {complete : Bool} (report : Report)
    (id : within artifactId 1 64 = true) (kind : within step 1 32 = true) (manned : Manned w) :
    Ends (serveRequest disk root) fate (recordReport workerId artifactId step complete report) w
      fun _ => Manned := by
  have records : validBody (.recordArtifact artifactId workerId step report.head) = true := by
    simp only [validBody, id, kind, head_within report (by decide : 400 ≤ 4000), Bool.and_self]
  refine ends_bind (ends_call loses (.recordArtifact artifactId workerId step report.head) rfl
    member records manned "record_artifact") ?_
  intro _ _ manned
  split
  · exact ends_bind (ends_completeTask loses member report kind manned) fun _ _ manned =>
      ends_ret manned
  · exact ends_ret manned

theorem ends_gateLoop (loses : LosesDenied fate) (paths : List String) (gate : Gate)
    (manned : Manned w) (unasked : gate.recoveryRequired = false) :
    Ends (serveRequest disk root) fate (gateLoop paths gate) w
      fun gate w' => gate.recoveryRequired = false ∧ Manned w' := by
  have member : Member securityResearcher := Or.inr rfl
  induction paths generalizing gate w with
  | nil => exact ends_ret ⟨unasked, manned⟩
  | cons path rest ih =>
    refine ends_bind (ends_read loses member manned path) fun decision _ read => ?_
    obtain ⟨quiet, manned⟩ := read
    refine ends_bind (ends_noteFailure manned decision) fun _ _ manned => ?_
    split
    · exact ends_bind (ends_release manned decision path gate.documents) fun documents _ manned =>
        ih _ manned unasked
    · rename_i denied
      have still : (gate.recoveryRequired || decision.recoveryRequired) = false := by
        rw [unasked, quiet.resolve_left denied]
        rfl
      refine ends_bind (ends_note manned _) fun _ _ manned => ?_
      dsimp only
      split
      · exact ends_bind (ends_note manned _) fun _ _ manned => ends_ret ⟨still, manned⟩
      · exact ih _ manned still

theorem ends_analystBranch (disk : Disk) (root : Path) (loses : LosesDenied fate) {workers : Workers}
    (answer : workers.Answer) (manned : Manned w) :
    Ends (serveRequest disk root) fate (analystBranch workers) w fun _ => Manned := by
  have member : Member repoAnalyst := Or.inl rfl
  obtain ⟨report, analyst⟩ := Option.isSome_iff_exists.mp answer.analyst
  refine ends_bind (ends_fetchForWorker loses member (by decide) _ manned) fun _ _ manned => ?_
  rw [analyst]
  refine ends_bind (ends_runWorker loses answer member report manned) fun _ _ ran => ?_
  exact ends_recordReport loses member _ (by decide) (by decide) ran.2

theorem ends_researchBranch (disk : Disk) (root : Path) (loses : LosesDenied fate) {workers : Workers}
    (answer : workers.Answer) (manned : Manned w) :
    Ends (serveRequest disk root) fate (researchBranch workers) w
      fun research _ => research = ⟨workers.researcher, false⟩ := by
  have member : Member securityResearcher := Or.inr rfl
  obtain ⟨report, researcher⟩ := Option.isSome_iff_exists.mp answer.researcher
  refine ends_bind (ends_fetchForWorker loses member (by decide) _ manned) fun documents _ manned => ?_
  rw [researcher]
  refine ends_bind (ends_runWorker loses answer member report manned) fun _ _ ran => ?_
  obtain ⟨rfl, manned⟩ := ran
  refine ends_bind (ends_recordReport loses member _ (by decide) (by decide) manned)
    fun _ _ manned => ?_
  refine ends_bind (ends_bind (ends_note manned _) fun _ _ manned =>
    ends_gateLoop loses _ ⟨documents, false, false⟩ manned rfl) fun gate _ passed => ?_
  rw [passed.1]
  refine ends_bind (ends_bind (ends_completeTask loses member _ (by decide) passed.2)
    fun _ _ manned => ends_ret (Q := fun original w' => original = _) rfl) fun _ _ same => ?_
  exact ends_ret (by rw [same]; rfl)

end

section
variable (disk : Disk) (root : Path) (sessionId : Schema.Uuid) (objective : String)
  (modelBacked : Bool) (workers : Workers)

theorem start_manned : Manned (FlowRun.start sessionId objective modelBacked workers).world :=
  ⟨⟨_, rfl, rfl⟩, ⟨_, rfl, rfl⟩⟩

/-- The Developer is given the original report when every denied read is lost. -/
theorem lost_reads_pass (answer : workers.Answer) {fate : Request → Fate}
    (loses : LosesDenied fate) :
    ∃ c, Reachable (serveRequest disk root)
      (FlowRun.start sessionId objective modelBacked workers) c ∧ ReceivesOriginal c := by
  let start := FlowRun.start sessionId objective modelBacked workers
  have manned : Manned start.world := start_manned sessionId objective modelBacked workers
  obtain ⟨_, w, left, manned⟩ := ends_analystBranch disk root loses answer manned
  obtain ⟨research, w', right, original⟩ := ends_researchBranch disk root loses answer manned
  change start.left.run (serveRequest disk root) fate start.world = _ at left
  change start.right.run (serveRequest disk root) fate w = _ at right
  have ended : start.inTurn (serveRequest disk root) fate = ⟨w', .ret (), .ret research⟩ := by
    simp only [Fork.inTurn, left, right]
  refine ⟨_, inTurn_reachable (serveRequest disk root) fate start, research, ?_, ?_, ?_⟩
  · rw [ended]
  · rw [ended]
  · rw [original]

end

/-- No denial that the control plane knows of is passed over: in every run where a denied read
    came to the policy the original report is kept from the Developer. Where all of them are
    lost it is not. -/
theorem original_report_passes_unseen_denials (disk : Disk) (root : Path)
    (sessionId : Schema.Uuid) (objective : String) (modelBacked : Bool) (workers : Workers) :
    (∀ c, Reachable (serveRequest disk root)
        (FlowRun.start sessionId objective modelBacked workers) c →
      (∃ path content, Request.requestResource securityResearcher path content ∈
          c.world.server.received ∧ (evaluate (.text path)).allowed = false) →
      ¬ ReceivesOriginal c) ∧
    (workers.Answer → ∀ fate, LosesDenied fate →
      ∃ c, Reachable (serveRequest disk root)
        (FlowRun.start sessionId objective modelBacked workers) c ∧ ReceivesOriginal c) := by
  refine ⟨?_, fun answer fate loses => lost_reads_pass _ _ _ _ _ _ answer loses⟩
  rintro c reachable ⟨path, content, came, denied⟩ original
  obtain ⟨sound, clears⟩ := reachable_sound reachable
  exact active_not_quarantined (clears original).2 (sound.contained path content came denied)

/-- A researcher that the document it reads has talked into asking for the secret. -/
def captured : Workers where
  analyst := some ⟨"The repository has one authentication module.", [], []⟩
  researcher := some ⟨"The notes ask for a file.", ["secrets/demo_secret.txt"], []⟩
  replacement := some ⟨"The comparison is not constant-time.", [], []⟩
  modelCall := fun _ => none

def dropDenied : Request → Fate
  | .requestResource _ path _ => if (evaluate (.text path)).allowed then .answered else .requestLost
  | _ => .answered

theorem dropDenied_loses : LosesDenied dropDenied where
  reads workerId path content denied := by
    rw [dropDenied, if_neg]
    rw [denied]
    exact Bool.false_ne_true
  calls workerId request own := by
    cases request with
    | requestResource => exact own.elim
    | _ => rfl

theorem captured_answer : captured.Answer := ⟨rfl, rfl, fun _ _ none_ => by cases none_⟩

theorem captured_report_passes :
    (∃ report, captured.researcher = some report ∧
      ∃ path ∈ policyRequestPaths report.requestedFiles, (evaluate (.text path)).allowed = false) ∧
    ∃ c, Reachable (serveRequest (fun _ => none) [])
      (FlowRun.start 7 "Find and fix the authentication vulnerability." false captured) c ∧
      ReceivesOriginal c := by
  constructor
  · exact ⟨_, rfl, "demo_target/secrets/demo_secret.txt", by decide +kernel, by decide +kernel⟩
  · exact lost_reads_pass _ _ _ _ _ captured captured_answer dropDenied_loses

def asksDenied : Request → Bool
  | .requestResource workerId path _ =>
    workerId == securityResearcher && !(evaluate (.text path)).allowed
  | _ => false

theorem captured_report_kept :
    ¬ ReceivesOriginal ((FlowRun.start 7 "Find and fix the authentication vulnerability." false
      captured).inTurn (serveRequest (fun _ => none) []) fun _ => .answered) := by
  refine (original_report_passes_unseen_denials (fun _ => none) [] 7 _ false captured).1 _
    (inTurn_reachable _ _ _) ?_
  have asked : ((FlowRun.start 7 "Find and fix the authentication vulnerability." false
      captured).inTurn (serveRequest (fun _ => none) []) fun _ =>
        .answered).world.server.received.any asksDenied = true := by decide +kernel
  obtain ⟨request, came, asks⟩ := List.any_eq_true.mp asked
  cases request with
  | requestResource workerId path content =>
    simp only [asksDenied, Bool.and_eq_true, beq_iff_eq, Bool.not_eq_true'] at asks
    obtain ⟨rfl, denied⟩ := asks
    exact ⟨path, content, came, denied⟩
  | _ => cases asks

end AgentShield.WorkSwarm
