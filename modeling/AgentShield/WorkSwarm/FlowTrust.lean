import AgentShield.WorkSwarm.Steps

/-!
What the flow and the control plane agree on: each branch keeps the facts that the other
relies on, whatever is lost between them and the server.
-/
namespace AgentShield.WorkSwarm
open Session Routes Resources Quarantine Coop Remote

/-- The server answered a request with this document. -/
def Granted (s : Server) (document : Document) : Prop :=
  ∃ workerId path body, (Request.requestResource workerId path true, Response.decision body) ∈
      s.answers ∧
    body.decision = "allow" ∧ body.content = some document.text ∧
    document.path = documentPath (ofBody body) path

/-- What every step of either branch keeps. -/
structure FlowSound (w : World Server RunContext) : Prop where
  registered : w.server.session.workers.Has securityResearcher
  /- A denied read of the researcher's that came to the policy has put it out. -/
  contained : ∀ path content,
    Request.requestResource securityResearcher path content ∈ w.server.received →
    (Policy.evaluate (.text path)).allowed = false →
    Quarantined securityResearcher w.server.session
  documents : ∀ document ∈ w.memory.released, Granted w.server document

def Grows (s s' : Server) : Prop := ∃ more, s'.answers = s.answers ++ more

theorem granted_grows {s s' : Server} {document : Document} (granted : Granted s document)
    (grows : Grows s s') : Granted s' document := by
  obtain ⟨workerId, path, body, member, rest⟩ := granted
  obtain ⟨more, answers⟩ := grows
  refine ⟨workerId, path, body, ?_, rest⟩
  rw [answers]
  exact List.mem_append_left more member

theorem answer_grows {s s' : Server} {answer : Request × Response} (member : answer ∈ s.answers)
    (grows : Grows s s') : answer ∈ s'.answers := by
  obtain ⟨more, answers⟩ := grows
  rw [answers]
  exact List.mem_append_left more member

inductive Sent (disk : Disk) (root : Path) (request : Request) (s : Server) :
    Option Response → Server → Prop where
  /- It was lost on its way, or its body is invalid. -/
  | unseen : Sent disk root request s none s
  | refused {s' : Server} (session : s'.session = exec (handle disk root request) s.session)
      (received : s'.received = s.received ++ [request]) (answers : s'.answers = s.answers) :
      Sent disk root request s none s'
  | handled {s' : Server} {response : Response} {reply : Option Response}
      (session : s'.session = exec (handle disk root request) s.session)
      (received : s'.received = s.received ++ [request])
      (answers : s'.answers = s.answers ++ [(request, response)])
      (answered : ((handle disk root request).run s.session).finish.2 = .ok response)
      (heard : reply = none ∨ reply = some response) :
      Sent disk root request s reply s'

section
variable {disk : Disk} {root : Path} {request : Request} {s s' : Server} {reply : Option Response}

theorem arrives_sent (disk : Disk) (root : Path) (request : Request) (s : Server) :
    Sent disk root request s (serveRequest disk root request s).2
        (serveRequest disk root request s).1 ∧
      Sent disk root request s none (serveRequest disk root request s).1 := by
  unfold serveRequest
  split
  · rcases ended : ((handle disk root request).run s.session).finish with ⟨session, result⟩
    have state : session = exec (handle disk root request) s.session := by
      rw [exec, ended]
    have answered := congrArg Prod.snd ended
    cases result with
    | ok response =>
      exact ⟨.handled state rfl rfl answered (Or.inr rfl), .handled state rfl rfl answered (Or.inl rfl)⟩
    | error e => exact ⟨.refused state rfl rfl, .refused state rfl rfl⟩
  · exact ⟨.unseen, .unseen⟩

theorem serve_sent (disk : Disk) (root : Path) (request : Request) (s : Server) (fate : Fate) :
    Sent disk root request s (fate.serve (serveRequest disk root) request s).2
      (fate.serve (serveRequest disk root) request s).1 := by
  cases fate with
  | answered => exact (arrives_sent disk root request s).1
  | requestLost => exact .unseen
  | responseLost => exact (arrives_sent disk root request s).2

theorem sent_grows (sent : Sent disk root request s reply s') : Grows s s' := by
  cases sent with
  | unseen => exact ⟨[], (List.append_nil _).symm⟩
  | refused session received answers => exact ⟨[], answers.trans (List.append_nil _).symm⟩
  | handled session received answers => exact ⟨_, answers⟩

theorem sent_answer {response : Response} (sent : Sent disk root request s (some response) s') :
    (request, response) ∈ s'.answers := by
  cases sent with
  | @handled _ other _ session received answers answered heard =>
    rcases heard with none_ | same
    · cases none_
    · obtain rfl := Option.some.inj same
      rw [answers]
      exact List.mem_append_right _ (List.mem_singleton_self _)

theorem sent_session (sent : Sent disk root request s reply s') :
    s'.session = s.session ∧ s'.received = s.received ∨
      s'.session = exec (handle disk root request) s.session ∧
        s'.received = s.received ++ [request] := by
  cases sent with
  | unseen => exact Or.inl ⟨rfl, rfl⟩
  | refused session received => exact Or.inr ⟨session, received⟩
  | handled session received => exact Or.inr ⟨session, received⟩

theorem sent_sound {memory : RunContext} (sent : Sent disk root request s reply s')
    (spared : Spared request) (sound : FlowSound ⟨s, memory⟩) : FlowSound ⟨s', memory⟩ := by
  obtain ⟨registered, contained, documents⟩ := sound
  have granted := fun document member => granted_grows (documents document member) (sent_grows sent)
  rcases sent_session sent with ⟨session, received⟩ | ⟨session, received⟩
  · exact ⟨session ▸ registered, by rw [session, received]; exact contained, granted⟩
  · refine ⟨?_, ?_, granted⟩
    · rw [session]
      exact request_registered registered
    · intro path content member denied
      rw [received] at member
      rw [session]
      rcases List.mem_append.mp member with old | new
      · exact request_quarantined spared (contained path content old denied)
      · rw [← List.mem_singleton.mp new]
        exact denied_read_quarantines registered denied

theorem sent_filed (sent : Sent disk root request s reply s') (spared : Spared request)
    (leaves : LeavesReport request) (filed : Filed s.session) : Filed s'.session := by
  rcases sent_session sent with ⟨session, _⟩ | ⟨session, _⟩
  · rwa [session]
  · rw [session]
    exact request_filed spared leaves filed

theorem sent_active {workerId artifactId : String} (sent : Sent disk root request s reply s')
    (own : By workerId artifactId request) (other : workerId ≠ securityResearcher)
    (active : Active securityResearcher s.session) : Active securityResearcher s'.session := by
  rcases sent_session sent with ⟨session, _⟩ | ⟨session, _⟩
  · rwa [session]
  · rw [session]
    exact request_active own other active

end

/-- The analyst's side: it never harms the researcher or its report. -/
def trust : Contract Server RunContext where
  rely w w' := Grows w.server w'.server
  guarantee w w' := Grows w.server w'.server ∧
    (Filed w.server.session → Filed w'.server.session) ∧
    (Active securityResearcher w.server.session → Active securityResearcher w'.server.session)
  inv := FlowSound

/-- A fact of the session that one branch keeps by the requests it may make, and that the
    other leaves alone. -/
structure Plays (disk : Disk) (root : Path) (k : Contract Server RunContext)
    (P : LiveRuntimeSession → Prop) (may : Request → Prop) : Prop where
  inv : k.inv = FlowSound
  stable : Stable k fun w => P w.server.session
  grows : ∀ w w', k.rely w w' → Grows w.server w'.server
  called : ∀ request, may request → ∀ w fate, FlowSound w → P w.server.session →
    k.Keeps w (w.called (serveRequest disk root) request fate) ∧
      P (w.called (serveRequest disk root) request fate).server.session
  updated : ∀ w f, FlowSound (World.updated w f) → k.Keeps w (w.updated f)

theorem grows_refl (s : Server) : Grows s s := ⟨[], (List.append_nil _).symm⟩

theorem analyst_plays (disk : Disk) (root : Path) :
    Plays disk root trust (fun _ => True) (By repoAnalyst "repo-map") where
  inv := rfl
  stable _ _ _ _ := trivial
  grows _ _ step := step
  called request own w fate sound _ := by
    have sent := serve_sent disk root request w.server fate
    have leaves := by_leaves own (by decide : ("repo-map" : String) ≠ reportId)
    refine ⟨⟨⟨sent_grows sent, ?_, ?_⟩, sent_sound sent (by_spared own) sound⟩, trivial⟩
    · exact sent_filed sent (by_spared own) leaves
    · exact sent_active sent own (by decide)
  updated w f sound := ⟨⟨grows_refl _, id, id⟩, sound⟩

theorem researcher_plays (disk : Disk) (root : Path) :
    Plays disk root trust.swap (fun _ => True) Spared where
  inv := rfl
  stable _ _ _ _ := trivial
  grows _ _ step := step.1
  called request spared w fate sound _ := by
    have sent := serve_sent disk root request w.server fate
    exact ⟨⟨sent_grows sent, sent_sound sent spared sound⟩, trivial⟩
  updated w f sound := ⟨grows_refl _, sound⟩

theorem filed_plays (disk : Disk) (root : Path) :
    Plays disk root trust.swap Filed fun request => Spared request ∧ LeavesReport request where
  inv := rfl
  stable _ _ filed step := step.2.1 filed
  grows _ _ step := step.1
  called request may w fate sound filed := by
    have sent := serve_sent disk root request w.server fate
    exact ⟨⟨sent_grows sent, sent_sound sent may.1 sound⟩, sent_filed sent may.1 may.2 filed⟩
  updated w f sound := ⟨grows_refl _, sound⟩

section
variable {disk : Disk} {root : Path} {k : Contract Server RunContext}
  {P : LiveRuntimeSession → Prop} {may : Request → Prop}

def Holding (P : LiveRuntimeSession → Prop) (R : Server → Prop) (w : World Server RunContext) :
    Prop := P w.server.session ∧ R w.server

theorem holding_stable (plays : Plays disk root k P may) {R : Server → Prop}
    (grows : ∀ s s', R s → Grows s s' → R s') : Stable k (Holding P R) := by
  rintro w w' ⟨fact, known⟩ step
  exact ⟨plays.stable w w' fact step, grows _ _ known (plays.grows w w' step)⟩

def Plain (P : LiveRuntimeSession → Prop) (w : World Server RunContext) : Prop :=
  P w.server.session

theorem send_triple (plays : Plays disk root k P may) {request : Request} (own : may request) :
    Triple (serveRequest disk root) k (Plain P)
      (send request : Flow (Option Response)) fun reply =>
        Holding P fun s => ∀ response, reply = some response → (request, response) ∈ s.answers := by
  refine triple_send plays.stable (fun reply => holding_stable plays ?_) request ?_
  · exact fun s s' known grows response heard => answer_grows (known response heard) grows
  · intro w fate inv fact
    rw [plays.inv] at inv
    obtain ⟨keeps, after⟩ := plays.called request own w fate inv fact
    refine ⟨keeps, after, ?_⟩
    intro response heard
    have sent := serve_sent disk root request w.server fate
    rw [heard] at sent
    exact sent_answer sent

theorem pure_triple {α : Type} (plays : Plays disk root k P may) (a : α) :
    Triple (serveRequest disk root) k (Plain P) (pure a : Flow α) fun _ => Plain P :=
  triple_weaken (triple_ret plays.stable a) (fun _ fact => fact) fun _ _ known => known.2

theorem call_triple (plays : Plays disk root k P may) {request : Request} (own : may request)
    (what : String) :
    Triple (serveRequest disk root) k (Plain P) (call request what) fun _ => Plain P := by
  refine triple_bind (send_triple plays own) fun reply => ?_
  cases reply with
  | none => exact triple_raise _
  | some response =>
    exact triple_weaken (pure_triple plays response) (fun _ known => known.1) fun _ _ fact => fact

/- What an allowed decision came from. -/
def Backed (decision : Decision) (path : String) (s : Server) : Prop :=
  decision.allowed = true → ∀ text, decision.content = some text →
    Granted s ⟨documentPath decision path, text⟩

theorem backed_stable (plays : Plays disk root k P may) (decision : Decision) (path : String) :
    Stable k (Holding P (Backed decision path)) :=
  holding_stable plays fun _ _ known grows allowed text content =>
    granted_grows (known allowed text content) grows

theorem requestResource_triple (plays : Plays disk root k P may) {workerId path : String}
    (own : may (.requestResource workerId path true)) :
    Triple (serveRequest disk root) k (Plain P) (requestResource workerId path) fun decision =>
      Holding P (Backed decision path) := by
  refine triple_bind (send_triple plays own) fun reply => ?_
  cases reply with
  | none =>
    refine triple_weaken (triple_ret (backed_stable plays (failedClosed path) path) _) ?_ ?_
    · exact fun _ known => ⟨known.1, fun allowed => by cases allowed⟩
    · rintro _ _ ⟨rfl, known⟩
      exact known
  | some response =>
    cases response with
    | decision body =>
      refine triple_weaken (triple_ret (backed_stable plays (ofBody body) path) _) ?_ ?_
      · intro w known
        refine ⟨known.1, fun allowed text content => ?_⟩
        exact ⟨workerId, path, body, known.2 _ rfl, beq_iff_eq.mp allowed, content, rfl⟩
      · rintro _ _ ⟨rfl, known⟩
        exact known
    | _ => exact triple_raise _

theorem note_triple (plays : Plays disk root k P may) {R : Server → Prop}
    (stable : Stable k (Holding P R)) (f : RunContext → RunContext)
    (quiet : ∀ memory, (f memory).released = memory.released) :
    Triple (serveRequest disk root) k (Holding P R) (update f : Flow Unit)
      fun _ => Holding P R := by
  refine triple_update stable stable f fun w inv known => ⟨?_, known⟩
  rw [plays.inv] at inv
  refine plays.updated w f ⟨inv.registered, inv.contained, ?_⟩
  intro document member
  exact inv.documents document (quiet w.memory ▸ member)

theorem noteFailure_triple (plays : Plays disk root k P may) (decision : Decision) (path : String) :
    Triple (serveRequest disk root) k (Holding P (Backed decision path)) (noteFailure decision)
      fun _ => Holding P (Backed decision path) := by
  have stable := backed_stable plays decision path
  unfold noteFailure
  split
  · exact note_triple plays stable _ fun _ => rfl
  · exact triple_weaken (triple_ret stable ()) (fun _ known => known) fun _ _ known => known.2

theorem release_triple (plays : Plays disk root k P may) {decision : Decision} {path : String}
    (allowed : decision.allowed = true) (documents : List Document) :
    Triple (serveRequest disk root) k (Holding P (Backed decision path))
      (release decision path documents) fun _ => Plain P := by
  unfold release
  cases content : decision.content with
  | none => exact triple_weaken (pure_triple plays documents) (fun _ known => known.1) fun _ _ fact => fact
  | some text =>
    refine triple_bind (Q := fun _ => Plain P) ?_ fun _ => pure_triple plays _
    refine triple_update (backed_stable plays decision path) plays.stable _ fun w inv known => ?_
    rw [plays.inv] at inv
    refine ⟨plays.updated w _ ⟨inv.registered, inv.contained, ?_⟩, known.1⟩
    intro document member
    rcases List.mem_append.mp member with old | new
    · exact inv.documents document old
    · rw [List.mem_singleton.mp new]
      exact known.2 allowed text content

theorem deniedNote_triple (plays : Plays disk root k P may) (decision : Decision) (path : String) :
    Triple (serveRequest disk root) k (Holding P (Backed decision path)) (deniedNote decision)
      fun _ => Plain P :=
  triple_weaken
    (note_triple plays (backed_stable plays decision path)
      (fun ctx => { ctx with denials := ctx.denials ++ [decision] }) fun _ => rfl)
    (fun _ known => known) fun _ _ known => known.1

theorem fetchAll_triple (plays : Plays disk root k P may) {workerId : String} {paths : List String}
    (own : ∀ path ∈ paths, may (.requestResource workerId path true))
    (documents : List Document) :
    Triple (serveRequest disk root) k (Plain P) (fetchAll workerId paths documents)
      fun _ => Plain P := by
  induction paths generalizing documents with
  | nil => exact pure_triple plays documents
  | cons path rest ih =>
    have later := ih fun other member => own other (List.mem_cons_of_mem path member)
    refine triple_bind (requestResource_triple plays (own path List.mem_cons_self)) fun decision => ?_
    refine triple_bind (noteFailure_triple plays decision path) fun _ => ?_
    split
    · rename_i allowed
      exact triple_bind (release_triple plays allowed documents) fun documents => later documents
    · exact triple_bind (deniedNote_triple plays decision path) fun _ => later documents

theorem fetchForWorker_triple (plays : Plays disk root k P may) {workerId task : String}
    {paths : List String} (starts : may (.startTask workerId task))
    (own : ∀ path ∈ paths, may (.requestResource workerId path true)) :
    Triple (serveRequest disk root) k (Plain P) (fetchForWorker workerId task paths)
      fun _ => Plain P :=
  triple_bind (call_triple plays starts "start_task") fun _ => fetchAll_triple plays own []

theorem runWorker_triple (plays : Plays disk root k P may) (workers : Workers) {workerId : String}
    (answer : Option Report) (own : ∀ modelCall, may (.recordModelCall workerId modelCall)) :
    Triple (serveRequest disk root) k (Plain P) (runWorker workers workerId answer)
      fun _ => Plain P := by
  unfold runWorker
  split
  · exact triple_raise _
  · rename_i report
    split
    · exact pure_triple plays report
    · rename_i modelCall _
      exact triple_bind (call_triple plays (own modelCall) "record_model_call") fun _ =>
        pure_triple plays report

theorem recordReport_triple (plays : Plays disk root k P may) {workerId artifactId step : String}
    {complete : Bool} (report : Report)
    (records : ∀ summary, may (.recordArtifact artifactId workerId step summary))
    (completes : ∀ detail, may (.completeTask workerId step detail)) :
    Triple (serveRequest disk root) k (Plain P)
      (recordReport workerId artifactId step complete report) fun _ => Plain P := by
  refine triple_bind (call_triple plays (records report.head) "record_artifact") fun _ => ?_
  split
  · exact triple_bind (call_triple plays (completes report.head) "complete_task") fun _ =>
      pure_triple plays ()
  · exact pure_triple plays ()

theorem gateLoop_triple (plays : Plays disk root k P may)
    (own : ∀ path, may (.requestResource securityResearcher path true)) (paths : List String)
    (gate : Gate) :
    Triple (serveRequest disk root) k (Plain P) (gateLoop paths gate) fun _ => Plain P := by
  induction paths generalizing gate with
  | nil => exact pure_triple plays gate
  | cons path rest ih =>
    refine triple_bind (requestResource_triple plays (own path)) fun decision => ?_
    refine triple_bind (noteFailure_triple plays decision path) fun _ => ?_
    split
    · rename_i allowed
      exact triple_bind (release_triple plays allowed gate.documents) fun documents => ih _
    · refine triple_bind (deniedNote_triple plays decision path) fun _ => ?_
      dsimp only
      split
      · have noted := note_triple plays (R := fun _ => True)
          (holding_stable plays fun _ _ _ _ => trivial)
          (fun ctx => { ctx with quarantinedWorker := some securityResearcher }) fun _ => rfl
        refine triple_bind (Q := fun _ => Plain P) ?_ fun _ => pure_triple plays _
        exact triple_weaken noted (fun _ fact => ⟨fact, trivial⟩) fun _ _ known => known.1
      · exact ih _

end

end AgentShield.WorkSwarm
