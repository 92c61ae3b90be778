import AgentShield.Runtime.Quarantine

/-!
Trust in artifacts. A tainted artifact reaches no replacement worker for as long
as no active worker records its id again. And whatever is called, in any
interleaving, what a quarantined worker produced is untrusted.
-/
namespace AgentShield.Taint
open Schema Events Keyed Coop Session LiveRuntimeSession Routes Resources Quarantine

def Untrusted (artifactId : String) (s : LiveRuntimeSession) : Prop :=
  ∃ artifact, s.artifacts.get? artifactId = some artifact ∧ artifact.trusted = false

/-- The event seeds a created worker with the artifact. -/
def ListsContext (artifactId : String) (d : EventDraft) : Prop :=
  d.eventType = .agentCreated ∧ ∃ ids,
    metadataGet d.metadata "trusted_context" = some (.strs ids) ∧ artifactId ∈ ids

/-- An active worker records the id again. -/
def RecordsAgain (artifactId : String) (s : LiveRuntimeSession) : Request → Prop
  | .recordArtifact id workerId _ _ =>
    id = artifactId ∧ ∃ w, s.workers.get? workerId = some w ∧ w.isActive = true
  | _ => False

/- An artifact recorded again stays untrusted only if its producer is quarantined. -/
def KeepsTaint (artifactId : String) (s : LiveRuntimeSession) : Operation → Prop
  | .recordArtifact id workerId _ _ =>
    id = artifactId → ∀ w, s.workers.get? workerId = some w → w.isActive = false
  | _ => True

theorem untrusted_not_in_context {s : LiveRuntimeSession} {artifactId : String}
    (untrusted : Untrusted artifactId s) (workerId : String) :
    artifactId ∉ (s.trustedContextFor workerId).map Artifact.id := by
  intro member
  obtain ⟨artifact, kept, same⟩ := List.mem_map.mp member
  obtain ⟨stored, trusted⟩ := List.mem_filter.mp kept
  obtain ⟨old, here, state⟩ := untrusted
  have found := Table.get?_of_member stored
  rw [same, here] at found
  obtain rfl := Option.some.inj found
  simp [state] at trusted

theorem untrusted_not_accepted {s : LiveRuntimeSession} {artifactId : String}
    (untrusted : Untrusted artifactId s) {ids : List String} (member : artifactId ∈ ids) :
    (assertContextIsTrusted ids).run s ≠ .done s (.ok ()) := by
  intro run
  obtain ⟨r, same, accepted⟩ := assertContextIsTrusted_run s ids
  rw [run] at same
  obtain ⟨_, rfl⟩ := Outcome.done.inj same
  obtain ⟨artifact, found, trusted⟩ := accepted rfl artifactId member
  obtain ⟨old, here, state⟩ := untrusted
  rw [here] at found
  obtain rfl := Option.some.inj found
  rw [state] at trusted
  cases trusted

theorem tainting_keeps {s body : LiveRuntimeSession} {artifactId workerId reason : String}
    (untrusted : Untrusted artifactId s)
    (stored : body.artifacts = taintArtifactsOf s.artifacts workerId reason) :
    Untrusted artifactId body := by
  obtain ⟨old, here, state⟩ := untrusted
  refine ⟨old, ?_, state⟩
  rw [stored, taintArtifactsOf, Table.get?_update, here]
  simp [Artifact.tainted, state]

theorem recording_keeps {s : LiveRuntimeSession} {artifactId id kind summary : String}
    {w : WorkerNode} (untrusted : Untrusted artifactId s)
    (kept : id = artifactId → w.isActive = false) :
    Untrusted artifactId (s.recording id kind summary w) := by
  by_cases same : id = artifactId
  · refine ⟨s.newArtifact id kind summary w, ?_, kept same⟩
    rw [recording, Table.get?_put, if_pos]
    exact same.symm
  · obtain ⟨old, here, state⟩ := untrusted
    refine ⟨old, ?_, state⟩
    rw [recording, Table.get?_put, if_neg, here]
    exact fun h => same h.symm

theorem created_lists_nothing (role : String) (modelBacked : Bool) (replaces : Option String) :
    metadataGet (createdMetadata role modelBacked replaces) "trusted_context" = none := by
  cases replaces <;> simp [createdMetadata, metadataGet]

theorem reassigned_context (s : LiveRuntimeSession)
    (fromWorkerId toWorkerId role : String) (modelBacked : Bool) :
    metadataGet [("role", .str role), ("replaces", .str fromWorkerId),
      ("model_backed", .bool modelBacked),
      ("trusted_context", .strs ((s.trustedContextFor toWorkerId).map Artifact.id))]
      "trusted_context" =
    some (.strs ((s.trustedContextFor toWorkerId).map Artifact.id)) := by
  simp [metadataGet]

theorem untrusted_step {s body : LiveRuntimeSession} {op : Operation}
    {drafts : List EventDraft} {artifactId : String} (effect : Effect s op body drafts)
    (untrusted : Untrusted artifactId s) (keeps : KeepsTaint artifactId s op) :
    Untrusted artifactId body ∧ ∀ d ∈ drafts, ¬ ListsContext artifactId d := by
  cases effect with
  | unchanged => exact ⟨untrusted, by simp⟩
  | registered => exact ⟨untrusted, by simp [ListsContext, created_lists_nothing]⟩
  | started => exact ⟨untrusted, by simp [ListsContext]⟩
  | completed found active drafted =>
    exact ⟨untrusted, by simp [ListsContext, completedDraft_eventType drafted]⟩
  | undrafted => exact ⟨untrusted, by simp⟩
  | called => exact ⟨untrusted, by simp [ListsContext]⟩
  | recorded found =>
    exact ⟨recording_keeps untrusted fun same => keeps same _ found, by simp⟩
  | refused => exact ⟨untrusted, by simp [ListsContext, requestedDraft]⟩
  | served => exact ⟨untrusted, by simp [ListsContext, requestedDraft]⟩
  | denied =>
    refine ⟨tainting_keeps untrusted rfl, ?_⟩
    simp [ListsContext, requestedDraft, denyDrafts, quarantinedDraft]
  | quarantined => exact ⟨tainting_keeps untrusted rfl, by simp [ListsContext, quarantinedDraft]⟩
  | reassigned found toWorkerId =>
    refine ⟨untrusted, ?_⟩
    have absent := untrusted_not_in_context (s := s.advanced) untrusted toWorkerId
    simp only [reassignedDrafts, List.forall_mem_cons, ListsContext, draft_eventType,
      draft_metadata, reassigned_context]
    simpa using absent
  | testRejected => exact ⟨untrusted, by simp⟩
  | tested => exact ⟨untrusted, by simp [ListsContext]⟩
  | recovered =>
    exact ⟨untrusted, forall_recovered (by simp [ListsContext]) (by simp [ListsContext])⟩
  | failed => exact ⟨untrusted, by simp [ListsContext]⟩

theorem issued_keeps {s : LiveRuntimeSession} {artifactId : String} {request : Request}
    {op : Operation} (issues : Issues s request op)
    (kept : ¬ RecordsAgain artifactId s request) : KeepsTaint artifactId s op := by
  cases issues with
  | recordArtifact found active => exact fun same => absurd ⟨same, _, found, active⟩ kept
  | _ => trivial

/-- In every run of requests none of which records the id again for an active worker, an
    untrusted artifact stays out of every context: it is not offered, not listed when a
    worker is created, and not accepted. -/
theorem taint_permanent_unless_recorded_again (disk : Disk) (root : Path) (sessionId : Uuid)
    (objective artifactId : String) (before after : List Request)
    (untrusted : Untrusted artifactId
      (serial (handle disk root) (LiveRuntimeSession.new sessionId objective) before))
    (kept : ∀ first request rest, after = first ++ request :: rest →
      ¬ RecordsAgain artifactId (serial (handle disk root)
        (LiveRuntimeSession.new sessionId objective) (before ++ first)) request) :
    let s := serial (handle disk root) (LiveRuntimeSession.new sessionId objective)
      (before ++ after)
    (∀ workerId, artifactId ∉ (s.trustedContextFor workerId).map Artifact.id) ∧
    (∀ ids, artifactId ∈ ids → (assertContextIsTrusted ids).run s ≠ .done s (.ok ())) ∧
    ∃ events,
      s.log = (serial (handle disk root) (LiveRuntimeSession.new sessionId objective)
        before).log ++ events ∧
      ∀ e ∈ events, ¬ ListsContext artifactId e.toEventDraft := by
  simp only [serial_append] at kept ⊢
  have step : ∀ s request op body drafts, Untrusted artifactId s →
      ¬ RecordsAgain artifactId s request → Issues s request op → Effect s op body drafts →
      Untrusted artifactId (body.published drafts) ∧
        ∀ d ∈ drafts, ¬ ListsContext artifactId d := by
    intro s request op body drafts holds meets issues effect
    have kept := untrusted_step effect holds (issued_keeps issues meets)
    exact kept
  obtain ⟨still, events, grown, silent⟩ := requests_keep disk root (Untrusted artifactId)
    (fun s request => ¬ RecordsAgain artifactId s request) (ListsContext artifactId) step
    untrusted after kept
  exact ⟨untrusted_not_in_context still, fun ids => untrusted_not_accepted still, events,
    grown, silent⟩

def analyst : WorkerSpec := { id := "analyst", role := "analyst" }

def poisoned : List Request :=
  [.registerWorker analyst, .recordArtifact "report" "analyst" "report" "",
    .requestResource "analyst" "" true]

theorem poisoned_report_untrusted :
    Untrusted "report"
      (serial (handle (fun _ => none) []) (LiveRuntimeSession.new 0 "objective") poisoned) :=
  ⟨_, rfl, rfl⟩

theorem poisoned_report_stays_out :
    "report" ∉ ((serial (handle (fun _ => none) []) (LiveRuntimeSession.new 0 "objective")
      (poisoned ++ [.registerWorker writer])).trustedContextFor "writer").map Artifact.id := by
  have permanent := taint_permanent_unless_recorded_again (fun _ => none) [] 0 "objective"
    "report" poisoned [.registerWorker writer] poisoned_report_untrusted
  apply (permanent ?_).1
  intro first request rest split
  cases first with
  | nil =>
    obtain ⟨rfl, _⟩ := List.cons.inj split
    exact fun again => again
  | cons head tail => simp at split

/-- Another worker records the tainted id again, and a third one is offered it. -/
theorem recorded_again_trusted :
    Untrusted "report"
      (serial (handle (fun _ => none) []) (LiveRuntimeSession.new 0 "objective") poisoned) ∧
    "report" ∈ ((serial (handle (fun _ => none) []) (LiveRuntimeSession.new 0 "objective")
      (poisoned ++ [.registerWorker writer,
        .recordArtifact "report" "writer" "report" ""])).trustedContextFor "reviewer").map
        Artifact.id :=
  ⟨⟨_, rfl, rfl⟩, by decide⟩

def Contained (s : LiveRuntimeSession) : Prop :=
  ∀ artifact ∈ s.artifacts.values, Quarantined artifact.workerId s → artifact.trusted = false

theorem found_quarantined {s : LiveRuntimeSession} {workerId : String} {w : WorkerNode}
    (found : s.workers.get? workerId = some w) (state : w.securityState = .quarantined) :
    Quarantined w.id s := by
  obtain rfl := Table.get?_key found
  exact ⟨w, found, state⟩

theorem put_back {s body : LiveRuntimeSession} {id : String} {w : WorkerNode}
    (stored : body.workers = s.workers.put w)
    (before : w.securityState = .quarantined → Quarantined w.id s)
    (quarantined : Quarantined id body) : Quarantined id s := by
  obtain ⟨now, here, state⟩ := quarantined
  rw [stored, Table.get?_put] at here
  split at here
  · rename_i same
    obtain rfl := Option.some.inj here
    rw [same]
    exact before state
  · exact ⟨now, here, state⟩

theorem recovering_back {s : LiveRuntimeSession} {id : String}
    (quarantined : Quarantined id s.recovering) : Quarantined id s := by
  obtain ⟨now, here, state⟩ := quarantined
  rw [recovering, Table.get?_update, Option.map_eq_some_iff] at here
  obtain ⟨old, found, rfl⟩ := here
  refine ⟨old, found, ?_⟩
  unfold WorkerNode.afterRecovery at state
  split at state
  · cases state
  · exact state

theorem recording_contained {s : LiveRuntimeSession} {artifactId kind summary workerId : String}
    {w : WorkerNode} (contained : Contained s) (found : s.workers.get? workerId = some w) :
    Contained (s.recording artifactId kind summary w) := by
  intro artifact member quarantined
  rcases Table.put_member member with same | ⟨old, _⟩
  · subst same
    obtain ⟨producer, here, state⟩ := quarantined
    have same : w.id = workerId := Table.get?_key found
    have here : s.workers.get? w.id = some producer := here
    rw [same, found] at here
    obtain rfl := Option.some.inj here
    have inactive := mt (active_iff w).mp (not_not.mpr state)
    exact Bool.eq_false_iff.mpr inactive
  · exact contained artifact old quarantined

theorem quarantining_contained {s : LiveRuntimeSession} {w : WorkerNode}
    {reason violationType : String} {compromisedBy : Option String} (contained : Contained s) :
    Contained (s.quarantining w reason violationType compromisedBy) := by
  intro artifact member quarantined
  obtain ⟨old, stored, rfl⟩ := List.mem_map.mp member
  by_cases produced : old.workerId = w.id ∧ old.trusted = true
  · simp [Artifact.tainted, produced]
  · have same : old.tainted w.id ("Produced by a quarantined worker (" ++ violationType ++ ").") =
        old := by simp [Artifact.tainted, produced]
    rw [same] at quarantined ⊢
    by_cases mine : old.workerId = w.id
    · exact Bool.eq_false_iff.mpr fun trusted => produced ⟨mine, trusted⟩
    · obtain ⟨producer, here, state⟩ := quarantined
      rw [quarantining, Table.get?_put, if_neg] at here
      · exact contained old stored ⟨producer, here, state⟩
      · exact mine

theorem contained_step {s body : LiveRuntimeSession} {op : Operation} {drafts : List EventDraft}
    (contained : Contained s) (effect : Effect s op body drafts) : Contained body := by
  have same_workers : ∀ {t : LiveRuntimeSession}, t.artifacts = s.artifacts →
      (∀ id, Quarantined id t → Quarantined id s) → Contained t := by
    intro t artifacts back artifact member quarantined
    rw [artifacts] at member
    exact contained artifact member (back _ quarantined)
  cases effect with
  | unchanged => exact contained
  | registered => exact same_workers rfl fun id => put_back rfl fun fresh => by cases fresh
  | started found =>
    have before := found_quarantined found
    exact same_workers rfl fun id => put_back rfl before
  | completed found =>
    have before := found_quarantined found
    exact same_workers rfl fun id => put_back rfl before
  | undrafted found =>
    have before := found_quarantined found
    exact same_workers rfl fun id => put_back rfl before
  | called found =>
    have before := found_quarantined found
    exact same_workers rfl fun id => put_back rfl before
  | recorded found => exact recording_contained contained found
  | refused => exact contained
  | served => exact contained
  | denied => exact quarantining_contained (s := s.advanced) contained
  | quarantined => exact quarantining_contained (s := s.advanced) contained
  | reassigned => exact same_workers rfl fun id => put_back rfl fun fresh => by cases fresh
  | testRejected => exact contained
  | tested found =>
    have before := found_quarantined found
    exact same_workers rfl fun id => put_back rfl before
  | recovered => exact same_workers rfl fun id => recovering_back (s := s.advanced)
  | failed => exact contained

theorem reachable_contained (disk : Disk) (root : Path) (sessionId : Uuid) (objective : String)
    {c : Config LiveRuntimeSession HttpError Unit}
    (reach : Reachable (call disk root) (LiveRuntimeSession.new sessionId objective) c) :
    Contained c.state := by
  refine reachable_call_invariant Contained ?_ ?_ reach
  · intro artifact member
    cases member
  · intro s op body drafts contained effect
    have kept := contained_step contained effect
    exact kept

theorem context_contained {s : LiveRuntimeSession} (contained : Contained s) (workerId : String) :
    ∀ artifact ∈ s.trustedContextFor workerId, ¬ Quarantined artifact.workerId s := by
  intro artifact member quarantined
  obtain ⟨stored, trusted⟩ := List.mem_filter.mp member
  have untrusted := contained artifact stored quarantined
  simp [untrusted] at trusted

/-- The id names an artifact whose producer is not quarantined. -/
def CleanContext (s : LiveRuntimeSession) (artifactId : String) : Prop :=
  ∃ artifact, s.artifacts.get? artifactId = some artifact ∧ ¬ Quarantined artifact.workerId s

def publishedBetween (s s' : LiveRuntimeSession) : List Event := s'.log.drop s.log.length

theorem trusted_clean {s : LiveRuntimeSession} (contained : Contained s) {artifactId : String}
    {artifact : Artifact} (found : s.artifacts.get? artifactId = some artifact)
    (trusted : artifact.trusted = true) : CleanContext s artifactId := by
  refine ⟨artifact, found, ?_⟩
  intro quarantined
  have untrusted := contained artifact (Table.get?_member found) quarantined
  rw [trusted] at untrusted
  cases untrusted

theorem context_clean {s : LiveRuntimeSession} (contained : Contained s) {workerId artifactId : String}
    (member : artifactId ∈ (s.trustedContextFor workerId).map Artifact.id) :
    CleanContext s artifactId := by
  obtain ⟨artifact, kept, rfl⟩ := List.mem_map.mp member
  obtain ⟨stored, trusted⟩ := List.mem_filter.mp kept
  refine trusted_clean contained (Table.get?_of_member stored) ?_
  simpa using (of_decide_eq_true trusted).1

theorem reassign_lists {s body : LiveRuntimeSession} {drafts : List EventDraft}
    {fromWorkerId toWorkerId role task : String} {upstream : List String} {modelBacked : Bool}
    (effect : Effect s (.reassign fromWorkerId toWorkerId role task upstream modelBacked) body
      drafts) {d : EventDraft} (member : d ∈ drafts) {ids : List String}
    (listed : metadataGet d.metadata "trusted_context" = some (.strs ids)) :
    ids = (body.trustedContextFor toWorkerId).map Artifact.id := by
  cases effect with
  | unchanged => cases member
  | reassigned found =>
    simp only [reassignedDrafts, List.mem_cons, List.not_mem_nil, or_false] at member
    rcases member with rfl | rfl | rfl
    · simp [metadataGet] at listed
    · rw [draft_metadata, reassigned_context] at listed
      exact (JsonValue.strs.inj (Option.some.inj listed)).symm
    · simp [metadataGet] at listed

/-- Whatever requests and calls interleave, no context holds an artifact of a worker that is
    quarantined at that moment: not the trusted context of any worker, not the list a
    hand-over publishes, not the list an accepted hand-over request names. -/
theorem no_context_from_quarantined (disk : Disk) (root : Path) (sessionId : Uuid)
    (objective : String) (c : Config LiveRuntimeSession HttpError Unit)
    (reach : Reachable (call disk root) (LiveRuntimeSession.new sessionId objective) c) :
    (∀ artifact ∈ c.state.artifacts.values,
      Quarantined artifact.workerId c.state → artifact.trusted = false) ∧
    (∀ workerId, ∀ artifact ∈ c.state.trustedContextFor workerId,
      ¬ Quarantined artifact.workerId c.state) ∧
    (∀ fromWorkerId toWorkerId role task upstream modelBacked,
      let s' := exec (perform
        (.reassign fromWorkerId toWorkerId role task upstream modelBacked)) c.state
      ∀ e ∈ publishedBetween c.state s', ∀ ids,
        metadataGet e.metadata "trusted_context" = some (.strs ids) →
        ∀ artifactId ∈ ids, CleanContext s' artifactId) ∧
    (∀ fromWorkerId toWorker task contextArtifactIds,
      let s' := exec (handle disk root
        (.reassign fromWorkerId toWorker task contextArtifactIds)) c.state
      (∃ e ∈ publishedBetween c.state s', e.eventType = .taskReassigned) →
        ∀ artifactId ∈ contextArtifactIds, CleanContext s' artifactId) := by
  have contained := reachable_contained disk root sessionId objective reach
  refine ⟨contained, context_contained contained, ?_, ?_⟩
  · intro fromWorkerId toWorkerId role task upstream modelBacked s' e member ids listed
    obtain ⟨body, drafts, effect, ended⟩ := perform_effect
      (.reassign fromWorkerId toWorkerId role task upstream modelBacked) c.state
    obtain ⟨events, longer, drafted⟩ := effect_appends effect
    have new : e ∈ events := by
      simpa [publishedBetween, s', ended, longer] using member
    have same := reassign_lists effect (drafted e new) listed
    intro artifactId inside
    rw [same] at inside
    have clean := context_clean (contained_step contained effect) inside
    simp only [s', ended]
    exact clean
  · intro fromWorkerId toWorker task contextArtifactIds s' happened artifactId inside
    rcases handle_effect disk root (.reassign fromWorkerId toWorker task contextArtifactIds)
      c.state with same | ⟨op, issues, performed⟩
    · obtain ⟨e, member, _⟩ := happened
      simp [publishedBetween, s', same] at member
    · cases issues with
      | reassign registered _ _ trusted =>
        obtain ⟨artifact, found, good⟩ := trusted artifactId inside
        obtain ⟨body, drafts, effect, ended⟩ := perform_effect (.reassign fromWorkerId
          toWorker.id toWorker.role task toWorker.upstream toWorker.modelBacked) c.state
        have kept : body.artifacts = c.state.artifacts := by
          cases effect <;> rfl
        have clean := trusted_clean (contained_step contained effect)
          (kept.symm ▸ found) good
        simp only [s', performed, ended]
        exact clean

def poisonedTeam : List Call :=
  (poisoned ++ [Request.registerWorker writer,
    Request.recordArtifact "summary" "writer" "summary" ""]).map Call.request

/-- The report is not trusted, and the hand-over of the analyst's task lists and accepts the
    summary alone. -/
theorem poisoned_report_not_handed_over :
    let s := serial (call (fun _ => none) []) (LiveRuntimeSession.new 0 "objective") poisonedTeam
    let handed := exec (perform (.reassign "analyst" "helper" "analyst" "task" [] false)) s
    let asked := exec (handle (fun _ => none) []
      (.reassign "analyst" { id := "helper", role := "analyst" } "task" ["summary"])) s
    (Quarantined "analyst" s ∧ ∃ artifact ∈ s.artifacts.values,
      artifact.id = "report" ∧ artifact.workerId = "analyst" ∧ artifact.trusted = false) ∧
    ((s.trustedContextFor "helper").map Artifact.id = ["summary"] ∧
      ∀ artifact ∈ s.trustedContextFor "helper", ¬ Quarantined artifact.workerId s) ∧
    (∃ e ∈ publishedBetween s handed,
      metadataGet e.metadata "trusted_context" = some (.strs ["summary"]) ∧
        CleanContext handed "summary") ∧
    CleanContext asked "summary" := by
  obtain ⟨c, reach, state⟩ := serial_reachable (call_prompt (fun _ => none) [])
    (LiveRuntimeSession.new 0 "objective") poisonedTeam
  obtain ⟨contained, trusted, listed, accepted⟩ :=
    no_context_from_quarantined (fun _ => none) [] 0 "objective" c reach
  rw [state] at contained trusted listed accepted
  intro s handed asked
  have quarantined : Quarantined "analyst" s := ⟨_, rfl, by decide⟩
  have report : ∃ artifact ∈ s.artifacts.values,
      artifact.id = "report" ∧ artifact.workerId = "analyst" := by decide
  have lists : ∃ e ∈ publishedBetween s handed,
      metadataGet e.metadata "trusted_context" = some (.strs ["summary"]) := by decide
  have reassigns : ∃ e ∈ publishedBetween s asked, e.eventType = .taskReassigned := by decide
  refine ⟨⟨quarantined, ?_⟩, ⟨by decide, trusted "helper"⟩, ?_, ?_⟩
  · obtain ⟨artifact, member, id, producer⟩ := report
    exact ⟨artifact, member, id, producer, contained artifact member (producer ▸ quarantined)⟩
  · obtain ⟨e, member, ids⟩ := lists
    exact ⟨e, member, ids, listed "analyst" "helper" "analyst" "task" [] false e member
      ["summary"] ids "summary" List.mem_cons_self⟩
  · exact accepted "analyst" { id := "helper", role := "analyst" } "task" ["summary"] reassigns
      "summary" List.mem_cons_self

end AgentShield.Taint
