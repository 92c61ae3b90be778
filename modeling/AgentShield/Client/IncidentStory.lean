import AgentShield.Client.Incident
import AgentShield.Runtime.EventLog
import AgentShield.Runtime.LogFold

/-!
Whether the banner tells one story: when its fields come from the five events of one denied
request, over every log of a live session.
-/
namespace AgentShield.Client
open Schema Events Keyed Policy Coop Session LiveRuntimeSession Routes Resources EventLog LogFold

/- The log holds, at `n`, an event of this worker that says at least this. -/
def Says (log : List Event) (n : Nat) (eventType : EventType) (workerId : String)
    (metadata : Metadata) : Prop :=
  ∃ e, log[n]? = some e ∧ e.seq = n ∧ e.eventType = eventType ∧ e.agentId = some workerId ∧
    ∀ entry ∈ metadata, metadataGet e.metadata entry.1 = some entry.2

instance (log : List Event) (n : Nat) (eventType : EventType) (workerId : String)
    (metadata : Metadata) : Decidable (Says log n eventType workerId metadata) :=
  inferInstanceAs (Decidable (∃ e ∈ log[n]?, e.seq = n ∧ e.eventType = eventType ∧
    e.agentId = some workerId ∧
    ∀ entry ∈ metadata, metadataGet e.metadata entry.1 = some entry.2))

/-- One deny cascade, numbered on from `n`. -/
structure DeniedRequest (log : List Event) (n : Nat) (workerId resource rule reason : String)
    (tainted : List String) : Prop where
  requested : Says log n .toolRequested workerId [("resource", .str resource)]
  denied : Says log (n + 1) .toolDenied workerId
    [("resource", .str resource), ("violation_type", .str rule), ("reason", .str reason)]
  violation : Says log (n + 2) .policyViolation workerId
    [("resource", .str resource), ("violation_type", .str rule), ("reason", .str reason)]
  anomaly : Says log (n + 3) .anomalyDetected workerId [("violation_type", .str rule)]
  quarantined : Says log (n + 4) .agentQuarantined workerId
    [("violation_type", .str rule), ("reason", .str reason), ("tainted_artifacts", .strs tainted)]

structure TakenFrom (incident : Incident) (n : Nat) (workerId resource rule reason : String)
    (tainted : List String) : Prop where
  workerId : incident.workerId = some workerId
  resource : incident.resource = some resource
  rule : incident.rule = some rule
  reason : incident.reason = some reason
  tainted : incident.taintedArtifactIds = tainted
  cascade : incident.cascade.map CascadeStep.seq =
    [some n, some (n + 1), some (n + 2), some (n + 4)]

structure Untold (incident : Incident) : Prop where
  workerId : incident.workerId = none
  resource : incident.resource = none
  rule : incident.rule = none
  reason : incident.reason = none
  tainted : incident.taintedArtifactIds = []
  cascade : incident.cascade.map CascadeStep.seq = [none, none, none, none]

def denials (log : List Event) : List Event :=
  log.filter fun e => e.eventType = .policyViolation

/-- Everything shown comes from one denied request; without any, nothing is shown. -/
def OneStory (log : List Event) (incident : Incident) : Prop :=
  denials log = [] ∧ Untold incident ∨
    ∃ n workerId resource rule reason tainted,
      DeniedRequest log n workerId resource rule reason tainted ∧
        TakenFrom incident n workerId resource rule reason tainted

def pathOf (e : Event) : Option String := str e.metadata "resource"

/-- The first quarantine is a denial's, whose path is not empty, and the denials that follow
    it change nothing that is shown. -/
structure FirstDenialStands (log : List Event) : Prop where
  caused : ∀ before e after, log = before ++ e :: after → e.eventType = .agentQuarantined →
    ∃ v ∈ before, v.eventType = .policyViolation
  named : ∀ first ∈ (denials log).head?, (pathOf first).isSome
  /- The last path that a denial names is the first one's. -/
  path : ∀ first ∈ (denials log).head?,
    ((denials log).filterMap pathOf).getLast? = pathOf first
  repeated : ∀ first ∈ (denials log).head?, ∀ last ∈ (denials log).getLast?,
    last.agentId = first.agentId ∧
      str last.metadata "violation_type" = str first.metadata "violation_type" ∧
      str last.metadata "reason" = str first.metadata "reason"

theorem truthy_text {text : String} (nonempty : text ≠ "") : truthy (some text) = some text := by
  unfold truthy
  split
  · rename_i same
    exact absurd (Option.some.inj same) nonempty
  · rfl

theorem truthy_nonempty {value : Option String} {text : String}
    (found : truthy value = some text) : value = some text ∧ text ≠ "" := by
  unfold truthy at found
  split at found
  · cases found
  · rename_i other
    refine ⟨found, ?_⟩
    rintro rfl
    exact other found

theorem rule_nonempty (rule : Rule) : rule.text ≠ "" := by cases rule <;> decide

theorem append_nonempty (front : String) {back : String} (nonempty : back ≠ "") :
    front ++ back ≠ "" := by
  intro empty
  have chars := congrArg String.toList empty
  rw [String.toList_append] at chars
  exact nonempty (String.toList_inj.mp (List.append_eq_nil_iff.mp chars).2)

theorem deny_nonempty {rule : Rule} {reason : String} {normalizedPath : Option String}
    (nonempty : reason ≠ "") : (deny rule reason normalizedPath).reason ≠ "" := nonempty

theorem segments_reason (segments : List (List Char)) :
    (evaluateSegments segments).reason ≠ "" := by
  unfold evaluateSegments
  dsimp only
  split
  · exact deny_nonempty (by decide)
  split
  · exact deny_nonempty (by decide)
  split
  · exact deny_nonempty (by decide)
  split
  · exact deny_nonempty (append_nonempty _ (by decide))
  split
  · exact deny_nonempty (by decide)
  · exact append_nonempty _ (by decide)

theorem reason_nonempty (requested : Requested) : (evaluate requested).reason ≠ "" := by
  cases requested with
  | other => decide
  | text path =>
    simp only [evaluate]
    split
    · decide
    split
    · decide
    split
    · decide
    unfold evaluateStripped
    split
    · decide
    split
    · decide
    split
    · decide
    split
    · decide
    · exact segments_reason _

def Unrefused (d : EventDraft) : Prop :=
  d.eventType ≠ .toolDenied ∧ d.eventType ≠ .policyViolation ∧
    d.eventType ≠ .agentQuarantined ∧
    (d.eventType = .toolRequested → ∃ path, metadataGet d.metadata "resource" = some (.str path) ∧
      (evaluate (.text path)).allowed = true)

def UnrefusedLog (log : List Event) : Prop := ∀ e ∈ log, Unrefused e.toEventDraft

theorem quiet_tells {log : List Event} (quiet : UnrefusedLog log) (story : Story) :
    log.foldl retell story = story := by
  induction log generalizing story with
  | nil => rfl
  | cons e rest ih =>
    obtain ⟨denied, violation, quarantined, _⟩ := quiet e List.mem_cons_self
    rw [List.foldl_cons, tell_other story denied violation quarantined]
    exact ih (fun e later => quiet e (List.mem_cons_of_mem _ later)) story

theorem quiet_denials {log : List Event} (quiet : UnrefusedLog log) : denials log = [] := by
  refine List.filter_eq_nil_iff.mpr ?_
  intro e member
  rw [decide_eq_true_eq]
  exact (quiet e member).2.1

def cascadeStory (s : LiveRuntimeSession) (w : WorkerNode) (path : String) (n : Nat) : Story :=
  { workerId := some w.id
    resource := truthy (some path)
    rule := some (evaluate (.text path)).rule.text
    reason := some (evaluate (.text path)).reason
    taintedArtifactIds := (taintedNow s.artifacts w.id).map Artifact.id
    denied := some (n + 1)
    violation := some (n + 2)
    quarantined := some (n + 4) }

theorem cascade_tells (experimentId : Uuid) (n : Nat) (s : LiveRuntimeSession) (w : WorkerNode)
    (path : String) :
    (number experimentId n (cascadeDrafts s w path)).foldl retell {} = cascadeStory s w path n := by
  have rule := truthy_text (rule_nonempty (evaluate (.text path)).rule)
  have reason := truthy_text (reason_nonempty (.text path))
  simp [cascadeDrafts, denyDrafts, number, retell, cascadeStory, requestedDraft, quarantinedDraft,
    deniedMetadata, resourceMetadata, str, strings, metadataGet, rule, reason]

def blame (story : Story) (e : Event) : Story :=
  { story with
    workerId := e.agentId.or story.workerId
    resource := (pathOf e).or story.resource
    rule := (str e.metadata "violation_type").or story.rule
    reason := (str e.metadata "reason").or story.reason }

structure Pinned (story : Story) : Prop where
  denied : story.denied.isSome
  violation : story.violation.isSome
  quarantined : story.quarantined.isSome

theorem pinned_tells {story : Story} (pinned : Pinned story) (log : List Event) :
    log.foldl retell story = (denials log).foldl blame story := by
  induction log generalizing story with
  | nil => rfl
  | cons e rest ih =>
    rw [List.foldl_cons]
    by_cases violation : e.eventType = .policyViolation
    · have told : retell story e = blame story e := by
        simp [retell, blame, violation, pathOf, Option.or_of_isSome pinned.violation]
      have kept : Pinned (blame story e) := ⟨pinned.denied, pinned.violation, pinned.quarantined⟩
      rw [denials, List.filter_cons_of_pos (by rwa [decide_eq_true_eq]),
        List.foldl_cons, told]
      exact ih kept
    · have told : retell story e = story := by
        unfold retell
        split
        · exact if_pos pinned.denied
        · contradiction
        · exact if_pos pinned.quarantined
        · rfl
      rw [denials, List.filter_cons_of_neg (by rwa [decide_eq_true_eq]), told]
      exact ih pinned

structure Refusal (e : Event) : Prop where
  worker : e.agentId.isSome
  rule : (str e.metadata "violation_type").isSome
  reason : (str e.metadata "reason").isSome

structure Blames (story : Story) (e : Event) : Prop where
  workerId : story.workerId = e.agentId
  rule : story.rule = str e.metadata "violation_type"
  reason : story.reason = str e.metadata "reason"

theorem blame_blames (story : Story) {e : Event} (refusal : Refusal e) :
    Blames (blame story e) e := by
  constructor
  · exact Option.or_of_isSome refusal.worker
  · exact Option.or_of_isSome refusal.rule
  · exact Option.or_of_isSome refusal.reason

/-- The last one is blamed. -/
theorem last_blamed {story : Story} {first : Event} {later : List Event}
    (refusals : ∀ e ∈ later, Refusal e) (blames : Blames story first) :
    ∃ last, (first :: later).getLast? = some last ∧ Blames (later.foldl blame story) last := by
  induction later generalizing story first with
  | nil => exact ⟨first, rfl, blames⟩
  | cons e rest ih =>
    obtain ⟨last, found, blamed⟩ :=
      ih (fun e member => refusals e (List.mem_cons_of_mem _ member))
        (blame_blames story (refusals e List.mem_cons_self))
    exact ⟨last, found, blamed⟩

theorem last_path (story : Story) (later : List Event) :
    (later.foldl blame story).resource =
      ((later.filterMap pathOf).getLast?).or story.resource := by
  induction later using List.reverseRecOn with
  | nil => rfl
  | append_singleton rest e ih =>
    rw [List.foldl_append, List.foldl_cons, List.foldl_nil, blame, ih, List.filterMap_append]
    cases named : pathOf e <;> simp [named]

theorem blame_keeps (story : Story) (later : List Event) :
    (later.foldl blame story).denied = story.denied ∧
    (later.foldl blame story).violation = story.violation ∧
    (later.foldl blame story).quarantined = story.quarantined ∧
    (later.foldl blame story).taintedArtifactIds = story.taintedArtifactIds := by
  induction later generalizing story with
  | nil => exact ⟨rfl, rfl, rfl, rfl⟩
  | cons e rest ih => exact ih (blame story e)

inductive Phase (log : List Event) : Prop where
  | quiet (quiet : UnrefusedLog log)
  | denied (before : List Event) (experimentId : Uuid) (s : LiveRuntimeSession) (w : WorkerNode)
      (path : String) (after : List Event)
      (split : log =
        before ++ number experimentId before.length (cascadeDrafts s w path) ++ after)
      (quiet : UnrefusedLog before) (refused : (evaluate (.text path)).allowed = false)
      (refusals : ∀ e ∈ denials after, Refusal e)
  | apart (before : List Event) (e : Event) (after : List Event)
      (split : log = before ++ e :: after) (quiet : UnrefusedLog before)
      (type : e.eventType = .agentQuarantined)

theorem apply_quarantined {v : SecurityView} {e : EventDraft} {id : String}
    (other : e.eventType ≠ .agentQuarantined)
    (state : (applyEvent v e).states id = some .quarantined) :
    v.states id = some .quarantined := by
  unfold applyEvent at state
  split at state
  · dsimp only [mark] at state
    split at state
    · cases state
    · exact state
  · contradiction
  · exact state
  · dsimp only [mark] at state
    split at state
    · cases state
    · exact state
  · exact state
  · exact state
  · exact state
  · exact state

theorem fold_quarantined {log : List EventDraft} {v : SecurityView} {id : String}
    (none_ : ∀ e ∈ log, e.eventType ≠ .agentQuarantined)
    (state : (log.foldl applyEvent v).states id = some .quarantined) :
    v.states id = some .quarantined := by
  induction log generalizing v with
  | nil => exact state
  | cons e rest ih =>
    have earlier := ih (fun e later => none_ e (List.mem_cons_of_mem _ later)) state
    exact apply_quarantined (none_ e List.mem_cons_self) earlier

structure Chronicle (s : LiveRuntimeSession) : Prop where
  ordered : Ordered s
  view : viewOf s = foldLog s.log
  phase : Phase s.log

/-- Before the first quarantine every worker is on the team. -/
theorem quiet_active {s : LiveRuntimeSession} {workerId : String} {w : WorkerNode}
    (view : viewOf s = foldLog s.log) (quiet : UnrefusedLog s.log)
    (found : s.workers.get? workerId = some w) : w.isActive = true := by
  rw [WorkerNode.isActive, decide_eq_true_eq]
  intro state
  have seen : (foldLog s.log).states workerId = some .quarantined := by
    rw [← view]
    change (s.workers.get? workerId).map WorkerNode.securityState = _
    rw [found, Option.map_some, state]
  have none_ : ∀ d ∈ s.log.map Event.toEventDraft, d.eventType ≠ .agentQuarantined := by
    intro d member
    obtain ⟨e, inside, rfl⟩ := List.mem_map.mp member
    exact (quiet e inside).2.2.1
  cases fold_quarantined none_ seen

theorem quiet_nil : UnrefusedLog [] := List.forall_mem_nil _

theorem quiet_append {log : List Event} (quiet : UnrefusedLog log) {drafts : List EventDraft}
    (unrefused : ∀ d ∈ drafts, Unrefused d) (experimentId : Uuid) (n : Nat) :
    UnrefusedLog (log ++ number experimentId n drafts) := by
  intro e member
  rcases List.mem_append.mp member with old | new
  · exact quiet e old
  · exact unrefused _ (number_member new)

theorem served_unrefused (s : LiveRuntimeSession) (workerId : String) {resourcePath : String}
    (allowed : (evaluate (.text resourcePath)).allowed = true) :
    ∀ d ∈ [s.requestedDraft workerId resourcePath, executedDraft s workerId resourcePath],
      Unrefused d := by
  rw [List.forall_mem_cons, List.forall_mem_singleton]
  refine ⟨⟨by simp [requestedDraft], by simp [requestedDraft], by simp [requestedDraft], ?_⟩, ?_⟩
  · intro _
    exact ⟨resourcePath, by simp [requestedDraft, resourceMetadata, metadataGet], allowed⟩
  · simp [Unrefused, executedDraft]

theorem quiet_phase {s body : LiveRuntimeSession} {op : Operation} {drafts : List EventDraft}
    (ordered : Ordered s) (view : viewOf s = foldLog s.log) (quiet : UnrefusedLog s.log)
    (effect : Effect s op body drafts) : Phase (body.published drafts).log := by
  have next := ordered.next
  rw [effect_log effect]
  have still : (∀ d ∈ drafts, Unrefused d) →
      Phase (s.log ++ number s.emitter.experimentId s.emitter.nextSeq drafts) :=
    fun unrefused => .quiet (quiet_append quiet unrefused _ _)
  cases effect with
  | @denied workerId w found active path refused =>
    obtain rfl := Table.get?_key found
    refine .denied s.log s.emitter.experimentId s.advanced w path [] ?_ quiet refused
      (List.forall_mem_nil _)
    rw [List.append_nil, next]
    rfl
  | quarantined => exact .apart s.log _ [] rfl quiet rfl
  | refused found inactive =>
    rw [quiet_active view quiet found] at inactive
    cases inactive
  | served found active allowed => exact still (served_unrefused s.advanced _ allowed)
  | recovered => exact still (forall_recovered (fun w => by simp [Unrefused]) (by simp [Unrefused]))
  | unchanged => exact still (List.forall_mem_nil _)
  | recorded => exact still (List.forall_mem_nil _)
  | testRejected => exact still (List.forall_mem_nil _)
  | registered => exact still (by simp [Unrefused])
  | started => exact still (by simp [Unrefused])
  | completed found active drafted =>
    exact still (by simp [Unrefused, completedDraft_eventType drafted])
  | undrafted => exact still (List.forall_mem_nil _)
  | called => exact still (by simp [Unrefused])
  | reassigned => exact still (by simp [Unrefused, reassignedDrafts])
  | tested => exact still (by simp [Unrefused])
  | failed => exact still (by simp [Unrefused])

def violationOf (experimentId : Uuid) (n : Nat) (s : LiveRuntimeSession) (w : WorkerNode)
    (path : String) : Event :=
  { s.draft .policyViolation w.id
      [("violation_type", .str (evaluate (.text path)).rule.text), ("resource", .str path),
        ("reason", .str (evaluate (.text path)).reason)] with
    riskScore := some 1
    seq := n + 2
    experimentId }

theorem cascade_denials (experimentId : Uuid) (n : Nat) (s : LiveRuntimeSession) (w : WorkerNode)
    (path : String) : denials (number experimentId n (cascadeDrafts s w path)) =
      [violationOf experimentId n s w path] := rfl

theorem cascade_refusal {experimentId : Uuid} {n : Nat} {s : LiveRuntimeSession} {w : WorkerNode}
    {path : String} : ∀ e ∈ denials (number experimentId n (cascadeDrafts s w path)), Refusal e := by
  have rule := truthy_text (rule_nonempty (evaluate (.text path)).rule)
  have reason := truthy_text (reason_nonempty (.text path))
  intro e member
  rw [cascade_denials] at member
  obtain rfl := List.mem_singleton.mp member
  constructor
  · rfl
  · simp [violationOf, str, metadataGet, rule]
  · simp [violationOf, str, metadataGet, reason]

theorem denials_append (first later : List Event) :
    denials (first ++ later) = denials first ++ denials later := List.filter_append first later

theorem denials_step {s body : LiveRuntimeSession} {op : Operation} {drafts : List EventDraft}
    (effect : Effect s op body drafts) (experimentId : Uuid) (n : Nat) :
    ∀ e ∈ denials (number experimentId n drafts), Refusal e := by
  rcases effect_violates effect with none_ | ⟨w, path, rfl⟩
  · intro e member
    obtain ⟨inside, type⟩ := List.mem_filter.mp member
    exact absurd (decide_eq_true_eq.mp type) (none_ _ (number_member inside))
  · exact cascade_refusal

theorem chronicle_step {s body : LiveRuntimeSession} {op : Operation} {drafts : List EventDraft}
    (chronicle : Chronicle s) (effect : Effect s op body drafts) :
    Chronicle (body.published drafts) := by
  obtain ⟨ordered, view, phase⟩ := chronicle
  refine ⟨ordered_step ordered effect, ?_, ?_⟩
  · rw [effect_log effect, foldLog_append, ← view]
    have step : viewOf body = _ := view_step effect
    exact step
  · cases phase with
    | quiet quiet => exact quiet_phase ordered view quiet effect
    | denied before experimentId s₀ w path after split quiet refused refusals =>
      refine .denied before experimentId s₀ w path
        (after ++ number s.emitter.experimentId s.emitter.nextSeq drafts) ?_ quiet refused ?_
      · rw [effect_log effect, split, List.append_assoc _ after]
      · rw [denials_append]
        exact List.forall_mem_append.mpr ⟨refusals, denials_step effect _ _⟩
    | apart before e after split quiet type =>
      refine .apart before e (after ++ number s.emitter.experimentId s.emitter.nextSeq drafts) ?_
        quiet type
      rw [effect_log effect, split, List.append_assoc, List.cons_append]

theorem new_chronicle (sessionId : Uuid) (objective : String) :
    Chronicle (LiveRuntimeSession.new sessionId objective) :=
  ⟨⟨rfl, rfl, List.forall_mem_nil _, List.Pairwise.nil⟩, rfl, .quiet quiet_nil⟩

theorem reachable_chronicle {disk : Disk} {root : Path} {sessionId : Uuid} {objective : String}
    {c : Config LiveRuntimeSession HttpError Unit}
    (reach : Reachable (call disk root) (LiveRuntimeSession.new sessionId objective) c) :
    Chronicle c.state :=
  reachable_call_invariant Chronicle (new_chronicle sessionId objective)
    (fun _ _ _ _ chronicle effect => chronicle_step chronicle effect) reach

section Denied
variable {before after : List Event} {experimentId : Uuid} {s : LiveRuntimeSession}
  {w : WorkerNode} {path : String}

theorem cascade_at {k : Nat} (inside : k < 5) :
    (before ++ number experimentId before.length (cascadeDrafts s w path) ++ after)[
        before.length + k]? =
      (number experimentId before.length (cascadeDrafts s w path))[k]? := by
  have five : (number experimentId before.length (cascadeDrafts s w path)).length = 5 := by
    rw [number_length]
    rfl
  rw [List.append_assoc, List.getElem?_append_right (Nat.le_add_right _ _),
    Nat.add_sub_cancel_left, List.getElem?_append_left (by omega)]

theorem cascade_said : DeniedRequest
    (before ++ number experimentId before.length (cascadeDrafts s w path) ++ after) before.length
    w.id path (evaluate (.text path)).rule.text (evaluate (.text path)).reason
    ((taintedNow s.artifacts w.id).map Artifact.id) := by
  constructor
  · exact ⟨_, cascade_at (k := 0) (by decide), rfl, rfl, rfl, by
      simp [requestedDraft, resourceMetadata, metadataGet]⟩
  · exact ⟨_, cascade_at (k := 1) (by decide), rfl, rfl, rfl, by
      simp [deniedMetadata, resourceMetadata, metadataGet]⟩
  · exact ⟨_, cascade_at (k := 2) (by decide), rfl, rfl, rfl, by simp [metadataGet]⟩
  · exact ⟨_, cascade_at (k := 3) (by decide), rfl, rfl, rfl, by simp [metadataGet]⟩
  · exact ⟨_, cascade_at (k := 4) (by decide), rfl, rfl, rfl, by
      simp [quarantinedDraft, metadataGet]⟩

theorem denied_denials (quiet : UnrefusedLog before) :
    denials (before ++ number experimentId before.length (cascadeDrafts s w path) ++ after) =
      violationOf experimentId before.length s w path :: denials after := by
  rw [denials_append, denials_append, quiet_denials quiet, cascade_denials]
  rfl

theorem denied_story (quiet : UnrefusedLog before) :
    storyOf (before ++ number experimentId before.length (cascadeDrafts s w path) ++ after) =
      (denials after).foldl blame (cascadeStory s w path before.length) := by
  rw [storyOf, List.foldl_append, List.foldl_append, quiet_tells quiet, cascade_tells]
  exact pinned_tells ⟨rfl, rfl, rfl⟩ after

theorem cascade_blames (n : Nat) :
    Blames (cascadeStory s w path n) (violationOf experimentId n s w path) := by
  have rule := truthy_text (rule_nonempty (evaluate (.text path)).rule)
  have reason := truthy_text (reason_nonempty (.text path))
  constructor
  · rfl
  · simp [cascadeStory, violationOf, str, metadataGet, rule]
  · simp [cascadeStory, violationOf, str, metadataGet, reason]

theorem violation_path (n : Nat) :
    pathOf (violationOf experimentId n s w path) = truthy (some path) := by
  simp [pathOf, violationOf, str, metadataGet]

theorem denied_resource (quiet : UnrefusedLog before) :
    (storyOf (before ++ number experimentId before.length (cascadeDrafts s w path) ++
        after)).resource =
      ((denials (before ++ number experimentId before.length (cascadeDrafts s w path) ++
        after)).filterMap pathOf).getLast? := by
  rw [denied_story quiet, last_path, denied_denials quiet, cascadeStory, ← violation_path]
  cases named : pathOf (violationOf experimentId before.length s w path) with
  | none => simp [named]
  | some first =>
    rw [List.filterMap_cons_some named, List.getLast?_cons]
    cases ((denials after).filterMap pathOf).getLast? <;> rfl

/-- A refused path was never asked for before the first refusal. -/
theorem denied_request (quiet : UnrefusedLog before) (refused : (evaluate (.text path)).allowed = false)
    (named : path ≠ "") :
    (requestFor (before ++ number experimentId before.length (cascadeDrafts s w path) ++ after)
      path).map Event.seq = some before.length := by
  have earlier : before.find? (fun event =>
      event.eventType = .toolRequested ∧ str event.metadata "resource" = some path) = none := by
    refine List.find?_eq_none.mpr ?_
    intro e member
    rw [decide_eq_true_eq]
    rintro ⟨type, asked⟩
    obtain ⟨other, said, allowed⟩ := (quiet e member).2.2.2 type
    rw [str, said] at asked
    obtain ⟨same, _⟩ := truthy_nonempty asked
    rw [Option.some.inj same, refused] at allowed
    cases allowed
  have text := truthy_text named
  unfold requestFor
  rw [List.append_assoc, List.find?_append, earlier, Option.none_or]
  simp [cascadeDrafts, number, requestedDraft, resourceMetadata, str, metadataGet, text]

theorem denied_pinned (quiet : UnrefusedLog before) :
    let story := storyOf (before ++ number experimentId before.length (cascadeDrafts s w path) ++
      after)
    story.denied = some (before.length + 1) ∧ story.violation = some (before.length + 2) ∧
      story.quarantined = some (before.length + 4) ∧
      story.taintedArtifactIds = (taintedNow s.artifacts w.id).map Artifact.id := by
  intro story
  have told : story = _ := denied_story quiet
  rw [told]
  exact blame_keeps _ _

theorem denied_caused (quiet : UnrefusedLog before) {front rest : List Event} {e : Event}
    (split : before ++ number experimentId before.length (cascadeDrafts s w path) ++ after =
      front ++ e :: rest) (type : e.eventType = .agentQuarantined) :
    ∃ v ∈ front, v.eventType = .policyViolation := by
  obtain ⟨first, second, violation, anomaly, last, five, violated, others⟩ :
      ∃ first second violation anomaly last,
        number experimentId before.length (cascadeDrafts s w path) =
          [first, second, violation] ++ [anomaly, last] ∧
        violation.eventType = .policyViolation ∧
        ∀ e ∈ [first, second, violation], e.eventType ≠ .agentQuarantined := by
    refine ⟨_, _, _, _, _, rfl, rfl, ?_⟩
    simp [requestedDraft]
  rw [five, ← List.append_assoc, List.append_assoc _ [anomaly, last]] at split
  rcases History.split_append split with ⟨middle, old, _⟩ | ⟨middle, rfl, _⟩
  · have member : e ∈ before ++ [first, second, violation] := by
      rw [old]
      simp
    rcases List.mem_append.mp member with early | inside
    · exact absurd type (quiet e early).2.2.1
    · exact absurd type (others e inside)
  · exact ⟨violation, by simp, violated⟩

theorem denied_once {log : List Event} {n : Nat} {workerId workerId' resource resource' rule rule'
    reason reason' : String} {tainted tainted' : List String}
    (one : DeniedRequest log n workerId resource rule reason tainted)
    (other : DeniedRequest log n workerId' resource' rule' reason' tainted') :
    workerId = workerId' ∧ resource = resource' ∧ rule = rule' ∧ reason = reason' := by
  obtain ⟨e, found, _, _, agent, said⟩ := one.violation
  obtain ⟨e', found', _, _, agent', said'⟩ := other.violation
  obtain rfl := Option.some.inj (found.symm.trans found')
  simp only [List.forall_mem_cons] at said said'
  obtain ⟨resources, rules, reasons, _⟩ := said
  obtain ⟨resources', rules', reasons', _⟩ := said'
  refine ⟨Option.some.inj (agent.symm.trans agent'), ?_, ?_, ?_⟩
  · exact JsonValue.str.inj (Option.some.inj (resources.symm.trans resources'))
  · exact JsonValue.str.inj (Option.some.inj (rules.symm.trans rules'))
  · exact JsonValue.str.inj (Option.some.inj (reasons.symm.trans reasons'))

theorem pathOf_nonempty {e : Event} {path : String} (named : pathOf e = some path) :
    path ≠ "" := by
  unfold pathOf str at named
  split at named
  · exact (truthy_nonempty named).2
  · cases named

theorem denied_iff (quiet : UnrefusedLog before) (refused : (evaluate (.text path)).allowed = false)
    (refusals : ∀ e ∈ denials after, Refusal e) :
    let log := before ++ number experimentId before.length (cascadeDrafts s w path) ++ after
    OneStory log (deriveIncident log) ↔ FirstDenialStands log := by
  intro log
  let first := violationOf experimentId before.length s w path
  have said : DeniedRequest log before.length _ _ _ _ _ := cascade_said
  have counted : denials log = first :: denials after := denied_denials quiet
  have resources : (storyOf log).resource = ((denials log).filterMap pathOf).getLast? :=
    denied_resource quiet
  have firstPath : pathOf first = truthy (some path) := violation_path before.length
  obtain ⟨denied, violation, quarantined, tainted⟩ : (storyOf log).denied = _ ∧
      (storyOf log).violation = _ ∧ (storyOf log).quarantined = _ ∧
      (storyOf log).taintedArtifactIds = _ := denied_pinned quiet
  have told : Blames (cascadeStory s w path before.length) first := cascade_blames before.length
  obtain ⟨last, ended, blamed⟩ := last_blamed refusals told
  rw [← denied_story quiet] at blamed
  have lastOf : (denials log).getLast? = some last := by rw [counted]; exact ended
  obtain ⟨shownWorker, shownResource, shownRule, shownReason, shownTainted, steps⟩ :=
    incident_story log
  have firstBlamed : Blames _ first := cascade_blames before.length
  constructor
  · rintro (⟨none_, _⟩ | ⟨n, workerId, resource, rule, reason, _, request, taken⟩)
    · rw [counted] at none_
      cases none_
    have here : n = before.length := by
      have cascade := taken.cascade
      rw [steps, violation] at cascade
      simp only [List.cons.injEq, Option.some.injEq] at cascade
      omega
    subst here
    obtain ⟨rfl, rfl, rfl, rfl⟩ := denied_once said request
    have named : ((denials log).filterMap pathOf).getLast? = some path := by
      rw [← resources, ← shownResource, taken.resource]
    obtain ⟨e, _, names⟩ := List.mem_filterMap.mp (List.mem_of_getLast? named)
    rw [truthy_text (pathOf_nonempty names)] at firstPath
    have blames : Blames (storyOf log) first := by
      constructor
      · exact (shownWorker.symm.trans taken.workerId).trans firstBlamed.workerId
      · exact (shownRule.symm.trans taken.rule).trans firstBlamed.rule
      · exact (shownReason.symm.trans taken.reason).trans firstBlamed.reason
    have head : (denials log).head? = some first := by rw [counted]; rfl
    constructor
    · intro front e rest split type
      exact denied_caused quiet split type
    · intro v found
      obtain rfl := Option.some.inj (head.symm.trans found)
      rw [firstPath]
      rfl
    · intro v found
      obtain rfl := Option.some.inj (head.symm.trans found)
      rw [firstPath, named]
    · intro v found v' found'
      obtain rfl := Option.some.inj (head.symm.trans found)
      obtain rfl := Option.some.inj (lastOf.symm.trans found')
      exact ⟨blamed.workerId.symm.trans blames.workerId, blamed.rule.symm.trans blames.rule,
        blamed.reason.symm.trans blames.reason⟩
  · intro stands
    have head : first ∈ (denials log).head? := by rw [counted]; rfl
    have named := stands.named first head
    rw [firstPath] at named
    obtain ⟨text, found⟩ := Option.isSome_iff_exists.mp named
    obtain ⟨same, nonempty⟩ := truthy_nonempty found
    obtain rfl := Option.some.inj same
    obtain ⟨sameWorker, sameRule, sameReason⟩ := stands.repeated first head last lastOf
    have resource : (storyOf log).resource = some path := by
      rw [resources, stands.path first head, firstPath, found]
    refine Or.inr ⟨before.length, _, _, _, _, _, said, ?_⟩
    constructor
    · rw [shownWorker, blamed.workerId, sameWorker]
      rfl
    · rw [shownResource, resource]
    · rw [shownRule, blamed.rule, sameRule, ← firstBlamed.rule]
      rfl
    · rw [shownReason, blamed.reason, sameReason, ← firstBlamed.reason]
      rfl
    · rw [shownTainted, tainted]
    · rw [steps, resource, Option.bind_some, denied_request quiet refused nonempty, denied,
        violation, quarantined]

end Denied

theorem quiet_one_story {log : List Event} (quiet : UnrefusedLog log) :
    OneStory log (deriveIncident log) ∧ FirstDenialStands log := by
  have none_ := quiet_denials quiet
  have untold : storyOf log = {} := quiet_tells quiet {}
  obtain ⟨worker, resource, rule, reason, tainted, steps⟩ := incident_story log
  rw [untold] at worker resource rule reason tainted steps
  refine ⟨Or.inl ⟨none_, worker, resource, rule, reason, tainted, steps⟩, ?_, ?_, ?_, ?_⟩
  · intro before e after split type
    exact absurd type (quiet e (by rw [split]; simp)).2.2.1
  · simp [none_]
  · simp [none_]
  · simp [none_]

theorem quarantine_pinned {story : Story} {n : Nat} (pinned : story.quarantined = some n)
    (log : List Event) : (log.foldl retell story).quarantined = some n := by
  refine List.foldlRecOn (motive := fun story : Story => story.quarantined = some n)
    log retell pinned ?_
  intro story kept e _
  unfold retell
  split
  · split <;> exact kept
  · exact kept
  · rw [if_pos (Option.isSome_of_mem kept)]
    exact kept
  · exact kept

theorem apart_no_story {before after : List Event} {e : Event} (quiet : UnrefusedLog before)
    (type : e.eventType = .agentQuarantined) (seq : e.seq = before.length) :
    ¬ OneStory (before ++ e :: after) (deriveIncident (before ++ e :: after)) ∧
      ¬ FirstDenialStands (before ++ e :: after) := by
  have isolated : (storyOf (before ++ e :: after)).quarantined = some before.length := by
    rw [storyOf, List.foldl_append, quiet_tells quiet, List.foldl_cons]
    apply quarantine_pinned
    simp [retell, type, seq]
  obtain ⟨_, _, _, _, _, steps⟩ := incident_story (before ++ e :: after)
  rw [isolated] at steps
  constructor
  · rintro (⟨_, untold⟩ | ⟨n, _, _, _, _, _, request, taken⟩)
    · have cascade := steps.symm.trans untold.cascade
      simp at cascade
    · have cascade := steps.symm.trans taken.cascade
      simp only [List.cons.injEq, Option.some.injEq] at cascade
      obtain ⟨v, found, _, violation, _⟩ := request.violation
      rw [List.getElem?_append_left (by omega)] at found
      exact (quiet v (List.mem_of_getElem? found)).2.1 violation
  · intro stands
    obtain ⟨v, member, violation⟩ := stands.caused before e after rfl type
    exact (quiet v member).2.1 violation

/-- The banner takes everything from one denied request exactly if the first quarantine comes
    from a denial and no later denial changes what that one showed. -/
theorem incident_is_one_story_iff (disk : Disk) (root : Path) (sessionId : Uuid)
    (objective : String) (c : Config LiveRuntimeSession HttpError Unit)
    (reach : Reachable (call disk root) (LiveRuntimeSession.new sessionId objective) c) :
    OneStory c.state.log (deriveIncident c.state.log) ↔ FirstDenialStands c.state.log := by
  obtain ⟨ordered, _, phase⟩ := reachable_chronicle reach
  cases phase with
  | quiet quiet =>
    obtain ⟨story, stands⟩ := quiet_one_story quiet
    exact iff_of_true story stands
  | denied before experimentId s w path after split quiet refused refusals =>
    rw [split]
    exact denied_iff quiet refused refusals
  | apart before e after split quiet type =>
    have seqs := ordered.seqs
    rw [split] at seqs
    obtain ⟨_, rest⟩ := History.numbered_read seqs
    rw [List.map_cons, List.length_cons, List.range'_succ] at rest
    have told : ¬ OneStory (before ++ e :: after) (deriveIncident (before ++ e :: after)) ∧
        ¬ FirstDenialStands (before ++ e :: after) :=
      apart_no_story quiet type (List.cons.inj rest).1
    obtain ⟨mixed, fallen⟩ := told
    rw [split]
    exact iff_of_false mixed fallen

def secretRequest (workerId file : String) : Call :=
  .request (.requestResource workerId ("demo_target/secrets/" ++ file) true)

def readerDenied : LiveRuntimeSession :=
  serial (call (fun _ => none) []) (LiveRuntimeSession.new 0 "objective")
    [.request (.registerWorker reader), secretRequest "reader" "key"]

theorem reader_denial_stands :
    OneStory readerDenied.log (deriveIncident readerDenied.log) ∧
      FirstDenialStands readerDenied.log := by
  have first : Reachable (call (fun _ => none) []) (LiveRuntimeSession.new 0 "objective") _ :=
    .tail .refl (.arrive (.request (.registerWorker reader)) _)
  have second := first.tail (.arrive (secretRequest "reader" "key") _)
  have story : OneStory readerDenied.log (deriveIncident readerDenied.log) := by
    refine Or.inr ⟨1, "reader", "demo_target/secrets/key", "protected_path",
      "demo_target/secrets/ is a protected directory; access is denied.", [], ?_, ?_⟩
    · constructor <;> decide
    · constructor <;> decide
  exact ⟨story, (incident_is_one_story_iff (fun _ => none) [] 0 "objective" _ second).mp story⟩

def bothDenied : LiveRuntimeSession :=
  serial (call (fun _ => none) []) (LiveRuntimeSession.new 0 "objective")
    [.request (.registerWorker reader),
      .request (.registerWorker { id := "writer", role := "developer" }),
      secretRequest "reader" "key", secretRequest "writer" "token"]

/-- The second worker and its path, between the steps of the first one. -/
theorem second_denial_mixes_in :
    (deriveIncident bothDenied.log).workerId = some "writer" ∧
      (deriveIncident bothDenied.log).cascade.map CascadeStep.seq =
        [some 7, some 3, some 4, some 6] ∧
      ¬ OneStory bothDenied.log (deriveIncident bothDenied.log) := by
  have steps : (deriveIncident bothDenied.log).cascade.map CascadeStep.seq =
      [some 7, some 3, some 4, some 6] := by decide
  refine ⟨by decide, steps, ?_⟩
  rintro (⟨_, untold⟩ | ⟨n, _, _, _, _, _, _, taken⟩)
  · have cascade := steps.symm.trans untold.cascade
    simp at cascade
  · have cascade := steps.symm.trans taken.cascade
    simp only [List.cons.injEq, Option.some.injEq] at cascade
    omega

end AgentShield.Client
