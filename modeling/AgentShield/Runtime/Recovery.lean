import AgentShield.Lib.History
import AgentShield.Runtime.LogFold
import AgentShield.Runtime.Quarantine

/-!
What `recovery_required` means. The session keeps one flag and no set of
outstanding workers: a quarantine raises it, and any hand-over and the recovery
of the workflow lower it, whichever worker they are about.
-/
namespace AgentShield.Recovery
open Schema Events Keyed Coop Session LiveRuntimeSession Routes Resources Quarantine LogFold

/-- The events that lower the flag. -/
def Lowers (e : EventDraft) : Prop :=
  e.eventType = .taskReassigned ∨ e.eventType = .workflowRecovered

instance (e : EventDraft) : Decidable (Lowers e) := by
  unfold Lowers
  infer_instance

/-- A quarantine that no hand-over and no recovery of the workflow followed. -/
def OpenQuarantine (log : List EventDraft) (e : EventDraft) : Prop :=
  ∃ before after, log = before ++ e :: after ∧ e.eventType = .agentQuarantined ∧
    ∀ later ∈ after, ¬ Lowers later

theorem required_apply (v : SecurityView) (e : EventDraft) :
    (applyEvent v e).recoveryRequired =
      if e.eventType = .agentQuarantined then true
      else if Lowers e then false
      else v.recoveryRequired := by
  cases type : e.eventType <;> simp [applyEvent, Lowers, type]

theorem open_concat {log : List EventDraft} {e last : EventDraft} :
    OpenQuarantine (log ++ [last]) e ↔
      e = last ∧ last.eventType = .agentQuarantined ∨
        OpenQuarantine log e ∧ ¬ Lowers last := by
  constructor
  · rintro ⟨before, after, split, type, quiet⟩
    induction after using List.reverseRecOn with
    | nil =>
      left
      obtain ⟨_, same⟩ := List.append_inj' split rfl
      obtain rfl := (List.cons.inj same).1
      exact ⟨rfl, type⟩
    | append_singleton after final _ =>
      right
      rw [← List.cons_append, ← List.append_assoc] at split
      obtain ⟨rest, same⟩ := List.append_inj' split rfl
      obtain rfl := (List.cons.inj same).1
      refine ⟨⟨before, after, rest, type, ?_⟩, quiet last (by simp)⟩
      intro later member
      exact quiet later (List.mem_append_left _ member)
  · rintro (⟨rfl, type⟩ | ⟨⟨before, after, rfl, type, quiet⟩, kept⟩)
    · exact ⟨log, [], rfl, type, by simp⟩
    · refine ⟨before, after ++ [last], by simp, type, ?_⟩
      intro later member
      rcases List.mem_append.mp member with old | new
      · exact quiet later old
      · obtain rfl := List.mem_singleton.mp new
        exact kept

theorem required_iff_open (log : List EventDraft) :
    (log.foldl applyEvent initialView).recoveryRequired = true ↔ ∃ e, OpenQuarantine log e := by
  induction log using List.reverseRecOn with
  | nil =>
    constructor
    · intro required
      cases required
    · rintro ⟨e, before, after, split, _⟩
      simp at split
  | append_singleton log last ih =>
    rw [List.foldl_append, List.foldl_cons, List.foldl_nil, required_apply]
    by_cases quarantines : last.eventType = .agentQuarantined
    · rw [if_pos quarantines]
      simp only [true_iff]
      exact ⟨last, open_concat.mpr (Or.inl ⟨rfl, quarantines⟩)⟩
    · rw [if_neg quarantines]
      by_cases lowers : Lowers last
      · rw [if_pos lowers]
        simp only [Bool.false_eq_true, false_iff, not_exists]
        intro e still
        rcases open_concat.mp still with ⟨_, type⟩ | ⟨_, kept⟩
        · exact quarantines type
        · exact kept lowers
      · rw [if_neg lowers, ih]
        constructor
        · rintro ⟨e, still⟩
          exact ⟨e, open_concat.mpr (Or.inr ⟨still, lowers⟩)⟩
        · rintro ⟨e, still⟩
          rcases open_concat.mp still with ⟨_, type⟩ | ⟨old, _⟩
          · exact absurd type quarantines
          · exact ⟨e, old⟩

def Creates (id : String) (e : EventDraft) : Prop :=
  e.eventType = .agentCreated ∧ e.agentId = some id

theorem quarantined_unless_created {s body : LiveRuntimeSession} {op : Operation}
    {drafts : List EventDraft} {id : String} (effect : Effect s op body drafts)
    (quarantined : Quarantined id s) (kept : ∀ d ∈ drafts, ¬ Creates id d) :
    Quarantined id body := by
  cases effect with
  | unchanged => exact quarantined
  | registered workerId =>
    have other : workerId ≠ id := by simpa [Creates] using kept
    exact put_other quarantined rfl other
  | started found active =>
    have other := active_other quarantined found active
    exact put_other quarantined rfl (Table.get?_key found ▸ other)
  | completed found active =>
    have other := active_other quarantined found active
    exact put_other quarantined rfl (Table.get?_key found ▸ other)
  | undrafted found active =>
    have other := active_other quarantined found active
    exact put_other quarantined rfl (Table.get?_key found ▸ other)
  | @called workerId w found =>
    by_cases same : workerId = id
    · obtain ⟨old, here, state⟩ := quarantined
      rw [same, here] at found
      obtain rfl := Option.some.inj found
      exact put_quarantined ⟨old, here, state⟩ rfl state
    · exact put_other quarantined rfl (Table.get?_key found ▸ same)
  | recorded => exact quarantined
  | refused => exact quarantined
  | served => exact quarantined
  | denied => exact put_quarantined quarantined rfl rfl
  | quarantined => exact put_quarantined quarantined rfl rfl
  | reassigned found toWorkerId =>
    have other : toWorkerId ≠ id := by
      simpa [Creates, reassignedDrafts] using kept
    exact put_other quarantined rfl other
  | testRejected => exact quarantined
  | tested found active =>
    have other := active_other quarantined found active
    exact put_other quarantined rfl (Table.get?_key found ▸ other)
  | recovered => exact recovering_keeps quarantined
  | failed => exact quarantined

theorem quarantining_now (s : LiveRuntimeSession) (w : WorkerNode)
    (reason violationType : String) (compromisedBy : Option String) :
    Quarantined w.id (s.quarantining w reason violationType compromisedBy) := by
  refine ⟨w.quarantine s.step reason compromisedBy, ?_, rfl⟩
  rw [quarantining, Table.get?_put, if_pos]
  rfl

theorem quarantines_now {s body : LiveRuntimeSession} {op : Operation} {drafts : List EventDraft}
    (effect : Effect s op body drafts) :
    ∀ d ∈ drafts, d.eventType = .agentQuarantined →
      ∃ id, d.agentId = some id ∧ Quarantined id body := by
  cases effect with
  | unchanged => simp
  | registered => simp
  | started => simp
  | completed found active drafted => simp [completedDraft_eventType drafted]
  | undrafted => simp
  | called => simp
  | recorded => simp
  | refused => simp [requestedDraft]
  | served => simp [requestedDraft]
  | denied =>
    simp [requestedDraft, denyDrafts, quarantinedDraft, quarantining_now]
  | quarantined => simp [quarantinedDraft, quarantining_now]
  | reassigned => simp [reassignedDrafts]
  | testRejected => simp
  | tested => simp
  | recovered => exact forall_recovered (by simp) (by simp)
  | failed => simp

/- A logged quarantine is in force unless its id was created anew since. -/
def StillQuarantined (s : LiveRuntimeSession) : Prop :=
  ∀ before e after, s.log.map Event.toEventDraft = before ++ e :: after →
    e.eventType = .agentQuarantined →
    ∃ id, e.agentId = some id ∧ ((∀ later ∈ after, ¬ Creates id later) → Quarantined id s)

theorem still_quarantined_step {s body : LiveRuntimeSession} {op : Operation}
    {drafts : List EventDraft} (still : StillQuarantined s) (effect : Effect s op body drafts) :
    StillQuarantined (body.published drafts) := by
  intro before e after split type
  rw [effect_log effect, List.map_append, number_drafts] at split
  rcases History.split_append split with ⟨middle, old, rfl⟩ | ⟨middle, _, new⟩
  · obtain ⟨id, agent, quarantined⟩ := still before e middle old type
    refine ⟨id, agent, ?_⟩
    intro kept
    have before := quarantined fun later member => kept later (List.mem_append_left _ member)
    have after := quarantined_unless_created effect before fun d member =>
      kept d (List.mem_append_right _ member)
    exact after
  · have member : e ∈ drafts := by simp [new]
    obtain ⟨id, agent, quarantined⟩ := quarantines_now effect e member type
    exact ⟨id, agent, fun _ => quarantined⟩

/-- The flag is up exactly when some quarantine was followed by no hand-over, of any worker,
    and by no recovery of the workflow; and every worker ever quarantined is QUARANTINED
    still, unless its id was created anew. -/
theorem recovery_required_iff_open_quarantine (disk : Disk) (root : Path) (sessionId : Uuid)
    (objective : String) (calls : List Call) :
    let s := serial (call disk root) (LiveRuntimeSession.new sessionId objective) calls
    (s.recoveryRequired = true ↔ ∃ e, OpenQuarantine (s.log.map Event.toEventDraft) e) ∧
    ∀ before e after, s.log.map Event.toEventDraft = before ++ e :: after →
      e.eventType = .agentQuarantined →
      ∃ id, e.agentId = some id ∧
        ((∀ later ∈ after, ¬ Creates id later) → Quarantined id s) := by
  intro s
  constructor
  · have mirrored := calls_mirrored disk root sessionId objective calls
    have same : s.recoveryRequired = (foldLog s.log).recoveryRequired :=
      congrArg SecurityView.recoveryRequired mirrored
    rw [same]
    exact required_iff_open (s.log.map Event.toEventDraft)
  · have start : StillQuarantined (LiveRuntimeSession.new sessionId objective) := by
      intro before e after split
      simp [LiveRuntimeSession.new, LiveRuntimeSession.log, EventBus.new] at split
    exact serial_call_invariant StillQuarantined start
      (fun s op body drafts still effect => still_quarantined_step still effect) disk root calls

def team : List Operation :=
  [.registerWorker "analyst" "analyst" [] none false,
    .registerWorker "writer" "writer" [] none false,
    .quarantine "analyst" "reason" "rule", .quarantine "writer" "reason" "rule",
    .reassign "analyst" "analyst-2" "analyst" "task" [] false]

/-- Two quarantines and one hand-over: the flag is down while a quarantined worker was
    never replaced. -/
theorem one_reassign_lowers_for_all :
    let s := serial perform (LiveRuntimeSession.new 0 "objective") team
    s.workflowState ≠ .recovered ∧ s.recoveryRequired = false ∧ Quarantined "writer" s ∧
      ∀ e ∈ s.log, e.eventType = .taskReassigned → e.sourceAgentId ≠ some "writer" :=
  ⟨by decide, by decide, ⟨_, rfl, rfl⟩, by decide⟩

end AgentShield.Recovery
