import Mathlib.Data.List.Chain
import AgentShield.Client.Narrative
import AgentShield.Runtime.Routes

/-!
What the story keeps of the events: their order, their number, and in every activity what it
folded, as far as there is a word for it.
-/
namespace AgentShield.Client
open Schema Events Keyed Numerals Coop Session Routes

theorem plural_total {noun : String × String} (count : Nat)
    (plain : ∀ c ∈ noun.1.toList ++ noun.2.toList, c.isDigit = false) :
    total (plural count noun).toList = count := by
  have word : ∀ c ∈ (if count = 1 then noun.1 else noun.2).toList, c.isDigit = false := by
    intro c member
    split at member
    · exact plain c (List.mem_append_left _ member)
    · exact plain c (List.mem_append_right _ member)
  have rest : ∀ c ∈ ' ' :: (if count = 1 then noun.1 else noun.2).toList, c.isDigit = false :=
    List.forall_mem_cons.mpr ⟨rfl, word⟩
  have text : (plural count noun).toList =
      Nat.toDigits 10 count ++ ' ' :: (if count = 1 then noun.1 else noun.2).toList := by
    unfold plural
    rw [String.toList_append, String.toList_append, Nat.toString_eq_ofList_toDigits,
      String.toList_ofList, List.append_assoc]
    rfl
  rw [text, total_append _ rfl, total_digits, total_plain rest, Nat.add_zero]

theorem nouns_plain {type : EventType} {noun : String × String}
    (named : activityNoun type = some noun) :
    ∀ c ∈ noun.1.toList ++ noun.2.toList, c.isDigit = false := by
  have all : ((activityNoun type).all fun noun =>
      (noun.1.toList ++ noun.2.toList).all fun c => !c.isDigit) = true := by
    cases type <;> decide
  rw [named] at all
  intro c member
  simpa using List.all_eq_true.mp all c member

def Tally.spelled (tally : Tally) : Nat :=
  if (activityNoun tally.eventType).isSome then tally.count else 0

theorem detail_total (activity : Activity) :
    total activity.detail.toList = (activity.counts.values.map Tally.spelled).sum := by
  have all : (", ".toList.all fun c => !c.isDigit) = true := by decide
  have apart : ∀ c ∈ ", ".toList, c.isDigit = false := by
    intro c member
    simpa using List.all_eq_true.mp all c member
  unfold Activity.detail
  rw [String.toList_intercalate, total_intercalate apart (by decide), List.map_map]
  induction activity.counts.values with
  | nil => rfl
  | cons tally rest ih =>
    rw [List.map_cons, List.sum_cons, ← ih, List.filterMap_cons, Tally.spelled]
    cases named : activityNoun tally.eventType with
    | none => simp
    | some noun =>
      simp only [Option.map_some, List.map_cons, List.sum_cons, Function.comp_apply,
        plural_total tally.count (nouns_plain named), Option.isSome_some, ↓reduceIte]

def Activity.Named (activity : Activity) : Prop :=
  ∀ type, activity.counts.Has type → (activityNoun type).isSome = true

structure Activity.Sound (activity : Activity) : Prop where
  kind : activity.beat.kind = .activity
  counted : (activity.counts.values.map Tally.count).sum = activity.beat.count
  positive : ∀ tally ∈ activity.counts.values, 0 < tally.count

theorem spelled_le (tally : Tally) : tally.spelled ≤ tally.count := by
  unfold Tally.spelled
  split
  · exact Nat.le_refl _
  · exact Nat.zero_le _

/-- The text of a sound activity adds up exactly if there is a noun for all it counts. -/
theorem detail_adds_up_iff {activity : Activity} (sound : activity.Sound) :
    total activity.detail.toList = activity.beat.count ↔ activity.Named := by
  have each : ∀ tallies : List Tally, (∀ tally ∈ tallies, 0 < tally.count) →
      ((tallies.map Tally.spelled).sum = (tallies.map Tally.count).sum ↔
        ∀ tally ∈ tallies, (activityNoun tally.eventType).isSome = true) ∧
      (tallies.map Tally.spelled).sum ≤ (tallies.map Tally.count).sum := by
    intro tallies
    induction tallies with
    | nil => simp
    | cons tally rest ih =>
      intro positive
      obtain ⟨here, later⟩ := List.forall_mem_cons.mp positive
      obtain ⟨same, fewer⟩ := ih later
      have bound := spelled_le tally
      rw [List.map_cons, List.map_cons, List.sum_cons, List.sum_cons, List.forall_mem_cons, ← same]
      refine ⟨?_, by omega⟩
      by_cases named : (activityNoun tally.eventType).isSome = true
      · have whole : tally.spelled = tally.count := if_pos named
        rw [whole]
        simp [named]
      · have nothing : tally.spelled = 0 := if_neg named
        rw [nothing]
        exact iff_of_false (by omega) fun all => named all.1
  rw [detail_total, ← sound.counted, (each _ sound.positive).1]
  unfold Activity.Named Table.Has Table.keys
  simp only [List.mem_map, forall_exists_index, and_imp, forall_apply_eq_imp_iff₂]

theorem open_sound (cast : Cast) (event : Event) : (openActivity cast event).Sound := by
  refine ⟨rfl, rfl, ?_⟩
  intro tally member
  obtain rfl := List.mem_singleton.mp member
  exact Nat.one_pos

theorem open_named (cast : Cast) (event : Event) :
    (openActivity cast event).Named ↔ (activityNoun event.eventType).isSome = true := by
  unfold Activity.Named openActivity
  simp only [Table.has_put]
  constructor
  · intro named
    exact named event.eventType (Or.inl rfl)
  · rintro named type (rfl | never)
    · exact named
    · cases never

theorem fold_sound {activity : Activity} (sound : activity.Sound) (event : Event) :
    (activity.fold event).Sound := by
  refine ⟨sound.kind, ?_, ?_⟩
  · have more := Table.put_sum activity.counts ⟨event.eventType,
      ((activity.counts.get? event.eventType).map Tally.count).getD 0 + 1⟩ Tally.count
    have before := sound.counted
    change ((activity.fold event).counts.values.map Tally.count).sum +
      ((activity.counts.get? event.eventType).map Tally.count).getD 0 = _ at more
    change _ = activity.beat.count + 1
    dsimp only at more
    omega
  · intro tally member
    rcases Table.put_member member with rfl | ⟨old, _⟩
    · exact Nat.succ_pos _
    · exact sound.positive tally old

theorem fold_named (activity : Activity) (event : Event) :
    (activity.fold event).Named ↔
      activity.Named ∧ (activityNoun event.eventType).isSome = true := by
  unfold Activity.Named Activity.fold
  simp only [Table.has_put, or_imp, forall_and, forall_eq]
  exact and_comm

/-- What an event does to the telling. -/
inductive Tells (cast : Cast) (telling : Telling) (event : Event) : Telling → Prop where
  | silent (quiet : silent event.eventType = true) : Tells cast telling event telling
  | milestone (heard : silent event.eventType = false) {milestone : Milestone}
      (found : milestoneFor event cast.replacementIds = some milestone) :
      Tells cast telling event
        ⟨(closeActivity telling).beats ++ [milestoneBeat cast event milestone], none⟩
  | folded (heard : silent event.eventType = false)
      (found : milestoneFor event cast.replacementIds = none) {activity : Activity}
      (current : telling.activity = some activity)
      (same : activity.beat.label = some (activityLabel cast event)) :
      Tells cast telling event ⟨telling.beats, some (activity.fold event)⟩
  | opened (heard : silent event.eventType = false)
      (found : milestoneFor event cast.replacementIds = none)
      (other : ∀ activity, telling.activity = some activity →
        activity.beat.label ≠ some (activityLabel cast event)) :
      Tells cast telling event
        ⟨(closeActivity telling).beats, some (openActivity cast event)⟩

theorem tell_tells (cast : Cast) (telling : Telling) (event : Event) :
    Tells cast telling event (tell cast telling event) := by
  unfold tell
  cases heard : silent event.eventType with
  | true => exact .silent heard
  | false =>
    rw [if_neg Bool.false_ne_true]
    cases found : milestoneFor event cast.replacementIds with
    | some milestone => exact .milestone heard found
    | none =>
      dsimp only
      cases current : telling.activity with
      | none =>
        have open_ : closeActivity telling = telling := by
          unfold closeActivity
          rw [current]
        have opened := Tells.opened heard found
          fun activity some_ => by rw [current] at some_; cases some_
        rwa [open_] at opened
      | some activity =>
        dsimp only
        split
        · rename_i same
          exact .folded heard found current same
        · rename_i other
          apply Tells.opened heard found
          intro activity' some_
          rw [current] at some_
          rwa [← Option.some.inj some_]

def closed (telling : Telling) : List Beat := (closeActivity telling).beats

theorem closed_none {telling : Telling} (idle : telling.activity = none) :
    closed telling = telling.beats := by
  unfold closed closeActivity
  rw [idle]

theorem closed_some {telling : Telling} {activity : Activity}
    (current : telling.activity = some activity) :
    closed telling = telling.beats ++ [activity.closed] := by
  unfold closed closeActivity
  rw [current]

def Apart (a b : Beat) : Prop := a.kind = .activity → b.kind = .activity → a.label ≠ b.label

def Beat.AddsUp (beat : Beat) : Prop :=
  beat.kind = .activity → total beat.detail.toList = beat.count

theorem activity_adds_up_iff {activity : Activity} (sound : activity.Sound) :
    activity.closed.AddsUp ↔ activity.Named := by
  rw [← detail_adds_up_iff sound]
  exact imp_iff_right sound.kind

def FoldedIn (cast : Cast) (event : Event) : Prop :=
  silent event.eventType = false ∧ milestoneFor event cast.replacementIds = none

def HasNoun (event : Event) : Prop := (activityNoun event.eventType).isSome = true

structure Recounted (cast : Cast) (events : List Event) (telling : Telling) : Prop where
  anchored : ((closed telling).map Beat.anchor).Sublist events
  numbered : ∀ beat ∈ closed telling, beat.seq = beat.anchor.seq
  counted : ((closed telling).map Beat.count).sum =
    events.countP fun event => !silent event.eventType
  apart : (closed telling).IsChain Apart
  interrupted : telling.activity = none → ∀ beat ∈ telling.beats.getLast?, beat.kind = .milestone
  current : ∀ activity, telling.activity = some activity → activity.Sound
  spelled : (∀ beat ∈ closed telling, beat.AddsUp) ↔
    ∀ event ∈ events, FoldedIn cast event → HasNoun event

theorem recounted_start (cast : Cast) : Recounted cast [] ⟨[], none⟩ := by
  refine ⟨List.Sublist.refl _, List.forall_mem_nil _, rfl, List.IsChain.nil, ?_, ?_, ?_⟩
  · exact fun _ _ never => nomatch never
  · exact fun _ never => nomatch never
  · exact iff_of_true (List.forall_mem_nil _) (List.forall_mem_nil _)

section
variable {cast : Cast} {events : List Event} {telling : Telling} {event : Event}

theorem counted_concat (told : Recounted cast events telling) (heard : silent event.eventType = false) :
    ((closed telling).map Beat.count).sum + 1 =
      (events ++ [event]).countP fun event => !silent event.eventType := by
  rw [List.countP_append, List.countP_singleton, heard, told.counted]
  rfl

theorem recounted_silent (told : Recounted cast events telling) (quiet : silent event.eventType = true) :
    Recounted cast (events ++ [event]) telling := by
  refine ⟨?_, told.numbered, ?_, told.apart, told.interrupted, told.current, ?_⟩
  · exact told.anchored.trans (List.sublist_append_left _ _)
  · rw [told.counted, List.countP_append, List.countP_singleton, quiet]
    rfl
  · rw [told.spelled, List.forall_mem_append, List.forall_mem_singleton]
    refine (and_iff_left ?_).symm
    rintro ⟨heard, _⟩
    rw [quiet] at heard
    cases heard

theorem recounted_milestone (told : Recounted cast events telling) (heard : silent event.eventType = false)
    {milestone : Milestone} (found : milestoneFor event cast.replacementIds = some milestone) :
    Recounted cast (events ++ [event])
      ⟨closed telling ++ [milestoneBeat cast event milestone], none⟩ := by
  have now : closed ⟨closed telling ++ [milestoneBeat cast event milestone], none⟩ =
      closed telling ++ [milestoneBeat cast event milestone] := rfl
  refine ⟨?_, ?_, ?_, ?_, ?_, (fun _ never => nomatch never), ?_⟩
  · rw [now, List.map_append]
    exact told.anchored.append (List.Sublist.refl _)
  · rw [now]
    exact List.forall_mem_append.mpr ⟨told.numbered, List.forall_mem_singleton.mpr rfl⟩
  · rw [now, List.map_append, List.sum_append, ← counted_concat told heard]
    rfl
  · rw [now]
    apply List.isChain_append.mpr
    refine ⟨told.apart, List.isChain_singleton _, ?_⟩
    intro last _ next first _ activity
    obtain rfl := Option.some.inj first
    cases activity
  · intro _ last final
    rw [List.getLast?_concat] at final
    obtain rfl := Option.some.inj final
    rfl
  · rw [now, List.forall_mem_append, told.spelled, List.forall_mem_append,
      List.forall_mem_singleton, List.forall_mem_singleton]
    have own : ¬ FoldedIn cast event := by
      rintro ⟨_, none⟩
      rw [found] at none
      cases none
    exact and_congr_right fun _ => iff_of_true nofun fun folded => absurd folded own

theorem recounted_folded (told : Recounted cast events telling) (folded : FoldedIn cast event)
    {activity : Activity} (current : telling.activity = some activity) :
    Recounted cast (events ++ [event]) ⟨telling.beats, some (activity.fold event)⟩ := by
  have sound := told.current activity current
  have more := counted_concat told folded.1
  have now : closed ⟨telling.beats, some (activity.fold event)⟩ =
      telling.beats ++ [(activity.fold event).closed] := rfl
  obtain ⟨anchored, numbered, _, apart, _, _, spelled⟩ := told
  rw [closed_some current] at anchored numbered apart spelled more
  refine ⟨?_, ?_, ?_, ?_, (fun never => nomatch never), ?_, ?_⟩
  · rw [now, List.map_append]
    rw [List.map_append] at anchored
    exact anchored.trans (List.sublist_append_left _ _)
  · rw [now]
    rw [List.forall_mem_append, List.forall_mem_singleton] at numbered ⊢
    exact numbered
  · rw [now, ← more, List.map_append, List.map_append, List.sum_append, List.sum_append]
    exact (Nat.add_assoc _ _ _).symm
  · rw [now]
    rw [List.isChain_append] at apart ⊢
    refine ⟨apart.1, List.isChain_singleton _, ?_⟩
    intro last final next first
    obtain rfl := Option.some.inj first
    exact apart.2.2 last final activity.closed rfl
  · intro other same
    obtain rfl := Option.some.inj same
    exact fold_sound sound event
  · rw [now]
    rw [List.forall_mem_append, List.forall_mem_singleton] at spelled ⊢
    rw [List.forall_mem_append, List.forall_mem_singleton, ← spelled,
      activity_adds_up_iff (fold_sound sound event), activity_adds_up_iff sound, fold_named,
      ← and_assoc]
    exact and_congr_right fun _ => (imp_iff_right folded).symm

theorem recounted_opened (told : Recounted cast events telling) (folded : FoldedIn cast event)
    (other : ∀ activity, telling.activity = some activity →
      activity.beat.label ≠ some (activityLabel cast event)) :
    Recounted cast (events ++ [event]) ⟨closed telling, some (openActivity cast event)⟩ := by
  have now : closed ⟨closed telling, some (openActivity cast event)⟩ =
      closed telling ++ [(openActivity cast event).closed] := rfl
  refine ⟨?_, ?_, ?_, ?_, (fun never => nomatch never), ?_, ?_⟩
  · rw [now, List.map_append]
    exact told.anchored.append (List.Sublist.refl _)
  · rw [now]
    exact List.forall_mem_append.mpr ⟨told.numbered, List.forall_mem_singleton.mpr rfl⟩
  · rw [now, List.map_append, List.sum_append, ← counted_concat told folded.1]
    rfl
  · rw [now]
    apply List.isChain_append.mpr
    refine ⟨told.apart, List.isChain_singleton _, ?_⟩
    intro last final next first active _
    obtain rfl := Option.some.inj first
    cases current : telling.activity with
    | none =>
      rw [closed_none current] at final
      rw [told.interrupted current last final] at active
      cases active
    | some activity =>
      rw [closed_some current, List.getLast?_concat] at final
      obtain rfl := Option.some.inj final
      exact other activity current
  · intro activity same
    obtain rfl := Option.some.inj same
    exact open_sound cast event
  · rw [now, List.forall_mem_append, told.spelled, List.forall_mem_append,
      List.forall_mem_singleton, List.forall_mem_singleton,
      activity_adds_up_iff (open_sound cast event), open_named]
    exact and_congr_right fun _ => (imp_iff_right folded).symm

end

theorem recounted_step {cast : Cast} {events : List Event} {telling telling' : Telling} {event : Event}
    (told : Recounted cast events telling) (tells : Tells cast telling event telling') :
    Recounted cast (events ++ [event]) telling' := by
  cases tells with
  | silent quiet => exact recounted_silent told quiet
  | milestone heard found => exact recounted_milestone told heard found
  | folded heard found current same => exact recounted_folded told ⟨heard, found⟩ current
  | opened heard found other => exact recounted_opened told ⟨heard, found⟩ other

theorem recounted_all (cast : Cast) (events : List Event) :
    Recounted cast events (events.foldl (tell cast) ⟨[], none⟩) := by
  induction events using List.reverseRecOn with
  | nil => exact recounted_start cast
  | append_singleton events event ih =>
    rw [List.foldl_append]
    exact recounted_step ih (tell_tells cast _ event)

/-- The beats stand in the order of the events, each event that is not silent is counted once, no
    two activities of one name meet, and each activity spells out what it counts. -/
structure Conserves (events : List Event) : Prop where
  ordered : events.Pairwise (fun a b => a.seq ≤ b.seq) →
    (deriveNarrative events).Pairwise fun a b => a.seq ≤ b.seq
  counted : ((deriveNarrative events).map Beat.count).sum =
    events.countP fun event => !silent event.eventType
  apart : (deriveNarrative events).IsChain Apart
  spelled : ∀ beat ∈ deriveNarrative events, beat.AddsUp

/-- Exactly the events without a noun are lost in the text. -/
theorem narrative_conserves_iff (events : List Event) :
    Conserves events ↔ ∀ event ∈ events, FoldedIn (castOf events) event → HasNoun event := by
  have told := recounted_all (castOf events) events
  constructor
  · intro conserves
    exact told.spelled.mp conserves.spelled
  · intro nouns
    refine ⟨?_, told.counted, told.apart, told.spelled.mpr nouns⟩
    intro ordered
    have anchors := List.pairwise_map.mp (ordered.sublist told.anchored)
    apply anchors.imp_of_mem
    intro a b ha hb le
    rwa [told.numbered a ha, told.numbered b hb]

def startedTask : LiveRuntimeSession :=
  serial (handle (fun _ => none) []) (LiveRuntimeSession.new 0 "objective")
    [.registerWorker { id := "developer", role := "Developer" },
      .startTask "developer" "Fix it."]

/-- The start is counted in a beat that does not say a word about it. -/
theorem start_is_not_spelled_out : ¬ Conserves startedTask.log ∧
    startedTask.log.Pairwise (fun a b => a.seq ≤ b.seq) ∧
    ∃ beat ∈ deriveNarrative startedTask.log, beat.kind = .activity ∧
      beat.label = some "Developer working" ∧ beat.count = 1 ∧ beat.detail = "" := by
  have told : ∃ beat ∈ deriveNarrative startedTask.log, beat.kind = .activity ∧
      beat.label = some "Developer working" ∧ beat.count = 1 ∧ beat.detail = "" := by
    decide
  refine ⟨?_, by decide, told⟩
  intro conserves
  obtain ⟨beat, member, kind, _, count, detail⟩ := told
  have whole := conserves.spelled beat member kind
  rw [count, detail] at whole
  cases whole

end AgentShield.Client
