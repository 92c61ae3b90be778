import AgentShield.Scenarios.Effects

/-!
The drafts of a run stand in the order of their ticks, so that a run can be cut at one.
-/
namespace AgentShield.Scenarios
open Schema Engine

theorem effect_now {config : ExperimentConfig} {state state' : WorldState}
    {drafts : List EventDraft} (effect : Effect config state drafts state') :
    (∀ d ∈ drafts, d.simTick = state.tick) ∧ state.tick ≤ state'.tick := by
  cases effect with
  | quiet quiet =>
    exact ⟨fun d member => (quiet.silent d member).2, Nat.le_of_eq quiet.tick.symm⟩
  | attack made nodes edges tick => exact ⟨fun d member => (made_draft made member).1, tick⟩
  | detection =>
    refine ⟨?_, Nat.le_refl _⟩
    intro d member
    rcases List.mem_append.mp member with legitimate | illegitimate
    · obtain ⟨node, _, inside⟩ := List.mem_flatMap.mp legitimate
      simp only [List.mem_cons, List.not_mem_nil, or_false] at inside
      rcases inside with rfl | rfl
      · rfl
      · rfl
    · obtain ⟨node, _, rfl⟩ := List.mem_map.mp illegitimate
      rfl

structure Chronological (drafts : List EventDraft) (from_ until_ : Nat) : Prop where
  sorted : drafts.Pairwise fun d d' => d.simTick ≤ d'.simTick
  since : ∀ d ∈ drafts, from_ ≤ d.simTick
  upTo : ∀ d ∈ drafts, d.simTick ≤ until_
  bounds : from_ ≤ until_

theorem chronological_append {drafts later : List EventDraft} {t u v : Nat}
    (first : Chronological drafts t u) (second : Chronological later u v) :
    Chronological (drafts ++ later) t v := by
  constructor
  · apply List.pairwise_append.mpr
    refine ⟨first.sorted, second.sorted, ?_⟩
    intro d early d' late
    exact Nat.le_trans (first.upTo d early) (second.since d' late)
  · intro d member
    rcases List.mem_append.mp member with early | late
    · exact first.since d early
    · exact Nat.le_trans first.bounds (second.since d late)
  · intro d member
    rcases List.mem_append.mp member with early | late
    · exact Nat.le_trans (first.upTo d early) second.bounds
    · exact second.upTo d late
  · exact Nat.le_trans first.bounds second.bounds

theorem chronological_now {drafts : List EventDraft} {t u : Nat}
    (now : ∀ d ∈ drafts, d.simTick = t) (bounds : t ≤ u) : Chronological drafts t u := by
  constructor
  · apply List.pairwise_of_forall_mem_list
    intro d early d' late
    rw [now d early, now d' late]
  · exact fun d member => Nat.le_of_eq (now d member).symm
  · exact fun d member => (now d member).symm ▸ bounds
  · exact bounds

theorem effects_chronological {config : ExperimentConfig} {state state' : WorldState}
    {drafts : List EventDraft} (effects : Effects config state drafts state') :
    Chronological drafts state.tick state'.tick := by
  induction effects with
  | none => exact chronological_now (fun d member => nomatch member) (Nat.le_refl _)
  | next _ effect ih =>
    obtain ⟨now, later⟩ := effect_now effect
    exact chronological_append ih (chronological_now now later)

theorem effects_cut {config : ExperimentConfig} {state state' : WorldState}
    {drafts : List EventDraft} (effects : Effects config state drafts state') (t : Nat) :
    ∃ middle, Effects config state (drafts.filter fun d => d.simTick ≤ t) middle ∧
      Effects config middle (drafts.filter fun d => ¬ d.simTick ≤ t) state' := by
  induction effects with
  | none => exact ⟨_, .none _, .none _⟩
  | @next before after drafts later effects effect ih =>
    obtain ⟨now, _⟩ := effect_now effect
    by_cases early : before.tick ≤ t
    · refine ⟨after, ?_, ?_⟩
      · rw [List.filter_eq_self.mpr]
        · exact effects.next effect
        · intro d member
          rcases List.mem_append.mp member with old | new
          · have sooner := (effects_chronological effects).upTo d old
            exact decide_eq_true (Nat.le_trans sooner early)
          · exact decide_eq_true ((now d new).symm ▸ early)
      · rw [List.filter_eq_nil_iff.mpr]
        · exact .none after
        · intro d member late
          rcases List.mem_append.mp member with old | new
          · have sooner := (effects_chronological effects).upTo d old
            exact of_decide_eq_true late (Nat.le_trans sooner early)
          · exact of_decide_eq_true late ((now d new).symm ▸ early)
    · obtain ⟨middle, first, second⟩ := ih
      have late : ∀ d ∈ later, ¬ d.simTick ≤ t := by
        intro d new sooner
        exact early ((now d new) ▸ sooner)
      have none_ : later.filter (fun d => d.simTick ≤ t) = [] := by
        apply List.filter_eq_nil_iff.mpr
        intro d new sooner
        exact late d new (of_decide_eq_true sooner)
      have all : later.filter (fun d => ¬ d.simTick ≤ t) = later := by
        apply List.filter_eq_self.mpr
        intro d new
        exact decide_eq_true (late d new)
      refine ⟨middle, ?_, ?_⟩
      · rw [List.filter_append, none_, List.append_nil]
        exact first
      · rw [List.filter_append, all]
        exact second.next effect

end AgentShield.Scenarios
