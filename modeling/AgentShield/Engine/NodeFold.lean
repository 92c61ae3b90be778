import AgentShield.Engine.State

/-!
What the log says about the nodes: the part of the client's fold
(`lib/stream/reducer.ts`) that touches a node's view, one node at a time.
-/
namespace AgentShield.Engine
open Schema Keyed

/-- One event, applied to one view. A duplicate claim sets the state only. -/
def observe (draft : EventDraft) (view : NodeView) : NodeView :=
  if draft.eventType = .compromiseSucceeded ∧ draft.targetAgentId = some view.id then
    if metadataGet draft.metadata "already_compromised" = some (.bool true) then
      { view with securityState := .compromised }
    else
      { view with
        securityState := .compromised
        compromisedBy := draft.sourceAgentId
        tickCompromised := some draft.simTick }
  else if draft.eventType = .agentQuarantined ∧ draft.agentId = some view.id then
    { view with securityState := .quarantined }
  else view

def observeAll (drafts : List EventDraft) (view : NodeView) : NodeView :=
  drafts.foldl (fun view draft => observe draft view) view

def foldViews (views : List NodeView) (drafts : List EventDraft) : List NodeView :=
  views.map (observeAll drafts)

/-- The two kinds of events that change a view. -/
def Marks (draft : EventDraft) : Prop :=
  draft.eventType = .compromiseSucceeded ∨ draft.eventType = .agentQuarantined

instance (draft : EventDraft) : Decidable (Marks draft) :=
  inferInstanceAs (Decidable (_ ∨ _))

def Silent (draft : EventDraft) : Prop :=
  ¬ Marks draft ∧ draft.eventType ≠ .anomalyDetected

@[simp] theorem observe_id (draft : EventDraft) (view : NodeView) :
    (observe draft view).id = view.id := by
  unfold observe
  split
  · split <;> rfl
  · split <;> rfl

theorem observe_unmarked {draft : EventDraft} (unmarked : ¬ Marks draft) (view : NodeView) :
    observe draft view = view := by
  unfold observe
  rw [if_neg, if_neg]
  · intro both
    exact unmarked (Or.inr both.1)
  · intro both
    exact unmarked (Or.inl both.1)

@[simp] theorem observeAll_nil (view : NodeView) : observeAll [] view = view := rfl

theorem observeAll_append (first later : List EventDraft) (view : NodeView) :
    observeAll (first ++ later) view = observeAll later (observeAll first view) := by
  unfold observeAll
  rw [List.foldl_append]

theorem observeAll_concat (drafts : List EventDraft) (last : EventDraft) (view : NodeView) :
    observeAll (drafts ++ [last]) view = observe last (observeAll drafts view) := by
  rw [observeAll_append]
  rfl

@[simp] theorem observeAll_id (drafts : List EventDraft) (view : NodeView) :
    (observeAll drafts view).id = view.id := by
  unfold observeAll
  induction drafts generalizing view with
  | nil => rfl
  | cons draft rest ih => rw [List.foldl_cons, ih, observe_id]

theorem observeAll_unmarked {drafts : List EventDraft} (unmarked : ∀ d ∈ drafts, ¬ Marks d)
    (view : NodeView) : observeAll drafts view = view := by
  unfold observeAll
  induction drafts generalizing view with
  | nil => rfl
  | cons draft rest ih =>
    rw [List.foldl_cons, observe_unmarked (unmarked draft List.mem_cons_self)]
    exact ih (fun d member => unmarked d (List.mem_cons_of_mem _ member)) view

theorem foldViews_append (views : List NodeView) (first later : List EventDraft) :
    foldViews views (first ++ later) = foldViews (foldViews views first) later := by
  unfold foldViews
  rw [List.map_map]
  apply List.map_congr_left
  intro view _
  exact observeAll_append first later view

theorem foldViews_unmarked {drafts : List EventDraft} (unmarked : ∀ d ∈ drafts, ¬ Marks d)
    (views : List NodeView) : foldViews views drafts = views := by
  unfold foldViews
  have same : ∀ view ∈ views, observeAll drafts view = id view :=
    fun view _ => observeAll_unmarked unmarked view
  rw [List.map_congr_left same, List.map_id]

theorem notices_unmarked {drafts : List EventDraft}
    (notices : ∀ d ∈ drafts, d.eventType = .experimentStopped) : ∀ d ∈ drafts, ¬ Marks d := by
  intro d member
  unfold Marks
  rw [notices d member]
  simp

def rank : SecurityState → Nat
  | .healthy => 0
  | .suspicious => 0
  | .compromised => 1
  | .quarantined => 2
  | .recovered => 0

def Lower (view view' : NodeView) : Prop := rank view.securityState < rank view'.securityState

/- The log lowers no view, and each event that marks a node raises one. -/
structure Rising (views : List NodeView) (drafts : List EventDraft) : Prop where
  monotone : ∀ view ∈ views, ¬ Lower (observeAll drafts view) view
  strict : ∀ d ∈ drafts, Marks d → ∃ view ∈ views, Lower view (observeAll drafts view)

theorem rising_unmarked {drafts : List EventDraft} (unmarked : ∀ d ∈ drafts, ¬ Marks d)
    (views : List NodeView) : Rising views drafts := by
  constructor
  · intro view _
    rw [observeAll_unmarked unmarked]
    exact Nat.lt_irrefl _
  · intro d member marks
    exact absurd marks (unmarked d member)

theorem rising_append {views : List NodeView} {first later : List EventDraft}
    (low : Rising views first) (high : Rising (foldViews views first) later) :
    Rising views (first ++ later) := by
  have kept : ∀ view ∈ views, observeAll first view ∈ foldViews views first :=
    fun view member => List.mem_map_of_mem member
  constructor
  · intro view member lower
    have step₁ := low.monotone view member
    have step₂ := high.monotone _ (kept view member)
    rw [observeAll_append] at lower
    unfold Lower at lower step₁ step₂
    omega
  · intro d member marks
    rcases List.mem_append.mp member with early | late
    · obtain ⟨view, here, lower⟩ := low.strict d early marks
      have step := high.monotone _ (kept view here)
      refine ⟨view, here, ?_⟩
      rw [observeAll_append]
      unfold Lower at lower step ⊢
      omega
    · obtain ⟨view', here, lower⟩ := high.strict d late marks
      obtain ⟨view, before, rfl⟩ := List.mem_map.mp here
      have step := low.monotone view before
      refine ⟨view, before, ?_⟩
      rw [observeAll_append]
      unfold Lower at lower step ⊢
      omega

/-- A rising log changes the views exactly if it marks something. -/
theorem rising_same_iff {views : List NodeView} {drafts : List EventDraft}
    (rising : Rising views drafts) :
    foldViews views drafts = views ↔ ∀ d ∈ drafts, ¬ Marks d := by
  constructor
  · intro same d member marks
    obtain ⟨view, here, lower⟩ := rising.strict d member marks
    have fixed : ∀ v ∈ views, observeAll drafts v = v := by
      intro v inside
      have mapped : views.map (observeAll drafts) = views.map id := by
        rw [List.map_id]
        exact same
      exact List.map_inj_left.mp mapped v inside
    rw [fixed view here] at lower
    exact Nat.lt_irrefl _ lower
  · intro unmarked
    exact foldViews_unmarked unmarked views

/-- The events of the step tell exactly what it did to the nodes. -/
structure Mirrors (state : WorldState) (drafts : List EventDraft) (state' : WorldState) :
    Prop where
  views : state'.views = foldViews state.views drafts
  rising : Rising state.views drafts

theorem mirrors_unmarked {state state' : WorldState} {drafts : List EventDraft}
    (nodes : state'.nodes = state.nodes) (unmarked : ∀ d ∈ drafts, ¬ Marks d) :
    Mirrors state drafts state' := by
  constructor
  · rw [foldViews_unmarked unmarked, WorldState.views, nodes]
    rfl
  · exact rising_unmarked unmarked _

theorem mirrors_same (state : WorldState) : Mirrors state [] state :=
  mirrors_unmarked rfl (by simp)

theorem mirrors_append {state state₁ state₂ : WorldState} {first later : List EventDraft}
    (step₁ : Mirrors state first state₁) (step₂ : Mirrors state₁ later state₂) :
    Mirrors state (first ++ later) state₂ := by
  constructor
  · rw [foldViews_append, ← step₁.views]
    exact step₂.views
  · apply rising_append step₁.rising
    rw [← step₁.views]
    exact step₂.rising

end AgentShield.Engine
