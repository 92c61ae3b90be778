import AgentShield.Scenarios.QuarantineLedger

/-!
Whom a run ever compromised, and whom it quarantined: each is a flag of the agent that
the log raises once. How many agents carry a date is how many first successes it tells.
-/
namespace AgentShield.Scenarios
open Schema Keyed Engine TopologyBuilder

/-- A flag that the drafts raise if it is down, and that nothing takes down. -/
structure Raised (flag : WorldState → Prop) (told : EventDraft → Prop) (state : WorldState)
    (drafts : List EventDraft) (state' : WorldState) : Prop where
  up : flag state' ↔ flag state ∨ ∃ d ∈ drafts, told d
  down : (∃ d ∈ drafts, told d) → ¬ flag state

theorem raised_same {flag : WorldState → Prop} {told : EventDraft → Prop}
    {state state' : WorldState} {drafts : List EventDraft} (same : flag state' ↔ flag state)
    (untold : ∀ d ∈ drafts, ¬ told d) : Raised flag told state drafts state' := by
  constructor
  · rw [same, or_iff_left]
    rintro ⟨d, member, holds⟩
    exact untold d member holds
  · rintro ⟨d, member, holds⟩
    exact absurd holds (untold d member)

theorem exists_append {told : EventDraft → Prop} {drafts later : List EventDraft} :
    (∃ d ∈ drafts ++ later, told d) ↔ (∃ d ∈ drafts, told d) ∨ ∃ d ∈ later, told d := by
  simp only [List.mem_append, or_and_right, exists_or]

theorem raised_append {flag : WorldState → Prop} {told : EventDraft → Prop}
    {state state' state'' : WorldState} {drafts later : List EventDraft}
    (first : Raised flag told state drafts state') (second : Raised flag told state' later state'') :
    Raised flag told state (drafts ++ later) state'' := by
  constructor
  · rw [second.up, first.up, exists_append, or_assoc]
  · rw [exists_append]
    rintro (early | late)
    · exact first.down early
    · exact fun before => second.down late (first.up.mpr (Or.inl before))

theorem effects_raised {flag : WorldState → Prop} {told : EventDraft → Prop} {zero : String}
    {config : ExperimentConfig}
    (each : ∀ {state drafts state'}, WellFormed zero state →
      Effect config state drafts state' → Raised flag told state drafts state')
    {state state' : WorldState} {drafts : List EventDraft} (wellFormed : WellFormed zero state)
    (effects : Effects config state drafts state') : Raised flag told state drafts state' := by
  induction effects with
  | none => exact raised_same Iff.rfl fun d member => nomatch member
  | next before effect ih =>
    exact raised_append ih (each (effects_wellFormed wellFormed before) effect)

def Dated (id : String) (state : WorldState) : Prop :=
  ∃ node ∈ state.nodes.values, node.id = id ∧ node.tickCompromised ≠ none

def Contained (id : String) (state : WorldState) : Prop :=
  ∃ node ∈ state.nodes.values, node.id = id ∧ node.securityState = .quarantined

def Infected (drafts : List EventDraft) (id : String) : Prop :=
  ∃ d ∈ drafts, Success id d

theorem made_infected {state : WorldState} {tick : Nat} {attack : Attack}
    (made : attack.Made state tick) (id : String) :
    Infected attack.drafts id ↔ attack.claims.Has id := by
  constructor
  · rintro ⟨d, member, success, target⟩
    rcases (made_draft made member).2 with silent | ⟨_, other, same, has⟩
    · exact absurd (Or.inl success) silent.1
    · rw [target] at same
      obtain rfl := Option.some.inj same
      exact has
  · exact made_claim_told made

theorem claimed_dated (claims : Table Claim.target) (tick : Nat) (node : AgentNode) :
    (node.claimed claims tick).tickCompromised ≠ none ↔
      node.tickCompromised ≠ none ∨ claims.Has node.id := by
  unfold AgentNode.claimed
  rw [Table.has_iff_get?]
  cases claims.get? node.id with
  | none => simp
  | some claim => simp [AgentNode.compromise]

theorem claimed_undated {state : WorldState} {zero : String} (wellFormed : WellFormed zero state)
    {tick : Nat} {attack : Attack} (made : attack.Made state tick) {id : String}
    (has : attack.claims.Has id) :
    ∃ node ∈ state.nodes.values, node.id = id ∧ node.tickCompromised = none := by
  obtain ⟨node, member, named, healthy⟩ := (told_of_made made).healthy id has
  exact ⟨node, member, named, wellFormed.untouched node member healthy⟩

theorem quarantineIn_date (ids : List String) (node : AgentNode) :
    (Detection.quarantineIn ids node).tickCompromised = node.tickCompromised := by
  unfold Detection.quarantineIn
  split <;> rfl

theorem effect_dated {config : ExperimentConfig} {state state' : WorldState} {zero : String}
    {drafts : List EventDraft} (id : String) (wellFormed : WellFormed zero state)
    (effect : Effect config state drafts state') :
    Raised (Dated id) (Success id) state drafts state' := by
  cases effect with
  | quiet quiet =>
    apply raised_same
    · unfold Dated
      rw [quiet.nodes]
    · intro d member success
      exact (quiet.silent d member).1.1 (Or.inl success.1)
  | @attack attack _ made nodes edges tick =>
    have told := made_infected made id
    constructor
    · rw [show (∃ d ∈ attack.drafts, Success id d) ↔ _ from told]
      unfold Dated
      rw [nodes]
      constructor
      · rintro ⟨node', member, rfl, dated⟩
        obtain ⟨node, inside, rfl⟩ := List.mem_map.mp member
        rw [claimed_id]
        rcases (claimed_dated _ _ node).mp dated with before | has
        · exact Or.inl ⟨node, inside, rfl, before⟩
        · exact Or.inr has
      · have now : ∀ node ∈ state.nodes.values,
            node.tickCompromised ≠ none ∨ attack.claims.Has node.id →
            ∃ node' ∈ (compromiseClaimed attack.claims state.tick state.nodes).values,
              node'.id = node.id ∧ node'.tickCompromised ≠ none := by
          intro node inside either
          exact ⟨_, List.mem_map_of_mem inside, claimed_id _ _ node,
            (claimed_dated _ _ node).mpr either⟩
        rintro (⟨node, inside, rfl, before⟩ | has)
        · exact now node inside (Or.inl before)
        · obtain ⟨node, inside, rfl, _⟩ := claimed_undated wellFormed made has
          exact now node inside (Or.inr has)
    · rintro infected ⟨other, there, rfl, dated⟩
      obtain ⟨node, inside, named, undated⟩ :=
        claimed_undated wellFormed made (told.mp infected)
      obtain rfl := same_node inside there named
      exact dated undated
  | detection caught accused distinct =>
    apply raised_same
    · simp only [Dated, Detection.quarantineAll, Table.update_values, List.mem_map,
        exists_exists_and_eq_and, Detection.quarantineIn_id, quarantineIn_date]
    · intro d member success
      exact Detection.drafts_spread d member success.1

theorem claimed_securityState (claims : Table Claim.target) (tick : Nat) (node : AgentNode) :
    (node.claimed claims tick).securityState =
      if claims.Has node.id then .compromised else node.securityState := by
  unfold AgentNode.claimed
  cases found : claims.get? node.id with
  | none => rw [if_neg (Table.get?_none_iff.mp found)]
  | some claim =>
    rw [if_pos (Table.has_iff_get?.mpr ⟨claim, found⟩)]
    rfl

theorem claimed_contained {state : WorldState} {tick : Nat} {attack : Attack}
    (made : attack.Made state tick) {node : AgentNode} (member : node ∈ state.nodes.values) :
    (node.claimed attack.claims tick).securityState = .quarantined ↔
      node.securityState = .quarantined := by
  rw [claimed_securityState]
  split
  · rename_i has
    obtain ⟨other, inside, named, healthy⟩ := (told_of_made made).healthy node.id has
    obtain rfl := same_node inside member named
    rw [healthy]
    simp
  · rfl

theorem quarantineIn_securityState (ids : List String) (node : AgentNode) :
    (Detection.quarantineIn ids node).securityState = .quarantined ↔
      node.securityState = .quarantined ∨ node.id ∈ ids := by
  unfold Detection.quarantineIn
  split
  · rename_i chosen
    simp [chosen]
  · rename_i spared
    simp [spared]

theorem effect_contained {config : ExperimentConfig} {state state' : WorldState}
    {drafts : List EventDraft} (id : String) (effect : Effect config state drafts state') :
    Raised (Contained id) (Quarantine id) state drafts state' := by
  cases effect with
  | quiet quiet =>
    apply raised_same
    · unfold Contained
      rw [quiet.nodes]
    · intro d member quarantine
      exact (quiet.silent d member).1.1 (Or.inr quarantine.1)
  | @attack attack _ made nodes edges tick =>
    apply raised_same
    · unfold Contained
      rw [nodes]
      constructor
      · rintro ⟨node', member, rfl, contained⟩
        obtain ⟨node, inside, rfl⟩ := List.mem_map.mp member
        exact ⟨node, inside, (claimed_id _ _ node).symm, (claimed_contained made inside).mp contained⟩
      · rintro ⟨node, inside, rfl, contained⟩
        exact ⟨_, List.mem_map_of_mem inside, claimed_id _ _ node,
          (claimed_contained made inside).mpr contained⟩
    · intro d member quarantine
      rcases (made_draft made member).2 with silent | ⟨success, _⟩
      · exact silent.1 (Or.inr quarantine.1)
      · rw [quarantine.1] at success
        cases success
  | @detection detected falselyReported caught accused distinct =>
    have told : (∃ d ∈ Detection.drafts config state.tick detected falselyReported,
        Quarantine id d) ↔ id ∈ (detected ++ falselyReported).map AgentNode.id :=
      Detection.drafts_quarantine
    have reported : ∀ other ∈ detected ++ falselyReported, other ∈ state.nodes.values ∧
        other.securityState ≠ .quarantined := by
      intro other member
      rcases List.mem_append.mp member with legitimate | illegitimate
      · obtain ⟨present, compromised⟩ := caught other legitimate
        exact ⟨present, by rw [compromised]; simp⟩
      · obtain ⟨present, healthy⟩ := accused other illegitimate
        exact ⟨present, by rw [healthy]; simp⟩
    constructor
    · rw [told]
      simp only [Contained, Detection.quarantineAll, Table.update_values, List.mem_map,
        exists_exists_and_eq_and, Detection.quarantineIn_id, quarantineIn_securityState]
      constructor
      · rintro ⟨node, inside, rfl, before | now⟩
        · exact Or.inl ⟨node, inside, rfl, before⟩
        · exact Or.inr now
      · rintro (⟨node, inside, rfl, before⟩ | ⟨other, member, rfl⟩)
        · exact ⟨node, inside, rfl, Or.inl before⟩
        · exact ⟨other, (reported other member).1, rfl, Or.inr ⟨other, member, rfl⟩⟩
    · rw [told]
      rintro now ⟨node, inside, rfl, before⟩
      obtain ⟨other, member, named⟩ := List.mem_map.mp now
      obtain ⟨present, free⟩ := reported other member
      obtain rfl := same_node present inside named
      exact free before

theorem effects_dated {config : ExperimentConfig} {state state' : WorldState} {zero : String}
    {drafts : List EventDraft} (id : String) (wellFormed : WellFormed zero state)
    (effects : Effects config state drafts state') :
    Raised (Dated id) (Success id) state drafts state' :=
  effects_raised (effect_dated id) wellFormed effects

theorem effects_contained {config : ExperimentConfig} {state state' : WorldState} {zero : String}
    {drafts : List EventDraft} (id : String) (wellFormed : WellFormed zero state)
    (effects : Effects config state drafts state') :
    Raised (Contained id) (Quarantine id) state drafts state' :=
  effects_raised (fun _ => effect_contained id) wellFormed effects

theorem effects_marked {config : ExperimentConfig} {state state' : WorldState}
    {drafts : List EventDraft} (effects : Effects config state drafts state') {d : EventDraft}
    (member : d ∈ drafts) (marks : Marks d) : ∃ id, Success id d ∨ Quarantine id d := by
  induction effects with
  | none => cases member
  | next _ effect ih =>
    rcases List.mem_append.mp member with early | late
    · exact ih early
    · cases effect with
      | quiet quiet => exact absurd marks (quiet.silent d late).1.1
      | attack made =>
        rcases (made_draft made late).2 with silent | ⟨success, id, target, _⟩
        · exact absurd marks silent.1
        · exact ⟨id, Or.inl ⟨success, target⟩⟩
      | detection =>
        rcases List.mem_append.mp late with legitimate | illegitimate
        · obtain ⟨node, _, inside⟩ := List.mem_flatMap.mp legitimate
          simp only [List.mem_cons, List.not_mem_nil, or_false] at inside
          rcases inside with rfl | rfl
          · simp [Marks, Detection.anomalyDraft] at marks
          · exact ⟨node.id, Or.inr ⟨rfl, rfl⟩⟩
        · obtain ⟨node, _, rfl⟩ := List.mem_map.mp illegitimate
          exact ⟨node.id, Or.inr ⟨rfl, rfl⟩⟩

theorem observe_dated {d : EventDraft} {view : NodeView}
    (dated : (observe d view).tickCompromised ≠ none) :
    view.tickCompromised ≠ none ∨ Success view.id d := by
  unfold observe at dated
  split at dated
  · rename_i success
    exact Or.inr success
  · split at dated
    · exact Or.inl dated
    · exact Or.inl dated

theorem observe_contained {d : EventDraft} {view : NodeView}
    (contained : (observe d view).securityState = .quarantined) :
    view.securityState = .quarantined ∨ Quarantine view.id d := by
  unfold observe at contained
  split at contained
  · split at contained <;> cases contained
  · split at contained
    · rename_i quarantine
      exact Or.inr quarantine
    · exact Or.inl contained

theorem observeAll_flag (up : NodeView → Prop) (told : String → EventDraft → Prop)
    (each : ∀ {d view}, up (observe d view) → up view ∨ told view.id d) {drafts : List EventDraft}
    {view : NodeView} (raised : up (observeAll drafts view)) :
    up view ∨ ∃ d ∈ drafts, told view.id d := by
  induction drafts generalizing view with
  | nil => exact Or.inl raised
  | cons d rest ih =>
    rcases @ih (observe d view) raised with before | ⟨later, member, tells⟩
    · rcases each before with start | tells
      · exact Or.inl start
      · exact Or.inr ⟨d, List.mem_cons_self, tells⟩
    · rw [observe_id] at tells
      exact Or.inr ⟨later, List.mem_cons_of_mem d member, tells⟩

theorem views_flag (up : NodeView → Prop) (told : String → EventDraft → Prop)
    (each : ∀ {d view}, up (observe d view) → up view ∨ told view.id d) {world state : WorldState}
    {drafts : List EventDraft} (same : foldViews world.views drafts = state.views) {id : String}
    (raised : ∃ node ∈ state.nodes.values, node.id = id ∧ up node.view) :
    (∃ node ∈ world.nodes.values, node.id = id ∧ up node.view) ∨ ∃ d ∈ drafts, told id d := by
  obtain ⟨node, member, rfl, flag⟩ := raised
  have view : node.view ∈ foldViews world.views drafts := by
    rw [same]
    exact List.mem_map_of_mem member
  obtain ⟨before, inside, observed⟩ := List.mem_map.mp view
  obtain ⟨start, present, rfl⟩ := List.mem_map.mp inside
  rw [← observed] at flag
  have named : start.id = node.id := by
    rw [← view_id, ← observeAll_id drafts start.view, observed, view_id]
  rcases observeAll_flag up told each flag with first | tells
  · exact Or.inl ⟨start, present, named, first⟩
  · rw [view_id, named] at tells
    exact Or.inr tells

/- What is raised outside the middle is up at the end, and not to be seen from there. -/
theorem raised_outside {flag : WorldState → Prop} {told : EventDraft → Prop}
    {world w s state : WorldState} {early middle late : List EventDraft}
    (first : Raised flag told world early w) (second : Raised flag told w middle s)
    (third : Raised flag told s late state) (outside : ∃ d ∈ early ++ late, told d) :
    flag state ∧ ¬ (flag world ∨ ∃ d ∈ middle, told d) := by
  rw [exists_append] at outside
  have before := first.down
  have between := second.down
  have after := third.down
  rw [third.up, second.up, first.up]
  rw [second.up, first.up] at after
  rw [first.up] at between
  rcases outside with missed | missed
  · refine ⟨Or.inl (Or.inl (Or.inr missed)), ?_⟩
    rintro (start | seen)
    · exact before missed start
    · exact between seen (Or.inr missed)
  · refine ⟨Or.inr missed, ?_⟩
    rintro (start | seen)
    · exact after missed (Or.inl (Or.inl start))
    · exact after missed (Or.inr seen)

/-- The middle tells the whole run exactly if nothing outside it marks a node. -/
theorem middle_tells_iff {config : ExperimentConfig} {world w s state : WorldState} {zero : String}
    {early middle late : List EventDraft} (wellFormed : WellFormed zero world)
    (first : Effects config world early w) (second : Effects config w middle s)
    (third : Effects config s late state) :
    foldViews world.views middle = state.views ↔ ∀ d ∈ early ++ late, ¬ Marks d := by
  have wellFormed' := effects_wellFormed wellFormed first
  have wellFormed'' := effects_wellFormed wellFormed' second
  constructor
  · intro same d member marks
    have named : ∃ id, Success id d ∨ Quarantine id d := by
      rcases List.mem_append.mp member with before | after
      · exact effects_marked first before marks
      · exact effects_marked third after marks
    obtain ⟨id, success | quarantine⟩ := named
    · obtain ⟨up, unseen⟩ := raised_outside (effects_dated id wellFormed first)
        (effects_dated id wellFormed' second) (effects_dated id wellFormed'' third)
        ⟨d, member, success⟩
      exact unseen (views_flag (fun view => view.tickCompromised ≠ none) Success observe_dated same up)
    · obtain ⟨up, unseen⟩ := raised_outside (effects_contained id wellFormed first)
        (effects_contained id wellFormed' second) (effects_contained id wellFormed'' third)
        ⟨d, member, quarantine⟩
      exact unseen (views_flag (fun view => view.securityState = .quarantined) Quarantine
        observe_contained same up)
  · intro unmarked
    have before := foldViews_unmarked
      (fun d member => unmarked d (List.mem_append_left late member)) world.views
    have after := foldViews_unmarked
      (fun d member => unmarked d (List.mem_append_right early member)) s.views
    calc foldViews world.views middle
        = foldViews (foldViews world.views early) middle := by rw [before]
      _ = foldViews w.views middle := by rw [← (effects_mirror first).views]
      _ = s.views := (effects_mirror second).views.symm
      _ = foldViews s.views late := after.symm
      _ = state.views := (effects_mirror third).views.symm

def exposure (state : WorldState) : Nat :=
  state.nodes.values.countP fun node => node.tickCompromised ≠ none

/- A success that is not the repetition of one. -/
def First (d : EventDraft) : Prop :=
  d.eventType = .compromiseSucceeded ∧
    metadataGet d.metadata "already_compromised" ≠ some (.bool true)

instance (d : EventDraft) : Decidable (First d) := inferInstanceAs (Decidable (_ ∧ _))

theorem countP_none {drafts : List EventDraft} (none_ : ∀ d ∈ drafts, ¬ First d) :
    drafts.countP (fun d => First d) = 0 := by
  apply List.countP_eq_zero.mpr
  intro d member first
  exact none_ d member (of_decide_eq_true first)

theorem made_first {state : WorldState} {tick : Nat} {attack : Attack}
    (made : attack.Made state tick) :
    attack.drafts.countP (fun d => First d) = attack.claims.values.length := by
  induction made with
  | start => rfl
  | @record attack draft made silent now ih =>
    have repeated : ¬ First draft := fun first => silent.1 (Or.inl first.1)
    unfold Attack.record
    rw [List.countP_append, ih, countP_none]
    · rfl
    · intro d member
      rw [List.mem_singleton.mp member]
      exact repeated
  | @succeed attack source target metadata made attacking inside first ih =>
    unfold Attack.succeed
    split
    · have again := @metadataGet_last metadata "already_compromised" (.bool true) first
      unfold Attack.record
      rw [List.countP_append, ih, countP_none]
      · rfl
      · intro d member fresh
        rw [List.mem_singleton.mp member] at fresh
        exact fresh.2 again
    · rename_i absent
      rw [Table.put_values_of_absent absent]
      dsimp only
      rw [List.countP_append, ih, List.length_append]
      have fresh : First (Attack.draft .compromiseSucceeded tick source.id target.id metadata) := by
        refine ⟨rfl, ?_⟩
        have same : (Attack.draft .compromiseSucceeded tick source.id target.id
          metadata).metadata = metadata := rfl
        rw [same, first]
        simp
      simp [fresh]

theorem claims_counted {claims : Table Claim.target} {nodes : Table AgentNode.id}
    (present : ∀ id, claims.Has id → nodes.Has id) :
    nodes.values.countP (fun node => claims.Has node.id) = claims.values.length := by
  have same : (nodes.keys.filter fun id => claims.Has id).Perm claims.keys := by
    apply (List.perm_ext_iff_of_nodup (nodes.distinct.filter _) claims.distinct).mpr
    intro id
    rw [List.mem_filter, decide_eq_true_eq]
    exact ⟨And.right, fun has => ⟨present id has, has⟩⟩
  have lengths := same.length_eq
  unfold Table.keys at lengths
  rw [← List.countP_eq_length_filter, List.countP_map, List.length_map] at lengths
  exact lengths

theorem countP_or {α : Type} {P Q : α → Prop} [DecidablePred P] [DecidablePred Q] {items : List α}
    (apart : ∀ a ∈ items, P a → ¬ Q a) :
    items.countP (fun a => P a ∨ Q a) =
      items.countP (fun a => P a) + items.countP (fun a => Q a) := by
  induction items with
  | nil => rfl
  | cons a rest ih =>
    have later := ih fun b member => apart b (List.mem_cons_of_mem a member)
    have here := apart a List.mem_cons_self
    simp only [List.countP_cons, later, decide_eq_true_eq]
    by_cases p : P a
    · simp [p, here p]
      omega
    · simp [p]
      omega

theorem effect_exposure {config : ExperimentConfig} {state state' : WorldState} {zero : String}
    {drafts : List EventDraft} (wellFormed : WellFormed zero state)
    (effect : Effect config state drafts state') :
    exposure state' = exposure state + drafts.countP (fun d => First d) := by
  cases effect with
  | quiet quiet =>
    unfold exposure
    rw [quiet.nodes, countP_none]
    · rfl
    · intro d member first
      exact (quiet.silent d member).1.1 (Or.inl first.1)
  | @attack attack _ made nodes edges tick =>
    have undated : ∀ node ∈ state.nodes.values, node.tickCompromised ≠ none →
        ¬ attack.claims.Has node.id := by
      intro node member dated has
      obtain ⟨other, inside, named, spared⟩ := claimed_undated wellFormed made has
      obtain rfl := same_node inside member named
      exact dated spared
    have present : ∀ id, attack.claims.Has id → state.nodes.Has id := by
      intro id has
      obtain ⟨node, member, rfl, _⟩ := claimed_undated wellFormed made has
      exact List.mem_map_of_mem member
    rw [made_first made, ← claims_counted present, exposure, exposure, ← countP_or undated, nodes]
    unfold compromiseClaimed
    rw [Table.update_values, List.countP_map]
    apply List.countP_congr
    intro node _
    simp only [Function.comp_apply, decide_eq_true_eq, claimed_dated]
  | detection caught accused distinct =>
    unfold exposure Detection.quarantineAll
    rw [countP_none, Table.update_values, List.countP_map]
    · apply List.countP_congr
      intro node _
      simp only [Function.comp_apply, quarantineIn_date]
    · intro d member first
      exact Detection.drafts_spread d member first.1

/-- A run has compromised as many agents more as its log tells first successes. -/
theorem effects_exposure {config : ExperimentConfig} {state state' : WorldState} {zero : String}
    {drafts : List EventDraft} (wellFormed : WellFormed zero state)
    (effects : Effects config state drafts state') :
    exposure state' = exposure state + drafts.countP (fun d => First d) := by
  induction effects with
  | none => rfl
  | next before effect ih =>
    rw [effect_exposure (effects_wellFormed wellFormed before) effect, ih, List.countP_append,
      Nat.add_assoc]

/-- From tick 0 on, the log tells of every compromise. -/
theorem infected_iff_dated {rng : Rng} {networkx : Networkx} {config : ExperimentConfig}
    {state : WorldState} {drafts : List EventDraft}
    (effects : Effects config (buildWorld rng networkx config).1 drafts state) (id : String) :
    Infected ((buildWorld rng networkx config).2 ++ drafts) id ↔ Dated id state := by
  have wellFormed := buildWorld_wellFormed rng networkx config
  rw [(effects_dated id wellFormed effects).up]
  apply exists_append.trans
  apply or_congr_left
  obtain ⟨⟨zero, present, named⟩, each⟩ := buildWorld_zero rng networkx config
  constructor
  · rintro ⟨d, member, success, target⟩
    rcases List.mem_append.mp member with created | seeded
    · exact absurd (Or.inl success) (created_unmarked config _ d created)
    · obtain rfl := List.mem_singleton.mp seeded
      obtain rfl := Option.some.inj target
      refine ⟨zero, present, named, ?_⟩
      have kind := (each zero present).2
      rw [if_pos named] at kind
      rw [kind.2]
      simp
  · rintro ⟨node, inside, rfl, dated⟩
    have kind := (each node inside).2
    split at kind
    · rename_i same
      rw [same]
      exact ⟨_, List.mem_append_right _ List.mem_cons_self, rfl, rfl⟩
    · exact absurd kind.2 dated

end AgentShield.Scenarios
