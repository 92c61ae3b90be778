import AgentShield.Engine.NodeFold

/-!
What the three attackers' loops share: the drafts in order, and `claims`, which
gives a target to the first source that succeeds on it in a tick.
-/
namespace AgentShield.Engine
open Schema Keyed

structure Claim where
  target : String
  source : String
  deriving DecidableEq

structure Attack where
  drafts : List EventDraft
  claims : Table Claim.target

namespace Attack

def start : Attack := ⟨[], Table.empty⟩

def record (attack : Attack) (draft : EventDraft) : Attack :=
  { attack with drafts := attack.drafts ++ [draft] }

def draft (eventType : EventType) (tick : Nat) (source target : String) (metadata : Metadata) :
    EventDraft :=
  { simTick := tick
    eventType
    sourceAgentId := some source
    targetAgentId := some target
    metadata }

/- A later success on a claimed target is recorded, but does not win it again. -/
def succeed (attack : Attack) (tick : Nat) (source target : String) (metadata : Metadata) :
    Attack :=
  if attack.claims.Has target then
    attack.record (draft .compromiseSucceeded tick source target
      (metadata ++ [("already_compromised", .bool true)]))
  else
    { drafts := attack.drafts ++ [draft .compromiseSucceeded tick source target metadata]
      claims := attack.claims.put ⟨target, source⟩ }

def attempt (attack : Attack) (tick : Nat) (source target : String) (metadata : Metadata)
    (hit : Bool) : Attack :=
  let attempted := attack.record (draft .compromiseAttempted tick source target metadata)
  if hit then attempted.succeed tick source target metadata
  else attempted.record (draft .compromiseFailed tick source target metadata)

end Attack

def AgentNode.compromise (node : AgentNode) (source : String) (tick : Nat) : AgentNode :=
  { node with
    securityState := .compromised
    compromisedBy := some source
    tickCompromised := some tick }

def AgentNode.claimed (claims : Table Claim.target) (tick : Nat) (node : AgentNode) :
    AgentNode :=
  match claims.get? node.id with
  | none => node
  | some claim => node.compromise claim.source tick

theorem claimed_id (claims : Table Claim.target) (tick : Nat) (node : AgentNode) :
    (node.claimed claims tick).id = node.id := by
  unfold AgentNode.claimed
  split <;> rfl

/- `for target, source in claims.items(): new_nodes[target] = replace(...)`; the targets
   differ. -/
def compromiseClaimed (claims : Table Claim.target) (tick : Nat)
    (nodes : Table AgentNode.id) : Table AgentNode.id :=
  nodes.update (AgentNode.claimed claims tick) (claimed_id claims tick)

def claimedView (claims : Table Claim.target) (tick : Nat) (view : NodeView) : NodeView :=
  match claims.get? view.id with
  | none => view
  | some claim =>
    { view with
      securityState := .compromised
      compromisedBy := some claim.source
      tickCompromised := some tick }

theorem view_claimed (claims : Table Claim.target) (tick : Nat) (node : AgentNode) :
    (node.claimed claims tick).view = claimedView claims tick node.view := by
  unfold AgentNode.claimed claimedView
  rw [view_id]
  split <;> rfl

structure Attack.Told (state : WorldState) (tick : Nat) (attack : Attack) : Prop where
  folded : ∀ view, observeAll attack.drafts view = claimedView attack.claims tick view
  marked : ∀ d ∈ attack.drafts, Marks d → ∃ target, attack.claims.Has target
  healthy : ∀ target, attack.claims.Has target →
    ∃ node ∈ state.nodes.values, node.id = target ∧ node.securityState = .healthy

theorem told_start (state : WorldState) (tick : Nat) : Attack.start.Told state tick := by
  constructor
  · intro view
    rfl
  · intro d member
    cases member
  · intro target has
    cases has

theorem told_record {state : WorldState} {tick : Nat} {attack : Attack}
    (told : attack.Told state tick) {draft : EventDraft} (unmarked : ¬ Marks draft) :
    (attack.record draft).Told state tick := by
  constructor
  · intro view
    have grown : (attack.record draft).drafts = attack.drafts ++ [draft] := rfl
    rw [grown, observeAll_concat, observe_unmarked unmarked, told.folded]
    rfl
  · intro d member marks
    rcases List.mem_append.mp member with old | new
    · exact told.marked d old marks
    · obtain rfl := List.mem_singleton.mp new
      exact absurd marks unmarked
  · exact told.healthy

theorem metadataGet_last {metadata : Metadata} {name : String} {value : JsonValue}
    (absent : metadataGet metadata name = none) :
    metadataGet (metadata ++ [(name, value)]) name = some value := by
  unfold metadataGet at absent ⊢
  rw [Option.map_eq_none_iff] at absent
  rw [List.find?_append, absent]
  simp

theorem observe_claim {tick : Nat} {source target : String} {metadata : Metadata}
    (first : metadataGet metadata "already_compromised" = none) (view : NodeView) :
    observe (Attack.draft .compromiseSucceeded tick source target metadata) view =
      if target = view.id then
        { view with
          securityState := .compromised
          compromisedBy := some source
          tickCompromised := some tick }
      else view := by
  unfold observe Attack.draft
  by_cases same : target = view.id
  · simp [same, first]
  · simp [same]

theorem observe_duplicate {tick : Nat} {source target : String} {metadata : Metadata}
    (first : metadataGet metadata "already_compromised" = none) (view : NodeView) :
    observe (Attack.draft .compromiseSucceeded tick source target
        (metadata ++ [("already_compromised", .bool true)])) view =
      if target = view.id then { view with securityState := .compromised } else view := by
  have again : metadataGet (metadata ++ [("already_compromised", .bool true)])
      "already_compromised" = some (.bool true) := metadataGet_last first
  unfold observe Attack.draft
  by_cases same : target = view.id
  · simp [same, again]
  · simp [same]

theorem told_succeed {state : WorldState} {tick : Nat} {attack : Attack}
    (told : attack.Told state tick) {source : String} {target : AgentNode}
    {metadata : Metadata} (first : metadataGet metadata "already_compromised" = none)
    (member : target ∈ state.nodes.values) (healthy : target.securityState = .healthy) :
    (attack.succeed tick source target.id metadata).Told state tick := by
  unfold Attack.succeed
  by_cases already : attack.claims.Has target.id
  · rw [if_pos already]
    obtain ⟨claim, found⟩ := Table.has_iff_get?.mp already
    constructor
    · intro view
      have grown : ∀ draft, (attack.record draft).drafts = attack.drafts ++ [draft] :=
        fun _ => rfl
      rw [grown, observeAll_concat, observe_duplicate first, told.folded]
      have same_claims : ∀ draft, (attack.record draft).claims = attack.claims := fun _ => rfl
      rw [same_claims]
      unfold claimedView
      by_cases same : target.id = view.id
      · rw [← same, found]
        simp [same]
      · cases other : attack.claims.get? view.id <;> simp [same]
    · intro d _ _
      exact ⟨target.id, already⟩
    · exact told.healthy
  · rw [if_neg already]
    have put : ∀ id, (attack.claims.put ⟨target.id, source⟩).get? id =
        if id = target.id then some ⟨target.id, source⟩ else attack.claims.get? id :=
      fun id => Table.get?_put _ _ _
    constructor
    · intro view
      simp only [observeAll_concat]
      rw [observe_claim first, told.folded]
      unfold claimedView
      simp only [put]
      by_cases same : target.id = view.id
      · have unclaimed : attack.claims.get? view.id = none := by
          rw [← same]
          exact Table.get?_none_iff.mpr already
        simp [unclaimed, same]
      · have differ : ¬ view.id = target.id := fun h => same h.symm
        rw [if_neg differ]
        cases other : attack.claims.get? view.id <;> simp [same]
    · intro d _ _
      exact ⟨target.id, Table.has_put.mpr (Or.inl rfl)⟩
    · intro id has
      rcases Table.has_put.mp has with same | old
      · exact ⟨target, member, same.symm, healthy⟩
      · exact told.healthy id old

inductive Attack.Made (state : WorldState) (tick : Nat) : Attack → Prop where
  | start : Made state tick .start
  | record {attack : Attack} {draft : EventDraft} (made : Made state tick attack)
      (silent : Silent draft) (now : draft.simTick = tick) :
      Made state tick (attack.record draft)
  | succeed {attack : Attack} {source target : AgentNode} {metadata : Metadata}
      (made : Made state tick attack) (attacking : source ∈ state.inState .compromised)
      (inside : target ∈ state.healthyNeighbors source)
      (first : metadataGet metadata "already_compromised" = none) :
      Made state tick (attack.succeed tick source.id target.id metadata)

theorem made_attempt {state : WorldState} {tick : Nat} {attack : Attack}
    (made : attack.Made state tick) {source target : AgentNode} {metadata : Metadata}
    (attacking : source ∈ state.inState .compromised)
    (inside : target ∈ state.healthyNeighbors source)
    (first : metadataGet metadata "already_compromised" = none) (hit : Bool) :
    (attack.attempt tick source.id target.id metadata hit).Made state tick := by
  have attempted : (attack.record
      (Attack.draft .compromiseAttempted tick source.id target.id metadata)).Made state tick := by
    apply made.record
    · simp [Silent, Marks, Attack.draft]
    · rfl
  unfold Attack.attempt
  cases hit with
  | true => exact attempted.succeed attacking inside first
  | false =>
    apply attempted.record
    · simp [Silent, Marks, Attack.draft]
    · rfl

theorem made_loop {α : Type} {state : WorldState} {tick : Nat} {round : Attack → α → Attack}
    {items : List α} {attack : Attack} (made : attack.Made state tick)
    (each : ∀ attack : Attack, attack.Made state tick →
      ∀ item ∈ items, (round attack item).Made state tick) :
    (items.foldl round attack).Made state tick := by
  induction items generalizing attack with
  | nil => exact made
  | cons item rest ih =>
    apply ih (each attack made item List.mem_cons_self)
    intro later kept other member
    exact each later kept other (List.mem_cons_of_mem item member)

theorem told_of_made {state : WorldState} {tick : Nat} {attack : Attack}
    (made : attack.Made state tick) : attack.Told state tick := by
  induction made with
  | start => exact told_start state tick
  | record _ silent _ told => exact told_record told silent.1
  | succeed _ _ inside first told =>
    obtain ⟨_, present, healthy⟩ := mem_healthyNeighbors.mp inside
    exact told_succeed told first present healthy

/-- Whatever the loop did, the tick's drafts mirror the nodes it compromises. -/
theorem made_mirrors {state state' : WorldState} {tick : Nat} {attack : Attack}
    (made : attack.Made state tick)
    (nodes : state'.nodes = compromiseClaimed attack.claims tick state.nodes) :
    Mirrors state attack.drafts state' := by
  have told := told_of_made made
  have lifted : ∀ node ∈ state.nodes.values, ∀ claim, attack.claims.get? node.id = some claim →
      node.securityState = .healthy := by
    intro node member claim found
    obtain ⟨other, inside, same, healthy⟩ :=
      told.healthy node.id (Table.has_iff_get?.mpr ⟨claim, found⟩)
    have one : other = node := by
      have first := Table.get?_of_member inside
      rw [same, Table.get?_of_member member] at first
      exact (Option.some.inj first).symm
    exact one ▸ healthy
  constructor
  · unfold WorldState.views foldViews
    rw [nodes]
    unfold compromiseClaimed
    rw [Table.update_values, List.map_map, List.map_map]
    apply List.map_congr_left
    intro node _
    have folded := told.folded node.view
    exact (view_claimed attack.claims tick node).trans folded.symm
  constructor
  · intro view inside
    obtain ⟨node, member, rfl⟩ := List.mem_map.mp inside
    rw [told.folded]
    unfold claimedView Lower
    rw [view_id]
    cases found : attack.claims.get? node.id with
    | none => exact Nat.lt_irrefl _
    | some claim =>
      have healthy := lifted node member claim found
      simp [healthy, rank]
  · intro d member marks
    obtain ⟨target, has⟩ := told.marked d member marks
    obtain ⟨node, inside, same, healthy⟩ := told.healthy target has
    obtain ⟨claim, found⟩ := Table.has_iff_get?.mp has
    refine ⟨node.view, List.mem_map_of_mem inside, ?_⟩
    rw [told.folded]
    unfold claimedView Lower
    rw [view_id, same, found]
    simp [healthy, rank]

theorem unclaimed_nodes {claims : Table Claim.target} (unclaimed : claims.values = [])
    (tick : Nat) (nodes : Table AgentNode.id) : compromiseClaimed claims tick nodes = nodes := by
  apply Table.update_same
  intro node _
  unfold AgentNode.claimed Table.get?
  rw [unclaimed]
  rfl

theorem succeed_cases (attack : Attack) (tick : Nat) (source target : String)
    (metadata : Metadata) :
    (∃ draft, (attack.succeed tick source target metadata).drafts = attack.drafts ++ [draft] ∧
      draft.simTick = tick ∧ draft.eventType = .compromiseSucceeded ∧
      draft.targetAgentId = some target) ∧
    (∀ claim ∈ (attack.succeed tick source target metadata).claims.values,
      claim = ⟨target, source⟩ ∨ claim ∈ attack.claims.values) ∧
    ∀ id, (attack.succeed tick source target metadata).claims.Has id ↔
      id = target ∨ attack.claims.Has id := by
  unfold Attack.succeed
  split
  · rename_i already
    refine ⟨⟨_, rfl, rfl, rfl, rfl⟩, fun claim member => Or.inr member, ?_⟩
    intro id
    constructor
    · exact Or.inr
    · rintro (rfl | old)
      · exact already
      · exact old
  · refine ⟨⟨_, rfl, rfl, rfl, rfl⟩, ?_, fun id => Table.has_put⟩
    intro claim member
    rcases Table.put_member member with new | ⟨old, _⟩
    · exact Or.inl new
    · exact Or.inr old

theorem attempt_has (attack : Attack) (tick : Nat) (source target : String) (metadata : Metadata)
    (hit : Bool) (id : String) :
    (attack.attempt tick source target metadata hit).claims.Has id ↔
      attack.claims.Has id ∨ hit = true ∧ id = target := by
  unfold Attack.attempt
  cases hit with
  | true =>
    rw [if_pos rfl, (succeed_cases _ _ _ _ _).2.2, or_comm]
    exact or_congr_right (and_iff_right rfl).symm
  | false => exact ⟨Or.inl, fun both => both.resolve_right fun never => by cases never.1⟩

theorem loop_has {α : Type} {claimsOf : α → String → Prop} {round : Attack → α → Attack}
    (each : ∀ (attack : Attack) item id,
      (round attack item).claims.Has id ↔ attack.claims.Has id ∨ claimsOf item id)
    (items : List α) (attack : Attack) (id : String) :
    (items.foldl round attack).claims.Has id ↔
      attack.claims.Has id ∨ ∃ item ∈ items, claimsOf item id := by
  induction items generalizing attack with
  | nil => simp
  | cons item rest ih =>
    rw [List.foldl_cons, ih, each, or_assoc]
    simp only [List.mem_cons, exists_eq_or_imp]

theorem made_claim {state : WorldState} {tick : Nat} {attack : Attack}
    (made : attack.Made state tick) {claim : Claim} (member : claim ∈ attack.claims.values) :
    ∃ source ∈ state.inState .compromised, ∃ target ∈ state.healthyNeighbors source,
      claim = ⟨target.id, source.id⟩ := by
  induction made with
  | start => cases member
  | record _ _ _ ih => exact ih member
  | succeed _ attacking inside _ ih =>
    rcases (succeed_cases _ _ _ _ _).2.1 claim member with new | old
    · exact ⟨_, attacking, _, inside, new⟩
    · exact ih old

theorem made_draft {state : WorldState} {tick : Nat} {attack : Attack}
    (made : attack.Made state tick) {draft : EventDraft} (member : draft ∈ attack.drafts) :
    draft.simTick = tick ∧ (Silent draft ∨ draft.eventType = .compromiseSucceeded ∧
      ∃ id, draft.targetAgentId = some id ∧ attack.claims.Has id) := by
  induction made with
  | start => cases member
  | record _ silent now ih =>
    rcases List.mem_append.mp member with old | new
    · exact ih old
    · obtain rfl := List.mem_singleton.mp new
      exact ⟨now, Or.inl silent⟩
  | succeed made attacking inside first ih =>
    obtain ⟨⟨last, grown, now, type, target⟩, _, claimed⟩ := succeed_cases _ _ _ _ _
    rw [grown] at member
    rcases List.mem_append.mp member with old | new
    · obtain ⟨then_, kind⟩ := ih old
      refine ⟨then_, ?_⟩
      rcases kind with silent | ⟨success, id, subject, has⟩
      · exact Or.inl silent
      · exact Or.inr ⟨success, id, subject, (claimed id).mpr (Or.inr has)⟩
    · obtain rfl := List.mem_singleton.mp new
      exact ⟨now, Or.inr ⟨type, _, target, (claimed _).mpr (Or.inl rfl)⟩⟩

theorem made_claim_told {state : WorldState} {tick : Nat} {attack : Attack}
    (made : attack.Made state tick) {id : String} (has : attack.claims.Has id) :
    ∃ draft ∈ attack.drafts, draft.eventType = .compromiseSucceeded ∧
      draft.targetAgentId = some id := by
  induction made with
  | start => cases has
  | record _ _ _ ih =>
    obtain ⟨draft, member, told⟩ := ih has
    exact ⟨draft, List.mem_append_left _ member, told⟩
  | succeed made attacking inside first ih =>
    obtain ⟨⟨last, grown, _, type, target⟩, _, claimed⟩ := succeed_cases _ _ _ _ _
    rw [grown]
    rcases (claimed id).mp has with rfl | old
    · exact ⟨last, List.mem_append_right _ List.mem_cons_self, type, target⟩
    · obtain ⟨draft, member, told⟩ := ih old
      exact ⟨draft, List.mem_append_left _ member, told⟩

end AgentShield.Engine
