import Mathlib.Data.Finset.Card
import Mathlib.Data.Finset.Image
import Mathlib.Data.Finset.SDiff
import Mathlib.Data.List.Dedup
import Mathlib.Logic.Relation

/-!
Reachability in a finite directed graph, computed by adding successors until
nothing is new.
-/
namespace Reach
variable {α : Type} [DecidableEq α]

def Edge (edges : List (α × α)) (a b : α) : Prop := (a, b) ∈ edges

def successors (edges : List (α × α)) (seen : Finset α) : Finset α :=
  ((edges.filter fun edge => edge.1 ∈ seen).map Prod.snd).toFinset

theorem mem_successors {edges : List (α × α)} {seen : Finset α} {b : α} :
    b ∈ successors edges seen ↔ ∃ a ∈ seen, Edge edges a b := by
  unfold successors Edge
  simp only [List.mem_toFinset, List.mem_map, List.mem_filter, decide_eq_true_eq]
  constructor
  · rintro ⟨⟨a, _⟩, ⟨member, here⟩, rfl⟩
    exact ⟨a, here, member⟩
  · rintro ⟨a, here, member⟩
    exact ⟨(a, b), ⟨member, here⟩, rfl⟩

def closure (edges : List (α × α)) (seen : Finset α) : Finset α :=
  if successors edges seen ⊆ seen then seen
  else closure edges (seen ∪ successors edges seen)
termination_by ((edges.map Prod.snd).toFinset \ seen).card
decreasing_by
  rename_i more
  obtain ⟨b, inside, fresh⟩ := Finset.not_subset.mp more
  apply Finset.card_lt_card
  apply Finset.ssubset_iff_subset_ne.mpr
  constructor
  · exact Finset.sdiff_subset_sdiff (Finset.Subset.refl _) Finset.subset_union_left
  · intro same
    obtain ⟨a, _, edge⟩ := mem_successors.mp inside
    have target : b ∈ (edges.map Prod.snd).toFinset \ seen :=
      Finset.mem_sdiff.mpr ⟨List.mem_toFinset.mpr (List.mem_map_of_mem edge), fresh⟩
    rw [← same] at target
    exact (Finset.mem_sdiff.mp target).2 (Finset.mem_union_right _ inside)

theorem subset_closure (edges : List (α × α)) (seen : Finset α) : seen ⊆ closure edges seen := by
  induction seen using closure.induct edges with
  | case1 seen closed =>
    rw [closure, if_pos closed]
  | case2 seen more ih =>
    rw [closure, if_neg more]
    exact Finset.subset_union_left.trans ih

theorem closure_closed {edges : List (α × α)} {seen : Finset α} {a b : α}
    (inside : a ∈ closure edges seen) (edge : Edge edges a b) : b ∈ closure edges seen := by
  induction seen using closure.induct edges with
  | case1 seen closed =>
    rw [closure, if_pos closed] at inside ⊢
    exact closed (mem_successors.mpr ⟨a, inside, edge⟩)
  | case2 seen more ih =>
    rw [closure, if_neg more] at inside ⊢
    exact ih inside

theorem closure_least {edges : List (α × α)} {seen : Finset α} {keep : α → Prop}
    (start : ∀ a ∈ seen, keep a) (closed : ∀ a b, keep a → Edge edges a b → keep b) {b : α}
    (inside : b ∈ closure edges seen) : keep b := by
  induction seen using closure.induct edges with
  | case1 seen stops =>
    rw [closure, if_pos stops] at inside
    exact start b inside
  | case2 seen more ih =>
    rw [closure, if_neg more] at inside
    apply ih _ inside
    intro c member
    rcases Finset.mem_union.mp member with old | new
    · exact start c old
    · obtain ⟨a, here, edge⟩ := mem_successors.mp new
      exact closed a c (start a here) edge

/-- The closure is exactly what is reachable. -/
theorem mem_closure {edges : List (α × α)} {seen : Finset α} {b : α} :
    b ∈ closure edges seen ↔ ∃ a ∈ seen, Relation.ReflTransGen (Edge edges) a b := by
  constructor
  · apply closure_least
    · intro a here
      exact ⟨a, here, .refl⟩
    · rintro b c ⟨a, here, path⟩ edge
      exact ⟨a, here, path.tail edge⟩
  · rintro ⟨a, here, path⟩
    induction path with
    | refl => exact subset_closure edges seen here
    | tail _ edge ih => exact closure_closed ih edge

end Reach
