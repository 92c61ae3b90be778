import Mathlib.Data.List.Sort

/-!
Comparators as a sort takes them: negative, zero or positive. What a sort needs of one is a
strict weak order on the values it sorts.
-/
namespace Comparator
variable {α : Type} {cmp : α → α → Int} {among : List α}

structure Consistent (cmp : α → α → Int) (among : List α) : Prop where
  same : ∀ a ∈ among, cmp a a = 0
  opposite : ∀ a ∈ among, ∀ b ∈ among, cmp a b < 0 ↔ 0 < cmp b a
  transitive : ∀ a ∈ among, ∀ b ∈ among, ∀ c ∈ among, cmp a b < 0 → cmp b c < 0 → cmp a c < 0
  indifferent : ∀ a ∈ among, ∀ b ∈ among, ∀ c ∈ among, cmp a b = 0 → cmp b c = 0 → cmp a c = 0

theorem Consistent.le_trans (consistent : Consistent cmp among) {a b c : α} (ha : a ∈ among)
    (hb : b ∈ among) (hc : c ∈ among) (first : cmp a b ≤ 0) (second : cmp b c ≤ 0) :
    cmp a c ≤ 0 := by
  by_contra! after
  have before := (consistent.opposite c hc a ha).mpr after
  rcases first.lt_or_eq with lower | level
  · have back := consistent.transitive c hc a ha b hb before lower
    have forth := (consistent.opposite c hc b hb).mp back
    omega
  · rcases second.lt_or_eq with lower | level'
    · have back := consistent.transitive b hb c hc a ha lower before
      have forth := (consistent.opposite b hb a ha).mp back
      omega
    · have whole := consistent.indifferent a ha b hb c hc level level'
      omega

theorem Consistent.mono {some : List α} (consistent : Consistent cmp among)
    (inside : ∀ a ∈ some, a ∈ among) : Consistent cmp some where
  same a ha := consistent.same a (inside a ha)
  opposite a ha b hb := consistent.opposite a (inside a ha) b (inside b hb)
  transitive a ha b hb c hc :=
    consistent.transitive a (inside a ha) b (inside b hb) c (inside c hc)
  indifferent a ha b hb c hc :=
    consistent.indifferent a (inside a ha) b (inside b hb) c (inside c hc)

/-- What is known of the sort of an engine: it permutes, and where the comparator is a strict
    weak order on the values the result is sorted, with equal values in the order they had. -/
structure EngineSort (α : Type) where
  sort : (α → α → Int) → List α → List α
  perm : ∀ cmp values, (sort cmp values).Perm values
  sorted : ∀ cmp values, Consistent cmp values →
    (sort cmp values).Pairwise fun a b => cmp a b ≤ 0
  stable : ∀ cmp values, Consistent cmp values → ∀ a b, cmp a b = 0 →
    [a, b].Sublist values → [a, b].Sublist (sort cmp values)

def sort (cmp : α → α → Int) (values : List α) : List α :=
  values.insertionSort fun a b => cmp a b ≤ 0

theorem sort_perm (cmp : α → α → Int) (values : List α) : (sort cmp values).Perm values :=
  List.perm_insertionSort _ values

theorem mem_sort {values : List α} {a : α} : a ∈ sort cmp values ↔ a ∈ values :=
  List.mem_insertionSort _

/-- With a consistent comparator nothing stands after what it should precede. -/
theorem Consistent.sorted (consistent : Consistent cmp among) :
    (sort cmp among).Pairwise fun a b => cmp a b ≤ 0 := by
  have inserted : ∀ (sorted : List α) (a : α), Consistent cmp (a :: sorted) →
      sorted.Pairwise (fun a b => cmp a b ≤ 0) →
      (sorted.orderedInsert (fun a b => cmp a b ≤ 0) a).Pairwise fun a b => cmp a b ≤ 0 := by
    intro sorted a
    induction sorted with
    | nil => exact fun _ _ => List.pairwise_singleton _ _
    | cons b rest ih =>
      intro consistent pairs
      obtain ⟨first, later⟩ := List.pairwise_cons.mp pairs
      have here : b ∈ a :: b :: rest := List.mem_cons_of_mem a List.mem_cons_self
      rw [List.orderedInsert_cons]
      split
      · rename_i before
        apply List.pairwise_cons.mpr
        refine ⟨List.forall_mem_cons.mpr ⟨before, fun c hc => ?_⟩, pairs⟩
        exact consistent.le_trans List.mem_cons_self here
          (List.mem_cons_of_mem a (List.mem_cons_of_mem b hc)) before (first c hc)
      · rename_i after
        have below : cmp b a < 0 :=
          (consistent.opposite b here a List.mem_cons_self).mpr (not_le.mp after)
        apply List.pairwise_cons.mpr
        constructor
        · intro c hc
          rcases (List.mem_orderedInsert _).mp hc with rfl | old
          · exact below.le
          · exact first c old
        · apply ih (consistent.mono _) later
          intro c hc
          rcases List.mem_cons.mp hc with rfl | old
          · exact List.mem_cons_self
          · exact List.mem_cons_of_mem a (List.mem_cons_of_mem b old)
  induction among with
  | nil => exact List.Pairwise.nil
  | cons a rest ih =>
    apply inserted
    · apply consistent.mono
      intro b hb
      rcases List.mem_cons.mp hb with rfl | old
      · exact List.mem_cons_self
      · exact List.mem_cons_of_mem a (mem_sort.mp old)
    · exact ih (consistent.mono fun b hb => List.mem_cons_of_mem a hb)

theorem pair_sublist {values : List α} {a b : α} (ha : a ∈ values) (hb : b ∈ values)
    (differ : a ≠ b) : [a, b].Sublist values ∨ [b, a].Sublist values := by
  obtain ⟨before, after, rfl⟩ := List.append_of_mem ha
  rcases List.mem_append.mp hb with earlier | later
  · right
    exact (List.singleton_sublist.mpr earlier).append
      (List.singleton_sublist.mpr List.mem_cons_self)
  · left
    rcases List.mem_cons.mp later with same | there
    · exact absurd same.symm differ
    · exact ((List.singleton_sublist.mpr there).cons_cons a).trans (List.sublist_append_right _ _)

theorem sort_stable {values : List α} {a b : α} (ordered : cmp a b ≤ 0)
    (pair : [a, b].Sublist values) : [a, b].Sublist (sort cmp values) := by
  have inserted : ∀ sorted : List α, b ∈ sorted →
      [a, b].Sublist (sorted.orderedInsert (fun a b => cmp a b ≤ 0) a) := by
    intro sorted
    induction sorted with
    | nil => exact fun absent => nomatch absent
    | cons c rest ih =>
      intro member
      rw [List.orderedInsert_cons]
      split
      · exact (List.singleton_sublist.mpr member).cons_cons a
      · rename_i after
        rcases List.mem_cons.mp member with rfl | later
        · exact absurd ordered after
        · exact (ih later).cons c
  induction values with
  | nil => cases pair
  | cons c rest ih =>
    cases pair with
    | cons _ later => exact (ih later).trans (List.sublist_orderedInsert c _)
    | cons_cons _ first => exact inserted _ (mem_sort.mpr (List.singleton_sublist.mp first))

namespace EngineSort

def insertion : EngineSort α where
  sort := Comparator.sort
  perm := sort_perm
  sorted _ _ consistent := consistent.sorted
  stable _ _ _ _ _ level := sort_stable level.le

variable (engine : EngineSort α)

theorem mem {values : List α} {a : α} : a ∈ engine.sort cmp values ↔ a ∈ values :=
  (engine.perm cmp values).mem_iff

theorem precedes (consistent : Consistent cmp among) {a b : α} (ha : a ∈ among)
    (hb : b ∈ among) (below : cmp a b < 0) : [a, b].Sublist (engine.sort cmp among) := by
  have differ : a ≠ b := by
    rintro rfl
    rw [consistent.same a ha] at below
    exact lt_irrefl 0 below
  rcases pair_sublist (engine.mem.mpr ha) (engine.mem.mpr hb) differ with forth | back
  · exact forth
  · have sorted := engine.sorted cmp among consistent
    have pairs := List.pairwise_iff_forall_sublist.mp sorted back
    have above := (consistent.opposite a ha b hb).mp below
    omega

end EngineSort

end Comparator
