import Mathlib.Data.List.Induction
import Mathlib.Data.List.Nodup

/-!
The first value of each key, in order: a fold that appends what it has not seen before.
-/
namespace Distinct
variable {α κ : Type} [DecidableEq κ]

def keepFirst (key : α → κ) (kept : List α) (value : α) : List α :=
  if key value ∈ kept.map key then kept else kept ++ [value]

def firsts (key : α → κ) (values : List α) : List α := values.foldl (keepFirst key) []

theorem firsts_concat (key : α → κ) (values : List α) (value : α) :
    firsts key (values ++ [value]) = keepFirst key (firsts key values) value := by
  unfold firsts
  rw [List.foldl_append, List.foldl_cons, List.foldl_nil]

theorem firsts_member {key : α → κ} {values : List α} {value : α}
    (kept : value ∈ firsts key values) : value ∈ values := by
  induction values using List.reverseRecOn with
  | nil => exact kept
  | append_singleton values last ih =>
    rw [firsts_concat, keepFirst] at kept
    split at kept
    · exact List.mem_append_left _ (ih kept)
    · rcases List.mem_append.mp kept with old | new
      · exact List.mem_append_left _ (ih old)
      · exact List.mem_append_right _ new

theorem firsts_keys {key : α → κ} {values : List α} {k : κ} :
    k ∈ (firsts key values).map key ↔ k ∈ values.map key := by
  induction values using List.reverseRecOn generalizing k with
  | nil => rfl
  | append_singleton values last ih =>
    rw [firsts_concat, keepFirst, List.map_append, List.mem_append, List.map_singleton,
      List.mem_singleton]
    split
    · rename_i seen
      rw [ih]
      apply (or_iff_left_of_imp _).symm
      intro here
      rw [here]
      exact ih.mp seen
    · rw [List.map_append, List.mem_append, ih, List.map_singleton, List.mem_singleton]

theorem firsts_distinct (key : α → κ) (values : List α) : ((firsts key values).map key).Nodup := by
  induction values using List.reverseRecOn with
  | nil => exact List.nodup_nil
  | append_singleton values last ih =>
    rw [firsts_concat, keepFirst]
    split
    · exact ih
    · rename_i fresh
      rw [List.map_append, List.map_singleton]
      exact List.nodup_append.mpr ⟨ih, List.nodup_singleton _, fun k here k' last same =>
        fresh (by rwa [← List.mem_singleton.mp last, ← same])⟩

theorem firsts_congr {κ' : Type} [DecidableEq κ'] {key : α → κ} {key' : α → κ'} {values : List α}
    (same : ∀ u ∈ values, ∀ v ∈ values, key u = key v ↔ key' u = key' v) :
    firsts key values = firsts key' values := by
  induction values using List.reverseRecOn with
  | nil => rfl
  | append_singleton values last ih =>
    have kept : firsts key values = firsts key' values :=
      ih fun u hu v hv => same u (List.mem_append_left _ hu) v (List.mem_append_left _ hv)
    have seen : key last ∈ (firsts key values).map key ↔
        key' last ∈ (firsts key' values).map key' := by
      rw [firsts_keys, firsts_keys, List.mem_map, List.mem_map]
      have agree : ∀ u ∈ values, key u = key last ↔ key' u = key' last := fun u hu =>
        same u (List.mem_append_left _ hu) last (List.mem_append_right _ List.mem_cons_self)
      constructor
      · rintro ⟨u, here, known⟩
        exact ⟨u, here, (agree u here).mp known⟩
      · rintro ⟨u, here, known⟩
        exact ⟨u, here, (agree u here).mpr known⟩
    rw [firsts_concat, firsts_concat, keepFirst, keepFirst]
    by_cases repeated : key last ∈ (firsts key values).map key
    · rw [if_pos repeated, if_pos (seen.mp repeated), kept]
    · rw [if_neg repeated, if_neg (mt seen.mpr repeated), kept]

theorem firsts_map {β : Type} (view : α → β) (key : β → κ) (values : List α) :
    (firsts (fun v => key (view v)) values).map view = firsts key (values.map view) := by
  induction values using List.reverseRecOn with
  | nil => rfl
  | append_singleton values last ih =>
    rw [List.map_append, List.map_singleton, firsts_concat, firsts_concat, ← ih, keepFirst,
      keepFirst, List.map_map]
    split
    · rename_i seen
      exact (if_pos seen).symm
    · rename_i fresh
      rw [List.map_append, List.map_singleton]
      exact (if_neg fresh).symm

variable [DecidableEq α]

theorem mem_firsts {values : List α} {value : α} : value ∈ firsts id values ↔ value ∈ values := by
  have keys : value ∈ (firsts id values).map id ↔ value ∈ values.map id := firsts_keys
  rwa [List.map_id, List.map_id] at keys

theorem firsts_nodup (values : List α) : (firsts id values).Nodup := by
  have distinct := firsts_distinct id values
  rwa [List.map_id] at distinct

/-- A key that keeps every value is injective on them. -/
theorem firsts_key_iff {key : α → κ} {values : List α} :
    firsts key values = firsts id values ↔
      ∀ u ∈ values, ∀ v ∈ values, key u = key v → u = v := by
  constructor
  · intro kept u hu v hv same
    have distinct := firsts_distinct key values
    rw [kept] at distinct
    exact List.inj_on_of_nodup_map distinct (mem_firsts.mpr hu) (mem_firsts.mpr hv) same
  · intro injective
    exact firsts_congr fun u hu v hv => ⟨injective u hu v hv, congrArg key⟩

theorem firsts_append_filter {values later : List α} {keep : α → Bool}
    (known : ∀ v ∈ later, keep v = false → v ∈ values) :
    firsts id (values ++ later.filter keep) = firsts id (values ++ later) := by
  induction later using List.reverseRecOn with
  | nil => rfl
  | append_singleton later last ih =>
    have before := ih fun v hv => known v (List.mem_append_left _ hv)
    rw [List.filter_append, ← List.append_assoc, ← List.append_assoc, firsts_concat, ← before,
      List.filter_singleton]
    cases kept : keep last with
    | true => exact firsts_concat _ _ _
    | false =>
      have seen : last ∈ firsts id (values ++ later.filter keep) :=
        mem_firsts.mpr (List.mem_append_left _
          (known last (List.mem_append_right _ List.mem_cons_self) kept))
      rw [keepFirst, List.map_id, if_pos (by exact seen), cond_false, List.append_nil]

end Distinct
