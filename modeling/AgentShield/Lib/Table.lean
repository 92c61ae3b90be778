import Mathlib.Algebra.Group.Basic
import Mathlib.Algebra.GroupWithZero.Nat
import Mathlib.Data.List.Nodup

/-!
An insertion-ordered map whose values carry their own key: assigning a key
that is present replaces the value in place, a new key goes to the end. Two
values with one key cannot be built.
-/
namespace Keyed
variable {κ ν : Type} {key : ν → κ}

structure Table (key : ν → κ) where
  values : List ν
  distinct : (values.map key).Nodup

def Table.empty : Table key := ⟨[], List.nodup_nil⟩

instance : Inhabited (Table key) := ⟨Table.empty⟩

def Table.keys (t : Table key) : List κ := t.values.map key

theorem map_keeps_keys {f : ν → ν} (keeps : ∀ v, key (f v) = key v) (vs : List ν) :
    (vs.map f).map key = vs.map key := by
  rw [List.map_map]
  exact List.map_congr_left fun v _ => keeps v

def Table.update (t : Table key) (f : ν → ν) (keeps : ∀ v, key (f v) = key v) : Table key :=
  ⟨t.values.map f, by rw [map_keeps_keys keeps]; exact t.distinct⟩

@[simp] theorem Table.update_values (t : Table key) (f : ν → ν) (keeps) :
    (t.update f keeps).values = t.values.map f := rfl

theorem Table.update_same {t : Table key} {f : ν → ν} {keeps : ∀ v, key (f v) = key v}
    (same : ∀ v ∈ t.values, f v = v) : t.update f keeps = t := by
  have values : t.values.map f = t.values := by
    rw [List.map_congr_left (g := id) same, List.map_id]
  obtain ⟨vs, distinct⟩ := t
  simpa [Table.update] using values

variable [DecidableEq κ]

def replaceOrAppend (key : ν → κ) (v : ν) : List ν → List ν
  | [] => [v]
  | w :: ws => if key w = key v then v :: ws else w :: replaceOrAppend key v ws

theorem replaced_key_member {v : ν} {ws : List ν} {k : κ} :
    k ∈ (replaceOrAppend key v ws).map key ↔ k = key v ∨ k ∈ ws.map key := by
  induction ws with
  | nil => simp [replaceOrAppend]
  | cons w ws ih =>
    simp only [replaceOrAppend]
    split
    · rename_i same
      simp [same]
    · simp only [List.map_cons, List.mem_cons, ih]
      exact or_left_comm

theorem replaced_keys_distinct {v : ν} {ws : List ν} (distinct : (ws.map key).Nodup) :
    ((replaceOrAppend key v ws).map key).Nodup := by
  induction ws with
  | nil => simp [replaceOrAppend]
  | cons w ws ih =>
    obtain ⟨fresh, rest⟩ := List.nodup_cons.mp distinct
    simp only [replaceOrAppend]
    split
    · rename_i same
      simpa [← same] using distinct
    · rename_i differ
      refine List.nodup_cons.mpr ⟨?_, ih rest⟩
      intro member
      rcases replaced_key_member.mp member with same | old
      · exact differ same
      · exact fresh old

theorem replaced_member {v w : ν} {ws : List ν} (member : w ∈ replaceOrAppend key v ws) :
    w = v ∨ w ∈ ws := by
  induction ws with
  | nil => exact .inl (List.mem_singleton.mp member)
  | cons u ws ih =>
    rw [replaceOrAppend] at member
    split at member
    · rcases List.mem_cons.mp member with here | later
      · exact .inl here
      · exact .inr (List.mem_cons_of_mem u later)
    · rcases List.mem_cons.mp member with here | later
      · exact .inr (here ▸ List.mem_cons_self)
      · exact (ih later).imp_right (List.mem_cons_of_mem u)

theorem new_appended {v : ν} {ws : List ν} (absent : key v ∉ ws.map key) :
    replaceOrAppend key v ws = ws ++ [v] := by
  induction ws with
  | nil => rfl
  | cons w ws ih =>
    obtain ⟨differ, later⟩ := not_or.mp (mt List.mem_cons.mpr absent)
    rw [replaceOrAppend, if_neg (Ne.symm differ), ih later, List.cons_append]

theorem replaceOrAppend_map {μ : Type} {key' : μ → κ} {f : ν → μ} (keeps : ∀ v, key' (f v) = key v)
    (v : ν) (ws : List ν) :
    (replaceOrAppend key v ws).map f = replaceOrAppend key' (f v) (ws.map f) := by
  induction ws with
  | nil => rfl
  | cons w ws ih =>
    simp only [replaceOrAppend, List.map_cons, keeps]
    split
    · rfl
    · rw [List.map_cons, ih]

namespace Table

def get? (t : Table key) (k : κ) : Option ν := t.values.find? fun v => key v = k

def put (t : Table key) (v : ν) : Table key :=
  ⟨replaceOrAppend key v t.values, replaced_keys_distinct t.distinct⟩

def erase (t : Table key) (k : κ) : Table key :=
  ⟨t.values.filter fun v => key v ≠ k,
    t.distinct.sublist (List.Sublist.map key List.filter_sublist)⟩

def Has (t : Table key) (k : κ) : Prop := k ∈ t.keys

instance (t : Table key) (k : κ) : Decidable (t.Has k) :=
  inferInstanceAs (Decidable (k ∈ t.keys))

theorem get?_key {t : Table key} {k : κ} {v : ν} (found : t.get? k = some v) : key v = k := by
  simpa using List.find?_some found

theorem get?_member {t : Table key} {k : κ} {v : ν} (found : t.get? k = some v) :
    v ∈ t.values :=
  List.mem_of_find?_eq_some found

theorem get?_of_member {t : Table key} {v : ν} (member : v ∈ t.values) :
    t.get? (key v) = some v := by
  obtain ⟨values, distinct⟩ := t
  simp only [get?] at member ⊢
  induction values with
  | nil => simp at member
  | cons w ws ih =>
    obtain ⟨fresh, rest⟩ := List.nodup_cons.mp distinct
    rcases List.mem_cons.mp member with same | later
    · subst v
      simp
    · have differ : key w ≠ key v := by
        intro same
        exact fresh (by rw [same]; exact List.mem_map_of_mem later)
      rw [List.find?_cons_of_neg (by simpa using differ)]
      exact ih rest later

theorem has_iff_get? {t : Table key} {k : κ} : t.Has k ↔ ∃ v, t.get? k = some v := by
  constructor
  · intro has
    obtain ⟨v, member, same⟩ := List.mem_map.mp has
    exact ⟨v, by rw [← same]; exact get?_of_member member⟩
  · rintro ⟨v, found⟩
    rw [← get?_key found]
    exact List.mem_map_of_mem (get?_member found)

theorem get?_none_iff {t : Table key} {k : κ} : t.get? k = none ↔ ¬ t.Has k := by
  rw [has_iff_get?, Option.eq_none_iff_forall_ne_some, not_exists]

@[simp] theorem get?_put (t : Table key) (v : ν) (k : κ) :
    (t.put v).get? k = if k = key v then some v else t.get? k := by
  obtain ⟨values, distinct⟩ := t
  simp only [get?, put]
  clear distinct
  induction values with
  | nil =>
    by_cases same : k = key v
    · simp [replaceOrAppend, same]
    · simp [replaceOrAppend, same, Ne.symm same]
  | cons w ws ih =>
    simp only [replaceOrAppend]
    split
    · rename_i here
      by_cases same : k = key v
      · simp [same]
      · have differ : key w ≠ k := by rw [here]; exact Ne.symm same
        simp [same, Ne.symm same, differ]
    · rename_i there
      by_cases first : key w = k
      · have differ : k ≠ key v := by rw [← first]; exact there
        simp [first, differ]
      · rw [List.find?_cons_of_neg (by simpa using first),
          List.find?_cons_of_neg (by simpa using first), ih]

@[simp] theorem get?_update (t : Table key) (f : ν → ν) (keeps) (k : κ) :
    (t.update f keeps).get? k = (t.get? k).map f := by
  simp only [get?, update, List.find?_map]
  congr 2
  funext v
  simp [keeps v]

@[simp] theorem get?_erase (t : Table key) (removed k : κ) :
    (t.erase removed).get? k = if k = removed then none else t.get? k := by
  simp only [get?, erase]
  by_cases same : k = removed
  · rw [if_pos same, List.find?_eq_none]
    intro v member
    simpa [same] using List.of_mem_filter member
  · rw [if_neg same, List.find?_filter]
    congr 1
    funext v
    by_cases here : key v = k
    · simp [here, same]
    · simp [here]

theorem has_put {t : Table key} {v : ν} {k : κ} : (t.put v).Has k ↔ k = key v ∨ t.Has k :=
  replaced_key_member

theorem put_member {t : Table key} {v w : ν} (member : w ∈ (t.put v).values) :
    w = v ∨ w ∈ t.values ∧ key w ≠ key v := by
  have found := get?_of_member member
  rw [get?_put] at found
  split at found
  · exact Or.inl (Option.some.inj found).symm
  · rename_i differ
    exact Or.inr ⟨get?_member found, differ⟩

theorem put_values_of_absent {t : Table key} {v : ν} (absent : ¬ t.Has (key v)) :
    (t.put v).values = t.values ++ [v] :=
  new_appended absent

theorem put_sum {μ : Type} [AddCommMonoid μ] (t : Table key) (v : ν) (f : ν → μ) :
    ((t.put v).values.map f).sum + ((t.get? (key v)).map f).getD 0 =
      (t.values.map f).sum + f v := by
  obtain ⟨values, distinct⟩ := t
  simp only [put, get?]
  clear distinct
  induction values with
  | nil => simp [replaceOrAppend]
  | cons w ws ih =>
    rw [replaceOrAppend]
    by_cases here : key w = key v
    · rw [if_pos here, List.find?_cons_of_pos (by simpa using here)]
      simp only [List.map_cons, List.sum_cons, Option.map_some, Option.getD_some]
      rw [add_comm (f v), add_comm (f w), add_right_comm]
    · rw [if_neg here, List.find?_cons_of_neg (by simpa using here)]
      simp only [List.map_cons, List.sum_cons]
      rw [add_assoc, ih, add_assoc]

theorem foldl_new_values {insert : Table key → ν → Table key} {vs : List ν}
    (assigns : ∀ t, ∀ v ∈ vs, ¬ t.Has (key v) → insert t v = t.put v) {t : Table key}
    (distinct : ((t.values ++ vs).map key).Nodup) : (vs.foldl insert t).values = t.values ++ vs := by
  induction vs generalizing t with
  | nil => exact (List.append_nil t.values).symm
  | cons v vs ih =>
    have absent : ¬ t.Has (key v) := by
      intro has
      rw [List.map_append] at distinct
      exact (List.nodup_append.mp distinct).2.2 _ has _ List.mem_cons_self rfl
    have first : (insert t v).values = t.values ++ [v] := by
      rw [assigns t v List.mem_cons_self absent, put_values_of_absent absent]
    rw [List.foldl_cons, ih (fun t w member => assigns t w (List.mem_cons_of_mem v member)), first,
      List.append_assoc, List.singleton_append]
    rwa [first, List.append_assoc, List.singleton_append]

theorem put_values_of_has {t : Table key} {v : ν} (has : t.Has (key v)) :
    (t.put v).values = t.values.map fun w => if key w = key v then v else w := by
  obtain ⟨values, distinct⟩ := t
  simp only [keys, put, Has] at has ⊢
  induction values with
  | nil => cases has
  | cons w ws ih =>
    obtain ⟨fresh, rest⟩ := List.nodup_cons.mp distinct
    rw [replaceOrAppend, List.map_cons]
    by_cases here : key w = key v
    · rw [if_pos here, if_pos here]
      congr 1
      symm
      apply (List.map_congr_left ?_).trans (List.map_id ws)
      intro u member
      rw [if_neg]
      · rfl
      · intro same
        apply fresh
        rw [here, ← same]
        exact List.mem_map_of_mem member
    · rw [if_neg here, if_neg here]
      congr 1
      rcases List.mem_cons.mp has with same | later
      · exact absurd same.symm here
      · exact ih rest later

end Table
end Keyed
