import Mathlib.Data.List.Basic

/-!
What the last entries of a growing history show.
-/
namespace Window
variable {α : Type} {k : Nat}

def last (k : Nat) (xs : List α) : List α := xs.drop (xs.length - k)

theorem mem_last {xs : List α} {x : α} :
    x ∈ last k xs ↔ ∃ i, xs[i]? = some x ∧ xs.length ≤ i + k := by
  unfold last
  rw [List.mem_iff_getElem?]
  simp only [List.getElem?_drop]
  constructor
  · rintro ⟨j, found⟩
    exact ⟨_, found, by omega⟩
  · rintro ⟨i, found, recent⟩
    refine ⟨i - (xs.length - k), ?_⟩
    rw [← found]
    congr 1
    omega

/-- A window is kept by adding to it and cutting it again. -/
theorem last_last_append (xs later : List α) :
    last k (last k xs ++ later) = last k (xs ++ later) := by
  unfold last
  have whole : xs.drop (xs.length - k) ++ later = (xs ++ later).drop (xs.length - k) :=
    (List.drop_append_of_le_length (Nat.sub_le _ _)).symm
  rw [whole, List.drop_drop, List.length_drop, List.length_append]
  congr 1
  omega

theorem last_of_few {xs : List α} (few : xs.length ≤ k) : last k xs = xs := by
  unfold last
  rw [Nat.sub_eq_zero_of_le few, List.drop_zero]

theorem last_append {xs later : List α} (full : later.length = k) :
    last k (xs ++ later) = later := by
  unfold last
  rw [List.length_append, full, Nat.add_sub_cancel, List.drop_left]

variable {p : α → Prop}

def Shows (p : α → Prop) (k : Nat) (xs : List α) : Prop := ∃ x ∈ last k xs, p x

instance [DecidablePred p] (xs : List α) : Decidable (Shows p k xs) :=
  inferInstanceAs (Decidable (∃ x ∈ last k xs, p x))

/-- Among the next `k` entries after one with `p`, where there are as many, is another. -/
def Renewed (p : α → Prop) (k : Nat) (xs : List α) : Prop :=
  ∀ i x, xs[i]? = some x → p x → i + k < xs.length →
    ∃ j y, xs[j]? = some y ∧ p y ∧ i < j ∧ j ≤ i + k

theorem shows_take_iff {xs : List α} {n : Nat} (within : n ≤ xs.length) :
    Shows p k (xs.take n) ↔ ∃ i x, xs[i]? = some x ∧ p x ∧ i < n ∧ n ≤ i + k := by
  have length : (xs.take n).length = n := List.length_take_of_le within
  unfold Shows
  simp only [mem_last, length, List.getElem?_take]
  constructor
  · rintro ⟨x, ⟨i, found, recent⟩, holds⟩
    split at found
    · rename_i early
      exact ⟨i, x, found, holds, early, recent⟩
    · cases found
  · rintro ⟨i, x, found, holds, early, recent⟩
    refine ⟨x, ⟨i, ?_, recent⟩, holds⟩
    rw [if_pos early]
    exact found

theorem renewed_step {xs : List α} (renewed : Renewed p k xs) {n : Nat} (within : n < xs.length)
    (shows_ : Shows p k (xs.take n)) : Shows p k (xs.take (n + 1)) := by
  obtain ⟨i, x, found, holds, early, recent⟩ := (shows_take_iff (Nat.le_of_lt within)).mp shows_
  apply (shows_take_iff within).mpr
  by_cases kept : n + 1 ≤ i + k
  · exact ⟨i, x, found, holds, Nat.lt_succ_of_lt early, kept⟩
  · -- The entry leaves the window now, so that all of the next `k` are there.
    obtain ⟨j, y, found', holds', after, near⟩ := renewed i x found holds (by omega)
    exact ⟨j, y, found', holds', by omega, by omega⟩

/-- What the window shows it goes on to show exactly if it is renewed in time. -/
theorem keeps_showing_iff (positive : 0 < k) (xs : List α) :
    (∀ m n, m ≤ n → n ≤ xs.length → Shows p k (xs.take m) → Shows p k (xs.take n)) ↔
      Renewed p k xs := by
  constructor
  · intro keeps i x found holds behind
    have here : Shows p k (xs.take (i + 1)) := by
      apply (shows_take_iff (by omega)).mpr
      exact ⟨i, x, found, holds, Nat.lt_succ_self i, by omega⟩
    have later := keeps (i + 1) (i + k + 1) (by omega) (by omega) here
    obtain ⟨j, y, found', holds', early, recent⟩ := (shows_take_iff (by omega)).mp later
    exact ⟨j, y, found', holds', by omega, by omega⟩
  · intro renewed m n later within shown
    induction later with
    | refl => exact shown
    | @step n _ ih => exact renewed_step renewed within (ih (Nat.le_of_succ_le within))

end Window
