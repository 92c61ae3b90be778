import Mathlib.Data.List.Basic

/-!
Histories as lists: where an entry of an extended history lies.
-/
namespace History
variable {α β : Type}

theorem split_append {old new before after : List α} {x : α}
    (split : old ++ new = before ++ x :: after) :
    (∃ middle, old = before ++ x :: middle ∧ after = middle ++ new) ∨
      ∃ middle, before = old ++ middle ∧ new = middle ++ x :: after := by
  rcases List.append_eq_append_iff.mp split with ⟨middle, rfl, rest⟩ | ⟨middle, rfl, rest⟩
  · exact Or.inr ⟨middle, rfl, rest⟩
  · cases middle with
    | nil => exact Or.inr ⟨[], by simp, rest.symm⟩
    | cons y middle =>
      obtain ⟨rfl, rfl⟩ := List.cons.inj rest
      exact Or.inl ⟨middle, rfl, rfl⟩

section
variable {key : α → Nat} {read unread : List α}

theorem numbered_read (numbered : (read ++ unread).map key = List.range (read ++ unread).length) :
    read.map key = List.range read.length ∧
      unread.map key = List.range' read.length unread.length := by
  rw [List.map_append, List.length_append, List.range_add] at numbered
  obtain ⟨front, rest⟩ := List.append_inj numbered (by simp)
  refine ⟨front, rest.trans ?_⟩
  rw [List.range'_eq_map_range]

theorem numbered_apart (numbered : (read ++ unread).map key = List.range (read ++ unread).length) :
    (∀ x ∈ read, key x < read.length) ∧ ∀ x ∈ unread, read.length ≤ key x := by
  obtain ⟨front, rest⟩ := numbered_read numbered
  constructor
  · intro x member
    have place : key x ∈ read.map key := List.mem_map_of_mem member
    rw [front] at place
    exact List.mem_range.mp place
  · intro x member
    have place : key x ∈ unread.map key := List.mem_map_of_mem member
    rw [rest] at place
    exact (List.mem_range'_1.mp place).1

theorem numbered_next (numbered : (read ++ unread).map key = List.range (read ++ unread).length)
    {x : α} (member : x ∈ read ++ unread) (next : key x = read.length) :
    ∃ rest, unread = x :: rest := by
  obtain ⟨before, _⟩ := numbered_apart numbered
  rcases List.mem_append.mp member with early | late
  · exact absurd next (Nat.ne_of_lt (before x early))
  · -- The numbers of the unread begin with the one of `x`, and are all different.
    obtain ⟨_, rest⟩ := numbered_read numbered
    cases unread with
    | nil => cases late
    | cons first others =>
      rw [List.map_cons, List.length_cons, List.range'_succ] at rest
      obtain ⟨_, later⟩ := List.cons.inj rest
      rcases List.mem_cons.mp late with rfl | other
      · exact ⟨others, rfl⟩
      · have place : key x ∈ others.map key := List.mem_map_of_mem other
        rw [later, next] at place
        exact absurd (List.mem_range'_1.mp place).1 (Nat.not_succ_le_self _)

theorem numbered_after (numbered : (read ++ unread).map key = List.range (read ++ unread).length)
    {p : α → Bool} (after : ∀ x, p x = decide (read.length ≤ key x)) :
    (read ++ unread).filter p = unread := by
  obtain ⟨before, behind⟩ := numbered_apart numbered
  rw [List.filter_append, List.filter_eq_nil_iff.mpr, List.filter_eq_self.mpr, List.nil_append]
  · intro x member
    rw [after]
    exact decide_eq_true (behind x member)
  · intro x member
    rw [after, decide_eq_true_eq]
    exact Nat.not_le.mpr (before x member)

end

end History
