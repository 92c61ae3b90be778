import Mathlib.Algebra.GroupWithZero.Nat
import Mathlib.Algebra.Order.Group.Nat

/-!
The decimal numbers spelled out in a text: every run of digits is one, and they are added up.
-/
namespace Numerals

def read (state : Nat × Nat) (c : Char) : Nat × Nat :=
  if c.isDigit then (state.1, 10 * state.2 + (c.toNat - '0'.toNat)) else (state.1 + state.2, 0)

def result (state : Nat × Nat) : Nat := state.1 + state.2

def total (text : List Char) : Nat := result (text.foldl read (0, 0))

theorem read_before (sum : Nat) (state : Nat × Nat) (text : List Char) :
    text.foldl read (sum + state.1, state.2) =
      (sum + (text.foldl read state).1, (text.foldl read state).2) := by
  induction text generalizing state with
  | nil => rfl
  | cons c rest ih =>
    have one : read (sum + state.1, state.2) c = (sum + (read state c).1, (read state c).2) := by
      unfold read
      split
      · rfl
      · rw [Nat.add_assoc]
    rw [List.foldl_cons, List.foldl_cons, one, ih]

theorem plain_skipped {text : List Char} (plain : ∀ c ∈ text, c.isDigit = false) :
    text.foldl read (0, 0) = (0, 0) := by
  induction text with
  | nil => rfl
  | cons c rest ih =>
    have one : read (0, 0) c = (0, 0) := by
      rw [read, plain c List.mem_cons_self]
      rfl
    rw [List.foldl_cons, one]
    exact ih fun d later => plain d (List.mem_cons_of_mem c later)

theorem total_after {text : List Char} (plain : ∀ c ∈ text, c.isDigit = false)
    (rest : List Char) : total (text ++ rest) = total rest := by
  unfold total
  rw [List.foldl_append, plain_skipped plain]

theorem total_plain {text : List Char} (plain : ∀ c ∈ text, c.isDigit = false) :
    total text = 0 := by
  unfold total
  rw [plain_skipped plain]
  rfl

theorem total_append (text : List Char) {c : Char} (plain : c.isDigit = false)
    (rest : List Char) : total (text ++ c :: rest) = total text + total (c :: rest) := by
  have ends : ∀ state, read state c = (result state, 0) := by
    intro state
    rw [read, plain]
    rfl
  unfold total
  rw [List.foldl_append, List.foldl_cons, List.foldl_cons, ends, ends]
  have whole := read_before (result (text.foldl read (0, 0))) (0, 0) rest
  rw [Nat.add_zero] at whole
  rw [whole]
  exact Nat.add_assoc _ _ _

theorem total_digits (n : Nat) : total (Nat.toDigits 10 n) = n := by
  have digits : ∀ (text : List Char) (state : Nat × Nat), (∀ c ∈ text, c.isDigit = true) →
      text.foldl read state = (state.1, Nat.ofDigitChars 10 text state.2) := by
    intro text
    induction text with
    | nil => exact fun _ _ => rfl
    | cons c rest ih =>
      intro state all
      rw [List.foldl_cons, ih _ fun d later => all d (List.mem_cons_of_mem c later), read,
        if_pos (all c List.mem_cons_self), Nat.ofDigitChars_cons]
  unfold total
  rw [digits _ _ fun c member => Nat.isDigit_of_mem_toDigits (by decide) (by decide) member,
    Nat.ofDigitChars_ten_toDigits]
  exact Nat.zero_add n

theorem total_zeros (m : Nat) (text : List Char) :
    total (List.replicate m '0' ++ text) = total text := by
  have still : ∀ m, (List.replicate m '0').foldl read (0, 0) = (0, 0) := by
    intro m
    induction m with
    | zero => rfl
    | succ m ih =>
      rw [List.replicate_succ, List.foldl_cons]
      exact ih
  unfold total
  rw [List.foldl_append, still]

/-- A list of counts, each followed by what it counts. -/
theorem total_intercalate {sep : List Char} (apart : ∀ c ∈ sep, c.isDigit = false)
    (nonempty : sep ≠ []) (parts : List (List Char)) :
    total (sep.intercalate parts) = (parts.map total).sum := by
  induction parts with
  | nil => rfl
  | cons part rest ih =>
    cases rest with
    | nil => rw [List.intercalate_singleton, List.map_singleton, List.sum_singleton]
    | cons next rest =>
      obtain ⟨c, seps, rfl⟩ := List.exists_cons_of_ne_nil nonempty
      rw [List.intercalate_cons_cons, List.map_cons, List.sum_cons, ← ih, List.append_assoc,
        List.cons_append, total_append part (apart c List.mem_cons_self), ← List.cons_append,
        total_after apart]

end Numerals
