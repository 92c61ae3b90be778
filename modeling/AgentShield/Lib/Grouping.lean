import AgentShield.Lib.Table
import Mathlib.Algebra.BigOperators.Group.List.Basic
import Mathlib.Data.List.Induction

/-!
Entries gathered under their keys, one value a key: what a key's value is in the end, and
that what is counted over the values is counted over the entries.
-/
namespace Grouping
open Keyed

variable {ε κ α : Type} [DecidableEq κ]

abbrev Groups (κ α : Type) := Table (Prod.fst : κ × α → κ)

section
variable (keyOf : ε → κ) (first : ε → α) (again : α → ε → α)

def gather (groups : Groups κ α) (entry : ε) : Groups κ α :=
  groups.put (keyOf entry,
    match groups.get? (keyOf entry) with
    | none => first entry
    | some group => again group.2 entry)

def group (entries : List ε) : Groups κ α := entries.foldl (gather keyOf first again) Table.empty

def combined : List ε → Option α
  | [] => none
  | entry :: rest => some (rest.foldl again (first entry))

end

section
variable {keyOf : ε → κ} {first : ε → α} {again : α → ε → α}

theorem combined_concat (entries : List ε) (last : ε) :
    combined first again (entries ++ [last]) =
      some (match combined first again entries with
        | none => first last
        | some value => again value last) := by
  cases entries with
  | nil => rfl
  | cons entry rest => simp [combined, List.foldl_append]

theorem group_concat (entries : List ε) (last : ε) :
    group keyOf first again (entries ++ [last]) =
      gather keyOf first again (group keyOf first again entries) last := by
  rw [group, List.foldl_append]
  rfl

/-- A key's value is that of its own entries, in their order. -/
theorem group_get (entries : List ε) (k : κ) :
    ((group keyOf first again entries).get? k).map Prod.snd =
      combined first again (entries.filter fun entry => keyOf entry = k) := by
  induction entries using List.reverseRecOn with
  | nil => rfl
  | append_singleton entries last ih =>
    rw [group_concat, gather, Table.get?_put, List.filter_append]
    by_cases here : k = keyOf last
    · subst here
      have kept : [last].filter (fun entry => keyOf entry = keyOf last) = [last] := by simp
      rw [if_pos rfl, kept, combined_concat, ← ih]
      cases (group keyOf first again entries).get? (keyOf last) <;> rfl
    · have dropped : [last].filter (fun entry => keyOf entry = k) = [] := by
        simp [Ne.symm here]
      rw [if_neg here, dropped, List.append_nil, ih]

theorem group_member {entries : List ε} {found : κ × α} :
    found ∈ (group keyOf first again entries).values ↔
      combined first again (entries.filter fun entry => keyOf entry = found.1) =
        some found.2 := by
  rw [← group_get]
  constructor
  · intro member
    rw [Table.get?_of_member member]
    rfl
  · intro value
    obtain ⟨⟨k, a⟩, get, same⟩ := Option.map_eq_some_iff.mp value
    have key : k = found.1 := Table.get?_key get
    have whole : (k, a) = found := Prod.ext key same
    rw [← whole]
    exact Table.get?_member get

/-- What every entry adds to its key's value is in the sum over the keys. -/
theorem group_sum {μ : Type} [AddCancelCommMonoid μ] {weight : α → μ} {added : ε → μ}
    (begins : ∀ entry, weight (first entry) = added entry)
    (adds : ∀ value entry, weight (again value entry) = weight value + added entry)
    (entries : List ε) :
    ((group keyOf first again entries).values.map fun group => weight group.2).sum =
      (entries.map added).sum := by
  induction entries using List.reverseRecOn with
  | nil => rfl
  | append_singleton entries last ih =>
    rw [group_concat, gather]
    have more := Table.put_sum (group keyOf first again entries) (keyOf last,
      match (group keyOf first again entries).get? (keyOf last) with
      | none => first last
      | some group => again group.2 last) fun group => weight group.2
    rw [List.map_append, List.sum_append, ← ih]
    cases found : (group keyOf first again entries).get? (keyOf last) with
    | none =>
      simp only [found, Option.map_none, Option.getD_none, add_zero] at more
      simp [more, begins]
    | some old =>
      simp only [found, Option.map_some, Option.getD_some, adds] at more
      rw [add_comm (weight old.2), ← add_assoc] at more
      simpa [found] using add_right_cancel more

end

end Grouping
