import Mathlib.Algebra.Order.Floor.Div
import Mathlib.Data.Int.CardIntervalMod

/-!
Items dealt to a number of hands in turn: every item goes to one hand, and no hand gets
more than one item more than another.
-/
namespace RoundRobin
variable {α : Type} {items : List α} {hands i : Nat}

/-- What the hand numbered `i` gets. -/
def dealt (items : List α) (hands i : Nat) : List α :=
  (items.zipIdx.filter fun entry => entry.2 % hands = i).map Prod.fst

theorem mem_dealt {x : α} : x ∈ dealt items hands i ↔ ∃ j, items[j]? = some x ∧ j % hands = i := by
  unfold dealt
  rw [List.mem_map]
  constructor
  · rintro ⟨⟨y, j⟩, member, rfl⟩
    obtain ⟨listed, turn⟩ := List.mem_filter.mp member
    exact ⟨j, List.mem_zipIdx_iff_getElem?.mp listed, of_decide_eq_true turn⟩
  · rintro ⟨j, listed, turn⟩
    have entry : (x, j) ∈ items.zipIdx := List.mem_zipIdx_iff_getElem?.mpr listed
    exact ⟨(x, j), List.mem_filter.mpr ⟨entry, decide_eq_true turn⟩, rfl⟩

theorem dealt_sublist (items : List α) (hands i : Nat) : (dealt items hands i).Sublist items := by
  have whole := (List.filter_sublist (p := fun entry => entry.2 % hands = i)
    (l := items.zipIdx)).map Prod.fst
  rwa [List.zipIdx_map_fst] at whole

theorem dealt_count (items : List α) (hands i : Nat) :
    (dealt items hands i).length = Nat.count (fun j => j % hands = i) items.length := by
  have places : items.zipIdx.map Prod.snd = List.range items.length := by
    rw [List.zipIdx_map_snd, List.range_eq_range']
  unfold dealt Nat.count
  rw [List.length_map, ← List.countP_eq_length_filter, ← places, List.countP_map]
  rfl

theorem dealt_length (inside : i < hands) :
    (dealt items hands i).length =
      items.length / hands + if i < items.length % hands then 1 else 0 := by
  have same : ∀ j, j % hands = i ↔ j ≡ i [MOD hands] := by
    intro j
    rw [Nat.ModEq, Nat.mod_eq_of_lt inside]
  calc (dealt items hands i).length
    _ = Nat.count (fun j => j % hands = i) items.length := dealt_count items hands i
    _ = Nat.count (· ≡ i [MOD hands]) items.length := by
      apply List.countP_congr
      intro j _
      rw [decide_eq_true_eq, decide_eq_true_eq]
      exact same j
    _ = items.length / hands + if i % hands < items.length % hands then 1 else 0 :=
      Nat.count_modEq_card _ (Nat.zero_lt_of_lt inside) i
    _ = items.length / hands + if i < items.length % hands then 1 else 0 := by
      rw [Nat.mod_eq_of_lt inside]

theorem ceil_of_rest {n : Nat} (inside : i < n % hands) (some_ : 0 < hands) :
    n ⌈/⌉ hands = n / hands + 1 := by
  have split := Nat.div_add_mod n hands
  have short := Nat.mod_lt n some_
  apply Nat.le_antisymm
  · rw [ceilDiv_le_iff_le_mul some_, Nat.mul_add]
    omega
  · rw [Nat.succ_le_iff, ← Nat.not_le, ceilDiv_le_iff_le_mul some_]
    omega

theorem dealt_fair (inside : i < hands) :
    (dealt items hands i).length = items.length / hands ∨
      (dealt items hands i).length = items.length ⌈/⌉ hands := by
  rw [dealt_length inside]
  split
  · rename_i extra
    exact .inr (ceil_of_rest extra (Nat.zero_lt_of_lt inside)).symm
  · exact .inl rfl

theorem dealt_length_le (inside : i < hands) :
    (dealt items hands i).length ≤ items.length ⌈/⌉ hands := by
  rcases dealt_fair inside with floor | ceil
  · rw [floor]
    exact floorDiv_le_ceilDiv (a := hands) (b := items.length)
  · exact Nat.le_of_eq ceil

end RoundRobin
