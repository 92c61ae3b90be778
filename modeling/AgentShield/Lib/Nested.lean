import Mathlib.Data.List.Nodup
import Mathlib.Data.List.Perm.Basic

/-!
Values in keyed mappings and in sequences, to any depth: what is left of one when the
entries under some keys are deleted or covered, and when two hold the same.
-/
namespace Nested

inductive Value (κ τ α : Type) where
  | leaf (a : α)
  | mapping (entries : List (κ × Value κ τ α))
  | items (kind : τ) (values : List (Value κ τ α))

abbrev Entries (κ τ α : Type) := List (κ × Value κ τ α)

variable {κ τ α : Type}

section
variable (kept : κ → Bool)

mutual

/-- Every other entry is deleted, at every depth. -/
def erase : Value κ τ α → Value κ τ α
  | .leaf a => .leaf a
  | .mapping entries => .mapping (eraseEntries entries)
  | .items kind values => .items kind (eraseItems values)

def eraseEntries : Entries κ τ α → Entries κ τ α
  | [] => []
  | (key, value) :: rest =>
    if kept key then (key, erase value) :: eraseEntries rest else eraseEntries rest

def eraseItems : List (Value κ τ α) → List (Value κ τ α)
  | [] => []
  | value :: rest => erase value :: eraseItems rest

end
end

mutual

/-- No mapping has two entries under one key. -/
def Proper : Value κ τ α → Prop
  | .leaf _ => True
  | .mapping entries => (entries.map Prod.fst).Nodup ∧ ProperEntries entries
  | .items _ values => ProperItems values

def ProperEntries : Entries κ τ α → Prop
  | [] => True
  | (_, value) :: rest => Proper value ∧ ProperEntries rest

def ProperItems : List (Value κ τ α) → Prop
  | [] => True
  | value :: rest => Proper value ∧ ProperItems rest

end

mutual

/-- The same value, but for the order in which the entries of a mapping stand. -/
inductive Agree : Value κ τ α → Value κ τ α → Prop where
  | leaf (a : α) : Agree (.leaf a) (.leaf a)
  | mapping {xs ys : Entries κ τ α} (entries : AgreeEntries xs ys) :
      Agree (.mapping xs) (.mapping ys)
  | items (kind : τ) {xs ys : List (Value κ τ α)} (values : AgreeItems xs ys) :
      Agree (.items kind xs) (.items kind ys)

inductive AgreeEntries : Entries κ τ α → Entries κ τ α → Prop where
  | nil : AgreeEntries [] []
  /- The entry stands anywhere in the other mapping. -/
  | cons (key : κ) {x y : Value κ τ α} {xs before after : Entries κ τ α} (value : Agree x y)
      (rest : AgreeEntries xs (before ++ after)) :
      AgreeEntries ((key, x) :: xs) (before ++ (key, y) :: after)

inductive AgreeItems : List (Value κ τ α) → List (Value κ τ α) → Prop where
  | nil : AgreeItems [] []
  | cons {x y : Value κ τ α} {xs ys : List (Value κ τ α)} (value : Agree x y)
      (rest : AgreeItems xs ys) : AgreeItems (x :: xs) (y :: ys)

end

mutual

theorem agree_refl : ∀ value : Value κ τ α, Agree value value
  | .leaf a => .leaf a
  | .mapping entries => .mapping (agree_entries_refl entries)
  | .items kind values => .items kind (agree_items_refl values)

theorem agree_entries_refl : ∀ entries : Entries κ τ α, AgreeEntries entries entries
  | [] => .nil
  | (key, value) :: rest =>
    have here : AgreeEntries ((key, value) :: rest) ([] ++ (key, value) :: rest) :=
      .cons key (agree_refl value) (agree_entries_refl rest)
    here

theorem agree_items_refl : ∀ values : List (Value κ τ α), AgreeItems values values
  | [] => .nil
  | value :: rest => .cons (agree_refl value) (agree_items_refl rest)

end

section
variable {kept : κ → Bool}

theorem erased_keys (entries : Entries κ τ α) :
    (eraseEntries kept entries).map Prod.fst = (entries.map Prod.fst).filter kept := by
  induction entries with
  | nil => rfl
  | cons entry rest ih =>
    obtain ⟨key, value⟩ := entry
    rw [eraseEntries, List.map_cons]
    by_cases keeps : kept key = true
    · rw [if_pos keeps, List.map_cons, List.filter_cons_of_pos keeps, ih]
    · rw [if_neg keeps, List.filter_cons_of_neg keeps, ih]

mutual

theorem erase_proper : ∀ {value : Value κ τ α}, Proper value → Proper (erase kept value)
  | .leaf _, _ => trivial
  | .mapping entries, proper => by
    rw [erase, Proper, erased_keys]
    exact ⟨proper.1.filter kept, eraseEntries_proper proper.2⟩
  | .items _ _, proper => eraseItems_proper proper

theorem eraseEntries_proper : ∀ {entries : Entries κ τ α}, ProperEntries entries →
    ProperEntries (eraseEntries kept entries)
  | [], _ => trivial
  | (key, value) :: rest, proper => by
    rw [eraseEntries]
    split
    · exact ⟨erase_proper proper.1, eraseEntries_proper proper.2⟩
    · exact eraseEntries_proper proper.2

theorem eraseItems_proper : ∀ {values : List (Value κ τ α)}, ProperItems values →
    ProperItems (eraseItems kept values)
  | [], _ => trivial
  | _ :: _, proper => ⟨erase_proper proper.1, eraseItems_proper proper.2⟩

end
end

section
variable (hidden : κ → Bool) (enters : τ → Bool)

mutual

/-- What stands under a hidden key is covered, at every depth that is entered. -/
def mask (cover : α) : Value κ τ α → Value κ τ α
  | .leaf a => .leaf a
  | .mapping entries => .mapping (maskEntries cover entries)
  | .items kind values => if enters kind then .items kind (maskItems cover values)
    else .items kind values

def maskEntries (cover : α) : Entries κ τ α → Entries κ τ α
  | [] => []
  | (key, value) :: rest =>
    (key, if hidden key then .leaf cover else mask cover value) :: maskEntries cover rest

def maskItems (cover : α) : List (Value κ τ α) → List (Value κ τ α)
  | [] => []
  | value :: rest => mask cover value :: maskItems cover rest

end

mutual

/-- The same value, but for what stands under hidden keys. -/
inductive Coincide : Value κ τ α → Value κ τ α → Prop where
  | leaf (a : α) : Coincide (.leaf a) (.leaf a)
  | mapping {xs ys : Entries κ τ α} (entries : CoincideEntries xs ys) :
      Coincide (.mapping xs) (.mapping ys)
  | entered {kind : τ} {xs ys : List (Value κ τ α)} (entered : enters kind = true)
      (values : CoincideItems xs ys) : Coincide (.items kind xs) (.items kind ys)
  | left {kind : τ} (left : enters kind = false) (values : List (Value κ τ α)) :
      Coincide (.items kind values) (.items kind values)

inductive CoincideEntries : Entries κ τ α → Entries κ τ α → Prop where
  | nil : CoincideEntries [] []
  | hidden {key : κ} {xs ys : Entries κ τ α} (hides : hidden key = true) (x y : Value κ τ α)
      (rest : CoincideEntries xs ys) : CoincideEntries ((key, x) :: xs) ((key, y) :: ys)
  | shown {key : κ} {x y : Value κ τ α} {xs ys : Entries κ τ α} (shows : hidden key = false)
      (value : Coincide x y) (rest : CoincideEntries xs ys) :
      CoincideEntries ((key, x) :: xs) ((key, y) :: ys)

inductive CoincideItems : List (Value κ τ α) → List (Value κ τ α) → Prop where
  | nil : CoincideItems [] []
  | cons {x y : Value κ τ α} {xs ys : List (Value κ τ α)} (value : Coincide x y)
      (rest : CoincideItems xs ys) : CoincideItems (x :: xs) (y :: ys)

end
end

section
variable {hidden : κ → Bool} {enters : τ → Bool} {cover : α}

mutual

theorem mask_coincide : ∀ {x y : Value κ τ α}, Coincide hidden enters x y →
    mask hidden enters cover x = mask hidden enters cover y
  | _, _, .leaf _ => rfl
  | _, _, .mapping entries => by simp only [mask, maskEntries_coincide entries]
  | _, _, .entered entered values => by
    simp only [mask, entered, if_true, maskItems_coincide values]
  | _, _, .left _ _ => rfl

theorem maskEntries_coincide : ∀ {xs ys : Entries κ τ α},
    CoincideEntries hidden enters xs ys →
    maskEntries hidden enters cover xs = maskEntries hidden enters cover ys
  | _, _, .nil => rfl
  | _, _, .hidden hides _ _ rest => by
    simp only [maskEntries, hides, maskEntries_coincide rest, if_true]
  | _, _, .shown _ value rest => by
    simp only [maskEntries, mask_coincide value, maskEntries_coincide rest]

theorem maskItems_coincide : ∀ {xs ys : List (Value κ τ α)},
    CoincideItems hidden enters xs ys →
    maskItems hidden enters cover xs = maskItems hidden enters cover ys
  | _, _, .nil => rfl
  | _, _, .cons value rest => by simp only [maskItems, mask_coincide value, maskItems_coincide rest]

end

mutual

theorem coincide_mask : ∀ x y : Value κ τ α,
    mask hidden enters cover x = mask hidden enters cover y → Coincide hidden enters x y
  | .leaf a, y, same => by
    cases y with
    | leaf b =>
      obtain rfl : a = b := by simpa [mask] using same
      exact .leaf a
    | mapping ys => simp [mask] at same
    | items kind ys => simp only [mask] at same; split at same <;> simp at same
  | .mapping xs, y, same => by
    cases y with
    | leaf b => simp [mask] at same
    | mapping ys => exact .mapping (coincide_maskEntries xs ys (by simpa [mask] using same))
    | items kind ys => simp only [mask] at same; split at same <;> simp at same
  | .items kind xs, y, same => by
    cases y with
    | leaf b => simp only [mask] at same; split at same <;> simp at same
    | mapping ys => simp only [mask] at same; split at same <;> simp at same
    | items other ys =>
      obtain rfl : kind = other := by
        simp only [mask] at same
        split at same <;> split at same <;> simp_all
      cases entered : enters kind with
      | true =>
        exact .entered entered (coincide_maskItems xs ys (by simpa [mask, entered] using same))
      | false =>
        obtain rfl : xs = ys := by simpa [mask, entered] using same
        exact .left entered xs

theorem coincide_maskEntries : ∀ xs ys : Entries κ τ α,
    maskEntries hidden enters cover xs = maskEntries hidden enters cover ys →
      CoincideEntries hidden enters xs ys
  | [], [], _ => .nil
  | [], _ :: _, same => by simp [maskEntries] at same
  | _ :: _, [], same => by simp [maskEntries] at same
  | (key, x) :: xs, (other, y) :: ys, same => by
    simp only [maskEntries, List.cons.injEq, Prod.mk.injEq] at same
    obtain ⟨⟨rfl, value⟩, rest⟩ := same
    have rest := coincide_maskEntries xs ys rest
    cases hides : hidden key with
    | true => exact .hidden hides x y rest
    | false => exact .shown hides (coincide_mask x y (by simpa [hides] using value)) rest

theorem coincide_maskItems : ∀ xs ys : List (Value κ τ α),
    maskItems hidden enters cover xs = maskItems hidden enters cover ys →
      CoincideItems hidden enters xs ys
  | [], [], _ => .nil
  | [], _ :: _, same => by simp [maskItems] at same
  | _ :: _, [], same => by simp [maskItems] at same
  | x :: xs, y :: ys, same => by
    simp only [maskItems, List.cons.injEq] at same
    exact .cons (coincide_mask x y same.1) (coincide_maskItems xs ys same.2)

end

/-- A masked value tells exactly what is not hidden. -/
theorem mask_iff (x y : Value κ τ α) :
    mask hidden enters cover x = mask hidden enters cover y ↔ Coincide hidden enters x y :=
  ⟨coincide_mask x y, mask_coincide⟩

mutual

theorem mask_coincide_self : ∀ x : Value κ τ α,
    Coincide hidden enters (mask hidden enters cover x) x
  | .leaf a => .leaf a
  | .mapping entries => .mapping (maskEntries_coincide_self entries)
  | .items kind values => by
    cases entered : enters kind with
    | true => simpa only [mask, entered] using .entered entered (maskItems_coincide_self values)
    | false => simpa only [mask, entered] using .left entered values

theorem maskEntries_coincide_self : ∀ xs : Entries κ τ α,
    CoincideEntries hidden enters (maskEntries hidden enters cover xs) xs
  | [] => .nil
  | (key, value) :: rest => by
    cases hides : hidden key with
    | true =>
      simpa only [maskEntries, hides] using .hidden hides _ _ (maskEntries_coincide_self rest)
    | false =>
      simpa [maskEntries, hides] using
        .shown hides (mask_coincide_self value) (maskEntries_coincide_self rest)

theorem maskItems_coincide_self : ∀ xs : List (Value κ τ α),
    CoincideItems hidden enters (maskItems hidden enters cover xs) xs
  | [] => .nil
  | value :: rest => .cons (mask_coincide_self value) (maskItems_coincide_self rest)

end

theorem mask_mask (x : Value κ τ α) :
    mask hidden enters cover (mask hidden enters cover x) = mask hidden enters cover x :=
  mask_coincide (mask_coincide_self x)

theorem shown_entry {key : κ} {value : Value κ τ α} {xs : Entries κ τ α}
    (member : (key, value) ∈ xs) (shows : hidden key = false) :
    (key, mask hidden enters cover value) ∈ maskEntries hidden enters cover xs := by
  induction xs with
  | nil => cases member
  | cons first rest ih =>
    rw [maskEntries]
    rcases List.mem_cons.mp member with rfl | later
    · simp [shows]
    · exact List.mem_cons_of_mem _ (ih later)

theorem maskEntries_iff (xs ys : Entries κ τ α) :
    maskEntries hidden enters cover xs = maskEntries hidden enters cover ys ↔
      CoincideEntries hidden enters xs ys :=
  ⟨coincide_maskEntries xs ys, maskEntries_coincide⟩

end

end Nested
