import Mathlib.Algebra.Ring.Nat
import Mathlib.Data.List.Induction

/-!
Lexical resolution of a path: a stack of names, a step that stays, a step up
and a step down. `Resolves` says what the result is; `strict` computes it and
fails above the start, `rooted` stays at the start instead.
-/
namespace Lexical
variable {α : Type}

inductive Move (α : Type) where
  | stay
  | up
  | down (name : α)
  deriving DecidableEq

inductive Resolves : List (Move α) → List α → Prop where
  | start : Resolves [] []
  | stay {moves : List (Move α)} {path : List α} (before : Resolves moves path) :
      Resolves (moves ++ [.stay]) path
  | up {moves : List (Move α)} {path : List α} {name : α}
      (before : Resolves moves (path ++ [name])) : Resolves (moves ++ [.up]) path
  | down {moves : List (Move α)} {path : List α} {name : α} (before : Resolves moves path) :
      Resolves (moves ++ [.down name]) (path ++ [name])

def walk (path : List α) : Move α → Option (List α)
  | .stay => some path
  | .up => if path.isEmpty then none else some path.dropLast
  | .down name => some (path ++ [name])

def strict (moves : List (Move α)) : Option (List α) := moves.foldlM walk []

/-- How a POSIX path reads one segment. -/
def segmentMove (raw : List Char) : Move (List Char) :=
  if raw = [] ∨ raw = ['.'] then .stay
  else if raw = ['.', '.'] then .up
  else .down raw

def climb (path : List α) : Move α → List α
  | .stay => path
  | .up => path.dropLast
  | .down name => path ++ [name]

def rooted (moves : List (Move α)) : List α := moves.foldl climb []

theorem strict_concat (moves : List (Move α)) (last : Move α) :
    strict (moves ++ [last]) = (strict moves).bind fun path => walk path last := by
  simp [strict, List.foldlM_append]

theorem resolves_strict {moves : List (Move α)} {path : List α} (h : Resolves moves path) :
    strict moves = some path := by
  induction h with
  | start => rfl
  | stay before ih => simp [strict_concat, ih, walk]
  | up before ih => simp [strict_concat, ih, walk]
  | down before ih => simp [strict_concat, ih, walk]

theorem strict_resolves {moves : List (Move α)} {path : List α}
    (run : strict moves = some path) : Resolves moves path := by
  induction moves using List.reverseRecOn generalizing path with
  | nil =>
    obtain rfl : [] = path := Option.some.inj run
    exact .start
  | append_singleton moves last ih =>
    rw [strict_concat, Option.bind_eq_some_iff] at run
    obtain ⟨mid, first, step⟩ := run
    cases last with
    | stay =>
      obtain rfl : mid = path := Option.some.inj step
      exact .stay (ih first)
    | up =>
      simp only [walk] at step
      split at step
      · cases step
      · rename_i nonempty
        obtain rfl : mid.dropLast = path := Option.some.inj step
        have split := List.dropLast_concat_getLast (by simpa using nonempty)
        exact .up (split.symm ▸ ih first)
    | down name =>
      obtain rfl : mid ++ [name] = path := Option.some.inj step
      exact .down (ih first)

theorem strict_iff {moves : List (Move α)} {path : List α} :
    strict moves = some path ↔ Resolves moves path :=
  ⟨strict_resolves, resolves_strict⟩

theorem resolves_unique {moves : List (Move α)} {p q : List α}
    (hp : Resolves moves p) (hq : Resolves moves q) : p = q :=
  Option.some.inj ((resolves_strict hp).symm.trans (resolves_strict hq))

theorem resolves_concat {moves : List (Move α)} {last : Move α} {path : List α} :
    Resolves (moves ++ [last]) path ↔ ∃ mid, Resolves moves mid ∧ walk mid last = some path := by
  simp only [← strict_iff, strict_concat, Option.bind_eq_some_iff]

theorem resolves_append {first moves : List (Move α)} {path : List α}
    (level : Resolves first []) (h : Resolves moves path) : Resolves (first ++ moves) path := by
  induction h with
  | start => rwa [List.append_nil]
  | stay before ih => exact List.append_assoc first _ _ ▸ .stay ih
  | up before ih => exact List.append_assoc first _ _ ▸ .up ih
  | down before ih => exact List.append_assoc first _ _ ▸ .down ih

theorem resolves_never_above {before after : List (Move α)} (level : Resolves before [])
    (path : List α) : ¬ Resolves (before ++ .up :: after) path := by
  rw [← strict_iff, strict, List.foldlM_append]
  have start : before.foldlM walk [] = some [] := resolves_strict level
  simp [start, walk]

theorem resolves_inside (base : α) {moves : List (Move α)} {path : List α}
    (h : Resolves moves path) : Resolves (.down base :: moves) (base :: path) := by
  induction h with
  | start => exact @Resolves.down α [] [] base .start
  | stay before ih => exact .stay ih
  | @up moves path name before ih =>
    exact @Resolves.up α (.down base :: moves) (base :: path) name ih
  | down before ih => exact .down ih

/-- One level down first: a path inside, or one that goes a step above its own start and on
    from there. -/
theorem resolves_below (base : α) {moves : List (Move α)} {path : List α} :
    Resolves (.down base :: moves) path ↔
      (∃ inner, path = base :: inner ∧ Resolves moves inner) ∨
      ∃ before after, moves = before ++ .up :: after ∧ Resolves before [] ∧
        Resolves after path := by
  constructor
  · intro h
    induction moves using List.reverseRecOn generalizing path with
    | nil =>
      have only := resolves_unique h (resolves_inside base .start)
      exact Or.inl ⟨[], only, .start⟩
    | append_singleton moves last ih =>
      obtain ⟨mid, first, step⟩ := resolves_concat.mp (List.cons_append ▸ h)
      rcases ih first with ⟨inner, rfl, within⟩ | ⟨before, after, split, level, on⟩
      · cases last with
        | stay =>
          obtain rfl : base :: inner = path := Option.some.inj step
          exact Or.inl ⟨inner, rfl, .stay within⟩
        | down name =>
          obtain rfl : base :: inner ++ [name] = path := Option.some.inj step
          exact Or.inl ⟨inner ++ [name], rfl, .down within⟩
        | up =>
          obtain rfl : (base :: inner).dropLast = path := Option.some.inj step
          cases inner using List.reverseRecOn with
          | nil => exact Or.inr ⟨moves, [], rfl, within, .start⟩
          | append_singleton inner name =>
            rw [← List.cons_append, List.dropLast_concat]
            exact Or.inl ⟨inner, rfl, .up within⟩
      · refine Or.inr ⟨before, after ++ [last], ?_, level, resolves_concat.mpr ⟨mid, on, step⟩⟩
        rw [split, List.append_assoc, List.cons_append]
  · rintro (⟨inner, rfl, within⟩ | ⟨before, after, rfl, level, on⟩)
    · exact resolves_inside base within
    · have out : Resolves (.down base :: before ++ [.up]) [] :=
        @Resolves.up α _ [] base (resolves_inside base level)
      have joined := resolves_append out on
      rwa [List.append_assoc, List.cons_append, List.singleton_append] at joined

theorem resolves_names {moves : List (Move α)} {path : List α} (h : Resolves moves path) :
    ∀ name ∈ path, .down name ∈ moves := by
  induction h with
  | start => simp
  | stay before ih =>
    intro name member
    exact List.mem_append_left _ (ih name member)
  | up before ih =>
    intro name member
    exact List.mem_append_left _ (ih name (List.mem_append_left _ member))
  | down before ih =>
    intro name member
    rcases List.mem_append.mp member with old | new
    · exact List.mem_append_left _ (ih name old)
    · obtain rfl := List.mem_singleton.mp new
      simp

def Move.weight (size : α → Nat) : Move α → Nat
  | .stay => 0
  | .up => 0
  | .down name => size name

theorem resolves_weight (size : α → Nat) {moves : List (Move α)} {path : List α}
    (h : Resolves moves path) : (path.map size).sum ≤ (moves.map (Move.weight size)).sum := by
  induction h with
  | start => simp
  | stay before ih => simpa [Move.weight] using ih
  | up before ih =>
    simp only [List.map_append, List.sum_append] at ih ⊢
    omega
  | down before ih =>
    simp only [List.map_append, List.map_cons, List.map_nil, List.sum_append, List.sum_cons,
      List.sum_nil, Move.weight]
    omega

theorem walk_names (path names : List α) :
    (names.map Move.down).foldlM walk path = some (path ++ names) := by
  induction names generalizing path with
  | nil => simp
  | cons name rest ih =>
    simp only [List.map_cons, List.foldlM_cons, walk, Option.bind_eq_bind, Option.bind_some, ih]
    simp

theorem strict_names (names : List α) : strict (names.map Move.down) = some names :=
  walk_names [] names

theorem climb_names (path names : List α) :
    (names.map Move.down).foldl climb path = path ++ names := by
  induction names generalizing path with
  | nil => simp
  | cons name rest ih =>
    simp only [List.map_cons, List.foldl_cons, climb, ih]
    simp

theorem rooted_member {moves : List (Move α)} {name : α} (h : name ∈ rooted moves) :
    .down name ∈ moves := by
  induction moves using List.reverseRecOn with
  | nil => simp [rooted] at h
  | append_singleton moves last ih =>
    simp only [rooted, List.foldl_append, List.foldl_cons, List.foldl_nil] at h
    cases last with
    | stay => exact List.mem_append_left _ (ih h)
    | up => exact List.mem_append_left _ (ih (List.dropLast_subset _ h))
    | down other =>
      rcases List.mem_append.mp h with old | new
      · exact List.mem_append_left _ (ih old)
      · obtain rfl := List.mem_singleton.mp new
        simp

def Move.name? : Move α → Option α
  | .down name => some name
  | _ => none

/- Below any level a path keeps some of what it had and gets some of the new names, in order. -/
theorem climb_sublist (moves : List (Move α)) (path : List α) (level : Nat) :
    ((moves.foldl climb path).drop level).Sublist
      (path.drop level ++ moves.filterMap Move.name?) := by
  induction moves using List.reverseRecOn with
  | nil => simp
  | append_singleton moves last ih =>
    rw [List.foldl_append, List.foldl_cons, List.foldl_nil, List.filterMap_append]
    cases last with
    | stay =>
      have none_ : [Move.stay].filterMap (@Move.name? α) = [] := rfl
      rw [none_, List.append_nil]
      exact ih
    | up =>
      have none_ : [Move.up].filterMap (@Move.name? α) = [] := rfl
      have shorter := (List.dropLast_sublist (moves.foldl climb path)).drop level
      rw [none_, List.append_nil]
      exact shorter.trans ih
    | down name =>
      have below : ((moves.foldl climb path ++ [name]).drop level).Sublist
          ((moves.foldl climb path).drop level ++ [name]) := by
        rw [List.drop_append]
        exact (List.Sublist.refl _).append (List.drop_sublist _ _)
      have one : [Move.down name].filterMap Move.name? = [name] := rfl
      rw [one, ← List.append_assoc]
      exact below.trans (ih.append_right [name])

theorem down_of_segmentMove {raw name : List Char} (h : segmentMove raw = .down name) :
    raw = name := by
  unfold segmentMove at h
  split at h
  · cases h
  · split at h
    · cases h
    · exact Move.down.inj h

theorem segmentMove_name (raw : List Char) :
    segmentMove raw = .down raw ∨ (segmentMove raw).name? = none := by
  cases move : segmentMove raw with
  | stay => exact Or.inr rfl
  | up => exact Or.inr rfl
  | down name => exact Or.inl (by rw [down_of_segmentMove move])

theorem segment_names (raws : List (List Char)) :
    (raws.map segmentMove).filterMap Move.name? =
      raws.filter fun raw => segmentMove raw = .down raw := by
  induction raws with
  | nil => rfl
  | cons raw rest ih =>
    rcases segmentMove_name raw with name | move
    · rw [List.map_cons, List.filter_cons_of_pos (by simpa using name), ← ih, name]
      rfl
    · have other : segmentMove raw ≠ .down raw := by
        intro name
        rw [name] at move
        cases move
      rw [List.map_cons, List.filterMap_cons_none move, ih,
        List.filter_cons_of_neg (by simpa using other)]

theorem rooted_names (names : List α) : rooted (names.map Move.down) = names :=
  climb_names [] names

end Lexical
