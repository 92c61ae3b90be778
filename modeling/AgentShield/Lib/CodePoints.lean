import AgentShield.Lib.Text

/-!
Texts whose characters are any code points, lone surrogates included, and where the first
place of a mark in a text is.
-/
namespace CodePoints

abbrev CodePoint := Fin 0x110000

instance codePoints_nonempty : NeZero 0x110000 := ⟨by decide⟩

instance codePoint_lawful : LawfulBEq CodePoint := inferInstance

abbrev Str := List CodePoint

def ofChar (c : Char) : CodePoint :=
  ⟨c.toNat, by have := c.valid; simp only [Char.toNat, UInt32.isValidChar, Nat.isValidChar] at *; omega⟩

def str (s : String) : Str := s.toList.map ofChar

/-- `str.isspace` for one code point, and what `\s` matches. -/
def isSpace (c : CodePoint) : Bool :=
  (9 ≤ c.val && c.val ≤ 13) || (28 ≤ c.val && c.val ≤ 32) || c.val == 0x85 || c.val == 0xA0 ||
    c.val == 0x1680 || (0x2000 ≤ c.val && c.val ≤ 0x200A) || c.val == 0x2028 ||
    c.val == 0x2029 || c.val == 0x202F || c.val == 0x205F || c.val == 0x3000

def strip (s : Str) : Str := (s.dropWhile isSpace).rdropWhile isSpace

def high (c : CodePoint) : Bool := 0xD800 ≤ c.val && c.val ≤ 0xDBFF

def low (c : CodePoint) : Bool := 0xDC00 ≤ c.val && c.val ≤ 0xDFFF

theorem high_iff (c : CodePoint) : high c = true ↔ 0xD800 ≤ c.val ∧ c.val ≤ 0xDBFF := by
  simp [high]

theorem low_iff (c : CodePoint) : low c = true ↔ 0xDC00 ≤ c.val ∧ c.val ≤ 0xDFFF := by
  simp [low]

theorem strip_solid {first last : CodePoint} (front : isSpace first = false)
    (back : isSpace last = false) (middle : Str) :
    strip (first :: middle ++ [last]) = first :: middle ++ [last] := by
  unfold strip
  rw [List.cons_append, List.dropWhile_cons_of_neg (by simp [front]), ← List.cons_append,
    List.rdropWhile_concat_neg _ _ _ (by simp [back])]

theorem prefix_before {α : Type} {mark after : List α} (before : List α) {c : α} (foreign : c ∉ mark)
    (start : mark <+: before ++ c :: after) : mark <+: before := by
  rcases List.prefix_or_prefix_of_prefix start (List.prefix_append before (c :: after)) with
    inside | ⟨tail, rfl⟩
  · exact inside
  · rw [List.prefix_append_right_inj] at start
    cases tail with
    | nil => simp
    | cons d tail =>
      obtain ⟨rfl, -⟩ := List.cons_prefix_cons.mp start
      simp at foreign

theorem takeWhile_stop {α : Type} {p : α → Bool} {c : α} (stays : p c = false)
    (before after : List α) : (before ++ c :: after).takeWhile p = before.takeWhile p := by
  rw [List.takeWhile_append, List.takeWhile_cons_of_neg (by simp [stays]), List.append_nil]
  split
  · rename_i whole
    exact (List.takeWhile_prefix p).eq_of_length whole |>.symm
  · rfl

theorem dropWhile_stop {α : Type} {p : α → Bool} {c : α} (stays : p c = false)
    (before after : List α) :
    (before ++ c :: after).dropWhile p = before.dropWhile p ++ c :: after := by
  rw [List.dropWhile_append, List.dropWhile_cons_of_neg (by simp [stays])]
  split
  · rename_i empty
    rw [List.isEmpty_iff.mp empty, List.nil_append]
  · rfl

theorem edges_stop {α : Type} {p q : α → Bool} {s : List α}
    (nonempty : (s.dropWhile p).rdropWhile q ≠ []) :
    (∃ d t, (s.dropWhile p).rdropWhile q = d :: t ∧ p d = false) ∧
      ∃ i e, (s.dropWhile p).rdropWhile q = i ++ [e] ∧ q e = false := by
  constructor
  · obtain ⟨d, t, whole⟩ := List.exists_cons_of_ne_nil nonempty
    obtain ⟨tail, split⟩ := List.rdropWhile_prefix q (s.dropWhile p)
    have first := List.head?_dropWhile_not p s
    rw [← split, whole] at first
    exact ⟨d, t, whole, by simpa using first⟩
  · have last := List.rdropWhile_last_not q (s.dropWhile p) nonempty
    exact ⟨_, _, (List.dropLast_append_getLast nonempty).symm, Bool.eq_false_iff.mpr last⟩

theorem rtakeWhile_stop {α : Type} {p : α → Bool} {c : α} (stays : p c = false)
    (before after : List α) : (before ++ c :: after).rtakeWhile p = after.rtakeWhile p := by
  have turned : (before ++ c :: after).reverse = after.reverse ++ c :: before.reverse := by simp
  rw [List.rtakeWhile, turned, takeWhile_stop stays]
  rfl

theorem infix_sides {α : Type} {a b s : List α} {x y : α} (inside : s <:+: a ++ x :: y :: b)
    (absent : ¬ [x, y] <:+: s) : s <:+: a ++ [x] ∨ s <:+: y :: b := by
  obtain ⟨before, after, split⟩ := inside
  have turned : (before ++ s) ++ after = (a ++ [x]) ++ y :: b := by rw [split]; simp
  rcases List.append_eq_append_iff.mp turned with ⟨m, front, -⟩ | ⟨m, front, back⟩
  · left
    rw [front, List.append_assoc]
    exact ⟨before, m, by simp⟩
  · cases m with
    | nil =>
      left
      rw [List.append_nil] at front
      rw [← front]
      exact (List.suffix_append before s).isInfix
    | cons z m =>
      have rest : y :: b = (z :: m) ++ after := back
      obtain ⟨rfl, -⟩ := List.cons.inj back
      rcases List.append_eq_append_iff.mp front with ⟨k, ends, rfl⟩ | ⟨k, -, later⟩
      · have suffix : k <:+ a ++ [x] := ⟨before, ends.symm⟩
        rcases List.suffix_concat_iff.mp suffix with rfl | ⟨t, rfl, -⟩
        · right
          rw [List.nil_append, rest]
          exact (List.prefix_append _ after).isInfix
        · exact absurd ⟨t, m, by simp⟩ absent
      · right
        rw [rest, later]
        exact ⟨k, after, rfl⟩

theorem infix_behind {α : Type} {a b t : List α} {d : α} (inside : d :: t <:+: a ++ b)
    (absent : d ∉ a) : d :: t <:+: b := by
  obtain ⟨before, after, split⟩ := inside
  rw [List.append_assoc] at split
  rcases List.append_eq_append_iff.mp split with ⟨m, front, back⟩ | ⟨m, -, rfl⟩
  · cases m with
    | nil => exact ⟨[], after, back⟩
    | cons z m =>
      obtain rfl := (List.cons.inj back).1
      exact absurd (by rw [front]; simp) absent
  · exact ⟨m, after, by simp⟩

theorem infix_before {α : Type} {a i : List α} {e x : α} (inside : i ++ [e] <:+: a ++ [x])
    (differ : e ≠ x) : i ++ [e] <:+: a := by
  rcases List.infix_concat_iff.mp inside with suffix | inner
  · rcases List.suffix_concat_iff.mp suffix with empty | ⟨t, whole, -⟩
    · simp at empty
    · obtain ⟨-, same⟩ := List.append_inj' whole rfl
      exact absurd (List.cons.inj same).1 differ
  · exact inner

section Cut
variable {α : Type} [DecidableEq α]

def cut (mark : List α) : List α → Option (List α × List α)
  | [] => none
  | c :: s =>
    if mark.isPrefixOf (c :: s) then some ([], (c :: s).drop mark.length)
    else (cut mark s).map fun parts => (c :: parts.1, parts.2)

theorem cut_split {mark s before after : List α} (found : cut mark s = some (before, after)) :
    s = before ++ mark ++ after := by
  induction s generalizing before with
  | nil => cases found
  | cons c s ih =>
    rw [cut] at found
    split at found
    · rename_i here
      obtain ⟨rest, split⟩ := List.isPrefixOf_iff_prefix.mp here
      simp only [← split, List.drop_left, Option.some.injEq, Prod.mk.injEq] at found
      rw [← found.1, ← found.2, List.nil_append, split]
    · obtain ⟨parts, later, same⟩ := Option.map_eq_some_iff.mp found
      obtain ⟨rfl, rfl⟩ := Prod.mk.inj same
      rw [ih later]
      rfl

theorem cut_here {mark : List α} (nonempty : mark ≠ []) (rest : List α) :
    cut mark (mark ++ rest) = some ([], rest) := by
  obtain ⟨c, marks, rfl⟩ := List.exists_cons_of_ne_nil nonempty
  have start : (c :: marks).isPrefixOf (c :: (marks ++ rest)) = true :=
    List.isPrefixOf_iff_prefix.mpr (List.prefix_append (c :: marks) rest)
  rw [List.cons_append, cut, if_pos start, ← List.cons_append, List.drop_left]

theorem cut_first {mark s rest : List α} (nonempty : mark ≠ []) (before : List α)
    (here : s = before ++ mark ++ rest) :
    ∃ first after, cut mark s = some (first, after) ∧ first.length ≤ before.length := by
  induction before generalizing s with
  | nil =>
    subst here
    exact ⟨[], rest, cut_here nonempty rest, Nat.le_refl 0⟩
  | cons c before ih =>
    subst here
    rw [List.cons_append, List.cons_append, cut]
    split
    · exact ⟨[], _, rfl, Nat.zero_le _⟩
    · obtain ⟨first, after, found, short⟩ := ih rfl
      refine ⟨c :: first, after, by rw [found]; rfl, ?_⟩
      simpa using short

theorem cut_past {mark before : List α} {c : α} (nonempty : mark ≠ []) (foreign : c ∉ mark)
    (absent : ¬ mark <:+: before) (after : List α) :
    cut mark (before ++ c :: after) =
      (cut mark after).map fun parts => (before ++ c :: parts.1, parts.2) := by
  induction before with
  | nil =>
    have later : mark.isPrefixOf (c :: after) = false := by
      rw [← Bool.not_eq_true, List.isPrefixOf_iff_prefix]
      intro start
      exact nonempty (List.prefix_nil.mp (prefix_before [] foreign start))
    rw [List.nil_append, cut, later]
    rfl
  | cons d before ih =>
    have later : mark.isPrefixOf (d :: (before ++ c :: after)) = false := by
      rw [← Bool.not_eq_true, List.isPrefixOf_iff_prefix]
      intro start
      exact absent (prefix_before (d :: before) foreign start).isInfix
    have rest : ¬ mark <:+: before := fun inside => absent (List.infix_cons inside)
    rw [List.cons_append, cut, later, ih rest, Option.map_map]
    rfl

end Cut

section Search
variable {α β : Type} {found : List α → Option β}

def search (found : List α → Option β) : List α → Option β
  | [] => found []
  | c :: s => (found (c :: s)).or (search found s)

theorem search_here {s : List α} {b : β} (here : found s = some b) : search found s = some b := by
  cases s with
  | nil => exact here
  | cons c s =>
    rw [search, here]
    rfl

theorem search_reaches {s : List α} (there : (search found s).isSome) (front : List α) :
    (search found (front ++ s)).isSome := by
  induction front with
  | nil => exact there
  | cons c front ih =>
    rw [List.cons_append, search, Option.isSome_or, ih, Bool.or_true]

theorem search_front {front rest : List α} {b : β} {starts : List α → Bool}
    (each : ∀ u, u <:+ front → u ≠ [] → found (u ++ rest) = bif starts u then some b else none)
    (empty : starts [] = false) :
    search found (front ++ rest) = bif front.tails.any starts then some b else search found rest := by
  induction front with
  | nil => simp [empty]
  | cons c front ih =>
    have later := ih fun u suffix => each u (suffix.trans (List.suffix_cons c front))
    have here := each (c :: front) (List.suffix_refl _) (List.cons_ne_nil c front)
    rw [List.cons_append] at here ⊢
    rw [search, here, later, List.tails_cons, List.any_cons]
    cases starts (c :: front) <;> rfl

theorem search_past {front rest : List α}
    (none_ : ∀ u, u <:+ front → u ≠ [] → found (u ++ rest) = none) :
    search found (front ++ rest) = search found rest := by
  induction front with
  | nil => rfl
  | cons c front ih =>
    have here := none_ (c :: front) (List.suffix_refl _) (List.cons_ne_nil c front)
    rw [List.cons_append] at here ⊢
    rw [search, here, Option.none_or]
    exact ih fun u suffix => none_ u (suffix.trans (List.suffix_cons c front))

end Search
end CodePoints
