import Mathlib.Data.List.Infix

/-!
Every occurrence of a block in a text replaced by another block, from the left, and when
the replacement is undone by the opposite one.
-/
namespace Replacement

variable {α : Type}

/- `old` stands nowhere in `before ++ old ++ rest` that is before its end. -/
def Foremost (old before rest : List α) : Prop :=
  ∀ front back, before = front ++ back → back ≠ [] → ¬ old <+: back ++ (old ++ rest)

/- No text that ends in a part of `mark` runs into it with `new`. -/
def Parted (mark new : List α) : Prop :=
  ∀ front back, mark = front ++ back → front ≠ [] → back ≠ [] → ¬ back <+: new

/-- `new` can be told by the mark in it, which no other text around it completes. -/
structure Marked (new mark : List α) : Prop where
  nonempty : mark ≠ []
  inside : mark <:+: new
  parted : Parted mark new

/-- Nothing of `old` is in `new`, nor begins or ends where it ends or begins. -/
structure Apart (old new : List α) : Prop where
  inside : ¬ old <:+: new
  shorter : old.length ≤ new.length
  parted : Parted old new
  left : ∀ front back, old = front ++ back → front ≠ [] → back ≠ [] → ¬ front <:+ new

section
variable {old new : List α}

theorem first_occurrence (nonempty : old ≠ []) (s : List α) :
    ¬ old <:+: s ∨
      ∃ before rest, s = before ++ (old ++ rest) ∧ Foremost old before rest := by
  induction s with
  | nil => exact Or.inl fun inside => nonempty (List.infix_nil.mp inside)
  | cons c s ih =>
    classical
    by_cases start : old <+: c :: s
    · obtain ⟨rest, split⟩ := start
      refine Or.inr ⟨[], rest, split.symm, ?_⟩
      intro front back split behind
      simp at split
      exact absurd split.2 behind
    · rcases ih with absent | ⟨before, rest, rfl, foremost⟩
      · refine Or.inl fun inside => ?_
        rcases List.infix_cons_iff.mp inside with here | later
        · exact start here
        · exact absent later
      · refine Or.inr ⟨c :: before, rest, rfl, ?_⟩
        intro front back split behind
        cases front with
        | nil =>
          obtain rfl : c :: before = back := by simpa using split
          exact start
        | cons d front =>
          simp only [List.cons_append, List.cons.injEq] at split
          exact foremost front back split.2 behind

/-- A text, cut at every place where the block is replaced. -/
theorem replace_induction (nonempty : old ≠ []) {holds : List α → Prop}
    (absent : ∀ s, ¬ old <:+: s → holds s)
    (first : ∀ before rest, Foremost old before rest → holds rest →
      holds (before ++ (old ++ rest)))
    (s : List α) : holds s := by
  induction size : s.length using Nat.strongRecOn generalizing s with
  | ind n ih =>
    rcases first_occurrence nonempty s with none_ | ⟨before, rest, rfl, foremost⟩
    · exact absent s none_
    · refine first before rest foremost (ih rest.length ?_ rest rfl)
      have positive := List.length_pos_iff.mpr nonempty
      simp only [List.length_append] at size
      omega

/-- Two blocks with the same head, which is nowhere else in them, and the same last
    element, which is not in the head. -/
theorem apart_of_head {head : List α} {e : α} (oldHead : head <+: old) (newHead : head <+: new)
    (oldLast : old.getLast? = some e) (newLast : new.getLast? = some e) (foreign : e ∉ head)
    (oldOnce : ¬ head <:+: old.drop 1) (newOnce : ¬ head <:+: new.drop 1)
    (differ : ¬ old <+: new) (shorter : old.length ≤ new.length) : Apart old new where
  inside := by
    rintro ⟨front, back, same⟩
    cases front with
    | nil => exact differ ⟨back, same⟩
    | cons c front =>
      have behind : new.drop 1 = front ++ old ++ back := by rw [← same]; rfl
      exact newOnce (oldHead.isInfix.trans ⟨front, back, behind.symm⟩)
  shorter := shorter
  parted := by
    rintro front back rfl first second start
    rcases List.prefix_or_prefix_of_prefix newHead start with inside | inside
    · obtain ⟨c, front, rfl⟩ := List.exists_cons_of_ne_nil first
      exact oldOnce (inside.isInfix.trans ⟨front, [], by simp⟩)
    · rw [List.getLast?_append_of_ne_nil front second] at oldLast
      exact foreign (inside.subset (List.mem_of_getLast? oldLast))
  left := by
    rintro front back rfl first second finish
    have ends : front.getLast? = some e := by
      obtain ⟨before, rfl⟩ := finish
      rwa [List.getLast?_append_of_ne_nil before first] at newLast
    have start := List.prefix_append front back
    rcases List.prefix_or_prefix_of_prefix oldHead start with inside | inside
    · obtain ⟨before, rfl⟩ := finish
      cases before with
      | nil =>
        have positive := List.length_pos_iff.mpr second
        simp only [List.length_append, List.nil_append] at shorter
        omega
      | cons c before => exact newOnce (inside.isInfix.trans ⟨before, [], by simp⟩)
    · exact foreign (inside.subset (List.mem_of_getLast? ends))

theorem marked_foremost {mark : List α} (marked : Marked new mark) {before : List α}
    (absent : ¬ mark <:+: before) (rest : List α) : Foremost new before rest := by
  obtain ⟨front, after, inside, foremost⟩ : ∃ front after, new = front ++ (mark ++ after) ∧
      Foremost mark front after :=
    (first_occurrence marked.nonempty new).resolve_left fun absent => absent marked.inside
  have reaches : ∀ part : List α, part.length ≤ mark.length → part <+: new ++ rest →
      part <+: new := fun part short start =>
    List.prefix_of_prefix_length_le start (List.prefix_append new rest)
      (short.trans marked.inside.length_le)
  rintro outer back rfl behind ⟨t, same⟩
  have aligned : front ++ (mark ++ (after ++ t)) = back ++ (new ++ rest) := by
    calc front ++ (mark ++ (after ++ t)) = (front ++ (mark ++ after)) ++ t := by simp
      _ = new ++ t := by rw [← inside]
      _ = back ++ (new ++ rest) := same
  have whole : new ++ rest = front ++ (mark ++ (after ++ rest)) := by
    rw [inside]
    simp
  rcases List.append_eq_append_iff.mp aligned with ⟨z, rfl, ends⟩ | ⟨z, frontSplit, starts⟩
  · -- The mark of the earlier block begins in the text before the later one.
    rcases List.append_eq_append_iff.mp ends with ⟨w, rfl, -⟩ | ⟨w, split, runs⟩
    · exact absent ⟨outer ++ front, w, by simp⟩
    · have reached : w <+: new := reaches w (by simp [split]) ⟨after ++ t, runs.symm⟩
      cases z with
      | nil =>
        obtain rfl : mark = w := by simpa using split
        refine foremost [] front rfl (by simpa using behind) ?_
        rwa [← inside]
      | cons c z =>
        cases w with
        | nil =>
          obtain rfl : mark = c :: z := by simpa using split
          exact absent ⟨outer ++ front, [], by simp⟩
        | cons d w => exact marked.parted (c :: z) (d :: w) split (by simp) (by simp) reached
  · -- It begins in the later block, before the block's own mark.
    rw [whole] at starts
    have shorter : z.length < front.length := by
      have positive := List.length_pos_iff.mpr behind
      rw [frontSplit, List.length_append]
      omega
    rcases List.append_eq_append_iff.mp starts with ⟨y, rfl, _⟩ | ⟨y, split, runs⟩
    · simp only [List.length_append] at shorter
      omega
    · refine foremost z y split ?_ ?_
      · rintro rfl
        simp [split] at shorter
      · refine List.prefix_of_prefix_length_le ⟨after ++ t, runs⟩ ⟨rest, ?_⟩ ?_
        · simp
        · simp only [List.length_append]
          omega

end

section
variable [DecidableEq α]

def replaceFrom (old new : List α) : Nat → List α → List α
  | _, [] => []
  | passed + 1, _ :: rest => replaceFrom old new passed rest
  | 0, c :: rest =>
    if old.isPrefixOf (c :: rest) then new ++ replaceFrom old new (old.length - 1) rest
    else c :: replaceFrom old new 0 rest

/- `str.replace(old, new)` of a nonempty text. -/
def replace (old new s : List α) : List α := replaceFrom old new 0 s

variable {old new : List α}

theorem replaceFrom_drop (passed : Nat) (s : List α) :
    replaceFrom old new passed s = replace old new (s.drop passed) := by
  induction s generalizing passed with
  | nil => simp [replace, replaceFrom]
  | cons c rest ih =>
    cases passed with
    | zero => rfl
    | succ passed => rw [replaceFrom, ih, List.drop_succ_cons]

theorem replace_here (nonempty : old ≠ []) (rest : List α) :
    replace old new (old ++ rest) = new ++ replace old new rest := by
  obtain ⟨c, olds, rfl⟩ := List.exists_cons_of_ne_nil nonempty
  have start : (c :: olds).isPrefixOf (c :: (olds ++ rest)) = true :=
    List.isPrefixOf_iff_prefix.mpr (List.prefix_append (c :: olds) rest)
  rw [List.cons_append, replace, replaceFrom, if_pos start, replaceFrom_drop]
  simp

theorem replace_past {c : α} {rest : List α} (elsewhere : ¬ old <+: c :: rest) :
    replace old new (c :: rest) = c :: replace old new rest := by
  have start : ¬ old.isPrefixOf (c :: rest) = true := by
    rwa [List.isPrefixOf_iff_prefix]
  rw [replace, replaceFrom, if_neg start, replace]

theorem replace_absent {s : List α} (absent : ¬ old <:+: s) : replace old new s = s := by
  induction s with
  | nil => rfl
  | cons c rest ih =>
    rw [replace_past fun start => absent start.isInfix,
      ih fun inside => absent (List.infix_cons inside)]

theorem replace_first (nonempty : old ≠ []) {before rest : List α}
    (foremost : Foremost old before rest) :
    replace old new (before ++ (old ++ rest)) = before ++ (new ++ replace old new rest) := by
  induction before with
  | nil => exact replace_here nonempty rest
  | cons c before ih =>
    have elsewhere : ¬ old <+: c :: (before ++ (old ++ rest)) :=
      foremost [] (c :: before) rfl (by simp)
    rw [List.cons_append, replace_past elsewhere, ih]
    · rfl
    · intro front back split behind
      exact foremost (c :: front) back (by rw [split, List.cons_append]) behind

/-- What was replaced in a text without the mark is put back. -/
theorem replace_back {mark s : List α} (nonempty : old ≠ []) (marked : Marked new mark)
    (absent : ¬ mark <:+: s) : replace new old (replace old new s) = s := by
  have newNonempty : new ≠ [] := by
    rintro rfl
    exact marked.nonempty (List.infix_nil.mp marked.inside)
  induction s using replace_induction nonempty with
  | absent s missing =>
    rw [replace_absent missing]
    exact replace_absent fun inside => absent (marked.inside.trans inside)
  | first before rest foremost ih =>
    have front : ¬ mark <:+: before := fun inside =>
      absent (inside.trans (List.prefix_append _ _).isInfix)
    have behind : ¬ mark <:+: rest := fun inside =>
      absent (inside.trans ⟨before ++ old, [], by simp⟩)
    rw [replace_first nonempty foremost, replace_first newNonempty (marked_foremost marked front _),
      ih behind]

theorem replaced_inside (nonempty : old ≠ []) {s : List α} (inside : old <:+: s) :
    new <:+: replace old new s := by
  rcases first_occurrence nonempty s with absent | ⟨before, rest, rfl, foremost⟩
  · exact absurd inside absent
  · rw [replace_first nonempty foremost]
    exact List.infix_append' before new _

theorem replaced_absent (nonempty : old ≠ []) (apart : Apart old new) (s : List α) :
    ¬ old <:+: replace old new s := by
  induction s using replace_induction nonempty with
  | absent s missing => rwa [replace_absent missing]
  | first before rest foremost ih =>
    rw [replace_first nonempty foremost]
    rintro ⟨front, back, same⟩
    have reaches : ∀ part : List α, part.length ≤ old.length →
        part <+: new ++ replace old new rest → part <+: new := fun part short start =>
      List.prefix_of_prefix_length_le start (List.prefix_append _ _) (short.trans apart.shorter)
    rw [List.append_assoc] at same
    rcases List.append_eq_append_iff.mp same with ⟨z, rfl, ends⟩ | ⟨z, -, starts⟩
    · -- It begins before the new block.
      rcases List.append_eq_append_iff.mp ends with ⟨w, rfl, -⟩ | ⟨w, split, runs⟩
      · exact foremost front (old ++ w) rfl (by simp [nonempty]) ⟨w ++ (old ++ rest), by simp⟩
      · have reached : w <+: new := reaches w (by simp [split]) ⟨back, runs.symm⟩
        cases z with
        | nil =>
          obtain rfl : old = w := by simpa using split
          exact apart.inside reached.isInfix
        | cons c z =>
          cases w with
          | nil =>
            obtain rfl : old = c :: z := by simpa using split
            exact foremost front (c :: z) rfl (by simp) (List.prefix_append _ _)
          | cons d w => exact apart.parted (c :: z) (d :: w) split (by simp) (by simp) reached
    · -- It begins in the new block or behind it.
      rcases List.append_eq_append_iff.mp starts with ⟨w, rfl, behind⟩ | ⟨w, split, runs⟩
      · exact ih ⟨w, back, by rw [behind]; simp⟩
      · rcases List.append_eq_append_iff.mp runs with ⟨v, rfl, -⟩ | ⟨v, parts, behind⟩
        · exact apart.inside ⟨z, v, by rw [split]; simp⟩
        · cases v with
          | nil =>
            obtain rfl : old = w := by simpa using parts
            exact apart.inside ⟨z, [], by rw [split]; simp⟩
          | cons d v =>
            cases w with
            | nil =>
              obtain rfl : old = d :: v := by simpa using parts
              exact ih ⟨[], back, by simpa using behind.symm⟩
            | cons c w =>
              exact apart.left (c :: w) (d :: v) parts (by simp) (by simp) ⟨z, split.symm⟩

end

end Replacement
