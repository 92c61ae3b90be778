import AgentShield.Lib.JsonScan

/-!
What the text of a loaded value looks like: its line breaks stand outside its strings, and
it is longer than any string that is a member of it.
-/
namespace JsonText
open CodePoints Keyed

theorem loads_lexed {limits : Limits} {s : Str} {v : Json} (loaded : loads limits s = .ok v) :
    lex .outside s = some .outside := by
  unfold loads at loaded
  split at loaded
  · cases loaded
  · obtain ⟨⟨v, rest⟩, read, ends⟩ := bind_ok loaded
    split at ends
    · rename_i nothing
      have last := takes_skip rest
      rw [nothing] at last
      obtain ⟨p, split, run⟩ := ((takes_skip s).trans (once_consumed read).1).trans last
      rwa [split, List.append_nil]
    · cases ends

/-- A line of the text goes on with what stands outside strings, or with a string. -/
theorem line_continues {m n : Mode} {a b : Str} {c d : CodePoint} (control : c.val < 32)
    (run : lex m (a ++ c :: d :: b) = some n) : d ∈ tokenChars ∨ d = quote := by
  unfold lex at run
  rw [List.foldlM_append] at run
  obtain ⟨k, -, run⟩ := Option.bind_eq_some_iff.mp run
  rw [List.foldlM_cons] at run
  obtain ⟨l, line, run⟩ := Option.bind_eq_some_iff.mp run
  rw [List.foldlM_cons] at run
  obtain ⟨e, step, -⟩ := Option.bind_eq_some_iff.mp run
  have unquoted : c ≠ quote := by
    rintro rfl
    exact absurd control (by decide)
  have plain : c ≠ backslash := by
    rintro rfl
    exact absurd control (by decide)
  cases k with
  | inside =>
    rw [Mode.step, if_neg unquoted, if_neg plain, if_pos control] at line
    cases line
  | escaped =>
    rw [Mode.step, if_pos control] at line
    cases line
  | outside =>
    rw [Mode.step, if_neg unquoted] at line
    split at line
    · obtain rfl := Option.some.inj line
      rw [Mode.step] at step
      split at step
      · exact .inr ‹_›
      · split at step
        · exact .inl ‹_›
        · cases step
    · cases line

def textLength : Json → Nat
  | .str s => s.length
  | _ => 0

theorem units_fit {place : Place} {s rest : Str} {units : List Piece}
    (read : scanUnits place s = .ok (units, rest)) : units.length + rest.length < s.length := by
  induction s generalizing place units with
  | nil => cases place <;> cases read
  | cons c s ih =>
    have more : ∀ {place : Place} {p : Piece} {units : List Piece},
        ((scanUnits place s).map fun read => (p :: read.1, read.2)) = .ok (units, rest) →
          units.length + rest.length < (c :: s).length := by
      intro place p units mapped
      obtain ⟨left, later, same⟩ := map_ok mapped
      obtain ⟨rfl, rfl⟩ := Prod.mk.inj same
      have := ih later
      simp only [List.length_cons]
      omega
    have same : ∀ {place : Place} {units : List Piece}, scanUnits place s = .ok (units, rest) →
        units.length + rest.length < (c :: s).length :=
      fun later => Nat.lt_succ_of_lt (ih later)
    cases place with
    | between =>
      rw [scanUnits] at read
      split at read
      · obtain ⟨rfl, rfl⟩ := Prod.mk.inj (Except.ok.inj read)
        simp
      · split at read
        · exact same read
        · split at read
          · cases read
          · exact more read
    | escape =>
      rw [scanUnits] at read
      split at read
      · exact same read
      · split at read
        · exact more read
        · cases read
    | digits left value =>
      rw [scanUnits] at read
      split at read
      · cases read
      · cases left with
        | zero => exact more read
        | succ left => exact same read

theorem join_length_le (units : List Piece) : (join units).length ≤ units.length := by
  induction units using join.induct with
  | case1 => exact Nat.le_refl 0
  | case2 u => exact Nat.le_refl 1
  | case3 u v rest pair ih =>
    rw [join, if_pos pair]
    simp only [List.length_cons]
    omega
  | case4 u v rest apart ih =>
    rw [join, if_neg apart]
    simp only [List.length_cons] at ih ⊢
    omega

theorem string_fits {s rest x : Str} (read : scanString s = .ok (x, rest)) :
    x.length + rest.length < s.length := by
  obtain ⟨⟨units, left⟩, units_read, same⟩ := map_ok read
  obtain ⟨rfl, rfl⟩ := Prod.mk.inj same
  have fits := units_fit units_read
  have short := join_length_le units
  dsimp only
  omega

theorem object_kind {scan : Scan} {s rest : Str} {v : Json}
    (read : scanObject scan s = .ok (v, rest)) : ∃ entries, v = .obj entries := by
  unfold scanObject at read
  split at read
  · cases read
  · split at read
    · exact ⟨[], (Prod.mk.inj (Except.ok.inj read)).1.symm⟩
    · split at read
      · obtain ⟨found, -, same⟩ := map_ok read
        exact ⟨found.1, (Prod.mk.inj same).1.symm⟩
      · cases read

theorem value_fits {limits : Limits} {inside : Option Scan}
    (consumes : ∀ scan ∈ inside, ∀ s v rest, scan s = .ok (v, rest) → Consumes s rest)
    {s rest : Str} {v : Json} (read : scanValue limits inside s = .ok (v, rest)) :
    textLength v + rest.length < s.length := by
  have consumed := (value_consumed consumes read).2
  have other : textLength v = 0 → textLength v + rest.length < s.length := by
    intro none_
    omega
  cases s with
  | nil => cases read
  | cons c s =>
    unfold scanValue at read
    dsimp only at read
    split at read
    · obtain ⟨⟨x, left⟩, string, same⟩ := map_ok read
      obtain ⟨rfl, rfl⟩ := Prod.mk.inj same
      exact Nat.lt_succ_of_lt (string_fits string)
    · apply other
      split at read
      · split at read
        · cases read
        · obtain ⟨entries, rfl⟩ := object_kind read
          rfl
      · split at read
        · split at read
          · cases read
          · obtain ⟨items, rfl⟩ := array_kind read
            rfl
        · split at read
          · rename_i constant found
            rw [Except.ok.inj read] at found
            have all : (constants.all fun constant => textLength constant.2 = 0) = true := by
              decide
            obtain ⟨name, listed⟩ := constant_listed found
            exact of_decide_eq_true (List.all_eq_true.mp all (name, v) listed)
          · rcases number_kind read with ⟨n, rfl⟩ | ⟨literal, rfl⟩ <;> rfl

theorem once_fits {limits : Limits} {depth : Nat} {s rest : Str} {v : Json}
    (read : scanOnce limits depth s = .ok (v, rest)) : textLength v + rest.length < s.length := by
  cases depth with
  | zero => exact value_fits (fun _ absent => by cases absent) read
  | succ depth =>
    refine value_fits (fun scan here => ?_) read
    obtain rfl := Option.some.inj here
    exact fun s v rest inner => once_consumed inner

section Members
variable {scan : Scan}
  (fits : ∀ s v rest, scan s = .ok (v, rest) → textLength v + rest.length < s.length)
include fits

theorem member_fits {s rest : Str} {member : Str × Json}
    (read : scanMember scan s = .ok (member, rest)) :
    textLength member.2 + rest.length + 2 < s.length := by
  obtain ⟨after_key, value_text, key, colon, value⟩ := member_turn read
  have key_fits := string_fits key
  have past := (takes_skip after_key).short
  rw [colon, List.length_cons] at past
  have white := (takes_skip value_text).short
  have value_fits := fits _ _ _ value
  omega

theorem entries_fit {fuel : Nat} {s rest : Str} {entries result : Entries}
    (read : scanEntries scan fuel s entries = .ok (result, rest)) :
    ∀ entry ∈ result, entry ∈ entries ∨ textLength entry.2 + 2 < s.length := by
  induction fuel generalizing s entries with
  | zero => cases read
  | succ fuel ih =>
    obtain ⟨member, left, member_read, next⟩ := entries_turn read
    have here := member_fits fits member_read
    have entered : ∀ entry ∈ replaceOrAppend Prod.fst member entries,
        entry ∈ entries ∨ textLength entry.2 + 2 < s.length := by
      intro entry inside
      rcases replaced_member inside with rfl | old
      · exact .inr (by omega)
      · exact .inl old
    rcases next with ⟨-, rfl⟩ | ⟨comma, next, separated, opened, read⟩
    · exact entered
    · intro entry inside
      rcases ih read entry inside with listed | later
      · exact entered entry listed
      · have past := (takes_skip left).short
        have again := (takes_skip comma).short
        rw [separated, List.length_cons] at past
        rw [opened, List.length_cons] at again
        exact .inr (by omega)

theorem object_fits {s rest : Str} {entries : Entries}
    (read : scanObject scan s = .ok (.obj entries, rest)) :
    ∀ entry ∈ entries, textLength entry.2 + 2 < s.length := by
  unfold scanObject at read
  have white := (takes_skip s).short
  split at read
  · cases read
  · rename_i c left stands
    rw [stands, List.length_cons] at white
    split at read
    · obtain rfl := Json.obj.inj (Prod.mk.inj (Except.ok.inj read)).1
      exact List.forall_mem_nil _
    · split at read
      · obtain ⟨found, entries_read, same⟩ := map_ok read
        obtain rfl := Json.obj.inj (Prod.mk.inj same).1
        intro entry inside
        rcases entries_fit fits entries_read entry inside with absent | short
        · cases absent
        · omega
      · cases read

end Members

/-- The members of a loaded object that are strings are shorter than its text. -/
theorem loaded_fits {limits : Limits} {s : Str} {entries : Entries}
    (loaded : loads limits s = .ok (.obj entries)) :
    ∀ entry ∈ entries, textLength entry.2 + 3 < s.length := by
  obtain ⟨depth, t, rest, opened, object⟩ := loads_object loaded
  have white := (takes_skip s).short
  rw [opened, List.length_cons] at white
  intro entry member
  have fits := object_fits (fun _ _ _ => once_fits) object entry member
  omega

end JsonText
