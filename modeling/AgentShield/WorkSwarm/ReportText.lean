import AgentShield.WorkSwarm.Workers

/-!
The text a report is dumped to, character by character, and the fenced blocks in it: they
start and end within strings.
-/
namespace AgentShield.WorkSwarm.Workers
open CodePoints JsonText Keyed

abbrev backtick : CodePoint := 96

def gapChars : List CodePoint := str "\x7b\x7d[]:, "

/-- A piece of a dumped report, from the mode its reader is in. -/
def Written : Mode → Str → Prop
  | _, [] => True
  | .outside, c :: s => if c = quote then Written .inside s else c ∈ gapChars ∧ Written .outside s
  | .inside, c :: s =>
    if c = quote then Written .outside s
    else if c = backslash then Written .escaped s
    else Written .inside s
  | .escaped, c :: s => c ≠ backtick ∧ Written .inside s

@[simp] theorem written_quote (s : Str) : Written .outside (quote :: s) ↔ Written .inside s :=
  Iff.rfl

@[simp] theorem written_closing (s : Str) : Written .inside (quote :: s) ↔ Written .outside s :=
  Iff.rfl

theorem written_text {c : CodePoint} (unquoted : c ≠ quote) (plain : c ≠ backslash) (s : Str) :
    Written .inside (c :: s) ↔ Written .inside s := by
  rw [Written, if_neg unquoted, if_neg plain]

theorem written_gap {c : CodePoint} {s : Str} (written : Written .outside (c :: s))
    (unquoted : c ≠ quote) : c ∈ gapChars ∧ Written .outside s := by
  rwa [Written, if_neg unquoted] at written

theorem written_prefix {m : Mode} {a b : Str} (written : Written m (a ++ b)) : Written m a := by
  induction a generalizing m with
  | nil => cases m <;> trivial
  | cons c a ih =>
    rw [List.cons_append] at written
    cases m with
    | outside =>
      unfold Written at written ⊢
      split
      · rename_i opened
        rw [if_pos opened] at written
        exact ih written
      · rename_i unquoted
        rw [if_neg unquoted] at written
        exact ⟨written.1, ih written.2⟩
    | inside =>
      unfold Written at written ⊢
      split
      · rename_i closed
        rw [if_pos closed] at written
        exact ih written
      · rename_i unquoted
        rw [if_neg unquoted] at written
        split
        · rename_i escaping
          rw [if_pos escaping] at written
          exact ih written
        · rename_i plain
          rw [if_neg plain] at written
          exact ih written
    | escaped => exact ⟨written.1, ih written.2⟩

theorem written_backtick {m : Mode} {a s : Str} (written : Written m (a ++ backtick :: s)) :
    Written .inside s := by
  induction a generalizing m with
  | nil =>
    cases m with
    | outside =>
      have gap := written_gap written (by decide)
      exact absurd gap.1 (by decide)
    | inside => exact (written_text (by decide) (by decide) s).mp written
    | escaped => exact absurd rfl written.1
  | cons c a ih =>
    rw [List.cons_append] at written
    cases m with
    | outside =>
      unfold Written at written
      split at written
      · exact ih written
      · exact ih written.2
    | inside =>
      unfold Written at written
      split at written
      · exact ih written
      · split at written
        · exact ih written
        · exact ih written
    | escaped => exact ih written.2

def Plays (text : Str) : Prop := ∀ rest, Written .outside rest → Written .outside (text ++ rest)

theorem Plays.append {a b : Str} (one : Plays a) (two : Plays b) : Plays (a ++ b) := by
  intro rest written
  rw [List.append_assoc]
  exact one _ (two rest written)

theorem plays_gap {text : Str} (gaps : text ⊆ gapChars) : Plays text := by
  intro rest written
  induction text with
  | nil => exact written
  | cons c text ih =>
    have unquoted : c ≠ quote := by
      rintro rfl
      exact absurd (gaps List.mem_cons_self) (by decide)
    rw [List.cons_append, Written, if_neg unquoted]
    exact ⟨gaps List.mem_cons_self, ih fun d later => gaps (List.mem_cons_of_mem c later)⟩

theorem plays_intercalate {sep : Str} (separator : Plays sep) {texts : List Str}
    (play : ∀ text ∈ texts, Plays text) : Plays (sep.intercalate texts) := by
  induction texts with
  | nil => exact fun rest written => written
  | cons text texts ih =>
    have others := ih fun other member => play other (List.mem_cons_of_mem text member)
    cases texts with
    | nil =>
      rw [List.intercalate_singleton]
      exact play text List.mem_cons_self
    | cons next texts =>
      rw [List.intercalate_cons_cons]
      exact ((play text List.mem_cons_self).append separator).append others

theorem numbered_written (n : Nat) {rest : Str} (written : Written .inside rest) :
    Written .inside (numbered n ++ rest) := by
  have plain : ∀ d, d < 16 → hexChar d ≠ quote ∧ hexChar d ≠ backslash := by
    intro d small
    have all : ((List.range 16).all fun d => hexChar d ≠ quote ∧ hexChar d ≠ backslash) = true := by
      decide
    exact of_decide_eq_true (List.all_eq_true.mp all d (List.mem_range.mpr small))
  have digit : ∀ k s, Written .inside s → Written .inside (hexChar (k % 16) :: s) := by
    intro k s later
    obtain ⟨unquoted, unescaped⟩ := plain (k % 16) (Nat.mod_lt k (by decide))
    exact (written_text unquoted unescaped s).mpr later
  have digits := digit (n / 4096) _ (digit (n / 256) _ (digit (n / 16) _ (digit n rest written)))
  exact ⟨by decide, digits⟩

theorem escape_written (c : CodePoint) {rest : Str} (written : Written .inside rest) :
    Written .inside (escape c ++ rest) := by
  unfold escape
  split
  · rename_i e found
    obtain ⟨before, later, split, -⟩ := List.lookup_eq_some_iff.mp found
    have all : (escapeDct.all fun entry => entry.2 ≠ backtick) = true := by decide
    exact ⟨of_decide_eq_true (List.all_eq_true.mp all (c, e) (by simp [split])), written⟩
  · rename_i absent
    split
    · have unquoted : c ≠ quote := by
        rintro rfl
        exact absurd absent (by decide)
      have plain : c ≠ backslash := by
        rintro rfl
        exact absurd absent (by decide)
      exact (written_text unquoted plain rest).mpr written
    · split
      · exact numbered_written _ written
      · rw [List.append_assoc]
        exact numbered_written _ (numbered_written _ written)

theorem plays_string (x : Str) : Plays (dumpsString x) := by
  intro rest written
  have content : ∀ y : Str, Written .inside (y.flatMap escape ++ quote :: rest) := by
    intro y
    induction y with
    | nil => exact written
    | cons c y ih =>
      rw [List.flatMap_cons, List.append_assoc]
      exact escape_written c ih
  rw [dumpsString, List.cons_append, List.cons_append, List.append_assoc]
  exact content x

theorem plays_list (items : List Str) : Plays (dumpsList (items.map dumpsString)) := by
  refine ((plays_gap (by decide)).append (plays_intercalate (plays_gap (by decide)) ?_)).append
    (plays_gap (by decide))
  intro text member
  obtain ⟨x, -, rfl⟩ := List.mem_map.mp member
  exact plays_string x

theorem dumps_written (r : Report) : Written .outside (dumps r) := by
  have plays : Plays (dumps r) := by
    refine ((plays_gap (by decide)).append (plays_intercalate (plays_gap (by decide)) ?_)).append
      (plays_gap (by decide))
    intro text member
    obtain ⟨entry, listed, rfl⟩ := List.mem_map.mp member
    have value : Plays entry.2 := by
      simp only [List.mem_cons, List.not_mem_nil, or_false] at listed
      rcases listed with rfl | rfl | rfl
      · exact plays_string r.analysis
      · exact plays_list r.requestedFiles
      · exact plays_list r.recommendations
    exact ((plays_string entry.1).append (plays_gap (by decide))).append value
  have whole := plays [] trivial
  rwa [List.append_nil] at whole

/-- A rest of the text behind characters that are neither a quote nor a backslash. -/
theorem written_behind {p rest : Str} (plain : ∀ c ∈ p, c ≠ quote ∧ c ≠ backslash)
    (written : Written .inside (p ++ rest)) : Written .inside rest := by
  induction p with
  | nil => exact written
  | cons c p ih =>
    obtain ⟨unquoted, unescaped⟩ := plain c List.mem_cons_self
    have later := (written_text unquoted unescaped _).mp written
    exact ih (fun d member => plain d (List.mem_cons_of_mem c member)) later

theorem trimmed_written {s : Str} (written : Written .inside s) :
    Written .inside (s.dropWhile isSpace) := by
  have split := List.takeWhile_append_dropWhile (p := isSpace) (l := s)
  rw [← split] at written
  refine written_behind (fun c member => ?_) written
  have space := List.mem_takeWhile_imp member
  constructor
  · rintro rfl
    exact absurd space (by decide)
  · rintro rfl
    exact absurd space (by decide)

theorem pattern_written {letters : List Char}
    (plain : (letters.all fun letter => !matchesLetter letter quote && !matchesLetter letter backslash)
      = true) {s rest : Str} (matched : dropPattern letters s = some rest)
    (written : Written .inside s) : Written .inside rest := by
  induction letters generalizing s with
  | nil => exact Option.some.inj matched ▸ written
  | cons letter letters ih =>
    obtain ⟨here, later⟩ := Bool.and_eq_true_iff.mp plain
    cases s with
    | nil => cases matched
    | cons c s =>
      rw [dropPattern] at matched
      split at matched
      · rename_i same
        have unquoted : c ≠ quote := by
          rintro rfl
          simp [same] at here
        have unescaped : c ≠ backslash := by
          rintro rfl
          simp [same] at here
        exact ih later matched ((written_text unquoted unescaped s).mp written)
      · cases matched

theorem tag_written {s : Str} (written : Written .inside s) :
    Written .inside (dropTag ["json", "python"] s) := by
  have plain : (["json", "python"].all fun tag => tag.toList.all fun letter =>
      !matchesLetter letter quote && !matchesLetter letter backslash) = true := by decide
  unfold dropTag
  cases found : ["json", "python"].findSome? fun tag => dropPattern tag.toList s with
  | none => exact written
  | some rest =>
    obtain ⟨tag, listed, matched⟩ := List.exists_of_findSome?_eq_some found
    exact pattern_written (List.all_eq_true.mp plain tag listed) matched written

theorem behind_fence {m : Mode} {s before after : Str} (found : cut fence s = some (before, after))
    (written : Written m s) : Written .inside after := by
  have split : s = before ++ backtick :: backtick :: backtick :: after := by
    rw [cut_split found, List.append_assoc]
    rfl
  rw [split] at written
  exact written_backtick (a := []) (written_backtick (a := []) (written_backtick written))

theorem fences_written {m : Mode} {fuel : Nat} {s : Str} (written : Written m s) :
    ∀ block ∈ fencesFrom fuel s, Written .inside block := by
  induction fuel generalizing m s with
  | zero => exact fun block absent => by cases absent
  | succ fuel ih =>
    rw [fencesFrom]
    split
    · exact fun block absent => by cases absent
    · rename_i opened found
      have inside := trimmed_written (tag_written (behind_fence found written))
      split
      · exact fun block absent => by cases absent
      · rename_i closed ends
        intro block member
        rcases List.mem_cons.mp member with rfl | later
        · rw [cut_split ends, List.append_assoc] at inside
          exact written_prefix inside
        · exact ih (behind_fence ends inside) block later

theorem stripped_written {s : Str} (written : Written .inside s) : Written .inside (strip s) := by
  obtain ⟨dropped, split⟩ := List.rdropWhile_prefix isSpace (s.dropWhile isSpace)
  have trimmed := trimmed_written written
  rw [← split] at trimmed
  exact written_prefix trimmed

end AgentShield.WorkSwarm.Workers
