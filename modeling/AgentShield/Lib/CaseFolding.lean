import AgentShield.Lib.Text

/-!
Unicode simple case folding, one code point to one. Most code points fold to their lower case;
the others are a short table.
-/
namespace Text

/- Where the simple folding is not the lower case, shift 0 being itself. -/
def foldRuns : List CaseRun :=
  [⟨181, 181, 1, 775⟩, ⟨383, 383, 1, -268⟩, ⟨837, 837, 1, 116⟩, ⟨962, 962, 1, 1⟩,
   ⟨976, 976, 1, -30⟩, ⟨977, 977, 1, -25⟩, ⟨981, 981, 1, -15⟩, ⟨982, 982, 1, -22⟩,
   ⟨1008, 1008, 1, -54⟩, ⟨1009, 1009, 1, -48⟩, ⟨1013, 1013, 1, -64⟩, ⟨5024, 5109, 1, 0⟩,
   ⟨5112, 5117, 1, -8⟩, ⟨7296, 7296, 1, -6222⟩, ⟨7297, 7297, 1, -6221⟩, ⟨7298, 7298, 1, -6212⟩,
   ⟨7299, 7300, 1, -6210⟩, ⟨7301, 7301, 1, -6211⟩, ⟨7302, 7302, 1, -6204⟩,
   ⟨7303, 7303, 1, -6180⟩, ⟨7304, 7304, 1, 35267⟩, ⟨7835, 7835, 1, -58⟩, ⟨8126, 8126, 1, -7173⟩,
   ⟨43888, 43967, 1, -38864⟩]

/- U+0130 has a lower case of two code points, and no simple folding but itself. -/
def simpleFold (c : Char) : Char :=
  match foldRuns.find? (·.covers c.toNat) with
  | some run => Char.ofNat (c.toNat + run.shift).toNat
  | none => match lowerChar c with
    | [lowered] => lowered
    | _ => c

def caseFold (s : List Char) : List Char := s.map simpleFold

def ascii (c : Char) : Prop := c.toNat < 128

instance : DecidablePred ascii := fun c => inferInstanceAs (Decidable (c.toNat < 128))

def longS : Char := Char.ofNat 0x17F

def kelvin : Char := Char.ofNat 0x212A

example : caseFold [longS, 'E', 'c', 'R', kelvin] = ['s', 'e', 'c', 'r', 'k'] := by decide

def CaseRun.Stays (run : CaseRun) : Prop :=
  128 ≤ run.first ∧ (128 ≤ run.first + run.shift ∨ run.first = 383 ∧ run.last = 383 ∨
      run.first = 8490 ∧ run.last = 8490) ∧
    (run.last + run.shift < 0xD800 ∨
      0xDFFF < run.first + run.shift ∧ run.last + run.shift < 0x110000)

instance (run : CaseRun) : Decidable run.Stays := inferInstanceAs (Decidable (_ ∧ _ ∧ _))

theorem runs_stay : ∀ run ∈ foldRuns ++ caseRuns, run.Stays := by decide +kernel

theorem covers_iff {run : CaseRun} {n : Nat} (covers : run.covers n = true) :
    run.first ≤ n ∧ n ≤ run.last := by
  unfold CaseRun.covers at covers
  simp only [Bool.and_eq_true, decide_eq_true_eq] at covers
  exact covers.1

theorem toNat_ofNat {n : Nat} (valid : n.isValidChar) : (Char.ofNat n).toNat = n := by
  unfold Char.ofNat
  rw [dif_pos valid]
  rfl

theorem shifted_ascii {run : CaseRun} (stays : run.Stays) {c : Char}
    (covers : run.covers c.toNat = true)
    (small : ascii (Char.ofNat (c.toNat + run.shift).toNat)) : c = longS ∨ c = kelvin := by
  obtain ⟨first, last⟩ := covers_iff covers
  obtain ⟨_, high, valid⟩ := stays
  have code : (c.toNat + run.shift).toNat.isValidChar := by
    rcases valid with low | ⟨above, below⟩
    · exact Or.inl (by omega)
    · exact Or.inr ⟨by omega, by omega⟩
  unfold ascii at small
  rw [toNat_ofNat code] at small
  rcases high with up | ⟨here, there⟩ | ⟨here, there⟩
  · omega
  · left
    have same : c.toNat = longS.toNat := by
      change c.toNat = 383
      omega
    exact Char.toNat_inj.mp same
  · right
    have same : c.toNat = kelvin.toNat := by
      change c.toNat = 8490
      omega
    exact Char.toNat_inj.mp same

theorem fold_ascii {c : Char} (small : ascii c) : lowerChar c = [simpleFold c] := by
  have all : ∀ n : Fin 128, lowerChar (Char.ofNat n.val) = [simpleFold (Char.ofNat n.val)] := by
    decide
  have same := all ⟨c.toNat, small⟩
  rw [Char.ofNat_toNat] at same
  exact same

theorem caseFold_ascii {s : List Char} (plain : ∀ c ∈ s, ascii c) : caseFold s = lower s := by
  unfold caseFold lower
  induction s with
  | nil => rfl
  | cons c rest ih =>
    rw [List.map_cons, List.flatMap_cons, fold_ascii (plain c List.mem_cons_self),
      ih fun d member => plain d (List.mem_cons_of_mem c member)]
    rfl

theorem lowerChar_plain {c : Char} (plain : ∀ d ∈ lowerChar c, ascii d ∧ d ≠ 'k') : ascii c := by
  by_contra large
  have above : ¬ c.toNat < 128 := large
  unfold lowerChar at plain
  dsimp only at plain
  rw [if_neg above] at plain
  split at plain
  · have mark : ascii (Char.ofNat 0x307) := (plain (Char.ofNat 0x307) (by simp)).1
    exact absurd mark (by decide)
  · split at plain
    · rename_i run found
      obtain ⟨small, other⟩ := plain _ List.mem_cons_self
      have stays := runs_stay run (List.mem_append_right _ (List.mem_of_find?_eq_some found))
      have covers : run.covers c.toNat = true :=
        @List.find?_some _ (fun run : CaseRun => run.covers c.toNat) _ _ found
      rcases shifted_ascii stays covers small with rfl | rfl
      · have never : caseRuns.find? (·.covers longS.toNat) = none := by decide
        rw [never] at found
        cases found
      · have sign : caseRuns.find? (·.covers kelvin.toNat) = some ⟨8490, 8490, 1, -8383⟩ := rfl
        rw [sign] at found
        cases found
        exact other (by decide)
    · exact large (plain c List.mem_cons_self).1

theorem lower_plain {s : List Char} (plain : ∀ d ∈ lower s, ascii d ∧ d ≠ 'k') :
    ∀ c ∈ s, ascii c := by
  intro c member
  apply lowerChar_plain
  intro d inside
  exact plain d (List.mem_flatMap.mpr ⟨c, member, inside⟩)

theorem simpleFold_plain {c : Char} (small : ascii (simpleFold c)) (other : simpleFold c ≠ 'k') :
    ascii c ∨ c = longS := by
  by_cases plain : ascii c
  · exact Or.inl plain
  · right
    cases found : foldRuns.find? (·.covers c.toNat) with
    | some run =>
      have stays := runs_stay run (List.mem_append_left _ (List.mem_of_find?_eq_some found))
      have covers : run.covers c.toNat = true :=
        @List.find?_some _ (fun run : CaseRun => run.covers c.toNat) _ _ found
      have folded : simpleFold c = Char.ofNat (c.toNat + run.shift).toNat := by
        unfold simpleFold
        rw [found]
      rw [folded] at small
      rcases shifted_ascii stays covers small with long | sign
      · exact long
      · subst sign
        exact absurd (by decide) other
    | none =>
      have folded : simpleFold c = match lowerChar c with
          | [lowered] => lowered
          | _ => c := by
        unfold simpleFold
        rw [found]
      rw [folded] at small other
      split at small
      · rename_i lowered only
        refine absurd (lowerChar_plain ?_) plain
        intro d inside
        rw [only, List.mem_singleton] at inside
        rw [only] at other
        exact inside ▸ ⟨small, other⟩
      · exact absurd small plain

theorem fold_plain {s : List Char} (plain : ∀ d ∈ caseFold s, ascii d ∧ d ≠ 'k')
    (short : longS ∉ s) : ∀ c ∈ s, ascii c := by
  intro c member
  obtain ⟨small, other⟩ := plain (simpleFold c) (List.mem_map_of_mem member)
  rcases simpleFold_plain small other with small | rfl
  · exact small
  · exact absurd member short

theorem caseFold_longS (s : List Char) : caseFold (replace longS 's' s) = caseFold s := by
  have same : simpleFold 's' = simpleFold longS := by decide
  unfold caseFold replace
  rw [List.map_map]
  apply List.map_congr_left
  intro c _
  by_cases long : c = longS
  · simp [long, same]
  · simp [long]

/-- A text folds to a lower-case ASCII word without a k when it is one in lower case, every
    long s being read as an s. -/
theorem caseFold_word_iff {word : List Char} (plain : ∀ d ∈ word, ascii d ∧ d ≠ 'k')
    (s : List Char) : caseFold s = word ↔ lower (replace longS 's' s) = word := by
  rw [← caseFold_longS s]
  have differ : 's' ≠ longS := by decide
  constructor
  · intro folded
    rw [← caseFold_ascii, folded]
    rw [← folded] at plain
    exact fold_plain plain (replace_absent differ s)
  · intro lowered
    rw [caseFold_ascii, lowered]
    rw [← lowered] at plain
    exact lower_plain plain

end Text
