import AgentShield.WorkSwarm.DeveloperAnswer

/-!
What the two sections of a Developer's answer read as: the first place where a labelled
fence opens may lie in the explanation or in the patched file.
-/
namespace AgentShield.WorkSwarm.Developer
open CodePoints Workers

def blank (s : Str) : Bool := s.all isSpace

def endsOpening (label : String) (s : Str) : Bool :=
  s.tails.any fun u => (openedBlock label u).any blank

def endsLabel (label : String) (s : Str) : Bool :=
  s.tails.any fun u => (labelled label u).any blank

def lineBody (s : Str) : Option Str :=
  (cut fence ((s.takeWhile isSpace).rtakeWhile (fun c => c ≠ newline) ++ s.dropWhile isSpace)).map
    Prod.fst

def Foreign (letters : List Char) (c : CodePoint) : Prop :=
  ∀ letter ∈ letters, matchesLetter letter c = false

theorem foreign_of {letters : List Char} {c : CodePoint}
    (all : (letters.all fun letter => !matchesLetter letter c) = true) : Foreign letters c :=
  fun letter member => by simpa using List.all_eq_true.mp all letter member

theorem pattern_stops {letters : List Char} {c : CodePoint} (foreign : Foreign letters c)
    (s rest : Str) :
    dropPattern letters (s ++ c :: rest) = (dropPattern letters s).map (· ++ c :: rest) := by
  induction letters generalizing s with
  | nil => rfl
  | cons letter letters ih =>
    have later := ih fun other member => foreign other (List.mem_cons_of_mem letter member)
    cases s with
    | nil =>
      simp [dropPattern, foreign letter List.mem_cons_self]
    | cons d s =>
      rw [List.cons_append, dropPattern, dropPattern]
      split
      · exact later s
      · rfl

theorem pattern_suffix {letters : List Char} {s rest : Str}
    (matched : dropPattern letters s = some rest) : rest <:+ s := by
  induction letters generalizing s with
  | nil => exact Option.some.inj matched ▸ List.suffix_refl s
  | cons letter letters ih =>
    cases s with
    | nil => cases matched
    | cons c s =>
      rw [dropPattern] at matched
      split at matched
      · exact (ih matched).trans (List.suffix_cons c s)
      · cases matched

theorem labelled_stops {label : String} (foreign : Foreign label.toList newline) (s rest : Str) :
    labelled label (s ++ newline :: rest) = (labelled label s).map (· ++ newline :: rest) := by
  have colon : Foreign [':'] newline := foreign_of (by decide)
  unfold labelled
  rw [pattern_stops foreign]
  cases dropPattern label.toList s with
  | none => rfl
  | some v => exact pattern_stops colon v rest

theorem labelled_suffix {label : String} {s rest : Str} (found : labelled label s = some rest) :
    rest <:+ s := by
  obtain ⟨v, word, colon⟩ := Option.bind_eq_some_iff.mp found
  exact (pattern_suffix colon).trans (pattern_suffix word)

theorem tag_stops (s rest : Str) :
    dropTag ["python"] (s ++ newline :: rest) = dropTag ["python"] s ++ newline :: rest := by
  have foreign : Foreign "python".toList newline := foreign_of (by decide)
  have one : ∀ t, dropTag ["python"] t = (dropPattern "python".toList t).getD t := by
    intro t
    unfold dropTag
    rw [List.findSome?_singleton]
  rw [one, one, pattern_stops foreign]
  cases dropPattern "python".toList s <;> rfl

theorem tag_suffix (tags : List String) (s : Str) : dropTag tags s <:+ s := by
  unfold dropTag
  cases matched : tags.findSome? fun tag => dropPattern tag.toList s with
  | none => exact List.suffix_refl s
  | some rest =>
    obtain ⟨tag, -, found⟩ := List.exists_of_findSome?_eq_some matched
    exact pattern_suffix found

theorem backtick_matched {c : CodePoint} (same : matchesLetter '`' c = true) : c = ofChar '`' := by
  have lower : '`'.toLower = '`' ∧ '`'.toUpper = '`' := by decide
  simpa [matchesLetter, lower.1, lower.2] using same

theorem fence_pattern {s rest : Str} (matched : dropPattern "```".toList s = some rest) :
    s = fence ++ rest := by
  have each : ∀ {letters : List Char} {t : Str}, (letters.all fun letter => letter = '`') = true →
      dropPattern letters t = some rest → t = letters.map ofChar ++ rest := by
    intro letters
    induction letters with
    | nil => exact fun _ done => Option.some.inj done
    | cons letter letters ih =>
      intro t all matched
      obtain ⟨here, later⟩ := Bool.and_eq_true_iff.mp all
      obtain rfl := of_decide_eq_true here
      cases t with
      | nil => cases matched
      | cons c t =>
        rw [dropPattern] at matched
        split at matched
        · rename_i same
          rw [backtick_matched same, ih later matched]
          rfl
        · cases matched
  exact each (by decide) matched

theorem lead_solid {v : Str} (solid : blank v = false) (rest : Str) :
    (v ++ rest).takeWhile isSpace = v.takeWhile isSpace := by
  rw [List.takeWhile_append, if_neg]
  intro whole
  have same := (List.takeWhile_prefix isSpace (l := v)).eq_of_length whole
  rw [List.takeWhile_eq_self_iff] at same
  rw [blank, List.all_eq_true.mpr same] at solid
  cases solid

theorem kept_solid {v : Str} (solid : blank v = false) (rest : Str) :
    (v ++ rest).dropWhile isSpace = v.dropWhile isSpace ++ rest := by
  rw [List.dropWhile_append, if_neg]
  intro empty
  rw [List.isEmpty_iff, List.dropWhile_eq_nil_iff] at empty
  rw [blank, List.all_eq_true.mpr empty] at solid
  cases solid

theorem blank_line {w : Str} (white : blank w = true) (rest : Str) :
    blockBody (w ++ newline :: rest) = lineBody rest := by
  have spaces : ∀ c ∈ w, isSpace c = true := List.all_eq_true.mp white
  have line : isSpace newline = true := by decide
  unfold blockBody lineBody
  rw [List.takeWhile_append_of_pos spaces, List.dropWhile_append_of_pos spaces,
    List.takeWhile_cons_of_pos line, List.dropWhile_cons_of_pos line]
  dsimp only
  rw [if_pos (by simp), rtakeWhile_stop (by simp)]

theorem solid_line {w : Str} (solid : blank w = false) (one : newline ∉ w) (rest : Str) :
    blockBody (w ++ newline :: rest) = none := by
  unfold blockBody
  dsimp only
  rw [lead_solid solid, if_neg fun inside => one ((List.takeWhile_prefix isSpace).subset inside)]

theorem kept_blank {v : Str} (white : blank v = true) (rest : Str) :
    (v ++ newline :: rest).dropWhile isSpace = rest.dropWhile isSpace ∧ v.dropWhile isSpace = [] := by
  have spaces : ∀ c ∈ v, isSpace c = true := List.all_eq_true.mp white
  have line : isSpace newline = true := by decide
  constructor
  · rw [List.dropWhile_append_of_pos spaces, List.dropWhile_cons_of_pos line]
  · exact List.dropWhile_eq_nil_iff.mpr spaces

theorem title_body {first : CodePoint} (title : Str) (solid : isSpace first = false)
    (absent : ¬ fence <:+: first :: title) (rest : Str) :
    lineBody (newline :: (first :: title ++ newline :: (fence ++ rest))) =
      some (first :: title ++ [newline]) := by
  have line : isSpace newline = true := by decide
  have nonempty : fence ≠ [] := by decide
  have last : [newline].rtakeWhile (fun c => c ≠ newline) = [] := by decide
  unfold lineBody
  rw [List.takeWhile_cons_of_pos line, List.dropWhile_cons_of_pos line, List.cons_append,
    List.takeWhile_cons_of_neg (by simp [solid]), List.dropWhile_cons_of_neg (by simp [solid]),
    last, List.nil_append, ← List.cons_append,
    cut_past nonempty (by decide) absent, cut_here nonempty]
  rfl

/-- A block that opens at the end of the explanation has the next label for its body. -/
theorem explanation_start {label : String} (foreign : Foreign label.toList newline) {u : Str}
    (one : newline ∉ u) (rest : Str) :
    blockAt label (u ++ newline :: newline :: (str "PATCHED_FILE:" ++ newline :: (fence ++ rest))) =
      bif (openedBlock label u).any blank then some (str "PATCHED_FILE:" ++ [newline]) else none := by
  have body := title_body (str "ATCHED_FILE:") (by decide : isSpace (ofChar 'P') = false) (by decide) rest
  unfold blockAt openedBlock
  rw [labelled_stops foreign]
  cases found : labelled label u with
  | none => rfl
  | some v =>
    simp only [Option.map_some, Option.bind_some]
    cases white : blank v with
    | true =>
      obtain ⟨past, empty⟩ := kept_blank white
        (newline :: (str "PATCHED_FILE:" ++ newline :: (fence ++ rest)))
      rw [past, empty]
      rfl
    | false =>
      rw [kept_solid white, pattern_stops (foreign_of (by decide))]
      cases matched : dropPattern "```".toList (v.dropWhile isSpace) with
      | none => rfl
      | some w =>
        have inner : newline ∉ dropTag ["python"] w := by
          have suffix := ((tag_suffix ["python"] w).trans (pattern_suffix matched)).trans
            ((List.dropWhile_suffix isSpace).trans (labelled_suffix found))
          exact fun inside => one (suffix.subset inside)
        simp only [Option.map_some, Option.bind_some, tag_stops, Option.any_some]
        cases ends : blank (dropTag ["python"] w) with
        | true =>
          rw [blank_line ends]
          exact body
        | false =>
          rw [solid_line ends inner]
          rfl

/-- A label at the end of the patched file takes the fence that closes its block for its own. -/
theorem patched_start {label : String} (foreign : Foreign label.toList newline) {u : Str}
    (absent : ¬ fence <:+: u) (rest : Str) :
    blockAt label (u ++ newline :: (fence ++
        newline :: newline :: (str "REGRESSION_TEST:" ++ newline :: (fence ++ rest)))) =
      bif (labelled label u).any blank then some (str "REGRESSION_TEST:" ++ [newline]) else none := by
  have body := title_body (str "EGRESSION_TEST:") (by decide : isSpace (ofChar 'R') = false)
    (by decide) rest
  unfold blockAt openedBlock
  rw [labelled_stops foreign]
  cases found : labelled label u with
  | none => rfl
  | some v =>
    simp only [Option.map_some, Option.bind_some, Option.any_some]
    cases white : blank v with
    | true =>
      rw [(kept_blank white _).1]
      exact (blank_line (w := []) rfl _).trans body
    | false =>
      rw [kept_solid white, pattern_stops (foreign_of (by decide))]
      cases matched : dropPattern "```".toList (v.dropWhile isSpace) with
      | none => rfl
      | some w =>
        have suffix := (List.dropWhile_suffix isSpace).trans (labelled_suffix found)
        rw [fence_pattern matched] at suffix
        exact absurd ((List.prefix_append fence w).isInfix.trans suffix.isInfix) absent

/-- Equal up to one final newline. -/
def UpToNewline (a b : Str) : Prop := a = b ∨ a = b ++ [newline] ∨ b = a ++ [newline]

/-- A text that its block shows as it is. -/
structure Plain (text : Str) : Prop where
  no_fence : ¬ fence <:+: text
  first_line : ∃ c ∈ text.takeWhile fun c => c ≠ newline, isSpace c = false

theorem first_line_iff (text : Str) :
    (∃ c ∈ text.takeWhile fun c => c ≠ newline, isSpace c = false) ↔
      newline ∉ text.takeWhile isSpace ∧ blank text = false := by
  induction text with
  | nil => simp [blank]
  | cons c text ih =>
    by_cases line : c = newline
    · subst line
      have space : isSpace newline = true := by decide
      rw [List.takeWhile_cons_of_neg (by simp), List.takeWhile_cons_of_pos space]
      simp
    · rw [List.takeWhile_cons_of_pos (by simpa using line)]
      cases space : isSpace c with
      | true =>
        rw [List.takeWhile_cons_of_pos space]
        simp only [List.mem_cons, exists_eq_or_imp, space, Bool.true_eq_false, false_or, ih,
          Ne.symm line, blank, List.all_cons, Bool.true_and]
      | false =>
        rw [List.takeWhile_cons_of_neg (by simp [space])]
        simp [space, blank]

theorem plain_shown {text : Str} (plain : Plain text) (rest : Str) :
    lineBody (text ++ newline :: (fence ++ rest)) = some (text ++ [newline]) := by
  obtain ⟨one, solid⟩ := (first_line_iff text).mp plain.first_line
  have nonempty : fence ≠ [] := by decide
  have all : (text.takeWhile isSpace).rtakeWhile (fun c => c ≠ newline) = text.takeWhile isSpace := by
    rw [List.rtakeWhile_eq_self_iff]
    intro c member
    rw [decide_eq_true_iff]
    rintro rfl
    exact one member
  unfold lineBody
  rw [lead_solid solid, kept_solid solid, all, ← List.append_assoc, List.takeWhile_append_dropWhile,
    cut_past nonempty (by decide) plain.no_fence, cut_here nonempty]
  rfl

theorem fence_shown (before rest : Str) :
    ∃ g, lineBody (before ++ fence ++ rest) = some g ∧ g.length ≤ before.length := by
  have solid : isSpace (ofChar '`') = false := by decide
  have text : before ++ fence ++ rest = before ++ ofChar '`' :: (str "``" ++ rest) := by
    rw [List.append_assoc]
    rfl
  have kept := (List.rtakeWhile_suffix (fun c => c ≠ newline) (before.takeWhile isSpace)).length_le
  have parts := congrArg List.length (List.takeWhile_append_dropWhile (p := isSpace) (l := before))
  rw [List.length_append] at parts
  have nonempty : fence ≠ [] := by decide
  let shown := (before.takeWhile isSpace).rtakeWhile (fun c => c ≠ newline) ++ before.dropWhile isSpace
  have place : shown ++ fence ++ rest = shown ++ fence ++ rest := rfl
  obtain ⟨first, last, found, short⟩ := cut_first nonempty shown place
  have length : shown.length = ((before.takeWhile isSpace).rtakeWhile fun c => c ≠ newline).length +
      (before.dropWhile isSpace).length := List.length_append
  refine ⟨first, ?_, by omega⟩
  unfold lineBody
  rw [text, takeWhile_stop solid, dropWhile_stop solid, ← List.append_assoc]
  rw [List.append_assoc] at found
  exact congrArg (Option.map Prod.fst) found

theorem blank_shown {text : Str} (white : blank text = true) (rest : Str) :
    lineBody (text ++ newline :: (fence ++ rest)) = some [] := by
  have solid : isSpace (ofChar '`') = false := by decide
  have spaces : ∀ c ∈ text ++ [newline], isSpace c = true := by
    intro c member
    rcases List.mem_append.mp member with inside | last
    · exact List.all_eq_true.mp white c inside
    · rw [List.mem_singleton.mp last]
      decide
  have turned : text ++ newline :: (fence ++ rest) =
      (text ++ [newline]) ++ ofChar '`' :: (str "``" ++ rest) := by
    rw [List.append_assoc]
    rfl
  unfold lineBody
  rw [turned, takeWhile_stop solid, dropWhile_stop solid, List.takeWhile_eq_self_iff.mpr spaces,
    List.dropWhile_eq_nil_iff.mpr spaces, rtakeWhile_stop (by simp), List.rtakeWhile_nil]
  have nonempty : fence ≠ [] := by decide
  exact congrArg (Option.map Prod.fst) (cut_here nonempty rest)

theorem lines_shown {text : Str} (absent : ¬ fence <:+: text) (solid : blank text = false)
    (lines : newline ∈ text.takeWhile isSpace) (rest : Str) :
    ∃ g, lineBody (text ++ newline :: (fence ++ rest)) = some g ∧ ¬ UpToNewline g text := by
  have nonempty : fence ≠ [] := by decide
  have tail : text.dropWhile isSpace ≠ [] := by
    intro empty
    rw [List.dropWhile_eq_nil_iff] at empty
    rw [blank, List.all_eq_true.mpr empty] at solid
    cases solid
  obtain ⟨d, ds, body⟩ := List.exists_cons_of_ne_nil tail
  have stays : isSpace d = false := by
    have first := List.head?_dropWhile_not isSpace text
    rw [body] at first
    simpa using first
  let last := (text.takeWhile isSpace).rtakeWhile fun c => c ≠ newline
  have suffix : last <:+ text.takeWhile isSpace := List.rtakeWhile_suffix _ _
  have split : text.takeWhile isSpace ++ d :: ds = text := by
    rw [← body, List.takeWhile_append_dropWhile]
  have inside : ¬ fence <:+: last ++ d :: ds := by
    intro fenced
    apply absent
    obtain ⟨front, whole⟩ := suffix
    rw [← split, ← whole, List.append_assoc]
    exact fenced.trans (List.suffix_append front _).isInfix
  have spaces : ∀ more, (last ++ d :: more).takeWhile isSpace = last := by
    intro more
    rw [takeWhile_stop stays, List.takeWhile_eq_self_iff]
    exact fun c member => List.mem_takeWhile_imp (suffix.subset member)
  have fewer : last ≠ text.takeWhile isSpace := by
    intro same
    have all := List.rtakeWhile_eq_self_iff.mp same newline lines
    simp at all
  refine ⟨last ++ d :: ds ++ [newline], ?_, ?_⟩
  · unfold lineBody
    rw [lead_solid solid, kept_solid solid, body, ← List.append_assoc, cut_past nonempty (by decide) inside,
      cut_here nonempty]
    rfl
  · rintro (same | same | same)
    · apply fewer
      rw [← same, List.append_assoc, List.cons_append, spaces]
    · apply fewer
      have leads := congrArg (List.takeWhile isSpace) same
      rwa [List.append_assoc, List.cons_append, spaces, lead_solid solid] at leads
    · apply fewer
      rw [same, List.append_assoc, List.append_assoc, List.cons_append, spaces]

theorem other_shown {text : Str} (other : ¬ Plain text) (rest : Str) :
    ∃ g, lineBody (text ++ newline :: (fence ++ rest)) = some g ∧ (g = [] ∨ ¬ UpToNewline g text) := by
  by_cases fenced : fence <:+: text
  · obtain ⟨before, after, rfl⟩ := fenced
    obtain ⟨g, shown, short⟩ := fence_shown before (after ++ newline :: (fence ++ rest))
    rw [← List.append_assoc] at shown
    refine ⟨g, shown, .inr ?_⟩
    have three : fence.length = 3 := rfl
    rintro (same | same | same)
    · have := congrArg List.length same
      simp only [List.length_append, three] at this
      omega
    · have := congrArg List.length same
      simp only [List.length_append, three] at this
      omega
    · have := congrArg List.length same
      simp only [List.length_append, three, List.length_singleton] at this
      omega
  · cases white : blank text with
    | true => exact ⟨[], blank_shown white rest, .inl rfl⟩
    | false =>
      have lines : newline ∈ text.takeWhile isSpace := by
        by_contra one
        exact other ⟨fenced, (first_line_iff text).mpr ⟨one, white⟩⟩
      obtain ⟨g, shown, differ⟩ := lines_shown fenced white lines rest
      exact ⟨g, shown, .inr differ⟩

theorem foreign_past {label : String} {letter : Char} {letters : List Char}
    (spelled : label.toList = letter :: letters) (front : Str)
    (differ : (front.all fun c => !matchesLetter letter c) = true) (rest : Str) :
    search (blockAt label) (front ++ rest) = search (blockAt label) rest := by
  apply search_past
  intro u suffix nonempty
  obtain ⟨c, u, rfl⟩ := List.exists_cons_of_ne_nil nonempty
  have here : matchesLetter letter c = false := by
    simpa using List.all_eq_true.mp differ c (suffix.subset List.mem_cons_self)
  simp [blockAt, openedBlock, labelled, spelled, dropPattern, here]

theorem patched_spelled : "PATCHED_FILE".toList = 'P' :: "ATCHED_FILE".toList := by decide

theorem regression_spelled : "REGRESSION_TEST".toList = 'R' :: "EGRESSION_TEST".toList := by decide

theorem patched_foreign : Foreign "PATCHED_FILE".toList newline := foreign_of (by decide)

theorem regression_foreign : Foreign "REGRESSION_TEST".toList newline := foreign_of (by decide)

/- What follows the text of a block's last fence and tag. -/
def testBlock (regression : Str) : Str :=
  str "python" ++ newline :: (regression ++ newline :: (fence ++ []))

def patchBlock (patched regression : Str) : Str :=
  str "python" ++ newline :: (patched ++ newline :: (fence ++ newline :: newline ::
    (str "REGRESSION_TEST:" ++ newline :: (fence ++ testBlock regression))))

theorem answer_blocks (explanation patched regression : Str) :
    answer explanation patched regression = str "EXPLANATION: " ++ (explanation ++ newline :: newline ::
      (str "PATCHED_FILE:" ++ newline :: (fence ++ patchBlock patched regression))) := by
  have first : str "\n\nPATCHED_FILE:\n```python\n" =
      [newline, newline] ++ str "PATCHED_FILE:" ++ [newline] ++ fence ++ str "python" ++ [newline] := rfl
  have second : str "\n```\n\nREGRESSION_TEST:\n```python\n" = [newline] ++ fence ++
      [newline, newline] ++ str "REGRESSION_TEST:" ++ [newline] ++ fence ++ str "python" ++ [newline] := rfl
  have third : str "\n```" = [newline] ++ fence := rfl
  simp [answer, patchBlock, testBlock, first, second, third]

theorem own_block (label : String) (title : Str)
    (titled : ∀ rest, openedBlock label (title ++ newline :: (fence ++ (str "python" ++ newline :: rest))) =
      some (newline :: rest)) (rest : Str) :
    blockAt label (title ++ newline :: (fence ++ (str "python" ++ newline :: rest))) = lineBody rest := by
  unfold blockAt
  rw [titled]
  exact blank_line (w := []) rfl rest

theorem patched_section {explanation : Str} (one : newline ∉ explanation) (patched regression : Str)
    {g : Str} (shown : lineBody (patched ++ newline :: (fence ++ newline :: newline ::
      (str "REGRESSION_TEST:" ++ newline :: (fence ++ testBlock regression)))) = some g) :
    fencedSection (answer explanation patched regression) "PATCHED_FILE" =
      some (bif endsOpening "PATCHED_FILE" explanation then str "PATCHED_FILE:\n" else g) := by
  have heading : ∀ rest, search (blockAt "PATCHED_FILE") (str "EXPLANATION: " ++ rest) =
      search (blockAt "PATCHED_FILE") rest := by
    intro rest
    have front : str "EXPLANATION: " ++ rest = str "EX" ++ (ofChar 'P' :: (str "LANATION: " ++ rest)) := rfl
    have middle : blockAt "PATCHED_FILE" (ofChar 'P' :: (str "LANATION: " ++ rest)) = none := rfl
    rw [front, foreign_past patched_spelled _ (by decide), search, middle, Option.none_or,
      foreign_past patched_spelled _ (by decide)]
  have lines : ∀ rest, search (blockAt "PATCHED_FILE") (newline :: newline :: rest) =
      search (blockAt "PATCHED_FILE") rest :=
    fun rest => foreign_past patched_spelled [newline, newline] (by decide) rest
  have own := (own_block "PATCHED_FILE" (str "PATCHED_FILE:") (fun _ => rfl) _).trans shown
  have starts : ∀ u, u <:+ explanation → u ≠ [] → _ := fun u suffix _ =>
    explanation_start patched_foreign (fun inside => one (suffix.subset inside)) (patchBlock patched regression)
  unfold fencedSection endsOpening
  rw [answer_blocks, heading, search_front starts rfl, lines, patchBlock, search_here own]
  cases explanation.tails.any fun u => (openedBlock "PATCHED_FILE" u).any blank <;> rfl

theorem regression_section {explanation : Str} (one : newline ∉ explanation) {patched : Str}
    (absent : ¬ fence <:+: patched) {regression g : Str}
    (shown : lineBody (regression ++ newline :: (fence ++ [])) = some g) :
    fencedSection (answer explanation patched regression) "REGRESSION_TEST" =
      some (bif endsOpening "REGRESSION_TEST" explanation then str "PATCHED_FILE:\n"
        else bif endsLabel "REGRESSION_TEST" patched then str "REGRESSION_TEST:\n" else g) := by
  have heading : ∀ rest, search (blockAt "REGRESSION_TEST") (str "EXPLANATION: " ++ rest) =
      search (blockAt "REGRESSION_TEST") rest :=
    fun rest => foreign_past regression_spelled _ (by decide) rest
  have patch_lines : ∀ rest, search (blockAt "REGRESSION_TEST") (newline :: newline ::
      (str "PATCHED_FILE:" ++ newline :: (fence ++ (str "python" ++ newline :: rest)))) =
        search (blockAt "REGRESSION_TEST") rest :=
    fun rest => foreign_past regression_spelled (str "\n\nPATCHED_FILE:\n```python\n")
      (by decide) rest
  have test_lines : ∀ rest, search (blockAt "REGRESSION_TEST") (newline :: (fence ++
      newline :: newline :: rest)) = search (blockAt "REGRESSION_TEST") rest :=
    fun rest => foreign_past regression_spelled (str "\n```\n\n") (by decide) rest
  have own := (own_block "REGRESSION_TEST" (str "REGRESSION_TEST:") (fun _ => rfl) _).trans
    shown
  have starts : ∀ u, u <:+ explanation → u ≠ [] → _ := fun u suffix _ =>
    explanation_start regression_foreign (fun inside => one (suffix.subset inside))
      (patchBlock patched regression)
  have labels : ∀ u, u <:+ patched → u ≠ [] → _ := fun u suffix _ =>
    patched_start regression_foreign (fun fenced => absent (fenced.trans suffix.isInfix))
      (testBlock regression)
  unfold fencedSection endsOpening endsLabel
  rw [answer_blocks, heading, search_front starts rfl, patchBlock, patch_lines,
    search_front labels rfl, test_lines, testBlock, search_here own]
  cases explanation.tails.any fun u => (openedBlock "REGRESSION_TEST" u).any blank with
  | true => rfl
  | false => cases patched.tails.any fun u => (labelled "REGRESSION_TEST" u).any blank <;> rfl

end AgentShield.WorkSwarm.Developer
