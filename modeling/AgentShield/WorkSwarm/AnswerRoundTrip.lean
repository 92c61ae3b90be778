import AgentShield.Lib.JsonBounds
import AgentShield.WorkSwarm.AnswerSections
import AgentShield.WorkSwarm.ReportRoundTrip

/-!
Which answers of the Developer come back as they were written. The format has no escaping:
both files come back when their blocks can be told from the rest of the answer, and
otherwise only when the explanation happens to carry both as JSON.
-/
namespace AgentShield.WorkSwarm.Developer
open CodePoints JsonText Workers

theorem fences_inside (fuel : Nat) (s : Str) : ∀ block ∈ fencesFrom fuel s, block <:+: s := by
  induction fuel generalizing s with
  | zero => exact List.forall_mem_nil _
  | succ fuel ih =>
    rw [fencesFrom]
    split
    · exact List.forall_mem_nil _
    · rename_i opened found
      have behind : opened.2 <:+ s := ⟨opened.1 ++ fence, (cut_split found).symm⟩
      have trimmed := ((List.dropWhile_suffix isSpace).trans
        (tag_suffix ["json", "python"] opened.2)).trans behind
      split
      · exact List.forall_mem_nil _
      · rename_i closed ends
        rw [cut_split ends] at trimmed
        rw [List.forall_mem_cons]
        constructor
        · rw [List.append_assoc] at trimmed
          exact (List.prefix_append closed.1 _).isInfix.trans trimmed.isInfix
        · intro block member
          have later := (List.suffix_append (closed.1 ++ fence) closed.2).trans trimmed
          exact (ih closed.2 block member).trans later.isInfix

theorem between_inside (p q : CodePoint → Bool) (s : Str) : (s.dropWhile p).rdropWhile q <:+: s :=
  (List.rdropWhile_prefix q _).isInfix.trans (List.dropWhile_suffix p).isInfix

/-- Neither end of a piece is white space. -/
def Trimmed (s : Str) : Prop :=
  (∃ d t, s = d :: t ∧ isSpace d = false) ∧ ∃ i e, s = i ++ [e] ∧ isSpace e = false

theorem candidates_pieces {raw c : Str} (candidate : c ∈ candidates raw) (nonempty : c ≠ []) :
    c <:+: raw ∧ Trimmed c := by
  rcases List.mem_append.mp candidate with fragment | whole
  · obtain ⟨block, listed, rfl⟩ := List.mem_map.mp fragment
    exact ⟨(between_inside isSpace isSpace block).trans (fences_inside _ raw block listed),
      edges_stop nonempty⟩
  · rcases List.mem_cons.mp whole with rfl | braces
    · exact ⟨between_inside isSpace isSpace raw, edges_stop nonempty⟩
    · unfold outermost at braces
      dsimp only at braces
      split at braces
      · cases braces
      · obtain rfl := List.mem_singleton.mp braces
        refine ⟨between_inside _ _ raw, ?_⟩
        obtain ⟨⟨d, t, front, first⟩, i, e, back, last⟩ := edges_stop nonempty
        obtain rfl : d = ofChar '{' := by simpa using first
        obtain rfl : e = ofChar '}' := by simpa using last
        exact ⟨⟨_, t, front, by decide⟩, i, _, back, by decide⟩

theorem loaded_line {limits : Limits} {s : Str} {v : Json} (loaded : loads limits s = .ok v)
    {d : CodePoint} (foreign : d ∉ tokenChars) (unquoted : d ≠ quote) : ¬ [newline, d] <:+: s := by
  rintro ⟨before, after, rfl⟩
  have run := loads_lexed loaded
  rw [List.append_assoc] at run
  rcases line_continues (by decide) run with token | quoted
  · exact foreign token
  · exact unquoted quoted

theorem within_text {front text c : Str} {d : CodePoint} {t : Str} (begins : c = d :: t)
    (absent : d ∉ front) (trimmed : Trimmed c) (inside : c <:+: front ++ (text ++ [newline])) :
    c <:+: text := by
  rw [begins] at inside
  have behind := infix_behind inside absent
  obtain ⟨-, i, e, ends, solid⟩ := trimmed
  have differ : e ≠ newline := by
    rintro rfl
    exact absurd solid (by decide)
  rw [← begins, ends] at behind
  rw [ends]
  exact infix_before behind differ

theorem solid_no_blank {d : CodePoint} (solid : isSpace d = false) : isBlank d = false := by
  have spaces : ((str " \t\n\r").all isSpace) = true := by decide
  rw [Bool.eq_false_iff]
  intro blank
  have listed : d ∈ str " \t\n\r" := by simpa [isBlank] using blank
  rw [List.all_eq_true.mp spaces d listed] at solid
  cases solid

theorem object_place {limits : Limits} {explanation patched regression c : Str} {payload : Entries}
    (candidate : c ∈ candidates (answer explanation patched regression))
    (loaded : loads limits c = .ok (.obj payload)) :
    c <:+: explanation ∨ c <:+: patched ∨ c <:+: regression := by
  have nonempty : c ≠ [] := by
    rintro rfl
    obtain ⟨depth, t, rest, opened, -⟩ := loads_object loaded
    cases opened
  obtain ⟨piece, trimmed⟩ := candidates_pieces candidate nonempty
  obtain ⟨d, t, begins, solid⟩ := trimmed.1
  obtain rfl : d = ofChar '{' := by
    obtain ⟨depth, u, rest, opened, -⟩ := loads_object loaded
    rw [begins, skip_solid (solid_no_blank solid)] at opened
    exact (List.cons.inj opened).1
  have line : ∀ d, d ∉ tokenChars → d ≠ quote → ¬ [newline, d] <:+: c :=
    fun d foreign unquoted => loaded_line loaded foreign unquoted
  have whole : answer explanation patched regression =
      (str "EXPLANATION: " ++ (explanation ++ [newline])) ++ newline :: ofChar 'P' ::
        (str "ATCHED_FILE:" ++ newline :: (fence ++ patchBlock patched regression)) := by
    rw [answer_blocks]
    simp [str]
  have break_ : ofChar '\n' = newline := rfl
  have patch : ofChar 'P' :: (str "ATCHED_FILE:" ++ newline :: (fence ++ patchBlock patched regression)) =
      (str "PATCHED_FILE:\n```python\n" ++ patched) ++ newline :: ofChar '`' ::
        (str "``\n\nREGRESSION_TEST:\n```python\n" ++ (regression ++ newline :: fence)) := by
    simp [patchBlock, testBlock, str, fence, break_]
  have test : ofChar '`' :: (str "``\n\nREGRESSION_TEST:\n```python\n" ++ (regression ++ newline :: fence)) =
      (str "```\n\nREGRESSION_TEST:\n```python\n" ++ regression) ++ newline :: ofChar '`' :: str "``" := by
    simp [str, fence]
  rw [whole] at piece
  rcases infix_sides piece (line (ofChar 'P') (by decide) (by decide)) with before | behind
  · left
    rw [List.append_assoc] at before
    have inside := within_text begins (by decide) trimmed before
    have framed : c <:+: [] ++ (explanation ++ [newline]) := inside
    exact within_text begins (by simp) trimmed framed
  · right
    rw [patch] at behind
    rcases infix_sides behind (line (ofChar '`') (by decide) (by decide)) with before | behind
    · left
      rw [List.append_assoc] at before
      exact within_text begins (by decide) trimmed before
    · right
      rw [test] at behind
      rcases infix_sides behind (line (ofChar '`') (by decide) (by decide)) with before | last
      · rw [List.append_assoc] at before
        exact within_text begins (by decide) trimmed before
      · have fenced : c <:+: fence ++ [] := last
        rw [begins] at fenced
        have nothing := infix_behind fenced (by decide)
        cases List.infix_nil.mp nothing

/-- The payload says the text, as the code asks of it. -/
def Yields (payload : Entries) (key : String) (text : Str) : Prop :=
  ∃ v, required payload key = .ok v ∧ UpToNewline v text

theorem yields_outside {limits : Limits} {c text : Str} {payload : Entries} {key : String}
    (loaded : loads limits c = .ok (.obj payload)) (said : Yields payload key text) :
    ¬ c <:+: text := by
  intro inside
  obtain ⟨v, present, same⟩ := said
  have member : (str key, Json.str v) ∈ payload := by
    unfold required at present
    split at present
    · rename_i w found
      split at present
      · cases present
      · obtain rfl := Except.ok.inj present
        obtain ⟨before, after, split, -⟩ := List.lookup_eq_some_iff.mp found
        rw [split]
        simp
    · cases present
  have longer : v.length + 3 < c.length := loaded_fits loaded _ member
  have shorter := inside.length_le
  rcases same with rfl | rfl | rfl
  · omega
  · rw [List.length_append, List.length_singleton] at longer
    omega
  · rw [List.length_append, List.length_singleton] at shorter
    omega

/-- No block can be told apart, and the first candidate that is a JSON object stands in the
    explanation and says both texts. -/
def CarriedBy (limits : Limits) (explanation patched regression : Str) : Prop :=
  (fencedSection (answer explanation patched regression) "PATCHED_FILE" = some [] ∨
      fencedSection (answer explanation patched regression) "REGRESSION_TEST" = some []) ∧
    ∃ before c others payload,
      candidates (answer explanation patched regression) = before ++ c :: others ∧
        (∀ fragment ∈ before, PassedOver limits fragment) ∧ c <:+: explanation ∧
        loads limits c = .ok (.obj payload) ∧ Yields payload "patched_source" patched ∧
        Yields payload "regression_test" regression

/-- The blocks of the answer show both texts: no block opens or closes early, and none begins
    with a blank line; or the label that stands in a text's place is the text. -/
structure Readable (explanation patched regression : Str) : Prop where
  patched_shown :
    if endsOpening "PATCHED_FILE" explanation then UpToNewline (str "PATCHED_FILE:\n") patched
    else Plain patched
  regression_shown :
    if endsOpening "REGRESSION_TEST" explanation then
      UpToNewline (str "PATCHED_FILE:\n") regression
    else if endsLabel "REGRESSION_TEST" patched then
      UpToNewline (str "REGRESSION_TEST:\n") regression
    else Plain regression

theorem block_iff (text rest : Str) :
    ∃ g, lineBody (text ++ newline :: (fence ++ rest)) = some g ∧
      (g ≠ [] ∧ UpToNewline g text ↔ Plain text) := by
  by_cases plain : Plain text
  · exact ⟨_, plain_shown plain rest, fun _ => plain, fun _ => ⟨by simp, .inr (.inl rfl)⟩⟩
  · obtain ⟨g, shown, empty | differ⟩ := other_shown plain rest
    · exact ⟨g, shown, iff_of_false (fun both => both.1 empty) plain⟩
    · exact ⟨g, shown, iff_of_false (fun both => differ both.2) plain⟩

theorem title_unfenced {title text : Str} (absent : ¬ fence <:+: title ++ [newline])
    (same : UpToNewline title text) : ¬ fence <:+: text := by
  intro fenced
  apply absent
  rcases same with rfl | rfl | rfl
  · exact fenced.trans (List.prefix_append _ _).isInfix
  · exact fenced.trans ((List.prefix_append _ _).trans (List.prefix_append _ _)).isInfix
  · exact fenced

theorem readable_unfenced {explanation patched : Str}
    (shown : if endsOpening "PATCHED_FILE" explanation then UpToNewline (str "PATCHED_FILE:\n") patched
      else Plain patched) : ¬ fence <:+: patched := by
  split at shown
  · exact title_unfenced (by decide) shown
  · exact shown.no_fence

theorem title_iff {title : Str} (nonempty : title ≠ []) (text : Str) :
    title ≠ [] ∧ UpToNewline title text ↔ UpToNewline title text :=
  ⟨And.right, fun same => ⟨nonempty, same⟩⟩

theorem sections_read {explanation : Str} (one : newline ∉ explanation) (patched regression : Str) :
    ∃ p t, fencedSection (answer explanation patched regression) "PATCHED_FILE" = some p ∧
      fencedSection (answer explanation patched regression) "REGRESSION_TEST" = some t ∧
      ((p ≠ [] ∧ UpToNewline p patched) ∧ (t ≠ [] ∧ UpToNewline t regression) ↔
        Readable explanation patched regression) := by
  obtain ⟨g, patch_shown, patch_iff⟩ := block_iff patched (newline :: newline ::
    (str "REGRESSION_TEST:" ++ newline :: (fence ++ testBlock regression)))
  obtain ⟨h, test_shown, test_iff⟩ := block_iff regression []
  have titles : str "PATCHED_FILE:\n" ≠ [] ∧ str "REGRESSION_TEST:\n" ≠ [] := by decide
  have patch := patched_section one patched regression patch_shown
  have patch_worth : ∀ p, some p = some (bif endsOpening "PATCHED_FILE" explanation then
      str "PATCHED_FILE:\n" else g) → (p ≠ [] ∧ UpToNewline p patched ↔
        if endsOpening "PATCHED_FILE" explanation then UpToNewline (str "PATCHED_FILE:\n") patched
        else Plain patched) := by
    intro p same
    rw [Option.some.inj same]
    cases endsOpening "PATCHED_FILE" explanation with
    | true => exact title_iff titles.1 patched
    | false => exact patch_iff
  by_cases fenced : fence <:+: patched
  · have own := (own_block "REGRESSION_TEST" (str "REGRESSION_TEST:") (fun _ => rfl) _).trans test_shown
    have there : (search (blockAt "REGRESSION_TEST")
        (str "REGRESSION_TEST:" ++ newline :: (fence ++ testBlock regression))).isSome := by
      rw [testBlock, search_here own]
      rfl
    have reached := search_reaches there (str "EXPLANATION: " ++ explanation ++
      str "\n\nPATCHED_FILE:\n```python\n" ++ patched ++ str "\n```\n\n")
    obtain ⟨t, test⟩ := Option.isSome_iff_exists.mp reached
    have break_ : ofChar '\n' = newline := rfl
    have whole : answer explanation patched regression = str "EXPLANATION: " ++ explanation ++
        str "\n\nPATCHED_FILE:\n```python\n" ++ patched ++ str "\n```\n\n" ++
          (str "REGRESSION_TEST:" ++ newline :: (fence ++ testBlock regression)) := by
      simp [answer, testBlock, str, fence, break_]
    refine ⟨_, t, patch, ?_, ?_⟩
    · unfold fencedSection
      rw [whole]
      exact test
    · exact iff_of_false (fun both => readable_unfenced ((patch_worth _ rfl).mp both.1) fenced)
        fun readable => readable_unfenced readable.patched_shown fenced
  · refine ⟨_, _, patch, regression_section one fenced test_shown, ?_⟩
    rw [patch_worth _ rfl]
    have test_worth : ∀ t, some t = some (bif endsOpening "REGRESSION_TEST" explanation then
        str "PATCHED_FILE:\n" else bif endsLabel "REGRESSION_TEST" patched then
          str "REGRESSION_TEST:\n" else h) → (t ≠ [] ∧ UpToNewline t regression ↔
            if endsOpening "REGRESSION_TEST" explanation then
              UpToNewline (str "PATCHED_FILE:\n") regression
            else if endsLabel "REGRESSION_TEST" patched then
              UpToNewline (str "REGRESSION_TEST:\n") regression
            else Plain regression) := by
      intro t same
      rw [Option.some.inj same]
      cases endsOpening "REGRESSION_TEST" explanation with
      | true => exact title_iff titles.1 regression
      | false =>
        cases endsLabel "REGRESSION_TEST" patched with
        | true => exact title_iff titles.2 regression
        | false => exact test_iff
    rw [test_worth _ rfl]
    exact ⟨fun both => ⟨both.1, both.2⟩, fun readable => ⟨readable.1, readable.2⟩⟩

theorem asPatch_text (py : Builtins) (limits : Limits) (text : Str) :
    asPatch py limits (produced text) = match fromFences (.str text) with
      | some patch => .ok patch
      | none => match firstObject limits (candidates text) with
        | .error e => .error (.loading e)
        | .ok payload => fromJson py (.str text) payload := rfl

theorem read_fences (py : Builtins) (limits : Limits) {text p t : Str}
    (patch : fencedSection text "PATCHED_FILE" = some p)
    (test : fencedSection text "REGRESSION_TEST" = some t) (nonempty : p ≠ [] ∧ t ≠ []) :
    ∃ explanation, asPatch py limits (produced text) = .ok ⟨p, t, explanation⟩ := by
  have fences : fromFences (.str text) =
      some ⟨p, t, ((search explanationAt text).map strip).getD defaultExplanation⟩ := by
    simp only [fromFences, patch, test, if_pos nonempty]
  rw [asPatch_text, fences]
  exact ⟨_, rfl⟩

/-- Where a section is empty the answer is read as JSON. -/
theorem read_json (py : Builtins) (limits : Limits) {text p t : Str}
    (patch : fencedSection text "PATCHED_FILE" = some p)
    (test : fencedSection text "REGRESSION_TEST" = some t) (empty : ¬ (p ≠ [] ∧ t ≠ [])) :
    asPatch py limits (produced text) = match firstObject limits (candidates text) with
      | .error e => .error (.loading e)
      | .ok payload => fromJson py (.str text) payload := by
  have fences : fromFences (.str text) = none := by
    simp only [fromFences, patch, test, if_neg empty]
  rw [asPatch_text, fences]

theorem json_patch {py : Builtins} {text : Json} {payload : Option Entries} {patch : Patch}
    (read : fromJson py text payload = .ok patch) :
    ∃ entries, payload = some entries ∧ required entries "patched_source" = .ok patch.patchedSource ∧
      required entries "regression_test" = .ok patch.regressionTest := by
  cases payload with
  | none =>
    unfold fromJson at read
    dsimp only at read
    split at read <;> split at read <;> cases read
  | some entries =>
    obtain ⟨p, patched, read⟩ := bind_ok read
    obtain ⟨t, regression, same⟩ := bind_ok read
    obtain rfl := Except.ok.inj same
    exact ⟨entries, rfl, patched, regression⟩

/-- An answer comes back as it was written exactly when its blocks show both texts, or when a
    block shows nothing and the explanation carries both. -/
theorem answer_reads_back_iff (py : Builtins) (limits : Limits) {explanation : Str}
    (one_line : newline ∉ explanation) (patched regression : Str) :
    (∃ patch, asPatch py limits (produced (answer explanation patched regression)) = .ok patch ∧
        UpToNewline patch.patchedSource patched ∧ UpToNewline patch.regressionTest regression) ↔
      Readable explanation patched regression ∨ CarriedBy limits explanation patched regression := by
  obtain ⟨p, t, patch_read, test_read, worth⟩ := sections_read one_line patched regression
  by_cases shown : p ≠ [] ∧ t ≠ []
  · obtain ⟨told, read⟩ := read_fences py limits patch_read test_read shown
    rw [read]
    constructor
    · rintro ⟨patch, same, first, second⟩
      obtain rfl := Except.ok.inj same
      exact .inl (worth.mp ⟨⟨shown.1, first⟩, shown.2, second⟩)
    · rintro (readable | ⟨empty, -⟩)
      · obtain ⟨first, second⟩ := worth.mpr readable
        exact ⟨_, rfl, first.2, second.2⟩
      · rw [patch_read, test_read, Option.some.injEq, Option.some.injEq] at empty
        rcases empty with nothing | nothing
        · exact absurd nothing shown.1
        · exact absurd nothing shown.2
  · rw [read_json py limits patch_read test_read shown]
    constructor
    · rintro ⟨patch, read, first, second⟩
      right
      split at read
      · cases read
      · rename_i payload found
        obtain ⟨entries, rfl, patched_said, regression_said⟩ := json_patch read
        obtain ⟨before, c, others, listed, passed, loaded⟩ := firstObject_iff.mp found
        have says_patch : Yields entries "patched_source" patched := ⟨_, patched_said, first⟩
        have says_test : Yields entries "regression_test" regression := ⟨_, regression_said, second⟩
        have candidate : c ∈ candidates (answer explanation patched regression) := by
          rw [listed]
          simp
        have place : c <:+: explanation := by
          rcases object_place candidate loaded with here | inside | inside
          · exact here
          · exact absurd inside (yields_outside loaded says_patch)
          · exact absurd inside (yields_outside loaded says_test)
        refine ⟨?_, before, c, others, entries, listed, passed, place, loaded, says_patch, says_test⟩
        rw [patch_read, test_read, Option.some.injEq, Option.some.injEq]
        by_cases nothing : p = []
        · exact .inl nothing
        · exact .inr (not_not.mp fun more => shown ⟨nothing, more⟩)
    · rintro (readable | ⟨-, before, c, others, payload, listed, passed, -, loaded, ⟨v, first⟩, ⟨w, second⟩⟩)
      · obtain ⟨first, second⟩ := worth.mpr readable
        exact absurd ⟨first.1, second.1⟩ shown
      · have found := firstObject_iff.mpr ⟨before, c, others, listed, passed, loaded⟩
        rw [found]
        refine ⟨⟨v, w, py.str (py.get payload "explanation" (.str defaultExplanation))⟩, ?_, first.2,
          second.2⟩
        simp only [fromJson, first.1, second.1, bind, Except.bind]

/-- An ordinary answer does come back. -/
theorem plain_answer_read :
    ∃ patch, asPatch ⟨fun _ => [], fun _ => false⟩ ⟨4300, 1000, by decide⟩
        (produced (answer (str "Checks expiry.") (str "x = 1") (str "assert x"))) = .ok patch ∧
      UpToNewline patch.patchedSource (str "x = 1") ∧
      UpToNewline patch.regressionTest (str "assert x") := by
  have readable : Readable (str "Checks expiry.") (str "x = 1") (str "assert x") := by
    have patched : Plain (str "x = 1") := ⟨by decide, ofChar 'x', by decide, by decide⟩
    have regression : Plain (str "assert x") := ⟨by decide, ofChar 'a', by decide, by decide⟩
    constructor
    · rw [if_neg (by decide)]
      exact patched
    · rw [if_neg (by decide), if_neg (by decide)]
      exact regression
  exact (answer_reads_back_iff ⟨fun _ => [], fun _ => false⟩ ⟨4300, 1000, by decide⟩ (by decide)
    (str "x = 1") (str "assert x")).mpr (.inl readable)

def fencing : Str := str "def f():\n    return '```'"

/-- A patched file that writes a fence is cut off at it, without an error. -/
theorem fencing_cut :
    newline ∉ str "Checks expiry." ∧
      asPatch ⟨fun _ => [], fun _ => false⟩ ⟨4300, 1000, by decide⟩
          (produced (answer (str "Checks expiry.") fencing (str "assert f()"))) =
        .ok ⟨str "def f():\n    return '", str "assert f()\n", str "Checks expiry."⟩ ∧
      ¬ UpToNewline (str "def f():\n    return '") fencing := by
  refine ⟨by decide, by decide, ?_⟩
  unfold UpToNewline
  decide

end AgentShield.WorkSwarm.Developer
