import AgentShield.WorkSwarm.ReportText

/-!
Reports come back as they were dumped, unless a fenced block inside the dumped text is read
in their place. The scanner takes the text of such a block for structure and the structure
for text: an object it reads has no key a report has.
-/
namespace AgentShield.WorkSwarm.Workers
open CodePoints JsonText Keyed

def flip : Mode → Mode
  | .outside => .inside
  | .inside => .outside
  | .escaped => .escaped

/-- The scanner's structure is the report's text and the other way round. -/
theorem takes_flipped {m n : Mode} {s rest : Str} (takes : Takes m s n rest) (sound : m ≠ .escaped)
    (written : Written (flip m) s) : n ≠ .escaped ∧ Written (flip n) rest := by
  obtain ⟨p, rfl, run⟩ := takes
  induction p generalizing m with
  | nil =>
    obtain rfl := Option.some.inj run
    exact ⟨sound, written⟩
  | cons c p ih =>
    unfold lex at run
    rw [List.foldlM_cons] at run
    obtain ⟨k, step, run⟩ := Option.bind_eq_some_iff.mp run
    cases m with
    | escaped => exact absurd rfl sound
    | outside =>
      rw [Mode.step] at step
      split at step
      · rename_i closing
        obtain rfl := Option.some.inj step
        rw [closing] at written
        exact ih (by decide) run written
      · rename_i unquoted
        split at step
        · rename_i token
          obtain rfl := Option.some.inj step
          have plain : c ≠ backslash := by
            rintro rfl
            exact absurd token (by decide)
          exact ih (by decide) run ((written_text unquoted plain _).mp written)
        · cases step
    | inside =>
      rw [Mode.step] at step
      split at step
      · rename_i opening
        obtain rfl := Option.some.inj step
        rw [opening] at written
        exact ih (by decide) run written
      · rename_i unquoted
        obtain ⟨gap, later⟩ := written_gap written unquoted
        have plain : c ≠ backslash := by
          rintro rfl
          exact absurd gap (by decide)
        rw [if_neg plain] at step
        split at step
        · cases step
        · obtain rfl := Option.some.inj step
          exact ih (by decide) run later

/- A key that is no word: made of what stands between the strings of a report. -/
def Gap (key : Str) : Prop := key ⊆ gapChars

theorem units_gap {s rest : Str} {units : List Piece} (written : Written .outside s)
    (read : scanUnits .between s = .ok (units, rest)) :
    ∀ u ∈ units, u.code ∈ gapChars ∧ u.numbered = false := by
  induction s generalizing units with
  | nil => cases read
  | cons c s ih =>
    rw [scanUnits] at read
    split at read
    · obtain ⟨rfl, -⟩ := Prod.mk.inj (Except.ok.inj read)
      exact fun u absent => by cases absent
    · rename_i unquoted
      obtain ⟨gap, later⟩ := written_gap written unquoted
      have plain : c ≠ backslash := by
        rintro rfl
        exact absurd gap (by decide)
      rw [if_neg plain] at read
      split at read
      · cases read
      · obtain ⟨left, following, same⟩ := map_ok read
        obtain ⟨rfl, rfl⟩ := Prod.mk.inj same
        intro u member
        rcases List.mem_cons.mp member with rfl | inside
        · exact ⟨gap, rfl⟩
        · exact ih later following u inside

theorem join_unnumbered {units : List Piece} (plain : ∀ u ∈ units, u.numbered = false) :
    join units = units.map Piece.code := by
  induction units using join.induct with
  | case1 => rfl
  | case2 u => rfl
  | case3 u v rest pair ih =>
    rw [plain u List.mem_cons_self] at pair
    cases pair.1
  | case4 u v rest apart ih =>
    rw [join, if_neg apart, ih fun w member => plain w (List.mem_cons_of_mem u member)]
    rfl

theorem string_gap {s rest x : Str} (written : Written .outside s)
    (read : scanString s = .ok (x, rest)) : Gap x := by
  obtain ⟨⟨units, left⟩, units_read, same⟩ := map_ok read
  obtain ⟨rfl, -⟩ := Prod.mk.inj same
  have gaps := units_gap written units_read
  rw [join_unnumbered fun u member => (gaps u member).2]
  intro c member
  obtain ⟨u, listed, rfl⟩ := List.mem_map.mp member
  exact (gaps u listed).1

def GapKeys (entries : Entries) : Prop := ∀ key ∈ entries.map Prod.fst, Gap key

theorem entries_gap {scan : Scan} (consumes : ∀ s v rest, scan s = .ok (v, rest) → Consumes s rest)
    {fuel : Nat} {s rest : Str} {entries result : Entries} (gaps : GapKeys entries)
    (written : Written .outside s)
    (read : scanEntries scan fuel s entries = .ok (result, rest)) : GapKeys result := by
  induction fuel generalizing s entries with
  | zero => cases read
  | succ fuel ih =>
    obtain ⟨member, left, member_read, next⟩ := entries_turn read
    obtain ⟨after_key, value_text, key_read, -, -⟩ := member_turn member_read
    have key_gap := string_gap written key_read
    have more : GapKeys (replaceOrAppend Prod.fst member entries) := by
      intro key listed
      rcases replaced_key_member.mp listed with rfl | old
      · exact key_gap
      · exact gaps key old
    rcases next with ⟨-, rfl⟩ | ⟨comma, next, separated, opened, read⟩
    · exact more
    · have past := member_takes consumes member_read
      have key := (past.trans (takes_past separated (by decide))).trans (takes_skip comma)
      rw [opened] at key
      have takes := key.trans (.one quote_step next)
      exact ih more (takes_flipped takes (by decide) written).2 read

theorem object_gap {scan : Scan} (consumes : ∀ s v rest, scan s = .ok (v, rest) → Consumes s rest)
    {s rest : Str} {entries : Entries} (written : Written .inside s)
    (read : scanObject scan s = .ok (.obj entries, rest)) : GapKeys entries := by
  have white := (takes_flipped (takes_skip s) (by decide) written).2
  unfold scanObject at read
  split at read
  · cases read
  · rename_i d left stands
    rw [stands] at white
    split at read
    · obtain ⟨same, -⟩ := Prod.mk.inj (Except.ok.inj read)
      obtain rfl := Json.obj.inj same
      exact fun key absent => by cases absent
    · split at read
      · rename_i opened
        obtain ⟨found, entries_read, same⟩ := map_ok read
        obtain rfl := Json.obj.inj (Prod.mk.inj same).1
        rw [opened] at white
        exact entries_gap consumes (fun key absent => by cases absent) white entries_read
      · cases read

theorem loaded_gap {limits : Limits} {s : Str} {entries : Entries} (written : Written .inside s)
    (loaded : loads limits s = .ok (.obj entries)) : GapKeys entries := by
  obtain ⟨depth, t, rest, opened, object⟩ := loads_object loaded
  have text := (takes_flipped (takes_skip s) (by decide) written).2
  rw [opened] at text
  exact object_gap (fun _ _ _ => once_consumed) ((written_text (by decide) (by decide) t).mp text) object

theorem gap_normalized (py : Builtins) {entries : Entries} (gaps : GapKeys entries) :
    normalize py entries = ⟨[], [], []⟩ := by
  have absent : ∀ key : Str, ¬ Gap key → entries.lookup key = none := by
    intro key word
    rw [List.lookup_eq_none_iff]
    intro entry member
    rw [bne_iff_ne]
    rintro rfl
    exact word (gaps entry.1 (List.mem_map_of_mem member))
  have analysis := absent (str "analysis") (by unfold Gap; decide)
  have requested := absent (str "requested_files") (by unfold Gap; decide)
  have recommended := absent (str "recommendations") (by unfold Gap; decide)
  simp only [normalize, Builtins.get, analysis, requested, recommended]
  rfl

def joinedReport (r : Report) : Report :=
  ⟨joined r.analysis, r.requestedFiles.map joined, r.recommendations.map joined⟩

def members (r : Report) : List JsonText.Member :=
  [⟨str "analysis", dumpsString r.analysis, .str (joined r.analysis)⟩,
    ⟨str "requested_files", dumpsList (r.requestedFiles.map dumpsString),
      .arr (r.requestedFiles.map fun x => .str (joined x))⟩,
    ⟨str "recommendations", dumpsList (r.recommendations.map dumpsString),
      .arr (r.recommendations.map fun x => .str (joined x))⟩]

theorem strings_read (limits : Limits) (depth : Nat) (items : List Str) :
    Reads (scanOnce limits (depth + 1)) (dumpsList (items.map dumpsString))
      (.arr (items.map fun x => .str (joined x))) := by
  apply list_reads
  rw [List.forall₂_map_left_iff, List.forall₂_map_right_iff]
  exact List.forall₂_same.mpr fun x _ => dumpsString_reads limits depth x

theorem whole_loads (limits : Limits) (r : Report) :
    loads limits (dumps r) = .ok (.obj (entered (members r) [])) := by
  obtain ⟨depth, room⟩ : ∃ depth, limits.nesting = depth + 2 :=
    ⟨limits.nesting - 2, by have := limits.room; omega⟩
  have reads : Reads (scanOnce limits limits.nesting) (dumps r) (.obj (entered (members r) [])) := by
    rw [room]
    have each : ∀ m ∈ members r, Reads (scanOnce limits (depth + 1)) m.text m.value := by
      intro m member
      simp only [members, List.mem_cons, List.not_mem_nil, or_false] at member
      rcases member with rfl | rfl | rfl
      · exact dumpsString_reads limits _ r.analysis
      · exact strings_read limits depth r.requestedFiles
      · exact strings_read limits depth r.recommendations
    exact object_reads each
  have front : (dumps r).head? = some (ofChar '{') := rfl
  exact loads_read reads (by rw [front]; decide)

theorem get_string (py : Builtins) {payload : Entries} {key : String} {x : Str}
    (found : payload.lookup (str key) = some (.str x)) : py.str (py.get payload key (.str [])) = x := by
  unfold Builtins.get
  rw [found]
  cases x <;> rfl

theorem get_list (py : Builtins) {payload : Entries} {key : String} {items : List Str}
    (found : payload.lookup (str key) = some (.arr (items.map .str))) :
    py.list (py.get payload key (.arr [])) = items := by
  have strings : (items.map Json.str).map py.str = items := by
    rw [List.map_map]
    exact List.map_id items
  unfold Builtins.get
  rw [found]
  cases items with
  | nil => rfl
  | cons x items => exact strings

theorem keys_kept :
    ([str "analysis", str "requested_files", str "recommendations"] : List Str).Nodup ∧
      ([str "analysis", str "requested_files", str "recommendations"].all fun key =>
        joined key = key) = true := by
  decide

theorem whole_normalized (py : Builtins) (r : Report) :
    normalize py (entered (members r) []) = joinedReport r := by
  have distinct : (((members r).map JsonText.Member.read).map Prod.fst).Nodup := keys_kept.1
  have kept : ∀ m ∈ members r, joined m.key = m.key := by
    intro m member
    have listed : m.key ∈ (members r).map JsonText.Member.key := List.mem_map_of_mem member
    exact of_decide_eq_true (List.all_eq_true.mp keys_kept.2 m.key listed)
  have found : ∀ m ∈ members r, (entered (members r) []).lookup m.key = some m.value := by
    intro m member
    rw [entered_distinct kept distinct]
    exact lookup_distinct distinct (List.mem_map_of_mem member)
  have strings : ∀ items : List Str,
      items.map (fun x => Json.str (joined x)) = (items.map joined).map .str :=
    fun items => List.map_map.symm
  have analysis := found _ List.mem_cons_self
  have requested := found _ (List.mem_cons_of_mem _ List.mem_cons_self)
  have recommended := found _ (List.mem_cons_of_mem _ (List.mem_cons_of_mem _ List.mem_cons_self))
  rw [strings] at requested recommended
  rw [normalize, get_string py analysis, get_list py requested, get_list py recommended]
  rfl

theorem dumps_stripped (r : Report) : strip (dumps r) = dumps r := by
  have ends : dumps r = ofChar '{' :: (str ", ").intercalate
      ([(str "analysis", dumpsString r.analysis),
        (str "requested_files", dumpsList (r.requestedFiles.map dumpsString)),
        (str "recommendations", dumpsList (r.recommendations.map dumpsString))].map dumpsMember) ++
      [ofChar '}'] := rfl
  rw [ends]
  exact strip_solid (by decide) (by decide) _

/-- A fragment that the extractor passes over: empty, no JSON, or no object. -/
def PassedOver (limits : Limits) (fragment : Str) : Prop :=
  fragment = [] ∨ loads limits fragment = .error .decode ∨
    ∃ v, loads limits fragment = .ok v ∧ v.isObject = false

theorem passed_over {limits : Limits} {fragment : Str} (passed : PassedOver limits fragment)
    (others : List Str) :
    firstObject limits (fragment :: others) = firstObject limits others := by
  rw [firstObject]
  split
  · rfl
  · rename_i nonempty
    rcases passed with empty | failed | ⟨v, loaded, other⟩
    · exact absurd empty nonempty
    · rw [failed]
    · rw [loaded]
      cases v <;> first | rfl | cases other

/-- The object that is found is the first candidate that is not passed over. -/
theorem firstObject_iff {limits : Limits} {fragments : List Str} {payload : Entries} :
    firstObject limits fragments = .ok (some payload) ↔
      ∃ before fragment others, fragments = before ++ fragment :: others ∧
        (∀ earlier ∈ before, PassedOver limits earlier) ∧
          loads limits fragment = .ok (.obj payload) := by
  constructor
  · intro found
    induction fragments with
    | nil => cases found
    | cons fragment fragments ih =>
      by_cases passed : PassedOver limits fragment
      · rw [passed_over passed] at found
        obtain ⟨before, object, others, rfl, all, loaded⟩ := ih found
        exact ⟨fragment :: before, object, others, rfl, List.forall_mem_cons.mpr ⟨passed, all⟩, loaded⟩
      · have nonempty : fragment ≠ [] := fun empty => passed (.inl empty)
        rw [firstObject, if_neg nonempty] at found
        refine ⟨[], fragment, fragments, rfl, List.forall_mem_nil _, ?_⟩
        cases loaded : loads limits fragment with
        | error e =>
          rw [loaded] at found
          cases e with
          | decode => exact absurd (.inr (.inl loaded)) passed
          | digits => cases found
          | recursion => cases found
        | ok v =>
          cases v with
          | obj entries =>
            rw [loaded] at found
            obtain rfl := Option.some.inj (Except.ok.inj found)
            rfl
          | _ => exact absurd (.inr (.inr ⟨_, loaded, rfl⟩)) passed
  · rintro ⟨before, fragment, others, rfl, all, loaded⟩
    induction before with
    | nil =>
      have nonempty : fragment ≠ [] := by
        rintro rfl
        obtain ⟨depth, t, rest, opened, -⟩ := loads_object loaded
        cases opened
      rw [List.nil_append, firstObject, if_neg nonempty, loaded]
    | cons earlier before ih =>
      obtain ⟨passed, later⟩ := List.forall_mem_cons.mp all
      rw [List.cons_append, passed_over passed]
      exact ih later

/-- What a fragment that is not passed over leads to. -/
theorem captured {limits : Limits} {fragment : Str} (written : Written .inside fragment)
    (stands : ¬ PassedOver limits fragment) (others : List Str) :
    (∃ e, firstObject limits (fragment :: others) = .error e) ∨
      ∃ entries, firstObject limits (fragment :: others) = .ok (some entries) ∧ GapKeys entries := by
  have nonempty : fragment ≠ [] := fun empty => stands (.inl empty)
  rw [firstObject, if_neg nonempty]
  cases loaded : loads limits fragment with
  | error e =>
    cases e with
    | decode => exact absurd (.inr (.inl loaded)) stands
    | digits => exact .inl ⟨.digits, rfl⟩
    | recursion => exact .inl ⟨.recursion, rfl⟩
  | ok v =>
    cases v with
    | obj entries => exact .inr ⟨entries, rfl, loaded_gap written loaded⟩
    | _ => exact absurd (.inr (.inr ⟨_, loaded, rfl⟩)) stands

theorem fragments_first (limits : Limits) {fragments : List Str}
    (written : ∀ fragment ∈ fragments, Written .inside fragment) (others : List Str) :
    (∀ fragment ∈ fragments, PassedOver limits fragment) ∧
        firstObject limits (fragments ++ others) = firstObject limits others ∨
      (¬ ∀ fragment ∈ fragments, PassedOver limits fragment) ∧
        ((∃ e, firstObject limits (fragments ++ others) = .error e) ∨
          ∃ entries, firstObject limits (fragments ++ others) = .ok (some entries) ∧
            GapKeys entries) := by
  induction fragments with
  | nil => exact .inl ⟨List.forall_mem_nil _, rfl⟩
  | cons fragment fragments ih =>
    by_cases passed : PassedOver limits fragment
    · rw [List.cons_append, passed_over passed, List.forall_mem_cons]
      have later := ih fun other member => written other (List.mem_cons_of_mem fragment member)
      simpa [passed] using later
    · right
      refine ⟨fun all => passed (all fragment List.mem_cons_self), ?_⟩
      exact captured (written fragment List.mem_cons_self) passed (fragments ++ others)

def texts (r : Report) : List Str := r.analysis :: (r.requestedFiles ++ r.recommendations)

theorem joinedReport_iff (r : Report) : joinedReport r = r ↔ ∀ x ∈ texts r, ¬ SplitPair x := by
  have lists : ∀ items : List Str, items.map joined = items ↔ ∀ x ∈ items, ¬ SplitPair x := by
    intro items
    induction items with
    | nil => simp
    | cons x items ih => rw [List.map_cons, List.cons.injEq, joined_eq_iff, ih, List.forall_mem_cons]
  obtain ⟨analysis, requested, recommendations⟩ := r
  rw [joinedReport, Report.mk.injEq, joined_eq_iff, lists, lists, texts, List.forall_mem_cons,
    List.forall_mem_append]

theorem parse_dumped (py : Builtins) (limits : Limits) (r : Report) :
    parseReport py limits (envelope r) =
      (firstObject limits (candidates (dumps r))).map fun payload => match payload with
        | none => asAnalysis py (envelope r)
        | some payload => normalize py payload := by
  rfl

theorem blank_fences : fences (dumps ⟨[], [], []⟩) = [] := by decide

/-- A report comes back exactly when every fenced block of its dumped text is passed over and
    no string has the halves of a surrogate pair side by side. -/
theorem report_reads_back_iff (py : Builtins) (limits : Limits) (r : Report) :
    parseReport py limits (envelope r) = .ok r ↔
      (∀ block ∈ fences (dumps r), PassedOver limits (strip block)) ∧
        ∀ x ∈ texts r, ¬ SplitPair x := by
  have written : ∀ fragment ∈ (fences (dumps r)).map strip, Written .inside fragment := by
    intro fragment member
    obtain ⟨block, listed, rfl⟩ := List.mem_map.mp member
    exact stripped_written (fences_written (dumps_written r) block listed)
  rw [parse_dumped, candidates, dumps_stripped, ← joinedReport_iff, ← List.forall_mem_map]
  rcases fragments_first limits written (dumps r :: (outermost (dumps r)).toList) with
    ⟨passed, first⟩ | ⟨stands, first⟩
  · have whole : firstObject limits (dumps r :: (outermost (dumps r)).toList) =
        .ok (some (entered (members r) [])) := by
      rw [firstObject, if_neg (by simp [dumps, dumpsObject, str]), whole_loads]
    have result : (firstObject limits ((fences (dumps r)).map strip ++
        dumps r :: (outermost (dumps r)).toList)).map (fun payload => match payload with
          | none => asAnalysis py (envelope r)
          | some payload => normalize py payload) = .ok (joinedReport r) := by
      rw [first, whole, ← whole_normalized py r]
      rfl
    rw [result, Except.ok.injEq]
    exact ⟨fun same => ⟨passed, same⟩, fun both => both.2⟩
  · refine iff_of_false (fun same => ?_) fun both => stands both.1
    rcases first with ⟨e, raised⟩ | ⟨entries, found, gaps⟩
    · rw [raised] at same
      cases same
    · rw [found] at same
      have empty : normalize py entries = r := Except.ok.inj same
      rw [gap_normalized py gaps] at empty
      rw [← empty, blank_fences] at stands
      exact stands (List.forall_mem_nil _)

def braced : Report := ⟨str "```\x7b\x7d```", [str "demo_target/app/auth.py"], []⟩

/-- The quoted object is taken for the report: what the worker asked for is gone. -/
theorem quoted_object_taken :
    parseReport ⟨fun _ => [], fun _ => false⟩ ⟨4300, 1000, by decide⟩ (envelope braced) =
        .ok ⟨[], [], []⟩ ∧
      parseReport ⟨fun _ => [], fun _ => false⟩ ⟨4300, 1000, by decide⟩ (envelope braced) ≠
        .ok braced := by
  decide +kernel

end AgentShield.WorkSwarm.Workers
