import AgentShield.WorkSwarm.RepoPaths

/-!
What the policy says of a translated path, and where that is not what it said of the
worker's own text.
-/
namespace AgentShield.WorkSwarm
open Text Lexical Policy

def rerooted (s : String) : String := sandboxPrefix ++ String.ofList (spelling s)

section
variable {s : String}

theorem spelling_toList (s : String) : (String.ofList (spelling s)).toList = spelling s :=
  String.toList_ofList

theorem rerooted_toList (s : String) : (rerooted s).toList = rootName ++ '/' :: spelling s := by
  rw [rerooted, String.toList_append, spelling_toList]
  rfl

theorem rerooted_trimmed (relative : Relative s) : Trimmed (rerooted s).toList := by
  rw [rerooted_toList]
  constructor
  · intro c head
    obtain rfl : 'd' = c := Option.some.inj head
    decide
  · intro c last
    rw [List.getLast?_append_of_ne_nil _ (List.cons_ne_nil _ _),
      List.getLast?_cons_of_ne_nil relative.nonempty] at last
    exact (spelling_trimmed s).2 c last

theorem spelling_checks (relative : Relative s) (short : (spelling s).length ≤ maxPathLength) :
    PassesRawChecks (String.ofList (spelling s)) := by
  have trimmed := trimmed_strip (spelling_trimmed s)
  constructor
  · rwa [spelling_toList]
  · rw [spelling_toList]
    exact relative.no_null
  · rw [spelling_toList, trimmed]
    exact relative.nonempty
  · rw [spelling_toList, trimmed]
    exact relative.no_scheme
  · rw [spelling_toList, trimmed]
    intro c head
    obtain ⟨slash, tilde⟩ := relative.relative c head
    refine ⟨slash, ?_, tilde⟩
    rintro rfl
    exact spelling_slashed s (List.mem_of_head? head)
  · rw [spelling_toList, trimmed]
    exact relative.no_drive

theorem checks_spelling (checked : PassesRawChecks (String.ofList (spelling s))) :
    Relative s ∧ (spelling s).length ≤ maxPathLength := by
  obtain ⟨short, no_null, nonempty, no_scheme, relative, no_drive⟩ := checked
  rw [spelling_toList] at short no_null nonempty no_scheme relative no_drive
  rw [trimmed_strip (spelling_trimmed s)] at nonempty no_scheme relative no_drive
  refine ⟨⟨nonempty, no_null, no_scheme, ?_, no_drive⟩, short⟩
  intro c head
  exact ⟨(relative c head).1, (relative c head).2.2⟩

theorem rerooted_scheme (inside : "://".toList <:+: (rerooted s).toList) :
    "://".toList <:+: spelling s := by
  rw [rerooted_toList] at inside
  simpa [rootName, sandboxRoot, List.infix_cons_iff] using inside

theorem rerooted_checks (relative : Relative s)
    (short : sandboxPrefix.toList.length + (spelling s).length ≤ maxPathLength) :
    PassesRawChecks (rerooted s) := by
  have trimmed := trimmed_strip (rerooted_trimmed relative)
  constructor
  · rwa [rerooted, String.toList_append, spelling_toList, List.length_append]
  · rw [rerooted_toList]
    intro null
    rcases List.mem_append.mp null with root | rest
    · revert root
      decide
    · rcases List.mem_cons.mp rest with slash | inside
      · revert slash
        decide
      · exact relative.no_null inside
  · rw [trimmed, rerooted_toList]
    exact List.append_ne_nil_of_right_ne_nil _ (List.cons_ne_nil _ _)
  · rw [trimmed]
    exact fun scheme => relative.no_scheme (rerooted_scheme scheme)
  · rw [trimmed, rerooted_toList]
    intro c head
    obtain rfl : 'd' = c := Option.some.inj head
    decide
  · rw [trimmed, rerooted_toList]
    intro drive
    exact absurd (Option.some.inj drive) (by decide)

theorem checks_rerooted (checked : PassesRawChecks (rerooted s)) :
    Char.ofNat 0 ∉ spelling s ∧
      sandboxPrefix.toList.length + (spelling s).length ≤ maxPathLength := by
  constructor
  · intro null
    apply checked.no_null
    rw [rerooted_toList]
    exact List.mem_append_right _ (List.mem_cons_of_mem _ null)
  · have short := checked.short
    rwa [rerooted, String.toList_append, spelling_toList, List.length_append] at short

theorem spelling_resolves (s : String) (segments : List (List Char)) :
    LexicallyResolves (strip (String.ofList (spelling s)).toList) segments ↔
      Resolves (moves s) segments := by
  rw [spelling_toList, trimmed_strip (spelling_trimmed s), LexicallyResolves,
    replace_eq_self (spelling_slashed s)]
  rfl

theorem rerooted_resolves (relative : Relative s) (segments : List (List Char)) :
    LexicallyResolves (strip (rerooted s).toList) segments ↔
      Resolves (.down rootName :: moves s) segments := by
  have slashed : '\\' ∉ rootName ++ '/' :: spelling s := by
    intro member
    rcases List.mem_append.mp member with root | rest
    · revert root
      decide
    · rcases List.mem_cons.mp rest with slash | inside
      · revert slash
        decide
      · exact spelling_slashed s inside
  rw [trimmed_strip (rerooted_trimmed relative), LexicallyResolves, rerooted_toList,
    replace_eq_self slashed, List.splitOn_append_cons_self, List.map_append]
  rfl

theorem spelling_nil (empty : spelling s = []) : strip s.toList = [] := List.map_eq_nil_iff.mp empty

theorem translation_spelling (s : String) :
    toRepoRelative s =
      if spelling s = [] then s
      else if alreadyRooted (spelling s) then String.ofList (spelling s)
      else if namesElsewhere (spelling s) then String.ofList (spelling s)
      else sandboxPrefix ++ String.ofList ((spelling s).dropWhile (· = '/')) := rfl

theorem namesHere_iff (path : List Char) :
    namesElsewhere path = false ↔
      ¬ "://".toList <:+: path ∧
      (∀ c, path.head? = some c → c ≠ '/' ∧ c ≠ '~' ∧ c ≠ '.') ∧ path[1]? ≠ some ':' := by
  rw [← contains_iff]
  cases path with
  | nil => simp [namesElsewhere]
  | cons c rest => simp [namesElsewhere, and_assoc]

theorem slash_kept {path : List Char} (relative : ∀ c, path.head? = some c → c ≠ '/') :
    path.dropWhile (· = '/') = path := by
  cases path with
  | nil => rfl
  | cons c rest => exact List.dropWhile_cons_of_neg (by simpa using relative c rfl)

theorem unrooted_translation (relative : Relative s) (unrooted : Unrooted s) :
    toRepoRelative s = rerooted s := by
  have here : namesElsewhere (spelling s) = false := by
    refine (namesHere_iff _).mpr ⟨relative.no_scheme, ?_, relative.no_drive⟩
    intro c head
    obtain ⟨slash, tilde⟩ := relative.relative c head
    refine ⟨slash, tilde, ?_⟩
    rintro rfl
    exact unrooted.2 head
  rw [translation_spelling, if_neg relative.nonempty, if_neg (Bool.eq_false_iff.mp unrooted.1),
    if_neg (Bool.eq_false_iff.mp here), slash_kept fun c head => (relative.relative c head).1]
  rfl

theorem rooted_translation (relative : Relative s) (rooted : ¬ Unrooted s) :
    toRepoRelative s = String.ofList (spelling s) := by
  rw [translation_spelling, if_neg relative.nonempty]
  by_cases already : alreadyRooted (spelling s) = true
  · rw [if_pos already]
  · have elsewhere : namesElsewhere (spelling s) = true := by
      by_contra here
      refine rooted ⟨Bool.eq_false_iff.mpr already, ?_⟩
      intro dot
      have kept := ((namesHere_iff _).mp (Bool.eq_false_iff.mpr here)).2.1
      exact (kept _ dot).2.2 rfl
    rw [if_neg already, if_pos elsewhere]

theorem served_relative (allowed : (evaluate (.text (toRepoRelative s))).allowed = true) :
    Relative s := by
  have checked := evaluate_allowed_checked allowed
  rw [translation_spelling] at checked
  split at checked
  · rename_i empty
    exact absurd (spelling_nil empty) checked.nonempty
  · rename_i nonempty
    split at checked
    · exact (checks_spelling checked).1
    · split at checked
      · exact (checks_spelling checked).1
      · rename_i here
        obtain ⟨no_scheme, kept, no_drive⟩ := (namesHere_iff _).mp (Bool.eq_false_iff.mpr here)
        rw [slash_kept fun c head => (kept c head).1] at checked
        refine ⟨nonempty, (checks_rerooted checked).1, no_scheme, ?_, no_drive⟩
        exact fun c head => ⟨(kept c head).1, (kept c head).2.1⟩

theorem rooted_served (relative : Relative s) (rooted : ¬ Unrooted s) :
    (evaluate (.text (toRepoRelative s))).allowed = true ↔
      (spelling s).length ≤ maxPathLength ∧
        ∃ segments, Resolves (moves s) segments ∧ Served segments := by
  rw [rooted_translation relative rooted]
  constructor
  · intro allowed
    obtain ⟨checked, segments, resolves, served, _⟩ := allowed_resolution allowed
    exact ⟨(checks_spelling checked).2, segments, (spelling_resolves s segments).mp resolves, served⟩
  · rintro ⟨short, segments, resolves, served⟩
    exact resolution_allowed (spelling_checks relative short)
      ((spelling_resolves s segments).mpr resolves) served

theorem unrooted_served (relative : Relative s) (unrooted : Unrooted s) :
    (evaluate (.text (toRepoRelative s))).allowed = true ↔
      sandboxPrefix.toList.length + (spelling s).length ≤ maxPathLength ∧
        ∃ segments, Resolves (.down rootName :: moves s) segments ∧ Served segments := by
  rw [unrooted_translation relative unrooted]
  constructor
  · intro allowed
    obtain ⟨checked, segments, resolves, served, _⟩ := allowed_resolution allowed
    exact ⟨(checks_rerooted checked).2, segments,
      (rerooted_resolves relative segments).mp resolves, served⟩
  · rintro ⟨short, segments, resolves, served⟩
    exact resolution_allowed (rerooted_checks relative short)
      ((rerooted_resolves relative segments).mpr resolves) served

/-- A denial for what the path is, and not for where it lies. -/
def Refused (d : Policy.Decision) : Prop :=
  d.allowed = false ∧ (d.rule = .protectedPath ∨ d.rule = .unparseablePath)

/-- `demo_target/secrets` or one of its other spellings, and what is below it. -/
def Guarded : List (List Char) → Prop
  | first :: second :: _ =>
    lower first = rootName ∧ lower (rstrip [' ', '.'] second) = "secrets".toList
  | _ => False

theorem refused_long (long : maxPathLength < s.toList.length) : Refused (evaluate (.text s)) := by
  simp only [evaluate]
  rw [if_pos long]
  exact ⟨rfl, Or.inr rfl⟩

theorem refused_short (relative : Relative s) (short : s.toList.length ≤ maxPathLength) :
    Refused (evaluate (.text s)) ↔
      (∀ segments, Resolves (moves s) segments → segments = []) ∨
      ∃ segments, segments ≠ [] ∧ Resolves (moves s) segments ∧
        Refused (evaluateSegments segments) := by
  have resolved := normalize_some_iff (strip_trimmed s.toList)
  rw [evaluate_raw_checked (relative_checks relative short)]
  cases run : normalize (strip s.toList) with
  | none =>
    refine iff_of_true ⟨rfl, Or.inr rfl⟩ (Or.inl ?_)
    intro segments resolves
    by_contra nonempty
    have some_ := (resolved segments).mpr ⟨resolves, nonempty⟩
    rw [run] at some_
    cases some_
  | some segments =>
    obtain ⟨resolves, nonempty⟩ := (resolved segments).mp run
    constructor
    · exact fun refused => Or.inr ⟨segments, nonempty, resolves, refused⟩
    · rintro (nowhere | ⟨other, _, also, refused⟩)
      · exact absurd (nowhere segments resolves) nonempty
      · exact resolves_unique also resolves ▸ refused

theorem refused_segments {segments : List (List Char)}
    (served : Served (rootName :: segments)) :
    segments ≠ [] ∧ Refused (evaluateSegments segments) ↔ Guarded segments := by
  have stream : ¬ segments.any (fun segment => ':' ∈ segment) = true := by
    intro colon
    obtain ⟨segment, member, colon⟩ := List.any_eq_true.mp colon
    exact served.no_stream segment (List.mem_cons_of_mem _ member) (by simpa using colon)
  have plain : ¬ segments.any (fun segment => segment ≠ rstrip [' ', '.'] segment) = true := by
    intro ambiguous
    obtain ⟨segment, member, differ⟩ := List.any_eq_true.mp ambiguous
    have kept := served.unambiguous segment (List.mem_cons_of_mem _ member)
    exact absurd ((ambiguous_iff segment).mpr kept) (by simpa using differ)
  unfold evaluateSegments
  dsimp only
  cases segments with
  | nil => simp [Guarded]
  | cons first inner =>
    rw [List.headD_cons, List.tail_cons]
    by_cases root : lower first = sandboxRoot.toList
    case neg =>
      rw [if_pos root]
      cases inner <;> simp [Refused, deny, Guarded, rootName, root]
    rw [if_neg (not_not.mpr root), if_neg stream]
    cases inner with
    | nil => simp [Refused, deny, Guarded]
    | cons second rest =>
      by_cases guarded : lower (rstrip [' ', '.'] second) = "secrets".toList
      · dsimp only
        rw [if_pos ((protected_iff second).mpr guarded)]
        exact iff_of_true ⟨List.cons_ne_nil _ _, rfl, Or.inl rfl⟩ ⟨root, guarded⟩
      · dsimp only
        rw [if_neg (mt (protected_iff second).mp guarded), if_neg plain]
        exact iff_of_false (fun refused => by cases refused.2.1) fun both => guarded both.2

/-- How a refused text comes to be served under its translation. -/
inductive Slips (s : String) : Prop where
  | padded {segments : List (List Char)} (long : maxPathLength < s.toList.length)
      (rooted : ¬ Unrooted s) (short : (spelling s).length ≤ maxPathLength)
      (resolves : Resolves (moves s) segments) (served : Served segments)
  | paddedInside {segments : List (List Char)} (long : maxPathLength < s.toList.length)
      (unrooted : Unrooted s)
      (short : sandboxPrefix.toList.length + (spelling s).length ≤ maxPathLength)
      (resolves : Resolves (moves s) segments) (served : Served (rootName :: segments))
  /- `a/../../demo_target/b`: above the worker's own start, and into the sandbox again. -/
  | climbs {before after : List (Move (List Char))} {segments : List (List Char)}
      (unrooted : Unrooted s)
      (short : sandboxPrefix.toList.length + (spelling s).length ≤ maxPathLength)
      (split : moves s = before ++ .up :: after) (level : Resolves before [])
      (resolves : Resolves after segments) (served : Served segments)
  /- `a/../demo_target/secrets/b`: one level further down, the name is not protected. -/
  | shadows {segments : List (List Char)} (unrooted : Unrooted s)
      (short : sandboxPrefix.toList.length + (spelling s).length ≤ maxPathLength)
      (resolves : Resolves (moves s) segments) (guarded : Guarded segments)
      (served : Served (rootName :: segments))

theorem slips_served (relative : Relative s) (slips : Slips s) :
    Refused (evaluate (.text s)) ∧ (evaluate (.text (toRepoRelative s))).allowed = true := by
  have either : Refused (evaluate (.text s)) ∨ s.toList.length ≤ maxPathLength := by
    rcases Nat.lt_or_ge maxPathLength s.toList.length with long | short
    · exact Or.inl (refused_long long)
    · exact Or.inr short
  cases slips with
  | @padded segments long rooted short resolves served =>
    exact ⟨refused_long long, (rooted_served relative rooted).mpr ⟨short, segments, resolves, served⟩⟩
  | @paddedInside segments long unrooted short resolves served =>
    exact ⟨refused_long long, (unrooted_served relative unrooted).mpr
      ⟨short, rootName :: segments, resolves_inside rootName resolves, served⟩⟩
  | @climbs before after segments unrooted short split level resolves served =>
    constructor
    · rcases either with refused | small
      · exact refused
      · refine (refused_short relative small).mpr (Or.inl ?_)
        intro path lost
        exact absurd (split ▸ lost) (resolves_never_above level path)
    · refine (unrooted_served relative unrooted).mpr ⟨short, segments, ?_, served⟩
      exact (resolves_below rootName).mpr (Or.inr ⟨before, after, split, level, resolves⟩)
  | @shadows segments unrooted short resolves guarded served =>
    constructor
    · rcases either with refused | small
      · exact refused
      · obtain ⟨nonempty, refused⟩ := (refused_segments served).mpr guarded
        exact (refused_short relative small).mpr (Or.inr ⟨segments, nonempty, resolves, refused⟩)
    · exact (unrooted_served relative unrooted).mpr
        ⟨short, rootName :: segments, resolves_inside rootName resolves, served⟩

theorem served_slips (refused : Refused (evaluate (.text s)))
    (allowed : (evaluate (.text (toRepoRelative s))).allowed = true) : Slips s := by
  have relative := served_relative allowed
  by_cases unrooted : Unrooted s
  · obtain ⟨short, segments, resolves, served⟩ := (unrooted_served relative unrooted).mp allowed
    rcases (resolves_below rootName).mp resolves with ⟨inner, rfl, within⟩ | climb
    · rcases Nat.lt_or_ge maxPathLength s.toList.length with long | small
      · exact .paddedInside long unrooted short within served
      · rcases (refused_short relative small).mp refused with nowhere | ⟨other, nonempty, also, no⟩
        · have deep := served.deep
          rw [nowhere inner within] at deep
          exact absurd deep (by decide)
        · obtain rfl := resolves_unique also within
          exact .shadows unrooted short within ((refused_segments served).mp ⟨nonempty, no⟩) served
    · obtain ⟨before, after, split, level, on⟩ := climb
      exact .climbs unrooted short split level on served
  · obtain ⟨short, segments, resolves, served⟩ := (rooted_served relative unrooted).mp allowed
    rcases Nat.lt_or_ge maxPathLength s.toList.length with long | small
    · exact .padded long unrooted short resolves served
    · -- the policy reads a text and its spelling alike
      have also := resolution_allowed (relative_checks relative small) resolves served
      rw [refused.1] at also
      cases also

end

/-- The translation keeps the refusal of a text exactly if the text is not one of those. -/
theorem translation_keeps_refusal_iff (s : String) :
    (Refused (evaluate (.text s)) → (evaluate (.text (toRepoRelative s))).allowed = false) ↔
      ¬ (Relative s ∧ Slips s) := by
  constructor
  · rintro keeps ⟨relative, slips⟩
    obtain ⟨refused, allowed⟩ := slips_served relative slips
    rw [keeps refused] at allowed
    cases allowed
  · intro none refused
    by_contra served
    have allowed := (Bool.not_eq_false _).mp served
    exact none ⟨served_relative allowed, served_slips refused allowed⟩

example : (evaluate (.text (toRepoRelative "a/../demo_target/secrets/b"))).allowed = true := by
  decide

/-- A traversal that the policy cannot resolve names a resource once it is re-rooted. -/
theorem climbing_path_served :
    let path := "app/../../demo_target/app/auth.py"
    (evaluate (.text path)).allowed = false ∧
      (evaluate (.text path)).rule = .unparseablePath ∧
      toRepoRelative path = "demo_target/app/../../demo_target/app/auth.py" ∧
      (evaluate (.text (toRepoRelative path))).allowed = true := by
  decide

end AgentShield.WorkSwarm
