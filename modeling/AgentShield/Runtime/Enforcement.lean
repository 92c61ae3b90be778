import AgentShield.Runtime.PolicyLanguage
import AgentShield.Runtime.Resources
import Mathlib.Algebra.Order.BigOperators.Group.List
import Mathlib.Algebra.Order.Group.Nat

/-!
The two halves of the enforcement point compared: the decision on the raw
request, and the decision `read_sandbox_resource` makes again on the normalized
path and on the resolved target. The read half compares spellings exactly and
strips once more, so it agrees only where neither changes anything.
-/
namespace AgentShield.Enforcement
open Text Lexical Policy Resources

/-- The read half accepts the normalized path `p` under `root`, naming the same `p`. -/
structure Agrees (disk : Disk) (root : Path) (p : String) : Prop where
  no_bypass : ∀ text, readSandboxResource disk root p ≠ .error (.policyBypass text)
  again : (evaluate (.text p)).allowed = true ∧ (evaluate (.text p)).normalizedPath = some p
  inside : base root ++ [sandboxRoot.toList] <+: target root p
  resolved : ∀ q, q = asPosix (relativeTo (target root p) (base root)) →
    (evaluate (.text q)).allowed = true ∧ (evaluate (.text q)).normalizedPath = some p

/-- The resolution of `r` spells the sandbox root in lower case, and its last segment
    does not end in white space. -/
def SpelledExactly (r : String) : Prop :=
  ∃ segments, LexicallyResolves (strip r.toList) segments ∧
    segments.head? = some sandboxRoot.toList ∧
    ∀ last, segments.getLast? = some last → ∀ c, last.getLast? = some c → isSpace c = false

/-- What resolution keeps: plain names, made of the characters of the text. -/
structure Name (s segment : List Char) : Prop where
  nonempty : segment ≠ []
  down : segmentMove segment = .down segment
  no_slash : '/' ∉ segment
  no_backslash : '\\' ∉ segment
  chars : ∀ c ∈ segment, c ∈ s

theorem resolved_names {s : List Char} {segments : List (List Char)}
    (resolves : LexicallyResolves s segments) : ∀ segment ∈ segments, Name s segment := by
  intro segment member
  have kept := resolves_names resolves segment member
  obtain ⟨raw, part, moved⟩ := List.mem_map.mp kept
  have same := down_of_segmentMove moved
  subst same
  have chars : ∀ c ∈ raw, c ∈ replace '\\' '/' s := by
    intro c h
    rw [← join_split '/' (replace '\\' '/' s)]
    exact part_member part h
  have no_slash := split_absent '/' _ raw part
  refine ⟨?_, moved, no_slash, ?_, ?_⟩
  · intro empty
    simp [empty, segmentMove] at moved
  · intro backslash
    exact replace_absent (by decide) s (chars _ backslash)
  · intro c h
    rcases replace_member (chars c h) with same | old
    · exact absurd (same ▸ h) no_slash
    · exact old

theorem resolution_length {s : List Char} {segments : List (List Char)}
    (resolves : LexicallyResolves s segments) : (join '/' segments).length ≤ s.length := by
  by_cases nonempty : segments = []
  · simp [nonempty]
  have weight := resolves_weight (fun p : List Char => p.length + 1) resolves
  have each : ∀ raw : List Char,
      (segmentMove raw).weight (fun p : List Char => p.length + 1) ≤ raw.length + 1 := by
    intro raw
    unfold segmentMove
    split
    · simp [Move.weight]
    · split
      · simp [Move.weight]
      · simp [Move.weight]
  have raws : ((((replace '\\' '/' s).splitOn '/').map segmentMove).map
        (Move.weight fun p : List Char => p.length + 1)).sum ≤
      (((replace '\\' '/' s).splitOn '/').map fun p => p.length + 1).sum := by
    rw [List.map_map]
    exact List.sum_le_sum fun raw _ => each raw
  have whole := join_length '/' (List.splitOn_ne_nil '/' (replace '\\' '/' s))
  rw [join_split, replace_length] at whole
  have parts := join_length '/' nonempty
  omega

theorem names_resolve {s : List Char} {segments : List (List Char)} (nonempty : segments ≠ [])
    (names : ∀ segment ∈ segments, Name s segment) :
    LexicallyResolves (join '/' segments) segments := by
  have plain : '\\' ∉ join '/' segments := by
    intro backslash
    rcases join_member backslash with slash | ⟨p, member, inside⟩
    · exact absurd slash (by decide)
    · exact (names p member).no_backslash inside
  have split := split_join '/' nonempty fun p member => (names p member).no_slash
  rw [LexicallyResolves, replace_eq_self plain, split, ← strict_iff]
  have moves : segments.map segmentMove = segments.map Move.down :=
    List.map_congr_left fun p member => (names p member).down
  rw [moves, strict_names]

theorem names_parts {s : List Char} {segments : List (List Char)} (nonempty : segments ≠ [])
    (names : ∀ segment ∈ segments, Name s segment) : parts (join '/' segments) = segments := by
  rw [parts, split_join '/' nonempty fun p member => (names p member).no_slash]
  refine List.filter_eq_self.mpr fun p member => ?_
  have name := names p member
  have dot : p ≠ ['.'] := by
    intro same
    have down := name.down
    simp [same, segmentMove] at down
  simp [name.nonempty, dot]

theorem names_head {s : List Char} {first : List Char} {rest : List (List Char)}
    (names : ∀ segment ∈ first :: rest, Name s segment) :
    (join '/' (first :: rest)).head? = first.head? := by
  by_cases last : rest = []
  · rw [last, join_singleton]
  · rw [join_cons '/' first last, List.head?_append_of_ne_nil _ (names first (by simp)).nonempty]

theorem resolve_names_below (root : Path) {segments : Path}
    (names : ∀ segment ∈ segments, segmentMove segment = .down segment) :
    resolve (resolve root ++ segments) = resolve root ++ segments := by
  have all : (resolve root ++ segments).map segmentMove =
      (resolve root ++ segments).map Move.down := by
    refine List.map_congr_left fun p member => ?_
    rcases List.mem_append.mp member with above | below
    · obtain ⟨raw, _, moved⟩ := List.mem_map.mp (rooted_member above)
      obtain rfl := down_of_segmentMove moved
      exact moved
    · exact names p below
  rw [resolve, all, rooted_names]

theorem names_target {s : List Char} {segments : List (List Char)} (nonempty : segments ≠ [])
    (names : ∀ segment ∈ segments, Name s segment) (root : Path) :
    target root (String.ofList (join '/' segments)) = base root ++ segments := by
  obtain ⟨first, rest, rfl⟩ := List.exists_cons_of_ne_nil nonempty
  have relative : (join '/' (first :: rest)).head? ≠ some '/' := by
    rw [names_head names]
    intro slash
    exact (names first (by simp)).no_slash (List.mem_of_mem_head? slash)
  rw [target, String.toList_ofList, joinPath, if_neg relative, names_parts nonempty names]
  exact resolve_names_below root fun p member => (names p member).down

theorem sandbox_below_base (root : Path) : sandbox root = base root ++ [sandboxRoot.toList] := by
  have parsed : parts sandboxRoot.toList = [sandboxRoot.toList] := by decide
  rw [sandbox, joinPath, if_neg (by decide), parsed]
  exact resolve_names_below root (by decide)

theorem relative_names (root : Path) {segments : Path} (nonempty : segments ≠ []) :
    asPosix (relativeTo (base root ++ segments) (base root)) =
      String.ofList (join '/' segments) := by
  rw [relativeTo, List.drop_left, asPosix, if_neg (by simpa using nonempty)]

theorem joined_checked {r : String} (checked : PassesRawChecks r) {segments : List (List Char)}
    (resolves : LexicallyResolves (strip r.toList) segments) (served : Served segments)
    (trimmed : Trimmed (join '/' segments))
    (relative : ∀ c, (join '/' segments).head? = some c → c ≠ '/' ∧ c ≠ '\\' ∧ c ≠ '~') :
    PassesRawChecks (String.ofList (join '/' segments)) := by
  have no_colon : ':' ∉ join '/' segments := by
    intro colon
    rcases join_member colon with slash | ⟨p, member, inside⟩
    · exact absurd slash (by decide)
    · exact served.no_stream p member inside
  have same : strip (String.ofList (join '/' segments)).toList = join '/' segments := by
    rw [String.toList_ofList, trimmed_strip trimmed]
  refine ⟨?_, ?_, ?_, ?_, ?_, ?_⟩
  · have kept := resolution_length resolves
    have stripped := strip_length_le r.toList
    have short := checked.short
    rw [String.toList_ofList]
    omega
  · rw [String.toList_ofList]
    intro null
    rcases join_member null with slash | ⟨p, member, inside⟩
    · exact absurd slash (by decide)
    · exact checked.no_null (strip_member ((resolved_names resolves p member).chars _ inside))
  · rw [same]
    intro empty
    have weight := join_length '/' (served_nonempty served)
    obtain ⟨first, rest, split⟩ := List.exists_cons_of_ne_nil (served_nonempty served)
    have name := (resolved_names resolves first (by simp [split])).nonempty
    have positive := List.length_pos_iff.mpr name
    rw [empty, split, List.map_cons, List.sum_cons, List.length_nil] at weight
    omega
  · rw [same]
    intro scheme
    exact no_colon (scheme.subset (by decide))
  · rw [same]
    exact relative
  · rw [same]
    intro drive
    exact no_colon (List.mem_of_getElem? drive)

theorem evaluate_again {r : String} (checked : PassesRawChecks r) {segments : List (List Char)}
    (resolves : LexicallyResolves (strip r.toList) segments) (served : Served segments)
    (trimmed : Trimmed (join '/' segments))
    (relative : ∀ c, (join '/' segments).head? = some c → c ≠ '/' ∧ c ≠ '\\' ∧ c ≠ '~') :
    (evaluate (.text (String.ofList (join '/' segments)))).allowed = true ∧
      (evaluate (.text (String.ofList (join '/' segments)))).normalizedPath =
        some (String.ofList (join '/' segments)) := by
  have nonempty := served_nonempty served
  have again := joined_checked checked resolves served trimmed relative
  have itself : LexicallyResolves (strip (String.ofList (join '/' segments)).toList) segments := by
    rw [String.toList_ofList, trimmed_strip trimmed]
    exact names_resolve nonempty (resolved_names resolves)
  rw [evaluate_resolved again itself nonempty, evaluateSegments_path]
  exact ⟨(evaluateSegments_allowed_iff nonempty).mpr served, rfl⟩

theorem exact_trimmed {s : List Char} {segments : List (List Char)}
    (resolves : LexicallyResolves s segments)
    (root : segments.head? = some sandboxRoot.toList)
    (ending : ∀ last, segments.getLast? = some last →
      ∀ c, last.getLast? = some c → isSpace c = false) : Trimmed (join '/' segments) := by
  have names := resolved_names resolves
  obtain ⟨rest, rfl⟩ := List.head?_eq_some_iff.mp root
  constructor
  · intro c head
    rw [names_head names] at head
    have initial : sandboxRoot.toList.head? = some 'd' := by decide
    obtain rfl := Option.some.inj (initial.symm.trans head)
    decide
  · intro c tail
    have present := List.getLast?_eq_some_getLast (List.cons_ne_nil sandboxRoot.toList rest)
    have member := List.getLast_mem (List.cons_ne_nil sandboxRoot.toList rest)
    rw [join_getLast present (names _ member).nonempty] at tail
    exact ending _ present c tail

theorem exact_relative {s : List Char} {segments : List (List Char)}
    (resolves : LexicallyResolves s segments)
    (root : segments.head? = some sandboxRoot.toList) :
    ∀ c, (join '/' segments).head? = some c → c ≠ '/' ∧ c ≠ '\\' ∧ c ≠ '~' := by
  have names := resolved_names resolves
  obtain ⟨rest, rfl⟩ := List.head?_eq_some_iff.mp root
  intro c head
  rw [names_head names] at head
  have initial : sandboxRoot.toList.head? = some 'd' := by decide
  obtain rfl := Option.some.inj (initial.symm.trans head)
  decide

theorem read_no_bypass (disk : Disk) {root : Path} {p : String}
    (again : (evaluate (.text p)).allowed = true ∧ (evaluate (.text p)).normalizedPath = some p)
    (inside : base root ++ [sandboxRoot.toList] <+: target root p)
    (resolved : (evaluate (.text (asPosix (relativeTo (target root p) (base root))))).allowed
      = true) (text : String) :
    readSandboxResource disk root p ≠ .error (.policyBypass text) := by
  have below : isRelativeTo (sandbox root) (base root) = true := by
    rw [sandbox_below_base, isRelativeTo, List.isPrefixOf_iff_prefix]
    exact List.prefix_append _ _
  have under : isRelativeTo (target root p) (sandbox root) = true := by
    rw [sandbox_below_base, isRelativeTo, List.isPrefixOf_iff_prefix]
    exact inside
  simp only [readSandboxResource, again.1, again.2, below, under, resolved, not_true_eq_false,
    or_self, ↓reduceIte, Bool.true_eq_false]
  split
  · simp
  · split
    · simp
    · split <;> simp

theorem exact_agrees (disk : Disk) (root : Path) {r : String} (checked : PassesRawChecks r)
    {segments : List (List Char)} (resolves : LexicallyResolves (strip r.toList) segments)
    (served : Served segments) (spelled : segments.head? = some sandboxRoot.toList)
    (ending : ∀ last, segments.getLast? = some last →
      ∀ c, last.getLast? = some c → isSpace c = false) :
    Agrees disk root (String.ofList (join '/' segments)) := by
  have nonempty := served_nonempty served
  have names := resolved_names resolves
  have again := evaluate_again checked resolves served (exact_trimmed resolves spelled ending)
    (exact_relative resolves spelled)
  have reached := names_target nonempty names root
  have inside : base root ++ [sandboxRoot.toList] <+:
      target root (String.ofList (join '/' segments)) := by
    rw [reached]
    obtain ⟨rest, rfl⟩ := List.head?_eq_some_iff.mp spelled
    exact (List.prefix_append_right_inj _).mpr ⟨rest, rfl⟩
  have relative : asPosix (relativeTo (target root (String.ofList (join '/' segments)))
      (base root)) = String.ofList (join '/' segments) := by
    rw [reached, relative_names root nonempty]
  refine ⟨read_no_bypass disk again inside (relative.symm ▸ again.1), again, inside, ?_⟩
  intro q same
  rw [same, relative]
  exact again

theorem again_trimmed {p : String} (allowed : (evaluate (.text p)).allowed = true)
    (named : (evaluate (.text p)).normalizedPath = some p) : Trimmed p.toList := by
  obtain ⟨_, segments, resolves, _, path⟩ := allowed_resolution allowed
  have same : p = String.ofList (join '/' segments) := Option.some.inj (named.symm.trans path)
  have shorter := resolution_length resolves
  rw [show join '/' segments = p.toList by rw [same, String.toList_ofList]] at shorter
  by_contra untrimmed
  have strips := strip_shortens untrimmed
  omega

/-- The two halves agree on an allowed request exactly when its resolution spells the
    sandbox root in lower case and its last segment does not end in white space. -/
theorem halves_agree_iff_spelled_exactly (disk : Disk) (root : Path) (r p : String)
    (allowed : (evaluate (.text r)).allowed = true)
    (named : (evaluate (.text r)).normalizedPath = some p) :
    Agrees disk root p ↔ SpelledExactly r := by
  obtain ⟨checked, segments, resolves, served, path⟩ := allowed_resolution allowed
  obtain rfl := Option.some.inj (named.symm.trans path)
  have nonempty := served_nonempty served
  have names := resolved_names resolves
  constructor
  · intro agrees
    refine ⟨segments, resolves, ?_, ?_⟩
    · have inside := agrees.inside
      rw [names_target nonempty names, List.prefix_append_right_inj] at inside
      obtain ⟨rest, rfl⟩ := inside
      rfl
    · have trimmed := again_trimmed agrees.again.1 agrees.again.2
      rw [String.toList_ofList] at trimmed
      intro last present c ending
      have member := List.mem_of_getLast? present
      refine trimmed.2 c ?_
      rw [join_getLast present (names last member).nonempty]
      exact ending
  · rintro ⟨found, first, spelled, ending⟩
    obtain rfl := resolves_unique first resolves
    exact exact_agrees disk root checked resolves served spelled ending

theorem plain_request_agrees :
    Agrees (fun _ => some ⟨2, .ok "ok"⟩) ["srv".toList] "demo_target/app/auth.py" ↔
      SpelledExactly "demo_target//app/./auth.py" :=
  halves_agree_iff_spelled_exactly _ _ _ _ (by decide) (by decide)

/-- The allow of an upper-case spelling is a bypass for the read half, on every disk. -/
theorem upper_case_root_bypasses :
    (evaluate (.text "DEMO_TARGET/app/auth.py")).allowed = true ∧
      (evaluate (.text "DEMO_TARGET/app/auth.py")).normalizedPath =
        some "DEMO_TARGET/app/auth.py" ∧
      ¬ ∀ (disk : Disk) (root : Path) (text : String),
        readSandboxResource disk root "DEMO_TARGET/app/auth.py" ≠
          .error (.policyBypass text) := by
  refine ⟨by decide, by decide, ?_⟩
  intro never
  exact never (fun _ => none) [] "resolved resource escapes the sandbox root" (by decide)

end AgentShield.Enforcement
