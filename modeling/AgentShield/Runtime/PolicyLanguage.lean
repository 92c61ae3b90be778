import AgentShield.Runtime.Policy

/-!
The language the policy accepts, stated without the code's loop: bounds on the
raw text, the lexical resolution of its stripped form, and conditions on the
resolved segments alone.
-/
namespace AgentShield.Policy
open Text Lexical

/-- Backslashes read as slashes, empty and `.` segments dropped, each `..` removing
    the previous segment and never reaching above the start. -/
def LexicallyResolves (s : List Char) (segments : List (List Char)) : Prop :=
  Resolves (((replace '\\' '/' s).splitOn '/').map segmentMove) segments

/-- The checks made on the text before it is resolved. -/
structure PassesRawChecks (r : String) : Prop where
  short : r.toList.length ≤ maxPathLength
  no_null : Char.ofNat 0 ∉ r.toList
  nonempty : strip r.toList ≠ []
  no_scheme : ¬ "://".toList <:+: strip r.toList
  relative : ∀ c, (strip r.toList).head? = some c → c ≠ '/' ∧ c ≠ '\\' ∧ c ≠ '~'
  no_drive : (strip r.toList)[1]? ≠ some ':'

/-- The resolved paths that are served. -/
structure Served (segments : List (List Char)) : Prop where
  deep : 2 ≤ segments.length
  root : ∀ first, segments[0]? = some first → lower first = sandboxRoot.toList
  unprotected : ∀ second, segments[1]? = some second →
    lower (rstrip [' ', '.'] second) ≠ "secrets".toList
  no_stream : ∀ segment ∈ segments, ':' ∉ segment
  unambiguous : ∀ segment ∈ segments, ∀ c, segment.getLast? = some c → c ≠ ' ' ∧ c ≠ '.'

theorem normalizeLoop_walk (segments raws : List (List Char)) :
    normalizeLoop segments raws = (raws.map segmentMove).foldlM walk segments := by
  induction raws generalizing segments with
  | nil => rfl
  | cons raw rest ih =>
    simp only [normalizeLoop, List.map_cons, List.foldlM_cons, Option.bind_eq_bind, segmentMove]
    by_cases here : raw = [] ∨ raw = ['.']
    · simp [here, walk, ih]
    · by_cases parent : raw = ['.', '.']
      · simp only [parent, ↓reduceIte, walk]
        by_cases empty : segments.isEmpty
        · simp [empty]
        · simp [empty, ih]
      · simp [here, parent, walk, ih]

theorem normalize_some_iff {s : List Char} (trimmed : Trimmed s) (segments : List (List Char)) :
    normalize s = some segments ↔ LexicallyResolves s segments ∧ segments ≠ [] := by
  rw [normalize, trimmed_strip trimmed, LexicallyResolves, ← strict_iff, strict,
    ← normalizeLoop_walk]
  by_cases empty : replace '\\' '/' s = []
  · have none_kept : normalizeLoop [] (([] : List Char).splitOn '/') = some [] := rfl
    simp only [empty, ↓reduceIte, none_kept, reduceCtorEq, Option.some.injEq, false_iff]
    rintro ⟨same, nonempty⟩
    exact nonempty same.symm
  · simp only [empty, ↓reduceIte]
    cases run : normalizeLoop [] ((replace '\\' '/' s).splitOn '/') with
    | none => simp
    | some found =>
      by_cases nothing : found = []
      · simp only [nothing, ↓reduceIte, reduceCtorEq, Option.some.injEq, false_iff]
        rintro ⟨same, nonempty⟩
        exact nonempty same.symm
      · simp only [nothing, ↓reduceIte, Option.some.injEq]
        constructor
        · intro same
          exact ⟨same, same ▸ nothing⟩
        · exact fun h => h.1

theorem deny_not_allowed (rule : Rule) (reason : String) (normalizedPath : Option String) :
    (deny rule reason normalizedPath).allowed = false := rfl

theorem protected_iff (second : List Char) :
    String.ofList (lower (rstrip [' ', '.'] second)) ∈ protectedSegments ↔
      lower (rstrip [' ', '.'] second) = "secrets".toList := by
  rw [protectedSegments, List.mem_singleton]
  constructor
  · intro same
    rw [← same, String.toList_ofList]
  · intro same
    rw [same, String.ofList_toList]

theorem ambiguous_iff (segment : List Char) :
    segment = rstrip [' ', '.'] segment ↔
      ∀ c, segment.getLast? = some c → c ≠ ' ' ∧ c ≠ '.' := by
  rw [eq_comm, rstrip_eq_self_iff]
  simp

theorem evaluateSegments_inner {first second : List Char} {rest : List (List Char)}
    (inside : lower first = sandboxRoot.toList)
    (plain : ¬ (first :: second :: rest).any (fun segment => ':' ∈ segment) = true) :
    evaluateSegments (first :: second :: rest) =
      let normalized := String.ofList (join '/' (first :: second :: rest))
      let protectedCandidate := String.ofList (lower (rstrip [' ', '.'] second))
      if protectedCandidate ∈ protectedSegments then
        deny .protectedPath
          (sandboxRoot ++ "/" ++ protectedCandidate ++
            "/ is a protected directory; access is denied.") (some normalized)
      else if (first :: second :: rest).any
          (fun segment => segment ≠ rstrip [' ', '.'] segment) then
        deny .unparseablePath "Request contains a platform-ambiguous path segment."
          (some normalized)
      else
        { allowed := true
          rule := .sandboxAllow
          reason := "Ordinary resource inside the " ++ sandboxRoot ++ "/ sandbox."
          normalizedPath := some normalized } := by
  have root : ¬ lower ((first :: second :: rest).headD []) ≠ sandboxRoot.toList :=
    not_not.mpr inside
  unfold evaluateSegments
  dsimp only
  rw [if_neg root, if_neg plain]
  rfl

theorem evaluateSegments_allowed_iff {segments : List (List Char)} (nonempty : segments ≠ []) :
    (evaluateSegments segments).allowed = true ↔ Served segments := by
  obtain ⟨first, inner, rfl⟩ := List.exists_cons_of_ne_nil nonempty
  by_cases inside : lower first = sandboxRoot.toList
  case neg =>
    simp only [evaluateSegments, List.headD_cons, ne_eq, inside, not_false_eq_true, ↓reduceIte,
      deny_not_allowed, Bool.false_eq_true, false_iff]
    exact fun served => inside (served.root first rfl)
  by_cases stream : (first :: inner).any (fun segment => ':' ∈ segment) = true
  case pos =>
    simp only [evaluateSegments, List.headD_cons, ne_eq, inside, not_true_eq_false, stream,
      ↓reduceIte, deny_not_allowed, Bool.false_eq_true, false_iff]
    obtain ⟨segment, member, colon⟩ := List.any_eq_true.mp stream
    exact fun served => served.no_stream segment member (by simpa using colon)
  cases inner with
  | nil =>
    simp only [evaluateSegments, List.headD_cons, ne_eq, inside, not_true_eq_false, stream,
      ↓reduceIte, List.tail_cons, deny_not_allowed, Bool.false_eq_true, false_iff]
    exact fun served => absurd served.deep (by simp)
  | cons second rest =>
    by_cases guarded : lower (rstrip [' ', '.'] second) = "secrets".toList
    case pos =>
      rw [evaluateSegments_inner inside stream, if_pos ((protected_iff second).mpr guarded)]
      simp only [deny_not_allowed, Bool.false_eq_true, false_iff]
      exact fun served => served.unprotected second rfl guarded
    have unguarded := mt (protected_iff second).mp guarded
    by_cases ambiguous :
        (first :: second :: rest).any (fun segment => segment ≠ rstrip [' ', '.'] segment) = true
    case pos =>
      rw [evaluateSegments_inner inside stream, if_neg unguarded, if_pos ambiguous]
      simp only [deny_not_allowed, Bool.false_eq_true, false_iff]
      obtain ⟨segment, member, differ⟩ := List.any_eq_true.mp ambiguous
      intro served
      exact absurd ((ambiguous_iff segment).mpr (served.unambiguous segment member))
        (by simpa using differ)
    rw [evaluateSegments_inner inside stream, if_neg unguarded, if_neg ambiguous]
    simp only [true_iff]
    refine ⟨by simp, ?_, ?_, ?_, ?_⟩
    · intro f same
      obtain rfl := Option.some.inj same
      exact inside
    · intro s same
      obtain rfl := Option.some.inj same
      exact guarded
    · intro segment member colon
      exact stream (List.any_eq_true.mpr ⟨segment, member, by simpa using colon⟩)
    · intro segment member
      refine (ambiguous_iff segment).mp ?_
      by_contra differ
      exact ambiguous (List.any_eq_true.mpr ⟨segment, member, by simpa using differ⟩)

theorem evaluateSegments_path (segments : List (List Char)) :
    (evaluateSegments segments).normalizedPath = some (String.ofList (join '/' segments)) := by
  unfold evaluateSegments
  dsimp only
  split
  · rfl
  · split
    · rfl
    · split
      · rfl
      · split
        · rfl
        · split <;> rfl

theorem evaluateStripped_relative {s : List Char} (no_scheme : ¬ "://".toList <:+: s)
    (relative : ∀ c, s.head? = some c → c ≠ '/' ∧ c ≠ '\\' ∧ c ≠ '~') (no_drive : s[1]? ≠ some ':') :
    evaluateStripped s = match normalize s with
      | none => deny .unparseablePath "Request could not be resolved to a sandbox path." none
      | some segments => evaluateSegments segments := by
  have scheme : ¬ contains "://".toList s = true := mt (contains_iff _ s).mp no_scheme
  have head : ¬ s.headD ' ' ∈ ['/', '\\', '~'] := by
    cases s with
    | nil => decide
    | cons c cs =>
      have h := relative c rfl
      simpa using h
  unfold evaluateStripped
  exact (if_neg scheme).trans ((if_neg head).trans (if_neg no_drive))

theorem evaluate_raw_checked {r : String} (checked : PassesRawChecks r) :
    evaluate (.text r) = match normalize (strip r.toList) with
      | none => deny .unparseablePath "Request could not be resolved to a sandbox path." none
      | some segments => evaluateSegments segments := by
  have short : ¬ r.toList.length > maxPathLength := Nat.not_lt.mpr checked.short
  simp only [evaluate, if_neg short, if_neg checked.no_null, if_neg checked.nonempty]
  exact evaluateStripped_relative checked.no_scheme checked.relative checked.no_drive

theorem evaluate_allowed_checked {r : String} (allowed : (evaluate (.text r)).allowed = true) :
    PassesRawChecks r := by
  by_cases short : r.toList.length > maxPathLength
  case pos => simp [evaluate, short, deny] at allowed
  by_cases null : Char.ofNat 0 ∈ r.toList
  case pos => simp [evaluate, short, null, deny] at allowed
  by_cases empty : strip r.toList = []
  case pos => simp [evaluate, short, null, empty, deny] at allowed
  simp only [evaluate, short, null, empty, ↓reduceIte] at allowed
  by_cases scheme : contains "://".toList (strip r.toList) = true
  case pos => simp only [evaluateStripped, scheme, ↓reduceIte, deny_not_allowed,
    Bool.false_eq_true] at allowed
  by_cases head : (strip r.toList).headD ' ' ∈ ['/', '\\', '~']
  case pos => simp only [evaluateStripped, scheme, head, ↓reduceIte, deny_not_allowed,
    Bool.false_eq_true] at allowed
  by_cases drive : (strip r.toList)[1]? = some ':'
  case pos => simp only [evaluateStripped, scheme, head, drive, ↓reduceIte, deny_not_allowed,
    Bool.false_eq_true] at allowed
  refine ⟨Nat.not_lt.mp short, null, empty, mt (contains_iff _ _).mpr scheme, ?_, drive⟩
  intro c first
  rw [List.headD_eq_head?_getD, first] at head
  simpa using head

theorem evaluate_resolved {r : String} (checked : PassesRawChecks r)
    {segments : List (List Char)} (resolves : LexicallyResolves (strip r.toList) segments)
    (nonempty : segments ≠ []) : evaluate (.text r) = evaluateSegments segments := by
  rw [evaluate_raw_checked checked,
    (normalize_some_iff (strip_trimmed _) segments).mpr ⟨resolves, nonempty⟩]

theorem served_nonempty {segments : List (List Char)} (served : Served segments) :
    segments ≠ [] := by
  intro empty
  have deep := served.deep
  simp [empty] at deep

theorem allowed_resolution {r : String} (allowed : (evaluate (.text r)).allowed = true) :
    PassesRawChecks r ∧ ∃ segments, LexicallyResolves (strip r.toList) segments ∧
      Served segments ∧
      (evaluate (.text r)).normalizedPath = some (String.ofList (join '/' segments)) := by
  have checked := evaluate_allowed_checked allowed
  refine ⟨checked, ?_⟩
  have decided := evaluate_raw_checked checked
  cases run : normalize (strip r.toList) with
  | none =>
    rw [decided, run] at allowed
    simp [deny] at allowed
  | some segments =>
    obtain ⟨resolves, nonempty⟩ := (normalize_some_iff (strip_trimmed _) segments).mp run
    have same := evaluate_resolved checked resolves nonempty
    rw [same] at allowed
    refine ⟨segments, resolves, (evaluateSegments_allowed_iff nonempty).mp allowed, ?_⟩
    rw [same, evaluateSegments_path]

theorem resolution_allowed {r : String} (checked : PassesRawChecks r)
    {segments : List (List Char)} (resolves : LexicallyResolves (strip r.toList) segments)
    (served : Served segments) : (evaluate (.text r)).allowed = true := by
  have nonempty := served_nonempty served
  rw [evaluate_resolved checked resolves nonempty]
  exact (evaluateSegments_allowed_iff nonempty).mpr served

theorem same_resolution_same_normalize {s t : List Char} (hs : Trimmed s) (ht : Trimmed t)
    (same : ∀ segments, LexicallyResolves s segments ↔ LexicallyResolves t segments) :
    normalize s = normalize t := by
  refine Option.ext fun segments => ?_
  rw [normalize_some_iff hs, normalize_some_iff ht, same]

/-- The policy accepts exactly its language, names the resolution it accepted, and
    decides on nothing but the resolution once the raw checks are passed. -/
theorem policy_accepts_language (r r' : String) :
    ((evaluate (.text r)).allowed = true ↔
      PassesRawChecks r ∧
        ∃ segments, LexicallyResolves (strip r.toList) segments ∧ Served segments) ∧
    (∀ segments, (evaluate (.text r)).allowed = true →
      LexicallyResolves (strip r.toList) segments →
      (evaluate (.text r)).normalizedPath = some (String.ofList (join '/' segments))) ∧
    (PassesRawChecks r → PassesRawChecks r' →
      (∀ segments, LexicallyResolves (strip r.toList) segments ↔
        LexicallyResolves (strip r'.toList) segments) →
      evaluate (.text r) = evaluate (.text r')) := by
  refine ⟨⟨?_, ?_⟩, ?_, ?_⟩
  · intro allowed
    obtain ⟨checked, segments, resolves, served, _⟩ := allowed_resolution allowed
    exact ⟨checked, segments, resolves, served⟩
  · rintro ⟨checked, segments, resolves, served⟩
    exact resolution_allowed checked resolves served
  · intro segments allowed resolves
    obtain ⟨_, found, first, _, named⟩ := allowed_resolution allowed
    rw [resolves_unique resolves first]
    exact named
  · intro checked checked' same
    rw [evaluate_raw_checked checked, evaluate_raw_checked checked',
      same_resolution_same_normalize (strip_trimmed _) (strip_trimmed _) same]

end AgentShield.Policy
