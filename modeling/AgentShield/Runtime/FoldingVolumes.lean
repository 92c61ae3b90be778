import AgentShield.Lib.CaseFolding
import AgentShield.Runtime.PolicyLanguage

/-!
The policy against a volume that folds case, as those of macOS and Windows do: two names are
one file when their simple case foldings agree, trailing spaces and periods taken off.
-/
namespace AgentShield.Policy
open Text Lexical

/-- What such a volume knows a name by. -/
def volumeName (name : List Char) : List Char := caseFold (rstrip [' ', '.'] name)

def pathNames (path : String) : List (List Char) := path.toList.splitOn '/'

/-- The path begins in the sandbox, and its second name is not that of the protected directory. -/
def OutsideSecrets (path : String) : Prop :=
  ((pathNames path)[0]?.map volumeName) = some sandboxRoot.toList ∧
    ∃ second, (pathNames path)[1]? = some second ∧ volumeName second ≠ "secrets".toList

/-- The second segment of the request spells the protected directory with a long s. -/
def SpellsLongS (r : String) : Prop :=
  ∃ segments second, LexicallyResolves (strip r.toList) segments ∧ segments[1]? = some second ∧
    longS ∈ second ∧ lower (replace longS 's' second) = "secrets".toList

theorem volumeName_unambiguous {segment : List Char}
    (plain : ∀ c, segment.getLast? = some c → c ≠ ' ' ∧ c ≠ '.') :
    volumeName segment = caseFold segment := by
  unfold volumeName
  rw [← (ambiguous_iff segment).mpr plain]

theorem resolution_names {s : List Char} {segments : List (List Char)}
    (resolves : LexicallyResolves s segments) (nonempty : segments ≠ []) :
    pathNames (String.ofList (join '/' segments)) = segments := by
  unfold pathNames
  rw [String.toList_ofList]
  apply split_join '/' nonempty
  intro segment member
  obtain ⟨raw, inside, down⟩ := List.mem_map.mp (resolves_names resolves segment member)
  rw [← down_of_segmentMove down]
  exact split_absent '/' _ raw inside

theorem plain_of_all {s : List Char} (all : (s.all fun d => ascii d ∧ d ≠ 'k') = true) :
    ∀ d ∈ s, ascii d ∧ d ≠ 'k' := by
  intro d member
  exact of_decide_eq_true (List.all_eq_true.mp all d member)

theorem sandbox_folds {first : List Char} (root : lower first = sandboxRoot.toList) :
    caseFold first = sandboxRoot.toList := by
  have plain : ∀ d ∈ lower first, ascii d ∧ d ≠ 'k' := by
    rw [root]
    exact plain_of_all (by decide)
  rw [caseFold_ascii (lower_plain plain), root]

theorem secrets_fold_iff {second : List Char} (unprotected : lower second ≠ "secrets".toList) :
    caseFold second = "secrets".toList ↔
      longS ∈ second ∧ lower (replace longS 's' second) = "secrets".toList := by
  have plain : ∀ d ∈ "secrets".toList, ascii d ∧ d ≠ 'k' := plain_of_all (by decide)
  rw [caseFold_word_iff plain]
  constructor
  · intro spelled
    refine ⟨?_, spelled⟩
    by_contra short
    rw [replace_eq_self short] at spelled
    exact unprotected spelled
  · exact fun long => long.2

/-- An allowed path stays out of the protected directory of a volume that folds case, except
    when it spells the directory with a long s. -/
theorem outside_secrets_iff (r : String) (allowed : (evaluate (.text r)).allowed = true) :
    ∃ path, (evaluate (.text r)).normalizedPath = some path ∧
      (OutsideSecrets path ↔ ¬ SpellsLongS r) := by
  obtain ⟨_, segments, resolves, served, named⟩ := allowed_resolution allowed
  have nonempty := served_nonempty served
  have names := resolution_names resolves nonempty
  refine ⟨_, named, ?_⟩
  obtain ⟨first, second, rest, rfl⟩ : ∃ first second rest, segments = first :: second :: rest := by
    match segments, served.deep with
    | first :: second :: rest, _ => exact ⟨first, second, rest, rfl⟩
  have plain := served.unambiguous
  have inside : volumeName first = sandboxRoot.toList := by
    rw [volumeName_unambiguous (plain first (by simp))]
    exact sandbox_folds (served.root first rfl)
  have name := volumeName_unambiguous (plain second (by simp))
  have unprotected : lower second ≠ "secrets".toList := by
    have kept := served.unprotected second rfl
    rwa [← (ambiguous_iff second).mpr (plain second (by simp))] at kept
  have long : SpellsLongS r ↔ caseFold second = "secrets".toList := by
    rw [secrets_fold_iff unprotected]
    constructor
    · rintro ⟨other, second', resolves', here, long⟩
      rw [resolves_unique resolves' resolves] at here
      obtain rfl := Option.some.inj here
      exact long
    · intro long
      exact ⟨_, second, resolves, rfl, long⟩
  rw [long, ← name]
  unfold OutsideSecrets
  rw [names]
  constructor
  · rintro ⟨_, second', here, outside⟩
    obtain rfl := Option.some.inj here
    exact outside
  · intro outside
    exact ⟨congrArg some inside, second, rfl, outside⟩

theorem docs_stay_outside :
    (evaluate (.text "Demo_Target/docs/readme.md")).allowed = true ∧
      ∃ path, (evaluate (.text "Demo_Target/docs/readme.md")).normalizedPath = some path ∧
        (OutsideSecrets path ↔ ¬ SpellsLongS "Demo_Target/docs/readme.md") := by
  have allowed : (evaluate (.text "Demo_Target/docs/readme.md")).allowed = true := by decide
  exact ⟨allowed, outside_secrets_iff _ allowed⟩

def longSRequest : String := "demo_target/\u017Fecrets/demo_secret.txt"

theorem longSRequest_names : (pathNames longSRequest).map volumeName =
    ["demo_target".toList, "secrets".toList, "demo_secret.txt".toList] := by decide

/-- Allowed, and on a volume that folds case the protected file. -/
theorem long_s_reaches_the_secret :
    (evaluate (.text longSRequest)).allowed = true ∧
      (evaluate (.text longSRequest)).normalizedPath = some longSRequest ∧
      ¬ OutsideSecrets longSRequest := by
  refine ⟨by decide, by decide, ?_⟩
  rintro ⟨_, second, here, outside⟩
  have name : ((pathNames longSRequest).map volumeName)[1]? = some (volumeName second) := by
    rw [List.getElem?_map, here]
    rfl
  rw [longSRequest_names] at name
  exact outside (Option.some.inj name).symm

end AgentShield.Policy
