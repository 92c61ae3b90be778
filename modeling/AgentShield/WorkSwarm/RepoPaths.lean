import AgentShield.Runtime.PolicyLanguage

/-!
Where the workers' paths are (`workswarm/config.py`): a worker names a path of its own
workspace, and the policy is asked about one of the repository.
-/
namespace AgentShield.WorkSwarm
open Text Lexical Policy

def sandboxPrefix : String := "demo_target/"

def rootName : List Char := sandboxRoot.toList

def alreadyRooted (candidate : List Char) : Bool :=
  sandboxPrefix.toList.isPrefixOf (lower candidate) ||
    lower candidate == rstrip ['/'] sandboxPrefix.toList

/- A scheme, something absolute or that starts with a dot, a drive. -/
def namesElsewhere (candidate : List Char) : Bool :=
  contains "://".toList candidate || candidate.headD ' ' ∈ ['/', '~', '.'] ||
    candidate[1]? = some ':'

def toRepoRelative (requested : String) : String :=
  let candidate := replace '\\' '/' (strip requested.toList)
  if candidate = [] then requested
  else if alreadyRooted candidate then String.ofList candidate
  else if namesElsewhere candidate then String.ofList candidate
  else sandboxPrefix ++ String.ofList (candidate.dropWhile (· = '/'))

def policyRequestPaths (requested : List String) : List String := requested.map toRepoRelative

example : policyRequestPaths ["secrets\\demo_secret.txt ", "./app/auth.py"]
    = ["demo_target/secrets/demo_secret.txt", "./app/auth.py"] := by decide

def spelling (s : String) : List Char := replace '\\' '/' (strip s.toList)

def moves (s : String) : List (Move (List Char)) := ((spelling s).splitOn '/').map segmentMove

/-- What the checks of the raw text ask of a spelling, its length apart. -/
structure Relative (s : String) : Prop where
  nonempty : spelling s ≠ []
  no_null : Char.ofNat 0 ∉ spelling s
  no_scheme : ¬ "://".toList <:+: spelling s
  relative : ∀ c, (spelling s).head? = some c → c ≠ '/' ∧ c ≠ '~'
  no_drive : (spelling s)[1]? ≠ some ':'

/- The translation puts the sandbox before a spelling that is `Relative`. -/
def Unrooted (s : String) : Prop :=
  alreadyRooted (spelling s) = false ∧ (spelling s).head? ≠ some '.'

theorem replace_trimmed {s : List Char} (trimmed : Trimmed s) : Trimmed (replace '\\' '/' s) := by
  have plain : ∀ c, isSpace c = false → isSpace (if c = '\\' then '/' else c) = false := by
    intro c notSpace
    split
    · decide
    · exact notSpace
  constructor
  · intro c head
    simp only [replace, List.head?_map, Option.map_eq_some_iff] at head
    obtain ⟨d, first, rfl⟩ := head
    exact plain d (trimmed.1 d first)
  · intro c last
    simp only [replace, List.getLast?_map, Option.map_eq_some_iff] at last
    obtain ⟨d, final, rfl⟩ := last
    exact plain d (trimmed.2 d final)

theorem spelling_trimmed (s : String) : Trimmed (spelling s) :=
  replace_trimmed (strip_trimmed s.toList)

theorem spelling_slashed (s : String) : '\\' ∉ spelling s := replace_absent (by decide) _

/-- A text whose spelling is relative passes the raw checks, if it is short. -/
theorem relative_checks {s : String} (relative : Relative s)
    (short : s.toList.length ≤ maxPathLength) : PassesRawChecks s where
  short := short
  no_null := by
    intro null
    apply relative.no_null
    refine List.mem_map.mpr ⟨_, strip_keeps null (by decide), ?_⟩
    rfl
  nonempty := by
    intro empty
    apply relative.nonempty
    rw [spelling, empty]
    rfl
  no_scheme := by
    intro scheme
    apply relative.no_scheme
    exact scheme.map fun c => if c = '\\' then '/' else c
  relative := by
    intro c first
    have head : (spelling s).head? = some (if c = '\\' then '/' else c) := by
      rw [spelling, replace, List.head?_map, first]
      rfl
    obtain ⟨slash, tilde⟩ := relative.relative _ head
    refine ⟨?_, ?_, ?_⟩
    · rintro rfl
      exact slash rfl
    · rintro rfl
      exact slash rfl
    · rintro rfl
      exact tilde rfl
  no_drive := by
    intro drive
    apply relative.no_drive
    rw [spelling, replace, List.getElem?_map, drive]
    rfl

end AgentShield.WorkSwarm
