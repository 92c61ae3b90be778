import AgentShield.Lib.Replacement
import AgentShield.Lib.Text

/-!
The deterministic patch of the token module (`workswarm/patcher.py`) and its textual
revert (`workswarm/reset_demo.py`).
-/
namespace AgentShield.WorkSwarm
open Replacement

def text (lines : List String) : List Char := lines.flatMap fun line => line.toList ++ ['\n']

def vulnerableBlock : List Char := text
  ["    try:",
   "        int(encoded_expiry)",
   "    except ValueError as exc:",
   "        raise AuthError(\"malformed token\") from exc",
   "",
   "    return user_id"]

def patchedBlock : List Char := text
  ["    try:",
   "        expires_at = int(encoded_expiry)",
   "    except ValueError as exc:",
   "        raise AuthError(\"malformed token\") from exc",
   "",
   "    # A signed token whose expires_at has passed must be rejected: a signature",
   "    # check alone makes every token ever issued valid forever, which turns a",
   "    # single leaked token into permanent access.",
   "    current_time = time.time() if now is None else now",
   "    if current_time >= expires_at:",
   "        raise AuthError(\"token expired\")",
   "",
   "    return user_id"]

def regressionTestSource : List Char := text
  ["\"\"\"Regression coverage for the session-expiry vulnerability.",
   "",
   "Fails against the unpatched `verify_token()`, which checks the signature and",
   "ignores `expires_at`; passes once expiry is enforced.",
   "\"\"\"",
   "",
   "import pytest",
   "",
   "from app.auth import AuthError, issue_token, verify_token",
   "",
   "SIGNING_KEY = \"demo-service-signing-key\"",
   "NOW = 1_700_000_000.0",
   "",
   "",
   "def test_expired_token_is_rejected():",
   "    token = issue_token(\"alice\", SIGNING_KEY, ttl_seconds=900, now=NOW)",
   "    with pytest.raises(AuthError):",
   "        verify_token(token, SIGNING_KEY, now=NOW + 901)",
   "",
   "",
   "def test_token_is_still_accepted_before_it_expires():",
   "    token = issue_token(\"alice\", SIGNING_KEY, ttl_seconds=900, now=NOW)",
   "    assert verify_token(token, SIGNING_KEY, now=NOW + 899) == \"alice\""]

def patchedMarker : List Char := "token expired".toList

inductive PatchViolation where
  | alreadyPatched
  | unexpectedShape
  deriving DecidableEq

/- `deterministic_auth_patch`, given the module's source: its source when patched, and the
   source of the test. -/
def deterministicAuthPatch (source : List Char) :
    Except PatchViolation (List Char × List Char) :=
  if ¬ Text.contains vulnerableBlock source then
    if Text.contains patchedMarker source then .error .alreadyPatched
    else .error .unexpectedShape
  else .ok (replace vulnerableBlock patchedBlock source, regressionTestSource)

inductive ResetExit where
  | patchedByModel
  | stillPatched
  deriving DecidableEq

def fallbackTextualRevert (source : List Char) : Except ResetExit (List Char) :=
  if ¬ Text.contains patchedMarker source then .ok source
  else if Text.contains patchedBlock source then
    .ok (replace patchedBlock vulnerableBlock source)
  else .error .patchedByModel

def verifyVulnerableBaseline (source : List Char) : Except ResetExit Unit :=
  if Text.contains patchedMarker source then .error .stillPatched else .ok ()

theorem text_cons (line : String) (lines : List String) :
    text (line :: lines) = line.toList ++ '\n' :: text lines := by simp [text]

theorem text_behind {line : String} {lines others : List String}
    (start : text (line :: lines) <+: text (line :: others)) : text lines <+: text others := by
  rw [text_cons, text_cons, List.prefix_append_right_inj] at start
  exact (List.cons_prefix_cons.mp start).2

theorem text_last (lines : List String) (last : String) :
    (text (lines ++ [last])).getLast? = some '\n' := by simp [text]

theorem suffix_newline {part line : List Char} (single : '\n' ∉ part) (nonempty : part ≠ []) :
    ¬ part <:+ line ++ ['\n'] := by
  intro finish
  rcases List.suffix_concat_iff.mp finish with rfl | ⟨t, rfl, -⟩
  · exact nonempty rfl
  · simp at single

theorem line_or_behind {part line : List Char} {lines : List String} (single : '\n' ∉ part)
    (nonempty : part ≠ []) (inside : part <:+: line ++ '\n' :: text lines) :
    part <:+: line ∨ part <:+: text lines := by
  have split : line ++ '\n' :: text lines = (line ++ ['\n']) ++ text lines := by simp
  rw [split, List.infix_append_iff] at inside
  rcases inside with here | later | ⟨front, back, rfl, ends, starts⟩
  · rcases List.infix_concat_iff.mp here with finish | inner
    · exact absurd finish (suffix_newline single nonempty)
    · exact Or.inl inner
  · exact Or.inr later
  · cases front with
    | nil => exact Or.inr starts.isInfix
    | cons c front =>
      refine absurd ends (suffix_newline (fun member => single ?_) (by simp))
      exact List.mem_append_left _ member

theorem inside_line {part : List Char} (single : '\n' ∉ part) (nonempty : part ≠ [])
    {lines : List String} (inside : part <:+: text lines) :
    ∃ line ∈ lines, part <:+: line.toList := by
  induction lines with
  | nil => exact absurd (List.infix_nil.mp inside) nonempty
  | cons line lines ih =>
    rw [text_cons] at inside
    rcases line_or_behind single nonempty inside with here | later
    · exact ⟨line, by simp, here⟩
    · obtain ⟨other, member, found⟩ := ih later
      exact ⟨other, by simp [member], found⟩

theorem line_inside {lines : List String} {line : String} (member : line ∈ lines) :
    line.toList <:+: text lines := by
  obtain ⟨before, after, rfl⟩ := List.append_of_mem member
  exact ⟨text before, '\n' :: text after, by simp [text]⟩

section
variable {s : String} {l : List Char} (spelled : s = String.ofList l)
include spelled

theorem toList_spelled : s.toList = l := by rw [spelled, String.toList_ofList]

theorem absent_spelled {c : Char} (absent : c ∉ l) : c ∉ s.toList := by
  rwa [toList_spelled spelled]

end

def blockHead : List Char := [' ', ' ', ' ', ' ', 't', 'r', 'y', ':']

theorem head_start (lines : List String) : blockHead <+: text ("    try:" :: lines) := by
  rw [text_cons, toList_spelled rfl]
  exact List.prefix_append blockHead _

theorem head_once {lines : List String}
    (apart : ∀ line ∈ lines, 'y' ∉ line.toList ∨ ':' ∉ line.toList) :
    ¬ blockHead <:+: (text ("    try:" :: lines)).drop 1 := by
  have cut : (text ("    try:" :: lines)).drop 1 = blockHead.drop 1 ++ '\n' :: text lines := by
    rw [text_cons, toList_spelled rfl]
    rfl
  intro inside
  rw [cut] at inside
  rcases line_or_behind (by decide) (by decide) inside with here | later
  · exact absurd here.length_le (by decide)
  · obtain ⟨line, member, found⟩ := inside_line (by decide) (by decide) later
    have both : 'y' ∈ blockHead ∧ ':' ∈ blockHead := by decide
    rcases apart line member with absent | absent
    · exact absent (found.subset both.1)
    · exact absent (found.subset both.2)

theorem marker_spelled : patchedMarker =
    ['t', 'o', 'k', 'e', 'n', ' ', 'e', 'x', 'p', 'i', 'r', 'e', 'd'] :=
  toList_spelled rfl

theorem marker_inside : patchedMarker <:+: patchedBlock := by
  have line : patchedMarker <:+: "        raise AuthError(\"token expired\")".toList := by
    rw [marker_spelled, toList_spelled rfl, ← Text.contains_iff]
    decide
  exact line.trans (line_inside (by simp))

theorem patched_marked : Marked patchedBlock patchedMarker where
  nonempty := by
    rw [marker_spelled]
    decide
  inside := marker_inside
  parted := by
    rintro front back split first second start
    have pair : back.take 2 <+: [' ', ' '] := by
      have whole := (head_start _).trans (List.prefix_refl patchedBlock)
      obtain ⟨rest, spelled⟩ := whole
      rw [← spelled] at start
      exact start.take 2
    have checked : ∀ i < 13, 0 < i → ¬ (patchedMarker.drop i).take 2 <+: [' ', ' '] := by
      rw [marker_spelled]
      decide
    have size : front.length + back.length = 13 := by
      rw [← List.length_append, ← split, marker_spelled]
      rfl
    have some_ := List.length_pos_iff.mpr first
    have more := List.length_pos_iff.mpr second
    refine checked front.length (by omega) some_ ?_
    rwa [split, List.drop_left]

theorem text_longer (first : String) {short long : String} (lines extra last : List String)
    (longer : short.toList.length ≤ long.toList.length) :
    (text (first :: short :: (lines ++ last))).length ≤
      (text (first :: long :: (lines ++ (extra ++ last)))).length := by
  simp only [text, List.flatMap_cons, List.flatMap_append, List.length_append]
  omega

theorem blocks_apart : Apart vulnerableBlock patchedBlock := by
  have oldOnce : ¬ blockHead <:+: vulnerableBlock.drop 1 := head_once (by
    simp only [List.forall_mem_cons]
    exact ⟨Or.inr (absent_spelled rfl (by decide)), Or.inl (absent_spelled rfl (by decide)),
      Or.inl (absent_spelled rfl (by decide)), Or.inl (absent_spelled rfl (by decide)),
      Or.inl (absent_spelled rfl (by decide)), by simp⟩)
  have newOnce : ¬ blockHead <:+: patchedBlock.drop 1 := head_once (by
    simp only [List.forall_mem_cons]
    exact ⟨Or.inr (absent_spelled rfl (by decide)), Or.inl (absent_spelled rfl (by decide)),
      Or.inl (absent_spelled rfl (by decide)), Or.inl (absent_spelled rfl (by decide)),
      Or.inl (absent_spelled rfl (by decide)), Or.inr (absent_spelled rfl (by decide)),
      Or.inl (absent_spelled rfl (by decide)), Or.inl (absent_spelled rfl (by decide)),
      Or.inl (absent_spelled rfl (by decide)), Or.inl (absent_spelled rfl (by decide)),
      Or.inl (absent_spelled rfl (by decide)), Or.inl (absent_spelled rfl (by decide)), by simp⟩)
  have second : "        int(encoded_expiry)".toList.length ≤
      "        expires_at = int(encoded_expiry)".toList.length := by
    rw [toList_spelled rfl, toList_spelled rfl]
    decide
  have shorter : vulnerableBlock.length ≤ patchedBlock.length :=
    text_longer _ [_, _, _] [_, _, _, _, _, _, _] [_] second
  have differ : ¬ vulnerableBlock <+: patchedBlock := by
    intro start
    have behind := text_behind start
    rw [text_cons "        int(encoded_expiry)",
      text_cons "        expires_at = int(encoded_expiry)", toList_spelled rfl,
      toList_spelled rfl] at behind
    simp only [List.cons_append, List.cons_prefix_cons] at behind
    exact absurd behind.2.2.2.2.2.2.2.2.1 (by decide)
  exact apart_of_head (head_start _) (head_start _) (text_last [_, _, _, _, _] _)
    (text_last [_, _, _, _, _, _, _, _, _, _, _, _] _) (by decide) oldOnce newOnce differ shorter

/-- A baseline module that has the vulnerable block is patched, and one without it is refused.
    The patched module is refused a second time and is no baseline; the textual revert makes
    it the source it was, and leaves a baseline as it is. -/
theorem reset_undoes_patch (source : List Char)
    (baseline : verifyVulnerableBaseline source = .ok ()) :
    fallbackTextualRevert source = .ok source ∧
    (deterministicAuthPatch source = .error .unexpectedShape ∧ ¬ vulnerableBlock <:+: source ∨
      vulnerableBlock <:+: source ∧
      ∃ patched, deterministicAuthPatch source = .ok (patched, regressionTestSource) ∧
        deterministicAuthPatch patched = .error .alreadyPatched ∧
        verifyVulnerableBaseline patched = .error .stillPatched ∧
        fallbackTextualRevert patched = .ok source) := by
  have unmarked : ¬ patchedMarker <:+: source := by
    rw [← Text.contains_iff]
    intro marked
    rw [verifyVulnerableBaseline, if_pos marked] at baseline
    cases baseline
  have absent : Text.contains patchedMarker source = false := by
    rwa [← Bool.not_eq_true, Text.contains_iff]
  have nonempty : vulnerableBlock ≠ [] := by
    have head : blockHead <+: vulnerableBlock := head_start _
    intro empty
    rw [empty, List.prefix_nil] at head
    cases head
  refine ⟨by simp [fallbackTextualRevert, absent], ?_⟩
  by_cases vulnerable : vulnerableBlock <:+: source
  · have block : Text.contains vulnerableBlock source = true :=
      (Text.contains_iff _ _).mpr vulnerable
    have gone : Text.contains vulnerableBlock (replace vulnerableBlock patchedBlock source) =
        false := by
      rw [← Bool.not_eq_true, Text.contains_iff]
      exact replaced_absent nonempty blocks_apart source
    have new_ : Text.contains patchedBlock (replace vulnerableBlock patchedBlock source) = true :=
      (Text.contains_iff _ _).mpr (replaced_inside nonempty vulnerable)
    have marked : Text.contains patchedMarker (replace vulnerableBlock patchedBlock source) =
        true :=
      (Text.contains_iff _ _).mpr (marker_inside.trans ((Text.contains_iff _ _).mp new_))
    refine Or.inr ⟨vulnerable, replace vulnerableBlock patchedBlock source, ?_, ?_, ?_, ?_⟩
    · simp [deterministicAuthPatch, block]
    · simp [deterministicAuthPatch, gone, marked]
    · simp [verifyVulnerableBaseline, marked]
    · simp [fallbackTextualRevert, marked, new_, replace_back nonempty patched_marked unmarked]
  · have block : Text.contains vulnerableBlock source = false := by
      rwa [← Bool.not_eq_true, Text.contains_iff]
    exact Or.inl ⟨by simp [deterministicAuthPatch, block, absent], vulnerable⟩

theorem vulnerable_baseline : verifyVulnerableBaseline vulnerableBlock = .ok () := by
  have apart : ∀ line ∈ ["    try:", "        int(encoded_expiry)", "    except ValueError as exc:",
      "        raise AuthError(\"malformed token\") from exc", "", "    return user_id"],
      'k' ∉ line.toList ∨ 'p' ∉ line.toList := by
    simp only [List.forall_mem_cons]
    exact ⟨Or.inl (absent_spelled rfl (by decide)), Or.inl (absent_spelled rfl (by decide)),
      Or.inl (absent_spelled rfl (by decide)), Or.inr (absent_spelled rfl (by decide)),
      Or.inl (absent_spelled rfl (by decide)), Or.inl (absent_spelled rfl (by decide)), by simp⟩
  have unmarked : ¬ Text.contains patchedMarker vulnerableBlock = true := by
    rw [Text.contains_iff, marker_spelled]
    intro inside
    obtain ⟨line, member, found⟩ := inside_line (by decide) (by decide) inside
    rcases apart line member with absent | absent
    · exact absent (found.subset (by decide))
    · exact absent (found.subset (by decide))
  exact if_neg unmarked

theorem reset_undoes_patch_of_block :
    fallbackTextualRevert vulnerableBlock = .ok vulnerableBlock ∧
      ∃ patched, deterministicAuthPatch vulnerableBlock = .ok (patched, regressionTestSource) ∧
        fallbackTextualRevert patched = .ok vulnerableBlock := by
  obtain ⟨same, refused | ⟨-, patched, done, -, -, reverted⟩⟩ :=
    reset_undoes_patch vulnerableBlock vulnerable_baseline
  · exact absurd (List.infix_refl _) refused.2
  · exact ⟨same, patched, done, reverted⟩

end AgentShield.WorkSwarm
