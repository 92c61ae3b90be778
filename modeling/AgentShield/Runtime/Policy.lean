import AgentShield.Lib.Text
import AgentShield.Lib.Lexical

/-!
The deterministic policy decision (`runtime/policy.py`). Pure and total: every
input, a non-string included, gets a `Decision`.
-/
namespace AgentShield.Policy
open Text

def sandboxRoot : String := "demo_target"

def protectedSegments : List String := ["secrets"]

def maxPathLength : Nat := 512

inductive Rule where
  | sandboxAllow
  | protectedPath
  | outsideSandbox
  | unparseablePath
  /- Not a rule of the policy itself: the session answers with it for a quarantined worker. -/
  | quarantinedWorker
  deriving DecidableEq, Repr

def Rule.text : Rule → String
  | .sandboxAllow => "sandbox_allow"
  | .protectedPath => "protected_path"
  | .outsideSandbox => "outside_sandbox"
  | .unparseablePath => "unparseable_path"
  | .quarantinedWorker => "quarantined_worker"

structure Decision where
  allowed : Bool
  rule : Rule
  reason : String
  normalizedPath : Option String := none
  deriving DecidableEq, Repr

def Decision.decision (d : Decision) : String := if d.allowed then "allow" else "deny"

/- What a caller may pass to `evaluate`: a `str`, or any other object. -/
inductive Requested where
  | text (path : String)
  | other
  deriving DecidableEq, Repr

def deny (rule : Rule) (reason : String) (normalizedPath : Option String) : Decision :=
  { allowed := false, rule, reason, normalizedPath }

def normalizeLoop (segments : List (List Char)) : List (List Char) → Option (List (List Char))
  | [] => some segments
  | raw :: rest =>
    if raw = [] ∨ raw = ['.'] then normalizeLoop segments rest
    else if raw = ['.', '.'] then
      if segments.isEmpty then none else normalizeLoop segments.dropLast rest
    else normalizeLoop (segments ++ [raw]) rest

def normalize (resourcePath : List Char) : Option (List (List Char)) :=
  let candidate := replace '\\' '/' (strip resourcePath)
  if candidate = [] then none
  else match normalizeLoop [] (candidate.splitOn '/') with
    | none => none
    | some segments => if segments = [] then none else some segments

def evaluateSegments (segments : List (List Char)) : Decision :=
  let normalized := String.ofList (join '/' segments)
  if lower (segments.headD []) ≠ sandboxRoot.toList then
    deny .outsideSandbox
      ("Request resolves outside the " ++ sandboxRoot ++ "/ sandbox.") (some normalized)
  else if segments.any (fun segment => ':' ∈ segment) then
    deny .unparseablePath "Request contains unsupported stream syntax." (some normalized)
  else
    match segments.tail with
    | [] =>
      deny .outsideSandbox
        ("The " ++ sandboxRoot ++ "/ root is not itself a readable resource.") (some normalized)
    | second :: _ =>
      let protectedCandidate := String.ofList (lower (rstrip [' ', '.'] second))
      if protectedCandidate ∈ protectedSegments then
        deny .protectedPath
          (sandboxRoot ++ "/" ++ protectedCandidate ++
            "/ is a protected directory; access is denied.") (some normalized)
      else if segments.any (fun segment => segment ≠ rstrip [' ', '.'] segment) then
        deny .unparseablePath "Request contains a platform-ambiguous path segment."
          (some normalized)
      else
        { allowed := true
          rule := .sandboxAllow
          reason := "Ordinary resource inside the " ++ sandboxRoot ++ "/ sandbox."
          normalizedPath := some normalized }

/- `evaluate` on the text that passed the length, NUL and emptiness checks. -/
def evaluateStripped (stripped : List Char) : Decision :=
  if contains "://".toList stripped then
    deny .outsideSandbox "Request names a URL, not a sandbox resource." none
  else if stripped.headD ' ' ∈ ['/', '\\', '~'] then
    deny .outsideSandbox "Request is an absolute path outside the sandbox." none
  else if stripped[1]? = some ':' then
    deny .outsideSandbox "Request is an absolute path outside the sandbox." none
  else match normalize stripped with
    | none => deny .unparseablePath "Request could not be resolved to a sandbox path." none
    | some segments => evaluateSegments segments

def evaluate : Requested → Decision
  | .other => deny .unparseablePath "Request was not a path." none
  | .text resourcePath =>
    let chars := resourcePath.toList
    if chars.length > maxPathLength then
      deny .unparseablePath "Request exceeds the maximum path length." none
    else if Char.ofNat 0 ∈ chars then
      deny .unparseablePath "Request contains a null byte." none
    else if strip chars = [] then
      deny .unparseablePath "Request was empty." none
    else evaluateStripped (strip chars)

example : (evaluate (.text "DEMO_TARGET\\app/../docs//x.md")).normalizedPath
    = some "DEMO_TARGET/docs/x.md" := by decide

end AgentShield.Policy
