import AgentShield.WorkSwarm.Workers

/-!
How the Developer's patch is read from its answer (`_fenced_section` and `_as_patch` of
`workswarm/flows/auth_fix_flow.py`), and the answer its prompt asks for.
-/
namespace AgentShield.WorkSwarm.Developer
open CodePoints JsonText Workers

abbrev newline : CodePoint := 10

def labelled (label : String) (s : Str) : Option Str :=
  (dropPattern label.toList s).bind (dropPattern [':'])

/- ```` {label}:\s*```(?:python)? ```` of `_LABELLED_FENCE`. Where what follows the tag does not
   match, it does not match in the tag's place either. -/
def openedBlock (label : String) (s : Str) : Option Str :=
  (labelled label s).bind fun s =>
    (dropPattern "```".toList (s.dropWhile isSpace)).map (dropTag ["python"])

/- ```` \s*\n(.*?)``` ````: of the line breaks among the blanks the last one is matched. -/
def blockBody (s : Str) : Option Str :=
  let blanks := s.takeWhile isSpace
  if newline ∈ blanks then
    (cut fence (blanks.rtakeWhile (fun c => c ≠ newline) ++ s.dropWhile isSpace)).map Prod.fst
  else none

def blockAt (label : String) (s : Str) : Option Str := (openedBlock label s).bind blockBody

def fencedSection (text : Str) (label : String) : Option Str := search (blockAt label) text

/- `EXPLANATION:\s*(.+)`. Where nothing but blanks follows, the last that is no line break is
   the group. -/
def explanationAt (s : Str) : Option Str :=
  (s.dropPrefix? (str "EXPLANATION:")).bind fun s =>
    let text := s.dropWhile isSpace
    if text ≠ [] then some (text.takeWhile fun c => c ≠ newline)
    else (s.filter fun c => c ≠ newline).getLast?.map fun c => [c]

structure Patch where
  patchedSource : Str
  regressionTest : Str
  explanation : Str
  deriving DecidableEq

/-- The `RuntimeError`s, and what `json.loads` raises past `extract_json`. -/
inductive PatchError where
  | emptyCompletion
  | neither (preview : Str)
  | missing (key : String)
  | loading (e : LoadError)
  deriving DecidableEq

def defaultExplanation : Str := str "Patched the authentication module."

def fromFences : Json → Option Patch
  | .str text =>
    match fencedSection text "PATCHED_FILE", fencedSection text "REGRESSION_TEST" with
    | some patched, some regression =>
      if patched ≠ [] ∧ regression ≠ [] then
        some ⟨patched, regression, ((search explanationAt text).map strip).getD defaultExplanation⟩
      else none
    | _, _ => none
  | _ => none

/- A key whose value must be a string that is not blank. -/
def required (payload : Entries) (key : String) : Except PatchError Str :=
  match payload.lookup (str key) with
  | some (.str v) => if strip v = [] then .error (.missing key) else .ok v
  | _ => .error (.missing key)

def preview (text : Str) : Str :=
  (text.take 400).flatMap fun c => if c = newline then str " | " else [c]

def fromJson (py : Builtins) (text : Json) (payload : Option Entries) : Except PatchError Patch :=
  match payload with
  | none =>
    if strip (if py.truthy text then py.str text else []) = [] then .error .emptyCompletion
    else .error (.neither (preview (py.str text)))
  | some payload => do
    let patched ← required payload "patched_source"
    let regression ← required payload "regression_test"
    .ok ⟨patched, regression, py.str (py.get payload "explanation" (.str defaultExplanation))⟩

def asPatch (py : Builtins) (limits : Limits) (produced : Json) : Except PatchError Patch :=
  let text := match produced with
    | .obj entries => (entries.lookup (str "report")).getD .null
    | v => v
  match fromFences text with
  | some patch => .ok patch
  | none => match extractJson limits produced with
    | .error e => .error (.loading e)
    | .ok payload => fromJson py text payload

/-- The answer the prompt asks for: the explanation on its line, each file in its block. -/
def answer (explanation patched regression : Str) : Str :=
  str "EXPLANATION: " ++ explanation ++ str "\n\nPATCHED_FILE:\n```python\n" ++ patched ++
    str "\n```\n\nREGRESSION_TEST:\n```python\n" ++ regression ++ str "\n```"

def produced (text : Str) : Json := .obj [(str "report", .str text)]

example : (asPatch ⟨fun _ => [], fun _ => false⟩ ⟨4300, 1000, by decide⟩
    (produced (answer (str "Checks expiry.") (str "x = 1") (str "assert x")))).map
      (fun patch => [patch.patchedSource, patch.regressionTest, patch.explanation]) =
    .ok [str "x = 1\n", str "assert x\n", str "Checks expiry."] := by decide

end AgentShield.WorkSwarm.Developer
