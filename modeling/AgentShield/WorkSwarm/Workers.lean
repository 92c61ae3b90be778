import AgentShield.Lib.JsonDumps

/-!
How a worker's report is pulled out of what the worker returned (`workswarm/workers.py`).
Values are those JSON has, so that a dict's keys are strings.
-/
namespace AgentShield.WorkSwarm.Workers
open CodePoints JsonText Keyed

/- What a letter of a pattern matches under `re.I`; four letters outside ASCII fold into it. -/
def matchesLetter (letter : Char) (c : CodePoint) : Bool :=
  c = ofChar letter.toLower || c = ofChar letter.toUpper ||
    (letter.toLower, c.val) ∈ [('i', 0x130), ('i', 0x131), ('s', 0x17F), ('k', 0x212A)]

def dropPattern : List Char → Str → Option Str
  | [], s => some s
  | _ :: _, [] => none
  | letter :: letters, c :: s => if matchesLetter letter c then dropPattern letters s else none

def dropTag (tags : List String) (s : Str) : Str :=
  (tags.findSome? fun tag => dropPattern tag.toList s).getD s

def fence : Str := str "```"

/-- `_FENCE_RE.findall`, a turn a fenced block. Where no fence closes a block none closes a
    later one. -/
def fencesFrom : Nat → Str → List Str
  | 0, _ => []
  | fuel + 1, s => match cut fence s with
    | none => []
    | some opened =>
      match cut fence ((dropTag ["json", "python"] opened.2).dropWhile isSpace) with
      | none => []
      | some closed => closed.1 :: fencesFrom fuel closed.2

def fences (s : Str) : List Str := fencesFrom (s.length + 1) s

/- `raw[raw.find("{") : raw.rfind("}") + 1]`, where it is not empty. -/
def outermost (raw : Str) : Option Str :=
  let span := (raw.dropWhile fun c => c ≠ ofChar '{').rdropWhile fun c => c ≠ ofChar '}'
  if span = [] then none else some span

def candidates (raw : Str) : List Str :=
  (fences raw).map strip ++ strip raw :: (outermost raw).toList

/- The first candidate that loads as a dict; a `JSONDecodeError` is the only one caught. -/
def firstObject (limits : Limits) : List Str → Except LoadError (Option Entries)
  | [] => .ok none
  | candidate :: others =>
    if candidate = [] then firstObject limits others
    else match loads limits candidate with
      | .ok (.obj parsed) => .ok (some parsed)
      | .ok _ => firstObject limits others
      | .error .decode => firstObject limits others
      | .error e => .error e

def extractJson (limits : Limits) : Json → Except LoadError (Option Entries)
  | .obj [(key, inner)] =>
    if key = str "report" then extractJson limits inner else .ok (some [(key, inner)])
  | .obj entries => .ok (some entries)
  | .str raw => firstObject limits (candidates raw)
  | _ => .ok none

/-- What Python makes of values that are no strings: their `str()`, and which floats are 0. -/
structure Builtins where
  text : Json → Str
  zero : Str → Bool

def Builtins.str (py : Builtins) : Json → Str
  | .str s => s
  | v => py.text v

def Builtins.truthy (py : Builtins) : Json → Bool
  | .null => false
  | .bool b => b
  | .int n => n ≠ 0
  | .float literal => !py.zero literal
  | .str s => s ≠ []
  | .arr items => !items.isEmpty
  | .obj entries => !entries.isEmpty

def Builtins.get (py : Builtins) (payload : Entries) (key : String) (default : Json) : Json :=
  match payload.lookup (CodePoints.str key) with
  | some v => if py.truthy v then v else default
  | none => default

structure Report where
  analysis : Str
  requestedFiles : List Str
  recommendations : List Str
  deriving DecidableEq

def Builtins.list (py : Builtins) : Json → List Str
  | .arr items => items.map py.str
  | _ => []

def normalize (py : Builtins) (payload : Entries) : Report where
  analysis := py.str (py.get payload "analysis" (.str []))
  requestedFiles := py.list (py.get payload "requested_files" (.arr []))
  recommendations := py.list (py.get payload "recommendations" (.arr []))

def asAnalysis (py : Builtins) (raw : Json) : Report :=
  let text := match raw with
    | .obj entries => (entries.lookup (str "report")).getD raw
    | _ => raw
  ⟨py.str text, [], []⟩

def parseReport (py : Builtins) (limits : Limits) (raw : Json) : Except LoadError Report :=
  (extractJson limits raw).map fun payload => match payload with
    | none => asAnalysis py raw
    | some payload => normalize py payload

def dumps (r : Report) : Str :=
  dumpsObject [(str "analysis", dumpsString r.analysis),
    (str "requested_files", dumpsList (r.requestedFiles.map dumpsString)),
    (str "recommendations", dumpsList (r.recommendations.map dumpsString))]

def envelope (r : Report) : Json := .obj [(str "report", .str (dumps r))]

end AgentShield.WorkSwarm.Workers
