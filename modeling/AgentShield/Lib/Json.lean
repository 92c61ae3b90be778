import AgentShield.Lib.CodePoints
import AgentShield.Lib.Table

/-!
`json.loads` on a text: the scanner of Python's `json` package, which reads a value from
the front of a text and leaves the rest.
-/
namespace JsonText
open CodePoints Keyed

inductive Json where
  | null
  | bool (b : Bool)
  | int (n : Int)
  /- A float, as the text that is made one. -/
  | float (literal : Str)
  | str (s : Str)
  | arr (items : List Json)
  | obj (entries : List (Str × Json))

abbrev Entries := List (Str × Json)

def Json.isObject : Json → Bool
  | .obj _ => true
  | _ => false

/-- `JSONDecodeError`, and the two errors that are none: the `ValueError` of an integer
    with too many digits, and the `RecursionError` of too deep a text. -/
inductive LoadError where
  | decode | digits | recursion
  deriving DecidableEq

/-- The interpreter's limits: `sys.get_int_max_str_digits()`, 0 for none, and how many
    values in one another its stack has room for. -/
structure Limits where
  digits : Nat
  nesting : Nat
  room : 2 ≤ nesting

abbrev quote : CodePoint := 34
abbrev backslash : CodePoint := 92

def isBlank (c : CodePoint) : Bool := c ∈ str " \t\n\r"

def skip (s : Str) : Str := s.dropWhile isBlank

/-- One character read in a string, and whether it was written with its four digits. -/
structure Piece where
  code : CodePoint
  numbered : Bool
  deriving DecidableEq

def hexDigit (c : CodePoint) : Option Nat :=
  if 48 ≤ c.val ∧ c.val ≤ 57 then some (c.val - 48)
  else if 97 ≤ c.val ∧ c.val ≤ 102 then some (c.val - 87)
  else if 65 ≤ c.val ∧ c.val ≤ 70 then some (c.val - 55)
  else none

def shortEscapes : List (CodePoint × CodePoint) :=
  [(quote, quote), (backslash, backslash), (ofChar '/', ofChar '/'), (ofChar 'b', 8),
    (ofChar 'f', 12), (ofChar 'n', 10), (ofChar 'r', 13), (ofChar 't', 9)]

inductive Place where
  | between
  | escape
  | digits (left value : Nat)

def scanUnits : Place → Str → Except LoadError (List Piece × Str)
  | _, [] => .error .decode
  | .between, c :: s =>
    if c = quote then .ok ([], s)
    else if c = backslash then scanUnits .escape s
    else if c.val < 32 then .error .decode
    else (scanUnits .between s).map fun read => (⟨c, false⟩ :: read.1, read.2)
  | .escape, c :: s =>
    if c = ofChar 'u' then scanUnits (.digits 3 0) s
    else match shortEscapes.lookup c with
      | some d => (scanUnits .between s).map fun read => (⟨d, false⟩ :: read.1, read.2)
      | none => .error .decode
  | .digits left value, c :: s => match hexDigit c with
    | none => .error .decode
    | some d => match left with
      | 0 => (scanUnits .between s).map fun read =>
          (⟨Fin.ofNat _ (16 * value + d), true⟩ :: read.1, read.2)
      | left + 1 => scanUnits (.digits left (16 * value + d)) s

def pair (h l : CodePoint) : CodePoint :=
  Fin.ofNat _ (0x10000 + (h.val - 0xD800) * 0x400 + (l.val - 0xDC00))

/- Two numbered halves of a surrogate pair are one character. -/
def join : List Piece → Str
  | [] => []
  | [u] => [u.code]
  | u :: v :: rest =>
    if u.numbered ∧ v.numbered ∧ high u.code ∧ low v.code then pair u.code v.code :: join rest
    else u.code :: join (v :: rest)

/-- `scanstring`, after the opening quote. -/
def scanString (s : Str) : Except LoadError (Str × Str) :=
  (scanUnits .between s).map fun read => (join read.1, read.2)

def isDigit (c : CodePoint) : Bool := 48 ≤ c.val && c.val ≤ 57

def digits (s : Str) : Option (Str × Str) :=
  if s.takeWhile isDigit = [] then none else some (s.takeWhile isDigit, s.dropWhile isDigit)

def natural : Str → Option (Str × Str)
  | [] => none
  | c :: s => if c = ofChar '0' then some ([c], s) else digits (c :: s)

def after (chars : List CodePoint) (next : Str → Option (Str × Str)) : Str → Option (Str × Str)
  | [] => none
  | c :: s => if c ∈ chars then (next s).map fun read => (c :: read.1, read.2) else none

def scanInteger (s : Str) : Option (Str × Str) := (after (str "-") natural s).or (natural s)

def scanFraction (s : Str) : Str × Str := (after (str ".") digits s).getD ([], s)

def scanExponent (s : Str) : Str × Str :=
  (after (str "eE") (fun s => (after (str "-+") digits s).or (digits s)) s).getD ([], s)

def decimal (text : Str) : Nat := text.foldl (fun n c => 10 * n + (c.val - 48)) 0

def parseInt (limits : Limits) (text : Str) : Except LoadError Int :=
  let figures := text.filter isDigit
  if limits.digits ≠ 0 ∧ limits.digits < figures.length then .error .digits
  else .ok (if ofChar '-' ∈ text then -(decimal figures : Int) else decimal figures)

def scanNumber (limits : Limits) (s : Str) : Except LoadError (Json × Str) :=
  match scanInteger s with
  | none => .error .decode
  | some (integer, rest) =>
    let fraction := scanFraction rest
    let exponent := scanExponent fraction.2
    if fraction.1 = [] ∧ exponent.1 = [] then
      (parseInt limits integer).map fun n => (.int n, exponent.2)
    else .ok (.float (integer ++ fraction.1 ++ exponent.1), exponent.2)

def constants : List (String × Json) :=
  [("null", .null), ("true", .bool true), ("false", .bool false), ("NaN", .float (str "NaN")),
    ("Infinity", .float (str "Infinity")), ("-Infinity", .float (str "-Infinity"))]

def scanConstant (s : Str) : Option (Json × Str) :=
  constants.findSome? fun constant =>
    if (str constant.1).isPrefixOf s then some (constant.2, s.drop (str constant.1).length) else none

def expect (c : CodePoint) : Str → Except LoadError Str
  | [] => .error .decode
  | d :: s => if d = c then .ok s else .error .decode

abbrev Scan := Str → Except LoadError (Json × Str)

def scanMember (scan : Scan) (s : Str) : Except LoadError ((Str × Json) × Str) := do
  let key ← scanString s
  let s ← expect (ofChar ':') (skip key.2)
  let value ← scan (skip s)
  .ok ((key.1, value.1), value.2)

/-- The members of an object, from behind the quote that opens a key; every turn reads
    one character at least, so that the text's length is fuel enough. -/
def scanEntries (scan : Scan) : Nat → Str → Entries → Except LoadError (Entries × Str)
  | 0, _, _ => .error .decode
  | fuel + 1, s, entries => do
    let member ← scanMember scan s
    let entries := replaceOrAppend Prod.fst member.1 entries
    match skip member.2 with
    | [] => .error .decode
    | c :: s =>
      if c = ofChar '}' then .ok (entries, s)
      else if c = ofChar ',' then do
        let s ← expect quote (skip s)
        scanEntries scan fuel s entries
      else .error .decode

def scanObject (scan : Scan) (s : Str) : Except LoadError (Json × Str) :=
  match skip s with
  | [] => .error .decode
  | c :: s =>
    if c = ofChar '}' then .ok (.obj [], s)
    else if c = quote then (scanEntries scan (s.length + 1) s []).map fun read => (.obj read.1, read.2)
    else .error .decode

def scanItems (scan : Scan) : Nat → Str → Except LoadError (List Json × Str)
  | 0, _ => .error .decode
  | fuel + 1, s => do
    let value ← scan s
    match skip value.2 with
    | [] => .error .decode
    | c :: s =>
      if c = ofChar ']' then .ok ([value.1], s)
      else if c = ofChar ',' then
        (scanItems scan fuel (skip s)).map fun read => (value.1 :: read.1, read.2)
      else .error .decode

def scanArray (scan : Scan) (s : Str) : Except LoadError (Json × Str) :=
  match skip s with
  | [] => .error .decode
  | c :: s =>
    if c = ofChar ']' then .ok (.arr [], s)
    else (scanItems scan (s.length + 2) (c :: s)).map fun read => (.arr read.1, read.2)

/- One value; `inside` reads the values it holds, where there is room for them. -/
def scanValue (limits : Limits) (inside : Option Scan) : Str → Except LoadError (Json × Str)
  | [] => .error .decode
  | c :: s =>
    if c = quote then (scanString s).map fun read => (.str read.1, read.2)
    else if c = ofChar '{' then match inside with
      | none => .error .recursion
      | some scan => scanObject scan s
    else if c = ofChar '[' then match inside with
      | none => .error .recursion
      | some scan => scanArray scan s
    else match scanConstant (c :: s) with
      | some read => .ok read
      | none => scanNumber limits (c :: s)

def scanOnce (limits : Limits) : Nat → Scan
  | 0 => scanValue limits none
  | depth + 1 => scanValue limits (some (scanOnce limits depth))

def loads (limits : Limits) (s : Str) : Except LoadError Json :=
  if s.head? = some 0xFEFF then .error .decode
  else do
    let value ← scanOnce limits limits.nesting (skip s)
    if skip value.2 = [] then .ok value.1 else .error .decode

end JsonText
