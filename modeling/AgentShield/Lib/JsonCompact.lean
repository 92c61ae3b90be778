import Mathlib.Data.List.Lex
import Mathlib.Data.List.Sort
import AgentShield.Lib.JsonDumps

/-!
`json.dumps` with `sort_keys=True` and `separators=(",", ":")`, of scalars and of what
holds only these.
-/
namespace JsonText
open CodePoints

inductive Scalar where
  | null
  | bool (b : Bool)
  | int (n : Int)
  /- A float, by its bits. -/
  | float (bits : BitVec 64)
  | text (s : Str)
  deriving DecidableEq

/-- The interpreter: `sys.get_int_max_str_digits()`, 0 for none, and `float.__repr__` with
    the names that `json` gives to the three floats that are no numbers. -/
structure Interpreter where
  maxStrDigits : Nat
  floatRepr : BitVec 64 → Str

/-- The `ValueError` of an integer with too many digits. -/
inductive DumpError where
  | digits
  deriving DecidableEq

variable (interpreter : Interpreter)

def dumpsInt (n : Int) : Except DumpError Str :=
  let digits := Nat.toDigits 10 n.natAbs
  if interpreter.maxStrDigits ≠ 0 ∧ interpreter.maxStrDigits < digits.length then .error .digits
  else .ok ((if n < 0 then str "-" else []) ++ digits.map ofChar)

def dumpsScalar : Scalar → Except DumpError Str
  | .null => .ok (str "null")
  | .bool true => .ok (str "true")
  | .bool false => .ok (str "false")
  | .int n => dumpsInt interpreter n
  | .float bits => .ok (interpreter.floatRepr bits)
  | .text s => .ok (dumpsString s)

def sortedByKey (entries : List (Str × Scalar)) : List (Str × Scalar) :=
  entries.insertionSort fun a b => a.1 ≤ b.1

def compactMember (entry : Str × Scalar) : Except DumpError Str := do
  return dumpsString entry.1 ++ str ":" ++ (← dumpsScalar interpreter entry.2)

def compactObject (entries : List (Str × Scalar)) : Except DumpError Str := do
  let members ← (sortedByKey entries).mapM (compactMember interpreter)
  return str "\x7b" ++ (str ",").intercalate members ++ str "\x7d"

inductive Item where
  | scalar (s : Scalar)
  | fields (entries : List (Str × Scalar))

def compactItem : Item → Except DumpError Str
  | .scalar s => dumpsScalar interpreter s
  | .fields entries => compactObject interpreter entries

def compactList (items : List Item) : Except DumpError Str := do
  let texts ← items.mapM (compactItem interpreter)
  return str "[" ++ (str ",").intercalate texts ++ str "]"

theorem sortedByKey_perm {xs ys : List (Str × Scalar)} (same : xs.Perm ys)
    (distinct : (xs.map Prod.fst).Nodup) : sortedByKey xs = sortedByKey ys := by
  have sorted : ∀ entries : List (Str × Scalar),
      (sortedByKey entries).Pairwise fun a b => a.1 ≤ b.1 :=
    List.pairwise_insertionSort _
  have permuted : (sortedByKey xs).Perm (sortedByKey ys) :=
    (List.perm_insertionSort _ xs).trans (same.trans (List.perm_insertionSort _ ys).symm)
  apply permuted.eq_of_pairwise _ (sorted xs) (sorted ys)
  intro a b left right up down
  have listed : a ∈ xs := (List.perm_insertionSort _ xs).mem_iff.mp left
  have other : b ∈ xs := same.mem_iff.mpr ((List.perm_insertionSort _ ys).mem_iff.mp right)
  exact List.inj_on_of_nodup_map distinct listed other (le_antisymm up down)

theorem compactObject_perm {xs ys : List (Str × Scalar)} (same : xs.Perm ys)
    (distinct : (xs.map Prod.fst).Nodup) :
    compactObject interpreter xs = compactObject interpreter ys := by
  unfold compactObject
  rw [sortedByKey_perm same distinct]

theorem compactList_congr {xs ys : List Item}
    (same : xs.map (compactItem interpreter) = ys.map (compactItem interpreter)) :
    compactList interpreter xs = compactList interpreter ys := by
  have texts : ∀ items : List Item, items.mapM (compactItem interpreter) =
      (items.map (compactItem interpreter)).mapM id := by
    intro items
    rw [List.mapM_map]
    rfl
  unfold compactList
  rw [texts, texts, same]

end JsonText
