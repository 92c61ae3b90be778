import AgentShield.Lib.Text

/-!
`int` of a text and `str` of an integer in base ten, as Python has them: any decimal digits
of Unicode, single underscores between digits, white space around, and the interpreter's
limit on how many digits are converted.
-/
namespace Integers

/- The zeros of Unicode 15; nine digits follow each. -/
def zeros : List Nat :=
  [48, 1632, 1776, 1984, 2406, 2534, 2662, 2790, 2918, 3046, 3174, 3302, 3430, 3558, 3664, 3792,
   3872, 4160, 4240, 6112, 6160, 6470, 6608, 6784, 6800, 6992, 7088, 7232, 7248, 42528, 43216,
   43264, 43472, 43504, 43600, 44016, 65296, 66720, 68912, 69734, 69872, 69942, 70096, 70384,
   70736, 70864, 71248, 71360, 71472, 71904, 72016, 72784, 73040, 73120, 73552, 92768, 92864,
   93008, 120782, 120792, 120802, 120812, 120822, 123200, 123632, 124144, 125264, 130032]

def decimal (c : Char) : Option Nat :=
  (zeros.find? fun first => first ≤ c.toNat && c.toNat < first + 10).map (c.toNat - ·)

/- `_PyUnicode_TransformDecimalAndSpaceToASCII`, for one code point. -/
def ascii (c : Char) : Char :=
  if c.toNat < 127 then c
  else if Text.isSpace c then ' '
  else match decimal c with
    | some digit => Nat.digitChar digit
    | none => '?'

def blank (c : Char) : Bool := c = ' ' || (9 ≤ c.toNat && c.toNat ≤ 13)

def digits : Bool → List Char → Option (List Char)
  | starting, [] => if starting then none else some []
  | starting, c :: rest =>
    if c.isDigit then (digits false rest).map (c :: ·)
    else if c = '_' && !starting then digits true rest
    else none

/-- `sys.set_int_max_str_digits`: 0 is no limit, and none is below 640. -/
structure Limit where
  digits : Nat
  allowed : digits = 0 ∨ 640 ≤ digits

def Limit.exceeded (limit : Limit) (count : Nat) : Bool := limit.digits ≠ 0 && limit.digits < count

section
variable (limit : Limit)

def number (s : List Char) : Option Nat :=
  (digits true s).bind fun ds =>
    if limit.exceeded ds.length then none else some (Nat.ofDigitChars 10 ds 0)

def signed : List Char → Option Int
  | '-' :: rest => (number limit rest).map fun n => -(n : Int)
  | '+' :: rest => (number limit rest).map Int.ofNat
  | s => (number limit s).map Int.ofNat

/-- `int(s)`; `none` is the ValueError. -/
def ofText (s : List Char) : Option Int :=
  signed limit (((s.map ascii).dropWhile blank).rdropWhile blank)

/-- `str(n)`; `none` is the ValueError. -/
def toText (n : Int) : Option (List Char) :=
  let ds := Nat.toDigits 10 n.natAbs
  if limit.exceeded ds.length then none
  else some (if n < 0 then '-' :: ds else ds)

end

theorem digit_range {c : Char} (digit : c.isDigit = true) : 48 ≤ c.toNat ∧ c.toNat ≤ 57 := by
  simpa [Char.isDigit, UInt32.le_iff_toNat_le] using digit

theorem digit_ascii {c : Char} (digit : c.isDigit = true) : ascii c = c := by
  have range := digit_range digit
  rw [ascii, if_pos (by omega)]

theorem digit_solid {c : Char} (digit : c.isDigit = true) : blank c = false := by
  have range := digit_range digit
  have apart : c ≠ ' ' := by
    rintro rfl
    simp at range
  simp [blank, apart]
  omega

theorem digits_all {s : List Char} (all : ∀ c ∈ s, c.isDigit = true) :
    digits false s = some s := by
  induction s with
  | nil => rfl
  | cons c rest ih =>
    rw [digits, if_pos (all c (by simp)), ih fun d later => all d (by simp [later])]
    rfl

theorem number_digits {limit : Limit} {n : Nat}
    (fits : limit.exceeded (Nat.toDigits 10 n).length = false) :
    number limit (Nat.toDigits 10 n) = some n := by
  have all : ∀ c ∈ Nat.toDigits 10 n, c.isDigit = true := fun c member =>
    Nat.isDigit_of_mem_toDigits (by decide) (by decide) member
  have read : digits true (Nat.toDigits 10 n) = some (Nat.toDigits 10 n) := by
    cases spelled : Nat.toDigits 10 n with
    | nil => exact absurd spelled Nat.toDigits_ne_nil
    | cons c rest =>
      rw [spelled] at all
      rw [digits, if_pos (all c (by simp)), digits_all fun d later => all d (by simp [later])]
      rfl
  simp [number, read, fits, Nat.ofDigitChars_ten_toDigits]

theorem solid_text {s : List Char} (solid : ∀ c ∈ s, blank c = false) :
    (s.dropWhile blank).rdropWhile blank = s := by
  have front : s.dropWhile blank = s := by
    cases s with
    | nil => rfl
    | cons c rest => exact List.dropWhile_cons_of_neg (by simp [solid c])
  rw [front, List.rdropWhile_eq_self_iff]
  intro nonempty
  simp [solid _ (List.getLast_mem nonempty)]

theorem signed_digits {limit : Limit} {s : List Char} (all : ∀ c ∈ s, c.isDigit = true) :
    signed limit s = (number limit s).map Int.ofNat := by
  unfold signed
  split
  · have minus := all '-' (by simp)
    exact absurd minus (by decide)
  · have plus := all '+' (by simp)
    exact absurd plus (by decide)
  · rfl

/-- What is printed is read again. -/
theorem ofText_toText {limit : Limit} {n : Int} {s : List Char}
    (printed : toText limit n = some s) : ofText limit s = some n := by
  have digit : ∀ c ∈ Nat.toDigits 10 n.natAbs, c.isDigit = true := fun c member =>
    Nat.isDigit_of_mem_toDigits (by decide) (by decide) member
  obtain ⟨fits, rfl⟩ : limit.exceeded (Nat.toDigits 10 n.natAbs).length = false ∧
      (if n < 0 then '-' :: Nat.toDigits 10 n.natAbs else Nat.toDigits 10 n.natAbs) = s := by
    simpa [toText] using printed
  have same : (Nat.toDigits 10 n.natAbs).map ascii = Nat.toDigits 10 n.natAbs :=
    (List.map_congr_left fun c member => digit_ascii (digit c member)).trans (List.map_id _)
  have solid : ∀ c ∈ Nat.toDigits 10 n.natAbs, blank c = false := fun c member =>
    digit_solid (digit c member)
  by_cases negative : n < 0
  · have sign : ascii '-' = '-' ∧ blank '-' = false := by decide
    rw [if_pos negative, ofText, List.map_cons, same, sign.1,
      solid_text (List.forall_mem_cons.mpr ⟨sign.2, solid⟩), signed, number_digits fits]
    have value : -(n.natAbs : Int) = n := by omega
    exact congrArg some value
  · rw [if_neg negative, ofText, same, solid_text solid, signed_digits digit, number_digits fits]
    have value : (n.natAbs : Int) = n := by omega
    exact congrArg some value

end Integers
