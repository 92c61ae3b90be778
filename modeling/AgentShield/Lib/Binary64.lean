import Mathlib.Data.Int.Log
import Mathlib.Data.Rat.Floor

/-!
Doubles as the rational numbers they stand for: every result is rounded to the nearest one,
ties to the even, and what is too large is infinite. A zero has no sign here.
-/
namespace AgentShield.Binary64

def roundEven (q : ℚ) : ℤ :=
  let below := ⌊q⌋
  if q - below < 1 / 2 then below
  else if 1 / 2 < q - below then below + 1
  else if below % 2 = 0 then below else below + 1

/-- The exponent of the last of 53 binary digits; none is below `2 ^ (-1074)`. -/
def lastPlace (q : ℚ) : ℤ := max (Int.log 2 |q| - 52) (-1074)

def nearest (q : ℚ) : ℚ := roundEven (q / 2 ^ lastPlace q) * 2 ^ lastPlace q

inductive Double where
  | finite (q : ℚ)
  | infinite (negative : Bool)
  | nan
  deriving DecidableEq

namespace Double

def of (q : ℚ) : Double :=
  if |nearest q| < 2 ^ 1024 then finite (nearest q) else infinite (q < 0)

def plus : Double → Double → Double
  | finite a, finite b => of (a + b)
  | finite _, infinite negative => infinite negative
  | infinite negative, finite _ => infinite negative
  | infinite negative, infinite other =>
    if negative = other then infinite negative else nan
  | nan, _ => nan
  | _, nan => nan

end Double

theorem roundEven_int (n : ℤ) : roundEven n = n := by
  simp [roundEven]

theorem lastPlace_nat {n : ℕ} (positive : 0 < n) (small : n < 2 ^ 53) : lastPlace n ≤ 0 := by
  have bound : |(n : ℚ)| < ((2 : ℕ) : ℚ) ^ (53 : ℤ) := by
    rw [abs_of_nonneg (Nat.cast_nonneg n)]
    exact_mod_cast small
  have inhabited : (0 : ℚ) < |(n : ℚ)| := abs_pos.mpr (Nat.cast_ne_zero.mpr positive.ne')
  have digits := (Int.lt_zpow_iff_log_lt (by decide) inhabited).mp bound
  unfold lastPlace
  omega

/-- Integers of 53 binary digits are doubles. -/
theorem nearest_nat {n : ℕ} (small : n < 2 ^ 53) : nearest n = n := by
  rcases Nat.eq_zero_or_pos n with rfl | positive
  · simp [nearest, roundEven]
  obtain ⟨k, place⟩ := Int.exists_eq_neg_ofNat (lastPlace_nat positive small)
  have scaled : (n : ℚ) / 2 ^ (-(k : ℤ)) = ((n * 2 ^ k : ℤ) : ℚ) := by
    rw [zpow_neg, zpow_natCast, div_inv_eq_mul]
    push_cast
    rfl
  have unscaled : ((n * 2 ^ k : ℤ) : ℚ) * 2 ^ (-(k : ℤ)) = n := by
    rw [← scaled]
    exact div_mul_cancel₀ _ (zpow_ne_zero _ two_ne_zero)
  rw [nearest, place, scaled, roundEven_int, unscaled]

namespace Double

theorem of_nat {n : ℕ} (small : n < 2 ^ 53) : of n = finite n := by
  have below : |(n : ℚ)| < 2 ^ 53 := by
    rw [abs_of_nonneg (Nat.cast_nonneg n)]
    exact_mod_cast small
  unfold of
  rw [nearest_nat small, if_pos (below.trans (pow_lt_pow_right₀ one_lt_two (by decide)))]

/-- Sums of integers are exact up to there. -/
theorem plus_nat {a b : ℕ} (small : a + b < 2 ^ 53) :
    plus (finite a) (finite b) = finite (a + b : ℕ) := by
  have sum : (a : ℚ) + b = ((a + b : ℕ) : ℚ) := (Nat.cast_add a b).symm
  rw [plus, sum, of_nat small]

end Double

example : nearest (5 / 7) = 6433713753386423 / 2 ^ 53 := by decide +kernel

end AgentShield.Binary64
