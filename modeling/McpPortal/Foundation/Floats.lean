import Mathlib.Algebra.Order.Field.Rat
import Mathlib.Data.Int.Log
import Mathlib.Data.Rat.Floor
import Mathlib.Tactic.Linarith
import Mathlib.Tactic.NormNum
import Mathlib.Tactic.Positivity

/-!
# Rounding to floats

The value of an arithmetic operation on floats is the exact one, rounded to 53 binary digits, and
to an even last digit where two floats are as near. Floats are taken to have no largest exponent
here: the one operation whose result is checked against the largest float is the division of two
integers, which raises an `OverflowError`.
-/

namespace Foundation

/-- What converting a text or an integer to a float raises. -/
inductive NumberError where
  | valueError
  | overflowError
  deriving DecidableEq

/-- An integer from here on would be rounded to a float beyond the largest one. -/
@[irreducible]
def floatLimit : Nat := 2 ^ 1024 - 2 ^ 970

/-- The nearest integer, and of two as near the even one. -/
def roundHalfEven (value : Rat) : Int :=
  let below := ⌊value⌋
  let rest := value - below
  if rest < 1 / 2 ∨ rest = 1 / 2 ∧ below % 2 = 0 then below else below + 1

/-- The smallest positive float. -/
@[irreducible]
def smallestFloat : Rat := 2 ^ (-1074 : Int)

/-- The distance of the floats about a number. -/
def floatSpacing (value : Rat) : Rat :=
  max (2 ^ (Int.log 2 |value| - 52)) smallestFloat

/-- The nearest float. -/
def float (value : Rat) : Rat :=
  roundHalfEven (value / floatSpacing value) * floatSpacing value

/-- `dividend / divisor` of two integers. -/
@[irreducible]
def divideInts (dividend divisor : Nat) : Except NumberError Rat :=
  if floatLimit * divisor ≤ dividend then .error .overflowError
  else .ok (float (dividend / divisor))

theorem divideInts_eq_ok {dividend divisor : Nat} (fits : dividend < floatLimit * divisor) :
    divideInts dividend divisor = .ok (float (dividend / divisor)) := by
  rw [divideInts, if_neg (Nat.not_le.mpr fits)]

theorem roundHalfEven_zero : roundHalfEven 0 = 0 := by
  simp [roundHalfEven]

theorem abs_roundHalfEven_sub_le (value : Rat) : |(roundHalfEven value : Rat) - value| ≤ 1 / 2 := by
  have below := Int.floor_le value
  have above := Int.lt_floor_add_one value
  rw [abs_le]
  simp only [roundHalfEven]
  split
  case isTrue near =>
    rcases near with near | ⟨half, _⟩ <;> constructor <;> linarith
  case isFalse far =>
    rw [not_or, not_lt] at far
    push_cast
    constructor <;> linarith [far.1]

theorem smallestFloat_pos : 0 < smallestFloat := by
  unfold smallestFloat
  exact zpow_pos (by norm_num) _

/-- The smallest float is below any bound that is met in practice. -/
theorem smallestFloat_le : smallestFloat ≤ 1 / 2 ^ 100 := by
  have bound : (1 : Rat) / 2 ^ 100 = 2 ^ (-100 : Int) := by
    rw [zpow_neg, one_div]
    rfl
  unfold smallestFloat
  rw [bound]
  exact zpow_le_zpow_right₀ (by norm_num) (by norm_num)

theorem floatSpacing_pos (value : Rat) : 0 < floatSpacing value :=
  lt_max_of_lt_right smallestFloat_pos

theorem floatSpacing_le {value : Rat} (nonzero : value ≠ 0) :
    floatSpacing value ≤ |value| / 2 ^ 52 + smallestFloat := by
  have positive : 0 < |value| := abs_pos.mpr nonzero
  have power : (2 : Rat) ^ Int.log 2 |value| ≤ |value| :=
    Int.zpow_log_le_self (by decide) positive
  have scaled : (2 : Rat) ^ (Int.log 2 |value| - 52) = 2 ^ Int.log 2 |value| / 2 ^ 52 := by
    rw [zpow_sub₀ (by norm_num)]
    rfl
  have digits : (2 : Rat) ^ (Int.log 2 |value| - 52) ≤ |value| / 2 ^ 52 := by
    rw [scaled]
    exact div_le_div_of_nonneg_right power (by positivity)
  have smallest := smallestFloat_pos
  have nonneg : 0 ≤ |value| / 2 ^ 52 := by positivity
  exact max_le (by linarith) (by linarith)

/-- A float is off by half the last of 53 digits, or half the smallest float. -/
theorem abs_float_sub_le (value : Rat) :
    |float value - value| ≤ (|value| / 2 ^ 52 + smallestFloat) / 2 := by
  have smallest := smallestFloat_pos
  by_cases zero : value = 0
  · rw [zero, float, zero_div, roundHalfEven_zero, Int.cast_zero, zero_mul, sub_zero, abs_zero]
    linarith
  · have positive := floatSpacing_pos value
    have scaled : float value - value =
        (roundHalfEven (value / floatSpacing value) - value / floatSpacing value) *
          floatSpacing value := by
      rw [sub_mul, div_mul_cancel₀ _ positive.ne', float]
    have near := abs_roundHalfEven_sub_le (value / floatSpacing value)
    have product := mul_le_mul near (floatSpacing_le zero) positive.le (by norm_num)
    rw [scaled, abs_mul, abs_of_pos positive]
    linarith

/-- What floats of numbers that are not negative may be off by. -/
theorem float_bounds {value : Rat} (nonneg : 0 ≤ value) :
    value - value / 2 ^ 53 - 1 / 2 ^ 100 ≤ float value ∧
      float value ≤ value + value / 2 ^ 53 + 1 / 2 ^ 100 := by
  have near := abs_le.mp (abs_float_sub_le value)
  have smallest := smallestFloat_le
  rw [abs_of_nonneg nonneg] at near
  constructor <;> linarith

end Foundation
