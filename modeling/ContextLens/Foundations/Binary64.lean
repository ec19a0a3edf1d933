import ContextLens.Foundations.FloatingPoint

/-!
# Double precision numbers

The floats of Python, the numbers of JavaScript and the `double precision` of SQL: the
floating-point format of 53 binary digits.  A double is the rational it denotes; an
operation on doubles is the exact one followed by `nearest`, and `roundDigits` is
Python's `round(x, digits)`, which rounds the exact value of the double and returns the
double of the decimal it finds.

Infinities and not-a-number are left out: what is computed here are counts, averages and
percentages, far below the largest double.
-/

namespace Foundations

namespace Binary64

variable {x y : ℚ} {digits : ℕ}

/-- The nearest double. -/
def nearest (x : ℚ) : ℚ := FloatingPoint.nearest 2 53 x

/-- `a - b`. -/
def sub (a b : ℚ) : ℚ := nearest (a - b)

/-- `a * b`. -/
def mul (a b : ℚ) : ℚ := nearest (a * b)

/-- `a / b`. -/
def div (a b : ℚ) : ℚ := nearest (a / b)

/-- `round(x, digits)`. -/
def roundDigits (digits : ℕ) (x : ℚ) : ℚ := nearest (Python.roundTo digits x)

/-! ## One rounding -/

theorem one_lt_two : 1 < 2 := by norm_num

@[simp] theorem nearest_zero : nearest 0 = 0 := FloatingPoint.nearest_zero 2 53

theorem nearest_nonneg (hx : 0 ≤ x) : 0 ≤ nearest x :=
  FloatingPoint.nearest_nonneg one_lt_two 53 hx

theorem nearest_mono (h : x ≤ y) : nearest x ≤ nearest y :=
  FloatingPoint.nearest_mono one_lt_two (by norm_num) h

/-- The error of a rounding relative to the number. -/
theorem abs_nearest_sub_le (x : ℚ) : |nearest x - x| ≤ |x| / 2 ^ 53 := by
  have hle := FloatingPoint.abs_nearest_sub_le_mul one_lt_two (by norm_num : 0 < 53) x
  have hscale : |x| * (1 / 2 / ((2 : ℕ) : ℚ) ^ (53 - 1)) = |x| / 2 ^ 53 := by
    rw [Nat.cast_ofNat]
    norm_num
    ring
  rw [← hscale]
  exact hle

theorem nearest_le (hx : 0 ≤ x) : nearest x ≤ x * (1 + 1 / 2 ^ 53) := by
  have hnear := (abs_le.mp (abs_nearest_sub_le x)).2
  rw [abs_of_nonneg hx] at hnear
  linarith

theorem le_nearest (hx : 0 ≤ x) : x * (1 - 1 / 2 ^ 53) ≤ nearest x := by
  have hnear := (abs_le.mp (abs_nearest_sub_le x)).1
  rw [abs_of_nonneg hx] at hnear
  linarith

theorem half_le_nearest (hx : 0 ≤ x) : x / 2 ≤ nearest x := by
  have hle := le_nearest hx
  have hhalf : x * (1 / 2) ≤ x * (1 - 1 / 2 ^ 53) :=
    mul_le_mul_of_nonneg_left (by norm_num) hx
  linarith

theorem nearest_eq_zero_iff : nearest x = 0 ↔ x = 0 := by
  constructor
  · intro h
    have hnear := abs_nearest_sub_le x
    rw [h, zero_sub, abs_neg, le_div_iff₀ (by norm_num)] at hnear
    have hnonneg := abs_nonneg x
    exact abs_eq_zero.mp (by linarith)
  · rintro rfl
    exact nearest_zero

/-! ## Rounding to decimals -/

theorem roundDigits_mono (digits : ℕ) (h : x ≤ y) : roundDigits digits x ≤ roundDigits digits y :=
  nearest_mono (Python.roundTo_mono digits h)

@[simp] theorem roundDigits_zero (digits : ℕ) : roundDigits digits 0 = 0 := by
  rw [roundDigits, Python.roundTo_zero, nearest_zero]

theorem roundDigits_nonneg (digits : ℕ) (hx : 0 ≤ x) : 0 ≤ roundDigits digits x :=
  nearest_nonneg (Python.roundTo_nonneg digits hx)

theorem roundDigits_eq_zero_iff (digits : ℕ) (hx : 0 ≤ x) :
    roundDigits digits x = 0 ↔ x ≤ 1 / 2 / 10 ^ digits := by
  rw [roundDigits, nearest_eq_zero_iff, Python.roundTo_eq_zero_iff digits hx]

/-- Rounding moves a number by half a unit of the last decimal, and by the roundings to
doubles. -/
theorem abs_roundDigits_sub_le (digits : ℕ) (x : ℚ) :
    |roundDigits digits x - x| ≤
      1 / 2 / 10 ^ digits + (|x| + 1 / 2 / 10 ^ digits) / 2 ^ 53 := by
  have hdecimal := Python.abs_roundTo_sub_le digits x
  have hdouble := abs_nearest_sub_le (Python.roundTo digits x)
  have hsize : |Python.roundTo digits x| ≤ |x| + 1 / 2 / 10 ^ digits := by
    calc |Python.roundTo digits x| = |x + (Python.roundTo digits x - x)| := by rw [add_sub_cancel]
      _ ≤ |x| + |Python.roundTo digits x - x| := abs_add_le _ _
      _ ≤ |x| + 1 / 2 / 10 ^ digits := by linarith
  calc |roundDigits digits x - x|
      = |(nearest (Python.roundTo digits x) - Python.roundTo digits x) +
          (Python.roundTo digits x - x)| := by rw [sub_add_sub_cancel, roundDigits]
    _ ≤ |nearest (Python.roundTo digits x) - Python.roundTo digits x| +
          |Python.roundTo digits x - x| := abs_add_le _ _
    _ ≤ (|x| + 1 / 2 / 10 ^ digits) / 2 ^ 53 + 1 / 2 / 10 ^ digits :=
        add_le_add (hdouble.trans (div_le_div_of_nonneg_right hsize (by norm_num))) hdecimal
    _ = 1 / 2 / 10 ^ digits + (|x| + 1 / 2 / 10 ^ digits) / 2 ^ 53 := add_comm _ _

/-- The double of half a thousandth lies above it. -/
example : roundDigits 3 (nearest (1 / 2000)) = nearest (1 / 1000) := by decide +kernel

end Binary64

/-! ## Aggregates of doubles -/

namespace Sql

/-- The double that a server returns for an aggregate over a `double precision` column,
by the exact value of the aggregate.  The last bits depend on the order in which the
server adds, and are not specified: the result keeps the order of the exact values and is
near them. -/
class DoubleAggregates where
  toDouble : ℚ → ℚ
  toDouble_mono : ∀ x y, x ≤ y → toDouble x ≤ toDouble y
  abs_toDouble_sub_le : ∀ x, 0 ≤ x → |toDouble x - x| ≤ x / 10 ^ 9

/-- A server that rounds once. -/
instance : DoubleAggregates where
  toDouble := Binary64.nearest
  toDouble_mono _ _ := Binary64.nearest_mono
  abs_toDouble_sub_le x hx := by
    have hnear := Binary64.abs_nearest_sub_le x
    rw [abs_of_nonneg hx] at hnear
    exact hnear.trans (div_le_div_of_nonneg_left hx (by norm_num) (by norm_num))

namespace DoubleAggregates

variable [DoubleAggregates]

@[simp] theorem toDouble_zero : toDouble 0 = 0 := by
  have hnear := abs_toDouble_sub_le 0 le_rfl
  rw [sub_zero, zero_div] at hnear
  exact abs_eq_zero.mp (le_antisymm hnear (abs_nonneg _))

theorem toDouble_nonneg {x : ℚ} (hx : 0 ≤ x) : 0 ≤ toDouble x := by
  have hle := toDouble_mono 0 x hx
  rwa [toDouble_zero] at hle

end DoubleAggregates

end Sql

end Foundations
