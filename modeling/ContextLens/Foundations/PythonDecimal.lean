import ContextLens.Foundations.FloatingPoint

/-!
# Python's decimal arithmetic

A `Decimal` is read as the rational it denotes.  What is left of the type is its
context: every sum and product is rounded to `precision` significant digits, ties to the
even digit, and a `quantize` whose result would have more digits than that raises.

The context is the floating-point format of radix ten, so one rounding is *relative*: it
moves a number by less than one part in `2 · 10 ^ (precision - 1)`, and not at all when
the digits suffice.  Rounding keeps the order, so sums and products of numbers that are
not negative do.
-/

namespace Foundations

namespace Python

namespace Decimal

variable {precision : ℕ} {x y : ℚ}

/-- The context's rounding. -/
def fix (precision : ℕ) (x : ℚ) : ℚ := FloatingPoint.nearest 10 precision x

/-- `a + b`. -/
def add (precision : ℕ) (a b : ℚ) : ℚ := fix precision (a + b)

/-- `a * b`. -/
def mul (precision : ℕ) (a b : ℚ) : ℚ := fix precision (a * b)

/-- `a / b`. -/
def div (precision : ℕ) (a b : ℚ) : ℚ := fix precision (a / b)

/-- `x.quantize(Decimal(10) ** -digits)`; `none` is `InvalidOperation`. -/
def quantize (precision digits : ℕ) (x : ℚ) : Option ℚ :=
  if |roundHalfEven (x * 10 ^ digits)| < 10 ^ precision then some (roundTo digits x) else none

/-- `x` has at most `precision` digits. -/
abbrev Fits (precision : ℕ) (x : ℚ) : Prop := FloatingPoint.Fits 10 precision x

/-! ## The rules of the format -/

theorem one_lt_ten : 1 < 10 := by norm_num

@[simp] theorem fix_zero (precision : ℕ) : fix precision 0 = 0 :=
  FloatingPoint.nearest_zero 10 precision

/-- The error of a rounding relative to the number. -/
theorem abs_fix_sub_le_mul (hprecision : 0 < precision) (x : ℚ) :
    |fix precision x - x| ≤ |x| * (1 / 2 / 10 ^ (precision - 1)) :=
  FloatingPoint.abs_nearest_sub_le_mul one_lt_ten hprecision x

/-- **A number with few digits is not rounded.** -/
theorem Fits.fix_eq (hfits : Fits precision x) : fix precision x = x :=
  hfits.nearest_eq one_lt_ten

theorem fits_zero (precision : ℕ) : Fits precision 0 := FloatingPoint.fits_zero one_lt_ten precision

theorem Fits.mul_zpow (hfits : Fits precision x) (k : ℤ) : Fits precision (x * 10 ^ k) :=
  FloatingPoint.Fits.mul_zpow one_lt_ten hfits k

/-- What a rounding returns has few digits. -/
theorem fits_fix (hprecision : 0 < precision) (x : ℚ) : Fits precision (fix precision x) :=
  FloatingPoint.fits_nearest one_lt_ten hprecision x

theorem fix_nonneg (precision : ℕ) (hx : 0 ≤ x) : 0 ≤ fix precision x :=
  FloatingPoint.nearest_nonneg one_lt_ten precision hx

/-- **Rounding keeps the order.** -/
theorem fix_mono (hprecision : 0 < precision) (h : x ≤ y) : fix precision x ≤ fix precision y :=
  FloatingPoint.nearest_mono one_lt_ten hprecision h

/-- A number whose rounding stays below a power of ten is below it too. -/
theorem lt_of_fix_lt (hprecision : 0 < precision) (hx : 0 ≤ x) {k : ℤ}
    (h : fix precision x < 10 ^ k) : x < 10 ^ k :=
  FloatingPoint.lt_of_nearest_lt one_lt_ten hprecision hx h

/-! ## Quantising -/

theorem quantize_eq_some {digits : ℕ} (h : quantize precision digits x = some y) :
    y = roundTo digits x := by
  rw [quantize] at h
  split_ifs at h
  exact (Option.some.inj h).symm

end Decimal

end Python

end Foundations
