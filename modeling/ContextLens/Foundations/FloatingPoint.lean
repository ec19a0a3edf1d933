import ContextLens.Foundations.PythonBuiltins
import Mathlib.Data.Int.Log

/-!
# Numbers of a fixed precision

A floating-point number of `precision` digits to a `radix` is read as the rational it
denotes, and arithmetic on such numbers is exact arithmetic followed by `nearest`: round
to the nearest number of that precision, ties to the even last digit.

* `nearest_mono`: rounding keeps the order.
* `abs_nearest_sub_le_mul`: it moves a number by a fixed fraction of it at most.

### The two design decisions

**The exponent is not bounded.**  There is no overflow and no gradual underflow, so the
error of a rounding is relative to the number without exception.  Near the limits of a
format with a bounded exponent its roundings differ from these.

**A number is not a type of its own.**  `nearest` goes from rationals to rationals, so
the statements about rounded arithmetic and about exact arithmetic are about the same
numbers and can be compared.  That a number has the precision is a property of it
(`Fits`), which `nearest` has for its values (`fits_nearest`).
-/

namespace Foundations

namespace FloatingPoint

open Python (roundHalfEven roundHalfEven_intCast roundHalfEven_mono abs_roundHalfEven_sub_le)

variable {radix precision : ℕ} {x y : ℚ}

/-- The value of the last of the `precision` digits of `x`. -/
def unit (radix precision : ℕ) (x : ℚ) : ℚ := (radix : ℚ) ^ (Int.log radix |x| + 1 - precision)

/-- The nearest number of `precision` digits, ties to the even one. -/
def nearest (radix precision : ℕ) (x : ℚ) : ℚ :=
  roundHalfEven (x / unit radix precision x) * unit radix precision x

/-! ## The digits of a number -/

theorem radix_pos (hradix : 1 < radix) : (0 : ℚ) < radix := by
  exact_mod_cast (Nat.zero_lt_one.trans hradix)

theorem unit_pos (hradix : 1 < radix) (precision : ℕ) (x : ℚ) : 0 < unit radix precision x :=
  zpow_pos (radix_pos hradix) _

@[simp] theorem nearest_zero (radix precision : ℕ) : nearest radix precision 0 = 0 := by
  have hzero : roundHalfEven 0 = 0 := roundHalfEven_intCast 0
  rw [nearest, zero_div, hzero, Int.cast_zero, zero_mul]

/-- A number is at least `radix ^ (precision - 1)` of its units. -/
theorem unit_le (hradix : 1 < radix) (precision : ℕ) (hx : x ≠ 0) :
    unit radix precision x * radix ^ ((precision : ℤ) - 1) ≤ |x| := by
  rw [unit, ← zpow_add₀ (radix_pos hradix).ne']
  have hexponent : Int.log radix |x| + 1 - (precision : ℤ) + ((precision : ℤ) - 1) =
      Int.log radix |x| := by
    ring
  rw [hexponent]
  exact Int.zpow_log_le_self hradix (abs_pos.mpr hx)

/-- A number is less than `radix ^ precision` of its units. -/
theorem lt_unit (hradix : 1 < radix) (precision : ℕ) (x : ℚ) :
    |x| < unit radix precision x * radix ^ (precision : ℤ) := by
  rw [unit, ← zpow_add₀ (radix_pos hradix).ne']
  have hexponent : Int.log radix |x| + 1 - (precision : ℤ) + (precision : ℤ) =
      Int.log radix |x| + 1 := by
    ring
  rw [hexponent]
  exact Int.lt_zpow_succ_log_self hradix |x|

/-- **One rounding moves a number by a half of its last digit at most.** -/
theorem abs_nearest_sub_le (hradix : 1 < radix) (precision : ℕ) (x : ℚ) :
    |nearest radix precision x - x| ≤ unit radix precision x / 2 := by
  have hunit := unit_pos hradix precision x
  have hsplit : nearest radix precision x - x =
      (roundHalfEven (x / unit radix precision x) - x / unit radix precision x) *
        unit radix precision x := by
    rw [nearest, sub_mul, div_mul_cancel₀ _ hunit.ne']
  rw [hsplit, abs_mul, abs_of_pos hunit]
  calc |(roundHalfEven (x / unit radix precision x) : ℚ) - x / unit radix precision x| *
        unit radix precision x
      ≤ 1 / 2 * unit radix precision x :=
        mul_le_mul_of_nonneg_right (abs_roundHalfEven_sub_le _) hunit.le
    _ = unit radix precision x / 2 := by ring

/-- The error of a rounding relative to the number. -/
theorem abs_nearest_sub_le_mul (hradix : 1 < radix) (hprecision : 0 < precision) (x : ℚ) :
    |nearest radix precision x - x| ≤ |x| * (1 / 2 / (radix : ℚ) ^ (precision - 1)) := by
  by_cases hx : x = 0
  · simp [hx]
  · have hscale : (0 : ℚ) < (radix : ℚ) ^ (precision - 1) := pow_pos (radix_pos hradix) _
    have hle := unit_le hradix precision hx
    have hcast : (radix : ℚ) ^ ((precision : ℤ) - 1) = (radix : ℚ) ^ (precision - 1) := by
      rw [← Nat.cast_pred hprecision, zpow_natCast]
    rw [hcast, ← le_div_iff₀ hscale] at hle
    calc |nearest radix precision x - x| ≤ unit radix precision x / 2 :=
          abs_nearest_sub_le hradix precision x
      _ ≤ |x| / (radix : ℚ) ^ (precision - 1) / 2 := by linarith
      _ = |x| * (1 / 2 / (radix : ℚ) ^ (precision - 1)) := by ring

/-! ## Numbers that are kept -/

/-- `x` has at most `precision` digits. -/
def Fits (radix precision : ℕ) (x : ℚ) : Prop :=
  ∃ coefficient exponent : ℤ, |coefficient| < (radix : ℤ) ^ precision ∧
    x = coefficient * (radix : ℚ) ^ exponent

theorem nearest_of_mul_unit (hradix : 1 < radix) {n : ℤ} (h : x = n * unit radix precision x) :
    nearest radix precision x = x := by
  have hquotient : x / unit radix precision x = n := by
    rw [div_eq_iff (unit_pos hradix precision x).ne']
    exact h
  rw [nearest, hquotient, roundHalfEven_intCast]
  exact h.symm

/-- The unit of a number that fits divides it. -/
theorem Fits.exists_mul_unit (hradix : 1 < radix) (hfits : Fits radix precision x) :
    ∃ n : ℤ, x = n * unit radix precision x := by
  obtain ⟨coefficient, exponent, hlt, hx⟩ := hfits
  have hpos := radix_pos hradix
  by_cases hzero : x = 0
  · exact ⟨0, by rw [hzero, Int.cast_zero, zero_mul]⟩
  · have habs : |x| < (radix : ℚ) ^ ((precision : ℤ) + exponent) := by
      have hcast : (|coefficient| : ℚ) < (radix : ℚ) ^ precision := by exact_mod_cast hlt
      rw [hx, abs_mul, abs_of_pos (zpow_pos hpos exponent), zpow_add₀ hpos.ne', zpow_natCast]
      exact mul_lt_mul_of_pos_right hcast (zpow_pos hpos _)
    have hlog : Int.log radix |x| < (precision : ℤ) + exponent :=
      (Int.lt_zpow_iff_log_lt hradix (abs_pos.mpr hzero)).mp habs
    -- So the exponent of the unit is not above the one the number is written with.
    obtain ⟨k, hk⟩ := Int.eq_ofNat_of_zero_le
      (show 0 ≤ exponent - (Int.log radix |x| + 1 - (precision : ℤ)) by omega)
    refine ⟨coefficient * (radix : ℤ) ^ k, ?_⟩
    have hexponent : exponent = k + (Int.log radix |x| + 1 - (precision : ℤ)) := by omega
    rw [unit, Int.cast_mul, mul_assoc, Int.cast_pow, Int.cast_natCast, ← zpow_natCast,
      ← zpow_add₀ hpos.ne', ← hexponent]
    exact hx

/-- **A number with few digits is not rounded.** -/
theorem Fits.nearest_eq (hradix : 1 < radix) (hfits : Fits radix precision x) :
    nearest radix precision x = x :=
  (hfits.exists_mul_unit hradix).elim fun _ hn => nearest_of_mul_unit hradix hn

theorem fits_zero (hradix : 1 < radix) (precision : ℕ) : Fits radix precision 0 := by
  refine ⟨0, 0, ?_, by simp⟩
  rw [abs_zero]
  exact pow_pos (by omega) _

theorem Fits.mul_zpow (hradix : 1 < radix) (hfits : Fits radix precision x) (k : ℤ) :
    Fits radix precision (x * (radix : ℚ) ^ k) := by
  obtain ⟨coefficient, exponent, hlt, rfl⟩ := hfits
  exact ⟨coefficient, exponent + k, hlt, by rw [zpow_add₀ (radix_pos hradix).ne', mul_assoc]⟩

theorem natAbs_roundHalfEven_le {n : ℤ} (h : |x| ≤ n) : |roundHalfEven x| ≤ n := by
  rw [abs_le] at h ⊢
  have hlow := roundHalfEven_mono h.1
  have hhigh := roundHalfEven_mono h.2
  rw [roundHalfEven_intCast] at hhigh
  rw [← Int.cast_neg, roundHalfEven_intCast] at hlow
  exact ⟨hlow, hhigh⟩

/-- What a rounding returns has few digits. -/
theorem fits_nearest (hradix : 1 < radix) (hprecision : 0 < precision) (x : ℚ) :
    Fits radix precision (nearest radix precision x) := by
  have hpos := radix_pos hradix
  have hunit := unit_pos hradix precision x
  have hquotient : |x / unit radix precision x| ≤ (((radix : ℤ) ^ precision : ℤ) : ℚ) := by
    rw [abs_div, abs_of_pos hunit, div_le_iff₀ hunit, mul_comm]
    have hlt := lt_unit hradix precision x
    rw [zpow_natCast] at hlt
    push_cast
    exact hlt.le
  have hle := natAbs_roundHalfEven_le hquotient
  rcases hle.lt_or_eq with hlt | heq
  · exact ⟨_, _, hlt, rfl⟩
  · -- Rounded up to the next power of the radix, which has one digit.
    have hone : |(1 : ℤ)| < (radix : ℤ) ^ precision := by
      rw [abs_one]
      exact one_lt_pow₀ (by exact_mod_cast hradix) hprecision.ne'
    have hpower : ((radix : ℤ) ^ precision : ℤ) * unit radix precision x =
        (radix : ℚ) ^ ((precision : ℤ) + (Int.log radix |x| + 1 - precision)) := by
      rw [zpow_add₀ hpos.ne', zpow_natCast, unit]
      push_cast
      rfl
    rcases (abs_eq (by positivity)).mp heq with hup | hdown
    · refine ⟨1, (precision : ℤ) + (Int.log radix |x| + 1 - precision), hone, ?_⟩
      rw [nearest, hup, hpower, Int.cast_one, one_mul]
    · refine ⟨-1, (precision : ℤ) + (Int.log radix |x| + 1 - precision), by simpa using hone, ?_⟩
      rw [nearest, hdown, Int.cast_neg, neg_mul, hpower]
      simp

/-! ## Order -/

theorem nearest_neg (radix precision : ℕ) (x : ℚ) :
    nearest radix precision (-x) = -nearest radix precision x := by
  have hunit : unit radix precision (-x) = unit radix precision x := by
    rw [unit, unit, abs_neg]
  rw [nearest, nearest, hunit, neg_div, Python.roundHalfEven_neg, Int.cast_neg, neg_mul]

theorem nearest_nonneg (hradix : 1 < radix) (precision : ℕ) (hx : 0 ≤ x) :
    0 ≤ nearest radix precision x := by
  have hunit := unit_pos hradix precision x
  have hround := roundHalfEven_mono (div_nonneg hx hunit.le)
  have hzero : roundHalfEven 0 = 0 := roundHalfEven_intCast 0
  rw [hzero] at hround
  exact mul_nonneg (by exact_mod_cast hround) hunit.le

theorem log_le_log (hx : 0 < x) (h : x ≤ y) : Int.log radix |x| ≤ Int.log radix |y| := by
  rw [abs_of_pos hx, abs_of_pos (hx.trans_le h)]
  exact Int.log_mono_right hx h

/-- A rounding stays below the next power of the radix. -/
theorem nearest_le_zpow (hradix : 1 < radix) (hx : 0 ≤ x) :
    nearest radix precision x ≤ (radix : ℚ) ^ (Int.log radix |x| + 1) := by
  have hunit := unit_pos hradix precision x
  have hlt := lt_unit hradix precision x
  rw [abs_of_nonneg hx, zpow_natCast, mul_comm, ← div_lt_iff₀ hunit] at hlt
  have hround : roundHalfEven (x / unit radix precision x) ≤ (radix : ℤ) ^ precision := by
    rw [← roundHalfEven_intCast ((radix : ℤ) ^ precision)]
    refine roundHalfEven_mono ?_
    push_cast
    exact hlt.le
  have hcast : (roundHalfEven (x / unit radix precision x) : ℚ) ≤ (radix : ℚ) ^ precision := by
    exact_mod_cast hround
  calc nearest radix precision x ≤ (radix : ℚ) ^ precision * unit radix precision x :=
        mul_le_mul_of_nonneg_right hcast hunit.le
    _ = (radix : ℚ) ^ (Int.log radix |x| + 1) := by
        rw [unit, ← zpow_natCast, ← zpow_add₀ (radix_pos hradix).ne']
        congr 1
        ring

/-- A rounding stays above the last power of the radix. -/
theorem zpow_le_nearest (hradix : 1 < radix) (hprecision : 0 < precision) (hx : 0 < x) :
    (radix : ℚ) ^ Int.log radix |x| ≤ nearest radix precision x := by
  have hunit := unit_pos hradix precision x
  have hle := unit_le hradix precision hx.ne'
  rw [← Nat.cast_pred hprecision, zpow_natCast, abs_of_pos hx, mul_comm, ← le_div_iff₀ hunit] at hle
  have hround : (radix : ℤ) ^ (precision - 1) ≤ roundHalfEven (x / unit radix precision x) := by
    rw [← roundHalfEven_intCast ((radix : ℤ) ^ (precision - 1))]
    refine roundHalfEven_mono ?_
    push_cast
    exact hle
  have hcast : (radix : ℚ) ^ (precision - 1) ≤ roundHalfEven (x / unit radix precision x) := by
    exact_mod_cast hround
  calc (radix : ℚ) ^ Int.log radix |x| =
        (radix : ℚ) ^ (precision - 1) * unit radix precision x := by
        rw [unit, ← zpow_natCast, Nat.cast_pred hprecision, ← zpow_add₀ (radix_pos hradix).ne']
        congr 1
        ring
    _ ≤ nearest radix precision x := mul_le_mul_of_nonneg_right hcast hunit.le

theorem nearest_le_nearest_of_nonneg (hradix : 1 < radix) (hprecision : 0 < precision)
    (hx : 0 ≤ x) (h : x ≤ y) : nearest radix precision x ≤ nearest radix precision y := by
  rcases hx.eq_or_lt with rfl | hpos
  · rw [nearest_zero]
    exact nearest_nonneg hradix precision h
  · rcases (log_le_log hpos h : Int.log radix |x| ≤ Int.log radix |y|).lt_or_eq with hlt | heq
    · -- A power of the radix lies between the two.
      calc nearest radix precision x ≤ (radix : ℚ) ^ (Int.log radix |x| + 1) :=
            nearest_le_zpow hradix hx
        _ ≤ (radix : ℚ) ^ Int.log radix |y| :=
            zpow_le_zpow_right₀ (by exact_mod_cast hradix.le) hlt
        _ ≤ nearest radix precision y := zpow_le_nearest hradix hprecision (hpos.trans_le h)
    · have hsame : unit radix precision x = unit radix precision y := by rw [unit, unit, heq]
      have hunit := unit_pos hradix precision y
      rw [nearest, nearest, hsame]
      refine mul_le_mul_of_nonneg_right ?_ hunit.le
      exact_mod_cast roundHalfEven_mono (div_le_div_of_nonneg_right h hunit.le)

/-- **Rounding keeps the order.** -/
theorem nearest_mono (hradix : 1 < radix) (hprecision : 0 < precision) :
    Monotone (nearest radix precision) := by
  intro x y h
  rcases le_total 0 x with hx | hx
  · exact nearest_le_nearest_of_nonneg hradix hprecision hx h
  · rcases le_total 0 y with hy | hy
    · -- The signs differ.
      have hneg := nearest_nonneg hradix precision (neg_nonneg.mpr hx)
      rw [nearest_neg, neg_nonneg] at hneg
      exact hneg.trans (nearest_nonneg hradix precision hy)
    · have hmirror := nearest_le_nearest_of_nonneg hradix hprecision (neg_nonneg.mpr hy)
        (neg_le_neg h)
      rwa [nearest_neg, nearest_neg, neg_le_neg_iff] at hmirror

/-- A number whose rounding stays below a power of the radix is below it too. -/
theorem lt_of_nearest_lt (hradix : 1 < radix) (hprecision : 0 < precision) (hx : 0 ≤ x) {k : ℤ}
    (h : nearest radix precision x < (radix : ℚ) ^ k) : x < (radix : ℚ) ^ k := by
  have hone : (1 : ℚ) < radix := by exact_mod_cast hradix
  rcases hx.eq_or_lt with rfl | hpos
  · exact zpow_pos (radix_pos hradix) k
  · have hlog : Int.log radix |x| < k :=
      (zpow_lt_zpow_iff_right₀ hone).mp ((zpow_le_nearest hradix hprecision hpos).trans_lt h)
    have hlt : x < (radix : ℚ) ^ (Int.log radix |x| + 1) := by
      conv_lhs => rw [← abs_of_pos hpos]
      exact Int.lt_zpow_succ_log_self hradix |x|
    exact hlt.trans_le (zpow_le_zpow_right₀ hone.le hlog)

/-- The unit of a number between two powers of the radix. -/
theorem unit_eq (hradix : 1 < radix) {k : ℤ} (hlow : (radix : ℚ) ^ k ≤ |x|)
    (hhigh : |x| < (radix : ℚ) ^ (k + 1)) :
    unit radix precision x = (radix : ℚ) ^ (k + 1 - precision) := by
  have hpos : 0 < |x| := (zpow_pos (radix_pos hradix) k).trans_le hlow
  have hlog : Int.log radix |x| = k :=
    le_antisymm (Int.lt_add_one_iff.mp ((Int.lt_zpow_iff_log_lt hradix hpos).mp hhigh))
      ((Int.zpow_le_iff_le_log hradix hpos).mp hlow)
  rw [unit, hlog]

end FloatingPoint

end Foundations
