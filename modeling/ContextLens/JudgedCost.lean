import ContextLens.Foundations.PythonDecimal
import ContextLens.JudgeRetry
import ContextLens.PipelinePhases
import ContextLens.Foundations.SqlQueries

/-!
# The stored cost of a judged run

`estimate_usd_from_tokens` once more, in the decimal arithmetic that it is written in,
and the judged branch of `execute_llm_judge_and_complete_run` as far as it calls the
judge and bills: the generation is priced, the judge is called, its calls are priced
together, and the sum goes to the column `evaluation_results.cost_usd`.

A cost is rounded in two places.  Each price is quantised to six digits, which moves it
by half of the last one at most.  Before that its products and its sum are rounded to 28
significant digits, which is no rounding at all for ordinary rates; for the others it
adds an error far below a six-digit price, but not zero: `cost_error_exceeds_quantum`.
-/

namespace ContextLens

open Foundations Foundations.Python JudgeEvaluation

namespace Settings

variable (settings : Settings)

/-! ## Prices -/

/-- `usd += Decimal(str(rate)) * Decimal(tokens) / Decimal(1_000_000)`, where the rate is
positive. -/
def addUsd (rate : ℚ) (tokens : ℤ) (usd : ℚ) : ℚ :=
  if 0 < rate then
    Decimal.add 28 usd (Decimal.div 28 (Decimal.mul 28 rate tokens) 1000000)
  else usd

/-- The sum that `estimate_usd_from_tokens` quantises. -/
def decimalUsd (inputTokens outputTokens : ℤ) : ℚ :=
  addUsd settings.pricingRatesForActiveProvider.2 outputTokens
    (addUsd settings.pricingRatesForActiveProvider.1 inputTokens 0)

/-- `estimate_usd_from_tokens`, with the exception that `quantize` raises on an amount of
more than 28 digits. -/
def estimateUsd (inputTokens outputTokens : Option ℤ) : Except PyException (Option ℚ) :=
  if settings.pricingRatesForActiveProvider.1 ≤ 0 ∧
      settings.pricingRatesForActiveProvider.2 ≤ 0 then .ok none
  else if inputTokens = none ∧ outputTokens = none then .ok none
  else
    match Decimal.quantize 28 6 (settings.decimalUsd (inputTokens.getD 0)
        (outputTokens.getD 0)) with
    | some usd => .ok (some usd)
    | none => .error (.other "InvalidOperation")

end Settings

/-! ## The judged branch -/

/-- `cost_usd` of the judged branch: unknown only when both prices are. -/
def addedCost (genCost judgeCost : Option ℚ) : Option ℚ :=
  if genCost.isSome ∨ judgeCost.isSome then
    some (Decimal.add 28 (genCost.getD 0) (judgeCost.getD 0))
  else none

/-- The cost in its column, `Numeric(14, 6)`. -/
def storedCost : Option ℚ → Except PyException (Option ℚ)
  | none => .ok none
  | some cost =>
      match Sql.numeric 14 6 cost with
      | some stored => .ok (some stored)
      | none => .error (.other "NumericValueOutOfRange")

/-- A step that may raise and calls nobody. -/
def raised {α : Type} (x : Except PyException α) : JudgeCalls α :=
  match x with
  | .error e => throw (.python e)
  | .ok a => return a

/-- The judged branch of `execute_llm_judge_and_complete_run`: the cost it stores. -/
def Settings.judgedRunCost (settings : Settings) (env : JudgeEnv) (gen : TokenUsage) :
    JudgeCalls (Option ℚ) := do
  let genCost ← raised (settings.estimateUsd (gen.inputTokens.map Nat.cast)
    (gen.outputTokens.map Nat.cast))
  let ev ← env.evaluateWithLlmJudge
  let judgeCost ← raised (settings.estimateUsd ev.judgeInputTokens ev.judgeOutputTokens)
  raised (storedCost (addedCost genCost judgeCost))

/-! ## The exact cost -/

namespace Settings

variable (settings : Settings)

/-- The cost of some tokens, without any rounding. -/
def exactUsd (inputTokens outputTokens : ℤ) : ℚ :=
  (settings.pricingRatesForActiveProvider.1 * inputTokens +
    settings.pricingRatesForActiveProvider.2 * outputTokens) / 1000000

/-- The exact cost of some calls; a count that is not reported is taken as zero. -/
def exactCost (usages : List TokenUsage) : ℚ :=
  (usages.map fun usage =>
    settings.exactUsd (usage.inputTokens.getD 0) (usage.outputTokens.getD 0)).sum

/-- No digit of the price is lost: its products and its sum have at most 28. -/
def WithinPrecision (inputTokens outputTokens : ℤ) : Prop :=
  Decimal.Fits 28 (settings.pricingRatesForActiveProvider.1 * inputTokens) ∧
    Decimal.Fits 28 (settings.pricingRatesForActiveProvider.2 * outputTokens) ∧
    Decimal.Fits 28 (settings.exactUsd inputTokens outputTokens)

/-! ## One price -/

section

variable {settings} {rate usd : ℚ} {tokens : ℤ}

/-- One side of a price. -/
def decimalPart (rate : ℚ) (tokens : ℤ) : ℚ := Decimal.fix 28 (rate * tokens) / 1000000

theorem div_million (x : ℚ) : x / 1000000 = x * 10 ^ (-6 : ℤ) := by
  rw [zpow_neg, div_eq_mul_inv]
  norm_num

theorem fits_decimalPart (rate : ℚ) (tokens : ℤ) : Decimal.Fits 28 (decimalPart rate tokens) := by
  rw [decimalPart, div_million]
  exact (Decimal.fits_fix (by norm_num) _).mul_zpow (-6)

theorem decimalPart_nonneg (hrate : 0 ≤ rate) (htokens : 0 ≤ tokens) :
    0 ≤ decimalPart rate tokens :=
  div_nonneg (Decimal.fix_nonneg 28 (mul_nonneg hrate (by exact_mod_cast htokens))) (by norm_num)

/-- Dividing by a million moves the point and rounds nothing. -/
theorem addUsd_eq (hrate : 0 ≤ rate) (husd : Decimal.Fits 28 usd) :
    addUsd rate tokens usd = Decimal.fix 28 (usd + decimalPart rate tokens) := by
  rw [addUsd]
  split_ifs with hpos
  · show Decimal.fix 28 (usd + Decimal.fix 28 (decimalPart rate tokens)) = _
    rw [(fits_decimalPart rate tokens).fix_eq]
  · have hzero : rate = 0 := le_antisymm (not_lt.mp hpos) hrate
    rw [hzero, decimalPart, zero_mul, Decimal.fix_zero, zero_div, add_zero, husd.fix_eq]

/-- The relative error of one rounding to 28 digits. -/
def roundingError : ℚ := 1 / 2 / 10 ^ 27

theorem abs_decimalPart_sub_le (hrate : 0 ≤ rate) (htokens : 0 ≤ tokens) :
    |decimalPart rate tokens - rate * tokens / 1000000| ≤
      roundingError * (rate * tokens / 1000000) := by
  have hproduct : 0 ≤ rate * (tokens : ℚ) := mul_nonneg hrate (by exact_mod_cast htokens)
  have hfix := Decimal.abs_fix_sub_le_mul (show 0 < 28 by norm_num) (rate * tokens)
  rw [abs_of_nonneg hproduct] at hfix
  calc |decimalPart rate tokens - rate * tokens / 1000000|
      = |Decimal.fix 28 (rate * tokens) - rate * tokens| / 1000000 := by
        rw [decimalPart, ← sub_div, abs_div, abs_of_pos (by norm_num : (0 : ℚ) < 1000000)]
    _ ≤ rate * tokens * roundingError / 1000000 :=
        div_le_div_of_nonneg_right hfix (by norm_num)
    _ = roundingError * (rate * tokens / 1000000) := by ring

theorem decimalPart_mono (hrate : 0 ≤ rate) {tokens' : ℤ} (h : tokens ≤ tokens') :
    decimalPart rate tokens ≤ decimalPart rate tokens' := by
  have hcast : (tokens : ℚ) ≤ tokens' := by exact_mod_cast h
  refine div_le_div_of_nonneg_right (Decimal.fix_mono (by norm_num) ?_) (by norm_num)
  exact mul_le_mul_of_nonneg_left hcast hrate

end

section

variable {settings} {input output input' output' : ℤ}
variable (hin : 0 ≤ settings.pricingRatesForActiveProvider.1)
  (hout : 0 ≤ settings.pricingRatesForActiveProvider.2)

include hin hout

/-- A price before it is quantised: two products and one sum. -/
theorem decimalUsd_eq (input output : ℤ) :
    settings.decimalUsd input output = Decimal.fix 28
      (decimalPart settings.pricingRatesForActiveProvider.1 input +
        decimalPart settings.pricingRatesForActiveProvider.2 output) := by
  rw [decimalUsd, addUsd_eq hin (Decimal.fits_zero 28), zero_add, (fits_decimalPart _ _).fix_eq,
    addUsd_eq hout (fits_decimalPart _ _)]

theorem decimalUsd_zero : settings.decimalUsd 0 0 = 0 := by
  rw [decimalUsd_eq hin hout, decimalPart, decimalPart, Int.cast_zero, mul_zero, mul_zero,
    Decimal.fix_zero, zero_div, add_zero, Decimal.fix_zero]

theorem decimalUsd_nonneg (hinput : 0 ≤ input) (houtput : 0 ≤ output) :
    0 ≤ settings.decimalUsd input output := by
  rw [decimalUsd_eq hin hout]
  exact Decimal.fix_nonneg 28
    (add_nonneg (decimalPart_nonneg hin hinput) (decimalPart_nonneg hout houtput))

theorem exactUsd_nonneg (hinput : 0 ≤ input) (houtput : 0 ≤ output) :
    0 ≤ settings.exactUsd input output := by
  have hleft : (0 : ℚ) ≤ input := by exact_mod_cast hinput
  have hright : (0 : ℚ) ≤ output := by exact_mod_cast houtput
  exact div_nonneg (add_nonneg (mul_nonneg hin hleft) (mul_nonneg hout hright)) (by norm_num)

/-- A price grows with the counts. -/
theorem decimalUsd_mono (hle : input ≤ input') (hle' : output ≤ output') :
    settings.decimalUsd input output ≤ settings.decimalUsd input' output' := by
  rw [decimalUsd_eq hin hout, decimalUsd_eq hin hout]
  exact Decimal.fix_mono (by norm_num)
    (add_le_add (decimalPart_mono hin hle) (decimalPart_mono hout hle'))

/-- **The error of a price before it is quantised.** -/
theorem abs_decimalUsd_sub_le (hinput : 0 ≤ input) (houtput : 0 ≤ output) :
    |settings.decimalUsd input output - settings.exactUsd input output| ≤
      3 * roundingError * settings.exactUsd input output := by
  have hleft := abs_decimalPart_sub_le hin hinput
  have hright := abs_decimalPart_sub_le hout houtput
  have hexact : settings.exactUsd input output =
      settings.pricingRatesForActiveProvider.1 * input / 1000000 +
        settings.pricingRatesForActiveProvider.2 * output / 1000000 := add_div _ _ _
  have hsum := Decimal.abs_fix_sub_le_mul (show 0 < 28 by norm_num)
    (decimalPart settings.pricingRatesForActiveProvider.1 input +
      decimalPart settings.pricingRatesForActiveProvider.2 output)
  rw [abs_of_nonneg (add_nonneg (decimalPart_nonneg hin hinput)
    (decimalPart_nonneg hout houtput))] at hsum
  rw [decimalUsd_eq hin hout]
  have hnonneg := exactUsd_nonneg hin hout hinput houtput
  rw [hexact] at hnonneg ⊢
  generalize settings.pricingRatesForActiveProvider.1 * (input : ℚ) / 1000000 = x at *
  generalize settings.pricingRatesForActiveProvider.2 * (output : ℚ) / 1000000 = y at *
  generalize decimalPart settings.pricingRatesForActiveProvider.1 input = a at *
  generalize decimalPart settings.pricingRatesForActiveProvider.2 output = b at *
  rw [roundingError] at hleft hright ⊢
  rw [abs_le] at hleft hright hsum ⊢
  constructor <;> linarith [hleft.1, hleft.2, hright.1, hright.2, hsum.1, hsum.2]

/-- Where no digit is lost the price is exact. -/
theorem decimalUsd_of_withinPrecision (h : settings.WithinPrecision input output) :
    settings.decimalUsd input output = settings.exactUsd input output := by
  obtain ⟨hleft, hright, hsum⟩ := h
  rw [decimalUsd_eq hin hout, decimalPart, decimalPart, hleft.fix_eq, hright.fix_eq, ← add_div]
  exact hsum.fix_eq

end

/-! ## The quantised price -/

section

variable {settings} {inputTokens outputTokens : Option ℤ} {cost : Option ℚ}

/-- An estimate that does not raise: when it is unknown, and what it is. -/
theorem estimateUsd_eq_ok (hin : 0 ≤ settings.pricingRatesForActiveProvider.1)
    (hout : 0 ≤ settings.pricingRatesForActiveProvider.2)
    (h : settings.estimateUsd inputTokens outputTokens = .ok cost) :
    (cost = none ↔ (settings.pricingRatesForActiveProvider.1 = 0 ∧
        settings.pricingRatesForActiveProvider.2 = 0) ∨
          inputTokens = none ∧ outputTokens = none) ∧
      cost.getD 0 =
        roundTo 6 (settings.decimalUsd (inputTokens.getD 0) (outputTokens.getD 0)) := by
  rw [estimateUsd] at h
  by_cases hoff : settings.pricingRatesForActiveProvider.1 ≤ 0 ∧
      settings.pricingRatesForActiveProvider.2 ≤ 0
  · rw [if_pos hoff] at h
    have hzero := le_antisymm hoff.1 hin
    have hzero' := le_antisymm hoff.2 hout
    rw [← Except.ok.inj h, decimalUsd, hzero, hzero', addUsd, addUsd, if_neg (lt_irrefl 0),
      if_neg (lt_irrefl 0), roundTo_zero]
    exact ⟨iff_of_true rfl (Or.inl ⟨rfl, rfl⟩), rfl⟩
  · rw [if_neg hoff] at h
    by_cases hnone : inputTokens = none ∧ outputTokens = none
    · rw [if_pos hnone] at h
      rw [← Except.ok.inj h, hnone.1, hnone.2]
      refine ⟨iff_of_true rfl (Or.inr ⟨rfl, rfl⟩), ?_⟩
      rw [Option.getD_none, Option.getD_none, decimalUsd_zero hin hout, roundTo_zero]
    · rw [if_neg hnone] at h
      cases hquantised : Decimal.quantize 28 6 (settings.decimalUsd (inputTokens.getD 0)
          (outputTokens.getD 0)) with
      | none =>
          rw [hquantised] at h
          cases h
      | some usd =>
          rw [hquantised] at h
          rw [← Except.ok.inj h]
          refine ⟨iff_of_false (Option.some_ne_none usd) ?_, Decimal.quantize_eq_some hquantised⟩
          rintro (⟨hzero, hzero'⟩ | hboth)
          · exact hoff ⟨hzero.le, hzero'.le⟩
          · exact hnone hboth

end

end Settings

/-! ## The stored sum -/

section

variable {genCost judgeCost cost : Option ℚ} {x y stored : ℚ}

/-- A sum of prices that the column takes has room in 28 digits. -/
theorem numeric_add_eq {m n : ℤ} (hx : 0 ≤ x) (hy : 0 ≤ y) (hm : x = m / 10 ^ 6)
    (hn : y = n / 10 ^ 6) (h : Sql.numeric 14 6 (Decimal.add 28 x y) = some stored) :
    stored = x + y ∧ stored < 10 ^ 8 := by
  have hnonneg : 0 ≤ x + y := add_nonneg hx hy
  have hdigits : x + y = ((m + n : ℤ) : ℚ) / 10 ^ 6 := by rw [hm, hn, Int.cast_add, add_div]
  obtain ⟨hrange, hstored⟩ := Sql.numeric_eq_some (Decimal.fix_nonneg 28 hnonneg) h
  have hfix : Decimal.fix 28 (x + y) < 10 ^ (8 : ℤ) := by
    norm_num at hrange ⊢
    linarith
  have hsum : x + y < 10 ^ (8 : ℤ) := Decimal.lt_of_fix_lt (by norm_num) hnonneg hfix
  have hfits : Decimal.Fits 28 (x + y) := by
    refine ⟨m + n, -6, ?_, by rw [hdigits, zpow_neg, div_eq_mul_inv]; norm_num⟩
    rw [hdigits] at hsum hnonneg
    rw [div_lt_iff₀ (by norm_num)] at hsum
    rw [le_div_iff₀ (by norm_num), zero_mul] at hnonneg
    have hupper : ((m + n : ℤ) : ℚ) < (10 ^ 14 : ℤ) := by
      norm_num at hsum ⊢
      exact hsum
    have hupper : m + n < 10 ^ 14 := Int.cast_lt.mp hupper
    have hlower : 0 ≤ m + n := by exact_mod_cast hnonneg
    rw [abs_of_nonneg hlower]
    omega
  have hadd : Decimal.add 28 x y = x + y := hfits.fix_eq
  have hvalue := (hstored (m + n) (hadd.trans hdigits)).trans hadd
  refine ⟨hvalue, ?_⟩
  rw [hvalue]
  exact_mod_cast hsum

/-- **What is stored** is the sum of the two prices, and nothing when both are unknown. -/
theorem storedCost_eq_ok (hx : 0 ≤ x) (hy : 0 ≤ y) (hgen : genCost.getD 0 = roundTo 6 x)
    (hjudge : judgeCost.getD 0 = roundTo 6 y)
    (h : storedCost (addedCost genCost judgeCost) = .ok cost) :
    (cost = none ↔ genCost = none ∧ judgeCost = none) ∧
      cost.getD 0 = roundTo 6 x + roundTo 6 y ∧ cost.getD 0 < 10 ^ 8 := by
  rw [addedCost] at h
  by_cases hsome : genCost.isSome ∨ judgeCost.isSome
  · rw [if_pos hsome, hgen, hjudge] at h
    unfold storedCost at h
    dsimp only at h
    cases hnumeric : Sql.numeric 14 6 (Decimal.add 28 (roundTo 6 x) (roundTo 6 y)) with
    | none =>
        rw [hnumeric] at h
        cases h
    | some stored =>
        rw [hnumeric] at h
        rw [← Except.ok.inj h]
        refine ⟨iff_of_false (Option.some_ne_none stored) ?_,
          numeric_add_eq (roundTo_nonneg 6 hx) (roundTo_nonneg 6 hy) rfl rfl hnumeric⟩
        rintro ⟨hgenNone, hjudgeNone⟩
        rw [hgenNone, hjudgeNone] at hsome
        simp at hsome
  · rw [if_neg hsome] at h
    unfold storedCost at h
    dsimp only at h
    rw [not_or, Option.not_isSome_iff_eq_none, Option.not_isSome_iff_eq_none] at hsome
    rw [← Except.ok.inj h]
    rw [hsome.1, Option.getD_none] at hgen
    rw [hsome.2, Option.getD_none] at hjudge
    refine ⟨iff_of_true rfl hsome, ?_, by norm_num⟩
    rw [← hgen, ← hjudge]
    exact (add_zero 0).symm

end

/-! ## The prices of the pipeline -/

section

variable {settings : Settings} {rate : ℚ}

theorem billedUsd_eq (hrate : 0 ≤ rate) (tokens : ℕ) :
    Settings.billedUsd rate tokens = rate * (tokens : ℤ) / 1000000 := by
  rw [Settings.billedUsd]
  split_ifs with hpos
  · rw [Int.cast_natCast]
  · rw [le_antisymm (not_lt.mp hpos) hrate, zero_mul, zero_div]

theorem estimateUsdFromTokens_eq (input output : Option ℕ) :
    settings.estimateUsdFromTokens input output =
      if settings.pricingRatesForActiveProvider.1 ≤ 0 ∧
          settings.pricingRatesForActiveProvider.2 ≤ 0 then none
      else if input = none ∧ output = none then none
      else some (roundTo 6
        (Settings.billedUsd settings.pricingRatesForActiveProvider.1 (input.getD 0) +
          Settings.billedUsd settings.pricingRatesForActiveProvider.2 (output.getD 0))) := by
  rw [Settings.estimateUsdFromTokens]

/-- **Where no digit is lost, a price is the one the pipeline's model computes.** -/
theorem estimateUsd_eq_estimateUsdFromTokens (hin : 0 ≤ settings.pricingRatesForActiveProvider.1)
    (hout : 0 ≤ settings.pricingRatesForActiveProvider.2) {input output : Option ℕ}
    {cost : Option ℚ}
    (hwithin : settings.WithinPrecision (input.getD 0 : ℕ) (output.getD 0 : ℕ))
    (h : settings.estimateUsd (input.map Nat.cast) (output.map Nat.cast) = .ok cost) :
    cost = settings.estimateUsdFromTokens input output := by
  obtain ⟨hnone, hvalue⟩ := Settings.estimateUsd_eq_ok hin hout h
  have hgetD : ∀ count : Option ℕ, (count.map Nat.cast : Option ℤ).getD 0 = (count.getD 0 : ℕ) := by
    rintro (_ | count) <;> rfl
  rw [hgetD, hgetD, Settings.decimalUsd_of_withinPrecision hin hout hwithin, Settings.exactUsd,
    add_div, ← billedUsd_eq hin, ← billedUsd_eq hout] at hvalue
  rw [Option.map_eq_none_iff, Option.map_eq_none_iff] at hnone
  rw [estimateUsdFromTokens_eq]
  by_cases hoff : settings.pricingRatesForActiveProvider.1 ≤ 0 ∧
      settings.pricingRatesForActiveProvider.2 ≤ 0
  · rw [if_pos hoff]
    exact hnone.mpr (Or.inl ⟨le_antisymm hoff.1 hin, le_antisymm hoff.2 hout⟩)
  rw [if_neg hoff]
  by_cases hunreported : input = none ∧ output = none
  · rw [if_pos hunreported]
    exact hnone.mpr (Or.inr hunreported)
  rw [if_neg hunreported]
  have hsome : cost ≠ none := by
    intro hcost
    rcases hnone.mp hcost with hzero | hboth
    · exact hoff ⟨hzero.1.le, hzero.2.le⟩
    · exact hunreported hboth
  obtain ⟨usd, rfl⟩ := Option.ne_none_iff_exists'.mp hsome
  rw [← hvalue, Option.getD_some]

/-- The stored cost is then the pipeline's `cost_usd`. -/
theorem storedCost_eq_judgedCostUsd (hin : 0 ≤ settings.pricingRatesForActiveProvider.1)
    (hout : 0 ≤ settings.pricingRatesForActiveProvider.2)
    {genInput genOutput judgeInput judgeOutput : Option ℕ} {genCost judgeCost cost : Option ℚ}
    (hgenWithin : settings.WithinPrecision (genInput.getD 0 : ℕ) (genOutput.getD 0 : ℕ))
    (hjudgeWithin : settings.WithinPrecision (judgeInput.getD 0 : ℕ) (judgeOutput.getD 0 : ℕ))
    (hgen : settings.estimateUsd (genInput.map Nat.cast) (genOutput.map Nat.cast) = .ok genCost)
    (hjudge : settings.estimateUsd (judgeInput.map Nat.cast) (judgeOutput.map Nat.cast) =
      .ok judgeCost)
    (h : storedCost (addedCost genCost judgeCost) = .ok cost) :
    cost = judgedCostUsd (settings.estimateUsdFromTokens genInput genOutput)
      (settings.estimateUsdFromTokens judgeInput judgeOutput) := by
  have hgenValue := (Settings.estimateUsd_eq_ok hin hout hgen).2
  have hjudgeValue := (Settings.estimateUsd_eq_ok hin hout hjudge).2
  have hnonneg : ∀ count : Option ℕ, (0 : ℤ) ≤ (count.map Nat.cast : Option ℤ).getD 0 := by
    rintro (_ | count)
    · exact le_rfl
    · exact Int.natCast_nonneg count
  obtain ⟨hnone, hsum, -⟩ := storedCost_eq_ok
    (Settings.decimalUsd_nonneg hin hout (hnonneg _) (hnonneg _))
    (Settings.decimalUsd_nonneg hin hout (hnonneg _) (hnonneg _)) hgenValue hjudgeValue h
  rw [← hgenValue, ← hjudgeValue] at hsum
  rw [← estimateUsd_eq_estimateUsdFromTokens hin hout hgenWithin hgen,
    ← estimateUsd_eq_estimateUsdFromTokens hin hout hjudgeWithin hjudge, judgedCostUsd]
  split_ifs with hsome
  · have hne : cost ≠ none := by
      intro hcost
      rw [(hnone.mp hcost).1, (hnone.mp hcost).2] at hsome
      simp at hsome
    obtain ⟨usd, rfl⟩ := Option.ne_none_iff_exists'.mp hne
    rw [← hsum, Option.getD_some]
  · rw [not_or, Option.not_isSome_iff_eq_none, Option.not_isSome_iff_eq_none] at hsome
    exact hnone.mpr hsome

end

/-! ## The whole branch -/

/-- At least as many tokens of either kind; a count that is not reported is zero. -/
instance : LE TokenUsage where
  le a b := a.inputTokens.getD 0 ≤ b.inputTokens.getD 0 ∧
    a.outputTokens.getD 0 ≤ b.outputTokens.getD 0

/-- The same texts, with at least the usage. -/
structure MoreTokens (env env' : JudgeEnv) : Prop where
  parser : env'.parser = env.parser
  rules : env'.rules = env.rules
  reply : ∀ {n reply}, env.reply n = .ok reply →
    ∃ reply', env'.reply n = .ok reply' ∧ reply'.raw = reply.raw ∧ reply.usage ≤ reply'.usage

/-- The input tokens of some calls. -/
def inputSum (usages : List TokenUsage) : ℕ :=
  (usages.map fun usage => usage.inputTokens.getD 0).sum

/-- The output tokens of some calls. -/
def outputSum (usages : List TokenUsage) : ℕ :=
  (usages.map fun usage => usage.outputTokens.getD 0).sum

/-- The usage of the judge calls that were made. -/
def judgeUsages (first second : JudgeReply) (calls : ℕ) : List TokenUsage :=
  ([first, second].take calls).map JudgeReply.usage

section

variable {settings : Settings} {env env' : JudgeEnv} {gen gen' : TokenUsage}
variable {first second : JudgeReply} {cost : Option ℚ} {calls : ℕ}

theorem after_raised {α : Type} {x : Except PyException α} {made : ℕ} {a : α} (h : x = .ok a) :
    (raised x).after made = (.ok a, made) := by
  rw [h]
  rfl

theorem after_raised_eq_ok {α : Type} {x : Except PyException α} {made made' : ℕ} {a : α}
    (h : (raised x).after made = (.ok a, made')) : x = .ok a ∧ made = made' := by
  cases x with
  | error e => cases h
  | ok a' =>
      cases h
      exact ⟨rfl, rfl⟩

/-- The exact cost is that of the tokens together. -/
theorem exactCost_eq (usages : List TokenUsage) :
    settings.exactCost usages = settings.exactUsd (inputSum usages) (outputSum usages) := by
  induction usages with
  | nil => simp [Settings.exactCost, Settings.exactUsd, inputSum, outputSum]
  | cons usage usages ih =>
      have hsplit : settings.exactCost (usage :: usages) =
          settings.exactUsd (usage.inputTokens.getD 0) (usage.outputTokens.getD 0) +
            settings.exactCost usages := List.sum_cons
      rw [hsplit, ih]
      simp only [Settings.exactUsd, inputSum, outputSum, List.map_cons, List.sum_cons]
      push_cast
      ring

theorem getD_reportedTokens (counts : List (Option ℕ)) :
    (reportedTokens counts).getD 0 = ((counts.map fun count => count.getD 0).sum : ℕ) := by
  rw [reportedTokens]
  split_ifs with hnone
  · have hzero : (counts.map fun count => count.getD 0).sum = 0 := by
      refine List.sum_eq_zero fun n hn => ?_
      obtain ⟨count, hcount, rfl⟩ := List.mem_map.mp hn
      rw [hnone count hcount]
      rfl
    rw [hzero]
    rfl
  · rfl

theorem reportedTokens_eq_none_iff {counts : List (Option ℕ)} :
    reportedTokens counts = none ↔ ∀ count ∈ counts, count = none := by
  rw [reportedTokens]
  split_ifs with hnone
  · exact iff_of_true rfl hnone
  · exact iff_of_false (by simp) hnone

/-- A branch that stores a cost: its evaluation and its two prices. -/
theorem judgedRunCost_eq_ok_iff :
    (settings.judgedRunCost env gen).after 0 = (.ok cost, calls) ↔
      ∃ genCost ev judgeCost,
        settings.estimateUsd (gen.inputTokens.map Nat.cast) (gen.outputTokens.map Nat.cast) =
          .ok genCost ∧
        env.evaluateWithLlmJudge.after 0 = (.ok ev, calls) ∧
        settings.estimateUsd ev.judgeInputTokens ev.judgeOutputTokens = .ok judgeCost ∧
        storedCost (addedCost genCost judgeCost) = .ok cost := by
  rw [Settings.judgedRunCost]
  constructor
  · intro h
    obtain ⟨genCost, start, hgen, hrest⟩ := after_bind_eq_ok h
    obtain ⟨ev, made, hev, hrest⟩ := after_bind_eq_ok hrest
    obtain ⟨judgeCost, made', hjudge, hrest⟩ := after_bind_eq_ok hrest
    -- Only the evaluation moves the count.
    obtain ⟨hgenCost, hstart⟩ := after_raised_eq_ok hgen
    obtain ⟨hjudgeCost, hmade⟩ := after_raised_eq_ok hjudge
    obtain ⟨hstored, hmade'⟩ := after_raised_eq_ok hrest
    rw [← hstart, hmade, hmade'] at hev
    exact ⟨genCost, ev, judgeCost, hgenCost, hev, hjudgeCost, hstored⟩
  · rintro ⟨genCost, ev, judgeCost, hgen, hev, hjudge, hstored⟩
    rw [after_bind_of_ok (after_raised hgen), after_bind_of_ok hev,
      after_bind_of_ok (after_raised hjudge)]
    exact after_raised hstored

/-- **What a judged run stores**: the price of its generation and the price of all its
judge calls together, and nothing when there is no price or no usage. -/
theorem cost_eq_prices (hin : 0 ≤ settings.pricingRatesForActiveProvider.1)
    (hout : 0 ≤ settings.pricingRatesForActiveProvider.2) (hfirst : env.reply 0 = .ok first)
    (hsecond : env.reply 1 = .ok second)
    (h : (settings.judgedRunCost env gen).after 0 = (.ok cost, calls)) :
    (env.evaluateWithLlmJudge.after 0).2 = calls ∧
      (cost = none ↔ (settings.pricingRatesForActiveProvider.1 = 0 ∧
          settings.pricingRatesForActiveProvider.2 = 0) ∨
        ∀ usage ∈ gen :: judgeUsages first second calls,
          usage.inputTokens = none ∧ usage.outputTokens = none) ∧
      cost.getD 0 =
        roundTo 6 (settings.decimalUsd (inputSum [gen]) (outputSum [gen])) +
          roundTo 6 (settings.decimalUsd (inputSum (judgeUsages first second calls))
            (outputSum (judgeUsages first second calls))) ∧
      cost.getD 0 < 10 ^ 8 := by
  obtain ⟨genCost, ev, judgeCost, hgen, hev, hjudge, hstored⟩ := judgedRunCost_eq_ok_iff.mp h
  obtain ⟨hinput, houtput⟩ := usage_evaluate hfirst hsecond hev
  obtain ⟨hgenNone, hgenPrice⟩ := Settings.estimateUsd_eq_ok hin hout hgen
  obtain ⟨hjudgeNone, hjudgePrice⟩ := Settings.estimateUsd_eq_ok hin hout hjudge
  have hgenIn : (gen.inputTokens.map Nat.cast : Option ℤ).getD 0 = inputSum [gen] := by
    cases hcount : gen.inputTokens <;> simp [inputSum, hcount]
  have hgenOut : (gen.outputTokens.map Nat.cast : Option ℤ).getD 0 = outputSum [gen] := by
    cases hcount : gen.outputTokens <;> simp [outputSum, hcount]
  have hjudgeIn : ev.judgeInputTokens.getD 0 = inputSum (judgeUsages first second calls) := by
    rw [hinput, getD_reportedTokens, inputSum, judgeUsages, List.map_map, List.map_map]
    rfl
  have hjudgeOut : ev.judgeOutputTokens.getD 0 = outputSum (judgeUsages first second calls) := by
    rw [houtput, getD_reportedTokens, outputSum, judgeUsages, List.map_map, List.map_map]
    rfl
  rw [hgenIn, hgenOut] at hgenPrice
  rw [hjudgeIn, hjudgeOut] at hjudgePrice
  obtain ⟨hnone, hsum, hlt⟩ := storedCost_eq_ok
    (Settings.decimalUsd_nonneg hin hout (Int.natCast_nonneg _) (Int.natCast_nonneg _))
    (Settings.decimalUsd_nonneg hin hout (Int.natCast_nonneg _) (Int.natCast_nonneg _))
    hgenPrice hjudgePrice hstored
  refine ⟨by rw [hev], ?_, hsum, hlt⟩
  have hunreported : (ev.judgeInputTokens = none ∧ ev.judgeOutputTokens = none) ↔
      ∀ usage ∈ judgeUsages first second calls,
        usage.inputTokens = none ∧ usage.outputTokens = none := by
    rw [hinput, houtput, reportedTokens_eq_none_iff, reportedTokens_eq_none_iff, judgeUsages]
    simp only [List.forall_mem_map]
    exact ⟨fun h reply hreply => ⟨h.1 reply hreply, h.2 reply hreply⟩,
      fun h => ⟨fun reply hreply => (h reply hreply).1, fun reply hreply => (h reply hreply).2⟩⟩
  rw [hnone, hgenNone, hjudgeNone, hunreported, ← or_and_left, List.forall_mem_cons,
    Option.map_eq_none_iff, Option.map_eq_none_iff]

/-- The error of a price. -/
theorem abs_price_sub_le (hin : 0 ≤ settings.pricingRatesForActiveProvider.1)
    (hout : 0 ≤ settings.pricingRatesForActiveProvider.2) (input output : ℕ) :
    |roundTo 6 (settings.decimalUsd input output) - settings.exactUsd input output| ≤
        1 / 2 / 10 ^ 6 + 3 * Settings.roundingError * settings.exactUsd input output ∧
      settings.exactUsd input output ≤
        2 * (roundTo 6 (settings.decimalUsd input output) + 1) := by
  have hinput : (0 : ℤ) ≤ input := Int.natCast_nonneg input
  have houtput : (0 : ℤ) ≤ output := Int.natCast_nonneg output
  have hdecimal := Settings.abs_decimalUsd_sub_le hin hout hinput houtput
  have hround := abs_roundTo_sub_le 6 (settings.decimalUsd input output)
  have hexact := Settings.exactUsd_nonneg hin hout hinput houtput
  generalize settings.decimalUsd input output = usd at *
  generalize settings.exactUsd input output = exact at *
  rw [Settings.roundingError] at *
  rw [abs_le] at hdecimal hround ⊢
  refine ⟨⟨?_, ?_⟩, ?_⟩
  · linarith [hdecimal.1, hround.1]
  · linarith [hdecimal.2, hround.2]
  · linarith [hdecimal.1, hround.1]

/-- Where no digit is lost, the error of a price is that of its quantisation. -/
theorem abs_price_sub_le_of_withinPrecision (hin : 0 ≤ settings.pricingRatesForActiveProvider.1)
    (hout : 0 ≤ settings.pricingRatesForActiveProvider.2) {input output : ℕ}
    (h : settings.WithinPrecision input output) :
    |roundTo 6 (settings.decimalUsd input output) - settings.exactUsd input output| ≤
      1 / 2 / 10 ^ 6 := by
  rw [← Settings.decimalUsd_of_withinPrecision hin hout h]
  exact abs_roundTo_sub_le 6 _

/-- Two prices that the column takes are off by their quantisation, up to a trace. -/
theorem abs_prices_sub_le (hin : 0 ≤ settings.pricingRatesForActiveProvider.1)
    (hout : 0 ≤ settings.pricingRatesForActiveProvider.2) {input output input' output' : ℕ}
    (hlt : roundTo 6 (settings.decimalUsd input output) +
      roundTo 6 (settings.decimalUsd input' output') < 10 ^ 8) :
    |roundTo 6 (settings.decimalUsd input output) +
          roundTo 6 (settings.decimalUsd input' output') -
        (settings.exactUsd input output + settings.exactUsd input' output')| ≤
      1 / 10 ^ 6 + 1 / 10 ^ 18 := by
  obtain ⟨hleft, hexact⟩ := abs_price_sub_le hin hout input output
  obtain ⟨hright, hexact'⟩ := abs_price_sub_le hin hout input' output'
  rw [add_sub_add_comm]
  refine (abs_add_le _ _).trans ((add_le_add hleft hright).trans ?_)
  rw [Settings.roundingError]
  linarith

/-- The exact cost of the branch is that of its two prices. -/
theorem exactCost_cons (usages : List TokenUsage) :
    settings.exactCost (gen :: usages) =
      settings.exactUsd (inputSum [gen]) (outputSum [gen]) +
        settings.exactUsd (inputSum usages) (outputSum usages) := by
  rw [← exactCost_eq, ← exactCost_eq]
  simp [Settings.exactCost]

theorem judgeUsages_mono {first' second' : JudgeReply} (hfirst : first.usage ≤ first'.usage)
    (hsecond : second.usage ≤ second'.usage) (n : ℕ) :
    inputSum (judgeUsages first second n) ≤ inputSum (judgeUsages first' second' n) ∧
      outputSum (judgeUsages first second n) ≤ outputSum (judgeUsages first' second' n) := by
  match n with
  | 0 => exact ⟨le_rfl, le_rfl⟩
  | 1 => exact ⟨Nat.add_le_add_right hfirst.1 0, Nat.add_le_add_right hfirst.2 0⟩
  | n + 2 =>
      simp only [inputSum, outputSum, judgeUsages, List.take_succ_cons, List.take_nil,
        List.map_cons, List.map_nil, List.sum_cons, List.sum_nil]
      exact ⟨Nat.add_le_add hfirst.1 (Nat.add_le_add_right hsecond.1 0),
        Nat.add_le_add hfirst.2 (Nat.add_le_add_right hsecond.2 0)⟩

/-- The same texts are asked for as often. -/
theorem calls_of_moreTokens (hmore : MoreTokens env env') (hfirst : env.reply 0 = .ok first) :
    (env'.evaluateWithLlmJudge.after 0).2 = (env.evaluateWithLlmJudge.after 0).2 := by
  obtain ⟨first', hfirst', hraw, -⟩ := hmore.reply hfirst
  obtain ⟨hretried, hlow, hhigh⟩ := calls_evaluate hfirst
  obtain ⟨hretried', hlow', hhigh'⟩ := calls_evaluate hfirst'
  have hparsed : env'.parsed first'.raw = env.parsed first.raw := by
    rw [JudgeEnv.parsed, JudgeEnv.parsed, hmore.parser, hmore.rules, hraw]
  rw [hparsed, ← hretried] at hretried'
  omega

/-- A second call follows a first result that is not parsed. -/
theorem called_twice_iff (hfirst : env.reply 0 = .ok first) :
    (env.evaluateWithLlmJudge.after 0).2 = 2 ↔ ∃ result, env.build first = .ok result ∧
      result.metadataJson.get "judge_parse_ok" = some (.bool false) := by
  obtain ⟨hretried, -, -⟩ := calls_evaluate hfirst
  rw [hretried, ← map_judgeParseOk_build]
  constructor
  · intro hparsed
    cases hbuild : env.build first with
    | error e =>
        rw [hbuild] at hparsed
        cases hparsed
    | ok result =>
        rw [hbuild] at hparsed
        refine ⟨result, rfl, ?_⟩
        rw [get_judgeParseOk hbuild, Except.ok.inj hparsed]
  · rintro ⟨result, hbuild, hmeta⟩
    rw [get_judgeParseOk hbuild, Option.some.injEq, JsonValue.bool.injEq] at hmeta
    rw [hbuild, Except.map, hmeta]

/-- The cost of calls that report more tokens. -/
theorem judgedRunCost_mono (hin : 0 ≤ settings.pricingRatesForActiveProvider.1)
    (hout : 0 ≤ settings.pricingRatesForActiveProvider.2) (hfirst : env.reply 0 = .ok first)
    (hsecond : env.reply 1 = .ok second) {usd : ℚ}
    (h : (settings.judgedRunCost env gen).after 0 = (.ok (some usd), calls))
    {gen' : TokenUsage} {usd' : ℚ} {calls' : ℕ} (hmore : MoreTokens env env') (hle : gen ≤ gen')
    (h' : (settings.judgedRunCost env' gen').after 0 = (.ok (some usd'), calls')) :
    usd ≤ usd' := by
  obtain ⟨first', hfirst', -, hfirstLe⟩ := hmore.reply hfirst
  obtain ⟨second', hsecond', -, hsecondLe⟩ := hmore.reply hsecond
  obtain ⟨hmade, -, hprices, -⟩ := cost_eq_prices hin hout hfirst hsecond h
  obtain ⟨hmade', -, hprices', -⟩ := cost_eq_prices hin hout hfirst' hsecond' h'
  have hsame : calls' = calls := by
    rw [← hmade', ← hmade]
    exact calls_of_moreTokens hmore hfirst
  rw [hsame, Option.getD_some] at hprices'
  rw [Option.getD_some] at hprices
  obtain ⟨hinput, houtput⟩ := judgeUsages_mono hfirstLe hsecondLe calls
  rw [hprices, hprices']
  refine add_le_add (roundTo_mono 6 ?_) (roundTo_mono 6 ?_)
  · refine Settings.decimalUsd_mono hin hout ?_ ?_
    · simpa [inputSum] using hle.1
    · simpa [outputSum] using hle.2
  · exact Settings.decimalUsd_mono hin hout (by exact_mod_cast hinput) (by exact_mod_cast houtput)

/-- **The cost of a judged run.**  The judge is called once more exactly when its first
reply is not parsed; what is stored is unknown exactly when nothing is priced or reported;
and a known cost is that of all calls, up to the rounding of two prices, and grows with
their counts. -/
theorem judged_run_cost (hin : 0 ≤ settings.pricingRatesForActiveProvider.1)
    (hout : 0 ≤ settings.pricingRatesForActiveProvider.2) (hfirst : env.reply 0 = .ok first)
    (hsecond : env.reply 1 = .ok second) :
    ((env.evaluateWithLlmJudge.after 0).2 = 2 ↔ ∃ result, env.build first = .ok result ∧
        result.metadataJson.get "judge_parse_ok" = some (.bool false)) ∧
      (env.evaluateWithLlmJudge.after 0).2 ≤ 2 ∧
      ∀ cost calls, (settings.judgedRunCost env gen).after 0 = (.ok cost, calls) →
        calls = (env.evaluateWithLlmJudge.after 0).2 ∧
        (cost = none ↔ (settings.pricingRatesForActiveProvider.1 = 0 ∧
            settings.pricingRatesForActiveProvider.2 = 0) ∨
          ∀ usage ∈ gen :: judgeUsages first second calls,
            usage.inputTokens = none ∧ usage.outputTokens = none) ∧
        ∀ usd, cost = some usd →
          0 ≤ usd ∧
          |usd - settings.exactCost (gen :: judgeUsages first second calls)| ≤
            1 / 10 ^ 6 + 1 / 10 ^ 18 ∧
          (settings.WithinPrecision (inputSum [gen]) (outputSum [gen]) →
            settings.WithinPrecision (inputSum (judgeUsages first second calls))
              (outputSum (judgeUsages first second calls)) →
            |usd - settings.exactCost (gen :: judgeUsages first second calls)| ≤ 1 / 10 ^ 6) ∧
          ∀ env' gen' usd' calls', MoreTokens env env' → gen ≤ gen' →
            (settings.judgedRunCost env' gen').after 0 = (.ok (some usd'), calls') →
              usd ≤ usd' := by
  obtain ⟨-, -, hcalls⟩ := calls_evaluate hfirst
  refine ⟨called_twice_iff hfirst, hcalls, fun cost calls h => ?_⟩
  obtain ⟨hmade, hnone, hprices, hlt⟩ := cost_eq_prices hin hout hfirst hsecond h
  refine ⟨hmade.symm, hnone, fun usd husd => ?_⟩
  subst husd
  rw [Option.getD_some] at hprices hlt
  refine ⟨?_, ?_, ?_, ?_⟩
  · rw [hprices]
    exact add_nonneg
      (roundTo_nonneg 6 (Settings.decimalUsd_nonneg hin hout (Int.natCast_nonneg _)
        (Int.natCast_nonneg _)))
      (roundTo_nonneg 6 (Settings.decimalUsd_nonneg hin hout (Int.natCast_nonneg _)
        (Int.natCast_nonneg _)))
  · rw [hprices] at hlt
    rw [exactCost_cons, hprices]
    exact abs_prices_sub_le hin hout hlt
  · intro hgenFits hjudgeFits
    have hgen := abs_price_sub_le_of_withinPrecision hin hout hgenFits
    have hjudge := abs_price_sub_le_of_withinPrecision hin hout hjudgeFits
    rw [exactCost_cons, hprices, add_sub_add_comm]
    refine (abs_add_le _ _).trans ?_
    linarith
  · intro env' gen' usd' calls' hmore hle h'
    exact judgedRunCost_mono hin hout hfirst hsecond h hmore hle h'

end

/-! ## Runs at a price of a half and of a trace -/

/-- Rates of 1e-30 and 0.5 per million tokens. -/
def traceRates : Settings where
  llmProvider := none
  openaiApiKey := none
  claudeApiKey := none
  openaiInputUsdPerMillionTokens := 1 / 10 ^ 30
  openaiOutputUsdPerMillionTokens := 1 / 2
  anthropicInputUsdPerMillionTokens := 3
  anthropicOutputUsdPerMillionTokens := 15

/-- A reply with an object, and with this usage. -/
def parsedReply (tokens : ℕ) : JudgeReply where
  raw := "Here: \x7b\"faithfulness\": true\x7d".toList
  usage := ⟨some tokens, some tokens⟩

/-- A judge that gives that reply. -/
def parsedJudge (tokens : ℕ) : JudgeEnv where
  parser := JsonParser.only noFloats [("faithfulness", .bool true)]
  rules := noFloats
  modelId := "gpt-4o"
  llmProvider := "openai"
  reply _ := .ok (parsedReply tokens)

theorem rates_traceRates : traceRates.pricingRatesForActiveProvider = (1 / 10 ^ 30, 1 / 2) := by
  have hprovider : traceRates.usesAnthropic = false := by decide
  rw [Settings.pricingRatesForActiveProvider, hprovider, if_neg Bool.false_ne_true]
  rfl

theorem evaluate_parsedJudge (tokens : ℕ) :
    ∃ ev, (parsedJudge tokens).evaluateWithLlmJudge.after 0 = (.ok ev, 1) ∧
      ev.judgeInputTokens = some (tokens : ℤ) ∧ ev.judgeOutputTokens = some (tokens : ℤ) := by
  have hbuild : ∃ result, (parsedJudge tokens).build (parsedReply tokens) = .ok result ∧
      judgeParseOk result = true := ⟨_, rfl, rfl⟩
  obtain ⟨result, hbuild, hok⟩ := hbuild
  obtain ⟨hinput, houtput⟩ := build_usage hbuild
  have hreply : (parsedJudge tokens).reply 0 = .ok (parsedReply tokens) := rfl
  refine ⟨withRetryMetadata result true false false result.judgeInputTokens
    result.judgeOutputTokens, ?_, hinput, houtput⟩
  rw [evaluate_after, hreply]
  dsimp only
  rw [hbuild]
  exact if_pos hok

theorem traceRates_nonneg : 0 ≤ traceRates.pricingRatesForActiveProvider.1 ∧
    0 ≤ traceRates.pricingRatesForActiveProvider.2 := by
  rw [rates_traceRates]
  norm_num

/-- One token of either kind costs half a quantum and a trace, and the 28 digits have no
place for the trace. -/
theorem decimalUsd_traceRates : traceRates.decimalUsd 1 1 = 1 / 2 / 10 ^ 6 := by
  obtain ⟨hin, hout⟩ := traceRates_nonneg
  have htrace : Settings.decimalPart (1 / 10 ^ 30) 1 = 1 / 10 ^ 36 := by
    have hfits : Decimal.Fits 28 (1 / 10 ^ 30 * (1 : ℤ)) := ⟨1, -30, by norm_num, by norm_num⟩
    rw [Settings.decimalPart, hfits.fix_eq]
    norm_num
  have hhalf : Settings.decimalPart (1 / 2) 1 = 1 / 2 / 10 ^ 6 := by
    have hfits : Decimal.Fits 28 (1 / 2 * (1 : ℤ)) := ⟨5, -1, by norm_num, by norm_num⟩
    rw [Settings.decimalPart, hfits.fix_eq]
    norm_num
  rw [Settings.decimalUsd_eq hin hout, rates_traceRates]
  dsimp only
  rw [htrace, hhalf, Decimal.fix, FloatingPoint.nearest,
    FloatingPoint.unit_eq Decimal.one_lt_ten (k := -7) (by norm_num) (by norm_num),
    Nat.cast_ofNat]
  have hround : roundHalfEven (5 * 10 ^ 27 + 1 / 100) = 5 * 10 ^ 27 := by
    have hfloor : ⌊(5 * 10 ^ 27 + 1 / 100 : ℚ)⌋ = 5 * 10 ^ 27 :=
      Int.floor_eq_iff.mpr (by norm_num)
    have hfloor : (5 * 10 ^ 27 + 1 / 100 : ℚ).floor = 5 * 10 ^ 27 := hfloor
    rw [roundHalfEven, hfloor, if_pos (by norm_num)]
  have hquotient : (1 / 10 ^ 36 + 1 / 2 / 10 ^ 6 : ℚ) / 10 ^ (-7 + 1 - ((28 : ℕ) : ℤ)) =
      5 * 10 ^ 27 + 1 / 100 := by norm_num
  rw [hquotient, hround]
  norm_num

/-- A price of half a quantum or less is stored as zero. -/
theorem estimateUsd_traceRates {tokens : ℕ}
    (h : Decimal.quantize 28 6 (traceRates.decimalUsd tokens tokens) = some 0) :
    traceRates.estimateUsd (some (tokens : ℤ)) (some (tokens : ℤ)) = .ok (some 0) := by
  have hon : ¬ (traceRates.pricingRatesForActiveProvider.1 ≤ 0 ∧
      traceRates.pricingRatesForActiveProvider.2 ≤ 0) := by
    rw [rates_traceRates]
    norm_num
  rw [Settings.estimateUsd, if_neg hon, if_neg (by simp)]
  dsimp only [Option.getD_some]
  rw [h]

theorem judgedRunCost_traceRates (tokens : ℕ)
    (h : Decimal.quantize 28 6 (traceRates.decimalUsd tokens tokens) = some 0) :
    (traceRates.judgedRunCost (parsedJudge tokens) ⟨some tokens, some tokens⟩).after 0 =
      (.ok (some 0), 1) := by
  obtain ⟨ev, hev, hinput, houtput⟩ := evaluate_parsedJudge tokens
  refine judgedRunCost_eq_ok_iff.mpr ⟨some 0, ev, some 0, ?_, hev, ?_, ?_⟩
  · exact estimateUsd_traceRates h
  · rw [hinput, houtput]
    exact estimateUsd_traceRates h
  · have hsum : addedCost (some 0) (some 0) = some 0 := by
      show some (Decimal.fix 28 (0 + 0)) = some 0
      rw [add_zero, Decimal.fix_zero]
    have hstored : Sql.numeric 14 6 0 = some 0 := by
      rw [Sql.numeric]
      norm_num
    unfold storedCost
    simp only [hsum, hstored]

/-- Rates of 2.5 and 10 per million tokens. -/
def usualRates : Settings :=
  { traceRates with
    openaiInputUsdPerMillionTokens := 5 / 2
    openaiOutputUsdPerMillionTokens := 10 }

/-- A reply without an object. -/
def proseReply : JudgeReply where
  raw := "The answer is faithful.".toList
  usage := ⟨some 500, some 10⟩

/-- A judge that gives an object only when it is called again. -/
def retriedJudge : JudgeEnv :=
  { parsedJudge 500 with
    reply := fun made => if made = 0 then .ok proseReply else .ok (parsedReply 500) }

/-- Both calls of the judge are in the cost. -/
theorem judged_run_cost_of_retry :
    (usualRates.judgedRunCost retriedJudge ⟨some 1000, some 200⟩).after 0 =
        (.ok (some (121 / 10 ^ 4)), 2) ∧
      (∃ result, retriedJudge.build proseReply = .ok result ∧
        result.metadataJson.get "judge_parse_ok" = some (.bool false)) ∧
      |121 / 10 ^ 4 - usualRates.exactCost [⟨some 1000, some 200⟩, ⟨some 500, some 10⟩,
        ⟨some 500, some 500⟩]| ≤ 1 / 10 ^ 6 + 1 / 10 ^ 18 := by
  have hrun : (usualRates.judgedRunCost retriedJudge ⟨some 1000, some 200⟩).after 0 =
      (.ok (some (121 / 10 ^ 4)), 2) := by
    have hcost : ((usualRates.judgedRunCost retriedJudge
        ⟨some 1000, some 200⟩).after 0).1.toOption = some (some (121 / 10 ^ 4)) := by
      decide +kernel
    have hcalls : ((usualRates.judgedRunCost retriedJudge
        ⟨some 1000, some 200⟩).after 0).2 = 2 := by decide +kernel
    revert hcost hcalls
    rcases (usualRates.judgedRunCost retriedJudge ⟨some 1000, some 200⟩).after 0 with
      ⟨e | cost, calls⟩
    · intro hcost
      cases hcost
    · rintro hcost rfl
      rw [Option.some.inj hcost]
  have hrates : 0 ≤ usualRates.pricingRatesForActiveProvider.1 ∧
      0 ≤ usualRates.pricingRatesForActiveProvider.2 := by decide +kernel
  obtain ⟨htwice, -, hpriced⟩ := judged_run_cost hrates.1 hrates.2
    (show retriedJudge.reply 0 = .ok proseReply from rfl)
    (show retriedJudge.reply 1 = .ok (parsedReply 500) from rfl)
  obtain ⟨hmade, -, hvalue⟩ := hpriced _ _ hrun
  exact ⟨hrun, htwice.mp hmade.symm, (hvalue _ rfl).2.1⟩

/-- Two prices of half a quantum and a trace are stored as zero, and the traces are on
top of the quantum. -/
theorem cost_error_exceeds_quantum :
    (0 ≤ traceRates.pricingRatesForActiveProvider.1 ∧
        0 ≤ traceRates.pricingRatesForActiveProvider.2) ∧
      (parsedJudge 1).reply 0 = .ok (parsedReply 1) ∧
      (traceRates.judgedRunCost (parsedJudge 1) ⟨some 1, some 1⟩).after 0 = (.ok (some 0), 1) ∧
      1 / 10 ^ 6 < |0 - traceRates.exactCost [⟨some 1, some 1⟩, (parsedReply 1).usage]| := by
  refine ⟨traceRates_nonneg, rfl, judgedRunCost_traceRates 1 ?_, ?_⟩
  · rw [Nat.cast_one, decimalUsd_traceRates]
    have hround : roundHalfEven (1 / 2 / 10 ^ 6 * 10 ^ 6) = 0 := by
      decide +kernel
    rw [Decimal.quantize, roundTo, hround]
    norm_num
  · have hone : traceRates.exactUsd 1 1 = 1 / 2 / 10 ^ 6 + 1 / 10 ^ 36 := by
      rw [Settings.exactUsd, rates_traceRates]
      norm_num
    have husage : (parsedReply 1).usage = ⟨some 1, some 1⟩ := rfl
    have hexact : traceRates.exactCost [⟨some 1, some 1⟩, ⟨some 1, some 1⟩] =
        traceRates.exactUsd 1 1 + (traceRates.exactUsd 1 1 + 0) := rfl
    rw [husage, hexact, hone]
    norm_num

end ContextLens
