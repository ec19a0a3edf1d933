import ContextLens.ConfigComparison
import Mathlib.Data.Prod.Lex
import Mathlib.Data.Set.Finite.Lemmas
import Mathlib.Tactic.NormNum

/-!
# The ranking of the compared scores

What `build_config_score_comparison` says about the configs of a bucket, and what
`compare_pipeline_configs` says about its runs.

* **The ranking is one of scores.**  A dimension of the summary depends on the *set* of
  ids and averages that take part, and the two folds over compound keys are its greatest
  and its least average with the lowest id (`compareDimension_of_isBest`).
* **The averages that are ranked are rounded ones.**  They are built by `metricFloat`, so
  the ranking is that of the image of the exact averages under a monotone map, and
  monotone maps keep the extremes but not which id is the lowest to attain them
  (`IsExtreme.map_iff`).
* **The difference is computed in doubles**: three operations and a rounding, each of which
  keeps the sign and moves the percentage by little (`abs_computedPct_sub_le`).
-/

namespace ContextLens

open Foundations

/-! ## Extremes of a set of scores -/

/-- An id with its score. -/
abbrev Score := ℕ × ℚ

/-- The key that `max` compares. -/
def bestKey (x : Score) : ℚ ×ₗ ℕᵒᵈ := toLex (x.2, OrderDual.toDual x.1)

/-- The key that `min` compares. -/
def worstKey (x : Score) : ℚ ×ₗ ℕ := toLex (x.2, x.1)

/-- The lowest id that attains the last score in an order. -/
structure IsExtreme (le : ℚ → ℚ → Prop) (scores : Set Score) (x : Score) : Prop where
  mem : x ∈ scores
  le : ∀ y ∈ scores, le y.2 x.2
  lowest : ∀ y ∈ scores, y.2 = x.2 → x.1 ≤ y.1

/-- The lowest id that attains the greatest score. -/
abbrev IsBest := IsExtreme (· ≤ ·)

/-- The lowest id that attains the least score. -/
abbrev IsWorst := IsExtreme (· ≥ ·)

section

variable {scores : Set Score} {x y : Score}

theorem bestKey_le_iff : bestKey y ≤ bestKey x ↔ y.2 ≤ x.2 ∧ (y.2 = x.2 → x.1 ≤ y.1) := by
  rw [bestKey, bestKey, Prod.Lex.toLex_le_toLex]
  constructor
  · rintro (hlt | ⟨heq, hle⟩)
    · exact ⟨hlt.le, fun heq => absurd heq hlt.ne⟩
    · exact ⟨heq.le, fun _ => hle⟩
  · rintro ⟨hle, hlowest⟩
    rcases hle.lt_or_eq with hlt | heq
    · exact Or.inl hlt
    · exact Or.inr ⟨heq, hlowest heq⟩

theorem le_worstKey_iff : worstKey x ≤ worstKey y ↔ x.2 ≤ y.2 ∧ (y.2 = x.2 → x.1 ≤ y.1) := by
  rw [worstKey, worstKey, Prod.Lex.toLex_le_toLex]
  constructor
  · rintro (hlt | ⟨heq, hle⟩)
    · exact ⟨hlt.le, fun heq => absurd heq hlt.ne'⟩
    · exact ⟨heq.le, fun _ => hle⟩
  · rintro ⟨hle, hlowest⟩
    rcases hle.lt_or_eq with hlt | heq
    · exact Or.inl hlt
    · exact Or.inr ⟨heq, hlowest heq.symm⟩

/-- The best score is the greatest under the key of `max`. -/
theorem isBest_iff : IsBest scores x ↔ x ∈ scores ∧ ∀ y ∈ scores, bestKey y ≤ bestKey x := by
  constructor
  · intro h
    exact ⟨h.mem, fun y hy => bestKey_le_iff.mpr ⟨h.le y hy, h.lowest y hy⟩⟩
  · rintro ⟨hmem, hle⟩
    exact ⟨hmem, fun y hy => (bestKey_le_iff.mp (hle y hy)).1,
      fun y hy => (bestKey_le_iff.mp (hle y hy)).2⟩

/-- The worst score is the least under the key of `min`. -/
theorem isWorst_iff : IsWorst scores x ↔ x ∈ scores ∧ ∀ y ∈ scores, worstKey x ≤ worstKey y := by
  constructor
  · intro h
    exact ⟨h.mem, fun y hy => le_worstKey_iff.mpr ⟨h.le y hy, h.lowest y hy⟩⟩
  · rintro ⟨hmem, hle⟩
    exact ⟨hmem, fun y hy => (le_worstKey_iff.mp (hle y hy)).1,
      fun y hy => (le_worstKey_iff.mp (hle y hy)).2⟩

theorem IsExtreme.unique {le : ℚ → ℚ → Prop} (hantisymm : ∀ p q, le p q → le q p → p = q)
    (hx : IsExtreme le scores x) (hy : IsExtreme le scores y) : x = y := by
  have hvalue : x.2 = y.2 := hantisymm _ _ (hy.le x hx.mem) (hx.le y hy.mem)
  exact Prod.ext (le_antisymm (hx.lowest y hy.mem hvalue.symm) (hy.lowest x hx.mem hvalue)) hvalue

theorem IsBest.unique (hx : IsBest scores x) (hy : IsBest scores y) : x = y :=
  IsExtreme.unique (fun _ _ => le_antisymm) hx hy

theorem IsWorst.unique (hx : IsWorst scores x) (hy : IsWorst scores y) : x = y :=
  IsExtreme.unique (fun _ _ hle hge => le_antisymm hge hle) hx hy

theorem exists_isBest_of_finite (hfinite : scores.Finite) (h : scores.Nonempty) :
    ∃ best, IsBest scores best := by
  obtain ⟨best, hmem, hle⟩ := Set.exists_max_image scores bestKey hfinite h
  exact ⟨best, isBest_iff.mpr ⟨hmem, hle⟩⟩

theorem exists_isWorst_of_finite (hfinite : scores.Finite) (h : scores.Nonempty) :
    ∃ worst, IsWorst scores worst := by
  obtain ⟨worst, hmem, hle⟩ := Set.exists_min_image scores worstKey hfinite h
  exact ⟨worst, isWorst_iff.mpr ⟨hmem, hle⟩⟩

/-! ## Monotone maps of the scores -/

/-- The scores with their values mapped. -/
def mapScores (f : ℚ → ℚ) (scores : Set Score) : Set Score :=
  (fun x => (x.1, f x.2)) '' scores

/-- The value of an extreme is always the image of the extreme one. -/
theorem IsExtreme.snd_of_map {le : ℚ → ℚ → Prop} (hantisymm : ∀ p q, le p q → le q p → p = q)
    {f : ℚ → ℚ} (hf : ∀ p q, le p q → le (f p) (f q)) (hx : IsExtreme le scores x)
    (hy : IsExtreme le (mapScores f scores) y) : y.2 = f x.2 := by
  obtain ⟨z, hz, rfl⟩ := hy.mem
  exact hantisymm _ _ (hf _ _ (hx.le z hz)) (hy.le (x.1, f x.2) (Set.mem_image_of_mem _ hx.mem))

/-- **A monotone map keeps the id of an extreme** just when no lower id is mapped to the
same value. -/
theorem IsExtreme.map_iff {le : ℚ → ℚ → Prop} {f : ℚ → ℚ} (hf : ∀ p q, le p q → le (f p) (f q))
    (hx : IsExtreme le scores x) :
    IsExtreme le (mapScores f scores) (x.1, f x.2) ↔
      ∀ y ∈ scores, f y.2 = f x.2 → x.1 ≤ y.1 := by
  constructor
  · intro h y hy hsame
    exact h.lowest (y.1, f y.2) (Set.mem_image_of_mem _ hy) hsame
  · intro h
    refine ⟨Set.mem_image_of_mem _ hx.mem, ?_, ?_⟩
    · rintro _ ⟨y, hy, rfl⟩
      exact hf _ _ (hx.le y hy)
    · rintro _ ⟨y, hy, rfl⟩ hsame
      exact h y hy hsame

end

/-! ## The scores that take part -/

/-- The scores of a dimension: the configs with a traced run and an average. -/
def rankedScores (metrics : List ConfigComparisonMetrics)
    (getVal : ConfigComparisonMetrics → Option ℚ) : Set Score :=
  {x | ∃ m ∈ metrics, 0 < m.tracedRuns ∧ getVal m = some x.2 ∧ m.pipelineConfigId = x.1}

section

variable {metrics metrics' : List ConfigComparisonMetrics}
variable {getVal : ConfigComparisonMetrics → Option ℚ} {best worst : Score}

/-- The score of a config that takes part. -/
def RankedConfig.score (a : RankedConfig) : Score := (a.1.pipelineConfigId, a.2)

theorem mem_rankedScores {x : Score} :
    x ∈ rankedScores metrics getVal ↔
      ∃ a ∈ eligibleConfigs metrics getVal, RankedConfig.score a = x := by
  constructor
  · rintro ⟨m, hm, htraced, hvalue, hid⟩
    refine ⟨(m, x.2), List.mem_filterMap.mpr ⟨m, hm, ?_⟩, Prod.ext hid rfl⟩
    rw [if_neg htraced.ne', hvalue, Option.map_some]
  · rintro ⟨a, ha, rfl⟩
    obtain ⟨m, hm, hsome⟩ := List.mem_filterMap.mp ha
    by_cases htraced : m.tracedRuns = 0
    · rw [if_pos htraced] at hsome
      cases hsome
    · rw [if_neg htraced, Option.map_eq_some_iff] at hsome
      obtain ⟨value, hvalue, rfl⟩ := hsome
      exact ⟨m, hm, Nat.pos_of_ne_zero htraced, hvalue, rfl⟩

theorem rankedScores_eq_empty_iff :
    rankedScores metrics getVal = ∅ ↔ eligibleConfigs metrics getVal = [] := by
  rw [Set.eq_empty_iff_forall_notMem, List.eq_nil_iff_forall_not_mem]
  constructor
  · intro h a ha
    exact h _ (mem_rankedScores.mpr ⟨a, ha, rfl⟩)
  · intro h x hx
    obtain ⟨a, ha, -⟩ := mem_rankedScores.mp hx
    exact h a ha

theorem bestBefore_eq :
    bestBefore =
      fun a b => decide (bestKey (RankedConfig.score a) < bestKey (RankedConfig.score b)) := by
  funext a b
  rw [bestBefore, decide_eq_decide, bestKey, bestKey, Prod.Lex.toLex_lt_toLex]
  rfl

theorem worstBefore_eq :
    worstBefore =
      fun a b => decide (worstKey (RankedConfig.score a) < worstKey (RankedConfig.score b)) := by
  funext a b
  rw [worstBefore, decide_eq_decide, worstKey, worstKey, Prod.Lex.toLex_lt_toLex]
  rfl

/-- **What the two folds find**: the extremes of the scores that take part. -/
theorem rankAvgDimension_eq_some {a b : RankedConfig}
    (h : rankAvgDimension metrics getVal = some (a, b)) :
    IsBest (rankedScores metrics getVal) (RankedConfig.score a) ∧
      IsWorst (rankedScores metrics getVal) (RankedConfig.score b) := by
  rw [rankAvgDimension, bestBefore_eq, worstBefore_eq] at h
  rw [Python.maxBy_eq_argmax fun a => bestKey (RankedConfig.score a),
    Python.minBy_eq_argmin fun a => worstKey (RankedConfig.score a)] at h
  split at h
  · rename_i best worst hbest hworst
    cases h
    constructor
    · refine isBest_iff.mpr ⟨mem_rankedScores.mpr ⟨_, List.argmax_mem hbest, rfl⟩, ?_⟩
      intro y hy
      obtain ⟨c, hc, rfl⟩ := mem_rankedScores.mp hy
      exact List.le_of_mem_argmax (f := fun a => bestKey (RankedConfig.score a)) hc hbest
    · refine isWorst_iff.mpr ⟨mem_rankedScores.mpr ⟨_, List.argmin_mem hworst, rfl⟩, ?_⟩
      intro y hy
      obtain ⟨c, hc, rfl⟩ := mem_rankedScores.mp hy
      exact List.le_of_mem_argmin (f := fun a => worstKey (RankedConfig.score a)) hc hworst
  · cases h

theorem rankAvgDimension_eq_none_iff :
    rankAvgDimension metrics getVal = none ↔ rankedScores metrics getVal = ∅ := by
  rw [rankedScores_eq_empty_iff, rankAvgDimension]
  constructor
  · intro h
    split at h
    · cases h
    · rename_i hnone
      by_contra hne
      obtain ⟨best, hbest⟩ := Option.ne_none_iff_exists'.mp
        (mt (@Python.maxBy_eq_none_iff _ _ bestBefore).mp hne)
      obtain ⟨worst, hworst⟩ := Option.ne_none_iff_exists'.mp
        (mt (@Python.maxBy_eq_none_iff _ _ fun a b => worstBefore b a).mp hne)
      exact hnone best worst hbest hworst
  · intro h
    rw [h]
    rfl

/-- **A dimension of the summary** says the extremes of the scores that take part. -/
theorem compareDimension_of_isBest (hbest : IsBest (rankedScores metrics getVal) best)
    (hworst : IsWorst (rankedScores metrics getVal) worst) :
    compareDimension metrics getVal =
      (some best.1, some worst.1, (deltaPct best.2 worst.2).map roundMetricFloat) := by
  cases hrank : rankAvgDimension metrics getVal with
  | none =>
      have hmem := hbest.mem
      rw [rankAvgDimension_eq_none_iff.mp hrank] at hmem
      cases hmem
  | some extremes =>
      obtain ⟨hfound, hfound'⟩ := rankAvgDimension_eq_some hrank
      rw [compareDimension, hrank, hbest.unique hfound, hworst.unique hfound']
      rfl

theorem compareDimension_of_empty (h : rankedScores metrics getVal = ∅) :
    compareDimension metrics getVal = (none, none, none) := by
  rw [compareDimension, rankAvgDimension_eq_none_iff.mpr h]

theorem exists_isBest (h : (rankedScores metrics getVal).Nonempty) :
    ∃ best worst, IsBest (rankedScores metrics getVal) best ∧
      IsWorst (rankedScores metrics getVal) worst := by
  obtain ⟨⟨a, b⟩, hrank⟩ := Option.ne_none_iff_exists'.mp
    (mt rankAvgDimension_eq_none_iff.mp h.ne_empty)
  exact ⟨_, _, rankAvgDimension_eq_some hrank⟩

/-- A dimension depends only on the scores that take part. -/
theorem compareDimension_congr
    (h : rankedScores metrics getVal = rankedScores metrics' getVal) :
    compareDimension metrics getVal = compareDimension metrics' getVal := by
  rcases Set.eq_empty_or_nonempty (rankedScores metrics getVal) with hempty | hnonempty
  · rw [compareDimension_of_empty hempty, compareDimension_of_empty (h.symm.trans hempty)]
  · obtain ⟨best, worst, hbest, hworst⟩ := exists_isBest hnonempty
    rw [compareDimension_of_isBest hbest hworst,
      compareDimension_of_isBest (h ▸ hbest) (h ▸ hworst)]

end

/-! ## The difference in percent -/

section

variable {best worst : ℚ}

/-- The documented percentage: the difference relative to the worst. -/
def relativeDifference (best worst : ℚ) : ℚ := 100 * (best - worst) / worst

/-- The percentage as it is computed. -/
def computedPct (best worst : ℚ) : ℚ :=
  Binary64.div (Binary64.mul 100 (Binary64.sub best worst)) worst

theorem sub_nonneg_of_le (hle : worst ≤ best) : 0 ≤ Binary64.sub best worst :=
  Binary64.nearest_nonneg (sub_nonneg.mpr hle)

theorem deltaPct_of_close (hle : worst ≤ best) (h : Binary64.sub best worst < scoreEps) :
    deltaPct best worst = some 0 := by
  rw [deltaPct, abs_of_nonneg (sub_nonneg_of_le hle), if_pos h]

theorem deltaPct_of_apart (hle : worst ≤ best) (h : scoreEps ≤ Binary64.sub best worst)
    (hworst : scoreEps < worst) : deltaPct best worst = some (computedPct best worst) := by
  rw [deltaPct, abs_of_nonneg (sub_nonneg_of_le hle), if_neg (not_lt.mpr h), if_pos hworst,
    computedPct]

theorem deltaPct_eq_none_iff (hle : worst ≤ best) :
    deltaPct best worst = none ↔ scoreEps ≤ Binary64.sub best worst ∧ worst ≤ scoreEps := by
  rw [deltaPct, abs_of_nonneg (sub_nonneg_of_le hle)]
  split_ifs with hclose hworst
  · simp [hclose]
  · simp [hworst]
  · simp [not_lt.mp hclose, not_lt.mp hworst]

theorem scoreEps_nonneg : 0 ≤ scoreEps := Binary64.nearest_nonneg (by norm_num)

theorem scoreEps_le : scoreEps ≤ 2 / 10 ^ 9 :=
  (Binary64.nearest_le (by norm_num)).trans (by norm_num)

theorem relativeDifference_nonneg (hle : worst ≤ best) (hworst : 0 ≤ worst) :
    0 ≤ relativeDifference best worst :=
  div_nonneg (mul_nonneg (by norm_num) (sub_nonneg.mpr hle)) hworst

theorem computedPct_nonneg (hle : worst ≤ best) (hworst : 0 ≤ worst) :
    0 ≤ computedPct best worst :=
  Binary64.nearest_nonneg (div_nonneg (Binary64.nearest_nonneg
    (mul_nonneg (by norm_num) (sub_nonneg_of_le hle))) hworst)

/-- **The computed percentage** is the documented one up to three roundings. -/
theorem abs_computedPct_sub_le (hle : worst ≤ best) (hworst : 0 < worst) :
    |computedPct best worst - relativeDifference best worst| ≤
      relativeDifference best worst / 2 ^ 51 := by
  have hdiff : 0 ≤ best - worst := sub_nonneg.mpr hle
  have hsub := Binary64.nearest_nonneg hdiff
  have hmul : 0 ≤ 100 * Binary64.nearest (best - worst) := mul_nonneg (by norm_num) hsub
  have hdiv : 0 ≤ Binary64.nearest (100 * Binary64.nearest (best - worst)) / worst :=
    div_nonneg (Binary64.nearest_nonneg hmul) hworst.le
  have hrelative := relativeDifference_nonneg hle hworst.le
  -- Each operation is off by a factor next to one, above and below.
  have hupper : computedPct best worst ≤
      relativeDifference best worst * (1 + 1 / 2 ^ 53) ^ 3 := by
    calc computedPct best worst
        ≤ Binary64.nearest (100 * Binary64.nearest (best - worst)) / worst * (1 + 1 / 2 ^ 53) :=
          Binary64.nearest_le hdiv
      _ ≤ 100 * ((best - worst) * (1 + 1 / 2 ^ 53)) * (1 + 1 / 2 ^ 53) / worst *
            (1 + 1 / 2 ^ 53) := by
          refine mul_le_mul_of_nonneg_right ?_ (by norm_num)
          refine div_le_div_of_nonneg_right ((Binary64.nearest_le hmul).trans ?_) hworst.le
          refine mul_le_mul_of_nonneg_right ?_ (by norm_num)
          exact mul_le_mul_of_nonneg_left (Binary64.nearest_le hdiff) (by norm_num)
      _ = relativeDifference best worst * (1 + 1 / 2 ^ 53) ^ 3 := by
          rw [relativeDifference]
          ring
  have hlower : relativeDifference best worst * (1 - 1 / 2 ^ 53) ^ 3 ≤
      computedPct best worst := by
    calc relativeDifference best worst * (1 - 1 / 2 ^ 53) ^ 3
        = 100 * ((best - worst) * (1 - 1 / 2 ^ 53)) * (1 - 1 / 2 ^ 53) / worst *
            (1 - 1 / 2 ^ 53) := by
          rw [relativeDifference]
          ring
      _ ≤ Binary64.nearest (100 * Binary64.nearest (best - worst)) / worst *
            (1 - 1 / 2 ^ 53) := by
          refine mul_le_mul_of_nonneg_right ?_ (by norm_num)
          refine div_le_div_of_nonneg_right (le_trans ?_ (Binary64.le_nearest hmul)) hworst.le
          refine mul_le_mul_of_nonneg_right ?_ (by norm_num)
          exact mul_le_mul_of_nonneg_left (Binary64.le_nearest hdiff) (by norm_num)
      _ ≤ computedPct best worst := Binary64.le_nearest hdiv
  have hfactors : (1 + 1 / 2 ^ 53 : ℚ) ^ 3 ≤ 1 + 1 / 2 ^ 51 ∧
      1 - 1 / 2 ^ 51 ≤ (1 - 1 / 2 ^ 53 : ℚ) ^ 3 := by
    norm_num
  have hhigh := mul_le_mul_of_nonneg_left hfactors.1 hrelative
  have hlow := mul_le_mul_of_nonneg_left hfactors.2 hrelative
  rw [abs_le]
  constructor <;> linarith

/-- What is reported is the documented percentage up to half a unit of the third decimal,
and the roundings. -/
theorem abs_roundMetricFloat_computedPct_sub_le (hle : worst ≤ best) (hworst : 0 < worst) :
    |roundMetricFloat (computedPct best worst) - relativeDifference best worst| ≤
      1 / 2000 + (relativeDifference best worst + 1) / 2 ^ 50 := by
  have hcomputed := abs_computedPct_sub_le hle hworst
  have hround := Binary64.abs_roundDigits_sub_le 3 (computedPct best worst)
  have hrelative := relativeDifference_nonneg hle hworst.le
  rw [abs_of_nonneg (computedPct_nonneg hle hworst.le)] at hround
  have hsize := (abs_le.mp hcomputed).2
  calc |roundMetricFloat (computedPct best worst) - relativeDifference best worst|
      = |(roundMetricFloat (computedPct best worst) - computedPct best worst) +
          (computedPct best worst - relativeDifference best worst)| := by
        rw [sub_add_sub_cancel]
    _ ≤ |roundMetricFloat (computedPct best worst) - computedPct best worst| +
          |computedPct best worst - relativeDifference best worst| := abs_add_le _ _
    _ ≤ 1 / 2 / 10 ^ 3 + (computedPct best worst + 1 / 2 / 10 ^ 3) / 2 ^ 53 +
          relativeDifference best worst / 2 ^ 51 := add_le_add hround hcomputed
    _ ≤ 1 / 2000 + (relativeDifference best worst + 1) / 2 ^ 50 := by
        linarith

/-- The exact percentage of `0.321` and `0.32` is half-way between two decimals; the
computed one lies above it. -/
example : roundMetricFloat
    (computedPct (Binary64.nearest (321 / 1000)) (Binary64.nearest (8 / 25))) =
      Binary64.nearest (313 / 1000) := by
  decide +kernel

theorem deltaPct_nonneg (hle : worst ≤ best) {pct : ℚ} (h : deltaPct best worst = some pct) :
    0 ≤ pct := by
  rcases lt_or_ge (Binary64.sub best worst) scoreEps with hclose | hapart
  · rw [deltaPct_of_close hle hclose] at h
    exact (Option.some.inj h).le
  · rcases lt_or_ge scoreEps worst with hworst | hworst
    · rw [deltaPct_of_apart hle hapart hworst] at h
      rw [← Option.some.inj h]
      exact computedPct_nonneg hle (scoreEps_nonneg.trans hworst.le)
    · rw [(deltaPct_eq_none_iff hle).mpr ⟨hapart, hworst⟩] at h
      cases h

end

/-! ## The summary -/

/-- The dimensions of a score comparison. -/
inductive ScoreDimension
  | faithfulness
  | completeness
  deriving DecidableEq, Repr

namespace ScoreDimension

/-- The average that is ranked. -/
def average : ScoreDimension → ConfigComparisonMetrics → Option ℚ
  | faithfulness => ConfigComparisonMetrics.avgFaithfulness
  | completeness => ConfigComparisonMetrics.avgCompleteness

/-- The column that is averaged. -/
def column : ScoreDimension → EvaluationResult → Option ℚ
  | faithfulness => EvaluationResult.faithfulness
  | completeness => EvaluationResult.completeness

/-- Best id, worst id and difference of the dimension. -/
def summary : ScoreDimension → ConfigScoreComparisonSummary → Option ℕ × Option ℕ × Option ℚ
  | faithfulness, s => (s.bestConfigFaithfulness, s.worstConfigFaithfulness, s.faithfulnessDeltaPct)
  | completeness, s => (s.bestConfigCompleteness, s.worstConfigCompleteness, s.completenessDeltaPct)

end ScoreDimension

section

variable {metrics metrics' : List ConfigComparisonMetrics} {includeFaithfulness : Bool}
variable {dim : ScoreDimension}

/-- A dimension that is included is compared. -/
theorem summary_buildConfigScoreComparison
    (hincluded : dim = .faithfulness → includeFaithfulness = true) :
    dim.summary (buildConfigScoreComparison metrics includeFaithfulness) =
      compareDimension metrics dim.average := by
  cases dim with
  | faithfulness =>
      rw [hincluded rfl]
      rfl
  | completeness => rfl

/-- The order of the configs does not matter. -/
theorem buildConfigScoreComparison_perm (h : metrics'.Perm metrics) :
    buildConfigScoreComparison metrics' includeFaithfulness =
      buildConfigScoreComparison metrics includeFaithfulness := by
  have hscores : ∀ getVal, rankedScores metrics' getVal = rankedScores metrics getVal := by
    intro getVal
    ext x
    simp only [rankedScores, Set.mem_ofPred_eq, h.mem_iff]
  rw [buildConfigScoreComparison, buildConfigScoreComparison,
    compareDimension_congr (hscores ConfigComparisonMetrics.avgFaithfulness),
    compareDimension_congr (hscores ConfigComparisonMetrics.avgCompleteness)]

/-- **The score summary is order-independent and extremal**, and its difference has three
regimes. -/
theorem score_summary_extremal (metrics : List ConfigComparisonMetrics)
    (includeFaithfulness : Bool) :
    (∀ metrics', metrics'.Perm metrics →
      buildConfigScoreComparison metrics' includeFaithfulness =
        buildConfigScoreComparison metrics includeFaithfulness) ∧
    ∀ dim : ScoreDimension, (dim = .faithfulness → includeFaithfulness = true) →
      (rankedScores metrics dim.average = ∅ ∧
        dim.summary (buildConfigScoreComparison metrics includeFaithfulness) =
          (none, none, none)) ∨
      ∃ best worst delta,
        dim.summary (buildConfigScoreComparison metrics includeFaithfulness) =
          (some best.1, some worst.1, delta) ∧
        IsBest (rankedScores metrics dim.average) best ∧
        IsWorst (rankedScores metrics dim.average) worst ∧
        |Binary64.sub best.2 worst.2 - (best.2 - worst.2)| ≤ (best.2 - worst.2) / 2 ^ 53 ∧
        (delta = none ↔ scoreEps ≤ Binary64.sub best.2 worst.2 ∧ worst.2 ≤ scoreEps) ∧
        (Binary64.sub best.2 worst.2 < scoreEps → delta = some 0) ∧
        (scoreEps ≤ Binary64.sub best.2 worst.2 → scoreEps < worst.2 →
          delta = some (roundMetricFloat (computedPct best.2 worst.2)) ∧
          |roundMetricFloat (computedPct best.2 worst.2) - relativeDifference best.2 worst.2| ≤
            1 / 2000 + (relativeDifference best.2 worst.2 + 1) / 2 ^ 50) ∧
        ∀ pct, delta = some pct → 0 ≤ pct := by
  refine ⟨fun _ => buildConfigScoreComparison_perm, fun dim hincluded => ?_⟩
  rw [summary_buildConfigScoreComparison hincluded]
  rcases Set.eq_empty_or_nonempty (rankedScores metrics dim.average) with hempty | hnonempty
  · exact Or.inl ⟨hempty, compareDimension_of_empty hempty⟩
  · obtain ⟨best, worst, hbest, hworst⟩ := exists_isBest hnonempty
    have hle : worst.2 ≤ best.2 := hbest.le worst hworst.mem
    refine Or.inr ⟨best, worst, _, compareDimension_of_isBest hbest hworst, hbest, hworst, ?_, ?_,
      ?_, ?_, ?_⟩
    · have hnear := Binary64.abs_nearest_sub_le (best.2 - worst.2)
      rwa [abs_of_nonneg (sub_nonneg.mpr hle)] at hnear
    · rw [Option.map_eq_none_iff]
      exact deltaPct_eq_none_iff hle
    · intro hclose
      rw [deltaPct_of_close hle hclose, Option.map_some, roundMetricFloat,
        Binary64.roundDigits_zero]
    · intro hapart hpos
      rw [deltaPct_of_apart hle hapart hpos, Option.map_some]
      exact ⟨rfl, abs_roundMetricFloat_computedPct_sub_le hle (scoreEps_nonneg.trans_lt hpos)⟩
    · intro pct hpct
      obtain ⟨unrounded, hunrounded, rfl⟩ := Option.map_eq_some_iff.mp hpct
      exact Binary64.roundDigits_nonneg 3 (deltaPct_nonneg hle hunrounded)

end

/-! ### Two configs -/

/-- A config with one traced run and a completeness. -/
def scoredConfig (pid : ℕ) (completeness : ℚ) : ConfigComparisonMetrics where
  pipelineConfigId := pid
  tracedRuns := 1
  uniqueQueryCount := 1
  avgCompleteness := some completeness

theorem score_summary_extremal_swapped :
    buildConfigScoreComparison [scoredConfig 2 (1 / 2), scoredConfig 1 (1 / 2)] false =
      buildConfigScoreComparison [scoredConfig 1 (1 / 2), scoredConfig 2 (1 / 2)] false :=
  (score_summary_extremal [scoredConfig 1 (1 / 2), scoredConfig 2 (1 / 2)] false).1 _
    (List.Perm.swap _ _ _)

/-- Two averages that are a quarter apart, both next to nothing: the summary says that
they do not differ. -/
theorem close_scores_report_no_difference :
    let metrics := [scoredConfig 1 (1 / 2 ^ 28), scoredConfig 2 (5 / 2 ^ 30)]
    (metrics.map ConfigComparisonMetrics.pipelineConfigId).Nodup ∧
      scoreEps < 1 / 2 ^ 28 ∧
      ScoreDimension.completeness.summary (buildConfigScoreComparison metrics true) =
        (some 2, some 1, some 0) ∧
      relativeDifference (5 / 2 ^ 30) (1 / 2 ^ 28) = 25 := by
  refine ⟨by decide, ?_, ?_, ?_⟩
  · decide +kernel
  · decide +kernel
  · norm_num [relativeDifference]

/-! ## The averages behind the summary -/

namespace Database

variable (db : Database)

/-- The runs that a comparison reads. -/
def comparisonBase (request : ComparisonRequest) : List StoredRun :=
  db.runBase request.pipelineConfigIds.eraseDups request.datasetId
    (resolveIncludeBenchmarkRealism request.datasetId request.includeBenchmarkRealism)

/-- The averages of the compared configs before they are rounded. -/
def exactScores (request : ComparisonRequest) (bucket : EvaluatorType) (dim : ScoreDimension) :
    Set Score :=
  {x | x.1 ∈ request.pipelineConfigIds.eraseDups ∧
    avgEvaluation bucket (Sql.group StoredRun.pipelineConfigId (db.comparisonBase request) x.1)
      dim.column = some x.2}

end Database

/-- The ids and the difference of a summary are those of some scores: the ids are of the
extremes, and two different configs without a difference are equal up to `1e-9` or to a
percentage that rounds to zero. -/
structure SaysExtremes (scores : Set Score) (summary : Option ℕ × Option ℕ × Option ℚ) : Prop where
  best : ∀ id, summary.1 = some id ↔ ∃ x, IsBest scores x ∧ x.1 = id
  worst : ∀ id, summary.2.1 = some id ↔ ∃ x, IsWorst scores x ∧ x.1 = id
  equal : ∀ best worst, summary = (some best, some worst, some 0) → best ≠ worst →
    ∃ x ∈ scores, ∃ y ∈ scores, x.1 = best ∧ y.1 = worst ∧
      (|x.2 - y.2| < 1 / 10 ^ 9 ∨
        0 < y.2 ∧ Python.roundTo 3 (relativeDifference x.2 y.2) = 0)

/-- Of no scores there is nothing to say. -/
theorem saysExtremes_empty : SaysExtremes ∅ (none, none, none) where
  best := by
    refine fun id => iff_of_false (fun h => by cases h) ?_
    rintro ⟨x, hx, -⟩
    exact Set.notMem_empty x hx.mem
  worst := by
    refine fun id => iff_of_false (fun h => by cases h) ?_
    rintro ⟨x, hx, -⟩
    exact Set.notMem_empty x hx.mem
  equal _ _ h := by cases h

/-- Two different roundings to three decimals are a thousandth apart. -/
theorem thousandth_le_sub {p q : ℚ} (h : Python.roundTo 3 p < Python.roundTo 3 q) :
    1 / 10 ^ 3 ≤ Python.roundTo 3 q - Python.roundTo 3 p := by
  rw [Python.roundTo, Python.roundTo, div_lt_div_iff_of_pos_right (by norm_num),
    Int.cast_lt] at h
  rw [Python.roundTo, Python.roundTo, ← sub_div, div_le_div_iff_of_pos_right (by norm_num)]
  have hint : (1 : ℤ) ≤ Python.roundHalfEven (q * 10 ^ 3) - Python.roundHalfEven (p * 10 ^ 3) := by
    omega
  exact_mod_cast hint

section

variable [Sql.DoubleAggregates]

/-- **Rounding keeps what a ranking says.**  No lower id is rounded to the value of the
greatest score or of the least; and extremes that are rounded to different values without
a difference in percent are themselves that close. -/
structure RoundingKeeps (scores : Set Score) : Prop where
  best : ∀ x, IsBest scores x → ∀ y ∈ scores,
    Database.metricValue y.2 = Database.metricValue x.2 → x.1 ≤ y.1
  worst : ∀ x, IsWorst scores x → ∀ y ∈ scores,
    Database.metricValue y.2 = Database.metricValue x.2 → x.1 ≤ y.1
  equal : ∀ x y, IsBest scores x → IsWorst scores y →
    Database.metricValue y.2 < Database.metricValue x.2 →
    (deltaPct (Database.metricValue x.2) (Database.metricValue y.2)).map roundMetricFloat =
      some 0 →
    |x.2 - y.2| < 1 / 10 ^ 9 ∨ 0 < y.2 ∧ Python.roundTo 3 (relativeDifference x.2 y.2) = 0

variable {scores : Set Score} {best worst : Score}

theorem metricValue_mono {p q : ℚ} (h : p ≤ q) :
    Database.metricValue p ≤ Database.metricValue q :=
  Binary64.roundDigits_mono 3 (Sql.DoubleAggregates.toDouble_mono p q h)

theorem IsBest.map_metricValue_iff (h : IsBest scores best) :
    IsBest (mapScores Database.metricValue scores) (best.1, Database.metricValue best.2) ↔
      ∀ y ∈ scores, Database.metricValue y.2 = Database.metricValue best.2 → best.1 ≤ y.1 :=
  IsExtreme.map_iff (fun _ _ => metricValue_mono) h

theorem IsWorst.map_metricValue_iff (h : IsWorst scores worst) :
    IsWorst (mapScores Database.metricValue scores) (worst.1, Database.metricValue worst.2) ↔
      ∀ y ∈ scores, Database.metricValue y.2 = Database.metricValue worst.2 → worst.1 ≤ y.1 :=
  IsExtreme.map_iff (fun _ _ => metricValue_mono) h

theorem IsBest.eq_of_map_metricValue (h : IsBest scores best) {rounded : Score}
    (hrounded : IsBest (mapScores Database.metricValue scores) rounded)
    (hid : rounded.1 = best.1) : rounded = (best.1, Database.metricValue best.2) :=
  Prod.ext hid (IsExtreme.snd_of_map (fun _ _ => le_antisymm)
    (fun _ _ => metricValue_mono) h hrounded)

theorem IsWorst.eq_of_map_metricValue (h : IsWorst scores worst) {rounded : Score}
    (hrounded : IsWorst (mapScores Database.metricValue scores) rounded)
    (hid : rounded.1 = worst.1) : rounded = (worst.1, Database.metricValue worst.2) :=
  Prod.ext hid (IsExtreme.snd_of_map (fun _ _ hle hge => le_antisymm hge hle)
    (fun _ _ => metricValue_mono) h hrounded)

/-- A score between zero and one is reported between zero and one. -/
theorem metricValue_bounds {p : ℚ} (hp : 0 ≤ p) (hone : p ≤ 1) :
    0 ≤ Python.roundTo 3 (Sql.DoubleAggregates.toDouble p) ∧
      Python.roundTo 3 (Sql.DoubleAggregates.toDouble p) ≤ 1 := by
  refine ⟨Python.roundTo_nonneg 3 (Sql.DoubleAggregates.toDouble_nonneg hp), ?_⟩
  have hnear := (abs_le.mp (Sql.DoubleAggregates.abs_toDouble_sub_le p hp)).2
  have hle : Sql.DoubleAggregates.toDouble p ≤ 1 + 1 / 10 ^ 9 := by linarith
  have heq : Python.roundTo 3 (1 + 1 / 10 ^ 9) = 1 := by decide +kernel
  exact heq ▸ Python.roundTo_mono 3 hle

/-- Scores between zero and one that are reported differently differ by more than zero
percent. -/
theorem deltaPct_ne_zero_of_le_one {p q : ℚ} (hp : 0 ≤ p) (hle : p ≤ q) (hone : q ≤ 1)
    (hlt : Database.metricValue p < Database.metricValue q) :
    (deltaPct (Database.metricValue q) (Database.metricValue p)).map roundMetricFloat ≠
      some 0 := by
  obtain ⟨hlow, -⟩ := metricValue_bounds hp (hle.trans hone)
  obtain ⟨hlow', hhigh'⟩ := metricValue_bounds (hp.trans hle) hone
  have hworst : 0 ≤ Database.metricValue p := Binary64.nearest_nonneg hlow
  -- The roundings to doubles are far smaller than the thousandth between the decimals.
  have hapart : 1 / 2000 ≤ Database.metricValue q - Database.metricValue p := by
    have hdecimals : Python.roundTo 3 (Sql.DoubleAggregates.toDouble p) <
        Python.roundTo 3 (Sql.DoubleAggregates.toDouble q) := by
      by_contra hge
      exact absurd hlt (not_lt.mpr (Binary64.nearest_mono (not_lt.mp hge)))
    have hthousandth := thousandth_le_sub hdecimals
    have hfirst := Binary64.le_nearest hlow'
    have hsecond := Binary64.nearest_le hlow
    rw [Database.metricValue, Database.metricValue, roundMetricFloat, roundMetricFloat,
      Binary64.roundDigits, Binary64.roundDigits]
    linarith
  have hsub : 1 / 4000 ≤ Binary64.sub (Database.metricValue q) (Database.metricValue p) := by
    have hhalf := Binary64.half_le_nearest (sub_nonneg.mpr hlt.le)
    rw [Binary64.sub]
    linarith
  have heps : scoreEps ≤ Binary64.sub (Database.metricValue q) (Database.metricValue p) :=
    (scoreEps_le.trans (by norm_num)).trans hsub
  rcases lt_or_ge scoreEps (Database.metricValue p) with hpos | hnone
  · have hpositive := scoreEps_nonneg.trans_lt hpos
    have hbest : Database.metricValue q ≤ 1 := by
      have hone : Binary64.nearest 1 = 1 := by decide +kernel
      exact hone ▸ Binary64.nearest_mono hhigh'
    have hmul : 1 / 80 ≤ Binary64.mul 100 (Binary64.sub (Database.metricValue q)
        (Database.metricValue p)) := by
      have hhalf := Binary64.half_le_nearest (x := 100 * Binary64.sub (Database.metricValue q)
        (Database.metricValue p)) (by linarith)
      rw [Binary64.mul]
      linarith
    have hpct : 1 / 160 ≤ computedPct (Database.metricValue q) (Database.metricValue p) := by
      have hquotient : 1 / 80 ≤ Binary64.mul 100 (Binary64.sub (Database.metricValue q)
          (Database.metricValue p)) / Database.metricValue p := by
        rw [le_div_iff₀ hpositive]
        linarith
      have hhalf := Binary64.half_le_nearest (le_trans (by norm_num) hquotient)
      rw [computedPct, Binary64.div]
      linarith
    rw [deltaPct_of_apart hlt.le heps hpos, Option.map_some, ne_eq, Option.some.injEq,
      roundMetricFloat, Binary64.roundDigits_eq_zero_iff 3 (le_trans (by norm_num) hpct)]
    norm_num
    linarith
  · rw [(deltaPct_eq_none_iff hlt.le).mpr ⟨heps, hnone⟩]
    exact fun hnone => Option.some_ne_none _ hnone.symm

/-- **For scores between zero and one** only the ids matter. -/
theorem roundingKeeps_iff_of_le_one (hscores : ∀ x ∈ scores, 0 ≤ x.2 ∧ x.2 ≤ 1) :
    RoundingKeeps scores ↔
      (∀ x, IsBest scores x → ∀ y ∈ scores,
        Database.metricValue y.2 = Database.metricValue x.2 → x.1 ≤ y.1) ∧
      ∀ x, IsWorst scores x → ∀ y ∈ scores,
        Database.metricValue y.2 = Database.metricValue x.2 → x.1 ≤ y.1 := by
  refine ⟨fun h => ⟨h.best, h.worst⟩, fun h => ⟨h.1, h.2, ?_⟩⟩
  intro x y hx hy hlt hzero
  exact absurd hzero (deltaPct_ne_zero_of_le_one (hscores y hy.mem).1 (hx.le y hy.mem)
    (hscores x hx.mem).2 hlt)

theorem roundingKeeps_empty : RoundingKeeps ∅ where
  best x hx := absurd hx.mem (Set.notMem_empty x)
  worst x hx := absurd hx.mem (Set.notMem_empty x)
  equal x _ hx := absurd hx.mem (Set.notMem_empty x)

section

variable {metrics : List ConfigComparisonMetrics} {getVal : ConfigComparisonMetrics → Option ℚ}

/-- A summary that names the exact extremes has found them among the rounded scores. -/
theorem SaysExtremes.roundingKeeps (h : SaysExtremes scores (compareDimension metrics getVal))
    (hbest : IsBest scores best) (hworst : IsWorst scores worst)
    (hfunctional : ∀ x ∈ scores, ∀ y ∈ scores, x.1 = y.1 → x = y)
    (hranked : rankedScores metrics getVal = mapScores Database.metricValue scores) :
    RoundingKeeps scores := by
  obtain ⟨rbest, rworst, hrbest, hrworst⟩ := exists_isBest
    (hranked ▸ Set.Nonempty.image _ ⟨best, hbest.mem⟩ : (rankedScores metrics getVal).Nonempty)
  have hsummary := compareDimension_of_isBest hrbest hrworst
  rw [hranked] at hrbest hrworst
  have hbestId := (h.best best.1).mpr ⟨best, hbest, rfl⟩
  have hworstId := (h.worst worst.1).mpr ⟨worst, hworst, rfl⟩
  rw [hsummary, Option.some.injEq] at hbestId hworstId
  obtain rfl := hbest.eq_of_map_metricValue hrbest hbestId
  obtain rfl := hworst.eq_of_map_metricValue hrworst hworstId
  refine ⟨?_, ?_, ?_⟩
  · intro x hx
    rw [hx.unique hbest]
    exact hbest.map_metricValue_iff.mp hrbest
  · intro x hx
    rw [hx.unique hworst]
    exact hworst.map_metricValue_iff.mp hrworst
  · intro x y hx hy hlt hzero
    rw [hx.unique hbest, hy.unique hworst] at *
    have hne : best.1 ≠ worst.1 := by
      intro hsame
      rw [hfunctional best hbest.mem worst hworst.mem hsame] at hlt
      exact lt_irrefl _ hlt
    rw [hzero] at hsummary
    obtain ⟨x', hx', y', hy', hxId, hyId, hclose⟩ := h.equal _ _ hsummary hne
    rwa [hfunctional x' hx' best hbest.mem hxId, hfunctional y' hy' worst hworst.mem hyId]
      at hclose

/-- Extremes that rounding keeps are those that the ranking finds. -/
theorem RoundingKeeps.saysExtremes (h : RoundingKeeps scores) (hbest : IsBest scores best)
    (hworst : IsWorst scores worst)
    (hranked : rankedScores metrics getVal = mapScores Database.metricValue scores) :
    SaysExtremes scores (compareDimension metrics getVal) := by
  have hle : worst.2 ≤ best.2 := hbest.le worst hworst.mem
  have hrbest := hbest.map_metricValue_iff.mpr (h.best best hbest)
  have hrworst := hworst.map_metricValue_iff.mpr (h.worst worst hworst)
  rw [← hranked] at hrbest hrworst
  rw [compareDimension_of_isBest hrbest hrworst]
  refine ⟨fun id => ?_, fun id => ?_, ?_⟩
  · rw [Option.some.injEq]
    exact ⟨fun hid => ⟨best, hbest, hid⟩, fun ⟨x, hx, hid⟩ => hbest.unique hx ▸ hid⟩
  · rw [Option.some.injEq]
    exact ⟨fun hid => ⟨worst, hworst, hid⟩, fun ⟨x, hx, hid⟩ => hworst.unique hx ▸ hid⟩
  · intro bestId worstId hsummary hne
    rw [Prod.mk.injEq, Prod.mk.injEq, Option.some.injEq, Option.some.injEq] at hsummary
    obtain ⟨rfl, rfl, hdelta⟩ := hsummary
    refine ⟨best, hbest.mem, worst, hworst.mem, rfl, rfl, ?_⟩
    rcases (metricValue_mono hle).lt_or_eq with hlt | hsame
    · exact h.equal best worst hbest hworst hlt hdelta
    · -- Every score is rounded to the same value, so both ids are the lowest.
      exact absurd (le_antisymm (h.best best hbest worst hworst.mem hsame)
        (h.worst worst hworst best hbest.mem hsame.symm)) hne

/-- **When a ranking of rounded scores speaks of the exact ones.** -/
theorem saysExtremes_iff (hfinite : scores.Finite)
    (hfunctional : ∀ x ∈ scores, ∀ y ∈ scores, x.1 = y.1 → x = y)
    (hranked : rankedScores metrics getVal = mapScores Database.metricValue scores) :
    SaysExtremes scores (compareDimension metrics getVal) ↔ RoundingKeeps scores := by
  rcases Set.eq_empty_or_nonempty scores with rfl | hnonempty
  · rw [compareDimension_of_empty (hranked.trans (Set.image_empty _))]
    exact iff_of_true saysExtremes_empty roundingKeeps_empty
  · obtain ⟨best, hbest⟩ := exists_isBest_of_finite hfinite hnonempty
    obtain ⟨worst, hworst⟩ := exists_isWorst_of_finite hfinite hnonempty
    exact ⟨fun h => h.roundingKeeps hbest hworst hfunctional hranked,
      fun h => h.saysExtremes hbest hworst hranked⟩

end

end

section

variable {db : Database} {request : ComparisonRequest} {response : ConfigComparisonResponse}
variable {compared : ComparedBucket} {dim : ScoreDimension}

/-- A config has one average. -/
theorem functional_exactScores {bucket : EvaluatorType} :
    ∀ x ∈ db.exactScores request bucket dim, ∀ y ∈ db.exactScores request bucket dim,
      x.1 = y.1 → x = y := by
  intro x hx y hy hsame
  have haverage := hx.2
  rw [hsame] at haverage
  exact Prod.ext hsame (Option.some.inj (haverage.symm.trans hy.2))

theorem finite_exactScores (bucket : EvaluatorType) :
    (db.exactScores request bucket dim).Finite := by
  have hids : {x : ℕ | x ∈ request.pipelineConfigIds.eraseDups}.Finite :=
    List.finite_toSet _
  refine Set.Finite.of_finite_image (hids.subset ?_) fun x hx y hy hsame =>
    functional_exactScores x hx y hy hsame
  rintro _ ⟨x, hx, rfl⟩
  exact hx.1

variable [Sql.DoubleAggregates]

/-- The buckets of a comparison that returns. -/
theorem buckets_comparePipelineConfigs (h : comparePipelineConfigs db request = .ok response) :
    response.buckets = request.evaluatorType.toList.map fun bucket =>
      let configs := Database.buildMetricsList bucket (db.comparisonBase request)
        request.pipelineConfigIds.eraseDups
      { bucket := bucket
        configs := configs
        scoreComparison := buildConfigScoreComparison configs true } := by
  obtain ⟨-, -, rfl⟩ := comparePipelineConfigs_ok h
  rfl

theorem mem_buckets (h : comparePipelineConfigs db request = .ok response)
    (hcompared : compared ∈ response.buckets) :
    compared.configs = Database.buildMetricsList compared.bucket (db.comparisonBase request)
        request.pipelineConfigIds.eraseDups ∧
      compared.scoreComparison = buildConfigScoreComparison compared.configs true := by
  rw [buckets_comparePipelineConfigs h] at hcompared
  obtain ⟨bucket, -, rfl⟩ := List.mem_map.mp hcompared
  exact ⟨rfl, rfl⟩

/-- **What is ranked** are the exact averages, rounded. -/
theorem rankedScores_buildMetricsList (bucket : EvaluatorType) :
    rankedScores (Database.buildMetricsList bucket (db.comparisonBase request)
        request.pipelineConfigIds.eraseDups) dim.average =
      mapScores Database.metricValue (db.exactScores request bucket dim) := by
  ext x
  constructor
  · rintro ⟨m, hm, htraced, hvalue, hid⟩
    obtain ⟨pid, hpid, rfl⟩ := List.mem_map.mp hm
    by_cases hempty : (Sql.group StoredRun.pipelineConfigId (db.comparisonBase request) pid).isEmpty
    · rw [if_pos hempty] at htraced
      exact absurd htraced (lt_irrefl 0)
    · rw [if_neg hempty] at hvalue hid
      have hmetric : Database.metricFloat (Database.avgEvaluation bucket
          (Sql.group StoredRun.pipelineConfigId (db.comparisonBase request) pid) dim.column) =
            some x.2 := by
        cases dim with
        | faithfulness => exact hvalue
        | completeness => exact hvalue
      obtain ⟨average, haverage, hround⟩ := Option.map_eq_some_iff.mp hmetric
      exact ⟨(pid, average), ⟨hpid, haverage⟩, Prod.ext hid hround⟩
  · rintro ⟨⟨pid, average⟩, ⟨hpid, haverage⟩, rfl⟩
    have hempty : (Sql.group StoredRun.pipelineConfigId (db.comparisonBase request) pid).isEmpty =
        false := by
      by_contra hempty
      rw [Bool.not_eq_false] at hempty
      simp only [List.isEmpty_iff.mp hempty] at haverage
      cases haverage
    refine ⟨_, List.mem_map_of_mem hpid, ?_⟩
    rw [hempty, if_neg Bool.false_ne_true]
    refine ⟨List.length_pos_iff.mpr fun hnil => ?_, ?_, rfl⟩
    · rw [hnil] at hempty
      cases hempty
    · have hmetric : dim.average (Database.configMetrics bucket (db.comparisonBase request) pid) =
          Database.metricFloat (Database.avgEvaluation bucket
            (Sql.group StoredRun.pipelineConfigId (db.comparisonBase request) pid) dim.column) := by
        cases dim with
        | faithfulness => rfl
        | completeness => rfl
      rw [hmetric, haverage]
      rfl

end

/-! ### Two runs -/

/-- An evaluation of the heuristic bucket. -/
def measuredEvaluation (completeness : ℚ) (costUsd : Option ℚ) : EvaluationResult where
  faithfulness := none
  completeness := some completeness
  retrievalRelevance := none
  contextCoverage := none
  groundedness := none
  failureType := some "NO_FAILURE"
  usedLlmJudge := false
  costUsd := costUsd
  metadataJson := some [("evaluator_type", .str "heuristic")]

/-- A completed run with one retrieved chunk and an evaluation. -/
def measuredRun (id pipelineConfigId : ℕ) (evaluation : EvaluationResult) : StoredRun where
  run :=
    { createRun id .completed none with
      retrievalResults := [{ chunkId := 1, rank := 1, score := 1 }]
      evaluationResults := [evaluation] }
  queryCaseId := 1
  pipelineConfigId := pipelineConfigId
  createdAt := id

/-- Two configs, each run once on one query case. -/
def measuredDatabase (first second : EvaluationResult) : Database where
  queryCases := [{ id := 1, datasetId := 1, queryText := "first" }]
  runs := [measuredRun 1 1 first, measuredRun 2 2 second]
  queryCases_unique := by decide
  runs_unique := by simp [measuredRun, createRun]
  queryCase_exists := by simp [measuredRun]
  generation_unique := by simp [measuredRun, createRun]
  evaluation_unique := by simp [measuredRun]

/-- The comparison of the two configs in the heuristic bucket. -/
def measuredRequest : ComparisonRequest where
  pipelineConfigIds := [1, 2]
  evaluatorType := .one .heuristic
  datasetId := none
  minTracedRuns := none
  strictComparison := false
  includeBenchmarkRealism := false

theorem measured_comparison_returns (first second : EvaluationResult) :
    ∃ response, comparePipelineConfigs (measuredDatabase first second) measuredRequest =
      .ok response ∧ ∃ compared ∈ response.buckets, compared.bucket = .heuristic :=
  ⟨_, rfl, _, List.mem_cons_self, rfl⟩

theorem avg_singleton (p : ℚ) : Sql.avg [some p] = some p := by
  simp [Sql.avg, Sql.sum, List.reduceOption]

theorem mem_exactScores_measured {p q : ℚ} {x : Score} :
    x ∈ (measuredDatabase (measuredEvaluation p none) (measuredEvaluation q none)).exactScores
        measuredRequest .heuristic .completeness ↔ x = (1, p) ∨ x = (2, q) := by
  have hfirst : Database.avgEvaluation .heuristic [measuredRun 1 1 (measuredEvaluation p none)]
      EvaluationResult.completeness = some p :=
    (congrArg (fun value => Sql.avg [value]) (avg_singleton p)).trans (avg_singleton p)
  have hsecond : Database.avgEvaluation .heuristic [measuredRun 2 2 (measuredEvaluation q none)]
      EvaluationResult.completeness = some q :=
    (congrArg (fun value => Sql.avg [value]) (avg_singleton q)).trans (avg_singleton q)
  obtain ⟨pid, average⟩ := x
  constructor
  · rintro ⟨hpid, haverage⟩
    rcases List.mem_pair.mp hpid with rfl | rfl
    · exact Or.inl (congrArg (Prod.mk 1) (Option.some.inj (haverage.symm.trans hfirst)))
    · exact Or.inr (congrArg (Prod.mk 2) (Option.some.inj (haverage.symm.trans hsecond)))
  · rintro (h | h)
    · cases h
      exact ⟨List.mem_cons_self, hfirst⟩
    · cases h
      exact ⟨List.mem_cons_of_mem 1 List.mem_cons_self, hsecond⟩

end ContextLens
