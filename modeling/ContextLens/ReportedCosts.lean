import ContextLens.ScoreRanking
import Mathlib.Algebra.Order.BigOperators.Group.List

/-!
# The average cost of a compared config

`avg_evaluation_cost_per_run_usd` of `_build_metrics_list`.  A run has one evaluation row
at most, so the average of the run averages is the mean of the costs that contribute
(`avgEvaluation_eq`), and what is reported is that mean, as the server's double, rounded
to three decimals.  `NULL` survives the rounding; a small positive mean does not.

The mean that is reported as zero is half a thousandth, up to the last bits of the
server's sum.  Costs have six decimals, so over fewer than a million runs no mean but half
a thousandth itself is within the `1 / 10 ^ 12` that the statement leaves open.
-/

namespace ContextLens

open Foundations

/-! ## The costs that contribute -/

namespace Database

/-- The values of a column that contribute to an average. -/
def contributingValues (bucket : EvaluatorType) (base : List StoredRun)
    (column : EvaluationResult → Option ℚ) : List ℚ :=
  base.flatMap fun r => (bucketRows bucket r).filterMap column

/-- The stored costs behind the average of a config in a bucket. -/
def contributingCosts (db : Database) (request : ComparisonRequest) (bucket : EvaluatorType)
    (pid : ℕ) : List ℚ :=
  contributingValues bucket (Sql.group StoredRun.pipelineConfigId (db.comparisonBase request) pid)
    EvaluationResult.costUsd

end Database

/-- The mean of some costs. -/
def meanCost (costs : List ℚ) : ℚ := costs.sum / costs.length

/-- What a report keeps apart: nothing measured, and everything measured as zero. -/
structure KeepsMeasuredCost (costs : List ℚ) (reported : Option ℚ) : Prop where
  null_iff : reported = none ↔ costs = []
  zero_iff : reported = some 0 ↔ costs ≠ [] ∧ ∀ c ∈ costs, c = 0

section

variable {bucket : EvaluatorType} {base : List StoredRun} {column : EvaluationResult → Option ℚ}

/-- The average of the rows of a run with one row at most is the value of that row. -/
theorem avg_bucketRows {r : StoredRun} (hunique : r.evaluations.length ≤ 1) :
    (Sql.avg ((Database.bucketRows bucket r).map column)).toList =
      (Database.bucketRows bucket r).filterMap column := by
  have hrows : (Database.bucketRows bucket r).length ≤ 1 :=
    (List.length_filter_le _ _).trans hunique
  match hshape : Database.bucketRows bucket r with
  | [] => rfl
  | [row] =>
      rw [List.map_singleton, List.filterMap_cons]
      cases hvalue : column row with
      | none => rfl
      | some value => rw [avg_singleton, Option.toList_some, List.filterMap_nil]
  | first :: second :: rest =>
      rw [hshape] at hrows
      simp at hrows

theorem reduceOption_avg_bucketRows (hunique : ∀ r ∈ base, r.evaluations.length ≤ 1) :
    (base.map fun r => Sql.avg ((Database.bucketRows bucket r).map column)).reduceOption =
      Database.contributingValues bucket base column := by
  induction base with
  | nil => rfl
  | cons r rest ih =>
      have hrow : (Sql.avg ((Database.bucketRows bucket r).map column)).toList =
          (Database.bucketRows bucket r).filterMap column :=
        avg_bucketRows (hunique r List.mem_cons_self)
      rw [Database.contributingValues, List.flatMap_cons, List.map_cons, ← hrow,
        ← Database.contributingValues, ← ih fun r' hr' => hunique r' (List.mem_cons_of_mem r hr')]
      cases Sql.avg ((Database.bucketRows bucket r).map column) with
      | none => exact List.reduceOption_cons_of_none _
      | some value => exact List.reduceOption_cons_of_some value _

/-- **The average of a column** is the mean of the values that contribute. -/
theorem avgEvaluation_eq (hunique : ∀ r ∈ base, r.evaluations.length ≤ 1) :
    Database.avgEvaluation bucket base column =
      if Database.contributingValues bucket base column = [] then none
      else some (meanCost (Database.contributingValues bucket base column)) := by
  rw [Database.avgEvaluation, Sql.avg_eq, reduceOption_avg_bucketRows hunique, meanCost]

end

/-! ## What rounding keeps -/

section

variable {costs : List ℚ}

theorem meanCost_nonneg (hcosts : ∀ c ∈ costs, 0 ≤ c) : 0 ≤ meanCost costs :=
  div_nonneg (List.sum_nonneg hcosts) (Nat.cast_nonneg _)

theorem meanCost_eq_zero (hzero : ∀ c ∈ costs, c = 0) : meanCost costs = 0 := by
  rw [meanCost, List.sum_eq_zero hzero, zero_div]

variable [Sql.DoubleAggregates]

/-- A value is reported as zero when its double is at most half a thousandth. -/
theorem metricValue_eq_zero_iff {value : ℚ} (hvalue : 0 ≤ value) :
    Database.metricValue value = 0 ↔ Sql.DoubleAggregates.toDouble value ≤ 1 / 2000 := by
  rw [Database.metricValue, roundMetricFloat,
    Binary64.roundDigits_eq_zero_iff 3 (Sql.DoubleAggregates.toDouble_nonneg hvalue)]
  norm_num

theorem metricValue_ne_zero {value : ℚ} (h : 1 / 2000 + 1 / 10 ^ 12 ≤ value) :
    Database.metricValue value ≠ 0 := by
  have hnonneg : 0 ≤ value := le_trans (by norm_num) h
  have hnear := (abs_le.mp (Sql.DoubleAggregates.abs_toDouble_sub_le value hnonneg)).1
  rw [ne_eq, metricValue_eq_zero_iff hnonneg, not_le]
  linarith

theorem metricValue_eq_zero {value : ℚ} (hnonneg : 0 ≤ value)
    (h : value ≤ 1 / 2000 - 1 / 10 ^ 12) : Database.metricValue value = 0 := by
  have hnear := (abs_le.mp (Sql.DoubleAggregates.abs_toDouble_sub_le value hnonneg)).2
  rw [metricValue_eq_zero_iff hnonneg]
  linarith

/-- What is reported keeps a measured cost apart just when the mean is zero only with every
cost. -/
theorem keepsMeasuredCost_iff :
    KeepsMeasuredCost costs
        (Database.metricFloat (if costs = [] then none else some (meanCost costs))) ↔
      (∀ c ∈ costs, c = 0) ∨ Database.metricValue (meanCost costs) ≠ 0 := by
  by_cases hempty : costs = []
  · rw [if_pos hempty]
    refine iff_of_true ⟨iff_of_true rfl hempty, ?_⟩ (Or.inl ?_)
    · exact iff_of_false (fun hsome => by cases hsome) fun hzero => hzero.1 hempty
    · rw [hempty]
      exact fun c hc => absurd hc List.not_mem_nil
  · rw [if_neg hempty, Database.metricFloat, Option.map_some]
    constructor
    · intro h
      by_cases hzero : Database.metricValue (meanCost costs) = 0
      · exact Or.inl (h.zero_iff.mp (congrArg some hzero)).2
      · exact Or.inr hzero
    · intro h
      refine ⟨iff_of_false (fun hnone => by cases hnone) hempty, ?_⟩
      constructor
      · intro hsome
        exact ⟨hempty, h.resolve_right (not_not.mpr (Option.some.inj hsome))⟩
      · rintro ⟨-, hzero⟩
        rw [meanCost_eq_zero hzero, metricValue_eq_zero le_rfl (by norm_num)]

end

/-! ## The comparison -/

section

variable {db : Database} {request : ComparisonRequest} {response : ConfigComparisonResponse}
variable {compared : ComparedBucket} {m : ConfigComparisonMetrics}

theorem mem_comparisonBase {r : StoredRun} (hr : r ∈ db.comparisonBase request) : r ∈ db.runs := by
  obtain ⟨row, hrow, rfl⟩ := List.mem_map.mp hr
  exact (Sql.mem_join.mp (List.mem_filter.mp hrow).1).1

/-- **The reported cost** of a config is the mean of its costs, rounded. -/
theorem avgEvaluationCost_eq [Sql.DoubleAggregates]
    (h : comparePipelineConfigs db request = .ok response)
    (hcompared : compared ∈ response.buckets) (hm : m ∈ compared.configs) :
    m.avgEvaluationCostPerRunUsd = Database.metricFloat
      (if db.contributingCosts request compared.bucket m.pipelineConfigId = [] then none
        else some
          (meanCost (db.contributingCosts request compared.bucket m.pipelineConfigId))) := by
  rw [(mem_buckets h hcompared).1] at hm
  obtain ⟨pid, -, rfl⟩ := List.mem_map.mp hm
  have haverage : Database.avgEvaluation compared.bucket
      (Sql.group StoredRun.pipelineConfigId (db.comparisonBase request) pid)
        EvaluationResult.costUsd =
      if db.contributingCosts request compared.bucket pid = [] then none
      else some (meanCost (db.contributingCosts request compared.bucket pid)) :=
    avgEvaluation_eq fun r hr =>
      db.evaluation_unique r (mem_comparisonBase (List.mem_filter.mp hr).1)
  by_cases hempty : (Sql.group StoredRun.pipelineConfigId (db.comparisonBase request) pid).isEmpty
  · rw [if_pos hempty]
    have hnil : db.contributingCosts request compared.bucket pid = [] := by
      rw [Database.contributingCosts, List.isEmpty_iff.mp hempty]
      rfl
    rw [hnil]
    rfl
  · rw [if_neg hempty]
    exact congrArg Database.metricFloat haverage

/-- **When a measured cost is not reported as free**: when the mean of the costs exceeds
half a thousandth, and not when it falls short of that. -/
theorem reported_cost_iff [Sql.DoubleAggregates]
    (hcosts : ∀ r ∈ db.runs, ∀ row ∈ r.evaluations, ∀ c, row.costUsd = some c → 0 ≤ c)
    (h : comparePipelineConfigs db request = .ok response)
    (hcompared : compared ∈ response.buckets) (hm : m ∈ compared.configs) :
    ((∀ c ∈ db.contributingCosts request compared.bucket m.pipelineConfigId, c = 0) ∨
        1 / 2000 + 1 / 10 ^ 12 ≤
          meanCost (db.contributingCosts request compared.bucket m.pipelineConfigId) →
      KeepsMeasuredCost (db.contributingCosts request compared.bucket m.pipelineConfigId)
        m.avgEvaluationCostPerRunUsd) ∧
    (KeepsMeasuredCost (db.contributingCosts request compared.bucket m.pipelineConfigId)
        m.avgEvaluationCostPerRunUsd →
      (∀ c ∈ db.contributingCosts request compared.bucket m.pipelineConfigId, c = 0) ∨
        1 / 2000 - 1 / 10 ^ 12 <
          meanCost (db.contributingCosts request compared.bucket m.pipelineConfigId)) := by
  rw [avgEvaluationCost_eq h hcompared hm, keepsMeasuredCost_iff]
  have hnonneg : 0 ≤ meanCost
      (db.contributingCosts request compared.bucket m.pipelineConfigId) := by
    refine meanCost_nonneg fun c hc => ?_
    obtain ⟨r, hr, hrow⟩ := List.mem_flatMap.mp hc
    obtain ⟨row, hmem, hcost⟩ := List.mem_filterMap.mp hrow
    exact hcosts r (mem_comparisonBase (List.mem_filter.mp hr).1) row (List.mem_filter.mp hmem).1
      c hcost
  refine ⟨Or.imp_right metricValue_ne_zero, Or.imp_right fun hne => ?_⟩
  by_contra hsmall
  exact hne (metricValue_eq_zero hnonneg (not_lt.mp hsmall))

end

/-! ### Two runs -/

/-- A run of two thousandths of a dollar, and one that was free. -/
def costlyDatabase : Database :=
  measuredDatabase (measuredEvaluation 1 (some (2 / 1000))) (measuredEvaluation 1 (some 0))

theorem reported_cost_of_costly :
    ∃ response, comparePipelineConfigs costlyDatabase measuredRequest = .ok response ∧
      ∃ compared ∈ response.buckets, ∀ m ∈ compared.configs,
        KeepsMeasuredCost (costlyDatabase.contributingCosts measuredRequest compared.bucket
          m.pipelineConfigId) m.avgEvaluationCostPerRunUsd := by
  obtain ⟨response, h, compared, hcompared, hbucket⟩ := measured_comparison_returns
    (measuredEvaluation 1 (some (2 / 1000))) (measuredEvaluation 1 (some 0))
  refine ⟨response, h, compared, hcompared, fun m hm => ?_⟩
  have hcosts : ∀ r ∈ costlyDatabase.runs, ∀ row ∈ r.evaluations, ∀ c, row.costUsd = some c →
      0 ≤ c := by
    intro r hr row hrow c hc
    rcases List.mem_pair.mp hr with rfl | rfl
    · rw [List.mem_singleton.mp hrow] at hc
      rw [← Option.some.inj hc]
      norm_num
    · rw [List.mem_singleton.mp hrow] at hc
      exact (Option.some.inj hc).le
  refine (reported_cost_iff hcosts h hcompared hm).1 ?_
  rw [(mem_buckets h hcompared).1] at hm
  obtain ⟨hpid, -⟩ := mem_buildMetricsList hm
  rw [hbucket]
  rcases List.mem_pair.mp hpid with hid | hid
  · have hfirst : costlyDatabase.contributingCosts measuredRequest .heuristic 1 = [2 / 1000] := rfl
    rw [hid, hfirst, meanCost]
    norm_num
  · have hsecond : costlyDatabase.contributingCosts measuredRequest .heuristic 2 = [0] := rfl
    rw [hid, hsecond]
    exact Or.inl fun c hc => List.mem_singleton.mp hc

/-- A run of three hundredths of a cent, and one whose cost was not measured. -/
def cheapDatabase : Database :=
  measuredDatabase (measuredEvaluation 1 (some (3 / 10000))) (measuredEvaluation 1 none)

/-- A run that cost three hundredths of a cent is reported as free. -/
theorem small_cost_reported_as_free :
    ∃ response, comparePipelineConfigs cheapDatabase measuredRequest = .ok response ∧
      ∃ compared ∈ response.buckets, ∃ m ∈ compared.configs,
        cheapDatabase.contributingCosts measuredRequest compared.bucket m.pipelineConfigId =
          [3 / 10000] ∧
        m.avgEvaluationCostPerRunUsd = some 0 ∧
        ¬KeepsMeasuredCost (cheapDatabase.contributingCosts measuredRequest compared.bucket
          m.pipelineConfigId) m.avgEvaluationCostPerRunUsd := by
  obtain ⟨response, h, compared, hcompared, hbucket⟩ := measured_comparison_returns
    (measuredEvaluation 1 (some (3 / 10000))) (measuredEvaluation 1 none)
  have hmem : Database.configMetrics .heuristic (cheapDatabase.comparisonBase measuredRequest) 1 ∈
      compared.configs := by
    rw [(mem_buckets h hcompared).1, hbucket]
    exact List.mem_cons_self
  have hcosts : cheapDatabase.contributingCosts measuredRequest .heuristic 1 = [3 / 10000] := rfl
  have hreported : (Database.configMetrics .heuristic
      (cheapDatabase.comparisonBase measuredRequest) 1).avgEvaluationCostPerRunUsd = some 0 := by
    decide +kernel
  refine ⟨response, h, compared, hcompared, _, hmem, ?_, hreported, ?_⟩
  · rw [hbucket]
    exact hcosts
  · intro hkeeps
    have hfree := (hkeeps.zero_iff.mp hreported).2 (3 / 10000) (by
      rw [hbucket]
      exact List.mem_cons_self)
    norm_num at hfree

end ContextLens
