import ContextLens.Database
import ContextLens.Foundations.Binary64

/-!
# The comparison of pipeline configs

`app/services/config_comparison.py` with the tiers of
`app/domain/benchmark_statistics.py` and the rounding of `app/domain/metric_display.py`.
The sample standard deviations are left out.

The three queries of a comparison read differently filtered runs.  The run counts and
the query sets are those of the *traced* runs, the runs in scope with a retrieval row;
the averages are those of the runs that also have an evaluation row in the bucket.

An aggregate is exact up to the double that the server returns for it, which is a
parameter (`Sql.DoubleAggregates`); what Python does with the double, rounding it to three
decimals and comparing the best with the worst, is computed in doubles.
-/

namespace ContextLens

open Foundations

/-! ## Parameters -/

/-- `evaluator_type` of a comparison. -/
inductive ComparedBuckets
  | one (bucket : EvaluatorType)
  | both
  deriving DecidableEq, Repr

/-- The parameters of `compare_pipeline_configs`. -/
structure ComparisonRequest where
  pipelineConfigIds : List ℕ
  evaluatorType : ComparedBuckets
  datasetId : Option ℕ
  minTracedRuns : Option ℤ
  strictComparison : Bool
  includeBenchmarkRealism : Bool

/-- `_MAX_CONFIG_IDS`. -/
def maxConfigIds : ℕ := 64

/-- `resolve_include_benchmark_realism_for_comparison`. -/
def resolveIncludeBenchmarkRealism (datasetId : Option ℕ) (includeBenchmarkRealism : Bool) : Bool :=
  includeBenchmarkRealism || datasetId.isSome

/-! ## Results -/

/-- `ConfigComparisonMetrics`. -/
structure ConfigComparisonMetrics where
  pipelineConfigId : ℕ
  tracedRuns : ℕ
  uniqueQueryCount : ℕ
  avgFaithfulness : Option ℚ := none
  avgRetrievalLatencyMs : Option ℚ := none
  p95RetrievalLatencyMs : Option ℚ := none
  avgEvaluationLatencyMs : Option ℚ := none
  p95EvaluationLatencyMs : Option ℚ := none
  avgTotalLatencyMs : Option ℚ := none
  p95TotalLatencyMs : Option ℚ := none
  avgGroundedness : Option ℚ := none
  avgCompleteness : Option ℚ := none
  avgRetrievalRelevance : Option ℚ := none
  avgContextCoverage : Option ℚ := none
  failureTypeCounts : List (String × ℕ) := []
  avgEvaluationCostPerRunUsd : Option ℚ := none

/-- `ConfigScoreComparisonSummary`. -/
structure ConfigScoreComparisonSummary where
  bestConfigFaithfulness : Option ℕ
  worstConfigFaithfulness : Option ℕ
  faithfulnessDeltaPct : Option ℚ
  bestConfigCompleteness : Option ℕ
  worstConfigCompleteness : Option ℕ
  completenessDeltaPct : Option ℚ

/-- `ComparisonConfidence`. -/
inductive ConfidenceTier
  | low
  | medium
  | high
  deriving DecidableEq, Repr

/-- The fields of `_comparison_confidence_fields`. -/
structure ComparisonConfidenceFields where
  comparisonConfidence : ConfidenceTier
  comparisonStatisticallyReliable : Bool
  minTracedRunsAcrossConfigs : ℕ
  recommendedMinTracedRuns : ℕ
  uniqueQueriesCompared : ℕ
  effectiveSampleSize : ℕ
  recommendedMinUniqueQueries : ℕ

/-- One bucket of a response: its rows and their scores compared. -/
structure ComparedBucket where
  bucket : EvaluatorType
  configs : List ConfigComparisonMetrics
  scoreComparison : ConfigScoreComparisonSummary

/-- `ConfigComparisonResponse`; `buckets` are the one of `configs` or the two of
`buckets`. -/
structure ConfigComparisonResponse where
  evaluatorType : ComparedBuckets
  pipelineConfigIds : List ℕ
  buckets : List ComparedBucket
  datasetId : Option ℕ
  strictComparisonApplied : Bool
  minTracedRunsEnforced : Option ℤ
  confidence : ComparisonConfidenceFields

/-! ## The queries -/

/-- `round_metric_float`, with its default of three decimals. -/
def roundMetricFloat (value : ℚ) : ℚ := Binary64.roundDigits 3 value

namespace Database

variable (db : Database)

/-- The filters that the queries share: the configs, a retrieval row, the realism tag
and the dataset. -/
def comparisonScope (pids : List ℕ) (datasetId : Option ℕ) (includeBenchmarkRealism : Bool)
    (row : StoredRun × QueryCase) : Bool :=
  decide (row.1.pipelineConfigId ∈ pids) && !row.1.run.retrievalResults.isEmpty &&
    (includeBenchmarkRealism || row.1.isOrganic) &&
    (match datasetId with
      | some datasetId => decide (row.2.datasetId = datasetId)
      | none => true)

/-- `run_base`. -/
def runBase (pids : List ℕ) (datasetId : Option ℕ) (includeBenchmarkRealism : Bool) :
    List StoredRun :=
  ((Sql.join db.queryCaseOf db.runs).filter
    (comparisonScope pids datasetId includeBenchmarkRealism)).map Prod.fst

/-- The evaluation rows of a run in a bucket. -/
def bucketRows (bucket : EvaluatorType) (r : StoredRun) : List EvaluationResult :=
  r.evaluations.filter fun row => (sqlBucket bucket row).holds

/-- `AVG` of a column of `eval_agg`, which is `NULL` for a run without a row in the
bucket, over the runs of a group. -/
def avgEvaluation (bucket : EvaluatorType) (base : List StoredRun)
    (column : EvaluationResult → Option ℚ) : Option ℚ :=
  Sql.avg (base.map fun r => Sql.avg ((bucketRows bucket r).map column))

/-- What a report makes of an exact aggregate: the server's double, rounded. -/
def metricValue [Sql.DoubleAggregates] (value : ℚ) : ℚ :=
  roundMetricFloat (Sql.DoubleAggregates.toDouble value)

/-- `_metric_float` of an aggregate. -/
def metricFloat [Sql.DoubleAggregates] (value : Option ℚ) : Option ℚ := value.map metricValue

/-- A column of latencies. -/
def latencies (base : List StoredRun) (column : Run → Option ℕ) : List (Option ℚ) :=
  base.map fun r => (column r.run).map Nat.cast

/-- `COALESCE(NULLIF(BTRIM(failure_type), ''), 'UNKNOWN')`. -/
def comparedFailureType (row : EvaluationResult) : String :=
  match row.failureType with
  | some label => if Sql.btrim label = "" then "UNKNOWN" else Sql.btrim label
  | none => "UNKNOWN"

/-- `_query_failures`, for one config. -/
def failureTypeCounts (bucket : EvaluatorType) (base : List StoredRun) (pid : ℕ) :
    List (String × ℕ) :=
  let labels := (Sql.group StoredRun.pipelineConfigId base pid).flatMap fun r =>
    (bucketRows bucket r).map comparedFailureType
  (Sql.groupKeys id labels).map fun label => (label, (Sql.group id labels label).length)

/-- The row of `_query_main` for a config with a traced run, as `_build_metrics_list`
reads it. -/
def configMetrics [Sql.DoubleAggregates] (bucket : EvaluatorType) (base : List StoredRun)
    (pid : ℕ) : ConfigComparisonMetrics :=
  let runs := Sql.group StoredRun.pipelineConfigId base pid
  { pipelineConfigId := pid
    tracedRuns := runs.length
    uniqueQueryCount := Sql.countDistinct StoredRun.queryCaseId runs
    avgRetrievalLatencyMs := metricFloat (Sql.avg (latencies runs Run.retrievalLatencyMs))
    p95RetrievalLatencyMs :=
      metricFloat (Sql.percentileCont (95 / 100) (latencies runs Run.retrievalLatencyMs))
    avgEvaluationLatencyMs := metricFloat (Sql.avg (latencies runs Run.evaluationLatencyMs))
    p95EvaluationLatencyMs :=
      metricFloat (Sql.percentileCont (95 / 100) (latencies runs Run.evaluationLatencyMs))
    avgTotalLatencyMs := metricFloat (Sql.avg (latencies runs Run.totalLatencyMs))
    p95TotalLatencyMs :=
      metricFloat (Sql.percentileCont (95 / 100) (latencies runs Run.totalLatencyMs))
    avgGroundedness := metricFloat (avgEvaluation bucket runs EvaluationResult.groundedness)
    avgFaithfulness := metricFloat (avgEvaluation bucket runs EvaluationResult.faithfulness)
    avgCompleteness := metricFloat (avgEvaluation bucket runs EvaluationResult.completeness)
    avgRetrievalRelevance :=
      metricFloat (avgEvaluation bucket runs EvaluationResult.retrievalRelevance)
    avgContextCoverage :=
      metricFloat (avgEvaluation bucket runs EvaluationResult.contextCoverage)
    failureTypeCounts := failureTypeCounts bucket base pid
    avgEvaluationCostPerRunUsd :=
      metricFloat (avgEvaluation bucket runs EvaluationResult.costUsd) }

/-- `_build_metrics_list`. -/
def buildMetricsList [Sql.DoubleAggregates] (bucket : EvaluatorType) (base : List StoredRun)
    (pids : List ℕ) : List ConfigComparisonMetrics :=
  pids.map fun pid =>
    if (Sql.group StoredRun.pipelineConfigId base pid).isEmpty then
      { pipelineConfigId := pid
        tracedRuns := 0
        uniqueQueryCount := 0
        failureTypeCounts := failureTypeCounts bucket base pid }
    else configMetrics bucket base pid

/-- `_query_query_case_sets`, for one config and in ascending order.  The bucket is
passed to the query, whose text has no place for it. -/
def queryCaseSet (base : List StoredRun) (pid : ℕ) : List ℕ :=
  ((Sql.group StoredRun.pipelineConfigId base pid).map
    StoredRun.queryCaseId).dedup.insertionSort (· ≤ ·)

end Database

/-! ## Integrity -/

/-- `{pid: sorted(query_case_ids), …}` as Python prints it. -/
def queryCaseSetsText (pids : List ℕ) (querySets : ℕ → List ℕ) : String :=
  "\x7b" ++ ", ".intercalate (pids.map fun pid =>
    toString pid ++ ": [" ++ ", ".intercalate ((querySets pid).map toString) ++ "]") ++ "\x7d"

/-- The first config with too few traced runs, and how many it has. -/
def tooFewTracedRuns (pids : List ℕ) (rows : List ConfigComparisonMetrics) (minimum : ℤ) :
    Option (ℕ × ℕ) :=
  (pids.map fun pid =>
    (pid, ((rows.find? fun m => m.pipelineConfigId = pid).map
      ConfigComparisonMetrics.tracedRuns).getD 0)).find? fun x => (x.2 : ℤ) < minimum

/-- `_enforce_integrity`. -/
def enforceIntegrity (pids : List ℕ) (rows : List ConfigComparisonMetrics)
    (querySets : ℕ → List ℕ) (minTracedRuns : Option ℤ) (requireSameQueries : Bool) :
    Except String Unit :=
  if requireSameQueries && decide (2 ≤ pids.length) &&
      decide (1 < (pids.map querySets).dedup.length) then
    .error ("comparison integrity: distinct query_case_id sets differ across pipeline configs " ++
      "(per-config query_case_ids: " ++ queryCaseSetsText pids querySets ++ ")")
  else
    match minTracedRuns with
    | none => .ok ()
    | some minimum =>
        match tooFewTracedRuns pids rows minimum with
        | some (pid, tracedRuns) =>
            .error ("comparison integrity: pipeline_config_id=" ++ toString pid ++ " has " ++
              toString tracedRuns ++ " traced runs, requires >= " ++ toString minimum)
        | none => .ok ()

/-! ## Scores and confidence -/

/-- A config that takes part in a ranking, with its average. -/
abbrev RankedConfig := ConfigComparisonMetrics × ℚ

/-- The key of `max` in `_rank_avg_dimension`: the average, then the lower id. -/
def bestBefore (a b : RankedConfig) : Bool :=
  decide (a.2 < b.2 ∨ a.2 = b.2 ∧ b.1.pipelineConfigId < a.1.pipelineConfigId)

/-- The key of `min`: the average, then the lower id. -/
def worstBefore (a b : RankedConfig) : Bool :=
  decide (a.2 < b.2 ∨ a.2 = b.2 ∧ a.1.pipelineConfigId < b.1.pipelineConfigId)

/-- The configs with a traced run and an average. -/
def eligibleConfigs (metrics : List ConfigComparisonMetrics)
    (getVal : ConfigComparisonMetrics → Option ℚ) : List RankedConfig :=
  metrics.filterMap fun m =>
    if m.tracedRuns = 0 then none else (getVal m).map fun value => (m, value)

/-- `_rank_avg_dimension`: best and worst. -/
def rankAvgDimension (metrics : List ConfigComparisonMetrics)
    (getVal : ConfigComparisonMetrics → Option ℚ) : Option (RankedConfig × RankedConfig) :=
  match Python.maxBy bestBefore (eligibleConfigs metrics getVal),
      Python.minBy worstBefore (eligibleConfigs metrics getVal) with
  | some best, some worst => some (best, worst)
  | _, _ => none

/-- `_SCORE_EPS`. -/
def scoreEps : ℚ := Binary64.nearest (1 / 10 ^ 9)

/-- `_delta_pct`. -/
def deltaPct (best worst : ℚ) : Option ℚ :=
  if |Binary64.sub best worst| < scoreEps then some 0
  else if scoreEps < worst then
    some (Binary64.div (Binary64.mul 100 (Binary64.sub best worst)) worst)
  else none

/-- One dimension of a score comparison: best id, worst id, difference. -/
def compareDimension (metrics : List ConfigComparisonMetrics)
    (getVal : ConfigComparisonMetrics → Option ℚ) : Option ℕ × Option ℕ × Option ℚ :=
  match rankAvgDimension metrics getVal with
  | some (best, worst) =>
      (some best.1.pipelineConfigId, some worst.1.pipelineConfigId,
        (deltaPct best.2 worst.2).map roundMetricFloat)
  | none => (none, none, none)

/-- `build_config_score_comparison`. -/
def buildConfigScoreComparison (metrics : List ConfigComparisonMetrics)
    (includeFaithfulness : Bool) : ConfigScoreComparisonSummary :=
  let faithfulness :=
    if includeFaithfulness then
      compareDimension metrics ConfigComparisonMetrics.avgFaithfulness
    else (none, none, none)
  let completeness := compareDimension metrics ConfigComparisonMetrics.avgCompleteness
  { bestConfigFaithfulness := faithfulness.1
    worstConfigFaithfulness := faithfulness.2.1
    faithfulnessDeltaPct := faithfulness.2.2
    bestConfigCompleteness := completeness.1
    worstConfigCompleteness := completeness.2.1
    completenessDeltaPct := completeness.2.2 }

/-- `confidence_tier_from_effective_sample_size`. -/
def confidenceTierFromEffectiveSampleSize (effective : ℕ) : ConfidenceTier :=
  if effective < 8 then .low else if effective < 15 then .medium else .high

/-- `RECOMMENDED_MIN_TRACED_RUNS_FOR_VALID_COMPARISON`. -/
def recommendedMinTracedRuns : ℕ := 20

/-- `RECOMMENDED_MIN_UNIQUE_QUERIES_FOR_VALID_COMPARISON`. -/
def recommendedMinUniqueQueries : ℕ := 10

/-- `comparison_statistically_reliable_by_effective_sample`. -/
def statisticallyReliableByEffectiveSample (effective : ℕ) : Bool :=
  decide (recommendedMinUniqueQueries ≤ effective)

/-- `_comparison_confidence_fields`. -/
def comparisonConfidenceFields (rows : List ConfigComparisonMetrics) :
    ComparisonConfidenceFields :=
  match rows with
  | [] =>
      { comparisonConfidence := .low
        comparisonStatisticallyReliable := false
        minTracedRunsAcrossConfigs := 0
        recommendedMinTracedRuns := recommendedMinTracedRuns
        uniqueQueriesCompared := 0
        effectiveSampleSize := 0
        recommendedMinUniqueQueries := recommendedMinUniqueQueries }
  | first :: rest =>
      let effective := rest.foldl (fun m r => min m r.uniqueQueryCount) first.uniqueQueryCount
      { comparisonConfidence := confidenceTierFromEffectiveSampleSize effective
        comparisonStatisticallyReliable := statisticallyReliableByEffectiveSample effective
        minTracedRunsAcrossConfigs := rest.foldl (fun m r => min m r.tracedRuns) first.tracedRuns
        recommendedMinTracedRuns := recommendedMinTracedRuns
        uniqueQueriesCompared := effective
        effectiveSampleSize := effective
        recommendedMinUniqueQueries := recommendedMinUniqueQueries }

/-! ## The comparison -/

/-- The buckets of a response, in the order in which they are checked. -/
def ComparedBuckets.toList : ComparedBuckets → List EvaluatorType
  | one bucket => [bucket]
  | both => [.heuristic, .llm]

/-- The minimum of traced runs that is enforced. -/
def effectiveMinTracedRuns (request : ComparisonRequest) : Option ℤ :=
  if request.strictComparison then
    some (max 2 (match request.minTracedRuns with
      | some minimum => if minimum = 0 then 2 else minimum
      | none => 2))
  else request.minTracedRuns

/-- The checks of `_enforce_integrity`, bucket after bucket. -/
def enforceAll [Sql.DoubleAggregates] (request : ComparisonRequest) (pids : List ℕ)
    (base : List StoredRun) : List EvaluatorType → Except String Unit
  | [] => .ok ()
  | bucket :: rest => do
      enforceIntegrity pids (Database.buildMetricsList bucket base pids)
        (Database.queryCaseSet base) (effectiveMinTracedRuns request) request.strictComparison
      enforceAll request pids base rest

/-- `compare_pipeline_configs`. -/
def comparePipelineConfigs [Sql.DoubleAggregates] (db : Database) (request : ComparisonRequest) :
    Except String ConfigComparisonResponse :=
  let pids := request.pipelineConfigIds.eraseDups
  if pids.isEmpty then .error "pipeline_config_ids must not be empty"
  else if maxConfigIds < pids.length then
    .error ("at most " ++ toString maxConfigIds ++ " pipeline_config_ids allowed")
  else if request.strictComparison && request.datasetId.isNone then
    .error "strict_comparison requires dataset_id"
  else do
    let base := db.runBase pids request.datasetId
      (resolveIncludeBenchmarkRealism request.datasetId request.includeBenchmarkRealism)
    let rows := fun bucket => Database.buildMetricsList bucket base pids
    enforceAll request pids base request.evaluatorType.toList
    return {
      evaluatorType := request.evaluatorType
      pipelineConfigIds := pids
      buckets := request.evaluatorType.toList.map fun bucket =>
        { bucket := bucket
          configs := rows bucket
          scoreComparison := buildConfigScoreComparison (rows bucket) true }
      datasetId := request.datasetId
      strictComparisonApplied := request.strictComparison
      minTracedRunsEnforced := effectiveMinTracedRuns request
      confidence := comparisonConfidenceFields (request.evaluatorType.toList.flatMap rows) }

/-! ## What a strict comparison compares -/

/-- The query cases of some runs. -/
def queryCaseIds (runs : List StoredRun) : Set ℕ := {id | ∃ r ∈ runs, r.queryCaseId = id}

namespace Database

variable (db : Database)

/-- The traced runs of a config in a dataset: those with a retrieval row. -/
def tracedRuns (datasetId pid : ℕ) : List StoredRun :=
  db.runs.filter fun r => decide (r.pipelineConfigId = pid) && !r.run.retrievalResults.isEmpty &&
    db.dashboardAggregateRunScope (some datasetId) r

/-- The traced runs whose evaluation row contributes to the averages of a bucket. -/
def contributingRuns (bucket : EvaluatorType) (datasetId pid : ℕ) : List StoredRun :=
  (db.tracedRuns datasetId pid).filter fun r => !(bucketRows bucket r).isEmpty

/-- The contributing runs of the configs are on the same query cases. -/
def SameContributingQueries (bucket : EvaluatorType) (datasetId : ℕ) (pids : List ℕ) : Prop :=
  ∀ p ∈ pids, ∀ q ∈ pids,
    queryCaseIds (db.contributingRuns bucket datasetId p) =
      queryCaseIds (db.contributingRuns bucket datasetId q)

/-- No query case is evaluated in the bucket for one config and only traced for
another. -/
def EvaluatedAlike (bucket : EvaluatorType) (datasetId : ℕ) (pids : List ℕ) : Prop :=
  ∀ p ∈ pids, ∀ q ∈ pids, ∀ id ∈ queryCaseIds (db.contributingRuns bucket datasetId p),
    id ∈ queryCaseIds (db.tracedRuns datasetId q) →
      id ∈ queryCaseIds (db.contributingRuns bucket datasetId q)

end Database

section

variable {db : Database} {request : ComparisonRequest} {response : ConfigComparisonResponse}

/-- The base of a comparison within a dataset, config by config. -/
theorem group_runBase {pids : List ℕ} {datasetId pid : ℕ} (hpid : pid ∈ pids) :
    Sql.group StoredRun.pipelineConfigId (db.runBase pids (some datasetId) true) pid =
      db.tracedRuns datasetId pid := by
  rw [Database.runBase, Sql.map_fst_filter_join, Sql.group, List.filter_filter,
    Database.tracedRuns]
  · refine List.filter_congr fun r hr => ?_
    obtain ⟨qc, hqc, hmem, hid⟩ := Database.queryCaseOf_eq hr
    have hscope : db.dashboardAggregateRunScope (some datasetId) r =
        decide (qc.datasetId = datasetId) := by
      rw [Database.dashboardAggregateRunScope, decide_eq_decide, ← hid]
      constructor
      · -- The subquery finds a query case of that id, and there is only one.
        intro hin
        obtain ⟨other, hother, hsame⟩ := List.mem_map.mp hin
        obtain ⟨hin, hdataset⟩ := List.mem_filter.mp hother
        have heq : other = qc :=
          List.inj_on_of_nodup_map db.queryCases_unique hin hmem hsame
        rw [← heq]
        simpa using hdataset
      · intro hdataset
        exact List.mem_map_of_mem (List.mem_filter.mpr ⟨hmem, by simpa using hdataset⟩)
    rw [hqc, hscope]
    by_cases hconfig : r.pipelineConfigId = pid
    · simp [Database.comparisonScope, hconfig, hpid]
    · simp [hconfig]
  · intro r hr
    obtain ⟨qc, hqc, -⟩ := Database.queryCaseOf_eq hr
    exact ⟨qc, hqc⟩

/-- What the checks of a strict comparison let through. -/
theorem enforceIntegrity_eq_ok {pids : List ℕ} {rows : List ConfigComparisonMetrics}
    {querySets : ℕ → List ℕ} {minimum : ℤ}
    (h : enforceIntegrity pids rows querySets (some minimum) true = .ok ()) :
    (∀ p ∈ pids, ∀ q ∈ pids, querySets p = querySets q) ∧
      tooFewTracedRuns pids rows minimum = none := by
  rw [enforceIntegrity] at h
  split at h
  · cases h
  · rename_i hsame
    constructor
    · intro p hp q hq
      by_cases hpq : p = q
      · rw [hpq]
      -- Two different configs, so the check was made: there is one query set at most.
      · have htwo : 2 ≤ pids.length := by
          by_contra hlt
          obtain ⟨only, rfl⟩ : ∃ only, pids = [only] := by
            refine List.length_eq_one_iff.mp ?_
            have := List.length_pos_of_mem hp
            omega
          exact hpq ((List.mem_singleton.mp hp).trans (List.mem_singleton.mp hq).symm)
        have hone : (pids.map querySets).dedup.length ≤ 1 := by
          simpa [htwo] using hsame
        have hp' : querySets p ∈ (pids.map querySets).dedup :=
          List.mem_dedup.mpr (List.mem_map_of_mem hp)
        have hq' : querySets q ∈ (pids.map querySets).dedup :=
          List.mem_dedup.mpr (List.mem_map_of_mem hq)
        obtain ⟨only, honly⟩ := List.length_eq_one_iff.mp
          (le_antisymm hone (List.length_pos_of_mem hp'))
        rw [honly, List.mem_singleton] at hp' hq'
        rw [hp', hq']
    · cases hfew : tooFewTracedRuns pids rows minimum with
      | none => rfl
      | some few => simp [hfew] at h

/-- Members of a query set. -/
theorem mem_queryCaseSet {base : List StoredRun} {pid id : ℕ} :
    id ∈ Database.queryCaseSet base pid ↔
      id ∈ queryCaseIds (Sql.group StoredRun.pipelineConfigId base pid) := by
  rw [Database.queryCaseSet, List.mem_insertionSort, List.mem_dedup, List.mem_map, queryCaseIds]
  rfl

/-- Whichever minimum is asked for, a strict comparison enforces at least two. -/
theorem effectiveMinTracedRuns_of_strict (hstrict : request.strictComparison = true) :
    ∃ minimum, effectiveMinTracedRuns request = some minimum ∧ 2 ≤ minimum := by
  rw [effectiveMinTracedRuns, if_pos hstrict]
  exact ⟨_, rfl, le_max_left _ _⟩

/-- Configs that are traced on the same query cases and evaluated alike contribute the
same query cases. -/
theorem sameContributingQueries_of_evaluatedAlike {bucket : EvaluatorType} {datasetId : ℕ}
    {pids : List ℕ}
    (htraced : ∀ p ∈ pids, ∀ q ∈ pids,
      queryCaseIds (db.tracedRuns datasetId p) = queryCaseIds (db.tracedRuns datasetId q))
    (halike : db.EvaluatedAlike bucket datasetId pids) :
    db.SameContributingQueries bucket datasetId pids := by
  have hsubset : ∀ p ∈ pids, ∀ q ∈ pids,
      queryCaseIds (db.contributingRuns bucket datasetId p) ⊆
        queryCaseIds (db.contributingRuns bucket datasetId q) := by
    intro p hp q hq id hid
    refine halike p hp q hq id hid ?_
    rw [← htraced p hp q hq]
    obtain ⟨r, hr, hcase⟩ := hid
    exact ⟨r, (List.mem_filter.mp hr).1, hcase⟩
  intro p hp q hq
  exact Set.Subset.antisymm (hsubset p hp q hq) (hsubset q hq p hp)

variable [Sql.DoubleAggregates]

/-- The rows of the metrics: one for each config, which reports the runs of its group. -/
theorem mem_buildMetricsList {bucket : EvaluatorType} {base : List StoredRun} {pids : List ℕ}
    {m : ConfigComparisonMetrics} (hm : m ∈ Database.buildMetricsList bucket base pids) :
    m.pipelineConfigId ∈ pids ∧
      m.tracedRuns = (Sql.group StoredRun.pipelineConfigId base m.pipelineConfigId).length := by
  obtain ⟨pid, hpid, rfl⟩ := List.mem_map.mp hm
  by_cases hempty : (Sql.group StoredRun.pipelineConfigId base pid).isEmpty
  · rw [if_pos hempty]
    exact ⟨hpid, by simp [List.isEmpty_iff.mp hempty]⟩
  · rw [if_neg hempty]
    exact ⟨hpid, rfl⟩

/-- The traced runs that the checks read for a config. -/
theorem tracedRuns_buildMetricsList {bucket : EvaluatorType} {base : List StoredRun}
    {pids : List ℕ} {pid : ℕ} (hpid : pid ∈ pids) :
    (((Database.buildMetricsList bucket base pids).find? fun m => m.pipelineConfigId = pid).map
        ConfigComparisonMetrics.tracedRuns) =
      some (Sql.group StoredRun.pipelineConfigId base pid).length := by
  have hsome : ((Database.buildMetricsList bucket base pids).find?
      fun m => m.pipelineConfigId = pid).isSome := by
    refine List.find?_isSome.mpr ⟨_, List.mem_map_of_mem hpid, ?_⟩
    split <;> simp [Database.configMetrics]
  obtain ⟨m, hm⟩ := Option.isSome_iff_exists.mp hsome
  have hid : m.pipelineConfigId = pid := by simpa using List.find?_some hm
  rw [hm, Option.map_some, (mem_buildMetricsList (List.mem_of_find?_eq_some hm)).2, hid]

/-- A config that is not among the ones with too few traced runs. -/
theorem le_tracedRuns {bucket : EvaluatorType} {base : List StoredRun} {pids : List ℕ}
    {minimum : ℤ}
    (h : tooFewTracedRuns pids (Database.buildMetricsList bucket base pids) minimum = none)
    {pid : ℕ} (hpid : pid ∈ pids) :
    minimum ≤ (Sql.group StoredRun.pipelineConfigId base pid).length := by
  have hnot := List.find?_eq_none.mp h _ (List.mem_map_of_mem hpid)
  rw [tracedRuns_buildMetricsList hpid] at hnot
  simpa using hnot

/-- The checks of all buckets are those of each. -/
theorem enforceAll_eq_ok {pids : List ℕ} {base : List StoredRun} {buckets : List EvaluatorType}
    (h : enforceAll request pids base buckets = .ok ()) {bucket : EvaluatorType}
    (hbucket : bucket ∈ buckets) :
    enforceIntegrity pids (Database.buildMetricsList bucket base pids)
      (Database.queryCaseSet base) (effectiveMinTracedRuns request) request.strictComparison =
        .ok () := by
  induction buckets with
  | nil => cases hbucket
  | cons first rest ih =>
      rw [enforceAll] at h
      cases hfirst : enforceIntegrity pids (Database.buildMetricsList first base pids)
          (Database.queryCaseSet base) (effectiveMinTracedRuns request)
          request.strictComparison with
      | error e =>
          rw [hfirst] at h
          cases h
      | ok checked =>
          rw [hfirst] at h
          rcases List.mem_cons.mp hbucket with rfl | hrest
          · exact hfirst
          · exact ih h hrest

/-- A comparison that returns has passed its checks and fills in its answer. -/
theorem comparePipelineConfigs_ok (h : comparePipelineConfigs db request = .ok response) :
    let pids := request.pipelineConfigIds.eraseDups
    let base := db.runBase pids request.datasetId
      (resolveIncludeBenchmarkRealism request.datasetId request.includeBenchmarkRealism)
    let rows := fun bucket => Database.buildMetricsList bucket base pids
    ¬(request.strictComparison && request.datasetId.isNone) = true ∧
      enforceAll request pids base request.evaluatorType.toList = .ok () ∧
      response =
        { evaluatorType := request.evaluatorType
          pipelineConfigIds := pids
          buckets := request.evaluatorType.toList.map fun bucket =>
            { bucket := bucket
              configs := rows bucket
              scoreComparison := buildConfigScoreComparison (rows bucket) true }
          datasetId := request.datasetId
          strictComparisonApplied := request.strictComparison
          minTracedRunsEnforced := effectiveMinTracedRuns request
          confidence :=
            comparisonConfidenceFields (request.evaluatorType.toList.flatMap rows) } := by
  intro pids base rows
  rw [comparePipelineConfigs] at h
  split_ifs at h with hempty hmany hdataset
  cases hchecks : enforceAll request pids base request.evaluatorType.toList with
  | error e =>
      simp only [base, pids, hchecks] at h
      cases h
  | ok checked =>
      simp only [base, pids, hchecks] at h
      exact ⟨hdataset, rfl, (Except.ok.inj h).symm⟩

/-- A comparison that returns: its checks, and where its answer comes from. -/
theorem comparePipelineConfigs_eq_ok (h : comparePipelineConfigs db request = .ok response) :
    (request.strictComparison = true → ∃ datasetId, request.datasetId = some datasetId) ∧
      response.pipelineConfigIds = request.pipelineConfigIds.eraseDups ∧
      response.minTracedRunsEnforced = effectiveMinTracedRuns request ∧
      response.confidence =
        comparisonConfidenceFields (response.buckets.flatMap ComparedBucket.configs) ∧
      ∃ base, base = db.runBase response.pipelineConfigIds request.datasetId
          (resolveIncludeBenchmarkRealism request.datasetId request.includeBenchmarkRealism) ∧
        enforceAll request response.pipelineConfigIds base request.evaluatorType.toList = .ok () ∧
        response.buckets.map ComparedBucket.bucket = request.evaluatorType.toList ∧
        ∀ compared ∈ response.buckets, compared.configs =
          Database.buildMetricsList compared.bucket base response.pipelineConfigIds := by
  obtain ⟨hdataset, hchecks, rfl⟩ := comparePipelineConfigs_ok h
  refine ⟨fun hstrict => ?_, rfl, rfl, ?_, _, rfl, hchecks, ?_, ?_⟩
  · cases hid : request.datasetId with
    | none => simp [hstrict, hid] at hdataset
    | some datasetId => exact ⟨datasetId, rfl⟩
  · rw [List.flatMap_map]
  · rw [List.map_map]
    exact List.map_id _
  · intro compared hcompared
    obtain ⟨bucket, -, rfl⟩ := List.mem_map.mp hcompared
    rfl

/-- What a strict comparison that returns has checked, in the terms of the database: the
traced runs of its configs are enough and on the same query cases. -/
theorem traced_of_strict (hstrict : request.strictComparison = true)
    (h : comparePipelineConfigs db request = .ok response) :
    ∃ datasetId minimum, request.datasetId = some datasetId ∧ 2 ≤ minimum ∧
      response.minTracedRunsEnforced = some minimum ∧
      (∀ pid ∈ response.pipelineConfigIds,
        minimum ≤ ((db.tracedRuns datasetId pid).length : ℤ)) ∧
      (∀ p ∈ response.pipelineConfigIds, ∀ q ∈ response.pipelineConfigIds,
        queryCaseIds (db.tracedRuns datasetId p) = queryCaseIds (db.tracedRuns datasetId q)) ∧
      ∀ compared ∈ response.buckets, ∀ m ∈ compared.configs,
        m.tracedRuns = (db.tracedRuns datasetId m.pipelineConfigId).length := by
  obtain ⟨hscoped, hids, hminimum, -, base, hbase, hchecks, -, hconfigs⟩ :=
    comparePipelineConfigs_eq_ok h
  obtain ⟨datasetId, hdataset⟩ := hscoped hstrict
  obtain ⟨minimum, henforced, htwo⟩ := effectiveMinTracedRuns_of_strict hstrict
  -- Within a dataset the realism tag is not looked at.
  have hgroup : ∀ pid ∈ response.pipelineConfigIds,
      Sql.group StoredRun.pipelineConfigId base pid = db.tracedRuns datasetId pid := by
    intro pid hpid
    have hrealism : resolveIncludeBenchmarkRealism request.datasetId
        request.includeBenchmarkRealism = true := by
      rw [hdataset, resolveIncludeBenchmarkRealism]
      exact Bool.or_true _
    rw [hbase, hrealism, hdataset]
    exact group_runBase hpid
  -- One bucket is enough: the checks of every bucket read the same runs.
  obtain ⟨bucket, hbucket⟩ : ∃ bucket, bucket ∈ request.evaluatorType.toList := by
    cases request.evaluatorType with
    | one bucket => exact ⟨bucket, List.mem_singleton.mpr rfl⟩
    | both => exact ⟨.heuristic, List.mem_cons_self⟩
  have hintegrity := enforceAll_eq_ok hchecks hbucket
  rw [henforced, hstrict] at hintegrity
  obtain ⟨hsame, hfew⟩ := enforceIntegrity_eq_ok hintegrity
  refine ⟨datasetId, minimum, hdataset, htwo, hminimum.trans henforced, ?_, ?_, ?_⟩
  · intro pid hpid
    rw [← hgroup pid hpid]
    exact le_tracedRuns hfew hpid
  · intro p hp q hq
    ext id
    rw [← hgroup p hp, ← hgroup q hq, ← mem_queryCaseSet, ← mem_queryCaseSet, hsame p hp q hq]
  · intro compared hcompared m hm
    rw [hconfigs compared hcompared] at hm
    obtain ⟨hpid, htraced⟩ := mem_buildMetricsList hm
    rw [htraced, hgroup _ hpid]

/-- **What a strict comparison compares.**  In each bucket every config has the enforced
number of traced runs, and when the query cases are evaluated alike the configs are
averaged over the same ones. -/
theorem strict_comparison_compares (hstrict : request.strictComparison = true)
    (h : comparePipelineConfigs db request = .ok response) :
    ∃ datasetId minimum, request.datasetId = some datasetId ∧ 2 ≤ minimum ∧
      response.minTracedRunsEnforced = some minimum ∧
      (∀ pid ∈ response.pipelineConfigIds,
        minimum ≤ ((db.tracedRuns datasetId pid).length : ℤ)) ∧
      ∀ compared ∈ response.buckets,
        (∀ m ∈ compared.configs,
          m.tracedRuns = (db.tracedRuns datasetId m.pipelineConfigId).length) ∧
        (db.EvaluatedAlike compared.bucket datasetId response.pipelineConfigIds →
          db.SameContributingQueries compared.bucket datasetId response.pipelineConfigIds) := by
  obtain ⟨datasetId, minimum, hdataset, htwo, henforced, henough, hsame, hrows⟩ :=
    traced_of_strict hstrict h
  refine ⟨datasetId, minimum, hdataset, htwo, henforced, henough, ?_⟩
  intro compared hcompared
  exact ⟨hrows compared hcompared, sameContributingQueries_of_evaluatedAlike hsame⟩

end

/-! ## Two configs, evaluated alike and crosswise -/

section

variable {db : Database} {response : ConfigComparisonResponse}

/-- A completed run of a benchmark with one retrieved chunk. -/
def benchmarkRun (id queryCaseId pipelineConfigId : ℕ) (usedLlmJudge : Bool) : StoredRun where
  run :=
    { createRun id .completed none with
      retrievalResults := [{ chunkId := 1, rank := 1, score := 1 }]
      evaluationResults :=
        [{ faithfulness := none
           completeness := some 1
           retrievalRelevance := some 1
           contextCoverage := some 1
           groundedness := none
           failureType := some "NO_FAILURE"
           usedLlmJudge := usedLlmJudge
           costUsd := none
           metadataJson := some
            [("evaluator_type", .str (if usedLlmJudge then "llm" else "heuristic"))] }] }
  queryCaseId := queryCaseId
  pipelineConfigId := pipelineConfigId
  createdAt := id

/-- Two configs, each run once on the two query cases of a dataset. -/
def benchmarkDatabase (usedLlmJudge : ℕ → Bool) : Database where
  queryCases :=
    [{ id := 1, datasetId := 1, queryText := "first" },
      { id := 2, datasetId := 1, queryText := "second" }]
  runs :=
    [benchmarkRun 1 1 1 (usedLlmJudge 1), benchmarkRun 2 2 1 (usedLlmJudge 2),
      benchmarkRun 3 1 2 (usedLlmJudge 3), benchmarkRun 4 2 2 (usedLlmJudge 4)]
  queryCases_unique := by decide
  runs_unique := by simp [benchmarkRun, createRun]
  queryCase_exists := by simp [benchmarkRun]
  generation_unique := by simp [benchmarkRun, createRun]
  evaluation_unique := by simp [benchmarkRun]

/-- The strict comparison of the two configs in the heuristic bucket. -/
def benchmarkRequest : ComparisonRequest where
  pipelineConfigIds := [1, 2]
  evaluatorType := .one .heuristic
  datasetId := some 1
  minTracedRuns := none
  strictComparison := true
  includeBenchmarkRealism := false

/-- The two configs with every run in the heuristic bucket. -/
def alikeDatabase : Database := benchmarkDatabase fun _ => false

/-- Each query case is judged for one config and heuristic for the other. -/
def crosswiseDatabase : Database := benchmarkDatabase fun id => decide (id = 2 ∨ id = 3)

theorem exists_eq_ok_of_isOk {ε α : Type} {result : Except ε α} (h : result.isOk = true) :
    ∃ a, result = .ok a := by
  cases result with
  | error e => exact Bool.noConfusion h
  | ok a => exact ⟨a, rfl⟩

/-- The comparison of `benchmarkRequest`, when it returns. -/
theorem benchmarkRequest_eq_ok [Sql.DoubleAggregates]
    (h : comparePipelineConfigs db benchmarkRequest = .ok response) :
    response.pipelineConfigIds = [1, 2] ∧ response.minTracedRunsEnforced = some 2 ∧
      ∃ compared ∈ response.buckets, compared.bucket = .heuristic := by
  obtain ⟨-, hids, hminimum, -, base, -, -, hbuckets, -⟩ := comparePipelineConfigs_eq_ok h
  refine ⟨hids, hminimum, List.mem_map.mp ?_⟩
  rw [hbuckets]
  exact List.mem_singleton.mpr rfl

theorem strict_comparison_compares_alike :
    ∃ response, comparePipelineConfigs alikeDatabase benchmarkRequest = .ok response ∧
      (∀ pid ∈ [1, 2], 2 ≤ ((alikeDatabase.tracedRuns 1 pid).length : ℤ)) ∧
      alikeDatabase.SameContributingQueries .heuristic 1 [1, 2] := by
  obtain ⟨response, h⟩ := exists_eq_ok_of_isOk
    (show (comparePipelineConfigs alikeDatabase benchmarkRequest).isOk = true by decide)
  obtain ⟨hids, hminimum, compared, hmem, hbucket⟩ := benchmarkRequest_eq_ok h
  obtain ⟨datasetId, minimum, hdataset, htwo, henforced, henough, hcompared⟩ :=
    strict_comparison_compares rfl h
  cases hdataset
  rw [hids] at henough hcompared
  refine ⟨response, h, fun pid hpid => htwo.trans (henough pid hpid), ?_⟩
  have hsame := (hcompared compared hmem).2
  rw [hbucket] at hsame
  refine hsame fun p _ q _ id _ htraced => ?_
  have hall : ∀ r ∈ alikeDatabase.runs, (!(Database.bucketRows .heuristic r).isEmpty) = true := by
    decide
  have hcontributing : alikeDatabase.contributingRuns .heuristic 1 q =
      alikeDatabase.tracedRuns 1 q :=
    List.filter_eq_self.mpr fun r hr => hall r (List.mem_filter.mp hr).1
  rw [hcontributing]
  exact htraced

/-- The comparison returns, with one contributing run for each config and each on a
query case of its own. -/
theorem crosswise_comparison_returns :
    ∃ response, comparePipelineConfigs crosswiseDatabase benchmarkRequest = .ok response ∧
      response.minTracedRunsEnforced = some 2 ∧
      ∃ compared ∈ response.buckets, compared.bucket = .heuristic ∧
        ¬crosswiseDatabase.SameContributingQueries .heuristic 1 response.pipelineConfigIds ∧
        ∀ pid ∈ response.pipelineConfigIds,
          (crosswiseDatabase.contributingRuns .heuristic 1 pid).length < 2 := by
  obtain ⟨response, h⟩ := exists_eq_ok_of_isOk
    (show (comparePipelineConfigs crosswiseDatabase benchmarkRequest).isOk = true by decide)
  obtain ⟨hids, hminimum, compared, hcompared, hbucket⟩ := benchmarkRequest_eq_ok h
  refine ⟨response, h, hminimum, compared, hcompared, hbucket, ?_, ?_⟩
  · rw [hids]
    intro hsame
    have hfirst : 1 ∈ queryCaseIds (crosswiseDatabase.contributingRuns .heuristic 1 1) :=
      ⟨benchmarkRun 1 1 1 false, List.mem_cons_self, rfl⟩
    rw [hsame 1 (by decide) 2 (by decide)] at hfirst
    obtain ⟨r, hr, hcase⟩ := hfirst
    have hall : ∀ r ∈ crosswiseDatabase.contributingRuns .heuristic 1 2, r.queryCaseId = 2 := by
      decide
    have htwo := hall r hr
    omega
  · rw [hids]
    decide

end

end ContextLens
