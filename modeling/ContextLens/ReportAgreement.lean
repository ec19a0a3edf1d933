import ContextLens.DashboardAnalytics
import ContextLens.MetricsReport

/-!
# The metrics report and the dashboard

`app/metrics/aggregate.py` writes its figures from SQL text over one connection,
`app/services/dashboard_summary.py` and `app/services/dashboard_analytics.py` from ORM
selects over a session.  They share no query, only the condition on tagged runs and the
buckets; the report has no dataset, so what it should agree with is the dashboard of all
datasets.

Two figures differ.  A *traced* run of the report has retrieval rows too, and a failure label
of the dashboard is counted whether or not its row is in a bucket.  `ReportDifference` says
by how much; every other shared figure is the same.
-/

namespace ContextLens

open Foundations

/-! ## The shared figures -/

/-- A run that the dashboard counts as traced and the report does not. -/
def StoredRun.evaluatedOnly (r : StoredRun) : Bool :=
  r.run.retrievalResults.isEmpty && !r.evaluations.isEmpty

/-- The rows in the scope with a label and in neither bucket. -/
def Database.unbucketedLabels (db : Database) (label : String) : ℕ :=
  db.organicEvaluations.countP fun x => !x.2.classified && hasLabel label x

/-- The report says what the dashboard of all datasets says. -/
structure AggregateMetrics.AgreesWith (m : AggregateMetrics) (summary : DashboardSummary)
    (latencies : LatencyDistributionSection) : Prop where
  totalQueries : m.totalQueries = summary.scale.totalQueries
  configsTested : m.configsTested = summary.scale.configsTested
  llmRuns : m.evaluationRowsOf .llm = summary.evaluatorCounts.llmRuns
  heuristicRuns : m.evaluationRowsOf .heuristic = summary.evaluatorCounts.heuristicRuns
  retrieval : m.retrievalLatency = ⟨latencies.retrieval.avgMs, latencies.retrieval.p95Ms⟩
  generation : m.generationLatency = ⟨latencies.generation.avgMs, latencies.generation.p95Ms⟩
  evaluation : m.evaluationLatency = ⟨latencies.evaluation.avgMs, latencies.evaluation.p95Ms⟩
  total : m.totalLatency = ⟨latencies.total.avgMs, latencies.total.p95Ms⟩
  llmCost : m.avgEvaluationCostPerRunUsdOf .llm = summary.cost.avgCostUsdPerLlmRun

/-- By how much the two other figures differ. -/
structure AggregateMetrics.ReportDifference (m : AggregateMetrics) (summary : DashboardSummary)
    (db : Database) : Prop where
  traced : summary.scale.totalTracedRuns =
    m.totalTracedRuns + (db.organicRuns.filter StoredRun.evaluatedOnly).length
  failures : ∀ label, countOf summary.failureTypeCounts label =
    countOf (m.failureTypeCountsOf .llm) label + countOf (m.failureTypeCountsOf .heuristic) label +
      if label = "" then 0 else db.unbucketedLabels label

section

variable {db : Database}

/-! ## The scope -/

theorem scopedRuns_none : db.scopedRuns none = db.organicRuns := rfl

/-! ## The counts -/

/-- A run has one evaluation row at most, so the rows of a bucket are its runs. -/
theorem length_organicBucket (bucket : EvaluatorType) :
    (db.organicBucket bucket).length = db.bucketRuns bucket none := by
  have hnodup : ((db.organicBucket bucket).map fun x => x.1.run.id).Nodup := by
    refine (Sql.nodup_map_join db.runs_unique db.evaluation_unique).sublist ?_
    exact (List.filter_sublist.trans List.filter_sublist).map _
  have hrows : db.bucketRuns bucket none =
      Sql.countDistinct (fun x => x.1.run.id) (db.organicBucket bucket) := by
    unfold Database.bucketRuns Database.organicBucket Database.organicEvaluations
    rw [List.filter_filter]
    rfl
  rw [hrows, Sql.countDistinct, hnodup.dedup, List.length_map]

/-- The traced runs of the dashboard are those of the report and those without retrieval
rows. -/
theorem totalTracedRuns_eq :
    (db.scaleMetrics none).totalTracedRuns =
      db.tracedRunCount + (db.organicRuns.filter StoredRun.evaluatedOnly).length := by
  unfold Database.scaleMetrics Database.tracedRunCount
  rw [← List.countP_eq_length_filter, ← List.countP_eq_length_filter,
    ← List.countP_eq_length_filter]
  refine (countP_add_countP fun r _ => ?_).symm
  unfold StoredRun.evaluatedOnly
  cases r.run.retrievalResults.isEmpty <;> cases r.evaluations.isEmpty <;> rfl

/-! ## The latencies -/

/-- The statistics of a latency are those of its column, with or without its `NULL`s. -/
theorem latencyStats_eq (values : List (Option ℕ)) :
    latencyStats values =
      { avg := Sql.avg (values.map fun value => value.map fun n : ℕ => (n : ℚ))
        p95 := Sql.percentileCont (95 / 100)
          (values.map fun value => value.map fun n : ℕ => (n : ℚ)) } := by
  have hstored : (values.map fun value => value.map fun n : ℕ => (n : ℚ)).reduceOption =
      values.reduceOption.map fun n : ℕ => (n : ℚ) := List.reduceOption_map
  unfold latencyStats
  split_ifs with hnone
  · rw [List.length_eq_zero_iff] at hnone
    rw [hnone, List.map_nil] at hstored
    rw [Sql.avg_eq, if_pos hstored, Sql.percentileCont_eq_none hstored]
  · have hsame : ((values.reduceOption.flatMap fun n : ℕ => [(n : ℚ)]).map some).reduceOption =
        (values.map fun value => value.map fun n : ℕ => (n : ℚ)).reduceOption := by
      rw [hstored, Sql.reduceOption_map_some, ← List.map_eq_flatMap]
    exact congrArg₂ LatencyStats.mk (Sql.avg_congr hsame) (Sql.percentileCont_congr hsame)

theorem avgMs_eq (column : Run → Option ℕ) :
    LatencyStats.mk (db.getPhaseLatencyDistribution none column).avgMs
      (db.getPhaseLatencyDistribution none column).p95Ms = db.latencyOf column := by
  rw [Database.latencyOf, latencyStats_eq, List.map_map]
  unfold Database.getPhaseLatencyDistribution
  dsimp only
  split_ifs with hnone
  · have hempty : (List.map (fun r : StoredRun => (column r.run).map fun n : ℕ => (n : ℚ))
        (db.scopedRuns none)).reduceOption = [] := by
      rw [← List.length_eq_zero_iff, List.reduceOption_length_eq]
      exact hnone
    have hrows : (fun value : Option ℕ => value.map fun n : ℕ => (n : ℚ)) ∘
        (fun r : StoredRun => column r.run) = fun r => (column r.run).map fun n : ℕ => (n : ℚ) :=
      rfl
    rw [← scopedRuns_none, hrows, Sql.avg_eq, if_pos hempty, Sql.percentileCont_eq_none hempty]
  · rfl

/-! ## The cost of a run with the judge -/

theorem scoreAverage_eq (values : List (Option ℚ)) : scoreAverage values = Sql.avg values := by
  unfold scoreAverage
  split_ifs with hnone
  · rw [Sql.avg_eq, if_pos (List.length_eq_zero_iff.mp hnone)]
  · exact Sql.avg_congr (Sql.reduceOption_map_some _)

/-- One row to a run, so the sum of a run is the cost of its row. -/
theorem llmCostPerRun_eq (keeps : StoredRun → Bool) :
    db.llmCostPerRun none keeps =
      ((db.organicEvaluations.filter fun x =>
        x.2.costUsd.isSome && (sqlBucket .llm x.2).holds && keeps x.1).map fun x =>
          x.2.costUsd) := by
  let rows := db.organicEvaluations.filter fun x =>
    x.2.costUsd.isSome && (sqlBucket .llm x.2).holds && keeps x.1
  have hnodup : (rows.map fun x => x.1.run.id).Nodup := by
    refine (Sql.nodup_map_join db.runs_unique db.evaluation_unique).sublist ?_
    exact (List.filter_sublist.trans List.filter_sublist).map _
  show (Sql.groupKeys (fun x => x.1.run.id) rows).map (fun runId =>
    Sql.sum ((Sql.group (fun x => x.1.run.id) rows runId).map fun x => x.2.costUsd)) =
      rows.map fun x => x.2.costUsd
  rw [Sql.groupKeys, hnodup.dedup, List.map_map]
  refine List.map_congr_left fun x hx => ?_
  obtain ⟨hsome, -⟩ := Bool.and_eq_true .. ▸ (Bool.and_eq_true .. ▸ (List.mem_filter.mp hx).2).1
  obtain ⟨cost, hcost⟩ := Option.isSome_iff_exists.mp hsome
  have hgroup : Sql.group (fun x => x.1.run.id) rows x.1.run.id = [x] :=
    Sql.filter_key_eq hnodup hx
  rw [Function.comp_apply, hgroup, List.map_singleton, hcost]
  show some ([cost].sum) = some cost
  rw [List.sum_singleton]

theorem avgCostUsdPerLlmRun_eq :
    (db.costSummary none).avgCostUsdPerLlmRun = db.bucketAverage EvaluationResult.costUsd .llm := by
  show Sql.avg (db.llmCostPerRun none fun _ => true) = _
  rw [Database.bucketAverage, scoreAverage_eq, llmCostPerRun_eq]
  refine Sql.avg_congr ?_
  rw [Database.organicBucket]
  -- The rows without a cost are no values of the average.
  have hdrop : ∀ rows : List EvaluatedRun,
      ((rows.filter fun x => x.2.costUsd.isSome && (sqlBucket .llm x.2).holds && true).map
        fun x => x.2.costUsd).reduceOption =
      ((rows.filter fun x => (sqlBucket .llm x.2).holds).map
        fun x => x.2.costUsd).reduceOption := by
    intro rows
    induction rows with
    | nil => rfl
    | cons x rows ih =>
        rw [List.filter_cons, List.filter_cons]
        cases hbucket : (sqlBucket .llm x.2).holds with
        | false => simpa [hbucket] using ih
        | true =>
            cases hcost : x.2.costUsd with
            | none => simpa [hcost, List.reduceOption_cons_of_none] using ih
            | some cost => simpa [hcost, List.reduceOption_cons_of_some] using ih
  exact hdrop _

/-! ## The failure labels -/

theorem failureTypeCounts_eq :
    (db.dashboardSummary none).failureTypeCounts =
      labelCounts (db.organicEvaluations.map fun x => x.2.failureType) := by
  have hstored : db.scopedFailureTypes none =
      (db.organicEvaluations.map fun x => x.2.failureType).reduceOption.filter
        fun label => label ≠ "" := by
    unfold Database.scopedFailureTypes
    rw [List.reduceOption, List.filterMap_map]
    rfl
  unfold Database.dashboardSummary labelCounts
  rw [hstored]

/-- The dashboard counts the labels of the rows that the buckets have, and of the others. -/
theorem countOf_failureTypeCounts (label : String) :
    countOf (db.dashboardSummary none).failureTypeCounts label =
      countOf (db.failureCountsForBucket .llm) label +
        countOf (db.failureCountsForBucket .heuristic) label +
          if label = "" then 0 else db.unbucketedLabels label := by
  rw [failureTypeCounts_eq, countOf_labelCounts]
  by_cases hempty : label = ""
  · rw [if_pos hempty, if_pos hempty, Database.failureCountsForBucket,
      Database.failureCountsForBucket, countOf_labelCounts, countOf_labelCounts, if_pos hempty,
      if_pos hempty]
  · have hall : (db.organicEvaluations.map fun x => x.2.failureType).count (some label) =
        db.organicEvaluations.countP (hasLabel label) := by
      rw [List.count, List.countP_map]
      refine List.countP_congr fun x _ => ?_
      simp [hasLabel]
    have hbucketed : (Sql.join StoredRun.evaluations db.runs).countP
        (fun x => isBucketed x && hasLabel label x) =
          db.organicEvaluations.countP fun x => x.2.classified && hasLabel label x := by
      rw [Database.organicEvaluations, List.countP_filter]
      refine List.countP_congr fun x _ => ?_
      simp only [isBucketed, Bool.and_eq_true]
      tauto
    rw [if_neg hempty, if_neg hempty, countOf_buckets hempty, hbucketed, hall,
      Database.unbucketedLabels]
    refine (countP_add_countP fun x _ => ?_).symm
    cases x.2.classified <;> cases hasLabel label x <;> rfl

end

/-- **The report agrees with the dashboard**: for every database with all tables, the shared
figures are equal, and the traced runs and the failure labels differ by just the runs without
retrieval rows and the rows in no bucket. -/
theorem report_agrees_with_dashboard {store : MetricsStore} {metrics : AggregateMetrics}
    (h : (aggregateAllMetrics store).metrics = some metrics) :
    metrics.AgreesWith (store.database.dashboardSummary none)
        (store.database.latencyDistribution none) ∧
      metrics.ReportDifference (store.database.dashboardSummary none) store.database := by
  have hmetrics : metrics = store.database.aggregateMetrics store.datasets := by
    dsimp only [aggregateAllMetrics] at h
    split at h
    · exact (Option.some.inj h).symm
    · cases h
  rw [hmetrics]
  refine ⟨?_, ?_⟩
  · exact
      { totalQueries := rfl
        configsTested := rfl
        llmRuns := length_organicBucket .llm
        heuristicRuns := length_organicBucket .heuristic
        retrieval := (avgMs_eq Run.retrievalLatencyMs).symm
        generation := (avgMs_eq Run.generationLatencyMs).symm
        evaluation := (avgMs_eq Run.evaluationLatencyMs).symm
        total := (avgMs_eq Run.totalLatencyMs).symm
        llmCost := avgCostUsdPerLlmRun_eq.symm }
  · exact
      { traced := totalTracedRuns_eq
        failures := countOf_failureTypeCounts }

/-- A judged run with a cost and a retrieval row, and a heuristic run without one. -/
def twoRunStore : MetricsStore :=
  { singleRunStore none with
    database :=
      { (singleRunStore none).database with
        runs :=
          [{ run :=
               { createRun 1 .completed none with
                 retrievalLatencyMs := some 10
                 generationLatencyMs := some 100
                 evaluationLatencyMs := some 30
                 totalLatencyMs := some 140
                 retrievalResults := [{ chunkId := 1, rank := 1, score := 1 / 2 }]
                 evaluationResults :=
                   [{ legacyEvaluation with
                      failureType := some "RETRIEVAL_MISS"
                      usedLlmJudge := true
                      costUsd := some (1 / 50) }] }
             queryCaseId := 1
             pipelineConfigId := 1
             createdAt := 0 },
           { run :=
               { createRun 2 .completed none with
                 retrievalLatencyMs := some 20
                 evaluationLatencyMs := some 5
                 totalLatencyMs := some 25
                 evaluationResults :=
                   [{ legacyEvaluation with
                      metadataJson := some [("evaluator_type", .str "heuristic")] }] }
             queryCaseId := 1
             pipelineConfigId := 2
             createdAt := 1 }]
        runs_unique := by simp [createRun]
        queryCase_exists := by simp [singleRunStore]
        generation_unique := by simp [createRun]
        evaluation_unique := by simp } }

/-- The figures of two runs, and the run that only the dashboard counts as traced. -/
theorem two_run_report_agrees :
    ∃ metrics, (aggregateAllMetrics twoRunStore).metrics = some metrics ∧
      metrics.AgreesWith (twoRunStore.database.dashboardSummary none)
        (twoRunStore.database.latencyDistribution none) ∧
      metrics.evaluationRowsOf .llm = 1 ∧ metrics.evaluationRowsOf .heuristic = 1 ∧
      metrics.retrievalLatency.avg = some 15 ∧ metrics.retrievalLatency.p95 = some (39 / 2) ∧
      metrics.avgEvaluationCostPerRunUsdOf .llm = some (1 / 50) ∧
      (twoRunStore.database.dashboardSummary none).scale.totalTracedRuns =
        metrics.totalTracedRuns + 1 := by
  have hmetrics : (aggregateAllMetrics twoRunStore).metrics =
      some (twoRunStore.database.aggregateMetrics twoRunStore.datasets) := rfl
  obtain ⟨hagrees, hdifference⟩ := report_agrees_with_dashboard hmetrics
  exact ⟨_, hmetrics, hagrees, by decide +kernel, by decide +kernel, by decide +kernel,
    by decide +kernel, by decide +kernel, hdifference.traced⟩

end ContextLens
