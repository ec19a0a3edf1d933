import ContextLens.ApiStore
import ContextLens.RunReports
import ContextLens.Foundations.PythonBuiltins
import Mathlib.Data.List.AList

/-!
# The insights by config

`_config_insights_for_bucket` of `app/services/dashboard_analytics.py`: per config the figures
of the traced runs in a bucket, and the failure type that occurs most.

The second query counts the failure types of the configs and has no `ORDER BY`.  The loop over
its answer keeps the first of the greatest counts of each config, `max` by count
(`lookup_topFailures`).  So what is reported always has the greatest count, and where two
types share it, the order of the answer picks one (`top_failure_order_independent_iff`).
-/

namespace ContextLens

open Foundations

/-! ## The queries -/

/-- A row of the subquery `config_cost`. -/
structure ConfigCost where
  pcId : ℕ
  avgCostUsd : Option ℚ
  totalCostUsd : Option ℚ

/-- A row of the first query. -/
structure InsightRow where
  pipelineConfigId : ℕ
  pipelineConfigName : String
  tracedRuns : ℕ
  completedRuns : ℕ
  failedRuns : ℕ
  avgTotalLatencyMs : Option ℚ
  minTotalLatencyMs : Option ℕ
  maxTotalLatencyMs : Option ℕ
  avgCostUsd : Option ℚ
  totalCostUsd : Option ℚ
  avgRetrievalRelevance : Option ℚ
  avgContextCoverage : Option ℚ
  avgCompleteness : Option ℚ
  avgFaithfulness : Option ℚ
  latestRunAt : Option ℕ

/-- A row of the second query. -/
structure TopFailRow where
  pipelineConfigId : ℕ
  failureType : String
  cnt : ℕ
  deriving DecidableEq

/-- A joined row of the first query. -/
abbrev InsightSource := (PipelineConfigRow × (StoredRun × EvaluationResult)) × Option ConfigCost

namespace Database

variable (db : Database) (bucket : EvaluatorType) (datasetId : Option ℕ)

/-- `evaluation_results JOIN runs`, in the bucket and the scope. -/
def bucketEvaluations : List (StoredRun × EvaluationResult) :=
  (Sql.join StoredRun.evaluations db.runs).filter fun x =>
    (ormBucket bucket x.2).holds && db.dashboardAggregateRunScope datasetId x.1

/-- `run_cost_sq`. -/
def runCosts : List (ℕ × Option ℚ) :=
  let rows := (db.bucketEvaluations bucket datasetId).filter fun x => x.2.costUsd.isSome
  (Sql.groupKeys (fun x => x.1.run.id) rows).map fun runId =>
    (runId, Sql.sum ((Sql.group (fun x => x.1.run.id) rows runId).map fun x => x.2.costUsd))

/-- `config_cost_sq`. -/
def configCosts : List ConfigCost :=
  let rows := Sql.join (fun r : StoredRun =>
    (db.runCosts bucket datasetId).filter fun cost => cost.1 = r.run.id) db.runs
  (Sql.groupKeys (fun x => x.1.pipelineConfigId) rows).map fun pcId =>
    let costs := (Sql.group (fun x => x.1.pipelineConfigId) rows pcId).map fun x => x.2.2
    { pcId := pcId
      avgCostUsd := Sql.avg costs
      totalCostUsd := Sql.sum costs }

/-- The joined rows of the first query. -/
def insightSources (pipelineConfigs : List PipelineConfigRow) : List InsightSource :=
  Sql.leftJoin
    (fun x => (db.configCosts bucket datasetId).filter fun cost => cost.pcId = x.1.id)
    (Sql.join (fun config : PipelineConfigRow =>
      (db.bucketEvaluations bucket datasetId).filter
        fun x => x.1.pipelineConfigId = config.id) pipelineConfigs)

/-- The row of a group. -/
def insightRow (key : ℕ × String) (rows : List InsightSource) : InsightRow :=
  let latencies := rows.map fun x => x.1.2.1.run.totalLatencyMs
  let scores := fun column : EvaluationResult → Option ℚ => rows.map fun x => column x.1.2.2
  { pipelineConfigId := key.1
    pipelineConfigName := key.2
    tracedRuns := rows.length
    completedRuns := (rows.filter fun x => x.1.2.1.run.status = .completed).length
    failedRuns := (rows.filter fun x => x.1.2.1.run.status = .failed).length
    avgTotalLatencyMs := Sql.avg (latencies.map fun latency => latency.map fun n => (n : ℚ))
    minTotalLatencyMs := Sql.minimum latencies
    maxTotalLatencyMs := Sql.maximum latencies
    avgCostUsd := Sql.maximum (rows.map fun x => x.2.bind ConfigCost.avgCostUsd)
    totalCostUsd := Sql.maximum (rows.map fun x => x.2.bind ConfigCost.totalCostUsd)
    avgRetrievalRelevance := Sql.avg (scores EvaluationResult.retrievalRelevance)
    avgContextCoverage := Sql.avg (scores EvaluationResult.contextCoverage)
    avgCompleteness := Sql.avg (scores EvaluationResult.completeness)
    avgFaithfulness := Sql.avg (scores EvaluationResult.faithfulness)
    latestRunAt := Sql.maximum (rows.map fun x => some x.1.2.1.createdAt) }

/-- `rows`: the answer to the first query, by config. -/
def insightRows (pipelineConfigs : List PipelineConfigRow) : List InsightRow :=
  let sources := db.insightSources bucket datasetId pipelineConfigs
  let key := fun x : InsightSource => (x.1.1.id, x.1.1.name)
  (Sql.orderBy (fun a b => decide (a.1 ≤ b.1)) (Sql.groupKeys key sources)).map fun k =>
    insightRow k (Sql.group key sources k)

/-- The rows of the second query, in one of the orders in which they may come. -/
def topFailRows : List TopFailRow :=
  let failures := ((db.bucketEvaluations bucket datasetId).filterMap fun x =>
    x.2.failureType.map fun failureType => (x.1.pipelineConfigId, failureType)).filter
      fun failure => failure.2 ≠ "" && failure.2 ≠ "NO_FAILURE"
  (Sql.groupKeys id failures).map fun failure =>
    { pipelineConfigId := failure.1
      failureType := failure.2
      cnt := (Sql.group id failures failure).length }

end Database

/-! ## The loop -/

/-- `top_fail_map` and `max_counts`. -/
structure TopFailures where
  topFailMap : AList fun _ : ℕ => String
  maxCounts : AList fun _ : ℕ => ℕ

namespace TopFailures

/-- Before the loop. -/
def start : TopFailures := ⟨∅, ∅⟩

/-- One row of the answer: `pc_id not in max_counts or cnt_int > max_counts[pc_id]`. -/
def see (top : TopFailures) (row : TopFailRow) : TopFailures :=
  if (top.maxCounts.lookup row.pipelineConfigId).all fun count => count < row.cnt then
    { topFailMap := top.topFailMap.insert row.pipelineConfigId row.failureType
      maxCounts := top.maxCounts.insert row.pipelineConfigId row.cnt }
  else top

end TopFailures

/-- The dictionaries after the loop. -/
def topFailures (rows : List TopFailRow) : TopFailures := rows.foldl TopFailures.see .start

/-- `ConfigInsight`. -/
structure ConfigInsight extends InsightRow where
  topFailureType : Option String

/-- The insights, from the answers to both queries. -/
def configInsights (rows : List InsightRow) (topFailRows : List TopFailRow) : List ConfigInsight :=
  rows.map fun r =>
    { r with topFailureType := (topFailures topFailRows).topFailMap.lookup r.pipelineConfigId }

/-- `_config_insights_for_bucket`, with the answer to the second query. -/
def configInsightsForBucket (db : Database) (pipelineConfigs : List PipelineConfigRow)
    (bucket : EvaluatorType) (datasetId : Option ℕ) (topFailRows : List TopFailRow) :
    List ConfigInsight :=
  configInsights (db.insightRows bucket datasetId pipelineConfigs) topFailRows

/-! ## The loop takes maxima -/

/-- The first of the greatest rows of a config. -/
def topFailRow (rows : List TopFailRow) (id : ℕ) : Option TopFailRow :=
  (rows.filter fun row => row.pipelineConfigId = id).argmax TopFailRow.cnt

section

variable {rows : List TopFailRow} {id : ℕ} {row : TopFailRow}

theorem topFailRow_concat_of_ne (h : row.pipelineConfigId ≠ id) :
    topFailRow (rows ++ [row]) id = topFailRow rows id := by
  rw [topFailRow, List.filter_append, List.filter_singleton, decide_eq_false h]
  exact congrArg _ (List.append_nil _)

theorem topFailRow_concat_self :
    topFailRow (rows ++ [row]) row.pipelineConfigId =
      if (topFailRow rows row.pipelineConfigId).all fun top => top.cnt < row.cnt then some row
      else topFailRow rows row.pipelineConfigId := by
  rw [topFailRow, List.filter_append, List.filter_singleton, decide_eq_true rfl, cond_true,
    List.argmax_concat, ← topFailRow]
  cases topFailRow rows row.pipelineConfigId with
  | none => rfl
  | some top =>
      rw [Option.all_some]
      by_cases hlt : top.cnt < row.cnt <;> simp [hlt]

theorem lookup_topFailures (rows : List TopFailRow) (id : ℕ) :
    (topFailures rows).maxCounts.lookup id = (topFailRow rows id).map TopFailRow.cnt ∧
      (topFailures rows).topFailMap.lookup id =
        (topFailRow rows id).map TopFailRow.failureType := by
  induction rows using List.reverseRecOn with
  | nil => exact ⟨rfl, rfl⟩
  | append_singleton rows row ih =>
      have hfold : topFailures (rows ++ [row]) = (topFailures rows).see row := by
        rw [topFailures, List.foldl_append]
        rfl
      rw [hfold, TopFailures.see]
      by_cases hid : row.pipelineConfigId = id
      · subst hid
        rw [topFailRow_concat_self, ih.1, Option.all_map]
        split_ifs
        · exact ⟨AList.lookup_insert _, AList.lookup_insert _⟩
        · exact ih
      · rw [topFailRow_concat_of_ne hid]
        split_ifs
        · dsimp only
          rw [AList.lookup_insert_ne (Ne.symm hid), AList.lookup_insert_ne (Ne.symm hid)]
          exact ih
        · exact ih

/-! ## What is reported -/

/-- A row of a config whose count is the greatest. -/
def IsTop (rows : List TopFailRow) (id : ℕ) : TopFailRow → Prop :=
  Python.GreatestOf (fun row => row.pipelineConfigId = id) TopFailRow.cnt rows

/-- What may be reported for a config: a type with the greatest count, or nothing when it has
no row. -/
def TopTypeOf (rows : List TopFailRow) (id : ℕ) : Option String → Prop
  | none => ∀ row ∈ rows, row.pipelineConfigId ≠ id
  | some failureType => ∃ row, IsTop rows id row ∧ row.failureType = failureType

theorem topTypeOf_topFailures (rows : List TopFailRow) (id : ℕ) :
    TopTypeOf rows id ((topFailures rows).topFailMap.lookup id) := by
  rw [(lookup_topFailures rows id).2]
  cases htop : topFailRow rows id with
  | none =>
      intro row hrow hid
      have hmem : row ∈ rows.filter fun row => row.pipelineConfigId = id :=
        List.mem_filter.mpr ⟨hrow, decide_eq_true hid⟩
      rw [List.argmax_eq_none.mp htop] at hmem
      cases hmem
  | some row => exact ⟨row, Python.greatestOf_of_mem_argmax htop, rfl⟩

theorem TopTypeOf.perm {rows' : List TopFailRow} {failureType : Option String}
    (h : TopTypeOf rows id failureType) (hperm : rows'.Perm rows) :
    TopTypeOf rows' id failureType := by
  cases failureType with
  | none => exact fun row hrow => h row (hperm.mem_iff.mp hrow)
  | some failureType =>
      obtain ⟨row, htop, htype⟩ := h
      exact ⟨row, Python.GreatestOf.perm htop hperm, htype⟩

/-- The greatest count of a config belongs to one failure type. -/
def OneTopType (rows : List TopFailRow) (id : ℕ) : Prop :=
  ∀ first second, IsTop rows id first → IsTop rows id second →
    first.failureType = second.failureType

theorem lookup_perm_iff :
    (∀ rows' : List TopFailRow, rows'.Perm rows →
        (topFailures rows').topFailMap.lookup id = (topFailures rows).topFailMap.lookup id) ↔
      OneTopType rows id := by
  have hfirst : ∀ rows : List TopFailRow, (topFailures rows).topFailMap.lookup id =
      ((rows.filter fun row => row.pipelineConfigId = id).argmax TopFailRow.cnt).map
        TopFailRow.failureType := fun rows => (lookup_topFailures rows id).2
  simp only [hfirst]
  exact Python.argmax_perm_iff TopFailRow.failureType

end

/-- **When the reported types do not depend on the order of the answer**: when no config has
two types that share its greatest count.  The count is always the greatest. -/
theorem top_failure_order_independent_iff (db : Database)
    (pipelineConfigs : List PipelineConfigRow) (bucket : EvaluatorType) (datasetId : Option ℕ)
    (rows : List TopFailRow) :
    (∀ rows' : List TopFailRow, rows'.Perm rows →
        configInsightsForBucket db pipelineConfigs bucket datasetId rows' =
            configInsightsForBucket db pipelineConfigs bucket datasetId rows ∧
          ∀ insight ∈ configInsightsForBucket db pipelineConfigs bucket datasetId rows',
            TopTypeOf rows insight.pipelineConfigId insight.topFailureType) ↔
      ∀ r ∈ db.insightRows bucket datasetId pipelineConfigs,
        OneTopType rows r.pipelineConfigId := by
  constructor
  · intro h r hr
    refine lookup_perm_iff.mp fun rows' hperm => ?_
    have hmap := List.map_inj_left.mp (h rows' hperm).1 r hr
    exact congrArg ConfigInsight.topFailureType hmap
  · intro h rows' hperm
    constructor
    · refine List.map_congr_left fun r hr => ?_
      rw [lookup_perm_iff.mpr (h r hr) rows' hperm]
    · intro insight hinsight
      obtain ⟨r, -, rfl⟩ := List.mem_map.mp hinsight
      exact (topTypeOf_topFailures rows' r.pipelineConfigId).perm hperm.symm

/-- A failed evaluation of the first config. -/
def failedRun (id : ℕ) (failureType : String) : StoredRun where
  run :=
    { createRun id .completed none with
      evaluationResults :=
        [{ faithfulness := none
           completeness := some 0
           retrievalRelevance := some 0
           contextCoverage := some 0
           groundedness := none
           failureType := some failureType
           usedLlmJudge := true
           costUsd := none
           metadataJson := none }] }
  queryCaseId := 3
  pipelineConfigId := 1
  createdAt := id

/-- Two runs with two failure types. -/
def tiedDatabase : Database where
  queryCases := [{ id := 3, datasetId := 7, queryText := "question" }]
  runs := [failedRun 1 "RETRIEVAL_MISS", failedRun 2 "ANSWER_UNSUPPORTED"]
  queryCases_unique := List.nodup_singleton 3
  runs_unique := by simp [failedRun, createRun]
  queryCase_exists := by simp [failedRun]
  generation_unique := by simp [failedRun, createRun]
  evaluation_unique := by simp [failedRun]

/-- The config of both runs. -/
def tiedConfig : PipelineConfigRow where
  id := 1
  name := "baseline"
  embeddingModel := "model"
  chunkStrategy := "fixed"
  chunkSize := 400
  chunkOverlap := 40
  topK := 5
  metadataJson := none

/-- Each of the two types is reported, depending on the order. -/
theorem tied_types_follow_the_order :
    ¬∀ (db : Database) (pipelineConfigs : List PipelineConfigRow) (bucket : EvaluatorType)
        (datasetId : Option ℕ) (rows : List TopFailRow),
      rows.Perm (db.topFailRows bucket datasetId) →
        configInsightsForBucket db pipelineConfigs bucket datasetId rows =
            configInsightsForBucket db pipelineConfigs bucket datasetId
              (db.topFailRows bucket datasetId) ∧
          ∀ insight ∈ configInsightsForBucket db pipelineConfigs bucket datasetId rows,
            TopTypeOf rows insight.pipelineConfigId insight.topFailureType := by
  intro h
  have hsame := (h tiedDatabase [tiedConfig] .llm none
    (tiedDatabase.topFailRows .llm none).reverse (List.reverse_perm _)).1
  have htypes := congrArg (List.map ConfigInsight.topFailureType) hsame
  exact absurd htypes (by decide)

end ContextLens
