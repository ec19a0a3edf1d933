import ContextLens.StoreIntegrity
import ContextLens.RunReports
import ContextLens.Foundations.OrderedDict
import ContextLens.Foundations.PythonBuiltins
import ContextLens.Foundations.SqlAggregates
import ContextLens.Foundations.TopRows
import Mathlib.Algebra.BigOperators.Ring.Finset

/-!
# The dashboard analytics

`app/services/dashboard_analytics.py` without the insights by config: the runs by day, the
latency distributions of `app/services/phase_latency_distribution.py`, and the failures by
type and by config.

The sections are separate queries with their own joins and groupings.  What they have in common
is the runs in the scope, each with its evaluation row if it has one: every figure is one of
these runs (`timeSeries_shows`, `entryOf`), and the figures of the sections add up to those of
the summary.  The foreign key to the config is what keeps the breakdown by config from losing
a failure in its inner join.
-/

namespace ContextLens

open Foundations

/-! ## The tables -/

/-- The tables of the reports with the configs that the runs refer to. -/
structure RegistryDatabase extends Database where
  pipelineConfigs : List PipelineConfigRow
  pipelineConfigs_unique : (pipelineConfigs.map PipelineConfigRow.id).Nodup
  pipelineConfig_exists : ∀ r ∈ runs, r.pipelineConfigId ∈ pipelineConfigs.map PipelineConfigRow.id

/-- The tables of a sound store, as the reports read them. -/
def ApiStore.Sound.database {s : ApiStore} (h : s.Sound) : RegistryDatabase where
  queryCases := s.queryCases.map QueryCaseRow.toQueryCase
  runs := s.runs.map TracedRun.toStoredRun
  pipelineConfigs := s.pipelineConfigs
  queryCases_unique := by
    rw [List.map_map]
    exact h.keys.queryCases.nodup
  runs_unique := by
    rw [List.map_map]
    exact h.keys.runs.nodup
  queryCase_exists r hr := by
    obtain ⟨traced, htraced, rfl⟩ := List.mem_map.mp hr
    obtain ⟨qc, hqc, hid⟩ := List.mem_map.mp (h.references.run_queryCase traced htraced)
    exact ⟨qc.toQueryCase, List.mem_map_of_mem hqc, hid⟩
  generation_unique r hr := by
    obtain ⟨traced, htraced, rfl⟩ := List.mem_map.mp hr
    exact (h.oneRowEach traced htraced).generation
  evaluation_unique r hr := by
    obtain ⟨traced, htraced, rfl⟩ := List.mem_map.mp hr
    exact (h.oneRowEach traced htraced).evaluation
  pipelineConfigs_unique := h.keys.pipelineConfigs.nodup
  pipelineConfig_exists r hr := by
    obtain ⟨traced, htraced, rfl⟩ := List.mem_map.mp hr
    exact h.references.run_pipelineConfig traced htraced

/-! ## The response -/

/-- `TimeSeriesDay`. -/
structure TimeSeriesDay where
  date : ℕ
  runs : ℕ
  completed : ℕ
  failed : ℕ
  avgTotalLatencyMs : Option ℚ
  avgCostUsd : Option ℚ
  failureCount : ℕ

/-- `LatencyDistribution`. -/
structure LatencyDistribution where
  count : ℕ := 0
  minMs : Option ℚ := none
  maxMs : Option ℚ := none
  avgMs : Option ℚ := none
  medianMs : Option ℚ := none
  p95Ms : Option ℚ := none

/-- `LatencyDistributionSection`. -/
structure LatencyDistributionSection where
  retrieval : LatencyDistribution
  generation : LatencyDistribution
  evaluation : LatencyDistribution
  total : LatencyDistribution

/-- `FailureByConfig`. -/
structure FailureByConfig where
  pipelineConfigId : ℕ
  pipelineConfigName : String
  failureCounts : OrderedDict String ℕ
  totalFailures : ℕ

/-- `RecentFailedRun`. -/
structure RecentFailedRun where
  runId : ℕ
  status : RunStatus
  createdAt : ℕ
  failureType : Option String
  pipelineConfigId : ℕ

/-- `FailureAnalysisSection`. -/
structure FailureAnalysisSection where
  overallCounts : OrderedDict String ℕ
  overallPercentages : OrderedDict String ℚ
  byConfig : List FailureByConfig
  recentFailedRuns : List RecentFailedRun

/-- `DashboardAnalyticsResponse`, without the insights by config. -/
structure DashboardAnalyticsResponse where
  timeSeries : List TimeSeriesDay
  latencyDistribution : LatencyDistributionSection
  endToEndRunLatencyAvgSec : Option ℚ
  endToEndRunLatencyP95Sec : Option ℚ
  failureAnalysis : FailureAnalysisSection

/-! ## The queries -/

/-- A row of `config_fail_rows`. -/
structure ConfigFailRow where
  pipelineConfigId : ℕ
  pipelineConfigName : String
  failureType : String
  cnt : ℕ

namespace Database

variable (db : Database) (datasetId : Option ℕ)

/-- `runs JOIN evaluation_results` in the scope, where `failure_type` is not `NULL`, not empty
and not `NO_FAILURE`. -/
def scopedFailures : List (StoredRun × String) :=
  ((db.scopedEvaluations datasetId).filterMap fun x =>
    x.2.failureType.map fun failureType => (x.1, failureType)).filter fun failure =>
      failure.2 ≠ "" && failure.2 ≠ "NO_FAILURE"

/-- `failure_sub`. -/
def failureSub : List ℕ := (db.scopedFailures datasetId).map fun failure => failure.1.run.id

/-- `run_cost_sq`. -/
def scopedRunCosts : List (ℕ × Option ℚ) :=
  Sql.aggregate (fun x => x.1.run.id) (fun rows => Sql.sum (rows.map fun x => x.2.costUsd))
    ((db.scopedEvaluations datasetId).filter fun x => x.2.costUsd.isSome)

/-- `runs LEFT JOIN run_cost`, in the scope. -/
def timeSeriesSources : List (StoredRun × Option (ℕ × Option ℚ)) :=
  (Sql.leftJoin (fun r : StoredRun =>
    (db.scopedRunCosts datasetId).filter fun cost => cost.1 = r.run.id) db.runs).filter
      fun x => db.dashboardAggregateRunScope datasetId x.1

/-- The row of a day. -/
def timeSeriesDay (day : ℕ) (rows : List (StoredRun × Option (ℕ × Option ℚ))) :
    TimeSeriesDay where
  date := day
  runs := rows.length
  completed := (rows.filter fun x => x.1.run.status = .completed).length
  failed := (rows.filter fun x => x.1.run.status = .failed).length
  avgTotalLatencyMs := Sql.avg (rows.map fun x => x.1.run.totalLatencyMs.map fun n : ℕ => (n : ℚ))
  avgCostUsd := Sql.avg (rows.map fun x => x.2.bind Prod.snd)
  failureCount := (rows.filter fun x => x.1.run.id ∈ db.failureSub datasetId).length

/-- `_time_series`; `date` is `DATE(created_at)`, as the number of the day. -/
def timeSeries (date : ℕ → ℕ) : List TimeSeriesDay :=
  let sources := db.timeSeriesSources datasetId
  let day := fun x : StoredRun × Option (ℕ × Option ℚ) => date x.1.createdAt
  ((Sql.page 90 0 (Sql.orderBy (fun a b => decide (b ≤ a)) (Sql.groupKeys day sources))).map
    fun d => db.timeSeriesDay datasetId d (Sql.group day sources d)).reverse

/-- `get_phase_latency_distribution`. -/
def getPhaseLatencyDistribution (column : Run → Option ℕ) : LatencyDistribution :=
  let values := (db.scopedRuns datasetId).map fun r => (column r.run).map fun n : ℕ => (n : ℚ)
  if (values.filter Option.isSome).length = 0 then {}
  else
    { count := (values.filter Option.isSome).length
      minMs := Sql.minimum values
      maxMs := Sql.maximum values
      avgMs := Sql.avg values
      medianMs := Sql.percentileCont (1 / 2) values
      p95Ms := Sql.percentileCont (95 / 100) values }

/-- `_latency_distribution`. -/
def latencyDistribution : LatencyDistributionSection where
  retrieval := db.getPhaseLatencyDistribution datasetId Run.retrievalLatencyMs
  generation := db.getPhaseLatencyDistribution datasetId Run.generationLatencyMs
  evaluation := db.getPhaseLatencyDistribution datasetId Run.evaluationLatencyMs
  total := db.getPhaseLatencyDistribution datasetId Run.totalLatencyMs

/-- `fail_rows`, in one of the orders in which they may come. -/
def failRows : List (String × ℕ) := Sql.countBy Prod.snd (db.scopedFailures datasetId)

/-- The last failed runs. -/
def recentFailedRuns : List RecentFailedRun :=
  (Sql.page 10 0 (Sql.orderBy (fun a b => newestFirst a.1 b.1)
    ((Sql.leftJoin StoredRun.evaluations db.runs).filter fun x =>
      x.1.run.status = .failed && db.dashboardAggregateRunScope datasetId x.1))).map fun x =>
        { runId := x.1.run.id
          status := x.1.run.status
          createdAt := x.1.createdAt
          failureType := x.2.bind EvaluationResult.failureType
          pipelineConfigId := x.1.pipelineConfigId }

end Database

/-- The config that a join on `runs.pipeline_config_id` finds. -/
def RegistryDatabase.pipelineConfigOf (db : RegistryDatabase) (r : StoredRun) :
    List PipelineConfigRow :=
  db.pipelineConfigs.filter fun config => config.id = r.pipelineConfigId

/-- The failures in the scope, with their configs. -/
def RegistryDatabase.failuresWithConfig (db : RegistryDatabase) (datasetId : Option ℕ) :
    List ((StoredRun × String) × PipelineConfigRow) :=
  Sql.join (fun failure => db.pipelineConfigOf failure.1) (db.scopedFailures datasetId)

/-- `config_fail_rows`, in one of the orders in which they may come. -/
def RegistryDatabase.configFailRows (db : RegistryDatabase) (datasetId : Option ℕ) :
    List ConfigFailRow :=
  (Sql.countBy (fun x => (x.1.1.pipelineConfigId, x.2.name, x.1.2))
    (db.failuresWithConfig datasetId)).map fun row =>
          { pipelineConfigId := row.1.1
            pipelineConfigName := row.1.2.1
            failureType := row.1.2.2
            cnt := row.2 }

/-- What the database answers to the two queries of the failures: the second is ordered by the
config only, the first not at all. -/
structure FailureAnswers (db : RegistryDatabase) (datasetId : Option ℕ) where
  failRows : List (String × ℕ)
  configFailRows : List ConfigFailRow
  failRows_perm : failRows.Perm (db.failRows datasetId)
  configFailRows_perm : configFailRows.Perm (db.configFailRows datasetId)
  configFailRows_ordered : (configFailRows.map ConfigFailRow.pipelineConfigId).Pairwise (· ≤ ·)

/-- One of these answers. -/
def FailureAnswers.sorted (db : RegistryDatabase) (datasetId : Option ℕ) :
    FailureAnswers db datasetId where
  failRows := db.failRows datasetId
  configFailRows :=
    (db.configFailRows datasetId).mergeSort fun a b => a.pipelineConfigId ≤ b.pipelineConfigId
  failRows_perm := List.Perm.refl _
  configFailRows_perm := List.mergeSort_perm _ _
  configFailRows_ordered := by
    rw [List.pairwise_map]
    refine (List.pairwise_mergeSort (fun a b c hab hbc => ?_) (fun a b => ?_) _).imp
      of_decide_eq_true
    · rw [decide_eq_true_iff] at hab hbc ⊢
      exact hab.trans hbc
    · rw [Bool.or_eq_true, decide_eq_true_iff, decide_eq_true_iff]
      exact le_total _ _

/-! ## The sections -/

/-- `FailureByConfig(pipeline_config_id=pc_id, pipeline_config_name=pc_name)`. -/
def FailureByConfig.start (row : ConfigFailRow) : FailureByConfig where
  pipelineConfigId := row.pipelineConfigId
  pipelineConfigName := row.pipelineConfigName
  failureCounts := .empty
  totalFailures := 0

/-- The body of the loop, on the entry of the config. -/
def FailureByConfig.add (entry : FailureByConfig) (row : ConfigFailRow) : FailureByConfig :=
  { entry with
    failureCounts := entry.failureCounts.set row.failureType row.cnt
    totalFailures := entry.totalFailures + row.cnt }

/-- `config_map`. -/
def configMap (rows : List ConfigFailRow) : OrderedDict ℕ FailureByConfig :=
  OrderedDict.collect FailureByConfig.start ConfigFailRow.pipelineConfigId FailureByConfig.add rows

/-- `overall_percentages`. -/
def overallPercentages (overallCounts : OrderedDict String ℕ) : OrderedDict String ℚ :=
  let totalFailures := overallCounts.values.sum
  if 0 < totalFailures then
    overallCounts.mapValues fun v : ℕ => Python.roundTo 1 ((v : ℚ) / totalFailures * 100)
  else .empty

/-- `_failure_analysis`. -/
def failureAnalysis {db : RegistryDatabase} {datasetId : Option ℕ}
    (answers : FailureAnswers db datasetId) : FailureAnalysisSection :=
  let overallCounts := OrderedDict.ofList answers.failRows
  { overallCounts := overallCounts
    overallPercentages := overallPercentages overallCounts
    byConfig := (configMap answers.configFailRows).values
    recentFailedRuns := db.recentFailedRuns datasetId }

/-- `get_dashboard_analytics`. -/
def getDashboardAnalytics {db : RegistryDatabase} {datasetId : Option ℕ}
    (answers : FailureAnswers db datasetId) (date : ℕ → ℕ) : DashboardAnalyticsResponse :=
  let latencyDistribution := db.latencyDistribution datasetId
  let total := latencyDistribution.total
  { timeSeries := db.timeSeries datasetId date
    latencyDistribution := latencyDistribution
    endToEndRunLatencyAvgSec := if 0 < total.count then total.avgMs.map (· / 1000) else none
    endToEndRunLatencyP95Sec := if 0 < total.count then total.p95Ms.map (· / 1000) else none
    failureAnalysis := failureAnalysis answers }

/-! ## The runs behind the figures -/

/-- The failure type of the evaluation row, when it names a failure. -/
def StoredRun.failureLabel (r : StoredRun) : Option String :=
  (r.evaluations.head?.bind EvaluationResult.failureType).filter fun failureType =>
    failureType ≠ "" && failureType ≠ "NO_FAILURE"

/-- The cost of the evaluation row. -/
def StoredRun.evaluationCost (r : StoredRun) : Option ℚ :=
  r.evaluations.head?.bind EvaluationResult.costUsd

/-- The runs in the scope that were created on a day. -/
def Database.runsOfDay (db : Database) (datasetId : Option ℕ) (date : ℕ → ℕ) (day : ℕ) :
    List StoredRun :=
  Sql.group (fun r => date r.createdAt) (db.scopedRuns datasetId) day

/-- The days on which they were created. -/
def Database.daysWithRuns (db : Database) (datasetId : Option ℕ) (date : ℕ → ℕ) : List ℕ :=
  Sql.groupKeys (fun r => date r.createdAt) (db.scopedRuns datasetId)

/-- A day that shows these runs, each of them once. -/
structure TimeSeriesDay.Shows (day : TimeSeriesDay) (ofDay : List StoredRun) : Prop where
  runs : day.runs = ofDay.length
  completed : day.completed = (ofDay.filter fun r => r.run.status = .completed).length
  failed : day.failed = (ofDay.filter fun r => r.run.status = .failed).length
  avgTotalLatencyMs : day.avgTotalLatencyMs =
    Sql.avg (ofDay.map fun r => r.run.totalLatencyMs.map fun n : ℕ => (n : ℚ))
  avgCostUsd : day.avgCostUsd = Sql.avg (ofDay.map StoredRun.evaluationCost)
  failureCount : day.failureCount = (ofDay.filter fun r => r.failureLabel.isSome).length

section

variable {db : Database} {datasetId : Option ℕ}

theorem mem_runs_of_scoped {r : StoredRun} (hr : r ∈ db.scopedRuns datasetId) : r ∈ db.runs :=
  List.mem_of_mem_filter hr

/-- Two runs in the scope with one id are one run. -/
theorem eq_of_scoped {a b : StoredRun} (ha : a ∈ db.scopedRuns datasetId)
    (hb : b ∈ db.scopedRuns datasetId) (hid : a.run.id = b.run.id) : a = b :=
  List.inj_on_of_nodup_map db.runs_unique (mem_runs_of_scoped ha) (mem_runs_of_scoped hb) hid

/-- The evaluation rows in the scope are those of the runs in the scope. -/
theorem scopedEvaluations_eq :
    db.scopedEvaluations datasetId =
      (db.scopedRuns datasetId).filterMap fun r => r.evaluations.head?.map (Prod.mk r) := by
  rw [Database.scopedEvaluations, ← Sql.join_filter]
  exact Sql.join_eq_filterMap fun r hr => db.evaluation_unique r (mem_runs_of_scoped hr)

/-- The failures in the scope are the runs with a failure label. -/
theorem scopedFailures_eq :
    db.scopedFailures datasetId =
      (db.scopedRuns datasetId).filterMap fun r => r.failureLabel.map (Prod.mk r) := by
  rw [Database.scopedFailures, scopedEvaluations_eq, List.filterMap_filterMap,
    List.filter_filterMap]
  refine List.filterMap_congr fun r _ => ?_
  rw [StoredRun.failureLabel]
  cases r.evaluations.head? with
  | none => rfl
  | some row =>
      cases hlabel : row.failureType with
      | none => simp [hlabel]
      | some failureType => simp [hlabel, Option.filter]

theorem mem_scopedFailures {failure : StoredRun × String} :
    failure ∈ db.scopedFailures datasetId ↔
      failure.1 ∈ db.scopedRuns datasetId ∧ failure.1.failureLabel = some failure.2 := by
  obtain ⟨r, label⟩ := failure
  rw [scopedFailures_eq, List.mem_filterMap]
  constructor
  · rintro ⟨r', hr', hlabel⟩
    obtain ⟨label', hsome, heq⟩ := Option.map_eq_some_iff.mp hlabel
    cases heq
    exact ⟨hr', hsome⟩
  · rintro ⟨hr, hlabel⟩
    exact ⟨r, hr, by rw [show r.failureLabel = some label from hlabel]; rfl⟩

/-- `failure_sub` has the runs with a failure label. -/
theorem mem_failureSub {r : StoredRun} (hr : r ∈ db.scopedRuns datasetId) :
    r.run.id ∈ db.failureSub datasetId ↔ r.failureLabel.isSome = true := by
  rw [Database.failureSub, List.mem_map, Option.isSome_iff_exists]
  constructor
  · rintro ⟨failure, hfailure, hid⟩
    obtain ⟨hscoped, hlabel⟩ := mem_scopedFailures.mp hfailure
    rw [eq_of_scoped hr hscoped hid.symm]
    exact ⟨failure.2, hlabel⟩
  · rintro ⟨label, hlabel⟩
    exact ⟨(r, label), mem_scopedFailures.mpr ⟨hr, hlabel⟩, rfl⟩

/-- The failures are as many as the summary says. -/
theorem length_scopedFailures :
    (db.scopedFailures datasetId).length = (db.dashboardSummary datasetId).modelFailures := by
  have hlabels : (db.scopedFailures datasetId).map Prod.snd =
      (db.scopedFailureTypes datasetId).filter fun label => label ≠ "NO_FAILURE" := by
    have hall : (((db.scopedEvaluations datasetId).filterMap fun x =>
        x.2.failureType.map fun failureType => (x.1, failureType)).map Prod.snd) =
          (db.scopedEvaluations datasetId).filterMap fun x => x.2.failureType := by
      rw [List.map_filterMap]
      refine List.filterMap_congr fun x _ => ?_
      rw [Option.map_map]
      exact congrFun Option.map_id _
    rw [Database.scopedFailureTypes, ← hall, List.filter_filter, List.filter_map]
    refine congrArg _ (List.filter_congr fun x _ => ?_)
    exact Bool.and_comm _ _
  rw [← List.length_map, hlabels]
  rfl

/-! ## The runs by day -/

/-- **The subquery of the costs has the cost of the run's one evaluation row.** -/
theorem runCost_eq {r : StoredRun} (hr : r ∈ db.scopedRuns datasetId) :
    (((db.scopedRunCosts datasetId).filter fun cost => cost.1 = r.run.id).head?).bind Prod.snd =
      r.evaluationCost := by
  have hnodup : (db.scopedRuns datasetId).Nodup :=
    (List.Nodup.of_map (fun r => r.run.id) db.runs_unique).filter _
  have hgroup : Sql.group (fun x => x.1.run.id)
      ((db.scopedEvaluations datasetId).filter fun x => x.2.costUsd.isSome) r.run.id =
        ((r.evaluations.head?.map (Prod.mk r)).filter fun x => x.2.costUsd.isSome).toList := by
    rw [Sql.group, scopedEvaluations_eq, List.filter_filterMap, List.filter_filterMap]
    have hself : ((r.evaluations.head?.map (Prod.mk r)).filter fun x =>
        x.2.costUsd.isSome).filter (fun x => x.1.run.id = r.run.id) =
          (r.evaluations.head?.map (Prod.mk r)).filter fun x => x.2.costUsd.isSome := by
      cases r.evaluations.head? with
      | none => rfl
      | some row => cases hcost : row.costUsd <;> simp [Option.filter, hcost]
    rw [Sql.filterMap_eq_toList hnodup hr, hself]
    intro other hother hne
    have hid : other.run.id ≠ r.run.id := fun hid => hne (eq_of_scoped hother hr hid)
    cases other.evaluations.head? with
    | none => rfl
    | some row => cases hcost : row.costUsd <;> simp [Option.filter, hcost, hid]
  rw [Database.scopedRunCosts, Sql.filter_aggregate, hgroup, StoredRun.evaluationCost]
  cases r.evaluations.head? with
  | none => rfl
  | some row => cases hcost : row.costUsd <;> simp [Option.filter, hcost, Sql.sum]

/-- The rows that are grouped by day are the runs in the scope, each once, with its cost. -/
theorem timeSeriesSources_eq :
    ∃ cost : StoredRun → Option (ℕ × Option ℚ),
      db.timeSeriesSources datasetId = (db.scopedRuns datasetId).map (fun r => (r, cost r)) ∧
        ∀ r ∈ db.scopedRuns datasetId, (cost r).bind Prod.snd = r.evaluationCost := by
  refine ⟨fun r => ((db.scopedRunCosts datasetId).filter fun cost => cost.1 = r.run.id).head?,
    ?_, fun r hr => runCost_eq hr⟩
  rw [Database.timeSeriesSources, Sql.leftJoin_eq_map, List.filter_map]
  · rfl
  · intro r _
    rw [Database.scopedRunCosts, Sql.filter_aggregate]
    split_ifs <;> simp

theorem timeSeriesDay_shows {date : ℕ → ℕ} (day : ℕ) :
    (db.timeSeriesDay datasetId day (Sql.group (fun x => date x.1.createdAt)
      (db.timeSeriesSources datasetId) day)).Shows (db.runsOfDay datasetId date day) := by
  obtain ⟨cost, hsources, hcost⟩ := @timeSeriesSources_eq db datasetId
  have hgroup : Sql.group (fun x => date x.1.createdAt) (db.timeSeriesSources datasetId) day =
      (db.runsOfDay datasetId date day).map fun r => (r, cost r) := by
    rw [hsources, Sql.group_map]
    rfl
  have hscoped : ∀ r ∈ db.runsOfDay datasetId date day, r ∈ db.scopedRuns datasetId :=
    fun r hr => (Sql.mem_group.mp hr).1
  rw [hgroup]
  refine ⟨?_, ?_, ?_, ?_, ?_, ?_⟩
  · exact List.length_map _
  · simp only [Database.timeSeriesDay, List.filter_map, List.length_map, Function.comp_def]
  · simp only [Database.timeSeriesDay, List.filter_map, List.length_map, Function.comp_def]
  · simp only [Database.timeSeriesDay, List.map_map, Function.comp_def]
  · simp only [Database.timeSeriesDay, List.map_map, Function.comp_def]
    exact congrArg Sql.avg (List.map_congr_left fun r hr => hcost r (hscoped r hr))
  · simp only [Database.timeSeriesDay, List.filter_map, List.length_map, Function.comp_def]
    refine congrArg List.length (List.filter_congr fun r hr => ?_)
    rw [Bool.eq_iff_iff, decide_eq_true_eq]
    exact mem_failureSub (hscoped r hr)

/-- The days of the series: the latest, oldest first. -/
theorem map_date_timeSeries (date : ℕ → ℕ) :
    (db.timeSeries datasetId date).map TimeSeriesDay.date =
      (((db.daysWithRuns datasetId date).insertionSort fun a b => b ≤ a).take 90).reverse := by
  obtain ⟨cost, hsources, -⟩ := @timeSeriesSources_eq db datasetId
  have hkeys : Sql.groupKeys (fun x : StoredRun × Option (ℕ × Option ℚ) => date x.1.createdAt)
      (db.timeSeriesSources datasetId) = db.daysWithRuns datasetId date := by
    rw [hsources, Sql.groupKeys_map]
    rfl
  rw [Database.timeSeries, List.map_reverse, List.map_map, hkeys]
  simp only [Function.comp_def, Database.timeSeriesDay, List.map_id', Sql.page, List.drop_zero,
    Sql.orderBy, decide_eq_true_eq]

theorem shows_of_mem_timeSeries {date : ℕ → ℕ} {day : TimeSeriesDay}
    (h : day ∈ db.timeSeries datasetId date) :
    day.Shows (db.runsOfDay datasetId date day.date) := by
  obtain ⟨d, -, rfl⟩ := List.mem_map.mp (List.mem_reverse.mp h)
  exact timeSeriesDay_shows d

/-- **A figure of the series added up**: that of the runs of its days. -/
theorem sum_timeSeries {date : ℕ → ℕ} {figure : TimeSeriesDay → ℕ} {p : StoredRun → Bool}
    (h : ∀ (day : TimeSeriesDay) ofDay, day.Shows ofDay → figure day = (ofDay.filter p).length) :
    ((db.timeSeries datasetId date).map figure).sum =
      ((db.scopedRuns datasetId).filter fun r =>
        decide (date r.createdAt ∈ (db.timeSeries datasetId date).map TimeSeriesDay.date) &&
          p r).length := by
  have hnodup : ((db.timeSeries datasetId date).map TimeSeriesDay.date).Nodup := by
    rw [map_date_timeSeries, List.nodup_reverse]
    exact ((List.perm_insertionSort _ _).nodup_iff.mpr (Sql.nodup_groupKeys _ _)).sublist
      (List.take_sublist _ _)
  have hsum := @Sql.sum_length_group _ _ _ (fun r : StoredRun => date r.createdAt) _ hnodup
    ((db.scopedRuns datasetId).filter p)
  rw [← List.filter_filter, ← hsum, List.map_map]
  refine congrArg List.sum (List.map_congr_left fun day hday => ?_)
  rw [h day _ (shows_of_mem_timeSeries hday), Database.runsOfDay, Sql.group, List.filter_comm]
  rfl

/-- A day has runs, and those that are completed or failed are some of them. -/
theorem TimeSeriesDay.Shows.counts {day : TimeSeriesDay} {ofDay : List StoredRun}
    (h : day.Shows ofDay) : day.completed + day.failed ≤ day.runs := by
  have hsplit := ofDay.length_eq_length_filter_add fun r => decide (r.run.status = .completed)
  have hfailed : (ofDay.filter fun r => r.run.status = .failed).length ≤
      (ofDay.filter fun r => !decide (r.run.status = .completed)).length := by
    refine (List.monotone_filter_right _ fun r hr => ?_).length_le
    rw [decide_eq_true_eq] at hr
    simp [hr]
  rw [h.completed, h.failed, h.runs]
  omega

/-- No day of the series is without a run. -/
theorem runs_pos_of_mem_timeSeries {date : ℕ → ℕ} {day : TimeSeriesDay}
    (h : day ∈ db.timeSeries datasetId date) : 0 < day.runs := by
  have hin : day.date ∈ db.daysWithRuns datasetId date := by
    have hmem : day.date ∈ (db.timeSeries datasetId date).map TimeSeriesDay.date :=
      List.mem_map_of_mem h
    rw [map_date_timeSeries, List.mem_reverse] at hmem
    exact (List.mem_insertionSort _).mp (List.mem_of_mem_take hmem)
  obtain ⟨r, hr, hkey⟩ := Sql.mem_groupKeys.mp hin
  rw [(shows_of_mem_timeSeries h).runs]
  exact List.length_pos_of_mem (Sql.mem_group.mpr ⟨hr, hkey⟩)

/-- A series of 90 days at most has every run of the scope. -/
theorem date_mem_timeSeries {date : ℕ → ℕ} (h : (db.daysWithRuns datasetId date).length ≤ 90)
    {r : StoredRun} (hr : r ∈ db.scopedRuns datasetId) :
    date r.createdAt ∈ (db.timeSeries datasetId date).map TimeSeriesDay.date := by
  rw [map_date_timeSeries, List.mem_reverse, List.take_of_length_le (by simpa using h),
    List.mem_insertionSort]
  exact Sql.mem_groupKeys.mpr ⟨r, hr, rfl⟩

theorem sum_timeSeries_of_all {date : ℕ → ℕ} (hall : (db.daysWithRuns datasetId date).length ≤ 90)
    {figure : TimeSeriesDay → ℕ} {p : StoredRun → Bool}
    (h : ∀ (day : TimeSeriesDay) ofDay, day.Shows ofDay → figure day = (ofDay.filter p).length) :
    ((db.timeSeries datasetId date).map figure).sum =
      ((db.scopedRuns datasetId).filter p).length := by
  rw [sum_timeSeries h]
  refine congrArg List.length (List.filter_congr fun r hr => ?_)
  rw [decide_eq_true (date_mem_timeSeries hall hr), Bool.true_and]

theorem modelFailures_eq :
    (db.dashboardSummary datasetId).modelFailures =
      ((db.scopedRuns datasetId).filter fun r => r.failureLabel.isSome).length := by
  rw [← length_scopedFailures, scopedFailures_eq, List.length_filterMap_eq_countP,
    List.countP_eq_length_filter]
  exact congrArg List.length (List.filter_congr fun r _ => by rw [Option.isSome_map])

end

/-- **The runs by day**: the series has the latest 90 days on which a run in the scope was
created, oldest first; each shows the runs of the day, each of them once, whatever the joins
with the evaluation rows and the costs; and a series that reaches back to the first run adds up
to the figures of the summary. -/
theorem time_series_adds_up (db : Database) (datasetId : Option ℕ) (date : ℕ → ℕ) :
    let series := db.timeSeries datasetId date
    let days := db.daysWithRuns datasetId date
    let summary := db.dashboardSummary datasetId
    (series.map TimeSeriesDay.date).Pairwise (· < ·) ∧
      Sql.IsTop (fun a b => b ≤ a) 90 days (series.map TimeSeriesDay.date).reverse ∧
      (∀ day ∈ series, day.Shows (db.runsOfDay datasetId date day.date) ∧ 0 < day.runs ∧
        day.completed + day.failed ≤ day.runs) ∧
      (days.length ≤ 90 →
        (series.map TimeSeriesDay.runs).sum = summary.totalRuns ∧
        (series.map TimeSeriesDay.completed).sum = summary.statusCounts.completed ∧
        (series.map TimeSeriesDay.failed).sum = summary.statusCounts.failed ∧
        (series.map TimeSeriesDay.failureCount).sum = summary.modelFailures) := by
  intro series days summary
  have hdates := @map_date_timeSeries db datasetId date
  have htop : Sql.IsTop (fun a b => b ≤ a) 90 days
      ((days.insertionSort fun a b => b ≤ a).take 90) := Sql.isTop_take_insertionSort days 90
  refine ⟨?_, ?_, fun day hday => ?_, fun hall => ⟨?_, ?_, ?_, ?_⟩⟩
  · -- Ordered, and no day twice.
    have hnodup : ((days.insertionSort fun a b => b ≤ a).take 90).Nodup :=
      ((List.perm_insertionSort _ _).nodup_iff.mpr (Sql.nodup_groupKeys _ _)).sublist
        (List.take_sublist _ _)
    show ((db.timeSeries datasetId date).map TimeSeriesDay.date).Pairwise (· < ·)
    rw [hdates, List.pairwise_reverse]
    exact htop.ordered.imp₂ (fun a b hle hne => lt_of_le_of_ne hle (Ne.symm hne)) hnodup
  · show Sql.IsTop _ 90 days ((db.timeSeries datasetId date).map TimeSeriesDay.date).reverse
    rw [hdates, List.reverse_reverse]
    exact htop
  · have hshows := shows_of_mem_timeSeries hday
    exact ⟨hshows, runs_pos_of_mem_timeSeries hday, hshows.counts⟩
  · have hruns := @sum_timeSeries_of_all db datasetId date hall TimeSeriesDay.runs (fun _ => true)
      fun day ofDay hshows => by rw [hshows.runs, List.filter_true]
    rwa [List.filter_true] at hruns
  · exact sum_timeSeries_of_all hall fun day ofDay hshows => hshows.completed
  · exact sum_timeSeries_of_all hall fun day ofDay hshows => hshows.failed
  · rw [show summary.modelFailures = _ from modelFailures_eq]
    exact sum_timeSeries_of_all hall fun day ofDay hshows => hshows.failureCount

/-! ## The failures -/

section

variable {db : RegistryDatabase} {datasetId : Option ℕ}

/-- The failures of the runs of a config. -/
def failuresOf (db : RegistryDatabase) (datasetId : Option ℕ) (pipelineConfigId : ℕ) :
    List (StoredRun × String) :=
  Sql.group (fun failure => failure.1.pipelineConfigId) (db.scopedFailures datasetId)
    pipelineConfigId

/-- The name of a config. -/
def RegistryDatabase.configName (db : RegistryDatabase) (id : ℕ) : String :=
  ((db.pipelineConfigs.find? fun config => config.id = id).map PipelineConfigRow.name).getD ""

/-- The row of a config and a failure type. -/
def RegistryDatabase.configFailRow (db : RegistryDatabase) (key : (ℕ × String) × ℕ) :
    ConfigFailRow where
  pipelineConfigId := key.1.1
  pipelineConfigName := db.configName key.1.1
  failureType := key.1.2
  cnt := key.2

/-- The inner join with the configs finds the one of the run. -/
theorem pipelineConfigOf_eq {failure : StoredRun × String}
    (h : failure ∈ db.scopedFailures datasetId) :
    ∃ config, db.pipelineConfigOf failure.1 = [config] ∧
      config.name = db.configName failure.1.pipelineConfigId := by
  have hrun := mem_runs_of_scoped (mem_scopedFailures.mp h).1
  obtain ⟨config, hmem, hid⟩ := List.mem_map.mp (db.pipelineConfig_exists failure.1 hrun)
  have hone := Sql.filter_key_eq db.pipelineConfigs_unique hmem
  rw [hid] at hone
  refine ⟨config, hone, ?_⟩
  rw [RegistryDatabase.configName, ← List.head?_filter, hone]
  rfl

theorem map_fst_failuresWithConfig :
    (db.failuresWithConfig datasetId).map Prod.fst = db.scopedFailures datasetId := by
  have hone : ∀ failure ∈ db.scopedFailures datasetId,
      ∃ config, db.pipelineConfigOf failure.1 = [config] :=
    fun failure hfailure => (pipelineConfigOf_eq hfailure).imp fun _ h => h.1
  have hjoin := Sql.map_fst_filter_join hone fun _ => true
  rw [List.filter_true] at hjoin
  rw [RegistryDatabase.failuresWithConfig, hjoin, List.filter_eq_self]
  intro failure hfailure
  obtain ⟨config, hrows⟩ := hone failure hfailure
  rw [hrows]
  rfl

/-- **The breakdown loses no failure and counts none twice**: its rows are the counts of the
failures by config and type. -/
theorem configFailRows_eq :
    db.configFailRows datasetId =
      (Sql.countBy (fun failure => (failure.1.pipelineConfigId, failure.2))
        (db.scopedFailures datasetId)).map db.configFailRow := by
  let byName : ℕ × String → ℕ × String × String := fun k => (k.1, db.configName k.1, k.2)
  let byType : StoredRun × String → ℕ × String := fun failure =>
    (failure.1.pipelineConfigId, failure.2)
  have hinjective : Function.Injective byName := by
    rintro ⟨p, l⟩ ⟨p', l'⟩ heq
    simp only [byName, Prod.mk.injEq] at heq
    rw [heq.1, heq.2.2]
  have hnames : ∀ x ∈ db.failuresWithConfig datasetId,
      (x.1.1.pipelineConfigId, x.2.name, x.1.2) = byName (byType x.1) := by
    intro x hx
    obtain ⟨hfailure, hconfig⟩ := Sql.mem_join.mp hx
    obtain ⟨config, hrows, hname⟩ := pipelineConfigOf_eq hfailure
    rw [hrows, List.mem_singleton] at hconfig
    rw [hconfig, hname]
  have hfst : Sql.aggregate (fun x : (StoredRun × String) × PipelineConfigRow =>
      byName (byType x.1)) List.length (db.failuresWithConfig datasetId) =
        Sql.aggregate (fun failure => byName (byType failure)) List.length
          (db.scopedFailures datasetId) := by
    rw [← map_fst_failuresWithConfig, Sql.aggregate_length_map]
  rw [RegistryDatabase.configFailRows, Sql.countBy, Sql.aggregate_congr _ hnames, hfst,
    Sql.aggregate_comp hinjective, List.map_map]
  rfl

/-- The failures of a config with a type. -/
def failuresOfType (db : RegistryDatabase) (datasetId : Option ℕ) (pipelineConfigId : ℕ)
    (failureType : String) : List (StoredRun × String) :=
  Sql.group (fun failure => (failure.1.pipelineConfigId, failure.2)) (db.scopedFailures datasetId)
    (pipelineConfigId, failureType)

section

variable (answers : FailureAnswers db datasetId)

/-- The rows of a config in the answer. -/
def FailureAnswers.rowsOf (pipelineConfigId : ℕ) : List ConfigFailRow :=
  answers.configFailRows.filter fun row => row.pipelineConfigId = pipelineConfigId

variable {answers}

theorem configFailRows_perm_countBy :
    answers.configFailRows.Perm ((Sql.countBy (fun failure =>
      (failure.1.pipelineConfigId, failure.2)) (db.scopedFailures datasetId)).map
        db.configFailRow) := configFailRows_eq ▸ answers.configFailRows_perm

/-- One row at most for each config and type, with the count of their failures. -/
theorem rowsOf_filter (pipelineConfigId : ℕ) (failureType : String) :
    (answers.rowsOf pipelineConfigId).filter (fun row => row.failureType = failureType) =
      if failuresOfType db datasetId pipelineConfigId failureType = [] then []
      else [db.configFailRow ((pipelineConfigId, failureType),
        (failuresOfType db datasetId pipelineConfigId failureType).length)] := by
  have hone : (Sql.countBy (fun failure : StoredRun × String =>
      (failure.1.pipelineConfigId, failure.2)) (db.scopedFailures datasetId)).filter
        (fun e => e.1 = (pipelineConfigId, failureType)) =
      if failuresOfType db datasetId pipelineConfigId failureType = [] then []
      else [((pipelineConfigId, failureType),
        (failuresOfType db datasetId pipelineConfigId failureType).length)] :=
    Sql.filter_aggregate List.length (pipelineConfigId, failureType)
  have hperm := (@configFailRows_perm_countBy db datasetId answers).filter fun row =>
    decide (row.failureType = failureType) && decide (row.pipelineConfigId = pipelineConfigId)
  have hkey : ∀ e : (ℕ × String) × ℕ,
      (decide ((db.configFailRow e).failureType = failureType) &&
        decide ((db.configFailRow e).pipelineConfigId = pipelineConfigId)) =
          decide (e.1 = (pipelineConfigId, failureType)) := by
    intro e
    rw [← Bool.decide_and, decide_eq_decide, Prod.ext_iff, and_comm]
    exact Iff.rfl
  rw [List.filter_map, Function.comp_def] at hperm
  simp only [hkey, hone] at hperm
  rw [FailureAnswers.rowsOf, List.filter_filter]
  by_cases hnone : failuresOfType db datasetId pipelineConfigId failureType = []
  · rw [if_pos hnone] at hperm ⊢
    exact List.perm_nil.mp hperm
  · rw [if_neg hnone] at hperm ⊢
    exact List.perm_singleton.mp hperm

/-- The types of the rows of a config are distinct. -/
theorem nodup_types_rowsOf (pipelineConfigId : ℕ) :
    ((answers.rowsOf pipelineConfigId).map ConfigFailRow.failureType).Nodup := by
  have hkeys : (answers.configFailRows.map fun row =>
      (row.pipelineConfigId, row.failureType)).Nodup := by
    refine ((@configFailRows_perm_countBy db datasetId answers).map _).nodup_iff.mpr ?_
    have hnodup := Sql.nodup_groupKeys (fun failure : StoredRun × String =>
      (failure.1.pipelineConfigId, failure.2)) (db.scopedFailures datasetId)
    rw [← Sql.map_fst_aggregate _ List.length] at hnodup
    rw [List.map_map]
    exact hnodup
  refine List.Nodup.of_map (fun failureType => (pipelineConfigId, failureType)) ?_
  rw [List.map_map]
  have hsame : (answers.rowsOf pipelineConfigId).map
      ((fun failureType => (pipelineConfigId, failureType)) ∘ ConfigFailRow.failureType) =
        (answers.rowsOf pipelineConfigId).map fun row =>
          (row.pipelineConfigId, row.failureType) := by
    refine List.map_congr_left fun row hrow => ?_
    have hid : row.pipelineConfigId = pipelineConfigId := by
      simpa using (List.mem_filter.mp hrow).2
    rw [Function.comp_apply, hid]
  rw [hsame]
  exact hkeys.sublist (List.filter_sublist.map _)

/-- The counts of the rows of a config are its failures. -/
theorem sum_cnt_rowsOf (pipelineConfigId : ℕ) :
    ((answers.rowsOf pipelineConfigId).map ConfigFailRow.cnt).sum =
      (failuresOf db datasetId pipelineConfigId).length := by
  have hperm := ((@configFailRows_perm_countBy db datasetId answers).filter fun row =>
    decide (row.pipelineConfigId = pipelineConfigId)).map ConfigFailRow.cnt
  rw [List.filter_map, List.map_map] at hperm
  have hsum := @Sql.sum_filter_countBy _ _ _ (fun failure : StoredRun × String =>
    (failure.1.pipelineConfigId, failure.2)) (fun k => decide (k.1 = pipelineConfigId))
      (db.scopedFailures datasetId)
  rw [FailureAnswers.rowsOf, hperm.sum_eq]
  exact hsum

/-- A config is in the answer when a run of it has failed. -/
theorem exists_row_iff {pipelineConfigId : ℕ} :
    (∃ row ∈ answers.configFailRows, row.pipelineConfigId = pipelineConfigId) ↔
      ∃ failure ∈ db.scopedFailures datasetId,
        failure.1.pipelineConfigId = pipelineConfigId := by
  constructor
  · rintro ⟨row, hrow, rfl⟩
    obtain ⟨e, he, rfl⟩ := List.mem_map.mp (configFailRows_perm_countBy.mem_iff.mp hrow)
    obtain ⟨⟨failure, hfailure, hkey⟩, -⟩ := Sql.mem_aggregate.mp he
    exact ⟨failure, hfailure, congrArg Prod.fst hkey⟩
  · rintro ⟨failure, hfailure, rfl⟩
    refine ⟨_, configFailRows_perm_countBy.mem_iff.mpr (List.mem_map_of_mem
      (Sql.mem_aggregate.mpr ⟨⟨failure, hfailure, rfl⟩, rfl⟩)), rfl⟩

theorem name_of_mem_rowsOf {pipelineConfigId : ℕ} {row : ConfigFailRow}
    (h : row ∈ answers.rowsOf pipelineConfigId) :
    row.pipelineConfigId = pipelineConfigId ∧
      row.pipelineConfigName = db.configName pipelineConfigId := by
  obtain ⟨hrow, hid⟩ := List.mem_filter.mp h
  obtain ⟨e, -, rfl⟩ := List.mem_map.mp (configFailRows_perm_countBy.mem_iff.mp hrow)
  have hid : (db.configFailRow e).pipelineConfigId = pipelineConfigId := by simpa using hid
  exact ⟨hid, by rw [← hid]; rfl⟩

/-! ## The entries of the breakdown -/

variable (answers) in
/-- The entry of a config, from its rows. -/
def configEntry (pipelineConfigId : ℕ) : FailureByConfig where
  pipelineConfigId := pipelineConfigId
  pipelineConfigName := db.configName pipelineConfigId
  failureCounts := .ofList ((answers.rowsOf pipelineConfigId).map fun row =>
    (row.failureType, row.cnt))
  totalFailures := ((answers.rowsOf pipelineConfigId).map ConfigFailRow.cnt).sum

theorem foldl_add (rows : List ConfigFailRow) (entry : FailureByConfig) :
    rows.foldl FailureByConfig.add entry =
      { entry with
        failureCounts := (rows.map fun row => (row.failureType, row.cnt)).foldl
          (fun d p => d.set p.1 p.2) entry.failureCounts
        totalFailures := entry.totalFailures + (rows.map ConfigFailRow.cnt).sum } := by
  induction rows generalizing entry with
  | nil => rfl
  | cons row rows ih =>
      rw [List.foldl_cons, ih, List.map_cons, List.map_cons, List.foldl_cons, List.sum_cons,
        ← Nat.add_assoc]
      rfl

/-- **The loop over the rows** leaves the entry of each config. -/
theorem get_configMap {pipelineConfigId : ℕ}
    (h : pipelineConfigId ∈ (configMap answers.configFailRows).keys) :
    (configMap answers.configFailRows).get pipelineConfigId =
      some (configEntry answers pipelineConfigId) := by
  obtain ⟨row, hrow, hid⟩ := OrderedDict.mem_keys_collect.mp h
  have hin : row ∈ answers.rowsOf pipelineConfigId :=
    List.mem_filter.mpr ⟨hrow, decide_eq_true hid⟩
  have hfold : (configMap answers.configFailRows).get pipelineConfigId =
      OrderedDict.folded FailureByConfig.start FailureByConfig.add
        (answers.rowsOf pipelineConfigId) := OrderedDict.get_collect _ _
  rw [hfold]
  cases hrows : answers.rowsOf pipelineConfigId with
  | nil =>
      rw [hrows] at hin
      exact absurd hin List.not_mem_nil
  | cons first rest =>
      obtain ⟨hfirst, hname⟩ := name_of_mem_rowsOf (hrows ▸ List.mem_cons_self :
        first ∈ answers.rowsOf pipelineConfigId)
      rw [OrderedDict.folded, foldl_add, configEntry, hrows]
      simp only [FailureByConfig.start, hfirst, hname, Nat.zero_add]
      rfl

theorem byConfig_eq :
    (failureAnalysis answers).byConfig =
      (configMap answers.configFailRows).keys.map (configEntry answers) :=
  OrderedDict.values_eq_map _ fun _ hk => get_configMap hk

/-- The configs of the breakdown are those with a failure, in their order. -/
theorem pairwise_keys_configMap :
    (configMap answers.configFailRows).keys.Pairwise (· < ·) := by
  have hmet : (configMap answers.configFailRows).keys.Sublist
      (answers.configFailRows.map ConfigFailRow.pipelineConfigId) :=
    OrderedDict.keys_collect_sublist answers.configFailRows
  have hordered := answers.configFailRows_ordered.sublist hmet
  exact hordered.imp₂ (fun a b hle hne => lt_of_le_of_ne hle hne)
    (configMap answers.configFailRows).nodup_keys

theorem mem_keys_configMap {failure : StoredRun × String}
    (h : failure ∈ db.scopedFailures datasetId) :
    failure.1.pipelineConfigId ∈ (configMap answers.configFailRows).keys :=
  OrderedDict.mem_keys_collect.mpr (exists_row_iff.mpr ⟨failure, h, rfl⟩)

/-- What the breakdown counts for a type. -/
theorem get_failureCounts (pipelineConfigId : ℕ) (failureType : String) :
    ((configEntry answers pipelineConfigId).failureCounts.get failureType).getD 0 =
      (failuresOfType db datasetId pipelineConfigId failureType).length := by
  have hnodup : (((answers.rowsOf pipelineConfigId).map fun row =>
      (row.failureType, row.cnt)).map Prod.fst).Nodup := by
    rw [List.map_map]
    exact nodup_types_rowsOf pipelineConfigId
  have hrows := @rowsOf_filter db datasetId answers pipelineConfigId failureType
  rw [configEntry, OrderedDict.get_ofList hnodup, List.filter_map, Function.comp_def, hrows]
  split_ifs with hnone
  · rw [hnone]
    rfl
  · rfl

/-! ## The failures over all configs -/

theorem nodup_fst_failRows : (answers.failRows.map Prod.fst).Nodup := by
  rw [(answers.failRows_perm.map Prod.fst).nodup_iff]
  show ((Sql.aggregate Prod.snd List.length (db.scopedFailures datasetId)).map Prod.fst).Nodup
  rw [Sql.map_fst_aggregate]
  exact Sql.nodup_groupKeys _ _

theorem sum_overallCounts :
    (failureAnalysis answers).overallCounts.values.sum =
      (db.scopedFailures datasetId).length := by
  have hvalues : (failureAnalysis answers).overallCounts.values =
      answers.failRows.map Prod.snd := OrderedDict.values_ofList nodup_fst_failRows
  rw [hvalues, (answers.failRows_perm.map Prod.snd).sum_eq]
  exact Sql.sum_countBy Prod.snd _

theorem get_overallCounts (failureType : String) :
    ((failureAnalysis answers).overallCounts.get failureType).getD 0 =
      (Sql.group Prod.snd (db.scopedFailures datasetId) failureType).length := by
  have hget : (failureAnalysis answers).overallCounts.get failureType =
      ((answers.failRows.filter fun p => p.1 = failureType).head?).map Prod.snd :=
    OrderedDict.get_ofList nodup_fst_failRows failureType
  have hperm := answers.failRows_perm.filter fun p => decide (p.1 = failureType)
  have hone : (db.failRows datasetId).filter (fun p => p.1 = failureType) =
      if Sql.group Prod.snd (db.scopedFailures datasetId) failureType = [] then []
      else [(failureType, (Sql.group Prod.snd (db.scopedFailures datasetId) failureType).length)] :=
    Sql.filter_aggregate List.length failureType
  rw [hget]
  rw [hone] at hperm
  by_cases hnone : Sql.group Prod.snd (db.scopedFailures datasetId) failureType = []
  · rw [if_pos hnone] at hperm
    rw [List.perm_nil.mp hperm, hnone]
    rfl
  · rw [if_neg hnone] at hperm
    rw [List.perm_singleton.mp hperm]
    rfl

/-- A count over the configs of the breakdown. -/
theorem sum_failuresOf (p : StoredRun × String → Bool) :
    ((configMap answers.configFailRows).keys.map fun pipelineConfigId =>
      ((failuresOf db datasetId pipelineConfigId).filter p).length).sum =
        ((db.scopedFailures datasetId).filter p).length := by
  have hsum := @Sql.sum_length_group _ _ _ (fun failure : StoredRun × String =>
    failure.1.pipelineConfigId) _ (configMap answers.configFailRows).nodup_keys
      ((db.scopedFailures datasetId).filter p)
  have hall : (((db.scopedFailures datasetId).filter p).filter fun failure =>
      failure.1.pipelineConfigId ∈ (configMap answers.configFailRows).entries.map Prod.fst) =
        (db.scopedFailures datasetId).filter p :=
    List.filter_eq_self.mpr fun failure hfailure =>
      decide_eq_true (mem_keys_configMap (List.mem_of_mem_filter hfailure))
  rw [hall] at hsum
  rw [← hsum]
  refine congrArg List.sum (List.map_congr_left fun pipelineConfigId _ => ?_)
  rw [failuresOf, Sql.group, List.filter_comm]
  rfl

/-- The failures of a config are its runs with a failure label. -/
theorem length_failuresOf (pipelineConfigId : ℕ) :
    (failuresOf db datasetId pipelineConfigId).length =
      ((db.scopedRuns datasetId).filter fun r =>
        r.failureLabel.isSome && r.pipelineConfigId = pipelineConfigId).length := by
  rw [failuresOf, Sql.group, scopedFailures_eq, List.filter_filterMap,
    List.length_filterMap_eq_countP, List.countP_eq_length_filter]
  refine congrArg List.length (List.filter_congr fun r _ => ?_)
  cases r.failureLabel with
  | none => rfl
  | some label => by_cases hid : r.pipelineConfigId = pipelineConfigId <;> simp [hid, Option.filter]

/-- The rounded percentages of the counts. -/
theorem abs_sum_percentages_sub_le (counts : OrderedDict String ℕ) (hpos : 0 < counts.values.sum) :
    |(overallPercentages counts).values.sum - 100| ≤ counts.keys.length / 20 := by
  let exact : List ℚ := counts.values.map fun v : ℕ => (v : ℚ) / counts.values.sum * 100
  have htotal : (0 : ℚ) < counts.values.sum := by exact_mod_cast hpos
  have hvalues : (overallPercentages counts).values = exact.map (Python.roundTo 1) := by
    rw [overallPercentages, if_pos hpos, OrderedDict.values_mapValues, List.map_map]
    rfl
  have hexact : exact.sum = 100 := by
    have hscale : exact = counts.values.map fun v : ℕ => (v : ℚ) * (100 / counts.values.sum) :=
      List.map_congr_left fun v _ => by ring
    have hcast : (counts.values.map fun v : ℕ => (v : ℚ)).sum = (counts.values.sum : ℕ) :=
      (Nat.cast_list_sum counts.values).symm
    rw [hscale, List.sum_map_mul_right, hcast]
    field_simp
  have hround := Python.abs_sum_roundTo_sub_le 1 exact
  rw [← hvalues, hexact, List.length_map] at hround
  rw [OrderedDict.length_keys]
  linarith

/-- What `recent_failed_runs` shows of a run. -/
def RecentFailedRun.of (r : StoredRun) : RecentFailedRun where
  runId := r.run.id
  status := r.run.status
  createdAt := r.createdAt
  failureType := r.evaluations.head?.bind EvaluationResult.failureType
  pipelineConfigId := r.pipelineConfigId

/-- The failed runs in the scope. -/
def Database.failedRuns (db : Database) (datasetId : Option ℕ) : List StoredRun :=
  (db.scopedRuns datasetId).filter fun r => r.run.status = .failed

/-- **The last failed runs**, whatever the outer join with the evaluation rows. -/
theorem recentFailedRuns_eq (db : Database) (datasetId : Option ℕ) :
    db.recentFailedRuns datasetId =
      (((db.failedRuns datasetId).insertionSort fun a b => newestFirst a b = true).take 10).map
        RecentFailedRun.of := by
  have hjoin : (Sql.leftJoin StoredRun.evaluations db.runs).filter (fun x =>
      x.1.run.status = .failed && db.dashboardAggregateRunScope datasetId x.1) =
        (db.failedRuns datasetId).map fun r => (r, r.evaluations.head?) := by
    have hone : ∀ r ∈ db.runs, (StoredRun.evaluations r).length ≤ 1 := db.evaluation_unique
    rw [Sql.leftJoin_eq_map hone, List.filter_map, Database.failedRuns,
      Database.scopedRuns, List.filter_filter]
    rfl
  have hsort := List.map_insertionSort (fun a b => newestFirst a b = true)
    (fun a b : StoredRun × Option EvaluationResult => newestFirst a.1 b.1 = true)
    (fun r => (r, r.evaluations.head?)) (db.failedRuns datasetId) fun _ _ _ _ => Iff.rfl
  rw [Database.recentFailedRuns, hjoin, Sql.orderBy, ← hsort, Sql.page, List.drop_zero,
    ← List.map_take, List.map_map]
  rfl

end

end

/-- A completed run with a failure label. -/
def labelledRun (id pipelineConfigId : ℕ) (label : String) : StoredRun where
  run :=
    { createRun id .completed none with
      evaluationResults := [{ legacyEvaluation with failureType := some label }] }
  queryCaseId := 1
  pipelineConfigId := pipelineConfigId
  createdAt := id

/-- Three runs that failed, on two configs. -/
def failingDatabase : RegistryDatabase where
  queryCases := [{ id := 1, datasetId := 1, queryText := "a question without an answer" }]
  runs :=
    [labelledRun 1 2 "RETRIEVAL_MISS", labelledRun 2 1 "RETRIEVAL_MISS",
      labelledRun 3 2 "CONTEXT_TRUNCATION"]
  queryCases_unique := by decide
  runs_unique := by decide
  queryCase_exists := by simp [labelledRun]
  generation_unique := by simp [labelledRun, createRun]
  evaluation_unique := by simp [labelledRun]
  pipelineConfigs := [1, 2].map fun id =>
    { id := id
      name := "config"
      embeddingModel := "model"
      chunkStrategy := "fixed"
      chunkSize := 100
      chunkOverlap := 0
      topK := 5
      metadataJson := none }
  pipelineConfigs_unique := by decide
  pipelineConfig_exists := by simp [labelledRun]

end ContextLens
