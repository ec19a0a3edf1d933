import ContextLens.Database

/-!
# The runs list and the dashboard summary

`app/services/run_list.py` and the counts and costs of
`app/services/dashboard_summary.py`, query by query.

Both count and filter by the SQL buckets and show the bucket that Python resolves.
Where a row is in neither SQL bucket the run drops out of both counts and of both
filtered lists, although its list item says *heuristic*: the three statements of
`evaluator_buckets_partition_iff` hold on exactly those databases all of whose
evaluation rows are classified.
-/

namespace ContextLens

open Foundations

/-! ## The runs list -/

/-- The query parameters that filter the list. -/
structure RunListFilter where
  datasetId : Option ℕ
  pipelineConfigId : Option ℕ
  evaluatorType : Option EvaluatorType
  status : Option String

/-- A row of the select: a run, its evaluation row if any, and its query case. -/
abbrev RunListRow := (StoredRun × QueryCase) × Option EvaluationResult

/-- `RunListItem`. -/
structure RunListItem where
  runId : ℕ
  status : RunStatus
  createdAt : ℕ
  datasetId : ℕ
  queryCaseId : ℕ
  pipelineConfigId : ℕ
  queryText : String
  retrievalLatencyMs : Option ℕ
  generationLatencyMs : Option ℕ
  evaluationLatencyMs : Option ℕ
  totalLatencyMs : Option ℕ
  evaluatorType : Option EvaluatorType
  hasEvaluation : Bool

/-- What the list shows of a row; `none` for the evaluator type is `"none"`. -/
def RunListRow.item (row : RunListRow) : RunListItem where
  runId := row.1.1.run.id
  status := row.1.1.run.status
  createdAt := row.1.1.createdAt
  datasetId := row.1.2.datasetId
  queryCaseId := row.1.1.queryCaseId
  pipelineConfigId := row.1.1.pipelineConfigId
  queryText := row.1.2.queryText
  retrievalLatencyMs := row.1.1.run.retrievalLatencyMs
  generationLatencyMs := row.1.1.run.generationLatencyMs
  evaluationLatencyMs := row.1.1.run.evaluationLatencyMs
  totalLatencyMs := row.1.1.run.totalLatencyMs
  evaluatorType := row.2.map EvaluationResult.evaluatorType
  hasEvaluation := row.2.isSome

/-- The conditions on the run and its query case. -/
def RunListFilter.keeps (filter : RunListFilter) (row : StoredRun × QueryCase) : Bool :=
  (match filter.datasetId with
    | some datasetId => decide (row.2.datasetId = datasetId)
    | none => true) &&
  (match filter.pipelineConfigId with
    | some pipelineConfigId => decide (row.1.pipelineConfigId = pipelineConfigId)
    | none => true) &&
  (match filter.status with
    | some status => decide (row.1.run.status.text = status)
    | none => true)

/-- `ORDER BY created_at DESC, id DESC`. -/
def newestFirst (a b : StoredRun) : Bool :=
  decide (b.createdAt < a.createdAt ∨ b.createdAt = a.createdAt ∧ b.run.id ≤ a.run.id)

namespace Database

variable (db : Database)

/-- `_base_select`. -/
def baseSelect : List (StoredRun × QueryCase) := Sql.join db.queryCaseOf db.runs

/-- The selected rows: with an evaluator type the inner join with its bucket, and
otherwise the outer join. -/
def listRows (filter : RunListFilter) : List RunListRow :=
  match filter.evaluatorType with
  | some bucket =>
      (((Sql.join (fun row => row.1.evaluations) db.baseSelect).filter
        fun x => (sqlBucket bucket x.2).holds).filter fun x => filter.keeps x.1).map
          fun x => (x.1, some x.2)
  | none =>
      (Sql.leftJoin (fun row => row.1.evaluations) db.baseSelect).filter
        fun x => filter.keeps x.1

/-- `count_runs`. -/
def countRuns (filter : RunListFilter) : ℕ :=
  match filter.evaluatorType with
  | some bucket =>
      ((Sql.join (fun row => row.1.evaluations) (db.baseSelect.filter filter.keeps)).filter
        fun x => (sqlBucket bucket x.2).holds).length
  | none => (db.baseSelect.filter filter.keeps).length

/-- The items of the whole list, newest first. -/
def listItems (filter : RunListFilter) : List RunListItem :=
  (Sql.orderBy (fun a b => newestFirst a.1.1 b.1.1) (db.listRows filter)).map RunListRow.item

/-- `list_runs`. -/
def listRuns (filter : RunListFilter) (limit offset : ℕ) : List RunListItem × ℕ :=
  (Sql.page limit offset (db.listItems filter), db.countRuns filter)

end Database

/-! ## The dashboard summary -/

/-- `DashboardEvaluatorCounts`. -/
structure DashboardEvaluatorCounts where
  heuristicRuns : ℕ
  llmRuns : ℕ
  runsWithoutEvaluation : ℕ

/-- `DashboardStatusCounts`. -/
structure DashboardStatusCounts where
  completed : ℕ
  failed : ℕ
  inProgress : ℕ

/-- `DashboardScaleMetrics`, without the sizes of the tables `datasets`, `documents`
and `chunks`. -/
structure DashboardScaleMetrics where
  totalQueries : ℕ
  totalTracedRuns : ℕ
  configsTested : ℕ
  uniqueQueryCasesWithRuns : ℕ

/-- `DashboardCostSummary`. -/
structure DashboardCostSummary where
  totalCostUsd : Option ℚ
  avgCostUsd : Option ℚ
  evaluationRowsWithCost : ℕ
  evaluationRowsCostNotAvailable : ℕ
  avgCostUsdPerLlmRun : Option ℚ
  llmRunsWithMeasuredCost : ℕ
  avgCostUsdPerFullRagRun : Option ℚ
  fullRagRunsWithMeasuredCost : ℕ

/-- `DashboardRecentRun`. -/
structure DashboardRecentRun where
  runId : ℕ
  status : RunStatus
  createdAt : ℕ
  evaluatorType : Option EvaluatorType
  totalLatencyMs : Option ℕ
  costUsd : Option ℚ
  failureType : Option String

/-- `DashboardSummaryResponse`, without the latency distributions and the evidence
sections of other services. -/
structure DashboardSummary where
  totalRuns : ℕ
  scale : DashboardScaleMetrics
  statusCounts : DashboardStatusCounts
  evaluatorCounts : DashboardEvaluatorCounts
  cost : DashboardCostSummary
  failureTypeCounts : List (String × ℕ)
  modelFailures : ℕ
  recentRuns : List DashboardRecentRun

namespace Database

variable (db : Database)

/-- The runs in the scope of the dashboard. -/
def scopedRuns (datasetId : Option ℕ) : List StoredRun :=
  db.runs.filter (db.dashboardAggregateRunScope datasetId)

/-- `runs JOIN evaluation_results`, in the scope. -/
def scopedEvaluations (datasetId : Option ℕ) : List (StoredRun × EvaluationResult) :=
  (Sql.join StoredRun.evaluations db.runs).filter
    fun x => db.dashboardAggregateRunScope datasetId x.1

/-- `COUNT(DISTINCT runs.id)` over the evaluation rows of a bucket. -/
def bucketRuns (bucket : EvaluatorType) (datasetId : Option ℕ) : ℕ :=
  Sql.countDistinct (fun x => x.1.run.id)
    ((Sql.join StoredRun.evaluations db.runs).filter fun x =>
      (sqlBucket bucket x.2).holds && db.dashboardAggregateRunScope datasetId x.1)

/-- The counts by evaluator. -/
def evaluatorCounts (datasetId : Option ℕ) : DashboardEvaluatorCounts where
  heuristicRuns := db.bucketRuns .heuristic datasetId
  llmRuns := db.bucketRuns .llm datasetId
  runsWithoutEvaluation :=
    ((Sql.leftJoin StoredRun.evaluations db.runs).filter fun x =>
      x.2.isNone && db.dashboardAggregateRunScope datasetId x.1).length

/-- The counts by status. -/
def statusCounts (datasetId : Option ℕ) : DashboardStatusCounts where
  completed := ((db.scopedRuns datasetId).filter fun r => r.run.status = .completed).length
  failed := ((db.scopedRuns datasetId).filter fun r => r.run.status = .failed).length
  inProgress := ((db.scopedRuns datasetId).filter fun r =>
    r.run.status ∉ [RunStatus.completed, RunStatus.failed]).length

/-- The sizes. -/
def scaleMetrics (datasetId : Option ℕ) : DashboardScaleMetrics where
  totalQueries := (db.queryCasesOf datasetId).length
  totalTracedRuns := ((db.scopedRuns datasetId).filter fun r => !r.evaluations.isEmpty).length
  configsTested := Sql.countDistinct StoredRun.pipelineConfigId (db.scopedRuns datasetId)
  uniqueQueryCasesWithRuns := Sql.countDistinct StoredRun.queryCaseId (db.scopedRuns datasetId)

/-- `SUM(cost_usd)` of each run with a measured cost among the LLM rows that `keeps`
keeps. -/
def llmCostPerRun (datasetId : Option ℕ) (keeps : StoredRun → Bool) : List (Option ℚ) :=
  let rows := (db.scopedEvaluations datasetId).filter fun x =>
    x.2.costUsd.isSome && (sqlBucket .llm x.2).holds && keeps x.1
  (Sql.groupKeys (fun x => x.1.run.id) rows).map fun runId =>
    Sql.sum ((Sql.group (fun x => x.1.run.id) rows runId).map fun x => x.2.costUsd)

/-- The costs. -/
def costSummary (datasetId : Option ℕ) : DashboardCostSummary :=
  let costs := (db.scopedEvaluations datasetId).map fun x => x.2.costUsd
  let perLlmRun := db.llmCostPerRun datasetId fun _ => true
  let perFullRagRun := db.llmCostPerRun datasetId fun r => !r.run.generationResults.isEmpty
  { totalCostUsd := Sql.sum costs
    avgCostUsd := Sql.avg costs
    evaluationRowsWithCost := (costs.filter Option.isSome).length
    evaluationRowsCostNotAvailable := (costs.filter Option.isNone).length
    avgCostUsdPerLlmRun := Sql.avg perLlmRun
    llmRunsWithMeasuredCost := perLlmRun.length
    avgCostUsdPerFullRagRun := Sql.avg perFullRagRun
    fullRagRunsWithMeasuredCost := perFullRagRun.length }

/-- The failure labels in the scope. -/
def scopedFailureTypes (datasetId : Option ℕ) : List String :=
  ((db.scopedEvaluations datasetId).filterMap fun x => x.2.failureType).filter
    fun failureType => failureType ≠ ""

/-- The last runs. -/
def recentRuns (datasetId : Option ℕ) : List DashboardRecentRun :=
  (Sql.page 20 0 (Sql.orderBy (fun a b => newestFirst a.1.1 b.1.1)
    ((Sql.leftJoin (fun row : StoredRun × QueryCase => row.1.evaluations) db.baseSelect).filter
      fun x => db.dashboardAggregateRunScope datasetId x.1.1))).map fun x =>
    { runId := x.1.1.run.id
      status := x.1.1.run.status
      createdAt := x.1.1.createdAt
      evaluatorType := x.2.map EvaluationResult.evaluatorType
      totalLatencyMs := x.1.1.run.totalLatencyMs
      costUsd := x.2.bind EvaluationResult.costUsd
      failureType := (x.2.bind EvaluationResult.failureType).filter fun label => label ≠ "" }

/-- `get_dashboard_summary`. -/
def dashboardSummary (datasetId : Option ℕ) : DashboardSummary where
  totalRuns := (db.scopedRuns datasetId).length
  scale := db.scaleMetrics datasetId
  statusCounts := db.statusCounts datasetId
  evaluatorCounts := db.evaluatorCounts datasetId
  cost := db.costSummary datasetId
  failureTypeCounts :=
    (Sql.groupKeys id (db.scopedFailureTypes datasetId)).map fun failureType =>
      (failureType, (Sql.group id (db.scopedFailureTypes datasetId) failureType).length)
  modelFailures :=
    ((db.scopedFailureTypes datasetId).filter fun label => label ≠ "NO_FAILURE").length
  recentRuns := db.recentRuns datasetId

end Database

/-! ## What is claimed of the reports -/

/-- The bucket of a row by the ORM expression, as a query of that bucket has it. -/
def ormBucket : EvaluatorType → EvaluationResult → SqlBool
  | .llm, row => evaluationInLlmBucket row
  | .heuristic, row => SqlBool.not (evaluationInLlmBucket row)

namespace Database

variable (db : Database)

/-- Every evaluation row is in exactly one SQL bucket, the one that Python names. -/
def BucketsPartition : Prop :=
  ∀ row ∈ db.evaluationResults, ∀ bucket,
    ((sqlBucket bucket row).holds = true ↔ row.evaluatorType = bucket) ∧
      ((ormBucket bucket row).holds = true ↔ row.evaluatorType = bucket)

/-- The counts by evaluator add up, globally and for every dataset. -/
def CountsAddUp : Prop :=
  ∀ datasetId,
    (db.dashboardSummary datasetId).evaluatorCounts.heuristicRuns +
        (db.dashboardSummary datasetId).evaluatorCounts.llmRuns +
        (db.dashboardSummary datasetId).evaluatorCounts.runsWithoutEvaluation =
      (db.dashboardSummary datasetId).totalRuns

/-- The list of a bucket is the list of the items that carry it, with any other
filters, on every page. -/
def ListsByBucket : Prop :=
  ∀ (filter : RunListFilter) (bucket : EvaluatorType) (limit offset : ℕ),
    let carrying := (db.listItems { filter with evaluatorType := none }).filter
      fun item => item.evaluatorType = some bucket
    db.listRuns { filter with evaluatorType := some bucket } limit offset =
      (Sql.page limit offset carrying, carrying.length)

/-- Every evaluation row used the judge or names its evaluator. -/
def AllClassified : Prop := ∀ row ∈ db.evaluationResults, row.classified = true

end Database

/-! ## The buckets -/

section

variable {db : Database}

theorem ormBucket_eq (bucket : EvaluatorType) (row : EvaluationResult) :
    ormBucket bucket row = sqlBucket bucket row := by
  cases bucket <;> rfl

theorem bucketsPartition_iff : db.BucketsPartition ↔ db.AllClassified := by
  constructor
  · intro h row hrow
    by_contra hunclassified
    rw [Bool.not_eq_true] at hunclassified
    have hlost := sqlBucket_of_not_classified hunclassified
    -- Python names the heuristic bucket, and SQL keeps the row in neither.
    have hnamed := ((h row hrow .heuristic).1).mpr hlost.1
    rw [hlost.2 .heuristic] at hnamed
    exact Bool.noConfusion hnamed
  · intro h row hrow bucket
    rw [ormBucket_eq]
    exact ⟨sqlBucket_holds_iff (h row hrow) bucket, sqlBucket_holds_iff (h row hrow) bucket⟩

/-! ## The counts -/

/-- Whether the run has an evaluation row in the SQL bucket. -/
def StoredRun.inBucket (r : StoredRun) (bucket : EvaluatorType) : Bool :=
  r.evaluations.any fun row => (sqlBucket bucket row).holds

/-- Whether the run has an evaluation row that no SQL bucket has. -/
def StoredRun.lost (r : StoredRun) : Bool := r.evaluations.any fun row => !row.classified

/-- A run is in exactly one of: the two buckets, those without an evaluation row, and
those whose row is lost. -/
theorem StoredRun.one_of_four {r : StoredRun} (h : r.evaluations.length ≤ 1) :
    (r.inBucket .heuristic).toNat + (r.inBucket .llm).toNat + r.evaluations.isEmpty.toNat +
      r.lost.toNat = 1 := by
  match hrows : r.evaluations with
  | [] => simp [StoredRun.inBucket, StoredRun.lost, hrows]
  | [row] =>
      -- A lost row is one that no bucket has, and no row is in both.
      have hone := row.one_bucket
      simp only [StoredRun.inBucket, StoredRun.lost, hrows, List.any_cons, List.any_nil,
        Bool.or_false, List.isEmpty_cons, Bool.toNat_false]
      cases hclassified : row.classified with
      | true =>
          rw [hclassified, Bool.toNat_true] at hone
          simp only [Bool.not_true, Bool.toNat_false]
          omega
      | false =>
          rw [hclassified, Bool.toNat_false] at hone
          simp only [Bool.not_false, Bool.toNat_true]
          omega
  | _ :: _ :: _ => simp [hrows] at h

/-- Counting the four kinds of runs. -/
theorem length_filter_four {runs : List StoredRun}
    (h : ∀ r ∈ runs, r.evaluations.length ≤ 1) :
    (runs.filter fun r => r.inBucket .heuristic).length +
        (runs.filter fun r => r.inBucket .llm).length +
        (runs.filter fun r => r.evaluations.isEmpty).length +
        (runs.filter StoredRun.lost).length = runs.length := by
  induction runs with
  | nil => rfl
  | cons r runs ih =>
      have hone := StoredRun.one_of_four (h r List.mem_cons_self)
      have hrest := ih fun r' hr' => h r' (List.mem_cons_of_mem r hr')
      have hcons : ∀ p : StoredRun → Bool,
          ((r :: runs).filter p).length = (p r).toNat + (runs.filter p).length := by
        intro p
        rw [List.filter_cons]
        cases p r <;> simp [Nat.add_comm]
      rw [hcons, hcons, hcons, hcons, List.length_cons]
      omega

theorem bucketRuns_eq (bucket : EvaluatorType) (datasetId : Option ℕ) :
    db.bucketRuns bucket datasetId =
      ((db.scopedRuns datasetId).filter fun r => r.inBucket bucket).length := by
  rw [Database.bucketRuns, Sql.countDistinct_join db.runs_unique, Database.scopedRuns,
    List.filter_filter]
  refine congrArg List.length (List.filter_congr fun r _ => ?_)
  rw [StoredRun.inBucket]
  cases hscope : db.dashboardAggregateRunScope datasetId r <;> simp [hscope]

theorem runsWithoutEvaluation_eq (datasetId : Option ℕ) :
    (db.evaluatorCounts datasetId).runsWithoutEvaluation =
      ((db.scopedRuns datasetId).filter fun r => r.evaluations.isEmpty).length := by
  rw [Database.evaluatorCounts, Sql.length_filter_leftJoin_isNone, Database.scopedRuns,
    List.filter_filter]

/-- **What the counts miss**: the runs in scope whose row is in no SQL bucket. -/
theorem counts_add_lost (db : Database) (datasetId : Option ℕ) :
    (db.evaluatorCounts datasetId).heuristicRuns + (db.evaluatorCounts datasetId).llmRuns +
        (db.evaluatorCounts datasetId).runsWithoutEvaluation +
        ((db.scopedRuns datasetId).filter StoredRun.lost).length =
      (db.scopedRuns datasetId).length := by
  rw [runsWithoutEvaluation_eq, Database.evaluatorCounts, bucketRuns_eq, bucketRuns_eq]
  exact length_filter_four fun r hr => db.evaluation_unique r (List.mem_filter.mp hr).1

/-- A run is in the scope of the dataset of its query case. -/
theorem exists_scope {r : StoredRun} (hr : r ∈ db.runs) :
    ∃ datasetId, r ∈ db.scopedRuns (some datasetId) := by
  obtain ⟨qc, hqc, hid⟩ := db.queryCase_exists r hr
  refine ⟨qc.datasetId, List.mem_filter.mpr ⟨hr, ?_⟩⟩
  have hmem : qc ∈ db.queryCasesOf (some qc.datasetId) := by
    simp [Database.queryCasesOf, hqc]
  rw [Database.dashboardAggregateRunScope, decide_eq_true_eq, ← hid]
  exact List.mem_map_of_mem hmem

theorem countsAddUp_iff : db.CountsAddUp ↔ db.AllClassified := by
  constructor
  · intro h row hrow
    obtain ⟨r, hr, hrow⟩ := List.mem_flatMap.mp hrow
    obtain ⟨datasetId, hscope⟩ := exists_scope hr
    -- A run with such a row is missing from the sum of its own dataset.
    by_contra hunclassified
    have hlost : r.lost = true := List.any_eq_true.mpr ⟨row, hrow, by simpa using hunclassified⟩
    have hpos : 0 < ((db.scopedRuns (some datasetId)).filter StoredRun.lost).length :=
      List.length_pos_of_mem (List.mem_filter.mpr ⟨hscope, hlost⟩)
    have hsum := h (some datasetId)
    have hall := counts_add_lost db (some datasetId)
    simp only [Database.dashboardSummary] at hsum
    omega
  · intro h datasetId
    have hnone : (db.scopedRuns datasetId).filter StoredRun.lost = [] := by
      refine List.filter_eq_nil_iff.mpr fun r hr hlost => ?_
      obtain ⟨row, hrow, hunclassified⟩ := List.any_eq_true.mp hlost
      have hclassified := h row (List.mem_flatMap.mpr ⟨r, (List.mem_filter.mp hr).1, hrow⟩)
      rw [hclassified] at hunclassified
      exact Bool.noConfusion hunclassified
    have hall := counts_add_lost db datasetId
    rw [hnone] at hall
    exact hall

/-! ## The lists -/

theorem newestFirst_total (a b : StoredRun) :
    newestFirst a b = true ∨ newestFirst b a = true := by
  simp only [newestFirst, decide_eq_true_eq]
  omega

theorem newestFirst_trans {a b c : StoredRun} (hab : newestFirst a b = true)
    (hbc : newestFirst b c = true) : newestFirst a c = true := by
  simp only [newestFirst, decide_eq_true_eq] at hab hbc ⊢
  omega

/-- Two runs that tie are one. -/
theorem newestFirst_antisymm {a b : StoredRun} (ha : a ∈ db.runs) (hb : b ∈ db.runs)
    (hab : newestFirst a b = true) (hba : newestFirst b a = true) : a = b := by
  simp only [newestFirst, decide_eq_true_eq] at hab hba
  have hid : a.run.id = b.run.id := by omega
  exact List.inj_on_of_nodup_map db.runs_unique ha hb hid

/-- A selected row is a run of the database, its query case and its evaluation row. -/
theorem mem_leftJoin_baseSelect {row : RunListRow}
    (h : row ∈ Sql.leftJoin (fun row : StoredRun × QueryCase => row.1.evaluations)
      db.baseSelect) :
    row.1.1 ∈ db.runs ∧ db.queryCaseOf row.1.1 = [row.1.2] ∧
      row.1.1.evaluations = row.2.toList := by
  obtain ⟨hbase, hevaluation⟩ := Sql.mem_leftJoin.mp h
  obtain ⟨hrun, hqc⟩ := Sql.mem_join.mp hbase
  obtain ⟨qc, hqueryCase, -⟩ := Database.queryCaseOf_eq hrun
  rw [hqueryCase, List.mem_singleton] at hqc
  refine ⟨hrun, by rw [hqueryCase, hqc], ?_⟩
  rcases hevaluation with ⟨hnone, hrows⟩ | ⟨row', hrow', hsome⟩
  · rw [hnone]
    exact hrows
  · rw [hsome]
    have hunique := db.evaluation_unique row.1.1 hrun
    change row' ∈ row.1.1.evaluations at hrow'
    match hrows : row.1.1.evaluations with
    | [] => simp [hrows] at hrow'
    | [only] =>
        rw [hrows, List.mem_singleton] at hrow'
        rw [hrow']
        rfl
    | _ :: _ :: _ =>
        rw [show row.1.1.run.evaluationResults = _ from hrows] at hunique
        simp at hunique

/-- The rows of a bucket are the rows of the outer join whose evaluation row the SQL
bucket keeps. -/
theorem listRows_bucket (filter : RunListFilter) (bucket : EvaluatorType) :
    db.listRows { filter with evaluatorType := some bucket } =
      (db.listRows { filter with evaluatorType := none }).filter fun x =>
        x.2.any fun row => (sqlBucket bucket row).holds := by
  have hmatched : (Sql.leftJoin (fun row : StoredRun × QueryCase => row.1.evaluations)
      db.baseSelect).filter (fun x => x.2.any fun row => (sqlBucket bucket row).holds) =
        ((Sql.join (fun row => row.1.evaluations) db.baseSelect).filter
          fun x => (sqlBucket bucket x.2).holds).map fun x => (x.1, some x.2) :=
    Sql.filter_leftJoin fun _ row => (sqlBucket bucket row).holds
  have hcomm := List.filter_comm (fun x : RunListRow => filter.keeps x.1)
    (fun x => x.2.any fun row => (sqlBucket bucket row).holds)
    (Sql.leftJoin (fun row : StoredRun × QueryCase => row.1.evaluations) db.baseSelect)
  rw [hmatched, List.filter_map] at hcomm
  exact hcomm

/-- The count is the number of listed rows. -/
theorem countRuns_eq (filter : RunListFilter) (bucket : EvaluatorType) :
    db.countRuns { filter with evaluatorType := some bucket } =
      (db.listRows { filter with evaluatorType := some bucket }).length := by
  simp only [Database.countRuns, Database.listRows, List.length_map]
  rw [Sql.join_filter, List.filter_comm]

/-- Two selected rows that tie are one. -/
theorem eq_of_newestFirst {a b : RunListRow}
    (ha : a ∈ Sql.leftJoin (fun row : StoredRun × QueryCase => row.1.evaluations) db.baseSelect)
    (hb : b ∈ Sql.leftJoin (fun row : StoredRun × QueryCase => row.1.evaluations) db.baseSelect)
    (hab : newestFirst a.1.1 b.1.1 = true) (hba : newestFirst b.1.1 a.1.1 = true) : a = b := by
  obtain ⟨hrun, hqc, hevaluation⟩ := mem_leftJoin_baseSelect ha
  obtain ⟨hrun', hqc', hevaluation'⟩ := mem_leftJoin_baseSelect hb
  have hsame := newestFirst_antisymm hrun hrun' hab hba
  rw [hsame, hqc', List.cons.injEq] at hqc
  rw [hsame, hevaluation'] at hevaluation
  have hrow : a.2 = b.2 := by
    cases ha2 : a.2 <;> cases hb2 : b.2 <;> simp_all
  exact Prod.ext (Prod.ext hsame hqc.1.symm) hrow

/-- Selecting rows before or after ordering them. -/
theorem filter_orderBy_newestFirst {rows : List RunListRow}
    (hrows : ∀ row ∈ rows, row ∈ Sql.leftJoin
      (fun row : StoredRun × QueryCase => row.1.evaluations) db.baseSelect)
    (p : RunListRow → Bool) :
    (Sql.orderBy (fun a b : RunListRow => newestFirst a.1.1 b.1.1) rows).filter p =
      Sql.orderBy (fun a b : RunListRow => newestFirst a.1.1 b.1.1) (rows.filter p) :=
  Sql.filter_orderBy (fun a b : RunListRow => newestFirst_total a.1.1 b.1.1)
    (fun _ _ _ => newestFirst_trans)
    (fun a ha b hb => eq_of_newestFirst (hrows a ha) (hrows b hb)) p

/-- On a classified database the rows of a bucket are those whose item carries it. -/
theorem listItems_bucket (h : db.AllClassified) (filter : RunListFilter)
    (bucket : EvaluatorType) :
    db.listItems { filter with evaluatorType := some bucket } =
      (db.listItems { filter with evaluatorType := none }).filter fun item =>
        item.evaluatorType = some bucket := by
  have hmem : ∀ row ∈ db.listRows { filter with evaluatorType := none },
      row ∈ Sql.leftJoin (fun row : StoredRun × QueryCase => row.1.evaluations) db.baseSelect :=
    fun row hrow => (List.mem_filter.mp hrow).1
  have hrows : db.listRows { filter with evaluatorType := some bucket } =
      (db.listRows { filter with evaluatorType := none }).filter fun x =>
        decide (x.item.evaluatorType = some bucket) := by
    rw [listRows_bucket]
    refine List.filter_congr fun row hrow => ?_
    obtain ⟨hrun, -, hevaluation⟩ := mem_leftJoin_baseSelect (hmem row hrow)
    cases hrow2 : row.2 with
    | none => simp [RunListRow.item, hrow2]
    | some evaluation =>
        have hin : evaluation ∈ db.evaluationResults := by
          refine List.mem_flatMap.mpr ⟨row.1.1, hrun, ?_⟩
          rw [hevaluation, hrow2]
          exact List.mem_singleton.mpr rfl
        have hbucket := sqlBucket_holds_iff (h evaluation hin) bucket
        rw [Option.any_some, Bool.eq_iff_iff, hbucket]
        simp [RunListRow.item, hrow2]
  have horder := filter_orderBy_newestFirst hmem
    fun x => decide (x.item.evaluatorType = some bucket)
  rw [Database.listItems, hrows, Database.listItems, List.filter_map, ← horder]
  rfl

theorem listsByBucket_of_allClassified (h : db.AllClassified) : db.ListsByBucket := by
  intro filter bucket limit offset carrying
  have hitems := listItems_bucket h filter bucket
  have hlength : (db.listItems { filter with evaluatorType := some bucket }).length =
      (db.listRows { filter with evaluatorType := some bucket }).length := by
    rw [Database.listItems, List.length_map, Sql.orderBy, List.length_insertionSort]
  rw [Database.listRuns, countRuns_eq, ← hlength, hitems]

end

/-- **When the evaluator buckets partition the evaluation rows**, the counts by
evaluator add up and the filtered lists are the items that carry the bucket: on the
databases all of whose evaluation rows used the judge or name their evaluator. -/
theorem evaluator_buckets_partition_iff (db : Database) :
    db.BucketsPartition ∧ db.CountsAddUp ∧ db.ListsByBucket ↔ db.AllClassified := by
  constructor
  · rintro ⟨hpartition, -, -⟩
    exact bucketsPartition_iff.mp hpartition
  · intro h
    exact ⟨bucketsPartition_iff.mpr h, countsAddUp_iff.mpr h, listsByBucket_of_allClassified h⟩

/-- An evaluation row from before rows named their evaluator. -/
def legacyEvaluation : EvaluationResult where
  faithfulness := none
  completeness := some 1
  retrievalRelevance := some 1
  contextCoverage := some 1
  groundedness := none
  failureType := some "NO_FAILURE"
  usedLlmJudge := false
  costUsd := none
  metadataJson := none

/-- One completed run with that row. -/
def legacyDatabase : Database where
  queryCases := [{ id := 1, datasetId := 1, queryText := "question" }]
  runs :=
    [{ run := { createRun 1 .completed none with evaluationResults := [legacyEvaluation] }
       queryCaseId := 1
       pipelineConfigId := 1
       createdAt := 0 }]
  queryCases_unique := by decide
  runs_unique := by decide
  queryCase_exists := by simp
  generation_unique := by simp [createRun]
  evaluation_unique := by simp

/-- Of its one run the dashboard counts none. -/
theorem legacy_run_is_not_counted :
    ¬∀ db : Database, db.BucketsPartition ∧ db.CountsAddUp ∧ db.ListsByBucket := by
  intro h
  have hsum := (h legacyDatabase).2.1 none
  exact absurd hsum (by decide)

end ContextLens
