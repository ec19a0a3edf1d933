import ContextLens.RunReports

/-!
# The metrics report

`app/metrics/aggregate.py`: one query for each metric, over the runs without the realism
tag.

Two of its rules are not applied alike.  The counts of failure types over *all* rows read
`evaluation_results` without the runs, so they have the rows of tagged runs too; and a row
that is not classified is in neither bucket, so it is in the counts of all rows and in none
of a bucket.  `metrics_add_up_iff` says that nothing else is missing.
-/

namespace ContextLens

open Foundations

/-! ## The report -/

/-- Average and 95th percentile of a latency column. -/
structure LatencyStats where
  avg : Option ℚ
  p95 : Option ℚ

/-- The metrics of `aggregate_all_metrics` that need the tables of runs.  A metric that is
reported for each bucket is a function of it. -/
structure AggregateMetrics where
  benchmarkDatasets : ℕ
  totalQueries : ℕ
  configsTested : ℕ
  totalTracedRuns : ℕ
  totalTracedRunsOf : EvaluatorType → ℕ
  evaluationRowsOf : EvaluatorType → ℕ
  retrievalLatency : LatencyStats
  generationLatency : LatencyStats
  evaluationLatency : LatencyStats
  totalLatency : LatencyStats
  evaluationLatencyOf : EvaluatorType → LatencyStats
  totalLatencyOf : EvaluatorType → LatencyStats
  avgFaithfulnessOf : EvaluatorType → Option ℚ
  avgCompletenessOf : EvaluatorType → Option ℚ
  avgRetrievalRelevanceOf : EvaluatorType → Option ℚ
  avgContextCoverageOf : EvaluatorType → Option ℚ
  avgGroundednessOf : EvaluatorType → Option ℚ
  failureTypeCountsOf : EvaluatorType → List (String × ℕ)
  failureTypeCountsAll : List (String × ℕ)
  avgEvaluationCostPerRunUsdOf : EvaluatorType → Option ℚ
  llmJudgeCallRate : Option ℚ

/-- What `aggregate_all_metrics` returns: without the required tables, only their names. -/
structure MetricsReport where
  documentCount : Option ℕ
  chunkCount : Option ℕ
  missingTables : List String
  metrics : Option AggregateMetrics

/-- The tables that the report looks for, with the rows it reads. -/
structure MetricsStore where
  tables : List String
  documents : List ℕ
  chunks : List ℕ
  datasets : List ℕ
  database : Database

/-- `REQUIRED_METRICS_TABLES`. -/
def requiredMetricsTables : List String :=
  ["datasets", "query_cases", "pipeline_configs", "runs", "retrieval_results",
    "evaluation_results"]

/-! ## The queries -/

/-- The counts of a `GROUP BY failure_type`, of the labels that are not empty. -/
def labelCounts (labels : List (Option String)) : List (String × ℕ) :=
  let stored := labels.reduceOption.filter fun label => label ≠ ""
  (Sql.groupKeys id stored).map fun label => (label, (Sql.group id stored label).length)

/-- `counts[label]`, where a label without a row has none. -/
def countOf (counts : List (String × ℕ)) (label : String) : ℕ := (counts.lookup label).getD 0

/-- The average and the percentile of the values that are not `NULL`. -/
def latencyStats (values : List (Option ℕ)) : LatencyStats :=
  if values.reduceOption.length = 0 then { avg := none, p95 := none }
  else
    let stored := values.reduceOption.map fun n => some (n : ℚ)
    { avg := Sql.avg stored, p95 := Sql.percentileCont (95 / 100) stored }

/-- The average of the values that are not `NULL`. -/
def scoreAverage (values : List (Option ℚ)) : Option ℚ :=
  if values.reduceOption.length = 0 then none else Sql.avg (values.reduceOption.map some)

namespace Database

variable (db : Database)

/-- `evaluation_results er INNER JOIN runs r`, without the tagged runs. -/
def organicEvaluations : List (StoredRun × EvaluationResult) :=
  (Sql.join StoredRun.evaluations db.runs).filter fun x => x.1.isOrganic

/-- The rows of a bucket among them. -/
def organicBucket (bucket : EvaluatorType) : List (StoredRun × EvaluationResult) :=
  db.organicEvaluations.filter fun x => (sqlBucket bucket x.2).holds

/-- The runs without the realism tag. -/
def organicRuns : List StoredRun := db.runs.filter StoredRun.isOrganic

/-- `total_traced_runs`. -/
def tracedRunCount : ℕ :=
  (db.organicRuns.filter fun r =>
    !r.run.retrievalResults.isEmpty && !r.evaluations.isEmpty).length

/-- `total_traced_runs_llm` and `total_traced_runs_heuristic`. -/
def tracedRunCountOf (bucket : EvaluatorType) : ℕ :=
  (db.organicRuns.filter fun r => !r.run.retrievalResults.isEmpty && r.inBucket bucket).length

/-- `_failure_counts_for_bucket`. -/
def failureCountsForBucket (bucket : EvaluatorType) : List (String × ℕ) :=
  labelCounts ((db.organicBucket bucket).map fun x => x.2.failureType)

/-- `failure_type_counts_all`: of every row, whatever run it belongs to. -/
def failureCountsAll : List (String × ℕ) :=
  labelCounts (db.evaluationResults.map EvaluationResult.failureType)

/-- A score or cost average of a bucket. -/
def bucketAverage (column : EvaluationResult → Option ℚ) (bucket : EvaluatorType) : Option ℚ :=
  scoreAverage ((db.organicBucket bucket).map fun x => column x.2)

/-- A latency of the runs with a row in a bucket. -/
def bucketLatency (column : Run → Option ℕ) (bucket : EvaluatorType) : LatencyStats :=
  latencyStats ((db.organicBucket bucket).map fun x => column x.1.run)

/-- A latency of all runs. -/
def latencyOf (column : Run → Option ℕ) : LatencyStats :=
  latencyStats (db.organicRuns.map fun r => column r.run)

/-- `llm_judge_call_rate`. -/
def llmJudgeCallRate : Option ℚ :=
  if db.organicEvaluations.length = 0 then none
  else some (((db.organicEvaluations.filter fun x => x.2.usedLlmJudge).length : ℚ) /
    db.organicEvaluations.length)

/-- The metrics of a database that has all tables. -/
def aggregateMetrics (datasets : List ℕ) : AggregateMetrics where
  benchmarkDatasets := datasets.length
  totalQueries := db.queryCases.length
  configsTested := Sql.countDistinct StoredRun.pipelineConfigId db.organicRuns
  totalTracedRuns := db.tracedRunCount
  totalTracedRunsOf := db.tracedRunCountOf
  evaluationRowsOf := fun bucket => (db.organicBucket bucket).length
  retrievalLatency := db.latencyOf Run.retrievalLatencyMs
  generationLatency := db.latencyOf Run.generationLatencyMs
  evaluationLatency := db.latencyOf Run.evaluationLatencyMs
  totalLatency := db.latencyOf Run.totalLatencyMs
  evaluationLatencyOf := db.bucketLatency Run.evaluationLatencyMs
  totalLatencyOf := db.bucketLatency Run.totalLatencyMs
  avgFaithfulnessOf := db.bucketAverage EvaluationResult.faithfulness
  avgCompletenessOf := db.bucketAverage EvaluationResult.completeness
  avgRetrievalRelevanceOf := db.bucketAverage EvaluationResult.retrievalRelevance
  avgContextCoverageOf := db.bucketAverage EvaluationResult.contextCoverage
  avgGroundednessOf := db.bucketAverage EvaluationResult.groundedness
  failureTypeCountsOf := db.failureCountsForBucket
  failureTypeCountsAll := db.failureCountsAll
  avgEvaluationCostPerRunUsdOf := db.bucketAverage EvaluationResult.costUsd
  llmJudgeCallRate := db.llmJudgeCallRate

end Database

/-- `aggregate_all_metrics`. -/
def aggregateAllMetrics (store : MetricsStore) : MetricsReport :=
  let missing := requiredMetricsTables.filter fun table => table ∉ store.tables
  { documentCount := if "documents" ∈ store.tables then some store.documents.length else none
    chunkCount := if "chunks" ∈ store.tables then some store.chunks.length else none
    missingTables := missing
    metrics := if missing.isEmpty then some (store.database.aggregateMetrics store.datasets)
      else none }

/-! ## What should add up -/

/-- The two buckets of a metric make up the whole. -/
structure AggregateMetrics.AddUp (m : AggregateMetrics) (db : Database) : Prop where
  failures : ∀ label, countOf m.failureTypeCountsAll label =
    countOf (m.failureTypeCountsOf .llm) label + countOf (m.failureTypeCountsOf .heuristic) label
  traced : m.totalTracedRuns = m.totalTracedRunsOf .llm + m.totalTracedRunsOf .heuristic
  rows : m.evaluationRowsOf .llm + m.evaluationRowsOf .heuristic =
    (db.organicRuns.flatMap StoredRun.evaluations).length

/-- A row with a failure type that is counted. -/
def EvaluationResult.labelled (row : EvaluationResult) : Bool :=
  row.failureType.any fun label => label ≠ ""

/-- The rows that the counts read agree with the rows that the buckets read. -/
structure Database.CountedAlike (db : Database) : Prop where
  classified : ∀ r ∈ db.organicRuns, ∀ row ∈ r.evaluations, row.classified = true
  organic : ∀ r ∈ db.runs, ∀ row ∈ r.evaluations, row.labelled = true → r.isOrganic = true

section

variable {α : Type} {p q r : α → Bool}

/-- Counting what two conditions split. -/
theorem countP_add_countP {rows : List α}
    (h : ∀ a ∈ rows, (p a).toNat + (q a).toNat = (r a).toNat) :
    rows.countP p + rows.countP q = rows.countP r := by
  induction rows with
  | nil => rfl
  | cons a rows ih =>
      have hcons : ∀ s : α → Bool, (a :: rows).countP s = (s a).toNat + rows.countP s := by
        intro s
        rw [List.countP_cons, Nat.add_comm]
        cases s a <;> rfl
      have ha := h a List.mem_cons_self
      have hrest := ih fun a' ha' => h a' (List.mem_cons_of_mem a ha')
      rw [hcons, hcons, hcons]
      omega

/-- A stronger condition counts the same when it holds wherever the weaker one does. -/
theorem countP_eq_countP_iff (h : ∀ a, q a = true → p a = true) (rows : List α) :
    rows.countP p = rows.countP q ↔ ∀ a ∈ rows, p a = true → q a = true := by
  have hsplit : rows.countP q + rows.countP (fun a => p a && !q a) = rows.countP p := by
    refine countP_add_countP fun a _ => ?_
    have ha := h a
    cases hp : p a <;> cases hq : q a <;> simp_all
  have hzero : rows.countP p = rows.countP q ↔ rows.countP (fun a => p a && !q a) = 0 := by
    omega
  rw [hzero, List.countP_eq_zero]
  refine forall₂_congr fun a _ => ?_
  cases p a <;> cases q a <;> simp

end

/-! ## Counting labels -/

theorem count_reduceOption (labels : List (Option String)) (label : String) :
    labels.reduceOption.count label = labels.count (some label) := by
  induction labels with
  | nil => rfl
  | cons first labels ih =>
      cases first with
      | none =>
          rw [List.reduceOption_cons_of_none, ih,
            List.count_cons_of_ne (Option.some_ne_none _).symm]
      | some other =>
          rw [List.reduceOption_cons_of_some, List.count_cons, List.count_cons, ih]
          simp

/-- The count of a label is the number of its rows; the empty label is not counted. -/
theorem countOf_labelCounts (labels : List (Option String)) (label : String) :
    countOf (labelCounts labels) label =
      if label = "" then 0 else labels.count (some label) := by
  have hgroup : ∀ stored : List String,
      (Sql.group id stored label).length = stored.count label := by
    intro stored
    rw [Sql.group, ← List.countP_eq_length_filter, List.count]
    refine List.countP_congr fun other _ => ?_
    simp
  have hlookup : ∀ stored : List String, countOf ((Sql.groupKeys id stored).map
      fun key => (key, (Sql.group id stored key).length)) label = stored.count label := by
    intro stored
    by_cases hmem : label ∈ Sql.groupKeys id stored
    · rw [countOf, List.lookup_graph _ hmem, Option.getD_some, hgroup]
    · have hnone : ((Sql.groupKeys id stored).map
          fun key => (key, (Sql.group id stored key).length)).lookup label = none := by
        refine List.lookup_eq_none_iff.mpr fun entry hentry => ?_
        obtain ⟨key, hkey, rfl⟩ := List.mem_map.mp hentry
        exact bne_iff_ne.mpr fun hsame => hmem (hsame ▸ hkey)
      rw [Sql.groupKeys, List.map_id, List.mem_dedup] at hmem
      rw [countOf, hnone, Option.getD_none, List.count_eq_zero_of_not_mem hmem]
  rw [labelCounts, hlookup]
  by_cases hempty : label = ""
  · rw [if_pos hempty]
    refine List.count_eq_zero_of_not_mem fun hmem => ?_
    simp [hempty] at hmem
  · rw [if_neg hempty, List.count_filter (by simpa using hempty), count_reduceOption]

/-! ## Where the report adds up -/

section

variable {db : Database}

/-- Rows with their runs. -/
abbrev EvaluatedRun := StoredRun × EvaluationResult

/-- A row with a label. -/
def hasLabel (label : String) (x : EvaluatedRun) : Bool := decide (x.2.failureType = some label)

/-- A row that the buckets have. -/
def isBucketed (x : EvaluatedRun) : Bool := x.1.isOrganic && x.2.classified

theorem evaluationResults_eq (db : Database) :
    db.evaluationResults = (Sql.join StoredRun.evaluations db.runs).map Prod.snd := by
  rw [Database.evaluationResults, Sql.join, List.map_flatMap]
  refine List.flatMap_congr fun r _ => ?_
  rw [List.map_map]
  exact (List.map_id _).symm

theorem countOf_failureCountsAll {label : String} (h : label ≠ "") :
    countOf db.failureCountsAll label =
      (Sql.join StoredRun.evaluations db.runs).countP (hasLabel label) := by
  rw [Database.failureCountsAll, countOf_labelCounts, if_neg h, evaluationResults_eq, List.map_map,
    List.count, List.countP_map]
  refine List.countP_congr fun x _ => ?_
  simp [hasLabel]

theorem countOf_failureCountsForBucket {label : String} (h : label ≠ "") (bucket : EvaluatorType) :
    countOf (db.failureCountsForBucket bucket) label =
      (Sql.join StoredRun.evaluations db.runs).countP fun x =>
        x.1.isOrganic && (sqlBucket bucket x.2).holds && hasLabel label x := by
  rw [Database.failureCountsForBucket, countOf_labelCounts, if_neg h, List.count, List.countP_map,
    Database.organicBucket, Database.organicEvaluations, List.countP_filter, List.countP_filter]
  refine List.countP_congr fun x _ => ?_
  simp only [hasLabel, Function.comp_apply, Bool.and_eq_true, beq_iff_eq, decide_eq_true_eq]
  tauto

/-- The two buckets count the labels of the rows that they have. -/
theorem countOf_buckets {label : String} (h : label ≠ "") :
    countOf (db.failureCountsForBucket .llm) label +
        countOf (db.failureCountsForBucket .heuristic) label =
      (Sql.join StoredRun.evaluations db.runs).countP
        fun x => isBucketed x && hasLabel label x := by
  rw [countOf_failureCountsForBucket h, countOf_failureCountsForBucket h]
  refine countP_add_countP fun x _ => ?_
  have hone := x.2.one_bucket
  rw [isBucketed]
  cases x.1.isOrganic <;> cases hasLabel label x <;> simp [hone]

theorem failures_add_up_iff :
    (∀ label, countOf db.failureCountsAll label =
      countOf (db.failureCountsForBucket .llm) label +
        countOf (db.failureCountsForBucket .heuristic) label) ↔
      ∀ x ∈ Sql.join StoredRun.evaluations db.runs, x.2.labelled = true → isBucketed x = true := by
  have hlabel : ∀ label, label ≠ "" → (countOf db.failureCountsAll label =
      countOf (db.failureCountsForBucket .llm) label +
        countOf (db.failureCountsForBucket .heuristic) label ↔
      ∀ x ∈ Sql.join StoredRun.evaluations db.runs, hasLabel label x = true →
        (isBucketed x && hasLabel label x) = true) := by
    intro label h
    rw [countOf_failureCountsAll h, countOf_buckets h]
    exact countP_eq_countP_iff (fun x hx => (Bool.and_eq_true _ _ ▸ hx).2) _
  constructor
  · intro h x hx hlabelled
    obtain ⟨label, hsome, hne⟩ := (Option.any_eq_true _ _).mp hlabelled
    have hne : label ≠ "" := by simpa using hne
    have hboth := (hlabel label hne).mp (h label) x hx (decide_eq_true hsome)
    exact (Bool.and_eq_true _ _ ▸ hboth).1
  · intro h label
    by_cases hempty : label = ""
    · rw [Database.failureCountsAll, Database.failureCountsForBucket,
        Database.failureCountsForBucket, countOf_labelCounts, countOf_labelCounts,
        countOf_labelCounts, if_pos hempty, if_pos hempty, if_pos hempty]
    · refine (hlabel label hempty).mpr fun x hx hhas => ?_
      have hsome : x.2.failureType = some label := by simpa [hasLabel] using hhas
      have hlabelled : x.2.labelled = true := by
        rw [EvaluationResult.labelled, hsome]
        simpa using hempty
      rw [h x hx hlabelled, hhas]
      rfl

theorem rows_add_up_iff :
    (db.organicBucket .llm).length + (db.organicBucket .heuristic).length =
        (db.organicRuns.flatMap StoredRun.evaluations).length ↔
      ∀ x ∈ Sql.join StoredRun.evaluations db.runs, x.1.isOrganic = true →
        x.2.classified = true := by
  have hall : (db.organicRuns.flatMap StoredRun.evaluations).length =
      (Sql.join StoredRun.evaluations db.runs).countP fun x => x.1.isOrganic := by
    rw [List.countP_eq_length_filter, ← Sql.join_filter, ← Database.organicRuns, Sql.join,
      List.length_flatMap, List.length_flatMap]
    simp
  have hbuckets : (db.organicBucket .llm).length + (db.organicBucket .heuristic).length =
      (Sql.join StoredRun.evaluations db.runs).countP isBucketed := by
    have hbucket : ∀ bucket, (db.organicBucket bucket).length =
        (Sql.join StoredRun.evaluations db.runs).countP fun x =>
          (sqlBucket bucket x.2).holds && x.1.isOrganic := by
      intro bucket
      rw [Database.organicBucket, Database.organicEvaluations, ← List.countP_eq_length_filter,
        List.countP_filter]
    rw [hbucket, hbucket]
    refine countP_add_countP fun x _ => ?_
    have hone := x.2.one_bucket
    rw [isBucketed]
    cases x.1.isOrganic <;> simp [hone]
  rw [hall, hbuckets, eq_comm, countP_eq_countP_iff fun x hx => (Bool.and_eq_true _ _ ▸ hx).1]
  refine forall₃_congr fun x _ horganic => ?_
  rw [isBucketed, horganic, Bool.true_and]

theorem traced_add_up (h : ∀ r ∈ db.organicRuns, ∀ row ∈ r.evaluations, row.classified = true) :
    db.tracedRunCount = db.tracedRunCountOf .llm + db.tracedRunCountOf .heuristic := by
  rw [Database.tracedRunCount, Database.tracedRunCountOf, Database.tracedRunCountOf,
    ← List.countP_eq_length_filter, ← List.countP_eq_length_filter, ← List.countP_eq_length_filter]
  refine (countP_add_countP fun r hr => ?_).symm
  have hlost : r.lost = false := by
    rw [StoredRun.lost, List.any_eq_false]
    intro row hrow
    rw [h r hr row hrow]
    decide
  have hone := StoredRun.one_of_four (db.evaluation_unique r (List.mem_filter.mp hr).1)
  rw [hlost, Bool.toNat_false] at hone
  cases r.run.retrievalResults.isEmpty with
  | true => rfl
  | false =>
      have hnot : (!r.evaluations.isEmpty).toNat = 1 - r.evaluations.isEmpty.toNat := by
        cases r.evaluations.isEmpty <;> rfl
      rw [Bool.not_false, Bool.true_and, Bool.true_and, Bool.true_and, hnot]
      omega

/-- **When the metrics add up**: just when the buckets have every row of a run without the
realism tag, and no other run has a row with a failure type. -/
theorem metrics_add_up_iff {store : MetricsStore} {metrics : AggregateMetrics}
    (h : (aggregateAllMetrics store).metrics = some metrics) :
    metrics.AddUp store.database ↔ store.database.CountedAlike := by
  have hmetrics : metrics = store.database.aggregateMetrics store.datasets := by
    dsimp only [aggregateAllMetrics] at h
    split at h
    · exact (Option.some.inj h).symm
    · cases h
  rw [hmetrics]
  constructor
  · intro hadd
    have hlabels := failures_add_up_iff.mp hadd.failures
    have hrows := rows_add_up_iff.mp hadd.rows
    constructor
    · intro r hr row hrow
      obtain ⟨hrun, horganic⟩ := List.mem_filter.mp hr
      exact hrows (r, row) (Sql.mem_join.mpr ⟨hrun, hrow⟩) horganic
    · intro r hr row hrow hlabelled
      have hbucketed := hlabels (r, row) (Sql.mem_join.mpr ⟨hr, hrow⟩) hlabelled
      exact (Bool.and_eq_true _ _ ▸ hbucketed).1
  · intro halike
    have hclassified : ∀ x ∈ Sql.join StoredRun.evaluations store.database.runs,
        x.1.isOrganic = true → x.2.classified = true := by
      intro x hx horganic
      obtain ⟨hrun, hrow⟩ := Sql.mem_join.mp hx
      exact halike.classified x.1 (List.mem_filter.mpr ⟨hrun, horganic⟩) x.2 hrow
    refine ⟨failures_add_up_iff.mpr ?_, traced_add_up halike.classified,
      rows_add_up_iff.mpr hclassified⟩
    intro x hx hlabelled
    obtain ⟨hrun, hrow⟩ := Sql.mem_join.mp hx
    have horganic := halike.organic x.1 hrun x.2 hrow hlabelled
    rw [isBucketed, horganic, hclassified x hx horganic]
    rfl

end

/-! ### One run -/

/-- A store with all tables and one run, whose metadata is given. -/
def singleRunStore (metadataJson : Option JsonObject) : MetricsStore where
  tables := requiredMetricsTables
  documents := []
  chunks := []
  datasets := [1]
  database :=
    { queryCases := [{ id := 1, datasetId := 1, queryText := "query" }]
      runs :=
        [{ run :=
             { createRun 1 .completed metadataJson with
               evaluationResults :=
                 [{ legacyEvaluation with
                    metadataJson := some [("evaluator_type", .str "heuristic")] }] }
           queryCaseId := 1
           pipelineConfigId := 1
           createdAt := 0 }]
      queryCases_unique := by decide
      runs_unique := by simp
      queryCase_exists := by simp
      generation_unique := by simp [createRun]
      evaluation_unique := by simp }

theorem metrics_add_up_of_organic :
    ((singleRunStore none).database.aggregateMetrics [1]).AddUp (singleRunStore none).database := by
  refine (metrics_add_up_iff (show (aggregateAllMetrics (singleRunStore none)).metrics =
    some ((singleRunStore none).database.aggregateMetrics [1]) from rfl)).mpr ⟨?_, ?_⟩
  · decide
  · decide

/-- The row of a tagged run is in the counts of all rows and in none of a bucket. -/
theorem tagged_run_does_not_add_up :
    ∃ metrics, (aggregateAllMetrics (singleRunStore
        (some [("benchmark_realism", .bool true)]))).metrics = some metrics ∧
      countOf metrics.failureTypeCountsAll "NO_FAILURE" = 1 ∧
      countOf (metrics.failureTypeCountsOf .llm) "NO_FAILURE" = 0 ∧
      countOf (metrics.failureTypeCountsOf .heuristic) "NO_FAILURE" = 0 ∧
      ¬metrics.AddUp (singleRunStore (some [("benchmark_realism", .bool true)])).database := by
  refine ⟨_, rfl, by decide, by decide, by decide, fun hadd => ?_⟩
  exact absurd (hadd.failures "NO_FAILURE") (by decide)

end ContextLens
