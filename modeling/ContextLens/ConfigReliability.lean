import ContextLens.ConfigComparison

/-!
# What the reliability flag of a comparison counts

`_comparison_confidence_fields` of `app/services/config_comparison.py` takes the least
`unique_query_count` over all rows of a response.  That count is of the traced runs, the
ones in scope with a retrieval row, and is the same in every bucket; the averages beside
it are those of the runs that also carry a score in the bucket.  The two differ by the
query cases that were traced and never scored there.
-/

namespace ContextLens

open Foundations

/-- The columns of the score averages. -/
def scoreColumns : List (EvaluationResult → Option ℚ) :=
  [EvaluationResult.faithfulness, EvaluationResult.groundedness, EvaluationResult.completeness,
    EvaluationResult.retrievalRelevance, EvaluationResult.contextCoverage]

/-- The score averages of a row. -/
def ConfigComparisonMetrics.scoreAverages (m : ConfigComparisonMetrics) : List (Option ℚ) :=
  [m.avgFaithfulness, m.avgGroundedness, m.avgCompleteness, m.avgRetrievalRelevance,
    m.avgContextCoverage]

/-- The score averages of a row are not all null. -/
def ConfigComparisonMetrics.HasAverage (m : ConfigComparisonMetrics) : Prop :=
  ∃ average ∈ m.scoreAverages, average ≠ none

instance (m : ConfigComparisonMetrics) : Decidable m.HasAverage :=
  inferInstanceAs (Decidable (∃ average ∈ m.scoreAverages, average ≠ none))

/-- A row of the bucket that carries a score: it contributes to an average. -/
def StoredRun.isScored (bucket : EvaluatorType) (r : StoredRun) : Bool :=
  (Database.bucketRows bucket r).any fun row => scoreColumns.any fun column => (column row).isSome

namespace Database

variable (db : Database)

/-- The runs of a config that a comparison traces. -/
def comparedRuns (request : ComparisonRequest) (pid : ℕ) : List StoredRun :=
  Sql.group StoredRun.pipelineConfigId
    (db.runBase request.pipelineConfigIds.eraseDups request.datasetId
      (resolveIncludeBenchmarkRealism request.datasetId request.includeBenchmarkRealism)) pid

/-- The runs of a config whose evaluation rows contribute to the averages of a bucket. -/
def scoredRuns (request : ComparisonRequest) (bucket : EvaluatorType) (pid : ℕ) :
    List StoredRun :=
  (db.comparedRuns request pid).filter (StoredRun.isScored bucket)

/-- The query cases a config was traced on and has no score for in the bucket. -/
def unscoredQueryCases (request : ComparisonRequest) (bucket : EvaluatorType) (pid : ℕ) :
    List ℕ :=
  (Sql.groupKeys StoredRun.queryCaseId (db.comparedRuns request pid)).filter fun id =>
    !(Sql.group StoredRun.queryCaseId (db.comparedRuns request pid) id).any
      (StoredRun.isScored bucket)

end Database

section

variable {db : Database} {request : ComparisonRequest} {response : ConfigComparisonResponse}

/-! ## The score averages -/

/-- The score averages of a row of the metrics, column by column. -/
theorem scoreAverages_buildMetricsList [Sql.DoubleAggregates] {bucket : EvaluatorType}
    {base : List StoredRun} {pids : List ℕ} {m : ConfigComparisonMetrics}
    (hm : m ∈ Database.buildMetricsList bucket base pids) :
    m.scoreAverages = scoreColumns.map fun column => Database.metricFloat
      (Database.avgEvaluation bucket
        (Sql.group StoredRun.pipelineConfigId base m.pipelineConfigId) column) := by
  obtain ⟨pid, -, rfl⟩ := List.mem_map.mp hm
  by_cases hempty : (Sql.group StoredRun.pipelineConfigId base pid).isEmpty
  · rw [if_pos hempty]
    -- Without a traced run there is no row of `_query_main`, and its averages are null.
    simp only [List.isEmpty_iff.mp hempty]
    rfl
  · rw [if_neg hempty]
    rfl

/-- A config has a score average when one of its runs is scored. -/
theorem hasAverage_iff_exists_isScored [Sql.DoubleAggregates] {bucket : EvaluatorType}
    {base : List StoredRun} {pids : List ℕ} {m : ConfigComparisonMetrics}
    (hm : m ∈ Database.buildMetricsList bucket base pids) :
    m.HasAverage ↔ ∃ r ∈ Sql.group StoredRun.pipelineConfigId base m.pipelineConfigId,
      r.isScored bucket = true := by
  have hnull : ∀ column, Database.metricFloat (Database.avgEvaluation bucket
      (Sql.group StoredRun.pipelineConfigId base m.pipelineConfigId) column) = none ↔
        ∀ r ∈ Sql.group StoredRun.pipelineConfigId base m.pipelineConfigId,
          ∀ row ∈ Database.bucketRows bucket r, column row = none := by
    intro column
    rw [Database.metricFloat, Option.map_eq_none_iff, Database.avgEvaluation, Sql.avg_eq_none_iff,
      List.forall_mem_map]
    refine forall₂_congr fun r _ => ?_
    rw [Sql.avg_eq_none_iff, List.forall_mem_map]
  rw [ConfigComparisonMetrics.HasAverage, scoreAverages_buildMetricsList hm]
  constructor
  · rintro ⟨average, haverage, hsome⟩
    obtain ⟨column, hcolumn, rfl⟩ := List.mem_map.mp haverage
    rw [ne_eq, hnull column] at hsome
    push Not at hsome
    obtain ⟨r, hr, row, hrow, hvalue⟩ := hsome
    refine ⟨r, hr, List.any_eq_true.mpr ⟨row, hrow, List.any_eq_true.mpr ⟨column, hcolumn, ?_⟩⟩⟩
    exact Option.isSome_iff_ne_none.mpr hvalue
  · rintro ⟨r, hr, hscored⟩
    obtain ⟨row, hrow, hany⟩ := List.any_eq_true.mp hscored
    obtain ⟨column, hcolumn, hvalue⟩ := List.any_eq_true.mp hany
    refine ⟨_, List.mem_map_of_mem hcolumn, ?_⟩
    rw [ne_eq, hnull column]
    intro hall
    rw [hall r hr row hrow] at hvalue
    cases hvalue

/-! ## The flag -/

/-- The flag of some rows: there is one, and each has the query cases. -/
theorem comparisonConfidenceFields_reliable_iff {rows : List ConfigComparisonMetrics} :
    (comparisonConfidenceFields rows).comparisonStatisticallyReliable = true ↔
      rows ≠ [] ∧ ∀ m ∈ rows, recommendedMinUniqueQueries ≤ m.uniqueQueryCount := by
  cases rows with
  | nil => simp [comparisonConfidenceFields]
  | cons first rest =>
      rw [comparisonConfidenceFields, statisticallyReliableByEffectiveSample, decide_eq_true_iff,
        Python.le_foldl_min, List.forall_mem_cons]
      simp

/-- The query cases that a row reports are those of its traced runs. -/
theorem uniqueQueryCount_buildMetricsList [Sql.DoubleAggregates] {bucket : EvaluatorType}
    {base : List StoredRun} {pids : List ℕ} {m : ConfigComparisonMetrics}
    (hm : m ∈ Database.buildMetricsList bucket base pids) :
    m.uniqueQueryCount = Sql.countDistinct StoredRun.queryCaseId
      (Sql.group StoredRun.pipelineConfigId base m.pipelineConfigId) := by
  obtain ⟨pid, -, rfl⟩ := List.mem_map.mp hm
  by_cases hempty : (Sql.group StoredRun.pipelineConfigId base pid).isEmpty
  · rw [if_pos hempty]
    simp [List.isEmpty_iff.mp hempty, Sql.countDistinct]
  · rw [if_neg hempty]
    rfl

/-- The rows of a response, and the flag over them. -/
theorem comparePipelineConfigs_rows [Sql.DoubleAggregates]
    (h : comparePipelineConfigs db request = .ok response) :
    response.confidence = comparisonConfidenceFields
        (response.buckets.flatMap ComparedBucket.configs) ∧
      ∀ compared ∈ response.buckets, compared.configs = Database.buildMetricsList compared.bucket
        (db.runBase request.pipelineConfigIds.eraseDups request.datasetId
          (resolveIncludeBenchmarkRealism request.datasetId request.includeBenchmarkRealism))
        request.pipelineConfigIds.eraseDups := by
  obtain ⟨-, hids, -, hconfidence, base, rfl, -, -, hconfigs⟩ := comparePipelineConfigs_eq_ok h
  rw [hids] at hconfigs
  exact ⟨hconfidence, hconfigs⟩

/-- The traced query cases of a config: scored in the bucket, or not. -/
theorem countDistinct_scoredRuns_add (db : Database) (request : ComparisonRequest)
    (bucket : EvaluatorType) (pid : ℕ) :
    Sql.countDistinct StoredRun.queryCaseId (db.scoredRuns request bucket pid) +
        (db.unscoredQueryCases request bucket pid).length =
      Sql.countDistinct StoredRun.queryCaseId (db.comparedRuns request pid) :=
  Sql.countDistinct_filter_add _

/-- **What the flag vouches for.**  In every bucket each config has the recommended
number of query cases among its traced runs.  Of those the averages rest on all but the
query cases that were never scored in the bucket. -/
theorem reliable_comparison_traced [Sql.DoubleAggregates]
    (h : comparePipelineConfigs db request = .ok response)
    (hreliable : response.confidence.comparisonStatisticallyReliable = true) :
    ∀ compared ∈ response.buckets, ∀ m ∈ compared.configs,
      recommendedMinUniqueQueries ≤ Sql.countDistinct StoredRun.queryCaseId
          (db.comparedRuns request m.pipelineConfigId) ∧
        m.uniqueQueryCount = Sql.countDistinct StoredRun.queryCaseId
          (db.comparedRuns request m.pipelineConfigId) ∧
        (m.HasAverage ↔ db.scoredRuns request compared.bucket m.pipelineConfigId ≠ []) ∧
        Sql.countDistinct StoredRun.queryCaseId
              (db.scoredRuns request compared.bucket m.pipelineConfigId) +
            (db.unscoredQueryCases request compared.bucket m.pipelineConfigId).length =
          m.uniqueQueryCount ∧
        (db.unscoredQueryCases request compared.bucket m.pipelineConfigId = [] →
          recommendedMinUniqueQueries ≤ Sql.countDistinct StoredRun.queryCaseId
            (db.scoredRuns request compared.bucket m.pipelineConfigId)) := by
  intro compared hcompared m hm
  obtain ⟨hconfidence, hconfigs⟩ := comparePipelineConfigs_rows h
  rw [hconfidence, comparisonConfidenceFields_reliable_iff] at hreliable
  have hcount := hreliable.2 m (List.mem_flatMap.mpr ⟨compared, hcompared, hm⟩)
  rw [hconfigs compared hcompared] at hm
  have hunique : m.uniqueQueryCount = Sql.countDistinct StoredRun.queryCaseId
      (db.comparedRuns request m.pipelineConfigId) := uniqueQueryCount_buildMetricsList hm
  have hsplit := (countDistinct_scoredRuns_add db request compared.bucket
    m.pipelineConfigId).trans hunique.symm
  refine ⟨hunique ▸ hcount, hunique, ?_, hsplit, ?_⟩
  · rw [hasAverage_iff_exists_isScored hm, Database.scoredRuns, ne_eq, List.filter_eq_nil_iff]
    push Not
    rfl
  · intro hnone
    rw [hnone, List.length_nil, Nat.add_zero] at hsplit
    exact hsplit ▸ hcount

/-! ## Ten query cases, with and without a score -/

/-- One config that was run once on each of ten query cases. -/
def tenQueriesDatabase (usedLlmJudge : ℕ → Bool) : Database where
  queryCases :=
    (List.range' 1 10).map fun id => { id := id, datasetId := 1, queryText := toString id }
  runs := (List.range' 1 10).map fun id => benchmarkRun id id 1 (usedLlmJudge id)
  queryCases_unique := by simp [List.nodup_range', Function.comp_def]
  runs_unique := by simp [benchmarkRun, createRun, List.nodup_range', Function.comp_def]
  queryCase_exists := by
    intro r hr
    obtain ⟨id, hid, rfl⟩ := List.mem_map.mp hr
    exact ⟨_, List.mem_map_of_mem hid, rfl⟩
  generation_unique := by
    intro r hr
    obtain ⟨id, -, rfl⟩ := List.mem_map.mp hr
    exact Nat.zero_le 1
  evaluation_unique := by
    intro r hr
    obtain ⟨id, -, rfl⟩ := List.mem_map.mp hr
    exact le_refl 1

/-- The comparison of that config in the heuristic bucket. -/
def oneConfigRequest : ComparisonRequest where
  pipelineConfigIds := [1]
  evaluatorType := .one .heuristic
  datasetId := none
  minTracedRuns := none
  strictComparison := false
  includeBenchmarkRealism := false

/-- Every run is evaluated heuristically. -/
def heuristicQueriesDatabase : Database := tenQueriesDatabase fun _ => false

/-- The judge evaluated every run but the first. -/
def judgedQueriesDatabase : Database := tenQueriesDatabase fun id => decide (id ≠ 1)

/-- A comparison that returns with the flag set. -/
def returnsReliable (db : Database) (request : ComparisonRequest) : Bool :=
  match comparePipelineConfigs db request with
  | .ok response => response.confidence.comparisonStatisticallyReliable
  | .error _ => false

theorem returnsReliable_eq_true (h : returnsReliable db request = true) :
    ∃ response, comparePipelineConfigs db request = .ok response ∧
      response.confidence.comparisonStatisticallyReliable = true := by
  rw [returnsReliable] at h
  cases hresult : comparePipelineConfigs db request with
  | error e =>
      rw [hresult] at h
      cases h
  | ok response =>
      rw [hresult] at h
      exact ⟨response, rfl, h⟩

/-- The rows of `oneConfigRequest`, when it returns. -/
theorem oneConfigRequest_rows (h : comparePipelineConfigs db oneConfigRequest = .ok response) :
    ∃ compared ∈ response.buckets, compared.bucket = .heuristic ∧
      compared.configs = Database.buildMetricsList .heuristic (db.runBase [1] none false) [1] := by
  obtain ⟨-, -, -, -, base, -, -, hbuckets, -⟩ := comparePipelineConfigs_eq_ok h
  obtain ⟨-, hconfigs⟩ := comparePipelineConfigs_rows h
  obtain ⟨compared, hcompared, hbucket⟩ := List.mem_map.mp
    (show EvaluatorType.heuristic ∈ response.buckets.map ComparedBucket.bucket by
      rw [hbuckets]
      exact List.mem_singleton.mpr rfl)
  have hrows := hconfigs compared hcompared
  rw [hbucket] at hrows
  exact ⟨compared, hcompared, hbucket, hrows⟩

theorem reliable_comparison_traced_ten :
    ∃ response, comparePipelineConfigs heuristicQueriesDatabase oneConfigRequest = .ok response ∧
      ∃ compared ∈ response.buckets, ∃ m ∈ compared.configs, m.HasAverage ∧
        10 ≤ Sql.countDistinct StoredRun.queryCaseId
          (heuristicQueriesDatabase.scoredRuns oneConfigRequest compared.bucket
            m.pipelineConfigId) := by
  obtain ⟨response, h, hreliable⟩ := returnsReliable_eq_true
    (show returnsReliable heuristicQueriesDatabase oneConfigRequest = true by decide)
  obtain ⟨compared, hcompared, hbucket, hrows⟩ := oneConfigRequest_rows h
  have hm : Database.configMetrics .heuristic
      (heuristicQueriesDatabase.runBase [1] none false) 1 ∈ compared.configs := by
    rw [hrows]
    exact List.mem_singleton.mpr rfl
  obtain ⟨-, -, haverage, -, hscored⟩ :=
    reliable_comparison_traced h hreliable compared hcompared _ hm
  rw [hbucket] at haverage hscored
  refine ⟨response, h, compared, hcompared, _, hm, haverage.mpr (by decide), ?_⟩
  rw [hbucket]
  exact hscored (by decide)

/-- The flag is set on ten traced query cases, and the averages rest on one of them. -/
theorem reliable_comparison_scores_one :
    ∃ response, comparePipelineConfigs judgedQueriesDatabase oneConfigRequest = .ok response ∧
      response.confidence.comparisonStatisticallyReliable = true ∧
      ∃ compared ∈ response.buckets, ∃ m ∈ compared.configs, m.HasAverage ∧
        Sql.countDistinct StoredRun.queryCaseId
          (judgedQueriesDatabase.scoredRuns oneConfigRequest compared.bucket
            m.pipelineConfigId) = 1 := by
  obtain ⟨response, h, hreliable⟩ := returnsReliable_eq_true
    (show returnsReliable judgedQueriesDatabase oneConfigRequest = true by decide)
  obtain ⟨compared, hcompared, hbucket, hrows⟩ := oneConfigRequest_rows h
  have hm : Database.configMetrics .heuristic
      (judgedQueriesDatabase.runBase [1] none false) 1 ∈ compared.configs := by
    rw [hrows]
    exact List.mem_singleton.mpr rfl
  refine ⟨response, h, hreliable, compared, hcompared, _, hm, ?_, ?_⟩
  · rw [hrows] at hm
    exact (hasAverage_iff_exists_isScored hm).mpr (List.any_eq_true.mp (by decide))
  · rw [hbucket]
    decide

end

end ContextLens
