import ContextLens.EvaluatorBucket
import ContextLens.Foundations.SqlQueries

/-!
# The database the reports read

The tables `query_cases`, `runs` and the child tables of a run, with their keys and
foreign keys as fields of `Database`, and the scope of a report:
`app/domain/dashboard_dataset_scope.py` and `app/domain/analytics_run_scope.py`.
-/

namespace ContextLens

open Foundations

/-- A row of `query_cases`. -/
structure QueryCase where
  id : ℕ
  datasetId : ℕ
  queryText : String
  deriving DecidableEq

/-- A row of `runs` with the columns that tie it to its query case and its config. -/
structure StoredRun where
  run : Run
  queryCaseId : ℕ
  pipelineConfigId : ℕ
  createdAt : ℕ

/-- The tables of the reports. -/
structure Database where
  queryCases : List QueryCase
  runs : List StoredRun
  queryCases_unique : (queryCases.map QueryCase.id).Nodup
  runs_unique : (runs.map fun r => r.run.id).Nodup
  queryCase_exists : ∀ r ∈ runs, ∃ qc ∈ queryCases, qc.id = r.queryCaseId
  generation_unique : ∀ r ∈ runs, r.run.generationResults.length ≤ 1
  evaluation_unique : ∀ r ∈ runs, r.run.evaluationResults.length ≤ 1

/-- The evaluation rows of a run. -/
def StoredRun.evaluations (r : StoredRun) : List EvaluationResult := r.run.evaluationResults

/-- `metadata_json->>'benchmark_realism' IS NULL`. -/
def StoredRun.isOrganic (r : StoredRun) : Bool :=
  ((r.run.metadataJson.bind fun metadata => metadata.get "benchmark_realism").bind
    Json.columnText).isNone

namespace Database

variable (db : Database)

/-- The query cases of a dataset, or all of them. -/
def queryCasesOf : Option ℕ → List QueryCase
  | none => db.queryCases
  | some datasetId => db.queryCases.filter fun qc => qc.datasetId = datasetId

/-- `dashboard_aggregate_run_scope`: globally the runs without the realism tag, for a
dataset all runs on its query cases. -/
def dashboardAggregateRunScope : Option ℕ → StoredRun → Bool
  | none, r => r.isOrganic
  | some datasetId, r =>
      decide (r.queryCaseId ∈ (db.queryCasesOf (some datasetId)).map QueryCase.id)

/-- The query case that a join on `runs.query_case_id` finds. -/
def queryCaseOf (r : StoredRun) : List QueryCase :=
  db.queryCases.filter fun qc => qc.id = r.queryCaseId

/-- All evaluation rows. -/
def evaluationResults : List EvaluationResult := db.runs.flatMap StoredRun.evaluations

variable {db}

/-- The foreign key finds exactly one query case. -/
theorem queryCaseOf_eq {r : StoredRun} (hr : r ∈ db.runs) :
    ∃ qc, db.queryCaseOf r = [qc] ∧ qc ∈ db.queryCases ∧ qc.id = r.queryCaseId := by
  obtain ⟨qc, hmem, hid⟩ := db.queryCase_exists r hr
  refine ⟨qc, ?_, hmem, hid⟩
  have hnodup : (db.queryCaseOf r).Nodup :=
    (List.Nodup.of_map QueryCase.id db.queryCases_unique).filter _
  have hall : ∀ other ∈ db.queryCaseOf r, other = qc := by
    intro other hother
    obtain ⟨hin, hsame⟩ := List.mem_filter.mp hother
    have hsame : other.id = r.queryCaseId := by simpa using hsame
    exact List.inj_on_of_nodup_map db.queryCases_unique hin hmem (hsame.trans hid.symm)
  have hqc : qc ∈ db.queryCaseOf r := List.mem_filter.mpr ⟨hmem, by simpa using hid⟩
  cases hrows : db.queryCaseOf r with
  | nil =>
      rw [hrows] at hqc
      cases hqc
  | cons first rest =>
      rw [hrows] at hall hnodup
      cases rest with
      | nil => rw [hall first List.mem_cons_self]
      | cons second rest =>
          have hsame : first = second := by
            rw [hall first List.mem_cons_self, hall second (by simp)]
          rw [hsame] at hnodup
          simp at hnodup

end Database

end ContextLens
