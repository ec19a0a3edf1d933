import ContextLens.DashboardAnalytics
import ContextLens.HeuristicRequeue
import ContextLens.RunDetail

/-!
# The dashboards of a reachable store

The summary of `app/services/dashboard_summary.py` over the tables that the API leaves behind.
Each of its counts is a number of runs in the scope (`figure_eq`), and every run is a run on a
query case of exactly one dataset.  So the dashboards of the datasets share out the runs of the
store, and a request that is answered with a run moves the figures of two dashboards, the one of
its dataset and the global one, by exactly that run.
-/

namespace ContextLens

open Foundations

/-! ## The figures of a summary -/

/-- The counts of the summary. -/
inductive RunFigure
  | total
  | completed
  | failed
  | inProgress
  | heuristic
  | llm
  | unevaluated
  | traced
  | failures
  | withCost
  | withoutCost

/-- Their values. -/
def DashboardSummary.figure (summary : DashboardSummary) : RunFigure → ℕ
  | .total => summary.totalRuns
  | .completed => summary.statusCounts.completed
  | .failed => summary.statusCounts.failed
  | .inProgress => summary.statusCounts.inProgress
  | .heuristic => summary.evaluatorCounts.heuristicRuns
  | .llm => summary.evaluatorCounts.llmRuns
  | .unevaluated => summary.evaluatorCounts.runsWithoutEvaluation
  | .traced => summary.scale.totalTracedRuns
  | .failures => summary.modelFailures
  | .withCost => summary.cost.evaluationRowsWithCost
  | .withoutCost => summary.cost.evaluationRowsCostNotAvailable

/-- The runs that each of them counts. -/
def StoredRun.counts (r : StoredRun) : RunFigure → Bool
  | .total => true
  | .completed => decide (r.run.status = .completed)
  | .failed => decide (r.run.status = .failed)
  | .inProgress => decide (r.run.status ∉ [RunStatus.completed, RunStatus.failed])
  | .heuristic => r.inBucket .heuristic
  | .llm => r.inBucket .llm
  | .unevaluated => r.evaluations.isEmpty
  | .traced => !r.evaluations.isEmpty
  | .failures => r.failureLabel.isSome
  | .withCost => r.evaluationCost.isSome
  | .withoutCost => !r.evaluations.isEmpty && r.evaluationCost.isNone

section

variable {db db' : Database} {datasetId : Option ℕ}

/-- The costs in the scope, a run at a time. -/
theorem scopedCosts_eq :
    (db.scopedEvaluations datasetId).map (fun x => x.2.costUsd) =
      ((db.scopedRuns datasetId).filter fun r => !r.evaluations.isEmpty).map
        StoredRun.evaluationCost := by
  rw [scopedEvaluations_eq, List.map_filterMap, ← List.filterMap_eq_map, List.filterMap_filter]
  refine List.filterMap_congr fun r _ => ?_
  cases hrows : r.evaluations <;> simp [StoredRun.evaluationCost, hrows]

/-- **Every count is a number of runs in the scope.** -/
theorem figure_eq (figure : RunFigure) :
    (db.dashboardSummary datasetId).figure figure =
      ((db.scopedRuns datasetId).filter fun r => r.counts figure).length := by
  cases figure with
  | total => exact congrArg List.length (List.filter_true _).symm
  | completed => rfl
  | failed => rfl
  | inProgress => rfl
  | heuristic => exact bucketRuns_eq .heuristic datasetId
  | llm => exact bucketRuns_eq .llm datasetId
  | unevaluated => exact runsWithoutEvaluation_eq datasetId
  | traced => rfl
  | failures => exact modelFailures_eq
  | withCost =>
      show (((db.scopedEvaluations datasetId).map fun x => x.2.costUsd).filter
        Option.isSome).length = _
      rw [scopedCosts_eq, List.filter_map, List.length_map, List.filter_filter]
      refine congrArg List.length (List.filter_congr fun r _ => ?_)
      rw [Function.comp_apply, StoredRun.counts, StoredRun.evaluationCost]
      cases r.evaluations <;> simp
  | withoutCost =>
      show (((db.scopedEvaluations datasetId).map fun x => x.2.costUsd).filter
        Option.isNone).length = _
      rw [scopedCosts_eq, List.filter_map, List.length_map, List.filter_filter]
      refine congrArg List.length (List.filter_congr fun r _ => ?_)
      rw [Function.comp_apply, StoredRun.counts, Bool.and_comm]

/-- The sum of the costs, a run at a time. -/
theorem totalCostUsd_eq :
    (db.dashboardSummary datasetId).cost.totalCostUsd.getD 0 =
      ((db.scopedRuns datasetId).map fun r => r.evaluationCost.getD 0).sum := by
  show (Sql.sum ((db.scopedEvaluations datasetId).map fun x => x.2.costUsd)).getD 0 = _
  rw [Sql.getD_sum, scopedCosts_eq, List.map_map]
  refine Sql.sum_map_filter fun r _ hnone => ?_
  rw [Bool.not_eq_false', List.isEmpty_iff] at hnone
  rw [Function.comp_apply, StoredRun.evaluationCost, hnone]
  rfl

/-! ## One scope for every run -/

/-- The dataset that a run counts for. -/
def Database.datasetOf (db : Database) (r : StoredRun) : Option ℕ :=
  (db.queryCaseOf r).head?.map QueryCase.datasetId

/-- A run is in the scope of the dataset of its query case and of no other. -/
theorem scope_eq_decide {qc : QueryCase} (hqc : qc ∈ db.queryCases) {r : StoredRun}
    (hid : qc.id = r.queryCaseId) (datasetId : ℕ) :
    db.dashboardAggregateRunScope (some datasetId) r = decide (qc.datasetId = datasetId) := by
  rw [Database.dashboardAggregateRunScope, Bool.eq_iff_iff, decide_eq_true_iff, decide_eq_true_iff,
    Database.queryCasesOf, List.mem_map]
  constructor
  · rintro ⟨other, hother, hsame⟩
    obtain ⟨hstored, hdataset⟩ := List.mem_filter.mp hother
    rw [← List.inj_on_of_nodup_map db.queryCases_unique hstored hqc (hsame.trans hid.symm)]
    exact of_decide_eq_true hdataset
  · intro hdataset
    exact ⟨qc, List.mem_filter.mpr ⟨hqc, decide_eq_true hdataset⟩, hid⟩

/-- The scope of a dataset has the runs on its query cases. -/
theorem scopedRuns_eq_group (datasetId : ℕ) :
    db.scopedRuns (some datasetId) = Sql.group db.datasetOf db.runs (some datasetId) := by
  refine List.filter_congr fun r hr => ?_
  obtain ⟨qc, hqueryCase, hqc, hid⟩ := Database.queryCaseOf_eq hr
  rw [scope_eq_decide hqc hid, Database.datasetOf, hqueryCase, Bool.eq_iff_iff,
    decide_eq_true_iff, decide_eq_true_iff, List.head?_cons, Option.map_some, Option.some.injEq]

/-- A sum over the scopes of datasets that have all query cases is one over the runs. -/
theorem sum_map_scopedRuns {M : Type*} [AddCommMonoid M] (f : StoredRun → M)
    {datasetIds : List ℕ} (hnodup : datasetIds.Nodup)
    (hall : ∀ qc ∈ db.queryCases, qc.datasetId ∈ datasetIds) :
    (datasetIds.map fun datasetId => ((db.scopedRuns (some datasetId)).map f).sum).sum =
      (db.runs.map f).sum := by
  have hgroups : (datasetIds.map fun datasetId => ((db.scopedRuns (some datasetId)).map f).sum) =
      (datasetIds.map some).map fun k => ((Sql.group db.datasetOf db.runs k).map f).sum := by
    rw [List.map_map]
    exact List.map_congr_left fun datasetId _ => by rw [scopedRuns_eq_group, Function.comp_apply]
  rw [hgroups, Sql.sum_map_group f (hnodup.map (Option.some_injective ℕ))]
  refine congrArg (fun rows => (List.map f rows).sum) (List.filter_eq_self.mpr fun r hr => ?_)
  obtain ⟨qc, hqueryCase, hqc, -⟩ := Database.queryCaseOf_eq hr
  have hmem : db.datasetOf r ∈ datasetIds.map some := by
    rw [Database.datasetOf, hqueryCase]
    exact List.mem_map_of_mem (hall qc hqc)
  simpa using hmem

/-- **The datasets share out the runs.** -/
theorem sum_figure_datasets {datasetIds : List ℕ} (hnodup : datasetIds.Nodup)
    (hall : ∀ qc ∈ db.queryCases, qc.datasetId ∈ datasetIds) (figure : RunFigure) :
    (datasetIds.map fun datasetId => (db.dashboardSummary (some datasetId)).figure figure).sum =
      (db.runs.filter fun r => r.counts figure).length := by
  have hcount : ∀ rows : List StoredRun, (rows.filter fun r => r.counts figure).length =
      (rows.map fun r => (r.counts figure).toNat).sum := by
    intro rows
    induction rows with
    | nil => rfl
    | cons r rows ih =>
        rw [List.map_cons, List.sum_cons, ← ih, List.filter_cons]
        cases r.counts figure <;> simp [Nat.add_comm]
  simp only [figure_eq, hcount]
  exact sum_map_scopedRuns _ hnodup hall

/-! ## One more run -/

/-- The tables with one more run. -/
structure Database.WithRun (db db' : Database) (r : StoredRun) : Prop where
  runs : db'.runs = db.runs ++ [r]
  queryCases : db'.queryCases = db.queryCases

namespace Database.WithRun

variable {r : StoredRun}

theorem scope_eq (h : db.WithRun db' r) :
    db'.dashboardAggregateRunScope = db.dashboardAggregateRunScope := by
  funext datasetId other
  cases datasetId with
  | none => rfl
  | some datasetId =>
      rw [dashboardAggregateRunScope, dashboardAggregateRunScope, queryCasesOf, queryCasesOf,
        h.queryCases]

theorem queryCaseOf_eq (h : db.WithRun db' r) : db'.queryCaseOf = db.queryCaseOf := by
  funext other
  rw [queryCaseOf, queryCaseOf, h.queryCases]

theorem scopedRuns_eq (h : db.WithRun db' r) :
    db'.scopedRuns datasetId =
      db.scopedRuns datasetId ++ [r].filter (db.dashboardAggregateRunScope datasetId) := by
  rw [scopedRuns, h.runs, h.scope_eq, List.filter_append]
  rfl

/-- A figure moves by the run, when it is in the scope. -/
theorem figure_eq (h : db.WithRun db' r) (figure : RunFigure) :
    (db'.dashboardSummary datasetId).figure figure =
      (db.dashboardSummary datasetId).figure figure +
        (db.dashboardAggregateRunScope datasetId r && r.counts figure).toNat := by
  rw [ContextLens.figure_eq, ContextLens.figure_eq, h.scopedRuns_eq, List.filter_append,
    List.length_append, List.filter_filter, List.filter_cons, List.filter_nil, Bool.and_comm]
  cases db.dashboardAggregateRunScope datasetId r && r.counts figure <;> rfl

theorem totalCostUsd_eq (h : db.WithRun db' r) (hcost : r.evaluationCost = none) :
    (db'.dashboardSummary datasetId).cost.totalCostUsd.getD 0 =
      (db.dashboardSummary datasetId).cost.totalCostUsd.getD 0 := by
  rw [ContextLens.totalCostUsd_eq, ContextLens.totalCostUsd_eq, h.scopedRuns_eq, List.map_append,
    List.sum_append, List.filter_cons]
  cases db.dashboardAggregateRunScope datasetId r <;> simp [hcost]

/-- The rows of the recent runs, with the run behind them. -/
theorem recentRows_eq (h : db.WithRun db' r) :
    (Sql.leftJoin (fun row : StoredRun × QueryCase => row.1.evaluations) db'.baseSelect).filter
        (fun x => db'.dashboardAggregateRunScope datasetId x.1.1) =
      (Sql.leftJoin (fun row : StoredRun × QueryCase => row.1.evaluations) db.baseSelect).filter
          (fun x => db.dashboardAggregateRunScope datasetId x.1.1) ++
        (Sql.leftJoin (fun row : StoredRun × QueryCase => row.1.evaluations)
          (Sql.join db.queryCaseOf [r])).filter
            (fun x => db.dashboardAggregateRunScope datasetId x.1.1) := by
  rw [baseSelect, h.runs, h.scope_eq, h.queryCaseOf_eq, Sql.join, List.flatMap_append,
    Sql.leftJoin, List.flatMap_append, List.filter_append]
  rfl

/-- A run out of the scope leaves the dashboard as it was. -/
theorem dashboardSummary_eq (h : db.WithRun db' r)
    (hout : db.dashboardAggregateRunScope datasetId r = false) :
    db'.dashboardSummary datasetId = db.dashboardSummary datasetId := by
  have hscoped : db'.scopedRuns datasetId = db.scopedRuns datasetId := by
    rw [h.scopedRuns_eq, List.filter_cons, hout]
    exact List.append_nil _
  have hrows : db'.scopedEvaluations datasetId = db.scopedEvaluations datasetId := by
    rw [scopedEvaluations_eq, scopedEvaluations_eq, hscoped]
  have hrecent : (Sql.leftJoin (fun row : StoredRun × QueryCase => row.1.evaluations)
      db'.baseSelect).filter (fun x => db'.dashboardAggregateRunScope datasetId x.1.1) =
        (Sql.leftJoin (fun row : StoredRun × QueryCase => row.1.evaluations)
          db.baseSelect).filter fun x => db.dashboardAggregateRunScope datasetId x.1.1 := by
    rw [h.recentRows_eq]
    refine (congrArg _ (List.filter_eq_nil_iff.mpr ?_)).trans (List.append_nil _)
    intro x hx hscope
    have hr : x.1.1 ∈ [r] := (Sql.mem_join.mp (Sql.mem_leftJoin.mp hx).1).1
    rw [List.mem_singleton.mp hr, hout] at hscope
    cases hscope
  have hfigure : ∀ figure, (db'.dashboardSummary datasetId).figure figure =
      (db.dashboardSummary datasetId).figure figure := by
    intro figure
    rw [ContextLens.figure_eq, ContextLens.figure_eq, hscoped]
  have hevaluators : db'.evaluatorCounts datasetId = db.evaluatorCounts datasetId := by
    rw [evaluatorCounts, evaluatorCounts, DashboardEvaluatorCounts.mk.injEq]
    exact ⟨hfigure .heuristic, hfigure .llm, hfigure .unevaluated⟩
  have hqueries : db'.queryCasesOf datasetId = db.queryCasesOf datasetId := by
    cases datasetId <;> simp only [queryCasesOf, h.queryCases]
  rw [dashboardSummary, dashboardSummary, hevaluators]
  simp only [scaleMetrics, statusCounts, costSummary, llmCostPerRun, scopedFailureTypes, recentRuns,
    hscoped, hrows, hrecent, hqueries]

/-- **A run newer than all others** heads the recent runs. -/
theorem recentRuns_eq (h : db.WithRun db' r) {row : EvaluationResult}
    (hr : r ∈ db'.runs) (hrow : r.evaluations = [row])
    (hscope : db.dashboardAggregateRunScope datasetId r = true)
    (hnewest : ∀ other ∈ db.runs, newestFirst r other = true) :
    db'.recentRuns datasetId =
      { runId := r.run.id
        status := r.run.status
        createdAt := r.createdAt
        evaluatorType := some row.evaluatorType
        totalLatencyMs := r.run.totalLatencyMs
        costUsd := row.costUsd
        failureType := row.failureType.filter fun label => label ≠ "" } ::
          (db.recentRuns datasetId).take 19 := by
  obtain ⟨qc, hqueryCase, -, -⟩ := Database.queryCaseOf_eq hr
  rw [h.queryCaseOf_eq] at hqueryCase
  have hnew : (Sql.leftJoin (fun row : StoredRun × QueryCase => row.1.evaluations)
      (Sql.join db.queryCaseOf [r])).filter
        (fun x => db.dashboardAggregateRunScope datasetId x.1.1) = [((r, qc), some row)] := by
    simp [Sql.leftJoin, Sql.join, hqueryCase, hrow, hscope]
  have hrows := @recentRows_eq db db' datasetId r h
  rw [hnew] at hrows
  have hordered : Sql.orderBy (fun a b : RunListRow => newestFirst a.1.1 b.1.1)
      ((Sql.leftJoin (fun row : StoredRun × QueryCase => row.1.evaluations) db.baseSelect).filter
        (fun x => db.dashboardAggregateRunScope datasetId x.1.1) ++ [((r, qc), some row)]) =
      ((r, qc), some row) :: Sql.orderBy (fun a b : RunListRow => newestFirst a.1.1 b.1.1)
        ((Sql.leftJoin (fun row : StoredRun × QueryCase => row.1.evaluations)
          db.baseSelect).filter fun x => db.dashboardAggregateRunScope datasetId x.1.1) := by
    refine Sql.orderBy_concat_first (fun a b => newestFirst_total a.1.1 b.1.1)
      (fun a b c => newestFirst_trans) ?_ ?_
    · rw [← hrows]
      intro a ha b hb
      exact eq_of_newestFirst (List.mem_of_mem_filter ha) (List.mem_of_mem_filter hb)
    · intro a ha
      exact hnewest _ (mem_leftJoin_baseSelect (List.mem_of_mem_filter ha)).1
  rw [recentRuns, hrows, hordered, recentRuns, ← List.map_take, Sql.page, Sql.page,
    List.take_take, List.drop_zero, List.drop_zero]
  rfl

end Database.WithRun

end

/-! ## The dashboards of the datasets -/

/-- The dashboards of the datasets share out the runs, in every count and in the costs; the
global dashboard has the runs without a realism tag, and all of them just when it has as many
runs as the datasets together. -/
structure Database.DashboardsShareRuns (db : Database) (datasetIds : List ℕ) : Prop where
  figure : ∀ figure, (datasetIds.map fun datasetId =>
    (db.dashboardSummary (some datasetId)).figure figure).sum =
      (db.runs.filter fun r => r.counts figure).length
  totalCost : (datasetIds.map fun datasetId =>
    (db.dashboardSummary (some datasetId)).cost.totalCostUsd.getD 0).sum =
      (db.runs.map fun r => r.evaluationCost.getD 0).sum
  global_le : ∀ figure, (db.dashboardSummary none).figure figure ≤
    (datasetIds.map fun datasetId => (db.dashboardSummary (some datasetId)).figure figure).sum
  global_total : (db.dashboardSummary none).totalRuns =
      (datasetIds.map fun datasetId => (db.dashboardSummary (some datasetId)).totalRuns).sum ↔
    ∀ r ∈ db.runs, r.isOrganic = true

theorem Database.dashboardsShareRuns (db : Database) {datasetIds : List ℕ}
    (hnodup : datasetIds.Nodup) (hall : ∀ qc ∈ db.queryCases, qc.datasetId ∈ datasetIds) :
    db.DashboardsShareRuns datasetIds := by
  have hfigure : ∀ figure, (datasetIds.map fun datasetId =>
      (db.dashboardSummary (some datasetId)).figure figure).sum =
        (db.runs.filter fun r => r.counts figure).length :=
    fun figure => sum_figure_datasets hnodup hall figure
  have hglobal : ∀ figure, (db.dashboardSummary none).figure figure =
      ((db.runs.filter StoredRun.isOrganic).filter fun r => r.counts figure).length :=
    fun figure => figure_eq figure
  refine ⟨hfigure, ?_, fun figure => ?_, ?_⟩
  · rw [← sum_map_scopedRuns (fun r => r.evaluationCost.getD 0) hnodup hall]
    exact congrArg List.sum (List.map_congr_left fun datasetId _ => totalCostUsd_eq)
  · rw [hfigure, hglobal]
    exact (List.filter_sublist.filter _).length_le
  · have htotal := hfigure .total
    have hnone := hglobal .total
    rw [show (fun r : StoredRun => r.counts .total) = fun _ => true from rfl,
      List.filter_true] at htotal hnone
    show (db.dashboardSummary none).figure .total = (datasetIds.map fun datasetId =>
      (db.dashboardSummary (some datasetId)).figure .total).sum ↔ _
    rw [htotal, hnone, List.length_filter_eq_length_iff]

/-- **The dashboards of the datasets share out the runs of the store**: those of any database
over datasets that have all its query cases, and of every database that the API leaves behind
over all its datasets. -/
theorem dataset_dashboards_share_runs :
    (∀ (db : Database) (datasetIds : List ℕ), datasetIds.Nodup →
        (∀ qc ∈ db.queryCases, qc.datasetId ∈ datasetIds) → db.DashboardsShareRuns datasetIds) ∧
      ∀ (deps : PipelineEnv) (limits : UploadLimits) (events : List ApiEvent) (s : ApiStore)
        (hrun : (apiSystem deps limits).exec .empty events = some s),
        (ApiStore.sound_empty.exec hrun).database.toDatabase.DashboardsShareRuns
          (s.datasets.map DatasetRow.id) := by
  refine ⟨fun db datasetIds hnodup hall => db.dashboardsShareRuns hnodup hall,
    fun deps limits events s hrun => ?_⟩
  have hsound := ApiStore.sound_empty.exec hrun
  refine Database.dashboardsShareRuns _ hsound.keys.datasets.nodup fun qc hqc => ?_
  obtain ⟨row, hrow, rfl⟩ := List.mem_map.mp hqc
  exact hsound.references.queryCase_dataset row hrow

/-- A run with a realism tag in one dataset and a run with a cost in another. -/
def taggedDatabase : Database where
  queryCases :=
    [{ id := 1, datasetId := 1, queryText := "tagged" },
     { id := 2, datasetId := 2, queryText := "organic" }]
  runs :=
    [{ run :=
         { createRun 1 .completed (some [("benchmark_realism", .bool true)]) with
           evaluationResults := [legacyEvaluation] }
       queryCaseId := 1
       pipelineConfigId := 1
       createdAt := 0 },
     { run :=
         { createRun 2 .completed none with
           evaluationResults := [{ legacyEvaluation with costUsd := some (1 / 100) }] }
       queryCaseId := 2
       pipelineConfigId := 1
       createdAt := 1 }]
  queryCases_unique := by decide
  runs_unique := by simp [createRun]
  queryCase_exists := by simp
  generation_unique := by simp [createRun]
  evaluation_unique := by simp

/-- The dashboards after the note was evaluated, and those of a database where the global one
leaves a run out. -/
theorem note_dashboards_share_runs :
    (∃ s, ∃ hrun : (apiSystem oneChunkEnv defaultLimits).exec .empty evaluatedNote = some s,
      (ApiStore.sound_empty.exec hrun).database.toDatabase.DashboardsShareRuns
        (s.datasets.map DatasetRow.id)) ∧
      taggedDatabase.DashboardsShareRuns [1, 2] ∧
      (taggedDatabase.dashboardSummary none).totalRuns = 1 ∧
      ([1, 2].map fun datasetId =>
        (taggedDatabase.dashboardSummary (some datasetId)).totalRuns) = [1, 1] := by
  obtain ⟨s, hs, -⟩ := Option.map_eq_some_iff.mp evaluatedNote_rows
  refine ⟨⟨s, hs, dataset_dashboards_share_runs.2 _ _ _ _ hs⟩, ?_, rfl, rfl⟩
  exact dataset_dashboards_share_runs.1 taggedDatabase [1, 2] (by decide) (by decide)

/-! ## A heuristic request on the dashboards -/

/-- The figures that a completed heuristic run moves. -/
def heuristicShare (failed : Bool) : RunFigure → Bool
  | .total | .completed | .heuristic | .traced | .withoutCost => true
  | .failures => failed
  | .failed | .inProgress | .llm | .unevaluated | .withCost => false

/-- The run is counted once, as a completed heuristic run with its label, and when it is the
newest run it heads the recent ones. -/
structure CountsHeuristicRun (before after : DashboardSummary) (run : Run) (label : String)
    (createdAt : ℕ) (newest : Prop) : Prop where
  figure : ∀ figure, after.figure figure =
    before.figure figure + (heuristicShare (label ≠ "NO_FAILURE") figure).toNat
  totalCost : after.cost.totalCostUsd.getD 0 = before.cost.totalCostUsd.getD 0
  recent : newest → after.recentRuns =
    { runId := run.id
      status := .completed
      createdAt := createdAt
      evaluatorType := some .heuristic
      totalLatencyMs := run.totalLatencyMs
      costUsd := none
      failureType := some label } :: before.recentRuns.take 19

section

variable {env : PipelineEnv} {attempt : HeuristicAttempt} {documentId : Option ℕ} {runId : ℕ}

/-- The evaluation row of a heuristic run. -/
theorem evaluation_of_heuristicRun {run : Run}
    (h : run = (retrievedRun env attempt documentId runId).withHeuristicEvaluation env
      attempt.evaluationMs) :
    ∃ row label, run.evaluationResults = [row] ∧ row.failureType = some label ∧ label ≠ "" ∧
      row.evaluatorType = .heuristic ∧ row.classified = true ∧ row.costUsd = none := by
  subst h
  refine ⟨_, _, rfl, rfl, fun hempty => ?_, computeMinimal_evaluatorType _ _ _, ?_, rfl⟩
  · have hallowed : "" ∈ allowedValues := hempty ▸ failureTypeForStorage_mem _
    exact absurd hallowed (by decide)
  · cases env.rankedRows (retrievedRun env attempt documentId runId) <;> rfl

/-- What it counts for. -/
theorem counts_of_heuristicRun {r : StoredRun} {row : EvaluationResult} {label : String}
    (hstatus : r.run.status = .completed) (hrow : r.evaluations = [row])
    (hlabel : row.failureType = some label) (hne : label ≠ "")
    (hheuristic : row.evaluatorType = .heuristic) (hclassified : row.classified = true)
    (hcost : row.costUsd = none) (figure : RunFigure) :
    r.counts figure = heuristicShare (label ≠ "NO_FAILURE") figure := by
  have hbucket : ∀ bucket, r.inBucket bucket = decide (row.evaluatorType = bucket) := by
    intro bucket
    rw [StoredRun.inBucket, hrow, List.any_cons, List.any_nil, Bool.or_false, Bool.eq_iff_iff,
      sqlBucket_holds_iff hclassified, decide_eq_true_iff]
  have hfailure : r.failureLabel.isSome = decide (label ≠ "NO_FAILURE") := by
    rw [StoredRun.failureLabel, hrow, List.head?_cons, Option.bind_some, hlabel, Option.filter_some]
    by_cases hnone : label = "NO_FAILURE" <;> simp [hne, hnone]
  have hunmeasured : r.evaluationCost = none := by
    rw [StoredRun.evaluationCost, hrow, List.head?_cons, Option.bind_some, hcost]
  cases figure <;>
    simp [StoredRun.counts, heuristicShare, hbucket, hheuristic, hstatus, hrow, hfailure,
      hunmeasured]

end

section

variable {deps : PipelineEnv} {limits : UploadLimits} {events : List ApiEvent} {s : ApiStore}
  {attempt : HeuristicAttempt} {request : RunCreateRequest} {createdAt : ℕ} {run : Run}

/-- **A heuristic request moves two dashboards**: when it is answered with a run, the global
dashboard and the one of the dataset of its query case count that run once more and nothing
else, and all other dashboards are as they were. -/
theorem heuristic_request_on_dashboards
    (hrun : (apiSystem deps limits).exec .empty events = some s)
    (hok : (s.createHeuristicRun deps attempt request createdAt).2 = .ok run) :
    let hsound := ApiStore.sound_empty.exec hrun
    let before := hsound.database.toDatabase
    let after := (hsound.createHeuristicRun deps attempt request createdAt).database.toDatabase
    ∃ qc ∈ s.queryCases, ∃ label, qc.id = request.queryCaseId ∧
      run.evaluationResults.map EvaluationResult.failureType = [some label] ∧
      ∀ datasetId : Option ℕ,
        if datasetId.all fun datasetId => datasetId = qc.datasetId then
          CountsHeuristicRun (before.dashboardSummary datasetId) (after.dashboardSummary datasetId)
            run label createdAt (∀ r ∈ s.runs, r.createdAt ≤ createdAt)
        else after.dashboardSummary datasetId = before.dashboardSummary datasetId := by
  intro hsound before after
  obtain ⟨found, hvalid, hstored, -, hafter⟩ := createHeuristicRun_ok hok
  obtain ⟨qc, hqc, pc, -, hqcId, -, rfl⟩ := ApiStore.Sound.registry_found hvalid
  obtain ⟨row, label, hrow, hlabel, hne, hheuristic, hclassified, hcost⟩ :=
    evaluation_of_heuristicRun hstored
  let r : StoredRun :=
    { run := run
      queryCaseId := request.queryCaseId
      pipelineConfigId := request.pipelineConfigId
      createdAt := createdAt }
  have hwith : before.WithRun after r := by
    refine ⟨?_, ?_⟩
    · show (s.createHeuristicRun deps attempt request createdAt).1.runs.map
        TracedRun.toStoredRun = s.runs.map TracedRun.toStoredRun ++ [r]
      rw [hafter]
      exact List.map_append
    · show (s.createHeuristicRun deps attempt request createdAt).1.queryCases.map
        QueryCaseRow.toQueryCase = s.queryCases.map QueryCaseRow.toQueryCase
      rw [hafter]
      rfl
  have hstatus : run.status = .completed := by
    rw [hstored]
    rfl
  have horganic : r.isOrganic = true := by
    rw [StoredRun.isOrganic, show r.run = run from rfl, hstored]
    rfl
  have hscope : ∀ datasetId : Option ℕ, before.dashboardAggregateRunScope datasetId r =
      datasetId.all fun datasetId => decide (datasetId = qc.datasetId) := by
    intro datasetId
    cases datasetId with
    | none => exact horganic
    | some datasetId =>
        have hmem : qc.toQueryCase ∈ before.queryCases := List.mem_map_of_mem hqc
        rw [scope_eq_decide hmem hqcId, Option.all_some]
        exact decide_eq_decide.mpr eq_comm
  refine ⟨qc, hqc, label, hqcId, by rw [hrow, List.map_singleton, hlabel], fun datasetId => ?_⟩
  rw [← hscope]
  cases hin : before.dashboardAggregateRunScope datasetId r with
  | false => exact hwith.dashboardSummary_eq hin
  | true =>
      refine ⟨fun figure => ?_, hwith.totalCostUsd_eq ?_, fun hnewest => ?_⟩
      · rw [hwith.figure_eq, hin, Bool.true_and,
          @counts_of_heuristicRun r row label hstatus hrow hlabel hne hheuristic hclassified hcost]
      · rw [StoredRun.evaluationCost, show r.evaluations = [row] from hrow, List.head?_cons,
          Option.bind_some, hcost]
      · have hmem : r ∈ after.runs := by
          rw [hwith.runs]
          exact List.mem_append_right _ (List.mem_singleton.mpr rfl)
        have hfirst : ∀ other ∈ before.runs, newestFirst r other = true := by
          intro other hother
          obtain ⟨traced, htraced, rfl⟩ := List.mem_map.mp hother
          have hid : traced.run.id < run.id := by
            rw [hstored]
            exact hsound.keys.runs.lt_next traced htraced
          have hold : traced.createdAt ≤ createdAt := hnewest traced htraced
          refine decide_eq_true ?_
          show traced.createdAt < createdAt ∨ traced.createdAt = createdAt ∧ traced.run.id ≤ run.id
          omega
        have hrecent := hwith.recentRuns_eq hmem hrow hin hfirst
        rw [hheuristic, hcost, hlabel, show r.run.status = .completed from hstatus,
          Option.filter_some, if_pos (decide_eq_true hne)] at hrecent
        exact hrecent

end

/-- The request that evaluates the note, on the global dashboard. -/
theorem note_request_on_dashboards :
    ∃ s, ∃ hrun : (apiSystem oneChunkEnv defaultLimits).exec .empty evaluatedNote.dropLast = some s,
      ∃ run label, (s.createHeuristicRun oneChunkEnv quietAttempt noteRequest 0).2 = .ok run ∧
        CountsHeuristicRun ((ApiStore.sound_empty.exec hrun).database.dashboardSummary none)
          (((ApiStore.sound_empty.exec hrun).createHeuristicRun oneChunkEnv quietAttempt noteRequest
            0).database.dashboardSummary none) run label 0 (∀ r ∈ s.runs, r.createdAt ≤ 0) := by
  obtain ⟨s, hs, hanswered⟩ := Option.map_eq_some_iff.mp noteRequest_answered
  cases hok : (s.createHeuristicRun oneChunkEnv quietAttempt noteRequest 0).2 with
  | error e =>
      rw [hok] at hanswered
      cases hanswered
  | ok run =>
      obtain ⟨qc, -, label, -, -, hmoved⟩ := heuristic_request_on_dashboards hs hok
      exact ⟨s, hs, run, label, hok, hmoved none⟩

end ContextLens
