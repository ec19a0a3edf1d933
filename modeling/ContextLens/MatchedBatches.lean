import ContextLens.BatchIsolation
import ContextLens.DashboardEvidence

/-!
# What the judge reduction says about matched batches

The counter that the dashboard averages is written by the two completion paths of the judge
phase; which of them a run takes depends on the mode that the batch runner puts into its
metadata, next to the arm.  `CountsJudge` is what ties the three together, and every
operation on a full run keeps it: a run of the arm `llm_only` is never in hybrid mode, and
the counter is 1 or 0 as the evaluation row used the judge or not.

A database may hold any other runs.  `MatchedHistory` has the batches that created the
matched ones, the other parties that work on the same runs, and whatever they do to runs
without the two tags.
-/

namespace ContextLens

open Foundations

/-! ## The metadata of an LLM cell -/

/-- The metadata that `_execute_llm_cell` stores for some cell of some batch. -/
def IsLlmCellMetadata (metadata : Option JsonObject) : Prop :=
  ∃ env args et cell, et ≠ .heuristic ∧
    metadata = some (llmCellMetadata (et = .llmHybrid) (batchRunMetadata env args et cell))

/-- The run counts as one of a matched workload. -/
def IsMatched (metadata : Option JsonObject) : Prop := (matchedWorkload metadata).isSome

section

variable {metadata : Option JsonObject}

theorem get_textMember_of_ne {key key' : String} (hne : key ≠ key') (text : Option String) :
    JsonObject.get (textMember key' text) key = none := by
  cases text with
  | none => rfl
  | some text =>
      rw [textMember]
      split_ifs with h
      · rfl
      · rw [JsonObject.get_cons, if_neg hne, JsonObject.get_nil]

/-- The tag of the arm, when a batch writes one, is that of its evaluator. -/
theorem get_arm_batchRunMetadata (env : BatchEnv) (args : BatchArgs) (et : BatchEvaluator)
    (cell : BatchCell) {value : Json}
    (h : (batchRunMetadata env args et cell).get "matched_llm_reduction_arm" = some value) :
    value = .str (if et = .llmHybrid then "hybrid" else "llm_only") := by
  simp only [batchRunMetadata, List.append_assoc, List.cons_append, List.nil_append,
    JsonObject.get_cons, JsonObject.get_append, String.reduceEq, if_false, Option.none_or,
    get_textMember_of_ne (show "matched_llm_reduction_arm" ≠ "experiment_name" by decide),
    get_textMember_of_ne (show "matched_llm_reduction_arm" ≠ "config_group_tag" by decide)] at h
  cases hworkload : args.matchedLlmReductionWorkloadId with
  | none => cases et <;> simp [hworkload] at h
  | some workload =>
      by_cases hempty : workload = ""
      · cases et <;> simp [hworkload, hempty] at h
      · cases et with
        | heuristic => simp at h
        | llm => simpa [hworkload, hempty, JsonObject.get_cons, eq_comm] using h
        | llmHybrid => simpa [hworkload, hempty, JsonObject.get_cons, eq_comm] using h

theorem mode_llmCellMetadata (hybrid : Bool) (metadata : JsonObject) :
    evaluatorModeFromRunMetadata (some (llmCellMetadata hybrid metadata)) =
      if hybrid then "hybrid" else "llm_only" := by
  rw [evaluatorModeFromRunMetadata, Option.getD_some, llmCellMetadata, JsonObject.get_set,
    if_pos rfl]
  cases hybrid <;> rfl

/-- **The arm is the mode**: what the batch runner tags `llm_only` does not run in hybrid
mode. -/
theorem not_hybrid_of_llmOnly (h : IsLlmCellMetadata metadata) {workload : String}
    (harm : matchedWorkload metadata = some (workload, .llmOnly)) :
    evaluatorModeFromRunMetadata metadata ≠ "hybrid" := by
  obtain ⟨env, args, et, cell, -, rfl⟩ := h
  rw [mode_llmCellMetadata]
  rw [matchedWorkload, Option.getD_some] at harm
  split at harm
  · rename_i found arm hfound hget
    rw [llmCellMetadata, JsonObject.get_set, if_neg (by decide)] at hget
    have hvalue := get_arm_batchRunMetadata env args et cell hget
    rw [Json.str.injEq] at hvalue
    split_ifs at harm with hblank
    by_cases het : et = .llmHybrid
    · rw [if_pos het] at hvalue
      simp [hvalue, reductionArm] at harm
    · simp [het]
  · cases harm

end

/-! ## The counter and the evaluation row -/

/-- A run of the arm `llm_only` does not run in hybrid mode, and a traced run has counted
what its evaluation row says: the judge was used, or it was skipped in hybrid mode. -/
structure CountsJudge (run : Run) : Prop where
  arm : ∀ workload, matchedWorkload run.metadataJson = some (workload, .llmOnly) →
    evaluatorModeFromRunMetadata run.metadataJson ≠ "hybrid"
  counted : ∀ trace, run.traceInstrumentationJson = some trace →
    ∃ evaluation, run.evaluationResults = [evaluation] ∧
      trace.get "llm_judge_calls_used_for_final_judgment" =
        some (.num (if evaluation.usedLlmJudge then 1 else 0) 0) ∧
      (evaluatorModeFromRunMetadata run.metadataJson ≠ "hybrid" →
        evaluation.usedLlmJudge = true)

section

variable {run run' : Run} {env : PipelineEnv} {attempt : Attempt} {documentId : Option ℕ}

theorem countsJudge_created (id : ℕ) {metadata : Option JsonObject}
    (h : IsLlmCellMetadata metadata) : CountsJudge (createRun id .running metadata) where
  arm _ harm := not_hybrid_of_llmOnly h harm
  counted trace htrace := by cases htrace

/-- The counter that a merge leaves is that of the patch. -/
theorem get_used_merge (present : Option JsonObject) (mode : String)
    (heuristicRows llmRows generationCalls attempted skipped used : ℕ)
    (promptTokens completionTokens : Option ℕ) (cost : Option ℚ) :
    (mergeRunTraceInstrumentation present (runInstrumentation mode heuristicRows llmRows
      generationCalls attempted skipped used promptTokens completionTokens cost)).get
        "llm_judge_calls_used_for_final_judgment" = some (.num used 0) := by
  simp [mergeRunTraceInstrumentation, runInstrumentation, JsonObject.update, JsonObject.get_set]

/-- The judge is skipped in hybrid mode only. -/
theorem judgePhaseOutcome_cases (metadata : Option JsonObject)
    (rows : List (RetrievalResult × String)) (gen : GenerationResult) :
    evaluatorModeFromRunMetadata metadata = "hybrid" ∧
        env.judgePhaseOutcome metadata rows gen = env.skippedJudgeOutcome rows gen ∨
      ∃ failed, env.judgePhaseOutcome metadata rows gen = env.judgedOutcome failed rows gen := by
  unfold PipelineEnv.judgePhaseOutcome
  dsimp only
  split_ifs with hskip
  · exact Or.inl ⟨hskip.1, rfl⟩
  · exact Or.inr ⟨_, rfl⟩

/-- **The two completion paths**: the counter says whether the row used the judge, and only
the hybrid mode skips it. -/
theorem judgePhaseOutcome_counts (metadata : Option JsonObject)
    (rows : List (RetrievalResult × String)) (gen : GenerationResult)
    (present : Option JsonObject) :
    (mergeRunTraceInstrumentation present (env.judgePhaseOutcome metadata rows gen).2).get
        "llm_judge_calls_used_for_final_judgment" =
      some (.num (if (env.judgePhaseOutcome metadata rows gen).1.usedLlmJudge then 1 else 0) 0) ∧
    (evaluatorModeFromRunMetadata metadata ≠ "hybrid" →
      (env.judgePhaseOutcome metadata rows gen).1.usedLlmJudge = true) := by
  rcases judgePhaseOutcome_cases metadata rows gen with ⟨hmode, houtcome⟩ | ⟨failed, houtcome⟩
  · rw [houtcome]
    exact ⟨get_used_merge present "hybrid" 1 0 1 1 1 0 _ _ _, fun hne => absurd hmode hne⟩
  · rw [houtcome]
    exact ⟨get_used_merge present "llm_only" 0 1 1 1 0 1 _ _ _, fun _ => rfl⟩

theorem CountsJudge.commitPhase {phase : Phase} (h : CountsJudge run)
    (hcommit : commitPhase env attempt documentId phase run = .ok run') : CountsJudge run' := by
  cases phase with
  | retrieval =>
      rw [commitPhase_retrieval] at hcommit
      cases hcommit
      exact ⟨h.arm, h.counted⟩
  | generation =>
      obtain ⟨-, -, -, rfl⟩ := commitPhase_generation_eq_ok hcommit
      exact ⟨h.arm, h.counted⟩
  | judge =>
      obtain ⟨gen, -, -, -, rfl⟩ := commitPhase_judge_eq_ok hcommit
      refine ⟨h.arm, fun trace htrace => ⟨_, rfl, ?_⟩⟩
      obtain rfl := Option.some.inj htrace
      exact judgePhaseOutcome_counts run.metadataJson _ gen run.traceInstrumentationJson

/-- The status does not matter. -/
theorem CountsJudge.withStatus (h : CountsJudge run) (status : RunStatus) :
    CountsJudge { run with status := status } :=
  ⟨h.arm, h.counted⟩

theorem CountsJudge.markFailed (h : CountsJudge run) :
    CountsJudge (run.apply (markFailedChanges run)) := by
  rcases apply_markFailedChanges run with hsame | ⟨-, hfailed⟩
  · rw [hsame]
    exact h
  · rw [hfailed]
    exact h.withStatus .failed

/-- The failure handler of the create endpoint writes other members. -/
theorem get_enqueueFailureChanges (run : Run) (error : String) (requestId : Option String)
    {key : String} (hkey : key ≠ "queue_enqueue_failed" ∧ key ≠ "queue_error" ∧
      key ≠ "request_id") :
    ((enqueueFailureChanges run error requestId).metadataJson.getD []).get key =
      (run.metadataJson.getD []).get key := by
  obtain ⟨hfailed, herror, hrequest⟩ := hkey
  have hmarked : (JsonObject.update (run.metadataJson.getD [])
      [("queue_enqueue_failed", .bool true), ("queue_error", .str error)]).get key =
        (run.metadataJson.getD []).get key := by
    simp [JsonObject.update, JsonObject.get_set, hfailed, herror]
  simp only [enqueueFailureChanges, Option.getD_some]
  cases requestId with
  | none => exact hmarked
  | some id =>
      dsimp only
      split_ifs
      · exact hmarked
      · rw [JsonObject.get_set, if_neg hrequest, hmarked]

theorem CountsJudge.enqueueFailure (h : CountsJudge run) (error : String)
    (requestId : Option String) :
    CountsJudge (run.apply (enqueueFailureChanges run error requestId)) := by
  have hget : ∀ key : String, _ → ((enqueueFailureChanges run error requestId).metadataJson.getD
      []).get key = (run.metadataJson.getD []).get key := fun _ hkey =>
    get_enqueueFailureChanges run error requestId hkey
  have hworkload : matchedWorkload (enqueueFailureChanges run error requestId).metadataJson =
      matchedWorkload run.metadataJson := by
    rw [matchedWorkload, matchedWorkload, hget _ (by decide), hget _ (by decide)]
  have hmode : evaluatorModeFromRunMetadata
      (enqueueFailureChanges run error requestId).metadataJson =
        evaluatorModeFromRunMetadata run.metadataJson := by
    rw [evaluatorModeFromRunMetadata, evaluatorModeFromRunMetadata, hget _ (by decide)]
  rw [apply_enqueueFailureChanges]
  refine ⟨fun workload harm => ?_, fun trace htrace => ?_⟩
  · rw [hmode]
    exact h.arm workload (hworkload.symm.trans harm)
  · rw [hmode]
    exact h.counted trace htrace

/-- The step lemma: every operation on a full run keeps the counter true. -/
theorem CountsJudge.apply (h : CountsJudge run) (op : FullRunOp) : CountsJudge (op.apply run) := by
  cases op with
  | enqueueFailure error requestId => exact h.enqueueFailure error requestId
  | attempt env attempt documentId =>
      exact runFullBenchmarkPipeline_invariant (I := fun s => CountsJudge s.run)
        (fun _ _ hs _ => hs) (fun _ _ _ hs _ hcommit => hs.commitPhase hcommit)
        (fun _ hs => hs.markFailed) h
  | markSafe => exact h.markFailed
  | markSync reachesDatabase =>
      cases reachesDatabase with
      | true => exact h.markFailed
      | false => exact h
  | requeue found call =>
      rw [FullRunOp.apply]
      rcases requeueFullRun_run { found with run := some run } call with hsame | hnormalized
      · rw [hsame]
        exact h
      · rw [hnormalized, Option.map_some, Option.getD_some, normalizeFailedRunForResume_eq]
        exact h.withStatus _

end

/-- A state of a run that an LLM cell of a batch has created: the cell, and whoever works
on the run afterwards, move it by the operations on full runs. -/
def IsLlmCellRun (run : Run) : Prop :=
  fullRunSystem.Reachable (fun created => ∃ id metadata, IsLlmCellMetadata metadata ∧
    created = createRun id .running metadata) run

theorem IsLlmCellRun.countsJudge {run : Run} (h : IsLlmCellRun run) : CountsJudge run := by
  refine LabelledSystem.reachable_invariant ?_ ?_ h
  · rintro _ ⟨id, metadata, hmetadata, rfl⟩
    exact countsJudge_created id hmetadata
  · intro run op run' hrun hstep
    cases hstep
    exact hrun.apply op

/-! ## Histories of the table -/

/-- Another party may do what it likes with runs that are not matched; a matched run it
creates or writes is one of an LLM cell. -/
def OtherMove.SparesMatched : OtherMove → Prop
  | createRun _ _ _ metadata => IsMatched metadata → IsLlmCellMetadata metadata
  | putRun run => IsMatched run.metadataJson → IsLlmCellRun run

/-- What other parties commit during a cell spares the matched runs. -/
def Interference.SparesMatched (others : Interference) : Prop :=
  ∀ move ∈ others.before ++ others.during ++ others.late, move.SparesMatched

/-- The tables that arise when matched runs come from `run_batch_benchmark` only: batches
with an LLM evaluator among other parties, and the moves of those in between. -/
inductive MatchedHistory : RunsTable → Prop
  | start {table : RunsTable} (h : ∀ row ∈ table.rows, ¬IsMatched row.run.metadataJson) :
      MatchedHistory table
  | move {table : RunsTable} {move : OtherMove} (h : MatchedHistory table)
      (hmove : move.SparesMatched) : MatchedHistory (move.apply table)
  | batch {table : RunsTable} (env : BatchEnv) (args : BatchArgs) (scripts : ℕ → CellScript)
      (others : ℕ → Interference) (h : MatchedHistory table)
      (hevaluator : batchEvaluator args.evaluatorType ≠ some .heuristic)
      (hothers : ∀ i, (others i).SparesMatched) :
      MatchedHistory (runBatchBenchmark env args scripts others table).1.table

/-- Every matched run is one of an LLM cell. -/
def MatchedFromCells (table : RunsTable) : Prop :=
  ∀ row ∈ table.rows, IsMatched row.run.metadataJson → IsLlmCellRun row.run

section

variable {table : RunsTable} {s : BatchState}

theorem IsLlmCellMetadata.created {metadata : Option JsonObject} (h : IsLlmCellMetadata metadata)
    (id : ℕ) : IsLlmCellRun (createRun id .running metadata) :=
  ⟨_, ⟨id, metadata, h, rfl⟩, [], rfl⟩

theorem MatchedFromCells.insert (h : MatchedFromCells table) {row : StoredRun}
    (hid : row.run.id = table.nextId)
    (hrow : IsMatched row.run.metadataJson → IsLlmCellRun row.run) :
    MatchedFromCells (table.insert row hid) := by
  intro other hother hmatched
  rcases List.mem_append.mp hother with hold | hnew
  · exact h other hold hmatched
  · rw [List.mem_singleton.mp hnew] at hmatched ⊢
    exact hrow hmatched

theorem MatchedFromCells.putRun (h : MatchedFromCells table) {run : Run}
    (hrun : IsMatched run.metadataJson → IsLlmCellRun run) :
    MatchedFromCells (table.putRun run) := by
  intro other hother
  obtain ⟨old, hold, rfl⟩ := List.mem_map.mp hother
  by_cases hid : old.run.id = run.id
  · rw [if_pos hid]
    exact hrun
  · rw [if_neg hid]
    exact h old hold

theorem MatchedFromCells.move (h : MatchedFromCells table) {move : OtherMove}
    (hmove : move.SparesMatched) : MatchedFromCells (move.apply table) := by
  cases move with
  | createRun queryCaseId pipelineConfigId now metadata =>
      exact h.insert rfl fun hmatched => (hmove hmatched).created table.nextId
  | putRun run => exact h.putRun hmove

theorem MatchedFromCells.moves (h : MatchedFromCells table) {moves : List OtherMove}
    (hmoves : ∀ move ∈ moves, move.SparesMatched) :
    MatchedFromCells (moves.foldl OtherMove.apply table) := by
  induction moves generalizing table with
  | nil => exact h
  | cons move moves ih =>
      exact ih (h.move (hmoves move List.mem_cons_self)) fun other hother =>
        hmoves other (List.mem_cons_of_mem move hother)

/-- An LLM cell adds a run of its own and moves it by one attempt. -/
theorem matchedFromCells_runLlmCell (env : BatchEnv) (args : BatchArgs) {et : BatchEvaluator}
    (het : et ≠ .heuristic) (cell : BatchCell) (script : CellScript) {others : Interference}
    (hothers : others.SparesMatched) (h : MatchedFromCells s.table) :
    MatchedFromCells (runLlmCell env args et cell script others s).table := by
  rcases runLlmCell_cases env args et cell script others s with
    ⟨stop, hcell⟩ | hcell | ⟨metadata, found, ok, hmetadata, hcell⟩
  · rw [hcell]
    exact h
  · rw [hcell]
    exact h
  · have hcreated : IsLlmCellMetadata (some metadata) :=
      ⟨env, args, et, cell, het, congrArg some hmetadata⟩
    have hadded : MatchedFromCells (s.addRun cell script.now metadata).table :=
      h.insert rfl fun _ => hcreated.created s.table.nextId
    have hduring : MatchedFromCells
        ((s.addRun cell script.now metadata).others others.during).table :=
      hadded.moves fun move hmove =>
        hothers move (List.mem_append_left _ (List.mem_append_right _ hmove))
    rw [hcell, BatchState.count_table]
    -- What the cell writes is the created run after one attempt.
    exact hduring.putRun fun _ => ⟨_, ⟨_, _, hcreated, rfl⟩,
      [.attempt (env.deps.forRun found) script.attempt args.documentId], rfl⟩

/-- The step lemma of a batch. -/
theorem matchedFromCells_step (env : BatchEnv) (args : BatchArgs) {et : BatchEvaluator}
    (het : et ≠ .heuristic) {action : BatchAction} (hothers : action.others.SparesMatched)
    (h : MatchedFromCells s.table) :
    MatchedFromCells (runBatchStep env args et s action).table := by
  have hbefore : MatchedFromCells (s.others action.others.before).table :=
    h.moves fun move hmove =>
      hothers move (List.mem_append_left _ (List.mem_append_left _ hmove))
  rw [runBatchStep]
  split_ifs
  · exact h
  · cases action.step with
    | loadQueryCases datasetId =>
        dsimp only
        split_ifs
        · exact hbefore
        · exact hbefore
    | cell cell =>
        cases et with
        | heuristic => exact absurd rfl het
        | llm => exact matchedFromCells_runLlmCell env args het cell _ hothers hbefore
        | llmHybrid => exact matchedFromCells_runLlmCell env args het cell _ hothers hbefore

theorem batchEvaluator_of_valid {args : BatchArgs} {et : BatchEvaluator}
    (h : validateBatchArgs args = .ok et) : batchEvaluator args.evaluatorType = some et := by
  unfold validateBatchArgs at h
  cases hevaluator : batchEvaluator args.evaluatorType with
  | none =>
      rw [hevaluator] at h
      cases h
  | some found =>
      simp only [hevaluator] at h
      split_ifs at h
      rw [Except.ok.inj h]

/-- The run lemma of a batch. -/
theorem matchedFromCells_batch (env : BatchEnv) (args : BatchArgs) (scripts : ℕ → CellScript)
    {others : ℕ → Interference} (hevaluator : batchEvaluator args.evaluatorType ≠ some .heuristic)
    (hothers : ∀ i, (others i).SparesMatched) (h : MatchedFromCells table) :
    MatchedFromCells (runBatchBenchmark env args scripts others table).1.table := by
  cases hargs : validateBatchArgs args with
  | error e =>
      rw [runBatchBenchmark, hargs]
      exact h
  | ok et =>
      have het : et ≠ .heuristic := by
        rintro rfl
        exact hevaluator (batchEvaluator_of_valid hargs)
      have hfold : ∀ (actions : List BatchAction) (s : BatchState),
          (∀ action ∈ actions, action.others.SparesMatched) → MatchedFromCells s.table →
            MatchedFromCells (actions.foldl (runBatchStep env args et) s).table := by
        intro actions
        induction actions with
        | nil => exact fun _ _ hs => hs
        | cons action actions ih =>
            intro s hspares hs
            exact ih _ (fun other hother => hspares other (List.mem_cons_of_mem action hother))
              (matchedFromCells_step env args het (hspares action List.mem_cons_self) hs)
      rw [runBatchBenchmark_fst hargs]
      refine hfold _ (startBatch table) (fun action haction => ?_) h
      obtain ⟨i, hi, rfl⟩ := List.mem_mapIdx.mp haction
      exact hothers i

/-- **Every history keeps it.** -/
theorem MatchedHistory.fromCells (h : MatchedHistory table) : MatchedFromCells table := by
  induction h with
  | start h => exact fun row hrow hmatched => absurd hmatched (h row hrow)
  | move _ hmove ih => exact ih.move hmove
  | batch env args scripts others _ hevaluator hothers ih =>
      exact matchedFromCells_batch env args scripts hevaluator hothers ih

end

/-! ## The reported reduction -/

/-- The matched runs of the database were produced by batches. -/
def Database.MatchedFromBatches (db : Database) : Prop :=
  ∃ table, MatchedHistory table ∧
    ∀ row ∈ db.runs, IsMatched row.run.metadataJson → row ∈ table.rows

/-- The evaluation of the run did not use the judge. -/
def CountedRun.judgeSkipped (counted : CountedRun) : Bool :=
  counted.run.evaluations.any fun evaluation => !evaluation.usedLlmJudge

/-- The fraction of the runs in which the judge was skipped. -/
def skipRate (runs : List CountedRun) : ℚ :=
  (runs.countP CountedRun.judgeSkipped : ℚ) / runs.length

section

variable {db : Database} {datasetId : Option ℕ} {counted : CountedRun}

theorem countsJudge_of_counted (h : db.MatchedFromBatches)
    (hcounted : counted ∈ db.countedRuns datasetId) : CountsJudge counted.run.run := by
  obtain ⟨table, hhistory, hrows⟩ := h
  obtain ⟨hrun, hworkload, -⟩ := mem_countedRuns hcounted
  have hmatched : IsMatched counted.run.run.metadataJson := by
    rw [IsMatched, hworkload, Option.isSome_some]
  exact (hhistory.fromCells _ (hrows _ hrun hmatched) hmatched).countsJudge

/-- A counted run has counted 0 when the judge was skipped and 1 otherwise. -/
theorem used_of_counted (h : db.MatchedFromBatches)
    (hcounted : counted ∈ db.countedRuns datasetId) :
    counted.used = if counted.judgeSkipped then 0 else 1 := by
  obtain ⟨-, -, hused⟩ := mem_countedRuns hcounted
  cases htrace : counted.run.run.traceInstrumentationJson with
  | none => simp [htrace, armJudgeUsed] at hused
  | some trace =>
      obtain ⟨evaluation, hrows, hget, -⟩ :=
        (countsJudge_of_counted h hcounted).counted trace htrace
      rw [htrace, armJudgeUsed, Option.getD_some, hget] at hused
      have hskipped : counted.judgeSkipped = !evaluation.usedLlmJudge := by
        rw [CountedRun.judgeSkipped, StoredRun.evaluations, hrows]
        simp
      rw [hskipped]
      cases hjudge : evaluation.usedLlmJudge <;> simpa [hjudge, intOfJson, eq_comm] using hused

/-- In the arm `llm_only` the judge was used. -/
theorem not_skipped_of_llmOnly (h : db.MatchedFromBatches)
    (hcounted : counted ∈ db.countedRuns datasetId) (harm : counted.arm = .llmOnly) :
    counted.judgeSkipped = false := by
  obtain ⟨-, hworkload, hused⟩ := mem_countedRuns hcounted
  rw [harm] at hworkload
  have hcounts := countsJudge_of_counted h hcounted
  cases htrace : counted.run.run.traceInstrumentationJson with
  | none => simp [htrace, armJudgeUsed] at hused
  | some trace =>
      obtain ⟨evaluation, hrows, -, hjudge⟩ := hcounts.counted trace htrace
      rw [CountedRun.judgeSkipped, StoredRun.evaluations, hrows]
      simp [hjudge (hcounts.arm _ hworkload)]

/-- The mean counter of runs with such counters. -/
theorem mean_used {runs : List CountedRun} (hruns : runs ≠ [])
    (hused : ∀ counted ∈ runs, counted.used = if counted.judgeSkipped then 0 else 1) :
    Python.mean (runs.map CountedRun.used) = 1 - skipRate runs := by
  have hzero : ∀ used ∈ runs.map CountedRun.used, used = 0 ∨ used = 1 := by
    intro used hmem
    obtain ⟨counted, hcounted, rfl⟩ := List.mem_map.mp hmem
    rw [hused counted hcounted]
    cases counted.judgeSkipped <;> simp
  have hones : (runs.map CountedRun.used).count 1 =
      runs.countP fun counted => !counted.judgeSkipped := by
    rw [List.count, List.countP_map]
    refine List.countP_congr fun counted hcounted => ?_
    rw [Function.comp_apply, hused counted hcounted]
    cases counted.judgeSkipped <;> simp
  have hsplit : runs.countP CountedRun.judgeSkipped +
      runs.countP (fun counted => !counted.judgeSkipped) = runs.length := by
    rw [List.length_eq_countP_add_countP CountedRun.judgeSkipped]
    simp
  have hlength : (runs.length : ℚ) ≠ 0 := by
    exact_mod_cast List.length_pos_iff.mpr hruns |>.ne'
  rw [Python.mean_of_zero_one hzero, hones, List.length_map, skipRate, eq_sub_iff_add_eq,
    ← add_div, div_eq_one_iff_eq hlength, add_comm]
  exact_mod_cast hsplit

theorem skipRate_mem_Icc (runs : List CountedRun) : skipRate runs ∈ Set.Icc (0 : ℚ) 1 := by
  have hle : (runs.countP CountedRun.judgeSkipped : ℚ) ≤ runs.length := by
    exact_mod_cast List.countP_le_length
  exact ⟨by rw [skipRate]; positivity, div_le_one_of_le₀ hle (by positivity)⟩

/-- A row reports the skip rate of its hybrid runs. -/
theorem reductionPct_eq (h : db.MatchedFromBatches) {row : DashboardLlmReductionWorkloadRow}
    (hrow : row ∈ db.llmReductionWorkloads datasetId) :
    row.llmJudgeReductionPct =
      100 * skipRate (db.countedRunsOf datasetId row.matchedWorkloadId .hybrid) := by
  obtain ⟨lo, hy, hlo, hhy, hlo_ne, hhy_ne, hpct⟩ := mem_llmReductionWorkloads hrow
  have hmember : ∀ {arm} {counted : CountedRun},
      counted ∈ db.countedRunsOf datasetId row.matchedWorkloadId arm →
        counted ∈ db.countedRuns datasetId ∧ counted.arm = arm := by
    intro arm counted hmem
    obtain ⟨hcounted, hkey⟩ := List.mem_filter.mp hmem
    rw [Bool.and_eq_true, decide_eq_true_eq, decide_eq_true_eq] at hkey
    exact ⟨hcounted, hkey.2⟩
  have hmean : ∀ {arm}, (db.countedRunsOf datasetId row.matchedWorkloadId arm).map
      CountedRun.used ≠ [] →
        Python.mean ((db.countedRunsOf datasetId row.matchedWorkloadId arm).map CountedRun.used) =
          1 - skipRate (db.countedRunsOf datasetId row.matchedWorkloadId arm) := fun hne =>
    mean_used (fun hnil => hne (by rw [hnil, List.map_nil])) fun counted hmem =>
      used_of_counted h (hmember hmem).1
  have hnone : skipRate (db.countedRunsOf datasetId row.matchedWorkloadId .llmOnly) = 0 := by
    have hcount : (db.countedRunsOf datasetId row.matchedWorkloadId .llmOnly).countP
        CountedRun.judgeSkipped = 0 := by
      rw [List.countP_eq_zero]
      intro counted hmem
      obtain ⟨hcounted, harm⟩ := hmember hmem
      simp [not_skipped_of_llmOnly h hcounted harm]
    rw [skipRate, hcount, Nat.cast_zero, zero_div]
  rw [hpct, hlo, hhy, hmean (hlo ▸ hlo_ne), hmean (hhy ▸ hhy_ne), hnone]
  ring

end

/-- **The reported judge reduction is the skip rate.** -/
theorem judge_reduction_is_skip_rate {db : Database} (h : db.MatchedFromBatches)
    (datasetId : Option ℕ) :
    (∀ row ∈ db.llmReductionWorkloads datasetId, row.llmJudgeReductionPct =
        100 * skipRate (db.countedRunsOf datasetId row.matchedWorkloadId .hybrid)) ∧
      ∀ median, (db.buildLlmReductionEvidence
          datasetId).medianLlmJudgeReductionPctAcrossWorkloads = some median →
        median ∈ Set.Icc (0 : ℚ) 100 := by
  refine ⟨fun row hrow => reductionPct_eq h hrow, fun median hmedian => ?_⟩
  simp only [Database.buildLlmReductionEvidence] at hmedian
  refine Python.median_mem_Icc (fun pct hpct => ?_) hmedian
  obtain ⟨row, hrow, rfl⟩ := List.mem_map.mp hpct
  obtain ⟨hnonneg, hle⟩ := skipRate_mem_Icc
    (db.countedRunsOf datasetId row.matchedWorkloadId .hybrid)
  rw [reductionPct_eq h hrow]
  constructor <;> linarith

/-! ## One workload -/

/-- A corpus whose only chunk answers the question word for word, so that the hybrid gate
passes. -/
def questionEnv : BatchEnv :=
  smallBatchEnv
    { oneChunkEnv with
      chunks := [{ id := 1, documentId := 3, content := "question", embedding := some [] }] }

/-- One LLM cell of a matched workload. -/
def matchedBatchArgs (evaluatorType : String) : BatchArgs :=
  { smallBatchArgs with
    evaluatorType := evaluatorType
    matchedLlmReductionWorkloadId := some "workload" }

/-- The table after a batch of the one arm and a batch of the other. -/
def bothArms : RunsTable :=
  (runBatchBenchmark questionEnv (matchedBatchArgs "llm_hybrid") (fun _ => quietScript)
    (fun _ => .none) (runBatchBenchmark questionEnv (matchedBatchArgs "llm")
      (fun _ => quietScript) (fun _ => .none) .empty).1.table).1.table

/-- The database with that table. -/
def oneWorkload : Database where
  queryCases := [{ id := 1, datasetId := 1, queryText := "question" }]
  runs := bothArms.rows
  queryCases_unique := List.nodup_singleton 1
  runs_unique := bothArms.unique
  queryCase_exists := by decide +kernel
  generation_unique := by decide +kernel
  evaluation_unique := by decide +kernel

theorem oneWorkload_fromBatches : oneWorkload.MatchedFromBatches := by
  have hnone : ∀ i : ℕ, ((fun _ => Interference.none) i).SparesMatched :=
    fun _ _ hmove => absurd hmove List.not_mem_nil
  have hempty : MatchedHistory RunsTable.empty :=
    .start fun _ hrow => absurd hrow List.not_mem_nil
  refine ⟨bothArms, ?_, fun row hrow _ => hrow⟩
  refine .batch questionEnv (matchedBatchArgs "llm_hybrid") (fun _ => quietScript) _ ?_
    (by decide +kernel) hnone
  exact .batch questionEnv (matchedBatchArgs "llm") (fun _ => quietScript) _ hempty
    (by decide +kernel) hnone

theorem judge_reduction_of_one_workload :
    (oneWorkload.buildLlmReductionEvidence
        none).medianLlmJudgeReductionPctAcrossWorkloads = some 100 ∧
      (100 : ℚ) ∈ Set.Icc (0 : ℚ) 100 := by
  have hmedian : (oneWorkload.buildLlmReductionEvidence
      none).medianLlmJudgeReductionPctAcrossWorkloads = some 100 := by decide +kernel
  exact ⟨hmedian, (judge_reduction_is_skip_rate oneWorkload_fromBatches none).2 100 hmedian⟩

end ContextLens
