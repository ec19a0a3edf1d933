import ContextLens.Foundations.Binary64
import ContextLens.Foundations.TopRows
import ContextLens.HeuristicEvaluation
import ContextLens.LlmProvider
import Mathlib.Data.List.Sort

/-!
# The phases of the full pipeline

`app/services/retrieval.py`, `benchmark_run.py`, `generation_phase.py`,
`evaluation_persistence.py` and `full_rag_evaluation.py`: what one phase reads
and what it leaves pending in its session.

A phase reads a run in two ways.  Columns of `runs` come from the object its
session loaded first, which the session does not reload; rows are selected from
the database when the phase asks for them.  The two arguments `loaded` and
`committed` keep them apart.  In a sequential execution they are the same run.

The embedding, the distance, the answer generation and the judge are functions
in `PipelineEnv`.  The query case and the pipeline config are part of the
environment too: the foreign keys of `runs` keep them in place.

The select of a search is a parameter as well.  `ORDER BY` is on the column that
carries an HNSW index, whose scan looks at a part of the graph and applies the
document filter afterwards: what it answers are rows of the scope in order, not
always the nearest, and none at all where it meets none (`Sql.OrderedScan`).
-/

namespace ContextLens

open Foundations

/-! ## The environment -/

/-- A row of `chunks`. -/
structure Chunk where
  id : ℕ
  documentId : ℕ
  content : String
  embedding : Option (List ℚ)

/-- `GenerationModelResult`. -/
structure GenerationModelResult where
  answerText : String
  modelId : String
  inputTokens : Option ℕ
  outputTokens : Option ℕ
  metadataJson : JsonObject

/-- `LLMJudgeEvalResult`. -/
structure LLMJudgeEvalResult where
  faithfulness : Option ℚ
  completeness : Option ℚ
  groundedness : Option ℚ
  retrievalRelevance : Option ℚ
  contextCoverage : Option ℚ
  failureType : Option String
  judgeInputTokens : Option ℕ
  judgeOutputTokens : Option ℕ
  metadataJson : JsonObject

/-- `ORDER BY distance`, of chunks with their distances. -/
def Nearer (a b : Chunk × ℚ) : Prop := a.2 ≤ b.2

instance : DecidableRel Nearer := fun a b => inferInstanceAs (Decidable (a.2 ≤ b.2))

instance : Std.Total Nearer := ⟨fun a b => le_total a.2 b.2⟩

instance : IsTrans (Chunk × ℚ) Nearer := ⟨fun _ _ _ => le_trans⟩

/-- What a run's phases depend on besides the run itself.  A distance is a
double. -/
structure PipelineEnv where
  settings : Settings
  queryText : String
  expectedAnswer : Option String
  topK : ℕ
  chunks : List Chunk
  embedText : String → List ℚ
  cosineDistance : List ℚ → List ℚ → ℚ
  scan : Sql.OrderedScan Nearer
  generateRagAnswer : String → List String → GenerationModelResult
  evaluateWithLlmJudge : String → List String → String → Option String → LLMJudgeEvalResult

namespace PipelineEnv

variable (env : PipelineEnv)

/-! ## Retrieval -/

/-- One entry of the list `search_chunks` returns. -/
structure Hit where
  chunkId : ℕ
  documentId : ℕ
  content : String
  score : ℚ

/-- The embedded chunks with their distance to the query. -/
def embeddedChunks : List (Chunk × ℚ) :=
  env.chunks.filterMap fun chunk =>
    chunk.embedding.map fun e =>
      (chunk, env.cosineDistance e (env.embedText env.queryText))

/-- The rows that the select of `search_chunks` answers, `none` being the whole
corpus. -/
def foundChunks (documentId : Option ℕ) : List (Chunk × ℚ) :=
  env.scan.answer env.embeddedChunks (fun row => documentId.all fun d => row.1.documentId = d)
    env.topK

/-- The entry of a found chunk: the score is `round(float(1 - distance), 6)`. -/
def hitOf (row : Chunk × ℚ) : Hit where
  chunkId := row.1.id
  documentId := row.1.documentId
  content := row.1.content
  score := Binary64.roundDigits 6 (Binary64.sub 1 row.2)

/-- `search_chunks`. -/
def searchChunks (documentId : Option ℕ) : List Hit := (env.foundChunks documentId).map hitOf

/-- The rows stored for a list of hits: 1-based ranks in the order of the
hits. -/
def retrievalRows (hits : List Hit) : List RetrievalResult :=
  hits.mapIdx fun i hit => { chunkId := hit.chunkId, rank := i + 1, score := hit.score }

/-- `execute_retrieval_for_existing_run`.  It does not look at the status. -/
def executeRetrievalForExistingRun (documentId : Option ℕ) (elapsedMs : ℕ) :
    PendingChanges :=
  { retrievalResults := retrievalRows (env.searchChunks documentId)
    retrievalLatencyMs := some elapsedMs
    status := some .retrievalCompleted }

/-- The stored rows in rank order, joined with the bodies of their chunks. -/
def rankedRows (committed : Run) : List (RetrievalResult × String) :=
  (committed.retrievalResults.insertionSort fun a b => a.rank ≤ b.rank).filterMap
    fun row => (env.chunks.find? fun chunk => chunk.id = row.chunkId).map
      fun chunk => (row, chunk.content)

end PipelineEnv

/-! ## Generation -/

/-- `scalar_one_or_none`. -/
def scalarOneOrNone {ρ : Type} : List ρ → Except PyException (Option ρ)
  | [] => .ok none
  | [row] => .ok (some row)
  | _ => .error (.other "MultipleResultsFound")

/-- The error of a phase entered in the wrong status. -/
def statusMismatch (runId : ℕ) (expected got : RunStatus) : PyException :=
  .valueError s!"Run id={runId} must have status '{expected.text}', got '{got.text}'"

namespace PipelineEnv

variable (env : PipelineEnv)

/-- The row stored for the answer generated from the given rows. -/
def generatedRow (rows : List (RetrievalResult × String)) : GenerationResult :=
  let gen := env.generateRagAnswer env.queryText (rows.map Prod.snd)
  { answerText := gen.answerText
    modelId := gen.modelId
    inputTokens := gen.inputTokens
    outputTokens := gen.outputTokens
    metadataJson := some gen.metadataJson }

/-- `execute_generation_for_run`. -/
def executeGenerationForRun (loaded committed : Run) (elapsedMs : ℕ) :
    Except PyException PendingChanges := do
  if loaded.status ≠ .retrievalCompleted then
    throw (statusMismatch loaded.id .retrievalCompleted loaded.status)
  if (← scalarOneOrNone committed.generationResults).isSome then
    throw (.valueError s!"Generation already exists for run id={loaded.id}")
  let rows := env.rankedRows committed
  if rows.isEmpty then
    throw (.valueError s!"No retrieval_results for run id={loaded.id}; cannot generate")
  return {
    generationResults := [env.generatedRow rows]
    generationLatencyMs := some elapsedMs
    status := some .generationCompleted }

end PipelineEnv

/-! ## Evaluation -/

/-- `tp.store_evaluation_result`: the row with its label normalised. -/
def EvaluationResult.forStorage (evaluation : EvaluationResult) : EvaluationResult :=
  { evaluation with failureType := some (failureTypeForStorage evaluation.failureType) }

/-- `persist_evaluation_and_complete_run`.  Latencies are natural numbers here,
so the check for a negative one has nothing to refuse. -/
def persistEvaluationAndCompleteRun (loaded committed : Run)
    (evaluationLatencyMs totalLatencyMs : ℕ) (evaluation : EvaluationResult)
    (prerequisiteStatus : RunStatus) : Except PyException PendingChanges := do
  if loaded.status ≠ prerequisiteStatus then
    throw (statusMismatch loaded.id prerequisiteStatus loaded.status)
  if (← scalarOneOrNone committed.evaluationResults).isSome then
    throw (.valueError s!"Evaluation already exists for run id={loaded.id}")
  if prerequisiteStatus = .retrievalCompleted ∧ committed.retrievalResults = [] then
    throw (.valueError (s!"Run id={loaded.id} has no retrieval_results rows; " ++
      "refusing to mark completed"))
  if prerequisiteStatus = .generationCompleted ∧ committed.generationResults.isEmpty then
    throw (.valueError (s!"Run id={loaded.id} has no generation_results row; " ++
      "refusing LLM evaluation completion"))
  if evaluation.usedLlmJudge ∧ committed.generationResults.isEmpty then
    throw (.valueError
      (s!"Run id={loaded.id}: used_llm_judge=True but no generation_results; " ++
       "refusing to mark completed (full pipeline requires generation)"))
  return {
    evaluationResults := [evaluation.forStorage]
    evaluationLatencyMs := some evaluationLatencyMs
    totalLatencyMs := some totalLatencyMs
    status := some .completed }

/-- `_evaluator_mode_from_run_metadata`. -/
def evaluatorModeFromRunMetadata (metadata : Option JsonObject) : String :=
  match (metadata.getD []).get "evaluator_execution_mode" with
  | none => "llm_only"
  | some (.str mode) => if mode = "" then "llm_only" else mode
  | some value => if value.truthy then value.text else "llm_only"

/-- The largest stored score; `0` without rows. -/
def maxChunkScore (rows : List (RetrievalResult × String)) : ℚ :=
  match rows with
  | [] => 0
  | row :: rest => rest.foldl (fun acc r => max acc r.1.score) row.1.score

/-- The members that both branches of the judge phase add to the metadata. -/
def withGenerationMetadata (metadata : JsonObject) (gen : GenerationResult) : JsonObject :=
  JsonObject.update metadata
    [("generation_model", .str gen.modelId),
     ("generation_input_tokens", tokensJson gen.inputTokens),
     ("generation_output_tokens", tokensJson gen.outputTokens)]

/-- `cost_usd` of a judged run: unknown only when both parts are. -/
def judgedCostUsd (genCost judgeCost : Option ℚ) : Option ℚ :=
  if genCost.isSome ∨ judgeCost.isSome then some (genCost.getD 0 + judgeCost.getD 0)
  else none

namespace PipelineEnv

variable (env : PipelineEnv)

/-- The evaluation row and the instrumentation patch when the gate skips the
judge. -/
def skippedJudgeOutcome (rows : List (RetrievalResult × String)) (gen : GenerationResult) :
    EvaluationResult × JsonObject :=
  let ev := computeHybridSkippedEvaluation env.queryText env.expectedAnswer rows gen.answerText
  let genCost := env.settings.estimateUsdFromTokens gen.inputTokens gen.outputTokens
  ({ faithfulness := ev.faithfulness
     completeness := ev.completeness
     retrievalRelevance := ev.retrievalRelevance
     contextCoverage := ev.contextCoverage
     groundedness := none
     failureType := ev.failureType
     usedLlmJudge := false
     costUsd := genCost
     metadataJson := some (withGenerationMetadata ev.metadataJson gen) },
   hybridSkippedJudgeInstrumentation gen.inputTokens gen.outputTokens genCost)

/-- The evaluation row and the instrumentation patch when the judge is
called. -/
def judgedOutcome (hybridGateFailed : Bool) (rows : List (RetrievalResult × String))
    (gen : GenerationResult) : EvaluationResult × JsonObject :=
  let ev := env.evaluateWithLlmJudge env.queryText (rows.map Prod.snd) gen.answerText
    env.expectedAnswer
  let genCost := env.settings.estimateUsdFromTokens gen.inputTokens gen.outputTokens
  let judgeCost :=
    env.settings.estimateUsdFromTokens ev.judgeInputTokens ev.judgeOutputTokens
  let costUsd := judgedCostUsd genCost judgeCost
  let metadata := withGenerationMetadata ev.metadataJson gen
  ({ faithfulness := ev.faithfulness
     completeness := ev.completeness
     retrievalRelevance := ev.retrievalRelevance
     contextCoverage := ev.contextCoverage
     groundedness := ev.groundedness
     failureType := ev.failureType
     usedLlmJudge := true
     costUsd := costUsd
     metadataJson := some
       (if hybridGateFailed then
          metadata.update [("hybrid_judge_gate_failed", .bool true),
            ("hybrid_gate_max_chunk_score", decimalJson (maxChunkScore rows))]
        else metadata) },
   fullLlmRunInstrumentation ev.judgeInputTokens ev.judgeOutputTokens gen.inputTokens
     gen.outputTokens costUsd)

/-- The evaluation row and the instrumentation patch of the judge phase, for a
run whose metadata names the mode. -/
def judgePhaseOutcome (metadata : Option JsonObject)
    (rows : List (RetrievalResult × String)) (gen : GenerationResult) :
    EvaluationResult × JsonObject :=
  let useHybrid := evaluatorModeFromRunMetadata metadata = "hybrid"
  let pre := computeMinimalRetrievalEvaluation env.queryText env.expectedAnswer rows
  let gateOk := hybridRetrievalGatePasses (maxChunkScore rows) pre.retrievalRelevance
    pre.contextCoverage
  if useHybrid ∧ gateOk then env.skippedJudgeOutcome rows gen
  else env.judgedOutcome (decide useHybrid && !gateOk) rows gen

/-- `execute_llm_judge_and_complete_run`. -/
def executeLlmJudgeAndCompleteRun (loaded committed : Run) (elapsedMs : ℕ) :
    Except PyException PendingChanges := do
  if loaded.status ≠ .generationCompleted then
    throw (statusMismatch loaded.id .generationCompleted loaded.status)
  match ← scalarOneOrNone committed.generationResults with
  | none => throw (.valueError s!"No generation_results for run id={loaded.id}")
  | some gen =>
    let rows := env.rankedRows committed
    let (evaluation, patch) := env.judgePhaseOutcome loaded.metadataJson rows gen
    let totalMs := loaded.retrievalLatencyMs.getD 0 + loaded.generationLatencyMs.getD 0 +
      elapsedMs
    let changes ← persistEvaluationAndCompleteRun loaded committed elapsedMs totalMs
      evaluation .generationCompleted
    return { changes with
      traceInstrumentationJson :=
        some (mergeRunTraceInstrumentation loaded.traceInstrumentationJson patch) }

end PipelineEnv

/-! ## What each phase can do

One lemma per phase says under which conditions it goes through and what it then
leaves pending; nothing later opens the definitions above. -/

theorem scalarOneOrNone_eq_ok {ρ : Type} {rows : List ρ} {row : Option ρ}
    (h : scalarOneOrNone rows = .ok row) : rows = row.toList := by
  match rows, h with
  | [], h =>
      cases h
      rfl
  | [r], h =>
      cases h
      rfl

theorem scalarOneOrNone_of_length_le {ρ : Type} {rows : List ρ} (h : rows.length ≤ 1) :
    scalarOneOrNone rows = .ok rows.head? := by
  match rows, h with
  | [], _ => rfl
  | [row], _ => rfl

theorem persistEvaluation_eq_ok {loaded committed : Run} {evaluationMs totalMs : ℕ}
    {evaluation : EvaluationResult} {prerequisite : RunStatus} {changes : PendingChanges}
    (h : persistEvaluationAndCompleteRun loaded committed evaluationMs totalMs evaluation
      prerequisite = .ok changes) :
    loaded.status = prerequisite ∧ committed.evaluationResults = [] ∧
      changes =
        { evaluationResults := [evaluation.forStorage]
          evaluationLatencyMs := some evaluationMs
          totalLatencyMs := some totalMs
          status := some .completed } := by
  simp only [persistEvaluationAndCompleteRun, bind, Except.bind, pure, Except.pure, throw,
    throwThe, MonadExceptOf.throw] at h
  by_cases hstatus : loaded.status = prerequisite
  · cases hrow : scalarOneOrNone committed.evaluationResults with
    | error e => simp [hstatus, hrow] at h
    | ok row =>
        have hevaluation := scalarOneOrNone_eq_ok hrow
        cases row with
        | some row => simp [hstatus, hrow] at h
        | none =>
            refine ⟨hstatus, hevaluation, ?_⟩
            simp only [hstatus, hrow, ne_eq, not_true_eq_false, if_false,
              Option.isSome_none, Bool.false_eq_true] at h
            split_ifs at h
            exact (Except.ok.inj h).symm
  · simp [hstatus] at h

theorem persistEvaluation_error {loaded committed : Run} {evaluationMs totalMs : ℕ}
    {evaluation : EvaluationResult} {prerequisite : RunStatus} {e : PyException}
    (hunique : committed.evaluationResults.length ≤ 1)
    (h : persistEvaluationAndCompleteRun loaded committed evaluationMs totalMs evaluation
      prerequisite = .error e) : ∃ message, e = .valueError message := by
  simp only [persistEvaluationAndCompleteRun, scalarOneOrNone_of_length_le hunique, bind,
    Except.bind, pure, Except.pure, throw, throwThe, MonadExceptOf.throw] at h
  split_ifs at h <;> exact ⟨_, (Except.error.inj h).symm⟩

namespace PipelineEnv

variable (env : PipelineEnv)

@[simp] theorem retrievalRows_length (hits : List Hit) :
    (retrievalRows hits).length = hits.length := by
  simp [retrievalRows]

/-- The ranks stored for `n` hits are `1, …, n`. -/
@[simp] theorem retrievalRows_rank (hits : List Hit) :
    (retrievalRows hits).map RetrievalResult.rank = List.range' 1 hits.length := by
  refine List.ext_getElem (by simp [retrievalRows]) ?_
  intro i hi hi'
  simp [retrievalRows, Nat.add_comm]

variable {env}

theorem retrievalResults_ne_nil_of_rankedRows {run : Run} (h : env.rankedRows run ≠ []) :
    run.retrievalResults ≠ [] := by
  intro hnil
  exact h (by simp [rankedRows, hnil])

/-- What a generation phase that goes through has read and leaves pending. -/
theorem executeGeneration_eq_ok {loaded committed : Run} {elapsedMs : ℕ}
    {changes : PendingChanges}
    (h : env.executeGenerationForRun loaded committed elapsedMs = .ok changes) :
    loaded.status = .retrievalCompleted ∧ committed.generationResults = [] ∧
      env.rankedRows committed ≠ [] ∧
      changes =
        { generationResults := [env.generatedRow (env.rankedRows committed)]
          generationLatencyMs := some elapsedMs
          status := some .generationCompleted } := by
  simp only [executeGenerationForRun, bind, Except.bind, pure, Except.pure, throw,
    throwThe, MonadExceptOf.throw] at h
  by_cases hstatus : loaded.status = .retrievalCompleted
  · cases hrow : scalarOneOrNone committed.generationResults with
    | error e => simp [hstatus, hrow] at h
    | ok row =>
        have hgeneration := scalarOneOrNone_eq_ok hrow
        cases row with
        | some row => simp [hstatus, hrow] at h
        | none =>
            cases hranked : env.rankedRows committed with
            | nil => simp [hstatus, hrow, hranked] at h
            | cons r rows =>
                refine ⟨hstatus, hgeneration, List.cons_ne_nil r rows, ?_⟩
                simpa [hstatus, hrow, hranked] using h.symm
  · simp [hstatus] at h

/-- The generation phase goes through on a run that has a retrieved chunk and no
generation row. -/
theorem executeGeneration_ok {loaded committed : Run} (elapsedMs : ℕ)
    (hstatus : loaded.status = .retrievalCompleted)
    (hgeneration : committed.generationResults = [])
    (hrows : env.rankedRows committed ≠ []) :
    ∃ changes, env.executeGenerationForRun loaded committed elapsedMs = .ok changes := by
  simp [executeGenerationForRun, scalarOneOrNone, hstatus, hgeneration, hrows, bind,
    Except.bind, pure, Except.pure]

/-- What a judge phase that goes through has read and leaves pending. -/
theorem executeLlmJudge_eq_ok {loaded committed : Run} {elapsedMs : ℕ}
    {changes : PendingChanges}
    (h : env.executeLlmJudgeAndCompleteRun loaded committed elapsedMs = .ok changes) :
    ∃ gen, loaded.status = .generationCompleted ∧ committed.generationResults = [gen] ∧
      committed.evaluationResults = [] ∧
      changes =
        { evaluationResults :=
            [(env.judgePhaseOutcome loaded.metadataJson (env.rankedRows committed)
              gen).1.forStorage]
          evaluationLatencyMs := some elapsedMs
          totalLatencyMs := some (loaded.retrievalLatencyMs.getD 0 +
            loaded.generationLatencyMs.getD 0 + elapsedMs)
          traceInstrumentationJson := some
            (mergeRunTraceInstrumentation loaded.traceInstrumentationJson
              (env.judgePhaseOutcome loaded.metadataJson (env.rankedRows committed) gen).2)
          status := some .completed } := by
  simp only [executeLlmJudgeAndCompleteRun, bind, Except.bind, pure, Except.pure, throw,
    throwThe, MonadExceptOf.throw] at h
  by_cases hstatus : loaded.status = .generationCompleted
  · cases hrow : scalarOneOrNone committed.generationResults with
    | error e => simp [hstatus, hrow] at h
    | ok row =>
        cases row with
        | none => simp [hstatus, hrow] at h
        | some gen =>
            refine ⟨gen, hstatus, scalarOneOrNone_eq_ok hrow, ?_⟩
            simp only [hstatus, hrow, ne_eq, not_true_eq_false, if_false] at h
            split at h
            · simp at h
            · rename_i evaluationChanges hpersist
              obtain ⟨-, hevaluation, hchanges⟩ := persistEvaluation_eq_ok hpersist
              refine ⟨hevaluation, ?_⟩
              rw [hchanges] at h
              exact (Except.ok.inj h).symm
  · simp [hstatus] at h

/-- The judge phase goes through on a run that has its generation row and no
evaluation row. -/
theorem executeLlmJudge_ok {loaded committed : Run} {gen : GenerationResult}
    (elapsedMs : ℕ) (hstatus : loaded.status = .generationCompleted)
    (hgeneration : committed.generationResults = [gen])
    (hevaluation : committed.evaluationResults = []) :
    ∃ changes, env.executeLlmJudgeAndCompleteRun loaded committed elapsedMs = .ok changes := by
  simp [executeLlmJudgeAndCompleteRun, persistEvaluationAndCompleteRun, scalarOneOrNone,
    hstatus, hgeneration, hevaluation, bind, Except.bind, pure, Except.pure]

/-! With the uniqueness of its rows a phase fails by `ValueError` only. -/

theorem executeGeneration_error {loaded committed : Run} {elapsedMs : ℕ} {e : PyException}
    (hunique : committed.generationResults.length ≤ 1)
    (h : env.executeGenerationForRun loaded committed elapsedMs = .error e) :
    ∃ message, e = .valueError message := by
  simp only [executeGenerationForRun, scalarOneOrNone_of_length_le hunique, bind, Except.bind,
    pure, Except.pure, throw, throwThe, MonadExceptOf.throw] at h
  split_ifs at h <;> exact ⟨_, (Except.error.inj h).symm⟩

theorem executeLlmJudge_error {loaded committed : Run} {elapsedMs : ℕ} {e : PyException}
    (hgeneration : committed.generationResults.length ≤ 1)
    (hevaluation : committed.evaluationResults.length ≤ 1)
    (h : env.executeLlmJudgeAndCompleteRun loaded committed elapsedMs = .error e) :
    ∃ message, e = .valueError message := by
  simp only [executeLlmJudgeAndCompleteRun, scalarOneOrNone_of_length_le hgeneration, bind,
    Except.bind, pure, Except.pure, throw, throwThe, MonadExceptOf.throw] at h
  split at h
  · exact ⟨_, (Except.error.inj h).symm⟩
  · cases hgen : committed.generationResults.head? with
    | none =>
        rw [hgen] at h
        exact ⟨_, (Except.error.inj h).symm⟩
    | some gen =>
        rw [hgen] at h
        simp only at h
        split at h
        · rename_i hpersist
          obtain ⟨message, rfl⟩ := persistEvaluation_error hevaluation hpersist
          exact ⟨message, (Except.error.inj h).symm⟩
        · cases h

end PipelineEnv

end ContextLens
