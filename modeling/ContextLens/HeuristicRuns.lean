import ContextLens.RunLifecycle

/-!
# Heuristic runs

`validate_run_create_prerequisites` and `create_and_execute_run_from_ids` of
`app/services/run_create.py`, with `execute_retrieval_benchmark_run` of
`app/services/benchmark_run.py`: the inline path of `POST /runs`.

The path commits three times — the row as `running`, the retrieved rows with
`retrieval_completed`, the evaluation row with `completed` — and has no handler
of its own.  Whatever raises between two commits leaves the run in the status of
the first, and one thing does raise without any fault: a search without hits,
which the evaluator has a branch for and the persistence refuses.

A request meets the world through a `HeuristicAttempt`: where something raises,
if anything does.  An embedding or a search that raises is `inRetrieval`.
-/

namespace ContextLens

open Foundations

/-! ## Prerequisites -/

/-- `eval_mode` of `POST /runs`. -/
inductive EvalMode
  | heuristic
  | full
  | fullHybrid
  deriving DecidableEq, Repr

/-- The exceptions of `validate_run_create_prerequisites`, and any other. -/
inductive RunCreateError
  | queryCaseNotFound (queryCaseId : ℕ)
  | pipelineConfigNotFound (pipelineConfigId : ℕ)
  | documentNotFound (documentId : ℕ)
  | fullModeNotConfigured (message : String)
  | raised (exception : PyException)
  deriving DecidableEq, Repr

/-- What a query case contributes to a run. -/
structure QueryCaseTexts where
  queryText : String
  expectedAnswer : Option String

/-- The registries a run is created from: query cases, the `top_k` of pipeline
configs, documents. -/
structure Registry where
  queryCase : ℕ → Option QueryCaseTexts
  pipelineConfig : ℕ → Option ℕ
  document : ℕ → Bool

/-- The ids of a `POST /runs`. -/
structure RunCreateRequest where
  queryCaseId : ℕ
  pipelineConfigId : ℕ
  documentId : Option ℕ

/-- The key check of the two full modes. -/
def requireFullMode (settings : Settings) : EvalMode → Except RunCreateError Unit
  | .heuristic => .ok ()
  | .full | .fullHybrid =>
      match settings.requireLlmApiKeyForFullMode with
      | .ok () => .ok ()
      | .error (.valueError message) => .error (.fullModeNotConfigured message)
      | .error e => .error (.raised e)

/-- `validate_run_create_prerequisites`: the query case and the `top_k` it has
found. -/
def validateRunCreatePrerequisites (registry : Registry) (settings : Settings)
    (request : RunCreateRequest) (mode : EvalMode) :
    Except RunCreateError (QueryCaseTexts × ℕ) :=
  match registry.queryCase request.queryCaseId with
  | none => .error (.queryCaseNotFound request.queryCaseId)
  | some queryCase =>
      match registry.pipelineConfig request.pipelineConfigId with
      | none => .error (.pipelineConfigNotFound request.pipelineConfigId)
      | some topK =>
          match request.documentId.filter fun d => !registry.document d with
          | some d => .error (.documentNotFound d)
          | none => (requireFullMode settings mode).map fun () => (queryCase, topK)

/-- The environment of a run of that query case and that config. -/
def PipelineEnv.forRun (env : PipelineEnv) (found : QueryCaseTexts × ℕ) : PipelineEnv :=
  { env with
    queryText := found.1.queryText
    expectedAnswer := found.1.expectedAnswer
    topK := found.2 }

/-! ## The evaluation of a heuristic run -/

/-- `heuristic_run_instrumentation`. -/
def heuristicRunInstrumentation : JsonObject :=
  runInstrumentation "heuristic_only" 1 0 0 0 0 0 none none none

/-- The row for the scores of the heuristic evaluator. -/
def MinimalRetrievalEvalScores.evaluationResult (scores : MinimalRetrievalEvalScores) :
    EvaluationResult where
  faithfulness := scores.faithfulness
  completeness := scores.completeness
  retrievalRelevance := scores.retrievalRelevance
  contextCoverage := scores.contextCoverage
  groundedness := none
  failureType := scores.failureType
  usedLlmJudge := scores.usedLlmJudge
  costUsd := none
  metadataJson := some scores.metadataJson

/-- `persist_evaluation_and_complete_run` and `merge_run_trace_instrumentation` as the
heuristic paths call them. -/
def completeHeuristicRun (loaded committed : Run) (evaluationMs : ℕ)
    (scores : MinimalRetrievalEvalScores) : Except PyException PendingChanges := do
  let changes ← persistEvaluationAndCompleteRun loaded committed evaluationMs
    (loaded.retrievalLatencyMs.getD 0 + evaluationMs) scores.evaluationResult
    .retrievalCompleted
  return { changes with
    traceInstrumentationJson := some
      (mergeRunTraceInstrumentation loaded.traceInstrumentationJson
        heuristicRunInstrumentation) }

/-! ## The request -/

/-- Where a heuristic request is interrupted by an exception: before its first
commit, before the second, before the third, or after it. -/
inductive HeuristicPoint
  | inCreation
  | inRetrieval
  | inEvaluation
  | afterCompletion
  deriving DecidableEq, Repr

/-- The circumstances of one request. -/
structure HeuristicAttempt where
  abort : Option (HeuristicPoint × PyException)
  retrievalMs : ℕ
  evaluationMs : ℕ

/-- The exception that the attempt holds for a point. -/
def HeuristicAttempt.abortAt (attempt : HeuristicAttempt) (point : HeuristicPoint) :
    Except PyException Unit :=
  match attempt.abort with
  | some (at', e) => if at' = point then .error e else .ok ()
  | none => .ok ()

section

variable (env : PipelineEnv) (attempt : HeuristicAttempt) (documentId : Option ℕ)

/-- The second transaction of the path: search, rows, `retrieval_completed`. -/
def commitHeuristicRetrieval (created : Run) : Except PyException Run := do
  attempt.abortAt .inRetrieval
  created.commit (env.executeRetrievalForExistingRun documentId attempt.retrievalMs)

/-- The third transaction: evaluation row and `completed`. -/
def commitHeuristicEvaluation (retrieved : Run) : Except PyException Run := do
  attempt.abortAt .inEvaluation
  let scores := computeMinimalRetrievalEvaluation env.queryText env.expectedAnswer
    (env.rankedRows retrieved)
  let changes ← completeHeuristicRun retrieved retrieved attempt.evaluationMs scores
  retrieved.commit changes

/-- The path from the committed `running` row on: the committed run at the end, and
what the request raises. -/
def executeHeuristicRun (created : Run) : Run × Except PyException Run :=
  match commitHeuristicRetrieval env attempt documentId created with
  | .error e => (created, .error e)
  | .ok retrieved =>
      match commitHeuristicEvaluation env attempt retrieved with
      | .error e => (retrieved, .error e)
      | .ok completed => (completed, (attempt.abortAt .afterCompletion).map fun () => completed)

end

/-- What a request leaves behind: the committed run, if one was created, and the
answer. -/
structure HeuristicResult where
  run : Option Run
  response : Except RunCreateError Run

/-- `create_and_execute_run_from_ids`; the run gets the id `runId`. -/
def createAndExecuteRunFromIds (registry : Registry) (deps : PipelineEnv)
    (attempt : HeuristicAttempt) (request : RunCreateRequest) (runId : ℕ) : HeuristicResult :=
  match validateRunCreatePrerequisites registry deps.settings request .heuristic with
  | .error e => { run := none, response := .error e }
  | .ok found =>
      match attempt.abortAt .inCreation with
      | .error e => { run := none, response := .error (.raised e) }
      | .ok () =>
          let (run, response) := executeHeuristicRun (deps.forRun found) attempt
            request.documentId (createRun runId .running none)
          { run := some run, response := response.mapError .raised }

/-! ## When a search has hits -/

/-- The select of the search answers a row. -/
def PipelineEnv.HasHits (env : PipelineEnv) (documentId : Option ℕ) : Prop :=
  env.foundChunks documentId ≠ []

section

variable {env : PipelineEnv} {documentId : Option ℕ} {attempt : HeuristicAttempt} {run run' : Run}

theorem PipelineEnv.searchChunks_eq_nil_iff :
    env.searchChunks documentId = [] ↔ ¬env.HasHits documentId := by
  rw [PipelineEnv.searchChunks, List.map_eq_nil_iff, PipelineEnv.HasHits, not_not]

/-- A scan that misses nothing has hits when the config asks for some and the scope has an
embedded chunk. -/
theorem PipelineEnv.hasHits_iff (hexact : env.scan.Exact) :
    env.HasHits documentId ↔ 0 < env.topK ∧ ∃ chunk ∈ env.chunks, chunk.embedding.isSome ∧
      ∀ d, documentId = some d → chunk.documentId = d := by
  have hscope : ∀ chunk : Chunk,
      (documentId.all fun d => chunk.documentId = d) = true ↔
        ∀ d, documentId = some d → chunk.documentId = d := by
    intro chunk
    cases documentId <;> simp
  rw [PipelineEnv.HasHits, PipelineEnv.foundChunks, hexact.answer_ne_nil_iff]
  refine and_congr_right fun _ => ?_
  simp only [PipelineEnv.embeddedChunks, List.mem_filterMap, Option.map_eq_some_iff, hscope]
  constructor
  · rintro ⟨row, ⟨chunk, hchunk, e, he, rfl⟩, hin⟩
    exact ⟨chunk, hchunk, by simp [he], hin⟩
  · rintro ⟨chunk, hchunk, hembedded, hin⟩
    obtain ⟨e, he⟩ := Option.isSome_iff_exists.mp hembedded
    exact ⟨_, ⟨chunk, hchunk, e, he, rfl⟩, hin⟩

theorem commitHeuristicRetrieval_eq (created : Run) :
    commitHeuristicRetrieval env attempt documentId created =
      (attempt.abortAt .inRetrieval).map fun () =>
        { created with
          retrievalResults := created.retrievalResults ++
            PipelineEnv.retrievalRows (env.searchChunks documentId)
          retrievalLatencyMs := some attempt.retrievalMs
          status := .retrievalCompleted } := by
  rw [commitHeuristicRetrieval]
  cases attempt.abortAt .inRetrieval with
  | error e => rfl
  | ok u =>
      simp [PipelineEnv.executeRetrievalForExistingRun, Run.commit, Run.apply, bind, Except.bind,
        Except.map]

/-- Persisting the evaluation is refused exactly on a run without retrieved rows. -/
theorem completeHeuristicRun_eq {evaluationMs : ℕ} {scores : MinimalRetrievalEvalScores}
    (hstatus : run.status = .retrievalCompleted) (hevaluation : run.evaluationResults = [])
    (hjudge : scores.usedLlmJudge = false) :
    completeHeuristicRun run run evaluationMs scores =
      if run.retrievalResults = [] then
        .error (.valueError (s!"Run id={run.id} has no retrieval_results rows; " ++
          "refusing to mark completed"))
      else .ok
        { evaluationResults := [scores.evaluationResult.forStorage]
          evaluationLatencyMs := some evaluationMs
          totalLatencyMs := some (run.retrievalLatencyMs.getD 0 + evaluationMs)
          traceInstrumentationJson := some
            (mergeRunTraceInstrumentation run.traceInstrumentationJson
              heuristicRunInstrumentation)
          status := some .completed } := by
  by_cases hrows : run.retrievalResults = [] <;>
    simp [completeHeuristicRun, persistEvaluationAndCompleteRun, scalarOneOrNone, hstatus,
      hevaluation, hrows, hjudge, MinimalRetrievalEvalScores.evaluationResult, bind, Except.bind,
      pure, Except.pure, throw, throwThe, MonadExceptOf.throw]

theorem computeMinimal_usedLlmJudge (queryText : String) (expectedAnswer : Option String)
    (rows : List (RetrievalResult × String)) :
    (computeMinimalRetrievalEvaluation queryText expectedAnswer rows).usedLlmJudge = false := by
  cases rows <;> rfl

/-- The third transaction goes through when nothing raises and there is a hit. -/
theorem commitHeuristicEvaluation_isOk_iff (env : PipelineEnv) (attempt : HeuristicAttempt)
    (hstatus : run.status = .retrievalCompleted)
    (hevaluation : run.evaluationResults = []) :
    (∃ completed, commitHeuristicEvaluation env attempt run = .ok completed) ↔
      attempt.abortAt .inEvaluation = .ok () ∧ run.retrievalResults ≠ [] := by
  rw [commitHeuristicEvaluation]
  cases attempt.abortAt .inEvaluation with
  | error e => simp [bind, Except.bind]
  | ok u =>
      simp only [completeHeuristicRun_eq hstatus hevaluation (computeMinimal_usedLlmJudge _ _ _)]
      by_cases hrows : run.retrievalResults = [] <;>
        simp [hrows, hevaluation, bind, Except.bind, Run.commit, Run.violatesUnique]

/-- A third transaction that went through has completed the run. -/
theorem commitHeuristicEvaluation_eq_ok (hstatus : run.status = .retrievalCompleted)
    (hevaluation : run.evaluationResults = [])
    (h : commitHeuristicEvaluation env attempt run = .ok run') :
    run'.status = .completed ∧ run'.generationResults = run.generationResults ∧
      run'.evaluationResults.length = 1 := by
  rw [commitHeuristicEvaluation] at h
  cases habort : attempt.abortAt .inEvaluation with
  | error e => simp [habort, bind, Except.bind] at h
  | ok u =>
      simp only [habort, bind, Except.bind,
        completeHeuristicRun_eq hstatus hevaluation (computeMinimal_usedLlmJudge _ _ _)] at h
      by_cases hrows : run.retrievalResults = []
      · simp [hrows] at h
      · rw [if_neg hrows] at h
        obtain rfl := Run.commit_eq_ok h
        simp [Run.apply, hevaluation]

/-! ## When a request settles its run -/

/-- Nothing raises between the first commit and the third. -/
def HeuristicAttempt.Undisturbed (attempt : HeuristicAttempt) : Prop :=
  attempt.abortAt .inRetrieval = .ok () ∧ attempt.abortAt .inEvaluation = .ok ()

/-- The path leaves the created run completed, or in flight. -/
theorem executeHeuristicRun_settled_iff (attempt : HeuristicAttempt) (runId : ℕ)
    (metadata : Option JsonObject) :
    ((executeHeuristicRun env attempt documentId (createRun runId .running metadata)).1.status =
        .completed ∨
      (executeHeuristicRun env attempt documentId (createRun runId .running metadata)).1.status =
        .failed) ↔ attempt.Undisturbed ∧ env.HasHits documentId := by
  rw [executeHeuristicRun, commitHeuristicRetrieval_eq, HeuristicAttempt.Undisturbed]
  cases attempt.abortAt .inRetrieval with
  | error e => simp [Except.map, createRun]
  | ok u =>
      simp only [Except.map, true_and]
      generalize hretrieved : ({ createRun runId .running metadata with
        retrievalResults := (createRun runId .running metadata).retrievalResults ++
          PipelineEnv.retrievalRows (env.searchChunks documentId)
        retrievalLatencyMs := some attempt.retrievalMs
        status := .retrievalCompleted } : Run) = retrieved
      have hstatus : retrieved.status = .retrievalCompleted := by rw [← hretrieved]
      have hevaluation : retrieved.evaluationResults = [] := by
        rw [← hretrieved]
        rfl
      have hrows : retrieved.retrievalResults ≠ [] ↔ env.HasHits documentId := by
        rw [← not_iff_not, not_not, ← PipelineEnv.searchChunks_eq_nil_iff, ← hretrieved]
        simp [createRun, PipelineEnv.retrievalRows]
      have hok := commitHeuristicEvaluation_isOk_iff env attempt hstatus hevaluation
      rw [hrows] at hok
      cases hcommit : commitHeuristicEvaluation env attempt retrieved with
      | error e =>
          rw [hcommit] at hok
          rw [← hok]
          simp [hstatus]
      | ok completed =>
          obtain ⟨hdone, -, -⟩ := commitHeuristicEvaluation_eq_ok hstatus hevaluation hcommit
          rw [hcommit] at hok
          rw [← hok]
          simp [hdone]

end

/-- **When a heuristic request settles its run**: unless it creates none, the search
has a hit and nothing raises after the run was created.  With a scan that misses nothing
there is a hit when `top_k` is positive and the scope has an embedded chunk. -/
theorem heuristic_request_settles_iff (registry : Registry) (deps : PipelineEnv)
    (attempt : HeuristicAttempt) (request : RunCreateRequest) (runId : ℕ) :
    ((∀ run, (createAndExecuteRunFromIds registry deps attempt request runId).run = some run →
        run.status = .completed ∨ run.status = .failed) ↔
      ∀ found, validateRunCreatePrerequisites registry deps.settings request .heuristic =
          .ok found →
        attempt.abortAt .inCreation = .ok () →
          attempt.Undisturbed ∧ (deps.forRun found).HasHits request.documentId) ∧
    (deps.scan.Exact → ∀ found : QueryCaseTexts × ℕ,
      ((deps.forRun found).HasHits request.documentId ↔
        0 < found.2 ∧ ∃ chunk ∈ deps.chunks, chunk.embedding.isSome ∧
          ∀ d, request.documentId = some d → chunk.documentId = d)) := by
  refine ⟨?_, fun hexact found => PipelineEnv.hasHits_iff hexact⟩
  rw [createAndExecuteRunFromIds]
  cases validateRunCreatePrerequisites registry deps.settings request .heuristic with
  | error e => simp
  | ok found =>
      cases attempt.abortAt .inCreation with
      | error e => simp
      | ok u => simp [← executeHeuristicRun_settled_iff attempt runId none]

/-- One query case, one config, no document. -/
def smallRegistry : Registry where
  queryCase id := if id = 1 then some { queryText := "question", expectedAnswer := none } else none
  pipelineConfig id := if id = 1 then some 5 else none
  document _ := false

/-- Providers that answer, over a corpus without documents. -/
def emptyCorpusEnv : PipelineEnv := { oneChunkEnv with chunks := [] }

/-- Nothing raises. -/
def quietAttempt : HeuristicAttempt where
  abort := none
  retrievalMs := 3
  evaluationMs := 2

/-- A request for that query case and that config. -/
def smallRequest : RunCreateRequest where
  queryCaseId := 1
  pipelineConfigId := 1
  documentId := none

/-- Over a corpus with an embedded chunk the request settles its run. -/
theorem heuristic_request_settles_one_chunk :
    ∀ run, (createAndExecuteRunFromIds smallRegistry oneChunkEnv quietAttempt smallRequest
        7).run = some run →
      run.status = .completed ∨ run.status = .failed := by
  obtain ⟨hsettles, hhits⟩ :=
    heuristic_request_settles_iff smallRegistry oneChunkEnv quietAttempt smallRequest 7
  refine hsettles.mpr fun found hfound _ => ⟨⟨rfl, rfl⟩, ?_⟩
  obtain rfl : (({ queryText := "question", expectedAnswer := none }, 5) : QueryCaseTexts × ℕ) =
    found := Except.ok.inj hfound
  refine (hhits Sql.OrderedScan.sequential_exact _).mpr ⟨by decide, ?_⟩
  exact ⟨_, List.mem_singleton.mpr rfl, rfl, fun d hd => by cases hd⟩

/-- Over an empty corpus the request fails and leaves its run `retrieval_completed`. -/
theorem heuristic_request_leaves_run_hanging :
    ¬∀ run, (createAndExecuteRunFromIds smallRegistry emptyCorpusEnv quietAttempt smallRequest
        7).run = some run →
      run.status = .completed ∨ run.status = .failed := by
  intro h
  have hstatus : (createAndExecuteRunFromIds smallRegistry emptyCorpusEnv quietAttempt
      smallRequest 7).run.map Run.status = some .retrievalCompleted := by decide
  obtain ⟨run, hrun, hretrieved⟩ := Option.map_eq_some_iff.mp hstatus
  rcases h run hrun with hdone | hdone <;> rw [hretrieved] at hdone <;> cases hdone

end ContextLens
