import ContextLens.Foundations.TopRows
import ContextLens.HeuristicRuns

/-!
# What a heuristic request retrieves and stores

`search_chunks` returns chunks of its scope, each once and the nearest first, and with a scan
that misses nothing the nearest of all (`foundChunks_isTop`).  A heuristic request that answers
with its run has stored exactly these, ranked, with the evaluation of their texts
(`executeHeuristicRun_cases`).
-/

namespace ContextLens

open Foundations

/-! ## The search -/

namespace PipelineEnv

variable (env : PipelineEnv)

/-- The embedded chunks of the scope with their distances. -/
def scopedChunks (documentId : Option ℕ) : List (Chunk × ℚ) :=
  env.embeddedChunks.filter fun row => documentId.all fun d => row.1.documentId = d

theorem foundChunks_subperm (documentId : Option ℕ) :
    (env.foundChunks documentId).Subperm (env.scopedChunks documentId) :=
  env.scan.subperm _ _ _

theorem foundChunks_ordered (documentId : Option ℕ) :
    (env.foundChunks documentId).Pairwise Nearer := env.scan.ordered _ _ _

theorem foundChunks_isTop (hexact : env.scan.Exact) (documentId : Option ℕ) :
    Sql.IsTop Nearer env.topK (env.scopedChunks documentId) (env.foundChunks documentId) :=
  hexact _ _ _

variable {env}

theorem mem_scopedChunks {documentId : Option ℕ} {row : Chunk × ℚ} :
    row ∈ env.scopedChunks documentId ↔ row.1 ∈ env.chunks ∧
      (∃ e, row.1.embedding = some e ∧
        row.2 = env.cosineDistance e (env.embedText env.queryText)) ∧
      ∀ d, documentId = some d → row.1.documentId = d := by
  obtain ⟨chunk, distance⟩ := row
  rw [scopedChunks, List.mem_filter, embeddedChunks, List.mem_filterMap]
  constructor
  · rintro ⟨⟨chunk', hchunk, hrow⟩, hscope⟩
    obtain ⟨e, he, hpair⟩ := Option.map_eq_some_iff.mp hrow
    obtain ⟨rfl, rfl⟩ := Prod.mk.inj hpair
    refine ⟨hchunk, ⟨e, he, rfl⟩, fun d hd => ?_⟩
    rw [hd, Option.all_some] at hscope
    exact of_decide_eq_true hscope
  · rintro ⟨hchunk, ⟨e, he, hdistance⟩, hscope⟩
    refine ⟨⟨chunk, hchunk, Option.map_eq_some_iff.mpr ⟨e, he, Prod.ext rfl hdistance.symm⟩⟩, ?_⟩
    cases documentId with
    | none => rfl
    | some d => exact decide_eq_true (hscope d rfl)

/-- The stored rows of a search are about chunks. -/
theorem chunk_of_mem_retrievalRows {documentId : Option ℕ} {row : RetrievalResult}
    (h : row ∈ retrievalRows (env.searchChunks documentId)) :
    ∃ chunk ∈ env.chunks, chunk.id = row.chunkId := by
  obtain ⟨i, hi, rfl⟩ := List.mem_mapIdx.mp h
  have hhit : (env.searchChunks documentId)[i] ∈ (env.foundChunks documentId).map hitOf :=
    List.getElem_mem hi
  obtain ⟨found, hfound, hsame⟩ := List.mem_map.mp hhit
  have hscoped := (env.foundChunks_subperm documentId).subset hfound
  exact ⟨found.1, (mem_scopedChunks.mp hscoped).1, congrArg Hit.chunkId hsame⟩

end PipelineEnv

/-! ## What a heuristic request stores -/

/-- Prerequisites that are met have found the query case and the config. -/
theorem validateRunCreatePrerequisites_eq_ok {registry : Registry} {settings : Settings}
    {request : RunCreateRequest} {mode : EvalMode} {found : QueryCaseTexts × ℕ}
    (h : validateRunCreatePrerequisites registry settings request mode = .ok found) :
    registry.queryCase request.queryCaseId = some found.1 ∧
      registry.pipelineConfig request.pipelineConfigId = some found.2 := by
  unfold validateRunCreatePrerequisites at h
  cases hqueryCase : registry.queryCase request.queryCaseId with
  | none => simp [hqueryCase] at h
  | some texts =>
      cases hconfig : registry.pipelineConfig request.pipelineConfigId with
      | none => simp [hqueryCase, hconfig] at h
      | some topK =>
          simp only [hqueryCase, hconfig] at h
          split at h
          · cases h
          · cases hmode : requireFullMode settings mode with
            | error e =>
                rw [hmode] at h
                cases h
            | ok u =>
                rw [hmode] at h
                rw [← Except.ok.inj h]
                exact ⟨rfl, rfl⟩

section

variable {env : PipelineEnv} {attempt : HeuristicAttempt} {run : Run}

/-- The run with the evaluation of its retrieved rows, completed. -/
def Run.withHeuristicEvaluation (run : Run) (env : PipelineEnv) (evaluationMs : ℕ) : Run :=
  { run with
    status := .completed
    evaluationLatencyMs := some evaluationMs
    totalLatencyMs := some (run.retrievalLatencyMs.getD 0 + evaluationMs)
    traceInstrumentationJson := some
      (mergeRunTraceInstrumentation run.traceInstrumentationJson heuristicRunInstrumentation)
    evaluationResults := [(computeMinimalRetrievalEvaluation env.queryText env.expectedAnswer
      (env.rankedRows run)).evaluationResult.forStorage] }

/-- The third transaction, when it goes through. -/
theorem commitHeuristicEvaluation_ok (hstatus : run.status = .retrievalCompleted)
    (hevaluation : run.evaluationResults = []) {completed : Run}
    (h : commitHeuristicEvaluation env attempt run = .ok completed) :
    completed = run.withHeuristicEvaluation env attempt.evaluationMs := by
  rw [commitHeuristicEvaluation] at h
  cases habort : attempt.abortAt .inEvaluation with
  | error e => simp [habort, bind, Except.bind] at h
  | ok u =>
      simp only [habort, bind, Except.bind,
        completeHeuristicRun_eq hstatus hevaluation (computeMinimal_usedLlmJudge _ _ _)] at h
      by_cases hrows : run.retrievalResults = []
      · simp [hrows] at h
      · rw [if_neg hrows] at h
        rw [Run.commit_eq_ok h]
        simp [Run.apply, Run.withHeuristicEvaluation, hevaluation]

/-- The run after the second transaction. -/
def retrievedRun (env : PipelineEnv) (attempt : HeuristicAttempt) (documentId : Option ℕ)
    (runId : ℕ) : Run :=
  { createRun runId .running none with
    retrievalResults := PipelineEnv.retrievalRows (env.searchChunks documentId)
    retrievalLatencyMs := some attempt.retrievalMs
    status := .retrievalCompleted }

theorem executeHeuristicRun_eq (env : PipelineEnv) (attempt : HeuristicAttempt)
    (documentId : Option ℕ) (runId : ℕ) :
    executeHeuristicRun env attempt documentId (createRun runId .running none) =
      match attempt.abortAt .inRetrieval with
      | .error e => (createRun runId .running none, .error e)
      | .ok () =>
          match commitHeuristicEvaluation env attempt
              (retrievedRun env attempt documentId runId) with
          | .error e => (retrievedRun env attempt documentId runId, .error e)
          | .ok completed =>
              (completed, (attempt.abortAt .afterCompletion).map fun () => completed) := by
  rw [executeHeuristicRun, commitHeuristicRetrieval_eq]
  cases attempt.abortAt .inRetrieval <;> rfl

/-- **What is committed when the path ends**: the created run, the retrieved one, or the
completed one; only the last is returned. -/
theorem executeHeuristicRun_cases (env : PipelineEnv) (attempt : HeuristicAttempt)
    (documentId : Option ℕ) (runId : ℕ) :
    let result := executeHeuristicRun env attempt documentId (createRun runId .running none)
    let retrieved := retrievedRun env attempt documentId runId
    (result.1 = createRun runId .running none ∧ ∃ e, result.2 = .error e) ∨
      (result.1 = retrieved ∧ ∃ e, result.2 = .error e) ∨
      (result.1 = retrieved.withHeuristicEvaluation env attempt.evaluationMs ∧
        ∀ run, result.2 = .ok run → run = result.1) := by
  rw [executeHeuristicRun_eq]
  cases attempt.abortAt .inRetrieval with
  | error e => exact Or.inl ⟨rfl, e, rfl⟩
  | ok u =>
      cases hcommit : commitHeuristicEvaluation env attempt
          (retrievedRun env attempt documentId runId) with
      | error e => exact Or.inr (Or.inl ⟨rfl, e, rfl⟩)
      | ok completed =>
          refine Or.inr (Or.inr ⟨commitHeuristicEvaluation_ok rfl rfl hcommit, fun run hrun => ?_⟩)
          cases habort : attempt.abortAt .afterCompletion with
          | error e =>
              rw [habort] at hrun
              cases hrun
          | ok u =>
              rw [habort] at hrun
              exact (Except.ok.inj hrun).symm

end

end ContextLens
