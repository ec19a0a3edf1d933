import ContextLens.FullPipeline
import ContextLens.FullRunQueue
import ContextLens.Foundations.LabelledSystem

/-!
# The life of one full run

`create_run_endpoint` of `app/api/runs.py` creates a full run and, when the
enqueue raises, marks it failed.  From then on the committed run is moved by
pipeline attempts, by the two failure markings and by requeues.  `fullRunSystem`
is the system of these operations, one after the other.

The trace invariant ties the status to the rows.  The part that carries the
induction is not in the list of what one wants to know: a generation row comes
with retrieval rows, whatever the status (`generation_retrieved`).  It is what
makes the status that a requeue gives to a failed run a truthful one.

### The guard

Every operation keeps the invariant but one.  The failure handler of the create
endpoint assigns `failed` without looking at the status, unlike the two failure
markings; if a worker has completed the run by then — the push reached Redis
although the client saw an error, or a requeue pushed another job — an evaluated
run is recorded as failed.  `trace_invariant_iff` says that this is the only way
to lose the invariant.
-/

namespace ContextLens

open Foundations

/-! ## Creating a full run -/

/-- `eval_mode` of a full run. -/
inductive FullEvalMode
  | full
  | fullHybrid
  deriving DecidableEq, Repr

/-- `run_meta` of `create_run_endpoint`. -/
def fullRunMetadata (mode : FullEvalMode) (requestId : Option String) : JsonObject :=
  (match requestId with
    | some id => if id = "" then [] else [("request_id", .str id)]
    | none => []) ++
  [("evaluator_execution_mode", .str (match mode with
    | .full => "llm_only"
    | .fullHybrid => "hybrid"))]

/-- The run that `create_run_endpoint` commits before it enqueues. -/
def createFullRun (id : ℕ) (mode : FullEvalMode) (requestId : Option String) : Run :=
  createRun id .running (some (fullRunMetadata mode requestId))

/-- What the endpoint leaves pending when the enqueue raised `RedisError`. -/
def enqueueFailureChanges (created : Run) (error : String) (requestId : Option String) :
    PendingChanges :=
  let metadata := JsonObject.update (created.metadataJson.getD [])
    [("queue_enqueue_failed", .bool true), ("queue_error", .str error)]
  -- Assigned whatever the status is by now, unlike in `markFailedChanges`.
  { status := some .failed
    metadataJson := some (match requestId with
      | some id => if id = "" then metadata else JsonObject.set "request_id" (.str id) metadata
      | none => metadata) }

/-! ## The operations -/

/-- What may happen to a committed full run.  A requeue comes with everything it
finds besides the run: the key, the jobs, the chunks and the settings. -/
inductive FullRunOp
  | enqueueFailure (error : String) (requestId : Option String)
  | attempt (env : PipelineEnv) (attempt : Attempt) (documentId : Option ℕ)
  | markSafe
  | markSync (reachesDatabase : Bool)
  | requeue (found : QueueWorld) (call : RequeueCall)

/-- The committed run after an operation. -/
def FullRunOp.apply (run : Run) : FullRunOp → Run
  | enqueueFailure error requestId => run.apply (enqueueFailureChanges run error requestId)
  | attempt env a documentId => (runFullBenchmarkPipeline env a documentId run).run
  | markSafe => markRunFailedSafe run
  | markSync reachesDatabase => markRunFailedSync reachesDatabase run
  | requeue found call =>
      (requeueFullRun { found with run := some run } call).1.run.getD run

/-- The operations as a system. -/
def fullRunSystem : LabelledSystem Run FullRunOp where
  step run op := some (op.apply run)

/-! ## The trace invariant -/

/-- What status and rows of a full run have to do with each other. -/
structure TraceInvariant (run : Run) : Prop where
  ranks : run.retrievalResults.map RetrievalResult.rank =
    List.range' 1 run.retrievalResults.length
  generation_unique : run.generationResults.length ≤ 1
  evaluation_unique : run.evaluationResults.length ≤ 1
  running : run.status = .running → run.retrievalResults = [] ∧
    run.generationResults = [] ∧ run.evaluationResults = []
  retrieval_completed : run.status = .retrievalCompleted →
    run.generationResults = [] ∧ run.evaluationResults = []
  generation_completed : run.status = .generationCompleted →
    run.retrievalResults ≠ [] ∧ run.generationResults.length = 1 ∧ run.evaluationResults = []
  evaluated_iff : run.evaluationResults ≠ [] ↔ run.status = .completed
  completed : run.status = .completed → run.retrievalResults ≠ [] ∧
    run.generationResults.length = 1 ∧ run.traceInstrumentationJson.isSome ∧
      run.retrievalLatencyMs.isSome ∧ run.generationLatencyMs.isSome ∧
        run.evaluationLatencyMs.isSome ∧ run.totalLatencyMs.isSome
  generation_retrieved : run.generationResults ≠ [] → run.retrievalResults ≠ []
  retrieval_measured : run.retrievalResults ≠ [] → run.retrievalLatencyMs.isSome
  generation_measured : run.generationResults ≠ [] → run.generationLatencyMs.isSome
  not_pending : run.status ≠ .pending

theorem traceInvariant_createFullRun (id : ℕ) (mode : FullEvalMode)
    (requestId : Option String) : TraceInvariant (createFullRun id mode requestId) := by
  constructor <;> simp [createFullRun, createRun]

/-! ### The pipeline keeps it -/

section

variable {env : PipelineEnv} {attempt : Attempt} {documentId : Option ℕ} {run run' : Run}

theorem TraceInvariant.commitPhase {phase : Phase} (h : TraceInvariant run)
    (hdue : run.status = phase.prerequisite)
    (hcommit : commitPhase env attempt documentId phase run = .ok run') :
    TraceInvariant run' := by
  cases phase with
  | retrieval =>
      -- A running run has no rows, so the new ranks are all its ranks.
      obtain ⟨hrows, hgeneration, hevaluation⟩ := h.running hdue
      rw [commitPhase_retrieval] at hcommit
      cases hcommit
      constructor <;> simp [hrows, hgeneration, hevaluation]
  | generation =>
      obtain ⟨-, hevaluation⟩ := h.retrieval_completed hdue
      obtain ⟨-, -, hranked, rfl⟩ := commitPhase_generation_eq_ok hcommit
      have hrows := PipelineEnv.retrievalResults_ne_nil_of_rankedRows hranked
      constructor <;>
        simp [hevaluation, hrows, h.ranks, h.retrieval_measured hrows]
  | judge =>
      obtain ⟨hrows, hgeneration, -⟩ := h.generation_completed hdue
      obtain ⟨gen, -, hgen, -, rfl⟩ := commitPhase_judge_eq_ok hcommit
      have hne : run.generationResults ≠ [] := by rw [hgen]; exact List.cons_ne_nil gen []
      constructor <;>
        simp [hrows, hgen, h.ranks, h.retrieval_measured hrows, h.generation_measured hne]

/-- Recording a run that is not completed as failed loses nothing. -/
theorem TraceInvariant.failed (h : TraceInvariant run) (hne : run.status ≠ .completed)
    (metadata : Option JsonObject) :
    TraceInvariant { run with status := .failed, metadataJson := metadata } := by
  have hevaluation : run.evaluationResults = [] := by
    by_contra hrows
    exact hne (h.evaluated_iff.mp hrows)
  exact
    { ranks := h.ranks
      generation_unique := h.generation_unique
      evaluation_unique := h.evaluation_unique
      running := by simp
      retrieval_completed := by simp
      generation_completed := by simp
      evaluated_iff := by simp [hevaluation]
      completed := by simp
      generation_retrieved := h.generation_retrieved
      retrieval_measured := h.retrieval_measured
      generation_measured := h.generation_measured
      not_pending := by simp }

theorem apply_markFailedChanges (run : Run) :
    run.apply (markFailedChanges run) = run ∨
      run.status ≠ .completed ∧
        run.apply (markFailedChanges run) = { run with status := .failed } := by
  unfold markFailedChanges
  split_ifs with h
  · left
    simp [Run.apply]
  · right
    rw [not_or] at h
    exact ⟨h.1, by simp [Run.apply]⟩

theorem TraceInvariant.markFailed (h : TraceInvariant run) :
    TraceInvariant (run.apply (markFailedChanges run)) := by
  rcases apply_markFailedChanges run with hsame | ⟨hne, hfailed⟩
  · rw [hsame]
    exact h
  · rw [hfailed]
    exact h.failed hne run.metadataJson

theorem TraceInvariant.pipeline (h : TraceInvariant run) :
    TraceInvariant (runFullBenchmarkPipeline env attempt documentId run).run :=
  runFullBenchmarkPipeline_invariant (I := fun s => TraceInvariant s.run)
    (fun _ _ hs _ => hs) (fun _ _ _ hs hdue hcommit => hs.commitPhase hdue hcommit)
    (fun _ hs => hs.markFailed) h

end

/-! ### The requeue keeps it -/

theorem TraceInvariant.normalize {run : Run} (h : TraceInvariant run) :
    TraceInvariant (normalizeFailedRunForResume run) := by
  by_cases hfailed : run.status = .failed
  · have hevaluation : run.evaluationResults = [] := by
      by_contra hrows
      rw [h.evaluated_iff.mp hrows] at hfailed
      exact RunStatus.noConfusion hfailed
    unfold normalizeFailedRunForResume
    rw [if_neg (not_not.mpr hfailed)]
    split_ifs with hgeneration hrows
    · -- The generation row came with retrieval rows, so the status given is true.
      have hone : run.generationResults.length = 1 :=
        le_antisymm h.generation_unique (List.length_pos_iff.mpr hgeneration)
      constructor <;>
        simp [hevaluation, hone, h.ranks, h.generation_retrieved hgeneration,
          h.retrieval_measured (h.generation_retrieved hgeneration),
          h.generation_measured hgeneration]
    · have hne : run.retrievalResults ≠ [] := List.length_pos_iff.mp hrows
      rw [ne_eq, not_not] at hgeneration
      constructor <;>
        simp [hevaluation, hgeneration, h.ranks, h.retrieval_measured hne]
    · rw [ne_eq, not_not] at hgeneration
      have hnil : run.retrievalResults = [] := by
        rw [← List.length_eq_zero_iff]
        omega
      constructor <;> simp [hevaluation, hgeneration, hnil]
  · rw [normalizeFailedRunForResume_of_ne hfailed]
    exact h

theorem TraceInvariant.requeue {w : QueueWorld} {call : RequeueCall} {run : Run}
    (hrun : w.run = some run) (h : TraceInvariant run) :
    TraceInvariant ((requeueFullRun w call).1.run.getD run) := by
  rcases requeueFullRun_run w call with hsame | hnormalized
  · rw [hsame, hrun]
    exact h
  · rw [hnormalized, hrun]
    exact h.normalize

/-! ### The one operation that does not -/

/-- The guard: the failure handler of the create endpoint does not meet a completed
run. -/
def FullRunOp.sparesCompleted (run : Run) : FullRunOp → Prop
  | enqueueFailure _ _ => run.status ≠ .completed
  | _ => True

theorem apply_enqueueFailureChanges (run : Run) (error : String) (requestId : Option String) :
    run.apply (enqueueFailureChanges run error requestId) =
      { run with
        status := .failed
        metadataJson := (enqueueFailureChanges run error requestId).metadataJson } := by
  simp [Run.apply, enqueueFailureChanges]

/-- The step lemma: a guarded operation keeps the invariant. -/
theorem TraceInvariant.apply {run : Run} {op : FullRunOp} (h : TraceInvariant run)
    (hguard : op.sparesCompleted run) : TraceInvariant (op.apply run) := by
  cases op with
  | enqueueFailure error requestId =>
      rw [FullRunOp.apply, apply_enqueueFailureChanges]
      exact h.failed hguard _
  | attempt env a documentId => exact h.pipeline
  | markSafe => exact h.markFailed
  | markSync reachesDatabase =>
      cases reachesDatabase with
      | true => exact h.markFailed
      | false => exact h
  | requeue found call => exact TraceInvariant.requeue rfl h

/-- An operation that the guard excludes leaves an evaluated run that is not
completed. -/
theorem not_traceInvariant_apply {run : Run} {op : FullRunOp} (h : TraceInvariant run)
    (hguard : ¬op.sparesCompleted run) : ¬TraceInvariant (op.apply run) := by
  cases op with
  | enqueueFailure error requestId =>
      have hcompleted : run.status = .completed := not_not.mp hguard
      intro hafter
      rw [FullRunOp.apply, apply_enqueueFailureChanges] at hafter
      have hstatus := hafter.evaluated_iff.mp (h.evaluated_iff.mpr hcompleted)
      exact RunStatus.noConfusion hstatus
  | attempt env a documentId => exact absurd trivial hguard
  | markSafe => exact absurd trivial hguard
  | markSync reachesDatabase => exact absurd trivial hguard
  | requeue found call => exact absurd trivial hguard

/-- **When a full run keeps its trace invariant**: in every state of a run of
operations, exactly when no failure handler of the create endpoint meets the run
completed. -/
theorem trace_invariant_iff (id : ℕ) (mode : FullEvalMode) (requestId : Option String)
    (ops : List FullRunOp) :
    (∀ run, fullRunSystem.Visits (createFullRun id mode requestId) ops run →
        TraceInvariant run) ↔
      fullRunSystem.Meets (fun run op => op.sparesCompleted run)
        (createFullRun id mode requestId) ops := by
  refine LabelledSystem.visits_iff_meets ?_ ?_ ?_ (traceInvariant_createFullRun id mode requestId)
  · intro run op
    exact ⟨op.apply run, rfl⟩
  · intro run op run' h hguard hstep
    cases hstep
    exact h.apply hguard
  · intro run op run' h hguard hstep
    cases hstep
    exact not_traceInvariant_apply h hguard

/-- A corpus of one chunk, searched as a whole, and providers that always answer. -/
def oneChunkEnv : PipelineEnv where
  settings := openaiSettings
  queryText := "question"
  expectedAnswer := none
  topK := 5
  chunks := [{ id := 1, documentId := 3, content := "passage", embedding := some [] }]
  embedText := fun _ => []
  cosineDistance := fun _ _ => 0
  scan := .sequential Nearer
  generateRagAnswer := fun _ _ =>
    { answerText := "answer"
      modelId := "model"
      inputTokens := none
      outputTokens := none
      metadataJson := [] }
  evaluateWithLlmJudge := fun _ _ _ _ =>
    { faithfulness := some 1
      completeness := some 1
      groundedness := some 1
      retrievalRelevance := some 1
      contextCoverage := some 1
      failureType := some "NO_FAILURE"
      judgeInputTokens := none
      judgeOutputTokens := none
      metadataJson := [("evaluator_type", .str "llm")] }

/-- An attempt that nothing disturbs. -/
def undisturbed : Attempt where
  abort := none
  elapsedMs := fun _ => 0
  marks := true

/-- The push reached Redis, a worker completes the run, and then the client of the
queue sees the error. -/
def lateEnqueueFailure : List FullRunOp :=
  [.attempt oneChunkEnv undisturbed none, .enqueueFailure "Timeout reading from socket" none]

theorem trace_invariant_lost_by_late_enqueue_failure :
    ¬∀ (id : ℕ) (mode : FullEvalMode) (requestId : Option String) (ops : List FullRunOp)
      (run : Run), fullRunSystem.Visits (createFullRun id mode requestId) ops run →
        TraceInvariant run := by
  intro h
  have hrun := h 1 .full none lateEnqueueFailure _ ⟨lateEnqueueFailure, List.prefix_refl _, rfl⟩
  exact absurd (hrun.evaluated_iff.mp (List.cons_ne_nil _ _)) (by decide)

end ContextLens
