import ContextLens.BatchRunner
import ContextLens.FullRunQueue

/-!
# Requeueing a heuristic run

A heuristic run from its creation on, among everything that can touch it: the
commits of its own path (the three of a request, or the two of a batch cell), the
failure marking of a batch, the deletion of a document it retrieved from, and
`requeue_full_run`.

The mode of a run is not stored.  `_is_heuristic_only_evaluated_run` reads it off the
evaluation row, which is written by the last commit of the path, together with
`completed`.  A run without that row passes for a full one, in flight as well as
after it was given up, and a requeue of it is not refused.

`heuristic_requeue_refused_iff` is the exact condition.
-/

namespace ContextLens

open Foundations

/-! ## The path and its surroundings -/

/-- How far the path has come, with the object its session holds. -/
inductive HeuristicStage
  | notStarted
  | inRetrieval (loaded : Run)
  | retrieved
  | inEvaluation (loaded : Run)
  | stopped

/-- The committed run, Redis, the path, and the markings that have seen the run in
flight and not committed. -/
structure HeuristicRunState where
  world : QueueWorld
  stage : HeuristicStage
  marks : ℕ

/-- One thing that happens.  The corpus and the registry may change meanwhile, so each
step of the path brings what it reads. -/
inductive HeuristicRunAction
  | create (metadata : Option JsonObject)
  | commitRetrieval (env : PipelineEnv) (documentId : Option ℕ) (elapsedMs : ℕ)
  | refresh
  | commitCompletion (env : PipelineEnv) (elapsedMs : ℕ)
  | commitCell (env : BatchEnv) (args : BatchArgs) (found : QueryCaseTexts × ℕ)
      (script : CellScript)
  | commitCellRows (env : BatchEnv) (args : BatchArgs) (found : QueryCaseTexts × ℕ)
      (script : CellScript)
  | stop
  | loadToMark
  | commitMark
  | deleteChunks (deleted : ℕ → Bool)
  | requeue (call : RequeueCall)
  | runJob (env : PipelineEnv) (attempt : Attempt) (documentId : Option ℕ)

namespace HeuristicRunState

variable (s : HeuristicRunState)

/-- Another committed row. -/
def withRun (run : Run) : HeuristicRunState := { s with world := { s.world with run := some run } }

/-- The end of a commit of the path: the row it leaves, or an exception that stops the
path. -/
def committed (stage : HeuristicStage) : Except PyException Run → HeuristicRunState
  | .ok run => { s.withRun run with stage := stage }
  | .error _ => { s with stage := .stopped }

/-- A job of the run is known to Redis. -/
def HasJob (runId : ℕ) : Prop := ∃ job ∈ s.world.jobs, job.runIdArg = some runId

instance (runId : ℕ) : Decidable (s.HasJob runId) := by
  unfold HasJob
  infer_instance

end HeuristicRunState

/-- `compute_minimal_retrieval_evaluation` and the completion, as a request commits
them. -/
def completeRequest (env : PipelineEnv) (loaded run : Run) (elapsedMs : ℕ) :
    Except PyException Run := do
  let changes ← completeHeuristicRun loaded run elapsedMs
    (computeMinimalRetrievalEvaluation env.queryText env.expectedAnswer (env.rankedRows run))
  run.commit changes

/-- The rows and the evaluation of a batch cell, in its one commit. -/
def completeCell (env : BatchEnv) (args : BatchArgs) (found : QueryCaseTexts × ℕ)
    (script : CellScript) (loaded run : Run) : Except PyException Run := do
  let retrieval := cellRetrieval env args found script
  let changes ← cellEvaluation env args found script (loaded.apply retrieval)
    (run.apply retrieval)
  (run.apply retrieval).commit changes

/-- The heuristic run `runId` among its surroundings. -/
def heuristicRunSystem (runId : ℕ) : LabelledSystem HeuristicRunState HeuristicRunAction where
  step s action :=
    match action, s.stage, s.world.run with
    | .create metadata, .notStarted, none =>
        let run := createRun runId .running metadata
        some { s.withRun run with stage := .inRetrieval run }
    | .commitRetrieval env documentId elapsedMs, .inRetrieval _, some run =>
        some (s.committed .retrieved
          (run.commit (env.executeRetrievalForExistingRun documentId elapsedMs)))
    | .refresh, .retrieved, some run => some { s with stage := .inEvaluation run }
    | .commitCompletion env elapsedMs, .inEvaluation loaded, some run =>
        some (s.committed .stopped (completeRequest env loaded run elapsedMs))
    | .commitCell env args found script, .inRetrieval loaded, some run =>
        some (s.committed .stopped (completeCell env args found script loaded run))
    -- A cell that raised behind its flush: a later commit of the session takes the rows.
    | .commitCellRows env args found script, .inRetrieval _, some run =>
        some { s.withRun (run.apply (cellRetrieval env args found script)) with
          stage := .stopped }
    | .stop, _, _ => some { s with stage := .stopped }
    | .loadToMark, _, some run =>
        if run.status = .completed ∨ run.status = .failed then some s
        else some { s with marks := s.marks + 1 }
    | .commitMark, _, some run =>
        if 0 < s.marks then
          some { s.withRun (run.apply { status := some .failed }) with marks := s.marks - 1 }
        else none
    -- The retrieval rows of a deleted chunk go with it.
    | .deleteChunks deleted, _, some run =>
        some (s.withRun { run with
          retrievalResults := run.retrievalResults.filter fun row => !deleted row.chunkId })
    | .requeue call, _, _ =>
        if call.runId = runId then some { s with world := (requeueFullRun s.world call).1 }
        else none
    | .runJob env attempt documentId, _, some run =>
        if s.HasJob runId then
          some (s.withRun (runFullBenchmarkPipeline env attempt documentId run).run)
        else none
    | _, _, _ => none

/-! ## The two guards -/

/-- A requeue of the run is refused as a conflict and enqueues nothing. -/
def RequeueRefused (runId : ℕ) (s : HeuristicRunState) (action : HeuristicRunAction) : Prop :=
  ∀ call run, action = .requeue call → call.runId = runId → s.world.run = some run →
    (∃ detail, (requeueFullRun s.world call).2 = .error (.conflict detail)) ∧
      (requeueFullRun s.world call).1.jobs = s.world.jobs

/-- A requeue of the run finds its evaluation row. -/
def RequeueFindsEvaluation (runId : ℕ) (s : HeuristicRunState) (action : HeuristicRunAction) :
    Prop :=
  ∀ call run, action = .requeue call → call.runId = runId → s.world.run = some run →
    run.evaluationResults ≠ []

/-! ## What the path writes -/

section Path

variable {run run' loaded : Run}

/-- The rows of a run that only the heuristic path has written to: none of the two
results and an open status, or a heuristic evaluation. -/
structure HeuristicRows (run : Run) : Prop where
  no_generation : run.generationResults = []
  evaluation : (run.evaluationResults = [] ∧ run.status ≠ .completed ∧ run.status ≠ .pending) ∨
    ∃ row : EvaluationResult, run.evaluationResults = [row] ∧ row.evaluatorType = .heuristic

theorem HeuristicRows.created (runId : ℕ) (metadata : Option JsonObject) :
    HeuristicRows (createRun runId .running metadata) :=
  ⟨rfl, Or.inl ⟨rfl, by simp [createRun], by simp [createRun]⟩⟩

/-- Changes that add no result and set an open status. -/
theorem HeuristicRows.apply_open {changes : PendingChanges} {status : RunStatus}
    (h : HeuristicRows run) (hgeneration : changes.generationResults = [])
    (hevaluation : changes.evaluationResults = []) (hstatus : changes.status = some status)
    (hopen : status ≠ .completed ∧ status ≠ .pending) : HeuristicRows (run.apply changes) where
  no_generation := by simp [Run.apply, h.no_generation, hgeneration]
  evaluation := by
    rcases h.evaluation with ⟨hnone, -, -⟩ | ⟨row, hrow, htype⟩
    · exact Or.inl ⟨by simp [Run.apply, hnone, hevaluation],
        by simpa [Run.apply, hstatus] using hopen.1, by simpa [Run.apply, hstatus] using hopen.2⟩
    · exact Or.inr ⟨row, by simp [Run.apply, hrow, hevaluation], htype⟩

/-- The rows of the heuristic evaluator are in its bucket. -/
theorem computeMinimal_evaluatorType (queryText : String) (expectedAnswer : Option String)
    (rows : List (RetrievalResult × String)) :
    (computeMinimalRetrievalEvaluation queryText expectedAnswer
      rows).evaluationResult.forStorage.evaluatorType = .heuristic := by
  cases rows with
  | nil => rfl
  | cons row rows => rfl

theorem withNoise_evaluatorType (profile : BenchmarkRealismProfile) (draws : RealismDraws)
    (queryText : String) (expectedAnswer : Option String)
    (rows : List (RetrievalResult × String)) :
    ((computeMinimalRetrievalEvaluation queryText expectedAnswer rows).withNoise profile
      draws).evaluationResult.forStorage.evaluatorType = .heuristic := by
  cases rows with
  | nil => rfl
  | cons row rows => rfl

/-- A completion finds no evaluation row and adds one. -/
theorem completeHeuristicRun_eq_ok {committed : Run} {elapsedMs : ℕ}
    {scores : MinimalRetrievalEvalScores} {changes : PendingChanges}
    (h : completeHeuristicRun loaded committed elapsedMs scores = .ok changes) :
    committed.evaluationResults = [] ∧
      changes.evaluationResults = [scores.evaluationResult.forStorage] ∧
      changes.generationResults = [] := by
  simp only [completeHeuristicRun, bind, Except.bind] at h
  cases hpersist : persistEvaluationAndCompleteRun loaded committed elapsedMs
      (loaded.retrievalLatencyMs.getD 0 + elapsedMs) scores.evaluationResult
      .retrievalCompleted with
  | error e => simp [hpersist] at h
  | ok stored =>
      obtain ⟨-, hnone, rfl⟩ := persistEvaluation_eq_ok hpersist
      rw [hpersist] at h
      cases h
      exact ⟨hnone, rfl, rfl⟩

theorem HeuristicRows.completed {changes : PendingChanges} {row : EvaluationResult}
    (h : HeuristicRows run) (hnone : run.evaluationResults = [])
    (hevaluation : changes.evaluationResults = [row])
    (hgeneration : changes.generationResults = []) (htype : row.evaluatorType = .heuristic) :
    HeuristicRows (run.apply changes) where
  no_generation := by simp [Run.apply, h.no_generation, hgeneration]
  evaluation := Or.inr ⟨row, by simp [Run.apply, hnone, hevaluation], htype⟩

theorem HeuristicRows.completeRequest {env : PipelineEnv} {elapsedMs : ℕ}
    (h : HeuristicRows run)
    (hcommit : ContextLens.completeRequest env loaded run elapsedMs = .ok run') :
    HeuristicRows run' := by
  simp only [ContextLens.completeRequest, bind, Except.bind] at hcommit
  split at hcommit
  · cases hcommit
  · rename_i changes hchanges
    obtain ⟨hnone, hevaluation, hgeneration⟩ := completeHeuristicRun_eq_ok hchanges
    obtain rfl := Run.commit_eq_ok hcommit
    exact h.completed hnone hevaluation hgeneration (computeMinimal_evaluatorType _ _ _)

theorem HeuristicRows.completeCell {env : BatchEnv} {args : BatchArgs}
    {found : QueryCaseTexts × ℕ} {script : CellScript} (h : HeuristicRows run)
    (hcommit : ContextLens.completeCell env args found script loaded run = .ok run') :
    HeuristicRows run' := by
  have hretrieved : HeuristicRows (run.apply (cellRetrieval env args found script)) :=
    h.apply_open rfl rfl rfl (by simp)
  simp only [ContextLens.completeCell, bind, Except.bind] at hcommit
  split at hcommit
  · cases hcommit
  · rename_i changes hchanges
    rw [cellEvaluation] at hchanges
    obtain ⟨hnone, hevaluation, hgeneration⟩ := completeHeuristicRun_eq_ok hchanges
    obtain rfl := Run.commit_eq_ok hcommit
    refine hretrieved.completed hnone hevaluation hgeneration ?_
    cases args.realismProfile with
    | none => exact computeMinimal_evaluatorType _ _ _
    | some profile => exact withNoise_evaluatorType profile script.draws _ _ _

end Path

/-! ## What a requeue answers -/

section Requeue

variable {w : QueueWorld} {call : RequeueCall} {run : Run}

/-- A heuristic evaluation row is reason enough to refuse. -/
theorem requeueFullRun_of_evaluated (call : RequeueCall) (hrun : w.run = some run)
    {row : EvaluationResult} (hgeneration : run.generationResults = [])
    (hevaluation : run.evaluationResults = [row]) (htype : row.evaluatorType = .heuristic) :
    ∃ detail, requeueFullRun w call = (w, .error (.conflict detail)) := by
  have heligibility : ∃ detail, structuralRequeueEligibility run = .ok (false, detail) := by
    simp only [structuralRequeueEligibility, hgeneration, hevaluation, scalarOneOrNone, bind,
      Except.bind, pure, Except.pure, evaluateStructuralRequeueEligibility,
      isHeuristicOnlyEvaluatedRun, htype]
    split_ifs <;> simp_all
  obtain ⟨detail, heligibility⟩ := heligibility
  exact ⟨detail.getD "Run is not eligible for re-enqueue.", by
    simp only [requeueFullRun, hrun, heligibility]⟩

/-- Without one, and without the key, nothing is a conflict. -/
theorem requeueFullRun_of_unevaluated (hrun : w.run = some run) (hlock : w.lock = false)
    (hgeneration : run.generationResults = []) (hevaluation : run.evaluationResults = [])
    (hopen : run.status ≠ .completed ∧ run.status ≠ .pending) (detail : String) :
    (requeueFullRun w call).2 ≠ .error (.conflict detail) := by
  have heligibility : structuralRequeueEligibility run = .ok (true, none) := by
    have hallowed : run.status ∈ allowRequeueStatuses := by
      cases hstatus : run.status <;> simp_all [allowRequeueStatuses]
    simp [structuralRequeueEligibility, hgeneration, hevaluation, scalarOneOrNone, bind,
      Except.bind, pure, Except.pure, evaluateStructuralRequeueEligibility, hopen.1, hallowed,
      isHeuristicOnlyEvaluatedRun]
  intro hconflict
  simp only [requeueFullRun, hrun, heligibility, hlock] at hconflict
  cases hscan : scanPrimaryJob call w.jobs with
  | error e => simp [hscan] at hconflict
  | ok primary =>
      -- There is no key to clear and none to be held up by.
      have hclear : (clearStaleFullRunLockIfApplicable run.status primary call.staleExists
          call.staleDelete false).1 = false := by
        simp only [clearStaleFullRunLockIfApplicable]
        cases lockLooksStale run.status primary with
        | false => rfl
        | true => cases call.staleExists <;> rfl
      rw [hscan] at hconflict
      rcases hcleared : clearStaleFullRunLockIfApplicable run.status primary call.staleExists
          call.staleDelete false with ⟨lock, deleted⟩
      rw [hcleared] at hclear
      obtain rfl : lock = false := hclear
      simp only [hcleared] at hconflict
      cases deleted with
      | error e => simp at hconflict
      | ok deleted =>
          simp only [requeueUnlocked] at hconflict
          cases hkey : w.settings.requireLlmApiKeyForFullMode with
          | error e => simp [hkey] at hconflict
          | ok key =>
              cases hexists : call.lockExists with
              | error applied => simp [hkey, hexists] at hconflict
              | ok =>
                  simp only [hkey, hexists, resumeAndEnqueue] at hconflict
                  cases henqueue : call.enqueue <;> simp [henqueue] at hconflict

end Requeue

/-! ## Along a run -/

/-- What holds of a heuristic run as long as no requeue of it got through. -/
structure HeuristicOnly (runId : ℕ) (s : HeuristicRunState) : Prop where
  unlocked : s.world.lock = false
  no_job : ¬s.HasJob runId
  rows : ∀ run, s.world.run = some run → HeuristicRows run

section Runs

variable {runId : ℕ} {s t : HeuristicRunState} {action : HeuristicRunAction}

/-- A requeue that finds an evaluation row changes nothing. -/
theorem HeuristicOnly.requeue_refused (h : HeuristicOnly runId s) (call : RequeueCall) {run : Run}
    (hrun : s.world.run = some run) (hfound : run.evaluationResults ≠ []) :
    ∃ detail, requeueFullRun s.world call = (s.world, .error (.conflict detail)) := by
  have hrows := h.rows run hrun
  rcases hrows.evaluation with ⟨hnone, -⟩ | ⟨row, hrow, htype⟩
  · exact absurd hnone hfound
  · exact requeueFullRun_of_evaluated call hrun hrows.no_generation hrow htype

/-- Under the invariant the two guards agree. -/
theorem requeueRefused_iff (h : HeuristicOnly runId s) :
    RequeueRefused runId s action ↔ RequeueFindsEvaluation runId s action := by
  constructor
  · intro hrefused call run haction hid hrun hnone
    obtain ⟨⟨detail, hconflict⟩, -⟩ := hrefused call run haction hid hrun
    have hrows := h.rows run hrun
    rcases hrows.evaluation with ⟨-, hopen⟩ | ⟨row, hrow, -⟩
    · exact requeueFullRun_of_unevaluated hrun h.unlocked hrows.no_generation hnone hopen detail
        hconflict
    · rw [hnone] at hrow
      cases hrow
  · intro hfinds call run haction hid hrun
    obtain ⟨detail, hanswer⟩ := h.requeue_refused call hrun (hfinds call run haction hid hrun)
    rw [hanswer]
    exact ⟨⟨detail, rfl⟩, rfl⟩

theorem HeuristicOnly.withRun (h : HeuristicOnly runId s) {run : Run} (hrun : HeuristicRows run)
    (stage : HeuristicStage) (marks : ℕ) :
    HeuristicOnly runId { s.withRun run with stage := stage, marks := marks } where
  unlocked := h.unlocked
  no_job := h.no_job
  rows run' hrun' := by
    cases hrun'
    exact hrun

theorem HeuristicOnly.committed (h : HeuristicOnly runId s) (stage : HeuristicStage)
    {result : Except PyException Run} (hresult : ∀ run, result = .ok run → HeuristicRows run) :
    HeuristicOnly runId (s.committed stage result) := by
  cases result with
  | error e => exact ⟨h.unlocked, h.no_job, h.rows⟩
  | ok run => exact h.withRun (hresult run rfl) stage s.marks

/-- **One step.**  A step that meets the guard keeps the run heuristic. -/
theorem HeuristicOnly.step (h : HeuristicOnly runId s)
    (hguard : RequeueFindsEvaluation runId s action)
    (hstep : (heuristicRunSystem runId).step s action = some t) : HeuristicOnly runId t := by
  -- One case for each line of the step function, in its order; most need the run.
  unfold heuristicRunSystem at hstep
  dsimp only at hstep
  split at hstep
  · obtain rfl := Option.some.inj hstep
    exact h.withRun (HeuristicRows.created runId _) _ s.marks
  · rename_i run hstage hrun
    obtain rfl := Option.some.inj hstep
    refine h.committed _ fun run' hcommit => ?_
    obtain rfl := Run.commit_eq_ok hcommit
    exact (h.rows run hrun).apply_open rfl rfl rfl (by simp)
  · obtain rfl := Option.some.inj hstep
    exact ⟨h.unlocked, h.no_job, h.rows⟩
  · rename_i run hstage hrun
    obtain rfl := Option.some.inj hstep
    exact h.committed _ fun run' hcommit => (h.rows run hrun).completeRequest hcommit
  · rename_i run hstage hrun
    obtain rfl := Option.some.inj hstep
    exact h.committed _ fun run' hcommit => (h.rows run hrun).completeCell hcommit
  · rename_i run hstage hrun
    obtain rfl := Option.some.inj hstep
    exact h.withRun ((h.rows run hrun).apply_open rfl rfl rfl (by simp)) _ s.marks
  · obtain rfl := Option.some.inj hstep
    exact ⟨h.unlocked, h.no_job, h.rows⟩
  · split_ifs at hstep
    · obtain rfl := Option.some.inj hstep
      exact h
    · obtain rfl := Option.some.inj hstep
      exact ⟨h.unlocked, h.no_job, h.rows⟩
  · rename_i run hrun
    split_ifs at hstep
    obtain rfl := Option.some.inj hstep
    exact h.withRun ((h.rows run hrun).apply_open rfl rfl rfl (by simp)) s.stage _
  · rename_i deleted run hrun
    obtain rfl := Option.some.inj hstep
    have hkept : HeuristicRows { run with
        retrievalResults := run.retrievalResults.filter fun row => !deleted row.chunkId } :=
      ⟨(h.rows run hrun).no_generation, (h.rows run hrun).evaluation⟩
    exact h.withRun hkept s.stage s.marks
  · rename_i call
    split_ifs at hstep with hid
    obtain rfl := Option.some.inj hstep
    have hworld : (requeueFullRun s.world call).1 = s.world := by
      cases hrun : s.world.run with
      | none => simp [requeueFullRun, hrun]
      | some run =>
          obtain ⟨detail, hanswer⟩ := h.requeue_refused call hrun (hguard call run rfl hid hrun)
          rw [hanswer]
    rw [hworld]
    exact ⟨h.unlocked, h.no_job, h.rows⟩
  · rw [if_neg h.no_job] at hstep
    cases hstep
  · cases hstep

end Runs

/-- A world before the run is created: neither its key nor a job of it is in Redis. -/
structure BeforeCreation (runId : ℕ) (s : HeuristicRunState) : Prop where
  no_run : s.world.run = none
  unlocked : s.world.lock = false
  no_job : ¬s.HasJob runId

/-- **When the requeues of a heuristic run are refused**: exactly when each of them
finds the evaluation row. -/
theorem heuristic_requeue_refused_iff (runId : ℕ) (start : HeuristicRunState)
    (actions : List HeuristicRunAction) (hstart : BeforeCreation runId start) :
    (heuristicRunSystem runId).Meets (RequeueRefused runId) start actions ↔
      (heuristicRunSystem runId).Meets (RequeueFindsEvaluation runId) start actions := by
  refine LabelledSystem.meets_congr (I := HeuristicOnly runId)
    (fun s action h => requeueRefused_iff h) (fun s action t h hguard hstep => h.step hguard hstep)
    ?_
  exact ⟨hstart.unlocked, hstart.no_job, fun run hrun => by
    rw [hstart.no_run] at hrun
    cases hrun⟩

/-- An API with its key set, before a run is created. -/
def quietWorld : HeuristicRunState where
  world := { run := none, lock := false, jobs := [], chunks := [], settings := openaiSettings }
  stage := .notStarted
  marks := 0

/-- A requeue of run 1 whose Redis commands all succeed. -/
def requeueOfRun : RequeueCall := { enqueueDownCall with enqueue := .ok }

theorem quietWorld_before : BeforeCreation 1 quietWorld :=
  ⟨rfl, rfl, by simp [HeuristicRunState.HasJob, quietWorld]⟩

/-- A request that completes, and then a requeue, which is refused. -/
theorem heuristic_requeue_refused_after_completion :
    (heuristicRunSystem 1).Meets (RequeueRefused 1) quietWorld
      [.create none, .commitRetrieval oneChunkEnv none 3, .refresh,
        .commitCompletion oneChunkEnv 2, .requeue requeueOfRun] := by
  refine (heuristic_requeue_refused_iff 1 quietWorld _ quietWorld_before).mpr ?_
  have hother : ∀ action : HeuristicRunAction, (∀ call, action ≠ .requeue call) →
      ∀ s, RequeueFindsEvaluation 1 s action :=
    fun action hne s call run hrequeue => absurd hrequeue (hne call)
  refine .cons (hother _ (fun _ h => by cases h) _) rfl ?_
  refine .cons (hother _ (fun _ h => by cases h) _) rfl ?_
  refine .cons (hother _ (fun _ h => by cases h) _) rfl ?_
  refine .cons (hother _ (fun _ h => by cases h) _) rfl ⟨?_, fun _ _ => trivial⟩
  rintro call run - - hrun hnone
  obtain rfl := Option.some.inj hrun
  exact absurd hnone (by decide)

/-- A heuristic run that is still in its retrieval is enqueued as a full one. -/
theorem heuristic_run_requeued_in_flight :
    ¬(heuristicRunSystem 1).Meets (RequeueRefused 1) quietWorld
      [.create none, .requeue requeueOfRun] := by
  intro h
  obtain ⟨-, hrest⟩ := h
  obtain ⟨hrefused, -⟩ := hrest _ rfl
  obtain ⟨⟨detail, hconflict⟩, -⟩ := hrefused requeueOfRun _ rfl rfl rfl
  cases hconflict

/-- The job runs the pipeline over it: it gets a generation row. -/
example : ((heuristicRunSystem 1).exec quietWorld [.create none, .requeue requeueOfRun,
      .runJob oneChunkEnv { abort := none, elapsedMs := fun _ => 1, marks := true } none]).map
    (fun s => s.world.run.map fun run => (run.status, run.generationResults.length)) =
      some (some (.completed, 1)) := by
  decide

end ContextLens
