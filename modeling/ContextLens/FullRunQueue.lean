import ContextLens.PipelinePhases
import ContextLens.EvaluatorBucket

/-!
# The full-run queue and the requeue of a run

`app/queue/full_run.py`, `clear_stale_full_run_lock_if_applicable` of
`app/workers/full_run_worker.py`, `app/services/run_requeue.py` and
`app/services/run_queue_status.py`, each executed alone.

The queue is the list of the jobs Redis knows, in the order in which the scan
meets them; the lock is one key, present or not.  Each Redis command of a request
gets a `RedisReply`: it succeeds, or it raises and was or was not carried out.
-/

namespace ContextLens

open Foundations

/-! ## Jobs -/

/-- The states of an RQ job. -/
inductive RqStatus
  | queued
  | started
  | deferred
  | scheduled
  | finished
  | failed
  | stopped
  | canceled
  deriving DecidableEq, Repr

/-- `status.value`. -/
def RqStatus.text : RqStatus → String
  | queued => "queued"
  | started => "started"
  | deferred => "deferred"
  | scheduled => "scheduled"
  | finished => "finished"
  | failed => "failed"
  | stopped => "stopped"
  | canceled => "canceled"

/-- An RQ job.  `runIdArg` is its first argument when that is an integer;
`listed` says that the queue or one of the scanned registries has its id, and
`fetchable` that `Job.fetch` does not raise. -/
structure RqJob where
  id : ℕ
  runIdArg : Option ℕ
  documentId : Option ℕ
  status : RqStatus
  enqueuedAt : Option ℚ
  createdAt : Option ℚ
  startedAt : Option ℚ
  endedAt : Option ℚ
  listed : Bool
  fetchable : Bool

/-- `_rq_job_sort_ts`. -/
def rqJobSortTs (job : RqJob) : ℚ :=
  (job.enqueuedAt <|> job.createdAt <|> job.startedAt <|> job.endedAt).getD 0

/-- The jobs of the run that the scan can read. -/
def candidateJobs (runId : ℕ) (jobs : List RqJob) : List RqJob :=
  jobs.filter fun job => job.listed && job.fetchable && job.runIdArg = some runId

/-- The newest candidate, the first one met among equals. -/
def primaryJob (runId : ℕ) (jobs : List RqJob) : Option RqJob :=
  ((candidateJobs runId jobs).insertionSort fun a b => rqJobSortTs b ≤ rqJobSortTs a).head?

/-- `find_primary_job_for_run`. -/
def findPrimaryJobForRun (runId : ℕ) (jobs : List RqJob) : Option (ℕ × String) :=
  (primaryJob runId jobs).map fun job => (job.id, job.status.text)

/-- The job that `enqueue_full_benchmark_run` pushes. -/
def fullRunJob (jobId runId : ℕ) (documentId : Option ℕ) (now : ℚ) : RqJob where
  id := jobId
  runIdArg := some runId
  documentId := documentId
  status := .queued
  enqueuedAt := some now
  createdAt := some now
  startedAt := none
  endedAt := none
  listed := true
  fetchable := true

/-! ## Redis commands -/

/-- How one Redis command ends. -/
inductive RedisReply
  | ok
  | error (applied : Bool)
  deriving DecidableEq, Repr

/-- `RedisError`. -/
def redisError : PyException := .redisError "Redis unavailable"

/-- `_STALE_LOCK_RQ_STATUSES`. -/
def staleLockRqStatuses : List String := ["failed", "stopped", "canceled"]

/-- The conditions under which the key is taken for a stale one. -/
def lockLooksStale (runStatus : RunStatus) (primary : Option (ℕ × String)) : Bool :=
  match primary with
  | none => false
  | some (_, rqStatus) =>
      decide (Python.lower rqStatus ∈ staleLockRqStatuses) &&
        decide (runStatus = .running ∨ runStatus = .failed)

/-- `clear_stale_full_run_lock_if_applicable`: the key afterwards, and whether it
was deleted. -/
def clearStaleFullRunLockIfApplicable (runStatus : RunStatus)
    (primary : Option (ℕ × String)) (existsReply deleteReply : RedisReply) (lock : Bool) :
    Bool × Except PyException Bool :=
  if !lockLooksStale runStatus primary then (lock, .ok false)
  else match existsReply with
    | .error _ => (lock, .error redisError)
    | .ok =>
        if !lock then (lock, .ok false)
        else match deleteReply with
          | .ok => (false, .ok true)
          | .error applied => (!applied, .error redisError)

/-! ## Eligibility -/

/-- `ALLOW_REQUEUE_STATUSES`. -/
def allowRequeueStatuses : List RunStatus :=
  [.running, .retrievalCompleted, .generationCompleted, .failed]

/-- `', '.join(sorted(ALLOW_REQUEUE_STATUSES))`. -/
def allowRequeueStatusesText : String :=
  "failed, generation_completed, retrieval_completed, running"

/-- `_is_heuristic_only_evaluated_run`. -/
def isHeuristicOnlyEvaluatedRun (generation : Option GenerationResult)
    (evaluation : Option EvaluationResult) : Bool :=
  match generation, evaluation with
  | some _, _ => false
  | none, none => false
  | none, some row => row.evaluatorType = .heuristic

/-- `evaluate_structural_requeue_eligibility`. -/
def evaluateStructuralRequeueEligibility (status : RunStatus)
    (generation : Option GenerationResult) (evaluation : Option EvaluationResult) :
    Bool × Option String :=
  if status = .completed then (false, some "Run is already completed.")
  else if status ∉ allowRequeueStatuses then
    (false, some (s!"Run status '{status.text}' is not eligible for re-enqueue " ++
      s!"(allowed: {allowRequeueStatusesText})."))
  else if isHeuristicOnlyEvaluatedRun generation evaluation then
    (false, some ("Run is a heuristic benchmark (no full RAG pipeline); " ++
      "re-enqueue is not supported."))
  else (true, none)

/-- `structural_requeue_eligibility`. -/
def structuralRequeueEligibility (run : Run) : Except PyException (Bool × Option String) := do
  let generation ← scalarOneOrNone run.generationResults
  let evaluation ← scalarOneOrNone run.evaluationResults
  return evaluateStructuralRequeueEligibility run.status generation evaluation

/-! ## Resuming a failed run -/

/-- `_normalize_failed_run_for_resume`: the status that the rows of a failed run
stand for. -/
def normalizeFailedRunForResume (run : Run) : Run :=
  if run.status ≠ .failed then run
  else if run.generationResults ≠ [] then { run with status := .generationCompleted }
  else if 0 < run.retrievalResults.length then { run with status := .retrievalCompleted }
  else { run with status := .running }

/-- The documents that the run's retrieval rows point at, each once. -/
def retrievedDocumentIds (chunks : List Chunk) (run : Run) : List ℕ :=
  (run.retrievalResults.filterMap fun row =>
    (chunks.find? fun chunk => chunk.id = row.chunkId).map Chunk.documentId).dedup

/-- `infer_document_id_for_full_run`. -/
def inferDocumentIdForFullRun (chunks : List Chunk) (run : Run) : Option ℕ :=
  match retrievedDocumentIds chunks run with
  | [documentId] => some documentId
  | _ => none

/-! ## The requeue -/

/-- What a request finds: the run it names, the lock key, the jobs, the chunks and
the settings. -/
structure QueueWorld where
  run : Option Run
  lock : Bool
  jobs : List RqJob
  chunks : List Chunk
  settings : Settings

/-- How the scan of the jobs ends. -/
inductive ScanReply
  | ok
  | redisError
  | otherError
  deriving DecidableEq, Repr

/-- One request: the run it names and how its Redis commands end. -/
structure RequeueCall where
  runId : ℕ
  scan : ScanReply
  staleExists : RedisReply
  staleDelete : RedisReply
  lockExists : RedisReply
  enqueue : RedisReply
  jobId : ℕ
  now : ℚ

/-- What `requeue_full_run` raises. -/
inductive RequeueError
  | runNotFound (runId : ℕ)
  | conflict (detail : String)
  | raised (exception : PyException)

/-- The scan as the request makes it: an error other than Redis's counts as no job
found. -/
def scanPrimaryJob (call : RequeueCall) (jobs : List RqJob) :
    Except PyException (Option (ℕ × String)) :=
  match call.scan with
  | .ok => .ok (findPrimaryJobForRun call.runId jobs)
  | .redisError => .error redisError
  | .otherError => .ok none

/-- The detail of the conflict when the key is present. -/
def lockHeldDetail : String :=
  "A full-run worker lock is held for this run_id; wait for it to finish or expire."

/-- The last part of `requeue_full_run`: the commit of the resumable status, and
the enqueue. -/
def resumeAndEnqueue (w : QueueWorld) (call : RequeueCall) (run : Run) :
    QueueWorld × Except RequeueError (Run × ℕ) :=
  let resumed := normalizeFailedRunForResume run
  let documentId := inferDocumentIdForFullRun w.chunks resumed
  let job := fullRunJob call.jobId call.runId documentId call.now
  -- The status is committed before the push, whose error does not take it back.
  match call.enqueue with
  | .ok => ({ w with run := some resumed, jobs := w.jobs ++ [job] }, .ok (resumed, call.jobId))
  | .error applied =>
      ({ w with run := some resumed, jobs := if applied then w.jobs ++ [job] else w.jobs },
        .error (.raised redisError))

/-- The part of `requeue_full_run` after the stale lock was looked at. -/
def requeueUnlocked (w : QueueWorld) (call : RequeueCall) (run : Run) :
    QueueWorld × Except RequeueError (Run × ℕ) :=
  match w.settings.requireLlmApiKeyForFullMode with
  | .error e => (w, .error (.raised e))
  | .ok () =>
      match call.lockExists with
      | .error _ => (w, .error (.raised redisError))
      | .ok =>
          if w.lock then (w, .error (.conflict lockHeldDetail))
          else resumeAndEnqueue w call run

/-- `requeue_full_run`. -/
def requeueFullRun (w : QueueWorld) (call : RequeueCall) :
    QueueWorld × Except RequeueError (Run × ℕ) :=
  match w.run with
  | none => (w, .error (.runNotFound call.runId))
  | some run =>
      match structuralRequeueEligibility run with
      | .error e => (w, .error (.raised e))
      | .ok (false, detail) =>
          (w, .error (.conflict (detail.getD "Run is not eligible for re-enqueue.")))
      | .ok (true, _) =>
          match scanPrimaryJob call w.jobs with
          | .error e => (w, .error (.raised e))
          | .ok primary =>
              match clearStaleFullRunLockIfApplicable run.status primary call.staleExists
                  call.staleDelete w.lock with
              | (lock, .error e) => ({ w with lock := lock }, .error (.raised e))
              | (lock, .ok _) => requeueUnlocked { w with lock := lock } call run

/-! ## The inspection of the queue -/

/-- `infer_pipeline_heuristic_vs_full`. -/
def inferPipelineHeuristicVsFull (generation : Option GenerationResult)
    (evaluation : Option EvaluationResult) : String :=
  if isHeuristicOnlyEvaluatedRun generation evaluation then "heuristic" else "full"

/-- `RunQueueStatusResponse`. -/
structure RunQueueStatusResponse where
  runId : ℕ
  runStatus : RunStatus
  pipeline : String
  jobId : Option ℕ
  rqJobStatus : Option String
  lockPresent : Bool
  requeueEligible : Bool
  detail : Option String

/-- The answer about a full run whose jobs were scanned and whose key was looked
at. -/
def fullRunQueueStatus (run : Run) (eligibility : Bool × Option String)
    (primary : Option (ℕ × String)) (lock : Bool) : RunQueueStatusResponse where
  runId := run.id
  runStatus := run.status
  pipeline := "full"
  jobId := primary.map Prod.fst
  rqJobStatus := primary.map Prod.snd
  lockPresent := lock
  requeueEligible := eligibility.1 && !lock
  detail :=
    if !eligibility.1 then eligibility.2 else if lock then some lockHeldDetail else none

/-- `get_run_queue_status`: the key afterwards, and the answer. -/
def getRunQueueStatus (w : QueueWorld) (call : RequeueCall) :
    Bool × Except RequeueError RunQueueStatusResponse :=
  match w.run with
  | none => (w.lock, .error (.runNotFound call.runId))
  | some run =>
      match scalarOneOrNone run.generationResults, scalarOneOrNone run.evaluationResults with
      | .error e, _ => (w.lock, .error (.raised e))
      | _, .error e => (w.lock, .error (.raised e))
      | .ok generation, .ok evaluation =>
          let eligibility :=
            evaluateStructuralRequeueEligibility run.status generation evaluation
          if inferPipelineHeuristicVsFull generation evaluation = "heuristic" then
            (w.lock, .ok
              { runId := run.id
                runStatus := run.status
                pipeline := "heuristic"
                jobId := none
                rqJobStatus := none
                lockPresent := false
                requeueEligible := false
                detail := eligibility.2 })
          else
            match scanPrimaryJob call w.jobs with
            | .error e => (w.lock, .error (.raised e))
            | .ok primary =>
                match clearStaleFullRunLockIfApplicable run.status primary call.staleExists
                    call.staleDelete w.lock with
                | (lock, .error e) => (lock, .error (.raised e))
                | (lock, .ok _) =>
                    match call.lockExists with
                    | .error _ => (lock, .error (.raised redisError))
                    | .ok => (lock, .ok (fullRunQueueStatus run eligibility primary lock))

/-! ## What a requeue does to the run -/

theorem normalizeFailedRunForResume_of_ne {run : Run} (h : run.status ≠ .failed) :
    normalizeFailedRunForResume run = run := if_pos h

/-- Normalising only moves the status. -/
theorem normalizeFailedRunForResume_eq (run : Run) :
    normalizeFailedRunForResume run =
      { run with status := (normalizeFailedRunForResume run).status } := by
  unfold normalizeFailedRunForResume
  split_ifs <;> rfl

/-- A normalised run is not failed. -/
theorem normalizeFailedRunForResume_status_ne (run : Run) :
    (normalizeFailedRunForResume run).status ≠ .failed := by
  unfold normalizeFailedRunForResume
  split_ifs with h
  · exact h
  all_goals simp

/-- Every check that precedes the commit of a requeue lets it through. -/
structure RequeueChecksPass (w : QueueWorld) (call : RequeueCall) (run : Run) : Prop where
  eligible : ∃ detail, structuralRequeueEligibility run = .ok (true, detail)
  unlocked : ∃ primary deleted, scanPrimaryJob call w.jobs = .ok primary ∧
    clearStaleFullRunLockIfApplicable run.status primary call.staleExists call.staleDelete
      w.lock = (false, .ok deleted)
  apiKey : w.settings.requireLlmApiKeyForFullMode = .ok ()
  lockChecked : call.lockExists = .ok

/-- A requeue whose checks pass is its last part. -/
theorem requeueFullRun_of_checks {w : QueueWorld} {call : RequeueCall} {run : Run}
    (hrun : w.run = some run) (h : RequeueChecksPass w call run) :
    requeueFullRun w call = resumeAndEnqueue { w with lock := false } call run := by
  obtain ⟨detail, heligible⟩ := h.eligible
  obtain ⟨primary, deleted, hscan, hclear⟩ := h.unlocked
  simp [requeueFullRun, requeueUnlocked, hrun, heligible, hscan, hclear, h.apiKey,
    h.lockChecked]

/-- A requeue that a check stops has changed neither the run nor the jobs. -/
theorem requeueFullRun_of_not_checks {w : QueueWorld} {call : RequeueCall} {run : Run}
    (hrun : w.run = some run) (h : ¬RequeueChecksPass w call run) :
    (requeueFullRun w call).1.run = w.run ∧ (requeueFullRun w call).1.jobs = w.jobs ∧
      ∃ e, (requeueFullRun w call).2 = .error e := by
  -- Check by check, in the order of the source.
  simp only [requeueFullRun, hrun]
  cases heligible : structuralRequeueEligibility run with
  | error e => exact ⟨hrun, rfl, _, rfl⟩
  | ok verdict =>
      obtain ⟨eligible, detail⟩ := verdict
      cases eligible with
      | false => exact ⟨hrun, rfl, _, rfl⟩
      | true =>
          cases hscan : scanPrimaryJob call w.jobs with
          | error e => exact ⟨hrun, rfl, _, rfl⟩
          | ok primary =>
              simp only
              cases hclear : clearStaleFullRunLockIfApplicable run.status primary
                  call.staleExists call.staleDelete w.lock with
              | mk lock deleted =>
                  cases deleted with
                  | error e => exact ⟨rfl, rfl, _, rfl⟩
                  | ok deleted =>
                      simp only [requeueUnlocked]
                      cases hkey : w.settings.requireLlmApiKeyForFullMode with
                      | error e => exact ⟨rfl, rfl, _, rfl⟩
                      | ok key =>
                          cases hexists : call.lockExists with
                          | error applied => exact ⟨rfl, rfl, _, rfl⟩
                          | ok =>
                              cases lock with
                              | true => exact ⟨rfl, rfl, _, rfl⟩
                              | false =>
                                  exact absurd ⟨⟨detail, heligible⟩,
                                    ⟨primary, deleted, hscan, hclear⟩, hkey, hexists⟩ h

/-- **What a requeue can do to the run**: nothing, or give a failed run the status
its rows stand for. -/
theorem requeueFullRun_run (w : QueueWorld) (call : RequeueCall) :
    (requeueFullRun w call).1.run = w.run ∨
      (requeueFullRun w call).1.run = w.run.map normalizeFailedRunForResume := by
  cases hrun : w.run with
  | none =>
      left
      simp [requeueFullRun, hrun]
  | some run =>
      by_cases h : RequeueChecksPass w call run
      · right
        rw [requeueFullRun_of_checks hrun h]
        unfold resumeAndEnqueue
        cases call.enqueue <;> rfl
      · left
        rw [(requeueFullRun_of_not_checks hrun h).1, hrun]

/-- **What a requeue can do to the queue**: nothing, or push one job with the scope
inferred from the run's rows. -/
theorem requeueFullRun_jobs (w : QueueWorld) (call : RequeueCall) :
    (requeueFullRun w call).1.jobs = w.jobs ∨
      ∃ run, w.run = some run ∧
        (requeueFullRun w call).1.run = some (normalizeFailedRunForResume run) ∧
        (requeueFullRun w call).1.jobs = w.jobs ++
          [fullRunJob call.jobId call.runId
            (inferDocumentIdForFullRun w.chunks (normalizeFailedRunForResume run)) call.now] := by
  cases hrun : w.run with
  | none =>
      left
      simp [requeueFullRun, hrun]
  | some run =>
      by_cases h : RequeueChecksPass w call run
      · rw [requeueFullRun_of_checks hrun h]
        unfold resumeAndEnqueue
        cases call.enqueue with
        | ok => exact Or.inr ⟨run, rfl, rfl, rfl⟩
        | error applied =>
            cases applied with
            | true => exact Or.inr ⟨run, rfl, rfl, rfl⟩
            | false => exact Or.inl rfl
      · exact Or.inl (requeueFullRun_of_not_checks hrun h).2.1

/-! ## A rejected requeue

The commit of the resumable status comes before the enqueue, so the one
rejection that comes after it leaves the run moved. -/

/-- **When a rejected requeue leaves the status alone**: unless the run was
failed, every check let it through and the enqueue raised. -/
theorem rejected_requeue_keeps_status_iff {w : QueueWorld} {call : RequeueCall}
    {e : RequeueError} (hraise : (requeueFullRun w call).2 = .error e) :
    (requeueFullRun w call).1.run.map Run.status = w.run.map Run.status ↔
      ¬∃ run, w.run = some run ∧ run.status = .failed ∧ RequeueChecksPass w call run ∧
        call.enqueue ≠ .ok := by
  cases hrun : w.run with
  | none => simp [requeueFullRun, hrun]
  | some run =>
      by_cases h : RequeueChecksPass w call run
      · have hmoved : (requeueFullRun w call).1.run = some (normalizeFailedRunForResume run) ∧
            call.enqueue ≠ .ok := by
          rw [requeueFullRun_of_checks hrun h] at hraise ⊢
          unfold resumeAndEnqueue at hraise ⊢
          cases henqueue : call.enqueue with
          | ok => simp [henqueue] at hraise
          | error applied => exact ⟨rfl, by simp⟩
        rw [hmoved.1, Option.map_some, Option.map_some, Option.some.injEq]
        by_cases hfailed : run.status = .failed
        · have hne := normalizeFailedRunForResume_status_ne run
          rw [hfailed]
          constructor
          · intro heq
            exact absurd heq hne
          · intro hnot
            exact absurd ⟨run, rfl, hfailed, h, hmoved.2⟩ hnot
        · rw [normalizeFailedRunForResume_of_ne hfailed]
          constructor
          · rintro - ⟨run', hsame, hfailed', -, -⟩
            cases hsame
            exact hfailed hfailed'
          · intro _
            rfl
      · rw [(requeueFullRun_of_not_checks hrun h).1, hrun]
        constructor
        · rintro - ⟨run', hsame, -, hchecks, -⟩
          cases hsame
          exact h hchecks
        · intro _
          rfl

/-- The default provider with its key set and pricing off. -/
def openaiSettings : Settings where
  llmProvider := none
  openaiApiKey := some "key"
  claudeApiKey := none
  openaiInputUsdPerMillionTokens := 0
  openaiOutputUsdPerMillionTokens := 0
  anthropicInputUsdPerMillionTokens := 0
  anthropicOutputUsdPerMillionTokens := 0

/-- A run that failed before its retrieval, with no key and no job left. -/
def failedRunWorld : QueueWorld where
  run := some (createRun 1 .failed none)
  lock := false
  jobs := []
  chunks := []
  settings := openaiSettings

/-- A requeue of that run whose enqueue finds Redis gone. -/
def enqueueDownCall : RequeueCall where
  runId := 1
  scan := .ok
  staleExists := .ok
  staleDelete := .ok
  lockExists := .ok
  enqueue := .error false
  jobId := 7
  now := 0

theorem failedRunWorld_raises :
    (requeueFullRun failedRunWorld enqueueDownCall).2 = .error (.raised redisError) := rfl

/-- The run is left `running` although no job was pushed. -/
theorem rejected_requeue_moves_failed_run :
    ¬∀ (w : QueueWorld) (call : RequeueCall) (e : RequeueError),
      (requeueFullRun w call).2 = .error e →
        (requeueFullRun w call).1.run.map Run.status = w.run.map Run.status := by
  intro h
  exact absurd (h failedRunWorld enqueueDownCall _ failedRunWorld_raises) (by decide)

/-- The same run while no API key is configured. -/
def keylessWorld : QueueWorld :=
  { failedRunWorld with settings := { openaiSettings with openaiApiKey := none } }

theorem keylessWorld_raises :
    (requeueFullRun keylessWorld enqueueDownCall).2 = .error (.raised (.valueError
      ("openai_api_key / OPENAI_API_KEY is not set. Required for full RAG when " ++
       "LLM_PROVIDER is openai (default)."))) := rfl

/-- A requeue stopped by the missing key leaves the failed run failed. -/
theorem rejected_requeue_keeps_status_without_key :
    (requeueFullRun keylessWorld enqueueDownCall).1.run.map Run.status =
        keylessWorld.run.map Run.status ↔
      ¬∃ run, keylessWorld.run = some run ∧ run.status = .failed ∧
        RequeueChecksPass keylessWorld enqueueDownCall run ∧ enqueueDownCall.enqueue ≠ .ok :=
  rejected_requeue_keeps_status_iff keylessWorld_raises

end ContextLens
