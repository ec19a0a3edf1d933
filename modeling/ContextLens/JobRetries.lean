import ContextLens.PipelineStages

/-!
# Retries of a full-run job

`full_run_on_failure` of `app/workers/full_run_worker.py` and the retry policy of
`enqueue_full_benchmark_run`: a job whose attempt raised is attempted again, up to
two more times.

The callback is written for a job whose retries are exhausted: it marks the run
failed.  A worker that runs it after *every* failed attempt marks the run while
retries are left, and the next attempt finds a failed run and returns without
doing anything.  So a transient error defeats the retries as soon as one callback
reaches the database before the judge phase was committed; `survivesCallbacks` is
the condition that none does.
-/

namespace ContextLens

open Foundations

/-- An attempt of a job that dies by an exception that is left to the retry. -/
structure FailedAttempt where
  point : AbortPoint
  exception : PyException
  retryable : exception.nonRetryable = false
  elapsedMs : Phase → ℕ
  callbackReachesDatabase : Bool

/-- The attempt as an invocation of the pipeline. -/
def FailedAttempt.attempt (a : FailedAttempt) : Attempt where
  abort := some (a.point, .raised a.exception)
  elapsedMs := a.elapsedMs
  marks := true

section

variable (env : PipelineEnv) (documentId : Option ℕ)

/-- A failed attempt and the `full_run_on_failure` that follows it. -/
def failedAttemptRun (a : FailedAttempt) (run : Run) : Run :=
  markRunFailedSync a.callbackReachesDatabase
    (runFullBenchmarkPipeline env a.attempt documentId run).run

/-- The run after the failed attempts of a job. -/
def runAfterFailedAttempts (failing : List FailedAttempt) (run : Run) : Run :=
  failing.foldl (fun r a => failedAttemptRun env documentId a r) run

/-- Each of the attempts does raise its exception. -/
def AllRaise : List FailedAttempt → Run → Prop
  | [], _ => True
  | a :: rest, run =>
      (runFullBenchmarkPipeline env a.attempt documentId run).outcome = .raised a.exception ∧
        AllRaise rest (failedAttemptRun env documentId a run)

end

/-- No callback reaches the database before an attempt has died after the commit of
the judge phase. -/
def survivesCallbacks : List FailedAttempt → Prop
  | [] => True
  | a :: rest =>
      a.point = .afterCommit .judge ∨
        a.callbackReachesDatabase = false ∧ survivesCallbacks rest

section

variable {env : PipelineEnv} {documentId : Option ℕ} {attempt : Attempt} {run : Run}

/-! ## The phases an attempt has behind it -/

/-- The phases behind a cut of the whole pipeline: all of them, or not the judge. -/
theorem CutAfter.all_or {point : AbortPoint} {passed : List Phase}
    (h : CutAfter point Phase.all passed) :
    point = .afterCommit .judge ∧ passed = Phase.all ∨
      point ≠ .afterCommit .judge ∧ .judge ∉ passed := by
  generalize hall : Phase.all = phases at h
  cases h with
  | inPhase before phase after =>
      right
      rcases passed with _ | ⟨a, _ | ⟨b, _ | ⟨c, passed⟩⟩⟩ <;> simp_all [Phase.all] <;> grind
  | afterCommit before phase after =>
      rcases before with _ | ⟨a, _ | ⟨b, _ | ⟨c, before⟩⟩⟩ <;> simp_all [Phase.all] <;> grind

/-- Stages that do not leave a status do not lead to it. -/
theorem runAll_status_ne {phases : List Phase} {status : RunStatus} {run' : Run}
    {error : Option PyException} (hleave : ∀ phase ∈ phases, phase.completion ≠ status)
    (hne : run.status ≠ status)
    (hrun : Stage.runAll (phases.map (phaseStage env documentId)) run = (run', error)) :
    run'.status ≠ status := by
  refine Stage.runAll_invariant (I := fun r : Run => r.status ≠ status) ?_ hne hrun
  intro stage hstage s t hs hst
  obtain ⟨phase, hphase, rfl⟩ := List.mem_map.mp hstage
  rcases phaseStage_run_ok hst with ⟨-, rfl⟩ | hstatus
  · exact hs
  · rw [hstatus]
    exact hleave phase hphase

/-- The whole pipeline completes a run in progress. -/
theorem completed_of_runAll {run' : Run} (h : WellFormedRun run) (hne : run.status ≠ .failed)
    (hrun : Stage.runAll (pipelineStages env documentId) run = (run', none)) :
    run'.status = .completed := by
  have hfailed : run'.status ≠ .failed :=
    runAll_status_ne (by intro phase _; cases phase <;> decide) hne hrun
  rcases terminal_of_noneDue (h.runAll hrun).not_pending
    (Stage.noneDue_of_complete pipelineStages_checkpointed hrun) with hstatus | hstatus
  · exact hstatus
  · exact absurd hstatus hfailed

/-! ## One attempt -/

/-- An undisturbed attempt without an error completes every run that is not
failed. -/
theorem completed_iff_of_finished (h : WellFormedRun run) {elapsedMs : Phase → ℕ}
    (hfinished : (runFullBenchmarkPipeline env (undisturbedIn elapsedMs) documentId
      run).outcome = .finished) :
    (runFullBenchmarkPipeline env (undisturbedIn elapsedMs) documentId run).run.status =
      .completed ↔ run.status ≠ .failed := by
  by_cases hterminal : run.status = .completed ∨ run.status = .failed
  · have hsame : (runFullBenchmarkPipeline env (undisturbedIn elapsedMs) documentId run).run =
        run := by
      simp [runFullBenchmarkPipeline, undisturbedIn, Attempt.abortAt, hterminal]
    rw [hsame]
    rcases hterminal with hstatus | hstatus <;> simp [hstatus]
  · have hpipeline : runFullBenchmarkPipeline env (undisturbedIn elapsedMs) documentId run =
        handleInterruption (undisturbedIn elapsedMs)
          (runPhases env (undisturbedIn elapsedMs) documentId Phase.all
            { run := run, log := [] }) := by
      simp [runFullBenchmarkPipeline, undisturbedIn, Attempt.abortAt, hterminal]
    rw [not_or] at hterminal
    rw [hpipeline] at hfinished ⊢
    cases hphases : runPhases env (undisturbedIn elapsedMs) documentId Phase.all
        { run := run, log := [] } with
    | mk s cut =>
        rw [hphases] at hfinished
        rcases runPhases_cases hphases with ⟨rfl, hall⟩ |
          ⟨point, i, passed, rfl, habort, -, -⟩ | ⟨e, rfl, herror⟩
        · -- Every stage went through.
          have hcompleted : s.run.withoutLatencies.status = .completed :=
            completed_of_runAll h.withoutLatencies hterminal.2 hall
          exact ⟨fun _ => hterminal.2, fun _ => hcompleted⟩
        · simp [undisturbedIn] at habort
        · have hretry := runAll_error_nonRetryable h.withoutLatencies herror
          simp [handleInterruption, hretry, undisturbedIn] at hfinished

/-- **What an attempt that raised leaves**: a terminal run as it was, and a run in
progress completed exactly when the attempt died after the judge's commit. -/
theorem raised_status (h : WellFormedRun run) {a : FailedAttempt}
    (hraised : (runFullBenchmarkPipeline env a.attempt documentId run).outcome =
      .raised a.exception) :
    ((run.status = .completed ∨ run.status = .failed) ∧
        (runFullBenchmarkPipeline env a.attempt documentId run).run = run) ∨
      (run.status ≠ .completed ∧ run.status ≠ .failed ∧
        (runFullBenchmarkPipeline env a.attempt documentId run).run.status ≠ .failed ∧
        ((runFullBenchmarkPipeline env a.attempt documentId run).run.status = .completed ↔
          a.point = .afterCommit .judge)) := by
  by_cases hterminal : run.status = .completed ∨ run.status = .failed
  · left
    refine ⟨hterminal, ?_⟩
    unfold runFullBenchmarkPipeline
    cases a.attempt.abortAt .atStart with
    | some i => cases i <;> rfl
    | none => rw [if_pos hterminal]
  · right
    have hopen := not_or.mp hterminal
    refine ⟨hopen.1, hopen.2, ?_⟩
    by_cases hstart : a.point = .atStart
    · have habort : a.attempt.abortAt .atStart = some (.raised a.exception) := by
        simp [FailedAttempt.attempt, Attempt.abortAt, hstart]
      simp [runFullBenchmarkPipeline, habort, hstart, hopen]
    · have habort : a.attempt.abortAt .atStart = none := by
        simp [FailedAttempt.attempt, Attempt.abortAt, hstart]
      have hpipeline : runFullBenchmarkPipeline env a.attempt documentId run =
          handleInterruption a.attempt
            (runPhases env a.attempt documentId Phase.all { run := run, log := [] }) := by
        simp [runFullBenchmarkPipeline, habort, hterminal]
      rw [hpipeline] at hraised ⊢
      cases hphases : runPhases env a.attempt documentId Phase.all
          { run := run, log := [] } with
      | mk s cut =>
          rw [hphases] at hraised
          rcases runPhases_cases hphases with ⟨rfl, hall⟩ |
            ⟨point, i, passed, rfl, hcut, hafter, hpassed⟩ | ⟨e, rfl, herror⟩
          · exact Outcome.noConfusion hraised
          · -- Cut at its point: the status is that of the phases behind it.
            simp only [FailedAttempt.attempt, Option.some.injEq, Prod.mk.injEq] at hcut
            obtain ⟨rfl, rfl⟩ := hcut
            simp only [handleInterruption, a.retryable, Bool.false_eq_true, if_false]
            have hopen' : run.withoutLatencies.status ≠ .completed ∧
                run.withoutLatencies.status ≠ .failed := hopen
            have hnotFailed : s.run.withoutLatencies.status ≠ .failed := by
              refine runAll_status_ne ?_ hopen'.2 hpassed
              intro phase _
              cases phase <;> decide
            refine ⟨hnotFailed, ?_⟩
            rcases hafter.all_or with ⟨hpoint, rfl⟩ | ⟨hpoint, hjudge⟩
            · have hcompleted : s.run.withoutLatencies.status = .completed :=
                completed_of_runAll h.withoutLatencies hopen.2 hpassed
              exact ⟨fun _ => hpoint, fun _ => hcompleted⟩
            · have hnot : s.run.withoutLatencies.status ≠ .completed := by
                refine runAll_status_ne ?_ hopen'.1 hpassed
                intro phase hphase
                cases phase with
                | retrieval => decide
                | generation => decide
                | judge => exact absurd hphase hjudge
              exact ⟨fun hstatus => absurd hstatus hnot, fun hstatus => absurd hstatus hpoint⟩
          · have hretry := runAll_error_nonRetryable h.withoutLatencies herror
            simp [handleInterruption, hretry, FailedAttempt.attempt] at hraised

/-! ## The whole job -/

theorem WellFormedRun.failedAttemptRun (h : WellFormedRun run) (a : FailedAttempt) :
    WellFormedRun (failedAttemptRun env documentId a run) := by
  have hpipeline : WellFormedRun (runFullBenchmarkPipeline env a.attempt documentId run).run :=
    h.pipeline
  unfold ContextLens.failedAttemptRun markRunFailedSync
  split_ifs
  · exact hpipeline.markFailed
  · exact hpipeline

theorem WellFormedRun.runAfterFailedAttempts (h : WellFormedRun run)
    (failing : List FailedAttempt) :
    WellFormedRun (runAfterFailedAttempts env documentId failing run) := by
  induction failing generalizing run with
  | nil => exact h
  | cons a rest ih => exact ih (h.failedAttemptRun a)

theorem markRunFailedSync_status (reaches : Bool) (run : Run) :
    (markRunFailedSync reaches run).status =
      if reaches = true ∧ run.status ≠ .completed then .failed else run.status := by
  unfold markRunFailedSync markFailedChanges
  cases reaches <;> cases hstatus : run.status <;> simp [Run.apply, hstatus]

/-- A job whose attempts all raised leaves the run unfailed exactly when it started
completed, or unfailed with no callback in the way. -/
theorem runAfterFailedAttempts_status (h : WellFormedRun run) {failing : List FailedAttempt}
    (hraise : AllRaise env documentId failing run) :
    (runAfterFailedAttempts env documentId failing run).status ≠ .failed ↔
      run.status = .completed ∨ run.status ≠ .failed ∧ survivesCallbacks failing := by
  induction failing generalizing run with
  | nil =>
      simp only [runAfterFailedAttempts, List.foldl_nil, survivesCallbacks, and_true]
      constructor
      · exact Or.inr
      · rintro (hcompleted | hne)
        · simp [hcompleted]
        · exact hne
  | cons a rest ih =>
      obtain ⟨hfirst, hrest⟩ := hraise
      have hnext := ih (h.failedAttemptRun a) hrest
      have hstep : (runAfterFailedAttempts env documentId (a :: rest) run) =
          runAfterFailedAttempts env documentId rest (failedAttemptRun env documentId a run) := rfl
      -- By what the first attempt left, and whether its callback marked that.
      rw [hstep, hnext, failedAttemptRun, markRunFailedSync_status, survivesCallbacks]
      rcases raised_status h hfirst with ⟨hterminal, hsame⟩ | ⟨hopen, hne, hne', hiff⟩
      · rw [hsame]
        rcases hterminal with hstatus | hstatus <;> simp [hstatus]
      · by_cases hpoint : a.point = .afterCommit .judge
        · simp [hiff.mpr hpoint, hpoint, hopen, hne]
        · have hnot := mt hiff.mp hpoint
          cases hreaches : a.callbackReachesDatabase with
          | true => simp [hnot, hpoint, hopen]
          | false => simp [hnot, hpoint, hopen, hne, hne']

/-- **When the retries of a job complete its run.**  After attempts that each raised a
retryable exception, and a last one that meets no error, the run is completed
exactly when it was so from the start, or it was not failed and no callback got
between. -/
theorem retried_run_completed_iff (hrun : IsFullRun run) {failing : List FailedAttempt}
    (hraise : AllRaise env documentId failing run) {elapsedMs : Phase → ℕ}
    (hfinished : (runFullBenchmarkPipeline env (undisturbedIn elapsedMs) documentId
      (runAfterFailedAttempts env documentId failing run)).outcome = .finished) :
    (runFullBenchmarkPipeline env (undisturbedIn elapsedMs) documentId
        (runAfterFailedAttempts env documentId failing run)).run.status = .completed ↔
      run.status = .completed ∨ run.status ≠ .failed ∧ survivesCallbacks failing := by
  have hwell := hrun.wellFormed
  rw [completed_iff_of_finished (hwell.runAfterFailedAttempts failing) hfinished,
    runAfterFailedAttempts_status hwell hraise]

end

/-- The provider is overloaded during the generation of the first attempt. -/
def overloadedInGeneration : FailedAttempt where
  point := .inPhase .generation
  exception := .apiError "overloaded"
  retryable := rfl
  elapsedMs := fun _ => 0
  callbackReachesDatabase := true

/-- One such attempt, then one that meets no error, and the run is `failed`. -/
theorem transient_failure_defeats_retries :
    ¬∀ (env : PipelineEnv) (documentId : Option ℕ) (id : ℕ) (mode : FullEvalMode)
      (requestId : Option String) (failing : List FailedAttempt) (elapsedMs : Phase → ℕ),
      failing.length ≤ 2 →
      AllRaise env documentId failing (createFullRun id mode requestId) →
      (runFullBenchmarkPipeline env (undisturbedIn elapsedMs) documentId
        (runAfterFailedAttempts env documentId failing
          (createFullRun id mode requestId))).outcome = .finished →
      (runFullBenchmarkPipeline env (undisturbedIn elapsedMs) documentId
        (runAfterFailedAttempts env documentId failing
          (createFullRun id mode requestId))).run.status = .completed := by
  intro h
  have hcompleted := h oneChunkEnv none 1 .full none [overloadedInGeneration] (fun _ => 0)
    (by decide) ⟨rfl, trivial⟩ rfl
  exact absurd hcompleted (by decide)

/-- Dying after the commit of the judge phase is survived. -/
theorem retried_run_completed_after_judge :
    (runFullBenchmarkPipeline oneChunkEnv (undisturbedIn fun _ => 0) none
        (runAfterFailedAttempts oneChunkEnv none
          [{ overloadedInGeneration with point := .afterCommit .judge }]
          (createFullRun 1 .full none))).run.status = .completed ↔
      (createFullRun 1 .full none).status = .completed ∨
        (createFullRun 1 .full none).status ≠ .failed ∧
          survivesCallbacks [{ overloadedInGeneration with point := .afterCommit .judge }] := by
  have hraise : AllRaise oneChunkEnv none
      [{ overloadedInGeneration with point := .afterCommit .judge }]
      (createFullRun 1 .full none) := ⟨rfl, trivial⟩
  exact retried_run_completed_iff (isFullRun_createFullRun 1 .full none) hraise rfl

end ContextLens
