import ContextLens.BatchRunner
import ContextLens.PipelineStages

/-!
# When a batch settles its runs

A batch that is alone, and commits: every run it created is terminal and the
counters agree with the statuses.

* A heuristic cell that raises behind the flush of its retrieval rows leaves its
  row locked by the open transaction, and the handler waits for that row — unless
  what raised was a `COMMIT`, which rolls back.  A search without hits is such a
  cell.
* A flush that fails rolls back too, and expires the objects of the session: the
  handler raises at its first line, and the batch ends without a count.
* A session that refuses further statements costs the cells after it, and the batch
  itself at the next dataset.
* An LLM cell settles its run unless the pipeline re-raises, which nothing marks.

`batch_settles_iff` is the exact condition.
-/

namespace ContextLens

open Foundations

/-! ## The pipeline of a fresh run -/

section Pipeline

variable {env : PipelineEnv} {documentId : Option ℕ} {attempt : Attempt}

/-- The rows of a search are found again with their bodies. -/
theorem PipelineEnv.rankedRows_eq_nil_iff {run : Run}
    (hrows : run.retrievalResults = retrievalRows (env.searchChunks documentId)) :
    env.rankedRows run = [] ↔ ¬env.HasHits documentId := by
  rw [← searchChunks_eq_nil_iff]
  constructor
  · intro h
    by_contra hne
    obtain ⟨hit, hits, hsearch⟩ := List.exists_cons_of_ne_nil hne
    -- The chunk of the first hit is in the corpus.
    obtain ⟨chunk, hchunk, hid⟩ : ∃ chunk ∈ env.chunks, chunk.id = hit.chunkId := by
      have hmem : hit ∈ env.searchChunks documentId := hsearch ▸ List.mem_cons_self
      obtain ⟨row, hrow, rfl⟩ := List.mem_map.mp hmem
      have hfound := (Sql.OrderedScan.mem_rows hrow).1
      obtain ⟨chunk, hchunk, hembedded⟩ := List.mem_filterMap.mp hfound
      obtain ⟨e, -, rfl⟩ := Option.map_eq_some_iff.mp hembedded
      exact ⟨chunk, hchunk, rfl⟩
    have hfind : (env.chunks.find? fun c => c.id = hit.chunkId).isSome :=
      List.find?_isSome.mpr ⟨chunk, hchunk, by simpa using hid⟩
    obtain ⟨found, hfound⟩ := Option.isSome_iff_exists.mp hfind
    let row : RetrievalResult := { chunkId := hit.chunkId, rank := 0 + 1, score := hit.score }
    have hrow : row ∈ run.retrievalResults := by
      rw [hrows, hsearch, retrievalRows, List.mapIdx_cons]
      exact List.mem_cons_self
    have hranked : (row, found.content) ∈ env.rankedRows run :=
      List.mem_filterMap.mpr ⟨row, (List.mem_insertionSort _).mpr hrow, by simp [row, hfound]⟩
    rw [h] at hranked
    exact absurd hranked List.not_mem_nil
  · intro h
    simp [rankedRows, hrows, h, retrievalRows]

/-- The points an attempt reaches before the generation looks for rows. -/
def AbortPoint.BeforeGeneration (point : AbortPoint) : Prop :=
  point = .inPhase .retrieval ∨ point = .afterCommit .retrieval ∨ point = .inPhase .generation

instance (point : AbortPoint) : Decidable point.BeforeGeneration := by
  unfold AbortPoint.BeforeGeneration
  infer_instance

/-- An exception that the pipeline answers with a mark that reaches the database. -/
def CellScript.Marks (script : CellScript) (e : PyException) : Prop :=
  e.nonRetryable = true ∧ script.pipelineMarks = true

/-- The pipeline handles whatever cuts it short: the exception that reaches it first is
its own missing-rows error, or the one of the script. -/
def CellScript.PipelineHandles (script : CellScript) (env : PipelineEnv)
    (documentId : Option ℕ) : Prop :=
  match script.pipelineAbort with
  | none => env.HasHits documentId ∨ script.pipelineMarks = true
  | some (point, e) =>
      point ≠ .atStart ∧
        (env.HasHits documentId ∨ point.BeforeGeneration → script.Marks e) ∧
        (¬env.HasHits documentId → ¬point.BeforeGeneration → script.pipelineMarks = true)

/-- Nothing cuts the pipeline short before the judge phase is committed. -/
def CellScript.PipelineCompletes (script : CellScript) (env : PipelineEnv)
    (documentId : Option ℕ) : Prop :=
  env.HasHits documentId ∧ ∀ point e, script.pipelineAbort = some (point, e) →
    point = .afterCommit .judge

/-- What the phases of a fresh run do when nothing cuts them short. -/
structure FreshPhases (env : PipelineEnv) (attempt : Attempt) (documentId : Option ℕ)
    (run retrieved : Run) : Prop where
  running : run.status = .running
  retrieval : commitPhase env attempt documentId .retrieval run = .ok retrieved
  status_retrieved : retrieved.status = .retrievalCompleted
  with_hits : env.HasHits documentId → ∃ generated completed,
    commitPhase env attempt documentId .generation retrieved = .ok generated ∧
      generated.status = .generationCompleted ∧
      commitPhase env attempt documentId .judge generated = .ok completed ∧
      completed.status = .completed
  without_hits : ¬env.HasHits documentId → ∃ e,
    commitPhase env attempt documentId .generation retrieved = .error e ∧
      e.nonRetryable = true

theorem freshPhases (env : PipelineEnv) (attempt : Attempt) (documentId : Option ℕ)
    (runId : ℕ) (metadata : Option JsonObject) :
    ∃ retrieved, FreshPhases env attempt documentId (createRun runId .running metadata)
      retrieved := by
  have hranked : ∀ run : Run,
      run.retrievalResults = PipelineEnv.retrievalRows (env.searchChunks documentId) →
        (env.rankedRows run = [] ↔ ¬env.HasHits documentId) := fun run hrows =>
    PipelineEnv.rankedRows_eq_nil_iff hrows
  refine ⟨_, ⟨rfl, commitPhase_retrieval, rfl, fun hhits => ?_, fun hhits => ?_⟩⟩
  · obtain ⟨generated, hgenerated⟩ : ∃ generated,
        commitPhase env attempt documentId .generation
          { createRun runId .running metadata with
            retrievalResults := (createRun runId .running metadata).retrievalResults ++
              PipelineEnv.retrievalRows (env.searchChunks documentId)
            retrievalLatencyMs := some (attempt.elapsedMs .retrieval)
            status := .retrievalCompleted } = .ok generated :=
      commitPhase_generation_ok rfl rfl fun h => (hranked _ rfl).mp h hhits
    obtain ⟨-, -, -, hrow⟩ := commitPhase_generation_eq_ok hgenerated
    obtain ⟨completed, hcompleted⟩ : ∃ completed,
        commitPhase env attempt documentId .judge generated = .ok completed :=
      commitPhase_judge_ok (by rw [hrow]) (by rw [hrow]) (by rw [hrow]; rfl)
    exact ⟨generated, completed, hgenerated, commitPhase_status hgenerated, hcompleted,
      commitPhase_status hcompleted⟩
  · have hfresh : WellFormedRun (createRun runId .running metadata) := by
      constructor <;> simp [createRun]
    have hretrieval : commitPhase env attempt documentId .retrieval
        (createRun runId .running metadata) = _ := commitPhase_retrieval
    have hwell := hfresh.commitPhase hretrieval
    cases hcommit : commitPhase env attempt documentId .generation _ with
    | error e => exact ⟨e, rfl, commitPhase_error hwell hcommit⟩
    | ok generated =>
        obtain ⟨-, -, hrows, -⟩ := commitPhase_generation_eq_ok hcommit
        exact absurd ((hranked _ rfl).mpr hhits) hrows

/-- How the pipeline of a fresh run ends under a script. -/
structure PipelineEnd (script : CellScript) (env : PipelineEnv) (documentId : Option ℕ)
    (result : PipelineResult) : Prop where
  handled : (result.outcome = .finished ∨ ∃ e, result.outcome = .markedFailed e) ↔
    script.PipelineHandles env documentId
  not_killed : result.outcome ≠ .killed
  completed : result.run.status = .completed ↔ script.PipelineCompletes env documentId
  terminal : script.PipelineHandles env documentId →
    result.run.status = .completed ∨ result.run.status = .failed
  unmarked : ¬script.PipelineHandles env documentId → result.run.status ≠ .failed

theorem markRunFailedSafe_status (run : Run) :
    (markRunFailedSafe run).status = if run.status = .completed then .completed else .failed := by
  by_cases hcompleted : run.status = .completed
  · simp [markRunFailedSafe, markFailedChanges, hcompleted]
  · by_cases hfailed : run.status = .failed <;>
      simp [markRunFailedSafe, markFailedChanges, hcompleted, hfailed]

/-- An exception that reaches the handlers of a run in progress, or of a completed one. -/
theorem PipelineEnd.of_raised {script : CellScript} {s : Progress} {e : PyException}
    (hhandles : script.PipelineHandles env documentId ↔ script.Marks e)
    (hcompletes : s.run.status = .completed ↔ script.PipelineCompletes env documentId)
    (hfailed : s.run.status ≠ .failed) :
    PipelineEnd script env documentId
      (handleInterruption script.attempt (s, some (.raised e))) := by
  rw [handleInterruption]
  by_cases hretry : e.nonRetryable = true
  · by_cases hmarks : script.pipelineMarks = true
    · have hyes : script.PipelineHandles env documentId := hhandles.mpr ⟨hretry, hmarks⟩
      have hstatus := markRunFailedSafe_status s.run
      simp only [CellScript.attempt, hretry, hmarks, if_true]
      refine ⟨by simpa using hyes, by simp, ?_, fun _ => ?_, fun hno => absurd hyes hno⟩
      · rw [hstatus, ← hcompletes]
        by_cases h : s.run.status = .completed <;> simp [h]
      · rw [hstatus]
        by_cases h : s.run.status = .completed <;> simp [h]
    · have hno : ¬script.PipelineHandles env documentId := fun h => hmarks (hhandles.mp h).2
      simp only [CellScript.attempt, hretry, hmarks, if_true]
      exact ⟨by simpa using hno, by simp, hcompletes, fun h => absurd h hno, fun _ => hfailed⟩
  · have hno : ¬script.PipelineHandles env documentId := fun h => hretry (hhandles.mp h).1
    simp only [hretry]
    exact ⟨by simpa using hno, by simp, hcompletes, fun h => absurd h hno, fun _ => hfailed⟩

theorem CellScript.abortAt_attempt (script : CellScript) (point : AbortPoint) :
    script.attempt.abortAt point =
      match script.pipelineAbort with
      | some (at', e) => if at' = point then some (.raised e) else none
      | none => none := by
  rcases habort : script.pipelineAbort with _ | ⟨at', e⟩ <;>
    simp [Attempt.abortAt, CellScript.attempt, habort]

/-- The exception that leaves the phases of a fresh run. -/
structure PhasesRaise (script : CellScript) (env : PipelineEnv) (documentId : Option ℕ)
    (run : Run) (e : PyException) : Prop where
  handles_iff : script.PipelineHandles env documentId ↔ script.Marks e
  completed_iff : run.status = .completed ↔ script.PipelineCompletes env documentId
  not_failed : run.status ≠ .failed

/-- The phases of a fresh run complete it, or an exception leaves them. -/
def PhasesEnd (script : CellScript) (env : PipelineEnv) (documentId : Option ℕ)
    (ended : Progress × Option Interruption) : Prop :=
  (ended.2 = none ∧ ended.1.run.status = .completed ∧ script.PipelineHandles env documentId ∧
    script.PipelineCompletes env documentId) ∨
  ∃ e, ended.2 = some (.raised e) ∧ PhasesRaise script env documentId ended.1.run e

section

variable {script : CellScript} {run retrieved : Run}

/-- With hits only the script's exception keeps the phases from completing the run. -/
theorem runPhases_fresh_hits
    (hphases : FreshPhases env script.attempt documentId run retrieved)
    (hstart : ∀ e, script.pipelineAbort ≠ some (.atStart, e)) (hhits : env.HasHits documentId) :
    PhasesEnd script env documentId
      (runPhases env script.attempt documentId Phase.all { run := run, log := [] }) := by
  have hrunning := hphases.running
  have hretrieved := hphases.status_retrieved
  have hcommit := hphases.retrieval
  obtain ⟨generated, completed, hgeneration, hgenerated, hjudge, hcompleted⟩ :=
    hphases.with_hits hhits
  rcases habort : script.pipelineAbort with _ | ⟨point, e⟩
  · left
    simp [Phase.all, runPhases, runPhase, CellScript.abortAt_attempt, habort,
      Phase.prerequisite, hrunning, hcommit, hretrieved, hgeneration, hgenerated, hjudge,
      hcompleted, CellScript.PipelineHandles, CellScript.PipelineCompletes, hhits]
  · right
    have hpoint : point ≠ .atStart := fun h => hstart e (by rw [habort, h])
    have hhandles : script.PipelineHandles env documentId ↔ script.Marks e := by
      simp [CellScript.PipelineHandles, habort, hhits, hpoint]
    have hcompletes : script.PipelineCompletes env documentId ↔ point = .afterCommit .judge := by
      simp [CellScript.PipelineCompletes, habort, hhits]
    -- Only behind the last commit is the run already completed.
    have hends : (runPhases env script.attempt documentId Phase.all
          { run := run, log := [] }).2 = some (.raised e) ∧
        ((runPhases env script.attempt documentId Phase.all
          { run := run, log := [] }).1.run.status = .completed ↔ point = .afterCommit .judge) ∧
        (runPhases env script.attempt documentId Phase.all
          { run := run, log := [] }).1.run.status ≠ .failed := by
      rcases point with _ | phase | phase
      · exact absurd rfl hpoint
      all_goals
        cases phase <;>
          simp [Phase.all, runPhases, runPhase, CellScript.abortAt_attempt, habort,
            Phase.prerequisite, hrunning, hcommit, hretrieved, hgeneration, hgenerated, hjudge,
            hcompleted]
    obtain ⟨hraised, hcompleted_iff, hnot⟩ := hends
    exact ⟨e, hraised, hhandles, hcompleted_iff.trans hcompletes.symm, hnot⟩

/-- Without hits the generation raises, unless the script has cut the phases before. -/
theorem runPhases_fresh_no_hits
    (hphases : FreshPhases env script.attempt documentId run retrieved)
    (hstart : ∀ e, script.pipelineAbort ≠ some (.atStart, e)) (hhits : ¬env.HasHits documentId) :
    PhasesEnd script env documentId
      (runPhases env script.attempt documentId Phase.all { run := run, log := [] }) := by
  have hrunning := hphases.running
  have hretrieved := hphases.status_retrieved
  have hcommit := hphases.retrieval
  obtain ⟨e', hgeneration, hretry⟩ := hphases.without_hits hhits
  have hincomplete : ¬script.PipelineCompletes env documentId := fun h => hhits h.1
  right
  by_cases hearly : ∃ point e, script.pipelineAbort = some (point, e) ∧ point.BeforeGeneration
  · obtain ⟨point, e, habort, hbefore⟩ := hearly
    have hpoint : point ≠ .atStart := fun h => hstart e (by rw [habort, h])
    have hhandles : script.PipelineHandles env documentId ↔ script.Marks e := by
      simp [CellScript.PipelineHandles, habort, hhits, hbefore, hpoint]
    have hends : (runPhases env script.attempt documentId Phase.all
          { run := run, log := [] }).2 = some (.raised e) ∧
        (runPhases env script.attempt documentId Phase.all
          { run := run, log := [] }).1.run.status ≠ .completed ∧
        (runPhases env script.attempt documentId Phase.all
          { run := run, log := [] }).1.run.status ≠ .failed := by
      rcases hbefore with rfl | rfl | rfl <;>
        simp [Phase.all, runPhases, runPhase, CellScript.abortAt_attempt, habort,
          Phase.prerequisite, hrunning, hcommit, hretrieved]
    obtain ⟨hraised, hnotCompleted, hnot⟩ := hends
    exact ⟨e, hraised, hhandles, iff_of_false hnotCompleted hincomplete, hnot⟩
  · have hreached : ∀ point, point.BeforeGeneration →
        script.attempt.abortAt point = none := by
      intro point hbefore
      rw [CellScript.abortAt_attempt]
      rcases habort : script.pipelineAbort with _ | ⟨at', e⟩
      · rfl
      · have hne : at' ≠ point := fun h => hearly ⟨at', e, habort, h ▸ hbefore⟩
        simp [hne]
    have hfirst := hreached (.inPhase .retrieval) (Or.inl rfl)
    have hsecond := hreached (.afterCommit .retrieval) (Or.inr (Or.inl rfl))
    have hthird := hreached (.inPhase .generation) (Or.inr (Or.inr rfl))
    have hend : runPhases env script.attempt documentId Phase.all { run := run, log := [] } =
        ({ run := retrieved, log :=
            [{ phase := .retrieval, documentId := documentId, committed := true },
             { phase := .generation, documentId := documentId, committed := false }] },
          some (.raised e')) := by
      simp [Phase.all, runPhases, runPhase, hfirst, hsecond, hthird, Phase.prerequisite,
        hrunning, hcommit, hretrieved, hgeneration, Progress.entered]
    have hmarks : script.Marks e' ↔ script.pipelineMarks = true := by
      simp [CellScript.Marks, hretry]
    have hhandles : script.PipelineHandles env documentId ↔ script.Marks e' := by
      rw [hmarks]
      rcases habort : script.pipelineAbort with _ | ⟨point, e⟩
      · simp [CellScript.PipelineHandles, habort, hhits]
      · have hlate : ¬point.BeforeGeneration := fun h => hearly ⟨point, e, habort, h⟩
        have hpoint : point ≠ .atStart := fun h => hstart e (by rw [habort, h])
        simp [CellScript.PipelineHandles, habort, hhits, hlate, hpoint]
    rw [hend]
    exact ⟨e', rfl, hhandles, iff_of_false (by simp [hretrieved]) hincomplete,
      by simp [hretrieved]⟩

theorem runPhases_fresh (hphases : FreshPhases env script.attempt documentId run retrieved)
    (hstart : ∀ e, script.pipelineAbort ≠ some (.atStart, e)) :
    PhasesEnd script env documentId
      (runPhases env script.attempt documentId Phase.all { run := run, log := [] }) := by
  by_cases hhits : env.HasHits documentId
  · exact runPhases_fresh_hits hphases hstart hhits
  · exact runPhases_fresh_no_hits hphases hstart hhits

end

/-- **How an LLM cell's pipeline ends.** -/
theorem pipelineEnd (script : CellScript) (env : PipelineEnv) (documentId : Option ℕ)
    (runId : ℕ) (metadata : Option JsonObject) :
    PipelineEnd script env documentId (runFullBenchmarkPipeline env script.attempt documentId
      (createRun runId .running metadata)) := by
  obtain ⟨retrieved, hphases⟩ := freshPhases env script.attempt documentId runId metadata
  generalize createRun runId .running metadata = run at hphases
  have hrunning := hphases.running
  by_cases hstart : ∃ e, script.pipelineAbort = some (.atStart, e)
  · -- The sessions before the phases: nothing handles what they raise.
    obtain ⟨e, habort⟩ := hstart
    have hno : ¬script.PipelineHandles env documentId := by
      simp [CellScript.PipelineHandles, habort]
    have hincomplete : ¬script.PipelineCompletes env documentId := fun h => by
      have hjudge := h.2 _ _ habort
      cases hjudge
    have hresult : runFullBenchmarkPipeline env script.attempt documentId run =
        { run := run, outcome := .raised e, log := [] } := by
      simp [runFullBenchmarkPipeline, CellScript.abortAt_attempt, habort]
    rw [hresult]
    exact ⟨by simpa using hno, by simp, by simpa [hrunning] using hincomplete,
      fun h => absurd h hno, fun _ => by simp [hrunning]⟩
  · have hstart : ∀ e, script.pipelineAbort ≠ some (.atStart, e) := fun e h => hstart ⟨e, h⟩
    have hnone : script.attempt.abortAt .atStart = none := by
      rw [CellScript.abortAt_attempt]
      rcases habort : script.pipelineAbort with _ | ⟨point, e⟩
      · rfl
      · have hpoint : point ≠ .atStart := fun h => hstart e (by rw [habort, h])
        simp [hpoint]
    have hpipeline : runFullBenchmarkPipeline env script.attempt documentId run =
        handleInterruption script.attempt (runPhases env script.attempt documentId Phase.all
          { run := run, log := [] }) := by
      simp [runFullBenchmarkPipeline, hnone, hrunning]
    have hend := runPhases_fresh hphases hstart
    rw [hpipeline]
    generalize runPhases env script.attempt documentId Phase.all { run := run, log := [] } =
      ended at hend
    obtain ⟨s, cut⟩ := ended
    rcases hend with ⟨rfl, hcompleted, hhandles, hcompletes⟩ | ⟨e, rfl, hraise⟩
    · exact ⟨by simpa [handleInterruption] using hhandles, by simp [handleInterruption],
        iff_of_true hcompleted hcompletes, fun _ => Or.inl hcompleted,
        fun hno => absurd hhandles hno⟩
    · exact PipelineEnd.of_raised hraise.handles_iff hraise.completed_iff hraise.not_failed

end Pipeline

/-! ## Settled runs -/

/-- How many of the created runs are completed. -/
def BatchState.completedRuns (s : BatchState) : ℕ :=
  s.created.countP fun id => (s.table.find id).any fun row => row.run.status = .completed

/-- Every created run is terminal and the counters agree with the statuses, with
`pending` cells begun and not counted. -/
structure Settled (pending : ℕ) (s : BatchState) : Prop where
  terminal : ∀ id ∈ s.created, ∃ row, s.table.find id = some row ∧ row.IsTerminal
  distinct : s.created.Nodup
  completed : s.completedRuns = s.successes
  counted : s.successes + s.failures + pending = s.total

section Settled

variable {s s' : BatchState} {id pending : ℕ} {row : StoredRun}

theorem BatchState.completedRuns_congr (hcreated : s'.created = s.created)
    (hframe : ∀ i ∈ s.created, s'.table.find i = s.table.find i) :
    s'.completedRuns = s.completedRuns := by
  rw [completedRuns, completedRuns, hcreated]
  refine List.countP_congr fun i hi => ?_
  rw [hframe i hi]

theorem BatchState.completedRuns_concat (hcreated : s'.created = s.created ++ [id])
    (hframe : ∀ i ∈ s.created, s'.table.find i = s.table.find i)
    (hrow : s'.table.find id = some row) :
    s'.completedRuns = s.completedRuns + if row.run.status = .completed then 1 else 0 := by
  have hold : s.created.countP (fun i =>
      (s'.table.find i).any fun row => row.run.status = .completed) = s.completedRuns :=
    List.countP_congr fun i hi => by rw [hframe i hi]
  rw [completedRuns, hcreated, List.countP_append, hold]
  by_cases h : row.run.status = .completed <;> simp [hrow, h]

/-- Created runs have rows, so their numbers are taken. -/
theorem Settled.lt_nextId (h : Settled pending s) (hid : id ∈ s.created) :
    id < s.table.nextId := by
  obtain ⟨row, hrow, -⟩ := h.terminal id hid
  exact RunsTable.lt_nextId_of_find hrow

/-- A cell that created no run and failed. -/
theorem Settled.keep (h : Settled 1 s) (hcreated : s'.created = s.created)
    (hframe : ∀ i ∈ s.created, s'.table.find i = s.table.find i)
    (hsuccesses : s'.successes = s.successes) (hfailures : s'.failures = s.failures + 1)
    (htotal : s'.total = s.total) : Settled 0 s' where
  terminal i hi := by
    rw [hcreated] at hi
    rw [hframe i hi]
    exact h.terminal i hi
  distinct := hcreated ▸ h.distinct
  completed := by rw [BatchState.completedRuns_congr hcreated hframe, h.completed, hsuccesses]
  counted := by
    have := h.counted
    omega

/-- A cell that created a run and counted how it ended. -/
theorem Settled.extend (h : Settled 1 s) (hcreated : s'.created = s.created ++ [id])
    (hid : id ∉ s.created) (hframe : ∀ i ∈ s.created, s'.table.find i = s.table.find i)
    (hrow : s'.table.find id = some row)
    (hend : (row.run.status = .completed ∧ s'.successes = s.successes + 1 ∧
        s'.failures = s.failures) ∨
      (row.run.status = .failed ∧ s'.successes = s.successes ∧
        s'.failures = s.failures + 1))
    (htotal : s'.total = s.total) : Settled 0 s' where
  terminal i hi := by
    rw [hcreated] at hi
    rcases List.mem_append.mp hi with hi | hi
    · rw [hframe i hi]
      exact h.terminal i hi
    · rw [List.mem_singleton.mp hi]
      exact ⟨row, hrow, hend.imp And.left And.left⟩
  distinct := by
    rw [hcreated]
    exact List.nodup_append.mpr ⟨h.distinct, List.nodup_singleton id, by
      intro i hi j hj
      rw [List.mem_singleton.mp hj]
      exact fun heq => hid (heq ▸ hi)⟩
  completed := by
    rw [BatchState.completedRuns_concat hcreated hframe hrow, h.completed]
    rcases hend with ⟨hstatus, hsuccesses, -⟩ | ⟨hstatus, hsuccesses, -⟩ <;>
      simp [hstatus, hsuccesses]
  counted := by
    have := h.counted
    rcases hend with ⟨-, hsuccesses, hfailures⟩ | ⟨-, hsuccesses, hfailures⟩ <;> omega

end Settled

/-! ## One heuristic cell, alone -/

section HeuristicCell

variable {env : BatchEnv} {args : BatchArgs} {cell : BatchCell} {script : CellScript}
  {s : BatchState}

/-- The cell raises behind the flush of its rows and leaves the transaction open: by
its own code, by a statement, or because the evaluation of no hits is refused. -/
def CellWaits (env : BatchEnv) (args : BatchArgs) (cell : BatchCell) (script : CellScript) :
    Prop :=
  ∃ found, validateRunCreatePrerequisites env.registry env.deps.settings (cell.request args)
      .heuristic = .ok found ∧
    (script.fault = some (.inEvaluation, .program) ∨
      script.fault = some (.inEvaluation, .statement) ∨
      script.fault = none ∧ cellHits env args found script = [])

/-- A flush of the cell fails: its handler reads an expired object and raises. -/
def CellExpires (env : BatchEnv) (args : BatchArgs) (cell : BatchCell) (script : CellScript) :
    Prop :=
  ∃ found, validateRunCreatePrerequisites env.registry env.deps.settings (cell.request args)
      .heuristic = .ok found ∧
    ∃ point, script.fault = some (point, .flush)

/-- The cell costs the session: a statement, a flush or a commit of it fails. -/
def CellBreaks (env : BatchEnv) (args : BatchArgs) (cell : BatchCell) (script : CellScript) :
    Prop :=
  ∃ found, validateRunCreatePrerequisites env.registry env.deps.settings (cell.request args)
      .heuristic = .ok found ∧
    ∃ point fault, script.fault = some (point, fault) ∧ fault ≠ .program

/-- Nothing of an earlier cell is left in the open transaction, and the objects of the
session can be read. -/
structure BatchState.Clean (s : BatchState) : Prop where
  flushed : s.session.flushed = []
  held : s.session.expired = false

theorem BatchState.Clean.congr {s' : BatchState} (h : s.Clean) (hsame : s'.session = s.session) :
    s'.Clean :=
  ⟨hsame ▸ h.flushed, hsame ▸ h.held⟩

/-- The handler of a cell without a run of its own marks nothing, or a run that the
batch did not create. -/
theorem handleCellError_of_settled (cell : BatchCell) (hclean : s.Clean)
    (hterminal : ∀ id ∈ s.created, ∃ row, s.table.find id = some row ∧ row.IsTerminal) :
    handleCellError cell s = s ∨
      ∃ run, run.id ∉ s.created ∧ handleCellError cell s = s.putRun run := by
  rw [handleCellError]
  cases hnewest : s.table.newestOf cell.queryCaseId cell.pipelineConfigId with
  | none => exact Or.inl rfl
  | some runId =>
      obtain ⟨row, hrow, -⟩ := RunsTable.exists_of_newestOf hnewest
      have hfree : runId ∉ s.session.flushed.map Prod.fst := by
        rw [hclean.flushed]
        exact List.not_mem_nil
      by_cases hend : row.run.status = .completed ∨ row.run.status = .failed
      · left
        simp [BatchState.markRunFailed, hrow, hend]
      · refine Or.inr ⟨row.run.apply { status := some .failed }, fun hmem => ?_, ?_⟩
        · obtain ⟨row', hrow', hend'⟩ := hterminal _ hmem
          have hid : row.run.id = runId := RunsTable.id_of_find hrow
          rw [show (row.run.apply { status := some .failed }).id = runId from hid, hrow] at hrow'
          cases hrow'
          exact hend hend'
        · simp [BatchState.markRunFailed, hrow, hend, hfree]

/-- A cell's own running run. -/
structure OwnRun (cell : BatchCell) (s : BatchState) (runId now : ℕ) (metadata : JsonObject) :
    Prop where
  found : s.table.find runId =
    some (newRun runId cell.queryCaseId cell.pipelineConfigId now (some metadata))
  newest : s.table.newestOf cell.queryCaseId cell.pipelineConfigId = some runId

theorem createRun_of_clean (hclean : s.Clean) (now : ℕ) (metadata : JsonObject) :
    s.createRun true cell now metadata = s.addRun cell now metadata := by
  have hcommit : s.commitFlushed = s := by
    have hempty := hclean.flushed
    rw [BatchState.commitFlushed, hempty]
    obtain ⟨table, ⟨flushed, usable, expired⟩, created, writes, total, successes, failures,
      stop⟩ := s
    cases hempty
    rfl
  rw [BatchState.createRun, if_pos rfl, hcommit]

theorem ownRun_addRun (s : BatchState) (cell : BatchCell) (now : ℕ) (metadata : JsonObject) :
    OwnRun cell (s.addRun cell now metadata) s.table.nextId now metadata where
  found := RunsTable.find_insert_self rfl
  newest := RunsTable.newestOf_insert_self (newRun s.table.nextId cell.queryCaseId
    cell.pipelineConfigId now (some metadata)) rfl

/-- What a heuristic cell leaves behind when the batch goes on. -/
structure CellSettled (usable : Prop) (s : BatchState) : Prop where
  settled : Settled 0 s
  clean : s.Clean
  goes_on : s.stop = none
  session : s.session.usable = true ↔ usable

theorem CellSettled.congr {usable usable' : Prop} (h : CellSettled usable s)
    (hsame : usable ↔ usable') : CellSettled usable' s :=
  ⟨h.settled, h.clean, h.goes_on, h.session.trans hsame⟩

theorem BatchState.others_nil (s : BatchState) : s.others [] = s := rfl

/-- A cell that raised and had created no run. -/
theorem cellSettled_of_no_run (h : Settled 1 s) (hclean : s.Clean) (hstop : s.stop = none) :
    CellSettled (s.session.usable = true) (handleCellError cell (s.count false)) := by
  have hterminal : ∀ id ∈ (s.count false).created,
      ∃ row, (s.count false).table.find id = some row ∧ row.IsTerminal := h.terminal
  rcases handleCellError_of_settled (s := s.count false) cell (hclean.congr rfl) hterminal with
    heq | ⟨run, hforeign, heq⟩
  · rw [heq]
    exact ⟨h.keep rfl (fun _ _ => rfl) rfl rfl rfl, hclean.congr rfl, hstop, Iff.rfl⟩
  · rw [heq]
    refine ⟨h.keep rfl (fun i hi => ?_) rfl rfl rfl, hclean.congr rfl, hstop, Iff.rfl⟩
    have hne : i ≠ run.id := fun hsame => hforeign (hsame ▸ hi)
    exact RunsTable.find_putRun_of_ne hne

/-- A cell that raised with its own run committed as running and nothing flushed: the
handler marks that run. -/
theorem cellSettled_of_running {now : ℕ} {metadata : JsonObject} {t : BatchState}
    (h : Settled 1 s) (hown : OwnRun cell t s.table.nextId now metadata)
    (htable : ∀ i ∈ s.created, t.table.find i = s.table.find i)
    (hcreated : t.created = s.created ++ [s.table.nextId]) (hclean : t.Clean)
    (hstop : t.stop = none) (hcounts : t.successes = s.successes ∧ t.failures = s.failures ∧
      t.total = s.total) :
    CellSettled (t.session.usable = true) (handleCellError cell (t.count false)) := by
  have hfree : s.table.nextId ∉ t.session.flushed.map Prod.fst := by
    rw [hclean.flushed]
    exact List.not_mem_nil
  let failed : Run := (createRun s.table.nextId .running (some metadata)).apply
    { status := some .failed }
  have hmark : handleCellError cell (t.count false) = (t.count false).putRun failed := by
    simp [handleCellError, hown.newest, BatchState.markRunFailed, hown.found, newRun, createRun,
      hfree, failed]
  obtain ⟨hsuccesses, hfailures, htotal⟩ := hcounts
  have hfresh : s.table.nextId ∉ s.created := fun hmem => absurd (h.lt_nextId hmem) (by omega)
  rw [hmark]
  refine ⟨h.extend hcreated hfresh (fun i hi => ?_)
    (RunsTable.find_putRun_self failed hown.found) (Or.inr ⟨rfl, hsuccesses, ?_⟩)
    htotal, hclean.congr rfl, hstop, Iff.rfl⟩
  · have hne : i ≠ failed.id := by
      rintro rfl
      exact hfresh hi
    rw [← htable i hi]
    exact RunsTable.find_putRun_of_ne hne
  · exact congrArg (· + 1) hfailures

/-- A cell that raised with its own run locked by the open transaction: the handler
waits. -/
theorem handleCellError_of_locked {now runId : ℕ} {metadata : JsonObject} {t : BatchState}
    (hown : OwnRun cell t runId now metadata)
    (hlocked : runId ∈ t.session.flushed.map Prod.fst) :
    (handleCellError cell (t.count false)).stop = some (.waiting runId) := by
  simp [handleCellError, hown.newest, BatchState.markRunFailed, hown.found, newRun, createRun,
    hlocked]

/-- The evaluation of a cell is refused exactly when the cell has no hits. -/
theorem cellEvaluation_eq (env : BatchEnv) (args : BatchArgs) (script : CellScript)
    (found : QueryCaseTexts × ℕ) (runId : ℕ) (metadata : JsonObject) :
    (cellHits env args found script = [] ∧
      ∃ e, cellEvaluation env args found script
        ((createRun runId .running (some metadata)).apply (cellRetrieval env args found script))
        ((createRun runId .running (some metadata)).apply (cellRetrieval env args found script)) =
          .error e) ∨
    (cellHits env args found script ≠ [] ∧
      ∃ evaluation, cellEvaluation env args found script
        ((createRun runId .running (some metadata)).apply (cellRetrieval env args found script))
        ((createRun runId .running (some metadata)).apply (cellRetrieval env args found script)) =
          .ok evaluation ∧ evaluation.status = some .completed) := by
  generalize hrun : (createRun runId .running (some metadata)).apply
    (cellRetrieval env args found script) = run
  have hstatus : run.status = .retrievalCompleted := by rw [← hrun]; rfl
  have hevaluation : run.evaluationResults = [] := by rw [← hrun]; rfl
  have hrows : run.retrievalResults = [] ↔ cellHits env args found script = [] := by
    rw [← hrun]
    simp [cellRetrieval, createRun, Run.apply, PipelineEnv.retrievalRows]
  -- With noise or without, the scores are the evaluator's and used no judge.
  obtain ⟨scores, hjudge, heq⟩ : ∃ scores : MinimalRetrievalEvalScores,
      scores.usedLlmJudge = false ∧ cellEvaluation env args found script run run =
        completeHeuristicRun run run script.evaluationMs scores := by
    rw [cellEvaluation]
    cases args.realismProfile with
    | none =>
        refine ⟨_, ?_, rfl⟩
        exact computeMinimal_usedLlmJudge _ _ _
    | some profile =>
        refine ⟨_, ?_, rfl⟩
        exact computeMinimal_usedLlmJudge _ _ _
  rw [heq, completeHeuristicRun_eq hstatus hevaluation hjudge]
  by_cases hhits : cellHits env args found script = []
  · left
    rw [if_pos (hrows.mpr hhits)]
    exact ⟨hhits, _, rfl⟩
  · right
    rw [if_neg fun h => hhits (hrows.mp h)]
    exact ⟨hhits, _, rfl, rfl⟩

/-- Committing the rows and the evaluation of a cell's own run completes it. -/
theorem commitFlushed_of_own {now runId : ℕ} {metadata : JsonObject}
    {retrieval evaluation : PendingChanges} (hown : OwnRun cell s runId now metadata)
    (hflushed : s.session.flushed = [(runId, retrieval), (runId, evaluation)])
    (hcompleted : evaluation.status = some .completed) :
    (∃ row, s.commitFlushed.table.find runId = some row ∧ row.run.status = .completed) ∧
      ∀ i, i ≠ runId → s.commitFlushed.table.find i = s.table.find i := by
  let created := createRun runId .running (some metadata)
  let retrieved := created.apply retrieval
  have hretrieved : (s.table.putRun retrieved).find runId = some
      { newRun runId cell.queryCaseId cell.pipelineConfigId now (some metadata) with
        run := retrieved } := RunsTable.find_putRun_self retrieved hown.found
  have hcommit : s.commitFlushed.table =
      (s.table.putRun retrieved).putRun (retrieved.apply evaluation) := by
    simp [BatchState.commitFlushed, hflushed, BatchState.commitChange, hown.found,
      BatchState.putRun, newRun, created, retrieved, hretrieved]
  rw [hcommit]
  constructor
  · refine ⟨_, RunsTable.find_putRun_self (retrieved.apply evaluation) hretrieved, ?_⟩
    simp [Run.apply, hcompleted]
  · intro i hi
    have hne : i ≠ (retrieved.apply evaluation).id := hi
    rw [RunsTable.find_putRun_of_ne hne]
    exact RunsTable.find_putRun_of_ne hi

/-- The part of a cell behind its commit, with its handler. -/
def finishCell (cell : BatchCell) (result : BatchState × Bool) : BatchState :=
  if result.2 then result.1.count true
  else if result.1.session.expired then { result.1 with stop := some (.raised needsRollback) }
  else handleCellError cell (result.1.count false)

/-- A handler that can read its query case. -/
theorem finishCell_of_held {t : BatchState} (hheld : t.session.expired = false) :
    finishCell cell (t, false) = handleCellError cell (t.count false) := by
  simp [finishCell, hheld]

/-- A handler that cannot. -/
theorem finishCell_of_expired {t : BatchState} (hexpired : t.session.expired = true) :
    (finishCell cell (t, false)).stop = some (.raised needsRollback) := by
  simp [finishCell, hexpired]

theorem runHeuristicCell_alone :
    runHeuristicCell env args cell script .none s =
      finishCell cell (executeHeuristicCell env args cell script .none s) := by
  rw [runHeuristicCell, finishCell]
  rcases executeHeuristicCell env args cell script .none s with ⟨s', _ | _⟩ <;> rfl

/-- Raised behind the commit of the run with nothing flushed: the handler marks it. -/
theorem cellSettled_of_raised (cell : BatchCell) (h : Settled 1 s) (hstop : s.stop = none)
    (now : ℕ) (metadata : JsonObject) {session : BatchSession} (hsession : session.flushed = [])
    (hheld : session.expired = false) :
    CellSettled (session.usable = true) (finishCell cell
      ({ s.addRun cell now metadata with session := session }, false)) := by
  have hown := ownRun_addRun s cell now metadata
  have hframe : ∀ i ∈ s.created, (s.addRun cell now metadata).table.find i = s.table.find i :=
    fun i hi => RunsTable.find_insert_of_ne rfl (h.lt_nextId hi).ne
  rw [finishCell_of_held hheld]
  exact cellSettled_of_running (t := { s.addRun cell now metadata with session := session }) h
    ⟨hown.found, hown.newest⟩ hframe rfl ⟨hsession, hheld⟩ hstop ⟨rfl, rfl, rfl⟩

/-- A cell that commits its rows and its evaluation. -/
theorem cellSettled_of_evaluated (cell : BatchCell) (h : Settled 1 s) (hclean : s.Clean)
    (hstop : s.stop = none) (husable : s.session.usable = true) (now : ℕ)
    (metadata : JsonObject) (retrieval : PendingChanges) {evaluation : PendingChanges}
    (hcompleted : evaluation.status = some .completed) :
    CellSettled True ((((s.addRun cell now metadata).flush s.table.nextId retrieval).flush
      s.table.nextId evaluation).commitFlushed.count true) := by
  have hfresh : ∀ i ∈ s.created, i ≠ s.table.nextId := fun i hi => (h.lt_nextId hi).ne
  have hown := ownRun_addRun s cell now metadata
  let t := ((s.addRun cell now metadata).flush s.table.nextId retrieval).flush s.table.nextId
    evaluation
  have hflushed : t.session.flushed =
      [(s.table.nextId, retrieval), (s.table.nextId, evaluation)] := by
    have hempty : s.session.flushed = [] := hclean.flushed
    simp [t, BatchState.flush, BatchState.addRun, hempty]
  obtain ⟨⟨row, hrow, hdone⟩, hothers⟩ := commitFlushed_of_own (s := t)
    ⟨hown.found, hown.newest⟩ hflushed hcompleted
  have hframe : ∀ i ∈ s.created, t.commitFlushed.table.find i = s.table.find i := fun i hi =>
    (hothers i (hfresh i hi)).trans (RunsTable.find_insert_of_ne rfl (hfresh i hi))
  have hsame := commitFlushed_sameBatch t
  exact ⟨h.extend hsame.created (fun hmem => hfresh _ hmem rfl) hframe hrow
    (Or.inl ⟨hdone, congrArg (· + 1) hsame.successes, hsame.failures⟩) hsame.total,
    ⟨rfl, hclean.held⟩,
    hsame.stop.trans hstop, by simpa [BatchState.commitFlushed, BatchState.count, t,
      BatchState.flush, BatchState.addRun] using husable⟩

/-- A cell that commits its own run and then stops the batch: its handler waits, or raises. -/
def CellScript.Stops (script : CellScript) (env : BatchEnv) (args : BatchArgs)
    (found : QueryCaseTexts × ℕ) : Prop :=
  (script.fault = some (.inEvaluation, .program) ∨
      script.fault = some (.inEvaluation, .statement) ∨
      script.fault = none ∧ cellHits env args found script = []) ∨
    ∃ point, script.fault = some (point, .flush)

/-- The part behind the commit of the run settles it, or stops the batch. -/
theorem executeCreatedCell_settles (env : BatchEnv) (cell : BatchCell)
    (hcommit : args.commit = true) (h : Settled 1 s)
    (hclean : s.Clean) (hstop : s.stop = none) (husable : s.session.usable = true)
    (found : QueryCaseTexts × ℕ) (metadata : JsonObject)
    (hcreated : script.faultAt .inCreation = none) :
    (script.Stops env args found ∧
      (finishCell cell (executeCreatedCell env args found script s.table.nextId metadata
        (s.addRun cell script.now metadata))).stop.isSome) ∨
    (¬script.Stops env args found ∧
      CellSettled (¬∃ point fault, script.fault = some (point, fault) ∧ fault ≠ .program)
        (finishCell cell (executeCreatedCell env args found script s.table.nextId metadata
          (s.addRun cell script.now metadata)))) := by
  have hown := ownRun_addRun s cell script.now metadata
  have hmarks := fun (session : BatchSession) (hsession : session.flushed = [])
      (hheld : session.expired = false) =>
    cellSettled_of_raised cell h hstop script.now metadata hsession hheld
  -- A handler that waits for a row of the cell's own transaction.
  have hwaits : ∀ t : BatchState, t.table = (s.addRun cell script.now metadata).table →
      t.session.expired = false → s.table.nextId ∈ t.session.flushed.map Prod.fst →
        (finishCell cell (t, false)).stop.isSome := by
    intro t htable hheld hlocked
    have hown : OwnRun cell t s.table.nextId script.now metadata :=
      ⟨htable ▸ hown.found, htable ▸ hown.newest⟩
    rw [finishCell_of_held hheld, handleCellError_of_locked hown hlocked]
    rfl
  rcases hfault : script.fault with _ | ⟨point, fault⟩
  · have hnone : ∀ point, script.faultAt point = none := fun point => by
      simp [CellScript.faultAt, hfault]
    have hseen : ((s.addRun cell script.now metadata).table.find s.table.nextId).map
        StoredRun.run = some (createRun s.table.nextId .running (some metadata)) := by
      rw [hown.found]
      rfl
    simp only [executeCreatedCell, hnone, hseen, Option.getD_some]
    rcases cellEvaluation_eq env args script found s.table.nextId metadata with
      ⟨hhits, e, heval⟩ | ⟨hhits, evaluation, heval, hcompleted⟩
    · left
      simp only [heval]
      exact ⟨Or.inl (Or.inr (Or.inr ⟨hfault, hhits⟩)),
        hwaits _ rfl hclean.held (by simp [BatchState.flush])⟩
    · right
      refine ⟨by simp [CellScript.Stops, hfault, hhits], ?_⟩
      simp only [heval, hcommit, finishCell, if_true]
      refine (cellSettled_of_evaluated cell h hclean hstop husable script.now metadata _
        hcompleted).congr ?_
      simp
  · cases point with
    | inCreation => simp [CellScript.faultAt, hfault] at hcreated
    | inRetrieval =>
        have hat : script.faultAt .inRetrieval = some fault := by
          simp [CellScript.faultAt, hfault]
        simp only [executeCreatedCell, hat]
        cases fault with
        | program =>
            exact Or.inr ⟨by simp [CellScript.Stops, hfault],
              (hmarks s.session hclean.flushed hclean.held).congr (by simpa using husable)⟩
        | statement =>
            exact Or.inr ⟨by simp [CellScript.Stops, hfault],
              (hmarks { s.session with usable := false } hclean.flushed hclean.held).congr
                (by simp)⟩
        | flush =>
            left
            refine ⟨Or.inr ⟨_, hfault⟩, ?_⟩
            rw [finishCell_of_expired rfl]
            rfl
        | commit =>
            exact Or.inr ⟨by simp [CellScript.Stops, hfault],
              (hmarks { s.session with flushed := [], usable := false } rfl hclean.held).congr
                (by simp)⟩
    | inEvaluation =>
        have hearly : script.faultAt .inRetrieval = none := by
          simp [CellScript.faultAt, hfault]
        have hat : script.faultAt .inEvaluation = some fault := by
          simp [CellScript.faultAt, hfault]
        simp only [executeCreatedCell, hearly, hat]
        cases fault with
        | program =>
            exact Or.inl ⟨Or.inl (Or.inl hfault),
              hwaits _ rfl hclean.held (by simp [BatchState.flush, BatchState.afterFault])⟩
        | statement =>
            exact Or.inl ⟨Or.inl (Or.inr (Or.inl hfault)),
              hwaits _ rfl hclean.held (by simp [BatchState.flush, BatchState.afterFault])⟩
        | flush =>
            left
            refine ⟨Or.inr ⟨_, hfault⟩, ?_⟩
            rw [finishCell_of_expired rfl]
            rfl
        | commit =>
            exact Or.inr ⟨by simp [CellScript.Stops, hfault],
              (hmarks { s.session with flushed := [], usable := false } rfl hclean.held).congr
                (by simp)⟩

/-! ### A fault in the creation of the run -/

theorem CellScript.faultAt_eq_some {point : CellPoint} {fault : CellFault}
    (h : script.faultAt point = some fault) : script.fault = some (point, fault) := by
  unfold CellScript.faultAt at h
  split at h
  · rename_i at' fault' hscript
    split_ifs at h with hpoint
    rw [hscript, hpoint, Option.some.inj h]
  · cases h

theorem Settled.afterFault {pending : ℕ} (h : Settled pending s) (fault : CellFault) :
    Settled pending (s.afterFault fault) := by
  cases fault <;> exact ⟨h.terminal, h.distinct, h.completed, h.counted⟩

theorem BatchState.Clean.afterFault (h : s.Clean) {fault : CellFault} (hfault : fault ≠ .flush) :
    (s.afterFault fault).Clean := by
  cases fault with
  | program | statement => exact ⟨h.flushed, h.held⟩
  | commit => exact ⟨rfl, h.held⟩
  | flush => exact absurd rfl hfault

theorem BatchState.stop_afterFault (s : BatchState) (fault : CellFault) :
    (s.afterFault fault).stop = s.stop := by
  cases fault <;> rfl

/-- **One heuristic cell.**  It stops the batch, or it leaves it settled. -/
theorem runHeuristicCell_settles (env : BatchEnv) (cell : BatchCell) (script : CellScript)
    (hcommit : args.commit = true) (h : Settled 1 s)
    (hclean : s.Clean) (hstop : s.stop = none) :
    ((s.session.usable = true ∧ (CellWaits env args cell script ∨
        CellExpires env args cell script)) ∧
      (runHeuristicCell env args cell script .none s).stop.isSome) ∨
    (¬(s.session.usable = true ∧ (CellWaits env args cell script ∨
        CellExpires env args cell script)) ∧
      CellSettled (s.session.usable = true ∧ ¬CellBreaks env args cell script)
        (runHeuristicCell env args cell script .none s)) := by
  rw [runHeuristicCell_alone]
  by_cases husable : s.session.usable = true
  · cases hvalid : validateRunCreatePrerequisites env.registry env.deps.settings
        (cell.request args) .heuristic with
    | error e =>
        right
        have hcell : executeHeuristicCell env args cell script .none s = (s, false) := by
          simp [executeHeuristicCell, husable, hvalid]
        rw [hcell, finishCell_of_held hclean.held]
        exact ⟨by simp [CellWaits, CellExpires, hvalid],
          (cellSettled_of_no_run h hclean hstop).congr (by simp [CellBreaks, hvalid])⟩
    | ok found =>
        have hstops : (CellWaits env args cell script ∨ CellExpires env args cell script) ↔
            script.Stops env args found := by
          unfold CellWaits CellExpires CellScript.Stops
          simp [hvalid]
        cases hat : script.faultAt .inCreation with
        | some fault =>
            have hcell : executeHeuristicCell env args cell script .none s =
                (s.afterFault fault, false) := by
              simp [executeHeuristicCell, husable, hvalid, hat]
            have hfault := CellScript.faultAt_eq_some hat
            rw [hcell]
            by_cases hflush : fault = .flush
            · left
              rw [hflush] at hfault ⊢
              rw [finishCell_of_expired rfl]
              exact ⟨⟨husable, Or.inr ⟨found, hvalid, _, hfault⟩⟩, rfl⟩
            · right
              have hclean' := hclean.afterFault hflush
              rw [finishCell_of_held hclean'.held]
              refine ⟨by simp [hstops, CellScript.Stops, hfault, hflush], ?_⟩
              have hstop' := (BatchState.stop_afterFault s fault).trans hstop
              refine (cellSettled_of_no_run (h.afterFault fault) hclean' hstop').congr ?_
              cases fault <;> simp [CellBreaks, hvalid, hfault, husable, BatchState.afterFault]
        | none =>
            let metadata := heuristicCellMetadata args.realismProfile
              (batchRunMetadata env args .heuristic cell)
            have hcell : executeHeuristicCell env args cell script .none s =
                executeCreatedCell env args found script s.table.nextId metadata
                  (s.addRun cell script.now metadata) := by
              simp [executeHeuristicCell, husable, hvalid, hat, hcommit,
                createRun_of_clean hclean, Interference.none, BatchState.others_nil, metadata]
            rw [hcell, hstops]
            rcases executeCreatedCell_settles env cell hcommit h hclean hstop
              husable found metadata hat with ⟨hwaits, hend⟩ | ⟨hwaits, hend⟩
            · exact Or.inl ⟨⟨husable, hwaits⟩, hend⟩
            · exact Or.inr ⟨fun hno => hwaits hno.2,
                hend.congr (by simp [CellBreaks, hvalid, husable])⟩
  · right
    have hcell : executeHeuristicCell env args cell script .none s = (s, false) := by
      simp [executeHeuristicCell, husable]
    rw [hcell, finishCell_of_held hclean.held]
    exact ⟨by simp [husable],
      (cellSettled_of_no_run h hclean hstop).congr (by simp [husable])⟩

end HeuristicCell

/-! ## One LLM cell, alone -/

section LlmCell

variable {env : BatchEnv} {args : BatchArgs} {et : BatchEvaluator} {cell : BatchCell}
  {script : CellScript} {s s' : BatchState} {pending : ℕ}

/-- The cell settles the run it creates: the pipeline handles what cuts it short, and
the verdict is read unless it would be `completed`. -/
def LlmCellSettles (env : BatchEnv) (args : BatchArgs) (cell : BatchCell)
    (script : CellScript) : Prop :=
  match validateRunCreatePrerequisites env.registry env.deps.settings (cell.request args)
      .full with
  | .error (.fullModeNotConfigured _) => False
  | .error _ => True
  | .ok found =>
      script.faultAt .inCreation = none →
        script.PipelineHandles (env.deps.forRun found) args.documentId ∧
          (script.finalReadFails = true →
            ¬script.PipelineCompletes (env.deps.forRun found) args.documentId)

/-- What an LLM cell does to a batch. -/
inductive LlmCellEffect (env : BatchEnv) (args : BatchArgs) (cell : BatchCell)
    (script : CellScript) (s : BatchState) : BatchState → Prop
  | not_configured (error : RunCreateError) (hsettles : ¬LlmCellSettles env args cell script) :
      LlmCellEffect env args cell script s { s with stop := some (.raised error) }
  | no_run (hsettles : LlmCellSettles env args cell script) :
      LlmCellEffect env args cell script s (s.count false)
  | own_run (now : ℕ) (metadata : JsonObject) (run : Run) (ok : Bool)
      (hid : run.id = s.table.nextId) (hok : ok = true → run.status = .completed)
      (hsettles : LlmCellSettles env args cell script ↔
        (run.status = .completed ∨ run.status = .failed) ∧
          (run.status = .completed → ok = true)) :
      LlmCellEffect env args cell script s
        (((s.addRun cell now metadata).putRun run).count ok)

theorem runLlmCell_effect (env : BatchEnv) (args : BatchArgs) (et : BatchEvaluator)
    (cell : BatchCell) (script : CellScript) (s : BatchState) :
    LlmCellEffect env args cell script s (runLlmCell env args et cell script .none s) := by
  rw [runLlmCell, executeLlmCell]
  cases hvalid : validateRunCreatePrerequisites env.registry env.deps.settings
      (cell.request args) .full with
  | error e =>
      cases e with
      | fullModeNotConfigured message => exact .not_configured _ (by simp [LlmCellSettles, hvalid])
      | queryCaseNotFound id => exact .no_run (by simp [LlmCellSettles, hvalid])
      | pipelineConfigNotFound id => exact .no_run (by simp [LlmCellSettles, hvalid])
      | documentNotFound id => exact .no_run (by simp [LlmCellSettles, hvalid])
      | raised e => exact .no_run (by simp [LlmCellSettles, hvalid])
  | ok found =>
      cases hat : script.faultAt .inCreation with
      | some fault => exact .no_run (by simp [LlmCellSettles, hvalid, hat])
      | none =>
          let metadata := llmCellMetadata (et = .llmHybrid) (batchRunMetadata env args et cell)
          have hend := pipelineEnd script (env.deps.forRun found) args.documentId
            s.table.nextId (some metadata)
          have hid := runFullBenchmarkPipeline_id (env.deps.forRun found) script.attempt
            args.documentId (createRun s.table.nextId .running (some metadata))
          have hsettles : LlmCellSettles env args cell script ↔
              script.PipelineHandles (env.deps.forRun found) args.documentId ∧
                (script.finalReadFails = true →
                  ¬script.PipelineCompletes (env.deps.forRun found) args.documentId) := by
            simp [LlmCellSettles, hvalid, hat]
          simp only [Option.isSome_none]
          generalize runFullBenchmarkPipeline (env.deps.forRun found) script.attempt
            args.documentId (createRun s.table.nextId .running (some metadata)) = result
            at hend hid
          -- A run the pipeline has handled is terminal; its verdict may still be lost.
          have hhandled : script.PipelineHandles (env.deps.forRun found) args.documentId →
              LlmCellEffect env args cell script s
                (((s.addRun cell script.now metadata).putRun result.run).count
                  (!script.finalReadFails && decide (result.run.status = .completed))) := by
            intro hhandles
            have hterminal := hend.terminal hhandles
            refine .own_run _ _ _ _ hid (fun hok => by simpa using (Bool.and_eq_true_iff.mp hok).2)
              ?_
            rw [hsettles, ← hend.completed]
            by_cases hread : script.finalReadFails = true <;> simp [hread, hhandles, hterminal]
          obtain ⟨run, outcome, log⟩ := result
          cases outcome with
          | raised e =>
              have hno : ¬script.PipelineHandles (env.deps.forRun found) args.documentId := by
                rw [← hend.handled]
                simp
              have hfailed := hend.unmarked hno
              exact .own_run _ _ run false hid (by simp) (by
                rw [hsettles]
                simp only [hno, false_and, false_iff, not_and]
                rintro (hdone | hdone) hlost
                · exact absurd (hlost hdone) (by simp)
                · exact hfailed hdone)
          | killed => exact absurd rfl hend.not_killed
          | finished =>
              have heffect := hhandled (hend.handled.mp (Or.inl rfl))
              by_cases hread : script.finalReadFails = true <;>
                simpa [hread, Interference.none, BatchState.others_nil, metadata] using heffect
          | markedFailed e =>
              have heffect := hhandled (hend.handled.mp (Or.inr ⟨e, rfl⟩))
              by_cases hread : script.finalReadFails = true <;>
                simpa [hread, Interference.none, BatchState.others_nil, metadata] using heffect

/-- Every created run has a row and no success is counted for a run that is not
completed. -/
structure Counted (pending : ℕ) (s : BatchState) : Prop where
  stored : ∀ id ∈ s.created, ∃ row, s.table.find id = some row
  distinct : s.created.Nodup
  successes_le : s.successes ≤ s.completedRuns
  counted : s.successes + s.failures + pending = s.total

/-- A run that the batch leaves behind: not terminal, or completed and not counted. -/
def BatchState.LeavesBehind (s : BatchState) : Prop :=
  (∃ id ∈ s.created, ∃ row, s.table.find id = some row ∧ ¬row.IsTerminal) ∨
    s.successes < s.completedRuns

theorem settled_iff : Settled pending s ↔ Counted pending s ∧ ¬s.LeavesBehind := by
  constructor
  · intro h
    refine ⟨⟨fun id hid => ?_, h.distinct, h.completed.ge, h.counted⟩, ?_⟩
    · obtain ⟨row, hrow, -⟩ := h.terminal id hid
      exact ⟨row, hrow⟩
    · rintro (⟨id, hid, row, hrow, hopen⟩ | hlt)
      · obtain ⟨row', hrow', hend⟩ := h.terminal id hid
        rw [hrow] at hrow'
        cases hrow'
        exact hopen hend
      · exact absurd h.completed (by omega)
  · rintro ⟨h, hnone⟩
    refine ⟨fun id hid => ?_, h.distinct, ?_, h.counted⟩
    · obtain ⟨row, hrow⟩ := h.stored id hid
      refine ⟨row, hrow, ?_⟩
      by_contra hopen
      exact hnone (Or.inl ⟨id, hid, row, hrow, hopen⟩)
    · by_contra hne
      exact hnone (Or.inr (by have := h.successes_le; omega))

/-- With a further run, the open ones are those of before and possibly the new one. -/
theorem exists_open_concat {runId : ℕ} {row : StoredRun}
    (hcreated : s'.created = s.created ++ [runId])
    (hframe : ∀ i ∈ s.created, s'.table.find i = s.table.find i)
    (hrow : s'.table.find runId = some row) :
    (∃ i ∈ s'.created, ∃ row, s'.table.find i = some row ∧ ¬row.IsTerminal) ↔
      (∃ i ∈ s.created, ∃ row, s.table.find i = some row ∧ ¬row.IsTerminal) ∨
        ¬row.IsTerminal := by
  rw [hcreated]
  constructor
  · rintro ⟨i, hi, row', hfind, hopen⟩
    rcases List.mem_append.mp hi with hi | hi
    · exact Or.inl ⟨i, hi, row', hframe i hi ▸ hfind, hopen⟩
    · rw [List.mem_singleton.mp hi, hrow] at hfind
      cases hfind
      exact Or.inr hopen
  · rintro (⟨i, hi, row', hfind, hopen⟩ | hopen)
    · exact ⟨i, List.mem_append_left _ hi, row', (hframe i hi).trans hfind, hopen⟩
    · exact ⟨runId, List.mem_append_right _ (List.mem_singleton_self _), row, hrow, hopen⟩

/-- **One LLM cell.**  Unless it stops the batch it leaves nothing behind exactly when
it settles and nothing was left behind before. -/
theorem LlmCellEffect.leavesBehind (heffect : LlmCellEffect env args cell script s s')
    (h : Counted 1 s) (hstop : s.stop = none) :
    (s'.stop.isSome ∧ ¬LlmCellSettles env args cell script) ∨
      (s'.stop = none ∧ Counted 0 s' ∧
        (¬s'.LeavesBehind ↔ ¬s.LeavesBehind ∧ LlmCellSettles env args cell script)) := by
  cases heffect with
  | not_configured error hsettles => exact Or.inl ⟨rfl, hsettles⟩
  | no_run hsettles =>
      have hcounted : Counted 0 (s.count false) :=
        ⟨h.stored, h.distinct, h.successes_le, by
          have := h.counted
          change s.successes + (s.failures + 1) + 0 = s.total
          omega⟩
      exact Or.inr ⟨hstop, hcounted, by simp [hsettles]; rfl⟩
  | own_run now metadata run ok hid hok hsettles =>
      right
      have hfresh : ∀ i ∈ s.created, i ≠ s.table.nextId := fun i hi => by
        obtain ⟨row, hrow⟩ := h.stored i hi
        exact (RunsTable.lt_nextId_of_find hrow).ne
      have hframe : ∀ i ∈ s.created, (((s.addRun cell now metadata).putRun run).count
          ok).table.find i = s.table.find i := fun i hi => by
        have hne := hfresh i hi
        have hother : i ≠ run.id := hid ▸ hne
        rw [BatchState.count_table]
        exact (RunsTable.find_putRun_of_ne hother).trans (RunsTable.find_insert_of_ne rfl hne)
      have hrow : (((s.addRun cell now metadata).putRun run).count ok).table.find
          s.table.nextId = some { newRun s.table.nextId cell.queryCaseId cell.pipelineConfigId
            now (some metadata) with run := run } := by
        rw [BatchState.count_table, ← hid]
        exact RunsTable.find_putRun_self run
          (by rw [hid]; exact (ownRun_addRun s cell now metadata).found)
      have hcreated : (((s.addRun cell now metadata).putRun run).count ok).created =
          s.created ++ [s.table.nextId] := BatchState.count_created _ _
      have hcompleted := BatchState.completedRuns_concat hcreated hframe hrow
      have hsuccesses : (((s.addRun cell now metadata).putRun run).count ok).successes =
          s.successes + if ok then 1 else 0 := by cases ok <;> rfl
      have hfailures : (((s.addRun cell now metadata).putRun run).count ok).failures =
          s.failures + if ok then 0 else 1 := by cases ok <;> rfl
      have htotal : (((s.addRun cell now metadata).putRun run).count ok).total = s.total :=
        BatchState.count_total _ _
      have hle := h.successes_le
      have hcounted := h.counted
      have hopen : _ ↔ _ ∨ ¬(run.status = .completed ∨ run.status = .failed) :=
        exists_open_concat hcreated hframe hrow
      refine ⟨by rw [BatchState.count_stop]; exact hstop,
        ⟨fun i hi => ?_, ?_, ?_, ?_⟩, ?_⟩
      · rw [hcreated] at hi
        rcases List.mem_append.mp hi with hi | hi
        · rw [hframe i hi]
          exact h.stored i hi
        · exact ⟨_, List.mem_singleton.mp hi ▸ hrow⟩
      · rw [hcreated]
        exact List.nodup_append.mpr ⟨h.distinct, List.nodup_singleton _, fun i hi j hj => by
          rw [List.mem_singleton.mp hj]
          exact hfresh i hi⟩
      · rw [hcompleted, hsuccesses]
        cases ok with
        | true => simpa [hok rfl] using hle
        | false => exact le_trans hle (Nat.le_add_right _ _)
      · rw [hsuccesses, hfailures, htotal]
        cases ok with
        | true => exact (by omega : s.successes + 1 + s.failures + 0 = s.total)
        | false => exact (by omega : s.successes + (s.failures + 1) + 0 = s.total)
      · rw [BatchState.LeavesBehind, hopen, hcompleted, hsuccesses, hsettles,
          BatchState.LeavesBehind]
        by_cases hdone : run.status = .completed
        · cases ok with
          | true => simp [hdone]
          | false => simp [hdone]; omega
        · have hno : ok = false := by
            cases ok with
            | true => exact absurd (hok rfl) hdone
            | false => rfl
          simp [hdone, hno]
          exact and_right_comm

theorem LlmCellEffect.session (heffect : LlmCellEffect env args cell script s s') :
    s'.session = s.session := by
  cases heffect with
  | not_configured error hsettles => rfl
  | no_run hsettles => rfl
  | own_run now metadata run ok hid hok hsettles =>
      rw [BatchState.count_session]
      rfl

end LlmCell

/-! ## The whole batch -/

section Batch

variable {env : BatchEnv} {args : BatchArgs} {et : BatchEvaluator} {s : BatchState}
  {actions : List BatchAction}

/-- The steps of a heuristic batch go through, from a session that is usable or not: no
cell waits and no flush fails while the session takes statements, and it takes them whenever
the query cases of a dataset are loaded. -/
def HeuristicStepsSettle (env : BatchEnv) (args : BatchArgs) : Prop → List BatchAction → Prop
  | _, [] => True
  | usable, action :: actions =>
      match action.step with
      | .loadQueryCases _ => usable ∧ HeuristicStepsSettle env args usable actions
      | .cell cell =>
          ¬(usable ∧ (CellWaits env args cell action.script ∨
              CellExpires env args cell action.script)) ∧
            HeuristicStepsSettle env args (usable ∧ ¬CellBreaks env args cell action.script)
              actions

/-- Every cell of an LLM batch settles its run. -/
def LlmStepsSettle (env : BatchEnv) (args : BatchArgs) (actions : List BatchAction) : Prop :=
  ∀ action ∈ actions, ∀ cell, action.step = .cell cell →
    LlmCellSettles env args cell action.script

theorem foldl_runBatchStep_of_stopped (hstop : s.stop.isSome) :
    actions.foldl (runBatchStep env args et) s = s := by
  induction actions with
  | nil => rfl
  | cons action actions ih =>
      rw [List.foldl_cons, runBatchStep, if_pos hstop]
      exact ih

/-- A heuristic batch goes through and settles its runs, or it stops. -/
theorem heuristicSteps_settle (env : BatchEnv) (hcommit : args.commit = true)
    (halone : ∀ action ∈ actions, action.others = .none) {usable : Prop}
    (h : CellSettled usable s) :
    (HeuristicStepsSettle env args usable actions ∧
      ∃ usable', CellSettled usable' (actions.foldl (runBatchStep env args .heuristic) s)) ∨
    (¬HeuristicStepsSettle env args usable actions ∧
      (actions.foldl (runBatchStep env args .heuristic) s).stop.isSome) := by
  induction actions generalizing s usable with
  | nil => exact Or.inl ⟨trivial, usable, h⟩
  | cons action actions ih =>
      have hrest : ∀ action ∈ actions, action.others = .none := fun other hother =>
        halone other (List.mem_cons_of_mem _ hother)
      have hnone : action.others = .none := halone action List.mem_cons_self
      have hgo : s.stop.isSome = false := by rw [h.goes_on]; rfl
      rw [List.foldl_cons]
      cases hstep : action.step with
      | loadQueryCases datasetId =>
          simp only [HeuristicStepsSettle, hstep]
          by_cases husable : usable
          · have hsame : runBatchStep env args .heuristic s action = s := by
              simp [runBatchStep, hgo, hnone, hstep, Interference.none, BatchState.others_nil,
                h.session.mpr husable]
            rw [hsame]
            simpa [husable] using ih hrest h
          · have hstopped : (runBatchStep env args .heuristic s action).stop.isSome := by
              have hunusable : s.session.usable = false := by
                simpa [husable] using h.session
              simp [runBatchStep, hgo, hnone, hstep, Interference.none, BatchState.others_nil,
                hunusable]
            rw [foldl_runBatchStep_of_stopped hstopped]
            exact Or.inr ⟨fun hno => husable hno.1, hstopped⟩
      | cell cell =>
          have hone : runBatchStep env args .heuristic s action =
              runHeuristicCell env args cell action.script .none
                { s with total := s.total + 1 } := by
            simp [runBatchStep, hgo, hnone, hstep, Interference.none, BatchState.others_nil]
          have hpending : Settled 1 { s with total := s.total + 1 } :=
            ⟨h.settled.terminal, h.settled.distinct, h.settled.completed,
              congrArg (· + 1) h.settled.counted⟩
          simp only [HeuristicStepsSettle, hstep]
          rw [hone, ← h.session]
          rcases runHeuristicCell_settles env cell action.script
            hcommit hpending ⟨h.clean.flushed, h.clean.held⟩ h.goes_on with
            ⟨hwaits, hstopped⟩ | ⟨hwaits, hsettled⟩
          · right
            rw [foldl_runBatchStep_of_stopped hstopped]
            exact ⟨fun hno => hno.1 hwaits, hstopped⟩
          · rcases ih hrest hsettled with ⟨hgoes, hend⟩ | ⟨hgoes, hend⟩
            · exact Or.inl ⟨⟨hwaits, hgoes⟩, hend⟩
            · exact Or.inr ⟨fun hno => hgoes hno.2, hend⟩

theorem llmStepsSettle_cons {action : BatchAction} :
    LlmStepsSettle env args (action :: actions) ↔
      (∀ cell, action.step = .cell cell → LlmCellSettles env args cell action.script) ∧
        LlmStepsSettle env args actions := by
  rw [LlmStepsSettle, List.forall_mem_cons]
  rfl

/-- An LLM batch stops at a cell that does not settle, or goes through and leaves a run
behind exactly when some cell does not settle. -/
theorem llmSteps_settle (env : BatchEnv) (args : BatchArgs) (het : et ≠ .heuristic)
    (halone : ∀ action ∈ actions, action.others = .none) (h : Counted 0 s)
    (hstop : s.stop = none) (husable : s.session.usable = true) :
    ((actions.foldl (runBatchStep env args et) s).stop.isSome ∧
        ¬LlmStepsSettle env args actions) ∨
      ((actions.foldl (runBatchStep env args et) s).stop = none ∧
        Counted 0 (actions.foldl (runBatchStep env args et) s) ∧
        (¬(actions.foldl (runBatchStep env args et) s).LeavesBehind ↔
          ¬s.LeavesBehind ∧ LlmStepsSettle env args actions)) := by
  induction actions generalizing s with
  | nil => exact Or.inr ⟨hstop, h, by simp [LlmStepsSettle]⟩
  | cons action actions ih =>
      have hrest : ∀ action ∈ actions, action.others = .none := fun other hother =>
        halone other (List.mem_cons_of_mem _ hother)
      have hnone : action.others = .none := halone action List.mem_cons_self
      have hgo : s.stop.isSome = false := by rw [hstop]; rfl
      rw [List.foldl_cons, llmStepsSettle_cons]
      cases hstep : action.step with
      | loadQueryCases datasetId =>
          have hsame : runBatchStep env args et s action = s := by
            simp [runBatchStep, hgo, hnone, hstep, Interference.none, BatchState.others_nil,
              husable]
          rw [hsame]
          simpa using ih hrest h hstop husable
      | cell cell =>
          have hone : runBatchStep env args et s action =
              runLlmCell env args et cell action.script .none { s with total := s.total + 1 } := by
            cases et with
            | heuristic => exact absurd rfl het
            | llm =>
                simp [runBatchStep, hgo, hnone, hstep, Interference.none, BatchState.others_nil]
            | llmHybrid =>
                simp [runBatchStep, hgo, hnone, hstep, Interference.none, BatchState.others_nil]
          have hpending : Counted 1 { s with total := s.total + 1 } :=
            ⟨h.stored, h.distinct, h.successes_le, congrArg (· + 1) h.counted⟩
          have heffect := runLlmCell_effect env args et cell action.script
            { s with total := s.total + 1 }
          have hsession := heffect.session
          have hbehind : BatchState.LeavesBehind { s with total := s.total + 1 } ↔
              s.LeavesBehind := Iff.rfl
          rw [hone]
          simp only [BatchStep.cell.injEq, forall_eq']
          rcases heffect.leavesBehind hpending hstop with
            ⟨hstopped, hno⟩ | ⟨hgoes, hcounted, hleft⟩
          · rw [foldl_runBatchStep_of_stopped hstopped]
            exact Or.inl ⟨hstopped, fun hall => hno hall.1⟩
          · rw [hbehind] at hleft
            rcases ih hrest hcounted hgoes (by rw [hsession]; exact husable) with
              ⟨hstopped, hno⟩ | ⟨hgoes', hcounted', hleft'⟩
            · exact Or.inl ⟨hstopped, fun hall => hno hall.2⟩
            · exact Or.inr ⟨hgoes', hcounted', by rw [hleft', hleft, and_assoc]⟩

/-- What a batch owes: it returns, every run it created is terminal, and its counters
agree with the statuses and with the cells. -/
def BatchSettles (ended : BatchState × BatchOutcome) : Prop :=
  ∃ result, ended.2 = .returned result ∧
    (∀ id ∈ ended.1.created, ∃ row, ended.1.table.find id = some row ∧ row.IsTerminal) ∧
    ended.1.completedRuns = result.successes ∧
    result.successes + result.failures = result.totalRuns

/-- When it does. -/
def BatchCellsSettle (env : BatchEnv) (args : BatchArgs) (scripts : ℕ → CellScript) : Prop :=
  match validateBatchArgs args with
  | .error _ => False
  | .ok .heuristic =>
      HeuristicStepsSettle env args True (batchActions env args scripts fun _ => .none)
  | .ok _ => LlmStepsSettle env args (batchActions env args scripts fun _ => .none)

/-- Over a final state, what is owed is that the batch did not stop and is settled. -/
theorem batchSettles_iff_settled {ended : BatchState} {batchId : String} {successRate : ℚ}
    (hdistinct : ended.created.Nodup) :
    BatchSettles (ended, .returned
        { batchId := batchId
          totalRuns := ended.total
          failures := ended.failures
          successes := ended.successes
          successRate := successRate }) ↔ Settled 0 ended := by
  constructor
  · rintro ⟨result, hresult, hterminal, hcompleted, hcounted⟩
    cases hresult
    exact ⟨hterminal, hdistinct, hcompleted, hcounted⟩
  · intro h
    exact ⟨_, rfl, h.terminal, h.completed, h.counted⟩

end Batch

end ContextLens
