import ContextLens.PipelinePhases

/-!
# One invocation of the full pipeline

`run_full_benchmark_pipeline` and the two failure markings of
`app/services/run_create.py`.

An invocation meets the world through an `Attempt`: where it is cut short, if it
is, and by what; how long each phase takes; and whether the failure marking
reaches the database.  A cut is one of two kinds.  An exception travels through
the handlers of the source; a kill (a stopped or lost worker) does not.  It
falls before the phases, inside the block of a phase — its session is then
rolled back — or between that block and the next.

Besides the committed run an invocation returns the phases it executed.  An
entry is made when the body of a phase is entered, hence no later than the call
to the search, to the model or to the judge, and it says whether the phase was
committed.
-/

namespace ContextLens

/-! ## Phases -/

/-- The phases in pipeline order. -/
inductive Phase
  | retrieval
  | generation
  | judge
  deriving DecidableEq, Repr

namespace Phase

/-- The status in which the pipeline enters a phase. -/
def prerequisite : Phase → RunStatus
  | retrieval => .running
  | generation => .retrievalCompleted
  | judge => .generationCompleted

/-- The status a phase leaves. -/
def completion : Phase → RunStatus
  | retrieval => .retrievalCompleted
  | generation => .generationCompleted
  | judge => .completed

/-- What the body of a phase leaves pending. -/
def execute (env : PipelineEnv) (documentId : Option ℕ) (elapsedMs : ℕ)
    (loaded committed : Run) : Phase → Except PyException PendingChanges
  | retrieval => .ok (env.executeRetrievalForExistingRun documentId elapsedMs)
  | generation => env.executeGenerationForRun loaded committed elapsedMs
  | judge => env.executeLlmJudgeAndCompleteRun loaded committed elapsedMs

/-- All three, in order. -/
def all : List Phase := [retrieval, generation, judge]

end Phase

/-! ## Failure marking -/

/-- What a failure marking leaves pending after it has loaded the run: nothing on
a completed run, and nothing when the column already says `failed`. -/
def markFailedChanges (loaded : Run) : PendingChanges :=
  if loaded.status = .completed ∨ loaded.status = .failed then {}
  else { status := some .failed }

/-- `_mark_run_failed_safe`. -/
def markRunFailedSafe (run : Run) : Run := run.apply (markFailedChanges run)

/-- `mark_run_failed_sync`: the same from the callback of the queue, which
swallows every error; `reachesDatabase` says whether there was one. -/
def markRunFailedSync (reachesDatabase : Bool) (run : Run) : Run :=
  if reachesDatabase then run.apply (markFailedChanges run) else run

/-! ## Attempts -/

/-- What cuts an invocation short. -/
inductive Interruption
  | raised (exception : PyException)
  | killed
  deriving DecidableEq, Repr

/-- Where an invocation is cut short. -/
inductive AbortPoint
  | atStart
  | inPhase (phase : Phase)
  | afterCommit (phase : Phase)
  deriving DecidableEq, Repr

/-- The circumstances of one invocation. -/
structure Attempt where
  abort : Option (AbortPoint × Interruption)
  elapsedMs : Phase → ℕ
  marks : Bool

/-- The interruption that the attempt holds for a point. -/
def Attempt.abortAt (attempt : Attempt) (point : AbortPoint) : Option Interruption :=
  match attempt.abort with
  | some (at', interruption) => if at' = point then some interruption else none
  | none => none

/-- A phase whose body was entered. -/
structure Execution where
  phase : Phase
  documentId : Option ℕ
  committed : Bool
  deriving DecidableEq, Repr

/-- The committed run and what was executed so far. -/
structure Progress where
  run : Run
  log : List Execution

/-- The log with one more entry. -/
def Progress.entered (s : Progress) (phase : Phase) (documentId : Option ℕ)
    (committed : Bool) : List Execution :=
  s.log ++ [{ phase := phase, documentId := documentId, committed := committed }]

theorem Progress.mem_entered {s : Progress} {phase : Phase} {documentId : Option ℕ}
    {committed : Bool} {x : Execution} :
    x ∈ s.entered phase documentId committed ↔
      x ∈ s.log ∨ x = { phase := phase, documentId := documentId, committed := committed } := by
  rw [Progress.entered, List.mem_append, List.mem_singleton]

section

variable (env : PipelineEnv) (attempt : Attempt) (documentId : Option ℕ)

/-- The body of a phase and its commit, with nothing in between. -/
def commitPhase (phase : Phase) (run : Run) : Except PyException Run := do
  let changes ← phase.execute env documentId (attempt.elapsedMs phase) run run
  run.commit changes

/-- One `async with` block of the pipeline. -/
def runPhase (phase : Phase) (s : Progress) : Progress × Option Interruption :=
  let due := s.run.status = phase.prerequisite
  match attempt.abortAt (.inPhase phase) with
  -- The session of the block is rolled back, the call to a provider is not.
  | some interruption =>
      (if due then { s with log := s.entered phase documentId false } else s, some interruption)
  | none =>
      if due then
        match commitPhase env attempt documentId phase s.run with
        | .error e => ({ s with log := s.entered phase documentId false }, some (.raised e))
        | .ok run =>
            ({ run := run, log := s.entered phase documentId true },
              attempt.abortAt (.afterCommit phase))
      else (s, attempt.abortAt (.afterCommit phase))

/-- The blocks in order, up to the first interruption. -/
def runPhases : List Phase → Progress → Progress × Option Interruption
  | [], s => (s, none)
  | phase :: rest, s =>
      match runPhase env attempt documentId phase s with
      | (s', some interruption) => (s', some interruption)
      | (s', none) => runPhases rest s'

/-! ## The invocation -/

/-- How an invocation ends: by itself, after a handled error, by an exception that
leaves it, or with its process. -/
inductive Outcome
  | finished
  | markedFailed (exception : PyException)
  | raised (exception : PyException)
  | killed
  deriving DecidableEq, Repr

/-- What an invocation leaves behind. -/
structure PipelineResult where
  run : Run
  outcome : Outcome
  log : List Execution

/-- The exceptions that the pipeline does not leave to a retry. -/
def PyException.nonRetryable : PyException → Bool
  | .valueError _ => true
  | .typeError _ => true
  | _ => false

/-- The `except` clauses around the three blocks. -/
def handleInterruption : Progress × Option Interruption → PipelineResult
  | (s, none) => { run := s.run, outcome := .finished, log := s.log }
  | (s, some .killed) => { run := s.run, outcome := .killed, log := s.log }
  | (s, some (.raised e)) =>
      if e.nonRetryable then
        -- The marking has a session of its own, whose error leaves the handler.
        if attempt.marks then
          { run := markRunFailedSafe s.run, outcome := .markedFailed e, log := s.log }
        else { run := s.run, outcome := .raised (.other "failure marking"), log := s.log }
      else { run := s.run, outcome := .raised e, log := s.log }

/-- `run_full_benchmark_pipeline` on a run that exists. -/
def runFullBenchmarkPipeline (run : Run) : PipelineResult :=
  match attempt.abortAt .atStart with
  -- The sessions before the `try` block: nothing handles what they raise.
  | some (.raised e) => { run := run, outcome := .raised e, log := [] }
  | some .killed => { run := run, outcome := .killed, log := [] }
  | none =>
      if run.status = .completed ∨ run.status = .failed then
        { run := run, outcome := .finished, log := [] }
      else
        handleInterruption attempt
          (runPhases env attempt documentId Phase.all { run := run, log := [] })

end

/-! ## What a committed phase has done -/

section

variable {env : PipelineEnv} {attempt : Attempt} {documentId : Option ℕ} {run run' : Run}

theorem commitPhase_eq_ok {phase : Phase}
    (h : commitPhase env attempt documentId phase run = .ok run') :
    ∃ changes, phase.execute env documentId (attempt.elapsedMs phase) run run = .ok changes ∧
      run' = run.apply changes := by
  cases hbody : phase.execute env documentId (attempt.elapsedMs phase) run run with
  | error e => simp [commitPhase, hbody, bind, Except.bind] at h
  | ok changes =>
      rw [commitPhase, hbody] at h
      exact ⟨changes, rfl, Run.commit_eq_ok h⟩

/-- A committed retrieval. -/
theorem commitPhase_retrieval :
    commitPhase env attempt documentId .retrieval run = .ok
      { run with
        retrievalResults := run.retrievalResults ++
          PipelineEnv.retrievalRows (env.searchChunks documentId)
        retrievalLatencyMs := some (attempt.elapsedMs .retrieval)
        status := .retrievalCompleted } := by
  simp [commitPhase, Phase.execute, PipelineEnv.executeRetrievalForExistingRun, bind,
    Except.bind, Run.commit, Run.apply]

/-- A committed generation found no generation row and a retrieved chunk. -/
theorem commitPhase_generation_eq_ok
    (h : commitPhase env attempt documentId .generation run = .ok run') :
    run.status = .retrievalCompleted ∧ run.generationResults = [] ∧
      env.rankedRows run ≠ [] ∧
      run' = { run with
        generationResults := [env.generatedRow (env.rankedRows run)]
        generationLatencyMs := some (attempt.elapsedMs .generation)
        status := .generationCompleted } := by
  obtain ⟨changes, hbody, rfl⟩ := commitPhase_eq_ok h
  obtain ⟨hstatus, hgeneration, hrows, rfl⟩ := PipelineEnv.executeGeneration_eq_ok hbody
  exact ⟨hstatus, hgeneration, hrows, by simp [Run.apply, hgeneration]⟩

/-- A committed judge phase found the generation row and no evaluation row. -/
theorem commitPhase_judge_eq_ok
    (h : commitPhase env attempt documentId .judge run = .ok run') :
    ∃ gen, run.status = .generationCompleted ∧ run.generationResults = [gen] ∧
      run.evaluationResults = [] ∧
      run' = { run with
        evaluationResults :=
          [(env.judgePhaseOutcome run.metadataJson (env.rankedRows run) gen).1.forStorage]
        evaluationLatencyMs := some (attempt.elapsedMs .judge)
        totalLatencyMs := some (run.retrievalLatencyMs.getD 0 +
          run.generationLatencyMs.getD 0 + attempt.elapsedMs .judge)
        traceInstrumentationJson := some
          (mergeRunTraceInstrumentation run.traceInstrumentationJson
            (env.judgePhaseOutcome run.metadataJson (env.rankedRows run) gen).2)
        status := .completed } := by
  obtain ⟨changes, hbody, rfl⟩ := commitPhase_eq_ok h
  obtain ⟨gen, hstatus, hgeneration, hevaluation, rfl⟩ :=
    PipelineEnv.executeLlmJudge_eq_ok hbody
  exact ⟨gen, hstatus, hgeneration, hevaluation, by simp [Run.apply, hevaluation]⟩

/-- A committed phase has moved the status. -/
theorem commitPhase_status {phase : Phase}
    (h : commitPhase env attempt documentId phase run = .ok run') :
    run'.status = phase.completion := by
  cases phase with
  | retrieval =>
      rw [commitPhase_retrieval] at h
      cases h
      rfl
  | generation =>
      obtain ⟨-, -, -, rfl⟩ := commitPhase_generation_eq_ok h
      rfl
  | judge =>
      obtain ⟨_, -, -, -, rfl⟩ := commitPhase_judge_eq_ok h
      rfl

/-- The generation phase commits once there is a retrieved chunk. -/
theorem commitPhase_generation_ok (hstatus : run.status = .retrievalCompleted)
    (hgeneration : run.generationResults = []) (hrows : env.rankedRows run ≠ []) :
    ∃ run', commitPhase env attempt documentId .generation run = .ok run' := by
  obtain ⟨changes, hbody⟩ : ∃ changes,
      env.executeGenerationForRun run run (attempt.elapsedMs .generation) = .ok changes :=
    PipelineEnv.executeGeneration_ok _ hstatus hgeneration hrows
  obtain ⟨-, -, -, hchanges⟩ := PipelineEnv.executeGeneration_eq_ok hbody
  refine ⟨run.apply changes, ?_⟩
  simp [commitPhase, Phase.execute, hbody, bind, Except.bind, Run.commit, hchanges,
    hgeneration, Run.violatesUnique]

/-- The judge phase commits once there is a generation row. -/
theorem commitPhase_judge_ok {gen : GenerationResult}
    (hstatus : run.status = .generationCompleted) (hgeneration : run.generationResults = [gen])
    (hevaluation : run.evaluationResults = []) :
    ∃ run', commitPhase env attempt documentId .judge run = .ok run' := by
  obtain ⟨changes, hbody⟩ : ∃ changes,
      env.executeLlmJudgeAndCompleteRun run run (attempt.elapsedMs .judge) = .ok changes :=
    PipelineEnv.executeLlmJudge_ok _ hstatus hgeneration hevaluation
  obtain ⟨_, -, -, -, hchanges⟩ := PipelineEnv.executeLlmJudge_eq_ok hbody
  refine ⟨run.apply changes, ?_⟩
  simp [commitPhase, Phase.execute, hbody, bind, Except.bind, Run.commit, hchanges,
    hevaluation, Run.violatesUnique]

/-- The body of a phase that is due is entered, and that is logged. -/
theorem runPhase_log_of_due {phase : Phase} {s : Progress}
    (hdue : s.run.status = phase.prerequisite) :
    ∃ committed, (runPhase env attempt documentId phase s).1.log =
      s.entered phase documentId committed := by
  unfold runPhase
  cases attempt.abortAt (.inPhase phase) with
  | some i => exact ⟨false, by simp [hdue]⟩
  | none =>
      cases hcommit : commitPhase env attempt documentId phase s.run with
      | error e => exact ⟨false, by simp [hdue]⟩
      | ok run' => exact ⟨true, by simp [hdue]⟩

end

/-! ## The invariant rule of an invocation

What entering a phase, committing a phase and marking the run each preserve, an
invocation preserves, wherever it is cut short. -/

section

variable {env : PipelineEnv} {attempt : Attempt} {documentId : Option ℕ}
  {I : Progress → Prop}

theorem runPhase_invariant
    (henter : ∀ phase s, I s → s.run.status = phase.prerequisite →
      I { s with log := s.entered phase documentId false })
    (hcommit : ∀ phase s run', I s → s.run.status = phase.prerequisite →
      commitPhase env attempt documentId phase s.run = .ok run' →
        I { run := run', log := s.entered phase documentId true })
    {phase : Phase} {s : Progress} (hs : I s) :
    I (runPhase env attempt documentId phase s).1 := by
  unfold runPhase
  by_cases hdue : s.run.status = phase.prerequisite
  · cases attempt.abortAt (.inPhase phase) with
    | some interruption => simpa [hdue, Progress.entered] using henter phase s hs hdue
    | none =>
        cases hbody : commitPhase env attempt documentId phase s.run with
        | error e => simpa [hdue, hbody, Progress.entered] using henter phase s hs hdue
        | ok run' => simpa [hdue, hbody, Progress.entered] using hcommit phase s run' hs hdue hbody
  · cases attempt.abortAt (.inPhase phase) with
    | some interruption => simpa [hdue] using hs
    | none => simpa [hdue] using hs

theorem runPhases_invariant
    (henter : ∀ phase s, I s → s.run.status = phase.prerequisite →
      I { s with log := s.entered phase documentId false })
    (hcommit : ∀ phase s run', I s → s.run.status = phase.prerequisite →
      commitPhase env attempt documentId phase s.run = .ok run' →
        I { run := run', log := s.entered phase documentId true })
    {phases : List Phase} {s : Progress} (hs : I s) :
    I (runPhases env attempt documentId phases s).1 := by
  induction phases generalizing s with
  | nil => exact hs
  | cons phase rest ih =>
      have hnext : I (runPhase env attempt documentId phase s).1 :=
        runPhase_invariant henter hcommit hs
      rw [runPhases]
      cases hphase : runPhase env attempt documentId phase s with
      | mk s' interruption =>
          rw [hphase] at hnext
          cases interruption with
          | some i => exact hnext
          | none => exact ih hnext

theorem handleInterruption_invariant
    (hmark : ∀ s, I s → I { s with run := markRunFailedSafe s.run })
    {ended : Progress × Option Interruption} (hs : I ended.1) :
    I { run := (handleInterruption attempt ended).run
        log := (handleInterruption attempt ended).log } := by
  obtain ⟨s, interruption⟩ := ended
  rcases interruption with _ | (e | _)
  · exact hs
  · unfold handleInterruption
    by_cases hretry : e.nonRetryable = true
    · by_cases hmarks : attempt.marks = true
      · simpa [hretry, hmarks] using hmark s hs
      · simpa [hretry, hmarks] using hs
    · simpa [hretry] using hs
  · exact hs

/-- The handlers leave the executions alone. -/
theorem handleInterruption_log (ended : Progress × Option Interruption) :
    (handleInterruption attempt ended).log = ended.1.log := by
  obtain ⟨s, cut⟩ := ended
  rcases cut with _ | (e | _)
  · rfl
  · simp only [handleInterruption]
    split_ifs <;> rfl
  · rfl

/-- **The invariant rule.** -/
theorem runFullBenchmarkPipeline_invariant
    (henter : ∀ phase s, I s → s.run.status = phase.prerequisite →
      I { s with log := s.entered phase documentId false })
    (hcommit : ∀ phase s run', I s → s.run.status = phase.prerequisite →
      commitPhase env attempt documentId phase s.run = .ok run' →
        I { run := run', log := s.entered phase documentId true })
    (hmark : ∀ s, I s → I { s with run := markRunFailedSafe s.run })
    {run : Run} (hs : I { run := run, log := [] }) :
    I { run := (runFullBenchmarkPipeline env attempt documentId run).run
        log := (runFullBenchmarkPipeline env attempt documentId run).log } := by
  have hphases : I (runPhases env attempt documentId Phase.all _).1 :=
    runPhases_invariant henter hcommit hs
  unfold runFullBenchmarkPipeline
  cases attempt.abortAt .atStart with
  | some interruption => cases interruption <;> exact hs
  | none =>
      by_cases hterminal : run.status = .completed ∨ run.status = .failed
      · simpa [hterminal] using hs
      · simpa [hterminal] using handleInterruption_invariant hmark hphases

/-- An invocation stays with its run. -/
theorem runFullBenchmarkPipeline_id (env : PipelineEnv) (attempt : Attempt)
    (documentId : Option ℕ) (run : Run) :
    (runFullBenchmarkPipeline env attempt documentId run).run.id = run.id := by
  refine runFullBenchmarkPipeline_invariant (I := fun s => s.run.id = run.id)
    (fun phase s hs _ => hs) (fun phase s run' hs _ hcommit => ?_) (fun s hs => ?_) rfl
  · obtain ⟨changes, -, rfl⟩ := commitPhase_eq_ok hcommit
    exact hs
  · exact hs

end

end ContextLens
