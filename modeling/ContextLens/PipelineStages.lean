import ContextLens.RunLifecycle
import ContextLens.Foundations.CheckpointedPipeline

/-!
# The full pipeline as checkpointed stages

Each phase of the full pipeline is entered in one status and leaves the next, so
the status is a checkpoint and the pipeline an instance of `Foundations.Stage`.
An invocation that dies without a failure mark is an interrupted run of the
stages, and one that nothing disturbs is their whole run.

The correspondence is up to the measured latencies: `Run.withoutLatencies`
forgets these, and every phase is a function of the rest (`commitPhase_map`).
-/

namespace ContextLens

open Foundations

/-! ## Full runs -/

/-- The runs of `POST /runs` with a full evaluation mode, in any state that the
operations on them lead to. -/
def IsFullRun (run : Run) : Prop :=
  fullRunSystem.Reachable
    (fun created => ∃ id mode requestId, created = createFullRun id mode requestId) run

theorem isFullRun_createFullRun (id : ℕ) (mode : FullEvalMode) (requestId : Option String) :
    IsFullRun (createFullRun id mode requestId) :=
  ⟨_, ⟨id, mode, requestId, rfl⟩, [], rfl⟩

/-! ## Forgetting the latencies -/

/-- The run without what was measured. -/
def Run.withoutLatencies (run : Run) : Run :=
  { run with
    retrievalLatencyMs := none
    generationLatencyMs := none
    evaluationLatencyMs := none
    totalLatencyMs := none }

section

variable (run : Run)

theorem Run.withoutLatencies_id : run.withoutLatencies.id = run.id := rfl

theorem Run.withoutLatencies_status :
    run.withoutLatencies.status = run.status := rfl

theorem Run.withoutLatencies_metadataJson :
    run.withoutLatencies.metadataJson = run.metadataJson := rfl

theorem Run.withoutLatencies_traceInstrumentationJson :
    run.withoutLatencies.traceInstrumentationJson = run.traceInstrumentationJson := rfl

theorem Run.withoutLatencies_generationResults :
    run.withoutLatencies.generationResults = run.generationResults := rfl

theorem Run.withoutLatencies_evaluationResults :
    run.withoutLatencies.evaluationResults = run.evaluationResults := rfl

theorem PipelineEnv.rankedRows_withoutLatencies (env : PipelineEnv) :
    env.rankedRows run.withoutLatencies = env.rankedRows run := rfl

theorem markRunFailedSafe_withoutLatencies :
    (markRunFailedSafe run).withoutLatencies = markRunFailedSafe run.withoutLatencies := by
  unfold markRunFailedSafe markFailedChanges
  rw [Run.withoutLatencies_status]
  split_ifs <;> rfl

end

/-! ## The pipeline as checkpointed stages -/

/-- An attempt that nothing disturbs, with the given latencies. -/
def undisturbedIn (elapsedMs : Phase → ℕ) : Attempt where
  abort := none
  elapsedMs := elapsedMs
  marks := true

section

variable (env : PipelineEnv) (documentId : Option ℕ)

/-- A phase as a stage on runs without latencies. -/
def phaseStage (phase : Phase) : Stage Run PyException where
  due run := run.status = phase.prerequisite
  body run := (commitPhase env (undisturbedIn fun _ => 0) documentId phase run).map
    Run.withoutLatencies

/-- The stages of the pipeline. -/
def pipelineStages : List (Stage Run PyException) :=
  Phase.all.map (phaseStage env documentId)

/-- What the handlers of the pipeline make of an error. -/
def settleError (run : Run) (e : PyException) : Run :=
  if e.nonRetryable then markRunFailedSafe run else run

end

section

variable {env : PipelineEnv} {documentId : Option ℕ} {attempt : Attempt} {run run' : Run}

theorem commitPhase_generation_map :
    (commitPhase env attempt documentId .generation run).map Run.withoutLatencies =
      (phaseStage env documentId .generation).body run.withoutLatencies := by
  simp only [phaseStage, commitPhase, Phase.execute, PipelineEnv.executeGenerationForRun,
    bind, Except.bind, pure, Except.pure, throw, throwThe, MonadExceptOf.throw]
  rw [Run.withoutLatencies_id, Run.withoutLatencies_status,
    Run.withoutLatencies_generationResults, PipelineEnv.rankedRows_withoutLatencies]
  by_cases hstatus : run.status = .retrievalCompleted
  · cases hrow : scalarOneOrNone run.generationResults with
    | error e => simp [hstatus, Except.map]
    | ok row =>
        cases row with
        | some row => simp [hstatus, Except.map]
        | none =>
            have hnil : run.generationResults = [] := scalarOneOrNone_eq_ok hrow
            cases (env.rankedRows run).isEmpty with
            | true => simp [hstatus, Except.map]
            | false =>
                simp [hstatus, Except.map, Run.commit, Run.violatesUnique, hnil, Run.apply,
                  Run.withoutLatencies]
  · simp [hstatus, Except.map]

theorem commitPhase_judge_map :
    (commitPhase env attempt documentId .judge run).map Run.withoutLatencies =
      (phaseStage env documentId .judge).body run.withoutLatencies := by
  simp only [phaseStage, commitPhase, Phase.execute,
    PipelineEnv.executeLlmJudgeAndCompleteRun, persistEvaluationAndCompleteRun,
    bind, Except.bind, pure, Except.pure, throw, throwThe, MonadExceptOf.throw]
  rw [Run.withoutLatencies_id, Run.withoutLatencies_status,
    Run.withoutLatencies_metadataJson, Run.withoutLatencies_traceInstrumentationJson,
    Run.withoutLatencies_generationResults, Run.withoutLatencies_evaluationResults,
    PipelineEnv.rankedRows_withoutLatencies]
  by_cases hstatus : run.status = .generationCompleted
  · cases hrow : scalarOneOrNone run.generationResults with
    | error e => simp [hstatus, Except.map]
    | ok row =>
        cases row with
        | none => simp [hstatus, Except.map]
        | some gen =>
            have hgen : run.generationResults = [gen] := scalarOneOrNone_eq_ok hrow
            cases hevaluated : scalarOneOrNone run.evaluationResults with
            | error e => simp [hstatus, Except.map]
            | ok row =>
                cases row with
                | some row => simp [hstatus, Except.map]
                | none =>
                    have hnil : run.evaluationResults = [] :=
                      scalarOneOrNone_eq_ok hevaluated
                    simp [hstatus, Except.map, Run.commit, Run.violatesUnique, hgen, hnil,
                      Run.apply, Run.withoutLatencies]
  · simp [hstatus, Except.map]

/-- **A phase is a function of everything but the latencies.** -/
theorem commitPhase_map (phase : Phase) :
    (commitPhase env attempt documentId phase run).map Run.withoutLatencies =
      (phaseStage env documentId phase).body run.withoutLatencies := by
  cases phase with
  | retrieval =>
      simp only [phaseStage, commitPhase_retrieval, Except.map]
      rfl
  | generation => exact commitPhase_generation_map
  | judge => exact commitPhase_judge_map

theorem due_phaseStage (phase : Phase) :
    (phaseStage env documentId phase).due run = false ↔ run.status ≠ phase.prerequisite := by
  simp [phaseStage]

theorem phaseStage_run_of_due {phase : Phase} (hdue : run.status = phase.prerequisite) :
    (phaseStage env documentId phase).run run =
      (commitPhase env (undisturbedIn fun _ => 0) documentId phase run).map
        Run.withoutLatencies := by
  simp [Stage.run, phaseStage, hdue]

/-- A stage that goes through was not due, or leaves its phase's status. -/
theorem phaseStage_run_ok {phase : Phase}
    (h : (phaseStage env documentId phase).run run = .ok run') :
    run.status ≠ phase.prerequisite ∧ run' = run ∨ run'.status = phase.completion := by
  by_cases hdue : run.status = phase.prerequisite
  · right
    rw [phaseStage_run_of_due hdue] at h
    cases hcommit : commitPhase env (undisturbedIn fun _ => 0) documentId phase run with
    | error e => simp [hcommit, Except.map] at h
    | ok committed =>
        rw [hcommit] at h
        rw [← Except.ok.inj h, Run.withoutLatencies_status]
        exact commitPhase_status hcommit
  · left
    refine ⟨hdue, ?_⟩
    rw [Stage.run_of_not_due ((due_phaseStage phase).mpr hdue)] at h
    exact (Except.ok.inj h).symm

/-- **The statuses are checkpoints.** -/
theorem pipelineStages_checkpointed : Stage.Checkpointed (pipelineStages env documentId) := by
  simp only [Stage.Checkpointed, pipelineStages, Phase.all, List.map_cons, List.map_nil,
    Stage.CheckpointedAfter, Stage.NoneDue, List.forall_mem_cons, due_phaseStage, and_true]
  -- A stage was skipped, and what was not due still is not; or it moved the status past
  -- every phase so far.
  refine ⟨?_, ?_, ?_⟩
  · intro s t _ h
    rcases phaseStage_run_ok h with ⟨hne, rfl⟩ | hstatus
    · exact ⟨hne, by simp⟩
    · rw [hstatus]
      exact ⟨by decide, by simp⟩
  · rintro s t ⟨hretrieval, -⟩ h
    rcases phaseStage_run_ok h with ⟨hne, rfl⟩ | hstatus
    · exact ⟨hne, hretrieval, by simp⟩
    · rw [hstatus]
      exact ⟨by decide, by decide, by simp⟩
  · rintro s t ⟨hgeneration, hretrieval, -⟩ h
    rcases phaseStage_run_ok h with ⟨hne, rfl⟩ | hstatus
    · exact ⟨hne, hgeneration, hretrieval, by simp⟩
    · rw [hstatus]
      exact ⟨by decide, by decide, by decide, by simp⟩

/-- On a terminal run no stage is due. -/
theorem noneDue_of_terminal (h : run.status = .completed ∨ run.status = .failed) :
    Stage.NoneDue (pipelineStages env documentId) run := by
  intro stage hstage
  obtain ⟨phase, -, rfl⟩ := List.mem_map.mp hstage
  rw [due_phaseStage]
  rcases h with h | h <;> rw [h] <;> cases phase <;> decide

theorem markRunFailedSafe_terminal (run : Run) :
    (markRunFailedSafe run).status = .completed ∨ (markRunFailedSafe run).status = .failed := by
  unfold markRunFailedSafe markFailedChanges
  split_ifs with h
  · exact h
  · exact Or.inr rfl

/-- A handled error leaves nothing due; an unhandled one leaves the run. -/
theorem settleError_settled (run : Run) (e : PyException) :
    Stage.NoneDue (pipelineStages env documentId) (settleError run e) ∨
      settleError run e = run := by
  unfold settleError
  split_ifs
  · exact Or.inl (noneDue_of_terminal (markRunFailedSafe_terminal run))
  · exact Or.inr rfl

/-! ## An invocation is an interrupted pipeline -/

/-- One block of the pipeline as its stage: it went through, it was cut before its
commit, or its body failed. -/
theorem runPhase_cases {phase : Phase} {s s' : Progress} {cut : Option Interruption}
    (h : runPhase env attempt documentId phase s = (s', cut)) :
    ((phaseStage env documentId phase).run s.run.withoutLatencies =
        .ok s'.run.withoutLatencies ∧ cut = attempt.abortAt (.afterCommit phase)) ∨
      (s'.run = s.run ∧ ∃ i, cut = some i ∧ attempt.abortAt (.inPhase phase) = some i) ∨
      (s'.run = s.run ∧ ∃ e, cut = some (.raised e) ∧
        (phaseStage env documentId phase).run s.run.withoutLatencies = .error e) := by
  unfold runPhase at h
  by_cases hdue : s.run.status = phase.prerequisite
  · have hrun : (phaseStage env documentId phase).run s.run.withoutLatencies =
        (commitPhase env attempt documentId phase s.run).map Run.withoutLatencies := by
      have hdue' : s.run.withoutLatencies.status = phase.prerequisite := hdue
      -- The block runs on the measured run, its stage on the run without latencies.
      rw [commitPhase_map, phaseStage_run_of_due hdue']
      rfl
    cases habort : attempt.abortAt (.inPhase phase) with
    | some i =>
        simp only [hdue, habort, if_true, Prod.mk.injEq] at h
        obtain ⟨rfl, rfl⟩ := h
        exact Or.inr (Or.inl ⟨rfl, i, rfl, rfl⟩)
    | none =>
        cases hcommit : commitPhase env attempt documentId phase s.run with
        | error e =>
            simp only [hdue, habort, hcommit, if_true, Prod.mk.injEq] at h
            obtain ⟨rfl, rfl⟩ := h
            refine Or.inr (Or.inr ⟨rfl, e, rfl, ?_⟩)
            rw [hrun, hcommit]
            rfl
        | ok run =>
            simp only [hdue, habort, hcommit, if_true, Prod.mk.injEq] at h
            obtain ⟨rfl, rfl⟩ := h
            refine Or.inl ⟨?_, rfl⟩
            rw [hrun, hcommit]
            rfl
  · have hrun : (phaseStage env documentId phase).run s.run.withoutLatencies =
        .ok s.run.withoutLatencies :=
      Stage.run_of_not_due ((due_phaseStage phase).mpr hdue)
    cases habort : attempt.abortAt (.inPhase phase) with
    | some i =>
        simp only [hdue, habort, if_false, Prod.mk.injEq] at h
        obtain ⟨rfl, rfl⟩ := h
        exact Or.inr (Or.inl ⟨rfl, i, rfl, rfl⟩)
    | none =>
        simp only [hdue, habort, if_false, Prod.mk.injEq] at h
        obtain ⟨rfl, rfl⟩ := h
        exact Or.inl ⟨hrun, rfl⟩

theorem abort_of_abortAt {point : AbortPoint} {i : Interruption}
    (h : attempt.abortAt point = some i) : attempt.abort = some (point, i) := by
  unfold Attempt.abortAt at h
  cases habort : attempt.abort with
  | none => simp [habort] at h
  | some cut =>
      obtain ⟨point', i'⟩ := cut
      rw [habort] at h
      by_cases hpoint : point' = point
      · simp only [hpoint, if_true, Option.some.injEq] at h
        rw [hpoint, h]
      · simp [hpoint] at h

/-- `CutAfter point phases passed`: an attempt that is cut at `point` has the phases
`passed` of `phases` behind it. -/
inductive CutAfter : AbortPoint → List Phase → List Phase → Prop
  | inPhase (before : List Phase) (phase : Phase) (after : List Phase) :
      CutAfter (.inPhase phase) (before ++ phase :: after) before
  | afterCommit (before : List Phase) (phase : Phase) (after : List Phase) :
      CutAfter (.afterCommit phase) (before ++ phase :: after) (before ++ [phase])

theorem CutAfter.cons {point : AbortPoint} {phases passed : List Phase} (phase : Phase)
    (h : CutAfter point phases passed) : CutAfter point (phase :: phases) (phase :: passed) := by
  cases h with
  | inPhase before p after => exact CutAfter.inPhase (phase :: _) p after
  | afterCommit before p after => exact CutAfter.afterCommit (phase :: before) p after

theorem CutAfter.prefix_phases {point : AbortPoint} {phases passed : List Phase}
    (h : CutAfter point phases passed) : passed <+: phases := by
  cases h with
  | inPhase before p after => exact List.prefix_append _ _
  | afterCommit before p after => exact ⟨after, by simp⟩

theorem CutAfter.ne_atStart {point : AbortPoint} {phases passed : List Phase}
    (h : CutAfter point phases passed) : point ≠ .atStart := by
  cases h <;> exact AbortPoint.noConfusion

/-- The blocks of the pipeline as its stages: all of them went through, or the
attempt cut them short after some of them, or the body of one failed. -/
theorem runPhases_cases {phases : List Phase} {s s' : Progress} {cut : Option Interruption}
    (h : runPhases env attempt documentId phases s = (s', cut)) :
    (cut = none ∧ Stage.runAll (phases.map (phaseStage env documentId))
        s.run.withoutLatencies = (s'.run.withoutLatencies, none)) ∨
      (∃ point i passed, cut = some i ∧ attempt.abort = some (point, i) ∧
        CutAfter point phases passed ∧
        Stage.runAll (passed.map (phaseStage env documentId)) s.run.withoutLatencies =
          (s'.run.withoutLatencies, none)) ∨
      (∃ e, cut = some (.raised e) ∧ Stage.runAll (phases.map (phaseStage env documentId))
        s.run.withoutLatencies = (s'.run.withoutLatencies, some e)) := by
  induction phases generalizing s with
  | nil =>
      cases h
      exact Or.inl ⟨rfl, rfl⟩
  | cons phase rest ih =>
      rw [runPhases] at h
      cases hphase : runPhase env attempt documentId phase s with
      | mk t cutPhase =>
          rw [hphase] at h
          rcases runPhase_cases hphase with ⟨hstage, hafter⟩ | ⟨hsame, i, rfl, hin⟩ |
            ⟨hsame, e, rfl, herror⟩
          · have hrun : ∀ passed, Stage.runAll ((phase :: passed).map (phaseStage env documentId))
                s.run.withoutLatencies =
                  Stage.runAll (passed.map (phaseStage env documentId))
                    t.run.withoutLatencies := by
              intro passed
              rw [List.map_cons, Stage.runAll, hstage]
            cases cutPhase with
            | some i =>
                cases h
                refine Or.inr (Or.inl ⟨_, i, [phase], rfl, abort_of_abortAt hafter.symm,
                  CutAfter.afterCommit [] phase rest, ?_⟩)
                rw [hrun]
                rfl
            | none =>
                rcases ih h with ⟨rfl, hrest⟩ | ⟨point, i, passed, rfl, habort, hcut, hrest⟩ |
                  ⟨e, rfl, hrest⟩
                · exact Or.inl ⟨rfl, (hrun rest).trans hrest⟩
                · exact Or.inr (Or.inl ⟨point, i, phase :: passed, rfl, habort,
                    hcut.cons phase, (hrun passed).trans hrest⟩)
                · exact Or.inr (Or.inr ⟨e, rfl, (hrun rest).trans hrest⟩)
          · cases h
            rw [hsame]
            exact Or.inr (Or.inl ⟨_, i, [], rfl, abort_of_abortAt hin,
              CutAfter.inPhase [] phase rest, rfl⟩)
          · cases h
            rw [hsame]
            refine Or.inr (Or.inr ⟨e, rfl, ?_⟩)
            rw [List.map_cons, Stage.runAll, herror]

/-- An attempt that may die anywhere, but not by an exception that the pipeline
answers with a failure mark. -/
def Attempt.DiesUnmarked (attempt : Attempt) : Prop :=
  ∀ point e, attempt.abort = some (point, .raised e) → point ≠ .atStart →
    e.nonRetryable = false ∨ attempt.marks = false

theorem interrupted_refl (run : Run) : Stage.Interrupted settleError
    (pipelineStages env documentId) run run :=
  Or.inl ⟨[], List.nil_prefix, rfl⟩

/-- **An invocation that dies unmarked is an interrupted run of the stages.** -/
theorem runFullBenchmarkPipeline_interrupted (hdies : attempt.DiesUnmarked) :
    Stage.Interrupted settleError (pipelineStages env documentId) run.withoutLatencies
      (runFullBenchmarkPipeline env attempt documentId run).run.withoutLatencies := by
  unfold runFullBenchmarkPipeline
  cases attempt.abortAt .atStart with
  | some i => cases i <;> exact interrupted_refl _
  | none =>
      by_cases hterminal : run.status = .completed ∨ run.status = .failed
      · simp only [hterminal, if_true]
        exact interrupted_refl _
      · simp only [hterminal, if_false]
        cases hphases : runPhases env attempt documentId Phase.all { run := run, log := [] } with
        | mk s cut =>
            rcases runPhases_cases hphases with ⟨rfl, hall⟩ |
              ⟨point, i, passed, rfl, habort, hafter, hpassed⟩ | ⟨e, rfl, herror⟩
            · exact Or.inl ⟨_, List.prefix_refl _, hall⟩
            · have hcut : Stage.CutShort (pipelineStages env documentId) run.withoutLatencies
                  s.run.withoutLatencies :=
                ⟨_, hafter.prefix_phases.map _, hpassed⟩
              cases i with
              | killed => exact Or.inl hcut
              | raised e =>
                  -- Left to the retry, or its mark does not reach the database.
                  have hsame : (handleInterruption attempt (s, some (.raised e))).run = s.run := by
                    rcases hdies point e habort hafter.ne_atStart with hretry | hmarks
                    · simp [handleInterruption, hretry]
                    · simp only [handleInterruption, hmarks, Bool.false_eq_true, if_false]
                      split_ifs <;> rfl
                  rw [hsame]
                  exact Or.inl hcut
            · by_cases hretry : e.nonRetryable = true
              · by_cases hmarks : attempt.marks = true
                · right
                  simp only [handleInterruption, hretry, hmarks, if_true]
                  rw [Stage.conclude, pipelineStages, herror]
                  simp only [settleError, hretry, if_true]
                  exact markRunFailedSafe_withoutLatencies s.run
                · left
                  simp only [handleInterruption, hretry, hmarks, if_true]
                  exact Stage.cutShort_of_error herror
              · left
                simp only [handleInterruption, hretry]
                exact Stage.cutShort_of_error herror

/-- **An undisturbed invocation is the whole run of the stages.** -/
theorem runFullBenchmarkPipeline_undisturbed (elapsedMs : Phase → ℕ) :
    (runFullBenchmarkPipeline env (undisturbedIn elapsedMs) documentId
        run).run.withoutLatencies =
      Stage.conclude settleError (pipelineStages env documentId) run.withoutLatencies := by
  unfold runFullBenchmarkPipeline
  simp only [undisturbedIn, Attempt.abortAt]
  by_cases hterminal : run.status = .completed ∨ run.status = .failed
  · have hskipped : run.withoutLatencies.status = .completed ∨
        run.withoutLatencies.status = .failed := hterminal
    simp only [hterminal, if_true]
    exact (Stage.conclude_of_noneDue (noneDue_of_terminal hskipped)).symm
  · simp only [hterminal, if_false]
    cases hphases : runPhases env (undisturbedIn elapsedMs) documentId Phase.all
        { run := run, log := [] } with
    | mk s cut =>
        rw [undisturbedIn] at hphases
        rw [hphases]
        rcases runPhases_cases hphases with ⟨rfl, hall⟩ |
          ⟨point, i, passed, rfl, habort, -, -⟩ | ⟨e, rfl, herror⟩
        · rw [Stage.conclude, pipelineStages, hall]
          rfl
        · simp at habort
        · rw [Stage.conclude, pipelineStages, herror]
          by_cases hretry : e.nonRetryable = true
          · simp only [handleInterruption, settleError, hretry, if_true]
            exact markRunFailedSafe_withoutLatencies s.run
          · simp [handleInterruption, settleError, hretry]

/-! ## The end of an undisturbed invocation -/

/-- What the database and the create endpoint guarantee of a full run. -/
structure WellFormedRun (run : Run) : Prop where
  generation_unique : run.generationResults.length ≤ 1
  evaluation_unique : run.evaluationResults.length ≤ 1
  not_pending : run.status ≠ .pending
  completed_rows : run.status = .completed →
    run.generationResults ≠ [] ∧ run.evaluationResults ≠ []
  evaluation_generated : run.evaluationResults ≠ [] → run.generationResults ≠ []

theorem WellFormedRun.commitPhase {phase : Phase} (h : WellFormedRun run)
    (hcommit : commitPhase env attempt documentId phase run = .ok run') :
    WellFormedRun run' := by
  obtain ⟨changes, hbody, -⟩ := commitPhase_eq_ok hcommit
  have hrun : run.commit changes = .ok run' := by
    rw [ContextLens.commitPhase, hbody] at hcommit
    exact hcommit
  obtain ⟨hgeneration, hevaluation⟩ :=
    Run.commit_length_le_one hrun h.generation_unique h.evaluation_unique
  -- Only the judge phase leaves `completed`, and it found the generation row.
  refine ⟨hgeneration, hevaluation, ?_, fun hcompleted => ?_, ?_⟩
  · rw [commitPhase_status hcommit]
    cases phase <;> decide
  · rw [commitPhase_status hcommit] at hcompleted
    cases phase with
    | retrieval => exact RunStatus.noConfusion hcompleted
    | generation => exact RunStatus.noConfusion hcompleted
    | judge =>
        obtain ⟨gen, -, hgen, -, rfl⟩ := commitPhase_judge_eq_ok hcommit
        simp [hgen]
  · cases phase with
    | retrieval =>
        rw [commitPhase_retrieval] at hcommit
        rw [← Except.ok.inj hcommit]
        exact h.evaluation_generated
    | generation =>
        obtain ⟨-, -, -, rfl⟩ := commitPhase_generation_eq_ok hcommit
        exact fun _ => List.cons_ne_nil _ _
    | judge =>
        obtain ⟨gen, -, hgen, -, rfl⟩ := commitPhase_judge_eq_ok hcommit
        simp [hgen]

theorem WellFormedRun.of_status (h : WellFormedRun run) {status : RunStatus}
    (hstatus : status ≠ .pending ∧ status ≠ .completed) (metadata : Option JsonObject) :
    WellFormedRun { run with status := status, metadataJson := metadata } :=
  ⟨h.generation_unique, h.evaluation_unique, hstatus.1, fun hcompleted =>
    absurd hcompleted hstatus.2, h.evaluation_generated⟩

theorem WellFormedRun.markFailed (h : WellFormedRun run) :
    WellFormedRun (run.apply (markFailedChanges run)) := by
  rcases apply_markFailedChanges run with hsame | ⟨-, hfailed⟩
  · rwa [hsame]
  · rw [hfailed]
    exact h.of_status (by decide) run.metadataJson

theorem WellFormedRun.normalize (h : WellFormedRun run) :
    WellFormedRun (normalizeFailedRunForResume run) := by
  unfold normalizeFailedRunForResume
  split_ifs
  · exact h
  · exact h.of_status (by decide) run.metadataJson
  · exact h.of_status (by decide) run.metadataJson
  · exact h.of_status (by decide) run.metadataJson

theorem WellFormedRun.pipeline (h : WellFormedRun run) :
    WellFormedRun (runFullBenchmarkPipeline env attempt documentId run).run :=
  runFullBenchmarkPipeline_invariant (I := fun s => WellFormedRun s.run)
    (fun _ _ hs _ => hs) (fun _ _ _ hs _ hcommit => hs.commitPhase hcommit)
    (fun _ hs => hs.markFailed) h

theorem WellFormedRun.apply {op : FullRunOp} (h : WellFormedRun run) :
    WellFormedRun (op.apply run) := by
  cases op with
  | enqueueFailure error requestId =>
      rw [FullRunOp.apply, apply_enqueueFailureChanges]
      exact h.of_status (by decide) _
  | attempt env a documentId => exact h.pipeline
  | markSafe => exact h.markFailed
  | markSync reachesDatabase =>
      cases reachesDatabase with
      | true => exact h.markFailed
      | false => exact h
  | requeue found call =>
      rcases requeueFullRun_run { found with run := some run } call with hsame | hnormalized
      · rw [FullRunOp.apply, hsame]
        exact h
      · rw [FullRunOp.apply, hnormalized]
        exact h.normalize

/-- Every full run is well formed, whatever happened to it. -/
theorem IsFullRun.wellFormed (h : IsFullRun run) : WellFormedRun run := by
  refine LabelledSystem.reachable_invariant ?_ ?_ h
  · rintro run ⟨id, mode, requestId, rfl⟩
    constructor <;> simp [createFullRun, createRun]
  · intro run op run' hrun hstep
    cases hstep
    exact hrun.apply

/-- On a well-formed run a phase fails only by an error that is not retried. -/
theorem commitPhase_error {phase : Phase} {e : PyException} (h : WellFormedRun run)
    (hcommit : commitPhase env attempt documentId phase run = .error e) :
    e.nonRetryable = true := by
  cases phase with
  | retrieval =>
      rw [commitPhase_retrieval] at hcommit
      cases hcommit
  | generation =>
      cases hbody : env.executeGenerationForRun run run (attempt.elapsedMs .generation) with
      | error e' =>
          obtain ⟨message, rfl⟩ := PipelineEnv.executeGeneration_error h.generation_unique hbody
          simp only [ContextLens.commitPhase, Phase.execute, hbody, bind, Except.bind] at hcommit
          rw [← Except.error.inj hcommit]
          rfl
      | ok changes =>
          obtain ⟨hstatus, hgeneration, hrows, -⟩ := PipelineEnv.executeGeneration_eq_ok hbody
          obtain ⟨run', hok⟩ : ∃ run',
              ContextLens.commitPhase env attempt documentId .generation run = .ok run' :=
            commitPhase_generation_ok hstatus hgeneration hrows
          rw [hok] at hcommit
          cases hcommit
  | judge =>
      cases hbody : env.executeLlmJudgeAndCompleteRun run run (attempt.elapsedMs .judge) with
      | error e' =>
          obtain ⟨message, rfl⟩ := PipelineEnv.executeLlmJudge_error h.generation_unique
            h.evaluation_unique hbody
          simp only [ContextLens.commitPhase, Phase.execute, hbody, bind, Except.bind] at hcommit
          rw [← Except.error.inj hcommit]
          rfl
      | ok changes =>
          obtain ⟨gen, hstatus, hgeneration, hevaluation, -⟩ :=
            PipelineEnv.executeLlmJudge_eq_ok hbody
          obtain ⟨run', hok⟩ : ∃ run',
              ContextLens.commitPhase env attempt documentId .judge run = .ok run' :=
            commitPhase_judge_ok hstatus hgeneration hevaluation
          rw [hok] at hcommit
          cases hcommit

theorem WellFormedRun.withoutLatencies (h : WellFormedRun run) :
    WellFormedRun run.withoutLatencies :=
  ⟨h.generation_unique, h.evaluation_unique, h.not_pending, h.completed_rows,
    h.evaluation_generated⟩

theorem WellFormedRun.phaseStage {phase : Phase} (h : WellFormedRun run)
    (hrun : (phaseStage env documentId phase).run run = .ok run') : WellFormedRun run' := by
  by_cases hdue : run.status = phase.prerequisite
  · rw [phaseStage_run_of_due hdue] at hrun
    cases hcommit : ContextLens.commitPhase env (undisturbedIn fun _ => 0) documentId phase
        run with
    | error e => simp [hcommit, Except.map] at hrun
    | ok committed =>
        rw [hcommit] at hrun
        rw [← Except.ok.inj hrun]
        exact (h.commitPhase hcommit).withoutLatencies
  · rw [Stage.run_of_not_due ((due_phaseStage phase).mpr hdue)] at hrun
    rw [← Except.ok.inj hrun]
    exact h

theorem terminal_of_noneDue (hpending : run.status ≠ .pending)
    (h : Stage.NoneDue (pipelineStages env documentId) run) :
    run.status = .completed ∨ run.status = .failed := by
  have hdue : ∀ phase : Phase, run.status ≠ phase.prerequisite := fun phase =>
    (due_phaseStage phase).mp
      (h _ (List.mem_map_of_mem (by cases phase <;> decide)))
  cases hstatus : run.status with
  | pending => exact absurd hstatus hpending
  | running => exact absurd hstatus (hdue .retrieval)
  | retrievalCompleted => exact absurd hstatus (hdue .generation)
  | generationCompleted => exact absurd hstatus (hdue .judge)
  | completed => exact Or.inl rfl
  | failed => exact Or.inr rfl

theorem WellFormedRun.runAll (h : WellFormedRun run) {phases : List Phase}
    {error : Option PyException}
    (hrun : Stage.runAll (phases.map (ContextLens.phaseStage env documentId)) run =
      (run', error)) : WellFormedRun run' := by
  refine Stage.runAll_invariant (I := WellFormedRun) ?_ h hrun
  intro stage hstage s t hs hst
  obtain ⟨phase, -, rfl⟩ := List.mem_map.mp hstage
  exact hs.phaseStage hst

/-- The error that stops the stages of a well-formed run is not one that is
retried. -/
theorem runAll_error_nonRetryable (h : WellFormedRun run) {phases : List Phase}
    {e : PyException}
    (hrun : Stage.runAll (phases.map (phaseStage env documentId)) run = (run', some e)) :
    e.nonRetryable = true := by
  obtain ⟨stage, hstage, hfailed⟩ := Stage.exists_error_of_runAll hrun
  obtain ⟨phase, -, rfl⟩ := List.mem_map.mp hstage
  by_cases hdue : run'.status = phase.prerequisite
  · rw [phaseStage_run_of_due hdue] at hfailed
    cases hcommit : commitPhase env (undisturbedIn fun _ => 0) documentId phase run' with
    | ok committed => simp [hcommit, Except.map] at hfailed
    | error e' =>
        rw [hcommit] at hfailed
        rw [← Except.error.inj hfailed]
        exact commitPhase_error (h.runAll hrun) hcommit
  · rw [Stage.run_of_not_due ((due_phaseStage phase).mpr hdue)] at hfailed
    cases hfailed

/-- An undisturbed pipeline ends in a terminal status. -/
theorem conclude_terminal (h : WellFormedRun run) :
    (Stage.conclude settleError (pipelineStages env documentId) run).status = .completed ∨
      (Stage.conclude settleError (pipelineStages env documentId) run).status = .failed := by
  cases hrun : Stage.runAll (pipelineStages env documentId) run with
  | mk t error =>
      rw [Stage.conclude, hrun]
      cases error with
      | none =>
          exact terminal_of_noneDue (h.runAll hrun).not_pending
            (Stage.noneDue_of_complete pipelineStages_checkpointed hrun)
      | some e =>
          simp only [settleError, runAll_error_nonRetryable h hrun, if_true]
          exact markRunFailedSafe_terminal t

end

end ContextLens
