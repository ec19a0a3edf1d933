import ContextLens.PipelineStages

/-!
# Resuming an interrupted run

However often an invocation of the pipeline dies, one that nothing disturbs ends
where it would have ended anyway.  The committed run is the content of
`Foundations.Stage.conclude_of_interrupted`; that no committed phase is executed
again is read off the executions, which only move forward because every commit
moves the status past its phase (`Progress.Forward`).
-/

namespace ContextLens

open Foundations

/-! ## A sequence of invocations -/

/-- The invocations in order, each on the run the last one left. -/
def invocations (env : PipelineEnv) (documentId : Option ℕ) :
    List Attempt → Progress → Progress
  | [], s => s
  | attempt :: rest, s =>
      let result := runFullBenchmarkPipeline env attempt documentId s.run
      invocations env documentId rest { run := result.run, log := s.log ++ result.log }

section

variable {env : PipelineEnv} {documentId : Option ℕ}

theorem invocations_append (first second : List Attempt) (s : Progress) :
    invocations env documentId (first ++ second) s =
      invocations env documentId second (invocations env documentId first s) := by
  induction first generalizing s with
  | nil => rfl
  | cons attempt first ih => exact ih _

/-- Dying invocations do not change where the pipeline ends. -/
theorem conclude_invocations {attempts : List Attempt}
    (hdies : ∀ attempt ∈ attempts, attempt.DiesUnmarked) (s : Progress) :
    Stage.conclude settleError (pipelineStages env documentId)
        (invocations env documentId attempts s).run.withoutLatencies =
      Stage.conclude settleError (pipelineStages env documentId) s.run.withoutLatencies := by
  -- Each attempt is one interruption; the end is the same from the run it leaves.
  induction attempts generalizing s with
  | nil => rfl
  | cons attempt rest ih =>
      have hone := hdies attempt List.mem_cons_self
      rw [invocations, ih fun a ha => hdies a (List.mem_cons_of_mem attempt ha)]
      exact Stage.conclude_of_interrupted pipelineStages_checkpointed settleError_settled
        (runFullBenchmarkPipeline_interrupted hone)

theorem WellFormedRun.invocations {attempts : List Attempt} {s : Progress}
    (h : WellFormedRun s.run) :
    WellFormedRun (invocations env documentId attempts s).run := by
  induction attempts generalizing s with
  | nil => exact h
  | cons attempt rest ih => exact ih h.pipeline

/-! ## Nothing is executed twice -/

/-- How many phases a status has behind it. -/
def RunStatus.phasesDone : RunStatus → ℕ
  | running => 0
  | retrievalCompleted => 1
  | generationCompleted => 2
  | pending => 3
  | completed => 3
  | failed => 3

/-- The place of a phase in the pipeline. -/
def Phase.place : Phase → ℕ
  | retrieval => 0
  | generation => 1
  | judge => 2

theorem Phase.prerequisite_phasesDone (phase : Phase) :
    phase.prerequisite.phasesDone = phase.place := by
  cases phase <;> rfl

theorem Phase.completion_phasesDone (phase : Phase) :
    phase.completion.phasesDone = phase.place + 1 := by
  cases phase <;> rfl

/-- The executions moved forward: a committed phase lies behind the status, and no
later execution is of that phase. -/
structure Progress.Forward (s : Progress) : Prop where
  behind : ∀ x ∈ s.log, x.committed = true → x.phase.place < s.run.status.phasesDone
  once : s.log.Pairwise fun x y => x.committed = true → y.phase ≠ x.phase

theorem Progress.Forward.entered {s : Progress} (h : s.Forward) {phase : Phase}
    (hdue : s.run.status = phase.prerequisite) (committed : Bool) :
    (s.entered phase documentId committed).Pairwise
      fun x y => x.committed = true → y.phase ≠ x.phase := by
  rw [Progress.entered, List.pairwise_append]
  refine ⟨h.once, List.pairwise_singleton _ _, ?_⟩
  intro x hx y hy hcommitted heq
  have hplace := h.behind x hx hcommitted
  rw [hdue, Phase.prerequisite_phasesDone, ← heq, List.mem_singleton.mp hy] at hplace
  exact lt_irrefl _ hplace

theorem Progress.Forward.commit {s : Progress} (h : s.Forward) {phase : Phase} {run : Run}
    (hdue : s.run.status = phase.prerequisite) (hstatus : run.status = phase.completion) :
    Progress.Forward { run := run, log := s.entered phase documentId true } where
  behind := by
    intro x hx hcommitted
    rw [hstatus, Phase.completion_phasesDone]
    rcases Progress.mem_entered.mp hx with hx | rfl
    · have hplace := h.behind x hx hcommitted
      rw [hdue, Phase.prerequisite_phasesDone] at hplace
      exact Nat.lt_succ_of_lt hplace
    · exact Nat.lt_succ_self _
  once := h.entered hdue true

theorem Progress.Forward.enter {s : Progress} (h : s.Forward) {phase : Phase}
    (hdue : s.run.status = phase.prerequisite) :
    Progress.Forward { s with log := s.entered phase documentId false } where
  behind := by
    intro x hx hcommitted
    rcases Progress.mem_entered.mp hx with hx | rfl
    · exact h.behind x hx hcommitted
    · exact Bool.noConfusion hcommitted
  once := h.entered hdue false

theorem Progress.Forward.mark {s : Progress} (h : s.Forward) :
    Progress.Forward { s with run := markRunFailedSafe s.run } where
  behind := by
    intro x hx hcommitted
    -- A terminal status has every phase behind it.
    have hplace : x.phase.place < 3 := by cases x.phase <;> decide
    rcases markRunFailedSafe_terminal s.run with hstatus | hstatus <;>
      simpa [hstatus, RunStatus.phasesDone] using hplace
  once := h.once

/-- An invocation moves forward, whatever was executed before it. -/
theorem Progress.Forward.pipeline {attempt : Attempt} {s : Progress} (h : s.Forward) :
    Progress.Forward
      { run := (runFullBenchmarkPipeline env attempt documentId s.run).run
        log := s.log ++ (runFullBenchmarkPipeline env attempt documentId s.run).log } := by
  have happend : ∀ (t : Progress) (phase : Phase) (committed : Bool),
      s.log ++ t.entered phase documentId committed =
        Progress.entered { run := t.run, log := s.log ++ t.log } phase documentId committed := by
    intro t phase committed
    simp [Progress.entered]
  refine runFullBenchmarkPipeline_invariant
    (I := fun t => Progress.Forward { run := t.run, log := s.log ++ t.log }) ?_ ?_ ?_ ?_
  · intro phase t ht hdue
    rw [happend]
    exact ht.enter hdue
  · intro phase t run' ht hdue hcommit
    rw [happend]
    exact ht.commit hdue (commitPhase_status hcommit)
  · intro t ht
    exact ht.mark
  · simpa using h

theorem Progress.Forward.invocations {attempts : List Attempt} {s : Progress}
    (h : s.Forward) : (invocations env documentId attempts s).Forward := by
  induction attempts generalizing s with
  | nil => exact h
  | cons attempt rest ih => exact ih h.pipeline

/-! ## After the end -/

/-- An invocation of a terminal run executes nothing and changes nothing. -/
theorem runFullBenchmarkPipeline_terminal {attempt : Attempt} {run : Run}
    (h : run.status = .completed ∨ run.status = .failed) :
    (runFullBenchmarkPipeline env attempt documentId run).run = run ∧
      (runFullBenchmarkPipeline env attempt documentId run).log = [] := by
  unfold runFullBenchmarkPipeline
  cases attempt.abortAt .atStart with
  | some i => cases i <;> exact ⟨rfl, rfl⟩
  | none =>
      rw [if_pos h]
      exact ⟨rfl, rfl⟩

theorem invocations_terminal {attempts : List Attempt} {s : Progress}
    (h : s.run.status = .completed ∨ s.run.status = .failed) :
    invocations env documentId attempts s = s := by
  induction attempts generalizing s with
  | nil => rfl
  | cons attempt rest ih =>
      obtain ⟨hrun, hlog⟩ :
          (runFullBenchmarkPipeline env attempt documentId s.run).run = s.run ∧
            (runFullBenchmarkPipeline env attempt documentId s.run).log = [] :=
        runFullBenchmarkPipeline_terminal h
      rw [invocations, hrun, hlog, List.append_nil]
      exact ih h

/-- **Resuming is equivalent to not having been interrupted.**  After invocations
that may have died anywhere, one that nothing disturbs leaves the run that a
single undisturbed invocation leaves, latencies aside; over all of them no phase
is executed after it was committed; and further invocations, however they go,
execute nothing and change nothing. -/
theorem resume_equivalent {run : Run} (hrun : IsFullRun run) {interrupted : List Attempt}
    (hdies : ∀ attempt ∈ interrupted, attempt.DiesUnmarked)
    (elapsedMs elapsedMs' : Phase → ℕ) (further : List Attempt) :
    let resumed := invocations env documentId (interrupted ++ [undisturbedIn elapsedMs])
      { run := run, log := [] }
    resumed.run.withoutLatencies =
        (runFullBenchmarkPipeline env (undisturbedIn elapsedMs') documentId
          run).run.withoutLatencies ∧
      (resumed.log.Pairwise fun x y => x.committed = true → y.phase ≠ x.phase) ∧
      invocations env documentId further resumed = resumed := by
  intro resumed
  have hlast : resumed.run.withoutLatencies =
      Stage.conclude settleError (pipelineStages env documentId) run.withoutLatencies := by
    simp only [resumed, invocations_append, invocations]
    rw [runFullBenchmarkPipeline_undisturbed, conclude_invocations hdies]
  have hforward : resumed.Forward :=
    Progress.Forward.invocations ⟨by simp, List.Pairwise.nil⟩
  have hterminal : resumed.run.status = .completed ∨ resumed.run.status = .failed := by
    rw [← Run.withoutLatencies_status, hlast]
    exact conclude_terminal hrun.wellFormed.withoutLatencies
  refine ⟨?_, hforward.once, invocations_terminal hterminal⟩
  rw [hlast, runFullBenchmarkPipeline_undisturbed]

end

/-- An invocation that loses its provider after the retrieval was committed. -/
def diesAfterRetrieval : Attempt where
  abort := some (.afterCommit .retrieval, .raised (.apiError "overloaded"))
  elapsedMs := fun _ => 5
  marks := true

/-- An invocation whose worker is lost during the judge phase. -/
def diesInJudge : Attempt where
  abort := some (.inPhase .judge, .killed)
  elapsedMs := fun _ => 7
  marks := true

theorem resume_equivalent_one_chunk :
    let resumed := invocations oneChunkEnv none
      ([diesAfterRetrieval, diesInJudge] ++ [undisturbedIn fun _ => 1])
      { run := createFullRun 1 .full none, log := [] }
    resumed.run.withoutLatencies =
        (runFullBenchmarkPipeline oneChunkEnv (undisturbedIn fun _ => 2) none
          (createFullRun 1 .full none)).run.withoutLatencies ∧
      (resumed.log.Pairwise fun x y => x.committed = true → y.phase ≠ x.phase) ∧
      invocations oneChunkEnv none [diesInJudge] resumed = resumed :=
  resume_equivalent (isFullRun_createFullRun 1 .full none)
    (by simp [diesAfterRetrieval, diesInJudge, Attempt.DiesUnmarked, PyException.nonRetryable])
    _ _ _

end ContextLens
