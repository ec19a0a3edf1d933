import ContextLens.Foundations.Json
import Mathlib.Data.Rat.Defs

/-!
# Runs and their persisted trace

`app/models` and `app/services/run_lifecycle.py`: one row of `runs` together
with the rows of `retrieval_results`, `generation_results` and
`evaluation_results` that belong to it, which is everything the full pipeline,
the failure marking and the requeue read or write about a run.

A session does its work on loaded objects and leaves a set of pending changes —
assigned columns, added rows — which `commit` applies to the committed row as a
whole or not at all.  `generation_results.run_id` and
`evaluation_results.run_id` are unique, so a commit that would add a second row
is refused.
-/

namespace ContextLens

open Foundations

/-! ## Statuses -/

/-- `runs.status`. -/
inductive RunStatus
  | pending
  | running
  | retrievalCompleted
  | generationCompleted
  | completed
  | failed
  deriving DecidableEq, Repr

/-- The stored string of a status. -/
def RunStatus.text : RunStatus → String
  | pending => "pending"
  | running => "running"
  | retrievalCompleted => "retrieval_completed"
  | generationCompleted => "generation_completed"
  | completed => "completed"
  | failed => "failed"

/-! ## Exceptions

Only the distinctions that some handler draws are kept. -/

/-- An exception raised inside a request or a worker. -/
inductive PyException
  | valueError (message : String)
  | typeError (message : String)
  | apiError (message : String)
  | redisError (message : String)
  | integrityError (constraint : String)
  | other (message : String)
  deriving DecidableEq, Repr

/-! ## Rows -/

/-- A row of `retrieval_results`. -/
structure RetrievalResult where
  chunkId : ℕ
  rank : ℕ
  score : ℚ
  deriving DecidableEq

/-- A row of `generation_results`. -/
structure GenerationResult where
  answerText : String
  modelId : String
  inputTokens : Option ℕ
  outputTokens : Option ℕ
  metadataJson : Option JsonObject

/-- A row of `evaluation_results`. -/
structure EvaluationResult where
  faithfulness : Option ℚ
  completeness : Option ℚ
  retrievalRelevance : Option ℚ
  contextCoverage : Option ℚ
  groundedness : Option ℚ
  failureType : Option String
  usedLlmJudge : Bool
  costUsd : Option ℚ
  metadataJson : Option JsonObject

/-- A row of `runs` with the rows of its trace, in the order they were added. -/
structure Run where
  id : ℕ
  status : RunStatus
  retrievalLatencyMs : Option ℕ
  generationLatencyMs : Option ℕ
  evaluationLatencyMs : Option ℕ
  totalLatencyMs : Option ℕ
  metadataJson : Option JsonObject
  traceInstrumentationJson : Option JsonObject
  retrievalResults : List RetrievalResult
  generationResults : List GenerationResult
  evaluationResults : List EvaluationResult

/-- `tp.create_run`: a run row without any trace. -/
def createRun (id : ℕ) (status : RunStatus) (metadataJson : Option JsonObject) : Run where
  id := id
  status := status
  retrievalLatencyMs := none
  generationLatencyMs := none
  evaluationLatencyMs := none
  totalLatencyMs := none
  metadataJson := metadataJson
  traceInstrumentationJson := none
  retrievalResults := []
  generationResults := []
  evaluationResults := []

/-! ## Committing a session -/

/-- What a session has pending on a run: `some v` for a column it assigned, and
the rows it added. -/
structure PendingChanges where
  status : Option RunStatus := none
  retrievalLatencyMs : Option ℕ := none
  generationLatencyMs : Option ℕ := none
  evaluationLatencyMs : Option ℕ := none
  totalLatencyMs : Option ℕ := none
  metadataJson : Option JsonObject := none
  traceInstrumentationJson : Option JsonObject := none
  retrievalResults : List RetrievalResult := []
  generationResults : List GenerationResult := []
  evaluationResults : List EvaluationResult := []

namespace Run

/-- The run with the pending changes written over it. -/
def apply (run : Run) (changes : PendingChanges) : Run where
  id := run.id
  status := changes.status.getD run.status
  retrievalLatencyMs := changes.retrievalLatencyMs <|> run.retrievalLatencyMs
  generationLatencyMs := changes.generationLatencyMs <|> run.generationLatencyMs
  evaluationLatencyMs := changes.evaluationLatencyMs <|> run.evaluationLatencyMs
  totalLatencyMs := changes.totalLatencyMs <|> run.totalLatencyMs
  metadataJson := changes.metadataJson <|> run.metadataJson
  traceInstrumentationJson :=
    changes.traceInstrumentationJson <|> run.traceInstrumentationJson
  retrievalResults := run.retrievalResults ++ changes.retrievalResults
  generationResults := run.generationResults ++ changes.generationResults
  evaluationResults := run.evaluationResults ++ changes.evaluationResults

/-- A row may be added under a unique `run_id` only when none is there. -/
def violatesUnique {ρ : Type} (present added : List ρ) : Bool :=
  !added.isEmpty && decide (1 < (present ++ added).length)

/-- `session.commit()`: all of the pending changes, or none of them. -/
def commit (run : Run) (changes : PendingChanges) : Except PyException Run :=
  if violatesUnique run.generationResults changes.generationResults then
    .error (.integrityError "generation_results_run_id_key")
  else if violatesUnique run.evaluationResults changes.evaluationResults then
    .error (.integrityError "evaluation_results_run_id_key")
  else .ok (run.apply changes)

@[simp] theorem violatesUnique_nil {ρ : Type} (present : List ρ) :
    violatesUnique present [] = false := rfl

/-- A commit that goes through has applied the changes. -/
theorem commit_eq_ok {run run' : Run} {changes : PendingChanges}
    (h : run.commit changes = .ok run') : run' = run.apply changes := by
  unfold commit at h
  split_ifs at h
  exact (Except.ok.inj h).symm

/-- A session that adds no generation and no evaluation row always commits. -/
theorem commit_of_no_rows (run : Run) {changes : PendingChanges}
    (hgeneration : changes.generationResults = [])
    (hevaluation : changes.evaluationResults = []) :
    run.commit changes = .ok (run.apply changes) := by
  simp [commit, hgeneration, hevaluation]

/-- The uniqueness constraints survive every commit. -/
theorem commit_length_le_one {run run' : Run} {changes : PendingChanges}
    (h : run.commit changes = .ok run')
    (hgeneration : run.generationResults.length ≤ 1)
    (hevaluation : run.evaluationResults.length ≤ 1) :
    run'.generationResults.length ≤ 1 ∧ run'.evaluationResults.length ≤ 1 := by
  have hrun := commit_eq_ok h
  unfold commit at h
  split_ifs at h with hg he
  have hbound : ∀ {ρ : Type} (present added : List ρ), present.length ≤ 1 →
      ¬violatesUnique present added = true → (present ++ added).length ≤ 1 := by
    intro ρ present added hpresent hviolates
    cases added with
    | nil => simpa using hpresent
    | cons row added => simpa [violatesUnique] using hviolates
  rw [hrun]
  exact ⟨hbound _ _ hgeneration hg, hbound _ _ hevaluation he⟩

theorem eq_nil_of_not_violatesUnique {ρ : Type} {present added : List ρ}
    (h : ¬violatesUnique present added = true) (hadded : added ≠ []) : present = [] := by
  have hlength : 0 < added.length := List.length_pos_iff.mpr hadded
  rw [violatesUnique, Bool.and_eq_true, decide_eq_true_eq, List.length_append, not_and] at h
  have hle := h (by simpa using hadded)
  exact List.length_eq_zero_iff.mp (by omega)

/-- A commit that adds a generation row found none. -/
theorem generationResults_eq_nil_of_commit {run run' : Run} {changes : PendingChanges}
    (h : run.commit changes = .ok run') (hadded : changes.generationResults ≠ []) :
    run.generationResults = [] := by
  unfold commit at h
  split_ifs at h with hgeneration hevaluation
  exact eq_nil_of_not_violatesUnique hgeneration hadded

/-- A commit that adds an evaluation row found none. -/
theorem evaluationResults_eq_nil_of_commit {run run' : Run} {changes : PendingChanges}
    (h : run.commit changes = .ok run') (hadded : changes.evaluationResults ≠ []) :
    run.evaluationResults = [] := by
  unfold commit at h
  split_ifs at h with hgeneration hevaluation
  exact eq_nil_of_not_violatesUnique hevaluation hadded

@[simp] theorem apply_status (run : Run) (changes : PendingChanges) :
    (run.apply changes).status = changes.status.getD run.status := rfl

@[simp] theorem apply_empty (run : Run) : run.apply {} = run := by
  simp [apply]

end Run

end ContextLens
