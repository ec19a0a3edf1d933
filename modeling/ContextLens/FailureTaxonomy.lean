import ContextLens.Foundations.PythonBuiltins

/-!
# The failure taxonomy

`app/domain/failure_taxonomy.py`: the ten labels `evaluation_results.failure_type`
may hold, and the normalisation every label passes through before it is stored.
-/

namespace ContextLens

open Foundations

/-- `FailureType`. -/
inductive FailureType
  | noFailure
  | retrievalMiss
  | retrievalPartial
  | chunkFragmentation
  | contextInsufficient
  | contextTruncation
  | answerUnsupported
  | answerIncomplete
  | mixedFailure
  | unknown
  deriving DecidableEq, Repr

namespace FailureType

/-- The stored string of a label. -/
def value : FailureType → String
  | noFailure => "NO_FAILURE"
  | retrievalMiss => "RETRIEVAL_MISS"
  | retrievalPartial => "RETRIEVAL_PARTIAL"
  | chunkFragmentation => "CHUNK_FRAGMENTATION"
  | contextInsufficient => "CONTEXT_INSUFFICIENT"
  | contextTruncation => "CONTEXT_TRUNCATION"
  | answerUnsupported => "ANSWER_UNSUPPORTED"
  | answerIncomplete => "ANSWER_INCOMPLETE"
  | mixedFailure => "MIXED_FAILURE"
  | unknown => "UNKNOWN"

/-- The labels in the order of the source. -/
def all : List FailureType :=
  [noFailure, retrievalMiss, retrievalPartial, chunkFragmentation,
    contextInsufficient, contextTruncation, answerUnsupported, answerIncomplete,
    mixedFailure, unknown]

end FailureType

/-- `ALLOWED_VALUES`. -/
def allowedValues : List String :=
  FailureType.all.map FailureType.value

/-- The `aliases` of `normalize_failure_type`. -/
def failureTypeAlias (sup : String) : Option FailureType :=
  if sup = "NONE" ∨ sup = "OK" ∨ sup = "NO_FAILURES" then some .noFailure else none

/-- `normalize_failure_type`: `none` on an empty label, `UNKNOWN` on a label it
does not recognise. -/
def normalizeFailureType (raw : Option String) : Option String :=
  match raw with
  | none => none
  | some text =>
      if !Python.nonBlank text then none
      else
        let s := Python.strip text
        if s ∈ allowedValues then some s
        else
          let sup := Python.upperUnderscored s
          if sup ∈ allowedValues then some sup
          else match failureTypeAlias sup with
            | some label => some label.value
            | none => some FailureType.unknown.value

/-- `failure_type_for_storage`: the stored label is never `NULL`. -/
def failureTypeForStorage (raw : Option String) : String :=
  (normalizeFailureType raw).getD FailureType.unknown.value

theorem FailureType.mem_all (label : FailureType) : label ∈ FailureType.all := by
  cases label <;> decide

theorem FailureType.value_mem_allowedValues (label : FailureType) :
    label.value ∈ allowedValues :=
  List.mem_map_of_mem label.mem_all

theorem normalizeFailureType_mem {raw : Option String} {label : String}
    (h : normalizeFailureType raw = some label) : label ∈ allowedValues := by
  cases raw with
  | none => simp [normalizeFailureType] at h
  | some text =>
      simp only [normalizeFailureType] at h
      split at h
      · simp at h
      · split at h
        · rename_i hs
          rw [← Option.some.inj h]
          exact hs
        · split at h
          · rename_i hsup
            rw [← Option.some.inj h]
            exact hsup
          · split at h
            · rw [← Option.some.inj h]
              exact FailureType.value_mem_allowedValues _
            · rw [← Option.some.inj h]
              exact FailureType.value_mem_allowedValues .unknown

/-- **Whatever label an evaluator produced, one of the ten is stored.** -/
theorem failureTypeForStorage_mem (raw : Option String) :
    failureTypeForStorage raw ∈ allowedValues := by
  cases h : normalizeFailureType raw with
  | none =>
      rw [failureTypeForStorage, h, Option.getD_none]
      exact FailureType.value_mem_allowedValues .unknown
  | some label =>
      rw [failureTypeForStorage, h, Option.getD_some]
      exact normalizeFailureType_mem h

end ContextLens
