import ContextLens.RunTrace
import ContextLens.Foundations.SqlLogic

/-!
# The evaluator bucket of an evaluation row

`app/domain/evaluator_bucket.py`, with the ORM copy of the predicate in
`app/services/dashboard_analytics.py`: an evaluation row counts as *llm* or as
*heuristic*.  The rule is written three times — as raw SQL, as an ORM expression
and in Python — and the SQL heuristic predicate is the negation of the LLM one.

A missing `evaluator_type` makes the comparison unknown, not false.  On a row
that used no judge the negation is then unknown too, and the row is in neither
SQL bucket: `sqlBucket_of_not_classified`.  On every other row SQL and Python
agree: `sqlBucket_holds_iff`.
-/

namespace ContextLens

open Foundations

/-- The two buckets. -/
inductive EvaluatorType
  | heuristic
  | llm
  deriving DecidableEq, Repr

/-- `resolved_evaluator_type`. -/
def resolvedEvaluatorType (usedLlmJudge : Bool) (metadataJson : Option JsonObject) :
    EvaluatorType :=
  let isLlm := match (metadataJson.getD []).get "evaluator_type" with
    | some (.str value) => value = "llm"
    | _ => false
  if usedLlmJudge || isLlm then .llm else .heuristic

/-- `metadata_json->>'evaluator_type'`. -/
def evaluatorTypeText (metadataJson : Option JsonObject) : Option String :=
  (metadataJson.bind fun metadata => metadata.get "evaluator_type").bind Json.columnText

/-- `sql_is_llm_bucket`. -/
def sqlIsLlmBucket (row : EvaluationResult) : SqlBool :=
  SqlBool.or (SqlBool.isTrue (some row.usedLlmJudge))
    (SqlBool.eq (evaluatorTypeText row.metadataJson) (some "llm"))

/-- `sql_is_heuristic_bucket`. -/
def sqlIsHeuristicBucket (row : EvaluationResult) : SqlBool :=
  SqlBool.not (sqlIsLlmBucket row)

/-- `_evaluation_in_llm_bucket`, the ORM expression. -/
def evaluationInLlmBucket (row : EvaluationResult) : SqlBool :=
  SqlBool.or (SqlBool.isTrue (some row.usedLlmJudge))
    (SqlBool.eq (evaluatorTypeText row.metadataJson) (some "llm"))

/-- The SQL predicate of a bucket. -/
def sqlBucket : EvaluatorType → EvaluationResult → SqlBool
  | .llm => sqlIsLlmBucket
  | .heuristic => sqlIsHeuristicBucket

/-- The bucket of a row as the Python mirror resolves it. -/
def EvaluationResult.evaluatorType (row : EvaluationResult) : EvaluatorType :=
  resolvedEvaluatorType row.usedLlmJudge row.metadataJson

/-! ## Where the SQL and the Python rule agree -/

theorem onlyString_llm : Json.OnlyString "llm" where
  start := ⟨'l', ['l', 'm'], rfl, by decide, by decide, by decide, by decide⟩
  not_true := by decide
  not_false := by decide

/-- The text comparison of SQL and the value comparison of Python agree. -/
theorem evaluatorTypeText_eq_llm_iff (metadataJson : Option JsonObject) :
    evaluatorTypeText metadataJson = some "llm" ↔
      (metadataJson.getD []).get "evaluator_type" = some (.str "llm") := by
  cases metadataJson with
  | none => simp [evaluatorTypeText]
  | some metadata =>
      simp only [evaluatorTypeText, Option.bind_some, Option.getD_some]
      cases metadata.get "evaluator_type" with
      | none => simp
      | some value =>
          rw [Option.bind_some, Json.columnText_eq_some_iff onlyString_llm, Option.some.injEq]

theorem resolvedEvaluatorType_eq_llm_iff (usedLlmJudge : Bool)
    (metadataJson : Option JsonObject) :
    resolvedEvaluatorType usedLlmJudge metadataJson = .llm ↔
      usedLlmJudge = true ∨
        (metadataJson.getD []).get "evaluator_type" = some (.str "llm") := by
  unfold resolvedEvaluatorType
  cases (metadataJson.getD []).get "evaluator_type" with
  | none => cases usedLlmJudge <;> simp
  | some value => cases value <;> cases usedLlmJudge <;> simp

/-- **The LLM predicate is the Python rule**, for every row. -/
theorem sqlIsLlmBucket_holds_iff (row : EvaluationResult) :
    (sqlIsLlmBucket row).holds = true ↔ row.evaluatorType = .llm := by
  rw [EvaluationResult.evaluatorType, resolvedEvaluatorType_eq_llm_iff,
    ← evaluatorTypeText_eq_llm_iff, ← SqlBool.holds_eq_iff, sqlIsLlmBucket,
    SqlBool.holds_or, SqlBool.holds_isTrue, Bool.or_eq_true]
  simp [SqlBool.holds]

/-! ## Where they part -/

/-- A row whose LLM predicate is known: it used the judge, or its metadata has an
`evaluator_type` that is not `null`. -/
def EvaluationResult.classified (row : EvaluationResult) : Bool :=
  row.usedLlmJudge || (evaluatorTypeText row.metadataJson).isSome

theorem sqlIsLlmBucket_ne_none_iff (row : EvaluationResult) :
    sqlIsLlmBucket row ≠ none ↔ row.classified = true := by
  rw [sqlIsLlmBucket, ne_eq, SqlBool.or_eq_none_iff, EvaluationResult.classified]
  cases hjudge : row.usedLlmJudge <;> cases htext : evaluatorTypeText row.metadataJson <;>
    simp [SqlBool.isTrue, SqlBool.eq]

/-- On a classified row the heuristic predicate is the Python rule too. -/
theorem sqlBucket_holds_iff {row : EvaluationResult} (hclassified : row.classified = true)
    (bucket : EvaluatorType) :
    (sqlBucket bucket row).holds = true ↔ row.evaluatorType = bucket := by
  cases bucket with
  | llm => exact sqlIsLlmBucket_holds_iff row
  | heuristic =>
      have hknown := (sqlIsLlmBucket_ne_none_iff row).mpr hclassified
      have hone := (SqlBool.holds_or_holds_not_iff (sqlIsLlmBucket row)).mpr hknown
      constructor
      · intro h
        have hllm := SqlBool.not_holds_of_holds_not h
        cases htype : row.evaluatorType with
        | heuristic => rfl
        | llm => simp [(sqlIsLlmBucket_holds_iff row).mpr htype] at hllm
      · intro h
        rcases hone with hllm | hheuristic
        · rw [(sqlIsLlmBucket_holds_iff row).mp hllm] at h
          exact EvaluatorType.noConfusion h
        · exact hheuristic

/-- A row that is not classified is heuristic in Python and in no SQL bucket. -/
theorem sqlBucket_of_not_classified {row : EvaluationResult}
    (hclassified : row.classified = false) :
    row.evaluatorType = .heuristic ∧ ∀ bucket, (sqlBucket bucket row).holds = false := by
  have hunknown : sqlIsLlmBucket row = none := by
    by_contra h
    rw [(sqlIsLlmBucket_ne_none_iff row).mp h] at hclassified
    exact Bool.noConfusion hclassified
  refine ⟨?_, fun bucket => ?_⟩
  · cases htype : row.evaluatorType with
    | heuristic => rfl
    | llm =>
        have hllm := (sqlIsLlmBucket_holds_iff row).mpr htype
        rw [hunknown] at hllm
        exact absurd hllm (by decide)
  · cases bucket with
    | llm => rw [sqlBucket, hunknown]; rfl
    | heuristic => rw [sqlBucket, sqlIsHeuristicBucket, hunknown]; rfl

/-- A row is in one bucket, or not classified. -/
theorem EvaluationResult.one_bucket (row : EvaluationResult) :
    ((sqlBucket .llm row).holds).toNat + ((sqlBucket .heuristic row).holds).toNat =
      row.classified.toNat := by
  cases hclassified : row.classified with
  | false =>
      have hlost := (sqlBucket_of_not_classified hclassified).2
      rw [hlost, hlost]
      rfl
  | true =>
      have hbucket := sqlBucket_holds_iff hclassified
      cases htype : row.evaluatorType with
      | llm =>
          have hout : (sqlBucket .heuristic row).holds = false := by
            rw [← Bool.not_eq_true, hbucket .heuristic, htype]
            exact EvaluatorType.noConfusion
          rw [(hbucket .llm).mpr htype, hout]
          rfl
      | heuristic =>
          have hout : (sqlBucket .llm row).holds = false := by
            rw [← Bool.not_eq_true, hbucket .llm, htype]
            exact EvaluatorType.noConfusion
          rw [(hbucket .heuristic).mpr htype, hout]
          rfl

end ContextLens
