import ContextLens.FailureTaxonomy
import ContextLens.RunTrace
import Mathlib.Data.Finset.Card
import Mathlib.Algebra.Order.Field.Basic
import Mathlib.Tactic.Positivity

/-!
# Heuristic evaluation

`app/services/minimal_retrieval_evaluation.py`: the scores computed from stored
retrieval rows and lexical overlap, the gate that lets a hybrid run skip the LLM
judge, and the evaluation persisted when it does.

Scores are exact rationals.  The source computes them in `float`, so a
comparison with a threshold agrees with the source up to its rounding.
-/

namespace ContextLens

open Foundations

/-! ## Tokens -/

/-- A character of `[a-z0-9]` under `re.I`: the ASCII letters and digits, and the
four letters whose case partner is an ASCII letter. -/
def isWordChar (c : Char) : Bool :=
  c.isAlphanum || c.toNat ∈ [304, 305, 383, 8490]

/-- `significant_tokens`: lower-cased words of length at least two. -/
def significantTokens (text : String) : Finset String :=
  (((text.toList.splitOnP fun c => !isWordChar c).filter fun w => 2 ≤ w.length).map
    fun w => String.ofList (w.flatMap Python.lowerChar)).toFinset

/-- `token_recall`: the fraction of the query's tokens that the corpus has. -/
def tokenRecall (queryTokens : Finset String) (corpusText : String) : Option ℚ :=
  if queryTokens = ∅ then none
  else
    let against := significantTokens corpusText
    if against = ∅ then some 0
    else some ((queryTokens ∩ against).card / queryTokens.card)

theorem tokenRecall_mem_unit {queryTokens : Finset String} {corpusText : String} {q : ℚ}
    (h : tokenRecall queryTokens corpusText = some q) : 0 ≤ q ∧ q ≤ 1 := by
  simp only [tokenRecall] at h
  split_ifs at h with hquery hcorpus
  · rw [← Option.some.inj h]
    exact ⟨le_refl 0, zero_le_one⟩
  · rw [← Option.some.inj h]
    have hcard : 0 < queryTokens.card :=
      Finset.card_pos.mpr (Finset.nonempty_iff_ne_empty.mpr hquery)
    have hle : (queryTokens ∩ significantTokens corpusText).card ≤ queryTokens.card :=
      Finset.card_le_card Finset.inter_subset_left
    refine ⟨by positivity, ?_⟩
    rw [div_le_one (by exact_mod_cast hcard)]
    exact_mod_cast hle

/-! ## Failure labels -/

/-- `RELEVANCE_PARTIAL_THRESHOLD`. -/
def relevancePartialThreshold : ℚ := 3 / 10

/-- `CONTEXT_INSUFFICIENT_THRESHOLD`. -/
def contextInsufficientThreshold : ℚ := 4 / 10

/-- `COMPLETENESS_INCOMPLETE_THRESHOLD`. -/
def completenessIncompleteThreshold : ℚ := 5 / 10

/-- A score that is present and below its threshold. -/
def below (score : Option ℚ) (threshold : ℚ) : Bool :=
  score.any fun q => q < threshold

/-- `classify_heuristic_failure_from_scores`. -/
def classifyHeuristicFailureFromScores (retrievalMiss : Bool)
    (retrievalRelevance contextCoverage completeness : Option ℚ) : String :=
  if retrievalMiss then FailureType.retrievalMiss.value
  else if below retrievalRelevance relevancePartialThreshold then
    FailureType.retrievalPartial.value
  else if below contextCoverage contextInsufficientThreshold then
    FailureType.contextInsufficient.value
  else if below completeness completenessIncompleteThreshold then
    FailureType.answerIncomplete.value
  else FailureType.noFailure.value

/-! ## Scores from the stored rows -/

/-- `EVALUATOR_ID`. -/
def heuristicEvaluatorId : String := "minimal_retrieval_heuristic_v1"

/-- `MinimalRetrievalEvalScores`. -/
structure MinimalRetrievalEvalScores where
  faithfulness : Option ℚ
  completeness : Option ℚ
  retrievalRelevance : Option ℚ
  contextCoverage : Option ℚ
  failureType : Option String
  usedLlmJudge : Bool
  metadataJson : JsonObject

/-- The metadata of an evaluation of a run without retrieval rows. -/
def noRowsMetadata : JsonObject :=
  [("evaluator", .str heuristicEvaluatorId),
   ("evaluator_type", .str "heuristic"),
   ("note", .str "No retrieval_results for this run.")]

/-- The metadata of an evaluation of stored rows. -/
def heuristicMetadata : JsonObject :=
  [("evaluator", .str heuristicEvaluatorId),
   ("evaluator_type", .str "heuristic"),
   ("description", .str
     ("Heuristic metrics from stored retrieval scores and lexical overlap; " ++
      "no LLM judge and no faithfulness (no generated answer persisted).")),
   ("failure_rules", .obj
     [("relevance_lt", .num 3 1),
      ("context_coverage_lt", .num 4 1),
      ("completeness_lt", .num 5 1)])]

/-- `"\n\n".join` of the retrieved bodies. -/
def joinedChunkText (rows : List (RetrievalResult × String)) : String :=
  "\n\n".intercalate (rows.map Prod.snd)

/-- The mean stored score; `0` is never read, for the callers exclude it. -/
def meanScore (rows : List (RetrievalResult × String)) : ℚ :=
  (rows.map fun row => row.1.score).sum / rows.length

/-- `compute_minimal_retrieval_evaluation`, given the run's rows joined with the
chunk bodies in rank order. -/
def computeMinimalRetrievalEvaluation (queryText : String) (expectedAnswer : Option String)
    (rows : List (RetrievalResult × String)) : MinimalRetrievalEvalScores :=
  if rows.isEmpty then
    { faithfulness := none
      completeness := none
      retrievalRelevance := none
      contextCoverage := none
      failureType := some FailureType.retrievalMiss.value
      usedLlmJudge := false
      metadataJson := noRowsMetadata }
  else
    let retrievalRelevance := some (meanScore rows)
    let chunkText := joinedChunkText rows
    let contextCoverage := tokenRecall (significantTokens queryText) chunkText
    let completeness := match expectedAnswer with
      | some answer =>
          if Python.nonBlank answer then
            tokenRecall (significantTokens answer) chunkText
          else none
      | none => none
    { faithfulness := none
      completeness := completeness
      retrievalRelevance := retrievalRelevance
      contextCoverage := contextCoverage
      failureType := some
        (classifyHeuristicFailureFromScores false retrievalRelevance contextCoverage
          completeness)
      usedLlmJudge := false
      metadataJson := heuristicMetadata }

/-! ## The hybrid gate -/

/-- `HYBRID_GATE_MAX_CHUNK_SCORE`. -/
def hybridGateMaxChunkScore : ℚ := 88 / 100

/-- `HYBRID_GATE_MEAN_RELEVANCE`. -/
def hybridGateMeanRelevance : ℚ := 55 / 100

/-- `HYBRID_GATE_CONTEXT_COVERAGE`. -/
def hybridGateContextCoverage : ℚ := 42 / 100

/-- `hybrid_retrieval_gate_passes`. -/
def hybridRetrievalGatePasses (maxChunkScore : ℚ)
    (retrievalRelevance contextCoverage : Option ℚ) : Bool :=
  match retrievalRelevance, contextCoverage with
  | some relevance, some coverage =>
      decide (hybridGateMaxChunkScore ≤ maxChunkScore) &&
        decide (hybridGateMeanRelevance ≤ relevance) &&
        decide (hybridGateContextCoverage ≤ coverage)
  | _, _ => false

/-- `compute_hybrid_skipped_evaluation`. -/
def computeHybridSkippedEvaluation (queryText : String) (expectedAnswer : Option String)
    (rows : List (RetrievalResult × String)) (generatedAnswer : String) :
    MinimalRetrievalEvalScores :=
  let base := computeMinimalRetrievalEvaluation queryText expectedAnswer rows
  if rows.isEmpty then base
  else
    { faithfulness := tokenRecall (significantTokens generatedAnswer) (joinedChunkText rows)
      completeness := base.completeness
      retrievalRelevance := base.retrievalRelevance
      contextCoverage := base.contextCoverage
      failureType := some
        (classifyHeuristicFailureFromScores false base.retrievalRelevance
          base.contextCoverage base.completeness)
      usedLlmJudge := false
      metadataJson := base.metadataJson.update
        [("evaluator", .str (heuristicEvaluatorId ++ "_hybrid_gate_skip")),
         ("evaluator_type", .str "heuristic"),
         ("hybrid_judge_skipped", .bool true),
         ("description", .str
           ("Hybrid gate skipped LLM judge: scores from retrieval heuristics plus " ++
            "lexical faithfulness (generated answer token recall in retrieved context)."))] }

/-- Every label the heuristic assigns is one of the taxonomy. -/
theorem classifyHeuristicFailure_mem (miss : Bool) (relevance coverage completeness : Option ℚ) :
    classifyHeuristicFailureFromScores miss relevance coverage completeness ∈
      allowedValues := by
  unfold classifyHeuristicFailureFromScores
  split_ifs <;> exact FailureType.value_mem_allowedValues _

end ContextLens
