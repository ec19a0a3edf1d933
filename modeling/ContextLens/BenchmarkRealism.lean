import ContextLens.PipelinePhases

/-!
# Benchmark realism

`app/services/benchmark_realism.py`: the perturbation of the hits and of the
scores of a heuristic batch cell.  The random generator of a cell is what it
yields: two draws, a shuffle and the noise of each score.
-/

namespace ContextLens

open Foundations

/-- `BenchmarkRealismProfile`. -/
structure BenchmarkRealismProfile where
  dropTopChunkProbability : ℚ
  shuffleLowerRanks : Bool
  pRetrievalEmpty : ℚ
  scoreNoiseMaxDelta : ℚ
  relevanceLowThreshold : ℚ
  contextCoverageLowThreshold : ℚ
  completenessLowThreshold : ℚ
  extraMetadata : JsonObject

/-- What the generator of one cell yields. -/
structure RealismDraws where
  emptyDraw : ℚ
  dropDraw : ℚ
  shuffled : List PipelineEnv.Hit → List PipelineEnv.Hit
  shuffled_perm : ∀ hits, (shuffled hits).Perm hits
  noise : Fin 4 → ℚ

section

variable (profile : BenchmarkRealismProfile) (draws : RealismDraws)

/-- `perturb_search_chunk_hits`. -/
def perturbSearchChunkHits (hits : List PipelineEnv.Hit) : List PipelineEnv.Hit :=
  if hits.isEmpty then hits
  else if draws.emptyDraw < profile.pRetrievalEmpty then []
  else
    match if draws.dropDraw < profile.dropTopChunkProbability then hits.tail else hits with
    | [] => []
    | top :: rest =>
        if profile.shuffleLowerRanks ∧ rest ≠ [] then top :: draws.shuffled rest
        else top :: rest

/-- `_clamp01`. -/
def clamp01 (x : ℚ) : ℚ := max 0 (min 1 x)

/-- `nudge` of `apply_heuristic_score_noise`, with the draw for the score. -/
def nudge (i : Fin 4) (score : Option ℚ) : Option ℚ :=
  score.map fun v =>
    clamp01 (v + (-profile.scoreNoiseMaxDelta + 2 * profile.scoreNoiseMaxDelta * draws.noise i))

/-- `classify_low_quality_failure`. -/
def classifyLowQualityFailure (retrievalRelevance contextCoverage completeness : Option ℚ)
    (currentFailure : String) : String :=
  if currentFailure = FailureType.retrievalMiss.value then currentFailure
  else if below retrievalRelevance profile.relevanceLowThreshold then
    FailureType.retrievalPartial.value
  else if below contextCoverage profile.contextCoverageLowThreshold then
    FailureType.contextInsufficient.value
  else if below completeness profile.completenessLowThreshold then
    FailureType.answerIncomplete.value
  else FailureType.noFailure.value

/-- The scores of a cell after `apply_heuristic_score_noise`, labelled anew. -/
def MinimalRetrievalEvalScores.withNoise (scores : MinimalRetrievalEvalScores) :
    MinimalRetrievalEvalScores :=
  let retrievalRelevance := nudge profile draws 0 scores.retrievalRelevance
  let contextCoverage := nudge profile draws 1 scores.contextCoverage
  let completeness := nudge profile draws 2 scores.completeness
  { faithfulness := nudge profile draws 3 scores.faithfulness
    completeness := completeness
    retrievalRelevance := retrievalRelevance
    contextCoverage := contextCoverage
    failureType := some (classifyLowQualityFailure profile retrievalRelevance contextCoverage
      completeness (scores.failureType.getD ""))
    usedLlmJudge := scores.usedLlmJudge
    metadataJson := JsonObject.set "benchmark_realism" (.bool true) scores.metadataJson }

end

end ContextLens
