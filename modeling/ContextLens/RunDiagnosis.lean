import ContextLens.FailureTaxonomy
import ContextLens.Foundations.JavascriptBuiltins
import Mathlib.Data.List.ReduceOption
import Mathlib.Data.List.Sort

/-!
# The diagnosis of a run

`runDiagnosis.ts` of the frontend: what the page of a run derives from the payload of
`GET /runs/{id}`.

The summary pushes a line for each rule that fires and says that there are no red flags when
none does.  Its rules read hits, scores, cost and the failure label, and every label but
`NO_FAILURE` fires one; none reads the status of the run.  `summary_never_clears_iff` says
which payloads that is too little for: those of failed runs without a red flag.
-/

namespace ContextLens

open Foundations Javascript

/-! ## The payload -/

/-- An entry of `retrieval_hits`. -/
structure RetrievalHit where
  rank : Number
  score : Number
  documentId : Number
  content : Option String

/-- `RunDetail`, as far as the diagnosis and the diff read it. -/
structure RunDetail where
  runId : Number
  status : String
  queryCaseId : Number
  pipelineConfigId : Number
  topK : Number
  retrievalHits : List RetrievalHit
  generation : Option JsonObject
  evaluation : Option JsonObject

/-- `num`. -/
def num : Json → Option Number
  | .num mantissa scale => finite (mantissa / 10 ^ scale)
  | .str value => if trim value ≠ "" then numberOfText value else none
  | _ => none

/-- `num` of a member. -/
def numMember (object : JsonObject) (key : String) : Option Number := (object.get key).bind num

/-- `bool` of a member. -/
def boolMember (object : JsonObject) (key : String) : Option Bool :=
  match object.get key with
  | some (.bool value) => some value
  | _ => none

/-- `str` of a member. -/
def strMember (object : JsonObject) (key : String) : Option String :=
  match object.get key with
  | some (.str value) => if trim value ≠ "" then some value else none
  | _ => none

/-! ## Retrieval -/

/-- `LOW_TOP_SCORE`. -/
def lowTopScore : Number := 38 / 100

/-- `TIGHT_GAP`. -/
def tightGap : Number := 25 / 1000

/-- `[...hits].sort((a, b) => a.rank - b.rank)`. -/
def byRank (hits : List RetrievalHit) : List RetrievalHit :=
  hits.insertionSort fun a b => a.rank ≤ b.rank

/-- `retrievalSourceConcentrationInterpretation`. -/
def retrievalSourceConcentrationInterpretation (hits : List RetrievalHit) : Option String :=
  let sorted := byRank hits
  match sorted with
  | [] => none
  | first :: _ =>
      if sorted.length < 3 then none
      else if sorted.all fun h => h.documentId = first.documentId then
        some ("All retrieved chunks in this list share the same document — source diversity " ++
          "may be weak, so overlapping or repetitive evidence can dominate the context window.")
      else none

/-- `RetrievalDiagnosisModel`. -/
structure RetrievalDiagnosisModel where
  hitCount : ℕ
  topScore : Option Number
  rank1MinusRank2 : Option Number
  interpretations : List String

section

variable (builtins : Builtins)

/-- The line about the gap between the first two hits. -/
def gapInterpretation (hitCount : ℕ) : Option Number → List String
  | some gap =>
      if gap < tightGap then
        ["Rank #1 and #2 are very close in score — the ordering is fragile; consider top_k or " ++
          "reranking."]
      else
        [s!"Clear gap ({toFixed builtins 3 gap}) between #1 and #2 — the top chunk stands out " ++
          "more strongly."]
  | none =>
      if hitCount = 1 then
        ["Only one hit returned — compare with pipeline top_k and corpus size."]
      else []

/-- `computeRetrievalDiagnosis`. -/
def computeRetrievalDiagnosis (hits : List RetrievalHit) : RetrievalDiagnosisModel :=
  let sorted := byRank hits
  let n := sorted.length
  let topScore := sorted[0]?.map RetrievalHit.score
  let gap := match sorted[0]?, sorted[1]? with
    | some top, some second => some (max 0 (top.score - second.score))
    | _, _ => none
  let interpretations :=
    match topScore with
    | none => ["No chunks were retrieved — check corpus, embeddings, or query wording."]
    | some top =>
        [s!"Retrieved {n} chunk(s). Top match score {toFixed builtins 3 top} (higher is more " ++
          "similar to the query embedding)."] ++
        (if top < lowTopScore then
          ["Top score is fairly low — the best match may still be a weak semantic fit."]
        else []) ++
        gapInterpretation builtins n gap ++
        (retrievalSourceConcentrationInterpretation sorted).toList
  { hitCount := n
    topScore := topScore
    rank1MinusRank2 := gap
    interpretations := interpretations }

/-! ## Context -/

/-- `ContextChunkRow`. -/
structure ContextChunkRow where
  rank : Number
  lengthChars : ℕ

/-- `ContextQualityModel`. -/
structure ContextQualityModel where
  chunkRows : List ContextChunkRow
  totalChars : ℕ
  avgChars : Option Number
  thinContext : Bool
  sparseContext : Bool
  repetitiveWarning : Option String
  notes : List String

/-- `THIN_AVG_CHARS`. -/
def thinAvgChars : ℕ := 120

/-- `THIN_TOTAL_CHARS`. -/
def thinTotalChars : ℕ := 450

/-- `CHUNK_OVERLAP_MIN_CHARS`. -/
def chunkOverlapMinChars : ℕ := 80

/-- `CHUNK_OVERLAP_SCAN_CAP`. -/
def chunkOverlapScanCap : ℕ := 240

/-- `normalizeChunkBody`, in code units. -/
def normalizeChunkBody (s : String) : List ℕ :=
  codeUnits (builtins.toLowerCase
    (trim (String.ofList (collapseWhiteSpace false s.toList))))

/-- `computeSparseContextFlag`. -/
def computeSparseContextFlag (hitCount : ℕ) (topK : Number) : Bool :=
  if hitCount = 0 then true
  else if topK ≤ 1 then false
  else if topK ≤ hitCount then false
  else decide ((hitCount : ℤ) ≤ max 1 ⌈topK / 3⌉)

/-- `longestSuffixPrefixOverlapLen`: the lengths from the cap downwards. -/
def longestSuffixPrefixOverlapLen (a b : List ℕ) : ℕ :=
  let lim := min (min a.length b.length) chunkOverlapScanCap
  ((List.range' chunkOverlapMinChars (lim + 1 - chunkOverlapMinChars)).reverse.find? fun k =>
    a.drop (a.length - k) = b.take k).getD 0

/-- The `while` loop over the first two bodies. -/
def commonPrefixLength : ℕ → List ℕ → List ℕ → ℕ
  | lim + 1, x :: xs, y :: ys => if x = y then commonPrefixLength lim xs ys + 1 else 0
  | _, _, _ => 0

/-- Some body ends as the next one begins. -/
def neighborsOverlap : List (List ℕ) → Bool
  | a :: b :: rest =>
      decide (chunkOverlapMinChars ≤ longestSuffixPrefixOverlapLen a b) ||
        neighborsOverlap (b :: rest)
  | _ => false

/-- `repetitiveWarning`, from the normalised bodies. -/
def repetitiveWarning (norms : List (List ℕ)) : Option String :=
  match norms with
  | a :: b :: _ =>
      if (norms.filter fun body => body ≠ []).dedup.length < norms.length then
        some "Some retrieved chunks are duplicates or near-duplicates — context may be repetitive."
      else if chunkOverlapMinChars ≤ commonPrefixLength 200 a b then
        some ("Top chunks share a long identical prefix — snippets may be overlapping or " ++
          "redundant.")
      else if neighborsOverlap norms then
        some ("Neighboring chunks share a long tail/head overlap — text may be duplicated " ++
          "across chunk boundaries.")
      else none
  | _ => none

/-- `avgChars`. -/
def averageChars (chunkCount totalChars : ℕ) : Option Number :=
  if chunkCount = 0 then none else some ((totalChars : ℚ) / chunkCount)

/-- `thinContext`. -/
def isThinContext (chunkCount totalChars : ℕ) (avgChars : Option Number) : Bool :=
  decide (0 < chunkCount) &&
    (decide (totalChars < thinTotalChars) ||
      avgChars.any fun avg => decide (avg < (thinAvgChars : ℚ)))

/-- The body of a hit. -/
def RetrievalHit.body (hit : RetrievalHit) : String := hit.content.getD ""

/-- `computeContextQuality`. -/
def computeContextQuality (hits : List RetrievalHit) (topK : Number) : ContextQualityModel :=
  let sorted := byRank hits
  let chunkRows := sorted.map fun h =>
    { rank := h.rank, lengthChars := (codeUnits h.body).length : ContextChunkRow }
  let totalChars := (chunkRows.map ContextChunkRow.lengthChars).sum
  let avgChars := averageChars chunkRows.length totalChars
  let thinContext := isThinContext chunkRows.length totalChars avgChars
  let sparseContext := computeSparseContextFlag chunkRows.length topK
  { chunkRows := chunkRows
    totalChars := totalChars
    avgChars := avgChars
    thinContext := thinContext
    sparseContext := sparseContext
    repetitiveWarning := repetitiveWarning (sorted.map fun h => normalizeChunkBody builtins h.body)
    notes :=
      (if thinContext then
        ["Context volume is small — answers may lack detail or cite thin evidence."] else []) ++
      (if sparseContext ∧ 0 < chunkRows.length then
        [s!"Fewer chunks than pipeline top_k ({builtins.numberText topK}) — index or filters " ++
          "may be limiting recall."] else []) ++
      (if chunkRows.length = 0 then ["No chunk text to analyze."] else []) }

end

/-! ## Generation and judge -/

/-- The tone of a badge. -/
inductive BadgeTone
  | warn
  | info
  deriving DecidableEq, Repr

/-- `DiagnosisBadge`. -/
structure DiagnosisBadge where
  key : String
  label : String
  tone : BadgeTone

/-- `GenerationJudgeInsightsModel`. -/
structure GenerationJudgeInsightsModel where
  generationModel : Option String
  judgeModel : Option String
  genInputTokens : Option Number
  genOutputTokens : Option Number
  judgeInputTokens : Option Number
  judgeOutputTokens : Option Number
  totalCostUsd : Option Number
  badges : List DiagnosisBadge

/-- The members of `metadata_json`, when it is an object. -/
def metadataMembers (object : Option JsonObject) : Option JsonObject :=
  (object.bind fun members => members.get "metadata_json").bind namedMembers

/-- The badge of the parse warnings. -/
def warningsBadge (warnings : List Json) : DiagnosisBadge :=
  let first := warnings.findSome? fun
    | .str warning => some warning
    | _ => none
  { key := "parse-warnings"
    label :=
      match first with
      | none | some "" => s!"Parse warnings recorded ({warnings.length})"
      | some warning =>
          s!"Parse notes: {warning}" ++
            if 1 < warnings.length then s!" (+{warnings.length - 1} more)" else ""
    tone := .warn }

/-- The badges of the evaluation's metadata. -/
def judgeBadges (evMeta : JsonObject) : List DiagnosisBadge :=
  let retryAttempted := boolMember evMeta "judge_retry_attempted"
  let retrySucceeded := boolMember evMeta "judge_retry_succeeded"
  (if boolMember evMeta "judge_parse_ok" = some false then
    [{ key := "parse-fail", label := "Judge JSON parse had issues", tone := .warn }] else []) ++
  (if retryAttempted = some true ∧ retrySucceeded = some false then
    [{ key := "retry-fail", label := "Judge retry still could not parse cleanly", tone := .warn }]
  else if retryAttempted = some true ∧ retrySucceeded = some true then
    [{ key := "retry-ok", label := "Judge needed a second parse attempt", tone := .info }]
  else []) ++
  match evMeta.get "judge_parse_warnings" with
  | some (.arr (warning :: warnings)) => [warningsBadge (warning :: warnings)]
  | _ => []

/-- The badge of the provider. -/
def providerBadges (genMeta : JsonObject) : List DiagnosisBadge :=
  match genMeta.get "provider" with
  | some (.str provider) =>
      [{ key := "gen-provider", label := s!"Generation provider: {provider}", tone := .info }]
  | _ => []

/-- `extractGenerationJudgeInsights`. -/
def extractGenerationJudgeInsights (generation evaluation : Option JsonObject) :
    GenerationJudgeInsightsModel :=
  let genMeta := metadataMembers generation
  let evMeta := metadataMembers evaluation
  let judgeTokens key :=
    (evMeta.bind fun members => numMember members key) <|>
      evaluation.bind fun members => numMember members key
  { generationModel := generation.bind fun members => strMember members "model_id"
    judgeModel := evMeta.bind fun members => strMember members "judge_model"
    genInputTokens := generation.bind fun members => numMember members "input_tokens"
    genOutputTokens := generation.bind fun members => numMember members "output_tokens"
    judgeInputTokens := judgeTokens "judge_input_tokens"
    judgeOutputTokens := judgeTokens "judge_output_tokens"
    totalCostUsd := evaluation.bind fun members => numMember members "cost_usd"
    badges := evMeta.elim [] judgeBadges ++ genMeta.elim [] providerBadges }

/-! ## The summary -/

/-- The severity of a line. -/
inductive Severity
  | attention
  | neutral
  deriving DecidableEq, Repr

/-- `DiagnosisSummaryLine`. -/
structure DiagnosisSummaryLine where
  key : String
  text : String
  severity : Severity
  deriving DecidableEq, Repr

/-- What the summary pushes: a line, or what a lookup in `FAILURE_TAXONOMY_SUMMARY` has found
on `Object.prototype`. -/
inductive SummaryEntry
  | line (line : DiagnosisSummaryLine)
  | inherited (property : String)
  deriving DecidableEq, Repr

/-- `FAILURE_TAXONOMY_SUMMARY`. -/
def failureTaxonomySummary : List (String × DiagnosisSummaryLine) :=
  [("CONTEXT_INSUFFICIENT",
    { key := "failure-context-insufficient"
      text := "Failure type CONTEXT_INSUFFICIENT — retrieved chunks do not cover enough of the " ++
        "query (low context coverage vs query terms)."
      severity := .attention }),
   ("RETRIEVAL_PARTIAL",
    { key := "failure-retrieval-partial"
      text := "Failure type RETRIEVAL_PARTIAL — some evidence was retrieved but it may be thin " ++
        "or not enough to answer reliably."
      severity := .attention }),
   ("CHUNK_FRAGMENTATION",
    { key := "failure-chunk-fragmentation"
      text := "Failure type CHUNK_FRAGMENTATION — evidence may be split across awkward chunk " ++
        "boundaries; review chunking and top_k."
      severity := .attention }),
   ("CONTEXT_TRUNCATION",
    { key := "failure-context-truncation"
      text := "Failure type CONTEXT_TRUNCATION — the assembled context may have been cut off " ++
        "before the model saw full evidence."
      severity := .attention }),
   ("MIXED_FAILURE",
    { key := "failure-mixed"
      text := "Failure type MIXED_FAILURE — multiple weak signals together; inspect retrieval, " ++
        "context volume, and generation scores."
      severity := .attention }),
   ("UNKNOWN",
    { key := "failure-unknown"
      text := "Failure type UNKNOWN — the evaluator could not classify this run cleanly; treat " ++
        "scores as hints and review manually."
      severity := .neutral })]

/-- `FAILURE_TAXONOMY_SUMMARY[failureType]`, pushed when it is truthy. -/
def taxonomyEntries (failureType : Option String) : List SummaryEntry :=
  match failureType with
  | none => []
  | some label =>
      match failureTaxonomySummary.lookup label with
      | some line => [.line line]
      | none => if label ∈ inheritedProperties then [.inherited label] else []

/-- The failure type of an evaluation, when it is a text. -/
def failureTypeOf (evaluation : Option JsonObject) : Option String :=
  match evaluation.bind fun members => members.get "failure_type" with
  | some (.str label) => some label
  | _ => none

/-- `numScore`. -/
def numScore (evaluation : Option JsonObject) (key : String) : Option Number :=
  evaluation.bind fun members => numMember members key

/-- The rules about retrieval. -/
def retrievalEntries (failureType : Option String) (retrieval : RetrievalDiagnosisModel)
    (retrievalRel : Option Number) : List SummaryEntry :=
  if retrieval.hitCount = 0 ∨ failureType = some "RETRIEVAL_MISS" then
    [.line
      { key := "retrieval"
        text := "Likely retrieval issue — no usable chunks or explicit RETRIEVAL_MISS."
        severity := .attention }]
  else if (retrieval.topScore.any fun top => decide (top < lowTopScore)) ∧
      (retrievalRel.all fun rel => decide (rel < 45 / 100)) then
    [.line
      { key := "weak-retrieval"
        text := "Likely weak retrieval — low top similarity and weak relevance signal."
        severity := .attention }]
  else []

/-- The rules about the answer. -/
def answerEntries (failureType : Option String) (retrieval : RetrievalDiagnosisModel)
    (retrievalRel contextCov faithfulness : Option Number) : List SummaryEntry :=
  let isAnswerQualityFailure :=
    failureType = some "ANSWER_UNSUPPORTED" ∨ failureType = some "ANSWER_INCOMPLETE"
  let retrievalReasonable := 0 < retrieval.hitCount ∧
    ((retrieval.topScore.any fun top => decide (lowTopScore ≤ top)) ∨
      (retrievalRel.any fun rel => decide (45 / 100 ≤ rel)))
  if isAnswerQualityFailure ∧ retrievalReasonable then
    [.line
      { key := "generation-likely"
        text :=
          if failureType = some "ANSWER_INCOMPLETE" then
            "Judge flagged an incomplete answer while retrieval signals look usable — " ++
              "generation or summarization may be the bottleneck, not recall."
          else
            "Judge flagged an unsupported answer while retrieval signals look usable — " ++
              "generation may be drifting off the evidence or over-asserting."
        severity := .attention }]
  else if isAnswerQualityFailure ∨
      (faithfulness.any fun f => decide (f < 45 / 100)) ∧
        (contextCov.any fun c => decide (50 / 100 ≤ c)) then
    [.line
      { key := "unsupported"
        text := "Possible unsupported or thin answer vs context — check failure type and " ++
          "faithfulness."
        severity := .attention }]
  else []

/-- The rule about the coverage. -/
def coverageEntries (contextCov : Option Number) : List SummaryEntry :=
  if contextCov.any fun c => decide (c < 42 / 100) then
    [.line
      { key := "low-coverage"
        text := "Low context coverage — retrieved text may not contain enough query " ++
          "terms/evidence."
        severity := .attention }]
  else []

/-- The rule about the amount of context. -/
def thinEntries (retrieval : RetrievalDiagnosisModel) (contextQ : ContextQualityModel) :
    List SummaryEntry :=
  if contextQ.thinContext ∧ 0 < retrieval.hitCount then
    [.line
      { key := "thin"
        text := "Thin context — short chunks limit what the model can cite."
        severity := .neutral }]
  else []

/-- `avgWeak`: the mean of the scores that are there. -/
def avgWeak (scores : List (Option Number)) : Option Number :=
  if 0 < scores.reduceOption.length then
    some (scores.reduceOption.sum / scores.reduceOption.length)
  else none

/-- The rule about the cost. -/
def costEntries (failureType : Option String) (cost : Option Number)
    (scores : List (Option Number)) : List SummaryEntry :=
  if (cost.any fun c => decide (8 / 1000 ≤ c)) ∧ failureType ≠ none ∧
      failureType ≠ some "NO_FAILURE" ∧ (avgWeak scores).all fun avg => decide (avg < 55 / 100) then
    [.line
      { key := "expensive-weak"
        text := "Paid LLM cost is non-trivial but the outcome still looks weak — tune retrieval " ++
          "or prompts."
        severity := .attention }]
  else []

/-- The line of a run without red flags. -/
def okLine : DiagnosisSummaryLine where
  key := "ok"
  text := "No strong automatic red flags — review scores and failure type below for nuance."
  severity := .neutral

/-- The lines that the rules push, in order. -/
def pushedEntries (evaluation : Option JsonObject) (retrieval : RetrievalDiagnosisModel)
    (contextQ : ContextQualityModel) (genJudge : GenerationJudgeInsightsModel) :
    List SummaryEntry :=
  let failureType := failureTypeOf evaluation
  let retrievalRel := numScore evaluation "retrieval_relevance"
  let contextCov := numScore evaluation "context_coverage"
  let faithfulness := numScore evaluation "faithfulness"
  let completeness := numScore evaluation "completeness"
  taxonomyEntries failureType ++
    retrievalEntries failureType retrieval retrievalRel ++
    answerEntries failureType retrieval retrievalRel contextCov faithfulness ++
    coverageEntries contextCov ++
    thinEntries retrieval contextQ ++
    costEntries failureType genJudge.totalCostUsd
      [faithfulness, completeness, retrievalRel, contextCov]

/-- `computeRunDiagnosisSummary`. -/
def computeRunDiagnosisSummary (detail : RunDetail) (retrieval : RetrievalDiagnosisModel)
    (contextQ : ContextQualityModel) (genJudge : GenerationJudgeInsightsModel) :
    List SummaryEntry :=
  let lines := pushedEntries detail.evaluation retrieval contextQ genJudge
  if lines = [] then [.line okLine] else lines

/-- The summary of a run with the models derived from it, as the page shows it. -/
def runDiagnosisSummary (builtins : Builtins) (detail : RunDetail) : List SummaryEntry :=
  computeRunDiagnosisSummary detail
    (computeRetrievalDiagnosis builtins detail.retrievalHits)
    (computeContextQuality builtins detail.retrievalHits detail.topK)
    (extractGenerationJudgeInsights detail.generation detail.evaluation)

/-! ## When the summary clears a run -/

/-- The characters of all hits. -/
def contextChars (hits : List RetrievalHit) : ℕ :=
  (hits.map fun h => (codeUnits h.body).length).sum

/-- Something in the payload that speaks against a run. -/
inductive RedFlag (detail : RunDetail) : Prop
  | noHits (hnone : detail.retrievalHits = [])
  | failureLabel (label : FailureType) (hlabel : failureTypeOf detail.evaluation = some label.value)
      (hfailure : label ≠ .noFailure)
  | inheritedLabel (label : String) (hlabel : failureTypeOf detail.evaluation = some label)
      (hinherited : label ∈ inheritedProperties)
  | weakRetrieval (first : RetrievalHit) (hfirst : (byRank detail.retrievalHits).head? = some first)
      (hlow : first.score < 38 / 100)
      (hrelevance : ∀ rel, numScore detail.evaluation "retrieval_relevance" = some rel →
        rel < 45 / 100)
  | unsupported (faithfulness coverage : Number)
      (hfaithfulness : numScore detail.evaluation "faithfulness" = some faithfulness)
      (hcoverage : numScore detail.evaluation "context_coverage" = some coverage)
      (hlow : faithfulness < 45 / 100) (hhigh : 50 / 100 ≤ coverage)
  | lowCoverage (coverage : Number)
      (hcoverage : numScore detail.evaluation "context_coverage" = some coverage)
      (hlow : coverage < 42 / 100)
  | thinContext (hthin : contextChars detail.retrievalHits < 450 ∨
      contextChars detail.retrievalHits < 120 * detail.retrievalHits.length)
  | costly (label : String) (cost : Number)
      (hlabel : failureTypeOf detail.evaluation = some label) (hfailure : label ≠ "NO_FAILURE")
      (hcost : numScore detail.evaluation "cost_usd" = some cost) (hhigh : 8 / 1000 ≤ cost)
      (hweak : ∀ avg, avgWeak
        (["faithfulness", "completeness", "retrieval_relevance", "context_coverage"].map
          (numScore detail.evaluation)) = some avg → avg < 55 / 100)

/-! ### What the rules fire on -/

section

variable {failureType : Option String} {retrieval : RetrievalDiagnosisModel}
  {retrievalRel contextCov faithfulness cost : Option Number} {entry : SummaryEntry}

/-- The labels with a line of their own. -/
def tailoredLabels : List FailureType :=
  [.contextInsufficient, .retrievalPartial, .chunkFragmentation, .contextTruncation,
    .mixedFailure, .unknown]

theorem keys_failureTaxonomySummary :
    failureTaxonomySummary.map Prod.fst = tailoredLabels.map FailureType.value := rfl

theorem taxonomyEntries_eq_nil_iff :
    taxonomyEntries failureType = [] ↔ ∀ label, failureType = some label →
      label ∉ tailoredLabels.map FailureType.value ∧ label ∉ inheritedProperties := by
  have hlookup : ∀ (table : List (String × DiagnosisSummaryLine)) (label : String),
      table.lookup label = none ↔ label ∉ table.map Prod.fst := by
    intro table label
    rw [List.lookup_eq_none_iff, List.mem_map]
    constructor
    · rintro h ⟨member, hmember, rfl⟩
      simpa using h member hmember
    · intro h member hmember
      rw [bne_iff_ne]
      rintro rfl
      exact h ⟨member, hmember, rfl⟩
  cases failureType with
  | none => simp [taxonomyEntries]
  | some label =>
      simp only [taxonomyEntries, Option.some.injEq, forall_eq']
      rw [← keys_failureTaxonomySummary, ← hlookup]
      cases failureTaxonomySummary.lookup label with
      | some line => simp
      | none => by_cases h : label ∈ inheritedProperties <;> simp [h]

/-- A list pushed under a condition is empty when the condition fails. -/
theorem ite_singleton_eq_nil_iff {condition : Prop} [Decidable condition]
    {rest : List SummaryEntry} :
    (if condition then [entry] else rest) = [] ↔ ¬condition ∧ rest = [] := by
  by_cases h : condition <;> simp [h]

theorem retrievalEntries_eq_nil_iff :
    retrievalEntries failureType retrieval retrievalRel = [] ↔
      (retrieval.hitCount ≠ 0 ∧ failureType ≠ some "RETRIEVAL_MISS") ∧
        ¬((∃ top, retrieval.topScore = some top ∧ top < lowTopScore) ∧
          ∀ rel, retrievalRel = some rel → rel < 45 / 100) := by
  rw [retrievalEntries, ite_singleton_eq_nil_iff, ite_singleton_eq_nil_iff, not_or,
    Option.any_eq_true, Option.all_eq_true]
  simp only [decide_eq_true_eq, and_true, ne_eq]

theorem answerEntries_eq_nil_iff :
    answerEntries failureType retrieval retrievalRel contextCov faithfulness = [] ↔
      (failureType ≠ some "ANSWER_UNSUPPORTED" ∧ failureType ≠ some "ANSWER_INCOMPLETE") ∧
        ¬((∃ f, faithfulness = some f ∧ f < 45 / 100) ∧
          ∃ c, contextCov = some c ∧ 50 / 100 ≤ c) := by
  simp only [answerEntries, ite_singleton_eq_nil_iff, not_or, Option.any_eq_true,
    decide_eq_true_eq, and_true]
  -- The first branch is a case of the second condition.
  constructor
  · exact And.right
  · rintro ⟨⟨hunsupported, hincomplete⟩, hscores⟩
    exact ⟨fun hfirst => hfirst.1.elim hunsupported hincomplete,
      ⟨hunsupported, hincomplete⟩, hscores⟩

theorem coverageEntries_eq_nil_iff :
    coverageEntries contextCov = [] ↔ ¬∃ c, contextCov = some c ∧ c < 42 / 100 := by
  rw [coverageEntries, ite_singleton_eq_nil_iff, Option.any_eq_true]
  simp only [decide_eq_true_eq, and_true]

theorem thinEntries_eq_nil_iff {contextQ : ContextQualityModel} :
    thinEntries retrieval contextQ = [] ↔
      ¬(contextQ.thinContext = true ∧ 0 < retrieval.hitCount) := by
  rw [thinEntries, ite_singleton_eq_nil_iff, and_iff_left rfl]

theorem costEntries_eq_nil_iff {scores : List (Option Number)} :
    costEntries failureType cost scores = [] ↔
      ¬((∃ c, cost = some c ∧ 8 / 1000 ≤ c) ∧ failureType ≠ none ∧
        failureType ≠ some "NO_FAILURE" ∧
        ∀ avg, avgWeak scores = some avg → avg < 55 / 100) := by
  rw [costEntries, ite_singleton_eq_nil_iff, Option.any_eq_true, Option.all_eq_true,
    and_iff_left rfl]
  simp only [decide_eq_true_eq]

/-- A line under another key is another line. -/
theorem okLine_not_mem_ite {condition : Prop} [Decidable condition] {line : DiagnosisSummaryLine}
    {rest : List SummaryEntry} (hkey : okLine.key ≠ line.key) (hrest : .line okLine ∉ rest) :
    .line okLine ∉ if condition then [.line line] else rest := by
  split_ifs
  · rw [List.mem_singleton, SummaryEntry.line.injEq]
    exact fun heq => hkey (congrArg DiagnosisSummaryLine.key heq)
  · exact hrest

/-- No rule pushes the line of a run without red flags. -/
theorem okLine_not_pushed (evaluation : Option JsonObject) (retrieval : RetrievalDiagnosisModel)
    (contextQ : ContextQualityModel) (genJudge : GenerationJudgeInsightsModel) :
    .line okLine ∉ pushedEntries evaluation retrieval contextQ genJudge := by
  have hkey : okLine.key ∉ failureTaxonomySummary.map fun member => member.2.key := by decide
  simp only [pushedEntries, List.mem_append, not_or]
  refine ⟨⟨⟨⟨⟨?_, ?_⟩, ?_⟩, ?_⟩, ?_⟩, ?_⟩
  · unfold taxonomyEntries
    split
    · exact List.not_mem_nil
    · split
      · rename_i hline
        obtain ⟨before, after, htable, -⟩ := List.lookup_eq_some_iff.mp hline
        rw [List.mem_singleton, SummaryEntry.line.injEq]
        rintro rfl
        exact hkey (by rw [htable]; simp)
      · split_ifs <;> simp
  · unfold retrievalEntries
    exact okLine_not_mem_ite (by decide) (okLine_not_mem_ite (by decide) List.not_mem_nil)
  · unfold answerEntries
    exact okLine_not_mem_ite (show "ok" ≠ "generation-likely" by decide)
      (okLine_not_mem_ite (by decide) List.not_mem_nil)
  · unfold coverageEntries
    exact okLine_not_mem_ite (by decide) List.not_mem_nil
  · unfold thinEntries
    exact okLine_not_mem_ite (by decide) List.not_mem_nil
  · unfold costEntries
    exact okLine_not_mem_ite (by decide) List.not_mem_nil

theorem computeRunDiagnosisSummary_eq_ok_iff (detail : RunDetail)
    (retrieval : RetrievalDiagnosisModel) (contextQ : ContextQualityModel)
    (genJudge : GenerationJudgeInsightsModel) :
    computeRunDiagnosisSummary detail retrieval contextQ genJudge = [.line okLine] ↔
      pushedEntries detail.evaluation retrieval contextQ genJudge = [] := by
  simp only [computeRunDiagnosisSummary]
  split_ifs with h
  · simp [h]
  · rw [iff_false_right h]
    intro hok
    exact okLine_not_pushed detail.evaluation retrieval contextQ genJudge
      (hok ▸ List.mem_singleton_self _)

end

/-! ### The derived models -/

section

variable {builtins : Builtins} {hits : List RetrievalHit}

@[simp] theorem length_byRank : (byRank hits).length = hits.length :=
  List.length_insertionSort _ hits

theorem hitCount_eq : (computeRetrievalDiagnosis builtins hits).hitCount = hits.length :=
  length_byRank

theorem topScore_eq : (computeRetrievalDiagnosis builtins hits).topScore =
    (byRank hits).head?.map RetrievalHit.score := by
  rw [List.head?_eq_getElem?]
  rfl

theorem totalChars_eq (topK : Number) :
    (computeContextQuality builtins hits topK).totalChars = contextChars hits := by
  have hperm : (byRank hits).Perm hits := List.perm_insertionSort _ hits
  show (((byRank hits).map _).map ContextChunkRow.lengthChars).sum = _
  rw [List.map_map, contextChars]
  exact (hperm.map _).sum_eq

/-- Context is thin below either bound. -/
theorem thinContext_iff (topK : Number) :
    (computeContextQuality builtins hits topK).thinContext = true ↔
      hits ≠ [] ∧ (contextChars hits < 450 ∨ contextChars hits < 120 * hits.length) := by
  have hcount : (computeContextQuality builtins hits topK).chunkRows.length = hits.length := by
    show ((byRank hits).map _).length = _
    rw [List.length_map, length_byRank]
  have hthin : (computeContextQuality builtins hits topK).thinContext =
      isThinContext (computeContextQuality builtins hits topK).chunkRows.length
        (computeContextQuality builtins hits topK).totalChars
        (averageChars (computeContextQuality builtins hits topK).chunkRows.length
          (computeContextQuality builtins hits topK).totalChars) := rfl
  rw [hthin, hcount, totalChars_eq, isThinContext, averageChars, Bool.and_eq_true,
    decide_eq_true_eq, List.length_pos_iff]
  refine and_congr_right fun hne => ?_
  have hpos : (0 : ℚ) < hits.length := by exact_mod_cast List.length_pos_iff.mpr hne
  rw [if_neg (by simpa using hne), Bool.or_eq_true, decide_eq_true_eq, Option.any_some,
    decide_eq_true_eq, div_lt_iff₀ hpos]
  exact or_congr Iff.rfl (by exact_mod_cast Iff.rfl)

end

/-- Every failure label has a line of its own or fires a rule. -/
theorem label_has_rule {label : FailureType} (h : label ≠ .noFailure) :
    label ∈ tailoredLabels ∨ label.value = "RETRIEVAL_MISS" ∨
      label.value = "ANSWER_UNSUPPORTED" ∨ label.value = "ANSWER_INCOMPLETE" := by
  cases label <;> simp_all [tailoredLabels, FailureType.value]

/-- **When the summary clears a run**: when nothing in its payload is a red flag. -/
theorem summary_eq_ok_iff (builtins : Builtins) (detail : RunDetail) :
    runDiagnosisSummary builtins detail = [.line okLine] ↔ ¬RedFlag detail := by
  rw [runDiagnosisSummary, computeRunDiagnosisSummary_eq_ok_iff]
  simp only [pushedEntries, List.append_eq_nil_iff, taxonomyEntries_eq_nil_iff,
    retrievalEntries_eq_nil_iff, answerEntries_eq_nil_iff, coverageEntries_eq_nil_iff,
    thinEntries_eq_nil_iff, costEntries_eq_nil_iff, hitCount_eq, topScore_eq, thinContext_iff]
  constructor
  · rintro ⟨⟨⟨⟨⟨htaxonomy, hretrieval⟩, hanswer⟩, hcoverage⟩, hthin⟩, hcost⟩ hflag
    have hhits : detail.retrievalHits ≠ [] := fun hnil => hretrieval.1.1 (by rw [hnil]; rfl)
    cases hflag with
    | noHits hnone => exact hhits hnone
    | failureLabel label hlabel hfailure =>
        rcases label_has_rule hfailure with htailored | hmiss | hunsupported | hincomplete
        · exact (htaxonomy _ hlabel).1 (List.mem_map_of_mem htailored)
        · exact hretrieval.1.2 (hlabel.trans (congrArg _ hmiss))
        · exact hanswer.1.1 (hlabel.trans (congrArg _ hunsupported))
        · exact hanswer.1.2 (hlabel.trans (congrArg _ hincomplete))
    | inheritedLabel label hlabel hinherited => exact (htaxonomy _ hlabel).2 hinherited
    | weakRetrieval first hfirst hlow hrelevance =>
        exact hretrieval.2 ⟨⟨first.score, by rw [hfirst, Option.map_some], hlow⟩, hrelevance⟩
    | unsupported f c hf hc hlow hhigh => exact hanswer.2 ⟨⟨f, hf, hlow⟩, c, hc, hhigh⟩
    | lowCoverage c hc hlow => exact hcoverage ⟨c, hc, hlow⟩
    | thinContext hbounds => exact hthin ⟨⟨hhits, hbounds⟩, List.length_pos_iff.mpr hhits⟩
    | costly label cost hlabel hfailure hcosts hhigh hweak =>
        refine hcost ⟨⟨cost, hcosts, hhigh⟩, ?_, ?_, hweak⟩
        · simp [hlabel]
        · simp [hlabel, hfailure]
  · intro hnone
    have hlabel : ∀ label : FailureType, label ≠ .noFailure →
        failureTypeOf detail.evaluation ≠ some label.value := fun label hfailure hlabel =>
      hnone (.failureLabel label hlabel hfailure)
    refine ⟨⟨⟨⟨⟨?_, ⟨?_, ?_⟩, ?_⟩, ⟨?_, ?_⟩, ?_⟩, ?_⟩, ?_⟩, ?_⟩
    · refine fun name hname => ⟨fun htailored => ?_, fun hinherited =>
        hnone (.inheritedLabel name hname hinherited)⟩
      obtain ⟨label, hmember, rfl⟩ := List.mem_map.mp htailored
      have hfailure : label ≠ .noFailure := by
        rintro rfl
        exact absurd hmember (by decide)
      exact hlabel label hfailure hname
    · exact fun hzero => hnone (.noHits (List.length_eq_zero_iff.mp hzero))
    · exact hlabel .retrievalMiss (by decide)
    · rintro ⟨⟨top, htop, hlow⟩, hrelevance⟩
      obtain ⟨first, hfirst, rfl⟩ := Option.map_eq_some_iff.mp htop
      exact hnone (.weakRetrieval first hfirst hlow hrelevance)
    · exact hlabel .answerUnsupported (by decide)
    · exact hlabel .answerIncomplete (by decide)
    · rintro ⟨⟨f, hf, hlow⟩, c, hc, hhigh⟩
      exact hnone (.unsupported f c hf hc hlow hhigh)
    · rintro ⟨c, hc, hlow⟩
      exact hnone (.lowCoverage c hc hlow)
    · exact fun hthin => hnone (.thinContext hthin.1.2)
    · rintro ⟨⟨cost, hcost, hhigh⟩, hsome, hfailure, hweak⟩
      obtain ⟨label, hlabel⟩ := Option.ne_none_iff_exists'.mp hsome
      refine hnone (.costly label cost hlabel (fun hno => hfailure ?_) hcost hhigh hweak)
      rw [hlabel, hno]

/-- **When the summary gives no false all-clear**: unless the run has failed and nothing in
its payload is a red flag. -/
theorem summary_never_clears_iff (builtins : Builtins) (detail : RunDetail) :
    ((detail.status = "failed" ∨ ∃ label : FailureType, label ≠ .noFailure ∧
        failureTypeOf detail.evaluation = some label.value) →
      runDiagnosisSummary builtins detail ≠ [.line okLine]) ↔
    (detail.status ≠ "failed" ∨ RedFlag detail) := by
  rw [ne_eq, summary_eq_ok_iff, not_not]
  constructor
  · intro h
    by_cases hstatus : detail.status = "failed"
    · exact Or.inr (h (Or.inl hstatus))
    · exact Or.inl hstatus
  · rintro (hstatus | hflag) (hfailed | ⟨label, hne, hlabel⟩)
    · exact absurd hfailed hstatus
    · exact .failureLabel label hlabel hne
    · exact hflag
    · exact hflag

/-- A good hit with `n` characters. -/
def plainHit (n : ℕ) (rank : Number) : RetrievalHit where
  rank := rank
  score := 60 / 100
  documentId := rank
  content := some (String.ofList (List.replicate n 'a'))

theorem length_plainHit (n : ℕ) (rank : Number) :
    (codeUnits (plainHit n rank).body).length = n := by
  simp [plainHit, RetrievalHit.body, codeUnits, List.length_flatMap]

/-- A run that failed after its retrieval: two good hits with enough text, no evaluation. -/
def failedAfterRetrieval : RunDetail where
  runId := 1
  status := "failed"
  queryCaseId := 1
  pipelineConfigId := 1
  topK := 5
  retrievalHits := [plainHit 250 1, plainHit 250 2]
  generation := none
  evaluation := none

/-- The summary of that run says that there are no red flags. -/
theorem failed_run_is_cleared :
    ¬∀ (builtins : Builtins) (detail : RunDetail),
      (detail.status = "failed" ∨ ∃ label : FailureType, label ≠ .noFailure ∧
          failureTypeOf detail.evaluation = some label.value) →
        runDiagnosisSummary builtins detail ≠ [.line okLine] := by
  intro h
  refine h { numberText := fun _ => "", toLowerCase := id } failedAfterRetrieval (Or.inl rfl) ?_
  have hchars : contextChars failedAfterRetrieval.retrievalHits = 500 := by
    simp [contextChars, failedAfterRetrieval, length_plainHit]
  refine (summary_eq_ok_iff _ _).mpr fun hflag => ?_
  cases hflag with
  | noHits hnone => cases hnone
  | failureLabel label hlabel _ => cases hlabel
  | inheritedLabel label hlabel _ => cases hlabel
  | weakRetrieval first hfirst hlow _ =>
      have hscore : first.score = 60 / 100 := by
        have hmem : first ∈ failedAfterRetrieval.retrievalHits :=
          (List.mem_insertionSort _).mp (List.mem_of_head? hfirst)
        rcases List.mem_pair.mp hmem with rfl | rfl <;> rfl
      rw [hscore] at hlow
      norm_num at hlow
  | unsupported f c hf _ _ _ => cases hf
  | lowCoverage c hc _ => cases hc
  | thinContext hthin =>
      have htwo : failedAfterRetrieval.retrievalHits.length = 2 := rfl
      rw [hchars, htwo] at hthin
      omega
  | costly label cost hlabel _ _ _ _ => cases hlabel

end ContextLens
