import ContextLens.RunDiagnosis

/-!
# The diff of two runs

`runDiff.ts` of the frontend: a table of rows that compare a run B with a run A, each with the
values of the two and a verdict on B.

A row reads the same things of both runs, so it is a `DiffRowKind`: what it shows of one run
and how it compares two.  Every comparison is its own mirror image when the runs change
places, and so is the table: `diff_swap`.
-/

namespace ContextLens

open Foundations Javascript

/-! ## Verdicts -/

/-- `DiffVerdict`: how B compares with A. -/
inductive DiffVerdict
  | improved
  | worse
  | same
  | unknown
  deriving DecidableEq, Repr

/-- The verdict on A. -/
def DiffVerdict.mirror : DiffVerdict → DiffVerdict
  | improved => worse
  | worse => improved
  | same => same
  | unknown => unknown

@[simp] theorem DiffVerdict.mirror_mirror (v : DiffVerdict) : v.mirror.mirror = v := by
  cases v <;> rfl

/-- `EPS`. -/
def diffEps : Number := 1 / 10 ^ 6

/-- `compareNumbers`; every number is finite. -/
def compareNumbers (higherIsBetter : Bool) (a b : Option Number) : DiffVerdict :=
  match a, b with
  | some a, some b =>
      if |a - b| ≤ diffEps then .same
      else if higherIsBetter then if a < b then .improved else .worse
      else if b < a then .improved else .worse
  | _, _ => .unknown

/-- `compareFailureTypes`. -/
def compareFailureTypes (a b : Option String) : DiffVerdict :=
  let good (t : Option String) := t = some "NO_FAILURE"
  if a = none ∧ b = none then .unknown
  else if a = b then .same
  else if good b ∧ ¬good a then .improved
  else if good a ∧ ¬good b then .worse
  else .unknown

/-- `compareLifecycleStatus`. -/
def compareLifecycleStatus (a b : String) : DiffVerdict :=
  if a = b then .same
  else if a = "completed" ∧ b = "failed" then .worse
  else if a = "failed" ∧ b = "completed" then .improved
  else if a = "completed" ∧ b ≠ "completed" ∧ b ≠ "failed" then .unknown
  else if b = "completed" ∧ a ≠ "completed" ∧ a ≠ "failed" then .unknown
  else .unknown

/-! ## What is read of one run -/

/-- `evNum`. -/
def evNum (ev : Option JsonObject) (key : String) : Option Number :=
  ev.bind fun members => numMember members key

/-- `hasGenerationAnswer`. -/
def hasGenerationAnswer (gen : Option JsonObject) : Bool :=
  match gen.bind fun members => members.get "answer_text" with
  | some (.str answer) => decide (trim answer ≠ "")
  | _ => false

section

variable (builtins : Builtins)

/-- `evFailure`. -/
def evFailure (ev : Option JsonObject) : Option String :=
  match ev.bind fun members => members.get "failure_type" with
  | none | some .null | some (.str "") => none
  | some value => some (stringOf builtins value)

/-- `fmt`. -/
def fmt (n : Option Number) : String := n.elim "Unknown" (toFixed builtins 4)

/-- `fmtScore`, over `formatScore`. -/
def fmtScore (n : Option Number) : String := n.elim "Unknown" (toFixed builtins 3)

/-- `formatUsd`. -/
def formatUsd : Option Number → String
  | none => "N/A"
  | some n =>
      if n = 0 then "$0.00" else usdText (if |n| < 1 / 100 then 6 else 4) n

/-- A run and the models derived from it. -/
structure DiffSide where
  run : RunDetail
  retrieval : RetrievalDiagnosisModel
  context : ContextQualityModel
  insights : GenerationJudgeInsightsModel

/-- The models of a run. -/
def diffSide (run : RunDetail) : DiffSide where
  run := run
  retrieval := computeRetrievalDiagnosis builtins run.retrievalHits
  context := computeContextQuality builtins run.retrievalHits run.topK
  insights := extractGenerationJudgeInsights run.generation run.evaluation

/-! ## The rows -/

/-- `RunDiffRow`. -/
structure RunDiffRow where
  id : String
  label : String
  aValue : String
  bValue : String
  verdict : DiffVerdict
  deriving DecidableEq, Repr

/-- What a row shows of one run and how it compares two. -/
structure DiffRowKind where
  id : String
  label : String
  value : DiffSide → String
  verdict : DiffSide → DiffSide → DiffVerdict

/-- The row of two runs. -/
def DiffRowKind.row (kind : DiffRowKind) (a b : DiffSide) : RunDiffRow where
  id := kind.id
  label := kind.label
  aValue := kind.value a
  bValue := kind.value b
  verdict := kind.verdict a b

/-- A row that compares numbers. -/
def numberRow (id label : String) (higherIsBetter : Bool) (number : DiffSide → Option Number)
    (value : DiffSide → String) : DiffRowKind where
  id := id
  label := label
  value := value
  verdict a b := compareNumbers higherIsBetter (number a) (number b)

/-- `thinVerdict`. -/
def thinVerdict (a b : ContextQualityModel) : DiffVerdict :=
  if a.chunkRows.length = 0 ∨ b.chunkRows.length = 0 then .unknown
  else if a.thinContext ∧ ¬b.thinContext then .improved
  else if ¬a.thinContext ∧ b.thinContext then .worse
  else .same

/-- `genVerdict`. -/
def genVerdict (aGen bGen : Bool) : DiffVerdict :=
  if aGen = bGen then .same
  else if !aGen && bGen then .improved
  else if aGen && !bGen then .worse
  else .unknown

/-- The row of a score of the evaluation. -/
def scoreRow (key label : String) : DiffRowKind :=
  numberRow key label true (fun side => evNum side.run.evaluation key)
    fun side => fmtScore builtins (evNum side.run.evaluation key)

/-- The rows in order. -/
def diffRowKinds : List DiffRowKind :=
  [{ id := "lifecycle"
     label := "Run status"
     value := fun side => side.run.status
     verdict := fun a b => compareLifecycleStatus a.run.status b.run.status },
   numberRow "retrieval_hits" "Retrieval hit count" true
     (fun side => some (side.retrieval.hitCount : ℚ))
     (fun side => toString side.retrieval.hitCount),
   numberRow "top_score" "Top retrieval score" true (fun side => side.retrieval.topScore)
     (fun side => fmt builtins side.retrieval.topScore),
   numberRow "rank_gap" "Rank 1 − rank 2 score gap" true
     (fun side => side.retrieval.rank1MinusRank2)
     (fun side => fmt builtins side.retrieval.rank1MinusRank2),
   numberRow "context_chunks" "Context chunks (count)" true
     (fun side => some (side.context.chunkRows.length : ℚ))
     (fun side => toString side.context.chunkRows.length),
   numberRow "context_chars" "Total context characters" true
     (fun side => some (side.context.totalChars : ℚ))
     (fun side => toString side.context.totalChars),
   { id := "thin_context"
     label := "Thin context heuristic"
     value := fun side =>
       if side.context.chunkRows.length = 0 then "Unknown"
       else if side.context.thinContext then "Yes (thin)" else "No"
     verdict := fun a b => thinVerdict a.context b.context },
   { id := "generation_answer"
     label := "Generated answer present"
     value := fun side => if hasGenerationAnswer side.run.generation then "Yes" else "No"
     verdict := fun a b =>
       genVerdict (hasGenerationAnswer a.run.generation) (hasGenerationAnswer b.run.generation) },
   { id := "gen_output_tokens"
     label := "Generation output tokens"
     value := fun side => side.insights.genOutputTokens.elim "Unknown" builtins.numberText
     verdict := fun _ _ => .unknown },
   numberRow "cost_usd" "Evaluation cost (USD)" false (fun side => side.insights.totalCostUsd)
     (fun side => formatUsd side.insights.totalCostUsd),
   { id := "failure_type"
     label := "Failure type"
     value := fun side => (evFailure builtins side.run.evaluation).getD "Unknown"
     verdict := fun a b => compareFailureTypes (evFailure builtins a.run.evaluation)
       (evFailure builtins b.run.evaluation) },
   scoreRow builtins "retrieval_relevance" "Retrieval relevance (eval)",
   scoreRow builtins "context_coverage" "Context coverage (eval)",
   scoreRow builtins "faithfulness" "Faithfulness",
   scoreRow builtins "completeness" "Completeness"]

/-! ## The model -/

/-- `RunDiffModel`. -/
structure RunDiffModel where
  baseRunId : Number
  compareRunId : Number
  warnings : List String
  summaryLines : List String
  rows : List RunDiffRow

/-- The warnings about what makes two runs hard to compare. -/
def diffWarnings (base compare : RunDetail) : List String :=
  (if base.queryCaseId ≠ compare.queryCaseId then
    ["These runs use different query cases — compare trends only; answers are not for the same " ++
      "question text."]
  else []) ++
  (if base.pipelineConfigId ≠ compare.pipelineConfigId then
    ["Pipeline configs differ — retrieval and scoring are not apples-to-apples."]
  else [])

/-- The line for an improvement of one of two rows, else for a change to the worse. -/
def headline (rows : List RunDiffRow) (ids : List String) (improved worse : String) :
    List String :=
  let verdicts := ids.map fun id =>
    (rows.find? fun row => row.id = id).map RunDiffRow.verdict
  if some DiffVerdict.improved ∈ verdicts then [improved]
  else if some DiffVerdict.worse ∈ verdicts then [worse]
  else []

/-- `buildDiffSummaryLines`. -/
def buildDiffSummaryLines (rows : List RunDiffRow) (warnings : List String)
    (costA costB : Option Number) : List String :=
  let lines :=
    headline rows ["retrieval_hits", "top_score"]
      "Run B has stronger retrieval signals (more hits and/or a higher top score)."
      "Run B shows weaker retrieval than run A." ++
    headline rows ["thin_context"]
      "Run B moves away from “thin” context vs run A."
      "Run B looks thinner on context volume than run A." ++
    headline rows ["failure_type"]
      "Run B has a cleaner failure label (closer to NO_FAILURE)."
      "Run B shows a worse failure label than run A." ++
    headline rows ["faithfulness", "context_coverage"]
      "Run B scores higher on at least one key evaluation metric."
      "Run B scores lower on at least one key evaluation metric."
  let withCost :=
    match costA, costB with
    | some costA, some costB =>
        if costA + 1 / 10 ^ 9 < costB ∧ lines.all fun line => !mentions "cost" line then
          lines ++ ["Run B records higher evaluation cost — weigh against quality gains above."]
        else lines
    | _, _ => lines
  let told :=
    if withCost = [] then
      ["No strong automatic differences detected on the rows below — inspect values manually."]
    else withCost
  (told ++
    if warnings = [] then []
    else ["Note: configuration or query mismatch — treat this diff as directional, not " ++
      "exact."]).take 5

/-- `buildRunDiffModel`. -/
def buildRunDiffModel (base compare : RunDetail) : RunDiffModel :=
  let a := diffSide builtins base
  let b := diffSide builtins compare
  let rows := (diffRowKinds builtins).map fun kind => kind.row a b
  let warnings := diffWarnings base compare
  { baseRunId := base.runId
    compareRunId := compare.runId
    warnings := warnings
    summaryLines := buildDiffSummaryLines rows warnings a.insights.totalCostUsd
      b.insights.totalCostUsd
    rows := rows }

end

/-! ## Each comparison is its own mirror image -/

theorem compareNumbers_swap (higherIsBetter : Bool) (a b : Option Number) :
    compareNumbers higherIsBetter b a = (compareNumbers higherIsBetter a b).mirror := by
  cases a with
  | none => cases b <;> rfl
  | some a =>
      cases b with
      | none => rfl
      | some b =>
          simp only [compareNumbers, abs_sub_comm b a]
          by_cases heps : |a - b| ≤ diffEps
          · simp [heps, DiffVerdict.mirror]
          · have hne : a ≠ b := by
              rintro rfl
              exact heps (by rw [sub_self, abs_zero, diffEps]; positivity)
            rw [if_neg heps, if_neg heps]
            -- Exactly one of the two is the larger.
            rcases lt_or_gt_of_ne hne with hlt | hlt
            · cases higherIsBetter <;> simp [hlt, hlt.not_gt, DiffVerdict.mirror]
            · cases higherIsBetter <;> simp [hlt, hlt.not_gt, DiffVerdict.mirror]

theorem compareFailureTypes_swap (a b : Option String) :
    compareFailureTypes b a = (compareFailureTypes a b).mirror := by
  simp only [compareFailureTypes, eq_comm (a := b) (b := a), and_comm (a := b = none)]
  by_cases hnone : a = none ∧ b = none
  · rw [if_pos hnone, if_pos hnone]
    rfl
  · rw [if_neg hnone, if_neg hnone]
    by_cases hsame : a = b
    · rw [if_pos hsame, if_pos hsame]
      rfl
    · rw [if_neg hsame, if_neg hsame]
      by_cases ha : a = some "NO_FAILURE"
      · have hb : b ≠ some "NO_FAILURE" := fun hb => hsame (ha.trans hb.symm)
        simp [ha, hb, DiffVerdict.mirror]
      · by_cases hb : b = some "NO_FAILURE" <;> simp [ha, hb, DiffVerdict.mirror]

theorem compareLifecycleStatus_swap (a b : String) :
    compareLifecycleStatus b a = (compareLifecycleStatus a b).mirror := by
  simp only [compareLifecycleStatus, eq_comm (a := b) (b := a), ite_self]
  by_cases hsame : a = b
  · rw [if_pos hsame, if_pos hsame]
    rfl
  · rw [if_neg hsame, if_neg hsame]
    by_cases hworse : a = "completed" ∧ b = "failed"
    · obtain ⟨rfl, rfl⟩ := hworse
      rfl
    · by_cases himproved : a = "failed" ∧ b = "completed"
      · obtain ⟨rfl, rfl⟩ := himproved
        rfl
      · rw [if_neg hworse, if_neg himproved, if_neg fun h => himproved h.symm,
          if_neg fun h => hworse h.symm]
        rfl

theorem thinVerdict_swap (a b : ContextQualityModel) :
    thinVerdict b a = (thinVerdict a b).mirror := by
  simp only [thinVerdict, or_comm (a := b.chunkRows.length = 0)]
  by_cases hempty : a.chunkRows.length = 0 ∨ b.chunkRows.length = 0
  · rw [if_pos hempty, if_pos hempty]
    rfl
  · rw [if_neg hempty, if_neg hempty]
    cases a.thinContext <;> cases b.thinContext <;> rfl

theorem genVerdict_swap (aGen bGen : Bool) :
    genVerdict bGen aGen = (genVerdict aGen bGen).mirror := by
  cases aGen <;> cases bGen <;> rfl

/-- Swap the two runs of a row. -/
def RunDiffRow.swap (row : RunDiffRow) : RunDiffRow :=
  { row with
    aValue := row.bValue
    bValue := row.aValue
    verdict := row.verdict.mirror }

theorem numberRow_swap (id label : String) (higherIsBetter : Bool)
    (number : DiffSide → Option Number) (value : DiffSide → String) (a b : DiffSide) :
    (numberRow id label higherIsBetter number value).verdict b a =
      ((numberRow id label higherIsBetter number value).verdict a b).mirror :=
  compareNumbers_swap higherIsBetter (number a) (number b)

theorem verdict_swap (builtins : Builtins) {kind : DiffRowKind}
    (hkind : kind ∈ diffRowKinds builtins) (a b : DiffSide) :
    kind.verdict b a = (kind.verdict a b).mirror := by
  simp only [diffRowKinds, List.mem_cons, List.not_mem_nil, or_false] at hkind
  rcases hkind with rfl | rfl | rfl | rfl | rfl | rfl | rfl | rfl | rfl | rfl | rfl | rfl | rfl |
    rfl | rfl
  · exact compareLifecycleStatus_swap a.run.status b.run.status
  · exact numberRow_swap _ _ _ _ _ a b
  · exact numberRow_swap _ _ _ _ _ a b
  · exact numberRow_swap _ _ _ _ _ a b
  · exact numberRow_swap _ _ _ _ _ a b
  · exact numberRow_swap _ _ _ _ _ a b
  · exact thinVerdict_swap a.context b.context
  · exact genVerdict_swap _ _
  · rfl
  · exact numberRow_swap _ _ _ _ _ a b
  · exact compareFailureTypes_swap _ _
  all_goals exact numberRow_swap _ _ _ _ _ a b

theorem diffWarnings_swap (a b : RunDetail) : diffWarnings b a = diffWarnings a b := by
  simp only [diffWarnings, ne_eq, eq_comm (a := b.queryCaseId) (b := a.queryCaseId),
    eq_comm (a := b.pipelineConfigId) (b := a.pipelineConfigId)]

/-- **Swapping the runs swaps every verdict.** -/
theorem diff_swap (builtins : Builtins) (a b : RunDetail) :
    (buildRunDiffModel builtins b a).rows.map RunDiffRow.id =
        (buildRunDiffModel builtins a b).rows.map RunDiffRow.id ∧
      (buildRunDiffModel builtins b a).warnings = (buildRunDiffModel builtins a b).warnings ∧
      (buildRunDiffModel builtins b a).rows =
        (buildRunDiffModel builtins a b).rows.map RunDiffRow.swap := by
  have hids : ∀ a b, (buildRunDiffModel builtins a b).rows.map RunDiffRow.id =
      (diffRowKinds builtins).map DiffRowKind.id := by
    intro a b
    rw [buildRunDiffModel, List.map_map]
    rfl
  refine ⟨(hids b a).trans (hids a b).symm, diffWarnings_swap a b, ?_⟩
  rw [buildRunDiffModel, buildRunDiffModel, List.map_map]
  refine List.map_congr_left fun kind hkind => ?_
  have hverdict := verdict_swap builtins hkind (diffSide builtins a) (diffSide builtins b)
  simp only [Function.comp_apply, DiffRowKind.row, RunDiffRow.swap, hverdict]

end ContextLens
