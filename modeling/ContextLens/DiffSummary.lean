import ContextLens.RunDiff

/-!
# What the headlines of a diff say

`buildDiffSummaryLines` opens with the headlines, and two of them fold two rows each: the line
that praises run B is there as soon as one of the two rows improved, and only otherwise the
line that finds run B weaker.

Every verdict is mirrored when the runs change places, so the two orders praise their second
run alike just when the two rows disagree (`both_exceed_iff`).  That is what the texts say,
with "and/or" and with "at least one".
-/

namespace ContextLens

open Foundations Javascript

/-! ## The two lines -/

/-- The headline for a better retrieval. -/
def strongerRetrieval : String :=
  "Run B has stronger retrieval signals (more hits and/or a higher top score)."

/-- The headline for a better score. -/
def higherMetric : String := "Run B scores higher on at least one key evaluation metric."

/-- The headlines, which stand before the other lines. -/
def diffHeadlines (rows : List RunDiffRow) : List String :=
  headline rows ["retrieval_hits", "top_score"] strongerRetrieval
      "Run B shows weaker retrieval than run A." ++
    headline rows ["thin_context"]
      "Run B moves away from “thin” context vs run A."
      "Run B looks thinner on context volume than run A." ++
    headline rows ["failure_type"]
      "Run B has a cleaner failure label (closer to NO_FAILURE)."
      "Run B shows a worse failure label than run A." ++
    headline rows ["faithfulness", "context_coverage"] higherMetric
      "Run B scores lower on at least one key evaluation metric."

section

variable {rows : List RunDiffRow} {ids : List String} {improved worse line : String}

theorem not_mem_headline (himproved : line ≠ improved) (hworse : line ≠ worse) :
    line ∉ headline rows ids improved worse := by
  dsimp only [headline]
  split_ifs
  · exact fun h => himproved (List.mem_singleton.mp h)
  · exact fun h => hworse (List.mem_singleton.mp h)
  · exact List.not_mem_nil

/-- The praise is there when some row improved. -/
theorem improved_mem_headline_iff (hne : improved ≠ worse) :
    improved ∈ headline rows ids improved worse ↔ ∃ id ∈ ids,
      (rows.find? fun row => row.id = id).map RunDiffRow.verdict = some .improved := by
  rw [← List.mem_map]
  dsimp only [headline]
  split_ifs with himproved hworse
  · exact iff_of_true (List.mem_singleton_self _) himproved
  · exact iff_of_false (fun h => hne (List.mem_singleton.mp h)) himproved
  · exact iff_of_false List.not_mem_nil himproved

theorem strongerRetrieval_mem_diffHeadlines :
    strongerRetrieval ∈ diffHeadlines rows ↔ ∃ id ∈ ["retrieval_hits", "top_score"],
      (rows.find? fun row => row.id = id).map RunDiffRow.verdict = some .improved := by
  rw [diffHeadlines, List.mem_append, List.mem_append, List.mem_append,
    improved_mem_headline_iff (by decide),
    or_iff_left (not_mem_headline (by decide) (by decide)),
    or_iff_left (not_mem_headline (by decide) (by decide)),
    or_iff_left (not_mem_headline (by decide) (by decide))]

theorem higherMetric_mem_diffHeadlines :
    higherMetric ∈ diffHeadlines rows ↔ ∃ id ∈ ["faithfulness", "context_coverage"],
      (rows.find? fun row => row.id = id).map RunDiffRow.verdict = some .improved := by
  rw [diffHeadlines, List.mem_append, List.mem_append, List.mem_append,
    or_iff_right (not_mem_headline (by decide) (by decide)),
    or_iff_right (not_mem_headline (by decide) (by decide)),
    or_iff_right (not_mem_headline (by decide) (by decide)),
    improved_mem_headline_iff (by decide)]

theorem length_headline_le : (headline rows ids improved worse).length ≤ 1 := by
  dsimp only [headline]
  split_ifs <;> simp

theorem length_diffHeadlines_le : (diffHeadlines rows).length ≤ 4 := by
  have hone := @length_headline_le rows
  rw [diffHeadlines, List.length_append, List.length_append, List.length_append]
  have hretrieval := @hone ["retrieval_hits", "top_score"] strongerRetrieval
    "Run B shows weaker retrieval than run A."
  have hthin := @hone ["thin_context"] "Run B moves away from “thin” context vs run A."
    "Run B looks thinner on context volume than run A."
  have hfailure := @hone ["failure_type"]
    "Run B has a cleaner failure label (closer to NO_FAILURE)."
    "Run B shows a worse failure label than run A."
  have hscore := @hone ["faithfulness", "context_coverage"] higherMetric
    "Run B scores lower on at least one key evaluation metric."
  omega

/-! ## What follows the headlines -/

/-- The lines that a summary may close with. -/
def closingLines : List String :=
  ["Run B records higher evaluation cost — weigh against quality gains above.",
    "No strong automatic differences detected on the rows below — inspect values manually.",
    "Note: configuration or query mismatch — treat this diff as directional, not exact."]

/-- The line about the cost, when no line mentions it. -/
def addCostLine (costA costB : Option Number) (lines : List String) : List String :=
  match costA, costB with
  | some costA, some costB =>
      if costA + 1 / 10 ^ 9 < costB ∧ lines.all fun line => !mentions "cost" line then
        lines ++ ["Run B records higher evaluation cost — weigh against quality gains above."]
      else lines
  | _, _ => lines

/-- The line of a summary that would be empty. -/
def addNeutralLine (lines : List String) : List String :=
  if lines = [] then
    ["No strong automatic differences detected on the rows below — inspect values manually."]
  else lines

/-- The note on runs that are hard to compare. -/
def addNote (warnings lines : List String) : List String :=
  lines ++
    if warnings = [] then []
    else ["Note: configuration or query mismatch — treat this diff as directional, not " ++
      "exact."]

theorem buildDiffSummaryLines_eq (rows : List RunDiffRow) (warnings : List String)
    (costA costB : Option Number) :
    buildDiffSummaryLines rows warnings costA costB =
      (addNote warnings
        (addNeutralLine (addCostLine costA costB (diffHeadlines rows)))).take 5 := by
  rfl

theorem addCostLine_closing (costA costB : Option Number) (lines : List String) :
    ∃ closing ⊆ closingLines, addCostLine costA costB lines = lines ++ closing := by
  unfold addCostLine
  split
  · split_ifs
    · exact ⟨_, by simp [closingLines], rfl⟩
    · exact ⟨[], List.nil_subset _, (List.append_nil _).symm⟩
  · exact ⟨[], List.nil_subset _, (List.append_nil _).symm⟩

theorem addNeutralLine_closing (lines : List String) :
    ∃ closing ⊆ closingLines, addNeutralLine lines = lines ++ closing := by
  unfold addNeutralLine
  split_ifs with hnone
  · rw [hnone]
    exact ⟨_, by simp [closingLines], rfl⟩
  · exact ⟨[], List.nil_subset _, (List.append_nil _).symm⟩

theorem addNote_closing (warnings lines : List String) :
    ∃ closing ⊆ closingLines, addNote warnings lines = lines ++ closing := by
  unfold addNote
  split_ifs
  · exact ⟨[], List.nil_subset _, rfl⟩
  · exact ⟨_, by simp [closingLines], rfl⟩

/-- The cut to five lines spares the headlines. -/
theorem mem_buildDiffSummaryLines_iff (hline : line ∉ closingLines) (warnings : List String)
    (costA costB : Option Number) :
    line ∈ buildDiffSummaryLines rows warnings costA costB ↔ line ∈ diffHeadlines rows := by
  rw [buildDiffSummaryLines_eq]
  obtain ⟨costly, hcostly, hcost⟩ := addCostLine_closing costA costB (diffHeadlines rows)
  rw [hcost]
  obtain ⟨neutral, hneutral, htold⟩ := addNeutralLine_closing (diffHeadlines rows ++ costly)
  rw [htold]
  obtain ⟨note, hnote, hnoted⟩ := addNote_closing warnings (diffHeadlines rows ++ costly ++ neutral)
  rw [hnoted, List.append_assoc, List.append_assoc]
  constructor
  · intro hmem
    rcases List.mem_append.mp (List.mem_of_mem_take hmem) with hhead | hclose
    · exact hhead
    · refine absurd ?_ hline
      rcases List.mem_append.mp hclose with hclose | hclose
      · exact hcostly hclose
      · rcases List.mem_append.mp hclose with hclose | hclose
        · exact hneutral hclose
        · exact hnote hclose
  · intro hmem
    have hbegins : diffHeadlines rows <+:
        (diffHeadlines rows ++ (costly ++ (neutral ++ note))).take 5 :=
      List.prefix_take_iff.mpr ⟨List.prefix_append _ _, length_diffHeadlines_le.trans (by omega)⟩
    exact hbegins.subset hmem

end

/-! ## When run B is praised -/

/-- A known number exceeds another by more than `EPS`. -/
def Exceeds (p q : Option Number) : Prop := ∃ x ∈ p, ∃ y ∈ q, y + diffEps < x

theorem exceeds_natCast {m n : ℕ} : Exceeds (some (m : ℚ)) (some (n : ℚ)) ↔ n < m := by
  simp only [Exceeds, Option.mem_some_iff, exists_eq_left']
  constructor
  · intro h
    have heps : (0 : ℚ) < diffEps := by norm_num [diffEps]
    have hlt : (n : ℚ) < m := by linarith
    exact_mod_cast hlt
  · intro h
    have hone : (n : ℚ) + 1 ≤ m := by exact_mod_cast h
    have heps : diffEps < 1 := by norm_num [diffEps]
    linarith

theorem Exceeds.not_exceeds {p q : Option Number} (h : Exceeds p q) : ¬Exceeds q p := by
  obtain ⟨x, hx, y, hy, hlt⟩ := h
  rintro ⟨y', hy', x', hx', hlt'⟩
  obtain rfl := Option.mem_unique hx hx'
  obtain rfl := Option.mem_unique hy hy'
  have heps : (0 : ℚ) < diffEps := by norm_num [diffEps]
  linarith

theorem compareNumbers_eq_improved_iff {a b : Option Number} :
    compareNumbers true a b = .improved ↔ Exceeds b a := by
  cases a with
  | none => simp [compareNumbers, Exceeds]
  | some a =>
      cases b with
      | none => simp [compareNumbers, Exceeds]
      | some b =>
          have heps : (0 : ℚ) < diffEps := by norm_num [diffEps]
          simp only [compareNumbers, Exceeds, Option.mem_some_iff, exists_eq_left', if_true]
          split_ifs with hsame hlt
          · refine iff_of_false (fun h => by cases h) fun hlt => ?_
            have hle := (abs_le.mp hsame).1
            linarith
          · refine iff_of_true rfl ?_
            have habs : |a - b| = b - a := by rw [abs_of_neg (by linarith), neg_sub]
            rw [habs] at hsame
            linarith
          · exact iff_of_false (fun h => by cases h) fun hlt' => hlt (by linarith)

/-- The two numbers of a run that a headline folds. -/
structure SignalPair where
  first : RunDetail → Option Number
  second : RunDetail → Option Number

/-- The hit count and the top score. -/
def retrievalSignals : SignalPair where
  first run := some (run.retrievalHits.length : ℚ)
  second run := (byRank run.retrievalHits).head?.map RetrievalHit.score

/-- The faithfulness and the context coverage of the evaluation. -/
def evaluationSignals : SignalPair where
  first run := evNum run.evaluation "faithfulness"
  second run := evNum run.evaluation "context_coverage"

namespace SignalPair

variable (signals : SignalPair) (a b : RunDetail)

/-- Run B is ahead in one of the two. -/
def Ahead : Prop :=
  Exceeds (signals.first b) (signals.first a) ∨ Exceeds (signals.second b) (signals.second a)

/-- Each of the runs is ahead in one of the two. -/
def Crossed : Prop :=
  Exceeds (signals.first b) (signals.first a) ∧ Exceeds (signals.second a) (signals.second b) ∨
    Exceeds (signals.first a) (signals.first b) ∧ Exceeds (signals.second b) (signals.second a)

variable {signals a b}

theorem ahead_both_iff : signals.Ahead a b ∧ signals.Ahead b a ↔ signals.Crossed a b := by
  constructor
  · rintro ⟨hfirst | hsecond, hfirst' | hsecond'⟩
    · exact absurd hfirst' hfirst.not_exceeds
    · exact Or.inl ⟨hfirst, hsecond'⟩
    · exact Or.inr ⟨hfirst', hsecond⟩
    · exact absurd hsecond' hsecond.not_exceeds
  · rintro (⟨hfirst, hsecond⟩ | ⟨hfirst, hsecond⟩)
    · exact ⟨Or.inl hfirst, Or.inr hsecond⟩
    · exact ⟨Or.inr hsecond, Or.inl hfirst⟩

end SignalPair

section

variable (builtins : Builtins) (a b : RunDetail)

/-- The verdict of a row by the id of the row. -/
theorem verdict_of_id (id : String) :
    ((buildRunDiffModel builtins a b).rows.find? fun row => row.id = id).map RunDiffRow.verdict =
      ((diffRowKinds builtins).find? fun kind => kind.id = id).map fun kind =>
        kind.verdict (diffSide builtins a) (diffSide builtins b) := by
  rw [buildRunDiffModel, List.find?_map, Option.map_map]
  rfl

theorem verdict_retrieval_hits :
    ((buildRunDiffModel builtins a b).rows.find? fun row => row.id = "retrieval_hits").map
        RunDiffRow.verdict =
      some (compareNumbers true (retrievalSignals.first a) (retrievalSignals.first b)) := by
  rw [verdict_of_id]
  simp only [diffRowKinds, numberRow, List.find?_cons, String.reduceEq, decide_false, decide_true,
    Option.map_some]
  rw [diffSide, diffSide, hitCount_eq, hitCount_eq]
  rfl

theorem verdict_top_score :
    ((buildRunDiffModel builtins a b).rows.find? fun row => row.id = "top_score").map
        RunDiffRow.verdict =
      some (compareNumbers true (retrievalSignals.second a) (retrievalSignals.second b)) := by
  rw [verdict_of_id]
  simp only [diffRowKinds, numberRow, List.find?_cons, String.reduceEq, decide_false, decide_true,
    Option.map_some]
  rw [diffSide, diffSide, topScore_eq, topScore_eq]
  rfl

theorem verdict_score {key : String} (hkey : key ∈ ["faithfulness", "context_coverage"]) :
    ((buildRunDiffModel builtins a b).rows.find? fun row => row.id = key).map RunDiffRow.verdict =
      some (compareNumbers true (evNum a.evaluation key) (evNum b.evaluation key)) := by
  rw [verdict_of_id]
  rcases List.mem_pair.mp hkey with rfl | rfl
  · simp only [diffRowKinds, numberRow, scoreRow, List.find?_cons, String.reduceEq, decide_false,
      decide_true, Option.map_some]
    rfl
  · simp only [diffRowKinds, numberRow, scoreRow, List.find?_cons, String.reduceEq, decide_false,
      decide_true, Option.map_some]
    rfl

/-- A line that closes no summary is there as one of the headlines. -/
theorem mem_summaryLines_iff {line : String} (hline : line ∉ closingLines) :
    line ∈ (buildRunDiffModel builtins a b).summaryLines ↔
      line ∈ diffHeadlines (buildRunDiffModel builtins a b).rows :=
  mem_buildDiffSummaryLines_iff hline _ _ _

theorem strongerRetrieval_mem_iff :
    strongerRetrieval ∈ (buildRunDiffModel builtins a b).summaryLines ↔
      retrievalSignals.Ahead a b := by
  rw [mem_summaryLines_iff builtins a b (by decide), strongerRetrieval_mem_diffHeadlines]
  simp only [List.mem_cons, List.not_mem_nil, or_false, exists_eq_or_imp, exists_eq_left,
    verdict_retrieval_hits, verdict_top_score, Option.some.injEq, compareNumbers_eq_improved_iff]
  rfl

theorem higherMetric_mem_iff :
    higherMetric ∈ (buildRunDiffModel builtins a b).summaryLines ↔
      evaluationSignals.Ahead a b := by
  rw [mem_summaryLines_iff builtins a b (by decide), higherMetric_mem_diffHeadlines]
  have hkeys : (∃ key ∈ ["faithfulness", "context_coverage"],
      ((buildRunDiffModel builtins a b).rows.find? fun row => row.id = key).map
        RunDiffRow.verdict = some .improved) ↔
      ∃ key ∈ ["faithfulness", "context_coverage"],
        Exceeds (evNum b.evaluation key) (evNum a.evaluation key) := by
    refine exists_congr fun key => and_congr_right fun hkey => ?_
    rw [verdict_score builtins a b hkey, Option.some.injEq, compareNumbers_eq_improved_iff]
  rw [hkeys]
  simp only [List.mem_cons, List.not_mem_nil, or_false, exists_eq_or_imp, exists_eq_left]
  rfl

end

/-- **When the two orders praise their second run alike**: just when each of the runs is ahead
in one of the two rows that the headline folds. -/
theorem both_orders_praise_iff (builtins : Builtins) (a b : RunDetail) :
    (strongerRetrieval ∈ (buildRunDiffModel builtins a b).summaryLines ∧
        strongerRetrieval ∈ (buildRunDiffModel builtins b a).summaryLines ↔
      retrievalSignals.Crossed a b) ∧
    (higherMetric ∈ (buildRunDiffModel builtins a b).summaryLines ∧
        higherMetric ∈ (buildRunDiffModel builtins b a).summaryLines ↔
      evaluationSignals.Crossed a b) := by
  rw [strongerRetrieval_mem_iff, strongerRetrieval_mem_iff, higherMetric_mem_iff,
    higherMetric_mem_iff]
  exact ⟨SignalPair.ahead_both_iff, SignalPair.ahead_both_iff⟩

/-- A run with hits of one score. -/
def runWithHits (runId : Number) (scores : List Number) : RunDetail where
  runId := runId
  status := "completed"
  queryCaseId := 1
  pipelineConfigId := 1
  topK := 5
  retrievalHits := scores.mapIdx fun i score =>
    { rank := i + 1, score := score, documentId := 1, content := some "text" }
  generation := none
  evaluation := none

/-- Two weak hits and one strong hit: either run is the stronger one. -/
theorem both_runs_have_stronger_retrieval :
    ¬∀ (builtins : Builtins) (a b : RunDetail),
      ¬(strongerRetrieval ∈ (buildRunDiffModel builtins a b).summaryLines ∧
          strongerRetrieval ∈ (buildRunDiffModel builtins b a).summaryLines) ∧
        ¬(higherMetric ∈ (buildRunDiffModel builtins a b).summaryLines ∧
          higherMetric ∈ (buildRunDiffModel builtins b a).summaryLines) := by
  intro h
  refine (h { numberText := fun _ => "", toLowerCase := id } (runWithHits 1 [1 / 2, 1 / 4])
    (runWithHits 2 [3 / 4])).1 ⟨?_, ?_⟩
  · rw [strongerRetrieval_mem_iff]
    have htop : retrievalSignals.second (runWithHits 1 [1 / 2, 1 / 4]) = some (1 / 2) := by
      norm_num [retrievalSignals, runWithHits, byRank]
    exact Or.inr ⟨3 / 4, rfl, 1 / 2, htop, by norm_num [diffEps]⟩
  · rw [strongerRetrieval_mem_iff]
    exact Or.inl (exceeds_natCast.mpr (by decide))

end ContextLens
