import ContextLens.JudgeExtraction
import ContextLens.JudgePayload

/-!
# The result of a judge reply

`_build_result_from_raw` of `app/services/llm_judge_evaluation.py`: the text of a
judge reply is searched for an object, the object is parsed, and the scores are
stored with metadata that says whether the reply was parsed.

`judge_parse_ok` is computed from the warnings.  It is what the caller retries on,
and it is never true of a reply without an object.
-/

namespace ContextLens

open Foundations Foundations.Python

namespace JudgeEvaluation

/-- `EVALUATOR_ID`. -/
def evaluatorId : String := "claude_llm_judge_v1"

/-- `JUDGE_PROMPT_VERSION`. -/
def judgePromptVersion : String := "claude_llm_judge_v2"

/-- `LLMJudgeEvalResult`, as it is before it is stored: the scores are floats and
the metadata is a Python dictionary, which may hold a NaN. -/
structure LLMJudgeEvalResult where
  faithfulness : Option PyFloat
  completeness : Option PyFloat
  groundedness : Option PyFloat
  retrievalRelevance : Option PyFloat
  contextCoverage : Option PyFloat
  failureType : Option String
  judgeInputTokens : Option ℤ
  judgeOutputTokens : Option ℤ
  metadataJson : Dict JsonValue

/-- The scores under their keys. -/
def LLMJudgeEvalResult.scores (result : LLMJudgeEvalResult) : Dict (Option PyFloat) :=
  [("faithfulness", result.faithfulness), ("completeness", result.completeness),
    ("groundedness", result.groundedness), ("retrieval_relevance", result.retrievalRelevance),
    ("context_coverage", result.contextCoverage)]

/-- `_compute_judge_parse_ok`. -/
def computeJudgeParseOk (warnings : List String) : Bool :=
  warnings.all fun w =>
    !criticalWarnings.contains w && !"pydantic_validate_error".toList.isPrefixOf w.toList

/-- The members of the extracted object. -/
def membersOf : JsonValue → Dict JsonValue
  | .dict members => members
  | _ => []

/-- Assign the member when there is a value. -/
def setSome (key : String) (value : Option ℤ) (d : Dict JsonValue) : Dict JsonValue :=
  match value with
  | some n => d.set key (.int n)
  | none => d

/-- `_build_result_from_raw`. -/
def buildResultFromRaw (parser : JsonParser) (rules : TextRules) (raw : List Char)
    (modelId : String) (judgeInputTokens judgeOutputTokens : Option ℤ) (llmProvider : String) :
    Except FloatError LLMJudgeEvalResult := do
  let extracted := extractJudgeJsonObject parser raw
  let pr ← parseJudgePayload rules (membersOf extracted.1) extracted.2
  let judged : Dict JsonValue :=
    [("evaluator", .str evaluatorId),
      ("evaluator_type", .str "llm"),
      ("judge_prompt_version", .str judgePromptVersion),
      ("judge_model", .str modelId),
      ("llm_provider", .str llmProvider),
      ("raw_judge_text_preview", .str (String.ofList (raw.take 2000))),
      ("judge_parse_ok", .bool (computeJudgeParseOk pr.warnings)),
      ("judge_parse_warnings", .list (pr.warnings.map .str))]
  let observed := judged.update pr.observabilityMetadata
  return {
    faithfulness := (pr.scores.get "faithfulness").join
    completeness := (pr.scores.get "completeness").join
    groundedness := (pr.scores.get "groundedness").join
    retrievalRelevance := (pr.scores.get "retrieval_relevance").join
    contextCoverage := (pr.scores.get "context_coverage").join
    failureType := pr.failureType
    judgeInputTokens := judgeInputTokens
    judgeOutputTokens := judgeOutputTokens
    metadataJson :=
      setSome "judge_output_tokens" judgeOutputTokens
        (setSome "judge_input_tokens" judgeInputTokens observed) }

/-! ## What `judge_parse_ok` says -/

section ParseOk

variable {parser : JsonParser} {rules : TextRules} {raw : List Char} {modelId llmProvider : String}
variable {judgeInputTokens judgeOutputTokens : Option ℤ} {result : LLMJudgeEvalResult}

theorem not_critical_of_parseOk {warnings : List String} {w : String}
    (h : computeJudgeParseOk warnings = true) (hw : w ∈ warnings) : w ∉ criticalWarnings := by
  have hone := List.all_eq_true.mp h w hw
  rw [Bool.and_eq_true, Bool.not_eq_true'] at hone
  intro hcritical
  rw [List.contains_iff_mem.mpr hcritical] at hone
  exact Bool.noConfusion hone.1

theorem get_setSome {key key' : String} (hne : key' ≠ key) (value : Option ℤ)
    (d : Dict JsonValue) : (setSome key value d).get key' = d.get key' := by
  cases value with
  | none => rfl
  | some n => rw [setSome, Dict.get_set, if_neg hne]

/-- What a built result is made of. -/
theorem buildResultFromRaw_eq_ok
    (h : buildResultFromRaw parser rules raw modelId judgeInputTokens judgeOutputTokens
      llmProvider = .ok result) :
    ∃ pr, parseJudgePayload rules (membersOf (extractJudgeJsonObject parser raw).1)
        (extractJudgeJsonObject parser raw).2 = .ok pr ∧
      result.metadataJson.get "judge_parse_ok" = some (.bool (computeJudgeParseOk pr.warnings)) ∧
      result.scores = scoreKeys.map fun key => (key, (pr.scores.get key).join) := by
  rw [buildResultFromRaw] at h
  cases hpr : parseJudgePayload rules (membersOf (extractJudgeJsonObject parser raw).1)
    (extractJudgeJsonObject parser raw).2 with
  | error e =>
      rw [hpr] at h
      cases h
  | ok pr =>
      rw [hpr] at h
      refine ⟨pr, rfl, ?_, ?_⟩
      · rw [← Except.ok.inj h, get_setSome (by decide), get_setSome (by decide),
          Dict.get_update (by simp [JudgeParseResult.observabilityMetadata])]
        rfl
      · rw [← Except.ok.inj h]
        rfl

/-- **A reply gives a result unless it has an integer score out of range.** -/
theorem exists_buildResultFromRaw_iff :
    (∃ result, buildResultFromRaw parser rules raw modelId judgeInputTokens judgeOutputTokens
        llmProvider = .ok result) ↔
      ∀ key ∈ scoreKeys, ¬ OutOfRange (membersOf (extractJudgeJsonObject parser raw).1) key := by
  constructor
  · rintro ⟨result, hbuild⟩
    obtain ⟨pr, hpr, -⟩ := buildResultFromRaw_eq_ok hbuild
    exact (parseJudgePayload_eq_ok hpr).1
  · intro hrange
    obtain ⟨s, hs, -⟩ := parseJudgePayload_eq hrange
    rw [buildResultFromRaw, hs]
    exact ⟨_, rfl⟩

/-- The score of `key` is what `_clamp01_val` makes of the member of that key. -/
def ScoreFrom (rules : TextRules) (members : Dict JsonValue) (key : String)
    (score : Option PyFloat) : Prop :=
  match members.get key with
  | none => score = none
  | some v => clamp01Val rules v = .ok score

theorem scoreFrom_scoreOf {members : Dict JsonValue} {key : String}
    (h : ¬ OutOfRange members key) : ScoreFrom rules members key (scoreOf rules members key) := by
  rw [ScoreFrom, scoreOf]
  cases hv : members.get key with
  | none => rfl
  | some v => exact coerced_eq (fun hover => h ⟨v, hv, hover⟩) clampUnit

/-- **A reply without an object is not reported as parsed.**  What is extracted is
an object that a part of the reply parses to, or nothing with a critical warning;
and the scores stored with `judge_parse_ok` are those of an object of the reply. -/
theorem judge_parse_ok_has_object (parser : JsonParser) (rules : TextRules) (raw : List Char)
    (modelId : String) (judgeInputTokens judgeOutputTokens : Option ℤ) (llmProvider : String) :
    (∃ members, (extractJudgeJsonObject parser raw).1 = .dict members ∧
      ((∃ chunk, chunk <:+: raw ∧ parser.loads chunk = some (.dict members)) ∨
        members = [] ∧ ∃ w ∈ (extractJudgeJsonObject parser raw).2, w ∈ criticalWarnings)) ∧
    ∀ result, buildResultFromRaw parser rules raw modelId judgeInputTokens judgeOutputTokens
        llmProvider = .ok result →
      result.metadataJson.get "judge_parse_ok" = some (.bool true) →
      ∃ chunk members, chunk <:+: raw ∧ parser.loads chunk = some (.dict members) ∧
        ∀ key ∈ scoreKeys, ∃ score, result.scores.get key = some score ∧
          ScoreFrom rules members key score := by
  refine ⟨accounted_extract parser raw, fun result hbuild hok => ?_⟩
  obtain ⟨pr, hpr, hmeta, hscores⟩ := buildResultFromRaw_eq_ok hbuild
  obtain ⟨hrange, s, rfl, hs⟩ := parseJudgePayload_eq_ok hpr
  have hparsed : computeJudgeParseOk (finishPayload rules
      (membersOf (extractJudgeJsonObject parser raw).1) s).warnings = true := by
    rw [hmeta] at hok
    exact JsonValue.bool.inj (Option.some.inj hok)
  obtain ⟨members, hmembers, ⟨chunk, hpart, hloads⟩ | ⟨-, w, hw, hcritical⟩⟩ :=
    accounted_extract parser raw
  · rw [hmembers] at hrange hs hscores
    refine ⟨chunk, members, hpart, hloads, fun key hkey => ⟨scoreOf rules members key, ?_,
      scoreFrom_scoreOf (hrange key hkey)⟩⟩
    rw [hscores, Dict.get_map hkey, finishPayload, membersOf, hs.scores key hkey, if_pos hkey]
    rfl
  · -- The warnings of the extraction are kept, so a critical one shows.
    have hkept : w ∈ (finishPayload rules (membersOf (extractJudgeJsonObject parser raw).1)
        s).warnings := by
      rw [finishPayload, hs.warnings, List.append_assoc]
      exact List.mem_append_left _ hw
    exact absurd hcritical (not_critical_of_parseOk hparsed hkept)

theorem judge_parse_ok_has_object_among_prose :
    ∃ result, buildResultFromRaw (JsonParser.only noFloats [("faithfulness", .bool true)]) noFloats
        "Here: \x7b\"faithfulness\": true\x7d".toList "gpt-4o" none none "openai" = .ok result ∧
      result.metadataJson.get "judge_parse_ok" = some (.bool true) ∧
      ∃ chunk members, chunk <:+: "Here: \x7b\"faithfulness\": true\x7d".toList ∧
        (JsonParser.only noFloats [("faithfulness", .bool true)]).loads chunk =
          some (.dict members) ∧
        ∀ key ∈ scoreKeys, ∃ score, result.scores.get key = some score ∧
          ScoreFrom noFloats members key score :=
  ⟨_, rfl, rfl, (judge_parse_ok_has_object (JsonParser.only noFloats [("faithfulness", .bool true)])
    noFloats "Here: \x7b\"faithfulness\": true\x7d".toList "gpt-4o" none none "openai").2 _ rfl rfl⟩

end ParseOk

end JudgeEvaluation

end ContextLens
