import ContextLens.RunTrace
import ContextLens.Foundations.PythonBuiltins

/-!
# The LLM provider: keys, prices and usage counters

`app/services/llm_provider_keys.py`, `app/services/cost_estimation.py` and
`app/services/trace_instrumentation.py`: the settings of the active provider,
the USD estimate of a call and the counters merged into
`runs.trace_instrumentation_json` when a run completes.

Amounts are exact rationals; `Decimal`'s working precision of 28 digits is not
modelled, its quantisation to six digits is.
-/

namespace ContextLens

open Foundations

/-- The part of `Settings` that the full pipeline reads. -/
structure Settings where
  llmProvider : Option String
  openaiApiKey : Option String
  claudeApiKey : Option String
  openaiInputUsdPerMillionTokens : ℚ
  openaiOutputUsdPerMillionTokens : ℚ
  anthropicInputUsdPerMillionTokens : ℚ
  anthropicOutputUsdPerMillionTokens : ℚ

namespace Settings

variable (settings : Settings)

/-- `(settings.llm_provider or "openai").strip().lower() == "anthropic"`. -/
def usesAnthropic : Bool :=
  let provider := match settings.llmProvider with
    | some name => if name = "" then "openai" else name
    | none => "openai"
  Python.lower (Python.strip provider) = "anthropic"

/-- `require_llm_api_key_for_full_mode`. -/
def requireLlmApiKeyForFullMode : Except PyException Unit :=
  if settings.usesAnthropic then
    if (settings.claudeApiKey.any Python.nonBlank) then .ok ()
    else .error (.valueError
      "claude_api_key / CLAUDE_API_KEY is not set. Required when LLM_PROVIDER=anthropic.")
  else
    if (settings.openaiApiKey.any Python.nonBlank) then .ok ()
    else .error (.valueError
      ("openai_api_key / OPENAI_API_KEY is not set. Required for full RAG when " ++
       "LLM_PROVIDER is openai (default)."))

/-- `_pricing_rates_for_active_provider`. -/
def pricingRatesForActiveProvider : ℚ × ℚ :=
  if settings.usesAnthropic then
    (settings.anthropicInputUsdPerMillionTokens, settings.anthropicOutputUsdPerMillionTokens)
  else (settings.openaiInputUsdPerMillionTokens, settings.openaiOutputUsdPerMillionTokens)

/-- The billed amount of one side; a rate that is not positive bills nothing. -/
def billedUsd (rate : ℚ) (tokens : ℕ) : ℚ :=
  if 0 < rate then rate * tokens / 1000000 else 0

/-- `estimate_usd_from_tokens`: `none` when pricing is off or nothing is known
about the usage. -/
def estimateUsdFromTokens (inputTokens outputTokens : Option ℕ) : Option ℚ :=
  let (rateIn, rateOut) := settings.pricingRatesForActiveProvider
  if rateIn ≤ 0 ∧ rateOut ≤ 0 then none
  else if inputTokens = none ∧ outputTokens = none then none
  else some (Python.roundTo 6
    (billedUsd rateIn (inputTokens.getD 0) + billedUsd rateOut (outputTokens.getD 0)))

end Settings

/-! ## Usage counters -/

/-- `_sum_tokens`: the sum of the counts that are known. -/
def sumTokens (parts : List (Option ℕ)) : Option ℕ :=
  let known := parts.filterMap id
  if known.isEmpty then none else some known.sum

/-- A token count as a JSON value. -/
def tokensJson : Option ℕ → Json
  | none => .null
  | some count => .num count 0

/-- A six-digit amount as a JSON value. -/
def decimalJson (amount : ℚ) : Json :=
  .num (Python.roundHalfEven (amount * 10 ^ 6)) 6

/-- An optional amount as a JSON value. -/
def costJson : Option ℚ → Json
  | none => .null
  | some amount => decimalJson amount

/-- The members that every instrumentation patch writes. -/
def runInstrumentation (mode : String)
    (heuristicRows llmRows generationCalls judgeAttempted judgeSkipped judgeUsed : ℕ)
    (promptTokens completionTokens : Option ℕ) (cost : Option ℚ) : JsonObject :=
  [("evaluator_execution_mode", .str mode),
   ("total_eval_rows", .num 1 0),
   ("heuristic_eval_rows", .num heuristicRows 0),
   ("llm_eval_rows", .num llmRows 0),
   ("llm_generation_calls", .num generationCalls 0),
   ("llm_judge_calls_attempted", .num judgeAttempted 0),
   ("llm_judge_calls_skipped_by_heuristics", .num judgeSkipped 0),
   ("llm_judge_calls_used_for_final_judgment", .num judgeUsed 0),
   ("estimated_prompt_tokens", tokensJson promptTokens),
   ("estimated_completion_tokens", tokensJson completionTokens),
   ("estimated_cost_usd", costJson cost)]

/-- `full_llm_run_instrumentation`. -/
def fullLlmRunInstrumentation
    (judgeInputTokens judgeOutputTokens genInputTokens genOutputTokens : Option ℕ)
    (costUsd : Option ℚ) : JsonObject :=
  runInstrumentation "llm_only" 0 1 1 1 0 1
    (sumTokens [genInputTokens, judgeInputTokens])
    (sumTokens [genOutputTokens, judgeOutputTokens]) costUsd

/-- `hybrid_skipped_judge_instrumentation`. -/
def hybridSkippedJudgeInstrumentation (genInputTokens genOutputTokens : Option ℕ)
    (genCostComponent : Option ℚ) : JsonObject :=
  runInstrumentation "hybrid" 1 0 1 1 1 0 genInputTokens genOutputTokens genCostComponent

/-- `merge_run_trace_instrumentation`: the patch over what the run already
has. -/
def mergeRunTraceInstrumentation (present : Option JsonObject) (patch : JsonObject) :
    JsonObject :=
  JsonObject.update (present.getD []) patch

end ContextLens
