import ContextLens.JudgeEvaluation
import ContextLens.RunTrace

/-!
# Calling the judge

`evaluate_with_llm_judge` of `app/services/llm_judge_evaluation.py`: the provider is
called, its reply is parsed, and a reply that is not `judge_parse_ok` is asked for once
more.  The second reply stands whatever it is, and the usage of both calls is added up.

The computation runs in `JudgeCalls`, which counts the calls also when it raises.
-/

namespace ContextLens

open Foundations Foundations.Python

namespace JudgeEvaluation

/-! ## Replies -/

/-- The usage that a call of a provider reports. -/
structure TokenUsage where
  inputTokens : Option ℕ
  outputTokens : Option ℕ

/-- What a call of the judge that goes through returns. -/
structure JudgeReply where
  raw : List Char
  usage : TokenUsage

/-- What ends a judge phase: an exception of the provider or the database, or one raised
while a reply is parsed. -/
inductive JudgeError
  | python (e : PyException)
  | parse (e : FloatError)

/-- The provider and the parser of one evaluation; `reply n` is the answer to call number
`n`. -/
structure JudgeEnv where
  parser : JsonParser
  rules : TextRules
  modelId : String
  llmProvider : String
  reply : ℕ → Except PyException JudgeReply

/-- Code that may call the judge and may raise; the state counts the calls. -/
abbrev JudgeCalls := ExceptT JudgeError (StateM ℕ)

/-- What a computation comes to after `made` calls, and how many were made then. -/
def JudgeCalls.after {α : Type} (x : JudgeCalls α) (made : ℕ) : Except JudgeError α × ℕ :=
  x.run.run made

/-! ## The evaluation -/

/-- `_sum_tokens`. -/
def sumTokens (a b : Option ℤ) : Option ℤ :=
  if a = none ∧ b = none then none else some (a.getD 0 + b.getD 0)

/-- `_with_retry_metadata`. -/
def withRetryMetadata (base : LLMJudgeEvalResult)
    (judgeInitialParseOk judgeRetryAttempted judgeRetrySucceeded : Bool)
    (judgeInputTokens judgeOutputTokens : Option ℤ) : LLMJudgeEvalResult :=
  { base with
    judgeInputTokens := judgeInputTokens
    judgeOutputTokens := judgeOutputTokens
    metadataJson :=
      setSome "judge_output_tokens" judgeOutputTokens
        (setSome "judge_input_tokens" judgeInputTokens
          (base.metadataJson.update
            [("judge_initial_parse_ok", .bool judgeInitialParseOk),
              ("judge_retry_attempted", .bool judgeRetryAttempted),
              ("judge_retry_succeeded", .bool judgeRetrySucceeded)])) }

/-- `bool(result.metadata_json.get("judge_parse_ok"))`. -/
def judgeParseOk (result : LLMJudgeEvalResult) : Bool :=
  match result.metadataJson.get "judge_parse_ok" with
  | some (.bool ok) => ok
  | _ => false

namespace JudgeEnv

variable (env : JudgeEnv)

/-- `_call_model`. -/
def callModel : JudgeCalls JudgeReply := do
  let made ← get
  set (made + 1)
  match env.reply made with
  | .error e => throw (.python e)
  | .ok reply => return reply

/-- `_build_result_from_raw` of a reply. -/
def build (reply : JudgeReply) : Except FloatError LLMJudgeEvalResult :=
  buildResultFromRaw env.parser env.rules reply.raw env.modelId
    (reply.usage.inputTokens.map Nat.cast) (reply.usage.outputTokens.map Nat.cast)
    env.llmProvider

/-- The same where the evaluation asks for it. -/
def buildResult (reply : JudgeReply) : JudgeCalls LLMJudgeEvalResult :=
  match env.build reply with
  | .error e => throw (.parse e)
  | .ok result => return result

/-- `evaluate_with_llm_judge`. -/
def evaluateWithLlmJudge : JudgeCalls LLMJudgeEvalResult := do
  let reply1 ← env.callModel
  let r1 ← env.buildResult reply1
  if judgeParseOk r1 then
    return withRetryMetadata r1 true false false r1.judgeInputTokens r1.judgeOutputTokens
  let reply2 ← env.callModel
  let r2 ← env.buildResult reply2
  -- The second reply stands, parsed or not.
  return withRetryMetadata r2 false true (judgeParseOk r2)
    (sumTokens r1.judgeInputTokens r2.judgeInputTokens)
    (sumTokens r1.judgeOutputTokens r2.judgeOutputTokens)

end JudgeEnv

/-! ## One step after another -/

section

variable {env : JudgeEnv} {made : ℕ}

theorem after_bind {α β : Type} (x : JudgeCalls α) (f : α → JudgeCalls β) (made : ℕ) :
    (x >>= f).after made = match x.after made with
      | (.error e, made') => (.error e, made')
      | (.ok a, made') => (f a).after made' := by
  show ExceptT.bindCont f (x.after made).1 (x.after made).2 = _
  rcases x.after made with ⟨_ | _, made'⟩ <;> rfl

theorem after_bind_of_ok {α β : Type} {x : JudgeCalls α} {f : α → JudgeCalls β} {between : ℕ}
    {a : α} (hx : x.after made = (.ok a, between)) :
    (x >>= f).after made = (f a).after between := by
  rw [after_bind, hx]

/-- A computation of two steps that returns: both of them do. -/
theorem after_bind_eq_ok {α β : Type} {x : JudgeCalls α} {f : α → JudgeCalls β} {made' : ℕ} {b : β}
    (h : (x >>= f).after made = (.ok b, made')) :
    ∃ a between, x.after made = (.ok a, between) ∧ (f a).after between = (.ok b, made') := by
  rw [after_bind] at h
  rcases hx : x.after made with ⟨_ | a, between⟩
  · rw [hx] at h
    cases h
  · rw [hx] at h
    exact ⟨a, between, rfl, h⟩

theorem after_pure {α : Type} (a : α) (made : ℕ) :
    (pure a : JudgeCalls α).after made = (.ok a, made) := rfl

theorem after_callModel (made : ℕ) :
    env.callModel.after made = ((env.reply made).mapError .python, made + 1) := by
  show (match env.reply made with
    | .error e => throw (.python e)
    | .ok reply => return reply : JudgeCalls JudgeReply).after (made + 1) = _
  cases env.reply made <;> rfl

theorem after_buildResult (reply : JudgeReply) (made : ℕ) :
    (env.buildResult reply).after made = ((env.build reply).mapError .parse, made) := by
  rw [JudgeEnv.buildResult]
  cases env.build reply <;> rfl

end

/-! ## The result of a reply -/

section

variable {env : JudgeEnv} {reply : JudgeReply} {result : LLMJudgeEvalResult}

/-- What `judge_parse_ok` is for a reply with this text, when parsing it does not raise. -/
def JudgeEnv.parsed (env : JudgeEnv) (raw : List Char) : Except FloatError Bool :=
  (parseJudgePayload env.rules (membersOf (extractJudgeJsonObject env.parser raw).1)
    (extractJudgeJsonObject env.parser raw).2).map fun pr => computeJudgeParseOk pr.warnings

theorem get_judgeParseOk (h : env.build reply = .ok result) :
    result.metadataJson.get "judge_parse_ok" = some (.bool (judgeParseOk result)) := by
  obtain ⟨pr, -, hmeta, -⟩ := buildResultFromRaw_eq_ok h
  rw [judgeParseOk, hmeta]

/-- Whether a reply is parsed depends on its text alone. -/
theorem map_judgeParseOk_build (reply : JudgeReply) :
    (env.build reply).map judgeParseOk = env.parsed reply.raw := by
  cases hbuild : env.build reply with
  | ok result =>
      obtain ⟨pr, hpr, hmeta, -⟩ := buildResultFromRaw_eq_ok hbuild
      have hok : judgeParseOk result = computeJudgeParseOk pr.warnings := by
        rw [judgeParseOk, hmeta]
      rw [JudgeEnv.parsed, hpr, Except.map, hok]
      rfl
  | error e =>
      rw [JudgeEnv.build, buildResultFromRaw] at hbuild
      rw [JudgeEnv.parsed]
      cases hpr : parseJudgePayload env.rules (membersOf (extractJudgeJsonObject env.parser
        reply.raw).1) (extractJudgeJsonObject env.parser reply.raw).2 with
      | ok pr =>
          rw [hpr] at hbuild
          cases hbuild
      | error e' =>
          rw [hpr] at hbuild
          rw [← Except.error.inj hbuild]
          rfl

theorem build_usage (h : env.build reply = .ok result) :
    result.judgeInputTokens = reply.usage.inputTokens.map Nat.cast ∧
      result.judgeOutputTokens = reply.usage.outputTokens.map Nat.cast := by
  rw [JudgeEnv.build, buildResultFromRaw] at h
  cases hpr : parseJudgePayload env.rules (membersOf (extractJudgeJsonObject env.parser
    reply.raw).1) (extractJudgeJsonObject env.parser reply.raw).2 with
  | error e =>
      rw [hpr] at h
      cases h
  | ok pr =>
      rw [hpr] at h
      rw [← Except.ok.inj h]
      exact ⟨rfl, rfl⟩

end

/-! ## What an evaluation comes to -/

section

variable {env : JudgeEnv} {first second : JudgeReply} {ev : LLMJudgeEvalResult} {calls : ℕ}

/-- The first call of an evaluation. -/
theorem evaluate_after (env : JudgeEnv) :
    env.evaluateWithLlmJudge.after 0 = match env.reply 0 with
      | .error e => (.error (.python e), 1)
      | .ok first => match env.build first with
        | .error e => (.error (.parse e), 1)
        | .ok r1 =>
            if judgeParseOk r1 then
              (.ok (withRetryMetadata r1 true false false r1.judgeInputTokens
                r1.judgeOutputTokens), 1)
            else match env.reply 1 with
              | .error e => (.error (.python e), 2)
              | .ok second => match env.build second with
                | .error e => (.error (.parse e), 2)
                | .ok r2 =>
                    (.ok (withRetryMetadata r2 false true (judgeParseOk r2)
                      (sumTokens r1.judgeInputTokens r2.judgeInputTokens)
                      (sumTokens r1.judgeOutputTokens r2.judgeOutputTokens)), 2) := by
  rw [JudgeEnv.evaluateWithLlmJudge, after_bind, after_callModel]
  cases env.reply 0 with
  | error e => rfl
  | ok first =>
      simp only [Except.mapError, after_bind, after_buildResult]
      cases env.build first with
      | error e => rfl
      | ok r1 =>
          by_cases hok : judgeParseOk r1 = true
          · simp only [hok, if_true, after_pure]
          · simp only [hok, if_false, Bool.false_eq_true, after_bind, after_callModel]
            cases env.reply 1 with
            | error e => rfl
            | ok second =>
                simp only [Except.mapError, after_buildResult]
                cases env.build second <;> rfl

/-- **A second call is made exactly when the first reply is not parsed, and no third.** -/
theorem calls_evaluate (hfirst : env.reply 0 = .ok first) :
    ((env.evaluateWithLlmJudge.after 0).2 = 2 ↔ env.parsed first.raw = .ok false) ∧
      1 ≤ (env.evaluateWithLlmJudge.after 0).2 ∧ (env.evaluateWithLlmJudge.after 0).2 ≤ 2 := by
  rw [evaluate_after, hfirst, ← map_judgeParseOk_build]
  dsimp only
  cases env.build first with
  | error e => simp [Except.map]
  | ok r1 =>
      by_cases hok : judgeParseOk r1 = true
      · simp [hok, Except.map]
      · dsimp only
        rw [if_neg hok]
        have hcalls : ∀ second, (match env.build second with
            | .error e => (.error (.parse e), 2)
            | .ok r2 => (.ok (withRetryMetadata r2 false true (judgeParseOk r2)
                (sumTokens r1.judgeInputTokens r2.judgeInputTokens)
                (sumTokens r1.judgeOutputTokens r2.judgeOutputTokens)), 2) :
              Except JudgeError LLMJudgeEvalResult × ℕ).2 = 2 := by
          intro second
          cases env.build second <;> rfl
        cases env.reply 1 with
        | error e => simp [hok, Except.map]
        | ok second =>
            dsimp only
            rw [hcalls second]
            simp [hok, Except.map]

/-! ## The usage of an evaluation -/

/-- What some calls report together: nothing when none of them reports anything. -/
def reportedTokens (counts : List (Option ℕ)) : Option ℤ :=
  if ∀ count ∈ counts, count = none then none
  else some ((counts.map fun count => count.getD 0).sum : ℕ)

theorem reportedTokens_one (count : Option ℕ) :
    reportedTokens [count] = count.map Nat.cast := by
  cases count <;> simp [reportedTokens]

theorem reportedTokens_two (a b : Option ℕ) :
    reportedTokens [a, b] = sumTokens (a.map Nat.cast) (b.map Nat.cast) := by
  cases a <;> cases b <;> simp [reportedTokens, sumTokens]

/-- An evaluation that returns has made one call or two, and reports their usage. -/
theorem usage_evaluate (hfirst : env.reply 0 = .ok first) (hsecond : env.reply 1 = .ok second)
    (h : env.evaluateWithLlmJudge.after 0 = (.ok ev, calls)) :
    ev.judgeInputTokens =
        reportedTokens (([first, second].take calls).map fun reply => reply.usage.inputTokens) ∧
      ev.judgeOutputTokens =
        reportedTokens
          (([first, second].take calls).map fun reply => reply.usage.outputTokens) := by
  rw [evaluate_after, hfirst] at h
  dsimp only at h
  cases hbuild1 : env.build first with
  | error e =>
      rw [hbuild1] at h
      cases h
  | ok r1 =>
      obtain ⟨hin1, hout1⟩ := build_usage hbuild1
      rw [hbuild1] at h
      dsimp only at h
      by_cases hok : judgeParseOk r1 = true
      · rw [if_pos hok, Prod.mk.injEq, Except.ok.injEq] at h
        obtain ⟨rfl, rfl⟩ := h
        exact ⟨hin1.trans (reportedTokens_one _).symm, hout1.trans (reportedTokens_one _).symm⟩
      · rw [if_neg hok, hsecond] at h
        dsimp only at h
        cases hbuild2 : env.build second with
        | error e =>
            rw [hbuild2] at h
            cases h
        | ok r2 =>
            obtain ⟨hin2, hout2⟩ := build_usage hbuild2
            rw [hbuild2, Prod.mk.injEq, Except.ok.injEq] at h
            obtain ⟨rfl, rfl⟩ := h
            constructor
            · show sumTokens r1.judgeInputTokens r2.judgeInputTokens = _
              rw [hin1, hin2]
              exact (reportedTokens_two _ _).symm
            · show sumTokens r1.judgeOutputTokens r2.judgeOutputTokens = _
              rw [hout1, hout2]
              exact (reportedTokens_two _ _).symm

end

end JudgeEvaluation

end ContextLens
