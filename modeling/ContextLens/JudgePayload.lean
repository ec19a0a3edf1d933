import ContextLens.FailureTaxonomy
import ContextLens.Foundations.PythonJson

/-!
# The judge's scores and label

`parse_judge_payload` of `app/services/llm_judge_parse.py`: the object of a judge
reply is read key by key.  A score that `float` reads is clamped to `[0, 1]`, any
other value is dropped with a warning that names its key, and the failure type is
normalised to the taxonomy.

Two helpers convert a value, and both catch `TypeError` and `ValueError`.  What
neither catches is the `OverflowError` of `float` on an integer beyond the range
of doubles.
-/

namespace ContextLens

open Foundations Foundations.Python

/-- `SCORE_KEYS`. -/
def scoreKeys : List String :=
  ["faithfulness", "completeness", "groundedness", "retrieval_relevance", "context_coverage"]

variable (rules : TextRules)

/-! ## Conversion -/

/-- The shape of the two helpers: `None` and whatever `float` does not read are
`None`, a NaN is too, and `finish` is applied to any other float. -/
def coerced (finish : PyFloat → PyFloat) (v : JsonValue) : Except FloatError (Option PyFloat) :=
  if v.isNull then .ok none
  else
    match floatOf rules v with
    | .error .typeError => .ok none
    | .error .valueError => .ok none
    | .error .overflowError => .error .overflowError
    | .ok .nan => .ok none
    | .ok x => .ok (some (finish x))

/-- `max(0.0, min(1.0, x))`. -/
def clampUnit (x : PyFloat) : PyFloat :=
  PyFloat.max (.finite 0) (PyFloat.min (.finite 1) x)

/-- `_clamp01_val`. -/
def clamp01Val : JsonValue → Except FloatError (Option PyFloat) :=
  coerced rules clampUnit

/-- `_coerce_raw_number`. -/
def coerceRawNumber : JsonValue → Except FloatError (Option PyFloat) :=
  coerced rules id

/-! ## The payload -/

/-- `JudgeParseResult`. -/
structure JudgeParseResult where
  scores : Dict (Option PyFloat)
  failureType : Option String
  warnings : List String
  scoreClampingOccurred : Bool
  scoresRaw : Dict JsonValue
  rawFailureType : Option String

/-- `JudgeParseResult.observability_metadata`. -/
def JudgeParseResult.observabilityMetadata (result : JudgeParseResult) : Dict JsonValue :=
  [("judge_score_clamping_occurred", .bool result.scoreClampingOccurred),
    ("judge_scores_raw", if result.scoresRaw.isEmpty then .null else .dict result.scoresRaw),
    ("judge_raw_failure_type", result.rawFailureType.elim .null .str),
    ("judge_parse_warning_count", .int result.warnings.length)]

/-- What the loop over the score keys accumulates. -/
structure ScoreLoop where
  warnings : List String
  scores : Dict (Option PyFloat)
  scoresRaw : Dict JsonValue
  clampingAny : Bool

/-- The warning for a value that is not a number. -/
def invalidNumeric (key : String) : String := "invalid_numeric:" ++ key

/-- The raw number is outside `[0, 1]`, or clamping moved it. -/
def wasClamped (rawNum clamped : PyFloat) : Bool :=
  PyFloat.lt rawNum (.finite 0) || PyFloat.lt (.finite 1) rawNum ||
    PyFloat.lt (.finite (1 / 10 ^ 12)) (PyFloat.absDiff rawNum clamped)

/-- What one key leaves behind, once its value is converted. -/
def ScoreLoop.record (s : ScoreLoop) (k : String) (rawV : JsonValue)
    (rawNum clamped : Option PyFloat) : ScoreLoop where
  warnings :=
    if rawNum.isNone ∧ rawV.isNull = false then s.warnings ++ [invalidNumeric k] else s.warnings
  scores := s.scores.set k clamped
  scoresRaw := s.scoresRaw.set k rawV
  clampingAny :=
    s.clampingAny ||
      match rawNum, clamped with
      | some raw, some x => wasClamped raw x
      | _, _ => false

/-- One turn of the loop over the score keys. -/
def scoreStep (data : Dict JsonValue) (s : ScoreLoop) (k : String) :
    Except FloatError ScoreLoop :=
  match data.get k with
  | none => .ok s
  | some rawV => do
      let rawNum ← coerceRawNumber rules rawV
      let clamped ← clamp01Val rules rawV
      return s.record k rawV rawNum clamped

/-- `raw_ft`: the stripped text of the failure type, when it has one. -/
def rawFailureType (data : Dict JsonValue) : Option String :=
  match data.get "failure_type" with
  | none => none
  | some v =>
      if v.isNull then none
      else
        let rawFt := strip (strOf rules v)
        if rawFt = "" then none else some rawFt

/-- `ft` and the warning that comes with it. -/
def labelOf : Option String → Option String × List String
  | none => (some FailureType.unknown.value, ["failure_type_missing_default_unknown"])
  | some rawFt =>
      let ft := normalizeFailureType (some rawFt)
      (ft, if ft = some FailureType.unknown.value ∧ upper rawFt ∉ ["UNKNOWN", ""]
        then ["failure_type_unrecognized_normalized_to_unknown"] else [])

/-- `scores_raw["failure_type"] = data["failure_type"]`, when there is a label. -/
def rememberLabel (data : Dict JsonValue) (rawFt : Option String) (scoresRaw : Dict JsonValue) :
    Dict JsonValue :=
  match rawFt, data.get "failure_type" with
  | some _, some v => scoresRaw.set "failure_type" v
  | _, _ => scoresRaw

/-- What follows the loop: the label, its warning and the record. -/
def finishPayload (data : Dict JsonValue) (s : ScoreLoop) : JudgeParseResult :=
  let rawFt := rawFailureType rules data
  { scores := s.scores
    failureType := (labelOf rawFt).1
    warnings := s.warnings ++ (labelOf rawFt).2
    scoreClampingOccurred := s.clampingAny
    scoresRaw := rememberLabel data rawFt s.scoresRaw
    rawFailureType := rawFt }

/-- `parse_judge_payload`. -/
def parseJudgePayload (data : Dict JsonValue) (existingWarnings : List String) :
    Except FloatError JudgeParseResult := do
  let s ← scoreKeys.foldlM (scoreStep rules data)
    ⟨existingWarnings, scoreKeys.map fun k => (k, none), [], false⟩
  return finishPayload rules data s

/-! ## Converting one value -/

/-- An integer that no double is near enough to. -/
def Overflows (v : JsonValue) : Prop := ∃ n, v = .int n ∧ floatLimit ≤ n.natAbs

/-- The number a value is read as: none for a NaN and for what `float` refuses. -/
def reading (v : JsonValue) : Option PyFloat :=
  match floatOf rules v with
  | .ok .nan => none
  | .ok x => some x
  | .error _ => none

/-- `x` is a number of the unit interval. -/
def InUnit (x : PyFloat) : Prop := ∃ q : ℚ, x = .finite q ∧ 0 ≤ q ∧ q ≤ 1

/-- `x < 0.0 or x > 1.0`. -/
def Outside (x : PyFloat) : Prop :=
  PyFloat.lt x (.finite 0) = true ∨ PyFloat.lt (.finite 1) x = true

section Conversion

variable {rules} {v : JsonValue} {x : PyFloat}

theorem floatOf_overflow_iff : floatOf rules v = .error .overflowError ↔ Overflows v := by
  cases v with
  | int n =>
      have h := floatOfInt_eq_none_iff n
      simp only [floatOf, Overflows, JsonValue.int.injEq, exists_eq_left']
      rw [← h]
      cases floatOfInt n <;> simp
  | str s => cases h : rules.floatOfStr s <;> simp [floatOf, h, Overflows]
  | null => simp [floatOf, Overflows]
  | bool b => simp [floatOf, Overflows]
  | float x => simp [floatOf, Overflows]
  | list items => simp [floatOf, Overflows]
  | dict members => simp [floatOf, Overflows]

theorem not_isNull_of_overflows (h : Overflows v) : v.isNull = false := by
  obtain ⟨n, rfl, -⟩ := h
  rfl

/-- **Both helpers raise on the integers out of range, and on nothing else.** -/
theorem coerced_of_overflows (h : Overflows v) (finish : PyFloat → PyFloat) :
    coerced rules finish v = .error .overflowError := by
  rw [coerced, not_isNull_of_overflows h, floatOf_overflow_iff.mpr h]
  rfl

theorem reading_of_isNull (h : v.isNull = true) : reading rules v = none := by
  cases v with
  | null => rfl
  | _ => exact absurd h Bool.false_ne_true

theorem coerced_eq (h : ¬ Overflows v) (finish : PyFloat → PyFloat) :
    coerced rules finish v = .ok ((reading rules v).map finish) := by
  rw [coerced]
  by_cases hnull : v.isNull = true
  · rw [if_pos hnull, reading_of_isNull hnull, Option.map_none]
  · rw [if_neg hnull, reading]
    rcases hv : floatOf rules v with e | x
    · cases e with
      | typeError => rfl
      | valueError => rfl
      | overflowError => exact absurd (floatOf_overflow_iff.mp hv) h
    · cases x <;> rfl

theorem reading_eq_some_iff : reading rules v = some x ↔ floatOf rules v = .ok x ∧ x ≠ .nan := by
  rw [reading]
  rcases floatOf rules v with e | y
  · simp
  · cases y with
    | nan =>
        simp only [reduceCtorEq, Except.ok.injEq, ne_eq, false_iff, not_and, not_not]
        exact Eq.symm
    | _ =>
        simp only [Option.some.injEq, Except.ok.injEq, iff_self_and]
        rintro rfl
        exact PyFloat.noConfusion

theorem clampUnit_finite (q : ℚ) : clampUnit (.finite q) = .finite (max 0 (min 1 q)) := by
  rw [clampUnit, PyFloat.min_finite, PyFloat.max_finite]

theorem clampUnit_inUnit (hnan : x ≠ .nan) : InUnit (clampUnit x) := by
  cases x with
  | nan => exact absurd rfl hnan
  | infinity => exact ⟨1, rfl, by decide, by decide⟩
  | negInfinity => exact ⟨0, rfl, by decide, by decide⟩
  | negZero => exact ⟨0, rfl, by decide, by decide⟩
  | finite q =>
      exact ⟨_, clampUnit_finite q, le_max_left 0 _, max_le zero_le_one (min_le_left 1 q)⟩

/-- Clamping moves a number exactly when it is outside the interval. -/
theorem wasClamped_iff (hnan : x ≠ .nan) : wasClamped x (clampUnit x) = true ↔ Outside x := by
  rw [wasClamped, Outside, Bool.or_eq_true, Bool.or_eq_true]
  refine ⟨fun h => h.elim id fun hmoved => ?_, Or.inl⟩
  cases x with
  | nan => exact absurd rfl hnan
  | infinity => exact Or.inr rfl
  | negInfinity => exact Or.inl rfl
  | negZero =>
      rw [show clampUnit .negZero = .finite 0 from rfl,
        show PyFloat.absDiff .negZero (.finite 0) = .finite |0 - 0| from rfl, sub_zero, abs_zero,
        PyFloat.lt_finite, decide_eq_true_eq] at hmoved
      exact absurd hmoved (by norm_num)
  | finite q =>
      -- A number of the interval is its own clamp.
      by_contra hinside
      simp only [PyFloat.lt_finite, decide_eq_true_eq, not_or, not_lt] at hinside
      rw [clampUnit_finite, min_eq_right hinside.2, max_eq_right hinside.1, PyFloat.absDiff_self,
        PyFloat.lt_finite, decide_eq_true_eq] at hmoved
      exact absurd hmoved (by norm_num)

end Conversion

/-! ## One turn of the loop -/

section Loop

variable {rules} {data : Dict JsonValue} {existing : List String} {s : ScoreLoop} {k : String}

/-- The value of the key is an integer out of range. -/
def OutOfRange (data : Dict JsonValue) (k : String) : Prop :=
  ∃ v, data.get k = some v ∧ Overflows v

variable (rules data) in
/-- The score of a key. -/
def scoreOf (k : String) : Option PyFloat :=
  (data.get k).bind fun v => (reading rules v).map clampUnit

variable (rules data) in
/-- The key has a value, other than `None`, that is not read as a number. -/
def invalidKey (k : String) : Bool :=
  (data.get k).any fun v => (reading rules v).isNone && !v.isNull

variable (rules data) in
/-- The key has a number that clamping moves. -/
def clampedKey (k : String) : Bool :=
  (data.get k).any fun v => (reading rules v).any fun x => wasClamped x (clampUnit x)

variable (rules data existing) in
/-- What the loop has accumulated once it has been through `done`. -/
structure Recorded (done : List String) (s : ScoreLoop) : Prop where
  keys : s.scores.map Prod.fst = scoreKeys
  scores : ∀ k ∈ scoreKeys, s.scores.get k = some (if k ∈ done then scoreOf rules data k else none)
  warnings : s.warnings = existing ++ (done.filter (invalidKey rules data)).map invalidNumeric
  clamping : s.clampingAny = done.any (clampedKey rules data)

theorem scoreStep_raises (h : OutOfRange data k) :
    scoreStep rules data s k = .error .overflowError := by
  obtain ⟨v, hv, hover⟩ := h
  rw [scoreStep, hv]
  simp only [coerceRawNumber, coerced_of_overflows hover]
  rfl

theorem scoreStep_skip (hv : data.get k = none) : scoreStep rules data s k = .ok s := by
  rw [scoreStep, hv]

theorem scoreStep_record {v : JsonValue} (hv : data.get k = some v)
    (hrange : ¬ OutOfRange data k) :
    scoreStep rules data s k =
      .ok (s.record k v (reading rules v) ((reading rules v).map clampUnit)) := by
  have hover : ¬ Overflows v := fun hover => hrange ⟨v, hv, hover⟩
  rw [scoreStep, hv]
  simp only [coerceRawNumber, clamp01Val, coerced_eq hover, Option.map_id]
  rfl

/-- A key the payload lacks changes nothing. -/
theorem Recorded.skip {done : List String} (h : Recorded rules data existing done s)
    (hv : data.get k = none) : Recorded rules data existing (done ++ [k]) s where
  keys := h.keys
  scores k' hk' := by
    rw [h.scores k' hk']
    by_cases heq : k' = k
    · have hnone : scoreOf rules data k' = none := by
        rw [scoreOf, heq, hv, Option.bind_none]
      rw [hnone, ite_self, ite_self]
    · simp only [List.mem_append, List.mem_singleton, heq, or_false]
  warnings := by
    have hkey : invalidKey rules data k = false := by rw [invalidKey, hv, Option.any_none]
    rw [h.warnings, List.filter_append, List.filter_singleton, hkey, cond_false, List.append_nil]
  clamping := by
    have hkey : clampedKey rules data k = false := by rw [clampedKey, hv, Option.any_none]
    rw [h.clamping, List.any_append, List.any_cons, hkey, List.any_nil, Bool.or_false,
      Bool.or_false]

theorem ScoreLoop.record_scores (s : ScoreLoop) (k : String) (v : JsonValue)
    (rawNum clamped : Option PyFloat) :
    (s.record k v rawNum clamped).scores = s.scores.set k clamped := rfl

theorem ScoreLoop.record_warnings (s : ScoreLoop) (k : String) (v : JsonValue)
    (rawNum clamped : Option PyFloat) :
    (s.record k v rawNum clamped).warnings =
      s.warnings ++ bif rawNum.isNone && !v.isNull then [invalidNumeric k] else [] := by
  simp only [ScoreLoop.record]
  cases rawNum <;> cases v.isNull <;> simp

theorem ScoreLoop.record_clampingAny (s : ScoreLoop) (k : String) (v : JsonValue)
    (rawNum : Option PyFloat) (finish : PyFloat → PyFloat) :
    (s.record k v rawNum (rawNum.map finish)).clampingAny =
      (s.clampingAny || rawNum.any fun x => wasClamped x (finish x)) := by
  cases rawNum <;> rfl

/-- A key the payload has is recorded. -/
theorem Recorded.record {done : List String} {v : JsonValue}
    (h : Recorded rules data existing done s) (hk : k ∈ scoreKeys) (hv : data.get k = some v) :
    Recorded rules data existing (done ++ [k])
      (s.record k v (reading rules v) ((reading rules v).map clampUnit)) where
  keys := by
    rw [ScoreLoop.record_scores, Dict.map_fst_set (h.keys ▸ hk), h.keys]
  scores k' hk' := by
    rw [ScoreLoop.record_scores, Dict.get_set]
    by_cases heq : k' = k
    · rw [if_pos heq, heq, if_pos (List.mem_append_right _ (List.mem_singleton_self k)), scoreOf,
        hv, Option.bind_some]
    · rw [if_neg heq, h.scores k' hk']
      simp only [List.mem_append, List.mem_singleton, heq, or_false]
  warnings := by
    have hkey : invalidKey rules data k = ((reading rules v).isNone && !v.isNull) := by
      rw [invalidKey, hv, Option.any_some]
    rw [ScoreLoop.record_warnings, h.warnings, List.filter_append, List.filter_singleton, hkey,
      List.map_append, List.append_assoc]
    cases (reading rules v).isNone && !v.isNull <;> rfl
  clamping := by
    have hkey : clampedKey rules data k =
        (reading rules v).any fun x => wasClamped x (clampUnit x) := by
      rw [clampedKey, hv, Option.any_some]
    rw [ScoreLoop.record_clampingAny, h.clamping, List.any_append, List.any_cons, hkey,
      List.any_nil, Bool.or_false]

/-- **One key.** Its value is read, recorded and, where it is no number, reported. -/
theorem Recorded.step {done : List String} (h : Recorded rules data existing done s)
    (hk : k ∈ scoreKeys) (hrange : ¬ OutOfRange data k) :
    ∃ s', scoreStep rules data s k = .ok s' ∧ Recorded rules data existing (done ++ [k]) s' := by
  cases hv : data.get k with
  | none => exact ⟨s, scoreStep_skip hv, h.skip hv⟩
  | some v => exact ⟨_, scoreStep_record hv hrange, h.record hk hv⟩

/-- **The loop.** It goes through every key unless one is out of range. -/
theorem Recorded.run (keys : List String) {done : List String}
    (h : Recorded rules data existing done s) (hkeys : ∀ k ∈ keys, k ∈ scoreKeys)
    (hrange : ∀ k ∈ keys, ¬ OutOfRange data k) :
    ∃ s', keys.foldlM (scoreStep rules data) s = .ok s' ∧
      Recorded rules data existing (done ++ keys) s' := by
  induction keys generalizing s done with
  | nil => exact ⟨s, rfl, by rwa [List.append_nil]⟩
  | cons k keys ih =>
      rw [List.forall_mem_cons] at hkeys hrange
      obtain ⟨s₁, hstep, h₁⟩ := h.step hkeys.1 hrange.1
      obtain ⟨s₂, hrun, h₂⟩ := ih h₁ hkeys.2 hrange.2
      refine ⟨s₂, ?_, by rwa [List.append_assoc] at h₂⟩
      rw [List.foldlM_cons, hstep]
      exact hrun

/-- A key out of range stops the loop. -/
theorem foldlM_raises {keys : List String} (h : ∃ k ∈ keys, OutOfRange data k) (s : ScoreLoop) :
    keys.foldlM (scoreStep rules data) s = .error .overflowError := by
  induction keys generalizing s with
  | nil => simp at h
  | cons k keys ih =>
      rw [List.foldlM_cons]
      by_cases hk : OutOfRange data k
      · rw [scoreStep_raises hk]
        rfl
      · have hrest : ∃ k ∈ keys, OutOfRange data k := by
          obtain ⟨k', hk', hrange⟩ := h
          rcases List.mem_cons.mp hk' with rfl | hmem
          · exact absurd hrange hk
          · exact ⟨k', hmem, hrange⟩
        cases hv : data.get k with
        | none =>
            rw [scoreStep_skip hv]
            exact ih hrest s
        | some v =>
            rw [scoreStep_record hv hk]
            exact ih hrest _

end Loop

/-! ## The label -/

theorem nonBlank_strip {s : String} (h : strip s ≠ "") : nonBlank (strip s) = true := by
  have htext : (strip s).toList = Text.strip isSpace s.toList := String.toList_ofList
  have hne : Text.strip isSpace (Text.strip isSpace s.toList) ≠ [] := by
    rw [Text.strip_strip, ← htext]
    exact fun hnil => h (String.toList_eq_nil_iff.mp hnil)
  rw [nonBlank, htext, List.any_eq_true]
  obtain ⟨c, hc, hspace⟩ := Text.strip_ne_nil_iff.mp hne
  exact ⟨c, hc, by rw [hspace]; rfl⟩

theorem exists_normalizeFailureType {text : String} (h : nonBlank text = true) :
    ∃ label, normalizeFailureType (some text) = some label := by
  simp only [normalizeFailureType, h, Bool.not_true, Bool.false_eq_true, if_false]
  split
  · exact ⟨_, rfl⟩
  · split
    · exact ⟨_, rfl⟩
    · split
      · exact ⟨_, rfl⟩
      · exact ⟨_, rfl⟩

theorem nonBlank_of_rawFailureType {data : Dict JsonValue} {rawFt : String}
    (h : rawFailureType rules data = some rawFt) : nonBlank rawFt = true := by
  rw [rawFailureType] at h
  split at h
  · simp at h
  · rename_i v hv
    split at h
    · simp at h
    · simp only at h
      split at h
      · simp at h
      · rename_i hne
        rw [← Option.some.inj h]
        exact nonBlank_strip hne

/-- **Every payload gets a label of the taxonomy.** -/
theorem labelOf_mem (data : Dict JsonValue) :
    ∃ label ∈ allowedValues, (labelOf (rawFailureType rules data)).1 = some label := by
  cases h : rawFailureType rules data with
  | none => exact ⟨_, FailureType.value_mem_allowedValues .unknown, rfl⟩
  | some rawFt =>
      obtain ⟨label, hlabel⟩ := exists_normalizeFailureType (nonBlank_of_rawFailureType rules h)
      exact ⟨label, normalizeFailureType_mem hlabel, hlabel⟩

/-! ## The warnings -/

theorem toList_invalidNumeric (k : String) :
    (invalidNumeric k).toList = "invalid_numeric:".toList ++ k.toList :=
  String.toList_append

theorem invalidNumeric_injective : Function.Injective invalidNumeric := by
  intro k k' h
  have htext := congrArg String.toList h
  rw [toList_invalidNumeric, toList_invalidNumeric] at htext
  exact String.toList_inj.mp (List.append_cancel_left htext)

theorem invalidNumeric_ne_label (k : String) :
    invalidNumeric k ≠ "failure_type_missing_default_unknown" ∧
      invalidNumeric k ≠ "failure_type_unrecognized_normalized_to_unknown" := by
  have hfirst : (invalidNumeric k).toList.head? = some 'i' := by
    rw [toList_invalidNumeric]
    rfl
  constructor
  · intro h
    rw [h] at hfirst
    exact absurd hfirst (by decide)
  · intro h
    rw [h] at hfirst
    exact absurd hfirst (by decide)

theorem invalidNumeric_not_mem_labelOf (k : String) (rawFt : Option String) :
    invalidNumeric k ∉ (labelOf rawFt).2 := by
  obtain ⟨hmissing, hunrecognized⟩ := invalidNumeric_ne_label k
  unfold labelOf
  split
  · exact fun h => hmissing (List.mem_singleton.mp h)
  · simp only
    split
    · exact fun h => hunrecognized (List.mem_singleton.mp h)
    · exact List.not_mem_nil

/-! ## The parsed payload -/

section Payload

variable {rules} {data : Dict JsonValue} {existing : List String}

/-- What a parsed payload is to satisfy: the scores are the five keys', each of
them a number of the unit interval where there is one; the label is one of the
taxonomy; clamping is reported exactly for a number outside the interval; and among
the added warnings, one names a present key exactly when it has no score. -/
structure ParsedWell (rules : TextRules) (data : Dict JsonValue) (existing : List String)
    (result : JudgeParseResult) : Prop where
  keys : result.scores.map Prod.fst = scoreKeys
  scores : ∀ key score, (key, score) ∈ result.scores → ∀ x ∈ score, InUnit x
  label : ∃ label ∈ allowedValues, result.failureType = some label
  clamping : result.scoreClampingOccurred = true ↔
    ∃ key ∈ scoreKeys, ∃ v x, data.get key = some v ∧ floatOf rules v = .ok x ∧ Outside x
  warnings : ∃ added, result.warnings = existing ++ added ∧
    ∀ key ∈ scoreKeys, ∀ v, data.get key = some v → v.isNull = false →
      (result.scores.get key = some none ↔ invalidNumeric key ∈ added)

theorem recorded_start : Recorded rules data existing []
    ⟨existing, scoreKeys.map fun k => (k, none), [], false⟩ where
  keys := rfl
  scores k hk := Dict.get_map hk fun _ => none
  warnings := by rw [List.filter_nil, List.map_nil, List.append_nil]
  clamping := rfl

theorem clampedKey_iff (key : String) : clampedKey rules data key = true ↔
    ∃ v x, data.get key = some v ∧ floatOf rules v = .ok x ∧ Outside x := by
  rw [clampedKey, Option.any_eq_true]
  constructor
  · rintro ⟨v, hv, hread⟩
    obtain ⟨x, hx, hclamped⟩ := (Option.any_eq_true _ _).mp hread
    obtain ⟨hfloat, hnan⟩ := reading_eq_some_iff.mp hx
    exact ⟨v, x, hv, hfloat, (wasClamped_iff hnan).mp hclamped⟩
  · rintro ⟨v, x, hv, hfloat, houtside⟩
    have hnan : x ≠ .nan := by
      rintro rfl
      exact houtside.elim Bool.false_ne_true Bool.false_ne_true
    exact ⟨v, hv, (Option.any_eq_true _ _).mpr
      ⟨x, reading_eq_some_iff.mpr ⟨hfloat, hnan⟩, (wasClamped_iff hnan).mpr houtside⟩⟩

theorem inUnit_scoreOf {key : String} {x : PyFloat} (h : scoreOf rules data key = some x) :
    InUnit x := by
  obtain ⟨v, -, hread⟩ := Option.bind_eq_some_iff.mp h
  obtain ⟨y, hy, rfl⟩ := Option.map_eq_some_iff.mp hread
  exact clampUnit_inUnit (reading_eq_some_iff.mp hy).2

theorem scoreOf_eq_none_iff {key : String} {v : JsonValue} (hv : data.get key = some v)
    (hnull : v.isNull = false) :
    scoreOf rules data key = none ↔ invalidKey rules data key = true := by
  rw [scoreOf, hv, Option.bind_some, Option.map_eq_none_iff, invalidKey, hv, Option.any_some, hnull,
    Bool.not_false, Bool.and_true, Option.isNone_iff_eq_none]

/-- What the loop has recorded, with the label, is a well parsed payload. -/
theorem Recorded.parsedWell {s : ScoreLoop} (h : Recorded rules data existing scoreKeys s) :
    ParsedWell rules data existing (finishPayload rules data s) where
  keys := h.keys
  scores key score hmem x hx := by
    have hkey : key ∈ scoreKeys := by
      rw [← h.keys]
      exact List.mem_map_of_mem hmem
    have hnodup : (s.scores.map Prod.fst).Nodup := by
      rw [h.keys]
      decide
    have hget := (Dict.get_eq_of_mem hnodup hmem).symm.trans (h.scores key hkey)
    rw [if_pos hkey, Option.mem_def.mp hx, Option.some.injEq] at hget
    exact inUnit_scoreOf hget.symm
  label := labelOf_mem rules data
  clamping := by
    simp only [finishPayload, h.clamping, List.any_eq_true, clampedKey_iff]
  warnings := by
    refine ⟨_, by rw [finishPayload, h.warnings, List.append_assoc], fun key hkey v hv hnull => ?_⟩
    rw [finishPayload, h.scores key hkey, if_pos hkey, Option.some.injEq,
      scoreOf_eq_none_iff hv hnull, List.mem_append,
      or_iff_left (invalidNumeric_not_mem_labelOf key _),
      List.mem_map_of_injective invalidNumeric_injective, List.mem_filter, and_iff_right hkey]

/-- With every integer in range the loop goes through. -/
theorem parseJudgePayload_eq (h : ∀ key ∈ scoreKeys, ¬ OutOfRange data key) :
    ∃ s, parseJudgePayload rules data existing = .ok (finishPayload rules data s) ∧
      Recorded rules data existing scoreKeys s := by
  have hstart : Recorded rules data existing []
      ⟨existing, scoreKeys.map fun k => (k, none), [], false⟩ := recorded_start
  obtain ⟨s, hrun, hs⟩ := hstart.run scoreKeys (fun _ => id) h
  refine ⟨s, ?_, hs⟩
  rw [parseJudgePayload, hrun]
  rfl

theorem parseJudgePayload_raises (h : ∃ key ∈ scoreKeys, OutOfRange data key) :
    parseJudgePayload rules data existing = .error .overflowError := by
  rw [parseJudgePayload, foldlM_raises h]
  rfl

/-- A payload that parses had every integer in range. -/
theorem parseJudgePayload_eq_ok {result : JudgeParseResult}
    (h : parseJudgePayload rules data existing = .ok result) :
    (∀ key ∈ scoreKeys, ¬ OutOfRange data key) ∧
      ∃ s, result = finishPayload rules data s ∧ Recorded rules data existing scoreKeys s := by
  have hrange : ∀ key ∈ scoreKeys, ¬ OutOfRange data key := fun key hkey hout => by
    rw [parseJudgePayload_raises ⟨key, hkey, hout⟩] at h
    cases h
  obtain ⟨s, hs, hrecorded⟩ := parseJudgePayload_eq hrange
  exact ⟨hrange, s, Except.ok.inj (h.symm.trans hs), hrecorded⟩

/-- **When a judge payload is parsed.**  It is, and as it should be, unless the
value of a score key is an integer that `float` refuses. -/
theorem judge_payload_parses_iff (rules : TextRules) (data : Dict JsonValue)
    (existing : List String) :
    (∃ result, parseJudgePayload rules data existing = .ok result ∧
        ParsedWell rules data existing result) ↔
      ∀ key ∈ scoreKeys, ∀ n : ℤ, data.get key = some (.int n) → n.natAbs < floatLimit := by
  have hrange : (∀ key ∈ scoreKeys, ∀ n : ℤ, data.get key = some (.int n) →
      n.natAbs < floatLimit) ↔ ∀ key ∈ scoreKeys, ¬ OutOfRange data key := by
    refine forall₂_congr fun key _ => ⟨?_, fun h n hn => ?_⟩
    · rintro h ⟨_, hv, n, rfl, hn⟩
      exact absurd (h n hv) (not_lt.mpr hn)
    · exact not_le.mp fun hle => h ⟨_, hn, n, rfl, hle⟩
  rw [hrange]
  constructor
  · rintro ⟨result, hok, -⟩
    exact (parseJudgePayload_eq_ok hok).1
  · intro h
    obtain ⟨s, hs, hrecorded⟩ := parseJudgePayload_eq h
    exact ⟨_, hs, hrecorded.parsedWell⟩

/-- An integer of 309 digits is caught by neither helper. -/
theorem judge_payload_overflows :
    parseJudgePayload noFloats [("faithfulness", .int floatLimit)] [] = .error .overflowError := by
  have hlimit : floatLimit ≤ (floatLimit : ℤ).natAbs := (Int.natAbs_natCast floatLimit).ge
  exact parseJudgePayload_raises ⟨"faithfulness", List.mem_cons_self, _, rfl, _, rfl, hlimit⟩

end Payload

end ContextLens
