import ContextLens.ExperimentPlan
import ContextLens.Foundations.Json
import Mathlib.Data.List.Sort

/-!
# Scoring the candidates of the experiment

`score_candidates` of `app/services/diagnosis_experiment_design.py`.  The penalty for a
repeated query counts the candidates seen before with the same fingerprint, so the
fetch order enters the scores, but only through the order within each fingerprint: what
is scored there does not depend on the rest (`scoreFrom_filter`), and the final sort
leaves nothing open when run ids are distinct.

`str.lower` and `md5` are parameters.
-/

namespace ContextLens

open Foundations

/-! ## Buckets -/

/-- `FAILURE_TO_BUCKET`. -/
def failureToBucket : List (String × Bucket) :=
  [("RETRIEVAL_MISS", .retrievalRelated), ("RETRIEVAL_PARTIAL", .retrievalRelated),
    ("CHUNK_FRAGMENTATION", .retrievalRelated), ("ANSWER_UNSUPPORTED", .generationIncomplete),
    ("ANSWER_INCOMPLETE", .generationIncomplete), ("CONTEXT_TRUNCATION", .generationIncomplete),
    ("MIXED_FAILURE", .mixedAmbiguous), ("UNKNOWN", .mixedAmbiguous),
    ("CONTEXT_INSUFFICIENT", .mixedAmbiguous), ("NO_FAILURE", .easyControl)]

/-- `classify_bucket`. -/
def classifyBucket (failureType : String) : Bucket :=
  if failureType = "" then .easyControl
  else (failureToBucket.lookup (Python.strip failureType)).getD .mixedAmbiguous

/-! ## Fingerprints -/

/-- `re.sub(r"\s+", " ", text)`. -/
def collapseWhitespace : List Char → List Char
  | [] => []
  | c :: rest =>
      if Python.isSpace c then
        match rest with
        | d :: _ =>
            if Python.isSpace d then collapseWhitespace rest else ' ' :: collapseWhitespace rest
        | [] => [' ']
      else c :: collapseWhitespace rest

/-- `_query_fingerprint`, with `str.lower` and the hexadecimal digest of `md5`. -/
def queryFingerprint (lower md5Hex : String → String) (text : String) : String :=
  let t := lower (Python.strip text)
  let t := String.ofList (collapseWhitespace t.toList)
  String.ofList ((md5Hex t).toList.take 12)

/-! ## Scores -/

/-- The keyword arguments of `score_candidates`. -/
structure ScoringWeights where
  noFailurePenalty : ℚ := -50
  repeatQueryPenalty : ℚ := -30
  heavySessionPenaltyPer : ℚ := -10
  difficultyBonusWeight : ℚ := 20

/-- `f"{q:.{digits}f}"` of a number that is not negative. -/
def fixedText (digits : ℕ) (q : ℚ) : String :=
  String.ofList (decimalText (Python.roundHalfEven (q * 10 ^ digits)) digits)

/-- `f"{q:+.{digits}f}"`. -/
def signedText (digits : ℕ) (q : ℚ) : String :=
  (if q < 0 then "-" else "+") ++ fixedText digits |q|

/-- The body of the loop: a candidate before which `seen_count` candidates with its
fingerprint have been seen. -/
def scoreCandidate (weights : ScoringWeights) (seenCount : ℕ) (c : CandidateRun) :
    ScoredCandidate :=
  let bucket := classifyBucket c.failureType
  let baseScore : ℚ := if bucket = .easyControl then weights.noFailurePenalty else 40
  let reasons := if bucket = .easyControl then
      [s!"NO_FAILURE penalty ({signedText 0 weights.noFailurePenalty})"]
    else [s!"Has failure ({c.failureType}) (+40)"]
  let difficulty := computeDifficulty c
  let diffBonus := difficulty * weights.difficultyBonusWeight
  let baseScore := baseScore + diffBonus
  let reasons := if 0 < diffBonus then
      reasons ++ [s!"Difficulty bonus ({signedText 1 diffBonus}, raw={fixedText 2 difficulty})"]
    else reasons
  let penalty := weights.repeatQueryPenalty * seenCount
  let baseScore := if 0 < seenCount then baseScore + penalty else baseScore
  let reasons := if 0 < seenCount then
      reasons ++ [s!"Repeat query #{seenCount + 1} ({signedText 0 penalty})"]
    else reasons
  let totalSessions := c.manualSessions + c.assistedSessions
  let sp := weights.heavySessionPenaltyPer * totalSessions
  let baseScore := if 0 < totalSessions then baseScore + sp else baseScore
  let reasons := if 0 < totalSessions then
      reasons ++ [s!"Existing sessions={totalSessions} ({signedText 0 sp})"]
    else reasons
  { candidate := c, bucket := bucket, score := baseScore, scoreReasons := reasons }

section Scoring

variable (fingerprint : String → String) (weights : ScoringWeights)

/-- The loop of `score_candidates`, with the counts of `query_seen`. -/
def scoreFrom (querySeen : String → ℕ) : List CandidateRun → List ScoredCandidate
  | [] => []
  | c :: candidates =>
      let fp := fingerprint c.queryText
      scoreCandidate weights (querySeen fp) c ::
        scoreFrom (Function.update querySeen fp (querySeen fp + 1)) candidates

end Scoring

/-- The order of the sort: `(-score, -run_id)`. -/
def RanksBefore (a b : ScoredCandidate) : Prop :=
  b.score < a.score ∨ a.score = b.score ∧ b.candidate.runId ≤ a.candidate.runId

instance : DecidableRel RanksBefore := fun a b => by
  unfold RanksBefore
  infer_instance

/-- `score_candidates`. -/
def scoreCandidates (lower md5Hex : String → String) (weights : ScoringWeights)
    (candidates : List CandidateRun) : List ScoredCandidate :=
  (scoreFrom (queryFingerprint lower md5Hex) weights (fun _ => 0) candidates).insertionSort
    RanksBefore

/-! ## The order within a fingerprint -/

section Fingerprints

variable {fingerprint : String → String} {weights : ScoringWeights}

/-- Scoring keeps the candidates in order. -/
theorem candidates_scoreFrom (querySeen : String → ℕ) (candidates : List CandidateRun) :
    (scoreFrom fingerprint weights querySeen candidates).map ScoredCandidate.candidate
      = candidates := by
  induction candidates generalizing querySeen with
  | nil => rfl
  | cons c candidates ih =>
      rw [scoreFrom, List.map_cons, ih]
      rfl

/-- The candidates of one fingerprint are scored as if there were no others. -/
theorem scoreFrom_filter (querySeen querySeen' : String → ℕ) (candidates : List CandidateRun)
    (fp : String) (hseen : querySeen fp = querySeen' fp) :
    (scoreFrom fingerprint weights querySeen candidates).filter
        (fun sc => fingerprint sc.candidate.queryText = fp)
      = scoreFrom fingerprint weights querySeen'
          (candidates.filter fun c => fingerprint c.queryText = fp) := by
  induction candidates generalizing querySeen querySeen' with
  | nil => rfl
  | cons c candidates ih =>
      have hcandidate : ∀ n, (scoreCandidate weights n c).candidate = c := fun _ => rfl
      rw [scoreFrom]
      by_cases hfp : fingerprint c.queryText = fp
      · rw [List.filter_cons_of_pos (by simpa [hcandidate] using hfp),
          List.filter_cons_of_pos (by simpa using hfp), scoreFrom, hfp, hseen]
        congr 1
        refine ih _ _ ?_
        simp only [Function.update_self]
      · rw [List.filter_cons_of_neg (by simpa [hcandidate] using hfp),
          List.filter_cons_of_neg (by simpa using hfp)]
        refine ih _ _ ?_
        rw [Function.update_of_ne (Ne.symm hfp), hseen]

/-- What is scored depends on the order within each fingerprint only. -/
theorem mem_scoreFrom_iff {candidates candidates' : List CandidateRun}
    (horder : ∀ fp, candidates.filter (fun c => fingerprint c.queryText = fp)
      = candidates'.filter fun c => fingerprint c.queryText = fp) (sc : ScoredCandidate) :
    sc ∈ scoreFrom fingerprint weights (fun _ => 0) candidates ↔
      sc ∈ scoreFrom fingerprint weights (fun _ => 0) candidates' := by
  have hown : ∀ l : List CandidateRun, sc ∈ scoreFrom fingerprint weights (fun _ => 0) l ↔
      sc ∈ scoreFrom fingerprint weights (fun _ => 0)
        (l.filter fun c => fingerprint c.queryText = fingerprint sc.candidate.queryText) := by
    intro l
    rw [← scoreFrom_filter (fun _ => 0) (fun _ => 0) l _ rfl, List.mem_filter]
    simp
  rw [hown candidates, hown candidates', horder]

end Fingerprints

/-! ## The sort -/

/-- A higher score, or the same score and a higher run id. -/
def Outranks (a b : ScoredCandidate) : Prop :=
  b.score < a.score ∨ a.score = b.score ∧ b.candidate.runId < a.candidate.runId

instance : Std.Irrefl Outranks where
  irrefl := by
    rintro a (h | ⟨-, h⟩)
    · exact lt_irrefl _ h
    · exact lt_irrefl _ h

instance : Std.Antisymm Outranks where
  antisymm := by
    rintro a b (h | ⟨hscore, h⟩) (h' | ⟨hscore', h'⟩)
    · exact absurd h' h.asymm
    · exact absurd h (hscore'.symm ▸ lt_irrefl _)
    · exact absurd h' (hscore ▸ lt_irrefl _)
    · exact absurd h' h.asymm

theorem ranksBefore_total (a b : ScoredCandidate) : RanksBefore a b ∨ RanksBefore b a := by
  rcases lt_trichotomy a.score b.score with h | h | h
  · exact Or.inr (Or.inl h)
  · rcases le_total a.candidate.runId b.candidate.runId with hid | hid
    · exact Or.inr (Or.inr ⟨h.symm, hid⟩)
    · exact Or.inl (Or.inr ⟨h, hid⟩)
  · exact Or.inl (Or.inl h)

theorem ranksBefore_trans {a b c : ScoredCandidate} (hab : RanksBefore a b)
    (hbc : RanksBefore b c) : RanksBefore a c := by
  rcases hab with hab | ⟨hab, hid⟩
  · rcases hbc with hbc | ⟨hbc, -⟩
    · exact Or.inl (hbc.trans hab)
    · exact Or.inl (hbc ▸ hab)
  · rcases hbc with hbc | ⟨hbc, hid'⟩
    · exact Or.inl (hab.symm ▸ hbc)
    · exact Or.inr ⟨hab.trans hbc, hid'.trans hid⟩

/-- With distinct run ids the sort leaves no tie. -/
theorem sorted_outranks {scored : List ScoredCandidate}
    (hruns : (scored.map fun sc => sc.candidate.runId).Nodup) :
    (scored.insertionSort RanksBefore).Pairwise Outranks := by
  have hsorted : (scored.insertionSort RanksBefore).Pairwise RanksBefore :=
    haveI : Std.Total RanksBefore := ⟨ranksBefore_total⟩
    haveI : IsTrans ScoredCandidate RanksBefore := ⟨fun _ _ _ => ranksBefore_trans⟩
    List.pairwise_insertionSort _ _
  have hdistinct : (scored.insertionSort RanksBefore).Pairwise fun a b =>
      a.candidate.runId ≠ b.candidate.runId := by
    have hperm := (List.perm_insertionSort RanksBefore scored).map fun sc => sc.candidate.runId
    exact List.pairwise_map.mp (hperm.nodup_iff.mpr hruns)
  refine (hsorted.and hdistinct).imp fun {a b} h => ?_
  obtain ⟨hscore | ⟨hscore, hid⟩, hne⟩ := h
  · exact Or.inl hscore
  · exact Or.inr ⟨hscore, lt_of_le_of_ne hid (Ne.symm hne)⟩

/-- **The fetch order does not show**, beyond the order of the repeats of one query, and
the result has every candidate once, sorted by falling score and then by falling run id. -/
theorem scoreCandidates_of_same_repeats (lower md5Hex : String → String)
    (weights : ScoringWeights) (candidates candidates' : List CandidateRun)
    (hruns : (candidates.map CandidateRun.runId).Nodup) (hperm : candidates.Perm candidates')
    (horder : ∀ fp, candidates.filter (fun c => queryFingerprint lower md5Hex c.queryText = fp)
      = candidates'.filter fun c => queryFingerprint lower md5Hex c.queryText = fp) :
    scoreCandidates lower md5Hex weights candidates
        = scoreCandidates lower md5Hex weights candidates' ∧
      ((scoreCandidates lower md5Hex weights candidates).map ScoredCandidate.candidate).Perm
        candidates ∧
      (scoreCandidates lower md5Hex weights candidates).Pairwise Outranks := by
  have hsorted : ∀ l : List CandidateRun, (l.map CandidateRun.runId).Nodup →
      (scoreCandidates lower md5Hex weights l).Pairwise Outranks := by
    intro l hl
    refine sorted_outranks ?_
    rw [← candidates_scoreFrom (fun _ => 0) l, List.map_map] at hl
    exact hl
  have hruns' : (candidates'.map CandidateRun.runId).Nodup :=
    (hperm.map _).nodup_iff.mp hruns
  refine ⟨List.Pairwise.eq_of_mem_iff (hsorted _ hruns) (hsorted _ hruns') fun sc => ?_, ?_,
    hsorted _ hruns⟩
  · rw [scoreCandidates, scoreCandidates, List.mem_insertionSort, List.mem_insertionSort]
    exact mem_scoreFrom_iff horder sc
  · refine ((List.perm_insertionSort _ _).map ScoredCandidate.candidate).trans ?_
    exact List.Perm.of_eq (candidates_scoreFrom (fun _ => 0) candidates)

/-- `md5` on two query texts. -/
def sampleDigest (text : String) : String :=
  if text = "question" then "5494af1f14a8c19939968c3e9e2d4f79"
  else "795f3202b17cb6bc3d4b771d8c6c9eaf"

/-- A run with another query text. -/
def otherRun : CandidateRun :=
  { (easyCandidate 1 2).candidate with queryText := "other" }

/-- Two runs of one query, with a run of another between them or behind them. -/
theorem scoreCandidates_of_same_repeats_three_runs :
    scoreCandidates Python.lower sampleDigest {}
          [(easyCandidate 3 1).candidate, otherRun, (easyCandidate 2 1).candidate]
        = scoreCandidates Python.lower sampleDigest {}
          [(easyCandidate 3 1).candidate, (easyCandidate 2 1).candidate, otherRun] ∧
      ((scoreCandidates Python.lower sampleDigest {}
        [(easyCandidate 3 1).candidate, otherRun, (easyCandidate 2 1).candidate]).map
          ScoredCandidate.candidate).Perm
            [(easyCandidate 3 1).candidate, otherRun, (easyCandidate 2 1).candidate] ∧
      (scoreCandidates Python.lower sampleDigest {}
        [(easyCandidate 3 1).candidate, otherRun, (easyCandidate 2 1).candidate]).Pairwise
          Outranks := by
  refine scoreCandidates_of_same_repeats Python.lower sampleDigest {} _ _ (by decide)
    ((List.Perm.swap _ _ _).cons _) fun fp => ?_
  have hne : queryFingerprint Python.lower sampleDigest "question"
      ≠ queryFingerprint Python.lower sampleDigest "other" := by decide
  by_cases hother : queryFingerprint Python.lower sampleDigest "other" = fp
  · have hquestion : queryFingerprint Python.lower sampleDigest "question" ≠ fp := hother ▸ hne
    simp [easyCandidate, otherRun, hother, hquestion]
  · simp [easyCandidate, otherRun, List.filter_cons, hother]

end ContextLens
