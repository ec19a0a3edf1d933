import ContextLens.Foundations.PythonBuiltins
import Mathlib.Data.List.Nodup

/-!
# The diagnosis experiment plan

`build_experiment_plan` of `app/services/diagnosis_experiment_design.py`: two groups of
runs, filled bucket by bucket from a scored list.

The loop keeps, for each group, the query cases it has used.  A query case that a group
has used is turned away from *that* group and offered to the other one, so a repeated
query case ends up in both groups; the sets do not keep the groups apart.

`groups_share_no_query_iff` is the exact condition under which they stay apart: along
the runs that are assigned, the query cases are distinct, except that the very last run
may repeat one of the assisted group.
-/

namespace ContextLens

open Foundations

/-! ## Candidates and buckets -/

/-- `Bucket`. -/
inductive Bucket
  | retrievalRelated
  | generationIncomplete
  | mixedAmbiguous
  | easyControl
  deriving DecidableEq, Repr

namespace Bucket

/-- The literal of a bucket. -/
def name : Bucket → String
  | retrievalRelated => "retrieval_related"
  | generationIncomplete => "generation_incomplete"
  | mixedAmbiguous => "mixed_ambiguous"
  | easyControl => "easy_control"

/-- `ALL_BUCKETS`. -/
def all : List Bucket :=
  [retrievalRelated, generationIncomplete, mixedAmbiguous, easyControl]

theorem mem_all (bucket : Bucket) : bucket ∈ all := by
  cases bucket <;> decide

end Bucket

/-- `GROUP_TARGETS`. -/
def groupTargets : Bucket → ℤ
  | .retrievalRelated => 4
  | .generationIncomplete => 3
  | .mixedAmbiguous => 2
  | .easyControl => 1

/-- `CandidateRun`. -/
structure CandidateRun where
  runId : ℕ
  failureType : String
  queryText : String
  queryCaseId : ℕ
  retrievalRelevance : Option ℚ
  contextCoverage : Option ℚ
  completeness : Option ℚ
  faithfulness : Option ℚ
  manualSessions : ℕ
  assistedSessions : ℕ

/-- `ScoredCandidate`. -/
structure ScoredCandidate where
  candidate : CandidateRun
  bucket : Bucket
  score : ℚ
  scoreReasons : List String

/-- `compute_difficulty`. -/
def computeDifficulty (c : CandidateRun) : ℚ :=
  let components : List ℚ :=
    [c.retrievalRelevance, c.contextCoverage, c.completeness, c.faithfulness].map fun score =>
      match score with
      | some v => 1 - max 0 (min 1 v)
      | none => 1 / 2
  components.sum / components.length

/-! ## Slots -/

/-- `assigned_mode`. -/
inductive DiagnosisMode
  | manual
  | assisted
  deriving DecidableEq, Repr

/-- `ExperimentSlot`. -/
structure ExperimentSlot where
  runId : ℕ
  mode : DiagnosisMode
  bucket : Bucket
  failureType : String
  queryText : String
  difficultyScore : ℚ
  rationale : String
  manualSessions : ℕ
  assistedSessions : ℕ

/-- `_make_slot`. -/
def makeSlot (mode : DiagnosisMode) (sc : ScoredCandidate) : ExperimentSlot where
  runId := sc.candidate.runId
  mode := mode
  bucket := sc.bucket
  failureType := sc.candidate.failureType
  queryText := sc.candidate.queryText
  difficultyScore := Python.roundTo 3 (computeDifficulty sc.candidate)
  rationale := String.intercalate "; " sc.scoreReasons
  manualSessions := sc.candidate.manualSessions
  assistedSessions := sc.candidate.assistedSessions

/-- An entry of `bucket_summary`. -/
structure BucketSummary where
  available : ℕ
  neededTotal : ℤ
  assigned : ℕ

/-- `ExperimentPlan`. -/
structure ExperimentPlan where
  manualSlots : List ExperimentSlot
  assistedSlots : List ExperimentSlot
  warnings : List String
  bucketSummary : Bucket → BucketSummary

/-! ## The greedy loop -/

/-- The variables of the loop over the pool of one bucket. -/
structure BucketPicks where
  manualPicked : List ScoredCandidate
  assistedPicked : List ScoredCandidate
  usedQueryIdsManual : List ℕ
  usedQueryIdsAssisted : List ℕ
  assignedRunIds : List ℕ

namespace BucketPicks

/-- Nothing is picked yet. -/
def empty : BucketPicks where
  manualPicked := []
  assistedPicked := []
  usedQueryIdsManual := []
  usedQueryIdsAssisted := []
  assignedRunIds := []

/-- A candidate goes to a group. -/
def assign (picks : BucketPicks) (sc : ScoredCandidate) : DiagnosisMode → BucketPicks
  | .manual =>
      { picks with
        manualPicked := picks.manualPicked ++ [sc]
        usedQueryIdsManual := picks.usedQueryIdsManual ++ [sc.candidate.queryCaseId]
        assignedRunIds := picks.assignedRunIds ++ [sc.candidate.runId] }
  | .assisted =>
      { picks with
        assistedPicked := picks.assistedPicked ++ [sc]
        usedQueryIdsAssisted := picks.usedQueryIdsAssisted ++ [sc.candidate.queryCaseId]
        assignedRunIds := picks.assignedRunIds ++ [sc.candidate.runId] }

/-- The group a candidate goes to; none when both groups are full. -/
def chooseGroup (picks : BucketPicks) (targetPerGroup : ℤ) (qcid : ℕ) :
    Option DiagnosisMode :=
  let mNeeds := targetPerGroup - picks.manualPicked.length
  let aNeeds := targetPerGroup - picks.assistedPicked.length
  let canManual := decide (0 < mNeeds) && decide (qcid ∉ picks.usedQueryIdsManual)
  let canAssisted := decide (0 < aNeeds) && decide (qcid ∉ picks.usedQueryIdsAssisted)
  if canManual && canAssisted then
    if aNeeds ≤ mNeeds then some .manual else some .assisted
  else if canManual then some .manual
  else if canAssisted then some .assisted
  -- The query is used, or there is no room: still assigned if a group needs it.
  else if 0 < mNeeds then some .manual
  else if 0 < aNeeds then some .assisted
  else none

end BucketPicks

/-- The loop over the pool of one bucket. -/
def pickFromPool (targetPerGroup : ℤ) : BucketPicks → List ScoredCandidate → BucketPicks
  | picks, [] => picks
  | picks, sc :: pool =>
      if sc.candidate.runId ∈ picks.assignedRunIds then pickFromPool targetPerGroup picks pool
      else if targetPerGroup - picks.manualPicked.length ≤ 0 ∧
          targetPerGroup - picks.assistedPicked.length ≤ 0 then picks
      else
        match picks.chooseGroup targetPerGroup sc.candidate.queryCaseId with
        | some mode => pickFromPool targetPerGroup (picks.assign sc mode) pool
        | none => pickFromPool targetPerGroup picks pool

/-! ## The plan -/

section

variable (scored : List ScoredCandidate) (targets : Bucket → ℤ) (bucket : Bucket)

/-- `bucket_pools[bucket]`. -/
def bucketPool : List ScoredCandidate := scored.filter fun sc => sc.bucket = bucket

/-- What the loop picks for a bucket. -/
def bucketPicks : BucketPicks :=
  pickFromPool (targets bucket) BucketPicks.empty (bucketPool scored bucket)

/-- The warning of a bucket that is short of candidates. -/
def bucketWarning : Option String :=
  let targetPerGroup := targets bucket
  let neededTotal := targetPerGroup * 2
  let available := (bucketPool scored bucket).length
  let name := bucket.name
  if (available : ℤ) < neededTotal then
    some (s!"Bucket '{name}': need {neededTotal} candidates (2×{targetPerGroup}) " ++
      s!"but only {available} available. Experiment will be incomplete for this bucket.")
  else none

/-- The warning of a plan with fewer than 20 slots. -/
def totalWarning (total : ℕ) : Option String :=
  if total < 20 then
    some (s!"Only {total}/20 slots filled. The database lacks enough diverse " ++
      "failure candidates for a full balanced experiment.")
  else none

/-- The entry of a bucket in `bucket_summary`. -/
def summarizeBucket : BucketSummary where
  available := (bucketPool scored bucket).length
  neededTotal := targets bucket * 2
  assigned := (bucketPicks scored targets bucket).manualPicked.length +
    (bucketPicks scored targets bucket).assistedPicked.length

end

/-- `build_experiment_plan`, with a target for every bucket (`0` where the mapping has
none). -/
def buildExperimentPlan (scored : List ScoredCandidate)
    (targets : Bucket → ℤ) : ExperimentPlan :=
  let manualSlots := Bucket.all.flatMap fun bucket =>
    (bucketPicks scored targets bucket).manualPicked.map (makeSlot .manual)
  let assistedSlots := Bucket.all.flatMap fun bucket =>
    (bucketPicks scored targets bucket).assistedPicked.map (makeSlot .assisted)
  { manualSlots := manualSlots
    assistedSlots := assistedSlots
    warnings := Bucket.all.filterMap (bucketWarning scored targets) ++
      (totalWarning (manualSlots.length + assistedSlots.length)).toList
    bucketSummary := summarizeBucket scored targets }

/-! ## When the groups stay apart -/

section Apart

variable {picks : BucketPicks} {sc : ScoredCandidate} {pool : List ScoredCandidate}
  {before ids : List ℕ} {t : ℕ}

/-- No query case is used by both groups. -/
def BucketPicks.Apart (picks : BucketPicks) : Prop :=
  ∀ q ∈ picks.usedQueryIdsManual, q ∉ picks.usedQueryIdsAssisted

/-- The query cases of a pool, in order, let the groups stay apart: the first `2t - 1` are
distinct and the last one that is assigned is not one of the manual group's, which are
the ones at even positions. -/
def QueriesApart (t : ℕ) (ids : List ℕ) : Prop :=
  (ids.take (2 * t - 1)).Nodup ∧
    ∀ i < t, ∀ q, ids[2 * i]? = some q → ids[2 * t - 1]? ≠ some q

/-- Distinct query cases have been dealt out in turns. -/
structure Alternates (before : List ℕ) (picks : BucketPicks) : Prop where
  manual_length : picks.manualPicked.length = (before.length + 1) / 2
  assisted_length : picks.assistedPicked.length = before.length / 2
  manual_used : ∀ q, q ∈ picks.usedQueryIdsManual ↔ ∃ i, before[2 * i]? = some q
  assisted_used : ∀ q, q ∈ picks.usedQueryIdsAssisted ↔ ∃ i, before[2 * i + 1]? = some q

theorem alternates_empty : Alternates [] BucketPicks.empty := by
  constructor <;> simp [BucketPicks.empty]

/-- Distinct query cases dealt out in turns are in one group each. -/
theorem Alternates.apart (h : Alternates before picks) (hnodup : before.Nodup) :
    picks.Apart := by
  intro q hmanual hassisted
  obtain ⟨i, hi⟩ := (h.manual_used q).mp hmanual
  obtain ⟨j, hj⟩ := (h.assisted_used q).mp hassisted
  have hlt : 2 * i < before.length := (List.getElem?_eq_some_iff.mp hi).1
  have hsame := (List.getElem?_inj hlt hnodup).mp (hi.trans hj.symm)
  omega

/-- A used query case is used by one of the groups. -/
theorem Alternates.mem_iff (h : Alternates before picks) (q : ℕ) :
    q ∈ before ↔ q ∈ picks.usedQueryIdsManual ∨ q ∈ picks.usedQueryIdsAssisted := by
  rw [h.manual_used, h.assisted_used, List.mem_iff_getElem?]
  constructor
  · rintro ⟨i, hi⟩
    rcases Nat.even_or_odd' i with ⟨j, rfl | rfl⟩
    · exact Or.inl ⟨j, hi⟩
    · exact Or.inr ⟨j, hi⟩
  · rintro (⟨j, hj⟩ | ⟨j, hj⟩)
    · exact ⟨_, hj⟩
    · exact ⟨_, hj⟩

/-- What is used stays used. -/
theorem pickFromPool_used (t : ℤ) (pool : List ScoredCandidate) (picks : BucketPicks) :
    (∀ q ∈ picks.usedQueryIdsManual, q ∈ (pickFromPool t picks pool).usedQueryIdsManual) ∧
      ∀ q ∈ picks.usedQueryIdsAssisted, q ∈ (pickFromPool t picks pool).usedQueryIdsAssisted := by
  induction pool generalizing picks with
  | nil => exact ⟨fun _ hq => hq, fun _ hq => hq⟩
  | cons sc pool ih =>
      rw [pickFromPool]
      split_ifs with hassigned hfull
      · exact ih picks
      · exact ⟨fun _ hq => hq, fun _ hq => hq⟩
      · cases picks.chooseGroup t sc.candidate.queryCaseId with
        | none => exact ih picks
        | some mode =>
            obtain ⟨hmanual, hassisted⟩ := ih (picks.assign sc mode)
            cases mode with
            | manual => exact ⟨fun q hq => hmanual q (List.mem_append_left _ hq), hassisted⟩
            | assisted => exact ⟨hmanual, fun q hq => hassisted q (List.mem_append_left _ hq)⟩

theorem getElem?_snoc_eq_some {q' q : ℕ} {i : ℕ} :
    (before ++ [q'])[i]? = some q ↔ before[i]? = some q ∨ i = before.length ∧ q = q' := by
  rcases lt_trichotomy i before.length with hlt | heq | hgt
  · rw [List.getElem?_append_left hlt]
    simp [hlt.ne]
  · simp [heq, eq_comm]
  · rw [List.getElem?_append_right hgt.le]
    have hne : i - before.length ≠ 0 := by omega
    simp [hgt.ne', List.getElem?_eq_none_iff.mpr hgt.le, hne]

/-- A query case more, at a place of the group. -/
theorem exists_place_snoc_iff (place : ℕ → ℕ) {n : ℕ} (hn : place n = before.length)
    (q' q : ℕ) :
    (∃ i, (before ++ [q'])[place i]? = some q) ↔ (∃ i, before[place i]? = some q) ∨ q = q' := by
  simp only [getElem?_snoc_eq_some]
  constructor
  · rintro ⟨i, hi | ⟨-, rfl⟩⟩
    · exact Or.inl ⟨i, hi⟩
    · exact Or.inr rfl
  · rintro (⟨i, hi⟩ | rfl)
    · exact ⟨i, Or.inl hi⟩
    · exact ⟨n, Or.inr ⟨hn, rfl⟩⟩

/-- A query case more, at a place of the other group. -/
theorem exists_place_snoc_iff_of_ne (place : ℕ → ℕ) (hplace : ∀ i, place i ≠ before.length)
    (q' q : ℕ) :
    (∃ i, (before ++ [q'])[place i]? = some q) ↔ ∃ i, before[place i]? = some q := by
  simp only [getElem?_snoc_eq_some]
  exact exists_congr fun i => or_iff_left fun h => hplace i h.1

/-- The next candidate in turn. -/
theorem Alternates.assign (h : Alternates before picks) (sc : ScoredCandidate) :
    Alternates (before ++ [sc.candidate.queryCaseId])
      (picks.assign sc (if before.length % 2 = 0 then .manual else .assisted)) := by
  rcases Nat.even_or_odd' before.length with ⟨n, hn | hn⟩
  · have heven : before.length % 2 = 0 := by omega
    rw [if_pos heven]
    constructor
    · simp only [BucketPicks.assign, List.length_append, List.length_singleton, h.manual_length]
      omega
    · simp only [BucketPicks.assign, List.length_append, List.length_singleton, h.assisted_length]
      omega
    · intro q
      rw [exists_place_snoc_iff (fun i => 2 * i) hn.symm]
      simp only [BucketPicks.assign, List.mem_append, List.mem_singleton, h.manual_used]
    · intro q
      rw [exists_place_snoc_iff_of_ne (fun i => 2 * i + 1) fun i => by omega]
      simp only [BucketPicks.assign, h.assisted_used]
  · have hodd : ¬before.length % 2 = 0 := by omega
    rw [if_neg hodd]
    constructor
    · simp only [BucketPicks.assign, List.length_append, List.length_singleton, h.manual_length]
      omega
    · simp only [BucketPicks.assign, List.length_append, List.length_singleton, h.assisted_length]
      omega
    · intro q
      rw [exists_place_snoc_iff_of_ne (fun i => 2 * i) fun i => by omega]
      simp only [BucketPicks.assign, h.manual_used]
    · intro q
      rw [exists_place_snoc_iff (fun i => 2 * i + 1) hn.symm]
      simp only [BucketPicks.assign, List.mem_append, List.mem_singleton, h.assisted_used]

/-- A new query case goes to the group whose turn it is. -/
theorem Alternates.chooseGroup_of_new (h : Alternates before picks)
    (hroom : before.length < 2 * t) {q : ℕ} (hnew : q ∉ before) :
    picks.chooseGroup t q = some (if before.length % 2 = 0 then .manual else .assisted) := by
  have hmanual : q ∉ picks.usedQueryIdsManual := fun hq => hnew ((h.mem_iff q).mpr (Or.inl hq))
  have hassisted : q ∉ picks.usedQueryIdsAssisted := fun hq =>
    hnew ((h.mem_iff q).mpr (Or.inr hq))
  simp only [BucketPicks.chooseGroup, h.manual_length, h.assisted_length, hmanual, hassisted,
    not_false_eq_true, decide_true, Bool.and_true, Bool.and_eq_true, decide_eq_true_eq]
  split_ifs <;> first | rfl | omega

/-- The last candidate completes the assisted group. -/
theorem Alternates.chooseGroup_last (h : Alternates before picks)
    (hlast : before.length + 1 = 2 * t) (q : ℕ) :
    picks.chooseGroup t q = some .assisted := by
  have hmanual : ¬0 < (t : ℤ) - picks.manualPicked.length := by
    rw [h.manual_length]
    omega
  have hassisted : 0 < (t : ℤ) - picks.assistedPicked.length := by
    rw [h.assisted_length]
    omega
  simp only [BucketPicks.chooseGroup, hmanual, hassisted, decide_false, decide_true,
    Bool.false_and, Bool.true_and]
  simp

/-- Before that, a repeated query case goes to the group that has not used it. -/
theorem Alternates.not_apart_of_repeat (h : Alternates before picks) (hnodup : before.Nodup)
    (hroom : before.length + 1 < 2 * t) (hrepeat : sc.candidate.queryCaseId ∈ before) :
    ∃ mode, picks.chooseGroup t sc.candidate.queryCaseId = some mode ∧
      ¬(picks.assign sc mode).Apart := by
  have hmneeds : 0 < (t : ℤ) - picks.manualPicked.length := by
    rw [h.manual_length]
    omega
  have haneeds : 0 < (t : ℤ) - picks.assistedPicked.length := by
    rw [h.assisted_length]
    omega
  rcases (h.mem_iff _).mp hrepeat with hmanual | hassisted
  · have hassisted := h.apart hnodup _ hmanual
    refine ⟨.assisted, ?_, fun happart => ?_⟩
    · simp only [BucketPicks.chooseGroup, hmneeds, haneeds, hmanual, hassisted, decide_true,
        decide_false, not_true_eq_false, not_false_eq_true, Bool.and_false, Bool.true_and]
      rfl
    · exact happart _ hmanual (List.mem_append_right _ (List.mem_singleton_self _))
  · have hmanual : sc.candidate.queryCaseId ∉ picks.usedQueryIdsManual := fun hq =>
      h.apart hnodup _ hq hassisted
    refine ⟨.manual, ?_, fun happart => ?_⟩
    · simp only [BucketPicks.chooseGroup, hmneeds, haneeds, hmanual, hassisted, decide_true,
        decide_false, not_true_eq_false, not_false_eq_true, Bool.and_false, Bool.and_true]
      rfl
    · exact happart _ (List.mem_append_right _ (List.mem_singleton_self _)) hassisted

/-- Full groups end the loop. -/
theorem pickFromPool_of_full (hmanual : (t : ℤ) ≤ picks.manualPicked.length)
    (hassisted : (t : ℤ) ≤ picks.assistedPicked.length) (pool : List ScoredCandidate) :
    pickFromPool t picks pool = picks := by
  induction pool with
  | nil => rfl
  | cons sc pool ih =>
      rw [pickFromPool]
      split_ifs with hassigned hfull
      · exact ih
      · rfl
      · exact absurd ⟨by omega, by omega⟩ hfull

theorem queriesApart_of_short (hnodup : ids.Nodup) (hlen : ids.length < 2 * t) :
    QueriesApart t ids := by
  refine ⟨(List.take_sublist _ _).nodup hnodup, fun i _ q _ hlast => ?_⟩
  have hlt := (List.getElem?_eq_some_iff.mp hlast).1
  omega

/-- A query case that comes twice before the last place. -/
theorem not_queriesApart_of_repeat {q : ℕ} {rest : List ℕ} (hroom : before.length + 1 < 2 * t)
    (hrepeat : q ∈ before) : ¬QueriesApart t (before ++ q :: rest) := by
  rintro ⟨hdistinct, -⟩
  have hpre : before ++ [q] <+: (before ++ q :: rest).take (2 * t - 1) := by
    rw [List.prefix_take_iff]
    refine ⟨⟨rest, by simp⟩, ?_⟩
    rw [List.length_append, List.length_singleton]
    omega
  have hboth := hpre.sublist.nodup hdistinct
  exact (List.nodup_append.mp hboth).2.2 _ hrepeat _ (List.mem_singleton_self _) rfl

/-- The query case of the last place. -/
theorem queriesApart_last_iff {q : ℕ} {rest : List ℕ} (hnodup : before.Nodup)
    (hlast : before.length + 1 = 2 * t) :
    QueriesApart t (before ++ q :: rest) ↔ ¬∃ i, before[2 * i]? = some q := by
  have hbefore : 2 * t - 1 = before.length := by omega
  have hget : (before ++ q :: rest)[before.length]? = some q := by
    rw [List.getElem?_append_right (le_refl _), Nat.sub_self]
    rfl
  rw [QueriesApart, hbefore, List.take_left, hget]
  constructor
  · rintro ⟨-, hall⟩ ⟨i, hi⟩
    have hlt := (List.getElem?_eq_some_iff.mp hi).1
    refine hall i (by omega) q ?_ rfl
    rw [List.getElem?_append_left hlt]
    exact hi
  · intro hnone
    refine ⟨hnodup, fun i hi q' hq' hsame => hnone ⟨i, ?_⟩⟩
    rw [List.getElem?_append_left (by omega)] at hq'
    rw [hq', hsame]

/-- A further candidate of the assisted group. -/
theorem Alternates.assign_assisted_apart_iff (h : Alternates before picks)
    (hnodup : before.Nodup) (sc : ScoredCandidate) :
    (picks.assign sc .assisted).Apart ↔
      ¬∃ i, before[2 * i]? = some sc.candidate.queryCaseId := by
  rw [← h.manual_used]
  constructor
  · intro happart hused
    exact happart _ hused (List.mem_append_right _ (List.mem_singleton_self _))
  · intro hunused q hq hq'
    rcases List.mem_append.mp hq' with hold | hnew
    · exact h.apart hnodup q hq hold
    · exact hunused (List.mem_singleton.mp hnew ▸ hq)

/-- **The loop on one pool.**  From query cases dealt out in turns, the groups stay apart
exactly when the whole sequence lets them. -/
theorem pickFromPool_apart_iff (h : Alternates before picks) (hnodup : before.Nodup)
    (hroom : before.length < 2 * t)
    (hruns : (pool.map fun sc => sc.candidate.runId).Nodup)
    (hfree : ∀ sc ∈ pool, sc.candidate.runId ∉ picks.assignedRunIds) :
    (pickFromPool t picks pool).Apart ↔
      QueriesApart t (before ++ pool.map fun sc => sc.candidate.queryCaseId) := by
  induction pool generalizing before picks with
  | nil =>
      rw [List.map_nil, List.append_nil]
      exact iff_of_true (h.apart hnodup) (queriesApart_of_short hnodup hroom)
  | cons sc pool ih =>
      have hunassigned : sc.candidate.runId ∉ picks.assignedRunIds := hfree sc List.mem_cons_self
      have hopen : ¬((t : ℤ) - picks.manualPicked.length ≤ 0 ∧
          (t : ℤ) - picks.assistedPicked.length ≤ 0) := by
        rw [h.assisted_length]
        omega
      rw [pickFromPool, if_neg hunassigned, if_neg hopen, List.map_cons]
      obtain ⟨hfirst, hruns⟩ := List.nodup_cons.mp hruns
      have hfree' : ∀ mode, ∀ other ∈ pool,
          other.candidate.runId ∉ (picks.assign sc mode).assignedRunIds := by
        intro mode other hother
        have hother' := hfree other (List.mem_cons_of_mem _ hother)
        have hne : other.candidate.runId ≠ sc.candidate.runId := fun hsame =>
          hfirst (List.mem_map.mpr ⟨other, hother, hsame⟩)
        cases mode <;> simp [BucketPicks.assign, hother', hne]
      by_cases hlast : before.length + 1 = 2 * t
      · -- The last candidate is assisted; the rest is not looked at.
        rw [h.chooseGroup_last hlast]
        have hmanual : (t : ℤ) ≤ (picks.assign sc .assisted).manualPicked.length := by
          simp only [BucketPicks.assign, h.manual_length]
          omega
        have hassisted : (t : ℤ) ≤ (picks.assign sc .assisted).assistedPicked.length := by
          simp only [BucketPicks.assign, List.length_append, List.length_singleton,
            h.assisted_length]
          omega
        dsimp only
        rw [pickFromPool_of_full hmanual hassisted, h.assign_assisted_apart_iff hnodup,
          queriesApart_last_iff hnodup hlast]
      · by_cases hrepeat : sc.candidate.queryCaseId ∈ before
        · -- It goes to both groups, and stays there.
          obtain ⟨mode, hmode, hshared⟩ := h.not_apart_of_repeat (t := t) hnodup (by omega) hrepeat
          rw [hmode]
          refine iff_of_false (fun happart => hshared fun q hmanual hassisted => ?_)
            (not_queriesApart_of_repeat (by omega) hrepeat)
          obtain ⟨hkeeps, hkeeps'⟩ := pickFromPool_used t pool (picks.assign sc mode)
          exact happart q (hkeeps q hmanual) (hkeeps' q hassisted)
        · rw [h.chooseGroup_of_new hroom hrepeat]
          have hnodup' : (before ++ [sc.candidate.queryCaseId]).Nodup :=
            List.nodup_append.mpr ⟨hnodup, by simp, fun q hq q' hq' => by
              rw [List.mem_singleton.mp hq']
              exact fun hsame => hrepeat (hsame ▸ hq)⟩
          have hnext := ih (h.assign sc) hnodup' (by simp; omega) hruns (hfree' _)
          rw [List.append_assoc, List.singleton_append] at hnext
          exact hnext

end Apart

/-! ## From the loop to the plan -/

section Plan

variable {scored : List ScoredCandidate} {targets : Bucket → ℤ} {bucket : Bucket}
  {sc : ScoredCandidate} {slot : ExperimentSlot} {picks : BucketPicks}

/-- The used query cases are those of the picked candidates, which come from a pool. -/
structure BucketPicks.Recorded (pool : List ScoredCandidate) (picks : BucketPicks) : Prop where
  manual_used : picks.usedQueryIdsManual =
    picks.manualPicked.map fun sc => sc.candidate.queryCaseId
  assisted_used : picks.usedQueryIdsAssisted =
    picks.assistedPicked.map fun sc => sc.candidate.queryCaseId
  manual_mem : ∀ sc ∈ picks.manualPicked, sc ∈ pool
  assisted_mem : ∀ sc ∈ picks.assistedPicked, sc ∈ pool

theorem BucketPicks.Recorded.assign {pool : List ScoredCandidate} (h : picks.Recorded pool)
    (hsc : sc ∈ pool) (mode : DiagnosisMode) : (picks.assign sc mode).Recorded pool := by
  have hmem : ∀ picked : List ScoredCandidate, (∀ other ∈ picked, other ∈ pool) →
      ∀ other ∈ picked ++ [sc], other ∈ pool := by
    intro picked hpicked other hother
    rcases List.mem_append.mp hother with hold | hnew
    · exact hpicked other hold
    · exact List.mem_singleton.mp hnew ▸ hsc
  cases mode with
  | manual =>
      refine ⟨?_, h.assisted_used, hmem _ h.manual_mem, h.assisted_mem⟩
      simp [BucketPicks.assign, h.manual_used]
  | assisted =>
      refine ⟨h.manual_used, ?_, h.manual_mem, hmem _ h.assisted_mem⟩
      simp [BucketPicks.assign, h.assisted_used]

theorem pickFromPool_recorded (t : ℤ) {whole : List ScoredCandidate}
    (pool : List ScoredCandidate) (hpool : ∀ sc ∈ pool, sc ∈ whole)
    (h : picks.Recorded whole) : (pickFromPool t picks pool).Recorded whole := by
  induction pool generalizing picks with
  | nil => exact h
  | cons sc pool ih =>
      have hrest : ∀ other ∈ pool, other ∈ whole := fun other hother =>
        hpool other (List.mem_cons_of_mem _ hother)
      rw [pickFromPool]
      split_ifs with hassigned hfull
      · exact ih hrest h
      · exact h
      · cases picks.chooseGroup t sc.candidate.queryCaseId with
        | none => exact ih hrest h
        | some mode => exact ih hrest (h.assign (hpool sc List.mem_cons_self) mode)

theorem bucketPicks_recorded (scored : List ScoredCandidate) (targets : Bucket → ℤ)
    (bucket : Bucket) :
    (bucketPicks scored targets bucket).Recorded (bucketPool scored bucket) := by
  refine pickFromPool_recorded _ _ (fun _ hsc => hsc) ?_
  constructor <;> simp [BucketPicks.empty]

/-- Without a target nothing is picked. -/
theorem bucketPicks_of_nonpos (htarget : targets bucket ≤ 0) :
    bucketPicks scored targets bucket = BucketPicks.empty := by
  rw [bucketPicks]
  cases bucketPool scored bucket with
  | nil => rfl
  | cons sc pool =>
      have hfull : targets bucket - (BucketPicks.empty.manualPicked.length : ℤ) ≤ 0 ∧
          targets bucket - (BucketPicks.empty.assistedPicked.length : ℤ) ≤ 0 := by
        simp only [BucketPicks.empty, List.length_nil]
        omega
      rw [pickFromPool, if_neg (by simp [BucketPicks.empty]), if_pos hfull]

theorem mem_bucketPool : sc ∈ bucketPool scored bucket ↔ sc ∈ scored ∧ sc.bucket = bucket := by
  simp [bucketPool]

/-- The manual slots of a bucket are those of its manual picks. -/
theorem mem_manualSlots_iff :
    (slot ∈ (buildExperimentPlan scored targets).manualSlots ∧ slot.bucket = bucket) ↔
      ∃ sc ∈ (bucketPicks scored targets bucket).manualPicked, makeSlot .manual sc = slot := by
  simp only [buildExperimentPlan, List.mem_flatMap, List.mem_map]
  constructor
  · rintro ⟨⟨other, -, sc, hsc, rfl⟩, hbucket⟩
    have hother := (mem_bucketPool.mp
      ((bucketPicks_recorded scored targets other).manual_mem sc hsc)).2
    obtain rfl : other = bucket := hother.symm.trans hbucket
    exact ⟨sc, hsc, rfl⟩
  · rintro ⟨sc, hsc, rfl⟩
    have hbucket := (mem_bucketPool.mp
      ((bucketPicks_recorded scored targets bucket).manual_mem sc hsc)).2
    exact ⟨⟨bucket, bucket.mem_all, sc, hsc, rfl⟩, hbucket⟩

theorem mem_assistedSlots_iff :
    (slot ∈ (buildExperimentPlan scored targets).assistedSlots ∧ slot.bucket = bucket) ↔
      ∃ sc ∈ (bucketPicks scored targets bucket).assistedPicked,
        makeSlot .assisted sc = slot := by
  simp only [buildExperimentPlan, List.mem_flatMap, List.mem_map]
  constructor
  · rintro ⟨⟨other, -, sc, hsc, rfl⟩, hbucket⟩
    have hother := (mem_bucketPool.mp
      ((bucketPicks_recorded scored targets other).assisted_mem sc hsc)).2
    obtain rfl : other = bucket := hother.symm.trans hbucket
    exact ⟨sc, hsc, rfl⟩
  · rintro ⟨sc, hsc, rfl⟩
    have hbucket := (mem_bucketPool.mp
      ((bucketPicks_recorded scored targets bucket).assisted_mem sc hsc)).2
    exact ⟨⟨bucket, bucket.mem_all, sc, hsc, rfl⟩, hbucket⟩

/-- Some query case has a run in a manual slot and a run in an assisted slot of the
bucket. -/
def PlanSharesQuery (scored : List ScoredCandidate) (targets : Bucket → ℤ) (bucket : Bucket) :
    Prop :=
  ∃ sc ∈ scored, ∃ sc' ∈ scored, sc.candidate.queryCaseId = sc'.candidate.queryCaseId ∧
    (∃ slot ∈ (buildExperimentPlan scored targets).manualSlots,
      slot.bucket = bucket ∧ slot.runId = sc.candidate.runId) ∧
    ∃ slot ∈ (buildExperimentPlan scored targets).assistedSlots,
      slot.bucket = bucket ∧ slot.runId = sc'.candidate.runId

/-- With distinct run ids a slot names its candidate. -/
theorem planSharesQuery_iff (hruns : (scored.map fun sc => sc.candidate.runId).Nodup) :
    PlanSharesQuery scored targets bucket ↔ ¬(bucketPicks scored targets bucket).Apart := by
  have hrecorded := bucketPicks_recorded scored targets bucket
  have hinj : ∀ sc ∈ scored, ∀ sc' ∈ scored,
      sc.candidate.runId = sc'.candidate.runId → sc = sc' := fun sc hsc sc' hsc' =>
    List.inj_on_of_nodup_map hruns hsc hsc'
  have hscored : ∀ sc ∈ bucketPool scored bucket, sc ∈ scored := fun sc hsc =>
    (mem_bucketPool.mp hsc).1
  simp only [BucketPicks.Apart, hrecorded.manual_used, hrecorded.assisted_used, not_forall,
    not_not]
  constructor
  · rintro ⟨sc, hsc, sc', hsc', hquery, ⟨slot, hslot, hbucket, hrun⟩, slot', hslot', hbucket',
      hrun'⟩
    obtain ⟨picked, hpicked, rfl⟩ := mem_manualSlots_iff.mp ⟨hslot, hbucket⟩
    obtain ⟨picked', hpicked', rfl⟩ := mem_assistedSlots_iff.mp ⟨hslot', hbucket'⟩
    obtain rfl := hinj _ (hscored _ (hrecorded.manual_mem _ hpicked)) _ hsc hrun
    obtain rfl := hinj _ (hscored _ (hrecorded.assisted_mem _ hpicked')) _ hsc' hrun'
    exact ⟨_, List.mem_map.mpr ⟨_, hpicked, rfl⟩, List.mem_map.mpr ⟨_, hpicked', hquery.symm⟩⟩
  · rintro ⟨q, hq, hq'⟩
    obtain ⟨sc, hsc, rfl⟩ := List.mem_map.mp hq
    obtain ⟨sc', hsc', hquery⟩ := List.mem_map.mp hq'
    obtain ⟨hslot, hbucket⟩ := mem_manualSlots_iff.mpr ⟨sc, hsc, rfl⟩
    obtain ⟨hslot', hbucket'⟩ := mem_assistedSlots_iff.mpr ⟨sc', hsc', rfl⟩
    exact ⟨sc, hscored _ (hrecorded.manual_mem _ hsc), sc',
      hscored _ (hrecorded.assisted_mem _ hsc'), hquery.symm, ⟨_, hslot, hbucket, rfl⟩,
      _, hslot', hbucket', rfl⟩

end Plan

/-- **When the groups of a bucket share no query case.** -/
theorem groups_share_no_query_iff (scored : List ScoredCandidate) (targets : Bucket → ℤ)
    (bucket : Bucket) (hruns : (scored.map fun sc => sc.candidate.runId).Nodup) :
    ¬PlanSharesQuery scored targets bucket ↔
      QueriesApart (targets bucket).toNat
        ((bucketPool scored bucket).map fun sc => sc.candidate.queryCaseId) := by
  rw [planSharesQuery_iff hruns, not_not]
  by_cases hpositive : 0 < targets bucket
  · have htarget : targets bucket = (targets bucket).toNat :=
      (Int.toNat_of_nonneg hpositive.le).symm
    have hpool : ((bucketPool scored bucket).map fun sc => sc.candidate.runId).Nodup :=
      (List.filter_sublist.map _).nodup hruns
    rw [bucketPicks, htarget]
    exact pickFromPool_apart_iff alternates_empty List.nodup_nil
      (by simp only [List.length_nil]; omega) hpool fun _ _ => List.not_mem_nil
  · have hnone : (targets bucket).toNat = 0 := by omega
    rw [bucketPicks_of_nonpos (by omega), hnone]
    refine iff_of_true (fun q hq => absurd hq List.not_mem_nil) ⟨by simp, fun i hi => ?_⟩
    exact absurd hi (Nat.not_lt_zero i)

/-- A pool with `2t` candidates of distinct query cases. -/
def OffersDistinctQueries (t : ℕ) (ids : List ℕ) : Prop :=
  ∃ chosen : List ℕ, chosen.Sublist ids ∧ chosen.length = 2 * t ∧ chosen.Nodup

/-- A run without a failure. -/
def easyCandidate (runId queryCaseId : ℕ) : ScoredCandidate where
  candidate :=
    { runId := runId
      failureType := "NO_FAILURE"
      queryText := "question"
      queryCaseId := queryCaseId
      retrievalRelevance := none
      contextCoverage := none
      completeness := none
      faithfulness := none
      manualSessions := 0
      assistedSessions := 0 }
  bucket := .easyControl
  score := -40
  scoreReasons := []

/-- Two runs of different query cases. -/
theorem groups_share_no_query_distinct :
    ¬PlanSharesQuery [easyCandidate 2 1, easyCandidate 1 2] groupTargets .easyControl := by
  refine (groups_share_no_query_iff _ _ _ (by decide)).mpr ⟨by decide, fun i hi q hq hlast => ?_⟩
  obtain rfl : i = 0 := by
    have : i < 1 := hi
    omega
  cases hq
  cases hlast

/-- With the query cases 1, 1, 2 the first two runs are taken, one for each group. -/
theorem plan_puts_query_in_both_groups :
    ¬∀ (scored : List ScoredCandidate) (targets : Bucket → ℤ) (bucket : Bucket),
      (scored.map fun sc => sc.candidate.runId).Nodup →
        OffersDistinctQueries (targets bucket).toNat
          ((bucketPool scored bucket).map fun sc => sc.candidate.queryCaseId) →
        ¬PlanSharesQuery scored targets bucket := by
  intro h
  let scored := [easyCandidate 3 1, easyCandidate 2 1, easyCandidate 1 2]
  have hoffers : OffersDistinctQueries (groupTargets .easyControl).toNat
      ((bucketPool scored .easyControl).map fun sc => sc.candidate.queryCaseId) :=
    ⟨[1, 2], by decide, rfl, by decide⟩
  refine h scored groupTargets .easyControl (by decide) hoffers ?_
  refine ⟨easyCandidate 3 1, by simp [scored], easyCandidate 2 1, by simp [scored], rfl, ?_, ?_⟩
  · exact ⟨_, List.mem_cons_self, rfl, rfl⟩
  · exact ⟨_, List.mem_cons_self, rfl, rfl⟩

end ContextLens
