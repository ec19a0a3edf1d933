import ContextLens.ExperimentPlan
import Mathlib.Data.List.Perm.Basic

/-!
# How full the plan is, and how even

As long as a group has room the loop over a pool assigns every candidate it
meets, whatever query case it has, so a bucket takes the first candidates of its
pool until both groups are full (`pickFromPool_perm`).

Which group a candidate goes to depends on the query cases.  A new one goes to
the smaller group, but a repeated one does not: the second occurrence goes to the
other group than the first and every later one to the manual group.  The lean of
a pool (`lean`) is how far apart this alone drives the groups, and a pool too
small to fill the bucket leaves them that far apart (`plan_is_balanced_iff`).
-/

namespace ContextLens

open Foundations

/-! ## The loop fills the groups -/

section Filling

variable {picks : BucketPicks} {pool : List ScoredCandidate} {t : ℕ}

/-- The candidates of both groups. -/
def BucketPicks.picked (picks : BucketPicks) : List ScoredCandidate :=
  picks.manualPicked ++ picks.assistedPicked

/-- No group has more than its target. -/
structure BucketPicks.Within (t : ℕ) (picks : BucketPicks) : Prop where
  manual : picks.manualPicked.length ≤ t
  assisted : picks.assistedPicked.length ≤ t

theorem BucketPicks.within_empty (t : ℕ) : BucketPicks.empty.Within t :=
  ⟨Nat.zero_le t, Nat.zero_le t⟩

/-- While a group has room, a candidate goes to a group that has room. -/
theorem BucketPicks.chooseGroup_room (hwithin : picks.Within t)
    (hroom : picks.picked.length < 2 * t) (q : ℕ) :
    ∃ mode, picks.chooseGroup t q = some mode ∧
      ∀ sc : ScoredCandidate, (picks.assign sc mode).Within t := by
  obtain ⟨hmanual, hassisted⟩ := hwithin
  rw [picked, List.length_append] at hroom
  have hmanualTo : picks.manualPicked.length < t →
      ∀ sc : ScoredCandidate, (picks.assign sc .manual).Within t := by
    intro hlt sc
    refine ⟨?_, hassisted⟩
    rw [assign, List.length_append]
    exact hlt
  have hassistedTo : picks.assistedPicked.length < t →
      ∀ sc : ScoredCandidate, (picks.assign sc .assisted).Within t := by
    intro hlt sc
    refine ⟨hmanual, ?_⟩
    rw [assign, List.length_append]
    exact hlt
  simp only [chooseGroup, Bool.and_eq_true, decide_eq_true_eq]
  split_ifs with hboth hneeds hcan hcan' hopen hopen'
  · exact ⟨_, rfl, hmanualTo (by omega)⟩
  · exact ⟨_, rfl, hassistedTo (by omega)⟩
  · exact ⟨_, rfl, hmanualTo (by omega)⟩
  · exact ⟨_, rfl, hassistedTo (by omega)⟩
  · exact ⟨_, rfl, hmanualTo (by omega)⟩
  · exact ⟨_, rfl, hassistedTo (by omega)⟩
  · omega

theorem BucketPicks.picked_assign (picks : BucketPicks) (sc : ScoredCandidate)
    (mode : DiagnosisMode) : (picks.assign sc mode).picked.Perm (sc :: picks.picked) := by
  cases mode with
  | manual =>
      have hmiddle : (picks.assign sc .manual).picked
          = picks.manualPicked ++ sc :: picks.assistedPicked := by
        simp [picked, assign]
      rw [hmiddle]
      exact List.perm_middle
  | assisted =>
      have hlast : (picks.assign sc .assisted).picked = picks.picked ++ [sc] := by
        simp [picked, assign]
      rw [hlast]
      exact List.perm_append_singleton sc picks.picked

/-- One step of the loop on a candidate that is not assigned yet. -/
theorem pickFromPool_cons (hwithin : picks.Within t) (hroom : picks.picked.length < 2 * t)
    {sc : ScoredCandidate} (hfree : sc.candidate.runId ∉ picks.assignedRunIds)
    (pool : List ScoredCandidate) :
    ∃ mode, picks.chooseGroup t sc.candidate.queryCaseId = some mode ∧
      (picks.assign sc mode).Within t ∧
      pickFromPool t picks (sc :: pool) = pickFromPool t (picks.assign sc mode) pool := by
  obtain ⟨mode, hmode, hnext⟩ := picks.chooseGroup_room hwithin hroom sc.candidate.queryCaseId
  have hopen : ¬((t : ℤ) - picks.manualPicked.length ≤ 0 ∧
      (t : ℤ) - picks.assistedPicked.length ≤ 0) := by
    rw [BucketPicks.picked, List.length_append] at hroom
    omega
  refine ⟨mode, hmode, hnext sc, ?_⟩
  rw [pickFromPool, if_neg hfree, if_neg hopen, hmode]

/-- What an assignment adds to the assigned run ids. -/
theorem free_assign {sc : ScoredCandidate} (mode : DiagnosisMode)
    (hruns : ((sc :: pool).map fun sc => sc.candidate.runId).Nodup)
    (hfree : ∀ other ∈ sc :: pool, other.candidate.runId ∉ picks.assignedRunIds) :
    ∀ other ∈ pool, other.candidate.runId ∉ (picks.assign sc mode).assignedRunIds := by
  intro other hother
  have hold := hfree other (List.mem_cons_of_mem _ hother)
  have hne : other.candidate.runId ≠ sc.candidate.runId := fun hsame =>
    (List.nodup_cons.mp hruns).1 (List.mem_map.mpr ⟨other, hother, hsame⟩)
  cases mode <;> simp [BucketPicks.assign, hold, hne]

/-- The loop takes the candidates of the pool in order until both groups are full. -/
theorem pickFromPool_perm (hwithin : picks.Within t)
    (hruns : (pool.map fun sc => sc.candidate.runId).Nodup)
    (hfree : ∀ sc ∈ pool, sc.candidate.runId ∉ picks.assignedRunIds) :
    (pickFromPool t picks pool).Within t ∧
      (pickFromPool t picks pool).picked.Perm
        (picks.picked ++ pool.take (2 * t - picks.picked.length)) := by
  induction pool generalizing picks with
  | nil => exact ⟨hwithin, by simp [pickFromPool]⟩
  | cons sc pool ih =>
      by_cases hroom : picks.picked.length < 2 * t
      · obtain ⟨mode, -, hnext, hstep⟩ := pickFromPool_cons hwithin hroom
          (hfree sc List.mem_cons_self) pool
        obtain ⟨hwithin', hperm⟩ := ih hnext (List.nodup_cons.mp hruns).2
          (free_assign mode hruns hfree)
        rw [hstep]
        refine ⟨hwithin', hperm.trans ?_⟩
        have hassign := picks.picked_assign sc mode
        have hcount : 2 * t - picks.picked.length
            = (2 * t - (picks.assign sc mode).picked.length) + 1 := by
          rw [hassign.length_eq, List.length_cons]
          omega
        rw [hcount, List.take_succ_cons]
        exact (hassign.append_right _).trans List.perm_middle.symm
      · -- Both groups are full.
        obtain ⟨hmanual, hassisted⟩ := hwithin
        have hfull := hroom
        rw [BucketPicks.picked, List.length_append] at hfull
        have hnone : 2 * t - picks.picked.length = 0 := by omega
        rw [pickFromPool_of_full (by omega) (by omega), hnone]
        exact ⟨⟨hmanual, hassisted⟩, by simp⟩

end Filling

/-! ## The slots of a bucket -/

section Slots

variable (scored : List ScoredCandidate) (targets : Bucket → ℤ) (bucket : Bucket)

/-- The slots of a bucket. -/
def slotsOf (bucket : Bucket) (slots : List ExperimentSlot) : List ExperimentSlot :=
  slots.filter fun slot => slot.bucket = bucket

/-- Slots built bucket by bucket, with the bucket of each. -/
theorem slotsOf_flatMap (slots : Bucket → List ExperimentSlot)
    (hslots : ∀ b, ∀ slot ∈ slots b, slot.bucket = b) :
    slotsOf bucket (Bucket.all.flatMap slots) = slots bucket := by
  have hone : ∀ b, slotsOf bucket (slots b) = if b = bucket then slots b else [] := by
    intro b
    rw [slotsOf]
    split
    case isTrue heq =>
      rw [List.filter_eq_self]
      intro slot hslot
      simpa [heq] using hslots b slot hslot
    case isFalse hne =>
      rw [List.filter_eq_nil_iff]
      intro slot hslot
      simpa [hslots b slot hslot] using hne
  simp only [slotsOf] at hone ⊢
  rw [Bucket.all, List.flatMap_cons, List.flatMap_cons, List.flatMap_cons, List.flatMap_cons,
    List.flatMap_nil, List.filter_append, List.filter_append, List.filter_append,
    List.filter_append, hone, hone, hone, hone]
  cases bucket <;> simp

theorem slotsOf_manualSlots :
    slotsOf bucket (buildExperimentPlan scored targets).manualSlots
      = (bucketPicks scored targets bucket).manualPicked.map (makeSlot .manual) := by
  refine slotsOf_flatMap bucket
    (fun b => (bucketPicks scored targets b).manualPicked.map (makeSlot .manual)) ?_
  intro b slot hslot
  obtain ⟨sc, hsc, rfl⟩ := List.mem_map.mp hslot
  exact (mem_bucketPool.mp ((bucketPicks_recorded scored targets b).manual_mem sc hsc)).2

theorem slotsOf_assistedSlots :
    slotsOf bucket (buildExperimentPlan scored targets).assistedSlots
      = (bucketPicks scored targets bucket).assistedPicked.map (makeSlot .assisted) := by
  refine slotsOf_flatMap bucket
    (fun b => (bucketPicks scored targets b).assistedPicked.map (makeSlot .assisted)) ?_
  intro b slot hslot
  obtain ⟨sc, hsc, rfl⟩ := List.mem_map.mp hslot
  exact (mem_bucketPool.mp ((bucketPicks_recorded scored targets b).assisted_mem sc hsc)).2

/-- All the slots of the plan. -/
def ExperimentPlan.slots (plan : ExperimentPlan) : List ExperimentSlot :=
  plan.manualSlots ++ plan.assistedSlots

theorem runIds_slotsOf :
    (slotsOf bucket (buildExperimentPlan scored targets).slots).map ExperimentSlot.runId
      = (bucketPicks scored targets bucket).picked.map fun sc => sc.candidate.runId := by
  have happend : slotsOf bucket (buildExperimentPlan scored targets).slots
      = slotsOf bucket (buildExperimentPlan scored targets).manualSlots ++
        slotsOf bucket (buildExperimentPlan scored targets).assistedSlots :=
    List.filter_append _ _
  rw [happend, slotsOf_manualSlots, slotsOf_assistedSlots, List.map_append, List.map_map,
    List.map_map, BucketPicks.picked, List.map_append]
  rfl

variable {scored targets bucket}

/-- The loop over the pool of a bucket, from nothing picked. -/
theorem bucketPicks_perm (hruns : (scored.map fun sc => sc.candidate.runId).Nodup)
    (htarget : 0 ≤ targets bucket) :
    (bucketPicks scored targets bucket).Within (targets bucket).toNat ∧
      (bucketPicks scored targets bucket).picked.Perm
        ((bucketPool scored bucket).take (2 * (targets bucket).toNat)) := by
  have hpool : ((bucketPool scored bucket).map fun sc => sc.candidate.runId).Nodup :=
    (List.filter_sublist.map _).nodup hruns
  have hloop := pickFromPool_perm (BucketPicks.within_empty (targets bucket).toNat) hpool
    fun _ _ => List.not_mem_nil
  rw [Int.toNat_of_nonneg htarget] at hloop
  exact hloop

/-- The picks of a bucket are candidates of its pool. -/
theorem mem_picked {sc : ScoredCandidate} (h : sc ∈ (bucketPicks scored targets bucket).picked) :
    sc ∈ scored ∧ sc.bucket = bucket := by
  have hrecorded := bucketPicks_recorded scored targets bucket
  rcases List.mem_append.mp h with h | h
  · exact mem_bucketPool.mp (hrecorded.manual_mem sc h)
  · exact mem_bucketPool.mp (hrecorded.assisted_mem sc h)

/-- A run is in one slot of the plan at most. -/
theorem runIds_nodup (hruns : (scored.map fun sc => sc.candidate.runId).Nodup)
    (htargets : ∀ b, 0 ≤ targets b) :
    ((buildExperimentPlan scored targets).slots.map ExperimentSlot.runId).Nodup := by
  have hslots : ((buildExperimentPlan scored targets).slots.map ExperimentSlot.runId).Perm
      (Bucket.all.flatMap fun b =>
        (bucketPicks scored targets b).picked.map fun sc => sc.candidate.runId) := by
    have hsplit := List.flatMap_append_perm Bucket.all
      (fun b => (bucketPicks scored targets b).manualPicked.map fun sc => sc.candidate.runId)
      fun b => (bucketPicks scored targets b).assistedPicked.map fun sc => sc.candidate.runId
    simpa [ExperimentPlan.slots, buildExperimentPlan, BucketPicks.picked, List.map_flatMap,
      makeSlot, Function.comp_def] using hsplit
  rw [hslots.nodup_iff, List.nodup_flatMap]
  constructor
  · intro b _
    have hperm := (bucketPicks_perm hruns (htargets b)).2.map fun sc => sc.candidate.runId
    rw [hperm.nodup_iff]
    exact (((List.take_sublist _ _).trans List.filter_sublist).map _).nodup hruns
  · -- A run id tells its candidate, and that its bucket.
    have hall : Bucket.all.Pairwise (· ≠ ·) := by decide
    refine hall.imp fun {b b'} hne id hid hid' => hne ?_
    obtain ⟨sc, hsc, rfl⟩ := List.mem_map.mp hid
    obtain ⟨sc', hsc', heq⟩ := List.mem_map.mp hid'
    obtain ⟨hscored, rfl⟩ := mem_picked hsc
    obtain ⟨hscored', rfl⟩ := mem_picked hsc'
    rw [List.inj_on_of_nodup_map hruns hscored' hscored heq]

end Slots

/-! ## The warnings -/

section Warnings

variable {scored : List ScoredCandidate} {targets : Bucket → ℤ}

/-- Some warning of the plan begins like this. -/
def ExperimentPlan.Warns (plan : ExperimentPlan) (label : String) : Prop :=
  ∃ warning ∈ plan.warnings, label.toList <+: warning.toList

theorem toString_string (s : String) : toString s = s := rfl

/-- A closing symbol that stands in no name tells where a name ends. -/
theorem prefix_closed_iff {α : Type*} {c : α} {s t rest : List α} (hs : c ∉ s) (ht : c ∉ t) :
    s ++ [c] <+: t ++ c :: rest ↔ s = t := by
  induction s generalizing t with
  | nil =>
      cases t with
      | nil => simp
      | cons d t =>
          have hne : c ≠ d := fun h => ht (h ▸ List.mem_cons_self)
          simp [hne]
  | cons a s ih =>
      have hne : a ≠ c := fun h => hs (h ▸ List.mem_cons_self)
      cases t with
      | nil => simp [hne]
      | cons d t =>
          rw [List.cons_append, List.cons_append, List.cons_prefix_cons, List.cons.injEq,
            ih (fun h => hs (List.mem_cons_of_mem a h)) fun h => ht (List.mem_cons_of_mem d h)]

theorem quote_not_mem_name (bucket : Bucket) : '\'' ∉ bucket.name.toList := by
  cases bucket <;> decide

theorem name_injective : Function.Injective Bucket.name := by
  intro bucket other h
  cases bucket <;> cases other <;> first | rfl | exact absurd h (by decide)

/-- A warning about a bucket names that bucket and no other. -/
theorem prefix_bucketWarning_iff {bucket other : Bucket} {warning : String}
    (h : bucketWarning scored targets other = some warning) :
    ("Bucket '" ++ bucket.name ++ "'").toList <+: warning.toList ↔ other = bucket := by
  simp only [bucketWarning, Option.ite_none_right_eq_some, Option.some_inj] at h
  obtain ⟨-, rfl⟩ := h
  have hquote : "'".toList = ['\''] := by simp
  have hneed : "': need ".toList = '\'' :: ": need ".toList := by simp
  simp only [String.toList_append, toString_string, List.append_assoc]
  rw [List.prefix_append_right_inj, hquote, hneed, List.cons_append,
    prefix_closed_iff (quote_not_mem_name bucket) (quote_not_mem_name other), String.toList_inj,
    name_injective.eq_iff, eq_comm]

theorem bucketWarning_isSome_iff (bucket : Bucket) :
    (bucketWarning scored targets bucket).isSome ↔
      ((bucketPool scored bucket).length : ℤ) < targets bucket * 2 := by
  simp [bucketWarning]

theorem totalWarning_eq_some {total : ℕ} {warning : String}
    (h : totalWarning total = some warning) :
    total < 20 ∧ ("Only ").toList <+: warning.toList := by
  simp only [totalWarning, Option.ite_none_right_eq_some, Option.some_inj] at h
  obtain ⟨hfew, rfl⟩ := h
  simp only [String.toList_append, toString_string, List.append_assoc]
  exact ⟨hfew, List.prefix_append _ _⟩

theorem warns_bucket_iff (bucket : Bucket) :
    (buildExperimentPlan scored targets).Warns ("Bucket '" ++ bucket.name ++ "'") ↔
      ((bucketPool scored bucket).length : ℤ) < targets bucket * 2 := by
  rw [← bucketWarning_isSome_iff, Option.isSome_iff_exists]
  constructor
  · rintro ⟨warning, hmem, hlabel⟩
    rcases List.mem_append.mp hmem with hmem | hmem
    · obtain ⟨other, -, hother⟩ := List.mem_filterMap.mp hmem
      obtain rfl := (prefix_bucketWarning_iff hother).mp hlabel
      exact ⟨warning, hother⟩
    · -- The other warning begins differently.
      obtain ⟨-, rest, honly⟩ := totalWarning_eq_some (Option.mem_toList.mp hmem)
      rw [← honly] at hlabel
      simp [String.toList_append] at hlabel
  · rintro ⟨warning, hwarning⟩
    refine ⟨warning, List.mem_append_left _ (List.mem_filterMap.mpr ⟨bucket, bucket.mem_all,
      hwarning⟩), ?_⟩
    exact (prefix_bucketWarning_iff hwarning).mpr rfl

theorem warns_total_iff :
    (buildExperimentPlan scored targets).Warns "Only " ↔
      (buildExperimentPlan scored targets).slots.length < 20 := by
  rw [ExperimentPlan.slots, List.length_append]
  constructor
  · rintro ⟨warning, hmem, hlabel⟩
    rcases List.mem_append.mp hmem with hmem | hmem
    · obtain ⟨bucket, -, hbucket⟩ := List.mem_filterMap.mp hmem
      obtain ⟨rest, hname⟩ := (prefix_bucketWarning_iff hbucket).mpr rfl
      rw [← hname] at hlabel
      simp [String.toList_append] at hlabel
    · exact (totalWarning_eq_some (Option.mem_toList.mp hmem)).1
  · intro hfew
    obtain ⟨warning, hwarning⟩ : ∃ warning, totalWarning
        ((buildExperimentPlan scored targets).manualSlots.length +
          (buildExperimentPlan scored targets).assistedSlots.length) = some warning := by
      rw [totalWarning, if_pos hfew]
      exact ⟨_, rfl⟩
    refine ⟨warning, List.mem_append_right _ (Option.mem_toList.mpr hwarning), ?_⟩
    exact (totalWarning_eq_some hwarning).2

end Warnings

/-- The plan fills a bucket from the front of its pool and says how far. -/
structure FillsBucket (pool : List ScoredCandidate) (target : ℤ) (bucket : Bucket)
    (plan : ExperimentPlan) : Prop where
  assigned : ((slotsOf bucket plan.slots).map ExperimentSlot.runId).Perm
    ((pool.take (min pool.length (2 * target.toNat))).map fun sc => sc.candidate.runId)
  manual : ((slotsOf bucket plan.manualSlots).length : ℤ) ≤ target
  assisted : ((slotsOf bucket plan.assistedSlots).length : ℤ) ≤ target
  summary : plan.bucketSummary bucket =
    { available := pool.length
      neededTotal := 2 * target
      assigned := (slotsOf bucket plan.slots).length }
  warned : plan.Warns ("Bucket '" ++ bucket.name ++ "'") ↔ (pool.length : ℤ) < 2 * target

/-- **The plan fills every bucket from the front of its candidates**, in their scored order,
puts no run into two slots and warns about exactly what is missing. -/
theorem plan_fills_buckets (scored : List ScoredCandidate) (targets : Bucket → ℤ)
    (hruns : (scored.map fun sc => sc.candidate.runId).Nodup) (htargets : ∀ b, 0 ≤ targets b) :
    (∀ bucket, FillsBucket (scored.filter fun sc => sc.bucket = bucket) (targets bucket) bucket
        (buildExperimentPlan scored targets)) ∧
      ((buildExperimentPlan scored targets).slots.map ExperimentSlot.runId).Nodup ∧
      ((buildExperimentPlan scored targets).Warns "Only " ↔
        (buildExperimentPlan scored targets).slots.length < 20) := by
  refine ⟨fun bucket => ?_, runIds_nodup hruns htargets, warns_total_iff⟩
  obtain ⟨hwithin, hperm⟩ := bucketPicks_perm hruns (htargets bucket)
  rw [← bucketPool]
  have htake : (bucketPool scored bucket).take
      (min (bucketPool scored bucket).length (2 * (targets bucket).toNat))
        = (bucketPool scored bucket).take (2 * (targets bucket).toNat) := by
    conv_rhs => rw [List.take_eq_take_min, min_comm]
  refine
    { assigned := ?_
      manual := ?_
      assisted := ?_
      summary := ?_
      warned := ?_ }
  · rw [runIds_slotsOf, htake]
    exact hperm.map _
  · have hmanual := hwithin.manual
    rw [slotsOf_manualSlots, List.length_map]
    have htarget := htargets bucket
    omega
  · have hassisted := hwithin.assisted
    rw [slotsOf_assistedSlots, List.length_map]
    have htarget := htargets bucket
    omega
  · have hlength := congrArg List.length (runIds_slotsOf scored targets bucket)
    rw [List.length_map, List.length_map, BucketPicks.picked, List.length_append] at hlength
    show summarizeBucket scored targets bucket = _
    rw [summarizeBucket, hlength, Int.mul_comm]
  · rw [warns_bucket_iff, Int.mul_comm]

/-- Three runs for a bucket that asks for one in each group, and none for the others. -/
def easyRuns : List ScoredCandidate :=
  [easyCandidate 3 1, easyCandidate 2 2, easyCandidate 1 3]

/-- The first two are assigned; the other buckets are warned about. -/
theorem plan_fills_from_easy_runs :
    let plan := buildExperimentPlan easyRuns groupTargets
    ((slotsOf .easyControl plan.slots).map ExperimentSlot.runId).Perm [3, 2] ∧
      plan.bucketSummary .easyControl = { available := 3, neededTotal := 2, assigned := 2 } ∧
      ¬plan.Warns "Bucket 'easy_control'" ∧ plan.Warns "Bucket 'mixed_ambiguous'" ∧
      plan.Warns "Only " := by
  intro plan
  have htargets : ∀ bucket, 0 ≤ groupTargets bucket := fun bucket => by cases bucket <;> decide
  obtain ⟨hfills, -, htotal⟩ := plan_fills_buckets easyRuns groupTargets (by decide) htargets
  have hassigned := (hfills .easyControl).assigned
  have hlength : (slotsOf .easyControl plan.slots).length = 2 := by
    rw [← List.length_map ExperimentSlot.runId, hassigned.length_eq]
    rfl
  refine ⟨hassigned, ?_, fun hwarned => ?_, ?_, ?_⟩
  · rw [(hfills .easyControl).summary, hlength]
    rfl
  · exact absurd ((hfills .easyControl).warned.mp hwarned) (by decide)
  · exact (hfills .mixedAmbiguous).warned.mpr (by decide)
  · exact htotal.mpr (by decide)

/-! ## How far apart repeated query cases drive the groups -/

/-- A walk over query cases, the latest first: where it stands, and the side each
query case took first.  A new one steps towards the smaller side, a second
occurrence takes the first one back, and every later one steps up. -/
def walk : List ℕ → ℤ × (ℕ → ℤ)
  | [] => (0, fun _ => 0)
  | q :: earlier =>
      let before := walk earlier
      match earlier.count q with
      | 0 =>
          let side := if 0 < before.1 then -1 else 1
          (before.1 + side, Function.update before.2 q side)
      | 1 => (before.1 - before.2 q, before.2)
      | _ => (before.1 + 1, before.2)

/-- Where the walk over the query cases of a pool ends. -/
def lean (ids : List ℕ) : ℤ := (walk ids.reverse).1

section Walk

variable {earlier : List ℕ} {q : ℕ}

/-- A query case is new, or comes the second time, or once more. -/
theorem count_cases (q : ℕ) (earlier : List ℕ) :
    q ∉ earlier ∨ (q ∈ earlier ∧ earlier.count q = 1) ∨ (q ∈ earlier ∧ 2 ≤ earlier.count q) := by
  by_cases hmem : q ∈ earlier
  · have hpositive := List.count_pos_iff.mpr hmem
    right
    rcases Nat.lt_or_ge (earlier.count q) 2 with hfew | hmany
    · exact Or.inl ⟨hmem, by omega⟩
    · exact Or.inr ⟨hmem, hmany⟩
  · exact Or.inl hmem

theorem walk_new (hnew : q ∉ earlier) :
    walk (q :: earlier) =
      ((walk earlier).1 + if 0 < (walk earlier).1 then -1 else 1,
        Function.update (walk earlier).2 q (if 0 < (walk earlier).1 then -1 else 1)) := by
  rw [walk, List.count_eq_zero_of_not_mem hnew]
  rfl

theorem walk_second (hsecond : earlier.count q = 1) :
    walk (q :: earlier) = ((walk earlier).1 - (walk earlier).2 q, (walk earlier).2) := by
  rw [walk, hsecond]
  rfl

theorem walk_later (hlater : 2 ≤ earlier.count q) :
    walk (q :: earlier) = ((walk earlier).1 + 1, (walk earlier).2) := by
  obtain ⟨n, hn⟩ := Nat.exists_eq_add_of_le' hlater
  rw [walk, hn]
  rfl

/-- A query case took one of the two sides first. -/
theorem walk_side (hq : q ∈ earlier) : (walk earlier).2 q = 1 ∨ (walk earlier).2 q = -1 := by
  induction earlier with
  | nil => exact absurd hq List.not_mem_nil
  | cons p earlier ih =>
      have hkept : p ∈ earlier → q ∈ earlier := fun hmem =>
        (List.mem_cons.mp hq).elim (fun hsame => hsame ▸ hmem) id
      rcases count_cases p earlier with hnew | ⟨hmem, hsecond⟩ | ⟨hmem, hlater⟩
      · rw [walk_new hnew]
        by_cases hsame : q = p
        · subst hsame
          simp only [Function.update_self]
          split_ifs
          · exact Or.inr rfl
          · exact Or.inl rfl
        · simp only [Function.update_of_ne hsame]
          exact ih ((List.mem_cons.mp hq).resolve_left hsame)
      · rw [walk_second hsecond]
        exact ih (hkept hmem)
      · rw [walk_later hlater]
        exact ih (hkept hmem)

/-- The side a query case took first does not change. -/
theorem walk_first {p : ℕ} (hp : p ∈ earlier) :
    (walk (q :: earlier)).2 p = (walk earlier).2 p := by
  rcases count_cases q earlier with hnew | ⟨-, hsecond⟩ | ⟨-, hlater⟩
  · have hne : p ≠ q := fun hsame => hnew (hsame ▸ hp)
    rw [walk_new hnew]
    exact Function.update_of_ne hne _ _
  · rw [walk_second hsecond]
  · rw [walk_later hlater]

/-- One query case moves the walk by one. -/
theorem walk_cons_bound (q : ℕ) (earlier : List ℕ) :
    (walk earlier).1 - 1 ≤ (walk (q :: earlier)).1 ∧
      (walk (q :: earlier)).1 ≤ (walk earlier).1 + 1 := by
  rcases count_cases q earlier with hnew | ⟨hmem, hsecond⟩ | ⟨-, hlater⟩
  · rw [walk_new hnew]
    dsimp only
    split_ifs <;> omega
  · rw [walk_second hsecond]
    rcases walk_side hmem with hside | hside <;> simp only [hside] <;> omega
  · rw [walk_later hlater]
    dsimp only
    omega

theorem walk_append_bound (later earlier : List ℕ) :
    (walk earlier).1 - later.length ≤ (walk (later ++ earlier)).1 ∧
      (walk (later ++ earlier)).1 ≤ (walk earlier).1 + later.length := by
  induction later with
  | nil => simp
  | cons q later ih =>
      have hstep := walk_cons_bound q (later ++ earlier)
      rw [List.cons_append, List.length_cons]
      omega

/-- Distinct query cases keep the groups even. -/
theorem lean_of_nodup {ids : List ℕ} (hdistinct : ids.Nodup) : lean ids = 0 ∨ lean ids = 1 := by
  rw [lean]
  have hreverse : ids.reverse.Nodup := List.nodup_reverse.mpr hdistinct
  generalize ids.reverse = earlier at hreverse
  induction earlier with
  | nil => exact Or.inl rfl
  | cons q earlier ih =>
      obtain ⟨hnew, hearlier⟩ := List.nodup_cons.mp hreverse
      rw [walk_new hnew]
      rcases ih hearlier with hzero | hone
      · right
        simp [hzero]
      · left
        simp [hone]

end Walk

/-- The side a group stands for. -/
def DiagnosisMode.side : DiagnosisMode → ℤ
  | .manual => 1
  | .assisted => -1

/-- The query cases a group has used. -/
def BucketPicks.used (picks : BucketPicks) : DiagnosisMode → List ℕ
  | .manual => picks.usedQueryIdsManual
  | .assisted => picks.usedQueryIdsAssisted

/-- The groups are where the walk over the query cases is. -/
structure Follows (earlier : List ℕ) (picks : BucketPicks) : Prop where
  stands : (picks.manualPicked.length : ℤ) - picks.assistedPicked.length = (walk earlier).1
  total : picks.picked.length = earlier.length
  used : ∀ mode q, q ∈ picks.used mode ↔
    q ∈ earlier ∧ ((walk earlier).2 q = mode.side ∨ 2 ≤ earlier.count q)

theorem follows_empty : Follows [] BucketPicks.empty := by
  refine ⟨rfl, rfl, fun mode q => ?_⟩
  cases mode <;> simp [BucketPicks.used, BucketPicks.empty]

section Following

variable {earlier : List ℕ} {picks : BucketPicks} {pool : List ScoredCandidate} {t q : ℕ}

theorem stands_assign (picks : BucketPicks) (sc : ScoredCandidate) (mode : DiagnosisMode) :
    ((picks.assign sc mode).manualPicked.length : ℤ) - (picks.assign sc mode).assistedPicked.length
      = picks.manualPicked.length - picks.assistedPicked.length + mode.side := by
  cases mode with
  | manual =>
      simp only [BucketPicks.assign, DiagnosisMode.side, List.length_append, List.length_singleton]
      omega
  | assisted =>
      simp only [BucketPicks.assign, DiagnosisMode.side, List.length_append, List.length_singleton]
      omega

theorem mem_used_assign_iff (picks : BucketPicks) (sc : ScoredCandidate)
    (mode other : DiagnosisMode) (p : ℕ) :
    p ∈ (picks.assign sc mode).used other ↔
      p ∈ picks.used other ∨ other = mode ∧ p = sc.candidate.queryCaseId := by
  cases mode <;> cases other <;> simp [BucketPicks.assign, BucketPicks.used]

/-- A candidate whose group is the side the walk steps to. -/
theorem Follows.assign (h : Follows earlier picks) (sc : ScoredCandidate) (mode : DiagnosisMode)
    (hq : sc.candidate.queryCaseId = q)
    (hstep : (walk (q :: earlier)).1 = (walk earlier).1 + mode.side)
    (hnew : q ∉ earlier → (walk (q :: earlier)).2 q = mode.side)
    (hold : q ∈ earlier → (walk earlier).2 q ≠ mode.side ∨ 2 ≤ earlier.count q) :
    Follows (q :: earlier) (picks.assign sc mode) where
  stands := by rw [stands_assign, h.stands, hstep]
  total := by
    rw [(picks.picked_assign sc mode).length_eq, List.length_cons, List.length_cons, h.total]
  used := by
    intro other p
    rw [mem_used_assign_iff, h.used, hq]
    by_cases hp : p = q
    · subst hp
      rw [List.count_cons_self]
      by_cases hmem : p ∈ earlier
      · -- Now both groups have used it.
        have hcount := List.count_pos_iff.mpr hmem
        have hside := walk_side hmem
        have hold := hold hmem
        refine iff_of_true ?_ ⟨List.mem_cons_self, Or.inr (by omega)⟩
        by_cases hother : other = mode
        · exact Or.inr ⟨hother, rfl⟩
        · refine Or.inl ⟨hmem, hold.imp_left fun hne => ?_⟩
          cases other <;> cases mode <;> simp_all [DiagnosisMode.side]
      · have hnone : earlier.count p = 0 := List.count_eq_zero_of_not_mem hmem
        rw [hnew hmem, hnone]
        cases other <;> cases mode <;> simp [hmem, DiagnosisMode.side]
    · have hcount : (q :: earlier).count p = earlier.count p :=
        List.count_cons_of_ne (Ne.symm hp)
      rw [hcount]
      by_cases hmem : p ∈ earlier
      · rw [walk_first hmem]
        simp [hp, hmem]
      · simp [hp, hmem]

/-- While both groups have room, a candidate goes to the group whose side the walk
steps to. -/
theorem Follows.step (h : Follows earlier picks) (hmanual : picks.manualPicked.length < t)
    (hassisted : picks.assistedPicked.length < t) (q : ℕ) :
    ∃ mode, picks.chooseGroup t q = some mode ∧
      ∀ sc : ScoredCandidate, sc.candidate.queryCaseId = q →
        Follows (q :: earlier) (picks.assign sc mode) := by
  have hstands := h.stands
  have husedManual := h.used .manual q
  have husedAssisted := h.used .assisted q
  simp only [BucketPicks.used, DiagnosisMode.side] at husedManual husedAssisted
  rcases count_cases q earlier with hnew | ⟨hmem, hsecond⟩ | ⟨hmem, hlater⟩
  · -- A new query case goes to the smaller group, to the manual one on a tie.
    have hwalk := walk_new hnew
    have hchoice : picks.chooseGroup t q =
        some (if 0 < (walk earlier).1 then .assisted else .manual) := by
      have hmneeds : 0 < (t : ℤ) - picks.manualPicked.length := by omega
      have haneeds : 0 < (t : ℤ) - picks.assistedPicked.length := by omega
      simp only [BucketPicks.chooseGroup, hmneeds, haneeds, husedManual, husedAssisted, hnew,
        false_and, not_false_eq_true, decide_true, Bool.and_self, if_true]
      split_ifs <;> first | rfl | omega
    rw [hchoice]
    split_ifs at hwalk ⊢ with hahead
    · refine ⟨.assisted, rfl, fun sc hq => h.assign sc _ hq ?_ (fun _ => ?_) (absurd · hnew)⟩
      · rw [hwalk]
        rfl
      · rw [hwalk]
        exact Function.update_self ..
    · refine ⟨.manual, rfl, fun sc hq => h.assign sc _ hq ?_ (fun _ => ?_) (absurd · hnew)⟩
      · rw [hwalk]
        rfl
      · rw [hwalk]
        exact Function.update_self ..
  · -- The second occurrence goes to the other group than the first.
    have hnotLater : ¬2 ≤ earlier.count q := by omega
    have hwalk := walk_second hsecond
    rcases walk_side hmem with hside | hside
    · refine ⟨.assisted, ?_, fun sc hq => h.assign sc _ hq ?_ (absurd hmem) ?_⟩
      · simp [BucketPicks.chooseGroup, hassisted, husedManual, husedAssisted, hmem, hside,
          hnotLater]
      · rw [hwalk, hside]
        rfl
      · exact fun _ => Or.inl (by rw [hside]; decide)
    · refine ⟨.manual, ?_, fun sc hq => h.assign sc _ hq ?_ (absurd hmem) ?_⟩
      · simp [BucketPicks.chooseGroup, hmanual, husedManual, husedAssisted, hmem, hside,
          hnotLater]
      · rw [hwalk, hside]
        rfl
      · exact fun _ => Or.inl (by rw [hside]; decide)
  · -- A later occurrence goes to the manual group.
    have hwalk := walk_later hlater
    refine ⟨.manual, ?_, fun sc hq => h.assign sc _ hq ?_ (absurd hmem) ?_⟩
    · simp [BucketPicks.chooseGroup, hmanual, husedManual, husedAssisted, hmem, hlater]
    · rw [hwalk]
      rfl
    · exact fun _ => Or.inr hlater

/-- Nobody leaves a group. -/
theorem pickFromPool_grows (t : ℤ) (pool : List ScoredCandidate) (picks : BucketPicks) :
    picks.manualPicked <+: (pickFromPool t picks pool).manualPicked ∧
      picks.assistedPicked <+: (pickFromPool t picks pool).assistedPicked := by
  induction pool generalizing picks with
  | nil => exact ⟨List.prefix_rfl, List.prefix_rfl⟩
  | cons sc pool ih =>
      rw [pickFromPool]
      split_ifs with hassigned hfull
      · exact ih picks
      · exact ⟨List.prefix_rfl, List.prefix_rfl⟩
      · cases picks.chooseGroup t sc.candidate.queryCaseId with
        | none => exact ih picks
        | some mode =>
            obtain ⟨hmanual, hassisted⟩ := ih (picks.assign sc mode)
            cases mode with
            | manual => exact ⟨(List.prefix_append _ _).trans hmanual, hassisted⟩
            | assisted => exact ⟨hmanual, (List.prefix_append _ _).trans hassisted⟩

/-- The groups differ by one at most. -/
def BucketPicks.Even (picks : BucketPicks) : Prop :=
  |(picks.manualPicked.length : ℤ) - picks.assistedPicked.length| ≤ 1

/-- A pool too small for both groups leaves them where the walk ends. -/
theorem pickFromPool_even_iff (h : Follows earlier picks) (hwithin : picks.Within t)
    (hruns : (pool.map fun sc => sc.candidate.runId).Nodup)
    (hfree : ∀ sc ∈ pool, sc.candidate.runId ∉ picks.assignedRunIds)
    (hsmall : earlier.length + pool.length + 2 ≤ 2 * t) :
    (pickFromPool t picks pool).Even ↔
      |(walk ((pool.map fun sc => sc.candidate.queryCaseId).reverse ++ earlier)).1| ≤ 1 := by
  induction pool generalizing earlier picks with
  | nil =>
      rw [List.map_nil, List.reverse_nil, List.nil_append, pickFromPool, BucketPicks.Even,
        h.stands]
  | cons sc pool ih =>
      by_cases hroom : picks.manualPicked.length < t ∧ picks.assistedPicked.length < t
      · obtain ⟨mode, hmode, hfollows⟩ := h.step hroom.1 hroom.2 sc.candidate.queryCaseId
        have hopen : picks.picked.length < 2 * t := by
          rw [BucketPicks.picked, List.length_append]
          omega
        obtain ⟨mode', hmode', hnext, hstep⟩ := pickFromPool_cons hwithin hopen
          (hfree sc List.mem_cons_self) pool
        obtain rfl : mode = mode' := Option.some_inj.mp (hmode.symm.trans hmode')
        have hsmall' : (sc.candidate.queryCaseId :: earlier).length + pool.length + 2 ≤ 2 * t := by
          simp only [List.length_cons] at hsmall ⊢
          omega
        rw [hstep, ih (hfollows sc rfl) hnext (List.nodup_cons.mp hruns).2
          (free_assign mode hruns hfree) hsmall', List.map_cons, List.reverse_cons,
          List.append_assoc, List.singleton_append]
      · -- A group is full before half the places are: the other one gets all the rest.
        obtain ⟨hwithin', hperm⟩ := pickFromPool_perm hwithin hruns hfree
        obtain ⟨hmanual, hassisted⟩ := pickFromPool_grows t (sc :: pool) picks
        have hmanual := hmanual.length_le
        have hassisted := hassisted.length_le
        have hcount := hperm.length_eq
        rw [BucketPicks.picked, List.length_append, List.length_append, List.length_take,
          h.total] at hcount
        have hstands := h.stands
        have htotal := h.total
        rw [BucketPicks.picked, List.length_append] at htotal
        obtain ⟨hfull, hfull'⟩ := hwithin
        obtain ⟨hend, hend'⟩ := hwithin'
        have hbound := walk_append_bound
          ((sc :: pool).map fun sc => sc.candidate.queryCaseId).reverse earlier
        rw [List.length_reverse, List.length_map] at hbound
        rw [BucketPicks.Even, abs_le, abs_le]
        constructor
        · intro heven
          omega
        · intro heven
          omega

end Following

/-- The numbers of manual and assisted slots of a bucket differ by one at most. -/
def Balanced (bucket : Bucket) (plan : ExperimentPlan) : Prop :=
  |((slotsOf bucket plan.manualSlots).length : ℤ) -
    (slotsOf bucket plan.assistedSlots).length| ≤ 1

/-- **When the groups of a bucket are balanced**: when the pool lacks one candidate at
most, or the walk over its query cases ends within one step of where it began. -/
theorem plan_is_balanced_iff (scored : List ScoredCandidate) (targets : Bucket → ℤ)
    (bucket : Bucket) (hruns : (scored.map fun sc => sc.candidate.runId).Nodup) :
    Balanced bucket (buildExperimentPlan scored targets) ↔
      2 * targets bucket - 1 ≤ (bucketPool scored bucket).length ∨
        |lean ((bucketPool scored bucket).map fun sc => sc.candidate.queryCaseId)| ≤ 1 := by
  have hpicks : Balanced bucket (buildExperimentPlan scored targets) ↔
      (bucketPicks scored targets bucket).Even := by
    rw [Balanced, slotsOf_manualSlots, slotsOf_assistedSlots, List.length_map, List.length_map]
    rfl
  rw [hpicks]
  have hpool : ((bucketPool scored bucket).map fun sc => sc.candidate.runId).Nodup :=
    (List.filter_sublist.map _).nodup hruns
  rcases lt_or_ge (targets bucket) 0 with hnegative | htarget
  · rw [bucketPicks_of_nonpos hnegative.le]
    refine iff_of_true ?_ (Or.inl (by omega))
    rw [BucketPicks.Even]
    decide
  · obtain ⟨t, ht⟩ := Int.eq_ofNat_of_zero_le htarget
    by_cases henough : 2 * targets bucket - 1 ≤ (bucketPool scored bucket).length
    · -- All the places but one at most are taken.
      refine iff_of_true ?_ (Or.inl henough)
      obtain ⟨⟨hmanual, hassisted⟩, hperm⟩ := bucketPicks_perm hruns htarget
      have hcount := hperm.length_eq
      rw [BucketPicks.picked, List.length_append, List.length_take] at hcount
      rw [BucketPicks.Even, abs_le]
      omega
    · rw [or_iff_right henough, bucketPicks, ht, lean]
      have hloop := pickFromPool_even_iff (t := t) follows_empty (BucketPicks.within_empty t)
        hpool (fun _ _ => List.not_mem_nil) (by simp only [List.length_nil]; omega)
      rwa [List.append_nil] at hloop

/-- Two runs of different query cases. -/
theorem plan_is_balanced_two_easy_runs :
    Balanced .easyControl
      (buildExperimentPlan [easyCandidate 2 1, easyCandidate 1 2] groupTargets) :=
  (plan_is_balanced_iff _ _ .easyControl (by decide)).mpr (Or.inl (by decide))

/-- Four runs of one query case, with room for three in each group: three of them
become manual. -/
theorem plan_is_not_balanced :
    ¬∀ (scored : List ScoredCandidate) (targets : Bucket → ℤ) (bucket : Bucket),
      (scored.map fun sc => sc.candidate.runId).Nodup →
        Balanced bucket (buildExperimentPlan scored targets) := by
  intro h
  have heven := h [easyCandidate 4 1, easyCandidate 3 1, easyCandidate 2 1, easyCandidate 1 1]
    (fun _ => 3) .easyControl (by decide)
  rw [Balanced, slotsOf_manualSlots, slotsOf_assistedSlots, List.length_map,
    List.length_map] at heven
  revert heven
  decide

end ContextLens
