import ContextLens.Database
import ContextLens.Foundations.PythonJson

/-!
# The judge reduction on the dashboard

`build_llm_reduction_evidence` of `app/services/dashboard_evidence.py`: how many judge
calls the hybrid arm of a matched workload needed, compared with the arm that always calls
the judge.

The numbers come from a counter in `trace_instrumentation_json` and from two members of the
metadata; the rows of the evaluation are joined but not read.  `mem_llmReductionWorkloads`
says what a row is computed from.
-/

namespace ContextLens

open Foundations

/-! ## What a run contributes -/

/-- `matched_llm_reduction_arm`. -/
inductive ReductionArm
  | llmOnly
  | hybrid
  deriving DecidableEq, Repr

/-- The arm with a name. -/
def reductionArm (name : String) : Option ReductionArm :=
  if name = "llm_only" then some .llmOnly
  else if name = "hybrid" then some .hybrid
  else none

/-- The workload and the arm of a run; `none` where the loop over the rows goes on. -/
def matchedWorkload (metadata : Option JsonObject) : Option (String × ReductionArm) :=
  match (metadata.getD []).get "matched_llm_reduction_workload_id",
    (metadata.getD []).get "matched_llm_reduction_arm" with
  | some (.str workload), some (.str arm) =>
      if Python.strip workload = "" then none
      else (reductionArm arm).map fun arm => (Python.strip workload, arm)
  | _, _ => none

/-- `int(v)` of a decoded JSON value; `none` for a `TypeError` or a `ValueError`. -/
def intOfJson : Json → Option ℤ
  | .num mantissa scale => some (mantissa.tdiv (10 ^ scale))
  | .bool value => some (if value then 1 else 0)
  | .str value => Python.intOfText value
  | .null | .arr _ | .obj _ => none

/-- `_arm_judge_used`. -/
def armJudgeUsed (instr : Option JsonObject) : Option ℤ :=
  ((instr.getD []).get "llm_judge_calls_used_for_final_judgment").bind intOfJson

/-- A run that is counted for a workload. -/
structure CountedRun where
  run : StoredRun
  datasetId : ℕ
  workload : String
  arm : ReductionArm
  used : ℤ

/-- The body of the loop, up to the appends. -/
def countedRun (row : StoredRun × ℕ) : Option CountedRun := do
  let (workload, arm) ← matchedWorkload row.1.run.metadataJson
  let used ← armJudgeUsed row.1.run.traceInstrumentationJson
  return {
    run := row.1
    datasetId := row.2
    workload := workload
    arm := arm
    used := used }

/-! ## The workloads -/

/-- `buckets[wkey]`: the counters of the two arms. -/
structure JudgeCallsByArm where
  llmOnly : List ℤ
  hybrid : List ℤ

namespace JudgeCallsByArm

/-- `arms.get(arm) or []`. -/
def of (calls : JudgeCallsByArm) : ReductionArm → List ℤ
  | .llmOnly => calls.llmOnly
  | .hybrid => calls.hybrid

/-- `buckets[wkey][str(arm)].append(used)`. -/
def append (calls : JudgeCallsByArm) (counted : CountedRun) : JudgeCallsByArm :=
  match counted.arm with
  | .llmOnly => { calls with llmOnly := calls.llmOnly ++ [counted.used] }
  | .hybrid => { calls with hybrid := calls.hybrid ++ [counted.used] }

end JudgeCallsByArm

/-- `DashboardLlmReductionWorkloadRow`. -/
structure DashboardLlmReductionWorkloadRow where
  matchedWorkloadId : String
  datasetId : Option ℕ
  llmOnlyRuns : ℕ
  hybridRuns : ℕ
  avgLlmJudgeCallsLlmOnly : ℚ
  avgLlmJudgeCallsHybrid : ℚ
  llmJudgeReductionPct : ℚ

/-- The row as it is reported. -/
def DashboardLlmReductionWorkloadRow.rounded (row : DashboardLlmReductionWorkloadRow) :
    DashboardLlmReductionWorkloadRow :=
  { row with
    avgLlmJudgeCallsLlmOnly := Python.roundTo 4 row.avgLlmJudgeCallsLlmOnly
    avgLlmJudgeCallsHybrid := Python.roundTo 4 row.avgLlmJudgeCallsHybrid
    llmJudgeReductionPct := Python.roundTo 4 row.llmJudgeReductionPct }

/-- The row of a workload before it is rounded; `none` where the loop goes on. -/
def workloadRow (workloadDataset : Python.Dict ℕ) (bucket : String × JudgeCallsByArm) :
    Option DashboardLlmReductionWorkloadRow :=
  let lo := bucket.2.of .llmOnly
  let hy := bucket.2.of .hybrid
  if lo = [] ∨ hy = [] then none
  else if Python.mean lo ≤ 0 then none
  else some
    { matchedWorkloadId := bucket.1
      datasetId := workloadDataset.get bucket.1
      llmOnlyRuns := lo.length
      hybridRuns := hy.length
      avgLlmJudgeCallsLlmOnly := Python.mean lo
      avgLlmJudgeCallsHybrid := Python.mean hy
      llmJudgeReductionPct := (Python.mean lo - Python.mean hy) / Python.mean lo * 100 }

/-- `evidence_tier`. -/
inductive ReductionTier
  | sparse
  | directional
  | normal
  deriving DecidableEq, Repr

/-- `_llm_reduction_tier`. -/
def llmReductionTier (pairs : ℕ) : ReductionTier × String :=
  if pairs < 3 then (.sparse, "Fewer than 3 matched workload arms — not meaningful.")
  else if pairs < 10 then
    (.directional, "Between 3 and 9 matched runs per arm — directional only.")
  else (.normal, "")

/-- `DashboardLlmReductionEvidence`. -/
structure DashboardLlmReductionEvidence where
  matchedWorkloads : List DashboardLlmReductionWorkloadRow
  workloadCount : ℕ
  medianLlmJudgeReductionPctAcrossWorkloads : Option ℚ
  evidenceTier : ReductionTier
  evidenceTierNote : String
  validityNote : String

namespace Database

variable (db : Database) (datasetId : Option ℕ)

/-- The select: runs in scope that are traced, with their query case, their evaluation row
and their generation row. -/
def llmReductionSelect : List (StoredRun × ℕ) :=
  ((Sql.join (fun x => x.1.1.run.generationResults)
    (Sql.join (fun x => x.1.evaluations) (Sql.join db.queryCaseOf db.runs))).filter fun x =>
      db.dashboardAggregateRunScope datasetId x.1.1.1 &&
        x.1.1.1.run.traceInstrumentationJson.isSome).map fun x =>
          (x.1.1.1, x.1.1.2.datasetId)

/-- The counted runs, in the order of the select. -/
def countedRuns : List CountedRun := (db.llmReductionSelect datasetId).filterMap countedRun

/-- `buckets`. -/
def llmReductionBuckets : Python.Dict JudgeCallsByArm :=
  (db.countedRuns datasetId).foldl
    (Python.Dict.accumulate { llmOnly := [], hybrid := [] } CountedRun.workload
      JudgeCallsByArm.append) []

/-- `workload_dataset`: the last dataset that was met. -/
def workloadDataset : Python.Dict ℕ :=
  (db.countedRuns datasetId).foldl
    (fun found counted => found.set counted.workload counted.datasetId) []

/-- The rows of the workloads before they are rounded. -/
def llmReductionWorkloads : List DashboardLlmReductionWorkloadRow :=
  (db.llmReductionBuckets datasetId).filterMap (workloadRow (db.workloadDataset datasetId))

/-- `build_llm_reduction_evidence`. -/
def buildLlmReductionEvidence : DashboardLlmReductionEvidence :=
  let workloads := db.llmReductionWorkloads datasetId
  let totalLo := (workloads.map fun w => w.llmOnlyRuns).sum
  let totalHy := (workloads.map fun w => w.hybridRuns).sum
  let tier := llmReductionTier (if workloads = [] then 0 else min totalLo totalHy)
  { matchedWorkloads := workloads.map fun w => w.rounded
    workloadCount := workloads.length
    medianLlmJudgeReductionPctAcrossWorkloads :=
      Python.median (workloads.map fun w => w.llmJudgeReductionPct)
    evidenceTier := tier.1
    evidenceTierNote := tier.2
    validityNote := "Reductions apply only to runs tagged with " ++
      "matched_llm_reduction_workload_id and matched_llm_reduction_arm in " ++
      "\x7bllm_only, hybrid\x7d, with generation + evaluation and " ++
      "trace_instrumentation_json present." }

/-- The counted runs of one arm of a workload. -/
def countedRunsOf (workload : String) (arm : ReductionArm) : List CountedRun :=
  (db.countedRuns datasetId).filter fun counted =>
    counted.workload = workload && counted.arm = arm

end Database

/-! ## What a row is computed from -/

theorem of_foldl_append (runs : List CountedRun) (calls : JudgeCallsByArm) (arm : ReductionArm) :
    (runs.foldl JudgeCallsByArm.append calls).of arm =
      calls.of arm ++ (runs.filter fun counted => counted.arm = arm).map CountedRun.used := by
  induction runs generalizing calls with
  | nil => simp
  | cons counted runs ih =>
      have hone : (calls.append counted).of arm =
          calls.of arm ++ if counted.arm = arm then [counted.used] else [] := by
        rw [JudgeCallsByArm.append]
        cases counted.arm <;> cases arm <;> simp [JudgeCallsByArm.of]
      rw [List.foldl_cons, ih, hone, List.filter_cons]
      by_cases h : counted.arm = arm <;> simp [h]

/-- What the loop reads of a run that it counts. -/
theorem countedRun_eq_some {row : StoredRun × ℕ} {counted : CountedRun}
    (h : countedRun row = some counted) :
    counted.run = row.1 ∧
      matchedWorkload row.1.run.metadataJson = some (counted.workload, counted.arm) ∧
      armJudgeUsed row.1.run.traceInstrumentationJson = some counted.used := by
  simp only [countedRun, Option.bind_eq_bind, Option.bind_eq_some_iff] at h
  obtain ⟨⟨workload, arm⟩, hworkload, used, hused, h⟩ := h
  obtain rfl := Option.some.inj h
  exact ⟨rfl, hworkload, hused⟩

section

variable {db : Database} {datasetId : Option ℕ}

/-- A run that is counted belongs to the database, and its metadata and its counter are
what the loop has read. -/
theorem mem_countedRuns {counted : CountedRun} (h : counted ∈ db.countedRuns datasetId) :
    counted.run ∈ db.runs ∧
      matchedWorkload counted.run.run.metadataJson = some (counted.workload, counted.arm) ∧
      armJudgeUsed counted.run.run.traceInstrumentationJson = some counted.used := by
  obtain ⟨row, hrow, hcounted⟩ := List.mem_filterMap.mp h
  obtain ⟨x, hx, rfl⟩ := List.mem_map.mp hrow
  have hgeneration := Sql.mem_join.mp (List.mem_of_mem_filter hx)
  have hevaluation := Sql.mem_join.mp hgeneration.1
  have hrun := (Sql.mem_join.mp hevaluation.1).1
  obtain ⟨hsame, hread⟩ := countedRun_eq_some hcounted
  rw [hsame]
  exact ⟨hrun, hread⟩

/-- **What a row is computed from**: the counters of the runs of its two arms. -/
theorem mem_llmReductionWorkloads {row : DashboardLlmReductionWorkloadRow}
    (h : row ∈ db.llmReductionWorkloads datasetId) :
    ∃ lo hy, lo = (db.countedRunsOf datasetId row.matchedWorkloadId .llmOnly).map
        CountedRun.used ∧
      hy = (db.countedRunsOf datasetId row.matchedWorkloadId .hybrid).map CountedRun.used ∧
      lo ≠ [] ∧ hy ≠ [] ∧ row.llmJudgeReductionPct =
        (Python.mean lo - Python.mean hy) / Python.mean lo * 100 := by
  obtain ⟨⟨workload, calls⟩, hbucket, hrow⟩ := List.mem_filterMap.mp h
  have hcalls := Python.Dict.eq_of_mem_foldl_accumulate hbucket
  have harm : ∀ arm, calls.of arm =
      (db.countedRunsOf datasetId workload arm).map CountedRun.used := by
    intro arm
    rw [hcalls, of_foldl_append, List.filter_filter, Database.countedRunsOf]
    cases arm <;> simp [JudgeCallsByArm.of, Bool.and_comm]
  simp only [workloadRow] at hrow
  split_ifs at hrow with hempty hzero
  obtain rfl := Option.some.inj hrow
  rw [not_or] at hempty
  exact ⟨_, _, harm .llmOnly, harm .hybrid, hempty.1, hempty.2, rfl⟩

end

end ContextLens
