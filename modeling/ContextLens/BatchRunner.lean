import ContextLens.BenchmarkRealism
import ContextLens.Database
import ContextLens.HeuristicRuns

/-!
# The batch runner

`app/services/batch_runner.py`.  A batch walks over datasets, query cases,
configs and repetitions; every cell creates one run and executes it.

Heuristic cells share the session of the caller.  What a cell has flushed and
not committed stays in the open transaction when the cell raises, for nothing
rolls it back: the rows stay locked, a later commit commits it, and once a
statement has failed the session refuses everything that follows.  A cell that
raises is handled in a session of its own, which looks for the newest committed
run of the query case and the config and marks that one failed.

LLM cells have their own sessions and run the full pipeline in process; what
that raises is counted and nothing is marked.

### What an exception does to the shared session

The outcome of a batch hangs on this, so `CellFault` has one case for each way.

* `program`: code outside the database raised.  The transaction is open, its
  locks are held, the session goes on.
* `statement`: a statement failed.  The transaction is open, its locks are held,
  and every further statement is refused.
* `flush`: a flush failed.  The session has rolled back, and with the rollback it
  has *expired every object it holds* (`expire_on_commit=False` is about commits).
  The handler's first line logs `qc.id`; `qc` is such an object, so reading the
  attribute is a query on a session that refuses queries.  The exception leaves
  the handler before `failures += 1`, and the batch with it.
* `commit`: the `COMMIT` itself failed.  The server has rolled back, the session
  refuses further statements, and nothing is expired: the handler runs.

A session that refuses statements stays so.  The cells after it fail at their
first query, the one for the config: the session's hold on that object is weak
and the cell before has dropped it.  The query cases are held by the loop, so a
cell reads them without a query.

### The steps of other parties

A cell meets the world through a `CellScript`: where its own code raises and
what that does to the transaction, what the random generator yields, how the
pipeline is cut short.  Other parties commit at three moments of a cell: before
it, after it has created its run, and before its error is handled.  Between two
commits of its own a cell reads nothing that a further moment could change: it
looks at its own run, and at rows that the batch takes as fixed (the registry and
the corpus, `BatchEnv`).

### What is left out

The handler's own session is taken to reach the database; what it raises would be
logged and the run left as it is.  The log lines themselves, and the warning about
a dataset with too few query cases, change nothing.  The tables of traces are part
of `Run`; the registry is not written by a batch.
-/

namespace ContextLens

open Foundations

/-! ## The committed runs -/

/-- The committed rows of `runs` and the sequence that numbers them. -/
structure RunsTable where
  rows : List StoredRun
  nextId : ℕ
  fresh : ∀ row ∈ rows, row.run.id < nextId
  unique : (rows.map fun row => row.run.id).Nodup

namespace RunsTable

variable (table : RunsTable)

/-- The row with an id. -/
def find (id : ℕ) : Option StoredRun :=
  table.rows.find? fun row => row.run.id = id

/-- Take the next number of the sequence, committed or not. -/
def takeId : RunsTable where
  rows := table.rows
  nextId := table.nextId + 1
  fresh row hrow := Nat.lt_succ_of_lt (table.fresh row hrow)
  unique := table.unique

/-- Add a row under the next number. -/
def insert (row : StoredRun) (hrow : row.run.id = table.nextId) : RunsTable where
  rows := table.rows ++ [row]
  nextId := table.nextId + 1
  fresh := by
    intro other hother
    rcases List.mem_append.mp hother with hother | hother
    · exact Nat.lt_succ_of_lt (table.fresh other hother)
    · rw [List.mem_singleton.mp hother, hrow]
      exact Nat.lt_succ_self _
  unique := by
    rw [List.map_append, List.nodup_append]
    refine ⟨table.unique, by simp, ?_⟩
    intro id hid id' hid'
    obtain ⟨other, hother, rfl⟩ := List.mem_map.mp hid
    have hlt := table.fresh other hother
    rw [List.map_singleton, List.mem_singleton, hrow] at hid'
    omega

/-- Write a run over the row with its id. -/
def putRun (run : Run) : RunsTable where
  rows := table.rows.map fun row => if row.run.id = run.id then { row with run := run } else row
  nextId := table.nextId
  fresh := by
    intro row hrow
    obtain ⟨old, hold, rfl⟩ := List.mem_map.mp hrow
    have hlt := table.fresh old hold
    split_ifs with h
    · exact h ▸ hlt
    · exact hlt
  unique := by
    have hids : (table.rows.map fun row =>
        if row.run.id = run.id then { row with run := run } else row).map
          (fun row => row.run.id) = table.rows.map fun row => row.run.id := by
      rw [List.map_map]
      refine List.map_congr_left fun row _ => ?_
      by_cases h : row.run.id = run.id <;> simp [h]
    rw [hids]
    exact table.unique

/-- `ORDER BY runs.id DESC LIMIT 1` over the runs of a query case and a config. -/
def newestOf (queryCaseId pipelineConfigId : ℕ) : Option ℕ :=
  ((table.rows.filter fun row =>
    row.queryCaseId = queryCaseId && row.pipelineConfigId = pipelineConfigId).map
      fun row => row.run.id).max?

end RunsTable

/-- A run is completed or failed. -/
def StoredRun.IsTerminal (row : StoredRun) : Prop :=
  row.run.status = .completed ∨ row.run.status = .failed

/-- A row as `tp.create_run` adds it. -/
def newRun (id queryCaseId pipelineConfigId now : ℕ) (metadata : Option JsonObject) :
    StoredRun where
  run := createRun id .running metadata
  queryCaseId := queryCaseId
  pipelineConfigId := pipelineConfigId
  createdAt := now

/-! ## Arguments -/

inductive BatchEvaluator
  | heuristic
  | llm
  | llmHybrid
  deriving DecidableEq, Repr

/-- The name a batch stores in `batch_evaluator_type`. -/
def BatchEvaluator.name : BatchEvaluator → String
  | heuristic => "heuristic"
  | llm => "llm"
  | llmHybrid => "llm_hybrid"

/-- `evaluator_type.strip().lower()`, when it is one of the three. -/
def batchEvaluator (evaluatorType : String) : Option BatchEvaluator :=
  [.heuristic, .llm, .llmHybrid].find? fun et =>
    Python.lower (Python.strip evaluatorType) = et.name

/-- The arguments of `run_batch_benchmark`. -/
structure BatchArgs where
  datasetIds : List ℕ
  configIds : List ℕ
  queriesPerDataset : ℤ
  runsPerQuery : ℤ
  evaluatorType : String
  documentId : Option ℕ
  experimentName : Option String
  configGroupTag : Option String
  matchedLlmReductionWorkloadId : Option String
  realismProfile : Option BenchmarkRealismProfile
  commit : Bool

/-- One cell of the grid. -/
structure BatchCell where
  datasetId : ℕ
  queryCaseId : ℕ
  pipelineConfigId : ℕ
  repetition : ℕ

/-- What a batch reads besides the runs.  `shuffled` is `random.shuffle` with the
seed of a dataset, or nothing at all without a seed. -/
structure BatchEnv where
  deps : PipelineEnv
  registry : Registry
  queryCases : List QueryCase
  shuffled : ℕ → List ℕ → List ℕ
  batchId : String

/-- A member that is added for a text that is neither missing nor empty. -/
def textMember (key : String) : Option String → JsonObject
  | some text => if text = "" then [] else [(key, .str text)]
  | none => []

/-- `meta` of a cell. -/
def batchRunMetadata (env : BatchEnv) (args : BatchArgs) (et : BatchEvaluator)
    (cell : BatchCell) : JsonObject :=
  [("batch_id", .str env.batchId),
   ("batch_dataset_id", .num cell.datasetId 0),
   ("batch_query_case_id", .num cell.queryCaseId 0),
   ("batch_pipeline_config_id", .num cell.pipelineConfigId 0),
   ("batch_repetition", .num cell.repetition 0),
   ("batch_evaluator_type", .str et.name)] ++
  textMember "experiment_name" args.experimentName ++
  textMember "config_group_tag" args.configGroupTag ++
  match et, args.matchedLlmReductionWorkloadId with
  | .heuristic, _ | _, none => []
  | et, some workload =>
      if workload = "" then []
      else [("matched_llm_reduction_workload_id", .str (Python.strip workload)),
        ("matched_llm_reduction_arm",
          .str (if et = .llmHybrid then "hybrid" else "llm_only"))]

/-- The metadata of a heuristic run of a batch. -/
def heuristicCellMetadata (profile : Option BenchmarkRealismProfile) (metadata : JsonObject) :
    JsonObject :=
  match profile with
  | none => metadata
  | some profile =>
      JsonObject.set "benchmark_realism" (.bool true) (metadata.update profile.extraMetadata)

/-- The metadata of a full run of a batch. -/
def llmCellMetadata (hybrid : Bool) (metadata : JsonObject) : JsonObject :=
  JsonObject.set "evaluator_execution_mode" (.str (if hybrid then "hybrid" else "llm_only"))
    metadata

/-! ## What happens to a cell -/

/-- Where the code of a cell raises: before the run is created, before its rows and
status are flushed, or after. -/
inductive CellPoint
  | inCreation
  | inRetrieval
  | inEvaluation
  deriving DecidableEq, Repr

/-- What raised, by what it does to the shared session: nothing; the transaction stays
open with its locks and refuses everything else; a flush has rolled it back and
expired what the session holds; a `COMMIT` has failed and rolled it back. -/
inductive CellFault
  | program
  | statement
  | flush
  | commit
  deriving DecidableEq, Repr

/-- The circumstances of one cell. -/
structure CellScript where
  now : ℕ
  fault : Option (CellPoint × CellFault)
  draws : RealismDraws
  retrievalMs : ℕ
  evaluationMs : ℕ
  pipelineAbort : Option (AbortPoint × PyException)
  pipelineMs : Phase → ℕ
  pipelineMarks : Bool
  finalReadFails : Bool

/-- The fault that the script holds for a point. -/
def CellScript.faultAt (script : CellScript) (point : CellPoint) : Option CellFault :=
  match script.fault with
  | some (at', fault) => if at' = point then some fault else none
  | none => none

/-- The invocation of the full pipeline in an LLM cell. -/
def CellScript.attempt (script : CellScript) : Attempt where
  abort := script.pipelineAbort.map fun cut => (cut.1, .raised cut.2)
  elapsedMs := script.pipelineMs
  marks := script.pipelineMarks

/-- What another party commits. -/
inductive OtherMove
  | createRun (queryCaseId pipelineConfigId now : ℕ) (metadata : Option JsonObject)
  | putRun (run : Run)

/-- What other parties commit during a cell. -/
structure Interference where
  before : List OtherMove
  during : List OtherMove
  late : List OtherMove

/-- A batch that is alone. -/
def Interference.none : Interference := { before := [], during := [], late := [] }

def OtherMove.apply (table : RunsTable) : OtherMove → RunsTable
  | createRun queryCaseId pipelineConfigId now metadata =>
      table.insert (newRun table.nextId queryCaseId pipelineConfigId now metadata) rfl
  | putRun run => table.putRun run

/-! ## The state of a batch -/

/-- The session the heuristic cells share: what its open transaction has flushed, by
run id, whether it still takes statements, and whether its objects are expired. -/
structure BatchSession where
  flushed : List (ℕ × PendingChanges)
  usable : Bool
  expired : Bool

/-- Why a batch does not go on: an exception left it, or its handler waits for a row
that its own open transaction has locked. -/
inductive BatchStop
  | raised (error : RunCreateError)
  | waiting (runId : ℕ)
  deriving DecidableEq, Repr

/-- `statusWrites` lists the statuses the batch has committed, by run id. -/
structure BatchState where
  table : RunsTable
  session : BatchSession
  created : List ℕ
  statusWrites : List (ℕ × RunStatus)
  total : ℕ
  successes : ℕ
  failures : ℕ
  stop : Option BatchStop

namespace BatchState

variable (s : BatchState)

/-- What other parties have committed. -/
def others (moves : List OtherMove) : BatchState :=
  { s with table := moves.foldl OtherMove.apply s.table }

/-- The transaction after an exception. -/
def afterFault : CellFault → BatchState
  | .program => s
  | .statement => { s with session := { s.session with usable := false } }
  | .flush => { s with session := { flushed := [], usable := false, expired := true } }
  | .commit => { s with session := { s.session with flushed := [], usable := false } }

/-- Write a run and note its status. -/
def putRun (run : Run) : BatchState :=
  { s with
    table := s.table.putRun run
    statusWrites := s.statusWrites ++ [(run.id, run.status)] }

/-- Commit the changes of one run. -/
def commitChange (change : ℕ × PendingChanges) : BatchState :=
  match s.table.find change.1 with
  | some row => s.putRun (row.run.apply change.2)
  | none => s

/-- `session.commit()` of the shared session. -/
def commitFlushed : BatchState :=
  let s' := s.session.flushed.foldl commitChange s
  { s' with session := { s.session with flushed := [] } }

/-- A committed row for a cell, under the next number. -/
def addRun (cell : BatchCell) (now : ℕ) (metadata : JsonObject) : BatchState :=
  { s with
    table := s.table.insert
      (newRun s.table.nextId cell.queryCaseId cell.pipelineConfigId now (some metadata)) rfl
    created := s.created ++ [s.table.nextId] }

/-- `tp.create_run`, with the commit that follows when the batch commits; a batch that
does not commit takes a number and leaves the rest to its caller. -/
def createRun (commit : Bool) (cell : BatchCell) (now : ℕ) (metadata : JsonObject) :
    BatchState :=
  if commit then s.commitFlushed.addRun cell now metadata
  else { s with table := s.table.takeId, created := s.created ++ [s.table.nextId] }

/-- A flush in the open transaction. -/
def flush (runId : ℕ) (changes : PendingChanges) : BatchState :=
  { s with session := { s.session with flushed := s.session.flushed ++ [(runId, changes)] } }

/-- `_mark_run_failed` and its commit, in a session of its own: it waits when the open
transaction has updated the row. -/
def markRunFailed (runId : ℕ) : BatchState :=
  match s.table.find runId with
  | none => s
  | some row =>
      if row.run.status = .completed ∨ row.run.status = .failed then s
      else if runId ∈ s.session.flushed.map Prod.fst then { s with stop := some (.waiting runId) }
      else s.putRun (row.run.apply { status := some .failed })

end BatchState

section

variable (env : BatchEnv) (args : BatchArgs)

/-! ## One heuristic cell -/

/-- The request that a cell validates. -/
def BatchCell.request (cell : BatchCell) : RunCreateRequest where
  queryCaseId := cell.queryCaseId
  pipelineConfigId := cell.pipelineConfigId
  documentId := args.documentId

/-- The hits a cell stores. -/
def cellHits (found : QueryCaseTexts × ℕ) (script : CellScript) : List PipelineEnv.Hit :=
  let hits := (env.deps.forRun found).searchChunks args.documentId
  match args.realismProfile with
  | none => hits
  | some profile => perturbSearchChunkHits profile script.draws hits

/-- What a cell flushes before it evaluates. -/
def cellRetrieval (found : QueryCaseTexts × ℕ) (script : CellScript) : PendingChanges :=
  { retrievalResults := PipelineEnv.retrievalRows (cellHits env args found script)
    retrievalLatencyMs := some script.retrievalMs
    status := some .retrievalCompleted }

/-- What a cell flushes when it has evaluated its run: `loaded` is the object of the
session, `seen` the row its queries read. -/
def cellEvaluation (found : QueryCaseTexts × ℕ) (script : CellScript) (loaded seen : Run) :
    Except PyException PendingChanges :=
  let runEnv := env.deps.forRun found
  let scores := computeMinimalRetrievalEvaluation runEnv.queryText runEnv.expectedAnswer
    (runEnv.rankedRows seen)
  completeHeuristicRun loaded seen script.evaluationMs
    (match args.realismProfile with
      | none => scores
      | some profile => scores.withNoise profile script.draws)

/-- The part of a heuristic cell after its run was created: the state, and whether the
cell succeeds. -/
def executeCreatedCell (found : QueryCaseTexts × ℕ) (script : CellScript) (runId : ℕ)
    (metadata : JsonObject) (s : BatchState) : BatchState × Bool :=
  match script.faultAt .inRetrieval with
  | some fault => (s.afterFault fault, false)
  | none =>
      let retrieval := cellRetrieval env args found script
      let flushed := s.flush runId retrieval
      let created := createRun runId .running (some metadata)
      let committed := ((s.table.find runId).map StoredRun.run).getD created
      match script.faultAt .inEvaluation with
      | some fault => (flushed.afterFault fault, false)
      | none =>
          match cellEvaluation env args found script (created.apply retrieval)
              (committed.apply retrieval) with
          -- Refused by the program: the transaction is open and holds the row.
          | .error _ => (flushed, false)
          | .ok evaluation =>
              let evaluated := flushed.flush runId evaluation
              (if args.commit then evaluated.commitFlushed else evaluated, true)

/-- `_execute_heuristic_cell`. -/
def executeHeuristicCell (cell : BatchCell) (script : CellScript) (others : Interference)
    (s : BatchState) : BatchState × Bool :=
  if !s.session.usable then (s, false)
  else
    match validateRunCreatePrerequisites env.registry env.deps.settings (cell.request args)
        .heuristic with
    | .error _ => (s, false)
    | .ok found =>
        match script.faultAt .inCreation with
        | some fault => (s.afterFault fault, false)
        | none =>
            let metadata := heuristicCellMetadata args.realismProfile
              (batchRunMetadata env args .heuristic cell)
            executeCreatedCell env args found script s.table.nextId metadata
              ((s.createRun args.commit cell script.now metadata).others others.during)

/-- The handler of a heuristic cell that raised, behind its log line and its counter. -/
def handleCellError (cell : BatchCell) (s : BatchState) : BatchState :=
  match s.table.newestOf cell.queryCaseId cell.pipelineConfigId with
  | none => s
  | some runId => s.markRunFailed runId

/-! ## One LLM cell -/

/-- How an LLM cell ends: its verdict, or an exception. -/
inductive LlmCellEnd
  | verdict (completed : Bool)
  | raised
  | notConfigured (message : String)

/-- `_execute_llm_cell`. -/
def executeLlmCell (hybrid : Bool) (et : BatchEvaluator) (cell : BatchCell)
    (script : CellScript) (others : Interference) (s : BatchState) : BatchState × LlmCellEnd :=
  match validateRunCreatePrerequisites env.registry env.deps.settings (cell.request args)
      .full with
  | .error (.fullModeNotConfigured message) => (s, .notConfigured message)
  | .error _ => (s, .raised)
  | .ok found =>
      if (script.faultAt .inCreation).isSome then (s, .raised)
      else
        let metadata := llmCellMetadata hybrid (batchRunMetadata env args et cell)
        let result := runFullBenchmarkPipeline (env.deps.forRun found) script.attempt
          args.documentId (createRun s.table.nextId .running (some metadata))
        let created := s.addRun cell script.now metadata
        let s' := (created.others others.during).putRun result.run
        match result.outcome with
        | .raised _ | .killed => (s', .raised)
        | .finished | .markedFailed _ =>
            if script.finalReadFails then (s', .raised)
            else (s', .verdict (result.run.status = .completed))

/-! ## The batch -/

/-- A step of the nested loops. -/
inductive BatchStep
  | loadQueryCases (datasetId : ℕ)
  | cell (cell : BatchCell)

/-- A step, its circumstances, and what others do meanwhile. -/
structure BatchAction where
  step : BatchStep
  script : CellScript
  others : Interference

/-- `failures += 1` or `successes += 1`. -/
def BatchState.count (s : BatchState) (success : Bool) : BatchState :=
  if success then { s with successes := s.successes + 1 }
  else { s with failures := s.failures + 1 }

/-- What a session raises that needs a rollback. -/
def needsRollback : RunCreateError := .raised (.other "session needs a rollback")

/-- A heuristic cell with its handler, which reads `qc.id` of the shared session before it
counts. -/
def runHeuristicCell (cell : BatchCell) (script : CellScript) (others : Interference)
    (s : BatchState) : BatchState :=
  match executeHeuristicCell env args cell script others s with
  | (s', true) => s'.count true
  | (s', false) =>
      if s'.session.expired then { s' with stop := some (.raised needsRollback) }
      else handleCellError cell ((s'.count false).others others.late)

/-- An LLM cell with its handler. -/
def runLlmCell (et : BatchEvaluator) (cell : BatchCell) (script : CellScript)
    (others : Interference) (s : BatchState) : BatchState :=
  match executeLlmCell env args (et = .llmHybrid) et cell script others s with
  | (s', .verdict completed) => s'.count completed
  | (s', .raised) => s'.count false
  | (s', .notConfigured message) =>
      { s' with stop := some (.raised (.fullModeNotConfigured message)) }

/-- One step of the loops; nothing happens once the batch has stopped. -/
def runBatchStep (et : BatchEvaluator) (s : BatchState) (action : BatchAction) : BatchState :=
  if s.stop.isSome then s
  else
    let s := s.others action.others.before
    match action.step with
    | .loadQueryCases _ =>
        -- The query is not inside the `try` of a cell.
        if s.session.usable then s
        else { s with stop := some (.raised needsRollback) }
    | .cell cell =>
        let s := { s with total := s.total + 1 }
        match et with
        | .heuristic => runHeuristicCell env args cell action.script action.others s
        | et => runLlmCell env args et cell action.script action.others s

/-- `_load_ordered_query_cases`, shuffled and cut to the number asked for. -/
def batchQueryCases (datasetId : ℕ) : List ℕ :=
  let ids := ((env.queryCases.filter fun qc => qc.datasetId = datasetId).map
    QueryCase.id).insertionSort (· ≤ ·)
  (env.shuffled datasetId ids).take args.queriesPerDataset.toNat

/-- The cells of one dataset in loop order. -/
def datasetCells (datasetId : ℕ) : List BatchCell :=
  (batchQueryCases env args datasetId).flatMap fun queryCaseId =>
    args.configIds.flatMap fun pipelineConfigId =>
      (List.range args.runsPerQuery.toNat).map fun repetition =>
        { datasetId := datasetId
          queryCaseId := queryCaseId
          pipelineConfigId := pipelineConfigId
          repetition := repetition }

/-- The steps of a batch. -/
def batchSteps : List BatchStep :=
  args.datasetIds.flatMap fun datasetId =>
    .loadQueryCases datasetId :: (datasetCells env args datasetId).map .cell

/-- The steps with their circumstances. -/
def batchActions (scripts : ℕ → CellScript) (others : ℕ → Interference) : List BatchAction :=
  (batchSteps env args).mapIdx fun i step =>
    { step := step, script := scripts i, others := others i }

/-- A batch that begins over a table. -/
def startBatch (table : RunsTable) : BatchState where
  table := table
  session := { flushed := [], usable := true, expired := false }
  created := []
  statusWrites := []
  total := 0
  successes := 0
  failures := 0
  stop := none

/-- The checks of the arguments. -/
def validateBatchArgs : Except PyException BatchEvaluator :=
  match batchEvaluator args.evaluatorType with
  | none => .error (.valueError "evaluator_type must be 'heuristic', 'llm', or 'llm_hybrid'")
  | some et =>
      if args.queriesPerDataset < 1 ∨ args.runsPerQuery < 1 then
        .error (.valueError "queries_per_dataset and runs_per_query must be >= 1")
      else if args.datasetIds = [] ∨ args.configIds = [] then
        .error (.valueError "dataset_ids and config_ids must be non-empty")
      else .ok et

/-- `BatchBenchmarkResult`. -/
structure BatchBenchmarkResult where
  batchId : String
  totalRuns : ℕ
  failures : ℕ
  successes : ℕ
  successRate : ℚ

/-- How a batch ends. -/
inductive BatchOutcome
  | returned (result : BatchBenchmarkResult)
  | raised (error : RunCreateError)
  | waits (runId : ℕ)

/-- `run_batch_benchmark` among other parties: the last state, and how it ends. -/
def runBatchBenchmark (scripts : ℕ → CellScript) (others : ℕ → Interference)
    (table : RunsTable) : BatchState × BatchOutcome :=
  match validateBatchArgs args with
  | .error e => (startBatch table, .raised (.raised e))
  | .ok et =>
      let s := (batchActions env args scripts others).foldl (runBatchStep env args et)
        (startBatch table)
      match s.stop with
      | some (.raised error) => (s, .raised error)
      | some (.waiting runId) => (s, .waits runId)
      | none =>
          (s, .returned
            { batchId := env.batchId
              totalRuns := s.total
              failures := s.failures
              successes := s.successes
              successRate := if s.total = 0 then 0 else s.successes / s.total })

end

/-! ## Reading the table after a write -/

namespace RunsTable

variable {table : RunsTable} {row : StoredRun} {run : Run} {id : ℕ}

theorem id_of_find (h : table.find id = some row) : row.run.id = id := by
  simpa using List.find?_some h

theorem mem_of_find (h : table.find id = some row) : row ∈ table.rows :=
  List.mem_of_find?_eq_some h

theorem lt_nextId_of_find (h : table.find id = some row) : id < table.nextId :=
  id_of_find h ▸ table.fresh row (mem_of_find h)

theorem find_of_mem (h : row ∈ table.rows) : table.find row.run.id = some row := by
  obtain ⟨found, hfound⟩ := Option.isSome_iff_exists.mp
    (List.find?_isSome.mpr ⟨row, h, by simp⟩ :
      (table.rows.find? fun r => r.run.id = row.run.id).isSome)
  have hsame : found = row := List.inj_on_of_nodup_map table.unique
    (List.mem_of_find?_eq_some hfound) h (by simpa using List.find?_some hfound)
  rw [find, hfound, hsame]

@[simp] theorem find_insert_self (hrow : row.run.id = table.nextId) :
    (table.insert row hrow).find table.nextId = some row := by
  have hmem : row ∈ (table.insert row hrow).rows := List.mem_append_right _ (by simp)
  have hfind := find_of_mem hmem
  rwa [hrow] at hfind

theorem find_insert_of_ne (hrow : row.run.id = table.nextId) (hid : id ≠ table.nextId) :
    (table.insert row hrow).find id = table.find id := by
  have hne : ¬row.run.id = id := fun h => hid (h ▸ hrow)
  simp [find, insert, List.find?_append, hne]

theorem find_putRun_of_ne (hid : id ≠ run.id) :
    (table.putRun run).find id = table.find id := by
  cases hfind : table.find id with
  | some row =>
      have hrow := id_of_find hfind
      have hmem : row ∈ (table.putRun run).rows :=
        List.mem_map.mpr ⟨row, mem_of_find hfind, by simp [hrow, hid]⟩
      rw [← hrow]
      exact find_of_mem hmem
  | none =>
      rw [find, List.find?_eq_none] at hfind ⊢
      intro row hrow
      obtain ⟨old, hold, rfl⟩ := List.mem_map.mp hrow
      have hne := hfind old hold
      split_ifs with h
      · simpa using fun hsame => hid hsame.symm
      · exact hne

theorem find_putRun_self (run : Run) (h : table.find run.id = some row) :
    (table.putRun run).find run.id = some { row with run := run } := by
  have hmem : ({ row with run := run } : StoredRun) ∈ (table.putRun run).rows :=
    List.mem_map.mpr ⟨row, mem_of_find h, by simp [id_of_find h]⟩
  exact find_of_mem hmem

@[simp] theorem nextId_insert (hrow : row.run.id = table.nextId) :
    (table.insert row hrow).nextId = table.nextId + 1 := rfl

/-- The newest run of a pair is one of its runs. -/
theorem exists_of_newestOf {queryCaseId pipelineConfigId : ℕ}
    (h : table.newestOf queryCaseId pipelineConfigId = some id) :
    ∃ row, table.find id = some row ∧ row.queryCaseId = queryCaseId ∧
      row.pipelineConfigId = pipelineConfigId := by
  obtain ⟨row, hrow, hid⟩ := List.mem_map.mp (List.max?_mem h)
  obtain ⟨hmem, hpair⟩ := List.mem_filter.mp hrow
  refine ⟨row, hid ▸ find_of_mem hmem, ?_⟩
  simpa using hpair

/-- Writing a run over its row leaves the newest runs alone. -/
@[simp] theorem newestOf_putRun (table : RunsTable) (run : Run)
    (queryCaseId pipelineConfigId : ℕ) :
    (table.putRun run).newestOf queryCaseId pipelineConfigId =
      table.newestOf queryCaseId pipelineConfigId := by
  rw [newestOf, newestOf, putRun, List.filter_map, List.map_map]
  congr 1
  have hid : ∀ row : StoredRun, (if row.run.id = run.id then { row with run := run }
      else row).run.id = row.run.id := by
    intro row
    by_cases h : row.run.id = run.id <;> simp [h]
  have hfilter : ((fun row : StoredRun => decide (row.queryCaseId = queryCaseId) &&
      decide (row.pipelineConfigId = pipelineConfigId)) ∘
        fun row => if row.run.id = run.id then { row with run := run } else row) =
      fun row => decide (row.queryCaseId = queryCaseId) &&
        decide (row.pipelineConfigId = pipelineConfigId) := by
    funext row
    by_cases h : row.run.id = run.id <;> simp [h]
  rw [hfilter]
  exact List.map_congr_left fun row _ => hid row

/-- A run of another pair does not matter. -/
theorem newestOf_insert_of_ne (hrow : row.run.id = table.nextId)
    {queryCaseId pipelineConfigId : ℕ}
    (hpair : (row.queryCaseId, row.pipelineConfigId) ≠ (queryCaseId, pipelineConfigId)) :
    (table.insert row hrow).newestOf queryCaseId pipelineConfigId =
      table.newestOf queryCaseId pipelineConfigId := by
  have hout : (row.queryCaseId = queryCaseId && row.pipelineConfigId = pipelineConfigId) =
      false := by
    rw [Bool.and_eq_false_iff]
    by_contra hboth
    simp only [decide_eq_false_iff_not, not_or, not_not] at hboth
    exact hpair (by rw [hboth.1, hboth.2])
  simp [newestOf, insert, List.filter_append, hout]

/-- A run just added is the newest of its pair. -/
theorem newestOf_insert_self (row : StoredRun) (hrow : row.run.id = table.nextId) :
    (table.insert row hrow).newestOf row.queryCaseId row.pipelineConfigId =
      some table.nextId := by
  rw [newestOf, List.max?_eq_some_iff]
  refine ⟨List.mem_map.mpr ⟨row, ?_, hrow⟩, ?_⟩
  · exact List.mem_filter.mpr ⟨List.mem_append_right _ (by simp), by simp⟩
  · intro id hid
    obtain ⟨other, hother, rfl⟩ := List.mem_map.mp hid
    have hlt := (table.insert row hrow).fresh other (List.mem_of_mem_filter hother)
    rw [nextId_insert] at hlt
    omega

end RunsTable

@[simp] theorem BatchState.count_table (s : BatchState) (success : Bool) :
    (s.count success).table = s.table := by
  cases success <;> rfl

@[simp] theorem BatchState.count_session (s : BatchState) (success : Bool) :
    (s.count success).session = s.session := by
  cases success <;> rfl

@[simp] theorem BatchState.count_created (s : BatchState) (success : Bool) :
    (s.count success).created = s.created := by
  cases success <;> rfl

@[simp] theorem BatchState.count_total (s : BatchState) (success : Bool) :
    (s.count success).total = s.total := by
  cases success <;> rfl

@[simp] theorem BatchState.count_stop (s : BatchState) (success : Bool) :
    (s.count success).stop = s.stop := by
  cases success <;> rfl

/-- What a commit of the shared session leaves alone. -/
structure BatchState.SameBatch (s s' : BatchState) : Prop where
  created : s'.created = s.created
  total : s'.total = s.total
  successes : s'.successes = s.successes
  failures : s'.failures = s.failures
  stop : s'.stop = s.stop
  nextId : s'.table.nextId = s.table.nextId

theorem commitFlushed_sameBatch (s : BatchState) : s.SameBatch s.commitFlushed := by
  have hfold : ∀ (changes : List (ℕ × PendingChanges)) (t : BatchState),
      t.SameBatch (changes.foldl BatchState.commitChange t) := by
    intro changes
    induction changes with
    | nil => exact fun t => ⟨rfl, rfl, rfl, rfl, rfl, rfl⟩
    | cons change changes ih =>
        intro t
        have hone : t.SameBatch (t.commitChange change) := by
          rw [BatchState.commitChange]
          cases t.table.find change.1 <;> exact ⟨rfl, rfl, rfl, rfl, rfl, rfl⟩
        have hrest := ih (t.commitChange change)
        exact ⟨hrest.created.trans hone.created, hrest.total.trans hone.total,
          hrest.successes.trans hone.successes, hrest.failures.trans hone.failures,
          hrest.stop.trans hone.stop, hrest.nextId.trans hone.nextId⟩
  have hall := hfold s.session.flushed s
  exact ⟨hall.created, hall.total, hall.successes, hall.failures, hall.stop, hall.nextId⟩

/-! ## A small batch -/

/-- One query case in one dataset. -/
def smallBatchEnv (deps : PipelineEnv) : BatchEnv where
  deps := deps
  registry := smallRegistry
  queryCases := [{ id := 1, datasetId := 1, queryText := "question" }]
  shuffled _ ids := ids
  batchId := "batch"

/-- One heuristic cell. -/
def smallBatchArgs : BatchArgs where
  datasetIds := [1]
  configIds := [1]
  queriesPerDataset := 1
  runsPerQuery := 1
  evaluatorType := "heuristic"
  documentId := none
  experimentName := none
  configGroupTag := none
  matchedLlmReductionWorkloadId := none
  realismProfile := none
  commit := true

/-- Nothing raises. -/
def quietScript : CellScript where
  now := 0
  fault := none
  draws :=
    { emptyDraw := 0
      dropDraw := 0
      shuffled := id
      shuffled_perm := fun hits => List.Perm.refl hits
      noise := fun _ => 0 }
  retrievalMs := 3
  evaluationMs := 2
  pipelineAbort := none
  pipelineMs _ := 1
  pipelineMarks := true
  finalReadFails := false

/-- A database without runs. -/
def RunsTable.empty : RunsTable where
  rows := []
  nextId := 1
  fresh _ hrow := absurd hrow List.not_mem_nil
  unique := List.nodup_nil

end ContextLens
