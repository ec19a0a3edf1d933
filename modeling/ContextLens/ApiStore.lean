import ContextLens.Database
import ContextLens.DocumentIngest
import ContextLens.HeuristicRuns
import ContextLens.RunSessions

/-!
# The tables and the calls that write to them

All tables, the mutating endpoints of `app/api`, and what goes on between two calls: the
sessions of the worker on a run, and the queue.  `apiSystem` is the system that the theorems
about every reachable store are about.

The foreign keys are those of `app/models`: from documents to chunks to retrieval rows,
from datasets to query cases to runs and from runs to their rows everything cascades, and
a pipeline config with runs cannot be deleted.  `delete_dataset`, `delete_query_case` and
`delete_pipeline_config` count the rows that a cascade would reach and refuse;
`delete_document` does not.

### The three design decisions

**A call is one step, the work on a run is not.**  A call goes from its first statement to its
last between two other events, also where it commits more than once: `POST /runs` in the
heuristic mode commits three times, and its attempt says how far it gets.  What a requeue does
between two of those commits is the subject of `HeuristicRequeue`.  A worker session lives for
minutes and commits between the stages, so it is a list of `SessionAction`s on a run, and the
actions of two sessions interleave with each other, with the calls and with the changes of the
queue in any order.

**What the client and the providers do is in the event.**  A call carries its body, the time
and the key of the job; `UploadAttempt` and `HeuristicAttempt` carry where it raises; the
embedder and the models are `PipelineEnv`, over the chunks that the store has.  An event is
therefore never enabled or not by chance: the step is a function, and only a session that
nothing started is refused.

**The database refuses what its keys forbid.**  `deleteChunks`, `deleteRuns` and the others
take the cascade with them.  The one write that can meet a missing row is the commit of a
session whose retrieval rows are of chunks that are gone: `admitted` turns it into the
rollback that PostgreSQL makes of it.

### What is left out

The reading endpoints are functions of the store, in the modules that are about them.  One
sequence stands for those of the tables, so a key is never used twice in two tables either.
Redis holds what the code looks at: the jobs with their status, and the keys of the locks; who
holds a lock, and until when, is in `WorkerLock`.  The batch runner writes past the API and is
in `BatchRunner`.
-/

namespace ContextLens

open Foundations

/-! ## Rows -/

/-- A row of `datasets`. -/
structure DatasetRow where
  id : ℕ
  name : String
  description : Option String
  metadataJson : Option JsonObject

/-- A row of `query_cases` with the columns that the reports do not read. -/
structure QueryCaseRow extends QueryCase where
  expectedAnswer : Option String
  metadataJson : Option JsonObject

/-- A row of `pipeline_configs`. -/
structure PipelineConfigRow where
  id : ℕ
  name : String
  embeddingModel : String
  chunkStrategy : String
  chunkSize : ℕ
  chunkOverlap : ℕ
  topK : ℕ
  metadataJson : Option JsonObject

/-- A row of `runs` with its trace, and the sessions that are open on it. -/
structure TracedRun extends StoredRun where
  sessions : List Session

/-- A row of `diagnosis_timing_sessions`. -/
structure DiagnosisTimingSession where
  id : ℕ
  runId : ℕ
  mode : String
  startedAt : ℕ
  firstMeaningfulInsightAt : Option ℕ
  completedAt : Option ℕ
  resolutionLabel : Option String
  notes : Option String
  sessionKey : Option String
  synthetic : Bool

/-- The tables, and what Redis holds.  One sequence stands for those of the tables. -/
structure ApiStore where
  documents : List StoredDocument
  chunks : List StoredChunk
  datasets : List DatasetRow
  queryCases : List QueryCaseRow
  pipelineConfigs : List PipelineConfigRow
  runs : List TracedRun
  diagnosisSessions : List DiagnosisTimingSession
  jobs : List RqJob
  locks : List ℕ
  nextId : ℕ

/-- The run without its retrieval rows on some chunks. -/
def TracedRun.withoutChunks (gone : ℕ → Bool) (r : TracedRun) : TracedRun :=
  { r with run := { r.run with
      retrievalResults := r.run.retrievalResults.filter fun row => !gone row.chunkId } }

namespace ApiStore

variable (s : ApiStore)

/-! ## Cascades -/

/-- Rows of `chunks` are deleted, and the retrieval rows that reference them. -/
def deleteChunks (p : StoredChunk → Bool) : ApiStore :=
  { s with
    chunks := s.chunks.filter fun chunk => !p chunk
    runs := s.runs.map (TracedRun.withoutChunks fun id =>
      s.chunks.any fun chunk => p chunk && decide (chunk.id = id)) }

/-- Rows of `documents` are deleted, and their chunks. -/
def deleteDocuments (p : StoredDocument → Bool) : ApiStore :=
  { s.deleteChunks (fun chunk => s.documents.any fun document =>
      p document && decide (document.id = chunk.documentId)) with
    documents := s.documents.filter fun document => !p document }

/-- Rows of `runs` are deleted, with their traces and their timing sessions. -/
def deleteRuns (p : TracedRun → Bool) : ApiStore :=
  { s with
    runs := s.runs.filter fun r => !p r
    diagnosisSessions := s.diagnosisSessions.filter fun session =>
      !s.runs.any fun r => p r && decide (r.run.id = session.runId) }

/-- Rows of `query_cases` are deleted, and their runs. -/
def deleteQueryCases (p : QueryCaseRow → Bool) : ApiStore :=
  { s.deleteRuns (fun r => s.queryCases.any fun qc =>
      p qc && decide (qc.id = r.queryCaseId)) with
    queryCases := s.queryCases.filter fun qc => !p qc }

/-- Rows of `datasets` are deleted, and their query cases. -/
def deleteDatasets (p : DatasetRow → Bool) : ApiStore :=
  { s.deleteQueryCases (fun qc => s.datasets.any fun dataset =>
      p dataset && decide (dataset.id = qc.datasetId)) with
    datasets := s.datasets.filter fun dataset => !p dataset }

end ApiStore

/-! ## Request bodies -/

/-- `DatasetUpdateRequest`: `none` for a field that is not set. -/
structure DatasetPatch where
  name : Option String
  description : Option (Option String)
  metadataJson : Option (Option JsonObject)

/-- `QueryCaseCreateRequest`. -/
structure QueryCaseBody where
  datasetId : ℕ
  queryText : String
  expectedAnswer : Option String
  metadataJson : Option JsonObject

/-- `QueryCaseUpdateRequest`. -/
structure QueryCasePatch where
  datasetId : Option ℕ
  queryText : Option String
  expectedAnswer : Option (Option String)
  metadataJson : Option (Option JsonObject)

/-- `PipelineConfigUpdateRequest`. -/
structure PipelineConfigPatch where
  name : Option String
  embeddingModel : Option String
  chunkStrategy : Option String
  chunkSize : Option ℕ
  chunkOverlap : Option ℕ
  topK : Option ℕ
  metadataJson : Option (Option JsonObject)

/-- `DiagnosisTimingSessionPatch`. -/
structure DiagnosisTimingSessionPatch where
  firstMeaningfulInsightAt : Option ℕ
  completedAt : Option ℕ
  resolutionLabel : Option String
  notes : Option String

/-- The fields of the patch are written over the row. -/
def DatasetPatch.apply (patch : DatasetPatch) (row : DatasetRow) : DatasetRow :=
  { row with
    name := patch.name.getD row.name
    description := patch.description.getD row.description
    metadataJson := patch.metadataJson.getD row.metadataJson }

def QueryCasePatch.apply (patch : QueryCasePatch) (row : QueryCaseRow) : QueryCaseRow :=
  { row with
    datasetId := patch.datasetId.getD row.datasetId
    queryText := patch.queryText.getD row.queryText
    expectedAnswer := patch.expectedAnswer.getD row.expectedAnswer
    metadataJson := patch.metadataJson.getD row.metadataJson }

def PipelineConfigPatch.apply (patch : PipelineConfigPatch) (row : PipelineConfigRow) :
    PipelineConfigRow :=
  { row with
    name := patch.name.getD row.name
    embeddingModel := patch.embeddingModel.getD row.embeddingModel
    chunkStrategy := patch.chunkStrategy.getD row.chunkStrategy
    chunkSize := patch.chunkSize.getD row.chunkSize
    chunkOverlap := patch.chunkOverlap.getD row.chunkOverlap
    topK := patch.topK.getD row.topK
    metadataJson := patch.metadataJson.getD row.metadataJson }

def DiagnosisTimingSessionPatch.apply (patch : DiagnosisTimingSessionPatch)
    (row : DiagnosisTimingSession) : DiagnosisTimingSession :=
  { row with
    firstMeaningfulInsightAt := patch.firstMeaningfulInsightAt <|> row.firstMeaningfulInsightAt
    completedAt := patch.completedAt <|> row.completedAt
    resolutionLabel := patch.resolutionLabel <|> row.resolutionLabel
    notes := patch.notes <|> row.notes }

/-- `_validate_pipeline_row`. -/
def validatePipelineRow (row : PipelineConfigRow) : Except HttpException Unit :=
  if row.chunkSize < row.chunkOverlap then
    .error
      { statusCode := 422, detail := "chunk_overlap cannot be greater than chunk_size" }
  else if row.topK < 1 then
    .error { statusCode := 422, detail := "top_k must be at least 1" }
  else .ok ()

/-- An answer of a call, and the tables behind it. -/
abbrev ApiResult (ε ρ : Type) := ApiStore × Except ε ρ

namespace ApiStore

variable (s : ApiStore)

/-! ## Documents -/

/-- `POST /documents`. -/
def uploadDocument (limits : UploadLimits) (attempt : UploadAttempt) (request : UploadRequest)
    (filePath : String) : ApiResult HttpException StoredDocument :=
  let outcome := ContextLens.uploadDocument limits attempt request filePath s.nextId
  ({ s with
      documents := s.documents ++ outcome.document.toList
      chunks := s.chunks ++ outcome.chunks
      nextId := s.nextId + 1 + outcome.chunks.length }, outcome.response)

/-- `delete_document`. -/
def deleteDocument (documentId : ℕ) : ApiResult HttpException Unit :=
  match s.documents.find? fun document => document.id = documentId with
  | none => (s, .error { statusCode := 404, detail := "Document not found." })
  | some _ => (s.deleteDocuments fun document => document.id = documentId, .ok ())

/-! ## Datasets -/

/-- `create_dataset`. -/
def createDataset (name : String) (description : Option String)
    (metadataJson : Option JsonObject) : ApiResult HttpException DatasetRow :=
  let row : DatasetRow :=
    { id := s.nextId, name := name, description := description, metadataJson := metadataJson }
  ({ s with datasets := s.datasets ++ [row], nextId := s.nextId + 1 }, .ok row)

/-- `update_dataset`. -/
def updateDataset (datasetId : ℕ) (patch : DatasetPatch) : ApiResult HttpException DatasetRow :=
  match s.datasets.find? fun row => row.id = datasetId with
  | none => (s, .error { statusCode := 404, detail := "Dataset not found." })
  | some row =>
      ({ s with datasets := s.datasets.map fun other =>
          if other.id = datasetId then patch.apply other else other }, .ok (patch.apply row))

/-- `delete_dataset`. -/
def deleteDataset (datasetId : ℕ) : ApiResult HttpException Unit :=
  match s.datasets.find? fun row => row.id = datasetId with
  | none => (s, .error { statusCode := 404, detail := "Dataset not found." })
  | some _ =>
      if s.queryCases.any fun qc => qc.datasetId = datasetId then
        (s, .error
          { statusCode := 409
            detail := "Dataset has query cases; remove or reassign them before deleting." })
      else (s.deleteDatasets fun row => row.id = datasetId, .ok ())

/-! ## Query cases -/

/-- `create_query_case`. -/
def createQueryCase (body : QueryCaseBody) : ApiResult HttpException QueryCaseRow :=
  match s.datasets.find? fun row => row.id = body.datasetId with
  | none => (s, .error { statusCode := 404, detail := "Dataset not found." })
  | some _ =>
      let row : QueryCaseRow :=
        { id := s.nextId
          datasetId := body.datasetId
          queryText := body.queryText
          expectedAnswer := body.expectedAnswer
          metadataJson := body.metadataJson }
      ({ s with queryCases := s.queryCases ++ [row], nextId := s.nextId + 1 }, .ok row)

/-- `update_query_case`. -/
def updateQueryCase (queryCaseId : ℕ) (patch : QueryCasePatch) :
    ApiResult HttpException QueryCaseRow :=
  match s.queryCases.find? fun row => row.id = queryCaseId with
  | none => (s, .error { statusCode := 404, detail := "Query case not found." })
  | some row =>
      if patch.datasetId.all fun datasetId => s.datasets.any fun dataset =>
          dataset.id = datasetId then
        ({ s with queryCases := s.queryCases.map fun other =>
            if other.id = queryCaseId then patch.apply other else other }, .ok (patch.apply row))
      else (s, .error { statusCode := 404, detail := "Dataset not found." })

/-- `delete_query_case`. -/
def deleteQueryCase (queryCaseId : ℕ) : ApiResult HttpException Unit :=
  match s.queryCases.find? fun row => row.id = queryCaseId with
  | none => (s, .error { statusCode := 404, detail := "Query case not found." })
  | some _ =>
      if s.runs.any fun r => r.queryCaseId = queryCaseId then
        (s, .error
          { statusCode := 409
            detail :=
              "Query case is referenced by runs; remove or archive runs before deleting." })
      else (s.deleteQueryCases fun row => row.id = queryCaseId, .ok ())

/-! ## Pipeline configs -/

/-- `create_pipeline_config`; the id of `row` is not looked at. -/
def createPipelineConfig (row : PipelineConfigRow) : ApiResult HttpException PipelineConfigRow :=
  match validatePipelineRow row with
  | .error e => (s, .error e)
  | .ok () =>
      let row := { row with id := s.nextId }
      ({ s with pipelineConfigs := s.pipelineConfigs ++ [row], nextId := s.nextId + 1 }, .ok row)

/-- `update_pipeline_config`. -/
def updatePipelineConfig (pipelineConfigId : ℕ) (patch : PipelineConfigPatch) :
    ApiResult HttpException PipelineConfigRow :=
  match s.pipelineConfigs.find? fun row => row.id = pipelineConfigId with
  | none => (s, .error { statusCode := 404, detail := "Pipeline config not found." })
  | some row =>
      match validatePipelineRow (patch.apply row) with
      | .error e => (s, .error e)
      | .ok () =>
          ({ s with pipelineConfigs := s.pipelineConfigs.map fun other =>
              if other.id = pipelineConfigId then patch.apply other else other },
            .ok (patch.apply row))

/-- `delete_pipeline_config`. -/
def deletePipelineConfig (pipelineConfigId : ℕ) : ApiResult HttpException Unit :=
  match s.pipelineConfigs.find? fun row => row.id = pipelineConfigId with
  | none => (s, .error { statusCode := 404, detail := "Pipeline config not found." })
  | some _ =>
      if s.runs.any fun r => r.pipelineConfigId = pipelineConfigId then
        (s, .error
          { statusCode := 409
            detail := "Pipeline config is referenced by runs; cannot delete while runs exist." })
      else
        ({ s with pipelineConfigs :=
            s.pipelineConfigs.filter fun row => !decide (row.id = pipelineConfigId) }, .ok ())

/-! ## Runs -/

/-- The registries as a run creation finds them. -/
def registry : Registry where
  queryCase id := (s.queryCases.find? fun qc => qc.id = id).map fun qc =>
    { queryText := qc.queryText, expectedAnswer := qc.expectedAnswer }
  pipelineConfig id := (s.pipelineConfigs.find? fun row => row.id = id).map PipelineConfigRow.topK
  document id := s.documents.any fun document => document.id = id

/-- The providers over the chunks of the store. -/
def environment (deps : PipelineEnv) : PipelineEnv :=
  { deps with chunks := s.chunks.map StoredChunk.toChunk }

/-- A new row of `runs`. -/
def insertRun (run : Run) (request : RunCreateRequest) (createdAt : ℕ) : ApiStore :=
  { s with
    runs := s.runs ++ [{ run := run
                         queryCaseId := request.queryCaseId
                         pipelineConfigId := request.pipelineConfigId
                         createdAt := createdAt
                         sessions := [] }]
    nextId := s.nextId + 1 }

/-- `POST /runs` in the heuristic mode. -/
def createHeuristicRun (deps : PipelineEnv) (attempt : HeuristicAttempt)
    (request : RunCreateRequest) (createdAt : ℕ) : ApiResult RunCreateError Run :=
  let result :=
    createAndExecuteRunFromIds s.registry (s.environment deps) attempt request s.nextId
  (match result.run with
    | none => s
    | some run => s.insertRun run request createdAt, result.response)

/-- `eval_mode` as the prerequisites look at it. -/
def evalModeOf : FullEvalMode → EvalMode
  | .full => .full
  | .fullHybrid => .fullHybrid

/-- `POST /runs` in the full modes: `push` is how the push of the job ends, `error` the text
of its exception. -/
def createFullRun (deps : PipelineEnv) (mode : FullEvalMode) (requestId : Option String)
    (push : RedisReply) (error : String) (jobId : ℕ) (request : RunCreateRequest)
    (createdAt : ℕ) : ApiResult RunCreateError Run :=
  match validateRunCreatePrerequisites s.registry deps.settings request (evalModeOf mode) with
  | .error e => (s, .error e)
  | .ok _ =>
      let created := ContextLens.createFullRun s.nextId mode requestId
      let job := fullRunJob jobId created.id request.documentId createdAt
      match push with
      | .ok =>
          ({ s.insertRun created request createdAt with jobs := s.jobs ++ [job] }, .ok created)
      | .error applied =>
          ({ s.insertRun (created.apply (enqueueFailureChanges created error requestId)) request
              createdAt with jobs := if applied then s.jobs ++ [job] else s.jobs },
            .error (.raised redisError))

/-- The row of `runs` with an id is updated. -/
def updateRun (runId : ℕ) (f : TracedRun → TracedRun) : ApiStore :=
  { s with runs := s.runs.replaceF fun r => if r.run.id = runId then some (f r) else none }

/-- What a requeue finds. -/
def queueWorld (deps : PipelineEnv) (runId : ℕ) : QueueWorld where
  run := (s.runs.find? fun r => r.run.id = runId).map fun r => r.run
  lock := decide (runId ∈ s.locks)
  jobs := s.jobs
  chunks := s.chunks.map StoredChunk.toChunk
  settings := deps.settings

/-- `POST /runs/{run_id}/requeue`. -/
def requeue (deps : PipelineEnv) (call : RequeueCall) : ApiResult RequeueError (Run × ℕ) :=
  let (world, response) := requeueFullRun (s.queueWorld deps call.runId) call
  let s' := match world.run with
    | none => s
    | some run => s.updateRun call.runId fun r => { r with run := run }
  ({ s' with
      jobs := world.jobs
      locks := if world.lock then s.locks else s.locks.filter fun id => id ≠ call.runId },
    response)

/-! ## Diagnosis timing sessions -/

/-- `create_diagnosis_session`; `now` is the clock of the server. -/
def createDiagnosisSession (runId : ℕ) (mode : String) (startedAt : Option ℕ)
    (sessionKey : Option String) (synthetic : Bool) (now : ℕ) :
    ApiResult HttpException DiagnosisTimingSession :=
  match s.runs.find? fun r => r.run.id = runId with
  | none => (s, .error { statusCode := 404, detail := "Run not found." })
  | some _ =>
      let row : DiagnosisTimingSession :=
        { id := s.nextId
          runId := runId
          mode := mode
          startedAt := startedAt.getD now
          firstMeaningfulInsightAt := none
          completedAt := none
          resolutionLabel := none
          notes := none
          sessionKey := sessionKey
          synthetic := synthetic }
      ({ s with diagnosisSessions := s.diagnosisSessions ++ [row], nextId := s.nextId + 1 },
        .ok row)

/-- `patch_diagnosis_timing_session_endpoint`. -/
def patchDiagnosisSession (runId sessionId : ℕ) (patch : DiagnosisTimingSessionPatch) :
    ApiResult HttpException DiagnosisTimingSession :=
  match s.diagnosisSessions.find? fun row => row.id = sessionId ∧ row.runId = runId with
  | none => (s, .error { statusCode := 404, detail := "Session not found for this run." })
  | some row =>
      ({ s with diagnosisSessions := s.diagnosisSessions.map fun other =>
          if other.id = sessionId then patch.apply other else other }, .ok (patch.apply row))

end ApiStore

/-! ## The system -/

/-- A call of a mutating endpoint. -/
inductive ApiCall
  | uploadDocument (attempt : UploadAttempt) (request : UploadRequest) (filePath : String)
  | deleteDocument (documentId : ℕ)
  | createDataset (name : String) (description : Option String)
      (metadataJson : Option JsonObject)
  | updateDataset (datasetId : ℕ) (patch : DatasetPatch)
  | deleteDataset (datasetId : ℕ)
  | createQueryCase (body : QueryCaseBody)
  | updateQueryCase (queryCaseId : ℕ) (patch : QueryCasePatch)
  | deleteQueryCase (queryCaseId : ℕ)
  | createPipelineConfig (row : PipelineConfigRow)
  | updatePipelineConfig (pipelineConfigId : ℕ) (patch : PipelineConfigPatch)
  | deletePipelineConfig (pipelineConfigId : ℕ)
  | createHeuristicRun (attempt : HeuristicAttempt) (request : RunCreateRequest)
      (createdAt : ℕ)
  | createFullRun (mode : FullEvalMode) (requestId : Option String) (push : RedisReply)
      (error : String) (jobId : ℕ) (request : RunCreateRequest) (createdAt : ℕ)
  | requeue (call : RequeueCall)
  | createDiagnosisSession (runId : ℕ) (mode : String) (startedAt : Option ℕ)
      (sessionKey : Option String) (synthetic : Bool) (now : ℕ)
  | patchDiagnosisSession (runId sessionId : ℕ) (patch : DiagnosisTimingSessionPatch)

/-- What a worker or the clock does to the queue. -/
inductive QueueChange
  | jobStatus (jobId : ℕ) (status : RqStatus)
  | jobGone (jobId : ℕ)
  | lock (runId : ℕ)
  | unlock (runId : ℕ)

/-- One thing that happens: a call, a step of a session on a run, a change of the queue. -/
inductive ApiEvent
  | call (call : ApiCall)
  | session (runId : ℕ) (action : SessionAction)
  | queue (change : QueueChange)

namespace ApiStore

variable (s : ApiStore)

/-- The store after a call. -/
def afterCall (deps : PipelineEnv) (limits : UploadLimits) : ApiCall → ApiStore
  | .uploadDocument attempt request filePath =>
      (s.uploadDocument limits attempt request filePath).1
  | .deleteDocument documentId => (s.deleteDocument documentId).1
  | .createDataset name description metadataJson =>
      (s.createDataset name description metadataJson).1
  | .updateDataset datasetId patch => (s.updateDataset datasetId patch).1
  | .deleteDataset datasetId => (s.deleteDataset datasetId).1
  | .createQueryCase body => (s.createQueryCase body).1
  | .updateQueryCase queryCaseId patch => (s.updateQueryCase queryCaseId patch).1
  | .deleteQueryCase queryCaseId => (s.deleteQueryCase queryCaseId).1
  | .createPipelineConfig row => (s.createPipelineConfig row).1
  | .updatePipelineConfig pipelineConfigId patch =>
      (s.updatePipelineConfig pipelineConfigId patch).1
  | .deletePipelineConfig pipelineConfigId => (s.deletePipelineConfig pipelineConfigId).1
  | .createHeuristicRun attempt request createdAt =>
      (s.createHeuristicRun deps attempt request createdAt).1
  | .createFullRun mode requestId push error jobId request createdAt =>
      (s.createFullRun deps mode requestId push error jobId request createdAt).1
  | .requeue call => (s.requeue deps call).1
  | .createDiagnosisSession runId mode startedAt sessionKey synthetic now =>
      (s.createDiagnosisSession runId mode startedAt sessionKey synthetic now).1
  | .patchDiagnosisSession runId sessionId patch =>
      (s.patchDiagnosisSession runId sessionId patch).1

/-- The step that a session of the run really makes.  The retrieval rows of a commit have a
foreign key to `chunks`; when one of the chunks is gone the transaction is rolled back. -/
def admitted (r : TracedRun) : SessionAction → SessionAction
  | .commit i =>
      match (r.sessions[i]?).bind Session.pending with
      | some changes =>
          if changes.retrievalResults.all fun row =>
              s.chunks.any fun chunk => chunk.id = row.chunkId then .commit i
          else .rollback i
      | none => .commit i
  | action => action

/-- A step of a session on a run.  Only a job starts one. -/
def afterSession (runId : ℕ) (action : SessionAction) : Option ApiStore :=
  match s.runs.find? fun r => r.run.id = runId with
  | none => none
  | some r =>
      match action, s.jobs.any fun job => job.runIdArg = some runId with
      | .start _, false => none
      | action, _ =>
          (SessionState.step { run := r.run, sessions := r.sessions } (s.admitted r action)).map
            fun t => s.updateRun runId fun r => { r with run := t.run, sessions := t.sessions }

/-- The store after a change of the queue. -/
def afterQueueChange : QueueChange → ApiStore
  | .jobStatus jobId status =>
      { s with jobs := s.jobs.map fun job =>
          if job.id = jobId then { job with status := status } else job }
  | .jobGone jobId => { s with jobs := s.jobs.filter fun job => job.id ≠ jobId }
  | .lock runId => { s with locks := runId :: s.locks }
  | .unlock runId => { s with locks := s.locks.filter fun id => id ≠ runId }

end ApiStore

/-- The calls, the sessions and the queue as one system. -/
def apiSystem (deps : PipelineEnv) (limits : UploadLimits) : LabelledSystem ApiStore ApiEvent where
  step s event :=
    match event with
    | .call call => some (s.afterCall deps limits call)
    | .session runId action => s.afterSession runId action
    | .queue change => some (s.afterQueueChange change)

end ContextLens
