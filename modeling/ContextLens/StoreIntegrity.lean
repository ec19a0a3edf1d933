import ContextLens.Foundations.KeyedTable
import ContextLens.HeuristicTrace
import ContextLens.TraceRetention
import ContextLens.UploadCleanup

/-!
# The integrity of the stored tables

What holds of the tables behind the API in every order of calls, sessions and changes of the
queue (`reachable_store_sound`): the keys are distinct, every foreign key finds its row, a run
has one generation row and one evaluation row at most, every pipeline config passes the check
of its endpoint, and a document is either failed and without chunks or processed with its
chunks numbered from zero.

A write keeps this for one of few reasons, and there is one lemma for each kind of write:
a row with the next key, an update that leaves the keys alone, a cascade, a run that a session
or a requeue has moved.
-/

namespace ContextLens

open Foundations

/-! ## What holds of the tables -/

/-- The chunks of a document. -/
def documentChunks (chunks : List StoredChunk) (documentId : ℕ) : List StoredChunk :=
  chunks.filter fun chunk => chunk.documentId = documentId

/-- A run has at most one generation row and one evaluation row. -/
structure OneRowEach (run : Run) : Prop where
  generation : run.generationResults.length ≤ 1
  evaluation : run.evaluationResults.length ≤ 1

/-- The settled states of a document. -/
structure DocumentSettled (chunks : List StoredChunk) (document : StoredDocument) : Prop where
  settled : document.status ≠ .processing
  processed_iff : document.status = .processed ↔ documentChunks chunks document.id ≠ []
  numbered : (documentChunks chunks document.id).map StoredChunk.chunkIndex =
    List.range (documentChunks chunks document.id).length

theorem DocumentSettled.of_documentChunks_eq {chunks chunks' : List StoredChunk}
    {document : StoredDocument} (h : DocumentSettled chunks document)
    (heq : documentChunks chunks' document.id = documentChunks chunks document.id) :
    DocumentSettled chunks' document :=
  ⟨h.settled, heq ▸ h.processed_iff, heq ▸ h.numbered⟩

/-- The bounds that the endpoints of pipeline configs check. -/
structure ConfigInBounds (row : PipelineConfigRow) : Prop where
  overlap : row.chunkOverlap ≤ row.chunkSize
  topK : 1 ≤ row.topK

namespace ApiStore

/-- The keys of every table are distinct and were drawn before `next`. -/
structure KeysBelow (s : ApiStore) (next : ℕ) : Prop where
  documents : Table.Keyed StoredDocument.id next s.documents
  chunks : Table.Keyed (fun chunk : StoredChunk => chunk.id) next s.chunks
  datasets : Table.Keyed DatasetRow.id next s.datasets
  queryCases : Table.Keyed (fun qc : QueryCaseRow => qc.id) next s.queryCases
  pipelineConfigs : Table.Keyed PipelineConfigRow.id next s.pipelineConfigs
  runs : Table.Keyed (fun r : TracedRun => r.run.id) next s.runs
  diagnosisSessions : Table.Keyed DiagnosisTimingSession.id next s.diagnosisSessions

/-- The retrieval rows of a run refer to chunks that are stored. -/
def RetrievalRefers (s : ApiStore) (rows : List RetrievalResult) : Prop :=
  Table.Refers RetrievalResult.chunkId (fun chunk : StoredChunk => chunk.id) rows s.chunks

/-- Every job is about a run that is stored. -/
def JobsRefer (s : ApiStore) (jobs : List RqJob) : Prop :=
  ∀ job ∈ jobs, ∀ runId ∈ job.runIdArg, runId ∈ s.runs.map fun r => r.run.id

/-- Every foreign key finds its row, and every job its run. -/
structure ReferencesHold (s : ApiStore) : Prop where
  chunk_document : Table.Refers (fun chunk : StoredChunk => chunk.documentId) StoredDocument.id
    s.chunks s.documents
  queryCase_dataset : Table.Refers (fun qc : QueryCaseRow => qc.datasetId) DatasetRow.id
    s.queryCases s.datasets
  run_queryCase : Table.Refers (fun r : TracedRun => r.queryCaseId)
    (fun qc : QueryCaseRow => qc.id) s.runs s.queryCases
  run_pipelineConfig : Table.Refers (fun r : TracedRun => r.pipelineConfigId)
    PipelineConfigRow.id s.runs s.pipelineConfigs
  retrieval_chunk : ∀ r ∈ s.runs, s.RetrievalRefers r.run.retrievalResults
  diagnosisSession_run : Table.Refers DiagnosisTimingSession.runId
    (fun r : TracedRun => r.run.id) s.diagnosisSessions s.runs
  job_run : s.JobsRefer s.jobs

/-- What every reachable store keeps. -/
structure Sound (s : ApiStore) : Prop where
  keys : s.KeysBelow s.nextId
  references : s.ReferencesHold
  oneRowEach : ∀ r ∈ s.runs, OneRowEach r.run
  documents : ∀ document ∈ s.documents, DocumentSettled s.chunks document
  configs : ∀ row ∈ s.pipelineConfigs, ConfigInBounds row

theorem KeysBelow.mono {s : ApiStore} {next next' : ℕ} (h : s.KeysBelow next)
    (hle : next ≤ next') : s.KeysBelow next' :=
  ⟨h.documents.mono hle, h.chunks.mono hle, h.datasets.mono hle, h.queryCases.mono hle,
    h.pipelineConfigs.mono hle, h.runs.mono hle, h.diagnosisSessions.mono hle⟩

theorem sound_empty : Sound .empty where
  keys := ⟨.nil _ _, .nil _ _, .nil _ _, .nil _ _, .nil _ _, .nil _ _, .nil _ _⟩
  references := ⟨.nil _ _ _, .nil _ _ _, .nil _ _ _, .nil _ _ _,
    fun _ hr => absurd hr List.not_mem_nil, .nil _ _ _, fun _ hjob => absurd hjob List.not_mem_nil⟩
  oneRowEach _ hr := absurd hr List.not_mem_nil
  documents _ hdocument := absurd hdocument List.not_mem_nil
  configs _ hrow := absurd hrow List.not_mem_nil

variable {s : ApiStore}

/-! ## Deletes that nothing is in the way of

A delete of the registry that its endpoint lets through has nothing to cascade to. -/

theorem deleteRuns_eq_self {p : TracedRun → Bool} (h : ∀ r ∈ s.runs, p r = false) :
    s.deleteRuns p = s := by
  have hruns : (s.runs.filter fun r => !p r) = s.runs :=
    List.filter_eq_self.mpr fun r hr => by rw [h r hr]; rfl
  have hsessions : (s.diagnosisSessions.filter fun session =>
      !s.runs.any fun r => p r && decide (r.run.id = session.runId)) = s.diagnosisSessions := by
    refine List.filter_eq_self.mpr fun session _ => ?_
    rw [Bool.not_eq_true', List.any_eq_false]
    intro r hr
    rw [h r hr]
    exact Bool.false_ne_true
  rw [deleteRuns, hruns, hsessions]

theorem deleteQueryCases_eq {p : QueryCaseRow → Bool}
    (h : ∀ r ∈ s.runs, ∀ qc ∈ s.queryCases, p qc = true → qc.id ≠ r.queryCaseId) :
    s.deleteQueryCases p = { s with queryCases := s.queryCases.filter fun qc => !p qc } := by
  rw [deleteQueryCases, deleteRuns_eq_self]
  intro r hr
  rw [List.any_eq_false]
  intro qc hqc hreached
  rw [Bool.and_eq_true, decide_eq_true_iff] at hreached
  exact h r hr qc hqc hreached.1 hreached.2

theorem deleteDatasets_eq {p : DatasetRow → Bool}
    (h : ∀ qc ∈ s.queryCases, ∀ dataset ∈ s.datasets, p dataset = true →
      dataset.id ≠ qc.datasetId) :
    s.deleteDatasets p = { s with datasets := s.datasets.filter fun dataset => !p dataset } := by
  have hnone : ∀ qc ∈ s.queryCases, (s.datasets.any fun dataset =>
      p dataset && decide (dataset.id = qc.datasetId)) = false := by
    intro qc hqc
    rw [List.any_eq_false]
    intro dataset hdataset hreached
    rw [Bool.and_eq_true, decide_eq_true_iff] at hreached
    exact h qc hqc dataset hdataset hreached.1 hreached.2
  rw [deleteDatasets, deleteQueryCases_eq]
  · have hcases : (s.queryCases.filter fun qc => !s.datasets.any fun dataset =>
        p dataset && decide (dataset.id = qc.datasetId)) = s.queryCases :=
      List.filter_eq_self.mpr fun qc hqc => by rw [hnone qc hqc]; rfl
    rw [hcases]
  · intro r _ qc hqc hreached
    rw [hnone qc hqc] at hreached
    cases hreached

namespace Sound

/-! ## The registries -/

theorem createDataset (h : s.Sound) (name : String) (description : Option String)
    (metadataJson : Option JsonObject) :
    (s.createDataset name description metadataJson).1.Sound :=
  { h with
    keys := { h.keys.mono (Nat.le_succ _) with datasets := h.keys.datasets.concat rfl }
    references := { h.references with
      queryCase_dataset := h.references.queryCase_dataset.append_parents _ } }

theorem updateDataset (h : s.Sound) (datasetId : ℕ) (patch : DatasetPatch) :
    (s.updateDataset datasetId patch).1.Sound := by
  rw [ApiStore.updateDataset]
  split
  · exact h
  · have hids : (s.datasets.map fun other => if other.id = datasetId then patch.apply other
        else other).map DatasetRow.id = s.datasets.map DatasetRow.id :=
      Table.map_update fun _ => rfl
    exact { h with
      keys := { h.keys with datasets := h.keys.datasets.of_map_eq hids }
      references := { h.references with
        queryCase_dataset := h.references.queryCase_dataset.of_keys_eq hids } }

theorem deleteDataset (h : s.Sound) (datasetId : ℕ) : (s.deleteDataset datasetId).1.Sound := by
  rw [ApiStore.deleteDataset]
  split
  · exact h
  · split_ifs with hcases
    · exact h
    · have hfree : ∀ qc ∈ s.queryCases, ∀ dataset ∈ s.datasets,
          decide (dataset.id = datasetId) = true → dataset.id ≠ qc.datasetId := by
        intro qc hqc dataset _ hdataset hsame
        refine hcases (List.any_eq_true.mpr ⟨qc, hqc, ?_⟩)
        rw [decide_eq_true_iff] at hdataset ⊢
        exact hsame.symm.trans hdataset
      rw [deleteDatasets_eq hfree]
      refine { h with
        keys := { h.keys with datasets := h.keys.datasets.filter _ }
        references := { h.references with
          queryCase_dataset := h.references.queryCase_dataset.delete_unreferenced ?_ } }
      intro qc hqc dataset hdataset hsame
      rw [← Bool.not_eq_true]
      exact fun hp => hfree qc hqc dataset hdataset hp hsame

theorem createQueryCase (h : s.Sound) (body : QueryCaseBody) :
    (s.createQueryCase body).1.Sound := by
  rw [ApiStore.createQueryCase]
  split
  · exact h
  · rename_i dataset hfound
    have hdataset : body.datasetId ∈ s.datasets.map DatasetRow.id :=
      List.mem_map.mpr ⟨dataset, List.mem_of_find?_eq_some hfound,
        by simpa using List.find?_some hfound⟩
    exact { h with
      keys := { h.keys.mono (Nat.le_succ _) with queryCases := h.keys.queryCases.concat rfl }
      references := { h.references with
        queryCase_dataset := h.references.queryCase_dataset.append
          (List.forall_mem_singleton.mpr hdataset)
        run_queryCase := h.references.run_queryCase.append_parents _ } }

theorem updateQueryCase (h : s.Sound) (queryCaseId : ℕ) (patch : QueryCasePatch) :
    (s.updateQueryCase queryCaseId patch).1.Sound := by
  rw [ApiStore.updateQueryCase]
  split
  · exact h
  · split_ifs with hdataset
    · have hids : (s.queryCases.map fun other => if other.id = queryCaseId then patch.apply other
          else other).map (fun qc => qc.id) = s.queryCases.map fun qc => qc.id :=
        Table.map_update fun _ => rfl
      refine { h with
        keys := { h.keys with queryCases := h.keys.queryCases.of_map_eq hids }
        references := { h.references with
          queryCase_dataset := ?_
          run_queryCase := h.references.run_queryCase.of_keys_eq hids } }
      intro qc hqc
      obtain ⟨other, hother, rfl⟩ := List.mem_map.mp hqc
      have hold : other.datasetId ∈ s.datasets.map DatasetRow.id :=
        h.references.queryCase_dataset other hother
      split_ifs with hid
      · show patch.datasetId.getD other.datasetId ∈ s.datasets.map DatasetRow.id
        cases hpatch : patch.datasetId with
        | none => exact hold
        | some datasetId =>
            rw [hpatch, Option.all_some] at hdataset
            obtain ⟨dataset, hin, hsame⟩ := List.any_eq_true.mp hdataset
            exact List.mem_map.mpr ⟨dataset, hin, of_decide_eq_true hsame⟩
      · exact hold
    · exact h

theorem deleteQueryCase (h : s.Sound) (queryCaseId : ℕ) :
    (s.deleteQueryCase queryCaseId).1.Sound := by
  rw [ApiStore.deleteQueryCase]
  split
  · exact h
  · split_ifs with hruns
    · exact h
    · have hfree : ∀ r ∈ s.runs, ∀ qc ∈ s.queryCases,
          decide (qc.id = queryCaseId) = true → qc.id ≠ r.queryCaseId := by
        intro r hr qc _ hqc hsame
        refine hruns (List.any_eq_true.mpr ⟨r, hr, ?_⟩)
        rw [decide_eq_true_iff] at hqc ⊢
        exact hsame.symm.trans hqc
      rw [deleteQueryCases_eq hfree]
      refine { h with
        keys := { h.keys with queryCases := h.keys.queryCases.filter _ }
        references := { h.references with
          queryCase_dataset := h.references.queryCase_dataset.filter _
          run_queryCase := h.references.run_queryCase.delete_unreferenced ?_ } }
      intro r hr qc hqc hsame
      rw [← Bool.not_eq_true]
      exact fun hp => hfree r hr qc hqc hp hsame

theorem configInBounds_of_valid {row : PipelineConfigRow} (h : validatePipelineRow row = .ok ()) :
    ConfigInBounds row := by
  unfold validatePipelineRow at h
  split_ifs at h with hoverlap htopK
  exact ⟨not_lt.mp hoverlap, not_lt.mp htopK⟩

theorem createPipelineConfig (h : s.Sound) (row : PipelineConfigRow) :
    (s.createPipelineConfig row).1.Sound := by
  rw [ApiStore.createPipelineConfig]
  split
  · exact h
  · rename_i hvalid
    refine { h with
      keys := { h.keys.mono (Nat.le_succ _) with
        pipelineConfigs := h.keys.pipelineConfigs.concat rfl }
      references := { h.references with
        run_pipelineConfig := h.references.run_pipelineConfig.append_parents _ }
      configs := fun other hother => ?_ }
    rcases List.mem_append.mp hother with hold | hnew
    · exact h.configs other hold
    · rw [List.mem_singleton.mp hnew]
      exact { configInBounds_of_valid hvalid with }

theorem updatePipelineConfig (h : s.Sound) (pipelineConfigId : ℕ) (patch : PipelineConfigPatch) :
    (s.updatePipelineConfig pipelineConfigId patch).1.Sound := by
  rw [ApiStore.updatePipelineConfig]
  split
  · exact h
  · rename_i row hfound
    split
    · exact h
    · rename_i hvalid
      have hids : (s.pipelineConfigs.map fun other => if other.id = pipelineConfigId then
          patch.apply other else other).map PipelineConfigRow.id =
            s.pipelineConfigs.map PipelineConfigRow.id := Table.map_update fun _ => rfl
      refine { h with
        keys := { h.keys with pipelineConfigs := h.keys.pipelineConfigs.of_map_eq hids }
        references := { h.references with
          run_pipelineConfig := h.references.run_pipelineConfig.of_keys_eq hids }
        configs := fun other hother => ?_ }
      obtain ⟨old, hold, rfl⟩ := List.mem_map.mp hother
      split_ifs with hid
      · -- The key is the one of the row that was checked, so it is that row.
        have hrow : row.id = pipelineConfigId := by simpa using List.find?_some hfound
        have hsame : old = row := h.keys.pipelineConfigs.eq_of_key_eq hold
          (List.mem_of_find?_eq_some hfound) (hid.trans hrow.symm)
        rw [hsame]
        exact configInBounds_of_valid hvalid
      · exact h.configs old hold

theorem deletePipelineConfig (h : s.Sound) (pipelineConfigId : ℕ) :
    (s.deletePipelineConfig pipelineConfigId).1.Sound := by
  rw [ApiStore.deletePipelineConfig]
  split
  · exact h
  · split_ifs with hruns
    · exact h
    · refine { h with
        keys := { h.keys with pipelineConfigs := h.keys.pipelineConfigs.filter _ }
        references := { h.references with
          run_pipelineConfig := h.references.run_pipelineConfig.delete_unreferenced ?_ }
        configs := fun row hrow => h.configs row (List.mem_of_mem_filter hrow) }
      intro r hr row _ hsame
      rw [decide_eq_false_iff_not]
      rintro rfl
      exact hruns (List.any_eq_true.mpr ⟨r, hr, decide_eq_true hsame.symm⟩)

/-! ## Timing sessions and the queue -/

theorem createDiagnosisSession (h : s.Sound) (runId : ℕ) (mode : String) (startedAt : Option ℕ)
    (sessionKey : Option String) (synthetic : Bool) (now : ℕ) :
    (s.createDiagnosisSession runId mode startedAt sessionKey synthetic now).1.Sound := by
  rw [ApiStore.createDiagnosisSession]
  split
  · exact h
  · rename_i r hfound
    have hrun : runId ∈ s.runs.map fun r => r.run.id :=
      List.mem_map.mpr ⟨r, List.mem_of_find?_eq_some hfound,
        by simpa using List.find?_some hfound⟩
    exact { h with
      keys := { h.keys.mono (Nat.le_succ _) with
        diagnosisSessions := h.keys.diagnosisSessions.concat rfl }
      references := { h.references with
        diagnosisSession_run := h.references.diagnosisSession_run.append
          (List.forall_mem_singleton.mpr hrun) } }

theorem patchDiagnosisSession (h : s.Sound) (runId sessionId : ℕ)
    (patch : DiagnosisTimingSessionPatch) :
    (s.patchDiagnosisSession runId sessionId patch).1.Sound := by
  rw [ApiStore.patchDiagnosisSession]
  split
  · exact h
  · exact { h with
      keys := { h.keys with
        diagnosisSessions := h.keys.diagnosisSessions.of_map_eq (Table.map_update fun _ => rfl) }
      references := { h.references with
        diagnosisSession_run := h.references.diagnosisSession_run.of_map_eq
          (Table.map_update fun _ => rfl) } }

/-- Other jobs and locks. -/
theorem withQueue (h : s.Sound) {jobs : List RqJob} (hjobs : s.JobsRefer jobs)
    (locks : List ℕ) : Sound { s with jobs := jobs, locks := locks } :=
  { h with
    keys := { h.keys with }
    references := { h.references with job_run := hjobs } }

theorem afterQueueChange (h : s.Sound) (change : QueueChange) :
    (s.afterQueueChange change).Sound := by
  cases change with
  | jobStatus jobId status =>
      refine h.withQueue (fun job hjob runId hrun => ?_) s.locks
      obtain ⟨old, hold, rfl⟩ := List.mem_map.mp hjob
      refine h.references.job_run old hold runId ?_
      split_ifs at hrun
      · exact hrun
      · exact hrun
  | jobGone jobId =>
      exact h.withQueue (fun job hjob => h.references.job_run job (List.mem_of_mem_filter hjob))
        s.locks
  | lock runId => exact h.withQueue h.references.job_run _
  | unlock runId => exact h.withQueue h.references.job_run _

/-! ## Documents -/

theorem deleteDocument (h : s.Sound) (documentId : ℕ) :
    (s.deleteDocument documentId).1.Sound := by
  rw [ApiStore.deleteDocument]
  split
  · exact h
  · have hrunIds : (s.runs.map (TracedRun.withoutChunks fun id => s.chunks.any fun chunk =>
        (s.documents.any fun document =>
          decide (document.id = documentId) && decide (document.id = chunk.documentId)) &&
            decide (chunk.id = id))).map (fun r => r.run.id) = s.runs.map fun r => r.run.id := by
      rw [List.map_map]
      rfl
    refine
      { keys := { h.keys with
          documents := h.keys.documents.filter _
          chunks := h.keys.chunks.filter _
          runs := h.keys.runs.of_map_eq hrunIds }
        references := { h.references with
          chunk_document := h.references.chunk_document.cascade _
          run_queryCase := h.references.run_queryCase.of_map_eq ?_
          run_pipelineConfig := h.references.run_pipelineConfig.of_map_eq ?_
          retrieval_chunk := fun r hr => ?_
          diagnosisSession_run := h.references.diagnosisSession_run.of_keys_eq hrunIds
          job_run := fun job hjob runId hrun =>
            hrunIds ▸ h.references.job_run job hjob runId hrun }
        oneRowEach := fun r hr => ?_
        documents := fun document hdocument => ?_
        configs := h.configs }
    · exact List.map_map
    · exact List.map_map
    · obtain ⟨old, hold, rfl⟩ := List.mem_map.mp hr
      exact (h.references.retrieval_chunk old hold).cascade _
    · obtain ⟨old, hold, rfl⟩ := List.mem_map.mp hr
      exact { h.oneRowEach old hold with }
    · -- What is left has another key, so none of its chunks is gone.
      obtain ⟨hin, hother⟩ := List.mem_filter.mp hdocument
      have hne : document.id ≠ documentId := by simpa using hother
      have hchunks : documentChunks (s.chunks.filter fun chunk => !s.documents.any fun other =>
          decide (other.id = documentId) && decide (other.id = chunk.documentId)) document.id =
            documentChunks s.chunks document.id := by
        rw [documentChunks, List.filter_filter]
        refine List.filter_congr fun chunk _ => ?_
        by_cases hown : chunk.documentId = document.id
        · have hspared : (s.documents.any fun other =>
              decide (other.id = documentId) && decide (other.id = chunk.documentId)) = false := by
            rw [List.any_eq_false]
            intro other _ hboth
            rw [Bool.and_eq_true, decide_eq_true_iff, decide_eq_true_iff] at hboth
            exact hne ((hown.symm.trans hboth.2.symm).trans hboth.1)
          rw [hspared, Bool.not_false, Bool.and_true]
        · rw [decide_eq_false hown, Bool.false_and]
      exact (h.documents document hin).of_documentChunks_eq hchunks

/-- What an upload adds: nothing, a failed document, or a processed one with its chunks. -/
structure UploadAdds (document : Option StoredDocument) (chunks : List StoredChunk)
    (documentId : ℕ) : Prop where
  document_id : ∀ row ∈ document, row.id = documentId
  document_settled : ∀ row ∈ document, row.status ≠ .processing
  processed_iff : ∀ row ∈ document, row.status = .processed ↔ chunks ≠ []
  document_isSome : chunks ≠ [] → document.isSome
  chunk_document : ∀ chunk ∈ chunks, chunk.documentId = documentId
  chunk_ids : chunks.map (fun chunk => chunk.id) = List.range' (documentId + 1) chunks.length
  numbered : chunks.map StoredChunk.chunkIndex = List.range chunks.length

namespace UploadAdds

variable {document : Option StoredDocument} {chunks : List StoredChunk} {documentId : ℕ}

theorem chunk_id_mem (h : UploadAdds document chunks documentId) {chunk : StoredChunk}
    (hchunk : chunk ∈ chunks) :
    documentId + 1 ≤ chunk.id ∧ chunk.id < documentId + 1 + chunks.length := by
  have hid : chunk.id ∈ List.range' (documentId + 1) chunks.length :=
    h.chunk_ids ▸ List.mem_map_of_mem hchunk
  exact List.mem_range'_1.mp hid

theorem keyed_chunks (h : UploadAdds document chunks documentId) :
    Table.Keyed (fun chunk : StoredChunk => chunk.id) (documentId + 1 + chunks.length) chunks :=
  ⟨h.chunk_ids ▸ List.nodup_range', fun _ hchunk => (h.chunk_id_mem hchunk).2⟩

theorem keyed_document (h : UploadAdds document chunks documentId) :
    Table.Keyed StoredDocument.id (documentId + 1 + chunks.length) document.toList := by
  constructor
  · cases document with
    | none => exact List.nodup_nil
    | some row => exact List.nodup_singleton _
  · intro row hrow
    rw [h.document_id row (Option.mem_toList.mp hrow)]
    omega

end UploadAdds

theorem uploadDocument_refused_document {limits : UploadLimits} {attempt : UploadAttempt}
    {request : UploadRequest} (h : ¬AcceptedUpload limits attempt request) (filePath : String)
    (documentId : ℕ) :
    (ContextLens.uploadDocument limits attempt request filePath documentId).document = none := by
  rw [ContextLens.uploadDocument]
  split_ifs with hoverlap hextension hsize
  · rfl
  · rfl
  · cases hwrite : attempt.raises .writeFile with
    | some e => rfl
    | none => exact absurd ⟨not_le.mp hoverlap, hextension, not_lt.mp hsize, hwrite⟩ h
  · rfl

theorem storedChunks_ids (documentId nextId : ℕ) (chunks : List (ChunkData × List ℚ)) :
    (storedChunks documentId nextId chunks).map (fun chunk => chunk.id) =
      List.range' nextId (storedChunks documentId nextId chunks).length := by
  refine List.ext_getElem (by simp) fun i hi hi' => ?_
  simp [storedChunks]

theorem uploadDocument_adds (limits : UploadLimits) (attempt : UploadAttempt)
    (request : UploadRequest) (filePath : String) (documentId : ℕ) :
    UploadAdds (ContextLens.uploadDocument limits attempt request filePath documentId).document
      (ContextLens.uploadDocument limits attempt request filePath documentId).chunks
      documentId := by
  have hnothing : UploadAdds none [] documentId :=
    ⟨fun _ hrow => absurd hrow (Option.not_mem_none _),
      fun _ hrow => absurd hrow (Option.not_mem_none _),
      fun _ hrow => absurd hrow (Option.not_mem_none _), fun hne => absurd rfl hne,
      fun _ hchunk => absurd hchunk List.not_mem_nil, rfl, rfl⟩
  by_cases haccepted : AcceptedUpload limits attempt request
  · rw [uploadDocument_accepted haccepted]
    rcases ingestTextFile_cases haccepted (flushedDocument request filePath documentId) with
      ⟨e, hoc, -⟩ | ⟨e, hoc, -⟩ | ⟨rawText, chunks, hprepared, hoc, -⟩
    · rw [hoc]
      exact hnothing
    · rw [hoc]
      exact
        { hnothing with
          document_id := fun row hrow => by cases hrow; rfl
          document_settled := fun row hrow => by cases hrow; exact DocumentStatus.noConfusion
          processed_iff := fun row hrow => by cases hrow; simp
          document_isSome := fun _ => rfl }
    · rw [hoc]
      obtain ⟨hne, hindices⟩ := prepareChunks_eq_ok haccepted.overlap hprepared
      have hrows : storedChunks documentId (documentId + 1) chunks ≠ [] := by
        simpa [storedChunks] using hne
      exact
        { document_id := fun row hrow => by cases hrow; rfl
          document_settled := fun row hrow => by cases hrow; exact DocumentStatus.noConfusion
          processed_iff := fun row hrow => by cases hrow; exact iff_of_true rfl hrows
          document_isSome := fun _ => rfl
          chunk_document := fun chunk hchunk => by
            obtain ⟨i, hi, rfl⟩ := List.mem_mapIdx.mp hchunk
            rfl
          chunk_ids := storedChunks_ids _ _ _
          numbered := storedChunks_indices _ _ hindices }
  · obtain ⟨e, hremoved⟩ := @uploadDocument_refused _ _ _ filePath documentId haccepted
    rw [uploadDocument_refused_document haccepted, hremoved.chunks]
    exact hnothing

theorem uploadDocument (h : s.Sound) (limits : UploadLimits) (attempt : UploadAttempt)
    (request : UploadRequest) (filePath : String) :
    (s.uploadDocument limits attempt request filePath).1.Sound := by
  have hadds := uploadDocument_adds limits attempt request filePath s.nextId
  rw [ApiStore.uploadDocument]
  generalize ContextLens.uploadDocument limits attempt request filePath s.nextId = outcome at hadds
  have hnext : s.nextId ≤ s.nextId + 1 + outcome.chunks.length := by omega
  -- The chunks of the other documents are the ones they had, and the new ones are its own.
  have hold : ∀ row ∈ s.documents, documentChunks (s.chunks ++ outcome.chunks) row.id =
      documentChunks s.chunks row.id := by
    intro row hrow
    have hnone : documentChunks outcome.chunks row.id = [] := by
      refine List.filter_eq_nil_iff.mpr fun chunk hchunk hown => ?_
      have hown : chunk.documentId = row.id := by simpa using hown
      have hbelow := h.keys.documents.lt_next row hrow
      rw [← hown, hadds.chunk_document chunk hchunk] at hbelow
      exact lt_irrefl _ hbelow
    rw [documentChunks, List.filter_append]
    exact (congrArg _ hnone).trans (List.append_nil _)
  have hnew : documentChunks (s.chunks ++ outcome.chunks) s.nextId = outcome.chunks := by
    have hnone : documentChunks s.chunks s.nextId = [] := by
      refine List.filter_eq_nil_iff.mpr fun chunk hchunk hown => ?_
      have hown : chunk.documentId = s.nextId := by simpa using hown
      exact h.keys.documents.not_mem_next (hown ▸ h.references.chunk_document chunk hchunk)
    have hall : documentChunks outcome.chunks s.nextId = outcome.chunks :=
      List.filter_eq_self.mpr fun chunk hchunk => by simpa using hadds.chunk_document chunk hchunk
    rw [documentChunks, List.filter_append]
    exact (congrArg₂ (· ++ ·) hnone hall).trans (List.nil_append _)
  exact
    { keys := { h.keys.mono hnext with
        documents := h.keys.documents.append hnext hadds.keyed_document fun row hrow =>
          (hadds.document_id row (Option.mem_toList.mp hrow)).ge
        chunks := h.keys.chunks.append hnext hadds.keyed_chunks fun chunk hchunk =>
          (Nat.le_succ _).trans (hadds.chunk_id_mem hchunk).1 }
      references := { h.references with
        chunk_document := (h.references.chunk_document.append_parents _).append
            fun chunk hchunk => by
          obtain ⟨row, hrow⟩ := Option.isSome_iff_exists.mp
            (hadds.document_isSome (List.ne_nil_of_mem hchunk))
          refine List.mem_map.mpr ⟨row, List.mem_append_right _ ?_, ?_⟩
          · exact Option.mem_toList.mpr hrow
          · exact (hadds.document_id row hrow).trans (hadds.chunk_document chunk hchunk).symm
        retrieval_chunk := fun r hr => (h.references.retrieval_chunk r hr).append_parents _ }
      oneRowEach := h.oneRowEach
      documents := fun row hrow => by
        rcases List.mem_append.mp hrow with hin | hin
        · exact (h.documents row hin).of_documentChunks_eq (hold row hin)
        · have hrow := Option.mem_toList.mp hin
          rw [← hadds.document_id row hrow] at hnew
          exact
            { settled := hadds.document_settled row hrow
              processed_iff := by rw [hnew]; exact hadds.processed_iff row hrow
              numbered := by rw [hnew]; exact hadds.numbered }
      configs := h.configs }

/-! ## Runs -/

/-- The row that an update of a run replaces. -/
theorem updateRun_runs {runId : ℕ} (f : TracedRun → TracedRun) {found : TracedRun}
    (hfound : s.runs.find? (fun r => r.run.id = runId) = some found) :
    ∃ before after, s.runs = before ++ found :: after ∧
      (s.updateRun runId f).runs = before ++ f found :: after := by
  obtain ⟨hid, before, after, hruns, hbefore⟩ := List.find?_eq_some_iff_append.mp hfound
  refine ⟨before, after, hruns, ?_⟩
  show (s.runs.replaceF fun r => if r.run.id = runId then some (f r) else none) = _
  rw [hruns]
  clear hruns
  induction before with
  | nil =>
      rw [List.nil_append, List.replaceF_cons]
      simp only [if_pos (of_decide_eq_true hid)]
      rfl
  | cons r before ih =>
      have hother : ¬r.run.id = runId := by simpa using hbefore r List.mem_cons_self
      rw [List.cons_append, List.replaceF_cons]
      simp only [if_neg hother]
      rw [ih fun r' hr' => hbefore r' (List.mem_cons_of_mem r hr')]
      rfl

/-- A column that the update leaves alone. -/
theorem map_updateRun {κ : Type} {runId : ℕ} {f : TracedRun → TracedRun} {found : TracedRun}
    (hfound : s.runs.find? (fun r => r.run.id = runId) = some found) {column : TracedRun → κ}
    (hcolumn : column (f found) = column found) :
    (s.updateRun runId f).runs.map column = s.runs.map column := by
  obtain ⟨before, after, hruns, hmoved⟩ := updateRun_runs f hfound
  rw [hruns, hmoved, List.map_append, List.map_cons, hcolumn, List.map_append, List.map_cons]

/-- A run is moved: its keys stay, its retrieval rows refer to stored chunks, and it has one
row of each kind at most. -/
theorem updateRun (h : s.Sound) {runId : ℕ} {f : TracedRun → TracedRun} {found : TracedRun}
    (hfound : s.runs.find? (fun r => r.run.id = runId) = some found)
    (hid : (f found).run.id = found.run.id)
    (hqueryCase : (f found).queryCaseId = found.queryCaseId)
    (hpipelineConfig : (f found).pipelineConfigId = found.pipelineConfigId)
    (hretrieval : s.RetrievalRefers (f found).run.retrievalResults)
    (hone : OneRowEach (f found).run) : (s.updateRun runId f).Sound := by
  obtain ⟨before, after, hruns, hmoved⟩ := updateRun_runs f hfound
  have hids : (s.updateRun runId f).runs.map (fun r => r.run.id) = s.runs.map fun r => r.run.id :=
    map_updateRun hfound hid
  have hrow : ∀ P : TracedRun → Prop, P (f found) → (∀ r ∈ s.runs, P r) →
      ∀ r ∈ (s.updateRun runId f).runs, P r := by
    intro P hnew hold r hr
    rw [hmoved, List.mem_append, List.mem_cons] at hr
    rcases hr with hr | rfl | hr
    · exact hold r (hruns ▸ List.mem_append_left _ hr)
    · exact hnew
    · exact hold r (hruns ▸ List.mem_append_right _ (List.mem_cons_of_mem _ hr))
  exact
    { keys := { h.keys with runs := h.keys.runs.of_map_eq (map_updateRun hfound hid) }
      references :=
        { h.references with
          run_queryCase := h.references.run_queryCase.of_map_eq (map_updateRun hfound hqueryCase)
          run_pipelineConfig :=
            h.references.run_pipelineConfig.of_map_eq (map_updateRun hfound hpipelineConfig)
          retrieval_chunk := hrow _ hretrieval h.references.retrieval_chunk
          diagnosisSession_run :=
            h.references.diagnosisSession_run.of_keys_eq (map_updateRun hfound hid)
          job_run := fun job hjob id hrun =>
            hids ▸ h.references.job_run job hjob id hrun }
      oneRowEach := hrow (fun r => OneRowEach r.run) hone h.oneRowEach
      documents := h.documents
      configs := h.configs }

/-- A run with the next key. -/
theorem insertRun (h : s.Sound) {run : Run} {request : RunCreateRequest} (createdAt : ℕ)
    (hid : run.id = s.nextId)
    (hqueryCase : request.queryCaseId ∈ s.queryCases.map fun qc => qc.id)
    (hpipelineConfig : request.pipelineConfigId ∈ s.pipelineConfigs.map PipelineConfigRow.id)
    (hretrieval : s.RetrievalRefers run.retrievalResults) (hone : OneRowEach run) :
    (s.insertRun run request createdAt).Sound :=
  { h with
    keys := { h.keys.mono (Nat.le_succ _) with runs := h.keys.runs.concat hid }
    references :=
      { h.references with
        run_queryCase := h.references.run_queryCase.append
          (List.forall_mem_singleton.mpr hqueryCase)
        run_pipelineConfig := h.references.run_pipelineConfig.append
          (List.forall_mem_singleton.mpr hpipelineConfig)
        retrieval_chunk := List.forall_mem_append.mpr
          ⟨h.references.retrieval_chunk, List.forall_mem_singleton.mpr hretrieval⟩
        diagnosisSession_run := h.references.diagnosisSession_run.append_parents _
        job_run := fun job hjob runId hrun => by
          rw [ApiStore.insertRun, List.map_append]
          exact List.mem_append_left _ (h.references.job_run job hjob runId hrun) }
    oneRowEach := List.forall_mem_append.mpr ⟨h.oneRowEach, List.forall_mem_singleton.mpr hone⟩ }

/-- What a step of a session does to its run: nothing, or the commit of what is pending. -/
theorem session_run {before after : SessionState} {action : SessionAction}
    (h : before.step action = some after) :
    after.run = before.run ∨ ∃ i changes, action = .commit i ∧
      (before.sessions[i]?).bind Session.pending = some changes ∧
      before.run.commit changes = .ok after.run := by
  cases action with
  | start kind =>
      rw [SessionState.step] at h
      split_ifs at h
      · exact Or.inl (by rw [← Option.some.inj h])
      · exact Or.inl (by rw [← Option.some.inj h])
  | work i =>
      simp only [SessionState.step] at h
      split at h
      · split at h
        · exact Or.inl (by rw [← Option.some.inj h])
        · exact Or.inl (by rw [← Option.some.inj h, SessionState.close])
      · cases h
  | commit i =>
      simp only [SessionState.step] at h
      split at h
      · rename_i hsession
        split at h
        · rename_i hcommit
          rw [← Option.some.inj h]
          exact Or.inr ⟨i, _, rfl, by rw [hsession]; rfl, hcommit⟩
        · exact Or.inl (by rw [← Option.some.inj h, SessionState.close])
      · cases h
  | rollback i =>
      rw [SessionState.step] at h
      split_ifs at h
      exact Or.inl (by rw [← Option.some.inj h, SessionState.close])

/-- The chunks of the rows of an admitted commit are stored. -/
theorem retrievalRefers_of_admitted {r : TracedRun} {action : SessionAction} {i : ℕ}
    {changes : PendingChanges} (haction : s.admitted r action = .commit i)
    (hpending : (r.sessions[i]?).bind Session.pending = some changes) :
    s.RetrievalRefers changes.retrievalResults := by
  cases action with
  | start kind => cases haction
  | work j => cases haction
  | rollback j => cases haction
  | commit j =>
      simp only [ApiStore.admitted] at haction
      split at haction
      · rename_i changes' hpending'
        split_ifs at haction with hall
        cases haction
        obtain rfl : changes' = changes := Option.some.inj (hpending'.symm.trans hpending)
        intro row hrow
        obtain ⟨chunk, hchunk, hid⟩ := List.any_eq_true.mp (List.all_eq_true.mp hall row hrow)
        exact List.mem_map.mpr ⟨chunk, hchunk, of_decide_eq_true hid⟩
      · rename_i hnone
        cases haction
        rw [hpending] at hnone
        cases hnone

theorem afterSession (h : s.Sound) {runId : ℕ} {action : SessionAction} {t : ApiStore}
    (hstep : s.afterSession runId action = some t) : t.Sound := by
  rw [ApiStore.afterSession] at hstep
  cases hfound : s.runs.find? fun r => r.run.id = runId with
  | none =>
      rw [hfound] at hstep
      cases hstep
  | some found =>
      simp only [hfound] at hstep
      split at hstep
      · cases hstep
      · obtain ⟨after, hmoved, rfl⟩ := Option.map_eq_some_iff.mp hstep
        have hin := List.mem_of_find?_eq_some hfound
        have hone := h.oneRowEach found hin
        refine h.updateRun hfound (rowsKept_of_session hmoved).1 rfl rfl ?_ ?_
        · rcases session_run hmoved with hsame | ⟨i, changes, haction, hpending, hcommit⟩
          · rw [hsame]
            exact h.references.retrieval_chunk found hin
          · rw [Run.commit_eq_ok hcommit]
            refine (h.references.retrieval_chunk found hin).append ?_
            exact retrievalRefers_of_admitted haction hpending
        · rcases session_run hmoved with hsame | ⟨i, changes, -, -, hcommit⟩
          · rw [hsame]
            exact hone
          · exact ⟨(Run.commit_length_le_one hcommit hone.generation hone.evaluation).1,
              (Run.commit_length_le_one hcommit hone.generation hone.evaluation).2⟩

theorem requeue (h : s.Sound) (deps : PipelineEnv) (call : RequeueCall) :
    (s.requeue deps call).1.Sound := by
  have hmoved := requeueFullRun_run (s.queueWorld deps call.runId) call
  have hpushed := requeueFullRun_jobs (s.queueWorld deps call.runId) call
  rw [ApiStore.requeue]
  generalize requeueFullRun (s.queueWorld deps call.runId) call = result at hmoved hpushed
  obtain ⟨world, response⟩ := result
  -- The jobs are about stored runs: the pushed one is about the run that was found.
  have hjobs : s.JobsRefer world.jobs := by
    rcases hpushed with hsame | ⟨run, hrun, -, hnew⟩
    · exact hsame ▸ h.references.job_run
    · rw [show world.jobs = _ from hnew]
      refine List.forall_mem_append.mpr ⟨h.references.job_run, List.forall_mem_singleton.mpr ?_⟩
      intro runId hid
      obtain ⟨found, hfound, -⟩ := Option.map_eq_some_iff.mp hrun
      refine List.mem_map.mpr ⟨found, List.mem_of_find?_eq_some hfound, ?_⟩
      rw [← Option.some.inj hid]
      simpa using List.find?_some hfound
  cases hfound : s.runs.find? fun r => r.run.id = call.runId with
  | none =>
      have hnone : world.run = none := by
        rcases hmoved with hrun | hrun <;> rw [show world.run = _ from hrun] <;>
          simp [ApiStore.queueWorld, hfound]
      simp only [hnone]
      exact h.withQueue hjobs _
  | some found =>
      have hin := List.mem_of_find?_eq_some hfound
      obtain ⟨run, hrun, hrows⟩ : ∃ run, world.run = some run ∧
          run = { found.run with status := run.status } := by
        rcases hmoved with hrun | hrun
        · exact ⟨found.run,
            by rw [show world.run = _ from hrun]; simp [ApiStore.queueWorld, hfound], rfl⟩
        · exact ⟨normalizeFailedRunForResume found.run,
            by rw [show world.run = _ from hrun]; simp [ApiStore.queueWorld, hfound],
            normalizeFailedRunForResume_eq found.run⟩
      simp only [hrun]
      have hupdated : (s.updateRun call.runId fun r => { r with run := run }).Sound := by
        refine h.updateRun hfound ?_ rfl rfl ?_ ?_
        · rw [hrows]
        · rw [hrows]
          exact h.references.retrieval_chunk found hin
        · rw [hrows]
          exact { h.oneRowEach found hin with }
      refine hupdated.withQueue (fun job hjob runId hid => ?_) _
      have hkept : (fun r : TracedRun => r.run.id) { found with run := run } = found.run.id := by
        rw [hrows]
      rw [map_updateRun hfound hkept]
      exact hjobs job hjob runId hid

/-- A request whose prerequisites are met names a stored query case and a stored config. -/
theorem registry_found {settings : Settings} {request : RunCreateRequest} {mode : EvalMode}
    {found : QueryCaseTexts × ℕ}
    (hvalid : validateRunCreatePrerequisites s.registry settings request mode = .ok found) :
    ∃ qc ∈ s.queryCases, ∃ row ∈ s.pipelineConfigs, qc.id = request.queryCaseId ∧
      row.id = request.pipelineConfigId ∧
      found = ({ queryText := qc.queryText, expectedAnswer := qc.expectedAnswer }, row.topK) := by
  obtain ⟨hqueryCase, hconfig⟩ := validateRunCreatePrerequisites_eq_ok hvalid
  obtain ⟨qc, hqc, htexts⟩ := Option.map_eq_some_iff.mp hqueryCase
  obtain ⟨row, hrow, htopK⟩ := Option.map_eq_some_iff.mp hconfig
  exact ⟨qc, List.mem_of_find?_eq_some hqc, row, List.mem_of_find?_eq_some hrow,
    by simpa using List.find?_some hqc, by simpa using List.find?_some hrow,
    Prod.ext htexts.symm htopK.symm⟩

/-- The keys that the request names are stored. -/
theorem registry_keys {settings : Settings} {request : RunCreateRequest} {mode : EvalMode}
    {found : QueryCaseTexts × ℕ}
    (hvalid : validateRunCreatePrerequisites s.registry settings request mode = .ok found) :
    request.queryCaseId ∈ s.queryCases.map (fun qc => qc.id) ∧
      request.pipelineConfigId ∈ s.pipelineConfigs.map PipelineConfigRow.id := by
  obtain ⟨qc, hqc, row, hrow, hqcId, hrowId, -⟩ := registry_found hvalid
  exact ⟨List.mem_map.mpr ⟨qc, hqc, hqcId⟩, List.mem_map.mpr ⟨row, hrow, hrowId⟩⟩

/-- A search over the stored chunks finds stored chunks. -/
theorem retrievalRefers_searchChunks (s : ApiStore) (env : PipelineEnv)
    (hchunks : env.chunks = s.chunks.map StoredChunk.toChunk) (documentId : Option ℕ) :
    s.RetrievalRefers (PipelineEnv.retrievalRows (env.searchChunks documentId)) := by
  intro row hrow
  obtain ⟨chunk, hchunk, hid⟩ := PipelineEnv.chunk_of_mem_retrievalRows hrow
  rw [hchunks] at hchunk
  obtain ⟨stored, hstored, rfl⟩ := List.mem_map.mp hchunk
  exact List.mem_map.mpr ⟨stored, hstored, hid⟩

theorem createHeuristicRun (h : s.Sound) (deps : PipelineEnv) (attempt : HeuristicAttempt)
    (request : RunCreateRequest) (createdAt : ℕ) :
    (s.createHeuristicRun deps attempt request createdAt).1.Sound := by
  simp only [ApiStore.createHeuristicRun, createAndExecuteRunFromIds]
  cases hvalid : validateRunCreatePrerequisites s.registry (s.environment deps).settings request
      .heuristic with
  | error e => exact h
  | ok found =>
      cases attempt.abortAt .inCreation with
      | error e => exact h
      | ok u =>
          obtain ⟨hqueryCase, hconfig⟩ := registry_keys hvalid
          have hrefers := retrievalRefers_searchChunks s ((s.environment deps).forRun found) rfl
            request.documentId
          have hone : OneRowEach (createRun s.nextId .running none) :=
            ⟨Nat.zero_le 1, Nat.zero_le 1⟩
          rcases executeHeuristicRun_cases ((s.environment deps).forRun found) attempt
              request.documentId s.nextId with ⟨hrun, -⟩ | ⟨hrun, -⟩ | ⟨hrun, -⟩ <;>
            simp only [hrun]
          · exact h.insertRun createdAt rfl hqueryCase hconfig (.nil _ _ _) hone
          · exact h.insertRun createdAt rfl hqueryCase hconfig hrefers { hone with }
          · exact h.insertRun createdAt rfl hqueryCase hconfig hrefers
              ⟨Nat.zero_le 1, le_refl 1⟩

theorem createFullRun (h : s.Sound) (deps : PipelineEnv) (mode : FullEvalMode)
    (requestId : Option String) (push : RedisReply) (error : String) (jobId : ℕ)
    (request : RunCreateRequest) (createdAt : ℕ) :
    (s.createFullRun deps mode requestId push error jobId request createdAt).1.Sound := by
  rw [ApiStore.createFullRun]
  cases hvalid : validateRunCreatePrerequisites s.registry deps.settings request
      (evalModeOf mode) with
  | error e => exact h
  | ok found =>
      obtain ⟨hqueryCase, hconfig⟩ := registry_keys hvalid
      have hone : OneRowEach (ContextLens.createFullRun s.nextId mode requestId) :=
        ⟨Nat.zero_le 1, Nat.zero_le 1⟩
      have hjob : ∀ run : Run, run.id = s.nextId →
          ∀ runId ∈ (fullRunJob jobId s.nextId request.documentId createdAt).runIdArg,
            runId ∈ (s.insertRun run request createdAt).runs.map fun r => r.run.id := by
        intro run hid runId hrun
        rw [← Option.some.inj hrun, ApiStore.insertRun, List.map_append, ← hid]
        exact List.mem_append_right _ (List.mem_singleton.mpr rfl)
      have hinserted : ∀ run : Run, run.id = s.nextId → run.retrievalResults = [] →
          OneRowEach run → (s.insertRun run request createdAt).Sound := by
        intro run hid hrows hrun
        refine h.insertRun createdAt hid hqueryCase hconfig ?_ hrun
        rw [hrows]
        exact .nil _ _ _
      have hpushed : ∀ run : Run, run.id = s.nextId → run.retrievalResults = [] →
          OneRowEach run → Sound { s.insertRun run request createdAt with
            jobs := s.jobs ++ [fullRunJob jobId s.nextId request.documentId createdAt] } :=
        fun run hid hrows hrun => (hinserted run hid hrows hrun).withQueue
          (List.forall_mem_append.mpr ⟨(hinserted run hid hrows hrun).references.job_run,
            List.forall_mem_singleton.mpr (hjob run hid)⟩) _
      cases push with
      | ok => exact hpushed _ rfl rfl hone
      | error applied =>
          cases applied with
          | true => exact hpushed _ rfl rfl { hone with }
          | false => exact hinserted _ rfl rfl { hone with }

/-- **One event keeps the store sound.** -/
theorem step {deps : PipelineEnv} {limits : UploadLimits} (h : s.Sound) {event : ApiEvent}
    {t : ApiStore} (hstep : (apiSystem deps limits).step s event = some t) : t.Sound := by
  cases event with
  | call call =>
      obtain rfl : s.afterCall deps limits call = t := Option.some.inj hstep
      cases call with
      | uploadDocument attempt request filePath => exact h.uploadDocument limits attempt request _
      | deleteDocument documentId => exact h.deleteDocument documentId
      | createDataset name description metadataJson => exact h.createDataset name description _
      | updateDataset datasetId patch => exact h.updateDataset datasetId patch
      | deleteDataset datasetId => exact h.deleteDataset datasetId
      | createQueryCase body => exact h.createQueryCase body
      | updateQueryCase queryCaseId patch => exact h.updateQueryCase queryCaseId patch
      | deleteQueryCase queryCaseId => exact h.deleteQueryCase queryCaseId
      | createPipelineConfig row => exact h.createPipelineConfig row
      | updatePipelineConfig configId patch => exact h.updatePipelineConfig configId patch
      | deletePipelineConfig configId => exact h.deletePipelineConfig configId
      | createHeuristicRun attempt request createdAt =>
          exact h.createHeuristicRun deps attempt request createdAt
      | createFullRun mode requestId push error jobId request createdAt =>
          exact h.createFullRun deps mode requestId push error jobId request createdAt
      | requeue call => exact h.requeue deps call
      | createDiagnosisSession runId mode startedAt sessionKey synthetic now =>
          exact h.createDiagnosisSession runId mode startedAt sessionKey synthetic now
      | patchDiagnosisSession runId sessionId patch =>
          exact h.patchDiagnosisSession runId sessionId patch
  | session runId action => exact h.afterSession hstep
  | queue change =>
      obtain rfl : s.afterQueueChange change = t := Option.some.inj hstep
      exact h.afterQueueChange change

/-- Along a run of the system. -/
theorem exec {deps : PipelineEnv} {limits : UploadLimits} (h : s.Sound) {events : List ApiEvent}
    {t : ApiStore} (hrun : (apiSystem deps limits).exec s events = some t) : t.Sound :=
  LabelledSystem.exec_invariant (G := fun _ _ => True)
    (fun _ _ _ hs _ hstep => hs.step hstep) h (LabelledSystem.meets_true s events) hrun

end Sound

end ApiStore

/-! ## Runs are never taken back

The deletes of the registry are refused while a cascade would reach a run, and no update
reaches the columns that say what a run is a run of. -/

/-- What a run is a run of. -/
def TracedRun.identity (r : TracedRun) : ℕ × ℕ × ℕ × ℕ :=
  (r.run.id, r.queryCaseId, r.pipelineConfigId, r.createdAt)

section

variable {s t : ApiStore} {deps : PipelineEnv} {limits : UploadLimits}

theorem identity_requeue (deps : PipelineEnv) (call : RequeueCall) :
    (s.requeue deps call).1.runs.map TracedRun.identity = s.runs.map TracedRun.identity := by
  have hmoved := requeueFullRun_run (s.queueWorld deps call.runId) call
  rw [ApiStore.requeue]
  generalize requeueFullRun (s.queueWorld deps call.runId) call = result at hmoved
  obtain ⟨world, response⟩ := result
  cases hrun : world.run with
  | none =>
      simp only [hrun]
  | some run =>
      simp only [hrun]
      have hin : (s.runs.find? fun r => r.run.id = call.runId).isSome := by
        by_contra hnone
        rw [Option.not_isSome_iff_eq_none] at hnone
        rcases hmoved with hsame | hsame <;> rw [show world.run = _ from hsame] at hrun <;>
          simp [ApiStore.queueWorld, hnone] at hrun
      obtain ⟨found, hfound⟩ := Option.isSome_iff_exists.mp hin
      have hid : run.id = found.run.id := by
        rcases hmoved with hsame | hsame
        · have hsome := hrun.symm.trans hsame
          simp only [ApiStore.queueWorld, hfound, Option.map_some, Option.some.injEq] at hsome
          rw [hsome]
        · have hsome := hrun.symm.trans hsame
          simp only [ApiStore.queueWorld, hfound, Option.map_some, Option.some.injEq] at hsome
          rw [hsome, normalizeFailedRunForResume_eq]
      refine ApiStore.Sound.map_updateRun hfound ?_
      simp only [TracedRun.identity, hid]

/-- One event adds runs behind the ones that are there, or none. -/
theorem identity_step {event : ApiEvent} (hstep : (apiSystem deps limits).step s event = some t) :
    s.runs.map TracedRun.identity <+: t.runs.map TracedRun.identity := by
  have hsame : ∀ {after : ApiStore}, after.runs = s.runs →
      s.runs.map TracedRun.identity <+: after.runs.map TracedRun.identity := by
    intro after hruns
    rw [hruns]
  have hmore : ∀ {after : ApiStore} (new : List TracedRun), after.runs = s.runs ++ new →
      s.runs.map TracedRun.identity <+: after.runs.map TracedRun.identity := by
    intro after new hruns
    rw [hruns, List.map_append]
    exact List.prefix_append _ _
  cases event with
  | call call =>
      obtain rfl : s.afterCall deps limits call = t := Option.some.inj hstep
      cases call with
      | uploadDocument attempt request filePath => exact hsame rfl
      | deleteDocument documentId =>
          rw [ApiStore.afterCall, ApiStore.deleteDocument]
          split
          · exact hsame rfl
          · rw [ApiStore.deleteDocuments, ApiStore.deleteChunks, List.map_map]
            exact List.prefix_refl _
      | createDataset name description metadataJson => exact hsame rfl
      | updateDataset datasetId patch =>
          rw [ApiStore.afterCall, ApiStore.updateDataset]
          split <;> exact hsame rfl
      | deleteDataset datasetId => exact hsame (deleteDataset_runs datasetId)
      | createQueryCase body =>
          rw [ApiStore.afterCall, ApiStore.createQueryCase]
          split <;> exact hsame rfl
      | updateQueryCase queryCaseId patch =>
          rw [ApiStore.afterCall, ApiStore.updateQueryCase]
          split
          · exact hsame rfl
          · split_ifs <;> exact hsame rfl
      | deleteQueryCase queryCaseId => exact hsame (deleteQueryCase_runs queryCaseId)
      | createPipelineConfig row =>
          rw [ApiStore.afterCall, ApiStore.createPipelineConfig]
          split <;> exact hsame rfl
      | updatePipelineConfig configId patch =>
          rw [ApiStore.afterCall, ApiStore.updatePipelineConfig]
          split
          · exact hsame rfl
          · split <;> exact hsame rfl
      | deletePipelineConfig configId =>
          rw [ApiStore.afterCall, ApiStore.deletePipelineConfig]
          split
          · exact hsame rfl
          · split_ifs <;> exact hsame rfl
      | createHeuristicRun attempt request createdAt =>
          simp only [ApiStore.afterCall, ApiStore.createHeuristicRun]
          split
          · exact hsame rfl
          · exact hmore _ rfl
      | createFullRun mode requestId push error jobId request createdAt =>
          rw [ApiStore.afterCall, ApiStore.createFullRun]
          split
          · exact hsame rfl
          · cases push <;> exact hmore _ rfl
      | requeue call =>
          rw [ApiStore.afterCall, identity_requeue]
      | createDiagnosisSession runId mode startedAt sessionKey synthetic now =>
          rw [ApiStore.afterCall, ApiStore.createDiagnosisSession]
          split <;> exact hsame rfl
      | patchDiagnosisSession runId sessionId patch =>
          rw [ApiStore.afterCall, ApiStore.patchDiagnosisSession]
          split <;> exact hsame rfl
  | session runId action =>
      change s.afterSession runId action = some t at hstep
      rw [ApiStore.afterSession] at hstep
      cases hfound : s.runs.find? fun r => r.run.id = runId with
      | none =>
          rw [hfound] at hstep
          cases hstep
      | some found =>
          simp only [hfound] at hstep
          split at hstep
          · cases hstep
          · obtain ⟨after, hmoved, rfl⟩ := Option.map_eq_some_iff.mp hstep
            rw [ApiStore.Sound.map_updateRun hfound]
            simp only [TracedRun.identity, (rowsKept_of_session hmoved).1]
  | queue change =>
      obtain rfl : s.afterQueueChange change = t := Option.some.inj hstep
      cases change <;> exact hsame rfl

/-- **Runs are only ever added**: in every order of calls, steps of sessions and changes of the
queue no run is deleted, reordered, or made a run of something else. -/
theorem runs_only_added {events : List ApiEvent}
    (hrun : (apiSystem deps limits).exec s events = some t) :
    s.runs.map TracedRun.identity <+: t.runs.map TracedRun.identity :=
  LabelledSystem.exec_invariant (G := fun _ _ => True)
    (I := fun u => s.runs.map TracedRun.identity <+: u.runs.map TracedRun.identity)
    (fun _ _ _ hs _ hstep => hs.trans (identity_step hstep)) (List.prefix_refl _)
    (LabelledSystem.meets_true s events) hrun

/-- The run of the note is still there when its query case and its config were to be deleted
and its document was. -/
theorem note_run_survives_deletes :
    ∃ s t, (apiSystem oneChunkEnv defaultLimits).exec .empty evaluatedNote = some s ∧
      (apiSystem oneChunkEnv defaultLimits).exec s [.call (.deleteDataset 1),
        .call (.deleteQueryCase 2), .call (.deletePipelineConfig 3),
        .call (.deleteDocument 4)] = some t ∧
      s.runs.map TracedRun.identity <+: t.runs.map TracedRun.identity := by
  obtain ⟨s, hs, -⟩ := Option.map_eq_some_iff.mp evaluatedNote_rows
  have hrun : (apiSystem oneChunkEnv defaultLimits).exec s [.call (.deleteDataset 1),
      .call (.deleteQueryCase 2), .call (.deletePipelineConfig 3),
      .call (.deleteDocument 4)] = some _ := rfl
  exact ⟨s, _, hs, hrun, runs_only_added hrun⟩

end

/-- **Every store that the API, its workers and its queue can reach is sound**: in every order
of calls, steps of sessions and changes of the queue. -/
theorem reachable_store_sound {deps : PipelineEnv} {limits : UploadLimits}
    {events : List ApiEvent} {t : ApiStore}
    (hrun : (apiSystem deps limits).exec .empty events = some t) : t.Sound :=
  ApiStore.sound_empty.exec hrun

/-- The store of the note. -/
theorem note_store_sound :
    ∃ t, (apiSystem oneChunkEnv defaultLimits).exec .empty evaluatedNote = some t ∧ t.Sound := by
  obtain ⟨t, ht, -⟩ := Option.map_eq_some_iff.mp evaluatedNote_rows
  exact ⟨t, ht, reachable_store_sound ht⟩

end ContextLens
