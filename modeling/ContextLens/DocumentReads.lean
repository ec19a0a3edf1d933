import ContextLens.StoreIntegrity

/-!
# Reading documents back

The read endpoints of `app/api/documents.py`, and `embed_texts` of `app/services/embedder.py`,
which gives the chunks of an upload their vectors.

Only its own delete reaches a document and its chunks (`Keeps.exec`).  What an upload answers with
can therefore be read back until then (`uploaded_document_reads_back`), and never again afterwards
(`deleted_document_stays_gone`).
-/

namespace ContextLens

open Foundations

/-! ## Embeddings -/

/-- An item of an embeddings response. -/
structure EmbeddingItem where
  index : ℕ
  embedding : List ℚ

/-- The settings of the embedder, and the call of the API. -/
structure Embedder where
  openaiApiKey : String
  embeddingModelName : String
  create : String → List Str → Except PyException (List EmbeddingItem)

/-- `_model_name`. -/
def Embedder.modelName (embedder : Embedder) : String :=
  let name := Python.strip embedder.embeddingModelName
  if name = "" ∨ "all-".toList <+: name.toList ∨ "sentence-transformers/".toList <+: name.toList ∨
      "MiniLM".toList <:+: name.toList then
    "text-embedding-3-small"
  else name

/-- `_client`. -/
def Embedder.client (embedder : Embedder) : Except PyException Unit :=
  if Python.strip embedder.openaiApiKey = "" then
    .error (.other "openai_api_key / OPENAI_API_KEY is not set. Required for embeddings.")
  else .ok ()

/-- `embed_texts`. -/
def Embedder.embedTexts (embedder : Embedder) (texts : List Str) :
    Except PyException (List (List ℚ)) :=
  if texts = [] then .ok []
  else do
    embedder.client
    let data ← embedder.create embedder.modelName texts
    return (data.insertionSort fun a b => a.index ≤ b.index).map EmbeddingItem.embedding

/-- Asked for the model of the embedder, the API answers with the vector of each text under the
place of the text, in any order. -/
def Embedder.AnswersByIndex (embedder : Embedder) (vector : Str → List ℚ) : Prop :=
  ∀ texts data, embedder.create embedder.modelName texts = .ok data →
    data.Perm (texts.mapIdx fun i text => ⟨i, vector text⟩)

/-- **The vectors are those of the texts**, in whatever order the API answers. -/
theorem Embedder.embedTexts_eq {embedder : Embedder} {vector : Str → List ℚ}
    (h : embedder.AnswersByIndex vector) {texts : List Str} {vectors : List (List ℚ)}
    (hvectors : embedder.embedTexts texts = .ok vectors) : vectors = texts.map vector := by
  rw [Embedder.embedTexts] at hvectors
  split_ifs at hvectors with hempty
  · rw [hempty, ← Except.ok.inj hvectors]
    rfl
  obtain ⟨-, -, hrest⟩ := except_bind_eq_ok hvectors
  obtain ⟨data, hdata, hrest⟩ := except_bind_eq_ok hrest
  have hperm := h _ _ hdata
  have hsorted : data.insertionSort (fun a b => a.index ≤ b.index) =
      texts.mapIdx fun i text => ⟨i, vector text⟩ :=
    Python.insertionSort_of_perm_mapIdx (fun _ _ => rfl) hperm
  rw [← Except.ok.inj hrest, hsorted]
  refine List.ext_getElem (by simp) fun i hi hi' => ?_
  simp

/-! ## The read endpoints -/

/-- `DocumentResponse`. -/
structure DocumentResponse where
  id : ℕ
  title : String
  sourceType : String
  status : DocumentStatus
  metadataJson : Option JsonObject

/-- `ChunkResponse`. -/
structure ChunkResponse where
  id : ℕ
  documentId : ℕ
  content : String
  chunkIndex : ℕ
  startChar : ℕ
  endChar : ℕ
  metadataJson : Option JsonObject

def StoredDocument.response (document : StoredDocument) : DocumentResponse where
  id := document.id
  title := document.title
  sourceType := document.sourceType
  status := document.status
  metadataJson := document.metadataJson

def StoredChunk.response (chunk : StoredChunk) : ChunkResponse where
  id := chunk.id
  documentId := chunk.documentId
  content := chunk.content
  chunkIndex := chunk.chunkIndex
  startChar := chunk.startChar
  endChar := chunk.endChar
  metadataJson := chunk.metadataJson

def documentNotFound : HttpException := { statusCode := 404, detail := "Document not found." }

namespace ApiStore

variable (s : ApiStore)

/-- The row of `documents` with an id. -/
def documentRow (documentId : ℕ) : Option StoredDocument :=
  s.documents.find? fun document => document.id = documentId

/-- `get_document`. -/
def getDocument (documentId : ℕ) : Except HttpException DocumentResponse :=
  match s.documentRow documentId with
  | none => .error documentNotFound
  | some document => .ok document.response

/-- `get_document_chunks`. -/
def getDocumentChunks (documentId : ℕ) : Except HttpException (List ChunkResponse) :=
  match s.documentRow documentId with
  | none => .error documentNotFound
  | some _ => .ok ((Sql.orderBy (fun a b => decide (a.chunkIndex ≤ b.chunkIndex))
      (documentChunks s.chunks documentId)).map StoredChunk.response)

end ApiStore

/-! ## What reaches a document -/

/-- A document and its chunks are as they were, and what is new has a new key. -/
structure Keeps (documentId : ℕ) (s t : ApiStore) : Prop where
  row : t.documentRow documentId = s.documentRow documentId
  chunks : documentChunks t.chunks documentId = documentChunks s.chunks documentId
  nextId : s.nextId ≤ t.nextId
  fresh : ∀ chunk ∈ t.chunks, chunk ∈ s.chunks ∨ s.nextId ≤ chunk.id

namespace Keeps

variable {documentId : ℕ} {s t u : ApiStore} {deps : PipelineEnv} {limits : UploadLimits}

theorem refl (documentId : ℕ) (s : ApiStore) : Keeps documentId s s :=
  ⟨rfl, rfl, Nat.le_refl _, fun _ => Or.inl⟩

theorem trans (h : Keeps documentId s t) (h' : Keeps documentId t u) : Keeps documentId s u where
  row := h'.row.trans h.row
  chunks := h'.chunks.trans h.chunks
  nextId := Nat.le_trans h.nextId h'.nextId
  fresh chunk hchunk := by
    rcases h'.fresh chunk hchunk with hold | hnew
    · exact h.fresh chunk hold
    · exact Or.inr (Nat.le_trans h.nextId hnew)

/-- A change of other tables. -/
theorem of_eq (hdocuments : t.documents = s.documents) (hchunks : t.chunks = s.chunks)
    (hnext : s.nextId ≤ t.nextId) : Keeps documentId s t where
  row := by rw [ApiStore.documentRow, ApiStore.documentRow, hdocuments]
  chunks := by rw [hchunks]
  nextId := hnext
  fresh chunk hchunk := Or.inl (hchunks ▸ hchunk)

/-- An upload adds a document and chunks with new keys. -/
theorem uploadDocument (hbelow : documentId < s.nextId) (limits : UploadLimits)
    (attempt : UploadAttempt) (request : UploadRequest) (filePath : String) :
    Keeps documentId s (s.uploadDocument limits attempt request filePath).1 := by
  have hadds := ApiStore.Sound.uploadDocument_adds limits attempt request filePath s.nextId
  rw [ApiStore.uploadDocument]
  generalize ContextLens.uploadDocument limits attempt request filePath s.nextId = outcome at hadds
  have hnext : s.nextId ≠ documentId := Nat.ne_of_gt hbelow
  constructor
  · have hnone : (outcome.document.toList.find? fun document => document.id = documentId) =
        none := by
      rw [List.find?_eq_none]
      intro row hrow
      rw [hadds.document_id row (Option.mem_toList.mp hrow), decide_eq_true_iff]
      exact hnext
    rw [ApiStore.documentRow, ApiStore.documentRow, List.find?_append, hnone, Option.or_none]
  · have hnone : documentChunks outcome.chunks documentId = [] := by
      refine List.filter_eq_nil_iff.mpr fun chunk hchunk => ?_
      rw [hadds.chunk_document chunk hchunk, decide_eq_true_iff]
      exact hnext
    rw [documentChunks, List.filter_append]
    exact (congrArg _ hnone).trans (List.append_nil _)
  · show s.nextId ≤ s.nextId + 1 + outcome.chunks.length
    omega
  · intro chunk hchunk
    rcases List.mem_append.mp hchunk with hold | hnew
    · exact Or.inl hold
    · exact Or.inr (Nat.le_of_succ_le (hadds.chunk_id_mem hnew).1)

/-- The delete of another document, or of one that is not there. -/
theorem deleteDocument {other : ℕ} (hother : other = documentId → s.documentRow documentId = none) :
    Keeps documentId s (s.deleteDocument other).1 := by
  rw [ApiStore.deleteDocument]
  cases hfound : s.documents.find? fun document => document.id = other with
  | none => exact refl _ _
  | some row =>
      have hne : other ≠ documentId := by
        intro hsame
        have hnone := hother hsame
        rw [ApiStore.documentRow, ← hsame, hfound] at hnone
        cases hnone
      constructor
      · show (s.documents.filter fun document => !decide (document.id = other)).find? _ = _
        rw [ApiStore.documentRow, List.find?_filter]
        congr 1
        funext document
        by_cases hid : document.id = documentId
        · simp [hid, Ne.symm hne]
        · simp [hid]
      · show (s.chunks.filter fun chunk => !s.documents.any fun document =>
          decide (document.id = other) && decide (document.id = chunk.documentId)).filter _ = _
        rw [List.filter_filter, documentChunks]
        refine List.filter_congr fun chunk _ => ?_
        by_cases hown : chunk.documentId = documentId
        · have hspared : (s.documents.any fun document => decide (document.id = other) &&
              decide (document.id = chunk.documentId)) = false := by
            rw [List.any_eq_false]
            intro document _ hboth
            rw [Bool.and_eq_true, decide_eq_true_iff, decide_eq_true_iff] at hboth
            exact hne (hboth.1.symm.trans (hboth.2.trans hown))
          rw [hspared, Bool.not_false, Bool.and_true]
        · rw [decide_eq_false hown, Bool.false_and]
      · exact Nat.le_refl _
      · intro chunk hchunk
        exact Or.inl (List.mem_of_mem_filter hchunk)

/-- **One event**: only its own delete reaches a document. -/
theorem step {event : ApiEvent} (hbelow : documentId < s.nextId)
    (hkept : event = .call (.deleteDocument documentId) → s.documentRow documentId = none)
    (hstep : (apiSystem deps limits).step s event = some t) : Keeps documentId s t := by
  have hsame : ∀ {after : ApiStore}, after.documents = s.documents → after.chunks = s.chunks →
      s.nextId ≤ after.nextId → Keeps documentId s after := of_eq
  cases event with
  | call call =>
      obtain rfl : s.afterCall deps limits call = t := Option.some.inj hstep
      cases call with
      | uploadDocument attempt request filePath =>
          exact uploadDocument hbelow limits attempt request filePath
      | deleteDocument other =>
          refine deleteDocument fun hsame => hkept ?_
          rw [hsame]
      | createDataset name description metadataJson => exact hsame rfl rfl (Nat.le_succ _)
      | updateDataset datasetId patch =>
          rw [ApiStore.afterCall, ApiStore.updateDataset]
          split <;> exact hsame rfl rfl (Nat.le_refl _)
      | deleteDataset datasetId =>
          rw [ApiStore.afterCall, ApiStore.deleteDataset]
          split
          · exact refl _ _
          · split_ifs <;> exact hsame rfl rfl (Nat.le_refl _)
      | createQueryCase body =>
          rw [ApiStore.afterCall, ApiStore.createQueryCase]
          split
          · exact refl _ _
          · exact hsame rfl rfl (Nat.le_succ _)
      | updateQueryCase queryCaseId patch =>
          rw [ApiStore.afterCall, ApiStore.updateQueryCase]
          split
          · exact refl _ _
          · split_ifs <;> exact hsame rfl rfl (Nat.le_refl _)
      | deleteQueryCase queryCaseId =>
          rw [ApiStore.afterCall, ApiStore.deleteQueryCase]
          split
          · exact refl _ _
          · split_ifs <;> exact hsame rfl rfl (Nat.le_refl _)
      | createPipelineConfig row =>
          rw [ApiStore.afterCall, ApiStore.createPipelineConfig]
          split
          · exact refl _ _
          · exact hsame rfl rfl (Nat.le_succ _)
      | updatePipelineConfig configId patch =>
          rw [ApiStore.afterCall, ApiStore.updatePipelineConfig]
          split
          · exact refl _ _
          · split <;> exact hsame rfl rfl (Nat.le_refl _)
      | deletePipelineConfig configId =>
          rw [ApiStore.afterCall, ApiStore.deletePipelineConfig]
          split
          · exact refl _ _
          · split_ifs <;> exact hsame rfl rfl (Nat.le_refl _)
      | createHeuristicRun attempt request createdAt =>
          simp only [ApiStore.afterCall, ApiStore.createHeuristicRun]
          split
          · exact refl _ _
          · exact hsame rfl rfl (Nat.le_succ _)
      | createFullRun mode requestId push error jobId request createdAt =>
          rw [ApiStore.afterCall, ApiStore.createFullRun]
          split
          · exact refl _ _
          · cases push <;> exact hsame rfl rfl (Nat.le_succ _)
      | requeue call =>
          rw [ApiStore.afterCall, ApiStore.requeue]
          generalize requeueFullRun (s.queueWorld deps call.runId) call = result
          obtain ⟨world, response⟩ := result
          cases hrun : world.run with
          | none => simp only [hrun]; exact hsame rfl rfl (Nat.le_refl _)
          | some run => simp only [hrun]; exact hsame rfl rfl (Nat.le_refl _)
      | createDiagnosisSession runId mode startedAt sessionKey synthetic now =>
          rw [ApiStore.afterCall, ApiStore.createDiagnosisSession]
          split
          · exact refl _ _
          · exact hsame rfl rfl (Nat.le_succ _)
      | patchDiagnosisSession runId sessionId patch =>
          rw [ApiStore.afterCall, ApiStore.patchDiagnosisSession]
          split
          · exact refl _ _
          · exact hsame rfl rfl (Nat.le_refl _)
  | session runId action =>
      change s.afterSession runId action = some t at hstep
      rw [ApiStore.afterSession] at hstep
      cases hfound : s.runs.find? fun r => r.run.id = runId with
      | none =>
          rw [hfound] at hstep
          cases hstep
      | some found =>
          simp only [hfound] at hstep
          split at hstep
          · cases hstep
          · obtain ⟨after, hmoved, rfl⟩ := Option.map_eq_some_iff.mp hstep
            exact hsame rfl rfl (Nat.le_refl _)
  | queue change =>
      obtain rfl : s.afterQueueChange change = t := Option.some.inj hstep
      cases change <;> exact hsame rfl rfl (Nat.le_refl _)

/-- **Only its own delete reaches a document**, in any run. -/
theorem exec {events : List ApiEvent} (hbelow : documentId < s.nextId)
    (hkept : ∀ event ∈ events, event = .call (.deleteDocument documentId) →
      s.documentRow documentId = none)
    (hrun : (apiSystem deps limits).exec s events = some t) : Keeps documentId s t := by
  induction events generalizing s with
  | nil =>
      cases hrun
      exact refl _ _
  | cons event events ih =>
      rw [LabelledSystem.exec_cons, Option.bind_eq_some_iff] at hrun
      obtain ⟨next, hnext, hrest⟩ := hrun
      have hstep := step hbelow (hkept event List.mem_cons_self) hnext
      refine hstep.trans (ih (Nat.lt_of_lt_of_le hbelow hstep.nextId) ?_ hrest)
      intro other hother hdelete
      rw [hstep.row]
      exact hkept other (List.mem_cons_of_mem event hother) hdelete

theorem getDocument (h : Keeps documentId s t) :
    t.getDocument documentId = s.getDocument documentId := by
  rw [ApiStore.getDocument, ApiStore.getDocument, h.row]

theorem getDocumentChunks (h : Keeps documentId s t) :
    t.getDocumentChunks documentId = s.getDocumentChunks documentId := by
  rw [ApiStore.getDocumentChunks, ApiStore.getDocumentChunks, h.row, h.chunks]

end Keeps

/-! ## From the upload on -/

section

variable {limits : UploadLimits} {attempt : UploadAttempt} {request : UploadRequest}

/-- What the prepared chunks are made of. -/
theorem prepareChunks_parts {rawText : Str} {prepared : List (ChunkData × List ℚ)}
    (h : prepareChunks limits attempt request = .ok (rawText, prepared)) :
    ∃ chunks embeddings, parseDocument request.file = .ok rawText ∧
      chunkText rawText request.chunkStrategy request.chunkSize request.chunkOverlap =
        .ok chunks ∧
      attempt.embedTexts (chunks.map ChunkData.content) = .ok embeddings ∧
      embeddings.length = chunks.length ∧ prepared = chunks.zip embeddings := by
  obtain ⟨text, hparsed, hrest⟩ := except_bind_eq_ok h
  dsimp only at hrest
  split at hrest
  · cases hrest
  obtain ⟨chunks, hchunks, hrest⟩ := except_bind_eq_ok hrest
  split at hrest
  · cases hrest
  obtain ⟨embeddings, hembeddings, hrest⟩ := except_bind_eq_ok hrest
  split at hrest
  · cases hrest
  · rename_i hlength
    obtain ⟨rfl, rfl⟩ := Prod.mk.inj (Except.ok.inj hrest)
    exact ⟨chunks, embeddings, hparsed, hchunks, hembeddings, not_not.mp hlength, rfl⟩

/-- What an upload that is answered with a document has committed. -/
theorem uploadDocument_ok {filePath : String} {documentId : ℕ} {document : StoredDocument}
    (h : (uploadDocument limits attempt request filePath documentId).response = .ok document) :
    ∃ rawText prepared, request.chunkOverlap < request.chunkSize ∧
      prepareChunks limits attempt request = .ok (rawText, prepared) ∧
      document.id = documentId ∧ document.status = .processed ∧
      (uploadDocument limits attempt request filePath documentId).document = some document ∧
      (uploadDocument limits attempt request filePath documentId).chunks =
        storedChunks documentId (documentId + 1) prepared := by
  by_cases haccepted : AcceptedUpload limits attempt request
  · rw [uploadDocument_accepted haccepted] at h ⊢
    rcases ingestTextFile_cases haccepted (flushedDocument request filePath documentId) with
      ⟨e, hoc, -⟩ | ⟨e, hoc, -⟩ | ⟨rawText, prepared, hprepared, hoc, -⟩
    · rw [hoc] at h
      cases h
    · rw [hoc] at h
      cases h
    · rw [hoc] at h ⊢
      cases hrefresh : attempt.raises .refresh with
      | some e =>
          simp only [hrefresh] at h
          cases h
      | none =>
          simp only [hrefresh] at h
          obtain rfl := Except.ok.inj h
          exact ⟨rawText, prepared, haccepted.overlap, hprepared, rfl, rfl, rfl, rfl⟩
  · obtain ⟨e, hremoved⟩ := @uploadDocument_refused _ _ _ filePath documentId haccepted
    rw [hremoved.response] at h
    cases h

variable {s t : ApiStore} {filePath : String} {document : StoredDocument}

/-- The rows of an upload that is answered with a document. -/
theorem ApiStore.Sound.uploadDocument_rows (h : s.Sound)
    (hupload : s.uploadDocument limits attempt request filePath = (t, .ok document)) :
    ∃ rawText prepared, request.chunkOverlap < request.chunkSize ∧
      prepareChunks limits attempt request = .ok (rawText, prepared) ∧
      document.status = .processed ∧ document.id < t.nextId ∧
      t.documentRow document.id = some document ∧
      documentChunks t.chunks document.id =
        storedChunks document.id (document.id + 1) prepared := by
  rw [ApiStore.uploadDocument] at hupload
  obtain ⟨hstore, hresponse⟩ := Prod.mk.inj hupload
  obtain ⟨rawText, prepared, hoverlap, hprepared, hid, hstatus, hdocument, hchunks⟩ :=
    uploadDocument_ok hresponse
  rw [hdocument, hchunks] at hstore
  refine ⟨rawText, prepared, hoverlap, hprepared, hstatus, ?_, ?_, ?_⟩
  · rw [← hstore, hid]
    show s.nextId < s.nextId + 1 + _
    omega
  · have hnone : (s.documents.find? fun other => other.id = document.id) = none := by
      rw [List.find?_eq_none]
      intro other hother
      rw [decide_eq_true_iff, hid]
      exact Nat.ne_of_lt (h.keys.documents.lt_next other hother)
    rw [ApiStore.documentRow, ← hstore]
    show (s.documents ++ [document]).find? _ = _
    rw [List.find?_append, hnone, Option.none_or, List.find?_cons, decide_eq_true rfl]
  · have hold : documentChunks s.chunks document.id = [] := by
      refine List.filter_eq_nil_iff.mpr fun chunk hchunk hown => ?_
      rw [decide_eq_true_iff, hid] at hown
      exact h.keys.documents.not_mem_next (hown ▸ h.references.chunk_document chunk hchunk)
    have hnew : documentChunks (storedChunks document.id (document.id + 1) prepared) document.id =
        storedChunks document.id (document.id + 1) prepared := by
      refine List.filter_eq_self.mpr fun chunk hchunk => ?_
      obtain ⟨i, hi, rfl⟩ := List.mem_mapIdx.mp hchunk
      exact decide_eq_true rfl
    rw [← hstore, ← hid, documentChunks, List.filter_append]
    exact (congrArg₂ (· ++ ·) hold hnew).trans (List.nil_append _)

/-- The rows of the chunks are in the order of their numbers. -/
theorem orderBy_storedChunks {prepared : List (ChunkData × List ℚ)} (documentId nextId : ℕ)
    (h : prepared.map (fun chunk => chunk.1.chunkIndex) = List.range prepared.length) :
    Sql.orderBy (fun a b => decide (a.chunkIndex ≤ b.chunkIndex))
        (storedChunks documentId nextId prepared) = storedChunks documentId nextId prepared := by
  refine List.Pairwise.insertionSort_eq ?_
  have hsorted : ((storedChunks documentId nextId prepared).map
      StoredChunk.chunkIndex).Pairwise (· ≤ ·) := by
    rw [storedChunks_indices documentId nextId h]
    exact List.pairwise_le_range
  exact (List.pairwise_map.mp hsorted).imp fun hle => decide_eq_true hle

end

/-- **An uploaded document can be read back**: when `POST /documents` answers with a document, then
after every run of calls, sessions and queue changes without its delete `GET` answers with this
document, and its chunks are those that the chunker cuts from its text, in their order; each is
stored with the vector of its own content. -/
theorem uploaded_document_reads_back {deps : PipelineEnv} {limits : UploadLimits}
    {events later : List ApiEvent} {s t u : ApiStore} {embedder : Embedder}
    {vector : Str → List ℚ} {raises : UploadPoint → Option PyException} {request : UploadRequest}
    {filePath : String} {document : StoredDocument}
    (hs : (apiSystem deps limits).exec .empty events = some s)
    (hprovider : embedder.AnswersByIndex vector)
    (hupload : s.uploadDocument limits ⟨raises, embedder.embedTexts⟩ request filePath =
      (t, .ok document))
    (hlater : (apiSystem deps limits).exec t later = some u)
    (hkept : ∀ event ∈ later, event ≠ .call (.deleteDocument document.id)) :
    ∃ rawText chunks, parseDocument request.file = .ok rawText ∧
      chunkText rawText request.chunkStrategy request.chunkSize request.chunkOverlap =
        .ok chunks ∧
      u.getDocument document.id = .ok document.response ∧ document.status = .processed ∧
      u.getDocumentChunks document.id = .ok (chunks.mapIdx fun i chunk =>
        { id := document.id + 1 + i, documentId := document.id
          content := String.ofList chunk.content, chunkIndex := i, startChar := chunk.startChar
          endChar := chunk.endChar, metadataJson := chunk.metadataJson }) ∧
      ∀ chunk ∈ u.chunks, chunk.documentId = document.id →
        chunk.embedding = some (vector chunk.content.toList) := by
  obtain ⟨rawText, prepared, hoverlap, hprepared, hstatus, hbelow, hrow, hchunkRows⟩ :=
    (reachable_store_sound hs).uploadDocument_rows hupload
  obtain ⟨chunks, embeddings, hparsed, hchunks, hembeddings, hlength, rfl⟩ :=
    prepareChunks_parts hprepared
  have hkeeps : Keeps document.id t u :=
    Keeps.exec hbelow (fun event hevent hdelete => absurd hdelete (hkept event hevent)) hlater
  obtain ⟨-, hnumbered⟩ := prepareChunks_eq_ok hoverlap hprepared
  have hvectors := Embedder.embedTexts_eq hprovider hembeddings
  refine ⟨rawText, chunks, hparsed, hchunks, ?_, hstatus, ?_, ?_⟩
  · rw [hkeeps.getDocument, ApiStore.getDocument, hrow]
  · rw [hkeeps.getDocumentChunks, ApiStore.getDocumentChunks, hrow, hchunkRows,
      orderBy_storedChunks _ _ hnumbered]
    refine congrArg Except.ok ?_
    refine List.ext_getElem (by simp [storedChunks, hlength]) fun i hi hi' => ?_
    have hi'' : i < chunks.length := by simpa using hi'
    have hindex : chunks[i].chunkIndex = i := by
      have hat := congrArg (fun indices => indices[i]?) hnumbered
      simpa [List.getElem?_range, hi'', hlength] using hat
    simp [storedChunks, StoredChunk.response, hindex]
  · intro chunk hchunk hown
    have hmem : chunk ∈ documentChunks u.chunks document.id :=
      List.mem_filter.mpr ⟨hchunk, decide_eq_true hown⟩
    rw [hkeeps.chunks, hchunkRows] at hmem
    obtain ⟨i, hi, rfl⟩ := List.mem_mapIdx.mp hmem
    simp [hvectors]

/-- An API that answers from the last text to the first, each with its length. -/
def reversedEmbedder : Embedder where
  openaiApiKey := "key"
  embeddingModelName := "all-MiniLM-L6-v2"
  create _ texts := .ok (texts.mapIdx fun i text => ⟨i, [text.length]⟩).reverse

theorem reversedEmbedder_answersByIndex :
    reversedEmbedder.AnswersByIndex fun text => [(text.length : ℚ)] := by
  intro texts data hdata
  rw [← Except.ok.inj hdata]
  exact List.reverse_perm _

/-- The note in two chunks. -/
def cutUpload : UploadRequest :=
  { noteUpload with
    chunkSize := 3
    chunkSize_pos := by decide
    chunkSize_le := by decide }

/-- The upload of the note in two chunks. -/
def uploadedCut : ApiResult HttpException StoredDocument :=
  ApiStore.empty.uploadDocument defaultLimits ⟨fun _ => none, reversedEmbedder.embedTexts⟩
    cutUpload "uploads/note.txt"

/-- The note is read back after a dataset was made and another document was to be deleted. -/
theorem note_reads_back :
    ∃ t document u, uploadedCut = (t, .ok document) ∧
      (apiSystem oneChunkEnv defaultLimits).exec t
        [.call (.createDataset "benchmark" none none), .call (.deleteDocument 7)] = some u ∧
      u.getDocument document.id = .ok document.response ∧
      (∃ rows, u.getDocumentChunks document.id = .ok rows ∧
        rows.map (fun row => (row.chunkIndex, row.content)) = [(0, "pas"), (1, "s")]) ∧
      ∀ chunk ∈ u.chunks, chunk.documentId = document.id →
        chunk.embedding = some [(chunk.content.toList.length : ℚ)] := by
  have hid : uploadedCut.2.toOption.map StoredDocument.id = some 1 := by decide
  obtain ⟨document, hdocument, hone⟩ := Option.map_eq_some_iff.mp hid
  have hupload : uploadedCut = (uploadedCut.1, .ok document) := by
    refine Prod.ext rfl ?_
    cases hanswer : uploadedCut.2 with
    | error e =>
        rw [hanswer] at hdocument
        cases hdocument
    | ok stored =>
        rw [hanswer] at hdocument
        exact congrArg Except.ok (Option.some.inj hdocument)
  have hs : (apiSystem oneChunkEnv defaultLimits).exec .empty [] = some .empty := rfl
  have hlater : (apiSystem oneChunkEnv defaultLimits).exec uploadedCut.1
      [.call (.createDataset "benchmark" none none), .call (.deleteDocument 7)] = some _ := rfl
  obtain ⟨rawText, chunks, hparsed, hchunks, hread, -, hrows, hvectors⟩ :=
    uploaded_document_reads_back hs reversedEmbedder_answersByIndex hupload hlater
      (by
        intro event hevent hdelete
        rw [hdelete] at hevent
        simp [hone] at hevent)
  obtain rfl : ['p', 'a', 's', 's'] = rawText := Except.ok.inj hparsed
  obtain ⟨first, last, hcut, hfirst, hlast⟩ : ∃ first last,
      chunkText ['p', 'a', 's', 's'] .fixed 3 0 = .ok [first, last] ∧
        String.ofList first.content = "pas" ∧ String.ofList last.content = "s" :=
    ⟨_, _, rfl, rfl, rfl⟩
  obtain rfl : [first, last] = chunks := Except.ok.inj (hcut.symm.trans hchunks)
  refine ⟨_, document, _, hupload, hlater, hread, ⟨_, hrows, ?_⟩, hvectors⟩
  simp [hfirst, hlast]

/-! ## From the delete on -/

section

variable {s t : ApiStore} {deps : PipelineEnv} {request : RunCreateRequest} {documentId : ℕ}

/-- A run cannot be created with the scope of a document that is not there. -/
theorem validate_of_documentRow_none (hnone : s.documentRow documentId = none)
    (hscope : request.documentId = some documentId) (settings : Settings) (mode : EvalMode) :
    ∃ e, validateRunCreatePrerequisites s.registry settings request mode = .error e := by
  have hmissing : s.registry.document documentId = false := by
    rw [ApiStore.registry, List.any_eq_false]
    intro document hdocument
    exact List.find?_eq_none.mp hnone document hdocument
  rw [validateRunCreatePrerequisites]
  split
  · exact ⟨_, rfl⟩
  · split
    · exact ⟨_, rfl⟩
    · rw [hscope, Option.filter_some, hmissing]
      exact ⟨_, rfl⟩

/-- The document, its chunks and their ids are gone after its delete. -/
theorem ApiStore.Sound.deleteDocument_gone (h : s.Sound)
    (hdelete : s.deleteDocument documentId = (t, .ok ())) :
    documentId < t.nextId ∧ t.documentRow documentId = none ∧
      ∀ chunk ∈ s.chunks, chunk.documentId = documentId →
        chunk.id < t.nextId ∧ ∀ other ∈ t.chunks, other.id ≠ chunk.id := by
  rw [ApiStore.deleteDocument] at hdelete
  cases hfound : s.documents.find? fun document => document.id = documentId with
  | none =>
      rw [hfound] at hdelete
      cases (Prod.mk.inj hdelete).2
  | some document =>
      rw [hfound] at hdelete
      obtain rfl := (Prod.mk.inj hdelete).1
      have hid : document.id = documentId := by simpa using List.find?_some hfound
      have hmem := List.mem_of_find?_eq_some hfound
      refine ⟨hid ▸ h.keys.documents.lt_next document hmem, ?_, fun chunk hchunk hown => ?_⟩
      · refine List.find?_eq_none.mpr fun other hother => ?_
        have hne := (List.mem_filter.mp hother).2
        simpa using hne
      · refine ⟨h.keys.chunks.lt_next chunk hchunk, fun other hother heq => ?_⟩
        obtain ⟨hin, hspared⟩ := List.mem_filter.mp hother
        obtain rfl := h.keys.chunks.eq_of_key_eq hin hchunk heq
        have hany : (s.documents.any fun other' => decide (other'.id = documentId) &&
            decide (other'.id = other.documentId)) = true :=
          List.any_eq_true.mpr ⟨document, hmem, by simp [hid, hown]⟩
        exact Bool.false_ne_true (hspared.symm.trans (congrArg not hany)).symm

end

/-- **A deleted document stays gone**: after every run of calls, sessions and queue changes `GET`
answers 404 for it and for its chunks, no run is created with its scope, and no run has a
retrieval row on a chunk that it had. -/
theorem deleted_document_stays_gone {deps : PipelineEnv} {limits : UploadLimits}
    {events later : List ApiEvent} {s t u : ApiStore} {documentId : ℕ}
    (hs : (apiSystem deps limits).exec .empty events = some s)
    (hdelete : s.deleteDocument documentId = (t, .ok ()))
    (hlater : (apiSystem deps limits).exec t later = some u) :
    u.getDocument documentId = .error documentNotFound ∧
      u.getDocumentChunks documentId = .error documentNotFound ∧
      (∀ request : RunCreateRequest, request.documentId = some documentId →
        (∀ attempt createdAt, ∃ e,
          u.createHeuristicRun deps attempt request createdAt = (u, .error e)) ∧
        ∀ mode requestId push error jobId createdAt, ∃ e,
          u.createFullRun deps mode requestId push error jobId request createdAt =
            (u, .error e)) ∧
      ∀ chunk ∈ s.chunks, chunk.documentId = documentId →
        ∀ r ∈ u.runs, ∀ row ∈ r.run.retrievalResults, row.chunkId ≠ chunk.id := by
  have hsound := reachable_store_sound hs
  have htSound : t.Sound := by
    have hdeleted := hsound.deleteDocument documentId
    rwa [hdelete] at hdeleted
  obtain ⟨hbelow, hnone, hchunks⟩ := hsound.deleteDocument_gone hdelete
  have hkeeps : Keeps documentId t u := Keeps.exec hbelow (fun _ _ _ => hnone) hlater
  have hrow : u.documentRow documentId = none := hkeeps.row.trans hnone
  refine ⟨?_, ?_, fun request hscope => ⟨fun attempt createdAt => ?_, ?_⟩, ?_⟩
  · rw [ApiStore.getDocument, hrow]
  · rw [ApiStore.getDocumentChunks, hrow]
  · obtain ⟨e, he⟩ := validate_of_documentRow_none hrow hscope (u.environment deps).settings
      .heuristic
    exact ⟨e, by simp only [ApiStore.createHeuristicRun, createAndExecuteRunFromIds, he]⟩
  · intro mode requestId push error jobId createdAt
    obtain ⟨e, he⟩ := validate_of_documentRow_none hrow hscope deps.settings
      (ApiStore.evalModeOf mode)
    exact ⟨e, by rw [ApiStore.createFullRun, he]⟩
  · -- A retrieval row refers to a stored chunk, and deleted ids are not drawn again.
    intro chunk hchunk hown r hr row hrowMem heq
    obtain ⟨hdrawn, hgone⟩ := hchunks chunk hchunk hown
    have hrefers := (htSound.exec hlater).references.retrieval_chunk r hr row hrowMem
    obtain ⟨stored, hstored, hid⟩ := List.mem_map.mp hrefers
    rcases hkeeps.fresh stored hstored with hold | hnew
    · exact hgone stored hold (hid.trans heq)
    · have hsame : stored.id = chunk.id := hid.trans heq
      omega

/-- The note's chunk is gone from its run, also after another upload. -/
theorem deleted_note_stays_gone :
    ∃ s t u, (apiSystem oneChunkEnv defaultLimits).exec .empty evaluatedNote = some s ∧
      s.deleteDocument 4 = (t, .ok ()) ∧
      (apiSystem oneChunkEnv defaultLimits).exec t
        [.call (.uploadDocument quietUpload noteUpload "uploads/again.txt")] = some u ∧
      u.getDocument 4 = .error documentNotFound ∧
      ∀ chunk ∈ s.chunks, chunk.documentId = 4 →
        ∀ r ∈ u.runs, ∀ row ∈ r.run.retrievalResults, row.chunkId ≠ chunk.id := by
  have hanswer : ((apiSystem oneChunkEnv defaultLimits).exec .empty evaluatedNote).map
      (fun s => (s.deleteDocument 4).2.toOption) = some (some ()) := by decide
  obtain ⟨s, hs, hok⟩ := Option.map_eq_some_iff.mp hanswer
  cases hdelete : s.deleteDocument 4 with
  | mk t answer =>
      rw [hdelete] at hok
      cases answer with
      | error e => cases hok
      | ok u =>
          have hlater : (apiSystem oneChunkEnv defaultLimits).exec t
              [.call (.uploadDocument quietUpload noteUpload "uploads/again.txt")] = some _ := rfl
          obtain ⟨hgone, -, -, hrows⟩ := deleted_document_stays_gone hs hdelete hlater
          exact ⟨s, t, _, hs, hdelete, hlater, hgone, hrows⟩

end ContextLens
