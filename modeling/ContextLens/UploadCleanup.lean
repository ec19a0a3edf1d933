import ContextLens.ChunkIndices
import ContextLens.DocumentIngest

/-!
# What a failed upload leaves behind

An upload holds a file, a document row and chunk rows.  The handlers of `ingest_text_file`
cover the block that prepares the chunks; the writes to the database stand before and
behind it.  `leavesNothingBehind_iff` follows each raising point to its final state: the
upload is all or nothing just when nothing raises outside the handlers.
-/

namespace ContextLens

open Foundations

/-! ## All or nothing -/

/-- A success: the document is processed, and its chunks are numbered from zero. -/
structure StoredUpload (outcome : UploadOutcome HttpException) (document : StoredDocument) :
    Prop where
  response : outcome.response = .ok document
  committed : outcome.document = some document
  processed : document.status = .processed
  chunks_ne_nil : outcome.chunks ≠ []
  chunks_own : ∀ chunk ∈ outcome.chunks, chunk.documentId = document.id
  indices : outcome.chunks.map StoredChunk.chunkIndex = List.range outcome.chunks.length

/-- A failure: no chunk row, no row in `processing`, and no file. -/
structure RemovedUpload (outcome : UploadOutcome HttpException) (e : HttpException) : Prop where
  response : outcome.response = .error e
  chunks : outcome.chunks = []
  document : ∀ document, outcome.document = some document → document.status ≠ .processing
  file : outcome.fileKept = false

/-- An upload that fails leaves nothing behind. -/
def LeavesNothingBehind (outcome : UploadOutcome HttpException) : Prop :=
  (∃ document, StoredUpload outcome document) ∨ ∃ e, RemovedUpload outcome e

/-- The request is let through to the ingestion. -/
structure AcceptedUpload (limits : UploadLimits) (attempt : UploadAttempt)
    (request : UploadRequest) : Prop where
  overlap : request.chunkOverlap < request.chunkSize
  extension : request.file.extension ∈ allowedExtensions
  size : request.file.size ≤ limits.maxUploadSizeBytes
  written : attempt.raises .writeFile = none

/-- Nothing raises outside the handlers: not the first flush, not the commit of a failure,
and behind the block neither the flush of the chunks nor the commit and the refresh. -/
structure RaisesInHandlers (limits : UploadLimits) (attempt : UploadAttempt)
    (request : UploadRequest) : Prop where
  flushDocument : attempt.raises .flushDocument = none
  commitFailure : ∀ e, prepareChunks limits attempt request = .error e →
    attempt.raises .commitFailure = none
  flushChunks : ∀ prepared, prepareChunks limits attempt request = .ok prepared →
    attempt.raises .flushChunks = none
  commit : ∀ prepared, prepareChunks limits attempt request = .ok prepared →
    attempt.raises .commit = none
  refresh : ∀ prepared, prepareChunks limits attempt request = .ok prepared →
    attempt.raises .refresh = none

/-! ## The prepared chunks -/

section

variable {limits : UploadLimits} {attempt : UploadAttempt} {request : UploadRequest}

/-- A file that is parsed has a text that is not blank. -/
theorem strip_parseDocument {file : UploadedFile} {rawText : Str}
    (h : parseDocument file = .ok rawText) : strip rawText ≠ [] := by
  have hpdf : parsePdf file = .ok rawText → strip rawText ≠ [] := by
    intro hparsed
    rw [parsePdf] at hparsed
    cases hpages : file.pages with
    | error message =>
        rw [hpages] at hparsed
        cases hparsed
    | ok pages =>
        rw [hpages] at hparsed
        dsimp only at hparsed
        split at hparsed
        · cases hparsed
        · rename_i hsolid
          rw [← Except.ok.inj hparsed, strip_strip]
          exact hsolid
  have htext : parseText file = .ok rawText → strip rawText ≠ [] := by
    intro hparsed
    rw [parseText] at hparsed
    cases hread : file.text with
    | error message =>
        rw [hread] at hparsed
        cases hparsed
    | ok text =>
        rw [hread] at hparsed
        dsimp only at hparsed
        split at hparsed
        · cases hparsed
        · rename_i hsolid
          rw [← Except.ok.inj hparsed, strip_strip]
          exact hsolid
  rw [parseDocument] at h
  split at h
  · exact hpdf h
  · split at h
    · exact htext h
    · cases h

theorem except_bind_eq_ok {ε α β : Type} {x : Except ε α} {f : α → Except ε β} {b : β}
    (h : x >>= f = .ok b) : ∃ a, x = .ok a ∧ f a = .ok b := by
  cases x with
  | error e => cases h
  | ok a => exact ⟨a, rfl, h⟩

/-- **The prepared chunks** are at least one, and numbered from zero. -/
theorem prepareChunks_eq_ok (hoverlap : request.chunkOverlap < request.chunkSize)
    {rawText : Str} {chunks : List (ChunkData × List ℚ)}
    (h : prepareChunks limits attempt request = .ok (rawText, chunks)) :
    chunks ≠ [] ∧ chunks.map (fun chunk => chunk.1.chunkIndex) = List.range chunks.length := by
  obtain ⟨text, hparsed, hrest⟩ := except_bind_eq_ok h
  dsimp only at hrest
  split at hrest
  · cases hrest
  obtain ⟨chunkDataList, hchunks, hrest⟩ := except_bind_eq_ok hrest
  split at hrest
  · cases hrest
  obtain ⟨embeddings, -, hrest⟩ := except_bind_eq_ok hrest
  split at hrest
  · cases hrest
  · rename_i hlength
    obtain ⟨rfl, rfl⟩ := Prod.mk.inj (Except.ok.inj hrest)
    have hsize := request.chunkSize_pos
    obtain ⟨hne, hindices⟩ := chunkText_numbered (by omega) (by omega) (by omega)
      (strip_parseDocument hparsed) hchunks
    have hzip : (chunkDataList.zip embeddings).map Prod.fst = chunkDataList :=
      List.map_fst_zip (not_not.mp hlength).ge
    have hcount : (chunkDataList.zip embeddings).length = chunkDataList.length := by
      simpa using congrArg List.length hzip
    constructor
    · intro hnil
      rw [hnil] at hzip
      exact hne hzip.symm
    · rw [hcount, ← hindices]
      nth_rewrite 2 [← hzip]
      rw [List.map_map]
      rfl

/-! ## The final states -/

variable {filePath : String} {documentId : ℕ}

/-- A request that is refused saves no file. -/
theorem uploadDocument_refused (h : ¬AcceptedUpload limits attempt request) :
    ∃ e, RemovedUpload (uploadDocument limits attempt request filePath documentId) e := by
  have hrefused : ∀ e : HttpException, RemovedUpload
      { document := none, chunks := [], fileKept := false, response := .error e } e :=
    fun e => ⟨rfl, rfl, fun _ hnone => absurd hnone (Option.some_ne_none _).symm, rfl⟩
  rw [uploadDocument]
  by_cases hoverlap : request.chunkSize ≤ request.chunkOverlap
  · rw [if_pos hoverlap]
    exact ⟨_, hrefused _⟩
  rw [if_neg hoverlap]
  by_cases hextension : request.file.extension ∉ allowedExtensions
  · rw [if_pos hextension]
    exact ⟨_, hrefused _⟩
  rw [if_neg hextension]
  by_cases hsize : limits.maxUploadSizeBytes < request.file.size
  · rw [if_pos hsize]
    exact ⟨_, hrefused _⟩
  rw [if_neg hsize]
  cases hwrite : attempt.raises .writeFile with
  | some e => exact ⟨_, hrefused _⟩
  | none => exact absurd ⟨not_le.mp hoverlap, not_not.mp hextension, not_lt.mp hsize, hwrite⟩ h

/-- A request that is accepted is ingested. -/
theorem uploadDocument_accepted (h : AcceptedUpload limits attempt request) :
    uploadDocument limits attempt request filePath documentId =
      let outcome := ingestTextFile limits attempt request
        (flushedDocument request filePath documentId)
      { document := outcome.document
        chunks := outcome.chunks
        fileKept := outcome.fileKept
        response := outcome.response.mapError uploadError } := by
  rw [uploadDocument, if_neg (not_le.mpr h.overlap), if_neg (not_not.mpr h.extension),
    if_neg (not_lt.mpr h.size), h.written]

/-- What the ingestion of an accepted request comes to. -/
theorem ingestTextFile_cases (h : AcceptedUpload limits attempt request)
    (document : StoredDocument) :
    (∃ e, ingestTextFile limits attempt request document =
        { document := none, chunks := [], fileKept := true, response := .error e } ∧
      ¬RaisesInHandlers limits attempt request) ∨
    (∃ e, ingestTextFile limits attempt request document =
        { document := some { document with status := .failed }, chunks := [], fileKept := false,
          response := .error e } ∧
      RaisesInHandlers limits attempt request) ∨
    ∃ rawText chunks, prepareChunks limits attempt request = .ok (rawText, chunks) ∧
      ingestTextFile limits attempt request document =
        { document := some { document with rawText := some rawText, status := .processed }
          chunks := storedChunks document.id (document.id + 1) chunks
          fileKept := true
          response := match attempt.raises .refresh with
            | some e => .error e
            | none => .ok { document with rawText := some rawText, status := .processed } } ∧
      (RaisesInHandlers limits attempt request ↔ attempt.raises .refresh = none) := by
  rw [ingestTextFile, if_neg (not_le.mpr h.overlap)]
  cases hflush : attempt.raises .flushDocument with
  | some e =>
      refine Or.inl ⟨e, rfl, fun hhandlers => ?_⟩
      rw [hhandlers.flushDocument] at hflush
      cases hflush
  | none =>
      cases hprepared : prepareChunks limits attempt request with
      | error e =>
          cases hcommit : attempt.raises .commitFailure with
          | some e' =>
              refine Or.inl ⟨e', by simp only [failIngest, hcommit], fun hhandlers => ?_⟩
              rw [hhandlers.commitFailure e hprepared] at hcommit
              cases hcommit
          | none =>
              refine Or.inr (Or.inl ⟨e, by simp only [failIngest, hcommit], hflush,
                fun _ _ => hcommit, ?_, ?_, ?_⟩) <;>
              · intro prepared hok
                rw [hprepared] at hok
                cases hok
      | ok prepared =>
          obtain ⟨rawText, chunks⟩ := prepared
          cases hchunks : attempt.raises .flushChunks with
          | some e =>
              refine Or.inl ⟨e, rfl, fun hhandlers => ?_⟩
              rw [hhandlers.flushChunks _ hprepared] at hchunks
              cases hchunks
          | none =>
              cases hcommit : attempt.raises .commit with
              | some e =>
                  refine Or.inl ⟨e, rfl, fun hhandlers => ?_⟩
                  rw [hhandlers.commit _ hprepared] at hcommit
                  cases hcommit
              | none =>
                  refine Or.inr (Or.inr ⟨rawText, chunks, rfl, rfl, ?_⟩)
                  constructor
                  · intro hhandlers
                    exact hhandlers.refresh _ hprepared
                  · intro hrefresh
                    refine ⟨hflush, fun e herror => ?_, fun _ _ => hchunks, fun _ _ => hcommit,
                      fun _ _ => hrefresh⟩
                    rw [hprepared] at herror
                    cases herror

/-- The chunks of a stored document. -/
theorem storedChunks_indices (documentId nextId : ℕ) {chunks : List (ChunkData × List ℚ)}
    (h : chunks.map (fun chunk => chunk.1.chunkIndex) = List.range chunks.length) :
    (storedChunks documentId nextId chunks).map StoredChunk.chunkIndex =
      List.range (storedChunks documentId nextId chunks).length := by
  rw [storedChunks, List.length_mapIdx, ← h]
  refine List.ext_getElem? fun i => ?_
  rw [List.getElem?_map, List.getElem?_mapIdx, List.getElem?_map, Option.map_map]
  rfl

/-- **When a failed upload leaves nothing behind.** -/
theorem leavesNothingBehind_iff :
    LeavesNothingBehind (uploadDocument limits attempt request filePath documentId) ↔
      (AcceptedUpload limits attempt request → RaisesInHandlers limits attempt request) := by
  by_cases haccepted : AcceptedUpload limits attempt request
  · rw [uploadDocument_accepted haccepted]
    rcases ingestTextFile_cases haccepted (flushedDocument request filePath documentId) with
      ⟨e, hingest, hraised⟩ | ⟨e, hingest, hhandlers⟩ | ⟨rawText, chunks, hprepared, hingest, hiff⟩
    · -- The file is kept, and the answer is an error.
      rw [hingest]
      refine iff_of_false ?_ fun hhandlers => hraised (hhandlers haccepted)
      rintro (⟨document, hstored⟩ | ⟨e', hremoved⟩)
      · cases hstored.committed
      · cases hremoved.file
    · rw [hingest]
      refine iff_of_true (Or.inr ⟨uploadError e, rfl, rfl, ?_, rfl⟩) fun _ => hhandlers
      intro document hdocument
      rw [← Option.some.inj hdocument]
      exact DocumentStatus.noConfusion
    · rw [hingest]
      obtain ⟨hne, hindices⟩ := prepareChunks_eq_ok haccepted.overlap hprepared
      have hrows : storedChunks (flushedDocument request filePath documentId).id
          ((flushedDocument request filePath documentId).id + 1) chunks ≠ [] := by
        rw [storedChunks]
        simpa using hne
      cases hrefresh : attempt.raises .refresh with
      | some e =>
          -- The rows are committed, and the answer is an error all the same.
          refine iff_of_false ?_ fun hhandlers => ?_
          · rintro (⟨document, hstored⟩ | ⟨e', hremoved⟩)
            · cases hstored.response
            · cases hremoved.file
          · rw [hiff.mp (hhandlers haccepted)] at hrefresh
            cases hrefresh
      | none =>
          refine iff_of_true
            (Or.inl ⟨_, rfl, rfl, rfl, hrows, ?_, storedChunks_indices _ _ hindices⟩)
            fun _ => hiff.mpr hrefresh
          intro chunk hchunk
          obtain ⟨i, hi, rfl⟩ := List.mem_mapIdx.mp hchunk
          rfl
  · exact iff_of_true (Or.inr (uploadDocument_refused haccepted)) fun h => absurd h haccepted

end

/-! ### A text that PostgreSQL does not take -/

/-- The generous limits of a test. -/
def wideLimits : UploadLimits where
  maxUploadSizeBytes := 1000
  maxTextLength := 1000
  maxChunksPerDocument := 10

/-- A text file with a NUL character. -/
def nulRequest : UploadRequest where
  file :=
    { filename := some "a.txt"
      size := 3
      text := .ok ['a', '\x00', 'b']
      pages := .error "not a PDF" }
  chunkStrategy := .fixed
  chunkSize := 256
  chunkOverlap := 0
  chunkSize_pos := by decide
  chunkSize_le := by decide

/-- The flush of the chunk rows refuses the character; everything else works. -/
def nulAttempt : UploadAttempt where
  raises := fun point =>
    if point = .flushChunks then some (.other "A string literal cannot contain NUL characters.")
    else none
  embedTexts := fun texts => .ok (texts.map fun _ => [1])

/-- The answer is an error, and the file stays. -/
theorem failed_flush_keeps_file :
    (uploadDocument wideLimits nulAttempt nulRequest "uploads/1.txt" 1).response =
        .error (uploadError (.other "A string literal cannot contain NUL characters.")) ∧
      (uploadDocument wideLimits nulAttempt nulRequest "uploads/1.txt" 1).fileKept = true ∧
      ¬LeavesNothingBehind (uploadDocument wideLimits nulAttempt nulRequest "uploads/1.txt" 1) := by
  have houtcome : uploadDocument wideLimits nulAttempt nulRequest "uploads/1.txt" 1 =
      { document := none, chunks := [], fileKept := true,
        response := .error
          (uploadError (.other "A string literal cannot contain NUL characters.")) } := by
    rfl
  rw [houtcome]
  refine ⟨rfl, rfl, ?_⟩
  rintro (⟨document, hstored⟩ | ⟨e, hremoved⟩)
  · cases hstored.committed
  · cases hremoved.file

end ContextLens
