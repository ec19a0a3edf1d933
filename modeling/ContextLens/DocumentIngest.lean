import ContextLens.Chunker
import ContextLens.PipelinePhases

/-!
# Uploading a document

`app/services/parser.py`, `ingest_text_file` of `app/services/text_document_ingest.py`
and `upload_document` of `app/api/documents.py`: what one upload commits to `documents`
and `chunks`, whether it leaves its file on disk, and what it answers.

The document row is flushed before the file is read, and committed only at the end: as
`processed` together with its chunks, or as `failed` by the handler.  What raises between
the handler and that commit rolls the row back, and nothing removes the file.
-/

namespace ContextLens

open Foundations

/-! ## Rows -/

/-- `documents.status`. -/
inductive DocumentStatus
  | processing
  | processed
  | failed
  deriving DecidableEq, Repr

/-- A row of `documents`. -/
structure StoredDocument where
  id : ℕ
  title : String
  sourceType : String
  filePath : String
  rawText : Option Str
  metadataJson : Option JsonObject
  status : DocumentStatus

/-- A row of `chunks` with the columns that retrieval does not read. -/
structure StoredChunk extends Chunk where
  chunkIndex : ℕ
  startChar : ℕ
  endChar : ℕ
  metadataJson : Option JsonObject

/-! ## The file and the limits -/

/-- `settings`, as far as an upload looks at them. -/
structure UploadLimits where
  maxUploadSizeBytes : ℕ
  maxTextLength : ℕ
  maxChunksPerDocument : ℕ

/-- A file as it is read: its size, its text, and the texts of its pages when it is
opened as a PDF.  A reading that raises comes with the message of the parser. -/
structure UploadedFile where
  filename : Option String
  size : ℕ
  text : Except String Str
  pages : Except String (List (Option Str))

/-- The parameters of `POST /documents`; the bounds are those of the query. -/
structure UploadRequest where
  file : UploadedFile
  chunkStrategy : ChunkStrategy
  chunkSize : ℕ
  chunkOverlap : ℕ
  chunkSize_pos : 0 < chunkSize
  chunkSize_le : chunkSize ≤ 100000

/-- `PurePath.name`. -/
def pathName (path : Str) : Str :=
  ((Text.split ['/'] path).filter fun part => part ≠ [] ∧ part ≠ ['.']).getLast?.getD []

/-- `PurePath.suffix`: the name from its last dot on, unless that is its first or its last
character. -/
def pathSuffix (path : Str) : Str :=
  let name := pathName path
  let tail := (name.reverse.takeWhile (· ≠ '.')).reverse
  if tail.length + 1 < name.length ∧ tail ≠ [] then '.' :: tail else []

/-- `Path(file.filename or "").suffix.lower()`. -/
def UploadedFile.extension (file : UploadedFile) : String :=
  Python.lower (String.ofList (pathSuffix (file.filename.getD "").toList))

/-- `ALLOWED_EXTENSIONS`. -/
def allowedExtensions : List String := [".pdf", ".txt", ".md", ".markdown"]

/-- `source_type`. -/
def sourceTypeOf (extension : String) : String :=
  if extension = ".md" ∨ extension = ".markdown" then "md"
  else String.ofList (extension.toList.dropWhile (· = '.'))

/-! ## Parsing -/

/-- `_parse_pdf`. -/
def parsePdf (file : UploadedFile) : Except PyException Str :=
  match file.pages with
  | .error message => .error (.valueError message)
  | .ok pages =>
      let parts := (pages.filterMap id).filterMap fun text =>
        if strip text = [] then none else some (strip text)
      let rawText := strip (List.intercalate ['\n', '\n'] parts)
      if rawText = [] then .error (.valueError "No extractable text found in PDF.")
      else .ok rawText

/-- `_parse_text`. -/
def parseText (file : UploadedFile) : Except PyException Str :=
  match file.text with
  | .error message => .error (.valueError message)
  | .ok text =>
      if strip text = [] then .error (.valueError "Uploaded text file is empty.")
      else .ok (strip text)

/-- `parse_document`, on a file that exists. -/
def parseDocument (file : UploadedFile) : Except PyException Str :=
  if file.extension = ".pdf" then parsePdf file
  else if file.extension = ".txt" ∨ file.extension = ".md" ∨ file.extension = ".markdown" then
    parseText file
  else .error (.valueError s!"Unsupported file type: {file.extension}")

/-! ## Ingesting -/

/-- Where the database or the disk may raise during an upload. -/
inductive UploadPoint
  | writeFile
  | flushDocument
  | commitFailure
  | flushChunks
  | commit
  | refresh
  deriving DecidableEq, Repr

/-- The circumstances of one upload: what raises, and the embedder. -/
structure UploadAttempt where
  raises : UploadPoint → Option PyException
  embedTexts : List Str → Except PyException (List (List ℚ))

/-- What an upload leaves behind: the committed rows, whether the file is still there, and
the answer or the exception. -/
structure UploadOutcome (ε : Type) where
  document : Option StoredDocument
  chunks : List StoredChunk
  fileKept : Bool
  response : Except ε StoredDocument

/-- The `try` block of `ingest_text_file`: the text, and its chunks with their
embeddings. -/
def prepareChunks (limits : UploadLimits) (attempt : UploadAttempt) (request : UploadRequest) :
    Except PyException (Str × List (ChunkData × List ℚ)) := do
  let rawText ← parseDocument request.file
  if limits.maxTextLength < rawText.length then
    throw (.valueError (s!"Extracted text is {rawText.length} chars, " ++
      s!"exceeds limit of {limits.maxTextLength}."))
  let chunkDataList ←
    chunkText rawText request.chunkStrategy request.chunkSize request.chunkOverlap
  if limits.maxChunksPerDocument < chunkDataList.length then
    throw (.valueError (s!"Document produces {chunkDataList.length} chunks, " ++
      s!"exceeds limit of {limits.maxChunksPerDocument}."))
  let embeddings ← attempt.embedTexts (chunkDataList.map ChunkData.content)
  if embeddings.length ≠ chunkDataList.length then
    throw (.other "Embedding batch size does not match chunk count.")
  return (rawText, chunkDataList.zip embeddings)

/-- The rows of the chunks, with ids from `nextId` on. -/
def storedChunks (documentId nextId : ℕ) (chunks : List (ChunkData × List ℚ)) :
    List StoredChunk :=
  chunks.mapIdx fun i chunk =>
    { id := nextId + i
      documentId := documentId
      content := String.ofList chunk.1.content
      embedding := some chunk.2
      chunkIndex := chunk.1.chunkIndex
      startChar := chunk.1.startChar
      endChar := chunk.1.endChar
      metadataJson := chunk.1.metadataJson }

/-- The two handlers of the block: `failed` is committed and the file removed. -/
def failIngest (attempt : UploadAttempt) (document : StoredDocument) (e : PyException) :
    UploadOutcome PyException :=
  match attempt.raises .commitFailure with
  | some e' => { document := none, chunks := [], fileKept := true, response := .error e' }
  | none =>
      { document := some { document with status := .failed }
        chunks := []
        fileKept := false
        response := .error e }

/-- `ingest_text_file` with `commit=True`, on a row with the id `nextId`. -/
def ingestTextFile (limits : UploadLimits) (attempt : UploadAttempt) (request : UploadRequest)
    (document : StoredDocument) : UploadOutcome PyException :=
  let rolledBack := fun e : PyException =>
    ({ document := none, chunks := [], fileKept := true, response := .error e } :
      UploadOutcome PyException)
  if request.chunkSize ≤ request.chunkOverlap then
    rolledBack (.valueError "chunk_overlap must be strictly less than chunk_size.")
  else
    match attempt.raises .flushDocument with
    | some e => rolledBack e
    | none =>
        match prepareChunks limits attempt request with
        | .error e => failIngest attempt document e
        | .ok (rawText, chunks) =>
            match attempt.raises .flushChunks <|> attempt.raises .commit with
            -- Behind the handlers: the row was only flushed.
            | some e => rolledBack e
            | none =>
                let processed :=
                  { document with rawText := some rawText, status := .processed }
                { document := some processed
                  chunks := storedChunks document.id (document.id + 1) chunks
                  fileKept := true
                  response := match attempt.raises .refresh with
                    | some e => .error e
                    | none => .ok processed }

/-! ## The endpoint -/

/-- An answer other than a success. -/
structure HttpException where
  statusCode : ℕ
  detail : String
  deriving DecidableEq, Repr

/-- The row that an upload flushes first. -/
def flushedDocument (request : UploadRequest) (filePath : String) (documentId : ℕ) :
    StoredDocument where
  id := documentId
  title := match request.file.filename with
    | some filename => if filename = "" then String.ofList (pathName filePath.toList) else filename
    | none => String.ofList (pathName filePath.toList)
  sourceType := sourceTypeOf request.file.extension
  filePath := filePath
  rawText := none
  metadataJson := some
    [("chunk_strategy", .str request.chunkStrategy.value),
      ("chunk_size", .num request.chunkSize 0), ("chunk_overlap", .num request.chunkOverlap 0)]
  status := .processing

/-- The `except` clauses of `upload_document`. -/
def uploadError : PyException → HttpException
  | .valueError message => { statusCode := 422, detail := message }
  | _ =>
      { statusCode := 422
        detail := "Failed to process document. The file may be corrupt or empty." }

/-- `upload_document`; the file is saved as `filePath`. -/
def uploadDocument (limits : UploadLimits) (attempt : UploadAttempt) (request : UploadRequest)
    (filePath : String) (documentId : ℕ) : UploadOutcome HttpException :=
  let refused := fun e : HttpException =>
    ({ document := none, chunks := [], fileKept := false, response := .error e } :
      UploadOutcome HttpException)
  if request.chunkSize ≤ request.chunkOverlap then
    refused
      { statusCode := 400, detail := "chunk_overlap must be strictly less than chunk_size." }
  else if request.file.extension ∉ allowedExtensions then
    refused
      { statusCode := 400
        detail := s!"Unsupported file type '{request.file.extension}'. " ++
          "Allowed: PDF, TXT, Markdown." }
  else if limits.maxUploadSizeBytes < request.file.size then
    refused
      { statusCode := 413
        detail := "File too large. Maximum allowed size is " ++
          s!"{limits.maxUploadSizeBytes / (1024 * 1024)} MB." }
  else
    match attempt.raises .writeFile with
    | some _ => refused { statusCode := 500, detail := "Internal Server Error" }
    | none =>
        let outcome := ingestTextFile limits attempt request
          (flushedDocument request filePath documentId)
        { document := outcome.document
          chunks := outcome.chunks
          fileKept := outcome.fileKept
          response := outcome.response.mapError uploadError }

/-! ## What an upload commits -/

section

variable {limits : UploadLimits} {attempt : UploadAttempt} {request : UploadRequest}

theorem ingestTextFile_chunks {document : StoredDocument} {chunk : StoredChunk}
    (hchunk : chunk ∈ (ingestTextFile limits attempt request document).chunks) :
    chunk.documentId = document.id ∧
      ∃ processed, (ingestTextFile limits attempt request document).document = some processed ∧
        processed.id = document.id ∧ processed.status = .processed := by
  unfold ingestTextFile at hchunk ⊢
  by_cases hoverlap : request.chunkSize ≤ request.chunkOverlap
  · simp [hoverlap] at hchunk
  · simp only [hoverlap, if_false] at hchunk ⊢
    cases hflush : attempt.raises .flushDocument with
    | some e => simp [hflush] at hchunk
    | none =>
        simp only [hflush] at hchunk ⊢
        cases hprepared : prepareChunks limits attempt request with
        | error e =>
            simp only [hprepared, failIngest] at hchunk
            cases hcommit : attempt.raises .commitFailure <;> simp [hcommit] at hchunk
        | ok prepared =>
            simp only [hprepared] at hchunk ⊢
            cases hraised : (attempt.raises .flushChunks <|> attempt.raises .commit) with
            | some e => simp [hraised] at hchunk
            | none =>
                simp only [hraised] at hchunk ⊢
                obtain ⟨i, hi, rfl⟩ := List.mem_mapIdx.mp hchunk
                exact ⟨rfl, _, rfl, rfl, rfl⟩

/-- **Chunk rows come with their document**: an upload commits them together with its
row, as `processed`, or not at all. -/
theorem uploadDocument_chunks {filePath : String} {documentId : ℕ} {chunk : StoredChunk}
    (hchunk : chunk ∈ (uploadDocument limits attempt request filePath documentId).chunks) :
    chunk.documentId = documentId ∧
      ∃ processed, (uploadDocument limits attempt request filePath documentId).document =
        some processed ∧ processed.id = documentId ∧ processed.status = .processed := by
  unfold uploadDocument at hchunk ⊢
  by_cases hoverlap : request.chunkSize ≤ request.chunkOverlap
  · simp [hoverlap] at hchunk
  by_cases hextension : request.file.extension ∉ allowedExtensions
  · simp [hoverlap, hextension] at hchunk
  by_cases hsize : limits.maxUploadSizeBytes < request.file.size
  · simp [hoverlap, hextension, hsize] at hchunk
  simp only [hoverlap, hextension, hsize, if_false] at hchunk ⊢
  cases hwrite : attempt.raises .writeFile with
  | some e => simp [hwrite] at hchunk
  | none =>
      simp only [hwrite] at hchunk ⊢
      exact ingestTextFile_chunks hchunk

end

end ContextLens
