import ContextLens.Foundations.Text
import ContextLens.Foundations.PythonBuiltins
import ContextLens.RunTrace

/-!
# Chunking

`app/services/chunker.py`: a text is stripped and cut into chunks that carry
their position in the stripped text, either by a sliding window (`fixed`) or by
splitting at ever finer separators and searching for the pieces in the text
afterwards (`recursive`).

`_split_recursive` puts a separator back behind a part it accumulates, except
for the blank, and not at all behind a part it hands to the next separator.
Both exceptions are visible in the pieces: see `RecursiveChunking`.
-/

namespace ContextLens

open Foundations

/-- A `str`, as the list of its characters. -/
abbrev Str := List Char

/-- `text.strip()`. -/
def strip (text : Str) : Str := Text.strip Python.isSpace text

/-- The text with all its whitespace deleted. -/
def deleteWhitespace (text : Str) : Str := Text.squash Python.isSpace text

inductive ChunkStrategy
  | fixed
  | recursive
  deriving DecidableEq, Repr

/-- `ChunkStrategy.value`. -/
def ChunkStrategy.value : ChunkStrategy → String
  | fixed => "fixed"
  | recursive => "recursive"

structure ChunkData where
  content : Str
  chunkIndex : ℕ
  startChar : ℕ
  endChar : ℕ
  metadataJson : Option JsonObject

/-- The metadata every chunk of one call carries. -/
def chunkMetadata (strategy : ChunkStrategy) (chunkSize overlap : ℕ) : JsonObject :=
  [("strategy", .str strategy.value), ("chunk_size", .num chunkSize 0),
    ("overlap", .num overlap 0)]

/-- `_validate_chunk_params`. -/
def validateChunkParams (chunkSize overlap : ℤ) : Except PyException Unit :=
  if chunkSize ≤ 0 then .error (.valueError "chunk_size must be greater than 0")
  else if overlap < 0 then .error (.valueError "overlap must be 0 or greater")
  else if chunkSize ≤ overlap then
    .error (.valueError "overlap must be smaller than chunk_size")
  else .ok ()

/-! ## Fixed windows -/

/-- The loop of `_chunk_fixed` over the remaining window starts. -/
def chunkFixedFrom (text : Str) (chunkSize : ℕ) (metadata : JsonObject) :
    List ℕ → ℕ → List ChunkData
  | [], _ => []
  | start :: starts, chunkIndex =>
      let stop := min (start + chunkSize) text.length
      let value := strip ((text.take stop).drop start)
      if value = [] then chunkFixedFrom text chunkSize metadata starts chunkIndex
      else
        { content := value, chunkIndex := chunkIndex, startChar := start, endChar := stop,
          metadataJson := some metadata } ::
          if text.length ≤ stop then []
          else chunkFixedFrom text chunkSize metadata starts (chunkIndex + 1)

/-- `_chunk_fixed`. -/
def chunkFixed (text : Str) (chunkSize overlap : ℕ) : List ChunkData :=
  chunkFixedFrom text chunkSize (chunkMetadata .fixed chunkSize overlap)
    (Text.starts text.length (chunkSize - overlap)) 0

/-! ## Splitting at separators -/

/-- `[text.strip()] if text.strip() else []`. -/
def strippedPiece (text : Str) : List Str :=
  if strip text = [] then [] else [strip text]

/-- The separator put back behind a part: all but the blank and the empty one,
and never behind the last part. -/
def partSuffix (separator : Str) (rest : List Str) : Str :=
  if rest ≠ [] ∧ separator ≠ [' '] ∧ separator ≠ [] then separator else []

/-- The loop of `_split_recursive` over the parts of a text: `current` is the
piece being accumulated and `deeper` splits at the next separator, when there is
one. -/
def splitParts (chunkSize : ℕ) (separator : Str) (deeper : Option (Str → List Str)) :
    List Str → Str → List Str
  | [], current => strippedPiece current
  | part :: rest, current =>
      let suffix := partSuffix separator rest
      let candidate := if current ≠ [] then current ++ part ++ suffix else part ++ suffix
      if candidate.length ≤ chunkSize then
        splitParts chunkSize separator deeper rest candidate
      else
        strippedPiece current ++
          match deeper with
          | some split =>
              if chunkSize < part.length then
                split part ++ splitParts chunkSize separator deeper rest []
              else splitParts chunkSize separator deeper rest (part ++ suffix)
          | none => splitParts chunkSize separator deeper rest (part ++ suffix)

/-- One level of `_split_recursive`, with the next level as a parameter. -/
def splitLevel (chunkSize : ℕ) (separator : Str) (deeper : Option (Str → List Str))
    (text : Str) : List Str :=
  if text.length ≤ chunkSize then strippedPiece text
  else if separator = [] then (Text.slices chunkSize text).flatMap strippedPiece
  else splitParts chunkSize separator deeper (Text.split separator text) []

/-- `_split_recursive(text, chunk_size, [separator, *separators])`. -/
def splitRecursive (chunkSize : ℕ) : (separators : List Str) → (separator : Str) →
    Str → List Str
  | [], separator => splitLevel chunkSize separator none
  | next :: separators, separator =>
      splitLevel chunkSize separator (some (splitRecursive chunkSize separators next))

/-! ## Mapping pieces back to the text -/

/-- The loop of `_build_chunks_from_pieces`. -/
def buildChunksFrom (fullText : Str) (metadata : JsonObject) :
    List Str → (chunkIndex searchStart : ℕ) → Except PyException (List ChunkData)
  | [], _, _ => .ok []
  | piece :: pieces, chunkIndex, searchStart =>
      let content := strip piece
      if content = [] then
        buildChunksFrom fullText metadata pieces (chunkIndex + 1) searchStart
      else
        -- The second search starts over from the beginning of the text.
        match Text.find fullText content searchStart <|> Text.find fullText content 0 with
        | none => .error (.valueError "Failed to map chunk back to source text.")
        | some start => do
            let stop := start + content.length
            let chunks ← buildChunksFrom fullText metadata pieces (chunkIndex + 1) stop
            return { content := content, chunkIndex := chunkIndex, startChar := start,
                     endChar := stop, metadataJson := some metadata } :: chunks

/-- `_build_chunks_from_pieces`. -/
def buildChunksFromPieces (fullText : Str) (pieces : List Str) (strategy : ChunkStrategy)
    (chunkSize overlap : ℕ) : Except PyException (List ChunkData) :=
  buildChunksFrom fullText (chunkMetadata strategy chunkSize overlap) pieces 0 0

/-- `_split_recursive` with the separators of `_chunk_recursive`. -/
def recursivePieces (text : Str) (chunkSize : ℕ) : List Str :=
  splitRecursive chunkSize [['\n'], ['.', ' '], [' '], []] ['\n', '\n'] text

/-- `_chunk_recursive`. -/
def chunkRecursive (text : Str) (chunkSize overlap : ℕ) :
    Except PyException (List ChunkData) :=
  buildChunksFromPieces text (recursivePieces text chunkSize) .recursive chunkSize overlap

/-- `chunk_text`. -/
def chunkText (text : Str) (strategy : ChunkStrategy) (chunkSize overlap : ℤ) :
    Except PyException (List ChunkData) := do
  let cleanedText := strip text
  if cleanedText = [] then return []
  validateChunkParams chunkSize overlap
  match strategy with
  | .fixed => return chunkFixed cleanedText chunkSize.toNat overlap.toNat
  | .recursive => chunkRecursive cleanedText chunkSize.toNat overlap.toNat

/-! ## What the loops return -/

section Lemmas

variable {chunkSize : ℕ} {separator : Str}

theorem strip_isInfix (text : Str) : strip text <:+: text :=
  Text.strip_isInfix text

@[simp] theorem strip_strip (text : Str) : strip (strip text) = strip text :=
  Text.strip_strip text

@[simp] theorem deleteWhitespace_nil : deleteWhitespace [] = [] := rfl

@[simp] theorem deleteWhitespace_append (s t : Str) :
    deleteWhitespace (s ++ t) = deleteWhitespace s ++ deleteWhitespace t :=
  Text.squash_append s t

@[simp] theorem deleteWhitespace_strip (text : Str) :
    deleteWhitespace (strip text) = deleteWhitespace text :=
  Text.squash_strip text

theorem mem_strippedPiece {text piece : Str} :
    piece ∈ strippedPiece text ↔ strip text ≠ [] ∧ piece = strip text := by
  by_cases h : strip text = [] <;> simp [strippedPiece, h]

@[simp] theorem deleteWhitespace_strippedPiece (text : Str) :
    deleteWhitespace (strippedPiece text).flatten = deleteWhitespace text := by
  by_cases h : strip text = []
  · have hblank : deleteWhitespace text = [] := Text.strip_eq_nil_iff.mp h
    simp [strippedPiece, h, hblank]
  · simp [strippedPiece, h]

/-- The candidate of the loop, whether or not something is accumulated. -/
theorem candidate_eq (current part suffix : Str) :
    (if current ≠ [] then current ++ part ++ suffix else part ++ suffix)
      = current ++ part ++ suffix := by
  by_cases h : current = [] <;> simp [h]

end Lemmas

end ContextLens
