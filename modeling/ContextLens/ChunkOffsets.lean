import ContextLens.FixedWindows

/-!
# Where chunks say they come from

`_build_chunks_from_pieces` looks for a piece behind the previous one and, when
it is not there, anywhere in the text.  Either way the piece stands where its
chunk says, so recursive chunks are exact.  A fixed chunk keeps the bounds of
its window next to the stripped content (`chunk_offsets_exact_iff`).
-/

namespace ContextLens

open Foundations

/-- `text[start_char:end_char]` is the content. -/
def Exact (text : Str) (chunk : ChunkData) : Prop :=
  chunk.content = (text.take chunk.endChar).drop chunk.startChar

instance (text : Str) (chunk : ChunkData) : Decidable (Exact text chunk) := by
  unfold Exact
  infer_instance

/-! ## The mapping, one piece at a time -/

section Mapping

variable {fullText : Str} {metadata : JsonObject}

/-- The position the mapping takes: behind the previous piece when there is one,
the first of all otherwise. -/
def mappedStart (fullText content : Str) (searchStart : ℕ) : Option ℕ :=
  (Text.find fullText content searchStart).or (Text.find fullText content 0)

/-- The chunk of a piece found at `start`. -/
def pieceChunk (metadata : JsonObject) (content : Str) (chunkIndex start : ℕ) : ChunkData :=
  { content := content, chunkIndex := chunkIndex, startChar := start,
    endChar := start + content.length, metadataJson := some metadata }

theorem buildChunksFrom_blank {piece : Str} (hblank : strip piece = []) (pieces : List Str)
    (chunkIndex searchStart : ℕ) :
    buildChunksFrom fullText metadata (piece :: pieces) chunkIndex searchStart
      = buildChunksFrom fullText metadata pieces (chunkIndex + 1) searchStart := by
  rw [buildChunksFrom, if_pos hblank]

/-- A piece that is not blank is mapped and the search goes on behind it. -/
theorem buildChunksFrom_cons_ok {piece : Str} (hsolid : strip piece ≠ []) {pieces : List Str}
    {chunkIndex searchStart : ℕ} {chunks : List ChunkData}
    (h : buildChunksFrom fullText metadata (piece :: pieces) chunkIndex searchStart
      = .ok chunks) :
    ∃ start rest, mappedStart fullText (strip piece) searchStart = some start ∧
      buildChunksFrom fullText metadata pieces (chunkIndex + 1)
        (start + (strip piece).length) = .ok rest ∧
      chunks = pieceChunk metadata (strip piece) chunkIndex start :: rest := by
  rw [buildChunksFrom, if_neg hsolid, Option.orElse_eq_orElse, Option.orElse_eq_or] at h
  rw [mappedStart]
  rcases hfound : (Text.find fullText (strip piece) searchStart).or
      (Text.find fullText (strip piece) 0) with _ | start
  · simp [hfound] at h
  · rw [hfound] at h
    rcases hrest : buildChunksFrom fullText metadata pieces (chunkIndex + 1)
      (start + (strip piece).length) with e | rest
    · simp [hrest, bind, Except.bind] at h
    · refine ⟨start, rest, rfl, hrest, ?_⟩
      simpa [pieceChunk, hrest, bind, Except.bind, pure, Except.pure, eq_comm] using h

theorem prefix_of_mappedStart {content : Str} {searchStart start : ℕ}
    (h : mappedStart fullText content searchStart = some start) :
    content <+: fullText.drop start := by
  rcases Option.or_eq_some_iff.mp h with h | ⟨-, h⟩ <;> exact Text.prefix_of_find_eq_some h

theorem exact_pieceChunk {content : Str} {start : ℕ} (h : content <+: fullText.drop start)
    (chunkIndex : ℕ) : Exact fullText (pieceChunk metadata content chunkIndex start) := by
  have htake : (fullText.drop start).take content.length = content :=
    (List.prefix_iff_eq_take.mp h).symm
  rw [Exact, pieceChunk, List.drop_take, Nat.add_sub_cancel_left, htake]

theorem buildChunksFrom_exact (pieces : List Str) (chunkIndex searchStart : ℕ)
    (chunks : List ChunkData)
    (h : buildChunksFrom fullText metadata pieces chunkIndex searchStart = .ok chunks) :
    ∀ chunk ∈ chunks, Exact fullText chunk := by
  induction pieces generalizing chunkIndex searchStart chunks with
  | nil =>
      obtain rfl : [] = chunks := by simpa [buildChunksFrom] using h
      simp
  | cons piece pieces ih =>
      by_cases hblank : strip piece = []
      · rw [buildChunksFrom_blank hblank] at h
        exact ih _ _ chunks h
      · obtain ⟨start, rest, hstart, hrest, rfl⟩ := buildChunksFrom_cons_ok hblank h
        rw [List.forall_mem_cons]
        exact ⟨exact_pieceChunk (prefix_of_mappedStart hstart) chunkIndex, ih _ _ rest hrest⟩

/-- The contents are the pieces, stripped. -/
theorem buildChunksFrom_contents (pieces : List Str) (chunkIndex searchStart : ℕ)
    (chunks : List ChunkData)
    (h : buildChunksFrom fullText metadata pieces chunkIndex searchStart = .ok chunks) :
    chunks.map ChunkData.content = (pieces.map strip).filter (· ≠ []) := by
  induction pieces generalizing chunkIndex searchStart chunks with
  | nil =>
      obtain rfl : [] = chunks := by simpa [buildChunksFrom] using h
      rfl
  | cons piece pieces ih =>
      by_cases hblank : strip piece = []
      · rw [buildChunksFrom_blank hblank] at h
        rw [ih _ _ chunks h, List.map_cons, List.filter_cons_of_neg (by simpa using hblank)]
      · obtain ⟨start, rest, -, hrest, rfl⟩ := buildChunksFrom_cons_ok hblank h
        rw [List.map_cons, ih _ _ rest hrest, List.map_cons,
          List.filter_cons_of_pos (by simpa using hblank)]
        rfl

end Mapping

/-! ## Valid calls -/

section Calls

variable {text : Str} {chunkSize overlap : ℤ}

theorem chunkText_blank (strategy : ChunkStrategy) (htext : strip text = []) :
    chunkText text strategy chunkSize overlap = .ok [] := by
  simp [chunkText, htext, pure, Except.pure]

theorem chunkText_recursive (hsize : 0 < chunkSize) (hoverlap : 0 ≤ overlap)
    (hsmaller : overlap < chunkSize) (htext : strip text ≠ []) :
    chunkText text .recursive chunkSize overlap
      = buildChunksFrom (strip text)
          (chunkMetadata .recursive chunkSize.toNat overlap.toNat)
          (recursivePieces (strip text) chunkSize.toNat) 0 0 := by
  simp [chunkText, htext, validateChunkParams_ok hsize hoverlap hsmaller, chunkRecursive,
    buildChunksFromPieces, bind, Except.bind]

end Calls

/-! ## Exact offsets -/

/-- Every window the loop comes to that is not blank has no whitespace at its
ends. -/
def WindowsTrimmed (text : Str) (chunkSize step : ℕ) : Prop :=
  ∀ start ∈ Text.starts text.length step, Reached text chunkSize step start →
    strip (window text chunkSize start) ≠ [] →
      Text.Trimmed Python.isSpace (window text chunkSize start)

instance (text : Str) (chunkSize step : ℕ) : Decidable (WindowsTrimmed text chunkSize step) := by
  unfold WindowsTrimmed
  infer_instance

theorem chunkFixed_exact_iff {text : Str} {chunkSize overlap : ℕ} (htext : strip text = text)
    (hoverlap : overlap < chunkSize) :
    (∀ chunk ∈ chunkFixed text chunkSize overlap, Exact text chunk) ↔
      WindowsTrimmed text chunkSize (chunkSize - overlap) := by
  have hstep : 0 < chunkSize - overlap := by omega
  have hexact : ∀ chunk ∈ chunkFixed text chunkSize overlap, Exact text chunk ↔
      Text.Trimmed Python.isSpace (window text chunkSize chunk.startChar) := by
    intro chunk hchunk
    obtain ⟨-, hstop, hcontent⟩ := mem_chunkFixed htext hoverlap hchunk
    rw [Exact, hstop, hcontent, ← Text.strip_eq_self_iff]
    rfl
  constructor
  · intro h start hstart hreached hsolid
    have hkept := (mem_keptStarts hstep).mpr ⟨(Text.mem_starts hstep).mp hstart, hreached, hsolid⟩
    obtain ⟨chunk, hchunk, rfl⟩ := exists_chunkFixed htext hoverlap hkept
    exact (hexact chunk hchunk).mp (h chunk hchunk)
  · intro h chunk hchunk
    obtain ⟨hrange, hreached, hsolid⟩ :=
      (mem_keptStarts hstep).mp (mem_chunkFixed htext hoverlap hchunk).1
    exact (hexact chunk hchunk).mpr (h _ ((Text.mem_starts hstep).mpr hrange) hreached hsolid)

/-- The offsets of a call's chunks are exact unless the strategy is fixed and
some window that becomes a chunk has whitespace at its ends. -/
theorem chunk_offsets_exact_iff (text : Str) (strategy : ChunkStrategy) (chunkSize overlap : ℤ)
    (hsize : 0 < chunkSize) (hoverlap : 0 ≤ overlap) (hsmaller : overlap < chunkSize) :
    (∀ chunks, chunkText text strategy chunkSize overlap = .ok chunks →
        ∀ chunk ∈ chunks, Exact (strip text) chunk) ↔
      (strategy = .fixed →
        WindowsTrimmed (strip text) chunkSize.toNat (chunkSize - overlap).toNat) := by
  have hstep : (chunkSize - overlap).toNat = chunkSize.toNat - overlap.toNat := by omega
  rw [hstep]
  by_cases htext : strip text = []
  · have hnone : ∀ step : ℕ, WindowsTrimmed [] chunkSize.toNat step := by
      intro step start hstart _ hsolid
      simp [window, strip, Text.strip] at hsolid
    simp [chunkText_blank strategy htext, htext, hnone]
  cases strategy with
  | fixed =>
      rw [chunkText_fixed hsize hoverlap hsmaller htext]
      simpa using chunkFixed_exact_iff (strip_strip text) (by omega)
  | recursive =>
      rw [chunkText_recursive hsize hoverlap hsmaller htext]
      refine iff_of_true (fun chunks hchunks => buildChunksFrom_exact _ _ _ chunks hchunks) ?_
      exact fun h => absurd h (by decide)

/-- `"abcd"` in windows of two. -/
theorem chunk_offsets_exact_full_windows :
    (chunkText ['a', 'b', 'c', 'd'] .fixed 2 0).isOk = true ∧
      ∀ chunks, chunkText ['a', 'b', 'c', 'd'] .fixed 2 0 = .ok chunks →
        ∀ chunk ∈ chunks, Exact (strip ['a', 'b', 'c', 'd']) chunk :=
  ⟨by decide, (chunk_offsets_exact_iff _ .fixed 2 0 (by decide) (by decide) (by decide)).mpr
    (by decide)⟩

/-- `"ab cd"` in windows of three: the chunk `"ab"` is recorded at `0..3`. -/
theorem chunk_offsets_not_exact :
    ¬ ∀ chunks, chunkText ['a', 'b', ' ', 'c', 'd'] .fixed 3 0 = .ok chunks →
      ∀ chunk ∈ chunks, Exact (strip ['a', 'b', ' ', 'c', 'd']) chunk := by
  intro h
  have hexact := h _ rfl _ List.mem_cons_self
  revert hexact
  decide

end ContextLens
