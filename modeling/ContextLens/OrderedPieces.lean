import ContextLens.ChunkIndices
import ContextLens.ChunkOrder

/-!
# Pieces that stand in the text in order

What `_build_chunks_from_pieces` makes of pieces that were cut from the text in order, with
anything between them.

The search behind the previous piece may settle on an earlier occurrence than the true one, but
it never falls behind: its end is no later than the true end, so the next piece is still ahead.
So the second search, from the beginning of the text, never runs
(`Text.exists_placeInTurn_le`, `buildChunksFrom_of_placeInTurn`).
-/

namespace ContextLens

open Foundations

/-- A piece with the gap in front of it: not empty, and no whitespace at its ends. -/
structure OrderedPiece where
  gap : Str
  piece : Str
  ne_nil : piece ≠ []
  trimmed : Text.Trimmed Python.isSpace piece

namespace OrderedPiece

variable (part : OrderedPiece)

/-- The gap and the piece. -/
def pair : Str × Str := (part.gap, part.piece)

theorem strip_piece : strip part.piece = part.piece := Text.strip_of_trimmed part.trimmed

end OrderedPiece

/-- The pieces with their gaps, and a last gap. -/
def orderedText (parts : List OrderedPiece) (last : Str) : Str :=
  Text.laidOut (parts.map OrderedPiece.pair) ++ last

section

variable {fullText : Str} {metadata : JsonObject}

/-- Where every piece is found behind the previous one, the mapping takes these places. -/
theorem buildChunksFrom_of_placeInTurn {pieces : List Str}
    (hsolid : ∀ piece ∈ pieces, strip piece = piece ∧ piece ≠ []) (chunkIndex : ℕ)
    {searchStart : ℕ} {places : List ℕ}
    (h : Text.placeInTurn fullText searchStart pieces = some places) :
    ∃ chunks, buildChunksFrom fullText metadata pieces chunkIndex searchStart = .ok chunks ∧
      chunks.map ChunkData.startChar = places ∧
      ∀ chunk ∈ chunks, chunk.endChar = chunk.startChar + chunk.content.length := by
  induction pieces generalizing chunkIndex searchStart places with
  | nil => exact ⟨[], rfl, Option.some.inj h, fun chunk hchunk => absurd hchunk List.not_mem_nil⟩
  | cons piece pieces ih =>
      obtain ⟨hstrip, hne⟩ := hsolid piece List.mem_cons_self
      obtain ⟨i, hi, h⟩ := Option.bind_eq_some_iff.mp h
      obtain ⟨rest, hrest, rfl⟩ := Option.map_eq_some_iff.mp h
      obtain ⟨chunks, hchunks, hstarts, hends⟩ :=
        ih (fun other hother => hsolid other (List.mem_cons_of_mem piece hother))
          (chunkIndex + 1) hrest
      refine ⟨pieceChunk metadata piece chunkIndex i :: chunks, ?_, ?_,
        List.forall_mem_cons.mpr ⟨rfl, hends⟩⟩
      · rw [buildChunksFrom, hstrip, if_neg hne, Option.orElse_eq_orElse, Option.orElse_eq_or, hi,
          Option.some_or]
        simp only [hchunks]
        rfl
      · rw [List.map_cons, hstarts]
        rfl

theorem filter_strip_of_solid {pieces : List Str}
    (hsolid : ∀ piece ∈ pieces, strip piece = piece ∧ piece ≠ []) :
    (pieces.map strip).filter (· ≠ []) = pieces := by
  have hstrip : pieces.map strip = pieces.map id :=
    List.map_congr_left fun piece hpiece => (hsolid piece hpiece).1
  rw [hstrip, List.map_id, List.filter_eq_self]
  exact fun piece hpiece => decide_eq_true (hsolid piece hpiece).2

/-- Chunks with places in turn lie behind each other. -/
theorem pairwise_of_placeInTurn {chunks : List ChunkData}
    (hends : ∀ chunk ∈ chunks, chunk.endChar = chunk.startChar + chunk.content.length)
    {searchStart : ℕ}
    (h : Text.placeInTurn fullText searchStart (chunks.map ChunkData.content) =
      some (chunks.map ChunkData.startChar)) :
    (∀ chunk ∈ chunks, searchStart ≤ chunk.startChar) ∧
      chunks.Pairwise fun chunk next => chunk.endChar ≤ next.startChar := by
  induction chunks generalizing searchStart with
  | nil => exact ⟨fun chunk hchunk => absurd hchunk List.not_mem_nil, List.Pairwise.nil⟩
  | cons chunk chunks ih =>
      obtain ⟨i, hi, h⟩ := Option.bind_eq_some_iff.mp h
      obtain ⟨rest, hrest, heq⟩ := Option.map_eq_some_iff.mp h
      obtain ⟨rfl, rfl⟩ := List.cons.inj heq
      have hend := hends chunk List.mem_cons_self
      rw [← hend] at hrest
      obtain ⟨hlater, hpairwise⟩ :=
        ih (fun next hnext => hends next (List.mem_cons_of_mem chunk hnext)) hrest
      have hle := Text.le_of_find_eq_some hi
      refine ⟨List.forall_mem_cons.mpr ⟨hle, fun next hnext => ?_⟩,
        List.pairwise_cons.mpr ⟨hlater, hpairwise⟩⟩
      have hnext := hlater next hnext
      omega

end

/-- **Mapping pieces in order**: the second search never runs, and there is one exact chunk for
each piece, behind the chunks before and no later than where the piece stands. -/
theorem ordered_pieces_mapped (parts : List OrderedPiece) (last : Str) (strategy : ChunkStrategy)
    (chunkSize overlap : ℕ) :
    ∃ chunks, buildChunksFromPieces (orderedText parts last) (parts.map OrderedPiece.piece)
        strategy chunkSize overlap = .ok chunks ∧
      Text.placeInTurn (orderedText parts last) 0 (parts.map OrderedPiece.piece) =
        some (chunks.map ChunkData.startChar) ∧
      chunks.map ChunkData.chunkIndex = List.range parts.length ∧
      chunks.map ChunkData.content = parts.map OrderedPiece.piece ∧
      (∀ chunk ∈ chunks, Exact (orderedText parts last) chunk ∧
        chunk.startChar < chunk.endChar) ∧
      (chunks.Pairwise fun chunk next => chunk.endChar ≤ next.startChar) ∧
      List.Forall₂ (· ≤ ·) (chunks.map ChunkData.startChar)
        (Text.trueStarts 0 (parts.map OrderedPiece.pair)) := by
  have hpieces : (parts.map OrderedPiece.pair).map Prod.snd = parts.map OrderedPiece.piece := by
    rw [List.map_map]
    rfl
  have hsolid : ∀ piece ∈ parts.map OrderedPiece.piece, strip piece = piece ∧ piece ≠ [] := by
    intro piece hpiece
    obtain ⟨part, -, rfl⟩ := List.mem_map.mp hpiece
    exact ⟨part.strip_piece, part.ne_nil⟩
  obtain ⟨places, hplaces, hstarts⟩ :=
    Text.exists_placeInTurn_le [] last (parts.map OrderedPiece.pair) (Nat.zero_le _)
  rw [List.nil_append, ← orderedText, hpieces] at hplaces
  obtain ⟨chunks, hchunks, rfl, hends⟩ := @buildChunksFrom_of_placeInTurn _
    (chunkMetadata strategy chunkSize overlap) _ hsolid 0 _ _ hplaces
  have hcontents : chunks.map ChunkData.content = parts.map OrderedPiece.piece :=
    (buildChunksFrom_contents _ 0 0 chunks hchunks).trans (filter_strip_of_solid hsolid)
  have hindices : chunks.map ChunkData.chunkIndex = List.range parts.length := by
    rw [buildChunksFrom_indices (fun piece hpiece => ?_) hchunks, List.length_map,
      List.range_eq_range']
    rw [(hsolid piece hpiece).1]
    exact (hsolid piece hpiece).2
  have hinTurn := hplaces
  rw [← hcontents] at hinTurn
  refine ⟨chunks, hchunks, hplaces, hindices, hcontents, fun chunk hchunk => ⟨?_, ?_⟩,
    (pairwise_of_placeInTurn hends hinTurn).2, hstarts⟩
  · exact buildChunksFrom_exact _ 0 0 chunks hchunks chunk hchunk
  · have hcontent : chunk.content ∈ parts.map OrderedPiece.piece := by
      rw [← hcontents]
      exact List.mem_map_of_mem hchunk
    have hpos := List.length_pos_iff.mpr (hsolid chunk.content hcontent).2
    have hend := hends chunk hchunk
    omega

/-- The same piece twice, behind a gap that has it too. -/
def repeatedPieces : List OrderedPiece :=
  [{ gap := "ab.".toList, piece := "ab".toList, ne_nil := by decide, trimmed := by decide },
   { gap := " ".toList, piece := "ab".toList, ne_nil := by decide, trimmed := by decide }]

/-- Both are mapped in front of where they stand. -/
theorem repeated_pieces_mapped :
    ∃ chunks, buildChunksFromPieces "ab.ab ab!".toList ["ab".toList, "ab".toList] .recursive 2 0 =
        .ok chunks ∧
      chunks.map ChunkData.startChar = [0, 3] ∧
      Text.trueStarts 0 (repeatedPieces.map OrderedPiece.pair) = [3, 6] := by
  obtain ⟨chunks, hchunks, hplaces, -⟩ :=
    ordered_pieces_mapped repeatedPieces "!".toList .recursive 2 0
  have hfound : Text.placeInTurn (orderedText repeatedPieces "!".toList) 0
      (repeatedPieces.map OrderedPiece.piece) = some [0, 3] := by decide
  exact ⟨chunks, hchunks, Option.some.inj (hplaces.symm.trans hfound), by decide⟩

end ContextLens
