import ContextLens.ChunkOffsets

/-!
# The chunks of a text are numbered and there is one

A text that is not blank has a chunk with either strategy, and the chunks carry the indices
`0..n-1`.  For fixed windows both are fields of `Tiles`.

For the recursive strategy the argument follows the *last* part of each split.  A stripped
text ends in a character that is no whitespace while every separator ends in whitespace, so
the last part of a split ends in that character too; it is accumulated or handed to the
next level, and never dropped (`splitParts_ne_nil`).
-/

namespace ContextLens

open Foundations

/-! ## The last character -/

/-- The text ends in a character that is not whitespace. -/
def EndsSolid (text : Str) : Prop := ∃ c ∈ text.getLast?, Python.isSpace c = false

section

variable {text s t : Str}

theorem EndsSolid.of_append (h : EndsSolid (s ++ t)) (ht : t ≠ []) : EndsSolid t := by
  obtain ⟨c, hc, hsolid⟩ := h
  rw [List.getLast?_append_of_ne_nil s ht] at hc
  exact ⟨c, hc, hsolid⟩

theorem EndsSolid.strip_ne_nil (h : EndsSolid text) : strip text ≠ [] := by
  obtain ⟨c, hc, hsolid⟩ := h
  exact Text.strip_ne_nil_iff.mpr ⟨c, List.mem_of_getLast? hc, hsolid⟩

theorem endsSolid_strip (h : strip text ≠ []) : EndsSolid (strip text) :=
  ⟨_, List.getLast_mem_getLast? h, (Text.trimmed_strip text).2 _ (List.getLast_mem_getLast? h)⟩

theorem EndsSolid.append (h : EndsSolid t) : EndsSolid (s ++ t) := by
  obtain ⟨c, hc, hsolid⟩ := h
  have ht : t ≠ [] := by
    rintro rfl
    cases hc
  exact ⟨c, by rwa [List.getLast?_append_of_ne_nil s ht], hsolid⟩

theorem strippedPiece_ne_nil (h : EndsSolid text) : strippedPiece text ≠ [] := by
  rw [strippedPiece, if_neg h.strip_ne_nil]
  exact List.cons_ne_nil _ _

end

/-- The separator ends in whitespace. -/
def EndsBlank (separator : Str) : Prop := ∃ c ∈ separator.getLast?, Python.isSpace c = true

theorem EndsBlank.ne_nil {separator : Str} (h : EndsBlank separator) : separator ≠ [] := by
  rintro rfl
  obtain ⟨c, hc, -⟩ := h
  cases hc

theorem EndsBlank.not_endsSolid {separator : Str} (h : EndsBlank separator) :
    ¬EndsSolid separator := by
  rintro ⟨d, hd, hsolid⟩
  obtain ⟨c, hc, hblank⟩ := h
  rw [Option.mem_unique hd hc, hblank] at hsolid
  cases hsolid

section

variable {chunkSize : ℕ} {separator : Str} {deeper : Str → List Str}

/-- The last part of a split ends where the text does. -/
theorem endsSolid_last (hseparator : EndsBlank separator) {parts : List Str} (hparts : parts ≠ [])
    (h : EndsSolid (separator.intercalate parts)) : ∃ last ∈ parts.getLast?, EndsSolid last := by
  induction parts with
  | nil => exact absurd rfl hparts
  | cons part rest ih =>
      by_cases hrest : rest = []
      · rw [hrest, List.intercalate_singleton] at h
        exact ⟨part, by rw [hrest]; rfl, h⟩
      · rw [intercalate_cons, if_neg hrest] at h
        have hne : separator.intercalate rest ≠ [] := by
          intro hnil
          rw [hnil, List.append_nil] at h
          exact hseparator.not_endsSolid (h.of_append hseparator.ne_nil)
        obtain ⟨last, hlast, hsolid⟩ := ih hrest (h.of_append hne)
        exact ⟨last, by rwa [List.getLast?_cons_of_ne_nil hrest], hsolid⟩

theorem endsSolid_last_split (hseparator : EndsBlank separator) {text : Str}
    (h : EndsSolid text) : ∃ last ∈ (Text.split separator text).getLast?, EndsSolid last := by
  refine endsSolid_last hseparator (Text.splitFrom_ne_nil _ _ _) ?_
  rwa [Text.intercalate_split hseparator.ne_nil]

/-- The last part is never dropped. -/
theorem splitParts_ne_nil (hdeeper : ∀ part, EndsSolid part → deeper part ≠ [])
    (parts : List Str) (current : Str) (h : ∃ last ∈ parts.getLast?, EndsSolid last) :
    splitParts chunkSize separator (some deeper) parts current ≠ [] := by
  induction parts generalizing current with
  | nil =>
      obtain ⟨last, hlast, -⟩ := h
      cases hlast
  | cons part rest ih =>
      rw [splitParts_cons]
      by_cases hrest : rest = []
      · -- This is the last part: nothing is put behind it.
        obtain ⟨last, hlast, hsolid⟩ := h
        rw [hrest, List.getLast?_singleton, Option.mem_some_iff] at hlast
        subst hlast
        have hsuffix : partSuffix separator [] = [] := by simp [partSuffix]
        rw [hrest, hsuffix, List.append_nil, List.append_nil]
        split
        · exact strippedPiece_ne_nil hsolid.append
        · split
          · simp [hdeeper part hsolid]
          · simp [splitParts, strippedPiece_ne_nil hsolid]
      · rw [List.getLast?_cons_of_ne_nil hrest] at h
        split
        · exact ih _ h
        · split
          · simp [ih [] h]
          · simp [ih _ h]

theorem splitLevel_ne_nil (hseparator : EndsBlank separator)
    (hdeeper : ∀ part, EndsSolid part → deeper part ≠ []) {text : Str} (h : EndsSolid text) :
    splitLevel chunkSize separator (some deeper) text ≠ [] := by
  rw [splitLevel]
  split
  · exact strippedPiece_ne_nil h
  · rw [if_neg hseparator.ne_nil]
    exact splitParts_ne_nil hdeeper _ _ (endsSolid_last_split hseparator h)

/-- **A text that is not blank has a piece.** -/
theorem recursivePieces_ne_nil (hsize : 0 < chunkSize) {text : Str} (h : EndsSolid text) :
    recursivePieces text chunkSize ≠ [] := by
  have hslices : ∀ part, EndsSolid part → splitRecursive chunkSize [] [] part ≠ [] := by
    intro part hsolid hnil
    have hkept := splitRecursive_slices hsize part
    rw [hnil] at hkept
    exact hsolid.strip_ne_nil (Text.strip_eq_nil_iff.mpr hkept.symm)
  rw [recursivePieces]
  refine splitLevel_ne_nil ⟨'\n', rfl, by decide⟩ (fun part hpart => ?_) h
  refine splitLevel_ne_nil ⟨'\n', rfl, by decide⟩ (fun line hline => ?_) hpart
  refine splitLevel_ne_nil ⟨' ', rfl, by decide⟩ (fun sentence hsentence => ?_) hline
  exact splitLevel_ne_nil ⟨' ', rfl, by decide⟩ hslices hsentence

end

/-! ## The indices -/

/-- Pieces that are not blank are numbered in turn. -/
theorem buildChunksFrom_indices {fullText : Str} {metadata : JsonObject} {pieces : List Str}
    (hsolid : ∀ piece ∈ pieces, strip piece ≠ []) {chunkIndex searchStart : ℕ}
    {chunks : List ChunkData}
    (h : buildChunksFrom fullText metadata pieces chunkIndex searchStart = .ok chunks) :
    chunks.map ChunkData.chunkIndex = List.range' chunkIndex pieces.length := by
  induction pieces generalizing chunkIndex searchStart chunks with
  | nil =>
      obtain rfl : [] = chunks := by simpa [buildChunksFrom] using h
      rfl
  | cons piece pieces ih =>
      obtain ⟨start, rest, -, hrest, rfl⟩ :=
        buildChunksFrom_cons_ok (hsolid piece List.mem_cons_self) h
      rw [List.map_cons, ih (fun p hp => hsolid p (List.mem_cons_of_mem piece hp)) hrest,
        List.length_cons, List.range'_succ]
      rfl

/-- **What chunking returns** for a text that is not blank: at least one chunk, and the
indices from zero. -/
theorem chunkText_numbered {text : Str} {strategy : ChunkStrategy} {chunkSize overlap : ℤ}
    {chunks : List ChunkData} (hsize : 0 < chunkSize) (hoverlap : 0 ≤ overlap)
    (hsmaller : overlap < chunkSize) (htext : strip text ≠ [])
    (h : chunkText text strategy chunkSize overlap = .ok chunks) :
    chunks ≠ [] ∧ chunks.map ChunkData.chunkIndex = List.range chunks.length := by
  cases strategy with
  | fixed =>
      obtain ⟨tiled, htiled, htiles⟩ :=
        fixed_chunks_tile_text text chunkSize overlap hsize hoverlap hsmaller htext
      obtain rfl : tiled = chunks := Except.ok.inj (htiled.symm.trans h)
      refine ⟨?_, htiles.indices⟩
      rintro rfl
      cases htiles.ends_text
  | recursive =>
      rw [chunkText_recursive hsize hoverlap hsmaller htext] at h
      have hsolid : ∀ piece ∈ recursivePieces (strip text) chunkSize.toNat, strip piece ≠ [] := by
        intro piece hpiece
        rw [strip_of_mem_recursivePieces hpiece]
        exact ne_nil_of_mem_recursivePieces hpiece
      have hindices := buildChunksFrom_indices hsolid h
      have hlength : chunks.length = (recursivePieces (strip text) chunkSize.toNat).length := by
        simpa using congrArg List.length hindices
      rw [hlength, hindices, List.range_eq_range']
      refine ⟨?_, rfl⟩
      rintro rfl
      exact recursivePieces_ne_nil (by omega) (endsSolid_strip htext)
        (List.length_eq_zero_iff.mp hlength.symm)

end ContextLens
