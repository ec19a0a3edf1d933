import ContextLens.RecursiveChunking

/-!
# The windows of fixed chunking

`_chunk_fixed` skips a blank window before it looks whether the window ends the
text, and stops at the first window that does.  A stripped text ends in a
character that is not whitespace, so a window that ends it is never blank and
the loop has a closed form (`chunkFixed_eq`): the kept windows are the reached
ones that are not blank, numbered in order.  They tile the text (`fixed_chunks_tile_text`).
-/

namespace ContextLens

open Foundations

/-! ## Closed form -/

section Windows

variable (text : Str) (chunkSize step : ℕ) (metadata : JsonObject)

/-- `text[start:end]`. -/
def window (start : ℕ) : Str :=
  (text.take (min (start + chunkSize) text.length)).drop start

/-- The chunk of the window at `start`. -/
def windowChunk (start chunkIndex : ℕ) : ChunkData :=
  { content := strip (window text chunkSize start), chunkIndex := chunkIndex,
    startChar := start, endChar := min (start + chunkSize) text.length,
    metadataJson := some metadata }

/-- No window before the one at `start` ends the text. -/
def Reached (start : ℕ) : Prop :=
  start = 0 ∨ start - step + chunkSize < text.length

instance (start : ℕ) : Decidable (Reached text chunkSize step start) := by
  unfold Reached
  infer_instance

/-- The starts of the windows that become chunks. -/
def keptStarts : List ℕ :=
  (Text.starts text.length step).filter fun start =>
    Reached text chunkSize step start ∧ strip (window text chunkSize start) ≠ []

variable {text chunkSize step metadata}

theorem chunkFixedFrom_cons (start : ℕ) (starts : List ℕ) (chunkIndex : ℕ) :
    chunkFixedFrom text chunkSize metadata (start :: starts) chunkIndex =
      if strip (window text chunkSize start) = [] then
        chunkFixedFrom text chunkSize metadata starts chunkIndex
      else windowChunk text chunkSize metadata start chunkIndex ::
        if text.length ≤ start + chunkSize then []
        else chunkFixedFrom text chunkSize metadata starts (chunkIndex + 1) := by
  have hend : text.length ≤ min (start + chunkSize) text.length ↔
      text.length ≤ start + chunkSize := by omega
  simp only [chunkFixedFrom, hend]
  rfl

theorem mem_window {start : ℕ} {i : ℕ} (hi : i < text.length) (hstart : start ≤ i)
    (hstop : i < start + chunkSize) : text[i] ∈ window text chunkSize start := by
  rw [window, List.mem_iff_getElem]
  refine ⟨i - start, ?_, ?_⟩
  · rw [List.length_drop, List.length_take]
    omega
  · have hindex : start + (i - start) = i := by omega
    simp [hindex]

theorem length_window_le (start : ℕ) : (window text chunkSize start).length ≤ chunkSize := by
  rw [window, List.length_drop, List.length_take]
  omega

theorem window_not_blank {start i : ℕ} (hi : i < text.length) (hstart : start ≤ i)
    (hstop : i < start + chunkSize) (hsolid : Python.isSpace text[i] = false) :
    strip (window text chunkSize start) ≠ [] :=
  Text.strip_ne_nil_iff.mpr ⟨text[i], mem_window hi hstart hstop, hsolid⟩

/-- The last character of a stripped text. -/
theorem last_not_blank (htext : strip text = text) (hlast : text.length - 1 < text.length) :
    Python.isSpace text[text.length - 1] = false := by
  have htrimmed : Text.Trimmed Python.isSpace text := Text.strip_eq_self_iff.mp htext
  refine htrimmed.2 _ ?_
  rw [Option.mem_def, List.getLast?_eq_getElem?]
  exact List.getElem?_eq_getElem _

/-- The loop from a reached window on. -/
theorem chunkFixedFrom_eq (htext : strip text = text) (hstep : 0 < step)
    (count start chunkIndex : ℕ)
    (hreached : Reached text chunkSize step start)
    (hlast : ∀ k < count, start + step * k < text.length) :
    chunkFixedFrom text chunkSize metadata (List.range' start count step) chunkIndex
      = (((List.range' start count step).filter fun s =>
            Reached text chunkSize step s ∧ strip (window text chunkSize s) ≠ []).zipIdx
          chunkIndex).map fun p => windowChunk text chunkSize metadata p.1 p.2 := by
  induction count generalizing start chunkIndex with
  | zero => rfl
  | succ count ih =>
      have hstart : start < text.length := by simpa using hlast 0 (by omega)
      have hnext : start + chunkSize < text.length →
          Reached text chunkSize step (start + step) := by
        intro h
        exact Or.inr (by omega)
      have hlater : ∀ k < count, start + step + step * k < text.length := by
        intro k hk
        have h := hlast (k + 1) (by omega)
        rw [Nat.mul_succ] at h
        omega
      rw [List.range'_succ, chunkFixedFrom_cons]
      by_cases hblank : strip (window text chunkSize start) = []
      · -- A blank window does not hold the last character.
        have hshort : start + chunkSize < text.length := by
          by_contra hends
          exact window_not_blank (by omega) (by omega) (by omega)
            (last_not_blank htext (by omega)) hblank
        rw [if_pos hblank, List.filter_cons_of_neg (by simp [hblank])]
        exact ih (start + step) chunkIndex (hnext hshort) hlater
      · rw [if_neg hblank, List.filter_cons_of_pos (by simp [hblank, hreached]),
          List.zipIdx_cons, List.map_cons]
        congr 1
        split
        case isTrue hends =>
          -- No later window is reached.
          have hnone : (List.range' (start + step) count step).filter (fun s =>
              Reached text chunkSize step s ∧ strip (window text chunkSize s) ≠ []) = [] := by
            rw [List.filter_eq_nil_iff]
            intro s hs
            obtain ⟨k, -, rfl⟩ := List.mem_range'.mp hs
            intro hkept
            have hreaches := (of_decide_eq_true hkept).1
            rw [Reached] at hreaches
            omega
          rw [hnone]
          rfl
        case isFalse hshort =>
          exact ih (start + step) (chunkIndex + 1) (hnext (by omega)) hlater

/-- The loop over all windows of a stripped text. -/
theorem chunkFixed_eq {overlap : ℕ} (htext : strip text = text) (hoverlap : overlap < chunkSize) :
    chunkFixed text chunkSize overlap
      = ((keptStarts text chunkSize (chunkSize - overlap)).zipIdx).map fun p =>
          windowChunk text chunkSize (chunkMetadata .fixed chunkSize overlap) p.1 p.2 := by
  have hstep : 0 < chunkSize - overlap := by omega
  rw [chunkFixed, keptStarts]
  refine chunkFixedFrom_eq htext hstep _ 0 0 (Or.inl rfl) ?_
  intro k hk
  have hmem : 0 + (chunkSize - overlap) * k ∈ Text.starts text.length (chunkSize - overlap) :=
    List.mem_range'.mpr ⟨k, hk, rfl⟩
  exact ((Text.mem_starts hstep).mp hmem).1

theorem mem_keptStarts {start : ℕ} (hstep : 0 < step) :
    start ∈ keptStarts text chunkSize step ↔
      (start < text.length ∧ step ∣ start) ∧ Reached text chunkSize step start ∧
        strip (window text chunkSize start) ≠ [] := by
  rw [keptStarts, List.mem_filter, Text.mem_starts hstep, decide_eq_true_iff]

theorem keptStarts_increase (hstep : 0 < step) :
    (keptStarts text chunkSize step).Pairwise (· < ·) :=
  (List.pairwise_lt_range' step hstep).filter _

/-- Only the last kept window ends the text. -/
theorem stop_lt_of_lt {start later : ℕ} (hstep : 0 < step)
    (hstart : start ∈ keptStarts text chunkSize step)
    (hlater : later ∈ keptStarts text chunkSize step) (hlt : start < later) :
    start + chunkSize < text.length := by
  obtain ⟨⟨-, k, rfl⟩, -, -⟩ := (mem_keptStarts hstep).mp hstart
  obtain ⟨⟨-, k', rfl⟩, hreached, -⟩ := (mem_keptStarts hstep).mp hlater
  have hk : k < k' := Nat.lt_of_mul_lt_mul_left hlt
  have hnext : step * (k + 1) ≤ step * k' := Nat.mul_le_mul_left step hk
  rw [Nat.mul_succ] at hnext
  rw [Reached] at hreached
  omega

theorem stops_increase (hstep : 0 < step) :
    ((keptStarts text chunkSize step).map fun s =>
      min (s + chunkSize) text.length).Pairwise (· < ·) := by
  rw [List.pairwise_map]
  refine (keptStarts_increase hstep).imp_of_mem ?_
  intro start later hstart hlater hlt
  have hshort := stop_lt_of_lt hstep hstart hlater hlt
  omega

/-- Every character that is not whitespace is in a kept window. -/
theorem keptStarts_cover (hstep : 0 < step) (hsize : step ≤ chunkSize) {i : ℕ}
    (hi : i < text.length) (hsolid : Python.isSpace text[i] = false) :
    ∃ start ∈ keptStarts text chunkSize step, start ≤ i ∧ i < start + chunkSize := by
  -- The first window that goes beyond the character.
  have hexists : ∃ k, i < step * k + chunkSize := by
    refine ⟨i, ?_⟩
    have hle : i ≤ step * i := Nat.le_mul_of_pos_left i hstep
    omega
  obtain ⟨hstop, hbefore⟩ : i < step * Nat.find hexists + chunkSize ∧
      ∀ k < Nat.find hexists, ¬ i < step * k + chunkSize :=
    ⟨Nat.find_spec hexists, fun k hk => Nat.find_min hexists hk⟩
  generalize Nat.find hexists = k at hstop hbefore
  have hfirst : step * k ≤ i ∧ Reached text chunkSize step (step * k) := by
    cases k with
    | zero => exact ⟨Nat.zero_le i, Or.inl rfl⟩
    | succ k =>
        have hprevious := hbefore k (by omega)
        rw [Nat.mul_succ]
        exact ⟨by omega, Or.inr (by omega)⟩
  refine ⟨step * k, (mem_keptStarts hstep).mpr ⟨⟨by omega, Nat.dvd_mul_right step k⟩, hfirst.2, ?_⟩,
    hfirst.1, hstop⟩
  exact window_not_blank hi hfirst.1 hstop hsolid

/-- The last kept window ends the text. -/
theorem last_stop (htext : strip text = text) (hne : text ≠ []) (hstep : 0 < step)
    (hsize : step ≤ chunkSize) :
    ((keptStarts text chunkSize step).map fun s =>
      min (s + chunkSize) text.length).getLast? = some text.length := by
  have hlength : 0 < text.length := List.length_pos_of_ne_nil hne
  obtain ⟨start, hstart, -, hstop⟩ := keptStarts_cover hstep hsize (by omega)
    (last_not_blank htext (by omega))
  refine Text.getLast?_of_increasing (stops_increase hstep) ?_ ?_
  · exact List.mem_map.mpr ⟨start, hstart, by omega⟩
  · intro stop hmem
    obtain ⟨s, -, rfl⟩ := List.mem_map.mp hmem
    omega

end Windows

/-! ## The chunks tile the text -/

/-- The chunks are numbered, move on by multiples of a step without one being
contained in another, are the windows of their size or what is left of the text, leave
out nothing but whitespace and reach the end. -/
structure Tiles (text : Str) (chunkSize step : ℕ) (chunks : List ChunkData) : Prop where
  indices : chunks.map ChunkData.chunkIndex = List.range chunks.length
  multiples : ∀ chunk ∈ chunks, step ∣ chunk.startChar
  starts_increase : (chunks.map ChunkData.startChar).Pairwise (· < ·)
  stops_increase : (chunks.map ChunkData.endChar).Pairwise (· < ·)
  covers : ∀ (i : ℕ) (hi : i < text.length), Python.isSpace text[i] = false →
    ∃ chunk ∈ chunks, chunk.startChar ≤ i ∧ i < chunk.endChar
  windows : ∀ chunk ∈ chunks, chunk.endChar = min (chunk.startChar + chunkSize) text.length
  ends_text : (chunks.map ChunkData.endChar).getLast? = some text.length
  contents : ∀ chunk ∈ chunks,
    chunk.content = strip ((text.take chunk.endChar).drop chunk.startChar)

section Chunks

variable {text : Str} {chunkSize overlap : ℕ}

theorem mem_chunkFixed {chunk : ChunkData} (htext : strip text = text)
    (hoverlap : overlap < chunkSize) (h : chunk ∈ chunkFixed text chunkSize overlap) :
    chunk.startChar ∈ keptStarts text chunkSize (chunkSize - overlap) ∧
      chunk.endChar = min (chunk.startChar + chunkSize) text.length ∧
      chunk.content = strip (window text chunkSize chunk.startChar) := by
  rw [chunkFixed_eq htext hoverlap, List.mem_map] at h
  obtain ⟨⟨start, index⟩, hmem, rfl⟩ := h
  exact ⟨List.fst_mem_of_mem_zipIdx hmem, rfl, rfl⟩

theorem exists_chunkFixed {start : ℕ} (htext : strip text = text) (hoverlap : overlap < chunkSize)
    (h : start ∈ keptStarts text chunkSize (chunkSize - overlap)) :
    ∃ chunk ∈ chunkFixed text chunkSize overlap, chunk.startChar = start := by
  rw [chunkFixed_eq htext hoverlap]
  obtain ⟨i, hi, rfl⟩ := List.mem_iff_getElem.mp h
  exact ⟨_, List.mem_map.mpr ⟨(_, i), List.mk_mem_zipIdx_iff_getElem?.mpr
    (List.getElem?_eq_getElem hi), rfl⟩, rfl⟩

theorem map_startChar_chunkFixed (htext : strip text = text) (hoverlap : overlap < chunkSize) :
    (chunkFixed text chunkSize overlap).map ChunkData.startChar
      = keptStarts text chunkSize (chunkSize - overlap) := by
  rw [chunkFixed_eq htext hoverlap, List.map_map]
  exact List.zipIdx_map_fst 0 _

theorem map_endChar_chunkFixed (htext : strip text = text) (hoverlap : overlap < chunkSize) :
    (chunkFixed text chunkSize overlap).map ChunkData.endChar
      = (keptStarts text chunkSize (chunkSize - overlap)).map fun s =>
          min (s + chunkSize) text.length := by
  have hstarts := congrArg (List.map fun s => min (s + chunkSize) text.length)
    (map_startChar_chunkFixed htext hoverlap)
  rw [← hstarts, List.map_map]
  refine List.map_congr_left fun chunk hchunk => ?_
  exact (mem_chunkFixed htext hoverlap hchunk).2.1

theorem map_chunkIndex_chunkFixed (htext : strip text = text) (hoverlap : overlap < chunkSize) :
    (chunkFixed text chunkSize overlap).map ChunkData.chunkIndex
      = List.range (chunkFixed text chunkSize overlap).length := by
  rw [chunkFixed_eq htext hoverlap, List.map_map, List.length_map, List.length_zipIdx,
    List.range_eq_range']
  exact List.zipIdx_map_snd 0 _

theorem chunkFixed_tiles (htext : strip text = text) (hne : text ≠ [])
    (hoverlap : overlap < chunkSize) :
    Tiles text chunkSize (chunkSize - overlap) (chunkFixed text chunkSize overlap) := by
  have hstep : 0 < chunkSize - overlap := by omega
  have hsize : chunkSize - overlap ≤ chunkSize := Nat.sub_le _ _
  refine
    { indices := map_chunkIndex_chunkFixed htext hoverlap
      multiples := ?_
      starts_increase := ?_
      stops_increase := ?_
      covers := ?_
      windows := fun chunk hchunk => (mem_chunkFixed htext hoverlap hchunk).2.1
      ends_text := ?_
      contents := ?_ }
  · intro chunk hchunk
    exact ((mem_keptStarts hstep).mp (mem_chunkFixed htext hoverlap hchunk).1).1.2
  · rw [map_startChar_chunkFixed htext hoverlap]
    exact keptStarts_increase hstep
  · rw [map_endChar_chunkFixed htext hoverlap]
    exact stops_increase hstep
  · intro i hi hsolid
    obtain ⟨start, hstart, hle, hlt⟩ := keptStarts_cover hstep hsize hi hsolid
    obtain ⟨chunk, hchunk, rfl⟩ := exists_chunkFixed htext hoverlap hstart
    refine ⟨chunk, hchunk, hle, ?_⟩
    rw [(mem_chunkFixed htext hoverlap hchunk).2.1]
    omega
  · rw [map_endChar_chunkFixed htext hoverlap]
    exact last_stop htext hne hstep hsize
  · intro chunk hchunk
    obtain ⟨-, hstop, hcontent⟩ := mem_chunkFixed htext hoverlap hchunk
    rw [hcontent, window, hstop]

end Chunks

/-- A valid call with the fixed strategy on a text that is not blank. -/
theorem chunkText_fixed {text : Str} {chunkSize overlap : ℤ} (hsize : 0 < chunkSize)
    (hoverlap : 0 ≤ overlap) (hsmaller : overlap < chunkSize) (htext : strip text ≠ []) :
    chunkText text .fixed chunkSize overlap
      = .ok (chunkFixed (strip text) chunkSize.toNat overlap.toNat) := by
  simp [chunkText, htext, validateChunkParams_ok hsize hoverlap hsmaller, bind, Except.bind,
    pure, Except.pure]

/-- Fixed chunking tiles every text that is not blank. -/
theorem fixed_chunks_tile_text (text : Str) (chunkSize overlap : ℤ) (hsize : 0 < chunkSize)
    (hoverlap : 0 ≤ overlap) (hsmaller : overlap < chunkSize) (htext : strip text ≠ []) :
    ∃ chunks, chunkText text .fixed chunkSize overlap = .ok chunks ∧
      Tiles (strip text) chunkSize.toNat (chunkSize - overlap).toNat chunks := by
  have hstep : (chunkSize - overlap).toNat = chunkSize.toNat - overlap.toNat := by omega
  refine ⟨_, chunkText_fixed hsize hoverlap hsmaller htext, ?_⟩
  rw [hstep]
  exact chunkFixed_tiles (strip_strip text) htext (by omega)

/-- `" ab cd "` in windows of three that overlap in one character. -/
theorem fixed_chunks_tile_two_words :
    strip [' ', 'a', 'b', ' ', 'c', 'd', ' '] ≠ [] ∧
      ∃ chunks, chunkText [' ', 'a', 'b', ' ', 'c', 'd', ' '] .fixed 3 1 = .ok chunks ∧
        Tiles (strip [' ', 'a', 'b', ' ', 'c', 'd', ' ']) (3 : ℤ).toNat (3 - 1 : ℤ).toNat chunks :=
  ⟨by decide, fixed_chunks_tile_text _ 3 1 (by decide) (by decide) (by decide) (by decide)⟩

end ContextLens
