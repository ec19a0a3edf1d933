import ContextLens.ChunkOffsets

/-!
# How long a chunk gets

`_split_recursive` tests a candidate together with the separator it puts back,
but when the candidate is too long it starts over with `part + suffix` and does
not test that.  Of the separators only `". "` survives the strip of a piece, as
a full stop, so the one part that outgrows `chunk_size` is a sentence of exactly
`chunk_size` characters that is followed by another one on its line
(`recursivePieces_length_iff`).
-/

namespace ContextLens

open Foundations

/-! ## One separator -/

section Levels

variable {chunkSize : ℕ} {separator suffix : Str} {deeper : Str → List Str}

theorem forall_strippedPiece_length (text : Str) :
    (∀ piece ∈ strippedPiece text, piece.length ≤ chunkSize) ↔
      (strip text).length ≤ chunkSize := by
  by_cases h : strip text = [] <;> simp [strippedPiece, h]

theorem strip_length_le {text : Str} (h : text.length ≤ chunkSize) :
    (strip text).length ≤ chunkSize :=
  (Text.length_strip_le text).trans h

/-- The loop never tests what it starts over with, so a part that fits alone
must also fit with its suffix. -/
theorem splitParts_length_iff
    (hsuffix : ∀ rest : List Str, rest ≠ [] → partSuffix separator rest = suffix)
    (parts : List Str) (current : Str) :
    (∀ piece ∈ splitParts chunkSize separator (some deeper) parts current,
        piece.length ≤ chunkSize) ↔
      (strip current).length ≤ chunkSize ∧
        (∀ part ∈ parts, chunkSize < part.length →
          ∀ piece ∈ deeper part, piece.length ≤ chunkSize) ∧
        ∀ part ∈ parts.dropLast, part.length ≤ chunkSize →
          (strip (part ++ suffix)).length ≤ chunkSize := by
  induction parts generalizing current with
  | nil => simp [splitParts, forall_strippedPiece_length]
  | cons part rest ih =>
      rw [splitParts_cons, forall_mem_dropLast_cons, List.forall_mem_cons]
      split
      case isTrue hfits =>
        have hcurrent : (strip current).length ≤ chunkSize := by
          refine strip_length_le ?_
          simp only [List.length_append] at hfits
          omega
        have hpart : ¬ chunkSize < part.length := by
          simp only [List.length_append] at hfits
          omega
        have hwith : rest ≠ [] → part.length ≤ chunkSize →
            (strip (part ++ suffix)).length ≤ chunkSize := by
          intro hrest _
          refine strip_length_le ?_
          rw [hsuffix rest hrest] at hfits
          simp only [List.length_append] at hfits ⊢
          omega
        rw [ih]
        simp only [strip_length_le hfits, hcurrent, hpart, true_and, false_implies]
        rw [and_iff_right hwith]
      case isFalse hfull =>
        rw [List.forall_mem_append, forall_strippedPiece_length]
        refine and_congr_right fun _ => ?_
        split
        case isTrue hlong =>
          have hnil : (strip []).length ≤ chunkSize := by simp [strip, Text.strip]
          have hpart : ¬ part.length ≤ chunkSize := Nat.not_le.mpr hlong
          rw [List.forall_mem_append, ih]
          simp only [hnil, hlong, hpart, true_and, forall_const, false_implies, implies_true,
            and_assoc]
        case isFalse hshort =>
          have hpart : part.length ≤ chunkSize := Nat.not_lt.mp hshort
          rw [ih]
          by_cases hrest : rest = []
          · -- The last part has no suffix.
            subst hrest
            simp [partSuffix, strip_length_le hpart, hshort]
          · rw [hsuffix rest hrest]
            simp only [hshort, hpart, hrest, ne_eq, not_false_eq_true, forall_const,
              false_implies, true_and]
            exact and_left_comm

theorem splitLevel_length_iff (hsep : separator ≠ [])
    (hsuffix : ∀ rest : List Str, rest ≠ [] → partSuffix separator rest = suffix)
    (hsuffixLength : suffix.length ≤ separator.length)
    {P : Str → Prop}
    (hdeeper : ∀ part, (∀ piece ∈ deeper part, piece.length ≤ chunkSize) ↔ P part)
    (hshort : ∀ part : Str, part.length ≤ chunkSize → P part) (text : Str) :
    (∀ piece ∈ splitLevel chunkSize separator (some deeper) text, piece.length ≤ chunkSize) ↔
      (∀ part ∈ Text.split separator text, P part) ∧
        ∀ part ∈ (Text.split separator text).dropLast, part.length ≤ chunkSize →
          (strip (part ++ suffix)).length ≤ chunkSize := by
  by_cases hfits : text.length ≤ chunkSize
  · rw [splitLevel, if_pos hfits, forall_strippedPiece_length]
    refine iff_of_true (strip_length_le hfits) ⟨fun part hpart => ?_, fun part hpart _ => ?_⟩
    · exact hshort part ((mem_split_length hsep hpart).trans hfits)
    · have hinfix := Text.infix_intercalate_of_mem_dropLast separator hpart
      rw [Text.intercalate_split hsep] at hinfix
      have hlength := hinfix.length_le
      refine strip_length_le ?_
      simp only [List.length_append] at hlength ⊢
      omega
  · have hnil : (strip []).length ≤ chunkSize := by simp [strip, Text.strip]
    rw [splitLevel, if_neg hfits, if_neg hsep, splitParts_length_iff hsuffix, and_iff_right hnil]
    refine and_congr_left fun _ => forall₂_congr fun part _ => ?_
    constructor
    · intro h
      by_cases hlong : chunkSize < part.length
      · exact (hdeeper part).mp (h hlong)
      · exact hshort part (Nat.not_lt.mp hlong)
    · exact fun h _ => (hdeeper part).mpr h

/-- A separator that leaves nothing behind after the strip adds no condition. -/
theorem blank_level_length_iff (hsep : separator ≠ [])
    (hsuffix : ∀ rest : List Str, rest ≠ [] → partSuffix separator rest = suffix)
    (hsuffixLength : suffix.length ≤ separator.length)
    (hblank : ∀ c ∈ suffix, Python.isSpace c = true) {P : Str → Prop}
    (hdeeper : ∀ part, (∀ piece ∈ deeper part, piece.length ≤ chunkSize) ↔ P part)
    (hshort : ∀ part : Str, part.length ≤ chunkSize → P part) (text : Str) :
    (∀ piece ∈ splitLevel chunkSize separator (some deeper) text, piece.length ≤ chunkSize) ↔
      ∀ part ∈ Text.split separator text, P part := by
  rw [splitLevel_length_iff hsep hsuffix hsuffixLength hdeeper hshort]
  refine and_iff_left fun part _ hpart => ?_
  rw [strip, Text.strip_append_of_blank hblank]
  exact strip_length_le hpart

end Levels

/-! ## All separators -/

/-- Every sentence of exactly `chunk_size` characters that is followed by another
one on its line begins with whitespace. -/
def NoSentenceFills (chunkSize : ℕ) (text : Str) : Prop :=
  ∀ paragraph ∈ Text.split ['\n', '\n'] text, ∀ line ∈ Text.split ['\n'] paragraph,
    ∀ sentence ∈ (Text.split ['.', ' '] line).dropLast, sentence.length = chunkSize →
      sentence.head?.any Python.isSpace = true

instance (chunkSize : ℕ) (text : Str) : Decidable (NoSentenceFills chunkSize text) := by
  unfold NoSentenceFills
  infer_instance

section Sizes

variable {chunkSize : ℕ}

/-- A sentence outgrows the chunk with its full stop only if it fills the chunk
from the first character on. -/
theorem sentence_with_stop_length_iff (hsize : 0 < chunkSize) (sentence : Str) :
    (sentence.length ≤ chunkSize → (strip (sentence ++ ['.', ' '])).length ≤ chunkSize) ↔
      (sentence.length = chunkSize → sentence.head?.any Python.isSpace = true) := by
  have hstop : strip (sentence ++ ['.', ' ']) = sentence.dropWhile Python.isSpace ++ ['.'] := by
    have hblank : ∀ c ∈ [' '], Python.isSpace c = true := List.forall_mem_singleton.mpr rfl
    rw [show sentence ++ ['.', ' '] = (sentence ++ ['.']) ++ [' '] by simp, strip,
      Text.strip_append_of_blank hblank, Text.strip_concat (by decide)]
  rw [hstop, List.length_append, List.length_singleton]
  cases sentence with
  | nil => simp; omega
  | cons c rest =>
      by_cases hc : Python.isSpace c = true
      · have hdrop := (List.dropWhile_suffix Python.isSpace (l := rest)).length_le
        simp only [List.dropWhile_cons_of_pos hc, List.length_cons, List.head?_cons,
          Option.any_some, hc, implies_true, iff_true]
        omega
      · simp only [List.dropWhile_cons_of_neg hc, List.length_cons, List.head?_cons,
          Option.any_some, hc]
        constructor
        · intro h heq
          have := h (by omega)
          omega
        · intro h hle
          by_contra hlong
          exact absurd (h (by omega)) (by simp)

theorem slices_length (text : Str) :
    ∀ piece ∈ splitRecursive chunkSize [] [] text, piece.length ≤ chunkSize := by
  rw [splitRecursive, splitLevel]
  split
  case isTrue hfits => exact (forall_strippedPiece_length text).mpr (strip_length_le hfits)
  case isFalse =>
    rw [if_pos rfl]
    intro piece hpiece
    obtain ⟨window, hwindow, hpiece⟩ := List.mem_flatMap.mp hpiece
    refine (forall_strippedPiece_length window).mpr ?_ piece hpiece
    exact strip_length_le (Text.length_of_mem_slices hwindow)

theorem words_length (text : Str) :
    ∀ piece ∈ splitRecursive chunkSize [[]] [' '] text, piece.length ≤ chunkSize := by
  have hsuffix : ∀ rest : List Str, rest ≠ [] → partSuffix [' '] rest = [] := by
    intro rest _
    simp [partSuffix]
  exact (blank_level_length_iff (P := fun _ => True) (List.cons_ne_nil _ _) hsuffix (by simp)
    (by simp) (fun part => iff_of_true (slices_length part) trivial) (fun _ _ => trivial)
    text).mpr fun _ _ => trivial

theorem sentences_length_iff (hsize : 0 < chunkSize) (line : Str) :
    (∀ piece ∈ splitRecursive chunkSize [[' '], []] ['.', ' '] line,
        piece.length ≤ chunkSize) ↔
      ∀ sentence ∈ (Text.split ['.', ' '] line).dropLast, sentence.length = chunkSize →
        sentence.head?.any Python.isSpace = true := by
  have hsuffix : ∀ rest : List Str, rest ≠ [] → partSuffix ['.', ' '] rest = ['.', ' '] := by
    intro rest hrest
    simp [partSuffix, hrest]
  refine (splitLevel_length_iff (P := fun _ => True) (List.cons_ne_nil _ _) hsuffix le_rfl
    (fun part => iff_of_true (words_length part) trivial) (fun _ _ => trivial) line).trans ?_
  rw [and_iff_right fun _ _ => trivial]
  exact forall₂_congr fun sentence _ => sentence_with_stop_length_iff hsize sentence

/-- A line or paragraph that fits has no sentence that fills a chunk and is
followed by another one. -/
theorem no_sentence_fills_short_line {line : Str} (hline : line.length ≤ chunkSize) :
    ∀ sentence ∈ (Text.split ['.', ' '] line).dropLast, sentence.length = chunkSize →
      sentence.head?.any Python.isSpace = true := by
  intro sentence hsentence hfills
  have hinfix := Text.infix_intercalate_of_mem_dropLast ['.', ' '] hsentence
  rw [Text.intercalate_split (List.cons_ne_nil _ _)] at hinfix
  have hlength := hinfix.length_le
  rw [List.length_append] at hlength
  simp only [List.length_cons, List.length_nil] at hlength
  omega

/-- The pieces of recursive splitting fit exactly when no sentence fills a chunk
and is followed by another one. -/
theorem recursivePieces_length_iff (hsize : 0 < chunkSize) (text : Str) :
    (∀ piece ∈ recursivePieces text chunkSize, piece.length ≤ chunkSize) ↔
      NoSentenceFills chunkSize text := by
  have hnewlines : ∀ separator : Str, separator ≠ [] → separator ≠ [' '] →
      ∀ rest : List Str, rest ≠ [] → partSuffix separator rest = separator := by
    intro separator hempty hblank rest hrest
    simp [partSuffix, hrest, hempty, hblank]
  have hblank : ∀ c ∈ ['\n'], Python.isSpace c = true := List.forall_mem_singleton.mpr rfl
  have hlines := blank_level_length_iff (List.cons_ne_nil '\n' [])
    (hnewlines ['\n'] (by decide) (by decide)) le_rfl hblank
    (sentences_length_iff hsize) (fun _ => no_sentence_fills_short_line)
  exact blank_level_length_iff (List.cons_ne_nil '\n' ['\n'])
    (hnewlines ['\n', '\n'] (by decide) (by decide)) le_rfl
    (List.forall_mem_cons.mpr ⟨rfl, hblank⟩) hlines
    (fun paragraph hparagraph line hline =>
      no_sentence_fills_short_line ((mem_split_length (by decide) hline).trans hparagraph)) text

end Sizes

/-! ## Both strategies -/

/-- A content is not blank and has at most `chunk_size` characters. -/
def Sized (chunkSize : ℕ) (content : Str) : Prop :=
  strip content ≠ [] ∧ content.length ≤ chunkSize

instance (chunkSize : ℕ) (content : Str) : Decidable (Sized chunkSize content) := by
  unfold Sized
  infer_instance

section Strategies

variable {text : Str} {chunkSize overlap : ℕ}

theorem recursivePieces_sized_iff (hsize : 0 < chunkSize) :
    (∀ piece ∈ recursivePieces text chunkSize, Sized chunkSize piece) ↔
      NoSentenceFills chunkSize text := by
  rw [← recursivePieces_length_iff hsize]
  refine forall₂_congr fun piece hpiece => ?_
  rw [Sized, strip_of_mem_recursivePieces hpiece]
  exact and_iff_right (ne_nil_of_mem_recursivePieces hpiece)

/-- A window never has more than `chunk_size` characters. -/
theorem chunkFixed_sized (htext : strip text = text) (hoverlap : overlap < chunkSize) :
    ∀ chunk ∈ chunkFixed text chunkSize overlap, Sized chunkSize chunk.content := by
  intro chunk hchunk
  obtain ⟨hkept, -, hcontent⟩ := mem_chunkFixed htext hoverlap hchunk
  rw [Sized, hcontent, strip_strip]
  exact ⟨((mem_keptStarts (by omega)).mp hkept).2.2, strip_length_le (length_window_le _)⟩

/-- Recursive chunks have the contents of the pieces. -/
theorem contents_recursive {metadata : JsonObject} {chunks : List ChunkData}
    (h : buildChunksFrom text metadata (recursivePieces text chunkSize) 0 0 = .ok chunks) :
    chunks.map ChunkData.content = recursivePieces text chunkSize := by
  rw [buildChunksFrom_contents _ _ _ _ h, solidPieces_recursivePieces]

end Strategies

/-- No chunk and no piece is longer than `chunk_size` exactly when no sentence
fills a chunk and is followed by another one, in the text that is split and, for
the chunks, in the stripped text if it is accepted. -/
theorem no_chunk_exceeds_size_iff (text : Str) (chunkSize overlap : ℤ) (hsize : 0 < chunkSize)
    (hoverlap : 0 ≤ overlap) (hsmaller : overlap < chunkSize) :
    ((∀ strategy chunks, chunkText text strategy chunkSize overlap = .ok chunks →
        ∀ chunk ∈ chunks, Sized chunkSize.toNat chunk.content) ∧
      ∀ piece ∈ recursivePieces text chunkSize.toNat, Sized chunkSize.toNat piece) ↔
      (PackedWordsOccur chunkSize.toNat (strip text) →
        NoSentenceFills chunkSize.toNat (strip text)) ∧
      NoSentenceFills chunkSize.toNat text := by
  rw [recursivePieces_sized_iff (by omega)]
  refine and_congr_left fun _ => ?_
  by_cases htext : strip text = []
  · have hnone : NoSentenceFills chunkSize.toNat [] := by
      rw [← recursivePieces_length_iff (by omega)]
      simp [recursivePieces, splitRecursive, splitLevel, strippedPiece, strip, Text.strip]
    simp [chunkText_blank _ htext, htext, hnone]
  have hmapped := map_recursivePieces_ok_iff
    (chunkMetadata .recursive chunkSize.toNat overlap.toNat) (strip text) chunkSize.toNat
  have hcontents : ∀ chunks, buildChunksFrom (strip text)
      (chunkMetadata .recursive chunkSize.toNat overlap.toNat)
      (recursivePieces (strip text) chunkSize.toNat) 0 0 = .ok chunks →
      ((∀ chunk ∈ chunks, Sized chunkSize.toNat chunk.content) ↔
        NoSentenceFills chunkSize.toNat (strip text)) := by
    intro chunks hchunks
    rw [← recursivePieces_sized_iff (by omega), ← contents_recursive hchunks,
      List.forall_mem_map]
  constructor
  · intro h hoccur
    obtain ⟨chunks, hchunks⟩ := hmapped.mpr hoccur
    refine (hcontents chunks hchunks).mp (h .recursive chunks ?_)
    rw [chunkText_recursive hsize hoverlap hsmaller htext, hchunks]
  · intro h strategy chunks hchunks
    cases strategy with
    | fixed =>
        rw [chunkText_fixed hsize hoverlap hsmaller htext, Except.ok.injEq] at hchunks
        subst hchunks
        exact chunkFixed_sized (strip_strip text) (by omega)
    | recursive =>
        rw [chunkText_recursive hsize hoverlap hsmaller htext] at hchunks
        exact (hcontents chunks hchunks).mpr (h (hmapped.mp ⟨chunks, hchunks⟩))

/-- `"ab. cd"` in chunks of three. -/
theorem no_chunk_exceeds_size_short_sentences :
    (∀ strategy chunks, chunkText ['a', 'b', '.', ' ', 'c', 'd'] strategy 3 0 = .ok chunks →
        ∀ chunk ∈ chunks, Sized (3 : ℤ).toNat chunk.content) ∧
      ∀ piece ∈ recursivePieces ['a', 'b', '.', ' ', 'c', 'd'] (3 : ℤ).toNat,
        Sized (3 : ℤ).toNat piece :=
  (no_chunk_exceeds_size_iff _ 3 0 (by decide) (by decide) (by decide)).mpr
    ⟨fun _ => by decide, by decide⟩

/-- `"abc. de"` in chunks of three: the first sentence fills a chunk and its full
stop comes on top. -/
theorem chunk_exceeds_size :
    ¬ ((∀ strategy chunks, chunkText ['a', 'b', 'c', '.', ' ', 'd', 'e'] strategy 3 0
          = .ok chunks → ∀ chunk ∈ chunks, Sized (3 : ℤ).toNat chunk.content) ∧
        ∀ piece ∈ recursivePieces ['a', 'b', 'c', '.', ' ', 'd', 'e'] (3 : ℤ).toNat,
          Sized (3 : ℤ).toNat piece) := by
  rintro ⟨h, -⟩
  have hsized := h .recursive _ rfl _ List.mem_cons_self
  revert hsized
  decide

end ContextLens
