import ContextLens.Chunker

/-!
# What recursive splitting loses, and when it refuses a text

A part of a split is treated in one of two ways.  Up to `chunk_size` characters
it is accumulated, with its separator put back unless that is a blank; a longer
part is handed to the next separator, and its own separator is gone.

* Only `". "` has a character that is not whitespace, so the text that is lost
  is exactly one full stop for every sentence longer than `chunk_size` that is
  followed by another one on its line (`recursive_split_conserves_text_iff`).
* Only the blank is dropped between parts that are accumulated together, so the
  only pieces that may not occur in the text are words packed into one piece
  (`recursive_chunking_accepts_iff`).
-/

namespace ContextLens

open Foundations

section Levels

variable {chunkSize : ℕ} {separator : Str} {deeper : Str → List Str}

theorem mem_split_length {part text : Str} (hsep : separator ≠ [])
    (h : part ∈ Text.split separator text) : part.length ≤ text.length :=
  (Text.infix_of_mem_split hsep h).length_le

/-- The text of a split from a part on: the part, its separator, the rest. -/
theorem intercalate_cons (part : Str) (rest : List Str) :
    separator.intercalate (part :: rest)
      = part ++ (if rest = [] then [] else separator) ++ separator.intercalate rest := by
  by_cases hrest : rest = []
  · simp [hrest]
  · rw [List.intercalate_cons_of_ne_nil hrest, if_neg hrest]

/-- The suffix differs from the separator it stands for only where that is a
blank. -/
theorem deleteWhitespace_partSuffix (rest : List Str) :
    deleteWhitespace (partSuffix separator rest)
      = deleteWhitespace (if rest = [] then [] else separator) := by
  by_cases hrest : rest = []
  · simp [partSuffix, hrest]
  by_cases hblank : separator = [' ']
  · have hnone : deleteWhitespace [' '] = [] := rfl
    simp [partSuffix, hrest, hblank, hnone]
  · by_cases hempty : separator = [] <;> simp [partSuffix, hrest, hblank, hempty]

theorem splitParts_cons (part : Str) (rest : List Str) (current : Str) :
    splitParts chunkSize separator (some deeper) (part :: rest) current =
      if (current ++ part ++ partSuffix separator rest).length ≤ chunkSize then
        splitParts chunkSize separator (some deeper) rest
          (current ++ part ++ partSuffix separator rest)
      else strippedPiece current ++
        if chunkSize < part.length then
          deeper part ++ splitParts chunkSize separator (some deeper) rest []
        else
          splitParts chunkSize separator (some deeper) rest
            (part ++ partSuffix separator rest) := by
  rw [splitParts, candidate_eq]

/-- All parts but the last one. -/
theorem forall_mem_dropLast_cons {part : Str} {rest : List Str} {P : Str → Prop} :
    (∀ p ∈ (part :: rest).dropLast, P p) ↔ (rest ≠ [] → P part) ∧ ∀ p ∈ rest.dropLast, P p := by
  cases rest <;> simp

/-! ## Conservation, one separator -/

/-- The separator behind a part that is handed on is lost. -/
theorem lost_separator {part : Str}
    (hdeeper : (deleteWhitespace (deeper part).flatten).Sublist (deleteWhitespace part))
    (separator : Str) (rest : List Str) :
    (deleteWhitespace (deeper part).flatten).Sublist
        (deleteWhitespace part ++ deleteWhitespace (if rest = [] then [] else separator)) ∧
      (deleteWhitespace (deeper part).flatten
          = deleteWhitespace part ++ deleteWhitespace (if rest = [] then [] else separator) ↔
        deleteWhitespace (deeper part).flatten = deleteWhitespace part ∧
          (deleteWhitespace separator ≠ [] → rest = [])) := by
  refine ⟨hdeeper.trans (List.sublist_append_left _ _), ?_⟩
  have hboth := Text.append_eq_append_iff_of_sublist hdeeper
    (List.nil_sublist (deleteWhitespace (if rest = [] then [] else separator)))
  rw [List.append_nil] at hboth
  rw [hboth]
  by_cases hrest : rest = []
  · simp [hrest]
  · simp [hrest, eq_comm]

/-- The pieces of one level keep a part of the non-blank text, in order; they
keep all of it only if every long part is kept whole by the next level and no
separator of a long part had anything but whitespace. -/
theorem splitParts_conserves (chunkSize : ℕ) (separator : Str)
    (hdeeper : ∀ part, (deleteWhitespace (deeper part).flatten).Sublist (deleteWhitespace part))
    (parts : List Str) (current : Str) :
    (deleteWhitespace (splitParts chunkSize separator (some deeper) parts current).flatten).Sublist
        (deleteWhitespace (current ++ separator.intercalate parts)) ∧
      (deleteWhitespace (splitParts chunkSize separator (some deeper) parts current).flatten
          = deleteWhitespace (current ++ separator.intercalate parts) ↔
        (∀ part ∈ parts, chunkSize < part.length →
          deleteWhitespace (deeper part).flatten = deleteWhitespace part) ∧
        (deleteWhitespace separator ≠ [] → ∀ part ∈ parts.dropLast, part.length ≤ chunkSize)) := by
  induction parts generalizing current with
  | nil => simp [splitParts]
  | cons part rest ih =>
      -- A part that is accumulated stays, with all of its separator that counts.
      have hkept : ∀ before : Str,
          deleteWhitespace (before ++ part ++ partSuffix separator rest ++
              separator.intercalate rest)
            = deleteWhitespace (before ++ separator.intercalate (part :: rest)) := by
        intro before
        simp [intercalate_cons, deleteWhitespace_partSuffix]
      rw [splitParts_cons]
      split
      case isTrue hfits =>
        have hpart : part.length ≤ chunkSize := by
          simp only [List.length_append] at hfits
          omega
        have hih := ih (current ++ part ++ partSuffix separator rest)
        rw [hkept current] at hih
        refine ⟨hih.1, hih.2.trans ?_⟩
        simp [forall_mem_dropLast_cons, hpart, Nat.not_lt.mpr hpart]
      case isFalse hfull =>
        rw [List.flatten_append, deleteWhitespace_append, deleteWhitespace_strippedPiece,
          deleteWhitespace_append current]
        split
        case isFalse hshort =>
          have hpart : part.length ≤ chunkSize := Nat.not_lt.mp hshort
          have hih := ih (part ++ partSuffix separator rest)
          have hkept' := hkept []
          rw [List.nil_append, List.nil_append] at hkept'
          rw [hkept'] at hih
          refine ⟨(List.Sublist.refl _).append hih.1, ?_⟩
          rw [List.append_cancel_left_eq, hih.2]
          simp [forall_mem_dropLast_cons, hpart, Nat.not_lt.mpr hpart]
        case isTrue hlong =>
          obtain ⟨hlost, hwhole⟩ := lost_separator (hdeeper part) separator rest
          have hih := ih []
          rw [List.nil_append] at hih
          rw [intercalate_cons, List.flatten_append, deleteWhitespace_append,
            deleteWhitespace_append, deleteWhitespace_append]
          refine ⟨(List.Sublist.refl _).append (hlost.append hih.1), ?_⟩
          rw [List.append_cancel_left_eq,
            Text.append_eq_append_iff_of_sublist hlost hih.1, hih.2, forall_mem_dropLast_cons]
          rw [hwhole]
          have hpart : ¬part.length ≤ chunkSize := Nat.not_le.mpr hlong
          simp only [List.forall_mem_cons, hlong, hpart, forall_const, imp_false, not_not]
          rw [and_and_and_comm, ← imp_and]

theorem splitLevel_conserves (chunkSize : ℕ) (hsep : separator ≠ [])
    (hdeeper : ∀ part, (deleteWhitespace (deeper part).flatten).Sublist (deleteWhitespace part))
    (text : Str) :
    (deleteWhitespace (splitLevel chunkSize separator (some deeper) text).flatten).Sublist
        (deleteWhitespace text) ∧
      (deleteWhitespace (splitLevel chunkSize separator (some deeper) text).flatten
          = deleteWhitespace text ↔
        (∀ part ∈ Text.split separator text, chunkSize < part.length →
          deleteWhitespace (deeper part).flatten = deleteWhitespace part) ∧
        (deleteWhitespace separator ≠ [] →
          ∀ part ∈ (Text.split separator text).dropLast, part.length ≤ chunkSize)) := by
  have hloop := splitParts_conserves chunkSize separator hdeeper
    (Text.split separator text) []
  rw [List.nil_append, Text.intercalate_split hsep] at hloop
  by_cases hshort : text.length ≤ chunkSize
  · rw [splitLevel, if_pos hshort, deleteWhitespace_strippedPiece]
    refine ⟨List.Sublist.refl _, iff_of_true rfl ⟨?_, ?_⟩⟩
    · intro part hpart hlong
      have hle := mem_split_length hsep hpart
      omega
    · intro _ part hpart
      exact (mem_split_length hsep (List.dropLast_subset _ hpart)).trans hshort
  · rwa [splitLevel, if_neg hshort, if_neg hsep]

end Levels

/-! ## Conservation, all separators -/

/-- The windows of the last level keep every character. -/
theorem splitRecursive_slices {chunkSize : ℕ} (hsize : 0 < chunkSize) (text : Str) :
    deleteWhitespace (splitRecursive chunkSize [] [] text).flatten = deleteWhitespace text := by
  have hpieces : ∀ windows : List Str,
      deleteWhitespace (windows.flatMap strippedPiece).flatten
        = deleteWhitespace windows.flatten := by
    intro windows
    induction windows with
    | nil => rfl
    | cons window windows ih => simp [ih]
  rw [splitRecursive, splitLevel]
  split
  · exact deleteWhitespace_strippedPiece text
  · rw [if_pos rfl, hpieces, Text.flatten_slices hsize]

/-- No sentence that is followed by another one on its line is longer than
`chunk_size`. -/
def LongSentencesEndLines (chunkSize : ℕ) (text : Str) : Prop :=
  ∀ paragraph ∈ Text.split ['\n', '\n'] text, ∀ line ∈ Text.split ['\n'] paragraph,
    ∀ sentence ∈ (Text.split ['.', ' '] line).dropLast, sentence.length ≤ chunkSize

instance (chunkSize : ℕ) (text : Str) : Decidable (LongSentencesEndLines chunkSize text) := by
  unfold LongSentencesEndLines
  infer_instance

section Conservation

variable {chunkSize : ℕ}

/-- Blanks: nothing is lost. -/
theorem words_conserve (hsize : 0 < chunkSize) (text : Str) :
    deleteWhitespace (splitRecursive chunkSize [[]] [' '] text).flatten
      = deleteWhitespace text := by
  have hlevel := splitLevel_conserves chunkSize (List.cons_ne_nil ' ' [])
    (fun part => by rw [splitRecursive_slices hsize]) text
  refine hlevel.2.mpr ⟨fun part _ _ => splitRecursive_slices hsize part, fun hblank => ?_⟩
  exact absurd rfl hblank

/-- Sentences: one full stop for every long sentence that is not the last. -/
theorem sentences_conserve (hsize : 0 < chunkSize) (line : Str) :
    (deleteWhitespace (splitRecursive chunkSize [[' '], []] ['.', ' '] line).flatten).Sublist
        (deleteWhitespace line) ∧
      (deleteWhitespace (splitRecursive chunkSize [[' '], []] ['.', ' '] line).flatten
          = deleteWhitespace line ↔
        ∀ sentence ∈ (Text.split ['.', ' '] line).dropLast, sentence.length ≤ chunkSize) := by
  have hlevel := splitLevel_conserves chunkSize (List.cons_ne_nil '.' [' '])
    (fun part => by rw [words_conserve hsize]) line
  refine ⟨hlevel.1, hlevel.2.trans ?_⟩
  constructor
  · intro h
    exact h.2 (by decide)
  · intro h
    exact ⟨fun part _ _ => words_conserve hsize part, fun _ => h⟩

/-- A separator of blanks passes the law of the next level on to the parts. -/
theorem blank_level_conserves {separator : Str} {deeper : Str → List Str}
    {Kept : Str → Prop} (hsep : separator ≠ []) (hblank : deleteWhitespace separator = [])
    (hdeeper : ∀ part,
      (deleteWhitespace (deeper part).flatten).Sublist (deleteWhitespace part) ∧
        (deleteWhitespace (deeper part).flatten = deleteWhitespace part ↔ Kept part))
    (hshort : ∀ part : Str, part.length ≤ chunkSize → Kept part) (text : Str) :
    (deleteWhitespace (splitLevel chunkSize separator (some deeper) text).flatten).Sublist
        (deleteWhitespace text) ∧
      (deleteWhitespace (splitLevel chunkSize separator (some deeper) text).flatten
          = deleteWhitespace text ↔ ∀ part ∈ Text.split separator text, Kept part) := by
  have hlevel := splitLevel_conserves chunkSize hsep
    (fun part => (hdeeper part).1) text
  refine ⟨hlevel.1, hlevel.2.trans ?_⟩
  constructor
  · rintro ⟨hlong, -⟩ part hpart
    by_cases hlength : chunkSize < part.length
    · exact (hdeeper part).2.mp (hlong part hpart hlength)
    · exact hshort part (Nat.not_lt.mp hlength)
  · intro h
    exact ⟨fun part hpart _ => (hdeeper part).2.mpr (h part hpart), fun hne => absurd hblank hne⟩

theorem recursivePieces_conserve (hsize : 0 < chunkSize) (text : Str) :
    (deleteWhitespace (recursivePieces text chunkSize).flatten).Sublist
        (deleteWhitespace text) ∧
      (deleteWhitespace (recursivePieces text chunkSize).flatten = deleteWhitespace text ↔
        LongSentencesEndLines chunkSize text) := by
  have hsentences : ∀ line : Str, line.length ≤ chunkSize →
      ∀ sentence ∈ (Text.split ['.', ' '] line).dropLast, sentence.length ≤ chunkSize := by
    intro line hline sentence hsentence
    exact (mem_split_length (by simp) (List.dropLast_subset _ hsentence)).trans hline
  have hlines := blank_level_conserves (List.cons_ne_nil '\n' []) rfl
    (sentences_conserve hsize) hsentences
  have hparagraphs : ∀ paragraph : Str, paragraph.length ≤ chunkSize →
      ∀ line ∈ Text.split ['\n'] paragraph,
        ∀ sentence ∈ (Text.split ['.', ' '] line).dropLast, sentence.length ≤ chunkSize := by
    intro paragraph hparagraph line hline
    exact hsentences line ((mem_split_length (by simp) hline).trans hparagraph)
  exact blank_level_conserves (List.cons_ne_nil '\n' ['\n']) rfl hlines hparagraphs text

end Conservation

/-- Recursive splitting keeps the text, whitespace apart, exactly when no
sentence longer than a chunk is followed by another one on its line. -/
theorem recursive_split_conserves_text_iff (text : Str) (chunkSize : ℕ) (hsize : 1 ≤ chunkSize) :
    deleteWhitespace (recursivePieces text chunkSize).flatten = deleteWhitespace text ↔
      LongSentencesEndLines chunkSize text :=
  (recursivePieces_conserve hsize text).2

/-- Two sentences that fit: `"ab. cd"` in chunks of three. -/
theorem recursive_split_conserves_short_sentences :
    deleteWhitespace (recursivePieces ['a', 'b', '.', ' ', 'c', 'd'] 3).flatten
      = deleteWhitespace ['a', 'b', '.', ' ', 'c', 'd'] :=
  (recursive_split_conserves_text_iff _ 3 (by decide)).mpr (by decide)

/-- `"abcd. ef"` in chunks of three loses its full stop. -/
theorem recursive_split_loses_full_stop :
    deleteWhitespace (recursivePieces ['a', 'b', 'c', 'd', '.', ' ', 'e', 'f'] 3).flatten
      ≠ deleteWhitespace ['a', 'b', 'c', 'd', '.', ' ', 'e', 'f'] := by
  decide

/-! ## Pieces that occur in the text, one separator -/

section Found

variable {chunkSize : ℕ} {separator : Str} {deeper : Str → List Str} {fullText : Str}

theorem infix_of_mem_strippedPiece {piece text : Str} (h : piece ∈ strippedPiece text) :
    piece <:+: text := by
  obtain ⟨-, rfl⟩ := mem_strippedPiece.mp h
  exact strip_isInfix text

/-- With separators put back, what is accumulated is a stretch of the text: only
the pieces of the next level can fail to occur. -/
theorem splitParts_found_iff (hsep : separator ≠ []) (hword : separator ≠ [' '])
    (parts : List Str) (current : Str)
    (hstretch : current ++ separator.intercalate parts <:+: fullText) :
    (∀ piece ∈ splitParts chunkSize separator (some deeper) parts current,
        piece <:+: fullText) ↔
      ∀ part ∈ parts, chunkSize < part.length → ∀ piece ∈ deeper part, piece <:+: fullText := by
  induction parts generalizing current with
  | nil =>
      rw [List.intercalate_nil, List.append_nil] at hstretch
      refine iff_of_true (fun piece hpiece => ?_) (by simp)
      exact (infix_of_mem_strippedPiece hpiece).trans hstretch
  | cons part rest ih =>
      have hsuffix : partSuffix separator rest = if rest = [] then [] else separator := by
        by_cases hrest : rest = [] <;> simp [partSuffix, hrest, hsep, hword]
      rw [intercalate_cons, ← hsuffix, ← List.append_assoc, ← List.append_assoc] at hstretch
      have hcurrent : ∀ piece ∈ strippedPiece current, piece <:+: fullText := by
        intro piece hpiece
        refine (infix_of_mem_strippedPiece hpiece).trans (List.IsInfix.trans ?_ hstretch)
        exact ⟨[], part ++ partSuffix separator rest ++ separator.intercalate rest, by simp⟩
      rw [splitParts_cons]
      split
      case isTrue hfits =>
        have hpart : ¬chunkSize < part.length := by
          simp only [List.length_append] at hfits
          omega
        rw [ih _ hstretch]
        simp [hpart]
      case isFalse =>
        rw [List.forall_mem_append, and_iff_right hcurrent]
        split
        case isTrue hlong =>
          have hrest : [] ++ separator.intercalate rest <:+: fullText :=
            List.IsInfix.trans (List.suffix_append _ _).isInfix hstretch
          rw [List.forall_mem_append, ih _ hrest]
          simp [hlong]
        case isFalse hshort =>
          have hpart : part ++ partSuffix separator rest ++ separator.intercalate rest
              <:+: fullText := by
            refine List.IsInfix.trans ⟨current, [], ?_⟩ hstretch
            simp
          rw [ih _ hpart]
          simp [hshort]

/-- A level that puts its separator back finds its pieces whenever the next
level finds those of the parts. -/
theorem splitLevel_found_iff (hsep : separator ≠ []) (hword : separator ≠ [' '])
    {Found : Str → Prop}
    (hdeeper : ∀ part, part <:+: fullText →
      ((∀ piece ∈ deeper part, piece <:+: fullText) ↔ Found part))
    (hshort : ∀ part : Str, part.length ≤ chunkSize → Found part)
    {text : Str} (htext : text <:+: fullText) :
    (∀ piece ∈ splitLevel chunkSize separator (some deeper) text, piece <:+: fullText) ↔
      ∀ part ∈ Text.split separator text, Found part := by
  have hparts : ∀ part ∈ Text.split separator text, part <:+: fullText := fun part hpart =>
    (Text.infix_of_mem_split hsep hpart).trans htext
  by_cases hfits : text.length ≤ chunkSize
  · rw [splitLevel, if_pos hfits]
    refine iff_of_true (fun piece hpiece => ?_) (fun part hpart => ?_)
    · exact (infix_of_mem_strippedPiece hpiece).trans htext
    · exact hshort part ((mem_split_length hsep hpart).trans hfits)
  · have hstretch : [] ++ separator.intercalate (Text.split separator text) <:+: fullText := by
      rwa [List.nil_append, Text.intercalate_split hsep]
    rw [splitLevel, if_neg hfits, if_neg hsep, splitParts_found_iff hsep hword _ _ hstretch]
    constructor
    · intro h part hpart
      by_cases hlong : chunkSize < part.length
      · exact (hdeeper part (hparts part hpart)).mp (h part hpart hlong)
      · exact hshort part (Nat.not_lt.mp hlong)
    · intro h part hpart _
      exact (hdeeper part (hparts part hpart)).mpr (h part hpart)

/-! ## Packed words -/

/-- The non-empty words of a sentence. -/
def words (sentence : Str) : List Str :=
  (Text.split [' '] sentence).filter (· ≠ [])

/-- The words of a sentence as they fall into chunks: filled up in order to
`chunk_size` characters, a longer word by itself. -/
def wordPacks (chunkSize : ℕ) (sentence : Str) : List (List Str) :=
  Text.nextFit List.length chunkSize (words sentence) []

/-- At the blank, the pieces are the packs of words, run together. -/
theorem splitParts_words_found_iff
    (hdeeper : ∀ part, part <:+: fullText → ∀ piece ∈ deeper part, piece <:+: fullText)
    (parts pack : List Str) (hparts : ∀ part ∈ parts, part <:+: fullText)
    (hpack : pack.flatten.length ≤ chunkSize) :
    (∀ piece ∈ splitParts chunkSize [' '] (some deeper) parts pack.flatten,
        piece <:+: fullText) ↔
      ∀ run ∈ Text.nextFit List.length chunkSize (parts.filter (· ≠ [])) pack,
        strip run.flatten <:+: fullText := by
  have hstripped : ∀ text : Str, (∀ piece ∈ strippedPiece text, piece <:+: fullText) ↔
      strip text <:+: fullText := by
    intro text
    by_cases h : strip text = [] <;> simp [strippedPiece, h]
  induction parts generalizing pack with
  | nil => simpa [splitParts, Text.nextFit] using hstripped pack.flatten
  | cons part rest ih =>
      obtain ⟨hpart, hrest⟩ := List.forall_mem_cons.mp hparts
      have hsuffix : partSuffix [' '] rest = [] := by simp [partSuffix]
      rw [splitParts_cons, hsuffix, List.append_nil]
      by_cases hempty : part = []
      · -- Two blanks in a row: nothing is added.
        subst hempty
        rw [List.append_nil, if_pos hpack, List.filter_cons_of_neg (by simp)]
        exact ih pack hrest hpack
      rw [List.filter_cons_of_pos (by simpa using hempty), Text.nextFit, ← List.length_flatten,
        List.length_append]
      split
      case isTrue hfits =>
        have hnext := ih (pack ++ [part]) hrest (by simpa using hfits)
        simpa using hnext
      case isFalse =>
        rw [List.forall_mem_append, hstripped, List.forall_mem_cons]
        refine and_congr_right fun _ => ?_
        split
        case isTrue hlong =>
          have hnext := ih [] hrest (by simp)
          rw [List.forall_mem_append, and_iff_right (hdeeper part hpart)]
          exact hnext
        case isFalse hshort =>
          have hnext := ih [part] hrest (by simpa using hshort)
          simpa using hnext

/-- The packs of two or more words of a sentence too long for a chunk occur in
the text without the blanks between them. -/
def PacksOccur (chunkSize : ℕ) (fullText sentence : Str) : Prop :=
  chunkSize < sentence.length → ∀ pack ∈ wordPacks chunkSize sentence, 2 ≤ pack.length →
    strip pack.flatten <:+: fullText

theorem infix_of_mem_words {sentence word : Str} (h : word ∈ words sentence) :
    word <:+: sentence :=
  Text.infix_of_mem_split (by simp) (List.mem_of_mem_filter h)

theorem splitRecursive_slices_found (text : Str) (htext : text <:+: fullText) :
    ∀ piece ∈ splitRecursive chunkSize [] [] text, piece <:+: fullText := by
  intro piece hpiece
  rw [splitRecursive, splitLevel] at hpiece
  split at hpiece
  · exact (infix_of_mem_strippedPiece hpiece).trans htext
  · rw [if_pos rfl, List.mem_flatMap] at hpiece
    obtain ⟨window, hwindow, hpiece⟩ := hpiece
    exact (infix_of_mem_strippedPiece hpiece).trans
      ((Text.infix_of_mem_slices hwindow).trans htext)

theorem sentence_found_iff {sentence : Str} (hsentence : sentence <:+: fullText) :
    (∀ piece ∈ splitRecursive chunkSize [[]] [' '] sentence, piece <:+: fullText) ↔
      PacksOccur chunkSize fullText sentence := by
  rw [splitRecursive, splitLevel]
  split
  case isTrue hfits =>
    refine iff_of_true (fun piece hpiece => ?_) (fun hlong => absurd hfits (Nat.not_le.mpr hlong))
    exact (infix_of_mem_strippedPiece hpiece).trans hsentence
  case isFalse hlong =>
    have hparts : ∀ part ∈ Text.split [' '] sentence, part <:+: fullText := fun part hpart =>
      (Text.infix_of_mem_split (by simp) hpart).trans hsentence
    rw [if_neg (by simp)]
    refine (splitParts_words_found_iff splitRecursive_slices_found _ [] hparts
      (by simp)).trans ?_
    constructor
    · intro h _ pack hpack _
      exact h pack hpack
    · intro h pack hpack
      -- A pack of at most one word occurs because the word does.
      match pack with
      | [] => exact ⟨[], fullText, rfl⟩
      | [word] =>
          have hword : word ∈ words sentence :=
            (Text.mem_of_mem_nextFit hpack List.mem_cons_self).resolve_right List.not_mem_nil
          rw [List.flatten_singleton]
          exact (strip_isInfix word).trans ((infix_of_mem_words hword).trans hsentence)
      | word :: next :: pack => exact h (Nat.not_le.mp hlong) _ hpack (by simp)

/-! ## Acceptance -/

/-- In every sentence too long for a chunk, words that fall into one chunk also
occur in the text run together. -/
def PackedWordsOccur (chunkSize : ℕ) (fullText : Str) : Prop :=
  ∀ paragraph ∈ Text.split ['\n', '\n'] fullText, ∀ line ∈ Text.split ['\n'] paragraph,
    ∀ sentence ∈ Text.split ['.', ' '] line, PacksOccur chunkSize fullText sentence

instance (chunkSize : ℕ) (fullText sentence : Str) :
    Decidable (PacksOccur chunkSize fullText sentence) := by
  unfold PacksOccur
  infer_instance

instance (chunkSize : ℕ) (fullText : Str) : Decidable (PackedWordsOccur chunkSize fullText) := by
  unfold PackedWordsOccur
  infer_instance

theorem recursivePieces_found_iff :
    (∀ piece ∈ recursivePieces fullText chunkSize, piece <:+: fullText) ↔
      PackedWordsOccur chunkSize fullText := by
  have hsentences : ∀ sentence : Str, sentence.length ≤ chunkSize →
      PacksOccur chunkSize fullText sentence := fun sentence hshort hlong =>
    absurd hshort (Nat.not_le.mpr hlong)
  have hlineShort : ∀ line : Str, line.length ≤ chunkSize →
      ∀ sentence ∈ Text.split ['.', ' '] line, PacksOccur chunkSize fullText sentence :=
    fun line hline sentence hsentence =>
      hsentences sentence ((mem_split_length (by simp) hsentence).trans hline)
  have hparagraphShort : ∀ paragraph : Str, paragraph.length ≤ chunkSize →
      ∀ line ∈ Text.split ['\n'] paragraph, ∀ sentence ∈ Text.split ['.', ' '] line,
        PacksOccur chunkSize fullText sentence :=
    fun paragraph hparagraph line hline =>
      hlineShort line ((mem_split_length (by simp) hline).trans hparagraph)
  have hlines : ∀ line : Str, line <:+: fullText →
      ((∀ piece ∈ splitRecursive chunkSize [[' '], []] ['.', ' '] line, piece <:+: fullText) ↔
        ∀ sentence ∈ Text.split ['.', ' '] line, PacksOccur chunkSize fullText sentence) :=
    fun line hline => splitLevel_found_iff (by simp) (by simp)
      (fun _ hsentence => sentence_found_iff hsentence) hsentences hline
  have hparagraphs : ∀ paragraph : Str, paragraph <:+: fullText →
      ((∀ piece ∈ splitRecursive chunkSize [['.', ' '], [' '], []] ['\n'] paragraph,
          piece <:+: fullText) ↔
        ∀ line ∈ Text.split ['\n'] paragraph, ∀ sentence ∈ Text.split ['.', ' '] line,
          PacksOccur chunkSize fullText sentence) :=
    fun paragraph hparagraph => splitLevel_found_iff (by simp) (by decide)
      hlines hlineShort hparagraph
  exact splitLevel_found_iff (by simp) (by simp) hparagraphs hparagraphShort List.infix_rfl

/-- The mapping back succeeds exactly when every piece occurs. -/
theorem buildChunksFrom_ok_iff (metadata : JsonObject) (pieces : List Str)
    (chunkIndex searchStart : ℕ) :
    (∃ chunks, buildChunksFrom fullText metadata pieces chunkIndex searchStart = .ok chunks) ↔
      ∀ piece ∈ pieces, strip piece <:+: fullText := by
  induction pieces generalizing chunkIndex searchStart with
  | nil => simp [buildChunksFrom]
  | cons piece pieces ih =>
      rw [buildChunksFrom, List.forall_mem_cons]
      by_cases hblank : strip piece = []
      · rw [if_pos hblank, ih, hblank]
        simp
      rw [if_neg hblank, Option.orElse_eq_orElse, Option.orElse_eq_or]
      rcases hfound : (Text.find fullText (strip piece) searchStart).or
          (Text.find fullText (strip piece) 0) with _ | start
      · have hnone : Text.find fullText (strip piece) 0 = none :=
          (Option.or_eq_none_iff.mp hfound).2
        simp [Text.find_zero_eq_none_iff.mp hnone]
      · have hoccurs : strip piece <:+: fullText := by
          rcases Option.or_eq_some_iff.mp hfound with h | ⟨-, h⟩ <;>
            exact (Text.prefix_of_find_eq_some h).isInfix.trans (List.drop_suffix _ _).isInfix
        rw [and_iff_right hoccurs, ← ih (chunkIndex + 1) (start + (strip piece).length)]
        rcases hrest : buildChunksFrom fullText metadata pieces (chunkIndex + 1)
          (start + (strip piece).length) with e | chunks
        · simp [hrest, bind, Except.bind]
        · simp [hrest, bind, Except.bind, pure, Except.pure]

end Found

/-! ## Pieces are stripped -/

section Stripped

variable {chunkSize : ℕ} {separator : Str} {P : Str → Prop}

theorem forall_mem_strippedPiece (hstripped : ∀ text, strip text ≠ [] → P (strip text))
    (text : Str) : ∀ piece ∈ strippedPiece text, P piece := by
  intro piece hpiece
  obtain ⟨hsolid, rfl⟩ := mem_strippedPiece.mp hpiece
  exact hstripped text hsolid

/-- What holds of every stripped text that is not blank holds of the pieces of a
level, if it holds of those of the next level. -/
theorem forall_mem_splitLevel {deeper : Str → List Str}
    (hstripped : ∀ text, strip text ≠ [] → P (strip text))
    (hdeeper : ∀ part, ∀ piece ∈ deeper part, P piece) (text : Str) :
    ∀ piece ∈ splitLevel chunkSize separator (some deeper) text, P piece := by
  have hparts : ∀ (parts : List Str) (current : Str),
      ∀ piece ∈ splitParts chunkSize separator (some deeper) parts current, P piece := by
    intro parts
    induction parts with
    | nil => exact fun current => forall_mem_strippedPiece hstripped current
    | cons part rest ih =>
        intro current
        rw [splitParts_cons]
        split
        · exact ih _
        · rw [List.forall_mem_append]
          refine ⟨forall_mem_strippedPiece hstripped current, ?_⟩
          split
          · exact List.forall_mem_append.mpr ⟨hdeeper part, ih []⟩
          · exact ih _
  rw [splitLevel]
  split
  · exact forall_mem_strippedPiece hstripped text
  split
  · intro piece hpiece
    obtain ⟨window, -, hpiece⟩ := List.mem_flatMap.mp hpiece
    exact forall_mem_strippedPiece hstripped window piece hpiece
  · exact hparts _ _

theorem forall_mem_recursivePieces (hstripped : ∀ text, strip text ≠ [] → P (strip text))
    (text : Str) : ∀ piece ∈ recursivePieces text chunkSize, P piece := by
  have hslices : ∀ part, ∀ piece ∈ splitRecursive chunkSize [] [] part, P piece := by
    intro part piece hpiece
    rw [splitRecursive, splitLevel] at hpiece
    split at hpiece
    · exact forall_mem_strippedPiece hstripped part piece hpiece
    · rw [if_pos rfl] at hpiece
      obtain ⟨window, -, hpiece⟩ := List.mem_flatMap.mp hpiece
      exact forall_mem_strippedPiece hstripped window piece hpiece
  exact forall_mem_splitLevel hstripped (forall_mem_splitLevel hstripped
    (forall_mem_splitLevel hstripped (forall_mem_splitLevel hstripped hslices))) text

theorem strip_of_mem_recursivePieces {text piece : Str}
    (h : piece ∈ recursivePieces text chunkSize) : strip piece = piece :=
  forall_mem_recursivePieces (P := fun p => strip p = p) (fun t _ => strip_strip t) text piece h

theorem ne_nil_of_mem_recursivePieces {text piece : Str}
    (h : piece ∈ recursivePieces text chunkSize) : piece ≠ [] :=
  forall_mem_recursivePieces (P := fun p => p ≠ []) (fun _ hsolid => hsolid) text piece h

/-- Stripping the pieces and leaving out the blank ones changes nothing. -/
theorem solidPieces_recursivePieces (text : Str) :
    ((recursivePieces text chunkSize).map strip).filter (· ≠ [])
      = recursivePieces text chunkSize := by
  have hstripped : (recursivePieces text chunkSize).map strip
      = recursivePieces text chunkSize :=
    (List.map_congr_left fun piece hpiece => strip_of_mem_recursivePieces hpiece).trans
      (List.map_id _)
  rw [hstripped, List.filter_eq_self]
  intro piece hpiece
  simpa using ne_nil_of_mem_recursivePieces hpiece

end Stripped

theorem validateChunkParams_ok {chunkSize overlap : ℤ} (hsize : 0 < chunkSize)
    (hoverlap : 0 ≤ overlap) (hsmaller : overlap < chunkSize) :
    validateChunkParams chunkSize overlap = .ok () := by
  rw [validateChunkParams, if_neg (by omega), if_neg (by omega), if_neg (by omega)]

/-- The pieces of a text can be mapped back exactly when its packed words occur. -/
theorem map_recursivePieces_ok_iff (metadata : JsonObject) (text : Str) (chunkSize : ℕ) :
    (∃ chunks, buildChunksFrom text metadata (recursivePieces text chunkSize) 0 0
        = .ok chunks) ↔ PackedWordsOccur chunkSize text := by
  rw [buildChunksFrom_ok_iff, ← recursivePieces_found_iff]
  refine forall₂_congr fun piece hpiece => ?_
  rw [strip_of_mem_recursivePieces hpiece]

/-- Recursive chunking accepts a text exactly when the words it packs into one
chunk occur in the stripped text run together. -/
theorem recursive_chunking_accepts_iff (text : Str) (chunkSize overlap : ℤ)
    (hsize : 0 < chunkSize) (hoverlap : 0 ≤ overlap) (hsmaller : overlap < chunkSize) :
    (∃ chunks, chunkText text .recursive chunkSize overlap = .ok chunks) ↔
      PackedWordsOccur chunkSize.toNat (strip text) := by
  rw [← map_recursivePieces_ok_iff (chunkMetadata .recursive chunkSize.toNat overlap.toNat)]
  by_cases hblank : strip text = []
  · have hempty : recursivePieces [] chunkSize.toNat = [] := by
      simp [recursivePieces, splitRecursive, splitLevel, strippedPiece, strip, Text.strip]
    simp [chunkText, hblank, hempty, buildChunksFrom, pure, Except.pure]
  · simp [chunkText, hblank, validateChunkParams_ok hsize hoverlap hsmaller, chunkRecursive,
      buildChunksFromPieces, bind, Except.bind]

/-- `"ab cd"` in chunks of two: no two words share a chunk. -/
theorem recursive_chunking_accepts_single_words :
    ∃ chunks, chunkText ['a', 'b', ' ', 'c', 'd'] .recursive 2 0 = .ok chunks :=
  (recursive_chunking_accepts_iff _ 2 0 (by decide) (by decide) (by decide)).mpr (by decide)

/-- `"ab cd"` in chunks of four: the two words become `"abcd"`, which is not in
the text. -/
theorem recursive_chunking_raises :
    chunkText ['a', 'b', ' ', 'c', 'd'] .recursive 4 0
      = .error (.valueError "Failed to map chunk back to source text.") := by
  rfl

end ContextLens
