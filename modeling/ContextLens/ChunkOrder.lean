import ContextLens.ChunkOffsets
import ContextLens.Foundations.TextLayout
import Mathlib.Data.List.Chain

/-!
# When recursive chunks are in order

The mapping takes the first occurrence behind the previous piece, so it keeps
the pieces in order whenever the text has room for them in order
(`buildChunksFrom_inOrder_iff`).

`_split_recursive` cuts the text into consecutive stretches and takes a piece
from each (`CutInto`).  A piece is a part of its stretch except where words are
packed: the blank between two words that are not whitespace is gone, and the
piece cannot stand where its words do.  Everything but whitespace and full stops
keeps its place in any layout, so such a piece can only be laid out in order when
it has nothing else (`CutInto.stops_of_inTurn`).

A pack of full stops alone takes a full stop followed by a blank of another kind,
such as a tab: at `". "` and at line breaks the text is cut before words are
packed (`PlainStops`, `marked_of_plainStops`).
-/

namespace ContextLens

open Foundations

/-- Every chunk begins at or behind the end of the one before it. -/
def InOrder (chunks : List ChunkData) : Prop :=
  chunks.IsChain fun chunk next => chunk.endChar ≤ next.startChar

instance (chunks : List ChunkData) : Decidable (InOrder chunks) := by
  unfold InOrder
  infer_instance

/-! ## The mapping keeps an order there is -/

section Mapping

variable {fullText : Str} {metadata : JsonObject}

/-- The mapping falls back to an earlier place only when there is none behind. -/
theorem mappedStart_le_iff {content : Str} {searchStart start : ℕ} (hsolid : content ≠ [])
    (h : mappedStart fullText content searchStart = some start) :
    searchStart ≤ start ↔ Text.find fullText content searchStart = some start := by
  constructor
  · intro hle
    have hprefix := prefix_of_mappedStart h
    have hlength : start ≤ fullText.length := by
      by_contra hlong
      rw [List.drop_of_length_le (by omega)] at hprefix
      exact hsolid (List.prefix_nil.mp hprefix)
    obtain ⟨i, -, hi⟩ := Text.exists_find_le hle hlength hprefix
    rw [mappedStart, hi, Option.some_or] at h
    rw [hi, h]
  · exact Text.le_of_find_eq_some

theorem buildChunksFrom_inOrder_iff (pieces : List Str) (chunkIndex searchStart : ℕ)
    (chunks : List ChunkData)
    (h : buildChunksFrom fullText metadata pieces chunkIndex searchStart = .ok chunks) :
    (∀ chunk ∈ chunks.head?, searchStart ≤ chunk.startChar) ∧ InOrder chunks ↔
      Text.InTurn ((pieces.map strip).filter (· ≠ [])) (fullText.drop searchStart) := by
  induction pieces generalizing chunkIndex searchStart chunks with
  | nil =>
      obtain rfl : [] = chunks := by simpa [buildChunksFrom] using h
      simp [InOrder]
  | cons piece pieces ih =>
      by_cases hblank : strip piece = []
      · rw [buildChunksFrom_blank hblank] at h
        rw [ih _ _ chunks h, List.map_cons, List.filter_cons_of_neg (by simpa using hblank)]
      · obtain ⟨start, rest, hstart, hrest, rfl⟩ := buildChunksFrom_cons_ok hblank h
        have hih := ih _ _ rest hrest
        rw [List.map_cons, List.filter_cons_of_pos (by simpa using hblank),
          Text.inTurn_cons_iff hblank, InOrder, List.isChain_cons]
        have hfirst : (∀ chunk ∈ (pieceChunk metadata (strip piece) chunkIndex start :: rest).head?,
            searchStart ≤ chunk.startChar) ↔
              Text.find fullText (strip piece) searchStart = some start := by
          rw [← mappedStart_le_iff hblank hstart]
          simp [pieceChunk]
        rw [hfirst]
        constructor
        · rintro ⟨hfound, hchain⟩
          exact ⟨start, hfound, hih.mp hchain⟩
        · rintro ⟨i, hfound, hlayout⟩
          -- The piece that is found behind the previous one is the one mapped.
          obtain rfl : i = start := by
            rw [mappedStart, hfound, Option.some_or] at hstart
            exact Option.some_inj.mp hstart
          exact ⟨hfound, hih.mpr hlayout⟩

end Mapping

/-! ## Stretches of the text and their pieces -/

/-- A character that is neither whitespace nor a full stop. -/
def isMark (c : Char) : Bool := !Python.isSpace c && c ≠ '.'

theorem not_space_of_isMark (c : Char) (h : isMark c = true) : Python.isSpace c = false := by
  simp only [isMark, Bool.and_eq_true, Bool.not_eq_true'] at h
  exact h.1

/-- The words of a pack that are not whitespace. -/
def solidWords (pack : List Str) : List Str :=
  pack.filter fun word => strip word ≠ []

/-- A stretch of the text whose words, in order, are those of the pack. -/
structure PackStretch (stretch : Str) (pack : List Str) : Prop where
  same : deleteWhitespace stretch = deleteWhitespace pack.flatten
  words : ∀ word ∈ pack, word <:+: stretch
  blankFree : ∀ word ∈ pack, ' ' ∉ word
  gap : 2 ≤ (solidWords pack).length → ∃ left right, stretch = left ++ ' ' :: right ∧
    deleteWhitespace left ≠ [] ∧ deleteWhitespace right ≠ []

/-- The text is cut into consecutive stretches and the pieces are taken from
them, with the packs among the stretches listed. -/
inductive CutInto : Str → List Str → List (List Str) → Prop
  | gap {stretch : Str} (hmarks : stretch.filter isMark = []) : CutInto stretch [] []
  | verbatim (stretch : Str) : CutInto stretch (strippedPiece stretch) []
  | packed {stretch : Str} {pack : List Str} (h : PackStretch stretch pack) :
      CutInto stretch (strippedPiece pack.flatten) [pack]
  | append {text text' : Str} {pieces pieces' : List Str} {packs packs' : List (List Str)}
      (h : CutInto text pieces packs) (h' : CutInto text' pieces' packs') :
      CutInto (text ++ text') (pieces ++ pieces') (packs ++ packs')

section CutInto

variable {text : Str} {pieces : List Str} {packs : List (List Str)}

theorem marks_strip (stretch : Str) :
    (strip stretch).filter isMark = stretch.filter isMark :=
  Text.filter_strip not_space_of_isMark stretch

theorem marks_strippedPiece (stretch : Str) :
    (strippedPiece stretch).flatten.filter isMark = stretch.filter isMark := by
  rw [← marks_strip stretch]
  by_cases h : strip stretch = []
  · rw [strippedPiece, if_pos h, h]
    rfl
  · rw [strippedPiece, if_neg h, List.flatten_singleton]

/-- No mark is lost, added or moved. -/
theorem CutInto.marks (h : CutInto text pieces packs) :
    pieces.flatten.filter isMark = text.filter isMark := by
  induction h with
  | gap hmarks => rw [hmarks]; rfl
  | verbatim stretch => exact marks_strippedPiece stretch
  | packed h =>
      have hsame := congrArg (List.filter isMark) h.same
      rw [deleteWhitespace, deleteWhitespace, Text.filter_squash not_space_of_isMark,
        Text.filter_squash not_space_of_isMark] at hsame
      rw [marks_strippedPiece, hsame]
  | append _ _ ih ih' => rw [List.flatten_append, List.filter_append, List.filter_append, ih, ih']

theorem strip_append_blank {s t : Str} (ht : deleteWhitespace t = []) :
    strip (s ++ t) = strip s :=
  Text.strip_append_of_blank (Text.squash_eq_nil_iff.mp ht)

theorem strip_blank_append {s t : Str} (hs : deleteWhitespace s = []) :
    strip (s ++ t) = strip t :=
  Text.strip_blank_append (Text.squash_eq_nil_iff.mp hs)

/-- A pack with one word at most that is not whitespace is that word. -/
theorem strip_flatten_of_few_solidWords {pack : List Str} (h : (solidWords pack).length ≤ 1) :
    strip pack.flatten = [] ∨ ∃ word ∈ pack, strip pack.flatten = strip word := by
  induction pack with
  | nil => exact Or.inl rfl
  | cons word pack ih =>
      by_cases hblank : strip word = []
      · rw [solidWords, List.filter_cons_of_neg (by simpa using hblank)] at h
        have hdelete : deleteWhitespace word = [] := Text.strip_eq_nil_iff.mp hblank
        rw [List.flatten_cons, strip_blank_append hdelete]
        exact (ih h).imp_right fun ⟨other, hother, heq⟩ =>
          ⟨other, List.mem_cons_of_mem _ hother, heq⟩
      · -- All the other words are whitespace.
        rw [solidWords, List.filter_cons_of_pos (by simpa using hblank), List.length_cons] at h
        have hnone : pack.filter (fun word => strip word ≠ []) = [] :=
          List.length_eq_zero_iff.mp (by omega)
        have hothers : ∀ other ∈ pack, strip other = [] := by simpa using hnone
        have hdelete : deleteWhitespace pack.flatten = [] := by
          refine Text.squash_eq_nil_iff.mpr fun c hc => ?_
          obtain ⟨other, hother, hc⟩ := List.mem_flatten.mp hc
          exact Text.squash_eq_nil_iff.mp (Text.strip_eq_nil_iff.mp (hothers other hother)) c hc
        rw [List.flatten_cons, strip_append_blank hdelete]
        exact Or.inr ⟨word, List.mem_cons_self, rfl⟩

theorem inTurn_strippedPiece {stretch piece : Str} (h : strip piece <:+: stretch) :
    Text.InTurn (strippedPiece piece) stretch := by
  by_cases hblank : strip piece = []
  · rw [strippedPiece, if_pos hblank]
    exact Text.inTurn_nil stretch
  · rw [strippedPiece, if_neg hblank]
    exact Text.inTurn_singleton.mpr h

/-- Where no pack has two words that are not whitespace the pieces occur in the
order of their stretches. -/
theorem CutInto.inTurn (h : CutInto text pieces packs)
    (hpacks : ∀ pack ∈ packs, (solidWords pack).length ≤ 1) : Text.InTurn pieces text := by
  induction h with
  | gap => exact Text.inTurn_nil _
  | verbatim stretch => exact inTurn_strippedPiece (strip_isInfix stretch)
  | @packed stretch pack h =>
      refine inTurn_strippedPiece ?_
      rcases strip_flatten_of_few_solidWords (hpacks pack List.mem_cons_self) with
        hblank | ⟨word, hword, heq⟩
      · rw [hblank]
        exact List.nil_infix
      · rw [heq]
        exact (strip_isInfix word).trans (h.words word hword)
  | append _ _ ih ih' =>
      rw [List.forall_mem_append] at hpacks
      exact (ih hpacks.1).append (ih' hpacks.2)

/-- A pack stands in the text where its piece stands among the pieces. -/
theorem CutInto.locate (h : CutInto text pieces packs) {pack : List Str} (hpack : pack ∈ packs)
    (hsolid : strip pack.flatten ≠ []) :
    ∃ front stretch back before after, text = front ++ stretch ++ back ∧
      pieces = before ++ strip pack.flatten :: after ∧
      front.filter isMark = before.flatten.filter isMark ∧ PackStretch stretch pack := by
  induction h with
  | gap => exact absurd hpack List.not_mem_nil
  | verbatim => exact absurd hpack List.not_mem_nil
  | @packed stretch pack' h =>
      obtain rfl := List.mem_singleton.mp hpack
      exact ⟨[], stretch, [], [], [], by simp, by simp [strippedPiece, hsolid], rfl, h⟩
  | @append text text' pieces pieces' packs packs' h h' ih ih' =>
      rcases List.mem_append.mp hpack with hpack | hpack
      · obtain ⟨front, stretch, back, before, after, rfl, rfl, hmarks, hstretch⟩ := ih hpack
        exact ⟨front, stretch, back ++ text', before, after ++ pieces', by simp, by simp, hmarks,
          hstretch⟩
      · obtain ⟨front, stretch, back, before, after, rfl, rfl, hmarks, hstretch⟩ := ih' hpack
        refine ⟨text ++ front, stretch, back, pieces ++ before, after, by simp, by simp, ?_,
          hstretch⟩
        rw [List.filter_append, List.flatten_append, List.filter_append, h.marks, hmarks]

/-- Pieces laid out in order keep their marks in place, so a pack of two words
that are not whitespace has none. -/
theorem CutInto.stops_of_inTurn (h : CutInto text pieces packs) (hlayout : Text.InTurn pieces text)
    {pack : List Str} (hpack : pack ∈ packs) (htwo : 2 ≤ (solidWords pack).length) :
    pack.flatten.any isMark = false := by
  by_contra hmarks
  obtain ⟨c, hc, hcmark⟩ := List.any_eq_true.mp (Bool.eq_true_of_not_eq_false hmarks)
  have hmarked : c ∈ strip pack.flatten := by
    have hfilter : c ∈ pack.flatten.filter isMark := List.mem_filter.mpr ⟨hc, hcmark⟩
    rw [← marks_strip] at hfilter
    exact (List.mem_filter.mp hfilter).1
  obtain ⟨front, stretch, back, before, after, htext, rfl, hfront, hstretch⟩ :=
    h.locate hpack (List.ne_nil_of_mem hmarked)
  obtain ⟨front', back', htext', hbefore, hafter⟩ := hlayout.split
  -- The layout leaves no mark out, so it has the same marks before the piece.
  have hfront' : before.flatten.filter isMark = front'.filter isMark := by
    have hmarks := h.marks
    rw [htext', List.append_assoc, List.filter_append, List.filter_append, List.flatten_append,
      List.flatten_cons, List.filter_append, List.filter_append] at hmarks
    exact ((Text.append_eq_append_iff_of_sublist (hbefore.filter_sublist isMark)
      ((List.Sublist.refl _).append (hafter.filter_sublist isMark))).mp hmarks).1
  obtain ⟨left, right, hgap, hleft, hright⟩ := hstretch.gap htwo
  have hsame : deleteWhitespace stretch = deleteWhitespace (strip pack.flatten) := by
    rw [deleteWhitespace_strip, hstretch.same]
  have hblankFree : ' ' ∉ strip pack.flatten := by
    intro hmem
    obtain ⟨word, hword, hmem⟩ := List.mem_flatten.mp ((strip_isInfix _).subset hmem)
    exact hstretch.blankFree word hword hmem
  rcases Text.pinned not_space_of_isMark (by decide) (htext.symm.trans htext')
    (hfront.trans hfront') hsame hblankFree ⟨c, hmarked, hcmark⟩ hgap with hnone | hnone
  · exact hleft hnone
  · exact hright hnone

end CutInto

/-! ## How splitting cuts the text -/

section PackStretch

variable {stretch blanks : Str} {pack : List Str} {word : Str}

theorem deleteWhitespace_ne_nil_of_solidWords (h : solidWords pack ≠ []) :
    deleteWhitespace pack.flatten ≠ [] := by
  obtain ⟨word, hword⟩ := List.exists_mem_of_ne_nil _ h
  obtain ⟨hmem, hsolid⟩ := List.mem_filter.mp hword
  intro hnone
  have hblank : deleteWhitespace word = [] := by
    refine Text.squash_eq_nil_iff.mpr fun c hc => ?_
    exact Text.squash_eq_nil_iff.mp hnone c (List.mem_flatten_of_mem hmem hc)
  exact (of_decide_eq_true hsolid) (Text.strip_eq_nil_iff.mpr hblank)

theorem PackStretch.nil (hblanks : deleteWhitespace blanks = []) : PackStretch blanks [] where
  same := hblanks
  words := by simp
  blankFree := by simp
  gap := by simp [solidWords]

theorem PackStretch.append_blanks (h : PackStretch stretch pack)
    (hblanks : deleteWhitespace blanks = []) : PackStretch (stretch ++ blanks) pack where
  same := by rw [deleteWhitespace_append, hblanks, List.append_nil, h.same]
  words := fun word hword => (h.words word hword).trans (List.prefix_append _ _).isInfix
  blankFree := h.blankFree
  gap := by
    intro htwo
    obtain ⟨left, right, rfl, hleft, hright⟩ := h.gap htwo
    refine ⟨left, right ++ blanks, by simp, hleft, ?_⟩
    rw [deleteWhitespace_append, hblanks, List.append_nil]
    exact hright

/-- A word that is added behind a blank. -/
theorem PackStretch.snoc (h : PackStretch stretch pack) (hword : ' ' ∉ word)
    (hend : solidWords pack ≠ [] → ∃ before, stretch = before ++ [' ']) :
    PackStretch (stretch ++ word) (pack ++ [word]) where
  same := by
    rw [deleteWhitespace_append, List.flatten_append, deleteWhitespace_append, h.same,
      List.flatten_singleton]
  words := by
    intro other hother
    rcases List.mem_append.mp hother with hother | hother
    · exact (h.words other hother).trans (List.prefix_append _ _).isInfix
    · obtain rfl := List.mem_singleton.mp hother
      exact (List.suffix_append _ _).isInfix
  blankFree := by
    intro other hother
    rcases List.mem_append.mp hother with hother | hother
    · exact h.blankFree other hother
    · obtain rfl := List.mem_singleton.mp hother
      exact hword
  gap := by
    intro htwo
    rw [solidWords, List.filter_append, List.length_append] at htwo
    by_cases hblank : strip word = []
    · -- The two words are in the pack already.
      rw [List.filter_cons_of_neg (by simpa using hblank), List.filter_nil] at htwo
      obtain ⟨left, right, rfl, hleft, hright⟩ := h.gap htwo
      refine ⟨left, right ++ word, by simp, hleft, ?_⟩
      rw [deleteWhitespace_append]
      simp [hright]
    · have hsolid : solidWords pack ≠ [] := by
        intro hnone
        rw [solidWords] at hnone
        rw [hnone, List.filter_cons_of_pos (by simpa using hblank)] at htwo
        simp at htwo
      obtain ⟨before, rfl⟩ := hend hsolid
      refine ⟨before, word, by simp, ?_, fun hnone => hblank (Text.strip_eq_nil_iff.mpr hnone)⟩
      have hsame := h.same
      have hspace : deleteWhitespace [' '] = [] := rfl
      rw [deleteWhitespace_append, hspace, List.append_nil] at hsame
      rw [hsame]
      exact deleteWhitespace_ne_nil_of_solidWords hsolid

end PackStretch

section Levels

variable {chunkSize : ℕ} {separator : Str} {deeper : Str → List Str}

/-- At the blank the stretches are those of the packs and of the words too long
for one. -/
theorem splitParts_words_cut (hdeeper : ∀ part, CutInto part (deeper part) [])
    (parts pack : List Str) (stretch : Str) (hfits : pack.flatten.length ≤ chunkSize)
    (hpack : PackStretch stretch pack) (hparts : ∀ part ∈ parts, ' ' ∉ part)
    (hend : parts ≠ [] → pack ≠ [] → ∃ before, stretch = before ++ [' ']) :
    CutInto (stretch ++ [' '].intercalate parts)
      (splitParts chunkSize [' '] (some deeper) parts pack.flatten)
      (Text.nextFit List.length chunkSize (parts.filter (· ≠ [])) pack) := by
  induction parts generalizing pack stretch with
  | nil =>
      rw [List.intercalate_nil, List.append_nil]
      exact CutInto.packed hpack
  | cons part rest ih =>
      obtain ⟨hpart, hrest⟩ := List.forall_mem_cons.mp hparts
      have hsuffix : partSuffix [' '] rest = [] := by simp [partSuffix]
      -- What separates the part from the rest.
      have hblanks : deleteWhitespace (if rest = [] then [] else [' ']) = [] := by
        split <;> rfl
      have hnext : ∀ s : Str, rest ≠ [] →
          ∃ before, s ++ (if rest = [] then [] else [' ']) = before ++ [' '] := by
        intro s hne
        exact ⟨s, by rw [if_neg hne]⟩
      have hsolid : solidWords pack ≠ [] → pack ≠ [] := by
        rintro h rfl
        exact h rfl
      rw [splitParts_cons, hsuffix, List.append_nil, intercalate_cons]
      generalize (if rest = [] then [] else [' '] : Str) = blanks at hblanks hnext ⊢
      by_cases hempty : part = []
      · subst hempty
        rw [List.append_nil, if_pos hfits, List.filter_cons_of_neg (by simp), List.nil_append,
          ← List.append_assoc]
        exact ih pack _ hfits (hpack.append_blanks hblanks) hrest fun hne _ => hnext stretch hne
      rw [List.filter_cons_of_pos (by simpa using hempty), Text.nextFit, ← List.length_flatten,
        List.length_append]
      split
      case isTrue hroom =>
        have hpack' := (hpack.snoc hpart fun h =>
          hend (List.cons_ne_nil _ _) (hsolid h)).append_blanks hblanks
        have hstep := ih (pack ++ [part]) _ (by simpa using hroom) hpack' hrest
          fun hne _ => hnext (stretch ++ part) hne
        simpa using hstep
      case isFalse =>
        split
        case isTrue hlong =>
          have hstep := ih [] _ (by simp) (PackStretch.nil hblanks) hrest
            fun _ hne => absurd rfl hne
          have hjoined := (CutInto.packed hpack).append ((hdeeper part).append hstep)
          simpa using hjoined
        case isFalse hshort =>
          have hword : PackStretch ([] ++ part) ([] ++ [part]) :=
            (PackStretch.nil rfl).snoc hpart fun h => absurd rfl h
          have hstep := ih [part] _ (by simpa using hshort) (hword.append_blanks hblanks) hrest
            fun hne _ => hnext part hne
          have hjoined := (CutInto.packed hpack).append hstep
          simpa using hjoined

/-- The windows of the last level are stretches themselves. -/
theorem slices_cut (hsize : 0 < chunkSize) (text : Str) :
    CutInto text (splitRecursive chunkSize [] [] text) [] := by
  have hwindows : ∀ windows : List Str,
      CutInto windows.flatten (windows.flatMap strippedPiece) [] := by
    intro windows
    induction windows with
    | nil => exact CutInto.gap rfl
    | cons window windows ih => exact (CutInto.verbatim window).append ih
  rw [splitRecursive, splitLevel]
  split
  · exact CutInto.verbatim text
  · have hcut := hwindows (Text.slices chunkSize text)
    rw [Text.flatten_slices hsize] at hcut
    rwa [if_pos rfl]

/-- With separators put back the stretches are runs of parts. -/
theorem splitParts_cut (hblank : separator ≠ [' ']) (hempty : separator ≠ [])
    (hmarks : separator.filter isMark = []) {packs : Str → List (List Str)}
    (hdeeper : ∀ part, CutInto part (deeper part) (packs part))
    (hshort : ∀ part : Str, part.length ≤ chunkSize → packs part = [])
    (parts : List Str) (current : Str) :
    CutInto (current ++ separator.intercalate parts)
      (splitParts chunkSize separator (some deeper) parts current) (parts.flatMap packs) := by
  induction parts generalizing current with
  | nil =>
      rw [List.intercalate_nil, List.append_nil]
      exact CutInto.verbatim current
  | cons part rest ih =>
      have hsuffix : partSuffix separator rest = if rest = [] then [] else separator := by
        by_cases hrest : rest = [] <;> simp [partSuffix, hrest, hblank, hempty]
      have hgap : CutInto (if rest = [] then [] else separator) [] [] := by
        refine CutInto.gap ?_
        split
        · rfl
        · exact hmarks
      rw [splitParts_cons, hsuffix, intercalate_cons, List.flatMap_cons]
      generalize (if rest = [] then [] else separator) = suffix at hgap ⊢
      split
      case isTrue hfits =>
        have hpart : part.length ≤ chunkSize := by
          simp only [List.length_append] at hfits
          omega
        have hstep := ih (current ++ part ++ suffix)
        rw [hshort part hpart]
        simpa using hstep
      case isFalse =>
        split
        case isTrue =>
          have hjoined := (CutInto.verbatim current).append
            ((hdeeper part).append (hgap.append (ih [])))
          simpa using hjoined
        case isFalse hlong =>
          have hjoined := (CutInto.verbatim current).append (ih (part ++ suffix))
          rw [hshort part (Nat.not_lt.mp hlong)]
          simpa using hjoined

theorem splitLevel_cut (hblank : separator ≠ [' ']) (hempty : separator ≠ [])
    (hmarks : separator.filter isMark = []) {packs : Str → List (List Str)}
    (hdeeper : ∀ part, CutInto part (deeper part) (packs part))
    (hshort : ∀ part : Str, part.length ≤ chunkSize → packs part = []) (text : Str) :
    CutInto text (splitLevel chunkSize separator (some deeper) text)
      ((Text.split separator text).flatMap packs) := by
  rw [splitLevel, if_neg hempty]
  split
  case isTrue hfits =>
    have hnone : (Text.split separator text).flatMap packs = [] := by
      rw [List.flatMap_eq_nil_iff]
      intro part hpart
      exact hshort part ((mem_split_length hempty hpart).trans hfits)
    rw [hnone]
    exact CutInto.verbatim text
  case isFalse =>
    have hcut := splitParts_cut hblank hempty hmarks hdeeper hshort (Text.split separator text) []
    rwa [List.nil_append, Text.intercalate_split hempty] at hcut

end Levels

/-- The packs of a sentence: none when it fits into a chunk. -/
def sentencePacks (chunkSize : ℕ) (sentence : Str) : List (List Str) :=
  if sentence.length ≤ chunkSize then [] else wordPacks chunkSize sentence

/-- The packs of the words of a text, sentence by sentence. -/
def textPacks (chunkSize : ℕ) (text : Str) : List (List Str) :=
  (Text.split ['\n', '\n'] text).flatMap fun paragraph =>
    (Text.split ['\n'] paragraph).flatMap fun line =>
      (Text.split ['.', ' '] line).flatMap (sentencePacks chunkSize)

section Texts

variable {chunkSize : ℕ}

theorem sentence_cut (hsize : 0 < chunkSize) (sentence : Str) :
    CutInto sentence (splitRecursive chunkSize [[]] [' '] sentence)
      (sentencePacks chunkSize sentence) := by
  rw [splitRecursive, splitLevel, sentencePacks, if_neg (List.cons_ne_nil ' ' [])]
  split
  · exact CutInto.verbatim sentence
  · have hfits : ([] : List Str).flatten.length ≤ chunkSize := Nat.zero_le _
    have hcut := splitParts_words_cut (slices_cut hsize) (Text.split [' '] sentence) [] []
      hfits (PackStretch.nil rfl) (fun part => Text.not_mem_of_mem_split)
      (fun _ hne => absurd rfl hne)
    rwa [List.nil_append, Text.intercalate_split (List.cons_ne_nil _ _)] at hcut

/-- The pieces of a text and the packs among them. -/
theorem recursivePieces_cut (hsize : 0 < chunkSize) (text : Str) :
    CutInto text (recursivePieces text chunkSize) (textPacks chunkSize text) := by
  have hsentence : ∀ sentence : Str, sentence.length ≤ chunkSize →
      sentencePacks chunkSize sentence = [] := fun sentence h => if_pos h
  have hline : ∀ line : Str, line.length ≤ chunkSize →
      (Text.split ['.', ' '] line).flatMap (sentencePacks chunkSize) = [] := by
    intro line h
    rw [List.flatMap_eq_nil_iff]
    exact fun sentence hmem => hsentence sentence ((mem_split_length (by simp) hmem).trans h)
  have hparagraph : ∀ paragraph : Str, paragraph.length ≤ chunkSize →
      ((Text.split ['\n'] paragraph).flatMap fun line =>
        (Text.split ['.', ' '] line).flatMap (sentencePacks chunkSize)) = [] := by
    intro paragraph h
    rw [List.flatMap_eq_nil_iff]
    exact fun line hmem => hline line ((mem_split_length (by simp) hmem).trans h)
  have hlines : ∀ line : Str, CutInto line
      (splitRecursive chunkSize [[' '], []] ['.', ' '] line)
      ((Text.split ['.', ' '] line).flatMap (sentencePacks chunkSize)) :=
    splitLevel_cut (by decide) (by decide) (by decide) (sentence_cut hsize) hsentence
  have hparagraphs : ∀ paragraph : Str, CutInto paragraph
      (splitRecursive chunkSize [['.', ' '], [' '], []] ['\n'] paragraph)
      ((Text.split ['\n'] paragraph).flatMap fun line =>
        (Text.split ['.', ' '] line).flatMap (sentencePacks chunkSize)) :=
    splitLevel_cut (by decide) (by decide) (by decide) hlines hline
  exact splitLevel_cut (by decide) (by decide) (by decide) hparagraphs hparagraph text

end Texts

/-! ## When the order is kept -/

/-- In sentences too long for a chunk no two words that are not whitespace are
packed into one chunk. -/
def NoWordsPacked (chunkSize : ℕ) (text : Str) : Prop :=
  ∀ pack ∈ textPacks chunkSize text, (solidWords pack).length ≤ 1

/-- Words are packed together only when they consist of full stops and
whitespace. -/
def OnlyStopsPacked (chunkSize : ℕ) (text : Str) : Prop :=
  ∀ pack ∈ textPacks chunkSize text, 2 ≤ (solidWords pack).length →
    pack.flatten.any isMark = false

instance (chunkSize : ℕ) (text : Str) : Decidable (NoWordsPacked chunkSize text) := by
  unfold NoWordsPacked
  infer_instance

instance (chunkSize : ℕ) (text : Str) : Decidable (OnlyStopsPacked chunkSize text) := by
  unfold OnlyStopsPacked
  infer_instance

/-- Every full stop followed by whitespace is followed by a blank or a line
break, where texts are cut before words are packed. -/
def PlainStops (text : Str) : Prop :=
  text.IsChain fun c next => c = '.' → Python.isSpace next = true → next = ' ' ∨ next = '\n'

instance (text : Str) : Decidable (PlainStops text) := by
  unfold PlainStops
  infer_instance

/-- The sentence that a pack is taken from. -/
theorem sentence_of_mem_textPacks {chunkSize : ℕ} {text : Str} {pack : List Str}
    (h : pack ∈ textPacks chunkSize text) :
    ∃ sentence, sentence <:+: text ∧ '\n' ∉ sentence ∧ ¬ ['.', ' '] <:+: sentence ∧
      pack ∈ sentencePacks chunkSize sentence := by
  simp only [textPacks, List.mem_flatMap] at h
  obtain ⟨paragraph, hparagraph, line, hline, sentence, hsentence, hpack⟩ := h
  have hbreak : ['\n', '\n'] ≠ [] := List.cons_ne_nil _ _
  have hstop : ['.', ' '] ≠ [] := List.cons_ne_nil _ _
  have hinline : sentence <:+: line := Text.infix_of_mem_split hstop hsentence
  refine ⟨sentence, ?_, ?_, Text.not_infix_of_mem_split hstop hsentence, hpack⟩
  · exact hinline.trans ((Text.infix_of_mem_split (List.cons_ne_nil _ _) hline).trans
      (Text.infix_of_mem_split hbreak hparagraph))
  · exact fun hmem => Text.not_mem_of_mem_split hline (hinline.subset hmem)

/-- A run of full stops and whitespace before a blank, with no full stop right
before whitespace, is whitespace. -/
theorem deleteWhitespace_of_stops {left : Str} (hmarks : left.filter isMark = [])
    (hchain : (left ++ [' ']).IsChain fun c next => c = '.' → Python.isSpace next = false) :
    deleteWhitespace left = [] := by
  induction left with
  | nil => rfl
  | cons c left ih =>
      rw [List.cons_append] at hchain
      have hleft : left.filter isMark = [] := by
        rw [List.filter_eq_nil_iff] at hmarks ⊢
        exact fun d hd => hmarks d (List.mem_cons_of_mem c hd)
      have hrest := ih hleft hchain.tail
      -- What follows `c` is whitespace, so `c` is no full stop.
      have hnext : ∃ next rest, left ++ [' '] = next :: rest ∧ Python.isSpace next = true := by
        cases left with
        | nil => exact ⟨' ', [], rfl, by decide⟩
        | cons next rest =>
            exact ⟨next, rest ++ [' '], rfl,
              Text.squash_eq_nil_iff.mp hrest next List.mem_cons_self⟩
      obtain ⟨next, rest, heq, hspace⟩ := hnext
      have hstop : c ≠ '.' := by
        intro hc
        rw [heq, List.isChain_cons_cons] at hchain
        rw [hchain.1 hc] at hspace
        exact Bool.false_ne_true hspace
      have hblank : Python.isSpace c = true := by
        have hmark := List.filter_eq_nil_iff.mp hmarks c List.mem_cons_self
        simpa [isMark, hstop] using hmark
      refine Text.squash_eq_nil_iff.mpr fun d hd => ?_
      rcases List.mem_cons.mp hd with rfl | hd
      · exact hblank
      · exact Text.squash_eq_nil_iff.mp hrest d hd

/-- A text has no pack of full stops alone when its full stops stand before
letters, blanks and line breaks only. -/
theorem marked_of_plainStops {chunkSize : ℕ} (hsize : 0 < chunkSize) {text : Str}
    (hplain : PlainStops text) {pack : List Str} (hpack : pack ∈ textPacks chunkSize text)
    (htwo : 2 ≤ (solidWords pack).length) : pack.flatten.any isMark = true := by
  by_contra hstops
  obtain ⟨sentence, hinfix, hlines, hseparator, hmem⟩ := sentence_of_mem_textPacks hpack
  have hsolid : strip pack.flatten ≠ [] := by
    intro hblank
    have hwords : solidWords pack ≠ [] := List.ne_nil_of_length_pos (by omega)
    exact deleteWhitespace_ne_nil_of_solidWords hwords (Text.strip_eq_nil_iff.mp hblank)
  obtain ⟨front, stretch, back, -, -, hsentence, -, -, hstretch⟩ :=
    (sentence_cut hsize sentence).locate hmem hsolid
  obtain ⟨left, right, hgap, hleft, -⟩ := hstretch.gap htwo
  have hbefore : left ++ [' '] <:+: sentence := ⟨front, right ++ back, by simp [hsentence, hgap]⟩
  have hmarks : left.filter isMark = [] := by
    have hnone : stretch.filter isMark = [] := by
      have hsame := congrArg (List.filter isMark) hstretch.same
      rw [deleteWhitespace, deleteWhitespace, Text.filter_squash not_space_of_isMark,
        Text.filter_squash not_space_of_isMark] at hsame
      rw [hsame, List.filter_eq_nil_iff]
      exact fun c hc hmark => hstops (List.any_eq_true.mpr ⟨c, hc, hmark⟩)
    rw [hgap, List.filter_append] at hnone
    exact (List.append_eq_nil_iff.mp hnone).1
  -- A full stop before whitespace would be a sentence's end or the line's.
  have hchain : sentence.IsChain fun c next => c = '.' → Python.isSpace next = false := by
    rw [List.isChain_iff_forall_rel_of_append_cons_cons]
    rintro c next front' back' hpair rfl
    by_contra hspace
    have hinside := hplain.infix hinfix
    have hnext := List.isChain_iff_forall_rel_of_append_cons_cons.mp hinside
      hpair rfl (Bool.eq_true_of_not_eq_false hspace)
    rcases hnext with rfl | rfl
    · exact hseparator ⟨front', back', by simp [hpair]⟩
    · exact hlines (by simp [hpair])
  have hchainBefore := hchain.infix hbefore
  exact hleft (deleteWhitespace_of_stops hmarks hchainBefore)

/-- Where no two words are packed the chunks are in order.  Chunks in order have
no packed words but full stops, and in a text with plain full stops none. -/
theorem recursivePieces_inTurn {chunkSize : ℕ} (hsize : 0 < chunkSize) (text : Str) :
    (NoWordsPacked chunkSize text → Text.InTurn (recursivePieces text chunkSize) text) ∧
      (Text.InTurn (recursivePieces text chunkSize) text → OnlyStopsPacked chunkSize text) ∧
      (PlainStops text → OnlyStopsPacked chunkSize text → NoWordsPacked chunkSize text) := by
  have hcut := recursivePieces_cut hsize text
  refine ⟨hcut.inTurn, fun hlayout pack hpack => hcut.stops_of_inTurn hlayout hpack, ?_⟩
  intro hplain hstops pack hpack
  by_contra htwo
  have hmarked := marked_of_plainStops hsize hplain hpack (by omega)
  rw [hstops pack hpack (by omega)] at hmarked
  exact Bool.false_ne_true hmarked

/-- A call that returns gives its chunks in order exactly when the pieces can
be laid out in order in the stripped text. -/
theorem chunkText_recursive_inOrder_iff {text : Str} {chunkSize overlap : ℤ}
    (hsize : 0 < chunkSize) (hoverlap : 0 ≤ overlap) (hsmaller : overlap < chunkSize) :
    (∀ chunks, chunkText text .recursive chunkSize overlap = .ok chunks → InOrder chunks) ↔
      (PackedWordsOccur chunkSize.toNat (strip text) →
        Text.InTurn (recursivePieces (strip text) chunkSize.toNat) (strip text)) := by
  by_cases htext : strip text = []
  · have hempty : recursivePieces [] chunkSize.toNat = [] := by
      simp [recursivePieces, splitRecursive, splitLevel, strippedPiece, strip, Text.strip]
    simp [chunkText_blank .recursive htext, htext, hempty, InOrder]
  rw [chunkText_recursive hsize hoverlap hsmaller htext]
  have hmapped := map_recursivePieces_ok_iff
    (chunkMetadata .recursive chunkSize.toNat overlap.toNat) (strip text) chunkSize.toNat
  have hlayout : ∀ chunks, buildChunksFrom (strip text)
      (chunkMetadata .recursive chunkSize.toNat overlap.toNat)
      (recursivePieces (strip text) chunkSize.toNat) 0 0 = .ok chunks →
      (InOrder chunks ↔
        Text.InTurn (recursivePieces (strip text) chunkSize.toNat) (strip text)) := by
    intro chunks hchunks
    have horder := buildChunksFrom_inOrder_iff _ 0 0 chunks hchunks
    rw [solidPieces_recursivePieces, List.drop_zero] at horder
    rw [← horder, and_iff_right fun chunk _ => Nat.zero_le _]
  constructor
  · intro h hoccur
    obtain ⟨chunks, hchunks⟩ := hmapped.mpr hoccur
    exact (hlayout chunks hchunks).mp (h chunks hchunks)
  · intro h chunks hchunks
    exact (hlayout chunks hchunks).mpr (h (hmapped.mp ⟨chunks, hchunks⟩))

/-- Recursive chunks that a call returns are in order when it packs no two words
into one chunk; chunks in order can only have full stops packed together; and
where full stops before whitespace stand before blanks and line breaks the chunks
are in order exactly when no two words are packed. -/
theorem recursive_chunks_in_order_iff (text : Str) (chunkSize overlap : ℤ)
    (hsize : 0 < chunkSize) (hoverlap : 0 ≤ overlap) (hsmaller : overlap < chunkSize) :
    ((PackedWordsOccur chunkSize.toNat (strip text) →
        NoWordsPacked chunkSize.toNat (strip text)) →
      ∀ chunks, chunkText text .recursive chunkSize overlap = .ok chunks → InOrder chunks) ∧
    ((∀ chunks, chunkText text .recursive chunkSize overlap = .ok chunks → InOrder chunks) →
      PackedWordsOccur chunkSize.toNat (strip text) →
        OnlyStopsPacked chunkSize.toNat (strip text)) ∧
    (PlainStops (strip text) →
      ((∀ chunks, chunkText text .recursive chunkSize overlap = .ok chunks → InOrder chunks) ↔
        (PackedWordsOccur chunkSize.toNat (strip text) →
          NoWordsPacked chunkSize.toNat (strip text)))) := by
  rw [chunkText_recursive_inOrder_iff hsize hoverlap hsmaller]
  have hpositive : 0 < chunkSize.toNat := by omega
  obtain ⟨hnone, hstops, hplain⟩ := recursivePieces_inTurn hpositive (strip text)
  refine ⟨fun h hoccur => hnone (h hoccur), fun h hoccur => hstops (h hoccur), ?_⟩
  exact fun htext => ⟨fun h hoccur => hplain htext (hstops (h hoccur)),
    fun h hoccur => hnone (h hoccur)⟩

/-- `"ab cd"` in chunks of two. -/
theorem recursive_chunks_in_order_single_words :
    (chunkText ['a', 'b', ' ', 'c', 'd'] .recursive 2 0).isOk = true ∧
      ∀ chunks, chunkText ['a', 'b', ' ', 'c', 'd'] .recursive 2 0 = .ok chunks →
        InOrder chunks :=
  ⟨by decide, (recursive_chunks_in_order_iff _ 2 0 (by decide) (by decide) (by decide)).1
    fun _ => by decide⟩

/-- `"ab a b"` in chunks of two: the words of the second chunk are packed into
`"ab"`, which is found where the first chunk is. -/
theorem recursive_chunks_not_in_order :
    ¬ ∀ chunks, chunkText ['a', 'b', ' ', 'a', ' ', 'b'] .recursive 2 0 = .ok chunks →
      InOrder chunks := by
  intro h
  have horder := h _ rfl
  revert horder
  decide

end ContextLens
