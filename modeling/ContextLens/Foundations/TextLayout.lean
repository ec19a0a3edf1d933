import ContextLens.Foundations.Text

/-!
# Laying pieces out in a text

`InTurn pieces text`: the pieces occur in the text in order and without
overlapping.  Layouts compose along the text, searching from the left finds one
whenever there is one (`inTurn_cons_iff`), none of its places behind the given ones
(`exists_placeInTurn_le`), and the marks of a text, symbols that no layout may
leave out, pin a piece to its place (`pinned`).
-/

namespace Foundations

namespace Text

variable {α : Type*}

/-- The pieces occur in the text one after the other, without overlapping. -/
def InTurn : List (List α) → List α → Prop
  | [], _ => True
  | piece :: pieces, text =>
      ∃ before after, text = before ++ piece ++ after ∧ InTurn pieces after

section InTurn

variable {pieces pieces' : List (List α)} {piece text text' : List α}

@[simp] theorem inTurn_nil (text : List α) : InTurn [] text := trivial

theorem inTurn_singleton : InTurn [piece] text ↔ piece <:+: text := by
  constructor
  · rintro ⟨before, after, rfl, -⟩
    exact ⟨before, after, rfl⟩
  · rintro ⟨before, after, rfl⟩
    exact ⟨before, after, rfl, trivial⟩

/-- More text in front does no harm. -/
theorem InTurn.append_left (front : List α) (h : InTurn pieces text) :
    InTurn pieces (front ++ text) := by
  cases pieces with
  | nil => exact trivial
  | cons piece pieces =>
      obtain ⟨before, after, rfl, hrest⟩ := h
      exact ⟨front ++ before, after, by simp, hrest⟩

/-- Layouts of two texts are a layout of the two joined. -/
theorem InTurn.append (h : InTurn pieces text) (h' : InTurn pieces' text') :
    InTurn (pieces ++ pieces') (text ++ text') := by
  induction pieces generalizing text with
  | nil => exact h'.append_left text
  | cons piece pieces ih =>
      obtain ⟨before, after, rfl, hrest⟩ := h
      exact ⟨before, after ++ text', by simp, ih hrest⟩

theorem InTurn.append_right (back : List α) (h : InTurn pieces text) :
    InTurn pieces (text ++ back) := by
  simpa using h.append (inTurn_nil back)

/-- A layout splits at each of its pieces. -/
theorem InTurn.split (h : InTurn (pieces ++ piece :: pieces') text) :
    ∃ before after, text = before ++ piece ++ after ∧ InTurn pieces before ∧
      InTurn pieces' after := by
  induction pieces generalizing text with
  | nil =>
      obtain ⟨before, after, rfl, hrest⟩ := h
      exact ⟨before, after, rfl, trivial, hrest⟩
  | cons first pieces ih =>
      obtain ⟨before, after, rfl, hrest⟩ := h
      obtain ⟨before', after', rfl, hpieces, hrest⟩ := ih hrest
      exact ⟨before ++ first ++ before', after', by simp, ⟨before, before', rfl, hpieces⟩, hrest⟩

/-- What a layout does not cover is left out. -/
theorem InTurn.filter_sublist (keep : α → Bool) (h : InTurn pieces text) :
    (pieces.flatten.filter keep).Sublist (text.filter keep) := by
  induction pieces generalizing text with
  | nil => exact List.nil_sublist _
  | cons piece pieces ih =>
      obtain ⟨before, after, rfl, hrest⟩ := h
      rw [List.flatten_cons, List.filter_append, List.filter_append, List.filter_append]
      exact (List.sublist_append_right _ _).append (ih hrest)

end InTurn

/-! ## Searching from the left -/

section Search

variable [DecidableEq α] {pieces : List (List α)} {piece text : List α}

theorem le_of_find_eq_some {start i : ℕ} (h : find text piece start = some i) : start ≤ i := by
  have hmem := List.mem_of_find?_eq_some h
  obtain ⟨k, hk, rfl⟩ := List.mem_iff_getElem.mp hmem
  simp

/-- An occurrence is found at once or later than the first. -/
theorem exists_find_le {start i : ℕ} (hstart : start ≤ i) (hi : i ≤ text.length)
    (h : piece <+: text.drop i) : ∃ j ≤ i, find text piece start = some j := by
  have hrange : (List.range (text.length + 1)).drop start
      = List.range' start (text.length + 1 - start) := by
    rw [List.range_eq_range', List.drop_range']
    simp
  have hmem : i ∈ List.range' start (text.length + 1 - start) := by
    rw [List.mem_range'_1]
    omega
  obtain ⟨j, hj⟩ : ∃ j, find text piece start = some j := by
    rw [← Option.isSome_iff_exists, find, hrange, List.find?_isSome]
    exact ⟨i, hmem, List.isPrefixOf_iff_prefix.mpr h⟩
  refine ⟨j, ?_, hj⟩
  by_contra hlt
  rw [find, hrange, List.find?_range'_eq_some] at hj
  have hearlier := hj.2.2 i hstart (by omega)
  rw [List.isPrefixOf_iff_prefix.mpr h] at hearlier
  exact absurd hearlier (by decide)

/-- There is a layout from a position on exactly when there is one that takes
the first occurrence of the first piece. -/
theorem inTurn_cons_iff (hne : piece ≠ []) (start : ℕ) :
    InTurn (piece :: pieces) (text.drop start) ↔
      ∃ i, find text piece start = some i ∧
        InTurn pieces (text.drop (i + piece.length)) := by
  constructor
  · rintro ⟨before, after, hsplit, hrest⟩
    -- An earlier first piece leaves more text for the others.
    have hdrop : text.drop (start + before.length) = piece ++ after := by
      rw [← List.drop_drop, hsplit, List.append_assoc, List.drop_left]
    have hlength : start + before.length ≤ text.length := by
      by_contra hlong
      rw [List.drop_of_length_le (by omega)] at hdrop
      exact hne (List.append_eq_nil_iff.mp hdrop.symm).1
    obtain ⟨i, hle, hi⟩ := exists_find_le (Nat.le_add_right start before.length) hlength
      (hdrop ▸ List.prefix_append piece after)
    refine ⟨i, hi, ?_⟩
    have hlater : text.drop (start + before.length + piece.length) = after := by
      rw [← List.drop_drop, hdrop, List.drop_left]
    have hsuffix : after <:+ text.drop (i + piece.length) := by
      rw [← hlater]
      exact List.drop_suffix_drop_left _ (by omega)
    obtain ⟨front, hfront⟩ := hsuffix
    rw [← hfront]
    exact hrest.append_left front
  · rintro ⟨i, hi, hrest⟩
    have hle := le_of_find_eq_some hi
    obtain ⟨after, hafter⟩ := prefix_of_find_eq_some hi
    refine ⟨(text.drop start).take (i - start), after, ?_, ?_⟩
    · rw [List.append_assoc, hafter]
      have hsum : text.drop i = (text.drop start).drop (i - start) := by
        rw [List.drop_drop, Nat.add_sub_cancel' hle]
      rw [hsum, List.take_append_drop]
    · rwa [← List.drop_drop, ← hafter, List.drop_left] at hrest

/-- The places of the pieces when each is searched behind the one before it. -/
def placeInTurn (text : List α) : ℕ → List (List α) → Option (List ℕ)
  | _, [] => some []
  | start, piece :: pieces =>
      (find text piece start).bind fun i =>
        (placeInTurn text (i + piece.length) pieces).map fun places => i :: places

/-- The text of gaps and pieces in turn. -/
def laidOut (parts : List (List α × List α)) : List α := parts.flatMap fun part => part.1 ++ part.2

/-- Where the pieces stand behind a text of some length. -/
def trueStarts (done : ℕ) : List (List α × List α) → List ℕ
  | [] => []
  | part :: parts =>
      (done + part.1.length) :: trueStarts (done + part.1.length + part.2.length) parts

/-- Searching from the left finds pieces that are laid out, none of them behind its place. -/
theorem exists_placeInTurn_le (front last : List α) (parts : List (List α × List α)) {start : ℕ}
    (hstart : start ≤ front.length) :
    ∃ places, placeInTurn (front ++ laidOut parts ++ last) start (parts.map Prod.snd) =
        some places ∧
      List.Forall₂ (· ≤ ·) places (trueStarts front.length parts) := by
  induction parts generalizing front start with
  | nil => exact ⟨[], rfl, List.Forall₂.nil⟩
  | cons part parts ih =>
      obtain ⟨gap, piece⟩ := part
      have htext : front ++ laidOut ((gap, piece) :: parts) ++ last =
          (front ++ gap) ++ (piece ++ (laidOut parts ++ last)) := by
        simp [laidOut]
      have hoccurs : piece <+: (front ++ laidOut ((gap, piece) :: parts) ++ last).drop
          (front ++ gap).length := by
        rw [htext, List.drop_left]
        exact List.prefix_append _ _
      have hfits : (front ++ gap).length ≤
          (front ++ laidOut ((gap, piece) :: parts) ++ last).length := by
        rw [htext]
        exact (List.prefix_append _ _).length_le
      have hbehind : start ≤ (front ++ gap).length := by
        rw [List.length_append]
        omega
      obtain ⟨i, hle, hi⟩ := exists_find_le hbehind hfits hoccurs
      rw [List.length_append] at hle
      -- the next search begins no later than the true end of this piece
      obtain ⟨places, hplaces, hstarts⟩ := @ih (front ++ gap ++ piece) (i + piece.length)
        (by simp only [List.length_append]; omega)
      have hrest : front ++ gap ++ piece ++ laidOut parts ++ last =
          front ++ laidOut ((gap, piece) :: parts) ++ last := by
        rw [htext]
        simp only [List.append_assoc]
      rw [hrest] at hplaces
      refine ⟨i :: places, ?_, List.Forall₂.cons hle ?_⟩
      · rw [List.map_cons, placeInTurn, hi, Option.bind_some, hplaces, Option.map_some]
      · rw [List.length_append, List.length_append] at hstarts
        exact hstarts

end Search

/-! ## Marks

A mark is a symbol of the text that is not blank.  When two ways to read a text
agree on the marks before a piece, they agree on where its marks are. -/

section Marks

variable {blank mark : α → Bool} {gap : α}

theorem prefix_of_append_eq {s s' t t' : List α} (hgap : gap ∉ s)
    (h : s ++ s' = t ++ gap :: t') : s <+: t := by
  rcases List.append_eq_append_iff.mp h with ⟨front, rfl, -⟩ | ⟨front, rfl, hfront⟩
  · exact List.prefix_append s front
  · cases front with
    | nil => simp
    | cons c front =>
        obtain ⟨rfl, -⟩ := List.cons_eq_cons.mp hfront
        exact absurd (List.mem_append_right _ List.mem_cons_self) hgap

theorem suffix_of_append_eq {s s' t t' : List α} (hgap : gap ∉ s)
    (h : s' ++ s = t' ++ gap :: t) : s <:+ t := by
  have hreverse : s.reverse ++ s'.reverse = t.reverse ++ gap :: t'.reverse := by
    simpa using congrArg List.reverse h
  exact List.reverse_prefix.mp (prefix_of_append_eq (by simpa using hgap) hreverse)

/-- The marks before a mark tell its position. -/
theorem append_cons_inj_of_marks {s s' t t' : List α} {c c' : α} (hc : mark c = true)
    (hc' : mark c' = true) (hmarks : s.filter mark = s'.filter mark)
    (h : s ++ c :: t = s' ++ c' :: t') : s = s' ∧ t = t' := by
  have hnone : ∀ (u u' front back : List α) (d : α), mark d = true →
      u.filter mark = u'.filter mark → u' = u ++ d :: front → False := by
    rintro u u' front back d hd hequal rfl
    simp [List.filter_append, List.filter_cons_of_pos hd] at hequal
  rcases List.append_eq_append_iff.mp h with ⟨front, hs', ht⟩ | ⟨front, hs, ht⟩
  · cases front with
    | nil =>
        obtain ⟨-, rfl⟩ := List.cons_eq_cons.mp ht
        exact ⟨by simpa using hs'.symm, rfl⟩
    | cons d front =>
        obtain ⟨rfl, -⟩ := List.cons_eq_cons.mp ht
        exact (hnone s s' front t c hc hmarks hs').elim
  · cases front with
    | nil =>
        obtain ⟨-, rfl⟩ := List.cons_eq_cons.mp ht
        exact ⟨by simpa using hs, rfl⟩
    | cons d front =>
        obtain ⟨rfl, -⟩ := List.cons_eq_cons.mp ht
        exact (hnone s' s front t c' hc' hmarks.symm hs).elim

/-- A stretch of the text that differs from a piece in blanks only, with the same
marks before it, cannot be read as the piece if a blank that the piece does not
have stands between two of its symbols. -/
theorem pinned {front back front' back' stretch piece left right : List α}
    (hmark : ∀ c, mark c = true → blank c = false) (hblank : blank gap = true)
    (htext : front ++ stretch ++ back = front' ++ piece ++ back')
    (hfront : front.filter mark = front'.filter mark)
    (hsame : squash blank stretch = squash blank piece) (hgap : gap ∉ piece)
    (hmarked : ∃ c ∈ piece, mark c = true) (hstretch : stretch = left ++ gap :: right) :
    squash blank left = [] ∨ squash blank right = [] := by
  -- The first mark of the piece, and where it stands in the stretch.
  obtain ⟨c, hc⟩ : ∃ c, piece.find? mark = some c := by
    rw [← Option.isSome_iff_exists, List.find?_isSome]
    exact hmarked
  obtain ⟨hcmark, before, after, rfl, hbefore⟩ := List.find?_eq_some_iff_append.mp hc
  have hcsolid : blank c = false := hmark c hcmark
  rw [squash_append, squash, squash, squash, List.filter_cons_of_pos (by simp [hcsolid]),
    List.filter_eq_append_iff] at hsame
  obtain ⟨first, second, hsplit, hfirst, hsecond⟩ := hsame
  obtain ⟨skipped, after', rfl, hskipped, -, hafter⟩ := List.filter_eq_cons_iff.mp hsecond
  have hbefore' : squash blank (first ++ skipped) = squash blank before := by
    have hnone : squash blank skipped = [] := by
      rw [squash_eq_nil_iff]
      intro d hd
      simpa using hskipped d hd
    rw [squash_append, hnone, List.append_nil]
    exact hfirst
  have hmarks : (front ++ (first ++ skipped)).filter mark
      = (front' ++ before).filter mark := by
    have hmarksBefore : (first ++ skipped).filter mark = before.filter mark := by
      rw [← filter_squash hmark before, ← hbefore', filter_squash hmark]
    rw [List.filter_append, hfront, hmarksBefore, List.filter_append]
  have hread : front ++ (first ++ skipped) ++ c :: (after' ++ back)
      = front' ++ before ++ c :: (after ++ back') := by
    rw [hsplit] at htext
    simpa using htext
  obtain ⟨hpositionFront, hpositionBack⟩ := append_cons_inj_of_marks hcmark hcmark hmarks hread
  rw [hsplit, ← List.append_assoc] at hstretch
  -- The blank stands before the mark or behind it.
  rcases List.append_eq_append_iff.mp hstretch with ⟨rest, hleft, hrest⟩ | ⟨rest, hleft, hrest⟩
  · right
    cases rest with
    | nil =>
        obtain ⟨rfl, -⟩ := List.cons_eq_cons.mp hrest
        exact absurd hblank (by simp [hcsolid])
    | cons d rest =>
        obtain ⟨rfl, hafter'⟩ := List.cons_eq_cons.mp hrest
        have hread : after ++ back' = rest ++ gap :: (right ++ back) := by
          rw [← hpositionBack, hafter']
          simp
        have hstart : after <+: rest := prefix_of_append_eq
          (fun h => hgap (List.mem_append_right _ (List.mem_cons_of_mem _ h))) hread
        have hlength : (squash blank after).length ≤ (squash blank rest).length :=
          (hstart.sublist.filter _).length_le
        have hequal : squash blank after = squash blank rest ++ squash blank right := by
          have hstep : squash blank (rest ++ gap :: right)
              = squash blank rest ++ squash blank right := by
            rw [squash_append, squash, squash, squash, List.filter_cons_of_neg (by simp [hblank])]
          rw [← hstep]
          exact (hafter.symm.trans (congrArg (squash blank) hafter'))
        rw [hequal, List.length_append] at hlength
        exact List.length_eq_zero_iff.mp (by omega)
  · left
    cases rest with
    | nil =>
        obtain ⟨rfl, -⟩ := List.cons_eq_cons.mp hrest
        exact absurd hblank (by simp [hcsolid])
    | cons d rest =>
        obtain ⟨rfl, -⟩ := List.cons_eq_cons.mp hrest
        have hread : front' ++ before = front ++ left ++ gap :: rest := by
          rw [← hpositionFront, hleft]
          simp
        have hsuffix : before <:+ rest :=
          suffix_of_append_eq (fun h => hgap (List.mem_append_left _ h)) hread
        have hlength : (squash blank before).length ≤ (squash blank rest).length :=
          (hsuffix.sublist.filter _).length_le
        have hequal : squash blank before = squash blank left ++ squash blank rest := by
          rw [← hbefore', hleft, squash_append, squash, squash, squash,
            List.filter_cons_of_neg (by simp [hblank])]
        rw [hequal, List.length_append] at hlength
        exact List.length_eq_zero_iff.mp (by omega)

end Marks

end Text

end Foundations
