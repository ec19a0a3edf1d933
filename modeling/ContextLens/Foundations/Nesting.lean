import Mathlib.Data.Int.Notation
import Mathlib.Data.List.Infix
import Mathlib.Tactic.Ring

/-!
# Nesting depth

Two letters of an alphabet, one that opens and one that closes, are counted from
the left of a text.  `height` is what has been opened and not closed again.

* a text *stays open* from a depth on when no prefix brings the depth down to
  zero;
* it *closes* from a depth on when the whole of it brings the depth to zero and
  no proper prefix does;
* it is *level* when every closing letter closes one that was opened before it.

A text from a positive depth either stays open or has exactly one prefix that
closes, and a level text between an opening and a closing letter closes at its
end.
-/

namespace Foundations

namespace Nesting

variable {α : Type*} [DecidableEq α] (opening closing : α)

/-- What is opened and not closed. -/
def height (text : List α) : ℤ :=
  text.count opening - text.count closing

/-- No prefix brings `depth` down to zero. -/
def StaysOpen (depth : ℤ) (text : List α) : Prop :=
  ∀ front, front <+: text → 0 < depth + height opening closing front

/-- The text brings `depth` to zero, and no proper prefix of it does. -/
structure Closes (depth : ℤ) (text : List α) : Prop where
  closed : depth + height opening closing text = 0
  before : ∀ front, front <+: text → front ≠ text → 0 < depth + height opening closing front

/-- Nothing is closed that was not opened, and nothing is left open. -/
structure Level (text : List α) : Prop where
  settled : height opening closing text = 0
  nonneg : ∀ front, front <+: text → 0 ≤ height opening closing front

variable {opening closing} {s t text front : List α} {depth : ℤ} {c : α}

@[simp] theorem height_nil : height opening closing [] = 0 := by
  simp [height]

theorem height_cons (c : α) (text : List α) :
    height opening closing (c :: text) =
      height opening closing [c] + height opening closing text := by
  simp only [height, List.count_cons, List.count_nil]
  push_cast
  ring

theorem height_append (s t : List α) :
    height opening closing (s ++ t) =
      height opening closing s + height opening closing t := by
  simp only [height, List.count_append]
  push_cast
  ring

theorem height_opening (hne : opening ≠ closing) : height opening closing [opening] = 1 := by
  simp [height, hne]

theorem height_closing (hne : opening ≠ closing) : height opening closing [closing] = -1 := by
  simp [height, hne.symm]

theorem height_other (ho : c ≠ opening) (hc : c ≠ closing) :
    height opening closing [c] = 0 := by
  simp [height, ho, hc]

theorem neg_one_le_height (c : α) : -1 ≤ height opening closing [c] := by
  simp only [height, List.count_singleton]
  split <;> split <;> simp

theorem height_of_not_mem (ho : opening ∉ text) (hc : closing ∉ text) :
    height opening closing text = 0 := by
  rw [height, List.count_eq_zero_of_not_mem ho, List.count_eq_zero_of_not_mem hc]
  rfl

theorem height_nonneg_of_not_mem (hc : closing ∉ text) : 0 ≤ height opening closing text := by
  rw [height, List.count_eq_zero_of_not_mem hc]
  omega

omit [DecidableEq α] in
/-- A prefix of a joined text ends inside the first part, or goes beyond it. -/
theorem inside_or_beyond (h : front <+: s ++ t) :
    front <+: s ∨ ∃ inner, inner <+: t ∧ front = s ++ inner := by
  obtain ⟨back, hback⟩ := h
  rcases List.append_eq_append_iff.mp hback with ⟨rest, hs, -⟩ | ⟨inner, hfront, ht⟩
  · exact Or.inl ⟨rest, hs.symm⟩
  · exact Or.inr ⟨inner, ⟨back, ht.symm⟩, hfront⟩

/-! ## One letter at a time -/

theorem staysOpen_nil : StaysOpen opening closing depth [] ↔ 0 < depth := by
  constructor
  · intro h
    simpa using h [] List.prefix_rfl
  · intro h front hfront
    rw [List.prefix_nil.mp hfront, height_nil]
    omega

theorem staysOpen_cons :
    StaysOpen opening closing depth (c :: text) ↔
      0 < depth ∧ StaysOpen opening closing (depth + height opening closing [c]) text := by
  constructor
  · intro h
    refine ⟨by simpa using h [] List.nil_prefix, fun front hfront => ?_⟩
    have := h (c :: front) (List.cons_prefix_cons.mpr ⟨rfl, hfront⟩)
    rw [height_cons] at this
    omega
  · rintro ⟨hpos, h⟩ front hfront
    rcases List.prefix_cons_iff.mp hfront with rfl | ⟨rest, rfl, hrest⟩
    · simpa using hpos
    · have := h rest hrest
      rw [height_cons]
      omega

theorem closes_nil : Closes opening closing depth [] ↔ depth = 0 := by
  constructor
  · intro h
    simpa using h.closed
  · intro h
    exact ⟨by simpa using h, fun front hfront hne => absurd (List.prefix_nil.mp hfront) hne⟩

theorem closes_cons :
    Closes opening closing depth (c :: text) ↔
      0 < depth ∧ Closes opening closing (depth + height opening closing [c]) text := by
  constructor
  · intro h
    refine ⟨by simpa using h.before [] List.nil_prefix (by simp), ?_, fun front hfront hne => ?_⟩
    · have := h.closed
      rw [height_cons] at this
      omega
    · have := h.before (c :: front) (List.cons_prefix_cons.mpr ⟨rfl, hfront⟩) (by simpa using hne)
      rw [height_cons] at this
      omega
  · rintro ⟨hpos, h⟩
    refine ⟨?_, fun front hfront hne => ?_⟩
    · have := h.closed
      rw [height_cons]
      omega
    · rcases List.prefix_cons_iff.mp hfront with rfl | ⟨rest, rfl, hrest⟩
      · simpa using hpos
      · have := h.before rest hrest (by simpa using hne)
        rw [height_cons]
        omega

theorem closes_zero_iff : Closes opening closing 0 text ↔ text = [] := by
  constructor
  · intro h
    cases text with
    | nil => rfl
    | cons c rest => exact absurd (closes_cons.mp h).1 (lt_irrefl 0)
  · rintro rfl
    exact closes_nil.mpr rfl

/-! ## The prefix that closes -/

/-- A text that closes, and one it is a prefix of, do not both close. -/
theorem Closes.eq_of_prefix (hs : Closes opening closing depth s)
    (ht : Closes opening closing depth t) (h : s <+: t) : s = t := by
  by_contra hne
  have := ht.before s h hne
  rw [hs.closed] at this
  exact lt_irrefl _ this

theorem Closes.not_staysOpen (hs : Closes opening closing depth s) (h : s <+: t) :
    ¬ StaysOpen opening closing depth t := by
  intro ht
  have := ht s h
  rw [hs.closed] at this
  exact lt_irrefl _ this

/-- From a positive depth a text stays open, or a prefix of it closes: the depth
changes by one letter at a time. -/
theorem staysOpen_or_closes (hpos : 0 < depth) (text : List α) :
    StaysOpen opening closing depth text ∨
      ∃ front, front <+: text ∧ Closes opening closing depth front := by
  induction text generalizing depth with
  | nil => exact Or.inl (staysOpen_nil.mpr hpos)
  | cons c text ih =>
      have hstep : -1 ≤ height opening closing [c] := neg_one_le_height c
      by_cases hzero : depth + height opening closing [c] = 0
      · right
        exact ⟨[c], List.cons_prefix_cons.mpr ⟨rfl, List.nil_prefix⟩,
          closes_cons.mpr ⟨hpos, closes_nil.mpr hzero⟩⟩
      · have hnext : 0 < depth + height opening closing [c] := by omega
        rcases ih hnext with h | ⟨front, hf, h⟩
        · exact Or.inl (staysOpen_cons.mpr ⟨hpos, h⟩)
        · exact Or.inr ⟨c :: front, List.cons_prefix_cons.mpr ⟨rfl, hf⟩,
            closes_cons.mpr ⟨hpos, h⟩⟩

/-! ## Level texts -/

theorem level_of_not_mem (ho : opening ∉ text) (hc : closing ∉ text) :
    Level opening closing text where
  settled := height_of_not_mem ho hc
  nonneg front hfront := by
    rw [height_of_not_mem (fun h => ho (hfront.subset h)) fun h => hc (hfront.subset h)]

theorem Level.append (hs : Level opening closing s) (ht : Level opening closing t) :
    Level opening closing (s ++ t) where
  settled := by rw [height_append, hs.settled, ht.settled, add_zero]
  nonneg front hfront := by
    rcases inside_or_beyond hfront with hinside | ⟨inner, hinner, rfl⟩
    · exact hs.nonneg front hinside
    · rw [height_append, hs.settled, zero_add]
      exact ht.nonneg inner hinner

/-- **A level text between an opening and a closing letter closes at its end.** -/
theorem Level.closes_wrap (hne : opening ≠ closing) (h : Level opening closing text) :
    Closes opening closing 1 (text ++ [closing]) where
  closed := by rw [height_append, h.settled, height_closing hne]; rfl
  before front hfront hproper := by
    rcases inside_or_beyond hfront with hinside | ⟨inner, hinner, rfl⟩
    · have := h.nonneg front hinside
      omega
    · rcases List.prefix_cons_iff.mp hinner with rfl | ⟨rest, rfl, hrest⟩
      · rw [List.append_nil, h.settled]
        decide
      · exact absurd (by rw [List.prefix_nil.mp hrest]) hproper

/-- Wrapped, it is level again. -/
theorem Level.wrap (hne : opening ≠ closing) (h : Level opening closing text) :
    Level opening closing (opening :: (text ++ [closing])) where
  settled := by
    rw [height_cons, height_opening hne]
    exact (h.closes_wrap hne).closed
  nonneg front hfront := by
    rcases List.prefix_cons_iff.mp hfront with rfl | ⟨rest, rfl, hrest⟩
    · rw [height_nil]
    · rw [height_cons, height_opening hne]
      by_cases hproper : rest = text ++ [closing]
      · rw [hproper, (h.closes_wrap hne).closed]
      · exact ((h.closes_wrap hne).before rest hrest hproper).le

end Nesting

end Foundations
