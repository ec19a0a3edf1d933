import Mathlib.Algebra.GroupWithZero.Nat
import Mathlib.Data.List.DropRight
import Mathlib.Data.List.Infix
import Mathlib.Data.List.Pairwise

/-!
# Texts: stripping, splitting, slicing, searching and packing

A text is a list of symbols of an arbitrary alphabet.  This file has the
operations a splitter is made of and what each of them keeps:

* `strip` and `squash` remove blanks at the ends, and everywhere;
* `split` cuts at a separator, leftmost occurrences first, without overlaps;
* `slices` cuts into windows of one width;
* `find` is the first occurrence from a position on;
* `nextFit` packs items in order, closing a pack at the first item that does not fit.

Stripping never changes what `squash` keeps, joining the parts of a split with
the separator gives the text back, and the slices of a text concatenate to it.
-/

namespace Foundations

namespace Text

variable {α : Type*}

/-! ## Blanks -/

section Blanks

variable (blank : α → Bool)

/-- The text without the blanks at its two ends. -/
def strip (text : List α) : List α :=
  (text.dropWhile blank).rdropWhile blank

/-- The text without any of its blanks. -/
def squash (text : List α) : List α :=
  text.filter fun c => !blank c

variable {blank}

@[simp] theorem squash_nil : squash blank ([] : List α) = [] := rfl

@[simp] theorem squash_append (s t : List α) :
    squash blank (s ++ t) = squash blank s ++ squash blank t :=
  List.filter_append ..

theorem squash_eq_nil_iff {text : List α} :
    squash blank text = [] ↔ ∀ c ∈ text, blank c = true := by
  simp [squash, List.filter_eq_nil_iff]

theorem squash_dropWhile (text : List α) :
    squash blank (text.dropWhile blank) = squash blank text := by
  induction text with
  | nil => rfl
  | cons c rest ih =>
      by_cases hc : blank c
      · simpa [squash, hc] using ih
      · simp [hc]

theorem squash_reverse (text : List α) :
    squash blank text.reverse = (squash blank text).reverse :=
  List.filter_reverse

theorem squash_strip (text : List α) :
    squash blank (strip blank text) = squash blank text := by
  rw [strip, List.rdropWhile, squash_reverse, squash_dropWhile, squash_reverse,
    List.reverse_reverse, squash_dropWhile]

theorem filter_squash {keep : α → Bool} (hkeep : ∀ c, keep c = true → blank c = false)
    (text : List α) : (squash blank text).filter keep = text.filter keep := by
  rw [squash, List.filter_filter]
  refine List.filter_congr fun c _ => ?_
  by_cases hc : keep c = true
  · simp [hc, hkeep c hc]
  · simp [hc]

/-- Stripping removes blanks only. -/
theorem filter_strip {keep : α → Bool} (hkeep : ∀ c, keep c = true → blank c = false)
    (text : List α) : (strip blank text).filter keep = text.filter keep := by
  rw [← filter_squash hkeep, squash_strip, filter_squash hkeep]

theorem strip_isInfix (text : List α) : strip blank text <:+: text :=
  (List.rdropWhile_prefix blank _).isInfix.trans (List.dropWhile_suffix blank).isInfix

theorem strip_eq_nil_iff {text : List α} :
    strip blank text = [] ↔ squash blank text = [] := by
  constructor
  · intro h
    rw [← squash_strip, h, squash_nil]
  · intro h
    have hall : ∀ c ∈ strip blank text, blank c = true := fun c hc =>
      squash_eq_nil_iff.mp h c ((strip_isInfix text).subset hc)
    exact List.rdropWhile_eq_nil_iff.mpr fun c hc =>
      squash_eq_nil_iff.mp h c ((List.dropWhile_suffix blank).subset hc)

/-- A second strip finds nothing to remove. -/
theorem strip_strip (text : List α) : strip blank (strip blank text) = strip blank text := by
  rcases hcore : strip blank text with _ | ⟨c, rest⟩
  · simp [strip]
  have hc : ¬blank c = true := by
    have hprefix : (c :: rest) <+: text.dropWhile blank :=
      hcore ▸ List.rdropWhile_prefix blank _
    obtain ⟨tail, htail⟩ := hprefix
    have hne : text.dropWhile blank ≠ [] := by simp [← htail]
    have hhead := List.head_dropWhile_not blank hne
    simpa [← htail] using hhead
  rw [strip, List.dropWhile_cons_of_neg hc, ← hcore, strip, List.rdropWhile_idempotent]

theorem strip_ne_nil_iff {text : List α} :
    strip blank text ≠ [] ↔ ∃ c ∈ text, blank c = false := by
  rw [Ne, strip_eq_nil_iff, squash_eq_nil_iff]
  simp

theorem length_strip_le (text : List α) : (strip blank text).length ≤ text.length :=
  (strip_isInfix text).length_le

/-- Blanks behind a text do not survive a strip. -/
theorem strip_append_of_blank {s t : List α} (ht : ∀ c ∈ t, blank c = true) :
    strip blank (s ++ t) = strip blank s := by
  have hall : t.dropWhile blank = [] := List.dropWhile_eq_nil_iff.mpr ht
  have hback : t.reverse.dropWhile blank = [] :=
    List.dropWhile_eq_nil_iff.mpr fun c hc => ht c (List.mem_reverse.mp hc)
  rw [strip, strip, List.dropWhile_append]
  split
  case isTrue hs => rw [hall, List.isEmpty_iff.mp hs]
  case isFalse =>
    rw [List.rdropWhile, List.reverse_append, List.dropWhile_append, hback]
    rfl

/-- Nor do blanks in front of it. -/
theorem strip_blank_append {s t : List α} (hs : ∀ c ∈ s, blank c = true) :
    strip blank (s ++ t) = strip blank t := by
  rw [strip, strip, List.dropWhile_append_of_pos hs]

/-- A text that ends in a symbol that is no blank is stripped in front only. -/
theorem strip_concat {s : List α} {c : α} (hc : blank c = false) :
    strip blank (s ++ [c]) = s.dropWhile blank ++ [c] := by
  have hfront : (s ++ [c]).dropWhile blank = s.dropWhile blank ++ [c] := by
    rw [List.dropWhile_append]
    split
    case isTrue hs =>
      rw [List.isEmpty_iff.mp hs, List.nil_append, List.dropWhile_cons_of_neg (by simp [hc])]
    case isFalse => rfl
  rw [strip, hfront, List.rdropWhile_concat_neg _ _ _ (by simp [hc])]

theorem dropWhile_append_cons {c : α} (hc : blank c = false) (s t : List α) :
    (s ++ c :: t).dropWhile blank = s.dropWhile blank ++ c :: t := by
  induction s with
  | nil => exact List.dropWhile_cons_of_neg (by simp [hc])
  | cons d s ih =>
      rw [List.cons_append]
      by_cases hd : blank d = true
      · rw [List.dropWhile_cons_of_pos hd, List.dropWhile_cons_of_pos hd, ih]
      · rw [List.dropWhile_cons_of_neg hd, List.dropWhile_cons_of_neg hd, List.cons_append]

/-- A strip reaches from both ends up to what is not blank. -/
theorem strip_around {c d : α} (hc : blank c = false) (hd : blank d = false) (s m t : List α) :
    strip blank (s ++ c :: (m ++ d :: t)) =
      s.dropWhile blank ++ c :: (m ++ d :: t.rdropWhile blank) := by
  have hback : (s.dropWhile blank ++ c :: (m ++ d :: t)).reverse =
      t.reverse ++ d :: (s.dropWhile blank ++ c :: m).reverse := by simp
  rw [strip, dropWhile_append_cons hc, List.rdropWhile, hback, dropWhile_append_cons hd,
    List.rdropWhile]
  simp

variable (blank) in
/-- There is no blank at either end. -/
def Trimmed (text : List α) : Prop :=
  (∀ c ∈ text.head?, blank c = false) ∧ ∀ c ∈ text.getLast?, blank c = false

instance (text : List α) : Decidable (Trimmed blank text) := by
  unfold Trimmed
  infer_instance

theorem strip_of_trimmed {text : List α} (h : Trimmed blank text) : strip blank text = text := by
  obtain ⟨hfirst, hlast⟩ := h
  have hfront : text.dropWhile blank = text := by
    cases text with
    | nil => rfl
    | cons c rest =>
        have hc : blank c = false := hfirst c rfl
        exact List.dropWhile_cons_of_neg (by simp [hc])
  rw [strip, hfront, List.rdropWhile_eq_self_iff]
  intro hne
  simp [hlast _ (List.getLast_mem_getLast? hne)]

theorem trimmed_strip (text : List α) : Trimmed blank (strip blank text) := by
  constructor
  · intro c hc
    have hfront : strip blank (strip blank text) = strip blank text := strip_strip text
    have hprefix : strip blank text <+: text.dropWhile blank := List.rdropWhile_prefix blank _
    obtain ⟨tail, htail⟩ := hprefix
    have hhead : c ∈ (text.dropWhile blank).head? := by
      rw [← htail]
      cases hcore : strip blank text with
      | nil => simp [hcore] at hc
      | cons d rest => simpa [hcore] using hc
    have hnot := List.head?_dropWhile_not blank text
    simpa [Option.mem_def.mp hhead] using hnot
  · intro c hc
    have hne : strip blank text ≠ [] := by
      rintro hnil
      simp [hnil] at hc
    have hlast := List.rdropWhile_last_not blank (text.dropWhile blank) hne
    rw [List.getLast?_eq_getLast_of_ne_nil hne, Option.mem_def, Option.some_inj] at hc
    rw [← hc]
    simpa [strip] using hlast

/-- Stripping changes nothing exactly when there is nothing to strip. -/
theorem strip_eq_self_iff {text : List α} : strip blank text = text ↔ Trimmed blank text := by
  constructor
  · intro h
    rw [← h]
    exact trimmed_strip text
  · exact strip_of_trimmed

end Blanks

/-! ## Splitting -/

theorem intercalate_modifyHead (separator : List α) (c : α) {parts : List (List α)}
    (h : parts ≠ []) :
    separator.intercalate (parts.modifyHead (c :: ·)) = c :: separator.intercalate parts := by
  obtain ⟨part, parts, rfl⟩ := List.exists_cons_of_ne_nil h
  cases parts with
  | nil => simp
  | cons next parts => simp [List.intercalate_cons_cons]

theorem infix_intercalate (separator : List α) {parts : List (List α)} {part : List α}
    (h : part ∈ parts) : part <:+: separator.intercalate parts := by
  induction parts with
  | nil => exact absurd h (List.not_mem_nil)
  | cons first parts ih =>
      rcases List.eq_nil_or_concat' parts with rfl | hne
      · obtain rfl := List.mem_singleton.mp h
        simp
      · have hne : parts ≠ [] := by
          obtain ⟨_, _, rfl⟩ := hne
          simp
        rw [List.intercalate_cons_of_ne_nil hne]
        rcases List.mem_cons.mp h with rfl | h
        · exact ⟨[], separator ++ separator.intercalate parts, by simp⟩
        · exact (ih h).trans (List.suffix_append _ _).isInfix

/-- Every part but the last is followed by the separator. -/
theorem infix_intercalate_of_mem_dropLast (separator : List α) {parts : List (List α)}
    {part : List α} (h : part ∈ parts.dropLast) :
    part ++ separator <:+: separator.intercalate parts := by
  induction parts with
  | nil => exact absurd h List.not_mem_nil
  | cons first parts ih =>
      cases parts with
      | nil => exact absurd h List.not_mem_nil
      | cons next parts =>
          rw [List.intercalate_cons_cons]
          rcases List.mem_cons.mp h with rfl | h
          · exact ⟨[], separator.intercalate (next :: parts), by simp⟩
          · exact (ih h).trans (List.suffix_append _ _).isInfix

section Split

variable [DecidableEq α]

/-- `split`, with `skip` symbols of a separator that was just cut still to be
passed over. -/
def splitFrom (separator : List α) : ℕ → List α → List (List α)
  | _, [] => [[]]
  | skip + 1, _ :: rest => splitFrom separator skip rest
  | 0, c :: rest =>
      if separator.isPrefixOf (c :: rest) then
        [] :: splitFrom separator (separator.length - 1) rest
      else (splitFrom separator 0 rest).modifyHead (c :: ·)

/-- The parts of the text between the occurrences of a separator, taken from the
left and without overlaps. -/
def split (separator text : List α) : List (List α) :=
  splitFrom separator 0 text

theorem splitFrom_ne_nil (separator : List α) (skip : ℕ) (text : List α) :
    splitFrom separator skip text ≠ [] := by
  induction text generalizing skip with
  | nil => simp [splitFrom]
  | cons c rest ih =>
      cases skip with
      | succ skip => exact ih skip
      | zero =>
          rw [splitFrom]
          split
          · exact List.cons_ne_nil _ _
          · simpa using ih 0

theorem intercalate_splitFrom {separator : List α} (hsep : separator ≠ []) (skip : ℕ)
    (text : List α) :
    separator.intercalate (splitFrom separator skip text) = text.drop skip := by
  induction text generalizing skip with
  | nil => simp [splitFrom]
  | cons c rest ih =>
      cases skip with
      | succ skip => simpa [splitFrom] using ih skip
      | zero =>
          rw [splitFrom]
          split
          case isTrue hcut =>
            -- The separator is `c` followed by the symbols skipped next.
            obtain ⟨tail, htail⟩ := List.isPrefixOf_iff_prefix.mp hcut
            obtain ⟨c', sep', rfl⟩ := List.exists_cons_of_ne_nil hsep
            obtain ⟨rfl, rfl⟩ := List.cons_eq_cons.mp htail
            rw [List.intercalate_cons_of_ne_nil (splitFrom_ne_nil _ _ _), ih]
            simp
          case isFalse =>
            rw [intercalate_modifyHead _ _ (splitFrom_ne_nil _ _ _), ih]
            rfl

/-- Joining the parts of a split gives the text back. -/
theorem intercalate_split {separator : List α} (hsep : separator ≠ []) (text : List α) :
    separator.intercalate (split separator text) = text :=
  intercalate_splitFrom hsep 0 text

theorem infix_of_mem_split {separator : List α} (hsep : separator ≠ []) {text part : List α}
    (h : part ∈ split separator text) : part <:+: text := by
  have hinfix := infix_intercalate separator h
  rwa [intercalate_split hsep] at hinfix

/-- The first part is the beginning of the text. -/
theorem prefix_of_splitFrom_eq_cons {separator : List α} (hsep : separator ≠ [])
    {text first : List α} {others : List (List α)}
    (h : splitFrom separator 0 text = first :: others) : first <+: text := by
  have hjoined := intercalate_splitFrom hsep 0 text
  rw [h, List.drop_zero] at hjoined
  rw [← hjoined]
  cases others with
  | nil => simp
  | cons =>
      rw [List.intercalate_cons_of_ne_nil (List.cons_ne_nil _ _), List.append_assoc]
      exact List.prefix_append _ _

/-- No part of a split has the separator in it. -/
theorem not_infix_of_mem_split {separator : List α} (hsep : separator ≠ []) {text part : List α}
    (h : part ∈ split separator text) : ¬ separator <:+: part := by
  have hfrom : ∀ (text : List α) (skip : ℕ), ∀ part ∈ splitFrom separator skip text,
      ¬ separator <:+: part := by
    intro text
    induction text with
    | nil =>
        intro skip part hpart
        obtain rfl : part = [] := by simpa [splitFrom] using hpart
        exact fun hinfix => hsep (List.infix_nil.mp hinfix)
    | cons c rest ih =>
        intro skip
        cases skip with
        | succ skip => exact ih skip
        | zero =>
            rw [splitFrom]
            split
            case isTrue =>
              rw [List.forall_mem_cons]
              exact ⟨fun hinfix => hsep (List.infix_nil.mp hinfix), ih _⟩
            case isFalse hother =>
              obtain ⟨first, others, hsplit⟩ :=
                List.exists_cons_of_ne_nil (splitFrom_ne_nil separator 0 rest)
              have hih := ih 0
              rw [hsplit, List.forall_mem_cons] at hih
              rw [hsplit, List.modifyHead_cons, List.forall_mem_cons]
              refine ⟨fun hinfix => ?_, hih.2⟩
              rcases List.infix_cons_iff.mp hinfix with hhead | hlater
              · -- The separator would have been cut here.
                refine hother (List.isPrefixOf_iff_prefix.mpr (hhead.trans ?_))
                exact (List.prefix_cons_inj c).mpr (prefix_of_splitFrom_eq_cons hsep hsplit)
              · exact hih.1 hlater
  exact hfrom text 0 part h

/-- The parts of a split at a single symbol do not have it. -/
theorem not_mem_of_mem_split {c : α} {text part : List α} (h : part ∈ split [c] text) :
    c ∉ part := fun hmem =>
  not_infix_of_mem_split (List.cons_ne_nil c []) h ((List.singleton_infix_iff c part).mpr hmem)

end Split

/-! ## Runs of letters

A run without the letter `c` lies on one side of it. -/

theorem infix_append_cons {c : α} {run s t : List α} (hc : c ∉ run) (h : run <:+: s ++ c :: t) :
    run <:+: s ∨ run <:+: t := by
  obtain ⟨front, back, h⟩ := h
  rcases List.append_eq_append_iff.mp h with ⟨rest, hs, -⟩ | ⟨rest, hfront, hback⟩
  · exact Or.inl ⟨front, rest, hs.symm⟩
  · cases rest with
    | nil =>
        rw [List.append_nil] at hfront
        exact Or.inl ⟨front, [], by rw [List.append_nil, hfront]⟩
    | cons d rest =>
        rw [List.cons_append, List.cons.injEq] at hback
        obtain ⟨rfl, ht⟩ := hback
        -- The letter is in `front`, so the run begins behind it.
        rcases List.append_eq_append_iff.mp hfront with
          ⟨front', hs, hrun⟩ | ⟨front', hfront', hrest⟩
        · exact absurd (hrun ▸ List.mem_append_right _ List.mem_cons_self) hc
        · cases front' with
          | nil =>
              rw [List.nil_append] at hrest
              exact absurd (hrest ▸ List.mem_cons_self) hc
          | cons e front' =>
              rw [List.cons_append, List.cons.injEq] at hrest
              exact Or.inr ⟨front', back, by rw [ht, hrest.2]⟩

/-! ## Slices -/

/-- `range(0, length, step)`. -/
def starts (length step : ℕ) : List ℕ :=
  List.range' 0 ((length + step - 1) / step) step

theorem mem_starts {length step i : ℕ} (hstep : 0 < step) :
    i ∈ starts length step ↔ i < length ∧ step ∣ i := by
  rw [starts, List.mem_range']
  constructor
  · rintro ⟨k, hk, rfl⟩
    have hle : (k + 1) * step ≤ length + step - 1 := (Nat.le_div_iff_mul_le hstep).mp hk
    rw [Nat.add_mul, Nat.one_mul, Nat.mul_comm] at hle
    refine ⟨by omega, ?_⟩
    rw [Nat.zero_add]
    exact Nat.dvd_mul_right step k
  · rintro ⟨hi, k, rfl⟩
    refine ⟨k, (Nat.le_div_iff_mul_le hstep).mpr ?_, (Nat.zero_add _).symm⟩
    rw [Nat.succ_mul, Nat.mul_comm]
    omega

/-- Together the steps reach the end. -/
theorem length_le_starts_mul {length step : ℕ} (hstep : 0 < step) :
    length ≤ (length + step - 1) / step * step := by
  have hdiv := Nat.div_add_mod (length + step - 1) step
  have hmod := Nat.mod_lt (length + step - 1) hstep
  rw [Nat.mul_comm] at hdiv
  omega

/-- The windows of `width` symbols, one after the other. -/
def slices (width : ℕ) (text : List α) : List (List α) :=
  (starts text.length width).map fun i => (text.drop i).take width

theorem flatten_windows (text : List α) (width count : ℕ) (i : ℕ) :
    ((List.range' i count width).map fun i => (text.drop i).take width).flatten
      = (text.drop i).take (count * width) := by
  induction count generalizing i with
  | zero => simp
  | succ count ih =>
      rw [List.range'_succ, List.map_cons, List.flatten_cons, ih, Nat.succ_mul,
        Nat.add_comm (count * width), List.take_add, List.drop_drop]

theorem flatten_slices {width : ℕ} (hwidth : 0 < width) (text : List α) :
    (slices width text).flatten = text := by
  rw [slices, starts, flatten_windows, List.drop_zero,
    List.take_of_length_le (length_le_starts_mul hwidth)]

theorem length_of_mem_slices {width : ℕ} {text window : List α}
    (h : window ∈ slices width text) : window.length ≤ width := by
  obtain ⟨i, -, rfl⟩ := List.mem_map.mp h
  rw [List.length_take]
  exact Nat.min_le_left _ _

theorem infix_of_mem_slices {width : ℕ} {text window : List α}
    (h : window ∈ slices width text) : window <:+: text := by
  obtain ⟨i, -, rfl⟩ := List.mem_map.mp h
  exact (List.take_prefix _ _).isInfix.trans (List.drop_suffix _ _).isInfix

/-- An increasing list ends with a bound that it contains. -/
theorem getLast?_of_increasing {xs : List ℕ} {m : ℕ} (hincreasing : xs.Pairwise (· < ·))
    (hmem : m ∈ xs) (hbound : ∀ x ∈ xs, x ≤ m) : xs.getLast? = some m := by
  have hne : xs ≠ [] := List.ne_nil_of_mem hmem
  have hle : m ≤ xs.getLast hne :=
    (hincreasing.imp Nat.le_of_lt).rel_getLast hmem
  rw [List.getLast?_eq_getLast_of_ne_nil hne, Option.some_inj]
  exact Nat.le_antisymm (hbound _ (List.getLast_mem hne)) hle

/-! ## Searching -/

section Find

variable [DecidableEq α]

/-- The first position, from `start` on, where `sub` occurs. -/
def find (text sub : List α) (start : ℕ) : Option ℕ :=
  ((List.range (text.length + 1)).drop start).find? fun i => sub.isPrefixOf (text.drop i)

theorem prefix_of_find_eq_some {text sub : List α} {start i : ℕ}
    (h : find text sub start = some i) : sub <+: text.drop i := by
  have hfound := List.find?_some h
  exact List.isPrefixOf_iff_prefix.mp hfound

theorem find_zero_eq_none_iff {text sub : List α} :
    find text sub 0 = none ↔ ¬ sub <:+: text := by
  rw [find, List.drop_zero, List.find?_eq_none, List.infix_iff_prefix_suffix]
  constructor
  · rintro h ⟨tail, hprefix, hsuffix⟩
    obtain ⟨front, rfl⟩ := hsuffix
    refine h front.length (List.mem_range.mpr (by rw [List.length_append]; omega)) ?_
    simpa using hprefix
  · intro h i _ hi
    exact h ⟨text.drop i, List.isPrefixOf_iff_prefix.mp hi, List.drop_suffix _ _⟩

end Find

/-! ## Packing -/

/-- Next-fit packing: `pack` is the one being filled; an item that does not fit
closes it, and an item too large for any pack is left out. -/
def nextFit (size : α → ℕ) (capacity : ℕ) : List α → List α → List (List α)
  | [], pack => [pack]
  | item :: items, pack =>
      if (pack.map size).sum + size item ≤ capacity then
        nextFit size capacity items (pack ++ [item])
      else pack ::
        nextFit size capacity items (if capacity < size item then [] else [item])

/-- Only items are packed. -/
theorem mem_of_mem_nextFit {size : α → ℕ} {capacity : ℕ} {items opened pack : List α}
    {item : α} (hpack : pack ∈ nextFit size capacity items opened) (hitem : item ∈ pack) :
    item ∈ items ∨ item ∈ opened := by
  induction items generalizing opened with
  | nil =>
      obtain rfl := List.mem_singleton.mp hpack
      exact Or.inr hitem
  | cons next items ih =>
      rw [nextFit] at hpack
      split at hpack
      · rcases ih hpack with h | h
        · exact Or.inl (List.mem_cons_of_mem _ h)
        · rcases List.mem_append.mp h with h | h
          · exact Or.inr h
          · exact Or.inl (List.mem_singleton.mp h ▸ List.mem_cons_self)
      · rcases List.mem_cons.mp hpack with rfl | hpack
        · exact Or.inr hitem
        · rcases ih hpack with h | h
          · exact Or.inl (List.mem_cons_of_mem _ h)
          · split at h
            · exact absurd h List.not_mem_nil
            · exact Or.inl (List.mem_singleton.mp h ▸ List.mem_cons_self)

/-! ## Sublists that miss nothing -/

/-- When two texts each keep part of another, the joined parts are everything
only if each of them is. -/
theorem append_eq_append_iff_of_sublist {s s' t t' : List α} (hs : s.Sublist s')
    (ht : t.Sublist t') : s ++ t = s' ++ t' ↔ s = s' ∧ t = t' := by
  constructor
  · intro h
    have hlength := congrArg List.length h
    simp only [List.length_append] at hlength
    have hs' := hs.length_le
    have ht' := ht.length_le
    exact ⟨hs.eq_of_length (by omega), ht.eq_of_length (by omega)⟩
  · rintro ⟨rfl, rfl⟩
    rfl

end Text

end Foundations
