import Mathlib.Data.List.Basic
import Mathlib.Data.List.MinMax
import Mathlib.Data.List.Sort
import Mathlib.Data.Rat.Floor
import Mathlib.Tactic.Linarith
import Mathlib.Tactic.Positivity

/-!
# Python's text and rounding builtins

The few builtins whose exact behaviour a model of Python code depends on: the
characters `str.strip` removes, ASCII case conversion together with the
non-ASCII letters whose other case is *in* ASCII, the texts that `int` reads,
`statistics.median`, and `round(x, k)`, which breaks ties to the even digit.
Rounding is stated on exact rationals; a `float` result is read as the decimal it
denotes.
-/

namespace Foundations

namespace Python

/-! ## Smallest values -/

/-- `min(f(x) for x in xs)`, from the first value on. -/
theorem le_foldl_min {α : Type*} {f : α → ℕ} {xs : List α} {first bound : ℕ} :
    bound ≤ xs.foldl (fun m x => min m (f x)) first ↔ bound ≤ first ∧ ∀ x ∈ xs, bound ≤ f x := by
  induction xs generalizing first with
  | nil => simp
  | cons x xs ih => rw [List.foldl_cons, ih, le_min_iff, List.forall_mem_cons, and_assoc]

/-! ## Sorting by a place -/

/-- Items numbered by their places come back from any order by `sorted` on their numbers. -/
theorem insertionSort_of_perm_mapIdx {α β : Type*} {f : ℕ → α → β} {place : β → ℕ}
    (hplace : ∀ i a, place (f i a) = i) {xs : List α} {items : List β}
    (hperm : items.Perm (xs.mapIdx f)) :
    items.insertionSort (fun a b => place a ≤ place b) = xs.mapIdx f := by
  have : Std.Total fun a b : β => place a ≤ place b := ⟨fun _ _ => Nat.le_total _ _⟩
  have : IsTrans β fun a b => place a ≤ place b := ⟨fun _ _ _ => Nat.le_trans⟩
  have hsorted := List.perm_insertionSort (fun a b => place a ≤ place b) items
  refine List.Perm.eq_of_pairwise ?_ (List.pairwise_insertionSort _ items) ?_ (hsorted.trans hperm)
  · -- Two items in one place are the same.
    intro a b ha hb hle hge
    obtain ⟨i, hi, rfl⟩ := List.mem_mapIdx.mp ((hsorted.trans hperm).mem_iff.mp ha)
    obtain ⟨j, hj, rfl⟩ := List.mem_mapIdx.mp hb
    rw [hplace, hplace] at hle hge
    obtain rfl := Nat.le_antisymm hle hge
    rfl
  · rw [List.pairwise_iff_getElem]
    intro i j hi hj hlt
    rw [List.getElem_mapIdx, List.getElem_mapIdx, hplace, hplace]
    exact Nat.le_of_lt hlt

/-! ## Whitespace -/

/-- `str.isspace` on one character. -/
def isSpace (c : Char) : Bool :=
  let n := c.toNat
  (9 ≤ n && n ≤ 13) || (28 ≤ n && n ≤ 32) || n = 133 || n = 160 || n = 5760 ||
    (8192 ≤ n && n ≤ 8202) || n = 8232 || n = 8233 || n = 8239 || n = 8287 ||
    n = 12288

/-- `str.strip()`. -/
def strip (s : String) : String :=
  String.ofList ((s.toList.dropWhile isSpace).reverse.dropWhile isSpace).reverse

/-- `bool(s.strip())`: the text has a character that is not whitespace. -/
def nonBlank (s : String) : Bool :=
  s.toList.any fun c => !isSpace c

/-! ## Upper case

`str.upper` sends a non-ASCII letter to ASCII letters in the few cases listed;
every other non-ASCII character stays outside ASCII, so leaving it alone is
enough for a comparison with an ASCII label. -/

/-- `str.upper` on one character, up to characters that stay outside ASCII. -/
def upperChar (c : Char) : List Char :=
  if 'a' ≤ c ∧ c ≤ 'z' then [Char.ofNat (c.toNat - 32)]
  else match c.toNat with
    | 223 => ['S', 'S']
    | 305 => ['I']
    | 383 => ['S']
    | 64256 => ['F', 'F']
    | 64257 => ['F', 'I']
    | 64258 => ['F', 'L']
    | 64259 => ['F', 'F', 'I']
    | 64260 => ['F', 'F', 'L']
    | 64261 => ['S', 'T']
    | 64262 => ['S', 'T']
    | _ => [c]

/-- `s.upper()`. -/
def upper (s : String) : String :=
  String.ofList (s.toList.flatMap upperChar)

/-- `s.upper().replace(" ", "_")`. -/
def upperUnderscored (s : String) : String :=
  String.ofList ((s.toList.flatMap upperChar).map fun c => if c = ' ' then '_' else c)

/-! ## Lower case -/

/-- `str.lower` on one character, up to characters that stay outside ASCII. -/
def lowerChar (c : Char) : List Char :=
  match c.toNat with
  | 304 => ['i', Char.ofNat 775]
  | 8490 => ['k']
  | _ => [c.toLower]

/-- `s.lower()`. -/
def lower (s : String) : String :=
  String.ofList (s.toList.flatMap lowerChar)

/-! ## Extremes -/

/-- `max` with a key: the first of the greatest elements. -/
def maxBy {α : Type} (lt : α → α → Bool) : List α → Option α
  | [] => none
  | a :: rest => some (rest.foldl (fun best x => if lt best x then x else best) a)

/-- `min` with a key: the first of the least elements. -/
def minBy {α : Type} (lt : α → α → Bool) (elements : List α) : Option α :=
  maxBy (fun a b => lt b a) elements

section

variable {α β : Type} [LinearOrder β] {key : α → β} {elements : List α} {a : α}

/-- `max` with a key is the `argmax` of the key. -/
theorem maxBy_eq_argmax (key : α → β) (elements : List α) :
    maxBy (fun a b => decide (key a < key b)) elements = elements.argmax key := by
  cases elements with
  | nil => rfl
  | cons first rest =>
      rw [maxBy, List.argmax, List.foldl_cons]
      show some (rest.foldl _ first) = rest.foldl _ (some first)
      induction rest generalizing first with
      | nil => rfl
      | cons next rest ih =>
          rw [List.foldl_cons, List.foldl_cons, ih]
          congr 1
          by_cases h : key first < key next <;> simp [List.argAux, h]

theorem minBy_eq_argmin (key : α → β) (elements : List α) :
    minBy (fun a b => decide (key a < key b)) elements = elements.argmin key :=
  maxBy_eq_argmax (OrderDual.toDual ∘ key) elements

theorem maxBy_eq_none_iff {lt : α → α → Bool} : maxBy lt elements = none ↔ elements = [] := by
  cases elements with
  | nil => simp [maxBy]
  | cons first rest => simp [maxBy]

/-- A greatest one among the elements that a condition selects. -/
def GreatestOf (p : α → Bool) (key : α → β) (elements : List α) (a : α) : Prop :=
  a ∈ elements ∧ p a = true ∧ ∀ b ∈ elements, p b = true → key b ≤ key a

variable {p : α → Bool}

theorem greatestOf_of_mem_argmax (ha : a ∈ (elements.filter p).argmax key) :
    GreatestOf p key elements a := by
  obtain ⟨hmem, hp⟩ := List.mem_filter.mp (List.argmax_mem ha)
  exact ⟨hmem, hp, fun b hb hpb => List.le_of_mem_argmax (List.mem_filter.mpr ⟨hb, hpb⟩) ha⟩

theorem GreatestOf.perm {elements' : List α} (h : GreatestOf p key elements a)
    (hperm : elements'.Perm elements) : GreatestOf p key elements' a :=
  ⟨hperm.mem_iff.mpr h.1, h.2.1, fun b hb => h.2.2 b (hperm.mem_iff.mp hb)⟩

/-- Any of the greatest elements is met first in some order. -/
theorem GreatestOf.exists_perm [DecidableEq α] (h : GreatestOf p key elements a) :
    ∃ elements' : List α, elements'.Perm elements ∧ a ∈ (elements'.filter p).argmax key := by
  obtain ⟨hmem, hp, hgreatest⟩ := h
  refine ⟨a :: elements.erase a, (List.perm_cons_erase hmem).symm, ?_⟩
  rw [List.filter_cons_of_pos hp, List.argmax_cons]
  cases hrest : ((elements.erase a).filter p).argmax key with
  | none => rfl
  | some b =>
      have hb := List.mem_filter.mp (List.argmax_mem hrest)
      have hle := hgreatest b (List.mem_of_mem_erase hb.1) hb.2
      exact if_neg hle.not_gt

/-- What is read off the first greatest element does not depend on the order just when all
greatest elements have it in common. -/
theorem argmax_perm_iff [DecidableEq α] {γ : Type} (value : α → γ) :
    (∀ elements' : List α, elements'.Perm elements →
        ((elements'.filter p).argmax key).map value =
          ((elements.filter p).argmax key).map value) ↔
      ∀ a b, GreatestOf p key elements a → GreatestOf p key elements b → value a = value b := by
  constructor
  · intro hsame a b ha hb
    obtain ⟨first, hfirst, hafirst⟩ := ha.exists_perm
    obtain ⟨second, hsecond, hbsecond⟩ := hb.exists_perm
    have heq := (hsame first hfirst).trans (hsame second hsecond).symm
    rw [hafirst, hbsecond] at heq
    exact Option.some.inj heq
  · intro hsame elements' hperm
    have hfilter : (elements'.filter p).Perm (elements.filter p) := hperm.filter p
    cases hmax : (elements.filter p).argmax key with
    | none =>
        rw [List.argmax_eq_none] at hmax
        rw [hmax, List.perm_nil] at hfilter
        rw [hfilter]
        rfl
    | some a =>
        cases hmax' : (elements'.filter p).argmax key with
        | none =>
            rw [List.argmax_eq_none] at hmax'
            rw [hmax', List.nil_perm] at hfilter
            rw [hfilter] at hmax
            cases hmax
        | some b =>
            exact congrArg some (hsame b a ((greatestOf_of_mem_argmax hmax').perm hperm.symm)
              (greatestOf_of_mem_argmax hmax))

end

/-! ## Integers from texts -/

/-- The zeros of the scripts that have decimal digits, ten in a row each. -/
def decimalZeros : List ℕ :=
  [0x30, 0x660, 0x6f0, 0x7c0, 0x966, 0x9e6, 0xa66, 0xae6, 0xb66, 0xbe6, 0xc66, 0xce6, 0xd66,
   0xde6, 0xe50, 0xed0, 0xf20, 0x1040, 0x1090, 0x17e0, 0x1810, 0x1946, 0x19d0, 0x1a80, 0x1a90,
   0x1b50, 0x1bb0, 0x1c40, 0x1c50, 0xa620, 0xa8d0, 0xa900, 0xa9d0, 0xa9f0, 0xaa50, 0xabf0,
   0xff10, 0x104a0, 0x10d30, 0x11066, 0x110f0, 0x11136, 0x111d0, 0x112f0, 0x11450, 0x114d0,
   0x11650, 0x116c0, 0x11730, 0x118e0, 0x11950, 0x11c50, 0x11d50, 0x11da0, 0x16a60, 0x16ac0,
   0x16b50, 0x1d7ce, 0x1d7d8, 0x1d7e2, 0x1d7ec, 0x1d7f6, 0x1e140, 0x1e2f0, 0x1e950, 0x1fbf0]

/-- `unicodedata.decimal` of a character that is a decimal digit. -/
def decimalDigit (c : Char) : Option ℕ :=
  (decimalZeros.find? fun digitZero => digitZero ≤ c.toNat && c.toNat < digitZero + 10).map
    fun digitZero => c.toNat - digitZero

/-- Digits with at most one underscore between two of them. -/
def underscoredDigits : List Char → Option (List ℕ)
  | [] => none
  | [c] => (decimalDigit c).map fun d => [d]
  | c :: '_' :: rest => do return (← decimalDigit c) :: (← underscoredDigits rest)
  | c :: rest => do return (← decimalDigit c) :: (← underscoredDigits rest)

/-- `int(s)` of a text, when it is a number: of 4300 digits at most. -/
def intOfText (s : String) : Option ℤ :=
  let (sign, digits) : ℤ × List Char :=
    match (strip s).toList with
    | '-' :: rest => (-1, rest)
    | '+' :: rest => (1, rest)
    | rest => (1, rest)
  (underscoredDigits digits).bind fun ds =>
    if ds.length ≤ 4300 then some (sign * ds.foldl (fun n d => 10 * n + d) (0 : ℕ)) else none

/-! ## Means and medians -/

/-- `sum(xs) / len(xs)`. -/
def mean (xs : List ℤ) : ℚ := (xs.sum : ℚ) / xs.length

/-- `statistics.median`, when there is a value. -/
def median (xs : List ℚ) : Option ℚ :=
  let sorted := xs.insertionSort (· ≤ ·)
  if sorted.length % 2 = 1 then sorted[sorted.length / 2]?
  else
    match sorted[sorted.length / 2 - 1]?, sorted[sorted.length / 2]? with
    | some low, some high => some ((low + high) / 2)
    | _, _ => none

/-- A median lies between the bounds of the values. -/
theorem median_mem_Icc {xs : List ℚ} {a b m : ℚ} (h : ∀ x ∈ xs, x ∈ Set.Icc a b)
    (hm : median xs = some m) : m ∈ Set.Icc a b := by
  have hat : ∀ {i : ℕ} {x : ℚ}, (xs.insertionSort (· ≤ ·))[i]? = some x → x ∈ Set.Icc a b := by
    intro i x hx
    exact h x ((List.mem_insertionSort (· ≤ ·)).mp (List.mem_of_getElem? hx))
  rw [median] at hm
  by_cases hodd : (xs.insertionSort (· ≤ ·)).length % 2 = 1
  · exact hat ((if_pos hodd).symm.trans hm)
  · simp only [if_neg hodd] at hm
    split at hm
    · rename_i low high hlow hhigh
      obtain ⟨halow, hlowb⟩ := hat hlow
      obtain ⟨hahigh, hhighb⟩ := hat hhigh
      rw [← Option.some.inj hm]
      constructor <;> linarith
    · cases hm

/-- The mean of counters that are 0 or 1 is the share of the ones. -/
theorem mean_of_zero_one {xs : List ℤ} (h : ∀ x ∈ xs, x = 0 ∨ x = 1) :
    mean xs = (xs.count 1 : ℚ) / xs.length := by
  have hsum : xs.sum = xs.count 1 := by
    induction xs with
    | nil => rfl
    | cons x xs ih =>
        rw [List.sum_cons, List.count_cons, ih fun y hy => h y (List.mem_cons_of_mem x hy)]
        rcases h x List.mem_cons_self with rfl | rfl
        · simp
        · simp [add_comm]
  rw [mean, hsum, Int.cast_natCast]

/-! ## Rounding -/

/-- The nearest integer, ties to even. -/
def roundHalfEven (q : ℚ) : ℤ :=
  if q - q.floor < 1 / 2 then q.floor
  else if 1 / 2 < q - q.floor then q.floor + 1
  else if q.floor % 2 = 0 then q.floor else q.floor + 1

/-- `round(q, digits)`. -/
def roundTo (digits : ℕ) (q : ℚ) : ℚ :=
  roundHalfEven (q * 10 ^ digits) / 10 ^ digits

theorem floor_le_roundHalfEven (q : ℚ) : ⌊q⌋ ≤ roundHalfEven q := by
  have hfloor : q.floor = ⌊q⌋ := rfl
  rw [roundHalfEven, hfloor]
  split_ifs <;> omega

theorem roundHalfEven_le_floor_add_one (q : ℚ) : roundHalfEven q ≤ ⌊q⌋ + 1 := by
  have hfloor : q.floor = ⌊q⌋ := rfl
  rw [roundHalfEven, hfloor]
  split_ifs <;> omega

/-- Rounding moves a number by a half at most. -/
theorem abs_roundHalfEven_sub_le (q : ℚ) : |(roundHalfEven q : ℚ) - q| ≤ 1 / 2 := by
  have hlow : (⌊q⌋ : ℚ) ≤ q := Int.floor_le q
  have hhigh : q < ⌊q⌋ + 1 := Int.lt_floor_add_one q
  have hfloor : q.floor = ⌊q⌋ := rfl
  rw [abs_le, roundHalfEven, hfloor]
  split_ifs <;> push_cast <;> constructor <;> linarith

@[simp] theorem roundHalfEven_intCast (n : ℤ) : roundHalfEven (n : ℚ) = n := by
  have hfloor : (n : ℚ).floor = n := Rat.floor_intCast n
  rw [roundHalfEven, hfloor, sub_self, if_pos (by norm_num)]

/-- Rounding keeps the order. -/
theorem roundHalfEven_mono {x y : ℚ} (h : x ≤ y) : roundHalfEven x ≤ roundHalfEven y := by
  rcases (Int.floor_le_floor h).lt_or_eq with hlt | heq
  · have hx := roundHalfEven_le_floor_add_one x
    have hy := floor_le_roundHalfEven y
    omega
  · have hx : x.floor = ⌊x⌋ := rfl
    have hy : y.floor = ⌊x⌋ := heq.symm
    rw [roundHalfEven, roundHalfEven, hx, hy]
    -- The same two integers are near, and the larger number is nearer to the upper one.
    split_ifs <;> first | omega | (exfalso; linarith)

/-- Rounding does not depend on the sign. -/
theorem roundHalfEven_neg (q : ℚ) : roundHalfEven (-q) = -roundHalfEven q := by
  have hlow : (⌊q⌋ : ℚ) ≤ q := Int.floor_le q
  have hhigh : q < ⌊q⌋ + 1 := Int.lt_floor_add_one q
  rcases hlow.eq_or_lt with heq | hlt
  · rw [← heq, ← Int.cast_neg, roundHalfEven_intCast, roundHalfEven_intCast]
  · have hfloor : q.floor = ⌊q⌋ := rfl
    have hmirror : (-q).floor = -⌊q⌋ - 1 := by
      have hmirrored : ⌊-q⌋ = -⌊q⌋ - 1 := by
        rw [Int.floor_eq_iff]
        push_cast
        constructor <;> linarith
      exact hmirrored
    rw [roundHalfEven, roundHalfEven, hfloor, hmirror]
    push_cast
    -- The distances to the two integers change places, and so do their parities.
    split_ifs <;> first | omega | (exfalso; linarith)

theorem roundTo_mono (digits : ℕ) {x y : ℚ} (h : x ≤ y) :
    roundTo digits x ≤ roundTo digits y := by
  have hscale : (0 : ℚ) < 10 ^ digits := by positivity
  rw [roundTo, roundTo, div_le_div_iff_of_pos_right hscale, Int.cast_le]
  exact roundHalfEven_mono (mul_le_mul_of_nonneg_right h hscale.le)

theorem abs_roundTo_sub_le (digits : ℕ) (q : ℚ) :
    |roundTo digits q - q| ≤ 1 / 2 / 10 ^ digits := by
  have hscale : (0 : ℚ) < 10 ^ digits := by positivity
  have hsplit : roundTo digits q - q =
      (roundHalfEven (q * 10 ^ digits) - q * 10 ^ digits) / 10 ^ digits := by
    rw [roundTo]
    field_simp
  rw [hsplit, abs_div, abs_of_pos hscale, div_le_div_iff_of_pos_right hscale]
  exact abs_roundHalfEven_sub_le _

/-- Rounded terms add up to the sum within the rounding of each of them. -/
theorem abs_sum_roundTo_sub_le (digits : ℕ) (qs : List ℚ) :
    |(qs.map (roundTo digits)).sum - qs.sum| ≤ qs.length * (1 / 2 / 10 ^ digits) := by
  induction qs with
  | nil => simp
  | cons q qs ih =>
      have hq := abs_roundTo_sub_le digits q
      rw [List.map_cons, List.sum_cons, List.sum_cons, List.length_cons, Nat.cast_succ, add_mul,
        one_mul, add_sub_add_comm]
      calc |roundTo digits q - q + ((qs.map (roundTo digits)).sum - qs.sum)|
          ≤ |roundTo digits q - q| + |(qs.map (roundTo digits)).sum - qs.sum| := abs_add_le _ _
        _ ≤ 1 / 2 / 10 ^ digits + qs.length * (1 / 2 / 10 ^ digits) := add_le_add hq ih
        _ = qs.length * (1 / 2 / 10 ^ digits) + 1 / 2 / 10 ^ digits := add_comm _ _

@[simp] theorem roundTo_zero (digits : ℕ) : roundTo digits 0 = 0 := by
  have hzero : roundHalfEven 0 = 0 := roundHalfEven_intCast 0
  rw [roundTo, zero_mul, hzero, Int.cast_zero, zero_div]

/-- What is rounded to zero is at most half a unit. -/
theorem roundHalfEven_eq_zero_iff {q : ℚ} (h : 0 ≤ q) : roundHalfEven q = 0 ↔ q ≤ 1 / 2 := by
  constructor
  · intro hzero
    have hnear := abs_roundHalfEven_sub_le q
    rw [hzero, Int.cast_zero, zero_sub, abs_neg, abs_of_nonneg h] at hnear
    exact hnear
  · intro hle
    have hupper : roundHalfEven q ≤ roundHalfEven (1 / 2) := roundHalfEven_mono hle
    have hlower : roundHalfEven (0 : ℤ) ≤ roundHalfEven q := roundHalfEven_mono h
    have hhalf : roundHalfEven (1 / 2) = 0 := by decide +kernel
    rw [roundHalfEven_intCast] at hlower
    omega

theorem roundTo_eq_zero_iff (digits : ℕ) {q : ℚ} (h : 0 ≤ q) :
    roundTo digits q = 0 ↔ q ≤ 1 / 2 / 10 ^ digits := by
  have hscale : (0 : ℚ) < 10 ^ digits := by positivity
  rw [roundTo, div_eq_zero_iff, or_iff_left hscale.ne', Int.cast_eq_zero,
    roundHalfEven_eq_zero_iff (mul_nonneg h hscale.le), le_div_iff₀ hscale]

theorem roundTo_nonneg (digits : ℕ) {q : ℚ} (h : 0 ≤ q) : 0 ≤ roundTo digits q := by
  simpa using roundTo_mono digits h

end Python

end Foundations
