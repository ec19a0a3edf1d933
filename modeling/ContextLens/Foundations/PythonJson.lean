import ContextLens.Foundations.Json
import ContextLens.Foundations.Nesting
import ContextLens.Foundations.PythonBuiltins
import ContextLens.Foundations.Text
import Mathlib.Tactic.Ring

/-!
# JSON in Python: values, `float`, `json.dumps` and `json.loads`

The values `json.loads` builds, unlike those of a JSON text, include NaN, the
infinities and integers of any size.  This file has the order of floats, the
conversions `float(v)` and `str(v)`, and the text `json.dumps` writes.

Three texts are left to the parameter `TextRules`: the digits of a finite float,
the `repr` of a string, and which strings `float` reads.  A parser is a
`JsonParser`: `loads` with three properties of the JSON grammar that do not
depend on how it is implemented.
-/

namespace Foundations

namespace Python

/-! ## Floats -/

/-- A `float`.  `finite` is the exact value of one that is neither an infinity, a
NaN nor the negative zero. -/
inductive PyFloat
  | nan
  | infinity
  | negInfinity
  | negZero
  | finite (value : ℚ)
  deriving DecidableEq

namespace PyFloat

/-- The value of a finite float. -/
def value : PyFloat → ℚ
  | .finite q => q
  | _ => 0

/-- `x < y`; a comparison with a NaN is false. -/
def lt : PyFloat → PyFloat → Bool
  | .nan, _ => false
  | _, .nan => false
  | _, .negInfinity => false
  | .negInfinity, _ => true
  | .infinity, _ => false
  | _, .infinity => true
  | x, y => x.value < y.value

/-- `min(x, y)`: the first one, unless the second is smaller. -/
def min (x y : PyFloat) : PyFloat := if lt y x then y else x

/-- `max(x, y)`: the first one, unless the second is larger. -/
def max (x y : PyFloat) : PyFloat := if lt x y then y else x

/-- `abs(x - y)`, the difference of two finite floats taken exactly. -/
def absDiff : PyFloat → PyFloat → PyFloat
  | .nan, _ => .nan
  | _, .nan => .nan
  | .infinity, .infinity => .nan
  | .negInfinity, .negInfinity => .nan
  | .infinity, _ => .infinity
  | .negInfinity, _ => .infinity
  | _, .infinity => .infinity
  | _, .negInfinity => .infinity
  | x, y => .finite |x.value - y.value|

@[simp] theorem lt_finite (p q : ℚ) : lt (.finite p) (.finite q) = decide (p < q) := rfl

theorem min_finite (p q : ℚ) :
    PyFloat.min (.finite p) (.finite q) = .finite (Min.min p q) := by
  rw [PyFloat.min, lt_finite]
  by_cases h : q < p
  · rw [decide_eq_true h, if_pos rfl, min_eq_right h.le]
  · rw [decide_eq_false h, if_neg Bool.false_ne_true, min_eq_left (not_lt.mp h)]

theorem max_finite (p q : ℚ) :
    PyFloat.max (.finite p) (.finite q) = .finite (Max.max p q) := by
  rw [PyFloat.max, lt_finite]
  by_cases h : p < q
  · rw [decide_eq_true h, if_pos rfl, max_eq_right h.le]
  · rw [decide_eq_false h, if_neg Bool.false_ne_true, max_eq_left (not_lt.mp h)]

@[simp] theorem absDiff_self (q : ℚ) : absDiff (.finite q) (.finite q) = .finite 0 := by
  simp [absDiff, value]

end PyFloat

/-! ## Integers as floats

`float(n)` keeps the 53 leading bits of `n`, rounding half to even, and raises
`OverflowError` when the result has more than 1024 bits. -/

/-- `m / 2ᵉ` to the nearest integer, ties to even. -/
def shiftHalfEven (m e : ℕ) : ℕ :=
  let q := m / 2 ^ e
  let r := m % 2 ^ e
  if 2 * r < 2 ^ e then q else if 2 ^ e < 2 * r then q + 1 else q + q % 2

/-- The double nearest to a natural number, before the range check. -/
def nearestDouble (m : ℕ) : ℕ :=
  if m < 2 ^ 53 then m else shiftHalfEven m (m.log2 - 52) * 2 ^ (m.log2 - 52)

/-- Half a unit in the last place below `2¹⁰²⁴`: the least magnitude that rounds
out of the range of doubles. -/
def floatLimit : ℕ := 2 ^ 1024 - 2 ^ 970

/-- `float(n)`; `none` is `OverflowError`. -/
def floatOfInt (n : ℤ) : Option PyFloat :=
  if 2 ^ 1024 ≤ nearestDouble n.natAbs then none
  else some (.finite (n.sign * nearestDouble n.natAbs))

theorem div_le_shiftHalfEven (m e : ℕ) : m / 2 ^ e ≤ shiftHalfEven m e := by
  simp only [shiftHalfEven]
  split_ifs <;> omega

theorem shiftHalfEven_le (m e : ℕ) : shiftHalfEven m e ≤ m / 2 ^ e + 1 := by
  simp only [shiftHalfEven]
  split_ifs <;> omega

/-- Rounding reaches an even integer from half-way below it on. -/
theorem le_shiftHalfEven_iff {k : ℕ} (heven : k % 2 = 0) (m e : ℕ) :
    k ≤ shiftHalfEven m e ↔ 2 * (k * 2 ^ e) ≤ 2 * m + 2 ^ e := by
  have hm : 2 ^ e * (m / 2 ^ e) + m % 2 ^ e = m := Nat.div_add_mod m (2 ^ e)
  have hr : m % 2 ^ e < 2 ^ e := Nat.mod_lt _ (by positivity)
  simp only [shiftHalfEven]
  generalize 2 ^ e = unit at *
  generalize m / unit = q at *
  generalize m % unit = r at *
  rcases Nat.lt_trichotomy (q + 1) k with hlow | hnext | hhigh
  · have hfar : unit * (q + 2) ≤ unit * k := Nat.mul_le_mul_left unit hlow
    have hnot : ¬ 2 * (k * unit) ≤ 2 * m + unit := by
      rw [Nat.mul_comm k, ← hm]
      rw [Nat.mul_add] at hfar
      omega
    refine iff_of_false ?_ hnot
    split_ifs <;> omega
  · rw [← hnext, Nat.add_mul, Nat.mul_comm q, ← hm]
    split_ifs <;> omega
  · have hnear : unit * k ≤ unit * q := Nat.mul_le_mul_left unit (by omega)
    refine iff_of_true ?_ (by rw [Nat.mul_comm k, ← hm]; omega)
    split_ifs <;> omega

/-- The nearest double reaches a power of two from half a unit in the last place
below it on. -/
theorem pow_le_nearestDouble_iff (p m : ℕ) :
    2 ^ (p + 54) ≤ nearestDouble m ↔ 2 ^ (p + 54) - 2 ^ p ≤ m := by
  have hone : 0 < 2 ^ p := by positivity
  have hgap : 2 ^ (p + 54) = 2 ^ 54 * 2 ^ p := by rw [pow_add, Nat.mul_comm]
  have hunit : 2 ^ (p + 1) = 2 * 2 ^ p := by rw [pow_succ, Nat.mul_comm]
  by_cases hsmall : m < 2 ^ 53
  · rw [nearestDouble, if_pos hsmall]
    omega
  rw [nearestDouble, if_neg hsmall]
  have hne : m ≠ 0 := by omega
  have hlog : 53 ≤ m.log2 := (Nat.le_log2 hne).mpr (by omega)
  have hlow : 2 ^ m.log2 ≤ m := Nat.log2_self_le hne
  have hhigh : m < 2 ^ (m.log2 + 1) := Nat.lt_log2_self
  obtain ⟨e, he⟩ : ∃ e, m.log2 = e + 52 := ⟨m.log2 - 52, by omega⟩
  rw [he, Nat.add_sub_cancel]
  rw [he, pow_add] at hlow
  rw [he, pow_succ, pow_add] at hhigh
  rcases Nat.lt_trichotomy e (p + 1) with h | h | h
  · -- Below the binade of the power nothing rounds up to it.
    have hpow : 2 ^ e ≤ 2 ^ p := Nat.pow_le_pow_right (by omega) (by omega)
    have hdiv : m / 2 ^ e < 2 ^ 53 := (Nat.div_lt_iff_lt_mul (by positivity)).mpr (by omega)
    have hround : shiftHalfEven m e * 2 ^ e ≤ 2 ^ 53 * 2 ^ p :=
      Nat.mul_le_mul (by have := shiftHalfEven_le m e; omega) hpow
    exact iff_of_false (by omega) (by omega)
  · have hsplit : 2 ^ (p + 54) = 2 ^ 53 * 2 ^ (p + 1) := by omega
    rw [h, hsplit, Nat.mul_le_mul_right_iff (by positivity), le_shiftHalfEven_iff (by decide)]
    omega
  · have hpow : 2 ^ (p + 2) ≤ 2 ^ e := Nat.pow_le_pow_right (by omega) (by omega)
    have htwice : 2 ^ (p + 2) = 2 * 2 ^ (p + 1) := pow_succ' 2 (p + 1)
    have hdiv : 2 ^ 52 ≤ m / 2 ^ e := (Nat.le_div_iff_mul_le (by positivity)).mpr (by omega)
    have hround : 2 ^ 52 * 2 ^ (p + 2) ≤ shiftHalfEven m e * 2 ^ e :=
      Nat.mul_le_mul (hdiv.trans (div_le_shiftHalfEven m e)) hpow
    exact iff_of_true (by omega) (by omega)

/-- The integers whose nearest double is out of range. -/
theorem le_nearestDouble_iff (m : ℕ) : 2 ^ 1024 ≤ nearestDouble m ↔ floatLimit ≤ m := by
  have h := pow_le_nearestDouble_iff 970 m
  have hexponent : 970 + 54 = 1024 := rfl
  rw [hexponent] at h
  rw [floatLimit]
  exact h

/-- `float(n)` raises exactly from `floatLimit` on, either side of zero. -/
theorem floatOfInt_eq_none_iff (n : ℤ) : floatOfInt n = none ↔ floatLimit ≤ n.natAbs := by
  rw [← le_nearestDouble_iff, floatOfInt]
  by_cases h : 2 ^ 1024 ≤ nearestDouble n.natAbs
  · rw [if_pos h]
    exact iff_of_true rfl h
  · rw [if_neg h]
    exact iff_of_false (Option.some_ne_none _) h

/-! ## Values -/

/-- A value `json.loads` returns.  The members of a `dict` are in insertion order. -/
inductive JsonValue
  | null
  | bool (value : Bool)
  | int (n : ℤ)
  | float (x : PyFloat)
  | str (s : String)
  | list (items : List JsonValue)
  | dict (members : List (String × JsonValue))

/-- `v is None`. -/
def JsonValue.isNull : JsonValue → Bool
  | .null => true
  | _ => false

/-- The texts that are left open. -/
structure TextRules where
  /-- `float.__repr__` of a finite float other than the negative zero. -/
  reprFloat : ℚ → String
  /-- `repr` of a string. -/
  reprStr : String → String
  /-- `float` of a string; `none` is `ValueError`. -/
  floatOfStr : String → Option PyFloat

/-- Rules for values in which none of these texts is asked for. -/
def noFloats : TextRules := ⟨fun _ => "", fun _ => "", fun _ => none⟩

/-- What `float` raises. -/
inductive FloatError
  | typeError
  | valueError
  | overflowError
  deriving DecidableEq

variable (rules : TextRules)

/-- `float(v)`. -/
def floatOf : JsonValue → Except FloatError PyFloat
  | .null => .error .typeError
  | .bool b => .ok (.finite (if b then 1 else 0))
  | .int n => (floatOfInt n).elim (.error .overflowError) .ok
  | .float x => .ok x
  | .str s => (rules.floatOfStr s).elim (.error .valueError) .ok
  | .list _ => .error .typeError
  | .dict _ => .error .typeError

/-- `repr` of a float. -/
def reprOfFloat : PyFloat → String
  | .nan => "nan"
  | .infinity => "inf"
  | .negInfinity => "-inf"
  | .negZero => "-0.0"
  | .finite q => rules.reprFloat q

mutual

/-- `repr(v)`. -/
def reprOf : JsonValue → String
  | .null => "None"
  | .bool b => if b then "True" else "False"
  | .int n => String.ofList (decimalText n 0)
  | .float x => reprOfFloat rules x
  | .str s => rules.reprStr s
  | .list items => "[" ++ reprOfItems items ++ "]"
  | .dict members => "\x7b" ++ reprOfMembers members ++ "\x7d"

/-- The items of a list, as `repr` shows them. -/
def reprOfItems : List JsonValue → String
  | [] => ""
  | [item] => reprOf item
  | item :: rest => reprOf item ++ ", " ++ reprOfItems rest

/-- The members of a dictionary, as `repr` shows them. -/
def reprOfMembers : List (String × JsonValue) → String
  | [] => ""
  | [(key, value)] => rules.reprStr key ++ ": " ++ reprOf value
  | (key, value) :: rest =>
      rules.reprStr key ++ ": " ++ reprOf value ++ ", " ++ reprOfMembers rest

end

/-- `str(v)`: a string is its own text. -/
def strOf : JsonValue → String
  | .str s => s
  | v => reprOf rules v

/-! ## Dictionaries -/

/-- A dictionary with string keys, in insertion order. -/
abbrev Dict (β : Type) := List (String × β)

namespace Dict

variable {β : Type}

/-- `d.get(key)`. -/
def get (d : Dict β) (key : String) : Option β :=
  List.lookup key d

/-- `d[key] = value`: in place when the key is there, at the end otherwise. -/
def set (key : String) (value : β) : Dict β → Dict β
  | [] => [(key, value)]
  | (k, v) :: rest => if k = key then (key, value) :: rest else (k, v) :: set key value rest

/-- `d.update(patch)`. -/
def update (d patch : Dict β) : Dict β :=
  patch.foldl (fun acc member => set member.1 member.2 acc) d

@[simp] theorem get_nil (key : String) : get ([] : Dict β) key = none := rfl

theorem get_cons (key' : String) (value : β) (d : Dict β) (key : String) :
    get ((key', value) :: d) key = if key = key' then some value else get d key := by
  rw [get, List.lookup_cons]
  by_cases h : key = key'
  · rw [if_pos h, beq_iff_eq.mpr h]
  · rw [if_neg h, beq_eq_false_iff_ne.mpr h]
    rfl

theorem get_set (key : String) (value : β) (d : Dict β) (key' : String) :
    get (set key value d) key' = if key' = key then some value else get d key' := by
  induction d with
  | nil => exact get_cons key value [] key'
  | cons member rest ih =>
      obtain ⟨k, v⟩ := member
      by_cases hk : k = key
      · rw [set, if_pos hk, get_cons, get_cons]
        by_cases h : key' = key
        · rw [if_pos h, if_pos h]
        · rw [if_neg h, if_neg h, if_neg (hk ▸ h)]
      · rw [set, if_neg hk, get_cons, get_cons, ih]
        by_cases h : key' = key
        · rw [if_pos h, if_pos h, if_neg (h ▸ Ne.symm hk)]
        · rw [if_neg h, if_neg h]

/-- An update touches the keys of the patch only. -/
theorem get_update {patch : Dict β} {key : String} (h : key ∉ patch.map Prod.fst) (d : Dict β) :
    get (update d patch) key = get d key := by
  induction patch generalizing d with
  | nil => rfl
  | cons member patch ih =>
      rw [List.map_cons, List.mem_cons, not_or] at h
      have hrest := ih h.2 (set member.1 member.2 d)
      rwa [get_set, if_neg h.1] at hrest

/-- A dictionary built from its keys. -/
theorem get_map {keys : List String} {key : String} (h : key ∈ keys) (f : String → β) :
    get (keys.map fun k => (k, f k)) key = some (f key) := by
  induction keys with
  | nil => simp at h
  | cons k keys ih =>
      rw [List.map_cons, get_cons]
      by_cases hk : key = k
      · rw [if_pos hk, hk]
      · rw [if_neg hk, ih ((List.mem_cons.mp h).resolve_left hk)]

theorem get_append (first second : Dict β) (key : String) :
    get (first ++ second) key = (get first key).or (get second key) := by
  induction first with
  | nil => rfl
  | cons member rest ih =>
      obtain ⟨k, v⟩ := member
      rw [List.cons_append, get_cons, get_cons, ih]
      by_cases h : key = k
      · rw [if_pos h, if_pos h, Option.some_or]
      · rw [if_neg h, if_neg h]

theorem get_eq_of_mem {d : Dict β} (hkeys : (d.map Prod.fst).Nodup) {key : String} {value : β}
    (h : (key, value) ∈ d) : get d key = some value := by
  induction d with
  | nil => simp at h
  | cons member rest ih =>
      obtain ⟨k, v⟩ := member
      rw [List.map_cons, List.nodup_cons] at hkeys
      rw [get_cons]
      rcases List.mem_cons.mp h with heq | hmem
      · rw [if_pos (Prod.mk.inj heq).1, (Prod.mk.inj heq).2]
      · have hne : key ≠ k := by
          rintro rfl
          exact hkeys.1 (List.mem_map.mpr ⟨(key, value), hmem, rfl⟩)
        rw [if_neg hne, ih hkeys.2 hmem]

/-- Assigning to a key that is there leaves the keys as they are. -/
theorem map_fst_set {key : String} {value : β} {d : Dict β} (h : key ∈ d.map Prod.fst) :
    (set key value d).map Prod.fst = d.map Prod.fst := by
  induction d with
  | nil => simp at h
  | cons member rest ih =>
      obtain ⟨k, v⟩ := member
      rw [set]
      by_cases hk : k = key
      · rw [if_pos hk, List.map_cons, List.map_cons, hk]
      · rw [List.map_cons, List.mem_cons] at h
        rw [if_neg hk, List.map_cons, List.map_cons, ih (h.resolve_left (Ne.symm hk))]

/-- Assigning to a new key adds it at the end. -/
theorem map_fst_set_of_not_mem {key : String} {value : β} {d : Dict β}
    (h : key ∉ d.map Prod.fst) : (set key value d).map Prod.fst = d.map Prod.fst ++ [key] := by
  induction d with
  | nil => rfl
  | cons member rest ih =>
      obtain ⟨k, v⟩ := member
      rw [List.map_cons, List.mem_cons, not_or] at h
      rw [set, if_neg (Ne.symm h.1), List.map_cons, List.map_cons, ih h.2, List.cons_append]

theorem nodup_set {d : Dict β} (hkeys : (d.map Prod.fst).Nodup) (key : String) (value : β) :
    ((set key value d).map Prod.fst).Nodup := by
  by_cases h : key ∈ d.map Prod.fst
  · rw [map_fst_set h]
    exact hkeys
  · rw [map_fst_set_of_not_mem h]
    exact hkeys.append (List.nodup_singleton key) (by simpa using h)

/-! ### Grouping

`d = defaultdict(…)` filled in a loop: the entry of a key takes in the elements that
have the key, in their order. -/

/-- `d[key(x)]` takes in `x`, from `init` on when the key is new. -/
def accumulate {α : Type} (init : β) (key : α → String) (add : β → α → β) (d : Dict β) (x : α) :
    Dict β :=
  set (key x) (add ((get d (key x)).getD init) x) d

section

variable {α : Type} {init : β} {key : α → String} {add : β → α → β}

theorem get_foldl_accumulate (d : Dict β) (xs : List α) (k : String) :
    (get (xs.foldl (accumulate init key add) d) k).getD init =
      (xs.filter fun x => key x = k).foldl add ((get d k).getD init) := by
  induction xs generalizing d with
  | nil => rfl
  | cons x xs ih =>
      rw [List.foldl_cons, ih, accumulate, get_set]
      by_cases hk : key x = k
      · rw [if_pos hk.symm, List.filter_cons_of_pos (by simpa using hk), List.foldl_cons, ← hk]
        rfl
      · rw [if_neg (Ne.symm hk), List.filter_cons_of_neg (by simpa using hk)]

theorem nodup_foldl_accumulate {d : Dict β} (hkeys : (d.map Prod.fst).Nodup) (xs : List α) :
    ((xs.foldl (accumulate init key add) d).map Prod.fst).Nodup := by
  induction xs generalizing d with
  | nil => exact hkeys
  | cons x xs ih => exact ih (nodup_set hkeys _ _)

/-- An entry of the filled dictionary holds the elements of its key. -/
theorem eq_of_mem_foldl_accumulate {xs : List α} {k : String} {value : β}
    (h : (k, value) ∈ xs.foldl (accumulate init key add) []) :
    value = (xs.filter fun x => key x = k).foldl add init := by
  have hkeys : ((xs.foldl (accumulate init key add) []).map Prod.fst).Nodup :=
    nodup_foldl_accumulate (d := []) List.nodup_nil xs
  have hget := get_eq_of_mem hkeys h
  have hfold : (get (xs.foldl (accumulate init key add) []) k).getD init =
      (xs.filter fun x => key x = k).foldl add init := get_foldl_accumulate [] xs k
  rw [hget] at hfold
  exact hfold

end

end Dict

/-! ## `json.dumps` -/

/-- The brace an object starts with. -/
abbrev openBrace : Char := '\x7b'

/-- The brace an object ends with. -/
abbrev closeBrace : Char := '\x7d'

/-- A UTF-16 unit as an escape of four hexadecimal digits. -/
def unitEscape (unit : ℕ) : List Char :=
  ['\\', 'u', Nat.digitChar (unit / 4096 % 16), Nat.digitChar (unit / 256 % 16),
    Nat.digitChar (unit / 16 % 16), Nat.digitChar (unit % 16)]

/-- A character of a JSON string, escaped so that only printable ASCII is left. -/
def escapeChar (c : Char) : List Char :=
  if c = '"' then ['\\', '"']
  else if c = '\\' then ['\\', '\\']
  else if c = '\n' then ['\\', 'n']
  else if c = '\r' then ['\\', 'r']
  else if c = '\t' then ['\\', 't']
  else if c = '\x0c' then ['\\', 'f']
  else if c = '\x08' then ['\\', 'b']
  else if ' ' ≤ c ∧ c ≤ '~' then [c]
  else if c.toNat < 0x10000 then unitEscape c.toNat
  else
    unitEscape (0xd800 + (c.toNat - 0x10000) / 0x400) ++
      unitEscape (0xdc00 + (c.toNat - 0x10000) % 0x400)

/-- The JSON text of a string. -/
def dumpsStr (s : String) : List Char :=
  '"' :: (s.toList.flatMap escapeChar ++ ['"'])

/-- The JSON text of a float. -/
def dumpsFloat : PyFloat → List Char
  | .nan => "NaN".toList
  | .infinity => "Infinity".toList
  | .negInfinity => "-Infinity".toList
  | .negZero => "-0.0".toList
  | .finite q => (rules.reprFloat q).toList

mutual

/-- `json.dumps(v)`. -/
def dumps : JsonValue → List Char
  | .null => "null".toList
  | .bool b => if b then "true".toList else "false".toList
  | .int n => decimalText n 0
  | .float x => dumpsFloat rules x
  | .str s => dumpsStr s
  | .list items => '[' :: (dumpsItems items ++ [']'])
  | .dict members => openBrace :: (dumpsMembers members ++ [closeBrace])

/-- The texts of a list's items, with `", "` between them. -/
def dumpsItems : List JsonValue → List Char
  | [] => []
  | [item] => dumps item
  | item :: rest => dumps item ++ ", ".toList ++ dumpsItems rest

/-- The texts of a dictionary's members, with `", "` between them. -/
def dumpsMembers : List (String × JsonValue) → List Char
  | [] => []
  | [(key, value)] => dumpsStr key ++ ": ".toList ++ dumps value
  | (key, value) :: rest =>
      dumpsStr key ++ ": ".toList ++ dumps value ++ ", ".toList ++ dumpsMembers rest

end

/-! ## Braces of a dumped text -/

section Braces

variable {rules}

mutual

/-- The strings of a value: the keys of its dictionaries and the strings in it. -/
def texts : JsonValue → List String
  | .null => []
  | .bool _ => []
  | .int _ => []
  | .float _ => []
  | .str s => [s]
  | .list items => textsOfItems items
  | .dict members => textsOfMembers members

/-- The strings of a list's items. -/
def textsOfItems : List JsonValue → List String
  | [] => []
  | item :: rest => texts item ++ textsOfItems rest

/-- The strings of a dictionary's members. -/
def textsOfMembers : List (String × JsonValue) → List String
  | [] => []
  | (key, value) :: rest => key :: (texts value ++ textsOfMembers rest)

end

/-- A character other than a brace. -/
abbrev NoBrace (c : Char) : Prop := c ≠ openBrace ∧ c ≠ closeBrace

/-- A text without braces. -/
def Plain (text : List Char) : Prop := ∀ c ∈ text, NoBrace c

theorem plain_nil : Plain [] := List.forall_mem_nil _

theorem plain_cons {c : Char} {text : List Char} : Plain (c :: text) ↔ NoBrace c ∧ Plain text :=
  List.forall_mem_cons

theorem plain_append {s t : List Char} : Plain (s ++ t) ↔ Plain s ∧ Plain t :=
  List.forall_mem_append

theorem plain_of_all {text : List Char} (h : text.all (fun c => decide (NoBrace c)) = true) :
    Plain text := fun c hc =>
  of_decide_eq_true (List.all_eq_true.mp h c hc)

theorem plain_pair {a b : Char} (ha : NoBrace a) (hb : NoBrace b) : Plain [a, b] :=
  plain_cons.mpr ⟨ha, plain_cons.mpr ⟨hb, plain_nil⟩⟩

theorem noBrace_digitChar : ∀ n < 16, NoBrace (Nat.digitChar n) := by
  decide

theorem plain_unitEscape (unit : ℕ) : Plain (unitEscape unit) := by
  have hdigit (k : ℕ) : NoBrace (Nat.digitChar (k % 16)) :=
    noBrace_digitChar _ (Nat.mod_lt k (by decide))
  exact plain_append.mpr ⟨plain_pair (by decide) (by decide),
    plain_append.mpr ⟨plain_pair (hdigit _) (hdigit _), plain_pair (hdigit _) (hdigit _)⟩⟩

theorem plain_ite {p : Prop} [Decidable p] {s t : List Char} (hs : Plain s) (ht : Plain t) :
    Plain (if p then s else t) := by
  split
  · exact hs
  · exact ht

/-- Escaping puts no brace in. -/
theorem plain_escapeChar {c : Char} (h : NoBrace c) : Plain (escapeChar c) := by
  have hescape {d : Char} (hd : NoBrace d) : Plain ['\\', d] := plain_pair (by decide) hd
  refine plain_ite (hescape (by decide)) (plain_ite (hescape (by decide)) ?_)
  refine plain_ite (hescape (by decide)) (plain_ite (hescape (by decide)) ?_)
  refine plain_ite (hescape (by decide)) (plain_ite (hescape (by decide)) ?_)
  refine plain_ite (hescape (by decide)) (plain_ite (plain_cons.mpr ⟨h, plain_nil⟩) ?_)
  exact plain_ite (plain_unitEscape _)
    (plain_append.mpr ⟨plain_unitEscape _, plain_unitEscape _⟩)

theorem plain_dumpsStr {s : String} (h : Plain s.toList) : Plain (dumpsStr s) := by
  refine plain_cons.mpr ⟨by decide, plain_append.mpr ⟨?_, plain_cons.mpr ⟨by decide, plain_nil⟩⟩⟩
  intro c hc
  obtain ⟨d, hd, hcd⟩ := List.mem_flatMap.mp hc
  exact plain_escapeChar (h d hd) c hcd

theorem plain_decimalText (n : ℤ) : Plain (decimalText n 0) := by
  have hdigits : Plain (paddedDigits n 0) := by
    intro c hc
    have hdigit := isDigit_of_mem_paddedDigits n 0 hc
    constructor
    · rintro rfl
      exact absurd hdigit (by decide)
    · rintro rfl
      exact absurd hdigit (by decide)
  rw [decimalText]
  refine plain_append.mpr ⟨plain_append.mpr ⟨?_, fun c hc => hdigits c (List.mem_of_mem_take hc)⟩,
    plain_nil⟩
  split_ifs
  · exact plain_cons.mpr ⟨by decide, plain_nil⟩
  · exact plain_nil

theorem Plain.level {text : List Char} (h : Plain text) : Nesting.Level openBrace closeBrace text :=
  Nesting.level_of_not_mem (fun ho => (h _ ho).1 rfl) fun hc => (h _ hc).2 rfl

theorem plain_comma : Plain ", ".toList := plain_of_all (by decide)

theorem plain_colon : Plain ": ".toList := plain_of_all (by decide)

/-- The digits of every float are free of braces. -/
def PlainFloats (rules : TextRules) : Prop := ∀ q, Plain (rules.reprFloat q).toList

theorem plainFloats_noFloats : PlainFloats noFloats := fun _ => plain_nil

theorem plain_dumpsFloat (hfloats : PlainFloats rules) (x : PyFloat) :
    Plain (dumpsFloat rules x) := by
  cases x with
  | nan => exact plain_of_all rfl
  | infinity => exact plain_of_all rfl
  | negInfinity => exact plain_of_all rfl
  | negZero => exact plain_of_all rfl
  | finite q => exact hfloats q

mutual

/-- **The braces of a dumped value are level**, when its strings have none. -/
theorem level_dumps (hfloats : PlainFloats rules) : ∀ v : JsonValue,
    (∀ s ∈ texts v, Plain s.toList) → Nesting.Level openBrace closeBrace (dumps rules v)
  | .null, _ => (plain_of_all rfl).level
  | .bool true, _ => (plain_of_all rfl).level
  | .bool false, _ => (plain_of_all rfl).level
  | .int n, _ => (plain_decimalText n).level
  | .float x, _ => (plain_dumpsFloat hfloats x).level
  | .str s, h => (plain_dumpsStr (h s (List.mem_singleton_self s))).level
  | .list items, h => by
      have hitems := level_dumpsItems hfloats items h
      have hopen : Plain ['['] := plain_of_all (by decide)
      have hclose : Plain [']'] := plain_of_all (by decide)
      exact hopen.level.append (hitems.append hclose.level)
  | .dict members, h => (level_dumpsMembers hfloats members h).wrap (by decide)

theorem level_dumpsItems (hfloats : PlainFloats rules) : ∀ items : List JsonValue,
    (∀ s ∈ textsOfItems items, Plain s.toList) →
      Nesting.Level openBrace closeBrace (dumpsItems rules items)
  | [], _ => plain_nil.level
  | [item], h => level_dumps hfloats item fun s hs => h s (List.mem_append_left _ hs)
  | item :: next :: rest, h =>
      ((level_dumps hfloats item fun s hs => h s (List.mem_append_left _ hs)).append
        plain_comma.level).append
        (level_dumpsItems hfloats (next :: rest) fun s hs => h s (List.mem_append_right _ hs))

theorem level_dumpsMembers (hfloats : PlainFloats rules) : ∀ members : List (String × JsonValue),
    (∀ s ∈ textsOfMembers members, Plain s.toList) →
      Nesting.Level openBrace closeBrace (dumpsMembers rules members)
  | [], _ => plain_nil.level
  | [(key, value)], h => by
      have hkey := (plain_dumpsStr (h key List.mem_cons_self)).level
      have hvalue := level_dumps hfloats value fun s hs =>
        h s (List.mem_cons_of_mem _ (List.mem_append_left _ hs))
      exact (hkey.append plain_colon.level).append hvalue
  | (key, value) :: next :: rest, h => by
      have hkey := (plain_dumpsStr (h key List.mem_cons_self)).level
      have hvalue := level_dumps hfloats value fun s hs =>
        h s (List.mem_cons_of_mem _ (List.mem_append_left _ hs))
      have hrest := level_dumpsMembers hfloats (next :: rest) fun s hs =>
        h s (List.mem_cons_of_mem _ (List.mem_append_right _ hs))
      exact (((hkey.append plain_colon.level).append hvalue).append plain_comma.level).append hrest

end

end Braces

/-! ## `json.loads` -/

/-- The whitespace JSON allows between tokens. -/
def isJsonSpace (c : Char) : Bool :=
  c = ' ' || c = '\t' || c = '\n' || c = '\r'

/-- `json.loads`, with what its callers rely on. -/
structure JsonParser where
  /-- `json.loads(text)`; `none` is `JSONDecodeError`. -/
  loads : List Char → Option JsonValue
  /-- A text that starts with a brace holds an object. -/
  dict_of_brace : ∀ {rest : List Char} {v : JsonValue},
    loads (openBrace :: rest) = some v → ∃ members, v = .dict members
  /-- The text of an object starts with a brace, after whitespace. -/
  brace_of_dict : ∀ {text : List Char} {members : List (String × JsonValue)},
    loads text = some (.dict members) → ∃ rest, text.dropWhile isJsonSpace = openBrace :: rest
  /-- Behind the text of an object there is only whitespace ("Extra data"). -/
  blank_of_dict : ∀ {text rest : List Char} {members : List (String × JsonValue)} {v : JsonValue},
    loads text = some (.dict members) → loads (text ++ rest) = some v →
      ∀ c ∈ rest, isJsonSpace c = true

namespace JsonParser

/-- A parser for the text of one object, and for no other. -/
def only (members : List (String × JsonValue)) : JsonParser where
  loads text :=
    if Text.strip isJsonSpace text = dumps rules (.dict members) then some (.dict members) else none
  dict_of_brace := by
    intro rest v h
    split_ifs at h
    exact ⟨members, (Option.some.inj h).symm⟩
  brace_of_dict := by
    intro text found h
    split_ifs at h with hstrip
    rw [dumps, Text.strip] at hstrip
    obtain ⟨back, hback⟩ := List.rdropWhile_prefix isJsonSpace (text.dropWhile isJsonSpace)
    rw [hstrip] at hback
    exact ⟨_, hback.symm⟩
  blank_of_dict := by
    intro text rest found v htext hrest
    split_ifs at htext hrest with h h'
    have hsquash := congrArg (Text.squash isJsonSpace) (h'.trans h.symm)
    rw [Text.squash_strip, Text.squash_strip, Text.squash_append,
      List.append_right_eq_self] at hsquash
    exact Text.squash_eq_nil_iff.mp hsquash

end JsonParser

end Python

/-! ## Objects of a store

They are read and written as dictionaries are. -/

namespace JsonObject

theorem set_eq (key : String) (value : Json) (object : JsonObject) :
    set key value object = Python.Dict.set key value object := by
  induction object with
  | nil => rfl
  | cons member rest ih => rw [set, Python.Dict.set, ih]

theorem get_cons (key' : String) (value : Json) (object : JsonObject) (key : String) :
    get ((key', value) :: object) key = if key = key' then some value else get object key :=
  Python.Dict.get_cons key' value object key

theorem get_append (first second : JsonObject) (key : String) :
    get (first ++ second) key = (get first key).or (get second key) :=
  Python.Dict.get_append first second key

theorem get_set (key : String) (value : Json) (object : JsonObject) (key' : String) :
    get (set key value object) key' = if key' = key then some value else get object key' := by
  rw [set_eq]
  exact Python.Dict.get_set key value object key'

end JsonObject

end Foundations
