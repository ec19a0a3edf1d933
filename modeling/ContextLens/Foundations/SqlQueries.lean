import ContextLens.Foundations.SqlLogic
import Mathlib.Data.List.Dedup
import Mathlib.Data.List.ReduceOption
import Mathlib.Data.List.Sort
import Mathlib.Data.Rat.Floor
import Mathlib.Tactic.Linarith
import Mathlib.Tactic.Positivity

/-!
# Queries over tables that are lists

The clauses of a `SELECT` as functions on lists.  A join is given by the rows that
belong to a row of the left table, so that a foreign key and a child table nested in
its parent read the same.  `WHERE` is `List.filter` on what `SqlBool.holds` keeps.

The lemmas say how the clauses compose: a left join splits its rows into the matched
ones, which are the inner join, and the rows without a match; a `COUNT(DISTINCT key)`
over a join, with a key of the left table, counts left rows; an average passes over
`NULL`s; and filtering commutes with `ORDER BY` on a key that tells the rows apart.
-/

namespace Foundations

namespace Sql

universe u v w

variable {α : Type u} {β : Type v} {κ : Type w}

/-! ## Clauses -/

/-- `left JOIN right ON …`, with the rows of the right table that match one of the
left. -/
def join (rowsOf : α → List β) (left : List α) : List (α × β) :=
  left.flatMap fun a => (rowsOf a).map (Prod.mk a)

/-- `left LEFT JOIN right ON …`: a row without a match stays, with `NULL`s. -/
def leftJoin (rowsOf : α → List β) (left : List α) : List (α × Option β) :=
  left.flatMap fun a =>
    if (rowsOf a).isEmpty then [(a, none)] else (rowsOf a).map fun b => (a, some b)

/-- `COUNT(DISTINCT key)`. -/
def countDistinct [DecidableEq κ] (key : α → κ) (rows : List α) : ℕ :=
  (rows.map key).dedup.length

/-- The keys of `GROUP BY key`, in the order in which they are met last. -/
def groupKeys [DecidableEq κ] (key : α → κ) (rows : List α) : List κ := (rows.map key).dedup

/-- The rows of one group. -/
def group [DecidableEq κ] (key : α → κ) (rows : List α) (k : κ) : List α :=
  rows.filter fun a => key a = k

/-- `SUM`: of the values that are not `NULL`, and `NULL` when there is none. -/
def sum (values : List (Option ℚ)) : Option ℚ :=
  match values.reduceOption with
  | [] => none
  | v :: vs => some ((v :: vs).sum)

/-- `AVG`. -/
def avg (values : List (Option ℚ)) : Option ℚ :=
  (sum values).map fun total => total / values.reduceOption.length

/-- `MIN`. -/
def minimum {β : Type} [Min β] (values : List (Option β)) : Option β := values.reduceOption.min?

/-- `MAX`. -/
def maximum {β : Type} [Max β] (values : List (Option β)) : Option β := values.reduceOption.max?

/-- A value stored in a `NUMERIC(precision, scale)` column: rounded to `scale` digits, half
away from zero; `none` is the error of a value with too many digits before the point. -/
def numeric (precision scale : ℕ) (x : ℚ) : Option ℚ :=
  let n : ℤ := if x < 0 then -⌊-x * 10 ^ scale + 1 / 2⌋ else ⌊x * 10 ^ scale + 1 / 2⌋
  if |n| < 10 ^ precision then some (n / 10 ^ scale) else none

/-- `percentile_cont(fraction) WITHIN GROUP (ORDER BY value)`: interpolated between the
two values next to the place `fraction * (n - 1)`. -/
def percentileCont (fraction : ℚ) (values : List (Option ℚ)) : Option ℚ :=
  let sorted := values.reduceOption.insertionSort (· ≤ ·)
  let place := fraction * (sorted.length - 1)
  match sorted[place.floor.toNat]?, sorted[place.ceil.toNat]? with
  | some low, some high => some (low + (place - place.floor) * (high - low))
  | _, _ => none

/-- `BTRIM`, of blanks only. -/
def btrim (s : String) : String :=
  String.ofList ((s.toList.dropWhile (· = ' ')).reverse.dropWhile (· = ' ')).reverse

/-- `ORDER BY`. -/
def orderBy (le : α → α → Bool) (rows : List α) : List α :=
  rows.insertionSort fun a b => le a b

/-- `LIMIT … OFFSET …`. -/
def page (limit offset : ℕ) (rows : List α) : List α := (rows.drop offset).take limit

/-! ## Joins -/

section

variable {rowsOf : α → List β} {left : List α}

theorem join_cons (a : α) :
    join rowsOf (a :: left) = (rowsOf a).map (Prod.mk a) ++ join rowsOf left := rfl

theorem leftJoin_cons (a : α) :
    leftJoin rowsOf (a :: left) =
      (if (rowsOf a).isEmpty then [(a, none)] else (rowsOf a).map fun b => (a, some b)) ++
        leftJoin rowsOf left := rfl

theorem mem_join {x : α × β} : x ∈ join rowsOf left ↔ x.1 ∈ left ∧ x.2 ∈ rowsOf x.1 := by
  obtain ⟨a, b⟩ := x
  simp [join]

/-- A join that finds one row at most for each left row repeats none of them. -/
theorem map_fst_join_sublist (hone : ∀ a ∈ left, (rowsOf a).length ≤ 1) :
    ((join rowsOf left).map Prod.fst).Sublist left := by
  induction left with
  | nil => exact List.Sublist.refl []
  | cons a left ih =>
      have hrest := ih fun a' ha' => hone a' (List.mem_cons_of_mem a ha')
      have ha := hone a List.mem_cons_self
      rw [join_cons, List.map_append, List.map_map]
      match hrows : rowsOf a with
      | [] => exact hrest.cons a
      | [b] => exact hrest.cons_cons a
      | _ :: _ :: _ =>
          rw [hrows, List.length_cons, List.length_cons] at ha
          omega

theorem nodup_map_join {key : α → κ} (hkey : (left.map key).Nodup)
    (hone : ∀ a ∈ left, (rowsOf a).length ≤ 1) :
    ((join rowsOf left).map fun x => key x.1).Nodup := by
  have hsub := (map_fst_join_sublist hone).map key
  rw [List.map_map] at hsub
  exact hkey.sublist hsub

theorem mem_leftJoin {x : α × Option β} :
    x ∈ leftJoin rowsOf left ↔
      x.1 ∈ left ∧ (x.2 = none ∧ rowsOf x.1 = [] ∨ ∃ b ∈ rowsOf x.1, x.2 = some b) := by
  obtain ⟨a, row⟩ := x
  rw [leftJoin, List.mem_flatMap]
  constructor
  · rintro ⟨a', ha', hx⟩
    cases hrows : (rowsOf a').isEmpty with
    | true =>
        rw [hrows, if_pos rfl, List.mem_singleton, Prod.mk.injEq] at hx
        obtain ⟨rfl, rfl⟩ := hx
        exact ⟨ha', Or.inl ⟨rfl, List.isEmpty_iff.mp hrows⟩⟩
    | false =>
        rw [hrows, if_neg Bool.false_ne_true] at hx
        obtain ⟨b, hb, hx⟩ := List.mem_map.mp hx
        cases hx
        exact ⟨ha', Or.inr ⟨b, hb, rfl⟩⟩
  · rintro ⟨ha, ⟨rfl, hnone⟩ | ⟨b, hb, rfl⟩⟩
    · exact ⟨a, ha, by simp [show rowsOf a = [] from hnone]⟩
    · refine ⟨a, ha, ?_⟩
      have hne : (rowsOf a).isEmpty = false := by
        cases hrows : rowsOf a with
        | nil => rw [show rowsOf (a, some b).1 = [] from hrows] at hb; cases hb
        | cons => rfl
      rw [hne, if_neg Bool.false_ne_true]
      exact List.mem_map_of_mem hb

/-- A left join that finds at most one row for each left row. -/
theorem leftJoin_eq_map (hone : ∀ a ∈ left, (rowsOf a).length ≤ 1) :
    leftJoin rowsOf left = left.map fun a => (a, (rowsOf a).head?) := by
  induction left with
  | nil => rfl
  | cons a left ih =>
      have hrest := ih fun a' ha' => hone a' (List.mem_cons_of_mem a ha')
      have ha := hone a List.mem_cons_self
      rw [List.map_cons, ← hrest, leftJoin, leftJoin, List.flatMap_cons]
      match hrows : rowsOf a with
      | [] => rfl
      | [b] => rfl
      | _ :: _ :: _ =>
          rw [hrows, List.length_cons, List.length_cons] at ha
          omega

/-- A condition on the left row may be checked before or after the join. -/
theorem join_filter (p : α → Bool) :
    join rowsOf (left.filter p) = (join rowsOf left).filter fun x => p x.1 := by
  induction left with
  | nil => rfl
  | cons a left ih =>
      rw [join_cons, List.filter_append, ← ih, List.filter_cons]
      cases hp : p a with
      | true => simp [join, List.filter_map, Function.comp_def, hp]
      | false => simp [List.filter_map, Function.comp_def, hp]

/-- A join that finds one row for each left row is a filter. -/
theorem map_fst_filter_join (hone : ∀ a ∈ left, ∃ b, rowsOf a = [b]) (p : α × β → Bool) :
    ((join rowsOf left).filter p).map Prod.fst =
      left.filter fun a => (rowsOf a).any fun b => p (a, b) := by
  induction left with
  | nil => rfl
  | cons a left ih =>
      obtain ⟨b, hb⟩ := hone a List.mem_cons_self
      have hrest := ih fun a' ha' => hone a' (List.mem_cons_of_mem a ha')
      rw [join_cons, List.filter_append, List.map_append, hrest, List.filter_cons, hb]
      cases hp : p (a, b) <;> simp [hp]

/-- The rows of a left join without a match. -/
theorem length_filter_leftJoin_isNone (p : α → Bool) :
    ((leftJoin rowsOf left).filter fun x => x.2.isNone && p x.1).length =
      (left.filter fun a => (rowsOf a).isEmpty && p a).length := by
  induction left with
  | nil => rfl
  | cons a left ih =>
      rw [leftJoin_cons, List.filter_append, List.length_append, ih, List.filter_cons]
      cases hrows : (rowsOf a).isEmpty with
      | true => cases hp : p a <;> simp [hp, Nat.add_comm]
      | false => simp [List.filter_map, Function.comp_def]

/-- The matched rows of a left join are the inner join. -/
theorem filter_leftJoin (p : α → β → Bool) :
    (leftJoin rowsOf left).filter (fun x => x.2.any (p x.1)) =
      ((join rowsOf left).filter fun x => p x.1 x.2).map fun x => (x.1, some x.2) := by
  induction left with
  | nil => rfl
  | cons a left ih =>
      rw [leftJoin_cons, join_cons, List.filter_append, List.filter_append, List.map_append, ih]
      have hmatched : ∀ rows : List β,
          (rows.map fun b => (a, some b)).filter (fun x => x.2.any (p x.1)) =
            ((rows.map (Prod.mk a)).filter fun x => p x.1 x.2).map fun x => (x.1, some x.2) := by
        intro rows
        simp [List.filter_map, Function.comp_def]
      cases hrows : rowsOf a with
      | nil => simp
      | cons b rows => exact congrArg (· ++ _) (hmatched (b :: rows))

/-- **Counting left rows through a join.** -/
theorem countDistinct_join [DecidableEq κ] {key : α → κ} (hkey : (left.map key).Nodup)
    (p : α × β → Bool) :
    countDistinct (fun x => key x.1) ((join rowsOf left).filter p) =
      (left.filter fun a => (rowsOf a).any fun b => p (a, b)).length := by
  -- Neither list repeats a key, so it is enough that they have the same ones.
  have hperm : (((join rowsOf left).filter p).map fun x => key x.1).dedup.Perm
      ((left.filter fun a => (rowsOf a).any fun b => p (a, b)).map key) := by
    refine (List.perm_ext_iff_of_nodup (List.nodup_dedup _) ?_).mpr fun k => ?_
    · exact hkey.sublist (List.filter_sublist.map key)
    · rw [List.mem_dedup, List.mem_map, List.mem_map]
      constructor
      · rintro ⟨x, hx, rfl⟩
        obtain ⟨hjoin, hp⟩ := List.mem_filter.mp hx
        obtain ⟨hleft, hrow⟩ := mem_join.mp hjoin
        refine ⟨x.1, List.mem_filter.mpr ⟨hleft, ?_⟩, rfl⟩
        exact List.any_eq_true.mpr ⟨x.2, hrow, hp⟩
      · rintro ⟨a, ha, rfl⟩
        obtain ⟨hleft, hany⟩ := List.mem_filter.mp ha
        obtain ⟨b, hrow, hp⟩ := List.any_eq_true.mp hany
        exact ⟨(a, b), List.mem_filter.mpr ⟨mem_join.mpr ⟨hleft, hrow⟩, hp⟩, rfl⟩
  rw [countDistinct, hperm.length_eq, List.length_map]

/-- The keys of the rows that a filter keeps, and the keys that it loses. -/
theorem countDistinct_filter_add [DecidableEq κ] {key : α → κ} (p : α → Bool) :
    countDistinct key (left.filter p) +
        ((groupKeys key left).filter fun k => !(group key left k).any p).length =
      countDistinct key left := by
  have hperm : ((left.filter p).map key).dedup.Perm
      ((groupKeys key left).filter fun k => (group key left k).any p) := by
    refine (List.perm_ext_iff_of_nodup (List.nodup_dedup _) ?_).mpr fun k => ?_
    · exact (List.nodup_dedup _).filter _
    · rw [List.mem_dedup, List.mem_map, List.mem_filter, groupKeys, List.mem_dedup]
      constructor
      · rintro ⟨a, ha, rfl⟩
        obtain ⟨hleft, hp⟩ := List.mem_filter.mp ha
        refine ⟨List.mem_map_of_mem hleft, List.any_eq_true.mpr ⟨a, ?_, hp⟩⟩
        exact List.mem_filter.mpr ⟨hleft, by simp⟩
      · rintro ⟨-, hany⟩
        obtain ⟨a, ha, hp⟩ := List.any_eq_true.mp hany
        obtain ⟨hleft, hkey⟩ := List.mem_filter.mp ha
        exact ⟨a, List.mem_filter.mpr ⟨hleft, hp⟩, by simpa using hkey⟩
  rw [countDistinct, hperm.length_eq]
  exact (List.length_eq_length_filter_add fun k => (group key left k).any p).symm

end

/-! ## Averages -/

/-- An average is the one of the values that are not `NULL`. -/
theorem avg_eq (values : List (Option ℚ)) :
    avg values = if values.reduceOption = [] then none
      else some (values.reduceOption.sum / values.reduceOption.length) := by
  rw [avg, sum]
  cases values.reduceOption with
  | nil => rfl
  | cons v vs => rw [if_neg (List.cons_ne_nil v vs), Option.map_some]

/-- An average is `NULL` when every value is. -/
theorem avg_eq_none_iff {values : List (Option ℚ)} :
    avg values = none ↔ ∀ v ∈ values, v = none := by
  have hreduced : avg values = none ↔ values.reduceOption = [] := by
    rw [avg, Option.map_eq_none_iff, sum]
    cases values.reduceOption with
    | nil => simp
    | cons v vs => simp
  rw [hreduced, List.eq_nil_iff_forall_not_mem]
  constructor
  · intro hnot v hv
    cases v with
    | none => rfl
    | some x => exact absurd (List.reduceOption_mem_iff.mpr hv) (hnot x)
  · intro hnone x hx
    exact Option.some_ne_none x (hnone _ (List.reduceOption_mem_iff.mp hx))

/-! ## Numeric columns -/

/-- A number that a column takes is in its range; when it has the digits of the column it
is stored as it is. -/
theorem numeric_eq_some {precision scale : ℕ} {x y : ℚ} (hx : 0 ≤ x)
    (h : numeric precision scale x = some y) :
    x * 10 ^ scale < 10 ^ precision ∧ ∀ n : ℤ, x = n / 10 ^ scale → y = x := by
  have hscale : (0 : ℚ) < 10 ^ scale := by positivity
  rw [numeric, if_neg (not_lt.mpr hx)] at h
  split_ifs at h with hrange
  refine ⟨?_, fun n hn => ?_⟩
  · have hfloor : ⌊x * 10 ^ scale + 1 / 2⌋ < 10 ^ precision := lt_of_abs_lt hrange
    have hlt : x * 10 ^ scale + 1 / 2 < 10 ^ precision := by
      have hcast := Int.floor_lt.mp hfloor
      push_cast at hcast
      exact hcast
    linarith
  · have hdigits : x * 10 ^ scale = n := by rw [hn, div_mul_cancel₀ _ hscale.ne']
    have hfloor : ⌊x * 10 ^ scale + 1 / 2⌋ = n := by
      rw [hdigits, Int.floor_eq_iff]
      constructor <;> linarith
    rw [← Option.some.inj h, hfloor, hn]

/-! ## Order -/

section

variable {le : α → α → Bool} {rows : List α}

/-- When no two rows tie there is one way to order them. -/
theorem eq_orderBy {sorted : List α} (htotal : ∀ a b, le a b = true ∨ le b a = true)
    (htrans : ∀ a b c, le a b = true → le b c = true → le a c = true)
    (hantisymm : ∀ a ∈ rows, ∀ b ∈ rows, le a b = true → le b a = true → a = b)
    (hsorted : sorted.Pairwise fun a b => le a b = true) (hperm : sorted.Perm rows) :
    sorted = orderBy le rows := by
  have : Std.Total fun a b => le a b = true := ⟨htotal⟩
  have : IsTrans α fun a b => le a b = true := ⟨htrans⟩
  have hordered : (orderBy le rows).Pairwise fun a b => le a b = true :=
    List.pairwise_insertionSort _ rows
  have hrows : (orderBy le rows).Perm rows := List.perm_insertionSort _ rows
  refine List.Perm.eq_of_pairwise ?_ hsorted hordered (hperm.trans hrows.symm)
  intro a b ha hb
  exact hantisymm a (hperm.mem_iff.mp ha) b (hrows.mem_iff.mp hb)

/-- **Filtering commutes with `ORDER BY`** when no two rows tie. -/
theorem filter_orderBy (htotal : ∀ a b, le a b = true ∨ le b a = true)
    (htrans : ∀ a b c, le a b = true → le b c = true → le a c = true)
    (hantisymm : ∀ a ∈ rows, ∀ b ∈ rows, le a b = true → le b a = true → a = b)
    (p : α → Bool) : (orderBy le rows).filter p = orderBy le (rows.filter p) := by
  have : Std.Total fun a b => le a b = true := ⟨htotal⟩
  have : IsTrans α fun a b => le a b = true := ⟨htrans⟩
  have hordered : (orderBy le rows).Pairwise fun a b => le a b = true :=
    List.pairwise_insertionSort _ rows
  refine eq_orderBy htotal htrans ?_ (hordered.sublist List.filter_sublist)
    ((List.perm_insertionSort _ rows).filter p)
  intro a ha b hb
  exact hantisymm a (List.mem_filter.mp ha).1 b (List.mem_filter.mp hb).1

/-- A further row that comes before all others. -/
theorem orderBy_concat_first {first : α} (htotal : ∀ a b, le a b = true ∨ le b a = true)
    (htrans : ∀ a b c, le a b = true → le b c = true → le a c = true)
    (hantisymm : ∀ a ∈ rows ++ [first], ∀ b ∈ rows ++ [first],
      le a b = true → le b a = true → a = b)
    (hfirst : ∀ a ∈ rows, le first a = true) :
    orderBy le (rows ++ [first]) = first :: orderBy le rows := by
  have : Std.Total fun a b => le a b = true := ⟨htotal⟩
  have : IsTrans α fun a b => le a b = true := ⟨htrans⟩
  have hordered : (orderBy le rows).Pairwise fun a b => le a b = true :=
    List.pairwise_insertionSort _ rows
  have hperm : (orderBy le rows).Perm rows := List.perm_insertionSort _ rows
  refine (eq_orderBy htotal htrans hantisymm (List.pairwise_cons.mpr ⟨?_, hordered⟩) ?_).symm
  · intro a ha
    exact hfirst a (hperm.mem_iff.mp ha)
  · exact (hperm.cons first).trans (List.perm_append_singleton first rows).symm

end

end Sql

end Foundations
