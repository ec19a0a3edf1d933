import ContextLens.Foundations.SqlQueries
import Mathlib.Algebra.Order.BigOperators.Group.List
import Mathlib.Algebra.BigOperators.Group.List.Lemmas

/-!
# Aggregates: groups that add up, and values in their order

A sum over the groups of a `GROUP BY` is the sum over the rows, and over some of the groups
it is the sum over their rows.  An average and every `percentile_cont` lie between the least
and the greatest value, and the percentiles are monotone in the fraction: `percentile_cont`
interpolates a monotone sequence, and `interpolate_mono` is that fact over the integers.
-/

namespace Foundations

namespace Sql

universe u v w

variable {α : Type u} {κ : Type w}

/-! ## Groups -/

section

variable [DecidableEq κ] {key : α → κ} {rows : List α}

/-- `SELECT key, f(…) … GROUP BY key`. -/
def aggregate {β : Type v} (key : α → κ) (f : List α → β) (rows : List α) : List (κ × β) :=
  (groupKeys key rows).map fun k => (k, f (group key rows k))

/-- `SELECT key, COUNT(*) … GROUP BY key`. -/
def countBy (key : α → κ) (rows : List α) : List (κ × ℕ) := aggregate key List.length rows

theorem nodup_groupKeys (key : α → κ) (rows : List α) : (groupKeys key rows).Nodup :=
  List.nodup_dedup _

@[simp] theorem mem_groupKeys {k : κ} : k ∈ groupKeys key rows ↔ ∃ a ∈ rows, key a = k := by
  rw [groupKeys, List.mem_dedup, List.mem_map]

@[simp] theorem mem_group {k : κ} {a : α} : a ∈ group key rows k ↔ a ∈ rows ∧ key a = k := by
  rw [group, List.mem_filter, decide_eq_true_eq]

theorem group_cons (a : α) (k : κ) :
    group key (a :: rows) k = if key a = k then a :: group key rows k else group key rows k := by
  rw [group, List.filter_cons]
  simp only [decide_eq_true_eq]
  rfl

/-- A sum that one key contributes to. -/
theorem sum_map_ite_of_nodup {M : Type*} [AddCommMonoid M] {keys : List κ} (hkeys : keys.Nodup)
    (k : κ) (x : M) :
    (keys.map fun k' => if k = k' then x else 0).sum = if k ∈ keys then x else 0 := by
  induction keys with
  | nil => rfl
  | cons k' keys ih =>
      obtain ⟨hnot, hrest⟩ := List.nodup_cons.mp hkeys
      rw [List.map_cons, List.sum_cons, ih hrest]
      by_cases heq : k = k'
      · subst heq
        rw [if_pos rfl, if_neg hnot, if_pos List.mem_cons_self, add_zero]
      · rw [if_neg heq, zero_add]
        simp only [List.mem_cons, heq, false_or]

/-- **A sum over some of the groups** is the sum over their rows. -/
theorem sum_map_group {M : Type*} [AddCommMonoid M] (f : α → M) {keys : List κ}
    (hkeys : keys.Nodup) (rows : List α) :
    (keys.map fun k => ((group key rows k).map f).sum).sum =
      ((rows.filter fun a => key a ∈ keys).map f).sum := by
  induction rows with
  | nil => simp [group]
  | cons a rows ih =>
      have hcons : ∀ k, ((group key (a :: rows) k).map f).sum =
          (if key a = k then f a else 0) + ((group key rows k).map f).sum := by
        intro k
        rw [group_cons]
        by_cases hkey : key a = k
        · rw [if_pos hkey, if_pos hkey, List.map_cons, List.sum_cons]
        · rw [if_neg hkey, if_neg hkey, zero_add]
      simp only [hcons]
      rw [List.sum_map_add, ih, sum_map_ite_of_nodup hkeys, List.filter_cons]
      by_cases hmem : key a ∈ keys
      · simp only [hmem, if_true, decide_true, List.map_cons, List.sum_cons]
      · simp only [hmem, if_false, decide_false, zero_add, Bool.false_eq_true]

/-- A sum over all groups. -/
theorem sum_map_groupKeys {M : Type*} [AddCommMonoid M] (f : α → M) (rows : List α) :
    ((groupKeys key rows).map fun k => ((group key rows k).map f).sum).sum =
      (rows.map f).sum := by
  rw [sum_map_group f (nodup_groupKeys key rows)]
  congr 2
  exact List.filter_eq_self.mpr fun a ha => by simpa using ⟨a, ha, rfl⟩

/-- The rows of some of the groups, one group after the other. -/
theorem flatMap_group_perm {keys : List κ} (hkeys : keys.Nodup) (rows : List α) :
    (keys.flatMap (group key rows)).Perm (rows.filter fun a => key a ∈ keys) := by
  induction keys with
  | nil => simp
  | cons k keys ih =>
      obtain ⟨hnot, hrest⟩ := List.nodup_cons.mp hkeys
      have hsplit := List.filter_append_perm (fun a => decide (key a = k))
        (rows.filter fun a => key a ∈ k :: keys)
      have hfirst : (rows.filter fun a => key a ∈ k :: keys).filter
          (fun a => decide (key a = k)) = group key rows k := by
        rw [List.filter_filter, group]
        refine List.filter_congr fun a _ => ?_
        by_cases hk : key a = k <;> simp [hk]
      have hothers : (rows.filter fun a => key a ∈ k :: keys).filter
          (fun a => !decide (key a = k)) = rows.filter fun a => key a ∈ keys := by
        rw [List.filter_filter]
        refine List.filter_congr fun a _ => ?_
        by_cases hk : key a = k
        · simp [hk, hnot]
        · simp [hk]
      rw [hfirst, hothers] at hsplit
      exact ((ih hrest).append_left (group key rows k)).trans hsplit

theorem length_eq_sum (rows : List α) : rows.length = (rows.map fun _ => 1).sum := by
  rw [List.map_const', List.sum_replicate, nsmul_eq_mul, Nat.cast_id, mul_one]

/-- The rows of some of the groups are as many as these groups have. -/
theorem sum_length_group {keys : List κ} (hkeys : keys.Nodup) (rows : List α) :
    (keys.map fun k => (group key rows k).length).sum =
      (rows.filter fun a => key a ∈ keys).length := by
  rw [length_eq_sum, ← sum_map_group _ hkeys]
  exact congrArg List.sum (List.map_congr_left fun k _ => length_eq_sum _)

/-- **The counts of a `GROUP BY` add up.** -/
theorem sum_countBy (key : α → κ) (rows : List α) :
    ((countBy key rows).map Prod.snd).sum = rows.length := by
  rw [length_eq_sum, ← @sum_map_groupKeys _ _ _ key, countBy, aggregate, List.map_map]
  exact congrArg List.sum (List.map_congr_left fun k _ => length_eq_sum _)

/-- The counts of some of the keys. -/
theorem sum_filter_countBy (p : κ → Bool) (rows : List α) :
    (((countBy key rows).filter fun e => p e.1).map Prod.snd).sum =
      (rows.filter fun a => p (key a)).length := by
  have hkeys : ((countBy key rows).filter fun e => p e.1).map Prod.snd =
      ((groupKeys key rows).filter p).map fun k => (group key rows k).length := by
    rw [countBy, aggregate, List.filter_map, List.map_map]
    rfl
  rw [hkeys, sum_length_group ((nodup_groupKeys key rows).filter p)]
  refine congrArg List.length (List.filter_congr fun a ha => ?_)
  have hmem : key a ∈ groupKeys key rows := mem_groupKeys.mpr ⟨a, ha, rfl⟩
  rw [Bool.eq_iff_iff, decide_eq_true_eq, List.mem_filter, and_iff_right hmem]

theorem map_fst_aggregate {β : Type v} (key : α → κ) (f : List α → β) (rows : List α) :
    (aggregate key f rows).map Prod.fst = groupKeys key rows := by
  rw [aggregate, List.map_map]
  exact List.map_id _

theorem mem_aggregate {β : Type v} {f : List α → β} {k : κ} {x : β} :
    (k, x) ∈ aggregate key f rows ↔ (∃ a ∈ rows, key a = k) ∧ x = f (group key rows k) := by
  rw [aggregate, List.mem_map]
  constructor
  · rintro ⟨k', hk', heq⟩
    cases heq
    exact ⟨mem_groupKeys.mp hk', rfl⟩
  · rintro ⟨hk, rfl⟩
    exact ⟨k, mem_groupKeys.mpr hk, rfl⟩

/-- **The rows of the aggregates with a key**: one, when the key occurs. -/
theorem filter_aggregate {β : Type v} (f : List α → β) (k : κ) :
    (aggregate key f rows).filter (fun e => e.1 = k) =
      if group key rows k = [] then [] else [(k, f (group key rows k))] := by
  have hkeys : (groupKeys key rows).filter (fun k' => k' = k) =
      if group key rows k = [] then [] else [k] := by
    by_cases hgroup : group key rows k = []
    · rw [if_pos hgroup, List.filter_eq_nil_iff]
      intro k' hk' heq
      obtain ⟨a, ha, hkey⟩ := mem_groupKeys.mp hk'
      have hin : a ∈ group key rows k := mem_group.mpr ⟨ha, hkey.trans (by simpa using heq)⟩
      rw [hgroup] at hin
      exact absurd hin List.not_mem_nil
    · obtain ⟨a, ha⟩ := List.exists_mem_of_ne_nil _ hgroup
      have hmem : k ∈ groupKeys key rows := mem_groupKeys.mpr ⟨a, mem_group.mp ha⟩
      rw [if_neg hgroup, List.filter_eq,
        List.count_eq_one_of_mem (nodup_groupKeys key rows) hmem]
      rfl
  rw [aggregate, List.filter_map]
  have hcomp : (fun e : κ × β => decide (e.1 = k)) ∘ (fun k' => (k', f (group key rows k'))) =
      fun k' => decide (k' = k) := rfl
  rw [hcomp, hkeys]
  split_ifs <;> rfl

theorem aggregate_congr {β : Type v} {key' : α → κ} (f : List α → β)
    (h : ∀ a ∈ rows, key a = key' a) : aggregate key f rows = aggregate key' f rows := by
  have hkeys : groupKeys key rows = groupKeys key' rows := by
    rw [groupKeys, groupKeys, List.map_congr_left h]
  rw [aggregate, aggregate, hkeys]
  refine List.map_congr_left fun k _ => ?_
  rw [group, group, List.filter_congr fun a ha => by rw [h a ha]]

/-- Renaming the keys. -/
theorem aggregate_comp {β : Type v} {κ' : Type w} [DecidableEq κ'] {g : κ → κ'}
    (hg : Function.Injective g) (f : List α → β) :
    aggregate (fun a => g (key a)) f rows =
      (aggregate key f rows).map fun e => (g e.1, e.2) := by
  have hkeys : groupKeys (fun a => g (key a)) rows = (groupKeys key rows).map g := by
    rw [groupKeys, groupKeys, ← List.dedup_map_of_injective hg, List.map_map]
    rfl
  rw [aggregate, aggregate, hkeys, List.map_map, List.map_map]
  refine List.map_congr_left fun k _ => ?_
  have hgroup : group (fun a => g (key a)) rows (g k) = group key rows k := by
    rw [group, group]
    exact List.filter_congr fun a _ => decide_eq_decide.mpr hg.eq_iff
  simp only [Function.comp_apply, hgroup]

/-- The groups of rows that another table gives the keys of. -/
theorem group_map {α' : Type u} (f : α' → α) (rows : List α') (k : κ) :
    group key (rows.map f) k = (group (fun a => key (f a)) rows k).map f := by
  rw [group, List.filter_map]
  rfl

theorem aggregate_length_map {α' : Type u} (f : α' → α) (rows : List α') :
    aggregate key List.length (rows.map f) =
      aggregate (fun a => key (f a)) List.length rows := by
  rw [aggregate, aggregate, groupKeys, List.map_map]
  refine List.map_congr_left fun k _ => ?_
  rw [group_map, List.length_map]

theorem groupKeys_map {α' : Type u} (f : α' → α) (rows : List α') :
    groupKeys key (rows.map f) = groupKeys (fun a => key (f a)) rows := by
  rw [groupKeys, List.map_map]
  rfl

end

/-! ## Joins with one row at most -/

/-- A join that finds one row at most for each left row. -/
theorem join_eq_filterMap {β : Type v} {rowsOf : α → List β} {left : List α}
    (hone : ∀ a ∈ left, (rowsOf a).length ≤ 1) :
    join rowsOf left = left.filterMap fun a => (rowsOf a).head?.map (Prod.mk a) := by
  induction left with
  | nil => rfl
  | cons a left ih =>
      have hrest := ih fun a' ha' => hone a' (List.mem_cons_of_mem a ha')
      have ha := hone a List.mem_cons_self
      rw [join_cons, hrest]
      match hrows : rowsOf a with
      | [] =>
          rw [List.filterMap_cons_none (by rw [hrows]; rfl)]
          rfl
      | [b] =>
          rw [List.filterMap_cons_some (by rw [hrows]; rfl)]
          rfl
      | _ :: _ :: _ =>
          rw [hrows, List.length_cons, List.length_cons] at ha
          omega

/-- What one row alone contributes. -/
theorem filterMap_eq_toList {β : Type v} {f : α → Option β} {rows : List α} (hnodup : rows.Nodup)
    {a : α} (ha : a ∈ rows) (hothers : ∀ b ∈ rows, b ≠ a → f b = none) :
    rows.filterMap f = (f a).toList := by
  induction rows with
  | nil => exact absurd ha List.not_mem_nil
  | cons b rows ih =>
      obtain ⟨hnot, hrest⟩ := List.nodup_cons.mp hnodup
      by_cases heq : b = a
      · subst heq
        have hnone : rows.filterMap f = [] := List.filterMap_eq_nil_iff.mpr fun c hc =>
          hothers c (List.mem_cons_of_mem b hc) fun hcb => hnot (hcb ▸ hc)
        rw [List.filterMap_cons, hnone]
        cases f b <;> rfl
      · rw [List.filterMap_cons_none (hothers b List.mem_cons_self heq)]
        exact ih hrest ((List.mem_cons.mp ha).resolve_left (Ne.symm heq)) fun c hc =>
          hothers c (List.mem_cons_of_mem b hc)

/-- The row with a key that no two rows have. -/
theorem filter_key_eq [DecidableEq κ] {key : α → κ} {rows : List α} (hnodup : (rows.map key).Nodup)
    {a : α} (ha : a ∈ rows) : (rows.filter fun b => key b = key a) = [a] := by
  rw [← List.filterMap_eq_filter, filterMap_eq_toList (List.Nodup.of_map key hnodup) ha]
  · simp [Option.guard]
  · intro b hb hne
    have hkey : key b ≠ key a := fun hkey => hne (List.inj_on_of_nodup_map hnodup hb ha hkey)
    simp [Option.guard, hkey]

/-! ## Sums -/

/-- A `SUM` is the sum over all rows, where a `NULL` counts nothing. -/
theorem getD_sum (values : List (Option ℚ)) :
    (sum values).getD 0 = (values.map fun value => value.getD 0).sum := by
  have hsum : (sum values).getD 0 = values.reduceOption.sum := by
    rw [sum]
    cases values.reduceOption <;> rfl
  rw [hsum]
  clear hsum
  induction values with
  | nil => rfl
  | cons value values ih =>
      rw [List.map_cons, List.sum_cons, ← ih]
      cases value with
      | none => rw [List.reduceOption_cons_of_none, Option.getD_none, zero_add]
      | some x => rw [List.reduceOption_cons_of_some, List.sum_cons, Option.getD_some]

/-- Rows that add nothing may be left out of a sum. -/
theorem sum_map_filter {M : Type*} [AddCommMonoid M] {f : α → M} {p : α → Bool} {rows : List α}
    (h : ∀ a ∈ rows, p a = false → f a = 0) : ((rows.filter p).map f).sum = (rows.map f).sum := by
  induction rows with
  | nil => rfl
  | cons a rows ih =>
      have hrest := ih fun b hb => h b (List.mem_cons_of_mem a hb)
      cases hp : p a with
      | true => rw [List.filter_cons_of_pos hp, List.map_cons, List.sum_cons, hrest,
          List.map_cons, List.sum_cons]
      | false => rw [List.filter_cons_of_neg (by simp [hp]), hrest, List.map_cons, List.sum_cons,
          h a List.mem_cons_self hp, zero_add]

/-! ## What an aggregate reads -/

theorem reduceOption_map_some {β : Type*} (values : List β) :
    (values.map some).reduceOption = values := by
  induction values with
  | nil => rfl
  | cons value values ih => rw [List.map_cons, List.reduceOption_cons_of_some, ih]

/-- An average reads the values that are not `NULL`. -/
theorem avg_congr {values values' : List (Option ℚ)}
    (h : values.reduceOption = values'.reduceOption) : avg values = avg values' := by
  rw [avg_eq, avg_eq, h]

/-- So does a percentile. -/
theorem percentileCont_congr {fraction : ℚ} {values values' : List (Option ℚ)}
    (h : values.reduceOption = values'.reduceOption) :
    percentileCont fraction values = percentileCont fraction values' := by
  rw [percentileCont, percentileCont, h]

/-! ## Averages between the extremes -/

section

variable {values : List (Option ℚ)} {x lo hi : ℚ}

theorem le_avg (h : avg values = some x) (hlo : ∀ v ∈ values.reduceOption, lo ≤ v) : lo ≤ x := by
  rw [avg_eq] at h
  split_ifs at h with hne
  have hpos : (0 : ℚ) < values.reduceOption.length := by
    exact_mod_cast List.length_pos_iff.mpr hne
  rw [← Option.some.inj h, le_div_iff₀ hpos, mul_comm, ← nsmul_eq_mul]
  exact List.card_nsmul_le_sum _ _ hlo

theorem avg_le (h : avg values = some x) (hhi : ∀ v ∈ values.reduceOption, v ≤ hi) : x ≤ hi := by
  rw [avg_eq] at h
  split_ifs at h with hne
  have hpos : (0 : ℚ) < values.reduceOption.length := by
    exact_mod_cast List.length_pos_iff.mpr hne
  rw [← Option.some.inj h, div_le_iff₀ hpos, mul_comm, ← nsmul_eq_mul]
  exact List.sum_le_card_nsmul _ _ hhi

end

/-! ## Percentiles -/

/-- A sequence read between its places. -/
def interpolate (f : ℤ → ℚ) (x : ℚ) : ℚ := f ⌊x⌋ + (x - ⌊x⌋) * (f ⌈x⌉ - f ⌊x⌋)

section

variable {f : ℤ → ℚ} {x y : ℚ}

theorem le_interpolate (hf : ∀ i j, i ≤ j → f i ≤ f j) : f ⌊x⌋ ≤ interpolate f x := by
  have hstep : 0 ≤ f ⌈x⌉ - f ⌊x⌋ := sub_nonneg.mpr (hf _ _ (Int.floor_le_ceil x))
  have hfrac : 0 ≤ x - ⌊x⌋ := sub_nonneg.mpr (Int.floor_le x)
  exact le_add_of_nonneg_right (mul_nonneg hfrac hstep)

theorem interpolate_le (hf : ∀ i j, i ≤ j → f i ≤ f j) : interpolate f x ≤ f ⌈x⌉ := by
  have hstep : 0 ≤ f ⌈x⌉ - f ⌊x⌋ := sub_nonneg.mpr (hf _ _ (Int.floor_le_ceil x))
  have hfrac : x - ⌊x⌋ ≤ 1 := by linarith [Int.lt_floor_add_one x]
  have hmul := mul_le_of_le_one_left hstep hfrac
  rw [interpolate]
  linarith

/-- **Interpolation keeps the order.** -/
theorem interpolate_mono (hf : ∀ i j, i ≤ j → f i ≤ f j) (hxy : x ≤ y) :
    interpolate f x ≤ interpolate f y := by
  rcases le_or_gt ⌈x⌉ ⌊y⌋ with hapart | hsame
  · calc interpolate f x ≤ f ⌈x⌉ := interpolate_le hf
      _ ≤ f ⌊y⌋ := hf _ _ hapart
      _ ≤ interpolate f y := le_interpolate hf
  · -- Both places are in one step of the sequence.
    have hfloor : ⌊x⌋ ≤ ⌊y⌋ := Int.floor_mono hxy
    have hceil : ⌈x⌉ ≤ ⌈y⌉ := Int.ceil_mono hxy
    have hxceil : ⌈x⌉ ≤ ⌊x⌋ + 1 := Int.ceil_le_floor_add_one x
    have hyceil : ⌈y⌉ ≤ ⌊y⌋ + 1 := Int.ceil_le_floor_add_one y
    have hfloors : ⌊y⌋ = ⌊x⌋ := by omega
    have hceils : ⌈y⌉ = ⌈x⌉ := by omega
    have hstep : 0 ≤ f ⌈x⌉ - f ⌊x⌋ := sub_nonneg.mpr (hf _ _ (Int.floor_le_ceil x))
    have hmul : (x - ⌊x⌋) * (f ⌈x⌉ - f ⌊x⌋) ≤ (y - ⌊x⌋) * (f ⌈x⌉ - f ⌊x⌋) :=
      mul_le_mul_of_nonneg_right (by linarith) hstep
    rw [interpolate, interpolate, hfloors, hceils]
    linarith

end

/-- The values in order, as a sequence that goes on with the last of them. -/
def orderedValue (values : List (Option ℚ)) (i : ℤ) : ℚ :=
  let sorted := values.reduceOption.insertionSort (· ≤ ·)
  (sorted[min i.toNat (sorted.length - 1)]?).getD 0

section

variable {values : List (Option ℚ)} {fraction other q lo hi : ℚ}

theorem orderedValue_mem (hne : values.reduceOption ≠ []) (i : ℤ) :
    orderedValue values i ∈ values.reduceOption := by
  have hlength := List.length_insertionSort (· ≤ ·) values.reduceOption
  have hpos : 0 < values.reduceOption.length := List.length_pos_iff.mpr hne
  have hlt : min i.toNat ((values.reduceOption.insertionSort (· ≤ ·)).length - 1) <
      (values.reduceOption.insertionSort (· ≤ ·)).length := by omega
  rw [orderedValue, List.getElem?_eq_getElem hlt, Option.getD_some]
  exact (List.perm_insertionSort _ _).mem_iff.mp (List.getElem_mem hlt)

theorem orderedValue_mono (hne : values.reduceOption ≠ []) (i j : ℤ) (hij : i ≤ j) :
    orderedValue values i ≤ orderedValue values j := by
  have hlength := List.length_insertionSort (· ≤ ·) values.reduceOption
  have hpos : 0 < values.reduceOption.length := List.length_pos_iff.mpr hne
  have hsorted : (values.reduceOption.insertionSort (· ≤ ·)).Pairwise (· ≤ ·) :=
    List.pairwise_insertionSort _ _
  have hlt : ∀ k : ℕ, min k ((values.reduceOption.insertionSort (· ≤ ·)).length - 1) <
      (values.reduceOption.insertionSort (· ≤ ·)).length := by omega
  rw [orderedValue, orderedValue, List.getElem?_eq_getElem (hlt _),
    List.getElem?_eq_getElem (hlt _), Option.getD_some, Option.getD_some]
  have hle : i.toNat ≤ j.toNat := Int.toNat_le_toNat hij
  exact hsorted.rel_get_of_le (a := ⟨_, hlt _⟩) (b := ⟨_, hlt _⟩) (Fin.mk_le_mk.mpr (by omega))

theorem floor_eq (x : ℚ) : ⌊x⌋ = x.floor := rfl

theorem ceil_eq (x : ℚ) : ⌈x⌉ = x.ceil := by
  rw [Rat.ceil_eq_neg_floor_neg, ← floor_eq, Int.floor_neg, neg_neg]

/-- A percentile is read from the values in order. -/
theorem percentileCont_eq (hne : values.reduceOption ≠ []) (hhigh : fraction ≤ 1) :
    percentileCont fraction values =
      some (interpolate (orderedValue values)
        (fraction * (values.reduceOption.length - 1))) := by
  have hlength := List.length_insertionSort (· ≤ ·) values.reduceOption
  have hpos : 1 ≤ values.reduceOption.length := List.length_pos_iff.mpr hne
  have hlast : ((values.reduceOption.length - 1 : ℕ) : ℚ) = values.reduceOption.length - 1 := by
    rw [Nat.cast_sub hpos, Nat.cast_one]
  have hplace : fraction * ((values.reduceOption.length : ℚ) - 1) ≤
      (values.reduceOption.length - 1 : ℕ) := by
    rw [hlast]
    exact mul_le_of_le_one_left (hlast ▸ Nat.cast_nonneg _) hhigh
  have hceil : ⌈fraction * ((values.reduceOption.length : ℚ) - 1)⌉ ≤
      (values.reduceOption.length - 1 : ℕ) := Int.ceil_le.mpr (by exact_mod_cast hplace)
  have hfloor := (Int.floor_le_ceil (fraction * ((values.reduceOption.length : ℚ) - 1))).trans hceil
  have hget : ∀ i : ℤ, i ≤ (values.reduceOption.length - 1 : ℕ) →
      (values.reduceOption.insertionSort (· ≤ ·))[i.toNat]? = some (orderedValue values i) := by
    intro i hi
    have hlt : i.toNat < (values.reduceOption.insertionSort (· ≤ ·)).length := by omega
    have hmin : min i.toNat ((values.reduceOption.insertionSort (· ≤ ·)).length - 1) = i.toNat := by
      omega
    rw [orderedValue, hmin, List.getElem?_eq_getElem hlt, Option.getD_some]
  have hfloorGet := hget _ hfloor
  have hceilGet := hget _ hceil
  simp only [percentileCont, hlength, ← floor_eq, ← ceil_eq, hfloorGet, hceilGet, interpolate]

theorem percentileCont_eq_none (h : values.reduceOption = []) :
    percentileCont fraction values = none := by
  rw [percentileCont, h]
  rfl

/-- **A percentile lies between the values.** -/
theorem percentileCont_mem_bounds (hhigh : fraction ≤ 1)
    (h : percentileCont fraction values = some q) (hlo : ∀ v ∈ values.reduceOption, lo ≤ v)
    (hhi : ∀ v ∈ values.reduceOption, v ≤ hi) : lo ≤ q ∧ q ≤ hi := by
  by_cases hne : values.reduceOption = []
  · rw [percentileCont_eq_none hne] at h
    cases h
  · rw [percentileCont_eq hne hhigh] at h
    have hmono := orderedValue_mono hne
    rw [← Option.some.inj h]
    exact ⟨(hlo _ (orderedValue_mem hne _)).trans (le_interpolate hmono),
      (interpolate_le hmono).trans (hhi _ (orderedValue_mem hne _))⟩

/-- **The percentiles are in their order.** -/
theorem percentileCont_mono {r : ℚ} (hle : fraction ≤ other)
    (hhigh : other ≤ 1) (h : percentileCont fraction values = some q)
    (hother : percentileCont other values = some r) : q ≤ r := by
  by_cases hne : values.reduceOption = []
  · rw [percentileCont_eq_none hne] at h
    cases h
  · rw [percentileCont_eq hne (hle.trans hhigh)] at h
    rw [percentileCont_eq hne hhigh] at hother
    have hpos : (1 : ℚ) ≤ values.reduceOption.length := by
      exact_mod_cast List.length_pos_iff.mpr hne
    rw [← Option.some.inj h, ← Option.some.inj hother]
    exact interpolate_mono (orderedValue_mono hne)
      (mul_le_mul_of_nonneg_right hle (by linarith))

end

end Sql

end Foundations
