import Mathlib.Data.List.Sort
import Mathlib.Data.List.Flatten

/-!
# The first rows of an order

What `ORDER BY … LIMIT k` selects, whichever way ties are broken: `k` rows in order, or all of
them, such that no row that is left out comes before one that is selected.

The first rows of a table that is read in parts are the first rows of the first rows of its
parts (`IsTop.of_parts`): a row that a part leaves out has `k` rows of that part in front
of it.

A select whose order an approximate index answers promises less: rows of the table in order, and
no more than `k` of them (`OrderedScan`).
-/

namespace Foundations

namespace Sql

universe u

variable {α : Type u}

/-- The first `limit` rows in the order `le`. -/
structure IsTop (le : α → α → Prop) (limit : ℕ) (rows taken : List α) : Prop where
  ordered : taken.Pairwise le
  length_eq : taken.length = min limit rows.length
  split : ∃ left, (taken ++ left).Perm rows ∧ ∀ a ∈ taken, ∀ b ∈ left, le a b

/-- `limit` of the rows come before `b`. -/
def Dominated (le : α → α → Prop) (limit : ℕ) (rows : List α) (b : α) : Prop :=
  ∃ top : List α, top.length = limit ∧ top.Subperm rows ∧ ∀ a ∈ top, le a b

namespace IsTop

variable {le : α → α → Prop} {limit : ℕ} {rows taken : List α}

theorem subset (h : IsTop le limit rows taken) : taken ⊆ rows := by
  obtain ⟨left, hperm, -⟩ := h.split
  exact fun a ha => hperm.mem_iff.mp (List.mem_append_left left ha)

theorem of_perm (h : IsTop le limit rows taken) {rows' : List α} (hperm : rows.Perm rows') :
    IsTop le limit rows' taken := by
  obtain ⟨left, hsplit, hbefore⟩ := h.split
  exact ⟨h.ordered, hperm.length_eq ▸ h.length_eq, left, hsplit.trans hperm, hbefore⟩

/-- Rows that another order does not tell apart from this one. -/
theorem of_imp (h : IsTop le limit rows taken) {le' : α → α → Prop}
    (hle : ∀ a ∈ rows, ∀ b ∈ rows, le a b → le' a b) : IsTop le' limit rows taken := by
  obtain ⟨left, hperm, hbefore⟩ := h.split
  have hleft : left ⊆ rows := fun b hb => hperm.mem_iff.mp (List.mem_append_right taken hb)
  exact ⟨h.ordered.imp_of_mem fun ha hb hab => hle _ (h.subset ha) _ (h.subset hb) hab,
    h.length_eq, left, hperm,
    fun a ha b hb => hle a (h.subset ha) b (hleft hb) (hbefore a ha b hb)⟩

/-- A limit that is not reached cuts nothing off. -/
theorem perm_of_lt (h : IsTop le limit rows taken) (hlt : taken.length < limit) :
    taken.Perm rows := by
  obtain ⟨left, hperm, -⟩ := h.split
  have hlength := h.length_eq
  have htotal := hperm.length_eq
  rw [List.length_append] at htotal
  have hleft : left = [] := List.length_eq_zero_iff.mp (by omega)
  rwa [hleft, List.append_nil] at hperm

/-- A smaller limit. -/
theorem take (h : IsTop le limit rows taken) {k : ℕ} (hk : k ≤ limit) :
    IsTop le k rows (taken.take k) := by
  obtain ⟨left, hperm, hbefore⟩ := h.split
  have hordered := h.ordered
  rw [← List.take_append_drop k taken, List.pairwise_append] at hordered
  refine ⟨hordered.1, ?_, taken.drop k ++ left, ?_, fun a ha b hb => ?_⟩
  · rw [List.length_take, h.length_eq]
    omega
  · rw [← List.append_assoc, List.take_append_drop]
    exact hperm
  · rcases List.mem_append.mp hb with hdropped | hleft
    · exact hordered.2.2 a ha b hdropped
    · exact hbefore a (List.mem_of_mem_take ha) b hleft

end IsTop

/-- The first rows of a table that is in order. -/
theorem isTop_take {le : α → α → Prop} {rows : List α} (h : rows.Pairwise le) (limit : ℕ) :
    IsTop le limit rows (rows.take limit) := by
  have hsplit := h
  rw [← List.take_append_drop limit rows, List.pairwise_append] at hsplit
  exact ⟨hsplit.1, List.length_take, rows.drop limit,
    List.Perm.of_eq (List.take_append_drop limit rows), hsplit.2.2⟩

/-- What the parts leave out is dominated by what they select. -/
theorem exists_dropped {le : α → α → Prop} {limit : ℕ} {parts tops : List (List α)}
    (h : List.Forall₂ (IsTop le limit) parts tops) :
    ∃ dropped, (dropped ++ tops.flatten).Perm parts.flatten ∧
      ∀ b ∈ dropped, Dominated le limit tops.flatten b := by
  induction h with
  | nil => exact ⟨[], List.Perm.refl _, fun _ hb => absurd hb List.not_mem_nil⟩
  | @cons part top parts tops hpart hparts ih =>
      obtain ⟨dropped, hperm, hdominated⟩ := ih
      obtain ⟨left, hsplit, hbefore⟩ := hpart.split
      refine ⟨left ++ dropped, ?_, fun b hb => ?_⟩
      · rw [List.flatten_cons, List.flatten_cons]
        have hmiddle : (left ++ dropped ++ (top ++ tops.flatten)).Perm
            ((top ++ left) ++ (dropped ++ tops.flatten)) := by
          refine (List.perm_append_comm_assoc (left ++ dropped) top _).trans (List.Perm.of_eq ?_)
          rw [List.append_assoc, List.append_assoc]
        exact hmiddle.trans (hsplit.append hperm)
      · rw [List.flatten_cons]
        rcases List.mem_append.mp hb with hleft | hdropped
        · refine ⟨top, ?_, (List.sublist_append_left top _).subperm,
            fun a ha => hbefore a ha b hleft⟩
          have hpos : 0 < left.length := List.length_pos_of_mem hleft
          have htotal := hsplit.length_eq
          have hlength := hpart.length_eq
          rw [List.length_append] at htotal
          omega
        · obtain ⟨other, hlength, hin, hle⟩ := hdominated b hdropped
          exact ⟨other, hlength, hin.trans (List.sublist_append_right top _).subperm, hle⟩

section

variable {le : α → α → Prop} [Std.Total le] [IsTrans α le] {limit : ℕ} {rows taken : List α}

/-- **What `ORDER BY … LIMIT` selects.** -/
theorem isTop_take_insertionSort [DecidableRel le] (rows : List α) (limit : ℕ) :
    IsTop le limit rows ((rows.insertionSort le).take limit) := by
  have hsorted : (rows.insertionSort le).Pairwise le := List.pairwise_insertionSort _ rows
  rw [← List.take_append_drop limit (rows.insertionSort le), List.pairwise_append] at hsorted
  refine ⟨hsorted.1, ?_, (rows.insertionSort le).drop limit, ?_, hsorted.2.2⟩
  · rw [List.length_take, List.length_insertionSort]
  · rw [List.take_append_drop]
    exact List.perm_insertionSort le rows

/-- **A further row behind `limit` of the others changes nothing.** -/
theorem IsTop.cons_of_dominated (h : IsTop le limit rows taken) {b : α}
    (hdominated : Dominated le limit rows b) : IsTop le limit (b :: rows) taken := by
  classical
  obtain ⟨left, hperm, hbefore⟩ := h.split
  obtain ⟨top, hcount, hin, hle⟩ := hdominated
  have hlimit : limit ≤ rows.length := hcount ▸ hin.length_le
  have hlength : taken.length = limit := h.length_eq.trans (min_eq_left hlimit)
  refine ⟨h.ordered, ?_, b :: left, ?_, fun a ha => List.forall_mem_cons.mpr ⟨?_, hbefore a ha⟩⟩
  · rw [hlength, List.length_cons]
    omega
  · exact List.perm_middle.trans (hperm.cons b)
  · -- Otherwise all of `top` would be selected, and `a` besides.
    by_contra hnot
    have hnotTop : ∀ x ∈ top, ¬le a x := fun x hx hax =>
      hnot (IsTrans.trans a x b hax (hle x hx))
    have hselected : (a :: top).Subperm taken := by
      rw [List.subperm_ext_iff]
      intro x hx
      rcases List.mem_cons.mp hx with rfl | hxtop
      · have hnotMem : x ∉ top := fun hmem => hnotTop x hmem (refl x)
        rw [List.count_cons_self, List.count_eq_zero_of_not_mem hnotMem]
        exact List.one_le_count_iff.mpr ha
      · have hne : a ≠ x := fun heq => hnotTop x hxtop (heq ▸ refl a)
        have hleft : List.count x left = 0 :=
          List.count_eq_zero_of_not_mem fun hmem => hnotTop x hxtop (hbefore a ha x hmem)
        have hcounts := hin.count_le x
        rw [← hperm.count_eq, List.count_append, hleft, Nat.add_zero] at hcounts
        rwa [List.count_cons_of_ne hne]
    have hlengths := hselected.length_le
    rw [List.length_cons, hcount, hlength] at hlengths
    omega

/-- **The first rows of the first rows of the parts** are the first rows of the whole. -/
theorem IsTop.of_parts {parts tops : List (List α)}
    (hparts : List.Forall₂ (IsTop le limit) parts tops)
    (h : IsTop le limit tops.flatten taken) : IsTop le limit parts.flatten taken := by
  obtain ⟨dropped, hperm, hdominated⟩ := exists_dropped hparts
  refine IsTop.of_perm ?_ hperm
  clear hperm
  induction dropped with
  | nil => exact h
  | cons b dropped ih =>
      have hrest := ih fun b' hb' => hdominated b' (List.mem_cons_of_mem b hb')
      obtain ⟨top, hlength, hin, hle⟩ := hdominated b List.mem_cons_self
      exact hrest.cons_of_dominated
        ⟨top, hlength, hin.trans (List.sublist_append_right dropped _).subperm, hle⟩

end

/-! ## Approximate scans -/

section

variable {le : α → α → Prop}

/-- The answers to `SELECT … WHERE keeps ORDER BY … LIMIT limit`: rows that satisfy the
condition, each as often as the table has it at most, in order.  An index that looks at a part
of the table may miss rows that come first, and even all rows that satisfy the condition. -/
structure OrderedScan (le : α → α → Prop) where
  answer : List α → (α → Bool) → ℕ → List α
  subperm : ∀ rows keeps limit, (answer rows keeps limit).Subperm (rows.filter keeps)
  ordered : ∀ rows keeps limit, (answer rows keeps limit).Pairwise le
  length_le : ∀ rows keeps limit, (answer rows keeps limit).length ≤ limit

namespace OrderedScan

/-- The scan misses nothing. -/
def Exact (scan : OrderedScan le) : Prop :=
  ∀ rows keeps limit, IsTop le limit (rows.filter keeps) (scan.answer rows keeps limit)

variable {scan : OrderedScan le} {rows : List α} {keeps : α → Bool} {limit : ℕ}

theorem mem_rows {a : α} (h : a ∈ scan.answer rows keeps limit) : a ∈ rows ∧ keeps a = true :=
  List.mem_filter.mp ((scan.subperm rows keeps limit).subset h)

/-- An exact scan finds something where there is something. -/
theorem Exact.answer_ne_nil_iff (h : scan.Exact) :
    scan.answer rows keeps limit ≠ [] ↔ 0 < limit ∧ ∃ a ∈ rows, keeps a = true := by
  have hlength := (h rows keeps limit).length_eq
  have hsome : 0 < (rows.filter keeps).length ↔ ∃ a ∈ rows, keeps a = true := by
    simp only [List.length_pos_iff_exists_mem, List.mem_filter]
  rw [← hsome, ← List.length_pos_iff, hlength]
  omega

variable [DecidableRel le] [Std.Total le] [IsTrans α le]

/-- The scan that sorts the whole table. -/
def sequential (le : α → α → Prop) [DecidableRel le] [Std.Total le] [IsTrans α le] :
    OrderedScan le where
  answer rows keeps limit := ((rows.filter keeps).insertionSort le).take limit
  subperm _ _ limit :=
    (List.take_sublist limit _).subperm.trans (List.perm_insertionSort le _).subperm
  ordered _ _ _ := (List.pairwise_insertionSort le _).take
  length_le _ _ limit := List.length_take_le limit _

theorem sequential_exact : (sequential le).Exact := fun _ _ limit =>
  isTop_take_insertionSort _ limit

end OrderedScan

end

end Sql

end Foundations
