import ContextLens.Foundations.SqlQueries
import Mathlib.Data.List.Nodup
import Mathlib.Data.List.Perm.Basic
import Mathlib.Order.Nat

/-!
# Tables with keys and references

A table is a list of rows.  Its key column is drawn from a sequence of numbers, so the keys
are distinct and below the next one; a column of another table refers to it when each of
its values is the key of some row.

The lemmas follow the writes of a database: a row with the next key, an update that leaves
the key alone, a delete, and a delete that cascades to the rows which refer to what is gone.
-/

namespace Foundations

namespace Table

universe u v

variable {α : Type u} {β : Type v}

/-- The keys are distinct and were drawn before `next`. -/
structure Keyed (key : α → ℕ) (next : ℕ) (rows : List α) : Prop where
  nodup : (rows.map key).Nodup
  lt_next : ∀ a ∈ rows, key a < next

/-- Every row refers to the key of some row of the other table. -/
def Refers (ref : β → ℕ) (key : α → ℕ) (children : List β) (parents : List α) : Prop :=
  ∀ b ∈ children, ref b ∈ parents.map key

/-- The rows that are left when what refers to a deleted row goes with it. -/
def cascade (key : α → ℕ) (ref : β → ℕ) (parents : List α) (p : α → Bool) (children : List β) :
    List β :=
  children.filter fun b => !parents.any fun a => p a && decide (key a = ref b)

/-! ## Keys -/

namespace Keyed

variable {key : α → ℕ} {next : ℕ} {rows : List α}

theorem nil (key : α → ℕ) (next : ℕ) : Keyed key next [] :=
  ⟨List.nodup_nil, fun _ ha => absurd ha List.not_mem_nil⟩

theorem mono (h : Keyed key next rows) {next' : ℕ} (hle : next ≤ next') : Keyed key next' rows :=
  ⟨h.nodup, fun a ha => lt_of_lt_of_le (h.lt_next a ha) hle⟩

theorem filter (h : Keyed key next rows) (p : α → Bool) : Keyed key next (rows.filter p) :=
  ⟨h.nodup.sublist (List.filter_sublist.map key),
    fun a ha => h.lt_next a (List.mem_of_mem_filter ha)⟩

/-- An update that leaves the keys alone. -/
theorem of_map_eq (h : Keyed key next rows) {rows' : List α} (hmap : rows'.map key = rows.map key) :
    Keyed key next rows' := by
  refine ⟨hmap ▸ h.nodup, fun a ha => ?_⟩
  have hkey : key a ∈ rows.map key := hmap ▸ List.mem_map_of_mem ha
  obtain ⟨b, hb, hsame⟩ := List.mem_map.mp hkey
  rw [← hsame]
  exact h.lt_next b hb

/-- Rows whose keys are drawn next. -/
theorem append (h : Keyed key next rows) {new : List α} {next' : ℕ} (hle : next ≤ next')
    (hnew : Keyed key next' new) (hfresh : ∀ a ∈ new, next ≤ key a) :
    Keyed key next' (rows ++ new) := by
  constructor
  · rw [List.map_append]
    refine h.nodup.append hnew.nodup fun k hold hk => ?_
    obtain ⟨a, ha, rfl⟩ := List.mem_map.mp hold
    obtain ⟨b, hb, hsame⟩ := List.mem_map.mp hk
    have hbelow := h.lt_next a ha
    have habove := hfresh b hb
    omega
  · intro a ha
    rcases List.mem_append.mp ha with hold | hin
    · exact lt_of_lt_of_le (h.lt_next a hold) hle
    · exact hnew.lt_next a hin

/-- A row with the next key. -/
theorem concat (h : Keyed key next rows) {a : α} (ha : key a = next) :
    Keyed key (next + 1) (rows ++ [a]) := by
  refine h.append (Nat.le_succ next) ⟨List.nodup_singleton _, ?_⟩ ?_
  · exact List.forall_mem_singleton.mpr (by omega)
  · exact List.forall_mem_singleton.mpr ha.ge

/-- Two rows with one key are one row. -/
theorem eq_of_key_eq (h : Keyed key next rows) {a b : α} (ha : a ∈ rows) (hb : b ∈ rows)
    (hkey : key a = key b) : a = b := List.inj_on_of_nodup_map h.nodup ha hb hkey

/-- A row is what the search for its key finds. -/
theorem find?_eq (h : Keyed key next rows) {a : α} (ha : a ∈ rows) :
    rows.find? (fun b => key b = key a) = some a := by
  cases hfound : rows.find? fun b => key b = key a with
  | none =>
      rw [List.find?_eq_none] at hfound
      exact absurd (decide_eq_true rfl) (hfound a ha)
  | some b =>
      have hkey : key b = key a := by simpa using List.find?_some hfound
      rw [h.eq_of_key_eq (List.mem_of_find?_eq_some hfound) ha hkey]

/-- A row is the only one with its key. -/
theorem filter_eq (h : Keyed key next rows) {a : α} (ha : a ∈ rows) :
    (rows.filter fun b => key b = key a) = [a] := by
  have hnodup : (rows.filter fun b => key b = key a).Nodup :=
    (List.Nodup.of_map key h.nodup).filter _
  have hall : ∀ b ∈ rows.filter fun b => key b = key a, b = a := by
    intro b hb
    obtain ⟨hin, hkey⟩ := List.mem_filter.mp hb
    exact h.eq_of_key_eq hin ha (of_decide_eq_true hkey)
  have hmem : a ∈ rows.filter fun b => key b = key a :=
    List.mem_filter.mpr ⟨ha, decide_eq_true rfl⟩
  rw [List.eq_replicate_of_mem hall] at hnodup hmem ⊢
  rw [List.nodup_replicate] at hnodup
  obtain ⟨hlength, -⟩ := List.mem_replicate.mp hmem
  rw [show (rows.filter fun b => key b = key a).length = 1 by omega]
  rfl

theorem not_mem_next (h : Keyed key next rows) : next ∉ rows.map key := by
  intro hmem
  obtain ⟨a, ha, hkey⟩ := List.mem_map.mp hmem
  exact absurd hkey (ne_of_lt (h.lt_next a ha))

end Keyed

/-! ## References -/

namespace Refers

variable {ref : β → ℕ} {key : α → ℕ} {children : List β} {parents : List α}

theorem nil (ref : β → ℕ) (key : α → ℕ) (parents : List α) : Refers ref key [] parents :=
  fun _ hb => absurd hb List.not_mem_nil

/-- The keys that are referred to stay. -/
theorem of_keys (h : Refers ref key children parents) {parents' : List α}
    (hkeys : parents.map key ⊆ parents'.map key) : Refers ref key children parents' :=
  fun b hb => hkeys (h b hb)

/-- An update of the rows that are referred to, which leaves their keys alone. -/
theorem of_keys_eq (h : Refers ref key children parents) {parents' : List α}
    (hmap : parents'.map key = parents.map key) : Refers ref key children parents' :=
  h.of_keys (hmap ▸ List.Subset.refl _)

theorem append_parents (h : Refers ref key children parents) (new : List α) :
    Refers ref key children (parents ++ new) :=
  h.of_keys (by rw [List.map_append]; exact List.subset_append_left _ _)

theorem append (h : Refers ref key children parents) {new : List β}
    (hnew : Refers ref key new parents) : Refers ref key (children ++ new) parents :=
  fun b hb => (List.mem_append.mp hb).elim (h b) (hnew b)

theorem filter (h : Refers ref key children parents) (p : β → Bool) :
    Refers ref key (children.filter p) parents := fun b hb => h b (List.mem_of_mem_filter hb)

/-- An update of the rows that leaves the references alone. -/
theorem of_map_eq (h : Refers ref key children parents) {children' : List β}
    (hmap : children'.map ref = children.map ref) : Refers ref key children' parents := by
  intro b hb
  have href : ref b ∈ children.map ref := hmap ▸ List.mem_map_of_mem hb
  obtain ⟨b', hb', hsame⟩ := List.mem_map.mp href
  exact hsame ▸ h b' hb'

/-- **The join along a reference** neither loses a row nor repeats one. -/
theorem map_fst_join {next : ℕ} (h : Refers ref key children parents)
    (hkeyed : Keyed key next parents) :
    (Sql.join (fun b => parents.filter fun a => key a = ref b) children).map Prod.fst =
      children := by
  induction children with
  | nil => rfl
  | cons b children ih =>
      obtain ⟨a, ha, hkey⟩ := List.mem_map.mp (h b List.mem_cons_self)
      have hone : (parents.filter fun a => key a = ref b) = [a] := hkey ▸ hkeyed.filter_eq ha
      rw [Sql.join_cons, List.map_append, hone,
        ih fun b' hb' => h b' (List.mem_cons_of_mem b hb')]
      rfl

/-- **A cascade leaves no row behind** that refers to a deleted one. -/
theorem cascade (h : Refers ref key children parents) (p : α → Bool) :
    Refers ref key (cascade key ref parents p children) (parents.filter fun a => !p a) := by
  intro b hb
  obtain ⟨hchild, hkept⟩ := List.mem_filter.mp hb
  obtain ⟨a, ha, hkey⟩ := List.mem_map.mp (h b hchild)
  refine List.mem_map.mpr ⟨a, List.mem_filter.mpr ⟨ha, ?_⟩, hkey⟩
  rw [Bool.not_eq_true', List.any_eq_false] at hkept
  have hspared := hkept a ha
  rw [Bool.and_eq_true, decide_eq_true_iff, not_and] at hspared
  rw [Bool.not_eq_true', ← Bool.not_eq_true]
  exact fun hp => hspared hp hkey

/-- A delete that no row refers to needs no cascade. -/
theorem delete_unreferenced (h : Refers ref key children parents) {p : α → Bool}
    (hfree : ∀ b ∈ children, ∀ a ∈ parents, key a = ref b → p a = false) :
    Refers ref key children (parents.filter fun a => !p a) := by
  intro b hb
  obtain ⟨a, ha, hkey⟩ := List.mem_map.mp (h b hb)
  refine List.mem_map.mpr ⟨a, List.mem_filter.mpr ⟨ha, ?_⟩, hkey⟩
  rw [hfree b hb a ha hkey]
  rfl

end Refers

/-- An update of some rows, by a function that leaves the column alone. -/
theorem map_update {ref : α → ℕ} {rows : List α} {p : α → Prop} [DecidablePred p] {f : α → α}
    (hf : ∀ a, ref (f a) = ref a) :
    (rows.map fun a => if p a then f a else a).map ref = rows.map ref := by
  rw [List.map_map]
  refine List.map_congr_left fun a _ => ?_
  simp only [Function.comp_apply]
  split_ifs
  · exact hf a
  · rfl

end Table

end Foundations
