import ContextLens.Foundations.SqlQueries
import Mathlib.Data.List.Infix
import Mathlib.Data.List.Nodup

/-!
# Pages of a list that grows at the front

A list that is read newest first and only gains elements was, at any earlier time, a
suffix of what it is now.  `LIMIT … OFFSET …` counts from the front, which moves.  The
place of an element counted from the oldest one does not: the page at `offset` of a list
of `n` elements holds the places from `n - offset - limit` up to `n - offset`, whatever
was added since.

So two pages read at different times share an element exactly if their intervals of
places meet: `pages_share_iff`.
-/

namespace Foundations

namespace Sql

universe u w

variable {α : Type u} {κ : Type w} {limit offset : ℕ} {old now : List α}

/-- The elements of a page, by their places counted from the oldest. -/
theorem mem_page_iff (h : old <:+ now) {x : α} :
    x ∈ page limit offset old ↔
      ∃ k, old.length - offset - limit ≤ k ∧ k < old.length - offset ∧
        now.reverse[k]? = some x := by
  obtain ⟨added, rfl⟩ := h
  have hplace : ∀ i, i < old.length →
      (added ++ old).reverse[old.length - 1 - i]? = old[i]? := by
    intro i hi
    rw [List.reverse_append, List.getElem?_append_left (by rw [List.length_reverse]; omega),
      List.getElem?_reverse (by omega)]
    exact congrArg (old[·]?) (by omega)
  rw [page, List.mem_iff_getElem?]
  constructor
  · rintro ⟨i, hi⟩
    rw [List.getElem?_take] at hi
    split_ifs at hi with hlimit
    rw [List.getElem?_drop] at hi
    have hlt : offset + i < old.length := (List.getElem?_eq_some_iff.mp hi).1
    exact ⟨old.length - 1 - (offset + i), by omega, by omega, (hplace _ hlt).trans hi⟩
  · rintro ⟨k, hlow, hhigh, hx⟩
    refine ⟨old.length - 1 - k - offset, ?_⟩
    have hat := hplace (old.length - 1 - k) (by omega)
    rw [show old.length - 1 - (old.length - 1 - k) = k by omega] at hat
    rw [List.getElem?_take, if_pos (by omega), List.getElem?_drop,
      show offset + (old.length - 1 - k - offset) = old.length - 1 - k by omega, ← hat]
    exact hx

/-- **When two pages share an element.** -/
theorem pages_share_iff {old' : List α} {offset' : ℕ} (hnodup : now.Nodup) (h : old <:+ now)
    (h' : old' <:+ now) :
    (∃ x, x ∈ page limit offset old ∧ x ∈ page limit offset' old') ↔
      old.length - offset - limit < old'.length - offset' ∧
        old'.length - offset' - limit < old.length - offset := by
  constructor
  · rintro ⟨x, hx, hx'⟩
    obtain ⟨k, hlow, hhigh, hk⟩ := (mem_page_iff h).mp hx
    obtain ⟨k', hlow', hhigh', hk'⟩ := (mem_page_iff h').mp hx'
    obtain ⟨hlt, -⟩ := List.getElem?_eq_some_iff.mp hk
    have hsame : k = k' :=
      (List.getElem?_inj hlt (List.nodup_reverse.mpr hnodup)).mp (hk.trans hk'.symm)
    omega
  · rintro ⟨hmeet, hmeet'⟩
    -- The later of the two lower ends is a place of both.
    have hlength : old.length ≤ now.length := h.length_le
    have hplace : max (old.length - offset - limit) (old'.length - offset' - limit) <
        now.reverse.length := by
      rw [List.length_reverse]
      omega
    have hat := List.getElem?_eq_getElem hplace
    refine ⟨_, (mem_page_iff h).mpr ⟨_, le_max_left _ _, ?_, hat⟩,
      (mem_page_iff h').mpr ⟨_, le_max_right _ _, ?_, hat⟩⟩
    · omega
    · omega

theorem page_map (f : α → κ) (rows : List α) :
    page limit offset (rows.map f) = (page limit offset rows).map f := by
  rw [page, page, List.map_take, List.map_drop]

/-- The same for elements that a key tells apart. -/
theorem pages_share_key_iff {key : α → κ} {old' : List α} {offset' : ℕ}
    (hnodup : (now.map key).Nodup) (h : old <:+ now) (h' : old' <:+ now) :
    (∃ x ∈ page limit offset old, ∃ y ∈ page limit offset' old', key x = key y) ↔
      old.length - offset - limit < old'.length - offset' ∧
        old'.length - offset' - limit < old.length - offset := by
  have hshare : (∃ k, k ∈ page limit offset (old.map key) ∧
      k ∈ page limit offset' (old'.map key)) ↔ _ :=
    pages_share_iff hnodup (h.map key) (h'.map key)
  rw [List.length_map, List.length_map, page_map, page_map] at hshare
  rw [← hshare]
  constructor
  · rintro ⟨x, hx, y, hy, hsame⟩
    exact ⟨key x, List.mem_map_of_mem hx, hsame ▸ List.mem_map_of_mem hy⟩
  · rintro ⟨k, hk, hk'⟩
    obtain ⟨x, hx, rfl⟩ := List.mem_map.mp hk
    obtain ⟨y, hy, hsame⟩ := List.mem_map.mp hk'
    exact ⟨x, hx, y, hy, hsame.symm⟩

end Sql

end Foundations
