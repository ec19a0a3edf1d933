import Mathlib.Data.List.Induction
import Mathlib.Data.List.Nodup

/-!
# Dictionaries that remember the order of insertion

A Python `dict` or a JavaScript `Map`: no key twice, an assignment to a key that is there keeps
its place, and a new key goes to the end.

`collect` is the loop that fills such a dictionary from a list, with the elements of a key
folded into one value.  Its entries are the keys of the list in the order in which they are
first met (`keys_collect_sublist`), each with the fold of its own elements (`get_collect`).
-/

namespace Foundations

universe u v w

/-- A dictionary in insertion order. -/
structure OrderedDict (κ : Type u) (β : Type v) where
  entries : List (κ × β)
  nodup_keys : (entries.map Prod.fst).Nodup

namespace OrderedDict

variable {κ : Type u} {β : Type v} [DecidableEq κ]

/-- The keys, in order. -/
def keys (d : OrderedDict κ β) : List κ := d.entries.map Prod.fst

/-- The values, in order. -/
def values (d : OrderedDict κ β) : List β := d.entries.map Prod.snd

/-- The value of a key. -/
def get (d : OrderedDict κ β) (k : κ) : Option β := (d.entries.find? fun e => e.1 = k).map Prod.snd

/-- The entries after an assignment. -/
def setEntries (k : κ) (value : β) : List (κ × β) → List (κ × β)
  | [] => [(k, value)]
  | e :: rest => if e.1 = k then (k, value) :: rest else e :: setEntries k value rest

theorem map_fst_setEntries (k : κ) (value : β) (entries : List (κ × β)) :
    (setEntries k value entries).map Prod.fst =
      if k ∈ entries.map Prod.fst then entries.map Prod.fst else entries.map Prod.fst ++ [k] := by
  induction entries with
  | nil => rfl
  | cons e rest ih =>
      rw [setEntries]
      by_cases hk : e.1 = k
      · rw [if_pos hk, if_pos (by rw [List.map_cons, hk]; exact List.mem_cons_self)]
        rw [List.map_cons, List.map_cons, hk]
      · rw [if_neg hk, List.map_cons, List.map_cons, ih]
        by_cases hmem : k ∈ rest.map Prod.fst
        · rw [if_pos hmem, if_pos (List.mem_cons_of_mem _ hmem)]
        · have hnot : k ∉ e.1 :: rest.map Prod.fst :=
            List.not_mem_cons_of_ne_of_not_mem (Ne.symm hk) hmem
          rw [if_neg hmem, if_neg hnot, List.cons_append]

theorem nodup_setEntries {k : κ} {value : β} {entries : List (κ × β)}
    (h : (entries.map Prod.fst).Nodup) : ((setEntries k value entries).map Prod.fst).Nodup := by
  rw [map_fst_setEntries]
  split_ifs with hmem
  · exact h
  · exact h.append (List.nodup_singleton k) (by simpa using hmem)

/-- `d[k] = value`. -/
def set (d : OrderedDict κ β) (k : κ) (value : β) : OrderedDict κ β where
  entries := setEntries k value d.entries
  nodup_keys := nodup_setEntries d.nodup_keys

/-- The empty dictionary. -/
def empty : OrderedDict κ β := ⟨[], List.nodup_nil⟩

@[simp] theorem get_empty (k : κ) : (empty : OrderedDict κ β).get k = none := rfl

theorem find?_setEntries (k k' : κ) (value : β) (entries : List (κ × β)) :
    ((setEntries k value entries).find? fun e => e.1 = k').map Prod.snd =
      if k' = k then some value else (entries.find? fun e => e.1 = k').map Prod.snd := by
  induction entries with
  | nil =>
      rw [setEntries, List.find?_cons]
      by_cases hk : k' = k
      · simp [hk]
      · simp [hk, Ne.symm hk]
  | cons e rest ih =>
      rw [setEntries]
      by_cases hk : e.1 = k
      · rw [if_pos hk, List.find?_cons, List.find?_cons]
        by_cases heq : k' = k
        · simp [heq]
        · simp [heq, hk, Ne.symm heq]
      · rw [if_neg hk, List.find?_cons, List.find?_cons]
        by_cases heq : e.1 = k'
        · simp [heq, heq ▸ hk]
        · simp only [heq, decide_false]
          exact ih

theorem get_set (d : OrderedDict κ β) (k k' : κ) (value : β) :
    (d.set k value).get k' = if k' = k then some value else d.get k' :=
  find?_setEntries k k' value d.entries

theorem keys_set (d : OrderedDict κ β) (k : κ) (value : β) :
    (d.set k value).keys = if k ∈ d.keys then d.keys else d.keys ++ [k] :=
  map_fst_setEntries k value d.entries

theorem mem_keys_iff {d : OrderedDict κ β} {k : κ} : k ∈ d.keys ↔ (d.get k).isSome := by
  rw [get, Option.isSome_map, List.find?_isSome, keys, List.mem_map]
  simp

/-- An entry is what `get` finds. -/
theorem mem_entries_iff {d : OrderedDict κ β} {k : κ} {value : β} :
    (k, value) ∈ d.entries ↔ d.get k = some value := by
  constructor
  · intro h
    have hsome : (d.entries.find? fun e => e.1 = k).isSome :=
      List.find?_isSome.mpr ⟨(k, value), h, by simp⟩
    obtain ⟨e, he⟩ := Option.isSome_iff_exists.mp hsome
    have hkey : e.1 = k := by simpa using List.find?_some he
    have hsame : e = (k, value) :=
      List.inj_on_of_nodup_map d.nodup_keys (List.mem_of_find?_eq_some he) h hkey
    rw [get, he, hsame]
    rfl
  · intro h
    obtain ⟨e, he, rfl⟩ := Option.map_eq_some_iff.mp h
    have hkey : e.1 = k := by simpa using List.find?_some he
    rw [← hkey]
    exact List.mem_of_find?_eq_some he

/-- The values are those of the keys. -/
theorem values_eq_map (d : OrderedDict κ β) {f : κ → β} (h : ∀ k ∈ d.keys, d.get k = some (f k)) :
    d.values = d.keys.map f := by
  rw [values, keys, List.map_map]
  refine List.map_congr_left fun e he => ?_
  have hget := mem_entries_iff.mp he
  rw [h e.1 (List.mem_map_of_mem he)] at hget
  exact (Option.some.inj hget).symm

/-! ## Comprehensions -/

/-- `{k: v for k, v in pairs}`. -/
def ofList (pairs : List (κ × β)) : OrderedDict κ β := pairs.foldl (fun d p => d.set p.1 p.2) empty

theorem setEntries_of_not_mem {k : κ} {value : β} {entries : List (κ × β)}
    (h : k ∉ entries.map Prod.fst) : setEntries k value entries = entries ++ [(k, value)] := by
  induction entries with
  | nil => rfl
  | cons e rest ih =>
      rw [List.map_cons, List.mem_cons, not_or] at h
      rw [setEntries, if_neg (Ne.symm h.1), ih h.2, List.cons_append]

/-- Pairs without a repeated key are the entries. -/
theorem entries_ofList {pairs : List (κ × β)} (h : (pairs.map Prod.fst).Nodup) :
    (ofList pairs).entries = pairs := by
  induction pairs using List.reverseRecOn with
  | nil => rfl
  | append_singleton pairs p ih =>
      rw [List.map_append, List.nodup_append] at h
      have hrest := ih h.1
      have hnot : p.1 ∉ (ofList pairs).entries.map Prod.fst := fun hmem =>
        h.2.2 p.1 (hrest ▸ hmem) p.1 List.mem_cons_self rfl
      have hset : (ofList (pairs ++ [p])).entries =
          setEntries p.1 p.2 (ofList pairs).entries := by
        rw [ofList, List.foldl_append]
        rfl
      rw [hset, setEntries_of_not_mem hnot, hrest]

theorem get_ofList {pairs : List (κ × β)} (h : (pairs.map Prod.fst).Nodup) (k : κ) :
    (ofList pairs).get k = ((pairs.filter fun p => p.1 = k).head?).map Prod.snd := by
  rw [get, entries_ofList h, List.head?_filter]

theorem values_ofList {pairs : List (κ × β)} (h : (pairs.map Prod.fst).Nodup) :
    (ofList pairs).values = pairs.map Prod.snd := by
  rw [values, entries_ofList h]

theorem mem_setEntries {k : κ} {value : β} {entries : List (κ × β)} {e : κ × β}
    (h : e ∈ setEntries k value entries) : e = (k, value) ∨ e ∈ entries := by
  induction entries with
  | nil => exact Or.inl (List.mem_singleton.mp h)
  | cons e' rest ih =>
      rw [setEntries] at h
      split_ifs at h with hk
      · exact (List.mem_cons.mp h).imp id (List.mem_cons_of_mem e')
      · rcases List.mem_cons.mp h with rfl | hrest
        · exact Or.inr List.mem_cons_self
        · exact (ih hrest).imp id (List.mem_cons_of_mem e')

/-- The entries are pairs of the list. -/
theorem mem_of_mem_entries_ofList {pairs : List (κ × β)} {e : κ × β}
    (h : e ∈ (ofList pairs).entries) : e ∈ pairs := by
  induction pairs using List.reverseRecOn with
  | nil => exact absurd h List.not_mem_nil
  | append_singleton pairs p ih =>
      rw [ofList, List.foldl_append] at h
      rcases mem_setEntries h with rfl | hrest
      · exact List.mem_append_right _ List.mem_cons_self
      · exact List.mem_append_left _ (ih hrest)

/-- The values under a function. -/
def mapValues {γ : Type w} (f : β → γ) (d : OrderedDict κ β) : OrderedDict κ γ where
  entries := d.entries.map fun e => (e.1, f e.2)
  nodup_keys := by
    rw [List.map_map]
    exact d.nodup_keys

omit [DecidableEq κ] in
theorem values_mapValues {γ : Type w} (f : β → γ) (d : OrderedDict κ β) :
    (d.mapValues f).values = d.values.map f := by
  rw [values, values, mapValues, List.map_map, List.map_map]
  rfl

omit [DecidableEq κ] in
theorem length_keys (d : OrderedDict κ β) : d.keys.length = d.values.length := by
  rw [keys, values, List.length_map, List.length_map]

/-! ## Filling a dictionary -/

section

variable {α : Type w} (init : α → β) (key : α → κ) (add : β → α → β)

/-- The entry of an element's key takes in the element; a new key starts from `init`. -/
def see (d : OrderedDict κ β) (x : α) : OrderedDict κ β :=
  d.set (key x) (add ((d.get (key x)).getD (init x)) x)

/-- The loop. -/
def collect (xs : List α) : OrderedDict κ β := xs.foldl (see init key add) empty

/-- The fold of the elements of one key. -/
def folded : List α → Option β
  | [] => none
  | x :: xs => some ((x :: xs).foldl add (init x))

variable {init key add}

theorem folded_concat (xs : List α) (x : α) :
    folded init add (xs ++ [x]) = some (add ((folded init add xs).getD (init x)) x) := by
  cases xs with
  | nil => rfl
  | cons y ys => rw [List.cons_append, folded, ← List.cons_append, List.foldl_append]; rfl

theorem collect_concat (xs : List α) (x : α) :
    collect init key add (xs ++ [x]) = see init key add (collect init key add xs) x := by
  rw [collect, List.foldl_append]
  rfl

/-- **The value of a key** is the fold of its elements. -/
theorem get_collect (xs : List α) (k : κ) :
    (collect init key add xs).get k = folded init add (xs.filter fun x => key x = k) := by
  induction xs using List.reverseRecOn with
  | nil => rfl
  | append_singleton xs x ih =>
      rw [collect_concat, see, get_set, List.filter_append]
      by_cases hk : key x = k
      · rw [if_pos hk.symm, List.filter_cons_of_pos (by simpa using hk), List.filter_nil,
          folded_concat, ← ih, hk]
      · rw [if_neg (Ne.symm hk), List.filter_cons_of_neg (by simpa using hk), List.filter_nil,
          List.append_nil, ih]

theorem mem_keys_collect {xs : List α} {k : κ} :
    k ∈ (collect init key add xs).keys ↔ ∃ x ∈ xs, key x = k := by
  rw [mem_keys_iff, get_collect]
  cases hrows : xs.filter fun x => key x = k with
  | nil =>
      have hnone := List.filter_eq_nil_iff.mp hrows
      simpa [folded] using hnone
  | cons x rest =>
      have hx : x ∈ xs.filter fun x => key x = k := hrows ▸ List.mem_cons_self
      obtain ⟨hmem, hkey⟩ := List.mem_filter.mp hx
      simpa [folded] using ⟨x, hmem, by simpa using hkey⟩

/-- **The keys come in the order in which they are met.** -/
theorem keys_collect_sublist (xs : List α) :
    (collect init key add xs).keys.Sublist (xs.map key) := by
  induction xs using List.reverseRecOn with
  | nil => exact List.Sublist.refl []
  | append_singleton xs x ih =>
      rw [collect_concat, see, keys_set, List.map_append]
      split_ifs
      · exact ih.trans (List.sublist_append_left _ _)
      · exact ih.append (List.Sublist.refl _)

end

end OrderedDict

end Foundations
