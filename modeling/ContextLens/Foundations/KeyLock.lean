import Mathlib.Data.Set.Subsingleton

/-!
# A lock that is one key of a store

Whoever sets the key while it is absent holds the lock, and deleting the key gives
the lock up.  The store does not know who set the key; `KeyLock` remembers it, for
the statements.

Nothing ties a deletion to the holder.  The lock is sound — every holder's key is
there, so there is at most one — as long as a key is only deleted by its holder, or
after its setter has ceased to hold.
-/

namespace Foundations

universe u

/-- The key, with who set it, and those who take themselves for holders. -/
structure KeyLock (ι : Type u) where
  key : Option ι
  holders : Set ι

namespace KeyLock

variable {ι : Type u} {s t : KeyLock ι}

/-- What a step may do to the lock.  Holders may vanish in every step. -/
inductive Step (s t : KeyLock ι) : Prop
  | keep (hkey : t.key = s.key) (hholders : t.holders ⊆ s.holders)
  | acquire (i : ι) (habsent : s.key = none) (hkey : t.key = some i)
      (hholders : t.holders ⊆ insert i s.holders)
  | release (i : ι) (hi : i ∈ s.holders) (hkey : t.key = none)
      (hholders : t.holders ⊆ s.holders \ {i})
  | clear (hdead : ∀ i, s.key = some i → i ∉ s.holders) (hkey : t.key = none)
      (hholders : t.holders ⊆ s.holders)

/-- Every holder's key is there. -/
def Sound (s : KeyLock ι) : Prop := ∀ i ∈ s.holders, s.key = some i

/-- A sound lock has at most one holder. -/
theorem Sound.subsingleton (h : s.Sound) : s.holders.Subsingleton := by
  intro i hi j hj
  have hkey : some i = some j := (h i hi).symm.trans (h j hj)
  exact Option.some.inj hkey

theorem Sound.step (h : s.Sound) (hstep : Step s t) : t.Sound := by
  intro i hi
  cases hstep with
  | keep hkey hholders =>
      rw [hkey]
      exact h i (hholders hi)
  | acquire j habsent hkey hholders =>
      rcases hholders hi with rfl | hbefore
      · exact hkey
      · -- Someone else held the lock, yet its key was absent.
        rw [h i hbefore] at habsent
        cases habsent
  | release j hj hkey hholders =>
      obtain ⟨hbefore, hne⟩ := hholders hi
      exact absurd (h.subsingleton hbefore hj) hne
  | clear hdead hkey hholders =>
      have hbefore := hholders hi
      exact absurd hbefore (hdead i (h i hbefore))

end KeyLock

end Foundations
