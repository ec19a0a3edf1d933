import Mathlib.Data.List.Basic

/-!
# Labelled systems, runs and guarded runs

A transition system whose nondeterminism lives entirely in its labels: `step` is
a partial function of the current state and of an action, so a finite run is
just a list of actions and a run can be *executed*.

Safety statements come in two strengths.  An unconditional one speaks about
`Reachable` states.  A conditional one speaks about a run all of whose steps
meet a guard `G` — a condition on the state before the step and on the action —
and claims the property for every state that run visits.  `Meets` is the guard,
`Visits` the states, `visits_invariant` the induction, and
`visits_stable` the form that a "once `P`, always `P`" statement takes.
-/

namespace Foundations

universe u v

/-- A transition system: `step s a` is the state after action `a`, and `none`
when `a` is not enabled in `s`. -/
structure LabelledSystem (σ : Type u) (α : Type v) where
  step : σ → α → Option σ

namespace LabelledSystem

variable {σ : Type u} {α : Type v} (S : LabelledSystem σ α)

/-- The state after a whole list of actions. -/
def exec : σ → List α → Option σ
  | s, [] => some s
  | s, a :: actions => (S.step s a).bind fun t => exec t actions

@[simp] theorem exec_nil (s : σ) : S.exec s [] = some s := rfl

theorem exec_cons (s : σ) (a : α) (actions : List α) :
    S.exec s (a :: actions) = (S.step s a).bind fun t => S.exec t actions := rfl

/-- A run of two parts is the run of the second from the state the first ends
in. -/
theorem exec_append (s : σ) (first second : List α) :
    S.exec s (first ++ second) = (S.exec s first).bind fun t => S.exec t second := by
  induction first generalizing s with
  | nil => rfl
  | cons a first ih =>
      rw [List.cons_append, exec_cons, exec_cons, Option.bind_assoc]
      exact congrArg _ (funext ih)

/-- The states that some finite run reaches from an initial state. -/
def Reachable (init : σ → Prop) (t : σ) : Prop :=
  ∃ s, init s ∧ ∃ actions, S.exec s actions = some t

/-- `t` is one of the states the run `actions` from `s` passes through, the
first and the last included. -/
def Visits (s : σ) (actions : List α) (t : σ) : Prop :=
  ∃ before, before <+: actions ∧ S.exec s before = some t

/-- Along the run `actions` from `s`, once `P` holds it holds in every later
state. -/
def StableAlong (P : σ → Prop) (s : σ) (actions : List α) : Prop :=
  ∀ first second t u, first ++ second <+: actions → S.exec s first = some t →
    S.exec t second = some u → P t → P u

/-- Every step of the run `actions` from `s` meets the guard `G`. -/
def Meets (G : σ → α → Prop) : σ → List α → Prop
  | _, [] => True
  | s, a :: actions => G s a ∧ ∀ t, S.step s a = some t → Meets G t actions

variable {S}

/-- A guarded step before a guarded run. -/
theorem Meets.cons {G : σ → α → Prop} {s t : σ} {a : α} {actions : List α} (hG : G s a)
    (hstep : S.step s a = some t) (h : S.Meets G t actions) : S.Meets G s (a :: actions) := by
  refine ⟨hG, fun t' ht' => ?_⟩
  rw [hstep, Option.some.injEq] at ht'
  rw [← ht']
  exact h

/-- An initial run of a guarded run is guarded. -/
theorem Meets.of_prefix {G : σ → α → Prop} {s : σ} {before actions : List α}
    (hpre : before <+: actions) (h : S.Meets G s actions) :
    S.Meets G s before := by
  obtain ⟨after, rfl⟩ := hpre
  induction before generalizing s with
  | nil => trivial
  | cons a before ih => exact ⟨h.1, fun t ht => ih (h.2 t ht)⟩

/-- What is left of a guarded run is guarded. -/
theorem Meets.after {G : σ → α → Prop} {s t : σ} {first second : List α}
    (h : S.Meets G s (first ++ second)) (hrun : S.exec s first = some t) :
    S.Meets G t second := by
  induction first generalizing s with
  | nil =>
      cases hrun
      exact h
  | cons a first ih =>
      rw [exec_cons, Option.bind_eq_some_iff] at hrun
      obtain ⟨s', hstep, hrest⟩ := hrun
      exact ih (h.2 s' hstep) hrest

/-- The guard holds at each step of a guarded run. -/
theorem Meets.guard {G : σ → α → Prop} {s t : σ} {before after : List α} {a : α}
    (h : S.Meets G s (before ++ a :: after)) (hrun : S.exec s before = some t) :
    G t a :=
  (h.after hrun).1

/-- A run is guarded when each of its steps is. -/
theorem meets_of_guard {G : σ → α → Prop} {s : σ} {actions : List α}
    (h : ∀ before a after t, before ++ a :: after = actions → S.exec s before = some t → G t a) :
    S.Meets G s actions := by
  induction actions generalizing s with
  | nil => trivial
  | cons a actions ih =>
      refine ⟨h [] a actions s rfl rfl, fun t ht => ih ?_⟩
      intro before b after u hsplit hrun
      refine h (a :: before) b after u (by rw [← hsplit, List.cons_append]) ?_
      rw [exec_cons, ht]
      exact hrun

theorem meets_true (s : σ) (actions : List α) :
    S.Meets (fun _ _ => True) s actions := by
  induction actions generalizing s with
  | nil => trivial
  | cons a actions ih => exact ⟨trivial, fun t _ => ih t⟩

/-- Two guards that agree under an invariant of the guarded steps are met by the same
runs. -/
theorem meets_congr {G H : σ → α → Prop} {I : σ → Prop}
    (hagree : ∀ s a, I s → (G s a ↔ H s a))
    (hstep : ∀ s a t, I s → H s a → S.step s a = some t → I t)
    {s : σ} {actions : List α} (hs : I s) :
    S.Meets G s actions ↔ S.Meets H s actions := by
  induction actions generalizing s with
  | nil => exact Iff.rfl
  | cons a actions ih =>
      constructor
      · intro h
        have hH : H s a := (hagree s a hs).mp h.1
        exact ⟨hH, fun t ht => (ih (hstep s a t hs hH ht)).mp (h.2 t ht)⟩
      · intro h
        exact ⟨(hagree s a hs).mpr h.1, fun t ht => (ih (hstep s a t hs h.1 ht)).mpr (h.2 t ht)⟩

/-! ### The two inductions -/

/-- **Invariants along a guarded run.**  What holds at the start and is
preserved by every step that meets the guard holds where the run ends. -/
theorem exec_invariant {G : σ → α → Prop} {I : σ → Prop}
    (hstep : ∀ s a t, I s → G s a → S.step s a = some t → I t)
    {s t : σ} {actions : List α} (hs : I s) (hG : S.Meets G s actions)
    (hrun : S.exec s actions = some t) : I t := by
  induction actions generalizing s with
  | nil =>
      cases hrun
      exact hs
  | cons a actions ih =>
      rw [exec_cons, Option.bind_eq_some_iff] at hrun
      obtain ⟨s', hs', hrest⟩ := hrun
      exact ih (hstep s a s' hs hG.1 hs') (hG.2 s' hs') hrest

/-- The same for every state the run visits. -/
theorem visits_invariant {G : σ → α → Prop} {I : σ → Prop}
    (hstep : ∀ s a t, I s → G s a → S.step s a = some t → I t)
    {s t : σ} {actions : List α} (hs : I s) (hG : S.Meets G s actions)
    (hvisit : S.Visits s actions t) : I t := by
  obtain ⟨before, hpre, hrun⟩ := hvisit
  exact exec_invariant hstep hs (hG.of_prefix hpre) hrun

/-- An unguarded invariant holds of every reachable state. -/
theorem reachable_invariant {init : σ → Prop} {I : σ → Prop}
    (hinit : ∀ s, init s → I s) (hstep : ∀ s a t, I s → S.step s a = some t → I t)
    {t : σ} (h : S.Reachable init t) : I t := by
  obtain ⟨s, hs, actions, hrun⟩ := h
  exact exec_invariant (G := fun _ _ => True)
    (fun s a t hI _ hst => hstep s a t hI hst) (hinit s hs)
    (meets_true s actions) hrun

/-- **Stability along a guarded run.**  If an invariant `I` of the guarded steps
makes `P` persist across a guarded step, then `P` persists from any state a
guarded run visits to every later one. -/
theorem visits_stable {G : σ → α → Prop} {I P : σ → Prop}
    (hstep : ∀ s a t, I s → G s a → S.step s a = some t → I t)
    (hstable : ∀ s a t, I s → G s a → S.step s a = some t → P s → P t)
    {s t u : σ} {first second : List α} (hs : I s)
    (hG : S.Meets G s (first ++ second)) (hfirst : S.exec s first = some t)
    (hsecond : S.exec t second = some u) (hP : P t) : P u := by
  have ht : I t :=
    exec_invariant hstep hs (hG.of_prefix (List.prefix_append first second)) hfirst
  -- `P` alone is not inductive; together with `I` it is.
  have hboth : I u ∧ P u :=
    exec_invariant (I := fun x => I x ∧ P x)
      (fun x a y hx hg hxy =>
        ⟨hstep x a y hx.1 hg hxy, hstable x a y hx.1 hg hxy hx.2⟩)
      ⟨ht, hP⟩ (hG.after hfirst) hsecond
  exact hboth.2

/-- **The exact guard of a stable property.**  When, under an invariant `I`, a step
out of `P` stays in `P` exactly if it meets the guard, and only enabled steps out
of `P` miss it, the runs along which `P` is stable are exactly the guarded ones. -/
theorem stableAlong_iff_meets {G : σ → α → Prop} {I P : σ → Prop}
    (hstep : ∀ s a t, I s → S.step s a = some t → I t)
    (hexact : ∀ s a t, I s → P s → S.step s a = some t → (P t ↔ G s a))
    (hmissed : ∀ s a, I s → ¬G s a → P s ∧ ∃ t, S.step s a = some t)
    {s : σ} {actions : List α} (hs : I s) :
    S.StableAlong P s actions ↔ S.Meets G s actions := by
  constructor
  · intro hstable
    induction actions generalizing s with
    | nil => trivial
    | cons a actions ih =>
        refine ⟨?_, fun t ht => ih (hstep s a t hs ht) ?_⟩
        -- A missed guard is an enabled step out of `P`, which stability rules out.
        · by_contra hG
          obtain ⟨hP, t, ht⟩ := hmissed s a hs hG
          have hrun : S.exec s [a] = some t := by
            rw [exec_cons, ht]
            rfl
          have hPt := hstable [] [a] s t ⟨actions, rfl⟩ rfl hrun hP
          exact hG ((hexact s a t hs hP ht).mp hPt)
        · intro first second u v hpre hfirst hsecond hP
          have hrun : S.exec s (a :: first) = some u := by
            rw [exec_cons, ht]
            exact hfirst
          exact hstable (a :: first) second u v (List.cons_prefix_cons.mpr ⟨rfl, hpre⟩) hrun
            hsecond hP
  · intro hG first second t u hpre hfirst hsecond hP
    exact visits_stable (fun s a t hI _ hst => hstep s a t hI hst)
      (fun s a t hI hg hst hPs => (hexact s a t hI hPs hst).mpr hg) hs (hG.of_prefix hpre)
      hfirst hsecond hP

/-- **The exact guard of an invariant.**  When the guarded steps preserve `I`, every
other step breaks it and no step is refused, the runs that keep `I` throughout
are exactly the guarded ones. -/
theorem visits_iff_meets {G : σ → α → Prop} {I : σ → Prop}
    (henabled : ∀ s a, ∃ t, S.step s a = some t)
    (hstep : ∀ s a t, I s → G s a → S.step s a = some t → I t)
    (hbreak : ∀ s a t, I s → ¬G s a → S.step s a = some t → ¬I t)
    {s : σ} {actions : List α} (hs : I s) :
    (∀ t, S.Visits s actions t → I t) ↔ S.Meets G s actions := by
  constructor
  · intro hvisits
    induction actions generalizing s with
    | nil => trivial
    | cons a actions ih =>
        obtain ⟨t, ht⟩ := henabled s a
        have hrest : ∀ u, S.Visits t actions u → I u := by
          rintro u ⟨before, hpre, hrun⟩
          refine hvisits u ⟨a :: before, List.cons_prefix_cons.mpr ⟨rfl, hpre⟩, ?_⟩
          rw [exec_cons, ht]
          exact hrun
        -- The state after the first step is itself visited.
        have hIt : I t := hrest t ⟨[], List.nil_prefix, rfl⟩
        refine ⟨?_, fun t' ht' => ?_⟩
        · by_contra hG
          exact hbreak s a t hs hG ht hIt
        · rw [ht, Option.some.injEq] at ht'
          subst ht'
          exact ih hIt hrest
  · intro hG t hvisit
    exact visits_invariant hstep hs hG hvisit

/-- **The exact guard of a lasting defect.**  When a step makes a state `Bad` exactly if
it was before or the step misses the guard, a run ends in a bad state exactly if it
starts in one or some step of it misses the guard. -/
theorem exec_bad_iff {G : σ → α → Prop} {I Bad : σ → Prop}
    (hstep : ∀ s a t, I s → S.step s a = some t → I t)
    (hexact : ∀ s a t, I s → S.step s a = some t → (Bad t ↔ Bad s ∨ ¬G s a))
    {s t : σ} {actions : List α} (hs : I s) (hrun : S.exec s actions = some t) :
    Bad t ↔ Bad s ∨ ¬S.Meets G s actions := by
  induction actions generalizing s with
  | nil =>
      cases hrun
      simp [Meets]
  | cons a actions ih =>
      rw [exec_cons, Option.bind_eq_some_iff] at hrun
      obtain ⟨u, hu, hrest⟩ := hrun
      have hmeets : S.Meets G s (a :: actions) ↔ G s a ∧ S.Meets G u actions := by
        constructor
        · intro h
          exact ⟨h.1, h.2 u hu⟩
        · intro h
          exact h.2.cons h.1 hu
      rw [ih (hstep s a u hs hu) hrest, hexact s a u hs hu, hmeets, not_and_or, or_assoc]

/-- Reachability is closed under one more step. -/
theorem Reachable.step {init : σ → Prop} {s t : σ} {a : α}
    (h : S.Reachable init s) (hst : S.step s a = some t) :
    S.Reachable init t := by
  obtain ⟨s₀, hs₀, actions, hrun⟩ := h
  refine ⟨s₀, hs₀, actions ++ [a], ?_⟩
  rw [exec_append, hrun, Option.bind_some, exec_cons, hst, Option.bind_some, exec_nil]

end LabelledSystem

end Foundations
