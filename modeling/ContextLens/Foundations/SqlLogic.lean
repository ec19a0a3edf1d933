import Mathlib.Data.List.Basic

/-!
# SQL's three-valued logic

A condition of a query is true, false or unknown (`NULL`), and a query keeps a
row only when the condition is *true*.  So a condition and its negation do not
split the rows: the rows on which the condition is unknown are kept by neither.
`holds_or_holds_not_iff` says exactly how much is missing.
-/

namespace Foundations

/-- A truth value; `none` is unknown. -/
abbrev SqlBool := Option Bool

namespace SqlBool

/-- `NOT`. -/
def not (a : SqlBool) : SqlBool := a.map Bool.not

/-- `OR`: true as soon as one side is. -/
def or : SqlBool → SqlBool → SqlBool
  | some true, _ => some true
  | _, some true => some true
  | some false, some false => some false
  | _, _ => none

/-- `a = b` on columns, unknown when one side is `NULL`. -/
def eq {α : Type} [DecidableEq α] : Option α → Option α → SqlBool
  | some a, some b => some (decide (a = b))
  | _, _ => none

/-- `IS TRUE`, which is never unknown. -/
def isTrue (a : SqlBool) : SqlBool := some (a = some true)

/-- The condition keeps the row. -/
def holds (a : SqlBool) : Bool := a = some true

@[simp] theorem holds_or (a b : SqlBool) : (or a b).holds = (a.holds || b.holds) := by
  rcases a with _ | (_ | _) <;> rcases b with _ | (_ | _) <;> rfl

@[simp] theorem holds_isTrue (a : SqlBool) : (isTrue a).holds = a.holds := by
  simp [isTrue, holds]

theorem holds_eq_iff {α : Type} [DecidableEq α] (a : Option α) (b : α) :
    (eq a (some b)).holds = true ↔ a = some b := by
  cases a with
  | none => simp [eq, holds]
  | some a => simp [eq, holds]

/-- A condition and its negation never keep the same row. -/
theorem not_holds_of_holds_not {a : SqlBool} (h : (not a).holds = true) :
    a.holds = false := by
  rcases a with _ | (_ | _)
  · exact absurd h (by decide)
  · rfl
  · exact absurd h (by decide)

/-- **What a condition and its negation keep together**: the rows on which the
condition is known. -/
theorem holds_or_holds_not_iff (a : SqlBool) :
    a.holds = true ∨ (not a).holds = true ↔ a ≠ none := by
  rcases a with _ | (_ | _) <;> decide

/-- A disjunction is unknown when one side is and the other is not true. -/
theorem or_eq_none_iff (a b : SqlBool) :
    or a b = none ↔ (a = none ∧ b ≠ some true) ∨ (b = none ∧ a ≠ some true) := by
  rcases a with _ | (_ | _) <;> rcases b with _ | (_ | _) <;> decide

end SqlBool

end Foundations
