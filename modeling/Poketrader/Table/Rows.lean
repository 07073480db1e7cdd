import Mathlib.Data.List.Basic
import Mathlib.Tactic.Common

/-!
# Rows over an array

A table reads the number of its rows at some moment and subscripts an array at rows below that
number later. The array may be missing, and is then never subscripted; a subscript beyond its end
is a trap.
-/

namespace Table

variable {α : Type*} {source : Option (List α)} {rows : ℕ}

/-- The element at a row. The outer `none` is the trap. -/
def subscript (source : Option (List α)) (row : ℕ) : Option (Option α) :=
  match source with
  | none => some none
  | some xs => (xs[row]?).map some

/-- The number of rows a reload reads. -/
def count (source : Option (List α)) : ℕ := (source.map List.length).getD 0

/-- No row of the table traps. -/
def InRange (source : Option (List α)) (rows : ℕ) : Prop :=
  ∀ row < rows, (subscript source row).isSome = true

theorem isSome_subscript_some {xs : List α} {row : ℕ} :
    (subscript (some xs) row).isSome = true ↔ row < xs.length := by
  rw [subscript, Option.isSome_map, isSome_getElem?]

theorem inRange_none : InRange (none : Option (List α)) rows := fun _ _ ↦ rfl

theorem inRange_some {xs : List α} : InRange (some xs) rows ↔ rows ≤ xs.length := by
  constructor
  · intro h
    by_contra hlt
    exact absurd (isSome_subscript_some.mp (h _ (Nat.lt_of_not_le hlt))) (Nat.lt_irrefl _)
  · intro h row hrow
    exact isSome_subscript_some.mpr (Nat.lt_of_lt_of_le hrow h)

/-- A reload puts the rows in range. -/
theorem inRange_count : InRange source (count source) := by
  cases source with
  | none => exact inRange_none
  | some xs => exact inRange_some.mpr (Nat.le_refl _)

/-- Appending keeps them there. -/
theorem InRange.append (h : InRange source rows) (ys : List α) :
    InRange (source.map fun xs ↦ xs ++ ys) rows := by
  cases source with
  | none => exact inRange_none
  | some xs =>
    refine inRange_some.mpr (Nat.le_trans (inRange_some.mp h) ?_)
    rw [List.length_append]
    exact Nat.le_add_right _ _

end Table
