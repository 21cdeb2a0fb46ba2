import Mathlib.Algebra.Group.Nat.Defs
import Mathlib.Order.Lattice
import Mathlib.Tactic.Common

/-!
# Saturating counters

The counters of the reports are `usize` and stop at the largest value instead of wrapping.
-/

namespace SectorSync

/-- `usize::MAX` of a 64-bit target. -/
def usizeMax : ℕ := 2 ^ 64 - 1

/-- `usize::saturating_add`. -/
def usizeSaturatingAdd (a b : ℕ) : ℕ := min (a + b) usizeMax

/-- A saturated counter that counts on. -/
lemma usizeSaturatingAdd_min (count added : ℕ) :
    usizeSaturatingAdd (min count usizeMax) added = min (count + added) usizeMax := by
  rw [usizeSaturatingAdd]
  generalize usizeMax = limit
  omega

lemma usizeSaturatingAdd_le (count added : ℕ) : usizeSaturatingAdd count added ≤ usizeMax :=
  Nat.min_le_right _ _

lemma usizeSaturatingAdd_zero {count : ℕ} (h : count ≤ usizeMax) :
    usizeSaturatingAdd count 0 = count := Nat.min_eq_left h

lemma usizeSaturatingAdd_add (count added more : ℕ) :
    usizeSaturatingAdd (usizeSaturatingAdd count added) more
      = usizeSaturatingAdd count (added + more) := by
  refine (usizeSaturatingAdd_min (count + added) more).trans ?_
  rw [Nat.add_assoc]
  rfl

/-- Two saturated counters add up to the counter of both. -/
lemma usizeSaturatingAdd_assoc (a b c : ℕ) :
    usizeSaturatingAdd a (usizeSaturatingAdd b c)
      = usizeSaturatingAdd (usizeSaturatingAdd a b) c := by
  simp only [usizeSaturatingAdd]
  generalize usizeMax = limit
  omega

lemma usizeSaturatingAdd_eq_zero {a b : ℕ} :
    usizeSaturatingAdd a b = 0 ↔ a = 0 ∧ b = 0 := by
  have hmax : 0 < usizeMax := by decide
  rw [usizeSaturatingAdd]
  omega

end SectorSync
