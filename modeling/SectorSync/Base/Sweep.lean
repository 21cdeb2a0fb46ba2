import Mathlib.Data.List.Basic
import Mathlib.Order.Lattice

/-!
# Sweeping a list at a sequence of times

Every entry of a list has a time from which it is due.  A sweep takes the entries that are due now
and leaves the others, both in their order.  `sweep` does so at each of a sequence of times.

An entry leaves in the first sweep that finds it due (`getElem?_sweep`), and an entry that no sweep
found due is still there (`rest_sweep`); nothing is lost and nothing leaves twice (`perm_sweep`).
-/

namespace Sweep

universe u v

variable {α : Type u} {τ : Type v} [LinearOrder τ] (due : α → τ)

/-- What each sweep takes, and what the last one leaves. -/
def sweep : List τ → List α → List (List α) × List α
  | [], xs => ([], xs)
  | now :: later, xs =>
      let (taken, rest) := sweep later (xs.filter fun x => !decide (due x ≤ now))
      (xs.filter (fun x => decide (due x ≤ now)) :: taken, rest)

/-- What is left was due at none of the times. -/
lemma rest_sweep (times : List τ) (xs : List α) :
    (sweep due times xs).2 = xs.filter fun x => decide (∀ now ∈ times, now < due x) := by
  induction times generalizing xs with
  | nil => simp [sweep]
  | cons now later ih =>
      rw [sweep]
      dsimp only
      rw [ih, List.filter_filter]
      refine List.filter_congr fun x _ => ?_
      by_cases hnow : due x ≤ now
      · simp [hnow, not_lt.mpr hnow]
      · simp [hnow, not_le.mp hnow]

/-- **A sweep takes** the entries that are due and that no earlier sweep found due. -/
theorem getElem?_sweep (times : List τ) (xs : List α) (k : ℕ) :
    (sweep due times xs).1[k]? = times[k]?.map fun now =>
      xs.filter fun x => decide (due x ≤ now ∧ ∀ earlier ∈ times.take k, earlier < due x) := by
  induction times generalizing xs k with
  | nil => simp [sweep]
  | cons now later ih =>
      rw [sweep]
      cases k with
      | zero => simp
      | succ k =>
          dsimp only
          rw [List.getElem?_cons_succ, List.getElem?_cons_succ, ih, List.take_succ_cons]
          congr 1
          funext current
          rw [List.filter_filter]
          refine List.filter_congr fun x _ => ?_
          by_cases hnow : due x ≤ now
          · simp [hnow, not_lt.mpr hnow]
          · simp [hnow, not_le.mp hnow]

/-- **Nothing is lost and nothing leaves twice.** -/
theorem perm_sweep (times : List τ) (xs : List α) :
    ((sweep due times xs).1.flatten ++ (sweep due times xs).2).Perm xs := by
  induction times generalizing xs with
  | nil => simp [sweep]
  | cons now later ih =>
      rw [sweep]
      dsimp only
      rw [List.flatten_cons, List.append_assoc]
      have hlater := (ih (xs.filter fun x => !decide (due x ≤ now))).append_left
        (xs.filter fun x => decide (due x ≤ now))
      exact hlater.trans (List.filter_append_perm _ _)

end Sweep
