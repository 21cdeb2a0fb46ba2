import Mathlib.Algebra.BigOperators.Group.Finset.Piecewise
import Mathlib.Algebra.Group.Action.Defs
import Mathlib.Algebra.Order.BigOperators.Group.Finset
import Mathlib.Tactic.Ring

/-!
# Rounds that advance laggards

Agents have counters, and a round advances some of them by one.  `Round` asks of a round that it
passes over no agent that is behind one it advances.

Then counters that differ by at most `d`, and `d` is not zero, go on doing so, and since the rounds
add up, no agent falls behind its share: `Spread.share` is the bound.
-/

universe u

namespace FairRounds

open Finset

variable {ι : Type u} [DecidableEq ι]

/-- One round: the chosen agents advance by one, and none of them is ahead of an agent that is
passed over. -/
structure Round (agents chosen : Finset ι) (count count' : ι → ℕ) : Prop where
  subset : chosen ⊆ agents
  advance : ∀ i ∈ agents, count' i = count i + if i ∈ chosen then 1 else 0
  laggards : ∀ i ∈ chosen, ∀ j ∈ agents, j ∉ chosen → count i ≤ count j

/-- The counters differ by at most `d`, and add up to `total`. -/
structure Spread (agents : Finset ι) (d total : ℕ) (count : ι → ℕ) : Prop where
  close : ∀ i ∈ agents, ∀ j ∈ agents, count i ≤ count j + d
  total : ∑ i ∈ agents, count i = total

variable {agents chosen : Finset ι} {count count' : ι → ℕ} {d total : ℕ}

/-- **Round step.** -/
lemma Spread.round (h : Spread agents d total count) (hd : 1 ≤ d)
    (hround : Round agents chosen count count') :
    Spread agents d (total + chosen.card) count' where
  close i hi j hj := by
    have hclose := h.close i hi j hj
    have hle := hround.advance i hi
    have hle' := hround.advance j hj
    by_cases hchosen : i ∈ chosen
    · by_cases hchosen' : j ∈ chosen
      · simp only [hchosen, hchosen', if_true] at hle hle'
        omega
      · have hbehind := hround.laggards i hchosen j hj hchosen'
        simp only [hchosen, hchosen', if_true, if_false] at hle hle'
        omega
    · simp only [hchosen, if_false] at hle
      split_ifs at hle' <;> omega
  total := by
    have hchosen : ∑ i ∈ agents, (if i ∈ chosen then 1 else 0) = chosen.card := by
      rw [sum_ite_mem, inter_eq_right.mpr hround.subset, card_eq_sum_ones]
    rw [sum_congr rfl hround.advance, sum_add_distrib, h.total, hchosen]

omit [DecidableEq ι] in
/-- **No agent falls behind its share.** -/
lemma Spread.share (h : Spread agents d total count) {i : ι} (hi : i ∈ agents) :
    total ≤ agents.card * count i + (agents.card - 1) * d := by
  classical
  have hothers : ∑ j ∈ agents.erase i, count j ≤ (agents.erase i).card * (count i + d) := by
    rw [← smul_eq_mul]
    exact sum_le_card_nsmul _ _ _ fun j hj => h.close j (mem_of_mem_erase hj) i hi
  rw [← h.total, ← add_sum_erase _ _ hi]
  rw [card_erase_of_mem hi] at hothers
  obtain ⟨n, hn⟩ : ∃ n, agents.card = n + 1 :=
    Nat.exists_eq_succ_of_ne_zero (card_ne_zero_of_mem hi)
  rw [hn, Nat.add_sub_cancel] at hothers ⊢
  calc count i + ∑ j ∈ agents.erase i, count j
      ≤ count i + n * (count i + d) := Nat.add_le_add_left hothers _
    _ = (n + 1) * count i + n * d := by ring

end FairRounds
