import SectorSync.Base.Run
import Mathlib.Order.Basic

/-!
# Generation-checked slots

A table of slots that are recycled through a stack: `allocate` takes the slot on top of the
stack, or appends a fresh one, and `release` empties a live slot, moves its generation on by
`next` and puts it on the stack.  A slot and a generation resolve while the slot is live in that
generation.

What was released never resolves again as long as `next` changes the generation; where `next`
stops, at the end of a bounded counter, it resolves again as soon as the slot is taken from the
stack.  `stale_iff` says this of every run.
-/

open Machine

/-- Generations, liveness and the stack of free slots. -/
structure Slots (G : Type*) where
  generations : List G
  live : List Bool
  free : List ℕ

/-- What can happen to a table. -/
inductive SlotEvent where
  | idle
  | allocate
  | release (index : ℕ)
  deriving DecidableEq

namespace Slots

variable {G : Type*} (zero : G) (next : G → G)

/-- One event; only a live slot is released. -/
def step (s : Slots G) : SlotEvent → Slots G
  | .idle => s
  | .allocate =>
      match s.free with
      | index :: free => { s with live := s.live.set index true, free := free }
      | [] => { s with generations := s.generations ++ [zero], live := s.live ++ [true] }
  | .release index =>
      match s.generations[index]?, s.live[index]? with
      | some g, some true =>
          { generations := s.generations.set index (next g)
            live := s.live.set index false
            free := index :: s.free }
      | _, _ => s

/-- The slot is live in the generation. -/
def Resolves (s : Slots G) (index : ℕ) (g : G) : Prop :=
  s.generations[index]? = some g ∧ s.live[index]? = some true

/-- Every slot has a generation, and the stack holds each empty slot once and nothing else. -/
structure Wf (s : Slots G) : Prop where
  lengths : s.generations.length = s.live.length
  free_nodup : s.free.Nodup
  mem_free : ∀ i, i ∈ s.free ↔ s.live[i]? = some false

variable {zero next} {s : Slots G} {index : ℕ} {g : G}

lemma Wf.allocate (h : s.Wf) : (s.step zero next .allocate).Wf := by
  cases hfree : s.free with
  | nil =>
      simp only [step, hfree]
      refine ⟨by simp [h.lengths], by simp, fun i => ?_⟩
      have hnone : s.live[i]? ≠ some false := by
        rw [ne_eq, ← h.mem_free, hfree]
        exact List.not_mem_nil
      simp only [List.not_mem_nil, false_iff]
      intro hi
      rcases Nat.lt_trichotomy i s.live.length with hlt | rfl | hgt
      · rw [List.getElem?_append_left hlt] at hi
        exact hnone hi
      · simp at hi
      · rw [List.getElem?_eq_none_iff.mpr (by simp; omega)] at hi
        simp at hi
  | cons top free =>
      have hnd := h.free_nodup
      have htop : s.live[top]? = some false := (h.mem_free top).mp (by simp [hfree])
      have hlt := (List.getElem?_eq_some_iff.mp htop).1
      rw [hfree, List.nodup_cons] at hnd
      simp only [step, hfree]
      refine ⟨by simp [h.lengths], hnd.2, fun i => ?_⟩
      by_cases hi : i = top
      · subst hi
        simp [hnd.1, hlt]
      · rw [List.getElem?_set_ne (Ne.symm hi), ← h.mem_free, hfree, List.mem_cons]
        simp [hi]

lemma Wf.release (h : s.Wf) (index : ℕ) : (s.step zero next (.release index)).Wf := by
  simp only [step]
  split
  · rename_i g hg hlive
    have hlt := (List.getElem?_eq_some_iff.mp hlive).1
    refine ⟨by simp [h.lengths], ?_, fun i => ?_⟩
    · rw [List.nodup_cons, h.mem_free, hlive]
      exact ⟨by simp, h.free_nodup⟩
    · rw [List.mem_cons, h.mem_free]
      by_cases hi : i = index
      · subst hi
        simp [hlt]
      · simp [hi, List.getElem?_set_ne (Ne.symm hi)]
  · exact h

lemma Wf.step (h : s.Wf) (event : SlotEvent) : (s.step zero next event).Wf := by
  cases event with
  | idle => exact h
  | allocate => exact h.allocate
  | release index => exact h.release index

/-- A generation stays or moves on by one. -/
lemma generation_step (zero : G) (next : G → G) (hg : s.generations[index]? = some g)
    (event : SlotEvent) :
    (s.step zero next event).generations[index]? = some g
      ∨ (s.step zero next event).generations[index]? = some (next g) := by
  have hlt := (List.getElem?_eq_some_iff.mp hg).1
  cases event with
  | idle => exact Or.inl hg
  | allocate =>
      refine Or.inl ?_
      simp only [Slots.step]
      split
      · exact hg
      · rw [List.getElem?_append_left hlt, hg]
  | release i =>
      simp only [Slots.step]
      split
      · rename_i g' hg' _
        by_cases hi : i = index
        · subst hi
          rw [hg, Option.some.injEq] at hg'
          subst hg'
          exact Or.inr (by simp [hlt])
        · exact Or.inl (by rw [List.getElem?_set_ne hi, hg])
      · exact Or.inl hg

/-- An empty slot comes to life only when it is taken from the top of the stack. -/
lemma Wf.live_step (zero : G) (next : G → G) (h : s.Wf) (hempty : s.live[index]? = some false)
    (event : SlotEvent) :
    (s.step zero next event).live[index]?
      = some (decide (event = .allocate ∧ s.free.head? = some index)) := by
  have hlt := (List.getElem?_eq_some_iff.mp hempty).1
  have hmem : index ∈ s.free := (h.mem_free index).mpr hempty
  cases event with
  | idle => simpa [Slots.step] using hempty
  | allocate =>
      cases hfree : s.free with
      | nil => simp [hfree] at hmem
      | cons top free =>
          simp only [Slots.step, hfree, List.head?_cons, true_and, Option.some.injEq]
          by_cases htop : top = index
          · subst htop
            simp [hlt]
          · rw [List.getElem?_set_ne htop, hempty]
            simp [htop]
  | release i =>
      simp only [Slots.step]
      split
      · rename_i hlive
        have hi : i ≠ index := by
          rintro rfl
          rw [hempty] at hlive
          simp at hlive
        rw [List.getElem?_set_ne hi, hempty]
        simp
      · simpa using hempty

/-- The table recycles the slot. -/
def Recycles (index : ℕ) (s : Slots G) (event : SlotEvent) : Prop :=
  event = .allocate ∧ s.free.head? = some index

/-- **Stale for good.**  After its release a slot and generation never resolve again in a run
exactly when the generation moved on, or the run never recycles the slot. -/
theorem stale_iff [PartialOrder G] (next : G → G) (hnext : ∀ g, g ≤ next g) (h : s.Wf)
    (hgen : s.generations[index]? = some (next g)) (hempty : s.live[index]? = some false)
    (events : List SlotEvent) :
    (∀ pre, pre <+: events → ¬ (execute (step zero next) s pre).Resolves index g)
      ↔ next g ≠ g ∨ AllSteps (step zero next) (fun s event => ¬ Recycles index s event) s
          events := by
  by_cases hstop : next g = g
  · -- the counter stopped: the slot stays in the generation, so it resolves once it is live
    rw [hstop] at hgen
    have hrule : (∀ pre, pre <+: events → ¬ (execute (step zero next) s pre).Resolves index g)
        ↔ AllSteps (step zero next) (fun s event => ¬ Recycles index s event) s events := by
      refine forall_prefix_iff_allSteps
        (I := fun s : Slots G => s.Wf ∧ s.generations[index]? = some g
          ∧ s.live[index]? = some false)
        (C := fun s : Slots G => ¬ s.Resolves index g) (P := fun _ => True) ?_ ?_ ⟨h, hgen, hempty⟩
        (fun _ _ => trivial)
      · rintro t ⟨_, _, hlive⟩ ⟨_, hlive'⟩
        rw [hlive] at hlive'
        simp at hlive'
      · rintro t event ⟨hwf, hg, hlive⟩ -
        have hg' : (t.step zero next event).generations[index]? = some g := by
          rcases generation_step zero next hg event with hg' | hg'
          · exact hg'
          · rw [hg', hstop]
        have hlive' := hwf.live_step zero next hlive event
        constructor
        · intro hnot
          have hnot' : ¬ (event = .allocate ∧ t.free.head? = some index) := hnot
          refine ⟨hwf.step event, hg', ?_⟩
          rw [hlive', decide_eq_false hnot']
        · intro hstale hrec
          have hrec' : event = .allocate ∧ t.free.head? = some index := hrec
          refine hstale ⟨hg', ?_⟩
          rw [hlive', decide_eq_true hrec']
    rw [hrule]
    simp [hstop]
  · -- the counter moved past the generation, and never comes back
    refine iff_of_true (fun pre _ => ?_) (Or.inl hstop)
    have hlt : g < next g := lt_of_le_of_ne (hnext g) (Ne.symm hstop)
    have hpast : ∃ g', (execute (step zero next) s pre).generations[index]? = some g' ∧ g < g' := by
      refine execute_preserves
        (I := fun t : Slots G => ∃ g', t.generations[index]? = some g' ∧ g < g') ?_
        ⟨next g, hgen, hlt⟩ pre
      rintro t event ⟨g', hg', hlt'⟩
      rcases generation_step zero next hg' event with hstep | hstep
      · exact ⟨g', hstep, hlt'⟩
      · exact ⟨next g', hstep, lt_of_lt_of_le hlt' (hnext g')⟩
    rintro ⟨hg, _⟩
    obtain ⟨g', hg', hlt'⟩ := hpast
    rw [hg, Option.some.injEq] at hg'
    exact absurd hg' (ne_of_lt hlt')

end Slots
