import Mathlib.Data.List.Sort
import SectorSync.Core.RationalScalar
import SectorSync.Core.SpatialIndex

/-!
# Update reports of the cell index

`upsertWithScratch` reports whether it inserted, kept or moved a handle, and how many cells it
retained, removed and inserted.  `Exact` compares a report with the cells of the handle before and
after.

The counts are always right, and so is the outcome of every update with bounds that are not a
point.  A point update looks at how the membership is stored: a handle that a range update left in a
single cell is reported as relocated when a point update finds it in that cell
(`upsertWithScratch_exact_iff`).
-/

namespace SectorSync

open Machine

variable {F : Type}

/-- A report that says what became of the cells of a handle. -/
structure CellIndexUpdateReport.Exact (report : CellIndexUpdateReport)
    (before after : Option (List CellCoord3)) : Prop where
  inserted : report.update = .inserted ↔ before = none
  unchanged : report.update = .unchanged ↔
    ∃ old ∈ before, ∃ new ∈ after, ∀ cell, cell ∈ old ↔ cell ∈ new
  relocated : report.update = .relocated ↔
    ∃ old ∈ before, ∃ new ∈ after, ¬ ∀ cell, cell ∈ old ↔ cell ∈ new
  retained_add_removed : report.retainedCells + report.removedCells = (before.getD []).length
  retained_add_inserted : report.retainedCells + report.insertedCells = (after.getD []).length

namespace CellIndex

/-- **The counts of the merge walk.**  Every old cell is retained or removed, and every new cell is
retained or inserted. -/
lemma counts_applyMembershipDiff (handle : EntityHandle) (previous next : List CellCoord3)
    (cells : HashMap CellCoord3 (List EntityHandle)) :
    (applyMembershipDiff handle previous next cells).2.1
        + (applyMembershipDiff handle previous next cells).2.2.1 = previous.length
      ∧ (applyMembershipDiff handle previous next cells).2.1
        + (applyMembershipDiff handle previous next cells).2.2.2 = next.length := by
  fun_induction applyMembershipDiff handle previous next cells with
  | case1 cells previous new next cells' retained removed inserted heq ih =>
      rw [heq] at ih
      obtain ⟨hprevious, hnext⟩ := ih
      simp only [List.length_cons] at hprevious hnext ⊢
      omega
  | case2 cells old previous new next hne hlt cells' retained removed inserted heq ih =>
      rw [heq] at ih
      obtain ⟨hprevious, hnext⟩ := ih
      simp only [List.length_cons] at hprevious hnext ⊢
      omega
  | case3 cells old previous new next hne hlt cells' retained removed inserted heq ih =>
      rw [heq] at ih
      obtain ⟨hprevious, hnext⟩ := ih
      simp only [List.length_cons] at hprevious hnext ⊢
      omega
  | case4 cells new next cells' retained removed inserted heq ih =>
      rw [heq] at ih
      obtain ⟨hprevious, hnext⟩ := ih
      simp only [List.length_cons, List.length_nil] at hprevious hnext ⊢
      omega
  | case5 cells old previous cells' retained removed inserted heq ih =>
      rw [heq] at ih
      obtain ⟨hprevious, hnext⟩ := ih
      simp only [List.length_cons, List.length_nil] at hprevious hnext ⊢
      omega
  | case6 cells => exact ⟨rfl, rfl⟩

/-! ## Reports -/

section Report

variable {old new : List CellCoord3} {retained removed inserted : ℕ} {incrementalDiff : Bool}

/-- A first insertion is exact when it counts the new cells. -/
lemma exact_inserted (new : List CellCoord3) :
    CellIndexUpdateReport.Exact ⟨.inserted, 0, 0, new.length, incrementalDiff⟩ none (some new) where
  inserted := by simp
  unchanged := by simp
  relocated := by simp
  retained_add_removed := rfl
  retained_add_inserted := Nat.zero_add new.length

/-- A report of no change is exact for a handle that keeps its cells. -/
lemma exact_unchanged (old : List CellCoord3) :
    CellIndexUpdateReport.Exact ⟨.unchanged, old.length, 0, 0, incrementalDiff⟩ (some old)
      (some old) where
  inserted := by simp
  unchanged := by simp
  relocated := by simp
  retained_add_removed := rfl
  retained_add_inserted := rfl

/-- A report of a move with the counts of the merge walk is exact when the cells differ. -/
lemma exact_relocated_iff (hold : old.Pairwise (· < ·)) (hnew : new.Pairwise (· < ·))
    (hcounts : retained + removed = old.length ∧ retained + inserted = new.length) :
    CellIndexUpdateReport.Exact ⟨.relocated, retained, removed, inserted, incrementalDiff⟩
      (some old) (some new) ↔ old ≠ new := by
  have hcells : (∀ cell, cell ∈ old ↔ cell ∈ new) ↔ old = new :=
    ⟨fun h => hold.eq_of_mem_iff hnew h, fun h cell => by rw [h]⟩
  constructor
  · intro h heq
    obtain ⟨old', hold', new', hnew', hdiffer⟩ := h.relocated.mp rfl
    rw [Option.mem_some_iff] at hold' hnew'
    exact hdiffer (hold' ▸ hnew' ▸ hcells.mpr heq)
  · intro hne
    exact {
      inserted := by simp
      unchanged := by simp [hcells, hne]
      relocated := ⟨fun _ => ⟨old, rfl, new, rfl, mt hcells.mp hne⟩, fun _ => rfl⟩
      retained_add_removed := hcounts.1
      retained_add_inserted := hcounts.2 }

end Report

section Update

variable {index : CellIndex F}

/-- The cells of an indexed handle are sorted. -/
lemma Represents.sorted_of_lookup (inv : index.Represents) {handle : EntityHandle}
    {previous : CellMembership} (h : index.entityCells.lookup handle = some previous) :
    previous.asSlice.Pairwise (· < ·) := by
  have hsorted := inv.sorted handle
  rw [membership, cellsForHandle, h] at hsorted
  exact hsorted

/-- Range updates report exactly. -/
lemma upsertRange_exact (inv : index.Represents) (handle : EntityHandle) (min max : CellCoord3)
    (scratch : CellIndexUpdateScratch) :
    (index.upsertRange handle min max scratch).1.Exact (index.cellsForHandle handle)
      (some (cellRange min max)) := by
  rw [cellsForHandle]
  cases hprev : index.entityCells.lookup handle with
  | none =>
      simp only [upsertRange, hprev]
      exact exact_inserted _
  | some previous =>
      simp only [upsertRange, hprev, Option.map_some]
      by_cases hmatch : cellsMatchRange previous.asSlice min max = true
      · rw [if_pos hmatch, ← cellsMatchRange_iff.mp hmatch]
        exact exact_unchanged _
      · rw [if_neg hmatch]
        exact (exact_relocated_iff (inv.sorted_of_lookup hprev) (pairwise_cellRange min max)
          (counts_applyMembershipDiff handle _ _ _)).mpr (mt cellsMatchRange_iff.mpr hmatch)

/-- Point updates report exactly, but for a handle in the same cell whose membership is stored as a
list. -/
lemma upsertPoint_exact_iff (inv : index.Represents) (handle : EntityHandle) (cell : CellCoord3)
    (scratch : CellIndexUpdateScratch) :
    (index.upsertPoint handle cell scratch).1.Exact (index.cellsForHandle handle) (some [cell])
      ↔ index.entityCells.lookup handle ≠ some (.multiple [cell]) := by
  rw [cellsForHandle]
  cases hprev : index.entityCells.lookup handle with
  | none =>
      simp only [upsertPoint, hprev]
      exact iff_of_true (exact_inserted [cell]) (by simp)
  | some previous =>
      simp only [upsertPoint, hprev, Option.map_some]
      by_cases hsame : previous = .point cell
      · subst hsame
        rw [if_pos rfl]
        exact iff_of_true (exact_unchanged [cell]) (by simp)
      · rw [if_neg hsame]
        refine (exact_relocated_iff (inv.sorted_of_lookup hprev) (List.pairwise_singleton _ cell)
          (counts_applyMembershipDiff handle _ _ _)).trans (not_congr ?_)
        rw [Option.some_inj]
        cases previous with
        | point current =>
            -- another cell, which the guard has told apart
            refine iff_of_false (fun h => hsame ?_) (by simp)
            rw [List.singleton_inj.mp h]
        | multiple cells => simp [CellMembership.asSlice]

/-- The cells of a handle after an update are those of its bounds. -/
lemma cellsForHandle_upsertWithScratch [Scalar F] (inv : index.Represents) (handle : EntityHandle)
    (position : Position3 F) (bounds : Bounds F) (scratch : CellIndexUpdateScratch) :
    (index.upsertWithScratch handle position bounds scratch).2.1.cellsForHandle handle
      = some (index.grid.cellsForBounds position bounds) := by
  rw [(upsertWithScratch_spec inv handle position bounds scratch).cellsForHandle, if_pos rfl]

end Update

variable [Scalar F]

/-- **Update reports are exact** after every run, for every update with any scratch, except for a
point update of a handle whose membership is stored as the list of the one cell it is in. -/
theorem upsertWithScratch_exact_iff (grid : GridSpec F) (ops : List (Op F)) (handle : EntityHandle)
    (position : Position3 F) (bounds : Bounds F) (scratch : CellIndexUpdateScratch) :
    let index := execute step (new grid) ops
    let update := index.upsertWithScratch handle position bounds scratch
    update.1.Exact (index.cellsForHandle handle) (update.2.1.cellsForHandle handle)
      ↔ ¬ (bounds = .point
        ∧ index.entityCells.lookup handle = some (.multiple [index.grid.cellAt position])) := by
  intro index
  have hrun : Tracks grid ops index :=
    execute_history (I := Tracks grid) (tracks_new grid) (fun _ _ op h => h.step op) ops
  have inv := hrun.represents
  intro update
  show update.1.Exact _ ((index.upsertWithScratch handle position bounds scratch).2.1.cellsForHandle
    handle) ↔ _
  rw [cellsForHandle_upsertWithScratch inv]
  cases bounds with
  | point =>
      rw [GridSpec.cellsForBounds_point, and_iff_right rfl]
      exact upsertPoint_exact_iff inv handle _ scratch
  | sphere radius =>
      exact iff_of_true (upsertRange_exact inv handle _ _ scratch) (by simp)
  | aabb halfExtents =>
      exact iff_of_true (upsertRange_exact inv handle _ _ scratch) (by simp)

/-- An index in which a sphere lies inside one cell. -/
def sphereInCell : CellIndex ℚ :=
  execute step (new ⟨10⟩) [.upsertWithScratch ⟨0, 0⟩ ⟨5, 5, 5⟩ (.sphere 1) ⟨[]⟩]

/-- The sphere becomes a point: its cell stays, and the report says that it was relocated. -/
theorem relocated_in_same_cell :
    let update := sphereInCell.upsertWithScratch ⟨0, 0⟩ ⟨5, 5, 5⟩ .point ⟨[]⟩
    sphereInCell.cellsForHandle ⟨0, 0⟩ = some [⟨0, 0, 0⟩]
      ∧ update.2.1.cellsForHandle ⟨0, 0⟩ = some [⟨0, 0, 0⟩]
      ∧ update.1 = ⟨.relocated, 1, 0, 0, false⟩
      ∧ ¬ update.1.Exact (sphereInCell.cellsForHandle ⟨0, 0⟩)
        (update.2.1.cellsForHandle ⟨0, 0⟩) := by
  intro update
  have hbefore : sphereInCell.cellsForHandle ⟨0, 0⟩ = some [⟨0, 0, 0⟩] := by decide +kernel
  have hafter : update.2.1.cellsForHandle ⟨0, 0⟩ = some [⟨0, 0, 0⟩] := by decide +kernel
  have hreport : update.1 = ⟨.relocated, 1, 0, 0, false⟩ := by decide +kernel
  refine ⟨hbefore, hafter, hreport, fun h => ?_⟩
  have hsame := h.unchanged.mpr ⟨_, hbefore, _, hafter, fun cell => Iff.rfl⟩
  rw [hreport] at hsame
  cases hsame

end CellIndex

end SectorSync
