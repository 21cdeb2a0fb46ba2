import SectorSync.Base.Buckets
import SectorSync.Base.Run
import SectorSync.Core.Spatial

/-!
# The cell index

The station-local cell index of `spatial_index.rs`: buckets of entity handles by cell, and beside
them the membership of each handle, the cells it was last put in.  An update that does not change
the cells touches nothing; a point may move to a point; and every other update walks the old and
the new cell list, both sorted, and moves the handle in the cells they do not share.

`Represents` relates the two maps.  `count_applyMembershipDiff` is what the merge walk does to
one bucket, and `cellIndex_representation` is the invariant over all runs: a handle is in the
bucket of a cell once or not at all, exactly as the range of its last upsert says.
-/

namespace SectorSync

open Machine Buckets

variable {F : Type}

/-- Result of inserting or updating one entity in a cell index. -/
inductive CellIndexUpdate where
  | inserted
  | unchanged
  | relocated
  deriving DecidableEq

/-- Work performed while changing one entity's spatial membership. -/
structure CellIndexUpdateReport where
  update : CellIndexUpdate
  retainedCells : ℕ
  removedCells : ℕ
  insertedCells : ℕ
  /-- Whether sorted multi-cell membership was updated by merge-diff. -/
  incrementalDiff : Bool
  deriving DecidableEq

/-- Caller-owned storage for membership changes. -/
structure CellIndexUpdateScratch where
  cells : List CellCoord3

/-- Compact membership representation for point and bounded entities. -/
inductive CellMembership where
  | point (cell : CellCoord3)
  | multiple (cells : List CellCoord3)
  deriving DecidableEq

/-- The cells of a membership. -/
def CellMembership.asSlice : CellMembership → List CellCoord3
  | point cell => [cell]
  | multiple cells => cells

/-- Number of cells between two corners. -/
def queryCellVolume (min max : CellCoord3) : ℕ :=
  axisCellCount min.x max.x * axisCellCount min.y max.y * axisCellCount min.z max.z

/-- Whether a cell list enumerates the range: the lengths agree, and the loop over the range
meets the cells of the list in order and exhausts it. -/
def cellsMatchRange (cells : List CellCoord3) (min max : CellCoord3) : Bool :=
  if cells.length ≠ queryCellVolume min max then false else cellRange min max == cells

/-- Station-local 3D cell index. -/
structure CellIndex (F : Type) where
  grid : GridSpec F
  cells : HashMap CellCoord3 (List EntityHandle)
  entityCells : HashMap EntityHandle CellMembership

namespace CellIndex

/-- An empty cell index. -/
def new (grid : GridSpec F) : CellIndex F := ⟨grid, ∅, ∅⟩

/-- Removes a handle from one bucket, and the bucket when it becomes empty. -/
def removeHandleFromCell (handle : EntityHandle) (cells : HashMap CellCoord3 (List EntityHandle))
    (cell : CellCoord3) : HashMap CellCoord3 (List EntityHandle) :=
  removeFrom cells cell handle

/-- `entry(cell).or_default().push(handle)`. -/
def pushHandleToCell (handle : EntityHandle) (cells : HashMap CellCoord3 (List EntityHandle))
    (cell : CellCoord3) : HashMap CellCoord3 (List EntityHandle) :=
  push cells cell handle

/-- Walks two sorted cell lists and moves the handle in the cells they do not share; counts the
retained, removed and inserted cells. -/
def applyMembershipDiff (handle : EntityHandle) (previous next : List CellCoord3)
    (cells : HashMap CellCoord3 (List EntityHandle)) :
    HashMap CellCoord3 (List EntityHandle) × ℕ × ℕ × ℕ :=
  match previous, next with
  | old :: previous, new :: next =>
      if old = new then
        let (cells, retained, removed, inserted) := applyMembershipDiff handle previous next cells
        (cells, retained + 1, removed, inserted)
      else if old < new then
        let (cells, retained, removed, inserted) :=
          applyMembershipDiff handle previous (new :: next) (removeHandleFromCell handle cells old)
        (cells, retained, removed + 1, inserted)
      else
        let (cells, retained, removed, inserted) :=
          applyMembershipDiff handle (old :: previous) next (pushHandleToCell handle cells new)
        (cells, retained, removed, inserted + 1)
  | [], new :: next =>
      let (cells, retained, removed, inserted) :=
        applyMembershipDiff handle [] next (pushHandleToCell handle cells new)
      (cells, retained, removed, inserted + 1)
  | old :: previous, [] =>
      let (cells, retained, removed, inserted) :=
        applyMembershipDiff handle previous [] (removeHandleFromCell handle cells old)
      (cells, retained, removed + 1, inserted)
  | [], [] => (cells, 0, 0, 0)
termination_by previous.length + next.length

/-- Moves a handle to one cell. -/
def upsertPoint (index : CellIndex F) (handle : EntityHandle) (cell : CellCoord3)
    (scratch : CellIndexUpdateScratch) :
    CellIndexUpdateReport × CellIndex F × CellIndexUpdateScratch :=
  match index.entityCells.lookup handle with
  | none =>
      (⟨.inserted, 0, 0, 1, false⟩,
        { index with
          cells := pushHandleToCell handle index.cells cell
          entityCells := index.entityCells.insert handle (.point cell) }, scratch)
  | some previous =>
      if previous = .point cell then (⟨.unchanged, 1, 0, 0, false⟩, index, scratch)
      else
        let (cells, retained, removed, inserted) :=
          applyMembershipDiff handle previous.asSlice [cell] index.cells
        (⟨.relocated, retained, removed, inserted, false⟩,
          { index with
            cells := cells
            entityCells := index.entityCells.insert handle (.point cell) },
          match previous with
          | .multiple previousCells => ⟨previousCells⟩
          | .point _ => scratch)

/-- Moves a handle to the cells between two corners: `upsert_with_scratch` for bounds that are
not a point. -/
def upsertRange (index : CellIndex F) (handle : EntityHandle) (min max : CellCoord3)
    (scratch : CellIndexUpdateScratch) :
    CellIndexUpdateReport × CellIndex F × CellIndexUpdateScratch :=
  match index.entityCells.lookup handle with
  | none =>
      let next := cellRange min max
      (⟨.inserted, 0, 0, next.length, false⟩,
        { index with
          cells := next.foldl (pushHandleToCell handle) index.cells
          entityCells := index.entityCells.insert handle (.multiple next) }, ⟨[]⟩)
  | some previous =>
      if cellsMatchRange previous.asSlice min max then
        (⟨.unchanged, previous.asSlice.length, 0, 0, false⟩, index, scratch)
      else
        let next := cellRange min max
        let incrementalDiff := match previous with
          | .multiple _ => true
          | .point _ => false
        let (cells, retained, removed, inserted) :=
          applyMembershipDiff handle previous.asSlice next index.cells
        (⟨.relocated, retained, removed, inserted, incrementalDiff⟩,
          { index with
            cells := cells
            entityCells := index.entityCells.insert handle (.multiple next) },
          match previous with
          | .multiple previousCells => ⟨previousCells⟩
          | .point _ => ⟨[]⟩)

section Scalar

variable [Scalar F]

/-- Inserts or updates membership with reusable storage and detailed work counters. -/
def upsertWithScratch (index : CellIndex F) (handle : EntityHandle) (position : Position3 F)
    (bounds : Bounds F) (scratch : CellIndexUpdateScratch) :
    CellIndexUpdateReport × CellIndex F × CellIndexUpdateScratch :=
  match bounds with
  | .point => index.upsertPoint handle (index.grid.cellAt position) scratch
  | bounds =>
      let aabb := bounds.toAabb position
      index.upsertRange handle (index.grid.cellAt aabb.min) (index.grid.cellAt aabb.max) scratch

/-- Inserts or updates an entity in all cells touched by its bounds. -/
def upsert (index : CellIndex F) (handle : EntityHandle) (position : Position3 F)
    (bounds : Bounds F) : CellIndex F :=
  (index.upsertWithScratch handle position bounds ⟨[]⟩).2.1

end Scalar

/-- Removes an entity from the index. -/
def remove (index : CellIndex F) (handle : EntityHandle) : Bool × CellIndex F :=
  match index.entityCells.lookup handle with
  | none => (false, index)
  | some membership =>
      (true,
        { index with
          cells := membership.asSlice.foldl (removeHandleFromCell handle) index.cells
          entityCells := index.entityCells.erase handle })

/-- Handles indexed directly in one cell. -/
def handlesInCell (index : CellIndex F) (cell : CellCoord3) : List EntityHandle :=
  bucket index.cells cell

/-- Cells currently occupied by one entity handle. -/
def cellsForHandle (index : CellIndex F) (handle : EntityHandle) : Option (List CellCoord3) :=
  (index.entityCells.lookup handle).map CellMembership.asSlice

/-! ## The merge walk -/

section Diff

variable {handle : EntityHandle} {previous next : List CellCoord3}
  {cells : HashMap CellCoord3 (List EntityHandle)}

/-- The first element of a strictly sorted list is not in the rest. -/
lemma notMem_of_pairwise_cons {a : CellCoord3} {l : List CellCoord3}
    (h : (a :: l).Pairwise (· < ·)) : a ∉ l := fun hmem =>
  lt_irrefl a ((List.pairwise_cons.mp h).1 a hmem)

/-- A cell below the head of a strictly sorted list is not in it. -/
lemma notMem_of_lt {a b : CellCoord3} {l : List CellCoord3} (hab : a < b)
    (h : (b :: l).Pairwise (· < ·)) : a ∉ b :: l := by
  intro hmem
  rcases List.mem_cons.mp hmem with rfl | hmem
  · exact lt_irrefl a hab
  · exact lt_irrefl a (hab.trans ((List.pairwise_cons.mp h).1 a hmem))

/-- **The merge walk on one bucket.**  The handle enters the buckets of the new cells that were
not old and leaves those of the old cells that are not new; no other count changes. -/
theorem count_applyMembershipDiff (handle : EntityHandle)
    (cells : HashMap CellCoord3 (List EntityHandle)) (hprevious : previous.Pairwise (· < ·))
    (hnext : next.Pairwise (· < ·)) (h : EntityHandle) (c : CellCoord3) :
    (bucket (applyMembershipDiff handle previous next cells).1 c).count h
      = if h = handle ∧ c ∈ next ∧ c ∉ previous then (bucket cells c).count h + 1
        else if h = handle ∧ c ∈ previous ∧ c ∉ next then (bucket cells c).count h - 1
        else (bucket cells c).count h := by
  fun_induction applyMembershipDiff handle previous next cells with
  | case1 cells previous new next cells' retained removed inserted heq ih =>
      -- a shared cell is skipped, and occurs in neither rest
      have hold := notMem_of_pairwise_cons hprevious
      have hnew := notMem_of_pairwise_cons hnext
      rw [heq] at ih
      rw [show (bucket cells' c).count h = _ from ih hprevious.of_cons hnext.of_cons]
      by_cases hc : c = new
      · subst hc
        simp [hold, hnew]
      · simp [hc]
  | case2 cells old previous new next hne hlt cells' retained removed inserted heq ih =>
      have hold := notMem_of_pairwise_cons hprevious
      have hnew := notMem_of_lt hlt hnext
      rw [heq] at ih
      rw [show (bucket cells' c).count h = _ from ih hprevious.of_cons hnext, removeHandleFromCell,
        count_removeFrom]
      by_cases hc : c = old
      · subst hc
        by_cases hh : h = handle
        · simp [hold, hnew, hh]
        · simp [hh]
      · simp [hc]
  | case3 cells old previous new next hne hlt cells' retained removed inserted heq ih =>
      have hgt : new < old := lt_of_le_of_ne (not_lt.mp hlt) (Ne.symm hne)
      have hold := notMem_of_lt hgt hprevious
      have hnew := notMem_of_pairwise_cons hnext
      rw [heq] at ih
      rw [show (bucket cells' c).count h = _ from ih hprevious hnext.of_cons, pushHandleToCell,
        count_push]
      by_cases hc : c = new
      · subst hc
        by_cases hh : h = handle
        · simp [hold, hnew, hh]
        · simp [hh]
      · simp [hc]
  | case4 cells new next cells' retained removed inserted heq ih =>
      have hnew := notMem_of_pairwise_cons hnext
      rw [heq] at ih
      rw [show (bucket cells' c).count h = _ from ih hprevious hnext.of_cons, pushHandleToCell,
        count_push]
      by_cases hc : c = new
      · subst hc
        by_cases hh : h = handle
        · simp [hnew, hh]
        · simp [hh]
      · simp [hc]
  | case5 cells old previous cells' retained removed inserted heq ih =>
      have hold := notMem_of_pairwise_cons hprevious
      rw [heq] at ih
      rw [show (bucket cells' c).count h = _ from ih hprevious.of_cons hnext, removeHandleFromCell,
        count_removeFrom]
      by_cases hc : c = old
      · subst hc
        by_cases hh : h = handle
        · simp [hold, hh]
        · simp [hh]
      · simp [hc]
  | case6 cells => simp

/-- The walk leaves no empty bucket behind. -/
theorem occupied_applyMembershipDiff (hcells : Occupied cells) :
    Occupied (applyMembershipDiff handle previous next cells).1 := by
  fun_induction applyMembershipDiff handle previous next cells with
  | case1 cells previous new next cells' retained removed inserted heq ih =>
      rw [heq] at ih
      exact ih hcells
  | case2 cells old previous new next hne hlt cells' retained removed inserted heq ih =>
      rw [heq] at ih
      exact ih (hcells.removeFrom old handle)
  | case3 cells old previous new next hne hlt cells' retained removed inserted heq ih =>
      rw [heq] at ih
      exact ih (hcells.push new handle)
  | case4 cells new next cells' retained removed inserted heq ih =>
      rw [heq] at ih
      exact ih (hcells.push new handle)
  | case5 cells old previous cells' retained removed inserted heq ih =>
      rw [heq] at ih
      exact ih (hcells.removeFrom old handle)
  | case6 cells => exact hcells

/-- A first insertion is the walk from no cells. -/
lemma applyMembershipDiff_nil_left :
    (applyMembershipDiff handle [] next cells).1 = next.foldl (pushHandleToCell handle) cells := by
  induction next generalizing cells with
  | nil => rw [applyMembershipDiff, List.foldl_nil]
  | cons new next ih =>
      rw [applyMembershipDiff, List.foldl_cons]
      exact ih

/-- A removal is the walk to no cells. -/
lemma applyMembershipDiff_nil_right :
    (applyMembershipDiff handle previous [] cells).1
      = previous.foldl (removeHandleFromCell handle) cells := by
  induction previous generalizing cells with
  | nil => rw [applyMembershipDiff, List.foldl_nil]
  | cons old previous ih =>
      rw [applyMembershipDiff, List.foldl_cons]
      exact ih

end Diff

/-! ## The representation invariant -/

/-- The membership of a handle, empty when it is not indexed. -/
def membership (index : CellIndex F) (handle : EntityHandle) : List CellCoord3 :=
  (index.cellsForHandle handle).getD []

/-- The buckets are the inverse of the memberships: a handle is in the bucket of a cell once if
the cell is in its membership, and otherwise not at all. -/
structure Represents (index : CellIndex F) : Prop where
  count : ∀ h c, (index.handlesInCell c).count h = if c ∈ index.membership h then 1 else 0
  occupied : Occupied index.cells
  sorted : ∀ h, (index.membership h).Pairwise (· < ·)

lemma represents_new (grid : GridSpec F) : (new grid).Represents where
  count h c := by simp [handlesInCell, membership, cellsForHandle, new]
  occupied := occupied_empty
  sorted h := by simp [membership, cellsForHandle, new]

/-- Walking the buckets from a handle's membership to a sorted cell list keeps the
representation, when the membership is set to that list. -/
theorem Represents.replace {index : CellIndex F} (inv : index.Represents) {handle : EntityHandle}
    {next : List CellCoord3} (hnext : next.Pairwise (· < ·))
    {entityCells : HashMap EntityHandle CellMembership}
    (hmembership : ∀ h, ((entityCells.lookup h).map CellMembership.asSlice).getD []
      = if h = handle then next else index.membership h) :
    Represents
      { index with
        cells := (applyMembershipDiff handle (index.membership handle) next index.cells).1
        entityCells := entityCells } where
  count h c := by
    have hold : (bucket index.cells c).count h = if c ∈ index.membership h then 1 else 0 :=
      inv.count h c
    have hdiff := count_applyMembershipDiff handle index.cells (inv.sorted handle) hnext h c
    show (bucket (applyMembershipDiff handle (index.membership handle) next index.cells).1 c).count h
      = if c ∈ ((entityCells.lookup h).map CellMembership.asSlice).getD [] then 1 else 0
    rw [hmembership, hdiff, hold]
    by_cases hh : h = handle
    · subst hh
      by_cases hc : c ∈ next
      · by_cases hp : c ∈ index.membership h
        · simp [hc, hp]
        · simp [hc, hp]
      · by_cases hp : c ∈ index.membership h
        · simp [hc, hp]
        · simp [hc, hp]
    · simp [hh]
  occupied := occupied_applyMembershipDiff inv.occupied
  sorted h := by
    show (((entityCells.lookup h).map CellMembership.asSlice).getD []).Pairwise (· < ·)
    rw [hmembership]
    split_ifs
    · exact hnext
    · exact inv.sorted h

/-- The comparison with a range is equality with its enumeration. -/
lemma cellsMatchRange_iff {cells : List CellCoord3} {min max : CellCoord3} :
    cellsMatchRange cells min max = true ↔ cells = cellRange min max := by
  unfold cellsMatchRange
  split_ifs with hlen
  · refine iff_of_false (fun h => h) fun heq => hlen ?_
    rw [heq, length_cellRange, queryCellVolume, Nat.mul_assoc]
  · rw [beq_iff_eq]
    exact eq_comm

/-- What an update leaves: the representation, the grid, and one changed membership. -/
structure Reindexed (index index' : CellIndex F) (handle : EntityHandle)
    (cells : Option (List CellCoord3)) : Prop where
  represents : index'.Represents
  grid : index'.grid = index.grid
  cellsForHandle : ∀ h, index'.cellsForHandle h = if h = handle then cells
    else index.cellsForHandle h

/-- Walking to a new membership. -/
lemma Represents.reindexed {index : CellIndex F} (inv : index.Represents) (handle : EntityHandle)
    (m : CellMembership) (hm : m.asSlice.Pairwise (· < ·)) :
    Reindexed index
      { index with
        cells := (applyMembershipDiff handle (index.membership handle) m.asSlice index.cells).1
        entityCells := index.entityCells.insert handle m } handle (some m.asSlice) := by
  have hcells : ∀ h, ((index.entityCells.insert handle m).lookup h).map CellMembership.asSlice
      = if h = handle then some m.asSlice else index.cellsForHandle h := by
    intro h
    rw [Finmap.lookup_insert_eq, CellIndex.cellsForHandle]
    split_ifs
    · rfl
    · rfl
  refine ⟨inv.replace hm fun h => ?_, rfl, hcells⟩
  rw [hcells, membership]
  split_ifs
  · rfl
  · rfl

/-- Keeping the membership a handle has. -/
lemma Represents.unchanged {index : CellIndex F} (inv : index.Represents) {handle : EntityHandle}
    {cells : List CellCoord3} (h : index.cellsForHandle handle = some cells) :
    Reindexed index index handle (some cells) := by
  refine ⟨inv, rfl, fun h' => ?_⟩
  split_ifs with hh
  · rw [hh, h]
  · rfl

section Update

variable {index : CellIndex F}

/-- A point update puts the handle in one cell. -/
theorem upsertPoint_spec (inv : index.Represents) (handle : EntityHandle) (cell : CellCoord3)
    (scratch : CellIndexUpdateScratch) :
    Reindexed index (index.upsertPoint handle cell scratch).2.1 handle (some [cell]) := by
  have hwalk := inv.reindexed handle (.point cell) (List.pairwise_singleton _ _)
  cases hprev : index.entityCells.lookup handle with
  | none =>
      have hnone : index.membership handle = [] := by simp [membership, cellsForHandle, hprev]
      rw [hnone, applyMembershipDiff_nil_left] at hwalk
      simp only [upsertPoint, hprev]
      exact hwalk
  | some previous =>
      have hsome : index.membership handle = previous.asSlice := by
        simp [membership, cellsForHandle, hprev]
      rw [hsome] at hwalk
      simp only [upsertPoint, hprev]
      split_ifs with heq
      · refine inv.unchanged ?_
        rw [cellsForHandle, hprev, heq]
        rfl
      · exact hwalk

/-- A range update puts the handle in the cells of the range. -/
theorem upsertRange_spec (inv : index.Represents) (handle : EntityHandle) (min max : CellCoord3)
    (scratch : CellIndexUpdateScratch) :
    Reindexed index (index.upsertRange handle min max scratch).2.1 handle
      (some (cellRange min max)) := by
  have hwalk := inv.reindexed handle (.multiple (cellRange min max)) (pairwise_cellRange min max)
  cases hprev : index.entityCells.lookup handle with
  | none =>
      have hnone : index.membership handle = [] := by simp [membership, cellsForHandle, hprev]
      rw [hnone, applyMembershipDiff_nil_left] at hwalk
      simp only [upsertRange, hprev]
      exact hwalk
  | some previous =>
      have hsome : index.membership handle = previous.asSlice := by
        simp [membership, cellsForHandle, hprev]
      rw [hsome] at hwalk
      simp only [upsertRange, hprev]
      split_ifs with hmatch
      · refine inv.unchanged ?_
        rw [cellsForHandle, hprev, Option.map_some, cellsMatchRange_iff.mp hmatch]
      · exact hwalk

/-- **Update.**  An upsert, with any scratch, puts the handle in the cells of its bounds. -/
theorem upsertWithScratch_spec [Scalar F] (inv : index.Represents) (handle : EntityHandle)
    (position : Position3 F) (bounds : Bounds F) (scratch : CellIndexUpdateScratch) :
    Reindexed index (index.upsertWithScratch handle position bounds scratch).2.1 handle
      (some (index.grid.cellsForBounds position bounds)) := by
  cases bounds with
  | point =>
      rw [GridSpec.cellsForBounds_point]
      exact upsertPoint_spec inv handle _ scratch
  | sphere radius => exact upsertRange_spec inv handle _ _ scratch
  | aabb halfExtents => exact upsertRange_spec inv handle _ _ scratch

lemma upsert_spec [Scalar F] (inv : index.Represents) (handle : EntityHandle)
    (position : Position3 F) (bounds : Bounds F) :
    Reindexed index (index.upsert handle position bounds) handle
      (some (index.grid.cellsForBounds position bounds)) :=
  upsertWithScratch_spec inv handle position bounds ⟨[]⟩

end Update

/-- **Removal.**  A removed handle is in no cell. -/
theorem remove_spec {index : CellIndex F} (inv : index.Represents) (handle : EntityHandle) :
    Reindexed index (index.remove handle).2 handle none := by
  cases hprev : index.entityCells.lookup handle with
  | none =>
      simp only [remove, hprev]
      refine ⟨inv, rfl, fun h => ?_⟩
      split_ifs with hh
      · rw [hh, cellsForHandle, hprev, Option.map_none]
      · rfl
  | some previous =>
      have hsome : index.membership handle = previous.asSlice := by
        simp [membership, cellsForHandle, hprev]
      have hcells : ∀ h, ((index.entityCells.erase handle).lookup h).map CellMembership.asSlice
          = if h = handle then none else index.cellsForHandle h := by
        intro h
        rw [Finmap.lookup_erase_eq, cellsForHandle]
        split_ifs
        · rfl
        · rfl
      have hwalk : Represents
          { index with
            cells := (applyMembershipDiff handle (index.membership handle) [] index.cells).1
            entityCells := index.entityCells.erase handle } := by
        refine inv.replace List.Pairwise.nil fun h => ?_
        rw [hcells, membership]
        split_ifs
        · rfl
        · rfl
      rw [hsome, applyMembershipDiff_nil_right] at hwalk
      simp only [remove, hprev]
      exact ⟨hwalk, rfl, hcells⟩

/-! ## Runs -/

/-- The operations that change an index; every upsert with scratch brings its own. -/
inductive Op (F : Type) where
  | upsert (handle : EntityHandle) (position : Position3 F) (bounds : Bounds F)
  | upsertWithScratch (handle : EntityHandle) (position : Position3 F) (bounds : Bounds F)
      (scratch : CellIndexUpdateScratch)
  | remove (handle : EntityHandle)

/-- The position and bounds a handle was last put in, if it was not removed since. -/
def lastUpsert (handle : EntityHandle) (ops : List (Op F)) : Option (Position3 F × Bounds F) :=
  ops.foldl (fun last op =>
    match op with
    | .upsert h position bounds => if handle = h then some (position, bounds) else last
    | .upsertWithScratch h position bounds _ =>
        if handle = h then some (position, bounds) else last
    | .remove h => if handle = h then none else last) none

section Scalar

variable [Scalar F]

/-- One operation. -/
def step (index : CellIndex F) : Op F → CellIndex F
  | .upsert handle position bounds => index.upsert handle position bounds
  | .upsertWithScratch handle position bounds scratch =>
      (index.upsertWithScratch handle position bounds scratch).2.1
  | .remove handle => (index.remove handle).2

/-- What a run has established: the buckets represent the memberships, and each membership is
the range of the last upsert. -/
structure Tracks (grid : GridSpec F) (ops : List (Op F)) (index : CellIndex F) : Prop where
  represents : index.Represents
  sameGrid : index.grid = grid
  cellsForHandle : ∀ h, index.cellsForHandle h
    = (lastUpsert h ops).map fun last => grid.cellsForBounds last.1 last.2

lemma tracks_new (grid : GridSpec F) : Tracks grid [] (new grid) where
  represents := represents_new grid
  sameGrid := rfl
  cellsForHandle h := by simp [CellIndex.cellsForHandle, new, lastUpsert]

/-- One changed membership, recorded by one more operation. -/
lemma Tracks.reindexed {grid : GridSpec F} {ops : List (Op F)} {index index' : CellIndex F}
    (h : Tracks grid ops index) {op : Op F} {handle : EntityHandle}
    {last : Option (Position3 F × Bounds F)}
    (hre : Reindexed index index' handle
      (last.map fun last => grid.cellsForBounds last.1 last.2))
    (hlast : ∀ h', lastUpsert h' (ops ++ [op])
      = if h' = handle then last else lastUpsert h' ops) : Tracks grid (ops ++ [op]) index' := by
  refine ⟨hre.represents, hre.grid.trans h.sameGrid, fun h' => ?_⟩
  rw [hre.cellsForHandle, h.cellsForHandle, hlast]
  split_ifs
  · rfl
  · rfl

/-- **The step lemma.** -/
lemma Tracks.step {grid : GridSpec F} {ops : List (Op F)} {index : CellIndex F}
    (h : Tracks grid ops index) (op : Op F) : Tracks grid (ops ++ [op]) (index.step op) := by
  have hupsert : ∀ handle position bounds scratch, Reindexed index
      (index.upsertWithScratch handle position bounds scratch).2.1 handle
      ((some (position, bounds)).map fun last => grid.cellsForBounds last.1 last.2) := by
    intro handle position bounds scratch
    have hspec := upsertWithScratch_spec h.represents handle position bounds scratch
    rwa [h.sameGrid] at hspec
  cases op with
  | upsert handle position bounds =>
      refine h.reindexed (hupsert handle position bounds ⟨[]⟩) fun h' => ?_
      rw [lastUpsert, List.foldl_append]
      rfl
  | upsertWithScratch handle position bounds scratch =>
      refine h.reindexed (hupsert handle position bounds scratch) fun h' => ?_
      rw [lastUpsert, List.foldl_append]
      rfl
  | remove handle =>
      have hre : Reindexed index (index.remove handle).2 handle
          ((none : Option (Position3 F × Bounds F)).map fun last =>
            grid.cellsForBounds last.1 last.2) := remove_spec h.represents handle
      refine h.reindexed hre fun h' => ?_
      rw [lastUpsert, List.foldl_append]
      rfl

/-- **Representation.**  After any run of upserts, with whatever scratch, and removals: a handle
is in the bucket of a cell once if the cell is in its membership and otherwise not at all; a handle
has a membership exactly when it was put in and not removed since, and it is the cell range of its
last upsert, sorted and duplicate-free; no stored bucket is empty; and a handle that was removed, or
never put in, is in no bucket. -/
theorem cellIndex_representation (grid : GridSpec F) (ops : List (Op F)) :
    (∀ h c, ((execute step (new grid) ops).handlesInCell c).count h
      = if c ∈ (execute step (new grid) ops).membership h then 1 else 0) ∧
    (∀ h, (execute step (new grid) ops).cellsForHandle h
      = (lastUpsert h ops).map fun last => grid.cellsForBounds last.1 last.2) ∧
    (∀ h cells, (execute step (new grid) ops).cellsForHandle h = some cells →
      cells.Pairwise (· < ·) ∧ cells.Nodup) ∧
    (∀ c handles, (execute step (new grid) ops).cells.lookup c = some handles → handles ≠ []) ∧
    (∀ h, lastUpsert h ops = none → ∀ c, h ∉ (execute step (new grid) ops).handlesInCell c) := by
  have hrun : Tracks grid ops (execute step (new grid) ops) :=
    execute_history (I := Tracks grid) (tracks_new grid) (fun _ _ op h => h.step op) ops
  refine ⟨hrun.represents.count, hrun.cellsForHandle, ?_, hrun.represents.occupied, ?_⟩
  · intro h cells hcells
    have hsorted := hrun.represents.sorted h
    rw [membership, hcells, Option.getD_some] at hsorted
    exact ⟨hsorted, hsorted.imp fun hlt => hlt.ne⟩
  · intro h hlast c hmem
    have hcount := hrun.represents.count h c
    rw [membership, hrun.cellsForHandle, hlast] at hcount
    rw [Option.map_none, Option.getD_none, if_neg List.not_mem_nil] at hcount
    exact absurd hmem (List.count_eq_zero.mp hcount)

end Scalar

end CellIndex

end SectorSync
