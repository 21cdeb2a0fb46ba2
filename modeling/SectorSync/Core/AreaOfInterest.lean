import Mathlib.Tactic.Positivity
import SectorSync.Core.CellQuery
import SectorSync.Core.RationalScalar

/-!
# The area of interest

What `query_aabb_into` promises to its callers, over every index that upserts and removals can
build and every scratch that queries can leave behind.

* `query_strategies_agree`: probing the cells of the range and scanning the occupied cells return
  the same list, so the choice between them, by a saturating cell count, cannot be seen.
* `query_complete`: where coordinates are exact, a handle whose last box overlaps the query box is
  returned, every handle once, and only handles that share a cell with the query.
-/

namespace SectorSync

open Machine Buckets

variable {F : Type}

/-! ## The two strategies -/

namespace CellIndex

open CellQueryScratch

/-- The grid strategy: probes every cell of the range. -/
def gridProbeInto (index : CellIndex F) (min max : CellCoord3) (s : CellQueryScratch) :
    CellQueryScratch :=
  let s := s.clear
  (cellRange min max).foldl index.collectCell
    { s with
      stats := { s.stats with
        strategy := .grid
        gridCellsProbed := queryCellVolume min max } }

/-- The occupied-cell strategy: scans and sorts the occupied cells of the range. -/
def occupiedScanInto (index : CellIndex F) (min max : CellCoord3) (s : CellQueryScratch) :
    CellQueryScratch :=
  let s := s.clear
  let matchingCells := index.occupiedInRange min max
  matchingCells.foldl index.collectCell
    { s with
      matchingCells := matchingCells
      stats := { s.stats with
        strategy := .occupiedCells
        occupiedCellsScanned := index.cells.size } }

/-- `query_cell_volume` with a `usize` whose largest value is given: every product saturates. -/
def saturatingCellVolume (usizeMax : ℕ) (lo hi : CellCoord3) : ℕ :=
  min usizeMax (min usizeMax (min usizeMax (axisCellCount lo.x hi.x)
    * min usizeMax (axisCellCount lo.y hi.y)) * min usizeMax (axisCellCount lo.z hi.z))

/-- The query with the strategy chosen by the saturating cell count. -/
def queryChoosingInto (usizeMax : ℕ) (index : CellIndex F) (min max : CellCoord3)
    (s : CellQueryScratch) : CellQueryScratch :=
  let s :=
    if saturatingCellVolume usizeMax min max ≤ index.cells.size then index.gridProbeInto min max s
    else index.occupiedScanInto min max s
  { s with stats := { s.stats with candidateHandles := s.handles.length } }

/-- The buckets of the occupied cells in the range, in lexicographic cell order, each handle at
its first occurrence. -/
def handlesInRange (index : CellIndex F) (min max : CellCoord3) : List EntityHandle :=
  ((index.occupiedInRange min max).flatMap index.handlesInCell).eraseDups

/-- Without saturation the query is the model's. -/
lemma queryRangeInto_eq_ite (index : CellIndex F) (min max : CellCoord3) (s : CellQueryScratch) :
    (index.queryRangeInto min max s).handles
      = if queryCellVolume min max ≤ index.cells.size then (index.gridProbeInto min max s).handles
        else (index.occupiedScanInto min max s).handles := by
  unfold queryRangeInto
  dsimp only
  split_ifs
  · rfl
  · rfl

section Strategies

variable (index : CellIndex F) (min max : CellCoord3) {s : CellQueryScratch}

lemma gridProbeInto_spec (hs : s.WellFormed) :
    (index.gridProbeInto min max s).WellFormed
      ∧ (index.gridProbeInto min max s).handles = index.handlesInRange min max := by
  have hrun := foldl_collectCell_spec index ((clear_spec hs).withStats s.clear.matchingCells
    { s.clear.stats with strategy := .grid, gridCellsProbed := queryCellVolume min max })
    (cellRange min max)
  refine ⟨hrun.wellFormed, hrun.handles.trans ?_⟩
  rw [List.nil_append, handlesInRange, flatMap_occupiedInRange]

lemma occupiedScanInto_spec (hs : s.WellFormed) :
    (index.occupiedScanInto min max s).WellFormed
      ∧ (index.occupiedScanInto min max s).handles = index.handlesInRange min max := by
  have hrun := foldl_collectCell_spec index
    ((clear_spec hs).withStats (index.occupiedInRange min max)
      { s.clear.stats with
        strategy := .occupiedCells
        occupiedCellsScanned := index.cells.size })
    (index.occupiedInRange min max)
  refine ⟨hrun.wellFormed, hrun.handles.trans ?_⟩
  rw [List.nil_append, handlesInRange]

end Strategies

end CellIndex

/-- One use of a scratch: cleared by its owner, or handed to a query of any index. -/
inductive ScratchUse (F : Type) where
  | clear
  | query (index : CellIndex F) (min max : CellCoord3)

namespace ScratchUse

/-- The scratch after one use. -/
def step (s : CellQueryScratch) : ScratchUse F → CellQueryScratch
  | .clear => s.clear
  | .query index min max => index.queryRangeInto min max s

/-- Any history leaves a scratch the next query can use. -/
lemma wellFormed_execute (history : List (ScratchUse F)) :
    (execute step .new history).WellFormed := by
  refine execute_preserves (fun s use hs => ?_) CellQueryScratch.wellFormed_new history
  cases use with
  | clear => exact (CellQueryScratch.clear_spec hs).wellFormed
  | query index min max => exact (index.queryRangeInto_spec min max hs).1

end ScratchUse

namespace CellIndex

section Scalar

variable [Scalar F]

/-- **The strategies agree.**  For every index a run builds, every query box and every scratch
history, both strategies return the buckets of the occupied cells in the range, in lexicographic
cell order and each handle at its first occurrence, and so does the query that chooses between
them by a cell count that saturates at any `usize`. -/
theorem query_strategies_agree (grid : GridSpec F) (ops : List (Op F))
    (history : List (ScratchUse F)) (aabb : Aabb3 F) (usizeMax : ℕ) :
    ((execute step (new grid) ops).gridProbeInto (grid.cellAt aabb.min) (grid.cellAt aabb.max)
        (execute ScratchUse.step .new history)).handles
      = (execute step (new grid) ops).handlesInRange (grid.cellAt aabb.min)
          (grid.cellAt aabb.max) ∧
    ((execute step (new grid) ops).occupiedScanInto (grid.cellAt aabb.min) (grid.cellAt aabb.max)
        (execute ScratchUse.step .new history)).handles
      = (execute step (new grid) ops).handlesInRange (grid.cellAt aabb.min)
          (grid.cellAt aabb.max) ∧
    ((execute step (new grid) ops).queryChoosingInto usizeMax (grid.cellAt aabb.min)
        (grid.cellAt aabb.max) (execute ScratchUse.step .new history)).handles
      = (execute step (new grid) ops).handlesInRange (grid.cellAt aabb.min)
          (grid.cellAt aabb.max) ∧
    ((execute step (new grid) ops).queryAabbInto aabb
        (execute ScratchUse.step .new history)).handles
      = (execute step (new grid) ops).handlesInRange (grid.cellAt aabb.min)
          (grid.cellAt aabb.max) := by
  have hs := ScratchUse.wellFormed_execute history
  have hgrid : (execute step (new grid) ops).grid = grid :=
    (execute_history (I := Tracks grid) (tracks_new grid) (fun _ _ op h => h.step op) ops).sameGrid
  have hprobe := (gridProbeInto_spec (execute step (new grid) ops) (grid.cellAt aabb.min)
    (grid.cellAt aabb.max) hs).2
  have hscan := (occupiedScanInto_spec (execute step (new grid) ops) (grid.cellAt aabb.min)
    (grid.cellAt aabb.max) hs).2
  refine ⟨hprobe, hscan, ?_, ?_⟩
  · simp only [queryChoosingInto]
    split_ifs
    · exact hprobe
    · exact hscan
  · rw [queryAabbInto, hgrid, queryRangeInto_eq_ite, hprobe, hscan, ite_self]

end Scalar

end CellIndex

/-! ## Exact coordinates -/

/-- The cell coordinate of one axis. -/
def GridSpec.axisCell [Scalar F] (grid : GridSpec F) (x : F) : ℤ :=
  Scalar.floorToI32 (Scalar.mul x (Scalar.div (Scalar.ofNat 1) grid.cellSize))

/-- Coordinates are exact ordered values: comparisons are the order, cells are monotone, and
extents that are not negative move a corner outwards. -/
structure ExactCoordinates [Scalar F] [LinearOrder F] (grid : GridSpec F) : Prop where
  le_iff : ∀ a b : F, Scalar.le a b = true ↔ a ≤ b
  cell_mono : ∀ {a b : F}, a ≤ b → grid.axisCell a ≤ grid.axisCell b
  sub_le : ∀ a extent : F, Scalar.ofNat 0 ≤ extent → Scalar.sub a extent ≤ a
  le_add : ∀ a extent : F, Scalar.ofNat 0 ≤ extent → a ≤ Scalar.add a extent

/-- The extents are not negative. -/
def Bounds.Nonneg [Scalar F] [LE F] : Bounds F → Prop
  | .point => True
  | .sphere radius => Scalar.ofNat 0 ≤ radius
  | .aabb halfExtents => Scalar.ofNat 0 ≤ halfExtents.x ∧ Scalar.ofNat 0 ≤ halfExtents.y
      ∧ Scalar.ofNat 0 ≤ halfExtents.z

/-- The box has no negative side. -/
def Aabb3.Nonneg [LE F] (aabb : Aabb3 F) : Prop :=
  aabb.min.x ≤ aabb.max.x ∧ aabb.min.y ≤ aabb.max.y ∧ aabb.min.z ≤ aabb.max.z

section Exact

variable [Scalar F] [LinearOrder F] {grid : GridSpec F}

lemma ExactCoordinates.nonneg_toAabb (h : ExactCoordinates grid) {bounds : Bounds F}
    (hbounds : bounds.Nonneg) (position : Position3 F) : (bounds.toAabb position).Nonneg := by
  have hside : ∀ a extent : F, Scalar.ofNat 0 ≤ extent →
      Scalar.sub a extent ≤ Scalar.add a extent := fun a extent hextent =>
    le_trans (h.sub_le a extent hextent) (h.le_add a extent hextent)
  cases bounds with
  | point => exact ⟨le_refl _, le_refl _, le_refl _⟩
  | sphere radius => exact ⟨hside _ _ hbounds, hside _ _ hbounds, hside _ _ hbounds⟩
  | aabb halfExtents =>
      exact ⟨hside _ _ hbounds.1, hside _ _ hbounds.2.1, hside _ _ hbounds.2.2⟩

/-- Intervals that overlap have a cell in common: the larger of the two lower cells. -/
lemma exists_common_cell {lo hi lo' hi' : ℤ} (h : lo ≤ hi) (h' : lo' ≤ hi') (hover : lo ≤ hi')
    (hover' : lo' ≤ hi) : ∃ i, (lo ≤ i ∧ i ≤ hi) ∧ lo' ≤ i ∧ i ≤ hi' :=
  ⟨max lo lo', by omega, by omega⟩

/-- **Boxes that overlap share a cell.** -/
lemma ExactCoordinates.shared_cell (h : ExactCoordinates grid) {a b : Aabb3 F} (ha : a.Nonneg)
    (hb : b.Nonneg) (hover : a.overlaps b = true) :
    ∃ cell, cell ∈ grid.cellsForAabb a ∧ cell ∈ grid.cellsForAabb b := by
  simp only [Aabb3.overlaps, Bool.and_eq_true, h.le_iff] at hover
  obtain ⟨⟨⟨⟨⟨hx, hx'⟩, hy⟩, hy'⟩, hz⟩, hz'⟩ := hover
  obtain ⟨x, hxa, hxb⟩ := exists_common_cell (h.cell_mono ha.1) (h.cell_mono hb.1)
    (h.cell_mono hx) (h.cell_mono hx')
  obtain ⟨y, hya, hyb⟩ := exists_common_cell (h.cell_mono ha.2.1) (h.cell_mono hb.2.1)
    (h.cell_mono hy) (h.cell_mono hy')
  obtain ⟨z, hza, hzb⟩ := exists_common_cell (h.cell_mono ha.2.2) (h.cell_mono hb.2.2)
    (h.cell_mono hz) (h.cell_mono hz')
  have hmem : ∀ c : Aabb3 F, (grid.axisCell c.min.x ≤ x ∧ x ≤ grid.axisCell c.max.x) →
      (grid.axisCell c.min.y ≤ y ∧ y ≤ grid.axisCell c.max.y) →
      (grid.axisCell c.min.z ≤ z ∧ z ≤ grid.axisCell c.max.z) →
      (⟨x, y, z⟩ : CellCoord3) ∈ grid.cellsForAabb c := by
    intro c hcx hcy hcz
    rw [GridSpec.cellsForAabb, mem_cellRange]
    simp only [cellInRange, Bool.and_eq_true, decide_eq_true_eq]
    exact ⟨⟨⟨⟨⟨hcx.1, hcx.2⟩, hcy.1⟩, hcy.2⟩, hcz.1⟩, hcz.2⟩
  exact ⟨⟨x, y, z⟩, hmem a hxa hya hza, hmem b hxb hyb hzb⟩

end Exact

/-! ## Completeness -/

namespace CellIndex

lemma mem_candidates {index : CellIndex F} {min max : CellCoord3} {h : EntityHandle} :
    h ∈ index.candidates min max
      ↔ ∃ cell ∈ cellRange min max, h ∈ index.handlesInCell cell := by
  rw [candidates, List.mem_eraseDups, List.mem_flatMap]

/-- A handle is in the bucket of a cell exactly when the cell is one of its last upsert. -/
lemma Tracks.mem_handlesInCell [Scalar F] {grid : GridSpec F} {ops : List (Op F)}
    {index : CellIndex F} (hrun : Tracks grid ops index) {h : EntityHandle} {cell : CellCoord3} :
    h ∈ index.handlesInCell cell ↔ ∃ position bounds, lastUpsert h ops = some (position, bounds)
      ∧ cell ∈ grid.cellsForBounds position bounds := by
  rw [← List.count_pos_iff, hrun.represents.count, membership, hrun.cellsForHandle]
  cases hlast : lastUpsert h ops with
  | none => simp
  | some last =>
      obtain ⟨position, bounds⟩ := last
      simp only [Option.map_some, Option.getD_some, Option.some.injEq, Prod.mk.injEq]
      constructor
      · intro hpos
        refine ⟨position, bounds, ⟨rfl, rfl⟩, ?_⟩
        by_contra hnot
        rw [if_neg hnot] at hpos
        exact absurd hpos (lt_irrefl 0)
      · rintro ⟨_, _, ⟨rfl, rfl⟩, hmem⟩
        rw [if_pos hmem]
        exact Nat.one_pos

/-- First occurrences are distinct. -/
lemma nodup_eraseDups (handles : List EntityHandle) : handles.eraseDups.Nodup := by
  induction handles using List.reverseRecOn with
  | nil => exact List.nodup_nil
  | append_singleton handles handle ih =>
      rw [CellQueryScratch.eraseDups_concat]
      split_ifs with hmem
      · exact ih
      · rw [← List.concat_eq_append]
        exact ih.concat (fun h => hmem (List.mem_eraseDups.mp h))

/-- **Completeness of the area of interest.**  With exact coordinates a query returns every handle
whose last box overlaps the query box, returns no handle twice, and returns only handles that
share a cell with the query. -/
theorem query_complete [Scalar F] [LinearOrder F] {grid : GridSpec F}
    (hexact : ExactCoordinates grid) (ops : List (Op F)) (history : List (ScratchUse F))
    {aabb : Aabb3 F} (hbox : aabb.Nonneg) :
    (∀ h position bounds, lastUpsert h ops = some (position, bounds) → bounds.Nonneg →
      (bounds.toAabb position).overlaps aabb = true →
      h ∈ ((execute step (new grid) ops).queryAabbInto aabb
        (execute ScratchUse.step .new history)).handles) ∧
    ((execute step (new grid) ops).queryAabbInto aabb
      (execute ScratchUse.step .new history)).handles.Nodup ∧
    ∀ h ∈ ((execute step (new grid) ops).queryAabbInto aabb
        (execute ScratchUse.step .new history)).handles,
      ∃ position bounds, lastUpsert h ops = some (position, bounds)
        ∧ ∃ cell ∈ grid.cellsForBounds position bounds, cell ∈ grid.cellsForAabb aabb := by
  have hrun : Tracks grid ops (execute step (new grid) ops) :=
    execute_history (I := Tracks grid) (tracks_new grid) (fun _ _ op h => h.step op) ops
  rw [queryAabbInto, hrun.sameGrid,
    (queryRangeInto_spec _ _ _ (ScratchUse.wellFormed_execute history)).2]
  refine ⟨fun h position bounds hlast hbounds hover => ?_, nodup_eraseDups _, fun h hmem => ?_⟩
  · obtain ⟨cell, hcell, hquery⟩ :=
      hexact.shared_cell (hexact.nonneg_toAabb hbounds position) hbox hover
    exact mem_candidates.mpr
      ⟨cell, hquery, hrun.mem_handlesInCell.mpr ⟨position, bounds, hlast, hcell⟩⟩
  · obtain ⟨cell, hquery, hcell⟩ := mem_candidates.mp hmem
    obtain ⟨position, bounds, hlast, hcells⟩ := hrun.mem_handlesInCell.mp hcell
    exact ⟨position, bounds, hlast, cell, hcells, hquery⟩

/-! ## Rational coordinates -/

/-- Rational coordinates are exact on every grid of positive cell size. -/
lemma exactCoordinates_rational {grid : GridSpec ℚ} (hgrid : 0 < grid.cellSize) :
    ExactCoordinates grid where
  le_iff a b := decide_eq_true_iff
  cell_mono := by
    intro a b hab
    have hinv : 0 ≤ 1 / grid.cellSize := by positivity
    have hfloor : ⌊a * (1 / grid.cellSize)⌋ ≤ ⌊b * (1 / grid.cellSize)⌋ :=
      Int.floor_mono (mul_le_mul_of_nonneg_right hab hinv)
    have hone : Scalar.div (Scalar.ofNat 1) grid.cellSize = 1 / grid.cellSize := by
      show ((1 : ℕ) : ℚ) / grid.cellSize = _
      rw [Nat.cast_one]
    rw [GridSpec.axisCell, GridSpec.axisCell, hone]
    exact max_le_max_left _ (min_le_min_right _ hfloor)
  sub_le a extent hextent := by
    have hzero : (0 : ℚ) ≤ extent := by simpa [Scalar.ofNat] using hextent
    exact sub_le_self a hzero
  le_add a extent hextent := by
    have hzero : (0 : ℚ) ≤ extent := by simpa [Scalar.ofNat] using hextent
    exact le_add_of_nonneg_right hzero

/-- A sphere of radius 3 at the origin of a grid of cell size 2 is found by a unit box that it
overlaps in another cell than that of its center. -/
theorem query_complete_rational :
    (⟨0, 0⟩ : EntityHandle) ∈ ((execute step (new ⟨(2 : ℚ)⟩)
      [.upsert ⟨0, 0⟩ ⟨0, 0, 0⟩ (.sphere 3)]).queryAabbInto ⟨⟨3, 0, 0⟩, ⟨4, 1, 1⟩⟩
        (execute ScratchUse.step .new ([] : List (ScratchUse ℚ)))).handles :=
  (query_complete (exactCoordinates_rational (by norm_num)) _ _
    (by norm_num [Aabb3.Nonneg])).1 ⟨0, 0⟩ ⟨0, 0, 0⟩ (.sphere 3) rfl
    (by norm_num [Bounds.Nonneg, Scalar.ofNat])
    (by norm_num [Aabb3.overlaps, Bounds.toAabb, Aabb3.fromCenterHalfExtents, Scalar.le,
      Scalar.sub, Scalar.add])

end CellIndex

end SectorSync
