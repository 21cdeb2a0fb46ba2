import SectorSync.Core.Ids

/-!
# Positions, bounds and grid cells

The spatial primitives of `spatial.rs`.  Coordinates are `f32` in the source; here they are
values of a type with the operations of `Scalar`, about which nothing is assumed, so that every
theorem holds whatever the rounding is.  Cell coordinates are `i32` in the source and integers
here: they are only compared and enumerated.

`cellRange` is the triple loop over the cells between two corners.  It is strictly ascending in
the derived order of `CellCoord3`, and `mem_cellRange` reads its elements off.
-/

namespace SectorSync

/-- The operations of `f32` the source uses.  `floorToI32` is the saturating cast of the floor
(`NaN` to zero), `toU16` and `toU64` are the saturating casts. -/
class Scalar (F : Type) where
  ofNat : ℕ → F
  ofU16 : UInt16 → F
  add : F → F → F
  sub : F → F → F
  mul : F → F → F
  div : F → F → F
  mulAdd : F → F → F → F
  le : F → F → Bool
  lt : F → F → Bool
  totalCmp : F → F → Ordering
  isFinite : F → Bool
  clamp : F → F → F → F
  round : F → F
  floorToI32 : F → ℤ
  toU16 : F → UInt16
  toU64 : F → UInt64

/-- 3D world-space position. -/
structure Position3 (F : Type) where
  x : F
  y : F
  z : F
  deriving DecidableEq

/-- 3D vector used for extents and offsets. -/
structure Vec3 (F : Type) where
  x : F
  y : F
  z : F
  deriving DecidableEq

/-- Axis-aligned bounding box. -/
structure Aabb3 (F : Type) where
  min : Position3 F
  max : Position3 F
  deriving DecidableEq

/-- Entity bounds for spatial indexing and AOI overlap. -/
inductive Bounds (F : Type) where
  | point
  | sphere (radius : F)
  | aabb (halfExtents : Vec3 F)
  deriving DecidableEq

/-- Integer 3D cell coordinate. -/
structure CellCoord3 where
  x : ℤ
  y : ℤ
  z : ℤ
  deriving DecidableEq

/-- Uniform 3D grid configuration. -/
structure GridSpec (F : Type) where
  cellSize : F

section Scalar

variable {F : Type} [Scalar F]

/-- Squared distance to another position. -/
def Position3.distanceSquared (a b : Position3 F) : F :=
  let dx := Scalar.sub a.x b.x
  let dy := Scalar.sub a.y b.y
  let dz := Scalar.sub a.z b.z
  Scalar.mulAdd dx dx (Scalar.mulAdd dy dy (Scalar.mul dz dz))

/-- The box centered on `center`. -/
def Aabb3.fromCenterHalfExtents (center : Position3 F) (halfExtents : Vec3 F) : Aabb3 F where
  min := ⟨Scalar.sub center.x halfExtents.x, Scalar.sub center.y halfExtents.y,
    Scalar.sub center.z halfExtents.z⟩
  max := ⟨Scalar.add center.x halfExtents.x, Scalar.add center.y halfExtents.y,
    Scalar.add center.z halfExtents.z⟩

/-- Whether two AABBs overlap. -/
def Aabb3.overlaps (a b : Aabb3 F) : Bool :=
  Scalar.le a.min.x b.max.x && Scalar.le b.min.x a.max.x && Scalar.le a.min.y b.max.y
    && Scalar.le b.min.y a.max.y && Scalar.le a.min.z b.max.z && Scalar.le b.min.z a.max.z

/-- Converts bounds at `position` into an AABB. -/
def Bounds.toAabb (bounds : Bounds F) (position : Position3 F) : Aabb3 F :=
  match bounds with
  | .point => ⟨position, position⟩
  | .sphere radius => Aabb3.fromCenterHalfExtents position ⟨radius, radius, radius⟩
  | .aabb halfExtents => Aabb3.fromCenterHalfExtents position halfExtents

/-- Maps a world-space position to a cell coordinate. -/
def GridSpec.cellAt (grid : GridSpec F) (position : Position3 F) : CellCoord3 :=
  let inv := Scalar.div (Scalar.ofNat 1) grid.cellSize
  ⟨Scalar.floorToI32 (Scalar.mul position.x inv), Scalar.floorToI32 (Scalar.mul position.y inv),
    Scalar.floorToI32 (Scalar.mul position.z inv)⟩

end Scalar

/-! ## The order on cells -/

namespace CellCoord3

/-- The derived order: lexicographic in `x`, `y`, `z`. -/
def key (c : CellCoord3) : ℤ ×ₗ ℤ ×ₗ ℤ := toLex (c.x, toLex (c.y, c.z))

lemma key_injective : Function.Injective key := by
  rintro ⟨x, y, z⟩ ⟨x', y', z'⟩ h
  simpa [key] using h

instance : LinearOrder CellCoord3 := LinearOrder.ofKey key key_injective

lemma lt_iff {a b : CellCoord3} :
    a < b ↔ a.x < b.x ∨ a.x = b.x ∧ (a.y < b.y ∨ a.y = b.y ∧ a.z < b.z) := by
  show key a < key b ↔ _
  simp [key, Prod.Lex.toLex_lt_toLex]

end CellCoord3

/-! ## Enumerating a box of cells -/

/-- The integers of `lo..=hi`, ascending. -/
def inclusiveRange (lo hi : ℤ) : List ℤ :=
  (List.range (hi + 1 - lo).toNat).map fun i : ℕ => lo + i

@[simp] lemma mem_inclusiveRange {lo hi i : ℤ} : i ∈ inclusiveRange lo hi ↔ lo ≤ i ∧ i ≤ hi := by
  simp only [inclusiveRange, List.mem_map, List.mem_range]
  constructor
  · rintro ⟨n, hn, rfl⟩
    omega
  · intro h
    exact ⟨(i - lo).toNat, by omega, by omega⟩

lemma pairwise_inclusiveRange (lo hi : ℤ) : (inclusiveRange lo hi).Pairwise (· < ·) := by
  rw [inclusiveRange, List.pairwise_map]
  exact List.pairwise_lt_range.imp fun h => by omega

/-- Number of cells on one axis between two coordinates. -/
def axisCellCount (min max : ℤ) : ℕ := (max + 1 - min).toNat

@[simp] lemma length_inclusiveRange (lo hi : ℤ) :
    (inclusiveRange lo hi).length = axisCellCount lo hi := by
  simp [inclusiveRange, axisCellCount]

/-- The cells between two corners, in the order of the source's three nested loops. -/
def cellRange (min max : CellCoord3) : List CellCoord3 :=
  (inclusiveRange min.x max.x).flatMap fun x =>
    (inclusiveRange min.y max.y).flatMap fun y =>
      (inclusiveRange min.z max.z).map fun z => ⟨x, y, z⟩

/-- Whether a cell lies between two corners. -/
def cellInRange (cell min max : CellCoord3) : Bool :=
  cell.x ≥ min.x && cell.x ≤ max.x && cell.y ≥ min.y && cell.y ≤ max.y && cell.z ≥ min.z
    && cell.z ≤ max.z

@[simp] lemma mem_cellRange {cell min max : CellCoord3} :
    cell ∈ cellRange min max ↔ cellInRange cell min max = true := by
  obtain ⟨x, y, z⟩ := cell
  simp only [cellRange, List.mem_flatMap, List.mem_map, mem_inclusiveRange, CellCoord3.mk.injEq,
    cellInRange, Bool.and_eq_true, decide_eq_true_eq]
  constructor
  · rintro ⟨_, hx, _, hy, _, hz, rfl, rfl, rfl⟩
    omega
  · rintro ⟨⟨⟨⟨⟨h₁, h₂⟩, h₃⟩, h₄⟩, h₅⟩, h₆⟩
    exact ⟨x, ⟨h₁, h₂⟩, y, ⟨h₃, h₄⟩, z, ⟨h₅, h₆⟩, rfl, rfl, rfl⟩

/-- The loops enumerate the cells in strictly ascending order. -/
lemma pairwise_cellRange (min max : CellCoord3) : (cellRange min max).Pairwise (· < ·) := by
  rw [cellRange, List.pairwise_flatMap]
  constructor
  · intro x _
    rw [List.pairwise_flatMap]
    constructor
    · intro y _
      rw [List.pairwise_map]
      exact (pairwise_inclusiveRange _ _).imp fun h => by simp [CellCoord3.lt_iff, h]
    · refine (pairwise_inclusiveRange _ _).imp fun h a ha b hb => ?_
      obtain ⟨_, _, rfl⟩ := List.mem_map.mp ha
      obtain ⟨_, _, rfl⟩ := List.mem_map.mp hb
      simp [CellCoord3.lt_iff, h]
  · refine (pairwise_inclusiveRange _ _).imp fun h a ha b hb => ?_
    obtain ⟨_, _, ha⟩ := List.mem_flatMap.mp ha
    obtain ⟨_, _, rfl⟩ := List.mem_map.mp ha
    obtain ⟨_, _, hb⟩ := List.mem_flatMap.mp hb
    obtain ⟨_, _, rfl⟩ := List.mem_map.mp hb
    simp [CellCoord3.lt_iff, h]

/-- The loops produce as many cells as the box has. -/
lemma length_cellRange (min max : CellCoord3) :
    (cellRange min max).length
      = axisCellCount min.x max.x * (axisCellCount min.y max.y * axisCellCount min.z max.z) := by
  simp [cellRange, List.length_flatMap]

lemma cellRange_self (cell : CellCoord3) : cellRange cell cell = [cell] := by
  have hone : ∀ i : ℤ, inclusiveRange i i = [i] := by
    intro i
    simp [inclusiveRange]
  simp [cellRange, hone]

section Scalar

variable {F : Type} [Scalar F]

/-- All cells touched by an AABB. -/
def GridSpec.cellsForAabb (grid : GridSpec F) (aabb : Aabb3 F) : List CellCoord3 :=
  cellRange (grid.cellAt aabb.min) (grid.cellAt aabb.max)

/-- All cells touched by entity bounds at `position`. -/
def GridSpec.cellsForBounds (grid : GridSpec F) (position : Position3 F) (bounds : Bounds F) :
    List CellCoord3 :=
  grid.cellsForAabb (bounds.toAabb position)

lemma GridSpec.cellsForBounds_point (grid : GridSpec F) (position : Position3 F) :
    grid.cellsForBounds position .point = [grid.cellAt position] :=
  cellRange_self _

end Scalar

end SectorSync
