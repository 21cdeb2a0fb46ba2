import Mathlib.Algebra.Order.Floor.Ring
import Mathlib.Algebra.Order.Field.Rat
import Mathlib.Data.Rat.Floor
import SectorSync.Core.Spatial

/-!
# Rational coordinates

Coordinates are an abstract type with the operations the source performs on `f32`.  Rational
numbers with exact operations are the instance on which results about ordered coordinates run.
-/

namespace SectorSync

/-- Exact arithmetic on rational coordinates.  The casts saturate as those of `f32` do. -/
instance rationalScalar : Scalar ℚ where
  ofNat n := n
  ofU16 n := n.toNat
  add a b := a + b
  sub a b := a - b
  mul a b := a * b
  div a b := a / b
  mulAdd a b c := a * b + c
  le a b := decide (a ≤ b)
  lt a b := decide (a < b)
  totalCmp a b := compare a b
  isFinite _ := true
  clamp a lo hi := max lo (min a hi)
  round a := if 0 ≤ a then ⌊a + 1 / 2⌋ else ⌈a - 1 / 2⌉
  floorToI32 a := max (-2 ^ 31) (min ⌊a⌋ (2 ^ 31 - 1))
  toU16 a := UInt16.ofNat (min ⌊a⌋.toNat (UInt16.size - 1))
  toU64 a := UInt64.ofNat (min ⌊a⌋.toNat (UInt64.size - 1))

end SectorSync
