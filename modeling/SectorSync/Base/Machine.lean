import Mathlib.Algebra.Group.Nat.Defs
import Mathlib.Data.Nat.Basic
import Mathlib.Order.Lattice
import Mathlib.Tactic.Common

/-!
# Fixed-width integers and derived orders

What the development needs of unsigned machine words beyond the core library: the linear
order Mathlib's order lemmas ask for, and addition that stops at the largest value instead of
wrapping.  `saturatingAdd` is always reasoned about through `toNat`, where it is a `min`.

`LinearOrder.ofKey` is the order a type gets from an injective key, on top of the decidable
equality it already has; it models orders derived from the fields of a record.
-/

/-- The linear order read off an injective key. -/
abbrev LinearOrder.ofKey {α β : Type*} [DecidableEq α] [LinearOrder β] (key : α → β)
    (inj : Function.Injective key) : LinearOrder α where
  le a b := key a ≤ key b
  lt a b := key a < key b
  le_refl a := le_refl (key a)
  le_trans _ _ _ h₁ h₂ := le_trans h₁ h₂
  lt_iff_le_not_ge _ _ := lt_iff_le_not_ge
  le_antisymm _ _ h₁ h₂ := inj (le_antisymm h₁ h₂)
  le_total a b := le_total (key a) (key b)
  toDecidableLE a b := inferInstanceAs (Decidable (key a ≤ key b))
  toDecidableLT a b := inferInstanceAs (Decidable (key a < key b))
  toDecidableEq := inferInstance

instance UInt64.instLinearOrder : LinearOrder UInt64 where
  le_refl a := UInt64.le_refl a
  le_trans _ _ _ h₁ h₂ := UInt64.le_trans h₁ h₂
  lt_iff_le_not_ge a b := by
    rw [UInt64.lt_iff_toNat_lt, UInt64.le_iff_toNat_le, UInt64.le_iff_toNat_le]
    omega
  le_antisymm _ _ h₁ h₂ := UInt64.le_antisymm h₁ h₂
  le_total a b := UInt64.le_total a b
  toDecidableLE := inferInstance

instance UInt32.instLinearOrder : LinearOrder UInt32 where
  le_refl a := UInt32.le_refl a
  le_trans _ _ _ h₁ h₂ := UInt32.le_trans h₁ h₂
  lt_iff_le_not_ge a b := by
    rw [UInt32.lt_iff_toNat_lt, UInt32.le_iff_toNat_le, UInt32.le_iff_toNat_le]
    omega
  le_antisymm _ _ h₁ h₂ := UInt32.le_antisymm h₁ h₂
  le_total a b := UInt32.le_total a b
  toDecidableLE := inferInstance

instance UInt16.instLinearOrder : LinearOrder UInt16 where
  le_refl a := UInt16.le_refl a
  le_trans _ _ _ h₁ h₂ := UInt16.le_trans h₁ h₂
  lt_iff_le_not_ge a b := by
    rw [UInt16.lt_iff_toNat_lt, UInt16.le_iff_toNat_le, UInt16.le_iff_toNat_le]
    omega
  le_antisymm _ _ h₁ h₂ := UInt16.le_antisymm h₁ h₂
  le_total a b := UInt16.le_total a b
  toDecidableLE := inferInstance

namespace UInt64

/-- The largest value, `u64::MAX`. -/
def maxValue : UInt64 := UInt64.ofNat (UInt64.size - 1)

/-- Addition that stops at `maxValue`. -/
def saturatingAdd (a b : UInt64) : UInt64 :=
  if a.toNat + b.toNat < UInt64.size then a + b else maxValue

/-- Subtraction that stops at zero. -/
def saturatingSub (a b : UInt64) : UInt64 := if b ≤ a then a - b else 0

/-- Multiplication that stops at `maxValue`. -/
def saturatingMul (a b : UInt64) : UInt64 :=
  if a.toNat * b.toNat < UInt64.size then a * b else maxValue

/-- Division that rounds up. -/
def divCeil (a b : UInt64) : UInt64 := if a % b = 0 then a / b else a / b + 1

lemma toNat_maxValue : maxValue.toNat = UInt64.size - 1 :=
  UInt64.toNat_ofNat_of_lt' (by decide)

lemma toNat_saturatingAdd (a b : UInt64) :
    (a.saturatingAdd b).toNat = min (a.toNat + b.toNat) (UInt64.size - 1) := by
  unfold saturatingAdd
  split
  · rename_i h
    rw [UInt64.toNat_add, Nat.mod_eq_of_lt h]
    exact (min_eq_left (Nat.le_sub_one_of_lt h)).symm
  · rw [toNat_maxValue]
    omega

lemma toNat_saturatingSub (a b : UInt64) : (a.saturatingSub b).toNat = a.toNat - b.toNat := by
  unfold saturatingSub
  split
  · rename_i h
    exact UInt64.toNat_sub_of_le a b h
  · rename_i h
    rw [UInt64.le_iff_toNat_le] at h
    show 0 = _
    omega

lemma le_saturatingAdd (a b : UInt64) : a ≤ a.saturatingAdd b := by
  rw [UInt64.le_iff_toNat_le, toNat_saturatingAdd]
  have := a.toNat_lt_size
  omega

/-- A quotient that is rounded up covers the dividend. -/
lemma toNat_le_divCeil_mul (a : UInt64) {b : UInt64} (hb : 0 < b.toNat) :
    a.toNat ≤ (a.divCeil b).toNat * b.toNat := by
  have hmod : (a % b).toNat = a.toNat % b.toNat := UInt64.toNat_mod a b
  have hdiv : (a / b).toNat = a.toNat / b.toNat := UInt64.toNat_div a b
  have hsplit := Nat.div_add_mod a.toNat b.toNat
  have hrest := Nat.mod_lt a.toNat hb
  rw [Nat.mul_comm] at hsplit
  unfold divCeil
  split_ifs with hexact
  · have hzero : (0 : UInt64).toNat = 0 := rfl
    rw [hexact, hzero] at hmod
    rw [hdiv]
    omega
  · -- a divisor that leaves a rest is at least two, so that the increment does not wrap
    have hpos : a.toNat % b.toNat ≠ 0 := fun hzero =>
      hexact (UInt64.toNat_inj.mp (hmod.trans hzero))
    have htwo : 2 ≤ b.toNat := by
      by_contra hlt
      have hone : b.toNat = 1 := by omega
      rw [hone, Nat.mod_one] at hpos
      exact hpos rfl
    have hsmall : a.toNat / b.toNat + 1 < 2 ^ 64 := by
      have hhalf : a.toNat / b.toNat ≤ a.toNat / 2 := Nat.div_le_div_left htwo Nat.two_pos
      have := a.toNat_lt
      omega
    have hone : (1 : UInt64).toNat = 1 := rfl
    rw [UInt64.toNat_add, hdiv, hone, Nat.mod_eq_of_lt hsmall, Nat.add_mul, Nat.one_mul]
    omega

/-- One saturating increment passes every word below it that is not the largest. -/
lemma lt_saturatingAdd_one_iff {a b : UInt64} :
    a < b.saturatingAdd 1 ↔ a ≤ b ∧ a < maxValue := by
  rw [UInt64.lt_iff_toNat_lt, UInt64.lt_iff_toNat_lt, UInt64.le_iff_toNat_le, toNat_saturatingAdd,
    toNat_maxValue]
  have : (1 : UInt64).toNat = 1 := rfl
  omega

/-- A saturating increment leaves a word unchanged only at the largest value. -/
lemma saturatingAdd_one_eq_self {a : UInt64} : a.saturatingAdd 1 = a ↔ a = maxValue := by
  rw [← UInt64.toNat_inj, toNat_saturatingAdd, ← UInt64.toNat_inj, toNat_maxValue]
  have := a.toNat_lt_size
  have : (1 : UInt64).toNat = 1 := rfl
  omega

/-! ## Halves of a word -/

/-- Two 32-bit words in one: `(u64::from(hi) << 32) | u64::from(lo)`. -/
def pack (hi lo : UInt32) : UInt64 := (hi.toUInt64 <<< 32) ||| lo.toUInt64

/-- The upper half of a word. -/
def high (w : UInt64) : UInt32 := (w >>> 32).toUInt32

/-- The lower half of a word: `w & u64::from(u32::MAX)`. -/
def low (w : UInt64) : UInt32 := (w &&& 0xffffffff).toUInt32

lemma toNat_pack (hi lo : UInt32) : (pack hi lo).toNat = hi.toNat * 2 ^ 32 + lo.toNat := by
  have hhi := hi.toNat_lt
  have hlo := lo.toNat_lt
  have hshift : (hi.toUInt64 <<< 32).toNat = hi.toNat <<< 32 := by
    rw [UInt64.toNat_shiftLeft, UInt32.toNat_toUInt64, Nat.mod_eq_of_lt]
    · rfl
    · show hi.toNat <<< 32 < 2 ^ 64
      rw [Nat.shiftLeft_eq]
      omega
  rw [pack, UInt64.toNat_or, hshift, UInt32.toNat_toUInt64, ← Nat.shiftLeft_add_eq_or_of_lt hlo,
    Nat.shiftLeft_eq]

lemma toNat_high (w : UInt64) : w.high.toNat = w.toNat / 2 ^ 32 := by
  have hw := w.toNat_lt
  rw [high, UInt64.toNat_toUInt32, UInt64.toNat_shiftRight, Nat.mod_eq_of_lt]
  · exact Nat.shiftRight_eq_div_pow _ _
  · show w.toNat >>> 32 < 2 ^ 32
    rw [Nat.shiftRight_eq_div_pow]
    omega

lemma toNat_low (w : UInt64) : w.low.toNat = w.toNat % 2 ^ 32 := by
  rw [low, UInt64.toNat_toUInt32, UInt64.toNat_and]
  show (w.toNat &&& (2 ^ 32 - 1)) % 2 ^ 32 = _
  rw [Nat.and_two_pow_sub_one_eq_mod, Nat.mod_mod]

@[simp] lemma high_pack (hi lo : UInt32) : (pack hi lo).high = hi := by
  have hlo := lo.toNat_lt
  rw [← UInt32.toNat_inj, toNat_high, toNat_pack]
  omega

@[simp] lemma low_pack (hi lo : UInt32) : (pack hi lo).low = lo := by
  have hlo := lo.toNat_lt
  rw [← UInt32.toNat_inj, toNat_low, toNat_pack]
  omega

lemma pack_high_low (w : UInt64) : pack w.high w.low = w := by
  rw [← UInt64.toNat_inj, toNat_pack, toNat_high, toNat_low]
  omega

end UInt64

namespace UInt32

/-- The largest value, `u32::MAX`. -/
def maxValue : UInt32 := UInt32.ofNat (UInt32.size - 1)

/-- Addition that stops at `maxValue`. -/
def saturatingAdd (a b : UInt32) : UInt32 :=
  if a.toNat + b.toNat < UInt32.size then a + b else maxValue

end UInt32

namespace UInt32

lemma toNat_maxValue : maxValue.toNat = UInt32.size - 1 :=
  UInt32.toNat_ofNat_of_lt' (by decide)

lemma toNat_saturatingAdd (a b : UInt32) :
    (a.saturatingAdd b).toNat = min (a.toNat + b.toNat) (UInt32.size - 1) := by
  unfold saturatingAdd
  split
  · rename_i h
    rw [UInt32.toNat_add, Nat.mod_eq_of_lt h]
    exact (min_eq_left (Nat.le_sub_one_of_lt h)).symm
  · rw [toNat_maxValue]
    omega

lemma le_saturatingAdd (a b : UInt32) : a ≤ a.saturatingAdd b := by
  rw [UInt32.le_iff_toNat_le, toNat_saturatingAdd]
  have := a.toNat_lt_size
  omega

/-- A saturating increment leaves a word unchanged only at the largest value. -/
lemma saturatingAdd_one_eq_self {a : UInt32} : a.saturatingAdd 1 = a ↔ a = maxValue := by
  rw [← UInt32.toNat_inj, toNat_saturatingAdd, ← UInt32.toNat_inj, toNat_maxValue]
  have := a.toNat_lt_size
  have : (1 : UInt32).toNat = 1 := rfl
  omega

end UInt32

namespace UInt8

/-- Addition that stops at `u8::MAX`. -/
def saturatingAdd (a b : UInt8) : UInt8 :=
  if a.toNat + b.toNat < UInt8.size then a + b else UInt8.ofNat (UInt8.size - 1)

lemma toNat_saturatingAdd (a b : UInt8) :
    (a.saturatingAdd b).toNat = min (a.toNat + b.toNat) (UInt8.size - 1) := by
  unfold saturatingAdd
  split
  · rename_i h
    rw [UInt8.toNat_add, Nat.mod_eq_of_lt h]
    exact (min_eq_left (Nat.le_sub_one_of_lt h)).symm
  · rw [UInt8.toNat_ofNat_of_lt' (by decide)]
    omega

end UInt8
