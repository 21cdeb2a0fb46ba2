import Mathlib.Order.CompletePartialOrder
import Mathlib.Order.Interval.Set.Disjoint
import SectorSync.Core.Component

/-!
# Validation of generated component schemas

A generated schema lays out the fields of a component in a blob: each field has a byte offset and a
maximum size, both of the width of `usize`.  `validate` looks for fields past the end of the blob,
repeated names and overlapping ranges.  It computes the end of a field with saturating arithmetic,
so what it checks is the layout with every range cut off at the largest offset
(`validate_eq_ok_iff`).

`validate_exact_iff` says where that is the layout itself.
-/

namespace SectorSync

/-- Fixed field type used by generated component schema helpers. -/
inductive ComponentFieldType where
  | u8
  | u16
  | u32
  | u64
  | i32
  | f32
  /-- Three little-endian `f32` values. -/
  | vec3
  /-- Opaque bytes with a maximum generated layout size. -/
  | bytes (maxLen : UInt64)
  deriving DecidableEq

/-- Maximum encoded size in bytes. -/
def ComponentFieldType.maxSize : ComponentFieldType → UInt64
  | u8 => 1
  | u16 => 2
  | u32 => 4
  | i32 => 4
  | f32 => 4
  | u64 => 8
  | vec3 => 12
  | bytes maxLen => maxLen

/-- Field descriptor emitted by external schema generators. -/
structure ComponentFieldDescriptor where
  name : String
  ty : ComponentFieldType
  /-- Byte offset inside the generated component blob. -/
  offset : UInt64
  deriving DecidableEq

/-- Component schema shape emitted by an external generator. -/
structure GeneratedComponentSchema where
  id : ComponentId
  name : String
  storage : ComponentStorageKind
  sync : ComponentSyncMode
  migration : ComponentMigrationMode
  maxBytes : UInt64
  /-- Generated field layout. -/
  fields : List ComponentFieldDescriptor

/-- Generated component schema validation error. -/
inductive ComponentSchemaError where
  | duplicateFieldName (name : String)
  /-- Field range exceeded `max_bytes`. -/
  | fieldOutOfBounds (name : String) (offset size maxBytes : UInt64)
  /-- Two field byte ranges overlap. -/
  | fieldOverlap (left right : String)
  deriving DecidableEq

/-- `ranges_overlap`. -/
def rangesOverlap (leftStart leftEnd rightStart rightEnd : UInt64) : Bool :=
  decide (leftStart < rightEnd) && decide (rightStart < leftEnd)

namespace ComponentFieldDescriptor

/-- The exclusive end offset. -/
def endOffset (field : ComponentFieldDescriptor) : UInt64 :=
  field.offset.saturatingAdd field.ty.maxSize

/-- Compares a field with the fields before it. -/
def validateAgainst (field : ComponentFieldDescriptor) :
    List ComponentFieldDescriptor → Except ComponentSchemaError Unit
  | [] => .ok ()
  | earlier :: rest =>
      if earlier.name = field.name then .error (.duplicateFieldName field.name)
      else if rangesOverlap earlier.offset earlier.endOffset field.offset field.endOffset then
        .error (.fieldOverlap earlier.name field.name)
      else field.validateAgainst rest

end ComponentFieldDescriptor

namespace GeneratedComponentSchema

open ComponentFieldDescriptor

/-- Checks the remaining fields against the bound and the fields before them. -/
def validateFields (maxBytes : UInt64) (earlier : List ComponentFieldDescriptor) :
    List ComponentFieldDescriptor → Except ComponentSchemaError Unit
  | [] => .ok ()
  | field :: rest =>
      if field.endOffset > maxBytes then
        .error (.fieldOutOfBounds field.name field.offset field.ty.maxSize maxBytes)
      else do
        field.validateAgainst earlier
        validateFields maxBytes (earlier ++ [field]) rest

/-- Validates generated layout invariants. -/
def validate (schema : GeneratedComponentSchema) : Except ComponentSchemaError Unit :=
  validateFields schema.maxBytes [] schema.fields

end GeneratedComponentSchema

/-! ## Layouts -/

namespace ComponentFieldDescriptor

/-- The byte after the last one of a field, without wrapping or saturation. -/
def rangeEnd (field : ComponentFieldDescriptor) : ℕ := field.offset.toNat + field.ty.maxSize.toNat

/-- The bytes of a field. -/
def range (field : ComponentFieldDescriptor) : Set ℕ :=
  Set.Ico field.offset.toNat field.rangeEnd

/-- The bytes of a field before the largest offset. -/
def cutRange (field : ComponentFieldDescriptor) : Set ℕ :=
  Set.Ico field.offset.toNat (min field.rangeEnd UInt64.maxValue.toNat)

/-- The field reaches past the largest offset. -/
def Wraps (field : ComponentFieldDescriptor) : Prop := UInt64.maxValue.toNat < field.rangeEnd

variable {field earlier : ComponentFieldDescriptor}

lemma toNat_endOffset : field.endOffset.toNat = min field.rangeEnd UInt64.maxValue.toNat := by
  rw [endOffset, UInt64.toNat_saturatingAdd, UInt64.toNat_maxValue]
  rfl

lemma endOffset_of_not_wraps (h : ¬ field.Wraps) : field.endOffset.toNat = field.rangeEnd := by
  rw [toNat_endOffset, min_eq_left (Nat.not_lt.mp h)]

lemma cutRange_of_not_wraps (h : ¬ field.Wraps) : field.cutRange = field.range := by
  rw [cutRange, range, min_eq_left (Nat.not_lt.mp h)]

/-- A field that is not empty starts before its end, or at the largest offset. -/
lemma offset_cases (hpos : 0 < field.ty.maxSize) :
    field.offset.toNat < field.endOffset.toNat
      ∨ field.offset.toNat = UInt64.maxValue.toNat := by
  have hsize : 0 < field.ty.maxSize.toNat := UInt64.lt_iff_toNat_lt.mp hpos
  have hoffset := field.offset.toNat_lt_size
  rw [toNat_endOffset, rangeEnd, UInt64.toNat_maxValue]
  omega

/-- **The overlap test** compares the ranges that are cut off at the largest offset. -/
lemma rangesOverlap_eq_false_iff (hearlier : 0 < earlier.ty.maxSize)
    (hfield : 0 < field.ty.maxSize) :
    rangesOverlap earlier.offset earlier.endOffset field.offset field.endOffset = false
      ↔ Disjoint earlier.cutRange field.cutRange := by
  have hfirst := offset_cases hearlier
  have hsecond := offset_cases hfield
  have hcutFirst : earlier.endOffset.toNat ≤ UInt64.maxValue.toNat :=
    toNat_endOffset ▸ min_le_right _ _
  have hcutSecond : field.endOffset.toNat ≤ UInt64.maxValue.toNat :=
    toNat_endOffset ▸ min_le_right _ _
  rw [cutRange, cutRange, ← toNat_endOffset, ← toNat_endOffset, Set.Ico_disjoint_Ico, rangesOverlap,
    Bool.and_eq_false_iff, decide_eq_false_iff_not, decide_eq_false_iff_not, UInt64.lt_iff_toNat_lt,
    UInt64.lt_iff_toNat_lt]
  omega

/-- A field passes against the fields before it when no name is its own and no range meets its. -/
lemma validateAgainst_eq_ok_iff {fields : List ComponentFieldDescriptor} :
    field.validateAgainst fields = .ok ()
      ↔ ∀ earlier ∈ fields, earlier.name ≠ field.name
        ∧ rangesOverlap earlier.offset earlier.endOffset field.offset field.endOffset = false := by
  induction fields with
  | nil => simp [validateAgainst]
  | cons earlier rest ih =>
      rw [validateAgainst, List.forall_mem_cons, ← ih]
      by_cases hname : earlier.name = field.name
      · simp [hname]
      · by_cases hoverlap :
          rangesOverlap earlier.offset earlier.endOffset field.offset field.endOffset = true
        · simp [hname, hoverlap]
        · simp [hname, hoverlap]

end ComponentFieldDescriptor

namespace GeneratedComponentSchema

open ComponentFieldDescriptor

/-- The layout is sound: names are distinct, every range is within the blob, and no two ranges
meet. -/
structure LayoutValid (schema : GeneratedComponentSchema) : Prop where
  names : (schema.fields.map ComponentFieldDescriptor.name).Nodup
  inBounds : ∀ field ∈ schema.fields, field.rangeEnd ≤ schema.maxBytes.toNat
  disjoint : schema.fields.Pairwise fun left right => Disjoint left.range right.range

/-- The layout is sound but for what lies past the largest offset, and something does. -/
structure CutOff (schema : GeneratedComponentSchema) : Prop where
  maxBytes : schema.maxBytes = UInt64.maxValue
  wraps : ∃ field ∈ schema.fields, field.Wraps
  names : (schema.fields.map ComponentFieldDescriptor.name).Nodup
  disjoint : schema.fields.Pairwise fun left right => Disjoint left.cutRange right.cutRange

lemma validateFields_eq_ok_iff {maxBytes : UInt64}
    {earlier fields : List ComponentFieldDescriptor} :
    validateFields maxBytes earlier fields = .ok ()
      ↔ (∀ field ∈ fields, field.endOffset ≤ maxBytes)
        ∧ (∀ field ∈ fields, field.validateAgainst earlier = .ok ())
        ∧ fields.Pairwise fun left right => right.validateAgainst [left] = .ok () := by
  induction fields generalizing earlier with
  | nil => simp [validateFields]
  | cons field rest ih =>
      rw [validateFields]
      by_cases hend : field.endOffset > maxBytes
      · rw [if_pos hend]
        refine iff_of_false (by simp) fun h => ?_
        exact absurd (h.1 field List.mem_cons_self) (not_le.mpr hend)
      · rw [if_neg hend]
        rcases hagainst : field.validateAgainst earlier with error | ⟨⟩
        · refine iff_of_false (by simp [bind, Except.bind]) fun h => ?_
          have hok := h.2.1 field List.mem_cons_self
          rw [hagainst] at hok
          cases hok
        · show validateFields maxBytes (earlier ++ [field]) rest = .ok () ↔ _
          have hsplit : ∀ later : ComponentFieldDescriptor,
              later.validateAgainst (earlier ++ [field]) = .ok ()
                ↔ later.validateAgainst earlier = .ok ()
                  ∧ later.validateAgainst [field] = .ok () := fun later => by
            simp only [validateAgainst_eq_ok_iff, List.forall_mem_append]
          rw [ih, List.forall_mem_cons, List.forall_mem_cons, List.pairwise_cons, hagainst,
            and_iff_right (not_lt.mp hend), and_iff_right rfl]
          simp only [hsplit, forall_and]
          tauto

variable {schema : GeneratedComponentSchema}

/-- **What is checked** is the layout with every range cut off at the largest offset. -/
theorem validate_eq_ok_iff (hpos : ∀ field ∈ schema.fields, 0 < field.ty.maxSize) :
    schema.validate = .ok ()
      ↔ (∀ field ∈ schema.fields, field.endOffset ≤ schema.maxBytes)
        ∧ (schema.fields.map ComponentFieldDescriptor.name).Nodup
        ∧ schema.fields.Pairwise fun left right => Disjoint left.cutRange right.cutRange := by
  have hpairs : (schema.fields.Pairwise fun left right => right.validateAgainst [left] = .ok ())
      ↔ schema.fields.Pairwise fun left right =>
        left.name ≠ right.name ∧ Disjoint left.cutRange right.cutRange := by
    refine List.Pairwise.iff_of_mem fun {left right} hleft hright => ?_
    rw [validateAgainst_eq_ok_iff, List.forall_mem_singleton,
      rangesOverlap_eq_false_iff (hpos left hleft) (hpos right hright)]
  have hnames : (schema.fields.map ComponentFieldDescriptor.name).Nodup
      ↔ schema.fields.Pairwise fun left right => left.name ≠ right.name := List.pairwise_map
  rw [validate, validateFields_eq_ok_iff, hpairs, List.pairwise_and_iff, hnames]
  exact and_congr_right fun _ => and_iff_right fun field _ => rfl

/-- **Validation is exact** unless the blob reaches to the largest offset, a field reaches past it
and the layout is sound up to there. -/
theorem validate_exact_iff (schema : GeneratedComponentSchema)
    (hpos : ∀ field ∈ schema.fields, 0 < field.ty.maxSize) :
    (schema.validate = .ok () ↔ schema.LayoutValid) ↔ ¬ schema.CutOff := by
  rw [validate_eq_ok_iff hpos]
  by_cases hwraps : ∃ field ∈ schema.fields, field.Wraps
  · -- a field that wraps is in no blob, and is taken to be in the largest
    obtain ⟨field, hfield, hwrap⟩ := hwraps
    have hinvalid : ¬ schema.LayoutValid := fun h => by
      have hend := h.inBounds field hfield
      have hmax := schema.maxBytes.toNat_lt_size
      rw [Wraps, UInt64.toNat_maxValue] at hwrap
      omega
    have hbound : (∀ field ∈ schema.fields, field.endOffset ≤ schema.maxBytes)
        ↔ schema.maxBytes = UInt64.maxValue := by
      have hmax := schema.maxBytes.toNat_lt_size
      constructor
      · intro h
        have hend := UInt64.le_iff_toNat_le.mp (h field hfield)
        rw [toNat_endOffset, min_eq_right (Nat.le_of_lt hwrap), UInt64.toNat_maxValue] at hend
        rw [← UInt64.toNat_inj, UInt64.toNat_maxValue]
        omega
      · intro h field _
        rw [h, UInt64.le_iff_toNat_le, toNat_endOffset]
        exact min_le_right _ _
    rw [hbound, iff_false_right hinvalid, not_iff_not]
    exact ⟨fun ⟨hmax, hnames, hdisjoint⟩ => ⟨hmax, ⟨field, hfield, hwrap⟩, hnames, hdisjoint⟩,
      fun h => ⟨h.maxBytes, h.names, h.disjoint⟩⟩
  · -- the ranges are those of the layout
    have hexact : ∀ field ∈ schema.fields, ¬ field.Wraps := fun field hfield hwrap =>
      hwraps ⟨field, hfield, hwrap⟩
    refine iff_of_true ?_ fun h => hwraps h.wraps
    have hbound : (∀ field ∈ schema.fields, field.endOffset ≤ schema.maxBytes)
        ↔ ∀ field ∈ schema.fields, field.rangeEnd ≤ schema.maxBytes.toNat :=
      forall₂_congr fun field hfield => by
        rw [UInt64.le_iff_toNat_le, endOffset_of_not_wraps (hexact field hfield)]
    have hdisjoint : (schema.fields.Pairwise fun left right => Disjoint left.cutRange right.cutRange)
        ↔ schema.fields.Pairwise fun left right => Disjoint left.range right.range := by
      refine List.Pairwise.iff_of_mem fun {left right} hleft hright => ?_
      rw [cutRange_of_not_wraps (hexact left hleft), cutRange_of_not_wraps (hexact right hright)]
    rw [hbound, hdisjoint]
    exact ⟨fun ⟨hinBounds, hnames, hdisjoint⟩ => ⟨hnames, hinBounds, hdisjoint⟩,
      fun h => ⟨h.inBounds, h.names, h.disjoint⟩⟩

/-- A schema for sparse blobs with the given size and fields. -/
def blobSchema (maxBytes : UInt64) (fields : List ComponentFieldDescriptor) :
    GeneratedComponentSchema :=
  ⟨⟨7⟩, "transform", .sparseBlob, .delta, .copy, maxBytes, fields⟩

/-- Two fields side by side make a sound layout. -/
theorem validate_exact_side_by_side :
    (blobSchema 16 [⟨"position", .vec3, 0⟩, ⟨"health", .u32, 12⟩]).LayoutValid := by
  have hexact := validate_exact_iff
    (blobSchema 16 [⟨"position", .vec3, 0⟩, ⟨"health", .u32, 12⟩]) (by decide)
  have hbelow : ¬ (blobSchema 16 [⟨"position", .vec3, 0⟩, ⟨"health", .u32, 12⟩]).CutOff :=
    fun h => absurd h.maxBytes (by decide)
  exact (hexact.mpr hbelow).mp (by decide)

/-- A field of four bytes at the last but one offset is accepted into the largest blob, which it
does not fit. -/
theorem validate_accepts_field_out_of_bounds :
    let schema := blobSchema UInt64.maxValue [⟨"last", .u32, UInt64.maxValue - 1⟩]
    (∀ field ∈ schema.fields, 0 < field.ty.maxSize)
      ∧ schema.validate = .ok () ∧ ¬ schema.LayoutValid := by
  refine ⟨by decide, by decide, fun h => ?_⟩
  exact absurd (h.inBounds _ List.mem_cons_self) (by decide)

end GeneratedComponentSchema

end SectorSync
