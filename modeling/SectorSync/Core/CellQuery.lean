import SectorSync.Core.SpatialIndex

/-!
# Cell queries

The scratch-backed range query of `spatial_index.rs`.  A query collects the handles of the
buckets it touches, each once.  Which handles were seen is kept in a dense table of markers, one
for each slot number: the epoch of the query that saw the slot, and the generation it saw.  The
table is never cleared between queries; a new query takes a new epoch, and only the wrap of the
epoch clears it.  Two generations of one slot in one query collide and move to a sparse set.

`Seen` reads off the scratch which handles the current query has met, `insertSeen_spec` says that
`insertSeen` is insertion into that set, and `queryRangeInto_spec` that a query returns
`candidates`, a function of the index and the corner cells alone: nothing of the scratch's
history remains.
-/

namespace SectorSync

open Buckets

variable {F : Type}

/-- Slot numbers from here on are deduplicated in the sparse set. -/
def maxDenseDedupSlots : ℕ := 262144

/-- Strategy used by the last scratch-backed cell query. -/
inductive CellQueryStrategy where
  | grid
  | occupiedCells
  deriving DecidableEq

/-- Work counters from the last scratch-backed cell query, in ℕ: a saturating count of the source
is of cells that one query visits. -/
structure CellQueryStats where
  strategy : CellQueryStrategy
  gridCellsProbed : ℕ
  occupiedCellsScanned : ℕ
  matchedCells : ℕ
  candidateHandles : ℕ
  deriving DecidableEq

/-- The counters before a query. -/
def CellQueryStats.default : CellQueryStats := ⟨.grid, 0, 0, 0, 0⟩

/-- Reusable scratch storage for cell queries. -/
structure CellQueryScratch where
  /-- For each slot number the query epoch and the generation that last met it. -/
  seenDense : List UInt64
  /-- For each slot number the last query epoch in which two generations met. -/
  seenCollisions : List UInt32
  seenSparse : Finset EntityHandle
  queryEpoch : UInt32
  handles : List EntityHandle
  matchingCells : List CellCoord3
  stats : CellQueryStats

namespace CellQueryScratch

/-- Scratch that no query has used. -/
def new : CellQueryScratch := ⟨[], [], ∅, 0, [], [], .default⟩

/-- Starts a new query epoch; a wrapped epoch clears the tables. -/
def beginQuery (s : CellQueryScratch) : CellQueryScratch :=
  let queryEpoch := s.queryEpoch + 1
  if queryEpoch = 0 then
    { s with
      queryEpoch := 1
      seenDense := List.replicate s.seenDense.length 0
      seenCollisions := List.replicate s.seenCollisions.length 0
      seenSparse := ∅ }
  else { s with queryEpoch := queryEpoch, seenSparse := ∅ }

/-- Clears retained query results. -/
def clear (s : CellQueryScratch) : CellQueryScratch :=
  { s.beginQuery with handles := [], matchingCells := [], stats := .default }

/-- `Vec::resize` to a larger length, with zeros. -/
def growTo {α : Type} [OfNat α 0] (l : List α) (length : ℕ) : List α :=
  l ++ List.replicate (length - l.length) 0

/-- `HashSet::insert` into the sparse set. -/
def insertSparse (s : CellQueryScratch) (handle : EntityHandle) : Bool × CellQueryScratch :=
  (decide (handle ∉ s.seenSparse), { s with seenSparse := insert handle s.seenSparse })

/-- Grows the tables so that they have the slot. -/
def growTables (s : CellQueryScratch) (index : ℕ) : CellQueryScratch :=
  if index ≥ s.seenDense.length then
    { s with
      seenDense := growTo s.seenDense (index + 1)
      seenCollisions := growTo s.seenCollisions (index + 1) }
  else s

/-- Records a handle; whether the current query sees it for the first time. -/
def insertSeen (s : CellQueryScratch) (handle : EntityHandle) : Bool × CellQueryScratch :=
  let index := handle.index
  if index ≥ maxDenseDedupSlots then s.insertSparse handle
  else
    let s := s.growTables index
    let marker := UInt64.pack s.queryEpoch handle.generation
    let previous := s.seenDense.getD index 0
    if previous.high ≠ s.queryEpoch then
      (true, { s with seenDense := s.seenDense.set index marker })
    else if s.seenCollisions.getD index 0 = s.queryEpoch then s.insertSparse handle
    else if previous = marker then (false, s)
    else
      let s := { s with seenCollisions := s.seenCollisions.set index s.queryEpoch }
      ((s.insertSparse ⟨index, previous.low⟩).2).insertSparse handle

/-! ## The seen set -/

/-- What relates the tables to the current epoch: no entry is from a later epoch, a slot that
collided in this epoch was met in it, and the sparse set holds, of the slots with a table entry,
only those that collided. -/
structure WellFormed (s : CellQueryScratch) : Prop where
  lengths : s.seenCollisions.length = s.seenDense.length
  dense_le : ∀ m ∈ s.seenDense, m.high ≤ s.queryEpoch
  collisions_le : ∀ c ∈ s.seenCollisions, c ≤ s.queryEpoch
  collided : ∀ i : ℕ, s.seenCollisions[i]? = some s.queryEpoch →
    (s.seenDense[i]?).map UInt64.high = some s.queryEpoch
  sparse : ∀ h ∈ s.seenSparse, h.index < maxDenseDedupSlots →
    s.seenCollisions[h.index]? = some s.queryEpoch

/-- Whether the handle's slot is deduplicated in the sparse set. -/
def IsSparse (s : CellQueryScratch) (index : ℕ) : Prop :=
  maxDenseDedupSlots ≤ index ∨ s.seenCollisions[index]? = some s.queryEpoch

instance (s : CellQueryScratch) (index : ℕ) : Decidable (s.IsSparse index) :=
  inferInstanceAs (Decidable (_ ∨ _))

/-- Whether the current query has met the handle. -/
def Seen (s : CellQueryScratch) (h : EntityHandle) : Prop :=
  if s.IsSparse h.index then h ∈ s.seenSparse
  else s.seenDense[h.index]? = some (UInt64.pack s.queryEpoch h.generation)

instance (s : CellQueryScratch) (h : EntityHandle) : Decidable (s.Seen h) :=
  inferInstanceAs (Decidable (ite _ _ _))

variable {s : CellQueryScratch}

lemma wellFormed_new : new.WellFormed where
  lengths := rfl
  dense_le m hm := absurd hm List.not_mem_nil
  collisions_le c hc := absurd hc List.not_mem_nil
  collided i hi := by simp [new] at hi
  sparse h hh := absurd hh (Finset.notMem_empty h)

lemma seen_of_isSparse {h : EntityHandle} (hs : s.IsSparse h.index) :
    s.Seen h ↔ h ∈ s.seenSparse := by
  rw [Seen, if_pos hs]

lemma seen_of_not_isSparse {h : EntityHandle} (hs : ¬ s.IsSparse h.index) :
    s.Seen h ↔ s.seenDense[h.index]? = some (UInt64.pack s.queryEpoch h.generation) := by
  rw [Seen, if_neg hs]

/-- Scratches that agree on a slot have met the same handles of it. -/
lemma seen_congr {s' : CellQueryScratch} {h : EntityHandle}
    (hs : s'.IsSparse h.index ↔ s.IsSparse h.index)
    (hsparse : h ∈ s'.seenSparse ↔ h ∈ s.seenSparse)
    (hdense : s'.seenDense[h.index]? = some (UInt64.pack s'.queryEpoch h.generation) ↔
      s.seenDense[h.index]? = some (UInt64.pack s.queryEpoch h.generation)) :
    s'.Seen h ↔ s.Seen h := by
  by_cases hh : s.IsSparse h.index
  · rw [seen_of_isSparse hh, seen_of_isSparse (hs.mpr hh), hsparse]
  · rw [seen_of_not_isSparse hh, seen_of_not_isSparse (hh ∘ hs.mp), hdense]

/-- A slot whose epoch and collision entries are old has not been met. -/
lemma not_seen_of_old (hdense : ∀ m ∈ s.seenDense, m.high ≠ s.queryEpoch)
    (hsparse : s.seenSparse = ∅) (h : EntityHandle) : ¬ s.Seen h := by
  unfold Seen
  split_ifs
  · rw [hsparse]
    exact Finset.notMem_empty h
  · intro hget
    exact hdense _ (List.mem_of_getElem? hget) (UInt64.high_pack _ _)

/-- **A new query has met nothing.** -/
theorem beginQuery_spec (hwf : s.WellFormed) :
    s.beginQuery.WellFormed ∧ 0 < s.beginQuery.queryEpoch ∧ ∀ h, ¬ s.beginQuery.Seen h := by
  have hzero : (0 : UInt32) < 1 := by decide
  unfold beginQuery
  dsimp only
  split_ifs with hwrap
  · -- the epoch wrapped and the tables are zero
    have hdense : ∀ m ∈ List.replicate s.seenDense.length (0 : UInt64), m.high = 0 := by
      intro m hm
      rw [List.eq_of_mem_replicate hm]
      rfl
    have hcoll : ∀ c ∈ List.replicate s.seenCollisions.length (0 : UInt32), c = 0 := fun c hc =>
      List.eq_of_mem_replicate hc
    refine ⟨⟨by simp [hwf.lengths], ?_, ?_, ?_, fun h hh => absurd hh (Finset.notMem_empty h)⟩,
      hzero, not_seen_of_old ?_ rfl⟩
    · intro m hm
      show m.high ≤ 1
      rw [hdense m hm]
      exact hzero.le
    · intro c hc
      show c ≤ 1
      rw [hcoll c hc]
      exact hzero.le
    · intro i hi
      exact absurd (hcoll _ (List.mem_of_getElem? hi)) hzero.ne'
    · intro m hm
      show m.high ≠ 1
      rw [hdense m hm]
      exact hzero.ne
  · -- every entry is from an earlier epoch
    have hlt : s.queryEpoch < s.queryEpoch + 1 := by
      have hlt' := s.queryEpoch.toNat_lt
      have hne : (s.queryEpoch + 1).toNat ≠ 0 := fun h =>
        hwrap (UInt32.toNat_inj.mp (h.trans UInt32.toNat_zero.symm))
      rw [UInt32.toNat_add, UInt32.toNat_one] at hne
      rw [UInt32.lt_iff_toNat_lt, UInt32.toNat_add, UInt32.toNat_one]
      omega
    refine ⟨⟨hwf.lengths, ?_, ?_, ?_, fun h hh => absurd hh (Finset.notMem_empty h)⟩, ?_,
      not_seen_of_old ?_ rfl⟩
    · exact fun m hm => (hwf.dense_le m hm).trans hlt.le
    · exact fun c hc => (hwf.collisions_le c hc).trans hlt.le
    · intro i hi
      exact absurd (hwf.collisions_le _ (List.mem_of_getElem? hi)) (not_le.mpr hlt)
    · exact lt_of_le_of_lt UInt32.zero_le hlt
    · exact fun m hm => (lt_of_le_of_lt (hwf.dense_le m hm) hlt).ne

/-! ## Recording a handle -/

/-- What recording a handle does to a scratch: the handle joins the seen set, and the query and
its results stay. -/
structure Recorded (s s' : CellQueryScratch) (handle : EntityHandle) : Prop where
  wellFormed : s'.WellFormed
  seen : ∀ h, s'.Seen h ↔ s.Seen h ∨ h = handle
  queryEpoch : s'.queryEpoch = s.queryEpoch
  handles : s'.handles = s.handles
  matchingCells : s'.matchingCells = s.matchingCells
  stats : s'.stats = s.stats

/-- An entry read past the end of the old table is one of the zeros it grew by. -/
lemma getElem?_growTo {α : Type} [OfNat α 0] {l : List α} {length i : ℕ} {a : α}
    (h : (growTo l length)[i]? = some a) : l[i]? = some a ∨ a = 0 := by
  rw [growTo, List.getElem?_append] at h
  split_ifs at h
  · exact .inl h
  · exact .inr (List.eq_of_mem_replicate (List.mem_of_getElem? h))

lemma mem_growTo {α : Type} [OfNat α 0] {l : List α} {length : ℕ} {a : α}
    (h : a ∈ growTo l length) : a ∈ l ∨ a = 0 :=
  (List.mem_append.mp h).imp_right List.eq_of_mem_replicate

lemma getElem?_growTo_of_some {α : Type} [OfNat α 0] {l : List α} {length i : ℕ} {a : α}
    (h : l[i]? = some a) : (growTo l length)[i]? = some a := by
  obtain ⟨hlt, _⟩ := List.getElem?_eq_some_iff.mp h
  rw [growTo, List.getElem?_append_left hlt, h]

lemma getElem?_growTo_iff {α : Type} [OfNat α 0] {l : List α} {length i : ℕ} {a : α}
    (ha : a ≠ 0) : (growTo l length)[i]? = some a ↔ l[i]? = some a :=
  ⟨fun h => (getElem?_growTo h).resolve_right ha, getElem?_growTo_of_some⟩

/-- Growing the tables keeps what they say. -/
lemma growTables_spec (hwf : s.WellFormed) (hepoch : 0 < s.queryEpoch) (index : ℕ) :
    (s.growTables index).WellFormed ∧ (∀ h, (s.growTables index).Seen h ↔ s.Seen h) ∧
      index < (s.growTables index).seenDense.length := by
  have hne : s.queryEpoch ≠ 0 := hepoch.ne'
  unfold growTables
  split_ifs with hlen
  · have hsparse : ∀ i : ℕ,
        IsSparse { s with
          seenDense := growTo s.seenDense (index + 1)
          seenCollisions := growTo s.seenCollisions (index + 1) } i ↔ s.IsSparse i := fun i => by
      rw [IsSparse, IsSparse, getElem?_growTo_iff hne]
    refine ⟨⟨?_, ?_, ?_, ?_, ?_⟩, ?_, ?_⟩
    · show (growTo s.seenCollisions (index + 1)).length = (growTo s.seenDense (index + 1)).length
      simp [growTo, hwf.lengths]
    · intro m hm
      rcases mem_growTo hm with hm | rfl
      · exact hwf.dense_le m hm
      · exact UInt32.zero_le
    · intro c hc
      rcases mem_growTo hc with hc | rfl
      · exact hwf.collisions_le c hc
      · exact UInt32.zero_le
    · intro i hi
      have hold := hwf.collided i ((getElem?_growTo_iff hne).mp hi)
      obtain ⟨m, hm, hhigh⟩ := Option.map_eq_some_iff.mp hold
      exact Option.map_eq_some_iff.mpr ⟨m, getElem?_growTo_of_some hm, hhigh⟩
    · intro h hh hlt
      exact getElem?_growTo_of_some (hwf.sparse h hh hlt)
    · intro h
      have hmarker : UInt64.pack s.queryEpoch h.generation ≠ 0 := by
        intro hzero
        have hhigh := UInt64.high_pack s.queryEpoch h.generation
        rw [hzero] at hhigh
        exact hne hhigh.symm
      exact seen_congr (hsparse h.index) Iff.rfl (getElem?_growTo_iff hmarker)
    · show index < (growTo s.seenDense (index + 1)).length
      rw [growTo, List.length_append, List.length_replicate]
      omega
  · exact ⟨hwf, fun h => Iff.rfl, not_le.mp hlen⟩

/-- The sparse set records a handle of a sparse slot. -/
lemma insertSparse_spec (hwf : s.WellFormed) {handle : EntityHandle}
    (hs : s.IsSparse handle.index) :
    ((s.insertSparse handle).1 = true ↔ ¬ s.Seen handle) ∧
      Recorded s (s.insertSparse handle).2 handle := by
  constructor
  · rw [seen_of_isSparse hs, insertSparse, decide_eq_true_iff]
  · refine ⟨⟨hwf.lengths, hwf.dense_le, hwf.collisions_le, hwf.collided, ?_⟩, ?_, rfl, rfl, rfl, rfl⟩
    · intro h hh hlt
      rcases Finset.mem_insert.mp hh with rfl | hh
      · exact hs.resolve_left (not_le.mpr hlt)
      · exact hwf.sparse h hh hlt
    · intro h
      by_cases hh : s.IsSparse h.index
      · rw [seen_of_isSparse hh, seen_of_isSparse (s := (s.insertSparse handle).2) hh]
        exact Finset.mem_insert.trans or_comm
      · rw [seen_of_not_isSparse hh, seen_of_not_isSparse (s := (s.insertSparse handle).2) hh]
        refine ⟨Or.inl, fun hor => hor.resolve_right ?_⟩
        rintro rfl
        exact hh hs

/-- A slot of the current epoch that has not collided holds the one handle met in it. -/
lemma seen_iff_of_high {h : EntityHandle} {previous : UInt64} (hs : ¬ s.IsSparse h.index)
    (hprevious : s.seenDense[h.index]? = some previous) (hhigh : previous.high = s.queryEpoch) :
    s.Seen h ↔ h.generation = previous.low := by
  rw [seen_of_not_isSparse hs, hprevious, Option.some_inj]
  constructor
  · intro heq
    rw [heq, UInt64.low_pack]
  · intro hlow
    rw [hlow, ← hhigh, UInt64.pack_high_low]

/-- The first handle of a slot takes its marker. -/
lemma setMarker_spec (hwf : s.WellFormed) {handle : EntityHandle} {previous : UInt64}
    (hlt : handle.index < maxDenseDedupSlots)
    (hprevious : s.seenDense[handle.index]? = some previous)
    (hhigh : previous.high ≠ s.queryEpoch) :
    ¬ s.Seen handle ∧ Recorded s
      { s with
        seenDense := s.seenDense.set handle.index
          (UInt64.pack s.queryEpoch handle.generation) } handle := by
  have hns : ¬ s.IsSparse handle.index := by
    rintro (hge | hcoll)
    · exact absurd hlt (not_lt.mpr hge)
    · have hold := hwf.collided _ hcoll
      rw [hprevious, Option.map_some, Option.some_inj] at hold
      exact hhigh hold
  have hnot : ∀ h : EntityHandle, h.index = handle.index → ¬ s.Seen h := by
    intro h hindex
    rw [← hindex] at hns hprevious
    rw [seen_of_not_isSparse hns, hprevious, Option.some_inj]
    intro heq
    exact hhigh (heq ▸ UInt64.high_pack _ _)
  have hlen : handle.index < s.seenDense.length := (List.getElem?_eq_some_iff.mp hprevious).1
  refine ⟨hnot handle rfl, ⟨?_, ?_, hwf.collisions_le, ?_, hwf.sparse⟩, ?_, rfl, rfl, rfl, rfl⟩
  · show s.seenCollisions.length = (s.seenDense.set _ _).length
    rw [List.length_set, hwf.lengths]
  · intro m hm
    rcases List.mem_or_eq_of_mem_set hm with hm | rfl
    · exact hwf.dense_le m hm
    · exact (UInt64.high_pack _ _).le
  · intro i hi
    show ((s.seenDense.set handle.index _)[i]?).map UInt64.high = _
    rw [List.getElem?_set]
    split_ifs with hindex
    · rw [Option.map_some, UInt64.high_pack]
    · exact hwf.collided i hi
  · intro h
    by_cases hindex : h.index = handle.index
    · -- the slot holds the new marker and nothing else
      have hns' : ¬ IsSparse { s with
          seenDense := s.seenDense.set handle.index
            (UInt64.pack s.queryEpoch handle.generation) } h.index := by
        rw [hindex]
        exact hns
      rw [seen_of_not_isSparse hns', List.getElem?_set, if_pos hindex.symm, if_pos hlen,
        Option.some_inj]
      constructor
      · intro heq
        refine .inr ?_
        have hgen := congrArg UInt64.low heq
        rw [UInt64.low_pack, UInt64.low_pack] at hgen
        cases h
        cases handle
        exact (EntityHandle.mk.injEq _ _ _ _).mpr ⟨hindex, hgen.symm⟩
      · rintro (hseen | rfl)
        · exact absurd hseen (hnot h hindex)
        · rfl
    · have hne : ¬ h = handle := fun heq => hindex (congrArg EntityHandle.index heq)
      rw [or_iff_left hne]
      refine seen_congr Iff.rfl Iff.rfl ?_
      rw [List.getElem?_set_ne (Ne.symm hindex)]

/-- A slot that collides moves its handle to the sparse set. -/
lemma collide_spec (hwf : s.WellFormed) {index : ℕ} {previous : UInt64}
    (hlt : index < maxDenseDedupSlots) (hprevious : s.seenDense[index]? = some previous)
    (hhigh : previous.high = s.queryEpoch)
    (hcoll : s.seenCollisions[index]? ≠ some s.queryEpoch)
    {s' : CellQueryScratch}
    (hs' : s' = { s with
      seenCollisions := s.seenCollisions.set index s.queryEpoch
      seenSparse := insert ⟨index, previous.low⟩ s.seenSparse }) :
    s'.WellFormed ∧ s'.IsSparse index ∧ ∀ h, s'.Seen h ↔ s.Seen h := by
  subst hs'
  have hlen : index < s.seenCollisions.length := by
    rw [hwf.lengths]
    exact (List.getElem?_eq_some_iff.mp hprevious).1
  have hns : ¬ s.IsSparse index := fun hor => hor.elim (not_le.mpr hlt) hcoll
  have hset : (s.seenCollisions.set index s.queryEpoch)[index]? = some s.queryEpoch := by
    rw [List.getElem?_set_self hlen]
  refine ⟨⟨?_, hwf.dense_le, ?_, ?_, ?_⟩, .inr hset, ?_⟩
  · show (s.seenCollisions.set index s.queryEpoch).length = s.seenDense.length
    rw [List.length_set, hwf.lengths]
  · intro c hc
    rcases List.mem_or_eq_of_mem_set hc with hc | rfl
    · exact hwf.collisions_le c hc
    · exact le_refl _
  · intro i hi
    show (s.seenDense[i]?).map UInt64.high = some s.queryEpoch
    by_cases hindex : index = i
    · rw [← hindex, hprevious, Option.map_some, hhigh]
    · rw [List.getElem?_set_ne hindex] at hi
      exact hwf.collided i hi
  · intro h hh hlt'
    show (s.seenCollisions.set index s.queryEpoch)[h.index]? = some s.queryEpoch
    rcases Finset.mem_insert.mp hh with rfl | hh
    · exact hset
    · have hold := hwf.sparse h hh hlt'
      by_cases hindex : index = h.index
      · rw [← hindex]
        exact hset
      · rw [List.getElem?_set_ne hindex]
        exact hold
  · intro h
    by_cases hindex : h.index = index
    · -- only the handle that was met in the slot is in the sparse set
      have hold : h ∉ s.seenSparse := fun hh =>
        hcoll (hindex ▸ hwf.sparse h hh (hindex ▸ hlt))
      rw [seen_of_isSparse (Or.inr (hindex ▸ hset)),
        seen_iff_of_high (hindex ▸ hns) (hindex ▸ hprevious) hhigh]
      show h ∈ insert _ s.seenSparse ↔ _
      rw [Finset.mem_insert, or_iff_left hold]
      cases h
      subst hindex
      simp only [EntityHandle.mk.injEq, true_and]
    · have hne : h ≠ ⟨index, previous.low⟩ := fun heq =>
        hindex (congrArg EntityHandle.index heq)
      refine seen_congr ?_ (Finset.mem_insert.trans (or_iff_right hne)) Iff.rfl
      unfold IsSparse
      rw [List.getElem?_set_ne (Ne.symm hindex)]

/-- **Recording a handle.**  `insertSeen` answers whether the current query meets the handle for
the first time, and makes it met. -/
theorem insertSeen_spec (hwf : s.WellFormed) (hepoch : 0 < s.queryEpoch) (handle : EntityHandle) :
    ((s.insertSeen handle).1 = true ↔ ¬ s.Seen handle) ∧
      Recorded s (s.insertSeen handle).2 handle := by
  by_cases hmax : handle.index ≥ maxDenseDedupSlots
  · simp only [insertSeen, if_pos hmax]
    exact insertSparse_spec hwf (.inl hmax)
  · have hlt : handle.index < maxDenseDedupSlots := not_le.mp hmax
    obtain ⟨hwf', hseen', hlen⟩ := growTables_spec hwf hepoch handle.index
    have hgrown : (s.growTables handle.index).queryEpoch = s.queryEpoch ∧
        (s.growTables handle.index).handles = s.handles ∧
        (s.growTables handle.index).matchingCells = s.matchingCells ∧
        (s.growTables handle.index).stats = s.stats := by
      unfold growTables
      split_ifs
      · exact ⟨rfl, rfl, rfl, rfl⟩
      · exact ⟨rfl, rfl, rfl, rfl⟩
    simp only [insertSeen, if_neg hmax]
    generalize s.growTables handle.index = t at hwf' hseen' hlen hgrown ⊢
    obtain ⟨hte, hth, htm, hts⟩ := hgrown
    -- what is proved of the grown tables holds of the scratch before
    have hback : ∀ {r : Bool × CellQueryScratch},
        ((r.1 = true ↔ ¬ t.Seen handle) ∧ Recorded t r.2 handle) →
        ((r.1 = true ↔ ¬ s.Seen handle) ∧ Recorded s r.2 handle) := by
      rintro r ⟨hr, hrec⟩
      rw [hseen'] at hr
      refine ⟨hr, hrec.wellFormed, fun h => ?_, hrec.queryEpoch.trans hte,
        hrec.handles.trans hth, hrec.matchingCells.trans htm, hrec.stats.trans hts⟩
      rw [hrec.seen, hseen']
    refine hback ?_
    obtain ⟨previous, hprevious⟩ : ∃ p, t.seenDense[handle.index]? = some p :=
      ⟨_, List.getElem?_eq_getElem hlen⟩
    have hcollget : t.seenCollisions.getD handle.index 0 = t.queryEpoch ↔
        t.seenCollisions[handle.index]? = some t.queryEpoch := by
      have hlen' : handle.index < t.seenCollisions.length := by rw [hwf'.lengths]; exact hlen
      rw [List.getD_eq_getElem?_getD, List.getElem?_eq_getElem hlen', Option.getD_some,
        Option.some_inj]
    have hdget : t.seenDense.getD handle.index 0 = previous := by
      rw [List.getD_eq_getElem?_getD, hprevious, Option.getD_some]
    rw [hdget]
    by_cases hhigh : previous.high = t.queryEpoch
    · rw [if_neg (not_not.mpr hhigh)]
      by_cases hcoll : t.seenCollisions.getD handle.index 0 = t.queryEpoch
      · rw [if_pos hcoll]
        exact insertSparse_spec hwf' (.inr (hcollget.mp hcoll))
      · rw [if_neg hcoll]
        have hns : ¬ t.IsSparse handle.index := fun hor =>
          hor.elim (not_le.mpr hlt) (hcoll ∘ hcollget.mpr)
        have hiff := seen_iff_of_high hns hprevious hhigh
        by_cases hmarker : previous = UInt64.pack t.queryEpoch handle.generation
        · rw [if_pos hmarker]
          have hin : t.Seen handle := by rw [hiff, hmarker, UInt64.low_pack]
          refine ⟨⟨fun hf => absurd hf Bool.false_ne_true, fun hn => absurd hin hn⟩, hwf',
            fun h => ⟨Or.inl, ?_⟩, rfl, rfl, rfl, rfl⟩
          rintro (hh | rfl)
          · exact hh
          · exact hin
        · rw [if_neg hmarker]
          obtain ⟨hwf₂, hsp₂, hseen₂⟩ := collide_spec hwf' hlt hprevious hhigh
            (hcoll ∘ hcollget.mpr) rfl
          obtain ⟨hr, hrec⟩ := insertSparse_spec hwf₂ hsp₂
          rw [hseen₂] at hr
          refine ⟨hr, hrec.wellFormed, fun h => ?_, rfl, rfl, rfl, rfl⟩
          exact (hrec.seen h).trans (or_congr_left (hseen₂ h))
    · rw [if_pos hhigh]
      obtain ⟨hnot, hrec⟩ := setMarker_spec hwf' hlt hprevious hhigh
      exact ⟨⟨fun _ => hnot, fun _ => rfl⟩, hrec⟩

/-! ## Collecting handles -/

/-- Adds a handle to the results unless the query met it before. -/
def collectHandle (s : CellQueryScratch) (handle : EntityHandle) : CellQueryScratch :=
  let (fresh, s) := s.insertSeen handle
  if fresh then { s with handles := s.handles ++ [handle] } else s

/-- The results are the processed handles, each at its first occurrence, and exactly they are
marked as seen. -/
structure Collected (s : CellQueryScratch) (processed : List EntityHandle) : Prop where
  wellFormed : s.WellFormed
  epoch_pos : 0 < s.queryEpoch
  handles : s.handles = processed.eraseDups
  seen : ∀ h, s.Seen h ↔ h ∈ processed

lemma clear_spec (hwf : s.WellFormed) : s.clear.Collected [] := by
  obtain ⟨hwf', hepoch, hseen⟩ := beginQuery_spec hwf
  refine ⟨⟨hwf'.lengths, hwf'.dense_le, hwf'.collisions_le, hwf'.collided, hwf'.sparse⟩, hepoch,
    rfl, fun h => ?_⟩
  exact iff_of_false (hseen h) List.not_mem_nil

/-- One more handle, at its first occurrence or not. -/
lemma eraseDups_concat (processed : List EntityHandle) (handle : EntityHandle) :
    (processed ++ [handle]).eraseDups
      = if handle ∈ processed then processed.eraseDups else processed.eraseDups ++ [handle] := by
  rw [List.eraseDups_append]
  split_ifs with hmem
  · simp [List.removeAll, hmem]
  · simp [List.removeAll, hmem, List.eraseDups_cons]

lemma collectHandle_spec {processed : List EntityHandle} (hs : s.Collected processed)
    (handle : EntityHandle) :
    (s.collectHandle handle).Collected (processed ++ [handle]) ∧
      (s.collectHandle handle).stats = s.stats := by
  obtain ⟨hfresh, hrec⟩ := insertSeen_spec hs.wellFormed hs.epoch_pos handle
  have hseen : ∀ h, (s.insertSeen handle).2.Seen h ↔ h ∈ processed ++ [handle] := fun h => by
    rw [hrec.seen, hs.seen, List.mem_append, List.mem_singleton]
  have hepoch : 0 < (s.insertSeen handle).2.queryEpoch := hrec.queryEpoch ▸ hs.epoch_pos
  rw [hs.seen] at hfresh
  have hresults := eraseDups_concat processed handle
  rw [← hs.handles] at hresults
  have hwf := hrec.wellFormed
  unfold collectHandle
  by_cases hmem : handle ∈ processed
  · have hold : (s.insertSeen handle).1 = false :=
      Bool.eq_false_iff.mpr fun h => hfresh.mp h hmem
    simp only [hold, Bool.false_eq_true, if_false]
    rw [if_pos hmem] at hresults
    exact ⟨⟨hwf, hepoch, hrec.handles.trans hresults.symm, hseen⟩, hrec.stats⟩
  · simp only [hfresh.mpr hmem, if_true]
    rw [if_neg hmem, ← hrec.handles] at hresults
    exact ⟨⟨⟨hwf.lengths, hwf.dense_le, hwf.collisions_le, hwf.collided, hwf.sparse⟩, hepoch,
      hresults.symm, hseen⟩, hrec.stats⟩

/-- The loop over one bucket. -/
lemma foldl_collectHandle_spec {processed : List EntityHandle} (hs : s.Collected processed)
    (handles : List EntityHandle) :
    (handles.foldl collectHandle s).Collected (processed ++ handles) ∧
      (handles.foldl collectHandle s).stats = s.stats := by
  induction handles generalizing s processed with
  | nil =>
      rw [List.append_nil]
      exact ⟨hs, rfl⟩
  | cons handle handles ih =>
      obtain ⟨hstep, hstats⟩ := collectHandle_spec hs handle
      obtain ⟨hrest, hrestStats⟩ := ih hstep
      rw [List.append_assoc, List.singleton_append] at hrest
      exact ⟨hrest, hrestStats.trans hstats⟩

/-- Counters and matching cells play no role in what was collected. -/
lemma Collected.withStats {processed : List EntityHandle} (hs : s.Collected processed)
    (matchingCells : List CellCoord3) (stats : CellQueryStats) :
    Collected { s with matchingCells := matchingCells, stats := stats } processed :=
  ⟨⟨hs.wellFormed.lengths, hs.wellFormed.dense_le, hs.wellFormed.collisions_le,
    hs.wellFormed.collided, hs.wellFormed.sparse⟩, hs.epoch_pos, hs.handles, hs.seen⟩

end CellQueryScratch

/-! ## Queries -/

namespace CellIndex

open CellQueryScratch

/-- Collects the handles of one bucket. -/
def collectCell (index : CellIndex F) (s : CellQueryScratch) (cell : CellCoord3) :
    CellQueryScratch :=
  match index.cells.lookup cell with
  | none => s
  | some handles =>
      handles.foldl collectHandle
        { s with stats := { s.stats with matchedCells := s.stats.matchedCells + 1 } }

/-- The occupied cells in the range, in order: `matching_cells` of the occupied-cell scan. -/
def occupiedInRange (index : CellIndex F) (min max : CellCoord3) : List CellCoord3 :=
  index.cells.sortedKeys.filter fun cell => cellInRange cell min max

/-- The query between two corners: probes every cell of the range, or scans the occupied cells
when the range has more cells than the index. -/
def queryRangeInto (index : CellIndex F) (min max : CellCoord3) (s : CellQueryScratch) :
    CellQueryScratch :=
  let s := s.clear
  let gridCells := queryCellVolume min max
  let s :=
    if gridCells ≤ index.cells.size then
      (cellRange min max).foldl index.collectCell
        { s with stats := { s.stats with strategy := .grid, gridCellsProbed := gridCells } }
    else
      let matchingCells := index.occupiedInRange min max
      matchingCells.foldl index.collectCell
        { s with
          matchingCells := matchingCells
          stats := { s.stats with
            strategy := .occupiedCells
            occupiedCellsScanned := index.cells.size } }
  { s with stats := { s.stats with candidateHandles := s.handles.length } }

section Scalar

variable [Scalar F]

/-- Queries candidate handles overlapping an AABB using caller scratch. -/
def queryAabbInto (index : CellIndex F) (aabb : Aabb3 F) (s : CellQueryScratch) :
    CellQueryScratch :=
  index.queryRangeInto (index.grid.cellAt aabb.min) (index.grid.cellAt aabb.max) s

/-- Queries candidate handles inside cells touched by a sphere using caller scratch. -/
def querySphereInto (index : CellIndex F) (center : Position3 F) (radius : F)
    (s : CellQueryScratch) : CellQueryScratch :=
  index.queryAabbInto ((Bounds.sphere radius).toAabb center) s

/-- Queries candidate handles overlapping an AABB. -/
def queryAabb (index : CellIndex F) (aabb : Aabb3 F) : List EntityHandle :=
  (index.queryAabbInto aabb .new).handles

end Scalar

/-- The handles of the cells between two corners, each at its first occurrence: what a query
returns, whatever its strategy and scratch. -/
def candidates (index : CellIndex F) (min max : CellCoord3) : List EntityHandle :=
  ((cellRange min max).flatMap index.handlesInCell).eraseDups

/-- The loop over cells collects their buckets. -/
lemma foldl_collectCell_spec (index : CellIndex F) {s : CellQueryScratch}
    {processed : List EntityHandle} (hs : s.Collected processed) (cells : List CellCoord3) :
    (cells.foldl index.collectCell s).Collected
      (processed ++ cells.flatMap index.handlesInCell) := by
  induction cells generalizing s processed with
  | nil =>
      rw [List.flatMap_nil, List.append_nil]
      exact hs
  | cons cell cells ih =>
      have hstep : (index.collectCell s cell).Collected
          (processed ++ index.handlesInCell cell) := by
        unfold collectCell handlesInCell bucket
        cases index.cells.lookup cell with
        | none =>
            rw [Option.getD_none, List.append_nil]
            exact hs
        | some handles =>
            exact (foldl_collectHandle_spec (hs.withStats _ _) handles).1
      have hrest := ih hstep
      rw [List.append_assoc, ← List.flatMap_cons] at hrest
      exact hrest

/-- Both strategies visit the occupied cells of the range, in ascending order. -/
lemma filter_cellRange (index : CellIndex F) (min max : CellCoord3) :
    ((cellRange min max).filter fun cell => cell ∈ index.cells)
      = index.occupiedInRange min max := by
  have hsorted := (pairwise_cellRange min max).filter fun cell => decide (cell ∈ index.cells)
  have hsorted' := (Finmap.pairwise_sortedKeys index.cells).filter fun cell =>
    cellInRange cell min max
  refine hsorted.eq_of_mem_iff hsorted' fun cell => ?_
  rw [occupiedInRange, List.mem_filter, List.mem_filter, mem_cellRange, decide_eq_true_iff,
    Finmap.mem_sortedKeys, Finmap.mem_keys]
  exact and_comm

/-- Cells without a bucket contribute nothing. -/
lemma flatMap_occupiedInRange (index : CellIndex F) (min max : CellCoord3) :
    (index.occupiedInRange min max).flatMap index.handlesInCell
      = (cellRange min max).flatMap index.handlesInCell := by
  rw [← filter_cellRange]
  induction cellRange min max with
  | nil => rfl
  | cons cell cells ih =>
      by_cases hcell : cell ∈ index.cells
      · rw [List.filter_cons, if_pos (decide_eq_true hcell), List.flatMap_cons,
          List.flatMap_cons, ih]
      · have hempty : index.handlesInCell cell = [] := by
          rw [handlesInCell, bucket, Finmap.lookup_eq_none.mpr hcell, Option.getD_none]
        rw [List.filter_cons, if_neg (by simpa using hcell), List.flatMap_cons, hempty,
          List.nil_append, ih]

/-- **A query returns the candidates of its range,** whatever the scratch was used for before,
and leaves scratch that the next query can use. -/
theorem queryRangeInto_spec (index : CellIndex F) (min max : CellCoord3) {s : CellQueryScratch}
    (hs : s.WellFormed) :
    (index.queryRangeInto min max s).WellFormed ∧
      (index.queryRangeInto min max s).handles = index.candidates min max := by
  have hclear := clear_spec hs
  unfold queryRangeInto
  dsimp only
  split_ifs
  · have hrun := foldl_collectCell_spec index (hclear.withStats s.clear.matchingCells
      { s.clear.stats with strategy := .grid, gridCellsProbed := queryCellVolume min max })
      (cellRange min max)
    exact ⟨(hrun.withStats _ _).wellFormed, hrun.handles⟩
  · have hrun := foldl_collectCell_spec index
      (hclear.withStats (index.occupiedInRange min max)
        { s.clear.stats with
          strategy := .occupiedCells
          occupiedCellsScanned := index.cells.size })
      (index.occupiedInRange min max)
    refine ⟨(hrun.withStats _ _).wellFormed, hrun.handles.trans ?_⟩
    rw [List.nil_append, flatMap_occupiedInRange]
    rfl

end CellIndex

end SectorSync
