import SectorSync.Core.StaleHandles
import SectorSync.Runtime.LoadSampler
import SectorSync.Runtime.MovedCells

/-!
# Load samples in reused storage

`sample_all_into` of the runtime crate overwrites the samples, the cell lists, the occupancy list and
the subscriber map of its scratch in place.  `sampleAllInto_eq` says that nothing of the scratch's
history reaches the samples it returns: they are those of `sampleAll`.

Where each index has the entities of its station in exactly their cells, the samples are `Exact`:
the counts of a cell join the index's bucket with the station's records, and the bucket holds just
the records that overlap the cell (`perm_filterMap_handlesInCell`).
-/

namespace SectorSync

open Buckets

variable {F : Type}

/-! ## Sampling in place -/

/-- Occupancy of one cell. -/
structure CellOccupancy where
  cell : CellCoord3
  /-- Number of indexed entity handles in the cell. -/
  entities : ℕ
  deriving DecidableEq

/-- Writes occupancy counts, in the order of the cells, into a cleared buffer. -/
def CellIndex.cellOccupancyInto (index : CellIndex F) (out : List CellOccupancy) :
    List CellOccupancy :=
  out.take 0 ++ index.cells.sortedKeys.map fun cell => ⟨cell, (index.handlesInCell cell).length⟩

/-- `StationLoadSample::default`. -/
def StationLoadSample.default : StationLoadSample := ⟨⟨0⟩, 0, 0, 0, 0, 0, 0, []⟩

/-- Caller-owned reusable storage for periodic station load sampling. -/
structure StationLoadSamplerScratch where
  subscribersByStation : HashMap StationId ℕ
  occupancy : List CellOccupancy
  samples : List StationLoadSample

namespace StationLoadSampler

variable (config : StationLoadSamplerConfig)

/-- Samples the cells of an occupancy list. -/
def pushCells (station : Station F) (index : CellIndex F) (occupancy : List CellOccupancy)
    (sample : StationLoadSample) : StationLoadSample :=
  occupancy.foldl (fun sample entry =>
    { sample with cells := sample.cells ++ [sampleCell config station index entry.cell] }) sample

/-- Overwrites one sample. -/
def sampleStationInto (station : Station F) (index : Option (CellIndex F))
    (queuedEvents subscribers : ℕ) (occupancy : List CellOccupancy) (sample : StationLoadSample) :
    List CellOccupancy × StationLoadSample :=
  let (ownedEntities, ghostEntities) := countStationRoles station
  let sample := { sample with cells := sample.cells.take 0 }
  let (occupancy, sample) :=
    match index with
    | some index =>
        let occupancy := index.cellOccupancyInto occupancy
        (occupancy, pushCells config station index occupancy sample)
    | none => (occupancy.take 0, sample)
  (occupancy,
    { sample with
      stationId := station.config.stationId
      ownedEntities := ownedEntities
      ghostEntities := ghostEntities
      subscribers := subscribers
      queuedEvents := queuedEvents
      estimatedBytes :=
        estimateStationBytes config ownedEntities ghostEntities subscribers queuedEvents
      tickCostUnits :=
        estimateTickCost config ownedEntities ghostEntities sample.cells.length queuedEvents })

/-- Overwrites the samples of stations, one after the other. -/
def sampleEachInto (indexes : StationIndexSet F) (router : EventRouter)
    (subscribers : HashMap StationId ℕ) :
    List (Station F) → List StationLoadSample → List CellOccupancy →
      List StationLoadSample × List CellOccupancy
  | station :: stations, sample :: samples, occupancy =>
      let (occupancy, sample) :=
        sampleStationInto config station (indexes.get station.id)
          (((router.queues.lookup station.id).map EventQueues.len).getD 0)
          ((subscribers.lookup station.id).getD 0) occupancy sample
      let (samples, occupancy) :=
        sampleEachInto indexes router subscribers stations samples occupancy
      (sample :: samples, occupancy)
  | _, samples, occupancy => (samples, occupancy)

/-- Samples every station into caller-owned storage and returns its active prefix. -/
def sampleAllInto (stations : StationSet F) (indexes : StationIndexSet F) (router : EventRouter)
    (subscriberCounts : List (StationId × ℕ)) (scratch : StationLoadSamplerScratch) :
    List StationLoadSample × StationLoadSamplerScratch :=
  let subscribers := subscribersByStation subscriberCounts
  let stationCount := stations.stations.length
  let samples :=
    if scratch.samples.length < stationCount then
      scratch.samples ++ List.replicate (stationCount - scratch.samples.length) .default
    else scratch.samples
  let (active, occupancy) :=
    sampleEachInto config indexes router subscribers stations.stations (samples.take stationCount)
      scratch.occupancy
  (active, ⟨subscribers, occupancy, active ++ samples.drop stationCount⟩)

variable {config}

lemma pushCells_eq (station : Station F) (index : CellIndex F) (occupancy : List CellOccupancy)
    (sample : StationLoadSample) :
    pushCells config station index occupancy sample
      = { sample with
          cells := sample.cells
            ++ occupancy.map fun entry => sampleCell config station index entry.cell } := by
  induction occupancy generalizing sample with
  | nil =>
      rw [List.map_nil, List.append_nil]
      rfl
  | cons entry occupancy ih =>
      rw [pushCells, List.foldl_cons, ← pushCells, ih, List.map_cons, List.append_assoc,
        List.singleton_append]

/-- **An overwritten sample** keeps nothing of what it was. -/
lemma sampleStationInto_eq (station : Station F) (index : Option (CellIndex F))
    (queuedEvents subscribers : ℕ) (occupancy : List CellOccupancy) (sample : StationLoadSample) :
    (sampleStationInto config station index queuedEvents subscribers occupancy sample).2
      = sampleStation config station index queuedEvents subscribers := by
  cases index with
  | none => rfl
  | some index =>
      simp only [sampleStationInto, sampleStation, pushCells_eq, CellIndex.cellOccupancyInto,
        List.take_zero, List.nil_append, List.map_map, Option.elim_some]
      rfl

lemma sampleEachInto_eq (indexes : StationIndexSet F) (router : EventRouter)
    (subscribers : HashMap StationId ℕ) {stations : List (Station F)}
    {samples : List StationLoadSample} (hlen : samples.length = stations.length)
    (occupancy : List CellOccupancy) :
    (sampleEachInto config indexes router subscribers stations samples occupancy).1
      = stations.map fun station =>
        sampleStation config station (indexes.get station.id)
          (((router.queues.lookup station.id).map EventQueues.len).getD 0)
          ((subscribers.lookup station.id).getD 0) := by
  induction stations generalizing samples occupancy with
  | nil =>
      rw [List.length_nil, List.length_eq_zero_iff] at hlen
      rw [hlen]
      rfl
  | cons station stations ih =>
      cases samples with
      | nil => simp at hlen
      | cons sample samples =>
          simp only [sampleEachInto, sampleStationInto_eq, List.map_cons]
          rw [ih (by simpa using hlen)]

/-- **Reused storage changes nothing** about the samples. -/
theorem sampleAllInto_eq (stations : StationSet F) (indexes : StationIndexSet F)
    (router : EventRouter) (subscriberCounts : List (StationId × ℕ))
    (scratch : StationLoadSamplerScratch) :
    (sampleAllInto config stations indexes router subscriberCounts scratch).1
      = sampleAll config stations indexes router subscriberCounts := by
  refine sampleEachInto_eq indexes router (subscribersByStation subscriberCounts) ?_
    scratch.occupancy
  rw [List.length_take]
  split_ifs with hshort
  · rw [List.length_append, List.length_replicate]
    omega
  · omega

/-! ## What is counted -/

/-- Records are counted by role, each counter up to the largest. -/
lemma foldl_countRole (records : List (EntityRecord F)) (owned ghosts : ℕ) :
    records.foldl countRole (min owned usizeMax, min ghosts usizeMax)
      = (min (owned + records.countP fun r => r.isOwned) usizeMax,
        min (ghosts + records.countP fun r => !r.isOwned) usizeMax) := by
  induction records generalizing owned ghosts with
  | nil => rfl
  | cons record records ih =>
      rw [List.foldl_cons, countRole]
      cases howned : record.isOwned with
      | true =>
          rw [if_pos rfl, usizeSaturatingAdd_min, ih, List.countP_cons_of_pos howned,
            List.countP_cons_of_neg (by simp [howned]), Nat.add_assoc, Nat.add_comm 1]
      | false =>
          rw [if_neg (by simp), usizeSaturatingAdd_min, ih,
            List.countP_cons_of_neg (by simp [howned]),
            List.countP_cons_of_pos (by simp [howned]), Nat.add_assoc, Nat.add_comm 1]

lemma foldl_countRole_zero (records : List (EntityRecord F)) :
    records.foldl countRole (0, 0)
      = (min (records.countP fun r => r.isOwned) usizeMax,
        min (records.countP fun r => !r.isOwned) usizeMax) := by
  have hfold := foldl_countRole records 0 0
  rwa [Nat.zero_min, Nat.zero_add, Nat.zero_add] at hfold

/-- The entries of one station in a list of subscriber counts, added up. -/
def subscribersOf (subscriberCounts : List (StationId × ℕ)) (stationId : StationId) : ℕ :=
  ((subscriberCounts.filter fun entry => entry.1 = stationId).map Prod.snd).sum

/-- The subscribers of a station are the sum of its entries, up to the largest count. -/
lemma lookup_subscribersByStation (subscriberCounts : List (StationId × ℕ))
    (stationId : StationId) :
    ((subscribersByStation subscriberCounts).lookup stationId).getD 0
      = min (subscribersOf subscriberCounts stationId) usizeMax := by
  suffices h : ∀ (subscribers : HashMap StationId ℕ) (n : ℕ),
      (subscribers.lookup stationId).getD 0 = min n usizeMax →
      ((subscriberCounts.foldl (fun (subscribers : HashMap StationId ℕ) (entry : StationId × ℕ) =>
          subscribers.insert entry.1
            (usizeSaturatingAdd ((subscribers.lookup entry.1).getD 0) entry.2))
          subscribers).lookup stationId).getD 0
        = min (n + subscribersOf subscriberCounts stationId) usizeMax by
    have hsum := h ∅ 0 (by rw [Finmap.lookup_empty]; rfl)
    rwa [Nat.zero_add] at hsum
  induction subscriberCounts with
  | nil =>
      intro subscribers n hn
      exact hn
  | cons entry entries ih =>
      intro subscribers n hn
      rw [List.foldl_cons]
      by_cases hid : entry.1 = stationId
      · have hsum : subscribersOf (entry :: entries) stationId
            = entry.2 + subscribersOf entries stationId := by
          simp [subscribersOf, hid]
        rw [hsum, ← Nat.add_assoc]
        refine ih _ (n + entry.2) ?_
        rw [hid, Finmap.lookup_insert, Option.getD_some, hn, usizeSaturatingAdd_min]
      · have hsum : subscribersOf (entry :: entries) stationId
            = subscribersOf entries stationId := by
          simp [subscribersOf, hid]
        rw [hsum]
        refine ih _ n ?_
        rw [Finmap.lookup_insert_of_ne _ (Ne.symm hid), hn]

end StationLoadSampler

/-! ## Buckets and records -/

namespace Station

variable {s : Station F}

/-- The record of a slot. -/
def slotRecord (s : Station F) (i : ℕ) : Option (EntityRecord F) := (s.records[i]?).join

lemma iter_eq_filterMap : s.iter = (List.range s.records.length).filterMap s.slotRecord := by
  have hslots : s.records = (List.range s.records.length).map s.slotRecord := by
    refine List.ext_getElem (by simp) fun i hi _ => ?_
    simp [slotRecord, hi]
  conv_lhs => rw [iter, hslots, List.filterMap_map]
  rfl

/-- A handle that reads a record reads the record of its slot. -/
lemma get_eq_slotRecord {h : EntityHandle} {r : EntityRecord F} (hget : s.get h = some r) :
    s.get h = s.slotRecord h.index := by
  rw [hget, slotRecord, (get_eq_some.mp hget).2]
  rfl

lemma index_injective {h h' : EntityHandle} {r r' : EntityRecord F} (hget : s.get h = some r)
    (hget' : s.get h' = some r') (hindex : h.index = h'.index) : h = h' := by
  have hgen := (get_eq_some.mp hget).1
  rw [hindex, (get_eq_some.mp hget').1, Option.some_inj] at hgen
  cases h
  cases h'
  exact (EntityHandle.mk.injEq _ _ _ _).mpr ⟨hindex, hgen.symm⟩

/-- A record in a slot is read by a handle. -/
lemma exists_get_of_slotRecord (hlen : s.generations.length = s.records.length) {i : ℕ}
    {r : EntityRecord F} (h : s.slotRecord i = some r) :
    ∃ handle, handle.index = i ∧ s.get handle = some r := by
  rw [slotRecord, Option.join_eq_some_iff] at h
  have hlt : i < s.generations.length := hlen ▸ (List.getElem?_eq_some_iff.mp h).1
  exact ⟨⟨i, s.generations[i]⟩, rfl, get_eq_some.mpr ⟨List.getElem?_eq_getElem hlt, h⟩⟩

lemma mem_iter_iff (hlen : s.generations.length = s.records.length) {r : EntityRecord F} :
    r ∈ s.iter ↔ ∃ handle, s.get handle = some r := by
  rw [iter_eq_filterMap, List.mem_filterMap]
  constructor
  · rintro ⟨i, -, hslot⟩
    obtain ⟨handle, -, hget⟩ := exists_get_of_slotRecord hlen hslot
    exact ⟨handle, hget⟩
  · rintro ⟨handle, hget⟩
    refine ⟨handle.index, ?_, (get_eq_slotRecord hget).symm.trans hget⟩
    exact List.mem_range.mpr (List.getElem?_eq_some_iff.mp (get_eq_some.mp hget).2).1

/-- Every slot of a reachable station has a generation. -/
lemma Reachable.lengths (hs : s.Reachable) : s.generations.length = s.records.length := by
  have hlen := hs.wf_slots.lengths
  rwa [slots, List.length_map] at hlen

end Station

namespace CellIndex

variable [Scalar F] {index : CellIndex F} {s : Station F}

/-- Each live entity is indexed at exactly its cells, and nothing else is indexed.  A station
without an index has no entity. -/
def Covers (index : Option (CellIndex F)) (s : Station F) : Prop :=
  match index with
  | some index => index.Coherent s ∧ index.Exact s
  | none => ∀ h, s.get h = none

/-- The cells of a record. -/
def cellsOf (index : CellIndex F) (r : EntityRecord F) : List CellCoord3 :=
  index.grid.cellsForBounds r.position r.bounds

/-- The bucket of a cell has just the handles of the records that overlap it. -/
lemma Coherent.mem_handlesInCell (h : index.Coherent s) (hexact : index.Exact s)
    {handle : EntityHandle} {c : CellCoord3} :
    handle ∈ index.handlesInCell c ↔ ∃ r, s.get handle = some r ∧ c ∈ index.cellsOf r := by
  have hmember : handle ∈ index.handlesInCell c ↔ c ∈ index.membership handle := by
    rw [← List.count_pos_iff, h.represents.count]
    split_ifs with hc
    · exact iff_of_true Nat.one_pos hc
    · exact iff_of_false (Nat.lt_irrefl 0) hc
  rw [hmember, membership]
  constructor
  · intro hc
    cases hcells : index.cellsForHandle handle with
    | none =>
        rw [hcells] at hc
        exact absurd hc List.not_mem_nil
    | some cells =>
        obtain ⟨r, hget⟩ := Option.isSome_iff_exists.mp (hexact handle cells hcells)
        rw [h.cellsForHandle handle r hget] at hc
        exact ⟨r, hget, hc⟩
  · rintro ⟨r, hget, hc⟩
    rw [h.cellsForHandle handle r hget]
    exact hc

lemma Coherent.nodup_handlesInCell (h : index.Coherent s) (c : CellCoord3) :
    (index.handlesInCell c).Nodup := by
  refine List.nodup_iff_count_le_one.mpr fun handle => ?_
  rw [h.represents.count]
  split_ifs
  · exact le_refl 1
  · exact Nat.zero_le 1

/-- **A bucket joined with the records** gives the records that overlap its cell. -/
lemma Coherent.perm_filterMap_handlesInCell (h : index.Coherent s) (hexact : index.Exact s)
    (hlen : s.generations.length = s.records.length) (c : CellCoord3) :
    ((index.handlesInCell c).filterMap s.get).Perm
      (s.iter.filter fun r => c ∈ index.cellsOf r) := by
  -- both sides list slots: those of the bucket, and those whose record overlaps the cell
  have hbucket : (index.handlesInCell c).filterMap s.get
      = ((index.handlesInCell c).map EntityHandle.index).filterMap s.slotRecord := by
    rw [List.filterMap_map]
    refine List.filterMap_congr fun handle hmem => ?_
    obtain ⟨r, hget, -⟩ := (h.mem_handlesInCell hexact).mp hmem
    exact Station.get_eq_slotRecord hget
  have hrecords : (s.iter.filter fun r => c ∈ index.cellsOf r)
      = ((List.range s.records.length).filter fun i =>
          (s.slotRecord i).any fun r => c ∈ index.cellsOf r).filterMap s.slotRecord := by
    rw [Station.iter_eq_filterMap, List.filter_filterMap, List.filterMap_filter]
    refine List.filterMap_congr fun i _ => ?_
    cases s.slotRecord i with
    | none => rfl
    | some r => simp [Option.filter]
  rw [hbucket, hrecords]
  refine List.Perm.filterMap _ ((List.perm_ext_iff_of_nodup ?_ ?_).mpr fun i => ?_)
  · refine (h.nodup_handlesInCell c).map_on fun handle hmem handle' hmem' hindex => ?_
    obtain ⟨r, hget, -⟩ := (h.mem_handlesInCell hexact).mp hmem
    obtain ⟨r', hget', -⟩ := (h.mem_handlesInCell hexact).mp hmem'
    exact Station.index_injective hget hget' hindex
  · exact List.nodup_range.filter _
  · rw [List.mem_map, List.mem_filter, List.mem_range, Option.any_eq_true]
    constructor
    · rintro ⟨handle, hmem, rfl⟩
      obtain ⟨r, hget, hc⟩ := (h.mem_handlesInCell hexact).mp hmem
      refine ⟨(List.getElem?_eq_some_iff.mp (Station.get_eq_some.mp hget).2).1, r, ?_,
        by simpa using hc⟩
      exact (Station.get_eq_slotRecord hget).symm.trans hget
    · rintro ⟨-, r, hslot, hc⟩
      obtain ⟨handle, rfl, hget⟩ := Station.exists_get_of_slotRecord hlen hslot
      exact ⟨handle, (h.mem_handlesInCell hexact).mpr ⟨r, hget, by simpa using hc⟩, rfl⟩

/-- The occupied cells are those that some record overlaps. -/
lemma Coherent.mem_keys_iff (h : index.Coherent s) (hexact : index.Exact s)
    (hlen : s.generations.length = s.records.length) {c : CellCoord3} :
    c ∈ index.cells.keys ↔ ∃ r ∈ s.iter, c ∈ index.cellsOf r := by
  have hbucket : c ∈ index.cells.keys ↔ index.handlesInCell c ≠ [] := by
    rw [Finmap.mem_keys_iff_lookup, handlesInCell, bucket]
    cases hlookup : index.cells.lookup c with
    | none => simp
    | some handles => simpa using h.represents.occupied c handles hlookup
  rw [hbucket, ne_eq, List.eq_nil_iff_forall_not_mem, not_forall_not]
  constructor
  · rintro ⟨handle, hmem⟩
    obtain ⟨r, hget, hc⟩ := (h.mem_handlesInCell hexact).mp hmem
    exact ⟨r, (Station.mem_iter_iff hlen).mpr ⟨handle, hget⟩, hc⟩
  · rintro ⟨r, hr, hc⟩
    obtain ⟨handle, hget⟩ := (Station.mem_iter_iff hlen).mp hr
    exact ⟨handle, (h.mem_handlesInCell hexact).mpr ⟨r, hget, hc⟩⟩

end CellIndex

/-! ## Exact samples -/

/-- The records of a station that a cell sample counts: those that overlap the cell. -/
def CellLoadSample.Counts [Scalar F] (sample : CellLoadSample) (index : CellIndex F)
    (s : Station F) : Prop :=
  sample.ownedEntities
      = min (s.iter.countP fun r => r.isOwned && decide (sample.cell ∈ index.cellsOf r)) usizeMax
    ∧ sample.ghostEntities
      = min (s.iter.countP fun r => !r.isOwned && decide (sample.cell ∈ index.cellsOf r)) usizeMax

/-- A sample that says what is in its station, for a station with an index and one without. -/
structure StationLoadSample.Exact [Scalar F] (sample : StationLoadSample)
    (index : Option (CellIndex F)) (s : Station F) (subscribers : ℕ) : Prop where
  stationId : sample.stationId = s.id
  ownedEntities : sample.ownedEntities = min (s.iter.countP fun r => r.isOwned) usizeMax
  ghostEntities : sample.ghostEntities = min (s.iter.countP fun r => !r.isOwned) usizeMax
  subscribers : sample.subscribers = min subscribers usizeMax
  ascending : sample.cells.Pairwise fun left right => left.cell < right.cell
  occupied : ∀ c, (∃ cell ∈ sample.cells, cell.cell = c)
    ↔ ∃ r ∈ s.iter, ∃ found ∈ index, c ∈ found.cellsOf r
  counts : ∀ cell ∈ sample.cells, ∃ found ∈ index, cell.Counts found s

namespace StationLoadSampler

variable [Scalar F] {config : StationLoadSamplerConfig}

/-- The sample of a cell counts the records that overlap it. -/
lemma counts_sampleCell {index : CellIndex F} {s : Station F} (h : index.Coherent s)
    (hexact : index.Exact s) (hlen : s.generations.length = s.records.length) (c : CellCoord3) :
    (sampleCell config s index c).Counts index s := by
  have hperm := h.perm_filterMap_handlesInCell hexact hlen c
  constructor
  · simp only [sampleCell, foldl_countRole_zero, hperm.countP_eq, List.countP_filter]
  · simp only [sampleCell, foldl_countRole_zero, hperm.countP_eq, List.countP_filter]

/-- **A sampled station.** -/
lemma exact_sampleStation {index : Option (CellIndex F)} {s : Station F} (hs : s.Reachable)
    (h : CellIndex.Covers index s) (queuedEvents subscribers : ℕ) :
    (sampleStation config s index queuedEvents (min subscribers usizeMax)).Exact index s
      subscribers := by
  have hroles : countStationRoles s = (min (s.iter.countP fun r => r.isOwned) usizeMax,
      min (s.iter.countP fun r => !r.isOwned) usizeMax) := foldl_countRole_zero s.iter
  refine ⟨rfl, congrArg Prod.fst hroles, congrArg Prod.snd hroles, rfl, ?_, ?_, ?_⟩
  · cases index with
    | none => exact List.Pairwise.nil
    | some index =>
        exact List.pairwise_map.mpr (Finmap.pairwise_sortedKeys index.cells)
  · intro c
    cases index with
    | none =>
        refine iff_of_false (by simp [sampleStation]) ?_
        rintro ⟨r, hr, found, hfound, -⟩
        cases hfound
    | some index =>
        obtain ⟨hcoherent, hexact⟩ := h
        have hcells : (∃ cell ∈ (sampleStation config s (some index) queuedEvents
            (min subscribers usizeMax)).cells, cell.cell = c) ↔ c ∈ index.cells.keys := by
          have hmap : (sampleStation config s (some index) queuedEvents
              (min subscribers usizeMax)).cells.map (·.cell) = index.cells.sortedKeys :=
            map_cell_sampleStation s index queuedEvents _
          rw [← Finmap.mem_sortedKeys, ← hmap, List.mem_map]
        rw [hcells, hcoherent.mem_keys_iff hexact hs.lengths]
        simp
  · intro cell hcell
    cases index with
    | none => exact absurd hcell List.not_mem_nil
    | some index =>
        obtain ⟨hcoherent, hexact⟩ := h
        obtain ⟨c, -, rfl⟩ := List.mem_map.mp hcell
        exact ⟨index, rfl, counts_sampleCell hcoherent hexact hs.lengths c⟩

/-- **Load samples are exact and do not depend on reuse.** -/
theorem load_samples_exact (config : StationLoadSamplerConfig) (stations : StationSet F)
    (indexes : StationIndexSet F) (router : EventRouter) (subscriberCounts : List (StationId × ℕ))
    (hreachable : ∀ s ∈ stations.stations, s.Reachable)
    (hcovers : ∀ s ∈ stations.stations, CellIndex.Covers (indexes.get s.id) s)
    (scratch scratch' : StationLoadSamplerScratch) :
    let samples := (sampleAllInto config stations indexes router subscriberCounts scratch).1
    List.Forall₂ (fun s sample =>
        sample.Exact (indexes.get s.id) s (subscribersOf subscriberCounts s.id))
      stations.stations samples
      ∧ samples = (sampleAllInto config stations indexes router subscriberCounts scratch').1 := by
  intro samples
  have hsamples : samples = sampleAll config stations indexes router subscriberCounts :=
    sampleAllInto_eq stations indexes router subscriberCounts scratch
  refine ⟨?_, hsamples.trans
    (sampleAllInto_eq stations indexes router subscriberCounts scratch').symm⟩
  rw [hsamples, sampleAll, List.forall₂_map_right_iff, List.forall₂_same]
  intro s hs
  rw [lookup_subscribersByStation]
  exact exact_sampleStation (hreachable s hs) (hcovers s hs) _ _

/-- The index of the station with an entity; the empty station has none. -/
def wideIndexes : StationIndexSet ℚ := StationIndexSet.new.insert ⟨1⟩ wideIndex

lemma reachable_wideAndEmpty : ∀ s ∈ wideAndEmpty.stations, s.Reachable := by
  intro s hs
  rcases List.mem_pair.mp (show s ∈ [wideStation, .new (configWithStation 2)] from hs) with
    rfl | rfl
  · exact .step (.new (configWithStation 1))
      (.op (.spawnOwned ⟨7⟩ ⟨10, 0, 0⟩ (.aabb ⟨5, 1, 1⟩) ⟨0⟩))
  · exact .new _

lemma covers_wideIndexes :
    ∀ s ∈ wideAndEmpty.stations, CellIndex.Covers (wideIndexes.get s.id) s := by
  intro s hs
  rcases List.mem_pair.mp (show s ∈ [wideStation, .new (configWithStation 2)] from hs) with
    rfl | rfl
  · refine ⟨coherent_wideIndex, fun h cells hcells => ?_⟩
    have hindex := CellIndex.upsert_spec (CellIndex.represents_new (F := ℚ) ⟨10⟩) ⟨0, 0⟩
      ⟨10, 0, 0⟩ (.aabb ⟨5, 1, 1⟩)
    rw [show wideIndex.cellsForHandle h = _ from hindex.cellsForHandle h] at hcells
    split_ifs at hcells with hh
    · rw [hh]
      rfl
    · cases hcells
  · intro h
    cases hget : (Station.new (configWithStation 2) : Station ℚ).get h with
    | none => rfl
    | some r => exact absurd (Station.get_eq_some.mp hget).1 (by simp [Station.new])

/-- Two entries for station 1 and none for station 2, first in fresh and then in used storage. -/
theorem load_samples_exact_wideEntity :
    let config : StationLoadSamplerConfig := ⟨48, 16, 32, 2, 1, 1, 1⟩
    let router := (EventRouter.new .default).registerStations wideAndEmpty
    let samples :=
      (sampleAllInto config wideAndEmpty wideIndexes router [(⟨1⟩, 3), (⟨1⟩, 4)] ⟨∅, [], []⟩).1
    List.Forall₂ (fun s sample =>
        sample.Exact (wideIndexes.get s.id) s (subscribersOf [(⟨1⟩, 3), (⟨1⟩, 4)] s.id))
      wideAndEmpty.stations samples
      ∧ samples = (sampleAllInto config wideAndEmpty wideIndexes router [(⟨1⟩, 3), (⟨1⟩, 4)]
        ⟨∅, [⟨⟨9, 9, 9⟩, 5⟩], samples ++ samples⟩).1 :=
  load_samples_exact ⟨48, 16, 32, 2, 1, 1, 1⟩ wideAndEmpty wideIndexes _ [(⟨1⟩, 3), (⟨1⟩, 4)]
    reachable_wideAndEmpty covers_wideIndexes ⟨∅, [], []⟩ ⟨∅, [⟨⟨9, 9, 9⟩, 5⟩], _⟩

end StationLoadSampler

end SectorSync
