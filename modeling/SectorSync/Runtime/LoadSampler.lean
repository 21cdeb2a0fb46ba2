import SectorSync.Core.Hotspot
import SectorSync.Core.SpatialIndex
import SectorSync.Runtime.EventRouter

/-!
# Station indexes and load samples

`StationIndexSet` of the runtime crate, which finds an index as `StationSet` finds a station, and
`StationLoadSampler`, which derives the samples of a split pass from stations, indexes, the event
router and the subscriber counts.  The cells of a sample are the occupied cells of the station's
index (`map_cell_sampleStation`).
-/

namespace SectorSync

open Machine

variable {F : Type}

/-- Station-local spatial indexes keyed by station id. -/
structure StationIndexSet (F : Type) where
  indexes : List (StationId × CellIndex F)
  positions : HashMap StationId ℕ

namespace StationIndexSet

/-- An empty collection. -/
def new : StationIndexSet F := ⟨[], ∅⟩

/-- The position of the index of a station. -/
def position (set : StationIndexSet F) (stationId : StationId) : Option ℕ :=
  if set.positions.size = 0 then Finmap.findPosition Prod.fst set.indexes stationId
  else set.positions.lookup stationId

/-- Starts indexing when the collection reaches the threshold. -/
def activateLookupFor (set : StationIndexSet F) (newLen : ℕ) : StationIndexSet F :=
  if newLen < stationLookupIndexThreshold ∨ set.positions.size ≠ 0 then set
  else { set with positions := Finmap.indexPositions Prod.fst set.positions set.indexes 0 }

/-- Adds or replaces one station index. -/
def insert (set : StationIndexSet F) (stationId : StationId) (index : CellIndex F) :
    StationIndexSet F :=
  match set.position stationId with
  | some position => { set with indexes := set.indexes.set position (stationId, index) }
  | none =>
      let set := set.activateLookupFor (usizeSaturatingAdd set.indexes.length 1)
      let positions :=
        if set.positions.size = 0 then set.positions
        else Finmap.insert stationId set.indexes.length set.positions
      { indexes := set.indexes ++ [(stationId, index)], positions := positions }

/-- Rebuilds the positions when they are in use. -/
def rebuildPositions (set : StationIndexSet F) : StationIndexSet F :=
  if set.positions.size = 0 then set
  else { set with positions := Finmap.indexPositions Prod.fst ∅ set.indexes 0 }

/-- Removes and returns one station index. -/
def remove (set : StationIndexSet F) (stationId : StationId) :
    Option (CellIndex F × StationIndexSet F) :=
  (set.position stationId).bind fun position =>
    set.indexes[position]?.map fun entry =>
      (entry.2, { set with indexes := set.indexes.eraseIdx position }.rebuildPositions)

/-- Gets one station index. -/
def get (set : StationIndexSet F) (stationId : StationId) : Option (CellIndex F) :=
  (set.position stationId).bind fun position => set.indexes[position]?.map Prod.snd

/-- Overwrites the index that a `get_pair_mut` returned. -/
def put (set : StationIndexSet F) (stationId : StationId) (index : CellIndex F) :
    StationIndexSet F :=
  match set.position stationId with
  | none => set
  | some position =>
      { set with indexes := set.indexes.modify position fun entry => (entry.1, index) }

/-- Gets two distinct station indexes. -/
def getPairMut (set : StationIndexSet F) (leftId rightId : StationId) :
    Option (CellIndex F × CellIndex F) :=
  if leftId = rightId then none
  else (set.get leftId).bind fun left => (set.get rightId).map fun right => (left, right)

end StationIndexSet

/-- Lightweight coefficients used to derive load samples. -/
structure StationLoadSamplerConfig where
  /-- Estimated bytes contributed by one stored entity in the measurement window. -/
  estimatedBytesPerEntity : ℕ
  estimatedBytesPerSubscriber : ℕ
  estimatedBytesPerEvent : ℕ
  /-- Runtime cost units assigned to one authoritative entity. -/
  tickCostPerOwnedEntity : UInt64
  tickCostPerGhostEntity : UInt64
  tickCostPerOccupiedCell : UInt64
  tickCostPerQueuedEvent : UInt64

/-- `usize::saturating_mul`. -/
def usizeSaturatingMul (a b : ℕ) : ℕ := min (a * b) usizeMax

namespace StationLoadSampler

variable (config : StationLoadSamplerConfig)

def estimateStationBytes (ownedEntities ghostEntities subscribers queuedEvents : ℕ) : ℕ :=
  usizeSaturatingAdd
    (usizeSaturatingAdd
      (usizeSaturatingMul (usizeSaturatingAdd ownedEntities ghostEntities)
        config.estimatedBytesPerEntity)
      (usizeSaturatingMul subscribers config.estimatedBytesPerSubscriber))
    (usizeSaturatingMul queuedEvents config.estimatedBytesPerEvent)

def estimateTickCost (ownedEntities ghostEntities occupiedCells queuedEvents : ℕ) : UInt64 :=
  ((((UInt64.ofNat ownedEntities).saturatingMul config.tickCostPerOwnedEntity).saturatingAdd
    ((UInt64.ofNat ghostEntities).saturatingMul config.tickCostPerGhostEntity)).saturatingAdd
    ((UInt64.ofNat occupiedCells).saturatingMul config.tickCostPerOccupiedCell)).saturatingAdd
    ((UInt64.ofNat queuedEvents).saturatingMul config.tickCostPerQueuedEvent)

/-- Counts one record by its role. -/
def countRole (counts : ℕ × ℕ) (record : EntityRecord F) : ℕ × ℕ :=
  if record.isOwned then (usizeSaturatingAdd counts.1 1, counts.2)
  else (counts.1, usizeSaturatingAdd counts.2 1)

/-- The owned entities and the ghosts of a station. -/
def countStationRoles (station : Station F) : ℕ × ℕ := station.iter.foldl countRole (0, 0)

/-- The sample of one occupied cell. -/
def sampleCell (station : Station F) (index : CellIndex F) (cell : CellCoord3) :
    CellLoadSample :=
  let (cellOwnedEntities, cellGhostEntities) :=
    ((index.handlesInCell cell).filterMap station.get).foldl countRole (0, 0)
  let entities := usizeSaturatingAdd cellOwnedEntities cellGhostEntities
  { cell := cell
    ownedEntities := cellOwnedEntities
    ghostEntities := cellGhostEntities
    subscribers := 0
    estimatedUpdates := entities
    estimatedBytes := usizeSaturatingMul entities config.estimatedBytesPerEntity
    tickCostUnits := estimateTickCost config cellOwnedEntities cellGhostEntities 1 0
    eventPressure := 0 }

/-- Samples one station; the cells of its index come in order. -/
def sampleStation (station : Station F) (index : Option (CellIndex F))
    (queuedEvents subscribers : ℕ) : StationLoadSample :=
  let (ownedEntities, ghostEntities) := countStationRoles station
  let cells := index.elim [] fun index =>
    index.cells.sortedKeys.map (sampleCell config station index)
  { stationId := station.config.stationId
    ownedEntities := ownedEntities
    ghostEntities := ghostEntities
    subscribers := subscribers
    queuedEvents := queuedEvents
    estimatedBytes :=
      estimateStationBytes config ownedEntities ghostEntities subscribers queuedEvents
    tickCostUnits :=
      estimateTickCost config ownedEntities ghostEntities cells.length queuedEvents
    cells := cells }

/-- Adds up the subscriber counts of each station. -/
def subscribersByStation (subscriberCounts : List (StationId × ℕ)) : HashMap StationId ℕ :=
  subscriberCounts.foldl (fun subscribers (stationId, count) =>
    subscribers.insert stationId
      (usizeSaturatingAdd ((subscribers.lookup stationId).getD 0) count)) ∅

/-- Samples every station. -/
def sampleAll (stations : StationSet F) (indexes : StationIndexSet F) (router : EventRouter)
    (subscriberCounts : List (StationId × ℕ)) : List StationLoadSample :=
  let subscribers := subscribersByStation subscriberCounts
  stations.stations.map fun station =>
    sampleStation config station (indexes.get station.id)
      (((router.queues.lookup station.id).map EventQueues.len).getD 0)
      ((subscribers.lookup station.id).getD 0)

variable {config}

lemma map_cell_sampleStation (station : Station F) (index : CellIndex F)
    (queuedEvents subscribers : ℕ) :
    (sampleStation config station (some index) queuedEvents subscribers).cells.map (·.cell)
      = index.cells.sortedKeys := by
  simp only [sampleStation, Option.elim_some, List.map_map]
  exact List.map_id _

end StationLoadSampler

end SectorSync
