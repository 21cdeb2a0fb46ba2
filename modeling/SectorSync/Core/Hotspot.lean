import SectorSync.Core.Replication

/-!
# Hotspots

Load samples of stations and their cells, the classification of a station against thresholds and
the proposal of cells to move, `hotspot.rs`.  A sum of entity counts wraps as that of the release
build does.
-/

namespace SectorSync

/-- Load sample for one spatial cell. -/
structure CellLoadSample where
  cell : CellCoord3
  ownedEntities : ℕ
  ghostEntities : ℕ
  /-- Estimated subscribers interested in this cell. -/
  subscribers : ℕ
  estimatedUpdates : ℕ
  estimatedBytes : ℕ
  /-- Runtime-defined tick cost units for this cell. -/
  tickCostUnits : UInt64
  /-- Runtime-defined event pressure units for this cell. -/
  eventPressure : ℕ
  deriving DecidableEq

/-- Deterministic weighted pressure score for ordering cells. -/
def CellLoadSample.pressureScore (sample : CellLoadSample) : UInt64 :=
  let entities := UInt64.ofNat (sample.ownedEntities + sample.ghostEntities)
  let subscribers := UInt64.ofNat sample.subscribers
  let updates := UInt64.ofNat sample.estimatedUpdates
  let bytes := UInt64.ofNat (sample.estimatedBytes / 256)
  let events := UInt64.ofNat sample.eventPressure
  (((((entities.saturatingMul 8).saturatingAdd (subscribers.saturatingMul 4)).saturatingAdd
    (updates.saturatingMul 2)).saturatingAdd bytes).saturatingAdd
    (events.saturatingMul 16)).saturatingAdd sample.tickCostUnits

/-- Load sample for one station over a measurement window. -/
structure StationLoadSample where
  stationId : StationId
  ownedEntities : ℕ
  ghostEntities : ℕ
  /-- Estimated subscribers routed to this station. -/
  subscribers : ℕ
  /-- Total queued cross-station events. -/
  queuedEvents : ℕ
  estimatedBytes : ℕ
  tickCostUnits : UInt64
  cells : List CellLoadSample
  deriving DecidableEq

namespace StationLoadSample

/-- Total entity count. -/
def totalEntities (sample : StationLoadSample) : ℕ :=
  (sample.ownedEntities + sample.ghostEntities) % 2 ^ 64

/-- The highest per-cell pressure score. -/
def maxCellPressure (sample : StationLoadSample) : UInt64 :=
  (sample.cells.map CellLoadSample.pressureScore).foldl max 0

end StationLoadSample

/-- Thresholds used to classify hotspot pressure. -/
structure HotspotThresholds where
  maxStationEntities : ℕ
  maxStationSubscribers : ℕ
  maxQueuedEvents : ℕ
  maxEstimatedBytes : ℕ
  maxTickCostUnits : UInt64
  /-- Maximum pressure score for a single cell before split is suggested. -/
  maxCellPressure : UInt64
  deriving DecidableEq

/-- Hotspot classification. -/
inductive HotspotSeverity where
  /-- Load is within configured limits. -/
  | normal
  /-- Load is near or slightly over limits. -/
  | warm
  /-- Load is clearly over limits and should trigger mitigation. -/
  | hot
  deriving DecidableEq

/-- Hotspot evaluation result. -/
structure HotspotDecision where
  stationId : StationId
  severity : HotspotSeverity
  score : UInt64
  /-- Human-readable reason codes. -/
  reasons : List String
  deriving DecidableEq

/-- Cell split proposal for external schedulers. -/
structure SplitProposal where
  /-- Source station that should give up some cell ownership. -/
  sourceStation : StationId
  /-- Cells recommended for movement to a new or less loaded station. -/
  cellsToMove : List CellCoord3
  /-- Total pressure score covered by the cells to move. -/
  movedPressureScore : UInt64
  deriving DecidableEq

/-- By pressure, the highest first, then by cell. -/
def compareCellSamples (left right : CellLoadSample) : Ordering :=
  (compare right.pressureScore left.pressureScore).then (compare left.cell right.cell)

namespace HotspotPlanner

open ReplicationPlanner

/-- The reason codes of the limits that a sample exceeds. -/
def reasons (sample : StationLoadSample) (thresholds : HotspotThresholds) : List String :=
  (if sample.totalEntities > thresholds.maxStationEntities then ["station_entities"] else [])
    ++ (if sample.subscribers > thresholds.maxStationSubscribers then ["station_subscribers"]
      else [])
    ++ (if sample.queuedEvents > thresholds.maxQueuedEvents then ["queued_events"] else [])
    ++ (if sample.estimatedBytes > thresholds.maxEstimatedBytes then ["estimated_bytes"] else [])
    ++ (if sample.tickCostUnits > thresholds.maxTickCostUnits then ["tick_cost"] else [])
    ++ (if sample.maxCellPressure > thresholds.maxCellPressure then ["cell_pressure"] else [])

/-- Evaluates a station load sample against thresholds: every exceeded limit is one point. -/
def evaluate (sample : StationLoadSample) (thresholds : HotspotThresholds) : HotspotDecision :=
  let reasons := reasons sample thresholds
  { stationId := sample.stationId
    severity := match reasons.length with
      | 0 => .normal
      | 1 => .warm
      | _ => .hot
    score := UInt64.ofNat reasons.length
    reasons := reasons }

/-- Puts the first `selected` values of an order in front, in order: `prioritize_cell_samples` and
`prioritize_station_candidates`. -/
def prioritizeBy {α : Type} (selectNthUnstableBy : SelectNthUnstableBy α)
    (compare : α → α → Ordering) (values : List α) (selected : ℕ) : List α :=
  if selected = 0 then values
  else if selected * 2 < values.length then
    let values := selectNthUnstableBy selected compare values
    sortBy compare (values.take selected) ++ values.drop selected
  else sortBy compare values

variable (selectNthUnstableBy : SelectNthUnstableBy CellLoadSample)

/-- Puts the `selected` samples of highest pressure first. -/
def prioritizeCellSamples (cells : List CellLoadSample) (selected : ℕ) : List CellLoadSample :=
  prioritizeBy selectNthUnstableBy compareCellSamples cells selected

/-- Proposes cells to move by selecting the highest-pressure cells first. -/
def proposeCellSplit (sample : StationLoadSample) (maxCellsToMove : ℕ) : SplitProposal :=
  let selected := min maxCellsToMove sample.cells.length
  let cells := (prioritizeCellSamples selectNthUnstableBy sample.cells selected).take selected
  { sourceStation := sample.stationId
    cellsToMove := cells.map (·.cell)
    movedPressureScore := cells.foldl (fun score cell => score.saturatingAdd cell.pressureScore) 0 }

end HotspotPlanner

end SectorSync
