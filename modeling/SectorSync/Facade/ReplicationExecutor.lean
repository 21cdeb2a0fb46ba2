import SectorSync.Facade.StationRuntime
import SectorSync.Runtime.ParallelPlanning
import SectorSync.Transport.ReliableLink
import SectorSync.Wire.DirectEncoding

/-!
# The replication executors

The executors of the product facade plan viewers, encode the plans under the byte budget and hand
the frames to a packet sink.  The sequential executor plans the viewers of one station as a batch
before it sends the first frame; the parallel one plans station batches through a worker pool, and
then sends in input order.  Both share `sendPlan`, and end at the first failure.

What the allocator reports are parameters (`ExecutorCapacities`), and the capacity hint for the
packet buffer is left out.
-/

namespace SectorSync

open Machine ReplicationPlanner

variable {F T E : Type}

/-- Caller-owned candidate eligibility. -/
abbrev CandidateEligibility (F : Type) : Type :=
  StationId → ViewerQuery F → EntityHandle → EntityRecord F → Bool

/-- Caller-owned per-viewer send history. -/
abbrev LastSentLookup (F : Type) : Type :=
  StationId → ViewerQuery F → EntityHandle → Option Tick

/-- Eligibility that admits every visible entity. -/
def allEligible : CandidateEligibility F := fun _ _ _ _ => true

/-- Empty send history. -/
def noLastSent : LastSentLookup F := fun _ _ _ => none

/-! ## Configuration, requests and reports -/

/-- Configuration of a replication executor. -/
structure ReplicationExecutorConfig where
  mode : ReplicationSelectionMode
  budget : ReplicationBudget
  /-- Whether a valid empty frame should still be sent. -/
  sendEmptyFrames : Bool
  maxCachedQueryRanges : ℕ

namespace ReplicationExecutorConfig

/-- First-fit, work-bounded configuration. -/
def throughput (budget : ReplicationBudget) : ReplicationExecutorConfig :=
  ⟨.throughput, budget, false, 64⟩

/-- Global-priority configuration. -/
def prioritized (budget : ReplicationBudget) : ReplicationExecutorConfig :=
  ⟨.prioritized, budget, false, 64⟩

def default : ReplicationExecutorConfig := throughput .default

end ReplicationExecutorConfig

/-- Inputs for one viewer. -/
structure ReplicationRequest (F : Type) where
  station : StationRuntime F
  policies : PolicyTable F
  selection : ComponentSelection
  viewer : ViewerQuery F
  visibility : VisibilityFilter F
  eligibility : CandidateEligibility F
  lastSent : LastSentLookup F

/-- Inputs for an ordered viewer batch. -/
structure ReplicationBatchRequest (F : Type) where
  station : StationRuntime F
  policies : PolicyTable F
  selection : ComponentSelection
  viewers : List (ViewerQuery F)
  visibility : VisibilityFilter F
  eligibility : CandidateEligibility F
  lastSent : LastSentLookup F

/-- The request for one viewer of a batch, alone. -/
def ReplicationBatchRequest.alone (request : ReplicationBatchRequest F) (viewer : ViewerQuery F) :
    ReplicationRequest F where
  station := request.station
  policies := request.policies
  selection := request.selection
  viewer := viewer
  visibility := request.visibility
  eligibility := request.eligibility
  lastSent := request.lastSent

/-- What the planner is given under a configuration. -/
def ReplicationRequest.inputs (request : ReplicationRequest F)
    (config : ReplicationExecutorConfig) : PlannerInputs F :=
  let stationId := request.station.station.config.stationId
  { station := request.station.station
    policies := request.policies
    filter := request.visibility
    budget := config.budget
    mode := config.mode
    eligible := fun viewer handle entity => request.eligibility stationId viewer handle entity
    lastSent := fun viewer handle => request.lastSent stationId viewer handle }

/-- Accumulated replication statistics. -/
structure ReplicationExecutorStats where
  viewersPlanned : ℕ
  framesSkippedEmpty : ℕ
  /-- Frames submitted successfully. -/
  framesSent : ℕ
  /-- Encoded bytes submitted successfully. -/
  bytesSent : ℕ
  entitiesSelected : ℕ
  entitiesEncoded : ℕ
  componentsEncoded : ℕ
  entitiesSkippedByFrameBytes : ℕ
  planEntityCapacityMax : ℕ
  batchPlanSlotsMax : ℕ
  batchEntityCapacityMax : ℕ
  uniqueQueryRanges : ℕ
  reusedQueryRanges : ℕ
  gridCellsProbed : ℕ
  occupiedCellsScanned : ℕ
  queryCacheSlotsMax : ℕ
  queryCacheCandidateCapacityMax : ℕ
  deriving DecidableEq

def ReplicationExecutorStats.default : ReplicationExecutorStats :=
  ⟨0, 0, 0, 0, 0, 0, 0, 0, 0, 0, 0, 0, 0, 0, 0, 0, 0⟩

/-- Result of one viewer. -/
structure ReplicationReport where
  selectedEntities : ℕ
  encodedEntities : ℕ
  encodedComponents : ℕ
  skippedByBudget : ℕ
  unexaminedAfterBudget : ℕ
  skippedByCadence : ℕ
  skippedByFrameBytes : ℕ
  bytesSent : ℕ
  sent : Bool
  deriving DecidableEq

/-- Aggregate result of an ordered viewer batch. -/
structure ReplicationBatchReport where
  viewersCompleted : ℕ
  framesSent : ℕ
  selectedEntities : ℕ
  encodedEntities : ℕ
  encodedComponents : ℕ
  bytesSent : ℕ
  uniqueQueryRanges : ℕ
  reusedQueryRanges : ℕ
  gridCellsProbed : ℕ
  occupiedCellsScanned : ℕ
  deriving DecidableEq

namespace ReplicationBatchReport

def default : ReplicationBatchReport := ⟨0, 0, 0, 0, 0, 0, 0, 0, 0, 0⟩

/-- Counts a viewer that was completed. -/
def record (batch : ReplicationBatchReport) (report : ReplicationReport) : ReplicationBatchReport :=
  { batch with
    viewersCompleted := usizeSaturatingAdd batch.viewersCompleted 1
    framesSent := usizeSaturatingAdd batch.framesSent report.sent.toNat
    selectedEntities := usizeSaturatingAdd batch.selectedEntities report.selectedEntities
    encodedEntities := usizeSaturatingAdd batch.encodedEntities report.encodedEntities
    encodedComponents := usizeSaturatingAdd batch.encodedComponents report.encodedComponents
    bytesSent := usizeSaturatingAdd batch.bytesSent report.bytesSent }

/-- Adds the query counters of a planned station batch. -/
def recordQueries (batch : ReplicationBatchReport) (stats : ReplicationBatchStats) :
    ReplicationBatchReport :=
  { batch with
    uniqueQueryRanges := usizeSaturatingAdd batch.uniqueQueryRanges stats.uniqueQueryRanges
    reusedQueryRanges := usizeSaturatingAdd batch.reusedQueryRanges stats.reusedQueryRanges
    gridCellsProbed := usizeSaturatingAdd batch.gridCellsProbed stats.gridCellsProbed
    occupiedCellsScanned :=
      usizeSaturatingAdd batch.occupiedCellsScanned stats.occupiedCellsScanned }

end ReplicationBatchReport

/-- The report a batch starts from. -/
def batchReportFromStats (stats : ReplicationBatchStats) : ReplicationBatchReport :=
  { ReplicationBatchReport.default with
    uniqueQueryRanges := stats.uniqueQueryRanges
    reusedQueryRanges := stats.reusedQueryRanges
    gridCellsProbed := stats.gridCellsProbed
    occupiedCellsScanned := stats.occupiedCellsScanned }

/-- Failure kind of replication execution. -/
inductive ReplicationExecutionFailure (E : Type) where
  /-- Encoding failed before packet submission. -/
  | encode (error : BinaryEncodeError)
  /-- The sink rejected the packet. -/
  | transport (error : E)
  deriving DecidableEq

/-- Replication failure with ordered-batch progress. -/
structure ReplicationExecutionError (E : Type) where
  /-- Viewers completed before this failure. -/
  completedViewers : ℕ
  failure : ReplicationExecutionFailure E
  deriving DecidableEq

/-! ## Sending a plan -/

/-- Counts the query work of a planned batch. -/
def recordBatchQueryStats (stats : ReplicationExecutorStats) (batch : ReplicationBatchStats) :
    ReplicationExecutorStats :=
  { stats with
    uniqueQueryRanges := usizeSaturatingAdd stats.uniqueQueryRanges batch.uniqueQueryRanges
    reusedQueryRanges := usizeSaturatingAdd stats.reusedQueryRanges batch.reusedQueryRanges
    gridCellsProbed := usizeSaturatingAdd stats.gridCellsProbed batch.gridCellsProbed
    occupiedCellsScanned := usizeSaturatingAdd stats.occupiedCellsScanned batch.occupiedCellsScanned
    queryCacheSlotsMax := max stats.queryCacheSlotsMax batch.queryCacheCapacityMax
    queryCacheCandidateCapacityMax :=
      max stats.queryCacheCandidateCapacityMax batch.queryCacheCandidateCapacityMax }

/-- Counts what was encoded. -/
def recordBuildStats (stats : ReplicationExecutorStats) (build : ReplicationFrameBuildStats) :
    ReplicationExecutorStats :=
  { stats with
    entitiesEncoded := usizeSaturatingAdd stats.entitiesEncoded build.encodedEntities
    componentsEncoded := usizeSaturatingAdd stats.componentsEncoded build.encodedComponents
    entitiesSkippedByFrameBytes :=
      usizeSaturatingAdd stats.entitiesSkippedByFrameBytes build.skippedEntitiesByFrameBytes }

def replicationReport (plan : ReplicationPlan) (build : ReplicationFrameBuildStats)
    (bytesSent : ℕ) (sent : Bool) : ReplicationReport where
  selectedEntities := plan.stats.selected
  encodedEntities := build.encodedEntities
  encodedComponents := build.encodedComponents
  skippedByBudget := plan.stats.skippedByBudget
  unexaminedAfterBudget := plan.stats.unexaminedAfterBudget
  skippedByCadence := plan.stats.skippedByCadence
  skippedByFrameBytes := build.skippedEntitiesByFrameBytes
  bytesSent := bytesSent
  sent := sent

section Send

variable (config : ReplicationExecutorConfig) (builder : ReplicationFrameBuilder)
  (sink : TransportSink T OutboundPacket E)

/-- Encodes the plan of a viewer under the byte budget and submits the frame. -/
def sendPlan (stats : ReplicationExecutorStats) (station : StationRuntime F)
    (selection : ComponentSelection) (viewer : ViewerQuery F) (plan : ReplicationPlan)
    (transport : T) :
    Except (ReplicationExecutionFailure E) ReplicationReport × ReplicationExecutorStats × T :=
  let stats :=
    { stats with
      viewersPlanned := usizeSaturatingAdd stats.viewersPlanned 1
      entitiesSelected := usizeSaturatingAdd stats.entitiesSelected plan.stats.selected }
  match builder.encodeBinaryBoundedInto station.station station.components selection
      viewer.clientId station.station.tick plan config.budget.maxBytes [] with
  | (.error error, _) => (.error (.encode error), stats, transport)
  | (.ok build, bytes) =>
      let stats := recordBuildStats stats build
      if build.encodedEntities = 0 ∧ !config.sendEmptyFrames then
        (.ok (replicationReport plan build 0 false),
          { stats with framesSkippedEmpty := usizeSaturatingAdd stats.framesSkippedEmpty 1 },
          transport)
      else
        let bytesSent := bytes.length
        match sink.send transport ⟨(), viewer.clientId, bytes⟩ with
        | (.error error, transport) => (.error (.transport error), stats, transport)
        | (.ok (), transport) =>
            (.ok (replicationReport plan build bytesSent true),
              { stats with
                framesSent := usizeSaturatingAdd stats.framesSent 1
                bytesSent := usizeSaturatingAdd stats.bytesSent bytesSent },
              transport)

/-- The loop over the viewers of a station and their plans. -/
def sendPlans (station : StationRuntime F) (selection : ComponentSelection) :
    List (ViewerQuery F × ReplicationPlan) → ReplicationBatchReport → ReplicationExecutorStats → T →
      Except (ReplicationExecutionError E) ReplicationBatchReport × ReplicationExecutorStats × T
  | [], report, stats, transport => (.ok report, stats, transport)
  | (viewer, plan) :: rest, report, stats, transport =>
      match sendPlan config builder sink stats station selection viewer plan transport with
      | (.ok viewerReport, stats, transport) =>
          sendPlans station selection rest (report.record viewerReport) stats transport
      | (.error failure, stats, transport) =>
          (.error ⟨report.viewersCompleted, failure⟩, stats, transport)

end Send

/-! ## The sequential executor -/

/-- Capacities the allocator reports to an executor in one call. -/
structure ExecutorCapacities where
  /-- Entity capacity of the single plan. -/
  planEntities : ℕ
  /-- Entity capacity of all batch plans. -/
  batchEntities : ℕ
  scratch : ℕ → ScratchCapacity
  cache : ℕ

/-- Reusable planner and packet encoder. -/
structure ReplicationExecutor (F : Type) where
  config : ReplicationExecutorConfig
  builder : ReplicationFrameBuilder
  scratch : ReplicationScratch F
  plan : ReplicationPlan
  batch : ReplicationBatchScratch
  stats : ReplicationExecutorStats

namespace ReplicationExecutor

/-- An executor with explicit selection and frame limits. -/
def new (config : ReplicationExecutorConfig) (builder : ReplicationFrameBuilder) :
    ReplicationExecutor F :=
  ⟨config, builder, .default, .default, .new, .default⟩

section Scalar

variable [Scalar F]
  (selectNthUnstableBy : SelectNthUnstableBy (PrioritizedReplicationCandidate F))
  (executor : ReplicationExecutor F) (sink : TransportSink T OutboundPacket E)

/-- Plans, encodes and sends one viewer frame. -/
def replicate (request : ReplicationRequest F) (capacities : ExecutorCapacities) (transport : T) :
    Except (ReplicationExecutionError E) ReplicationReport × ReplicationExecutor F × T :=
  let (scratch, plan) := planForViewerConfiguredInto selectNthUnstableBy
    (request.inputs executor.config) request.station.index request.viewer executor.scratch
    executor.plan
  let stats :=
    { executor.stats with
      planEntityCapacityMax := max executor.stats.planEntityCapacityMax capacities.planEntities }
  let (result, stats, transport) := sendPlan executor.config executor.builder sink stats
    request.station request.selection request.viewer plan transport
  (result.mapError fun failure => ⟨0, failure⟩,
    { executor with scratch := scratch, plan := plan, stats := stats }, transport)

/-- The batch call made for a request.  The inputs are those of any of its viewers. -/
def batchCall (request : ReplicationBatchRequest F) (capacities : ExecutorCapacities) :
    BatchCall F :=
  let stationId := request.station.station.config.stationId
  { inputs :=
      { station := request.station.station
        policies := request.policies
        filter := request.visibility
        budget := executor.config.budget
        mode := executor.config.mode
        eligible := fun viewer handle entity => request.eligibility stationId viewer handle entity
        lastSent := fun viewer handle => request.lastSent stationId viewer handle }
    index := request.station.index
    viewers := request.viewers
    maxCachedQueryRanges := executor.config.maxCachedQueryRanges
    capacity := capacities.scratch
    cacheCapacity := capacities.cache }

/-- Plans and sends viewers in input order. -/
def replicateBatch (request : ReplicationBatchRequest F) (capacities : ExecutorCapacities)
    (transport : T) :
    Except (ReplicationExecutionError E) ReplicationBatchReport × ReplicationExecutor F × T :=
  let (scratch, batch) := planForViewersConfiguredInto selectNthUnstableBy
    (executor.batchCall request capacities) (executor.scratch, executor.batch)
  let stats :=
    { executor.stats with
      batchPlanSlotsMax := max executor.stats.batchPlanSlotsMax batch.viewPlans.length
      batchEntityCapacityMax :=
        max executor.stats.batchEntityCapacityMax capacities.batchEntities }
  let (result, stats, transport) := sendPlans executor.config executor.builder sink
    request.station request.selection (request.viewers.zip batch.viewPlans)
    (batchReportFromStats batch.stats) (recordBatchQueryStats stats batch.stats) transport
  (result, { executor with scratch := scratch, batch := batch, stats := stats }, transport)

end Scalar

end ReplicationExecutor

/-! ## The parallel executor -/

/-- One station-local input batch of the parallel executor. -/
structure ParallelStationBatch (F : Type) where
  station : StationRuntime F
  viewers : List (ViewerQuery F)
  selection : ComponentSelection

instance : StationReplicationBatchSource F (ParallelStationBatch F) where
  station := fun batch => batch.station.station
  index := fun batch => batch.station.index
  viewers := ParallelStationBatch.viewers

/-- Inputs shared by the station batches. -/
structure ParallelReplicationRequest (F : Type) where
  batches : List (ParallelStationBatch F)
  policies : PolicyTable F
  visibility : VisibilityFilter F
  eligibility : CandidateEligibility F
  lastSent : LastSentLookup F

/-- Capacities the allocator reports to the parallel executor in one call. -/
structure ParallelExecutorCapacities where
  batchEntities : ℕ
  batches : BatchCapacities

/-- Bounded-pool replication executor. -/
structure ParallelReplicationExecutor (F : Type) where
  config : ReplicationExecutorConfig
  builder : ReplicationFrameBuilder
  pool : ReplicationThreadPool
  scratch : ParallelReplicationScratch F
  stats : ReplicationExecutorStats

/-- The loop over the station batches and their outputs. -/
def sendBatches (config : ReplicationExecutorConfig) (builder : ReplicationFrameBuilder)
    (sink : TransportSink T OutboundPacket E) :
    List (ParallelStationBatch F × ReplicationBatchScratch) → ReplicationBatchReport →
      ReplicationExecutorStats → T →
      Except (ReplicationExecutionError E) ReplicationBatchReport × ReplicationExecutorStats × T
  | [], report, stats, transport => (.ok report, stats, transport)
  | (batch, output) :: rest, report, stats, transport =>
      let stats := recordBatchQueryStats stats output.stats
      let report := report.recordQueries output.stats
      match sendPlans config builder sink batch.station batch.selection
          (batch.viewers.zip output.viewPlans) report stats transport with
      | (.ok report, stats, transport) =>
          sendBatches config builder sink rest report stats transport
      | (.error error, stats, transport) => (.error error, stats, transport)

namespace ParallelReplicationExecutor

/-- Creates the threads of the executor. -/
def new (config : ReplicationExecutorConfig) (builder : ReplicationFrameBuilder)
    (pool : ReplicationThreadPoolConfig) (available : ℕ) : ParallelReplicationExecutor F :=
  ⟨config, builder, .new pool available, .new, .default⟩

/-- The planning call made for a request. -/
def configuredCall (executor : ParallelReplicationExecutor F)
    (request : ParallelReplicationRequest F) (capacities : ParallelExecutorCapacities) :
    ConfiguredCall F (ParallelStationBatch F) where
  batches := request.batches
  policies := request.policies
  filter := request.visibility
  budget := executor.config.budget
  mode := executor.config.mode
  maxCachedQueryRanges := executor.config.maxCachedQueryRanges
  eligible := request.eligibility
  lastSent := request.lastSent
  capacities := capacities.batches

/-- Plans station batches in parallel, then sends packets in input order. -/
def replicateBatch [Scalar F]
    (selectNthUnstableBy : SelectNthUnstableBy (PrioritizedReplicationCandidate F))
    (executor : ParallelReplicationExecutor F) (sink : TransportSink T OutboundPacket E)
    (request : ParallelReplicationRequest F) (capacities : ParallelExecutorCapacities)
    (transport : T) :
    Option (Except (ReplicationExecutionError E) ReplicationBatchReport
      × ParallelReplicationExecutor F × T) := do
  let run ← executor.pool.planStationConfiguredBatchesInto selectNthUnstableBy
    (executor.configuredCall request capacities) executor.scratch
  let stats :=
    { executor.stats with
      batchPlanSlotsMax := max executor.stats.batchPlanSlotsMax run.view.batches.length
      batchEntityCapacityMax :=
        max executor.stats.batchEntityCapacityMax capacities.batchEntities }
  let (result, stats, transport) := sendBatches executor.config executor.builder sink
    (request.batches.zip run.view.batches) .default stats transport
  return (result, { executor with scratch := run.scratch, stats := stats }, transport)

end ParallelReplicationExecutor

end SectorSync
