import SectorSync.Core.Hotspot
import SectorSync.Core.Command

/-!
# The split scheduler

Planning of the runtime crate's `SplitScheduler`: every hot station that is not cooling down gets
cells proposed, and a target among the other stations, until the pass has enough actions.
The source plans into reusable storage; here a pass returns its schedule.
-/

namespace SectorSync

/-- Automatic split scheduler configuration. -/
structure SplitSchedulerConfig where
  thresholds : HotspotThresholds
  maxActionsPerPass : ℕ
  maxCellsPerAction : ℕ
  /-- Source ghost TTL used during migration execution. -/
  ghostTtlTicks : UInt64
  /-- Minimum load-score gap required between source and target. -/
  minScoreImprovement : UInt64
  /-- Maximum permitted target load score after moved cell pressure is added. -/
  maxTargetScoreAfterMove : UInt64
  /-- Ticks a source station must wait before another split can be planned. -/
  splitCooldownTicks : UInt64
  /-- Whether warm target stations may receive split cells. -/
  allowWarmTargets : Bool
  deriving DecidableEq

/-- One scheduled split action. -/
structure SplitAction where
  sourceStation : StationId
  targetStation : StationId
  proposal : SplitProposal
  /-- Source load score observed when planning. -/
  sourceScore : UInt64
  /-- Target load score observed when planning. -/
  targetScore : UInt64
  /-- Estimated target score after moving proposed cell pressure. -/
  estimatedTargetScoreAfterMove : UInt64
  deriving DecidableEq

/-- Split schedule produced from a load snapshot. -/
structure SplitSchedule where
  /-- Hotspot decisions produced for every input station. -/
  decisions : List HotspotDecision
  /-- Actions selected for execution. -/
  actions : List SplitAction
  /-- Hot stations skipped because no distinct target existed. -/
  skippedNoTarget : ℕ
  /-- Hot stations skipped because no cells were proposed. -/
  skippedNoCells : ℕ
  /-- Hot stations skipped because source station is inside split cooldown. -/
  skippedCooldown : ℕ
  /-- Hot stations skipped because all targets were too warm or hot. -/
  skippedTargetSeverity : ℕ
  /-- Hot stations skipped because target capacity would be exceeded. -/
  skippedTargetCapacity : ℕ
  /-- Hot stations skipped because target score improvement was too small. -/
  skippedInsufficientImprovement : ℕ
  deriving DecidableEq

/-- Mutable planning state for conservative split scheduling. -/
structure SplitSchedulerState where
  lastSplitAt : BTreeMap StationId Tick

namespace SplitSchedulerState

/-- Records one executed or externally accepted split action. -/
def recordAction (state : SplitSchedulerState) (action : SplitAction) (tick : Tick) :
    SplitSchedulerState :=
  ⟨state.lastSplitAt.insert action.sourceStation tick⟩

/-- Whether a station is inside split cooldown. -/
def isInCooldown (state : SplitSchedulerState) (stationId : StationId) (currentTick : Tick)
    (cooldownTicks : UInt64) : Bool :=
  if cooldownTicks = 0 then false
  else
    match state.lastSplitAt.lookup stationId with
    | none => false
    | some lastSplit => currentTick.get.saturatingSub lastSplit.get < cooldownTicks

end SplitSchedulerState

def stationLoadScore (sample : StationLoadSample) : UInt64 :=
  (((((UInt64.ofNat sample.totalEntities).saturatingMul 8).saturatingAdd
    ((UInt64.ofNat sample.subscribers).saturatingMul 4)).saturatingAdd
    (UInt64.ofNat sample.queuedEvents)).saturatingAdd
    (UInt64.ofNat (sample.estimatedBytes / 256))).saturatingAdd sample.tickCostUnits

def severityRank : HotspotSeverity → ℕ
  | .normal => 0
  | .warm => 1
  | .hot => 2

/-- What is compared between targets: severity, load and id. -/
abbrev TargetKey : Type := ℕ ×ₗ UInt64 ×ₗ UInt32

structure SplitTargetSelection where
  target : Option StationLoadSample
  targetKey : Option TargetKey
  consideredTargets : ℕ
  rejectedBySeverity : ℕ
  rejectedByCapacity : ℕ
  rejectedByImprovement : ℕ

namespace SplitScheduler

/-- The key of a target. -/
def targetKeyOf (severity : HotspotSeverity) (target : StationLoadSample) : TargetKey :=
  toLex (severityRank severity, toLex (stationLoadScore target, target.stationId.get))

/-- One step of the loop over the targets. -/
def considerTarget (config : SplitSchedulerConfig) (source : StationLoadSample)
    (proposal : SplitProposal) (selection : SplitTargetSelection)
    (candidate : StationLoadSample × HotspotDecision) : SplitTargetSelection :=
  let (target, decision) := candidate
  if target.stationId = source.stationId then selection
  else
    let selection := { selection with consideredTargets := selection.consideredTargets + 1 }
    let severity := decision.severity
    if severity = .hot ∨ (severity = .warm ∧ config.allowWarmTargets = false) then
      { selection with rejectedBySeverity := selection.rejectedBySeverity + 1 }
    else
      let targetScore := stationLoadScore target
      if (stationLoadScore source).saturatingSub targetScore < config.minScoreImprovement then
        { selection with rejectedByImprovement := selection.rejectedByImprovement + 1 }
      else if targetScore.saturatingAdd proposal.movedPressureScore
          > config.maxTargetScoreAfterMove then
        { selection with rejectedByCapacity := selection.rejectedByCapacity + 1 }
      else
        let targetKey := targetKeyOf severity target
        if selection.targetKey.all fun currentKey => targetKey < currentKey then
          { selection with target := some target, targetKey := some targetKey }
        else selection

def selectSplitTarget (config : SplitSchedulerConfig) (source : StationLoadSample)
    (proposal : SplitProposal) (samples : List StationLoadSample)
    (decisions : List HotspotDecision) : SplitTargetSelection :=
  (samples.zip decisions).foldl (considerTarget config source proposal) ⟨none, none, 0, 0, 0, 0⟩

/-- One action of a pass. -/
def actionOf (source target : StationLoadSample) (proposal : SplitProposal) : SplitAction where
  sourceStation := source.stationId
  targetStation := target.stationId
  proposal := proposal
  sourceScore := stationLoadScore source
  targetScore := stationLoadScore target
  estimatedTargetScoreAfterMove := (stationLoadScore target).saturatingAdd proposal.movedPressureScore

variable (selectNthUnstableBy : ReplicationPlanner.SelectNthUnstableBy CellLoadSample)
  (config : SplitSchedulerConfig) (samples : List StationLoadSample)
  (state : Option SplitSchedulerState) (currentTick : Tick)

/-- One step of the loop over the sources. -/
def planSource (schedule : SplitSchedule) (source : StationLoadSample)
    (sourceDecision : HotspotDecision) : SplitSchedule :=
  if sourceDecision.severity ≠ .hot then schedule
  else if state.any fun state =>
      state.isInCooldown source.stationId currentTick config.splitCooldownTicks then
    { schedule with skippedCooldown := usizeSaturatingAdd schedule.skippedCooldown 1 }
  else
    let proposal :=
      HotspotPlanner.proposeCellSplit selectNthUnstableBy source config.maxCellsPerAction
    if proposal.cellsToMove = [] then
      { schedule with skippedNoCells := usizeSaturatingAdd schedule.skippedNoCells 1 }
    else
      let selection := selectSplitTarget config source proposal samples schedule.decisions
      match selection.target with
      | none =>
          if selection.consideredTargets = 0 then
            { schedule with skippedNoTarget := usizeSaturatingAdd schedule.skippedNoTarget 1 }
          else
            { schedule with
              skippedTargetSeverity := usizeSaturatingAdd schedule.skippedTargetSeverity
                (if selection.rejectedBySeverity > 0 then 1 else 0)
              skippedTargetCapacity := usizeSaturatingAdd schedule.skippedTargetCapacity
                (if selection.rejectedByCapacity > 0 then 1 else 0)
              skippedInsufficientImprovement :=
                usizeSaturatingAdd schedule.skippedInsufficientImprovement
                  (if selection.rejectedByImprovement > 0 then 1 else 0) }
      | some target =>
          { schedule with actions := schedule.actions ++ [actionOf source target proposal] }

/-- The loop over the sources; it ends when the pass has enough actions. -/
def planSources : SplitSchedule → List (StationLoadSample × HotspotDecision) → SplitSchedule
  | schedule, [] => schedule
  | schedule, (source, sourceDecision) :: rest =>
      if schedule.actions.length ≥ config.maxActionsPerPass then schedule
      else
        planSources (planSource selectNthUnstableBy config samples state currentTick schedule source
          sourceDecision) rest

/-- Plans one pass with optional cooldown state. -/
def planInto : SplitSchedule :=
  let decisions := samples.map fun sample => HotspotPlanner.evaluate sample config.thresholds
  planSources selectNthUnstableBy config samples state currentTick
    ⟨decisions, [], 0, 0, 0, 0, 0, 0⟩ (samples.zip decisions)

end SplitScheduler

end SectorSync
