import SectorSync.Core.CellQuery
import SectorSync.Core.Interest
import SectorSync.Core.Station

/-!
# Replication planning for one viewer

The configured planning kernel of `replication.rs`.  A planner walks the candidate handles of a
viewer, drops those that one of its checks rejects, and selects handles up to a hard limit: in
throughput mode first fit, stopping once the limit is reached, and in prioritized mode by score
over all admitted candidates.

Both loops of the source make the same checks in the same order; here they are `examine`, and the
loops fold its verdicts.  What the partial sort leaves beyond its specification is not known, so
`selectNthUnstableBy` is a parameter.
-/

namespace SectorSync

variable {F : Type}

/-- Per-client replication budget. -/
structure ReplicationBudget where
  /-- Maximum entities to include in a frame. -/
  maxEntities : ℕ
  /-- Estimated byte budget for a frame. -/
  maxBytes : ℕ
  /-- Estimated bytes charged per selected entity. -/
  estimatedEntityBytes : ℕ
  deriving DecidableEq

/-- The default budget. -/
def ReplicationBudget.default : ReplicationBudget := ⟨300, 16 * 1024, 32⟩

/-- Replication planner statistics. -/
structure ReplicationStats where
  candidates : ℕ
  /-- Candidate records considered after stale handle filtering. -/
  considered : ℕ
  selected : ℕ
  skippedByBudget : ℕ
  unexaminedAfterBudget : ℕ
  skippedByCadence : ℕ
  estimatedBytes : ℕ
  deriving DecidableEq

/-- All counters zero. -/
def ReplicationStats.default : ReplicationStats := ⟨0, 0, 0, 0, 0, 0, 0⟩

/-- Replication planner result. -/
structure ReplicationPlan where
  entities : List EntityHandle
  stats : ReplicationStats
  deriving DecidableEq

/-- The empty plan. -/
def ReplicationPlan.default : ReplicationPlan := ⟨[], .default⟩

/-- A candidate admitted by every check, with its priority. -/
structure PrioritizedReplicationCandidate (F : Type) where
  handle : EntityHandle
  score : UInt64
  distanceSquared : F

/-- Reusable scratch storage for replication planning. -/
structure ReplicationScratch (F : Type) where
  cellQuery : CellQueryScratch
  prioritized : List (PrioritizedReplicationCandidate F)

/-- Scratch that no planner has used. -/
def ReplicationScratch.default : ReplicationScratch F := ⟨.new, []⟩

/-- Clears retained planning results. -/
def ReplicationScratch.clear (scratch : ReplicationScratch F) : ReplicationScratch F :=
  ⟨scratch.cellQuery.clear, []⟩

/-- Selection semantics for the configured replication kernel. -/
inductive ReplicationSelectionMode where
  /-- First-fit selection that stops once the budget is full. -/
  | throughput
  /-- Global priority selection over every eligible candidate. -/
  | prioritized
  deriving DecidableEq

/-! ## Cadence and priority -/

section Scalar

variable [Scalar F]

/-- How close a squared distance is to the center of the policy's radius, if both are numbers
and the radius is positive. -/
def closeness (policy : CompiledSyncPolicy F) (distanceSquared : F) : Option F :=
  let radiusSquared := Scalar.mul policy.interestRadius policy.interestRadius
  if Scalar.isFinite radiusSquared && Scalar.lt (Scalar.ofNat 0) radiusSquared
      && Scalar.isFinite distanceSquared then
    some (Scalar.sub (Scalar.ofNat 1)
      (Scalar.clamp (Scalar.div distanceSquared radiusSquared) (Scalar.ofNat 0) (Scalar.ofNat 1)))
  else none

namespace ReplicationCadence

/-- Rounds a frequency into its bounds. -/
def roundedFrequencyToU16 (target : F) (minHz maxHz : UInt16) : UInt16 :=
  Scalar.toU16 (Scalar.clamp (Scalar.round target) (Scalar.ofU16 minHz) (Scalar.ofU16 maxHz))

/-- Target update frequency for a policy at a squared distance. -/
def targetHz (policy : CompiledSyncPolicy F) (distanceSquared : F) : UInt16 :=
  let minHz := max policy.minHz 1
  let maxHz := max policy.maxHz minHz
  let closeness := (closeness policy distanceSquared).getD (Scalar.ofNat 1)
  let span := Scalar.ofU16 (maxHz - minHz)
  let target := Scalar.add (Scalar.ofU16 minHz) (Scalar.mul span closeness)
  roundedFrequencyToU16 target minHz maxHz

/-- Tick interval for a policy at a squared distance. -/
def intervalTicks (policy : CompiledSyncPolicy F) (stationTickRateHz : UInt16)
    (distanceSquared : F) : UInt64 :=
  let tickRate := (max stationTickRateHz 1).toUInt64
  let target := (max (targetHz policy distanceSquared) 1).toUInt64
  max (tickRate.divCeil target) 1

/-- Whether a replication update should be sent at `now`. -/
def shouldSend (policy : CompiledSyncPolicy F) (stationTickRateHz : UInt16) (distanceSquared : F)
    (now : Tick) (lastSent : Option Tick) : Bool :=
  match lastSent with
  | none => true
  | some lastSent =>
      decide (now.get.saturatingSub lastSent.get
        ≥ intervalTicks policy stationTickRateHz distanceSquared)

end ReplicationCadence

namespace ReplicationPriority

/-- A closeness between zero and one as an integer. -/
def normalizedScoreToU64 (closeness : F) : UInt64 :=
  Scalar.toU64 (Scalar.round (Scalar.mul closeness (Scalar.ofNat 1000000)))

/-- Deterministic priority score for budgeted selection. -/
def score (policy : CompiledSyncPolicy F) (distanceSquared : F) : UInt64 :=
  let weight := (max policy.priorityWeight 1).toUInt64
  let distanceScore := match closeness policy distanceSquared with
    | some closeness => normalizedScoreToU64 closeness
    | none => 1000000
  (weight.saturatingMul 1000000).saturatingAdd distanceScore

end ReplicationPriority

end Scalar

/-! ## Examining a candidate -/

/-- What the checks of a planner say about a candidate. -/
inductive CandidateVerdict (F : Type) where
  /-- The station no longer has the handle. -/
  | stale
  /-- The policy is missing, or range, visibility or eligibility fail. -/
  | rejected
  /-- The cadence interval has not elapsed. -/
  | delayed
  | admitted (candidate : PrioritizedReplicationCandidate F)

/-- The arguments the configured planners pass on unchanged. -/
structure PlannerInputs (F : Type) where
  station : Station F
  policies : PolicyTable F
  filter : VisibilityFilter F
  budget : ReplicationBudget
  mode : ReplicationSelectionMode
  eligible : ViewerQuery F → EntityHandle → EntityRecord F → Bool
  lastSent : ViewerQuery F → EntityHandle → Option Tick

/-- The most entities a plan for the viewer may have. -/
def ReplicationBudget.hardLimit (budget : ReplicationBudget) (viewerMaxEntities : ℕ) : ℕ :=
  let maxEntities := min viewerMaxEntities budget.maxEntities
  let maxByBytes := budget.maxBytes / max budget.estimatedEntityBytes 1
  min maxEntities maxByBytes

namespace ReplicationPlanner

section Scalar

variable [Scalar F]

/-- Order on candidates: higher score, then smaller distance, then smaller handle. -/
def comparePrioritizedCandidates (left right : PrioritizedReplicationCandidate F) : Ordering :=
  (compare right.score left.score).then
    ((Scalar.totalCmp left.distanceSquared right.distanceSquared).then
      (compare left.handle right.handle))

/-- Whether the cadence allows an update of the candidate. -/
def cadenceAllows (inputs : PlannerInputs F) (viewer : ViewerQuery F) (handle : EntityHandle)
    (policy : CompiledSyncPolicy F) (distanceSquared : F) : Bool :=
  ReplicationCadence.shouldSend policy inputs.station.config.tickRateHz distanceSquared
    inputs.station.tick (inputs.lastSent viewer handle)

/-- The checks of the planning loops, in their order. -/
def examine (inputs : PlannerInputs F) (viewer : ViewerQuery F) (handle : EntityHandle) :
    CandidateVerdict F :=
  match inputs.station.get handle with
  | none => .stale
  | some entity =>
      match inputs.policies.get entity.policyId with
      | none => .rejected
      | some policy =>
          let distanceSquared := entity.position.distanceSquared viewer.position
          let policyRadiusSq := Scalar.mul policy.interestRadius policy.interestRadius
          if Scalar.lt policyRadiusSq distanceSquared then .rejected
          else if !inputs.filter.isVisibleWithDistance viewer entity distanceSquared then .rejected
          else if !cadenceAllows inputs viewer handle policy distanceSquared then .delayed
          else if !inputs.eligible viewer handle entity then .rejected
          else .admitted ⟨handle, ReplicationPriority.score policy distanceSquared, distanceSquared⟩

end Scalar

/-! ## Throughput selection -/

/-- Counts a live candidate. -/
def considerCandidate (plan : ReplicationPlan) : ReplicationPlan :=
  { plan with stats := { plan.stats with considered := plan.stats.considered + 1 } }

/-- Counts a candidate whose cadence interval has not elapsed. -/
def skipByCadence (plan : ReplicationPlan) : ReplicationPlan :=
  { plan with stats := { plan.stats with skippedByCadence := plan.stats.skippedByCadence + 1 } }

/-- Counts a candidate beyond the hard limit. -/
def skipByBudget (plan : ReplicationPlan) : ReplicationPlan :=
  { plan with stats := { plan.stats with skippedByBudget := plan.stats.skippedByBudget + 1 } }

/-- The first-fit loop.  With `stopWhenBudgetFull` it ends at the entity that fills the limit
and counts the candidates it left. -/
def selectFirstFit (verdict : EntityHandle → CandidateVerdict F) (hardLimit : ℕ)
    (stopWhenBudgetFull : Bool) : List EntityHandle → ReplicationPlan → ReplicationPlan
  | [], plan => plan
  | handle :: rest, plan =>
      match verdict handle with
      | .stale => selectFirstFit verdict hardLimit stopWhenBudgetFull rest plan
      | .rejected =>
          selectFirstFit verdict hardLimit stopWhenBudgetFull rest (considerCandidate plan)
      | .delayed =>
          selectFirstFit verdict hardLimit stopWhenBudgetFull rest
            (skipByCadence (considerCandidate plan))
      | .admitted _ =>
          let plan := considerCandidate plan
          if plan.entities.length ≥ hardLimit then
            selectFirstFit verdict hardLimit stopWhenBudgetFull rest (skipByBudget plan)
          else
            let plan := { plan with entities := plan.entities ++ [handle] }
            if stopWhenBudgetFull ∧ plan.entities.length = hardLimit then
              { plan with stats := { plan.stats with unexaminedAfterBudget := rest.length } }
            else selectFirstFit verdict hardLimit stopWhenBudgetFull rest plan

/-- Clears a plan for a new candidate list. -/
def resetPlan (plan : ReplicationPlan) (candidates : List EntityHandle) : ReplicationPlan :=
  { plan with entities := [], stats := { ReplicationStats.default with
    candidates := candidates.length } }

/-- Records how many entities were selected and what they are charged. -/
def finishPlan (plan : ReplicationPlan) (budget : ReplicationBudget) : ReplicationPlan :=
  { plan with stats := { plan.stats with
    selected := plan.entities.length
    estimatedBytes := plan.entities.length * budget.estimatedEntityBytes } }

/-- First-fit planning over a candidate list. -/
def planForCandidatesInnerInto (verdict : EntityHandle → CandidateVerdict F)
    (candidates : List EntityHandle) (hardLimit : ℕ) (budget : ReplicationBudget)
    (stopWhenBudgetFull : Bool) (plan : ReplicationPlan) : ReplicationPlan :=
  let plan := resetPlan plan candidates
  if stopWhenBudgetFull ∧ hardLimit = 0 then
    { plan with stats := { plan.stats with unexaminedAfterBudget := candidates.length } }
  else finishPlan (selectFirstFit verdict hardLimit stopWhenBudgetFull candidates plan) budget

/-! ## Prioritized selection -/

/-- The loop of the prioritized planner: counts the verdicts and collects what was admitted. -/
def collectPrioritized (verdict : EntityHandle → CandidateVerdict F) :
    List EntityHandle → List (PrioritizedReplicationCandidate F) → ReplicationPlan →
      List (PrioritizedReplicationCandidate F) × ReplicationPlan
  | [], prioritized, plan => (prioritized, plan)
  | handle :: rest, prioritized, plan =>
      match verdict handle with
      | .stale => collectPrioritized verdict rest prioritized plan
      | .rejected => collectPrioritized verdict rest prioritized (considerCandidate plan)
      | .delayed =>
          collectPrioritized verdict rest prioritized (skipByCadence (considerCandidate plan))
      | .admitted candidate =>
          collectPrioritized verdict rest (prioritized ++ [candidate]) (considerCandidate plan)

/-- `slice::select_nth_unstable_by`: a deterministic rearrangement of the slice. -/
abbrev SelectNthUnstableBy (α : Type) : Type := ℕ → (α → α → Ordering) → List α → List α

/-- `slice::sort_by`: the stable sort. -/
def sortBy {α : Type} (compare : α → α → Ordering) (l : List α) : List α :=
  l.insertionSort fun a b => (compare a b).isLE

section Scalar

variable [Scalar F]
  (selectNthUnstableBy : SelectNthUnstableBy (PrioritizedReplicationCandidate F))

/-- Moves the `limit` best candidates to the front, in order, and returns how many they are. -/
def prioritizeCandidates (eligible : List (PrioritizedReplicationCandidate F)) (limit : ℕ) :
    ℕ × List (PrioritizedReplicationCandidate F) :=
  let selected := min eligible.length limit
  if selected = 0 then (0, eligible)
  else if selected * 2 < eligible.length then
    let eligible := selectNthUnstableBy selected comparePrioritizedCandidates eligible
    (selected,
      sortBy comparePrioritizedCandidates (eligible.take selected) ++ eligible.drop selected)
  else (selected, sortBy comparePrioritizedCandidates eligible)

/-- Priority planning over a candidate list. -/
def planForCandidatesPrioritizedInnerInto (verdict : EntityHandle → CandidateVerdict F)
    (candidates : List EntityHandle) (hardLimit : ℕ) (budget : ReplicationBudget)
    (_prioritized : List (PrioritizedReplicationCandidate F)) (plan : ReplicationPlan) :
    List (PrioritizedReplicationCandidate F) × ReplicationPlan :=
  let (eligible, plan) := collectPrioritized verdict candidates [] (resetPlan plan candidates)
  let (selected, eligible) := prioritizeCandidates selectNthUnstableBy eligible hardLimit
  let plan :=
    { plan with
      entities := plan.entities ++ (eligible.take selected).map fun candidate => candidate.handle
      stats := { plan.stats with skippedByBudget := eligible.length - selected } }
  (eligible, finishPlan plan budget)

/-! ## The configured kernel -/

/-- Plans a viewer over given candidates. -/
def planForCandidatesConfiguredInto (inputs : PlannerInputs F) (candidates : List EntityHandle)
    (viewer : ViewerQuery F) (prioritized : List (PrioritizedReplicationCandidate F))
    (plan : ReplicationPlan) :
    List (PrioritizedReplicationCandidate F) × ReplicationPlan :=
  let hardLimit := inputs.budget.hardLimit viewer.maxEntities
  match inputs.mode with
  | .throughput =>
      (prioritized,
        planForCandidatesInnerInto (examine inputs viewer) candidates hardLimit inputs.budget true
          plan)
  | .prioritized =>
      planForCandidatesPrioritizedInnerInto selectNthUnstableBy (examine inputs viewer) candidates
        hardLimit inputs.budget prioritized plan

/-- Plans one viewer through the configured kernel. -/
def planForViewerConfiguredInto (inputs : PlannerInputs F) (index : CellIndex F)
    (viewer : ViewerQuery F) (scratch : ReplicationScratch F) (plan : ReplicationPlan) :
    ReplicationScratch F × ReplicationPlan :=
  let cellQuery := index.querySphereInto viewer.position viewer.radius scratch.cellQuery
  let (prioritized, plan) := planForCandidatesConfiguredInto selectNthUnstableBy inputs
    cellQuery.handles viewer scratch.prioritized plan
  (⟨cellQuery, prioritized⟩, plan)

/-- The plan of a viewer over given candidates, from empty storage. -/
def planOver (inputs : PlannerInputs F) (candidates : List EntityHandle)
    (viewer : ViewerQuery F) : ReplicationPlan :=
  (planForCandidatesConfiguredInto selectNthUnstableBy inputs candidates viewer [] .default).2

/-- **The kernel reads nothing of its buffers.**  The plan and the priority buffer it is handed
are cleared before use. -/
theorem planForCandidatesConfiguredInto_eq (inputs : PlannerInputs F)
    (candidates : List EntityHandle) (viewer : ViewerQuery F)
    (prioritized : List (PrioritizedReplicationCandidate F)) (plan : ReplicationPlan) :
    (planForCandidatesConfiguredInto selectNthUnstableBy inputs candidates viewer prioritized
      plan).2 = planOver selectNthUnstableBy inputs candidates viewer := by
  unfold planOver planForCandidatesConfiguredInto
  cases inputs.mode with
  | throughput => rfl
  | prioritized => rfl

end Scalar

end ReplicationPlanner

end SectorSync
