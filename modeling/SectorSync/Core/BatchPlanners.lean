import SectorSync.Core.RangePlanner
import SectorSync.Core.ReplicationBatch

/-!
# The generic and the range-only batch planner

`replication.rs` plans a batch of viewers in two more ways than the configured one.  The generic
planner is the configured one with first-fit selection, no cache, every entity eligible and no
send history.  The range-only planner queries for every viewer and takes the candidates through
the range planner of the build.

`planForViewersRangeInto_spec` says what `planForViewersConfiguredInto_spec` says of the configured
planner, and with it of the generic one: a viewer gets the plan over its own candidates, whatever
the scratch and the slots were used for before.
-/

namespace SectorSync

variable {F : Type}

/-- Merges the report of another partition.  The candidates a full budget left unexamined are not
carried over. -/
def ReplicationBatchStats.merge (stats other : ReplicationBatchStats) : ReplicationBatchStats :=
  { stats with
    viewers := usizeSaturatingAdd stats.viewers other.viewers
    candidates := usizeSaturatingAdd stats.candidates other.candidates
    considered := usizeSaturatingAdd stats.considered other.considered
    selected := usizeSaturatingAdd stats.selected other.selected
    estimatedBytes := usizeSaturatingAdd stats.estimatedBytes other.estimatedBytes
    gridQueries := usizeSaturatingAdd stats.gridQueries other.gridQueries
    occupiedQueries := usizeSaturatingAdd stats.occupiedQueries other.occupiedQueries
    gridCellsProbed := usizeSaturatingAdd stats.gridCellsProbed other.gridCellsProbed
    occupiedCellsScanned := usizeSaturatingAdd stats.occupiedCellsScanned other.occupiedCellsScanned
    matchedCells := usizeSaturatingAdd stats.matchedCells other.matchedCells
    candidateCapacityMax := max stats.candidateCapacityMax other.candidateCapacityMax
    dedupCapacityMax := max stats.dedupCapacityMax other.dedupCapacityMax
    matchingCellCapacityMax := max stats.matchingCellCapacityMax other.matchingCellCapacityMax
    priorityCapacityMax := max stats.priorityCapacityMax other.priorityCapacityMax
    uniqueQueryRanges := usizeSaturatingAdd stats.uniqueQueryRanges other.uniqueQueryRanges
    reusedQueryRanges := usizeSaturatingAdd stats.reusedQueryRanges other.reusedQueryRanges
    cachedCandidateHandles :=
      usizeSaturatingAdd stats.cachedCandidateHandles other.cachedCandidateHandles
    queryCacheCapacityMax := max stats.queryCacheCapacityMax other.queryCacheCapacityMax
    queryCacheCandidateCapacityMax :=
      max stats.queryCacheCandidateCapacityMax other.queryCacheCandidateCapacityMax }

namespace ReplicationPlanner

open ReplicationBatchScratch

section Scalar

variable [Scalar F]

/-! ## The generic planner -/

section Generic

variable (selectNthUnstableBy : SelectNthUnstableBy (PrioritizedReplicationCandidate F))

/-- The configured call the generic planner makes. -/
def visibilityCall (station : Station F) (index : CellIndex F) (policies : PolicyTable F)
    (viewers : List (ViewerQuery F)) (filter : VisibilityFilter F) (budget : ReplicationBudget)
    (capacity : ℕ → ScratchCapacity) (cacheCapacity : ℕ) : BatchCall F where
  inputs :=
    { station := station
      policies := policies
      filter := filter
      budget := budget
      mode := .throughput
      eligible := fun _ _ _ => true
      lastSent := fun _ _ => none }
  index := index
  viewers := viewers
  maxCachedQueryRanges := 0
  capacity := capacity
  cacheCapacity := cacheCapacity

/-- Plans viewers into caller-owned scratch and ordered output storage. -/
def planForViewersInto (station : Station F) (index : CellIndex F) (policies : PolicyTable F)
    (viewers : List (ViewerQuery F)) (filter : VisibilityFilter F) (budget : ReplicationBudget)
    (capacity : ℕ → ScratchCapacity) (cacheCapacity : ℕ)
    (state : ReplicationScratch F × ReplicationBatchScratch) :
    ReplicationScratch F × ReplicationBatchScratch :=
  planForViewersConfiguredInto selectNthUnstableBy
    (visibilityCall station index policies viewers filter budget capacity cacheCapacity) state

end Generic

/-! ## The range-only planner -/

/-- The two builds of the range planner. -/
inductive RangeBuild where
  | scalar
  | simd

/-- The range planner of a build. -/
def RangeBuild.planForRangeCandidatesInto (build : RangeBuild) (station : Station F)
    (candidates : List EntityHandle) (policies : PolicyTable F) (viewer : ViewerQuery F)
    (budget : ReplicationBudget) (plan : ReplicationPlan) : ReplicationPlan :=
  match build with
  | .scalar =>
      ReplicationPlanner.planForRangeCandidatesInto station candidates policies viewer budget plan
  | .simd => planForRangeCandidatesIntoSimd station candidates policies viewer budget plan

variable (build : RangeBuild) (station : Station F) (index : CellIndex F)
  (policies : PolicyTable F)

/-- Plans one range-only viewer into reusable output. -/
def planForViewerRangeInto (viewer : ViewerQuery F) (budget : ReplicationBudget)
    (scratch : ReplicationScratch F) (plan : ReplicationPlan) :
    ReplicationScratch F × ReplicationPlan :=
  let cellQuery := index.querySphereInto viewer.position viewer.radius scratch.cellQuery
  ({ scratch with cellQuery := cellQuery },
    build.planForRangeCandidatesInto station cellQuery.handles policies viewer budget plan)

/-- One viewer of a range-only batch. -/
def planRangeViewer (budget : ReplicationBudget) (capacity : ℕ → ScratchCapacity)
    (state : ReplicationScratch F × ReplicationBatchScratch) (viewer : ViewerQuery F × ℕ) :
    ReplicationScratch F × ReplicationBatchScratch :=
  let (scratch, batch) := state
  let (viewer, viewerIndex) := viewer
  let (scratch, plan) := planForViewerRangeInto build station index policies viewer budget scratch
    (batch.plans.getD viewerIndex .default)
  (scratch, batch.storePlan viewerIndex plan
    (batch.stats.record plan scratch.cellQuery.stats (capacity viewerIndex)))

/-- Plans a range-only viewer batch into caller-owned reusable output slots. -/
def planForViewersRangeInto (viewers : List (ViewerQuery F)) (budget : ReplicationBudget)
    (capacity : ℕ → ScratchCapacity) (state : ReplicationScratch F × ReplicationBatchScratch) :
    ReplicationScratch F × ReplicationBatchScratch :=
  let (scratch, batch) := state
  viewers.zipIdx.foldl (planRangeViewer build station index policies budget capacity)
    (scratch, batch.prepare viewers.length)

/-! ## What the batches hold -/

/-- The range planner clears the plan it is handed. -/
lemma RangeBuild.planForRangeCandidatesInto_eq (candidates : List EntityHandle)
    (viewer : ViewerQuery F) (budget : ReplicationBudget) (plan : ReplicationPlan) :
    build.planForRangeCandidatesInto station candidates policies viewer budget plan
      = build.planForRangeCandidatesInto station candidates policies viewer budget .default := by
  cases build with
  | scalar => rfl
  | simd => rfl

/-- The range-only plan of a viewer: over its own candidates, from empty storage. -/
def rangePlan (budget : ReplicationBudget) (viewer : ViewerQuery F) : ReplicationPlan :=
  build.planForRangeCandidatesInto station (viewerCandidates index viewer) policies viewer budget
    .default

/-- **One range-only viewer.**  With any usable scratch and any old plan, the viewer is planned
over its own candidates. -/
lemma planRangeViewer_spec (budget : ReplicationBudget) (capacity : ℕ → ScratchCapacity)
    {state : ReplicationScratch F × ReplicationBatchScratch}
    (h : state.1.cellQuery.WellFormed) (viewer : ViewerQuery F) (viewerIndex : ℕ)
    {final : ReplicationScratch F × ReplicationBatchScratch}
    (hfinal : final = planRangeViewer build station index policies budget capacity state
      (viewer, viewerIndex)) :
    final.1.cellQuery.WellFormed ∧
      final.2.plans = state.2.plans.set viewerIndex
        (rangePlan build station index policies budget viewer) ∧
      final.2.activePlans = state.2.activePlans := by
  obtain ⟨hwf, hhandles⟩ := querySphereInto_spec index viewer h
  subst hfinal
  refine ⟨hwf, ?_, rfl⟩
  simp only [planRangeViewer, planForViewerRangeInto, storePlan, hhandles]
  rw [RangeBuild.planForRangeCandidatesInto_eq]
  rfl

/-- **A range-only batch.**  Every viewer gets the plan over its own candidates, and the scratch
stays usable. -/
theorem planForViewersRangeInto_spec (viewers : List (ViewerQuery F)) (budget : ReplicationBudget)
    (capacity : ℕ → ScratchCapacity) {scratch : ReplicationScratch F}
    (batch : ReplicationBatchScratch) (hs : scratch.cellQuery.WellFormed)
    {final : ReplicationScratch F × ReplicationBatchScratch}
    (hfinal : final = planForViewersRangeInto build station index policies viewers budget capacity
      (scratch, batch)) :
    final.1.cellQuery.WellFormed ∧
      final.2.viewPlans = viewers.map (rangePlan build station index policies budget) := by
  have hlen : 0 + viewers.length ≤ (batch.prepare viewers.length).plans.length := by
    show _ ≤ (batch.plans ++ List.replicate _ _).length
    rw [List.length_append, List.length_replicate]
    omega
  obtain ⟨hwf, hactive, htake⟩ := foldl_writes
    (I := fun state : ReplicationScratch F × ReplicationBatchScratch => state.1.cellQuery.WellFormed)
    (fun _ viewer i hstate =>
      planRangeViewer_spec build station index policies budget capacity hstate viewer i rfl)
    viewers 0 hs hlen hfinal
  rw [List.take_zero, List.nil_append, Nat.zero_add] at htake
  refine ⟨hwf, ?_⟩
  rw [viewPlans, hactive]
  exact htake

end Scalar

end ReplicationPlanner

end SectorSync
