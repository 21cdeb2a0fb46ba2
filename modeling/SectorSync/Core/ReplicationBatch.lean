import SectorSync.Base.Run
import SectorSync.Core.Counters
import SectorSync.Core.Replication

/-!
# Replication planning for a batch of viewers

The batch planner of `replication.rs`.  Viewers whose query spheres touch the same cell range have
the same candidates; the batch counts the ranges first and keeps the candidates of the repeated
ones in a cache of bounded size, which later viewers of the range are planned over.

`Holds` is what the cache holds between two viewers: under each key the candidates of its range.
With `queryRangeInto_spec` it makes every plan the plan over the candidates of the viewer's own
range, whichever viewers hit the cache, and `batch_plans_eq_single` is the statement over any
history of the scratch.
-/

namespace SectorSync

open Machine

variable {F : Type}

/-- Capacities the allocator reports for a scratch. -/
structure ScratchCapacity where
  candidate : ℕ
  dedup : ℕ
  matchingCell : ℕ
  prioritized : ℕ

/-- Aggregated work and retained-capacity signals from one viewer batch. -/
structure ReplicationBatchStats where
  viewers : ℕ
  candidates : ℕ
  considered : ℕ
  selected : ℕ
  unexaminedAfterBudget : ℕ
  estimatedBytes : ℕ
  gridQueries : ℕ
  occupiedQueries : ℕ
  gridCellsProbed : ℕ
  occupiedCellsScanned : ℕ
  matchedCells : ℕ
  candidateCapacityMax : ℕ
  dedupCapacityMax : ℕ
  matchingCellCapacityMax : ℕ
  priorityCapacityMax : ℕ
  uniqueQueryRanges : ℕ
  reusedQueryRanges : ℕ
  cachedCandidateHandles : ℕ
  queryCacheCapacityMax : ℕ
  queryCacheCandidateCapacityMax : ℕ
  deriving DecidableEq

namespace ReplicationBatchStats

/-- All counters zero. -/
def default : ReplicationBatchStats :=
  ⟨0, 0, 0, 0, 0, 0, 0, 0, 0, 0, 0, 0, 0, 0, 0, 0, 0, 0, 0, 0⟩

/-- Adds the counters of a plan. -/
def recordPlan (stats : ReplicationBatchStats) (plan : ReplicationPlan)
    (capacity : ScratchCapacity) : ReplicationBatchStats :=
  { stats with
    candidates := usizeSaturatingAdd stats.candidates plan.stats.candidates
    considered := usizeSaturatingAdd stats.considered plan.stats.considered
    selected := usizeSaturatingAdd stats.selected plan.stats.selected
    unexaminedAfterBudget :=
      usizeSaturatingAdd stats.unexaminedAfterBudget plan.stats.unexaminedAfterBudget
    estimatedBytes := usizeSaturatingAdd stats.estimatedBytes plan.stats.estimatedBytes
    candidateCapacityMax := max stats.candidateCapacityMax capacity.candidate
    dedupCapacityMax := max stats.dedupCapacityMax capacity.dedup
    matchingCellCapacityMax := max stats.matchingCellCapacityMax capacity.matchingCell
    priorityCapacityMax := max stats.priorityCapacityMax capacity.prioritized }

/-- Records a viewer that was queried. -/
def record (stats : ReplicationBatchStats) (plan : ReplicationPlan) (query : CellQueryStats)
    (capacity : ScratchCapacity) : ReplicationBatchStats :=
  let stats := stats.recordPlan plan capacity
  { stats with
    viewers := usizeSaturatingAdd stats.viewers 1
    gridQueries := match query.strategy with
      | .grid => usizeSaturatingAdd stats.gridQueries 1
      | .occupiedCells => stats.gridQueries
    occupiedQueries := match query.strategy with
      | .grid => stats.occupiedQueries
      | .occupiedCells => usizeSaturatingAdd stats.occupiedQueries 1
    gridCellsProbed := usizeSaturatingAdd stats.gridCellsProbed query.gridCellsProbed
    occupiedCellsScanned := usizeSaturatingAdd stats.occupiedCellsScanned query.occupiedCellsScanned
    matchedCells := usizeSaturatingAdd stats.matchedCells query.matchedCells }

/-- Records a viewer served from the cache. -/
def recordReusedQuery (stats : ReplicationBatchStats) (plan : ReplicationPlan)
    (capacity : ScratchCapacity) : ReplicationBatchStats :=
  let stats := stats.recordPlan plan capacity
  { stats with
    viewers := usizeSaturatingAdd stats.viewers 1
    reusedQueryRanges := usizeSaturatingAdd stats.reusedQueryRanges 1 }

end ReplicationBatchStats

/-- The cell range of a viewer's query. -/
structure BatchQueryKey where
  min : CellCoord3
  max : CellCoord3
  deriving DecidableEq

/-- One entry of the candidate cache. -/
structure CachedBatchQuery where
  handles : List EntityHandle

/-- Caller-owned reusable output storage for viewer batch planning. -/
structure ReplicationBatchScratch where
  plans : List ReplicationPlan
  activePlans : ℕ
  stats : ReplicationBatchStats
  queryCounts : HashMap BatchQueryKey ℕ
  queryCacheIndex : HashMap BatchQueryKey ℕ
  queryCache : List CachedBatchQuery
  activeQueryCache : ℕ

namespace ReplicationBatchScratch

/-- Empty batch output storage. -/
def new : ReplicationBatchScratch := ⟨[], 0, .default, ∅, ∅, [], 0⟩

/-- The plans of the most recent call. -/
def viewPlans (batch : ReplicationBatchScratch) : List ReplicationPlan :=
  batch.plans.take batch.activePlans

/-- Prepares the storage for a call with as many viewers as `plans`. -/
def prepare (batch : ReplicationBatchScratch) (plans : ℕ) : ReplicationBatchScratch :=
  { batch with
    plans := batch.plans ++ List.replicate (plans - batch.plans.length) .default
    activePlans := plans
    stats := .default
    queryCounts := ∅
    queryCacheIndex := ∅
    activeQueryCache := 0 }

/-- Whether more than one viewer of the batch has the range. -/
def queryRepeats (batch : ReplicationBatchScratch) (key : BatchQueryKey) : Bool :=
  (batch.queryCounts.lookup key).any fun count => decide (count > 1)

/-- The cache entry of a range. -/
def cachedQuery (batch : ReplicationBatchScratch) (key : BatchQueryKey) : Option ℕ :=
  batch.queryCacheIndex.lookup key

/-- Caches the candidates of a range unless the cache is full. -/
def cacheQuery (batch : ReplicationBatchScratch) (key : BatchQueryKey)
    (handles : List EntityHandle) (maxCachedQueryRanges : ℕ) : ReplicationBatchScratch :=
  if batch.activeQueryCache ≥ maxCachedQueryRanges then batch
  else
    let cacheIndex := batch.activeQueryCache
    { batch with
      queryCache :=
        if cacheIndex = batch.queryCache.length then batch.queryCache ++ [⟨handles⟩]
        else batch.queryCache.set cacheIndex ⟨handles⟩
      queryCacheIndex := batch.queryCacheIndex.insert key cacheIndex
      activeQueryCache := batch.activeQueryCache + 1
      stats := { batch.stats with
        cachedCandidateHandles :=
          usizeSaturatingAdd batch.stats.cachedCandidateHandles handles.length } }

/-- Records the retained capacity of the cache. -/
def recordQueryCacheCapacity (batch : ReplicationBatchScratch) (candidateCapacity : ℕ) :
    ReplicationBatchScratch :=
  { batch with stats := { batch.stats with
    queryCacheCapacityMax := batch.queryCache.length
    queryCacheCandidateCapacityMax := candidateCapacity } }

/-- Writes the plan of a viewer and the counters that go with it. -/
def storePlan (batch : ReplicationBatchScratch) (viewerIndex : ℕ) (plan : ReplicationPlan)
    (stats : ReplicationBatchStats) : ReplicationBatchScratch :=
  { batch with plans := batch.plans.set viewerIndex plan, stats := stats }

section Scalar

variable [Scalar F]

/-- The cell range of a viewer's query. -/
def batchQueryKey (index : CellIndex F) (viewer : ViewerQuery F) : BatchQueryKey :=
  let aabb := (Bounds.sphere viewer.radius).toAabb viewer.position
  ⟨index.grid.cellAt aabb.min, index.grid.cellAt aabb.max⟩

/-- Counts how often each range occurs in the batch. -/
def prepareQueryRanges (batch : ReplicationBatchScratch) (index : CellIndex F)
    (viewers : List (ViewerQuery F)) : ReplicationBatchScratch :=
  let queryCounts := viewers.foldl (fun counts viewer =>
    let key := batchQueryKey index viewer
    counts.insert key ((counts.lookup key).getD 0 + 1)) batch.queryCounts
  { batch with
    queryCounts := queryCounts
    stats := { batch.stats with uniqueQueryRanges := queryCounts.size } }

end Scalar

end ReplicationBatchScratch

/-! ## The batch planner -/

namespace ReplicationPlanner

open ReplicationBatchScratch

section Scalar

variable [Scalar F]
  (selectNthUnstableBy : SelectNthUnstableBy (PrioritizedReplicationCandidate F))

/-- The arguments of one batch call.  `capacity` is what the allocator reports after each viewer,
`cacheCapacity` after the call. -/
structure BatchCall (F : Type) where
  inputs : PlannerInputs F
  index : CellIndex F
  viewers : List (ViewerQuery F)
  maxCachedQueryRanges : ℕ
  capacity : ℕ → ScratchCapacity
  cacheCapacity : ℕ

/-- One viewer of a batch: over the cached candidates of its range, or over a query of its own,
which is cached when the range repeats. -/
def planBatchViewer (call : BatchCall F)
    (state : ReplicationScratch F × ReplicationBatchScratch) (viewer : ViewerQuery F × ℕ) :
    ReplicationScratch F × ReplicationBatchScratch :=
  let (scratch, batch) := state
  let (viewer, viewerIndex) := viewer
  let key := batchQueryKey call.index viewer
  let oldPlan := batch.plans.getD viewerIndex .default
  match batch.cachedQuery key with
  | some cacheIndex =>
      let candidates := (batch.queryCache.getD cacheIndex ⟨[]⟩).handles
      let (prioritized, plan) := planForCandidatesConfiguredInto selectNthUnstableBy call.inputs
        candidates viewer scratch.prioritized oldPlan
      ({ scratch with prioritized := prioritized },
        batch.storePlan viewerIndex plan
          (batch.stats.recordReusedQuery plan (call.capacity viewerIndex)))
  | none =>
      let cellQuery := call.index.querySphereInto viewer.position viewer.radius scratch.cellQuery
      let batch :=
        if batch.queryRepeats key then
          batch.cacheQuery key cellQuery.handles call.maxCachedQueryRanges
        else batch
      let (prioritized, plan) := planForCandidatesConfiguredInto selectNthUnstableBy call.inputs
        cellQuery.handles viewer scratch.prioritized oldPlan
      (⟨cellQuery, prioritized⟩,
        batch.storePlan viewerIndex plan
          (batch.stats.record plan cellQuery.stats (call.capacity viewerIndex)))

/-- Plans viewers in input order through the configured reusable kernel. -/
def planForViewersConfiguredInto (call : BatchCall F)
    (state : ReplicationScratch F × ReplicationBatchScratch) :
    ReplicationScratch F × ReplicationBatchScratch :=
  let (scratch, batch) := state
  let batch := (batch.prepare call.viewers.length).prepareQueryRanges call.index call.viewers
  let (scratch, batch) :=
    call.viewers.zipIdx.foldl (planBatchViewer selectNthUnstableBy call) (scratch, batch)
  (scratch, batch.recordQueryCacheCapacity call.cacheCapacity)

/-! ## The cache invariant -/

/-- The candidates of a viewer: those of the cell range of its query sphere. -/
def viewerCandidates (index : CellIndex F) (viewer : ViewerQuery F) : List EntityHandle :=
  index.candidates (batchQueryKey index viewer).min (batchQueryKey index viewer).max

/-- A query sphere returns the candidates of the viewer. -/
lemma querySphereInto_spec (index : CellIndex F) (viewer : ViewerQuery F) {s : CellQueryScratch}
    (hs : s.WellFormed) :
    (index.querySphereInto viewer.position viewer.radius s).WellFormed ∧
      (index.querySphereInto viewer.position viewer.radius s).handles
        = viewerCandidates index viewer :=
  index.queryRangeInto_spec _ _ hs

/-- A viewer planned alone is planned over its candidates, with any usable scratch. -/
lemma planForViewerConfiguredInto_eq (inputs : PlannerInputs F) (index : CellIndex F)
    (viewer : ViewerQuery F) {scratch : ReplicationScratch F} (plan : ReplicationPlan)
    (hs : scratch.cellQuery.WellFormed) :
    (planForViewerConfiguredInto selectNthUnstableBy inputs index viewer scratch plan).2
      = planOver selectNthUnstableBy inputs (viewerCandidates index viewer) viewer := by
  rw [← (querySphereInto_spec index viewer hs).2]
  exact planForCandidatesConfiguredInto_eq _ _ _ _ _ _

end Scalar

/-- What the cache holds between two viewers of a batch over `index`: the entries in use come
first, and each key leads to the candidates of its range. -/
structure Holds (index : CellIndex F) (batch : ReplicationBatchScratch) : Prop where
  active_le : batch.activeQueryCache ≤ batch.queryCache.length
  cached : ∀ key i, batch.cachedQuery key = some i →
    i < batch.activeQueryCache ∧ batch.queryCache[i]? = some ⟨index.candidates key.min key.max⟩

variable {index : CellIndex F} {batch : ReplicationBatchScratch}

/-- Storing a plan does not touch the cache. -/
lemma Holds.storePlan (h : Holds index batch) (i : ℕ) (plan : ReplicationPlan)
    (stats : ReplicationBatchStats) : Holds index (batch.storePlan i plan stats) :=
  ⟨h.active_le, h.cached⟩

/-- Caching the candidates of a range keeps the other entries: the slot written is not in use. -/
lemma Holds.cacheQuery (h : Holds index batch) (key : BatchQueryKey) (maxCachedQueryRanges : ℕ) :
    Holds index
      (batch.cacheQuery key (index.candidates key.min key.max) maxCachedQueryRanges) := by
  unfold ReplicationBatchScratch.cacheQuery
  split_ifs with hfull
  · exact h
  · have hslot : ∀ entry : CachedBatchQuery, ∀ i : ℕ,
        (if batch.activeQueryCache = batch.queryCache.length then batch.queryCache ++ [entry]
          else batch.queryCache.set batch.activeQueryCache entry)[i]?
        = if i = batch.activeQueryCache then some entry else batch.queryCache[i]? := by
      intro entry i
      have hle := h.active_le
      split_ifs with hlen hi hi
      · rw [hi, hlen, List.getElem?_concat_length]
      · rw [List.getElem?_append]
        split_ifs with hlt
        · rfl
        · rw [List.getElem?_eq_none (by simp; omega), List.getElem?_eq_none (by omega)]
      · rw [hi, List.getElem?_set_self (by omega)]
      · rw [List.getElem?_set_ne (by omega)]
    refine ⟨?_, fun key' i hkey' => ?_⟩
    · show batch.activeQueryCache + 1 ≤ List.length (if _ then _ else _)
      have hle := h.active_le
      split_ifs with hlen
      · rw [List.length_append, List.length_singleton]
        omega
      · rw [List.length_set]
        omega
    · rw [cachedQuery, Finmap.lookup_insert_eq] at hkey'
      show i < batch.activeQueryCache + 1 ∧ _
      rw [hslot]
      split_ifs at hkey' with hkey
      · rw [← Option.some.inj hkey', hkey, if_pos rfl]
        exact ⟨Nat.lt_succ_self _, rfl⟩
      · obtain ⟨hlt, hget⟩ := h.cached key' i hkey'
        rw [if_neg hlt.ne]
        exact ⟨hlt.trans (Nat.lt_succ_self _), hget⟩

/-- A prepared batch has an empty cache. -/
lemma holds_prepare (index : CellIndex F) (batch : ReplicationBatchScratch) (plans : ℕ) :
    Holds index (batch.prepare plans) where
  active_le := Nat.zero_le _
  cached key i hkey := by simp [cachedQuery, ReplicationBatchScratch.prepare] at hkey

lemma cacheQuery_plans (key : BatchQueryKey) (handles : List EntityHandle)
    (maxCachedQueryRanges : ℕ) :
    (batch.cacheQuery key handles maxCachedQueryRanges).plans = batch.plans ∧
      (batch.cacheQuery key handles maxCachedQueryRanges).activePlans = batch.activePlans := by
  unfold cacheQuery
  split_ifs
  · exact ⟨rfl, rfl⟩
  · exact ⟨rfl, rfl⟩

/-! ## Runs over the viewers -/

/-- A loop over viewers whose step keeps an invariant and writes, at the viewer's position, a plan
that depends on the viewer alone, writes these plans from position `start` on. -/
lemma foldl_writes {σ V : Type}
    {step : σ × ReplicationBatchScratch → V × ℕ → σ × ReplicationBatchScratch}
    {I : σ × ReplicationBatchScratch → Prop} {planOf : V → ReplicationPlan}
    (hstep : ∀ state viewer i, I state → I (step state (viewer, i)) ∧
      (step state (viewer, i)).2.plans = state.2.plans.set i (planOf viewer) ∧
      (step state (viewer, i)).2.activePlans = state.2.activePlans)
    (viewers : List V) (start : ℕ) {state : σ × ReplicationBatchScratch} (h : I state)
    (hlen : start + viewers.length ≤ state.2.plans.length) {final : σ × ReplicationBatchScratch}
    (hfinal : final = (viewers.zipIdx start).foldl step state) :
    I final ∧ final.2.activePlans = state.2.activePlans ∧
      final.2.plans.take (start + viewers.length)
        = state.2.plans.take start ++ viewers.map planOf := by
  induction viewers generalizing start state with
  | nil =>
      rw [List.zipIdx_nil, List.foldl_nil] at hfinal
      subst hfinal
      exact ⟨h, rfl, by simp⟩
  | cons viewer viewers ih =>
      rw [List.zipIdx_cons, List.foldl_cons] at hfinal
      rw [List.length_cons] at hlen
      obtain ⟨hnext, hplans, hactive⟩ := hstep state viewer start h
      obtain ⟨hinv, hactive', htake⟩ := ih (start + 1) hnext
        (by rw [hplans, List.length_set]; omega) hfinal
      refine ⟨hinv, hactive'.trans hactive, ?_⟩
      have hwritten : (state.2.plans.set start (planOf viewer)).take (start + 1)
          = state.2.plans.take start ++ [planOf viewer] := by
        rw [List.take_add_one, List.take_set_of_le (le_refl start),
          List.getElem?_set_self (by omega), Option.toList_some]
      rw [hplans, hwritten, List.append_assoc, List.singleton_append] at htake
      rw [List.length_cons, List.map_cons, ← Nat.add_assoc, Nat.add_right_comm]
      exact htake

section Scalar

variable [Scalar F]
  (selectNthUnstableBy : SelectNthUnstableBy (PrioritizedReplicationCandidate F))

/-- What holds between two viewers of a batch: the scratch is usable and the cache holds. -/
structure BatchInvariant (index : CellIndex F)
    (state : ReplicationScratch F × ReplicationBatchScratch) : Prop where
  wellFormed : state.1.cellQuery.WellFormed
  holds : Holds index state.2

/-- **One viewer.**  Cached or queried, the viewer is planned over its own candidates. -/
lemma planBatchViewer_spec (call : BatchCall F)
    {state : ReplicationScratch F × ReplicationBatchScratch}
    (h : BatchInvariant call.index state) (viewer : ViewerQuery F) (viewerIndex : ℕ) :
    BatchInvariant call.index (planBatchViewer selectNthUnstableBy call state
        (viewer, viewerIndex)) ∧
      (planBatchViewer selectNthUnstableBy call state (viewer, viewerIndex)).2.plans
        = state.2.plans.set viewerIndex
          (planOver selectNthUnstableBy call.inputs (viewerCandidates call.index viewer)
            viewer) ∧
      (planBatchViewer selectNthUnstableBy call state (viewer, viewerIndex)).2.activePlans
        = state.2.activePlans := by
  obtain ⟨scratch, batch⟩ := state
  obtain ⟨hwf, hholds⟩ := h
  cases hcached : batch.cachedQuery (batchQueryKey call.index viewer) with
  | some cacheIndex =>
      obtain ⟨-, hget⟩ := hholds.cached _ _ hcached
      have hcandidates : (batch.queryCache.getD cacheIndex ⟨[]⟩).handles
          = viewerCandidates call.index viewer := by
        rw [List.getD_eq_getElem?_getD, hget]
        rfl
      simp only [planBatchViewer, hcached, hcandidates]
      refine ⟨⟨hwf, hholds.storePlan _ _ _⟩, ?_, rfl⟩
      rw [ReplicationBatchScratch.storePlan, planForCandidatesConfiguredInto_eq]
  | none =>
      obtain ⟨hwf', hhandles⟩ := querySphereInto_spec call.index viewer hwf
      simp only [planBatchViewer, hcached, hhandles]
      have hholds' : Holds call.index
          (if batch.queryRepeats (batchQueryKey call.index viewer) then
            batch.cacheQuery (batchQueryKey call.index viewer)
              (viewerCandidates call.index viewer) call.maxCachedQueryRanges
          else batch) := by
        split_ifs
        · exact hholds.cacheQuery _ _
        · exact hholds
      refine ⟨⟨hwf', hholds'.storePlan _ _ _⟩, ?_, ?_⟩
      · rw [ReplicationBatchScratch.storePlan, planForCandidatesConfiguredInto_eq]
        split_ifs
        · rw [(cacheQuery_plans _ _ _).1]
        · rfl
      · rw [ReplicationBatchScratch.storePlan]
        split_ifs
        · rw [(cacheQuery_plans _ _ _).2]
        · rfl

/-- The loop over the viewers from position `start` on writes their plans there. -/
lemma foldl_planBatchViewer_spec (call : BatchCall F) (viewers : List (ViewerQuery F))
    (start : ℕ) {state : ReplicationScratch F × ReplicationBatchScratch}
    (h : BatchInvariant call.index state) (hlen : start + viewers.length ≤ state.2.plans.length)
    {final : ReplicationScratch F × ReplicationBatchScratch}
    (hfinal : final
      = (viewers.zipIdx start).foldl (planBatchViewer selectNthUnstableBy call) state) :
    BatchInvariant call.index final ∧ final.2.activePlans = state.2.activePlans ∧
      final.2.plans.take (start + viewers.length) = state.2.plans.take start
        ++ viewers.map fun viewer =>
          planOver selectNthUnstableBy call.inputs (viewerCandidates call.index viewer) viewer :=
  foldl_writes (I := BatchInvariant call.index) (fun _ viewer i hstate =>
    planBatchViewer_spec selectNthUnstableBy call hstate viewer i) viewers start h hlen hfinal

/-- **A batch call.**  Every viewer gets the plan over its own candidates, and the scratch stays
usable. -/
theorem planForViewersConfiguredInto_spec (call : BatchCall F) {scratch : ReplicationScratch F}
    (batch : ReplicationBatchScratch) (hs : scratch.cellQuery.WellFormed) :
    (planForViewersConfiguredInto selectNthUnstableBy call (scratch, batch)).1.cellQuery.WellFormed ∧
      (planForViewersConfiguredInto selectNthUnstableBy call (scratch, batch)).2.viewPlans
        = call.viewers.map fun viewer =>
          planOver selectNthUnstableBy call.inputs (viewerCandidates call.index viewer)
            viewer := by
  have hprepared : BatchInvariant call.index
      (scratch, (batch.prepare call.viewers.length).prepareQueryRanges call.index call.viewers) := by
    have hholds := holds_prepare call.index batch call.viewers.length
    exact ⟨hs, ⟨hholds.active_le, hholds.cached⟩⟩
  have hlen : 0 + call.viewers.length ≤ ((batch.prepare call.viewers.length).prepareQueryRanges
      call.index call.viewers).plans.length := by
    show _ ≤ (batch.plans ++ List.replicate _ _).length
    rw [List.length_append, List.length_replicate]
    omega
  obtain ⟨hinv, hactive, htake⟩ := foldl_planBatchViewer_spec selectNthUnstableBy call call.viewers
    0 hprepared hlen rfl
  rw [List.take_zero, List.nil_append, Nat.zero_add] at htake
  refine ⟨hinv.wellFormed, ?_⟩
  show List.take (List.foldl (planBatchViewer selectNthUnstableBy call) _ _).2.activePlans
    (List.foldl (planBatchViewer selectNthUnstableBy call) _ _).2.plans = _
  rw [hactive]
  exact htake

/-! ## Histories of a scratch -/

/-- The uses of a replication scratch: batch calls, with whatever batch storage, single viewers,
and clearing. -/
inductive ScratchOp (F : Type) where
  | batch (call : BatchCall F) (storage : ReplicationBatchScratch)
  | single (inputs : PlannerInputs F) (index : CellIndex F) (viewer : ViewerQuery F)
      (plan : ReplicationPlan)
  | clear

/-- The scratch after one use. -/
def useScratch (scratch : ReplicationScratch F) : ScratchOp F → ReplicationScratch F
  | .batch call storage =>
      (planForViewersConfiguredInto selectNthUnstableBy call (scratch, storage)).1
  | .single inputs index viewer plan =>
      (planForViewerConfiguredInto selectNthUnstableBy inputs index viewer scratch plan).1
  | .clear => scratch.clear

/-- Every use leaves usable scratch. -/
lemma useScratch_wellFormed {scratch : ReplicationScratch F} (op : ScratchOp F)
    (hs : scratch.cellQuery.WellFormed) :
    (useScratch selectNthUnstableBy scratch op).cellQuery.WellFormed := by
  cases op with
  | batch call storage =>
      exact (planForViewersConfiguredInto_spec selectNthUnstableBy call storage hs).1
  | single inputs index viewer plan => exact (querySphereInto_spec index viewer hs).1
  | clear => exact (CellQueryScratch.clear_spec hs).wellFormed

/-- **Batched planning is an optimisation only.**  After any history of the scratch, and with
whatever batch storage earlier calls left, a batch plans each viewer as the viewer would be
planned alone with fresh scratch, for every bound on the cache. -/
theorem batch_plans_eq_single (history : List (ScratchOp F)) (storage : ReplicationBatchScratch)
    (call : BatchCall F) :
    (planForViewersConfiguredInto selectNthUnstableBy call
        (execute (useScratch selectNthUnstableBy) .default history, storage)).2.viewPlans
      = call.viewers.map fun viewer =>
        (planForViewerConfiguredInto selectNthUnstableBy call.inputs call.index viewer .default
          .default).2 := by
  have hfresh : (ReplicationScratch.default (F := F)).cellQuery.WellFormed :=
    CellQueryScratch.wellFormed_new
  have hscratch := execute_preserves
    (I := fun scratch : ReplicationScratch F => scratch.cellQuery.WellFormed)
    (fun scratch op h => useScratch_wellFormed selectNthUnstableBy op h) hfresh history
  rw [(planForViewersConfiguredInto_spec selectNthUnstableBy call storage hscratch).2]
  refine List.map_congr_left fun viewer _ => ?_
  exact (planForViewerConfiguredInto_eq selectNthUnstableBy call.inputs call.index viewer .default
    hfresh).symm

end Scalar

end ReplicationPlanner

end SectorSync
