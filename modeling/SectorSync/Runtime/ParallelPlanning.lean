import SectorSync.Base.Lanes
import SectorSync.Base.Run
import SectorSync.Core.BatchStats

/-!
# Parallel replication planning

The planning calls of `parallel.rs`.  The station batches of a call are cut into chunks of
`batches.len().div_ceil(lanes)`, the retained output slots of the call into chunks of the same
size, and each pair of chunks goes to one retained scratch lane.  The parallel iterators are taken
to do what their sequential counterparts do.

Division, chunking and slicing return nothing where the source panics.  `PoolRun.planned` is a
ghost: for every lane that got work, the batches it planned with their positions.  The three calls
differ in the planner of a batch only (`planBatches`), and `planBatches_spec` is the rule for all
of them: the slot of a batch holds what the planner makes of the batch in any usable scratch.
-/

namespace SectorSync

open Machine ReplicationPlanner

variable {F B : Type}

/-! ## Partial operations -/

/-- Integer division, rounded up.  Division by zero panics. -/
def divCeil (a b : ℕ) : Option ℕ :=
  if b = 0 then none else if a % b > 0 then some (a / b + 1) else some (a / b)

/-- The first `n` elements of a slice.  More than there are panics. -/
def sliceTo {α : Type} (l : List α) (n : ℕ) : Option (List α) :=
  if n ≤ l.length then some (l.take n) else none

/-- The chunks of a parallel slice.  Chunks of size zero panic. -/
def parChunks {α : Type} (size : ℕ) (l : List α) : Option (List (List α)) :=
  if size = 0 then none else some (chunksOf size l)

lemma divCeil_eq {b : ℕ} (hb : 0 < b) (a : ℕ) : divCeil a b = some (a ⌈/⌉ b) := by
  have hdiv : a ⌈/⌉ b = if a % b > 0 then a / b + 1 else a / b := by
    rw [Nat.ceilDiv_eq_add_pred_div]
    have hsplit := Nat.div_add_mod a b
    have hlt := Nat.mod_lt a hb
    split_ifs with hmod
    · have hsum : a + b - 1 = (a % b - 1) + b * (a / b + 1) := by
        rw [Nat.mul_add, Nat.mul_one]
        omega
      rw [hsum, Nat.add_mul_div_left _ _ hb, Nat.div_eq_of_lt (by omega), Nat.zero_add]
    · have hsum : a + b - 1 = (b - 1) + b * (a / b) := by omega
      rw [hsum, Nat.add_mul_div_left _ _ hb, Nat.div_eq_of_lt (by omega), Nat.zero_add]
  rw [divCeil, if_neg hb.ne', hdiv]
  split_ifs
  · rfl
  · rfl

/-! ## The pool -/

/-- Configuration of a replication planning thread pool. -/
structure ReplicationThreadPoolConfig where
  /-- Requested workers.  Zero selects half of the host's parallelism. -/
  requestedThreads : ℕ
  maxThreads : ℕ

namespace ReplicationThreadPoolConfig

/-- Half of the host, at most eight workers. -/
def default : ReplicationThreadPoolConfig := ⟨0, 8⟩

/-- The number of workers on a host with `available` parallelism. -/
def resolve (config : ReplicationThreadPoolConfig) (available : ℕ) : ℕ :=
  let available := max available 1
  let requested :=
    if config.requestedThreads = 0 then (available + 1) / 2 else config.requestedThreads
  max 1 (min requested (min (max config.maxThreads 1) available))

lemma resolve_pos (config : ReplicationThreadPoolConfig) (available : ℕ) :
    0 < config.resolve available :=
  lt_of_lt_of_le Nat.zero_lt_one (le_max_left _ _)

end ReplicationThreadPoolConfig

/-- A planning pool: at least one worker. -/
structure ReplicationThreadPool where
  threads : ℕ
  threads_pos : 0 < threads

/-- The pool of a configuration on a host. -/
def ReplicationThreadPool.new (config : ReplicationThreadPoolConfig) (available : ℕ) :
    ReplicationThreadPool :=
  ⟨config.resolve available, config.resolve_pos available⟩

/-- Borrowed station and viewer input of a planning call. -/
class StationReplicationBatchSource (F : outParam Type) (B : Type) where
  station : B → Station F
  index : B → CellIndex F
  viewers : B → List (ViewerQuery F)

/-- One immutable station-local viewer batch. -/
structure StationReplicationBatch (F : Type) where
  station : Station F
  index : CellIndex F
  viewers : List (ViewerQuery F)

instance : StationReplicationBatchSource F (StationReplicationBatch F) where
  station := StationReplicationBatch.station
  index := StationReplicationBatch.index
  viewers := StationReplicationBatch.viewers

/-- Caller-owned worker scratch lanes retained across planning calls. -/
structure ParallelReplicationScratch (F : Type) where
  lanes : List (ReplicationScratch F)
  batches : List ReplicationBatchScratch
  activeBatches : ℕ
  activeLanes : ℕ

namespace ParallelReplicationScratch

/-- Empty scratch storage. -/
def new : ParallelReplicationScratch F := ⟨[], [], 0, 0⟩

/-- Brings the lanes to the number of a call. -/
def prepareLanes (scratch : ParallelReplicationScratch F) (lanes : ℕ) :
    ParallelReplicationScratch F :=
  { scratch with
    lanes := scratch.lanes.take lanes
      ++ List.replicate (lanes - scratch.lanes.length) .default }

/-- Makes room for the outputs of a call. -/
def prepareOutput (scratch : ParallelReplicationScratch F) (batches : ℕ) :
    ParallelReplicationScratch F :=
  { scratch with
    batches := scratch.batches
      ++ List.replicate (batches - scratch.batches.length) .new
    activeBatches := batches }

end ParallelReplicationScratch

/-- Number of lanes that get a chunk. -/
def chunkedLogicalLanes (items retainedLanes : ℕ) : Option ℕ :=
  if retainedLanes = 0 then some 0
  else (divCeil items retainedLanes).bind (divCeil items)

/-- Ordered station results of a planning call. -/
structure ParallelReplicationView where
  batches : List ReplicationBatchScratch
  stats : ReplicationBatchStats

/-- The active slots and their merged statistics. -/
def reusableView (scratch : ParallelReplicationScratch F) : Option ParallelReplicationView :=
  (sliceTo scratch.batches scratch.activeBatches).map fun batches =>
    ⟨batches, batches.foldl (fun stats batch => stats.merge batch.stats) .default⟩

/-- What a planning call leaves and returns. -/
structure PoolRun (F B : Type) where
  scratch : ParallelReplicationScratch F
  view : ParallelReplicationView
  planned : List (List (B × ℕ))

namespace ReplicationThreadPool

/-- What the three planning calls share: the batches are planned by `plan` in worker partitions. -/
def planBatches (pool : ReplicationThreadPool)
    (plan : B × ℕ → ReplicationScratch F × ReplicationBatchScratch →
      ReplicationScratch F × ReplicationBatchScratch)
    (batches : List B) (scratch : ParallelReplicationScratch F) : Option (PoolRun F B) := do
  let lanes := min pool.threads batches.length
  let scratch := (scratch.prepareLanes lanes).prepareOutput batches.length
  let activeLanes ← chunkedLogicalLanes batches.length lanes
  let scratch := { scratch with activeLanes := activeLanes }
  if lanes ≠ 0 then
    let chunkSize ← divCeil batches.length lanes
    let input ← parChunks chunkSize batches.zipIdx
    let output ← (sliceTo scratch.batches batches.length).bind (parChunks chunkSize)
    let workers ← sliceTo scratch.lanes lanes
    let (workers, output, planned) := inLanes plan input output workers
    let scratch :=
      { scratch with
        lanes := workers ++ scratch.lanes.drop lanes
        batches := output.flatten ++ scratch.batches.drop batches.length }
    let view ← reusableView scratch
    return ⟨scratch, view, planned⟩
  else
    let view ← reusableView scratch
    return ⟨scratch, view, []⟩

end ReplicationThreadPool

/-! ## The planning calls -/

section Scalar

variable [Scalar F]
  (selectNthUnstableBy : SelectNthUnstableBy (PrioritizedReplicationCandidate F))

/-- Capacities the allocator reports, for each batch of a call. -/
structure BatchCapacities where
  capacity : ℕ → ℕ → ScratchCapacity
  cacheCapacity : ℕ → ℕ

/-- The arguments of a configured planning call. -/
structure ConfiguredCall (F B : Type) where
  batches : List B
  policies : PolicyTable F
  filter : VisibilityFilter F
  budget : ReplicationBudget
  mode : ReplicationSelectionMode
  maxCachedQueryRanges : ℕ
  eligible : StationId → ViewerQuery F → EntityHandle → EntityRecord F → Bool
  lastSent : StationId → ViewerQuery F → EntityHandle → Option Tick
  capacities : BatchCapacities

/-- The batch call made for one batch: the callbacks are those of its station. -/
def ConfiguredCall.batchCall [StationReplicationBatchSource F B] (call : ConfiguredCall F B)
    (batch : B × ℕ) : BatchCall F :=
  let station := StationReplicationBatchSource.station batch.1
  let stationId := station.config.stationId
  { inputs :=
      { station := station
        policies := call.policies
        filter := call.filter
        budget := call.budget
        mode := call.mode
        eligible := fun viewer handle entity => call.eligible stationId viewer handle entity
        lastSent := fun viewer handle => call.lastSent stationId viewer handle }
    index := StationReplicationBatchSource.index batch.1
    viewers := StationReplicationBatchSource.viewers batch.1
    maxCachedQueryRanges := call.maxCachedQueryRanges
    capacity := call.capacities.capacity batch.2
    cacheCapacity := call.capacities.cacheCapacity batch.2 }

/-- The arguments of a generic planning call. -/
structure VisibilityCall (F : Type) where
  batches : List (StationReplicationBatch F)
  policies : PolicyTable F
  filter : VisibilityFilter F
  budget : ReplicationBudget
  capacities : BatchCapacities

/-- The generic planner, on one batch. -/
def VisibilityCall.planBatch (call : VisibilityCall F) (batch : StationReplicationBatch F × ℕ)
    (state : ReplicationScratch F × ReplicationBatchScratch) :
    ReplicationScratch F × ReplicationBatchScratch :=
  planForViewersInto selectNthUnstableBy batch.1.station batch.1.index call.policies
    batch.1.viewers call.filter call.budget (call.capacities.capacity batch.2)
    (call.capacities.cacheCapacity batch.2) state

/-- The arguments of a range-only planning call, and the build it is compiled in. -/
structure RangeCall (F : Type) where
  build : RangeBuild
  batches : List (StationReplicationBatch F)
  policies : PolicyTable F
  budget : ReplicationBudget
  capacities : BatchCapacities

/-- The range-only planner, on one batch. -/
def RangeCall.planBatch (call : RangeCall F) (batch : StationReplicationBatch F × ℕ)
    (state : ReplicationScratch F × ReplicationBatchScratch) :
    ReplicationScratch F × ReplicationBatchScratch :=
  planForViewersRangeInto call.build batch.1.station batch.1.index call.policies batch.1.viewers
    call.budget (call.capacities.capacity batch.2) state

namespace ReplicationThreadPool

/-- Plans configured station batches in deterministic worker partitions. -/
def planStationConfiguredBatchesInto [StationReplicationBatchSource F B]
    (pool : ReplicationThreadPool) (call : ConfiguredCall F B)
    (scratch : ParallelReplicationScratch F) : Option (PoolRun F B) :=
  pool.planBatches
    (fun batch state =>
      planForViewersConfiguredInto selectNthUnstableBy (call.batchCall batch) state)
    call.batches scratch

/-- Plans generic visibility batches into caller-owned reusable station outputs. -/
def planStationBatchesInto (pool : ReplicationThreadPool) (call : VisibilityCall F)
    (scratch : ParallelReplicationScratch F) : Option (PoolRun F (StationReplicationBatch F)) :=
  pool.planBatches (call.planBatch selectNthUnstableBy) call.batches scratch

/-- Plans range-only batches into caller-owned reusable station outputs. -/
def planStationRangeBatchesInto (pool : ReplicationThreadPool) (call : RangeCall F)
    (scratch : ParallelReplicationScratch F) : Option (PoolRun F (StationReplicationBatch F)) :=
  pool.planBatches call.planBatch call.batches scratch

end ReplicationThreadPool

end Scalar

/-! ## What a planning call does -/

/-- What a scratch is between two planning calls: every lane is usable. -/
def ParallelReplicationScratch.Usable (scratch : ParallelReplicationScratch F) : Prop :=
  ∀ lane ∈ scratch.lanes, lane.cellQuery.WellFormed

lemma ReplicationScratch.wellFormed_default :
    (ReplicationScratch.default : ReplicationScratch F).cellQuery.WellFormed :=
  CellQueryScratch.wellFormed_new

lemma ParallelReplicationScratch.usable_new :
    (ParallelReplicationScratch.new : ParallelReplicationScratch F).Usable := by
  intro lane hlane
  cases hlane

/-- Lanes added by a call are fresh. -/
lemma ParallelReplicationScratch.Usable.prepareLanes {scratch : ParallelReplicationScratch F}
    (h : scratch.Usable) (lanes : ℕ) : (scratch.prepareLanes lanes).Usable := by
  intro lane hlane
  rcases List.mem_append.mp hlane with hold | hnew
  · exact h lane (List.mem_of_mem_take hold)
  · rw [List.eq_of_mem_replicate hnew]
    exact ReplicationScratch.wellFormed_default

lemma ParallelReplicationScratch.length_prepareLanes (scratch : ParallelReplicationScratch F)
    (lanes : ℕ) : (scratch.prepareLanes lanes).lanes.length = lanes := by
  rw [prepareLanes, List.length_append, List.length_take, List.length_replicate]
  omega

lemma ParallelReplicationScratch.le_length_prepareOutput (scratch : ParallelReplicationScratch F)
    (batches : ℕ) : batches ≤ (scratch.prepareOutput batches).batches.length := by
  rw [prepareOutput, List.length_append, List.length_replicate]
  omega

/-- As many lanes get a chunk as there are chunks. -/
lemma chunkedLogicalLanes_eq {items lanes : ℕ} (hlanes : 0 < lanes) (hitems : 0 < items) :
    chunkedLogicalLanes items lanes = some (items ⌈/⌉ (items ⌈/⌉ lanes)) := by
  rw [chunkedLogicalLanes, if_neg hlanes.ne', divCeil_eq hlanes, Option.bind_some,
    divCeil_eq (ceilDiv_pos hlanes hitems)]

lemma sliceTo_eq {α : Type} {l : List α} {n : ℕ} (h : n ≤ l.length) :
    sliceTo l n = some (l.take n) := if_pos h

lemma parChunks_eq {α : Type} {size : ℕ} (h : 0 < size) (l : List α) :
    parChunks size l = some (chunksOf size l) := if_neg h.ne'

/-- A planning call did what the sequential planner does, batch by batch. -/
structure PoolRun.Sequential (run : PoolRun F B) (threads : ℕ) (batches : List B)
    (sequential : B × ℕ → List ReplicationPlan) : Prop where
  /-- Slot by slot the plans of the sequential planner. -/
  slots : run.view.batches.map ReplicationBatchScratch.viewPlans = batches.zipIdx.map sequential
  /-- Over the lanes, in order, every batch is planned once. -/
  once : run.planned.flatten = batches.zipIdx
  /-- The lanes of the call are the retained ones, at most one for each worker and batch. -/
  lanes : run.scratch.lanes.length = min threads batches.length
  /-- As many of them got work as the call reports. -/
  active : run.planned.length = run.scratch.activeLanes
  active_le : run.scratch.activeLanes ≤ run.scratch.lanes.length

/-- A call without batches makes no lane work. -/
lemma ReplicationThreadPool.planBatches_nil (pool : ReplicationThreadPool)
    (plan : B × ℕ → ReplicationScratch F × ReplicationBatchScratch →
      ReplicationScratch F × ReplicationBatchScratch) (scratch : ParallelReplicationScratch F) :
    pool.planBatches plan [] scratch = some
      ⟨{ (scratch.prepareLanes 0).prepareOutput 0 with activeLanes := 0 },
        ⟨[], .default⟩, []⟩ := by
  simp [planBatches, chunkedLogicalLanes, reusableView, sliceTo,
    ParallelReplicationScratch.prepareOutput]

/-- No slice of a call is longer than what it is cut from, and no divisor is zero: a call over
some batches runs its lanes. -/
lemma ReplicationThreadPool.planBatches_eq (pool : ReplicationThreadPool)
    (plan : B × ℕ → ReplicationScratch F × ReplicationBatchScratch →
      ReplicationScratch F × ReplicationBatchScratch)
    {batches : List B} (hbatches : batches ≠ []) (scratch : ParallelReplicationScratch F)
    {lanes size : ℕ} (hlanes : lanes = min pool.threads batches.length)
    (hsize : size = batches.length ⌈/⌉ lanes) {prepared : ParallelReplicationScratch F}
    (hprepared : prepared = (scratch.prepareLanes lanes).prepareOutput batches.length)
    {ran : List (ReplicationScratch F) × List (List ReplicationBatchScratch)
      × List (List (B × ℕ))}
    (hran : ran = inLanes plan (chunksOf size batches.zipIdx)
      (chunksOf size (prepared.batches.take batches.length)) prepared.lanes)
    (hlen : ran.2.1.flatten.length = batches.length) :
    pool.planBatches plan batches scratch = some
      ⟨{ prepared with
          lanes := ran.1
          batches := ran.2.1.flatten ++ prepared.batches.drop batches.length
          activeLanes := batches.length ⌈/⌉ size },
        ⟨ran.2.1.flatten,
          ran.2.1.flatten.foldl (fun stats batch => stats.merge batch.stats) .default⟩,
        ran.2.2⟩ := by
  have hitems : 0 < batches.length := List.length_pos_iff.mpr hbatches
  have hpos : 0 < lanes := hlanes ▸ lt_min pool.threads_pos hitems
  have hsizePos : 0 < size := hsize ▸ ceilDiv_pos hpos hitems
  have hroom : batches.length ≤ prepared.batches.length :=
    hprepared ▸ (scratch.prepareLanes lanes).le_length_prepareOutput batches.length
  have hcount : prepared.lanes.length = lanes :=
    hprepared ▸ scratch.length_prepareLanes lanes
  have hactive : prepared.activeBatches = batches.length := by rw [hprepared]; rfl
  have hworkers : prepared.lanes.take lanes = prepared.lanes :=
    List.take_of_length_le hcount.le
  have hview : sliceTo (ran.2.1.flatten ++ prepared.batches.drop batches.length) batches.length
      = some ran.2.1.flatten := by
    rw [sliceTo_eq (by rw [List.length_append]; omega), List.take_left' hlen]
  unfold planBatches
  simp only [← hlanes, ← hprepared, chunkedLogicalLanes_eq hpos hitems, ← hsize, if_pos hpos.ne',
    divCeil_eq hpos, parChunks_eq hsizePos, sliceTo_eq hroom, sliceTo_eq hcount.ge, hworkers,
    reusableView, hactive, hview, ← hran, Option.bind_eq_bind, Option.bind_some, Option.map_some]
  rw [List.drop_of_length_le hcount.le, List.append_nil]
  rfl

/-- **A planning call.**  A planner whose plans for a batch do not depend on the state of a usable
lane, nor on what the slot held, is run once on every batch, and nothing panics. -/
theorem ReplicationThreadPool.planBatches_spec (pool : ReplicationThreadPool)
    {plan : B × ℕ → ReplicationScratch F × ReplicationBatchScratch →
      ReplicationScratch F × ReplicationBatchScratch}
    {sequential : B × ℕ → List ReplicationPlan}
    (hplan : ∀ batch lane slot, lane.cellQuery.WellFormed →
      (plan batch (lane, slot)).1.cellQuery.WellFormed ∧
        (plan batch (lane, slot)).2.viewPlans = sequential batch)
    (batches : List B) {scratch : ParallelReplicationScratch F} (hscratch : scratch.Usable) :
    ∃ run, pool.planBatches plan batches scratch = some run ∧ run.scratch.Usable ∧
      run.Sequential pool.threads batches sequential := by
  rcases eq_or_ne batches [] with rfl | hbatches
  · refine ⟨_, pool.planBatches_nil plan scratch, hscratch.prepareLanes 0, ?_⟩
    exact ⟨rfl, rfl, (scratch.length_prepareLanes 0).trans (Nat.min_zero _).symm, rfl,
      Nat.zero_le _⟩
  · have hitems : 0 < batches.length := List.length_pos_iff.mpr hbatches
    obtain ⟨lanes, hlanes⟩ : ∃ lanes, lanes = min pool.threads batches.length := ⟨_, rfl⟩
    obtain ⟨size, hsize⟩ : ∃ size, size = batches.length ⌈/⌉ lanes := ⟨_, rfl⟩
    obtain ⟨prepared, hprepared⟩ : ∃ prepared,
      prepared = (scratch.prepareLanes lanes).prepareOutput batches.length := ⟨_, rfl⟩
    have hpos : 0 < lanes := hlanes ▸ lt_min pool.threads_pos hitems
    have hsizePos : 0 < size := hsize ▸ ceilDiv_pos hpos hitems
    have hroom : batches.length ≤ prepared.batches.length :=
      hprepared ▸ (scratch.prepareLanes lanes).le_length_prepareOutput batches.length
    have hcount : prepared.lanes.length = lanes :=
      hprepared ▸ scratch.length_prepareLanes lanes
    have husable : prepared.Usable := hprepared ▸ hscratch.prepareLanes lanes
    have hslots : batches.zipIdx.length = (prepared.batches.take batches.length).length := by
      rw [List.length_zipIdx, List.length_take, Nat.min_eq_left hroom]
    have hfit : batches.zipIdx.length ≤ size * prepared.lanes.length := by
      rw [List.length_zipIdx, hcount, hsize]
      exact length_le_ceilDiv_mul hpos _
    obtain ⟨hlanesUsable, hlanesLen, hplans, hdone⟩ := inLanes_spec
      (P := fun batch (slot : ReplicationBatchScratch) => slot.viewPlans = sequential batch)
      hplan hsizePos hslots hfit husable rfl
    have hlen := hplans.length_eq
    rw [List.length_zipIdx] at hlen
    have hrun := pool.planBatches_eq plan hbatches scratch hlanes hsize hprepared rfl hlen.symm
    have hchunks := length_chunksOf hsizePos batches.zipIdx
    rw [List.length_zipIdx] at hchunks
    refine ⟨_, hrun, hlanesUsable, ?_, ?_, ?_, ?_, ?_⟩
    · exact (List.forall₂_eq_eq_eq ▸ List.forall₂_map_left_iff.mpr
        (List.forall₂_map_right_iff.mpr hplans.flip) : _ = _)
    · show List.flatten _ = _
      rw [hdone, flatten_chunksOf hsizePos]
    · show List.length _ = _
      rw [hlanesLen, hcount, hlanes]
    · show List.length _ = _
      rw [hdone, hchunks]
    · show batches.length ⌈/⌉ size ≤ List.length _
      rw [hlanesLen, ceilDiv_le_iff_le_mul hsizePos]
      rw [List.length_zipIdx] at hfit
      exact hfit

/-! ## Histories of a scratch -/

section Scalar

variable [Scalar F]
  (selectNthUnstableBy : SelectNthUnstableBy (PrioritizedReplicationCandidate F))

/-- The uses of a parallel scratch: planning calls of the three kinds, each through a pool. -/
inductive PoolCall (F : Type) : Type 1 where
  | configured {B : Type} [StationReplicationBatchSource F B] (pool : ReplicationThreadPool)
      (call : ConfiguredCall F B)
  | visibility (pool : ReplicationThreadPool) (call : VisibilityCall F)
  | range (pool : ReplicationThreadPool) (call : RangeCall F)

/-- The scratch after one use. -/
def useParallelScratch (scratch : ParallelReplicationScratch F) :
    PoolCall F → Option (ParallelReplicationScratch F)
  | @PoolCall.configured _ _ _ pool call =>
      (pool.planStationConfiguredBatchesInto selectNthUnstableBy call scratch).map PoolRun.scratch
  | .visibility pool call =>
      (pool.planStationBatchesInto selectNthUnstableBy call scratch).map PoolRun.scratch
  | .range pool call => (pool.planStationRangeBatchesInto call scratch).map PoolRun.scratch

/-- The sequential configured planner on a batch, with fresh scratch. -/
def ConfiguredCall.sequential [StationReplicationBatchSource F B] (call : ConfiguredCall F B)
    (batch : B × ℕ) : List ReplicationPlan :=
  (planForViewersConfiguredInto selectNthUnstableBy (call.batchCall batch)
    (.default, .new)).2.viewPlans

/-- The sequential generic planner on a batch, with fresh scratch. -/
def VisibilityCall.sequential (call : VisibilityCall F)
    (batch : StationReplicationBatch F × ℕ) : List ReplicationPlan :=
  (call.planBatch selectNthUnstableBy batch (.default, .new)).2.viewPlans

/-- The sequential range-only planner on a batch, with fresh scratch. -/
def RangeCall.sequential (call : RangeCall F) (batch : StationReplicationBatch F × ℕ) :
    List ReplicationPlan :=
  (call.planBatch batch (.default, .new)).2.viewPlans

variable {scratch : ParallelReplicationScratch F} (pool : ReplicationThreadPool)

/-- **Configured batches.**  The plans of a batch are its plans over its own candidates. -/
lemma planStationConfiguredBatchesInto_spec [StationReplicationBatchSource F B]
    (call : ConfiguredCall F B) (h : scratch.Usable) :
    ∃ run, pool.planStationConfiguredBatchesInto selectNthUnstableBy call scratch = some run ∧
      run.scratch.Usable ∧
      run.Sequential pool.threads call.batches (call.sequential selectNthUnstableBy) := by
  refine pool.planBatches_spec (fun batch lane slot hlane => ?_) call.batches h
  obtain ⟨hwf, hplans⟩ := planForViewersConfiguredInto_spec selectNthUnstableBy
    (call.batchCall batch) slot hlane
  obtain ⟨-, hfresh⟩ := planForViewersConfiguredInto_spec selectNthUnstableBy
    (call.batchCall batch) .new ReplicationScratch.wellFormed_default
  exact ⟨hwf, hplans.trans hfresh.symm⟩

/-- **Generic batches.** -/
lemma planStationBatchesInto_spec (call : VisibilityCall F) (h : scratch.Usable) :
    ∃ run, pool.planStationBatchesInto selectNthUnstableBy call scratch = some run ∧
      run.scratch.Usable ∧
      run.Sequential pool.threads call.batches (call.sequential selectNthUnstableBy) := by
  refine pool.planBatches_spec (fun batch lane slot hlane => ?_) call.batches h
  obtain ⟨hwf, hplans⟩ := planForViewersConfiguredInto_spec selectNthUnstableBy
    (visibilityCall batch.1.station batch.1.index call.policies batch.1.viewers call.filter
      call.budget (call.capacities.capacity batch.2) (call.capacities.cacheCapacity batch.2))
    slot hlane
  obtain ⟨-, hfresh⟩ := planForViewersConfiguredInto_spec selectNthUnstableBy
    (visibilityCall batch.1.station batch.1.index call.policies batch.1.viewers call.filter
      call.budget (call.capacities.capacity batch.2) (call.capacities.cacheCapacity batch.2))
    .new ReplicationScratch.wellFormed_default
  exact ⟨hwf, hplans.trans hfresh.symm⟩

/-- **Range-only batches.** -/
lemma planStationRangeBatchesInto_spec (call : RangeCall F) (h : scratch.Usable) :
    ∃ run, pool.planStationRangeBatchesInto call scratch = some run ∧ run.scratch.Usable ∧
      run.Sequential pool.threads call.batches call.sequential := by
  refine pool.planBatches_spec (fun batch lane slot hlane => ?_) call.batches h
  obtain ⟨hwf, hplans⟩ := planForViewersRangeInto_spec call.build batch.1.station batch.1.index
    call.policies batch.1.viewers call.budget (call.capacities.capacity batch.2) slot hlane rfl
  obtain ⟨-, hfresh⟩ := planForViewersRangeInto_spec call.build batch.1.station batch.1.index
    call.policies batch.1.viewers call.budget (call.capacities.capacity batch.2) .new
    ReplicationScratch.wellFormed_default rfl
  exact ⟨hwf, hplans.trans hfresh.symm⟩

/-- Every use leaves a usable scratch. -/
lemma useParallelScratch_usable (call : PoolCall F) (h : scratch.Usable) :
    ∃ scratch', useParallelScratch selectNthUnstableBy scratch call = some scratch' ∧
      scratch'.Usable := by
  cases call with
  | configured pool call =>
      obtain ⟨run, hrun, husable, -⟩ :=
        planStationConfiguredBatchesInto_spec selectNthUnstableBy pool call h
      exact ⟨run.scratch, by rw [useParallelScratch, hrun, Option.map_some], husable⟩
  | visibility pool call =>
      obtain ⟨run, hrun, husable, -⟩ := planStationBatchesInto_spec selectNthUnstableBy pool call h
      exact ⟨run.scratch, by rw [useParallelScratch, hrun, Option.map_some], husable⟩
  | range pool call =>
      obtain ⟨run, hrun, husable, -⟩ := planStationRangeBatchesInto_spec pool call h
      exact ⟨run.scratch, by rw [useParallelScratch, hrun, Option.map_some], husable⟩

/-- **Parallel planning is sequential planning.**  After any history of planning calls on a
scratch, through pools of any size, each of the three calls returns, and does, batch by batch, what
its sequential planner does with fresh scratch. -/
theorem parallel_plans_eq_sequential (history : List (PoolCall F)) :
    ∃ scratch, executeOption (useParallelScratch selectNthUnstableBy) .new history = some scratch ∧
      (∀ (B : Type) [StationReplicationBatchSource F B] (pool : ReplicationThreadPool)
        (call : ConfiguredCall F B),
        ∃ run, pool.planStationConfiguredBatchesInto selectNthUnstableBy call scratch = some run ∧
          run.Sequential pool.threads call.batches (call.sequential selectNthUnstableBy)) ∧
      (∀ (pool : ReplicationThreadPool) (call : VisibilityCall F),
        ∃ run, pool.planStationBatchesInto selectNthUnstableBy call scratch = some run ∧
          run.Sequential pool.threads call.batches (call.sequential selectNthUnstableBy)) ∧
      ∀ (pool : ReplicationThreadPool) (call : RangeCall F),
        ∃ run, pool.planStationRangeBatchesInto call scratch = some run ∧
          run.Sequential pool.threads call.batches call.sequential := by
  obtain ⟨scratch, hscratch, husable⟩ := executeOption_defined
    (fun _ call h => useParallelScratch_usable selectNthUnstableBy call h)
    ParallelReplicationScratch.usable_new history
  refine ⟨scratch, hscratch, ?_, ?_, ?_⟩
  · intro B _ pool call
    obtain ⟨run, hrun, -, hsequential⟩ :=
      planStationConfiguredBatchesInto_spec selectNthUnstableBy pool call husable
    exact ⟨run, hrun, hsequential⟩
  · intro pool call
    obtain ⟨run, hrun, -, hsequential⟩ :=
      planStationBatchesInto_spec selectNthUnstableBy pool call husable
    exact ⟨run, hrun, hsequential⟩
  · intro pool call
    obtain ⟨run, hrun, -, hsequential⟩ := planStationRangeBatchesInto_spec pool call husable
    exact ⟨run, hrun, hsequential⟩

end Scalar

end SectorSync
