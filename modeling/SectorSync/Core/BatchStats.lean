import SectorSync.Base.Aggregate
import SectorSync.Core.BatchPlanners

/-!
# Merging the reports of a batch

A batch planner records the statistics of its viewers one after the other, and the parallel
planner merges the reports of its partitions.  `combine` is the merge without the field the code
leaves out; the recorded viewers and `combine` satisfy `Aggregate.Merges`, so that the report of a
batch does not depend on how the viewers were partitioned.  The merge of the code agrees with it
in every other field, and in that one exactly when no plan left a candidate unexamined.
-/

namespace SectorSync

/-- What the batch planner records of a viewer. -/
inductive PlannedViewer where
  /-- The viewer was queried. -/
  | queried (plan : ReplicationPlan) (query : CellQueryStats) (capacity : ScratchCapacity)
  /-- The viewer was served from the cache. -/
  | reused (plan : ReplicationPlan) (capacity : ScratchCapacity)

/-- The plan of a viewer. -/
def PlannedViewer.plan : PlannedViewer → ReplicationPlan
  | queried plan _ _ => plan
  | reused plan _ => plan

namespace ReplicationBatchStats

/-- Records a planned viewer. -/
def recordViewer (stats : ReplicationBatchStats) : PlannedViewer → ReplicationBatchStats
  | .queried plan query capacity => stats.record plan query capacity
  | .reused plan capacity => stats.recordReusedQuery plan capacity

/-- The statistics of a list of planned viewers. -/
def recordAll (viewers : List PlannedViewer) : ReplicationBatchStats :=
  viewers.foldl recordViewer .default

/-- The reports of the partitions merged in order. -/
def mergeAll (reports : List ReplicationBatchStats) : ReplicationBatchStats :=
  reports.foldl merge .default

/-! ## The merge with every field -/

/-- Both reports together, the unexamined candidates included. -/
def combine (stats other : ReplicationBatchStats) : ReplicationBatchStats :=
  { stats.merge other with
    unexaminedAfterBudget :=
      usizeSaturatingAdd stats.unexaminedAfterBudget other.unexaminedAfterBudget }

/-- The counters hold what a `usize` can hold. -/
structure InRange (stats : ReplicationBatchStats) : Prop where
  viewers : stats.viewers ≤ usizeMax
  candidates : stats.candidates ≤ usizeMax
  considered : stats.considered ≤ usizeMax
  selected : stats.selected ≤ usizeMax
  unexaminedAfterBudget : stats.unexaminedAfterBudget ≤ usizeMax
  estimatedBytes : stats.estimatedBytes ≤ usizeMax
  gridQueries : stats.gridQueries ≤ usizeMax
  occupiedQueries : stats.occupiedQueries ≤ usizeMax
  gridCellsProbed : stats.gridCellsProbed ≤ usizeMax
  occupiedCellsScanned : stats.occupiedCellsScanned ≤ usizeMax
  matchedCells : stats.matchedCells ≤ usizeMax
  uniqueQueryRanges : stats.uniqueQueryRanges ≤ usizeMax
  reusedQueryRanges : stats.reusedQueryRanges ≤ usizeMax
  cachedCandidateHandles : stats.cachedCandidateHandles ≤ usizeMax

lemma inRange_default : InRange .default := by
  constructor
  all_goals simp [default]

lemma InRange.recordPlan {stats : ReplicationBatchStats} (h : stats.InRange)
    (plan : ReplicationPlan) (capacity : ScratchCapacity) :
    (stats.recordPlan plan capacity).InRange :=
  { h with
    candidates := usizeSaturatingAdd_le _ _
    considered := usizeSaturatingAdd_le _ _
    selected := usizeSaturatingAdd_le _ _
    unexaminedAfterBudget := usizeSaturatingAdd_le _ _
    estimatedBytes := usizeSaturatingAdd_le _ _ }

lemma InRange.recordViewer {stats : ReplicationBatchStats} (h : stats.InRange)
    (viewer : PlannedViewer) : (stats.recordViewer viewer).InRange := by
  cases viewer with
  | queried plan query capacity =>
      have hplan := h.recordPlan plan capacity
      refine { hplan with
        viewers := usizeSaturatingAdd_le _ _
        gridQueries := ?_
        occupiedQueries := ?_
        gridCellsProbed := usizeSaturatingAdd_le _ _
        occupiedCellsScanned := usizeSaturatingAdd_le _ _
        matchedCells := usizeSaturatingAdd_le _ _ }
      · simp only [ReplicationBatchStats.recordViewer, record]
        cases query.strategy with
        | grid => exact usizeSaturatingAdd_le _ _
        | occupiedCells => exact h.gridQueries
      · simp only [ReplicationBatchStats.recordViewer, record]
        cases query.strategy with
        | grid => exact h.occupiedQueries
        | occupiedCells => exact usizeSaturatingAdd_le _ _
  | reused plan capacity =>
      exact { h.recordPlan plan capacity with
        viewers := usizeSaturatingAdd_le _ _
        reusedQueryRanges := usizeSaturatingAdd_le _ _ }

lemma combine_default {stats : ReplicationBatchStats} (h : stats.InRange) :
    stats.combine .default = stats := by
  obtain ⟨h₁, h₂, h₃, h₄, h₅, h₆, h₇, h₈, h₉, h₁₀, h₁₁, h₁₂, h₁₃, h₁₄⟩ := h
  cases stats
  simp_all [combine, merge, default, usizeSaturatingAdd_zero]

/-- What is recorded in the part that is merged in may as well be recorded after the merge. -/
lemma combine_recordViewer (stats other : ReplicationBatchStats) (viewer : PlannedViewer) :
    stats.combine (other.recordViewer viewer) = (stats.combine other).recordViewer viewer := by
  cases viewer with
  | queried plan query capacity =>
      simp only [combine, merge, recordViewer, record, recordPlan, usizeSaturatingAdd_assoc,
        max_assoc]
      -- the strategy decides which of the two query counters is touched
      cases query.strategy with
      | grid => simp only [usizeSaturatingAdd_assoc]
      | occupiedCells => simp only [usizeSaturatingAdd_assoc]
  | reused plan capacity =>
      simp only [combine, merge, recordViewer, recordReusedQuery, recordPlan,
        usizeSaturatingAdd_assoc, max_assoc]

/-- The recorded viewers and the full merge work on one report. -/
lemma merges_combine : Aggregate.Merges InRange .default recordViewer combine where
  valid_empty := inRange_default
  valid_record _ viewer h := h.recordViewer viewer
  merge_empty _ h := combine_default h
  merge_record := combine_recordViewer

/-! ## The merge of the code -/

/-- A report without the field the merge leaves out. -/
def carried (stats : ReplicationBatchStats) : ReplicationBatchStats :=
  { stats with unexaminedAfterBudget := 0 }

lemma eq_iff_carried {stats other : ReplicationBatchStats} :
    stats = other ↔ stats.carried = other.carried
      ∧ stats.unexaminedAfterBudget = other.unexaminedAfterBudget := by
  cases stats
  cases other
  simp only [carried, mk.injEq]
  tauto

/-- The merge keeps the unexamined candidates of the report it merges into. -/
lemma foldl_merge_unexamined (reports : List ReplicationBatchStats)
    (stats : ReplicationBatchStats) :
    (reports.foldl merge stats).unexaminedAfterBudget = stats.unexaminedAfterBudget := by
  induction reports generalizing stats with
  | nil => rfl
  | cons report reports ih =>
      rw [List.foldl_cons, ih]
      rfl

/-- Every field the merge carries is merged as by `combine`. -/
lemma carried_foldl_merge (reports : List ReplicationBatchStats)
    {stats full : ReplicationBatchStats} (h : stats.carried = full.carried) :
    (reports.foldl merge stats).carried = (reports.foldl combine full).carried := by
  induction reports generalizing stats full with
  | nil => exact h
  | cons report reports ih =>
      refine ih ?_
      show stats.carried.merge report.carried = full.carried.merge report.carried
      rw [h]

/-- The merged report agrees with the recorded one in every carried field. -/
theorem carried_mergeAll (chunks : List (List PlannedViewer)) :
    (mergeAll (chunks.map recordAll)).carried = (recordAll chunks.flatten).carried := by
  rw [recordAll, ← merges_combine.foldl_merge inRange_default]
  exact carried_foldl_merge _ rfl

/-- A plan that left candidates unexamined shows in the recorded report. -/
lemma foldl_recordViewer_unexamined (viewers : List PlannedViewer)
    (stats : ReplicationBatchStats) :
    (viewers.foldl recordViewer stats).unexaminedAfterBudget = 0
      ↔ stats.unexaminedAfterBudget = 0
        ∧ ∀ viewer ∈ viewers, viewer.plan.stats.unexaminedAfterBudget = 0 := by
  induction viewers generalizing stats with
  | nil => simp
  | cons viewer viewers ih =>
      have hviewer : (stats.recordViewer viewer).unexaminedAfterBudget
          = usizeSaturatingAdd stats.unexaminedAfterBudget
            viewer.plan.stats.unexaminedAfterBudget := by
        cases viewer with
        | queried plan query capacity => rfl
        | reused plan capacity => rfl
      rw [List.foldl_cons, ih, hviewer, usizeSaturatingAdd_eq_zero]
      simp only [List.mem_cons, forall_eq_or_imp, and_assoc]

/-- **Merged partitions.**  However a list of planned viewers is cut into partitions, the merged
report of the partitions is the report over the whole list exactly when no plan left a candidate
unexamined; every other field agrees whatever the plans are. -/
theorem mergeAll_eq_recordAll_iff (chunks : List (List PlannedViewer)) :
    (mergeAll (chunks.map recordAll)).carried = (recordAll chunks.flatten).carried
      ∧ (mergeAll (chunks.map recordAll) = recordAll chunks.flatten
        ↔ ∀ viewer ∈ chunks.flatten, viewer.plan.stats.unexaminedAfterBudget = 0) := by
  refine ⟨carried_mergeAll chunks, ?_⟩
  have hmerged : (mergeAll (chunks.map recordAll)).unexaminedAfterBudget = 0 :=
    foldl_merge_unexamined _ _
  rw [eq_iff_carried, and_iff_right (carried_mergeAll chunks), hmerged, eq_comm, recordAll,
    foldl_recordViewer_unexamined]
  exact and_iff_right rfl

/-- One viewer in one partition, with one candidate unexamined: the merged report has none. -/
theorem mergeAll_forgets_unexamined :
    ¬ ∀ chunks : List (List PlannedViewer),
      mergeAll (chunks.map recordAll) = recordAll chunks.flatten := by
  intro h
  let plan : ReplicationPlan :=
    ⟨[], { ReplicationStats.default with unexaminedAfterBudget := 1 }⟩
  exact absurd (h [[.reused plan ⟨0, 0, 0, 0⟩]]) (by decide)

end ReplicationBatchStats

end SectorSync
