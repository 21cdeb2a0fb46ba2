import Mathlib.Algebra.Order.Ring.Abs
import SectorSync.Core.AreaOfInterest
import SectorSync.Core.PlanSoundness
import SectorSync.Core.ReplicationBatch
import SectorSync.Facade.RuntimeCoherence
import SectorSync.Runtime.LoadSamples
import SectorSync.Runtime.Prioritization

/-!
# Plans over the grid

A viewer's plan is made over the handles that the cell index finds around the viewer.  It is the
plan over all entities of the station.  An admissible entity is within the radius of the viewer, so
that its box and the box of the query have its position in common (`ExactDistances`); boxes that
overlap share a cell (`ExactCoordinates.shared_cell`), and the index of a runtime holds every live
entity in all cells of its box (`Agrees.coherent`).

A plan sees of its candidates the admissible ones (`planOver_of_perm`).  With that,
`plan_ignores_grid` says that the size of the cells, what the index was used for before and the
order in which entities came into their cells cannot be seen in a prioritized plan; in the other
one they choose among the admissible entities when there are more of them than the limit allows.
-/

namespace SectorSync

open Machine Selection ReplicationPlanner

variable {F : Type}

/-! ## Boxes around points -/

/-- The box holds the point. -/
def Aabb3.Holds [LE F] (aabb : Aabb3 F) (p : Position3 F) : Prop :=
  (aabb.min.x ≤ p.x ∧ p.x ≤ aabb.max.x) ∧ (aabb.min.y ≤ p.y ∧ p.y ≤ aabb.max.y)
    ∧ aabb.min.z ≤ p.z ∧ p.z ≤ aabb.max.z

/-- Distances are exact: a point within a radius of another is in the box of the radius. -/
structure ExactDistances (F : Type) [Scalar F] [LinearOrder F] : Prop where
  holds : ∀ (p q : Position3 F) (radius : F), Scalar.ofNat 0 ≤ radius →
    Scalar.le (p.distanceSquared q) (Scalar.mul radius radius) = true →
    ((Bounds.sphere radius).toAabb q).Holds p

/-- A filter lets nothing through that is out of the viewer's radius. -/
def VisibilityFilter.Ranged [Scalar F] (filter : VisibilityFilter F) : Prop :=
  ∀ viewer entity,
    filter.isVisibleWithDistance viewer entity (entity.position.distanceSquared viewer.position)
      = true →
    Scalar.le (entity.position.distanceSquared viewer.position) viewer.radiusSquared = true

section Boxes

variable [Scalar F]

lemma VisibilityFilter.ranged_rangeOnlyVisibility :
    (VisibilityFilter.rangeOnlyVisibility : VisibilityFilter F).Ranged := fun _ _ h => h

lemma VisibilityFilter.Ranged.andVisibility {left : VisibilityFilter F} (hleft : left.Ranged)
    (right : VisibilityFilter F) : (left.andVisibility right).Ranged := by
  intro viewer entity h
  exact hleft viewer entity (Bool.and_eq_true_iff.mp h).1

variable [LinearOrder F] {grid : GridSpec F}

lemma ExactCoordinates.holds_toAabb (h : ExactCoordinates grid) {bounds : Bounds F}
    (hbounds : bounds.Nonneg) (p : Position3 F) : (bounds.toAabb p).Holds p := by
  cases bounds with
  | point => exact ⟨⟨le_rfl, le_rfl⟩, ⟨le_rfl, le_rfl⟩, le_rfl, le_rfl⟩
  | sphere radius =>
      exact ⟨⟨h.sub_le _ _ hbounds, h.le_add _ _ hbounds⟩,
        ⟨h.sub_le _ _ hbounds, h.le_add _ _ hbounds⟩, h.sub_le _ _ hbounds, h.le_add _ _ hbounds⟩
  | aabb halfExtents =>
      obtain ⟨hx, hy, hz⟩ := hbounds
      exact ⟨⟨h.sub_le _ _ hx, h.le_add _ _ hx⟩, ⟨h.sub_le _ _ hy, h.le_add _ _ hy⟩,
        h.sub_le _ _ hz, h.le_add _ _ hz⟩

/-- Boxes with a point in common overlap. -/
lemma ExactCoordinates.overlaps_of_holds (h : ExactCoordinates grid) {a b : Aabb3 F}
    {p : Position3 F} (ha : a.Holds p) (hb : b.Holds p) : a.overlaps b = true := by
  obtain ⟨hax, hay, haz⟩ := ha
  obtain ⟨hbx, hby, hbz⟩ := hb
  simp only [Aabb3.overlaps, Bool.and_eq_true, h.le_iff]
  exact ⟨⟨⟨⟨⟨hax.1.trans hbx.2, hbx.1.trans hax.2⟩, hay.1.trans hby.2⟩, hby.1.trans hay.2⟩,
    haz.1.trans hbz.2⟩, hbz.1.trans haz.2⟩

end Boxes

/-! ## Live handles -/

namespace Station

/-- The handles of the stored entities, in the order of the slots. -/
def liveHandles (s : Station F) : List EntityHandle := s.iter.map (·.handle)

variable {s : Station F}

lemma StoreInv.mem_liveHandles (inv : s.StoreInv) {h : EntityHandle} :
    h ∈ s.liveHandles ↔ ∃ r, s.get h = some r := by
  rw [liveHandles, List.mem_map]
  constructor
  · rintro ⟨r, hmem, rfl⟩
    obtain ⟨handle, hget⟩ := (mem_iter_iff inv.lengths).mp hmem
    rw [(inv.id_of_get handle r hget).2]
    exact ⟨r, hget⟩
  · rintro ⟨r, hget⟩
    exact ⟨r, (mem_iter_iff inv.lengths).mpr ⟨h, hget⟩, (inv.id_of_get h r hget).2⟩

lemma StoreInv.nodup_liveHandles (inv : s.StoreInv) : s.liveHandles.Nodup := by
  refine List.Nodup.map_on (fun r hr r' hr' hsame => ?_) inv.map_id_iter.1.of_map
  obtain ⟨handle, hget⟩ := (mem_iter_iff inv.lengths).mp hr
  obtain ⟨handle', hget'⟩ := (mem_iter_iff inv.lengths).mp hr'
  rw [(inv.id_of_get _ _ hget).2, (inv.id_of_get _ _ hget').2] at hsame
  rw [hsame, hget', Option.some.injEq] at hget
  exact hget.symm

end Station

/-! ## Plans over candidates that agree -/

namespace ReplicationPlanner

/-- A plan takes as many of the handles as the limit allows, none of them twice. -/
structure Fills (eligible : List EntityHandle) (limit : ℕ) (plan : ReplicationPlan) : Prop where
  nodup : plan.entities.Nodup
  subset : plan.entities ⊆ eligible
  length_eq : plan.entities.length = min eligible.length limit

lemma Fills.of_perm {eligible eligible' : List EntityHandle} {limit : ℕ} {plan : ReplicationPlan}
    (h : Fills eligible limit plan) (hperm : eligible.Perm eligible') :
    Fills eligible' limit plan where
  nodup := h.nodup
  subset _ hmem := hperm.mem_iff.mp (h.subset hmem)
  length_eq := by
    rw [← hperm.length_eq]
    exact h.length_eq

/-- The plan of the best: the handles by score, distance and handle, cut at the limit. -/
def bestHandles [Scalar F] (checks : CandidateChecks F) (viewer : ViewerQuery F) (limit : ℕ)
    (eligible : List EntityHandle) : List EntityHandle :=
  ((sortBy comparePrioritizedCandidates (eligible.filterMap (ranked checks viewer))).take limit).map
    (·.handle)

variable [Scalar F]
  {selectNthUnstableBy : SelectNthUnstableBy (PrioritizedReplicationCandidate F)}

/-- The best are the first of the full sort, in any order of the admissible handles. -/
lemma map_handle_best (h : TotalDistances F) {checks : CandidateChecks F} {viewer : ViewerQuery F}
    {limit : ℕ} {candidates all : List EntityHandle} (hall : all.Nodup)
    (hperm : (candidates.filter (admissible checks viewer)).Perm
      (all.filter (admissible checks viewer)))
    {best : List (PrioritizedReplicationCandidate F)}
    (hbest : IsBest comparePrioritizedCandidates limit
      ((candidates.filter (admissible checks viewer)).filterMap (ranked checks viewer)) best) :
    best.map (·.handle)
      = bestHandles checks viewer limit (all.filter (admissible checks viewer)) := by
  have htrans := transCmp_comparePrioritizedCandidates h.totalCmp
  have hdistinct : (((all.filter (admissible checks viewer)).filterMap
      (ranked checks viewer)).map (·.handle)).Nodup := by
    rw [map_handle_ranked]
    exact hall.filter _
  rw [bestHandles, sortBy, ← (hbest.of_perm (hperm.filterMap _)).eq_take_sort
    (eq_of_cmp_eq handle_eq_of_compare hdistinct)]

/-- **A plan sees of its candidates the admissible ones.**  Of candidates with the same admissible
handles in another order, it takes as many, and the prioritized plan takes the same. -/
theorem planOver_of_perm (h : TotalDistances F) (hselect : SelectsNth selectNthUnstableBy)
    (inputs : PlannerInputs F) (viewer : ViewerQuery F) {candidates all : List EntityHandle}
    (hnodup : candidates.Nodup) (hall : all.Nodup)
    (hperm : (candidates.filter (admissible (configuredChecks inputs viewer) viewer)).Perm
      (all.filter (admissible (configuredChecks inputs viewer) viewer))) :
    let limit := inputs.budget.hardLimit viewer.maxEntities
    let eligible := all.filter (admissible (configuredChecks inputs viewer) viewer)
    let plan := planOver selectNthUnstableBy inputs candidates viewer
    Fills eligible limit plan
      ∧ (inputs.mode = .prioritized →
          plan.entities = bestHandles (configuredChecks inputs viewer) viewer limit eligible) := by
  intro limit eligible plan
  set checks := configuredChecks inputs viewer with hchecks
  cases hmode : inputs.mode with
  | throughput =>
      have hplan : plan = planForCandidatesInnerInto (examineCandidate checks viewer) candidates
          limit inputs.budget true .default := by
        simp only [plan, planOver, planForCandidatesConfiguredInto, hmode, hchecks, limit,
          examine_eq_examineCandidate]
      have hentities : plan.entities
          = (candidates.filter (admissible checks viewer)).take limit := by
        rw [hplan]
        exact (stopsAtLimit_throughput h hnodup .default).2
      refine ⟨Fills.of_perm ⟨?_, ?_, ?_⟩ hperm, fun hprioritized => ?_⟩
      · rw [hentities]
        exact (hnodup.filter _).sublist (List.take_sublist _ _)
      · rw [hentities]
        exact List.take_subset _ _
      · rw [hentities, List.length_take]
        exact Nat.min_comm _ _
      · cases hprioritized
  | prioritized =>
      have hplan : plan = (planForCandidatesPrioritizedInnerInto selectNthUnstableBy
          (examineCandidate checks viewer) candidates limit inputs.budget [] .default).2 := by
        simp only [plan, planOver, planForCandidatesConfiguredInto, hmode, hchecks, limit,
          examine_eq_examineCandidate]
      obtain ⟨hcovers, best, hbest, hentities⟩ :
          CoversAll checks viewer candidates inputs.budget plan
          ∧ ∃ best, IsBest comparePrioritizedCandidates limit
            ((candidates.filter (admissible checks viewer)).filterMap (ranked checks viewer)) best
          ∧ plan.entities = best.map (·.handle) := by
        rw [hplan]
        exact coversAll_prioritized h hselect hnodup [] .default
      have hcount := congrArg List.length (map_handle_ranked checks viewer candidates)
      rw [List.length_map] at hcount
      refine ⟨Fills.of_perm ⟨hcovers.nodup, fun handle hmem => ?_, ?_⟩ hperm, fun _ => ?_⟩
      · exact List.mem_filter.mpr (hcovers.selected_admissible handle hmem)
      · rw [hentities, List.length_map, hbest.length_eq, hcount]
      · rw [hentities]
        exact map_handle_best h hall hperm hbest

end ReplicationPlanner

/-! ## The query of a viewer -/

namespace StationRuntime

variable [Scalar F]

/-- A run whose incoming commits name their records keeps the stores in agreement and the id map
in order. -/
lemma agrees_of_commitsNamed (config : StationRuntimeConfig F) {ops : List (RuntimeOp F)}
    (hnamed : AllSteps step CommitsNamed (new config) ops) :
    (execute step (new config) ops).Agrees config.grid
      ∧ (execute step (new config) ops).station.StoreInv := by
  refine execute_invariant (I := fun rt => rt.Agrees config.grid ∧ rt.station.StoreInv)
    (fun rt op inv hok => ⟨inv.1.step inv.2.wf_slots hok.1.1, storeInv_step inv.2 hok.2⟩)
    ⟨agrees_new config, Station.storeInv_new config.station⟩
    (allSteps_and.mpr ⟨ghostsLive_of_commitsNamed config hnamed, hnamed⟩)

variable [LinearOrder F] {grid : GridSpec F} {rt : StationRuntime F}

/-- **The query is complete for admissible entities.**  Its handles and the live handles of the
station are the same where they are admissible. -/
lemma Agrees.filter_viewerCandidates_perm (inv : rt.Agrees grid) (hstore : rt.station.StoreInv)
    (hexact : ExactCoordinates grid) (hdist : ExactDistances F) (checks : CandidateChecks F)
    (hstation : checks.station = rt.station) (hfilter : checks.filter.Ranged)
    (hbounds : ∀ r ∈ rt.station.iter, r.bounds.Nonneg) {viewer : ViewerQuery F}
    (hradius : Scalar.ofNat 0 ≤ viewer.radius) :
    ((viewerCandidates rt.index viewer).filter (admissible checks viewer)).Perm
      (rt.station.liveHandles.filter (admissible checks viewer)) := by
  have hcoherent := inv.coherent
  refine perm_filter_of_agree (CellIndex.nodup_eraseDups _) hstore.nodup_liveHandles ?_
  intro h hadm
  rw [hstore.mem_liveHandles, viewerCandidates, CellIndex.mem_candidates]
  constructor
  · rintro ⟨cell, -, hcell⟩
    obtain ⟨r, hget, -⟩ := (hcoherent.mem_handlesInCell h cell).mp hcell
    exact ⟨r, hget⟩
  · rintro ⟨r, hget⟩
    -- the entity is within the radius, since the filter looked at its distance
    have hnear : Scalar.le (r.position.distanceSquared viewer.position) viewer.radiusSquared
        = true := by
      rw [admissible, hstation, hget] at hadm
      cases hpolicy : checks.policies.get r.policyId with
      | none => simp [hpolicy] at hadm
      | some policy =>
          simp only [hpolicy, Bool.and_eq_true] at hadm
          exact hfilter viewer r hadm.1.1.2
    have hnonneg : r.bounds.Nonneg :=
      hbounds r ((Station.mem_iter_iff hstore.lengths).mpr ⟨h, hget⟩)
    have hbox : (Bounds.sphere viewer.radius).Nonneg := hradius
    obtain ⟨cell, hcell, hquery⟩ := hexact.shared_cell (hexact.nonneg_toAabb hnonneg r.position)
      (hexact.nonneg_toAabb hbox viewer.position)
      (hexact.overlaps_of_holds (hexact.holds_toAabb hnonneg r.position)
        (hdist.holds r.position viewer.position viewer.radius hradius hnear))
    rw [← inv.sameGrid] at hquery
    exact ⟨cell, hquery, (hcoherent.mem_handlesInCell h cell).mpr ⟨r, hget, hcell⟩⟩

/-- **The grid cannot be seen in a plan.**  With exact coordinates and distances and a filter that
keeps to the viewer's radius, the plan of a viewer after any run takes its entities, none twice and
as many as the limit allows, from the admissible ones of the whole station; the prioritized plan
consists of the best of these by score, distance and handle.  The scratch of the query, the buffer
and the plan it is written to do not matter. -/
theorem plan_ignores_grid (htotal : TotalDistances F) (hdist : ExactDistances F)
    {selectNthUnstableBy : SelectNthUnstableBy (PrioritizedReplicationCandidate F)}
    (hselect : SelectsNth selectNthUnstableBy) (config : StationRuntimeConfig F)
    (hexact : ExactCoordinates config.grid) {ops : List (RuntimeOp F)}
    (hnamed : AllSteps step CommitsNamed (new config) ops)
    (hbounds : ∀ r ∈ (execute step (new config) ops).station.iter, r.bounds.Nonneg)
    (inputs : PlannerInputs F) (hstation : inputs.station = (execute step (new config) ops).station)
    (hfilter : inputs.filter.Ranged) (viewer : ViewerQuery F)
    (hradius : Scalar.ofNat 0 ≤ viewer.radius) (history : List (ScratchUse F))
    (prioritized : List (PrioritizedReplicationCandidate F)) (plan : ReplicationPlan) :
    let checks := configuredChecks inputs viewer
    let limit := inputs.budget.hardLimit viewer.maxEntities
    let eligible := inputs.station.liveHandles.filter (admissible checks viewer)
    let made := (planForViewerConfiguredInto selectNthUnstableBy inputs
      (execute step (new config) ops).index viewer
      ⟨execute ScratchUse.step .new history, prioritized⟩ plan).2
    Fills eligible limit made
      ∧ (inputs.mode = .prioritized →
          made.entities = bestHandles checks viewer limit eligible) := by
  obtain ⟨inv, hstore⟩ := agrees_of_commitsNamed config hnamed
  have hperm := inv.filter_viewerCandidates_perm hstore hexact hdist
    (configuredChecks inputs viewer) hstation hfilter hbounds hradius
  rw [planForViewerConfiguredInto_eq _ _ _ _ _ (ScratchUse.wellFormed_execute history)]
  rw [← hstation] at hperm hstore
  exact planOver_of_perm htotal hselect inputs viewer (CellIndex.nodup_eraseDups _)
    hstore.nodup_liveHandles hperm

end StationRuntime

/-! ## A plan on two grids -/

lemma exactDistances_rational : ExactDistances ℚ where
  holds p q radius hradius hnear := by
    have hzero : (0 : ℚ) ≤ radius := by simpa [Scalar.ofNat] using hradius
    have hsum : (p.x - q.x) * (p.x - q.x) + ((p.y - q.y) * (p.y - q.y)
        + (p.z - q.z) * (p.z - q.z)) ≤ radius * radius := of_decide_eq_true hnear
    have hx := mul_self_nonneg (p.x - q.x)
    have hy := mul_self_nonneg (p.y - q.y)
    have hz := mul_self_nonneg (p.z - q.z)
    have haxis : ∀ a b : ℚ, (a - b) * (a - b) ≤ radius * radius →
        b - radius ≤ a ∧ a ≤ b + radius := by
      intro a b hle
      rw [← sq, ← sq] at hle
      obtain ⟨hlow, hhigh⟩ := abs_le_of_sq_le_sq' hle hzero
      exact ⟨by linarith, by linarith⟩
    exact ⟨haxis p.x q.x (by linarith), haxis p.y q.y (by linarith), haxis p.z q.z (by linarith)⟩

namespace StationRuntime

/-- Three entities on a line, of which the nearest came last. -/
def spawnLine : List (RuntimeOp ℚ) :=
  [.spawnOwned ⟨⟨1⟩, ⟨9, 0, 0⟩, .sphere 1, ⟨0⟩⟩, .spawnOwned ⟨⟨2⟩, ⟨30, 0, 0⟩, .sphere 1, ⟨0⟩⟩,
    .spawnOwned ⟨⟨3⟩, ⟨3, 0, 0⟩, .sphere 1, ⟨0⟩⟩]

/-- The runtime of the line. -/
def lineRuntime (grid : GridSpec ℚ) : StationRuntime ℚ :=
  execute step (new ⟨configWithStation 1, grid⟩) spawnLine

/-- Inputs of a prioritized plan of two entities at most. -/
def lineInputs (grid : GridSpec ℚ) : PlannerInputs ℚ where
  station := (lineRuntime grid).station
  policies := PolicyTable.default.set (.new ⟨0⟩ 5 10 100)
  filter := .andVisibility .rangeOnlyVisibility (.tagVisibility ⟨0⟩ ⟨0⟩)
  budget := .default
  mode := .prioritized
  eligible := fun _ _ _ => true
  lastSent := fun _ _ => none

/-- A viewer at the origin. -/
def lineViewer : ViewerQuery ℚ := ⟨⟨7⟩, ⟨0, 0, 0⟩, 10, 4⟩

/-- The entities of the plan of the viewer. -/
def lineEntities (grid : GridSpec ℚ) : List EntityHandle :=
  (planForViewerConfiguredInto fullSort (lineInputs grid) (lineRuntime grid).index lineViewer
    .default .default).2.entities

/-- Cells of size two and of size fifty give the same plan, the nearest entity first. -/
theorem line_plan_ignores_grid :
    lineEntities ⟨2⟩ = [⟨2, 0⟩, ⟨0, 0⟩] ∧ lineEntities ⟨50⟩ = [⟨2, 0⟩, ⟨0, 0⟩] := by
  have hall : ∀ grid ∈ [⟨2⟩, (⟨50⟩ : GridSpec ℚ)], lineEntities grid = [⟨2, 0⟩, ⟨0, 0⟩] := by
    intro grid hgrid
    have hsize : 0 < grid.cellSize := by
      revert grid
      decide +kernel
    have hsphere : ∀ r ∈ (lineRuntime grid).station.iter, r.bounds = .sphere 1 := by
      revert grid
      decide +kernel
    have hnamed : AllSteps step CommitsNamed (new ⟨configWithStation 1, grid⟩) spawnLine :=
      ⟨trivial, trivial, trivial, trivial⟩
    refine ((plan_ignores_grid totalDistances_rational exactDistances_rational selectsNth_fullSort
      ⟨configWithStation 1, grid⟩ (CellIndex.exactCoordinates_rational hsize) hnamed
      (fun r hr => ?_) (lineInputs grid) rfl
      (VisibilityFilter.ranged_rangeOnlyVisibility.andVisibility _) lineViewer ?_ [] []
      .default).2 rfl).trans ?_
    · rw [hsphere r hr]
      norm_num [Bounds.Nonneg, Scalar.ofNat]
    · norm_num [lineViewer, Scalar.ofNat]
    · clear hsize hsphere hnamed
      revert grid
      decide +kernel
  exact ⟨hall ⟨2⟩ (by simp), hall ⟨50⟩ (by simp)⟩

end StationRuntime

end SectorSync
