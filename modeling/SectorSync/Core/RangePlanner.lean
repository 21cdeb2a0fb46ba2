import SectorSync.Core.Replication

/-!
# The planning loops for any caller, and the range planner

The planning loops of `replication.rs` are generic in the cadence and the eligibility of a
candidate; `examineCandidate` makes their checks for any two such functions, and the checks of the
configured kernel are an instance (`examine_eq_examineCandidate`).

The range planner has two builds.  Without SIMD it is the first-fit loop with range-only
visibility; with SIMD it takes the candidates in chunks, loads the squared distances of a chunk
into lanes, compares all lanes at once, and then selects.
-/

namespace SectorSync

variable {F : Type}

/-- What a planning loop is given to check candidates with. -/
structure CandidateChecks (F : Type) where
  station : Station F
  policies : PolicyTable F
  filter : VisibilityFilter F
  cadenceAllows : EntityHandle → CompiledSyncPolicy F → F → Bool
  eligible : ViewerQuery F → EntityHandle → EntityRecord F → Bool

namespace ReplicationPlanner

section Scalar

variable [Scalar F]

/-- The checks of the planning loops, in their order. -/
def examineCandidate (checks : CandidateChecks F) (viewer : ViewerQuery F)
    (handle : EntityHandle) : CandidateVerdict F :=
  match checks.station.get handle with
  | none => .stale
  | some entity =>
      match checks.policies.get entity.policyId with
      | none => .rejected
      | some policy =>
          let distanceSquared := entity.position.distanceSquared viewer.position
          let policyRadiusSq := Scalar.mul policy.interestRadius policy.interestRadius
          if Scalar.lt policyRadiusSq distanceSquared then .rejected
          else if !checks.filter.isVisibleWithDistance viewer entity distanceSquared then .rejected
          else if !checks.cadenceAllows handle policy distanceSquared then .delayed
          else if !checks.eligible viewer handle entity then .rejected
          else .admitted ⟨handle, ReplicationPriority.score policy distanceSquared, distanceSquared⟩

/-- The checks the configured kernel makes for a viewer. -/
def configuredChecks (inputs : PlannerInputs F) (viewer : ViewerQuery F) : CandidateChecks F where
  station := inputs.station
  policies := inputs.policies
  filter := inputs.filter
  cadenceAllows := fun handle policy distanceSquared =>
    cadenceAllows inputs viewer handle policy distanceSquared
  eligible := inputs.eligible

lemma examine_eq_examineCandidate (inputs : PlannerInputs F) (viewer : ViewerQuery F) :
    examine inputs viewer = examineCandidate (configuredChecks inputs viewer) viewer := rfl

/-! ## The range planner -/

/-- Range-only checks: every cadence and every entity is admitted. -/
def rangeChecks (station : Station F) (policies : PolicyTable F) : CandidateChecks F where
  station := station
  policies := policies
  filter := .rangeOnlyVisibility
  cadenceAllows := fun _ _ _ => true
  eligible := fun _ _ _ => true

/-- Range-only planning over a candidate list, without SIMD. -/
def planForRangeCandidatesInto (station : Station F) (candidates : List EntityHandle)
    (policies : PolicyTable F) (viewer : ViewerQuery F) (budget : ReplicationBudget)
    (plan : ReplicationPlan) : ReplicationPlan :=
  planForCandidatesInnerInto (examineCandidate (rangeChecks station policies) viewer) candidates
    (budget.hardLimit viewer.maxEntities) budget false plan

/-- `slice::chunks`: consecutive pieces of `size` elements, the last possibly shorter. -/
def chunks {α : Type} (size : ℕ) : List α → List (List α)
  | [] => []
  | a :: l => (a :: l.take (size - 1)) :: chunks size (l.drop (size - 1))
termination_by l => l.length
decreasing_by
  rw [List.length_drop, List.length_cons]
  omega

/-- Number of lanes of a vector. -/
def lanes : ℕ := 8

/-- Loads the squared distance and the squared policy radius of a candidate.  A lane without them
is not valid. -/
def loadLane (station : Station F) (policies : PolicyTable F) (viewer : ViewerQuery F)
    (handle : EntityHandle) (plan : ReplicationPlan) : Option (F × F) × ReplicationPlan :=
  match station.get handle with
  | none => (none, plan)
  | some entity =>
      let plan := considerCandidate plan
      match policies.get entity.policyId with
      | none => (none, plan)
      | some policy =>
          (some (entity.position.distanceSquared viewer.position,
            Scalar.mul policy.interestRadius policy.interestRadius), plan)

/-- Loads the lanes of a chunk. -/
def loadLanes (station : Station F) (policies : PolicyTable F) (viewer : ViewerQuery F) :
    List EntityHandle → ReplicationPlan → List (Option (F × F)) × ReplicationPlan
  | [], plan => ([], plan)
  | handle :: handles, plan =>
      let (lane, plan) := loadLane station policies viewer handle plan
      let (rest, plan) := loadLanes station policies viewer handles plan
      (lane :: rest, plan)

/-- The visible lanes: the comparison with both radii, masked by the valid lanes. -/
def visibleLane (viewerRadiusSquared : F) : Option (F × F) → Bool
  | none => false
  | some (distanceSquared, policyRadiusSquared) =>
      Scalar.le distanceSquared policyRadiusSquared
        && Scalar.le distanceSquared viewerRadiusSquared

/-- Selects the candidate of a visible lane, or counts it beyond the hard limit. -/
def selectLane (hardLimit : ℕ) (plan : ReplicationPlan) (lane : EntityHandle × Bool) :
    ReplicationPlan :=
  if !lane.2 then plan
  else if plan.entities.length ≥ hardLimit then skipByBudget plan
  else { plan with entities := plan.entities ++ [lane.1] }

/-- Plans one chunk of candidates. -/
def planChunk (station : Station F) (policies : PolicyTable F) (viewer : ViewerQuery F)
    (hardLimit : ℕ) (plan : ReplicationPlan) (handles : List EntityHandle) : ReplicationPlan :=
  let (loaded, plan) := loadLanes station policies viewer handles plan
  let visible := loaded.map (visibleLane viewer.radiusSquared)
  (handles.zip visible).foldl (selectLane hardLimit) plan

/-- Range-only planning over a candidate list, with SIMD. -/
def planForRangeCandidatesIntoSimd (station : Station F) (candidates : List EntityHandle)
    (policies : PolicyTable F) (viewer : ViewerQuery F) (budget : ReplicationBudget)
    (plan : ReplicationPlan) : ReplicationPlan :=
  let hardLimit := budget.hardLimit viewer.maxEntities
  finishPlan ((chunks lanes candidates).foldl (planChunk station policies viewer hardLimit)
    (resetPlan plan candidates)) budget

end Scalar

end ReplicationPlanner

end SectorSync
