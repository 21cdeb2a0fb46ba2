import SectorSync.Core.PlanSoundness

/-!
# The two builds of the range planner

The scalar build skips a candidate whose squared distance is greater than the squared policy
radius; the vectorised build keeps one whose squared distance is not greater.  Between ordered
values the tests are complements, but two floating-point values may be unordered, and then neither
holds: the scalar build goes on to the viewer's radius, and the vectorised build drops the lane.

`PartialDistances` is the comparison of such values.  Both builds are first fit over their own
verdicts (`planForRangeCandidatesIntoSimd_eq`), the vectorised verdicts admit no more than the
scalar ones, and they admit as many exactly when no candidate is `Unordered`.
-/

namespace SectorSync

variable {F : Type}

/-- Distances compare as floating-point numbers: `partialCmp` has no answer on unordered values,
and both tests of the planners fail there. -/
structure PartialDistances [Scalar F] (partialCmp : F → F → Option Ordering) : Prop where
  swap : ∀ a b : F, partialCmp b a = (partialCmp a b).map Ordering.swap
  le_eq : ∀ a b : F, Scalar.le a b = (partialCmp a b).any Ordering.isLE
  lt_eq : ∀ a b : F, Scalar.lt a b = (partialCmp a b).any Ordering.isLT

namespace PartialDistances

variable [Scalar F] {partialCmp : F → F → Option Ordering} (h : PartialDistances partialCmp)

include h

/-- A value that is not greater passes the test of the vectorised build unless it is unordered. -/
lemma lt_eq_false_iff (a b : F) :
    Scalar.lt b a = false ↔ Scalar.le a b = true ∨ partialCmp a b = none := by
  rw [h.lt_eq, h.le_eq, h.swap a b]
  rcases partialCmp a b with _ | order
  · simp
  · cases order <;> simp

lemma partialCmp_ne_none {a b : F} (hle : Scalar.le a b = true) : partialCmp a b ≠ none := by
  intro hnone
  rw [h.le_eq, hnone] at hle
  cases hle

end PartialDistances

namespace ReplicationPlanner

/-! ## Summaries over verdicts -/

/-- A summary over verdicts that agree on the candidates. -/
lemma takeAll_congr {verdict verdict' : EntityHandle → CandidateVerdict F}
    {candidates : List EntityHandle} (hardLimit : ℕ) (plan : ReplicationPlan)
    (hlive : ∀ handle ∈ candidates, (verdict handle).isLive = (verdict' handle).isLive)
    (hdelayed : ∀ handle ∈ candidates, (verdict handle).isDelayed = (verdict' handle).isDelayed)
    (hadmitted : ∀ handle ∈ candidates,
      (verdict handle).isAdmitted = (verdict' handle).isAdmitted) :
    takeAll verdict hardLimit candidates plan = takeAll verdict' hardLimit candidates plan := by
  have hhandles : admittedHandles verdict candidates = admittedHandles verdict' candidates :=
    List.filter_congr hadmitted
  have hcount : countAll verdict candidates plan = countAll verdict' candidates plan := by
    simp only [countAll, List.countP_eq_length_filter, List.filter_congr hlive,
      List.filter_congr hdelayed]
  rw [takeAll, takeAll, hhandles, hcount]

/-- A plan counts every admitted handle, as selected or as beyond the limit. -/
lemma selected_add_skipped (verdict : EntityHandle → CandidateVerdict F)
    (candidates : List EntityHandle) (hardLimit : ℕ) (budget : ReplicationBudget)
    (plan : ReplicationPlan) :
    let plan := planForCandidatesInnerInto verdict candidates hardLimit budget false plan
    plan.entities.length + plan.stats.skippedByBudget
      = (admittedHandles verdict candidates).length := by
  obtain ⟨hskipped, -, -⟩ := stats_takeAll verdict hardLimit candidates candidates plan
  have hentities := entities_takeAll verdict hardLimit candidates candidates plan
  rw [planForCandidatesInnerInto_all]
  show (takeAll _ _ _ _).entities.length + (takeAll _ _ _ _).stats.skippedByBudget = _
  rw [hentities, hskipped, List.length_take]
  omega

section Scalar

variable [Scalar F] (partialCmp : F → F → Option Ordering) (station : Station F)
  (policies : PolicyTable F) (viewer : ViewerQuery F)

/-- A live candidate with a policy, within the viewer's radius, whose squared distance and squared
policy radius are unordered. -/
def Unordered (handle : EntityHandle) : Prop :=
  ∃ entity policy, station.get handle = some entity
    ∧ policies.get entity.policyId = some policy
    ∧ partialCmp (entity.position.distanceSquared viewer.position)
        (Scalar.mul policy.interestRadius policy.interestRadius) = none
    ∧ Scalar.le (entity.position.distanceSquared viewer.position) viewer.radiusSquared = true

variable {partialCmp}

/-! ## The verdicts of the two builds -/

lemma isLive_laneVerdict (handle : EntityHandle) :
    (laneVerdict station policies viewer handle).isLive
      = (examineCandidate (rangeChecks station policies) viewer handle).isLive := by
  rw [isLive_examineCandidate]
  cases hget : station.get handle with
  | none => simp [laneVerdict, rangeChecks, hget, CandidateVerdict.isLive]
  | some entity =>
      cases hpolicy : policies.get entity.policyId with
      | none => simp [laneVerdict, rangeChecks, hget, hpolicy, CandidateVerdict.isLive]
      | some policy =>
          simp only [laneVerdict, rangeChecks, hget, hpolicy]
          split_ifs <;> rfl

/-- Neither build looks at a cadence. -/
lemma isDelayed_laneVerdict (handle : EntityHandle) :
    (laneVerdict station policies viewer handle).isDelayed
      = (examineCandidate (rangeChecks station policies) viewer handle).isDelayed := by
  cases hget : station.get handle with
  | none => simp [laneVerdict, examineCandidate, rangeChecks, hget]
  | some entity =>
      cases hpolicy : policies.get entity.policyId with
      | none => simp [laneVerdict, examineCandidate, rangeChecks, hget, hpolicy]
      | some policy =>
          simp only [laneVerdict, examineCandidate, rangeChecks, hget, hpolicy, Bool.not_true,
            Bool.false_eq_true, if_false]
          split_ifs <;> rfl

/-- What the scalar build tests of a live candidate with a policy. -/
lemma isAdmitted_range {handle : EntityHandle} {entity : EntityRecord F}
    {policy : CompiledSyncPolicy F} (hget : station.get handle = some entity)
    (hpolicy : policies.get entity.policyId = some policy) :
    (examineCandidate (rangeChecks station policies) viewer handle).isAdmitted
      = (!Scalar.lt (Scalar.mul policy.interestRadius policy.interestRadius)
            (entity.position.distanceSquared viewer.position)
          && Scalar.le (entity.position.distanceSquared viewer.position)
            viewer.radiusSquared) := by
  simp only [examineCandidate, rangeChecks, hget, hpolicy, VisibilityFilter.rangeOnlyVisibility]
  by_cases hbeyond : Scalar.lt (Scalar.mul policy.interestRadius policy.interestRadius)
      (entity.position.distanceSquared viewer.position) = true
  · simp [hbeyond, CandidateVerdict.isAdmitted, CandidateVerdict.candidate?]
  · by_cases hvisible : Scalar.le (entity.position.distanceSquared viewer.position)
        viewer.radiusSquared = true
    · simp [hbeyond, hvisible, CandidateVerdict.isAdmitted, CandidateVerdict.candidate?]
    · simp [hbeyond, hvisible, CandidateVerdict.isAdmitted, CandidateVerdict.candidate?]

/-- The scalar build admits what the vectorised build admits and the unordered candidates. -/
lemma isAdmitted_range_iff (h : PartialDistances partialCmp) (handle : EntityHandle) :
    (examineCandidate (rangeChecks station policies) viewer handle).isAdmitted = true
      ↔ (laneVerdict station policies viewer handle).isAdmitted = true
        ∨ Unordered partialCmp station policies viewer handle := by
  rw [isAdmitted_laneVerdict]
  cases hget : station.get handle with
  | none =>
      simp [examineCandidate, rangeChecks, laneOf, visibleLane, Unordered, hget,
        CandidateVerdict.isAdmitted, CandidateVerdict.candidate?]
  | some entity =>
      cases hpolicy : policies.get entity.policyId with
      | none =>
          simp [examineCandidate, rangeChecks, laneOf, visibleLane, Unordered, hget, hpolicy,
            CandidateVerdict.isAdmitted, CandidateVerdict.candidate?]
      | some policy =>
          have hlt := h.lt_eq_false_iff (entity.position.distanceSquared viewer.position)
            (Scalar.mul policy.interestRadius policy.interestRadius)
          rw [isAdmitted_range station policies viewer hget hpolicy, Bool.and_eq_true,
            Bool.not_eq_true', hlt]
          simp only [laneOf, visibleLane, Unordered, hget, hpolicy, Bool.and_eq_true,
            Option.some.injEq, exists_and_left, exists_eq_left']
          tauto

/-- A lane that passes the comparison is ordered. -/
lemma not_unordered_of_isAdmitted (h : PartialDistances partialCmp) {handle : EntityHandle}
    (hadmitted : (laneVerdict station policies viewer handle).isAdmitted = true) :
    ¬ Unordered partialCmp station policies viewer handle := by
  rintro ⟨entity, policy, hget, hpolicy, hnone, -⟩
  rw [isAdmitted_laneVerdict, laneOf, hget] at hadmitted
  simp only [hpolicy, visibleLane, Bool.and_eq_true] at hadmitted
  exact h.partialCmp_ne_none hadmitted.1 hnone

/-! ## The plans -/

/-- **The two builds.**  Over any candidate list, whatever the chunks it is cut into, the
vectorised range planner returns the plan of the scalar one, the same candidates in the same order
and the same counters, exactly when no candidate within the viewer's radius has a policy whose
squared radius is unordered with its squared distance. -/
theorem planForRangeCandidates_simd_eq_iff (h : PartialDistances partialCmp)
    (candidates : List EntityHandle) (budget : ReplicationBudget) (plan : ReplicationPlan) :
    planForRangeCandidatesIntoSimd station candidates policies viewer budget plan
        = planForRangeCandidatesInto station candidates policies viewer budget plan
      ↔ ∀ handle ∈ candidates, ¬ Unordered partialCmp station policies viewer handle := by
  have hadmitted := isAdmitted_range_iff station policies viewer h
  rw [planForRangeCandidatesIntoSimd_eq, planForRangeCandidatesInto]
  constructor
  · intro heq
    have hlanes := selected_add_skipped (laneVerdict station policies viewer) candidates
      (budget.hardLimit viewer.maxEntities) budget plan
    have hscalar := selected_add_skipped (examineCandidate (rangeChecks station policies) viewer)
      candidates (budget.hardLimit viewer.maxEntities) budget plan
    rw [heq] at hlanes
    -- the lanes admit a sublist, and the plans count as many
    have hsublist : (admittedHandles (laneVerdict station policies viewer) candidates).Sublist
        (admittedHandles (examineCandidate (rangeChecks station policies) viewer) candidates) :=
      List.monotone_filter_right candidates fun handle hlane => (hadmitted handle).mpr (.inl hlane)
    have hsame := hsublist.eq_of_length (hlanes.symm.trans hscalar)
    intro handle hmem hunordered
    have hkept : handle
        ∈ admittedHandles (examineCandidate (rangeChecks station policies) viewer) candidates :=
      List.mem_filter.mpr ⟨hmem, (hadmitted handle).mpr (.inr hunordered)⟩
    rw [← hsame] at hkept
    exact not_unordered_of_isAdmitted station policies viewer h (List.mem_filter.mp hkept).2
      hunordered
  · intro hordered
    rw [planForCandidatesInnerInto_all, planForCandidatesInnerInto_all]
    refine congrArg (finishPlan · budget) (takeAll_congr _ _ ?_ ?_ ?_)
    · exact fun handle _ => isLive_laneVerdict station policies viewer handle
    · exact fun handle _ => isDelayed_laneVerdict station policies viewer handle
    · intro handle hmem
      rw [Bool.eq_iff_iff, hadmitted handle, or_iff_left (hordered handle hmem)]

end Scalar

/-! ## A policy radius that is not a number -/

/-- Rational coordinates and a value that is not a number. -/
instance nanScalar : Scalar (Option ℚ) where
  ofNat n := some (Scalar.ofNat n)
  ofU16 n := some (Scalar.ofU16 n)
  add := Option.map₂ Scalar.add
  sub := Option.map₂ Scalar.sub
  mul := Option.map₂ Scalar.mul
  div := Option.map₂ Scalar.div
  mulAdd a b c := Option.map₂ Scalar.add (Option.map₂ Scalar.mul a b) c
  le a b := (Option.map₂ Scalar.le a b).getD false
  lt a b := (Option.map₂ Scalar.lt a b).getD false
  totalCmp a b := match a, b with
    | some a, some b => Scalar.totalCmp a b
    | some _, none => .lt
    | none, some _ => .gt
    | none, none => .eq
  isFinite := Option.isSome
  clamp a lo hi := a.bind fun a => Option.map₂ (Scalar.clamp a) lo hi
  round := Option.map Scalar.round
  floorToI32 a := (a.map Scalar.floorToI32).getD 0
  toU16 a := (a.map Scalar.toU16).getD 0
  toU64 a := (a.map Scalar.toU64).getD 0

/-- The comparison of rational numbers has no answer on a value that is not a number. -/
lemma partialDistances_nan :
    PartialDistances (Option.map₂ (Scalar.totalCmp : ℚ → ℚ → Ordering)) where
  swap a b := by
    have htotal := totalDistances_rational.totalCmp
    cases a with
    | none => simp
    | some a =>
        cases b with
        | none => simp
        | some b => exact congrArg some htotal.eq_swap
  le_eq a b := by
    cases a with
    | none => rfl
    | some a =>
        cases b with
        | none => rfl
        | some b => exact totalDistances_rational.le_eq a b
  lt_eq a b := by
    cases a with
    | none => rfl
    | some a =>
        cases b with
        | none => rfl
        | some b => exact totalDistances_rational.lt_eq a b

/-- A station with one entity at the origin. -/
def originStation : Station (Option ℚ) :=
  ((Station.new (configWithStation 1)).spawnOwned ⟨7⟩ ⟨some 0, some 0, some 0⟩ .point ⟨0⟩).2

/-- A viewer at the origin. -/
def originViewer : ViewerQuery (Option ℚ) := ⟨⟨7⟩, ⟨some 0, some 0, some 0⟩, some 10, 4⟩

/-- One policy of the given radius. -/
def radiusPolicies (radius : Option ℚ) : PolicyTable (Option ℚ) :=
  PolicyTable.default.set (.new ⟨0⟩ 1 20 radius)

/-- A policy whose radius is not a number: the scalar build selects the entity at the viewer's
position, the vectorised build does not. -/
theorem planForRangeCandidates_simd_ne_scalar :
    ¬ ∀ (station : Station (Option ℚ)) (candidates : List EntityHandle)
      (policies : PolicyTable (Option ℚ)) (viewer : ViewerQuery (Option ℚ))
      (budget : ReplicationBudget) (plan : ReplicationPlan),
      planForRangeCandidatesIntoSimd station candidates policies viewer budget plan
        = planForRangeCandidatesInto station candidates policies viewer budget plan := by
  intro h
  exact absurd (h originStation [⟨0, 0⟩] (radiusPolicies none) originViewer .default .default)
    (by decide +kernel)

/-- With a radius of two the builds agree. -/
theorem planForRangeCandidates_simd_eq_at_origin :
    planForRangeCandidatesIntoSimd originStation [⟨0, 0⟩] (radiusPolicies (some 2)) originViewer
        .default .default
      = planForRangeCandidatesInto originStation [⟨0, 0⟩] (radiusPolicies (some 2)) originViewer
        .default .default := by
  refine (planForRangeCandidates_simd_eq_iff originStation (radiusPolicies (some 2)) originViewer
    partialDistances_nan [⟨0, 0⟩] .default .default).mpr ?_
  simp only [List.mem_singleton, forall_eq]
  rintro ⟨entity, policy, hget, hpolicy, hnone, -⟩
  have hordered : (originStation.get ⟨0, 0⟩).all fun entity =>
      ((radiusPolicies (some 2)).get entity.policyId).all fun policy =>
        (Option.map₂ Scalar.totalCmp
          (entity.position.distanceSquared originViewer.position)
          (Scalar.mul policy.interestRadius policy.interestRadius)).isSome := by
    decide +kernel
  rw [hget, Option.all_some, hpolicy, Option.all_some, hnone] at hordered
  exact absurd hordered Bool.false_ne_true

end ReplicationPlanner

end SectorSync
