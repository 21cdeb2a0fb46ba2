import SectorSync.Base.Selection
import SectorSync.Core.RangePlanner
import SectorSync.Core.RationalScalar

/-!
# What a replication plan contains

A candidate is admissible when it is live, has a policy, lies within the policy's radius, and is
visible, due and eligible.  Every planning loop is a fold of verdicts, and a run of such a fold is
summarised by two operations on plans: `countVerdicts` adds what was counted, and `acceptAll`
takes admitted handles up to the limit and counts the others.  Both compose along a list, so the
loop over single candidates and the loop over chunks have one summary.

`plan_sound` reads the contract of a plan off these summaries, for the throughput loop, for
first fit over all candidates, for the prioritized loop and for the vectorised range planner.

Distances are values of an abstract type under a total order, as `TotalDistances` says.
-/

namespace SectorSync

open Selection

variable {F : Type}

/-- Distances are totally ordered: the comparison is transitive and oriented, and the two tests
of the planners are its tests. -/
structure TotalDistances (F : Type) [Scalar F] : Prop where
  totalCmp : Std.TransCmp (Scalar.totalCmp : F → F → Ordering)
  le_eq : ∀ a b : F, Scalar.le a b = (Scalar.totalCmp a b).isLE
  lt_eq : ∀ a b : F, Scalar.lt a b = (Scalar.totalCmp a b).isLT

lemma TotalDistances.lt_eq_not_le [Scalar F] (h : TotalDistances F) (a b : F) :
    Scalar.lt a b = !Scalar.le b a := by
  have hswap : Scalar.totalCmp b a = (Scalar.totalCmp a b).swap := h.totalCmp.eq_swap
  rw [h.lt_eq, h.le_eq, hswap]
  cases Scalar.totalCmp a b <;> rfl

namespace CandidateVerdict

/-- The station has the handle. -/
def isLive : CandidateVerdict F → Bool
  | .stale => false
  | _ => true

/-- Only the cadence holds the candidate back. -/
def isDelayed : CandidateVerdict F → Bool
  | .delayed => true
  | _ => false

/-- The candidate that passed every check. -/
def candidate? : CandidateVerdict F → Option (PrioritizedReplicationCandidate F)
  | .admitted candidate => some candidate
  | _ => none

/-- Every check passed. -/
def isAdmitted (verdict : CandidateVerdict F) : Bool := verdict.candidate?.isSome

end CandidateVerdict

namespace ReplicationPlanner

/-! ## Counting and accepting -/

/-- A plan that counted some live and some delayed candidates more. -/
def countVerdicts (live delayed : ℕ) (plan : ReplicationPlan) : ReplicationPlan :=
  { plan with stats := { plan.stats with
    considered := plan.stats.considered + live
    skippedByCadence := plan.stats.skippedByCadence + delayed } }

/-- A plan that takes admitted handles up to the limit and counts the others. -/
def acceptAll (hardLimit : ℕ) (admitted : List EntityHandle) (plan : ReplicationPlan) :
    ReplicationPlan where
  entities := plan.entities ++ admitted.take (hardLimit - plan.entities.length)
  stats := { plan.stats with
    skippedByBudget := plan.stats.skippedByBudget
      + (admitted.length - (hardLimit - plan.entities.length)) }

lemma acceptAll_nil (hardLimit : ℕ) (plan : ReplicationPlan) :
    acceptAll hardLimit [] plan = plan := by
  simp [acceptAll]

lemma countVerdicts_countVerdicts (live delayed live' delayed' : ℕ) (plan : ReplicationPlan) :
    countVerdicts live' delayed' (countVerdicts live delayed plan)
      = countVerdicts (live + live') (delayed + delayed') plan := by
  simp only [countVerdicts, Nat.add_assoc]

/-- Accepting two lists is accepting their concatenation. -/
lemma acceptAll_acceptAll (hardLimit : ℕ) (admitted admitted' : List EntityHandle)
    (plan : ReplicationPlan) :
    acceptAll hardLimit admitted' (acceptAll hardLimit admitted plan)
      = acceptAll hardLimit (admitted ++ admitted') plan := by
  have hlen : hardLimit - (plan.entities ++ admitted.take
      (hardLimit - plan.entities.length)).length
      = hardLimit - plan.entities.length - admitted.length := by
    rw [List.length_append, List.length_take]
    omega
  have hcount : admitted.length - (hardLimit - plan.entities.length)
      + (admitted'.length - (hardLimit - plan.entities.length - admitted.length))
      = (admitted ++ admitted').length - (hardLimit - plan.entities.length) := by
    rw [List.length_append]
    omega
  simp only [acceptAll, hlen]
  rw [List.append_assoc, ← List.take_append, Nat.add_assoc, hcount]

/-- One admitted handle. -/
lemma acceptAll_singleton (hardLimit : ℕ) (handle : EntityHandle) (plan : ReplicationPlan) :
    acceptAll hardLimit [handle] plan
      = if plan.entities.length ≥ hardLimit then skipByBudget plan
        else { plan with entities := plan.entities ++ [handle] } := by
  split_ifs with hfull
  · have hroom : hardLimit - plan.entities.length = 0 := Nat.sub_eq_zero_of_le hfull
    simp [acceptAll, hroom, skipByBudget]
  · obtain ⟨room, hroom⟩ : ∃ room, hardLimit - plan.entities.length = room + 1 :=
      ⟨hardLimit - plan.entities.length - 1, by omega⟩
    simp [acceptAll, hroom]

/-! ## The first-fit loop -/

section FirstFit

variable (verdict : EntityHandle → CandidateVerdict F)

/-- The handles that pass every check, in their order. -/
def admittedHandles (candidates : List EntityHandle) : List EntityHandle :=
  candidates.filter fun handle => (verdict handle).isAdmitted

/-- What a loop over the candidates counts. -/
def countAll (candidates : List EntityHandle) (plan : ReplicationPlan) : ReplicationPlan :=
  countVerdicts (candidates.countP fun handle => (verdict handle).isLive)
    (candidates.countP fun handle => (verdict handle).isDelayed) plan

lemma admittedHandles_append (candidates candidates' : List EntityHandle) :
    admittedHandles verdict (candidates ++ candidates')
      = admittedHandles verdict candidates ++ admittedHandles verdict candidates' :=
  List.filter_append candidates candidates'

lemma countAll_append (candidates candidates' : List EntityHandle) (plan : ReplicationPlan) :
    countAll verdict (candidates ++ candidates') plan
      = countAll verdict candidates' (countAll verdict candidates plan) := by
  simp only [countAll, countVerdicts_countVerdicts, List.countP_append]

/-- Counts and accepts the candidates of a list. -/
def takeAll (hardLimit : ℕ) (candidates : List EntityHandle) (plan : ReplicationPlan) :
    ReplicationPlan :=
  acceptAll hardLimit (admittedHandles verdict candidates) (countAll verdict candidates plan)

lemma takeAll_nil (hardLimit : ℕ) (plan : ReplicationPlan) :
    takeAll verdict hardLimit [] plan = plan := acceptAll_nil hardLimit plan

/-- Taking two lists is taking their concatenation. -/
lemma takeAll_append (hardLimit : ℕ) (candidates candidates' : List EntityHandle)
    (plan : ReplicationPlan) :
    takeAll verdict hardLimit (candidates ++ candidates') plan
      = takeAll verdict hardLimit candidates' (takeAll verdict hardLimit candidates plan) := by
  rw [takeAll, admittedHandles_append, countAll_append, ← acceptAll_acceptAll]
  rfl

variable {verdict} in
lemma countAll_one {handle : EntityHandle} {v : CandidateVerdict F} (h : verdict handle = v)
    (plan : ReplicationPlan) :
    countAll verdict [handle] plan
      = countVerdicts (if v.isLive then 1 else 0) (if v.isDelayed then 1 else 0) plan := by
  rw [countAll, List.countP_singleton, List.countP_singleton, h]

variable {verdict} in
lemma admittedHandles_one {handle : EntityHandle} {v : CandidateVerdict F}
    (h : verdict handle = v) :
    admittedHandles verdict [handle] = if v.isAdmitted then [handle] else [] := by
  rw [admittedHandles, List.filter_singleton, h, Bool.cond_eq_ite]

/-- What the loop makes of one candidate. -/
lemma selectFirstFit_cons (hardLimit : ℕ) (handle : EntityHandle) (rest : List EntityHandle)
    (plan : ReplicationPlan) :
    selectFirstFit verdict hardLimit false (handle :: rest) plan
      = selectFirstFit verdict hardLimit false rest
        (takeAll verdict hardLimit [handle] plan) := by
  rw [selectFirstFit, takeAll]
  cases hverdict : verdict handle with
  | stale =>
      rw [countAll_one hverdict, admittedHandles_one hverdict]
      exact congrArg _ (acceptAll_nil hardLimit plan).symm
  | rejected =>
      rw [countAll_one hverdict, admittedHandles_one hverdict]
      exact congrArg _ (acceptAll_nil hardLimit _).symm
  | delayed =>
      rw [countAll_one hverdict, admittedHandles_one hverdict]
      exact congrArg _ (acceptAll_nil hardLimit _).symm
  | admitted candidate =>
      rw [countAll_one hverdict, admittedHandles_one hverdict]
      have hone := acceptAll_singleton hardLimit handle (considerCandidate plan)
      refine Eq.trans ?_ (congrArg _ hone.symm)
      by_cases hfull : (considerCandidate plan).entities.length ≥ hardLimit
      · simp only [if_pos hfull]
      · simp only [if_neg hfull, Bool.false_eq_true, false_and, if_false]

/-- **First fit over all candidates** counts them all and takes the first admitted ones. -/
lemma selectFirstFit_all (hardLimit : ℕ) (candidates : List EntityHandle)
    (plan : ReplicationPlan) :
    selectFirstFit verdict hardLimit false candidates plan
      = takeAll verdict hardLimit candidates plan := by
  induction candidates generalizing plan with
  | nil => exact (takeAll_nil verdict hardLimit plan).symm
  | cons handle rest ih => rw [selectFirstFit_cons, ih, ← takeAll_append, List.singleton_append]

/-- The handles a loop looks at that stops once `room` of them are admitted. -/
def examinedHandles (room : ℕ) (candidates : List EntityHandle) : List EntityHandle :=
  prefixWith (fun handle => (verdict handle).isAdmitted) room candidates

/-- Records how many candidates were left. -/
def leaveUnexamined (n : ℕ) (plan : ReplicationPlan) : ReplicationPlan :=
  { plan with stats := { plan.stats with unexaminedAfterBudget := n } }

/-- **First fit that stops** is first fit over the candidates it looks at. -/
lemma selectFirstFit_stop (hardLimit : ℕ) (candidates : List EntityHandle) (room : ℕ)
    (plan : ReplicationPlan) (hroom : plan.entities.length + (room + 1) = hardLimit)
    (hfresh : plan.stats.unexaminedAfterBudget = 0) :
    selectFirstFit verdict hardLimit true candidates plan
      = leaveUnexamined
        (candidates.length - (examinedHandles verdict (room + 1) candidates).length)
        (selectFirstFit verdict hardLimit false
          (examinedHandles verdict (room + 1) candidates) plan) := by
  induction candidates generalizing room plan with
  | nil =>
      show plan = leaveUnexamined 0 plan
      rw [leaveUnexamined, ← hfresh]
  | cons handle rest ih =>
      have hexamined : examinedHandles verdict (room + 1) (handle :: rest)
          = handle :: examinedHandles verdict
            (if (verdict handle).isAdmitted then room else room + 1) rest := rfl
      rw [hexamined, List.length_cons, List.length_cons, Nat.add_sub_add_right, selectFirstFit,
        selectFirstFit]
      cases hverdict : verdict handle with
      | stale => exact ih room plan hroom hfresh
      | rejected => exact ih room (considerCandidate plan) hroom hfresh
      | delayed => exact ih room (skipByCadence (considerCandidate plan)) hroom hfresh
      | admitted candidate =>
          have hlt : ¬ (considerCandidate plan).entities.length ≥ hardLimit := by
            show ¬ plan.entities.length ≥ hardLimit
            omega
          simp only [if_neg hlt, CandidateVerdict.isAdmitted, CandidateVerdict.candidate?,
            Option.isSome_some, if_true, true_and, Bool.false_eq_true, false_and, if_false]
          cases room with
          | zero =>
              -- the entity that fills the limit is the last one the loop looks at
              have hfull : ((considerCandidate plan).entities ++ [handle]).length = hardLimit := by
                rw [List.length_append]
                exact hroom
              have hnone : examinedHandles verdict 0 rest = [] := prefixWith_zero _ rest
              rw [if_pos hfull, hnone]
              rfl
          | succ room =>
              have hmore : ((considerCandidate plan).entities ++ [handle]).length
                  + (room + 1) = hardLimit := by
                rw [List.length_append, List.length_singleton]
                show plan.entities.length + 1 + (room + 1) = hardLimit
                omega
              rw [if_neg (by omega)]
              exact ih room _ hmore hfresh

/-- The prioritized loop counts all candidates and collects what was admitted. -/
lemma collectPrioritized_eq (candidates : List EntityHandle)
    (prioritized : List (PrioritizedReplicationCandidate F)) (plan : ReplicationPlan) :
    collectPrioritized verdict candidates prioritized plan
      = (prioritized ++ candidates.filterMap (fun handle => (verdict handle).candidate?),
        countAll verdict candidates plan) := by
  induction candidates generalizing prioritized plan with
  | nil => rw [List.filterMap_nil, List.append_nil]; rfl
  | cons handle rest ih =>
      have hcount := countAll_append verdict [handle] rest plan
      rw [List.singleton_append] at hcount
      rw [collectPrioritized, hcount, List.filterMap_cons]
      cases hverdict : verdict handle with
      | stale =>
          rw [countAll_one hverdict]
          exact ih prioritized plan
      | rejected =>
          rw [countAll_one hverdict]
          exact ih prioritized (considerCandidate plan)
      | delayed =>
          rw [countAll_one hverdict]
          exact ih prioritized (skipByCadence (considerCandidate plan))
      | admitted candidate =>
          rw [countAll_one hverdict]
          refine (ih (prioritized ++ [candidate]) (considerCandidate plan)).trans ?_
          rw [List.append_assoc]
          rfl

/-- The plan of the loop that looks at all candidates. -/
lemma planForCandidatesInnerInto_all (candidates : List EntityHandle) (hardLimit : ℕ)
    (budget : ReplicationBudget) (plan : ReplicationPlan) :
    planForCandidatesInnerInto verdict candidates hardLimit budget false plan
      = finishPlan (takeAll verdict hardLimit candidates (resetPlan plan candidates)) budget := by
  simp only [planForCandidatesInnerInto, Bool.false_eq_true, false_and, if_false,
    selectFirstFit_all]

/-- The plan of the loop that stops at the limit, which with a limit of zero looks at nothing. -/
lemma planForCandidatesInnerInto_stop (candidates : List EntityHandle) (hardLimit : ℕ)
    (budget : ReplicationBudget) (plan : ReplicationPlan) :
    let examined := examinedHandles verdict hardLimit candidates
    planForCandidatesInnerInto verdict candidates hardLimit budget true plan
      = finishPlan (leaveUnexamined (candidates.length - examined.length)
        (takeAll verdict hardLimit examined (resetPlan plan candidates))) budget := by
  cases hardLimit with
  | zero =>
      have hnone : examinedHandles verdict 0 candidates = [] := prefixWith_zero _ candidates
      simp only [hnone, takeAll_nil]
      simp [planForCandidatesInnerInto, finishPlan, leaveUnexamined, resetPlan,
        ReplicationStats.default]
  | succ room =>
      have hstop := selectFirstFit_stop verdict (room + 1) candidates room
        (resetPlan plan candidates) (Nat.zero_add _) rfl
      simp only [planForCandidatesInnerInto, Nat.add_one_ne_zero, and_false, if_false, hstop,
        selectFirstFit_all]

/-- Every handle that the loop looks at and admits is taken. -/
lemma admittedHandles_examinedHandles (hardLimit : ℕ) (candidates : List EntityHandle) :
    admittedHandles verdict (examinedHandles verdict hardLimit candidates)
      = (admittedHandles verdict candidates).take hardLimit :=
  filter_prefixWith _ hardLimit candidates

lemma entities_takeAll (hardLimit : ℕ) (candidates examined : List EntityHandle)
    (plan : ReplicationPlan) :
    (takeAll verdict hardLimit examined (resetPlan plan candidates)).entities
      = (admittedHandles verdict examined).take hardLimit := rfl

lemma stats_takeAll (hardLimit : ℕ) (candidates examined : List EntityHandle)
    (plan : ReplicationPlan) :
    let stats := (takeAll verdict hardLimit examined (resetPlan plan candidates)).stats
    stats.skippedByBudget = (admittedHandles verdict examined).length - hardLimit
      ∧ stats.considered = examined.countP (fun handle => (verdict handle).isLive)
      ∧ stats.unexaminedAfterBudget = 0 :=
  ⟨Nat.zero_add _, Nat.zero_add _, rfl⟩

end FirstFit

/-! ## Priorities -/

section Scalar

variable [Scalar F]

/-- Candidates are totally ordered when distances are. -/
lemma transCmp_comparePrioritizedCandidates
    (h : Std.TransCmp (Scalar.totalCmp : F → F → Ordering)) :
    Std.TransCmp (comparePrioritizedCandidates (F := F)) := by
  have hscore : Std.TransCmp fun a b : PrioritizedReplicationCandidate F =>
      compare b.score a.score :=
    transCmp_on (fun a b : UInt64 => compare b a) PrioritizedReplicationCandidate.score
  have hdistance : Std.TransCmp fun a b : PrioritizedReplicationCandidate F =>
      Scalar.totalCmp a.distanceSquared b.distanceSquared :=
    transCmp_on _ PrioritizedReplicationCandidate.distanceSquared
  have hhandle : Std.TransCmp fun a b : PrioritizedReplicationCandidate F =>
      compare a.handle b.handle := transCmp_on compare PrioritizedReplicationCandidate.handle
  exact inferInstanceAs (Std.TransCmp (compareLex
    (fun a b : PrioritizedReplicationCandidate F => compare b.score a.score) (compareLex
      (fun a b : PrioritizedReplicationCandidate F =>
        Scalar.totalCmp a.distanceSquared b.distanceSquared)
      fun a b : PrioritizedReplicationCandidate F => compare a.handle b.handle)))

/-- What `prioritizeCandidates` moves to the front are the best candidates up to the limit. -/
lemma prioritizeCandidates_spec (h : Std.TransCmp (Scalar.totalCmp : F → F → Ordering))
    {selectNthUnstableBy : SelectNthUnstableBy (PrioritizedReplicationCandidate F)}
    (hselect : SelectsNth selectNthUnstableBy)
    (eligible : List (PrioritizedReplicationCandidate F)) (limit : ℕ) :
    let result := prioritizeCandidates selectNthUnstableBy eligible limit
    result.1 = min eligible.length limit ∧ result.2.length = eligible.length
      ∧ IsBest comparePrioritizedCandidates limit eligible (result.2.take result.1) := by
  have htrans := transCmp_comparePrioritizedCandidates h
  have hmin : ∀ {best : List (PrioritizedReplicationCandidate F)},
      IsBest comparePrioritizedCandidates (min eligible.length limit) eligible best →
      IsBest comparePrioritizedCandidates limit eligible best := fun hbest =>
    ⟨by rw [hbest.length_eq]; omega, hbest.sorted, hbest.exists_rest⟩
  simp only [prioritizeCandidates]
  split_ifs with hzero hpartial
  · refine ⟨hzero.symm, rfl, hmin ?_⟩
    rw [hzero]
    exact ⟨by rw [List.take_zero, Nat.min_zero]; rfl, List.Pairwise.nil, eligible, List.Perm.refl _,
      by simp⟩
  · have hlt : min eligible.length limit < eligible.length := by omega
    have hperm := hselect.perm _ comparePrioritizedCandidates eligible htrans hlt
    have hlen : (sortBy comparePrioritizedCandidates ((selectNthUnstableBy
        (min eligible.length limit) comparePrioritizedCandidates eligible).take
          (min eligible.length limit))).length = min eligible.length limit := by
      rw [sortBy, List.length_insertionSort, List.length_take, hperm.length_eq]
      omega
    refine ⟨rfl, ?_, hmin ?_⟩
    · rw [List.length_append, hlen, List.length_drop, hperm.length_eq]
      omega
    · rw [List.take_left' hlen]
      exact isBest_sort_take hperm (hselect.split _ _ eligible htrans hlt)
  · exact ⟨rfl, List.length_insertionSort _ _, hmin (isBest_take_sort _ eligible)⟩

/-- The prioritized plan: the best admitted candidates, and the others counted beyond the
budget. -/
lemma planForCandidatesPrioritizedInnerInto_eq (h : TotalDistances F)
    {selectNthUnstableBy : SelectNthUnstableBy (PrioritizedReplicationCandidate F)}
    (hselect : SelectsNth selectNthUnstableBy)
    (verdict : EntityHandle → CandidateVerdict F) (candidates : List EntityHandle)
    (hardLimit : ℕ) (budget : ReplicationBudget)
    (prioritized : List (PrioritizedReplicationCandidate F)) (plan : ReplicationPlan) :
    let admitted := candidates.filterMap fun handle => (verdict handle).candidate?
    ∃ best, IsBest comparePrioritizedCandidates hardLimit admitted best
      ∧ (planForCandidatesPrioritizedInnerInto selectNthUnstableBy verdict candidates hardLimit
        budget prioritized plan).2
        = finishPlan
          { entities := best.map fun candidate => candidate.handle
            stats := { (countAll verdict candidates (resetPlan plan candidates)).stats with
              skippedByBudget := admitted.length - best.length } } budget := by
  intro admitted
  obtain ⟨hselected, hlen, hbest⟩ := prioritizeCandidates_spec h.totalCmp hselect admitted
    hardLimit
  refine ⟨_, hbest, ?_⟩
  have hbestlen := hbest.length_eq
  simp only [planForCandidatesPrioritizedInnerInto, collectPrioritized_eq, List.nil_append]
  rw [hbestlen, ← hselected, ← hlen]
  rfl

/-! ## Admissible candidates -/

/-- The candidate is live and has a policy, lies within the policy's radius, and is visible,
due and eligible. -/
def admissible (checks : CandidateChecks F) (viewer : ViewerQuery F) (handle : EntityHandle) :
    Bool :=
  match checks.station.get handle with
  | none => false
  | some entity =>
      match checks.policies.get entity.policyId with
      | none => false
      | some policy =>
          let distanceSquared := entity.position.distanceSquared viewer.position
          Scalar.le distanceSquared (Scalar.mul policy.interestRadius policy.interestRadius)
            && checks.filter.isVisibleWithDistance viewer entity distanceSquared
            && checks.cadenceAllows handle policy distanceSquared
            && checks.eligible viewer handle entity

/-- The score and the squared distance of a live candidate with a policy. -/
def ranked (checks : CandidateChecks F) (viewer : ViewerQuery F) (handle : EntityHandle) :
    Option (PrioritizedReplicationCandidate F) :=
  match checks.station.get handle with
  | none => none
  | some entity =>
      match checks.policies.get entity.policyId with
      | none => none
      | some policy =>
          let distanceSquared := entity.position.distanceSquared viewer.position
          some ⟨handle, ReplicationPriority.score policy distanceSquared, distanceSquared⟩

/-- The loops admit exactly the admissible candidates, with their rank. -/
lemma candidate_examineCandidate (h : TotalDistances F) (checks : CandidateChecks F)
    (viewer : ViewerQuery F) (handle : EntityHandle) :
    (examineCandidate checks viewer handle).candidate?
      = if admissible checks viewer handle then ranked checks viewer handle else none := by
  cases hget : checks.station.get handle with
  | none => simp only [examineCandidate, admissible, ranked, hget]; rfl
  | some entity =>
      cases hpolicy : checks.policies.get entity.policyId with
      | none => simp only [examineCandidate, admissible, ranked, hget, hpolicy]; rfl
      | some policy =>
          simp only [examineCandidate, admissible, ranked, hget, hpolicy, h.lt_eq_not_le]
          -- the four tests, in the order in which the loops make them
          cases Scalar.le (entity.position.distanceSquared viewer.position)
            (Scalar.mul policy.interestRadius policy.interestRadius) with
          | false => rfl
          | true =>
              cases checks.filter.isVisibleWithDistance viewer entity
                (entity.position.distanceSquared viewer.position) with
              | false => rfl
              | true =>
                  cases checks.cadenceAllows handle policy
                    (entity.position.distanceSquared viewer.position) with
                  | false => rfl
                  | true => cases checks.eligible viewer handle entity <;> rfl

lemma ranked_of_admissible {checks : CandidateChecks F} {viewer : ViewerQuery F}
    {handle : EntityHandle} (hadm : admissible checks viewer handle = true) :
    ∃ candidate, ranked checks viewer handle = some candidate ∧ candidate.handle = handle := by
  cases hget : checks.station.get handle with
  | none => simp [admissible, hget] at hadm
  | some entity =>
      cases hpolicy : checks.policies.get entity.policyId with
      | none => simp [admissible, hget, hpolicy] at hadm
      | some policy =>
          simp only [ranked, hget, hpolicy, Option.some.injEq]
          exact ⟨_, rfl, rfl⟩

lemma isAdmitted_examineCandidate (h : TotalDistances F) (checks : CandidateChecks F)
    (viewer : ViewerQuery F) (handle : EntityHandle) :
    (examineCandidate checks viewer handle).isAdmitted = admissible checks viewer handle := by
  rw [CandidateVerdict.isAdmitted, candidate_examineCandidate h]
  cases hadm : admissible checks viewer handle with
  | false => rfl
  | true =>
      obtain ⟨candidate, hranked, _⟩ := ranked_of_admissible hadm
      rw [if_pos rfl, hranked, Option.isSome_some]

lemma admittedHandles_examineCandidate (h : TotalDistances F) (checks : CandidateChecks F)
    (viewer : ViewerQuery F) (candidates : List EntityHandle) :
    admittedHandles (examineCandidate checks viewer) candidates
      = candidates.filter (admissible checks viewer) :=
  List.filter_congr fun handle _ => isAdmitted_examineCandidate h checks viewer handle

/-- Admissible candidates keep their handles when they are ranked. -/
lemma map_handle_ranked (checks : CandidateChecks F) (viewer : ViewerQuery F)
    (candidates : List EntityHandle) :
    ((candidates.filter (admissible checks viewer)).filterMap (ranked checks viewer)).map
      (fun candidate => candidate.handle) = candidates.filter (admissible checks viewer) := by
  induction candidates with
  | nil => rfl
  | cons handle rest ih =>
      rw [List.filter_cons]
      split_ifs with hadm
      · obtain ⟨candidate, hranked, hhandle⟩ := ranked_of_admissible hadm
        rw [List.filterMap_cons, hranked, List.map_cons, hhandle, ih]
      · exact ih

/-! ## The vectorised range planner -/

section Lanes

variable (station : Station F) (policies : PolicyTable F) (viewer : ViewerQuery F)

/-- What a candidate loads into its lane. -/
def laneOf (handle : EntityHandle) : Option (F × F) :=
  match station.get handle with
  | none => none
  | some entity =>
      match policies.get entity.policyId with
      | none => none
      | some policy =>
          some (entity.position.distanceSquared viewer.position,
            Scalar.mul policy.interestRadius policy.interestRadius)

/-- The verdict of the vectorised planner. -/
def laneVerdict (handle : EntityHandle) : CandidateVerdict F :=
  match station.get handle with
  | none => .stale
  | some entity =>
      match policies.get entity.policyId with
      | none => .rejected
      | some policy =>
          let distanceSquared := entity.position.distanceSquared viewer.position
          let policyRadiusSq := Scalar.mul policy.interestRadius policy.interestRadius
          if visibleLane viewer.radiusSquared (some (distanceSquared, policyRadiusSq)) then
            .admitted ⟨handle, ReplicationPriority.score policy distanceSquared, distanceSquared⟩
          else .rejected

/-- A lane holds what its candidate loads, and loading counts the candidate if it is live. -/
lemma loadLane_eq (handle : EntityHandle) (plan : ReplicationPlan) :
    loadLane station policies viewer handle plan
      = (laneOf station policies viewer handle,
        countAll (laneVerdict station policies viewer) [handle] plan) := by
  cases hget : station.get handle with
  | none =>
      have hverdict : laneVerdict station policies viewer handle = .stale := by
        simp only [laneVerdict, hget]
      rw [countAll_one hverdict]
      simp only [loadLane, laneOf, hget]
      rfl
  | some entity =>
      cases hpolicy : policies.get entity.policyId with
      | none =>
          have hverdict : laneVerdict station policies viewer handle = .rejected := by
            simp only [laneVerdict, hget, hpolicy]
          rw [countAll_one hverdict]
          simp only [loadLane, laneOf, hget, hpolicy]
          rfl
      | some policy =>
          have hcount : (laneVerdict station policies viewer handle).isLive = true
              ∧ (laneVerdict station policies viewer handle).isDelayed = false := by
            simp only [laneVerdict, hget, hpolicy]
            split_ifs <;> exact ⟨rfl, rfl⟩
          rw [countAll_one rfl, hcount.1, hcount.2]
          simp only [loadLane, laneOf, hget, hpolicy]
          rfl

lemma isAdmitted_laneVerdict (handle : EntityHandle) :
    (laneVerdict station policies viewer handle).isAdmitted
      = visibleLane viewer.radiusSquared (laneOf station policies viewer handle) := by
  cases hget : station.get handle with
  | none => simp only [laneVerdict, laneOf, hget]; rfl
  | some entity =>
      cases hpolicy : policies.get entity.policyId with
      | none => simp only [laneVerdict, laneOf, hget, hpolicy]; rfl
      | some policy =>
          simp only [laneVerdict, laneOf, hget, hpolicy]
          split_ifs with hvisible
          · exact hvisible.symm
          · exact (Bool.not_eq_true _ ▸ hvisible).symm

lemma loadLanes_eq (handles : List EntityHandle) (plan : ReplicationPlan) :
    loadLanes station policies viewer handles plan
      = (handles.map (laneOf station policies viewer),
        countAll (laneVerdict station policies viewer) handles plan) := by
  induction handles generalizing plan with
  | nil => rfl
  | cons handle handles ih =>
      have hcount := countAll_append (laneVerdict station policies viewer) [handle] handles plan
      rw [List.singleton_append] at hcount
      simp only [loadLanes, loadLane_eq, ih, hcount, List.map_cons]

/-- A chunk is planned as its candidates one by one. -/
lemma planChunk_eq (hardLimit : ℕ) (plan : ReplicationPlan) (handles : List EntityHandle) :
    planChunk station policies viewer hardLimit plan handles
      = takeAll (laneVerdict station policies viewer) hardLimit handles plan := by
  have hselect : ∀ (handles : List EntityHandle) (plan : ReplicationPlan),
      (handles.zip ((handles.map (laneOf station policies viewer)).map
        (visibleLane viewer.radiusSquared))).foldl (selectLane hardLimit) plan
      = acceptAll hardLimit (admittedHandles (laneVerdict station policies viewer) handles)
        plan := by
    intro handles
    induction handles with
    | nil => exact fun plan => (acceptAll_nil hardLimit plan).symm
    | cons handle handles ih =>
        intro plan
        rw [List.map_cons, List.map_cons, List.zip_cons_cons, List.foldl_cons, ih,
          ← List.singleton_append, admittedHandles_append, ← acceptAll_acceptAll,
          admittedHandles_one rfl, isAdmitted_laneVerdict]
        congr 1
        cases hvisible : visibleLane viewer.radiusSquared
          (laneOf station policies viewer handle) with
        | false => exact (acceptAll_nil hardLimit plan).symm
        | true => exact (acceptAll_singleton hardLimit handle plan).symm
  simp only [planChunk, loadLanes_eq, hselect]
  rfl

lemma flatten_chunks {α : Type} (size : ℕ) (l : List α) : (chunks size l).flatten = l := by
  induction l using chunks.induct size with
  | case1 => rw [chunks, List.flatten_nil]
  | case2 a l ih =>
      rw [chunks, List.flatten_cons, ih, List.cons_append, List.take_append_drop]

/-- **Chunks do not matter.**  The vectorised planner is the first-fit loop over its verdicts. -/
lemma planForRangeCandidatesIntoSimd_eq (candidates : List EntityHandle)
    (budget : ReplicationBudget) (plan : ReplicationPlan) :
    planForRangeCandidatesIntoSimd station candidates policies viewer budget plan
      = planForCandidatesInnerInto (laneVerdict station policies viewer) candidates
        (budget.hardLimit viewer.maxEntities) budget false plan := by
  have hfold : ∀ (pieces : List (List EntityHandle)) (plan : ReplicationPlan),
      pieces.foldl (planChunk station policies viewer (budget.hardLimit viewer.maxEntities)) plan
      = takeAll (laneVerdict station policies viewer) (budget.hardLimit viewer.maxEntities)
        pieces.flatten plan := by
    intro pieces
    induction pieces with
    | nil => exact fun plan => (takeAll_nil _ _ plan).symm
    | cons piece pieces ih =>
        intro plan
        rw [List.foldl_cons, ih, List.flatten_cons, takeAll_append, planChunk_eq]
  rw [planForCandidatesInnerInto_all]
  simp only [planForRangeCandidatesIntoSimd, hfold, flatten_chunks]

/-- With ordered distances the lanes compare as the checks do. -/
lemma laneVerdict_eq (h : TotalDistances F) :
    laneVerdict station policies viewer
      = examineCandidate (rangeChecks station policies) viewer := by
  funext handle
  cases hget : station.get handle with
  | none => simp only [laneVerdict, examineCandidate, rangeChecks, hget]
  | some entity =>
      cases hpolicy : policies.get entity.policyId with
      | none => simp only [laneVerdict, examineCandidate, rangeChecks, hget, hpolicy]
      | some policy =>
          simp only [laneVerdict, examineCandidate, rangeChecks, hget, hpolicy, h.lt_eq_not_le,
            visibleLane, VisibilityFilter.rangeOnlyVisibility]
          by_cases hpolicyRange : Scalar.le (entity.position.distanceSquared viewer.position)
              (Scalar.mul policy.interestRadius policy.interestRadius) = true
          · by_cases hviewerRange : Scalar.le (entity.position.distanceSquared viewer.position)
                viewer.radiusSquared = true
            · simp [hpolicyRange, hviewerRange]
            · simp [hpolicyRange, hviewerRange]
          · simp [hpolicyRange]

end Lanes

/-! ## The contract of a plan -/

/-- What holds of every plan over the candidates: it selects distinct admissible candidates, no
more than the three limits allow, and charges them no more bytes than the budget has.  The charge
is a product of unbounded numbers, so the bound is also what keeps it from overflowing. -/
structure PlanSound (checks : CandidateChecks F) (viewer : ViewerQuery F)
    (candidates : List EntityHandle) (budget : ReplicationBudget) (plan : ReplicationPlan) :
    Prop where
  nodup : plan.entities.Nodup
  selected_admissible : ∀ handle ∈ plan.entities,
    handle ∈ candidates ∧ admissible checks viewer handle = true
  length_le : plan.entities.length ≤ min (min viewer.maxEntities budget.maxEntities)
    (budget.maxBytes / max 1 budget.estimatedEntityBytes)
  selected_eq : plan.stats.selected = plan.entities.length
  estimatedBytes_eq : plan.stats.estimatedBytes
    = plan.stats.selected * budget.estimatedEntityBytes
  estimatedBytes_le : plan.stats.selected * budget.estimatedEntityBytes ≤ budget.maxBytes

/-- A plan of the loops that look at all candidates: every admissible candidate is selected or
counted as skipped by the budget. -/
structure CoversAll (checks : CandidateChecks F) (viewer : ViewerQuery F)
    (candidates : List EntityHandle) (budget : ReplicationBudget) (plan : ReplicationPlan) : Prop
    extends PlanSound checks viewer candidates budget plan where
  selected_add_skipped : plan.stats.selected + plan.stats.skippedByBudget
    = candidates.countP (admissible checks viewer)
  considered_eq : plan.stats.considered
    = candidates.countP fun handle => (checks.station.get handle).isSome
  unexamined_eq : plan.stats.unexaminedAfterBudget = 0

/-- A plan of the loop that stops: it looked at a first part of the candidates, took every
admissible one among them, left the rest unexamined, and stopped early only at the limit. -/
structure StopsAtLimit (checks : CandidateChecks F) (viewer : ViewerQuery F)
    (candidates : List EntityHandle) (budget : ReplicationBudget) (plan : ReplicationPlan)
    (examined unexamined : List EntityHandle) : Prop
    extends PlanSound checks viewer candidates budget plan where
  candidates_eq : candidates = examined ++ unexamined
  considered_eq : plan.stats.considered
    = examined.countP fun handle => (checks.station.get handle).isSome
  entities_eq : plan.entities = examined.filter (admissible checks viewer)
  skipped_eq : plan.stats.skippedByBudget = 0
  unexamined_eq : plan.stats.unexaminedAfterBudget = unexamined.length
  stopped : unexamined ≠ [] → plan.entities.length = budget.hardLimit viewer.maxEntities

variable {checks : CandidateChecks F} {viewer : ViewerQuery F} {candidates : List EntityHandle}
  {budget : ReplicationBudget}

omit [Scalar F] in
/-- The charge of no more entities than the byte limit allows stays within the budget. -/
lemma charge_le {n : ℕ} (hn : n ≤ budget.hardLimit viewer.maxEntities) :
    n * budget.estimatedEntityBytes ≤ budget.maxBytes := by
  have hbytes : n ≤ budget.maxBytes / max budget.estimatedEntityBytes 1 :=
    hn.trans (min_le_right _ _)
  calc n * budget.estimatedEntityBytes
      ≤ budget.maxBytes / max budget.estimatedEntityBytes 1
        * max budget.estimatedEntityBytes 1 := Nat.mul_le_mul hbytes (le_max_left _ _)
    _ ≤ budget.maxBytes := Nat.div_mul_le_self _ _

/-- A finished plan is sound when its entities are distinct admissible candidates within the
limit. -/
lemma planSound_finishPlan {plan : ReplicationPlan} (hnodup : plan.entities.Nodup)
    (hsub : plan.entities ⊆ candidates.filter (admissible checks viewer))
    (hlen : plan.entities.length ≤ budget.hardLimit viewer.maxEntities) :
    PlanSound checks viewer candidates budget (finishPlan plan budget) where
  nodup := hnodup
  selected_admissible handle hmem := List.mem_filter.mp (hsub hmem)
  length_le := by
    rw [max_comm]
    exact hlen
  selected_eq := rfl
  estimatedBytes_eq := rfl
  estimatedBytes_le := charge_le hlen

lemma isLive_examineCandidate (checks : CandidateChecks F) (viewer : ViewerQuery F)
    (handle : EntityHandle) :
    (examineCandidate checks viewer handle).isLive = (checks.station.get handle).isSome := by
  cases hget : checks.station.get handle with
  | none => simp only [examineCandidate, hget]; rfl
  | some entity =>
      cases hpolicy : checks.policies.get entity.policyId with
      | none => simp only [examineCandidate, hget, hpolicy]; rfl
      | some policy =>
          simp only [examineCandidate, hget, hpolicy]
          split_ifs <;> rfl

lemma countP_isLive (checks : CandidateChecks F) (viewer : ViewerQuery F)
    (candidates : List EntityHandle) :
    (candidates.countP fun handle => (examineCandidate checks viewer handle).isLive)
      = candidates.countP fun handle => (checks.station.get handle).isSome :=
  List.countP_congr fun handle _ => by rw [isLive_examineCandidate]

/-- First fit over all candidates. -/
lemma coversAll_firstFit (h : TotalDistances F) (hnodup : candidates.Nodup)
    (plan : ReplicationPlan) :
    let plan := planForCandidatesInnerInto (examineCandidate checks viewer) candidates
      (budget.hardLimit viewer.maxEntities) budget false plan
    CoversAll checks viewer candidates budget plan
      ∧ plan.entities = (candidates.filter (admissible checks viewer)).take
        (budget.hardLimit viewer.maxEntities) := by
  have hadmitted := admittedHandles_examineCandidate h checks viewer candidates
  obtain ⟨hskipped, hconsidered, hunexamined⟩ := stats_takeAll (examineCandidate checks viewer)
    (budget.hardLimit viewer.maxEntities) candidates candidates plan
  have hentities := entities_takeAll (examineCandidate checks viewer)
    (budget.hardLimit viewer.maxEntities) candidates candidates plan
  rw [hadmitted] at hentities hskipped
  rw [planForCandidatesInnerInto_all]
  refine ⟨⟨planSound_finishPlan ?_ ?_ ?_, ?_, ?_, hunexamined⟩, hentities⟩
  · rw [hentities]
    exact (hnodup.filter _).sublist (List.take_sublist _ _)
  · rw [hentities]
    exact List.take_subset _ _
  · rw [hentities, List.length_take]
    exact min_le_left _ _
  · rw [List.countP_eq_length_filter]
    show _ + (takeAll _ _ _ _).stats.skippedByBudget = _
    rw [hskipped]
    show (takeAll _ _ _ _).entities.length + _ = _
    rw [hentities, List.length_take]
    omega
  · rw [← countP_isLive checks viewer candidates]
    exact hconsidered

/-- First fit that stops at the limit. -/
lemma stopsAtLimit_throughput (h : TotalDistances F) (hnodup : candidates.Nodup)
    (plan : ReplicationPlan) :
    let plan := planForCandidatesInnerInto (examineCandidate checks viewer) candidates
      (budget.hardLimit viewer.maxEntities) budget true plan
    (∃ examined unexamined,
        StopsAtLimit checks viewer candidates budget plan examined unexamined)
      ∧ plan.entities = (candidates.filter (admissible checks viewer)).take
        (budget.hardLimit viewer.maxEntities) := by
  obtain ⟨unexamined, hsplit⟩ := prefixWith_prefix
    (fun handle => (examineCandidate checks viewer handle).isAdmitted)
    (budget.hardLimit viewer.maxEntities) candidates
  have hfull := length_filter_prefixWith (l := candidates)
    (k := budget.hardLimit viewer.maxEntities)
    (fun handle => (examineCandidate checks viewer handle).isAdmitted)
  have hpref := admittedHandles_examinedHandles (examineCandidate checks viewer)
    (budget.hardLimit viewer.maxEntities) candidates
  rw [planForCandidatesInnerInto_stop]
  change examinedHandles (examineCandidate checks viewer) _ candidates ++ unexamined
    = candidates at hsplit
  change examinedHandles (examineCandidate checks viewer) _ candidates ≠ candidates →
    (admittedHandles (examineCandidate checks viewer) (examinedHandles _ _ candidates)).length = _
    at hfull
  generalize examinedHandles (examineCandidate checks viewer)
    (budget.hardLimit viewer.maxEntities) candidates = examined at hsplit hfull hpref ⊢
  have hexamined := admittedHandles_examineCandidate h checks viewer examined
  have hcandidates := admittedHandles_examineCandidate h checks viewer candidates
  obtain ⟨hskipped, hconsidered, _⟩ := stats_takeAll (examineCandidate checks viewer)
    (budget.hardLimit viewer.maxEntities) candidates examined plan
  have hentities := entities_takeAll (examineCandidate checks viewer)
    (budget.hardLimit viewer.maxEntities) candidates examined plan
  have hlen : (admittedHandles (examineCandidate checks viewer) examined).length
      ≤ budget.hardLimit viewer.maxEntities := by
    rw [hpref, List.length_take]
    exact min_le_left _ _
  rw [List.take_of_length_le hlen] at hentities
  have hleft : candidates.length - examined.length = unexamined.length := by
    rw [← hsplit, List.length_append]
    omega
  refine ⟨⟨examined, unexamined, planSound_finishPlan ?_ ?_ ?_, hsplit.symm, ?_, ?_, ?_, hleft, ?_⟩,
    ?_⟩
  · show (takeAll _ _ _ _).entities.Nodup
    rw [hentities, hpref, hcandidates]
    exact (hnodup.filter _).sublist (List.take_sublist _ _)
  · show (takeAll _ _ _ _).entities ⊆ _
    rw [hentities, hpref, hcandidates]
    exact List.take_subset _ _
  · show (takeAll _ _ _ _).entities.length ≤ _
    rw [hentities]
    exact hlen
  · rw [← countP_isLive checks viewer examined]
    exact hconsidered
  · exact hentities.trans hexamined
  · exact hskipped.trans (Nat.sub_eq_zero_of_le hlen)
  · intro hne
    show (takeAll _ _ _ _).entities.length = _
    rw [hentities]
    refine hfull fun heq => hne ?_
    rw [heq] at hsplit
    exact List.append_right_eq_self.mp hsplit
  · rw [← hcandidates, ← hpref]
    exact hentities

/-- Prioritized selection. -/
lemma coversAll_prioritized (h : TotalDistances F)
    {selectNthUnstableBy : SelectNthUnstableBy (PrioritizedReplicationCandidate F)}
    (hselect : SelectsNth selectNthUnstableBy) (hnodup : candidates.Nodup)
    (prioritized : List (PrioritizedReplicationCandidate F)) (plan : ReplicationPlan) :
    let plan := (planForCandidatesPrioritizedInnerInto selectNthUnstableBy
      (examineCandidate checks viewer) candidates (budget.hardLimit viewer.maxEntities) budget
      prioritized plan).2
    CoversAll checks viewer candidates budget plan
      ∧ ∃ best, IsBest comparePrioritizedCandidates (budget.hardLimit viewer.maxEntities)
          ((candidates.filter (admissible checks viewer)).filterMap (ranked checks viewer)) best
        ∧ plan.entities = best.map fun candidate => candidate.handle := by
  have hranked : candidates.filterMap (fun handle =>
      (examineCandidate checks viewer handle).candidate?)
      = (candidates.filter (admissible checks viewer)).filterMap (ranked checks viewer) := by
    rw [List.filterMap_filter]
    exact congrArg (List.filterMap · candidates)
      (funext fun handle => candidate_examineCandidate h checks viewer handle)
  have hhandles := map_handle_ranked checks viewer candidates
  obtain ⟨best, hbest, hplan⟩ := planForCandidatesPrioritizedInnerInto_eq h hselect
    (examineCandidate checks viewer) candidates (budget.hardLimit viewer.maxEntities) budget
    prioritized plan
  rw [hranked] at hbest hplan
  have hsub : best.map (fun candidate => candidate.handle)
      ⊆ candidates.filter (admissible checks viewer) := by
    rw [← hhandles]
    exact List.map_subset _ hbest.subset
  have hlen := hbest.length_eq
  have hnodup' : (best.map fun candidate => candidate.handle).Nodup :=
    hbest.nodup_map (by rw [hhandles]; exact hnodup.filter _)
  have hcount := congrArg List.length hhandles
  rw [List.length_map, ← List.countP_eq_length_filter] at hcount
  rw [hplan]
  refine ⟨⟨planSound_finishPlan hnodup' hsub ?_, ?_, ?_, rfl⟩, best, hbest, rfl⟩
  · rw [List.length_map, hlen]
    exact min_le_right _ _
  · show (best.map _).length + (_ - best.length) = _
    rw [List.length_map, hcount]
    omega
  · rw [← countP_isLive checks viewer candidates]
    exact Nat.zero_add _

/-- The range planner, in either build, is first fit over its checks. -/
lemma coversAll_range (h : TotalDistances F) (station : Station F) (policies : PolicyTable F)
    (hnodup : candidates.Nodup) (plan : ReplicationPlan) :
    let range := planForRangeCandidatesInto station candidates policies viewer budget plan
    planForRangeCandidatesIntoSimd station candidates policies viewer budget plan = range
      ∧ CoversAll (rangeChecks station policies) viewer candidates budget range
      ∧ range.entities = (candidates.filter (admissible (rangeChecks station policies)
        viewer)).take (budget.hardLimit viewer.maxEntities) := by
  refine ⟨?_, coversAll_firstFit h hnodup plan⟩
  rw [planForRangeCandidatesIntoSimd_eq, laneVerdict_eq station policies viewer h]
  rfl

/-- **Every plan is sound.**  Over distinct candidates with ordered distances, each planning loop
selects distinct admissible candidates within the three limits and the byte budget.  The
throughput loop selects the first admissible candidates and accounts for the candidates it did
not look at; first fit over all candidates selects the same, and with it both builds of the range
planner; the prioritized loop selects the best by score, distance and handle; and the loops that
look at all candidates count every admissible one as selected or skipped. -/
theorem plan_sound (h : TotalDistances F)
    {selectNthUnstableBy : SelectNthUnstableBy (PrioritizedReplicationCandidate F)}
    (hselect : SelectsNth selectNthUnstableBy) (checks : CandidateChecks F)
    (viewer : ViewerQuery F) {candidates : List EntityHandle} (hnodup : candidates.Nodup)
    (budget : ReplicationBudget) (buffer : List (PrioritizedReplicationCandidate F))
    (plan : ReplicationPlan) :
    let verdict := examineCandidate checks viewer
    let limit := budget.hardLimit viewer.maxEntities
    let eligible := candidates.filter (admissible checks viewer)
    let throughput := planForCandidatesInnerInto verdict candidates limit budget true plan
    let firstFit := planForCandidatesInnerInto verdict candidates limit budget false plan
    let prioritized := (planForCandidatesPrioritizedInnerInto selectNthUnstableBy verdict candidates
      limit budget buffer plan).2
    let range := planForRangeCandidatesInto checks.station candidates checks.policies viewer
      budget plan
    let rangeSimd := planForRangeCandidatesIntoSimd checks.station candidates checks.policies
      viewer budget plan
    ((∃ examined unexamined,
        StopsAtLimit checks viewer candidates budget throughput examined unexamined)
      ∧ throughput.entities = eligible.take limit)
    ∧ (CoversAll checks viewer candidates budget firstFit
      ∧ firstFit.entities = eligible.take limit)
    ∧ (CoversAll checks viewer candidates budget prioritized
      ∧ ∃ best, IsBest comparePrioritizedCandidates limit
          (eligible.filterMap (ranked checks viewer)) best
        ∧ prioritized.entities = best.map fun candidate => candidate.handle)
    ∧ rangeSimd = range
    ∧ CoversAll (rangeChecks checks.station checks.policies) viewer candidates budget range
    ∧ range.entities = (candidates.filter (admissible (rangeChecks checks.station
        checks.policies) viewer)).take limit :=
  ⟨stopsAtLimit_throughput h hnodup plan, coversAll_firstFit h hnodup plan,
    coversAll_prioritized h hselect hnodup buffer plan,
    coversAll_range h checks.station checks.policies hnodup plan⟩

/-- The configured kernel, in either mode, makes sound plans. -/
theorem planOver_sound (h : TotalDistances F)
    {selectNthUnstableBy : SelectNthUnstableBy (PrioritizedReplicationCandidate F)}
    (hselect : SelectsNth selectNthUnstableBy) (inputs : PlannerInputs F)
    (viewer : ViewerQuery F) {candidates : List EntityHandle} (hnodup : candidates.Nodup) :
    PlanSound (configuredChecks inputs viewer) viewer candidates inputs.budget
      (planOver selectNthUnstableBy inputs candidates viewer) := by
  rw [planOver, planForCandidatesConfiguredInto, examine_eq_examineCandidate]
  cases inputs.mode with
  | throughput =>
      obtain ⟨⟨_, _, hplan⟩, _⟩ := stopsAtLimit_throughput h hnodup .default
      exact hplan.toPlanSound
  | prioritized => exact (coversAll_prioritized h hselect hnodup [] .default).1.toPlanSound

end Scalar

/-! ## Two entities on a line -/

lemma totalDistances_rational : TotalDistances ℚ where
  totalCmp := inferInstanceAs (Std.TransCmp fun a b : ℚ => compare a b)
  le_eq a b := by
    rw [Bool.eq_iff_iff, Ordering.isLE_iff_ne_gt]
    exact decide_eq_true_iff.trans compare_le_iff_le.symm
  lt_eq a b := by
    rw [Bool.eq_iff_iff, Ordering.isLT_iff_eq_lt]
    exact decide_eq_true_iff.trans compare_lt_iff_lt.symm

/-- A station with an entity at distance one and another at distance three. -/
def lineStation : Station ℚ :=
  (((Station.new (configWithStation 1)).spawnOwned ⟨7⟩ ⟨1, 0, 0⟩ .point ⟨0⟩).2.spawnOwned
    ⟨8⟩ ⟨3, 0, 0⟩ .point ⟨0⟩).2

/-- Checks with one policy, of radius two. -/
def lineChecks : CandidateChecks ℚ :=
  rangeChecks lineStation (PolicyTable.default.set (.new ⟨0⟩ 1 20 2))

/-- A viewer at the origin selects the entity within the policy radius, and neither the other
entity nor a stale handle. -/
theorem plan_sound_on_a_line :
    (planForCandidatesInnerInto (examineCandidate lineChecks ⟨⟨7⟩, ⟨0, 0, 0⟩, 10, 4⟩)
      [⟨0, 0⟩, ⟨1, 0⟩, ⟨5, 0⟩] (ReplicationBudget.default.hardLimit 4) .default true
      .default).entities = [⟨0, 0⟩] :=
  (plan_sound totalDistances_rational selectsNth_sort lineChecks ⟨⟨7⟩, ⟨0, 0, 0⟩, 10, 4⟩
    (show [⟨0, 0⟩, ⟨1, 0⟩, ⟨5, 0⟩].Nodup by decide) .default [] .default).1.2.trans
    (by decide +kernel)

end ReplicationPlanner

end SectorSync
