import Mathlib.Algebra.GroupWithZero.Nat
import SectorSync.Runtime.SplitScheduler

/-!
# The target cap over a pass

The scheduler checks a target's cap against the load that was sampled and the pressure of one
proposal.  Sources choose one at a time and several may choose the same target, so a pass keeps the
cap exactly when `FitsTogether` holds: what the sources of the pass that prefer a station would
move there fits with its load.  `planInto_actions` says which actions a pass has without its loop,
`withinCap_iff` is the result and `twoSources_over_cap` a pass that exceeds the cap.
-/

namespace SectorSync.SplitScheduler

variable (selectNthUnstableBy : ReplicationPlanner.SelectNthUnstableBy CellLoadSample)
  (config : SplitSchedulerConfig) (samples : List StationLoadSample)
  (state : Option SplitSchedulerState) (currentTick : Tick)

/-! ## The choice of a target -/

/-- The decisions that a pass takes first. -/
def decisionsOf : List HotspotDecision :=
  samples.map fun sample => HotspotPlanner.evaluate sample config.thresholds

/-- The proposal for a source. -/
def proposalOf (source : StationLoadSample) : SplitProposal :=
  HotspotPlanner.proposeCellSplit selectNthUnstableBy source config.maxCellsPerAction

def severityOf (sample : StationLoadSample) : HotspotSeverity :=
  (HotspotPlanner.evaluate sample config.thresholds).severity

/-- The rank of a station among the targets: the least is chosen. -/
def keyOf (target : StationLoadSample) : TargetKey := targetKeyOf (severityOf config target) target

/-- A station that may receive what the source would move. -/
structure Eligible (source target : StationLoadSample) : Prop where
  distinct : target.stationId ≠ source.stationId
  severity : ¬ (severityOf config target = .hot
    ∨ (severityOf config target = .warm ∧ config.allowWarmTargets = false))
  improvement : ¬ (stationLoadScore source).saturatingSub (stationLoadScore target)
    < config.minScoreImprovement
  capacity : ¬ (stationLoadScore target).saturatingAdd
      (proposalOf selectNthUnstableBy config source).movedPressureScore
    > config.maxTargetScoreAfterMove

instance (source target : StationLoadSample) :
    Decidable (Eligible selectNthUnstableBy config source target) :=
  decidable_of_iff (_ ∧ _ ∧ _ ∧ _)
    ⟨fun ⟨h₁, h₂, h₃, h₄⟩ => ⟨h₁, h₂, h₃, h₄⟩, fun ⟨h₁, h₂, h₃, h₄⟩ => ⟨h₁, h₂, h₃, h₄⟩⟩

/-- The eligible station of least rank. -/
structure Prefers (source target : StationLoadSample) : Prop where
  mem : target ∈ samples
  eligible : Eligible selectNthUnstableBy config source target
  least : ∀ other ∈ samples, Eligible selectNthUnstableBy config source other →
    keyOf config target ≤ keyOf config other

instance (source target : StationLoadSample) :
    Decidable (Prefers selectNthUnstableBy config samples source target) :=
  decidable_of_iff (_ ∧ _ ∧ _)
    ⟨fun ⟨h₁, h₂, h₃⟩ => ⟨h₁, h₂, h₃⟩, fun ⟨h₁, h₂, h₃⟩ => ⟨h₁, h₂, h₃⟩⟩

/-- A source that gets an action, as long as the pass may have more. -/
structure Splitting (source : StationLoadSample) : Prop where
  hot : severityOf config source = .hot
  warmedUp : state.any (fun state =>
    state.isInCooldown source.stationId currentTick config.splitCooldownTicks) = false
  cells : (proposalOf selectNthUnstableBy config source).cellsToMove ≠ []
  target : ∃ target ∈ samples, Eligible selectNthUnstableBy config source target

instance (source : StationLoadSample) :
    Decidable (Splitting selectNthUnstableBy config samples state currentTick source) :=
  decidable_of_iff (_ ∧ _ ∧ _ ∧ _)
    ⟨fun ⟨h₁, h₂, h₃, h₄⟩ => ⟨h₁, h₂, h₃, h₄⟩, fun ⟨h₁, h₂, h₃, h₄⟩ => ⟨h₁, h₂, h₃, h₄⟩⟩

/-- The sources of a pass. -/
def sources : List StationLoadSample :=
  (samples.filter fun source =>
    Splitting selectNthUnstableBy config samples state currentTick source).take
      config.maxActionsPerPass

/-- The action of a source: it gives its cells to the station that it prefers. -/
def ActionFor (source : StationLoadSample) (action : SplitAction) : Prop :=
  ∃ target, Prefers selectNthUnstableBy config samples source target
    ∧ action = actionOf source target (proposalOf selectNthUnstableBy config source)

/-- What the loop over the targets has found in the stations it has passed. -/
def Found (source : StationLoadSample) (passed : List StationLoadSample)
    (selection : SplitTargetSelection) : Prop :=
  (selection.target = none ∧ selection.targetKey = none
      ∧ ∀ target ∈ passed, ¬ Eligible selectNthUnstableBy config source target)
    ∨ ∃ target, selection.target = some target
      ∧ selection.targetKey = some (keyOf config target)
      ∧ Prefers selectNthUnstableBy config passed source target

variable {selectNthUnstableBy config samples state currentTick}

lemma considerTarget_of_not_eligible {source target : StationLoadSample}
    (selection : SplitTargetSelection)
    (h : ¬ Eligible selectNthUnstableBy config source target) :
    let next := considerTarget config source (proposalOf selectNthUnstableBy config source)
      selection (target, HotspotPlanner.evaluate target config.thresholds)
    next.target = selection.target ∧ next.targetKey = selection.targetKey := by
  simp only [considerTarget]
  split_ifs with hself hseverity himprovement hcapacity hkey
  iterate 4 simp
  · exact absurd ⟨hself, hseverity, himprovement, hcapacity⟩ h
  · simp

lemma considerTarget_of_eligible {source target : StationLoadSample}
    (selection : SplitTargetSelection)
    (h : Eligible selectNthUnstableBy config source target) :
    let next := considerTarget config source (proposalOf selectNthUnstableBy config source)
      selection (target, HotspotPlanner.evaluate target config.thresholds)
    if (selection.targetKey.all fun currentKey => keyOf config target < currentKey) then
      next.target = some target ∧ next.targetKey = some (keyOf config target)
    else next.target = selection.target ∧ next.targetKey = selection.targetKey := by
  have hkeyOf : targetKeyOf (severityOf config target) target = keyOf config target := rfl
  have hseverityOf : (HotspotPlanner.evaluate target config.thresholds).severity
    = severityOf config target := rfl
  simp only [considerTarget, hseverityOf, hkeyOf]
  rw [if_neg h.distinct, if_neg h.severity, if_neg h.improvement, if_neg h.capacity]
  split_ifs with hkey
  · simp
  · simp

/-- A station that is not eligible does not change what the loop has found. -/
lemma Found.pass {source target : StationLoadSample} {passed : List StationLoadSample}
    {selection next : SplitTargetSelection}
    (h : Found selectNthUnstableBy config source passed selection)
    (htarget : next.target = selection.target) (hkey : next.targetKey = selection.targetKey)
    (hleast : Eligible selectNthUnstableBy config source target →
      ∃ key, selection.targetKey = some key ∧ key ≤ keyOf config target) :
    Found selectNthUnstableBy config source (passed ++ [target]) next := by
  rcases h with ⟨hnone, hnoKey, hall⟩ | ⟨best, hbest, hbestKey, hprefers⟩
  · refine .inl ⟨by rw [htarget, hnone], by rw [hkey, hnoKey], ?_⟩
    intro other hother
    rcases List.mem_append.mp hother with hother | hother
    · exact hall other hother
    · rw [List.mem_singleton.mp hother]
      intro heligible
      obtain ⟨key, hsome, -⟩ := hleast heligible
      simp [hnoKey] at hsome
  · refine .inr ⟨best, by rw [htarget, hbest], by rw [hkey, hbestKey], ?_⟩
    refine ⟨List.mem_append_left _ hprefers.mem, hprefers.eligible, ?_⟩
    intro other hother heligible
    rcases List.mem_append.mp hother with hother | hother
    · exact hprefers.least other hother heligible
    · obtain rfl := List.mem_singleton.mp hother
      obtain ⟨key, hsome, hle⟩ := hleast heligible
      rw [hbestKey] at hsome
      exact Option.some.inj hsome ▸ hle

lemma Found.considerTarget {source : StationLoadSample} {passed : List StationLoadSample}
    {selection : SplitTargetSelection} (target : StationLoadSample)
    (h : Found selectNthUnstableBy config source passed selection) :
    Found selectNthUnstableBy config source (passed ++ [target])
      (considerTarget config source (proposalOf selectNthUnstableBy config source) selection
        (target, HotspotPlanner.evaluate target config.thresholds)) := by
  by_cases heligible : Eligible selectNthUnstableBy config source target
  · have hchoice := considerTarget_of_eligible selection heligible
    split_ifs at hchoice with hkey
    · refine .inr ⟨target, hchoice.1, hchoice.2, by simp, heligible, ?_⟩
      intro other hother hother'
      rcases List.mem_append.mp hother with hother | hother
      · rcases h with ⟨-, -, hall⟩ | ⟨best, -, hbestKey, hprefers⟩
        · exact absurd hother' (hall other hother)
        · have hlt : keyOf config target < keyOf config best := by simpa [hbestKey] using hkey
          exact (hlt.trans_le (hprefers.least other hother hother')).le
      · rw [List.mem_singleton.mp hother]
    · refine h.pass hchoice.1 hchoice.2 fun _ => ?_
      rcases h with ⟨-, hnoKey, -⟩ | ⟨best, -, hbestKey, -⟩
      · simp [hnoKey] at hkey
      · exact ⟨_, hbestKey, by simpa [hbestKey] using hkey⟩
  · have hchoice := considerTarget_of_not_eligible selection heligible
    exact h.pass hchoice.1 hchoice.2 fun h => absurd h heligible

variable (selectNthUnstableBy config samples) in
/-- The choice of a target: the station that the source prefers, if there is one. -/
lemma selectSplitTarget_found (source : StationLoadSample) :
    Found selectNthUnstableBy config source samples
      (selectSplitTarget config source (proposalOf selectNthUnstableBy config source) samples
        (decisionsOf config samples)) := by
  have hfold : ∀ (rest passed : List StationLoadSample) (selection : SplitTargetSelection),
      Found selectNthUnstableBy config source passed selection →
      Found selectNthUnstableBy config source (passed ++ rest)
        ((rest.zip (decisionsOf config rest)).foldl
          (SplitScheduler.considerTarget config source
            (proposalOf selectNthUnstableBy config source)) selection) := by
    intro rest
    induction rest with
    | nil => intro passed selection h; simpa using h
    | cons target rest ih =>
        intro passed selection h
        have hnext := ih (passed ++ [target]) _ (h.considerTarget target)
        rwa [List.append_assoc, List.singleton_append] at hnext
  exact hfold samples [] _ (.inl ⟨rfl, rfl, by simp⟩)

/-! ## The actions of a pass -/

lemma planSource_of_splitting {schedule : SplitSchedule} {source : StationLoadSample}
    (hdecisions : schedule.decisions = decisionsOf config samples)
    (h : Splitting selectNthUnstableBy config samples state currentTick source) :
    let next := planSource selectNthUnstableBy config samples state currentTick schedule source
      (HotspotPlanner.evaluate source config.thresholds)
    next.decisions = schedule.decisions
      ∧ ∃ action, ActionFor selectNthUnstableBy config samples source action
          ∧ next.actions = schedule.actions ++ [action] := by
  have hseverityOf : (HotspotPlanner.evaluate source config.thresholds).severity
    = severityOf config source := rfl
  have hproposalOf : HotspotPlanner.proposeCellSplit selectNthUnstableBy source
      config.maxCellsPerAction = proposalOf selectNthUnstableBy config source := rfl
  simp only [planSource, hseverityOf, hproposalOf, hdecisions]
  rw [if_neg (not_not.mpr h.hot), if_neg (by simp [h.warmedUp]), if_neg h.cells]
  rcases selectSplitTarget_found selectNthUnstableBy config samples source with
    ⟨-, -, hall⟩ | ⟨target, htarget, -, hprefers⟩
  · obtain ⟨target, hmem, heligible⟩ := h.target
    exact absurd heligible (hall target hmem)
  · simp only [htarget]
    exact ⟨trivial, _, ⟨target, hprefers, rfl⟩, rfl⟩

lemma planSource_of_not_splitting {schedule : SplitSchedule} {source : StationLoadSample}
    (hdecisions : schedule.decisions = decisionsOf config samples)
    (h : ¬ Splitting selectNthUnstableBy config samples state currentTick source) :
    let next := planSource selectNthUnstableBy config samples state currentTick schedule source
      (HotspotPlanner.evaluate source config.thresholds)
    next.decisions = schedule.decisions ∧ next.actions = schedule.actions := by
  have hproposalOf : HotspotPlanner.proposeCellSplit selectNthUnstableBy source
      config.maxCellsPerAction = proposalOf selectNthUnstableBy config source := rfl
  simp only [planSource, hproposalOf, hdecisions]
  by_cases hhot : (HotspotPlanner.evaluate source config.thresholds).severity = .hot
  swap
  · simp [hhot, hdecisions]
  by_cases hcooldown : state.any fun state =>
      state.isInCooldown source.stationId currentTick config.splitCooldownTicks
  · simp [hhot, hcooldown]
  by_cases hcells : (proposalOf selectNthUnstableBy config source).cellsToMove = []
  · simp [hhot, hcooldown, hcells]
  rw [if_neg (not_not.mpr hhot), if_neg hcooldown, if_neg hcells]
  rcases selectSplitTarget_found selectNthUnstableBy config samples source with
    ⟨hnone, -, -⟩ | ⟨target, -, -, hprefers⟩
  · simp only [hnone]
    split
    · simp
    · simp
  · exact absurd ⟨hhot, by simpa using hcooldown, hcells, target, hprefers.mem,
      hprefers.eligible⟩ h

variable (selectNthUnstableBy config samples state currentTick)

/-- The loop adds the actions of the next sources of the pass. -/
lemma planSources_actions (rest : List StationLoadSample) (schedule : SplitSchedule)
    (hdecisions : schedule.decisions = decisionsOf config samples) :
    ∃ added, (planSources selectNthUnstableBy config samples state currentTick schedule
          (rest.zip (decisionsOf config rest))).actions = schedule.actions ++ added
      ∧ List.Forall₂ (ActionFor selectNthUnstableBy config samples)
          ((rest.filter fun source =>
            Splitting selectNthUnstableBy config samples state currentTick source).take
              (config.maxActionsPerPass - schedule.actions.length)) added := by
  induction rest generalizing schedule with
  | nil => exact ⟨[], by simp [decisionsOf, planSources], by simp⟩
  | cons source rest ih =>
      simp only [decisionsOf, List.map_cons, List.zip_cons_cons, planSources]
      split_ifs with hfull
      · refine ⟨[], by simp, ?_⟩
        rw [show config.maxActionsPerPass - schedule.actions.length = 0 by omega]
        simp
      · by_cases h : Splitting selectNthUnstableBy config samples state currentTick source
        · obtain ⟨hnext, action, haction, hactions⟩ := planSource_of_splitting hdecisions h
          obtain ⟨added, heq, hadded⟩ := ih _ (hnext.trans hdecisions)
          refine ⟨action :: added, by rw [decisionsOf] at heq; rw [heq, hactions]; simp, ?_⟩
          rw [List.filter_cons_of_pos (by simpa using h),
            show config.maxActionsPerPass - schedule.actions.length
              = config.maxActionsPerPass - (schedule.actions.length + 1) + 1 by omega,
            List.take_succ_cons]
          rw [hactions, List.length_append, List.length_singleton] at hadded
          exact .cons haction hadded
        · obtain ⟨hnext, hactions⟩ := planSource_of_not_splitting hdecisions h
          obtain ⟨added, heq, hadded⟩ := ih _ (hnext.trans hdecisions)
          refine ⟨added, by rw [decisionsOf] at heq; rw [heq, hactions], ?_⟩
          rw [List.filter_cons_of_neg (by simpa using h)]
          rwa [hactions] at hadded

/-- A pass has the actions of its sources. -/
theorem planInto_actions :
    List.Forall₂ (ActionFor selectNthUnstableBy config samples)
      (sources selectNthUnstableBy config samples state currentTick)
      (planInto selectNthUnstableBy config samples state currentTick).actions := by
  obtain ⟨added, heq, hadded⟩ := planSources_actions selectNthUnstableBy config samples state
    currentTick samples
    ⟨decisionsOf config samples, [], 0, 0, 0, 0, 0, 0⟩ rfl
  rw [List.nil_append] at heq
  exact heq ▸ hadded

section Stations

variable {selectNthUnstableBy config samples state currentTick}
  {splitting : List StationLoadSample} {actions : List SplitAction}

/-- No station is the source of two actions, and no source is a target. -/
structure Separate (actions : List SplitAction) : Prop where
  nodup : (actions.map (·.sourceStation)).Nodup
  distinct : ∀ action ∈ actions, ∀ other ∈ actions, action.sourceStation ≠ other.targetStation

lemma Separate.tail {action : SplitAction} (h : Separate (action :: actions)) :
    Separate actions where
  nodup := (List.nodup_cons.mp h.nodup).2
  distinct other hother third hthird :=
    h.distinct other (List.mem_cons_of_mem _ hother) third (List.mem_cons_of_mem _ hthird)

lemma map_sourceStation
    (h : List.Forall₂ (ActionFor selectNthUnstableBy config samples) splitting actions) :
    actions.map (·.sourceStation) = splitting.map (·.stationId) := by
  induction h with
  | nil => rfl
  | cons haction _ ih =>
      obtain ⟨target, -, rfl⟩ := haction
      rw [List.map_cons, List.map_cons, ih]
      rfl

/-- The two stations of an action, as they were sampled. -/
lemma exists_of_mem_actions
    (h : List.Forall₂ (ActionFor selectNthUnstableBy config samples) splitting actions)
    {action : SplitAction} (hmem : action ∈ actions) :
    ∃ source ∈ splitting, ∃ target ∈ samples, Eligible selectNthUnstableBy config source target
      ∧ action.sourceStation = source.stationId ∧ action.targetStation = target.stationId := by
  induction h with
  | nil => cases hmem
  | @cons source first splitting actions haction _ ih =>
      rcases List.mem_cons.mp hmem with rfl | hmem
      · obtain ⟨target, hprefers, rfl⟩ := haction
        exact ⟨source, List.mem_cons_self, target, hprefers.mem, hprefers.eligible, rfl, rfl⟩
      · obtain ⟨source', hsource', hrest⟩ := ih hmem
        exact ⟨source', List.mem_cons_of_mem _ hsource', hrest⟩

lemma mem_of_mem_sources {source : StationLoadSample}
    (h : source ∈ sources selectNthUnstableBy config samples state currentTick) :
    source ∈ samples ∧ Splitting selectNthUnstableBy config samples state currentTick source := by
  have hmem := List.mem_filter.mp (List.mem_of_mem_take h)
  exact ⟨hmem.1, of_decide_eq_true hmem.2⟩

/-- The sources of a pass are hot and its targets are not. -/
theorem separate_planInto (hdistinct : (samples.map (·.stationId)).Nodup) :
    Separate (planInto selectNthUnstableBy config samples state currentTick).actions where
  nodup := by
    rw [map_sourceStation (planInto_actions selectNthUnstableBy config samples state currentTick)]
    refine hdistinct.sublist (List.Sublist.map _ ?_)
    exact (List.take_sublist _ _).trans List.filter_sublist
  distinct := by
    intro action haction other hother hsame
    have hactions := planInto_actions selectNthUnstableBy config samples state currentTick
    obtain ⟨source, hsource, _, _, _, hid, _⟩ := exists_of_mem_actions hactions haction
    obtain ⟨_, _, target, htarget, heligible, _, hid'⟩ := exists_of_mem_actions hactions hother
    obtain ⟨hmem, hsplitting⟩ := mem_of_mem_sources hsource
    have hids : source.stationId = target.stationId := hid.symm.trans (hsame.trans hid')
    obtain rfl : source = target := List.inj_on_of_nodup_map hdistinct hmem htarget hids
    exact heligible.severity (.inl hsplitting.hot)

end Stations

/-! ## The cap -/

/-- The pressure that actions move to a station. -/
def movedTo (actions : List SplitAction) (target : StationLoadSample) : ℕ :=
  ((actions.filter fun action => action.targetStation = target.stationId).map fun action =>
    action.proposal.movedPressureScore.toNat).sum

/-- Every target of the pass stays within the cap. -/
def WithinCap : Prop :=
  ∀ target ∈ samples,
    (∃ action ∈ (planInto selectNthUnstableBy config samples state currentTick).actions,
      action.targetStation = target.stationId) →
    (stationLoadScore target).toNat
        + movedTo (planInto selectNthUnstableBy config samples state currentTick).actions target
      ≤ config.maxTargetScoreAfterMove.toNat

/-- The pressure of the sources among `splitting` that prefer a station. -/
def pressureFor (splitting : List StationLoadSample) (target : StationLoadSample) : ℕ :=
  ((splitting.filter fun source => Prefers selectNthUnstableBy config samples source target).map
    fun source => (proposalOf selectNthUnstableBy config source).movedPressureScore.toNat).sum

/-- What the sources of a pass would move to the station that they prefer fits there together. -/
def FitsTogether : Prop :=
  ∀ target ∈ samples,
    (∃ source ∈ sources selectNthUnstableBy config samples state currentTick,
      Prefers selectNthUnstableBy config samples source target) →
    (stationLoadScore target).toNat
        + pressureFor selectNthUnstableBy config samples
            (sources selectNthUnstableBy config samples state currentTick) target
      ≤ config.maxTargetScoreAfterMove.toNat

variable {selectNthUnstableBy config samples state currentTick}

/-- A source prefers one station. -/
lemma Prefers.stationId_eq {source target other : StationLoadSample}
    (h : Prefers selectNthUnstableBy config samples source target)
    (hother : Prefers selectNthUnstableBy config samples source other) :
    target.stationId = other.stationId := by
  have heq : keyOf config target = keyOf config other :=
    le_antisymm (h.least other hother.mem hother.eligible)
      (hother.least target h.mem h.eligible)
  simp only [keyOf, targetKeyOf, EmbeddingLike.apply_eq_iff_eq, Prod.mk.injEq] at heq
  exact TypedId.get_injective heq.2.2

lemma ActionFor.targetStation_eq_iff {source target : StationLoadSample} {action : SplitAction}
    (hdistinct : (samples.map (·.stationId)).Nodup)
    (h : ActionFor selectNthUnstableBy config samples source action) (hmem : target ∈ samples) :
    action.targetStation = target.stationId
      ↔ Prefers selectNthUnstableBy config samples source target := by
  obtain ⟨best, hprefers, rfl⟩ := h
  constructor
  · intro heq
    rwa [← List.inj_on_of_nodup_map hdistinct hprefers.mem hmem heq]
  · intro htarget
    exact hprefers.stationId_eq htarget

lemma movedTo_eq {splitting : List StationLoadSample} {actions : List SplitAction}
    {target : StationLoadSample} (hdistinct : (samples.map (·.stationId)).Nodup)
    (h : List.Forall₂ (ActionFor selectNthUnstableBy config samples) splitting actions)
    (hmem : target ∈ samples) :
    movedTo actions target = pressureFor selectNthUnstableBy config samples splitting target := by
  simp only [movedTo, pressureFor]
  induction h with
  | nil => simp
  | @cons source action splitting actions haction _ ih =>
      have hiff := haction.targetStation_eq_iff hdistinct hmem
      by_cases hprefers : Prefers selectNthUnstableBy config samples source target
      · rw [List.filter_cons_of_pos (by simpa using hiff.mpr hprefers),
          List.filter_cons_of_pos (by simpa using hprefers), List.map_cons, List.map_cons,
          List.sum_cons, List.sum_cons, ih]
        obtain ⟨best, -, rfl⟩ := haction
        simp [actionOf]
      · rw [List.filter_cons_of_neg (by simpa using fun heq => hprefers (hiff.mp heq)),
          List.filter_cons_of_neg (by simpa using hprefers), ih]

lemma exists_targetStation_iff {splitting : List StationLoadSample} {actions : List SplitAction}
    {target : StationLoadSample} (hdistinct : (samples.map (·.stationId)).Nodup)
    (h : List.Forall₂ (ActionFor selectNthUnstableBy config samples) splitting actions)
    (hmem : target ∈ samples) :
    (∃ action ∈ actions, action.targetStation = target.stationId)
      ↔ ∃ source ∈ splitting, Prefers selectNthUnstableBy config samples source target := by
  induction h with
  | nil => simp
  | @cons source action splitting actions haction _ ih =>
      rw [List.exists_mem_cons_iff, List.exists_mem_cons_iff, ih,
        haction.targetStation_eq_iff hdistinct hmem]

/-- A pass keeps the cap when what its sources move to one station fits there together. -/
theorem withinCap_iff (selectNthUnstableBy : ReplicationPlanner.SelectNthUnstableBy CellLoadSample)
    (config : SplitSchedulerConfig) (samples : List StationLoadSample)
    (state : Option SplitSchedulerState) (currentTick : Tick)
    (hdistinct : (samples.map (·.stationId)).Nodup) :
    WithinCap selectNthUnstableBy config samples state currentTick
      ↔ FitsTogether selectNthUnstableBy config samples state currentTick := by
  have hactions := planInto_actions selectNthUnstableBy config samples state currentTick
  refine forall₂_congr fun target hmem => ?_
  rw [exists_targetStation_iff hdistinct hactions hmem, movedTo_eq hdistinct hactions hmem]

/-! ### Two sources and one target -/

section TwoSources

/-- Ten entities in one cell. -/
def crowded (id : UInt32) : StationLoadSample :=
  ⟨⟨id⟩, 10, 0, 1, 0, 0, 0, [⟨⟨0, 0, 0⟩, 10, 0, 0, 0, 0, 0, 0⟩]⟩

def idle (id : UInt32) : StationLoadSample := ⟨⟨id⟩, 0, 0, 0, 0, 0, 0, []⟩

/-- A cap that leaves room for the cell of one crowded station. -/
def roomForOne : SplitSchedulerConfig :=
  ⟨⟨0, 0, 0, 0, 0, 1000⟩, 4, 4, 4, 1, 100, 0, true⟩

/-- One crowded station keeps the cap. -/
theorem oneSource_within_cap :
    WithinCap (fun _ compare cells => ReplicationPlanner.sortBy compare cells) roomForOne
      [crowded 1, idle 3] none ⟨0⟩ :=
  (withinCap_iff _ _ _ _ _ (by decide)).mpr (by rw [FitsTogether]; decide)

/-- Two crowded stations both choose the idle one: the cell of each fits there, not both. -/
theorem twoSources_over_cap :
    ¬ WithinCap (fun _ compare cells => ReplicationPlanner.sortBy compare cells) roomForOne
      [crowded 1, crowded 2, idle 3] none ⟨0⟩ := by
  rw [WithinCap]
  decide

end TwoSources

end SectorSync.SplitScheduler
