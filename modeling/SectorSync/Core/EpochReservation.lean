import SectorSync.Core.StationRun

/-!
# Epoch reservations

`nextOwnerEpoch` reserves the next value of a station's epoch counter, and an incoming commit
writes the counter from the transfer it carries.  Along a run the counter never decreases, and no
reservation repeats an earlier one, exactly when no transfer that takes effect carries an epoch
behind the counter: `reservations_unique_iff`.  A transfer that is committed after later
reservations does, and the epoch it was given is then reserved again:
`late_commit_repeats_reservation`.
-/

namespace SectorSync

open Machine

variable {F : Type}

namespace Station

/-- The epochs `nextOwnerEpoch` returns along a run, in order. -/
def reservations : Station F → List (StationOp F) → List OwnerEpoch
  | _, [] => []
  | s, op :: ops =>
      match op with
      | .nextOwnerEpoch => s.nextOwnerEpoch.1 :: (s.step op).reservations ops
      | _ => (s.step op).reservations ops

/-- An incoming commit of the transfer takes effect: it is meant for this station, which does not
hold the entity or holds a ghost of it. -/
def acceptsIncoming (s : Station F) (t : HandoffTransfer F) : Bool :=
  t.targetStation = s.config.stationId &&
    match s.byId.lookup t.entityId with
    | none => true
    | some handle => (s.get handle).any fun record => !record.isOwned

/-- A transfer that takes effect is not behind the station's counter. -/
def CommitsCurrent (s : Station F) : StationOp F → Prop
  | .commitIncomingHandoff t => s.acceptsIncoming t = true → s.ownerEpoch ≤ t.targetOwnerEpoch
  | _ => True

instance (s : Station F) : DecidablePred s.CommitsCurrent
  | .commitIncomingHandoff t =>
      inferInstanceAs (Decidable (s.acceptsIncoming t = true →
        s.ownerEpoch ≤ t.targetOwnerEpoch))
  | .spawnOwned _ _ _ _ | .upsertGhost _ _ _ _ _ _ _ | .moveOwned _ _ | .setTags _ _
  | .clearDirty _ _ | .remove _ | .removeById _ | .nextOwnerEpoch | .advanceTick
  | .prepareOutgoingHandoff _ _ _ _ | .prewarmHandoffGhost _ | .commitOutgoingHandoff _ =>
      isTrue trivial

/-- The counter never decreases along the run, and no reservation below the largest epoch repeats
an earlier one. -/
structure ReservationsUnique (s : Station F) (ops : List (StationOp F)) : Prop where
  monotone : ∀ pre later, pre <+: later → later <+: ops →
    (execute step s pre).ownerEpoch ≤ (execute step s later).ownerEpoch
  unique : (s.reservations ops).Pairwise fun a b => a ≠ b ∨ b.get = UInt64.maxValue

section Counter

variable {s : Station F}

lemma ownerEpoch_overwrites {s' : Station F} (h : s.Overwrites s') :
    s'.ownerEpoch = s.ownerEpoch := by
  rcases h with rfl | ⟨_, _, _, _, _, _, rfl⟩
  · rfl
  · rfl

lemma ownerEpoch_upsertGhost (id : EntityId) (position : Position3 F) (bounds : Bounds F)
    (policyId : PolicyId) (ownerStation : StationId) (ownerEpoch : OwnerEpoch)
    (expiresAt : Tick) :
    (s.upsertGhost id position bounds policyId ownerStation ownerEpoch expiresAt).2.ownerEpoch
      = s.ownerEpoch := by
  rcases s.upsertGhost_cases id position bounds policyId ownerStation ownerEpoch expiresAt with
    ⟨_, -, -, heq⟩ | ⟨_, _, _, -, -, -, -, heq⟩ | ⟨_, -, -, heq⟩
  · rw [heq]
  · rw [heq, ownerEpoch_writeRecord]
  · rw [heq, ownerEpoch_insertNew]

lemma ownerEpoch_remove (h : EntityHandle) : (s.remove h).2.ownerEpoch = s.ownerEpoch := by
  rw [remove]
  cases s.get h with
  | none => rfl
  | some r => rfl

lemma ownerEpoch_commitIncomingHandoff (t : HandoffTransfer F) :
    (s.commitIncomingHandoff t).2.ownerEpoch
      = if s.acceptsIncoming t then t.targetOwnerEpoch else s.ownerEpoch := by
  unfold commitIncomingHandoff acceptsIncoming handleById
  by_cases ht : t.targetStation = s.config.stationId
  · simp only [ht, ne_eq, not_true_eq_false, if_false, decide_true, Bool.true_and]
    cases hlook : s.byId.lookup t.entityId with
    | none => rfl
    | some handle =>
        rcases (s.get handle).eq_none_or_eq_some with hget | ⟨r, hget⟩
        · simp [hget]
        · cases hr : r.isOwned with
          | true => simp [hget, hr]
          | false => simp [hget, hr]
  · simp [ht]

/-- What each operation does to the counter. -/
def epochAfter (s : Station F) : StationOp F → OwnerEpoch
  | .nextOwnerEpoch => s.nextOwnerEpoch.1
  | .commitIncomingHandoff t => if s.acceptsIncoming t then t.targetOwnerEpoch else s.ownerEpoch
  | _ => s.ownerEpoch

lemma ownerEpoch_step (op : StationOp F) : (s.step op).ownerEpoch = s.epochAfter op := by
  cases op with
  | spawnOwned id position bounds policyId =>
      show (s.spawnOwned id position bounds policyId).2.ownerEpoch = s.ownerEpoch
      rcases s.spawnOwned_cases id position bounds policyId with
        ⟨_, _, -, heq⟩ | ⟨_, -, -, heq⟩
      · rw [heq]
      · rw [heq, ownerEpoch_insertNew]
  | upsertGhost id position bounds policyId ownerStation ownerEpoch expiresAt =>
      exact ownerEpoch_upsertGhost _ _ _ _ _ _ _
  | moveOwned handle position => exact ownerEpoch_overwrites (overwrites_moveOwned _ _)
  | setTags handle tags => exact ownerEpoch_overwrites (overwrites_setTags _ _)
  | clearDirty handle mask => exact ownerEpoch_overwrites (overwrites_clearDirty _ _)
  | remove handle => exact ownerEpoch_remove handle
  | removeById id =>
      show (s.removeById id).2.ownerEpoch = s.ownerEpoch
      rw [removeById]
      cases s.byId.lookup id with
      | none => rfl
      | some handle => exact ownerEpoch_remove handle
  | nextOwnerEpoch => rfl
  | advanceTick => rfl
  | prepareOutgoingHandoff entityId targetStation targetOwnerEpoch sourceGhostExpiresAt => rfl
  | prewarmHandoffGhost t =>
      show (s.prewarmHandoffGhost t).2.ownerEpoch = s.ownerEpoch
      rcases s.prewarmHandoffGhost_cases t with ⟨-, _, heq⟩ | ⟨-, _, rfl, heq⟩
      · rw [heq]
      · rw [heq]
        exact ownerEpoch_upsertGhost _ _ _ _ _ _ _
  | commitIncomingHandoff t => exact ownerEpoch_commitIncomingHandoff t
  | commitOutgoingHandoff t =>
      exact ownerEpoch_overwrites (overwrites_commitOutgoingHandoff t)

lemma le_nextOwnerEpoch : s.ownerEpoch ≤ s.nextOwnerEpoch.1 := UInt64.le_saturatingAdd _ 1

/-- **The step lemma.**  A step lowers the counter exactly when it commits a transfer behind
it. -/
lemma le_ownerEpoch_step_iff (op : StationOp F) :
    s.ownerEpoch ≤ (s.step op).ownerEpoch ↔ s.CommitsCurrent op := by
  rw [ownerEpoch_step]
  match op with
  | .nextOwnerEpoch => exact iff_of_true le_nextOwnerEpoch trivial
  | .commitIncomingHandoff t =>
      simp only [epochAfter, CommitsCurrent]
      cases s.acceptsIncoming t with
      | false => simp
      | true => simp
  | .spawnOwned _ _ _ _ | .upsertGhost _ _ _ _ _ _ _ | .moveOwned _ _ | .setTags _ _
  | .clearDirty _ _ | .remove _ | .removeById _ | .advanceTick
  | .prepareOutgoingHandoff _ _ _ _ | .prewarmHandoffGhost _ | .commitOutgoingHandoff _ =>
      exact iff_of_true (le_refl s.ownerEpoch) trivial

/-- A run of current commits keeps the counter from decreasing. -/
lemma le_ownerEpoch_execute {ops : List (StationOp F)} (hok : AllSteps step CommitsCurrent s ops) :
    s.ownerEpoch ≤ (execute step s ops).ownerEpoch := by
  induction ops generalizing s with
  | nil => exact le_refl _
  | cons op ops ih =>
      exact le_trans ((le_ownerEpoch_step_iff op).mpr hok.1) (ih hok.2)

/-- Every reservation of the run passes the counter, or the counter is at its end. -/
lemma lt_of_mem_reservations {ops : List (StationOp F)}
    (hok : AllSteps step CommitsCurrent s ops) :
    ∀ epoch ∈ s.reservations ops, s.ownerEpoch < epoch ∨ epoch.get = UInt64.maxValue := by
  induction ops generalizing s with
  | nil => exact fun epoch h => absurd h List.not_mem_nil
  | cons op ops ih =>
      have hstep := (le_ownerEpoch_step_iff op).mpr hok.1
      have hrest : ∀ epoch ∈ (s.step op).reservations ops,
          s.ownerEpoch < epoch ∨ epoch.get = UInt64.maxValue := fun epoch h =>
        (ih hok.2 epoch h).imp_left (lt_of_le_of_lt hstep)
      intro epoch h
      match op with
      | .nextOwnerEpoch =>
          rcases List.mem_cons.mp h with rfl | h
          · by_cases hmax : s.ownerEpoch.get = UInt64.maxValue
            · refine Or.inr ?_
              show s.ownerEpoch.get.saturatingAdd 1 = UInt64.maxValue
              rw [UInt64.saturatingAdd_one_eq_self.mpr hmax, hmax]
            · refine Or.inl (lt_of_le_of_ne le_nextOwnerEpoch fun heq => hmax ?_)
              exact UInt64.saturatingAdd_one_eq_self.mp (congrArg TypedId.get heq).symm
          · exact hrest epoch h
      | .spawnOwned _ _ _ _ | .upsertGhost _ _ _ _ _ _ _ | .moveOwned _ _ | .setTags _ _
      | .clearDirty _ _ | .remove _ | .removeById _ | .advanceTick
      | .prepareOutgoingHandoff _ _ _ _ | .prewarmHandoffGhost _ | .commitIncomingHandoff _
      | .commitOutgoingHandoff _ => exact hrest epoch h

lemma pairwise_reservations {ops : List (StationOp F)}
    (hok : AllSteps step CommitsCurrent s ops) :
    (s.reservations ops).Pairwise fun a b => a ≠ b ∨ b.get = UInt64.maxValue := by
  induction ops generalizing s with
  | nil => exact List.Pairwise.nil
  | cons op ops ih =>
      match op with
      | .nextOwnerEpoch =>
          refine List.Pairwise.cons (fun epoch h => ?_) (ih hok.2)
          exact (lt_of_mem_reservations hok.2 epoch h).imp_left ne_of_lt
      | .spawnOwned _ _ _ _ | .upsertGhost _ _ _ _ _ _ _ | .moveOwned _ _ | .setTags _ _
      | .clearDirty _ _ | .remove _ | .removeById _ | .advanceTick
      | .prepareOutgoingHandoff _ _ _ _ | .prewarmHandoffGhost _ | .commitIncomingHandoff _
      | .commitOutgoingHandoff _ => exact ih hok.2

end Counter

/-- **Reservations are unique.**  Along a run the counter never decreases and no reservation
repeats exactly when no transfer that takes effect is behind the counter. -/
theorem reservations_unique_iff (s : Station F) (ops : List (StationOp F)) :
    s.ReservationsUnique ops ↔ AllSteps step CommitsCurrent s ops := by
  constructor
  · rintro ⟨hmono, -⟩
    induction ops generalizing s with
    | nil => exact trivial
    | cons op ops ih =>
        refine ⟨(le_ownerEpoch_step_iff op).mp (hmono [] [op] List.nil_prefix (by simp)), ?_⟩
        refine ih (s.step op) fun pre later hpre hlater => ?_
        exact hmono (op :: pre) (op :: later) ((List.prefix_cons_inj op).mpr hpre)
          ((List.prefix_cons_inj op).mpr hlater)
  · intro hok
    refine ⟨fun pre later hpre hlater => ?_, pairwise_reservations hok⟩
    obtain ⟨rest, rfl⟩ := hpre
    obtain ⟨after, rfl⟩ := hlater
    rw [execute_append]
    exact le_ownerEpoch_execute (allSteps_append.mp (allSteps_append.mp hok).1).2

section LateCommit

/-- A transfer of entity 7 to station 1 under the epoch that was reserved first. -/
def firstReserved : HandoffTransfer ℕ where
  entityId := ⟨7⟩
  sourceStation := ⟨2⟩
  targetStation := ⟨1⟩
  sourceOwnerEpoch := ⟨0⟩
  targetOwnerEpoch := ⟨1⟩
  preparedAt := ⟨0⟩
  sourceGhostExpiresAt := ⟨10⟩
  entity := .owned ⟨7⟩ ⟨0, 0⟩ ⟨0, 0, 0⟩ .point ⟨0⟩ ⟨0⟩

/-- Epochs 1 and 2 are reserved, the transfer under epoch 1 is committed late, and the next
reservation returns epoch 2 again. -/
theorem late_commit_repeats_reservation :
    (Station.new (configWithStation 1)).reservations
        [.nextOwnerEpoch, .nextOwnerEpoch, .commitIncomingHandoff firstReserved, .nextOwnerEpoch]
      = [⟨1⟩, ⟨2⟩, ⟨2⟩] ∧
    ¬ ∀ (s : Station ℕ) (ops : List (StationOp ℕ)), s.ReservationsUnique ops := by
  refine ⟨by decide, fun hall => ?_⟩
  have hunique := (hall (Station.new (configWithStation 1)) [.nextOwnerEpoch, .nextOwnerEpoch,
    .commitIncomingHandoff firstReserved, .nextOwnerEpoch]).unique
  exact absurd hunique (by decide)

end LateCommit

end Station

end SectorSync
