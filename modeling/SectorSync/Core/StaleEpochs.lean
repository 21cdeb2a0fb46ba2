import SectorSync.Base.Stamps
import SectorSync.Core.StaleHandles

/-!
# Stale epochs

Ghost updates and handoff messages carry the owner epoch of the entity they are about, and a
station's record keeps the epoch of the message that wrote it.  No operation compares the two: a
message that gets past the checks of its target and of the owner writes its epoch.  So epochs never
drop, and messages behind the record never write, exactly in the runs in which no message that
takes effect (`TakesEffect`) is behind the record: `stale_epochs_iff`.
-/

namespace SectorSync

open Machine

variable {F : Type}

namespace Station

/-- The owner epoch that a ghost update or a handoff message carries. -/
def carriedEpoch : StationOp F → Option OwnerEpoch
  | .upsertGhost _ _ _ _ _ ownerEpoch _ => some ownerEpoch
  | .prewarmHandoffGhost t => some t.sourceOwnerEpoch
  | .commitIncomingHandoff t => some t.targetOwnerEpoch
  | .commitOutgoingHandoff t => some t.targetOwnerEpoch
  | _ => none

/-- The message gets past the checks made before the record of the entity is written: a prewarm and
an incoming commit are meant for this station, an outgoing commit comes from it; only a ghost is
committed over, and only an owned record becomes the ghost of its source.  An incoming commit for an
unknown entity writes the entity of the record that it carries. -/
def TakesEffect (s : Station F) (id : EntityId) : StationOp F → Prop
  | .upsertGhost target _ _ _ _ _ _ => target = id
  | .prewarmHandoffGhost t => t.targetStation = s.config.stationId ∧ t.entityId = id
  | .commitIncomingHandoff t => t.targetStation = s.config.stationId
      ∧ (t.entityId = id ∧ (s.getById id).any (!·.isOwned)
        ∨ s.byId.lookup t.entityId = none ∧ t.entity.id = id)
  | .commitOutgoingHandoff t => t.sourceStation = s.config.stationId ∧ t.entityId = id
      ∧ (s.getById id).any (·.isOwned)
  | _ => False

/-- No message that takes effect on a record is behind its epoch. -/
def EpochsCurrent (s : Station F) (op : StationOp F) : Prop :=
  ∀ id record epoch, s.TakesEffect id op → s.getById id = some record →
    carriedEpoch op = some epoch → record.role.ownerEpoch ≤ epoch

/-- While the record of an entity lives, its epoch does not drop. -/
def EpochsNeverDrop (s : Station F) (ops : List (StationOp F)) : Prop :=
  ∀ id, StampsRise (getById · id) (·.role.ownerEpoch) step s ops

/-- A message that carries a lower epoch than a record does not overwrite it. -/
def StaleNeverWrites (s : Station F) (ops : List (StationOp F)) : Prop :=
  ∀ pre op, pre ++ [op] <+: ops → ∀ id record epoch,
    (execute step s pre).getById id = some record → carriedEpoch op = some epoch →
    epoch < record.role.ownerEpoch →
    ∃ after, ((execute step s pre).step op).getById id = some after
      ∧ after.position = record.position ∧ after.bounds = record.bounds
      ∧ after.role = record.role

section Steps

variable {s : Station F} {id : EntityId} {record : EntityRecord F} {op : StationOp F}

/-! ## Reading by id after a write -/

lemma getById_writeRecord_eq {handle : EntityHandle} {old : EntityRecord F}
    (hget : s.get handle = some old) (r : EntityRecord F) (id : EntityId) :
    (s.writeRecord handle r).getById id
      = if s.byId.lookup id = some handle then some r else s.getById id := by
  rw [getById, byId_writeRecord, getById]
  cases s.byId.lookup id with
  | none => simp
  | some found =>
      simp only [Option.bind_some, get_writeRecord hget, Option.some.injEq]

/-- A new record is read under its own id; other records stay. -/
lemma getById_insertNew_eq (hwf : s.slots.Wf) (hrecord : s.getById id = some record)
    (new : EntityHandle → EntityRecord F) :
    (s.insertNew new).2.getById id
      = if (new (s.insertNew new).1).id = id then some (new (s.insertNew new).1)
        else some record := by
  have hallocated := allocated_of_wf hwf
  have hbyId : (s.insertNew new).2.byId
      = s.byId.insert (new (s.insertNew new).1).id (s.insertNew new).1 := by
    simp only [insertNew, insertAllocated, hallocated.byId]
  obtain ⟨handle, hlookup, hget⟩ := getById_eq_some.mp hrecord
  rw [getById, hbyId, Finmap.lookup_insert_eq]
  split_ifs with hid hid' hid'
  · rw [Option.bind_some, hallocated.get_insertNew, if_pos rfl]
  · exact absurd hid.symm hid'
  · exact absurd hid'.symm hid
  · -- the slot of a record that is read is not the one that is taken
    have hfresh : s.get (s.insertNew new).1 = none := hallocated.get_eq_none
    have hne : handle ≠ (s.insertNew new).1 := by
      rintro rfl
      rw [hfresh] at hget
      cases hget
    rw [hlookup, Option.bind_some, hallocated.get_insertNew, if_neg hne, hget]

/-! ## What a step does to the record of an entity -/

/-- The step leaves the record, or writes the epoch that the message carries. -/
inductive RecordStep (s : Station F) (op : StationOp F) (record after : EntityRecord F) :
    Prop where
  | kept (hsame : after = record)
  | edited (hlocal : carriedEpoch op = none) (hrole : after.role = record.role)
  | written {target : EntityId} (heffect : s.TakesEffect target op)
      (htarget : s.getById target = some record)
      (hcarried : carriedEpoch op = some after.role.ownerEpoch)

/-- An overwrite of one record, seen from any entity that is read. -/
lemma recordStep_writeRecord {handle : EntityHandle} {old r : EntityRecord F}
    (hget : s.get handle = some old) (hrecord : s.getById id = some record)
    (hwritten : RecordStep s op old r) :
    ∃ after, (s.writeRecord handle r).getById id = some after ∧ RecordStep s op record after := by
  rw [getById_writeRecord_eq hget]
  split_ifs with hlookup
  · obtain ⟨found, hfound, hread⟩ := getById_eq_some.mp hrecord
    rw [hlookup, Option.some.injEq] at hfound
    subst hfound
    rw [hget, Option.some.injEq] at hread
    exact ⟨r, rfl, hread ▸ hwritten⟩
  · exact ⟨record, hrecord, .kept rfl⟩

lemma recordStep_upsertGhost (hwf : s.slots.Wf) (hrecord : s.getById id = some record)
    (target : EntityId) (position : Position3 F) (bounds : Bounds F) (policyId : PolicyId)
    (ownerStation : StationId) (ownerEpoch : OwnerEpoch) (expiresAt : Tick)
    (heffect : s.TakesEffect target op) (hcarried : carriedEpoch op = some ownerEpoch) :
    ∃ after, (s.upsertGhost target position bounds policyId ownerStation ownerEpoch
        expiresAt).2.getById id = some after ∧ RecordStep s op record after := by
  rw [upsertGhost]
  cases hlookup : s.byId.lookup target with
  | none =>
      dsimp only
      rw [getById_insertNew_eq hwf hrecord]
      split_ifs with hid
      · have hid : target = id := hid
        rw [getById, ← hid, hlookup] at hrecord
        cases hrecord
      · exact ⟨record, rfl, .kept rfl⟩
  | some handle =>
      cases hget : s.get handle with
      | none => exact ⟨record, by simpa [hget] using hrecord, .kept rfl⟩
      | some old =>
          simp only [hget]
          refine recordStep_writeRecord hget hrecord ?_
          exact .written heffect (getById_eq_some.mpr ⟨handle, hlookup, hget⟩) hcarried

lemma recordStep_commitIncomingHandoff (hwf : s.slots.Wf) (hrecord : s.getById id = some record)
    (t : HandoffTransfer F) :
    ∃ after, (s.commitIncomingHandoff t).2.getById id = some after
      ∧ RecordStep s (.commitIncomingHandoff t) record after := by
  rcases s.commitIncomingHandoff_cases t with
    ⟨_, -, heq⟩ | ⟨handle, old, htarget, hlookup, hget, hghost, heq⟩ | ⟨htarget, hlookup, heq⟩
  · rw [heq]
    exact ⟨record, hrecord, .kept rfl⟩
  · rw [heq]
    have hold : s.getById t.entityId = some old := getById_eq_some.mpr ⟨handle, hlookup, hget⟩
    refine recordStep_writeRecord hget hrecord (.written ?_ hold rfl)
    exact ⟨htarget, .inl ⟨rfl, by rw [hold]; simp [hghost]⟩⟩
  · rw [heq]
    show ∃ after, (s.insertNew (incomingRecord t)).2.getById id = some after ∧ _
    rw [getById_insertNew_eq hwf hrecord]
    split_ifs with hid
    · have hid : t.entity.id = id := hid
      exact ⟨_, rfl, .written ⟨htarget, .inr ⟨hlookup, hid⟩⟩ hrecord rfl⟩
    · exact ⟨record, rfl, .kept rfl⟩

lemma recordStep_commitOutgoingHandoff (hrecord : s.getById id = some record)
    (t : HandoffTransfer F) :
    ∃ after, (s.commitOutgoingHandoff t).2.getById id = some after
      ∧ RecordStep s (.commitOutgoingHandoff t) record after := by
  rw [commitOutgoingHandoff]
  split_ifs with hsource
  · exact ⟨record, hrecord, .kept rfl⟩
  rw [handleById]
  cases hlookup : s.byId.lookup t.entityId with
  | none => exact ⟨record, hrecord, .kept rfl⟩
  | some handle =>
      cases hget : s.get handle with
      | none => exact ⟨record, by simpa [hget] using hrecord, .kept rfl⟩
      | some old =>
          simp only [hget]
          split_ifs with howned
          · have hold : s.getById t.entityId = some old :=
              getById_eq_some.mpr ⟨handle, hlookup, hget⟩
            refine recordStep_writeRecord hget hrecord (.written ?_ hold rfl)
            exact ⟨not_not.mp hsource, rfl, by rw [hold]; simpa using howned⟩
          · exact ⟨record, hrecord, .kept rfl⟩

/-- A message removes no record. -/
lemma recordStep_message (hwf : s.slots.Wf) (hrecord : s.getById id = some record)
    (hmessage : carriedEpoch op ≠ none) :
    ∃ after, (s.step op).getById id = some after ∧ RecordStep s op record after := by
  cases op with
  | upsertGhost target position bounds policyId ownerStation ownerEpoch expiresAt =>
      exact recordStep_upsertGhost hwf hrecord _ _ _ _ _ _ _ rfl rfl
  | prewarmHandoffGhost t =>
      show ∃ after, (s.prewarmHandoffGhost t).2.getById id = some after ∧ _
      rcases s.prewarmHandoffGhost_cases t with ⟨-, _, heq⟩ | ⟨htarget, _, rfl, heq⟩
      · rw [heq]
        exact ⟨record, hrecord, .kept rfl⟩
      · rw [heq]
        exact recordStep_upsertGhost hwf hrecord _ _ _ _ _ _ _ ⟨htarget, rfl⟩ rfl
  | commitIncomingHandoff t => exact recordStep_commitIncomingHandoff hwf hrecord t
  | commitOutgoingHandoff t => exact recordStep_commitOutgoingHandoff hrecord t
  | _ => exact absurd rfl hmessage

/-- A removal leaves every other record. -/
lemma getById_remove {handle : EntityHandle} {after : EntityRecord F}
    (hrecord : s.getById id = some record)
    (hafter : (s.remove handle).2.getById id = some after) : after = record := by
  cases hget : s.get handle with
  | none =>
      rw [remove, hget] at hafter
      exact Option.some.inj (hafter.symm.trans hrecord)
  | some r =>
      obtain ⟨found, hfound, hread⟩ := getById_eq_some.mp hafter
      rw [remove_eq hget] at hfound
      have hlookup : s.byId.lookup id = some found := by
        rw [Finmap.lookup_erase_eq] at hfound
        split_ifs at hfound
        exact hfound
      rw [get_remove hget] at hread
      split_ifs at hread
      rw [getById, hlookup, Option.bind_some, hread] at hrecord
      exact Option.some.inj hrecord

/-- A spawned entity is another one. -/
lemma getById_spawnOwned {after : EntityRecord F} (hwf : s.slots.Wf)
    (hrecord : s.getById id = some record) (target : EntityId) (position : Position3 F)
    (bounds : Bounds F) (policyId : PolicyId)
    (hafter : (s.spawnOwned target position bounds policyId).2.getById id = some after) :
    after = record := by
  rw [spawnOwned] at hafter
  split_ifs at hafter with hknown
  · exact Option.some.inj (hafter.symm.trans hrecord)
  · dsimp only at hafter
    rw [getById_insertNew_eq hwf hrecord] at hafter
    split_ifs at hafter with hid
    · have hid : target = id := hid
      obtain ⟨handle, hlookup, -⟩ := getById_eq_some.mp hrecord
      rw [hid, hlookup] at hknown
      exact absurd rfl hknown
    · exact Option.some.inj hafter.symm

/-- An operation that is no message edits the record under its role, or leaves it. -/
lemma recordStep_local {after : EntityRecord F} (hwf : s.slots.Wf)
    (hrecord : s.getById id = some record) (hlocal : carriedEpoch op = none)
    (hafter : (s.step op).getById id = some after) : RecordStep s op record after := by
  have hwrite : ∀ {handle : EntityHandle} {old r : EntityRecord F}, s.get handle = some old →
      r.role = old.role → (s.writeRecord handle r).getById id = some after →
      RecordStep s op record after := by
    intro handle old r hget hrole hread
    have hedited : RecordStep s op old r := .edited hlocal hrole
    obtain ⟨found, hfound, hstep⟩ := recordStep_writeRecord hget hrecord hedited
    rw [hread, Option.some.injEq] at hfound
    exact hfound ▸ hstep
  have hkept : s.getById id = some after → RecordStep s op record after := fun hread =>
    .kept (Option.some.inj (hread.symm.trans hrecord))
  cases op with
  | spawnOwned target position bounds policyId =>
      exact .kept (getById_spawnOwned hwf hrecord target position bounds policyId hafter)
  | moveOwned handle position =>
      replace hafter : (s.moveOwned handle position).2.getById id = some after := hafter
      rcases s.moveOwned_cases handle position with ⟨_, heq⟩ | ⟨old, hget, heq⟩
      · rw [heq] at hafter
        exact hkept hafter
      · rw [heq] at hafter
        refine hwrite hget ?_ hafter
        rfl
  | setTags handle tags =>
      replace hafter : (s.setTags handle tags).2.getById id = some after := hafter
      rcases s.setTags_cases handle tags with ⟨_, heq⟩ | ⟨old, hget, heq⟩
      · rw [heq] at hafter
        exact hkept hafter
      · rw [heq] at hafter
        refine hwrite hget ?_ hafter
        rfl
  | clearDirty handle mask =>
      replace hafter : (s.clearDirty handle mask).2.getById id = some after := hafter
      cases hget : s.get handle with
      | none =>
          rw [clearDirty, hget] at hafter
          exact hkept hafter
      | some old =>
          rw [clearDirty, hget] at hafter
          refine hwrite hget ?_ hafter
          rfl
  | remove handle => exact .kept (getById_remove hrecord hafter)
  | removeById target =>
      replace hafter : (s.removeById target).2.getById id = some after := hafter
      rw [removeById] at hafter
      cases hlookup : s.byId.lookup target with
      | none =>
          rw [hlookup] at hafter
          exact hkept hafter
      | some handle =>
          rw [hlookup] at hafter
          exact .kept (getById_remove hrecord hafter)
  | nextOwnerEpoch => exact hkept hafter
  | advanceTick => exact hkept hafter
  | prepareOutgoingHandoff _ _ _ _ => exact hkept hafter
  | upsertGhost | prewarmHandoffGhost | commitIncomingHandoff | commitOutgoingHandoff =>
      cases hlocal

/-- **What a step does to the record of an entity.** -/
lemma recordStep {after : EntityRecord F} (hwf : s.slots.Wf) (hrecord : s.getById id = some record)
    (hafter : (s.step op).getById id = some after) : RecordStep s op record after := by
  by_cases hmessage : carriedEpoch op = none
  · exact recordStep_local hwf hrecord hmessage hafter
  · obtain ⟨found, hfound, hstep⟩ := recordStep_message hwf hrecord hmessage
    rw [hafter, Option.some.injEq] at hfound
    exact hfound ▸ hstep

/-- A message that takes effect writes its epoch. -/
lemma epoch_of_takesEffect {epoch : OwnerEpoch} (hwf : s.slots.Wf) (heffect : s.TakesEffect id op)
    (hrecord : s.getById id = some record) (hcarried : carriedEpoch op = some epoch) :
    ∃ after, (s.step op).getById id = some after ∧ after.role.ownerEpoch = epoch := by
  obtain ⟨handle, hlookup, hget⟩ := getById_eq_some.mp hrecord
  cases op with
  | upsertGhost target position bounds policyId ownerStation ownerEpoch expiresAt =>
      obtain rfl : target = id := heffect
      cases hcarried
      show ∃ after, (s.upsertGhost _ _ _ _ _ _ _).2.getById target = some after ∧ _
      simp only [upsertGhost, hlookup, hget, getById_writeRecord_eq hget, if_true]
      exact ⟨_, rfl, rfl⟩
  | prewarmHandoffGhost t =>
      obtain ⟨htarget, rfl⟩ := heffect
      cases hcarried
      show ∃ after, (s.prewarmHandoffGhost t).2.getById t.entityId = some after ∧ _
      simp only [prewarmHandoffGhost, htarget, ne_eq, not_true_eq_false, if_false, upsertGhost,
        hlookup, hget, getById_writeRecord_eq hget, if_true]
      exact ⟨_, rfl, rfl⟩
  | commitIncomingHandoff t =>
      obtain ⟨htarget, ⟨rfl, hghost⟩ | ⟨hunknown, rfl⟩⟩ := heffect
      · cases hcarried
        rw [hrecord] at hghost
        have hnot : record.isOwned = false := by simpa using hghost
        refine ⟨incomingRecord t handle, ?_, rfl⟩
        show (s.commitIncomingHandoff t).2.getById t.entityId = _
        simp only [commitIncomingHandoff, htarget, ne_eq, not_true_eq_false, if_false, handleById,
          hlookup, hget, hnot, Bool.false_eq_true]
        exact (getById_writeRecord_eq hget _ _).trans (if_pos hlookup)
      · cases hcarried
        refine ⟨incomingRecord t (s.insertNew (incomingRecord t)).1, ?_, rfl⟩
        show (s.commitIncomingHandoff t).2.getById t.entity.id = _
        simp only [commitIncomingHandoff, htarget, ne_eq, not_true_eq_false, if_false, handleById,
          hunknown]
        exact (getById_insertNew_eq hwf hrecord (incomingRecord t)).trans (if_pos rfl)
  | commitOutgoingHandoff t =>
      obtain ⟨hsource, rfl, howned⟩ := heffect
      cases hcarried
      rw [hrecord] at howned
      have howned : record.isOwned = true := howned
      refine ⟨outgoingRecord t record, ?_, rfl⟩
      show (s.commitOutgoingHandoff t).2.getById t.entityId = _
      simp only [commitOutgoingHandoff, hsource, ne_eq, not_true_eq_false, if_false, handleById,
        hlookup, hget, howned, if_true]
      exact (getById_writeRecord_eq hget _ _).trans (if_pos hlookup)
  | _ => cases heffect

/-! ## Current epochs -/

lemma step_eq_handleStep (s : Station F) (op : StationOp F) : s.step op = s.handleStep (.op op) :=
  rfl

lemma wf_step (hwf : s.slots.Wf) (op : StationOp F) : (s.step op).slots.Wf := by
  rw [step_eq_handleStep, slots_handleStep]
  exact hwf.step _

/-- The steps in which no epoch drops are those whose message is not behind. -/
lemma epochs_rise_step_iff (hwf : s.slots.Wf) (op : StationOp F) :
    (∀ id a b, s.getById id = some a → (s.step op).getById id = some b →
        a.role.ownerEpoch ≤ b.role.ownerEpoch)
      ↔ s.EpochsCurrent op := by
  constructor
  · intro h id record epoch heffect hrecord hcarried
    obtain ⟨after, hafter, rfl⟩ := epoch_of_takesEffect hwf heffect hrecord hcarried
    exact h id record after hrecord hafter
  · intro h id a b ha hb
    cases recordStep hwf ha hb with
    | kept hsame => rw [hsame]
    | edited hlocal hrole => rw [hrole]
    | written heffect htarget hcarried => exact h _ a _ heffect htarget hcarried

/-- The steps in which no stale message writes are those whose message is not behind. -/
lemma stale_step_iff (hwf : s.slots.Wf) (op : StationOp F) :
    (∀ id record epoch, s.getById id = some record → carriedEpoch op = some epoch →
        epoch < record.role.ownerEpoch →
        ∃ after, (s.step op).getById id = some after ∧ after.position = record.position
          ∧ after.bounds = record.bounds ∧ after.role = record.role)
      ↔ s.EpochsCurrent op := by
  constructor
  · intro h id record epoch heffect hrecord hcarried
    by_contra hstale
    obtain ⟨after, hafter, -, -, hrole⟩ :=
      h id record epoch hrecord hcarried (lt_of_not_ge hstale)
    obtain ⟨found, hfound, hepoch⟩ := epoch_of_takesEffect hwf heffect hrecord hcarried
    rw [hafter, Option.some.injEq] at hfound
    subst hfound
    exact hstale (by rw [← hepoch, hrole])
  · intro h id record epoch hrecord hcarried hstale
    obtain ⟨after, hafter, hstep⟩ := recordStep_message hwf hrecord (by rw [hcarried]; simp)
    cases hstep with
    | kept hsame =>
        subst hsame
        exact ⟨after, hafter, rfl, rfl, rfl⟩
    | edited hlocal hrole =>
        rw [hcarried] at hlocal
        cases hlocal
    | written heffect htarget hwritten =>
        exact absurd (h _ record _ heffect htarget hcarried) (not_le_of_gt hstale)

end Steps

/-- **Stale messages.**  From every station, epochs never drop, and stale messages never write,
exactly in the runs in which no message that takes effect is behind the record. -/
theorem stale_epochs_iff {s : Station F} (hs : s.Reachable) (ops : List (StationOp F)) :
    (s.EpochsNeverDrop ops ↔ AllSteps step EpochsCurrent s ops)
      ∧ (s.StaleNeverWrites ops ↔ AllSteps step EpochsCurrent s ops) := by
  have hwf := hs.wf_slots
  have hkeep : ∀ (s : Station F) op, s.slots.Wf → (step s op).slots.Wf :=
    fun _ op h => wf_step h op
  constructor
  · have hrise : ∀ (s : Station F) op, s.slots.Wf →
        ((∀ id a b, s.getById id = some a → (step s op).getById id = some b →
          a.role.ownerEpoch ≤ b.role.ownerEpoch) ↔ s.EpochsCurrent op) :=
      fun _ op h => epochs_rise_step_iff h op
    rw [← allSteps_congr_of_invariant hkeep hrise hwf, ← allSteps_forall]
    exact forall_congr' fun id => stampsRise_iff s ops
  · have hstale : ∀ (s : Station F) op, s.slots.Wf →
        ((∀ id record epoch, s.getById id = some record → carriedEpoch op = some epoch →
          epoch < record.role.ownerEpoch →
          ∃ after, (step s op).getById id = some after ∧ after.position = record.position
            ∧ after.bounds = record.bounds ∧ after.role = record.role) ↔ s.EpochsCurrent op) :=
      fun _ op h => stale_step_iff h op
    rw [← allSteps_congr_of_invariant hkeep hstale hwf, allSteps_iff_forall_prefix]
    exact Iff.rfl

section Late

/-- A transfer of entity 7 to station 1. -/
def earlyTransfer : HandoffTransfer ℕ where
  entityId := ⟨7⟩
  sourceStation := ⟨2⟩
  targetStation := ⟨1⟩
  sourceOwnerEpoch := ⟨3⟩
  targetOwnerEpoch := ⟨4⟩
  preparedAt := ⟨0⟩
  sourceGhostExpiresAt := ⟨10⟩
  entity := .owned ⟨7⟩ ⟨0, 0⟩ ⟨5, 5, 5⟩ .point ⟨0⟩ ⟨3⟩

/-- The first delivery of the transfer raises the epoch. -/
theorem stale_epochs_first_delivery :
    (new (configWithStation 1)).EpochsNeverDrop
      [.prewarmHandoffGhost earlyTransfer, .commitIncomingHandoff earlyTransfer] := by
  refine (stale_epochs_iff (.new (configWithStation 1)) _).1.mpr ⟨?_, ?_, trivial⟩
  · rintro id record epoch - hrecord -
    simp [getById, new] at hrecord
  · intro id record epoch heffect hrecord hcarried
    obtain rfl : ⟨7⟩ = id := by
      obtain ⟨-, ⟨hid, -⟩ | ⟨-, hid⟩⟩ := heffect
      · exact hid
      · exact hid
    have hread : ((new (configWithStation 1)).step (.prewarmHandoffGhost earlyTransfer)).getById ⟨7⟩
        = some (.ghost ⟨7⟩ ⟨0, 0⟩ ⟨5, 5, 5⟩ .point ⟨0⟩ ⟨2⟩ ⟨3⟩ ⟨10⟩) := by decide
    rw [hread, Option.some.injEq] at hrecord
    cases hcarried
    subst hrecord
    decide

/-- A ghost update, and one that was delayed. -/
def lateUpdate : List (StationOp ℕ) :=
  [.upsertGhost ⟨7⟩ ⟨9, 9, 9⟩ .point ⟨0⟩ ⟨2⟩ ⟨6⟩ ⟨10⟩,
    .upsertGhost ⟨7⟩ ⟨1, 1, 1⟩ .point ⟨0⟩ ⟨3⟩ ⟨5⟩ ⟨10⟩]

/-- The transfer is committed, and prewarmed once more when the station owns the entity. -/
def latePrewarm : List (StationOp ℕ) :=
  [.commitIncomingHandoff earlyTransfer, .prewarmHandoffGhost earlyTransfer]

/-- The late messages take the records back to an earlier epoch. -/
theorem late_messages_lower_epoch :
    ¬ (new (configWithStation 1)).EpochsNeverDrop lateUpdate
      ∧ ¬ (new (configWithStation 1)).StaleNeverWrites latePrewarm := by
  constructor
  · intro h
    have htracked : Tracked step (getById · ⟨7⟩)
        (execute step (new (configWithStation 1)) (lateUpdate.take 1)) (lateUpdate.drop 1) := by
      rw [lateUpdate, List.take_succ_cons, List.drop_succ_cons, List.take_zero, List.drop_zero,
        tracked_cons, tracked_nil]
      decide
    have hepoch := h ⟨7⟩ (lateUpdate.take 1) (lateUpdate.drop 1) List.prefix_rfl htracked
      (.ghost ⟨7⟩ ⟨0, 0⟩ ⟨9, 9, 9⟩ .point ⟨0⟩ ⟨2⟩ ⟨6⟩ ⟨10⟩)
      (.ghost ⟨7⟩ ⟨0, 0⟩ ⟨1, 1, 1⟩ .point ⟨0⟩ ⟨3⟩ ⟨5⟩ ⟨10⟩) (by decide) (by decide)
    exact absurd hepoch (by decide)
  · intro h
    obtain ⟨after, hafter, -, -, hrole⟩ := h [.commitIncomingHandoff earlyTransfer]
      (.prewarmHandoffGhost earlyTransfer) List.prefix_rfl ⟨7⟩
      (.owned ⟨7⟩ ⟨0, 0⟩ ⟨5, 5, 5⟩ .point ⟨0⟩ ⟨4⟩) ⟨3⟩ (by decide) rfl (by decide)
    have hread : (execute step (new (configWithStation 1)) latePrewarm).getById ⟨7⟩
        = some (.ghost ⟨7⟩ ⟨0, 0⟩ ⟨5, 5, 5⟩ .point ⟨0⟩ ⟨2⟩ ⟨3⟩ ⟨10⟩) := by decide
    obtain rfl := Option.some.inj (hread.symm.trans hafter)
    exact absurd hrole (by decide)

end Late

end Station

end SectorSync
