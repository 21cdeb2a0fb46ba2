import SectorSync.Base.Run
import SectorSync.Core.Placement
import SectorSync.Runtime.StationSet

/-!
# Migrating an entity between two stations

`migrate_entity` runs the whole handoff between two stations of one collection: it reserves an
epoch at the target, prepares at the source, prewarms and commits at the target, and commits at
the source.  `migrateEntity_not_owner`, `migrateEntity_dead` and `migrateEntity_live` say how the
call ends between any two existing stations, `migrateEntity_owner` what it does between two
well-formed ones.  From them:

* `migrateEntity_atomic_iff`: the call is atomic, and respects a target that already owns the
  entity, exactly under `MigratesCleanly`;
* `Journey.migrations_increase_epoch_iff`: a chain of successful migrations carries ever
  greater owner epochs exactly when no target's epoch counter is behind the entity.

Neither holds of every collection: `migrateEntity_not_atomic` and
`Journey.returning_entity_repeats_epoch`.
-/

namespace SectorSync

open Machine

variable {F : Type}

/-- Result of an in-process entity owner migration. -/
structure EntityMigrationReport (F : Type) where
  transfer : HandoffTransfer F
  /-- Source-side ghost handle after commit. -/
  sourceGhost : EntityHandle
  /-- Target-side authoritative handle after commit. -/
  targetOwner : EntityHandle

/-- Entity migration error. -/
inductive EntityMigrationError where
  | sameSourceAndTarget (station : StationId)
  | missingSource (station : StationId)
  | missingTarget (station : StationId)
  | station (error : StationError)
  deriving DecidableEq

/-- Migrates one authoritative entity from source station to target station.  The outer `none`
is the panic of the `expect` on the pair lookup. -/
def migrateEntity (set : StationSet F) (entityId : EntityId)
    (sourceStation targetStation : StationId) (ghostTtlTicks : UInt64) :
    Option (Except EntityMigrationError (EntityMigrationReport F) × StationSet F) :=
  if sourceStation = targetStation then
    some (.error (.sameSourceAndTarget sourceStation), set)
  else if (set.get sourceStation).isNone then
    some (.error (.missingSource sourceStation), set)
  else if (set.get targetStation).isNone then
    some (.error (.missingTarget targetStation), set)
  else
    match set.getPairMut sourceStation targetStation with
    | none => none
    | some (source, target) =>
        let (targetEpoch, target) := target.nextOwnerEpoch
        let sourceGhostExpiresAt : Tick := ⟨source.tick.get.saturatingAdd ghostTtlTicks⟩
        match source.prepareOutgoingHandoff entityId targetStation targetEpoch
            sourceGhostExpiresAt with
        | .error error => some (.error (.station error), set.put targetStation target)
        | .ok transfer =>
            match target.prewarmHandoffGhost transfer with
            | (.error error, target) =>
                some (.error (.station error), set.put targetStation target)
            | (.ok _, target) =>
                match target.commitIncomingHandoff transfer with
                | (.error error, target) =>
                    some (.error (.station error), set.put targetStation target)
                | (.ok targetOwner, target) =>
                    match source.commitOutgoingHandoff transfer with
                    | (.error error, source) =>
                        some (.error (.station error),
                          (set.put targetStation target).put sourceStation source)
                    | (.ok sourceGhost, source) =>
                        some (.ok ⟨transfer, sourceGhost, targetOwner⟩,
                          (set.put targetStation target).put sourceStation source)

/-- Whether a station of the collection owns the entity. -/
def StationSet.owns (set : StationSet F) (id : StationId) (e : EntityId) : Bool :=
  (set.get id).any (·.owns e)

/-- The id map leads the entity to a handle that reads no record. -/
def Station.leadsToDead (s : Station F) (e : EntityId) : Bool :=
  (s.byId.lookup e).any fun h => (s.get h).isNone

/-- Whether the id map of a station of the collection leads the entity to a handle that reads no
record. -/
def StationSet.leadsToDead (set : StationSet F) (id : StationId) (e : EntityId) : Bool :=
  (set.get id).any (·.leadsToDead e)

/-- The owner epoch an entity carries at a station. -/
def StationSet.epochAt (set : StationSet F) (id : StationId) (e : EntityId) : Option OwnerEpoch :=
  (set.get id).bind fun s => (s.getById e).map (·.role.ownerEpoch)

/-! ## The cases of a migration -/

section Cases

variable {set : StationSet F} {e : EntityId} {source target : StationId} {s t : Station F}

/-- The target after the epoch reservation. -/
def Station.reserved (t : Station F) : Station F := t.nextOwnerEpoch.2

lemma Station.StoreInv.reserved (inv : t.StoreInv) : t.reserved.StoreInv :=
  storeInv_congr inv rfl rfl rfl rfl

lemma migrateEntity_same (ttl : UInt64) : migrateEntity set e source source ttl
    = some (.error (.sameSourceAndTarget source), set) := by
  simp [migrateEntity]

lemma migrateEntity_missing_source (ttl : UInt64) (hne : source ≠ target)
    (hs : set.get source = none) :
    migrateEntity set e source target ttl = some (.error (.missingSource source), set) := by
  simp [migrateEntity, hne, hs]

lemma migrateEntity_missing_target (ttl : UInt64) (hne : source ≠ target)
    (hs : set.get source = some s) (ht : set.get target = none) :
    migrateEntity set e source target ttl = some (.error (.missingTarget target), set) := by
  simp [migrateEntity, hne, hs, ht]

/-- The source does not own the entity: preparing fails, after the epoch was reserved. -/
theorem migrateEntity_not_owner (ttl : UInt64) (hne : source ≠ target)
    (hs : set.get source = some s) (ht : set.get target = some t) (howns : s.owns e = false) :
    ∃ error, migrateEntity set e source target ttl
      = some (.error (.station error), set.put target t.reserved) := by
  have hpair := StationSet.getPairMut_of_get hne hs ht
  have hprepare : ∀ epoch expires, ∃ error,
      s.prepareOutgoingHandoff e target epoch expires = .error error := by
    intro epoch expires
    cases hp : s.prepareOutgoingHandoff e target epoch expires with
    | error error => exact ⟨error, rfl⟩
    | ok transfer =>
        obtain ⟨_, r, hr, how, _⟩ := Station.prepareOutgoingHandoff_eq_ok.mp hp
        rw [Station.owns_eq_true.mpr ⟨r, hr, how⟩] at howns
        exact absurd howns (by simp)
  obtain ⟨error, herror⟩ := hprepare t.nextOwnerEpoch.1 ⟨s.tick.get.saturatingAdd ttl⟩
  refine ⟨error, ?_⟩
  simp only [migrateEntity, hne, hs, ht, hpair, herror, Option.isNone_some, if_false,
    Bool.false_eq_true]
  rfl

/-- What an owning source prepares. -/
lemma Station.prepareOutgoingHandoff_of_owned {r : EntityRecord F} (hr : s.getById e = some r)
    (how : r.isOwned = true) (htarget : target ≠ s.config.stationId) (epoch : OwnerEpoch)
    (expires : Tick) :
    ∃ transfer, s.prepareOutgoingHandoff e target epoch expires = .ok transfer
      ∧ transfer.entityId = e ∧ transfer.sourceStation = s.config.stationId
      ∧ transfer.targetStation = target ∧ transfer.targetOwnerEpoch = epoch
      ∧ transfer.entity = r :=
  ⟨_, Station.prepareOutgoingHandoff_eq_ok.mpr ⟨htarget, r, hr, how, rfl⟩, rfl, rfl, rfl, rfl, rfl⟩

/-- Led to a handle that reads nothing, the prewarm does nothing and the commit after it fails. -/
lemma Station.prewarm_commit_dead {transfer : HandoffTransfer F}
    (htarget : transfer.targetStation = t.config.stationId)
    (hdead : t.leadsToDead transfer.entityId = true) :
    (∃ h, t.prewarmHandoffGhost transfer = (.ok h, t))
      ∧ ∃ error, t.commitIncomingHandoff transfer = (.error error, t) := by
  obtain ⟨h, hlook, hnone⟩ := (Option.any_eq_true _ _).mp hdead
  have hget : t.get h = none := Option.isNone_iff_eq_none.mp hnone
  refine ⟨⟨h, ?_⟩, .missingEntityHandle h, ?_⟩
  · simp [Station.prewarmHandoffGhost, Station.upsertGhost, htarget, hlook, hget]
  · simp [Station.commitIncomingHandoff, Station.handleById, htarget, hlook, hget]

/-- Over a record that the target does not own, the incoming commit takes effect. -/
lemma Station.commitIncomingHandoff_of_ghost {transfer : HandoffTransfer F} {h : EntityHandle}
    {record : EntityRecord F} (htarget : transfer.targetStation = t.config.stationId)
    (hlook : t.byId.lookup transfer.entityId = some h) (hget : t.get h = some record)
    (hghost : record.isOwned = false) :
    ∃ h' t', t.commitIncomingHandoff transfer = (.ok h', t') := by
  rcases t.commitIncomingHandoff_cases transfer with
    ⟨_, _, heq⟩ | ⟨_, _, _, _, _, _, heq⟩ | ⟨_, _, heq⟩
  · simp [Station.commitIncomingHandoff, Station.handleById, htarget, hlook, hget, hghost] at heq
  · exact ⟨_, _, heq⟩
  · exact ⟨_, _, heq⟩

/-- Otherwise the prewarm leaves a ghost, over which the commit takes effect: whatever role the
target held before. -/
lemma Station.prewarm_commit_live {transfer : HandoffTransfer F} (hwf : t.slots.Wf)
    (htarget : transfer.targetStation = t.config.stationId)
    (hlive : t.leadsToDead transfer.entityId = false) :
    ∃ h t', t.prewarmHandoffGhost transfer = (.ok h, t')
      ∧ ∃ h' t'', t'.commitIncomingHandoff transfer = (.ok h', t'') := by
  cases hlook : t.byId.lookup transfer.entityId with
  | none =>
      let ghost := fun handle : EntityHandle =>
        EntityRecord.ghost transfer.entityId handle transfer.entity.position
          transfer.entity.bounds transfer.entity.policyId transfer.sourceStation
          transfer.sourceOwnerEpoch transfer.sourceGhostExpiresAt
      have hprewarm : t.prewarmHandoffGhost transfer
          = (.ok (t.insertNew ghost).1, (t.insertNew ghost).2) := by
        simp [Station.prewarmHandoffGhost, Station.upsertGhost, htarget, hlook, ghost]
      have hlook' : (t.insertNew ghost).2.byId.lookup transfer.entityId
          = some (t.insertNew ghost).1 := by
        simp only [Station.insertNew, Station.insertAllocated]
        exact (Finmap.lookup_insert_eq ..).trans (if_pos rfl)
      have hget : (t.insertNew ghost).2.get (t.insertNew ghost).1
          = some (ghost (t.insertNew ghost).1) := by
        rw [(Station.allocated_of_wf hwf).get_insertNew, if_pos rfl]
      exact ⟨_, _, hprewarm, Station.commitIncomingHandoff_of_ghost
        (htarget.trans (congrArg _ (Station.config_insertNew t).symm)) hlook' hget rfl⟩
  | some h =>
      rw [Station.leadsToDead, hlook, Option.any_some, Option.isNone_eq_false_iff,
        Option.isSome_iff_exists] at hlive
      obtain ⟨old, hget⟩ := hlive
      let ghost : EntityRecord F := { old with
        position := transfer.entity.position
        bounds := transfer.entity.bounds
        policyId := transfer.entity.policyId
        role := .ghost transfer.sourceStation transfer.sourceOwnerEpoch
          transfer.sourceGhostExpiresAt
        dirty := old.dirty.insert .transform }
      have hprewarm : t.prewarmHandoffGhost transfer = (.ok h, t.writeRecord h ghost) := by
        simp [Station.prewarmHandoffGhost, Station.upsertGhost, htarget, hlook, hget, ghost]
      have hget' : (t.writeRecord h ghost).get h = some ghost := by
        rw [Station.get_writeRecord hget, if_pos rfl]
      exact ⟨_, _, hprewarm,
        Station.commitIncomingHandoff_of_ghost (t := t.writeRecord h ghost) htarget hlook hget' rfl⟩

/-- The source owns the entity and the target's id map leads it to a handle that reads nothing: the
incoming commit fails, after the epoch was reserved. -/
theorem migrateEntity_dead (ttl : UInt64) (hset : set.Coherent) (hne : source ≠ target)
    (hs : set.get source = some s) (ht : set.get target = some t) (howns : s.owns e = true)
    (hdead : t.leadsToDead e = true) :
    ∃ error, migrateEntity set e source target ttl
      = some (.error (.station error), set.put target t.reserved) := by
  obtain ⟨hsid, _⟩ := hset.get_eq_some hs
  obtain ⟨htid, _⟩ := hset.get_eq_some ht
  have hpair := StationSet.getPairMut_of_get hne hs ht
  obtain ⟨r, hr, how⟩ := Station.owns_eq_true.mp howns
  obtain ⟨transfer, htransfer, rfl, -, htarget, -, -⟩ :=
    Station.prepareOutgoingHandoff_of_owned hr how (hsid ▸ hne.symm) t.nextOwnerEpoch.1
      ⟨s.tick.get.saturatingAdd ttl⟩
  obtain ⟨⟨h, hprewarm⟩, error, hincoming⟩ := Station.prewarm_commit_dead (t := t.reserved)
    (htarget.trans htid.symm) hdead
  rw [Station.reserved] at hprewarm hincoming
  refine ⟨error, ?_⟩
  simp only [migrateEntity, hne, hs, ht, hpair, htransfer, hprewarm, hincoming,
    Option.isNone_some, if_false, Bool.false_eq_true]
  rfl

/-- The source owns the entity and the target's id map leads it to no such handle: the call
succeeds. -/
theorem migrateEntity_live (ttl : UInt64) (hset : set.Coherent) (hne : source ≠ target)
    (hs : set.get source = some s) (ht : set.get target = some t) (hwf : t.slots.Wf)
    (howns : s.owns e = true) (hlive : t.leadsToDead e = false) :
    ∃ report set', migrateEntity set e source target ttl = some (.ok report, set') := by
  obtain ⟨hsid, _⟩ := hset.get_eq_some hs
  obtain ⟨htid, _⟩ := hset.get_eq_some ht
  have hpair := StationSet.getPairMut_of_get hne hs ht
  obtain ⟨r, hr, how⟩ := Station.owns_eq_true.mp howns
  obtain ⟨handle, hlook, hget⟩ := Station.getById_eq_some.mp hr
  obtain ⟨transfer, htransfer, rfl, hsource, htarget, -, -⟩ :=
    Station.prepareOutgoingHandoff_of_owned hr how (hsid ▸ hne.symm) t.nextOwnerEpoch.1
      ⟨s.tick.get.saturatingAdd ttl⟩
  obtain ⟨h, t', hprewarm, h', t'', hincoming⟩ := Station.prewarm_commit_live (t := t.reserved)
    hwf (htarget.trans htid.symm) hlive
  have houtgoing : s.commitOutgoingHandoff transfer
      = (.ok handle, s.writeRecord handle (Station.outgoingRecord transfer r)) := by
    simp [Station.commitOutgoingHandoff, Station.handleById, Station.outgoingRecord, hsource,
      hlook, hget, how]
  rw [Station.reserved] at hprewarm
  simp only [migrateEntity, hne, hs, ht, hpair, htransfer, hprewarm, hincoming, houtgoing,
    Option.isNone_some, if_false, Bool.false_eq_true]
  exact ⟨_, _, rfl⟩

/-- The source owns the entity: the call succeeds, the handles of the report lead to the two
records, and no handle of the two stations becomes stale. -/
theorem migrateEntity_handles (ttl : UInt64) (hset : set.Valid) (hne : source ≠ target)
    (hs : set.get source = some s) (ht : set.get target = some t) (howns : s.owns e = true) :
    ∃ report set' s' t' r, migrateEntity set e source target ttl = some (.ok report, set')
      ∧ set'.Valid ∧ set'.stations.map Station.id = set.stations.map Station.id
      ∧ (∀ id, set'.get id = if id = source then some s' else if id = target then some t'
          else set.get id)
      ∧ s.getById e = some r ∧ report.transfer.entity = r
      ∧ report.transfer.targetStation = target
      ∧ report.transfer.targetOwnerEpoch = t.nextOwnerEpoch.1
      ∧ Station.Updates s s' e (Station.outgoingRecord report.transfer r)
      ∧ s'.ownerEpoch = s.ownerEpoch
      ∧ Station.Updates t t' e (Station.incomingRecord report.transfer report.targetOwner)
      ∧ t'.ownerEpoch = t.nextOwnerEpoch.1
      ∧ s'.get report.sourceGhost = some (Station.outgoingRecord report.transfer r)
      ∧ t'.get report.targetOwner
          = some (Station.incomingRecord report.transfer report.targetOwner)
      ∧ s.KeepsHandles s' ∧ t.KeepsHandles t' := by
  obtain ⟨hsinv, hsid, _⟩ := hset.get_eq_some hs
  obtain ⟨htinv, htid, _⟩ := hset.get_eq_some ht
  have hpair := StationSet.getPairMut_of_get hne hs ht
  obtain ⟨r, hr, how⟩ := Station.owns_eq_true.mp howns
  -- the source prepares
  obtain ⟨transfer, htransfer, hte, hts, htarget, htepoch, hrecord⟩ :=
    Station.prepareOutgoingHandoff_of_owned hr how (hsid ▸ hne.symm) t.nextOwnerEpoch.1
      ⟨s.tick.get.saturatingAdd ttl⟩
  have hentity : transfer.entity.id = transfer.entityId := by
    rw [hrecord, hte]
    exact hsinv.id_of_getById hr
  have htt : transfer.targetStation = t.reserved.config.stationId := htarget.trans htid.symm
  -- the target prewarms a ghost, which the incoming commit then replaces
  obtain ⟨h₁, r₁, t₁, hprewarm, hup₁, hrole₁, _⟩ :=
    Station.prewarmHandoffGhost_spec htinv.reserved htt
  have hghost : t₁.owns transfer.entityId = false := by
    rw [hup₁.owns, if_pos rfl, EntityRecord.isOwned, hrole₁]
    rfl
  rcases Station.commitIncomingHandoff_spec hup₁.inv (by rw [htt, hup₁.config]) hentity with
    ⟨hfalse, _⟩ | ⟨_, h₂, t₂, hincoming, hup₂, hepoch₂⟩
  · rw [hghost] at hfalse
    exact absurd hfalse (by simp)
  -- the source still owns the entity and commits
  rcases Station.commitOutgoingHandoff_spec hsinv hts with
    ⟨hfalse, _⟩ | ⟨h₃, r₃, s₃, hr₃, _, houtgoing, hup₃, hepoch₃⟩
  · rw [hte, howns] at hfalse
    exact absurd hfalse (by simp)
  rw [hte] at hr₃ hup₁ hup₂ hup₃
  obtain rfl : r₃ = r := Option.some.inj (hr₃.symm.trans hr)
  have hup : Station.Updates t t₂ e (Station.incomingRecord transfer h₂) :=
    Station.Updates.trans ⟨hup₁.inv, hup₁.config, hup₁.tick, hup₁.getById⟩ hup₂
  have hvalid₂ := hset.put ht hup.config hup.inv
  have hget₂ := hset.get_put ht hup.config
  have hs₂ : (set.put target t₂).get source = some s := by rw [hget₂, if_neg hne, hs]
  refine ⟨⟨transfer, h₃, h₂⟩, (set.put target t₂).put source s₃, s₃, t₂, r₃, ?_,
    hvalid₂.put hs₂ hup₃.config hup₃.inv, ?_, ?_, hr, hrecord, htarget, htepoch, hup₃,
    hepoch₃, hup, hepoch₂.trans htepoch, ?_, ?_, ?_, ?_⟩
  · have hprewarm' : (t.nextOwnerEpoch.2).prewarmHandoffGhost transfer = (.ok h₁, t₁) := hprewarm
    simp only [migrateEntity, hne, hs, ht, hpair, htransfer, hprewarm', hincoming, houtgoing,
      Option.isNone_some, if_false, Bool.false_eq_true]
  · rw [hvalid₂.map_id_put hs₂ hup₃.config, hset.map_id_put ht hup.config]
  · intro id
    rw [hvalid₂.get_put hs₂ hup₃.config, hget₂]
  · exact hup₃.get_of_lookup (hte ▸ Station.lookup_of_commitOutgoingHandoff houtgoing)
  · exact hup.get_of_handle rfl
  · exact Station.keepsHandles_commitOutgoingHandoff houtgoing
  · have hreserved : t.KeepsHandles t.reserved :=
      Station.keepsHandles_of_placement (Station.placement_congr rfl rfl)
    have hprewarmed :=
      hreserved.trans (Station.keepsHandles_prewarmHandoffGhost htinv.reserved.wf_slots hprewarm)
    exact hprewarmed.trans (Station.keepsHandles_commitIncomingHandoff hup₁.inv.wf_slots hincoming)

/-- The source owns the entity: the call succeeds, whatever the target held before.  The target
stores the record of the source under its next epoch, the source keeps a ghost, and nothing else
changes. -/
theorem migrateEntity_spec (ttl : UInt64) (hset : set.Valid) (hne : source ≠ target)
    (hs : set.get source = some s) (ht : set.get target = some t) (howns : s.owns e = true) :
    ∃ report set' s' t' r h, migrateEntity set e source target ttl = some (.ok report, set')
      ∧ set'.Valid ∧ set'.stations.map Station.id = set.stations.map Station.id
      ∧ (∀ id, set'.get id = if id = source then some s' else if id = target then some t'
          else set.get id)
      ∧ s.getById e = some r ∧ report.transfer.entity = r
      ∧ report.transfer.targetStation = target
      ∧ report.transfer.targetOwnerEpoch = t.nextOwnerEpoch.1
      ∧ Station.Updates s s' e (Station.outgoingRecord report.transfer r)
      ∧ s'.ownerEpoch = s.ownerEpoch
      ∧ Station.Updates t t' e (Station.incomingRecord report.transfer h)
      ∧ t'.ownerEpoch = t.nextOwnerEpoch.1 := by
  obtain ⟨report, set', s', t', r, hcall, hvalid, hids, hget, hr, hentity, hstation, hepoch,
    hsource, hsepoch, htarget, htepoch, -⟩ := migrateEntity_handles ttl hset hne hs ht howns
  exact ⟨report, set', s', t', r, report.targetOwner, hcall, hvalid, hids, hget, hr, hentity,
    hstation, hepoch, hsource, hsepoch, htarget, htepoch⟩

/-- What the two stations of a successful migration end up with, as far as authority goes. -/
theorem migrateEntity_owner (ttl : UInt64) (hset : set.Valid) (hne : source ≠ target)
    (hs : set.get source = some s) (ht : set.get target = some t) (howns : s.owns e = true) :
    ∃ report set' s' t' r, migrateEntity set e source target ttl = some (.ok report, set')
      ∧ set'.Valid
      ∧ (∀ id, set'.get id = if id = source then some s' else if id = target then some t'
          else set.get id)
      ∧ s'.config = s.config ∧ s'.ownerEpoch = s.ownerEpoch ∧ s'.owns e = false
      ∧ t'.config = t.config ∧ t'.ownerEpoch = t.nextOwnerEpoch.1
      ∧ t'.getById e = some r ∧ r.role = .owned t.nextOwnerEpoch.1 := by
  obtain ⟨report, set', s', t', r, h, hcall, hvalid, _, hget, _, _, _, hepoch, hsource, hsepoch,
    htarget, htepoch⟩ := migrateEntity_spec ttl hset hne hs ht howns
  refine ⟨report, set', s', t', Station.incomingRecord report.transfer h, hcall, hvalid, hget,
    hsource.config, hsepoch, ?_, htarget.config, htepoch, ?_, ?_⟩
  · rw [hsource.owns, if_pos rfl]
    rfl
  · rw [htarget.getById, if_pos rfl]
  · rw [Station.incomingRecord, hepoch]

/-- A migration succeeds only between two existing stations, from one that owns the entity. -/
lemma migrateEntity_ok {ttl : UInt64} {report : EntityMigrationReport F}
    {set' : StationSet F}
    (hcall : migrateEntity set e source target ttl = some (.ok report, set')) :
    source ≠ target ∧ ∃ s t, set.get source = some s ∧ set.get target = some t
      ∧ s.owns e = true := by
  by_cases hne : source = target
  · rw [← hne, migrateEntity_same] at hcall
    simp at hcall
  refine ⟨hne, ?_⟩
  cases hs : set.get source with
  | none =>
      rw [migrateEntity_missing_source _ hne hs] at hcall
      simp at hcall
  | some s =>
      cases ht : set.get target with
      | none =>
          rw [migrateEntity_missing_target _ hne hs ht] at hcall
          simp at hcall
      | some t =>
          cases howns : s.owns e with
          | true => exact ⟨s, t, rfl, rfl, howns⟩
          | false =>
              obtain ⟨error, heq⟩ := migrateEntity_not_owner ttl hne hs ht howns
              rw [heq] at hcall
              simp at hcall

/-- The `expect` on the pair lookup never fails: two stations that were found are found as a
pair. -/
theorem migrateEntity_ne_none (set : StationSet F) (e : EntityId) (source target : StationId)
    (ttl : UInt64) : migrateEntity set e source target ttl ≠ none := by
  simp only [migrateEntity]
  split_ifs with hsame hs ht
  · exact Option.some_ne_none _
  · exact Option.some_ne_none _
  · exact Option.some_ne_none _
  · rw [Option.isNone_iff_eq_none, ← ne_eq, Option.ne_none_iff_exists'] at hs ht
    obtain ⟨s, hs⟩ := hs
    obtain ⟨t, ht⟩ := ht
    rw [StationSet.getPairMut_of_get hsame hs ht]
    dsimp only
    -- every way the handoff ends is a result
    split
    · exact Option.some_ne_none _
    · split
      · exact Option.some_ne_none _
      · split
        · exact Option.some_ne_none _
        · split
          · exact Option.some_ne_none _
          · exact Option.some_ne_none _

end Cases

/-! ## Atomicity -/

/-- A failed call leaves every station as it was, and a target that already owns the entity makes
the call fail with its record unchanged. -/
def MigrationAtomic (set : StationSet F) (e : EntityId) (source target : StationId)
    (ttl : UInt64) : Prop :=
  ∀ result set', migrateEntity set e source target ttl = some (result, set') →
    ((∃ error, result = .error error) → set'.stations = set.stations) ∧
    (set.owns target e = true →
      (∃ error, result = .error error) ∧
        (set'.get target).bind (·.getById e) = (set.get target).bind (·.getById e))

/-- The stations of the call are equal or missing, or exactly the source owns the entity and the
target's id map leads it to no removed record, or the call is bound to fail after the reservation
and the target's epoch counter cannot advance. -/
def MigratesCleanly (set : StationSet F) (e : EntityId) (source target : StationId) : Prop :=
  source = target ∨ (set.get source).isNone ∨ (set.get target).isNone
    ∨ (set.owns source e = true ∧ set.owns target e = false ∧ set.leadsToDead target e = false)
    ∨ ((set.owns source e = false ∨ set.leadsToDead target e = true)
      ∧ ∃ t ∈ set.get target, t.ownerEpoch.get = UInt64.maxValue)

instance (set : StationSet F) (e : EntityId) (source target : StationId) :
    Decidable (MigratesCleanly set e source target) :=
  inferInstanceAs (Decidable (_ ∨ _ ∨ _ ∨ _ ∨ _))

section Atomic

variable {set : StationSet F} {e : EntityId} {source target : StationId} {ttl : UInt64}
  {s t : Station F}

/-- A call that fails and leaves the collection alone is atomic. -/
lemma MigrationAtomic.of_unchanged {error : EntityMigrationError}
    (h : migrateEntity set e source target ttl = some (.error error, set)) :
    MigrationAtomic set e source target ttl := by
  intro result set' hcall
  rw [h, Option.some.injEq, Prod.mk.injEq] at hcall
  obtain ⟨rfl, rfl⟩ := hcall
  exact ⟨fun _ => rfl, fun _ => ⟨⟨error, rfl⟩, rfl⟩⟩

/-- Reserving an epoch changes the station unless the counter is at its maximum. -/
lemma Station.reserved_eq_self : t.reserved = t ↔ t.ownerEpoch.get = UInt64.maxValue := by
  rw [← UInt64.saturatingAdd_one_eq_self]
  constructor
  · intro h
    exact congrArg (fun t => t.ownerEpoch.get) h
  · intro h
    obtain ⟨config, tick, ⟨epoch⟩, records, generations, free, byId⟩ := t
    simp only [Station.reserved, Station.nextOwnerEpoch]
    rw [h]

/-- A call that fails after the reservation is atomic only if nothing was reserved. -/
lemma migrationAtomic_iff_of_reserved (hset : set.Coherent) (ht : set.get target = some t)
    {error : EntityMigrationError}
    (hcall : migrateEntity set e source target ttl
      = some (.error error, set.put target t.reserved)) :
    MigrationAtomic set e source target ttl ↔ t.ownerEpoch.get = UInt64.maxValue := by
  rw [← Station.reserved_eq_self]
  constructor
  · intro hatomic
    have hstations := (hatomic _ _ hcall).1 ⟨_, rfl⟩
    obtain ⟨index, _, hindex, hput⟩ := hset.put_eq ht t.reserved
    rw [hput] at hstations
    have hread := congrArg (·[index]?) hstations
    simp only [hindex, List.getElem?_set_self (List.getElem?_eq_some_iff.mp hindex).1] at hread
    exact Option.some.inj hread
  · intro hself
    rw [hself, hset.put_self ht] at hcall
    exact MigrationAtomic.of_unchanged hcall

/-- A call that succeeds is atomic only if the target did not own the entity. -/
lemma migrationAtomic_iff_of_ok (ht : set.get target = some t)
    {report : EntityMigrationReport F} {set' : StationSet F}
    (hcall : migrateEntity set e source target ttl = some (.ok report, set')) :
    MigrationAtomic set e source target ttl ↔ t.owns e = false := by
  constructor
  · intro hatomic
    cases hto : t.owns e with
    | false => rfl
    | true =>
        have howner : set.owns target e = true := by rw [StationSet.owns, ht]; exact hto
        obtain ⟨⟨error, herror⟩, _⟩ := (hatomic _ _ hcall).2 howner
        exact absurd herror (by simp)
  · intro hto result set₂ hcall₂
    rw [hcall, Option.some.injEq, Prod.mk.injEq] at hcall₂
    obtain ⟨rfl, rfl⟩ := hcall₂
    refine ⟨fun ⟨error, herror⟩ => absurd herror (by simp), fun howner => ?_⟩
    rw [StationSet.owns, ht, Option.any_some, hto] at howner
    exact absurd howner (by simp)

/-- **Atomicity.**  A migration is atomic, and respects a target that already owns the entity,
exactly when it migrates cleanly: whatever records the stations were given. -/
theorem migrateEntity_atomic_iff (hset : set.Coherent) (hslots : ∀ s ∈ set.stations, s.slots.Wf)
    (e : EntityId) (source target : StationId) (ttl : UInt64) :
    MigrationAtomic set e source target ttl ↔ MigratesCleanly set e source target := by
  by_cases hne : source = target
  · subst hne
    exact iff_of_true (.of_unchanged (migrateEntity_same ttl)) (Or.inl rfl)
  cases hs : set.get source with
  | none =>
      exact iff_of_true (.of_unchanged (migrateEntity_missing_source _ hne hs))
        (Or.inr (Or.inl (by simp [hs])))
  | some s =>
      cases ht : set.get target with
      | none =>
          exact iff_of_true (.of_unchanged (migrateEntity_missing_target _ hne hs ht))
            (Or.inr (Or.inr (Or.inl (by simp [ht]))))
      | some t =>
          cases howns : s.owns e with
          | false =>
              obtain ⟨error, hcall⟩ := migrateEntity_not_owner ttl hne hs ht howns
              rw [migrationAtomic_iff_of_reserved hset ht hcall]
              simp [MigratesCleanly, hne, hs, ht, StationSet.owns, howns]
          | true =>
              cases hdead : t.leadsToDead e with
              | true =>
                  obtain ⟨error, hcall⟩ := migrateEntity_dead ttl hset hne hs ht howns hdead
                  rw [migrationAtomic_iff_of_reserved hset ht hcall]
                  simp [MigratesCleanly, hne, hs, ht, StationSet.owns, StationSet.leadsToDead,
                    howns, hdead]
              | false =>
                  obtain ⟨_, index, _, hindex⟩ := hset.get_eq_some ht
                  have hwf := hslots t (List.mem_of_getElem? hindex)
                  obtain ⟨report, set', hcall⟩ :=
                    migrateEntity_live ttl hset hne hs ht hwf howns hdead
                  rw [migrationAtomic_iff_of_ok ht hcall]
                  simp [MigratesCleanly, hne, hs, ht, StationSet.owns, StationSet.leadsToDead,
                    howns, hdead]

end Atomic

section NotAtomic

/-- Station 1 owns entity 7 and station 2 is empty. -/
def ownerAndEmpty : StationSet ℕ :=
  (StationSet.new.push ((Station.new (configWithStation 1)).spawnOwned ⟨7⟩ ⟨0, 0, 0⟩ .point ⟨0⟩).2).push
    (.new (configWithStation 2))

/-- Both stations own entity 7. -/
def bothOwners : StationSet ℕ :=
  (StationSet.new.push ((Station.new (configWithStation 1)).spawnOwned ⟨7⟩ ⟨0, 0, 0⟩ .point ⟨0⟩).2).push
    ((Station.new (configWithStation 2)).spawnOwned ⟨7⟩ ⟨1, 1, 1⟩ .point ⟨0⟩).2

lemma valid_ownerAndEmpty : ownerAndEmpty.Valid :=
  (StationSet.valid_new.push ((Station.storeInv_new _).spawnOwned _ _ _ _)).push
    (Station.storeInv_new _)

theorem migrateEntity_atomic_iff_ownerAndEmpty :
    MigrationAtomic ownerAndEmpty ⟨7⟩ ⟨1⟩ ⟨2⟩ 10 :=
  (migrateEntity_atomic_iff valid_ownerAndEmpty.coherent
    (fun s hs => (valid_ownerAndEmpty.store s hs).wf_slots) ⟨7⟩ ⟨1⟩ ⟨2⟩ 10).mpr (by decide)

/-- Migrating an entity the source does not hold fails and leaves the target's epoch counter
advanced; migrating to a target that already owns the entity succeeds. -/
theorem migrateEntity_not_atomic :
    ¬ MigrationAtomic ownerAndEmpty ⟨8⟩ ⟨1⟩ ⟨2⟩ 10 ∧ ¬ MigrationAtomic bothOwners ⟨7⟩ ⟨1⟩ ⟨2⟩ 10 := by
  constructor
  · intro hatomic
    have hstations := (hatomic _ _ rfl).1 ⟨_, rfl⟩
    exact absurd (congrArg (List.map (·.ownerEpoch)) hstations) (by decide)
  · intro hatomic
    obtain ⟨⟨error, herror⟩, _⟩ := (hatomic _ _ rfl).2 (by decide)
    exact absurd herror (by simp)

end NotAtomic

/-! ## Epochs along a chain of migrations -/

/-- A collection and the station at which the travelling entity is owned. -/
structure Journey (F : Type) where
  set : StationSet F
  current : StationId

/-- One migration of the travelling entity. -/
structure Hop where
  target : StationId
  ghostTtlTicks : UInt64

namespace Journey

variable (e : EntityId)

/-- Migrates the entity to the hop's target; a failed call leaves the journey where it is. -/
def step (j : Journey F) (hop : Hop) : Journey F :=
  match migrateEntity j.set e j.current hop.target hop.ghostTtlTicks with
  | some (.ok _, set) => ⟨set, hop.target⟩
  | _ => j

/-- The migration succeeds. -/
def Succeeds (j : Journey F) (hop : Hop) : Prop :=
  (migrateEntity j.set e j.current hop.target hop.ghostTtlTicks).any (·.1.isOk) = true

/-- The epoch the entity carries where it is owned. -/
def epoch (j : Journey F) : Option OwnerEpoch := j.set.epochAt j.current e

/-- The epochs the entity carries along the journey. -/
def epochs : Journey F → List Hop → List (Option OwnerEpoch)
  | j, [] => [j.epoch e]
  | j, hop :: hops => j.epoch e :: epochs (j.step e hop) hops

/-- The target's epoch counter has reached the entity's epoch, which is not the largest. -/
def TargetNotBehind (j : Journey F) (hop : Hop) : Prop :=
  ∃ c ∈ j.epoch e, c.get < UInt64.maxValue ∧ ∃ t ∈ j.set.get hop.target, c ≤ t.ownerEpoch

end Journey

/-- Both epochs exist and the second is greater. -/
def EpochLt (a b : Option OwnerEpoch) : Prop := ∃ x ∈ a, ∃ y ∈ b, x < y

instance : DecidableRel EpochLt := fun a b =>
  inferInstanceAs (Decidable (∃ x ∈ a, ∃ y ∈ b, x < y))

instance : IsTrans (Option OwnerEpoch) EpochLt where
  trans := by
    rintro a b c ⟨x, hx, y, hy, hxy⟩ ⟨y', hy', z, hz, hyz⟩
    obtain rfl : y = y' := Option.mem_unique hy hy'
    exact ⟨x, hx, z, hz, lt_trans hxy hyz⟩

namespace Journey

variable {e : EntityId} {j : Journey F} {hop : Hop}

instance (j : Journey F) (hop : Hop) : Decidable (Succeeds e j hop) :=
  inferInstanceAs (Decidable (_ = true))

instance (j : Journey F) (hop : Hop) : Decidable (TargetNotBehind e j hop) :=
  inferInstanceAs (Decidable (∃ c ∈ j.epoch e, c.get < UInt64.maxValue ∧
    ∃ t ∈ j.set.get hop.target, c ≤ t.ownerEpoch))

/-- A migration succeeds only between two existing stations, from one that owns the entity. -/
lemma Succeeds.stations (h : Succeeds e j hop) :
    j.current ≠ hop.target ∧ ∃ s t, j.set.get j.current = some s ∧ j.set.get hop.target = some t
      ∧ s.owns e = true := by
  obtain ⟨⟨result, set'⟩, hcall, hok⟩ := (Option.any_eq_true _ _).mp h
  cases result with
  | error error => simp [Except.isOk, Except.toBool] at hok
  | ok report => exact migrateEntity_ok hcall

/-- A successful migration gives the entity the next epoch of the target's own counter. -/
lemma Succeeds.epoch_step (hset : j.set.Valid) (h : Succeeds e j hop) :
    (j.step e hop).set.Valid ∧ ∃ t, j.set.get hop.target = some t
      ∧ (j.step e hop).epoch e = some ⟨t.ownerEpoch.get.saturatingAdd 1⟩ := by
  obtain ⟨hne, s, t, hs, ht, howns⟩ := h.stations
  obtain ⟨report, set', s', t', r, hcall, hvalid, hget, _, _, _, _, _, hr, hrole⟩ :=
    migrateEntity_owner hop.ghostTtlTicks hset hne hs ht howns
  have hstep : j.step e hop = ⟨set', hop.target⟩ := by rw [step, hcall]
  refine ⟨by rw [hstep]; exact hvalid, t, ht, ?_⟩
  rw [hstep, epoch, StationSet.epochAt, hget, if_neg hne.symm, if_pos rfl, Option.bind_some, hr,
    Option.map_some, hrole]
  rfl

/-- **The step lemma.**  A successful migration raises the epoch exactly when the target is not
behind. -/
lemma Succeeds.epochLt_iff (hset : j.set.Valid) (h : Succeeds e j hop) :
    EpochLt (j.epoch e) ((j.step e hop).epoch e) ↔ TargetNotBehind e j hop := by
  obtain ⟨_, t, ht, hepoch⟩ := h.epoch_step hset
  rw [EpochLt, TargetNotBehind, hepoch, ht]
  constructor
  · rintro ⟨c, hc, next, hnext, hlt⟩
    obtain rfl := Option.some.inj hnext
    obtain ⟨hle, hmax⟩ := UInt64.lt_saturatingAdd_one_iff.mp (TypedId.lt_iff_get_lt.mp hlt)
    exact ⟨c, hc, hmax, t, rfl, hle⟩
  · rintro ⟨c, hc, hmax, t', ht', hle⟩
    obtain rfl := Option.some.inj ht'
    exact ⟨c, hc, _, rfl, UInt64.lt_saturatingAdd_one_iff.mpr ⟨hle, hmax⟩⟩

lemma epochs_eq_cons (j : Journey F) (hops : List Hop) :
    ∃ rest, epochs e j hops = j.epoch e :: rest := by
  cases hops with
  | nil => exact ⟨[], rfl⟩
  | cons hop hops => exact ⟨_, rfl⟩

/-- **Monotone epochs.**  Along a chain of successful migrations the entity carries ever greater
epochs exactly when no target is behind the entity it receives. -/
theorem migrations_increase_epoch_iff (hset : j.set.Valid) {hops : List Hop}
    (hok : AllSteps (step e) (Succeeds e) j hops) :
    (epochs e j hops).Pairwise EpochLt ↔ AllSteps (step e) (TargetNotBehind e) j hops := by
  rw [← List.isChain_iff_pairwise]
  induction hops generalizing j with
  | nil => simp [epochs]
  | cons hop hops ih =>
      have hvalid := (hok.1.epoch_step hset).1
      obtain ⟨rest, hrest⟩ := epochs_eq_cons (e := e) (j.step e hop) hops
      have ih' := ih hvalid hok.2
      rw [hrest] at ih'
      rw [epochs, hrest, List.isChain_cons_cons, ih', hok.1.epochLt_iff hset, allSteps_cons]

/-- A first migration to an empty station raises the epoch. -/
theorem migrations_increase_epoch_once :
    (epochs ⟨7⟩ ⟨ownerAndEmpty, ⟨1⟩⟩ [⟨⟨2⟩, 10⟩]).Pairwise EpochLt :=
  (migrations_increase_epoch_iff valid_ownerAndEmpty (by decide)).mpr (by decide)

/-- An entity that returns to the station it left repeats the epoch it carried away from
there. -/
theorem returning_entity_repeats_epoch :
    ownerAndEmpty.Valid ∧
      AllSteps (step ⟨7⟩) (Succeeds ⟨7⟩) ⟨ownerAndEmpty, ⟨1⟩⟩ [⟨⟨2⟩, 10⟩, ⟨⟨1⟩, 10⟩] ∧
      epochs ⟨7⟩ ⟨ownerAndEmpty, ⟨1⟩⟩ [⟨⟨2⟩, 10⟩, ⟨⟨1⟩, 10⟩]
        = [some ⟨0⟩, some ⟨1⟩, some ⟨1⟩] ∧
      ¬ (epochs ⟨7⟩ ⟨ownerAndEmpty, ⟨1⟩⟩ [⟨⟨2⟩, 10⟩, ⟨⟨1⟩, 10⟩]).Pairwise EpochLt :=
  ⟨valid_ownerAndEmpty, by decide, by decide, by decide⟩

end Journey

end SectorSync
