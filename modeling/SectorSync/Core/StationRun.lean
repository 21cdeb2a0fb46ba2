import SectorSync.Base.Run
import SectorSync.Core.Handoff

/-!
# Runs of a station

The operations of a station as one step function, `perform`, with the reply or error of each; a
run may also replace the station by one restored from a snapshot.  `StoreSound` is what the four
structures of the store promise to a reader.  A run keeps it in all its states exactly when every
incoming commit that takes effect stores a record under the id it was checked under
(`StoresNamed`), as every commit of a transfer made by `prepareOutgoingHandoff` does:
`station_store_sound_iff`.
-/

namespace SectorSync

open Machine

variable {F : Type}

/-- What an operation returns when it succeeds. -/
inductive StationReply (F : Type) where
  | done
  | handle (handle : EntityHandle)
  | record (record : EntityRecord F)
  | transfer (transfer : HandoffTransfer F)
  | epoch (epoch : OwnerEpoch)

/-- The operations of a station. -/
inductive StationOp (F : Type) where
  | spawnOwned (id : EntityId) (position : Position3 F) (bounds : Bounds F) (policyId : PolicyId)
  | upsertGhost (id : EntityId) (position : Position3 F) (bounds : Bounds F)
      (policyId : PolicyId) (ownerStation : StationId) (ownerEpoch : OwnerEpoch)
      (expiresAt : Tick)
  | moveOwned (handle : EntityHandle) (position : Position3 F)
  | setTags (handle : EntityHandle) (tags : EntityTags)
  | clearDirty (handle : EntityHandle) (mask : DirtyMask)
  | remove (handle : EntityHandle)
  | removeById (id : EntityId)
  | nextOwnerEpoch
  | advanceTick
  | prepareOutgoingHandoff (entityId : EntityId) (targetStation : StationId)
      (targetOwnerEpoch : OwnerEpoch) (sourceGhostExpiresAt : Tick)
  | prewarmHandoffGhost (transfer : HandoffTransfer F)
  | commitIncomingHandoff (transfer : HandoffTransfer F)
  | commitOutgoingHandoff (transfer : HandoffTransfer F)

namespace Station

/-- The result of an operation as a reply. -/
def reply {α : Type} (f : α → StationReply F) (result : Except StationError α × Station F) :
    Except StationError (StationReply F) × Station F :=
  (result.1.map f, result.2)

/-- Runs one operation: its reply or error, and the station it leaves. -/
def perform (s : Station F) :
    StationOp F → Except StationError (StationReply F) × Station F
  | .spawnOwned id position bounds policyId =>
      reply .handle (s.spawnOwned id position bounds policyId)
  | .upsertGhost id position bounds policyId ownerStation ownerEpoch expiresAt =>
      let (handle, s') :=
        s.upsertGhost id position bounds policyId ownerStation ownerEpoch expiresAt
      (.ok (.handle handle), s')
  | .moveOwned handle position => reply (fun _ => .done) (s.moveOwned handle position)
  | .setTags handle tags => reply (fun _ => .done) (s.setTags handle tags)
  | .clearDirty handle mask => reply (fun _ => .done) (s.clearDirty handle mask)
  | .remove handle => reply .record (s.remove handle)
  | .removeById id => reply .record (s.removeById id)
  | .nextOwnerEpoch =>
      let (epoch, s') := s.nextOwnerEpoch
      (.ok (.epoch epoch), s')
  | .advanceTick => (.ok .done, s.advanceTick)
  | .prepareOutgoingHandoff entityId targetStation targetOwnerEpoch sourceGhostExpiresAt =>
      ((s.prepareOutgoingHandoff entityId targetStation targetOwnerEpoch
        sourceGhostExpiresAt).map .transfer, s)
  | .prewarmHandoffGhost transfer => reply .handle (s.prewarmHandoffGhost transfer)
  | .commitIncomingHandoff transfer => reply .handle (s.commitIncomingHandoff transfer)
  | .commitOutgoingHandoff transfer => reply .handle (s.commitOutgoingHandoff transfer)

/-- The station after one operation. -/
def step (s : Station F) (op : StationOp F) : Station F := (s.perform op).2

/-! ## The clock -/

/-- The configuration is the same and the tick has not gone back. -/
def ClockKept (s s' : Station F) : Prop := s'.config = s.config ∧ s.tick ≤ s'.tick

lemma clockKept_insertNew (s : Station F) (record : EntityHandle → EntityRecord F) :
    s.ClockKept (s.insertNew record).2 := by
  unfold insertNew allocateHandle
  cases s.free with
  | nil => exact ⟨rfl, le_rfl⟩
  | cons index free => exact ⟨rfl, le_rfl⟩

lemma clockKept_upsertGhost (s : Station F) (id : EntityId) (position : Position3 F)
    (bounds : Bounds F) (policyId : PolicyId) (ownerStation : StationId) (ownerEpoch : OwnerEpoch)
    (expiresAt : Tick) :
    s.ClockKept
      (s.upsertGhost id position bounds policyId ownerStation ownerEpoch expiresAt).2 := by
  unfold upsertGhost
  cases s.byId.lookup id with
  | none => exact s.clockKept_insertNew _
  | some handle =>
      cases hget : s.get handle with
      | none => simp only [hget]; exact ⟨rfl, le_rfl⟩
      | some record => simp only [hget]; exact ⟨rfl, le_rfl⟩

/-- **No operation turns the clock of a station back.** -/
lemma clockKept_step (s : Station F) (op : StationOp F) : s.ClockKept (s.step op) := by
  have hsame : s.ClockKept s := ⟨rfl, le_rfl⟩
  cases op with
  | spawnOwned id position bounds policyId =>
      simp only [step, perform, reply, spawnOwned]
      split_ifs
      · exact hsame
      · exact s.clockKept_insertNew fun handle =>
          .owned id handle position bounds policyId s.ownerEpoch
  | upsertGhost id position bounds policyId ownerStation ownerEpoch expiresAt =>
      exact s.clockKept_upsertGhost id position bounds policyId ownerStation ownerEpoch expiresAt
  | moveOwned handle position =>
      simp only [step, perform, reply, moveOwned]
      split
      · exact hsame
      · split_ifs <;> exact hsame
  | setTags handle tags =>
      simp only [step, perform, reply, setTags]
      split
      · exact hsame
      · split_ifs <;> exact hsame
  | clearDirty handle mask =>
      simp only [step, perform, reply, clearDirty]
      split <;> exact hsame
  | remove handle =>
      simp only [step, perform, reply, remove]
      split <;> exact hsame
  | removeById id =>
      simp only [step, perform, reply, removeById, remove]
      split
      · exact hsame
      · split <;> exact hsame
  | nextOwnerEpoch => exact hsame
  | advanceTick => exact ⟨rfl, UInt64.le_saturatingAdd s.tick.get 1⟩
  | prepareOutgoingHandoff => exact hsame
  | prewarmHandoffGhost transfer =>
      simp only [step, perform, reply, prewarmHandoffGhost]
      split_ifs
      · exact hsame
      · exact s.clockKept_upsertGhost _ _ _ _ _ _ _
  | commitIncomingHandoff transfer =>
      simp only [step, perform, reply, commitIncomingHandoff]
      split_ifs
      · exact hsame
      · split
        · split
          · exact hsame
          · split_ifs <;> exact hsame
        · exact s.clockKept_insertNew (incomingRecord transfer)
  | commitOutgoingHandoff transfer =>
      simp only [step, perform, reply, commitOutgoingHandoff]
      split_ifs
      · exact hsame
      · split
        · exact hsame
        · split
          · exact hsame
          · split_ifs <;> exact hsame

end Station

/-- The operations that can replace a station's store. -/
inductive StoreOp (F : Type) where
  | op (op : StationOp F)
  | restore (config : StationConfig) (snapshot : StationSnapshot F)

namespace Station

/-- Runs one operation; a failed restore leaves the station in place. -/
def performStore (s : Station F) :
    StoreOp F → Except StationError (StationReply F) × Station F
  | .op op => s.perform op
  | .restore config snapshot =>
      match restore config snapshot with
      | .ok restored => (.ok .done, restored)
      | .error error => (.error error, s)

/-- The station after one operation or restore. -/
def storeStep (s : Station F) (op : StoreOp F) : Station F := (s.performStore op).2

/-- What the store promises: the id map and the live slots determine each other, the free list
holds each empty slot once and no live one, ids are distinct, and the length counts the live
slots. -/
structure StoreSound (s : Station F) : Prop where
  byId_iff : ∀ id h, s.byId.lookup id = some h
    ↔ ∃ r, s.records[h.index]? = some (some r) ∧ r.id = id ∧ r.handle = h
  generation : ∀ id h, s.byId.lookup id = some h → s.generations[h.index]? = some h.generation
  free_of_empty : ∀ i, s.records[i]? = some none → s.free.count i = 1
  notMem_free : ∀ i r, s.records[i]? = some (some r) → i ∉ s.free
  ids_distinct : ∀ (i j : ℕ) (r r' : EntityRecord F), s.records[i]? = some (some r) →
    s.records[j]? = some (some r') → r.id = r'.id → i = j
  len_eq : s.len = s.records.countP Option.isSome

/-- Every id leads to a record of that id, and no id is held by two live slots. -/
structure IdsMatch (s : Station F) : Prop where
  id_of_getById : ∀ id r, s.getById id = some r → r.id = id
  ids_distinct : ∀ (i j : ℕ) (r r' : EntityRecord F), s.records[i]? = some (some r) →
    s.records[j]? = some (some r') → r.id = r'.id → i = j

/-! ## From the store invariant -/

section Sound

variable {s : Station F}

/-- A live slot is read by the handle its record carries. -/
lemma StoreInv.get_of_slot (inv : s.StoreInv) {i : ℕ} {r : EntityRecord F}
    (hrec : s.records[i]? = some (some r)) :
    r.handle.index = i ∧ s.get r.handle = some r ∧ s.byId.lookup r.id = some r.handle := by
  have hlt : i < s.generations.length := by
    rw [inv.lengths]
    exact (List.getElem?_eq_some_iff.mp hrec).1
  have hget : s.get ⟨i, s.generations[i]⟩ = some r :=
    get_eq_some.mpr ⟨List.getElem?_eq_getElem hlt, hrec⟩
  obtain ⟨hlook, hhandle⟩ := inv.id_of_get _ _ hget
  rw [hhandle]
  exact ⟨rfl, hget, hlook⟩

lemma StoreInv.ids_distinct (inv : s.StoreInv) {i j : ℕ} {r r' : EntityRecord F}
    (hi : s.records[i]? = some (some r)) (hj : s.records[j]? = some (some r'))
    (hid : r.id = r'.id) : i = j := by
  obtain ⟨hri, hget, _⟩ := inv.get_of_slot hi
  obtain ⟨hrj, hget', _⟩ := inv.get_of_slot hj
  rw [← hri, ← hrj, inv.handle_eq hget hget' hid]

/-- The ids of the live records, in slot order, are the keys of the id map. -/
lemma StoreInv.map_id_iter (inv : s.StoreInv) :
    (s.iter.map (·.id)).Nodup ∧ (s.iter.map (·.id)).toFinset = s.byId.keys := by
  constructor
  · rw [iter, List.Nodup, List.pairwise_map, List.pairwise_filterMap, List.pairwise_iff_getElem]
    intro i j hi hj hlt r hr r' hr' hid
    have hri : s.records[i]? = some (some r) := by
      rw [List.getElem?_eq_getElem hi]
      exact congrArg _ hr
    have hrj : s.records[j]? = some (some r') := by
      rw [List.getElem?_eq_getElem hj]
      exact congrArg _ hr'
    exact absurd (inv.ids_distinct hri hrj hid) (by omega)
  · ext id
    rw [List.mem_toFinset, List.mem_map, Finmap.mem_keys_iff_lookup]
    constructor
    · rintro ⟨r, hr, rfl⟩
      obtain ⟨slot, hslot, rfl⟩ : ∃ slot ∈ s.records, slot = some r := by
        simpa [iter, List.mem_filterMap] using hr
      obtain ⟨i, hi⟩ := List.getElem?_of_mem hslot
      exact ⟨r.handle, (inv.get_of_slot hi).2.2⟩
    · rintro ⟨h, hlook⟩
      obtain ⟨r, hget, hid⟩ := inv.get_of_id id h hlook
      refine ⟨r, ?_, hid⟩
      rw [iter, List.mem_filterMap]
      exact ⟨some r, List.mem_of_getElem? (get_eq_some.mp hget).2, rfl⟩

/-- The store invariant gives what the store promises. -/
theorem StoreInv.sound (inv : s.StoreInv) : s.StoreSound where
  byId_iff id h := by
    constructor
    · intro hlook
      obtain ⟨r, hget, hid⟩ := inv.get_of_id id h hlook
      exact ⟨r, (get_eq_some.mp hget).2, hid, (inv.id_of_get h r hget).2⟩
    · rintro ⟨r, hrec, rfl, rfl⟩
      exact (inv.get_of_slot hrec).2.2
  generation id h hlook := by
    obtain ⟨r, hget, -⟩ := inv.get_of_id id h hlook
    exact (get_eq_some.mp hget).1
  free_of_empty i hrec := List.count_eq_one_of_mem inv.free_nodup ((inv.mem_free i).mpr hrec)
  notMem_free i r hrec hmem := by
    rw [inv.mem_free, hrec] at hmem
    simp at hmem
  ids_distinct i j r r' hi hj hid := inv.ids_distinct hi hj hid
  len_eq := by
    obtain ⟨hnodup, hkeys⟩ := inv.map_id_iter
    rw [len, Finmap.size, ← hkeys, List.toFinset_card_of_nodup hnodup, List.length_map, iter,
      List.length_filterMap_eq_countP]
    rfl

end Sound

/-! ## The cases of an operation -/

section Cases

variable (s : Station F)

/-- A spawn fails on a known id and otherwise stores a new record. -/
lemma spawnOwned_cases (id : EntityId) (position : Position3 F) (bounds : Bounds F)
    (policyId : PolicyId) :
    (∃ handle error, s.byId.lookup id = some handle
        ∧ s.spawnOwned id position bounds policyId = (.error error, s))
      ∨ ∃ record : EntityHandle → EntityRecord F, s.byId.lookup id = none
        ∧ (∀ handle, (record handle).position = position ∧ (record handle).bounds = bounds)
        ∧ s.spawnOwned id position bounds policyId
          = (.ok (s.insertNew record).1, (s.insertNew record).2) := by
  cases hlook : s.byId.lookup id with
  | none =>
      refine Or.inr ⟨fun handle => .owned id handle position bounds policyId s.ownerEpoch, rfl,
        fun _ => ⟨rfl, rfl⟩, ?_⟩
      simp [spawnOwned, hlook]
  | some handle => exact Or.inl ⟨handle, _, rfl, by simp [spawnOwned, hlook]; rfl⟩

/-- A ghost upsert overwrites the record that the id map leads to, or stores a new one; led to a
removed entity it does nothing. -/
lemma upsertGhost_cases (id : EntityId) (position : Position3 F) (bounds : Bounds F)
    (policyId : PolicyId) (ownerStation : StationId) (ownerEpoch : OwnerEpoch)
    (expiresAt : Tick) :
    (∃ handle, s.byId.lookup id = some handle ∧ s.get handle = none
        ∧ s.upsertGhost id position bounds policyId ownerStation ownerEpoch expiresAt
          = (handle, s))
      ∨ (∃ handle old r, s.byId.lookup id = some handle ∧ s.get handle = some old
        ∧ r.position = position ∧ r.bounds = bounds
        ∧ s.upsertGhost id position bounds policyId ownerStation ownerEpoch expiresAt
          = (handle, s.writeRecord handle r))
      ∨ ∃ record : EntityHandle → EntityRecord F, s.byId.lookup id = none
        ∧ (∀ handle, (record handle).position = position ∧ (record handle).bounds = bounds)
        ∧ s.upsertGhost id position bounds policyId ownerStation ownerEpoch expiresAt
          = s.insertNew record := by
  cases hlook : s.byId.lookup id with
  | none =>
      refine Or.inr (Or.inr ⟨fun handle => .ghost id handle position bounds policyId ownerStation
        ownerEpoch expiresAt, rfl, fun _ => ⟨rfl, rfl⟩, ?_⟩)
      simp only [upsertGhost, hlook]
  | some handle =>
      cases hget : s.get handle with
      | none => exact Or.inl ⟨handle, rfl, hget, by simp only [upsertGhost, hlook, hget]⟩
      | some old =>
          refine Or.inr (Or.inl ⟨handle, old, { old with
            position := position
            bounds := bounds
            policyId := policyId
            role := .ghost ownerStation ownerEpoch expiresAt
            dirty := old.dirty.insert .transform }, rfl, hget, rfl, rfl, ?_⟩)
          simp only [upsertGhost, hlook, hget]

/-- A move fails, or overwrites the position and the dirty mask of an owned record. -/
lemma moveOwned_cases (handle : EntityHandle) (position : Position3 F) :
    (∃ error, s.moveOwned handle position = (.error error, s))
      ∨ ∃ old, s.get handle = some old ∧ s.moveOwned handle position = (.ok (),
          s.writeRecord handle
            { old with position := position, dirty := old.dirty.insert .transform }) := by
  cases hget : s.get handle with
  | none => exact Or.inl ⟨_, by simp only [moveOwned, hget]; rfl⟩
  | some old =>
      cases hr : old.isOwned with
      | false => exact Or.inl ⟨.notOwner old.id, by simp [moveOwned, hget, hr]⟩
      | true => exact Or.inr ⟨old, rfl, by simp [moveOwned, hget, hr]⟩

/-- A tag update fails, or overwrites the tags and the dirty mask of an owned record. -/
lemma setTags_cases (handle : EntityHandle) (tags : EntityTags) :
    (∃ error, s.setTags handle tags = (.error error, s))
      ∨ ∃ old, s.get handle = some old ∧ s.setTags handle tags = (.ok (),
          s.writeRecord handle { old with tags := tags, dirty := old.dirty.insert .tags }) := by
  cases hget : s.get handle with
  | none => exact Or.inl ⟨_, by simp only [setTags, hget]; rfl⟩
  | some old =>
      cases hr : old.isOwned with
      | false => exact Or.inl ⟨.notOwner old.id, by simp [setTags, hget, hr]⟩
      | true => exact Or.inr ⟨old, rfl, by simp [setTags, hget, hr]⟩

/-- A prewarm at another station fails, and at the target is a ghost upsert. -/
lemma prewarmHandoffGhost_cases (t : HandoffTransfer F) :
    (t.targetStation ≠ s.config.stationId
        ∧ ∃ error, s.prewarmHandoffGhost t = (.error error, s))
      ∨ (t.targetStation = s.config.stationId ∧ ∃ upserted, upserted
          = s.upsertGhost t.entityId t.entity.position t.entity.bounds t.entity.policyId
            t.sourceStation t.sourceOwnerEpoch t.sourceGhostExpiresAt
        ∧ s.prewarmHandoffGhost t = (.ok upserted.1, upserted.2)) := by
  by_cases htarget : t.targetStation = s.config.stationId
  · exact Or.inr ⟨htarget, _, rfl, by simp [prewarmHandoffGhost, htarget]⟩
  · exact Or.inl ⟨htarget, _, prewarmHandoffGhost_wrong htarget⟩

/-- An incoming commit fails, or takes effect: over the ghost that the id map leads to, or in a
new slot when the id is unknown. -/
lemma commitIncomingHandoff_cases (t : HandoffTransfer F) :
    (∃ error, (t.targetStation = s.config.stationId → (s.byId.lookup t.entityId).isSome)
        ∧ s.commitIncomingHandoff t = (.error error, s))
      ∨ (∃ handle old, t.targetStation = s.config.stationId
        ∧ s.byId.lookup t.entityId = some handle ∧ s.get handle = some old
        ∧ old.isOwned = false ∧ s.commitIncomingHandoff t = (.ok handle,
          { s.writeRecord handle (incomingRecord t handle) with
            ownerEpoch := t.targetOwnerEpoch }))
      ∨ (t.targetStation = s.config.stationId ∧ s.byId.lookup t.entityId = none
        ∧ s.commitIncomingHandoff t = (.ok (s.insertNew (incomingRecord t)).1,
          { (s.insertNew (incomingRecord t)).2 with ownerEpoch := t.targetOwnerEpoch })) := by
  by_cases htarget : t.targetStation = s.config.stationId
  · cases hlook : s.byId.lookup t.entityId with
    | none =>
        refine Or.inr (Or.inr ⟨htarget, rfl, ?_⟩)
        simp [commitIncomingHandoff, htarget, handleById, hlook]
    | some handle =>
        cases hget : s.get handle with
        | none =>
            refine Or.inl ⟨.missingEntityHandle handle, fun _ => rfl, ?_⟩
            simp [commitIncomingHandoff, htarget, handleById, hlook, hget]
        | some old =>
            cases hr : old.isOwned with
            | true =>
                refine Or.inl ⟨.alreadyOwner t.entityId, fun _ => rfl, ?_⟩
                simp [commitIncomingHandoff, htarget, handleById, hlook, hget, hr]
            | false =>
                refine Or.inr (Or.inl ⟨handle, old, htarget, rfl, hget, hr, ?_⟩)
                simp [commitIncomingHandoff, htarget, handleById, hlook, hget, hr]
  · exact Or.inl ⟨_, fun h => absurd h htarget, commitIncomingHandoff_wrong htarget⟩

/-- An outgoing commit fails, or turns the owned record that the id map leads to into a ghost. -/
lemma commitOutgoingHandoff_cases (t : HandoffTransfer F) :
    (∃ error, s.commitOutgoingHandoff t = (.error error, s))
      ∨ ∃ handle old, s.get handle = some old ∧ s.commitOutgoingHandoff t
          = (.ok handle, s.writeRecord handle (outgoingRecord t old)) := by
  by_cases hsource : t.sourceStation = s.config.stationId
  · cases hlook : s.byId.lookup t.entityId with
    | none =>
        refine Or.inl ⟨.missingEntity t.entityId, ?_⟩
        simp [commitOutgoingHandoff, hsource, handleById, hlook]
    | some handle =>
        cases hget : s.get handle with
        | none =>
            refine Or.inl ⟨.missingEntityHandle handle, ?_⟩
            simp [commitOutgoingHandoff, hsource, handleById, hlook, hget]
        | some old =>
            cases hr : old.isOwned with
            | false =>
                refine Or.inl ⟨.notOwner t.entityId, ?_⟩
                simp [commitOutgoingHandoff, hsource, handleById, hlook, hget, hr]
            | true =>
                refine Or.inr ⟨handle, old, hget, ?_⟩
                simp [commitOutgoingHandoff, hsource, handleById, hlook, hget, hr, outgoingRecord]
  · exact Or.inl ⟨_, commitOutgoingHandoff_wrong hsource⟩

end Cases

/-! ## Every operation -/

section Steps

variable {s : Station F}

/-- A failed operation changes nothing. -/
lemma perform_error {op : StationOp F} {error : StationError}
    (h : (s.perform op).1 = .error error) : s.step op = s := by
  cases op with
  | spawnOwned id position bounds policyId =>
      show (s.spawnOwned id position bounds policyId).2 = s
      rcases s.spawnOwned_cases id position bounds policyId with
        ⟨_, _, -, heq⟩ | ⟨_, -, -, heq⟩
      · rw [heq]
      · simp [perform, reply, heq, Except.map] at h
  | upsertGhost id position bounds policyId ownerStation ownerEpoch expiresAt =>
      simp [perform] at h
  | moveOwned handle position =>
      show (s.moveOwned handle position).2 = s
      rcases s.moveOwned_cases handle position with ⟨_, heq⟩ | ⟨_, -, heq⟩
      · rw [heq]
      · simp [perform, reply, heq, Except.map] at h
  | setTags handle tags =>
      show (s.setTags handle tags).2 = s
      rcases s.setTags_cases handle tags with ⟨_, heq⟩ | ⟨_, -, heq⟩
      · rw [heq]
      · simp [perform, reply, heq, Except.map] at h
  | clearDirty handle mask =>
      show (s.clearDirty handle mask).2 = s
      cases hget : s.get handle with
      | none => simp only [clearDirty, hget]
      | some r => simp [perform, reply, clearDirty, hget, Except.map] at h
  | remove handle =>
      show (s.remove handle).2 = s
      cases hget : s.get handle with
      | none => rw [Station.remove, hget]
      | some r => simp [perform, reply, remove_eq hget, Except.map] at h
  | removeById id =>
      show (s.removeById id).2 = s
      cases hlook : s.byId.lookup id with
      | none => simp only [removeById, hlook]
      | some handle =>
          cases hget : s.get handle with
          | none => simp only [removeById, hlook, Station.remove, hget]
          | some r => simp [perform, reply, removeById, hlook, remove_eq hget, Except.map] at h
  | nextOwnerEpoch => simp [perform] at h
  | advanceTick => simp [perform] at h
  | prepareOutgoingHandoff entityId targetStation targetOwnerEpoch sourceGhostExpiresAt => rfl
  | prewarmHandoffGhost t =>
      show (s.prewarmHandoffGhost t).2 = s
      rcases s.prewarmHandoffGhost_cases t with ⟨-, _, heq⟩ | ⟨-, _, -, heq⟩
      · rw [heq]
      · simp [perform, reply, heq, Except.map] at h
  | commitIncomingHandoff t =>
      show (s.commitIncomingHandoff t).2 = s
      rcases s.commitIncomingHandoff_cases t with
        ⟨_, -, heq⟩ | ⟨_, _, -, -, -, -, heq⟩ | ⟨-, -, heq⟩
      · rw [heq]
      · simp [perform, reply, heq, Except.map] at h
      · simp [perform, reply, heq, Except.map] at h
  | commitOutgoingHandoff t =>
      show (s.commitOutgoingHandoff t).2 = s
      rcases s.commitOutgoingHandoff_cases t with ⟨_, heq⟩ | ⟨_, _, -, heq⟩
      · rw [heq]
      · simp [perform, reply, heq, Except.map] at h

/-- A call that fails leaves the station as it was. -/
lemma unchanged_of_error {α : Type} {f : α → StationReply F} (op : StationOp F)
    {result : Except StationError α × Station F} {error : StationError} {s' : Station F}
    (hop : s.perform op = Station.reply f result) (h : result = (.error error, s')) : s' = s := by
  subst h
  have hfailed : (s.perform op).1 = .error error := by
    rw [hop]
    rfl
  have hstep := perform_error hfailed
  rwa [step, hop] at hstep

lemma performStore_error {op : StoreOp F} {error : StationError}
    (h : (s.performStore op).1 = .error error) : s.storeStep op = s := by
  cases op with
  | op op => exact perform_error h
  | restore config snapshot =>
      simp only [storeStep, performStore] at h ⊢
      cases hrestore : restore config snapshot with
      | error error => rfl
      | ok restored => simp [hrestore] at h

/-- The station is left alone, or one live record is overwritten under its own id and handle. -/
def Overwrites (s s' : Station F) : Prop :=
  s' = s ∨ ∃ h old r, s.get h = some old ∧ r.id = old.id ∧ r.handle = old.handle
    ∧ s' = s.writeRecord h r

lemma overwrites_moveOwned (h : EntityHandle) (position : Position3 F) :
    s.Overwrites (s.moveOwned h position).2 := by
  rcases s.moveOwned_cases h position with ⟨_, heq⟩ | ⟨old, hget, heq⟩
  · exact Or.inl (by rw [heq])
  · refine Or.inr ⟨h, old, _, hget, ?_, ?_, congrArg Prod.snd heq⟩
    · rfl
    · rfl

lemma overwrites_setTags (h : EntityHandle) (tags : EntityTags) :
    s.Overwrites (s.setTags h tags).2 := by
  rcases s.setTags_cases h tags with ⟨_, heq⟩ | ⟨old, hget, heq⟩
  · exact Or.inl (by rw [heq])
  · refine Or.inr ⟨h, old, _, hget, ?_, ?_, congrArg Prod.snd heq⟩
    · rfl
    · rfl

lemma overwrites_clearDirty (h : EntityHandle) (mask : DirtyMask) :
    s.Overwrites (s.clearDirty h mask).2 := by
  unfold clearDirty
  cases hget : s.get h with
  | none => exact Or.inl rfl
  | some r => exact Or.inr ⟨h, r, { r with dirty := r.dirty.remove mask }, hget, rfl, rfl, rfl⟩

lemma overwrites_commitOutgoingHandoff (t : HandoffTransfer F) :
    s.Overwrites (s.commitOutgoingHandoff t).2 := by
  rcases s.commitOutgoingHandoff_cases t with ⟨_, heq⟩ | ⟨h, old, hget, heq⟩
  · exact Or.inl (by rw [heq])
  · refine Or.inr ⟨h, old, _, hget, ?_, ?_, congrArg Prod.snd heq⟩
    · rfl
    · rfl

lemma StoreInv.overwrites (inv : s.StoreInv) {s' : Station F} (h : s.Overwrites s') :
    s'.StoreInv := by
  rcases h with rfl | ⟨handle, old, r, hget, hid, hhandle, rfl⟩
  · exact inv
  · exact inv.writeRecord hget hid (hhandle.trans (inv.id_of_get handle old hget).2)

/-- An incoming commit that takes effect stores a record under the id it was checked under: over
a ghost a record of the ghost's id, and in a new slot a record of an id that is unknown too. -/
def StoresNamed (s : Station F) : StoreOp F → Prop
  | .op (.commitIncomingHandoff t) => t.targetStation = s.config.stationId →
      match s.byId.lookup t.entityId with
      | some handle => ∀ r ∈ s.get handle, r.isOwned = false → t.entity.id = t.entityId
      | none => s.byId.lookup t.entity.id = none
  | _ => True

lemma StoreInv.commitIncomingHandoff {t : HandoffTransfer F} (inv : s.StoreInv)
    (hok : s.StoresNamed (.op (.commitIncomingHandoff t))) :
    (s.commitIncomingHandoff t).2.StoreInv := by
  rcases s.commitIncomingHandoff_cases t with
    ⟨_, -, heq⟩ | ⟨handle, old, htarget, hlook, hget, hghost, heq⟩ | ⟨htarget, hlook, heq⟩
  · rw [heq]
    exact inv
  · have hnamed := hok htarget
    rw [hlook] at hnamed
    obtain ⟨r, hget', hrid⟩ := inv.get_of_id _ _ hlook
    obtain rfl : old = r := Option.some.inj (hget.symm.trans hget')
    have hid : t.entity.id = old.id := (hnamed old hget hghost).trans hrid.symm
    have hwrite := inv.writeRecord (r := incomingRecord t handle) hget hid rfl
    rw [heq]
    exact storeInv_congr hwrite rfl rfl rfl rfl
  · have hnamed := hok htarget
    rw [hlook] at hnamed
    have hup := updates_insertNew inv (incomingRecord t) hnamed (fun _ => rfl) (fun _ => rfl)
    rw [heq]
    exact storeInv_congr hup.inv rfl rfl rfl rfl

/-- Every operation keeps the store invariant when it stores records under the ids it checked. -/
theorem StoreInv.step (inv : s.StoreInv) {op : StationOp F} (hok : s.StoresNamed (.op op)) :
    (s.step op).StoreInv := by
  cases op with
  | spawnOwned id position bounds policyId => exact inv.spawnOwned id position bounds policyId
  | upsertGhost id position bounds policyId ownerStation ownerEpoch expiresAt =>
      obtain ⟨h, r, s', heq, hup, _⟩ := upsertGhost_spec id position bounds policyId ownerStation
        ownerEpoch expiresAt inv
      show (s.upsertGhost id position bounds policyId ownerStation ownerEpoch
        expiresAt).2.StoreInv
      rw [heq]
      exact hup.inv
  | moveOwned handle position => exact inv.overwrites (overwrites_moveOwned handle position)
  | setTags handle tags => exact inv.overwrites (overwrites_setTags handle tags)
  | clearDirty handle mask => exact inv.overwrites (overwrites_clearDirty handle mask)
  | remove handle =>
      show (s.remove handle).2.StoreInv
      cases hget : s.get handle with
      | none => rw [Station.remove, hget]; exact inv
      | some r => exact inv.remove hget
  | removeById id => exact inv.removeById id
  | nextOwnerEpoch => exact storeInv_congr inv rfl rfl rfl rfl
  | advanceTick => exact inv.advanceTick
  | prepareOutgoingHandoff entityId targetStation targetOwnerEpoch sourceGhostExpiresAt =>
      exact inv
  | prewarmHandoffGhost t =>
      show (s.prewarmHandoffGhost t).2.StoreInv
      by_cases ht : t.targetStation = s.config.stationId
      · obtain ⟨_, _, s', heq, hup, _⟩ := prewarmHandoffGhost_spec inv ht
        rw [heq]
        exact hup.inv
      · rw [prewarmHandoffGhost_wrong ht]
        exact inv
  | commitIncomingHandoff t => exact inv.commitIncomingHandoff hok
  | commitOutgoingHandoff t => exact inv.overwrites (overwrites_commitOutgoingHandoff t)

/-- Inserting snapshot records one after the other keeps the store invariant. -/
lemma StoreInv.restoreRecords {records : List (EntityRecord F)} {s' : Station F}
    (inv : s.StoreInv) (h : records.foldlM restoreRecord s = .ok s') : s'.StoreInv := by
  induction records generalizing s with
  | nil =>
      obtain rfl : s = s' := Except.ok.inj h
      exact inv
  | cons record records ih =>
      rw [List.foldlM_cons, restoreRecord] at h
      by_cases hknown : (s.byId.lookup record.id).isSome = true
      · rw [if_pos hknown] at h
        exact absurd h (by simp [bind, Except.bind])
      · rw [if_neg hknown] at h
        rw [Option.not_isSome_iff_eq_none] at hknown
        have hnew : (s.insertNew fun handle => { record with handle := handle }).2.StoreInv :=
          inv.insertNew hknown (fun _ => rfl) (fun _ => rfl)
        exact ih hnew h

/-- A restored station has a well-formed store, whatever the snapshot holds. -/
theorem storeInv_restore {config : StationConfig} {snapshot : StationSnapshot F}
    {s' : Station F} (h : restore config snapshot = .ok s') : s'.StoreInv := by
  rw [restore] at h
  split_ifs at h
  have hnew : ({ Station.new config with
      tick := snapshot.metadata.tick
      ownerEpoch := snapshot.metadata.ownerEpoch } : Station F).StoreInv :=
    storeInv_congr (storeInv_new config) rfl rfl rfl rfl
  exact hnew.restoreRecords h

lemma StoreInv.storeStep (inv : s.StoreInv) {op : StoreOp F} (hok : s.StoresNamed op) :
    (s.storeStep op).StoreInv := by
  cases op with
  | op op => exact inv.step hok
  | restore config snapshot =>
      simp only [Station.storeStep, performStore]
      cases hrestore : restore config snapshot with
      | error error => exact inv
      | ok restored => exact storeInv_restore hrestore

/-- An incoming commit that stores a record under another id than it was checked under leaves an
id that leads to a record of another id, or two records of one id. -/
lemma StoreInv.storesNamed_of_idsMatch (inv : s.StoreInv) {op : StoreOp F}
    (hmatch : (s.storeStep op).IdsMatch) : s.StoresNamed op := by
  match op with
  | .op (.commitIncomingHandoff t) =>
      intro htarget
      replace hmatch : (s.commitIncomingHandoff t).2.IdsMatch := hmatch
      rcases inv.lookup_cases t.entityId with ⟨hlook, _⟩ | ⟨handle, r, hlook, hget, hrid, _⟩
      · simp only [hlook]
        simp only [Station.commitIncomingHandoff, htarget, handleById, hlook, ne_eq,
          not_true_eq_false, if_false] at hmatch
        cases hother : s.byId.lookup t.entity.id with
        | none => rfl
        | some handle =>
            -- the old record of the id is still live, beside the one in the new slot
            obtain ⟨r, hget, hrid⟩ := inv.get_of_id _ _ hother
            have hnew := inv.allocateHandle.get_eq_none
            have hne : handle ≠ (s.insertNew (incomingRecord t)).1 := by
              intro heq
              rw [heq] at hget
              exact absurd (hget.symm.trans hnew) (by simp)
            have hold := get_insertNew (incomingRecord t) inv handle
            rw [if_neg hne, hget] at hold
            have hstored := get_insertNew (incomingRecord t) inv (s.insertNew (incomingRecord t)).1
            rw [if_pos rfl] at hstored
            have hindex := hmatch.ids_distinct _ _ _ _ (get_eq_some.mp hold).2
              (get_eq_some.mp hstored).2 hrid
            exact absurd (handle_eq_of_index hstored hold hindex) hne
      · simp only [hlook]
        intro r' hr' hghost
        obtain rfl : r = r' := Option.some.inj (hget.symm.trans hr')
        simp only [Station.commitIncomingHandoff, htarget, handleById, hlook, hget, hghost, ne_eq,
          not_true_eq_false, if_false, Bool.false_eq_true] at hmatch
        have hread := get_writeRecord (r := incomingRecord t handle) hget handle
        rw [if_pos rfl] at hread
        have hid : (incomingRecord t handle).id = t.entityId :=
          hmatch.id_of_getById _ _ (getById_eq_some.mpr ⟨handle, hlook, hread⟩)
        exact hid
  | .op (.spawnOwned _ _ _ _) | .op (.upsertGhost _ _ _ _ _ _ _) | .op (.moveOwned _ _)
  | .op (.setTags _ _) | .op (.clearDirty _ _) | .op (.remove _) | .op (.removeById _)
  | .op .nextOwnerEpoch | .op .advanceTick | .op (.prepareOutgoingHandoff _ _ _ _)
  | .op (.prewarmHandoffGhost _) | .op (.commitOutgoingHandoff _) | .restore _ _ => trivial

lemma StoreSound.idsMatch (h : s.StoreSound) : s.IdsMatch where
  id_of_getById id r hby := by
    obtain ⟨handle, hlook, hget⟩ := getById_eq_some.mp hby
    obtain ⟨r', hrec, hid, -⟩ := (h.byId_iff id handle).mp hlook
    rw [(get_eq_some.mp hget).2, Option.some.injEq, Option.some.injEq] at hrec
    rw [hrec, hid]
  ids_distinct := h.ids_distinct

lemma StoreInv.storesNamed_of_sound (inv : s.StoreInv) {op : StoreOp F}
    (hsound : (s.storeStep op).StoreSound) : s.StoresNamed op :=
  inv.storesNamed_of_idsMatch hsound.idsMatch

end Steps

/-- **The store is sound.**  A run keeps what the store promises in all its states exactly when
its incoming commits store records under the ids they checked, and no failed operation changes
anything. -/
theorem station_store_sound_iff (config : StationConfig) (ops : List (StoreOp F)) :
    ((∀ pre, pre <+: ops → (execute storeStep (new config) pre).StoreSound)
      ↔ AllSteps storeStep StoresNamed (new config) ops)
    ∧ ∀ (s : Station F) op error, (s.performStore op).1 = .error error → s.storeStep op = s := by
  constructor
  · refine forall_prefix_iff_allSteps (I := StoreInv) (P := fun _ => True)
      (fun s inv => inv.sound) (fun s op inv _ => ⟨fun hok => inv.storeStep hok, fun hsound =>
        inv.storesNamed_of_sound hsound⟩) (storeInv_new config) (fun _ _ => trivial)
  · exact fun s op error h => performStore_error h

section Misnamed

/-- A ghost of entity 7, and the commit of a transfer that names entity 7 and carries a record of
entity 8. -/
def misnamedTransfer : List (StoreOp ℕ) :=
  [.op (.upsertGhost ⟨7⟩ ⟨0, 0, 0⟩ .point ⟨0⟩ ⟨2⟩ ⟨0⟩ ⟨10⟩),
    .op (.commitIncomingHandoff
      { entityId := ⟨7⟩, sourceStation := ⟨2⟩, targetStation := ⟨1⟩, sourceOwnerEpoch := ⟨0⟩
        targetOwnerEpoch := ⟨1⟩, preparedAt := ⟨0⟩, sourceGhostExpiresAt := ⟨10⟩
        entity := .owned ⟨8⟩ ⟨0, 0⟩ ⟨0, 0, 0⟩ .point ⟨0⟩ ⟨0⟩ })]

/-- After the commit the id map leads from entity 7 to a record of entity 8. -/
theorem misnamed_transfer_unsound :
    ¬ ∀ (config : StationConfig) (ops : List (StoreOp ℕ)) pre, pre <+: ops →
      (execute storeStep (new config) pre).StoreSound := by
  intro hall
  have hsound := hall (configWithStation 1) misnamedTransfer misnamedTransfer List.prefix_rfl
  obtain ⟨r, hrec, hid, _⟩ := (hsound.byId_iff ⟨7⟩ ⟨0, 0⟩).mp (by decide)
  have hstored : (execute storeStep (new (configWithStation 1)) misnamedTransfer).records[0]?
      = some (some (incomingRecord
        { entityId := ⟨7⟩, sourceStation := ⟨2⟩, targetStation := ⟨1⟩, sourceOwnerEpoch := ⟨0⟩
          targetOwnerEpoch := ⟨1⟩, preparedAt := ⟨0⟩, sourceGhostExpiresAt := ⟨10⟩
          entity := .owned ⟨8⟩ ⟨0, 0⟩ ⟨0, 0, 0⟩ .point ⟨0⟩ ⟨0⟩ } ⟨0, 0⟩)) := by decide
  rw [hstored, Option.some.injEq, Option.some.injEq] at hrec
  subst hrec
  exact absurd hid (by decide)

end Misnamed

end Station

end SectorSync
