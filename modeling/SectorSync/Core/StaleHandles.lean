import SectorSync.Base.Slots
import SectorSync.Core.StationRun

/-!
# Stale handles

A handle names a slot in one generation.  Seen through its slots a station is a table of
generation-checked slots: every operation, and every write through a `get_mut`, is one event of
the table (`slots_handleStep`).  What the table says of a released slot is then what the station
says of a removed handle: it stays stale for good unless its generation is `u32::MAX`, where the
saturating counter of `remove` stops, and its slot is recycled: `stale_handle_iff`.
-/

namespace SectorSync

open Machine

variable {F : Type}

/-- The operations of one station value: those of `StationOp`, and a write of a whole record
through the reference a `get_mut` returned. -/
inductive HandleOp (F : Type) where
  | op (op : StationOp F)
  | getMut (handle : EntityHandle) (record : EntityRecord F)

namespace Station

/-- The station after one operation. -/
def handleStep (s : Station F) : HandleOp F → Station F
  | .op op => s.step op
  | .getMut handle record =>
      match s.get handle with
      | none => s
      | some _ => s.writeRecord handle record

/-- The stations a program can hold. -/
inductive Reachable : Station F → Prop where
  | new (config : StationConfig) : Reachable (Station.new config)
  | restore {config : StationConfig} {snapshot : StationSnapshot F} {s : Station F}
      (h : Station.restore config snapshot = .ok s) : Reachable s
  | step {s : Station F} (hs : Reachable s) (op : HandleOp F) : Reachable (s.handleStep op)

/-- The handle finds no entity: reading it fails and so does every operation that takes it. -/
structure StaleAt (s : Station F) (h : EntityHandle) : Prop where
  get : s.get h = none
  moveOwned : ∀ position, s.moveOwned h position = (.error (.missingEntityHandle h), s)
  setTags : ∀ tags, s.setTags h tags = (.error (.missingEntityHandle h), s)
  clearDirty : ∀ mask, s.clearDirty h mask = (.error (.missingEntityHandle h), s)
  remove : s.remove h = (.error (.missingEntityHandle h), s)

/-- A handle that reads nothing finds nothing anywhere. -/
lemma staleAt_iff {s : Station F} {h : EntityHandle} : s.StaleAt h ↔ s.get h = none := by
  constructor
  · exact fun hstale => hstale.get
  · intro hget
    exact
      { get := hget
        moveOwned := fun position => by rw [Station.moveOwned, hget]
        setTags := fun tags => by rw [Station.setTags, hget]
        clearDirty := fun mask => by rw [Station.clearDirty, hget]
        remove := by rw [Station.remove, hget] }

/-! ## The table of slots -/

/-- The station's slots, without what they hold. -/
def slots (s : Station F) : Slots UInt32 where
  generations := s.generations
  live := s.records.map Option.isSome
  free := s.free

/-- One event of a station's table: generations start at zero and saturate. -/
def slotStep : Slots UInt32 → SlotEvent → Slots UInt32 :=
  Slots.step 0 fun generation => generation.saturatingAdd 1

/-- A new record is stored when the id is unknown. -/
def insertEvent (s : Station F) (id : EntityId) : SlotEvent :=
  if (s.byId.lookup id).isNone then .allocate else .idle

/-- A record is removed when the handle reads it. -/
def removeEvent (s : Station F) (handle : EntityHandle) : SlotEvent :=
  if (s.get handle).isSome then .release handle.index else .idle

/-- What an operation does to the slots. -/
def slotEvent (s : Station F) : HandleOp F → SlotEvent
  | .op (.spawnOwned id _ _ _) => s.insertEvent id
  | .op (.upsertGhost id _ _ _ _ _ _) => s.insertEvent id
  | .op (.prewarmHandoffGhost t) =>
      if t.targetStation = s.config.stationId then s.insertEvent t.entityId else .idle
  | .op (.commitIncomingHandoff t) =>
      if t.targetStation = s.config.stationId then s.insertEvent t.entityId else .idle
  | .op (.remove handle) => s.removeEvent handle
  | .op (.removeById id) =>
      match s.byId.lookup id with
      | none => .idle
      | some handle => s.removeEvent handle
  | _ => .idle

section Simulation

variable {s : Station F} {h : EntityHandle}

lemma insertEvent_of_none {id : EntityId} (hlook : s.byId.lookup id = none) :
    s.insertEvent id = .allocate := by simp [insertEvent, hlook]

lemma insertEvent_of_some {id : EntityId} (hlook : s.byId.lookup id = some h) :
    s.insertEvent id = .idle := by simp [insertEvent, hlook]

/-- A handle reads a record exactly when its slot is live in its generation. -/
lemma resolves_slots : s.slots.Resolves h.index h.generation ↔ ∃ r, s.get h = some r := by
  simp only [Slots.Resolves, slots, List.getElem?_map, Option.map_eq_some_iff, get_eq_some]
  constructor
  · rintro ⟨hgen, slot, hslot, hlive⟩
    obtain ⟨r, rfl⟩ := Option.isSome_iff_exists.mp hlive
    exact ⟨r, hgen, hslot⟩
  · rintro ⟨r, hgen, hslot⟩
    exact ⟨hgen, some r, hslot, rfl⟩

lemma slots_writeRecord {old r : EntityRecord F} (hget : s.get h = some old) :
    (s.writeRecord h r).slots = s.slots := by
  have hslot := (get_eq_some.mp hget).2
  obtain ⟨hlt, hval⟩ := List.getElem?_eq_some_iff.mp hslot
  have hlive : (s.records.map Option.isSome).set h.index true = s.records.map Option.isSome := by
    have hlt' : h.index < (s.records.map Option.isSome).length := by simpa using hlt
    have htrue : (s.records.map Option.isSome)[h.index] = true := by simp [hval]
    rw [← htrue]
    exact List.set_getElem_self hlt'
  simp [slots, writeRecord, List.map_set, hlive]

lemma slots_overwrites {s' : Station F} (hw : s.Overwrites s') : s'.slots = s.slots := by
  rcases hw with rfl | ⟨_, _, _, hget, _, _, rfl⟩
  · rfl
  · exact slots_writeRecord hget

lemma slots_insertNew (record : EntityHandle → EntityRecord F) :
    (s.insertNew record).2.slots = slotStep s.slots .allocate := by
  cases hfree : s.free with
  | nil =>
      simp [slots, slotStep, Slots.step, insertNew, allocateHandle, insertAllocated, hfree]
  | cons index free =>
      simp [slots, slotStep, Slots.step, insertNew, allocateHandle, insertAllocated, hfree,
        List.map_set]

lemma slots_remove (h : EntityHandle) :
    (s.remove h).2.slots = slotStep s.slots (s.removeEvent h) := by
  cases hget : s.get h with
  | none => simp [remove, removeEvent, hget, slotStep, Slots.step]
  | some r =>
      obtain ⟨hgen, hslot⟩ := get_eq_some.mp hget
      rw [remove_eq hget]
      simp [removeEvent, hget, slots, slotStep, Slots.step, hgen, hslot, List.map_set]

lemma slots_upsertGhost (id : EntityId) (position : Position3 F) (bounds : Bounds F)
    (policyId : PolicyId) (ownerStation : StationId) (ownerEpoch : OwnerEpoch)
    (expiresAt : Tick) :
    (s.upsertGhost id position bounds policyId ownerStation ownerEpoch expiresAt).2.slots
      = slotStep s.slots (s.insertEvent id) := by
  rcases s.upsertGhost_cases id position bounds policyId ownerStation ownerEpoch expiresAt with
    ⟨_, hlook, -, heq⟩ | ⟨_, _, _, hlook, hget, -, -, heq⟩ | ⟨_, hlook, -, heq⟩
  · rw [heq, insertEvent_of_some hlook]
    rfl
  · rw [heq, insertEvent_of_some hlook]
    exact slots_writeRecord hget
  · rw [heq, insertEvent_of_none hlook]
    exact slots_insertNew _

/-- **The slots of a station.**  Every operation is one event of the table of slots. -/
theorem slots_handleStep (s : Station F) (op : HandleOp F) :
    (s.handleStep op).slots = slotStep s.slots (s.slotEvent op) := by
  match op with
  | .getMut handle record =>
      show (match s.get handle with
        | none => s
        | some _ => s.writeRecord handle record).slots = s.slots
      cases hget : s.get handle with
      | none => rfl
      | some r => exact slots_writeRecord hget
  | .op (.spawnOwned id position bounds policyId) =>
      show (s.spawnOwned id position bounds policyId).2.slots = slotStep s.slots (s.insertEvent id)
      rcases s.spawnOwned_cases id position bounds policyId with
        ⟨_, _, hlook, heq⟩ | ⟨_, hlook, -, heq⟩
      · rw [heq, insertEvent_of_some hlook]
        rfl
      · rw [heq, insertEvent_of_none hlook]
        exact slots_insertNew _
  | .op (.upsertGhost id position bounds policyId ownerStation ownerEpoch expiresAt) =>
      exact slots_upsertGhost id position bounds policyId ownerStation ownerEpoch expiresAt
  | .op (.moveOwned handle position) => exact slots_overwrites (overwrites_moveOwned _ _)
  | .op (.setTags handle tags) => exact slots_overwrites (overwrites_setTags _ _)
  | .op (.clearDirty handle mask) => exact slots_overwrites (overwrites_clearDirty _ _)
  | .op (.remove handle) => exact slots_remove handle
  | .op (.removeById id) =>
      show (s.removeById id).2.slots = slotStep s.slots (s.slotEvent (.op (.removeById id)))
      simp only [removeById, slotEvent]
      cases hlook : s.byId.lookup id with
      | none => rfl
      | some handle => exact slots_remove handle
  | .op .nextOwnerEpoch => rfl
  | .op .advanceTick => rfl
  | .op (.prepareOutgoingHandoff _ _ _ _) => rfl
  | .op (.prewarmHandoffGhost t) =>
      show (s.prewarmHandoffGhost t).2.slots
        = slotStep s.slots (s.slotEvent (.op (.prewarmHandoffGhost t)))
      rcases s.prewarmHandoffGhost_cases t with ⟨htarget, _, heq⟩ | ⟨htarget, _, rfl, heq⟩
      · rw [heq, slotEvent, if_neg htarget]
        rfl
      · rw [heq, slotEvent, if_pos htarget]
        exact slots_upsertGhost _ _ _ _ _ _ _
  | .op (.commitIncomingHandoff t) =>
      show (s.commitIncomingHandoff t).2.slots
        = slotStep s.slots (s.slotEvent (.op (.commitIncomingHandoff t)))
      rcases s.commitIncomingHandoff_cases t with
        ⟨_, hknown, heq⟩ | ⟨_, _, htarget, hlook, hget, -, heq⟩ | ⟨htarget, hlook, heq⟩
      · have hidle : s.slotEvent (.op (.commitIncomingHandoff t)) = .idle := by
          rw [slotEvent]
          split_ifs with htarget
          · obtain ⟨_, hlook⟩ := Option.isSome_iff_exists.mp (hknown htarget)
            exact insertEvent_of_some hlook
          · rfl
        rw [heq, hidle]
        rfl
      · rw [heq, slotEvent, if_pos htarget, insertEvent_of_some hlook]
        exact slots_writeRecord (r := incomingRecord t _) hget
      · rw [heq, slotEvent, if_pos htarget, insertEvent_of_none hlook]
        exact slots_insertNew (incomingRecord t)
  | .op (.commitOutgoingHandoff t) => exact slots_overwrites (overwrites_commitOutgoingHandoff t)

/-- The dead slots of the table are the empty slots of the station. -/
lemma live_slots_eq_false {i : ℕ} :
    s.slots.live[i]? = some false ↔ s.records[i]? = some none := by
  rw [slots, List.getElem?_map, Option.map_eq_some_iff]
  constructor
  · rintro ⟨slot, hslot, hfalse⟩
    rw [hslot, Option.isSome_eq_false_iff.mp hfalse |> Option.isNone_iff_eq_none.mp]
  · exact fun hempty => ⟨none, hempty, rfl⟩

lemma StoreInv.wf_slots (inv : s.StoreInv) : s.slots.Wf where
  lengths := by simp [slots, inv.lengths]
  free_nodup := inv.free_nodup
  mem_free i := (inv.mem_free i).trans live_slots_eq_false.symm

/-- Allocation in a well-formed table of slots. -/
lemma allocated_of_wf (hwf : s.slots.Wf) : Allocated s s.allocateHandle.1 s.allocateHandle.2 :=
  allocated_allocateHandle (by simpa [slots] using hwf.lengths) hwf.free_nodup
    fun i => (hwf.mem_free i).trans live_slots_eq_false

/-- The slots of a reachable station are well formed, whatever records it was given. -/
lemma Reachable.wf_slots (hs : s.Reachable) : s.slots.Wf := by
  induction hs with
  | new config => exact (storeInv_new config).wf_slots
  | restore h => exact (storeInv_restore h).wf_slots
  | step _ op ih =>
      rw [slots_handleStep]
      exact ih.step _

end Simulation

/-! ## Removed handles -/

/-- The operation stores a new record, and the slot is the one it takes. -/
def RecyclesSlot (index : ℕ) (s : Station F) (op : HandleOp F) : Prop :=
  s.slotEvent op = .allocate ∧ s.free.head? = some index

instance (index : ℕ) (s : Station F) (op : HandleOp F) : Decidable (s.RecyclesSlot index op) :=
  inferInstanceAs (Decidable (_ ∧ _))

/-- A handle is stale exactly when its slot does not resolve in its generation. -/
lemma staleAt_iff_slots {s : Station F} {h : EntityHandle} :
    s.StaleAt h ↔ ¬ s.slots.Resolves h.index h.generation := by
  rw [staleAt_iff, resolves_slots, not_exists, Option.eq_none_iff_forall_ne_some]

/-- **Stale for good.**  A removed handle finds nothing in any state of a later run exactly when
its generation is not the largest, or the run never recycles its slot. -/
theorem stale_handle_iff {s : Station F} (hs : s.Reachable) {h : EntityHandle}
    {r : EntityRecord F} (hget : s.get h = some r) (ops : List (HandleOp F)) :
    (∀ pre, pre <+: ops → (execute handleStep (s.remove h).2 pre).StaleAt h)
      ↔ h.generation ≠ UInt32.maxValue
        ∨ AllSteps handleStep (fun s op => ¬ s.RecyclesSlot h.index op) (s.remove h).2 ops := by
  obtain ⟨hgen, hslot⟩ := get_eq_some.mp hget
  have hremoved := Reachable.step hs (.op (.remove h))
  have hgen' : (s.remove h).2.slots.generations[h.index]?
      = some (h.generation.saturatingAdd 1) := by
    rw [remove_eq hget]
    simp [slots, (List.getElem?_eq_some_iff.mp hgen).1]
  have hempty : (s.remove h).2.slots.live[h.index]? = some false := by
    rw [remove_eq hget]
    simp [slots, (List.getElem?_eq_some_iff.mp hslot).1]
  have htable : (∀ pre, pre <+: trace handleStep slotEvent (s.remove h).2 ops →
      ¬ (execute slotStep (s.remove h).2.slots pre).Resolves h.index h.generation)
      ↔ h.generation.saturatingAdd 1 ≠ h.generation
        ∨ AllSteps slotStep (fun s event => ¬ Slots.Recycles h.index s event) (s.remove h).2.slots
          (trace handleStep slotEvent (s.remove h).2 ops) :=
    Slots.stale_iff (fun g => g.saturatingAdd 1) (fun g => g.le_saturatingAdd 1)
      hremoved.wf_slots hgen' hempty _
  have hrun : ∀ pre, (execute handleStep (s.remove h).2 pre).slots
      = execute slotStep (s.remove h).2.slots (trace handleStep slotEvent (s.remove h).2 pre) :=
    fun pre => execute_trace slots_handleStep _ pre
  have hsteps := allSteps_trace slots_handleStep (fun s event => ¬ Slots.Recycles h.index s event)
    (s.remove h).2 ops
  have hpref := forall_prefix_trace handleStep slotEvent
    (C := fun events => ¬ (execute slotStep (s.remove h).2.slots events).Resolves h.index
      h.generation) (s.remove h).2 ops
  have hmax : h.generation ≠ UInt32.maxValue ↔ h.generation.saturatingAdd 1 ≠ h.generation :=
    not_congr UInt32.saturatingAdd_one_eq_self.symm
  rw [hmax]
  calc (∀ pre, pre <+: ops → (execute handleStep (s.remove h).2 pre).StaleAt h)
      ↔ ∀ pre, pre <+: ops → ¬ (execute slotStep (s.remove h).2.slots
          (trace handleStep slotEvent (s.remove h).2 pre)).Resolves h.index h.generation := by
        simp only [staleAt_iff_slots, hrun]
    _ ↔ _ := hpref.symm
    _ ↔ _ := htable
    _ ↔ _ := or_congr_right hsteps

section Recycled

/-- One round: entity 7 is spawned and removed. -/
def churnRound : List (HandleOp ℕ) :=
  [.op (.spawnOwned ⟨7⟩ ⟨0, 0, 0⟩ .point ⟨0⟩), .op (.removeById ⟨7⟩)]

/-- A removed handle of a station that spawned once stays stale when its slot is reused. -/
theorem stale_handle_reused :
    (execute handleStep ((((new (configWithStation 1) : Station ℕ).handleStep
      (.op (.spawnOwned ⟨7⟩ ⟨0, 0, 0⟩ .point ⟨0⟩))).remove ⟨0, 0⟩).2)
      [.op (.spawnOwned ⟨7⟩ ⟨0, 0, 0⟩ .point ⟨0⟩)]).StaleAt ⟨0, 0⟩ :=
  (stale_handle_iff (r := .owned ⟨7⟩ ⟨0, 0⟩ ⟨0, 0, 0⟩ .point ⟨0⟩ ⟨0⟩)
    (.step (.new _) _) (by decide) [.op (.spawnOwned ⟨7⟩ ⟨0, 0, 0⟩ .point ⟨0⟩)]).mpr
    (Or.inl (by decide)) _ List.prefix_rfl

/-- The station after rounds of churn: one free slot, in a later generation each time. -/
def churned (n : ℕ) : Station ℕ :=
  { (Station.new (configWithStation 1) : Station ℕ) with
    records := [none]
    generations := [UInt32.ofNat n]
    free := [0] }

/-- The station of round `n` while entity 7 is alive. -/
def spawned (n : ℕ) : Station ℕ :=
  (churned n).handleStep (.op (.spawnOwned ⟨7⟩ ⟨0, 0, 0⟩ .point ⟨0⟩))

lemma get_spawned (n : ℕ) : (spawned n).get ⟨0, UInt32.ofNat n⟩
    = some (.owned ⟨7⟩ ⟨0, UInt32.ofNat n⟩ ⟨0, 0, 0⟩ .point ⟨0⟩ ⟨0⟩) := by
  simp [spawned, handleStep, step, perform, reply, spawnOwned, churned, Station.new, insertNew,
    allocateHandle, insertAllocated, get]

/-- Removing entity 7 ends the round. -/
lemma remove_spawned {n : ℕ} (hn : n + 1 < 2 ^ 32) :
    (spawned n).handleStep (.op (.removeById ⟨7⟩)) = churned (n + 1) := by
  have hlook : (spawned n).byId.lookup ⟨7⟩ = some ⟨0, UInt32.ofNat n⟩ := rfl
  have hnext : (UInt32.ofNat n).saturatingAdd 1 = UInt32.ofNat (n + 1) := by
    rw [← UInt32.toNat_inj, UInt32.toNat_saturatingAdd, UInt32.toNat_ofNat_of_lt' hn,
      UInt32.toNat_ofNat_of_lt' (show n < 2 ^ 32 by omega)]
    show min (n + 1) (2 ^ 32 - 1) = n + 1
    omega
  have hempty : (((∅ : HashMap EntityId EntityHandle).insert ⟨7⟩ ⟨0, UInt32.ofNat n⟩).erase ⟨7⟩)
      = ∅ := rfl
  show ((spawned n).removeById ⟨7⟩).2 = _
  rw [removeById, hlook]
  dsimp only
  rw [remove_eq (get_spawned n)]
  simp only [hnext]
  simp [spawned, handleStep, step, perform, reply, spawnOwned, churned, Station.new, insertNew,
    allocateHandle, insertAllocated, EntityRecord.owned, hempty]

lemma churnRound_new : execute handleStep (Station.new (configWithStation 1)) churnRound
    = churned 1 := rfl

/-- After each round the slot is free again, one generation later. -/
lemma execute_churnRounds {n : ℕ} (hn : n + 1 < 2 ^ 32) :
    execute handleStep (Station.new (configWithStation 1))
      (List.replicate (n + 1) churnRound).flatten = churned (n + 1) := by
  induction n with
  | zero => exact churnRound_new
  | succ n ih =>
      rw [List.replicate_succ', List.flatten_append, execute_append, ih (by omega)]
      exact remove_spawned hn

lemma reachable_execute {s : Station F} (hs : s.Reachable) (ops : List (HandleOp F)) :
    (execute handleStep s ops).Reachable :=
  execute_preserves (fun _ op h => h.step op) hs ops

/-- In the last generation a removed handle finds the next entity of its slot. -/
theorem recycled_handle_resolves :
    ¬ ∀ (s : Station ℕ) (h : EntityHandle) (r : EntityRecord ℕ) (ops : List (HandleOp ℕ)),
      s.Reachable → s.get h = some r → (execute handleStep (s.remove h).2 ops).StaleAt h := by
  intro hall
  have hchurned : (churned (2 ^ 32 - 1)).Reachable := by
    rw [show 2 ^ 32 - 1 = (2 ^ 32 - 2) + 1 from rfl, ← execute_churnRounds (by decide)]
    exact reachable_execute (.new _) _
  have hstale := hall (spawned (2 ^ 32 - 1)) ⟨0, UInt32.maxValue⟩ _
    [.op (.spawnOwned ⟨7⟩ ⟨0, 0, 0⟩ .point ⟨0⟩)] (hchurned.step _) (get_spawned (2 ^ 32 - 1))
  exact absurd hstale.get (by decide)

end Recycled

end Station

end SectorSync
