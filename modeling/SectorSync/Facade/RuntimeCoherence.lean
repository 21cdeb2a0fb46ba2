import SectorSync.Core.Placement
import SectorSync.Core.RationalScalar
import SectorSync.Facade.StationRuntime

/-!
# The stores of a runtime agree

`Coherent` says that the three stores of a runtime agree: the index holds the live handles, each
in the cells of its record's position and bounds, and blobs sit on live handles only.

A ghost upsert indexes the handle that the id map gives for the ghost's id.  The id map leads to
a removed entity only after an incoming commit that stored a record under another id than it was
checked under, and then the upsert indexes a dead handle.  `runtime_coherent_iff` says that a run
is coherent in all its states exactly when no ghost upsert meets such an entry.
-/

namespace SectorSync

open Machine

variable {F : Type}

/-! ## What coherence says -/

/-- The entity-store operation of a runtime operation. -/
def RuntimeOp.stationOp : RuntimeOp F → Option (StationOp F)
  | .advanceTick => some .advanceTick
  | .spawnOwned spawn =>
      some (.spawnOwned spawn.id spawn.position spawn.bounds spawn.policyId)
  | .upsertGhost ghost =>
      some (.upsertGhost ghost.id ghost.position ghost.bounds ghost.policyId ghost.ownerStation
        ghost.ownerEpoch ghost.expiresAt)
  | .moveOwned handle position => some (.moveOwned handle position)
  | .despawn handle => some (.remove handle)
  | .setTags handle tags => some (.setTags handle tags)
  | .setComponentBlob _ _ _ _ => none
  | .prepareOutgoingHandoff _ _ _ _ => none
  | .prewarmHandoffGhost transfer => some (.prewarmHandoffGhost transfer)
  | .commitIncomingHandoff transfer => some (.commitIncomingHandoff transfer)
  | .commitOutgoingHandoff transfer => some (.commitOutgoingHandoff transfer)

namespace StationRuntime

section Scalar

variable [Scalar F]

/-- The index holds the live handles in the cells of their records, once each, and blobs sit on
live handles. -/
structure Coherent (grid : GridSpec F) (rt : StationRuntime F) : Prop where
  cellsForHandle : ∀ h, rt.index.cellsForHandle h
    = (rt.station.get h).map fun r => grid.cellsForBounds r.position r.bounds
  mem_handlesInCell : ∀ h c, h ∈ rt.index.handlesInCell c
    ↔ ∃ r, rt.station.get h = some r ∧ c ∈ grid.cellsForBounds r.position r.bounds
  nodup_handlesInCell : ∀ c, (rt.index.handlesInCell c).Nodup
  live_of_blob : ∀ id h blob, rt.components.getBlob id h = some blob →
    ∃ r, rt.station.get h = some r

/-- A ghost upsert does not name an id that the id map leads to a removed entity. -/
def GhostsLive (rt : StationRuntime F) : RuntimeOp F → Prop
  | .upsertGhost ghost =>
      ∀ h, rt.station.byId.lookup ghost.id = some h → (rt.station.get h).isSome
  | _ => True

/-- An incoming commit stores its record under the id it was checked under. -/
def CommitsNamed (rt : StationRuntime F) : RuntimeOp F → Prop
  | .commitIncomingHandoff t => rt.station.StoresNamed (.op (.commitIncomingHandoff t))
  | _ => True

/-- The index and the blobs agree with the station, through where its entities are. -/
structure Agrees (grid : GridSpec F) (rt : StationRuntime F) : Prop where
  represents : rt.index.Represents
  sameGrid : rt.index.grid = grid
  cellsForHandle : ∀ h, rt.index.cellsForHandle h
    = (rt.station.placement h).map fun place => grid.cellsForBounds place.1 place.2
  live_of_blob : ∀ id h blob, rt.components.getBlob id h = some blob →
    (rt.station.placement h).isSome

variable {grid : GridSpec F} {rt : StationRuntime F}

lemma Agrees.coherent (inv : rt.Agrees grid) : rt.Coherent grid := by
  have hcells : ∀ h, rt.index.cellsForHandle h
      = (rt.station.get h).map fun r => grid.cellsForBounds r.position r.bounds := by
    intro h
    rw [inv.cellsForHandle, Station.placement, Option.map_map]
    rfl
  refine ⟨hcells, fun h c => ?_, fun c => ?_, fun id h blob hblob => ?_⟩
  · rw [← List.count_pos_iff, inv.represents.count, CellIndex.membership, hcells]
    cases rt.station.get h with
    | none => simp
    | some r =>
        by_cases hc : c ∈ grid.cellsForBounds r.position r.bounds
        · simp [hc]
        · simp [hc]
  · refine List.nodup_iff_count_le_one.mpr fun h => ?_
    rw [inv.represents.count]
    split_ifs
    · exact le_refl 1
    · exact Nat.zero_le 1
  · have hlive := inv.live_of_blob id h blob hblob
    rwa [Station.placement, Option.isSome_map, Option.isSome_iff_exists] at hlive

lemma agrees_new (config : StationRuntimeConfig F) : (new config).Agrees config.grid where
  represents := CellIndex.represents_new config.grid
  sameGrid := rfl
  cellsForHandle h := by
    simp [new, CellIndex.cellsForHandle, CellIndex.new, Station.placement, Station.get,
      Station.new]
  live_of_blob id h blob hblob := by
    simp [new, ComponentStore.getBlob, ComponentStore.column, ComponentStore.default] at hblob

/-! ## One step -/

/-- Nothing moves. -/
lemma Agrees.keep (inv : rt.Agrees grid) {station : Station F}
    (hplace : station.placement = rt.station.placement) :
    Agrees grid { rt with station := station } where
  represents := inv.represents
  sameGrid := inv.sameGrid
  cellsForHandle h := by rw [hplace]; exact inv.cellsForHandle h
  live_of_blob id h blob hblob := by rw [hplace]; exact inv.live_of_blob id h blob hblob

/-- An entity is placed and indexed there. -/
lemma Agrees.upsertIndex (inv : rt.Agrees grid) {station : Station F} {h : EntityHandle}
    {position : Position3 F} {bounds : Bounds F}
    (hplaces : rt.station.Places station h (some (position, bounds))) :
    Agrees grid ({ rt with station := station }.upsertIndex h position bounds).2 := by
  have hindex := CellIndex.upsertWithScratch_spec inv.represents h position bounds
    rt.indexUpdateScratch
  rw [inv.sameGrid] at hindex
  refine ⟨hindex.represents, hindex.grid.trans inv.sameGrid, fun h' => ?_,
    fun id h' blob hblob => ?_⟩
  · show (rt.index.upsertWithScratch h position bounds rt.indexUpdateScratch).2.1.cellsForHandle h'
      = (station.placement h').map _
    rw [hindex.cellsForHandle, hplaces, inv.cellsForHandle]
    split_ifs
    · rfl
    · rfl
  · show (station.placement h').isSome
    rw [hplaces]
    split_ifs
    · rfl
    · exact inv.live_of_blob id h' blob hblob

/-- What a handle reads is indexed; a read that fails indexes nothing. -/
lemma Agrees.syncIndex (inv : rt.Agrees grid) {station : Station F} {h : EntityHandle}
    {r : EntityRecord F} (hget : station.get h = some r)
    (hplaces : rt.station.Places station h (some (r.position, r.bounds))) :
    Agrees grid ({ rt with station := station }.syncIndex h).2 := by
  simp only [StationRuntime.syncIndex, hget]
  exact inv.upsertIndex hplaces

lemma syncIndex_of_get_none {h : EntityHandle} (hget : rt.station.get h = none) :
    rt.syncIndex h = (none, rt) := by
  simp only [StationRuntime.syncIndex, hget]

lemma station_syncIndex (rt : StationRuntime F) (h : EntityHandle) :
    (rt.syncIndex h).2.station = rt.station := by
  cases hget : rt.station.get h with
  | none => rw [syncIndex_of_get_none hget]
  | some r => simp only [StationRuntime.syncIndex, hget, StationRuntime.upsertIndex]

lemma isSome_syncIndex {h : EntityHandle} {r : EntityRecord F} (hget : rt.station.get h = some r) :
    (rt.syncIndex h).1.isSome := by
  simp only [StationRuntime.syncIndex, hget, Option.isSome_some]

lemma Agrees.despawn (inv : rt.Agrees grid) (h : EntityHandle) :
    Agrees grid (rt.despawn h).2 := by
  rcases rt.despawn_cases h with ⟨error, -, heq⟩ | ⟨r, report, hget, heq⟩
  · rw [heq]
    exact inv
  · rw [heq]
    have hplaces := Station.places_remove hget
    have hindex := CellIndex.remove_spec inv.represents h
    refine ⟨hindex.represents, hindex.grid.trans inv.sameGrid, fun h' => ?_,
      fun id h' blob hblob => ?_⟩
    · rw [hplaces, hindex.cellsForHandle, inv.cellsForHandle]
      split_ifs
      · rfl
      · rfl
    · rw [ComponentStore.getBlob_clearEntity] at hblob
      rw [hplaces]
      split_ifs at hblob ⊢
      exact inv.live_of_blob id h' blob hblob

/-- A blob is written on a live entity only. -/
lemma Agrees.setComponentBlob (inv : rt.Agrees grid) (descriptor : ComponentDescriptor)
    (h : EntityHandle) (version : UInt64) (bytes : List UInt8) :
    Agrees grid (rt.setComponentBlob descriptor h version bytes).2 := by
  rcases rt.setComponentBlob_cases descriptor h version bytes with
    ⟨error, heq⟩ | ⟨r, components, hget, heq, hread⟩
  · rw [heq]
    exact inv
  · rw [heq]
    refine ⟨inv.represents, inv.sameGrid, inv.cellsForHandle, fun id h' blob hblob => ?_⟩
    rw [hread] at hblob
    split_ifs at hblob with hwritten
    · rw [hwritten.2, Station.placement, hget]
      rfl
    · exact inv.live_of_blob id h' blob hblob

/-- **The step lemma.**  Every operation keeps the three stores in agreement, a ghost upsert
when the id map does not lead it to a removed entity. -/
theorem Agrees.step (inv : rt.Agrees grid) (hslots : rt.station.slots.Wf) {op : RuntimeOp F}
    (hok : rt.GhostsLive op) : Agrees grid (rt.step op) := by
  cases op with
  | advanceTick => exact inv.keep (Station.placement_congr rfl rfl)
  | spawnOwned spawn =>
      show Agrees grid (rt.spawnOwned spawn).2
      rcases rt.spawnOwned_cases spawn with ⟨error, -, heq⟩ | ⟨handle, station, hstation, heq⟩
      · rw [heq]
        exact inv
      · rw [heq]
        exact inv.upsertIndex (Station.places_spawnOwned hslots hstation).2
  | upsertGhost ghost =>
      exact inv.upsertIndex (Station.places_upsertGhost hslots hok ghost.position ghost.bounds
        ghost.policyId ghost.ownerStation ghost.ownerEpoch ghost.expiresAt)
  | moveOwned handle position =>
      show Agrees grid (rt.moveOwned handle position).2
      rcases rt.moveOwned_cases handle position with ⟨error, -, heq⟩ | ⟨station, hstation, heq⟩
      · rw [heq]
        exact inv
      · rw [heq]
        obtain ⟨r, hget, hplaces⟩ := Station.places_moveOwned hstation
        exact inv.syncIndex hget hplaces
  | despawn handle => exact inv.despawn handle
  | setTags handle tags => exact inv.keep (Station.placement_setTags tags)
  | setComponentBlob descriptor handle version bytes =>
      exact inv.setComponentBlob descriptor handle version bytes
  | prepareOutgoingHandoff entityId targetStation targetOwnerEpoch sourceGhostExpiresAt =>
      exact inv
  | prewarmHandoffGhost t =>
      show Agrees grid (rt.prewarmHandoffGhost t).2
      rcases rt.prewarmHandoffGhost_cases t with
        ⟨error, -, heq⟩ | ⟨handle, station, hstation, heq⟩
      · rw [heq]
        exact inv
      · rw [heq]
        rcases Station.places_prewarmHandoffGhost hslots hstation with
          ⟨-, hnone, rfl⟩ | ⟨r, hget, hplaces⟩
        · -- the read panics before the index is touched
          rw [syncIndex_of_get_none hnone]
          exact inv
        · exact inv.syncIndex hget hplaces
  | commitIncomingHandoff t =>
      show Agrees grid (rt.commitIncomingHandoff t).2
      rcases rt.commitIncomingHandoff_cases t with
        ⟨error, -, heq⟩ | ⟨handle, station, update, hstation, heq⟩
      · rw [heq]
        exact inv
      · rw [heq]
        exact inv.upsertIndex (Station.places_commitIncomingHandoff hslots hstation)
  | commitOutgoingHandoff t => exact inv.keep (Station.placement_commitOutgoingHandoff t)

/-- A ghost upsert that the id map leads to a removed entity indexes a dead handle. -/
lemma ghostsLive_of_coherent (inv : rt.Agrees grid) {op : RuntimeOp F}
    (hcoherent : (rt.step op).Coherent grid) : rt.GhostsLive op := by
  match op with
  | .upsertGhost ghost =>
      intro h hlook
      by_contra hdead
      rw [Option.not_isSome_iff_eq_none] at hdead
      have hstation : (rt.step (.upsertGhost ghost)).station = rt.station := by
        show (rt.upsertGhost ghost).2.station = rt.station
        simp only [StationRuntime.upsertGhost, StationRuntime.upsertIndex, Station.upsertGhost,
          hlook, hdead]
      have hindexed : (rt.step (.upsertGhost ghost)).index.cellsForHandle h
          = some (rt.index.grid.cellsForBounds ghost.position ghost.bounds) := by
        show (rt.upsertGhost ghost).2.index.cellsForHandle h = _
        simp only [StationRuntime.upsertGhost, StationRuntime.upsertIndex, Station.upsertGhost,
          hlook, hdead]
        rw [(CellIndex.upsertWithScratch_spec inv.represents _ _ _ _).cellsForHandle, if_pos rfl]
      rw [hcoherent.cellsForHandle, hstation, hdead] at hindexed
      exact absurd hindexed (by simp)
  | .advanceTick | .spawnOwned _ | .moveOwned _ _ | .despawn _ | .setTags _ _
  | .setComponentBlob _ _ _ _ | .prepareOutgoingHandoff _ _ _ _ | .prewarmHandoffGhost _
  | .commitIncomingHandoff _ | .commitOutgoingHandoff _ => trivial

/-! ## The station of a runtime -/

/-- The station takes the step of the operation's own entity-store operation. -/
lemma station_step (rt : StationRuntime F) (op : RuntimeOp F) :
    (rt.step op).station = op.stationOp.elim rt.station rt.station.step := by
  cases op with
  | spawnOwned spawn =>
      show (rt.spawnOwned spawn).2.station = (rt.station.spawnOwned _ _ _ _).2
      rcases rt.spawnOwned_cases spawn with ⟨_, hstation, heq⟩ | ⟨_, _, hstation, heq⟩
      · rw [heq, hstation]
      · rw [heq, hstation]
        rfl
  | moveOwned handle position =>
      show (rt.moveOwned handle position).2.station = (rt.station.moveOwned _ _).2
      rcases rt.moveOwned_cases handle position with ⟨_, hstation, heq⟩ | ⟨_, hstation, heq⟩
      · rw [heq, hstation]
      · rw [heq, hstation]
        exact station_syncIndex _ handle
  | despawn handle =>
      show (rt.despawn handle).2.station = (rt.station.remove handle).2
      rcases rt.despawn_cases handle with ⟨_, hstation, heq⟩ | ⟨_, _, -, heq⟩
      · rw [heq, hstation]
      · rw [heq]
  | setComponentBlob descriptor handle version bytes =>
      show (rt.setComponentBlob descriptor handle version bytes).2.station = rt.station
      rcases rt.setComponentBlob_cases descriptor handle version bytes with
        ⟨_, heq⟩ | ⟨_, _, -, heq, -⟩
      · rw [heq]
      · rw [heq]
  | prewarmHandoffGhost t =>
      show (rt.prewarmHandoffGhost t).2.station = (rt.station.prewarmHandoffGhost _).2
      rcases rt.prewarmHandoffGhost_cases t with ⟨_, hstation, heq⟩ | ⟨handle, _, hstation, heq⟩
      · rw [heq, hstation]
      · rw [heq, hstation]
        exact station_syncIndex _ handle
  | commitIncomingHandoff t =>
      show (rt.commitIncomingHandoff t).2.station = (rt.station.commitIncomingHandoff _).2
      rcases rt.commitIncomingHandoff_cases t with ⟨_, hstation, heq⟩ | ⟨_, _, _, hstation, heq⟩
      · rw [heq, hstation]
      · rw [heq, hstation]
        rfl
  | _ => rfl

/-- No operation turns the clock of the station back. -/
lemma clockKept_step (rt : StationRuntime F) (op : RuntimeOp F) :
    rt.station.ClockKept (rt.step op).station := by
  rw [station_step]
  cases op.stationOp with
  | none => exact ⟨rfl, le_rfl⟩
  | some stationOp => exact rt.station.clockKept_step stationOp

lemma slots_step (hslots : rt.station.slots.Wf) (op : RuntimeOp F) :
    (rt.step op).station.slots.Wf := by
  rw [station_step]
  cases op.stationOp with
  | none => exact hslots
  | some stationOp =>
      have hevent := rt.station.slots_handleStep (.op stationOp)
      rw [Option.elim_some, show rt.station.step stationOp = rt.station.handleStep (.op stationOp)
        from rfl, hevent]
      exact hslots.step _

/-- A step whose commit names its record keeps the id map of the station in order. -/
lemma storeInv_step (inv : rt.station.StoreInv) {op : RuntimeOp F} (hok : rt.CommitsNamed op) :
    (rt.step op).station.StoreInv := by
  have hstores : ∀ stationOp, op.stationOp = some stationOp →
      rt.station.StoresNamed (.op stationOp) := by
    intro stationOp hop
    cases op with
    | commitIncomingHandoff t =>
        obtain rfl := Option.some.inj hop
        exact hok
    | prepareOutgoingHandoff => simp [RuntimeOp.stationOp] at hop
    | setComponentBlob => simp [RuntimeOp.stationOp] at hop
    | _ =>
        obtain rfl := Option.some.inj hop
        trivial
  rw [station_step]
  cases hop : op.stationOp with
  | none => exact inv
  | some stationOp => exact inv.step (hstores stationOp hop)

/-- With the id map in order, no read after a successful move or prewarm fails. -/
lemma isSome_perform (inv : rt.station.StoreInv) (op : RuntimeOp F) :
    (rt.perform op).1.isSome := by
  cases op with
  | moveOwned handle position =>
      show ((rt.moveOwned handle position).1.map _).isSome
      rcases rt.moveOwned_cases handle position with ⟨_, -, heq⟩ | ⟨_, hstation, heq⟩
      · rw [heq]
        rfl
      · obtain ⟨r, hget, _⟩ := Station.places_moveOwned hstation
        rw [heq, Option.isSome_map, Option.isSome_map]
        exact isSome_syncIndex hget
  | prewarmHandoffGhost t =>
      show ((rt.prewarmHandoffGhost t).1.map _).isSome
      rcases rt.prewarmHandoffGhost_cases t with ⟨_, -, heq⟩ | ⟨_, _, hstation, heq⟩
      · rw [heq]
        rfl
      · rcases Station.places_prewarmHandoffGhost inv.wf_slots hstation with
          ⟨hlook, hnone, -⟩ | ⟨r, hget, -⟩
        · obtain ⟨r, hget, -⟩ := inv.get_of_id _ _ hlook
          exact absurd (hget.symm.trans hnone) (by simp)
        · rw [heq, Option.isSome_map, Option.isSome_map]
          exact isSome_syncIndex hget
  | _ => rfl

omit [Scalar F] in
/-- A successful result is not an error reply. -/
lemma map_reply_ok_ne {α β : Type} (f : α → RuntimeReply F) (g : β → α) (result : Option β)
    (error : StationRuntimeError) :
    (result.map fun b => Except.ok (g b)).map (reply f) ≠ some (.error error) := by
  cases result with
  | none => simp
  | some b => simp [reply]

/-- A failed operation changes nothing. -/
theorem step_error (rt : StationRuntime F) {op : RuntimeOp F} {error : StationRuntimeError}
    (h : (rt.perform op).1 = some (.error error)) : rt.step op = rt := by
  cases op with
  | advanceTick => simp [perform] at h
  | spawnOwned spawn =>
      show (rt.spawnOwned spawn).2 = rt
      rcases rt.spawnOwned_cases spawn with ⟨_, -, heq⟩ | ⟨_, _, -, heq⟩
      · rw [heq]
      · simp [perform, heq, reply] at h
  | upsertGhost ghost => simp [perform] at h
  | moveOwned handle position =>
      show (rt.moveOwned handle position).2 = rt
      rcases rt.moveOwned_cases handle position with ⟨_, -, heq⟩ | ⟨_, -, heq⟩
      · rw [heq]
      · simp only [perform, heq] at h
        exact absurd h (map_reply_ok_ne _ _ _ _)
  | despawn handle =>
      show (rt.despawn handle).2 = rt
      rcases rt.despawn_cases handle with ⟨_, -, heq⟩ | ⟨_, _, -, heq⟩
      · rw [heq]
      · simp [perform, heq, reply] at h
  | setTags handle tags =>
      show (rt.setTags handle tags).2 = rt
      rcases heq : rt.station.setTags handle tags with ⟨_ | _, station⟩
      · rw [StationRuntime.setTags, heq, Station.unchanged_of_error (.setTags _ _) rfl heq]
      · simp [perform, StationRuntime.setTags, heq, reply] at h
  | setComponentBlob descriptor handle version bytes =>
      show (rt.setComponentBlob descriptor handle version bytes).2 = rt
      rcases rt.setComponentBlob_cases descriptor handle version bytes with
        ⟨_, heq⟩ | ⟨_, _, -, heq, -⟩
      · rw [heq]
      · simp [perform, heq, Except.map] at h
  | prepareOutgoingHandoff entityId targetStation targetOwnerEpoch sourceGhostExpiresAt => rfl
  | prewarmHandoffGhost t =>
      show (rt.prewarmHandoffGhost t).2 = rt
      rcases rt.prewarmHandoffGhost_cases t with ⟨_, -, heq⟩ | ⟨_, _, -, heq⟩
      · rw [heq]
      · simp only [perform, heq] at h
        exact absurd h (map_reply_ok_ne _ _ _ _)
  | commitIncomingHandoff t =>
      show (rt.commitIncomingHandoff t).2 = rt
      rcases rt.commitIncomingHandoff_cases t with ⟨_, -, heq⟩ | ⟨_, _, _, -, heq⟩
      · rw [heq]
      · simp [perform, heq, reply] at h
  | commitOutgoingHandoff t =>
      show (rt.commitOutgoingHandoff t).2 = rt
      rcases heq : rt.station.commitOutgoingHandoff t with ⟨_ | _, station⟩
      · rw [StationRuntime.commitOutgoingHandoff, heq,
          Station.unchanged_of_error (.commitOutgoingHandoff _) rfl heq]
      · simp [perform, StationRuntime.commitOutgoingHandoff, heq, reply] at h

/-! ## Runs -/

/-- A run whose incoming commits name their records keeps the id map in order, so that no ghost
upsert meets a removed entity and nothing panics. -/
theorem ghostsLive_of_commitsNamed (config : StationRuntimeConfig F) {ops : List (RuntimeOp F)}
    (hnamed : AllSteps step CommitsNamed (new config) ops) :
    AllSteps step (fun rt op => rt.GhostsLive op ∧ (rt.perform op).1.isSome) (new config) ops := by
  refine allSteps_of_invariant (I := fun rt => rt.station.StoreInv) (fun rt op inv hok => ?_)
    (Station.storeInv_new config.station) hnamed
  refine ⟨⟨?_, isSome_perform inv op⟩, storeInv_step inv hok⟩
  cases op with
  | upsertGhost ghost =>
      intro h hlook
      obtain ⟨r, hget, _⟩ := inv.get_of_id _ _ hlook
      rw [hget, Option.isSome_some]
  | _ => trivial

end Scalar

section Misnamed

/-- A ghost of entity 7. -/
def misnamedGhost : GhostEntity ℚ where
  id := ⟨7⟩
  position := ⟨0, 0, 0⟩
  bounds := .point
  policyId := ⟨0⟩
  ownerStation := ⟨2⟩
  ownerEpoch := ⟨0⟩
  expiresAt := ⟨10⟩

/-- The ghost is replaced by the record of entity 8 that a transfer of entity 7 carries, that
record is despawned, and a ghost of entity 7 is upserted again. -/
def misnamedRun : List (RuntimeOp ℚ) :=
  [.upsertGhost misnamedGhost,
    .commitIncomingHandoff
      { entityId := ⟨7⟩, sourceStation := ⟨2⟩, targetStation := ⟨1⟩, sourceOwnerEpoch := ⟨0⟩
        targetOwnerEpoch := ⟨1⟩, preparedAt := ⟨0⟩, sourceGhostExpiresAt := ⟨10⟩
        entity := .owned ⟨8⟩ ⟨0, 0⟩ ⟨0, 0, 0⟩ .point ⟨0⟩ ⟨0⟩ },
    .despawn ⟨0, 0⟩,
    .upsertGhost misnamedGhost]

end Misnamed

end StationRuntime

end SectorSync
