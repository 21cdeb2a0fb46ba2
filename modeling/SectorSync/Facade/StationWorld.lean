import SectorSync.Base.Sharding
import SectorSync.Facade.RuntimeCoherence
import SectorSync.Runtime.IndexedLookup
import SectorSync.Runtime.MovedCells
import SectorSync.Runtime.SingleOwner
import SectorSync.Runtime.SplitExecution

/-!
# The stations keep one map of entities

A deployment edits entities at the stations that own them, migrates cells between stations and
executes split schedules.  Seen from outside it keeps one map from entity ids to their data, the
`Population`: a spawn, a move, a change of tags and a despawn edit one entry of it, and a migration
is not seen at all.

`stations_refine_population` proves this of every `Orderly` run: a station is added under a new id,
an entity is spawned that no station owns, no handoff is done by hand, no ghost is upserted over an
entity that its station owns, and every split has two different stations.  In all its states each
entity of the population is owned by exactly one station, with the data that the population has,
nothing else is owned anywhere, every index agrees with its station, and nothing panics.
-/

namespace SectorSync

open Machine

variable {F : Type}

/-! ## What a station holds -/

/-- What stays with an entity wherever it is owned. -/
structure EntityData (F : Type) where
  position : Position3 F
  bounds : Bounds F
  policyId : PolicyId
  tags : EntityTags

def EntityRecord.data (record : EntityRecord F) : EntityData F :=
  ⟨record.position, record.bounds, record.policyId, record.tags⟩

/-- A map from entity ids to data. -/
abbrev Population (F : Type) := EntityId → Option (EntityData F)

/-- The data of an owned record. -/
def EntityRecord.held (record : EntityRecord F) : Option (EntityData F) :=
  if record.isOwned then some record.data else none

/-- The entities that a station owns. -/
def Station.held (s : Station F) : Population F := fun e => (s.getById e).bind EntityRecord.held

/-- An edit of one entity. -/
inductive EntityEdit (F : Type) where
  | spawn (data : EntityData F)
  | reposition (position : Position3 F)
  | retag (tags : EntityTags)
  | despawn

/-- The data of an entity after an edit. -/
def EntityEdit.apply : EntityEdit F → Option (EntityData F) → Option (EntityData F)
  | .spawn data, _ => some data
  | .reposition position, data => data.map fun data => { data with position := position }
  | .retag tags, data => data.map fun data => { data with tags := tags }
  | .despawn, _ => none

/-- The map after at most one edit. -/
def Population.edited (population : Population F) :
    Option (EntityId × EntityEdit F) → Population F
  | none => population
  | some (e, edit) => Function.update population e (edit.apply (population e))

namespace Station

/-- The id of the entity that a station owns under a handle. -/
def ownedId (s : Station F) (handle : EntityHandle) : Option EntityId :=
  ((s.get handle).filter (·.isOwned)).map (·.id)

/-- The edit that an operation makes at a station. -/
def editOf (s : Station F) : RuntimeOp F → Option (EntityId × EntityEdit F)
  | .spawnOwned spawn =>
      if (s.getById spawn.id).isNone then
        some (spawn.id, .spawn ⟨spawn.position, spawn.bounds, spawn.policyId, .empty⟩)
      else none
  | .moveOwned handle position => (s.ownedId handle).map fun e => (e, .reposition position)
  | .setTags handle tags => (s.ownedId handle).map fun e => (e, .retag tags)
  | .despawn handle => (s.ownedId handle).map fun e => (e, .despawn)
  | _ => none

/-- The operation is none of a handoff, and no ghost replaces an owned entity. -/
def EditsLocally (s : Station F) : RuntimeOp F → Prop
  | .upsertGhost ghost => s.owns ghost.id = false
  | .prewarmHandoffGhost _ | .commitIncomingHandoff _ | .commitOutgoingHandoff _ => False
  | _ => True

instance (s : Station F) (op : RuntimeOp F) : Decidable (s.EditsLocally op) :=
  match op with
  | .upsertGhost ghost => inferInstanceAs (Decidable (s.owns ghost.id = false))
  | .prewarmHandoffGhost _ | .commitIncomingHandoff _ | .commitOutgoingHandoff _ =>
      inferInstanceAs (Decidable False)
  | .advanceTick | .spawnOwned _ | .moveOwned _ _ | .despawn _ | .setTags _ _
  | .setComponentBlob _ _ _ _ | .prepareOutgoingHandoff _ _ _ _ =>
      inferInstanceAs (Decidable True)

variable {s s' : Station F}

lemma isSome_held (s : Station F) (e : EntityId) : (s.held e).isSome = s.owns e := by
  rw [held, owns]
  cases s.getById e with
  | none => rfl
  | some record =>
      rw [Option.bind_some, Option.any_some, EntityRecord.held]
      cases record.isOwned <;> rfl

lemma held_eq_none {e : EntityId} (howns : s.owns e = false) : s.held e = none := by
  rw [← Option.not_isSome_iff_eq_none, isSome_held, howns]
  exact Bool.false_ne_true

/-- Writing one record edits one entry. -/
lemma Updates.held {e : EntityId} {record : EntityRecord F} (hup : Updates s s' e record) :
    s'.held = Function.update s.held e record.held := by
  funext e'
  rw [Station.held, hup.getById]
  by_cases he : e' = e
  · rw [if_pos he, he, Function.update_self]
    rfl
  · rw [if_neg he, Function.update_of_ne he]
    rfl

lemma ownedId_eq_some {handle : EntityHandle} {e : EntityId} :
    s.ownedId handle = some e ↔ ∃ r, s.get handle = some r ∧ r.isOwned = true ∧ r.id = e := by
  simp [ownedId, Option.filter_eq_some_iff, and_assoc]

lemma ownedId_eq_none {handle : EntityHandle} :
    s.ownedId handle = none ↔ ∀ r, s.get handle = some r → r.isOwned = false := by
  simp [ownedId, Option.filter_eq_none_iff]

/-- What a station owns under a handle is held with the data of its record. -/
lemma StoreInv.held_of_get (inv : s.StoreInv) {handle : EntityHandle} {r : EntityRecord F}
    (hget : s.get handle = some r) : s.held r.id = r.held := by
  have hby : s.getById r.id = some r :=
    getById_eq_some.mpr ⟨handle, (inv.id_of_get handle r hget).1, hget⟩
  rw [held, hby, Option.bind_some]

lemma StoreInv.isSome_held_of_ownedId (inv : s.StoreInv) {handle : EntityHandle} {e : EntityId}
    (he : s.ownedId handle = some e) : (s.held e).isSome := by
  obtain ⟨r, hget, howned, rfl⟩ := ownedId_eq_some.mp he
  rw [inv.held_of_get hget, EntityRecord.held, if_pos howned]
  rfl

/-- An edit of an entity that a station owns under a handle, or of none. -/
lemma edited_ownedId_of_not_owned {handle : EntityHandle} (edit : EntityEdit F)
    (hget : ∀ r, s.get handle = some r → r.isOwned = false) (population : Population F) :
    population.edited ((s.ownedId handle).map fun e => (e, edit)) = population := by
  rw [ownedId_eq_none.mpr hget]
  rfl

/-- Overwriting the record of an owned entity by an owned one edits its data; a ghost is not
written. -/
lemma held_writeOwned (inv : s.StoreInv) (handle : EntityHandle)
    (write : EntityRecord F → EntityRecord F) (edit : EntityEdit F)
    (hwrite : ∀ r, (write r).id = r.id ∧ (write r).handle = r.handle ∧ (write r).role = r.role
      ∧ some (write r).data = edit.apply (some r.data))
    (howned : ∀ r, s.get handle = some r → r.isOwned = true →
      s' = s.writeRecord handle (write r))
    (hother : (∀ r, s.get handle = some r → r.isOwned = false) → s' = s) :
    s'.held = Population.edited s.held ((s.ownedId handle).map fun e => (e, edit))
      ∧ s'.config = s.config := by
  cases he : s.ownedId handle with
  | none =>
      rw [hother (ownedId_eq_none.mp he)]
      exact ⟨rfl, rfl⟩
  | some e =>
      obtain ⟨r, hget, hr, rfl⟩ := ownedId_eq_some.mp he
      obtain ⟨hid, hhandle, hrole, hdata⟩ := hwrite r
      rw [howned r hget hr]
      refine ⟨?_, rfl⟩
      have hwritten : (write r).held = edit.apply (s.held r.id) := by
        rw [inv.held_of_get hget, EntityRecord.held, EntityRecord.held, if_pos hr, ← hdata,
          if_pos (by rw [EntityRecord.isOwned, hrole]; exact hr)]
      rw [(updates_writeRecord inv hget hid hhandle).held, hwritten]
      rfl

lemma held_remove (inv : s.StoreInv) {handle : EntityHandle} {r : EntityRecord F}
    (hget : s.get handle = some r) :
    (s.remove handle).2.held = Function.update s.held r.id none := by
  funext e
  rw [held, inv.getById_remove hget]
  by_cases he : e = r.id
  · rw [if_pos he, he, Function.update_self]
    rfl
  · rw [if_neg he, Function.update_of_ne he]
    rfl

/-- **What an operation does to the entities of its station.**  It makes the edit that `editOf`
names, or none. -/
lemma held_stationOp (inv : s.StoreInv) {op : RuntimeOp F} (hlocal : s.EditsLocally op) :
    (op.stationOp.elim s s.step).held = Population.edited s.held (s.editOf op)
      ∧ (op.stationOp.elim s s.step).config = s.config := by
  cases op with
  | advanceTick | setComponentBlob | prepareOutgoingHandoff => exact ⟨rfl, rfl⟩
  | prewarmHandoffGhost | commitIncomingHandoff | commitOutgoingHandoff => exact hlocal.elim
  | spawnOwned spawn =>
      show (s.spawnOwned _ _ _ _).2.held = _ ∧ (s.spawnOwned _ _ _ _).2.config = _
      rcases spawnOwned_spec spawn.id spawn.position spawn.bounds spawn.policyId inv with
        ⟨hsome, heq⟩ | ⟨hnone, handle, s', heq, hup⟩
      · have hknown : ¬ (s.getById spawn.id).isNone = true := by
          rw [Option.isNone_iff_eq_none]
          exact Option.isSome_iff_ne_none.mp hsome
        rw [heq, editOf, if_neg hknown]
        exact ⟨rfl, rfl⟩
      · rw [heq, editOf, if_pos (by rw [hnone]; rfl)]
        exact ⟨hup.held, hup.config⟩
  | upsertGhost ghost =>
      show (s.upsertGhost _ _ _ _ _ _ _).2.held = _ ∧ (s.upsertGhost _ _ _ _ _ _ _).2.config = _
      obtain ⟨handle, r, s', heq, hup, hrole, -⟩ := upsertGhost_spec ghost.id ghost.position
        ghost.bounds ghost.policyId ghost.ownerStation ghost.ownerEpoch ghost.expiresAt inv
      rw [heq]
      refine ⟨?_, hup.config⟩
      have hheld : r.held = s.held ghost.id := by
        rw [held_eq_none hlocal, EntityRecord.held, EntityRecord.isOwned, hrole]
        rfl
      rw [hup.held, hheld, Function.update_eq_self]
      rfl
  | moveOwned handle position =>
      show (s.moveOwned handle position).2.held = _ ∧ (s.moveOwned handle position).2.config = _
      refine held_writeOwned inv handle
        (fun r => { r with position := position, dirty := r.dirty.insert .transform })
        (.reposition position) (fun r => ⟨rfl, rfl, rfl, rfl⟩) (fun r hget hr => ?_)
        fun hother => ?_
      · simp only [moveOwned, hget, if_pos hr]
      · cases hget : s.get handle with
        | none => simp only [moveOwned, hget]
        | some r => simp [moveOwned, hget, hother r hget]
  | setTags handle tags =>
      show (s.setTags handle tags).2.held = _ ∧ (s.setTags handle tags).2.config = _
      refine held_writeOwned inv handle
        (fun r => { r with tags := tags, dirty := r.dirty.insert .tags })
        (.retag tags) (fun r => ⟨rfl, rfl, rfl, rfl⟩) (fun r hget hr => ?_) fun hother => ?_
      · simp only [setTags, hget, if_pos hr]
      · cases hget : s.get handle with
        | none => simp only [setTags, hget]
        | some r => simp [setTags, hget, hother r hget]
  | despawn handle =>
      show (s.remove _).2.held = _ ∧ (s.remove _).2.config = _
      cases hget : s.get handle with
      | none =>
          rw [remove, hget]
          exact ⟨(edited_ownedId_of_not_owned _ (by simp [hget]) _).symm, rfl⟩
      | some r =>
          rw [held_remove inv hget, remove_eq hget]
          refine ⟨?_, rfl⟩
          by_cases howned : r.isOwned = true
          · rw [editOf, ownedId_eq_some.mpr ⟨r, hget, howned, rfl⟩]
            rfl
          · have hnone : s.held r.id = none := by
              rw [inv.held_of_get hget, EntityRecord.held, if_neg howned]
            rw [editOf, edited_ownedId_of_not_owned _ (by simpa [hget] using howned), ← hnone,
              Function.update_eq_self]

end Station

/-- One place edits an entity that it holds, or one that nobody holds. -/
lemma Shards.edited {P : Type} {held held' : P → Population F} {population : Population F}
    (h : Shards held population) {p : P} {edit : Option (EntityId × EntityEdit F)}
    (hself : held' p = Population.edited (held p) edit) (hothers : ∀ q, q ≠ p → held' q = held q)
    (hfree : ∀ e change, edit = some (e, change) → (held p e).isSome ∨ population e = none) :
    Shards held' (population.edited edit) := by
  cases edit with
  | none =>
      refine h.congr fun q e => ?_
      by_cases hq : q = p
      · rw [hq, hself]
        rfl
      · rw [hothers q hq]
  | some change =>
      obtain ⟨e, change⟩ := change
      have halone : ∀ q, q ≠ p → held q e = none := by
        intro q hq
        rcases hfree e change rfl with hheld | hnone
        · exact h.alone hheld hq
        · exact h.held_eq_none hnone q
      have hentry : population e = held p e := by
        rcases hfree e change rfl with hheld | hnone
        · exact h.entries_eq hheld
        · rw [hnone, h.held_eq_none hnone]
      rw [Population.edited, hentry]
      refine h.write halone ?_ fun q j hqj => ?_
      · rw [hself, Population.edited, Function.update_self]
      · by_cases hq : q = p
        · have hj : j ≠ e := hqj.resolve_right (not_not.mpr hq)
          rw [hq, hself, Population.edited, Function.update_of_ne hj]
        · rw [hothers q hq]

/-! ## A station with its index -/

namespace StationRuntime

section Scalar

variable [Scalar F]

/-- A station and its index as a runtime that has no blobs. -/
def ofParts (station : Station F) (index : CellIndex F) : StationRuntime F :=
  ⟨station, index, .default, ⟨[]⟩⟩

lemma agrees_ofParts {s : Station F} {index : CellIndex F} (hcoherent : index.Coherent s)
    (hexact : index.Exact s) : (ofParts s index).Agrees index.grid where
  represents := hcoherent.represents
  sameGrid := rfl
  cellsForHandle h := by
    show index.cellsForHandle h = (s.placement h).map _
    rw [Station.placement, Option.map_map]
    cases hget : s.get h with
    | some r => exact hcoherent.cellsForHandle h r hget
    | none =>
        cases hcells : index.cellsForHandle h with
        | none => rfl
        | some cells =>
            have hlive := hexact h cells hcells
            rw [hget] at hlive
            cases hlive
  live_of_blob id h blob hblob := by
    simp [ofParts, ComponentStore.getBlob, ComponentStore.column, ComponentStore.default] at hblob

lemma Agrees.coherent_exact {grid : GridSpec F} {rt : StationRuntime F} (inv : rt.Agrees grid) :
    rt.index.Coherent rt.station ∧ rt.index.Exact rt.station := by
  refine ⟨⟨inv.represents, fun h r hget => ?_⟩, fun h cells hcells => ?_⟩
  · rw [inv.cellsForHandle, inv.sameGrid, Station.placement, hget]
    rfl
  · rw [inv.cellsForHandle, Option.map_eq_some_iff] at hcells
    obtain ⟨place, hplace, -⟩ := hcells
    rw [← Station.isSome_placement, hplace]
    rfl

/-- What a local operation leaves of a station and its index. -/
lemma ofParts_perform {s : Station F} {index : CellIndex F} (inv : s.StoreInv)
    (hcoherent : index.Coherent s) (hexact : index.Exact s) {op : RuntimeOp F}
    (hlocal : s.EditsLocally op) :
    ∃ result rt, (ofParts s index).perform op = (some result, rt) ∧ rt.station.StoreInv
      ∧ rt.station.config = s.config ∧ rt.index.Coherent rt.station ∧ rt.index.Exact rt.station
      ∧ rt.station.held = Population.edited s.held (s.editOf op) := by
  have hstart : (ofParts s index).station.StoreInv := inv
  have hghosts : (ofParts s index).GhostsLive op := by
    cases op with
    | upsertGhost ghost =>
        intro h hlook
        obtain ⟨r, hget, -⟩ := inv.get_of_id _ _ hlook
        show (s.get h).isSome
        rw [hget, Option.isSome_some]
    | _ => trivial
  have hnamed : (ofParts s index).CommitsNamed op := by
    cases op with
    | commitIncomingHandoff t => exact hlocal.elim
    | _ => trivial
  obtain ⟨result, hresult⟩ := Option.isSome_iff_exists.mp (isSome_perform hstart op)
  have hagrees := (agrees_ofParts hcoherent hexact).step inv.wf_slots hghosts
  have hstore := storeInv_step hstart hnamed
  obtain ⟨hheld, hconfig⟩ := Station.held_stationOp inv hlocal
  rw [show op.stationOp.elim s s.step = ((ofParts s index).step op).station from
    (station_step (ofParts s index) op).symm] at hheld hconfig
  exact ⟨result, (ofParts s index).step op, Prod.ext hresult rfl, hstore, hconfig,
    hagrees.coherent_exact.1, hagrees.coherent_exact.2, hheld⟩

end Scalar

end StationRuntime

/-! ## The stations of a migration -/

namespace CellMigrationExecutor

section Migrate

variable [Scalar F] {source target : StationId} {ttl : UInt64}

lemma map_id_migrateNext {m m' : CellMigration F} {e : EntityId} (hset : m.stations.Valid)
    (hok : migrateNext source target ttl m e = some (.ok (), m')) :
    m'.stations.stations.map Station.id = m.stations.stations.map Station.id := by
  by_cases hseen : e ∈ m.seenEntities
  · rw [migrateNext, if_pos hseen] at hok
    simp only [Option.some.injEq, Prod.mk.injEq, true_and] at hok
    rw [← hok]
  · rw [migrateNext, if_neg hseen] at hok
    rcases hcall : migrateEntity m.stations e source target ttl with _ | ⟨error | report, set'⟩
    · simp [hcall] at hok
    · simp [hcall] at hok
    · have hids := (migrateEntity_records hset hcall).2.1
      obtain ⟨hne, s, t, hs, ht, howns⟩ := migrateEntity_ok hcall
      obtain ⟨report', set'', s', t', r, hcall', -, -, hget, -, -, -, -, -, -, -, -, hghost,
        howner, -⟩ := migrateEntity_handles ttl hset hne hs ht howns
      obtain ⟨hreport, rfl⟩ := Prod.mk.inj (Option.some.inj (hcall.symm.trans hcall'))
      obtain rfl := Except.ok.inj hreport
      have hs' : set'.get source = some s' := by rw [hget, if_pos rfl]
      have ht' : set'.get target = some t' := by rw [hget, if_neg hne.symm, if_pos rfl]
      simp only [hcall, hs', ht', hghost, howner, Option.some.injEq, Prod.mk.injEq, true_and]
        at hok
      rw [← hok]
      exact hids

lemma map_id_migrateAll {m m' : CellMigration F} {entityIds : List EntityId}
    (hset : m.stations.Valid)
    (hok : migrateAll source target ttl m entityIds = some (.ok (), m')) :
    m'.stations.stations.map Station.id = m.stations.stations.map Station.id := by
  induction entityIds generalizing m with
  | nil =>
      simp only [migrateAll, Option.some.injEq, Prod.mk.injEq, true_and] at hok
      rw [← hok]
  | cons e entityIds ih =>
      rw [migrateAll] at hok
      cases hnext : migrateNext source target ttl m e with
      | none => simp [hnext] at hok
      | some outcome =>
          obtain ⟨error | _, m₁⟩ := outcome
          · simp [hnext] at hok
          · simp only [hnext] at hok
            rw [ih (leavesOthers_migrateNext ttl hset hnext).valid hok,
              map_id_migrateNext hset hnext]

/-- A migration of cells that succeeds keeps the ids of the stations. -/
lemma map_id_migrateCells {stations : StationSet F} {sourceIndex targetIndex : CellIndex F}
    {cells : List CellCoord3} {m : CellMigration F} (hset : stations.Valid)
    (hok : migrateCells source target ttl stations sourceIndex targetIndex cells
      = some (.ok (), m)) :
    m.stations.stations.map Station.id = stations.stations.map Station.id := by
  simp only [migrateCells] at hok
  cases hs : stations.get source with
  | none => simp [hs] at hok
  | some s =>
      simp only [hs] at hok
      exact map_id_migrateAll hset hok

end Migrate

end CellMigrationExecutor

/-! ## The deployment -/

/-- The stations of a deployment with their indexes and the ownership of cells.  The population is
what the deployment is for, and no operation reads it. -/
structure StationWorld (F : Type) where
  stations : StationSet F
  indexes : StationIndexSet F
  ownership : CellOwnershipTable
  population : Population F

/-- What a host does with the stations. -/
inductive WorldOp (F : Type) where
  | addStation (config : StationRuntimeConfig F)
  | removeStation (id : StationId)
  | edit (id : StationId) (op : RuntimeOp F)
  | migrateCells (source target : StationId) (ghostTtlTicks : UInt64) (cells : List CellCoord3)
  | executeSplits (config : SplitSchedulerConfig) (schedule : SplitSchedule)

namespace StationWorld

/-- No stations. -/
def start : StationWorld F := ⟨.new, .new, .new, fun _ => none⟩

/-- The entities that the station of an id owns. -/
def held (w : StationWorld F) (id : StationId) : Population F :=
  fun e => (w.stations.get id).bind fun s => s.held e

lemma held_eq (w : StationWorld F) {id : StationId} {s : Station F}
    (hs : w.stations.get id = some s) : w.held id = s.held := by
  funext e
  rw [held, hs, Option.bind_some]

lemma isSome_held (w : StationWorld F) (id : StationId) (e : EntityId) :
    (w.held id e).isSome = w.stations.owns id e := by
  rw [held, StationSet.owns]
  cases w.stations.get id with
  | none => rfl
  | some s => rw [Option.bind_some, Option.any_some, Station.isSome_held]

section Scalar

variable [Scalar F]

/-- The deployment after an operation, or `none` when it panics. -/
def call (w : StationWorld F) : WorldOp F → Option (StationWorld F)
  | .addStation config =>
      some { w with
        stations := w.stations.push (.new config.station)
        indexes := w.indexes.insert config.station.stationId (.new config.grid) }
  | .removeStation id =>
      some { w with
        stations := (w.stations.remove id).elim w.stations Prod.snd
        indexes := (w.indexes.remove id).elim w.indexes Prod.snd
        population := fun e => if (w.held id e).isSome then none else w.population e }
  | .edit id op =>
      match w.stations.get id, w.indexes.get id with
      | some s, some index =>
          let (result, rt) := (StationRuntime.ofParts s index).perform op
          result.map fun _ =>
            { w with
              stations := w.stations.put id rt.station
              indexes := w.indexes.put id rt.index
              population := w.population.edited (s.editOf op) }
      | _, _ => some w
  | .migrateCells source target ghostTtlTicks cells =>
      match w.indexes.getPairMut source target with
      | none => some w
      | some (sourceIndex, targetIndex) =>
          (CellMigrationExecutor.migrateCells source target ghostTtlTicks w.stations sourceIndex
            targetIndex cells).map fun (_, m) =>
              { w with
                stations := m.stations
                indexes := (w.indexes.put source m.sourceIndex).put target m.targetIndex }
  | .executeSplits config schedule =>
      (SplitScheduler.executeInto config schedule w.stations w.indexes w.ownership).map
        fun (_, x) =>
          { w with stations := x.stations, indexes := x.indexes, ownership := x.ownership }

def step (w : StationWorld F) (op : WorldOp F) : StationWorld F := (w.call op).getD w

/-- No station owns the entity that is spawned. -/
def SpawnsNew (w : StationWorld F) : RuntimeOp F → Prop
  | .spawnOwned spawn => w.stations.owners spawn.id = []
  | _ => True

/-- A station is added under a new id, an entity is spawned that nobody owns, no handoff is done by
hand, no ghost replaces an owned entity, and a split has two sides. -/
def Orderly (w : StationWorld F) : WorldOp F → Prop
  | .addStation config => (w.stations.get config.station.stationId).isNone
  | .edit id op => (∀ s ∈ w.stations.get id, s.EditsLocally op) ∧ w.SpawnsNew op
  | .executeSplits _ schedule =>
      ∀ action ∈ schedule.actions, action.sourceStation ≠ action.targetStation
  | .removeStation _ | .migrateCells _ _ _ _ => True

instance (w : StationWorld F) (op : RuntimeOp F) : Decidable (w.SpawnsNew op) :=
  match op with
  | .spawnOwned spawn => inferInstanceAs (Decidable (w.stations.owners spawn.id = []))
  | .advanceTick | .upsertGhost _ | .moveOwned _ _ | .despawn _ | .setTags _ _
  | .setComponentBlob _ _ _ _ | .prepareOutgoingHandoff _ _ _ _ | .prewarmHandoffGhost _
  | .commitIncomingHandoff _ | .commitOutgoingHandoff _ => inferInstanceAs (Decidable True)

instance (w : StationWorld F) : ∀ op : WorldOp F, Decidable (w.Orderly op)
  | .addStation config =>
      inferInstanceAs (Decidable ((w.stations.get config.station.stationId).isNone = true))
  | .edit id op =>
      inferInstanceAs (Decidable ((∀ s ∈ w.stations.get id, s.EditsLocally op) ∧ w.SpawnsNew op))
  | .executeSplits _ schedule =>
      inferInstanceAs (Decidable
        (∀ action ∈ schedule.actions, action.sourceStation ≠ action.targetStation))
  | .removeStation _ | .migrateCells _ _ _ _ => inferInstanceAs (Decidable True)

/-! ## The invariant -/

/-- The stations hold the population, and each has an index that agrees with it. -/
structure Sound (w : StationWorld F) : Prop where
  valid : w.stations.Valid
  stationIds : (w.stations.stations.map Station.id).Nodup
  coherentIndexes : w.indexes.Coherent
  indexIds : (w.indexes.indexes.map Prod.fst).Nodup
  paired : ∀ id, (w.indexes.get id).isSome = (w.stations.get id).isSome
  agrees : ∀ id s index, w.stations.get id = some s → w.indexes.get id = some index →
    index.Coherent s ∧ index.Exact s
  shards : Shards w.held w.population

variable {w : StationWorld F}

lemma sound_start : (start : StationWorld F).Sound where
  valid := StationSet.valid_new
  stationIds := List.nodup_nil
  coherentIndexes := StationIndexSet.coherent_new
  indexIds := List.nodup_nil
  paired id := by simp [start, StationSet.new, StationIndexSet.new, StationSet.get,
    StationIndexSet.get, StationSet.position, StationIndexSet.position, Finmap.findPosition]
  agrees id s index hs := by
    simp [start, StationSet.new, StationSet.get] at hs
  shards := by
    refine Shards.empty.congr fun id e => ?_
    simp [held, start, StationSet.new, StationSet.get]

/-! ## One operation -/

omit [Scalar F] in
lemma held_new (config : StationConfig) :
    (Station.new config : Station F).held = fun _ => none := by
  funext e
  simp [Station.held, Station.getById, Station.new]

lemma Sound.addStation (h : w.Sound) (config : StationRuntimeConfig F)
    (hnew : w.stations.get config.station.stationId = none) :
    Sound { w with
      stations := w.stations.push (.new config.station)
      indexes := w.indexes.insert config.station.stationId (.new config.grid) } := by
  have hstations : ∀ id, (w.stations.push (.new config.station)).get id
      = if id = config.station.stationId then some (.new config.station)
        else w.stations.get id := by
    intro id
    rw [← show (Station.new config.station : Station F).id = config.station.stationId from rfl]
      at hnew ⊢
    exact StationSet.Coherent.get_push h.valid.coherent hnew id
  have hnone : w.indexes.get config.station.stationId = none := by
    rw [← Option.not_isSome_iff_eq_none, h.paired, hnew]
    exact Bool.false_ne_true
  have hindexes := h.coherentIndexes.get_insert_new hnone (.new config.grid)
  constructor
  case valid => exact h.valid.push (Station.storeInv_new config.station)
  case stationIds =>
    rw [StationSet.stations_push, List.map_append, List.map_singleton, List.nodup_append]
    refine ⟨h.stationIds, List.nodup_singleton _, fun id hid id' hid' => ?_⟩
    rintro rfl
    obtain ⟨s, hs, rfl⟩ := List.mem_map.mp hid
    have hsid : s.id = config.station.stationId := List.mem_singleton.mp hid'
    have hget := (h.valid.get_id_eq_some h.stationIds).mpr hs
    rw [hsid, hnew] at hget
    cases hget
  case coherentIndexes => exact h.coherentIndexes.insert _ _
  case indexIds =>
    rw [h.coherentIndexes.indexes_insert_new hnone, List.map_append, List.map_singleton,
      List.nodup_append]
    refine ⟨h.indexIds, List.nodup_singleton _, fun id hid id' hid' => ?_⟩
    rintro rfl
    rw [List.mem_singleton.mp hid'] at hid
    obtain ⟨entry, hentry, hkey⟩ := List.mem_map.mp hid
    rw [h.coherentIndexes.get_eq, StationIndexSet.linearGet, Option.map_eq_none_iff,
      List.find?_eq_none] at hnone
    exact hnone entry hentry (by simpa using hkey)
  case paired =>
    intro id
    show ((w.indexes.insert _ _).get id).isSome = ((w.stations.push _).get id).isSome
    rw [hindexes, hstations]
    split_ifs
    · rfl
    · exact h.paired id
  case agrees =>
    intro id s index hs hindex
    replace hs : (w.stations.push _).get id = some s := hs
    replace hindex : (w.indexes.insert _ _).get id = some index := hindex
    rw [hstations] at hs
    rw [hindexes] at hindex
    split_ifs at hs hindex with hid
    · obtain rfl := Option.some.inj hs
      obtain rfl := Option.some.inj hindex
      refine ⟨CellIndex.coherent_new config.grid config.station, fun handle cells hcells => ?_⟩
      simp [CellIndex.cellsForHandle, CellIndex.new] at hcells
    · exact h.agrees id s index hs hindex
  case shards =>
    refine h.shards.congr fun id e => ?_
    show ((w.stations.push _).get id).bind _ = (w.stations.get id).bind _
    rw [hstations]
    split_ifs with hid
    · rw [hid, hnew, Option.bind_some, held_new]
      rfl
    · rfl

lemma Sound.removeStation (h : w.Sound) (id : StationId) :
    Sound { w with
      stations := (w.stations.remove id).elim w.stations Prod.snd
      indexes := (w.indexes.remove id).elim w.indexes Prod.snd
      population := fun e => if (w.held id e).isSome then none else w.population e } := by
  have hstations := StationSet.Coherent.get_remove h.valid.coherent h.stationIds id
  have hindexes := h.coherentIndexes.get_remove h.indexIds id
  constructor
  case valid =>
    show ((w.stations.remove id).elim w.stations Prod.snd).Valid
    cases hremove : w.stations.remove id with
    | none => exact h.valid
    | some removed =>
        obtain ⟨station, set⟩ := removed
        exact h.valid.remove hremove
  case stationIds =>
    rw [(StationSet.Coherent.remove_eq h.valid.coherent id).2]
    exact h.stationIds.sublist (List.eraseP_sublist.map Station.id)
  case coherentIndexes => exact h.coherentIndexes.step (.remove id)
  case indexIds =>
    rw [(h.coherentIndexes.remove_eq id).2]
    exact h.indexIds.sublist (List.eraseP_sublist.map Prod.fst)
  case paired =>
    intro id'
    show (((w.indexes.remove id).elim w.indexes Prod.snd).get id').isSome
      = (((w.stations.remove id).elim w.stations Prod.snd).get id').isSome
    rw [hindexes, hstations]
    split_ifs
    · rfl
    · exact h.paired id'
  case agrees =>
    intro id' s index hs hindex
    replace hs : ((w.stations.remove id).elim w.stations Prod.snd).get id' = some s := hs
    replace hindex : ((w.indexes.remove id).elim w.indexes Prod.snd).get id' = some index := hindex
    rw [hstations] at hs
    rw [hindexes] at hindex
    split_ifs at hs hindex with hid
    exact h.agrees id' s index hs hindex
  case shards =>
    refine h.shards.lose (p := id) (fun e => ?_) fun id' hid e => ?_
    · show (((w.stations.remove id).elim w.stations Prod.snd).get id).bind _ = none
      rw [hstations, if_pos rfl]
      rfl
    · show (((w.stations.remove id).elim w.stations Prod.snd).get id').bind _
        = (w.stations.get id').bind _
      rw [hstations, if_neg hid]

/-- An entity is owned by the stations that hold it. -/
lemma Sound.mem_owners (h : w.Sound) {id : StationId} {e : EntityId} :
    id ∈ w.stations.owners e ↔ (w.held id e).isSome := by
  rw [h.valid.mem_owners h.stationIds, isSome_held]

/-- The entities of the population are those that have an owner. -/
lemma Sound.population_eq_none_iff (h : w.Sound) (e : EntityId) :
    w.population e = none ↔ w.stations.owners e = [] := by
  rw [List.eq_nil_iff_forall_not_mem]
  constructor
  · intro hnone id hid
    rw [h.mem_owners, h.shards.held_eq_none hnone] at hid
    cases hid
  · intro hnobody
    rw [Option.eq_none_iff_forall_ne_some]
    intro data hdata
    obtain ⟨id, hheld⟩ := h.shards.complete e data hdata
    refine hnobody id (h.mem_owners.mpr ?_)
    rw [hheld]
    rfl

/-- What a local operation of one station leaves. -/
lemma Sound.edit (h : w.Sound) {id : StationId} {s : Station F} {index : CellIndex F}
    {rt : StationRuntime F} {edit : Option (EntityId × EntityEdit F)}
    (hs : w.stations.get id = some s) (hindex : w.indexes.get id = some index)
    (hstore : rt.station.StoreInv) (hconfig : rt.station.config = s.config)
    (hcoherent : rt.index.Coherent rt.station) (hexact : rt.index.Exact rt.station)
    (hheld : rt.station.held = Population.edited s.held edit)
    (hfree : ∀ e change, edit = some (e, change) → (s.held e).isSome ∨ w.population e = none) :
    Sound { w with
      stations := w.stations.put id rt.station
      indexes := w.indexes.put id rt.index
      population := w.population.edited edit } := by
  have hstations := h.valid.get_put hs hconfig
  have hindexes := h.coherentIndexes.get_put id rt.index
  constructor
  case valid => exact h.valid.put hs hconfig hstore
  case stationIds =>
    rw [h.valid.map_id_put hs hconfig]
    exact h.stationIds
  case coherentIndexes => exact h.coherentIndexes.put id rt.index
  case indexIds =>
    rw [StationIndexSet.map_fst_put]
    exact h.indexIds
  case paired =>
    intro id'
    show ((w.indexes.put id rt.index).get id').isSome
      = ((w.stations.put id rt.station).get id').isSome
    rw [hindexes, hstations]
    split_ifs with hid
    · rw [hid, hindex]
      rfl
    · exact h.paired id'
  case agrees =>
    intro id' s' index' hs' hindex'
    replace hs' : (w.stations.put id rt.station).get id' = some s' := hs'
    replace hindex' : (w.indexes.put id rt.index).get id' = some index' := hindex'
    rw [hstations] at hs'
    rw [hindexes] at hindex'
    split_ifs at hs' hindex' with hid
    · rw [hid, hindex] at hindex'
      obtain rfl := Option.some.inj hs'
      obtain rfl := Option.some.inj hindex'
      exact ⟨hcoherent, hexact⟩
    · exact h.agrees id' s' index' hs' hindex'
  case shards =>
    refine Shards.edited h.shards (p := id) ?_ (fun id' hid => ?_) ?_
    · rw [w.held_eq hs, ← hheld]
      funext e
      show ((w.stations.put id rt.station).get id).bind _ = _
      rw [hstations, if_pos rfl, Option.bind_some]
    · funext e
      show ((w.stations.put id rt.station).get id').bind _ = (w.stations.get id').bind _
      rw [hstations, if_neg hid]
    · rw [w.held_eq hs]
      exact hfree

/-- **A migration of cells is not seen.**  Between two stations it succeeds, and the stations hold
the population they held. -/
lemma Sound.migrateCells (h : w.Sound) {source target : StationId} (hne : source ≠ target)
    {sourceIndex targetIndex : CellIndex F} (hsource : w.indexes.get source = some sourceIndex)
    (htarget : w.indexes.get target = some targetIndex) (ttl : UInt64) (cells : List CellCoord3) :
    ∃ m, CellMigrationExecutor.migrateCells source target ttl w.stations sourceIndex targetIndex
        cells = some (.ok (), m)
      ∧ ∀ ownership, Sound
        { stations := m.stations
          indexes := (w.indexes.put source m.sourceIndex).put target m.targetIndex
          ownership := ownership
          population := w.population } := by
  obtain ⟨s, hs⟩ : ∃ s, w.stations.get source = some s := by
    rw [← Option.isSome_iff_exists, ← h.paired, hsource]
    rfl
  obtain ⟨t, ht⟩ : ∃ t, w.stations.get target = some t := by
    rw [← Option.isSome_iff_exists, ← h.paired, htarget]
    rfl
  obtain ⟨hscoherent, hsexact⟩ := h.agrees source s sourceIndex hs hsource
  obtain ⟨htcoherent, htexact⟩ := h.agrees target t targetIndex ht htarget
  obtain ⟨m, s', t', scanned, entityIds, hcall, hcollected, -, hmoved⟩ :=
    carries_migrateCells ttl cells h.valid hne hs ht hscoherent htcoherent
  have hothers := CellMigrationExecutor.leavesOthers_migrateCells ttl h.valid hcall
  have hput := h.coherentIndexes.put source m.sourceIndex
  have hindexes : ∀ id, ((w.indexes.put source m.sourceIndex).put target m.targetIndex).get id
      = if id = target then some m.targetIndex
        else if id = source then some m.sourceIndex else w.indexes.get id := by
    intro id
    rw [hput.get_put, h.coherentIndexes.get_put]
    by_cases htgt : id = target
    · rw [if_pos htgt, if_pos htgt, htgt, if_neg hne.symm, htarget]
      rfl
    · rw [if_neg htgt, if_neg htgt]
      by_cases hsrc : id = source
      · rw [if_pos hsrc, if_pos hsrc, hsrc, hsource]
        rfl
      · rw [if_neg hsrc, if_neg hsrc]
  refine ⟨m, hcall, fun ownership => ?_⟩
  constructor
  case valid => exact hothers.valid
  case stationIds =>
    rw [CellMigrationExecutor.map_id_migrateCells h.valid hcall]
    exact h.stationIds
  case coherentIndexes => exact hput.put target m.targetIndex
  case indexIds =>
    rw [StationIndexSet.map_fst_put, StationIndexSet.map_fst_put]
    exact h.indexIds
  case paired =>
    intro id
    show (((w.indexes.put source m.sourceIndex).put target m.targetIndex).get id).isSome
      = (m.stations.get id).isSome
    rw [hindexes, hothers.isSome, ← h.paired]
    split_ifs with htgt hsrc
    · rw [htgt, htarget]
      rfl
    · rw [hsrc, hsource]
      rfl
    · rfl
  case agrees =>
    intro id s₁ index₁ hs₁ hindex₁
    replace hs₁ : m.stations.get id = some s₁ := hs₁
    replace hindex₁ : ((w.indexes.put source m.sourceIndex).put target m.targetIndex).get id
      = some index₁ := hindex₁
    rw [hindexes] at hindex₁
    split_ifs at hindex₁ with htgt hsrc
    · obtain rfl := Option.some.inj hindex₁
      rw [htgt, hmoved.target] at hs₁
      obtain rfl := Option.some.inj hs₁
      exact ⟨hmoved.targetCoherent, hmoved.targetExact htexact⟩
    · obtain rfl := Option.some.inj hindex₁
      rw [hsrc, hmoved.source] at hs₁
      obtain rfl := Option.some.inj hs₁
      exact ⟨hmoved.sourceCoherent, hmoved.sourceExact hsexact⟩
    · rw [hothers.others id hsrc htgt] at hs₁
      exact h.agrees id s₁ index₁ hs₁ hindex₁
  case shards =>
    have hat : ∀ id e, (⟨m.stations, (w.indexes.put source m.sourceIndex).put target m.targetIndex,
        ownership, w.population⟩ : StationWorld F).held id e
          = (m.stations.get id).bind fun s => s.held e := fun id e => rfl
    refine h.shards.move hne
      (fun e => CellMigrationExecutor.OwnedIn s
        (CellMigrationExecutor.handlesIn sourceIndex cells) e) (fun e he => ?_) fun id e hid => ?_
    · obtain ⟨⟨r, owner, epoch, hr, howner, hrole, hdata⟩, r', ghost, epoch', expires, hr', hghost,
        hghostRole, -⟩ := hmoved.moved e ((hcollected e).mpr he)
      have hown : s.owns e = true := he.owns (h.valid.get_eq_some hs).1
      obtain ⟨r₀, hr₀, howned⟩ := Station.owns_eq_true.mp hown
      obtain rfl := Option.some.inj (hr₀.symm.trans hr)
      rw [hat, hat, hmoved.source, hmoved.target, held, hs, Option.bind_some,
        Option.bind_some, Option.bind_some, Station.isSome_held]
      refine ⟨hown, ?_, ?_⟩
      · rw [Station.held, hghost, Option.bind_some, EntityRecord.held, EntityRecord.isOwned,
          hghostRole]
        rfl
      · rw [Station.held, Station.held, howner, hr, Option.bind_some, Option.bind_some,
          EntityRecord.held, EntityRecord.held, if_pos howned, EntityRecord.isOwned, hrole,
          EntityRecord.data, EntityRecord.data, hdata.position, hdata.bounds, hdata.policyId,
          hdata.tags]
        rfl
    · rw [hat, held]
      by_cases hsrc : id = source
      · have hkept := hid.resolve_left fun hpair => hpair.1 hsrc
        rw [hsrc, hmoved.source, hs, Option.bind_some, Option.bind_some, Station.held,
          Station.held, (hmoved.others e fun he => hkept ((hcollected e).mp he)).1]
      · by_cases htgt : id = target
        · have hkept := hid.resolve_left fun hpair => hpair.2 htgt
          rw [htgt, hmoved.target, ht, Option.bind_some, Option.bind_some, Station.held,
            Station.held, (hmoved.others e fun he => hkept ((hcollected e).mp he)).2]
        · rw [hothers.others id hsrc htgt]

/-- One action of a schedule. -/
lemma Sound.executeAction (config : SplitSchedulerConfig) {x : SplitExecution F}
    {population : Population F}
    (h : Sound ⟨x.stations, x.indexes, x.ownership, population⟩) {action : SplitAction}
    (hne : action.sourceStation ≠ action.targetStation) :
    ∃ result x', SplitScheduler.executeAction config x action = some (result, x')
      ∧ Sound ⟨x'.stations, x'.indexes, x'.ownership, population⟩ := by
  cases hsource : x.indexes.get action.sourceStation with
  | none =>
      refine ⟨.error (.missingSourceIndex action.sourceStation), x, ?_, h⟩
      simp [SplitScheduler.executeAction, hsource]
  | some sourceIndex =>
      cases htarget : x.indexes.get action.targetStation with
      | none =>
          refine ⟨.error (.missingTargetIndex action.targetStation), x, ?_, h⟩
          simp [SplitScheduler.executeAction, hsource, htarget]
      | some targetIndex =>
          obtain ⟨m, hcall, hmigrated⟩ := h.migrateCells hne hsource htarget config.ghostTtlTicks
            (SplitScheduler.movedCells x.ownership action)
          rw [SplitScheduler.executeAction_eq hsource htarget hne, hcall]
          exact ⟨_, _, rfl, hmigrated _⟩

/-- The actions of a schedule, as far as they are carried out. -/
lemma Sound.executeActions (config : SplitSchedulerConfig) {x : SplitExecution F}
    {population : Population F}
    (h : Sound ⟨x.stations, x.indexes, x.ownership, population⟩) {actions : List SplitAction}
    (hne : ∀ action ∈ actions, action.sourceStation ≠ action.targetStation) :
    ∃ result x', SplitScheduler.executeActions config x actions = some (result, x')
      ∧ Sound ⟨x'.stations, x'.indexes, x'.ownership, population⟩ := by
  induction actions generalizing x with
  | nil => exact ⟨.ok (), x, rfl, h⟩
  | cons action actions ih =>
      obtain ⟨result, x₁, hfirst, h₁⟩ := h.executeAction config (hne action List.mem_cons_self)
      rw [SplitScheduler.executeActions, hfirst]
      cases result with
      | error error => exact ⟨.error error, x₁, rfl, h₁⟩
      | ok _ => exact ih h₁ fun action hmem => hne action (List.mem_cons_of_mem _ hmem)

/-- An edit is one of an entity that the station holds, or of one that is not in the population. -/
lemma Sound.edit_free (h : w.Sound) {id : StationId} {s : Station F} {op : RuntimeOp F}
    (hs : w.stations.get id = some s) (hspawns : w.SpawnsNew op) {e : EntityId}
    {change : EntityEdit F} (hedit : s.editOf op = some (e, change)) :
    (s.held e).isSome ∨ w.population e = none := by
  have hstore := (h.valid.get_eq_some hs).1
  cases op with
  | spawnOwned spawn =>
      rw [Station.editOf] at hedit
      split_ifs at hedit
      obtain ⟨rfl, -⟩ := Prod.mk.inj (Option.some.inj hedit)
      exact .inr ((h.population_eq_none_iff spawn.id).mpr hspawns)
  | moveOwned handle _ | setTags handle _ | despawn handle =>
      obtain ⟨e', he, heq⟩ := Option.map_eq_some_iff.mp hedit
      obtain ⟨rfl, -⟩ := Prod.mk.inj heq
      exact .inl (hstore.isSome_held_of_ownedId he)
  | advanceTick | upsertGhost | setComponentBlob | prepareOutgoingHandoff | prewarmHandoffGhost
  | commitIncomingHandoff | commitOutgoingHandoff => cases hedit

/-- **The step lemma.**  An orderly operation does not panic, and the stations hold the population
after it. -/
lemma Sound.call (h : w.Sound) {op : WorldOp F} (horderly : w.Orderly op) :
    ∃ w', w.call op = some w' ∧ w'.Sound := by
  cases op with
  | addStation config =>
      exact ⟨_, rfl, h.addStation config (Option.isNone_iff_eq_none.mp horderly)⟩
  | removeStation id => exact ⟨_, rfl, h.removeStation id⟩
  | edit id op =>
      cases hs : w.stations.get id with
      | none => exact ⟨w, by simp [StationWorld.call, hs], h⟩
      | some s =>
          obtain ⟨index, hindex⟩ : ∃ index, w.indexes.get id = some index := by
            rw [← Option.isSome_iff_exists, h.paired, hs]
            rfl
          obtain ⟨hcoherent, hexact⟩ := h.agrees id s index hs hindex
          obtain ⟨result, rt, hperform, hstore, hconfig, hcoherent', hexact', hheld⟩ :=
            StationRuntime.ofParts_perform (h.valid.get_eq_some hs).1 hcoherent hexact
              (horderly.1 s hs)
          refine ⟨_, by simp only [StationWorld.call, hs, hindex, hperform]; rfl, ?_⟩
          exact h.edit hs hindex hstore hconfig hcoherent' hexact' hheld
            fun e change hedit => h.edit_free hs horderly.2 hedit
  | migrateCells source target ttl cells =>
      by_cases hne : source = target
      · exact ⟨w, by simp [StationWorld.call, StationIndexSet.getPairMut, hne], h⟩
      · cases hsource : w.indexes.get source with
        | none =>
            exact ⟨w, by simp [StationWorld.call, StationIndexSet.getPairMut, hne, hsource], h⟩
        | some sourceIndex =>
            cases htarget : w.indexes.get target with
            | none =>
                exact ⟨w, by simp [StationWorld.call, StationIndexSet.getPairMut, hne, hsource,
                  htarget], h⟩
            | some targetIndex =>
                obtain ⟨m, hcall, hmigrated⟩ := h.migrateCells hne hsource htarget ttl cells
                refine ⟨_, ?_, hmigrated w.ownership⟩
                simp only [StationWorld.call, StationIndexSet.getPairMut, if_neg hne, hsource,
                  htarget, Option.bind_some, Option.map_some, hcall]
  | executeSplits config schedule =>
      obtain ⟨result, x, hcall, hsound⟩ := Sound.executeActions config
        (x := SplitScheduler.prepareExecution w.stations w.indexes w.ownership) h horderly
      refine ⟨_, ?_, hsound⟩
      simp only [StationWorld.call, SplitScheduler.executeInto, hcall, Option.map_some]

/-! ## Runs -/

/-- The stations keep the population: what is not in it is owned nowhere, what is in it is owned by
one station with its data, and the indexes are right. -/
structure KeepsPopulation (w : StationWorld F) : Prop where
  unowned : ∀ e, w.population e = none ↔ w.stations.owners e = []
  owned : ∀ e data, w.population e = some data → ∃ id r, w.stations.owners e = [id]
    ∧ w.stations.recordAt id e = some r ∧ r.isOwned = true ∧ r.data = data
  indexed : ∀ id s, w.stations.get id = some s → ∃ index, w.indexes.get id = some index
    ∧ index.Coherent s ∧ index.Exact s

lemma Sound.keepsPopulation (h : w.Sound) : w.KeepsPopulation where
  unowned := h.population_eq_none_iff
  owned e data hdata := by
    obtain ⟨id, hheld⟩ := h.shards.complete e data hdata
    have hsome : (w.held id e).isSome := by rw [hheld]; rfl
    have howners : w.stations.owners e = [id] := by
      rw [h.valid.owners_eq_singleton h.stationIds]
      intro id'
      rw [← isSome_held]
      constructor
      · exact fun hother => h.shards.single id' id e hother hsome
      · rintro rfl
        exact hsome
    obtain ⟨s, hs, hrecord⟩ := Option.bind_eq_some_iff.mp hheld
    obtain ⟨r, hr, hdata'⟩ := Option.bind_eq_some_iff.mp hrecord
    rw [EntityRecord.held] at hdata'
    split_ifs at hdata' with howned
    exact ⟨id, r, howners, by rw [StationSet.recordAt, hs, Option.bind_some, hr], howned,
      Option.some.inj hdata'⟩
  indexed id s hs := by
    obtain ⟨index, hindex⟩ : ∃ index, w.indexes.get id = some index := by
      rw [← Option.isSome_iff_exists, h.paired, hs]
      rfl
    exact ⟨index, hindex, h.agrees id s index hs hindex⟩

end Scalar

section Examples

/-- Station 1 spawns two entities and a cell of one goes to station 2, which moves the entity; then
station 1 is lost. -/
def movingDay : List (WorldOp ℚ) :=
  [.addStation ⟨configWithStation 1, ⟨16⟩⟩,
    .addStation ⟨configWithStation 2, ⟨16⟩⟩,
    .edit ⟨1⟩ (.spawnOwned ⟨⟨7⟩, ⟨1, 0, 0⟩, .point, ⟨0⟩⟩),
    .edit ⟨1⟩ (.spawnOwned ⟨⟨8⟩, ⟨40, 0, 0⟩, .point, ⟨0⟩⟩),
    .migrateCells ⟨1⟩ ⟨2⟩ 10 [⟨0, 0, 0⟩],
    .edit ⟨2⟩ (.moveOwned ⟨0, 0⟩ ⟨2, 0, 0⟩),
    .removeStation ⟨1⟩]

example : (execute step start movingDay).stations.owners ⟨7⟩ = [⟨2⟩] := by decide +kernel

end Examples

end StationWorld

end SectorSync
