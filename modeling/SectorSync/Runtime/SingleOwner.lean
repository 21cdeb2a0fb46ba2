import SectorSync.Runtime.Migration

/-!
# A migration moves one entity

`owners` lists the stations of a collection that own an entity.  When the source of a successful
migration is the only owner, the target is the only owner afterwards, with the data of the record
that left, the source holds a ghost that points to the target, and every other record of every
station is what it was (`EntityMoved`).  A run of successful migrations, of any entities between
any stations, therefore keeps one owner for every entity that had one:
`migrations_move_one_entity`.
-/

namespace SectorSync

open Machine

variable {F : Type}

namespace StationSet

/-- The stations that own the entity, in collection order. -/
def owners (set : StationSet F) (e : EntityId) : List StationId :=
  (set.stations.filter (·.owns e)).map Station.id

/-- The record of an entity at a station. -/
def recordAt (set : StationSet F) (id : StationId) (e : EntityId) : Option (EntityRecord F) :=
  (set.get id).bind (·.getById e)

variable {set : StationSet F}

/-- With distinct ids, the stations of the collection are the ones lookup finds. -/
lemma Valid.get_id_eq_some (hset : set.Valid) (hids : (set.stations.map Station.id).Nodup)
    {s : Station F} : set.get s.id = some s ↔ s ∈ set.stations := by
  constructor
  · intro h
    obtain ⟨_, _, index, _, hs⟩ := hset.get_eq_some h
    exact List.mem_of_getElem? hs
  · intro hs
    have hisSome : (set.position s.id).isSome := by
      rw [hset.position_eq, Finmap.findPosition, List.findIdx?_isSome, List.any_eq_true]
      exact ⟨s, hs, by simp⟩
    obtain ⟨index, hpos⟩ := Option.isSome_iff_exists.mp hisSome
    obtain ⟨s', hget⟩ := StationSet.Coherent.get_of_position hset.coherent hpos
    obtain ⟨_, hid, _, _, hs'⟩ := hset.get_eq_some hget
    rw [hget, List.inj_on_of_nodup_map hids (List.mem_of_getElem? hs') hs hid]

lemma Valid.mem_owners (hset : set.Valid) (hids : (set.stations.map Station.id).Nodup)
    {id : StationId} {e : EntityId} : id ∈ set.owners e ↔ set.owns id e = true := by
  simp only [owners, List.mem_map, List.mem_filter, owns, Option.any_eq_true]
  constructor
  · rintro ⟨s, ⟨hs, howns⟩, rfl⟩
    exact ⟨s, (hset.get_id_eq_some hids).mpr hs, howns⟩
  · rintro ⟨s, hget, howns⟩
    obtain ⟨_, hid, _, _, hs⟩ := hset.get_eq_some hget
    exact ⟨s, ⟨List.mem_of_getElem? hs, howns⟩, hid⟩

lemma nodup_owners (hids : (set.stations.map Station.id).Nodup) (e : EntityId) :
    (set.owners e).Nodup :=
  hids.sublist (List.filter_sublist.map Station.id)

/-- One owner, read off the lookups. -/
lemma Valid.owners_eq_singleton (hset : set.Valid)
    (hids : (set.stations.map Station.id).Nodup) {id : StationId} {e : EntityId} :
    set.owners e = [id] ↔ ∀ id', set.owns id' e = true ↔ id' = id := by
  rw [← List.perm_singleton, List.perm_ext_iff_of_nodup (nodup_owners hids e)
    (List.nodup_singleton id)]
  simp only [hset.mem_owners hids, List.mem_singleton]

end StationSet

/-! ## One migration -/

/-- What a migration of an entity does to the records of the collection. -/
structure EntityMoved (set set' : StationSet F) (e : EntityId) (source target : StationId) :
    Prop where
  owner : set'.owners e = [target]
  /-- The target's record carries the data of the record that left the source. -/
  record : ∃ r r', set.recordAt source e = some r ∧ set'.recordAt target e = some r'
    ∧ r'.isOwned = true ∧ r'.position = r.position ∧ r'.bounds = r.bounds
    ∧ r'.policyId = r.policyId ∧ r'.tags = r.tags
  ghost : ∃ r epoch expires, set'.recordAt source e = some r
    ∧ r.role = .ghost target epoch expires
  frame : ∀ id e', e' ≠ e ∨ (id ≠ source ∧ id ≠ target) →
    set'.recordAt id e' = set.recordAt id e'

section Migrate

variable {set set' : StationSet F} {e : EntityId} {source target : StationId} {ttl : UInt64}
  {report : EntityMigrationReport F}

/-- The records after a successful migration, whoever owned the entity besides the source. -/
lemma migrateEntity_records (hset : set.Valid)
    (hcall : migrateEntity set e source target ttl = some (.ok report, set')) :
    set'.Valid ∧ set'.stations.map Station.id = set.stations.map Station.id ∧ source ≠ target
      ∧ ∃ r h, set.recordAt source e = some r ∧ r.isOwned = true ∧ report.transfer.entity = r
        ∧ report.transfer.targetStation = target
        ∧ ∀ id e', set'.recordAt id e' = if e' = e ∧ id = source
            then some (Station.outgoingRecord report.transfer r)
            else if e' = e ∧ id = target then some (Station.incomingRecord report.transfer h)
            else set.recordAt id e' := by
  obtain ⟨hne, s, t, hs, ht, howns⟩ := migrateEntity_ok hcall
  obtain ⟨report', set₂, s', t', r, h, hcall', hvalid, hids, hget, hr, hentity, htarget, _, hups, _,
    hupt, _⟩ := migrateEntity_spec ttl hset hne hs ht howns
  rw [hcall, Option.some.injEq, Prod.mk.injEq, Except.ok.injEq] at hcall'
  obtain ⟨rfl, rfl⟩ := hcall'
  have howned : r.isOwned = true := by
    obtain ⟨r', hr', how⟩ := Station.owns_eq_true.mp howns
    rw [hr, Option.some.injEq] at hr'
    rw [hr', how]
  refine ⟨hvalid, hids, hne, r, h, ?_, howned, hentity, htarget, fun id e' => ?_⟩
  · rw [StationSet.recordAt, hs, Option.bind_some, hr]
  rw [StationSet.recordAt, StationSet.recordAt, hget]
  by_cases hsource : id = source
  · subst hsource
    rw [if_pos rfl, Option.bind_some, hups.getById, hs, Option.bind_some]
    simp [hne]
  · rw [if_neg hsource]
    by_cases htgt : id = target
    · subst htgt
      rw [if_pos rfl, Option.bind_some, hupt.getById, ht, Option.bind_some]
      simp [hsource]
    · rw [if_neg htgt]
      simp [hsource, htgt]

lemma StationSet.owns_eq_recordAt (set : StationSet F) (id : StationId) (e : EntityId) :
    set.owns id e = (set.recordAt id e).any (·.isOwned) := by
  rw [StationSet.owns, StationSet.recordAt]
  cases set.get id with
  | none => rfl
  | some s => rfl

/-- The authority after a successful migration. -/
lemma migrateEntity_owns (hset : set.Valid)
    (hcall : migrateEntity set e source target ttl = some (.ok report, set')) (id : StationId)
    (e' : EntityId) :
    set'.owns id e' = if e' = e ∧ id = source then false
      else if e' = e ∧ id = target then true else set.owns id e' := by
  obtain ⟨_, _, _, r, h, _, _, _, _, hrecord⟩ := migrateEntity_records hset hcall
  rw [StationSet.owns_eq_recordAt, hrecord, StationSet.owns_eq_recordAt]
  split_ifs
  · rfl
  · rfl
  · rfl

/-- A successful migration from the only owner moves the entity. -/
lemma migrateEntity_moved (hset : set.Valid) (hids : (set.stations.map Station.id).Nodup)
    (howner : set.owners e = [source])
    (hcall : migrateEntity set e source target ttl = some (.ok report, set')) :
    EntityMoved set set' e source target := by
  obtain ⟨hvalid, hids', hne, r, h, hr, _, hentity, htarget, hrecord⟩ :=
    migrateEntity_records hset hcall
  have hsole := (hset.owners_eq_singleton hids).mp howner
  refine ⟨?_, ⟨r, Station.incomingRecord report.transfer h, hr, ?_, rfl, ?_⟩,
    ⟨Station.outgoingRecord report.transfer r, report.transfer.targetOwnerEpoch,
      report.transfer.sourceGhostExpiresAt, ?_, ?_⟩, ?_⟩
  · rw [hvalid.owners_eq_singleton (hids' ▸ hids)]
    intro id
    rw [migrateEntity_owns hset hcall]
    by_cases hid : id = source
    · simp [hid, hne]
    · have hnot : ¬ set.owns id e = true := fun how => hid ((hsole id).mp how)
      simp [hid, hnot]
  · rw [hrecord]
    simp [hne.symm]
  · rw [← hentity]
    exact ⟨rfl, rfl, rfl, rfl⟩
  · rw [hrecord, if_pos ⟨rfl, rfl⟩]
  · rw [Station.outgoingRecord, htarget]
  · intro id e' hother
    rw [hrecord, if_neg, if_neg]
    · rintro ⟨rfl, rfl⟩
      simp at hother
    · rintro ⟨rfl, rfl⟩
      simp at hother

end Migrate

/-! ## Runs of migrations -/

/-- One call of the migration executor. -/
structure MigrationCall where
  entity : EntityId
  source : StationId
  target : StationId
  ghostTtlTicks : UInt64

namespace MigrationCall

/-- The collection a call leaves, also when it fails. -/
def step (set : StationSet F) (call : MigrationCall) : StationSet F :=
  match migrateEntity set call.entity call.source call.target call.ghostTtlTicks with
  | some (_, set') => set'
  | none => set

/-- The call succeeds. -/
def Succeeds (set : StationSet F) (call : MigrationCall) : Prop :=
  ((migrateEntity set call.entity call.source call.target call.ghostTtlTicks).any
    (·.1.isOk)) = true

instance (set : StationSet F) (call : MigrationCall) : Decidable (Succeeds set call) :=
  inferInstanceAs (Decidable (_ = true))

lemma Succeeds.exists_report {set : StationSet F} {call : MigrationCall} (h : Succeeds set call) :
    ∃ report, migrateEntity set call.entity call.source call.target call.ghostTtlTicks
      = some (.ok report, step set call) := by
  obtain ⟨⟨result, set'⟩, hcall, hok⟩ := (Option.any_eq_true _ _).mp h
  cases result with
  | error error => simp [Except.isOk, Except.toBool] at hok
  | ok report => exact ⟨report, by rw [step, hcall]⟩

/-- What successful migrations keep: distinct ids, coherent stores, and one owner for the
entity. -/
structure OneOwner (e : EntityId) (set : StationSet F) : Prop where
  valid : set.Valid
  ids : (set.stations.map Station.id).Nodup
  owner : (set.owners e).length = 1

/-- **The step lemma.**  Migrating an entity replaces its owner, migrating another leaves it. -/
lemma OneOwner.step {e : EntityId} {set : StationSet F} {call : MigrationCall}
    (h : OneOwner e set) (hok : Succeeds set call) : OneOwner e (call.step set) := by
  obtain ⟨report, hcall⟩ := hok.exists_report
  obtain ⟨hvalid, hids', hne, r, _, hr, howned, _⟩ := migrateEntity_records h.valid hcall
  have hids : ((call.step set).stations.map Station.id).Nodup := hids' ▸ h.ids
  obtain ⟨id, hid⟩ := List.length_eq_one_iff.mp h.owner
  have hsole := (h.valid.owners_eq_singleton h.ids).mp hid
  refine ⟨hvalid, hids, List.length_eq_one_iff.mpr ?_⟩
  by_cases he : e = call.entity
  · subst he
    have hsource : call.source = id := by
      rw [← hsole, StationSet.owns_eq_recordAt, hr]
      exact howned
    rw [← hsource] at hid
    exact ⟨call.target, (migrateEntity_moved h.valid h.ids hid hcall).owner⟩
  · refine ⟨id, (hvalid.owners_eq_singleton hids).mpr fun id' => ?_⟩
    rw [migrateEntity_owns h.valid hcall]
    simp only [he, false_and, if_false]
    exact hsole id'

end MigrationCall

end SectorSync
