import SectorSync.Base.Custody
import SectorSync.Core.Handoff

/-!
# Authority across stations

Stations with distinct ids exchange handoff transfers.  A transfer that
`prepareOutgoingHandoff` produced is kept for good, so that every later operation may name it:
an operation on a transfer is one delivery of it to one station, and loss, delay, replay and
duplication are choices of the operation list.  The cluster also remembers which transfers were
committed at their target and which were offered to their source for the outgoing commit.

Seen from one entity, a cluster is a state of the two-phase custody protocol (`view`), and
every operation is one custody event (`view_step`).
-/

namespace SectorSync

variable {F : Type}

/-- Stations by id, and the transfers prepared so far. -/
structure Cluster (F : Type) where
  stations : HashMap StationId (Station F)
  issued : List (HandoffTransfer F)
  /-- Transfers whose incoming commit succeeded, by their position in `issued`. -/
  incoming : Finset ℕ
  /-- Transfers whose outgoing commit was attempted at their source. -/
  outgoing : Finset ℕ

/-- The four handoff operations, each at one station. -/
inductive HandoffOp where
  | prepare (station : StationId) (entity : EntityId) (target : StationId)
      (targetOwnerEpoch : OwnerEpoch) (sourceGhostExpiresAt : Tick)
  | prewarm (station : StationId) (transfer : ℕ)
  | commitIncoming (station : StationId) (transfer : ℕ)
  | commitOutgoing (station : StationId) (transfer : ℕ)

/-- Every operation that can change who owns an entity. -/
inductive ClusterOp (F : Type) where
  | handoff (op : HandoffOp)
  | spawnOwned (station : StationId) (entity : EntityId) (position : Position3 F)
      (bounds : Bounds F) (policyId : PolicyId)
  | upsertGhost (station : StationId) (entity : EntityId) (position : Position3 F)
      (bounds : Bounds F) (policyId : PolicyId) (ownerStation : StationId)
      (ownerEpoch : OwnerEpoch) (expiresAt : Tick)
  | removeById (station : StationId) (entity : EntityId)

namespace Cluster

/-- Empty stations with the given configurations. -/
def new (configs : List StationConfig) : Cluster F where
  stations := configs.foldl (fun m config => m.insert config.stationId (.new config)) ∅
  issued := []
  incoming := ∅
  outgoing := ∅

/-- Replaces one station. -/
def put (c : Cluster F) (id : StationId) (s : Station F) : Cluster F :=
  { c with stations := c.stations.insert id s }

/-- The station and the transfer an operation names, when both exist. -/
def delivery (c : Cluster F) (station : StationId) (transfer : ℕ) :
    Option (Station F × HandoffTransfer F) :=
  (c.stations.lookup station).bind fun s => c.issued[transfer]?.map fun t => (s, t)

/-- One handoff operation. -/
def handoffStep (c : Cluster F) : HandoffOp → Cluster F
  | .prepare station entity target epoch expires =>
      match c.stations.lookup station with
      | none => c
      | some s =>
          match s.prepareOutgoingHandoff entity target epoch expires with
          | .error _ => c
          | .ok t => { c with issued := c.issued ++ [t] }
  | .prewarm station k =>
      match c.delivery station k with
      | none => c
      | some (s, t) => c.put station (s.prewarmHandoffGhost t).2
  | .commitIncoming station k =>
      match c.delivery station k with
      | none => c
      | some (s, t) =>
          match s.commitIncomingHandoff t with
          | (.error _, s') => c.put station s'
          | (.ok _, s') => { c.put station s' with incoming := insert k c.incoming }
  | .commitOutgoing station k =>
      match c.delivery station k with
      | none => c
      | some (s, t) =>
          { c.put station (s.commitOutgoingHandoff t).2 with
            outgoing := if t.sourceStation = station then insert k c.outgoing else c.outgoing }

/-- One operation of the cluster. -/
def step (c : Cluster F) : ClusterOp F → Cluster F
  | .handoff op => c.handoffStep op
  | .spawnOwned station entity position bounds policyId =>
      match c.stations.lookup station with
      | none => c
      | some s => c.put station (s.spawnOwned entity position bounds policyId).2
  | .upsertGhost station entity position bounds policyId ownerStation ownerEpoch expiresAt =>
      match c.stations.lookup station with
      | none => c
      | some s =>
          c.put station (s.upsertGhost entity position bounds policyId ownerStation ownerEpoch
            expiresAt).2
  | .removeById station entity =>
      match c.stations.lookup station with
      | none => c
      | some s => c.put station (s.removeById entity).2

/-! ## Well-formed clusters -/

/-- Stations sit under their own id with their store invariant, a transfer carries a record of
its entity, and only issued transfers were committed. -/
structure Valid (c : Cluster F) : Prop where
  station : ∀ id s, c.stations.lookup id = some s → s.StoreInv ∧ s.config.stationId = id
  issued : ∀ t ∈ c.issued, t.entity.id = t.entityId
  incoming : ∀ k ∈ c.incoming, k < c.issued.length
  outgoing : ∀ k ∈ c.outgoing, k < c.issued.length

/-- The stations of a new cluster are empty and sit under their own id. -/
lemma lookup_new {configs : List StationConfig} {id : StationId} {s : Station F}
    (hs : (new configs : Cluster F).stations.lookup id = some s) :
    ∃ config : StationConfig, config.stationId = id ∧ s = .new config := by
  suffices h : ∀ m : HashMap StationId (Station F),
      (∀ id s, m.lookup id = some s → ∃ config : StationConfig, config.stationId = id
        ∧ s = .new config) →
      (configs.foldl (fun m config => m.insert config.stationId (.new config)) m).lookup id = some s →
      ∃ config : StationConfig, config.stationId = id ∧ s = .new config by
    exact h ∅ (fun id s hs => by simp at hs) hs
  clear hs
  induction configs with
  | nil => exact fun m hm hs => hm id s hs
  | cons config configs ih =>
      intro m hm hs
      refine ih _ (fun id' s' hs' => ?_) hs
      rcases Finmap.lookup_insert_cases hs' with ⟨hid, hnew⟩ | ⟨-, hold⟩
      · exact ⟨config, hid.symm, hnew⟩
      · exact hm id' s' hold

lemma valid_new (configs : List StationConfig) : (new configs : Cluster F).Valid where
  station id s hs := by
    obtain ⟨config, hid, rfl⟩ := lookup_new hs
    exact ⟨Station.storeInv_new config, hid⟩
  issued t ht := absurd ht List.not_mem_nil
  incoming k hk := absurd hk (Finset.notMem_empty k)
  outgoing k hk := absurd hk (Finset.notMem_empty k)

lemma delivery_eq_some {c : Cluster F} {station : StationId} {k : ℕ} {s : Station F}
    {t : HandoffTransfer F} :
    c.delivery station k = some (s, t)
      ↔ c.stations.lookup station = some s ∧ c.issued[k]? = some t := by
  simp only [delivery, Option.bind_eq_some_iff, Option.map_eq_some_iff, Prod.mk.injEq]
  constructor
  · rintro ⟨_, hs, _, ht, rfl, rfl⟩
    exact ⟨hs, ht⟩
  · rintro ⟨hs, ht⟩
    exact ⟨s, hs, t, ht, rfl, rfl⟩

/-- Replacing a station by a well-formed one of the same id. -/
lemma Valid.put {c : Cluster F} (hc : c.Valid) {id : StationId} {s' : Station F}
    (hinv : s'.StoreInv) (hid : s'.config.stationId = id) : (c.put id s').Valid where
  station id' s hs := by
    rcases Finmap.lookup_insert_cases hs with ⟨rfl, rfl⟩ | ⟨-, hold⟩
    · exact ⟨hinv, hid⟩
    · exact hc.station id' s hold
  issued := hc.issued
  incoming := hc.incoming
  outgoing := hc.outgoing

/-- What a delivery in a well-formed cluster gives. -/
lemma Valid.delivery {c : Cluster F} (hc : c.Valid) {station : StationId} {k : ℕ}
    {s : Station F} {t : HandoffTransfer F} (hd : c.delivery station k = some (s, t)) :
    s.StoreInv ∧ s.config.stationId = station ∧ t.entity.id = t.entityId
      ∧ k < c.issued.length := by
  obtain ⟨hs, ht⟩ := delivery_eq_some.mp hd
  obtain ⟨hinv, hid⟩ := hc.station station s hs
  exact ⟨hinv, hid, hc.issued t (List.mem_of_getElem? ht), (List.getElem?_eq_some_iff.mp ht).1⟩

/-- Issuing a transfer keeps the cluster well formed. -/
lemma Valid.prepare {c : Cluster F} (hc : c.Valid) (station : StationId) (entity : EntityId)
    (target : StationId) (epoch : OwnerEpoch) (expires : Tick) :
    (c.handoffStep (.prepare station entity target epoch expires)).Valid := by
  simp only [Cluster.handoffStep]
  cases hs : c.stations.lookup station with
  | none => exact hc
  | some s =>
      cases hp : s.prepareOutgoingHandoff entity target epoch expires with
      | error error => simpa only [hp] using hc
      | ok t =>
          simp only [hp]
          obtain ⟨_, r, hr, _, rfl⟩ := Station.prepareOutgoingHandoff_eq_ok.mp hp
          have hrid := (hc.station station s hs).1.id_of_getById hr
          refine ⟨hc.station, ?_, ?_, ?_⟩
          · intro t ht
            rcases List.mem_append.mp ht with ht | ht
            · exact hc.issued t ht
            · rw [List.mem_singleton.mp ht]
              exact hrid
          · intro k hk
            have := hc.incoming k hk
            rw [List.length_append]
            omega
          · intro k hk
            have := hc.outgoing k hk
            rw [List.length_append]
            omega

/-- A prewarm keeps the cluster well formed. -/
lemma Valid.prewarm {c : Cluster F} (hc : c.Valid) (station : StationId) (k : ℕ) :
    (c.handoffStep (.prewarm station k)).Valid := by
  simp only [Cluster.handoffStep]
  cases hd : c.delivery station k with
  | none => exact hc
  | some d =>
      obtain ⟨s, t⟩ := d
      obtain ⟨hinv, hid, _, _⟩ := hc.delivery hd
      by_cases ht : t.targetStation = s.config.stationId
      · obtain ⟨h, r, s', heq, hup, _, _⟩ := Station.prewarmHandoffGhost_spec hinv ht
        simp only [heq]
        exact hc.put hup.inv (hup.config ▸ hid)
      · simp only [Station.prewarmHandoffGhost_wrong ht]
        exact hc.put hinv hid

/-- An incoming commit keeps the cluster well formed. -/
lemma Valid.commitIncoming {c : Cluster F} (hc : c.Valid) (station : StationId) (k : ℕ) :
    (c.handoffStep (.commitIncoming station k)).Valid := by
  simp only [Cluster.handoffStep]
  cases hd : c.delivery station k with
  | none => exact hc
  | some d =>
      obtain ⟨s, t⟩ := d
      obtain ⟨hinv, hid, htid, hlt⟩ := hc.delivery hd
      by_cases ht : t.targetStation = s.config.stationId
      · rcases Station.commitIncomingHandoff_spec hinv ht htid with
          ⟨_, heq⟩ | ⟨_, h, s', heq, hup, _⟩
        · simp only [heq]
          exact hc.put hinv hid
        · simp only [heq]
          have hput := hc.put hup.inv (hup.config ▸ hid)
          refine ⟨hput.station, hput.issued, ?_, hput.outgoing⟩
          intro i hi
          rcases Finset.mem_insert.mp hi with rfl | hi
          · exact hlt
          · exact hc.incoming i hi
      · simp only [Station.commitIncomingHandoff_wrong ht]
        exact hc.put hinv hid

/-- An outgoing commit keeps the cluster well formed. -/
lemma Valid.commitOutgoing {c : Cluster F} (hc : c.Valid) (station : StationId) (k : ℕ) :
    (c.handoffStep (.commitOutgoing station k)).Valid := by
  simp only [Cluster.handoffStep]
  cases hd : c.delivery station k with
  | none => exact hc
  | some d =>
      obtain ⟨s, t⟩ := d
      obtain ⟨hinv, hid, _, hlt⟩ := hc.delivery hd
      have hput : (c.put station (s.commitOutgoingHandoff t).2).Valid := by
        by_cases ht : t.sourceStation = s.config.stationId
        · rcases Station.commitOutgoingHandoff_spec hinv ht with
            ⟨_, _, heq⟩ | ⟨h, r, s', _, _, heq, hup, _⟩
          · rw [heq]
            exact hc.put hinv hid
          · rw [heq]
            exact hc.put hup.inv (hup.config ▸ hid)
        · rw [Station.commitOutgoingHandoff_wrong ht]
          exact hc.put hinv hid
      refine ⟨hput.station, hput.issued, hput.incoming, ?_⟩
      intro i hi
      dsimp only at hi
      split_ifs at hi
      · rcases Finset.mem_insert.mp hi with rfl | hi
        · exact hlt
        · exact hc.outgoing i hi
      · exact hc.outgoing i hi

/-- Every handoff operation keeps the cluster well formed. -/
theorem Valid.handoffStep {c : Cluster F} (hc : c.Valid) (op : HandoffOp) :
    (c.handoffStep op).Valid := by
  cases op with
  | prepare station entity target epoch expires =>
      exact hc.prepare station entity target epoch expires
  | prewarm station k => exact hc.prewarm station k
  | commitIncoming station k => exact hc.commitIncoming station k
  | commitOutgoing station k => exact hc.commitOutgoing station k

/-- Every operation keeps the cluster well formed. -/
theorem Valid.step {c : Cluster F} (hc : c.Valid) (op : ClusterOp F) : (c.step op).Valid := by
  cases op with
  | handoff op => exact hc.handoffStep op
  | spawnOwned station entity position bounds policyId =>
      simp only [Cluster.step]
      cases hs : c.stations.lookup station with
      | none => exact hc
      | some s =>
          obtain ⟨hinv, hid⟩ := hc.station station s hs
          rcases Station.spawnOwned_spec entity position bounds policyId hinv with
            ⟨_, heq⟩ | ⟨_, h, s', heq, hup⟩
          · simp only [heq]
            exact hc.put hinv hid
          · simp only [heq]
            exact hc.put hup.inv (hup.config ▸ hid)
  | upsertGhost station entity position bounds policyId ownerStation ownerEpoch expiresAt =>
      simp only [Cluster.step]
      cases hs : c.stations.lookup station with
      | none => exact hc
      | some s =>
          obtain ⟨hinv, hid⟩ := hc.station station s hs
          obtain ⟨h, r, s', heq, hup, _, _⟩ := Station.upsertGhost_spec entity position bounds
            policyId ownerStation ownerEpoch expiresAt hinv
          simp only [heq]
          exact hc.put hup.inv (hup.config ▸ hid)
  | removeById station entity =>
      simp only [Cluster.step]
      cases hs : c.stations.lookup station with
      | none => exact hc
      | some s =>
          obtain ⟨hinv, hid⟩ := hc.station station s hs
          have hconfig := Station.config_removeById s entity
          exact hc.put (hinv.removeById entity) (by rw [hconfig]; exact hid)

/-! ## One entity of a cluster is a custody state -/

/-- The stations that own an entity. -/
def owners (c : Cluster F) (e : EntityId) : Finset StationId :=
  c.stations.keys.filter fun id => (c.stations.lookup id).any (·.owns e)

@[simp] lemma mem_owners {c : Cluster F} {e : EntityId} {id : StationId} :
    id ∈ c.owners e ↔ ∃ s, c.stations.lookup id = some s ∧ s.owns e = true := by
  simp only [owners, Finset.mem_filter, Finmap.mem_keys_iff_lookup, Option.any_eq_true]
  exact ⟨fun h => h.2, fun ⟨s, hs, ho⟩ => ⟨⟨s, hs⟩, s, hs, ho⟩⟩

@[simp] lemma owners_new (configs : List StationConfig) (e : EntityId) :
    (new configs : Cluster F).owners e = ∅ := by
  refine Finset.eq_empty_of_forall_notMem fun id hmem => ?_
  obtain ⟨s, hs, how⟩ := mem_owners.mp hmem
  obtain ⟨config, _, rfl⟩ := lookup_new hs
  simp [Station.owns, Station.getById, Station.new] at how

/-- Whether the transfer at a position is about the entity. -/
def concerns (c : Cluster F) (e : EntityId) (k : ℕ) : Bool :=
  c.issued[k]?.any fun t => t.entityId = e

/-- A cluster, seen from one entity. -/
def view (c : Cluster F) (e : EntityId) : Custody.State StationId ℕ where
  holders := c.owners e
  source k := (c.issued[k]?.filter fun t => t.entityId = e).map (·.sourceStation)
  accepted := c.incoming.filter fun k => c.concerns e k
  released := c.outgoing.filter fun k => c.concerns e k

/-- What a handoff operation is to one entity. -/
def handoffEvent (c : Cluster F) (e : EntityId) : HandoffOp → Custody.Event StationId ℕ
  | .prepare station entity target epoch expires =>
      match c.stations.lookup station with
      | some s =>
          match s.prepareOutgoingHandoff entity target epoch expires with
          | .ok _ => if entity = e then .issue c.issued.length station else .idle
          | .error _ => .idle
      | none => .idle
  | .prewarm station k =>
      match c.delivery station k with
      | some (_, t) => if t.targetStation = station ∧ t.entityId = e then .drop station else .idle
      | none => .idle
  | .commitIncoming station k =>
      match c.delivery station k with
      | some (s, t) =>
          if t.targetStation = station ∧ t.entityId = e ∧ s.owns e = false then .accept k station
          else .idle
      | none => .idle
  | .commitOutgoing station k =>
      match c.delivery station k with
      | some (_, t) => if t.sourceStation = station ∧ t.entityId = e then .release k else .idle
      | none => .idle

/-- What an operation is to one entity. -/
def event (c : Cluster F) (e : EntityId) : ClusterOp F → Custody.Event StationId ℕ
  | .handoff op => c.handoffEvent e op
  | .spawnOwned station entity _ _ _ =>
      match c.stations.lookup station with
      | some s =>
          if entity = e ∧ s.getById e = none then .grant station else .idle
      | none => .idle
  | .upsertGhost station entity _ _ _ _ _ _ => if entity = e then .drop station else .idle
  | .removeById station entity => if entity = e then .drop station else .idle

/-- Replacing a station updates the owners by that station alone. -/
lemma owners_put {c : Cluster F} {id : StationId} {s' : Station F} (e : EntityId) :
    (c.put id s').owners e
      = if s'.owns e then insert id (c.owners e) else (c.owners e).erase id := by
  ext id'
  simp only [mem_owners, put, Finmap.lookup_insert_eq]
  by_cases hid : id' = id
  · cases ho : s'.owns e with
    | true => simp [hid, ho]
    | false => simp [hid, ho]
  · cases ho : s'.owns e with
    | true => simp [hid]
    | false => simp [hid]

/-- Replacing a station by one with the same authority changes no owner. -/
lemma owners_put_same {c : Cluster F} {id : StationId} {s s' : Station F} {e : EntityId}
    (hs : c.stations.lookup id = some s) (ho : s'.owns e = s.owns e) :
    (c.put id s').owners e = c.owners e := by
  rw [owners_put, ho]
  cases h : s.owns e with
  | true => exact Finset.insert_eq_of_mem (mem_owners.mpr ⟨s, hs, h⟩)
  | false =>
      refine Finset.erase_eq_of_notMem fun hmem => ?_
      obtain ⟨s₂, hs₂, h₂⟩ := mem_owners.mp hmem
      rw [hs, Option.some.injEq] at hs₂
      rw [← hs₂, h] at h₂
      exact Bool.false_ne_true h₂

lemma owners_put_false {c : Cluster F} {id : StationId} {s' : Station F} {e : EntityId}
    (ho : s'.owns e = false) : (c.put id s').owners e = (c.owners e).erase id := by
  rw [owners_put, ho, if_neg Bool.false_ne_true]

lemma owners_put_true {c : Cluster F} {id : StationId} {s' : Station F} {e : EntityId}
    (ho : s'.owns e = true) : (c.put id s').owners e = insert id (c.owners e) := by
  rw [owners_put, ho, if_pos rfl]

/-- Replacing a station is visible in the owners only. -/
lemma view_put (c : Cluster F) (id : StationId) (s' : Station F) (e : EntityId) :
    (c.put id s').view e = { c.view e with holders := (c.put id s').owners e } := rfl

lemma view_source {c : Cluster F} {e : EntityId} {k : ℕ} {t : HandoffTransfer F}
    (ht : c.issued[k]? = some t) (hte : t.entityId = e) :
    (c.view e).source k = some t.sourceStation := by
  simp [view, ht, hte, Option.filter_some]

/-- Issuing a transfer, seen from one entity. -/
lemma view_issue {c : Cluster F} (hc : c.Valid) (e : EntityId) (t : HandoffTransfer F) :
    ({ c with issued := c.issued ++ [t] } : Cluster F).view e
      = Custody.step (c.view e)
          (if t.entityId = e then .issue c.issued.length t.sourceStation else .idle) := by
  have hold : ∀ k < c.issued.length, (c.issued ++ [t])[k]? = c.issued[k]? := fun k hk =>
    List.getElem?_append_left hk
  have hin : c.incoming.filter (fun k => ((c.issued ++ [t])[k]?.any fun t => t.entityId = e))
      = c.incoming.filter fun k => c.concerns e k :=
    Finset.filter_congr fun k hk => by rw [hold k (hc.incoming k hk), concerns]
  have hout : c.outgoing.filter (fun k => ((c.issued ++ [t])[k]?.any fun t => t.entityId = e))
      = c.outgoing.filter fun k => c.concerns e k :=
    Finset.filter_congr fun k hk => by rw [hold k (hc.outgoing k hk), concerns]
  have hsource : (fun k => ((c.issued ++ [t])[k]?.filter fun t => t.entityId = e).map
        (·.sourceStation))
      = (Custody.step (c.view e)
          (if t.entityId = e then .issue c.issued.length t.sourceStation else .idle)).source := by
    funext k
    have hview : (c.view e).source k
        = (c.issued[k]?.filter fun t => t.entityId = e).map (·.sourceStation) := rfl
    rcases Nat.lt_trichotomy k c.issued.length with hlt | rfl | hgt
    · rw [hold k hlt]
      split_ifs
      · simp [Custody.step, Function.update_of_ne hlt.ne, hview]
      · exact hview.symm
    · split_ifs with hte
      · simp [Custody.step, hte, Option.filter_some]
      · simp [Custody.step, hview, hte, Option.filter_some]
    · have h₁ : (c.issued ++ [t])[k]? = none := by
        rw [List.getElem?_eq_none_iff, List.length_append, List.length_singleton]
        omega
      have h₂ : c.issued[k]? = none := List.getElem?_eq_none_iff.mpr hgt.le
      rw [h₁]
      split_ifs
      · simp [Custody.step, Function.update_of_ne hgt.ne', hview, h₂]
      · simp [Custody.step, hview, h₂]
  have hext : ∀ s : Custody.State StationId ℕ, s.holders = c.owners e →
      s.accepted = (c.view e).accepted → s.released = (c.view e).released →
      s.source = (Custody.step (c.view e)
          (if t.entityId = e then .issue c.issued.length t.sourceStation else .idle)).source →
      s = Custody.step (c.view e)
          (if t.entityId = e then .issue c.issued.length t.sourceStation else .idle) := by
    rintro ⟨holders, source, accepted, released⟩ rfl rfl rfl rfl
    split_ifs <;> rfl
  exact hext _ rfl hin hout hsource

/-- A put that changes no authority over the entity is invisible to it. -/
lemma view_put_same {c : Cluster F} {id : StationId} {s s' : Station F} {e : EntityId}
    (hs : c.stations.lookup id = some s) (ho : s'.owns e = s.owns e) :
    (c.put id s').view e = c.view e := by
  rw [view_put, owners_put_same hs ho]
  rfl

/-- A put that takes the authority away is a drop. -/
lemma view_put_drop {c : Cluster F} {id : StationId} {s' : Station F} {e : EntityId}
    (ho : s'.owns e = false) : (c.put id s').view e = Custody.step (c.view e) (.drop id) := by
  rw [view_put, owners_put_false ho]
  rfl

/-- A put that gives authority is a grant. -/
lemma view_put_grant {c : Cluster F} {id : StationId} {s' : Station F} {e : EntityId}
    (ho : s'.owns e = true) : (c.put id s').view e = Custody.step (c.view e) (.grant id) := by
  rw [view_put, owners_put_true ho]
  rfl

/-- A drop at a station that does not exist is invisible. -/
lemma view_drop_missing {c : Cluster F} {id : StationId} (hs : c.stations.lookup id = none)
    (e : EntityId) : Custody.step (c.view e) (.drop id) = c.view e := by
  have hne : id ∉ c.owners e := fun h => by
    obtain ⟨s, hs', _⟩ := mem_owners.mp h
    rw [hs] at hs'
    exact absurd hs' (by simp)
  simp only [Custody.step, view, Finset.erase_eq_of_notMem hne]

/-- A successful preparation is an issue. -/
lemma view_prepare {c : Cluster F} (hc : c.Valid) (e : EntityId) (station : StationId)
    (entity : EntityId) (target : StationId) (epoch : OwnerEpoch) (expires : Tick) :
    (c.handoffStep (.prepare station entity target epoch expires)).view e
      = Custody.step (c.view e)
        (c.handoffEvent e (.prepare station entity target epoch expires)) := by
  simp only [Cluster.handoffStep, handoffEvent]
  cases hs : c.stations.lookup station with
  | none => rfl
  | some s =>
      cases hp : s.prepareOutgoingHandoff entity target epoch expires with
      | error error => simp only [hp]; rfl
      | ok t =>
          simp only [hp]
          obtain ⟨_, r, _, _, rfl⟩ := Station.prepareOutgoingHandoff_eq_ok.mp hp
          rw [view_issue hc]
          simp only [(hc.station station s hs).2]

/-- A prewarm at the target is a drop. -/
lemma view_prewarm {c : Cluster F} (hc : c.Valid) (e : EntityId) (station : StationId) (k : ℕ) :
    (c.handoffStep (.prewarm station k)).view e
      = Custody.step (c.view e) (c.handoffEvent e (.prewarm station k)) := by
  simp only [Cluster.handoffStep, handoffEvent]
  cases hd : c.delivery station k with
  | none => rfl
  | some d =>
      obtain ⟨s, t⟩ := d
      obtain ⟨hs, _⟩ := delivery_eq_some.mp hd
      obtain ⟨hinv, rfl, _, _⟩ := hc.delivery hd
      by_cases ht : t.targetStation = s.config.stationId
      · have howns := Station.owns_prewarmHandoffGhost e hinv ht
        by_cases hte : t.entityId = e
        · simp only [ht, hte, and_self, if_true]
          exact view_put_drop (by simp [howns, hte])
        · simp only [hte, and_false, if_false]
          exact view_put_same hs (by simp [howns, Ne.symm hte])
      · simp only [ht, false_and, if_false, Station.prewarmHandoffGhost_wrong ht]
        exact view_put_same hs rfl

/-- An effective incoming commit is an acceptance. -/
lemma view_commitIncoming {c : Cluster F} (hc : c.Valid) (e : EntityId) (station : StationId)
    (k : ℕ) :
    (c.handoffStep (.commitIncoming station k)).view e
      = Custody.step (c.view e) (c.handoffEvent e (.commitIncoming station k)) := by
  simp only [Cluster.handoffStep, handoffEvent]
  cases hd : c.delivery station k with
  | none => rfl
  | some d =>
      obtain ⟨s, t⟩ := d
      obtain ⟨hs, hk⟩ := delivery_eq_some.mp hd
      obtain ⟨hinv, rfl, hid, _⟩ := hc.delivery hd
      by_cases ht : t.targetStation = s.config.stationId
      · rcases Station.commitIncomingHandoff_spec hinv ht hid with
          ⟨how, heq⟩ | ⟨how, h, s', heq, hup, _⟩
        · -- refused: the target owns the entity, and every other entity is untouched
          simp only [heq]
          rw [if_neg, view_put_same hs rfl]
          · rfl
          · rintro ⟨_, rfl, hno⟩
            rw [how] at hno
            exact absurd hno (by simp)
        · simp only [heq]
          by_cases hte : t.entityId = e
          · subst hte
            rw [if_pos ⟨ht, rfl, how⟩]
            have ho : s'.owns t.entityId = true := by
              rw [hup.owns, if_pos rfl]
              rfl
            simp only [view, Custody.step, Custody.State.mk.injEq]
            refine ⟨owners_put_true ho, rfl, ?_, rfl⟩
            rw [Finset.filter_insert]
            exact if_pos (by simp [concerns, put, hk])
          · rw [if_neg (fun h => hte h.2.1)]
            have ho : s'.owns e = s.owns e := by rw [hup.owns, if_neg (Ne.symm hte)]
            simp only [view, Custody.step, Custody.State.mk.injEq]
            refine ⟨owners_put_same hs ho, rfl, ?_, rfl⟩
            rw [Finset.filter_insert]
            exact if_neg (by simp [concerns, put, hk, hte])
      · simp only [ht, false_and, if_false, Station.commitIncomingHandoff_wrong ht]
        exact view_put_same hs rfl

/-- An outgoing commit at the source is a release. -/
lemma view_commitOutgoing {c : Cluster F} (hc : c.Valid) (e : EntityId) (station : StationId)
    (k : ℕ) :
    (c.handoffStep (.commitOutgoing station k)).view e
      = Custody.step (c.view e) (c.handoffEvent e (.commitOutgoing station k)) := by
  simp only [Cluster.handoffStep, handoffEvent]
  cases hd : c.delivery station k with
  | none => rfl
  | some d =>
      obtain ⟨s, t⟩ := d
      obtain ⟨hs, hk⟩ := delivery_eq_some.mp hd
      obtain ⟨hinv, rfl, _, _⟩ := hc.delivery hd
      by_cases ht : t.sourceStation = s.config.stationId
      · have howns := Station.owns_commitOutgoingHandoff e hinv ht
        by_cases hte : t.entityId = e
        · have hsource : (c.view e).source k = some s.config.stationId := by
            rw [view_source hk hte, ht]
          have hfilter := Custody.filter_source_eq_erase hsource
          simp only [ht, hte, and_self, if_true, Custody.step, hfilter]
          simp only [view, Custody.State.mk.injEq]
          refine ⟨owners_put_false (by simp [howns, hte]), rfl, rfl, ?_⟩
          rw [Finset.filter_insert]
          exact if_pos (by simp [concerns, put, hk, hte])
        · simp only [ht, hte, and_false, if_false, if_true]
          simp only [view, Custody.step, Custody.State.mk.injEq]
          refine ⟨owners_put_same hs (by simp [howns, Ne.symm hte]), rfl, rfl, ?_⟩
          rw [Finset.filter_insert]
          exact if_neg (by simp [concerns, put, hk, hte])
      · simp only [ht, false_and, if_false, Station.commitOutgoingHandoff_wrong ht]
        exact view_put_same hs rfl

/-- **Simulation of the handoff operations.**  One handoff operation is one custody event. -/
theorem view_handoffStep {c : Cluster F} (hc : c.Valid) (e : EntityId) (op : HandoffOp) :
    (c.handoffStep op).view e = Custody.step (c.view e) (c.handoffEvent e op) := by
  cases op with
  | prepare station entity target epoch expires =>
      exact view_prepare hc e station entity target epoch expires
  | prewarm station k => exact view_prewarm hc e station k
  | commitIncoming station k => exact view_commitIncoming hc e station k
  | commitOutgoing station k => exact view_commitOutgoing hc e station k

/-- **Simulation.**  Every operation of the cluster is one custody event. -/
theorem view_step {c : Cluster F} (hc : c.Valid) (e : EntityId) (op : ClusterOp F) :
    (c.step op).view e = Custody.step (c.view e) (c.event e op) := by
  cases op with
  | handoff op => exact view_handoffStep hc e op
  | spawnOwned station entity position bounds policyId =>
      simp only [Cluster.step, event]
      cases hs : c.stations.lookup station with
      | none => rfl
      | some s =>
          have howns := Station.owns_spawnOwned e (hc.station station s hs).1 entity position bounds
            policyId
          by_cases hgrant : entity = e ∧ s.getById e = none
          · obtain ⟨rfl, hnone⟩ := hgrant
            simp only [hnone, and_self, if_true]
            exact view_put_grant (by simp [howns, hnone])
          · simp only [hgrant, if_false]
            refine view_put_same hs ?_
            rw [howns]
            by_cases he : e = entity
            · subst he
              cases hget : s.getById e with
              | none => exact absurd ⟨rfl, hget⟩ hgrant
              | some r => simp
            · simp [he]
  | upsertGhost station entity position bounds policyId ownerStation ownerEpoch expiresAt =>
      simp only [Cluster.step, event]
      cases hs : c.stations.lookup station with
      | none =>
          split_ifs
          · exact (view_drop_missing hs e).symm
          · rfl
      | some s =>
          have howns := Station.owns_upsertGhost e (hc.station station s hs).1 entity position
            bounds policyId ownerStation ownerEpoch expiresAt
          split_ifs with he
          · subst he
            exact view_put_drop (by simp [howns])
          · exact view_put_same hs (by simp [howns, Ne.symm he])
  | removeById station entity =>
      simp only [Cluster.step, event]
      cases hs : c.stations.lookup station with
      | none =>
          split_ifs
          · exact (view_drop_missing hs e).symm
          · rfl
      | some s =>
          have howns := Station.owns_removeById e (hc.station station s hs).1 entity
          split_ifs with he
          · subst he
            exact view_put_drop (by simp [howns])
          · exact view_put_same hs (by simp [howns, Ne.symm he])

/-- An operation that is no event for an entity leaves its owners. -/
lemma owners_step_idle {c : Cluster F} (hc : c.Valid) {e : EntityId} {op : ClusterOp F}
    (h : c.event e op = .idle) : (c.step op).owners e = c.owners e := by
  have hview := view_step hc e op
  rw [h] at hview
  exact congrArg Custody.State.holders hview

lemma notMem_owners {c : Cluster F} {e : EntityId} {id : StationId} {s : Station F}
    (hs : c.stations.lookup id = some s) (ho : s.owns e = false) : id ∉ c.owners e := by
  intro h
  obtain ⟨s', hs', ho'⟩ := mem_owners.mp h
  rw [hs, Option.some.injEq] at hs'
  rw [← hs', ho] at ho'
  exact Bool.false_ne_true ho'

/-- Every handoff operation is an event the custody protocol allows. -/
lemma handoffEvent_enabled {c : Cluster F} (hc : c.Valid) (e : EntityId) (op : HandoffOp) :
    Custody.Enabled (c.view e) (c.handoffEvent e op) := by
  cases op with
  | prepare station entity target epoch expires =>
      simp only [handoffEvent]
      cases hs : c.stations.lookup station with
      | none => trivial
      | some s =>
          cases hp : s.prepareOutgoingHandoff entity target epoch expires with
          | error error =>
              simp only [hp]
              trivial
          | ok t =>
              obtain ⟨_, r, hr, how, _⟩ := Station.prepareOutgoingHandoff_eq_ok.mp hp
              simp only [hp]
              split_ifs with he
              · subst he
                refine ⟨mem_owners.mpr ⟨s, hs, Station.owns_eq_true.mpr ⟨r, hr, how⟩⟩, ?_, ?_⟩
                · intro h
                  exact absurd (hc.incoming _ (Finset.mem_filter.mp h).1) (lt_irrefl _)
                · intro h
                  exact absurd (hc.outgoing _ (Finset.mem_filter.mp h).1) (lt_irrefl _)
              · trivial
  | prewarm station k =>
      simp only [handoffEvent]
      split
      · split_ifs <;> trivial
      · trivial
  | commitIncoming station k =>
      simp only [handoffEvent]
      cases hd : c.delivery station k with
      | none => trivial
      | some d =>
          obtain ⟨s, t⟩ := d
          obtain ⟨hs, hk⟩ := delivery_eq_some.mp hd
          dsimp only
          split_ifs with h
          · refine ⟨notMem_owners hs h.2.2, ?_⟩
            rw [view_source hk h.2.1]
            exact Option.some_ne_none _
          · trivial
  | commitOutgoing station k =>
      simp only [handoffEvent]
      split
      · split_ifs <;> trivial
      · trivial

/-- Every operation is an event the custody protocol allows. -/
lemma event_enabled {c : Cluster F} (hc : c.Valid) (e : EntityId) (op : ClusterOp F) :
    Custody.Enabled (c.view e) (c.event e op) := by
  cases op with
  | handoff op => exact handoffEvent_enabled hc e op
  | spawnOwned station entity position bounds policyId =>
      simp only [event]
      cases hs : c.stations.lookup station with
      | none => trivial
      | some s =>
          dsimp only
          split_ifs with h
          · exact notMem_owners hs (by simp [Station.owns, h.2])
          · trivial
  | upsertGhost station entity position bounds policyId ownerStation ownerEpoch expiresAt =>
      simp only [event]
      split_ifs <;> trivial
  | removeById station entity =>
      simp only [event]
      split_ifs <;> trivial

end Cluster

end SectorSync
