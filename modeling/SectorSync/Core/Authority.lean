import SectorSync.Base.Run
import SectorSync.Core.HandoffProtocol

/-!
# Single authority, and authority that is never lost

What runs of a cluster guarantee about the owners of an entity, read off the custody protocol:

* `single_authority`: settled states have one owner, when of an accepting station and an owner
  it finds one is about to release;
* `authority_never_lost`: a spawned entity keeps an owner, when no ghost update and no replayed
  outgoing commit reaches an owner.

Both conditions are needed: `split_authority` and `lost_authority` are runs without them.
-/

namespace SectorSync

open Machine

variable {F : Type}

namespace Cluster

/-! ## Single authority -/

/-- The station is the source of a transfer of the entity, among the given committed ones, that
was not yet offered for its outgoing commit. -/
def Releasing (c : Cluster F) (e : EntityId) (committed : Finset ℕ) (station : StationId) : Prop :=
  ∃ k ∈ committed, k ∉ c.outgoing ∧
    (c.issued[k]?.any fun t => t.entityId = e ∧ t.sourceStation = station) = true

instance (c : Cluster F) (e : EntityId) (committed : Finset ℕ) (station : StationId) :
    Decidable (c.Releasing e committed station) :=
  inferInstanceAs (Decidable (∃ k ∈ committed, k ∉ c.outgoing ∧
    (c.issued[k]?.any fun t => t.entityId = e ∧ t.sourceStation = station) = true))

/-- When an incoming commit takes effect, it or every other owner of the entity is about to
release, by a transfer committed so far or by this one. -/
def CommitsInOrder (c : Cluster F) : HandoffOp → Prop
  | .commitIncoming station k =>
      ∀ d ∈ c.delivery station k, d.2.targetStation = station → d.1.owns d.2.entityId = false →
        ∀ owner ∈ c.owners d.2.entityId,
          c.Releasing d.2.entityId (insert k c.incoming) owner
            ∨ c.Releasing d.2.entityId (insert k c.incoming) station
  | _ => True

instance (c : Cluster F) : DecidablePred c.CommitsInOrder
  | .commitIncoming station k =>
      inferInstanceAs (Decidable (∀ d ∈ c.delivery station k, d.2.targetStation = station →
        d.1.owns d.2.entityId = false → ∀ owner ∈ c.owners d.2.entityId,
          c.Releasing d.2.entityId (insert k c.incoming) owner
            ∨ c.Releasing d.2.entityId (insert k c.incoming) station))
  | .prepare _ _ _ _ _ => isTrue trivial
  | .prewarm _ _ => isTrue trivial
  | .commitOutgoing _ _ => isTrue trivial

/-- Releasing stations are the yielding parties of the custody protocol. -/
lemma Releasing.yielding {c : Cluster F} {e : EntityId} {k : ℕ} {station target : StationId}
    (hk : c.concerns e k = true) (h : c.Releasing e (insert k c.incoming) station) :
    Custody.Yielding (Custody.step (c.view e) (.accept k target)) station := by
  obtain ⟨i, hi, hout, hany⟩ := h
  obtain ⟨t, ht, hboth⟩ := (Option.any_eq_true _ _).mp hany
  obtain ⟨hte, hsource⟩ := of_decide_eq_true hboth
  refine ⟨i, ?_, ?_, ?_⟩
  · rcases Finset.mem_insert.mp hi with rfl | hi
    · exact Finset.mem_insert_self _ _
    · refine Finset.mem_insert_of_mem (Finset.mem_filter.mpr ⟨hi, ?_⟩)
      simp [concerns, ht, hte]
  · exact fun hmem => hout (Finset.mem_filter.mp hmem).1
  · show (c.view e).source i = some station
    rw [view_source ht hte, hsource]

lemma CommitsInOrder.inOrder {c : Cluster F} {op : HandoffOp} (h : c.CommitsInOrder op)
    (e : EntityId) : Custody.InOrder (c.view e) (c.handoffEvent e op) := by
  cases op with
  | prepare station entity target epoch expires =>
      simp only [handoffEvent]
      split
      · split
        · split_ifs <;> trivial
        · trivial
      · trivial
  | prewarm station k =>
      simp only [handoffEvent]
      split
      · split_ifs <;> trivial
      · trivial
  | commitIncoming station k =>
      simp only [handoffEvent]
      cases hd : c.delivery station k with
      | none => trivial
      | some d =>
          obtain ⟨s, t⟩ := d
          obtain ⟨_, hk⟩ := delivery_eq_some.mp hd
          dsimp only
          split_ifs with hacc
          · obtain ⟨ht, rfl, how⟩ := hacc
            have hconcerns : c.concerns t.entityId k = true := by simp [concerns, hk]
            intro owner howner
            exact Or.inr ((h (s, t) hd ht how owner howner).imp
              (Releasing.yielding hconcerns) (Releasing.yielding hconcerns))
          · trivial
  | commitOutgoing station k =>
      simp only [handoffEvent]
      split
      · split_ifs <;> trivial
      · trivial

/-- What the handoff operations keep when commits are in order. -/
structure SingleAuthority (c : Cluster F) : Prop where
  valid : c.Valid
  exclusive : ∀ e, Custody.Exclusive (c.view e)

/-- **Single authority.**  When every effective incoming commit is in order, no two stations own
one entity in a state in which every committed transfer was offered to its source. -/
theorem single_authority {c : Cluster F} (hc : c.Valid)
    (hinit : ∀ e, (c.owners e).card ≤ 1) {ops : List HandoffOp}
    (hok : AllSteps handoffStep CommitsInOrder c ops)
    (hsettled : ∀ k ∈ (execute handoffStep c ops).incoming,
      k ∈ (execute handoffStep c ops).outgoing) (e : EntityId) :
    ((execute handoffStep c ops).owners e).card ≤ 1 := by
  have hstart : c.SingleAuthority := by
    refine ⟨hc, fun e' p hp q hq hne => ?_⟩
    exact absurd (Finset.card_le_one.mp (hinit e') p hp q hq) hne
  have hrun : (execute handoffStep c ops).SingleAuthority := by
    refine execute_invariant (I := SingleAuthority) (fun c op hI hop => ?_) hstart hok
    refine ⟨hI.valid.handoffStep op, fun e' => ?_⟩
    rw [view_handoffStep hI.valid]
    exact (hI.exclusive e').step (handoffEvent_enabled hI.valid e' op) (hop.inOrder e')
  refine Finset.card_le_one.mpr fun p hp q hq => ?_
  refine (hrun.exclusive e).eq_of_settled (fun k hk => ?_) hp hq
  obtain ⟨hk, hconcerns⟩ := Finset.mem_filter.mp hk
  exact Finset.mem_filter.mpr ⟨hsettled k hk, hconcerns⟩

section SplitAuthority

/-- Three stations, the first of which spawned entity 7. -/
def threeStations : Cluster ℕ :=
  (new [configWithStation 1, configWithStation 2, configWithStation 3]).step
    (.spawnOwned ⟨1⟩ ⟨7⟩ ⟨0, 0, 0⟩ .point ⟨0⟩)

lemma valid_threeStations : threeStations.Valid := (valid_new _).step _

lemma card_owners_threeStations (e : EntityId) : (threeStations.owners e).card ≤ 1 := by
  by_cases he : e = ⟨7⟩
  · subst he
    decide
  · rw [threeStations, owners_step_idle (valid_new _), owners_new]
    · simp
    · simp only [event]
      split
      · rw [if_neg fun h => he h.1.symm]
      · rfl

/-- Station 1 prepares transfers to both others, each is committed at its target, and each is
then offered to station 1, which gives up the entity once. -/
def twoTransfers : List HandoffOp :=
  [.prepare ⟨1⟩ ⟨7⟩ ⟨2⟩ ⟨1⟩ ⟨10⟩, .prepare ⟨1⟩ ⟨7⟩ ⟨3⟩ ⟨1⟩ ⟨10⟩, .commitIncoming ⟨2⟩ 0,
    .commitIncoming ⟨3⟩ 1, .commitOutgoing ⟨1⟩ 0, .commitOutgoing ⟨1⟩ 1]

/-- Without commits in order a settled state can have two owners. -/
theorem split_authority :
    threeStations.Valid ∧ (∀ e, (threeStations.owners e).card ≤ 1) ∧
      (∀ k ∈ (execute handoffStep threeStations twoTransfers).incoming,
        k ∈ (execute handoffStep threeStations twoTransfers).outgoing) ∧
      ⟨2⟩ ∈ (execute handoffStep threeStations twoTransfers).owners ⟨7⟩ ∧
      ⟨3⟩ ∈ (execute handoffStep threeStations twoTransfers).owners ⟨7⟩ := by
  refine ⟨valid_threeStations, card_owners_threeStations, ?_, ?_, ?_⟩ <;> decide

/-- A transfer from station 1 to station 2 and on to station 3, with replayed commits. -/
def chainedTransfers : List HandoffOp :=
  [.prepare ⟨1⟩ ⟨7⟩ ⟨2⟩ ⟨1⟩ ⟨10⟩, .prewarm ⟨2⟩ 0, .commitIncoming ⟨2⟩ 0, .commitOutgoing ⟨1⟩ 0,
    .prepare ⟨2⟩ ⟨7⟩ ⟨3⟩ ⟨2⟩ ⟨10⟩, .commitIncoming ⟨2⟩ 0, .commitIncoming ⟨3⟩ 1,
    .commitOutgoing ⟨1⟩ 0, .commitOutgoing ⟨2⟩ 1]

theorem single_authority_chained :
    ((execute handoffStep threeStations chainedTransfers).owners ⟨7⟩).card ≤ 1 :=
  single_authority valid_threeStations card_owners_threeStations (by decide) (by decide) ⟨7⟩

end SplitAuthority

/-! ## Authority is never lost -/

/-- An outgoing commit reaches its source only after the incoming commit succeeded. -/
def IncomingFirst (c : Cluster F) : ClusterOp F → Prop
  | .handoff (.commitOutgoing station k) =>
      ∀ d ∈ c.delivery station k, d.2.sourceStation = station → k ∈ c.incoming
  | _ => True

/-- The operation does not remove the entity. -/
def Retains (e : EntityId) : ClusterOp F → Prop
  | .removeById _ entity => entity ≠ e
  | _ => True

/-- No ghost update, and no outgoing commit that already reached its source, reaches a station
that owns the entity. -/
def SparesOwner (c : Cluster F) (e : EntityId) : ClusterOp F → Prop
  | .handoff (.prewarm station k) =>
      ∀ d ∈ c.delivery station k, d.2.targetStation = station → d.2.entityId = e →
        d.1.owns e = false
  | .handoff (.commitOutgoing station k) =>
      ∀ d ∈ c.delivery station k, d.2.sourceStation = station → d.2.entityId = e →
        k ∈ c.outgoing → d.1.owns e = false
  | .upsertGhost station entity _ _ _ _ _ _ =>
      entity = e → ∀ s ∈ c.stations.lookup station, s.owns e = false
  | _ => True

instance (c : Cluster F) : DecidablePred c.IncomingFirst
  | .handoff (.commitOutgoing station k) =>
      inferInstanceAs (Decidable (∀ d ∈ c.delivery station k, d.2.sourceStation = station →
        k ∈ c.incoming))
  | .handoff (.prepare _ _ _ _ _) => isTrue trivial
  | .handoff (.prewarm _ _) => isTrue trivial
  | .handoff (.commitIncoming _ _) => isTrue trivial
  | .spawnOwned _ _ _ _ _ => isTrue trivial
  | .upsertGhost _ _ _ _ _ _ _ _ => isTrue trivial
  | .removeById _ _ => isTrue trivial

instance (e : EntityId) : DecidablePred (Retains e : ClusterOp F → Prop)
  | .removeById _ entity => inferInstanceAs (Decidable (entity ≠ e))
  | .handoff _ => isTrue trivial
  | .spawnOwned _ _ _ _ _ => isTrue trivial
  | .upsertGhost _ _ _ _ _ _ _ _ => isTrue trivial

instance (c : Cluster F) (e : EntityId) : DecidablePred (c.SparesOwner e)
  | .handoff (.prewarm station k) =>
      inferInstanceAs (Decidable (∀ d ∈ c.delivery station k, d.2.targetStation = station →
        d.2.entityId = e → d.1.owns e = false))
  | .handoff (.commitOutgoing station k) =>
      inferInstanceAs (Decidable (∀ d ∈ c.delivery station k, d.2.sourceStation = station →
        d.2.entityId = e → k ∈ c.outgoing → d.1.owns e = false))
  | .handoff (.prepare _ _ _ _ _) => isTrue trivial
  | .handoff (.commitIncoming _ _) => isTrue trivial
  | .spawnOwned _ _ _ _ _ => isTrue trivial
  | .upsertGhost station entity _ _ _ _ _ _ =>
      inferInstanceAs (Decidable (entity = e →
        ∀ s ∈ c.stations.lookup station, s.owns e = false))
  | .removeById _ _ => isTrue trivial

/-- The conditions of a run that never loses an entity. -/
structure KeepsAuthority (e : EntityId) (c : Cluster F) (op : ClusterOp F) : Prop where
  incomingFirst : c.IncomingFirst op
  retains : Retains e op
  sparesOwner : c.SparesOwner e op

instance (e : EntityId) (c : Cluster F) (op : ClusterOp F) : Decidable (KeepsAuthority e c op) :=
  decidable_of_iff (c.IncomingFirst op ∧ Retains e op ∧ c.SparesOwner e op)
    ⟨fun h => ⟨h.1, h.2.1, h.2.2⟩, fun h => ⟨h.1, h.2, h.3⟩⟩

/-- The run spawns the entity. -/
def Spawns (c : Cluster F) (e : EntityId) (ops : List (ClusterOp F)) : Prop :=
  ∃ before station position bounds policyId after,
    ops = before ++ .spawnOwned station e position bounds policyId :: after ∧
    ∃ s h, (execute step c before).stations.lookup station = some s ∧
      (s.spawnOwned e position bounds policyId).1 = .ok h

lemma KeepsAuthority.guarded {c : Cluster F} {e : EntityId} {op : ClusterOp F}
    (h : KeepsAuthority e c op) : Custody.Guarded (c.view e) (c.event e op) := by
  cases op with
  | handoff op =>
      cases op with
      | prepare station entity target epoch expires =>
          simp only [event, handoffEvent]
          split
          · split
            · split_ifs <;> trivial
            · trivial
          · trivial
      | prewarm station k =>
          simp only [event, handoffEvent]
          cases hd : c.delivery station k with
          | none => trivial
          | some d =>
              obtain ⟨s, t⟩ := d
              dsimp only
              split_ifs with hdrop
              · exact notMem_owners (delivery_eq_some.mp hd).1
                  (h.sparesOwner (s, t) hd hdrop.1 hdrop.2)
              · trivial
      | commitIncoming station k =>
          simp only [event, handoffEvent]
          split
          · split_ifs <;> trivial
          · trivial
      | commitOutgoing station k =>
          simp only [event, handoffEvent]
          cases hd : c.delivery station k with
          | none => trivial
          | some d =>
              obtain ⟨s, t⟩ := d
              obtain ⟨hs, hk⟩ := delivery_eq_some.mp hd
              dsimp only
              split_ifs with hrel
              · obtain ⟨hsource, hte⟩ := hrel
                refine ⟨Finset.mem_filter.mpr ⟨h.incomingFirst (s, t) hd hsource, ?_⟩, ?_⟩
                · simp [concerns, hk, hte]
                · intro hmem p hp heq
                  rw [view_source hk hte, hsource, Option.some.injEq] at heq
                  subst heq
                  exact notMem_owners hs (h.sparesOwner (s, t) hd hsource hte
                    (Finset.mem_filter.mp hmem).1) hp
              · trivial
  | spawnOwned station entity position bounds policyId =>
      simp only [event]
      split
      · split_ifs <;> trivial
      · trivial
  | upsertGhost station entity position bounds policyId ownerStation ownerEpoch expiresAt =>
      simp only [event]
      split_ifs with he
      · intro hmem
        obtain ⟨s, hs, how⟩ := mem_owners.mp hmem
        rw [h.sparesOwner he s hs] at how
        exact Bool.false_ne_true how
      · trivial
  | removeById station entity =>
      simp only [event]
      rw [if_neg h.retains]
      trivial

/-- What a run keeps about the entity. -/
structure AuthorityKept (e : EntityId) (c : Cluster F) : Prop where
  valid : c.Valid
  kept : Custody.Kept (c.view e)

lemma AuthorityKept.step {c : Cluster F} {e : EntityId} (h : c.AuthorityKept e)
    {op : ClusterOp F} (hop : KeepsAuthority e c op) : (c.step op).AuthorityKept e := by
  refine ⟨h.valid.step op, ?_⟩
  rw [view_step h.valid]
  exact h.kept.step (event_enabled h.valid e op) hop.guarded

/-- Before any transfer was issued nothing is owed. -/
lemma authorityKept_of_fresh {c : Cluster F} (hc : c.Valid) (hfresh : c.issued = [])
    (e : EntityId) : c.AuthorityKept e := by
  have hin : c.incoming = ∅ := Finset.eq_empty_of_forall_notMem fun k hk => by
    have := hc.incoming k hk
    simp [hfresh] at this
  have hout : c.outgoing = ∅ := Finset.eq_empty_of_forall_notMem fun k hk => by
    have := hc.outgoing k hk
    simp [hfresh] at this
  refine ⟨hc, by simp [view, hin, hout], ?_⟩
  rcases Finset.eq_empty_or_nonempty (c.owners e) with hnone | hsome
  · exact Or.inl ⟨hnone, fun k => by simp [view, hfresh], by simp [view, hin]⟩
  · refine Or.inr ?_
    have := Finset.card_pos.mpr hsome
    simp only [Custody.Surplus, view, hin, hout, Finset.filter_empty, Finset.card_empty]
    omega

/-- Once an entity has an owner it keeps having one. -/
lemma AuthorityKept.nonempty {c : Cluster F} {e : EntityId} (h : c.AuthorityKept e)
    (hne : (c.owners e).Nonempty) {ops : List (ClusterOp F)}
    (hok : AllSteps Cluster.step (KeepsAuthority e) c ops) :
    ((execute Cluster.step c ops).owners e).Nonempty := by
  have hrun : (execute Cluster.step c ops).AuthorityKept e
      ∧ Custody.Surplus ((execute Cluster.step c ops).view e) := by
    refine execute_invariant (I := fun c => c.AuthorityKept e ∧ Custody.Surplus (c.view e))
      (fun c op hI hop => ⟨hI.1.step hop, ?_⟩) ⟨h, h.kept.surplus hne⟩ hok
    rw [view_step hI.1.valid]
    exact hI.2.step (event_enabled hI.1.valid e op) hop.guarded
  exact hrun.2.holders_nonempty hrun.1.kept.released

/-- A successful spawn makes its station an owner. -/
lemma owners_spawnOwned {c : Cluster F} (hc : c.Valid) {station : StationId} {s : Station F}
    {e : EntityId} {position : Position3 F} {bounds : Bounds F} {policyId : PolicyId}
    {h : EntityHandle} (hs : c.stations.lookup station = some s)
    (hok : (s.spawnOwned e position bounds policyId).1 = .ok h) :
    station ∈ (c.step (.spawnOwned station e position bounds policyId)).owners e := by
  rcases Station.spawnOwned_spec e position bounds policyId (hc.station station s hs).1 with
    ⟨_, heq⟩ | ⟨_, _, s', heq, hup⟩
  · rw [heq] at hok
    exact absurd hok (by simp)
  · simp only [Cluster.step, hs, heq]
    rw [owners_put_true (by rw [hup.owns, if_pos rfl]; rfl)]
    exact Finset.mem_insert_self _ _

/-- **Authority is never lost.**  In a run from a cluster without transfers that spawns an
entity and never removes it, in which every outgoing commit follows its incoming commit and no
ghost update or replayed outgoing commit reaches an owner, the entity has an owner. -/
theorem authority_never_lost {c : Cluster F} (hc : c.Valid) (hfresh : c.issued = [])
    {e : EntityId} {ops : List (ClusterOp F)} (hok : AllSteps step (KeepsAuthority e) c ops)
    (hspawn : c.Spawns e ops) : ((execute step c ops).owners e).Nonempty := by
  obtain ⟨before, station, position, bounds, policyId, after, rfl, s, h, hs, hspawned⟩ := hspawn
  obtain ⟨hbefore, hspawnOk, hafter⟩ := allSteps_append.mp hok
  have hmid : (execute step c before).AuthorityKept e :=
    execute_invariant (fun _ _ hI hop => hI.step hop) (authorityKept_of_fresh hc hfresh e) hbefore
  rw [execute_append, execute_cons]
  exact (hmid.step hspawnOk).nonempty ⟨station, owners_spawnOwned hmid.valid hs hspawned⟩ hafter

section LostAuthority

/-- Two empty stations. -/
def twoStations : Cluster ℕ := new [configWithStation 1, configWithStation 2]

/-- Entity 7 is spawned at station 1 and handed to station 2, and then the prewarm of that
handoff arrives late. -/
def latePrewarm : List (ClusterOp ℕ) :=
  [.spawnOwned ⟨1⟩ ⟨7⟩ ⟨0, 0, 0⟩ .point ⟨0⟩, .handoff (.prepare ⟨1⟩ ⟨7⟩ ⟨2⟩ ⟨1⟩ ⟨10⟩),
    .handoff (.commitIncoming ⟨2⟩ 0), .handoff (.commitOutgoing ⟨1⟩ 0), .handoff (.prewarm ⟨2⟩ 0)]

/-- A late prewarm takes the last authority over an entity. -/
theorem lost_authority :
    twoStations.Valid ∧ twoStations.issued = [] ∧
      AllSteps step (fun c op => c.IncomingFirst op ∧ Retains ⟨7⟩ op) twoStations latePrewarm ∧
      twoStations.Spawns ⟨7⟩ latePrewarm ∧
      (execute step twoStations latePrewarm).owners ⟨7⟩ = ∅ := by
  refine ⟨valid_new _, rfl, by decide, ?_, by decide⟩
  exact ⟨[], ⟨1⟩, _, _, _, _, rfl, .new (configWithStation 1), ⟨0, 0⟩, rfl, rfl⟩

/-- Entity 7 is handed to station 2 and back, with replayed commits of both handoffs. -/
def returnedTransfers : List (ClusterOp ℕ) :=
  [.spawnOwned ⟨1⟩ ⟨7⟩ ⟨0, 0, 0⟩ .point ⟨0⟩, .handoff (.prepare ⟨1⟩ ⟨7⟩ ⟨2⟩ ⟨1⟩ ⟨10⟩),
    .handoff (.prewarm ⟨2⟩ 0), .handoff (.commitIncoming ⟨2⟩ 0), .handoff (.commitOutgoing ⟨1⟩ 0),
    .handoff (.commitOutgoing ⟨1⟩ 0), .handoff (.prepare ⟨2⟩ ⟨7⟩ ⟨1⟩ ⟨2⟩ ⟨10⟩),
    .handoff (.commitIncoming ⟨1⟩ 1), .handoff (.commitIncoming ⟨2⟩ 0),
    .handoff (.commitOutgoing ⟨2⟩ 1), .handoff (.prewarm ⟨2⟩ 0)]

theorem authority_never_lost_returned :
    ((execute step twoStations returnedTransfers).owners ⟨7⟩).Nonempty :=
  authority_never_lost (valid_new _) rfl (by decide)
    ⟨[], ⟨1⟩, _, _, _, _, rfl, .new (configWithStation 1), ⟨0, 0⟩, rfl, rfl⟩

end LostAuthority

end Cluster

end SectorSync
