import SectorSync.Base.Cadence
import SectorSync.Core.AreaOfInterest
import SectorSync.Core.PlanSoundness
import SectorSync.Core.ReplicationTracker
import SectorSync.Facade.ReplicationExecutor
import SectorSync.Facade.RuntimeCoherence

/-!
# Replication with a send history

The planner asks the replication tracker when an entity was last sent to a client, as the example
`replication_tracker.rs` does, and `sendReplicationPlan`, of `dynamic_gameplay.rs`, encodes a plan,
sends the frame and then records the plan in the tracker.  Between two turns the station changes,
acknowledgements arrive, clients are cleared, old records are pruned and the transport is used by
others; viewers, policies, filters and budgets are those of the turn.

The run keeps what was recorded, under the client, the entity and the streak.  A streak ends when
the tracker forgets the pair.  `cadence_kept` is the result: within a streak the sends of an entity
to a client keep the interval that the cadence gives for the policy and the distance of the later
one, so that no second holds more of them than the policy's frequency bounds allow.
-/

namespace SectorSync

open Machine Cadence ReplicationPlanner Selection

variable {F T E : Type}

/-! ## Frequencies and intervals -/

/-- The highest frequency that the cadence gives a policy. -/
def CompiledSyncPolicy.ceilingHz (policy : CompiledSyncPolicy F) : UInt16 :=
  max policy.maxHz (max policy.minHz 1)

/-- A frequency that has been clamped and cast is within its upper bound, whatever it was. -/
structure BoundedFrequencies (F : Type) [Scalar F] : Prop where
  toU16_clamp_le : ∀ (target : F) (minHz maxHz : UInt16), minHz ≤ maxHz →
    Scalar.toU16 (Scalar.clamp target (Scalar.ofU16 minHz) (Scalar.ofU16 maxHz)) ≤ maxHz

namespace ReplicationCadence

variable [Scalar F] (policy : CompiledSyncPolicy F) (tickRateHz : UInt16) (distanceSquared : F)

lemma targetHz_le (h : BoundedFrequencies F) : targetHz policy distanceSquared ≤ policy.ceilingHz :=
  h.toU16_clamp_le _ _ _ (le_max_right _ _)

/-- A second is no longer than as many intervals as the policy allows updates. -/
lemma le_intervalTicks_mul (h : BoundedFrequencies F) :
    (max tickRateHz 1).toNat
      ≤ (intervalTicks policy tickRateHz distanceSquared).toNat * policy.ceilingHz.toNat := by
  have hone : (1 : UInt16).toNat = 1 := rfl
  have htarget : max (targetHz policy distanceSquared) 1 ≤ policy.ceilingHz :=
    max_le (targetHz_le policy distanceSquared h)
      ((le_max_right policy.minHz 1).trans (le_max_right _ _))
  have hpos : 0 < (max (targetHz policy distanceSquared) 1).toUInt64.toNat := by
    have hle := UInt16.le_iff_toNat_le.mp (le_max_right (targetHz policy distanceSquared) 1)
    rw [UInt16.toNat_toUInt64]
    omega
  calc (max tickRateHz 1).toNat
      = (max tickRateHz 1).toUInt64.toNat := (UInt16.toNat_toUInt64 _).symm
    _ ≤ _ := UInt64.toNat_le_divCeil_mul _ hpos
    _ ≤ (intervalTicks policy tickRateHz distanceSquared).toNat * policy.ceilingHz.toNat := by
        refine Nat.mul_le_mul (UInt64.le_iff_toNat_le.mp (le_max_left _ _)) ?_
        rw [UInt16.toNat_toUInt64]
        exact UInt16.le_iff_toNat_le.mp htarget

/-- What is due keeps the interval to the last send. -/
lemma add_intervalTicks_le {now last : Tick}
    (hdue : shouldSend policy tickRateHz distanceSquared now (some last) = true) :
    last.get.toNat + (intervalTicks policy tickRateHz distanceSquared).toNat ≤ now.get.toNat := by
  have hspace := UInt64.le_iff_toNat_le.mp (of_decide_eq_true hdue)
  have hpos : (1 : UInt64) ≤ intervalTicks policy tickRateHz distanceSquared := le_max_right _ _
  have hone : (1 : UInt64).toNat = 1 := rfl
  rw [UInt64.le_iff_toNat_le, hone] at hpos
  rw [UInt64.toNat_saturatingSub] at hspace
  omega

end ReplicationCadence

/-! ## What the tracker remembers -/

/-- The operation records no plan. -/
def TrackerOp.RecordsNothing : TrackerOp → Prop
  | .recordPlanSent _ _ _ => False
  | _ => True

namespace SentMap

/-- The tick of the last send of a pair. -/
def lastTick (m : SentMap) (key : ReplicationTrackKey) : Option ℕ :=
  (m.pairs.lookup key).map fun record => record.lastSent.get.toNat

variable (m : SentMap) (key : ReplicationTrackKey)

lemma lastTick_acknowledge (acked : ReplicationTrackKey) (ackedAt : Tick) :
    (m.acknowledge acked ackedAt).lastTick key = m.lastTick key := by
  simp only [lastTick, acknowledge, Finmap.lookup_modify]
  split_ifs with hkey
  · rw [hkey, Option.map_map]
    rfl
  · rfl

lemma lastTick_acknowledgeAll (keys : List ReplicationTrackKey) (ackedAt : Tick) :
    (keys.foldl (fun m key => m.acknowledge key ackedAt) m).lastTick key = m.lastTick key := by
  induction keys generalizing m with
  | nil => rfl
  | cons acked keys ih => rw [List.foldl_cons, ih, lastTick_acknowledge]

lemma lastTick_removeAll (p : ReplicationTrackKey → ReplicationTrackRecord → Bool) :
    (m.removeAll p).2.lastTick key = m.lastTick key ∨ (m.removeAll p).2.lastTick key = none := by
  simp only [lastTick, removeAll, Finmap.lookup_retain]
  cases m.pairs.lookup key with
  | none => exact .inl rfl
  | some record =>
      rw [Option.filter_some]
      split_ifs
      · exact .inl rfl
      · exact .inr rfl

/-- An operation that records nothing keeps or forgets what is known of a pair. -/
lemma lastTick_step {op : TrackerOp} (hop : op.RecordsNothing) :
    (m.step op).lastTick key = m.lastTick key ∨ (m.step op).lastTick key = none := by
  cases op with
  | recordPlanSent clientId plan sentAt => exact hop.elim
  | acknowledge clientId entity ackedAt => exact .inl (m.lastTick_acknowledge key _ ackedAt)
  | acknowledgePlan clientId plan ackedAt => exact .inl (m.lastTick_acknowledgeAll key _ ackedAt)
  | clearClient clientId => exact m.lastTick_removeAll key _
  | pruneSentBefore olderThan => exact m.lastTick_removeAll key _
  | get clientId entity => exact .inl rfl
  | lastSent clientId entity => exact .inl rfl
  | len => exact .inl rfl

end SentMap

namespace ReplicationTracker

/-- The tick of the last send of a pair that the tracker knows of. -/
def lastTick (t : ReplicationTracker) (key : ReplicationTrackKey) : Option ℕ :=
  (t.lastSent key.clientId key.entity).map fun tick => tick.get.toNat

variable (t : ReplicationTracker) (key : ReplicationTrackKey)

lemma lastTick_eq : t.lastTick key = t.sentMap.lastTick key := by
  rw [lastTick, lastSent, t.records.get_eq, Option.map_map]
  rfl

lemma lastTick_step {op : TrackerOp} (hop : op.RecordsNothing) :
    (t.step op).lastTick key = t.lastTick key ∨ (t.step op).lastTick key = none := by
  rw [lastTick_eq, lastTick_eq, (t.sentMap_perform op).2]
  exact t.sentMap.lastTick_step key hop

lemma lastTick_acknowledgePlan (clientId : ClientId) (plan : ReplicationPlan) (ackedAt : Tick) :
    (t.acknowledgePlan clientId plan ackedAt).2.lastTick key = t.lastTick key := by
  have hmap : (t.acknowledgePlan clientId plan ackedAt).2.sentMap = _ :=
    (t.sentMap_perform (.acknowledgePlan clientId plan ackedAt)).2
  rw [lastTick_eq, lastTick_eq, hmap]
  exact t.sentMap.lastTick_acknowledgeAll key _ ackedAt

/-- A plan that has been recorded was sent last. -/
lemma lastTick_recordPlanSent {clientId : ClientId} {plan : ReplicationPlan} {sentAt : Tick}
    {recorded : ℕ} {t' : ReplicationTracker}
    (h : t.recordPlanSent clientId plan sentAt = (.ok recorded, t')) :
    t'.lastTick key
      = if key ∈ planKeys clientId plan.entities then some sentAt.get.toNat
        else t.lastTick key := by
  obtain ⟨hreply, hmap⟩ := t.sentMap_recordPlanSent clientId plan sentAt
  rw [step, perform, h] at hmap
  rw [perform, h] at hreply
  dsimp only at hmap hreply
  rw [lastTick_eq, lastTick_eq, hmap]
  simp only [SentMap.step, SentMap.perform] at hreply ⊢
  by_cases hfits : t.sentMap.pairs.size + t.sentMap.newPairs (planKeys clientId plan.entities)
      ≤ t.sentMap.maxEntries
  · rw [if_pos hfits, SentMap.lastTick, Finmap.lookup_insertAll]
    split_ifs
    · rfl
    · rfl
  · rw [if_neg hfits] at hreply
    cases hreply

end ReplicationTracker

/-! ## Turns -/

section Turns

variable (sink : TransportSink T OutboundPacket E)

/-- Encodes a plan under the packet limit, sends the frame and records the plan; whether it was
recorded is returned.  A failure of a step ends the program, which is `none`. -/
def sendReplicationPlan (server : StationRuntime F) (viewer : ViewerQuery F) (plan : ReplicationPlan)
    (selection : ComponentSelection) (builder : ReplicationFrameBuilder) (maxPacketBytes : ℕ)
    (tracker : ReplicationTracker) (transport : T) : Option (Bool × ReplicationTracker × T) :=
  match builder.encodeBinaryBoundedInto server.station server.components selection viewer.clientId
      server.station.tick plan maxPacketBytes [] with
  | (.error _, _) => none
  | (.ok _, bytes) =>
      if bytes.length > maxPacketBytes then some (false, tracker, transport)
      else
        match sink.send transport ⟨(), viewer.clientId, bytes⟩ with
        | (.error _, _) => none
        | (.ok (), transport) =>
            match tracker.recordPlanSent viewer.clientId plan server.station.tick with
            | (.error _, _) => none
            | (.ok _, tracker) =>
                some (true, (tracker.acknowledgePlan viewer.clientId plan server.station.tick).2,
                  transport)

/-- A plan that was sent has been recorded, and nothing else is remembered. -/
lemma lastTick_sendReplicationPlan {server : StationRuntime F} {viewer : ViewerQuery F}
    {plan : ReplicationPlan} {selection : ComponentSelection} {builder : ReplicationFrameBuilder}
    {maxPacketBytes : ℕ} {tracker tracker' : ReplicationTracker} {transport transport' : T}
    {sent : Bool}
    (h : sendReplicationPlan sink server viewer plan selection builder maxPacketBytes tracker
      transport = some (sent, tracker', transport')) (key : ReplicationTrackKey) :
    tracker'.lastTick key
      = if sent ∧ key ∈ planKeys viewer.clientId plan.entities then some server.station.tick.get.toNat
        else tracker.lastTick key := by
  unfold sendReplicationPlan at h
  rcases hencode : builder.encodeBinaryBoundedInto server.station server.components selection
    viewer.clientId server.station.tick plan maxPacketBytes [] with ⟨error | build, bytes⟩
  · rw [hencode] at h
    cases h
  · rw [hencode] at h
    dsimp only at h
    split_ifs at h
    · obtain ⟨rfl, rfl, -⟩ := h
      simp
    · rcases hsend : sink.send transport ⟨(), viewer.clientId, bytes⟩ with ⟨error | _, transport''⟩
      · rw [hsend] at h
        cases h
      · rw [hsend] at h
        rcases hrecord : tracker.recordPlanSent viewer.clientId plan server.station.tick with
          ⟨error | recorded, tracker''⟩
        · rw [hrecord] at h
          cases h
        · rw [hrecord] at h
          obtain ⟨rfl, rfl, -⟩ := h
          rw [ReplicationTracker.lastTick_acknowledgePlan,
            tracker.lastTick_recordPlanSent key hrecord]
          simp

/-- What is planned for a viewer in a turn, and how it is sent. -/
structure ReplicationTurn (F : Type) where
  viewer : ViewerQuery F
  policies : PolicyTable F
  visibility : VisibilityFilter F
  budget : ReplicationBudget
  mode : ReplicationSelectionMode
  eligible : ViewerQuery F → EntityHandle → EntityRecord F → Bool
  selection : ComponentSelection
  builder : ReplicationFrameBuilder
  maxPacketBytes : ℕ

/-- The inputs of the planner: it asks the tracker for the last send. -/
def ReplicationTurn.inputs (turn : ReplicationTurn F) (station : Station F)
    (tracker : ReplicationTracker) : PlannerInputs F where
  station := station
  policies := turn.policies
  filter := turn.visibility
  budget := turn.budget
  mode := turn.mode
  eligible := turn.eligible
  lastSent := fun viewer entity => tracker.lastSent viewer.clientId entity

/-- A send of an entity: when, and the policy and the distance that it was planned with. -/
structure RecordedSend (F : Type) where
  tick : Tick
  policy : CompiledSyncPolicy F
  distanceSquared : F

namespace RecordedSend

def time (send : RecordedSend F) : ℕ := send.tick.get.toNat

/-- The interval of the cadence for the send. -/
def interval [Scalar F] (tickRateHz : UInt16) (send : RecordedSend F) : ℕ :=
  (ReplicationCadence.intervalTicks send.policy tickRateHz send.distanceSquared).toNat

end RecordedSend

/-- The send of an entity in a turn. -/
def ReplicationTurn.sendOf [Scalar F] (turn : ReplicationTurn F) (station : Station F)
    (handle : EntityHandle) : Option (RecordedSend F) := do
  let entity ← station.get handle
  let policy ← turn.policies.get entity.policyId
  return ⟨station.tick, policy, entity.position.distanceSquared turn.viewer.position⟩

/-- The sends of a plan. -/
def ReplicationTurn.sendsOf [Scalar F] (turn : ReplicationTurn F) (station : Station F)
    (plan : ReplicationPlan) : List (ReplicationTrackKey × RecordedSend F) :=
  plan.entities.filterMap fun handle =>
    (turn.sendOf station handle).map fun send => (⟨turn.viewer.clientId, handle⟩, send)

end Turns

/-! ## Runs -/

/-- A station, its send history and the planner, and what was recorded. -/
structure TrackedReplication (F T : Type) where
  server : StationRuntime F
  tracker : ReplicationTracker
  scratch : ReplicationScratch F
  plan : ReplicationPlan
  transport : T
  sends : List ((ReplicationTrackKey × ℕ) × RecordedSend F)
  /-- How often the tracker has forgotten the pair. -/
  streaks : ReplicationTrackKey → ℕ

namespace TrackedReplication

/-- What happens in a run. -/
inductive Op (F T : Type) where
  | server (op : RuntimeOp F)
  | replicate (turn : ReplicationTurn F)
  | tracker (op : TrackerOp) (hop : op.RecordsNothing)
  /-- The transport after it has been used by others. -/
  | transport (transport : T)

/-- Nothing has been sent. -/
def start (config : StationRuntimeConfig F) (trackerConfig : ReplicationTrackerConfig)
    (transport : T) : TrackedReplication F T where
  server := .new config
  tracker := .new trackerConfig
  scratch := .default
  plan := .default
  transport := transport
  sends := []
  streaks := fun _ => 0

section Steps

variable [Scalar F]
  (selectNthUnstableBy : SelectNthUnstableBy (PrioritizedReplicationCandidate F))
  (sink : TransportSink T OutboundPacket E)

/-- Plans a viewer and sends the plan. -/
def replicate (run : TrackedReplication F T) (turn : ReplicationTurn F) :
    Option (TrackedReplication F T) :=
  let (scratch, plan) := planForViewerConfiguredInto selectNthUnstableBy
    (turn.inputs run.server.station run.tracker) run.server.index turn.viewer run.scratch run.plan
  match sendReplicationPlan sink run.server turn.viewer plan turn.selection turn.builder
      turn.maxPacketBytes run.tracker run.transport with
  | none => none
  | some (sent, tracker, transport) =>
      some { run with
        scratch := scratch
        plan := plan
        tracker := tracker
        transport := transport
        sends := run.sends ++ if sent then (turn.sendsOf run.server.station plan).map fun send =>
          ((send.1, run.streaks send.1), send.2) else [] }

/-- One step of a run; a panic is `none`. -/
def step (run : TrackedReplication F T) : Op F T → Option (TrackedReplication F T)
  | .server op => some { run with server := run.server.step op }
  | .replicate turn => run.replicate selectNthUnstableBy sink turn
  | .tracker op _ =>
      some { run with
        tracker := run.tracker.step op
        streaks := endStreaks run.tracker.lastTick (run.tracker.step op).lastTick run.streaks }
  | .transport transport => some { run with transport := transport }

end Steps

/-! ## What a turn records -/

section Turn

variable [Scalar F] {turn : ReplicationTurn F} {station : Station F}
  {tracker : ReplicationTracker} {handle : EntityHandle}

/-- An admissible entity has a policy, and is due by its cadence. -/
lemma sendOf_of_admissible
    (h : admissible (configuredChecks (turn.inputs station tracker) turn.viewer) turn.viewer handle
      = true) :
    ∃ send, turn.sendOf station handle = some send ∧ send.tick = station.tick
      ∧ ∀ t, tracker.lastTick ⟨turn.viewer.clientId, handle⟩ = some t →
        t + send.interval station.config.tickRateHz ≤ send.time := by
  unfold admissible at h
  cases hget : station.get handle with
  | none => simp [configuredChecks, ReplicationTurn.inputs, hget] at h
  | some entity =>
      cases hpolicy : turn.policies.get entity.policyId with
      | none => simp [configuredChecks, ReplicationTurn.inputs, hget, hpolicy] at h
      | some policy =>
          simp only [configuredChecks, ReplicationTurn.inputs, hget, hpolicy,
            Bool.and_eq_true] at h
          obtain ⟨⟨-, hcadence⟩, -⟩ := h
          refine ⟨⟨station.tick, policy, entity.position.distanceSquared turn.viewer.position⟩, ?_,
            rfl, ?_⟩
          · simp [ReplicationTurn.sendOf, hget, hpolicy]
          · intro t ht
            obtain ⟨last, hlast, rfl⟩ := Option.map_eq_some_iff.mp ht
            unfold cadenceAllows at hcadence
            dsimp only at hcadence hlast
            rw [hlast] at hcadence
            exact ReplicationCadence.add_intervalTicks_le _ _ _ hcadence

lemma nodup_viewerCandidates (index : CellIndex F) (viewer : ViewerQuery F) :
    (viewerCandidates index viewer).Nodup := CellIndex.nodup_eraseDups _

/-- The sends of a plan are those of its entities, when each has one. -/
lemma map_fst_sendsOf {plan : ReplicationPlan}
    (h : ∀ handle ∈ plan.entities, ∃ send, turn.sendOf station handle = some send) :
    (turn.sendsOf station plan).map Prod.fst = planKeys turn.viewer.clientId plan.entities := by
  unfold ReplicationTurn.sendsOf planKeys
  generalize plan.entities = entities at h
  induction entities with
  | nil => rfl
  | cons handle entities ih =>
      obtain ⟨send, hsend⟩ := h handle List.mem_cons_self
      have hone : (turn.sendOf station handle).map
          (fun send => ((⟨turn.viewer.clientId, handle⟩ : ReplicationTrackKey), send))
          = some (⟨turn.viewer.clientId, handle⟩, send) := by rw [hsend, Option.map_some]
      rw [List.filterMap_cons, hone]
      rw [List.map_cons, List.map_cons, ih fun handle hmem => h handle (List.mem_cons_of_mem _ hmem)]

lemma mem_sendsOf {plan : ReplicationPlan} {key : ReplicationTrackKey} {send : RecordedSend F}
    (h : (key, send) ∈ turn.sendsOf station plan) :
    ∃ handle ∈ plan.entities, turn.sendOf station handle = some send
      ∧ key = ⟨turn.viewer.clientId, handle⟩ := by
  obtain ⟨handle, hmem, hsend⟩ := List.mem_filterMap.mp h
  obtain ⟨found, hfound, heq⟩ := Option.map_eq_some_iff.mp hsend
  obtain ⟨rfl, rfl⟩ := Prod.mk.inj heq
  exact ⟨handle, hmem, hfound, rfl⟩

end Turn

/-! ## The invariant -/

section Runs

variable [Scalar F]

/-- What a run keeps: the tracker remembers the log, under the tick rate of the station. -/
structure Invariant (config : StationConfig) (run : TrackedReplication F T) : Prop where
  sameConfig : run.server.station.config = config
  scratch : run.scratch.cellQuery.WellFormed
  cadenced : Cadenced RecordedSend.time (RecordedSend.interval config.tickRateHz)
    run.tracker.lastTick run.streaks run.sends

variable {config : StationConfig} {run run' : TrackedReplication F T}
  {selectNthUnstableBy : SelectNthUnstableBy (PrioritizedReplicationCandidate F)}
  {sink : TransportSink T OutboundPacket E}

lemma invariant_start (config : StationRuntimeConfig F) (trackerConfig : ReplicationTrackerConfig)
    (transport : T) :
    Invariant config.station (start config trackerConfig transport : TrackedReplication F T) where
  sameConfig := rfl
  scratch := ReplicationScratch.wellFormed_default
  cadenced := by
    have hnone : (ReplicationTracker.new trackerConfig).lastTick = fun _ => none := by
      funext key
      rw [ReplicationTracker.lastTick_eq]
      rfl
    show Cadenced _ _ (ReplicationTracker.new trackerConfig).lastTick _ _
    rw [hnone]
    exact cadenced_nil _

/-- **Turn step.**  What a turn records is due and of different entities. -/
lemma Invariant.replicate (h : Invariant config run) (hdistances : TotalDistances F)
    (hselect : SelectsNth selectNthUnstableBy) {turn : ReplicationTurn F}
    (hturn : run.replicate selectNthUnstableBy sink turn = some run') : Invariant config run' := by
  have hplan := planForViewerConfiguredInto_eq selectNthUnstableBy
    (turn.inputs run.server.station run.tracker) run.server.index turn.viewer run.plan h.scratch
  have hscratch : (planForViewerConfiguredInto selectNthUnstableBy
      (turn.inputs run.server.station run.tracker) run.server.index turn.viewer run.scratch
      run.plan).1.cellQuery.WellFormed :=
    (querySphereInto_spec run.server.index turn.viewer h.scratch).1
  have hsound := planOver_sound hdistances hselect (turn.inputs run.server.station run.tracker)
    turn.viewer (nodup_viewerCandidates run.server.index turn.viewer)
  unfold TrackedReplication.replicate at hturn
  rw [← hplan] at hsound
  generalize planForViewerConfiguredInto selectNthUnstableBy
    (turn.inputs run.server.station run.tracker) run.server.index turn.viewer run.scratch run.plan
    = planned at hscratch hsound hturn
  obtain ⟨scratch, plan⟩ := planned
  dsimp only at hscratch hsound hturn
  rcases hsent : sendReplicationPlan sink run.server turn.viewer plan turn.selection turn.builder
    turn.maxPacketBytes run.tracker run.transport with _ | ⟨sent, tracker, transport⟩
  · rw [hsent] at hturn
    cases hturn
  · have hlast := lastTick_sendReplicationPlan sink hsent
    rw [hsent] at hturn
    obtain rfl := Option.some.inj hturn
    refine ⟨h.sameConfig, hscratch, ?_⟩
    have hadmissible := fun handle hmem =>
      sendOf_of_admissible (hsound.selected_admissible handle hmem).2
    have hkeys : (turn.sendsOf run.server.station plan).map Prod.fst
        = planKeys turn.viewer.clientId plan.entities :=
      map_fst_sendsOf fun handle hmem =>
        (hadmissible handle hmem).imp fun _ hsend => hsend.1
    dsimp only
    cases sent with
    | false =>
        obtain heq : tracker.lastTick = run.tracker.lastTick := funext fun key => by
          rw [hlast]
          simp
        simp only [Bool.false_eq_true, if_false, List.append_nil, heq]
        exact h.cadenced
    | true =>
        simp only [true_and] at hlast
        refine h.cadenced.useAll ?_ (fun key send hmem t ht => ?_) (fun key send hmem => ?_)
          fun key hkey => ?_
        · rw [hkeys]
          exact ReplicationTracker.nodup_planKeys _ hsound.nodup
        · obtain ⟨handle, hplanned, hsend, rfl⟩ := mem_sendsOf hmem
          obtain ⟨found, hfound, -, hdue⟩ := hadmissible handle hplanned
          obtain rfl := Option.some.inj (hfound.symm.trans hsend)
          rw [← h.sameConfig]
          exact hdue t ht
        · obtain ⟨handle, hplanned, hsend, rfl⟩ := mem_sendsOf hmem
          obtain ⟨found, hfound, htick, -⟩ := hadmissible handle hplanned
          obtain rfl := Option.some.inj (hfound.symm.trans hsend)
          have hkey : (⟨turn.viewer.clientId, handle⟩ : ReplicationTrackKey)
              ∈ planKeys turn.viewer.clientId plan.entities := List.mem_map_of_mem hplanned
          rw [hlast, if_pos hkey, RecordedSend.time, htick]
        · rw [hkeys] at hkey
          rw [hlast, if_neg hkey]

lemma Invariant.step (h : Invariant config run) (hdistances : TotalDistances F)
    (hselect : SelectsNth selectNthUnstableBy) (op : Op F T)
    (hop : run.step selectNthUnstableBy sink op = some run') : Invariant config run' := by
  cases op with
  | server op =>
      obtain rfl := Option.some.inj hop
      exact ⟨(run.server.clockKept_step op).1.trans h.sameConfig, h.scratch, h.cadenced⟩
  | replicate turn => exact h.replicate hdistances hselect hop
  | tracker op hnothing =>
      obtain rfl := Option.some.inj hop
      exact ⟨h.sameConfig, h.scratch,
        h.cadenced.forget fun key => run.tracker.lastTick_step key hnothing⟩
  | transport transport =>
      obtain rfl := Option.some.inj hop
      exact ⟨h.sameConfig, h.scratch, h.cadenced⟩

/-- A window of a second holds no more sends of a streak than the policies allow. -/
lemma length_window_le (hfrequencies : BoundedFrequencies F) {tickRateHz : UInt16}
    {sends : List (RecordedSend F)}
    (hspaced : Spaced RecordedSend.time (RecordedSend.interval tickRateHz) sends) {hz : UInt16}
    (hpolicies : ∀ send ∈ sends, send.policy.ceilingHz ≤ hz) (start : ℕ)
    (hwindow : ∀ send ∈ sends,
      start ≤ send.time ∧ send.time < start + (max tickRateHz 1).toNat) :
    sends.length ≤ hz.toNat := by
  cases sends with
  | nil => exact Nat.zero_le _
  | cons first sends =>
      have hpos : 0 < hz.toNat := by
        have hceiling : (1 : UInt16) ≤ first.policy.ceilingHz :=
          (le_max_right first.policy.minHz 1).trans (le_max_right _ _)
        have hle := UInt16.le_iff_toNat_le.mp
          (hceiling.trans (hpolicies first List.mem_cons_self))
        exact hle
      -- the shortest interval that as many updates can have
      have hleast := Nat.div_add_mod ((max tickRateHz 1).toNat + hz.toNat - 1) hz.toNat
      have hrest := Nat.mod_lt ((max tickRateHz 1).toNat + hz.toNat - 1) hpos
      refine hspaced.length_le start (max tickRateHz 1).toNat
        (((max tickRateHz 1).toNat + hz.toNat - 1) / hz.toNat) (fun send hmem => ?_) hwindow ?_
      · have hinterval : (max tickRateHz 1).toNat ≤ send.interval tickRateHz * hz.toNat :=
          (ReplicationCadence.le_intervalTicks_mul send.policy tickRateHz send.distanceSquared
            hfrequencies).trans (Nat.mul_le_mul_left _
              (UInt16.le_iff_toNat_le.mp (hpolicies send hmem)))
        rw [Nat.div_le_iff_le_mul_add_pred hpos, Nat.mul_comm]
        omega
      · rw [Nat.mul_comm]
        omega

/-- **Cadence.**  In every run, and for every streak of sends of an entity to a client: every send
keeps the cadence interval of its own policy and distance to the sends before it; a second holds no
more sends than the highest frequency of their policies; and as long as the tracker remembers the
pair it has the tick of the last send. -/
theorem cadence_kept (hdistances : TotalDistances F) (hfrequencies : BoundedFrequencies F)
    (hselect : SelectsNth selectNthUnstableBy) (config : StationRuntimeConfig F)
    (trackerConfig : ReplicationTrackerConfig) (transport : T) {ops : List (Op F T)}
    (hrun : executeOption (step selectNthUnstableBy sink) (start config trackerConfig transport) ops
      = some run) :
    let tickRateHz := config.station.tickRateHz
    (∀ key streak, let sends := ofTag (key, streak) run.sends
      sends.Pairwise (fun earlier later =>
          earlier.time + later.interval tickRateHz ≤ later.time)
        ∧ ∀ (start : ℕ) (hz : UInt16),
          let second := sends.filter fun send =>
            start ≤ send.time ∧ send.time < start + (max tickRateHz 1).toNat
          (∀ send ∈ second, send.policy.ceilingHz ≤ hz) → second.length ≤ hz.toNat)
      ∧ ∀ key, run.tracker.lastTick key
        = (ofTag (key, run.streaks key) run.sends).getLast?.map RecordedSend.time := by
  intro tickRateHz
  have h : Invariant config.station run :=
    executeOption_invariant (fun run op run' h hop => h.step hdistances hselect op hop)
      (invariant_start config trackerConfig transport) hrun
  refine ⟨fun key streak => ⟨h.cadenced.spaced key streak, fun start hz hpolicies => ?_⟩,
    h.cadenced.last⟩
  exact length_window_le hfrequencies ((h.cadenced.spaced key streak).filter _) hpolicies start
    fun send hsend => of_decide_eq_true (List.mem_filter.mp hsend).2

end Runs

/-! ## A turn at every tick -/

lemma boundedFrequencies_rational : BoundedFrequencies ℚ where
  toU16_clamp_le target minHz maxHz h := by
    have hsize := maxHz.toNat_lt_size
    have hbounds : (minHz.toNat : ℚ) ≤ maxHz.toNat :=
      Nat.cast_le.mpr (UInt16.le_iff_toNat_le.mp h)
    have hclamped : max (minHz.toNat : ℚ) (min target maxHz.toNat) ≤ maxHz.toNat :=
      max_le hbounds (min_le_right _ _)
    have hfloor : ⌊max (minHz.toNat : ℚ) (min target maxHz.toNat)⌋.toNat ≤ maxHz.toNat := by
      rw [Int.toNat_le]
      exact Int.floor_le_iff.mpr (lt_of_le_of_lt hclamped (lt_add_one _))
    show UInt16.ofNat (min ⌊max (minHz.toNat : ℚ) (min target maxHz.toNat)⌋.toNat _) ≤ maxHz
    rw [UInt16.le_iff_toNat_le, UInt16.toNat_ofNat_of_lt' (by omega)]
    omega

/-- Accepts every packet. -/
def acceptingSink : TransportSink Unit OutboundPacket Empty := ⟨fun _ _ => (.ok (), ())⟩

/-- A viewer next to the entity, under a policy of five to ten updates a second. -/
def nearTurn : ReplicationTurn ℚ where
  viewer := ⟨⟨7⟩, ⟨0, 0, 0⟩, 10, 4⟩
  policies := PolicyTable.default.set (.new ⟨0⟩ 5 10 8)
  visibility := .rangeOnlyVisibility
  budget := .default
  mode := .throughput
  eligible := fun _ _ _ => true
  selection := ⟨[]⟩
  builder := ⟨.default⟩
  maxPacketBytes := 1200

/-- A turn at every tick, of a station with twenty ticks a second. -/
def everyTick : List (Op ℚ Unit) :=
  [.server (.spawnOwned ⟨⟨1⟩, ⟨1, 0, 0⟩, .point, ⟨0⟩⟩), .replicate nearTurn,
    .server .advanceTick, .replicate nearTurn, .server .advanceTick, .replicate nearTurn,
    .tracker (.clearClient ⟨7⟩) trivial, .replicate nearTurn]

/-- The run of these turns. -/
def everyTickRun : Option (TrackedReplication ℚ Unit) :=
  executeOption (step (fun _ => sortBy) acceptingSink) (start ⟨configWithStation 1, ⟨16⟩⟩ ⟨16⟩ ())
    everyTick

/-- The policy gives an interval of two ticks at the distance of the entity, so that the second turn
sends nothing. -/
theorem cadence_kept_everyTick :
    ∃ run, everyTickRun = some run
      ∧ (ofTag (⟨⟨7⟩, ⟨0, 0⟩⟩, 0) run.sends).map RecordedSend.time = [0, 2]
      ∧ (ofTag (⟨⟨7⟩, ⟨0, 0⟩⟩, 0) run.sends).Pairwise fun earlier later =>
        earlier.time + later.interval 20 ≤ later.time := by
  obtain ⟨run, hrun⟩ := Option.isSome_iff_exists.mp
    (by decide +kernel : everyTickRun.isSome = true)
  have htimes : everyTickRun.map (fun run =>
      (ofTag (⟨⟨7⟩, ⟨0, 0⟩⟩, 0) run.sends).map RecordedSend.time) = some [0, 2] := by
    decide +kernel
  rw [hrun] at htimes
  exact ⟨run, hrun, Option.some.inj htimes,
    ((cadence_kept totalDistances_rational boundedFrequencies_rational selectsNth_sort
      ⟨configWithStation 1, ⟨16⟩⟩ ⟨16⟩ () hrun).1 ⟨⟨7⟩, ⟨0, 0⟩⟩ 0).1⟩

end TrackedReplication

end SectorSync
