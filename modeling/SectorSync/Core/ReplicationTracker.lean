import SectorSync.Base.Run
import SectorSync.Core.AdaptiveMap
import SectorSync.Core.Replication

/-!
# The replication tracker

`ReplicationTracker` of `replication.rs`: for each client and entity, when an update was last sent
and when it was acknowledged, up to a number of entries.  A plan is recorded as a whole or not at
all: `ensureCapacityFor` first adds the length of the plan to the number of entries, and only if
that is too much counts the pairs that are new.

`SentMap` is what the tracker is for: a plain finite map with the same limit.  `sentMap_perform`
says that every operation of the tracker is the operation of the plain map, with the same reply,
in either representation of the records; `tracker_is_bounded_map` is the whole contract.
-/

namespace SectorSync

open Machine

/-- Configuration of the tracker. -/
structure ReplicationTrackerConfig where
  /-- Maximum tracked client/entity pairs. -/
  maxEntries : ℕ

/-- The default configuration. -/
def ReplicationTrackerConfig.default : ReplicationTrackerConfig := ⟨65536⟩

/-- Per-client/entity replication tracking key. -/
structure ReplicationTrackKey where
  clientId : ClientId
  entity : EntityHandle
  deriving DecidableEq

/-- Per-client/entity replication tracking record. -/
structure ReplicationTrackRecord where
  clientId : ClientId
  entity : EntityHandle
  /-- Last tick where this entity was sent to the client. -/
  lastSent : Tick
  /-- Last tick where the caller confirmed delivery. -/
  lastAcked : Option Tick
  deriving DecidableEq

/-- Replication tracker statistics: counted in ℕ here, where the source saturates at
`usize::MAX`. -/
structure ReplicationTrackerStats where
  entries : ℕ
  sentRecords : ℕ
  ackedRecords : ℕ
  prunedRecords : ℕ
  deriving DecidableEq

/-- All counters zero. -/
def ReplicationTrackerStats.default : ReplicationTrackerStats := ⟨0, 0, 0, 0⟩

/-- Replication tracking error. -/
inductive ReplicationTrackerError where
  | capacityExceeded (current needed max : ℕ)
  deriving DecidableEq

/-- The number of records at which the tracker moves to hashed storage. -/
def hashedReplicationTrackerMinEntries : ℕ := 2048

/-- The storage of the records. -/
abbrev AdaptiveTrackMap : Type :=
  AdaptiveMap hashedReplicationTrackerMinEntries ReplicationTrackKey ReplicationTrackRecord

/-- Bounded per-client replication send/ACK tracker. -/
structure ReplicationTracker where
  config : ReplicationTrackerConfig
  records : AdaptiveTrackMap
  stats : ReplicationTrackerStats

/-- The record of a pair that was just sent. -/
def sentRecord (sentAt : Tick) (key : ReplicationTrackKey) : ReplicationTrackRecord :=
  ⟨key.clientId, key.entity, sentAt, none⟩

/-- The pairs of a client and the entities of a plan. -/
def planKeys (clientId : ClientId) (entities : List EntityHandle) : List ReplicationTrackKey :=
  entities.map fun entity => ⟨clientId, entity⟩

namespace ReplicationTracker

/-- Creates an empty tracker. -/
def new (config : ReplicationTrackerConfig) : ReplicationTracker := ⟨config, .new, .default⟩

/-- Returns tracked entry count. -/
def len (t : ReplicationTracker) : ℕ := t.records.len

/-- Returns a tracked record for a client/entity pair. -/
def get (t : ReplicationTracker) (clientId : ClientId) (entity : EntityHandle) :
    Option ReplicationTrackRecord :=
  t.records.get ⟨clientId, entity⟩

/-- Returns the last sent tick for a client/entity pair. -/
def lastSent (t : ReplicationTracker) (clientId : ClientId) (entity : EntityHandle) :
    Option Tick :=
  (t.records.get ⟨clientId, entity⟩).map fun record => record.lastSent

/-- Copies the number of records into the statistics. -/
def refreshEntryCount (t : ReplicationTracker) : ReplicationTracker :=
  { t with stats := { t.stats with entries := t.records.len } }

/-- Checks that the entities of a plan fit, counting new pairs only when the sum of both lengths
is too large. -/
def ensureCapacityFor (t : ReplicationTracker) (clientId : ClientId)
    (entities : List EntityHandle) : Except ReplicationTrackerError Unit :=
  if t.records.len + entities.length ≤ t.config.maxEntries then .ok ()
  else
    let needed := entities.countP fun entity => !t.records.containsKey ⟨clientId, entity⟩
    if t.records.len + needed > t.config.maxEntries then
      .error (.capacityExceeded t.records.len needed t.config.maxEntries)
    else .ok ()

/-- Records that a planned set of entities was sent to a client. -/
def recordPlanSent (t : ReplicationTracker) (clientId : ClientId) (plan : ReplicationPlan)
    (sentAt : Tick) : Except ReplicationTrackerError ℕ × ReplicationTracker :=
  match t.ensureCapacityFor clientId plan.entities with
  | .error error => (.error error, t)
  | .ok () =>
      let (recorded, records) := plan.entities.foldl
        (fun (recorded, records) entity =>
          (recorded + 1,
            AdaptiveMap.insert ⟨clientId, entity⟩ (sentRecord sentAt ⟨clientId, entity⟩) records))
        (0, t.records)
      let t := ({ t with records := records } : ReplicationTracker).refreshEntryCount
      (.ok recorded,
        { t with stats := { t.stats with sentRecords := t.stats.sentRecords + recorded } })

/-- Records delivery acknowledgement for one client/entity pair. -/
def acknowledge (t : ReplicationTracker) (clientId : ClientId) (entity : EntityHandle)
    (ackedAt : Tick) : Bool × ReplicationTracker :=
  match t.records.get ⟨clientId, entity⟩ with
  | none => (false, t)
  | some _ =>
      (true,
        { t with
          records := t.records.modify ⟨clientId, entity⟩ fun record =>
            { record with lastAcked := some ackedAt }
          stats := { t.stats with ackedRecords := t.stats.ackedRecords + 1 } })

/-- Records delivery acknowledgement for every entity in a plan. -/
def acknowledgePlan (t : ReplicationTracker) (clientId : ClientId) (plan : ReplicationPlan)
    (ackedAt : Tick) : ℕ × ReplicationTracker :=
  plan.entities.foldl
    (fun (count, t) entity =>
      let (acked, t) := acknowledge t clientId entity ackedAt
      (if acked then count + 1 else count, t))
    (0, t)

/-- Keeps the records that satisfy the condition, and counts the others as pruned. -/
def prune (t : ReplicationTracker) (keep : ReplicationTrackKey → ReplicationTrackRecord → Bool) :
    ℕ × ReplicationTracker :=
  let before := t.records.len
  let t := { t with records := t.records.retain keep }
  let pruned := before - t.records.len
  let t := { t with stats := { t.stats with prunedRecords := t.stats.prunedRecords + pruned } }
  (pruned, t.refreshEntryCount)

/-- Removes all entries for one client. -/
def clearClient (t : ReplicationTracker) (clientId : ClientId) : ℕ × ReplicationTracker :=
  t.prune fun key _ => decide (key.clientId ≠ clientId)

/-- Removes entries last sent before `olderThan`. -/
def pruneSentBefore (t : ReplicationTracker) (olderThan : Tick) : ℕ × ReplicationTracker :=
  t.prune fun _ record => decide (record.lastSent.get ≥ olderThan.get)

end ReplicationTracker

/-! ## Operations and replies -/

/-- An operation of the tracker, lookups included. -/
inductive TrackerOp where
  | recordPlanSent (clientId : ClientId) (plan : ReplicationPlan) (sentAt : Tick)
  | acknowledge (clientId : ClientId) (entity : EntityHandle) (ackedAt : Tick)
  | acknowledgePlan (clientId : ClientId) (plan : ReplicationPlan) (ackedAt : Tick)
  | clearClient (clientId : ClientId)
  | pruneSentBefore (olderThan : Tick)
  | get (clientId : ClientId) (entity : EntityHandle)
  | lastSent (clientId : ClientId) (entity : EntityHandle)
  | len

/-- What an operation returns. -/
inductive TrackerReply where
  | recorded (result : Except ReplicationTrackerError ℕ)
  | acknowledged (found : Bool)
  | count (n : ℕ)
  | record (record : Option ReplicationTrackRecord)
  | tick (tick : Option Tick)

/-- Performs an operation of the tracker. -/
def ReplicationTracker.perform (t : ReplicationTracker) :
    TrackerOp → TrackerReply × ReplicationTracker
  | .recordPlanSent clientId plan sentAt =>
      let (result, t) := t.recordPlanSent clientId plan sentAt
      (.recorded result, t)
  | .acknowledge clientId entity ackedAt =>
      let (found, t) := t.acknowledge clientId entity ackedAt
      (.acknowledged found, t)
  | .acknowledgePlan clientId plan ackedAt =>
      let (n, t) := t.acknowledgePlan clientId plan ackedAt
      (.count n, t)
  | .clearClient clientId =>
      let (n, t) := t.clearClient clientId
      (.count n, t)
  | .pruneSentBefore olderThan =>
      let (n, t) := t.pruneSentBefore olderThan
      (.count n, t)
  | .get clientId entity => (.record (t.get clientId entity), t)
  | .lastSent clientId entity => (.tick (t.lastSent clientId entity), t)
  | .len => (.count t.len, t)

/-- The tracker an operation leaves behind. -/
def ReplicationTracker.step (t : ReplicationTracker) (op : TrackerOp) : ReplicationTracker :=
  (t.perform op).2

/-! ## The plain map -/

/-- What the tracker is for: a finite map from pairs to records, with at most `maxEntries`
pairs. -/
structure SentMap where
  maxEntries : ℕ
  pairs : Finmap fun _ : ReplicationTrackKey => ReplicationTrackRecord

namespace SentMap

/-- The map without pairs. -/
def new (maxEntries : ℕ) : SentMap := ⟨maxEntries, ∅⟩

/-- The pairs of a batch that the map does not have, repetitions included. -/
def newPairs (m : SentMap) (keys : List ReplicationTrackKey) : ℕ :=
  keys.countP fun key => decide (key ∉ m.pairs.keys)

/-- The pairs whose record satisfies the condition. -/
def matching (m : SentMap) (p : ReplicationTrackKey → ReplicationTrackRecord → Bool) :
    Finset ReplicationTrackKey :=
  m.pairs.keys.filter fun key => (m.pairs.lookup key).any (p key)

/-- Removes the pairs whose record satisfies the condition, and returns their number. -/
def removeAll (m : SentMap) (p : ReplicationTrackKey → ReplicationTrackRecord → Bool) :
    ℕ × SentMap :=
  ((m.matching p).card, { m with pairs := m.pairs.retain fun key record => !p key record })

/-- Acknowledges a pair. -/
def acknowledge (m : SentMap) (key : ReplicationTrackKey) (ackedAt : Tick) : SentMap :=
  { m with pairs := m.pairs.modify key fun record => { record with lastAcked := some ackedAt } }

/-- The operations of the tracker on a plain map. -/
def perform (m : SentMap) : TrackerOp → TrackerReply × SentMap
  | .recordPlanSent clientId plan sentAt =>
      let keys := planKeys clientId plan.entities
      if m.pairs.size + m.newPairs keys ≤ m.maxEntries then
        (.recorded (.ok keys.length),
          { m with pairs := m.pairs.insertAll (sentRecord sentAt) keys })
      else
        (.recorded (.error (.capacityExceeded m.pairs.size (m.newPairs keys) m.maxEntries)), m)
  | .acknowledge clientId entity ackedAt =>
      (.acknowledged (decide (⟨clientId, entity⟩ ∈ m.pairs.keys)),
        m.acknowledge ⟨clientId, entity⟩ ackedAt)
  | .acknowledgePlan clientId plan ackedAt =>
      let keys := planKeys clientId plan.entities
      (.count (keys.countP fun key => decide (key ∈ m.pairs.keys)),
        keys.foldl (fun m key => m.acknowledge key ackedAt) m)
  | .clearClient clientId =>
      let (n, m) := m.removeAll fun key _ => decide (key.clientId = clientId)
      (.count n, m)
  | .pruneSentBefore olderThan =>
      let (n, m) := m.removeAll fun _ record => decide (record.lastSent < olderThan)
      (.count n, m)
  | .get clientId entity => (.record (m.pairs.lookup ⟨clientId, entity⟩), m)
  | .lastSent clientId entity =>
      (.tick ((m.pairs.lookup ⟨clientId, entity⟩).map fun record => record.lastSent), m)
  | .len => (.count m.pairs.size, m)

/-- The map an operation leaves behind. -/
def step (m : SentMap) (op : TrackerOp) : SentMap := (m.perform op).2

@[simp] lemma keys_acknowledge (m : SentMap) (key : ReplicationTrackKey) (ackedAt : Tick) :
    (m.acknowledge key ackedAt).pairs.keys = m.pairs.keys := Finmap.keys_modify _ _ _

end SentMap

namespace ReplicationTracker

/-- The plain map of a tracker. -/
def sentMap (t : ReplicationTracker) : SentMap := ⟨t.config.maxEntries, t.records.toMap⟩

variable (t : ReplicationTracker)

lemma containsKey_records (key : ReplicationTrackKey) :
    t.records.containsKey key = decide (key ∈ t.sentMap.pairs.keys) := by
  rw [AdaptiveMap.containsKey_eq]
  exact decide_eq_decide.mpr Finmap.mem_keys.symm

/-- The pairs counted by the capacity check are the new pairs. -/
lemma countP_records (clientId : ClientId) (entities : List EntityHandle) :
    entities.countP (fun entity => !t.records.containsKey ⟨clientId, entity⟩)
      = t.sentMap.newPairs (planKeys clientId entities) := by
  rw [SentMap.newPairs, planKeys, List.countP_map]
  refine List.countP_congr fun entity _ => ?_
  rw [containsKey_records]
  simp

/-- **The capacity check is exact.**  The cheap test only accepts what the count accepts. -/
lemma ensureCapacityFor_eq (clientId : ClientId) (entities : List EntityHandle) :
    t.ensureCapacityFor clientId entities
      = if t.sentMap.pairs.size + t.sentMap.newPairs (planKeys clientId entities)
          ≤ t.config.maxEntries then .ok ()
        else .error (.capacityExceeded t.sentMap.pairs.size
          (t.sentMap.newPairs (planKeys clientId entities)) t.config.maxEntries) := by
  have hlen : t.records.len = t.sentMap.pairs.size := t.records.len_eq
  have hnew : t.sentMap.newPairs (planKeys clientId entities) ≤ entities.length :=
    List.countP_le_length.trans (by simp [planKeys])
  simp only [ensureCapacityFor, countP_records, hlen]
  by_cases hfast : t.sentMap.pairs.size + entities.length ≤ t.config.maxEntries
  · rw [if_pos hfast, if_pos (by omega)]
  · rw [if_neg hfast]
    by_cases hfits : t.sentMap.pairs.size + t.sentMap.newPairs (planKeys clientId entities)
        ≤ t.config.maxEntries
    · rw [if_neg (not_lt.mpr hfits), if_pos hfits]
    · rw [if_pos (not_le.mp hfits), if_neg hfits]

/-- The loop of `recordPlanSent` counts the entities and stores their records. -/
lemma foldl_insert (clientId : ClientId) (sentAt : Tick) (entities : List EntityHandle) (n : ℕ)
    (records : AdaptiveTrackMap) :
    let acc := entities.foldl
      (fun (recorded, records) entity =>
        (recorded + 1,
          AdaptiveMap.insert ⟨clientId, entity⟩ (sentRecord sentAt ⟨clientId, entity⟩) records))
      (n, records)
    acc.1 = n + entities.length
      ∧ acc.2.toMap = records.toMap.insertAll (sentRecord sentAt) (planKeys clientId entities) := by
  induction entities generalizing n records with
  | nil => exact ⟨rfl, rfl⟩
  | cons entity entities ih =>
      obtain ⟨hcount, hmap⟩ := ih (n + 1)
        (records.insert ⟨clientId, entity⟩ (sentRecord sentAt ⟨clientId, entity⟩))
      refine ⟨hcount.trans ?_, hmap.trans ?_⟩
      · rw [List.length_cons]
        omega
      · rw [AdaptiveMap.toMap_insert]
        rfl

lemma sentMap_recordPlanSent (clientId : ClientId) (plan : ReplicationPlan) (sentAt : Tick) :
    (t.perform (.recordPlanSent clientId plan sentAt)).1
        = (t.sentMap.perform (.recordPlanSent clientId plan sentAt)).1
      ∧ (t.step (.recordPlanSent clientId plan sentAt)).sentMap
        = t.sentMap.step (.recordPlanSent clientId plan sentAt) := by
  have hmax : t.sentMap.maxEntries = t.config.maxEntries := rfl
  simp only [perform, step, SentMap.perform, SentMap.step, recordPlanSent, ensureCapacityFor_eq,
    hmax]
  obtain ⟨hcount, hmap⟩ := foldl_insert clientId sentAt plan.entities 0 t.records
  by_cases hfits : t.sentMap.pairs.size + t.sentMap.newPairs (planKeys clientId plan.entities)
      ≤ t.config.maxEntries
  · simp only [if_pos hfits, hcount]
    refine ⟨by simp [planKeys], ?_⟩
    simp only [sentMap, refreshEntryCount, hmap]
  · simp only [if_neg hfits]
    exact ⟨trivial, trivial⟩

lemma sentMap_acknowledge (clientId : ClientId) (entity : EntityHandle) (ackedAt : Tick) :
    (t.acknowledge clientId entity ackedAt).1
        = decide (⟨clientId, entity⟩ ∈ t.sentMap.pairs.keys)
      ∧ (t.acknowledge clientId entity ackedAt).2.sentMap
        = t.sentMap.acknowledge ⟨clientId, entity⟩ ackedAt := by
  have hmem := Finmap.mem_keys_iff_lookup (k := ⟨clientId, entity⟩) (m := t.sentMap.pairs)
  have hget : t.records.get ⟨clientId, entity⟩ = t.sentMap.pairs.lookup ⟨clientId, entity⟩ :=
    t.records.get_eq _
  simp only [acknowledge, hget]
  cases hlook : t.sentMap.pairs.lookup ⟨clientId, entity⟩ with
  | none =>
      refine ⟨?_, ?_⟩
      · rw [decide_eq_false]
        simp [hmem, hlook]
      · rw [SentMap.acknowledge, Finmap.modify, hlook]
  | some record =>
      refine ⟨?_, ?_⟩
      · rw [decide_eq_true]
        exact hmem.mpr ⟨record, hlook⟩
      · simp only [sentMap, SentMap.acknowledge, AdaptiveMap.toMap_modify]

lemma sentMap_acknowledgePlan (clientId : ClientId) (entities : List EntityHandle)
    (ackedAt : Tick) (n : ℕ) :
    let acc := entities.foldl
      (fun (count, t) entity =>
        let (acked, t) := acknowledge t clientId entity ackedAt
        (if acked then count + 1 else count, t))
      (n, t)
    acc.1 = n + (planKeys clientId entities).countP (fun key => decide (key ∈ t.sentMap.pairs.keys))
      ∧ acc.2.sentMap
        = (planKeys clientId entities).foldl (fun m key => m.acknowledge key ackedAt)
          t.sentMap := by
  induction entities generalizing t n with
  | nil => exact ⟨rfl, rfl⟩
  | cons entity entities ih =>
      obtain ⟨hfound, hmap⟩ := sentMap_acknowledge t clientId entity ackedAt
      simp only [List.foldl_cons, planKeys, List.map_cons, List.countP_cons]
      obtain ⟨hcount, hrest⟩ := ih (t.acknowledge clientId entity ackedAt).2
        (if (t.acknowledge clientId entity ackedAt).1 then n + 1 else n)
      refine ⟨hcount.trans ?_, hrest.trans (by rw [hmap]; rfl)⟩
      rw [hmap, SentMap.keys_acknowledge, hfound, planKeys]
      split <;> omega

/-- Pruning is removal from the plain map, whatever the condition. -/
lemma sentMap_prune (keep drop : ReplicationTrackKey → ReplicationTrackRecord → Bool)
    (hdrop : ∀ key record, keep key record = !drop key record) :
    ((t.prune keep).1, (t.prune keep).2.sentMap) = t.sentMap.removeAll drop := by
  obtain rfl : keep = fun key record => !drop key record := funext₂ hdrop
  have hsize := Finmap.size_retain_add (fun key record => !drop key record) t.sentMap.pairs
  have hcard : t.records.len - (t.records.retain fun key record => !drop key record).len
      = (t.sentMap.matching drop).card := by
    rw [AdaptiveMap.len_eq, AdaptiveMap.len_eq, AdaptiveMap.toMap_retain]
    simp only [Bool.not_not] at hsize
    exact Nat.sub_eq_of_eq_add' hsize.symm
  rw [prune, SentMap.removeAll, ← hcard]
  simp only [sentMap, refreshEntryCount, AdaptiveMap.toMap_retain]

/-- **The tracker is the plain map.**  Every operation returns what the plain map returns, and
leaves the plain map's next state behind. -/
theorem sentMap_perform (op : TrackerOp) :
    (t.perform op).1 = (t.sentMap.perform op).1
      ∧ (t.step op).sentMap = t.sentMap.step op := by
  cases op with
  | recordPlanSent clientId plan sentAt => exact t.sentMap_recordPlanSent clientId plan sentAt
  | acknowledge clientId entity ackedAt =>
      obtain ⟨hfound, hmap⟩ := t.sentMap_acknowledge clientId entity ackedAt
      exact ⟨congrArg TrackerReply.acknowledged hfound, hmap⟩
  | acknowledgePlan clientId plan ackedAt =>
      obtain ⟨hcount, hmap⟩ := t.sentMap_acknowledgePlan clientId plan.entities ackedAt 0
      rw [Nat.zero_add] at hcount
      exact ⟨congrArg TrackerReply.count hcount, hmap⟩
  | clearClient clientId =>
      have hprune := t.sentMap_prune (fun key _ => decide (key.clientId ≠ clientId))
        (fun key _ => decide (key.clientId = clientId)) fun _ _ => decide_not
      exact ⟨congrArg TrackerReply.count (congrArg Prod.fst hprune), congrArg Prod.snd hprune⟩
  | pruneSentBefore olderThan =>
      have hprune := t.sentMap_prune
        (fun _ record => decide (record.lastSent.get ≥ olderThan.get))
        (fun _ record => decide (record.lastSent < olderThan)) fun _ record => by
          rw [← decide_not]
          exact decide_eq_decide.mpr not_lt.symm
      exact ⟨congrArg TrackerReply.count (congrArg Prod.fst hprune), congrArg Prod.snd hprune⟩
  | get clientId entity => exact ⟨congrArg TrackerReply.record (t.records.get_eq _), rfl⟩
  | lastSent clientId entity =>
      refine ⟨congrArg TrackerReply.tick ?_, rfl⟩
      rw [lastSent, t.records.get_eq]
      rfl
  | len => exact ⟨congrArg TrackerReply.count t.records.len_eq, rfl⟩

/-- A run of the tracker is the run of the plain map. -/
lemma sentMap_execute (ops : List TrackerOp) :
    (execute step t ops).sentMap = execute SentMap.step t.sentMap ops :=
  (List.foldl_hom sentMap fun t op => (t.sentMap_perform op).2.symm).symm

/-! ## The bound -/

end ReplicationTracker

namespace SentMap

variable (m : SentMap)

/-- The map holds no more pairs than it may. -/
def Bounded : Prop := m.pairs.size ≤ m.maxEntries

lemma size_removeAll (p : ReplicationTrackKey → ReplicationTrackRecord → Bool) :
    (m.removeAll p).2.pairs.size ≤ m.pairs.size := by
  rw [removeAll, ← Finmap.size_retain_add (fun key record => !p key record) m.pairs]
  exact Nat.le_add_right _ _

lemma acknowledge_foldl (keys : List ReplicationTrackKey) (ackedAt : Tick) :
    (keys.foldl (fun m key => m.acknowledge key ackedAt) m).maxEntries = m.maxEntries
      ∧ (keys.foldl (fun m key => m.acknowledge key ackedAt) m).pairs.keys = m.pairs.keys := by
  induction keys generalizing m with
  | nil => exact ⟨rfl, rfl⟩
  | cons key keys ih =>
      obtain ⟨hmax, hkeys⟩ := ih (m.acknowledge key ackedAt)
      exact ⟨hmax, hkeys.trans (m.keys_acknowledge key ackedAt)⟩

/-- A step keeps the limit, and the map within it. -/
lemma Bounded.step {m : SentMap} (h : m.Bounded) (op : TrackerOp) :
    (m.step op).maxEntries = m.maxEntries ∧ (m.step op).Bounded := by
  cases op with
  | recordPlanSent clientId plan sentAt =>
      simp only [SentMap.step, perform]
      split
      · rename_i hfits
        refine ⟨rfl, ?_⟩
        rw [Bounded, Finmap.size, Finmap.keys_insertAll]
        exact (Finmap.card_union_le _ _).trans hfits
      · exact ⟨rfl, h⟩
  | acknowledge clientId entity ackedAt =>
      refine ⟨rfl, ?_⟩
      rw [SentMap.step, perform, Bounded, Finmap.size, keys_acknowledge]
      exact h
  | acknowledgePlan clientId plan ackedAt =>
      obtain ⟨hmax, hkeys⟩ := m.acknowledge_foldl (planKeys clientId plan.entities) ackedAt
      refine ⟨hmax, ?_⟩
      rw [SentMap.step, perform, Bounded, Finmap.size, hkeys, hmax]
      exact h
  | clearClient clientId => exact ⟨rfl, (m.size_removeAll _).trans h⟩
  | pruneSentBefore olderThan => exact ⟨rfl, (m.size_removeAll _).trans h⟩
  | get clientId entity => exact ⟨rfl, h⟩
  | lastSent clientId entity => exact ⟨rfl, h⟩
  | len => exact ⟨rfl, h⟩

lemma bounded_execute (maxEntries : ℕ) (ops : List TrackerOp) :
    (execute SentMap.step (new maxEntries) ops).maxEntries = maxEntries
      ∧ (execute SentMap.step (new maxEntries) ops).Bounded := by
  refine execute_preserves (I := fun m : SentMap => m.maxEntries = maxEntries ∧ m.Bounded)
    ?_ ⟨rfl, Nat.zero_le _⟩ ops
  rintro m op ⟨hmax, hbounded⟩
  exact ⟨(hbounded.step op).1.trans hmax, (hbounded.step op).2⟩

end SentMap

namespace ReplicationTracker

variable (t : ReplicationTracker)

/-- The entry counter is the number of records. -/
def Counted : Prop := t.stats.entries = t.len

lemma Counted.acknowledge {t : ReplicationTracker} (h : t.Counted) (clientId : ClientId)
    (entity : EntityHandle) (ackedAt : Tick) :
    (t.acknowledge clientId entity ackedAt).2.Counted := by
  simp only [ReplicationTracker.acknowledge]
  split
  · exact h
  · rw [Counted, len, AdaptiveMap.len_eq, AdaptiveMap.toMap_modify, Finmap.size,
      Finmap.keys_modify]
    exact h.trans t.records.len_eq

lemma Counted.step {t : ReplicationTracker} (h : t.Counted) (op : TrackerOp) :
    (t.step op).Counted := by
  cases op with
  | recordPlanSent clientId plan sentAt =>
      simp only [ReplicationTracker.step, perform, recordPlanSent]
      split
      · exact h
      · rfl
  | acknowledge clientId entity ackedAt => exact h.acknowledge clientId entity ackedAt
  | acknowledgePlan clientId plan ackedAt =>
      have hfold : ∀ (entities : List EntityHandle) (acc : ℕ × ReplicationTracker),
          acc.2.Counted → (entities.foldl (fun (count, t) entity =>
            let (acked, t) := ReplicationTracker.acknowledge t clientId entity ackedAt
            (if acked then count + 1 else count, t)) acc).2.Counted := by
        intro entities
        induction entities with
        | nil => exact fun _ h => h
        | cons entity entities ih =>
            exact fun acc h => ih _ (h.acknowledge clientId entity ackedAt)
      exact hfold plan.entities (0, t) h
  | clearClient clientId => rfl
  | pruneSentBefore olderThan => rfl
  | get clientId entity => exact h
  | lastSent clientId entity => exact h
  | len => exact h

/-- The pairs of clients and entities the tracker has a record of. -/
def trackedPairs : Finset ReplicationTrackKey := t.records.toMap.keys

/-- A pruning operation removed exactly the pairs whose record satisfies the condition, and
returned their number. -/
def RemovesExactly (result : ℕ × ReplicationTracker)
    (p : ReplicationTrackKey → ReplicationTrackRecord → Bool) : Prop :=
  (∀ clientId entity, result.2.get clientId entity
      = (t.get clientId entity).filter fun record => !p ⟨clientId, entity⟩ record)
    ∧ result.1 = (t.trackedPairs.filter fun key =>
      (t.get key.clientId key.entity).any (p key)).card

lemma removesExactly_prune (keep drop : ReplicationTrackKey → ReplicationTrackRecord → Bool)
    (hdrop : ∀ key record, keep key record = !drop key record) :
    t.RemovesExactly (t.prune keep) drop := by
  have hprune := t.sentMap_prune keep drop hdrop
  constructor
  · intro clientId entity
    have hget : (t.prune keep).2.get clientId entity
        = (t.get clientId entity).filter (keep ⟨clientId, entity⟩) :=
      t.records.get_retain keep ⟨clientId, entity⟩
    rw [hget]
    exact congrArg (fun p => Option.filter p _) (funext fun record => hdrop _ record)
  · rw [congrArg Prod.fst hprune]
    refine congrArg Finset.card (Finset.filter_congr fun key _ => ?_)
    rw [get, t.records.get_eq]
    rfl

lemma nodup_planKeys (clientId : ClientId) {entities : List EntityHandle} (h : entities.Nodup) :
    (planKeys clientId entities).Nodup :=
  h.map fun _ _ heq => (ReplicationTrackKey.mk.inj heq).2

/-- A plan is recorded exactly when its new pairs, repetitions included, fit. -/
lemma isOk_recordPlanSent (clientId : ClientId) (plan : ReplicationPlan) (sentAt : Tick) :
    (t.recordPlanSent clientId plan sentAt).1.isOk = true
      ↔ t.sentMap.pairs.size + t.sentMap.newPairs (planKeys clientId plan.entities)
        ≤ t.config.maxEntries := by
  rw [recordPlanSent, ensureCapacityFor_eq]
  by_cases hfits : t.sentMap.pairs.size + t.sentMap.newPairs (planKeys clientId plan.entities)
      ≤ t.config.maxEntries
  · rw [if_pos hfits]
    exact iff_of_true rfl hfits
  · rw [if_neg hfits]
    exact iff_of_false Bool.false_ne_true hfits

/-- **The tracker is a bounded finite map.**  After any run the tracker holds at most
`maxEntries` pairs and counts them; it replies to every operation as the plain map does after the
same run; a plan of distinct entities is recorded exactly when the union of the tracked and the
planned pairs fits, and a plan that is refused changes nothing; and the two pruning operations
remove exactly the pairs they name and return their number. -/
theorem tracker_is_bounded_map (config : ReplicationTrackerConfig) (ops : List TrackerOp) :
    let t := execute step (new config) ops
    let m := execute SentMap.step (SentMap.new config.maxEntries) ops
    (t.len ≤ config.maxEntries ∧ t.stats.entries = t.len)
      ∧ (∀ op, (t.perform op).1 = (m.perform op).1)
      ∧ (∀ clientId plan sentAt, plan.entities.Nodup →
        ((t.recordPlanSent clientId plan sentAt).1.isOk = true
          ↔ (t.trackedPairs ∪ (planKeys clientId plan.entities).toFinset).card
            ≤ config.maxEntries))
      ∧ (∀ clientId plan sentAt error, (t.recordPlanSent clientId plan sentAt).1 = .error error →
        (t.recordPlanSent clientId plan sentAt).2 = t)
      ∧ (∀ clientId, t.RemovesExactly (t.clearClient clientId)
        fun key _ => decide (key.clientId = clientId))
      ∧ ∀ olderThan, t.RemovesExactly (t.pruneSentBefore olderThan)
        fun _ record => decide (record.lastSent < olderThan) := by
  intro t m
  have hmap : t.sentMap = m := sentMap_execute (new config) ops
  obtain ⟨hmax, hbounded⟩ : m.maxEntries = config.maxEntries ∧ m.Bounded :=
    SentMap.bounded_execute config.maxEntries ops
  have hconfig : t.config.maxEntries = config.maxEntries :=
    (congrArg SentMap.maxEntries hmap).trans hmax
  have hcounted : t.Counted :=
    execute_preserves (I := Counted) (s := new config) (fun t op h => h.step op) rfl ops
  refine ⟨⟨?_, hcounted⟩, fun op => ?_, fun clientId plan sentAt hnodup => ?_,
    fun clientId plan sentAt error herror => ?_, fun clientId => ?_, fun olderThan => ?_⟩
  · rw [len, t.records.len_eq, ← hconfig]
    rw [← hmap] at hbounded
    exact hbounded
  · rw [(t.sentMap_perform op).1, hmap]
  · rw [t.isOk_recordPlanSent, ← hconfig, SentMap.newPairs,
      ← Finmap.card_union_of_nodup t.sentMap.pairs (nodup_planKeys clientId hnodup)]
    exact Iff.rfl
  · rw [recordPlanSent] at herror ⊢
    split
    · rfl
    · rename_i hok
      rw [hok] at herror
      cases herror
  · exact t.removesExactly_prune _ _ fun _ _ => decide_not
  · refine t.removesExactly_prune _ _ fun _ record => ?_
    rw [← decide_not]
    exact decide_eq_decide.mpr not_lt.symm

/-- A plan of one tracked and one new entity fits a tracker with room for one more, although the
sum of both lengths does not. -/
theorem tracker_records_up_to_limit :
    ((execute step (new ⟨2⟩) [.recordPlanSent ⟨7⟩ ⟨[⟨1, 0⟩], .default⟩ ⟨1⟩]).recordPlanSent ⟨7⟩
      ⟨[⟨1, 0⟩, ⟨2, 0⟩], .default⟩ ⟨2⟩).1.isOk = true :=
  ((tracker_is_bounded_map ⟨2⟩ [.recordPlanSent ⟨7⟩ ⟨[⟨1, 0⟩], .default⟩ ⟨1⟩]).2.2.1 ⟨7⟩
    ⟨[⟨1, 0⟩, ⟨2, 0⟩], .default⟩ ⟨2⟩ (by decide)).mpr (by decide)

end ReplicationTracker

end SectorSync
