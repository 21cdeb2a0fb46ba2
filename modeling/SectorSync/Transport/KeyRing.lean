import SectorSync.Base.Run
import SectorSync.Core.Ids

/-!
# The packet key ring

Lifecycle metadata of externally managed packet keys: `PacketKeyRing` of the transport crate.
A ring carries the proof that every descriptor is stored under its own key id.

A revoked key is to stay rejected until it is activated or inserted again.
`revocation_sticky_iff` says along which runs it does: a revoked key must not be retired while
the ring holds it, because retirement makes it acceptable again (`retire_readmits`), unless the
window between activation and expiry is empty and stays so.
-/

namespace SectorSync

open Machine

/-- Packet key lifecycle state. -/
inductive PacketKeyState where
  /-- Key can be used for sending and receiving packets. -/
  | active
  /-- Key is accepted for receiving old packets but is not selected for send. -/
  | retiring
  /-- Key is explicitly rejected. -/
  | revoked
  deriving DecidableEq

namespace PacketKeyState

def canSend (state : PacketKeyState) : Bool := state = active

def canAccept : PacketKeyState → Bool
  | active => true
  | retiring => true
  | revoked => false

end PacketKeyState

/-- Metadata for one externally managed packet security key. -/
structure PacketKeyDescriptor where
  keyId : UInt32
  state : PacketKeyState
  createdAt : Tick
  /-- First tick at which this key may be used or accepted. -/
  activatedAt : Tick
  retiresAt : Option Tick
  /-- First tick at which this key must be rejected and can be removed. -/
  expiresAt : Option Tick
  /-- Higher values win when multiple active keys are eligible for send. -/
  sendPriority : UInt32
  deriving DecidableEq

namespace PacketKeyDescriptor

/-- Creates active key metadata. -/
def active (keyId : UInt32) (now : Tick) (sendPriority : UInt32) : PacketKeyDescriptor where
  keyId := keyId
  state := .active
  createdAt := now
  activatedAt := now
  retiresAt := none
  expiresAt := none
  sendPriority := sendPriority

def isActivatedAt (d : PacketKeyDescriptor) (now : Tick) : Bool := now ≥ d.activatedAt

def isExpiredAt (d : PacketKeyDescriptor) (now : Tick) : Bool :=
  d.expiresAt.any fun expiresAt => now ≥ expiresAt

/-- Whether the key is active for sending at `now`. -/
def isSendEligible (d : PacketKeyDescriptor) (now : Tick) : Bool :=
  d.state.canSend && d.isActivatedAt now && !d.isExpiredAt now

/-- Whether the key is accepted for receiving at `now`. -/
def isAcceptEligible (d : PacketKeyDescriptor) (now : Tick) : Bool :=
  d.state.canAccept && d.isActivatedAt now && !d.isExpiredAt now

/-- The order in which keys are preferred for sending. -/
def sendRank (d : PacketKeyDescriptor) : UInt32 ×ₗ Tick ×ₗ UInt32 :=
  toLex (d.sendPriority, toLex (d.activatedAt, d.keyId))

/-- The key expires no later than it activates. -/
def windowEmpty (d : PacketKeyDescriptor) : Bool :=
  d.expiresAt.any fun expiresAt => expiresAt ≤ d.activatedAt

end PacketKeyDescriptor

/-- Packet key ring configuration. -/
structure PacketKeyRingConfig where
  maxKeys : ℕ

/-- Packet key ring maintenance statistics: counted in ℕ here, where the source saturates at
`usize::MAX`. -/
structure PacketKeyRingStats where
  keysInserted : ℕ
  keysActivated : ℕ
  keysRetired : ℕ
  keysRevoked : ℕ
  keysExpiredRemoved : ℕ

/-- Packet key ring policy error. -/
inductive PacketKeyRingError where
  | capacityFull (capacity : ℕ)
  | duplicateKey (keyId : UInt32)
  | missingKey (keyId : UInt32)
  | noSendKey
  | keyNotSendable (keyId : UInt32) (state : PacketKeyState)
  | keyNotAccepted (keyId : UInt32) (state : PacketKeyState)
  deriving DecidableEq

/-- Bounded packet key lifecycle metadata. -/
structure PacketKeyRing where
  config : PacketKeyRingConfig
  keys : BTreeMap UInt32 PacketKeyDescriptor
  stats : PacketKeyRingStats
  /-- Every descriptor is stored under its own id. -/
  keyed : ∀ keyId d, keys.lookup keyId = some d → d.keyId = keyId

/-- `Iterator::max_by_key`: the last of the elements with the greatest key. -/
def maxByKey {α β : Type} [LinearOrder β] (key : α → β) (l : List α) : Option α :=
  l.foldl (fun best a =>
    match best with
    | none => some a
    | some b => if key b ≤ key a then some a else some b) none

lemma mem_of_maxByKey {α β : Type} [LinearOrder β] {key : α → β} {l : List α} {a : α}
    (h : maxByKey key l = some a) : a ∈ l := by
  induction l using List.reverseRecOn generalizing a with
  | nil => simp [maxByKey] at h
  | append_singleton l b ih =>
      rw [maxByKey, List.foldl_append] at h
      rw [List.mem_append, List.mem_singleton]
      cases hbest : maxByKey key l with
      | none =>
          rw [← maxByKey, hbest] at h
          simp only [List.foldl_cons, List.foldl_nil, Option.some.injEq] at h
          exact Or.inr h.symm
      | some best =>
          rw [← maxByKey, hbest] at h
          simp only [List.foldl_cons, List.foldl_nil] at h
          split_ifs at h
          · exact Or.inr (Option.some.inj h).symm
          · exact Or.inl (ih (by rw [hbest, h]))

namespace PacketKeyRing

/-- An empty key ring. -/
def new (config : PacketKeyRingConfig) : PacketKeyRing where
  config := config
  keys := ∅
  stats := ⟨0, 0, 0, 0, 0⟩
  keyed keyId d h := by simp at h

/-- One key descriptor. -/
def get (ring : PacketKeyRing) (keyId : UInt32) : Option PacketKeyDescriptor :=
  ring.keys.lookup keyId

/-- Inserts a descriptor if capacity and uniqueness allow it. -/
def insert (ring : PacketKeyRing) (d : PacketKeyDescriptor) :
    Except PacketKeyRingError Unit × PacketKeyRing :=
  if (ring.keys.lookup d.keyId).isSome then (.error (.duplicateKey d.keyId), ring)
  else if ring.keys.size ≥ ring.config.maxKeys then
    (.error (.capacityFull ring.config.maxKeys), ring)
  else
    (.ok (),
      { ring with
        keys := ring.keys.insert d.keyId d
        stats := { ring.stats with keysInserted := ring.stats.keysInserted + 1 }
        keyed := by
          intro keyId d' h
          rw [Finmap.lookup_insert_eq] at h
          split_ifs at h with hid
          · rw [← Option.some.inj h, hid]
          · exact ring.keyed keyId d' h })

/-- Inserts active key metadata. -/
def insertActive (ring : PacketKeyRing) (keyId : UInt32) (now : Tick) (sendPriority : UInt32) :
    Except PacketKeyRingError Unit × PacketKeyRing :=
  ring.insert (.active keyId now sendPriority)

/-- The shared shape of the lifecycle operations: look the key up, rewrite its descriptor in
place, count the change. -/
def update (ring : PacketKeyRing) (keyId : UInt32)
    (f : PacketKeyDescriptor → PacketKeyDescriptor) (hf : ∀ d, (f d).keyId = d.keyId)
    (stats : PacketKeyRingStats) : Except PacketKeyRingError Unit × PacketKeyRing :=
  if (ring.keys.lookup keyId).isNone then (.error (.missingKey keyId), ring)
  else
    (.ok (),
      { ring with
        keys := ring.keys.modify keyId f
        stats := stats
        keyed := by
          intro keyId' d' h
          rw [Finmap.lookup_modify] at h
          split_ifs at h with hid
          · obtain ⟨d, hd, rfl⟩ := Option.map_eq_some_iff.mp h
            rw [hf, hid, ring.keyed keyId d hd]
          · exact ring.keyed keyId' d' h })

/-- Marks a key active and send-eligible from `activatedAt`. -/
def activate (ring : PacketKeyRing) (keyId : UInt32) (activatedAt : Tick) :
    Except PacketKeyRingError Unit × PacketKeyRing :=
  ring.update keyId
    (fun d => { d with state := .active, activatedAt := activatedAt, retiresAt := none })
    (fun _ => rfl) { ring.stats with keysActivated := ring.stats.keysActivated + 1 }

/-- Marks a key receive-only for retirement. -/
def retire (ring : PacketKeyRing) (keyId : UInt32) (retiresAt : Tick) :
    Except PacketKeyRingError Unit × PacketKeyRing :=
  ring.update keyId (fun d => { d with state := .retiring, retiresAt := some retiresAt })
    (fun _ => rfl) { ring.stats with keysRetired := ring.stats.keysRetired + 1 }

/-- Marks a key rejected. -/
def revoke (ring : PacketKeyRing) (keyId : UInt32) :
    Except PacketKeyRingError Unit × PacketKeyRing :=
  ring.update keyId (fun d => { d with state := .revoked })
    (fun _ => rfl) { ring.stats with keysRevoked := ring.stats.keysRevoked + 1 }

/-- Updates the expiration tick for one key. -/
def setExpiry (ring : PacketKeyRing) (keyId : UInt32) (expiresAt : Option Tick) :
    Except PacketKeyRingError Unit × PacketKeyRing :=
  ring.update keyId (fun d => { d with expiresAt := expiresAt }) (fun _ => rfl) ring.stats

/-- Removes expired descriptors and returns the removed count. -/
def removeExpired (ring : PacketKeyRing) (now : Tick) : ℕ × PacketKeyRing :=
  let keys := ring.keys.retain fun _ d => !d.isExpiredAt now
  let removed := ring.keys.size - keys.size
  (removed,
    { ring with
      keys := keys
      stats := { ring.stats with keysExpiredRemoved := ring.stats.keysExpiredRemoved + removed }
      keyed := by
        intro keyId d h
        rw [Finmap.lookup_retain] at h
        exact ring.keyed keyId d (Option.eq_some_of_filter_eq_some h) })

/-- Selects the best active key for sending at `now`. -/
def selectSendKey (ring : PacketKeyRing) (now : Tick) :
    Except PacketKeyRingError PacketKeyDescriptor :=
  match maxByKey PacketKeyDescriptor.sendRank
      ((ring.keys.sortedKeys.filterMap ring.keys.lookup).filter (·.isSendEligible now)) with
  | some d => .ok d
  | none => .error .noSendKey

/-- Checks that the key is accepted for receiving at `now`. -/
def acceptKey (ring : PacketKeyRing) (keyId : UInt32) (now : Tick) :
    Except PacketKeyRingError PacketKeyDescriptor :=
  match ring.keys.lookup keyId with
  | none => .error (.missingKey keyId)
  | some d => if d.isAcceptEligible now then .ok d else .error (.keyNotAccepted keyId d.state)

/-! ## Runs -/

/-- The operations that change a ring. -/
inductive Op where
  | insert (d : PacketKeyDescriptor)
  | insertActive (keyId : UInt32) (now : Tick) (sendPriority : UInt32)
  | activate (keyId : UInt32) (activatedAt : Tick)
  | retire (keyId : UInt32) (retiresAt : Tick)
  | revoke (keyId : UInt32)
  | setExpiry (keyId : UInt32) (expiresAt : Option Tick)
  | removeExpired (now : Tick)

/-- One operation; a failed one leaves the ring it was given. -/
def step (ring : PacketKeyRing) : Op → PacketKeyRing
  | .insert d => (ring.insert d).2
  | .insertActive keyId now sendPriority => (ring.insertActive keyId now sendPriority).2
  | .activate keyId activatedAt => (ring.activate keyId activatedAt).2
  | .retire keyId retiresAt => (ring.retire keyId retiresAt).2
  | .revoke keyId => (ring.revoke keyId).2
  | .setExpiry keyId expiresAt => (ring.setExpiry keyId expiresAt).2
  | .removeExpired now => (ring.removeExpired now).2

/-- The operation neither activates nor inserts the key. -/
def Op.Spares (k : UInt32) : Op → Prop
  | .insert d => d.keyId ≠ k
  | .insertActive keyId _ _ => keyId ≠ k
  | .activate keyId _ => keyId ≠ k
  | _ => True

/-- At every tick the key is refused for receiving and not selected for sending. -/
def Rejects (ring : PacketKeyRing) (k : UInt32) : Prop :=
  ∀ now, (∀ d, ring.acceptKey k now ≠ .ok d) ∧ ∀ d, ring.selectSendKey now = .ok d → d.keyId ≠ k

/-- The key, if the ring holds it, is revoked or has no tick at which it could be used. -/
def Unusable (ring : PacketKeyRing) (k : UInt32) : Prop :=
  ∀ d, ring.get k = some d → d.state.canAccept = true → d.windowEmpty = true

/-- The operation retires the key only if the ring does not hold it with a window, and does not
open the window of a key that may be accepted. -/
def KeepsUnusable (k : UInt32) (ring : PacketKeyRing) : Op → Prop
  | .retire keyId _ => keyId = k → ∀ d ∈ ring.get k, d.windowEmpty = true
  | .setExpiry keyId expiresAt =>
      keyId = k → ∀ d ∈ ring.get k, d.state.canAccept = true →
        { d with expiresAt := expiresAt }.windowEmpty = true
  | _ => True

instance (k : UInt32) (ring : PacketKeyRing) : DecidablePred (KeepsUnusable k ring)
  | .retire keyId _ =>
      inferInstanceAs (Decidable (keyId = k → ∀ d ∈ ring.get k, d.windowEmpty = true))
  | .setExpiry keyId expiresAt =>
      inferInstanceAs (Decidable (keyId = k → ∀ d ∈ ring.get k, d.state.canAccept = true →
        { d with expiresAt := expiresAt }.windowEmpty = true))
  | .insert _ => isTrue trivial
  | .insertActive _ _ _ => isTrue trivial
  | .activate _ _ => isTrue trivial
  | .revoke _ => isTrue trivial
  | .removeExpired _ => isTrue trivial

/-! ## What an operation does to one key -/

lemma get_update (ring : PacketKeyRing) (keyId k : UInt32)
    (f : PacketKeyDescriptor → PacketKeyDescriptor) (hf : ∀ d, (f d).keyId = d.keyId)
    (stats : PacketKeyRingStats) :
    (ring.update keyId f hf stats).2.get k
      = if k = keyId then (ring.get keyId).map f else ring.get k := by
  unfold update
  split_ifs with hnone hk hk
  · rw [hk, get, Option.isNone_iff_eq_none.mp hnone, Option.map_none]
  · rfl
  · rw [get, Finmap.lookup_modify, if_pos hk, get]
  · rw [get, Finmap.lookup_modify, if_neg hk, get]

lemma get_insert_of_ne {ring : PacketKeyRing} {d : PacketKeyDescriptor} {k : UInt32}
    (h : d.keyId ≠ k) : (ring.insert d).2.get k = ring.get k := by
  unfold insert
  split_ifs
  · rfl
  · rfl
  · rw [get, Finmap.lookup_insert_eq, if_neg (Ne.symm h), get]

lemma get_removeExpired (ring : PacketKeyRing) (now : Tick) (k : UInt32) :
    (ring.removeExpired now).2.get k = (ring.get k).filter fun d => !d.isExpiredAt now := by
  simp only [removeExpired, get, Finmap.lookup_retain]

lemma unusable_congr {ring ring' : PacketKeyRing} {k : UInt32} (h : ring'.get k = ring.get k) :
    ring'.Unusable k ↔ ring.Unusable k := by
  rw [Unusable, Unusable, h]

/-- A lifecycle operation on another key. -/
lemma unusable_update_of_ne {ring : PacketKeyRing} {keyId k : UInt32} (hne : keyId ≠ k)
    {f : PacketKeyDescriptor → PacketKeyDescriptor} {hf : ∀ d, (f d).keyId = d.keyId}
    {stats : PacketKeyRingStats} :
    (ring.update keyId f hf stats).2.Unusable k ↔ ring.Unusable k :=
  unusable_congr (by rw [get_update, if_neg (Ne.symm hne)])

/-- A lifecycle operation on the key itself. -/
lemma unusable_update_self {ring : PacketKeyRing} {k : UInt32}
    {f : PacketKeyDescriptor → PacketKeyDescriptor} {hf : ∀ d, (f d).keyId = d.keyId}
    {stats : PacketKeyRingStats} :
    (ring.update k f hf stats).2.Unusable k
      ↔ ∀ d ∈ ring.get k, (f d).state.canAccept = true → (f d).windowEmpty = true := by
  rw [Unusable, get_update, if_pos rfl]
  constructor
  · intro h d hd
    exact h (f d) (Option.map_eq_some_iff.mpr ⟨d, hd, rfl⟩)
  · rintro h _ hmap
    obtain ⟨d, hd, rfl⟩ := Option.map_eq_some_iff.mp hmap
    exact h d hd

/-- **The step lemma.**  An operation that spares an unusable key leaves it unusable exactly
when it neither retires it with a window nor opens its window. -/
theorem unusable_step_iff {ring : PacketKeyRing} {k : UInt32} (h : ring.Unusable k) {op : Op}
    (hop : op.Spares k) : (ring.step op).Unusable k ↔ KeepsUnusable k ring op := by
  cases op with
  | insert d => exact iff_of_true ((unusable_congr (get_insert_of_ne hop)).mpr h) trivial
  | insertActive keyId now sendPriority =>
      have hne : (PacketKeyDescriptor.active keyId now sendPriority).keyId ≠ k := hop
      exact iff_of_true ((unusable_congr (get_insert_of_ne hne)).mpr h) trivial
  | activate keyId activatedAt => exact iff_of_true ((unusable_update_of_ne hop).mpr h) trivial
  | retire keyId retiresAt =>
      by_cases hid : keyId = k
      · subst hid
        rw [step, retire, unusable_update_self]
        exact ⟨fun hnext _ d hd => hnext d hd rfl, fun hok d hd _ => hok rfl d hd⟩
      · exact iff_of_true ((unusable_update_of_ne hid).mpr h) fun heq => absurd heq hid
  | revoke keyId =>
      refine iff_of_true ?_ trivial
      by_cases hid : keyId = k
      · subst hid
        rw [step, revoke, unusable_update_self]
        exact fun d _ hacc => absurd hacc Bool.false_ne_true
      · exact (unusable_update_of_ne hid).mpr h
  | setExpiry keyId expiresAt =>
      by_cases hid : keyId = k
      · subst hid
        rw [step, setExpiry, unusable_update_self]
        exact ⟨fun hnext _ => hnext, fun hok => hok rfl⟩
      · exact iff_of_true ((unusable_update_of_ne hid).mpr h) fun heq => absurd heq hid
  | removeExpired now =>
      refine iff_of_true (fun d hd => ?_) trivial
      rw [step, get_removeExpired] at hd
      exact h d (Option.eq_some_of_filter_eq_some hd)

/-- Being unusable is being rejected at every tick. -/
theorem unusable_iff_rejects (ring : PacketKeyRing) (k : UInt32) :
    ring.Unusable k ↔ ring.Rejects k := by
  constructor
  · intro h now
    have hnot : ∀ d, ring.get k = some d → d.isAcceptEligible now = false := by
      intro d hd
      by_contra hne
      simp only [PacketKeyDescriptor.isAcceptEligible, PacketKeyDescriptor.isActivatedAt,
        PacketKeyDescriptor.isExpiredAt, Bool.not_eq_false, Bool.and_eq_true,
        decide_eq_true_eq, Bool.not_eq_true'] at hne
      obtain ⟨⟨hacc, hact⟩, hexp⟩ := hne
      obtain ⟨e, he, hle⟩ := (Option.any_eq_true _ _).mp (h d hd hacc)
      rw [he, Option.any_some, decide_eq_false_iff_not] at hexp
      exact hexp ((of_decide_eq_true hle).trans hact)
    constructor
    · intro d haccept
      rw [acceptKey] at haccept
      cases hd : ring.keys.lookup k with
      | none =>
          rw [hd] at haccept
          exact absurd haccept (by simp)
      | some d' =>
          simp only [hd, hnot d' hd] at haccept
          exact absurd haccept (by simp)
    · rintro d hselect rfl
      rw [selectSendKey] at hselect
      split at hselect
      · next d' hmax =>
          obtain rfl : d' = d := Except.ok.inj hselect
          obtain ⟨hmem, hsend⟩ := List.mem_filter.mp (mem_of_maxByKey hmax)
          obtain ⟨keyId, _, hd⟩ := List.mem_filterMap.mp hmem
          have hget : ring.get d'.keyId = some d' := by rw [ring.keyed keyId d' hd]; exact hd
          have hacc := hnot d' hget
          simp only [PacketKeyDescriptor.isSendEligible, PacketKeyState.canSend, Bool.and_eq_true,
            decide_eq_true_eq] at hsend
          simp [PacketKeyDescriptor.isAcceptEligible, hsend.1.1, hsend.1.2, hsend.2,
            PacketKeyState.canAccept] at hacc
      · exact absurd hselect (by simp)
  · intro h d hd hacc
    by_contra hopen
    rw [PacketKeyDescriptor.windowEmpty, Bool.not_eq_true] at hopen
    refine (h d.activatedAt).1 d ?_
    have helig : d.isAcceptEligible d.activatedAt = true := by
      simp only [PacketKeyDescriptor.isAcceptEligible, PacketKeyDescriptor.isActivatedAt,
        PacketKeyDescriptor.isExpiredAt, hacc, hopen, ge_iff_le, le_refl, decide_true,
        Bool.and_self, Bool.not_false]
    rw [acceptKey, show ring.keys.lookup k = some d from hd]
    simp only [helig, if_true]

/-- A revoked key is unusable. -/
lemma unusable_revoke (ring : PacketKeyRing) (k : UInt32) : (ring.revoke k).2.Unusable k := by
  rw [revoke, unusable_update_self]
  exact fun d _ hacc => absurd hacc Bool.false_ne_true

/-- **Sticky revocation.**  After a revocation of the key, in a run that neither activates nor
inserts it, the key is rejected in every state exactly when no step retires it while the ring
holds it with a window, or opens the window of a key so retired. -/
theorem revocation_sticky_iff (ring : PacketKeyRing) (k : UInt32) {ops : List Op}
    (hops : ∀ op ∈ ops, op.Spares k) :
    (∀ pre, pre <+: ops → (execute step (ring.revoke k).2 pre).Rejects k)
      ↔ AllSteps step (KeepsUnusable k) (ring.revoke k).2 ops := by
  rw [← forall_prefix_invariant_iff (I := fun ring => ring.Unusable k) (P := Op.Spares k)
    (fun _ _ h hop => unusable_step_iff h hop) (unusable_revoke ring k) hops]
  simp only [unusable_iff_rejects]

section Readmitted

/-- A ring with one active key. -/
def oneKey : PacketKeyRing := (new ⟨32⟩).insertActive 7 ⟨0⟩ 1 |>.2

/-- After a revocation, a new expiry, a cleanup and a retirement of another key the key stays
rejected. -/
theorem revocation_sticky_oneKey :
    (execute step (oneKey.revoke 7).2
      [.setExpiry 7 (some ⟨9⟩), .removeExpired ⟨5⟩, .retire 8 ⟨6⟩]).Rejects 7 :=
  (revocation_sticky_iff oneKey 7 (by simp [Op.Spares])).mpr (by decide) _ (List.prefix_refl _)

/-- Retiring a revoked key makes it acceptable again. -/
theorem retire_readmits :
    (∀ op ∈ [Op.retire 7 ⟨5⟩], op.Spares 7) ∧
      ¬ (execute step (oneKey.revoke 7).2 [.retire 7 ⟨5⟩]).Rejects 7 := by
  refine ⟨by simp [Op.Spares], fun h => ?_⟩
  exact (h ⟨5⟩).1 _ (rfl : _ = Except.ok _)

end Readmitted

end PacketKeyRing

end SectorSync
