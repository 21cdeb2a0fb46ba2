import SectorSync.Base.Run
import SectorSync.Base.Window
import SectorSync.Transport.ReliableSender

/-!
# The delivered history of the reliable receiver

A receiver remembers the keys of its last deliveries.  `Remembers` relates its queue and its set
to the log of all deliveries: both hold the window of the last `max_delivered_history` keys, and a
key is accepted only while it is outside the window.

`handleInbound_data` and its siblings say where an endpoint sends an inbound packet.
-/

namespace SectorSync

open Machine Window

variable {P O R T E : Type} [LinearOrder P]

namespace ReliableReceiver

/-! ## Recording deliveries -/

/-- The queue and the set hold the window of the delivered keys. -/
structure Remembers (log : List (PacketKey P)) (r : ReliableReceiver P) : Prop where
  order : r.deliveredOrder = recent r.config.maxDeliveredHistory log
  entries : ∀ k, k ∈ r.delivered.entries ↔ k ∈ r.deliveredOrder
  spaced : Spaced r.config.maxDeliveredHistory log

lemma remembers_new (config : ReliableConfig) : Remembers [] (new config : ReliableReceiver P) where
  order := recent_nil.symm
  entries k := by simp [new]
  spaced := spaced_nil

/-- Eviction keeps the newest keys, in the queue and in the set. -/
lemma evict_spec (max : ℕ) {order : List (PacketKey P)} {delivered : BoundedLookupSet (PacketKey P)}
    (hnodup : order.Nodup) (hentries : ∀ k, k ∈ delivered.entries ↔ k ∈ order) :
    (evict max order delivered).1 = recent max order ∧
      ∀ k, k ∈ (evict max order delivered).2.entries ↔ k ∈ (evict max order delivered).1 := by
  fun_induction evict max order delivered with
  | case1 delivered => exact ⟨recent_nil.symm, hentries⟩
  | case2 delivered old order hlen ih =>
      obtain ⟨hold, hnodup⟩ := List.nodup_cons.mp hnodup
      obtain ⟨horder, hrest⟩ := ih hnodup fun k => by
        rw [BoundedLookupSet.entries_remove, Finset.mem_erase, hentries, List.mem_cons]
        constructor
        · rintro ⟨hne, heq | hmem⟩
          · exact absurd heq hne
          · exact hmem
        · intro hmem
          exact ⟨fun heq => hold (heq ▸ hmem), .inr hmem⟩
      refine ⟨?_, hrest⟩
      rw [List.length_cons] at hlen
      rw [horder, recent, recent, List.length_cons, Nat.succ_sub (by omega), List.drop_succ_cons]
  | case3 delivered old order hlen =>
      refine ⟨?_, hentries⟩
      rw [recent, Nat.sub_eq_zero_of_le (not_lt.mp hlen), List.drop_zero]

/-- One more key outside the window: the queue and the set hold the next window. -/
lemma evict_window {max : ℕ} {log order : List (PacketKey P)}
    {inserted : BoundedLookupSet (PacketKey P)} {k : PacketKey P} (horder : order = recent max log)
    (hinserted : ∀ k', k' ∈ inserted.entries ↔ k' ∈ order ∨ k' = k) (hspaced : Spaced max log)
    (hk : k ∉ recent max log) :
    (evict max (order ++ [k]) inserted).1 = recent max (log ++ [k])
      ∧ ∀ k', k' ∈ (evict max (order ++ [k]) inserted).2.entries
        ↔ k' ∈ (evict max (order ++ [k]) inserted).1 := by
  subst horder
  have hnodup : (recent max log ++ [k]).Nodup := by
    refine List.nodup_append.mpr ⟨hspaced.nodup_recent, List.nodup_singleton _, ?_⟩
    intro a ha b hb heq
    exact hk (List.mem_singleton.mp hb ▸ heq ▸ ha)
  obtain ⟨hevicted, hset⟩ := evict_spec max hnodup fun k' => by
    rw [hinserted, List.mem_append, List.mem_singleton]
  refine ⟨hevicted.trans ?_, hset⟩
  rw [recent_concat log k]

/-- **Recording.**  A key is accepted when it is not among the last accepted ones. -/
theorem recordUnique_spec {log : List (PacketKey P)} {r : ReliableReceiver P}
    (h : Remembers log r) (source : P) (sequence : UInt64) :
    (⟨source, sequence⟩ ∈ recent r.config.maxDeliveredHistory log ∧
        r.recordUnique source sequence = (false, r)) ∨
    (⟨source, sequence⟩ ∉ recent r.config.maxDeliveredHistory log ∧
        (r.recordUnique source sequence).1 = true ∧
        (r.recordUnique source sequence).2.config = r.config ∧
        Remembers (log ++ [⟨source, sequence⟩]) (r.recordUnique source sequence).2) := by
  have hmem : r.delivered.contains ⟨source, sequence⟩ = true ↔
      ⟨source, sequence⟩ ∈ recent r.config.maxDeliveredHistory log := by
    rw [BoundedLookupSet.contains, decide_eq_true_iff, h.entries, h.order]
  by_cases hzero : r.config.maxDeliveredHistory = 0
  · -- nothing is remembered
    have hnone : ∀ log : List (PacketKey P), recent r.config.maxDeliveredHistory log = [] := by
      intro log
      rw [hzero, recent, Nat.sub_zero, List.drop_length]
    have hnot : ⟨source, sequence⟩ ∉ recent r.config.maxDeliveredHistory log := by
      rw [hnone]
      exact List.not_mem_nil
    rw [recordUnique, if_pos hzero]
    exact .inr ⟨hnot, rfl, rfl, h.order.trans ((hnone _).trans (hnone _).symm), h.entries,
      h.spaced.concat hnot⟩
  · rw [recordUnique, if_neg hzero]
    by_cases hseen : r.delivered.contains ⟨source, sequence⟩ = true
    · exact .inl ⟨hmem.mp hseen, if_pos hseen⟩
    · have hnot := mt hmem.mpr hseen
      have hinserted : ∀ k, k ∈ (r.delivered.insert ⟨source, sequence⟩).entries
          ↔ k ∈ r.deliveredOrder ∨ k = ⟨source, sequence⟩ := fun k => by
        rw [BoundedLookupSet.entries_insert, Finset.mem_insert, h.entries, or_comm]
      obtain ⟨horder, hentries⟩ := evict_window h.order hinserted h.spaced hnot
      dsimp only
      rw [if_neg hseen]
      exact .inr ⟨hnot, rfl, rfl, horder, hentries, h.spaced.concat hnot⟩

/-! ## Handling a data frame -/

variable (link : ReliableLink O R) (sink : TransportSink T (ReliableOutbound P O) E)

omit [LinearOrder P] in
/-- The acknowledgement of a data frame. -/
def ackPacket (source : P) (route : R) (sequence : UInt64) : ReliableOutbound P O :=
  ⟨link.ackOrigin route, source, ReliableFrame.header link.magic reliableKindAck sequence⟩

/-- A data frame whose acknowledgement the transport rejects changes nothing. -/
lemma handleData_rejected {r : ReliableReceiver P} {t t' : T} {source : P} {route : R}
    {sequence : UInt64} {error : E}
    (hsend : sink.send t (ackPacket link source route sequence) = (.error error, t'))
    (payload : List UInt8) :
    r.handleData link sink t source route sequence payload
      = (.error (.transport error), r, t') := by
  rw [ackPacket] at hsend
  simp only [handleData, sendAck, ReliableFrame.encode, hsend]

/-- **A data frame whose acknowledgement the transport accepts** is delivered when its key is not
remembered, and dropped otherwise. -/
lemma handleData_accepted {log : List (PacketKey P)} {r : ReliableReceiver P}
    (h : Remembers log r) {t t' : T} {source : P} {route : R} {sequence : UInt64}
    (hsend : sink.send t (ackPacket link source route sequence) = (.ok (), t'))
    (payload : List UInt8) :
    ∃ r', r'.config = r.config ∧
      ((⟨source, sequence⟩ ∈ recent r.config.maxDeliveredHistory log ∧ Remembers log r' ∧
          r.handleData link sink t source route sequence payload = (.ok none, r', t')) ∨
        (⟨source, sequence⟩ ∉ recent r.config.maxDeliveredHistory log ∧
          Remembers (log ++ [⟨source, sequence⟩]) r' ∧
          r.handleData link sink t source route sequence payload
            = (.ok (some ⟨source, route, payload⟩), r', t'))) := by
  have hacked : Remembers log
      { r with stats := { r.stats with acksSent := usizeSaturatingAdd r.stats.acksSent 1 } } :=
    ⟨h.order, h.entries, h.spaced⟩
  rw [ackPacket] at hsend
  simp only [handleData, sendAck, ReliableFrame.encode, hsend]
  rcases recordUnique_spec hacked source sequence with ⟨hmem, hrecord⟩ | ⟨hnot, hnew, hconfig, hrem⟩
  · rw [hrecord]
    exact ⟨{ r with stats := { r.stats with
        acksSent := usizeSaturatingAdd r.stats.acksSent 1
        duplicatesSuppressed := usizeSaturatingAdd r.stats.duplicatesSuppressed 1 } }, rfl,
      .inl ⟨hmem, ⟨h.order, h.entries, h.spaced⟩, rfl⟩⟩
  · generalize recordUnique _ source sequence = result at hnew hconfig hrem ⊢
    obtain ⟨unique, r'⟩ := result
    subst hnew
    exact ⟨{ r' with stats := { r'.stats with
        dataDelivered := usizeSaturatingAdd r'.stats.dataDelivered 1 } },
      hconfig, .inr ⟨hnot, ⟨hrem.order, hrem.entries, hrem.spaced⟩, rfl⟩⟩

end ReliableReceiver

/-! ## Inbound packets -/

namespace ReliableEndpoint

variable {link : ReliableLink O R} (sink : TransportSink T (ReliableOutbound P O) E)
  (endpoint : ReliableEndpoint P O) (transport : T) (packet : ReliableInbound P R)

/-- A data frame goes to the receiver, with the payload that was sent. -/
lemma handleInbound_data {sequence : UInt64} {payload : List UInt8}
    (h : ReliableFrame.decode link.magic packet.bytes = .ok (.data sequence payload)) :
    endpoint.handleInbound link sink transport packet
      = let (result, receiver, transport) := endpoint.receiver.handleData link sink transport
          packet.source packet.route sequence payload
        (result, { endpoint with receiver := receiver }, transport) := by
  obtain ⟨pre, hbytes⟩ := ReliableFrame.eq_append_of_decode h
  have hpayload : ReliableFrame.reusePayload packet.bytes (packet.bytes.length - payload.length)
      payload.length = payload := by
    rw [hbytes, ReliableFrame.reusePayload_eq]
  simp only [handleInbound, h, hpayload]

/-- An acknowledgement goes to the sender. -/
lemma handleInbound_ack {sequence : UInt64}
    (h : ReliableFrame.decode link.magic packet.bytes = .ok (.ack sequence)) :
    endpoint.handleInbound link sink transport packet
      = (.ok none,
        { endpoint with sender := (endpoint.sender.acknowledge packet.source sequence).2 },
        transport) := by
  simp only [handleInbound, h]

/-- What does not decode is reported and changes nothing. -/
lemma handleInbound_undecodable {error : ReliableDecodeError}
    (h : ReliableFrame.decode link.magic packet.bytes = .error error) :
    endpoint.handleInbound link sink transport packet
      = (.error (.decode error), endpoint, transport) := by
  simp only [handleInbound, h]

end ReliableEndpoint

end SectorSync
