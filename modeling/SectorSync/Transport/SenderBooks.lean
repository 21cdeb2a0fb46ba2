import SectorSync.Transport.ReliableSender

/-!
# The books of the reliable sender

The counters of a sender are saturated: `Balances` says of which numbers of packets, and that every
packet sent was acknowledged, has timed out or is in flight.  A run keeps the balance while the
sequence numbers last, and the counters themselves balance as long as the packets sent to all peers
together fit a counter.

`reliableSender_bookkeeping` puts that beside the invariant of the sender.  Sequence numbers are
counted for each peer and the statistics for all of them, so that the numbers can last when the
counters do not (`counters_do_not_balance`).
-/

namespace SectorSync

open Machine

variable {P O R T E : Type} [LinearOrder P]

namespace ReliableSender

/-! ## The balance -/

/-- The counters of a sender that sent so many packets, of which so many were acknowledged and so
many timed out. -/
structure Balances (s : ReliableSender P O) (sent acked expired : ℕ) : Prop where
  dataSent : s.stats.dataSent = min sent usizeMax
  acksReceived : s.stats.acksReceived = min acked usizeMax
  timedOut : s.stats.timedOut = min expired usizeMax
  sent_eq : sent = acked + expired + s.inFlight.size

variable {link : ReliableLink O R} {sink : TransportSink T (ReliableOutbound P O) E}
  {s s' : ReliableSender P O} {sent acked expired : ℕ}

lemma balances_new (config : ReliableConfig) : Balances (new config : ReliableSender P O) 0 0 0 :=
  ⟨rfl, rfl, rfl, rfl⟩

/-- The balance is one of three counters and the number of packets in flight. -/
lemma Balances.congr (h : Balances s sent acked expired)
    (hsent : s'.stats.dataSent = s.stats.dataSent)
    (hacks : s'.stats.acksReceived = s.stats.acksReceived)
    (hout : s'.stats.timedOut = s.stats.timedOut) (hsize : s'.inFlight.size = s.inFlight.size) :
    Balances s' sent acked expired where
  dataSent := hsent.trans h.dataSent
  acksReceived := hacks.trans h.acksReceived
  timedOut := hout.trans h.timedOut
  sent_eq := by
    rw [hsize]
    exact h.sent_eq

/-- Counters below their limit balance. -/
lemma Balances.counters_balance (h : Balances s sent acked expired)
    (hfits : sent ≤ usizeMax) :
    s.stats.dataSent = s.stats.acksReceived + s.stats.timedOut + s.inFlight.size := by
  have hsent := h.sent_eq
  rw [h.dataSent, h.acksReceived, h.timedOut, Nat.min_eq_left hfits,
    Nat.min_eq_left (by omega), Nat.min_eq_left (by omega)]
  exact hsent

/-- A new packet. -/
lemma Balances.recordSent (h : Balances s sent acked expired)
    {packet : ReliableOutbound P O} {sequence : UInt64} (nowTick : UInt64)
    (hnew : ⟨packet.peer, sequence⟩ ∉ s.inFlight) :
    Balances (s.recordSent packet sequence nowTick) (sent + 1) acked expired := by
  rw [recordSent_eq hnew]
  refine ⟨?_, h.acksReceived, h.timedOut, ?_⟩
  · show usizeSaturatingAdd s.stats.dataSent 1 = _
    rw [h.dataSent, usizeSaturatingAdd_min]
  · show sent + 1 = acked + expired + (s.inFlight.insert _ _).size
    rw [Finmap.size_insert_of_notMem _ hnew, h.sent_eq]
    omega

/-- A packet that exhausted its attempts. -/
lemma Balances.timeOut (h : Balances s sent acked expired) {k : PacketKey P}
    {packet : InFlightReliablePacket P O} (hlook : s.inFlight.lookup k = some packet) :
    Balances (s.timeOut k) sent acked (expired + 1) := by
  have hsize := Finmap.size_erase_of_mem (Finmap.mem_iff.mpr ⟨packet, hlook⟩)
  have hsent := h.sent_eq
  rw [ReliableSender.timeOut, removeInFlight_some hlook]
  refine ⟨h.dataSent, h.acksReceived, ?_, ?_⟩
  · show usizeSaturatingAdd s.stats.timedOut 1 = _
    rw [h.timedOut, usizeSaturatingAdd_min]
  · show sent = acked + (expired + 1) + (s.inFlight.erase k).size
    omega

lemma stats_compact (s : ReliableSender P O) : s.compactRetryDeadlinesIfStale.stats = s.stats := by
  unfold compactRetryDeadlinesIfStale
  split_ifs
  · rfl
  · rfl

/-- An acknowledged packet. -/
lemma Balances.removeAcknowledged (h : Balances s sent acked expired) {k : PacketKey P}
    {packet : InFlightReliablePacket P O} (hlook : s.inFlight.lookup k = some packet) :
    Balances (s.acknowledge k.peer k.sequence).2 sent (acked + 1) expired := by
  have hsize := Finmap.size_erase_of_mem (Finmap.mem_iff.mpr ⟨packet, hlook⟩)
  have hsent := h.sent_eq
  rw [ReliableSender.acknowledge, removeInFlight_some hlook]
  refine ⟨?_, ?_, ?_, ?_⟩
  · rw [stats_compact]
    exact h.dataSent
  · rw [stats_compact]
    show usizeSaturatingAdd s.stats.acksReceived 1 = _
    rw [h.acksReceived, usizeSaturatingAdd_min]
  · rw [stats_compact]
    exact h.timedOut
  · rw [inFlight_compact]
    show sent = acked + 1 + expired + (s.inFlight.erase k).size
    omega

/-! ## Operations and runs -/

/-- A sender that made at most so many packets of its own. -/
def InBalance (sends : ℕ) (s : ReliableSender P O) : Prop :=
  ∃ sent acked expired, Balances s sent acked expired ∧ sent ≤ sends

variable {sends : ℕ}

lemma InBalance.congr (h : InBalance sends s) (hstats : s'.stats.dataSent = s.stats.dataSent)
    (hacks : s'.stats.acksReceived = s.stats.acksReceived)
    (hout : s'.stats.timedOut = s.stats.timedOut) (hsize : s'.inFlight.size = s.inFlight.size) :
    InBalance sends s' := by
  obtain ⟨sent, acked, expired, hbalances, hle⟩ := h
  exact ⟨sent, acked, expired, hbalances.congr hstats hacks hout hsize, hle⟩

/-- An acknowledgement. -/
lemma InBalance.acknowledge (h : InBalance sends s) (source : P) (sequence : UInt64) :
    InBalance sends (s.acknowledge source sequence).2 := by
  cases hlook : s.inFlight.lookup ⟨source, sequence⟩ with
  | none =>
      rw [ReliableSender.acknowledge, removeInFlight_none hlook]
      exact h
  | some packet =>
      obtain ⟨sent, acked, expired, hbalances, hle⟩ := h
      exact ⟨sent, _, expired, hbalances.removeAcknowledged hlook, hle⟩

/-- A retry pass, whether it ends or fails on the way. -/
lemma InBalance.retryDueInto (h : InBalance sends s) (transport : T) (nowTick : UInt64)
    (scratch : ReliableRetryScratch P) :
    InBalance sends (ReliableSender.retryDueInto link sink s transport nowTick scratch).2.1 := by
  have hpop : InBalance sends { s with
      retryDeadlines := (s.retryDeadlines.popWhile fun entry =>
        decide (entry.deadline ≤ nowTick)).2 } := h.congr rfl rfl rfl rfl
  refine retryEntries_rule sink (fun _ s _ => InBalance sends s) ?_ ?_ ?_ ?_ hpop _
  · exact fun entry rest s t h _ => h
  · rintro entry rest s t packet ⟨sent, acked, expired, hbalances, hle⟩ hlook
    exact ⟨sent, acked, _, hbalances.timeOut hlook, hle⟩
  · intro entry rest s t t' packet h _ _ _
    refine h.congr rfl rfl rfl ?_
    show (Finmap.modify _ _ _).size = _
    rw [Finmap.size, Finmap.keys_modify]
    rfl
  · exact fun entry rest s t t' packet error h _ => h.congr rfl rfl rfl rfl

/-- A new packet, accepted or not. -/
lemma InBalance.send {t : T} {log : List (ReliableOutbound P O)} (h : InBalance sends s)
    (inv : SenderInv link [] s log) (packet : ReliableOutbound P O) (nowTick : UInt64) :
    InBalance (sends + 1)
      (ReliableSender.send link sink.logged s (t, log) packet nowTick).2.1 := by
  obtain ⟨sent, acked, expired, hbalances, hle⟩ := h
  have hkeep : InBalance (sends + 1) s := ⟨sent, acked, expired, hbalances, by omega⟩
  rcases send_cases link sink s (t, log) packet nowTick with
    ⟨error, s', transport, hsend, rfl | rfl, -⟩ | ⟨bytes, transport, hsend, -, -, -⟩
  · rw [hsend]
    exact hkeep
  · rw [hsend]
    exact hkeep.congr rfl rfl rfl rfl
  · have hnew : ⟨packet.peer, s.nextFor packet.peer⟩ ∉ s.inFlight := by
      intro hmem
      obtain ⟨stored, hstored⟩ := Finmap.mem_iff.mp hmem
      exact lt_irrefl _ (inv.fresh _ stored hstored)
    have hallocated : Balances (s.allocateSequence packet.peer).2 sent acked expired :=
      hbalances.congr rfl rfl rfl rfl
    rw [hsend]
    exact ⟨sent + 1, acked, expired, hallocated.recordSent nowTick hnew, by omega⟩

/-- Number of sends to all peers. -/
def sendsOf (ops : List (Op P O)) : ℕ :=
  ops.countP fun op =>
    match op with
    | .send _ _ => true
    | _ => false

/-- **The run lemma.** -/
lemma inBalance_execute (link : ReliableLink O R) (sink : TransportSink T (ReliableOutbound P O) E)
    (config : ReliableConfig) (transport : T) (ops : List (Op P O))
    (hsends : ∀ peer, sendsTo peer ops < 2 ^ 64 - 1) :
    InBalance (sendsOf ops)
      (execute (ReliableSender.step link sink) (new config, transport, []) ops).1 := by
  induction ops using List.reverseRecOn with
  | nil => exact ⟨0, 0, 0, balances_new config, le_rfl⟩
  | append_singleton ops op ih =>
      have hfirst : ∀ peer, sendsTo peer ops < 2 ^ 64 - 1 := fun peer =>
        lt_of_le_of_lt (by rw [sendsTo_append]; exact Nat.le_add_right _ _) (hsends peer)
      have inv := (senderInv_execute link sink config transport ops hfirst).1
      have h := ih hfirst
      rw [execute_concat]
      generalize execute (ReliableSender.step link sink) (new config, transport, []) ops = state
        at inv h ⊢
      obtain ⟨s, t, log⟩ := state
      have hcount : sendsOf (ops ++ [op]) = sendsOf ops + sendsOf [op] := List.countP_append
      rw [hcount]
      cases op with
      | send packet nowTick => exact h.send inv packet nowTick
      | acknowledge ackSource sequence => exact h.acknowledge ackSource sequence
      | retryDueInto nowTick scratch => exact h.retryDueInto (t, log) nowTick scratch

/-! ## The books -/

/-- What the books of a sender say when the transport has accepted `log`. -/
structure Bookkeeping (magic : List UInt8) (config : ReliableConfig) (s : ReliableSender P O)
    (log : List (ReliableOutbound P O)) : Prop where
  /-- The counter of a peer is the number of packets in flight to it. -/
  counted : ∀ peer, s.inFlightFor peer
    = (s.inFlight.keys.filter fun k => k.peer = peer).card
  window : ∀ peer, s.inFlightFor peer ≤ config.maxInFlightPerPeer
  /-- Every packet in flight has its current deadline in the heap. -/
  scheduled : ∀ k packet, s.inFlight.lookup k = some packet →
    ⟨packet.lastSentTick.saturatingAdd config.retryAfterTicks, packet.peer, packet.sequence⟩
      ∈ s.retryDeadlines
  /-- No packet is accepted by the transport more often than its attempts allow. -/
  transmitted : ∀ k, transmissions magic log k ≤ max 1 config.maxAttempts.toNat

/-- The counters of a sender account for every packet it sent. -/
def CountersBalance (s : ReliableSender P O) : Prop :=
  s.stats.dataSent = s.stats.acksReceived + s.stats.timedOut + s.inFlight.size

/-- **Bookkeeping.**  Over every run of sends, acknowledgements and retry passes, with any ticks
and any answers of the transport, the books of the sender are in order, as long as the sequence
numbers of every peer last; and its counters balance as long as the sends to all peers together do
not exceed the largest value of a counter. -/
theorem reliableSender_bookkeeping (link : ReliableLink O R)
    (sink : TransportSink T (ReliableOutbound P O) E) (config : ReliableConfig) (transport : T)
    (ops : List (Op P O)) (hsends : ∀ peer, sendsTo peer ops < 2 ^ 64 - 1) :
    Bookkeeping link.magic config
      (execute (ReliableSender.step link sink) (new config, transport, []) ops).1
      (execute (ReliableSender.step link sink) (new config, transport, []) ops).2.2
    ∧ (sendsOf ops ≤ usizeMax → CountersBalance
        (execute (ReliableSender.step link sink) (new config, transport, []) ops).1) := by
  obtain ⟨inv, hconfig, -⟩ := senderInv_execute link sink config transport ops hsends
  obtain ⟨sent, acked, expired, hbalances, hle⟩ :=
    inBalance_execute link sink config transport ops hsends
  generalize execute (ReliableSender.step link sink) (new config, transport, []) ops = final
    at inv hconfig hbalances ⊢
  refine ⟨⟨inv.counted, fun peer => ?_, fun k packet h => ?_, fun k => ?_⟩, fun hfits => ?_⟩
  · rw [← hconfig]
    exact inv.window peer
  · obtain ⟨hpeer, hsequence⟩ := inv.keyed k packet h
    have hmem := (inv.scheduled k packet h).resolve_right List.not_mem_nil
    rw [hpeer, hsequence, ← hconfig]
    exact hmem
  · rw [← hconfig]
    exact inv.bounded k
  · exact hbalances.counters_balance (hle.trans hfits)

/-- Three sends, of which the second fails, a retry that fails, and an acknowledgement. -/
def failures : List (Op StationId StationId) :=
  [.send ⟨⟨1⟩, ⟨2⟩, [7]⟩ 0, .send ⟨⟨1⟩, ⟨2⟩, [8]⟩ 0, .send ⟨⟨1⟩, ⟨3⟩, [9]⟩ 1,
    .retryDueInto 5 ⟨[]⟩, .acknowledge ⟨2⟩ 1, .retryDueInto 6 ⟨[]⟩]

/-- The books of a station sender after these failures. -/
theorem reliableSender_bookkeeping_failures :
    let final := execute (ReliableSender.step stationLink TransportSink.scripted)
      ((new .default : ReliableStationSender), [true, false, true, false], []) failures
    Bookkeeping stationLink.magic ReliableConfig.default final.1 final.2.2
      ∧ CountersBalance final.1 := by
  have h := reliableSender_bookkeeping stationLink TransportSink.scripted .default
    [true, false, true, false] failures fun _ => lt_of_le_of_lt List.countP_le_length (by decide)
  exact ⟨h.1, h.2 (by decide)⟩

/-! ## Counters that do not balance -/

/-- Packets to a peer, each acknowledged before the next. -/
def exchanges (origin : O) (peer : P) (n : ℕ) : List (Op P O) :=
  (List.range n).flatMap fun i =>
    [.send ⟨origin, peer, []⟩ 0, .acknowledge peer (UInt64.ofNat (i + 1))]

omit [LinearOrder P] in
lemma exchanges_succ (origin : O) (peer : P) (n : ℕ) :
    exchanges origin peer (n + 1) = exchanges origin peer n
      ++ [.send ⟨origin, peer, []⟩ 0, .acknowledge peer (UInt64.ofNat (n + 1))] := by
  rw [exchanges, List.range_succ, List.flatMap_append, List.flatMap_singleton]
  rfl

lemma sendsTo_exchanges (peer : P) (origin : O) (peer' : P) (n : ℕ) :
    sendsTo peer (exchanges origin peer' n) = if peer = peer' then n else 0 := by
  induction n with
  | zero => simp [exchanges, sendsTo]
  | succ n ih =>
      rw [exchanges_succ, sendsTo_append, ih]
      by_cases hpeer : peer = peer'
      · simp [sendsTo, hpeer]
      · simp [sendsTo, hpeer, Ne.symm hpeer]

/-- A sender with nothing in flight, after so many packets to each peer and so many in all. -/
structure Idle (done : P → ℕ) (sent : ℕ) (s : ReliableSender P O) : Prop where
  config : s.config = .default
  nothing : s.inFlight.size = 0
  none : ∀ peer, s.inFlightFor peer = 0
  next : ∀ peer, (s.nextFor peer).toNat = done peer + 1
  balances : Balances s sent sent 0

lemma idle_new : Idle (fun _ => 0) 0 (new .default : ReliableSender P O) where
  config := rfl
  nothing := rfl
  none _ := rfl
  next _ := rfl
  balances := balances_new .default

/-- The sender after one more packet to a peer. -/
def sentOne (s : ReliableSender P O) (origin : O) (peer : P) : ReliableSender P O :=
  (s.allocateSequence peer).2.recordSent ⟨origin, peer, []⟩ (s.nextFor peer) 0

section Idle

variable {done : P → ℕ} (origin : O)

lemma Idle.not_mem (h : Idle done sent s) (k : PacketKey P) : k ∉ s.inFlight := by
  have hkeys : s.inFlight.keys = ∅ := Finset.card_eq_zero.mp h.nothing
  rw [← Finmap.mem_keys, hkeys]
  exact Finset.notMem_empty k

/-- A transport that accepts everything accepts the packet. -/
lemma Idle.step_send (h : Idle done sent s) (link : ReliableLink O R)
    (log : List (ReliableOutbound P O)) (peer : P) :
    ∃ log', ReliableSender.step link TransportSink.scripted (s, [], log)
      (.send ⟨origin, peer, []⟩ 0) = (s.sentOne origin peer, [], log') := by
  have hwindow : ¬ s.inFlightFor peer ≥ s.config.maxInFlightPerPeer := by
    rw [h.none, h.config]
    decide
  have hframe : ∀ sequence, ReliableFrame.encodeData link.magic sequence []
      = .ok (ReliableFrame.header link.magic reliableKindData sequence ++ Bytes.toLe 4 0 ++ []) :=
    fun _ => if_pos (by decide)
  refine ⟨log ++ [⟨origin, peer, ReliableFrame.header link.magic reliableKindData (s.nextFor peer)
    ++ Bytes.toLe 4 0 ++ []⟩], ?_⟩
  simp only [ReliableSender.step, ReliableSender.send, validatePayload, hwindow, sendDataFrame,
    hframe, TransportSink.logged, TransportSink.scripted, List.length_nil, Nat.not_lt_zero,
    gt_iff_lt, if_false]
  rfl

/-- What one more packet leaves in flight. -/
lemma Idle.flight_sentOne (h : Idle done sent s) (peer : P) :
    (s.sentOne origin peer).inFlight = s.inFlight.insert ⟨peer, s.nextFor peer⟩
        ⟨origin, peer, s.nextFor peer, [], 0, 0, 1⟩
      ∧ (s.sentOne origin peer).inFlightByPeer = Tally.increment s.inFlightByPeer peer := by
  rw [sentOne, recordSent_eq (s := (s.allocateSequence peer).2) (h.not_mem _)]
  exact ⟨rfl, rfl⟩

lemma Idle.balances_sentOne (h : Idle done sent s) (peer : P) :
    Balances (s.sentOne origin peer) (sent + 1) sent 0 := by
  have hallocated : Balances (s.allocateSequence peer).2 sent sent 0 :=
    h.balances.congr rfl rfl rfl rfl
  exact hallocated.recordSent 0 (h.not_mem _)

lemma inFlightByPeer_compact (s : ReliableSender P O) :
    s.compactRetryDeadlinesIfStale.inFlightByPeer = s.inFlightByPeer := by
  unfold compactRetryDeadlinesIfStale
  split_ifs
  · rfl
  · rfl

/-- The packet is acknowledged, and the sender is idle again. -/
lemma Idle.acknowledge (h : Idle done sent s) (peer : P) (hlast : done peer + 1 < 2 ^ 64 - 1) :
    Idle (Function.update done peer (done peer + 1)) (sent + 1)
      ((s.sentOne origin peer).acknowledge peer (s.nextFor peer)).2 := by
  obtain ⟨hflight, hcounts⟩ := h.flight_sentOne origin peer
  have hlook : (s.sentOne origin peer).inFlight.lookup ⟨peer, s.nextFor peer⟩
      = some ⟨origin, peer, s.nextFor peer, [], 0, 0, 1⟩ := by
    rw [hflight, Finmap.lookup_insert]
  have hnumbers := sameNumbers_acknowledge (s.sentOne origin peer) peer (s.nextFor peer)
  have hrecorded := sameNumbers_recordSent (s.allocateSequence peer).2 ⟨origin, peer, []⟩
    (s.nextFor peer) 0
  have hbalances := (h.balances_sentOne origin peer).removeAcknowledged hlook
  constructor
  · exact (hnumbers.config.trans hrecorded.config).trans h.config
  · have hsent := hbalances.sent_eq
    dsimp only at hsent
    omega
  · intro peer'
    rw [ReliableSender.acknowledge, removeInFlight_some hlook, inFlightFor, inFlightByPeer_compact]
    show Tally.get (Tally.decrement (s.sentOne origin peer).inFlightByPeer peer) peer' = 0
    have hnone : ∀ q, Tally.get s.inFlightByPeer q = 0 := h.none
    rw [hcounts, Tally.get_decrement, Tally.get_increment, Tally.get_increment, if_pos rfl, hnone]
    split_ifs
    · rfl
    · exact hnone peer'
  · intro peer'
    rw [hnumbers.nextFor, sentOne, hrecorded.nextFor, nextFor_allocateSequence,
      Function.update_apply]
    split_ifs
    · rw [UInt64.toNat_saturatingAdd, h.next]
      exact Nat.min_eq_left hlast
    · exact h.next peer'
  · exact hbalances

/-- **Exchanges.**  After packets to a peer that each were acknowledged, the sender is idle. -/
lemma Idle.exchanges (h : Idle done sent s) (link : ReliableLink O R)
    (log : List (ReliableOutbound P O)) (peer : P) (hfirst : done peer = 0) {n : ℕ}
    (hlast : n < 2 ^ 64 - 1) :
    ∃ s' log', execute (ReliableSender.step link TransportSink.scripted) (s, [], log)
        (ReliableSender.exchanges origin peer n) = (s', [], log')
      ∧ Idle (Function.update done peer n) (sent + n) s' := by
  induction n with
  | zero =>
      have hsame : Function.update done peer 0 = done := by
        rw [← hfirst, Function.update_eq_self]
      exact ⟨s, log, rfl, hsame.symm ▸ h⟩
  | succ n ih =>
      obtain ⟨s', log', hrun, hidle⟩ := ih (by omega)
      obtain ⟨log'', hsend⟩ := hidle.step_send origin link log' peer
      have hdone : Function.update done peer n peer = n := Function.update_self _ _ _
      have hsequence : UInt64.ofNat (n + 1) = s'.nextFor peer := by
        have hnext := hidle.next peer
        rw [hdone] at hnext
        rw [← hnext, UInt64.ofNat_toNat]
      have hacked := hidle.acknowledge origin peer (by rw [hdone]; exact hlast)
      rw [hdone, Function.update_idem] at hacked
      refine ⟨_, log'', ?_, hacked⟩
      rw [exchanges_succ, execute_append, hrun, execute_cons, hsend, execute_cons, execute_nil,
        hsequence]
      rfl

/-- The balance after so many packets to a peer and so many to another, each acknowledged before the
next, and a last one to the other. -/
lemma balances_twoPeers (link : ReliableLink O R) {peer peer' : P} (hne : peer' ≠ peer) {n m : ℕ}
    (hn : n < 2 ^ 64 - 1) (hm : m < 2 ^ 64 - 1) :
    Balances (execute (ReliableSender.step link TransportSink.scripted)
      ((new .default : ReliableSender P O), [], [])
      (ReliableSender.exchanges origin peer n ++ ReliableSender.exchanges origin peer' m
        ++ [.send ⟨origin, peer', []⟩ 0])).1 (n + m + 1) (n + m) 0 := by
  have hstart : Idle (fun _ => 0) 0 (new .default : ReliableSender P O) := idle_new
  obtain ⟨s, log, hrun, hidle⟩ := hstart.exchanges origin link [] peer rfl hn
  have hfirst : Function.update (fun _ => 0) peer n peer' = 0 := Function.update_of_ne hne _ _
  obtain ⟨s', log', hrun', hidle'⟩ := hidle.exchanges origin link log peer' hfirst hm
  obtain ⟨log'', hsend⟩ := hidle'.step_send origin link log' peer'
  have hbalances := hidle'.balances_sentOne origin peer'
  rw [Nat.zero_add] at hbalances
  rw [execute_append, execute_append, hrun, hrun', execute_cons, hsend, execute_nil]
  exact hbalances

end Idle

/-- Packets of station 1 to stations 2 and 3. -/
def manySends (n m : ℕ) : List (Op StationId StationId) :=
  exchanges ⟨1⟩ ⟨2⟩ n ++ exchanges ⟨1⟩ ⟨3⟩ m ++ [.send ⟨⟨1⟩, ⟨3⟩, []⟩ 0]

/-- The sender of station 1 after these packets. -/
def manySent (n m : ℕ) : ReliableStationSender :=
  (execute (ReliableSender.step stationLink TransportSink.scripted)
    ((new .default : ReliableStationSender), [], []) (manySends n m)).1

lemma balances_manySent {n m : ℕ} (hn : n < 2 ^ 64 - 1) (hm : m < 2 ^ 64 - 1) :
    Balances (manySent n m) (n + m + 1) (n + m) 0 := by
  have hne : (⟨3⟩ : StationId) ≠ ⟨2⟩ := by decide
  rw [manySent, manySends]
  exact balances_twoPeers _ stationLink hne hn hm

lemma sendsTo_manySends (peer : StationId) (n m : ℕ) :
    sendsTo peer (manySends n m) ≤ max n (m + 1) := by
  have hlast : sendsTo peer [Op.send (⟨⟨1⟩, ⟨3⟩, []⟩ : StationOutboundPacket) 0]
      = if peer = ⟨3⟩ then 1 else 0 := by
    by_cases hpeer : peer = ⟨3⟩
    · simp [sendsTo, hpeer]
    · simp [sendsTo, hpeer, Ne.symm hpeer]
  rw [manySends, sendsTo_append, sendsTo_append, sendsTo_exchanges, sendsTo_exchanges, hlast]
  by_cases htwo : peer = ⟨2⟩
  · have hthree : peer ≠ ⟨3⟩ := by
      rw [htwo]
      decide
    rw [if_pos htwo, if_neg hthree, if_neg hthree]
    exact le_max_left _ _
  · rw [if_neg htwo]
    split_ifs <;> omega

/-- Counters that are full do not tell of the packet in flight. -/
lemma not_countersBalance_manySent {n m : ℕ} (hn : n < 2 ^ 64 - 1) (hm : m < 2 ^ 64 - 1)
    (hfull : usizeMax ≤ n + m) : ¬ CountersBalance (manySent n m) := by
  have hbalances := balances_manySent hn hm
  have hsent := hbalances.sent_eq
  intro hbalance
  rw [CountersBalance, hbalances.dataSent, hbalances.acksReceived, hbalances.timedOut,
    Nat.min_eq_right hfull, Nat.min_eq_right (by omega)] at hbalance
  omega

/-- Two peers that are sent `2 ^ 63` packets each: the counters of what was sent and of what was
acknowledged are at their largest value, and one packet is in flight. -/
theorem counters_do_not_balance :
    (∀ peer, sendsTo peer (manySends (2 ^ 63) (2 ^ 63 - 1)) < 2 ^ 64 - 1)
      ∧ ¬ CountersBalance (manySent (2 ^ 63) (2 ^ 63 - 1)) := by
  have hfull : usizeMax ≤ 2 ^ 63 + (2 ^ 63 - 1) := by decide
  exact ⟨fun peer => (sendsTo_manySends peer _ _).trans_lt (by omega),
    not_countersBalance_manySent (by omega) (by omega) hfull⟩

end ReliableSender

end SectorSync
