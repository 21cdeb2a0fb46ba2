import SectorSync.Base.Run
import SectorSync.Transport.ReliableLink

/-!
# Bookkeeping of the reliable sender

The map of packets in flight, the counters beside it, the heap of deadlines and the packets the
transport accepted, over every run of a sender.  `SenderInv` is the invariant in the middle of a
retry pass: `due` are the entries popped from the heap and not yet looked at, so a packet in
flight has its current deadline in the heap or in `due`.  There is one lemma for each thing a
sender does to a packet, `retryEntries_rule` runs them over a pass, and
`senderInv_execute` over a run.
-/

namespace SectorSync

open Machine

variable {P O R T E : Type} [LinearOrder P]

namespace ReliableSender

/-- The sequence number the next packet to a peer gets. -/
def nextFor (s : ReliableSender P O) (peer : P) : UInt64 := (s.nextSequence.lookup peer).getD 1

/-- The current deadline of a packet in flight. -/
def deadlineOf (s : ReliableSender P O) (k : PacketKey P) (packet : InFlightReliablePacket P O) :
    RetryDeadline P :=
  ⟨s.dueTick packet, k.peer, k.sequence⟩

/-! ## Transmissions -/

/-- The sequence number of a data frame. -/
def dataSequence (magic bytes : List UInt8) : Option UInt64 :=
  match ReliableFrame.decode magic bytes with
  | .ok (.data sequence _) => some sequence
  | _ => none

/-- How often the accepted packets have a data frame of the key. -/
def transmissions (magic : List UInt8) (log : List (ReliableOutbound P O)) (k : PacketKey P) : ℕ :=
  log.countP fun packet =>
    decide (packet.peer = k.peer ∧ dataSequence magic packet.bytes = some k.sequence)

variable (link : ReliableLink O R) (sink : TransportSink T (ReliableOutbound P O) E)

/-- One more data frame counts for its own key. -/
lemma transmissions_concat (log : List (ReliableOutbound P O)) (origin : O) (peer : P)
    {sequence : UInt64} {payload bytes : List UInt8}
    (h : ReliableFrame.encodeData link.magic sequence payload = .ok bytes) (k : PacketKey P) :
    transmissions link.magic (log ++ [⟨origin, peer, bytes⟩]) k
      = transmissions link.magic log k + if k = ⟨peer, sequence⟩ then 1 else 0 := by
  have hdecode : dataSequence link.magic bytes = some sequence := by
    have hround : ReliableFrame.decode link.magic bytes = .ok (.data sequence payload) :=
      ReliableFrame.decode_encode link.length_magic h
    rw [dataSequence, hround]
  have hkey : (peer = k.peer ∧ some sequence = some k.sequence) ↔ k = ⟨peer, sequence⟩ := by
    cases k
    simp only [Option.some_inj, PacketKey.mk.injEq]
    exact and_congr eq_comm eq_comm
  rw [transmissions, List.countP_append, ← transmissions, List.countP_singleton, hdecode]
  simp only [hkey, decide_eq_true_eq]

omit [LinearOrder P] in
/-- A data frame the logged transport accepts is appended to the log. -/
lemma sendDataFrame_ok {transport transport' : T × List (ReliableOutbound P O)} {origin : O}
    {peer : P} {sequence : UInt64} {payload : List UInt8}
    (h : sendDataFrame link sink.logged transport origin peer sequence payload
      = (.ok (), transport')) :
    ∃ bytes, ReliableFrame.encodeData link.magic sequence payload = .ok bytes ∧
      transport'.2 = transport.2 ++ [⟨origin, peer, bytes⟩] := by
  unfold sendDataFrame TransportSink.logged at h
  cases hencode : ReliableFrame.encodeData link.magic sequence payload with
  | error error => simp [hencode] at h
  | ok bytes =>
      refine ⟨bytes, rfl, ?_⟩
      rcases hsend : sink.send transport.1 ⟨origin, peer, bytes⟩ with ⟨error | ⟨⟩, t⟩
      · simp [hencode, hsend] at h
      · simp only [hencode, hsend, Prod.mk.injEq, true_and] at h
        rw [← h]

omit [LinearOrder P] in
/-- A data frame that fails leaves the log. -/
lemma sendDataFrame_error {transport transport' : T × List (ReliableOutbound P O)} {origin : O}
    {peer : P} {sequence : UInt64} {payload : List UInt8} {error : ReliableError P E}
    (h : sendDataFrame link sink.logged transport origin peer sequence payload
      = (.error error, transport')) : transport'.2 = transport.2 := by
  unfold sendDataFrame TransportSink.logged at h
  cases hencode : ReliableFrame.encodeData link.magic sequence payload with
  | error error =>
      simp only [hencode, Prod.mk.injEq] at h
      rw [h.2]
  | ok bytes =>
      rcases hsend : sink.send transport.1 ⟨origin, peer, bytes⟩ with ⟨error | ⟨⟩, t⟩
      · simp only [hencode, hsend, Prod.mk.injEq] at h
        rw [← h.2]
      · simp [hencode, hsend] at h

/-- **What a send can do.**  It fails before or after taking a number, or it stores the packet
under the number it took and the transport has one more data frame. -/
lemma send_cases (s : ReliableSender P O) (transport : T × List (ReliableOutbound P O))
    (packet : ReliableOutbound P O) (nowTick : UInt64) :
    (∃ error s' transport',
      send link sink.logged s transport packet nowTick = (.error error, s', transport') ∧
      (s' = s ∨ s' = (s.allocateSequence packet.peer).2) ∧ transport'.2 = transport.2) ∨
    (∃ bytes transport',
      send link sink.logged s transport packet nowTick
        = (.ok (s.nextFor packet.peer), (s.allocateSequence packet.peer).2.recordSent packet
            (s.nextFor packet.peer) nowTick, transport') ∧
      s.inFlightFor packet.peer < s.config.maxInFlightPerPeer ∧
      ReliableFrame.encodeData link.magic (s.nextFor packet.peer) packet.bytes = .ok bytes ∧
      transport'.2 = transport.2 ++ [⟨packet.origin, packet.peer, bytes⟩]) := by
  unfold send
  cases s.validatePayload packet.bytes.length with
  | error error => exact .inl ⟨error, s, transport, rfl, .inl rfl, rfl⟩
  | ok _ =>
      dsimp only
      split_ifs with hwindow
      · exact .inl ⟨_, s, transport, rfl, .inl rfl, rfl⟩
      · rcases hsend : sendDataFrame link sink.logged transport packet.origin packet.peer
          (s.allocateSequence packet.peer).1 packet.bytes with ⟨error | ⟨⟩, transport'⟩
        · exact .inl ⟨error, _, transport', rfl, .inr rfl, sendDataFrame_error link sink hsend⟩
        · obtain ⟨bytes, hencode, hlog⟩ := sendDataFrame_ok link sink hsend
          exact .inr ⟨bytes, transport', rfl, not_le.mp hwindow, hencode, hlog⟩

/-! ## The invariant -/

/-- What holds in the middle of a retry pass with the entries `due` still to look at, when the
transport has accepted `log`. -/
structure SenderInv (due : List (RetryDeadline P)) (s : ReliableSender P O)
    (log : List (ReliableOutbound P O)) : Prop where
  keyed : ∀ k packet, s.inFlight.lookup k = some packet →
    packet.peer = k.peer ∧ packet.sequence = k.sequence
  counted : Tally.Counts PacketKey.peer s.inFlightByPeer s.inFlight
  window : ∀ peer, s.inFlightFor peer ≤ s.config.maxInFlightPerPeer
  scheduled : ∀ k packet, s.inFlight.lookup k = some packet →
    s.deadlineOf k packet ∈ s.retryDeadlines ∨ s.deadlineOf k packet ∈ due
  fresh : ∀ k packet, s.inFlight.lookup k = some packet → k.sequence < s.nextFor k.peer
  attempted : ∀ k packet, s.inFlight.lookup k = some packet →
    transmissions link.magic log k = packet.attempts.toNat
  unsent : ∀ k, s.nextFor k.peer ≤ k.sequence → transmissions link.magic log k = 0
  bounded : ∀ k, transmissions link.magic log k ≤ max 1 s.config.maxAttempts.toNat

variable {link} {due : List (RetryDeadline P)} {s : ReliableSender P O}
  {log : List (ReliableOutbound P O)}

lemma senderInv_new (config : ReliableConfig) :
    SenderInv link [] (new config : ReliableSender P O) [] where
  keyed k packet h := by simp [new] at h
  counted := Tally.counts_empty PacketKey.peer
  window peer := by simp [inFlightFor, new]
  scheduled k packet h := by simp [new] at h
  fresh k packet h := by simp [new] at h
  attempted k packet h := by simp [new] at h
  unsent k _ := rfl
  bounded k := Nat.zero_le _

/-! ## Sending -/

/-- Taking a sequence number moves the counter of the peer on. -/
lemma nextFor_allocateSequence (peer peer' : P) :
    (s.allocateSequence peer).2.nextFor peer'
      = if peer' = peer then (s.nextFor peer).saturatingAdd 1 else s.nextFor peer' := by
  rw [nextFor, allocateSequence, Finmap.lookup_insert_eq]
  split_ifs
  · rfl
  · rfl

lemma le_nextFor_allocateSequence (peer peer' : P) :
    s.nextFor peer' ≤ (s.allocateSequence peer).2.nextFor peer' := by
  rw [nextFor_allocateSequence]
  split_ifs with h
  · rw [h]
    exact UInt64.le_saturatingAdd _ _
  · exact le_refl _

/-- A sequence number that was taken and not sent. -/
lemma SenderInv.allocate (inv : SenderInv link due s log) (peer : P) :
    SenderInv link due (s.allocateSequence peer).2 log where
  keyed := inv.keyed
  counted := inv.counted
  window := inv.window
  scheduled := inv.scheduled
  fresh k packet h := (inv.fresh k packet h).trans_le (le_nextFor_allocateSequence peer k.peer)
  attempted := inv.attempted
  unsent k h := inv.unsent k ((le_nextFor_allocateSequence peer k.peer).trans h)
  bounded := inv.bounded

/-- The sender after a packet was accepted for the first time. -/
lemma recordSent_eq {packet : ReliableOutbound P O} {sequence nowTick : UInt64}
    (h : ⟨packet.peer, sequence⟩ ∉ s.inFlight) :
    s.recordSent packet sequence nowTick
      = { s with
          inFlight := s.inFlight.insert ⟨packet.peer, sequence⟩
            ⟨packet.origin, packet.peer, sequence, packet.bytes, nowTick, nowTick, 1⟩
          inFlightByPeer := Tally.increment s.inFlightByPeer packet.peer
          retryDeadlines := s.retryDeadlines.push
            ⟨nowTick.saturatingAdd s.config.retryAfterTicks, packet.peer, sequence⟩
          stats := { s.stats with dataSent := usizeSaturatingAdd s.stats.dataSent 1 } } := by
  simp only [recordSent, insertInFlight, if_neg h, scheduleRetry]

/-- **A new packet.**  It takes the next number of its peer, which no packet had before. -/
lemma SenderInv.recordSent (inv : SenderInv link due s log) {packet : ReliableOutbound P O}
    (nowTick : UInt64) (hwindow : s.inFlightFor packet.peer < s.config.maxInFlightPerPeer)
    (hnext : s.nextFor packet.peer < UInt64.maxValue) {bytes : List UInt8}
    (hencode : ReliableFrame.encodeData link.magic (s.nextFor packet.peer) packet.bytes
      = .ok bytes) :
    SenderInv link due
      ((s.allocateSequence packet.peer).2.recordSent packet (s.nextFor packet.peer) nowTick)
      (log ++ [⟨packet.origin, packet.peer, bytes⟩]) := by
  have hcount := transmissions_concat link log packet.origin packet.peer hencode
  have hnew : ⟨packet.peer, s.nextFor packet.peer⟩ ∉ s.inFlight := by
    intro hmem
    obtain ⟨stored, hstored⟩ := Finmap.mem_iff.mp hmem
    exact lt_irrefl _ (inv.fresh _ stored hstored)
  have hlt : s.nextFor packet.peer < (s.nextFor packet.peer).saturatingAdd 1 :=
    UInt64.lt_saturatingAdd_one_iff.mpr ⟨le_refl _, hnext⟩
  have inv' := inv.allocate packet.peer
  have hnextFor : (s.allocateSequence packet.peer).2.nextFor packet.peer
      = (s.nextFor packet.peer).saturatingAdd 1 := by
    rw [nextFor_allocateSequence, if_pos rfl]
  have hother : ∀ k : PacketKey P, k ≠ ⟨packet.peer, s.nextFor packet.peer⟩ →
      transmissions link.magic (log ++ [⟨packet.origin, packet.peer, bytes⟩]) k
        = transmissions link.magic log k := fun k hk => by
    rw [hcount, if_neg hk, Nat.add_zero]
  have hself : transmissions link.magic (log ++ [⟨packet.origin, packet.peer, bytes⟩])
      ⟨packet.peer, s.nextFor packet.peer⟩ = 1 := by
    rw [hcount, if_pos rfl, inv.unsent _ (le_refl _)]
  rw [recordSent_eq (s := (s.allocateSequence packet.peer).2) hnew]
  constructor
  · intro k stored hk
    rcases Finmap.lookup_insert_cases hk with ⟨rfl, rfl⟩ | ⟨-, hold⟩
    · exact ⟨rfl, rfl⟩
    · exact inv.keyed k stored hold
  · exact inv.counted.insert_new _ hnew
  · intro peer
    show Tally.get (Tally.increment s.inFlightByPeer packet.peer) peer ≤ _
    rw [Tally.get_increment]
    split_ifs
    · exact hwindow
    · exact inv.window peer
  · intro k stored hk
    show deadlineOf _ k stored ∈ MinHeap.push _ _ ∨ _
    rw [MinHeap.mem_push]
    rcases Finmap.lookup_insert_cases hk with ⟨rfl, rfl⟩ | ⟨-, hold⟩
    · exact .inl (.inl rfl)
    · exact (inv.scheduled k stored hold).imp_left .inr
  · intro k stored hk
    rcases Finmap.lookup_insert_cases hk with ⟨rfl, rfl⟩ | ⟨-, hold⟩
    · exact hnextFor.symm ▸ hlt
    · exact inv'.fresh k stored hold
  · intro k stored hk
    rcases Finmap.lookup_insert_cases hk with ⟨rfl, rfl⟩ | ⟨hne, hold⟩
    · exact hself
    · rw [hother k hne]
      exact inv.attempted k stored hold
  · intro k hk
    have hne : k ≠ ⟨packet.peer, s.nextFor packet.peer⟩ := by
      rintro rfl
      exact absurd hk (not_le.mpr (hnextFor.symm ▸ hlt))
    rw [hother k hne]
    exact inv'.unsent k hk
  · intro k
    by_cases hkey : k = ⟨packet.peer, s.nextFor packet.peer⟩
    · rw [hkey, hself]
      exact le_max_left _ _
    · rw [hother k hkey]
      exact inv.bounded k

/-! ## Removal -/

lemma removeInFlight_none {k : PacketKey P} (h : s.inFlight.lookup k = none) :
    s.removeInFlight k = (none, s) := by
  rw [removeInFlight, h]

lemma removeInFlight_some {k : PacketKey P} {packet : InFlightReliablePacket P O}
    (h : s.inFlight.lookup k = some packet) :
    s.removeInFlight k = (some packet,
      { s with
        inFlight := s.inFlight.erase k
        inFlightByPeer := Tally.decrement s.inFlightByPeer packet.peer }) := by
  rw [removeInFlight, h]

/-- **A removed packet,** acknowledged or timed out. -/
lemma SenderInv.remove (inv : SenderInv link due s log) {k : PacketKey P}
    {packet : InFlightReliablePacket P O} (hlook : s.inFlight.lookup k = some packet)
    (stats : ReliableStats) :
    SenderInv link due
      { s with
        inFlight := s.inFlight.erase k
        inFlightByPeer := Tally.decrement s.inFlightByPeer packet.peer
        stats := stats } log := by
  have hmem : k ∈ s.inFlight := Finmap.mem_iff.mpr ⟨packet, hlook⟩
  have hrest : ∀ k' stored, (s.inFlight.erase k).lookup k' = some stored →
      s.inFlight.lookup k' = some stored := by
    intro k' stored h
    rw [Finmap.lookup_erase_eq] at h
    split_ifs at h
    exact h
  constructor
  · exact fun k' stored h => inv.keyed k' stored (hrest k' stored h)
  · rw [(inv.keyed k packet hlook).1]
    exact inv.counted.erase hmem
  · intro peer
    show Tally.get (Tally.decrement s.inFlightByPeer packet.peer) peer ≤ _
    rw [Tally.get_decrement]
    split_ifs with hpeer
    · exact (Nat.sub_le _ _).trans (inv.window packet.peer)
    · exact inv.window peer
  · exact fun k' stored h => inv.scheduled k' stored (hrest k' stored h)
  · exact fun k' stored h => inv.fresh k' stored (hrest k' stored h)
  · exact fun k' stored h => inv.attempted k' stored (hrest k' stored h)
  · exact inv.unsent
  · exact inv.bounded

/-! ## Retrying -/

/-- Popping the due entries. -/
lemma SenderInv.pop (inv : SenderInv link [] s log) (p : RetryDeadline P → Bool) :
    SenderInv link (s.retryDeadlines.popWhile p).1
      { s with retryDeadlines := (s.retryDeadlines.popWhile p).2 } log where
  keyed := inv.keyed
  counted := inv.counted
  window := inv.window
  scheduled k packet h :=
    ((MinHeap.mem_popWhile p).mp ((inv.scheduled k packet h).resolve_right List.not_mem_nil)).symm
  fresh := inv.fresh
  attempted := inv.attempted
  unsent := inv.unsent
  bounded := inv.bounded

/-- Putting the remaining entries back. -/
lemma SenderInv.requeue (inv : SenderInv link due s log) :
    SenderInv link [] (s.requeue due) log where
  keyed := inv.keyed
  counted := inv.counted
  window := inv.window
  scheduled k packet h := .inl (MinHeap.mem_extend.mpr (inv.scheduled k packet h).symm)
  fresh := inv.fresh
  attempted := inv.attempted
  unsent := inv.unsent
  bounded := inv.bounded

/-- **A stale entry** is the current deadline of no packet in flight. -/
lemma SenderInv.skip {entry : RetryDeadline P} (inv : SenderInv link (entry :: due) s log)
    (hstale : ∀ packet, s.inFlight.lookup entry.packetKey = some packet →
      s.dueTick packet ≠ entry.deadline) : SenderInv link due s log where
  keyed := inv.keyed
  counted := inv.counted
  window := inv.window
  scheduled k packet h := by
    refine (inv.scheduled k packet h).imp_right fun hmem => ?_
    rcases List.mem_cons.mp hmem with heq | hmem
    · have hkey : k = entry.packetKey := by rw [← heq]; rfl
      exact absurd (congrArg RetryDeadline.deadline heq) (hstale packet (hkey ▸ h))
    · exact hmem
  fresh := inv.fresh
  attempted := inv.attempted
  unsent := inv.unsent
  bounded := inv.bounded

/-- **A packet that exhausted its attempts.** -/
lemma SenderInv.timeOut {entry : RetryDeadline P} (inv : SenderInv link (entry :: due) s log)
    {packet : InFlightReliablePacket P O}
    (hlook : s.inFlight.lookup entry.packetKey = some packet) :
    SenderInv link due (s.timeOut entry.packetKey) log := by
  rw [ReliableSender.timeOut, removeInFlight_some hlook]
  have hremoved := inv.remove hlook
    { s.stats with timedOut := usizeSaturatingAdd s.stats.timedOut 1 }
  refine hremoved.skip fun stored hstored => ?_
  rw [Finmap.lookup_erase_eq, if_pos rfl] at hstored
  exact absurd hstored (Option.some_ne_none stored).symm

/-- A packet in flight after a retry is the resent one, or was in flight before. -/
lemma lookup_recordRetry {entry : RetryDeadline P} {packet stored : InFlightReliablePacket P O}
    {nowTick : UInt64} {k : PacketKey P}
    (hlook : s.inFlight.lookup entry.packetKey = some packet)
    (h : (s.recordRetry entry nowTick).inFlight.lookup k = some stored) :
    k = entry.packetKey ∧ stored = { packet with
        lastSentTick := nowTick
        attempts := packet.attempts.saturatingAdd 1 } ∨
      k ≠ entry.packetKey ∧ s.inFlight.lookup k = some stored := by
  rw [ReliableSender.recordRetry, scheduleRetry, Finmap.lookup_modify, hlook] at h
  split_ifs at h with hk
  · exact .inl ⟨hk, (Option.some.inj h).symm⟩
  · exact .inr ⟨hk, h⟩

/-- **A packet sent once more.**  It had attempts left, and its new deadline is in the heap. -/
lemma SenderInv.recordRetry {entry : RetryDeadline P} (inv : SenderInv link (entry :: due) s log)
    {packet : InFlightReliablePacket P O} (nowTick : UInt64)
    (hlook : s.inFlight.lookup entry.packetKey = some packet)
    (hattempts : packet.attempts < s.config.maxAttempts) {bytes : List UInt8}
    (hencode : ReliableFrame.encodeData link.magic packet.sequence packet.payload = .ok bytes) :
    SenderInv link due (s.recordRetry entry nowTick)
      (log ++ [⟨packet.origin, packet.peer, bytes⟩]) := by
  obtain ⟨hpeer, hsequence⟩ := inv.keyed _ packet hlook
  have hcount := transmissions_concat link log packet.origin packet.peer hencode
  have hkey : (⟨packet.peer, packet.sequence⟩ : PacketKey P) = entry.packetKey := by
    rw [hpeer, hsequence]
  rw [hkey] at hcount
  have hlt : packet.attempts.toNat < s.config.maxAttempts.toNat := hattempts
  have hmax : s.config.maxAttempts.toNat < 256 := s.config.maxAttempts.toNat_lt
  have hsat : (packet.attempts.saturatingAdd 1).toNat = packet.attempts.toNat + 1 := by
    rw [UInt8.toNat_saturatingAdd]
    show min (packet.attempts.toNat + 1) 255 = _
    omega
  constructor
  · intro k stored h
    rcases lookup_recordRetry hlook h with ⟨rfl, rfl⟩ | ⟨-, hold⟩
    · exact ⟨hpeer, hsequence⟩
    · exact inv.keyed k stored hold
  · intro peer
    rw [Tally.keysIn]
    show _ = (Finset.filter _ (Finmap.modify _ _ _).keys).card
    rw [Finmap.keys_modify]
    exact inv.counted peer
  · exact inv.window
  · intro k stored h
    show deadlineOf _ k stored ∈ MinHeap.push _ _ ∨ _
    rw [MinHeap.mem_push]
    rcases lookup_recordRetry hlook h with ⟨rfl, rfl⟩ | ⟨hne, hold⟩
    · exact .inl (.inl rfl)
    · rcases inv.scheduled k stored hold with hheap | hmem
      · exact .inl (.inr hheap)
      · rcases List.mem_cons.mp hmem with heq | hmem
        · exact absurd (by rw [← heq]; rfl) hne
        · exact .inr hmem
  · intro k stored h
    rcases lookup_recordRetry hlook h with ⟨rfl, rfl⟩ | ⟨-, hold⟩
    · exact inv.fresh _ packet hlook
    · exact inv.fresh k stored hold
  · intro k stored h
    rw [hcount]
    rcases lookup_recordRetry hlook h with ⟨rfl, rfl⟩ | ⟨hne, hold⟩
    · rw [if_pos rfl, inv.attempted _ packet hlook]
      exact hsat.symm
    · rw [if_neg hne]
      exact inv.attempted k stored hold
  · intro k hk
    have hne : k ≠ entry.packetKey := by
      rintro rfl
      exact absurd hk (not_le.mpr (inv.fresh _ packet hlook))
    rw [hcount, if_neg hne]
    exact inv.unsent k hk
  · intro k
    rw [hcount]
    split_ifs with hk
    · rw [hk, inv.attempted _ packet hlook]
      exact le_max_of_le_right hlt
    · exact inv.bounded k

/-- **The rule of the retry loop.**  What holds with all due entries ahead holds at the end of
the pass, if each way through the loop keeps it. -/
theorem retryEntries_rule {nowTick : UInt64}
    (I : List (RetryDeadline P) → ReliableSender P O → T → Prop)
    (skip : ∀ entry rest s t, I (entry :: rest) s t →
      (∀ packet, s.inFlight.lookup entry.packetKey = some packet →
        s.dueTick packet ≠ entry.deadline) → I rest s t)
    (timeOut : ∀ entry rest s t packet, I (entry :: rest) s t →
      s.inFlight.lookup entry.packetKey = some packet → I rest (s.timeOut entry.packetKey) t)
    (retry : ∀ entry rest s t t' packet, I (entry :: rest) s t →
      s.inFlight.lookup entry.packetKey = some packet → packet.attempts < s.config.maxAttempts →
      sendDataFrame link sink t packet.origin packet.peer packet.sequence packet.payload
        = (.ok (), t') → I rest (s.recordRetry entry nowTick) t')
    (fail : ∀ entry rest s t t' (packet : InFlightReliablePacket P O) error, I (entry :: rest) s t →
      sendDataFrame link sink t packet.origin packet.peer packet.sequence packet.payload
        = (.error error, t') → I [] (s.requeue (entry :: rest)) t')
    {due : List (RetryDeadline P)} {s : ReliableSender P O} {t : T} (h : I due s t)
    (report : ReliableRetryReport) :
    I [] (retryEntries link sink nowTick due s t report).2.1
      (retryEntries link sink nowTick due s t report).2.2 := by
  fun_induction retryEntries link sink nowTick due s t report with
  | case1 s t report => exact h
  | case2 entry rest s t report hnone ih =>
      exact ih (skip entry rest s t h fun packet hlook => by simp [hnone] at hlook)
  | case3 entry rest s t report packet hlook hstale ih =>
      refine ih (skip entry rest s t h fun stored hstored => ?_)
      rw [← Option.some.inj (hlook.symm.trans hstored)]
      exact hstale
  | case4 entry rest s t report packet hlook hdue report' hattempts ih =>
      exact ih (timeOut entry rest s t packet h hlook)
  | case5 entry rest s t report packet hlook hdue hattempts error t' hsend =>
      exact fail entry rest s t t' packet error h hsend
  | case6 entry rest s t report packet hlook hdue report' hattempts t' hsend ih =>
      exact ih (retry entry rest s t t' packet h hlook (UInt8.not_le.mp hattempts) hsend)

/-! ## Operations -/

/-- The current deadline of every packet in flight is collected by a compaction. -/
lemma deadlineOf_mem_currentDeadlines (inv : SenderInv link due s log) {k : PacketKey P}
    {packet : InFlightReliablePacket P O} (h : s.inFlight.lookup k = some packet) :
    s.deadlineOf k packet ∈ s.currentDeadlines := by
  obtain ⟨hpeer, hsequence⟩ := inv.keyed k packet h
  refine List.mem_map.mpr ⟨packet, List.mem_filterMap.mpr ⟨k, ?_, h⟩, ?_⟩
  · exact Finmap.mem_sortedKeys.mpr (Finmap.mem_keys_iff_lookup.mpr ⟨packet, h⟩)
  · rw [deadlineOf, hpeer, hsequence]

/-- **Compaction** keeps every current deadline. -/
lemma SenderInv.compact (inv : SenderInv link [] s log) :
    SenderInv link [] s.compactRetryDeadlinesIfStale log := by
  unfold compactRetryDeadlinesIfStale
  split_ifs
  · exact
      { keyed := inv.keyed
        counted := inv.counted
        window := inv.window
        scheduled := fun k packet h =>
          .inl (MinHeap.mem_collect.mpr (deadlineOf_mem_currentDeadlines inv h))
        fresh := inv.fresh
        attempted := inv.attempted
        unsent := inv.unsent
        bounded := inv.bounded }
  · exact inv

/-- An acknowledgement. -/
lemma SenderInv.acknowledge (inv : SenderInv link [] s log) (source : P) (sequence : UInt64) :
    SenderInv link [] (s.acknowledge source sequence).2 log := by
  unfold ReliableSender.acknowledge
  cases hlook : s.inFlight.lookup ⟨source, sequence⟩ with
  | none =>
      rw [removeInFlight_none hlook]
      exact inv
  | some packet =>
      rw [removeInFlight_some hlook]
      have hremoved := inv.remove hlook
        { s.stats with acksReceived := usizeSaturatingAdd s.stats.acksReceived 1 }
      exact hremoved.compact

/-- A retry pass, whether it ends or fails on the way. -/
lemma SenderInv.retryDueInto {t : T} (inv : SenderInv link [] s log) (nowTick : UInt64)
    (scratch : ReliableRetryScratch P) :
    SenderInv link []
      (ReliableSender.retryDueInto link sink.logged s (t, log) nowTick scratch).2.1
      (ReliableSender.retryDueInto link sink.logged s (t, log) nowTick scratch).2.2.1.2 := by
  refine retryEntries_rule sink.logged
    (fun due s t => SenderInv link due s t.2) ?_ ?_ ?_ ?_ (inv.pop _) _
  · exact fun entry rest s t inv hstale => inv.skip hstale
  · exact fun entry rest s t packet inv hlook => inv.timeOut hlook
  · intro entry rest s t t' packet inv hlook hattempts hsend
    obtain ⟨bytes, hencode, hlog⟩ := sendDataFrame_ok link sink hsend
    rw [hlog]
    exact inv.recordRetry nowTick hlook hattempts hencode
  · intro entry rest s t t' packet error inv hsend
    rw [sendDataFrame_error link sink hsend]
    exact inv.requeue

/-- A new packet, accepted or not, below the last sequence number. -/
lemma SenderInv.send {t : T} (inv : SenderInv link [] s log) (packet : ReliableOutbound P O)
    (nowTick : UInt64) (hnext : s.nextFor packet.peer < UInt64.maxValue) :
    SenderInv link [] (ReliableSender.send link sink.logged s (t, log) packet nowTick).2.1
      (ReliableSender.send link sink.logged s (t, log) packet nowTick).2.2.2 := by
  rcases send_cases link sink s (t, log) packet nowTick with
    ⟨error, s', transport, hsend, hs, hlog⟩ | ⟨bytes, transport, hsend, hwindow, hencode, hlog⟩
  · rw [hsend, hlog]
    rcases hs with rfl | rfl
    · exact inv
    · exact inv.allocate packet.peer
  · rw [hsend, hlog]
    exact inv.recordSent nowTick hwindow hnext hencode

/-! ## Runs -/

/-- The operations of a sender. -/
inductive Op (P O : Type) where
  | send (packet : ReliableOutbound P O) (nowTick : UInt64)
  | acknowledge (ackSource : P) (sequence : UInt64)
  | retryDueInto (nowTick : UInt64) (scratch : ReliableRetryScratch P)

/-- Number of sends to a peer. -/
def sendsTo (peer : P) (ops : List (Op P O)) : ℕ :=
  ops.countP fun op =>
    match op with
    | .send packet _ => decide (packet.peer = peer)
    | _ => false

variable (link) in
/-- One operation, over a transport that keeps a log. -/
def step (state : ReliableSender P O × T × List (ReliableOutbound P O)) :
    Op P O → ReliableSender P O × T × List (ReliableOutbound P O)
  | .send packet nowTick => (send link sink.logged state.1 state.2 packet nowTick).2
  | .acknowledge ackSource sequence => ((state.1.acknowledge ackSource sequence).2, state.2)
  | .retryDueInto nowTick scratch =>
      let (_, s, transport, _) := retryDueInto link sink.logged state.1 state.2 nowTick scratch
      (s, transport)

/-- What never changes outside a send: the configuration and the sequence numbers. -/
structure SameNumbers (s s' : ReliableSender P O) : Prop where
  config : s'.config = s.config
  nextSequence : s'.nextSequence = s.nextSequence

lemma SameNumbers.nextFor {s s' : ReliableSender P O} (h : SameNumbers s s') (peer : P) :
    s'.nextFor peer = s.nextFor peer := by
  rw [ReliableSender.nextFor, h.nextSequence, ReliableSender.nextFor]

lemma sameNumbers_compact (s : ReliableSender P O) :
    SameNumbers s s.compactRetryDeadlinesIfStale := by
  unfold compactRetryDeadlinesIfStale
  split_ifs
  · exact ⟨rfl, rfl⟩
  · exact ⟨rfl, rfl⟩

lemma sameNumbers_acknowledge (s : ReliableSender P O) (source : P) (sequence : UInt64) :
    SameNumbers s (s.acknowledge source sequence).2 := by
  unfold acknowledge
  cases hlook : s.inFlight.lookup ⟨source, sequence⟩ with
  | none =>
      rw [removeInFlight_none hlook]
      exact ⟨rfl, rfl⟩
  | some packet =>
      rw [removeInFlight_some hlook]
      have hcompact := sameNumbers_compact
        { s with
          inFlight := s.inFlight.erase ⟨source, sequence⟩
          inFlightByPeer := Tally.decrement s.inFlightByPeer packet.peer
          stats := { s.stats with acksReceived := usizeSaturatingAdd s.stats.acksReceived 1 } }
      exact ⟨hcompact.config, hcompact.nextSequence⟩

lemma sameNumbers_recordSent (s : ReliableSender P O) (packet : ReliableOutbound P O)
    (sequence nowTick : UInt64) : SameNumbers s (s.recordSent packet sequence nowTick) := by
  simp only [recordSent, insertInFlight, scheduleRetry]
  split_ifs
  · exact ⟨rfl, rfl⟩
  · exact ⟨rfl, rfl⟩

lemma sameNumbers_retryDueInto (link : ReliableLink O R) (s : ReliableSender P O) (t : T)
    (nowTick : UInt64) (scratch : ReliableRetryScratch P) :
    SameNumbers s (retryDueInto link sink s t nowTick scratch).2.1 := by
  have hpop : SameNumbers s { s with
      retryDeadlines := (s.retryDeadlines.popWhile fun entry =>
        decide (entry.deadline ≤ nowTick)).2 } := ⟨rfl, rfl⟩
  refine retryEntries_rule sink (fun _ s' _ => SameNumbers s s') ?_ ?_ ?_ ?_ hpop _
  · exact fun entry rest s' t h _ => h
  · intro entry rest s' t packet h hlook
    rw [timeOut, removeInFlight_some hlook]
    exact ⟨h.config, h.nextSequence⟩
  · exact fun entry rest s' t t' packet h _ _ _ => ⟨h.config, h.nextSequence⟩
  · exact fun entry rest s' t t' packet error h _ => ⟨h.config, h.nextSequence⟩

/-- A send takes at most one sequence number, of its own peer. -/
lemma nextFor_send (link : ReliableLink O R) (s : ReliableSender P O)
    (transport : T × List (ReliableOutbound P O)) (packet : ReliableOutbound P O)
    (nowTick : UInt64) :
    SameNumbers s (send link sink.logged s transport packet nowTick).2.1 ∨
      SameNumbers (s.allocateSequence packet.peer).2
        (send link sink.logged s transport packet nowTick).2.1 := by
  rcases send_cases link sink s transport packet nowTick with
    ⟨error, s', transport', hsend, rfl | rfl, -⟩ | ⟨bytes, transport', hsend, -, -, -⟩
  · exact .inl (by rw [hsend]; exact ⟨rfl, rfl⟩)
  · exact .inr (by rw [hsend]; exact ⟨rfl, rfl⟩)
  · exact .inr (by rw [hsend]; exact sameNumbers_recordSent _ _ _ _)

/-- One operation moves the numbers of a peer by at most the sends to it. -/
lemma step_numbers (link : ReliableLink O R)
    (state : ReliableSender P O × T × List (ReliableOutbound P O)) (op : Op P O) :
    (step link sink state op).1.config = state.1.config ∧
      ∀ peer, ((step link sink state op).1.nextFor peer).toNat
        ≤ (state.1.nextFor peer).toNat + sendsTo peer [op] := by
  have hsame : ∀ s', SameNumbers state.1 s' → s'.config = state.1.config ∧
      ∀ peer, (s'.nextFor peer).toNat ≤ (state.1.nextFor peer).toNat + sendsTo peer [op] := by
    intro s' h
    refine ⟨h.config, fun peer => ?_⟩
    rw [h.nextFor]
    omega
  cases op with
  | send packet nowTick =>
      rcases nextFor_send sink link state.1 state.2 packet nowTick with h | h
      · exact hsame _ h
      · refine ⟨h.config, fun peer => ?_⟩
        show (ReliableSender.nextFor (send _ _ _ _ _ _).2.1 peer).toNat ≤ _
        rw [h.nextFor, nextFor_allocateSequence]
        by_cases hpeer : peer = packet.peer
        · rw [if_pos hpeer, UInt64.toNat_saturatingAdd, hpeer]
          have hone : sendsTo packet.peer [Op.send packet nowTick] = 1 := by simp [sendsTo]
          rw [hone]
          exact min_le_left _ _
        · rw [if_neg hpeer]
          omega
  | acknowledge ackSource sequence => exact hsame _ (sameNumbers_acknowledge _ _ _)
  | retryDueInto nowTick scratch =>
      exact hsame _ (sameNumbers_retryDueInto sink.logged link state.1 state.2 nowTick scratch)

lemma sendsTo_append (peer : P) (ops ops' : List (Op P O)) :
    sendsTo peer (ops ++ ops') = sendsTo peer ops + sendsTo peer ops' := by
  rw [sendsTo, List.countP_append, sendsTo, sendsTo]

/-- **The step lemma.**  One operation keeps the invariant while the sequence numbers last. -/
lemma SenderInv.step {state : ReliableSender P O × T × List (ReliableOutbound P O)}
    (inv : SenderInv link [] state.1 state.2.2) (op : Op P O)
    (hnext : ∀ peer, 0 < sendsTo peer [op] → state.1.nextFor peer < UInt64.maxValue) :
    SenderInv link [] (ReliableSender.step link sink state op).1
      (ReliableSender.step link sink state op).2.2 := by
  obtain ⟨s, t, log⟩ := state
  cases op with
  | send packet nowTick =>
      exact inv.send sink packet nowTick (hnext packet.peer (by simp [sendsTo]))
  | acknowledge ackSource sequence => exact inv.acknowledge ackSource sequence
  | retryDueInto nowTick scratch => exact inv.retryDueInto sink nowTick scratch

/-! ## What is in flight -/

lemma inFlight_compact (s : ReliableSender P O) :
    s.compactRetryDeadlinesIfStale.inFlight = s.inFlight := by
  unfold compactRetryDeadlinesIfStale
  split_ifs
  · rfl
  · rfl

/-- Every packet in flight has a property under its key. -/
def AllInFlight (p : PacketKey P → InFlightReliablePacket P O → Prop) (s : ReliableSender P O) :
    Prop :=
  ∀ k packet, s.inFlight.lookup k = some packet → p k packet

namespace AllInFlight

variable {p : PacketKey P → InFlightReliablePacket P O → Prop}

lemma of_erase (h : AllInFlight p s) {s' : ReliableSender P O} {k : PacketKey P}
    (hs : s'.inFlight = s.inFlight.erase k) : AllInFlight p s' := by
  intro k' packet hlook
  rw [hs, Finmap.lookup_erase_eq] at hlook
  split_ifs at hlook
  exact h k' packet hlook

lemma timeOut (h : AllInFlight p s) {k : PacketKey P} {packet : InFlightReliablePacket P O}
    (hlook : s.inFlight.lookup k = some packet) : AllInFlight p (s.timeOut k) := by
  rw [ReliableSender.timeOut, removeInFlight_some hlook]
  exact h.of_erase rfl

lemma acknowledge (h : AllInFlight p s) (source : P) (sequence : UInt64) :
    AllInFlight p (s.acknowledge source sequence).2 := by
  unfold ReliableSender.acknowledge
  cases hlook : s.inFlight.lookup ⟨source, sequence⟩ with
  | none =>
      rw [removeInFlight_none hlook]
      exact h
  | some packet =>
      rw [removeInFlight_some hlook]
      exact h.of_erase (inFlight_compact _)

lemma recordSent (h : AllInFlight p s) {packet : ReliableOutbound P O} {sequence nowTick : UInt64}
    (hnew : p ⟨packet.peer, sequence⟩
      ⟨packet.origin, packet.peer, sequence, packet.bytes, nowTick, nowTick, 1⟩) :
    AllInFlight p (s.recordSent packet sequence nowTick) := by
  intro k stored hlook
  have hinsert : (s.recordSent packet sequence nowTick).inFlight
      = s.inFlight.insert ⟨packet.peer, sequence⟩
        ⟨packet.origin, packet.peer, sequence, packet.bytes, nowTick, nowTick, 1⟩ := by
    simp only [ReliableSender.recordSent, insertInFlight, scheduleRetry]
    split_ifs
    · rfl
    · rfl
  rw [hinsert] at hlook
  rcases Finmap.lookup_insert_cases hlook with ⟨rfl, rfl⟩ | ⟨-, hold⟩
  · exact hnew
  · exact h k stored hold

/-- A retry changes the ticks and the attempts of a packet only. -/
lemma recordRetry (h : AllInFlight p s)
    (hp : ∀ k packet tick attempts, p k packet →
      p k { packet with lastSentTick := tick, attempts := attempts })
    {entry : RetryDeadline P} {packet : InFlightReliablePacket P O} {nowTick : UInt64}
    (hlook : s.inFlight.lookup entry.packetKey = some packet) :
    AllInFlight p (s.recordRetry entry nowTick) := by
  intro k stored hstored
  rcases lookup_recordRetry hlook hstored with ⟨rfl, rfl⟩ | ⟨-, hold⟩
  · exact hp _ packet _ _ (h _ packet hlook)
  · exact h k stored hold

end AllInFlight

/-! ## Whole runs -/

/-- **The run lemma.**  The invariant lasts as long as the sequence numbers of every peer do, and
the number of a peer grows with the sends to it. -/
lemma senderInv_execute (link : ReliableLink O R) (sink : TransportSink T (ReliableOutbound P O) E)
    (config : ReliableConfig) (transport : T) (ops : List (Op P O))
    (hsends : ∀ peer, sendsTo peer ops < 2 ^ 64 - 1) :
    let final := execute (ReliableSender.step link sink) (new config, transport, []) ops
    SenderInv link [] final.1 final.2.2 ∧ final.1.config = config ∧
      ∀ peer, (final.1.nextFor peer).toNat ≤ 1 + sendsTo peer ops := by
  induction ops using List.reverseRecOn with
  | nil => exact ⟨senderInv_new config, rfl, fun peer => by simp [nextFor, new, sendsTo]⟩
  | append_singleton ops op ih =>
      have hsplit : ∀ peer, sendsTo peer (ops ++ [op]) = sendsTo peer ops + sendsTo peer [op] :=
        fun peer => sendsTo_append peer ops [op]
      obtain ⟨inv, hconfig, hnumbers⟩ := ih fun peer =>
        lt_of_le_of_lt (by rw [hsplit]; exact Nat.le_add_right _ _) (hsends peer)
      rw [execute_concat]
      obtain ⟨hconfig', hnumbers'⟩ := step_numbers sink link
        (execute (ReliableSender.step link sink) (new config, transport, []) ops) op
      refine ⟨inv.step sink op fun peer hop => ?_, hconfig'.trans hconfig, fun peer => ?_⟩
      · -- the number of the peer is not the last one yet
        have hpeer := hsends peer
        have hnext := hnumbers peer
        rw [hsplit] at hpeer
        rw [UInt64.lt_iff_toNat_lt, UInt64.toNat_maxValue]
        show _ < 2 ^ 64 - 1
        omega
      · have hpeer := hnumbers' peer
        have hnext := hnumbers peer
        rw [hsplit]
        omega

end ReliableSender

end SectorSync
