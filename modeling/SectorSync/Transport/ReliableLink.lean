import SectorSync.Base.Heap
import SectorSync.Base.Tally
import SectorSync.Core.Counters
import SectorSync.Core.Ids
import SectorSync.Transport.ReliableFrame

/-!
# The reliable link

Reliable sending and receiving of the transport crate.  The source has the link twice, for clients
and for stations, with the same code up to names: a client packet names its peer only, a station
packet also the station it comes from.  Here the link is written once over a peer type `P`, the
origin `O` a packet carries beside its peer and the route `R` an inbound packet came by, and the
two links are its instances at the end.

A sender numbers the packets of each peer, keeps them in flight until they are acknowledged or
have been tried often enough, and finds the due ones in a heap of deadlines that is cleaned up
lazily.  A receiver acknowledges every data frame and remembers the last deliveries.  Transport
operations take a `TransportSink` and its state; failing calls return what they leave behind.

The counters of the statistics and of a retry report saturate.  The counter of the packets in flight
to a peer is a number: it stays within `max_in_flight_per_peer`, which is a `usize`.
-/

namespace SectorSync

/-! ## Transports -/

/-- A packet sink with state `T`. -/
structure TransportSink (T Packet E : Type) where
  send : T → Packet → Except E Unit × T

/-- The sink that also keeps a log of the packets it accepted. -/
def TransportSink.logged {T Packet E : Type} (sink : TransportSink T Packet E) :
    TransportSink (T × List Packet) Packet E where
  send transport packet :=
    match sink.send transport.1 packet with
    | (.ok (), t) => (.ok (), (t, transport.2 ++ [packet]))
    | (.error error, t) => (.error error, (t, transport.2))

section Logged

variable {T Packet E : Type} {sink : TransportSink T Packet E} {t t' : T} {packet : Packet}

lemma TransportSink.logged_ok (h : sink.send t packet = (.ok (), t')) (log : List Packet) :
    sink.logged.send (t, log) packet = (.ok (), (t', log ++ [packet])) := by
  simp only [logged, h]

lemma TransportSink.logged_error {error : E} (h : sink.send t packet = (.error error, t'))
    (log : List Packet) : sink.logged.send (t, log) packet = (.error error, (t', log)) := by
  simp only [logged, h]

end Logged

/-- The sink that answers from a script, and accepts once the script has ended. -/
def TransportSink.scripted {Packet : Type} : TransportSink (List Bool) Packet Unit where
  send script _ :=
    match script with
    | false :: script => (.error (), script)
    | true :: script => (.ok (), script)
    | [] => (.ok (), [])

/-- Outbound packet after wire encoding. -/
structure ReliableOutbound (P O : Type) where
  origin : O
  peer : P
  bytes : List UInt8
  deriving DecidableEq

/-- Inbound packet before wire decoding. -/
structure ReliableInbound (P R : Type) where
  source : P
  route : R
  bytes : List UInt8
  deriving DecidableEq

/-- What tells the two links apart. -/
structure ReliableLink (O R : Type) where
  magic : List UInt8
  length_magic : magic.length = 4
  /-- The origin of an acknowledgement for a packet that came by a route. -/
  ackOrigin : R → O

/-- Bounded reliable link configuration. -/
structure ReliableConfig where
  /-- Maximum in-flight reliable packets per peer. -/
  maxInFlightPerPeer : ℕ
  /-- Number of ticks to wait before retrying an unacknowledged packet. -/
  retryAfterTicks : UInt64
  /-- Maximum send attempts before dropping an in-flight packet. -/
  maxAttempts : UInt8
  maxPayloadBytes : ℕ
  /-- Maximum recently delivered packet ids retained for duplicate suppression. -/
  maxDeliveredHistory : ℕ

/-- The default configuration of both links. -/
def ReliableConfig.default : ReliableConfig := ⟨1024, 2, 4, 16 * 1024 - 17, 4096⟩

/-- Reliable endpoint statistics. -/
structure ReliableStats where
  dataSent : ℕ
  retriesSent : ℕ
  acksSent : ℕ
  acksReceived : ℕ
  dataDelivered : ℕ
  duplicatesSuppressed : ℕ
  timedOut : ℕ
  deriving DecidableEq

/-- All counters zero. -/
def ReliableStats.default : ReliableStats := ⟨0, 0, 0, 0, 0, 0, 0⟩

/-- Error produced by reliable endpoints. -/
inductive ReliableError (P E : Type) where
  | transport (error : E)
  | missingSource
  | payloadTooLarge (budget actual : ℕ)
  | windowFull (peer : P) (capacity : ℕ)
  | encode (error : ReliableEncodeError)
  | decode (error : ReliableDecodeError)
  deriving DecidableEq

/-! ## Keys and deadlines -/

/-- A peer with a sequence number. -/
structure PacketKey (P : Type) where
  peer : P
  sequence : UInt64
  deriving DecidableEq

/-- An entry of the retry heap. -/
structure RetryDeadline (P : Type) where
  deadline : UInt64
  peer : P
  sequence : UInt64
  deriving DecidableEq

variable {P O R T E : Type} [LinearOrder P]

namespace PacketKey

/-- The order of the source's tuple. -/
def key (k : PacketKey P) : P ×ₗ UInt64 := toLex (k.peer, k.sequence)

omit [LinearOrder P] in
lemma key_injective : Function.Injective (key : PacketKey P → P ×ₗ UInt64) := by
  rintro ⟨p, s⟩ ⟨p', s'⟩ h
  simpa [key] using h

instance : LinearOrder (PacketKey P) := LinearOrder.ofKey key key_injective

end PacketKey

namespace RetryDeadline

/-- The order of the source's tuple. -/
def key (d : RetryDeadline P) : UInt64 ×ₗ P ×ₗ UInt64 :=
  toLex (d.deadline, toLex (d.peer, d.sequence))

omit [LinearOrder P] in
lemma key_injective : Function.Injective (key : RetryDeadline P → UInt64 ×ₗ P ×ₗ UInt64) := by
  rintro ⟨d, p, s⟩ ⟨d', p', s'⟩ h
  simpa [key] using h

instance : LinearOrder (RetryDeadline P) := LinearOrder.ofKey key key_injective

/-- The packet of a deadline. -/
def packetKey (d : RetryDeadline P) : PacketKey P := ⟨d.peer, d.sequence⟩

end RetryDeadline

/-! ## Sending -/

/-- A packet that waits for its acknowledgement. -/
structure InFlightReliablePacket (P O : Type) where
  origin : O
  peer : P
  sequence : UInt64
  payload : List UInt8
  firstSentTick : UInt64
  lastSentTick : UInt64
  attempts : UInt8
  deriving DecidableEq

/-- Caller-owned reusable storage for retry scans. -/
structure ReliableRetryScratch (P : Type) where
  dueEntries : List (RetryDeadline P)

/-- Retry pass report. -/
structure ReliableRetryReport where
  examined : ℕ
  retried : ℕ
  timedOut : ℕ
  deriving DecidableEq

/-- Bounded reliable sender state. -/
structure ReliableSender (P O : Type) [LinearOrder P] where
  config : ReliableConfig
  nextSequence : BTreeMap P UInt64
  inFlight : BTreeMap (PacketKey P) (InFlightReliablePacket P O)
  inFlightByPeer : BTreeMap P ℕ
  retryDeadlines : MinHeap (RetryDeadline P)
  stats : ReliableStats

/-- The heap is compacted when it has more entries than this many for each packet in flight. -/
def retryDeadlineCompactionMultiple : ℕ := 4

namespace ReliableSender

/-- A reliable sender. -/
def new (config : ReliableConfig) : ReliableSender P O :=
  ⟨config, ∅, ∅, ∅, .empty, .default⟩

/-- In-flight reliable packets for one peer. -/
def inFlightFor (s : ReliableSender P O) (peer : P) : ℕ := Tally.get s.inFlightByPeer peer

/-- The tick at which a packet is due. -/
def dueTick (s : ReliableSender P O) (packet : InFlightReliablePacket P O) : UInt64 :=
  packet.lastSentTick.saturatingAdd s.config.retryAfterTicks

/-- Takes the next sequence number of a peer. -/
def allocateSequence (s : ReliableSender P O) (peer : P) : UInt64 × ReliableSender P O :=
  let sequence := (s.nextSequence.lookup peer).getD 1
  (sequence, { s with nextSequence := s.nextSequence.insert peer (sequence.saturatingAdd 1) })

/-- Stores a packet until it is acknowledged or timed out. -/
def insertInFlight (s : ReliableSender P O) (key : PacketKey P)
    (packet : InFlightReliablePacket P O) : ReliableSender P O :=
  let inFlight := s.inFlight.insert key packet
  if key ∈ s.inFlight then { s with inFlight := inFlight }
  else
    { s with
      inFlight := inFlight
      inFlightByPeer := Tally.increment s.inFlightByPeer key.peer }

/-- Removes a packet from flight. -/
def removeInFlight (s : ReliableSender P O) (key : PacketKey P) :
    Option (InFlightReliablePacket P O) × ReliableSender P O :=
  match s.inFlight.lookup key with
  | none => (none, s)
  | some removed =>
      (some removed,
        { s with
          inFlight := s.inFlight.erase key
          inFlightByPeer := Tally.decrement s.inFlightByPeer removed.peer })

/-- Adds a deadline for a packet sent at a tick. -/
def scheduleRetry (s : ReliableSender P O) (peer : P) (sequence sentTick : UInt64) :
    ReliableSender P O :=
  { s with
    retryDeadlines := s.retryDeadlines.push
      ⟨sentTick.saturatingAdd s.config.retryAfterTicks, peer, sequence⟩ }

/-- The current deadlines of the packets in flight. -/
def currentDeadlines (s : ReliableSender P O) : List (RetryDeadline P) :=
  (s.inFlight.sortedKeys.filterMap s.inFlight.lookup).map fun packet =>
    ⟨s.dueTick packet, packet.peer, packet.sequence⟩

/-- Rebuilds the heap when most of its entries are stale. -/
def compactRetryDeadlinesIfStale (s : ReliableSender P O) : ReliableSender P O :=
  if s.retryDeadlines.len > s.inFlight.size * retryDeadlineCompactionMultiple then
    { s with retryDeadlines := .collect s.currentDeadlines }
  else s

/-- Processes an acknowledgement from a peer. -/
def acknowledge (s : ReliableSender P O) (ackSource : P) (sequence : UInt64) :
    Bool × ReliableSender P O :=
  match s.removeInFlight ⟨ackSource, sequence⟩ with
  | (none, s) => (false, s)
  | (some _, s) =>
      let s := { s with
        stats := { s.stats with acksReceived := usizeSaturatingAdd s.stats.acksReceived 1 } }
      (true, s.compactRetryDeadlinesIfStale)

/-- Rejects a payload over the byte budget. -/
def validatePayload (s : ReliableSender P O) (bytes : ℕ) : Except (ReliableError P E) Unit :=
  if bytes > s.config.maxPayloadBytes then
    .error (.payloadTooLarge s.config.maxPayloadBytes bytes)
  else .ok ()

/-- Stores and schedules a packet the transport accepted for the first time. -/
def recordSent (s : ReliableSender P O) (packet : ReliableOutbound P O)
    (sequence nowTick : UInt64) : ReliableSender P O :=
  let s := s.insertInFlight ⟨packet.peer, sequence⟩
    ⟨packet.origin, packet.peer, sequence, packet.bytes, nowTick, nowTick, 1⟩
  let s := s.scheduleRetry packet.peer sequence nowTick
  { s with stats := { s.stats with dataSent := usizeSaturatingAdd s.stats.dataSent 1 } }

/-- Drops a packet that exhausted its attempts. -/
def timeOut (s : ReliableSender P O) (key : PacketKey P) : ReliableSender P O :=
  let s := (s.removeInFlight key).2
  { s with stats := { s.stats with timedOut := usizeSaturatingAdd s.stats.timedOut 1 } }

/-- Updates and reschedules a packet the transport accepted once more. -/
def recordRetry (s : ReliableSender P O) (entry : RetryDeadline P) (nowTick : UInt64) :
    ReliableSender P O :=
  let s := { s with
    inFlight := s.inFlight.modify entry.packetKey fun stored =>
      { stored with lastSentTick := nowTick, attempts := stored.attempts.saturatingAdd 1 } }
  let s := s.scheduleRetry entry.peer entry.sequence nowTick
  { s with stats := { s.stats with retriesSent := usizeSaturatingAdd s.stats.retriesSent 1 } }

/-- Puts due entries back. -/
def requeue (s : ReliableSender P O) (entries : List (RetryDeadline P)) : ReliableSender P O :=
  { s with retryDeadlines := s.retryDeadlines.extend entries }

variable (link : ReliableLink O R) (sink : TransportSink T (ReliableOutbound P O) E)

omit [LinearOrder P] in
/-- Encodes a data frame and hands it to the transport. -/
def sendDataFrame (transport : T) (origin : O) (peer : P) (sequence : UInt64)
    (payload : List UInt8) : Except (ReliableError P E) Unit × T :=
  match ReliableFrame.encodeData link.magic sequence payload with
  | .error error => (.error (.encode error), transport)
  | .ok bytes =>
      match sink.send transport ⟨origin, peer, bytes⟩ with
      | (.ok (), transport) => (.ok (), transport)
      | (.error error, transport) => (.error (.transport error), transport)

/-- Sends a new reliable packet and stores it until acknowledged or timed out. -/
def send (s : ReliableSender P O) (transport : T) (packet : ReliableOutbound P O)
    (nowTick : UInt64) : Except (ReliableError P E) UInt64 × ReliableSender P O × T :=
  match s.validatePayload packet.bytes.length with
  | .error error => (.error error, s, transport)
  | .ok () =>
      if s.inFlightFor packet.peer ≥ s.config.maxInFlightPerPeer then
        (.error (.windowFull packet.peer s.config.maxInFlightPerPeer), s, transport)
      else
        let (sequence, s) := s.allocateSequence packet.peer
        match sendDataFrame link sink transport packet.origin packet.peer sequence packet.bytes with
        | (.error error, transport) => (.error error, s, transport)
        | (.ok (), transport) => (.ok sequence, s.recordSent packet sequence nowTick, transport)

/-- The loop over the due entries.  An error puts the entries from its own on back. -/
def retryEntries (nowTick : UInt64) :
    List (RetryDeadline P) → ReliableSender P O → T → ReliableRetryReport →
      Except (ReliableError P E) ReliableRetryReport × ReliableSender P O × T
  | [], s, transport, report => (.ok report, s, transport)
  | entry :: rest, s, transport, report =>
      match s.inFlight.lookup entry.packetKey with
      | none => retryEntries nowTick rest s transport report
      | some packet =>
          if s.dueTick packet ≠ entry.deadline then retryEntries nowTick rest s transport report
          else
            let report := { report with examined := usizeSaturatingAdd report.examined 1 }
            if packet.attempts ≥ s.config.maxAttempts then
              retryEntries nowTick rest (s.timeOut entry.packetKey) transport
                { report with timedOut := usizeSaturatingAdd report.timedOut 1 }
            else
              match sendDataFrame link sink transport packet.origin packet.peer packet.sequence
                packet.payload with
              | (.error error, transport) => (.error error, s.requeue (entry :: rest), transport)
              | (.ok (), transport) =>
                  retryEntries nowTick rest (s.recordRetry entry nowTick) transport
                    { report with retried := usizeSaturatingAdd report.retried 1 }

/-- Retries due packets using caller-owned scan storage. -/
def retryDueInto (s : ReliableSender P O) (transport : T) (nowTick : UInt64)
    (_scratch : ReliableRetryScratch P) :
    Except (ReliableError P E) ReliableRetryReport × ReliableSender P O × T
      × ReliableRetryScratch P :=
  let (dueEntries, retryDeadlines) :=
    s.retryDeadlines.popWhile fun entry => decide (entry.deadline ≤ nowTick)
  let s := { s with retryDeadlines := retryDeadlines }
  let (result, s, transport) :=
    retryEntries link sink nowTick dueEntries s transport ⟨0, 0, 0⟩
  (result, s, transport, ⟨dueEntries⟩)

end ReliableSender

/-! ## Receiving -/

/-- A set of recent keys: ordered for small bounds, hashed for large ones. -/
inductive BoundedLookupSet (K : Type) where
  | ordered (entries : Finset K)
  | hashed (entries : Finset K)

namespace BoundedLookupSet

variable {K : Type} [DecidableEq K]

/-- An empty set for a bound on its entries. -/
def new (maxEntries : ℕ) : BoundedLookupSet K := if maxEntries ≥ 256 then hashed ∅ else ordered ∅

omit [DecidableEq K] in
/-- The entries, however they are stored. -/
def entries : BoundedLookupSet K → Finset K
  | ordered entries => entries
  | hashed entries => entries

/-- Whether the set has a key. -/
def contains (set : BoundedLookupSet K) (key : K) : Bool := decide (key ∈ set.entries)

/-- Adds a key. -/
def insert : BoundedLookupSet K → K → BoundedLookupSet K
  | ordered entries, key => ordered (Insert.insert key entries)
  | hashed entries, key => hashed (Insert.insert key entries)

/-- Removes a key. -/
def remove : BoundedLookupSet K → K → BoundedLookupSet K
  | ordered entries, key => ordered (entries.erase key)
  | hashed entries, key => hashed (entries.erase key)

omit [DecidableEq K] in
@[simp] lemma entries_new (maxEntries : ℕ) : (new maxEntries : BoundedLookupSet K).entries = ∅ := by
  unfold new
  split_ifs
  · rfl
  · rfl

@[simp] lemma entries_insert (set : BoundedLookupSet K) (key : K) :
    (set.insert key).entries = Insert.insert key set.entries := by
  cases set with
  | ordered entries => rfl
  | hashed entries => rfl

@[simp] lemma entries_remove (set : BoundedLookupSet K) (key : K) :
    (set.remove key).entries = set.entries.erase key := by
  cases set with
  | ordered entries => rfl
  | hashed entries => rfl

end BoundedLookupSet

/-- Bounded reliable receiver state. -/
structure ReliableReceiver (P : Type) where
  config : ReliableConfig
  delivered : BoundedLookupSet (PacketKey P)
  deliveredOrder : List (PacketKey P)
  stats : ReliableStats

namespace ReliableReceiver

omit [LinearOrder P] in
/-- A bounded reliable receiver. -/
def new [DecidableEq P] (config : ReliableConfig) : ReliableReceiver P :=
  ⟨config, .new config.maxDeliveredHistory, [], .default⟩

/-- Drops the oldest deliveries over the bound. -/
def evict (max : ℕ) : List (PacketKey P) → BoundedLookupSet (PacketKey P) →
    List (PacketKey P) × BoundedLookupSet (PacketKey P)
  | [], delivered => ([], delivered)
  | old :: order, delivered =>
      if (old :: order).length > max then evict max order (delivered.remove old)
      else (old :: order, delivered)

/-- Records a delivery; whether it is not among the remembered ones. -/
def recordUnique (r : ReliableReceiver P) (source : P) (sequence : UInt64) :
    Bool × ReliableReceiver P :=
  if r.config.maxDeliveredHistory = 0 then (true, r)
  else
    let key := ⟨source, sequence⟩
    if r.delivered.contains key then (false, r)
    else
      let (order, delivered) :=
        evict r.config.maxDeliveredHistory (r.deliveredOrder ++ [key]) (r.delivered.insert key)
      (true, { r with delivered := delivered, deliveredOrder := order })

variable (link : ReliableLink O R) (sink : TransportSink T (ReliableOutbound P O) E)

omit [LinearOrder P] in
/-- Sends an acknowledgement. -/
def sendAck (r : ReliableReceiver P) (transport : T) (origin : O) (peer : P) (sequence : UInt64) :
    Except (ReliableError P E) Unit × ReliableReceiver P × T :=
  match (ReliableFrame.ack sequence).encode link.magic with
  | .error error => (.error (.encode error), r, transport)
  | .ok bytes =>
      match sink.send transport ⟨origin, peer, bytes⟩ with
      | (.error error, transport) => (.error (.transport error), r, transport)
      | (.ok (), transport) =>
          (.ok (),
            { r with stats := { r.stats with acksSent := usizeSaturatingAdd r.stats.acksSent 1 } },
            transport)

/-- Handles a data frame: acknowledges it, and returns its payload for a first delivery only. -/
def handleData (r : ReliableReceiver P) (transport : T) (source : P) (route : R)
    (sequence : UInt64) (payload : List UInt8) :
    Except (ReliableError P E) (Option (ReliableInbound P R)) × ReliableReceiver P × T :=
  match r.sendAck link sink transport (link.ackOrigin route) source sequence with
  | (.error error, r, transport) => (.error error, r, transport)
  | (.ok (), r, transport) =>
      match r.recordUnique source sequence with
      | (false, r) =>
          (.ok none,
            { r with
              stats := { r.stats with
                duplicatesSuppressed := usizeSaturatingAdd r.stats.duplicatesSuppressed 1 } },
            transport)
      | (true, r) =>
          (.ok (some ⟨source, route, payload⟩),
            { r with
              stats := { r.stats with
                dataDelivered := usizeSaturatingAdd r.stats.dataDelivered 1 } },
            transport)

end ReliableReceiver

/-! ## Endpoints -/

/-- Reliable endpoint combining sender and receiver state. -/
structure ReliableEndpoint (P O : Type) [LinearOrder P] where
  sender : ReliableSender P O
  receiver : ReliableReceiver P
  retryScratch : ReliableRetryScratch P

namespace ReliableEndpoint

/-- A reliable endpoint. -/
def new (config : ReliableConfig) : ReliableEndpoint P O := ⟨.new config, .new config, ⟨[]⟩⟩

variable (link : ReliableLink O R) (sink : TransportSink T (ReliableOutbound P O) E)

/-- Sends a new reliable packet to a peer. -/
def send (endpoint : ReliableEndpoint P O) (transport : T) (packet : ReliableOutbound P O)
    (nowTick : UInt64) : Except (ReliableError P E) UInt64 × ReliableEndpoint P O × T :=
  let (result, sender, transport) := endpoint.sender.send link sink transport packet nowTick
  (result, { endpoint with sender := sender }, transport)

/-- Retries due reliable packets. -/
def retryDue (endpoint : ReliableEndpoint P O) (transport : T) (nowTick : UInt64) :
    Except (ReliableError P E) ReliableRetryReport × ReliableEndpoint P O × T :=
  let (result, sender, transport, scratch) :=
    endpoint.sender.retryDueInto link sink transport nowTick endpoint.retryScratch
  (result, { endpoint with sender := sender, retryScratch := scratch }, transport)

/-- Handles one inbound packet. -/
def handleInbound (endpoint : ReliableEndpoint P O) (transport : T)
    (packet : ReliableInbound P R) :
    Except (ReliableError P E) (Option (ReliableInbound P R)) × ReliableEndpoint P O × T :=
  match ReliableFrame.decode link.magic packet.bytes with
  | .error error => (.error (.decode error), endpoint, transport)
  | .ok (.data sequence payload) =>
      let payloadLen := payload.length
      let payloadOffset := packet.bytes.length - payloadLen
      let payload := ReliableFrame.reusePayload packet.bytes payloadOffset payloadLen
      let (result, receiver, transport) := endpoint.receiver.handleData link sink transport
        packet.source packet.route sequence payload
      (result, { endpoint with receiver := receiver }, transport)
  | .ok (.ack sequence) =>
      (.ok none, { endpoint with sender := (endpoint.sender.acknowledge packet.source sequence).2 },
        transport)

end ReliableEndpoint

/-! ## The client link and the station link -/

/-- The client link: packets carry no origin, and inbound packets come from an address. -/
def clientLink (Addr : Type) : ReliableLink Unit Addr where
  magic := reliableClientMagic
  length_magic := rfl
  ackOrigin _ := ()

/-- The station link: packets carry their source station, and inbound packets come to a target
station of the endpoint, which is the source of their acknowledgement. -/
def stationLink : ReliableLink StationId StationId where
  magic := reliableStationMagic
  length_magic := rfl
  ackOrigin target := target

abbrev OutboundPacket := ReliableOutbound ClientId Unit
abbrev StationOutboundPacket := ReliableOutbound StationId StationId
abbrev StationInboundPacket := ReliableInbound StationId StationId
abbrev ReliableClientSender := ReliableSender ClientId Unit
abbrev ReliableStationSender := ReliableSender StationId StationId
abbrev ReliableClientReceiver := ReliableReceiver ClientId
abbrev ReliableStationReceiver := ReliableReceiver StationId
abbrev ReliableClientEndpoint := ReliableEndpoint ClientId Unit
abbrev ReliableStationEndpoint := ReliableEndpoint StationId StationId

/-- Inbound client packet: the transport may not know the client of the address. -/
structure InboundPacket (Addr : Type) where
  clientId : Option ClientId
  remoteAddr : Addr
  bytes : List UInt8

/-- `ReliableClientEndpoint::handle_inbound`: the link's, once the source client is known. -/
def ReliableClientEndpoint.handleInbound {Addr : Type} (sink : TransportSink T OutboundPacket E)
    (endpoint : ReliableClientEndpoint) (transport : T) (packet : InboundPacket Addr) :
    Except (ReliableError ClientId E) (Option (ReliableInbound ClientId Addr))
      × ReliableClientEndpoint × T :=
  match packet.clientId with
  | none => (.error .missingSource, endpoint, transport)
  | some sourceClient =>
      ReliableEndpoint.handleInbound (clientLink Addr) sink endpoint transport
        ⟨sourceClient, packet.remoteAddr, packet.bytes⟩

end SectorSync
