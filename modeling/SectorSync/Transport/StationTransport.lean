import SectorSync.Base.Run
import SectorSync.Transport.InMemoryTransport

/-!
# The in-memory station transport

Every registered station has one bounded queue.  A send puts its packet at the end of the queue of
its target, or is refused: for its size, a target that is not registered or a queue that is full.  A
receive takes the front of the queue it asks for, and unregistering a station discards its queue.

A `StationLedger` records what the calls reported.  `Conveys` says what a transport has to do with
its ledger, and every call keeps it: each station gets its packets in the order in which they were
accepted, each at most once, and no packet is lost but with its queue (`station_transport_run`).
-/

namespace SectorSync

open Machine

/-- Bounded in-memory station transport limits. -/
structure StationTransportLimits where
  maxQueuedPacketsPerStation : ℕ
  maxPacketBytes : ℕ
  deriving DecidableEq

/-- The limits of `Default`. -/
def StationTransportLimits.default : StationTransportLimits := ⟨4096, 16 * 1024⟩

/-- Statistics for the bounded in-memory station transport. -/
structure InMemoryStationTransportStats where
  packetsSent : ℕ
  packetsReceived : ℕ
  bytesSent : ℕ
  bytesReceived : ℕ
  /-- Packets rejected because the target station queue was full. -/
  packetsRejectedFull : ℕ
  /-- Packets rejected because they exceeded the packet byte budget. -/
  packetsRejectedBytes : ℕ
  deriving DecidableEq

/-- Error produced by bounded in-memory station transport. -/
inductive StationTransportError where
  | missingTarget (stationId : StationId)
  | queueFull (stationId : StationId) (capacity : ℕ)
  | packetTooLarge (budget actual : ℕ)
  deriving DecidableEq

/-- Bounded in-memory station-to-station packet transport. -/
structure InMemoryStationTransport where
  limits : StationTransportLimits
  queues : AdaptiveEndpointMap StationId (List StationInboundPacket)
  stats : InMemoryStationTransportStats

namespace InMemoryStationTransport

/-- Creates an empty bounded station transport. -/
def new (limits : StationTransportLimits) : InMemoryStationTransport :=
  ⟨limits, .new, ⟨0, 0, 0, 0, 0, 0⟩⟩

variable (transport : InMemoryStationTransport)

/-- Registers a target station queue. -/
def registerStation (stationId : StationId) : InMemoryStationTransport :=
  if (transport.queues.get stationId).isNone then
    { transport with queues := transport.queues.insert stationId [] }
  else transport

/-- Unregisters a station and releases its queued packet storage. -/
def unregisterStation (stationId : StationId) : Option ℕ × InMemoryStationTransport :=
  ((transport.queues.get stationId).map List.length,
    { transport with queues := transport.queues.remove stationId })

/-- Returns queued packet count for a station. -/
def queuedLen (stationId : StationId) : Option ℕ :=
  (transport.queues.get stationId).map List.length

/-- The packet as the target finds it. -/
def arrival (packet : StationOutboundPacket) : StationInboundPacket :=
  ⟨packet.origin, packet.peer, packet.bytes⟩

def sendStation (packet : StationOutboundPacket) :
    Except StationTransportError Unit × InMemoryStationTransport :=
  let actual := packet.bytes.length
  if actual > transport.limits.maxPacketBytes then
    (.error (.packetTooLarge transport.limits.maxPacketBytes actual),
      { transport with
        stats := {
          transport.stats with
          packetsRejectedBytes := usizeSaturatingAdd transport.stats.packetsRejectedBytes 1 } })
  else
    match transport.queues.get packet.peer with
    | none => (.error (.missingTarget packet.peer), transport)
    | some queue =>
        if queue.length ≥ transport.limits.maxQueuedPacketsPerStation then
          (.error (.queueFull packet.peer transport.limits.maxQueuedPacketsPerStation),
            { transport with
              stats := {
                transport.stats with
                packetsRejectedFull := usizeSaturatingAdd transport.stats.packetsRejectedFull 1 } })
        else
          (.ok (),
            { transport with
              queues := transport.queues.modify packet.peer fun queue => queue ++ [arrival packet]
              stats := {
                transport.stats with
                packetsSent := usizeSaturatingAdd transport.stats.packetsSent 1
                bytesSent := usizeSaturatingAdd transport.stats.bytesSent actual } })

def tryRecvStation (targetStation : StationId) :
    Except StationTransportError (Option StationInboundPacket) × InMemoryStationTransport :=
  match transport.queues.get targetStation with
  | none => (.error (.missingTarget targetStation), transport)
  | some [] => (.ok none, transport)
  | some (packet :: queue) =>
      (.ok (some packet),
        { transport with
          queues := transport.queues.modify targetStation fun _ => queue
          stats := {
            transport.stats with
            packetsReceived := usizeSaturatingAdd transport.stats.packetsReceived 1
            bytesReceived :=
              usizeSaturatingAdd transport.stats.bytesReceived packet.bytes.length } })

/-- The transport as a `StationTransportSink`. -/
def sink : TransportSink InMemoryStationTransport StationOutboundPacket StationTransportError :=
  ⟨sendStation⟩

/-- The packets that wait for a station. -/
def waiting (stationId : StationId) : List StationInboundPacket :=
  (transport.queues.get stationId).getD []

end InMemoryStationTransport

/-! ## What the calls reported -/

/-- The packets that went through a transport and the errors of its sends, the oldest first. -/
structure StationLedger where
  accepted : List StationInboundPacket
  taken : List StationInboundPacket
  /-- The packets that were in a queue when its station was unregistered. -/
  discarded : List StationInboundPacket
  refused : List StationTransportError

/-- The packets for a station. -/
def toStation (stationId : StationId) (packets : List StationInboundPacket) :
    List StationInboundPacket :=
  packets.filter fun packet => packet.route = stationId

/-- The bytes of packets. -/
def inboundBytes (packets : List StationInboundPacket) : ℕ :=
  (packets.map fun packet => packet.bytes.length).sum

section Packets

variable {stationId : StationId} (packets packets' : List StationInboundPacket)

@[simp] lemma toStation_nil : toStation stationId [] = [] := rfl

@[simp] lemma toStation_append :
    toStation stationId (packets ++ packets')
      = toStation stationId packets ++ toStation stationId packets' := List.filter_append ..

lemma toStation_singleton (packet : StationInboundPacket) :
    toStation stationId [packet] = if packet.route = stationId then [packet] else [] := by
  by_cases h : packet.route = stationId <;> simp [toStation, h]

variable {packets}

lemma toStation_eq_self (h : ∀ packet ∈ packets, packet.route = stationId) :
    toStation stationId packets = packets :=
  List.filter_eq_self.mpr fun packet hpacket => by simpa using h packet hpacket

lemma toStation_eq_nil (h : ∀ packet ∈ packets, packet.route ≠ stationId) :
    toStation stationId packets = [] :=
  List.filter_eq_nil_iff.mpr fun packet hpacket => by simpa using h packet hpacket

@[simp] lemma inboundBytes_append :
    inboundBytes (packets ++ packets') = inboundBytes packets + inboundBytes packets' := by
  simp [inboundBytes]

@[simp] lemma inboundBytes_singleton (packet : StationInboundPacket) :
    inboundBytes [packet] = packet.bytes.length := by simp [inboundBytes]

end Packets

namespace StationLedger

open InMemoryStationTransport

def empty : StationLedger := ⟨[], [], [], []⟩

variable (ledger : StationLedger)

/-- A send, with its result. -/
def send (packet : StationOutboundPacket) : Except StationTransportError Unit → StationLedger
  | .ok () => { ledger with accepted := ledger.accepted ++ [arrival packet] }
  | .error error => { ledger with refused := ledger.refused ++ [error] }

/-- A receive, with its result. -/
def recv : Except StationTransportError (Option StationInboundPacket) → StationLedger
  | .ok (some packet) => { ledger with taken := ledger.taken ++ [packet] }
  | _ => ledger

/-- A queue that is discarded. -/
def discard (queue : List StationInboundPacket) : StationLedger :=
  { ledger with discarded := ledger.discarded ++ queue }

/-- Whether an error is that of a full queue. -/
def isFull : StationTransportError → Bool
  | .queueFull _ _ => true
  | _ => false

/-- Whether an error is that of a large packet. -/
def isTooLarge : StationTransportError → Bool
  | .packetTooLarge _ _ => true
  | _ => false

/-- The statistics that the ledger gives. -/
def stats : InMemoryStationTransportStats where
  packetsSent := min ledger.accepted.length usizeMax
  packetsReceived := min ledger.taken.length usizeMax
  bytesSent := min (inboundBytes ledger.accepted) usizeMax
  bytesReceived := min (inboundBytes ledger.taken) usizeMax
  packetsRejectedFull := min (ledger.refused.countP isFull) usizeMax
  packetsRejectedBytes := min (ledger.refused.countP isTooLarge) usizeMax

end StationLedger

/-- **What a transport has to do with its ledger.** -/
structure Conveys (limits : StationTransportLimits) (transport : InMemoryStationTransport)
    (ledger : StationLedger) : Prop where
  sameLimits : transport.limits = limits
  routes : ∀ stationId, ∀ packet ∈ transport.waiting stationId, packet.route = stationId
  bounded : ∀ stationId,
    (transport.waiting stationId).length ≤ limits.maxQueuedPacketsPerStation
  small : ∀ packet ∈ ledger.accepted, packet.bytes.length ≤ limits.maxPacketBytes
  /-- What a station took, and what waits for it, came in that order. -/
  ordered : ∀ stationId,
    (toStation stationId ledger.taken ++ transport.waiting stationId).Sublist
      (toStation stationId ledger.accepted)
  /-- Nothing is lost but with its queue, and nothing is made up. -/
  conserved : ∀ stationId, (toStation stationId ledger.accepted).Perm
    (toStation stationId ledger.taken ++ transport.waiting stationId
      ++ toStation stationId ledger.discarded)
  counted : transport.stats = ledger.stats

namespace Conveys

open InMemoryStationTransport

variable {limits : StationTransportLimits} {transport : InMemoryStationTransport}
  {ledger : StationLedger}

lemma new (limits : StationTransportLimits) :
    Conveys limits (InMemoryStationTransport.new limits) .empty where
  sameLimits := rfl
  routes stationId packet h := by
    simp [waiting, InMemoryStationTransport.new, AdaptiveMap.get_eq] at h
  bounded stationId := by simp [waiting, InMemoryStationTransport.new, AdaptiveMap.get_eq]
  small packet h := by simp [StationLedger.empty] at h
  ordered stationId := by
    simp [waiting, InMemoryStationTransport.new, AdaptiveMap.get_eq, StationLedger.empty]
  conserved stationId := by
    simp [waiting, InMemoryStationTransport.new, AdaptiveMap.get_eq, StationLedger.empty]
  counted := by
    simp [InMemoryStationTransport.new, StationLedger.stats, StationLedger.empty, inboundBytes]

/-- Registering changes no queue. -/
lemma waiting_registerStation (transport : InMemoryStationTransport)
    (stationId stationId' : StationId) :
    (transport.registerStation stationId).waiting stationId' = transport.waiting stationId' := by
  rw [InMemoryStationTransport.registerStation]
  split_ifs with hnone
  · rw [waiting, waiting, AdaptiveMap.get_insert]
    split_ifs with hself
    · rw [hself, Option.isNone_iff_eq_none.mp hnone]
      rfl
    · rfl
  · rfl

lemma stats_registerStation (transport : InMemoryStationTransport) (stationId : StationId) :
    (transport.registerStation stationId).stats = transport.stats
      ∧ (transport.registerStation stationId).limits = transport.limits := by
  rw [InMemoryStationTransport.registerStation]
  split_ifs <;> exact ⟨rfl, rfl⟩

lemma registerStation (h : Conveys limits transport ledger) (stationId : StationId) :
    Conveys limits (transport.registerStation stationId) ledger where
  sameLimits := (stats_registerStation transport stationId).2.trans h.sameLimits
  routes stationId' packet hpacket :=
    h.routes stationId' packet (waiting_registerStation transport stationId stationId' ▸ hpacket)
  bounded stationId' := by
    rw [waiting_registerStation]
    exact h.bounded stationId'
  small := h.small
  ordered stationId' := by
    rw [waiting_registerStation]
    exact h.ordered stationId'
  conserved stationId' := by
    rw [waiting_registerStation]
    exact h.conserved stationId'
  counted := (stats_registerStation transport stationId).1.trans h.counted

/-- Unregistering empties one queue. -/
lemma waiting_unregisterStation (transport : InMemoryStationTransport)
    (stationId stationId' : StationId) :
    (transport.unregisterStation stationId).2.waiting stationId'
      = if stationId' = stationId then [] else transport.waiting stationId' := by
  rw [waiting, waiting, InMemoryStationTransport.unregisterStation, AdaptiveMap.get_remove]
  split_ifs <;> rfl

lemma unregisterStation (h : Conveys limits transport ledger) (stationId : StationId) :
    Conveys limits (transport.unregisterStation stationId).2
      (ledger.discard (transport.waiting stationId)) where
  sameLimits := h.sameLimits
  routes stationId' packet hpacket := by
    rw [waiting_unregisterStation] at hpacket
    split_ifs at hpacket
    · exact absurd hpacket List.not_mem_nil
    · exact h.routes stationId' packet hpacket
  bounded stationId' := by
    rw [waiting_unregisterStation]
    split_ifs
    · exact Nat.zero_le _
    · exact h.bounded stationId'
  small := h.small
  ordered stationId' := by
    rw [waiting_unregisterStation]
    split_ifs with hself
    · rw [List.append_nil]
      exact (List.sublist_append_left _ _).trans (h.ordered stationId')
    · exact h.ordered stationId'
  conserved stationId' := by
    have hold := h.conserved stationId'
    rw [waiting_unregisterStation, StationLedger.discard, toStation_append]
    split_ifs with hself
    · subst hself
      rw [toStation_eq_self (h.routes stationId'), List.append_nil]
      refine hold.trans ?_
      rw [List.append_assoc]
      exact List.Perm.append_left _ List.perm_append_comm
    · rw [toStation_eq_nil fun packet hpacket heq =>
        hself (heq.symm.trans (h.routes stationId packet hpacket)), List.append_nil]
      exact hold
  counted := h.counted

/-- **What a send does.**  It is refused and counted, or its packet enters the queue of its target.
-/
lemma sendStation_cases (transport : InMemoryStationTransport) (packet : StationOutboundPacket) :
    (∃ error stats, transport.sendStation packet
        = (.error error, { transport with stats := stats })
      ∧ ∀ ledger : StationLedger, transport.stats = ledger.stats →
        stats = (ledger.send packet (.error error)).stats)
    ∨ packet.bytes.length ≤ transport.limits.maxPacketBytes
      ∧ (∃ queue, transport.queues.get packet.peer = some queue)
      ∧ (transport.waiting packet.peer).length < transport.limits.maxQueuedPacketsPerStation
      ∧ transport.sendStation packet = (.ok (),
        { transport with
          queues := transport.queues.modify packet.peer fun queue => queue ++ [arrival packet]
          stats := {
            transport.stats with
            packetsSent := usizeSaturatingAdd transport.stats.packetsSent 1
            bytesSent :=
              usizeSaturatingAdd transport.stats.bytesSent packet.bytes.length } }) := by
  unfold sendStation
  dsimp only
  split_ifs with hbytes
  · refine .inl ⟨_, _, rfl, fun ledger hstats => ?_⟩
    simp [hstats, StationLedger.stats, StationLedger.send, StationLedger.isFull,
      StationLedger.isTooLarge, usizeSaturatingAdd_min]
  · cases hqueue : transport.queues.get packet.peer with
    | none =>
        refine .inl ⟨_, _, rfl, fun ledger hstats => ?_⟩
        simp [hstats, StationLedger.stats, StationLedger.send, StationLedger.isFull,
          StationLedger.isTooLarge]
    | some queue =>
        dsimp only
        split_ifs with hfull
        · refine .inl ⟨_, _, rfl, fun ledger hstats => ?_⟩
          simp [hstats, StationLedger.stats, StationLedger.send, StationLedger.isFull,
            StationLedger.isTooLarge, usizeSaturatingAdd_min]
        · refine .inr ⟨not_lt.mp hbytes, ⟨queue, rfl⟩, ?_, rfl⟩
          rw [waiting, hqueue, Option.getD_some]
          exact not_le.mp hfull

/-- **Send step.** -/
lemma sendStation (h : Conveys limits transport ledger) (packet : StationOutboundPacket) :
    Conveys limits (transport.sendStation packet).2
      (ledger.send packet (transport.sendStation packet).1) := by
  rcases sendStation_cases transport packet with
    ⟨error, stats, hsend, hstats⟩ | ⟨hsmall, ⟨queue, hqueue⟩, hroom, hsend⟩
  · rw [hsend]
    exact ⟨h.sameLimits, h.routes, h.bounded, h.small, h.ordered, h.conserved,
      hstats ledger h.counted⟩
  · have hwaiting : ∀ stationId, (transport.sendStation packet).2.waiting stationId
        = transport.waiting stationId ++ toStation stationId [arrival packet] := by
      intro stationId
      have hroute : (arrival packet).route = packet.peer := rfl
      rw [hsend, toStation_singleton, hroute, waiting, waiting, AdaptiveMap.get_modify]
      by_cases hself : stationId = packet.peer
      · simp [hself, hqueue]
      · simp [hself, Ne.symm hself]
    rw [h.sameLimits] at hsmall hroom
    have hlimits : (transport.sendStation packet).2.limits = limits := by
      rw [hsend]
      exact h.sameLimits
    have haccepted : (ledger.send packet (transport.sendStation packet).1).accepted
        = ledger.accepted ++ [arrival packet] := by
      rw [hsend]
      rfl
    have hsame : (ledger.send packet (transport.sendStation packet).1).taken = ledger.taken
        ∧ (ledger.send packet (transport.sendStation packet).1).discarded
          = ledger.discarded := by
      rw [hsend]
      exact ⟨rfl, rfl⟩
    refine ⟨hlimits, fun stationId p hp => ?_, fun stationId => ?_, fun p hp => ?_,
      fun stationId => ?_, fun stationId => ?_, ?_⟩
    · rw [hwaiting, List.mem_append] at hp
      rcases hp with hp | hp
      · exact h.routes stationId p hp
      · simpa using (List.mem_filter.mp hp).2
    · rw [hwaiting, toStation_singleton, List.length_append]
      split_ifs with hself
      · obtain rfl : packet.peer = stationId := hself
        exact hroom
      · exact h.bounded stationId
    · rw [haccepted, List.mem_append, List.mem_singleton] at hp
      rcases hp with hp | rfl
      · exact h.small p hp
      · exact hsmall
    · rw [hwaiting, haccepted, hsame.1, toStation_append, ← List.append_assoc]
      exact (h.ordered stationId).append (List.Sublist.refl _)
    · rw [hwaiting, haccepted, hsame.1, hsame.2, toStation_append, ← List.append_assoc]
      refine ((h.conserved stationId).append_right _).trans ?_
      rw [List.append_assoc, List.append_assoc _ (toStation stationId [arrival packet])]
      exact List.Perm.append_left _ List.perm_append_comm
    · rw [hsend]
      simp [h.counted, StationLedger.stats, StationLedger.send, usizeSaturatingAdd_min, arrival]

/-- **What a receive does.**  It leaves the transport alone, or takes the front of a queue. -/
lemma tryRecvStation_cases (transport : InMemoryStationTransport) (stationId : StationId) :
    (∃ answer, (∀ packet, answer ≠ .ok (some packet))
      ∧ transport.tryRecvStation stationId = (answer, transport))
    ∨ ∃ packet queue, transport.queues.get stationId = some (packet :: queue)
      ∧ transport.tryRecvStation stationId = (.ok (some packet),
        { transport with
          queues := transport.queues.modify stationId fun _ => queue
          stats := {
            transport.stats with
            packetsReceived := usizeSaturatingAdd transport.stats.packetsReceived 1
            bytesReceived :=
              usizeSaturatingAdd transport.stats.bytesReceived packet.bytes.length } }) := by
  unfold tryRecvStation
  rcases hqueue : transport.queues.get stationId with _ | (_ | ⟨packet, queue⟩)
  · exact .inl ⟨_, by simp, rfl⟩
  · exact .inl ⟨_, by simp, rfl⟩
  · exact .inr ⟨packet, queue, rfl, rfl⟩

/-- **Receive step.** -/
lemma tryRecvStation (h : Conveys limits transport ledger) (stationId : StationId) :
    Conveys limits (transport.tryRecvStation stationId).2
      (ledger.recv (transport.tryRecvStation stationId).1) := by
  rcases tryRecvStation_cases transport stationId with
    ⟨answer, hanswer, hrecv⟩ | ⟨packet, queue, hqueue, hrecv⟩
  · have hledger : ledger.recv answer = ledger := by
      rcases answer with error | (_ | packet)
      · rfl
      · rfl
      · exact absurd rfl (hanswer packet)
    rw [hrecv, hledger]
    exact h
  · have hfront : transport.waiting stationId = packet :: queue := by
      rw [waiting, hqueue, Option.getD_some]
    have hroute : packet.route = stationId :=
      h.routes stationId packet (hfront ▸ List.mem_cons_self)
    have hwaiting : ∀ stationId', transport.waiting stationId'
        = toStation stationId' [packet]
          ++ (transport.tryRecvStation stationId).2.waiting stationId' := by
      intro stationId'
      rw [hrecv, toStation_singleton, hroute, waiting, waiting, AdaptiveMap.get_modify]
      by_cases hself : stationId' = stationId
      · simp [hself, hqueue]
      · simp [hself, Ne.symm hself]
    have hledger : ledger.recv (transport.tryRecvStation stationId).1
        = { ledger with taken := ledger.taken ++ [packet] } := by
      rw [hrecv]
      rfl
    rw [hledger]
    refine ⟨?_, fun stationId' p hp => ?_, fun stationId' => ?_, h.small, fun stationId' => ?_,
      fun stationId' => ?_, ?_⟩
    · rw [hrecv]
      exact h.sameLimits
    · refine h.routes stationId' p ?_
      rw [hwaiting]
      exact List.mem_append_right _ hp
    · refine le_trans ?_ (h.bounded stationId')
      rw [hwaiting, List.length_append]
      exact Nat.le_add_left _ _
    · have hordered := h.ordered stationId'
      rw [hwaiting stationId', ← List.append_assoc] at hordered
      rwa [toStation_append]
    · have hconserved := h.conserved stationId'
      rw [hwaiting stationId', ← List.append_assoc] at hconserved
      rwa [toStation_append]
    · rw [hrecv]
      simp [h.counted, StationLedger.stats, usizeSaturatingAdd_min]

end Conveys

/-! ## Runs -/

/-- A call on the transport. -/
inductive StationTransportOp where
  | registerStation (stationId : StationId)
  | unregisterStation (stationId : StationId)
  | sendStation (packet : StationOutboundPacket)
  | tryRecvStation (targetStation : StationId)

/-- A transport with its ledger. -/
structure StationTransportRun where
  transport : InMemoryStationTransport
  ledger : StationLedger

namespace StationTransportRun

/-- An empty transport. -/
def start (limits : StationTransportLimits) : StationTransportRun := ⟨.new limits, .empty⟩

/-- One call. -/
def step (run : StationTransportRun) : StationTransportOp → StationTransportRun
  | .registerStation stationId =>
      { run with transport := run.transport.registerStation stationId }
  | .unregisterStation stationId =>
      ⟨(run.transport.unregisterStation stationId).2,
        run.ledger.discard (run.transport.waiting stationId)⟩
  | .sendStation packet =>
      let (result, transport) := run.transport.sendStation packet
      ⟨transport, run.ledger.send packet result⟩
  | .tryRecvStation targetStation =>
      let (result, transport) := run.transport.tryRecvStation targetStation
      ⟨transport, run.ledger.recv result⟩

lemma conveys_step {limits : StationTransportLimits} (run : StationTransportRun)
    (op : StationTransportOp) (h : Conveys limits run.transport run.ledger) :
    Conveys limits (run.step op).transport (run.step op).ledger := by
  cases op with
  | registerStation stationId => exact h.registerStation stationId
  | unregisterStation stationId => exact h.unregisterStation stationId
  | sendStation packet => exact h.sendStation packet
  | tryRecvStation targetStation => exact h.tryRecvStation targetStation

/-- **The station transport is a set of bounded lossless FIFO queues.**  After every run of
registrations, unregistrations, sends and receives, no queue is over its limit, each station took
its packets in the order in which they were accepted and every packet at most once, every packet
that was accepted was taken, still waits or was discarded with its queue, and the statistics are the
saturated counts of what the calls reported. -/
theorem station_transport_run (limits : StationTransportLimits) (ops : List StationTransportOp) :
    Conveys limits (execute step (start limits) ops).transport
      (execute step (start limits) ops).ledger :=
  execute_preserves (I := fun run : StationTransportRun => Conveys limits run.transport run.ledger)
    conveys_step (Conveys.new limits) ops

end StationTransportRun

end SectorSync
