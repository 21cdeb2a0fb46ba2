import SectorSync.Base.Tagged
import SectorSync.Runtime.VisitorPumps
import SectorSync.Transport.HubRun

/-!
# Endpoints of the in-memory hub

An endpoint of the hub as the transport of a sender and of a receiver, with the history of the hub
as the state.  `send_cases` and `recv_cases` say what a call adds to the histories, and `carriedBy`
reads from a history what its packets carry.
-/

namespace SectorSync

variable {Addr A : Type}

/-- The visitor that keeps what it is shown, and fails for some frames. -/
def failingRecorder (fails : A → Bool) : Visitor (List A) A Unit :=
  fun frames frame => (if fails frame then .error () else .ok (), frames ++ [frame])

/-! ## Histories -/

/-- What the packets of a history carry, with their registrations. -/
def carriedBy (carried : InboundPacket Addr → Option A) (log : List (ℕ × InboundPacket Addr)) :
    List (ℕ × A) :=
  log.filterMap fun entry => (carried entry.2).map (entry.1, ·)

/-- The bytes of a packet that comes from a client. -/
def bytesFrom (source : ClientId) (packet : InboundPacket Addr) : Option (List UInt8) :=
  if packet.clientId = some source then some packet.bytes else none

section Histories

variable {carried : InboundPacket Addr → Option A} {log log' : List (ℕ × InboundPacket Addr)}
  {serial : ℕ} {packet : InboundPacket Addr} {a : A}

lemma carriedBy_append :
    carriedBy carried (log ++ log') = carriedBy carried log ++ carriedBy carried log' :=
  List.filterMap_append

lemma carriedBy_singleton :
    carriedBy carried [(serial, packet)] = (carried packet).toList.map (serial, ·) := by
  cases h : carried packet <;> simp [carriedBy, h]

/-- What is carried for one registration. -/
lemma ofTag_carriedBy (serial : ℕ) :
    ofTag serial (carriedBy carried log) = (HubRun.packetsOf serial log).filterMap carried := by
  induction log with
  | nil => rfl
  | cons entry log ih =>
      obtain ⟨serial', packet⟩ := entry
      have hcons : carriedBy carried ((serial', packet) :: log)
          = carriedBy carried [(serial', packet)] ++ carriedBy carried log := by
        rw [← carriedBy_append, List.singleton_append]
      have hpackets : HubRun.packetsOf serial ((serial', packet) :: log)
          = HubRun.packetsOf serial [(serial', packet)] ++ HubRun.packetsOf serial log :=
        HubRun.packetsOf_append [_] log
      rw [hcons, hpackets, ofTag_append, ih, List.filterMap_append, carriedBy_singleton, ofTag_map]
      congr 1
      by_cases hserial : serial' = serial
      · cases h : carried packet <;> simp [HubRun.packetsOf, hserial, h]
      · simp [HubRun.packetsOf, hserial]

lemma mem_carriedBy (hpacket : (serial, packet) ∈ log) (ha : carried packet = some a) :
    (serial, a) ∈ carriedBy carried log :=
  List.mem_filterMap.mpr ⟨_, hpacket, by rw [ha]; rfl⟩

end Histories

/-! ## The calls of an endpoint -/

open HubRun InMemoryTransportHub InMemoryTransportEndpoint

section Endpoints

variable [DecidableEq Addr]

/-- The hub as the packet sink of an endpoint. -/
def hubSink (endpoint : InMemoryTransportEndpoint) :
    TransportSink (HubRun Addr) OutboundPacket InMemoryTransportError where
  send net packet := ((endpoint.sendLocked net.hub packet).1, net.step (.send endpoint packet))

/-- The hub as the packet receiver of an endpoint. -/
def hubReceiver (endpoint : InMemoryTransportEndpoint) :
    TransportReceiver (HubRun Addr) Addr InMemoryTransportError where
  tryRecv net := ((endpoint.tryRecv net.hub).1, net.step (.tryRecv endpoint))

namespace HubRun

variable {limits : ClientTransportLimits} {net : HubRun Addr}

/-- A send is rejected and not logged, or puts its packet into the queue of a registered client. -/
lemma send_cases (h : Invariant limits net) (endpoint : InMemoryTransportEndpoint)
    (packet : OutboundPacket) :
    (∃ error, (endpoint.sendLocked net.hub packet).1 = .error error
        ∧ (net.step (.send endpoint packet)).accepted = net.accepted)
      ∨ (endpoint.sendLocked net.hub packet).1 = .ok () ∧ 0 < net.serials packet.clientId
        ∧ ∃ addr, (net.step (.send endpoint packet)).accepted = net.accepted
          ++ [(net.serials packet.clientId, ⟨some endpoint.localClientId, addr, packet.bytes⟩)] := by
  rcases endpoint.sendLocked_cases net.hub packet with
    ⟨error, stats, hsend, -⟩ | ⟨source, target, stats, hsource, htarget, -, hsend, -⟩
  · have hnone : inbound net.hub endpoint packet = [] := by
      rw [inbound, hsend, if_neg (by simp)]
    refine .inl ⟨error, by rw [hsend], ?_⟩
    rw [step, hnone]
    exact List.append_nil _
  · obtain ⟨hlocal, -⟩ := (endpoint.localClient_eq_some net.hub).mp hsource
    have hinbound : inbound net.hub endpoint packet
        = [⟨some endpoint.localClientId, source.remoteAddr, packet.bytes⟩] := by
      rw [inbound, hsend, if_pos rfl, addrOf, hlocal]
      rfl
    refine .inr ⟨by rw [hsend], h.registry.numbered _ _ htarget, source.remoteAddr, ?_⟩
    rw [step, hinbound]
    rfl

/-- A packet that carries nothing adds nothing to what was accepted. -/
lemma carriedBy_send_of_none (h : Invariant limits net) {carried : InboundPacket Addr → Option A}
    {endpoint : InMemoryTransportEndpoint} {packet : OutboundPacket}
    (hnone : ∀ addr, carried ⟨some endpoint.localClientId, addr, packet.bytes⟩ = none) :
    carriedBy carried (net.step (.send endpoint packet)).accepted
      = carriedBy carried net.accepted := by
  rcases send_cases h endpoint packet with ⟨error, -, haccepted⟩ | ⟨-, -, addr, haccepted⟩
  · rw [haccepted]
  · rw [haccepted, carriedBy_append, carriedBy_singleton, hnone addr]
    exact List.append_nil _

/-- A receive leaves everything as it is, or takes the first packet of the queue. -/
lemma recv_cases (net : HubRun Addr) (endpoint : InMemoryTransportEndpoint) :
    ((∀ packet, (endpoint.tryRecv net.hub).1 ≠ .ok (some packet))
        ∧ net.step (.tryRecv endpoint) = net)
      ∨ ∃ client packet queue, net.hub.clients.get endpoint.localClientId = some client
        ∧ client.queue = packet :: queue
        ∧ (endpoint.tryRecv net.hub).1 = .ok (some packet)
        ∧ (net.step (.tryRecv endpoint)).received
          = net.received ++ [(net.serials endpoint.localClientId, packet)] := by
  rcases endpoint.tryRecv_cases net.hub with
    ⟨answer, hanswer, hrecv⟩ | ⟨client, packet, queue, stats, hlocal, hqueue, hrecv, -⟩
  · have hnone : outbound net.hub endpoint = [] := by
      rw [outbound, hrecv]
      rcases answer with error | _ | packet
      · rfl
      · rfl
      · exact absurd rfl (hanswer packet)
    refine .inl ⟨fun packet => ?_, ?_⟩
    · rw [hrecv]
      exact hanswer packet
    · rw [step, hnone, hrecv, List.map_nil, List.append_nil]
  · obtain ⟨hclient, -⟩ := (endpoint.localClient_eq_some net.hub).mp hlocal
    refine .inr ⟨client, packet, queue, hclient, hqueue, by rw [hrecv], ?_⟩
    rw [step, outbound, hrecv]
    rfl

/-- A packet that waits for a client was accepted for its registration. -/
lemma mem_accepted_of_queue (h : Invariant limits net) {clientId : ClientId}
    {client : InMemoryTransportClient Addr} (hclient : net.hub.clients.get clientId = some client)
    {packet : InboundPacket Addr} (hpacket : packet ∈ client.queue) :
    (net.serials clientId, packet) ∈ net.accepted := by
  refine mem_ofTag.mp ?_
  show packet ∈ packetsOf (net.serials clientId) net.accepted
  rw [h.queues.queue clientId client hclient]
  exact List.mem_append_right _ hpacket

/-- What was received of the things carried is the first of what was accepted. -/
lemma carriedBy_prefix (h : Invariant limits net) (carried : InboundPacket Addr → Option A)
    (serial : ℕ) :
    ofTag serial (carriedBy carried net.received) <+: ofTag serial (carriedBy carried net.accepted)
      := by
  rw [ofTag_carriedBy, ofTag_carriedBy]
  exact (h.queues.fifo serial).filterMap _

/-- What was not received of the things carried waits in the queue. -/
lemma carriedBy_queue (h : Invariant limits net) (carried : InboundPacket Addr → Option A)
    {clientId : ClientId} {client : InMemoryTransportClient Addr}
    (hclient : net.hub.clients.get clientId = some client) :
    ofTag (net.serials clientId) (carriedBy carried net.accepted)
      = ofTag (net.serials clientId) (carriedBy carried net.received)
        ++ client.queue.filterMap carried := by
  rw [ofTag_carriedBy, ofTag_carriedBy, h.queues.queue clientId client hclient,
    List.filterMap_append]

end HubRun

end Endpoints

end SectorSync
