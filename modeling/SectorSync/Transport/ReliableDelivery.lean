import SectorSync.Transport.ReliableReceiver

/-!
# End-to-end reliable delivery

Reliable endpoints joined by a network that loses, duplicates and reorders packets.  The network
is the log of every packet a transport accepted: a delivery hands over any entry of the log, any
number of times or never, and takes nothing out.

`Topology` says which endpoint an address belongs to and how the source of a packet is told; the
client network and the station network with one local target for each endpoint are its instances.
`Delivers` is what the link promises: what is delivered was sent, no pair of a source and a
sequence number is delivered twice within the history, and what an acknowledgement removes from
flight was delivered.  `NetworkInv` relates the packets on the wire, the packets in flight and the
histories of the receivers, and `reliable_delivery` is the result for both links.

The counter of a peer stops at the last sequence number, which later packets then share; what an
acknowledgement of it removes may be another packet than the one delivered, and
`removed_undelivered` is such a run.
-/

namespace SectorSync.ReliableNetwork

open Machine Window ReliableSender ReliableReceiver

/-! ## The network -/

/-- How the endpoints `N` of a link are addressed. -/
structure Topology {O R : Type} (link : ReliableLink O R) (N P : Type) where
  /-- The endpoint an address belongs to. -/
  host : P → N
  /-- The address packets for an endpoint are sent to. -/
  target : N → P
  /-- The address a packet of an endpoint comes from. -/
  source : N → O → P
  /-- The route by which a packet of an endpoint comes in. -/
  route : N → ReliableOutbound P O → R
  host_target : ∀ n, host (target n) = n
  /-- Acknowledgements come from the address the packet was sent to. -/
  ack_source : ∀ n packet, source (host packet.peer) (link.ackOrigin (route n packet)) = packet.peer

/-- The client network: one client for each endpoint, known by its address.  A packet of a client
the transport does not know is refused without a trace, like a packet that is lost. -/
def clientTopology {Addr : Type} (addr : ClientId → Addr) :
    Topology (clientLink Addr) ClientId ClientId where
  host := id
  target := id
  source n _ := n
  route n _ := addr n
  host_target _ := rfl
  ack_source _ _ := rfl

/-- Stations on endpoints, one of them on each endpoint the target. -/
structure StationHosts (N : Type) where
  host : StationId → N
  target : N → StationId
  host_target : ∀ n, host (target n) = n

/-- The station network: an endpoint sends for any of its stations, and receives for one. -/
def stationTopology {N : Type} (hosts : StationHosts N) : Topology stationLink N StationId where
  host := hosts.host
  target := hosts.target
  source _ origin := origin
  route _ packet := packet.peer
  host_target := hosts.host_target
  ack_source _ _ := rfl

/-- A packet whose first transmission the transport accepted. -/
structure Sent (N P O : Type) where
  sender : N
  origin : O
  peer : P
  sequence : UInt64
  payload : List UInt8
  deriving DecidableEq

/-- A payload an endpoint returned to its caller. -/
structure Delivery (N P : Type) where
  receiver : N
  source : P
  sequence : UInt64
  payload : List UInt8
  deriving DecidableEq

/-- The pair of a delivery. -/
def Delivery.packetKey {N P : Type} (d : Delivery N P) : PacketKey P := ⟨d.source, d.sequence⟩

/-- A packet an acknowledgement removed from flight. -/
structure Removal (N P O : Type) where
  sender : N
  packet : InFlightReliablePacket P O
  deriving DecidableEq

/-- The endpoints and their network, with what happened so far. -/
structure State (N P O T : Type) [LinearOrder P] where
  endpoints : N → ReliableEndpoint P O
  transport : T
  /-- Every packet the transports accepted, with the endpoint it came from. -/
  wire : List (N × ReliableOutbound P O)
  sent : List (Sent N P O)
  delivered : List (Delivery N P)
  acknowledged : List (Removal N P O)

variable {N P O R T E : Type} [DecidableEq N] [LinearOrder P]

/-- New endpoints on an empty network. -/
def State.new (config : N → ReliableConfig) (transport : T) : State N P O T :=
  ⟨fun n => ReliableEndpoint.new (config n), transport, [], [], [], []⟩

/-- The pairs delivered at an endpoint. -/
def State.keysAt (state : State N P O T) (n : N) : List (PacketKey P) :=
  (state.delivered.filter fun d => d.receiver = n).map Delivery.packetKey

/-- The state after an endpoint has acted: what it left behind, what the transport accepted, and
what goes on record. -/
def State.act (state : State N P O T) (n : N) (endpoint : ReliableEndpoint P O) (transport : T)
    (accepted : List (ReliableOutbound P O)) (sends : List (Sent N P O))
    (deliveries : List (Delivery N P)) (removals : List (Removal N P O)) : State N P O T :=
  { endpoints := Function.update state.endpoints n endpoint
    transport := transport
    wire := state.wire ++ accepted.map fun packet => (n, packet)
    sent := state.sent ++ sends
    delivered := state.delivered ++ deliveries
    acknowledged := state.acknowledged ++ removals }

variable {link : ReliableLink O R} (topology : Topology link N P)

/-- What happens on the network. -/
inductive Op where
  /-- An endpoint sends to the target of another, from one of its own addresses. -/
  | send (n : N) (origin : { o : O // topology.host (topology.source n o) = n }) (m : N)
      (payload : List UInt8) (nowTick : UInt64)
  | retryDue (n : N) (nowTick : UInt64)
  /-- The network hands over a packet of the log. -/
  | deliver (i : ℕ)

omit [DecidableEq N] in
/-- What a send adds to the packets sent. -/
def sentBy (n : N) (packet : ReliableOutbound P O) :
    Except (ReliableError P E) UInt64 → List (Sent N P O)
  | .ok sequence => [⟨n, packet.origin, packet.peer, sequence, packet.bytes⟩]
  | .error _ => []

omit [DecidableEq N] in
/-- What an inbound packet adds to the payloads delivered. -/
def deliveredBy (magic : List UInt8) (m : N) (bytes : List UInt8) :
    Except (ReliableError P E) (Option (ReliableInbound P R)) → List (Delivery N P)
  | .ok (some inbound) =>
      match ReliableFrame.decode magic bytes with
      | .ok (.data sequence _) => [⟨m, inbound.source, sequence, inbound.bytes⟩]
      | _ => []
  | _ => []

omit [DecidableEq N] in
/-- What an inbound packet removes from flight. -/
def removedBy (magic : List UInt8) (m : N) (sender : ReliableSender P O) (source : P)
    (bytes : List UInt8) : List (Removal N P O) :=
  match ReliableFrame.decode magic bytes with
  | .ok (.ack sequence) => (sender.removeInFlight ⟨source, sequence⟩).1.toList.map fun p => ⟨m, p⟩
  | _ => []

variable {topology} (sink : N → TransportSink T (ReliableOutbound P O) E)

/-- The network hands a packet of the log to the endpoint of its address. -/
def handOver (topology : Topology link N P) (state : State N P O T)
    (entry : N × ReliableOutbound P O) : State N P O T :=
  let m := topology.host entry.2.peer
  let source := topology.source entry.1 entry.2.origin
  let (result, endpoint, transport, accepted) :=
    (state.endpoints m).handleInbound link (sink m).logged (state.transport, [])
      ⟨source, topology.route entry.1 entry.2, entry.2.bytes⟩
  state.act m endpoint transport accepted []
    (deliveredBy link.magic m entry.2.bytes result)
    (removedBy link.magic m (state.endpoints m).sender source entry.2.bytes)

/-- One event. -/
def step (state : State N P O T) : Op topology → State N P O T
  | .send n origin m payload nowTick =>
      let packet : ReliableOutbound P O := ⟨origin.1, topology.target m, payload⟩
      let (result, endpoint, transport, accepted) :=
        (state.endpoints n).send link (sink n).logged (state.transport, []) packet nowTick
      state.act n endpoint transport accepted (sentBy n packet result) [] []
  | .retryDue n nowTick =>
      let (_, endpoint, transport, accepted) :=
        (state.endpoints n).retryDue link (sink n).logged (state.transport, []) nowTick
      state.act n endpoint transport accepted [] [] []
  | .deliver i =>
      match state.wire[i]? with
      | none => state
      | some entry => handOver sink topology state entry

/-! ## The promise -/

variable (topology)

/-- The delivery is of the packet. -/
structure Carries (s : Sent N P O) (d : Delivery N P) : Prop where
  receiver : d.receiver = topology.host s.peer
  source : d.source = topology.source s.sender s.origin
  sequence : d.sequence = s.sequence
  payload : d.payload = s.payload

/-- What the reliable link promises. -/
structure Delivers (config : N → ReliableConfig) (state : State N P O T) : Prop where
  /-- What is delivered was sent by its source, under its sequence number, with its bytes. -/
  sent : ∀ d ∈ state.delivered, ∃ s ∈ state.sent, Carries topology s d
  /-- Between two deliveries of a pair, at least `max_delivered_history` others are delivered. -/
  spaced : ∀ n pre k mid post, state.keysAt n = pre ++ k :: (mid ++ k :: post) →
    (config n).maxDeliveredHistory ≤ (mid.toFinset.erase k).card
  /-- A packet removed by an acknowledgement was delivered: one with its number, and below the
  last number the packet itself. -/
  acknowledged : ∀ r ∈ state.acknowledged, ∃ d ∈ state.delivered,
    d.receiver = topology.host r.packet.peer ∧ topology.host d.source = r.sender ∧
      d.sequence = r.packet.sequence ∧ (r.packet.sequence < UInt64.maxValue →
        d.source = topology.source r.sender r.packet.origin ∧ d.payload = r.packet.payload)

/-! ## The invariant -/

variable (link) in
/-- An entry of the wire transmits a packet sent. -/
def IsData (sent : List (Sent N P O)) (entry : N × ReliableOutbound P O) : Prop :=
  ∃ s ∈ sent, s.sender = entry.1 ∧ s.origin = entry.2.origin ∧ s.peer = entry.2.peer ∧
    ReliableFrame.encodeData link.magic s.sequence s.payload = .ok entry.2.bytes

/-- An entry of the wire acknowledges a delivery. -/
def IsAck (delivered : List (Delivery N P)) (entry : N × ReliableOutbound P O) : Prop :=
  ∃ d ∈ delivered, d.receiver = entry.1 ∧ d.source = entry.2.peer ∧
    topology.source entry.1 entry.2.origin = topology.target entry.1 ∧
    (ReliableFrame.ack d.sequence).encode link.magic = .ok entry.2.bytes

/-- A packet in flight at an endpoint, as it was sent. -/
def asSent (n : N) (packet : InFlightReliablePacket P O) : Sent N P O :=
  ⟨n, packet.origin, packet.peer, packet.sequence, packet.payload⟩

/-- A packet in flight is under its own key, and was sent. -/
def Stored (sent : List (Sent N P O)) (n : N) (k : PacketKey P)
    (packet : InFlightReliablePacket P O) : Prop :=
  packet.peer = k.peer ∧ packet.sequence = k.sequence ∧ asSent n packet ∈ sent

/-- What was removed from flight was sent, and a packet with its number was delivered. -/
def WasDelivered (sent : List (Sent N P O)) (delivered : List (Delivery N P))
    (r : Removal N P O) : Prop :=
  asSent r.sender r.packet ∈ sent ∧ ∃ d ∈ delivered, d.receiver = topology.host r.packet.peer ∧
    topology.host d.source = r.sender ∧ d.sequence = r.packet.sequence

/-- The addresses of a packet sent: the source is one of its sender, the target the only one of
its endpoint. -/
def Addressed (s : Sent N P O) : Prop :=
  topology.host (topology.source s.sender s.origin) = s.sender ∧
    topology.target (topology.host s.peer) = s.peer

/-- What relates the endpoints, the wire and the history. -/
structure NetworkInv (config : N → ReliableConfig) (state : State N P O T) : Prop where
  config : ∀ n, (state.endpoints n).receiver.config = config n
  remembers : ∀ n, Remembers (state.keysAt n) (state.endpoints n).receiver
  stored : ∀ n, AllInFlight (Stored state.sent n) (state.endpoints n).sender
  wire : ∀ entry ∈ state.wire, IsData link state.sent entry ∨ IsAck topology state.delivered entry
  addressed : ∀ s ∈ state.sent, Addressed topology s
  numbered : ∀ s ∈ state.sent, s.sequence < UInt64.maxValue →
    s.sequence < (state.endpoints s.sender).sender.nextFor s.peer
  unique : ∀ s ∈ state.sent, ∀ s' ∈ state.sent, s.sender = s'.sender → s.peer = s'.peer →
    s.sequence = s'.sequence → s.sequence < UInt64.maxValue → s = s'
  delivered : ∀ d ∈ state.delivered, ∃ s ∈ state.sent, Carries topology s d
  acknowledged : ∀ r ∈ state.acknowledged,
    WasDelivered topology state.sent state.delivered r

/-- What one endpoint may do: its sender only moves its numbers on, its receiver keeps its
history, and what it puts on the wire and on record is in order. -/
structure Acts (config : N → ReliableConfig) (state : State N P O T) (n : N)
    (endpoint : ReliableEndpoint P O) (accepted : List (ReliableOutbound P O))
    (sends : List (Sent N P O)) (deliveries : List (Delivery N P))
    (removals : List (Removal N P O)) : Prop where
  config : endpoint.receiver.config = config n
  remembers : Remembers (state.keysAt n ++ deliveries.map Delivery.packetKey) endpoint.receiver
  stored : AllInFlight (Stored (state.sent ++ sends) n) endpoint.sender
  next : ∀ peer, (state.endpoints n).sender.nextFor peer ≤ endpoint.sender.nextFor peer
  wire : ∀ packet ∈ accepted, IsData link (state.sent ++ sends) (n, packet) ∨
    IsAck topology (state.delivered ++ deliveries) (n, packet)
  sent : ∀ s ∈ sends, s.sender = n ∧ Addressed topology s ∧
    s.sequence = (state.endpoints n).sender.nextFor s.peer ∧
    (s.sequence < UInt64.maxValue → s.sequence < endpoint.sender.nextFor s.peer)
  once : ∀ s ∈ sends, ∀ s' ∈ sends, s = s'
  delivered : ∀ d ∈ deliveries, d.receiver = n ∧ ∃ s ∈ state.sent, Carries topology s d
  acknowledged : ∀ r ∈ removals, WasDelivered topology state.sent state.delivered r

variable {topology} {config : N → ReliableConfig} {state : State N P O T}

lemma networkInv_new (transport : T) :
    NetworkInv topology config (State.new config transport : State N P O T) where
  config _ := rfl
  remembers n := remembers_new (config n)
  stored n k packet h := by simp [State.new, ReliableEndpoint.new, ReliableSender.new] at h
  wire _ h := absurd h List.not_mem_nil
  addressed _ h := absurd h List.not_mem_nil
  numbered _ h := absurd h List.not_mem_nil
  unique _ h := absurd h List.not_mem_nil
  delivered _ h := absurd h List.not_mem_nil
  acknowledged _ h := absurd h List.not_mem_nil

omit [DecidableEq N] in
lemma stored_mono {sent sent' : List (Sent N P O)} {n : N} {s : ReliableSender P O}
    (h : AllInFlight (Stored sent n) s) (hsub : sent ⊆ sent') : AllInFlight (Stored sent' n) s :=
  fun k packet hlook =>
    let ⟨hpeer, hsequence, hsent⟩ := h k packet hlook
    ⟨hpeer, hsequence, hsub hsent⟩

omit [DecidableEq N] [LinearOrder P] in
lemma IsData.mono {sent sent' : List (Sent N P O)} {entry : N × ReliableOutbound P O}
    (h : IsData link sent entry) (hsub : sent ⊆ sent') : IsData link sent' entry :=
  let ⟨s, hs, hsent⟩ := h
  ⟨s, hsub hs, hsent⟩

omit [DecidableEq N] [LinearOrder P] in
lemma IsAck.mono {delivered delivered' : List (Delivery N P)} {entry : N × ReliableOutbound P O}
    (h : IsAck topology delivered entry) (hsub : delivered ⊆ delivered') :
    IsAck topology delivered' entry :=
  let ⟨d, hd, hack⟩ := h
  ⟨d, hsub hd, hack⟩

omit [DecidableEq N] [LinearOrder P] in
lemma WasDelivered.mono {sent sent' : List (Sent N P O)}
    {delivered delivered' : List (Delivery N P)} {r : Removal N P O}
    (h : WasDelivered topology sent delivered r) (hsent : sent ⊆ sent')
    (hdelivered : delivered ⊆ delivered') : WasDelivered topology sent' delivered' r :=
  let ⟨hr, d, hd, hdr⟩ := h
  ⟨hsent hr, d, hdelivered hd, hdr⟩

/-- The pairs delivered at an endpoint after one has acted. -/
lemma keysAt_act (n m : N) {endpoint : ReliableEndpoint P O} {transport : T}
    {accepted : List (ReliableOutbound P O)} {sends : List (Sent N P O)}
    {deliveries : List (Delivery N P)} {removals : List (Removal N P O)}
    (h : ∀ d ∈ deliveries, d.receiver = n) :
    (state.act n endpoint transport accepted sends deliveries removals).keysAt m
      = if m = n then state.keysAt m ++ deliveries.map Delivery.packetKey else state.keysAt m := by
  rw [State.keysAt, State.act, List.filter_append, List.map_append, ← State.keysAt]
  split_ifs with hm
  · rw [List.filter_eq_self.mpr fun d hd => by simp [h d hd, hm]]
  · rw [List.filter_eq_nil_iff.mpr fun d hd => by simp [h d hd, Ne.symm hm], List.map_nil,
      List.append_nil]

/-- **The frame rule.**  An endpoint that acts as it may keeps the invariant of the network. -/
lemma NetworkInv.act (inv : NetworkInv topology config state) {n : N}
    {endpoint : ReliableEndpoint P O} {accepted : List (ReliableOutbound P O)}
    {sends : List (Sent N P O)} {deliveries : List (Delivery N P)} {removals : List (Removal N P O)}
    (h : Acts topology config state n endpoint accepted sends deliveries removals)
    (transport : T) :
    NetworkInv topology config
      (state.act n endpoint transport accepted sends deliveries removals) := by
  have hsent : state.sent ⊆ state.sent ++ sends := List.subset_append_left _ _
  have hdelivered : state.delivered ⊆ state.delivered ++ deliveries := List.subset_append_left _ _
  have hsame : Function.update state.endpoints n endpoint n = endpoint := Function.update_self ..
  have hother : ∀ m, m ≠ n → Function.update state.endpoints n endpoint m = state.endpoints m :=
    fun m hm => Function.update_of_ne hm ..
  constructor
  · intro m
    show (Function.update state.endpoints n endpoint m).receiver.config = config m
    rcases eq_or_ne m n with rfl | hm
    · rw [hsame]
      exact h.config
    · rw [hother m hm]
      exact inv.config m
  · intro m
    rw [keysAt_act n m fun d hd => (h.delivered d hd).1]
    show Remembers _ (Function.update state.endpoints n endpoint m).receiver
    rcases eq_or_ne m n with rfl | hm
    · rw [hsame, if_pos rfl]
      exact h.remembers
    · rw [hother m hm, if_neg hm]
      exact inv.remembers m
  · intro m
    show AllInFlight _ (Function.update state.endpoints n endpoint m).sender
    rcases eq_or_ne m n with rfl | hm
    · rw [hsame]
      exact h.stored
    · rw [hother m hm]
      exact stored_mono (inv.stored m) hsent
  · intro entry hentry
    rcases List.mem_append.mp hentry with hold | hnew
    · exact (inv.wire entry hold).imp (fun hdata => hdata.mono hsent)
        (fun hack => hack.mono hdelivered)
    · obtain ⟨packet, hpacket, rfl⟩ := List.mem_map.mp hnew
      exact h.wire packet hpacket
  · intro s hs
    rcases List.mem_append.mp hs with hold | hnew
    · exact inv.addressed s hold
    · exact (h.sent s hnew).2.1
  · intro s hs hlast
    show _ < (Function.update state.endpoints n endpoint s.sender).sender.nextFor s.peer
    rcases List.mem_append.mp hs with hold | hnew
    · have hlt := inv.numbered s hold hlast
      rcases eq_or_ne s.sender n with hn | hn
      · rw [hn, hsame]
        rw [hn] at hlt
        exact hlt.trans_le (h.next s.peer)
      · rw [hother _ hn]
        exact hlt
    · obtain ⟨hn, -, -, hlt⟩ := h.sent s hnew
      rw [hn, hsame]
      exact hlt hlast
  · -- a new number is above all numbers in use
    have hfresh : ∀ s ∈ state.sent, ∀ s' ∈ sends, s.sender = s'.sender → s.peer = s'.peer →
        s.sequence < UInt64.maxValue → s.sequence ≠ s'.sequence := by
      intro s hs s' hs' hsender hpeer hlast heq
      obtain ⟨hn, -, hnext, -⟩ := h.sent s' hs'
      have hlt := inv.numbered s hs hlast
      rw [hsender, hn, hpeer, ← hnext, heq] at hlt
      exact lt_irrefl _ hlt
    intro s hs s' hs' hsender hpeer hsequence hlast
    rcases List.mem_append.mp hs with hold | hnew
    · rcases List.mem_append.mp hs' with hold' | hnew'
      · exact inv.unique s hold s' hold' hsender hpeer hsequence hlast
      · exact absurd hsequence (hfresh s hold s' hnew' hsender hpeer hlast)
    · rcases List.mem_append.mp hs' with hold' | hnew'
      · exact absurd hsequence.symm
          (hfresh s' hold' s hnew hsender.symm hpeer.symm (hsequence ▸ hlast))
      · exact h.once s hnew s' hnew'
  · intro d hd
    rcases List.mem_append.mp hd with hold | hnew
    · obtain ⟨s, hs, hcarries⟩ := inv.delivered d hold
      exact ⟨s, hsent hs, hcarries⟩
    · obtain ⟨-, s, hs, hcarries⟩ := h.delivered d hnew
      exact ⟨s, hsent hs, hcarries⟩
  · intro r hr
    rcases List.mem_append.mp hr with hold | hnew
    · exact (inv.acknowledged r hold).mono hsent hdelivered
    · exact (h.acknowledged r hnew).mono hsent hdelivered

/-! ## The events -/

/-- An endpoint that leaves its receiver alone and records no send puts on the wire what it sent
before. -/
lemma NetworkInv.acts_sender (inv : NetworkInv topology config state) {n : N}
    {endpoint : ReliableEndpoint P O} {accepted : List (ReliableOutbound P O)}
    {removals : List (Removal N P O)}
    (hreceiver : endpoint.receiver = (state.endpoints n).receiver)
    (hstored : AllInFlight (Stored state.sent n) endpoint.sender)
    (hnext : ∀ peer, (state.endpoints n).sender.nextFor peer ≤ endpoint.sender.nextFor peer)
    (hwire : ∀ packet ∈ accepted, IsData link state.sent (n, packet))
    (hremoved : ∀ r ∈ removals, WasDelivered topology state.sent state.delivered r) :
    Acts topology config state n endpoint accepted [] [] removals where
  config := hreceiver ▸ inv.config n
  remembers := by
    rw [List.map_nil, List.append_nil, hreceiver]
    exact inv.remembers n
  stored := stored_mono hstored (List.subset_append_left _ _)
  next := hnext
  wire packet hpacket := .inl ((hwire packet hpacket).mono (List.subset_append_left _ _))
  sent _ h := absurd h List.not_mem_nil
  once _ h := absurd h List.not_mem_nil
  delivered _ h := absurd h List.not_mem_nil
  acknowledged := hremoved

/-- An endpoint whose send is accepted puts one data frame on the wire, under a number above all
numbers it has used for the peer. -/
lemma NetworkInv.acts_send (inv : NetworkInv topology config state) {n m : N}
    {origin : O} (horigin : topology.host (topology.source n origin) = n) {payload : List UInt8}
    (nowTick : UInt64) {bytes : List UInt8}
    (hencode : ReliableFrame.encodeData link.magic
      ((state.endpoints n).sender.nextFor (topology.target m)) payload = .ok bytes) :
    Acts topology config state n
      { state.endpoints n with
        sender := ((state.endpoints n).sender.allocateSequence (topology.target m)).2.recordSent
          ⟨origin, topology.target m, payload⟩
          ((state.endpoints n).sender.nextFor (topology.target m)) nowTick }
      [⟨origin, topology.target m, bytes⟩]
      [⟨n, origin, topology.target m, (state.endpoints n).sender.nextFor (topology.target m),
        payload⟩] [] [] := by
  set s := (state.endpoints n).sender with hs
  set new : Sent N P O := ⟨n, origin, topology.target m, s.nextFor (topology.target m), payload⟩
  have hmem : new ∈ state.sent ++ [new] := List.mem_append_right _ (List.mem_singleton_self new)
  have hnumbers := sameNumbers_recordSent (s.allocateSequence (topology.target m)).2
    ⟨origin, topology.target m, payload⟩ (s.nextFor (topology.target m)) nowTick
  constructor
  · exact inv.config n
  · rw [List.map_nil, List.append_nil]
    exact inv.remembers n
  · have hallocated : AllInFlight (Stored (state.sent ++ [new]) n)
        (s.allocateSequence (topology.target m)).2 :=
      stored_mono (inv.stored n) (List.subset_append_left _ _)
    exact hallocated.recordSent ⟨rfl, rfl, hmem⟩
  · intro peer
    show s.nextFor peer ≤ nextFor _ peer
    rw [hnumbers.nextFor]
    exact le_nextFor_allocateSequence _ peer
  · intro packet hpacket
    rw [List.mem_singleton.mp hpacket]
    exact .inl ⟨new, hmem, rfl, rfl, rfl, hencode⟩
  · intro s' hs'
    rw [List.mem_singleton.mp hs']
    refine ⟨rfl, ⟨horigin, ?_⟩, rfl, fun hlast => ?_⟩
    · exact congrArg topology.target (topology.host_target m)
    · show s.nextFor _ < nextFor _ (topology.target m)
      rw [hnumbers.nextFor, nextFor_allocateSequence, if_pos rfl]
      exact UInt64.lt_saturatingAdd_one_iff.mpr ⟨le_refl _, hlast⟩
  · intro s₁ h₁ s₂ h₂
    rw [List.mem_singleton.mp h₁, List.mem_singleton.mp h₂]
  · exact fun _ h => absurd h List.not_mem_nil
  · exact fun _ h => absurd h List.not_mem_nil

/-- **A send.** -/
lemma NetworkInv.send (inv : NetworkInv topology config state) (n : N)
    (origin : { o : O // topology.host (topology.source n o) = n }) (m : N) (payload : List UInt8)
    (nowTick : UInt64) :
    NetworkInv topology config (step sink state (.send n origin m payload nowTick)) := by
  set s := (state.endpoints n).sender with hs
  rcases send_cases link (sink n) s (state.transport, []) ⟨origin.1, topology.target m, payload⟩
    nowTick with
    ⟨error, s', ⟨t', accepted⟩, hsend, hs', hlog⟩ |
    ⟨bytes, ⟨t', accepted⟩, hsend, -, hencode, hlog⟩
  · have hstep : step sink state (.send n origin m payload nowTick)
        = state.act n { state.endpoints n with sender := s' } t' [] [] [] [] := by
      simp only [step, ReliableEndpoint.send, ← hs, hsend, hlog, sentBy]
    rw [hstep]
    refine inv.act (inv.acts_sender ?_ ?_ ?_ ?_ ?_) t'
    · rfl
    · rcases hs' with rfl | rfl
      · exact inv.stored n
      · exact inv.stored n
    · intro peer
      rcases hs' with rfl | rfl
      · exact le_refl _
      · exact le_nextFor_allocateSequence _ peer
    · exact fun _ h => absurd h List.not_mem_nil
    · exact fun _ h => absurd h List.not_mem_nil
  · have hstep : step sink state (.send n origin m payload nowTick)
        = state.act n { state.endpoints n with
            sender := (s.allocateSequence (topology.target m)).2.recordSent
              ⟨origin.1, topology.target m, payload⟩ (s.nextFor (topology.target m)) nowTick } t'
          [⟨origin.1, topology.target m, bytes⟩]
          [⟨n, origin.1, topology.target m, s.nextFor (topology.target m), payload⟩] [] [] := by
      simp only [step, ReliableEndpoint.send, ← hs, hsend, hlog, sentBy, List.nil_append]
    rw [hstep]
    exact inv.act (inv.acts_send origin.2 nowTick hencode) t'

variable (link) in
omit [DecidableEq N] in
/-- What a retry pass puts on the wire was sent before. -/
lemma retryDueInto_data {sent : List (Sent N P O)} {n : N} {s : ReliableSender P O}
    (h : AllInFlight (Stored sent n) s) (sink : TransportSink T (ReliableOutbound P O) E) (t : T)
    (nowTick : UInt64) (scratch : ReliableRetryScratch P) :
    AllInFlight (Stored sent n) (retryDueInto link sink.logged s (t, []) nowTick scratch).2.1 ∧
      ∀ packet ∈ (retryDueInto link sink.logged s (t, []) nowTick scratch).2.2.1.2,
        IsData link sent (n, packet) := by
  have hpop : AllInFlight (Stored sent n) { s with
      retryDeadlines := (s.retryDeadlines.popWhile fun entry =>
        decide (entry.deadline ≤ nowTick)).2 } := h
  have hinit : ∀ packet ∈ ((t, []) : T × List (ReliableOutbound P O)).2,
      IsData link sent (n, packet) := fun _ h => absurd h List.not_mem_nil
  refine retryEntries_rule sink.logged (fun _ s t => AllInFlight (Stored sent n) s ∧
    ∀ packet ∈ t.2, IsData link sent (n, packet)) ?_ ?_ ?_ ?_ ⟨hpop, hinit⟩ _
  · exact fun entry rest s t h _ => h
  · exact fun entry rest s t packet h hlook => ⟨h.1.timeOut hlook, h.2⟩
  · intro entry rest s t t' packet h hlook _ hsend
    obtain ⟨bytes, hencode, hlog⟩ := sendDataFrame_ok link sink hsend
    obtain ⟨-, -, hsent⟩ := h.1 _ packet hlook
    refine ⟨h.1.recordRetry (fun _ _ _ _ hk => hk) hlook, fun p hp => ?_⟩
    rw [hlog] at hp
    rcases List.mem_append.mp hp with hold | hnew
    · exact h.2 p hold
    · rw [List.mem_singleton.mp hnew]
      exact ⟨asSent n packet, hsent, rfl, rfl, rfl, hencode⟩
  · intro entry rest s t t' packet error h hsend
    rw [sendDataFrame_error link sink hsend]
    exact h

/-- **A retry pass.** -/
lemma NetworkInv.retryDue (inv : NetworkInv topology config state) (n : N) (nowTick : UInt64) :
    NetworkInv topology config (step sink state (.retryDue n nowTick : Op topology)) := by
  set endpoint := state.endpoints n with hendpoint
  obtain ⟨hstored, hwire⟩ := retryDueInto_data link (inv.stored n) (sink n)
    state.transport nowTick endpoint.retryScratch
  have hnumbers := sameNumbers_retryDueInto (sink n).logged link endpoint.sender
    (state.transport, []) nowTick endpoint.retryScratch
  refine inv.act (inv.acts_sender ?_ ?_ ?_ ?_ ?_) _
  · rfl
  · exact hstored
  · exact fun peer => (hnumbers.nextFor peer).ge
  · exact hwire
  · exact fun _ h => absurd h List.not_mem_nil

/-- An endpoint that leaves its sender alone sends acknowledgements only. -/
lemma NetworkInv.acts_receiver (inv : NetworkInv topology config state) {n : N}
    {receiver : ReliableReceiver P} {accepted : List (ReliableOutbound P O)}
    {deliveries : List (Delivery N P)}
    (hconfig : receiver.config = config n)
    (hremembers : Remembers (state.keysAt n ++ deliveries.map Delivery.packetKey) receiver)
    (hwire : ∀ packet ∈ accepted, IsAck topology (state.delivered ++ deliveries) (n, packet))
    (hdelivered : ∀ d ∈ deliveries, d.receiver = n ∧ ∃ s ∈ state.sent, Carries topology s d) :
    Acts topology config state n { state.endpoints n with receiver := receiver }
      accepted [] deliveries [] where
  config := hconfig
  remembers := hremembers
  stored := stored_mono (inv.stored n) (List.subset_append_left _ _)
  next _ := le_refl _
  wire packet hpacket := .inr (hwire packet hpacket)
  sent _ h := absurd h List.not_mem_nil
  once _ h := absurd h List.not_mem_nil
  delivered := hdelivered
  acknowledged _ h := absurd h List.not_mem_nil

/-- The acknowledgement an endpoint sends for a data frame whose pair it has delivered. -/
lemma NetworkInv.isAck_ackPacket (inv : NetworkInv topology config state)
    (entry : N × ReliableOutbound P O) {s : Sent N P O} (hs : s ∈ state.sent)
    (hpeer : s.peer = entry.2.peer) {delivered : List (Delivery N P)} {d : Delivery N P}
    (hd : d ∈ delivered) (hreceiver : d.receiver = topology.host entry.2.peer)
    (hsource : d.source = topology.source entry.1 entry.2.origin)
    (hsequence : d.sequence = s.sequence) :
    IsAck topology delivered (topology.host entry.2.peer,
      ackPacket link (topology.source entry.1 entry.2.origin) (topology.route entry.1 entry.2)
        s.sequence) := by
  have htarget : topology.target (topology.host entry.2.peer) = entry.2.peer := by
    rw [← hpeer]
    exact (inv.addressed s hs).2
  refine ⟨d, hd, hreceiver, hsource, ?_, ?_⟩
  · rw [htarget]
    exact topology.ack_source entry.1 entry.2
  · rw [hsequence]
    rfl

/-- **A data frame comes in.** -/
lemma NetworkInv.handOver_data (inv : NetworkInv topology config state)
    {entry : N × ReliableOutbound P O} (hdata : IsData link state.sent entry) :
    NetworkInv topology config (handOver sink topology state entry) := by
  obtain ⟨n, packet⟩ := entry
  obtain ⟨s, hs, hsender, horigin, hpeer, hencode⟩ := hdata
  dsimp only at hsender horigin hpeer hencode
  set m := topology.host packet.peer with hm
  set source := topology.source n packet.origin with hsource
  set route := topology.route n packet with hroute
  set d : Delivery N P := ⟨m, source, s.sequence, s.payload⟩ with hd
  have hdecode : ReliableFrame.decode link.magic packet.bytes = .ok (.data s.sequence s.payload) :=
    ReliableFrame.decode_encode link.length_magic hencode
  have hcarries : Carries topology s d :=
    ⟨by rw [hpeer], by rw [hsender, horigin], rfl, rfl⟩
  have hack : ∀ {delivered d'}, d' ∈ delivered → d'.receiver = m → d'.source = source →
      d'.sequence = s.sequence → ∀ p ∈ [ackPacket link source route s.sequence],
      IsAck topology delivered (m, p) := by
    intro delivered d' hd' hreceiver' hsource' hsequence' p hp
    rw [List.mem_singleton.mp hp]
    exact inv.isAck_ackPacket (n, packet) hs hpeer hd' hreceiver' hsource' hsequence'
  have hcall := (state.endpoints m).handleInbound_data (sink m).logged (state.transport, [])
    ⟨source, route, packet.bytes⟩ hdecode
  have hremoved : removedBy link.magic m (state.endpoints m).sender source packet.bytes = [] := by
    simp only [removedBy, hdecode]
  rcases hsend : (sink m).send state.transport (ackPacket link source route s.sequence) with
    ⟨error | ⟨⟩, t'⟩
  · -- the acknowledgement is refused
    rw [handleData_rejected link (sink m).logged (TransportSink.logged_error hsend [])] at hcall
    have hstep : handOver sink topology state (n, packet)
        = state.act m { state.endpoints m with receiver := (state.endpoints m).receiver } t'
          [] [] [] [] := by
      simp only [handOver, ← hm, ← hsource, ← hroute, hcall, deliveredBy, hremoved]
    rw [hstep]
    refine inv.act (inv.acts_receiver (inv.config m) ?_ ?_ ?_) t'
    · rw [List.map_nil, List.append_nil]
      exact inv.remembers m
    · exact fun _ h => absurd h List.not_mem_nil
    · exact fun _ h => absurd h List.not_mem_nil
  · obtain ⟨receiver, hconfig, hcases⟩ := handleData_accepted link (sink m).logged
      (inv.remembers m) (TransportSink.logged_ok hsend []) s.payload
    rcases hcases with ⟨hmem, hremembers, hresult⟩ | ⟨-, hremembers, hresult⟩
    · -- the pair is remembered, so it was delivered before
      rw [hresult] at hcall
      have hstep : handOver sink topology state (n, packet)
          = state.act m { state.endpoints m with receiver := receiver } t'
            [ackPacket link source route s.sequence] [] [] [] := by
        simp only [handOver, ← hm, ← hsource, ← hroute, hcall, deliveredBy, hremoved,
          List.nil_append]
      rw [hstep]
      refine inv.act (inv.acts_receiver (hconfig.trans (inv.config m)) ?_ ?_ ?_) t'
      · rw [List.map_nil, List.append_nil]
        exact hremembers
      · obtain ⟨d', hd', hkey⟩ := List.mem_map.mp (List.mem_of_mem_drop hmem)
        obtain ⟨hd', hreceiver⟩ := List.mem_filter.mp hd'
        obtain ⟨hsource', hsequence'⟩ := PacketKey.mk.inj hkey
        exact hack (List.mem_append_left _ hd') (of_decide_eq_true hreceiver) hsource' hsequence'
      · exact fun _ h => absurd h List.not_mem_nil
    · -- a new delivery
      rw [hresult] at hcall
      have hstep : handOver sink topology state (n, packet)
          = state.act m { state.endpoints m with receiver := receiver } t'
            [ackPacket link source route s.sequence] [] [d] [] := by
        simp only [handOver, ← hm, ← hsource, ← hroute, hcall, deliveredBy, hdecode, hremoved,
          List.nil_append]
        rfl
      rw [hstep]
      refine inv.act (inv.acts_receiver (hconfig.trans (inv.config m)) ?_ ?_ ?_) t'
      · exact hremembers
      · exact hack (List.mem_append_right _ (List.mem_singleton_self d)) rfl rfl rfl
      · intro d' hd'
        rw [List.mem_singleton.mp hd']
        exact ⟨rfl, s, hs, hcarries⟩

/-- **An acknowledgement comes in.**  What it removes was delivered at the endpoint it is from. -/
lemma NetworkInv.handOver_ack (inv : NetworkInv topology config state)
    {entry : N × ReliableOutbound P O} (hack : IsAck topology state.delivered entry) :
    NetworkInv topology config (handOver sink topology state entry) := by
  obtain ⟨n, packet⟩ := entry
  obtain ⟨d, hd, hreceiver, hpeer, hsource, hencode⟩ := hack
  dsimp only at hreceiver hpeer hsource hencode
  set m := topology.host packet.peer with hm
  have hdecode : ReliableFrame.decode link.magic packet.bytes = .ok (.ack d.sequence) :=
    ReliableFrame.decode_encode link.length_magic hencode
  set removals := removedBy link.magic m (state.endpoints m).sender
    (topology.source n packet.origin) packet.bytes with hremovals
  have hcall := (state.endpoints m).handleInbound_ack (sink m).logged (state.transport, [])
    ⟨topology.source n packet.origin, topology.route n packet, packet.bytes⟩ hdecode
  have hstep : handOver sink topology state (n, packet)
      = state.act m { state.endpoints m with sender := ((state.endpoints m).sender.acknowledge
          (topology.source n packet.origin) d.sequence).2 } state.transport [] [] [] removals := by
    simp only [handOver, ← hm, hcall, deliveredBy, ← hremovals]
  rw [hstep]
  have hnumbers := sameNumbers_acknowledge (state.endpoints m).sender
    (topology.source n packet.origin) d.sequence
  refine inv.act (inv.acts_sender ?_ ?_ ?_ ?_ ?_) _
  · rfl
  · exact (inv.stored m).acknowledge _ _
  · exact fun peer => (hnumbers.nextFor peer).ge
  · exact fun _ h => absurd h List.not_mem_nil
  · intro r hr
    rw [hremovals, removedBy, hdecode] at hr
    obtain ⟨removed, hremoved, rfl⟩ := List.mem_map.mp hr
    rw [Option.mem_toList] at hremoved
    have hlook : (state.endpoints m).sender.inFlight.lookup
        ⟨topology.source n packet.origin, d.sequence⟩ = some removed := by
      cases h : (state.endpoints m).sender.inFlight.lookup
        ⟨topology.source n packet.origin, d.sequence⟩ with
      | none =>
          rw [removeInFlight_none h] at hremoved
          cases hremoved
      | some stored =>
          rw [removeInFlight_some h] at hremoved
          exact hremoved
    obtain ⟨hremovedPeer, hsequence, hsent⟩ := inv.stored m _ removed hlook
    refine ⟨hsent, d, hd, ?_, ?_, hsequence.symm⟩
    · show d.receiver = topology.host removed.peer
      rw [hremovedPeer, hsource, topology.host_target, hreceiver]
    · show topology.host d.source = m
      rw [hpeer]

/-- **The step lemma.** -/
lemma NetworkInv.step (inv : NetworkInv topology config state) (op : Op topology) :
    NetworkInv topology config (ReliableNetwork.step sink state op) := by
  cases op with
  | send n origin m payload nowTick => exact inv.send sink n origin m payload nowTick
  | retryDue n nowTick => exact inv.retryDue sink n nowTick
  | deliver i =>
      rw [ReliableNetwork.step]
      cases hentry : state.wire[i]? with
      | none => exact inv
      | some entry =>
          rcases inv.wire entry (List.mem_of_getElem? hentry) with hdata | hack
          · exact inv.handOver_data sink hdata
          · exact inv.handOver_ack sink hack

/-! ## End-to-end delivery -/

/-- The invariant says what the link promises. -/
lemma NetworkInv.delivers (inv : NetworkInv topology config state) :
    Delivers topology config state where
  sent := inv.delivered
  spaced n pre k mid post h := by
    have hspaced := (inv.remembers n).spaced
    rw [inv.config n, h] at hspaced
    exact hspaced.distinct_between
  acknowledged r hr := by
    obtain ⟨hr, d, hd, hreceiver, hsource, hsequence⟩ := inv.acknowledged r hr
    refine ⟨d, hd, hreceiver, hsource, hsequence, fun hlast => ?_⟩
    obtain ⟨s, hs, hcarries⟩ := inv.delivered d hd
    -- the packet delivered and the one removed have the same number
    have hsender : s.sender = r.sender := by
      rw [← (inv.addressed s hs).1, ← hcarries.source, hsource]
    have hpeer : s.peer = r.packet.peer := by
      have htarget := (inv.addressed s hs).2
      have htarget' := (inv.addressed _ hr).2
      rw [← hcarries.receiver, hreceiver] at htarget
      exact htarget.symm.trans htarget'
    have hsame : s = asSent r.sender r.packet := by
      refine inv.unique s hs _ hr hsender hpeer (hcarries.sequence.symm.trans hsequence) ?_
      rw [← hcarries.sequence, hsequence]
      exact hlast
    rw [hcarries.source, hcarries.payload, hsame]
    exact ⟨rfl, rfl⟩

/-- **End-to-end delivery,** for any topology. -/
lemma delivers_execute (topology : Topology link N P) (config : N → ReliableConfig)
    (transport : T) (ops : List (Op topology)) :
    Delivers topology config (execute (step sink) (State.new config transport) ops) := by
  have hrun := execute_preserves (I := fun state => NetworkInv topology config state)
    (fun _ op inv => inv.step sink op) (networkInv_new transport) ops
  exact hrun.delivers

/-- **End-to-end delivery.**  Over every run of client endpoints, and of station endpoints with one
local target each, on a network that loses, duplicates and reorders packets and with any answers of
the transports: what is delivered was sent, no pair is delivered twice within the history, and
what acknowledgements remove was delivered. -/
theorem reliable_delivery :
    (∀ (T E Addr : Type) (addr : ClientId → Addr)
      (sink : ClientId → TransportSink T OutboundPacket E) (config : ClientId → ReliableConfig)
      (transport : T) (ops : List (Op (clientTopology addr))),
      Delivers (clientTopology addr) config
        (execute (step sink) (State.new config transport) ops)) ∧
    (∀ (T E N : Type) [DecidableEq N] (hosts : StationHosts N)
      (sink : N → TransportSink T StationOutboundPacket E) (config : N → ReliableConfig)
      (transport : T) (ops : List (Op (stationTopology hosts))),
      Delivers (stationTopology hosts) config
        (execute (step sink) (State.new config transport) ops)) :=
  ⟨fun _ _ _ _ sink config transport ops => delivers_execute sink _ config transport ops,
    fun _ _ _ _ _ sink config transport ops => delivers_execute sink _ config transport ops⟩

/-! ## The last sequence number -/

/-- Every packet an acknowledgement removes was delivered, with its bytes. -/
def RemovesDelivered (topology : Topology link N P) (state : State N P O T) : Prop :=
  ∀ r ∈ state.acknowledged, ∃ d ∈ state.delivered, d.receiver = topology.host r.packet.peer ∧
    d.source = topology.source r.sender r.packet.origin ∧ d.sequence = r.packet.sequence ∧
    d.payload = r.packet.payload

namespace LastNumber

/-- Clients on a transport that follows a script. -/
abbrev step : State ClientId ClientId Unit (List Bool) → Op (clientTopology id) →
    State ClientId ClientId Unit (List Bool) :=
  ReliableNetwork.step fun _ => TransportSink.scripted

/-- Client 1 sends to client 2. -/
def send (payload : List UInt8) : Op (clientTopology id) := .send ⟨1⟩ ⟨(), rfl⟩ ⟨2⟩ payload 0

/-- A new endpoint, but for its number for client 2. -/
def numberedEndpoint (next : UInt64) : ReliableClientEndpoint where
  sender := { ReliableSender.new .default with
    nextSequence := (∅ : BTreeMap ClientId UInt64).insert ⟨2⟩ next }
  receiver := .new .default
  retryScratch := ⟨[]⟩

/-- New endpoints, but for the number client 1 has for client 2. -/
def numbered (next : UInt64) (script : List Bool) : State ClientId ClientId Unit (List Bool) :=
  { State.new (fun _ => .default) script with
    endpoints := Function.update (fun _ => ReliableEndpoint.new .default) ⟨1⟩
      (numberedEndpoint next) }

/-- A send that the transport refuses takes a number. -/
lemma step_refused (next : UInt64) (script : List Bool) :
    step (numbered next (false :: script)) (send []) = numbered (next.saturatingAdd 1) script := by
  have hsend : (numberedEndpoint next).send (clientLink ClientId) TransportSink.scripted.logged
      (false :: script, []) ⟨(), (clientTopology id).target ⟨2⟩, []⟩ 0
      = (.error (.transport ()), numberedEndpoint (next.saturatingAdd 1), script, []) := rfl
  simp [step, ReliableNetwork.step, numbered, send, State.new, State.act, hsend, sentBy]

/-- Sends that the transport refuses take one number each. -/
lemma execute_refused (k : ℕ) {next : UInt64} (h : next.toNat + k < UInt64.size)
    (script : List Bool) :
    execute step (numbered next (List.replicate k false ++ script)) (List.replicate k (send []))
      = numbered (UInt64.ofNat (next.toNat + k)) script := by
  induction k generalizing next with
  | zero => simp
  | succ k ih =>
      have hnext : (next.saturatingAdd 1).toNat = next.toNat + 1 := by
        rw [UInt64.toNat_saturatingAdd]
        have hone : (1 : UInt64).toNat = 1 := rfl
        omega
      rw [List.replicate_succ, List.replicate_succ, List.cons_append, execute_cons, step_refused,
        ih (by omega), hnext, Nat.add_right_comm, Nat.add_assoc]

/-- The first send, which finds no number for its peer. -/
lemma step_first (script : List Bool) :
    step (State.new (fun _ => .default) (false :: script)) (send []) = numbered 2 script := by
  have hsend : (ReliableEndpoint.new .default).send (clientLink ClientId)
      TransportSink.scripted.logged (false :: script, []) ⟨(), (clientTopology id).target ⟨2⟩, []⟩ 0
      = (.error (.transport ()), numberedEndpoint 2, script, []) := rfl
  simp [step, ReliableNetwork.step, numbered, send, State.new, State.act, hsend, sentBy]

/-- How many refused sends after the first leave the last number only. -/
def refusals : ℕ := UInt64.size - 3

/-- Two packets get the last number; the second is removed by the acknowledgement of the first. -/
def reuse : List (Op (clientTopology id)) :=
  [send [7], .deliver 0, .deliver 1, send [8], .deliver 1]

/-- After `2^64 - 2` refused sends, a packet that is removed by an acknowledgement need not have
been delivered. -/
theorem removed_undelivered :
    ¬ RemovesDelivered (clientTopology id)
      (execute step (State.new (fun _ => .default) (List.replicate (refusals + 1) false))
        (List.replicate (refusals + 1) (send []) ++ reuse)) := by
  have hlast : UInt64.ofNat ((2 : UInt64).toNat + refusals) = UInt64.maxValue := by decide
  have hroom : (2 : UInt64).toNat + refusals < UInt64.size := by decide
  have hrefused := execute_refused refusals hroom []
  rw [List.append_nil, hlast] at hrefused
  rw [List.replicate_succ, List.replicate_succ, List.cons_append, execute_cons, step_first,
    execute_append, hrefused, RemovesDelivered]
  decide

end LastNumber

end SectorSync.ReliableNetwork
