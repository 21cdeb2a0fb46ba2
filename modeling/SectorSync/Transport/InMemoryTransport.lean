import SectorSync.Core.AdaptiveMap
import SectorSync.Core.Command
import SectorSync.Transport.ReliableLink

/-!
# The in-memory client transport

`InMemoryTransportHub` of the transport crate: clients registered under addresses, with a bounded
queue of packets for each.  An endpoint is a client id with the token of a registration, and works
as long as the client's registration has that token.

The hub is what the source keeps behind its mutex; the source's error for a poisoned mutex and the
retained capacities of the queues are left out.
-/

namespace SectorSync

/-- `HASHED_ENDPOINT_MAP_MIN_ENTRIES`. -/
def hashedEndpointMapMinEntries : ℕ := 2048

abbrev AdaptiveEndpointMap (K V : Type) := AdaptiveMap hashedEndpointMapMinEntries K V

/-- Bounded in-memory client transport limits. -/
structure ClientTransportLimits where
  maxQueuedPacketsPerClient : ℕ
  maxPacketBytes : ℕ
  deriving DecidableEq

/-- The target client. -/
abbrev OutboundPacket.clientId (packet : OutboundPacket) : ClientId := packet.peer

/-- Statistics for the bounded in-memory client transport. -/
structure InMemoryTransportStats where
  packetsSent : ℕ
  packetsReceived : ℕ
  bytesSent : ℕ
  bytesReceived : ℕ
  /-- Packets rejected because the target queue was full. -/
  packetsRejectedFull : ℕ
  /-- Packets rejected because they exceeded the packet byte budget. -/
  packetsRejectedBytes : ℕ
  deriving DecidableEq

/-- Error produced by bounded in-memory client transport. -/
inductive InMemoryTransportError where
  /-- Local endpoint has not been registered. -/
  | missingLocal (clientId : ClientId)
  /-- Target client was not registered. -/
  | missingTarget (clientId : ClientId)
  | queueFull (clientId : ClientId) (capacity : ℕ)
  | packetTooLarge (budget actual : ℕ)
  deriving DecidableEq

structure InMemoryTransportClient (Addr : Type) where
  remoteAddr : Addr
  registrationToken : UInt64
  queue : List (InboundPacket Addr)

/-- Shared bounded in-memory client packet hub. -/
structure InMemoryTransportHub (Addr : Type) where
  limits : ClientTransportLimits
  clients : AdaptiveEndpointMap ClientId (InMemoryTransportClient Addr)
  addrToClient : HashMap Addr ClientId
  stats : InMemoryTransportStats
  nextRegistrationToken : UInt64

/-- Resources released when an in-memory client endpoint is unregistered. -/
structure InMemoryClientUnregister (Addr : Type) where
  remoteAddr : Addr
  /-- Packets discarded with the endpoint queue. -/
  queuedPackets : ℕ
  deriving DecidableEq

/-- Local endpoint handle for a bounded in-memory client packet hub. -/
structure InMemoryTransportEndpoint where
  localClientId : ClientId
  registrationToken : Option UInt64
  deriving DecidableEq

namespace InMemoryTransportHub

variable {Addr : Type}

/-- Creates an empty in-memory transport hub. -/
def new (limits : ClientTransportLimits) : InMemoryTransportHub Addr where
  limits := limits
  clients := .new
  addrToClient := ∅
  stats := ⟨0, 0, 0, 0, 0, 0⟩
  nextRegistrationToken := 1

variable [DecidableEq Addr] (hub : InMemoryTransportHub Addr)

/-- Registers a client endpoint address. -/
def registerClient (clientId : ClientId) (remoteAddr : Addr) :
    Option Addr × InMemoryTransportHub Addr :=
  let registrationToken := hub.nextRegistrationToken
  let previousAddr := (hub.clients.get clientId).map (·.remoteAddr)
  let clients := hub.clients.insert clientId ⟨remoteAddr, registrationToken, []⟩
  let addrToClient :=
    match previousAddr with
    | some previousAddr => hub.addrToClient.erase previousAddr
    | none => hub.addrToClient
  let clients :=
    match addrToClient.lookup remoteAddr with
    | some oldClient => if oldClient ≠ clientId then clients.remove oldClient else clients
    | none => clients
  (previousAddr,
    { hub with
      clients := clients
      addrToClient := addrToClient.insert remoteAddr clientId
      nextRegistrationToken := max (registrationToken + 1) 1 })

/-- Returns an endpoint handle for a client that should already be registered. -/
def endpointForRegistered (clientId : ClientId) : InMemoryTransportEndpoint where
  localClientId := clientId
  registrationToken := (hub.clients.get clientId).map (·.registrationToken)

/-- Registers and returns a local endpoint for a client. -/
def endpoint (clientId : ClientId) (remoteAddr : Addr) :
    InMemoryTransportEndpoint × InMemoryTransportHub Addr :=
  let (_, hub) := hub.registerClient clientId remoteAddr
  (hub.endpointForRegistered clientId, hub)

/-- Unregisters a client and releases its queued packets. -/
def unregisterClient (clientId : ClientId) :
    Option (InMemoryClientUnregister Addr) × InMemoryTransportHub Addr :=
  match hub.clients.get clientId with
  | none => (none, hub)
  | some client =>
      (some ⟨client.remoteAddr, client.queue.length⟩,
        { hub with
          clients := hub.clients.remove clientId
          addrToClient := hub.addrToClient.erase client.remoteAddr })

/-- Returns queued packet count for a client. -/
def queuedLen (clientId : ClientId) : Option ℕ :=
  (hub.clients.get clientId).map fun client => client.queue.length

end InMemoryTransportHub

namespace InMemoryTransportEndpoint

variable {Addr : Type} (endpoint : InMemoryTransportEndpoint) (hub : InMemoryTransportHub Addr)

/-- The client of the endpoint, if it is registered with the endpoint's token. -/
def localClient : Option (InMemoryTransportClient Addr) :=
  (hub.clients.get endpoint.localClientId).filter fun client =>
    some client.registrationToken = endpoint.registrationToken

def sendLocked (packet : OutboundPacket) :
    Except InMemoryTransportError Unit × InMemoryTransportHub Addr :=
  let actual := packet.bytes.length
  if actual > hub.limits.maxPacketBytes then
    (.error (.packetTooLarge hub.limits.maxPacketBytes actual),
      { hub with
        stats := {
          hub.stats with
          packetsRejectedBytes := usizeSaturatingAdd hub.stats.packetsRejectedBytes 1 } })
  else
    match endpoint.localClient hub with
    | none => (.error (.missingLocal endpoint.localClientId), hub)
    | some source =>
        match hub.clients.get packet.clientId with
        | none => (.error (.missingTarget packet.clientId), hub)
        | some target =>
            if target.queue.length ≥ hub.limits.maxQueuedPacketsPerClient then
              (.error (.queueFull packet.clientId hub.limits.maxQueuedPacketsPerClient),
                { hub with
                  stats := {
                    hub.stats with
                    packetsRejectedFull := usizeSaturatingAdd hub.stats.packetsRejectedFull 1 } })
            else
              let inbound :=
                ⟨some endpoint.localClientId, source.remoteAddr, packet.bytes⟩
              (.ok (),
                { hub with
                  clients := hub.clients.modify packet.clientId fun target =>
                    { target with queue := target.queue ++ [inbound] }
                  stats := {
                    hub.stats with
                    packetsSent := usizeSaturatingAdd hub.stats.packetsSent 1
                    bytesSent := usizeSaturatingAdd hub.stats.bytesSent actual } })

/-- Sends a batch; a rejected packet ends it. -/
def sendBatch (hub : InMemoryTransportHub Addr) :
    List OutboundPacket → Except InMemoryTransportError Unit × InMemoryTransportHub Addr
  | [] => (.ok (), hub)
  | packet :: packets =>
      match endpoint.sendLocked hub packet with
      | (.error error, hub) => (.error error, hub)
      | (.ok (), hub) => sendBatch hub packets

def tryRecv :
    Except InMemoryTransportError (Option (InboundPacket Addr)) × InMemoryTransportHub Addr :=
  match endpoint.localClient hub with
  | none => (.error (.missingLocal endpoint.localClientId), hub)
  | some client =>
      match client.queue with
      | [] => (.ok none, hub)
      | packet :: queue =>
          (.ok (some packet),
            { hub with
              clients := hub.clients.modify endpoint.localClientId fun client =>
                { client with queue := queue }
              stats := {
                hub.stats with
                packetsReceived := usizeSaturatingAdd hub.stats.packetsReceived 1
                bytesReceived := usizeSaturatingAdd hub.stats.bytesReceived packet.bytes.length } })

end InMemoryTransportEndpoint

/-! ## The two maps -/

namespace InMemoryTransportHub

variable {Addr : Type} [DecidableEq Addr] {hub : InMemoryTransportHub Addr}

/-- The address a client is registered under. -/
def addrOf (hub : InMemoryTransportHub Addr) (clientId : ClientId) : Option Addr :=
  (hub.clients.get clientId).map (·.remoteAddr)

/-- The two maps are inverse to each other. -/
def Inverse (hub : InMemoryTransportHub Addr) : Prop :=
  ∀ clientId addr, hub.addrOf clientId = some addr ↔ hub.addrToClient.lookup addr = some clientId

/-- The client a registration displaces from its address. -/
def displaced (hub : InMemoryTransportHub Addr) (clientId : ClientId) (addr : Addr) :
    Option ClientId :=
  (hub.addrToClient.lookup addr).filter (· ≠ clientId)

lemma displaced_eq_some {clientId other : ClientId} {addr : Addr} :
    hub.displaced clientId addr = some other
      ↔ hub.addrToClient.lookup addr = some other ∧ other ≠ clientId := by
  rw [displaced, Option.filter_eq_some_iff, decide_eq_true_iff]

/-- The addresses once a client has given up its own. -/
def freed (hub : InMemoryTransportHub Addr) (clientId : ClientId) : HashMap Addr ClientId :=
  match hub.addrOf clientId with
  | some previousAddr => hub.addrToClient.erase previousAddr
  | none => hub.addrToClient

/-- A client has given up the one address under which it was found. -/
lemma Inverse.lookup_freed (h : hub.Inverse) (clientId : ClientId) (addr : Addr) :
    (hub.freed clientId).lookup addr = hub.displaced clientId addr := by
  have hown : hub.addrToClient.lookup addr = some clientId ↔ hub.addrOf clientId = some addr :=
    (h clientId addr).symm
  unfold freed displaced
  cases hprevious : hub.addrOf clientId with
  | none =>
      rw [hprevious] at hown
      cases hfound : hub.addrToClient.lookup addr with
      | none => rfl
      | some other =>
          have hne : other ≠ clientId := by
            rintro rfl
            exact absurd (hown.mp hfound) (by simp)
          rw [Option.filter_some, decide_eq_true hne, if_pos rfl]
  | some previousAddr =>
      rw [hprevious, Option.some_inj] at hown
      dsimp only
      rw [Finmap.lookup_erase_eq]
      split_ifs with heq
      · rw [hown.mpr heq.symm, Option.filter_some]
        simp
      · cases hfound : hub.addrToClient.lookup addr with
        | none => rfl
        | some other =>
            have hne : other ≠ clientId := by
              rintro rfl
              exact heq (hown.mp hfound).symm
            rw [Option.filter_some, decide_eq_true hne, if_pos rfl]

/-- A registration, with the client it displaces. -/
lemma Inverse.registerClient_eq (h : hub.Inverse) (clientId : ClientId) (addr : Addr) :
    hub.registerClient clientId addr
      = (hub.addrOf clientId,
        { hub with
          clients := (hub.displaced clientId addr).elim
            (hub.clients.insert clientId ⟨addr, hub.nextRegistrationToken, []⟩)
            (hub.clients.insert clientId ⟨addr, hub.nextRegistrationToken, []⟩).remove
          addrToClient := (hub.freed clientId).insert addr clientId
          nextRegistrationToken := max (hub.nextRegistrationToken + 1) 1 }) := by
  have hfreed := h.lookup_freed clientId addr
  have hne : ∀ other, hub.displaced clientId addr = some other → other ≠ clientId :=
    fun other hother => (displaced_eq_some.mp hother).2
  simp only [freed, addrOf] at hfreed
  simp only [registerClient, freed, addrOf, hfreed]
  cases hdisplaced : hub.displaced clientId addr with
  | none => rfl
  | some other =>
      simp only [Option.elim_some, if_pos (hne other hdisplaced)]

/-- The clients after a registration. -/
lemma Inverse.get_registerClient (h : hub.Inverse) (clientId clientId' : ClientId) (addr : Addr) :
    (hub.registerClient clientId addr).2.clients.get clientId'
      = if clientId' = clientId then some ⟨addr, hub.nextRegistrationToken, []⟩
        else if hub.addrOf clientId' = some addr then none else hub.clients.get clientId' := by
  rw [h.registerClient_eq]
  have hdisplaced : ∀ other, hub.displaced clientId addr = some other
      ↔ hub.addrOf other = some addr ∧ other ≠ clientId := fun other => by
    rw [displaced_eq_some, h other addr]
  cases hother : hub.displaced clientId addr with
  | none =>
      rw [Option.elim_none, AdaptiveMap.get_insert]
      split_ifs with hself haddr
      · rfl
      · rw [(hdisplaced clientId').mpr ⟨haddr, hself⟩] at hother
        exact absurd hother (by simp)
      · rfl
  | some other =>
      obtain ⟨haddr, hne⟩ := (hdisplaced other).mp hother
      rw [Option.elim_some, AdaptiveMap.get_remove, AdaptiveMap.get_insert]
      have hiff : hub.addrOf clientId' = some addr ↔ clientId' = other := by
        constructor
        · intro haddr'
          have hfound := (h clientId' addr).mp haddr'
          rw [(h other addr).mp haddr] at hfound
          exact (Option.some_inj.mp hfound).symm
        · rintro rfl
          exact haddr
      simp only [hiff]
      split_ifs with hgone hself
      · exact absurd (hgone.symm.trans hself) hne
      · rfl
      · rfl
      · rfl

/-- The addresses after a registration. -/
lemma Inverse.lookup_registerClient (h : hub.Inverse) (clientId : ClientId) (addr addr' : Addr) :
    (hub.registerClient clientId addr).2.addrToClient.lookup addr'
      = if addr' = addr then some clientId else hub.displaced clientId addr' := by
  rw [h.registerClient_eq]
  dsimp only
  rw [Finmap.lookup_insert_eq, h.lookup_freed]

/-- **Registration** of a client and an address, new or used, repairs both maps. -/
theorem Inverse.registerClient (h : hub.Inverse) (clientId : ClientId) (addr : Addr) :
    (hub.registerClient clientId addr).2.Inverse := by
  intro clientId' addr'
  rw [h.lookup_registerClient, addrOf, h.get_registerClient]
  by_cases hself : clientId' = clientId
  · subst hself
    rw [if_pos rfl, Option.map_some, Option.some_inj]
    split_ifs with haddr
    · exact ⟨fun _ => rfl, fun _ => haddr.symm⟩
    · refine ⟨fun heq => absurd heq.symm haddr, fun hfound => ?_⟩
      exact absurd rfl (displaced_eq_some.mp hfound).2
  · rw [if_neg hself]
    split_ifs with hgone haddr haddr
    · rw [Option.map_none, Option.some_inj]
      exact ⟨fun heq => absurd heq (by simp), fun heq => absurd heq.symm hself⟩
    · rw [Option.map_none, displaced_eq_some, ← h clientId' addr', hgone, Option.some_inj]
      exact ⟨fun heq => absurd heq (by simp), fun heq => absurd heq.1.symm haddr⟩
    · rw [← addrOf, haddr, Option.some_inj]
      exact ⟨fun heq => absurd heq hgone, fun heq => absurd heq.symm hself⟩
    · rw [← addrOf, displaced_eq_some, h clientId' addr']
      exact ⟨fun heq => ⟨heq, hself⟩, fun heq => heq.1⟩

/-- The clients after an unregistration. -/
lemma get_unregisterClient (clientId clientId' : ClientId) :
    (hub.unregisterClient clientId).2.clients.get clientId'
      = if clientId' = clientId then none else hub.clients.get clientId' := by
  unfold unregisterClient
  cases hclient : hub.clients.get clientId with
  | none =>
      split_ifs with heq
      · rw [heq, hclient]
      · rfl
  | some client => exact AdaptiveMap.get_remove _ _ _

/-- **Unregistration** removes a client from both maps. -/
theorem Inverse.unregisterClient (h : hub.Inverse) (clientId : ClientId) :
    (hub.unregisterClient clientId).2.Inverse := by
  intro clientId' addr'
  rw [addrOf, get_unregisterClient]
  unfold InMemoryTransportHub.unregisterClient
  cases hclient : hub.clients.get clientId with
  | none =>
      rw [← h clientId' addr', addrOf]
      split_ifs with heq
      · rw [heq, hclient]
      · rfl
  | some client =>
      have hown : hub.addrOf clientId = some client.remoteAddr := by rw [addrOf, hclient]; rfl
      dsimp only
      rw [Finmap.lookup_erase_eq]
      split_ifs with hself haddr haddr
      · simp
      · rw [hself, ← h clientId addr', hown, Option.map_none, Option.some_inj]
        exact ⟨fun heq => absurd heq (by simp), fun heq => absurd heq.symm haddr⟩
      · rw [← addrOf, haddr]
        refine ⟨fun heq => absurd ?_ hself, fun heq => absurd heq (by simp)⟩
        have hfound := (h clientId' client.remoteAddr).mp heq
        rw [(h clientId client.remoteAddr).mp hown] at hfound
        exact (Option.some_inj.mp hfound).symm
      · rw [← addrOf, h clientId' addr']

/-- Clients that differ in their queues only keep the maps inverse. -/
lemma Inverse.of_addrOf {hub' : InMemoryTransportHub Addr} (h : hub.Inverse)
    (haddr : ∀ clientId, hub'.addrOf clientId = hub.addrOf clientId)
    (hmap : hub'.addrToClient = hub.addrToClient) : hub'.Inverse := by
  intro clientId addr
  rw [haddr, hmap, h clientId addr]

end InMemoryTransportHub

/-! ## Sending and receiving -/

namespace InMemoryTransportHub

variable {Addr : Type}

/-- The hub with another queue for one client, and other statistics. -/
def requeue (hub : InMemoryTransportHub Addr) (clientId : ClientId)
    (queue : InMemoryTransportClient Addr → List (InboundPacket Addr))
    (stats : InMemoryTransportStats) : InMemoryTransportHub Addr :=
  { hub with
    clients := hub.clients.modify clientId fun client => { client with queue := queue client }
    stats := stats }

variable {hub : InMemoryTransportHub Addr} {clientId : ClientId}
  {queue : InMemoryTransportClient Addr → List (InboundPacket Addr)} {stats : InMemoryTransportStats}

lemma get_requeue (clientId' : ClientId) :
    (hub.requeue clientId queue stats).clients.get clientId'
      = if clientId' = clientId then
          (hub.clients.get clientId).map fun client => { client with queue := queue client }
        else hub.clients.get clientId' :=
  AdaptiveMap.get_modify _ _ _ _

lemma addrOf_requeue (clientId' : ClientId) :
    (hub.requeue clientId queue stats).addrOf clientId' = hub.addrOf clientId' := by
  rw [addrOf, get_requeue, addrOf]
  split_ifs with heq
  · rw [heq, Option.map_map]
    rfl
  · rfl

end InMemoryTransportHub

namespace InMemoryTransportEndpoint

open InMemoryTransportHub

variable {Addr : Type} (endpoint : InMemoryTransportEndpoint) (hub : InMemoryTransportHub Addr)

/-- **Sending** is refused and counted, or the packet enters the queue of its target. -/
lemma sendLocked_cases (packet : OutboundPacket) :
    (∃ error stats, endpoint.sendLocked hub packet = (.error error, { hub with stats := stats })
        ∧ stats.packetsSent = hub.stats.packetsSent
        ∧ stats.packetsReceived = hub.stats.packetsReceived)
      ∨ ∃ source target stats, endpoint.localClient hub = some source
        ∧ hub.clients.get packet.clientId = some target
        ∧ target.queue.length < hub.limits.maxQueuedPacketsPerClient
        ∧ endpoint.sendLocked hub packet
          = (.ok (), hub.requeue packet.clientId (fun target => target.queue
            ++ [⟨some endpoint.localClientId, source.remoteAddr, packet.bytes⟩]) stats)
        ∧ stats.packetsSent = usizeSaturatingAdd hub.stats.packetsSent 1
        ∧ stats.packetsReceived = hub.stats.packetsReceived := by
  unfold sendLocked
  dsimp only
  split_ifs with hbytes
  · exact .inl ⟨_, _, rfl, rfl, rfl⟩
  · cases hsource : endpoint.localClient hub with
    | none => exact .inl ⟨_, _, rfl, rfl, rfl⟩
    | some source =>
        dsimp only
        cases htarget : hub.clients.get packet.clientId with
        | none => exact .inl ⟨_, _, rfl, rfl, rfl⟩
        | some target =>
            dsimp only
            split_ifs with hfull
            · exact .inl ⟨_, _, rfl, rfl, rfl⟩
            · exact .inr ⟨source, target, _, rfl, rfl, not_le.mp hfull, rfl, rfl, rfl⟩

/-- **Receiving** leaves the hub alone, or takes the first packet of the queue. -/
lemma tryRecv_cases :
    (∃ answer, (∀ packet, answer ≠ .ok (some packet)) ∧ endpoint.tryRecv hub = (answer, hub))
      ∨ ∃ client packet queue stats, endpoint.localClient hub = some client
        ∧ client.queue = packet :: queue
        ∧ endpoint.tryRecv hub
          = (.ok (some packet), hub.requeue endpoint.localClientId (fun _ => queue) stats)
        ∧ stats.packetsSent = hub.stats.packetsSent
        ∧ stats.packetsReceived = usizeSaturatingAdd hub.stats.packetsReceived 1 := by
  unfold tryRecv
  cases hlocal : endpoint.localClient hub with
  | none => exact .inl ⟨_, fun _ => by simp, rfl⟩
  | some client =>
      dsimp only
      cases hqueue : client.queue with
      | nil => exact .inl ⟨_, fun _ => by simp, rfl⟩
      | cons packet queue => exact .inr ⟨client, packet, queue, _, rfl, hqueue, rfl, rfl, rfl⟩

lemma localClient_eq_some {client : InMemoryTransportClient Addr} :
    endpoint.localClient hub = some client
      ↔ hub.clients.get endpoint.localClientId = some client
        ∧ some client.registrationToken = endpoint.registrationToken := by
  rw [localClient, Option.filter_eq_some_iff, decide_eq_true_iff]

/-- The endpoint neither sends nor receives: both calls fail and move no packet. -/
def Refused : Prop :=
  (∀ packet, ∃ error stats,
      endpoint.sendLocked hub packet = (.error error, { hub with stats := stats }))
    ∧ endpoint.tryRecv hub = (.error (.missingLocal endpoint.localClientId), hub)

/-- An endpoint is refused exactly when its client is not registered with its token. -/
lemma refused_iff : endpoint.Refused hub ↔ endpoint.localClient hub = none := by
  constructor
  · rintro ⟨-, hrecv⟩
    by_contra hsome
    obtain ⟨client, hclient⟩ := Option.ne_none_iff_exists'.mp hsome
    rw [tryRecv, hclient] at hrecv
    dsimp only at hrecv
    cases hqueue : client.queue <;> simp [hqueue] at hrecv
  · intro hnone
    constructor
    · intro packet
      rcases endpoint.sendLocked_cases hub packet with ⟨error, stats, hsend, -⟩ | ⟨_, _, _, h, -⟩
      · exact ⟨error, stats, hsend⟩
      · rw [hnone] at h
        exact absurd h (by simp)
    · rw [tryRecv, hnone]

end InMemoryTransportEndpoint

end SectorSync
