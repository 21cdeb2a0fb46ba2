import Mathlib.Data.Nat.ModEq
import SectorSync.Base.Run
import SectorSync.Transport.InMemoryTransport

/-!
# Runs of the in-memory hub

A hub with what happened to it: how many registrations there were and the number of each client's
last one, the packets that queues accepted and endpoints received, with the number of the
registration they belong to, and how many packets were discarded with their queues.

`in_memory_hub` is the result.  The token of a registration counts up to the largest word and starts
again at one, so that an old endpoint works again when its client is registered for the
`tokenPeriod`th time after it; `replaced_endpoint_works` is such a run.
-/

namespace SectorSync

open Machine InMemoryTransportHub InMemoryTransportEndpoint

/-- A hub with its history. -/
structure HubRun (Addr : Type) where
  hub : InMemoryTransportHub Addr
  registrations : ℕ
  /-- The number of the client's last registration, from one. -/
  serials : ClientId → ℕ
  accepted : List (ℕ × InboundPacket Addr)
  received : List (ℕ × InboundPacket Addr)
  discarded : ℕ

namespace HubRun

/-- What is done to a hub, through any endpoint. -/
inductive Op (Addr : Type) where
  | register (clientId : ClientId) (addr : Addr)
  | unregister (clientId : ClientId)
  | send (endpoint : InMemoryTransportEndpoint) (packet : OutboundPacket)
  | tryRecv (endpoint : InMemoryTransportEndpoint)

variable {Addr : Type} [DecidableEq Addr]

def start (limits : ClientTransportLimits) : HubRun Addr :=
  ⟨.new limits, 0, fun _ => 0, [], [], 0⟩

/-- The packet that a send puts into the queue of its target. -/
def inbound (hub : InMemoryTransportHub Addr) (endpoint : InMemoryTransportEndpoint)
    (packet : OutboundPacket) : List (InboundPacket Addr) :=
  if (endpoint.sendLocked hub packet).1 = .ok () then
    (hub.addrOf endpoint.localClientId).toList.map fun addr =>
      ⟨some endpoint.localClientId, addr, packet.bytes⟩
  else []

/-- The packet that a receive takes out of the queue. -/
def outbound (hub : InMemoryTransportHub Addr) (endpoint : InMemoryTransportEndpoint) :
    List (InboundPacket Addr) :=
  ((endpoint.tryRecv hub).1.toOption.bind id).toList

/-- The packets that wait for a client. -/
def queued (hub : InMemoryTransportHub Addr) (clientId : ClientId) : ℕ :=
  (hub.queuedLen clientId).getD 0

def step (run : HubRun Addr) : Op Addr → HubRun Addr
  | .register clientId addr =>
      { run with
        hub := (run.hub.registerClient clientId addr).2
        registrations := run.registrations + 1
        serials := Function.update run.serials clientId (run.registrations + 1)
        discarded := run.discarded + queued run.hub clientId
          + (run.hub.displaced clientId addr).elim 0 (queued run.hub) }
  | .unregister clientId =>
      { run with
        hub := (run.hub.unregisterClient clientId).2
        discarded := run.discarded
          + (run.hub.unregisterClient clientId).1.elim 0 (·.queuedPackets) }
  | .send endpoint packet =>
      { run with
        hub := (endpoint.sendLocked run.hub packet).2
        accepted := run.accepted
          ++ (inbound run.hub endpoint packet).map (run.serials packet.clientId, ·) }
  | .tryRecv endpoint =>
      { run with
        hub := (endpoint.tryRecv run.hub).2
        received := run.received
          ++ (outbound run.hub endpoint).map (run.serials endpoint.localClientId, ·) }

/-! ## Logs -/

/-- The packets of one registration. -/
def packetsOf {P : Type} (serial : ℕ) (log : List (ℕ × P)) : List P :=
  (log.filter fun entry => entry.1 = serial).map Prod.snd

section Logs

variable {P : Type} {serial serial' : ℕ} {log : List (ℕ × P)}

lemma packetsOf_append (log log' : List (ℕ × P)) :
    packetsOf serial (log ++ log') = packetsOf serial log ++ packetsOf serial log' := by
  rw [packetsOf, List.filter_append, List.map_append, packetsOf, packetsOf]

lemma packetsOf_map (packets : List P) :
    packetsOf serial (packets.map (serial', ·)) = if serial' = serial then packets else [] := by
  split_ifs with h
  · induction packets with
    | nil => rfl
    | cons packet packets ih =>
        rw [packetsOf] at ih
        rw [packetsOf, List.map_cons, List.filter_cons_of_pos (by simpa using h), List.map_cons, ih]
  · simp [packetsOf, h]

lemma packetsOf_eq_nil (h : ∀ entry ∈ log, entry.1 ≠ serial) : packetsOf serial log = [] := by
  rw [packetsOf, List.filter_eq_nil_iff.mpr, List.map_nil]
  intro entry hentry
  simpa using h entry hentry

end Logs

/-! ## The invariant -/

/-- The registrations after which a token comes back. -/
def tokenPeriod : ℕ := 2 ^ 64 - 1

/-- The packets in all queues. -/
def totalQueued (hub : InMemoryTransportHub Addr) : ℕ :=
  Finmap.total (fun client => client.queue.length) hub.clients.toMap

/-- The maps and the tokens: they are inverse, and the token of a client is that of its last
registration. -/
structure Registry (run : HubRun Addr) : Prop where
  inverse : run.hub.Inverse
  nextToken : run.hub.nextRegistrationToken.toNat = run.registrations % tokenPeriod + 1
  token : ∀ clientId client, run.hub.clients.get clientId = some client →
    client.registrationToken.toNat = (run.serials clientId - 1) % tokenPeriod + 1
  numbered : ∀ clientId client, run.hub.clients.get clientId = some client →
    0 < run.serials clientId
  serials_le : ∀ clientId, run.serials clientId ≤ run.registrations
  serials_inj : ∀ clientId clientId', run.serials clientId = run.serials clientId' →
    0 < run.serials clientId → clientId = clientId'

/-- The queues: they are within their limit, and hold what was accepted for a registration and not
received yet, in that order. -/
structure Queues (limits : ClientTransportLimits) (run : HubRun Addr) : Prop where
  hlimits : run.hub.limits = limits
  bounded : ∀ clientId client, run.hub.clients.get clientId = some client →
    client.queue.length ≤ limits.maxQueuedPacketsPerClient
  logged : ∀ entry ∈ run.accepted, entry.1 ≤ run.registrations
  fifo : ∀ serial, packetsOf serial run.received <+: packetsOf serial run.accepted
  queue : ∀ clientId client, run.hub.clients.get clientId = some client →
    packetsOf (run.serials clientId) run.accepted
      = packetsOf (run.serials clientId) run.received ++ client.queue

/-- The counts: no packet is lost or made up, and the statistics are the counts as far as they fit
a word. -/
structure Accounts (run : HubRun Addr) : Prop where
  conserved : run.accepted.length
    = run.received.length + totalQueued run.hub + run.discarded
  sent : run.hub.stats.packetsSent = min run.accepted.length usizeMax
  received : run.hub.stats.packetsReceived = min run.received.length usizeMax

variable {limits : ClientTransportLimits} {run : HubRun Addr}

lemma registry_start : Registry (start limits : HubRun Addr) where
  inverse clientId addr := by
    simp [start, InMemoryTransportHub.new, addrOf, AdaptiveMap.get_eq]
  nextToken := rfl
  token clientId client h := by
    simp [start, InMemoryTransportHub.new, AdaptiveMap.get_eq] at h
  numbered clientId client h := by
    simp [start, InMemoryTransportHub.new, AdaptiveMap.get_eq] at h
  serials_le _ := le_rfl
  serials_inj _ _ _ h := absurd h (lt_irrefl 0)

omit [DecidableEq Addr] in
lemma queues_start : Queues limits (start limits : HubRun Addr) where
  hlimits := rfl
  bounded clientId client h := by
    simp [start, InMemoryTransportHub.new, AdaptiveMap.get_eq] at h
  logged _ h := absurd h List.not_mem_nil
  fifo _ := List.prefix_refl _
  queue clientId client h := by
    simp [start, InMemoryTransportHub.new, AdaptiveMap.get_eq] at h

omit [DecidableEq Addr] in
lemma accounts_start : Accounts (start limits : HubRun Addr) where
  conserved := by
    simp [start, InMemoryTransportHub.new, totalQueued]
  sent := rfl
  received := rfl

/-! ## Registering -/

lemma toNat_next_token (token : UInt64) (h : 0 < token.toNat) :
    (max (token + 1) 1).toNat = token.toNat % tokenPeriod + 1 := by
  have hlt := token.toNat_lt
  have hone : (1 : UInt64).toNat = 1 := rfl
  have hsum : (token + 1).toNat = (token.toNat + 1) % 2 ^ 64 := by
    rw [UInt64.toNat_add, hone]
  unfold tokenPeriod
  rcases le_total (token + 1) 1 with hle | hle
  · rw [max_eq_right hle]
    rw [UInt64.le_iff_toNat_le, hsum] at hle
    omega
  · rw [max_eq_left hle, hsum]
    rw [UInt64.le_iff_toNat_le, hsum] at hle
    omega

lemma Registry.register (h : Registry run) (clientId : ClientId) (addr : Addr) :
    Registry (run.step (.register clientId addr)) where
  inverse := h.inverse.registerClient clientId addr
  nextToken := by
    have hnext := h.nextToken
    show (run.hub.registerClient clientId addr).2.nextRegistrationToken.toNat = _
    rw [h.inverse.registerClient_eq]
    dsimp only
    rw [toNat_next_token _ (by omega), hnext]
    show _ = (run.registrations + 1) % tokenPeriod + 1
    unfold tokenPeriod
    omega
  token clientId' client hclient := by
    have hnext := h.nextToken
    dsimp only [step] at hclient ⊢
    rw [h.inverse.get_registerClient] at hclient
    split_ifs at hclient with hself haddr
    · obtain rfl := Option.some_inj.mp hclient
      rw [hself, Function.update_self, hnext, Nat.add_sub_cancel]
    · rw [Function.update_of_ne hself]
      exact h.token clientId' client hclient
  numbered clientId' client hclient := by
    dsimp only [step] at hclient ⊢
    rw [h.inverse.get_registerClient] at hclient
    split_ifs at hclient with hself haddr
    · rw [hself, Function.update_self]
      omega
    · rw [Function.update_of_ne hself]
      exact h.numbered clientId' client hclient
  serials_le clientId' := by
    dsimp only [step]
    rw [Function.update_apply]
    split_ifs
    · exact le_rfl
    · exact (h.serials_le clientId').trans (Nat.le_succ _)
  serials_inj clientId₁ clientId₂ heq hpos := by
    have hle₁ := h.serials_le clientId₁
    have hle₂ := h.serials_le clientId₂
    dsimp only [step] at heq hpos
    rw [Function.update_apply, Function.update_apply] at heq
    rw [Function.update_apply] at hpos
    split_ifs at heq hpos with h₁ h₂ h₂
    · rw [h₁, h₂]
    · omega
    · omega
    · exact h.serials_inj clientId₁ clientId₂ heq hpos

lemma Queues.register (h : Queues limits run) (hreg : Registry run) (clientId : ClientId)
    (addr : Addr) : Queues limits (run.step (.register clientId addr)) where
  hlimits := by
    show (run.hub.registerClient clientId addr).2.limits = limits
    rw [hreg.inverse.registerClient_eq]
    exact h.hlimits
  bounded clientId' client hclient := by
    dsimp only [step] at hclient
    rw [hreg.inverse.get_registerClient] at hclient
    split_ifs at hclient
    · obtain rfl := Option.some_inj.mp hclient
      exact Nat.zero_le _
    · exact h.bounded clientId' client hclient
  logged entry hentry := (h.logged entry hentry).trans (Nat.le_succ _)
  fifo := h.fifo
  queue clientId' client hclient := by
    dsimp only [step] at hclient ⊢
    rw [hreg.inverse.get_registerClient] at hclient
    split_ifs at hclient with hself haddr
    · -- nothing has been accepted for a registration that has just been made
      obtain rfl := Option.some_inj.mp hclient
      rw [hself, Function.update_self]
      have hnone : packetsOf (run.registrations + 1) run.accepted = [] := by
        refine packetsOf_eq_nil fun entry hentry => ?_
        have := h.logged entry hentry
        omega
      have hreceived := h.fifo (run.registrations + 1)
      rw [hnone, List.prefix_nil] at hreceived
      rw [hnone, hreceived, List.append_nil]
    · rw [Function.update_of_ne hself]
      exact h.queue clientId' client hclient

omit [DecidableEq Addr] in
lemma queued_eq (hub : InMemoryTransportHub Addr) (clientId : ClientId) :
    queued hub clientId
      = (hub.clients.toMap.lookup clientId).elim 0 fun client => client.queue.length := by
  rw [queued, queuedLen, AdaptiveMap.get_eq]
  cases hub.clients.toMap.lookup clientId <;> rfl

/-- A registration discards the queues it replaces. -/
lemma totalQueued_registerClient {hub : InMemoryTransportHub Addr} (h : hub.Inverse)
    (clientId : ClientId) (addr : Addr) :
    totalQueued (hub.registerClient clientId addr).2 + queued hub clientId
        + (hub.displaced clientId addr).elim 0 (queued hub)
      = totalQueued hub := by
  have hinsert := Finmap.total_insert_add (fun client => client.queue.length) clientId
    ⟨addr, hub.nextRegistrationToken, []⟩ hub.clients.toMap
  rw [List.length_nil, Nat.add_zero] at hinsert
  rw [h.registerClient_eq, totalQueued, totalQueued, queued_eq, ← hinsert]
  cases hdisplaced : hub.displaced clientId addr with
  | none => rw [Option.elim_none, Option.elim_none, AdaptiveMap.toMap_insert, Nat.add_zero]
  | some other =>
      have hne : other ≠ clientId := (displaced_eq_some.mp hdisplaced).2
      have herase := Finmap.total_erase_add (fun client => client.queue.length) other
        (hub.clients.toMap.insert clientId ⟨addr, hub.nextRegistrationToken, []⟩)
      rw [Finmap.lookup_insert_of_ne _ hne] at herase
      rw [Option.elim_some, Option.elim_some, AdaptiveMap.toMap_remove, AdaptiveMap.toMap_insert,
        queued_eq]
      omega

lemma Accounts.register (h : Accounts run) (hreg : Registry run) (clientId : ClientId)
    (addr : Addr) : Accounts (run.step (.register clientId addr)) := by
  have hstats : (run.hub.registerClient clientId addr).2.stats = run.hub.stats := by
    rw [hreg.inverse.registerClient_eq]
  refine ⟨?_, (congrArg _ hstats).trans h.sent, (congrArg _ hstats).trans h.received⟩
  have htotal := totalQueued_registerClient hreg.inverse clientId addr
  have hconserved := h.conserved
  dsimp only [step]
  omega

/-! ## Unregistering -/

lemma Registry.unregister (h : Registry run) (clientId : ClientId) :
    Registry (run.step (.unregister clientId)) where
  inverse := h.inverse.unregisterClient clientId
  nextToken := by
    refine Eq.trans (congrArg _ ?_) h.nextToken
    show (run.hub.unregisterClient clientId).2.nextRegistrationToken = _
    rw [unregisterClient]
    cases run.hub.clients.get clientId <;> rfl
  token clientId' client hclient := by
    dsimp only [step] at hclient
    rw [get_unregisterClient] at hclient
    split_ifs at hclient
    exact h.token clientId' client hclient
  numbered clientId' client hclient := by
    dsimp only [step] at hclient
    rw [get_unregisterClient] at hclient
    split_ifs at hclient
    exact h.numbered clientId' client hclient
  serials_le := h.serials_le
  serials_inj := h.serials_inj

lemma Queues.unregister (h : Queues limits run) (clientId : ClientId) :
    Queues limits (run.step (.unregister clientId)) where
  hlimits := by
    show (run.hub.unregisterClient clientId).2.limits = limits
    rw [← h.hlimits, unregisterClient]
    cases run.hub.clients.get clientId <;> rfl
  bounded clientId' client hclient := by
    dsimp only [step] at hclient
    rw [get_unregisterClient] at hclient
    split_ifs at hclient
    exact h.bounded clientId' client hclient
  logged := h.logged
  fifo := h.fifo
  queue clientId' client hclient := by
    dsimp only [step] at hclient
    rw [get_unregisterClient] at hclient
    split_ifs at hclient
    exact h.queue clientId' client hclient

lemma Accounts.unregister (h : Accounts run) (clientId : ClientId) :
    Accounts (run.step (.unregister clientId)) := by
  have hconserved := h.conserved
  have hsent := h.sent
  have hreceived := h.received
  unfold totalQueued at hconserved
  cases hclient : run.hub.clients.get clientId with
  | none =>
      constructor
      · simp only [step, unregisterClient, hclient, totalQueued, Option.elim_none]
        exact hconserved
      · simp only [step, unregisterClient, hclient]
        exact hsent
      · simp only [step, unregisterClient, hclient]
        exact hreceived
  | some client =>
      constructor
      · have herase := Finmap.total_erase_add (fun client => client.queue.length) clientId
          run.hub.clients.toMap
        rw [← AdaptiveMap.get_eq, hclient, Option.elim_some] at herase
        simp only [step, unregisterClient, hclient, totalQueued, Option.elim_some,
          AdaptiveMap.toMap_remove]
        omega
      · simp only [step, unregisterClient, hclient]
        exact hsent
      · simp only [step, unregisterClient, hclient]
        exact hreceived

/-! ## Sending and receiving -/

/-- Moving packets leaves the maps and the tokens alone. -/
lemma Registry.requeue (h : Registry run) {run' : HubRun Addr} {clientId : ClientId}
    {queue : InMemoryTransportClient Addr → List (InboundPacket Addr)}
    {stats : InMemoryTransportStats} (hhub : run'.hub = run.hub.requeue clientId queue stats)
    (hregistrations : run'.registrations = run.registrations)
    (hserials : run'.serials = run.serials) : Registry run' := by
  have hclient : ∀ clientId' client', run'.hub.clients.get clientId' = some client' →
      ∃ client, run.hub.clients.get clientId' = some client
        ∧ client.registrationToken = client'.registrationToken := by
    intro clientId' client' hget
    rw [hhub, get_requeue] at hget
    split_ifs at hget with heq
    · obtain ⟨client, hclient, rfl⟩ := Option.map_eq_some_iff.mp hget
      exact ⟨client, heq ▸ hclient, rfl⟩
    · exact ⟨client', hget, rfl⟩
  constructor
  · refine h.inverse.of_addrOf (fun clientId' => ?_) (by rw [hhub]; rfl)
    rw [hhub, addrOf_requeue]
  · rw [hhub, hregistrations]
    exact h.nextToken
  · intro clientId' client' hget
    obtain ⟨client, hclient, htoken⟩ := hclient clientId' client' hget
    rw [← htoken, hserials]
    exact h.token clientId' client hclient
  · intro clientId' client' hget
    obtain ⟨client, hclient, -⟩ := hclient clientId' client' hget
    rw [hserials]
    exact h.numbered clientId' client hclient
  · rw [hserials, hregistrations]
    exact h.serials_le
  · rw [hserials]
    exact h.serials_inj

omit [DecidableEq Addr] in
/-- The number of waiting packets after one queue has changed. -/
lemma totalQueued_requeue {hub : InMemoryTransportHub Addr} {clientId : ClientId}
    {client : InMemoryTransportClient Addr} (hclient : hub.clients.get clientId = some client)
    (queue : InMemoryTransportClient Addr → List (InboundPacket Addr))
    (stats : InMemoryTransportStats) :
    totalQueued (hub.requeue clientId queue stats) + client.queue.length
      = totalQueued hub + (queue client).length := by
  have hlookup : hub.clients.toMap.lookup clientId = some client := by
    rw [← AdaptiveMap.get_eq, hclient]
  have hinsert := Finmap.total_insert_add (fun client => client.queue.length) clientId
    { client with queue := queue client } hub.clients.toMap
  rw [hlookup, Option.elim_some] at hinsert
  rw [totalQueued, InMemoryTransportHub.requeue, AdaptiveMap.toMap_modify, Finmap.modify, hlookup]
  exact hinsert

/-- The invariant of a run. -/
structure Invariant (limits : ClientTransportLimits) (run : HubRun Addr) : Prop where
  registry : Registry run
  queues : Queues limits run
  accounts : Accounts run

lemma min_succ_usizeMax {count n : ℕ} (h : count = min n usizeMax) :
    usizeSaturatingAdd count 1 = min (n + 1) usizeMax := by
  rw [usizeSaturatingAdd, h]
  omega

/-- **Send step.**  A packet that is accepted is the last of its queue and of the log. -/
lemma Invariant.send (h : Invariant limits run) (endpoint : InMemoryTransportEndpoint)
    (packet : OutboundPacket) : Invariant limits (run.step (.send endpoint packet)) := by
  obtain ⟨hreg, hqueues, haccounts⟩ := h
  rcases endpoint.sendLocked_cases run.hub packet with
    ⟨error, stats, hsend, hsent, hreceived⟩
      | ⟨source, target, stats, hsource, htarget, hroom, hsend, hsent, hreceived⟩
  · have hnone : inbound run.hub endpoint packet = [] := by
      rw [inbound, hsend, if_neg (by simp)]
    rw [step, hnone, hsend, List.map_nil, List.append_nil]
    exact ⟨⟨hreg.inverse, hreg.nextToken, hreg.token, hreg.numbered, hreg.serials_le,
        hreg.serials_inj⟩,
      ⟨hqueues.hlimits, hqueues.bounded, hqueues.logged, hqueues.fifo, hqueues.queue⟩,
      ⟨haccounts.conserved, hsent.trans haccounts.sent, hreceived.trans haccounts.received⟩⟩
  · obtain ⟨hlocal, -⟩ := (endpoint.localClient_eq_some run.hub).mp hsource
    have hinbound : inbound run.hub endpoint packet
        = [⟨some endpoint.localClientId, source.remoteAddr, packet.bytes⟩] := by
      rw [inbound, hsend, if_pos rfl, addrOf, hlocal]
      rfl
    rw [step, hinbound, hsend, List.map_singleton]
    refine ⟨hreg.requeue rfl rfl rfl, ⟨hqueues.hlimits, ?_, ?_, ?_, ?_⟩, ⟨?_, ?_, ?_⟩⟩
    · intro clientId client hget
      dsimp only at hget
      rw [get_requeue] at hget
      split_ifs at hget with heq
      · rw [htarget] at hget
        obtain rfl := Option.some_inj.mp hget
        rw [hqueues.hlimits] at hroom
        rw [List.length_append, List.length_singleton]
        exact hroom
      · exact hqueues.bounded clientId client hget
    · intro entry hentry
      rcases List.mem_append.mp hentry with hentry | hentry
      · exact hqueues.logged entry hentry
      · rw [List.mem_singleton.mp hentry]
        exact hreg.serials_le packet.clientId
    · intro serial
      rw [packetsOf_append]
      exact (hqueues.fifo serial).trans (List.prefix_append _ _)
    · intro clientId client hget
      dsimp only at hget ⊢
      rw [get_requeue] at hget
      have hone : packetsOf (run.serials clientId) [(run.serials packet.clientId,
          (⟨some endpoint.localClientId, source.remoteAddr, packet.bytes⟩ : InboundPacket Addr))]
          = if run.serials packet.clientId = run.serials clientId then
              [⟨some endpoint.localClientId, source.remoteAddr, packet.bytes⟩] else [] :=
        packetsOf_map [_]
      rw [packetsOf_append, hone]
      split_ifs at hget with heq
      · rw [htarget] at hget
        obtain rfl := Option.some_inj.mp hget
        rw [heq, if_pos rfl, hqueues.queue packet.clientId target htarget, List.append_assoc]
      · have hne : run.serials packet.clientId ≠ run.serials clientId := fun hserial =>
          heq (hreg.serials_inj _ _ hserial (hreg.numbered _ _ htarget)).symm
        rw [if_neg hne, List.append_nil]
        exact hqueues.queue clientId client hget
    · have htotal := totalQueued_requeue htarget (fun target => target.queue
        ++ [⟨some endpoint.localClientId, source.remoteAddr, packet.bytes⟩]) stats
      have hconserved := haccounts.conserved
      rw [List.length_append, List.length_singleton] at htotal
      rw [List.length_append, List.length_singleton]
      dsimp only
      omega
    · show stats.packetsSent = _
      rw [hsent, List.length_append, List.length_singleton]
      exact min_succ_usizeMax haccounts.sent
    · exact hreceived.trans haccounts.received

/-- **Receive step.**  What is received is the first of its queue, the oldest packet accepted for
the registration and not received yet. -/
lemma Invariant.tryRecv (h : Invariant limits run) (endpoint : InMemoryTransportEndpoint) :
    Invariant limits (run.step (.tryRecv endpoint)) := by
  obtain ⟨hreg, hqueues, haccounts⟩ := h
  rcases endpoint.tryRecv_cases run.hub with
    ⟨answer, hnothing, hrecv⟩
      | ⟨client, packet, queue, stats, hlocal, hqueue, hrecv, hsent, hreceived⟩
  · have hnone : outbound run.hub endpoint = [] := by
      rw [outbound, hrecv]
      rcases answer with error | ⟨_ | packet⟩
      · rfl
      · rfl
      · exact absurd rfl (hnothing packet)
    rw [step, hnone, hrecv, List.map_nil, List.append_nil]
    exact ⟨⟨hreg.inverse, hreg.nextToken, hreg.token, hreg.numbered, hreg.serials_le,
        hreg.serials_inj⟩,
      ⟨hqueues.hlimits, hqueues.bounded, hqueues.logged, hqueues.fifo, hqueues.queue⟩,
      ⟨haccounts.conserved, haccounts.sent, haccounts.received⟩⟩
  · obtain ⟨hclient, -⟩ := (endpoint.localClient_eq_some run.hub).mp hlocal
    have houtbound : outbound run.hub endpoint = [packet] := by
      rw [outbound, hrecv]
      rfl
    have hheld := hqueues.queue endpoint.localClientId client hclient
    have hone (serial : ℕ) : packetsOf serial [(run.serials endpoint.localClientId, packet)]
        = if run.serials endpoint.localClientId = serial then [packet] else [] :=
      packetsOf_map [packet]
    rw [step, houtbound, hrecv, List.map_singleton]
    refine ⟨hreg.requeue rfl rfl rfl, ⟨hqueues.hlimits, ?_, hqueues.logged, ?_, ?_⟩,
      ⟨?_, ?_, ?_⟩⟩
    · intro clientId client' hget
      dsimp only at hget
      rw [get_requeue] at hget
      split_ifs at hget with heq
      · rw [hclient] at hget
        obtain rfl := Option.some_inj.mp hget
        have hbounded := hqueues.bounded _ _ hclient
        rw [hqueue, List.length_cons] at hbounded
        exact Nat.le_of_succ_le hbounded
      · exact hqueues.bounded clientId client' hget
    · intro serial
      rw [packetsOf_append, hone]
      split_ifs with hserial
      · rw [← hserial, hheld, hqueue]
        exact (List.prefix_append_right_inj _).mpr (List.prefix_append [packet] queue)
      · rw [List.append_nil]
        exact hqueues.fifo serial
    · intro clientId client' hget
      dsimp only at hget ⊢
      rw [get_requeue] at hget
      rw [packetsOf_append, hone]
      split_ifs at hget with heq
      · rw [hclient] at hget
        obtain rfl := Option.some_inj.mp hget
        rw [heq, if_pos rfl, hheld, hqueue, List.append_assoc, List.singleton_append]
      · have hne : run.serials endpoint.localClientId ≠ run.serials clientId := fun hserial =>
          heq (hreg.serials_inj _ _ hserial (hreg.numbered _ _ hclient)).symm
        rw [if_neg hne, List.append_nil]
        exact hqueues.queue clientId client' hget
    · have htotal := totalQueued_requeue hclient (fun _ => queue) stats
      have hconserved := haccounts.conserved
      rw [hqueue, List.length_cons] at htotal
      rw [List.length_append, List.length_singleton]
      dsimp only
      omega
    · exact hsent.trans haccounts.sent
    · show stats.packetsReceived = _
      rw [hreceived, List.length_append, List.length_singleton]
      exact min_succ_usizeMax haccounts.received

/-- **Runs** keep the invariant. -/
lemma invariant_execute (h : Invariant limits run) (ops : List (Op Addr)) :
    Invariant limits (execute step run ops) := by
  refine execute_preserves ?_ h ops
  intro run op hrun
  cases op with
  | register clientId addr =>
      exact ⟨hrun.registry.register clientId addr, hrun.queues.register hrun.registry clientId addr,
        hrun.accounts.register hrun.registry clientId addr⟩
  | unregister clientId =>
      exact ⟨hrun.registry.unregister clientId, hrun.queues.unregister clientId,
        hrun.accounts.unregister clientId⟩
  | send endpoint packet => exact hrun.send endpoint packet
  | tryRecv endpoint => exact hrun.tryRecv endpoint

lemma invariant_start : Invariant limits (start limits : HubRun Addr) :=
  ⟨registry_start, queues_start, accounts_start⟩

/-- A batch is a run of sends, up to the first packet that is rejected. -/
lemma sendBatch_eq_execute (run : HubRun Addr) (endpoint : InMemoryTransportEndpoint)
    (packets : List OutboundPacket) :
    ∃ sent, sent <+: packets
      ∧ (execute step run (sent.map (.send endpoint))).hub
        = (endpoint.sendBatch run.hub packets).2 := by
  induction packets generalizing run with
  | nil => exact ⟨[], List.prefix_refl _, rfl⟩
  | cons packet packets ih =>
      rw [sendBatch]
      cases hsend : endpoint.sendLocked run.hub packet with
      | mk result hub =>
          cases result with
          | error error =>
              refine ⟨[packet], List.prefix_append [packet] packets, ?_⟩
              exact congrArg Prod.snd hsend
          | ok accepted =>
              have hhub : (run.step (.send endpoint packet)).hub = hub := congrArg Prod.snd hsend
              obtain ⟨sent, hextends, hsent⟩ := ih (run.step (.send endpoint packet))
              refine ⟨packet :: sent, (List.prefix_cons_inj packet).mpr hextends, ?_⟩
              rw [List.map_cons, execute_cons, hsent, hhub]

/-! ## Endpoints -/

/-- The client has a registration. -/
def Registered (run : HubRun Addr) (clientId : ClientId) : Prop :=
  ∃ client, run.hub.clients.get clientId = some client

lemma token_eq_iff {serial serial' : ℕ} (h : 0 < serial) (h' : 0 < serial') :
    (serial - 1) % tokenPeriod + 1 = (serial' - 1) % tokenPeriod + 1
      ↔ serial ≡ serial' [MOD tokenPeriod] := by
  unfold tokenPeriod Nat.ModEq
  omega

/-- The token of an endpoint is that of the client's registration exactly when a multiple of the
token period lies between the two registrations. -/
lemma Registry.refused_iff {late : HubRun Addr} (h : Registry run) (hlate : Registry late)
    (clientId : ClientId) :
    (run.hub.endpointForRegistered clientId).Refused late.hub
      ↔ ¬ (Registered run clientId ∧ Registered late clientId
        ∧ late.serials clientId ≡ run.serials clientId [MOD tokenPeriod]) := by
  have hworks : (∃ client, (run.hub.endpointForRegistered clientId).localClient late.hub
        = some client)
      ↔ Registered run clientId ∧ Registered late clientId
        ∧ late.serials clientId ≡ run.serials clientId [MOD tokenPeriod] := by
    constructor
    · rintro ⟨client, hlocal⟩
      obtain ⟨hget, htoken⟩ := (localClient_eq_some _ _).mp hlocal
      obtain ⟨old, hold, htoken⟩ := Option.map_eq_some_iff.mp htoken.symm
      refine ⟨⟨old, hold⟩, ⟨client, hget⟩, ?_⟩
      have hnew := hlate.token clientId client hget
      rw [← htoken, h.token clientId old hold] at hnew
      exact (token_eq_iff (hlate.numbered _ _ hget) (h.numbered _ _ hold)).mp hnew.symm
    · rintro ⟨⟨old, hold⟩, ⟨client, hget⟩, hserial⟩
      refine ⟨client, (localClient_eq_some _ _).mpr ⟨hget, ?_⟩⟩
      rw [endpointForRegistered, hold, Option.map_some, Option.some_inj, ← UInt64.toNat_inj,
        hlate.token clientId client hget, h.token clientId old hold]
      exact (token_eq_iff (hlate.numbered _ _ hget) (h.numbered _ _ hold)).mpr hserial
  rw [InMemoryTransportEndpoint.refused_iff, ← hworks, ← Option.ne_none_iff_exists', not_not]

/-- **The hub.**  Along every run: the two maps are inverse to each other; a queue is within its
limit and holds the packets accepted for its registration and not received, in that order, and what
any registration received is the first part of what was accepted for it; an endpoint is refused in
every later state, unless its client is registered and a multiple of the token period lies between
the two registrations; and the packets accepted are those received, waiting and discarded. -/
theorem in_memory_hub (limits : ClientTransportLimits) (ops : List (Op Addr)) :
    let run := execute step (start limits) ops
    run.hub.Inverse
      ∧ (∀ clientId client, run.hub.clients.get clientId = some client →
        client.queue.length ≤ limits.maxQueuedPacketsPerClient
          ∧ packetsOf (run.serials clientId) run.accepted
            = packetsOf (run.serials clientId) run.received ++ client.queue)
      ∧ (∀ serial, packetsOf serial run.received <+: packetsOf serial run.accepted)
      ∧ (∀ clientId later, let late := execute step run later
        (run.hub.endpointForRegistered clientId).Refused late.hub
          ↔ ¬ (Registered run clientId ∧ Registered late clientId
            ∧ late.serials clientId ≡ run.serials clientId [MOD tokenPeriod]))
      ∧ run.accepted.length = run.received.length + totalQueued run.hub + run.discarded
      ∧ run.hub.stats.packetsSent = min run.accepted.length usizeMax
      ∧ run.hub.stats.packetsReceived = min run.received.length usizeMax := by
  intro run
  have h : Invariant limits run := invariant_execute invariant_start ops
  refine ⟨h.registry.inverse, ?_, h.queues.fifo, ?_, h.accounts.conserved, h.accounts.sent,
    h.accounts.received⟩
  · intro clientId client hclient
    exact ⟨h.queues.bounded clientId client hclient, h.queues.queue clientId client hclient⟩
  · intro clientId later
    exact h.registry.refused_iff (invariant_execute h later).registry clientId

/-- Registering the same client again and again. -/
lemma execute_register {clientId : ClientId} (addr : Addr) (h : Invariant limits run)
    (hregistered : Registered run clientId) (hserial : run.serials clientId = run.registrations)
    (n : ℕ) :
    Registered (execute step run (List.replicate n (.register clientId addr))) clientId
      ∧ (execute step run (List.replicate n (.register clientId addr))).serials clientId
        = run.registrations + n := by
  induction n generalizing run with
  | zero => exact ⟨hregistered, hserial⟩
  | succ n ih =>
      rw [List.replicate_succ, execute_cons]
      have hstep := invariant_execute h [.register clientId addr]
      have hserial' : (run.step (.register clientId addr)).serials clientId
          = (run.step (.register clientId addr)).registrations := Function.update_self _ _ _
      have hget := h.registry.inverse.get_registerClient clientId clientId addr
      rw [if_pos rfl] at hget
      obtain ⟨hregistered', hserials⟩ := ih hstep ⟨_, hget⟩ hserial'
      refine ⟨hregistered', hserials.trans ?_⟩
      show run.registrations + 1 + n = _
      omega

/-- A client that has been registered once, by itself. -/
def once : HubRun ℕ := execute step (start ⟨1, 1⟩) [.register ⟨1⟩ 0]

/-- After `n` more registrations of the client the endpoint of the first one is refused unless `n`
is a multiple of the token period. -/
lemma refused_once_iff (n : ℕ) :
    (execute step once (List.replicate n (.register ⟨1⟩ 0))).serials ⟨1⟩ = 1 + n
      ∧ ((once.hub.endpointForRegistered ⟨1⟩).Refused
          (execute step once (List.replicate n (.register ⟨1⟩ 0))).hub
        ↔ ¬ 1 + n ≡ 1 [MOD tokenPeriod]) := by
  have h : Invariant ⟨1, 1⟩ once := invariant_execute invariant_start _
  have hregistered : Registered once ⟨1⟩ := ⟨⟨0, 1, []⟩, rfl⟩
  obtain ⟨hlate, hserial⟩ := execute_register 0 h hregistered rfl n
  refine ⟨hserial, ?_⟩
  rw [h.registry.refused_iff (invariant_execute h _).registry, hserial]
  have hfirst : once.serials ⟨1⟩ = 1 := rfl
  have hregistrations : once.registrations = 1 := rfl
  rw [hfirst, hregistrations]
  exact not_congr ⟨fun hworks => hworks.2.2, fun hperiod => ⟨hregistered, hlate, hperiod⟩⟩

/-- A client is registered `tokenPeriod` more times: the endpoint of its first registration, which
has been replaced, still works. -/
theorem replaced_endpoint_works :
    Registered once ⟨1⟩
      ∧ (execute step once (List.replicate tokenPeriod (.register ⟨1⟩ 0))).serials ⟨1⟩
        ≠ once.serials ⟨1⟩
      ∧ ¬ (once.hub.endpointForRegistered ⟨1⟩).Refused
        (execute step once (List.replicate tokenPeriod (.register ⟨1⟩ 0))).hub := by
  obtain ⟨hserial, hrefused⟩ := refused_once_iff tokenPeriod
  refine ⟨⟨⟨0, 1, []⟩, rfl⟩, ?_, ?_⟩
  · rw [hserial]
    show 1 + tokenPeriod ≠ 1
    unfold tokenPeriod
    omega
  · rw [hrefused, not_not]
    exact Nat.add_mod_right 1 tokenPeriod

end HubRun

end SectorSync
