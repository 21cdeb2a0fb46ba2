import SectorSync.Runtime.StationNetwork

/-!
# The network of stations

Nodes send events and stamped commands to stations over one in-memory station transport, and pump
what comes in for a station into their event router or their command queues.  A run interleaves
these calls in any order, with stations that are registered and unregistered, drains and pops,
commands that a barrier holds back, and packets that other code sends.

The network keeps the histories of its calls.  `Sound` is what every call keeps (`Sound.step`), and
`events_delivered` and `commands_delivered` are what follows from it end to end.
-/

namespace SectorSync

open Machine

/-- What a node keeps for its stations. -/
structure StationNode where
  router : EventRouter
  stationQueues : StationQueues
  eventBridge : StationEventTransportBridge
  commandBridge : CommandDispatchTransportBridge

namespace StationNode

def new (limits : EventQueueLimits) : StationNode :=
  ⟨.new limits, ∅, .default, .default⟩

end StationNode

/-- The nodes, the transport between them, and what the calls reported, the oldest first. -/
structure StationNetwork (N : Type) where
  transport : StationTransportRun
  nodes : N → StationNode
  /-- The events whose send was accepted. -/
  sentEvents : List StationEvent
  /-- The commands whose send was accepted, with their station. -/
  sentCommands : List (StationId × CommandEnvelope)
  /-- What the pumps moved into the routers. -/
  routed : List (N × StationEvent)
  /-- What the pumps moved into the command queues. -/
  enqueued : List (N × StationId × CommandEnvelope)
  /-- What the pumps took and could not move. -/
  refused : List StationInboundPacket
  /-- What was drained from the routers, with the tick of the drain. -/
  drained : List (N × Tick × StationEvent)
  /-- The events that were in the queues of a station when it was unregistered. -/
  discarded : List (N × StationEvent)
  /-- What was popped from the command queues. -/
  popped : List (N × StationId × CommandEnvelope)
  /-- The commands that were dropped with their queues or their buffer. -/
  dropped : List (N × StationId × CommandEnvelope)

namespace StationNetwork

/-- A call. -/
inductive Op (N : Type) where
  /-- Registers a target with the transport. -/
  | registerTarget (stationId : StationId)
  | unregisterTarget (stationId : StationId)
  /-- Registers a station with the router of a node. -/
  | registerStation (node : N) (stationId : StationId)
  | unregisterStation (node : N) (stationId : StationId)
  | sendEvent (node : N) (event : StationEvent)
  | sendFrame (node : N) (sourceStation : StationId) (frame : CommandDispatchFrame)
  /-- Any other packet. -/
  | sendPacket (packet : StationOutboundPacket)
  | pumpEvents (node : N) (targetStation : StationId) (maxPackets : ℕ)
  | pumpCommands (node : N) (targetStation : StationId) (maxPackets : ℕ)
      (ingress : CommandIngress)
  | drainReady (node : N) (stationId : StationId) (currentTick : Tick)
  /-- Gives a station new command queues. -/
  | insertQueues (node : N) (stationId : StationId) (limits : CommandQueueLimits)
  | popNext (node : N) (stationId : StationId)
  | releaseBarrierBuffer (node : N) (stationId : StationId)
  | clearBarrierBuffer (node : N) (stationId : StationId)

variable {N : Type} [DecidableEq N]

/-- Nothing is registered and nothing was sent. -/
def start (limits : StationTransportLimits) (eventLimits : N → EventQueueLimits) :
    StationNetwork N where
  transport := .start limits
  nodes n := .new (eventLimits n)
  sentEvents := []
  sentCommands := []
  routed := []
  enqueued := []
  refused := []
  drained := []
  discarded := []
  popped := []
  dropped := []

variable (net : StationNetwork N)

/-- A node changes. -/
def setNode (node : N) (value : StationNode) : N → StationNode :=
  Function.update net.nodes node value

/-- The commands in the queues of a station, in the order in which they would be popped, and then
those that a barrier holds back. -/
def queuedCommands (stationQueues : StationQueues) (stationId : StationId) :
    List CommandEnvelope :=
  (stationQueues.lookup stationId).elim [] fun queue =>
    queue.high ++ queue.normal ++ queue.low ++ queue.barrierBuffer

/-- One call. -/
def step (net : StationNetwork N) : Op N → StationNetwork N
  | .registerTarget stationId =>
      { net with transport := net.transport.step (.registerStation stationId) }
  | .unregisterTarget stationId =>
      { net with transport := net.transport.step (.unregisterStation stationId) }
  | .registerStation node stationId =>
      let value := net.nodes node
      { net with
        nodes := net.setNode node { value with router := value.router.registerStation stationId } }
  | .unregisterStation node stationId =>
      let value := net.nodes node
      { net with
        nodes := net.setNode node
          { value with router := (value.router.unregisterStation stationId).2 }
        discarded := net.discarded ++ (value.router.heldBy stationId).map (node, ·) }
  | .sendEvent node event =>
      let value := net.nodes node
      match value.eventBridge.sendEvent StationTransportRun.sink net.transport event with
      | (.ok (), bridge, transport) =>
          { net with
            transport := transport
            nodes := net.setNode node { value with eventBridge := bridge }
            sentEvents := net.sentEvents ++ [event] }
      | (.error _, bridge, transport) =>
          { net with
            transport := transport
            nodes := net.setNode node { value with eventBridge := bridge } }
  | .sendFrame node sourceStation frame =>
      let value := net.nodes node
      match value.commandBridge.sendFrame StationTransportRun.sink net.transport sourceStation
          frame with
      | (.ok (), bridge, transport) =>
          { net with
            transport := transport
            nodes := net.setNode node { value with commandBridge := bridge }
            sentCommands := net.sentCommands ++ [(frame.stationId, frame.intoEnvelope)] }
      | (.error _, bridge, transport) =>
          { net with
            transport := transport
            nodes := net.setNode node { value with commandBridge := bridge } }
  | .sendPacket packet =>
      match StationTransportRun.sink.send net.transport packet with
      | (.ok (), transport) =>
          { net with
            transport := transport
            sentEvents := net.sentEvents
              ++ (carriedEvent (InMemoryStationTransport.arrival packet)).toList
            sentCommands := net.sentCommands
              ++ (CommandDispatchTransportBridge.dispatchedCommand
                (InMemoryStationTransport.arrival packet)).toList }
      | (.error _, transport) => { net with transport := transport }
  | .pumpEvents node targetStation maxPackets =>
      let value := net.nodes node
      let run := (StationEventTransportBridge.pumpRun StationTransportRun.receiver net.transport
        value.router targetStation maxPackets).2
      let (_, bridge, transport, router) := value.eventBridge.pumpTarget
        StationTransportRun.receiver net.transport value.router targetStation maxPackets
      { net with
        transport := transport
        nodes := net.setNode node { value with eventBridge := bridge, router := router }
        routed := net.routed ++ (run.moved.filterMap carriedEvent).map (node, ·)
        refused := net.refused ++ run.taken.drop run.moved.length }
  | .pumpCommands node targetStation maxPackets ingress =>
      let value := net.nodes node
      let run := (CommandDispatchTransportBridge.pumpRun StationTransportRun.receiver net.transport
        value.stationQueues targetStation maxPackets ingress).2
      let (_, bridge, transport, stationQueues) := value.commandBridge.pumpTarget
        StationTransportRun.receiver net.transport value.stationQueues targetStation maxPackets
        ingress
      { net with
        transport := transport
        nodes := net.setNode node
          { value with commandBridge := bridge, stationQueues := stationQueues }
        enqueued := net.enqueued
          ++ (run.moved.filterMap CommandDispatchTransportBridge.dispatchedCommand).map (node, ·)
        refused := net.refused ++ run.taken.drop run.moved.length }
  | .drainReady node stationId currentTick =>
      let value := net.nodes node
      match value.router.drainReady stationId currentTick with
      | (.ok ready, router) =>
          { net with
            nodes := net.setNode node { value with router := router }
            drained := net.drained ++ (ready.map (currentTick, ·)).map (node, ·) }
      | (.error _, router) =>
          { net with nodes := net.setNode node { value with router := router } }
  | .insertQueues node stationId limits =>
      let value := net.nodes node
      { net with
        nodes := net.setNode node
          { value with stationQueues := value.stationQueues.insert stationId (.new limits) }
        dropped := net.dropped
          ++ ((queuedCommands value.stationQueues stationId).map (stationId, ·)).map (node, ·) }
  | .popNext node stationId =>
      let value := net.nodes node
      match value.stationQueues.lookup stationId with
      | none => net
      | some queue =>
          { net with
            nodes := net.setNode node
              { value with stationQueues := value.stationQueues.insert stationId queue.popNext.2 }
            popped := net.popped
              ++ (queue.popNext.1.toList.map (stationId, ·)).map (node, ·) }
  | .releaseBarrierBuffer node stationId =>
      let value := net.nodes node
      match value.stationQueues.lookup stationId with
      | none => net
      | some queue =>
          { net with
            nodes := net.setNode node
              { value with
                stationQueues :=
                  value.stationQueues.insert stationId queue.releaseBarrierBuffer.2 } }
  | .clearBarrierBuffer node stationId =>
      let value := net.nodes node
      match value.stationQueues.lookup stationId with
      | none => net
      | some queue =>
          { net with
            nodes := net.setNode node
              { value with
                stationQueues :=
                  value.stationQueues.insert stationId queue.clearBarrierBuffer.2 }
            dropped := net.dropped
              ++ (queue.barrierBuffer.map (stationId, ·)).map (node, ·) }

/-! ## What every call keeps -/

open CommandDispatchTransportBridge (dispatchedCommand)

/-- The network and its histories. -/
structure Sound (limits : StationTransportLimits) (net : StationNetwork N) : Prop where
  carried : net.transport.Carried limits
  sentEvents : net.transport.ledger.accepted.filterMap carriedEvent = net.sentEvents
  sentCommands : net.transport.ledger.accepted.filterMap dispatchedCommand = net.sentCommands
  events : Lane carriedEvent (net.routed.map Prod.snd) net.transport.ledger.taken net.refused
  commands :
    Lane dispatchedCommand (net.enqueued.map Prod.snd) net.transport.ledger.taken net.refused
  routers : ∀ n, (net.nodes n).router.Routes (ofTag n net.routed)
    ((ofTag n net.drained).map Prod.snd) (ofTag n net.discarded)
  queues : ∀ n, (net.nodes n).stationQueues.Balances (ofTag n net.enqueued) (ofTag n net.popped)
    (ofTag n net.dropped)
  due : ∀ entry ∈ net.drained, entry.2.2.targetTick ≤ entry.2.1

variable {limits : StationTransportLimits} {net : StationNetwork N}

lemma sound_start (limits : StationTransportLimits) (eventLimits : N → EventQueueLimits) :
    Sound limits (start limits eventLimits) where
  carried := Conveys.new limits
  sentEvents := rfl
  sentCommands := rfl
  events := Lane.nil
  commands := Lane.nil
  routers n := EventRouter.routes_new (eventLimits n)
  queues n station := by simp [start, StationNode.new, StationQueues.held]
  due entry h := by simp [start] at h

/-- A packet that the transport accepts is logged, and one that it refuses is not. -/
lemma accepted_send {transport : StationTransportRun} {packet : StationOutboundPacket}
    {result : Except StationTransportError Unit} {transport' : StationTransportRun}
    (h : StationTransportRun.sink.send transport packet = (result, transport')) :
    transport' = transport.step (.sendStation packet)
      ∧ transport'.ledger.accepted = transport.ledger.accepted
        ++ if result = .ok () then [InMemoryStationTransport.arrival packet] else [] := by
  rcases transport.send_cases packet with ⟨error, hsend, haccepted⟩ | ⟨hsend, haccepted⟩
  · obtain ⟨rfl, rfl⟩ := Prod.mk.inj (hsend.symm.trans h)
    exact ⟨rfl, by rw [haccepted, if_neg (by simp), List.append_nil]⟩
  · obtain ⟨rfl, rfl⟩ := Prod.mk.inj (hsend.symm.trans h)
    exact ⟨rfl, by rw [haccepted, if_pos rfl]⟩

lemma filterMap_one {A : Type} (carried : StationInboundPacket → Option A)
    (packet : StationInboundPacket) : [packet].filterMap carried = (carried packet).toList := by
  cases h : carried packet <;> simp [h]

/-- **Send step.**  The histories follow what the transport accepts. -/
lemma Sound.send (h : Sound limits net) {packet : StationOutboundPacket}
    {result : Except StationTransportError Unit} {transport' : StationTransportRun}
    (hsend : StationTransportRun.sink.send net.transport packet = (result, transport'))
    (nodes : N → StationNode) (events : List StationEvent)
    (commands : List (StationId × CommandEnvelope))
    (hrouter : ∀ n, (nodes n).router = (net.nodes n).router)
    (hqueues : ∀ n, (nodes n).stationQueues = (net.nodes n).stationQueues)
    (hevents : events = if result = .ok () then
      (carriedEvent (InMemoryStationTransport.arrival packet)).toList else [])
    (hcommands : commands = if result = .ok () then
      (dispatchedCommand (InMemoryStationTransport.arrival packet)).toList else []) :
    Sound limits { net with
      transport := transport'
      nodes := nodes
      sentEvents := net.sentEvents ++ events
      sentCommands := net.sentCommands ++ commands } := by
  obtain ⟨rfl, haccepted⟩ := accepted_send hsend
  obtain ⟨htaken, -⟩ := net.transport.ledger_send packet
  refine ⟨h.carried.step _, ?_, ?_, ?_, ?_, fun n => ?_, fun n => ?_, h.due⟩
  · dsimp only
    rw [haccepted, List.filterMap_append, h.sentEvents, hevents]
    split_ifs
    · rw [filterMap_one]
    · rfl
  · dsimp only
    rw [haccepted, List.filterMap_append, h.sentCommands, hcommands]
    split_ifs
    · rw [filterMap_one]
    · rfl
  · dsimp only
    rw [htaken]
    exact h.events
  · dsimp only
    rw [htaken]
    exact h.commands
  · dsimp only
    rw [hrouter]
    exact h.routers n
  · dsimp only
    rw [hqueues]
    exact h.queues n

/-- A node changes, and with it the histories of its router and of its queues. -/
lemma Sound.setNode (h : Sound limits net) (node : N) (value : StationNode)
    (drained : List (Tick × StationEvent)) (discarded : List StationEvent)
    (popped dropped : List (StationId × CommandEnvelope))
    (hrouter : value.router.Routes (ofTag node net.routed)
      ((ofTag node net.drained ++ drained).map Prod.snd) (ofTag node net.discarded ++ discarded))
    (hqueues : value.stationQueues.Balances (ofTag node net.enqueued)
      (ofTag node net.popped ++ popped) (ofTag node net.dropped ++ dropped))
    (hdue : ∀ entry ∈ drained, entry.2.targetTick ≤ entry.1) :
    Sound limits { net with
      nodes := net.setNode node value
      drained := net.drained ++ drained.map (node, ·)
      discarded := net.discarded ++ discarded.map (node, ·)
      popped := net.popped ++ popped.map (node, ·)
      dropped := net.dropped ++ dropped.map (node, ·) } := by
  refine ⟨h.carried, h.sentEvents, h.sentCommands, h.events, h.commands, fun n => ?_, fun n => ?_,
    fun entry hentry => ?_⟩
  · dsimp only [StationNetwork.setNode]
    rw [ofTag_append, ofTag_append, ofTag_map, ofTag_map]
    by_cases hn : n = node
    · subst hn
      rw [Function.update_self, if_pos rfl, if_pos rfl]
      exact hrouter
    · rw [Function.update_of_ne hn, if_neg (Ne.symm hn), if_neg (Ne.symm hn), List.append_nil,
        List.append_nil]
      exact h.routers n
  · dsimp only [StationNetwork.setNode]
    rw [ofTag_append, ofTag_append, ofTag_map, ofTag_map]
    by_cases hn : n = node
    · subst hn
      rw [Function.update_self, if_pos rfl, if_pos rfl]
      exact hqueues
    · rw [Function.update_of_ne hn, if_neg (Ne.symm hn), if_neg (Ne.symm hn), List.append_nil,
        List.append_nil]
      exact h.queues n
  · rcases List.mem_append.mp hentry with hold | hnew
    · exact h.due entry hold
    · obtain ⟨entry', hmem, rfl⟩ := List.mem_map.mp hnew
      exact hdue entry' hmem

/-- What does not change in `Sound.setNode` may be left out. -/
lemma Sound.setNode_router (h : Sound limits net) {node : N} {router : EventRouter}
    (hrouter : router.Routes (ofTag node net.routed) ((ofTag node net.drained).map Prod.snd)
      (ofTag node net.discarded)) :
    Sound limits { net with
      nodes := net.setNode node { net.nodes node with router := router } } := by
  have hset := h.setNode node { net.nodes node with router := router } [] [] [] []
    (by simpa using hrouter) (by simpa using h.queues node) (by simp)
  simpa using hset

/-- The queues of one station change. -/
lemma Sound.setQueues (h : Sound limits net) {node : N} {stationId : StationId}
    {queue : CommandQueues CommandEnvelope}
    (hqueue : (net.nodes node).stationQueues.lookup stationId = some queue)
    (queue' : CommandQueues CommandEnvelope) (taken lost : List CommandEnvelope)
    (hchange : queue.all = taken + queue'.all + (lost : Multiset CommandEnvelope)) :
    Sound limits { net with
      nodes := net.setNode node { net.nodes node with
        stationQueues := (net.nodes node).stationQueues.insert stationId queue' }
      popped := net.popped ++ (taken.map (stationId, ·)).map (node, ·)
      dropped := net.dropped ++ (lost.map (stationId, ·)).map (node, ·) } := by
  have hbalances := (h.queues node).change hqueue [] taken lost (by simpa using hchange)
  have hset := h.setNode node { net.nodes node with
      stationQueues := (net.nodes node).stationQueues.insert stationId queue' }
    [] [] (taken.map (stationId, ·)) (lost.map (stationId, ·))
    (by simpa using h.routers node) (by simpa using hbalances) (by simp)
  simpa using hset

/-- **Pump step.**  What a pump takes is moved into the node, or refused. -/
lemma Sound.pumped (h : Sound limits net) {items rest : List StationInboundPacket}
    {transport : StationTransportRun} (hcarried : transport.Carried limits)
    (hledger : transport.ledger
      = { net.transport.ledger with taken := net.transport.ledger.taken ++ (items ++ rest) })
    (node : N) (value : StationNode) {events : List StationEvent}
    {commands : List (StationId × CommandEnvelope)}
    (hevents : items.filterMap carriedEvent = events)
    (hcommands : items.filterMap dispatchedCommand = commands)
    (hrouter : value.router.Routes (ofTag node net.routed ++ events)
      ((ofTag node net.drained).map Prod.snd) (ofTag node net.discarded))
    (hqueues : value.stationQueues.Balances (ofTag node net.enqueued ++ commands)
      (ofTag node net.popped) (ofTag node net.dropped)) :
    Sound limits { net with
      transport := transport
      nodes := net.setNode node value
      routed := net.routed ++ events.map (node, ·)
      enqueued := net.enqueued ++ commands.map (node, ·)
      refused := net.refused ++ rest } := by
  refine ⟨hcarried, ?_, ?_, ?_, ?_, fun n => ?_, fun n => ?_, h.due⟩
  · dsimp only
    rw [hledger]
    exact h.sentEvents
  · dsimp only
    rw [hledger]
    exact h.sentCommands
  · have hpumped := h.events.pumped items rest
    dsimp only
    rw [hevents] at hpumped
    rw [hledger, List.map_append, List.map_map]
    simpa using hpumped
  · have hpumped := h.commands.pumped items rest
    dsimp only
    rw [hcommands] at hpumped
    rw [hledger, List.map_append, List.map_map]
    simpa using hpumped
  · dsimp only [StationNetwork.setNode]
    rw [ofTag_append, ofTag_map]
    by_cases hn : n = node
    · subst hn
      rw [Function.update_self, if_pos rfl]
      exact hrouter
    · rw [Function.update_of_ne hn, if_neg (Ne.symm hn), List.append_nil]
      exact h.routers n
  · dsimp only [StationNetwork.setNode]
    rw [ofTag_append, ofTag_map]
    by_cases hn : n = node
    · subst hn
      rw [Function.update_self, if_pos rfl]
      exact hqueues
    · rw [Function.update_of_ne hn, if_neg (Ne.symm hn), List.append_nil]
      exact h.queues n

lemma Sound.pumpEvents (h : Sound limits net) (node : N) (targetStation : StationId)
    (maxPackets : ℕ) : Sound limits (net.step (.pumpEvents node targetStation maxPackets)) := by
  have hstate := StationEventTransportBridge.state_pumpTarget StationTransportRun.receiver
    (net.nodes node).eventBridge net.transport (net.nodes node).router targetStation maxPackets
  obtain ⟨items, result, transport, router, rest, hends⟩ :=
    (StationEventTransportBridge.pump StationTransportRun.receiver targetStation).exists_ends
      maxPackets net.transport (net.nodes node).router
  have hrun := Pump.run_of_ends hends (⟨targetStation, 0, 0, 0⟩ : StationEventPumpReport)
  rw [← StationEventTransportBridge.pumpRun] at hrun
  have hreceives : StationTransportRun.Receives
      (StationEventTransportBridge.pump StationTransportRun.receiver targetStation)
      targetStation := by
    intro run
    dsimp only [StationEventTransportBridge.pump, StationTransportRun.receiver]
    rcases (run.transport.tryRecvStation targetStation).1 with error | packet <;> exact ⟨rfl, rfl⟩
  obtain ⟨hcarried, hledger⟩ := hreceives.ends h.carried hends
  obtain ⟨hroutes, hnone⟩ := routes_ends hends (h.routers node)
  rw [hrun] at hstate
  dsimp only [step]
  rcases htarget : (net.nodes node).eventBridge.pumpTarget StationTransportRun.receiver
    net.transport (net.nodes node).router targetStation maxPackets with
    ⟨report, bridge, transport', router'⟩
  rw [htarget, Prod.mk.injEq] at hstate
  obtain ⟨rfl, rfl⟩ := hstate
  have hpumped := h.pumped hcarried hledger node
    { net.nodes node with eventBridge := bridge, router := router' } rfl
    (List.filterMap_eq_nil_iff.mpr hnone) hroutes (by simpa using h.queues node)
  rw [hrun]
  simpa using hpumped

lemma Sound.pumpCommands (h : Sound limits net) (node : N) (targetStation : StationId)
    (maxPackets : ℕ) (ingress : CommandIngress) :
    Sound limits (net.step (.pumpCommands node targetStation maxPackets ingress)) := by
  have hstate := CommandDispatchTransportBridge.state_pumpTarget StationTransportRun.receiver
    (net.nodes node).commandBridge net.transport (net.nodes node).stationQueues targetStation
    maxPackets ingress
  obtain ⟨items, result, transport, queues, rest, hends⟩ :=
    (CommandDispatchTransportBridge.pump StationTransportRun.receiver targetStation
      ingress).exists_ends maxPackets net.transport (net.nodes node).stationQueues
  have hrun := Pump.run_of_ends hends (⟨targetStation, 0, 0, 0⟩ : CommandDispatchPumpReport)
  rw [← CommandDispatchTransportBridge.pumpRun] at hrun
  have hreceives : StationTransportRun.Receives
      (CommandDispatchTransportBridge.pump StationTransportRun.receiver targetStation ingress)
      targetStation := by
    intro run
    dsimp only [CommandDispatchTransportBridge.pump, StationTransportRun.receiver]
    rcases (run.transport.tryRecvStation targetStation).1 with error | packet <;> exact ⟨rfl, rfl⟩
  obtain ⟨hcarried, hledger⟩ := hreceives.ends h.carried hends
  obtain ⟨hbalances, hnone⟩ := enqueues_ends hends (h.queues node)
  rw [hrun] at hstate
  dsimp only [step]
  rcases htarget : (net.nodes node).commandBridge.pumpTarget StationTransportRun.receiver
    net.transport (net.nodes node).stationQueues targetStation maxPackets ingress with
    ⟨report, bridge, transport', queues'⟩
  rw [htarget, Prod.mk.injEq] at hstate
  obtain ⟨rfl, rfl⟩ := hstate
  have hpumped := h.pumped hcarried hledger node
    { net.nodes node with commandBridge := bridge, stationQueues := queues' }
    (List.filterMap_eq_nil_iff.mpr hnone) rfl (by simpa using h.routers node) hbalances
  rw [hrun]
  simpa using hpumped

/-- The commands of the queues of a station, as a list. -/
lemma coe_queuedCommands (stationQueues : StationQueues) (stationId : StationId) :
    (queuedCommands stationQueues stationId : Multiset CommandEnvelope)
      = stationQueues.held stationId := by
  cases hqueue : stationQueues.lookup stationId with
  | none => simp [queuedCommands, StationQueues.held, hqueue]
  | some queue =>
      simp [queuedCommands, StationQueues.held, hqueue, CommandQueues.all,
        CommandQueues.readyCommands, CommandQueues.readyQueue, ← Multiset.coe_add, add_assoc]

/-- A release moves commands between the queues. -/
lemma all_releaseBarrierBuffer (queue : CommandQueues CommandEnvelope) :
    queue.releaseBarrierBuffer.2.all = queue.all := by
  obtain ⟨moved, hmoved, -⟩ := queue.releaseBarrierBuffer_spec
  rw [CommandQueues.all, CommandQueues.all, hmoved.readyCommands_eq, hmoved.buffer,
    ← Multiset.coe_add]
  abel

lemma all_popNext (queue : CommandQueues CommandEnvelope) :
    queue.all = queue.popNext.1.toList + queue.popNext.2.all := by
  have hbuffer : queue.popNext.2.barrierBuffer = queue.barrierBuffer := by
    rcases queue.popNext_cases with ⟨hpop, -⟩ | ⟨command, p, rest, -, -, -, hbuffer, -⟩
    · rw [hpop]
    · exact hbuffer
  rw [CommandQueues.all, CommandQueues.all, queue.readyCommands_popNext, hbuffer]
  abel

/-- Queues that are replaced drop their commands. -/
lemma balances_insertNew {stationQueues : StationQueues}
    {enqueued popped dropped : List (StationId × CommandEnvelope)}
    (h : stationQueues.Balances enqueued popped dropped) (stationId : StationId)
    (queueLimits : CommandQueueLimits) :
    StationQueues.Balances (stationQueues.insert stationId (.new queueLimits)) enqueued popped
      (dropped ++ (queuedCommands stationQueues stationId).map (stationId, ·)) := by
  intro station
  have hold := h station
  rw [held_insert, ofTag_append, ofTag_map]
  by_cases hself : station = stationId
  · subst hself
    rw [if_pos rfl, if_pos rfl, ← Multiset.coe_add, coe_queuedCommands, hold]
    have hnew : (CommandQueues.new queueLimits : CommandQueues CommandEnvelope).all = 0 := by
      simp [CommandQueues.all, CommandQueues.readyCommands, CommandQueues.new,
        CommandQueues.readyQueue]
    rw [hnew]
    abel
  · rw [if_neg hself, if_neg (Ne.symm hself), List.append_nil]
    exact hold

lemma all_clearBarrierBuffer (queue : CommandQueues CommandEnvelope) :
    queue.all = queue.clearBarrierBuffer.2.all + queue.barrierBuffer := by
  simp [CommandQueues.all, CommandQueues.clearBarrierBuffer, CommandQueues.readyCommands,
    CommandQueues.readyQueue]

lemma Sound.insertQueues (h : Sound limits net) (node : N) (stationId : StationId)
    (queueLimits : CommandQueueLimits) :
    Sound limits (net.step (.insertQueues node stationId queueLimits)) := by
  have hset := h.setNode node { net.nodes node with
      stationQueues := (net.nodes node).stationQueues.insert stationId (.new queueLimits) }
    [] [] [] ((queuedCommands (net.nodes node).stationQueues stationId).map (stationId, ·))
    (by simpa using h.routers node)
    (by simpa using balances_insertNew (h.queues node) stationId queueLimits) (by simp)
  simpa [StationNetwork.step] using hset

/-- A bridge only counts. -/
lemma Sound.setBridge (h : Sound limits net) (node : N) (bridge : StationEventTransportBridge)
    (bridge' : CommandDispatchTransportBridge) :
    Sound limits { net with nodes := net.setNode node { net.nodes node with
      eventBridge := bridge, commandBridge := bridge' } } := by
  have hset := h.setNode node
    { net.nodes node with eventBridge := bridge, commandBridge := bridge' } [] [] [] []
    (by simpa using h.routers node) (by simpa using h.queues node) (by simp)
  simpa using hset

lemma router_setBridge (net : StationNetwork N) (node : N) (bridge : StationEventTransportBridge)
    (bridge' : CommandDispatchTransportBridge) (n : N) :
    (net.setNode node { net.nodes node with
      eventBridge := bridge, commandBridge := bridge' } n).router = (net.nodes n).router
    ∧ (net.setNode node { net.nodes node with
      eventBridge := bridge, commandBridge := bridge' } n).stationQueues
        = (net.nodes n).stationQueues := by
  rw [StationNetwork.setNode, Function.update_apply]
  split_ifs with hn
  · rw [hn]
    exact ⟨rfl, rfl⟩
  · exact ⟨rfl, rfl⟩

lemma Sound.sendEvent (h : Sound limits net) (node : N) (event : StationEvent) :
    Sound limits (net.step (.sendEvent node event)) := by
  have hnodes := fun bridge => router_setBridge net node bridge (net.nodes node).commandBridge
  dsimp only [StationNetwork.step]
  rcases sendEvent_cases StationTransportRun.sink (net.nodes node).eventBridge
    net.transport event with ⟨error, hcall⟩ | ⟨bytes, hcarried, hsent⟩
  · rw [hcall]
    exact h.setBridge node _ _
  · have hcommand : dispatchedCommand (InMemoryStationTransport.arrival
        ⟨event.source, event.target, bytes⟩) = none := dispatchedCommand_eq_none hcarried
    have hevent : carriedEvent (InMemoryStationTransport.arrival
        ⟨event.source, event.target, bytes⟩) = some event := hcarried
    rcases hsent with ⟨error, transport, hsend, hcall⟩ | ⟨bridge, transport, hsend, hcall⟩
    · rw [hcall]
      simpa using h.send hsend _ [] [] (fun n => (hnodes (net.nodes node).eventBridge n).1)
        (fun n => (hnodes (net.nodes node).eventBridge n).2) (by simp) (by simp)
    · rw [hcall]
      simpa using h.send hsend _ [event] [] (fun n => (hnodes bridge n).1)
        (fun n => (hnodes bridge n).2) (by simp [hevent]) (by simp [hcommand])

lemma Sound.sendFrame (h : Sound limits net) (node : N) (sourceStation : StationId)
    (frame : CommandDispatchFrame) :
    Sound limits (net.step (.sendFrame node sourceStation frame)) := by
  have hnodes := router_setBridge net node (net.nodes node).eventBridge
  dsimp only [StationNetwork.step]
  rcases sendFrame_cases StationTransportRun.sink (net.nodes node).commandBridge
    net.transport sourceStation frame with ⟨error, hcall⟩ | ⟨bytes, hcarried, hsent⟩
  · rw [hcall]
    exact h.setBridge node _ _
  · have hevent : carriedEvent (InMemoryStationTransport.arrival
        ⟨sourceStation, frame.stationId, bytes⟩) = none := carriedEvent_eq_none hcarried
    have hcommand : dispatchedCommand (InMemoryStationTransport.arrival
        ⟨sourceStation, frame.stationId, bytes⟩)
        = some (frame.stationId, frame.intoEnvelope) := hcarried
    rcases hsent with ⟨error, transport, hsend, hcall⟩ | ⟨bridge, transport, hsend, hcall⟩
    · rw [hcall]
      simpa using h.send hsend _ [] [] (fun n => (hnodes (net.nodes node).commandBridge n).1)
        (fun n => (hnodes (net.nodes node).commandBridge n).2) (by simp) (by simp)
    · rw [hcall]
      simpa using h.send hsend _ [] [(frame.stationId, frame.intoEnvelope)]
        (fun n => (hnodes bridge n).1) (fun n => (hnodes bridge n).2) (by simp [hevent])
        (by simp [hcommand])

/-- **The step rule.**  Every call keeps the network and its histories together. -/
lemma Sound.step (h : Sound limits net) (op : Op N) : Sound limits (net.step op) := by
  cases op with
  | registerTarget stationId =>
      exact ⟨h.carried.step _, h.sentEvents, h.sentCommands, h.events, h.commands, h.routers,
        h.queues, h.due⟩
  | unregisterTarget stationId =>
      exact ⟨h.carried.step _, h.sentEvents, h.sentCommands, h.events, h.commands, h.routers,
        h.queues, h.due⟩
  | registerStation node stationId =>
      exact h.setNode_router ((h.routers node).registerStation stationId)
  | unregisterStation node stationId =>
      have hset := h.setNode node { net.nodes node with
          router := ((net.nodes node).router.unregisterStation stationId).2 }
        [] ((net.nodes node).router.heldBy stationId) [] []
        (by simpa using (h.routers node).unregisterStation stationId)
        (by simpa using h.queues node) (by simp)
      simpa [StationNetwork.step] using hset
  | sendEvent node event => exact h.sendEvent node event
  | sendFrame node sourceStation frame => exact h.sendFrame node sourceStation frame
  | sendPacket packet =>
      dsimp only [StationNetwork.step]
      rcases hsend : StationTransportRun.sink.send net.transport packet with
        ⟨error | _, transport⟩
      · simpa using h.send hsend net.nodes _ _ (fun _ => rfl) (fun _ => rfl) rfl rfl
      · simpa using h.send hsend net.nodes _ _ (fun _ => rfl) (fun _ => rfl) rfl rfl
  | pumpEvents node targetStation maxPackets => exact h.pumpEvents node targetStation maxPackets
  | pumpCommands node targetStation maxPackets ingress =>
      exact h.pumpCommands node targetStation maxPackets ingress
  | drainReady node stationId currentTick =>
      dsimp only [StationNetwork.step]
      rcases hdrain : (net.nodes node).router.drainReady stationId currentTick with
        ⟨error | ready, router⟩
      · obtain rfl := EventRouter.Routes.drainReady_error hdrain
        exact h.setNode_router (h.routers node)
      · obtain ⟨hroutes, hdue⟩ := (h.routers node).drainReady hdrain
        have hset := h.setNode node { net.nodes node with router := router }
          (ready.map (currentTick, ·)) [] [] []
          (by simpa [Function.comp_def] using hroutes) (by simpa using h.queues node)
          (by simpa using fun event hevent => (hdue event hevent).2)
        simpa using hset
  | insertQueues node stationId limits => exact h.insertQueues node stationId limits
  | popNext node stationId =>
      dsimp only [StationNetwork.step]
      cases hqueue : (net.nodes node).stationQueues.lookup stationId with
      | none => exact h
      | some queue =>
          have hset := h.setQueues hqueue queue.popNext.2 queue.popNext.1.toList []
            (by simpa using all_popNext queue)
          simpa using hset
  | releaseBarrierBuffer node stationId =>
      dsimp only [StationNetwork.step]
      cases hqueue : (net.nodes node).stationQueues.lookup stationId with
      | none => exact h
      | some queue =>
          have hset := h.setQueues hqueue queue.releaseBarrierBuffer.2 [] []
            (by simpa using (all_releaseBarrierBuffer queue).symm)
          simpa using hset
  | clearBarrierBuffer node stationId =>
      dsimp only [StationNetwork.step]
      cases hqueue : (net.nodes node).stationQueues.lookup stationId with
      | none => exact h
      | some queue =>
          have hset := h.setQueues hqueue queue.clearBarrierBuffer.2 [] queue.barrierBuffer
            (by simpa using all_clearBarrierBuffer queue)
          simpa using hset

lemma sound_execute (limits : StationTransportLimits) (eventLimits : N → EventQueueLimits)
    (ops : List (Op N)) : Sound limits (execute step (start limits eventLimits) ops) :=
  execute_preserves (I := Sound limits) (fun _ op h => h.step op) (sound_start limits eventLimits)
    ops

/-! ## End to end -/

/-- The events that a node has drained. -/
def drainedAt (net : StationNetwork N) (n : N) : List StationEvent :=
  (ofTag n net.drained).map Prod.snd

/-- The events that are applied in the order in which they are sent. -/
def eventClass (event : StationEvent) : StationId × EventPriority × Tick :=
  (event.target, event.priority, event.targetTick)

/-- **What the network promises about events.** -/
structure EventsDelivered (net : StationNetwork N) : Prop where
  /-- A node drains the events of a station, a priority and a tick in the order in which they were
  sent. -/
  ordered : ∀ n, InOrder eventClass (net.drainedAt n) net.sentEvents
  /-- All nodes together drain no event more often than it was sent. -/
  once : (net.drained.map fun entry => entry.2.2).Subperm net.sentEvents
  /-- No event is drained before its tick. -/
  due : ∀ entry ∈ net.drained, entry.2.2.targetTick ≤ entry.2.1
  /-- What was sent was routed, or was refused, or waits in the transport, or was discarded with
  the queue of its station. -/
  moved : ∀ id p, (selectEvents id p net.sentEvents).Perm
    (selectEvents id p (net.routed.map Prod.snd)
      ++ selectEvents id p (net.refused.filterMap carriedEvent)
      ++ selectEvents id p ((net.transport.transport.waiting id).filterMap carriedEvent)
      ++ selectEvents id p (net.transport.ledger.discarded.filterMap carriedEvent))
  /-- A reliable event that was routed was drained, or is queued, or was discarded with the queue of
  its station. -/
  kept : ∀ n id p, p ≠ .bestEffort → (selectEvents id p (ofTag n net.routed)).Perm
    (selectEvents id p (net.drainedAt n) ++ (net.nodes n).router.held id p
      ++ selectEvents id p (ofTag n net.discarded))

/-- **What the network promises about commands.** -/
structure CommandsDelivered (net : StationNetwork N) : Prop where
  /-- The commands of a station are enqueued in the order in which they were sent, on whichever
  node. -/
  ordered : InOrder Prod.fst (net.enqueued.map Prod.snd) net.sentCommands
  /-- All nodes together pop no command more often than it was sent. -/
  once : (net.popped.map Prod.snd).Subperm net.sentCommands
  /-- What was sent was enqueued, or was refused, or waits in the transport, or was discarded with
  the queue of its station. -/
  moved : ∀ id, (ofTag id net.sentCommands).Perm
    (ofTag id (net.enqueued.map Prod.snd)
      ++ ofTag id (net.refused.filterMap dispatchedCommand)
      ++ ofTag id ((net.transport.transport.waiting id).filterMap dispatchedCommand)
      ++ ofTag id (net.transport.ledger.discarded.filterMap dispatchedCommand))
  /-- A command that was enqueued was popped, or is queued or buffered, or was dropped with its
  queues or its buffer. -/
  kept : ∀ n id, (ofTag id (ofTag n net.enqueued) : Multiset CommandEnvelope)
    = ofTag id (ofTag n net.popped) + (net.nodes n).stationQueues.held id
      + ofTag id (ofTag n net.dropped)

section Lanes

variable {A : Type} {carried : StationInboundPacket → Option A} (target : A → StationId)
  (htarget : ∀ packet a, carried packet = some a → target a = packet.route)
include htarget

/-- The items for a station are those of the packets for it. -/
lemma filter_carried (id : StationId) (packets : List StationInboundPacket) :
    ((packets.filterMap carried).filter fun a => target a = id)
      = (toStation id packets).filterMap carried := by
  induction packets with
  | nil => rfl
  | cons packet packets ih =>
      have hcons : toStation id (packet :: packets)
          = toStation id [packet] ++ toStation id packets := toStation_append [packet] packets
      have hone : packet :: packets = [packet] ++ packets := rfl
      rw [hcons, hone, List.filterMap_append, List.filterMap_append, List.filter_append, ih,
        filterMap_one, toStation_singleton]
      cases hitem : carried packet with
      | none => split_ifs <;> simp [hitem]
      | some a =>
          rw [← htarget packet a hitem]
          by_cases hself : target a = id <;> simp [hself, hitem]

variable {transport : InMemoryStationTransport} {ledger : StationLedger}

/-- The transport keeps the order of the items of a station. -/
lemma inOrder_taken (h : Conveys limits transport ledger) :
    InOrder target (ledger.taken.filterMap carried) (ledger.accepted.filterMap carried) := by
  intro id
  rw [filter_carried target htarget, filter_carried target htarget]
  exact ((List.sublist_append_left _ _).trans (h.ordered id)).filterMap _

/-- The transport loses items only with a queue. -/
lemma perm_accepted (h : Conveys limits transport ledger) (id : StationId) :
    ((ledger.accepted.filterMap carried).filter fun a => target a = id).Perm
      (((ledger.taken.filterMap carried).filter fun a => target a = id)
        ++ (((transport.waiting id).filterMap carried).filter fun a => target a = id)
        ++ ((ledger.discarded.filterMap carried).filter fun a => target a = id)) := by
  rw [filter_carried target htarget, filter_carried target htarget, filter_carried target htarget,
    filter_carried target htarget, toStation_eq_self (h.routes id), ← List.filterMap_append,
    ← List.filterMap_append]
  exact (h.conserved id).filterMap carried

/-- What becomes of the items of a station that were sent. -/
lemma perm_sent (h : Conveys limits transport ledger) {moved : List A}
    {refused : List StationInboundPacket} (hlane : Lane carried moved ledger.taken refused)
    (id : StationId) :
    ((ledger.accepted.filterMap carried).filter fun a => target a = id).Perm
      ((moved.filter fun a => target a = id)
        ++ ((refused.filterMap carried).filter fun a => target a = id)
        ++ (((transport.waiting id).filterMap carried).filter fun a => target a = id)
        ++ ((ledger.discarded.filterMap carried).filter fun a => target a = id)) := by
  refine (perm_accepted target htarget h id).trans
    (List.Perm.append_right _ (List.Perm.append_right _ ?_))
  rw [← List.filter_append]
  exact hlane.kept.filter _

end Lanes

lemma selectEvents_eq (id : StationId) (p : EventPriority) (events : List StationEvent) :
    selectEvents id p events
      = (events.filter fun event => event.target = id).filter fun event => event.priority = p := by
  rw [selectEvents, List.filter_filter]
  refine List.filter_congr fun event _ => ?_
  by_cases hp : event.priority = p <;> simp [hp]

lemma ofTag_eq {K A : Type} [DecidableEq K] (k : K) (log : List (K × A)) :
    ofTag k log = (log.filter fun entry => entry.1 = k).map Prod.snd := rfl

/-- A router drains the events of a class in the order in which they were routed to it. -/
lemma inOrder_drained {router : EventRouter} {routed drained discarded : List StationEvent}
    (h : router.Routes routed drained discarded) : InOrder eventClass drained routed := by
  rintro ⟨id, p, tick⟩
  have hclass : ∀ events : List StationEvent,
      (events.filter fun event => eventClass event = (id, p, tick))
        = (selectEvents id p events).filter fun event => event.targetTick = tick := by
    intro events
    rw [selectEvents, List.filter_filter]
    refine List.filter_congr fun event _ => ?_
    simp only [eventClass, Prod.mk.injEq, ← Bool.decide_and, decide_eq_decide]
    tauto
  rw [hclass, hclass]
  have hordered := h.ordered id p tick
  rw [List.filter_append] at hordered
  exact (List.sublist_append_left _ _).trans hordered

lemma Sound.eventsDelivered (h : Sound limits net) : EventsDelivered net := by
  have hsent : InOrder StationEvent.target (net.routed.map Prod.snd) net.sentEvents := by
    have htaken := inOrder_taken StationEvent.target
      (fun _ _ => target_of_carriedEvent) h.carried
    rw [h.sentEvents] at htaken
    exact (InOrder.of_sublist h.events.ordered).trans htaken
  have hat : ∀ n, InOrder eventClass (net.drainedAt n) (ofTag n net.routed) :=
    fun n => inOrder_drained (h.routers n)
  refine ⟨fun n => ?_, ?_, h.due, fun id p => ?_, fun n id p hp => (h.routers n).kept id p hp⟩
  · refine (hat n).trans ((InOrder.of_sublist ofTag_sublist).trans ?_)
    exact hsent.refine fun a b hab => congrArg Prod.fst hab
  · have htagged : (net.drained.map fun entry => (entry.1, entry.2.2)).Subperm net.routed := by
      refine subperm_of_ofTag fun n => ?_
      have hdrained : ofTag n (net.drained.map fun entry => (entry.1, entry.2.2))
          = net.drainedAt n := by
        simp [ofTag, drainedAt, List.filter_map, Function.comp_def]
      rw [hdrained]
      exact (hat n).subperm
    have hmap := subperm_map_snd htagged
    rw [List.map_map] at hmap
    exact hmap.trans hsent.subperm
  · have hperm := perm_sent StationEvent.target
      (fun _ _ => target_of_carriedEvent) h.carried h.events id
    rw [h.sentEvents] at hperm
    have hselect := hperm.filter fun event => event.priority = p
    simp only [List.filter_append] at hselect
    simpa only [selectEvents_eq] using hselect

lemma Sound.commandsDelivered (h : Sound limits net) : CommandsDelivered net := by
  have hsent : InOrder Prod.fst (net.enqueued.map Prod.snd) net.sentCommands := by
    have htaken := inOrder_taken Prod.fst
      (fun _ _ => target_of_dispatchedCommand) h.carried
    rw [h.sentCommands] at htaken
    exact (InOrder.of_sublist h.commands.ordered).trans htaken
  refine ⟨hsent, ?_, fun id => ?_, fun n id => h.queues n id⟩
  · have htagged : net.popped.Subperm net.enqueued := by
      refine subperm_of_ofTag fun n => subperm_of_ofTag fun id => ?_
      have hbalance := h.queues n id
      rw [add_assoc] at hbalance
      exact Multiset.coe_le.mp (Multiset.le_iff_exists_add.mpr ⟨_, hbalance⟩)
    exact (subperm_map_snd htagged).trans hsent.subperm
  · have hperm := perm_sent Prod.fst
      (fun _ _ => target_of_dispatchedCommand) h.carried h.commands id
    rw [h.sentCommands] at hperm
    have hmap := hperm.map Prod.snd
    simpa only [List.map_append, ← ofTag_eq] using hmap

/-- **Events are delivered.**  After every run of the network, in every interleaving of sends,
pumps, drains, registrations and foreign packets, events of one target, priority and tick are
drained in the order in which they were sent, none is drained before its tick, made up or drained
twice, and every event that was sent is accounted for: a reliable one is lost only where a pump
reports the failure or a station is unregistered. -/
theorem events_delivered (limits : StationTransportLimits) (eventLimits : N → EventQueueLimits)
    (ops : List (Op N)) :
    EventsDelivered (execute step (start limits eventLimits) ops) :=
  (sound_execute limits eventLimits ops).eventsDelivered

/-- **Commands are delivered.**  After every run of the network, in every interleaving, commands are
enqueued at a station in the order in which they were sent to it, none is made up or popped twice,
and every command that was sent is accounted for. -/
theorem commands_delivered (limits : StationTransportLimits) (eventLimits : N → EventQueueLimits)
    (ops : List (Op N)) :
    CommandsDelivered (execute step (start limits eventLimits) ops) :=
  (sound_execute limits eventLimits ops).commandsDelivered

end StationNetwork

end SectorSync
