import SectorSync.Base.Tagged
import SectorSync.Core.CommandRun
import SectorSync.Runtime.RouterOrder
import SectorSync.Runtime.TransportBridge
import SectorSync.Transport.StationTransport

/-!
# Packets between stations

What the pumps of the bridges do with the packets of the in-memory station transport.  The transport
keeps its ledger, so that a call of a pump shows which packets it took (`Receives.ends`): a stretch
of packets that its sink takes, and at most one that the sink refuses, which is lost.

The items that packets carry form a `Lane`.  Events and commands are two lanes of one transport: no
packet carries both, and a pump moves the items of its own lane only.  `routes_ends` and
`enqueues_ends` are what the pumps do to the event router and to the command queues of a node.
-/

namespace SectorSync

open Machine

/-! ## The transport with its ledger -/

namespace StationTransportRun

/-- The transport as a sink; the ledger keeps what the sends report. -/
def sink : TransportSink StationTransportRun StationOutboundPacket StationTransportError where
  send run packet :=
    ((run.transport.sendStation packet).1, run.step (.sendStation packet))

/-- The transport as a receiver. -/
def receiver : StationTransportReceiver StationTransportRun StationTransportError where
  tryRecvStation run targetStation :=
    ((run.transport.tryRecvStation targetStation).1, run.step (.tryRecvStation targetStation))

variable {limits : StationTransportLimits} {run run' : StationTransportRun}

/-- A ledger that fits its transport. -/
def Carried (limits : StationTransportLimits) (run : StationTransportRun) : Prop :=
  Conveys limits run.transport run.ledger

lemma Carried.step (h : Carried limits run) (op : StationTransportOp) :
    Carried limits (run.step op) := conveys_step run op h

/-- A send accepts its packet, or leaves the packets as they are. -/
lemma send_cases (run : StationTransportRun) (packet : StationOutboundPacket) :
    (∃ error, sink.send run packet = (.error error, run.step (.sendStation packet))
      ∧ (run.step (.sendStation packet)).ledger.accepted = run.ledger.accepted)
    ∨ sink.send run packet = (.ok (), run.step (.sendStation packet))
      ∧ (run.step (.sendStation packet)).ledger.accepted
        = run.ledger.accepted ++ [InMemoryStationTransport.arrival packet] := by
  rcases hsend : run.transport.sendStation packet with ⟨error | _, transport⟩
  · exact .inl ⟨error, by simp only [sink, hsend], by rw [step, hsend]; rfl⟩
  · exact .inr ⟨by simp only [sink, hsend], by rw [step, hsend]; rfl⟩

/-- A send takes nothing and discards nothing. -/
lemma ledger_send (run : StationTransportRun) (packet : StationOutboundPacket) :
    (run.step (.sendStation packet)).ledger.taken = run.ledger.taken
      ∧ (run.step (.sendStation packet)).ledger.discarded = run.ledger.discarded := by
  rcases hsend : run.transport.sendStation packet with ⟨error | _, transport⟩ <;>
    rw [step, hsend] <;> exact ⟨rfl, rfl⟩

/-- A receive takes the packet that it returns. -/
lemma ledger_recv (run : StationTransportRun) (targetStation : StationId) :
    (run.step (.tryRecvStation targetStation)).ledger
      = { run.ledger with
          taken := run.ledger.taken
            ++ ((run.transport.tryRecvStation targetStation).1.toOption.bind id).toList } := by
  rcases hrecv : run.transport.tryRecvStation targetStation with ⟨error | (_ | packet), transport⟩
  · simp [step, hrecv, StationLedger.recv, Except.toOption]
  · simp [step, hrecv, StationLedger.recv, Except.toOption]
  · simp [step, hrecv, StationLedger.recv, Except.toOption]

section Pumps

variable {S R F : Type} {pump : Pump StationTransportRun S StationInboundPacket R F}
  {station : StationId} {s s' : S} {items : List StationInboundPacket}

/-- The pump takes its packets from the transport, for one station. -/
def Receives (pump : Pump StationTransportRun S StationInboundPacket R F)
    (station : StationId) : Prop :=
  ∀ run : StationTransportRun,
    (pump.recv run).2 = run.step (.tryRecvStation station)
      ∧ (pump.recv run).1.toOption = (run.transport.tryRecvStation station).1.toOption

/-- What a receive of the pump does. -/
lemma Receives.recv (hpump : Receives pump station) (h : Carried limits run)
    {answer : Except F (Option StationInboundPacket)} (hrecv : pump.recv run = (answer, run')) :
    Carried limits run' ∧ run'.ledger
      = { run.ledger with taken := run.ledger.taken ++ (answer.toOption.bind id).toList } := by
  obtain ⟨hstate, hanswer⟩ := hpump run
  rw [hrecv] at hstate hanswer
  dsimp only at hstate hanswer
  rw [hstate, hanswer]
  exact ⟨h.step _, run.ledger_recv station⟩

/-- The packets of a stretch are taken from the transport. -/
lemma Receives.moves (hpump : Receives pump station) (h : Carried limits run)
    (hmoves : pump.Moves run s items run' s') :
    Carried limits run'
      ∧ run'.ledger = { run.ledger with taken := run.ledger.taken ++ items } := by
  induction hmoves with
  | nil => exact ⟨h, by simp⟩
  | cons hrecv hhandle hmoves ih =>
      obtain ⟨hcarried, hledger⟩ := hpump.recv h hrecv
      obtain ⟨hcarried', hledger'⟩ := ih hcarried
      refine ⟨hcarried', hledger'.trans ?_⟩
      rw [hledger]
      simp [Except.toOption]

/-- So are those of a run of the pump. -/
lemma Receives.ends (hpump : Receives pump station) (h : Carried limits run) {budget : ℕ}
    {result : Except F Unit} {rest : List StationInboundPacket}
    (hends : pump.Ends budget run s items result run' s' rest) :
    Carried limits run'
      ∧ run'.ledger = { run.ledger with taken := run.ledger.taken ++ (items ++ rest) } := by
  cases hends with
  | spent hmoves =>
      rw [List.append_nil]
      exact hpump.moves h hmoves
  | empty hmoves _ hrecv =>
      obtain ⟨hcarried, hledger⟩ := hpump.moves h hmoves
      obtain ⟨hcarried', hledger'⟩ := hpump.recv hcarried hrecv
      exact ⟨hcarried', by rw [hledger', hledger]; simp [Except.toOption]⟩
  | failed hmoves _ hrecv =>
      obtain ⟨hcarried, hledger⟩ := hpump.moves h hmoves
      obtain ⟨hcarried', hledger'⟩ := hpump.recv hcarried hrecv
      exact ⟨hcarried', by rw [hledger', hledger]; simp [Except.toOption]⟩
  | refused hmoves _ hrecv _ =>
      obtain ⟨hcarried, hledger⟩ := hpump.moves h hmoves
      obtain ⟨hcarried', hledger'⟩ := hpump.recv hcarried hrecv
      exact ⟨hcarried', by rw [hledger', hledger]; simp [Except.toOption]⟩

end Pumps

end StationTransportRun

/-! ## Lanes -/

/-- What becomes of the items that packets carry: they are moved, in the order in which they were
taken, or refused. -/
structure Lane {A : Type} (carried : StationInboundPacket → Option A) (moved : List A)
    (taken refused : List StationInboundPacket) : Prop where
  ordered : moved.Sublist (taken.filterMap carried)
  kept : (taken.filterMap carried).Perm (moved ++ refused.filterMap carried)

namespace Lane

variable {A : Type} {carried : StationInboundPacket → Option A} {moved : List A}
  {taken refused : List StationInboundPacket}

lemma nil : Lane carried [] [] [] := ⟨List.Sublist.refl _, List.Perm.refl _⟩

/-- **Pump step.**  The items of the packets that the sink took are moved; what was taken beyond
them is refused. -/
lemma pumped (h : Lane carried moved taken refused) (items rest : List StationInboundPacket) :
    Lane carried (moved ++ items.filterMap carried) (taken ++ (items ++ rest))
      (refused ++ rest) where
  ordered := by
    rw [List.filterMap_append, List.filterMap_append]
    exact h.ordered.append (List.sublist_append_left _ _)
  kept := by
    rw [List.filterMap_append, List.filterMap_append, List.filterMap_append]
    refine (h.kept.append_right _).trans ?_
    simp only [List.append_assoc]
    refine List.Perm.append_left _ ?_
    rw [← List.append_assoc, ← List.append_assoc]
    exact List.Perm.append_right _ List.perm_append_comm

end Lane

/-- The event that a packet carries. -/
def carriedEvent (packet : StationInboundPacket) : Option StationEvent :=
  match Wire.decoded packet.bytes with
  | .ok (.stationEvent frame) =>
      if frame.sourceStation = packet.source ∧ frame.targetStation = packet.route then
        some frame.intoEvent
      else none
  | _ => none

open CommandDispatchTransportBridge (dispatchedCommand enqueuePacket)
open StationEventTransportBridge (routePacket)

section Carried

variable {packet : StationInboundPacket}

lemma target_of_carriedEvent {event : StationEvent} (h : carriedEvent packet = some event) :
    event.target = packet.route := by
  rw [carriedEvent] at h
  split at h
  · split_ifs at h with hends
    cases h
    exact hends.2
  · cases h

lemma target_of_dispatchedCommand {dispatched : StationId × CommandEnvelope}
    (h : dispatchedCommand packet = some dispatched) : dispatched.1 = packet.route := by
  rw [dispatchedCommand] at h
  split at h
  · split_ifs at h with hstation
    cases h
    exact hstation
  · cases h

/-- No packet carries an event and a command. -/
lemma dispatchedCommand_eq_none {event : StationEvent} (h : carriedEvent packet = some event) :
    dispatchedCommand packet = none := by
  rw [carriedEvent] at h
  split at h
  · rename_i hdecoded
    simp only [dispatchedCommand, hdecoded]
  · cases h

lemma carriedEvent_eq_none {dispatched : StationId × CommandEnvelope}
    (h : dispatchedCommand packet = some dispatched) : carriedEvent packet = none := by
  rw [Option.eq_none_iff_forall_ne_some]
  intro event hevent
  rw [dispatchedCommand_eq_none hevent] at h
  cases h

end Carried

/-! ## Events -/

section Events

variable {T E : Type} {router router' : EventRouter} {routed drained discarded : List StationEvent}
  {packet : StationInboundPacket}

/-- A packet that is routed carries the event. -/
lemma route_of_routePacket
    (h : routePacket router packet
      = ((.ok () : Except (StationEventTransportError E) Unit), router')) :
    ∃ event outcome, carriedEvent packet = some event
      ∧ router.route event = (.ok outcome, router') := by
  rw [routePacket] at h
  split at h
  · cases h
  · rename_i frame hdecoded
    split_ifs at h with hmismatch
    · cases h
    · obtain ⟨hsource, htarget⟩ := not_or.mp hmismatch
      rcases hroute : router.route frame.intoEvent with ⟨cause | outcome, r⟩
      · rw [hroute] at h
        cases h
      · rw [hroute] at h
        cases h
        refine ⟨frame.intoEvent, outcome, ?_, hroute⟩
        simp only [carriedEvent, hdecoded]
        rw [if_pos ⟨not_not.mp hsource, not_not.mp htarget⟩]
  · cases h

variable {receiver : StationTransportReceiver T E} {station : StationId} {t t' : T}
  {items rest : List StationInboundPacket}

/-- A stretch of packets is routed in its order. -/
lemma routes_moves
    (hmoves : (StationEventTransportBridge.pump receiver station).Moves t router items t' router')
    (h : router.Routes routed drained discarded) :
    router'.Routes (routed ++ items.filterMap carriedEvent) drained discarded
      ∧ ∀ packet ∈ items, dispatchedCommand packet = none := by
  generalize hpump : StationEventTransportBridge.pump receiver station = pump at hmoves
  induction hmoves generalizing routed with
  | nil => exact ⟨by simpa using h, by simp⟩
  | @cons _ _ _ router router₁ router₂ packet items hrecv hhandle hmoves ih =>
      subst hpump
      obtain ⟨event, outcome, hevent, hroute⟩ := route_of_routePacket hhandle
      obtain ⟨hroutes, hitems⟩ := ih (h.route hroute)
      rw [List.append_assoc, List.singleton_append] at hroutes
      refine ⟨by rwa [List.filterMap_cons_some hevent], ?_⟩
      intro p hp
      rcases List.mem_cons.mp hp with rfl | hp
      · exact dispatchedCommand_eq_none hevent
      · exact hitems p hp

/-- **A call of the event pump** routes the events of the packets that it moves. -/
lemma routes_ends {budget : ℕ} {result : Except (StationEventTransportError E) Unit}
    (hends : (StationEventTransportBridge.pump receiver station).Ends budget t router items result
      t' router' rest)
    (h : router.Routes routed drained discarded) :
    router'.Routes (routed ++ items.filterMap carriedEvent) drained discarded
      ∧ ∀ packet ∈ items, dispatchedCommand packet = none := by
  cases hends with
  | spent hmoves => exact routes_moves hmoves h
  | empty hmoves => exact routes_moves hmoves h
  | failed hmoves => exact routes_moves hmoves h
  | refused hmoves _ _ hhandle =>
      obtain ⟨hroutes, hitems⟩ := routes_moves hmoves h
      refine ⟨hroutes.congr fun id p => ?_, hitems⟩
      rw [EventRouter.held, EventRouter.held,
        StationEventTransportBridge.lookup_of_routePacket_error hhandle]

/-- A call that succeeds sends one packet, which carries the event; any other call sends none. -/
lemma sendEvent_cases (sink : TransportSink T StationOutboundPacket E)
    (bridge : StationEventTransportBridge) (transport : T) (event : StationEvent) :
    (∃ error, bridge.sendEvent sink transport event = (.error (.encode error), bridge, transport))
    ∨ ∃ bytes, carriedEvent ⟨event.source, event.target, bytes⟩ = some event
      ∧ ((∃ error transport', sink.send transport ⟨event.source, event.target, bytes⟩
          = (.error error, transport')
          ∧ bridge.sendEvent sink transport event
            = (.error (.transport error), bridge, transport'))
        ∨ ∃ bridge' transport', sink.send transport ⟨event.source, event.target, bytes⟩
            = (.ok (), transport')
          ∧ bridge.sendEvent sink transport event = (.ok (), bridge', transport')) := by
  rw [StationEventTransportBridge.sendEvent]
  rcases hencode : Wire.encodeStationEvent (.fromEvent event) [] with ⟨error | _, bytes⟩
  · exact .inl ⟨error, rfl⟩
  · have hdecoded : Wire.decoded bytes = .ok (.stationEvent (.fromEvent event)) :=
      Wire.decoded_of_encode hencode
    refine .inr ⟨bytes, ?_, ?_⟩
    · simp only [carriedEvent, hdecoded]
      rw [if_pos ⟨rfl, rfl⟩, StationEventFrame.intoEvent_fromEvent]
    · rcases hsend : sink.send transport ⟨event.source, event.target, bytes⟩ with ⟨error | _, t⟩
      · exact .inl ⟨error, t, rfl, by simp only [hsend]⟩
      · exact .inr ⟨_, t, rfl, by simp only [hsend]; rfl⟩

end Events

/-! ## Commands -/

/-- All commands in the queues of a station. -/
def CommandQueues.all (queues : CommandQueues CommandEnvelope) : Multiset CommandEnvelope :=
  queues.readyCommands + queues.barrierBuffer

/-- The commands that a node holds for a station. -/
def StationQueues.held (stationQueues : StationQueues) (station : StationId) :
    Multiset CommandEnvelope :=
  (stationQueues.lookup station).elim 0 CommandQueues.all

/-- **What the command queues of a node have to do with their history**: a command that was enqueued
was popped, is held, or was dropped with its queue or its buffer. -/
def StationQueues.Balances (stationQueues : StationQueues)
    (enqueued popped dropped : List (StationId × CommandEnvelope)) : Prop :=
  ∀ station, (ofTag station enqueued : Multiset CommandEnvelope)
    = ofTag station popped + stationQueues.held station + ofTag station dropped

section Commands

variable {T E : Type} {stationQueues stationQueues' : StationQueues}
  {enqueued popped dropped : List (StationId × CommandEnvelope)} {packet : StationInboundPacket}
  {ingress : CommandIngress}

lemma all_push {queue queue' : CommandQueues CommandEnvelope} {command : CommandEnvelope}
    {outcome : CommandPushOutcome} (h : queue.push command ingress = (.ok outcome, queue')) :
    queue'.all = queue.all + {command} := by
  rcases queue.push_cases command ingress with ⟨error, hpush⟩ | ⟨-, -, hpush⟩ | ⟨-, hpush⟩
  · cases hpush.symm.trans h
  · cases hpush.symm.trans h
    rw [CommandQueues.all, CommandQueues.all, CommandQueues.readyCommands_pushBack,
      CommandQueues.barrierBuffer_pushBack]
    abel
  · cases hpush.symm.trans h
    rw [CommandQueues.all, CommandQueues.all, CommandQueues.readyCommands_withBuffer]
    have hbuffer : (queue.withBuffer (queue.barrierBuffer ++ [command])).barrierBuffer
        = queue.barrierBuffer ++ [command] := rfl
    rw [hbuffer, ← Multiset.coe_add, Multiset.coe_singleton]
    abel

lemma held_insert (stationQueues : StationQueues) (station station' : StationId)
    (queue : CommandQueues CommandEnvelope) :
    StationQueues.held (stationQueues.insert station queue) station'
      = if station' = station then queue.all else stationQueues.held station' := by
  rw [StationQueues.held, Finmap.lookup_insert_eq]
  split_ifs <;> rfl

/-- A packet that is enqueued carries the command. -/
lemma push_of_enqueuePacket
    (h : enqueuePacket ingress stationQueues packet
      = ((.ok () : Except (CommandDispatchTransportError E) Unit), stationQueues')) :
    ∃ station command queue queue' outcome, dispatchedCommand packet = some (station, command)
      ∧ stationQueues.lookup station = some queue
      ∧ queue.push command ingress = (.ok outcome, queue')
      ∧ stationQueues' = stationQueues.insert station queue' := by
  rw [enqueuePacket] at h
  split at h
  · cases h
  · rename_i frame hdecoded
    split_ifs at h with hmismatch
    · cases h
    · cases hqueue : stationQueues.lookup frame.stationId with
      | none =>
          simp only [hqueue] at h
          cases h
      | some queue =>
          simp only [hqueue] at h
          rcases hpush : queue.push frame.intoEnvelope ingress with ⟨cause | outcome, queue'⟩
          · rw [hpush] at h
            cases h
          · rw [hpush] at h
            cases h
            refine ⟨_, _, queue, queue', outcome, ?_, hqueue, hpush, rfl⟩
            simp only [dispatchedCommand, hdecoded]
            rw [if_pos (not_not.mp hmismatch)]
  · cases h

/-- The queue of one station changes, and the histories with it. -/
lemma StationQueues.Balances.change (h : stationQueues.Balances enqueued popped dropped)
    {station : StationId} {queue queue' : CommandQueues CommandEnvelope}
    (hqueue : stationQueues.lookup station = some queue)
    (pushed taken lost : List CommandEnvelope)
    (hchange : queue.all + pushed = taken + queue'.all + (lost : Multiset CommandEnvelope)) :
    StationQueues.Balances (stationQueues.insert station queue')
      (enqueued ++ pushed.map (station, ·)) (popped ++ taken.map (station, ·))
      (dropped ++ lost.map (station, ·)) := by
  intro station'
  have hold := h station'
  rw [held_insert, ofTag_append, ofTag_append, ofTag_append, ofTag_map, ofTag_map, ofTag_map]
  by_cases hself : station = station'
  · subst hself
    have hheld : stationQueues.held station = queue.all := by
      rw [StationQueues.held, hqueue, Option.elim_some]
    rw [hheld] at hold
    rw [if_pos rfl, if_pos rfl, if_pos rfl, if_pos rfl, ← Multiset.coe_add, ← Multiset.coe_add,
      ← Multiset.coe_add, hold]
    calc (ofTag station popped : Multiset CommandEnvelope) + queue.all + ofTag station dropped
          + pushed
        = ofTag station popped + (queue.all + pushed) + ofTag station dropped := by abel
      _ = ofTag station popped + (taken + queue'.all + lost) + ofTag station dropped := by
          rw [hchange]
      _ = _ := by abel
  · rw [if_neg hself, if_neg hself, if_neg hself, if_neg (Ne.symm hself), List.append_nil,
      List.append_nil, List.append_nil]
    exact hold

variable {receiver : StationTransportReceiver T E} {station : StationId} {t t' : T}
  {items rest : List StationInboundPacket}

/-- A stretch of packets is enqueued in its order. -/
lemma enqueues_moves
    (hmoves : (CommandDispatchTransportBridge.pump receiver station ingress).Moves t stationQueues
      items t' stationQueues')
    (h : stationQueues.Balances enqueued popped dropped) :
    stationQueues'.Balances (enqueued ++ items.filterMap dispatchedCommand) popped dropped
      ∧ ∀ packet ∈ items, carriedEvent packet = none := by
  generalize hpump : CommandDispatchTransportBridge.pump receiver station ingress = pump at hmoves
  induction hmoves generalizing enqueued with
  | nil => exact ⟨by simpa using h, by simp⟩
  | @cons _ _ _ queues queues₁ queues₂ packet items hrecv hhandle hmoves ih =>
      subst hpump
      obtain ⟨target, command, queue, queue', outcome, hcommand, hqueue, hpush, rfl⟩ :=
        push_of_enqueuePacket hhandle
      have hchange : queue.all + ([command] : List CommandEnvelope)
          = ([] : List CommandEnvelope) + queue'.all
            + (([] : List CommandEnvelope) : Multiset CommandEnvelope) := by
        rw [all_push hpush]
        simp
      have hbalances := h.change hqueue [command] [] [] hchange
      simp only [List.map_cons, List.map_nil, List.append_nil] at hbalances
      obtain ⟨hafter, hitems⟩ := ih hbalances
      rw [List.append_assoc, List.singleton_append] at hafter
      refine ⟨by rwa [List.filterMap_cons_some hcommand], ?_⟩
      intro p hp
      rcases List.mem_cons.mp hp with rfl | hp
      · exact carriedEvent_eq_none hcommand
      · exact hitems p hp

lemma StationQueues.Balances.congr (h : stationQueues.Balances enqueued popped dropped)
    (hsame : ∀ id, stationQueues'.lookup id = stationQueues.lookup id) :
    stationQueues'.Balances enqueued popped dropped := by
  intro station
  rw [StationQueues.held, hsame]
  exact h station

/-- **A call of the command pump** enqueues the commands of the packets that it moves. -/
lemma enqueues_ends {budget : ℕ} {result : Except (CommandDispatchTransportError E) Unit}
    (hends : (CommandDispatchTransportBridge.pump receiver station ingress).Ends budget t
      stationQueues items result t' stationQueues' rest)
    (h : stationQueues.Balances enqueued popped dropped) :
    stationQueues'.Balances (enqueued ++ items.filterMap dispatchedCommand) popped dropped
      ∧ ∀ packet ∈ items, carriedEvent packet = none := by
  cases hends with
  | spent hmoves => exact enqueues_moves hmoves h
  | empty hmoves => exact enqueues_moves hmoves h
  | failed hmoves => exact enqueues_moves hmoves h
  | refused hmoves _ _ hhandle =>
      obtain ⟨hbalances, hitems⟩ := enqueues_moves hmoves h
      exact ⟨hbalances.congr
        (CommandDispatchTransportBridge.lookup_of_enqueuePacket_error hhandle), hitems⟩

/-- A call that succeeds sends one packet, which carries the command; any other call sends none. -/
lemma sendFrame_cases (sink : TransportSink T StationOutboundPacket E)
    (bridge : CommandDispatchTransportBridge) (transport : T) (sourceStation : StationId)
    (frame : CommandDispatchFrame) :
    (∃ error, bridge.sendFrame sink transport sourceStation frame
      = (.error (.encode error), bridge, transport))
    ∨ ∃ bytes, dispatchedCommand ⟨sourceStation, frame.stationId, bytes⟩
        = some (frame.stationId, frame.intoEnvelope)
      ∧ ((∃ error transport', sink.send transport ⟨sourceStation, frame.stationId, bytes⟩
          = (.error error, transport')
          ∧ bridge.sendFrame sink transport sourceStation frame
            = (.error (.transport error), bridge, transport'))
        ∨ ∃ bridge' transport', sink.send transport ⟨sourceStation, frame.stationId, bytes⟩
            = (.ok (), transport')
          ∧ bridge.sendFrame sink transport sourceStation frame
            = (.ok (), bridge', transport')) := by
  rw [CommandDispatchTransportBridge.sendFrame]
  rcases hencode : Wire.encodeCommandDispatch frame [] with ⟨error | _, bytes⟩
  · exact .inl ⟨error, rfl⟩
  · have hdecoded : Wire.decoded bytes = .ok (.commandDispatch frame) :=
      Wire.decoded_of_encode hencode
    refine .inr ⟨bytes, ?_, ?_⟩
    · simp only [dispatchedCommand, hdecoded, if_true]
    · rcases hsend : sink.send transport ⟨sourceStation, frame.stationId, bytes⟩ with
        ⟨error | _, t⟩
      · exact .inl ⟨error, t, rfl, by
          simp only [CommandDispatchTransportBridge.sendEncoded, hsend]⟩
      · exact .inr ⟨_, t, rfl, by
          simp only [CommandDispatchTransportBridge.sendEncoded, hsend]; rfl⟩

end Commands

end SectorSync
