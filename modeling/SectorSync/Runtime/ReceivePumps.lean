import SectorSync.Base.Pump
import SectorSync.Transport.ReliableLink
import SectorSync.Wire.RoundTrip

/-!
# The receiving pumps

`ReplicationReceiveBridge` and `ClientTransportBridge` decode the packets that come from a
transport and collect the frames that are meant for their client.  The statistics count a frame as
it is accepted, and the caller gets the frames of a call with its result; a call that fails returns
the error alone.  `receive_pumps_hand_over_iff` says that all frames counted reach the caller exactly
when nothing fails after an accepted frame.
-/

namespace SectorSync

variable {T Addr E : Type}

/-- Non-blocking client receive abstraction, with state `T`. -/
structure TransportReceiver (T Addr E : Type) where
  tryRecv : T → Except E (Option (InboundPacket Addr)) × T

/-- The source that was expected, when a packet comes from another one. -/
def sourceMismatch (expectedSource clientId : Option ClientId) : Option ClientId :=
  expectedSource.filter fun expected => clientId ≠ some expected

/-- The component deltas of a frame. -/
def ReplicationFrame.componentCount (frame : ReplicationFrame) : ℕ :=
  frame.entities.foldl (fun count entity => count + entity.components.length) 0

/-- A counter after one step for every element of a list. -/
def countEach {α : Type} (counter : ℕ) (items : List α) : ℕ :=
  items.foldl (fun counter _ => usizeSaturatingAdd counter 1) counter

/-! ## Replication frames -/

/-- Replication receive bridge configuration. -/
structure ReplicationReceiveConfig where
  /-- Local client id expected inside replication frames. -/
  clientId : ClientId
  /-- Expected remote sender identity when the transport can identify it. -/
  expectedSource : Option ClientId
  deriving DecidableEq

/-- Replication receive bridge statistics. -/
structure ReplicationReceiveStats where
  packetsReceived : ℕ
  bytesReceived : ℕ
  /-- Replication frames decoded and accepted. -/
  framesReceived : ℕ
  framesRejectedDecode : ℕ
  framesRejectedUnexpected : ℕ
  framesRejectedSource : ℕ
  framesRejectedTarget : ℕ
  entitiesReceived : ℕ
  componentsReceived : ℕ
  deriving DecidableEq

/-- Result of pumping replication packets. -/
structure ReplicationReceivePump where
  packetsReceived : ℕ
  bytesReceived : ℕ
  /-- Decoded replication frames. -/
  frames : List ReplicationFrame
  deriving DecidableEq

/-- Error produced while receiving replication frames. -/
inductive ReplicationReceiveError (E : Type) where
  | transport (error : E)
  | decode (error : BinaryDecodeError)
  /-- Packet decoded as a non-replication frame. -/
  | unexpectedFrame
  | sourceMismatch (expected : ClientId) (actual : Option ClientId)
  /-- Replication frame targeted another client. -/
  | targetMismatch (expected actual : ClientId)
  deriving DecidableEq

/-- Bridge between client packet transport and decoded replication frames. -/
structure ReplicationReceiveBridge where
  config : ReplicationReceiveConfig
  stats : ReplicationReceiveStats
  deriving DecidableEq

namespace ReplicationReceiveBridge

/-- Creates a receive bridge. -/
def new (config : ReplicationReceiveConfig) : ReplicationReceiveBridge :=
  ⟨config, 0, 0, 0, 0, 0, 0, 0, 0, 0⟩

/-- What one packet does to the bridge and to the frames collected so far. -/
def receivePacket (state : ReplicationReceiveBridge × ReplicationReceivePump)
    (packet : InboundPacket Addr) :
    Except (ReplicationReceiveError E) Unit × ReplicationReceiveBridge × ReplicationReceivePump :=
  let bridge := state.1
  let stats := { bridge.stats with
    packetsReceived := usizeSaturatingAdd bridge.stats.packetsReceived 1
    bytesReceived := usizeSaturatingAdd bridge.stats.bytesReceived packet.bytes.length }
  let pump := { state.2 with
    packetsReceived := usizeSaturatingAdd state.2.packetsReceived 1
    bytesReceived := usizeSaturatingAdd state.2.bytesReceived packet.bytes.length }
  match SectorSync.sourceMismatch bridge.config.expectedSource packet.clientId with
  | some expected =>
      (.error (.sourceMismatch expected packet.clientId),
        ⟨bridge.config, { stats with
          framesRejectedSource := usizeSaturatingAdd stats.framesRejectedSource 1 }⟩, pump)
  | none =>
      match Wire.decoded packet.bytes with
      | .error error =>
          (.error (.decode error), ⟨bridge.config, { stats with
            framesRejectedDecode := usizeSaturatingAdd stats.framesRejectedDecode 1 }⟩, pump)
      | .ok (.replication frame) =>
          if frame.clientId ≠ bridge.config.clientId then
            (.error (.targetMismatch bridge.config.clientId frame.clientId),
              ⟨bridge.config, { stats with
                framesRejectedTarget := usizeSaturatingAdd stats.framesRejectedTarget 1 }⟩, pump)
          else
            (.ok (), ⟨bridge.config, { stats with
              framesReceived := usizeSaturatingAdd stats.framesReceived 1
              entitiesReceived := usizeSaturatingAdd stats.entitiesReceived frame.entities.length
              componentsReceived :=
                usizeSaturatingAdd stats.componentsReceived frame.componentCount }⟩,
              { pump with frames := pump.frames ++ [frame] })
      | .ok _ =>
          (.error .unexpectedFrame, ⟨bridge.config, { stats with
            framesRejectedUnexpected := usizeSaturatingAdd stats.framesRejectedUnexpected 1 }⟩,
            pump)

/-- The loop of `pump_owned`. -/
def pump (receiver : TransportReceiver T Addr E) :
    Pump T (ReplicationReceiveBridge × ReplicationReceivePump) (InboundPacket Addr) Unit
      (ReplicationReceiveError E) where
  recv transport := ((receiver.tryRecv transport).1.mapError .transport,
    (receiver.tryRecv transport).2)
  handle := receivePacket
  received _ report := report
  delivered report := report

/-- The loop of a call, with what it collects. -/
def pumpRun (receiver : TransportReceiver T Addr E) (bridge : ReplicationReceiveBridge)
    (transport : T) (maxPackets : ℕ) :
    Except (ReplicationReceiveError E) Unit
      × Pump.State T (ReplicationReceiveBridge × ReplicationReceivePump) (InboundPacket Addr) Unit :=
  (pump receiver).run maxPackets (Pump.start transport (bridge, ⟨0, 0, []⟩) ())

/-- Receives and decodes up to `maxPackets` replication frames. -/
def pumpOwned (receiver : TransportReceiver T Addr E) (bridge : ReplicationReceiveBridge)
    (transport : T) (maxPackets : ℕ) :
    Except (ReplicationReceiveError E) ReplicationReceivePump × ReplicationReceiveBridge × T :=
  match pumpRun receiver bridge transport maxPackets with
  -- an early return drops the frames collected, and keeps what they were counted as
  | (.error error, state) => (.error error, state.sink.1, state.source)
  | (.ok (), state) => (.ok state.sink.2, state.sink.1, state.source)

/-- The bridge accepts the packet: it comes from the expected source and carries a well-formed
replication frame for this client. -/
def Accepts (config : ReplicationReceiveConfig) (packet : InboundPacket Addr) : Prop :=
  SectorSync.sourceMismatch config.expectedSource packet.clientId = none
    ∧ ∃ frame, Wire.decoded packet.bytes = .ok (.replication frame)
      ∧ frame.clientId = config.clientId

/-- The frames collected are those that the statistics count, and as many as the packets taken. -/
structure Collected (before : ReplicationReceiveStats)
    (state : ReplicationReceiveBridge × ReplicationReceivePump) (packets : ℕ) : Prop where
  frames : countEach before.framesReceived state.2.frames = state.1.stats.framesReceived
  length : state.2.frames.length = packets

/-- A packet is taken when it is accepted, and its frame is then collected and counted. -/
lemma receivePacket_cases (state : ReplicationReceiveBridge × ReplicationReceivePump)
    (packet : InboundPacket Addr) :
    (∃ next, Accepts state.1.config packet
        ∧ receivePacket state packet = ((.ok () : Except (ReplicationReceiveError E) Unit), next)
        ∧ next.1.config = state.1.config
        ∧ ∀ before n, Collected before state n → Collected before next (n + 1))
      ∨ ∃ error next, ¬ Accepts state.1.config packet
        ∧ receivePacket state packet
          = ((.error error : Except (ReplicationReceiveError E) Unit), next)
        ∧ next.1.config = state.1.config
        ∧ ∀ before n, Collected before state n → Collected before next n := by
  rw [Accepts, receivePacket]
  cases SectorSync.sourceMismatch state.1.config.expectedSource packet.clientId with
  | some expected => exact .inr ⟨_, _, by simp, rfl, rfl, fun _ _ h => ⟨h.frames, h.length⟩⟩
  | none =>
      cases Wire.decoded packet.bytes with
      | error error => exact .inr ⟨_, _, by simp, rfl, rfl, fun _ _ h => ⟨h.frames, h.length⟩⟩
      | ok frame =>
          cases frame with
          | replication frame =>
              dsimp only
              by_cases htarget : frame.clientId = state.1.config.clientId
              · rw [if_neg (not_not.mpr htarget)]
                refine .inl ⟨_, ⟨rfl, frame, rfl, htarget⟩, rfl, rfl, fun before n h => ?_⟩
                refine ⟨?_, by rw [List.length_append, h.length]; rfl⟩
                show countEach _ (state.2.frames ++ [frame]) = _
                rw [countEach, List.foldl_concat, ← countEach, h.frames]
              · rw [if_pos htarget]
                refine .inr ⟨_, _, ?_, rfl, rfl, fun _ _ h => ⟨h.frames, h.length⟩⟩
                rintro ⟨-, found, hfound, htarget'⟩
                obtain rfl : frame = found := by simpa using hfound
                exact htarget htarget'
          | _ => exact .inr ⟨_, _, by simp, rfl, rfl, fun _ _ h => ⟨h.frames, h.length⟩⟩

/-- The frames that a call accepts and counts. -/
def accepted (receiver : TransportReceiver T Addr E) (bridge : ReplicationReceiveBridge)
    (transport : T) (maxPackets : ℕ) : List ReplicationFrame :=
  (pumpRun receiver bridge transport maxPackets).2.sink.2.frames

/-- The frames that a result hands to the caller. -/
def handedOver (result : Except (ReplicationReceiveError E) ReplicationReceivePump) :
    List ReplicationFrame :=
  result.toOption.elim [] (·.frames)

section Calls

variable (receiver : TransportReceiver T Addr E) (bridge : ReplicationReceiveBridge) (transport : T)
  (maxPackets : ℕ)

lemma judges (config : ReplicationReceiveConfig) :
    (pump receiver).Judges (Accepts config) (fun state => state.1.config = config) where
  keeps state packet hconfig := by
    rcases receivePacket_cases (E := E) state packet with
      ⟨_, -, heq, hkept, -⟩ | ⟨_, _, -, heq, hkept, -⟩
    · exact (congrArg (·.2.1.config) heq).trans (hkept.trans hconfig)
    · exact (congrArg (·.2.1.config) heq).trans (hkept.trans hconfig)
  takes_iff state packet hconfig := by
    rw [← hconfig, show (pump receiver).handle = receivePacket from rfl]
    rcases receivePacket_cases (E := E) state packet with
      ⟨_, haccepts, heq, -⟩ | ⟨_, _, hrefuses, heq, -⟩
    · rw [heq]
      exact iff_of_true rfl haccepts
    · rw [heq]
      exact iff_of_false (by simp) hrefuses

/-- What a call has collected is counted, and is what it has taken. -/
lemma collected_run :
    Collected bridge.stats (pumpRun receiver bridge transport maxPackets).2.sink
      (pumpRun receiver bridge transport maxPackets).2.moved.length := by
  refine (pump receiver).run_invariant
    (J := fun state moved => Collected bridge.stats state moved.length) ?_ ?_ ⟨rfl, rfl⟩ _ _ _
  · intro state moved packet next hstate hhandle
    rcases receivePacket_cases (E := E) state packet with
      ⟨_, -, heq, -, hgrows⟩ | ⟨_, _, -, heq, -⟩
    · obtain rfl := (Prod.mk.inj (heq.symm.trans hhandle)).2
      rw [List.length_append]
      exact hgrows _ _ hstate
    · cases (Prod.mk.inj (heq.symm.trans hhandle)).1
  · intro state moved packet error next hstate hhandle
    rcases receivePacket_cases (E := E) state packet with
      ⟨_, -, heq, -⟩ | ⟨_, _, -, heq, -, hsame⟩
    · cases (Prod.mk.inj (heq.symm.trans hhandle)).1
    · obtain rfl := (Prod.mk.inj (heq.symm.trans hhandle)).2
      exact hsame _ _ hstate

lemma bridge_pumpOwned :
    (pumpOwned receiver bridge transport maxPackets).2.1
      = (pumpRun receiver bridge transport maxPackets).2.sink.1 := by
  rw [pumpOwned]
  rcases pumpRun receiver bridge transport maxPackets with ⟨_ | _, state⟩
  · rfl
  · rfl

/-- The frames of a call are handed over if it does not fail, or has none. -/
lemma handedOver_iff :
    handedOver (pumpOwned receiver bridge transport maxPackets).1
        = accepted receiver bridge transport maxPackets
      ↔ (pumpRun receiver bridge transport maxPackets).1 = .ok ()
        ∨ (pumpRun receiver bridge transport maxPackets).2.moved = [] := by
  rw [← List.length_eq_zero_iff, ← (collected_run receiver bridge transport maxPackets).length,
    List.length_eq_zero_iff, accepted, pumpOwned]
  rcases pumpRun receiver bridge transport maxPackets with ⟨error | _, state⟩
  · simp [handedOver, Except.toOption, eq_comm]
  · simp [handedOver, Except.toOption]

/-- **When a call hands over what it counts.** -/
lemma handsOver_iff :
    handedOver (pumpOwned receiver bridge transport maxPackets).1
        = accepted receiver bridge transport maxPackets
      ↔ Pump.FailsOnlyFirst receiver.tryRecv
        (Accepts bridge.config) maxPackets transport := by
  have hcomplete := Pump.complete_iff (judges (E := E) receiver bridge.config)
    (s := (bridge, ⟨0, 0, []⟩)) rfl maxPackets transport ()
  exact (handedOver_iff receiver bridge transport maxPackets).trans
    (hcomplete.trans Pump.failsOnlyFirst_mapError)

end Calls

end ReplicationReceiveBridge

/-! ## Client-bound frames -/

/-- Low-level client transport bridge configuration. -/
structure ClientTransportConfig where
  /-- Local client id expected inside client-bound frames. -/
  clientId : ClientId
  /-- Remote server/gateway id used as the transport packet target for commands. -/
  serverId : ClientId
  /-- Expected remote sender identity when the transport can identify it. -/
  expectedSource : Option ClientId
  deriving DecidableEq

/-- Low-level client transport bridge statistics. -/
structure ClientTransportStats where
  commandsSent : ℕ
  commandBytesSent : ℕ
  packetsReceived : ℕ
  bytesReceived : ℕ
  /-- Command ACK frames decoded and accepted. -/
  commandAcksReceived : ℕ
  /-- Replication frames decoded and accepted. -/
  replicationFramesReceived : ℕ
  /-- Barrier frames decoded and accepted. -/
  barrierFramesReceived : ℕ
  framesRejectedDecode : ℕ
  framesRejectedUnexpected : ℕ
  framesRejectedSource : ℕ
  framesRejectedTarget : ℕ
  entitiesReceived : ℕ
  componentsReceived : ℕ
  deriving DecidableEq

/-- Client-bound frame categories. -/
inductive ClientInboundFrameKind where
  | commandAck | replication | barrier
  deriving DecidableEq

/-- Result of pumping client-bound frames. -/
structure ClientTransportPump where
  packetsReceived : ℕ
  bytesReceived : ℕ
  commandAcks : List CommandAckFrame
  replicationFrames : List ReplicationFrame
  barriers : List BarrierFrame
  deriving DecidableEq

/-- Nothing received. -/
def ClientTransportPump.default : ClientTransportPump := ⟨0, 0, [], [], []⟩

/-- Error produced by the low-level client transport bridge. -/
inductive ClientTransportBridgeError (E : Type) where
  /-- Outbound command used a different client id than the bridge config. -/
  | commandClientMismatch (expected actual : ClientId)
  | encode (error : BinaryEncodeError)
  | transport (error : E)
  | decode (error : BinaryDecodeError)
  /-- Packet decoded as a frame that is not client-bound. -/
  | unexpectedFrame
  | sourceMismatch (expected : ClientId) (actual : Option ClientId)
  /-- Client-bound frame targeted another client. -/
  | targetMismatch (kind : ClientInboundFrameKind) (expected actual : ClientId)
  deriving DecidableEq

/-- Low-level bridge for client command send and client-bound frame receive. -/
structure ClientTransportBridge where
  config : ClientTransportConfig
  stats : ClientTransportStats
  deriving DecidableEq

namespace ClientTransportBridge

/-- Creates a client transport bridge. -/
def new (config : ClientTransportConfig) : ClientTransportBridge :=
  ⟨config, 0, 0, 0, 0, 0, 0, 0, 0, 0, 0, 0, 0, 0⟩

/-- Checks the target of a client-bound frame. -/
def validateClientTarget (bridge : ClientTransportBridge) (kind : ClientInboundFrameKind)
    (actual : ClientId) : Except (ClientTransportBridgeError E) Unit × ClientTransportBridge :=
  if actual = bridge.config.clientId then (.ok (), bridge)
  else
    (.error (.targetMismatch kind bridge.config.clientId actual), { bridge with
      stats := { bridge.stats with
        framesRejectedTarget := usizeSaturatingAdd bridge.stats.framesRejectedTarget 1 } })

/-- What a well-formed frame does to the bridge and to the frames collected so far. -/
def receiveFrame (bridge : ClientTransportBridge) (pump : ClientTransportPump) :
    RuntimeFrame → Except (ClientTransportBridgeError E) Unit × ClientTransportBridge
      × ClientTransportPump
  | .commandAck frame =>
      match bridge.validateClientTarget .commandAck frame.clientId with
      | (.error error, bridge) => (.error error, bridge, pump)
      | (.ok (), bridge) =>
          (.ok (), { bridge with stats := { bridge.stats with
            commandAcksReceived := usizeSaturatingAdd bridge.stats.commandAcksReceived 1 } },
            { pump with commandAcks := pump.commandAcks ++ [frame] })
  | .replication frame =>
      match bridge.validateClientTarget .replication frame.clientId with
      | (.error error, bridge) => (.error error, bridge, pump)
      | (.ok (), bridge) =>
          (.ok (), { bridge with stats := { bridge.stats with
            replicationFramesReceived :=
              usizeSaturatingAdd bridge.stats.replicationFramesReceived 1
            entitiesReceived :=
              usizeSaturatingAdd bridge.stats.entitiesReceived frame.entities.length
            componentsReceived :=
              usizeSaturatingAdd bridge.stats.componentsReceived frame.componentCount } },
            { pump with replicationFrames := pump.replicationFrames ++ [frame] })
  | .barrier frame =>
      match bridge.validateClientTarget .barrier frame.clientId with
      | (.error error, bridge) => (.error error, bridge, pump)
      | (.ok (), bridge) =>
          (.ok (), { bridge with stats := { bridge.stats with
            barrierFramesReceived := usizeSaturatingAdd bridge.stats.barrierFramesReceived 1 } },
            { pump with barriers := pump.barriers ++ [frame] })
  | .command _ | .commandDispatch _ | .stationEvent _ =>
      (.error .unexpectedFrame, { bridge with stats := { bridge.stats with
        framesRejectedUnexpected :=
          usizeSaturatingAdd bridge.stats.framesRejectedUnexpected 1 } }, pump)

/-- What one packet does to the bridge and to the frames collected so far. -/
def receivePacket (state : ClientTransportBridge × ClientTransportPump)
    (packet : InboundPacket Addr) :
    Except (ClientTransportBridgeError E) Unit × ClientTransportBridge × ClientTransportPump :=
  let bridge := state.1
  let stats := { bridge.stats with
    packetsReceived := usizeSaturatingAdd bridge.stats.packetsReceived 1
    bytesReceived := usizeSaturatingAdd bridge.stats.bytesReceived packet.bytes.length }
  let pump := { state.2 with
    packetsReceived := usizeSaturatingAdd state.2.packetsReceived 1
    bytesReceived := usizeSaturatingAdd state.2.bytesReceived packet.bytes.length }
  match SectorSync.sourceMismatch bridge.config.expectedSource packet.clientId with
  | some expected =>
      (.error (.sourceMismatch expected packet.clientId),
        ⟨bridge.config, { stats with
          framesRejectedSource := usizeSaturatingAdd stats.framesRejectedSource 1 }⟩, pump)
  | none =>
      match Wire.decoded packet.bytes with
      | .error error =>
          (.error (.decode error), ⟨bridge.config, { stats with
            framesRejectedDecode := usizeSaturatingAdd stats.framesRejectedDecode 1 }⟩, pump)
      | .ok frame => receiveFrame ⟨bridge.config, stats⟩ pump frame

/-- The loop of `pump_owned`. -/
def pump (receiver : TransportReceiver T Addr E) :
    Pump T (ClientTransportBridge × ClientTransportPump) (InboundPacket Addr) Unit
      (ClientTransportBridgeError E) where
  recv transport := ((receiver.tryRecv transport).1.mapError .transport,
    (receiver.tryRecv transport).2)
  handle := receivePacket
  received _ report := report
  delivered report := report

/-- The loop of a call, with what it collects. -/
def pumpRun (receiver : TransportReceiver T Addr E) (bridge : ClientTransportBridge)
    (transport : T) (maxPackets : ℕ) :
    Except (ClientTransportBridgeError E) Unit
      × Pump.State T (ClientTransportBridge × ClientTransportPump) (InboundPacket Addr) Unit :=
  (pump receiver).run maxPackets (Pump.start transport (bridge, .default) ())

/-- Receives and decodes up to `maxPackets` client-bound frames. -/
def pumpOwned (receiver : TransportReceiver T Addr E) (bridge : ClientTransportBridge)
    (transport : T) (maxPackets : ℕ) :
    Except (ClientTransportBridgeError E) ClientTransportPump × ClientTransportBridge × T :=
  match pumpRun receiver bridge transport maxPackets with
  | (.error error, state) => (.error error, state.sink.1, state.source)
  | (.ok (), state) => (.ok state.sink.2, state.sink.1, state.source)

/-- The client that a client-bound frame is for. -/
def clientTarget : RuntimeFrame → Option ClientId
  | .commandAck frame => some frame.clientId
  | .replication frame => some frame.clientId
  | .barrier frame => some frame.clientId
  | .command _ | .commandDispatch _ | .stationEvent _ => none

/-- The bridge accepts the packet: it comes from the expected source and carries a well-formed
client-bound frame for this client. -/
def Accepts (config : ClientTransportConfig) (packet : InboundPacket Addr) : Prop :=
  SectorSync.sourceMismatch config.expectedSource packet.clientId = none
    ∧ ∃ frame, Wire.decoded packet.bytes = .ok frame ∧ clientTarget frame = some config.clientId

/-- The frames collected are those that the statistics count, and as many as the packets taken. -/
structure Collected (before : ClientTransportStats)
    (state : ClientTransportBridge × ClientTransportPump) (packets : ℕ) : Prop where
  commandAcks :
    countEach before.commandAcksReceived state.2.commandAcks = state.1.stats.commandAcksReceived
  replicationFrames : countEach before.replicationFramesReceived state.2.replicationFrames
    = state.1.stats.replicationFramesReceived
  barriers :
    countEach before.barrierFramesReceived state.2.barriers = state.1.stats.barrierFramesReceived
  length : state.2.commandAcks.length + state.2.replicationFrames.length + state.2.barriers.length
    = packets

lemma countEach_concat {α : Type} (counter : ℕ) (items : List α) (item : α) :
    countEach counter (items ++ [item]) = usizeSaturatingAdd (countEach counter items) 1 := by
  rw [countEach, List.foldl_concat, ← countEach]

/-- What is acceptable is taken, collected and counted, and anything else is refused. -/
inductive Receives (acceptable : Prop) (state : ClientTransportBridge × ClientTransportPump) :
    Except (ClientTransportBridgeError E) Unit × ClientTransportBridge × ClientTransportPump →
      Prop where
  | taken {next : ClientTransportBridge × ClientTransportPump} (haccepts : acceptable)
      (hconfig : next.1.config = state.1.config)
      (hgrows : ∀ before n, Collected before state n → Collected before next (n + 1)) :
      Receives acceptable state (.ok (), next)
  | refused {error : ClientTransportBridgeError E}
      {next : ClientTransportBridge × ClientTransportPump} (hrefuses : ¬ acceptable)
      (hconfig : next.1.config = state.1.config)
      (hsame : ∀ before n, Collected before state n → Collected before next n) :
      Receives acceptable state (.error error, next)

/-- The check of the client passes, or the frame is refused. -/
lemma validateClientTarget_cases (bridge : ClientTransportBridge) (pump : ClientTransportPump)
    (kind : ClientInboundFrameKind) (actual : ClientId) :
    (actual = bridge.config.clientId
        ∧ bridge.validateClientTarget kind actual
          = ((.ok () : Except (ClientTransportBridgeError E) Unit), bridge))
      ∨ ∃ (error : ClientTransportBridgeError E) (checked : ClientTransportBridge),
        bridge.validateClientTarget kind actual = (.error error, checked)
          ∧ Receives (some actual = some bridge.config.clientId) (bridge, pump)
            (.error error, checked, pump) := by
  rw [validateClientTarget]
  split_ifs with htarget
  · exact .inl ⟨htarget, rfl⟩
  · refine .inr ⟨_, _, rfl, .refused (by simpa using htarget) rfl fun _ _ h => ?_⟩
    exact ⟨h.commandAcks, h.replicationFrames, h.barriers, h.length⟩

/-- A frame is taken when it is for this client. -/
lemma receives_receiveFrame (bridge : ClientTransportBridge) (pump : ClientTransportPump)
    (frame : RuntimeFrame) :
    Receives (clientTarget frame = some bridge.config.clientId) (bridge, pump)
      (receiveFrame bridge pump frame :
        Except (ClientTransportBridgeError E) Unit × ClientTransportBridge
          × ClientTransportPump) := by
  cases frame with
  | commandAck frame =>
      rw [receiveFrame]
      rcases bridge.validateClientTarget_cases (E := E) pump .commandAck frame.clientId with
        ⟨htarget, heq⟩ | ⟨error, checked, heq, hrefused⟩
      · rw [heq]
        refine .taken (congrArg some htarget) rfl fun before n h => ?_
        obtain ⟨hacks, hframes, hbarriers, hlength⟩ := h
        refine ⟨?_, hframes, hbarriers, ?_⟩
        · exact (countEach_concat _ _ _).trans (congrArg (usizeSaturatingAdd · 1) hacks)
        · simp only [List.length_append, List.length_singleton] at hlength ⊢
          omega
      · rw [heq]
        exact hrefused
  | replication frame =>
      rw [receiveFrame]
      rcases bridge.validateClientTarget_cases (E := E) pump .replication frame.clientId with
        ⟨htarget, heq⟩ | ⟨error, checked, heq, hrefused⟩
      · rw [heq]
        refine .taken (congrArg some htarget) rfl fun before n h => ?_
        obtain ⟨hacks, hframes, hbarriers, hlength⟩ := h
        refine ⟨hacks, ?_, hbarriers, ?_⟩
        · exact (countEach_concat _ _ _).trans (congrArg (usizeSaturatingAdd · 1) hframes)
        · simp only [List.length_append, List.length_singleton] at hlength ⊢
          omega
      · rw [heq]
        exact hrefused
  | barrier frame =>
      rw [receiveFrame]
      rcases bridge.validateClientTarget_cases (E := E) pump .barrier frame.clientId with
        ⟨htarget, heq⟩ | ⟨error, checked, heq, hrefused⟩
      · rw [heq]
        refine .taken (congrArg some htarget) rfl fun before n h => ?_
        obtain ⟨hacks, hframes, hbarriers, hlength⟩ := h
        refine ⟨hacks, hframes, ?_, ?_⟩
        · exact (countEach_concat _ _ _).trans (congrArg (usizeSaturatingAdd · 1) hbarriers)
        · simp only [List.length_append, List.length_singleton] at hlength ⊢
          omega
      · rw [heq]
        exact hrefused
  | command | commandDispatch | stationEvent =>
      exact .refused (by simp [clientTarget]) rfl fun _ _ h =>
        ⟨h.commandAcks, h.replicationFrames, h.barriers, h.length⟩

/-- A packet is taken when it is accepted. -/
lemma receives_receivePacket (state : ClientTransportBridge × ClientTransportPump)
    (packet : InboundPacket Addr) :
    Receives (Accepts state.1.config packet) state
      (receivePacket state packet :
        Except (ClientTransportBridgeError E) Unit × ClientTransportBridge
          × ClientTransportPump) := by
  rw [Accepts, receivePacket]
  cases SectorSync.sourceMismatch state.1.config.expectedSource packet.clientId with
  | some expected =>
      exact .refused (by simp) rfl fun _ _ h =>
        ⟨h.commandAcks, h.replicationFrames, h.barriers, h.length⟩
  | none =>
      cases Wire.decoded packet.bytes with
      | error error =>
          exact .refused (by simp) rfl fun _ _ h =>
            ⟨h.commandAcks, h.replicationFrames, h.barriers, h.length⟩
      | ok frame =>
          dsimp only
          -- the packet itself is counted before its frame is looked at
          generalize hstats : ({ state.1.stats with
            packetsReceived := usizeSaturatingAdd state.1.stats.packetsReceived 1
            bytesReceived := usizeSaturatingAdd state.1.stats.bytesReceived
              packet.bytes.length } : ClientTransportStats) = stats
          generalize hpump : ({ state.2 with
            packetsReceived := usizeSaturatingAdd state.2.packetsReceived 1
            bytesReceived := usizeSaturatingAdd state.2.bytesReceived
              packet.bytes.length } : ClientTransportPump) = pump
          have hcollected : ∀ before n, Collected before state n →
              Collected before (⟨state.1.config, stats⟩, pump) n := by
            rintro before n h
            subst hstats
            subst hpump
            exact ⟨h.commandAcks, h.replicationFrames, h.barriers, h.length⟩
          have hframe := receives_receiveFrame (E := E) ⟨state.1.config, stats⟩ pump frame
          generalize receiveFrame (E := E) ⟨state.1.config, stats⟩ pump frame = result at hframe
          cases hframe with
          | taken htarget hconfig hgrows =>
              refine .taken ⟨rfl, frame, rfl, htarget⟩ hconfig fun before n h => ?_
              exact hgrows before n (hcollected before n h)
          | refused htarget hconfig hsame =>
              refine .refused ?_ hconfig fun before n h => hsame before n (hcollected before n h)
              rintro ⟨-, found, hfound, htarget'⟩
              obtain rfl : frame = found := by simpa using hfound
              exact htarget htarget'

/-- The frames that a call accepts and counts. -/
def accepted (receiver : TransportReceiver T Addr E) (bridge : ClientTransportBridge)
    (transport : T) (maxPackets : ℕ) : ClientTransportPump :=
  (pumpRun receiver bridge transport maxPackets).2.sink.2

/-- What a result hands to the caller. -/
def handedOver (result : Except (ClientTransportBridgeError E) ClientTransportPump) :
    ClientTransportPump :=
  result.toOption.getD .default

/-- The same frames of every kind. -/
structure SameFrames (a b : ClientTransportPump) : Prop where
  commandAcks : a.commandAcks = b.commandAcks
  replicationFrames : a.replicationFrames = b.replicationFrames
  barriers : a.barriers = b.barriers

section Calls

variable (receiver : TransportReceiver T Addr E) (bridge : ClientTransportBridge) (transport : T)
  (maxPackets : ℕ)

lemma judges (config : ClientTransportConfig) :
    (pump receiver).Judges (Accepts config) (fun state => state.1.config = config) where
  keeps state packet hconfig := by
    have hpacket := receives_receivePacket (E := E) state packet
    rw [show (pump receiver).handle = receivePacket from rfl]
    generalize receivePacket (E := E) state packet = result at *
    cases hpacket with
    | taken _ hkept => exact hkept.trans hconfig
    | refused _ hkept => exact hkept.trans hconfig
  takes_iff state packet hconfig := by
    have hpacket := receives_receivePacket (E := E) state packet
    rw [← hconfig, show (pump receiver).handle = receivePacket from rfl]
    generalize receivePacket (E := E) state packet = result at *
    cases hpacket with
    | taken haccepts => exact iff_of_true rfl haccepts
    | refused hrefuses => exact iff_of_false (by simp) hrefuses

/-- What a call has collected is counted, and is what it has taken. -/
lemma collected_run :
    Collected bridge.stats (pumpRun receiver bridge transport maxPackets).2.sink
      (pumpRun receiver bridge transport maxPackets).2.moved.length := by
  refine (pump receiver).run_invariant
    (J := fun state moved => Collected bridge.stats state moved.length) ?_ ?_ ⟨rfl, rfl, rfl, rfl⟩
    _ _ _
  · intro state moved packet next hstate hhandle
    have hpacket := receives_receivePacket (E := E) state packet
    rw [show receivePacket (E := E) state packet = (.ok (), next) from hhandle] at hpacket
    cases hpacket with
    | taken _ _ hgrows =>
        rw [List.length_append]
        exact hgrows _ _ hstate
  · intro state moved packet error next hstate hhandle
    have hpacket := receives_receivePacket (E := E) state packet
    rw [show receivePacket (E := E) state packet = (.error error, next) from hhandle] at hpacket
    cases hpacket with
    | refused _ _ hsame => exact hsame _ _ hstate

lemma bridge_pumpOwned :
    (pumpOwned receiver bridge transport maxPackets).2.1
      = (pumpRun receiver bridge transport maxPackets).2.sink.1 := by
  rw [pumpOwned]
  rcases pumpRun receiver bridge transport maxPackets with ⟨_ | _, state⟩
  · rfl
  · rfl

/-- The frames of a call are handed over if it does not fail, or has none. -/
lemma handedOver_iff :
    SameFrames (handedOver (pumpOwned receiver bridge transport maxPackets).1)
        (accepted receiver bridge transport maxPackets)
      ↔ (pumpRun receiver bridge transport maxPackets).1 = .ok ()
        ∨ (pumpRun receiver bridge transport maxPackets).2.moved = [] := by
  rw [← List.length_eq_zero_iff, ← (collected_run receiver bridge transport maxPackets).length,
    accepted, pumpOwned]
  rcases pumpRun receiver bridge transport maxPackets with ⟨error | _, state⟩
  · constructor
    · rintro ⟨hacks, hframes, hbarriers⟩
      refine .inr ?_
      rw [← hacks, ← hframes, ← hbarriers]
      rfl
    · rintro (herror | hlength)
      · cases herror
      · dsimp only at hlength
        have hacks : state.sink.2.commandAcks = [] := List.length_eq_zero_iff.mp (by omega)
        have hframes : state.sink.2.replicationFrames = [] :=
          List.length_eq_zero_iff.mp (by omega)
        have hbarriers : state.sink.2.barriers = [] := List.length_eq_zero_iff.mp (by omega)
        exact ⟨hacks.symm, hframes.symm, hbarriers.symm⟩
  · exact iff_of_true ⟨rfl, rfl, rfl⟩ (.inl rfl)

/-- **When a call hands over what it counts.** -/
lemma handsOver_iff :
    SameFrames (handedOver (pumpOwned receiver bridge transport maxPackets).1)
        (accepted receiver bridge transport maxPackets)
      ↔ Pump.FailsOnlyFirst receiver.tryRecv (Accepts bridge.config) maxPackets transport := by
  have hcomplete := Pump.complete_iff (judges (E := E) receiver bridge.config)
    (s := (bridge, .default)) rfl maxPackets transport ()
  exact (handedOver_iff receiver bridge transport maxPackets).trans
    (hcomplete.trans Pump.failsOnlyFirst_mapError)

end Calls

end ClientTransportBridge

/-! ## Both bridges -/

/-- **What the receiving pumps hand over.**  The statistics of a call count the frames that it
accepts; these reach the caller exactly when nothing fails after an accepted packet. -/
theorem receive_pumps_hand_over_iff (receiver : TransportReceiver T Addr E) (transport : T)
    (maxPackets : ℕ) :
    (∀ bridge : ReplicationReceiveBridge,
      countEach bridge.stats.framesReceived
          (ReplicationReceiveBridge.accepted receiver bridge transport maxPackets)
        = (bridge.pumpOwned receiver transport maxPackets).2.1.stats.framesReceived
      ∧ (ReplicationReceiveBridge.handedOver (bridge.pumpOwned receiver transport maxPackets).1
          = ReplicationReceiveBridge.accepted receiver bridge transport maxPackets
        ↔ Pump.FailsOnlyFirst receiver.tryRecv (ReplicationReceiveBridge.Accepts bridge.config)
          maxPackets transport))
    ∧ ∀ bridge : ClientTransportBridge,
      (countEach bridge.stats.commandAcksReceived
            (ClientTransportBridge.accepted receiver bridge transport maxPackets).commandAcks
          = (bridge.pumpOwned receiver transport maxPackets).2.1.stats.commandAcksReceived
        ∧ countEach bridge.stats.replicationFramesReceived
            (ClientTransportBridge.accepted receiver bridge transport maxPackets).replicationFrames
          = (bridge.pumpOwned receiver transport maxPackets).2.1.stats.replicationFramesReceived
        ∧ countEach bridge.stats.barrierFramesReceived
            (ClientTransportBridge.accepted receiver bridge transport maxPackets).barriers
          = (bridge.pumpOwned receiver transport maxPackets).2.1.stats.barrierFramesReceived)
      ∧ (ClientTransportBridge.SameFrames
          (ClientTransportBridge.handedOver (bridge.pumpOwned receiver transport maxPackets).1)
          (ClientTransportBridge.accepted receiver bridge transport maxPackets)
        ↔ Pump.FailsOnlyFirst receiver.tryRecv (ClientTransportBridge.Accepts bridge.config)
          maxPackets transport) := by
  constructor
  · intro bridge
    refine ⟨?_, ReplicationReceiveBridge.handsOver_iff receiver bridge transport maxPackets⟩
    rw [ReplicationReceiveBridge.bridge_pumpOwned]
    exact (ReplicationReceiveBridge.collected_run receiver bridge transport maxPackets).frames
  · intro bridge
    refine ⟨?_, ClientTransportBridge.handsOver_iff receiver bridge transport maxPackets⟩
    rw [ClientTransportBridge.bridge_pumpOwned]
    have hcollected :=
      ClientTransportBridge.collected_run receiver bridge transport maxPackets
    exact ⟨hcollected.commandAcks, hcollected.replicationFrames, hcollected.barriers⟩

/-- The transport that hands out the packets of a list. -/
def TransportReceiver.ofList : TransportReceiver (List (InboundPacket Unit)) Unit Empty where
  tryRecv packets :=
    match packets with
    | [] => (.ok none, [])
    | packet :: packets => (.ok (some packet), packets)

/-- A replication frame for client 7. -/
def emptyReplicationFrame : ReplicationFrame := ⟨⟨7⟩, ⟨1⟩, 0, 0, []⟩

/-- The packet of the frame, and an empty packet. -/
def frameThenGarbage : List (InboundPacket Unit) :=
  [⟨none, (), (Wire.encodeReplication emptyReplicationFrame []).2⟩, ⟨none, (), []⟩]

lemma decoded_emptyReplicationFrame :
    Wire.decoded (Wire.encodeReplication emptyReplicationFrame []).2
      = .ok (.replication emptyReplicationFrame) := by
  have hencode : Wire.encode (.replication emptyReplicationFrame) []
      = (.ok (), (Wire.encodeReplication emptyReplicationFrame []).2) := rfl
  exact Wire.decoded_of_encode hencode

lemma decoded_nil (frame : RuntimeFrame) : Wire.decoded [] ≠ .ok frame := by
  intro hframe
  have hdecode := Wire.decode_eq_decoded []
  rw [hframe] at hdecode
  have herror : ∃ error, Wire.decode [] = some (.error error) := ⟨_, rfl⟩
  obtain ⟨error, herror⟩ := herror
  rw [herror] at hdecode
  cases hdecode

/-- The frame is counted, and the call that fails on the packet after it does not return it. -/
theorem late_failure_drops_frame :
    (¬ ∀ (bridge : ReplicationReceiveBridge) transport maxPackets,
      ReplicationReceiveBridge.handedOver (bridge.pumpOwned .ofList transport maxPackets).1
        = ReplicationReceiveBridge.accepted .ofList bridge transport maxPackets)
    ∧ ¬ ∀ (bridge : ClientTransportBridge) transport maxPackets,
      ClientTransportBridge.SameFrames
        (ClientTransportBridge.handedOver (bridge.pumpOwned .ofList transport maxPackets).1)
        (ClientTransportBridge.accepted .ofList bridge transport maxPackets) := by
  have hgives : Pump.Gives TransportReceiver.ofList.tryRecv frameThenGarbage
      (frameThenGarbage.take 1) (frameThenGarbage.drop 1) := .cons rfl .nil
  have hrest : TransportReceiver.ofList.tryRecv (frameThenGarbage.drop 1)
      = (.ok (some ⟨none, (), []⟩), []) := rfl
  constructor
  · intro h
    have hfirst := (ReplicationReceiveBridge.handsOver_iff _ _ _ _).mp
      (h (.new ⟨⟨7⟩, none⟩) frameThenGarbage 2)
    have hnone := hfirst _ _ hgives ?_ (by decide) (.inr ⟨_, _, hrest, ?_⟩)
    · cases hnone
    · intro packet hpacket
      rw [List.mem_singleton.mp hpacket]
      exact ⟨rfl, _, decoded_emptyReplicationFrame, rfl⟩
    · rintro ⟨-, frame, hframe, -⟩
      exact decoded_nil _ hframe
  · intro h
    have hfirst := (ClientTransportBridge.handsOver_iff _ _ _ _).mp
      (h (.new ⟨⟨7⟩, ⟨1⟩, none⟩) frameThenGarbage 2)
    have hnone := hfirst _ _ hgives ?_ (by decide) (.inr ⟨_, _, hrest, ?_⟩)
    · cases hnone
    · intro packet hpacket
      rw [List.mem_singleton.mp hpacket]
      exact ⟨rfl, _, decoded_emptyReplicationFrame, rfl⟩
    · rintro ⟨-, frame, hframe, -⟩
      exact decoded_nil _ hframe

end SectorSync
