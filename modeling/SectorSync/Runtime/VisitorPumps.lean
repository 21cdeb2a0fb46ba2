import SectorSync.Base.VisitingPump
import SectorSync.Runtime.ReceivePumps
import SectorSync.Wire.Borrowed

/-!
# The visiting pumps

`ReplicationReceiveBridge` and `ClientTransportBridge` have a second pump each, which borrows the
replication frames and shows them to a visitor.  `Shown` says what a visitor has seen: the frames
that the owned pump collects, in their order within each kind.

The pump of `ReplicationReceiveBridge` tells a frame of another kind by its kind byte, where the
owned pump decodes the frame first, so the two report a malformed one differently;
`visitor_pumps_agree_iff` says that they agree on all other packets.  The pump of
`ClientTransportBridge` decodes it too.
-/

namespace SectorSync

open Wire
open Pump (VisitError)

variable {T Addr E V W A : Type}

/-- A visitor with state `W`. -/
def Visitor (W A V : Type) : Type := W → A → Except V Unit × W

namespace Visitor

/-- The visitor does not fail. -/
def Succeeds (visitor : Visitor W A V) : Prop := ∀ w frame, (visitor w frame).1 = .ok ()

/-- The state of the visitor after it has seen the frames. -/
def after (visitor : Visitor W A V) (w : W) (frames : List A) : W :=
  frames.foldl (fun w frame => (visitor w frame).2) w

lemma after_concat (visitor : Visitor W A V) (w : W) (frames : List A) (frame : A) :
    visitor.after w (frames ++ [frame]) = (visitor (visitor.after w frames) frame).2 := by
  simp only [after, List.foldl_concat]

/-- Shows an accepted frame, which the bridge and the report have counted by then. -/
def call {F B L : Type} (visitor : Visitor W A V) (bridge : B) (w : W) (report : L) (frame : A) :
    Except (VisitError F V) L × B × W :=
  match visitor w frame with
  | (.error error, w) => (.error (.visitor error), bridge, w)
  | (.ok (), w) => (.ok report, bridge, w)

lemma Succeeds.call_eq {F B L : Type} {visitor : Visitor W A V} (h : visitor.Succeeds) (bridge : B)
    (w : W) (report : L) (frame : A) :
    visitor.call (F := F) bridge w report frame = (.ok report, bridge, (visitor w frame).2) := by
  have hvisited : visitor w frame = (.ok (), (visitor w frame).2) := Prod.ext (h w frame) rfl
  rw [call, hvisited]

end Visitor

/-- The component deltas of a borrowed frame; `none` is an iterator that ends the program. -/
def ReplicationFrameRef.componentCount (frame : ReplicationFrameRef) : Option ℕ := do
  let entities ← frame.entities.collect decodeEntityRef
  return entities.foldl (fun count entity => count + entity.encodedComponentCount) 0

/-- The counts of a borrowed frame are those of its owned frame. -/
lemma ReplicationFrameRef.Validated.componentCount_eq {ref : ReplicationFrameRef}
    {frame : ReplicationFrame} (h : ref.Validated) (htoOwned : ref.toOwned = some frame) :
    ref.componentCount = some frame.componentCount := by
  obtain ⟨-, -, entities, hcollect, hcounts⟩ := h.counts_of_toOwned htoOwned
  have hsum : entities.foldl (fun count entity => count + entity.encodedComponentCount) 0
      = frame.componentCount := by
    rw [ReplicationFrame.componentCount,
      ← List.foldl_map (f := EntityDeltaRef.encodedComponentCount) (g := (· + ·)), hcounts,
      List.foldl_map]
  simp [ReplicationFrameRef.componentCount, hcollect, hsum]

lemma mapM_toOwned_concat {refs : List ReplicationFrameRef} {frames : List ReplicationFrame}
    {ref : ReplicationFrameRef} {frame : ReplicationFrame}
    (hrefs : refs.mapM ReplicationFrameRef.toOwned = some frames)
    (href : ref.toOwned = some frame) :
    (refs ++ [ref]).mapM ReplicationFrameRef.toOwned = some (frames ++ [frame]) := by
  simp [List.mapM_append, hrefs, href]

lemma filterMap_concat_none {B : Type} {f : A → Option B} {frames : List A} {frame : A}
    (h : f frame = none) : (frames ++ [frame]).filterMap f = frames.filterMap f := by
  rw [List.filterMap_append, List.filterMap_cons_none h, List.filterMap_nil, List.append_nil]

/-! ## Replication frames -/

/-- Fixed-size result of visiting replication packets. -/
structure ReplicationReceiveVisitReport where
  packetsReceived : ℕ
  bytesReceived : ℕ
  framesReceived : ℕ
  entitiesReceived : ℕ
  componentsReceived : ℕ
  deriving DecidableEq

/-- Nothing visited. -/
def ReplicationReceiveVisitReport.default : ReplicationReceiveVisitReport := ⟨0, 0, 0, 0, 0⟩

namespace ReplicationReceiveBridge

/-- What one packet does to the bridge, to the visitor and to the report. -/
def visitPacket (visitor : Visitor W ReplicationFrameRef V) (bridge : ReplicationReceiveBridge)
    (w : W) (report : ReplicationReceiveVisitReport) (packet : InboundPacket Addr) :
    Option (Except (VisitError (ReplicationReceiveError E) V) ReplicationReceiveVisitReport
      × ReplicationReceiveBridge × W) :=
  let stats := { bridge.stats with
    packetsReceived := usizeSaturatingAdd bridge.stats.packetsReceived 1
    bytesReceived := usizeSaturatingAdd bridge.stats.bytesReceived packet.bytes.length }
  let report := { report with
    packetsReceived := usizeSaturatingAdd report.packetsReceived 1
    bytesReceived := usizeSaturatingAdd report.bytesReceived packet.bytes.length }
  match SectorSync.sourceMismatch bridge.config.expectedSource packet.clientId with
  | some expected =>
      some (.error (.receive (.sourceMismatch expected packet.clientId)),
        ⟨bridge.config, { stats with
          framesRejectedSource := usizeSaturatingAdd stats.framesRejectedSource 1 }⟩, w)
  | none =>
      match Wire.decodeReplication packet.bytes with
      | none => none
      | some (.error (.binary error)) =>
          some (.error (.receive (.decode error)), ⟨bridge.config, { stats with
            framesRejectedDecode := usizeSaturatingAdd stats.framesRejectedDecode 1 }⟩, w)
      | some (.error (.unexpectedFrameKind _)) =>
          some (.error (.receive .unexpectedFrame), ⟨bridge.config, { stats with
            framesRejectedUnexpected :=
              usizeSaturatingAdd stats.framesRejectedUnexpected 1 }⟩, w)
      | some (.ok frame) =>
          if frame.clientId ≠ bridge.config.clientId then
            some (.error (.receive (.targetMismatch bridge.config.clientId frame.clientId)),
              ⟨bridge.config, { stats with
                framesRejectedTarget := usizeSaturatingAdd stats.framesRejectedTarget 1 }⟩, w)
          else
            let entities := frame.encodedEntityCount
            match frame.componentCount with
            | none => none
            | some components =>
                let stats := { stats with
                  framesReceived := usizeSaturatingAdd stats.framesReceived 1
                  entitiesReceived := usizeSaturatingAdd stats.entitiesReceived entities
                  componentsReceived := usizeSaturatingAdd stats.componentsReceived components }
                let report := { report with
                  framesReceived := usizeSaturatingAdd report.framesReceived 1
                  entitiesReceived := usizeSaturatingAdd report.entitiesReceived entities
                  componentsReceived := usizeSaturatingAdd report.componentsReceived components }
                some (visitor.call ⟨bridge.config, stats⟩ w report frame)

/-- The loop of `pump`. -/
def visiting (receiver : TransportReceiver T Addr E) (visitor : Visitor W ReplicationFrameRef V) :
    Pump.Visiting T ReplicationReceiveBridge W (InboundPacket Addr) ReplicationReceiveVisitReport
      (ReplicationReceiveError E) V where
  recv transport := ((receiver.tryRecv transport).1.mapError .transport,
    (receiver.tryRecv transport).2)
  visit := visitPacket visitor

/-- Receives up to `maxPackets` replication frames and visits them. -/
def pumpVisitor (receiver : TransportReceiver T Addr E) (visitor : Visitor W ReplicationFrameRef V)
    (bridge : ReplicationReceiveBridge) (transport : T) (maxPackets : ℕ) (w : W) :
    Option (Except (VisitError (ReplicationReceiveError E) V) ReplicationReceiveVisitReport
      × T × ReplicationReceiveBridge × W) :=
  (visiting receiver visitor).run maxPackets (transport, bridge, w) .default

/-- The visitor has seen the frames that were collected, in their order. -/
def Shown (visitor : Visitor W ReplicationFrameRef V) (w : W) (pump : ReplicationReceivePump)
    (w' : W) : Prop :=
  ∃ seen, w' = visitor.after w seen
    ∧ seen.mapM ReplicationFrameRef.toOwned = some pump.frames

/-- A packet from the expected source that has the kind byte of a frame other than replication and
is malformed. -/
def MalformedOther (config : ReplicationReceiveConfig) (packet : InboundPacket Addr) : Prop :=
  SectorSync.sourceMismatch config.expectedSource packet.clientId = none
    ∧ (∃ kind, packet.bytes.head?.bind FrameKind.fromByte = some kind ∧ kind ≠ .replication)
    ∧ ∀ frame, Wire.decoded packet.bytes ≠ .ok frame

section Follows

variable (receiver : TransportReceiver T Addr E) {visitor : Visitor W ReplicationFrameRef V}
  (hsucceeds : visitor.Succeeds) (w : W)
include hsucceeds

/-- One packet. -/
lemma sameStep_visitPacket {bridge : ReplicationReceiveBridge} {pump : ReplicationReceivePump}
    {w' : W} {packet : InboundPacket Addr} (report : ReplicationReceiveVisitReport)
    (hshown : Shown visitor w pump w') (hgood : ¬ MalformedOther bridge.config packet) :
    Pump.SameStep (F := ReplicationReceiveError E) (Shown visitor w)
      (receivePacket (bridge, pump) packet) (visitPacket visitor bridge w' report packet) := by
  obtain ⟨seen, hafter, hseen⟩ := hshown
  simp only [receivePacket, visitPacket]
  rcases hsource : SectorSync.sourceMismatch bridge.config.expectedSource packet.clientId
    with _ | expected
  · rcases reads packet.bytes with ⟨href, howned⟩ | ⟨href, htoOwned, howned⟩ |
      ⟨hother, hhead, href, howned⟩
    · simp only [href, howned]
      exact .refuses ⟨seen, hafter, hseen⟩
    · rename_i ref frame
      have hvalidated := validated_of_decodeReplication href
      obtain ⟨hclient, hentities, -⟩ := hvalidated.counts_of_toOwned htoOwned
      simp only [href, howned, hclient]
      split_ifs with htarget
      · exact .refuses ⟨seen, hafter, hseen⟩
      · simp only [hvalidated.componentCount_eq htoOwned, hentities, hsucceeds.call_eq]
        refine .takes ⟨seen ++ [ref], ?_, mapM_toOwned_concat hseen htoOwned⟩
        rw [visitor.after_concat, ← hafter]
    · rcases hdecoded : Wire.decoded packet.bytes with error | frame
      · refine absurd ⟨hsource, ⟨_, hhead, hother⟩, fun frame hframe => ?_⟩ hgood
        rw [hdecoded] at hframe
        cases hframe
      · cases frame with
        | replication frame => exact absurd hdecoded (howned frame)
        | _ =>
            simp only [href]
            exact .refuses ⟨seen, hafter, hseen⟩
  · exact .refuses ⟨seen, hafter, hseen⟩

omit hsucceeds in
/-- The pumps give different errors for a malformed frame of another kind. -/
lemma differs_visitPacket {bridge : ReplicationReceiveBridge} {pump : ReplicationReceivePump}
    {w' : W} {packet : InboundPacket Addr} (report : ReplicationReceiveVisitReport)
    (hbad : MalformedOther bridge.config packet) :
    ∃ (error error' : ReplicationReceiveError E) (b' b'' : ReplicationReceiveBridge)
      (c' : ReplicationReceivePump) (w'' : W),
      receivePacket (bridge, pump) packet = (.error error, b', c')
        ∧ visitPacket visitor bridge w' report packet = some (.error (.receive error'), b'', w'')
        ∧ error ≠ error' := by
  obtain ⟨hsource, ⟨kind, hhead, hother⟩, hmalformed⟩ := hbad
  obtain ⟨byte, hbyte, hkind⟩ := Option.bind_eq_some_iff.mp hhead
  obtain ⟨rest, hrest⟩ := List.head?_eq_some_iff.mp hbyte
  have href : Wire.decodeReplication packet.bytes = some (.error (.unexpectedFrameKind kind)) := by
    rw [hrest]
    exact decodeReplication_of_other rest hkind hother
  rcases howned : Wire.decoded packet.bytes with error | frame
  · simp only [receivePacket, visitPacket, hsource, href, howned]
    exact ⟨_, _, _, _, _, _, rfl, rfl, by simp⟩
  · exact absurd howned (hmalformed frame)

lemma follows (config : ReplicationReceiveConfig) :
    Pump.Follows (pump receiver) (visiting receiver visitor)
      (fun bridge => bridge.config = config) (Shown visitor w) (MalformedOther config) where
  recv_eq := rfl
  same report hconfig hshown hgood := by
    subst hconfig
    exact sameStep_visitPacket hsucceeds w report hshown hgood
  differs report hconfig _ hbad := by
    subst hconfig
    exact differs_visitPacket report hbad

/-- **When the two pumps agree.** -/
lemma pumps_agree_iff (bridge : ReplicationReceiveBridge) (transport : T) (maxPackets : ℕ) :
    Pump.Agree (Shown visitor w) (pumpRun receiver bridge transport maxPackets)
        (pumpVisitor receiver visitor bridge transport maxPackets w)
      ↔ ¬ Pump.Meets receiver.tryRecv (Accepts bridge.config) (MalformedOther bridge.config)
        maxPackets transport := by
  have hagree := (follows receiver hsucceeds w bridge.config).agree_iff
    (judges (E := E) receiver bridge.config) (s := (bridge, ⟨0, 0, []⟩)) (w := w) rfl
    ⟨[], rfl, rfl⟩ maxPackets transport () .default
  exact hagree.trans (not_congr Pump.meets_mapError)

end Follows

end ReplicationReceiveBridge

/-! ## Client-bound frames -/

/-- Client-bound frame visited without materializing replication delta storage. -/
inductive ClientInboundFrameRef where
  | commandAck (frame : CommandAckFrame)
  | replication (frame : ReplicationFrameRef)
  | barrier (frame : BarrierFrame)
  deriving DecidableEq

namespace ClientInboundFrameRef

def commandAck? : ClientInboundFrameRef → Option CommandAckFrame
  | commandAck frame => some frame
  | replication _ | barrier _ => none

def replication? : ClientInboundFrameRef → Option ReplicationFrameRef
  | replication frame => some frame
  | commandAck _ | barrier _ => none

def barrier? : ClientInboundFrameRef → Option BarrierFrame
  | barrier frame => some frame
  | commandAck _ | replication _ => none

end ClientInboundFrameRef

/-- Fixed-size result of visiting client-bound transport frames. -/
structure ClientTransportVisitReport where
  packetsReceived : ℕ
  bytesReceived : ℕ
  commandAcksReceived : ℕ
  replicationFramesReceived : ℕ
  barrierFramesReceived : ℕ
  entitiesReceived : ℕ
  componentsReceived : ℕ
  deriving DecidableEq

/-- Nothing visited. -/
def ClientTransportVisitReport.default : ClientTransportVisitReport := ⟨0, 0, 0, 0, 0, 0, 0⟩

namespace ClientTransportBridge

/-- What a borrowed replication frame does to the bridge, to the visitor and to the report. -/
def visitReplication (visitor : Visitor W ClientInboundFrameRef V) (bridge : ClientTransportBridge)
    (w : W) (report : ClientTransportVisitReport) (frame : ReplicationFrameRef) :
    Option (Except (VisitError (ClientTransportBridgeError E) V) ClientTransportVisitReport
      × ClientTransportBridge × W) :=
  match bridge.validateClientTarget .replication frame.clientId with
  | (.error error, bridge) => some (.error (.receive error), bridge, w)
  | (.ok (), bridge) =>
      let entities := frame.encodedEntityCount
      match frame.componentCount with
      | none => none
      | some components =>
          some (visitor.call { bridge with stats := { bridge.stats with
              replicationFramesReceived :=
                usizeSaturatingAdd bridge.stats.replicationFramesReceived 1
              entitiesReceived := usizeSaturatingAdd bridge.stats.entitiesReceived entities
              componentsReceived :=
                usizeSaturatingAdd bridge.stats.componentsReceived components } }
            w
            { report with
              replicationFramesReceived := usizeSaturatingAdd report.replicationFramesReceived 1
              entitiesReceived := usizeSaturatingAdd report.entitiesReceived entities
              componentsReceived := usizeSaturatingAdd report.componentsReceived components }
            (.replication frame))

/-- What a frame of another kind does to the bridge, to the visitor and to the report. -/
def visitFrame (visitor : Visitor W ClientInboundFrameRef V) (bridge : ClientTransportBridge)
    (w : W) (report : ClientTransportVisitReport) :
    RuntimeFrame → Except (VisitError (ClientTransportBridgeError E) V) ClientTransportVisitReport
      × ClientTransportBridge × W
  | .commandAck frame =>
      match bridge.validateClientTarget .commandAck frame.clientId with
      | (.error error, bridge) => (.error (.receive error), bridge, w)
      | (.ok (), bridge) =>
          visitor.call { bridge with stats := { bridge.stats with
              commandAcksReceived := usizeSaturatingAdd bridge.stats.commandAcksReceived 1 } }
            w
            { report with
              commandAcksReceived := usizeSaturatingAdd report.commandAcksReceived 1 }
            (.commandAck frame)
  | .barrier frame =>
      match bridge.validateClientTarget .barrier frame.clientId with
      | (.error error, bridge) => (.error (.receive error), bridge, w)
      | (.ok (), bridge) =>
          visitor.call { bridge with stats := { bridge.stats with
              barrierFramesReceived := usizeSaturatingAdd bridge.stats.barrierFramesReceived 1 } }
            w
            { report with
              barrierFramesReceived := usizeSaturatingAdd report.barrierFramesReceived 1 }
            (.barrier frame)
  | .replication _ | .command _ | .commandDispatch _ | .stationEvent _ =>
      (.error (.receive .unexpectedFrame), { bridge with stats := { bridge.stats with
        framesRejectedUnexpected :=
          usizeSaturatingAdd bridge.stats.framesRejectedUnexpected 1 } }, w)

/-- What one packet does to the bridge, to the visitor and to the report. -/
def visitPacket (visitor : Visitor W ClientInboundFrameRef V) (bridge : ClientTransportBridge)
    (w : W) (report : ClientTransportVisitReport) (packet : InboundPacket Addr) :
    Option (Except (VisitError (ClientTransportBridgeError E) V) ClientTransportVisitReport
      × ClientTransportBridge × W) :=
  let stats := { bridge.stats with
    packetsReceived := usizeSaturatingAdd bridge.stats.packetsReceived 1
    bytesReceived := usizeSaturatingAdd bridge.stats.bytesReceived packet.bytes.length }
  let report := { report with
    packetsReceived := usizeSaturatingAdd report.packetsReceived 1
    bytesReceived := usizeSaturatingAdd report.bytesReceived packet.bytes.length }
  match SectorSync.sourceMismatch bridge.config.expectedSource packet.clientId with
  | some expected =>
      some (.error (.receive (.sourceMismatch expected packet.clientId)),
        ⟨bridge.config, { stats with
          framesRejectedSource := usizeSaturatingAdd stats.framesRejectedSource 1 }⟩, w)
  | none =>
      match Wire.decodeReplication packet.bytes with
      | none => none
      | some (.ok frame) => visitReplication visitor ⟨bridge.config, stats⟩ w report frame
      | some (.error (.binary error)) =>
          some (.error (.receive (.decode error)), ⟨bridge.config, { stats with
            framesRejectedDecode := usizeSaturatingAdd stats.framesRejectedDecode 1 }⟩, w)
      | some (.error (.unexpectedFrameKind _)) =>
          -- a frame of another kind is decoded as a whole
          match Wire.decoded packet.bytes with
          | .error error =>
              some (.error (.receive (.decode error)), ⟨bridge.config, { stats with
                framesRejectedDecode := usizeSaturatingAdd stats.framesRejectedDecode 1 }⟩, w)
          | .ok frame => some (visitFrame visitor ⟨bridge.config, stats⟩ w report frame)

/-- The loop of `pump`. -/
def visiting (receiver : TransportReceiver T Addr E)
    (visitor : Visitor W ClientInboundFrameRef V) :
    Pump.Visiting T ClientTransportBridge W (InboundPacket Addr) ClientTransportVisitReport
      (ClientTransportBridgeError E) V where
  recv transport := ((receiver.tryRecv transport).1.mapError .transport,
    (receiver.tryRecv transport).2)
  visit := visitPacket visitor

/-- Receives up to `maxPackets` client-bound frames and visits them. -/
def pumpVisitor (receiver : TransportReceiver T Addr E)
    (visitor : Visitor W ClientInboundFrameRef V) (bridge : ClientTransportBridge) (transport : T)
    (maxPackets : ℕ) (w : W) :
    Option (Except (VisitError (ClientTransportBridgeError E) V) ClientTransportVisitReport
      × T × ClientTransportBridge × W) :=
  (visiting receiver visitor).run maxPackets (transport, bridge, w) .default

/-- The visitor has seen the frames that were collected, those of each kind in their order. -/
def Shown (visitor : Visitor W ClientInboundFrameRef V) (w : W) (pump : ClientTransportPump)
    (w' : W) : Prop :=
  ∃ seen, w' = visitor.after w seen
    ∧ seen.filterMap ClientInboundFrameRef.commandAck? = pump.commandAcks
    ∧ (seen.filterMap ClientInboundFrameRef.replication?).mapM ReplicationFrameRef.toOwned
      = some pump.replicationFrames
    ∧ seen.filterMap ClientInboundFrameRef.barrier? = pump.barriers

section Follows

variable (receiver : TransportReceiver T Addr E) {visitor : Visitor W ClientInboundFrameRef V}
  (hsucceeds : visitor.Succeeds) (w : W)
include hsucceeds

/-- The check of the client has the same two outcomes for both pumps. -/
lemma sameStep_visitReplication {bridge : ClientTransportBridge} {pump : ClientTransportPump}
    {w' : W} {ref : ReplicationFrameRef} {frame : ReplicationFrame}
    (report : ClientTransportVisitReport) (hshown : Shown visitor w pump w')
    (hvalidated : ref.Validated) (htoOwned : ref.toOwned = some frame) :
    Pump.SameStep (F := ClientTransportBridgeError E) (Shown visitor w)
      (receiveFrame bridge pump (.replication frame))
      (visitReplication visitor bridge w' report ref) := by
  obtain ⟨hclient, hentities, -⟩ := hvalidated.counts_of_toOwned htoOwned
  rw [receiveFrame, visitReplication, hclient]
  rcases bridge.validateClientTarget (E := E) .replication ref.clientId with ⟨error | _, bridge⟩
  · exact .refuses hshown
  · obtain ⟨seen, hafter, hacks, hframes, hbarriers⟩ := hshown
    simp only [hvalidated.componentCount_eq htoOwned, hentities, hsucceeds.call_eq]
    refine .takes ⟨seen ++ [.replication ref], ?_, ?_, ?_, ?_⟩
    · rw [visitor.after_concat, ← hafter]
    · rwa [filterMap_concat_none rfl]
    · rw [List.filterMap_append]
      exact mapM_toOwned_concat hframes htoOwned
    · rwa [filterMap_concat_none rfl]

lemma sameStep_visitFrame {bridge : ClientTransportBridge} {pump : ClientTransportPump} {w' : W}
    {frame : RuntimeFrame} (report : ClientTransportVisitReport) (hshown : Shown visitor w pump w')
    (hother : ∀ replication, frame ≠ .replication replication) :
    Pump.SameStep (F := ClientTransportBridgeError E) (Shown visitor w)
      (receiveFrame bridge pump frame) (some (visitFrame visitor bridge w' report frame)) := by
  cases frame with
  | replication frame => exact absurd rfl (hother frame)
  | commandAck frame =>
      rw [receiveFrame, visitFrame]
      rcases bridge.validateClientTarget (E := E) .commandAck frame.clientId with
        ⟨error | _, bridge⟩
      · exact .refuses hshown
      · obtain ⟨seen, hafter, hacks, hframes, hbarriers⟩ := hshown
        simp only [hsucceeds.call_eq]
        refine .takes ⟨seen ++ [.commandAck frame], ?_, ?_, ?_, ?_⟩
        · rw [visitor.after_concat, ← hafter]
        · simp [ClientInboundFrameRef.commandAck?, ← hacks]
        · rwa [filterMap_concat_none rfl]
        · rwa [filterMap_concat_none rfl]
  | barrier frame =>
      rw [receiveFrame, visitFrame]
      rcases bridge.validateClientTarget (E := E) .barrier frame.clientId with
        ⟨error | _, bridge⟩
      · exact .refuses hshown
      · obtain ⟨seen, hafter, hacks, hframes, hbarriers⟩ := hshown
        simp only [hsucceeds.call_eq]
        refine .takes ⟨seen ++ [.barrier frame], ?_, ?_, ?_, ?_⟩
        · rw [visitor.after_concat, ← hafter]
        · rwa [filterMap_concat_none rfl]
        · rwa [filterMap_concat_none rfl]
        · simp [ClientInboundFrameRef.barrier?, ← hbarriers]
  | command | commandDispatch | stationEvent => exact .refuses hshown

/-- One packet. -/
lemma sameStep_visitPacket {bridge : ClientTransportBridge} {pump : ClientTransportPump} {w' : W}
    (packet : InboundPacket Addr) (report : ClientTransportVisitReport)
    (hshown : Shown visitor w pump w') :
    Pump.SameStep (F := ClientTransportBridgeError E) (Shown visitor w)
      (receivePacket (bridge, pump) packet) (visitPacket visitor bridge w' report packet) := by
  simp only [receivePacket, visitPacket]
  rcases SectorSync.sourceMismatch bridge.config.expectedSource packet.clientId with _ | expected
  · rcases reads packet.bytes with ⟨href, howned⟩ | ⟨href, htoOwned, howned⟩ |
      ⟨hother, hhead, href, howned⟩
    · simp only [href, howned]
      exact .refuses hshown
    · simp only [href, howned]
      exact sameStep_visitReplication hsucceeds w _ hshown (validated_of_decodeReplication href)
        htoOwned
    · simp only [href]
      rcases hdecoded : Wire.decoded packet.bytes with error | frame
      · exact .refuses hshown
      · refine sameStep_visitFrame hsucceeds w _ hshown fun replication heq => ?_
        exact howned replication (heq ▸ hdecoded)
  · exact .refuses hshown

lemma follows (config : ClientTransportConfig) :
    Pump.Follows (pump receiver) (visiting receiver visitor)
      (fun bridge => bridge.config = config) (Shown visitor w) (fun _ => False) where
  recv_eq := rfl
  same report _ hshown _ := sameStep_visitPacket hsucceeds w _ report hshown
  differs _ _ _ hbad := hbad.elim

/-- **The two pumps agree.** -/
lemma pumps_agree (bridge : ClientTransportBridge) (transport : T) (maxPackets : ℕ) :
    Pump.Agree (Shown visitor w) (pumpRun receiver bridge transport maxPackets)
      (pumpVisitor receiver visitor bridge transport maxPackets w) := by
  refine ((follows receiver hsucceeds w bridge.config).agree_iff
    (judges (E := E) receiver bridge.config) (s := (bridge, .default)) (w := w) rfl
    ⟨[], rfl, rfl, rfl, rfl⟩ maxPackets transport () .default).mpr ?_
  rintro ⟨_, _, _, _, -, -, -, -, hbad⟩
  exact hbad

end Follows

end ClientTransportBridge

/-! ## Both bridges -/

/-- **When the owned and the visiting pumps agree.**  With a visitor that does not fail, the two
pumps of a `ReplicationReceiveBridge` take the same packets, accept the same frames in the same
order, fail alike and leave the same bridge, exactly when the run does not come to a malformed frame
of a kind other than replication; the two pumps of a `ClientTransportBridge` always do. -/
theorem visitor_pumps_agree_iff (receiver : TransportReceiver T Addr E) (transport : T)
    (maxPackets : ℕ) :
    (∀ {W V : Type} (visitor : Visitor W ReplicationFrameRef V) (w : W)
        (bridge : ReplicationReceiveBridge), visitor.Succeeds →
      (Pump.Agree (ReplicationReceiveBridge.Shown visitor w)
          (ReplicationReceiveBridge.pumpRun receiver bridge transport maxPackets)
          (ReplicationReceiveBridge.pumpVisitor receiver visitor bridge transport maxPackets w)
        ↔ ¬ Pump.Meets receiver.tryRecv (ReplicationReceiveBridge.Accepts bridge.config)
          (ReplicationReceiveBridge.MalformedOther bridge.config) maxPackets transport))
    ∧ ∀ {W V : Type} (visitor : Visitor W ClientInboundFrameRef V) (w : W)
        (bridge : ClientTransportBridge), visitor.Succeeds →
      Pump.Agree (ClientTransportBridge.Shown visitor w)
        (ClientTransportBridge.pumpRun receiver bridge transport maxPackets)
        (ClientTransportBridge.pumpVisitor receiver visitor bridge transport maxPackets w) := by
  constructor
  · intro W V visitor w bridge hsucceeds
    exact ReplicationReceiveBridge.pumps_agree_iff receiver hsucceeds w bridge transport maxPackets
  · intro W V visitor w bridge hsucceeds
    exact ClientTransportBridge.pumps_agree receiver hsucceeds w bridge transport maxPackets

/-- The visitor that keeps what it is shown. -/
def Visitor.recorder : Visitor (List A) A Empty := fun frames frame => (.ok (), frames ++ [frame])

lemma Visitor.recorder_succeeds : (Visitor.recorder (A := A)).Succeeds := fun _ _ => rfl

/-- A frame, and then an empty packet. -/
theorem visitor_pumps_agree_frameThenGarbage :
    Pump.Agree (ReplicationReceiveBridge.Shown Visitor.recorder [])
        (ReplicationReceiveBridge.pumpRun .ofList (.new ⟨⟨7⟩, none⟩) frameThenGarbage 2)
        (ReplicationReceiveBridge.pumpVisitor .ofList Visitor.recorder (.new ⟨⟨7⟩, none⟩)
          frameThenGarbage 2 [])
      ∧ Pump.Agree (ClientTransportBridge.Shown Visitor.recorder [])
        (ClientTransportBridge.pumpRun .ofList (.new ⟨⟨7⟩, ⟨1⟩, none⟩) frameThenGarbage 2)
        (ClientTransportBridge.pumpVisitor .ofList Visitor.recorder (.new ⟨⟨7⟩, ⟨1⟩, none⟩)
          frameThenGarbage 2 []) := by
  have hboth := visitor_pumps_agree_iff .ofList frameThenGarbage 2
  refine ⟨(hboth.1 Visitor.recorder [] (.new ⟨⟨7⟩, none⟩) Visitor.recorder_succeeds).mpr ?_,
    hboth.2 Visitor.recorder [] (.new ⟨⟨7⟩, ⟨1⟩, none⟩) Visitor.recorder_succeeds⟩
  -- neither packet has the kind byte of another frame
  rintro ⟨packets, rest, packet, last, hgives, -, -, hrecv, -, ⟨kind, hhead, hother⟩, -⟩
  cases hgives with
  | nil =>
      cases hrecv
      cases hhead
      exact hother rfl
  | cons hfirst hgives =>
      cases hfirst
      cases hgives with
      | nil =>
          cases hrecv
          cases hhead
      | cons hsecond hgives =>
          cases hsecond
          cases hgives with
          | nil => cases hrecv
          | cons hthird => cases hthird

/-- The kind byte of an acknowledgement, and nothing else. -/
def truncatedAck : List (InboundPacket Unit) := [⟨none, (), [1]⟩]

lemma malformedOther_truncatedAck :
    ReplicationReceiveBridge.MalformedOther ⟨⟨7⟩, none⟩ (⟨none, (), [1]⟩ : InboundPacket Unit) := by
  refine ⟨rfl, ⟨.commandAck, rfl, by decide⟩, fun frame hframe => ?_⟩
  have hdecode := decode_eq_decoded [1]
  rw [hframe] at hdecode
  have herror : ∃ error, Wire.decode [1] = some (.error error) := ⟨_, rfl⟩
  obtain ⟨error, herror⟩ := herror
  rw [herror] at hdecode
  cases hdecode

/-- The owned pump fails to decode the packet, the visiting one finds an unexpected frame. -/
theorem truncated_ack_told_apart :
    ¬ ∀ (bridge : ReplicationReceiveBridge) (transport : List (InboundPacket Unit))
      (maxPackets : ℕ),
      Pump.Agree (ReplicationReceiveBridge.Shown Visitor.recorder [])
        (ReplicationReceiveBridge.pumpRun .ofList bridge transport maxPackets)
        (ReplicationReceiveBridge.pumpVisitor .ofList Visitor.recorder bridge transport
          maxPackets []) := by
  intro h
  have hagree := h (.new ⟨⟨7⟩, none⟩) truncatedAck 1
  rw [ReplicationReceiveBridge.pumps_agree_iff _ Visitor.recorder_succeeds] at hagree
  exact hagree ⟨[], truncatedAck, _, [], .nil, by simp, Nat.one_pos, rfl,
    malformedOther_truncatedAck⟩

end SectorSync
