import SectorSync.Transport.ReliableReceiver

/-!
# Several stations behind one endpoint

A station endpoint receives for all of its local stations through one delivered history, which
remembers the source and the sequence number of a frame.  A sender numbers the packets of each
target on their own, so two targets of one source share their sequence numbers.

`Arrival` is what became of a data frame that came in, and `DeliversFirst` what the link promises
about all of them.  A frame `Clashes` when the history remembers its number for another target, and
it `Returns` when it was delivered and the history does not remember its number any more.
`deliversFirst_iff` is the exact condition: over every run, with any packets and any transport, the
promise is kept exactly when no frame clashes and none returns.
-/

namespace SectorSync.StationTargets

open Machine Window ReliableReceiver

variable {T E : Type}

/-! ## Runs of an endpoint -/

/-- A data frame that came in at an endpoint, with what became of it. -/
structure Arrival where
  source : StationId
  target : StationId
  sequence : UInt64
  payload : List UInt8
  /-- Whether the transport accepted an acknowledgement for it. -/
  acknowledged : Bool
  /-- What the endpoint returned to its caller. -/
  delivered : Option StationInboundPacket
  deriving DecidableEq

namespace Arrival

/-- The name the sender has for the frame. -/
def frame (a : Arrival) : StationId × StationId × UInt64 := (a.source, a.target, a.sequence)

/-- The name the receiver has for the frame. -/
def packetKey (a : Arrival) : PacketKey StationId := ⟨a.source, a.sequence⟩

/-- The frame as it is delivered to its target. -/
def inbound (a : Arrival) : StationInboundPacket := ⟨a.source, a.target, a.payload⟩

end Arrival

/-- An endpoint with its transport and the data frames that came in, the oldest first. -/
structure State (T : Type) where
  endpoint : ReliableStationEndpoint
  transport : T
  arrivals : List Arrival

/-- What a caller does with an endpoint. -/
inductive Op where
  | handleInbound (packet : StationInboundPacket)
  | send (packet : StationOutboundPacket) (nowTick : UInt64)
  | retryDue (nowTick : UInt64)

/-- The entry of an inbound packet: the result of the call and the packets the transport accepted
during it. -/
def arrivalOf (packet : StationInboundPacket)
    (result : Except (ReliableError StationId E) (Option StationInboundPacket))
    (accepted : List StationOutboundPacket) : List Arrival :=
  match ReliableFrame.decode stationLink.magic packet.bytes with
  | .ok (.data sequence payload) =>
      [{ source := packet.source
         target := packet.route
         sequence := sequence
         payload := payload
         acknowledged :=
          decide (ackPacket stationLink packet.source packet.route sequence ∈ accepted)
         delivered := result.toOption.join }]
  | _ => []

variable (sink : TransportSink T StationOutboundPacket E)

/-- One call. -/
def step (state : State T) : Op → State T
  | .handleInbound packet =>
      let (result, endpoint, transport, accepted) :=
        state.endpoint.handleInbound stationLink sink.logged (state.transport, []) packet
      ⟨endpoint, transport, state.arrivals ++ arrivalOf packet result accepted⟩
  | .send packet nowTick =>
      let (_, endpoint, transport) :=
        state.endpoint.send stationLink sink state.transport packet nowTick
      { state with endpoint := endpoint, transport := transport }
  | .retryDue nowTick =>
      let (_, endpoint, transport) :=
        state.endpoint.retryDue stationLink sink state.transport nowTick
      { state with endpoint := endpoint, transport := transport }

/-- A new endpoint. -/
def State.new (config : ReliableConfig) (transport : T) : State T :=
  ⟨ReliableEndpoint.new config, transport, []⟩

/-! ## The promise -/

/-- The first transmission of every frame is delivered, once, and only then is it acknowledged. -/
structure DeliversFirst (arrivals : List Arrival) : Prop where
  /-- A frame acknowledged for the first time is delivered to its target as it came in. -/
  first : ∀ pre a post, arrivals = pre ++ a :: post → a.acknowledged = true →
    (∀ b ∈ pre, b.acknowledged = true → b.frame ≠ a.frame) → a.delivered = some a.inbound
  /-- A frame that is acknowledged is delivered in the same call, or was so before. -/
  onlyThen : ∀ pre a post, arrivals = pre ++ a :: post → a.acknowledged = true →
    ∃ b ∈ pre ++ [a], b.frame = a.frame ∧ b.delivered = some b.inbound
  /-- A frame that was delivered is not delivered again. -/
  once : ∀ pre a post, arrivals = pre ++ a :: post → a.delivered.isSome = true →
    ∀ b ∈ pre, b.delivered.isSome = true → b.frame ≠ a.frame

/-- A data frame, not acknowledged before, whose acknowledgement is accepted, and that shares its
source and its sequence number with one of the last frames delivered, for another target. -/
def Clashes (config : ReliableConfig) (state : State T) : Op → Prop
  | .handleInbound packet =>
      match ReliableFrame.decode stationLink.magic packet.bytes with
      | .ok (.data sequence _) =>
          (sink.send state.transport
            (ackPacket stationLink packet.source packet.route sequence)).1.isOk = true ∧
          (∀ b ∈ state.arrivals, b.acknowledged = true →
            b.frame ≠ (packet.source, packet.route, sequence)) ∧
          ∃ b ∈ recent config.maxDeliveredHistory
              (state.arrivals.filter fun b => b.delivered.isSome),
            b.source = packet.source ∧ b.sequence = sequence ∧ b.target ≠ packet.route
      | _ => False
  | .send _ _ => False
  | .retryDue _ => False

/-- A data frame, delivered before, whose acknowledgement is accepted, and whose source and sequence
number are not those of one of the last frames delivered. -/
def Returns (config : ReliableConfig) (state : State T) : Op → Prop
  | .handleInbound packet =>
      match ReliableFrame.decode stationLink.magic packet.bytes with
      | .ok (.data sequence _) =>
          (sink.send state.transport
            (ackPacket stationLink packet.source packet.route sequence)).1.isOk = true ∧
          (∃ b ∈ state.arrivals, b.delivered.isSome = true ∧
            b.frame = (packet.source, packet.route, sequence)) ∧
          ∀ b ∈ recent config.maxDeliveredHistory
              (state.arrivals.filter fun b => b.delivered.isSome),
            ¬ (b.source = packet.source ∧ b.sequence = sequence)
      | _ => False
  | .send _ _ => False
  | .retryDue _ => False

/-! ## The endpoint and its arrivals -/

/-- The keys of the frames delivered so far. -/
def deliveredKeys (arrivals : List Arrival) : List (PacketKey StationId) :=
  (arrivals.filter fun a => a.delivered.isSome).map Arrival.packetKey

/-- The receiver remembers the frames delivered so far, all of which were acknowledged. -/
structure Recorded (config : ReliableConfig) (state : State T) : Prop where
  config : state.endpoint.receiver.config = config
  remembers : Remembers (deliveredKeys state.arrivals) state.endpoint.receiver
  acknowledged : ∀ a ∈ state.arrivals, a.delivered.isSome = true → a.acknowledged = true

lemma recorded_new (config : ReliableConfig) (transport : T) :
    Recorded config (State.new config transport) where
  config := rfl
  remembers := remembers_new config
  acknowledged _ h := absurd h List.not_mem_nil

lemma deliveredKeys_concat (arrivals : List Arrival) (a : Arrival) :
    deliveredKeys (arrivals ++ [a])
      = deliveredKeys arrivals ++ if a.delivered.isSome then [a.packetKey] else [] := by
  rw [deliveredKeys, List.filter_append, List.map_append, ← deliveredKeys, List.filter_singleton]
  cases a.delivered.isSome with
  | true => rfl
  | false => rfl

/-- What becomes of a data frame, told from the arrivals before it: it is acknowledged when the
transport accepts, and then delivered when its key is not among the last ones. -/
def fate (config : ReliableConfig) (state : State T) (packet : StationInboundPacket)
    (sequence : UInt64) (payload : List UInt8) : Arrival :=
  let acknowledged := (sink.send state.transport
    (ackPacket stationLink packet.source packet.route sequence)).1.isOk
  { source := packet.source
    target := packet.route
    sequence := sequence
    payload := payload
    acknowledged := acknowledged
    delivered :=
      if acknowledged = true ∧ ⟨packet.source, sequence⟩ ∉
        recent config.maxDeliveredHistory (deliveredKeys state.arrivals)
      then some ⟨packet.source, packet.route, payload⟩ else none }

variable {sink} {config : ReliableConfig} {state : State T}

/-- Recording one more arrival. -/
lemma Recorded.concat (h : Recorded config state) {endpoint : ReliableStationEndpoint}
    {transport : T} {a : Arrival} (hconfig : endpoint.receiver.config = config)
    (hremembers : Remembers (deliveredKeys (state.arrivals ++ [a])) endpoint.receiver)
    (ha : a.delivered.isSome = true → a.acknowledged = true) :
    Recorded config ⟨endpoint, transport, state.arrivals ++ [a]⟩ where
  config := hconfig
  remembers := hremembers
  acknowledged b hb hdelivered := by
    rcases List.mem_append.mp hb with hold | hnew
    · exact h.acknowledged b hold hdelivered
    · rw [List.mem_singleton.mp hnew] at hdelivered ⊢
      exact ha hdelivered

/-- **A data frame comes in.** -/
lemma step_data (h : Recorded config state) {packet : StationInboundPacket} {sequence : UInt64}
    {payload : List UInt8}
    (hdecode : ReliableFrame.decode stationLink.magic packet.bytes = .ok (.data sequence payload)) :
    (step sink state (.handleInbound packet)).arrivals
        = state.arrivals ++ [fate sink config state packet sequence payload] ∧
      Recorded config (step sink state (.handleInbound packet)) := by
  have hcall := state.endpoint.handleInbound_data sink.logged (state.transport, []) packet hdecode
  set a := fate sink config state packet sequence payload with ha
  rcases hsend : sink.send state.transport
    (ackPacket stationLink packet.source packet.route sequence) with ⟨error | ⟨⟩, t'⟩
  · -- the transport refuses the acknowledgement
    rw [handleData_rejected stationLink sink.logged (TransportSink.logged_error hsend []) payload]
      at hcall
    have hfate : a = ⟨packet.source, packet.route, sequence, payload, false, none⟩ := by
      simp [ha, fate, hsend, Except.isOk, Except.toBool]
    have hstep : step sink state (.handleInbound packet)
        = ⟨state.endpoint, t', state.arrivals ++ [a]⟩ := by
      simp [step, hcall, arrivalOf, hdecode, hfate, Except.toOption]
    rw [hstep]
    refine ⟨rfl, h.concat h.config ?_ (by simp [hfate])⟩
    rw [deliveredKeys_concat, hfate, Option.isSome_none, if_neg Bool.false_ne_true, List.append_nil]
    exact h.remembers
  · obtain ⟨receiver, hconfig, hcases⟩ := handleData_accepted stationLink sink.logged h.remembers
      (TransportSink.logged_ok hsend []) payload
    rw [h.config] at hcases
    rcases hcases with ⟨hmem, hremembers, hdata⟩ | ⟨hnot, hremembers, hdata⟩
    · -- its key is remembered
      rw [hdata] at hcall
      have hfate : a = ⟨packet.source, packet.route, sequence, payload, true, none⟩ := by
        simp [ha, fate, hsend, hmem, Except.isOk, Except.toBool]
      have hstep : step sink state (.handleInbound packet)
          = ⟨{ state.endpoint with receiver := receiver }, t', state.arrivals ++ [a]⟩ := by
        simp [step, hcall, arrivalOf, hdecode, hfate, Except.toOption]
      rw [hstep]
      refine ⟨rfl, h.concat (hconfig.trans h.config) ?_ (by simp [hfate])⟩
      rw [deliveredKeys_concat, hfate, Option.isSome_none, if_neg Bool.false_ne_true,
        List.append_nil]
      exact hremembers
    · rw [hdata] at hcall
      have hfate : a = ⟨packet.source, packet.route, sequence, payload, true,
          some ⟨packet.source, packet.route, payload⟩⟩ := by
        simp [ha, fate, hsend, hnot, Except.isOk, Except.toBool]
      have hstep : step sink state (.handleInbound packet)
          = ⟨{ state.endpoint with receiver := receiver }, t', state.arrivals ++ [a]⟩ := by
        simp [step, hcall, arrivalOf, hdecode, hfate, Except.toOption]
      rw [hstep]
      refine ⟨rfl, h.concat (hconfig.trans h.config) ?_ (by simp [hfate])⟩
      rw [deliveredKeys_concat, hfate, Option.isSome_some, if_pos rfl]
      exact hremembers

lemma Recorded.of_eq (h : Recorded config state) {state' : State T}
    (harrivals : state'.arrivals = state.arrivals)
    (hreceiver : state'.endpoint.receiver = state.endpoint.receiver) : Recorded config state' where
  config := hreceiver ▸ h.config
  remembers := by
    rw [harrivals, hreceiver]
    exact h.remembers
  acknowledged := harrivals ▸ h.acknowledged

/-- Any other call leaves the arrivals and what the receiver remembers. -/
lemma step_other (h : Recorded config state) {op : Op}
    (hop : ∀ packet sequence payload, op = .handleInbound packet →
      ReliableFrame.decode stationLink.magic packet.bytes ≠ .ok (.data sequence payload)) :
    (step sink state op).arrivals = state.arrivals ∧ Recorded config (step sink state op) := by
  cases op with
  | handleInbound packet =>
      rcases hdecode : ReliableFrame.decode stationLink.magic packet.bytes with
        error | ⟨sequence, payload⟩ | ⟨sequence⟩
      · have harrivals : (step sink state (.handleInbound packet)).arrivals = state.arrivals := by
          simp [step, arrivalOf, hdecode]
        refine ⟨harrivals, h.of_eq harrivals ?_⟩
        rw [step, state.endpoint.handleInbound_undecodable sink.logged _ packet hdecode]
      · exact absurd hdecode (hop packet sequence payload rfl)
      · have harrivals : (step sink state (.handleInbound packet)).arrivals = state.arrivals := by
          simp [step, arrivalOf, hdecode]
        refine ⟨harrivals, h.of_eq harrivals ?_⟩
        rw [step, state.endpoint.handleInbound_ack sink.logged _ packet hdecode]
  | send packet nowTick => exact ⟨rfl, h.of_eq rfl rfl⟩
  | retryDue nowTick => exact ⟨rfl, h.of_eq rfl rfl⟩

/-! ## When the promise is kept -/

lemma deliversFirst_nil : DeliversFirst [] where
  first pre a post h := absurd h (by simp)
  onlyThen pre a post h := absurd h (by simp)
  once pre a post h := absurd h (by simp)

/-- One more arrival keeps the promise when it is delivered in case it is a first transmission, and
not delivered in case its frame was. -/
lemma deliversFirst_concat {arrivals : List Arrival} {a : Arrival} :
    DeliversFirst (arrivals ++ [a]) ↔ DeliversFirst arrivals ∧ (a.acknowledged = true →
      (∀ b ∈ arrivals, b.acknowledged = true → b.frame ≠ a.frame) →
        a.delivered = some a.inbound) ∧ (a.delivered.isSome = true →
      ∀ b ∈ arrivals, b.delivered.isSome = true → b.frame ≠ a.frame) := by
  have hsplit : ∀ {pre b post}, arrivals ++ [a] = pre ++ b :: post →
      (pre = arrivals ∧ b = a) ∨ ∃ post', arrivals = pre ++ b :: post' := by
    intro pre b post heq
    rcases List.eq_nil_or_concat post with rfl | ⟨post', last, rfl⟩
    · obtain ⟨rfl, hlast⟩ := List.append_inj' heq rfl
      exact .inl ⟨rfl, (List.singleton_inj.mp hlast).symm⟩
    · rw [List.concat_eq_append, ← List.cons_append, ← List.append_assoc] at heq
      exact .inr ⟨post', List.append_inj_left' heq rfl⟩
  have hextend : ∀ {pre b post}, arrivals = pre ++ b :: post →
      arrivals ++ [a] = pre ++ b :: (post ++ [a]) := by
    rintro pre b post rfl
    rw [List.append_assoc, List.cons_append]
  constructor
  · intro h
    exact ⟨⟨fun pre b post heq => h.first pre b _ (hextend heq),
      fun pre b post heq => h.onlyThen pre b _ (hextend heq),
      fun pre b post heq => h.once pre b _ (hextend heq)⟩,
      h.first arrivals a [] rfl, h.once arrivals a [] rfl⟩
  · rintro ⟨h, hlast, honce⟩
    constructor
    · intro pre b post heq
      rcases hsplit heq with ⟨rfl, rfl⟩ | ⟨post', heq'⟩
      · exact hlast
      · exact h.first pre b post' heq'
    · intro pre b post heq hack
      rcases hsplit heq with ⟨rfl, rfl⟩ | ⟨post', heq'⟩
      · by_cases hfirst : ∀ c ∈ pre, c.acknowledged = true → c.frame ≠ b.frame
        · exact ⟨b, List.mem_append_right _ (List.mem_singleton_self b), rfl, hlast hack hfirst⟩
        · -- the frame was acknowledged before, and delivered by then
          push Not at hfirst
          obtain ⟨c, hc, hcack, hframe⟩ := hfirst
          obtain ⟨before, after, rfl⟩ := List.append_of_mem hc
          obtain ⟨d, hd, hdframe, hdelivered⟩ := h.onlyThen before c after rfl hcack
          refine ⟨d, List.mem_append_left _ ?_, hdframe.trans hframe, hdelivered⟩
          rw [List.append_cons]
          exact List.mem_append_left _ hd
      · exact h.onlyThen pre b post' heq' hack
    · intro pre b post heq
      rcases hsplit heq with ⟨rfl, rfl⟩ | ⟨post', heq'⟩
      · exact honce
      · exact h.once pre b post' heq'

/-- The window of the delivered keys holds a key when it is that of a delivery of the window. -/
lemma mem_recent_deliveredKeys {max : ℕ} {arrivals : List Arrival} {source : StationId}
    {sequence : UInt64} :
    ⟨source, sequence⟩ ∈ recent max (deliveredKeys arrivals) ↔
      ∃ b ∈ recent max (arrivals.filter fun b => b.delivered.isSome),
        b.source = source ∧ b.sequence = sequence := by
  rw [deliveredKeys, recent_map, List.mem_map]
  refine exists_congr fun b => and_congr_right fun _ => ?_
  rw [Arrival.packetKey, PacketKey.mk.injEq]

/-- A remembered key of a first transmission is that of a frame for another target. -/
lemma mem_deliveredKeys_iff (h : Recorded config state) {source target : StationId}
    {sequence : UInt64} (hfirst : ∀ b ∈ state.arrivals, b.acknowledged = true →
      b.frame ≠ (source, target, sequence)) :
    ⟨source, sequence⟩ ∈ recent config.maxDeliveredHistory (deliveredKeys state.arrivals) ↔
      ∃ b ∈ recent config.maxDeliveredHistory (state.arrivals.filter fun b => b.delivered.isSome),
        b.source = source ∧ b.sequence = sequence ∧ b.target ≠ target := by
  rw [mem_recent_deliveredKeys]
  refine exists_congr fun b => and_congr_right fun hb => ?_
  constructor
  · rintro ⟨rfl, rfl⟩
    obtain ⟨hb, hdelivered⟩ := List.mem_filter.mp (List.mem_of_mem_drop hb)
    refine ⟨rfl, rfl, ?_⟩
    rintro rfl
    exact hfirst b hb (h.acknowledged b hb hdelivered) rfl
  · rintro ⟨rfl, rfl, -⟩
    exact ⟨rfl, rfl⟩

/-- A data frame that does not clash is delivered in case it is a first transmission. -/
lemma fate_delivered_iff (h : Recorded config state) (packet : StationInboundPacket)
    (sequence : UInt64) (payload : List UInt8)
    (hdecode : ReliableFrame.decode stationLink.magic packet.bytes = .ok (.data sequence payload)) :
    ((fate sink config state packet sequence payload).acknowledged = true →
      (∀ b ∈ state.arrivals, b.acknowledged = true →
        b.frame ≠ (fate sink config state packet sequence payload).frame) →
      (fate sink config state packet sequence payload).delivered
        = some (fate sink config state packet sequence payload).inbound)
      ↔ ¬ Clashes sink config state (.handleInbound packet) := by
  simp only [Clashes, hdecode]
  constructor
  · rintro hkeep ⟨hack, hfirst, hclash⟩
    have hdelivered := hkeep hack hfirst
    have hmem := (mem_deliveredKeys_iff h hfirst).mpr hclash
    rw [fate, if_neg fun hnot => hnot.2 hmem] at hdelivered
    cases hdelivered
  · intro hclash hack hfirst
    exact if_pos ⟨hack, fun hmem =>
      hclash ⟨hack, hfirst, (mem_deliveredKeys_iff h hfirst).mp hmem⟩⟩

/-- A data frame that does not return is not delivered in case it was. -/
lemma fate_once_iff (packet : StationInboundPacket) (sequence : UInt64) (payload : List UInt8)
    (hdecode : ReliableFrame.decode stationLink.magic packet.bytes = .ok (.data sequence payload)) :
    ((fate sink config state packet sequence payload).delivered.isSome = true →
      ∀ b ∈ state.arrivals, b.delivered.isSome = true →
        b.frame ≠ (fate sink config state packet sequence payload).frame)
      ↔ ¬ Returns sink config state (.handleInbound packet) := by
  simp only [Returns, hdecode]
  constructor
  · rintro hkeep ⟨hack, ⟨b, hb, hdelivered, hframe⟩, hgone⟩
    refine hkeep ?_ b hb hdelivered hframe
    have hnot : ⟨packet.source, sequence⟩ ∉
        recent config.maxDeliveredHistory (deliveredKeys state.arrivals) := by
      rw [mem_recent_deliveredKeys]
      rintro ⟨c, hc, hkey⟩
      exact hgone c hc hkey
    rw [fate, if_pos ⟨hack, hnot⟩, Option.isSome_some]
  · intro hreturns hsome b hb hdelivered hframe
    rw [fate] at hsome
    split_ifs at hsome with hfate
    · refine hreturns ⟨hfate.1, ⟨b, hb, hdelivered, hframe⟩, fun c hc hkey => ?_⟩
      exact hfate.2 (mem_recent_deliveredKeys.mpr ⟨c, hc, hkey⟩)
    · cases hsome

/-- **The step lemma.**  One call keeps the promise exactly when no frame clashes or returns. -/
lemma deliversFirst_step (h : Recorded config state) (op : Op) :
    DeliversFirst (step sink state op).arrivals ↔
      DeliversFirst state.arrivals
        ∧ ¬ Clashes sink config state op ∧ ¬ Returns sink config state op := by
  by_cases hop : ∃ packet sequence payload, op = .handleInbound packet ∧
    ReliableFrame.decode stationLink.magic packet.bytes = .ok (.data sequence payload)
  · obtain ⟨packet, sequence, payload, rfl, hdecode⟩ := hop
    rw [(step_data h hdecode).1, deliversFirst_concat]
    exact and_congr_right fun _ => and_congr (fate_delivered_iff h packet sequence payload hdecode)
      (fate_once_iff packet sequence payload hdecode)
  · push Not at hop
    rw [(step_other h hop).1]
    refine (and_iff_left ?_).symm
    cases op with
    | handleInbound packet =>
        rcases hdecode : ReliableFrame.decode stationLink.magic packet.bytes with
          error | ⟨sequence, payload⟩ | ⟨sequence⟩
        · simp only [Clashes, Returns, hdecode, not_false_eq_true, and_self]
        · exact absurd hdecode (hop packet sequence payload rfl)
        · simp only [Clashes, Returns, hdecode, not_false_eq_true, and_self]
    | send packet nowTick => exact ⟨id, id⟩
    | retryDue nowTick => exact ⟨id, id⟩

variable (sink) in
/-- **First transmissions.**  Over every run of a station endpoint, with any packets coming in and
any answers of the transport, the first transmission of every frame is delivered, once, and only
then acknowledged, exactly when no frame of the run clashes with a remembered one and none returns
after the history has forgotten it. -/
theorem deliversFirst_iff (config : ReliableConfig) (transport : T) (ops : List Op) :
    DeliversFirst (execute (step sink) (State.new config transport) ops).arrivals ↔
      AllSteps (step sink)
        (fun state op => ¬ Clashes sink config state op ∧ ¬ Returns sink config state op)
        (State.new config transport) ops := by
  have hinv : ∀ (state : State T) op, Recorded config state →
      Recorded config (step sink state op) := by
    intro state op h
    by_cases hop : ∃ packet sequence payload, op = .handleInbound packet ∧
      ReliableFrame.decode stationLink.magic packet.bytes = .ok (.data sequence payload)
    · obtain ⟨packet, sequence, payload, rfl, hdecode⟩ := hop
      exact (step_data h hdecode).2
    · push Not at hop
      exact (step_other h hop).2
  have hrun := execute_iff_allSteps (I := fun state => DeliversFirst state.arrivals) hinv
    (fun state op h => deliversFirst_step h op) (recorded_new config transport) ops
  exact hrun.trans (and_iff_right deliversFirst_nil)

/-! ## Two targets of one source -/

/-- The packets of a station that sends one payload to station 2 and one to station 3. -/
def twoTargets : List StationInboundPacket :=
  (execute (step TransportSink.scripted.logged) (State.new .default ([], []))
    [.send ⟨⟨1⟩, ⟨2⟩, [7]⟩ 0, .send ⟨⟨1⟩, ⟨3⟩, [8]⟩ 0]).transport.2.map
      fun packet => ⟨packet.origin, packet.peer, packet.bytes⟩

/-- An endpoint that hosts stations 2 and 3 acknowledges both packets and delivers only one. -/
theorem dropped_for_other_target :
    ¬ DeliversFirst (execute (step TransportSink.scripted) (State.new .default [])
      (twoTargets.map .handleInbound)).arrivals := by
  intro h
  have hfirst := h.first [⟨⟨1⟩, ⟨2⟩, 1, [7], true, some ⟨⟨1⟩, ⟨2⟩, [7]⟩⟩]
    ⟨⟨1⟩, ⟨3⟩, 1, [8], true, none⟩ [] (by decide) rfl (by decide)
  cases hfirst

end SectorSync.StationTargets
