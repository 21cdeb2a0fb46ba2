import SectorSync.Runtime.CommandExchange

/-!
# What clients are told about their commands

`Answers` is what every call of the exchange keeps of the hub and the log of the gateway's bridge,
`Decides` what it keeps of the gateway and the queues.  `commands_acknowledged` is what follows from
them for a whole run.
-/

namespace SectorSync.CommandExchange

open BoundedLoop Machine HubRun InMemoryTransportHub InMemoryTransportEndpoint

variable {Addr : Type} [DecidableEq Addr] {server : ClientId} {limits : ClientTransportLimits}

/-! ## The hub and the log -/

/-- What every call keeps of the hub, the log of the gateway's bridge and the clients. -/
structure Answers (server : ClientId) (limits : ClientTransportLimits) (net : HubRun Addr)
    (log : IngressLog Addr) (sent : List (ℕ × CommandFrame)) (shown : List (ℕ × CommandAckFrame)) :
    Prop where
  hub : HubRun.Invariant limits net
  sourced : ∀ entry ∈ net.accepted, entry.2.clientId ≠ none
  /-- The server sends nothing to itself. -/
  outward : ∀ entry ∈ net.accepted, entry.2.clientId = some server →
    entry.1 ≠ net.serials server
  taken : log.ingested.Sublist net.received
  /-- The bridge has taken all packets of the last registration of the server. -/
  complete : ofTag (net.serials server) log.ingested = ofTag (net.serials server) net.received
  decided : log.ingested.filterMap (fun entry => commandFrom entry.2)
    = log.decisions.map Decision.frame
  acked : carriedBy (ackFrom server) net.accepted = log.decisions.filterMap Decision.answer
  visited : carriedBy (ackFrom server) net.received = shown
  sent : sent.Sublist (carriedBy commandFrom net.accepted)
  numbered : ∀ answer ∈ log.decisions.filterMap Decision.answer, answer.1 ≤ net.registrations
  addressed : ∀ answer ∈ log.decisions.filterMap Decision.answer, ∀ clientId,
    net.serials clientId = answer.1 → clientId = answer.2.clientId

variable {net : HubRun Addr} {log : IngressLog Addr} {sent : List (ℕ × CommandFrame)}
  {shown : List (ℕ × CommandAckFrame)}

lemma answers_start (ledger : AdmissionLedger) :
    Answers server limits (.start limits : HubRun Addr) ⟨ledger, [], []⟩ [] [] where
  hub := invariant_start
  sourced _ h := absurd h List.not_mem_nil
  outward _ h := absurd h List.not_mem_nil
  taken := .slnil
  complete := rfl
  decided := rfl
  acked := rfl
  visited := rfl
  sent := .slnil
  numbered _ h := absurd h List.not_mem_nil
  addressed _ h := absurd h List.not_mem_nil

/-- Nothing was received for a registration that is yet to come. -/
lemma Answers.fresh (h : Answers server limits net log sent shown) {serial : ℕ}
    (hserial : net.registrations < serial) :
    ofTag serial net.received = [] ∧ ofTag serial log.ingested = [] := by
  have haccepted : packetsOf serial net.accepted = [] := packetsOf_eq_nil fun entry hentry => by
    have := h.hub.queues.logged entry hentry
    omega
  have hreceived : ofTag serial net.received = [] := by
    have hfifo := h.hub.queues.fifo serial
    rw [haccepted, List.prefix_nil] at hfifo
    exact hfifo
  have hingested : (ofTag serial log.ingested).Sublist (ofTag serial net.received) :=
    (h.taken.filter _).map _
  rw [hreceived, List.sublist_nil] at hingested
  exact ⟨hreceived, hingested⟩

/-- **Registration step.** -/
lemma Answers.register (h : Answers server limits net log sent shown) (clientId : ClientId)
    (addr : Addr) : Answers server limits (net.step (.register clientId addr)) log sent shown where
  hub := invariant_execute h.hub [.register clientId addr]
  sourced := h.sourced
  outward entry hentry hsource := by
    have hle := h.hub.queues.logged entry hentry
    dsimp only [HubRun.step]
    rw [Function.update_apply]
    split_ifs
    · omega
    · exact h.outward entry hentry hsource
  taken := h.taken
  complete := by
    obtain ⟨hreceived, hingested⟩ := h.fresh (Nat.lt_succ_self net.registrations)
    dsimp only [HubRun.step]
    rw [Function.update_apply]
    split_ifs
    · exact hingested.trans hreceived.symm
    · exact h.complete
  decided := h.decided
  acked := h.acked
  visited := h.visited
  sent := h.sent
  numbered answer hanswer := (h.numbered answer hanswer).trans (Nat.le_succ _)
  addressed answer hanswer clientId' hserial := by
    have hle := h.numbered answer hanswer
    dsimp only [HubRun.step] at hserial
    rw [Function.update_apply] at hserial
    split_ifs at hserial
    · omega
    · exact h.addressed answer hanswer clientId' hserial

/-- **Send step.**  The log goes on with decisions about the same commands. -/
lemma Answers.send (h : Answers server limits net log sent shown)
    (endpoint : InMemoryTransportEndpoint) (packet : OutboundPacket)
    (houtward : endpoint.localClientId = server → packet.clientId ≠ server)
    {decisions : List Decision}
    (hframes : log.decisions.map Decision.frame = decisions.map Decision.frame)
    (hacked : carriedBy (ackFrom server) (net.step (.send endpoint packet)).accepted
      = decisions.filterMap Decision.answer)
    (hanswers : ∀ answer ∈ decisions.filterMap Decision.answer,
      answer ∈ log.decisions.filterMap Decision.answer
        ∨ answer.1 = net.serials packet.clientId ∧ 0 < answer.1
          ∧ answer.2.clientId = packet.clientId)
    {more : List (ℕ × CommandFrame)}
    (hsent : (sent ++ more).Sublist
      (carriedBy commandFrom (net.step (.send endpoint packet)).accepted)) :
    Answers server limits (net.step (.send endpoint packet)) { log with decisions }
      (sent ++ more) shown := by
  have hnew : ∀ entry ∈ (net.step (.send endpoint packet)).accepted, entry ∈ net.accepted
      ∨ entry.1 = net.serials packet.clientId ∧ 0 < entry.1
        ∧ entry.2.clientId = some endpoint.localClientId := by
    intro entry hentry
    rcases send_cases h.hub endpoint packet with ⟨_, -, haccepted⟩ | ⟨-, hpos, addr, haccepted⟩
    · exact .inl (haccepted ▸ hentry)
    · rw [haccepted] at hentry
      rcases List.mem_append.mp hentry with hold | hlast
      · exact .inl hold
      · rw [List.mem_singleton.mp hlast]
        exact .inr ⟨rfl, hpos, rfl⟩
  refine ⟨h.hub.send endpoint packet, ?_, ?_, h.taken, h.complete, h.decided.trans hframes, hacked,
    h.visited, hsent, ?_, ?_⟩
  · intro entry hentry
    rcases hnew entry hentry with hold | ⟨-, -, hsource⟩
    · exact h.sourced entry hold
    · rw [hsource]
      exact Option.some_ne_none _
  · intro entry hentry hsource
    rcases hnew entry hentry with hold | ⟨hserial, hpos, hlocal⟩
    · exact h.outward entry hold hsource
    · intro hself
      refine houtward (Option.some.inj (hlocal.symm.trans hsource)) ?_
      exact h.hub.registry.serials_inj _ _ (hserial.symm.trans hself) (hserial ▸ hpos)
  · intro answer hanswer
    rcases hanswers answer hanswer with hold | ⟨hserial, -, -⟩
    · exact h.numbered answer hold
    · rw [hserial]
      exact h.hub.registry.serials_le _
  · intro answer hanswer clientId hclient
    rcases hanswers answer hanswer with hold | ⟨hserial, hpos, htarget⟩
    · exact h.addressed answer hold clientId hclient
    · rw [htarget]
      exact h.hub.registry.serials_inj _ _ (hclient.trans hserial) (hclient ▸ hpos)

/-- A packet that is no acknowledgement of the server. -/
lemma Answers.sendPlain (h : Answers server limits net log sent shown)
    (endpoint : InMemoryTransportEndpoint) (packet : OutboundPacket)
    (hplain : endpoint.localClientId ≠ server
      ∨ packet.clientId ≠ server ∧ ∀ ack, Wire.decoded packet.bytes ≠ .ok (.commandAck ack))
    {more : List (ℕ × CommandFrame)}
    (hsent : (sent ++ more).Sublist
      (carriedBy commandFrom (net.step (.send endpoint packet)).accepted)) :
    Answers server limits (net.step (.send endpoint packet)) log (sent ++ more) shown := by
  refine h.send endpoint packet (fun hserver => ?_) rfl ?_ (fun answer hanswer => .inl hanswer) hsent
  · rcases hplain with hother | ⟨hother, -⟩
    · exact absurd hserver hother
    · exact hother
  · rw [← h.acked]
    refine carriedBy_send_of_none h.hub fun addr => ?_
    rw [ackFrom]
    split
    · rename_i ack hdecoded
      rcases hplain with hother | ⟨-, hnoAck⟩
      · exact if_neg fun hsource => hother (Option.some.inj hsource)
      · exact absurd hdecoded (hnoAck ack)
    · rfl

/-- What was accepted stays accepted. -/
lemma Answers.sent_send (h : Answers server limits net log sent shown)
    (endpoint : InMemoryTransportEndpoint) (packet : OutboundPacket) :
    sent.Sublist (carriedBy commandFrom (net.step (.send endpoint packet)).accepted) := by
  rcases send_cases h.hub endpoint packet with ⟨_, -, haccepted⟩ | ⟨-, -, addr, haccepted⟩
  · rw [haccepted]
    exact h.sent
  · rw [haccepted, carriedBy_append]
    exact h.sent.trans (List.sublist_append_left _ _)

/-- **Ingress step.**  The bridge takes the first packet of the server's queue. -/
lemma Answers.ingest (h : Answers server limits net log sent shown) {token : Option UInt64}
    {client : InMemoryTransportClient Addr} {packet : InboundPacket Addr}
    {queue : List (InboundPacket Addr)} (hclient : net.hub.clients.get server = some client)
    (hqueue : client.queue = packet :: queue)
    (hreceived : (net.step (.tryRecv ⟨server, token⟩)).received
      = net.received ++ [(net.serials server, packet)])
    (ledger : AdmissionLedger) (decisions : List Decision)
    (hframes : (commandFrom packet).toList = decisions.map Decision.frame)
    (hunanswered : ∀ decision ∈ decisions, decision.answered = none) :
    Answers server limits (net.step (.tryRecv ⟨server, token⟩))
      ⟨ledger, log.ingested ++ [(net.serials server, packet)], log.decisions ++ decisions⟩ sent
      shown := by
  have hmem : (net.serials server, packet) ∈ net.accepted :=
    mem_accepted_of_queue h.hub hclient (hqueue ▸ List.mem_cons_self)
  have hother : ackFrom server packet = none := by
    rw [ackFrom]
    split
    · exact if_neg fun hsource => h.outward _ hmem hsource rfl
    · rfl
  have hanswers : (log.decisions ++ decisions).filterMap Decision.answer
      = log.decisions.filterMap Decision.answer := by
    have hnone : decisions.filterMap Decision.answer = [] := by
      refine List.filterMap_eq_nil_iff.mpr fun decision hdecision => ?_
      rw [Decision.answer, hunanswered decision hdecision, Option.map_none]
    rw [List.filterMap_append, hnone, List.append_nil]
  refine ⟨h.hub.tryRecv _, h.sourced, h.outward, ?_, ?_, ?_, ?_, ?_, h.sent, ?_, ?_⟩
  · rw [hreceived]
    exact h.taken.append (List.Sublist.refl _)
  · show ofTag (net.serials server) (log.ingested ++ _) = ofTag (net.serials server) _
    rw [hreceived, ofTag_append, ofTag_append, h.complete]
  · dsimp only
    rw [List.filterMap_append, List.map_append, h.decided, ← hframes]
    cases hcommand : commandFrom packet <;> simp [hcommand]
  · exact h.acked.trans hanswers.symm
  · rw [hreceived, carriedBy_append, carriedBy_singleton, hother, h.visited]
    exact List.append_nil _
  · rw [hanswers]
    exact h.numbered
  · rw [hanswers]
    exact h.addressed

/-- **Answer step.**  The acknowledgement of the last decision is sent to its client. -/
lemma Answers.answer {ledger : AdmissionLedger} {ingested : List (ℕ × InboundPacket Addr)}
    {decisions : List Decision} {decision : Decision}
    (h : Answers server limits net ⟨ledger, ingested, decisions ++ [decision]⟩ sent shown)
    (hunanswered : decision.answered = none) (token : Option UInt64) {bytes : List UInt8}
    (hdecoded : Wire.decoded bytes = .ok (.commandAck decision.ack))
    (hother : decision.frame.clientId ≠ server)
    (hbytes : decision.report.ackBytes = some bytes) :
    Answers server limits (net.step (.send ⟨server, token⟩ ⟨(), decision.frame.clientId, bytes⟩))
      ⟨ledger, ingested, decisions ++ [{ decision with
        answered := answeredTo ⟨server, token⟩ net decision.frame.clientId decision.report }]⟩
      sent shown := by
  have hold : (decisions ++ [decision]).filterMap Decision.answer
      = decisions.filterMap Decision.answer := by
    rw [List.filterMap_append, List.filterMap_cons_none (by rw [Decision.answer, hunanswered]; rfl)]
    exact List.append_nil _
  have hsent := h.sent_send ⟨server, token⟩ ⟨(), decision.frame.clientId, bytes⟩
  rw [← List.append_nil sent] at hsent ⊢
  have hacked : carriedBy (ackFrom server) net.accepted = decisions.filterMap Decision.answer :=
    h.acked.trans hold
  rcases send_cases h.hub ⟨server, token⟩ ⟨(), decision.frame.clientId, bytes⟩ with
    ⟨error, herror, haccepted⟩ | ⟨hok, hpos, addr, haccepted⟩
  · have hnone : answeredTo ⟨server, token⟩ net decision.frame.clientId decision.report = none := by
      rw [answeredTo, hbytes, Option.bind_some, herror, if_neg (by simp)]
    rw [hnone]
    refine h.send _ _ (fun _ => hother) ?_ ?_ (fun answer hanswer => .inl ?_) hsent
    · rw [List.map_append, List.map_append]
      rfl
    · rw [haccepted, hacked, List.filterMap_append, List.filterMap_cons_none rfl]
      exact (List.append_nil _).symm
    · rw [List.filterMap_append, List.filterMap_cons_none rfl] at hanswer
      rw [hold]
      simpa using hanswer
  · have hsome : answeredTo ⟨server, token⟩ net decision.frame.clientId decision.report
        = some (net.serials decision.frame.clientId) := by
      rw [answeredTo, hbytes, Option.bind_some, hok, if_pos rfl]
    rw [hsome]
    refine h.send _ _ (fun _ => hother) ?_ ?_ (fun answer hanswer => ?_) hsent
    · rw [List.map_append, List.map_append]
      rfl
    · have hack : ackFrom server (⟨some server, addr, bytes⟩ : InboundPacket Addr)
          = some decision.ack := by
        rw [ackFrom, hdecoded]
        exact if_pos rfl
      rw [haccepted, carriedBy_append, carriedBy_singleton, hacked, List.filterMap_append, hack]
      rfl
    · rw [List.filterMap_append] at hanswer
      rcases List.mem_append.mp hanswer with hanswer | hanswer
      · exact .inl (hold ▸ hanswer)
      · obtain rfl := List.mem_singleton.mp hanswer
        exact .inr ⟨rfl, hpos, rfl⟩

/-! ## The gateway and the queues -/

/-- What every call keeps of the gateway, the queues and the decisions. -/
structure Decides (gateway : GatewaySessionTable) (ledger : AdmissionLedger)
    (decisions : List Decision) (stationQueues : StationQueues)
    (popped dropped : List (StationId × CommandEnvelope)) : Prop where
  files : AdmissionRun.Files ⟨gateway, ledger⟩
  /-- What was queued was admitted. -/
  admitted : ((decisions.filter fun decision => decision.report.accepted).map
    Decision.admission).Sublist ledger.admitted
  keyed : ∀ decision ∈ decisions, decision.admission.clientId = decision.frame.clientId
    ∧ decision.admission.sequence = decision.frame.sequence
  placed : ∀ decision ∈ decisions, decision.report.accepted = true →
    decision.report.stationId ≠ none
  queues : stationQueues.Balances (decisions.filterMap Decision.queued) popped dropped

section Deciding

variable {gateway : GatewaySessionTable} {ledger : AdmissionLedger} {decisions : List Decision}
  {stationQueues : StationQueues} {popped dropped : List (StationId × CommandEnvelope)}

lemma decides_start (config : GatewayConfig) :
    Decides (.new config) .empty [] ∅ [] [] where
  files := AdmissionRun.files_new config
  admitted := .slnil
  keyed _ h := absurd h List.not_mem_nil
  placed _ h := absurd h List.not_mem_nil
  queues station := by simp [StationQueues.held]

/-- Any operation of the gateway table. -/
lemma Decides.operate (h : Decides gateway ledger decisions stationQueues popped dropped)
    (op : GatewayOp) :
    Decides (gateway.step op) (ledger.record (gateway.event op)) decisions stationQueues popped
      dropped where
  files := h.files.step op
  admitted := h.admitted.trans (ledger.admitted_record _)
  keyed := h.keyed
  placed := h.placed
  queues := h.queues

/-- **Decision step.**  A command that is accepted was admitted and is in the queues. -/
lemma Decides.decide (h : Decides gateway ledger decisions stationQueues popped dropped)
    {frame : CommandFrame} {now : Tick} {ingress : CommandIngress}
    {outcome : GatewayPipelineOutcome}
    (hprocesses : GatewayCommandPipeline.Processes gateway stationQueues frame now ingress outcome)
    (answered : Option ℕ) :
    Decides outcome.gateway
      (ledger.record (gateway.event (.admitSequence frame.clientId frame.sequence now)))
      (decisions
        ++ [⟨frame, now, ledger.key frame.clientId frame.sequence, outcome.report, answered⟩])
      outcome.stationQueues popped dropped := by
  have hgateway : gateway.step (.admitSequence frame.clientId frame.sequence now)
      = outcome.gateway := by
    cases hprocesses with
    | unadmitted hgateway | unqueued hgateway | queued hgateway =>
        rw [GatewaySessionTable.step, hgateway]
  have hnext := h.operate (.admitSequence frame.clientId frame.sequence now)
  rw [hgateway] at hnext
  have hkeyed : ∀ decision ∈ decisions
      ++ [⟨frame, now, ledger.key frame.clientId frame.sequence, outcome.report, answered⟩],
      decision.admission.clientId = decision.frame.clientId
        ∧ decision.admission.sequence = decision.frame.sequence := by
    intro decision hdecision
    rcases List.mem_append.mp hdecision with hold | hnew
    · exact h.keyed decision hold
    · rw [List.mem_singleton.mp hnew]
      exact ⟨rfl, rfl⟩
  by_cases haccepted : outcome.report.accepted = true
  · cases hprocesses with
    | unadmitted _ _ hrefused | unqueued _ _ hrefused =>
        rw [hrefused] at haccepted
        cases haccepted
    | @queued admission queue queue' pushed hadmission hqueue hpush hqueues _ hstation =>
        have hevent : gateway.event (.admitSequence frame.clientId frame.sequence now)
            = .admitted frame.clientId frame.sequence now := by
          simp only [GatewaySessionTable.event, hadmission, admissionEvent]
        refine ⟨hnext.files, ?_, hkeyed, ?_, ?_⟩
        · rw [hevent, List.filter_append, List.map_append]
          refine h.admitted.append ?_
          simp [haccepted]
        · intro decision hdecision _
          rcases List.mem_append.mp hdecision with hold | hnew
          · exact h.placed decision hold ‹_›
          · rw [List.mem_singleton.mp hnew]
            exact hstation ▸ Option.some_ne_none _
        · have hchange := h.queues.change hqueue [frame.intoEnvelope now] [] []
            (by simpa using (all_push hpush).symm)
          rw [hqueues, List.filterMap_append, List.filterMap_cons_some (b := (_, _))
            (by rw [Decision.queued, if_pos haccepted, hstation]; rfl)]
          simpa using hchange
  · have hsame : ∀ id, outcome.stationQueues.lookup id = stationQueues.lookup id := by
      cases hprocesses with
      | unadmitted _ hqueues | unqueued _ hqueues => exact hqueues
      | queued _ _ _ _ htaken => exact absurd htaken haccepted
    refine ⟨hnext.files, ?_, hkeyed, ?_, ?_⟩
    · simpa [List.filter_append, haccepted] using hnext.admitted
    · intro decision hdecision htaken
      rcases List.mem_append.mp hdecision with hold | hnew
      · exact h.placed decision hold htaken
      · rw [List.mem_singleton.mp hnew] at htaken
        exact absurd htaken haccepted
    · rw [List.filterMap_append, List.filterMap_cons_none
        (by rw [Decision.queued, if_neg haccepted]), List.filterMap_nil, List.append_nil]
      exact h.queues.congr hsame

end Deciding

/-! ## The pump of the gateway -/

/-- What every call keeps of the gateway's side. -/
structure Keeps (server : ClientId) (limits : ClientTransportLimits)
    (state : GatewayIngress (HubRun Addr)) (log : IngressLog Addr) (sent : List (ℕ × CommandFrame))
    (shown : List (ℕ × CommandAckFrame)) (popped dropped : List (StationId × CommandEnvelope)) :
    Prop where
  answers : Answers server limits state.transport log sent shown
  decides : Decides state.gateway log.ledger log.decisions state.stationQueues popped dropped

section Pumps

variable {state : GatewayIngress (HubRun Addr)}
  {popped dropped : List (StationId × CommandEnvelope)}

/-- **Pass step.**  A pass of the gateway's bridge does what the log says, and never panics. -/
lemma Keeps.pass (h : Keeps server limits state log sent shown popped dropped)
    (token : Option UInt64) (now : Tick) (ingress : CommandIngress)
    (pump : GatewayClientTransportPump) :
    ∃ pass, GatewayIngress.ingressPass (hubClient ⟨server, token⟩) now ingress state pump
        = some pass
      ∧ Keeps server limits pass.kept (log.observe ⟨server, token⟩ now ingress state) sent shown
        popped dropped := by
  have hcases := state.transport.recv_cases ⟨server, token⟩
  have hsourced : ∀ packet, ((hubClient ⟨server, token⟩).tryRecv state.transport).1
      = .ok (some packet) → packet.clientId ≠ none := by
    intro packet hpacket
    rcases hcases with ⟨hidle, -⟩ | ⟨client, first, queue, hclient, hqueue, hrecv, -⟩
    · exact absurd hpacket (hidle packet)
    · obtain rfl : first = packet := by simpa using hrecv.symm.trans hpacket
      exact h.answers.sourced _ (mem_accepted_of_queue h.answers.hub hclient
        (hqueue ▸ List.mem_cons_self))
  obtain ⟨pass, hpass, hingests⟩ := GatewayIngress.exists_ingests
    (hubClient ⟨server, token⟩) now ingress hsourced pump
  refine ⟨pass, hpass, ?_⟩
  generalize pass.kept = kept at hingests
  rcases hcases with ⟨hidle, hsame⟩ | ⟨client, packet, queue, hclient, hqueue, hrecv, hreceived⟩
  · cases hingests with
    | @idle transport _ htransport =>
        have hlog : log.observe ⟨server, token⟩ now ingress state = log := by
          rw [IngressLog.observe]
          split
          · rename_i packet hpacket
            exact absurd hpacket (hidle packet)
          · rfl
        obtain rfl : transport = state.transport := htransport.trans hsame
        rw [hlog]
        exact h
    | refused hpacket | unanswered hpacket | answered hpacket =>
        exact absurd (Prod.mk.inj hpacket).1 (hidle _)
  · have hanswers := h.answers.ingest hclient hqueue hreceived
    cases hingests with
    | idle hnone => exact absurd hrecv (hnone packet)
    | @refused packet' transport hpacket hcommand stats pipeline =>
        obtain ⟨hfirst, rfl⟩ := Prod.mk.inj hpacket
        obtain rfl : packet = packet' := by simpa using hrecv.symm.trans hfirst
        have hlog : log.observe ⟨server, token⟩ now ingress state
            = ⟨log.ledger, log.ingested ++ [(state.transport.serials server, packet)],
              log.decisions ++ []⟩ := by
          simp only [IngressLog.observe, hrecv, hcommand, List.append_nil]
        rw [hlog]
        refine ⟨hanswers _ _ (by rw [hcommand]; rfl) (by simp), ?_⟩
        dsimp only
        rw [List.append_nil]
        exact h.decides
    | @unanswered packet' transport frame outcome hpacket hcommand houtcome hsilent stats =>
        obtain ⟨hfirst, rfl⟩ := Prod.mk.inj hpacket
        obtain rfl : packet = packet' := by simpa using hrecv.symm.trans hfirst
        have hprocesses := GatewayCommandPipeline.processes
          (state.pipeline.decodeCommandFrame packet.bytes).2 state.gateway state.stationQueues
          frame now ingress
        rw [← GatewayIngress.outcomeOf, ← houtcome] at hprocesses
        have hlog : log.observe ⟨server, token⟩ now ingress state
            = ⟨log.ledger.record
                (state.gateway.event (.admitSequence frame.clientId frame.sequence now)),
              log.ingested ++ [(state.transport.serials server, packet)],
              log.decisions ++ [⟨frame, now, log.ledger.key frame.clientId frame.sequence,
                outcome.report, none⟩]⟩ := by
          simp only [IngressLog.observe, hrecv, hcommand, ← houtcome, answeredTo, hsilent,
            Option.bind_none]
        rw [hlog]
        exact ⟨hanswers _ _ (by rw [hcommand]; rfl) (by simp),
          h.decides.decide hprocesses.1 none⟩
    | @answered packet' transport frame outcome bytes hpacket hcommand houtcome hack stats =>
        obtain ⟨hfirst, rfl⟩ := Prod.mk.inj hpacket
        obtain rfl : packet = packet' := by simpa using hrecv.symm.trans hfirst
        have hprocesses := GatewayCommandPipeline.processes
          (state.pipeline.decodeCommandFrame packet.bytes).2 state.gateway state.stationQueues
          frame now ingress
        rw [← GatewayIngress.outcomeOf, ← houtcome] at hprocesses
        have hlog : log.observe ⟨server, token⟩ now ingress state
            = ⟨log.ledger.record
                (state.gateway.event (.admitSequence frame.clientId frame.sequence now)),
              log.ingested ++ [(state.transport.serials server, packet)],
              log.decisions ++ [⟨frame, now, log.ledger.key frame.clientId frame.sequence,
                outcome.report, answeredTo ⟨server, token⟩
                  (state.transport.step (.tryRecv ⟨server, token⟩)) frame.clientId
                  outcome.report⟩]⟩ := by
          simp only [IngressLog.observe, hrecv, hcommand, ← houtcome]
        have hother : frame.clientId ≠ server := by
          rintro rfl
          exact h.answers.outward _ (mem_accepted_of_queue h.answers.hub hclient
            (hqueue ▸ List.mem_cons_self)) (clientId_of_commandFrom hcommand) rfl
        have hunanswered := hanswers
          (log.ledger.record (state.gateway.event (.admitSequence frame.clientId frame.sequence now)))
          [⟨frame, now, log.ledger.key frame.clientId frame.sequence, outcome.report, none⟩]
          (by rw [hcommand]; rfl) (by simp)
        rw [hlog]
        exact ⟨hunanswered.answer rfl token (hprocesses.2 bytes hack) hother hack,
          h.decides.decide hprocesses.1 _⟩

/-- **Ingress step.**  Both calls of the gateway's bridge do what the log says, and never panic. -/
lemma Keeps.pump (h : Keeps server limits state log sent shown popped dropped)
    (token : Option UInt64) (now : Tick) (ingress : CommandIngress) (maxPackets : ℕ) :
    ∃ result summary state',
      GatewayIngress.pumpIngress (hubClient ⟨server, token⟩) now ingress maxPackets state
          = some (result, state')
        ∧ GatewayIngress.pumpIngressCompact (hubClient ⟨server, token⟩) now ingress maxPackets state
          = some (summary, state')
        ∧ Keeps server limits state' (observedLog ⟨server, token⟩ now ingress maxPackets state log)
          sent shown popped dropped := by
  obtain ⟨⟨result, state'⟩, log', hrun, hobserved, hkeeps⟩ := observed_invariant
    (IngressLog.observe ⟨server, token⟩ now ingress)
    (I := fun state log => Keeps server limits state log sent shown popped dropped)
    (fun _ _ pump hkept => hkept.pass token now ingress pump) maxPackets h .default
  obtain ⟨left, right, hleft, hright, halike⟩ := loopWithin_alike (fun state _ _ hsummarizes =>
    GatewayIngress.ingressPass_alike (hubClient ⟨server, token⟩) now ingress state hsummarizes)
    maxPackets state GatewayIngress.summarizes_default
  have hlog : observedLog ⟨server, token⟩ now ingress maxPackets state log = log' := by
    rw [observedLog, hobserved]
    rfl
  obtain rfl : (result, state') = left := Option.some.inj (hrun.symm.trans hleft)
  rw [hlog]
  cases halike with
  | ok => exact ⟨_, _, state', hrun, hright, hkeeps⟩
  | error => exact ⟨_, _, state', hrun, hright, hkeeps⟩

end Pumps

/-! ## The clients -/

/-- **Command step.**  A command that a client has sent is in the queue of the server. -/
lemma Answers.command (h : Answers server limits net log sent shown) {clientId : ClientId}
    (hclient : clientId ≠ server) (token : Option UInt64) {bridge : ClientTransportBridge}
    (hconfig : bridge.config = ⟨clientId, server, some server⟩) (frame : CommandFrame) :
    ∃ result bridge' net',
      bridge.sendCommandFrame (hubSink ⟨clientId, token⟩) net frame = (result, bridge', net')
        ∧ bridge'.config = ⟨clientId, server, some server⟩
        ∧ Answers server limits net' log (sent ++ match result with
          | .ok _ => [(net.serials server, frame)]
          | .error _ => []) shown := by
  rcases bridge.sendCommandFrame_cases (hubSink ⟨clientId, token⟩) net frame with
    ⟨error, hrefused⟩ | ⟨bytes, htarget, hdecoded, result, bridge', hsend, hbridge, hresult⟩
  · refine ⟨_, _, _, hrefused, hconfig, ?_⟩
    rw [List.append_nil]
    exact h
  · rw [hconfig] at htarget hsend hbridge hresult
    refine ⟨result, bridge', _, hsend, hbridge, ?_⟩
    refine h.sendPlain ⟨clientId, token⟩ ⟨(), server, bytes⟩ (.inl hclient) ?_
    cases result with
    | error error =>
        rw [List.append_nil]
        exact h.sent_send ⟨clientId, token⟩ ⟨(), server, bytes⟩
    | ok report =>
        have hok := hresult.mp ⟨report, rfl⟩
        rcases send_cases h.hub ⟨clientId, token⟩ ⟨(), server, bytes⟩ with
          ⟨error, herror, -⟩ | ⟨-, -, addr, haccepted⟩
        · cases herror.symm.trans hok
        · have hcommand : commandFrom (⟨some clientId, addr, bytes⟩ : InboundPacket Addr)
              = some frame := by
            rw [commandFrom, hdecoded]
            exact if_pos (congrArg some htarget.symm)
          rw [haccepted, carriedBy_append, carriedBy_singleton, hcommand]
          exact h.sent.append (List.Sublist.refl _)

/-- What other code does. -/
lemma Answers.foreign (h : Answers server limits net log sent shown) {op : HubRun.Op Addr}
    (hop : op.Plain server) : Answers server limits (net.step op) log sent shown := by
  cases op with
  | register clientId addr => exact h.register clientId addr
  | unregister clientId =>
      exact ⟨invariant_execute h.hub [.unregister clientId], h.sourced, h.outward, h.taken,
        h.complete, h.decided, h.acked, h.visited, h.sent, h.numbered, h.addressed⟩
  | send endpoint packet =>
      have hsent := h.sent_send endpoint packet
      rw [← List.append_nil sent] at hsent ⊢
      exact h.sendPlain endpoint packet hop hsent
  | tryRecv endpoint => exact hop.elim

/-- An acknowledgement that waits for a client is about a command of this client. -/
lemma Answers.head (h : Answers server limits net log sent shown) {clientId : ClientId}
    {client : InMemoryTransportClient Addr} (hclient : net.hub.clients.get clientId = some client)
    {packet : InboundPacket Addr} (hpacket : packet ∈ client.queue) {ack : CommandAckFrame}
    (hack : ackFrom server packet = some ack) : ack.clientId = clientId := by
  have hmem : (net.serials clientId, ack) ∈ carriedBy (ackFrom server) net.accepted :=
    mem_carriedBy (mem_accepted_of_queue h.hub hclient hpacket) hack
  rw [h.acked] at hmem
  exact (h.addressed _ hmem clientId rfl).symm

/-- **Visit step.**  A client takes the first packet of its queue. -/
lemma Answers.visit (h : Answers server limits net log sent shown) {clientId : ClientId}
    (hother : clientId ≠ server) {token : Option UInt64} {client : InMemoryTransportClient Addr}
    {packet : InboundPacket Addr} (hclient : net.hub.clients.get clientId = some client)
    (hreceived : (net.step (.tryRecv ⟨clientId, token⟩)).received
      = net.received ++ [(net.serials clientId, packet)]) :
    Answers server limits (net.step (.tryRecv ⟨clientId, token⟩)) log sent
      (shown ++ (ackFrom server packet).toList.map (net.serials clientId, ·)) := by
  have hserial : net.serials clientId ≠ net.serials server := fun hsame =>
    hother (h.hub.registry.serials_inj _ _ hsame (h.hub.registry.numbered _ _ hclient))
  refine ⟨h.hub.tryRecv _, h.sourced, h.outward, ?_, ?_, h.decided, h.acked, ?_, h.sent, h.numbered,
    h.addressed⟩
  · rw [hreceived]
    exact h.taken.trans (List.sublist_append_left _ _)
  · show ofTag (net.serials server) log.ingested = ofTag (net.serials server) _
    have hnone : ofTag (net.serials server) [(net.serials clientId, packet)] = [] := by
      rw [ofTag_cons, if_neg hserial, ofTag_nil]
    rw [hreceived, ofTag_append, hnone, List.append_nil, h.complete]
  · rw [hreceived, carriedBy_append, carriedBy_singleton, h.visited]

/-- What a call of a client's bridge keeps. -/
structure Receiving (server : ClientId) (limits : ClientTransportLimits) (before : HubRun Addr)
    (clientId : ClientId) (log : IngressLog Addr) (sent : List (ℕ × CommandFrame))
    (shown : List (ℕ × CommandAckFrame))
    (kept : HubRun Addr × ClientTransportBridge × List ClientInboundFrameRef) : Prop where
  answers : Answers server limits kept.1 log sent (shown
    ++ (kept.2.2.filterMap ClientInboundFrameRef.commandAck?).map (before.serials clientId, ·))
  serials : kept.1.serials = before.serials
  bridge : kept.2.1.config = ⟨clientId, server, some server⟩

/-- **Packet step.**  A pass shows the acknowledgement of the packet that it takes, and never
panics. -/
lemma Receiving.pass {before : HubRun Addr} {clientId : ClientId}
    {kept : HubRun Addr × ClientTransportBridge × List ClientInboundFrameRef}
    (h : Receiving server limits before clientId log sent shown kept) (hother : clientId ≠ server)
    (token : Option UInt64) (fails : ClientInboundFrameRef → Bool)
    (report : ClientTransportVisitReport) :
    ∃ pass, (ClientTransportBridge.visiting (hubReceiver ⟨clientId, token⟩)
        (failingRecorder fails)).pass kept report = some pass
      ∧ Receiving server limits before clientId log sent shown pass.kept := by
  obtain ⟨net, bridge, frames⟩ := kept
  obtain ⟨hanswers, hserials, hbridge⟩ := h
  dsimp only at hanswers hserials hbridge
  rcases net.recv_cases ⟨clientId, token⟩ with
    ⟨hidle, hsame⟩ | ⟨client, packet, queue, hclient, hqueue, hrecv, hreceived⟩
  · obtain ⟨pass, hpass, hkept⟩ := (ClientTransportBridge.visiting
      (hubReceiver ⟨clientId, token⟩) (failingRecorder fails)).pass_of_idle (net, bridge, frames)
        report rfl (Pump.Visiting.mapError_ne_some hidle _)
    refine ⟨pass, hpass, ?_⟩
    rw [hkept]
    show Receiving _ _ _ _ _ _ _ (net.step (.tryRecv ⟨clientId, token⟩), bridge, frames)
    rw [hsame]
    exact ⟨hanswers, hserials, hbridge⟩
  · have hitem : (ClientTransportBridge.visiting (hubReceiver ⟨clientId, token⟩)
        (failingRecorder fails)).recv net
          = (.ok (some packet), net.step (.tryRecv ⟨clientId, token⟩)) := by
      simp only [ClientTransportBridge.visiting, hubReceiver, hrecv]
      rfl
    have hsource : bridge.config.expectedSource = some server := by rw [hbridge]
    have hack : ∀ ack, ackFrom server packet = some ack →
        ack.clientId = bridge.config.clientId := fun ack hack => by
      rw [hbridge]
      exact hanswers.head hclient (hqueue ▸ List.mem_cons_self) hack
    obtain ⟨result, bridge', frames', hvisit, hconfig, hacks⟩ :=
      ClientTransportBridge.visitPacket_acks (E := InMemoryTransportError) hsource hack fails
        frames report
    obtain ⟨pass, hpass, hkept⟩ := Pump.Visiting.pass_of_item _ (net, bridge, frames) report
      hitem hvisit
    refine ⟨pass, hpass, ?_⟩
    rw [hkept]
    refine ⟨?_, hserials, hconfig.trans hbridge⟩
    have hvisited := hanswers.visit hother hclient hreceived
    rw [hserials, List.append_assoc, ← List.map_append, ← hacks] at hvisited
    exact hvisited

/-- **Receive step.**  A call of a client's bridge shows the acknowledgements of the packets that it
takes, and never panics. -/
lemma Answers.pump (h : Answers server limits net log sent shown) {clientId : ClientId}
    (hother : clientId ≠ server) {bridge : ClientTransportBridge}
    (hconfig : bridge.config = ⟨clientId, server, some server⟩) (token : Option UInt64)
    (maxPackets : ℕ) (fails : ClientInboundFrameRef → Bool) :
    ∃ result net' bridge' frames,
      bridge.pumpVisitor (hubReceiver ⟨clientId, token⟩) (failingRecorder fails) net maxPackets []
        = some (result, net', bridge', frames)
      ∧ Receiving server limits net clientId log sent shown (net', bridge', frames) := by
  have hstart : Receiving server limits net clientId log sent shown (net, bridge, []) := by
    refine ⟨?_, rfl, hconfig⟩
    rw [List.filterMap_nil, List.map_nil, List.append_nil]
    exact h
  obtain ⟨⟨result, net', bridge', frames⟩, hrun, hkept⟩ := loopWithin_invariant
    (fun kept report hkept => hkept.pass hother token fails report) maxPackets hstart .default
  exact ⟨result, net', bridge', frames, hrun, hkept⟩

/-! ## The invariant of a run -/

/-- What every step keeps. -/
structure Invariant (server : ClientId) (limits : ClientTransportLimits)
    (run : CommandExchange Addr) : Prop where
  keeps : Keeps server limits run.ingress run.log run.sent run.shown run.popped run.dropped
  clients : ∀ clientId, (run.clients clientId).config = ⟨clientId, server, some server⟩

lemma invariant_start (config : GatewayConfig) (pipelineConfig : GatewayCommandPipelineConfig) :
    Invariant server limits (start server limits config pipelineConfig : CommandExchange Addr) where
  keeps := ⟨answers_start .empty, decides_start config⟩
  clients _ := rfl

/-- The bridges of the clients keep their configurations. -/
lemma Invariant.update {run : CommandExchange Addr} (h : Invariant server limits run)
    {clientId : ClientId} {bridge : ClientTransportBridge}
    (hbridge : bridge.config = ⟨clientId, server, some server⟩) (clientId' : ClientId) :
    (Function.update run.clients clientId bridge clientId').config
      = ⟨clientId', server, some server⟩ := by
  rw [Function.update_apply]
  split_ifs with heq
  · rw [heq]
    exact hbridge
  · exact h.clients clientId'

/-- **Step lemma.** -/
lemma Invariant.step {run : CommandExchange Addr} (h : Invariant server limits run)
    (op : Op Addr server) : Invariant server limits (run.step server op) := by
  obtain ⟨hanswers, hdecides⟩ := h.keeps
  cases op with
  | gateway op =>
      refine ⟨⟨?_, hdecides.operate op⟩, h.clients⟩
      exact ⟨hanswers.hub, hanswers.sourced, hanswers.outward, hanswers.taken, hanswers.complete,
        hanswers.decided, hanswers.acked, hanswers.visited, hanswers.sent, hanswers.numbered,
        hanswers.addressed⟩
  | queues op =>
      refine ⟨⟨hanswers, ?_⟩, h.clients⟩
      exact { hdecides with
        queues := QueueRun.balances_step ⟨run.ingress.stationQueues, run.popped, run.dropped⟩
          hdecides.queues op }
  | sendCommand clientId hclient token frame =>
      obtain ⟨result, bridge, net, hsend, hbridge, hsent⟩ :=
        hanswers.command hclient token (h.clients clientId) frame
      simp only [CommandExchange.step, hsend]
      exact ⟨⟨hsent, hdecides⟩, h.update hbridge⟩
  | pumpIngress token now ingress maxPackets =>
      obtain ⟨_, _, state, hpump, -, hkeeps⟩ := h.keeps.pump token now ingress maxPackets
      simp only [CommandExchange.step, hpump]
      exact ⟨hkeeps, h.clients⟩
  | pumpIngressCompact token now ingress maxPackets =>
      obtain ⟨_, _, state, -, hpump, hkeeps⟩ := h.keeps.pump token now ingress maxPackets
      simp only [CommandExchange.step, hpump]
      exact ⟨hkeeps, h.clients⟩
  | receive clientId hclient token maxPackets fails =>
      obtain ⟨_, net, bridge, frames, hpump, hkept⟩ :=
        hanswers.pump hclient (h.clients clientId) token maxPackets fails
      simp only [CommandExchange.step, hpump]
      exact ⟨⟨hkept.answers, hdecides⟩, h.update hkept.bridge⟩
  | foreign op hop => exact ⟨⟨hanswers.foreign hop, hdecides⟩, h.clients⟩

/-! ## What clients are told -/

/-- The acknowledgements that were sent to a registration: those that were not shown wait in the
queue of the client while it is registered, and all are about commands of this client. -/
structure Answered (server : ClientId) (run : CommandExchange Addr) (serial : ℕ)
    (waiting : List CommandAckFrame) : Prop where
  answers : ofTag serial (run.log.decisions.filterMap Decision.answer)
    = ofTag serial run.shown ++ waiting
  waits : ∀ clientId client, run.ingress.transport.hub.clients.get clientId = some client →
    run.ingress.transport.serials clientId = serial →
    client.queue.filterMap (ackFrom server) = waiting
      ∧ ∀ ack ∈ ofTag serial run.shown ++ waiting, ack.clientId = clientId

/-- What a run has done with the commands. -/
structure Acknowledged (server : ClientId) (run : CommandExchange Addr) : Prop where
  /-- A command that a client has sent was accepted into the queue of the server. -/
  sent : run.sent.Sublist (carriedBy commandFrom run.ingress.transport.accepted)
  /-- The gateway has decided on the commands that it took, in their order. -/
  decided : run.log.ingested.filterMap (fun entry => commandFrom entry.2)
    = run.log.decisions.map Decision.frame
  /-- The commands that it has not taken wait in the queue of the server. -/
  waits : ∀ client, run.ingress.transport.hub.clients.get server = some client →
    ofTag (run.ingress.transport.serials server)
        (carriedBy commandFrom run.ingress.transport.accepted)
      = ofTag (run.ingress.transport.serials server) (carriedBy commandFrom run.log.ingested)
        ++ client.queue.filterMap commandFrom
  /-- The commands that it accepted are in increasing order, for every client. -/
  increasing : Admission.Increasing
    ((run.log.decisions.filter fun decision => decision.report.accepted).map Decision.admission)
  keyed : ∀ decision ∈ run.log.decisions, decision.admission.clientId = decision.frame.clientId
    ∧ decision.admission.sequence = decision.frame.sequence
  /-- A decision accepts its command exactly when it queues it. -/
  queued : ∀ decision ∈ run.log.decisions,
    decision.report.accepted = true ↔ decision.queued ≠ none
  /-- What was queued was popped, is held, or was dropped with a queue or a buffer. -/
  balances : run.ingress.stationQueues.Balances (run.log.decisions.filterMap Decision.queued)
    run.popped run.dropped
  answered : ∀ serial, ∃ waiting, Answered server run serial waiting

variable {run : CommandExchange Addr}

/-- Each registration is shown the first of its acknowledgements. -/
lemma Invariant.answered (h : Invariant server limits run) (serial : ℕ) :
    ∃ waiting, Answered server run serial waiting := by
  have hanswers := h.keeps.answers
  obtain ⟨waiting, hwaiting⟩ := carriedBy_prefix hanswers.hub (ackFrom server) serial
  rw [hanswers.acked, hanswers.visited] at hwaiting
  refine ⟨waiting, hwaiting.symm, fun clientId client hclient hserial => ⟨?_, fun ack hack => ?_⟩⟩
  · have hqueue := carriedBy_queue hanswers.hub (ackFrom server) hclient
    rw [hserial, hanswers.acked, hanswers.visited, ← hwaiting] at hqueue
    exact (List.append_cancel_left hqueue).symm
  · rw [hwaiting] at hack
    exact (hanswers.addressed _ (mem_ofTag.mp hack) clientId hserial).symm

/-- What the invariant says about the commands. -/
lemma Invariant.acknowledged (h : Invariant server limits run) : Acknowledged server run where
  sent := h.keeps.answers.sent
  decided := h.keeps.answers.decided
  waits client hclient := by
    have hanswers := h.keeps.answers
    rw [carriedBy_queue hanswers.hub commandFrom hclient, ofTag_carriedBy, ofTag_carriedBy]
    show (ofTag _ _).filterMap _ ++ _ = (ofTag _ _).filterMap _ ++ _
    rw [hanswers.complete]
  increasing := h.keeps.decides.files.increasing.sublist h.keeps.decides.admitted
  keyed := h.keeps.decides.keyed
  queued decision hdecision := by
    rw [Decision.queued]
    by_cases haccepted : decision.report.accepted = true
    · have hplaced := h.keeps.decides.placed decision hdecision haccepted
      simpa [haccepted] using hplaced
    · simp [haccepted]
  balances := h.keeps.decides.queues
  answered := h.answered

/-- **Commands are acknowledged.**  Whatever happens in a run, the gateway decides on the commands
of its queue in their order and each at most once; it accepts those that it puts into the queues of
the stations, under increasing sequences for every session; and each registration of a client is
shown, in their order and without gaps, the acknowledgements of its commands, which say what the
gateway has decided.  No call panics. -/
theorem commands_acknowledged (server : ClientId) (limits : ClientTransportLimits)
    (config : GatewayConfig) (pipelineConfig : GatewayCommandPipelineConfig)
    (ops : List (Op Addr server)) :
    let run := execute (step server) (start server limits config pipelineConfig) ops
    Acknowledged server run
      ∧ (∀ token now ingress maxPackets,
        GatewayIngress.pumpIngress (hubClient ⟨server, token⟩) now ingress maxPackets run.ingress
            ≠ none
          ∧ GatewayIngress.pumpIngressCompact (hubClient ⟨server, token⟩) now ingress maxPackets
            run.ingress ≠ none)
      ∧ ∀ clientId, clientId ≠ server → ∀ token maxPackets fails,
        (run.clients clientId).pumpVisitor (hubReceiver ⟨clientId, token⟩) (failingRecorder fails)
          run.ingress.transport maxPackets [] ≠ none := by
  intro run
  have hinv : Invariant server limits run :=
    execute_preserves (fun _ op h => h.step op) (invariant_start config pipelineConfig) ops
  refine ⟨hinv.acknowledged, fun token now ingress maxPackets => ?_,
    fun clientId hother token maxPackets fails => ?_⟩
  · obtain ⟨_, _, _, hpump, hcompact, -⟩ := hinv.keeps.pump token now ingress maxPackets
    rw [hpump, hcompact]
    exact ⟨Option.some_ne_none _, Option.some_ne_none _⟩
  · obtain ⟨_, _, _, _, hpump, -⟩ := hinv.keeps.answers.pump hother (hinv.clients clientId) token
      maxPackets fails
    rw [hpump]
    exact Option.some_ne_none _

end SectorSync.CommandExchange
