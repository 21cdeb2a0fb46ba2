import SectorSync.Base.Dispatch
import SectorSync.Facade.ReplicationExecutor

/-!
# What the replication executors send

Both executors hand over, until the first failure, the frames that `replicate` makes of the
viewers one by one.  `frameOfPlan` is what `sendPlan` makes of a plan before the transport sees it,
and the loops are `dispatch` of these frames: `sendPlans_spec` for the viewers of a station,
`sendBatches_spec` for the station batches.  Since every viewer is planned over its own candidates,
whatever the scratch was used for, the frames are the same in both executors and in `replicate`.
-/

namespace SectorSync

open Machine ReplicationPlanner

variable {F T E : Type}

/-! ## One frame -/

/-- What is made of a plan before the transport sees it: a failure, nothing for an empty frame, or
a packet. -/
def frameOfPlan (E : Type) (config : ReplicationExecutorConfig) (builder : ReplicationFrameBuilder)
    (station : StationRuntime F) (selection : ComponentSelection) (viewer : ViewerQuery F)
    (plan : ReplicationPlan) : Except (ReplicationExecutionFailure E) (Option OutboundPacket) :=
  match builder.encodeBinaryBoundedInto station.station station.components selection
      viewer.clientId station.station.tick plan config.budget.maxBytes [] with
  | (.error error, _) => .error (.encode error)
  | (.ok build, bytes) =>
      if build.encodedEntities = 0 ∧ !config.sendEmptyFrames then .ok none
      else .ok (some ⟨(), viewer.clientId, bytes⟩)

/-- The sink, with its errors as the executors report them. -/
def submit (sink : TransportSink T OutboundPacket E) (transport : T) (packet : OutboundPacket) :
    Except (ReplicationExecutionFailure E) Unit × T :=
  let (result, transport) := sink.send transport packet
  (result.mapError .transport, transport)

/-- The bytes of some packets. -/
def packetBytes (packets : List OutboundPacket) : ℕ :=
  (packets.flatMap fun packet => packet.bytes).length

section Send

variable {config : ReplicationExecutorConfig} {builder : ReplicationFrameBuilder}
  {sink : TransportSink T OutboundPacket E} {station : StationRuntime F}
  {selection : ComponentSelection}

/-- A frame keeps within the byte budget. -/
lemma length_frameOfPlan_le {viewer : ViewerQuery F} {plan : ReplicationPlan}
    {packet : OutboundPacket}
    (h : packet ∈ packetOf (frameOfPlan E config builder station selection viewer plan)) :
    packet.bytes.length ≤ config.budget.maxBytes := by
  unfold frameOfPlan at h
  rcases hencode : builder.encodeBinaryBoundedInto station.station station.components selection
    viewer.clientId station.station.tick plan config.budget.maxBytes [] with ⟨error | build, bytes⟩
  · rw [hencode] at h
    cases h
  · have hlength := builder.length_encodeBinaryBoundedInto_le station.station station.components
      selection viewer.clientId station.station.tick plan hencode
    rw [List.length_nil, Nat.zero_add] at hlength
    rw [hencode] at h
    dsimp only at h
    split_ifs at h
    · cases h
    · rw [List.mem_singleton.mp h]
      exact hlength

/-- The end of `sendPlan`: the frame was not encoded, was empty and skipped, was accepted, or was
rejected. -/
inductive SendEnd (sink : TransportSink T OutboundPacket E) (stats : ReplicationExecutorStats)
    (transport : T) :
    Except (ReplicationExecutionFailure E) (Option OutboundPacket) →
      Except (ReplicationExecutionFailure E) ReplicationReport × ReplicationExecutorStats × T → Prop
  | failed (failure : ReplicationExecutionFailure E) {stats' : ReplicationExecutorStats}
      (hframes : stats'.framesSent = stats.framesSent) (hbytes : stats'.bytesSent = stats.bytesSent) :
      SendEnd sink stats transport (.error failure) (.error failure, stats', transport)
  | skipped {report : ReplicationReport} {stats' : ReplicationExecutorStats}
      (hsent : report.sent = false) (hreport : report.bytesSent = 0)
      (hframes : stats'.framesSent = stats.framesSent) (hbytes : stats'.bytesSent = stats.bytesSent) :
      SendEnd sink stats transport (.ok none) (.ok report, stats', transport)
  | sent {packet : OutboundPacket} {report : ReplicationReport} {stats' : ReplicationExecutorStats}
      {transport' : T} (hsend : submit sink transport packet = (.ok (), transport'))
      (hsent : report.sent = true) (hreport : report.bytesSent = packet.bytes.length)
      (hframes : stats'.framesSent = usizeSaturatingAdd stats.framesSent 1)
      (hbytes : stats'.bytesSent = usizeSaturatingAdd stats.bytesSent packet.bytes.length) :
      SendEnd sink stats transport (.ok (some packet)) (.ok report, stats', transport')
  | rejected {packet : OutboundPacket} {failure : ReplicationExecutionFailure E}
      {stats' : ReplicationExecutorStats} {transport' : T}
      (hsend : submit sink transport packet = (.error failure, transport'))
      (hframes : stats'.framesSent = stats.framesSent) (hbytes : stats'.bytesSent = stats.bytesSent) :
      SendEnd sink stats transport (.ok (some packet)) (.error failure, stats', transport')

variable (config builder sink station selection) in
lemma sendPlan_cases (stats : ReplicationExecutorStats) (viewer : ViewerQuery F)
    (plan : ReplicationPlan) (transport : T) :
    SendEnd sink stats transport (frameOfPlan E config builder station selection viewer plan)
      (sendPlan config builder sink stats station selection viewer plan transport) := by
  unfold frameOfPlan sendPlan
  rcases builder.encodeBinaryBoundedInto station.station station.components selection
    viewer.clientId station.station.tick plan config.budget.maxBytes [] with ⟨error | build, bytes⟩
  · exact .failed _ rfl rfl
  · dsimp only
    split_ifs with hempty
    · exact .skipped rfl rfl rfl rfl
    · rcases hsend : sink.send transport ⟨(), viewer.clientId, bytes⟩ with ⟨error | _, transport'⟩
      · exact .rejected (by rw [submit, hsend]; rfl) rfl rfl
      · exact .sent (by rw [submit, hsend]; rfl) rfl rfl rfl rfl

end Send

/-! ## Counters -/

/-- The frame and byte counters of an executor hold what a `usize` can hold. -/
structure ReplicationExecutorStats.InRange (stats : ReplicationExecutorStats) : Prop where
  framesSent : stats.framesSent ≤ usizeMax
  bytesSent : stats.bytesSent ≤ usizeMax

/-- The frame and byte counters of an executor grew, saturating, by what was accepted. -/
structure ReplicationExecutorStats.Grew (stats stats' : ReplicationExecutorStats)
    (accepted : List OutboundPacket) : Prop where
  framesSent : stats'.framesSent = usizeSaturatingAdd stats.framesSent accepted.length
  bytesSent : stats'.bytesSent = usizeSaturatingAdd stats.bytesSent (packetBytes accepted)

/-- The progress counters of a batch report grew by the viewers done and by what was accepted. -/
structure ReplicationBatchReport.Grew (report report' : ReplicationBatchReport) (done : ℕ)
    (accepted : List OutboundPacket) : Prop where
  viewersCompleted :
    report'.viewersCompleted = usizeSaturatingAdd report.viewersCompleted done
  framesSent : report'.framesSent = usizeSaturatingAdd report.framesSent accepted.length
  bytesSent : report'.bytesSent = usizeSaturatingAdd report.bytesSent (packetBytes accepted)

/-- The progress counters of a batch report hold what a `usize` can hold. -/
structure ReplicationBatchReport.InRange (report : ReplicationBatchReport) : Prop where
  viewersCompleted : report.viewersCompleted ≤ usizeMax
  framesSent : report.framesSent ≤ usizeMax
  bytesSent : report.bytesSent ≤ usizeMax

lemma packetBytes_append (packets more : List OutboundPacket) :
    packetBytes (packets ++ more) = packetBytes packets + packetBytes more := by
  rw [packetBytes, List.flatMap_append, List.length_append]
  rfl

namespace ReplicationExecutorStats

variable {stats stats' stats'' : ReplicationExecutorStats} {accepted more : List OutboundPacket}

lemma Grew.inRange (h : stats.Grew stats' accepted) : stats'.InRange :=
  ⟨h.framesSent ▸ usizeSaturatingAdd_le _ _, h.bytesSent ▸ usizeSaturatingAdd_le _ _⟩

lemma Grew.of_eq (h : stats.InRange) (hframes : stats'.framesSent = stats.framesSent)
    (hbytes : stats'.bytesSent = stats.bytesSent) : stats.Grew stats' [] :=
  ⟨hframes.trans (usizeSaturatingAdd_zero h.framesSent).symm,
    hbytes.trans (usizeSaturatingAdd_zero h.bytesSent).symm⟩

lemma Grew.trans (h : stats.Grew stats' accepted) (h' : stats'.Grew stats'' more) :
    stats.Grew stats'' (accepted ++ more) where
  framesSent := by
    rw [h'.framesSent, h.framesSent, usizeSaturatingAdd_add, List.length_append]
  bytesSent := by
    rw [h'.bytesSent, h.bytesSent, usizeSaturatingAdd_add, packetBytes_append]

end ReplicationExecutorStats

namespace ReplicationBatchReport

variable {report report' report'' : ReplicationBatchReport} {done rest : ℕ}
  {accepted more : List OutboundPacket}

lemma Grew.inRange (h : report.Grew report' done accepted) : report'.InRange :=
  ⟨h.viewersCompleted ▸ usizeSaturatingAdd_le _ _, h.framesSent ▸ usizeSaturatingAdd_le _ _,
    h.bytesSent ▸ usizeSaturatingAdd_le _ _⟩

lemma InRange.grew (h : report.InRange) : report.Grew report 0 [] :=
  ⟨(usizeSaturatingAdd_zero h.viewersCompleted).symm, (usizeSaturatingAdd_zero h.framesSent).symm,
    (usizeSaturatingAdd_zero h.bytesSent).symm⟩

lemma Grew.trans (h : report.Grew report' done accepted) (h' : report'.Grew report'' rest more) :
    report.Grew report'' (done + rest) (accepted ++ more) where
  viewersCompleted := by
    rw [h'.viewersCompleted, h.viewersCompleted, usizeSaturatingAdd_add]
  framesSent := by
    rw [h'.framesSent, h.framesSent, usizeSaturatingAdd_add, List.length_append]
  bytesSent := by
    rw [h'.bytesSent, h.bytesSent, usizeSaturatingAdd_add, packetBytes_append]

/-- A viewer that was completed counts with the packet it sent. -/
lemma grew_record (report : ReplicationBatchReport) (accepted : List OutboundPacket)
    {viewerReport : ReplicationReport} (hsent : viewerReport.sent.toNat = accepted.length)
    (hbytes : viewerReport.bytesSent = packetBytes accepted) :
    report.Grew (report.record viewerReport) 1 accepted :=
  ⟨rfl, congrArg (usizeSaturatingAdd report.framesSent) hsent,
    congrArg (usizeSaturatingAdd report.bytesSent) hbytes⟩

end ReplicationBatchReport

/-! ## The loops -/

lemma packetBytes_singleton (packet : OutboundPacket) :
    packetBytes [packet] = packet.bytes.length := by
  rw [packetBytes, List.flatMap_singleton]

/-- What `sendPlan` has in common with a run of `dispatch` over one job. -/
structure PlanEnd (d : Dispatched T OutboundPacket (ReplicationExecutionFailure E))
    (stats : ReplicationExecutorStats)
    (result : Except (ReplicationExecutionFailure E) ReplicationReport
      × ReplicationExecutorStats × T) : Prop where
  transport : result.2.2 = d.transport
  stats : stats.Grew result.2.1 d.accepted
  done : ∀ report, result.1 = .ok report → d.failure = none ∧ d.done = 1 ∧
    report.sent.toNat = d.accepted.length ∧ report.bytesSent = packetBytes d.accepted
  failed : ∀ failure, result.1 = .error failure → d.failure = some failure ∧ d.done = 0

lemma SendEnd.planEnd {sink : TransportSink T OutboundPacket E} {stats : ReplicationExecutorStats}
    (hstats : stats.InRange) {transport : T}
    {job : Except (ReplicationExecutionFailure E) (Option OutboundPacket)}
    {result : Except (ReplicationExecutionFailure E) ReplicationReport
      × ReplicationExecutorStats × T} (h : SendEnd sink stats transport job result) :
    PlanEnd (dispatch (submit sink) [job] transport) stats result := by
  cases h with
  | failed failure hframes hbytes =>
      refine ⟨rfl, .of_eq hstats hframes hbytes, ?_, ?_⟩
      · rintro report ⟨⟩
      · rintro failure ⟨⟩
        exact ⟨rfl, rfl⟩
  | skipped hsent hreport hframes hbytes =>
      refine ⟨rfl, .of_eq hstats hframes hbytes, ?_, ?_⟩
      · rintro report ⟨⟩
        exact ⟨rfl, rfl, by rw [hsent]; rfl, hreport⟩
      · rintro failure ⟨⟩
  | @sent packet report stats' transport' hsend hsent hreport hframes hbytes =>
      have hd : dispatch (submit sink) [.ok (some packet)] transport
          = ⟨none, 1, [packet], transport'⟩ := by
        simp only [dispatch, hsend]
        rfl
      rw [← packetBytes_singleton] at hbytes hreport
      rw [hd]
      refine ⟨rfl, ⟨hframes, hbytes⟩, ?_, ?_⟩
      · rintro report ⟨⟩
        exact ⟨rfl, rfl, by rw [hsent]; rfl, hreport⟩
      · rintro failure ⟨⟩
  | @rejected packet failure stats' transport' hsend hframes hbytes =>
      have hd : dispatch (submit sink) [.ok (some packet)] transport
          = ⟨some failure, 0, [], transport'⟩ := by
        simp only [dispatch, hsend]
      rw [hd]
      refine ⟨rfl, .of_eq hstats hframes hbytes, ?_, ?_⟩
      · rintro report ⟨⟩
      · rintro failure ⟨⟩
        exact ⟨rfl, rfl⟩

/-- What the loops of the executors have in common with a run of `dispatch`. -/
structure BatchEnd (d : Dispatched T OutboundPacket (ReplicationExecutionFailure E))
    (report : ReplicationBatchReport) (stats : ReplicationExecutorStats)
    (result : Except (ReplicationExecutionError E) ReplicationBatchReport
      × ReplicationExecutorStats × T) : Prop where
  transport : result.2.2 = d.transport
  stats : stats.Grew result.2.1 d.accepted
  done : ∀ report', result.1 = .ok report' →
    d.failure = none ∧ report.Grew report' d.done d.accepted
  failed : ∀ error, result.1 = .error error → d.failure = some error.failure ∧
    error.completedViewers = usizeSaturatingAdd report.viewersCompleted d.done

/-- A loop after some viewers that were done. -/
lemma BatchEnd.after {d : Dispatched T OutboundPacket (ReplicationExecutionFailure E)}
    {report report' : ReplicationBatchReport} {stats stats' : ReplicationExecutorStats}
    {result : Except (ReplicationExecutionError E) ReplicationBatchReport
      × ReplicationExecutorStats × T} {done : ℕ} {accepted : List OutboundPacket}
    (h : BatchEnd d report' stats' result) (hreport : report.Grew report' done accepted)
    (hstats : stats.Grew stats' accepted) : BatchEnd (d.after done accepted) report stats result where
  transport := h.transport
  stats := hstats.trans h.stats
  done := by
    intro final hfinal
    obtain ⟨hnone, hgrew⟩ := h.done final hfinal
    exact ⟨hnone, hreport.trans hgrew⟩
  failed := by
    intro error herror
    obtain ⟨hfailure, hcompleted⟩ := h.failed error herror
    refine ⟨hfailure, ?_⟩
    rw [hcompleted, hreport.viewersCompleted, usizeSaturatingAdd_add]
    rfl

section Send

variable (config : ReplicationExecutorConfig) (builder : ReplicationFrameBuilder)
  (sink : TransportSink T OutboundPacket E)

/-- **The loop over the viewers of a station** hands over their frames until the first failure. -/
lemma sendPlans_spec (station : StationRuntime F) (selection : ComponentSelection)
    (plans : List (ViewerQuery F × ReplicationPlan)) {report : ReplicationBatchReport}
    (hreport : report.InRange) {stats : ReplicationExecutorStats} (hstats : stats.InRange)
    (transport : T) :
    BatchEnd
      (dispatch (submit sink)
        (plans.map fun plan => frameOfPlan E config builder station selection plan.1 plan.2)
        transport)
      report stats (sendPlans config builder sink station selection plans report stats transport) := by
  induction plans generalizing report stats transport with
  | nil =>
      refine ⟨rfl, .of_eq hstats rfl rfl, ?_, ?_⟩
      · rintro report' ⟨⟩
        exact ⟨rfl, hreport.grew⟩
      · rintro error ⟨⟩
  | cons plan plans ih =>
      obtain ⟨viewer, plan⟩ := plan
      rw [List.map_cons, sendPlans]
      have hend := sendPlan_cases config builder sink station selection stats viewer plan transport
      obtain ⟨htransport, hgrew, hdone, hfailed⟩ := hend.planEnd hstats
      generalize sendPlan config builder sink stats station selection viewer plan transport
        = result at htransport hgrew hdone hfailed ⊢
      rw [← List.singleton_append]
      obtain ⟨failure | viewerReport, stats', transport'⟩ := result
      · obtain ⟨hfailure, hzero⟩ := hfailed failure rfl
        rw [dispatch_append_of_failed hfailure]
        refine ⟨htransport, hgrew, ?_, ?_⟩
        · rintro report' ⟨⟩
        · rintro error ⟨⟩
          refine ⟨hfailure, ?_⟩
          rw [hzero, usizeSaturatingAdd_zero hreport.viewersCompleted]
      · obtain ⟨hnone, hone, hsent, hbytes⟩ := hdone viewerReport rfl
        have hrecorded := report.grew_record _ hsent hbytes
        have htransport' : transport' = _ := htransport
        rw [dispatch_append_of_done hnone, ← htransport', hone]
        exact (ih hrecorded.inRange hgrew.inRange transport').after hrecorded hgrew

variable {config builder sink}

/-- The loops read nothing of the query counters. -/
lemma BatchEnd.of_counters {d : Dispatched T OutboundPacket (ReplicationExecutionFailure E)}
    {report report' : ReplicationBatchReport} {stats stats' : ReplicationExecutorStats}
    {result : Except (ReplicationExecutionError E) ReplicationBatchReport
      × ReplicationExecutorStats × T}
    (h : BatchEnd d report' stats' result)
    (hviewers : report'.viewersCompleted = report.viewersCompleted)
    (hframes : report'.framesSent = report.framesSent) (hbytes : report'.bytesSent = report.bytesSent)
    (hstatsFrames : stats'.framesSent = stats.framesSent)
    (hstatsBytes : stats'.bytesSent = stats.bytesSent) : BatchEnd d report stats result where
  transport := h.transport
  stats := ⟨hstatsFrames ▸ h.stats.framesSent, hstatsBytes ▸ h.stats.bytesSent⟩
  done := by
    intro final hfinal
    obtain ⟨hnone, hgrew⟩ := h.done final hfinal
    exact ⟨hnone, hviewers ▸ hgrew.viewersCompleted, hframes ▸ hgrew.framesSent,
      hbytes ▸ hgrew.bytesSent⟩
  failed := by
    intro error herror
    obtain ⟨hfailure, hcompleted⟩ := h.failed error herror
    exact ⟨hfailure, hviewers ▸ hcompleted⟩

/-- A loop that went through is followed by the next one. -/
lemma BatchEnd.append_ok
    {jobs later : List (Except (ReplicationExecutionFailure E) (Option OutboundPacket))}
    {report report' : ReplicationBatchReport} {stats stats' : ReplicationExecutorStats}
    {transport transport' : T}
    (h : BatchEnd (dispatch (submit sink) jobs transport) report stats
      (.ok report', stats', transport'))
    {result : Except (ReplicationExecutionError E) ReplicationBatchReport
      × ReplicationExecutorStats × T}
    (h' : BatchEnd (dispatch (submit sink) later transport') report' stats' result) :
    BatchEnd (dispatch (submit sink) (jobs ++ later) transport) report stats result := by
  obtain ⟨hnone, hgrew⟩ := h.done report' rfl
  have htransport : transport' = (dispatch (submit sink) jobs transport).transport := h.transport
  rw [dispatch_append_of_done hnone, ← htransport]
  exact h'.after hgrew h.stats

/-- A loop that failed is the last one. -/
lemma BatchEnd.append_error
    {jobs : List (Except (ReplicationExecutionFailure E) (Option OutboundPacket))}
    {report : ReplicationBatchReport} {stats stats' : ReplicationExecutorStats}
    {transport transport' : T} {error : ReplicationExecutionError E}
    (h : BatchEnd (dispatch (submit sink) jobs transport) report stats
      (.error error, stats', transport'))
    (later : List (Except (ReplicationExecutionFailure E) (Option OutboundPacket))) :
    BatchEnd (dispatch (submit sink) (jobs ++ later) transport) report stats
      (.error error, stats', transport') := by
  rw [dispatch_append_of_failed (h.failed error rfl).1]
  exact h

variable (config builder sink)

/-- **The loop over the station batches** hands over the frames of all batches until the first
failure. -/
lemma sendBatches_spec (batches : List (ParallelStationBatch F × ReplicationBatchScratch))
    {report : ReplicationBatchReport} (hreport : report.InRange)
    {stats : ReplicationExecutorStats} (hstats : stats.InRange) (transport : T) :
    BatchEnd
      (dispatch (submit sink)
        (batches.flatMap fun batch =>
          (batch.1.viewers.zip batch.2.viewPlans).map fun plan =>
            frameOfPlan E config builder batch.1.station batch.1.selection plan.1 plan.2)
        transport)
      report stats (sendBatches config builder sink batches report stats transport) := by
  induction batches generalizing report stats transport with
  | nil =>
      refine ⟨rfl, .of_eq hstats rfl rfl, ?_, ?_⟩
      · rintro report' ⟨⟩
        exact ⟨rfl, hreport.grew⟩
      · rintro error ⟨⟩
  | cons batch batches ih =>
      obtain ⟨batch, output⟩ := batch
      have hreport' : (report.recordQueries output.stats).InRange :=
        ⟨hreport.viewersCompleted, hreport.framesSent, hreport.bytesSent⟩
      have hstats' : (recordBatchQueryStats stats output.stats).InRange :=
        ⟨hstats.framesSent, hstats.bytesSent⟩
      have hbatch : BatchEnd _ report stats _ :=
        (sendPlans_spec config builder sink batch.station batch.selection
          (batch.viewers.zip output.viewPlans) hreport' hstats' transport).of_counters
          rfl rfl rfl rfl rfl
      rw [List.flatMap_cons, sendBatches]
      generalize sendPlans config builder sink batch.station batch.selection
        (batch.viewers.zip output.viewPlans) (report.recordQueries output.stats)
        (recordBatchQueryStats stats output.stats) transport = result at hbatch ⊢
      obtain ⟨error | report', stats', transport'⟩ := result
      · exact hbatch.append_error _
      · have hgrew := (hbatch.done report' rfl).2
        exact hbatch.append_ok (ih hgrew.inRange hbatch.stats.inRange transport')

end Send

/-! ## The executors -/

section Scalar

variable [Scalar F]
  (selectNthUnstableBy : SelectNthUnstableBy (PrioritizedReplicationCandidate F))

/-- The frame of a viewer, planned over its own candidates. -/
def viewerFrame (E : Type) (config : ReplicationExecutorConfig) (builder : ReplicationFrameBuilder)
    (request : ReplicationRequest F) :
    Except (ReplicationExecutionFailure E) (Option OutboundPacket) :=
  frameOfPlan E config builder request.station request.selection request.viewer
    (planOver selectNthUnstableBy (request.inputs config)
      (viewerCandidates request.station.index request.viewer) request.viewer)

namespace ReplicationExecutor

/-- What an executor with the given configuration is between two calls. -/
structure Usable (config : ReplicationExecutorConfig) (builder : ReplicationFrameBuilder)
    (executor : ReplicationExecutor F) : Prop where
  config : executor.config = config
  builder : executor.builder = builder
  scratch : executor.scratch.cellQuery.WellFormed
  stats : executor.stats.InRange

variable {config : ReplicationExecutorConfig} {builder : ReplicationFrameBuilder}
  {executor : ReplicationExecutor F}

omit [Scalar F] in
lemma usable_new : Usable config builder (ReplicationExecutor.new config builder : ReplicationExecutor F) :=
  ⟨rfl, rfl, ReplicationScratch.wellFormed_default, Nat.zero_le _, Nat.zero_le _⟩

/-- **One viewer.**  `replicate` hands over the frame of the viewer. -/
lemma replicate_spec (h : Usable config builder executor) (sink : TransportSink T OutboundPacket E)
    (request : ReplicationRequest F) (capacities : ExecutorCapacities) (transport : T)
    {d : Dispatched T OutboundPacket (ReplicationExecutionFailure E)}
    (hd : d = dispatch (submit sink) [viewerFrame selectNthUnstableBy E config builder request]
      transport)
    {result : Except (ReplicationExecutionError E) ReplicationReport × ReplicationExecutor F × T}
    (hresult : result
      = executor.replicate selectNthUnstableBy sink request capacities transport) :
    Usable config builder result.2.1 ∧ result.2.2 = d.transport ∧
      (∀ report, result.1 = .ok report → d.failure = none) ∧
      ∀ error, result.1 = .error error → d.failure = some error.failure := by
  have hplan := planForViewerConfiguredInto_eq selectNthUnstableBy (request.inputs executor.config)
    request.station.index request.viewer executor.plan h.scratch
  have hscratch : (planForViewerConfiguredInto selectNthUnstableBy
      (request.inputs executor.config) request.station.index request.viewer executor.scratch
      executor.plan).1.cellQuery.WellFormed :=
    (querySphereInto_spec request.station.index request.viewer h.scratch).1
  unfold replicate at hresult
  generalize planForViewerConfiguredInto selectNthUnstableBy (request.inputs executor.config)
    request.station.index request.viewer executor.scratch executor.plan = planned
    at hplan hscratch hresult
  obtain ⟨scratch, plan⟩ := planned
  dsimp only at hplan hscratch hresult
  have hjob : frameOfPlan E executor.config executor.builder request.station request.selection
      request.viewer plan = viewerFrame selectNthUnstableBy E config builder request := by
    rw [hplan, h.config, h.builder]
    rfl
  generalize hstats : ({ executor.stats with
    planEntityCapacityMax := max executor.stats.planEntityCapacityMax capacities.planEntities } :
      ReplicationExecutorStats) = stats at hresult
  have hrange : stats.InRange := hstats ▸ ⟨h.stats.framesSent, h.stats.bytesSent⟩
  have hend := (sendPlan_cases executor.config executor.builder sink request.station
    request.selection stats request.viewer plan transport).planEnd hrange
  rw [hjob, ← hd] at hend
  generalize sendPlan executor.config executor.builder sink stats request.station request.selection
    request.viewer plan transport = sent at hend hresult
  obtain ⟨failure | report, stats', transport'⟩ := sent
  · subst hresult
    refine ⟨⟨h.config, h.builder, hscratch, hend.stats.inRange⟩, hend.transport, ?_, ?_⟩
    · rintro report ⟨⟩
    · rintro error ⟨⟩
      exact (hend.failed failure rfl).1
  · subst hresult
    refine ⟨⟨h.config, h.builder, hscratch, hend.stats.inRange⟩, hend.transport, ?_, ?_⟩
    · rintro report' ⟨⟩
      exact (hend.done report rfl).1
    · rintro error ⟨⟩

/-- **A viewer batch.**  The sequential executor hands over the frames of the viewers. -/
lemma replicateBatch_spec (h : Usable config builder executor)
    (sink : TransportSink T OutboundPacket E) (request : ReplicationBatchRequest F)
    (capacities : ExecutorCapacities) (transport : T)
    {result : Except (ReplicationExecutionError E) ReplicationBatchReport
      × ReplicationExecutor F × T}
    (hresult : result
      = executor.replicateBatch selectNthUnstableBy sink request capacities transport) :
    Usable config builder result.2.1 ∧
      BatchEnd
        (dispatch (submit sink)
          ((request.viewers.map request.alone).map
            (viewerFrame selectNthUnstableBy E config builder)) transport)
        .default executor.stats (result.1, result.2.1.stats, result.2.2) := by
  obtain ⟨hscratch, hplans⟩ := planForViewersConfiguredInto_spec selectNthUnstableBy
    (executor.batchCall request capacities) executor.batch h.scratch
  unfold replicateBatch at hresult
  generalize planForViewersConfiguredInto selectNthUnstableBy
    (executor.batchCall request capacities) (executor.scratch, executor.batch) = planned
    at hscratch hplans hresult
  obtain ⟨scratch, batch⟩ := planned
  dsimp only at hscratch hplans hresult
  have hjobs : (request.viewers.zip batch.viewPlans).map (fun plan =>
      frameOfPlan E executor.config executor.builder request.station request.selection plan.1 plan.2)
      = (request.viewers.map request.alone).map
        (viewerFrame selectNthUnstableBy E config builder) := by
    rw [hplans, h.config, h.builder]
    show List.map _ (request.viewers.zip (request.viewers.map _)) = _
    rw [← List.map_prod_left_eq_zip, List.map_map, List.map_map]
    refine List.map_congr_left fun viewer _ => ?_
    simp only [Function.comp_apply, viewerFrame, ReplicationBatchRequest.alone, batchCall,
      ReplicationRequest.inputs, h.config]
  generalize hstats : recordBatchQueryStats { executor.stats with
    batchPlanSlotsMax := max executor.stats.batchPlanSlotsMax batch.viewPlans.length
    batchEntityCapacityMax := max executor.stats.batchEntityCapacityMax capacities.batchEntities }
    batch.stats = stats at hresult
  have hrange : stats.InRange := hstats ▸ ⟨h.stats.framesSent, h.stats.bytesSent⟩
  have hreport : (batchReportFromStats batch.stats).InRange :=
    ⟨Nat.zero_le _, Nat.zero_le _, Nat.zero_le _⟩
  have hend := sendPlans_spec executor.config executor.builder sink request.station
    request.selection (request.viewers.zip batch.viewPlans) hreport hrange transport
  rw [hjobs] at hend
  generalize sendPlans executor.config executor.builder sink request.station request.selection
    (request.viewers.zip batch.viewPlans) (batchReportFromStats batch.stats) stats transport = sent
    at hend hresult
  obtain ⟨outcome, stats', transport'⟩ := sent
  subst hresult
  exact ⟨⟨h.config, h.builder, hscratch, hend.stats.inRange⟩,
    hend.of_counters rfl rfl rfl (hstats ▸ rfl) (hstats ▸ rfl)⟩

end ReplicationExecutor

namespace ParallelReplicationExecutor

/-- What an executor with the given configuration is between two calls. -/
structure Usable (config : ReplicationExecutorConfig) (builder : ReplicationFrameBuilder)
    (executor : ParallelReplicationExecutor F) : Prop where
  config : executor.config = config
  builder : executor.builder = builder
  scratch : executor.scratch.Usable
  stats : executor.stats.InRange

end ParallelReplicationExecutor

/-- The batch request of a station batch. -/
def ParallelReplicationRequest.batchRequest (request : ParallelReplicationRequest F)
    (batch : ParallelStationBatch F) : ReplicationBatchRequest F where
  station := batch.station
  policies := request.policies
  selection := batch.selection
  viewers := batch.viewers
  visibility := request.visibility
  eligibility := request.eligibility
  lastSent := request.lastSent

/-- The requests for the viewers of all batches, alone and in order. -/
def ParallelReplicationRequest.alone (request : ParallelReplicationRequest F) :
    List (ReplicationRequest F) :=
  request.batches.flatMap fun batch => batch.viewers.map (request.batchRequest batch).alone

/-- Work over slots that hold the plans `g` gives for the batches. -/
lemma flatMap_zip_viewPlans {B X : Type} {g : B → List ReplicationPlan}
    (work : B → List ReplicationPlan → List X) {batches : List B}
    {outputs : List ReplicationBatchScratch}
    (h : outputs.map ReplicationBatchScratch.viewPlans = batches.map g) :
    (batches.zip outputs).flatMap (fun batch => work batch.1 batch.2.viewPlans)
      = batches.flatMap fun batch => work batch (g batch) := by
  induction batches generalizing outputs with
  | nil => rfl
  | cons batch batches ih =>
      cases outputs with
      | nil => cases h
      | cons output outputs =>
          rw [List.map_cons, List.map_cons] at h
          injection h with hplans hrest
          rw [List.zip_cons_cons, List.flatMap_cons, List.flatMap_cons, ih hrest, hplans]

namespace ParallelReplicationExecutor

variable {config : ReplicationExecutorConfig} {builder : ReplicationFrameBuilder}
  {executor : ParallelReplicationExecutor F}

omit [Scalar F] in
lemma usable_new (pool : ReplicationThreadPoolConfig) (available : ℕ) :
    Usable config builder
      (ParallelReplicationExecutor.new config builder pool available :
        ParallelReplicationExecutor F) :=
  ⟨rfl, rfl, ParallelReplicationScratch.usable_new, Nat.zero_le _, Nat.zero_le _⟩

/-- **Station batches.**  The parallel executor hands over the frames of the viewers, batch by
batch. -/
lemma replicateBatch_spec (h : Usable config builder executor)
    (sink : TransportSink T OutboundPacket E) (request : ParallelReplicationRequest F)
    (capacities : ParallelExecutorCapacities) (transport : T) :
    ∃ result, executor.replicateBatch selectNthUnstableBy sink request capacities transport
        = some result ∧
      Usable config builder result.2.1 ∧
      BatchEnd
        (dispatch (submit sink)
          (request.alone.map (viewerFrame selectNthUnstableBy E config builder)) transport)
        .default executor.stats (result.1, result.2.1.stats, result.2.2) := by
  obtain ⟨run, hrun, husable, hsequential⟩ := planStationConfiguredBatchesInto_spec
    selectNthUnstableBy executor.pool (executor.configuredCall request capacities) h.scratch
  have hplans : run.view.batches.map ReplicationBatchScratch.viewPlans
      = request.batches.map fun batch => batch.viewers.map fun viewer =>
        planOver selectNthUnstableBy (((request.batchRequest batch).alone viewer).inputs config)
          (viewerCandidates batch.station.index viewer) viewer := by
    have hbatch : ∀ batch : ParallelStationBatch F × ℕ,
        (executor.configuredCall request capacities).sequential selectNthUnstableBy batch
          = batch.1.viewers.map fun viewer =>
            planOver selectNthUnstableBy
              (((request.batchRequest batch.1).alone viewer).inputs config)
              (viewerCandidates batch.1.station.index viewer) viewer := by
      intro batch
      rw [ConfiguredCall.sequential, (planForViewersConfiguredInto_spec selectNthUnstableBy _ .new
        ReplicationScratch.wellFormed_default).2, ← h.config]
      rfl
    rw [hsequential.slots, List.map_congr_left fun batch _ => hbatch batch]
    show List.map _ request.batches.zipIdx = _
    conv_rhs => rw [← List.zipIdx_map_fst 0 request.batches, List.map_map]
    rfl
  have hjobs : (request.batches.zip run.view.batches).flatMap (fun batch =>
      (batch.1.viewers.zip batch.2.viewPlans).map fun plan =>
        frameOfPlan E executor.config executor.builder batch.1.station batch.1.selection plan.1
          plan.2)
      = request.alone.map (viewerFrame selectNthUnstableBy E config builder) := by
    rw [flatMap_zip_viewPlans (fun batch plans => (batch.viewers.zip plans).map fun plan =>
        frameOfPlan E executor.config executor.builder batch.station batch.selection plan.1 plan.2)
      hplans, ParallelReplicationRequest.alone, List.map_flatMap, h.config, h.builder]
    refine List.flatMap_congr fun batch _ => ?_
    rw [← List.map_prod_left_eq_zip, List.map_map, List.map_map]
    rfl
  generalize hstats : ({ executor.stats with
    batchPlanSlotsMax := max executor.stats.batchPlanSlotsMax run.view.batches.length
    batchEntityCapacityMax := max executor.stats.batchEntityCapacityMax capacities.batchEntities } :
      ReplicationExecutorStats) = stats
  have hrange : stats.InRange := hstats ▸ ⟨h.stats.framesSent, h.stats.bytesSent⟩
  have hreport : ReplicationBatchReport.default.InRange :=
    ⟨Nat.zero_le _, Nat.zero_le _, Nat.zero_le _⟩
  have hend := sendBatches_spec executor.config executor.builder sink
    (request.batches.zip run.view.batches) hreport hrange transport
  rw [hjobs] at hend
  obtain ⟨sent, hsent⟩ : ∃ sent, sent = sendBatches executor.config executor.builder sink
    (request.batches.zip run.view.batches) .default stats transport := ⟨_, rfl⟩
  have hcall : executor.replicateBatch selectNthUnstableBy sink request capacities transport
      = some (sent.1, { executor with scratch := run.scratch, stats := sent.2.1 }, sent.2.2) := by
    rw [replicateBatch, hrun, hsent, ← hstats]
    rfl
  rw [← hsent] at hend
  exact ⟨_, hcall, ⟨h.config, h.builder, husable, hend.stats.inRange⟩,
    hend.of_counters rfl rfl rfl (hstats ▸ rfl) (hstats ▸ rfl)⟩

end ParallelReplicationExecutor

/-! ## The sequential prefix -/

/-- The sink that accepts every packet and keeps it. -/
def recorder : TransportSink (List OutboundPacket) OutboundPacket Empty where
  send packets packet := (.ok (), packets ++ [packet])

namespace ReplicationExecutor

variable (executor : ReplicationExecutor F) (capacities : ExecutorCapacities)

/-- What `replicate` sends for a viewer alone, to a sink that accepts everything. -/
def framesAlone (request : ReplicationRequest F) : List OutboundPacket :=
  (executor.replicate selectNthUnstableBy recorder request capacities []).2.2

/-- The failure of `replicate` for a viewer alone, and the transport it leaves. -/
def replicateAlone (sink : TransportSink T OutboundPacket E) (transport : T)
    (request : ReplicationRequest F) : Option (ReplicationExecutionFailure E) × T :=
  let (result, _, transport) :=
    executor.replicate selectNthUnstableBy sink request capacities transport
  match result with
  | .ok _ => (none, transport)
  | .error error => (some error.failure, transport)

/-- Replicates station batches one after the other until the first failure. -/
def replicateBatches (sink : TransportSink T OutboundPacket E) :
    List (ReplicationBatchRequest F × ExecutorCapacities) → ReplicationExecutor F → T →
      Option (ReplicationExecutionFailure E) × ReplicationExecutor F × T
  | [], executor, transport => (none, executor, transport)
  | (request, capacities) :: requests, executor, transport =>
      match executor.replicateBatch selectNthUnstableBy sink request capacities transport with
      | (.ok _, executor, transport) => replicateBatches sink requests executor transport
      | (.error error, executor, transport) => (some error.failure, executor, transport)

/-- Every viewer is replicated alone without a failure, from `transport` to `final`, which has
accepted the frames of all of them. -/
structure ReplicatesAll (sink : TransportSink (T × List OutboundPacket) OutboundPacket E)
    (transport : T × List OutboundPacket) (requests : List (ReplicationRequest F))
    (final : T × List OutboundPacket) : Prop where
  succeeds : AllSteps
    (fun transport request =>
      (executor.replicateAlone selectNthUnstableBy capacities sink transport request).2)
    (fun transport request =>
      (executor.replicateAlone selectNthUnstableBy capacities sink transport request).1 = none)
    transport requests
  reached : final = execute
    (fun transport request =>
      (executor.replicateAlone selectNthUnstableBy capacities sink transport request).2)
    transport requests
  accepted : final.2 = transport.2 ++
    requests.flatMap (executor.framesAlone selectNthUnstableBy capacities)

/-- A batch of viewers was replicated as `replicate` does it for each alone, in order and up to the
first failure, and the counters say what the transport accepted. -/
structure SendsPrefix (sink : TransportSink (T × List OutboundPacket) OutboundPacket E)
    (transport : T) (requests : List (ReplicationRequest F)) (stats : ReplicationExecutorStats)
    (result : Except (ReplicationExecutionError E) ReplicationBatchReport
      × ReplicationExecutorStats × T × List OutboundPacket) : Prop where
  bounded : ∀ packet ∈ result.2.2.2, packet.bytes.length ≤ executor.config.budget.maxBytes
  stats : stats.Grew result.2.1 result.2.2.2
  completed : ∀ report, result.1 = .ok report →
    executor.ReplicatesAll selectNthUnstableBy capacities sink (transport, []) requests result.2.2 ∧
      ReplicationBatchReport.default.Grew report requests.length result.2.2.2
  failed : ∀ error, result.1 = .error error →
    ∃ done request later reached, requests = done ++ request :: later ∧
      executor.ReplicatesAll selectNthUnstableBy capacities sink (transport, []) done reached ∧
      executor.replicateAlone selectNthUnstableBy capacities sink reached request
        = (some error.failure, result.2.2) ∧
      result.2.2.2 = reached.2 ∧
      error.completedViewers = usizeSaturatingAdd 0 done.length

variable {config : ReplicationExecutorConfig} {builder : ReplicationFrameBuilder}
  {executor} {capacities}

/-- Replicated alone, a viewer is a run over its frame. -/
lemma replicateAlone_eq (h : Usable config builder executor)
    (sink : TransportSink T OutboundPacket E) (transport : T) (request : ReplicationRequest F)
    {d : Dispatched T OutboundPacket (ReplicationExecutionFailure E)}
    (hd : d = dispatch (submit sink) [viewerFrame selectNthUnstableBy E config builder request]
      transport) :
    executor.replicateAlone selectNthUnstableBy capacities sink transport request
      = (d.failure, d.transport) := by
  obtain ⟨-, htransport, hok, herror⟩ := replicate_spec selectNthUnstableBy h sink request capacities
    transport hd rfl
  unfold replicateAlone
  generalize executor.replicate selectNthUnstableBy sink request capacities transport = result
    at htransport hok herror ⊢
  obtain ⟨error | report, executor', transport'⟩ := result
  · rw [herror error rfl]
    exact congrArg (Prod.mk (some error.failure)) htransport
  · rw [hok report rfl]
    exact congrArg (Prod.mk none) htransport

/-- The packet of a frame does not depend on the errors of the transport. -/
lemma packetOf_viewerFrame (E' : Type) (request : ReplicationRequest F) :
    packetOf (viewerFrame selectNthUnstableBy E config builder request)
      = packetOf (viewerFrame selectNthUnstableBy E' config builder request) := by
  unfold viewerFrame frameOfPlan
  rcases builder.encodeBinaryBoundedInto _ _ _ _ _ _ _ [] with ⟨error | build, bytes⟩
  · rfl
  · dsimp only
    split_ifs
    · rfl
    · rfl

/-- What `replicate` sends for a viewer alone is its frame. -/
lemma framesAlone_eq (E : Type) (h : Usable config builder executor)
    (request : ReplicationRequest F) :
    executor.framesAlone selectNthUnstableBy capacities request
      = packetOf (viewerFrame selectNthUnstableBy E config builder request) := by
  obtain ⟨-, htransport, -⟩ := replicate_spec selectNthUnstableBy h recorder request capacities []
    rfl rfl
  rw [framesAlone, htransport, packetOf_viewerFrame selectNthUnstableBy Empty request]
  rcases viewerFrame selectNthUnstableBy Empty config builder request with failure | _ | packet
  · rfl
  · rfl
  · rfl

omit [Scalar F] in
/-- The log of a sink is the record of what it accepted. -/
lemma records_logged (sink : TransportSink T OutboundPacket E) :
    Records (submit sink.logged) Prod.snd where
  accepted := by
    intro transport packet transport' h
    obtain ⟨t, log⟩ := transport
    rcases hsend : sink.send t packet with ⟨error | _, t'⟩
    · rw [submit, TransportSink.logged_error hsend] at h
      cases h
    · rw [submit, TransportSink.logged_ok hsend] at h
      cases h
      rfl
  rejected := by
    intro transport packet failure transport' h
    obtain ⟨t, log⟩ := transport
    rcases hsend : sink.send t packet with ⟨error | _, t'⟩
    · rw [submit, TransportSink.logged_error hsend] at h
      cases h
      rfl
    · rw [submit, TransportSink.logged_ok hsend] at h
      cases h

/-- Frames that are all handed over are those of viewers replicated alone. -/
lemma replicatesAll_of_done (h : Usable config builder executor)
    (sink : TransportSink T OutboundPacket E) (transport : T × List OutboundPacket)
    (requests : List (ReplicationRequest F))
    {d : Dispatched (T × List OutboundPacket) OutboundPacket (ReplicationExecutionFailure E)}
    (hd : d = dispatch (submit sink.logged)
      (requests.map (viewerFrame selectNthUnstableBy E config builder)) transport)
    (hnone : d.failure = none) :
    executor.ReplicatesAll selectNthUnstableBy capacities sink.logged transport requests
      d.transport := by
  subst hd
  obtain ⟨hsteps, htransport⟩ := dispatch_done hnone
  rw [allSteps_map] at hsteps
  rw [execute_map] at htransport
  have hstep : ∀ transport request,
      executor.replicateAlone selectNthUnstableBy capacities sink.logged transport request
        = ((dispatch (submit sink.logged)
            [viewerFrame selectNthUnstableBy E config builder request] transport).failure,
          (dispatch (submit sink.logged)
            [viewerFrame selectNthUnstableBy E config builder request] transport).transport) :=
    fun transport request => replicateAlone_eq selectNthUnstableBy h sink.logged transport request rfl
  refine ⟨?_, ?_, ?_⟩
  · simp only [hstep]
    exact hsteps
  · simp only [hstep]
    exact htransport
  · rw [(records_logged sink).dispatch, (dispatch_accepted_of_done hnone).2, List.flatMap_map]
    exact congrArg (transport.2 ++ ·) (List.flatMap_congr fun request _ =>
      (framesAlone_eq selectNthUnstableBy E h request).symm)

/-- A run over the frames of the viewers that fails: the viewers before the failing one are
replicated, and it fails alone as it does in the run. -/
lemma exists_failing_request (h : Usable config builder executor)
    (sink : TransportSink T OutboundPacket E) (transport : T)
    (requests : List (ReplicationRequest F)) {failure : ReplicationExecutionFailure E}
    {d : Dispatched (T × List OutboundPacket) OutboundPacket (ReplicationExecutionFailure E)}
    (hd : d = dispatch (submit sink.logged)
      (requests.map (viewerFrame selectNthUnstableBy E config builder)) (transport, []))
    (hfailure : d.failure = some failure) :
    ∃ done request later reached, requests = done ++ request :: later ∧
      executor.ReplicatesAll selectNthUnstableBy capacities sink.logged (transport, []) done
        reached ∧
      executor.replicateAlone selectNthUnstableBy capacities sink.logged reached request
        = (some failure, d.transport) ∧
      d.transport.2 = reached.2 ∧ d.done = done.length := by
  subst hd
  rcases dispatch_cases (submit sink.logged)
      (requests.map (viewerFrame selectNthUnstableBy E config builder)) (transport, [])
    with ⟨final, hall⟩ | ⟨before, job, later, failure', reached, final, hsplit, hbefore, hfail, hall⟩
  · rw [hall] at hfailure
    cases hfailure
  · rw [hall] at hfailure ⊢
    obtain rfl : failure' = failure := Option.some.inj hfailure
    obtain ⟨done, rest, rfl, rfl, hrest⟩ := List.map_eq_append_iff.mp hsplit
    obtain ⟨request, later, rfl, rfl, -⟩ := List.map_eq_cons_iff.mp hrest
    have hreached : executor.ReplicatesAll selectNthUnstableBy capacities sink.logged
        (transport, []) done _ :=
      replicatesAll_of_done selectNthUnstableBy h sink _ done rfl (by rw [hbefore])
    have halone : executor.replicateAlone selectNthUnstableBy capacities sink.logged reached
        request = _ := replicateAlone_eq selectNthUnstableBy h sink.logged reached request rfl
    have hkept := (records_logged sink).dispatch
      [viewerFrame selectNthUnstableBy E config builder request] reached
    rw [hbefore] at hreached
    rw [hfail] at halone hkept
    rw [List.append_nil] at hkept
    exact ⟨done, request, later, reached, rfl, hreached, halone, hkept, List.length_map _⟩

/-- What hands over the frames of the viewers sends a prefix of them. -/
lemma sendsPrefix_of_batchEnd (h : Usable config builder executor)
    (sink : TransportSink T OutboundPacket E) (transport : T)
    (requests : List (ReplicationRequest F)) {stats : ReplicationExecutorStats}
    {result : Except (ReplicationExecutionError E) ReplicationBatchReport
      × ReplicationExecutorStats × T × List OutboundPacket}
    (hend : BatchEnd
      (dispatch (submit sink.logged)
        (requests.map (viewerFrame selectNthUnstableBy E config builder)) (transport, []))
      .default stats result) :
    executor.SendsPrefix selectNthUnstableBy capacities sink.logged transport requests stats
      result := by
  have hlog : result.2.2.2 = (dispatch (submit sink.logged)
      (requests.map (viewerFrame selectNthUnstableBy E config builder))
      (transport, [])).accepted := by
    rw [hend.transport, (records_logged sink).dispatch]
    exact List.nil_append _
  have hframes : ∀ packet ∈ result.2.2.2, ∃ request ∈ requests,
      packet ∈ packetOf (viewerFrame selectNthUnstableBy E config builder request) := by
    intro packet hpacket
    rw [hlog] at hpacket
    obtain ⟨job, hjob, hmem⟩ := mem_accepted_dispatch hpacket
    obtain ⟨request, hrequest, rfl⟩ := List.mem_map.mp hjob
    exact ⟨request, hrequest, hmem⟩
  refine ⟨?_, ?_, ?_, ?_⟩
  · intro packet hpacket
    obtain ⟨request, -, hmem⟩ := hframes packet hpacket
    rw [h.config]
    exact length_frameOfPlan_le hmem
  · rw [hlog]
    exact hend.stats
  · intro report hreport
    obtain ⟨hnone, hgrew⟩ := hend.done report hreport
    have hall : executor.ReplicatesAll selectNthUnstableBy capacities sink.logged (transport, [])
        requests _ := replicatesAll_of_done selectNthUnstableBy h sink _ requests rfl hnone
    refine ⟨hend.transport ▸ hall, ?_⟩
    rw [(dispatch_accepted_of_done hnone).1, List.length_map] at hgrew
    rw [hlog]
    exact hgrew
  · intro error herror
    obtain ⟨hfailure, hcompleted⟩ := hend.failed error herror
    obtain ⟨done, request, later, reached, hsplit, hreached, halone, hkept, hdone⟩ :=
      exists_failing_request selectNthUnstableBy h sink transport requests rfl hfailure
    refine ⟨done, request, later, reached, hsplit, hreached, ?_, ?_, ?_⟩
    · rw [halone, hend.transport]
    · rw [hend.transport, hkept]
    · rw [hcompleted, hdone]
      rfl

/-- Station batches replicated one after the other are a run over the frames of all of them. -/
lemma replicateBatches_spec (h : Usable config builder executor)
    (sink : TransportSink T OutboundPacket E)
    (requests : List (ReplicationBatchRequest F × ExecutorCapacities)) (transport : T)
    {d : Dispatched T OutboundPacket (ReplicationExecutionFailure E)}
    (hd : d = dispatch (submit sink)
      (requests.flatMap fun request => (request.1.viewers.map request.1.alone).map
        (viewerFrame selectNthUnstableBy E config builder)) transport)
    {result : Option (ReplicationExecutionFailure E) × ReplicationExecutor F × T}
    (hresult : result = replicateBatches selectNthUnstableBy sink requests executor transport) :
    result.1 = d.failure ∧ result.2.2 = d.transport := by
  subst hd hresult
  induction requests generalizing executor transport with
  | nil => exact ⟨rfl, rfl⟩
  | cons request requests ih =>
      obtain ⟨request, capacities⟩ := request
      obtain ⟨husable, hend⟩ := replicateBatch_spec selectNthUnstableBy h sink request capacities
        transport rfl
      rw [List.flatMap_cons, replicateBatches]
      generalize executor.replicateBatch selectNthUnstableBy sink request capacities transport
        = result at husable hend ⊢
      obtain ⟨error | report, executor', transport'⟩ := result
      · obtain ⟨hfailure, -⟩ := hend.failed error rfl
        rw [dispatch_append_of_failed hfailure]
        exact ⟨hfailure.symm, hend.transport⟩
      · obtain ⟨hnone, -⟩ := hend.done report rfl
        have htransport : transport' = _ := hend.transport
        rw [dispatch_append_of_done hnone, ← htransport]
        exact ih husable transport'

end ReplicationExecutor

/-! ## Histories of the executors -/

/-- The calls of the sequential executor, each with a sink of its own. -/
inductive ExecutorCall (F : Type) : Type 1 where
  | replicate {T E : Type} (sink : TransportSink T OutboundPacket E)
      (request : ReplicationRequest F) (capacities : ExecutorCapacities) (transport : T)
  | replicateBatch {T E : Type} (sink : TransportSink T OutboundPacket E)
      (request : ReplicationBatchRequest F) (capacities : ExecutorCapacities) (transport : T)

/-- The executor after a call. -/
def useExecutor (executor : ReplicationExecutor F) : ExecutorCall F → ReplicationExecutor F
  | .replicate sink request capacities transport =>
      (executor.replicate selectNthUnstableBy sink request capacities transport).2.1
  | .replicateBatch sink request capacities transport =>
      (executor.replicateBatch selectNthUnstableBy sink request capacities transport).2.1

/-- The calls of the parallel executor. -/
inductive ParallelExecutorCall (F : Type) : Type 1 where
  | replicateBatch {T E : Type} (sink : TransportSink T OutboundPacket E)
      (request : ParallelReplicationRequest F) (capacities : ParallelExecutorCapacities)
      (transport : T)

/-- The parallel executor after a call. -/
def useParallelExecutor (executor : ParallelReplicationExecutor F) :
    ParallelExecutorCall F → Option (ParallelReplicationExecutor F)
  | .replicateBatch sink request capacities transport =>
      (executor.replicateBatch selectNthUnstableBy sink request capacities transport).map
        fun result => result.2.1

variable {config : ReplicationExecutorConfig} {builder : ReplicationFrameBuilder}

lemma useExecutor_usable {executor : ReplicationExecutor F} (call : ExecutorCall F)
    (h : executor.Usable config builder) :
    (useExecutor selectNthUnstableBy executor call).Usable config builder := by
  cases call with
  | replicate sink request capacities transport =>
      exact (ReplicationExecutor.replicate_spec selectNthUnstableBy h sink request capacities
        transport rfl rfl).1
  | replicateBatch sink request capacities transport =>
      exact (ReplicationExecutor.replicateBatch_spec selectNthUnstableBy h sink request capacities
        transport rfl).1

lemma useParallelExecutor_usable {executor : ParallelReplicationExecutor F}
    (call : ParallelExecutorCall F) (h : executor.Usable config builder) :
    ∃ executor', useParallelExecutor selectNthUnstableBy executor call = some executor' ∧
      executor'.Usable config builder := by
  obtain ⟨sink, request, capacities, transport⟩ := call
  obtain ⟨result, hresult, husable, -⟩ := ParallelReplicationExecutor.replicateBatch_spec
    selectNthUnstableBy h sink request capacities transport
  exact ⟨_, by rw [useParallelExecutor, hresult, Option.map_some], husable⟩

/-- The batches of a parallel request, as the requests of a sequential executor. -/
def ParallelReplicationRequest.batchRequests (request : ParallelReplicationRequest F)
    (capacities : ParallelStationBatch F → ExecutorCapacities) :
    List (ReplicationBatchRequest F × ExecutorCapacities) :=
  request.batches.map fun batch => (request.batchRequest batch, capacities batch)

/-- The station batches have the viewers of the request. -/
lemma flatMap_batchRequests (request : ParallelReplicationRequest F)
    (capacities : ParallelStationBatch F → ExecutorCapacities) :
    ((request.batchRequests capacities).flatMap fun batch =>
        (batch.1.viewers.map batch.1.alone).map (viewerFrame selectNthUnstableBy E config builder))
      = request.alone.map (viewerFrame selectNthUnstableBy E config builder) := by
  rw [ParallelReplicationRequest.batchRequests, List.flatMap_map, ParallelReplicationRequest.alone,
    List.map_flatMap]
  rfl

/-- Replicated batch by batch, a parallel request leaves the same transport, and fails with the same
failure. -/
lemma replicateBatches_of_batchEnd {executor : ReplicationExecutor F}
    (h : executor.Usable config builder) (sink : TransportSink T OutboundPacket E)
    (request : ParallelReplicationRequest F) (transport : T)
    (capacities : ParallelStationBatch F → ExecutorCapacities) {stats : ReplicationExecutorStats}
    {result : Except (ReplicationExecutionError E) ReplicationBatchReport
      × ReplicationExecutorStats × T}
    (hend : BatchEnd
      (dispatch (submit sink)
        (request.alone.map (viewerFrame selectNthUnstableBy E config builder)) transport)
      .default stats result) :
    ∃ failure executor',
      ReplicationExecutor.replicateBatches selectNthUnstableBy sink
          (request.batchRequests capacities) executor transport
        = (failure, executor', result.2.2) ∧
      (failure = none ↔ ∃ report, result.1 = .ok report) ∧
      ∀ error, result.1 = .error error → failure = some error.failure := by
  obtain ⟨hfailure, htransport⟩ := ReplicationExecutor.replicateBatches_spec selectNthUnstableBy h
    sink (request.batchRequests capacities) transport rfl rfl
  rw [flatMap_batchRequests] at hfailure htransport
  generalize ReplicationExecutor.replicateBatches selectNthUnstableBy sink
    (request.batchRequests capacities) executor transport = sequential at hfailure htransport ⊢
  obtain ⟨failure, executor', reached⟩ := sequential
  obtain rfl : reached = result.2.2 := htransport.trans hend.transport.symm
  refine ⟨failure, executor', rfl, ?_, ?_⟩
  · rw [show failure = _ from hfailure]
    rcases hresult : result.1 with error | report
    · rw [(hend.failed error hresult).1]
      simp
    · exact iff_of_true (hend.done report hresult).1 ⟨report, rfl⟩
  · intro error herror
    exact hfailure.trans (hend.failed error herror).1

/-- **The executors send the sequential prefix.**  After any history of calls, both executors send
for a batch what `replicate` sends for its viewers one by one, in order and up to the first that
fails, within the byte budget, and count what was accepted; and the parallel executor leaves the
transport, with the packets it accepted, that the sequential one leaves batch by batch. -/
theorem executors_send_prefix (config : ReplicationExecutorConfig)
    (builder : ReplicationFrameBuilder) (history : List (ExecutorCall F))
    (pool : ReplicationThreadPoolConfig) (available : ℕ)
    (parallelHistory : List (ParallelExecutorCall F)) (sink : TransportSink T OutboundPacket E)
    (transport : T) (capacities : ExecutorCapacities) :
    let executor := execute (useExecutor selectNthUnstableBy) (.new config builder) history
    (∀ request : ReplicationBatchRequest F, ∃ result executor' final,
      executor.replicateBatch selectNthUnstableBy sink.logged request capacities (transport, [])
          = (result, executor', final) ∧
        executor.SendsPrefix selectNthUnstableBy capacities sink.logged transport
          (request.viewers.map request.alone) executor.stats (result, executor'.stats, final)) ∧
    ∃ parallel : ParallelReplicationExecutor F,
      executeOption (useParallelExecutor selectNthUnstableBy) (.new config builder pool available)
          parallelHistory = some parallel ∧
      ∀ (request : ParallelReplicationRequest F) (reported : ParallelExecutorCapacities),
        ∃ result parallel' final,
          parallel.replicateBatch selectNthUnstableBy sink.logged request reported (transport, [])
              = some (result, parallel', final) ∧
            executor.SendsPrefix selectNthUnstableBy capacities sink.logged transport request.alone
              parallel.stats (result, parallel'.stats, final) ∧
            ∀ perBatch, ∃ failure executor',
              ReplicationExecutor.replicateBatches selectNthUnstableBy sink.logged
                  (request.batchRequests perBatch) executor (transport, [])
                = (failure, executor', final) ∧
              (failure = none ↔ ∃ report, result = .ok report) ∧
              ∀ error, result = .error error → failure = some error.failure := by
  intro executor
  have husable : executor.Usable config builder := execute_preserves
    (fun _ call h => useExecutor_usable selectNthUnstableBy call h)
    ReplicationExecutor.usable_new history
  obtain ⟨parallel, hparallel, hparallelUsable⟩ := executeOption_defined
    (fun _ call h => useParallelExecutor_usable selectNthUnstableBy call h)
    (ParallelReplicationExecutor.usable_new pool available) parallelHistory
  refine ⟨fun request => ?_, parallel, hparallel, fun request reported => ?_⟩
  · obtain ⟨-, hend⟩ := ReplicationExecutor.replicateBatch_spec selectNthUnstableBy husable
      sink.logged request capacities (transport, []) rfl
    refine ⟨_, _, _, rfl, ?_⟩
    exact ReplicationExecutor.sendsPrefix_of_batchEnd selectNthUnstableBy husable sink transport _
      hend
  · obtain ⟨⟨result, parallel', final⟩, hresult, -, hend⟩ :=
      ParallelReplicationExecutor.replicateBatch_spec selectNthUnstableBy hparallelUsable
        sink.logged request reported (transport, [])
    refine ⟨result, parallel', final, hresult, ?_, fun perBatch => ?_⟩
    · exact ReplicationExecutor.sendsPrefix_of_batchEnd selectNthUnstableBy husable sink transport
        _ hend
    · exact replicateBatches_of_batchEnd selectNthUnstableBy husable sink.logged request
        (transport, []) perBatch hend

end Scalar

end SectorSync
