import SectorSync.Base.Rollback
import SectorSync.Wire.DirectEncoding

/-!
# What an encoder that fails leaves behind

An encoder appends field by field and finds out on the way that a length does not fit its field.  It
takes back an entity without components and an entity that leaves the byte budget, but an error
leaves in the buffer what stands there, beginning with the kind of the frame.

`encoders_atomic_iff` says for which inputs the buffer is the same after every error.  For a frame
that is when all its lengths fit; for a plan it is when the bounded encoder meets no length that
does not fit, which depends on the byte budget (`Writable`).
-/

namespace SectorSync

open Bytes Wire Encoder

variable {F : Type} {pre : List UInt8}

/-! ## The fields -/

lemma retains_writeU8 (value : UInt8) : Retains pre (writeU8 value) := .extend _

lemma retains_writeU16 (value : UInt16) : Retains pre (writeU16 value) := .extend _

lemma retains_writeU32 (value : UInt32) : Retains pre (writeU32 value) := .extend _

lemma retains_writeU64 (value : UInt64) : Retains pre (writeU64 value) := .extend _

lemma retains_writeLenU16 (field : String) (len : ℕ) : Retains pre (writeLenU16 field len) :=
  .ite (.extend _) (.fail _)

lemma retains_writeLenU32 (field : String) (len : ℕ) : Retains pre (writeLenU32 field len) :=
  .ite (.extend _) (.fail _)

lemma retains_writeBytes (field : String) (bytes : List UInt8) :
    Retains pre (writeBytes field bytes) :=
  .ite (.extend _) (.fail _)

/-! ## The encoders of frames -/

/-- However the encoder ends, the kind of the frame stays behind the buffer. -/
lemma kind_prefix_encodeReplication (frame : ReplicationFrame) (out : List UInt8) :
    out ++ [FrameKind.replication.toByte] <+: (encodeReplication frame out).2 := by
  unfold encodeReplication
  refine Retains.behind ?_
  refine (retains_writeU64 _).bind fun _ => (retains_writeU64 _).bind fun _ =>
    (retains_writeU32 _).bind fun _ => (retains_writeU32 _).bind fun _ =>
    (retains_writeLenU32 _ _).bind fun _ => .forM (fun entity => ?_) _
  refine (retains_writeU64 _).bind fun _ => (retains_writeU64 _).bind fun _ =>
    (retains_writeLenU16 _ _).bind fun _ => .forM (fun component => ?_) _
  exact (retains_writeU16 _).bind fun _ => (retains_writeU64 _).bind fun _ =>
    (retains_writeU8 _).bind fun _ => retains_writeBytes _ _

lemma kind_prefix_encodeCommand (frame : CommandFrame) (out : List UInt8) :
    out ++ [FrameKind.command.toByte] <+: (encodeCommand frame out).2 := by
  unfold encodeCommand
  refine Retains.behind ?_
  exact (retains_writeU64 _).bind fun _ => (retains_writeU64 _).bind fun _ =>
    (retains_writeU64 _).bind fun _ => (retains_writeU64 _).bind fun _ =>
    (retains_writeU32 _).bind fun _ => (retains_writeU8 _).bind fun _ => retains_writeBytes _ _

lemma kind_prefix_encodeCommandDispatch (frame : CommandDispatchFrame) (out : List UInt8) :
    out ++ [FrameKind.commandDispatch.toByte] <+: (encodeCommandDispatch frame out).2 := by
  unfold encodeCommandDispatch
  refine Retains.behind ?_
  exact (retains_writeU32 _).bind fun _ => (retains_writeU64 _).bind fun _ =>
    (retains_writeU64 _).bind fun _ => (retains_writeU64 _).bind fun _ =>
    (retains_writeU64 _).bind fun _ => (retains_writeU64 _).bind fun _ =>
    (retains_writeU32 _).bind fun _ => (retains_writeU8 _).bind fun _ => retains_writeBytes _ _

/-- An encoder of frames is atomic exactly on the frames that it encodes. -/
lemma atomic_encode_iff (frame : RuntimeFrame) (out : List UInt8) :
    Atomic (Wire.encode frame) out ↔ frame.Fits := by
  cases frame with
  | replication frame =>
      exact (writes_encodeReplication frame).atomic_iff (kind_prefix_encodeReplication frame out)
  | command frame =>
      exact (writes_encodeCommand frame).atomic_iff (kind_prefix_encodeCommand frame out)
  | commandDispatch frame =>
      exact (writes_encodeCommandDispatch frame).atomic_iff
        (kind_prefix_encodeCommandDispatch frame out)
  | commandAck frame => exact iff_of_true (writes_encodeCommandAck frame).atomic trivial
  | barrier frame => exact iff_of_true (writes_encodeBarrier frame).atomic trivial
  | stationEvent frame => exact iff_of_true (writes_encodeStationEvent frame).atomic trivial

/-! ## The encoder of a plan -/

namespace ReplicationFrameBuilder

section Retained

variable (builder : ReplicationFrameBuilder) (station : Station F) (components : ComponentStore)
  (selection : ComponentSelection)

lemma retains_encodeComponent (handle : EntityHandle) (encoded : EncodedComponents)
    (componentId : ComponentId) :
    Retains pre (builder.encodeComponent components handle encoded componentId) := by
  unfold encodeComponent
  refine .ite (.pure _) ?_
  split
  · exact .pure _
  · refine .ite (.pure _) (.ite (.pure _) ?_)
    exact (retains_writeU16 _).bind fun _ => (retains_writeU64 _).bind fun _ =>
      (retains_writeU8 _).bind fun _ => (retains_writeBytes _ _).bind fun _ => .pure _

/-- What the body of the entity loop takes back or patches, it has appended itself. -/
lemma retains_encodeEntity (maxFrameBytes frameStart : ℕ) (encoded : EncodedEntities)
    (handle : EntityHandle) :
    Retains pre (builder.encodeEntity station components selection maxFrameBytes frameStart encoded
      handle) := by
  unfold encodeEntity
  refine .ite (.pure _) ?_
  split
  · exact .pure _
  · refine .len_bind fun entityStart hstart => ?_
    refine (retains_writeU64 _).bind fun _ => (retains_writeU64 _).bind fun _ => ?_
    refine .len_bind fun componentCountOffset hoffset => ?_
    refine (retains_writeU16 _).bind fun _ => ?_
    refine (Retains.foldlM (builder.retains_encodeComponent components handle) _ _).bind
      fun inner => ?_
    refine .ite ((Retains.truncate hstart).bind fun _ => .pure _) (.len_bind fun len _ => ?_)
    refine .ite ((Retains.truncate hstart).bind fun _ => .pure _) (.ite ?_ (.fail _))
    exact (Retains.overwrite hoffset _).bind fun _ => .pure _

lemma retains_encodeEntities (maxFrameBytes frameStart : ℕ) (handles : List EntityHandle)
    (encoded : EncodedEntities) :
    Retains pre (builder.encodeEntities station components selection maxFrameBytes frameStart
      handles encoded) := by
  induction handles generalizing encoded with
  | nil => exact .pure _
  | cons handle handles ih =>
      rw [encodeEntities]
      refine (builder.retains_encodeEntity station components selection _ _ _ _).bind fun step => ?_
      cases step with
      | yield encoded => exact ih encoded
      | done encoded => exact .pure _

lemma kind_prefix_encodeBinaryBoundedInto (clientId : ClientId) (serverTick : Tick)
    (plan : ReplicationPlan) {maxFrameBytes : ℕ} (hbudget : binaryHeaderBytes ≤ maxFrameBytes)
    (out : List UInt8) :
    out ++ [FrameKind.replication.toByte]
      <+: (builder.encodeBinaryBoundedInto station components selection clientId serverTick plan
        maxFrameBytes out).2 := by
  have hfixed : out ++ [FrameKind.replication.toByte]
      <+: out ++ fixedBytes clientId serverTick plan :=
    List.prefix_append_right_inj out |>.mpr (by simp [fixedBytes])
  rw [encodeBinaryBoundedInto_eq builder station components selection clientId serverTick plan
    hbudget]
  refine Retains.bind (builder.retains_encodeEntities station components selection _ _ _ _)
    (fun encoded => ?_) ?_
  · unfold patchHeader
    refine .ite ?_ (.fail _)
    refine (Retains.overwrite hfixed.length_le _).bind fun _ => ?_
    refine (Retains.overwrite ?_ _).bind fun _ => .pure _
    exact (hfixed.trans (List.prefix_append _ _)).length_le
  · simp [headerBytes]

end Retained

/-- What the entity loop asks of the entities of `build`.  It writes the payloads of an entity
before it looks at the byte budget and checks the number of its components after, so the first
entity that leaves the budget has to have payloads that fit. -/
structure EntitiesWritable (maxFrameBytes : ℕ) (entities : List EntityDelta) : Prop where
  payloads : ∀ {taken entity}, taken ++ [entity] <+: entities → frameSize taken ≤ maxFrameBytes →
    ∀ component ∈ entity.components, component.Fits
  counts : ∀ {taken entity}, taken ++ [entity] <+: entities →
    frameSize (taken ++ [entity]) ≤ maxFrameBytes → entity.components.length < 2 ^ 16

/-- What the bounded encoder asks of them: the number of those that the budget holds fits too. -/
structure Writable (maxFrameBytes : ℕ) (entities : List EntityDelta) : Prop
    extends EntitiesWritable maxFrameBytes entities where
  few : ∀ {taken}, taken <+: entities → frameSize taken ≤ maxFrameBytes → taken.length < 2 ^ 32

/-- A budget below the header holds nothing. -/
lemma Writable.of_small {maxFrameBytes : ℕ} (hsmall : maxFrameBytes < binaryHeaderBytes)
    (entities : List EntityDelta) : Writable maxFrameBytes entities := by
  have hbeyond : ∀ {taken : List EntityDelta}, ¬ frameSize taken ≤ maxFrameBytes := by
    intro taken hwithin
    rw [frameSize] at hwithin
    omega
  exact ⟨⟨fun _ hwithin => absurd hwithin hbeyond, fun _ hwithin => absurd hwithin hbeyond⟩,
    fun _ hwithin => absurd hwithin hbeyond⟩

namespace EntitiesWritable

variable {maxFrameBytes : ℕ} {entities taken : List EntityDelta} {entity : EntityDelta}

lemma of_fits (hfits : ∀ entity ∈ entities, entity.Fits) :
    EntitiesWritable maxFrameBytes entities where
  payloads hextends _ := (hfits _ (hextends.subset (by simp))).2
  counts hextends _ := (hfits _ (hextends.subset (by simp))).1

/-- The entities behind the first that leaves the budget are not looked at. -/
lemma of_beyond (hextends : taken ++ [entity] <+: entities) (hfits : ∀ entity ∈ taken, entity.Fits)
    (hbeyond : maxFrameBytes < frameSize (taken ++ [entity]))
    (hpayloads : ∀ component ∈ entity.components, component.Fits) :
    EntitiesWritable maxFrameBytes entities := by
  have hreached : ∀ {before next}, before ++ [next] <+: entities →
      frameSize before ≤ maxFrameBytes → before ++ [next] = taken ++ [entity] ∨ next.Fits := by
    intro before next hnext hwithin
    have hofPrefix : before ++ [next] <+: taken → next.Fits := fun h =>
      hfits next (h.subset (by simp))
    rcases List.prefix_or_prefix_of_prefix hnext hextends with h | h
    · exact (List.prefix_concat_iff.mp h).imp_right hofPrefix
    · rcases List.prefix_concat_iff.mp h with heq | h
      · exact .inl heq.symm
      · have hle := frameSize_mono h
        omega
  constructor
  · intro before next hnext hwithin
    rcases hreached hnext hwithin with heq | hfit
    · rwa [(List.append_inj' heq rfl).2 |> List.singleton_inj.mp]
    · exact hfit.2
  · intro before next hnext hwithin
    have hle := frameSize_mono (List.prefix_append before [next])
    rcases hreached hnext (hle.trans hwithin) with heq | hfit
    · rw [heq] at hwithin
      omega
    · exact hfit.1

end EntitiesWritable

section Atomic

variable (builder : ReplicationFrameBuilder) (station : Station F) (components : ComponentStore)
  (selection : ComponentSelection)

/-- The entity loop succeeds exactly when it meets no length that does not fit.  The induction is
over the handles; what is already in the buffer fits. -/
lemma encodeEntities_succeeds_iff {maxFrameBytes frameStart : ℕ}
    (hpre : pre.length = frameStart + binaryHeaderBytes) (handles : List EntityHandle)
    {built : BuiltEntities} (hcounted : built.Counted)
    (hfits : ∀ entity ∈ built.entityDeltas, entity.Fits)
    (hwithin : frameSize built.entityDeltas ≤ maxFrameBytes) :
    (∃ encoded out, builder.encodeEntities station components selection maxFrameBytes frameStart
        handles built.shown (pre ++ built.bytes) = (.ok encoded, out))
      ↔ EntitiesWritable maxFrameBytes
        (handles.foldl (builder.buildEntity station components selection) built).entityDeltas := by
  induction handles generalizing built with
  | nil => exact iff_of_true ⟨_, _, rfl⟩ (.of_fits hfits)
  | cons handle handles ih =>
      obtain ⟨hstep, hdecided⟩ : EntityDecided maxFrameBytes pre _ _ _ :=
        builder.encodeEntity_decided station components selection hpre hcounted handle
      have hlater := builder.entityDeltas_foldl_prefix station components selection handles
        (builder.buildEntity station components selection built handle)
      rw [encodeEntities, List.foldl_cons]
      generalize hend : builder.encodeEntity station components selection maxFrameBytes frameStart
        built.shown handle (pre ++ built.bytes) = result at hstep hdecided
      cases hstep with
      | @failed entity htaken hentity error out =>
          rw [Writer.bind_error hend]
          have hrefused := hdecided entity htaken
          rw [htaken] at hlater hrefused
          refine iff_of_false (by simp) fun hwritable => ?_
          rcases hrefused with hpayloads | ⟨hsize, hcount⟩
          · exact hpayloads (hwritable.payloads hlater hwithin)
          · exact hcount (hwritable.counts hlater hsize)
      | @stopped entity htaken hbeyond stats hentities hcomponents hskipped =>
          rw [Writer.bind_ok hend]
          have hpayloads := hdecided entity htaken
          rw [htaken] at hbeyond hlater
          exact iff_of_true ⟨_, _, rfl⟩ (.of_beyond hlater hfits hbeyond hpayloads)
      | went hshown hbytes hnextFits hnextWithin hnextCounted =>
          rw [Writer.bind_ok hend, hshown, hbytes]
          exact ih hnextCounted (hnextFits hfits) (hnextWithin hwithin)

variable (clientId : ClientId) (serverTick : Tick) (plan : ReplicationPlan)

lemma patchHeader_succeeds_iff (out buffer : List UInt8) (encoded : EncodedEntities) :
    (∃ stats out', patchHeader clientId serverTick plan out encoded buffer = (.ok stats, out'))
      ↔ encoded.stats.encodedEntities < 2 ^ 32 := by
  unfold patchHeader
  by_cases hlt : encoded.stats.encodedEntities < 2 ^ 32
  · rw [if_pos hlt]
    exact iff_of_true ⟨_, _, rfl⟩ hlt
  · rw [if_neg hlt]
    exact iff_of_false (by simp [Writer.fail]) hlt

/-- The longest prefix within the budget has the most entities. -/
lemma LongestPrefix.few_iff {maxFrameBytes : ℕ} {entities all : List EntityDelta}
    (hlongest : LongestPrefix maxFrameBytes entities all) :
    entities.length < 2 ^ 32
      ↔ ∀ {taken}, taken <+: all → frameSize taken ≤ maxFrameBytes → taken.length < 2 ^ 32 := by
  obtain ⟨hextends, hwithin, hmost⟩ := hlongest
  constructor
  · intro hlt taken htaken hsize
    exact (hmost taken htaken hsize).length_le.trans_lt hlt
  · intro hfew
    exact hfew hextends hwithin

/-- The entity loop behind the header. -/
lemma encodeEntities_header_succeeds_iff {maxFrameBytes : ℕ}
    (hbudget : binaryHeaderBytes ≤ maxFrameBytes) (out : List UInt8) :
    (∃ encoded out', builder.encodeEntities station components selection maxFrameBytes out.length
        plan.entities (startEntities plan).shown
        (out ++ headerBytes clientId serverTick plan (le32 0) (le32 0)
          ++ (startEntities plan).bytes) = (.ok encoded, out'))
      ↔ EntitiesWritable maxFrameBytes
        (builder.buildEntities station components selection plan).entityDeltas :=
  builder.encodeEntities_succeeds_iff station components selection
    (length_headerBytes clientId serverTick plan out) plan.entities ⟨rfl, rfl⟩
    (by simp [startEntities]) (by simpa [frameSize, startEntities] using hbudget)

lemma encodeBinaryBoundedInto_succeeds_iff {maxFrameBytes : ℕ}
    (hbudget : binaryHeaderBytes ≤ maxFrameBytes) (out : List UInt8) :
    (∃ stats out', builder.encodeBinaryBoundedInto station components selection clientId serverTick
        plan maxFrameBytes out = (.ok stats, out'))
      ↔ Writable maxFrameBytes
        (builder.build station components selection clientId serverTick plan).frame.entities := by
  have hloop := builder.encodeEntities_header_spec station components selection clientId serverTick
    plan hbudget out
  have hsucceeds := builder.encodeEntities_header_succeeds_iff station components selection clientId
    serverTick plan hbudget out
  change _ ↔ Writable maxFrameBytes
    (builder.buildEntities station components selection plan).entityDeltas
  rw [encodeBinaryBoundedInto_eq builder station components selection clientId serverTick plan
    hbudget]
  generalize hend : builder.encodeEntities station components selection maxFrameBytes out.length
    plan.entities (startEntities plan).shown _ = result at hloop hsucceeds
  -- Past the entity loop, what remains is the number of entities.
  have hpatched : ∀ {encoded out' taken}, result = (.ok encoded, out') →
      encoded.stats.encodedEntities = taken.length →
      LongestPrefix maxFrameBytes taken
        (builder.buildEntities station components selection plan).entityDeltas →
      ((∃ stats out'', patchHeader clientId serverTick plan out encoded out' = (.ok stats, out''))
        ↔ Writable maxFrameBytes
          (builder.buildEntities station components selection plan).entityDeltas) := by
    intro encoded out' taken hok hcount hlongest
    rw [patchHeader_succeeds_iff, hcount, hlongest.few_iff]
    have hwritable := hsucceeds.mp ⟨_, _, hok⟩
    exact ⟨fun hfew => ⟨hwritable, hfew⟩, fun h => h.few⟩
  cases hloop with
  | failed hfits error out' =>
      rw [Writer.bind_error hend]
      refine iff_of_false (by simp) fun hwritable => ?_
      obtain ⟨encoded, out'', hok⟩ := hsucceeds.mpr hwritable.toEntitiesWritable
      cases hok
  | stopped hextends hfits hwithin hbeyond hentities hcomponents hskipped =>
      rw [Writer.bind_ok hend]
      exact hpatched rfl hentities (longestPrefix_of_beyond hextends hwithin hbeyond)
  | finished hfits hwithin hcounted =>
      rw [Writer.bind_ok hend]
      exact hpatched rfl rfl ⟨List.prefix_rfl, hwithin, fun longer hlonger _ => hlonger⟩

/-- The encoder of a plan is atomic exactly on the plans that it encodes, and with a budget that
does not hold the header. -/
lemma atomic_encodeBinaryBoundedInto_iff (maxFrameBytes : ℕ) (out : List UInt8) :
    Atomic (builder.encodeBinaryBoundedInto station components selection clientId serverTick plan
        maxFrameBytes) out
      ↔ Writable maxFrameBytes
        (builder.build station components selection clientId serverTick plan).frame.entities := by
  rcases Nat.lt_or_ge maxFrameBytes binaryHeaderBytes with hsmall | hbudget
  · refine iff_of_true ?_ (.of_small hsmall _)
    intro error out' herror
    rw [encodeBinaryBoundedInto, if_pos hsmall] at herror
    exact (Prod.mk.inj herror).2.symm
  · rw [atomic_iff_succeeds (builder.kind_prefix_encodeBinaryBoundedInto station components
      selection clientId serverTick plan hbudget out)]
    exact builder.encodeBinaryBoundedInto_succeeds_iff station components selection clientId
      serverTick plan hbudget out

end Atomic

end ReplicationFrameBuilder

/-- **Atomicity of the encoders.**  Whatever the buffer holds, an encoder of frames that fails
leaves it as it was exactly for the frames whose lengths all fit, on which it does not fail; and the
encoder of a plan does so exactly when the entities of `build` are `Writable` within the byte
budget, which for a budget below the header they are. -/
theorem encoders_atomic_iff (out : List UInt8) :
    (∀ frame : RuntimeFrame, Atomic (Wire.encode frame) out ↔ frame.Fits)
      ∧ (∀ (stationId : StationId) (envelope : CommandEnvelope),
        Atomic (encodeCommandDispatchEnvelope stationId envelope) out
          ↔ PayloadFits envelope.payload)
      ∧ ∀ {F : Type} (builder : ReplicationFrameBuilder) (station : Station F)
        (components : ComponentStore) (selection : ComponentSelection) (clientId : ClientId)
        (serverTick : Tick) (plan : ReplicationPlan),
        let entities :=
          (builder.build station components selection clientId serverTick plan).frame.entities
        (∀ maxFrameBytes, Atomic (builder.encodeBinaryBoundedInto station components selection
            clientId serverTick plan maxFrameBytes) out
          ↔ ReplicationFrameBuilder.Writable maxFrameBytes entities)
        ∧ (Atomic (builder.encodeBinaryInto station components selection clientId serverTick plan)
            out
          ↔ ReplicationFrameBuilder.Writable usizeMax entities) := by
  refine ⟨fun frame => atomic_encode_iff frame out, fun stationId envelope => ?_, ?_⟩
  · exact atomic_encode_iff (.commandDispatch (.fromEnvelope stationId envelope)) out
  · intro F builder station components selection clientId serverTick plan
    have hbounded := builder.atomic_encodeBinaryBoundedInto_iff station components selection
      clientId serverTick plan
    exact ⟨fun maxFrameBytes => hbounded maxFrameBytes out, hbounded usizeMax out⟩

/-- What is left behind by a frame whose first entity has too many components. -/
lemma encodeReplication_crowded (frame : ReplicationFrame) {entity : EntityDelta}
    {entities : List EntityDelta} (hentities : frame.entities = entity :: entities)
    (hfew : frame.entities.length < 2 ^ 32) (hcrowded : ¬ entity.components.length < 2 ^ 16)
    (out : List UInt8) :
    encodeReplication frame out
      = (.error (.tooManyItems "replication.entity.components" entity.components.length),
        out ++ ([FrameKind.replication.toByte] ++ le64 frame.clientId.get
          ++ le64 frame.serverTick.get ++ le32 frame.entityCount ++ le32 frame.estimatedPayloadBytes
          ++ toLe 4 frame.entities.length ++ le64 entity.entityId.get
          ++ le64 entity.ownerEpoch.get)) := by
  have hlength : Writes (writeLenU32 "replication.entities" frame.entities.length) _ _ :=
    Writes.checked _ _ _
  have hcount : ∀ buffer,
      writeLenU16 "replication.entity.components" entity.components.length buffer
      = (.error (.tooManyItems "replication.entity.components" entity.components.length),
        buffer) := by
    intro buffer
    rw [writeLenU16, if_neg hcrowded]
    rfl
  rw [encodeReplication, Writer.bind_ok ((writes_writeU8 _).appends trivial _),
    Writer.bind_ok ((writes_writeU64 _).appends trivial _),
    Writer.bind_ok ((writes_writeU64 _).appends trivial _),
    Writer.bind_ok ((writes_writeU32 _).appends trivial _),
    Writer.bind_ok ((writes_writeU32 _).appends trivial _),
    Writer.bind_ok (hlength.appends hfew _), hentities, List.forM]
  refine Writer.bind_error ?_ _
  rw [Writer.bind_ok ((writes_writeU64 _).appends trivial _),
    Writer.bind_ok ((writes_writeU64 _).appends trivial _), Writer.bind_error (hcount _)]
  simp

/-- A frame of one entity, with one component more than its count can say. -/
def crowdedFrame : ReplicationFrame where
  clientId := ⟨5⟩
  serverTick := ⟨9⟩
  entityCount := 1
  estimatedPayloadBytes := 0
  entities := [⟨⟨7⟩, ⟨0⟩, List.replicate (2 ^ 16) ⟨⟨1⟩, 0, 0, []⟩⟩]

/-- Its encoder fails, and leaves the header and the head of the entity behind the buffer. -/
theorem crowded_frame_left_behind :
    Wire.encode (.replication crowdedFrame) [9, 8, 7]
        = (.error (.tooManyItems "replication.entity.components" (2 ^ 16)),
          [9, 8, 7] ++ ([FrameKind.replication.toByte] ++ le64 5 ++ le64 9 ++ le32 1 ++ le32 0
            ++ toLe 4 1 ++ le64 7 ++ le64 0))
      ∧ ¬ ∀ (frame : RuntimeFrame) (out : List UInt8), Atomic (Wire.encode frame) out := by
  have hmany : (List.replicate (2 ^ 16) (⟨⟨1⟩, 0, 0, []⟩ : ComponentDelta)).length = 2 ^ 16 :=
    List.length_replicate
  have hend := encodeReplication_crowded crowdedFrame rfl (by decide)
    (by rw [hmany]; decide) [9, 8, 7]
  rw [hmany] at hend
  refine ⟨hend, fun hatomic => ?_⟩
  have hsame := congrArg List.length (hatomic (.replication crowdedFrame) _ _ _ hend)
  simp [le64, le32] at hsame

end SectorSync
