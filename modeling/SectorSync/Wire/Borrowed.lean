import SectorSync.Base.Views
import SectorSync.Wire.RoundTrip

/-!
# Borrowed replication frames

The decoder that borrows: it passes over the entities and the components of a replication frame,
keeps the slices that hold them and decodes them again in its iterators.  A slice is the list of
its bytes, and a borrowed component, whose payload is a slice, is a `ComponentDelta`.

`views_decodeReplicationRef` compares the two decoders layer by layer; `borrowed_owned_agree` is the
comparison for whole inputs, errors included.
-/

namespace SectorSync

open Bytes

/-- Error produced by borrowed replication-frame decoding. -/
inductive ReplicationFrameRefDecodeError where
  | binary (error : BinaryDecodeError)
  /-- The input was a valid known frame kind other than replication. -/
  | unexpectedFrameKind (kind : FrameKind)
  deriving DecidableEq

/-- Borrowed entity delta inside a `ReplicationFrameRef`. -/
structure EntityDeltaRef where
  entityId : EntityId
  ownerEpoch : OwnerEpoch
  encodedComponents : List UInt8
  encodedComponentCount : ℕ
  deriving DecidableEq

/-- Borrowed replication frame. -/
structure ReplicationFrameRef where
  clientId : ClientId
  serverTick : Tick
  entityCount : UInt32
  estimatedPayloadBytes : UInt32
  encodedEntities : List UInt8
  encodedEntityCount : ℕ
  deriving DecidableEq

namespace Wire

open Decoder

/-- The end of an entity: its component count and the slice of its components. -/
def decodeComponentsRef : Decoder (ℕ × List UInt8) := do
  let encodedComponentCount ← readU16
  let encodedComponents ← Reader.passed (decodeComponentRef.skip encodedComponentCount.toNat)
  return (encodedComponentCount.toNat, encodedComponents)

def decodeEntityRef : Decoder EntityDeltaRef := do
  let entityId ← readId64
  let ownerEpoch ← readId64
  let (encodedComponentCount, encodedComponents) ← decodeComponentsRef
  return { entityId, ownerEpoch, encodedComponents, encodedComponentCount }

/-- The end of a frame: its entity count and the slice of its entities. -/
def decodeEntitiesRef : Decoder (ℕ × List UInt8) := do
  let encodedEntityCount ← readU32
  let encodedEntities ← Reader.passed (decodeEntityRef.skip encodedEntityCount.toNat)
  return (encodedEntityCount.toNat, encodedEntities)

def decodeReplicationRef : Decoder ReplicationFrameRef := do
  let clientId ← readId64
  let serverTick ← readId64
  let entityCount ← readU32
  let estimatedPayloadBytes ← readU32
  let (encodedEntityCount, encodedEntities) ← decodeEntitiesRef
  return {
    clientId, serverTick, entityCount, estimatedPayloadBytes, encodedEntities,
    encodedEntityCount }

/-- Decodes one replication frame and borrows its entities from the input. -/
def decodeReplication (input : List UInt8) :
    Option (Except ReplicationFrameRefDecodeError ReplicationFrameRef) :=
  Reader.parse (do
    let kindByte ← Reader.mapError .binary readU8
    match FrameKind.fromByte kindByte with
    | none => Reader.fail (.binary (.unknownFrameKind kindByte))
    | some kind =>
        if kind ≠ .replication then Reader.fail (.unexpectedFrameKind kind)
        else do
          let frame ← Reader.mapError .binary decodeReplicationRef
          Reader.mapError .binary (Reader.finish .trailingBytes)
          return frame) input

end Wire

open Wire

namespace EntityDeltaRef

/-- Iterates component deltas. -/
def components (entity : EntityDeltaRef) : Iter :=
  .ofSlice entity.encodedComponents entity.encodedComponentCount

/-- The owned entity delta; `none` is an iterator that ends the program. -/
def toOwned (entity : EntityDeltaRef) : Option EntityDelta := do
  let components ← entity.components.collect decodeComponentRef
  return { entityId := entity.entityId, ownerEpoch := entity.ownerEpoch, components }

/-- What the decoder has checked of a borrowed entity. -/
def Validated (entity : EntityDeltaRef) : Prop :=
  entity.encodedComponentCount < 2 ^ 16
    ∧ SpellsRun ComponentDelta.body ComponentDelta.Fits entity.encodedComponents
        entity.encodedComponentCount

def body (entity : EntityDeltaRef) : List UInt8 :=
  le64 entity.entityId.get ++ le64 entity.ownerEpoch.get ++ toLe 2 entity.encodedComponentCount
    ++ entity.encodedComponents

end EntityDeltaRef

namespace ReplicationFrameRef

/-- Iterates concrete entity deltas. -/
def entities (frame : ReplicationFrameRef) : Iter :=
  .ofSlice frame.encodedEntities frame.encodedEntityCount

/-- The owned frame; `none` is an iterator that ends the program. -/
def toOwned (frame : ReplicationFrameRef) : Option ReplicationFrame := do
  let refs ← frame.entities.collect decodeEntityRef
  let entities ← refs.mapM EntityDeltaRef.toOwned
  return {
    clientId := frame.clientId
    serverTick := frame.serverTick
    entityCount := frame.entityCount
    estimatedPayloadBytes := frame.estimatedPayloadBytes
    entities }

/-- What the decoder has checked of a borrowed frame. -/
def Validated (frame : ReplicationFrameRef) : Prop :=
  frame.encodedEntityCount < 2 ^ 32
    ∧ SpellsRun EntityDeltaRef.body EntityDeltaRef.Validated frame.encodedEntities
        frame.encodedEntityCount

def body (frame : ReplicationFrameRef) : List UInt8 :=
  le64 frame.clientId.get ++ le64 frame.serverTick.get ++ le32 frame.entityCount
    ++ le32 frame.estimatedPayloadBytes ++ toLe 4 frame.encodedEntityCount ++ frame.encodedEntities

end ReplicationFrameRef

/-! ## Formats -/

namespace Wire

open Decoder

lemma parses_decodeEntityRef :
    Parses decodeEntityRef (Spells EntityDeltaRef.body EntityDeltaRef.Validated) :=
  (Parses.part EntityDeltaRef.entityId parses_readId64 fun _ =>
    Parses.part EntityDeltaRef.ownerEpoch parses_readId64 fun _ =>
    Parses.part
      (fun entity : EntityDeltaRef => (entity.encodedComponentCount, entity.encodedComponents))
      (Parses.countedSlice (fun _ h => UInt16.toNat_ofNat_of_lt' h) UInt16.toNat_lt parses_readU16
        parses_decodeComponentRef) fun _ =>
    Parses.record fun entity => by cases entity; simp [Prod.ext_iff]; tauto).ofParts
      (by simp [EntityDeltaRef.body]) (by simp [EntityDeltaRef.Validated])

lemma parses_decodeReplicationRef :
    Parses decodeReplicationRef (Spells ReplicationFrameRef.body ReplicationFrameRef.Validated) :=
  (Parses.part ReplicationFrameRef.clientId parses_readId64 fun _ =>
    Parses.part ReplicationFrameRef.serverTick parses_readId64 fun _ =>
    Parses.part ReplicationFrameRef.entityCount parses_readU32 fun _ =>
    Parses.part ReplicationFrameRef.estimatedPayloadBytes parses_readU32 fun _ =>
    Parses.part
      (fun frame : ReplicationFrameRef => (frame.encodedEntityCount, frame.encodedEntities))
      (Parses.countedSlice (fun _ h => UInt32.toNat_ofNat_of_lt' h) UInt32.toNat_lt parses_readU32
        parses_decodeEntityRef) fun _ =>
    Parses.record fun frame => by cases frame; simp [Prod.ext_iff]; tauto).ofParts
      (by simp [ReplicationFrameRef.body]) (by simp [ReplicationFrameRef.Validated])

/-! ## The two decoders -/

lemma views_decodeEntityRef : Views EntityDeltaRef.toOwned decodeEntityRef decodeEntity := by
  refine Views.before parses_readId64 fun entityId => ?_
  refine Views.before parses_readId64 fun ownerEpoch => ?_
  refine Views.bind (Views.countedSlice parses_readU16 parses_decodeComponentRef
    (Views.refl parses_decodeComponentRef)) fun part components h => Views.pure ?_
  obtain ⟨refs, hrefs, hcomponents⟩ := Option.bind_eq_some_iff.mp h
  obtain rfl : refs = components := by
    rw [show refs.mapM some = some (refs.map id) from List.mapM_pure, List.map_id] at hcomponents
    exact Option.some.inj hcomponents
  simp [EntityDeltaRef.toOwned, EntityDeltaRef.components, hrefs]

lemma views_decodeReplicationRef :
    Views ReplicationFrameRef.toOwned decodeReplicationRef decodeReplicationOwned := by
  refine Views.before parses_readId64 fun clientId => ?_
  refine Views.before parses_readId64 fun serverTick => ?_
  refine Views.before parses_readU32 fun entityCount => ?_
  refine Views.before parses_readU32 fun estimatedPayloadBytes => ?_
  refine Views.bind (Views.countedSlice parses_readU32 parses_decodeEntityRef
    views_decodeEntityRef) fun part entities h => Views.pure ?_
  obtain ⟨refs, hrefs, hentities⟩ := Option.bind_eq_some_iff.mp h
  simp [ReplicationFrameRef.toOwned, ReplicationFrameRef.entities, hrefs, hentities]

/-- The borrowing decoder after the kind byte of a replication frame. -/
def restRef : Decoder ReplicationFrameRef := do
  let frame ← decodeReplicationRef
  Reader.finish .trailingBytes
  return frame

/-- The owned decoder after the kind byte of a replication frame. -/
def restOwned : Decoder RuntimeFrame := do
  let frame ← (do
    let frame ← decodeReplicationOwned
    return RuntimeFrame.replication frame)
  Reader.finish .trailingBytes
  return frame

lemma views_rest :
    Views (fun frame => frame.toOwned.map RuntimeFrame.replication) restRef restOwned := by
  have hframe : Views (fun frame => frame.toOwned.map RuntimeFrame.replication)
      decodeReplicationRef (do
        let frame ← decodeReplicationOwned
        return RuntimeFrame.replication frame) := by
    rw [← Reader.bind_pure decodeReplicationRef]
    exact views_decodeReplicationRef.bind fun ref frame h => Views.pure (by simp [h])
  refine hframe.bind fun ref frame h => (Views.finish _).bind fun _ _ _ => Views.pure h

lemma readU8_start (kind : UInt8) (rest : List UInt8) :
    readU8 (Cursor.start (kind :: rest)) = some (.ok (kind, Cursor.after [kind] rest)) :=
  parses_readU8.complete ⟨rfl, trivial⟩ [] rest

lemma decodeReplication_of_replication {kind : UInt8} (rest : List UInt8)
    (h : FrameKind.fromByte kind = some .replication) :
    decodeReplication (kind :: rest)
      = (restRef (Cursor.after [kind] rest)).map fun result =>
          (result.map Prod.fst).mapError .binary := by
  have hrest : (do
      let frame ← Reader.mapError ReplicationFrameRefDecodeError.binary decodeReplicationRef
      Reader.mapError .binary (Reader.finish .trailingBytes)
      return frame) = Reader.mapError .binary restRef := by
    rw [restRef, Reader.mapError_bind]
    refine congrArg _ (funext fun frame => ?_)
    rw [Reader.mapError_bind]
    rfl
  unfold decodeReplication Reader.parse
  rw [Reader.bind_eq, Reader.mapError, readU8_start]
  simp only [h, ne_eq, not_true_eq_false, if_false]
  rw [hrest, Reader.mapError]
  rcases restRef (Cursor.after [kind] rest) with _ | error | ⟨frame, cursor⟩ <;> rfl

lemma decode_of_replication {kind : UInt8} (rest : List UInt8)
    (h : FrameKind.fromByte kind = some .replication) :
    decode (kind :: rest)
      = (restOwned (Cursor.after [kind] rest)).map fun result => result.map Prod.fst := by
  unfold decode Reader.parse
  rw [decodeRuntimeFrame, Reader.bind_eq, Reader.bind_eq, readU8_start]
  simp only [h]
  rfl

lemma decodeReplication_of_unknown {kind : UInt8} (rest : List UInt8)
    (h : FrameKind.fromByte kind = none) :
    decodeReplication (kind :: rest) = some (.error (.binary (.unknownFrameKind kind))) := by
  unfold decodeReplication Reader.parse
  rw [Reader.bind_eq, Reader.mapError, readU8_start]
  simp only [h]
  rfl

lemma decode_of_unknown {kind : UInt8} (rest : List UInt8) (h : FrameKind.fromByte kind = none) :
    decode (kind :: rest) = some (.error (.unknownFrameKind kind)) := by
  unfold decode Reader.parse
  rw [decodeRuntimeFrame, Reader.bind_eq, Reader.bind_eq, readU8_start]
  simp only [h]
  rfl

lemma decodeReplication_of_other {kind : UInt8} {known : FrameKind} (rest : List UInt8)
    (h : FrameKind.fromByte kind = some known) (hknown : known ≠ .replication) :
    decodeReplication (kind :: rest) = some (.error (.unexpectedFrameKind known)) := by
  unfold decodeReplication Reader.parse
  rw [Reader.bind_eq, Reader.mapError, readU8_start]
  simp only [h, ne_eq, hknown, not_false_eq_true, if_true]
  rfl

/-- A borrowed frame is only returned when all of its entities and components have been checked. -/
lemma validated_of_decodeReplication {input : List UInt8} {ref : ReplicationFrameRef}
    (h : decodeReplication input = some (.ok ref)) : ref.Validated := by
  cases input with
  | nil => cases h
  | cons kind rest =>
      rcases hkind : FrameKind.fromByte kind with _ | known
      · rw [decodeReplication_of_unknown rest hkind] at h
        cases h
      · by_cases hknown : known = .replication
        · subst hknown
          rw [decodeReplication_of_replication rest hkind, restRef, Reader.bind_eq] at h
          rcases hread : decodeReplicationRef (Cursor.after [kind] rest)
            with _ | error | ⟨frame, cursor⟩
          · simp [hread] at h
          · simp [hread, Except.map, Except.mapError] at h
          · obtain ⟨bytes, rest', rfl, ⟨rfl, hvalidated⟩, rfl⟩ :=
              parses_decodeReplicationRef.sound hread
            simp only [hread, Reader.bind_eq, Parses.finish] at h
            by_cases hrest : rest' = []
            · simp [hrest, Reader.pure_eq, Except.map, Except.mapError] at h
              rwa [← h]
            · simp [hrest, Except.map, Except.mapError] at h
        · rw [decodeReplication_of_other rest hkind hknown] at h
          cases h

end Wire

/-- The iterators of a checked entity. -/
lemma EntityDeltaRef.Validated.exactSize {entity : EntityDeltaRef} (h : entity.Validated) :
    entity.components.ExactSize decodeComponentRef entity.encodedComponentCount := by
  obtain ⟨-, components, hbytes, hfits, hcount⟩ := h
  rw [EntityDeltaRef.components, hbytes, ← hcount]
  exact Iter.exactSize_ofSlice parses_decodeComponentRef hfits

/-- The iterator of a checked frame, and that its entities are checked. -/
lemma ReplicationFrameRef.Validated.exactSize {frame : ReplicationFrameRef} (h : frame.Validated) :
    frame.entities.ExactSize decodeEntityRef frame.encodedEntityCount
      ∧ ∀ entities, frame.entities.collect decodeEntityRef = some entities →
        ∀ entity ∈ entities, entity.Validated := by
  obtain ⟨-, refs, hbytes, hvalidated, hcount⟩ := h
  rw [ReplicationFrameRef.entities, hbytes, ← hcount]
  refine ⟨Iter.exactSize_ofSlice parses_decodeEntityRef hvalidated, fun entities hcollect => ?_⟩
  rw [Iter.collect_ofSlice parses_decodeEntityRef hvalidated] at hcollect
  exact Option.some.inj hcollect ▸ hvalidated

/-- The input is empty, or its kind byte is that of a replication frame or of no frame. -/
def ReplicationOrUnknown (input : List UInt8) : Prop :=
  ∀ kind ∈ input.head?, FrameKind.fromByte kind = some .replication
    ∨ FrameKind.fromByte kind = none

/-- The decoders on an input that the borrowing one looks into. -/
lemma decoders_agree {input : List UInt8} (hinput : ReplicationOrUnknown input) :
    (∃ error, decodeReplication input = some (.error (.binary error))
        ∧ decode input = some (.error error))
      ∨ ∃ ref frame, decodeReplication input = some (.ok ref) ∧ ref.toOwned = some frame
        ∧ decode input = some (.ok (.replication frame)) := by
  cases input with
  | nil => exact .inl ⟨.truncated 1 0, rfl, rfl⟩
  | cons kind rest =>
      rcases hinput kind rfl with hkind | hkind
      · rw [decodeReplication_of_replication rest hkind, decode_of_replication rest hkind]
        rcases hread : restRef (Cursor.after [kind] rest) with _ | error | ⟨ref, cursor⟩
        · exact absurd hread (views_rest.inBounds [kind] rest)
        · exact .inl ⟨error, rfl, by rw [views_rest.error hread]; rfl⟩
        · obtain ⟨frame, hown, howned, -⟩ := views_rest.ok hread
          obtain ⟨owned, htoOwned, rfl⟩ := Option.map_eq_some_iff.mp hown
          exact .inr ⟨ref, owned, rfl, htoOwned, by rw [howned]; rfl⟩
      · exact .inl ⟨.unknownFrameKind kind, decodeReplication_of_unknown rest hkind,
          decode_of_unknown rest hkind⟩

/-- **The borrowed and the owned decoder agree.**  On an input that is empty or whose kind byte is
that of a replication frame or unknown, both fail with one error or both succeed with one frame; and
the iterators of an accepted borrowed frame return as many values as were counted. -/
theorem borrowed_owned_agree (input : List UInt8) :
    (ReplicationOrUnknown input →
      (∃ error, decodeReplication input = some (.error (.binary error))
          ∧ decode input = some (.error error))
        ∨ ∃ ref frame, decodeReplication input = some (.ok ref) ∧ ref.toOwned = some frame
          ∧ decode input = some (.ok (.replication frame)))
      ∧ ∀ ref, decodeReplication input = some (.ok ref) →
        ref.entities.ExactSize decodeEntityRef ref.encodedEntityCount
          ∧ ∀ entities, ref.entities.collect decodeEntityRef = some entities →
            ∀ entity ∈ entities,
              entity.components.ExactSize decodeComponentRef entity.encodedComponentCount := by
  refine ⟨decoders_agree, fun ref href => ?_⟩
  obtain ⟨hsize, hentities⟩ := (validated_of_decodeReplication href).exactSize
  exact ⟨hsize, fun entities hcollect entity hentity =>
    (hentities entities hcollect entity hentity).exactSize⟩

/-- A frame with an entity and a component. -/
theorem borrowed_owned_agree_one_entity :
    ∃ ref, decodeReplication (RuntimeFrame.replication oneEntityFrame).bytes = some (.ok ref)
      ∧ ref.toOwned = some oneEntityFrame
      ∧ ref.entities.ExactSize decodeEntityRef ref.encodedEntityCount := by
  have hdecode : decode (RuntimeFrame.replication oneEntityFrame).bytes
      = some (.ok (.replication oneEntityFrame)) := by decide +kernel
  obtain ⟨hagree, hexact⟩ :=
    borrowed_owned_agree (RuntimeFrame.replication oneEntityFrame).bytes
  rcases hagree (fun kind hkind => .inl (by rw [← Option.some.inj hkind]; rfl)) with
    ⟨error, -, herror⟩ | ⟨ref, frame, href, htoOwned, hframe⟩
  · rw [hdecode] at herror
    cases herror
  · rw [hdecode] at hframe
    cases hframe
    exact ⟨ref, href, htoOwned, (hexact ref href).1⟩

/-! ## What an input is for the two decoders -/

/-- The values of a checked entity, as counted and as owned. -/
lemma EntityDeltaRef.Validated.length_of_toOwned {entity : EntityDeltaRef} {owned : EntityDelta}
    (h : entity.Validated) (htoOwned : entity.toOwned = some owned) :
    owned.components.length = entity.encodedComponentCount := by
  obtain ⟨components, hlength, hcollect, -⟩ := h.exactSize
  simp only [EntityDeltaRef.toOwned, hcollect] at htoOwned
  cases htoOwned
  exact hlength

lemma map_encodedComponentCount {refs : List EntityDeltaRef} {entities : List EntityDelta}
    (h : ∀ entity ∈ refs, entity.Validated)
    (htoOwned : refs.mapM EntityDeltaRef.toOwned = some entities) :
    refs.map EntityDeltaRef.encodedComponentCount = entities.map (·.components.length) := by
  induction refs generalizing entities with
  | nil =>
      obtain rfl := Option.some.inj htoOwned
      rfl
  | cons ref refs ih =>
      simp only [List.mapM_cons, bind, Option.bind_eq_some_iff] at htoOwned
      obtain ⟨owned, howned, rest, hrest, heq⟩ := htoOwned
      obtain rfl := Option.some.inj heq
      rw [List.map_cons, List.map_cons, (h ref List.mem_cons_self).length_of_toOwned howned,
        ih (fun entity hentity => h entity (List.mem_cons_of_mem _ hentity)) hrest]

/-- The values of a checked frame, as counted and as owned. -/
lemma ReplicationFrameRef.Validated.counts_of_toOwned {ref : ReplicationFrameRef}
    {frame : ReplicationFrame} (h : ref.Validated) (htoOwned : ref.toOwned = some frame) :
    frame.clientId = ref.clientId ∧ frame.entities.length = ref.encodedEntityCount
      ∧ ∃ entities, ref.entities.collect decodeEntityRef = some entities
        ∧ entities.map EntityDeltaRef.encodedComponentCount
          = frame.entities.map (·.components.length) := by
  obtain ⟨⟨refs, hlength, hcollect, -⟩, hvalidated⟩ := h.exactSize
  obtain ⟨refs', hrefs, hbind⟩ := Option.bind_eq_some_iff.mp htoOwned
  obtain rfl : refs = refs' := Option.some.inj (hcollect.symm.trans hrefs)
  obtain ⟨entities, hentities, hframe⟩ := Option.bind_eq_some_iff.mp hbind
  obtain rfl := Option.some.inj hframe
  have heq := map_encodedComponentCount (hvalidated refs hcollect) hentities
  have hlengths := congrArg List.length heq
  rw [List.length_map, List.length_map] at hlengths
  exact ⟨rfl, hlengths.symm.trans hlength, refs, hcollect, heq⟩

/-- What an input is: malformed for both decoders, a replication frame for both, or of another known
kind, which only the owned decoder looks into. -/
inductive Reads (input : List UInt8) : Prop where
  | malformed {error : BinaryDecodeError}
      (href : decodeReplication input = some (.error (.binary error)))
      (howned : decoded input = .error error)
  | replication {ref : ReplicationFrameRef} {frame : ReplicationFrame}
      (href : decodeReplication input = some (.ok ref)) (htoOwned : ref.toOwned = some frame)
      (howned : decoded input = .ok (.replication frame))
  | other {kind : FrameKind} (hother : kind ≠ .replication)
      (hhead : input.head?.bind FrameKind.fromByte = some kind)
      (href : decodeReplication input = some (.error (.unexpectedFrameKind kind)))
      (howned : ∀ frame, decoded input ≠ .ok (.replication frame))

/-- Every input is one of these. -/
lemma reads (input : List UInt8) : Reads input := by
  by_cases hinput : ReplicationOrUnknown input
  · have hdecode := decode_eq_decoded input
    rcases decoders_agree hinput with
      ⟨error, href, howned⟩ | ⟨ref, frame, href, htoOwned, howned⟩
    · exact .malformed href (Option.some.inj (hdecode.symm.trans howned))
    · exact .replication href htoOwned (Option.some.inj (hdecode.symm.trans howned))
  · simp only [ReplicationOrUnknown, not_forall, not_or] at hinput
    obtain ⟨byte, hhead, hreplication, hknown⟩ := hinput
    obtain ⟨kind, hkind⟩ := Option.ne_none_iff_exists'.mp hknown
    obtain ⟨rest, rfl⟩ : ∃ rest, input = byte :: rest := List.head?_eq_some_iff.mp hhead
    have hother : kind ≠ .replication := by
      rintro rfl
      exact hreplication hkind
    refine .other hother hkind (decodeReplication_of_other rest hkind hother) fun frame howned => ?_
    have hdecode := decode_eq_decoded (byte :: rest)
    rw [howned, decode_eq_ok_iff] at hdecode
    obtain ⟨rest', heq, -⟩ := hdecode
    obtain ⟨rfl, -⟩ := List.cons.inj heq
    exact hreplication rfl

end SectorSync
