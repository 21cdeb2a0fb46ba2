import SectorSync.Transport.PacketSecurity

/-!
# Envelope codecs

The envelopes of the transport crate as they are appended to a caller's buffer: security envelopes
and the frames of the two reliable links.  Each encoder and its decoder are inverse to each other,
and the payload of a reliable data frame can be taken out of the wire bytes in place.

`encodeInto` appends the fields of a frame one by one, so that a payload whose length does not fit
its field is found after the header has been appended.
-/

namespace SectorSync

open Bytes

/-! ## Security envelopes -/

namespace PacketSecurityEnvelope

/-- Encodes a packet security envelope. -/
def encode (config : PacketSecurityConfig) (envelope : PacketSecurityEnvelope) :
    Bytes.Writer PacketSecurityEncodeError Unit :=
  encodeParts config envelope.keyId envelope.nonce envelope.payload envelope.tag

lemma writes_encode (config : PacketSecurityConfig) (envelope : PacketSecurityEnvelope) :
    Writes (encode config envelope) (envelope.Fits config)
      (packetSecurityMagic ++ envelope.body) where
  appends := by
    intro hfits out
    rcases encodeParts_cases config envelope with ⟨-, happends⟩ | ⟨hnot, -⟩
    · exact happends out
    · exact absurd hfits hnot
  fails := by
    intro hnot out
    rcases encodeParts_cases config envelope with ⟨hfits, -⟩ | ⟨-, error, hfails⟩
    · exact absurd hfits hnot
    · exact ⟨error, out, hfails out⟩

lemma decode_eq_ok_iff (config : PacketSecurityConfig) (input : List UInt8)
    (envelope : PacketSecurityEnvelope) :
    decode config input = .ok envelope
      ↔ Spells (fun envelope => packetSecurityMagic ++ envelope.body) (Fits config) input
        envelope := by
  rw [← (parses_envelope config).parse_eq_ok_iff PacketSecurityDecodeError.trailingBytes, decode,
    ← Option.some_inj, Option.some_get]
  rfl

/-- Envelopes are encoded and decoded inversely. -/
theorem inverse_encode (config : PacketSecurityConfig) : Inverse (encode config) (decode config) :=
  Inverse.of_spells (writes_encode config) (decode_eq_ok_iff config)

end PacketSecurityEnvelope

/-! ## Reliable frames -/

namespace ReliableFrame

variable (magic : List UInt8)

/-- Appends the length of a payload, or fails when it exceeds `u32::MAX`. -/
def encodeLen (len : ℕ) : Bytes.Writer ReliableEncodeError Unit :=
  if len < 2 ^ 32 then Writer.extend (toLe 4 len) else Writer.fail (.payloadTooLarge len)

/-- Appends a data frame: `encode_data`. -/
def encodeDataInto (sequence : UInt64) (payload : List UInt8) :
    Bytes.Writer ReliableEncodeError Unit := do
  Writer.extend magic
  Writer.extend [reliableKindData]
  Writer.extend (toLe 8 sequence.toNat)
  encodeLen payload.length
  Writer.extend payload

/-- Appends a reliable frame: `encode`. -/
def encodeInto : ReliableFrame → Bytes.Writer ReliableEncodeError Unit
  | data sequence payload => encodeDataInto magic sequence payload
  | ack sequence => do
      Writer.extend magic
      Writer.extend [reliableKindAck]
      Writer.extend (toLe 8 sequence.toNat)

/-- The length of the payload fits its field. -/
def Fits : ReliableFrame → Prop
  | data _ payload => payload.length < 2 ^ 32
  | ack _ => True

/-- The bytes of a frame. -/
def bytes : ReliableFrame → List UInt8
  | data sequence payload =>
      header magic reliableKindData sequence ++ toLe 4 payload.length ++ payload
  | ack sequence => header magic reliableKindAck sequence

lemma writes_encodeInto (frame : ReliableFrame) :
    Writes (frame.encodeInto magic) frame.Fits (frame.bytes magic) := by
  cases frame with
  | data sequence payload =>
      refine ((Writes.extend magic).bind ((Writes.extend [reliableKindData]).bind
        ((Writes.extend (toLe 8 sequence.toNat)).bind ((Writes.checked (payload.length < 2 ^ 32)
          (toLe 4 payload.length) _).bind (Writes.extend payload))))).congr ?_ ?_
      · simp [Fits]
      · simp [bytes, header]
  | ack sequence =>
      refine ((Writes.extend magic).bind ((Writes.extend [reliableKindAck]).bind
        (Writes.extend (toLe 8 sequence.toNat)))).congr ?_ ?_
      · simp [Fits]
      · simp [bytes, header]

variable {magic}

lemma encode_eq_ok_iff {frame : ReliableFrame} {output : List UInt8} :
    frame.encode magic = .ok output ↔ frame.Fits ∧ frame.bytes magic = output := by
  cases frame with
  | data sequence payload =>
      rw [encode, encodeData, Fits, bytes]
      by_cases hfits : payload.length < 2 ^ 32
      · rw [if_pos hfits, Except.ok.injEq, and_iff_right hfits]
      · rw [if_neg hfits]
        exact iff_of_false (by simp) fun h => hfits h.1
  | ack sequence => simp [encode, Fits, bytes]

lemma decode_eq_ok_iff (hmagic : magic.length = 4) (input : List UInt8) (frame : ReliableFrame) :
    decode magic input = .ok frame ↔ Spells (bytes magic) Fits input frame := by
  constructor
  · intro h
    obtain ⟨hfits, hbytes⟩ := encode_eq_ok_iff.mp (encode_decode h)
    exact ⟨hbytes.symm, hfits⟩
  · rintro ⟨rfl, hfits⟩
    exact decode_encode hmagic (encode_eq_ok_iff.mpr ⟨hfits, rfl⟩)

/-- Frames are encoded and decoded inversely, whatever four bytes tell the links apart. -/
theorem inverse_encodeInto (hmagic : magic.length = 4) : Inverse (encodeInto magic) (decode magic) :=
  Inverse.of_spells (writes_encodeInto magic) (decode_eq_ok_iff hmagic)

/-- The payload of a data frame can be moved to the front of the wire bytes: the range that is
copied is inside them, and what is left is the payload. -/
def PayloadInPlace (decode : List UInt8 → Except ReliableDecodeError ReliableFrame) : Prop :=
  ∀ wireBytes sequence payload, decode wireBytes = .ok (.data sequence payload) →
    let offset := wireBytes.length - payload.length
    offset + payload.length = wireBytes.length
      ∧ reusePayload wireBytes offset payload.length = payload

lemma payloadInPlace_decode : PayloadInPlace (decode magic) := by
  intro wireBytes sequence payload h
  obtain ⟨pre, rfl⟩ := eq_append_of_decode h
  refine ⟨?_, reusePayload_eq pre payload⟩
  rw [List.length_append]
  omega

end ReliableFrame

/-- Encoded reliable client frame. -/
abbrev ReliableClientFrame : Type := ReliableFrame

namespace ReliableClientFrame

/-- Encodes a reliable client frame. -/
def encode : ReliableClientFrame → Bytes.Writer ReliableEncodeError Unit :=
  ReliableFrame.encodeInto reliableClientMagic

/-- Decodes a reliable client frame. -/
def decode : List UInt8 → Except ReliableDecodeError ReliableClientFrame :=
  ReliableFrame.decode reliableClientMagic

end ReliableClientFrame

/-- Encoded reliable station frame. -/
abbrev ReliableStationFrame : Type := ReliableFrame

namespace ReliableStationFrame

/-- Encodes a reliable station frame. -/
def encode : ReliableStationFrame → Bytes.Writer ReliableEncodeError Unit :=
  ReliableFrame.encodeInto reliableStationMagic

/-- Decodes a reliable station frame. -/
def decode : List UInt8 → Except ReliableDecodeError ReliableStationFrame :=
  ReliableFrame.decode reliableStationMagic

end ReliableStationFrame

/-- **Envelope codecs are inverse to each other**, and the payload of a reliable frame that decodes
can be taken out of its bytes in place. -/
theorem envelope_codecs_inverse :
    (∀ config, Inverse (PacketSecurityEnvelope.encode config) (PacketSecurityEnvelope.decode config))
      ∧ Inverse ReliableClientFrame.encode ReliableClientFrame.decode
      ∧ Inverse ReliableStationFrame.encode ReliableStationFrame.decode
      ∧ ReliableFrame.PayloadInPlace ReliableClientFrame.decode
      ∧ ReliableFrame.PayloadInPlace ReliableStationFrame.decode :=
  ⟨PacketSecurityEnvelope.inverse_encode, ReliableFrame.inverse_encodeInto rfl,
    ReliableFrame.inverse_encodeInto rfl, ReliableFrame.payloadInPlace_decode,
    ReliableFrame.payloadInPlace_decode⟩

end SectorSync
