import SectorSync.Base.Bytes

/-!
# Reliable frames

The envelope of the reliable client and station links.  The two layouts of the source differ in
their magic bytes only: four magic bytes, a kind, the sequence number as eight little-endian
bytes, and for a data frame the payload after its length in four bytes.

`decode_encode` is the round trip, and `reusePayload_eq` that taking the payload out of the wire
bytes in place yields the payload of the decoded frame.
-/

namespace SectorSync

open Bytes

/-- Magic bytes of the reliable client link, `SSCR`. -/
def reliableClientMagic : List UInt8 := [83, 83, 67, 82]

/-- Magic bytes of the reliable station link, `SSRP`. -/
def reliableStationMagic : List UInt8 := [83, 83, 82, 80]

/-- The kind byte of a data frame. -/
def reliableKindData : UInt8 := 0

/-- The kind byte of an acknowledgement. -/
def reliableKindAck : UInt8 := 1

/-- Encoded reliable frame. -/
inductive ReliableFrame where
  /-- Reliable data packet with its sender-local sequence number. -/
  | data (sequence : UInt64) (payload : List UInt8)
  /-- Acknowledgement for a reliable data packet. -/
  | ack (sequence : UInt64)
  deriving DecidableEq

/-- Reliable frame encode error. -/
inductive ReliableEncodeError where
  | payloadTooLarge (actual : ℕ)
  deriving DecidableEq

/-- Reliable frame decode error. -/
inductive ReliableDecodeError where
  | badMagic
  | unknownKind (kind : UInt8)
  | truncated (needed available : ℕ)
  | trailingBytes (bytes : ℕ)
  deriving DecidableEq

namespace ReliableFrame

/-! ## Encoding -/

/-- The bytes before the length of a frame. -/
def header (magic : List UInt8) (kind : UInt8) (sequence : UInt64) : List UInt8 :=
  magic ++ [kind] ++ toLe 8 sequence.toNat

/-- The bytes of a data frame. -/
def encodeData (magic : List UInt8) (sequence : UInt64) (payload : List UInt8) :
    Except ReliableEncodeError (List UInt8) :=
  if payload.length < 2 ^ 32 then
    .ok (header magic reliableKindData sequence ++ toLe 4 payload.length ++ payload)
  else .error (.payloadTooLarge payload.length)

/-- Encodes a reliable frame. -/
def encode (magic : List UInt8) : ReliableFrame → Except ReliableEncodeError (List UInt8)
  | data sequence payload => encodeData magic sequence payload
  | ack sequence => .ok (header magic reliableKindAck sequence)

/-! ## Decoding -/

/-- Reads the next bytes of a frame. -/
def readSlice (cursor : Cursor) (count : ℕ) :
    Except ReliableDecodeError (List UInt8 × Cursor) :=
  match cursor.read count with
  | .ok result => .ok result
  | .error ⟨needed, available⟩ => .error (.truncated needed available)

/-- Reads a little-endian word of `width` bytes. -/
def readWord (cursor : Cursor) (width : ℕ) : Except ReliableDecodeError (ℕ × Cursor) := do
  let (bytes, cursor) ← readSlice cursor width
  return (ofLe bytes, cursor)

/-- The end of a frame is the end of the input. -/
def finish (cursor : Cursor) (frame : ReliableFrame) : Except ReliableDecodeError ReliableFrame :=
  if cursor.remaining = 0 then .ok frame else .error (.trailingBytes cursor.remaining)

/-- Decodes a reliable frame. -/
def decode (magic input : List UInt8) : Except ReliableDecodeError ReliableFrame := do
  let (start, cursor) ← readSlice (Cursor.start input) 4
  if start ≠ magic then .error .badMagic
  else do
    let (kind, cursor) ← readWord cursor 1
    let kind := UInt8.ofNat kind
    let (sequence, cursor) ← readWord cursor 8
    let sequence := UInt64.ofNat sequence
    if kind = reliableKindData then do
      let (len, cursor) ← readWord cursor 4
      let (payload, cursor) ← readSlice cursor len
      finish cursor (.data sequence payload)
    else if kind = reliableKindAck then finish cursor (.ack sequence)
    else .error (.unknownKind kind)

/-! ## Round trip -/

variable {magic : List UInt8}

/-- The first step of a computation that succeeds has succeeded. -/
lemma eq_ok_of_bind {α β ε : Type} {x : Except ε α} {f : α → Except ε β} {b : β}
    (h : (x >>= f) = .ok b) : ∃ a, x = .ok a ∧ f a = .ok b := by
  cases x with
  | error error => cases h
  | ok a => exact ⟨a, rfl, h⟩

lemma readSlice_after {count : ℕ} (pre bs rest : List UInt8) (h : bs.length = count) :
    readSlice (Cursor.after pre (bs ++ rest)) count = .ok (bs, Cursor.after (pre ++ bs) rest) := by
  rw [readSlice, Cursor.read_after pre bs rest h]

lemma readWord_after {width n : ℕ} (pre rest : List UInt8) (h : n < 256 ^ width) :
    readWord (Cursor.after pre (toLe width n ++ rest)) width
      = .ok (n, Cursor.after (pre ++ toLe width n) rest) := by
  rw [readWord, readSlice_after pre _ rest (length_toLe width n)]
  show Except.ok (ofLe (toLe width n), _) = _
  rw [ofLe_toLe h]

lemma finish_after (pre : List UInt8) (frame : ReliableFrame) :
    finish (Cursor.after pre []) frame = .ok frame := by
  rw [finish, Cursor.remaining_after, List.length_nil, if_pos rfl]

/-- A decoder that has read a header. -/
lemma decode_header (hmagic : magic.length = 4) (kind : UInt8) (sequence : UInt64)
    (rest : List UInt8) :
    decode magic (header magic kind sequence ++ rest)
      = (if kind = reliableKindData then do
          let (len, cursor) ← readWord (Cursor.after (header magic kind sequence) rest) 4
          let (payload, cursor) ← readSlice cursor len
          finish cursor (.data sequence payload)
        else if kind = reliableKindAck then
          finish (Cursor.after (header magic kind sequence) rest) (.ack sequence)
        else .error (.unknownKind kind)) := by
  have hkind : toLe 1 kind.toNat = [kind] := by
    have hlt : kind.toNat < 256 := kind.toNat_lt
    rw [toLe, toLe, Nat.mod_eq_of_lt hlt, UInt8.ofNat_toNat]
  have hinput : header magic kind sequence ++ rest
      = magic ++ (toLe 1 kind.toNat ++ (toLe 8 sequence.toNat ++ rest)) := by
    rw [hkind, header]
    simp only [List.append_assoc]
  have hcursor : [] ++ magic ++ toLe 1 kind.toNat ++ toLe 8 sequence.toNat
      = header magic kind sequence := by
    rw [hkind, header, List.nil_append]
  rw [hinput, decode, Cursor.start_eq_after, readSlice_after [] magic _ hmagic]
  simp only [bind, Except.bind, ne_eq, not_true_eq_false, if_false]
  rw [readWord_after _ _ (by have := kind.toNat_lt; omega)]
  dsimp only
  rw [readWord_after _ _ (by have := sequence.toNat_lt; omega), hcursor]
  simp only [UInt64.ofNat_toNat, UInt8.ofNat_toNat]

/-- **Round trip.**  What is encoded decodes to the frame. -/
theorem decode_encode (hmagic : magic.length = 4) {frame : ReliableFrame} {bytes : List UInt8}
    (h : frame.encode magic = .ok bytes) : decode magic bytes = .ok frame := by
  cases frame with
  | data sequence payload =>
      rw [encode, encodeData] at h
      split_ifs at h with hlen
      rw [← Except.ok.inj h, List.append_assoc, decode_header hmagic, if_pos rfl,
        readWord_after _ _ (by omega)]
      have hslice := readSlice_after (header magic reliableKindData sequence
        ++ toLe 4 payload.length) payload [] rfl
      rw [List.append_nil] at hslice
      show (do
        let (payload, cursor) ← readSlice _ _
        finish cursor (.data sequence payload)) = _
      rw [hslice]
      exact finish_after _ _
  | ack sequence =>
      rw [encode] at h
      rw [← Except.ok.inj h, ← List.append_nil (header magic reliableKindAck sequence),
        decode_header hmagic, if_neg (by decide), if_pos rfl]
      exact finish_after _ _

lemma eq_of_readSlice_after {count : ℕ} {pre rest bs : List UInt8} {cursor : Cursor}
    (h : readSlice (Cursor.after pre rest) count = .ok (bs, cursor)) :
    ∃ rest', rest = bs ++ rest' ∧ bs.length = count ∧ cursor = Cursor.after (pre ++ bs) rest' := by
  unfold readSlice at h
  rcases hread : (Cursor.after pre rest).read count with error | result
  · rw [hread] at h
    cases h
  · rw [hread] at h
    rw [Except.ok.inj h] at hread
    exact Cursor.eq_of_read_after hread

lemma eq_of_readWord_after {width n : ℕ} {pre rest : List UInt8} {cursor : Cursor}
    (h : readWord (Cursor.after pre rest) width = .ok (n, cursor)) :
    ∃ rest', rest = toLe width n ++ rest' ∧ n < 256 ^ width ∧
      cursor = Cursor.after (pre ++ toLe width n) rest' := by
  obtain ⟨⟨bs, cursor'⟩, hread, hpure⟩ := eq_ok_of_bind h
  obtain ⟨rest', hrest, hlen, hcursor⟩ := eq_of_readSlice_after hread
  obtain ⟨hn, hcursor'⟩ := Prod.mk.inj (Except.ok.inj hpure)
  have hbs : toLe width n = bs := by rw [← hn, ← hlen, toLe_ofLe]
  rw [hbs]
  exact ⟨rest', hrest, hn ▸ hlen ▸ ofLe_lt bs, hcursor' ▸ hcursor⟩

lemma eq_of_finish_after {pre rest : List UInt8} {frame frame' : ReliableFrame}
    (h : finish (Cursor.after pre rest) frame = .ok frame') : rest = [] ∧ frame = frame' := by
  rw [finish, Cursor.remaining_after] at h
  split_ifs at h with hlen
  exact ⟨List.length_eq_zero_iff.mp hlen, Except.ok.inj h⟩

/-- **Round trip.**  What decodes is the encoding of the frame. -/
theorem encode_decode {input : List UInt8} {frame : ReliableFrame}
    (h : decode magic input = .ok frame) : frame.encode magic = .ok input := by
  rw [decode, Cursor.start_eq_after] at h
  obtain ⟨⟨start, cursor⟩, hstart, h⟩ := eq_ok_of_bind h
  obtain ⟨rest, rfl, -, rfl⟩ := eq_of_readSlice_after hstart
  dsimp only at h
  split_ifs at h with hmagic
  rw [not_not] at hmagic
  obtain ⟨⟨kind, cursor⟩, hkind, h⟩ := eq_ok_of_bind h
  obtain ⟨rest, rfl, hkindlt, rfl⟩ := eq_of_readWord_after hkind
  obtain ⟨⟨sequence, cursor⟩, hsequence, h⟩ := eq_ok_of_bind h
  obtain ⟨rest, rfl, hsequencelt, rfl⟩ := eq_of_readWord_after hsequence
  have hseq : (UInt64.ofNat sequence).toNat = sequence := UInt64.toNat_ofNat_of_lt' hsequencelt
  have hbyte : toLe 1 kind = [UInt8.ofNat kind] := by
    have hlt : kind < 256 := hkindlt
    rw [toLe, toLe, Nat.mod_eq_of_lt hlt]
  dsimp only at h
  split_ifs at h with hdata hack
  · obtain ⟨⟨len, cursor⟩, hlen, h⟩ := eq_ok_of_bind h
    obtain ⟨rest, rfl, hlenlt, rfl⟩ := eq_of_readWord_after hlen
    obtain ⟨⟨payload, cursor⟩, hpayload, h⟩ := eq_ok_of_bind h
    obtain ⟨rest, rfl, rfl, rfl⟩ := eq_of_readSlice_after hpayload
    obtain ⟨rfl, rfl⟩ := eq_of_finish_after h
    have hfits : payload.length < 2 ^ 32 := hlenlt
    rw [encode, encodeData, if_pos hfits, header, hseq, hmagic, hbyte, hdata]
    simp only [List.append_assoc, List.append_nil]
  · obtain ⟨rfl, rfl⟩ := eq_of_finish_after h
    rw [encode, header, hseq, hmagic, hbyte, hack]
    simp only [List.append_assoc, List.append_nil]

/-- The payload of a data frame is at the end of its bytes. -/
lemma eq_append_of_decode {input payload : List UInt8} {sequence : UInt64}
    (h : decode magic input = .ok (.data sequence payload)) : ∃ pre, input = pre ++ payload := by
  have hencode : encodeData magic sequence payload = .ok input := encode_decode h
  rw [encodeData] at hencode
  split_ifs at hencode
  exact ⟨_, (Except.ok.inj hencode).symm⟩

/-! ## Reusing the payload -/

/-- Moves the payload to the front of the wire bytes and cuts off the rest:
`copy_within(offset..offset + len, 0)` and `truncate(len)`. -/
def reusePayload (wireBytes : List UInt8) (offset len : ℕ) : List UInt8 :=
  ((wireBytes.drop offset).take len ++ wireBytes.drop len).take len

/-- The payload at the end of the wire bytes. -/
lemma reusePayload_eq (pre payload : List UInt8) :
    reusePayload (pre ++ payload) ((pre ++ payload).length - payload.length) payload.length
      = payload := by
  have hoffset : (pre ++ payload).length - payload.length = pre.length := by
    rw [List.length_append]
    omega
  rw [reusePayload, hoffset, List.drop_left, List.take_length, List.take_left]

end ReliableFrame

end SectorSync
