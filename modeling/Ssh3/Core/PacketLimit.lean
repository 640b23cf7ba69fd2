/-
  Ssh3.Core.PacketLimit

  The size of the messages `write_data` cuts its buffer into.

  `write_data` reserves room for the encoding of an empty message, whose length
  prefix has one byte.  A longer message needs a longer prefix, so the messages
  stay within the packet size only where that does not matter: `FitsPackets`.
-/

import Mathlib.Data.List.Forall2
import Ssh3.Core.Endpoint

namespace Ssh3.Core

open Proto Fallible Chunks
open StreamCodec (ok_bind bind_eq_ok)

/-! ## The size of a data message -/

theorem length_varIntBytes_small {value : UInt64} (h : value.toNat ≤ 63) :
    (varIntBytes value).length = 1 := by
  rw [varIntBytes, appendVarInt, if_pos (UInt64.le_iff_toNat_le.mpr h)]
  rfl

theorem two_le_length_varIntBytes {value : UInt64} (h : 63 < value.toNat)
    (hmax : value ≤ MAX_VARINT) : 2 ≤ (varIntBytes value).length := by
  have h₁ : ¬value ≤ MAX_VARINT_1 := by
    rw [UInt64.le_iff_toNat_le, Nat.not_le]
    exact h
  rw [varIntBytes, appendVarInt, if_neg h₁]
  split_ifs with h₂ h₃ h₄
  · exact Nat.le_refl 2
  · exact Nat.le_of_ble_eq_true rfl
  · exact Nat.le_of_ble_eq_true rfl
  · exact absurd hmax h₄

section DataMessage

variable {dataType : SshDataType} {data : List UInt8}

/-- The bytes of a message besides its data, if its length prefix has one byte. -/
def overhead (dataType : SshDataType) : Nat :=
  (DataOrExtendedDataMessage.wire { dataType, data := [] }).length

theorem length_wire (dataType : SshDataType) (data : List UInt8) :
    (DataOrExtendedDataMessage.wire { dataType, data }).length + 1 =
      overhead dataType + (varIntBytes (UInt64.ofNat data.length)).length + data.length := by
  have hzero : (varIntBytes (UInt64.ofNat 0)).length = 1 := rfl
  unfold overhead DataOrExtendedDataMessage.wire sshBytes
  -- the data type stands in both messages or in neither
  by_cases h0 : dataType = SSH_EXTENDED_DATA_NONE
  · simp only [if_pos h0, List.length_append, List.length_nil, hzero]
    omega
  · simp only [if_neg h0, List.length_append, List.length_nil, hzero]
    omega

theorem encodedLen_empty (htype : dataType ≤ MAX_VARINT) :
    DataOrExtendedDataMessage.encodedLen { dataType, data := [] } = .ok (overhead dataType) :=
  DataOrExtendedDataMessage.encodedLen_eq htype (UInt64.le_iff_toNat_le.mpr (Nat.zero_le _))

theorem toVec_data (htype : dataType ≤ MAX_VARINT) (h : data.length < 2 ^ 62) :
    (Message.data { dataType, data }).toVec =
      .ok (DataOrExtendedDataMessage.wire { dataType, data }) := by
  rw [Message.toVec, Message.encodedLen, Message.encode,
    DataOrExtendedDataMessage.encodedLen_eq htype (ofNat_length_le h), ok_bind,
    DataOrExtendedDataMessage.encode_eq htype (ofNat_length_le h), List.nil_append]

/-- A message whose length can be computed has a length prefix. -/
theorem encodedLen_eq_ok {n : Nat}
    (h : DataOrExtendedDataMessage.encodedLen { dataType, data } = .ok n) :
    ∃ k prefixLen, varIntLen (UInt64.ofNat data.length) = .ok prefixLen ∧
      n = k + (prefixLen + data.length) := by
  have hstring : ∀ {m}, sshStringLen data = .ok m →
      ∃ prefixLen, varIntLen (UInt64.ofNat data.length) = .ok prefixLen ∧
        m = prefixLen + data.length := by
    intro m hm
    obtain ⟨prefixLen, hprefix, hsum⟩ := bind_eq_ok.mp hm
    cases hsum
    exact ⟨prefixLen, hprefix, rfl⟩
  rw [DataOrExtendedDataMessage.encodedLen] at h
  split_ifs at h
  · obtain ⟨kind, -, h₁⟩ := bind_eq_ok.mp h
    obtain ⟨m, hm, h₂⟩ := bind_eq_ok.mp h₁
    obtain ⟨prefixLen, hprefix, rfl⟩ := hstring hm
    cases h₂
    exact ⟨kind, prefixLen, hprefix, rfl⟩
  · obtain ⟨kind, -, h₁⟩ := bind_eq_ok.mp h
    obtain ⟨type, -, h₂⟩ := bind_eq_ok.mp h₁
    obtain ⟨m, hm, h₃⟩ := bind_eq_ok.mp h₂
    obtain ⟨prefixLen, hprefix, rfl⟩ := hstring hm
    cases h₃
    exact ⟨kind + type, prefixLen, hprefix, rfl⟩

theorem le_max_of_varIntLen {value : UInt64} {n : Nat} (h : varIntLen value = .ok n) :
    value ≤ MAX_VARINT := by
  rw [varIntLen] at h
  split_ifs at h with h₁ h₂ h₃ h₄
  · exact UInt64.le_trans h₁ (by decide)
  · exact UInt64.le_trans h₂ (by decide)
  · exact UInt64.le_trans h₃ (by decide)
  · exact h₄

theorem length_lt_of_encodedLen {n : Nat} (hlt : data.length < 2 ^ 64)
    (h : DataOrExtendedDataMessage.encodedLen { dataType, data } = .ok n) :
    data.length < 2 ^ 62 := by
  obtain ⟨k, prefixLen, hprefix, -⟩ := encodedLen_eq_ok h
  have hle := UInt64.le_iff_toNat_le.mp (le_max_of_varIntLen hprefix)
  rw [UInt64.toNat_ofNat_of_lt' hlt] at hle
  exact Nat.lt_of_le_of_lt hle (by decide)

theorem length_lt_of_toVec {frame : List UInt8} (hlt : data.length < 2 ^ 64)
    (h : (Message.data { dataType, data }).toVec = .ok frame) : data.length < 2 ^ 62 := by
  obtain ⟨n, hlen, -⟩ := bind_eq_ok.mp h
  exact length_lt_of_encodedLen hlt hlen

end DataMessage

/-! ## The messages of one call -/

section WriteData

variable {maxPacketSize : UInt64} {dataType : SshDataType} {dataBuf : List UInt8}

/-- The length of the chunks. -/
def chunkLen (maxPacketSize : UInt64) (dataType : SshDataType) : Nat :=
  max (maxPacketSize.toNat - overhead dataType) 1

theorem chunkLen_pos : 0 < chunkLen maxPacketSize dataType :=
  Nat.lt_of_lt_of_le Nat.zero_lt_one (Nat.le_max_right _ _)

theorem writeDataMessages_eq_ok (htype : dataType ≤ MAX_VARINT) {messages : List Message} :
    writeDataMessages maxPacketSize dataBuf dataType = .ok (.ok messages) ↔
      overhead dataType ≤ maxPacketSize.toNat ∧
      messages = (chunks (chunkLen maxPacketSize dataType) dataBuf).map fun chunk =>
        .data { dataType, data := chunk } := by
  rw [writeDataMessages, encodedLen_empty htype, ok_bind]
  by_cases hsmall : maxPacketSize.toNat < overhead dataType
  · rw [if_pos hsmall]
    constructor
    · intro h
      cases h
    · rintro ⟨hle, -⟩
      omega
  · rw [if_neg hsmall]
    constructor
    · intro h
      cases h
      exact ⟨Nat.not_lt.mp hsmall, rfl⟩
    · rintro ⟨-, rfl⟩
      rfl

/-- The data that a message carries, if it is of the given type. -/
def dataOf (dataType : SshDataType) : Message → List UInt8
  | .data message => if message.dataType = dataType then message.data else []
  | _ => []

theorem flatMap_dataOf (other : SshDataType) (chunkList : List (List UInt8)) :
    (chunkList.map fun chunk => Message.data { dataType, data := chunk }).flatMap (dataOf other) =
      if dataType = other then chunkList.flatten else [] := by
  induction chunkList with
  | nil => exact (ite_self []).symm
  | cons chunk chunkList ih =>
    rw [List.map_cons, List.flatMap_cons, ih, dataOf]
    split_ifs <;> rfl

/-- Every frame encodes one of the chunks. -/
theorem exists_chunk_of_mem {chunkList frames : List (List UInt8)}
    (h : Encodings (chunkList.map fun chunk => .data { dataType, data := chunk }) frames)
    {frame : List UInt8} (hframe : frame ∈ frames) :
    ∃ chunk ∈ chunkList, (Message.data { dataType, data := chunk }).toVec = .ok frame := by
  rw [Encodings, List.forall₂_map_left_iff] at h
  -- along the list of chunks and frames
  induction h with
  | nil => cases hframe
  | @cons chunk first chunkList frames hfirst _ ih =>
    rcases List.mem_cons.mp hframe with rfl | hrest
    · exact ⟨chunk, List.mem_cons_self, hfirst⟩
    · obtain ⟨chunk', hmem, hencoded⟩ := ih hrest
      exact ⟨chunk', List.mem_cons_of_mem _ hmem, hencoded⟩

theorem encodings_of_lt (htype : dataType ≤ MAX_VARINT) {chunkList : List (List UInt8)}
    (h : ∀ chunk ∈ chunkList, chunk.length < 2 ^ 62) :
    Encodings (chunkList.map fun chunk => .data { dataType, data := chunk })
      (chunkList.map fun chunk => DataOrExtendedDataMessage.wire { dataType, data := chunk }) := by
  rw [Encodings, List.forall₂_map_left_iff, List.forall₂_map_right_iff, List.forall₂_same]
  exact fun chunk hmem => toVec_data htype (h chunk hmem)

/-- The inputs on which the messages stay within the packet size: those on which nothing is
    sent, those whose chunks are too short for a second length byte, and those that need only
    one message with room to spare.  On the last ones the encoder panics. -/
def FitsPackets (maxPacketSize : UInt64) (dataType : SshDataType) (dataBuf : List UInt8) : Prop :=
  ∀ messageOverhead,
    DataOrExtendedDataMessage.encodedLen { dataType, data := [] } = .ok messageOverhead →
    maxPacketSize.toNat < messageOverhead ∨ dataBuf = [] ∨
    (messageOverhead < maxPacketSize.toNat ∧ maxPacketSize.toNat ≤ messageOverhead + 63) ∨
    (∃ n, DataOrExtendedDataMessage.encodedLen { dataType, data := dataBuf } = .ok n ∧
      n ≤ maxPacketSize.toNat) ∨
    (messageOverhead + 2 ^ 62 ≤ maxPacketSize.toNat ∧ 2 ^ 62 ≤ dataBuf.length)

theorem chunkLen_lt (maxPacketSize : UInt64) (dataType : SshDataType) :
    chunkLen maxPacketSize dataType < 2 ^ 64 := by
  have hlt := maxPacketSize.toNat_lt
  unfold chunkLen
  omega

/-- The frame of a chunk of at most 63 bytes. -/
theorem length_wire_small {data : List UInt8} (h : data.length ≤ 63) :
    (DataOrExtendedDataMessage.wire { dataType, data }).length =
      overhead dataType + data.length := by
  have hwire := length_wire dataType data
  have hvalue : (UInt64.ofNat data.length).toNat ≤ 63 := by
    rw [UInt64.toNat_ofNat_of_lt' (Nat.lt_of_le_of_lt h (by decide))]
    exact h
  have hprefix := length_varIntBytes_small hvalue
  omega

/-- The frame of a longer chunk has at least one byte more. -/
theorem length_wire_large (dataType : SshDataType) {data : List UInt8} (h : 63 < data.length)
    (hmax : data.length < 2 ^ 62) :
    overhead dataType + data.length <
      (DataOrExtendedDataMessage.wire { dataType, data }).length := by
  have hwire := length_wire dataType data
  have hvalue : 63 < (UInt64.ofNat data.length).toNat := by
    rw [UInt64.toNat_ofNat_of_lt' (Nat.lt_trans hmax (by decide))]
    exact h
  have hprefix := two_le_length_varIntBytes hvalue (ofNat_length_le hmax)
  omega

theorem overhead_add_length_le (dataType : SshDataType) {data : List UInt8}
    (hmax : data.length < 2 ^ 62) :
    overhead dataType + data.length ≤
      (DataOrExtendedDataMessage.wire { dataType, data }).length := by
  by_cases h : data.length ≤ 63
  · rw [length_wire_small h]
  · exact Nat.le_of_lt (length_wire_large dataType (Nat.not_le.mp h) hmax)

/-- If the whole buffer fits as one message, it is sent as one. -/
theorem chunks_of_fits (hne : dataBuf ≠ []) (hmax : dataBuf.length < 2 ^ 62)
    (hfits : (DataOrExtendedDataMessage.wire { dataType, data := dataBuf }).length ≤
      maxPacketSize.toNat) : chunks (chunkLen maxPacketSize dataType) dataBuf = [dataBuf] := by
  refine chunks_of_length_le hne ?_
  have hle := overhead_add_length_le dataType hmax
  unfold chunkLen
  omega

theorem FitsPackets.length_le (hfits : FitsPackets maxPacketSize dataType dataBuf)
    (htype : dataType ≤ MAX_VARINT) (hover : overhead dataType ≤ maxPacketSize.toNat)
    {frames : List (List UInt8)}
    (hframes : Encodings ((chunks (chunkLen maxPacketSize dataType) dataBuf).map fun chunk =>
      .data { dataType, data := chunk }) frames)
    {frame : List UInt8} (hmem : frame ∈ frames) : frame.length ≤ maxPacketSize.toNat := by
  obtain ⟨chunk, hchunk, hencoded⟩ := exists_chunk_of_mem hframes hmem
  have hlen := length_le_of_mem_chunks chunkLen_pos hchunk
  have hlt := chunkLen_lt maxPacketSize dataType
  have hsmall := length_lt_of_toVec (by omega) hencoded
  rw [toVec_data htype hsmall] at hencoded
  cases hencoded
  rcases hfits _ (encodedLen_empty htype) with h | rfl | ⟨hover', h63⟩ | ⟨n, hn, hle⟩ | ⟨h62, hdata⟩
  · -- below the overhead the call fails, so nothing is sent
    omega
  · cases hchunk
  · -- one byte of length prefix is enough for every chunk
    have hchunk63 : chunk.length ≤ maxPacketSize.toNat - overhead dataType := by
      unfold chunkLen at hlen
      omega
    rw [length_wire_small (by omega)]
    omega
  · -- the whole buffer is one chunk, and its message is known to fit
    have hdata : dataBuf.length < 2 ^ 62 := by
      obtain ⟨k, prefixLen, -, hsum⟩ := encodedLen_eq_ok hn
      have hmps := maxPacketSize.toNat_lt
      exact length_lt_of_encodedLen (by omega) hn
    rw [DataOrExtendedDataMessage.encodedLen_eq htype (ofNat_length_le hdata)] at hn
    cases hn
    have hne : dataBuf ≠ [] := by
      rintro rfl
      cases hchunk
    rw [chunks_of_fits hne hdata hle, List.mem_singleton] at hchunk
    rw [hchunk]
    exact hle
  · -- the first chunk is too long for the encoder
    exfalso
    cases dataBuf with
    | nil => cases hchunk
    | cons b dataBuf =>
      rw [chunks_cons chunkLen_pos, List.map_cons] at hframes
      cases hframes with
      | cons hfirst _ =>
        have hfirstLen : ((b :: dataBuf).take (chunkLen maxPacketSize dataType)).length =
            min (chunkLen maxPacketSize dataType) (b :: dataBuf).length := List.length_take
        have hlong : maxPacketSize.toNat - overhead dataType ≤
            chunkLen maxPacketSize dataType := Nat.le_max_left _ _
        have hshort := length_lt_of_toVec (by omega) hfirst
        omega

/-- Otherwise the first message is larger than a packet. -/
theorem exceeds_of_not_fits (htype : dataType ≤ MAX_VARINT)
    (hnot : ¬FitsPackets maxPacketSize dataType dataBuf) :
    overhead dataType ≤ maxPacketSize.toNat ∧
    (∀ chunk ∈ chunks (chunkLen maxPacketSize dataType) dataBuf, chunk.length < 2 ^ 62) ∧
    ∃ first ∈ chunks (chunkLen maxPacketSize dataType) dataBuf,
      maxPacketSize.toNat <
        (DataOrExtendedDataMessage.wire { dataType, data := first }).length := by
  unfold FitsPackets at hnot
  push Not at hnot
  obtain ⟨messageOverhead, hoverhead, hover, hne, h63, hwhole, h62⟩ := hnot
  cases (encodedLen_empty htype).symm.trans hoverhead
  have hpos : 0 < chunkLen maxPacketSize dataType := chunkLen_pos
  -- no chunk is too long for the encoder, or the fifth case would apply
  have hlen : ∀ chunk ∈ chunks (chunkLen maxPacketSize dataType) dataBuf,
      chunk.length < 2 ^ 62 := by
    intro chunk hchunk
    have hle := length_le_of_mem_chunks hpos hchunk
    unfold chunkLen at hle
    by_cases hmps : overhead dataType + 2 ^ 62 ≤ maxPacketSize.toNat
    · have hdata := h62 hmps
      omega
    · omega
  refine ⟨hover, hlen, ?_⟩
  cases dataBuf with
  | nil => exact absurd rfl hne
  | cons b dataBuf =>
    rw [chunks_cons hpos] at hlen ⊢
    refine ⟨_, List.mem_cons_self, ?_⟩
    have hfirst := hlen _ List.mem_cons_self
    by_cases hshort : (b :: dataBuf).length ≤ chunkLen maxPacketSize dataType
    · -- one message that does not fit
      rw [List.take_of_length_le hshort] at hfirst ⊢
      exact hwhole _ (DataOrExtendedDataMessage.encodedLen_eq htype (ofNat_length_le hfirst))
    · -- a full chunk, which leaves no room for a second length byte
      have htake : ((b :: dataBuf).take (chunkLen maxPacketSize dataType)).length =
          chunkLen maxPacketSize dataType := by
        rw [List.length_take]
        omega
      by_cases hzero : maxPacketSize.toNat = overhead dataType
      · -- the one-byte minimum is a byte too many
        have hle := overhead_add_length_le dataType hfirst
        rw [htake] at hle
        omega
      · -- the second byte of the length prefix is a byte too many
        have hlarge : 63 < chunkLen maxPacketSize dataType := by
          have hgt := h63 (by omega)
          unfold chunkLen
          omega
        have hle := length_wire_large dataType (by rw [htake]; exact hlarge) hfirst
        have hfull : maxPacketSize.toNat ≤ overhead dataType + chunkLen maxPacketSize dataType := by
          unfold chunkLen
          omega
        rw [htake] at hle
        omega

/-- A channel without a header to send, over a stream that takes every write. -/
def freshEndpoint (maxPacketSize : UInt64) : Endpoint where
  channel := {
    info := {
      maxPacketSize
      conversationStreamId := 0
      conversationId := zeroConversation
      channelId := 0
      channelType := ascii "session" }
    confirmSent := true
    confirmReceived := true
    header := none
    datagramSender := none
    datagramsQueueSize := 0 }
  incoming := []
  ending := .unexpectedEof
  writes := []
  outcomes := []
  datagrams := []

/-- **Packet limit.**  Every message that a successful `write_data` puts on the stream is
    within the channel's packet size exactly on the inputs of `FitsPackets`. -/
theorem writeData_withinLimit_iff (htype : dataType ≤ MAX_VARINT) :
    (∀ s t n frames, s.channel.info.maxPacketSize = maxPacketSize →
      call (writeData dataBuf dataType) s = .ok (.ok n, t) →
      t.writes = s.writes ++ s.channel.header.toList ++ frames →
      ∀ frame ∈ frames, frame.length ≤ maxPacketSize.toNat) ↔
    FitsPackets maxPacketSize dataType dataBuf := by
  constructor
  · intro hlimit
    by_contra hnot
    obtain ⟨hover, hlen, first, hfirst, hexceeds⟩ := exceeds_of_not_fits htype hnot
    -- on a stream that takes every write, the call succeeds and sends them all
    have hcall := writeData_complete (s := freshEndpoint maxPacketSize) rfl rfl
      ((writeDataMessages_eq_ok htype).mpr ⟨hover, rfl⟩) (encodings_of_lt htype hlen)
    have hle := hlimit (freshEndpoint maxPacketSize) _ _ _ rfl hcall rfl _
      (List.mem_map_of_mem hfirst)
    omega
  · rintro hfits s t n frames rfl hcall hwrites frame hframe
    obtain ⟨messages, frames', outcomes, hmessages, hframes, -, rfl⟩ := writeData_eq_ok hcall
    obtain ⟨hover, rfl⟩ := (writeDataMessages_eq_ok htype).mp hmessages
    cases List.append_cancel_left hwrites
    exact hfits.length_le htype hover hframes hframe

/-- The packet size of the crate's own test. -/
theorem writeData_withinLimit_five :
    FitsPackets 5 SSH_EXTENDED_DATA_NONE (ascii "abcd") ∧
    ∀ s t n frames, s.channel.info.maxPacketSize = 5 →
      call (writeData (ascii "abcd") SSH_EXTENDED_DATA_NONE) s = .ok (.ok n, t) →
      t.writes = s.writes ++ s.channel.header.toList ++ frames →
      ∀ frame ∈ frames, frame.length ≤ 5 := by
  have hfits : FitsPackets 5 SSH_EXTENDED_DATA_NONE (ascii "abcd") := by
    intro messageOverhead hoverhead
    cases (encodedLen_empty (by decide)).symm.trans hoverhead
    exact .inr (.inr (.inl (by decide)))
  exact ⟨hfits, (writeData_withinLimit_iff (by decide)).mpr hfits⟩

/-- 64 bytes on a channel with a packet size of 67: the message has 68 bytes. -/
theorem writeData_exceeds_limit :
    ∃ t frame, call (writeData (List.replicate 64 0) SSH_EXTENDED_DATA_NONE) (freshEndpoint 67) =
        .ok (.ok 68, t) ∧
      t.writes = (freshEndpoint 67).writes ++ [frame] ∧
      (freshEndpoint 67).channel.info.maxPacketSize.toNat < frame.length :=
  ⟨_, _, rfl, rfl, Nat.lt_succ_self 67⟩

end WriteData

end Ssh3.Core
