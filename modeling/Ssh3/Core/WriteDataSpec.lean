/-
  Ssh3.Core.WriteDataSpec

  `write_data` through the encoder and back through the decoder: the messages of one
  call, as `Message::parse` reads them from the stream, carry the buffer.

  Nothing is said here about the size of a message; that is the subject of
  `Ssh3.Core.PacketLimit`.
-/

import Ssh3.Core.EndpointSpec
import Ssh3.Core.PacketLimit

namespace Ssh3.Core

open Proto Fallible Chunks StreamCodec

/-- Frames are the wire forms of the messages they encode. -/
theorem encodings_eq_map {messages : List Message} {frames : List (List UInt8)}
    (h : Encodings messages frames) (hencodable : ∀ message ∈ messages, message.Encodable) :
    frames = messages.map Message.wire := by
  induction h with
  | nil => rfl
  | @cons message frame messages frames hframe _ ih =>
    have hcoded := Message.coded (hencodable message List.mem_cons_self)
    rw [Message.toVec, hcoded.length, ok_bind, hcoded.encode, List.nil_append] at hframe
    have hrest := ih fun other hother => hencodable other (List.mem_cons_of_mem _ hother)
    rw [List.map_cons, Except.ok.inj hframe, hrest]

variable {dataType : SshDataType}

/-- A chunk is no longer than a packet, and not longer than a string may be. -/
theorem sshBytesOk_of_mem_chunks {maxPacketSize : UInt64}
    {dataBuf chunk : List UInt8} (hlimit : maxPacketSize ≤ MAX_SSH_STRING_LEN)
    (h : chunk ∈ chunks (chunkLen maxPacketSize dataType) dataBuf) : SshBytesOk chunk := by
  have hle := length_le_of_mem_chunks chunkLen_pos h
  have hmax : maxPacketSize.toNat ≤ 16777216 := UInt64.le_iff_toNat_le.mp hlimit
  show chunk.length ≤ 16777216
  unfold chunkLen at hle
  omega

/-- Data messages with payloads within the limit read back from their wire forms. -/
theorem readAll_dataMessages (htype : dataType ≤ MAX_VARINT)
    {payloads : List (List UInt8)} (hpayloads : ∀ data ∈ payloads, data ≠ [] ∧ SshBytesOk data) :
    readAll Message.parse
        ((payloads.map fun data => Message.data { dataType, data }).flatMap Message.wire) =
      .ok (payloads.map fun data => Message.data { dataType, data }) := by
  apply readAll_flatMap
  · intro message hmem
    obtain ⟨data, hdata, rfl⟩ := List.mem_map.mp hmem
    have hencodable : (Message.data { dataType, data }).Encodable :=
      ⟨htype, (hpayloads data hdata).2⟩
    exact (Message.coded hencodable).reads
  · exact fun message _ => message.wire_ne_nil

/-- The frames of a successful call are the wire forms of data messages that carry the
    buffer. -/
theorem writeData_frames {s t : Endpoint} {dataBuf : List UInt8} {n : Nat}
    (hlimit : s.channel.info.maxPacketSize ≤ MAX_SSH_STRING_LEN) (htype : dataType ≤ MAX_VARINT)
    (h : call (writeData dataBuf dataType) s = .ok (.ok n, t)) :
    ∃ (payloads : List (List UInt8)) (outcomes : List WriteOutcome),
      (∀ data ∈ payloads, data ≠ [] ∧ SshBytesOk data) ∧ payloads.flatten = dataBuf ∧
      n = ((payloads.map fun data => Message.data { dataType, data }).flatMap
        Message.wire).length ∧
      t = { s with
        channel := { s.channel with header := none }
        writes := s.writes ++ s.channel.header.toList ++
          (payloads.map fun data => Message.data { dataType, data }).map Message.wire
        outcomes } := by
  obtain ⟨messages, frames, outcomes, hmessages, hframes, rfl, rfl⟩ := writeData_eq_ok h
  obtain ⟨-, rfl⟩ := (writeDataMessages_eq_ok htype).mp hmessages
  -- each chunk is within the decoder's limit for strings
  have hpayloads : ∀ data ∈ chunks (chunkLen s.channel.info.maxPacketSize dataType) dataBuf,
      data ≠ [] ∧ SshBytesOk data := fun data hdata =>
    ⟨ne_nil_of_mem_chunks chunkLen_pos hdata, sshBytesOk_of_mem_chunks hlimit hdata⟩
  have hencodable : ∀ message ∈ (chunks (chunkLen s.channel.info.maxPacketSize dataType)
      dataBuf).map fun data => Message.data { dataType, data }, message.Encodable := by
    intro message hmem
    obtain ⟨data, hdata, rfl⟩ := List.mem_map.mp hmem
    exact ⟨htype, (hpayloads data hdata).2⟩
  refine ⟨_, outcomes, hpayloads, flatten_chunks chunkLen_pos dataBuf, ?_, ?_⟩
  · rw [encodings_eq_map hframes hencodable, List.flatMap_def]
  · rw [encodings_eq_map hframes hencodable]

/-- A call on a stream that takes every write succeeds, if there is room for the empty
    message. -/
theorem writeData_succeeds {s : Endpoint}
    (hheader : s.channel.header = none) (houtcomes : s.outcomes = [])
    (hlimit : s.channel.info.maxPacketSize ≤ MAX_SSH_STRING_LEN)
    (hroom : overhead dataType ≤ s.channel.info.maxPacketSize.toNat)
    (htype : dataType ≤ MAX_VARINT) (dataBuf : List UInt8) :
    ∃ n t, call (writeData dataBuf dataType) s = .ok (.ok n, t) ∧ t.outcomes = [] := by
  have hlen : ∀ chunk ∈ chunks (chunkLen s.channel.info.maxPacketSize dataType) dataBuf,
      chunk.length < 2 ^ 62 := fun chunk hchunk =>
    Nat.lt_of_le_of_lt (sshBytesOk_of_mem_chunks hlimit hchunk) (by decide)
  have hmessages : writeDataMessages s.channel.info.maxPacketSize dataBuf dataType =
      .ok (.ok _) := (writeDataMessages_eq_ok htype).mpr ⟨hroom, rfl⟩
  exact ⟨_, _, writeData_complete hheader houtcomes hmessages (encodings_of_lt htype hlen),
    houtcomes⟩

/-! ## Errors -/

section Errors

variable {s t : Endpoint} {err : ChannelError}

/-- The stream's own errors are all that a write can return. -/
theorem writeAll_eq_error {buf : List UInt8} (h : call (writeAll buf) s = .ok (.error err, t)) :
    ∃ io, err = .io io := by
  rw [writeAll, call_bind_of_ok (call_get s)] at h
  cases houtcomes : s.outcomes with
  | nil =>
    rw [houtcomes] at h
    cases h
  | cons outcome outcomes =>
    rw [houtcomes] at h
    cases outcome with
    | none => cases h
    | some failure =>
      cases h
      exact ⟨failure.2, rfl⟩

theorem maybeSendHeader_eq_error (h : call maybeSendHeader s = .ok (.error err, t)) :
    ∃ io, err = .io io := by
  rw [maybeSendHeader, call_bind_of_ok (call_get s)] at h
  cases hheader : s.channel.header with
  | none =>
    rw [hheader] at h
    cases h
  | some header =>
    rw [hheader] at h
    exact writeAll_eq_error (s := { s with channel := { s.channel with header := none } }) h

theorem writeMessages_eq_error {messages : List Message} {written : Nat}
    (h : call (writeMessages messages written) s = .ok (.error err, t)) : ∃ io, err = .io io := by
  induction messages generalizing s written with
  | nil => cases h
  | cons message messages ih =>
    rw [writeMessages] at h
    obtain ⟨encoded, -, h⟩ := call_orPanic_bind_eq_ok h
    rcases call_bind_eq_error h with hwrite | ⟨⟨⟩, mid, -, hrest⟩
    · exact writeAll_eq_error hwrite
    · exact ih hrest

/-- The packet size is looked at behind the header and before the first message. -/
theorem writeData_eq_maxPacketSizeTooSmall {dataBuf : List UInt8} {dataType : SshDataType}
    {maxPacketSize : UInt64} {messageOverhead : Nat}
    (h : call (writeData dataBuf dataType) s =
      .ok (.error (.maxPacketSizeTooSmall maxPacketSize messageOverhead), t)) :
    writeDataMessages s.channel.info.maxPacketSize dataBuf dataType =
        .ok (.error (.maxPacketSizeTooSmall maxPacketSize messageOverhead)) ∧
      t.writes = s.writes ++ s.channel.header.toList := by
  rw [writeData] at h
  rcases call_bind_eq_error h with hheader | ⟨⟨⟩, mid, hheader, hbody⟩
  · obtain ⟨io, hio⟩ := maybeSendHeader_eq_error hheader
    cases hio
  · obtain ⟨outcomes, rfl⟩ := maybeSendHeader_eq_ok hheader
    rw [call_bind_of_ok (call_get _)] at hbody
    obtain ⟨result, hmessages, hbody⟩ := call_orPanic_bind_eq_ok hbody
    cases result with
    | error reason =>
      cases hbody
      exact ⟨hmessages, rfl⟩
    | ok messages =>
      obtain ⟨io, hio⟩ := writeMessages_eq_error hbody
      cases hio

end Errors

/-- **The data of a call.**  If `write_data` returns `Ok(n)`, then what it has put on the stream
    behind a header that was still pending is `n` bytes that parse as data messages of the given
    type, none of them empty, whose payloads are the buffer.  If it refuses the packet size, then
    the empty message is larger, and nothing but the header has been written. -/
theorem writeData_preserves_data (s : Endpoint) (dataType : SshDataType) (dataBuf : List UInt8)
    (hlimit : s.channel.info.maxPacketSize.toNat ≤ 16 * 2 ^ 20)
    (htype : dataType.toNat ≤ 2 ^ 62 - 1) :
    (∀ n t, call (writeData dataBuf dataType) s = .ok (.ok n, t) →
      ∃ (bytes : List UInt8) (payloads : List (List UInt8)),
        t.bytes = s.bytes ++ s.channel.header.getD [] ++ bytes ∧ bytes.length = n ∧
        readAll Message.parse bytes =
          .ok (payloads.map fun data => .data { dataType, data }) ∧
        (∀ data ∈ payloads, data ≠ []) ∧ payloads.flatten = dataBuf) ∧
    (∀ maxPacketSize messageOverhead t,
      call (writeData dataBuf dataType) s =
        .ok (.error (.maxPacketSizeTooSmall maxPacketSize messageOverhead), t) →
      maxPacketSize = s.channel.info.maxPacketSize ∧
        DataOrExtendedDataMessage.encodedLen { dataType, data := [] } = .ok messageOverhead ∧
        s.channel.info.maxPacketSize.toNat < messageOverhead ∧
        t.bytes = s.bytes ++ s.channel.header.getD []) := by
  have htype : dataType ≤ MAX_VARINT := UInt64.le_iff_toNat_le.mpr htype
  have hheader : s.channel.header.toList.flatten = s.channel.header.getD [] := by
    cases s.channel.header with
    | none => rfl
    | some header => exact List.append_nil header
  constructor
  · intro n t h
    obtain ⟨payloads, outcomes, hpayloads, hflatten, hn, rfl⟩ :=
      writeData_frames (UInt64.le_iff_toNat_le.mpr hlimit) htype h
    refine ⟨_, payloads, ?_, hn.symm, ?_, fun data hdata => (hpayloads data hdata).1, hflatten⟩
    · show (s.writes ++ s.channel.header.toList ++
        (payloads.map fun data => Message.data { dataType, data }).map Message.wire).flatten = _
      rw [List.flatten_append, List.flatten_append, hheader, List.flatMap_def]
      rfl
    · exact readAll_dataMessages htype hpayloads
  · intro maxPacketSize messageOverhead t h
    obtain ⟨hmessages, hwrites⟩ := writeData_eq_maxPacketSizeTooSmall h
    rw [writeDataMessages, encodedLen_empty htype, ok_bind] at hmessages
    have hbytes : t.bytes = s.bytes ++ s.channel.header.getD [] := by
      rw [Endpoint.bytes, hwrites, List.flatten_append, hheader]
      rfl
    by_cases hsmall : s.channel.info.maxPacketSize.toNat < overhead dataType
    · rw [if_pos hsmall] at hmessages
      cases hmessages
      exact ⟨rfl, encodedLen_empty htype, hsmall, hbytes⟩
    · rw [if_neg hsmall] at hmessages
      cases hmessages

/-- Three bytes of standard error in packets of five, and the same call on a channel with packets
    of two. -/
theorem writeData_preserves_three_bytes :
    (∃ t, call (writeData [1, 2, 3] 1) (freshEndpoint 5) = .ok (.ok 15, t) ∧
      ∃ (bytes : List UInt8) (payloads : List (List UInt8)),
        t.bytes = (freshEndpoint 5).bytes ++ [] ++ bytes ∧ bytes.length = 15 ∧
        readAll Message.parse bytes =
          .ok (payloads.map fun data => .data { dataType := 1, data }) ∧
        (∀ data ∈ payloads, data ≠ []) ∧ payloads.flatten = [1, 2, 3]) ∧
    ∃ t, call (writeData [1, 2, 3] 1) (freshEndpoint 2) =
        .ok (.error (.maxPacketSizeTooSmall 2 4), t) ∧ t.bytes = (freshEndpoint 2).bytes ++ [] := by
  have hfive : ∃ t, call (writeData [1, 2, 3] 1) (freshEndpoint 5) = .ok (.ok 15, t) := ⟨_, rfl⟩
  have htwo : ∃ t, call (writeData [1, 2, 3] 1) (freshEndpoint 2) =
      .ok (.error (.maxPacketSizeTooSmall 2 4), t) := ⟨_, rfl⟩
  obtain ⟨t, ht⟩ := hfive
  obtain ⟨u, hu⟩ := htwo
  refine ⟨⟨t, ht, ?_⟩, u, hu, ?_⟩
  · exact (writeData_preserves_data (freshEndpoint 5) 1 [1, 2, 3] (by decide) (by decide)).1 15 t ht
  · exact ((writeData_preserves_data (freshEndpoint 2) 1 [1, 2, 3] (by decide) (by decide)).2
      2 4 u hu).2.2.2

end Ssh3.Core
