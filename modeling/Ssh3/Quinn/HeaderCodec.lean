/-
  Ssh3.Quinn.HeaderCodec

  `ssh3-quinn/src/channel.rs` again: `read_incoming_channel` on a stream that delivers its
  bytes in pieces.

  The header is decoded in two more places, by `ChannelHeader::parse_payload` and
  `parse_forwarding_payload` of `ssh3-proto`, and it is encoded in two, by
  `ChannelHeader::encode` and by `buildHeader` of the Go package.  All of them agree.
-/

import Ssh3.Go.Channel
import Ssh3.Go.Forwarding
import Ssh3.Proto.Sources
import Ssh3.Quinn.IncomingChannel

namespace Ssh3.Quinn

open Proto Lockstep StreamCodec VarInt

/-- `quinn::RecvStream`, with the errors of the channel setup. -/
def streamSource : ByteSource (Fragments.Stream UInt8 IoError) ChannelSetupError :=
  pieceSource .io .proto

/-! ## The pieces do not matter -/

section Lockstep

variable {σ τ : Type} {R : σ → τ → Prop} {src : ByteSource σ ChannelSetupError}
  {dst : ByteSource τ ChannelSetupError} (h : SameSource R Eq src dst)

include h

theorem lockstep_readForwardingTargetFrom :
    InStep R Eq (readForwardingTargetFrom src) (readForwardingTargetFrom dst) := by
  refine lockstep_bind (lockstep_readVarIntFrom h) fun value => ?_
  refine lockstep_bind (lockstep_lift h fun _ => ForwardingAddressFamily.tryFrom_isProtocol)
    fun family => ?_
  cases family with
  | ipv4 =>
    refine lockstep_bind (h.readExact 4) fun octets => ?_
    exact lockstep_bind (h.readExact 2) fun _ => lockstep_pure _
  | ipv6 =>
    refine lockstep_bind (h.readExact 16) fun octets => ?_
    exact lockstep_bind (h.readExact 2) fun _ => lockstep_pure _

theorem lockstep_readIncomingChannelFrom (streamId : UInt64) :
    InStep R Eq (readIncomingChannelFrom src streamId)
      (readIncomingChannelFrom dst streamId) := by
  have hnumber := lockstep_readVarIntFrom h
  refine lockstep_bind hnumber fun frameType => ?_
  refine lockstep_ite (lockstep_throw rfl) ?_
  refine lockstep_bind hnumber fun conversationStreamId => ?_
  refine lockstep_bind (lockstep_readSshBytesFrom h) fun channelType => ?_
  refine lockstep_bind hnumber fun maxPacketSize => ?_
  refine lockstep_bind (lockstep_ite ?_ (lockstep_pure none)) fun _ => lockstep_pure _
  exact lockstep_bind (lockstep_readForwardingTargetFrom h) fun _ => lockstep_pure _

end Lockstep

/-- `read_incoming_channel` on a stream in pieces and on its bytes. -/
theorem run_streamSource_iff (s : Fragments.Stream UInt8 IoError) (streamId : UInt64)
    (incoming : IncomingChannel) (rest : List UInt8) :
    (∃ t, (readIncomingChannelFrom streamSource streamId).run s = .ok (incoming, t) ∧
      t.bytes = rest) ↔
    (readIncomingChannel s.ending streamId).run s.bytes = .ok (incoming, rest) := by
  have hsource : SameSource (Holds s.ending) Eq streamSource (recvSource s.ending) :=
    sameSource_pieceSource rfl fun _ _ => rfl
  have hsame := lockstep_readIncomingChannelFrom hsource streamId s s.bytes ⟨rfl, rfl⟩
  unfold readIncomingChannel
  generalize (readIncomingChannelFrom streamSource streamId).run s = x at hsame ⊢
  generalize (readIncomingChannelFrom (recvSource s.ending) streamId).run s.bytes = y at hsame ⊢
  cases hsame with
  | @ok t rest' incoming' hrest =>
    constructor
    · rintro ⟨t', heq, rfl⟩
      cases heq
      rw [hrest.1]
    · intro heq
      cases heq
      exact ⟨t, rfl, hrest.1⟩
  | error hsame =>
    constructor
    · rintro ⟨t, heq, -⟩
      cases heq
    · intro heq
      cases heq

/-! ## The encoders -/

/-- The numbers of the header have an encoding, and its type is within the limit of a reader. -/
def WithinLimits (header : ChannelHeader) : Prop :=
  header.conversationStreamId ≤ MAX_VARINT ∧ SshBytesOk header.channelType ∧
    header.maxPacketSize ≤ MAX_VARINT

variable {header : ChannelHeader}

theorem WithinLimits.encodable (h : WithinLimits header) : header.Encodable :=
  ⟨h.1, h.2.1.length_le, h.2.2⟩

theorem isPayload_payload (h : WithinLimits header) : header.IsPayload header.payload :=
  ⟨_, _, _, rfl, isVarInt_varIntBytes h.1, isSshBytes_sshBytes h.2.1, isVarInt_varIntBytes h.2.2⟩

/-- `build_forwarding_additional_bytes` for a channel with a target -/
def additionalBytes : Option SocketAddr → Except Panic (Option (List UInt8))
  | none => .ok none
  | some addr => do return some (← buildForwardingAdditionalBytes addr.ip addr.port)

/-- What both languages write for a forwarding target. -/
def targetBytes (addr : SocketAddr) : List UInt8 :=
  varIntBytes (ForwardingAddressFamily.fromIp addr.ip).asU64 ++
    (addr.ip.octets ++ toBeBytes addr.port)

theorem buildForwardingAdditionalBytes_eq (addr : SocketAddr) :
    buildForwardingAdditionalBytes addr.ip addr.port = .ok (targetBytes addr) := by
  have hfamily := (ForwardingAddressFamily.fromIp addr.ip).asU64_le
  unfold buildForwardingAdditionalBytes targetBytes
  simp only [appendVarInt_eq hfamily, ok_bind, List.nil_append, List.append_assoc]
  rfl

theorem isForwardingTarget_targetBytes (addr : SocketAddr) :
    IsForwardingTarget (targetBytes addr) addr := by
  have hfamily := (ForwardingAddressFamily.fromIp addr.ip).asU64_le
  exact ⟨_, ⟨toBeBytes addr.port, rfl⟩, rfl, isVarInt_varIntBytes hfamily,
    (fromBeBytes_toBeBytes addr.port).symm⟩

/-- A target belongs to the headers of the forwarding types, and to no others. -/
theorem additionalBytes_eq {channelType : List UInt8} {target : Option SocketAddr}
    (h : target.isSome ↔ IsForwardingType channelType) :
    ∃ extra, additionalBytes target = .ok extra ∧
      IsTarget channelType (extra.getD []) target := by
  cases target with
  | none => exact ⟨none, rfl, fun htype => absurd (h.mpr htype) nofun, rfl⟩
  | some addr =>
    refine ⟨some (targetBytes addr), ?_, h.mp rfl, isForwardingTarget_targetBytes addr⟩
    simp only [additionalBytes, buildForwardingAdditionalBytes_eq, ok_bind]
    rfl

theorem buildForwardingChannelAdditionalBytes_eq (addr : SocketAddr) :
    Go.buildForwardingChannelAdditionalBytes addr.ip.octets addr.port =
      .ok (targetBytes addr) := by
  have hfamily := (ForwardingAddressFamily.fromIp addr.ip).asU64_le
  -- the family that Go takes from the length of the address is that of the address
  have hlength : (if addr.ip.octets.length = 4 then Go.SSHAFIpv4 else Go.SSHAFIpv6) =
      (ForwardingAddressFamily.fromIp addr.ip).asU64 := by
    rw [addr.ip.octets_length]
    cases addr.ip with
    | v4 address => rfl
    | v6 address => rfl
  unfold Go.buildForwardingChannelAdditionalBytes targetBytes
  simp only [hlength, Go.appendVarInt_eq hfamily, ok_bind, List.nil_append, List.append_assoc]
  rfl

/-- `buildHeader` drops the error of `WriteSSHString`; the buffer has the right size, so there
    is none. -/
theorem buildHeader_eq (h : WithinLimits header) (extra : List UInt8) :
    Go.buildHeader header.conversationStreamId header.channelType header.maxPacketSize extra =
      .ok (varIntBytes SSH_FRAME_TYPE ++ (header.payload ++ extra)) := by
  obtain ⟨hid, htype, hsize⟩ := h
  have hframe : (0xaf3627e6 : UInt64) ≤ MAX_VARINT := by decide
  have hwrite := Go.writes_writeSSHString htype.length_le
    ⟨[], List.replicate (sshBytes header.channelType).length 0⟩ (by simp)
  unfold Go.buildHeader ChannelHeader.payload
  simp only [Go.sshStringLen_eq htype.length_le, ok_bind, hwrite, Go.appendVarInt_eq hframe,
    Go.appendVarInt_eq hid, Go.appendVarInt_eq hsize, List.nil_append, List.drop_replicate,
    Nat.sub_self, List.replicate_zero, List.append_assoc]
  rfl

/-! ## The three decoders and the two encoders -/

/-- `ChannelHeader::parse_payload`, followed by `parse_forwarding_payload` for the two
    forwarding types. -/
def parseHeaderPayload : Parser (ChannelHeader × Option SocketAddr) := do
  let header ← ChannelHeader.parsePayloadFrom cursorSource
  if IsForwardingType header.channelType then
    return (header, some (← parseForwardingPayloadFrom cursorSource))
  else
    return (header, none)

/-- What `parse_payload` and `parse_forwarding_payload` accept is what stands behind the
    frame type of a header. -/
theorem parseHeaderPayload_eq_ok {input rest : List UInt8} {target : Option SocketAddr} :
    parseHeaderPayload.run input = .ok ((header, target), rest) ↔
      ∃ payload pre, input = payload ++ (pre ++ rest) ∧ header.IsPayload payload ∧
        IsTarget header.channelType pre target := by
  constructor
  · intro h
    obtain ⟨header', mid, hheader, hrest⟩ := run_bind_eq_ok.mp h
    obtain ⟨payload, rfl, hpayload⟩ := parsePayloadFrom_sound _ _ hheader
    by_cases htype : IsForwardingType header'.channelType
    · rw [if_pos htype] at hrest
      obtain ⟨addr, mid', haddr, hpure⟩ := run_bind_eq_ok.mp hrest
      obtain ⟨pre, rfl, hpre⟩ := parseForwardingPayloadFrom_sound _ _ haddr
      obtain ⟨heq, rfl⟩ := run_pure_eq_ok.mp hpure
      cases heq
      exact ⟨payload, pre, rfl, hpayload, htype, hpre⟩
    · rw [if_neg htype] at hrest
      obtain ⟨heq, rfl⟩ := run_pure_eq_ok.mp hrest
      cases heq
      exact ⟨payload, [], rfl, hpayload, htype, rfl⟩
  · rintro ⟨payload, pre, rfl, hpayload, htarget⟩
    have hreads : Reads parseHeaderPayload (payload ++ pre) (header, target) := by
      refine reads_bind (reads_parsePayloadFrom _ _ hpayload) ?_
      cases target with
      | none =>
        obtain ⟨htype, rfl⟩ := htarget
        rw [if_neg htype]
        exact reads_pure _
      | some addr =>
        obtain ⟨htype, hpre⟩ := htarget
        rw [if_pos htype]
        exact reads_bind_pure (f := fun addr => (header, some addr))
          (reads_parseForwardingPayloadFrom _ _ hpre)
    rw [← List.append_assoc]
    exact hreads rest

/-- `read_incoming_channel` accepts exactly what the functions of `ssh3-proto` accept behind
    the frame type. -/
theorem readIncomingChannel_eq_ok_iff {ending : IoError} {streamId : UInt64}
    {input rest : List UInt8} {incoming : IncomingChannel} :
    (readIncomingChannel ending streamId).run input = .ok (incoming, rest) ↔
      incoming.streamId = streamId ∧ ∃ tail, readVarInt.run input = .ok (SSH_FRAME_TYPE, tail) ∧
        parseHeaderPayload.run tail =
          .ok ((incoming.header, incoming.forwardingTarget), rest) := by
  constructor
  · intro h
    obtain ⟨pre, rfl, hid, frame, payload, target, rfl, hframe, hpayload, htarget⟩ :=
      readIncomingChannel_sound h
    simp only [List.append_assoc]
    refine ⟨hid, payload ++ (target ++ rest), reads_readVarIntFrom _ _ hframe _, ?_⟩
    exact parseHeaderPayload_eq_ok.mpr ⟨payload, target, rfl, hpayload, htarget⟩
  · rintro ⟨rfl, tail, hread, hparse⟩
    obtain ⟨frame, rfl, hframe⟩ := readVarIntFrom_sound _ _ hread
    obtain ⟨payload, pre, rfl, hpayload, htarget⟩ := parseHeaderPayload_eq_ok.mp hparse
    have hreads := reads_readIncomingChannel ending incoming.streamId
      ⟨frame, payload, pre, rfl, hframe, hpayload, htarget⟩ rest
    simpa only [List.append_assoc] using hreads

/-- **Channel headers survive the wire.**  For every header within the limits, with a target
    exactly if its type is a forwarding type:

    * `read_incoming_channel` on the encoded header, in front of anything and in any pieces,
      returns the header and the target, and leaves exactly what follows;
    * Go's `buildHeader` writes the bytes that `ChannelHeader::encode` writes, whatever the
      additional bytes are, and Go writes the same additional bytes for a target.

    On every stream at all, `read_incoming_channel` returns a channel exactly if `parse_payload`,
    with `parse_forwarding_payload` for the forwarding types, returns its header and target
    behind the frame type. -/
theorem headers_survive_wire :
    (∀ (header : ChannelHeader) (target : Option SocketAddr), WithinLimits header →
      (target.isSome ↔ IsForwardingType header.channelType) →
      ∃ extra bytes, additionalBytes target = .ok extra ∧ header.encode extra = .ok bytes ∧
        ∀ (streamId : UInt64) (s : Fragments.Stream UInt8 IoError) (rest : List UInt8),
          s.bytes = bytes ++ rest →
          ∃ t, (readIncomingChannelFrom streamSource streamId).run s =
            .ok (⟨streamId, header, target⟩, t) ∧ t.bytes = rest) ∧
    (∀ (header : ChannelHeader) (extra : Option (List UInt8)), WithinLimits header →
      ∃ bytes, header.encode extra = .ok bytes ∧
        Go.buildHeader header.conversationStreamId header.channelType header.maxPacketSize
          (extra.getD []) = .ok bytes) ∧
    (∀ addr : SocketAddr, ∃ bytes,
      buildForwardingAdditionalBytes addr.ip addr.port = .ok bytes ∧
        Go.buildForwardingChannelAdditionalBytes addr.ip.octets addr.port = .ok bytes) ∧
    (∀ (s : Fragments.Stream UInt8 IoError) (streamId : UInt64) (incoming : IncomingChannel)
        (rest : List UInt8),
      (∃ t, (readIncomingChannelFrom streamSource streamId).run s = .ok (incoming, t) ∧
        t.bytes = rest) ↔
      incoming.streamId = streamId ∧
        ∃ tail, readVarInt.run s.bytes = .ok (SSH_FRAME_TYPE, tail) ∧
          parseHeaderPayload.run tail =
            .ok ((incoming.header, incoming.forwardingTarget), rest)) := by
  refine ⟨?_, ?_, ?_, ?_⟩
  · intro header target hlimits htarget
    obtain ⟨extra, hextra, hbytes⟩ := additionalBytes_eq htarget
    refine ⟨extra, _, hextra, ChannelHeader.encode_eq_ok.mpr ⟨hlimits.encodable, rfl⟩, ?_⟩
    intro streamId s rest hs
    have hframe : IsVarInt (varIntBytes SSH_FRAME_TYPE) SSH_FRAME_TYPE.toNat :=
      isVarInt_varIntBytes (by decide)
    have hreads := reads_readIncomingChannel s.ending streamId
      ⟨_, _, _, rfl, hframe, isPayload_payload hlimits, hbytes⟩ rest
    rw [← hs] at hreads
    exact (run_streamSource_iff s streamId _ rest).mpr hreads
  · intro header extra hlimits
    exact ⟨_, ChannelHeader.encode_eq_ok.mpr ⟨hlimits.encodable, rfl⟩,
      buildHeader_eq hlimits (extra.getD [])⟩
  · intro addr
    exact ⟨_, buildForwardingAdditionalBytes_eq addr,
      buildForwardingChannelAdditionalBytes_eq addr⟩
  · intro s streamId incoming rest
    rw [run_streamSource_iff, readIncomingChannel_eq_ok_iff]

def udpHeader : ChannelHeader := ⟨4, ascii "direct-udp", 30000⟩

def udpTarget : SocketAddr := ⟨.v4 ⟨[10, 0, 0, 53], rfl⟩, 53⟩

/-- A UDP forwarding channel to port 53 of 10.0.0.53, from a stream that delivers its bytes one
    by one: the header is read up to the byte 7 that follows it. -/
theorem headers_survive_wire_direct_udp :
    ∃ extra bytes, udpHeader.encode extra = .ok bytes ∧
      ∃ t, (readIncomingChannelFrom streamSource 8).run
          ⟨(bytes ++ [7]).map fun b => ⟨[b], List.cons_ne_nil b []⟩, .unexpectedEof, false⟩ =
        .ok (⟨8, udpHeader, some udpTarget⟩, t) ∧ t.bytes = [7] := by
  have htarget : (some udpTarget).isSome ↔
      IsForwardingType udpHeader.channelType :=
    ⟨fun _ => by decide, fun _ => rfl⟩
  obtain ⟨extra, bytes, -, hencode, hread⟩ :=
    headers_survive_wire.1 udpHeader (some udpTarget) ⟨by decide, by decide, by decide⟩ htarget
  refine ⟨extra, bytes, hencode, hread 8 _ [7] ?_⟩
  simp [Fragments.Stream.bytes, List.flatMap_map]

end Ssh3.Quinn
