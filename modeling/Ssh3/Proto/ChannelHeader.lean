/-
  Ssh3.Proto.ChannelHeader

  `ssh3-proto/src/channel.rs`: the header in front of a channel stream and the
  forwarding target that follows it on forwarding channels.

  `IsPayload` and `IsForwardingTarget` describe the accepted byte strings
  independently of the reader: every number in any of its varint widths.  The
  readers accept exactly these; what stands in front of an encoder's output is
  the header it encoded.
-/

import Ssh3.Proto.MessageCodec

namespace Ssh3.Proto

open StreamCodec VarInt

def SSH_FRAME_TYPE : UInt64 := 0xaf3627e6

/-- What opens a channel -/
structure ChannelHeader where
  conversationStreamId : UInt64
  channelType : List UInt8
  maxPacketSize : UInt64
  deriving DecidableEq, Repr

/-- `std::net::SocketAddr`, without the flow label and scope that are always zero here. -/
structure SocketAddr where
  ip : IpAddr
  port : UInt16
  deriving DecidableEq, Repr

def ChannelHeader.encode (self : ChannelHeader) (additionalBytes : Option (List UInt8)) :
    Except Panic (List UInt8) := do
  let out ← appendVarInt [] SSH_FRAME_TYPE
  let out ← appendVarInt out self.conversationStreamId
  let out ← appendSshBytes out self.channelType
  let out ← appendVarInt out self.maxPacketSize
  return out ++ additionalBytes.getD []

def buildForwardingAdditionalBytes (remoteAddr : IpAddr) (port : UInt16) :
    Except Panic (List UInt8) := do
  let family := ForwardingAddressFamily.fromIp remoteAddr
  let out ← appendVarInt [] family.asU64
  return out ++ remoteAddr.octets ++ toBeBytes port

section Readers

variable {σ ε : Type} (src : ByteSource σ ε)

/-- `ChannelHeader::parse_payload`: what follows the frame type. -/
def ChannelHeader.parsePayloadFrom : StateT σ (Except ε) ChannelHeader := do
  let conversationStreamId ← readVarIntFrom src
  let channelType ← readSshBytesFrom src
  let maxPacketSize ← readVarIntFrom src
  return { conversationStreamId, channelType, maxPacketSize }

def parseForwardingPayloadFrom : StateT σ (Except ε) SocketAddr := do
  let family ← src.lift (ForwardingAddressFamily.tryFrom (← readVarIntFrom src))
  let octets ← src.readExact family.octetLen
  let port ← src.readExact 2
  return { ip := IpAddr.ofOctets family octets, port := fromBeBytes port }

end Readers

/-! ## The accepted byte strings -/

/-- `pre` is a header without its frame type. -/
def ChannelHeader.IsPayload (pre : List UInt8) (header : ChannelHeader) : Prop :=
  ∃ idBytes typeBytes sizeBytes, pre = idBytes ++ (typeBytes ++ sizeBytes) ∧
    IsVarInt idBytes header.conversationStreamId.toNat ∧
    IsSshBytes typeBytes header.channelType ∧
    IsVarInt sizeBytes header.maxPacketSize.toNat

/-- `pre` is a forwarding target: address family, address, port. -/
def IsForwardingTarget (pre : List UInt8) (addr : SocketAddr) : Prop :=
  ∃ familyBytes, ∃ port : { xs : List UInt8 // xs.length = 2 },
    pre = familyBytes ++ (addr.ip.octets ++ port.val) ∧
    IsVarInt familyBytes (ForwardingAddressFamily.fromIp addr.ip).asU64.toNat ∧
    addr.port = fromBeBytes port

theorem ForwardingAddressFamily.tryFrom_eq_ok {value : UInt64} {family : ForwardingAddressFamily} :
    ForwardingAddressFamily.tryFrom value = .ok family ↔ value = family.asU64 := by
  constructor
  · intro h
    unfold ForwardingAddressFamily.tryFrom at h
    split at h
    · cases h
      rfl
    · cases h
      rfl
    · cases h
  · rintro rfl
    exact ForwardingAddressFamily.tryFrom_asU64 family

theorem IpAddr.octets_ofOctets (family : ForwardingAddressFamily)
    (octets : { octets : List UInt8 // octets.length = family.octetLen }) :
    (IpAddr.ofOctets family octets).octets = octets.val ∧
      ForwardingAddressFamily.fromIp (IpAddr.ofOctets family octets) = family := by
  cases family with
  | ipv4 => exact ⟨rfl, rfl⟩
  | ipv6 => exact ⟨rfl, rfl⟩

/-! ## Readers against the descriptions -/

section Readers

variable {ε : Type} (ending : ε) (ofProto : Error → ε)

theorem reads_parsePayloadFrom {pre : List UInt8} {header : ChannelHeader}
    (h : header.IsPayload pre) :
    Reads (ChannelHeader.parsePayloadFrom (bytesSource ending ofProto)) pre header := by
  obtain ⟨idBytes, typeBytes, sizeBytes, rfl, hid, htype, hsize⟩ := h
  refine reads_bind (reads_readVarIntFrom ending ofProto hid) ?_
  refine reads_bind (reads_readSshBytesFrom ending ofProto htype) ?_
  exact reads_bind_pure (f := ChannelHeader.mk _ _) (reads_readVarIntFrom ending ofProto hsize)

theorem parsePayloadFrom_sound {input rest : List UInt8} {header : ChannelHeader}
    (h : (ChannelHeader.parsePayloadFrom (bytesSource ending ofProto)).run input =
      .ok (header, rest)) :
    ∃ pre, input = pre ++ rest ∧ header.IsPayload pre := by
  obtain ⟨id, r₁, hrunId, h⟩ := run_bind_eq_ok.mp h
  obtain ⟨channelType, r₂, hrunType, h⟩ := run_bind_eq_ok.mp h
  obtain ⟨size, r₃, hrunSize, h⟩ := run_bind_eq_ok.mp h
  obtain ⟨rfl, rfl⟩ := run_pure_eq_ok.mp h
  obtain ⟨idBytes, rfl, hid⟩ := readVarIntFrom_sound ending ofProto hrunId
  obtain ⟨typeBytes, rfl, htype⟩ := readSshBytesFrom_sound ending ofProto hrunType
  obtain ⟨sizeBytes, rfl, hsize⟩ := readVarIntFrom_sound ending ofProto hrunSize
  refine ⟨_, ?_, idBytes, typeBytes, sizeBytes, rfl, hid, htype, hsize⟩
  rw [List.append_assoc, List.append_assoc]

theorem reads_parseForwardingPayloadFrom {pre : List UInt8} {addr : SocketAddr}
    (h : IsForwardingTarget pre addr) :
    Reads (parseForwardingPayloadFrom (bytesSource ending ofProto)) pre addr := by
  obtain ⟨familyBytes, port, rfl, hfamily, hport⟩ := h
  refine reads_bind (reads_readVarIntFrom ending ofProto hfamily) ?_
  rw [ForwardingAddressFamily.tryFrom_asU64]
  refine reads_bind (p := []) (reads_pure _) ?_
  refine reads_bind (reads_readExact ending addr.ip.octets addr.ip.octets_length) ?_
  rw [addr.ip.ofOctets_octets]
  have hread := reads_bind_pure (f := fun port => SocketAddr.mk addr.ip (fromBeBytes port))
    (reads_readExact ending port.val port.property)
  rw [← hport] at hread
  exact hread

theorem parseForwardingPayloadFrom_sound {input rest : List UInt8} {addr : SocketAddr}
    (h : (parseForwardingPayloadFrom (bytesSource ending ofProto)).run input = .ok (addr, rest)) :
    ∃ pre, input = pre ++ rest ∧ IsForwardingTarget pre addr := by
  obtain ⟨value, r₁, hvalue, h⟩ := run_bind_eq_ok.mp h
  obtain ⟨family, r₂, hlift, h⟩ := run_bind_eq_ok.mp h
  obtain ⟨octets, r₃, hoctets, h⟩ := run_bind_eq_ok.mp h
  obtain ⟨port, r₄, hport, h⟩ := run_bind_eq_ok.mp h
  obtain ⟨rfl, rfl⟩ := run_pure_eq_ok.mp h
  obtain ⟨familyBytes, rfl, hbytes⟩ := readVarIntFrom_sound ending ofProto hvalue
  obtain ⟨hfamily, rfl⟩ := (lift_eq_ok ending ofProto).mp hlift
  obtain rfl := ForwardingAddressFamily.tryFrom_eq_ok.mp hfamily
  obtain rfl := readExact_eq_ok.mp hoctets
  obtain rfl := readExact_eq_ok.mp hport
  obtain ⟨hval, hfrom⟩ := IpAddr.octets_ofOctets family octets
  refine ⟨familyBytes ++ (octets.val ++ port.val), ?_, familyBytes, port, ?_, ?_, rfl⟩
  · rw [List.append_assoc, List.append_assoc]
  · rw [hval]
  · rw [hfrom]
    exact hbytes

end Readers

/-! ## The encoder -/

/-- The numbers of the header and the length of its type have an encoding. -/
def ChannelHeader.Encodable (self : ChannelHeader) : Prop :=
  self.conversationStreamId ≤ MAX_VARINT ∧
    UInt64.ofNat self.channelType.length ≤ MAX_VARINT ∧ self.maxPacketSize ≤ MAX_VARINT

/-- The header as the encoder writes it, without its frame type. -/
def ChannelHeader.payload (self : ChannelHeader) : List UInt8 :=
  varIntBytes self.conversationStreamId ++ (sshBytes self.channelType ++
    varIntBytes self.maxPacketSize)

/-- The encoder returns for the encodable headers, and panics for all others. -/
theorem ChannelHeader.encode_eq_ok {self : ChannelHeader}
    {additionalBytes : Option (List UInt8)} {bytes : List UInt8} :
    self.encode additionalBytes = .ok bytes ↔ self.Encodable ∧
      bytes = varIntBytes SSH_FRAME_TYPE ++ (self.payload ++ additionalBytes.getD []) := by
  constructor
  · intro h
    -- every field that was appended had an encoding
    obtain ⟨out₁, hframe, h⟩ := bind_eq_ok.mp h
    obtain ⟨out₂, h₂, h⟩ := bind_eq_ok.mp h
    obtain ⟨out₃, h₃, h⟩ := bind_eq_ok.mp h
    obtain ⟨out₄, h₄, h⟩ := bind_eq_ok.mp h
    obtain ⟨-, rfl⟩ := appendVarInt_eq_ok.mp hframe
    obtain ⟨hid, rfl⟩ := appendVarInt_eq_ok.mp h₂
    obtain ⟨htype, rfl⟩ := appendSshBytes_eq_ok.mp h₃
    obtain ⟨hsize, rfl⟩ := appendVarInt_eq_ok.mp h₄
    cases h
    refine ⟨⟨hid, htype, hsize⟩, ?_⟩
    simp only [ChannelHeader.payload, List.nil_append, List.append_assoc]
  · rintro ⟨⟨hid, htype, hsize⟩, rfl⟩
    have hframe : SSH_FRAME_TYPE ≤ MAX_VARINT := by decide
    simp only [ChannelHeader.encode, ChannelHeader.payload, appendVarInt_eq hframe,
      appendVarInt_eq hid, appendSshBytes_eq_of_le htype, appendVarInt_eq hsize, ok_bind,
      List.nil_append, List.append_assoc]
    rfl

/-- A header at the beginning of what an encoder wrote is the one it encoded; that the length
    of the type fits in 64 bits is a property of every vector. -/
theorem ChannelHeader.eq_of_isPayload {sent header : ChannelHeader} {pre rest more : List UInt8}
    (hsent : sent.Encodable) (hlength : sent.channelType.length < 2 ^ 64)
    (hheader : header.IsPayload pre) (hbytes : pre ++ rest = sent.payload ++ more) :
    header = sent := by
  obtain ⟨idBytes, typeBytes, sizeBytes, rfl, hid, ⟨lengthBytes, rfl, hlen, hok⟩, hsize⟩ := hheader
  simp only [ChannelHeader.payload, sshBytes, List.append_assoc] at hbytes
  -- field by field: two encodings in front of the same bytes are of the same number
  have hvarInt : ∀ {p q r r' : List UInt8} {v w : UInt64}, IsVarInt p v.toNat →
      IsVarInt q w.toNat → p ++ r = q ++ r' → v = w ∧ r = r' := by
    intro p q r r' v w hv hw heq
    obtain ⟨-, hvalue, hrest⟩ := Reads.unique (reads_readVarIntFrom () (fun _ => ()) hv)
      (reads_readVarIntFrom () (fun _ => ()) hw) heq
    exact ⟨hvalue, hrest⟩
  obtain ⟨heqId, hbytes⟩ := hvarInt hid (isVarInt_varIntBytes hsent.1) hbytes
  rw [← hok.toNat_length] at hlen
  obtain ⟨heqLength, hbytes⟩ := hvarInt hlen (isVarInt_varIntBytes hsent.2.1) hbytes
  have hlengths : header.channelType.length = sent.channelType.length := by
    have htoNat := congrArg UInt64.toNat heqLength
    rw [hok.toNat_length] at htoNat
    exact htoNat.trans (UInt64.toNat_ofNat_of_lt hlength)
  obtain ⟨heqType, hbytes⟩ := List.append_inj hbytes hlengths
  obtain ⟨heqSize, -⟩ := hvarInt hsize (isVarInt_varIntBytes hsent.2.2) hbytes
  obtain ⟨id, type, size⟩ := header
  cases heqId
  cases heqType
  cases heqSize
  rfl

end Ssh3.Proto
