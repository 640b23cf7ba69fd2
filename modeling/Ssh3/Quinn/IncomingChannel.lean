/-
  Ssh3.Quinn.IncomingChannel

  `ssh3-quinn/src/channel.rs`: reading the header of a stream the peer opened.

  `IsHeader` describes the byte strings that are headers of the protocol;
  `read_incoming_channel` accepts a stream exactly if it starts with one, and
  returns what it says.
-/

import Ssh3.Core.Channel

namespace Ssh3.Quinn

open Proto hiding readVarInt readSshBytes
open Ssh3.Core StreamCodec VarInt

/-- Why the header of a stream is not read -/
inductive ChannelSetupError where
  | io (err : IoError)
  | proto (err : Error)
  | unexpectedFrameType (frameType : UInt64)
  deriving DecidableEq, Repr

/-- A stream of the peer, with what its header says -/
structure IncomingChannel where
  streamId : UInt64
  header : ChannelHeader
  forwardingTarget : Option SocketAddr
  deriving DecidableEq, Repr

/-- `quinn::RecvStream`: the bytes the peer sends before the stream ends with `ending`. -/
def recvSource (ending : IoError) : ByteSource (List UInt8) ChannelSetupError :=
  bytesSource (.io ending) .proto

/-- The channel types whose header is followed by a forwarding target. -/
def IsForwardingType (channelType : List UInt8) : Prop :=
  channelType = ascii "direct-udp" ∨ channelType = ascii "direct-tcp"

instance (channelType : List UInt8) : Decidable (IsForwardingType channelType) :=
  inferInstanceAs (Decidable (_ ∨ _))

section Reader

variable {σ : Type} (src : ByteSource σ ChannelSetupError)

namespace RecvStream

/-- `read_byte` of `ssh3-quinn`, the same as that of `ssh3-proto` -/
abbrev readByte : StateT σ (Except ChannelSetupError) UInt8 := readByteFrom src

/-- `read_var_int` of `ssh3-quinn` -/
abbrev readVarInt : StateT σ (Except ChannelSetupError) UInt64 := readVarIntFrom src

/-- `read_ssh_bytes` of `ssh3-quinn` -/
abbrev readSshBytes : StateT σ (Except ChannelSetupError) (List UInt8) := readSshBytesFrom src

end RecvStream

open RecvStream

/-- `read_forwarding_target`: address and port, in a buffer of the family's size. -/
def readForwardingTargetFrom : StateT σ (Except ChannelSetupError) SocketAddr := do
  let family ← src.lift (ForwardingAddressFamily.tryFrom (← readVarInt src))
  match family with
  | .ipv4 =>
    let octets ← src.readExact 4
    let port ← src.readExact 2
    return { ip := .v4 octets, port := fromBeBytes port }
  | .ipv6 =>
    let octets ← src.readExact 16
    let port ← src.readExact 2
    return { ip := .v6 octets, port := fromBeBytes port }

/-- The `match header.channel_type` -/
def forwardingTargetFrom (channelType : List UInt8) :
    StateT σ (Except ChannelSetupError) (Option SocketAddr) :=
  if IsForwardingType channelType then do
    return some (← readForwardingTargetFrom src)
  else
    return none

/-- `read_incoming_channel`, from any source of bytes -/
def readIncomingChannelFrom (streamId : UInt64) :
    StateT σ (Except ChannelSetupError) IncomingChannel := do
  let frameType ← readVarInt src
  if frameType ≠ SSH_FRAME_TYPE then
    throw (.unexpectedFrameType frameType)
  else
    let conversationStreamId ← readVarInt src
    let channelType ← readSshBytes src
    let maxPacketSize ← readVarInt src
    let header : ChannelHeader := { conversationStreamId, channelType, maxPacketSize }
    let forwardingTarget ← forwardingTargetFrom src header.channelType
    return { streamId, header, forwardingTarget }

theorem readForwardingTargetFrom_eq :
    readForwardingTargetFrom src = parseForwardingPayloadFrom src := by
  unfold readForwardingTargetFrom parseForwardingPayloadFrom
  refine bind_congr fun value => ?_
  refine bind_congr fun family => ?_
  cases family with
  | ipv4 => rfl
  | ipv6 => rfl

/-- Behind the frame type, the fields are those of `parse_payload`. -/
theorem readIncomingChannelFrom_eq (streamId : UInt64) :
    readIncomingChannelFrom src streamId = do
      let frameType ← readVarInt src
      if frameType ≠ SSH_FRAME_TYPE then
        throw (.unexpectedFrameType frameType)
      else
        let header ← ChannelHeader.parsePayloadFrom src
        let forwardingTarget ← forwardingTargetFrom src header.channelType
        return { streamId, header, forwardingTarget } := by
  unfold readIncomingChannelFrom ChannelHeader.parsePayloadFrom
  simp only [bind_assoc, pure_bind]

end Reader

/-- `read_incoming_channel` on the bytes of a stream -/
def readIncomingChannel (ending : IoError) (streamId : UInt64) :
    Reader UInt8 ChannelSetupError IncomingChannel :=
  readIncomingChannelFrom (recvSource ending) streamId

/-- The `Channel::new` of `into_accepted_channel`: `send_header` is false, so no header is
    encoded and nothing can panic. -/
def IncomingChannel.newChannel (self : IncomingChannel) (conversationId : ConversationId)
    (datagramSender : Option ConversationDatagramSender) (datagramsQueueSize : Nat) : Channel where
  info := {
    maxPacketSize := self.header.maxPacketSize
    conversationStreamId := self.header.conversationStreamId
    conversationId
    channelId := self.streamId
    channelType := self.header.channelType }
  confirmSent := false
  confirmReceived := true
  header := none
  datagramSender := if self.header.channelType = ascii "direct-udp" then datagramSender else none
  datagramsQueueSize

def IncomingChannel.intoAcceptedChannel (self : IncomingChannel)
    (conversationId : ConversationId) (datagramSender : Option ConversationDatagramSender)
    (datagramsQueueSize : Nat) : AcceptedChannel :=
  let channel := self.newChannel conversationId datagramSender datagramsQueueSize
  match self.forwardingTarget with
  | some remoteAddr =>
    if self.header.channelType = ascii "direct-udp" then .udpForwarding channel remoteAddr
    else if self.header.channelType = ascii "direct-tcp" then .tcpForwarding channel remoteAddr
    else .channel channel
  | none => .channel channel

theorem IncomingChannel.inner_intoAcceptedChannel (self : IncomingChannel)
    (conversationId : ConversationId) (datagramSender : Option ConversationDatagramSender)
    (datagramsQueueSize : Nat) :
    (self.intoAcceptedChannel conversationId datagramSender datagramsQueueSize).inner =
      self.newChannel conversationId datagramSender datagramsQueueSize := by
  obtain ⟨streamId, header, target⟩ := self
  cases target with
  | none => rfl
  | some addr =>
    unfold IncomingChannel.intoAcceptedChannel
    simp only
    split_ifs
    · rfl
    · rfl
    · rfl

/-! ## The headers of the protocol -/

/-- `pre` is the forwarding target that a header of this type is followed by, if any. -/
def IsTarget (channelType pre : List UInt8) : Option SocketAddr → Prop
  | some addr => IsForwardingType channelType ∧ IsForwardingTarget pre addr
  | none => ¬IsForwardingType channelType ∧ pre = []

/-- `pre` is a channel header: the frame type, the header, and behind the header of a
    forwarding channel its target. -/
def IsHeader (pre : List UInt8) (header : ChannelHeader) (target : Option SocketAddr) : Prop :=
  ∃ frameBytes payload targetBytes, pre = frameBytes ++ (payload ++ targetBytes) ∧
    IsVarInt frameBytes SSH_FRAME_TYPE.toNat ∧ header.IsPayload payload ∧
    IsTarget header.channelType targetBytes target

theorem reads_forwardingTargetFrom (ending : IoError) {channelType pre : List UInt8}
    {target : Option SocketAddr} (h : IsTarget channelType pre target) :
    Reads (forwardingTargetFrom (recvSource ending) channelType) pre target := by
  cases target with
  | some addr =>
    rw [forwardingTargetFrom, if_pos h.1, readForwardingTargetFrom_eq]
    exact reads_bind_pure (f := some) (reads_parseForwardingPayloadFrom _ _ h.2)
  | none =>
    rw [forwardingTargetFrom, if_neg h.1, h.2]
    exact reads_pure none

theorem forwardingTargetFrom_sound {ending : IoError} {channelType input rest : List UInt8}
    {target : Option SocketAddr}
    (h : (forwardingTargetFrom (recvSource ending) channelType).run input = .ok (target, rest)) :
    ∃ pre, input = pre ++ rest ∧ IsTarget channelType pre target := by
  by_cases hforward : IsForwardingType channelType
  · rw [forwardingTargetFrom, if_pos hforward, readForwardingTargetFrom_eq] at h
    obtain ⟨addr, mid, haddr, h⟩ := run_bind_eq_ok.mp h
    obtain ⟨rfl, rfl⟩ := run_pure_eq_ok.mp h
    obtain ⟨pre, rfl, hpre⟩ := parseForwardingPayloadFrom_sound _ _ haddr
    exact ⟨pre, rfl, hforward, hpre⟩
  · rw [forwardingTargetFrom, if_neg hforward] at h
    obtain ⟨rfl, rfl⟩ := run_pure_eq_ok.mp h
    exact ⟨[], rfl, hforward, rfl⟩

/-- Every header is accepted, whatever follows it. -/
theorem reads_readIncomingChannel (ending : IoError) (streamId : UInt64) {pre : List UInt8}
    {header : ChannelHeader} {target : Option SocketAddr} (h : IsHeader pre header target) :
    Reads (readIncomingChannel ending streamId) pre ⟨streamId, header, target⟩ := by
  obtain ⟨frameBytes, payload, targetBytes, rfl, hframe, hpayload, htarget⟩ := h
  -- frame type, header, and the target of a forwarding channel
  rw [readIncomingChannel, readIncomingChannelFrom_eq]
  refine reads_bind (reads_readVarIntFrom _ _ hframe) ?_
  rw [if_neg (not_not.mpr rfl)]
  refine reads_bind (reads_parsePayloadFrom _ _ hpayload) ?_
  exact reads_bind_pure (f := IncomingChannel.mk streamId header)
    (reads_forwardingTargetFrom ending htarget)

/-- What is accepted starts with a header, and is what that header says. -/
theorem readIncomingChannel_sound {ending : IoError} {streamId : UInt64}
    {input rest : List UInt8} {incoming : IncomingChannel}
    (h : (readIncomingChannel ending streamId).run input = .ok (incoming, rest)) :
    ∃ pre, input = pre ++ rest ∧ incoming.streamId = streamId ∧
      IsHeader pre incoming.header incoming.forwardingTarget := by
  rw [readIncomingChannel, readIncomingChannelFrom_eq] at h
  obtain ⟨frameType, r₁, hrunFrame, hbody⟩ := run_bind_eq_ok.mp h
  obtain ⟨frameBytes, rfl, hframe⟩ := readVarIntFrom_sound _ _ hrunFrame
  -- any other frame type is an error of the setup
  by_cases htype : frameType = SSH_FRAME_TYPE
  · subst htype
    rw [if_neg (not_not.mpr rfl)] at hbody
    obtain ⟨header, r₂, hrunHeader, hbody⟩ := run_bind_eq_ok.mp hbody
    obtain ⟨target, r₃, hrunTarget, hbody⟩ := run_bind_eq_ok.mp hbody
    obtain ⟨rfl, rfl⟩ := run_pure_eq_ok.mp hbody
    obtain ⟨payload, rfl, hpayload⟩ := parsePayloadFrom_sound _ _ hrunHeader
    obtain ⟨targetBytes, rfl, htarget⟩ := forwardingTargetFrom_sound hrunTarget
    refine ⟨_, ?_, rfl, frameBytes, payload, targetBytes, rfl, hframe, hpayload, htarget⟩
    rw [List.append_assoc, List.append_assoc]
  · rw [if_pos htype] at hbody
    cases hbody

end Ssh3.Quinn
