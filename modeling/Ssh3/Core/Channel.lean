/-
  Ssh3.Core.Channel

  `ssh3-core/src/channel.rs`: the data of a channel and how one is created.
  What tasks do with a channel at run time is modelled in the modules that
  follow, each with the part of the state it uses.
-/

import Ssh3.Proto.ChannelHeader

namespace Ssh3.Core

open Proto

/-- The 32 bytes that are exported from the TLS session -/
abbrev ConversationId := { bytes : List UInt8 // bytes.length = 32 }

/-- The conversation of the examples. -/
def zeroConversation : ConversationId := ⟨List.replicate 32 0, rfl⟩

/-- What the header of a channel says -/
structure ChannelInfo where
  maxPacketSize : UInt64
  conversationStreamId : UInt64
  conversationId : ConversationId
  channelId : UInt64
  channelType : List UInt8
  deriving DecidableEq, Repr

/-- `ConversationDatagramSender`: what it puts in front of a datagram. -/
structure ConversationDatagramSender where
  controlStreamId : UInt64
  channelId : UInt64
  deriving DecidableEq, Repr

/-- A channel as it is created; the streams are not part of the record. -/
structure Channel where
  info : ChannelInfo
  confirmSent : Bool
  confirmReceived : Bool
  header : Option (List UInt8)
  datagramSender : Option ConversationDatagramSender
  datagramsQueueSize : Nat
  deriving DecidableEq, Repr

def Channel.new (conversationStreamId : UInt64) (conversationId : ConversationId)
    (channelId : UInt64) (channelType : List UInt8) (maxPacketSize : UInt64)
    (datagramSender : Option ConversationDatagramSender)
    (sendHeader confirmSent confirmReceived : Bool) (datagramsQueueSize : Nat)
    (additionalHeaderBytes : Option (List UInt8)) : Except Panic Channel := do
  let header ←
    if sendHeader then
      let header : ChannelHeader := { conversationStreamId, channelType, maxPacketSize }
      some <$> header.encode additionalHeaderBytes
    else
      pure none
  return {
    info := { maxPacketSize, conversationStreamId, conversationId, channelId, channelType }
    confirmSent, confirmReceived, header, datagramSender, datagramsQueueSize }

/-- The header a new channel has to send. -/
theorem Channel.new_sendHeader {conversationStreamId : UInt64} {conversationId : ConversationId}
    {channelId : UInt64} {channelType : List UInt8} {maxPacketSize : UInt64}
    {datagramSender : Option ConversationDatagramSender} {confirmSent confirmReceived : Bool}
    {datagramsQueueSize : Nat} {additionalHeaderBytes : Option (List UInt8)} {channel : Channel}
    (h : Channel.new conversationStreamId conversationId channelId channelType maxPacketSize
      datagramSender true confirmSent confirmReceived datagramsQueueSize
      additionalHeaderBytes = .ok channel) :
    ∃ header, ChannelHeader.encode { conversationStreamId, channelType, maxPacketSize }
      additionalHeaderBytes = .ok header ∧ channel.header = some header ∧
      channel.info.maxPacketSize = maxPacketSize := by
  rw [Channel.new, if_pos rfl] at h
  cases hencode : ChannelHeader.encode { conversationStreamId, channelType, maxPacketSize }
      additionalHeaderBytes with
  | error panic =>
    simp only [hencode] at h
    cases h
  | ok header =>
    simp only [hencode] at h
    cases h
    exact ⟨header, rfl, rfl, rfl⟩

/-- A channel that the peer has opened -/
inductive AcceptedChannel where
  | channel (channel : Channel)
  | udpForwarding (channel : Channel) (remoteAddr : SocketAddr)
  | tcpForwarding (channel : Channel) (remoteAddr : SocketAddr)
  deriving DecidableEq, Repr

def AcceptedChannel.inner : AcceptedChannel → Channel
  | .channel self => self
  | .udpForwarding self _ => self
  | .tcpForwarding self _ => self

/-- The errors of a channel -/
inductive ChannelError where
  | io (err : IoError)
  | proto (err : Error)
  | openFailure (reasonCode : UInt64) (errorMessageUtf8 : List UInt8)
  | nonConfirmed (message : Message)
  | datagramSenderMissing (channelId : UInt64)
  | maxPacketSizeTooSmall (maxPacketSize : UInt64) (messageOverhead : Nat)
  deriving DecidableEq, Repr

end Ssh3.Core
