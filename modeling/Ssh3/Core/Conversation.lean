/-
  Ssh3.Core.Conversation

  `ssh3-core/src/conversation.rs`: what a conversation does with a datagram for
  one of its channels.

  How the datagrams of a channel that is not registered yet are set aside is the
  subject of `Ssh3.Core.Reordering`; here a conversation stands at one moment,
  with the channels registered at that moment.
-/

import Ssh3.Core.Channel

namespace Ssh3.Core

open Proto

/-- A conversation at one moment -/
structure Conversation where
  controlStreamId : UInt64
  conversationId : ConversationId
  defaultDatagramsQueueSize : Nat
  /-- The ids in its map of channels -/
  channels : List UInt64
  deriving DecidableEq, Repr

/-- The errors of a conversation -/
inductive ConversationError where
  | channel (err : ChannelError)
  | proto (err : Error)
  | channelNotFound (channelId : UInt64)
  deriving DecidableEq, Repr

/-- A payload handed to the queue of a channel. -/
structure Delivery where
  controlStreamId : UInt64
  channelId : UInt64
  payload : List UInt8
  deriving DecidableEq, Repr

/-- The `wait_add_datagram` in it is one that completes.  A datagram for a channel that is not
    there is set aside, and the call still returns an error. -/
def Conversation.addDatagram (self : Conversation) (datagram : List UInt8) :
    Except ConversationError Delivery :=
  match readVarInt.run datagram with
  | .error err => .error (.proto err)
  | .ok (channelId, payload) =>
    if channelId ∈ self.channels then
      .ok { controlStreamId := self.controlStreamId, channelId, payload }
    else
      .error (.channelNotFound channelId)

/-- The sender that puts the two ids in front of a payload -/
def Conversation.datagramSenderForChannel (self : Conversation) (channelId : UInt64) :
    ConversationDatagramSender where
  controlStreamId := self.controlStreamId
  channelId := channelId

end Ssh3.Core
