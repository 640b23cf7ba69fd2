/-
  Ssh3.Quinn.Router

  `ssh3-quinn/src/channel.rs`: the conversations of a connection, and the loop
  that reads the header of every stream the peer opens and queues the channel
  with its conversation.

  Each stream comes with the router as it stands when the stream is routed, so
  that conversations may come and go between two streams.
-/

import Ssh3.Core.Conversation
import Ssh3.Lib.ErrorLoop
import Ssh3.Quinn.IncomingChannel

namespace Ssh3.Quinn

open Proto Ssh3.Core StreamCodec ErrorLoop

/-- `quinn::ConnectionError` -/
inductive ConnectionError where
  | versionMismatch
  | transportError
  | connectionClosed
  | applicationClosed
  | reset
  | timedOut
  | locallyClosed
  | cidsExhausted
  deriving DecidableEq, Repr

/-- Why no channel is accepted -/
inductive AcceptChannelError where
  | connection (err : ConnectionError)
  | setup (err : ChannelSetupError)
  deriving DecidableEq, Repr

/-- Why a channel has no conversation -/
inductive RouteIncomingChannelError where
  | unknownConversation (controlStreamId channelId : UInt64)
  deriving DecidableEq, Repr

/-- Why no channel is accepted and routed -/
inductive RouteAcceptedChannelError where
  | accept (err : AcceptChannelError)
  | route (err : RouteIncomingChannelError)
  deriving DecidableEq, Repr

/-- The map from control streams to conversations. -/
structure IncomingChannelRouter where
  conversations : List Conversation
  deriving DecidableEq, Repr

def IncomingChannelRouter.conversation (self : IncomingChannelRouter) (controlStreamId : UInt64) :
    Option Conversation :=
  self.conversations.find? fun conversation => conversation.controlStreamId = controlStreamId

theorem IncomingChannelRouter.controlStreamId_of_conversation {self : IncomingChannelRouter}
    {controlStreamId : UInt64} {conversation : Conversation}
    (h : self.conversation controlStreamId = some conversation) :
    conversation.controlStreamId = controlStreamId := by
  have hfound := List.find?_some h
  exact of_decide_eq_true hfound

/-! ## Accepting streams -/

/-- A stream the peer opened: what it sends, and how the stream ends.  A stream that the peer
    leaves open ends with the connection. -/
structure BiStream where
  id : UInt64
  bytes : List UInt8
  ending : IoError
  deriving DecidableEq, Repr

/-- A channel in the accept queue of a conversation, with what is left to read from its
    stream. -/
structure QueuedChannel where
  controlStreamId : UInt64
  channel : AcceptedChannel
  recv : List UInt8
  deriving DecidableEq, Repr

def acceptBiChannel (stream : BiStream) :
    Except AcceptChannelError (IncomingChannel × List UInt8) :=
  ((readIncomingChannel stream.ending stream.id).run stream.bytes).mapError .setup

def IncomingChannel.intoAcceptedChannelForConversation (self : IncomingChannel)
    (conversation : Conversation) : AcceptedChannel :=
  let datagramSender :=
    if self.header.channelType = ascii "direct-udp" then
      some (conversation.datagramSenderForChannel self.streamId)
    else none
  self.intoAcceptedChannel conversation.conversationId datagramSender
    conversation.defaultDatagramsQueueSize

/-- Queues a channel for its conversation -/
def IncomingChannelRouter.routeIncomingChannel (self : IncomingChannelRouter)
    (incoming : IncomingChannel) (recv : List UInt8) :
    Except RouteIncomingChannelError QueuedChannel :=
  match self.conversation incoming.header.conversationStreamId with
  | none =>
    .error (.unknownConversation incoming.header.conversationStreamId incoming.streamId)
  | some conversation =>
    .ok {
      controlStreamId := conversation.controlStreamId
      channel := incoming.intoAcceptedChannelForConversation conversation
      recv }

def IncomingChannelRouter.acceptAndRouteChannel (self : IncomingChannelRouter)
    (stream : BiStream) : Except RouteAcceptedChannelError QueuedChannel := do
  let (incoming, recv) ← (acceptBiChannel stream).mapError .accept
  (self.routeIncomingChannel incoming recv).mapError .route

/-- The channels queued before the loop ends, and the error it ends with. -/
def acceptAndRouteChannelsForever (accepted : List (IncomingChannelRouter × BiStream))
    (ending : ConnectionError) : List QueuedChannel × RouteAcceptedChannelError :=
  run (fun item => item.1.acceptAndRouteChannel item.2) (.accept (.connection ending)) accepted

/-- What is queued to one conversation, in order. -/
def queuedTo (v : UInt64) (loop : List QueuedChannel × RouteAcceptedChannelError) :
    List QueuedChannel :=
  loop.1.filter fun queued => queued.controlStreamId = v

/-! ## What a stream asks for -/

/-- The stream starts with a header that names the conversation, and `queued` is the channel it
    describes. -/
def Opens (v : UInt64) (item : IncomingChannelRouter × BiStream) (queued : QueuedChannel) : Prop :=
  ∃ pre header target conversation, item.2.bytes = pre ++ queued.recv ∧
    IsHeader pre header target ∧ header.conversationStreamId = v ∧
    item.1.conversation v = some conversation ∧ queued.controlStreamId = v ∧
    queued.channel =
      (IncomingChannel.mk item.2.id header target).intoAcceptedChannelForConversation conversation

/-- The stream starts with no header, or with one that names no registered conversation. -/
def Bad (item : IncomingChannelRouter × BiStream) : Prop :=
  ∀ pre rest header target, item.2.bytes = pre ++ rest → IsHeader pre header target →
    item.1.conversation header.conversationStreamId = none

section Route

variable {item : IncomingChannelRouter × BiStream}

/-- The errors of header parsing are all one to the loop: there is no header. -/
theorem acceptAndRouteChannel_of_error {err : ChannelSetupError}
    (h : (readIncomingChannel item.2.ending item.2.id).run item.2.bytes = .error err) :
    item.1.acceptAndRouteChannel item.2 = .error (.accept (.setup err)) := by
  rw [IncomingChannelRouter.acceptAndRouteChannel, acceptBiChannel, h]
  rfl

variable {incoming : IncomingChannel} {recv : List UInt8}

theorem acceptAndRouteChannel_of_ok
    (h : (readIncomingChannel item.2.ending item.2.id).run item.2.bytes = .ok (incoming, recv)) :
    item.1.acceptAndRouteChannel item.2 =
      (item.1.routeIncomingChannel incoming recv).mapError .route := by
  rw [IncomingChannelRouter.acceptAndRouteChannel, acceptBiChannel, h]
  rfl

theorem acceptAndRouteChannel_of_unknown
    (h : (readIncomingChannel item.2.ending item.2.id).run item.2.bytes = .ok (incoming, recv))
    (hnone : item.1.conversation incoming.header.conversationStreamId = none) :
    item.1.acceptAndRouteChannel item.2 = .error (.route (.unknownConversation
      incoming.header.conversationStreamId incoming.streamId)) := by
  rw [acceptAndRouteChannel_of_ok h, IncomingChannelRouter.routeIncomingChannel, hnone]
  rfl

theorem acceptAndRouteChannel_of_known {conversation : Conversation}
    (h : (readIncomingChannel item.2.ending item.2.id).run item.2.bytes = .ok (incoming, recv))
    (hsome : item.1.conversation incoming.header.conversationStreamId = some conversation) :
    item.1.acceptAndRouteChannel item.2 = .ok ⟨incoming.header.conversationStreamId,
      incoming.intoAcceptedChannelForConversation conversation, recv⟩ := by
  rw [acceptAndRouteChannel_of_ok h, IncomingChannelRouter.routeIncomingChannel, hsome]
  rw [← IncomingChannelRouter.controlStreamId_of_conversation hsome]
  rfl

theorem acceptAndRouteChannel_eq_ok {queued : QueuedChannel} :
    item.1.acceptAndRouteChannel item.2 = .ok queued ↔
      Opens queued.controlStreamId item queued := by
  constructor
  · intro h
    cases hread : (readIncomingChannel item.2.ending item.2.id).run item.2.bytes with
    | error err => cases (acceptAndRouteChannel_of_error hread).symm.trans h
    | ok result =>
      obtain ⟨incoming, recv⟩ := result
      cases hfind : item.1.conversation incoming.header.conversationStreamId with
      | none => cases (acceptAndRouteChannel_of_unknown hread hfind).symm.trans h
      | some conversation =>
        cases (acceptAndRouteChannel_of_known hread hfind).symm.trans h
        -- what was accepted is a header of the protocol
        obtain ⟨pre, hbytes, hid, hheader⟩ := readIncomingChannel_sound hread
        refine ⟨pre, _, _, conversation, hbytes, hheader, rfl, hfind, rfl, ?_⟩
        rw [← hid]
  · rintro ⟨pre, header, target, conversation, hbytes, hheader, hv, hfind, -, hchannel⟩
    -- a header is accepted whatever follows it on the stream
    have hread : (readIncomingChannel item.2.ending item.2.id).run item.2.bytes =
        .ok (⟨item.2.id, header, target⟩, queued.recv) := by
      rw [hbytes]
      exact reads_readIncomingChannel _ _ hheader _
    rw [← hv] at hfind
    rw [acceptAndRouteChannel_of_known hread hfind, ← hchannel, hv]

theorem fatal_acceptAndRouteChannel_iff :
    Fatal (fun item : IncomingChannelRouter × BiStream => item.1.acceptAndRouteChannel item.2)
      item ↔ Bad item := by
  constructor
  · rintro ⟨err, herr⟩ pre rest header target hbytes hheader
    have hread : (readIncomingChannel item.2.ending item.2.id).run item.2.bytes =
        .ok (⟨item.2.id, header, target⟩, rest) := by
      rw [hbytes]
      exact reads_readIncomingChannel _ _ hheader _
    -- with a header, the only error left is an unknown conversation
    cases hfind : item.1.conversation header.conversationStreamId with
    | none => rfl
    | some conversation => cases (acceptAndRouteChannel_of_known hread hfind).symm.trans herr
  · intro hbad
    cases hread : (readIncomingChannel item.2.ending item.2.id).run item.2.bytes with
    | error err => exact ⟨_, acceptAndRouteChannel_of_error hread⟩
    | ok result =>
      obtain ⟨incoming, recv⟩ := result
      obtain ⟨pre, hbytes, -, hheader⟩ := readIncomingChannel_sound hread
      exact ⟨_, acceptAndRouteChannel_of_unknown hread (hbad _ _ _ _ hbytes hheader)⟩

theorem yield_acceptAndRouteChannel_eq_some {v : UInt64} {queued : QueuedChannel} :
    yield (fun item : IncomingChannelRouter × BiStream => item.1.acceptAndRouteChannel item.2)
        (Option.guard fun queued => queued.controlStreamId = v) item = some queued ↔
      Opens v item queued := by
  unfold yield
  constructor
  · intro h
    cases hroute : item.1.acceptAndRouteChannel item.2 with
    | error err => simp only [hroute, reduceCtorEq] at h
    | ok other =>
      simp only [hroute, Option.guard_eq_some_iff, decide_eq_true_eq] at h
      obtain ⟨rfl, rfl⟩ := h
      exact acceptAndRouteChannel_eq_ok.mp hroute
  · intro hopens
    have hv : queued.controlStreamId = v := by
      obtain ⟨_, _, _, _, _, _, _, _, hv, _⟩ := hopens
      exact hv
    rw [← hv] at hopens
    simp only [acceptAndRouteChannel_eq_ok.mpr hopens, hv, Option.guard_eq_some_iff, decide_true,
      and_self]

end Route

/-! ## Routing in the presence of bad streams -/

/-- No stream that opens a channel of the conversation is accepted after a bad one. -/
def NoneAfterBad (v : UInt64) (accepted : List (IncomingChannelRouter × BiStream)) : Prop :=
  ∀ pre item post, accepted = pre ++ item :: post → Bad item →
    ∀ later ∈ post, ∀ queued, ¬Opens v later queued

/-- **Bad streams.**  The channels queued to a conversation are those its streams open, in
    accept order, exactly if none of these streams is accepted after a bad one. -/
theorem queuedTo_picks_iff (v : UInt64) (ending : ConnectionError)
    (accepted : List (IncomingChannelRouter × BiStream)) :
    Picks (Opens v) accepted (queuedTo v (acceptAndRouteChannelsForever accepted ending)) ↔
      NoneAfterBad v accepted := by
  have hopens : ∀ item queued, _ ↔ Opens v item queued :=
    fun _ _ => yield_acceptAndRouteChannel_eq_some
  unfold queuedTo acceptAndRouteChannelsForever
  -- the conversation is an observer of the loop, and the error rule says what it gets
  rw [← List.filterMap_eq_filter, picks_run_iff hopens]
  unfold Unaffected NoneAfterBad
  simp only [fatal_acceptAndRouteChannel_iff, Option.eq_none_iff_forall_ne_some, ne_eq, hopens]

/-- A stream of the wrong frame type, and a session stream for conversation 0. -/
def sampleStreams : List (IncomingChannelRouter × BiStream) :=
  let router : IncomingChannelRouter := ⟨[⟨0, zeroConversation, 10, []⟩]⟩
  [(router, ⟨4, [0], .unexpectedEof⟩),
   (router, ⟨8, [0xc0, 0, 0, 0, 0xaf, 0x36, 0x27, 0xe6, 0, 7] ++ ascii "session" ++ [60],
     .unexpectedEof⟩)]

/-- After a stream of the wrong frame type no channel is queued any more. -/
theorem session_not_queued_after_bad :
    ¬Picks (Opens 0) sampleStreams
      (queuedTo 0 (acceptAndRouteChannelsForever sampleStreams .timedOut)) := by
  rw [picks_iff_eq_filterMap fun _ _ => yield_acceptAndRouteChannel_eq_some]
  decide +kernel

end Ssh3.Quinn
