/-
  Ssh3.Server.ReadBuffers

  `ssh3-server/src/lib.rs`: the read buffers the server allocates while it serves
  an accepted channel, and how long a peer can make them.

  Every site computes its length from the packet size of a channel.  For the
  output of a process and the two kinds of forwarding that is the channel the
  peer opened, with the size in the peer's header; agent forwarding reads for a
  channel the server opens itself, with the configured size.
-/

import Ssh3.Go.Channel
import Ssh3.Quinn.IncomingChannel

namespace Ssh3.Server

open Proto Ssh3.Core Quinn StreamCodec

/-- The part of `ServerConfig` that the buffers depend on. -/
structure ServerConfig where
  maxPacketSize : UInt64 := 30000
  deriving DecidableEq, Repr

/-- `usize::try_from(value)`, with a `usize` of 64 bits. -/
def usizeTryFrom (value : UInt64) : Option Nat := some value.toNat

/-- `vec![0; usize::try_from(channel.max_packet_size()).unwrap_or(30_000).max(1)]` -/
def readBufferLen (maxPacketSize : UInt64) : Nat :=
  max ((usizeTryFrom maxPacketSize).getD 30000) 1

/-- The tasks that read into a buffer of their own. -/
inductive BufferedReader where
  | pumpProcessOutput
  | udpForwarding
  | tcpForwarding
  | agentForwarding
  deriving DecidableEq, Repr

/-- The readers that `handle_accepted_channel` can start for a channel. -/
def bufferedReaders : AcceptedChannel → List BufferedReader
  | .udpForwarding _ _ => [.udpForwarding]
  | .tcpForwarding _ _ => [.tcpForwarding]
  | .channel channel =>
    if channel.info.channelType = ascii "session" then [.pumpProcessOutput, .agentForwarding]
    else []

/-- The packet size a reader takes its buffer length from. -/
def packetSizeOf (config : ServerConfig) (accepted : AcceptedChannel) : BufferedReader → UInt64
  | .pumpProcessOutput => accepted.inner.info.maxPacketSize
  | .udpForwarding => accepted.inner.info.maxPacketSize
  | .tcpForwarding => accepted.inner.info.maxPacketSize
  | .agentForwarding => config.maxPacketSize

/-- The lengths of the read buffers allocated for an accepted channel. -/
def readBufferLens (config : ServerConfig) (accepted : AcceptedChannel) : List Nat :=
  (bufferedReaders accepted).map fun reader => readBufferLen (packetSizeOf config accepted reader)

/-- The limit both implementations put on a single string, 16 MiB. -/
def maxReadBuffer : Nat := 16 * 1024 * 1024

theorem readBufferLen_le_iff (maxPacketSize : UInt64) :
    readBufferLen maxPacketSize ≤ maxReadBuffer ↔ maxPacketSize.toNat ≤ maxReadBuffer := by
  have hone : 1 ≤ maxReadBuffer := by decide
  show max maxPacketSize.toNat 1 ≤ maxReadBuffer ↔ _
  omega

/-- Agent forwarding is served on session channels only. -/
theorem agentForwarding_mem_iff {incoming : IncomingChannel} {targetBytes : List UInt8}
    (htarget : IsTarget incoming.header.channelType targetBytes incoming.forwardingTarget)
    (conversationId : ConversationId) (datagramSender : Option ConversationDatagramSender)
    (datagramsQueueSize : Nat) :
    BufferedReader.agentForwarding ∈ bufferedReaders
        (incoming.intoAcceptedChannel conversationId datagramSender datagramsQueueSize) ↔
      incoming.header.channelType = ascii "session" := by
  obtain ⟨streamId, header, target⟩ := incoming
  cases target with
  | none =>
    show BufferedReader.agentForwarding ∈
      (if header.channelType = ascii "session" then _ else _) ↔ header.channelType = _
    split_ifs with h
    · simp [h]
    · simp [h]
  | some addr =>
    -- a channel with a target is of one of the forwarding types, so not a session
    have hsession : header.channelType ≠ ascii "session" := by
      rcases htarget.1 with h | h
      · rw [show header.channelType = _ from h]; decide
      · rw [show header.channelType = _ from h]; decide
    refine iff_of_false ?_ hsession
    unfold IncomingChannel.intoAcceptedChannel
    simp only
    split_ifs with hudp htcp
    · simp [bufferedReaders]
    · simp [bufferedReaders]
    · exact absurd htarget.1 (not_or.mpr ⟨hudp, htcp⟩)

/-- The buffers of an incoming channel whose packet size is within the limit. -/
theorem readBufferLens_le_iff {incoming : IncomingChannel} {targetBytes : List UInt8}
    (htarget : IsTarget incoming.header.channelType targetBytes incoming.forwardingTarget)
    (hsize : incoming.header.maxPacketSize.toNat ≤ maxReadBuffer) (config : ServerConfig)
    (conversationId : ConversationId) (datagramSender : Option ConversationDatagramSender)
    (datagramsQueueSize : Nat) :
    (∀ len ∈ readBufferLens config
        (incoming.intoAcceptedChannel conversationId datagramSender datagramsQueueSize),
      len ≤ maxReadBuffer) ↔
    (incoming.header.channelType = ascii "session" →
      config.maxPacketSize.toNat ≤ maxReadBuffer) := by
  have hmem := agentForwarding_mem_iff htarget conversationId datagramSender datagramsQueueSize
  have hinner := incoming.inner_intoAcceptedChannel conversationId datagramSender
    datagramsQueueSize
  constructor
  · intro h hsession
    have hlen := h _ (List.mem_map_of_mem (hmem.mpr hsession))
    exact (readBufferLen_le_iff _).mp hlen
  · intro h len hlen
    obtain ⟨reader, hreader, rfl⟩ := List.mem_map.mp hlen
    rw [readBufferLen_le_iff]
    -- agent forwarding reads for a channel of the server's own size
    cases reader with
    | agentForwarding => exact h (hmem.mp hreader)
    | pumpProcessOutput => rw [packetSizeOf, hinner]; exact hsize
    | udpForwarding => rw [packetSizeOf, hinner]; exact hsize
    | tcpForwarding => rw [packetSizeOf, hinner]; exact hsize

/-! ## What a peer can make the server allocate -/

/-- A packet size in the range the Go implementation accepts in a header. -/
def PacketSizeAllowed (size : UInt64) : Prop := Go.validatePacketSize size = .ok ()

/-- On a stream with these bytes: an accepted header has an allowed packet size, and every
    read buffer allocated for its channel is at most 16 MiB long. -/
def Bounded (config : ServerConfig) (bytes : List UInt8) : Prop :=
  ∀ ending streamId incoming rest, (readIncomingChannel ending streamId).run bytes =
      .ok (incoming, rest) →
    PacketSizeAllowed incoming.header.maxPacketSize ∧
    ∀ conversationId datagramSender datagramsQueueSize, ∀ len ∈ readBufferLens config
        (incoming.intoAcceptedChannel conversationId datagramSender datagramsQueueSize),
      len ≤ maxReadBuffer

/-- **When peer-chosen packet sizes are bounded.**  Exactly if every channel header the
    bytes can start with has its packet size in the range of the Go implementation, and, on
    a session channel, the server's own configured packet size is at most 16 MiB. -/
theorem bounded_iff (config : ServerConfig) (bytes : List UInt8) :
    Bounded config bytes ↔
      ∀ pre rest header target, bytes = pre ++ rest → IsHeader pre header target →
        (64 ≤ header.maxPacketSize.toNat ∧ header.maxPacketSize.toNat ≤ 16 * 1024 * 1024) ∧
        (header.channelType = ascii "session" →
          config.maxPacketSize.toNat ≤ 16 * 1024 * 1024) := by
  constructor
  · rintro hbounded pre rest header target rfl hheader
    have hread := reads_readIncomingChannel .unexpectedEof 0 hheader rest
    obtain ⟨hsize, hlens⟩ := hbounded _ _ _ _ hread
    obtain ⟨_, _, _, _, _, _, htarget⟩ := hheader
    have hrange := Go.validatePacketSize_eq_ok.mp hsize
    -- the buffers do not depend on the conversation, so any one will do
    exact ⟨hrange, (readBufferLens_le_iff htarget hrange.2 config zeroConversation none 0).mp
      (hlens zeroConversation none 0)⟩
  · intro h ending streamId incoming rest hrun
    -- what is accepted starts with a header, and the condition is about that one
    obtain ⟨pre, hbytes, -, hheader⟩ := readIncomingChannel_sound hrun
    obtain ⟨hrange, hconfig⟩ := h pre rest _ _ hbytes hheader
    obtain ⟨_, _, _, _, _, _, htarget⟩ := hheader
    refine ⟨Go.validatePacketSize_eq_ok.mpr hrange, ?_⟩
    intro conversationId datagramSender datagramsQueueSize
    exact (readBufferLens_le_iff htarget hrange.2 config _ _ _).mpr hconfig

/-- A session header that asks for packets of `2 ^ 62 - 1` bytes: it is accepted, and the
    output of the session's process is read into a buffer of that length. -/
theorem not_bounded_of_largest_packetSize :
    ¬Bounded {} ([0xc0, 0x00, 0x00, 0x00, 0xaf, 0x36, 0x27, 0xe6] ++ [0x00] ++
      [0x07, 0x73, 0x65, 0x73, 0x73, 0x69, 0x6f, 0x6e] ++
      [0xff, 0xff, 0xff, 0xff, 0xff, 0xff, 0xff, 0xff]) := by
  intro h
  have hrun := h .unexpectedEof 0 ⟨0, ⟨0, ascii "session", MAX_VARINT⟩, none⟩ [] rfl
  exact absurd (Go.validatePacketSize_eq_ok.mp hrun.1).2 (by decide)

/-- The Go counterpart: a header it accepts has an allowed packet size. -/
theorem goHeader_packetSizeAllowed {ending : Go.GoError} {input rest : List UInt8}
    {conversationId size : UInt64} {channelType : List UInt8}
    (h : Fallible.call (Go.parseHeader ending) input =
      .ok (.ok (conversationId, channelType, size), rest)) : PacketSizeAllowed size := by
  obtain ⟨id, r₁, -, h⟩ := Fallible.call_bind_eq_ok.mp h
  obtain ⟨channelType', r₂, -, h⟩ := Fallible.call_bind_eq_ok.mp h
  obtain ⟨size', r₃, -, h⟩ := Fallible.call_bind_eq_ok.mp h
  cases hvalid : Go.validatePacketSize size' with
  | error err => rw [hvalid] at h; cases h
  | ok u =>
    rw [hvalid] at h
    cases h
    exact hvalid

end Ssh3.Server
