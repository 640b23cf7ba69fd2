/-
  Ssh3.Quinn.Negotiation

  The two ends of a channel: the opener, whose header carries its packet size,
  and the acceptor, which creates its channel from that header and answers with
  a confirmation that carries its own.

  `ssh3-core/src/channel.rs` and `conversation.rs`, with the header reader of
  `ssh3-quinn`.  Between the two ends there is one reliable stream of bytes in
  each direction; `arrive` says how much of it has come in.  A call on a stream
  that has nothing more to read yet is one that returns the stream's ending, and
  is made again later.
-/

import Ssh3.Core.EndpointSpec
import Ssh3.Core.PacketLimit
import Ssh3.Lib.Transition
import Ssh3.Quinn.IncomingChannel

namespace Ssh3.Quinn.Negotiation

open Proto Ssh3.Core Fallible StreamCodec VarInt Transition

/-- The two ends of a channel -/
inductive Party where
  | opener
  | acceptor
  deriving DecidableEq, Repr

/-- What the acceptor's side is set up with. -/
structure Acceptor where
  conversationId : ConversationId
  streamId : UInt64
  datagramSender : Option ConversationDatagramSender
  datagramsQueueSize : Nat
  /-- The conversation's own packet size, which its confirmations carry -/
  maxPacketSize : UInt64
  ending : IoError
  outcomes : List WriteOutcome
  deriving DecidableEq, Repr

/-- Both ends, and what they have sent -/
structure State where
  opener : Endpoint
  /-- The acceptor's end, once it has read the header -/
  acceptor : Option Endpoint
  /-- How many bytes of the other end have come in, on each side -/
  arrivedAtOpener : Nat
  arrivedAtAcceptor : Nat
  /-- The data messages each end has started to send -/
  openerData : List Message
  acceptorData : List Message
  deriving DecidableEq, Repr

def init (opener : Endpoint) : State where
  opener := opener
  acceptor := none
  arrivedAtOpener := 0
  arrivedAtAcceptor := 0
  openerData := []
  acceptorData := []

def State.endpoint (s : State) : Party → Option Endpoint
  | .opener => some s.opener
  | .acceptor => s.acceptor

def State.setEndpoint (s : State) (endpoint : Endpoint) : Party → State
  | .opener => { s with opener := endpoint }
  | .acceptor => { s with acceptor := some endpoint }

def State.logData (s : State) (messages : List Message) : Party → State
  | .opener => { s with openerData := s.openerData ++ messages }
  | .acceptor => { s with acceptorData := s.acceptorData ++ messages }

/-- What an end does -/
inductive Action where
  | writeData (party : Party) (dataBuf : List UInt8) (dataType : SshDataType)
  | sendRequest (party : Party) (request : ChannelRequestMessage)
  | sendDatagram (party : Party) (datagram : List UInt8)
  | waitForConfirmation (party : Party)
  | nextMessage (party : Party)
  /-- `read_incoming_channel`, when the first `n` bytes of the stream have come in -/
  | accept (n : Nat)
  /-- The `confirm_channel` of `confirm_and_register_channel` -/
  | confirm
  /-- Up to `n` more bytes come in. -/
  | arrive (party : Party) (n : Nat)
  deriving DecidableEq, Repr

/-- A call by one of the two ends, with whatever result; a panic ends the run. -/
def State.perform {α : Type} (s : State) (party : Party) (method : ChannelM α) : Option State :=
  match s.endpoint party with
  | none => none
  | some before =>
    match call method before with
    | .ok (_, after) => some (s.setEndpoint after party)
    | .error _ => none

/-- The messages of a `write_data` call of which at least the write has been tried. -/
def startedMessages (before after : Endpoint) (dataBuf : List UInt8) (dataType : SshDataType) :
    List Message :=
  match writeDataMessages before.channel.info.maxPacketSize dataBuf dataType with
  | .ok (.ok messages) => messages.take
      (after.writes.length - before.writes.length - before.channel.header.toList.length)
  | _ => []

def State.performWriteData (s : State) (party : Party) (dataBuf : List UInt8)
    (dataType : SshDataType) : Option State :=
  match s.endpoint party with
  | none => none
  | some before =>
    match call (writeData dataBuf dataType) before with
    | .ok (_, after) =>
      some ((s.setEndpoint after party).logData (startedMessages before after dataBuf dataType)
        party)
    | .error _ => none

/-- The channel the acceptor creates for a header. -/
def Acceptor.endpoint (self : Acceptor) (incoming : IncomingChannel) (rest : List UInt8) :
    Endpoint where
  channel := (incoming.intoAcceptedChannel self.conversationId self.datagramSender
    self.datagramsQueueSize).inner
  incoming := rest
  ending := self.ending
  writes := []
  outcomes := self.outcomes
  datagrams := []

/-- One end does something, or the acceptor reads the header. -/
def step (acceptor : Acceptor) (s : State) : Action → Option State
  | .writeData party dataBuf dataType => s.performWriteData party dataBuf dataType
  | .sendRequest party request => s.perform party (sendRequest request)
  | .sendDatagram party datagram => s.perform party (sendDatagram datagram)
  | .waitForConfirmation party => s.perform party waitForConfirmation
  | .nextMessage party => s.perform party nextMessage
  | .accept n =>
    match s.acceptor with
    | some _ => none
    | none =>
      match (readIncomingChannel acceptor.ending acceptor.streamId).run (s.opener.bytes.take n) with
      | .ok (incoming, rest) => some { s with
          acceptor := some (acceptor.endpoint incoming rest)
          arrivedAtAcceptor := min n s.opener.bytes.length }
      | .error _ => none
  | .confirm => s.perform .acceptor (confirmChannel acceptor.maxPacketSize)
  | .arrive .opener n =>
    match s.acceptor with
    | none => none
    | some other => some { s with
        opener := { s.opener with
          incoming := s.opener.incoming ++ (other.bytes.drop s.arrivedAtOpener).take n }
        arrivedAtOpener := min (s.arrivedAtOpener + n) other.bytes.length }
  | .arrive .acceptor n =>
    match s.acceptor with
    | none => none
    | some endpoint => some { s with
        acceptor := some { endpoint with
          incoming := endpoint.incoming ++ (s.opener.bytes.drop s.arrivedAtAcceptor).take n }
        arrivedAtAcceptor := min (s.arrivedAtAcceptor + n) s.opener.bytes.length }

/-! ## The acceptor's packet size is the opener's -/

/-- Whatever part of the opener's stream the acceptor has read a header from, it is the header
    the opener encoded. -/
theorem header_eq_of_prefix {sent header : ChannelHeader} {target : Option SocketAddr}
    {pre rest more : List UInt8} (hsent : sent.Encodable)
    (hlength : sent.channelType.length < 2 ^ 64) (hheader : IsHeader pre header target)
    (hbytes : pre ++ rest = varIntBytes SSH_FRAME_TYPE ++ (sent.payload ++ more)) :
    header = sent := by
  obtain ⟨frameBytes, payload, targetBytes, rfl, hframe, hpayload, -⟩ := hheader
  rw [List.append_assoc, List.append_assoc] at hbytes
  -- the frame type first, then the fields behind it
  obtain ⟨-, -, hrest⟩ := Reads.unique (reads_readVarIntFrom () (fun _ => ()) hframe)
    (reads_readVarIntFrom () (fun _ => ()) (isVarInt_varIntBytes (by decide))) hbytes
  exact ChannelHeader.eq_of_isPayload hsent hlength hpayload hrest

theorem accept_limit {sent : ChannelHeader} {limit : UInt64} {more : List UInt8}
    {opener : Endpoint} {acceptor : Acceptor} {incoming : IncomingChannel} {rest : List UInt8}
    {n : Nat} (hsent : sent.Encodable) (hlength : sent.channelType.length < 2 ^ 64)
    (hopened : Opened limit (varIntBytes SSH_FRAME_TYPE ++ (sent.payload ++ more)) opener)
    (hread : (readIncomingChannel acceptor.ending acceptor.streamId).run (opener.bytes.take n) =
      .ok (incoming, rest)) : incoming.header = sent := by
  obtain ⟨pre, htake, -, hheader⟩ := readIncomingChannel_sound hread
  obtain ⟨tail, hprefix⟩ := hopened.bytes_prefix
  -- what has come in is a beginning of what the opener has written or will write
  obtain ⟨missing, hmissing⟩ := (List.take_prefix n opener.bytes).trans hprefix
  rw [htake, List.append_assoc, List.append_assoc, List.append_assoc] at hmissing
  exact header_eq_of_prefix hsent hlength hheader hmissing

/-! ## What a message carries -/

theorem length_le_of_writeDataMessages {maxPacketSize : UInt64} {dataBuf : List UInt8}
    {dataType : SshDataType} {messages : List Message}
    (h : writeDataMessages maxPacketSize dataBuf dataType = .ok (.ok messages))
    {message : DataOrExtendedDataMessage} (hmem : .data message ∈ messages) :
    message.data.length ≤ maxPacketSize.toNat := by
  obtain ⟨messageOverhead, hoverhead, hbody⟩ := bind_eq_ok.mp h
  -- an empty message is not empty on the wire, so there is room for the one-byte minimum
  have hpos : 0 < messageOverhead := by
    obtain ⟨k, prefixLen, hprefix, hsum⟩ := encodedLen_eq_ok hoverhead
    cases hprefix
    rw [hsum]
    exact Nat.succ_pos _
  by_cases hsmall : maxPacketSize.toNat < messageOverhead
  · rw [if_pos hsmall] at hbody
    cases hbody
  · rw [if_neg hsmall] at hbody
    cases hbody
    obtain ⟨chunk, hchunk, heq⟩ := List.mem_map.mp hmem
    cases heq
    -- the payload of a chunk is what the overhead leaves, and at least a byte
    have hlen := Chunks.length_le_of_mem_chunks
      (Nat.lt_of_lt_of_le Nat.zero_lt_one (Nat.le_max_right _ 1)) hchunk
    show chunk.length ≤ maxPacketSize.toNat
    omega

theorem length_le_of_started {before after : Endpoint} {dataBuf : List UInt8}
    {dataType : SshDataType} {message : DataOrExtendedDataMessage}
    (hmem : .data message ∈ startedMessages before after dataBuf dataType) :
    message.data.length ≤ before.channel.info.maxPacketSize.toNat := by
  unfold startedMessages at hmem
  split at hmem
  · rename_i messages heq
    exact length_le_of_writeDataMessages heq (List.mem_of_mem_take hmem)
  · cases hmem

/-! ## Whole runs -/

def WithinLimit (limit : UInt64) (messages : List Message) : Prop :=
  ∀ message, .data message ∈ messages → message.data.length ≤ limit.toNat

theorem WithinLimit.append {limit : UInt64} {messages more : List Message}
    (h : WithinLimit limit messages) (hmore : WithinLimit limit more) :
    WithinLimit limit (messages ++ more) := by
  intro message hmem
  rcases List.mem_append.mp hmem with hold | hnew
  · exact h message hold
  · exact hmore message hnew

/-- Both ends keep to the opener's packet size. -/
structure Inv (limit : UInt64) (header : List UInt8) (s : State) : Prop where
  opener : Opened limit header s.opener
  acceptor : ∀ endpoint, s.acceptor = some endpoint → Opened limit [] endpoint
  openerData : WithinLimit limit s.openerData
  acceptorData : WithinLimit limit s.acceptorData

section Runs

variable {limit : UInt64} {header : List UInt8} {s t : State}

/-- The header that is on an end's own stream. -/
def ownHeader (header : List UInt8) : Party → List UInt8
  | .opener => header
  | .acceptor => []

theorem Inv.endpoint (h : Inv limit header s) {party : Party} {endpoint : Endpoint}
    (hget : s.endpoint party = some endpoint) :
    Opened limit (ownHeader header party) endpoint := by
  cases party with
  | opener =>
    cases hget
    exact h.opener
  | acceptor => exact h.acceptor endpoint hget

theorem Inv.setEndpoint (h : Inv limit header s) {party : Party} {endpoint : Endpoint}
    (hopened : Opened limit (ownHeader header party) endpoint) :
    Inv limit header (s.setEndpoint endpoint party) := by
  cases party with
  | opener => exact ⟨hopened, h.acceptor, h.openerData, h.acceptorData⟩
  | acceptor =>
    refine ⟨h.opener, ?_, h.openerData, h.acceptorData⟩
    intro other hother
    cases hother
    exact hopened

theorem Inv.logData (h : Inv limit header s) (party : Party) {messages : List Message}
    (hmessages : WithinLimit limit messages) : Inv limit header (s.logData messages party) := by
  cases party with
  | opener => exact ⟨h.opener, h.acceptor, h.openerData.append hmessages, h.acceptorData⟩
  | acceptor => exact ⟨h.opener, h.acceptor, h.openerData, h.acceptorData.append hmessages⟩

theorem Inv.perform {α : Type} {party : Party} {method : ChannelM α} (h : Inv limit header s)
    (hmethod : ∀ own, Leads (Opened limit own) method (Opened limit own))
    (hstep : s.perform party method = some t) : Inv limit header t := by
  unfold State.perform at hstep
  cases hget : s.endpoint party with
  | none =>
    rw [hget] at hstep
    cases hstep
  | some before =>
    rw [hget] at hstep
    rcases hcall : call method before with panic | ⟨result, after⟩
    · simp only [hcall] at hstep
      cases hstep
    · simp only [hcall] at hstep
      cases hstep
      exact h.setEndpoint (hmethod _ before result after (h.endpoint hget) hcall)

theorem Inv.performWriteData {party : Party} {dataBuf : List UInt8} {dataType : SshDataType}
    (h : Inv limit header s) (hstep : s.performWriteData party dataBuf dataType = some t) :
    Inv limit header t := by
  unfold State.performWriteData at hstep
  cases hget : s.endpoint party with
  | none =>
    rw [hget] at hstep
    cases hstep
  | some before =>
    rw [hget] at hstep
    rcases hcall : call (writeData dataBuf dataType) before with panic | ⟨result, after⟩
    · simp only [hcall] at hstep
      cases hstep
    · simp only [hcall] at hstep
      cases hstep
      have hopened := h.endpoint hget
      have hafter := leads_writeData dataBuf dataType before result after hopened hcall
      -- the packet size a call uses is the one the channel was created with
      refine (h.setEndpoint (.inr hafter)).logData party ?_
      intro message hmem
      rw [← hopened.limit]
      exact length_le_of_started hmem

/-- A method that leaves the header sent leaves the channel open. -/
theorem leads_opened {α : Type} {own : List UInt8} {method : ChannelM α}
    (h : Leads (Opened limit own) method (Ready limit own)) :
    Leads (Opened limit own) method (Opened limit own) :=
  fun before result after hbefore hcall => .inr (h before result after hbefore hcall)

/-- **Step lemma.**  Both ends keep to the opener's packet size. -/
theorem Inv.step {acceptor : Acceptor} {sent : ChannelHeader} {more : List UInt8} {a : Action}
    (hsent : sent.Encodable) (hlength : sent.channelType.length < 2 ^ 64)
    (hlimit : sent.maxPacketSize = limit)
    (hheader : header = varIntBytes SSH_FRAME_TYPE ++ (sent.payload ++ more))
    (h : Inv limit header s) (hstep : Negotiation.step acceptor s a = some t) :
    Inv limit header t := by
  cases a with
  | writeData party dataBuf dataType => exact h.performWriteData hstep
  | sendRequest party request =>
    exact h.perform (fun own => leads_opened (leads_sendMessage _)) hstep
  | sendDatagram party datagram =>
    exact h.perform (fun own => leads_opened (leads_sendDatagram datagram)) hstep
  | waitForConfirmation party => exact h.perform (fun own => leads_waitForConfirmation) hstep
  | nextMessage party => exact h.perform (fun own => leads_nextMessage) hstep
  | confirm => exact h.perform (fun own => leads_opened (leads_confirmChannel _)) hstep
  | accept n =>
    unfold Negotiation.step at hstep
    cases hnone : s.acceptor with
    | some _ =>
      simp only [hnone] at hstep
      cases hstep
    | none =>
      rcases hread : (readIncomingChannel acceptor.ending acceptor.streamId).run
          (s.opener.bytes.take n) with err | ⟨incoming, rest⟩
      · simp only [hnone, hread] at hstep
        cases hstep
      · simp only [hnone, hread] at hstep
        cases hstep
        refine ⟨h.opener, ?_, h.openerData, h.acceptorData⟩
        intro endpoint heq
        cases heq
        -- the acceptor takes its packet size from the header it has read
        have hopened := h.opener
        rw [hheader] at hopened
        have hincoming := accept_limit hsent hlength hopened hread
        refine .inr ⟨?_, ?_, .inl List.nil_prefix⟩
        · rw [Acceptor.endpoint, incoming.inner_intoAcceptedChannel, ← hlimit, ← hincoming]
          rfl
        · rw [Acceptor.endpoint, incoming.inner_intoAcceptedChannel]
          rfl
  | arrive party n =>
    cases hnone : s.acceptor with
    | none =>
      cases party <;> simp [Negotiation.step, hnone] at hstep
    | some endpoint =>
      cases party with
      | opener =>
        -- bytes that come in change no packet size
        simp only [Negotiation.step, hnone] at hstep
        cases hstep
        refine ⟨h.opener.withIncoming _, ?_, h.openerData, h.acceptorData⟩
        intro other hother
        exact h.acceptor other (hnone.trans hother)
      | acceptor =>
        simp only [Negotiation.step, hnone] at hstep
        cases hstep
        refine ⟨h.opener, ?_, h.openerData, h.acceptorData⟩
        intro other hother
        cases hother
        exact (h.acceptor endpoint hnone).withIncoming _

/-- **The opener's packet size binds both ends.**  A channel is opened with the packet size
    `maxPacketSize` of the opener.  In every run, and whatever packet size the acceptor's
    confirmation carries, the data messages of both ends carry at most `maxPacketSize` bytes. -/
theorem data_withinLimit_of_opener {conversationStreamId : UInt64}
    {conversationId : ConversationId} {channelId : UInt64} {channelType : List UInt8}
    {maxPacketSize : UInt64} {datagramSender : Option ConversationDatagramSender}
    {datagramsQueueSize : Nat} {additionalHeaderBytes : Option (List UInt8)}
    {opener : Endpoint} {acceptor : Acceptor} {as : List Action}
    (hnew : Channel.new conversationStreamId conversationId channelId channelType maxPacketSize
      datagramSender true true false datagramsQueueSize additionalHeaderBytes =
      .ok opener.channel)
    (hlength : channelType.length < 2 ^ 64)
    (hwrites : opener.writes = [])
    (hrun : Run (Negotiation.step acceptor) anyStep (init opener) as s) :
    WithinLimit maxPacketSize s.openerData ∧ WithinLimit maxPacketSize s.acceptorData := by
  obtain ⟨header, hencode, hheader, hlimit⟩ := Channel.new_sendHeader hnew
  obtain ⟨hvalid, hbytes⟩ := ChannelHeader.encode_eq_ok.mp hencode
  have hinit : Inv maxPacketSize header (init opener) := by
    refine ⟨.inl ⟨hlimit, hheader, ?_⟩, ?_, ?_, ?_⟩
    · show opener.writes.flatten = []
      rw [hwrites, List.flatten_nil]
    · intro endpoint hnone
      cases hnone
    · intro message hmem
      cases hmem
    · intro message hmem
      cases hmem
  -- the confirmation is a message like any other to the invariant
  have hinv := hrun.invariant (P := Inv maxPacketSize header)
    (fun _ _ _ h _ hstep => h.step hvalid hlength rfl hbytes hstep) hinit
  exact ⟨hinv.openerData, hinv.acceptorData⟩

end Runs

/-! ## A confirmation with a smaller packet size -/

/-- A session channel with a packet size of 200, and the acceptor's 64. -/
def sessionOpener : Endpoint where
  channel := {
    info := {
      maxPacketSize := 200
      conversationStreamId := 0
      conversationId := zeroConversation
      channelId := 4
      channelType := ascii "session" }
    confirmSent := true
    confirmReceived := false
    header := some [0xc0, 0, 0, 0, 0xaf, 0x36, 0x27, 0xe6, 0,
      7, 0x73, 0x65, 0x73, 0x73, 0x69, 0x6f, 0x6e, 0x40, 0xc8]
    datagramSender := none
    datagramsQueueSize := 8 }
  incoming := []
  ending := .unexpectedEof
  writes := []
  outcomes := []
  datagrams := []

def smallAcceptor : Acceptor where
  conversationId := zeroConversation
  streamId := 4
  datagramSender := none
  datagramsQueueSize := 8
  maxPacketSize := 64
  ending := .unexpectedEof
  outcomes := []

/-- Header, confirmation, and a data message of the opener once it has the confirmation. -/
def confirmedRun : List Action :=
  [.sendRequest .opener { wantReply := true, request := .shell }, .accept 99, .confirm,
    .arrive .opener 99, .waitForConfirmation .opener]

theorem data_withinLimit_of_opener_session :
    ∃ s, Run (step smallAcceptor) anyStep (init sessionOpener)
        (confirmedRun ++ [.writeData .opener (List.replicate 100 0) SSH_EXTENDED_DATA_NONE]) s ∧
      WithinLimit 200 s.openerData ∧ WithinLimit 200 s.acceptorData := by
  have hnew : Channel.new 0 zeroConversation 4 (ascii "session") 200 none true true false 8 none =
      .ok sessionOpener.channel := by decide +kernel
  have hsome : (exec (step smallAcceptor) anyStep (init sessionOpener) (confirmedRun ++
      [.writeData .opener (List.replicate 100 0) SSH_EXTENDED_DATA_NONE])).isSome = true := by
    decide +kernel
  obtain ⟨s, hexec⟩ := Option.isSome_iff_exists.mp hsome
  exact ⟨s, run_of_exec hexec,
    data_withinLimit_of_opener hnew (by decide) rfl (run_of_exec hexec)⟩

/-- The opener has processed a confirmation that carries 64 and sends 100 bytes at once. -/
theorem confirmed_size_ignored :
    ∃ s t message, Run (step smallAcceptor) anyStep (init sessionOpener) confirmedRun s ∧
      s.opener.channel.confirmReceived = true ∧
      step smallAcceptor s (.writeData .opener (List.replicate 100 0) SSH_EXTENDED_DATA_NONE) =
        some t ∧
      t.openerData = s.openerData ++ [.data message] ∧
      smallAcceptor.maxPacketSize.toNat < message.data.length := by
  have hconfirmed : (exec (step smallAcceptor) anyStep (init sessionOpener) confirmedRun).map
      (fun s => (s.opener.channel.confirmReceived, s.openerData,
        (step smallAcceptor s (.writeData .opener (List.replicate 100 0)
          SSH_EXTENDED_DATA_NONE)).map State.openerData)) =
      some (true, [], some [.data { dataType := SSH_EXTENDED_DATA_NONE
                                    data := List.replicate 100 0 }]) := by
    decide +kernel
  obtain ⟨s, hexec, hs⟩ := Option.map_eq_some_iff.mp hconfirmed
  obtain ⟨hreceived, hdata, hnext⟩ : _ ∧ _ ∧ _ := by
    simpa only [Prod.mk.injEq] using hs
  obtain ⟨t, hstep, ht⟩ := Option.map_eq_some_iff.mp hnext
  refine ⟨s, t, { dataType := SSH_EXTENDED_DATA_NONE, data := List.replicate 100 0 },
    run_of_exec hexec, hreceived, hstep, ?_, ?_⟩
  · rw [ht, hdata]
    rfl
  · rw [List.length_replicate]
    decide

end Ssh3.Quinn.Negotiation
