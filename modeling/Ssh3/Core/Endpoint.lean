/-
  Ssh3.Core.Endpoint

  `ssh3-core/src/channel.rs`: what a channel's methods do when one task calls
  them, with the errors and panics they end with.

  The send stream is the list of the writes it has taken.  A `write_all` that
  fails may have taken some of its bytes, and a stream that has failed goes on
  failing; `outcomes` says how many of the coming writes succeed before that.
-/

import Ssh3.Core.MessageReader
import Ssh3.Lib.Chunks
import Ssh3.Lib.Fallible

namespace Ssh3.Core

open Proto Fallible Chunks

/-- One `write_all`: `none` if the stream takes the buffer, otherwise the number of bytes it
    takes before the error. -/
abbrev WriteOutcome := Option (Nat × IoError)

/-- A channel together with its streams. -/
structure Endpoint where
  channel : Channel
  /-- What `recv` has still to read, and the error that follows -/
  incoming : List UInt8
  ending : IoError
  /-- What `send` has taken, write by write -/
  writes : List (List UInt8)
  outcomes : List WriteOutcome
  /-- What has been handed to the connection's datagram sender -/
  datagrams : List (List UInt8)
  deriving DecidableEq, Repr

/-- A method of a channel -/
abbrev ChannelM (α : Type) := Comp Endpoint ChannelError Panic α

/-! ## The methods -/

/-- `send.write_all(&buf)` -/
def writeAll (buf : List UInt8) : ChannelM Unit := do
  let s ← get
  match s.outcomes with
  | [] => set { s with writes := s.writes ++ [buf] }
  | none :: outcomes => set { s with writes := s.writes ++ [buf], outcomes }
  -- the failure is permanent: from now on nothing is taken
  | some (taken, err) :: outcomes =>
    set { s with
      writes := s.writes ++ [buf.take taken], outcomes := some (0, err) :: outcomes }
    throw (.io err)

/-- The header is gone once it is taken, whatever becomes of the write. -/
def maybeSendHeader : ChannelM Unit := do
  let s ← get
  match s.channel.header with
  | none => return ()
  | some header =>
    set { s with channel := { s.channel with header := none } }
    writeAll header

/-- The messages `write_data` cuts its buffer into. -/
def writeDataMessages (maxPacketSize : UInt64) (dataBuf : List UInt8) (dataType : SshDataType) :
    Except Panic (Except ChannelError (List Message)) := do
  let empty : DataOrExtendedDataMessage := { dataType, data := [] }
  -- the length prefix of the empty message has one byte
  let overhead ← empty.encodedLen
  if maxPacketSize.toNat < overhead then
    return .error (.maxPacketSizeTooSmall maxPacketSize overhead)
  else
    let maxPayload := maxPacketSize.toNat - overhead
    return .ok ((chunks (max maxPayload 1) dataBuf).map fun chunk =>
      .data { dataType, data := chunk })

/-- The loop of `write_data`, with the count it returns. -/
def writeMessages : List Message → Nat → ChannelM Nat
  | [], written => return written
  | message :: messages, written => do
    let encoded ← orPanic message.toVec
    writeAll encoded
    writeMessages messages (written + encoded.length)

/-- Writes a buffer as data messages within the packet size -/
def writeData (dataBuf : List UInt8) (dataType : SshDataType) : ChannelM Nat := do
  maybeSendHeader
  let messages ← orPanic
    (writeDataMessages (← get).channel.info.maxPacketSize dataBuf dataType)
  match messages with
  | .error err => throw err
  | .ok messages => writeMessages messages 0

/-- Writes a message, behind the header -/
def sendMessage (message : Message) : ChannelM Unit := do
  maybeSendHeader
  let encoded ← orPanic message.toVec
  writeAll encoded

def sendRequest (request : ChannelRequestMessage) : ChannelM Unit :=
  sendMessage (.channelRequest request)

/-- Sends the confirmation, once -/
def confirmChannel (maxPacketSize : UInt64) : ChannelM Unit := do
  sendMessage (.channelOpenConfirmation { maxPacketSize })
  modify fun s => { s with channel := { s.channel with confirmSent := true } }

/-- `ConversationDatagramSender::send`: the bytes handed to the connection. -/
def ConversationDatagramSender.frame (self : ConversationDatagramSender)
    (datagram : List UInt8) : Except Panic (List UInt8) := do
  let buf ← appendVarInt [] self.controlStreamId
  let buf ← appendVarInt buf self.channelId
  return buf ++ datagram

def sendDatagram (datagram : List UInt8) : ChannelM Unit := do
  maybeSendHeader
  let s ← get
  match s.channel.datagramSender with
  | none => throw (.datagramSenderMissing s.channel.info.channelId)
  | some sender =>
    let buf ← orPanic (sender.frame datagram)
    set { s with datagrams := s.datagrams ++ [buf] }

/-- `parse_message(recv.as_mut())`.  A stream that has ended stays at its end; what the parse of
    a malformed message has consumed is not tracked, and nothing is read after it. -/
def recvMessage : ChannelM Message := do
  let s ← get
  match (parseMessage (channelSource s.ending)).run s.incoming with
  | .ok (message, rest) =>
    set { s with incoming := rest }
    return message
  | .error (.io err) => throw (.io err)
  | .error err =>
    set { s with incoming := [] }
    throw err

def noteConfirmation : ChannelM Unit :=
  modify fun s => { s with channel := { s.channel with confirmReceived := true } }

/-- Reads up to the confirmation of the peer -/
def waitForConfirmation : ChannelM Unit := do
  if (← get).channel.confirmReceived then
    return ()
  else
    match ← recvMessage with
    | .channelOpenConfirmation _ => noteConfirmation
    | .channelOpenFailure message =>
      throw (.openFailure message.reasonCode message.errorMessageUtf8)
    | other => throw (.nonConfirmed other)

/-- At most `n` passes of the loop of `next_message`. -/
def nextMessageWithin : Nat → ChannelM Message
  | 0 => do throw (.io (← get).ending)
  | n + 1 => do
    match ← recvMessage with
    | .channelOpenConfirmation _ => do
      noteConfirmation
      nextMessageWithin n
    | .channelOpenFailure message =>
      throw (.openFailure message.reasonCode message.errorMessageUtf8)
    | other =>
      if (← get).channel.confirmSent then
        return other
      else
        throw (.nonConfirmed other)

/-- Every pass reads at least a byte, so the bound is never reached. -/
def nextMessage : ChannelM Message := do
  nextMessageWithin ((← get).incoming.length + 1)

/-! ## What a successful call has done -/

/-- The encodings of a list of messages, one by one. -/
abbrev Encodings (messages : List Message) (frames : List (List UInt8)) : Prop :=
  List.Forall₂ (fun message frame => message.toVec = .ok frame) messages frames

section Successful

variable {s t : Endpoint}

theorem writeAll_eq_ok {buf : List UInt8} (h : call (writeAll buf) s = .ok (.ok (), t)) :
    ∃ outcomes, t = { s with writes := s.writes ++ [buf], outcomes } := by
  unfold writeAll at h
  rw [call_bind_of_ok (call_get s)] at h
  cases houtcomes : s.outcomes with
  | nil =>
    rw [houtcomes] at h
    cases h
    exact ⟨[], rfl⟩
  | cons outcome outcomes =>
    rw [houtcomes] at h
    cases outcome with
    | none =>
      cases h
      exact ⟨outcomes, rfl⟩
    | some failure => cases h

theorem writeAll_complete (h : s.outcomes = []) (buf : List UInt8) :
    call (writeAll buf) s = .ok (.ok (), { s with writes := s.writes ++ [buf] }) := by
  unfold writeAll
  rw [call_bind_of_ok (call_get s), h]
  rfl

theorem maybeSendHeader_eq_ok (h : call maybeSendHeader s = .ok (.ok (), t)) :
    ∃ outcomes, t = { s with
      channel := { s.channel with header := none }
      writes := s.writes ++ s.channel.header.toList
      outcomes } := by
  unfold maybeSendHeader at h
  rw [call_bind_of_ok (call_get s)] at h
  cases hheader : s.channel.header with
  | none =>
    rw [hheader] at h
    cases h
    refine ⟨s.outcomes, ?_⟩
    rw [Option.toList_none, List.append_nil, ← hheader]
  | some header =>
    rw [hheader] at h
    exact writeAll_eq_ok (s := { s with channel := { s.channel with header := none } }) h

variable {messages : List Message}

theorem writeMessages_eq_ok {written n : Nat}
    (h : call (writeMessages messages written) s = .ok (.ok n, t)) :
    ∃ frames outcomes, Encodings messages frames ∧
      t = { s with writes := s.writes ++ frames, outcomes } ∧
      n = written + frames.flatten.length := by
  -- one write per message
  induction messages generalizing s written with
  | nil =>
    cases h
    refine ⟨[], t.outcomes, .nil, ?_, rfl⟩
    rw [List.append_nil]
  | cons message messages ih =>
    rw [writeMessages] at h
    obtain ⟨encoded, hencoded, h⟩ := call_orPanic_bind_eq_ok h
    obtain ⟨⟨⟩, mid, hwrite, hrest⟩ := call_bind_eq_ok.mp h
    obtain ⟨taken, rfl⟩ := writeAll_eq_ok hwrite
    obtain ⟨frames, outcomes, hframes, rfl, rfl⟩ := ih hrest
    refine ⟨encoded :: frames, outcomes, .cons hencoded hframes, ?_, ?_⟩
    · simp only [List.append_assoc, List.singleton_append]
    · rw [List.flatten_cons, List.length_append]
      omega

theorem writeMessages_complete {frames : List (List UInt8)}
    (hframes : Encodings messages frames) (h : s.outcomes = []) (written : Nat) :
    call (writeMessages messages written) s =
      .ok (.ok (written + frames.flatten.length), { s with writes := s.writes ++ frames }) := by
  induction hframes generalizing s written with
  | nil =>
    rw [List.append_nil]
    rfl
  | @cons message frame messages frames hframe _ ih =>
    rw [writeMessages, hframe, call_bind_of_ok (call_orPanic_ok _ _),
      call_bind_of_ok (writeAll_complete h frame),
      ih (s := { s with writes := s.writes ++ [frame] }) h]
    simp only [List.flatten_cons, List.length_append, Nat.add_assoc, List.append_assoc,
      List.singleton_append]

/-- On a stream that takes every write, only a panic can keep the loop from its end. -/
theorem writeMessages_returns {written : Nat}
    {result : Except ChannelError Nat} (houtcomes : s.outcomes = [])
    (h : call (writeMessages messages written) s = .ok (result, t)) : ∃ n, result = .ok n := by
  induction messages generalizing s written with
  | nil =>
    cases h
    exact ⟨written, rfl⟩
  | cons message messages ih =>
    rw [writeMessages] at h
    obtain ⟨encoded, -, h⟩ := call_orPanic_bind_eq_ok h
    rw [call_bind_of_ok (writeAll_complete houtcomes encoded)] at h
    exact ih (s := { s with writes := s.writes ++ [encoded] }) houtcomes h

theorem writeData_eq_ok {dataBuf : List UInt8} {dataType : SshDataType} {n : Nat}
    (h : call (writeData dataBuf dataType) s = .ok (.ok n, t)) :
    ∃ messages frames outcomes,
      writeDataMessages s.channel.info.maxPacketSize dataBuf dataType = .ok (.ok messages) ∧
      Encodings messages frames ∧ n = frames.flatten.length ∧
      t = { s with
        channel := { s.channel with header := none }
        writes := s.writes ++ s.channel.header.toList ++ frames
        outcomes } := by
  rw [writeData] at h
  obtain ⟨⟨⟩, mid, hheader, hbody⟩ := call_bind_eq_ok.mp h
  -- the header first, if there still is one
  obtain ⟨taken, rfl⟩ := maybeSendHeader_eq_ok hheader
  rw [call_bind_of_ok (call_get _)] at hbody
  obtain ⟨result, hmessages, hbody⟩ := call_orPanic_bind_eq_ok hbody
  cases result with
  | error err => cases hbody
  | ok messages =>
    obtain ⟨frames, outcomes, hframes, rfl, hn⟩ := writeMessages_eq_ok hbody
    rw [Nat.zero_add] at hn
    exact ⟨messages, frames, outcomes, hmessages, hframes, hn, rfl⟩

theorem sendMessage_eq_ok {message : Message}
    (h : call (sendMessage message) s = .ok (.ok (), t)) :
    ∃ encoded outcomes, message.toVec = .ok encoded ∧
      t = { s with
        channel := { s.channel with header := none }
        writes := s.writes ++ s.channel.header.toList ++ [encoded]
        outcomes } := by
  rw [sendMessage] at h
  obtain ⟨⟨⟩, mid, hheader, hbody⟩ := call_bind_eq_ok.mp h
  obtain ⟨taken, rfl⟩ := maybeSendHeader_eq_ok hheader
  obtain ⟨encoded, hencoded, hbody⟩ := call_orPanic_bind_eq_ok hbody
  obtain ⟨outcomes, rfl⟩ := writeAll_eq_ok hbody
  exact ⟨encoded, outcomes, hencoded, rfl⟩

theorem maybeSendHeader_complete (houtcomes : s.outcomes = []) :
    ∃ u, call maybeSendHeader s = .ok (.ok (), u) ∧ u.outcomes = [] ∧
      u.channel.info = s.channel.info := by
  cases hheader : s.channel.header with
  | none =>
    refine ⟨s, ?_, houtcomes, rfl⟩
    rw [maybeSendHeader, call_bind_of_ok (call_get s), hheader]
    rfl
  | some header =>
    let u : Endpoint := { s with channel := { s.channel with header := none } }
    have hwrite := writeAll_complete (s := u) houtcomes header
    refine ⟨{ u with writes := u.writes ++ [header] }, ?_, houtcomes, rfl⟩
    rw [maybeSendHeader, call_bind_of_ok (call_get s), hheader]
    exact hwrite

/-- On a stream that takes every write. -/
theorem writeData_complete {dataBuf : List UInt8} {dataType : SshDataType}
    {frames : List (List UInt8)} (hheader : s.channel.header = none)
    (houtcomes : s.outcomes = [])
    (hmessages : writeDataMessages s.channel.info.maxPacketSize dataBuf dataType =
      .ok (.ok messages))
    (hframes : Encodings messages frames) :
    call (writeData dataBuf dataType) s =
      .ok (.ok frames.flatten.length, { s with writes := s.writes ++ frames }) := by
  have hnone : call maybeSendHeader s = .ok (.ok (), s) := by
    rw [maybeSendHeader, call_bind_of_ok (call_get s), hheader]
    rfl
  rw [writeData, call_bind_of_ok hnone, call_bind_of_ok (call_get s), hmessages,
    call_bind_of_ok (call_orPanic_ok _ _)]
  show call (writeMessages messages 0) s = _
  rw [writeMessages_complete hframes houtcomes, Nat.zero_add]

end Successful

end Ssh3.Core
