/-
  Ssh3.Go.MessageCodec

  What the Go encoder writes: for every message of a type both languages implement
  other than "forward-port", the wire form of the Rust encoder.

  The fields of a message are those of the Rust encoder.  That the decoder reads the bytes
  back needs no second look at the parsers: Rust reads them back, and Go accepts what Rust
  accepts.
-/

import Ssh3.Go.MessageFields
import Ssh3.Go.MessageLanguage

namespace Ssh3.Go

open Fallible
open Proto (ascii MAX_VARINT SshBytesOk varIntBytes sshBytes messageKind_le
  PtyRequest X11Request WindowChangeRequest ExitSignalRequest ChannelOpenConfirmationMessage
  ChannelOpenFailureMessage DataOrExtendedDataMessage SSH_MSG_CHANNEL_REQUEST
  SSH_MSG_CHANNEL_OPEN_CONFIRMATION SSH_MSG_CHANNEL_OPEN_FAILURE SSH_MSG_CHANNEL_DATA
  SSH_MSG_CHANNEL_EXTENDED_DATA SSH_EXTENDED_DATA_NONE)

/-! ## `Write` and its receiver -/

/-- `Write` with the request as the call leaves it. -/
def ChannelRequest.writeRef : ChannelRequest → BufWriter ChannelRequest
  | .forwarding r => do return .forwarding (← r.write)
  | request => do
    request.write
    return request

/-- `ChannelRequestMessage.Write` with the message as the call leaves it -/
def ChannelRequestMessage.writeRef (m : ChannelRequestMessage) :
    BufWriter ChannelRequestMessage := do
  let request ← m.writeWith ChannelRequest.writeRef
  return { m with channelRequest := some request }

/-- `Write` with the message as the call leaves it: the receiver is a pointer. -/
def Message.writeRef : Message → BufWriter Message
  | .channelRequest m => do return .channelRequest (← m.writeRef)
  | message => do
    message.write
    return message

theorem ChannelRequest.write_eq (request : ChannelRequest) :
    request.write = (do let _ ← request.writeRef) := by
  cases request <;> simp [ChannelRequest.write, ChannelRequest.writeRef]

/-- `Message.write` is `Message.writeRef` without the message. -/
theorem Message.write_eq (message : Message) : message.write = (do let _ ← message.writeRef) := by
  cases message with
  | channelRequest m =>
    obtain ⟨wantReply, channelRequest⟩ := m
    cases channelRequest with
    | none => rfl
    | some request =>
      simp only [Message.write, Message.writeRef, ChannelRequestMessage.write,
        ChannelRequestMessage.writeRef, ChannelRequestMessage.writeWith, ChannelRequest.write_eq,
        bind_assoc, pure_bind]
  | channelOpenConfirmation m => simp [Message.writeRef, Message.write]
  | channelOpenFailure m => simp [Message.writeRef, Message.write]
  | data m => simp [Message.writeRef, Message.write]

variable {message : Proto.Message}

/-- Only a forwarding request is changed by being written. -/
theorem Message.writeRef_eq (h : ¬IsForwardPort message) :
    (Message.ofProto message).writeRef = (do
      (Message.ofProto message).write
      return Message.ofProto message) := by
  cases message with
  | channelRequest m =>
    obtain ⟨wantReply, request⟩ := m
    cases request with
    | forwardPort request => exact absurd rfl h
    | _ =>
      simp only [Message.ofProto, ChannelRequest.ofProto, Message.write, Message.writeRef,
        ChannelRequestMessage.write, ChannelRequestMessage.writeRef,
        ChannelRequestMessage.writeWith, ChannelRequest.writeRef, bind_assoc, pure_bind]
  | channelOpenConfirmation m => rfl
  | channelOpenFailure m => rfl
  | data m => rfl

/-! ## The wire form -/

theorem FieldValue.writable_string {s : List UInt8} (h : SshBytesOk s) :
    (FieldValue.string s).Writable :=
  Nat.le_trans h (by decide)

theorem writable_fields_request {request : Proto.ChannelRequest} (h : request.Encodable) :
    Writable (ChannelRequest.ofProto request).fields := by
  cases request with
  | pty r =>
    obtain ⟨hterm, hcw, hch, hpw, hph, hmodes⟩ := h
    exact ⟨FieldValue.writable_string hterm, hcw, hch, hpw, hph,
      FieldValue.writable_string hmodes, trivial⟩
  | x11 r =>
    obtain ⟨hproto, hcookie, hscreen⟩ := h
    exact ⟨trivial, FieldValue.writable_string hproto, FieldValue.writable_string hcookie, hscreen,
      trivial⟩
  | shell => trivial
  | exec r => exact ⟨FieldValue.writable_string h, trivial⟩
  | subsystem r => exact ⟨FieldValue.writable_string h, trivial⟩
  | windowChange r =>
    obtain ⟨hcw, hch, hpw, hph⟩ := h
    exact ⟨hcw, hch, hpw, hph, trivial⟩
  | signal r => exact ⟨FieldValue.writable_string h, trivial⟩
  | exitStatus r => exact ⟨h, trivial⟩
  | exitSignal r =>
    obtain ⟨hname, hmsg, htag⟩ := h
    exact ⟨FieldValue.writable_string hname, trivial, FieldValue.writable_string hmsg,
      FieldValue.writable_string htag, trivial⟩
  | forwardPort r => trivial

theorem wire_fields_request {request : Proto.ChannelRequest}
    (hforward : request.requestType ≠ ascii "forward-port") :
    wire (ChannelRequest.ofProto request).fields = request.wire := by
  cases request with
  | pty r => simp [ChannelRequest.ofProto, ChannelRequest.fields, ptyFields, FieldValue.wire,
      Proto.ChannelRequest.wire, PtyRequest.wire]
  | x11 r => simp [ChannelRequest.ofProto, ChannelRequest.fields, x11Fields, FieldValue.wire,
      Proto.ChannelRequest.wire, X11Request.wire]
  | windowChange r => simp [ChannelRequest.ofProto, ChannelRequest.fields, windowChangeFields,
      FieldValue.wire, Proto.ChannelRequest.wire, WindowChangeRequest.wire]
  | exitSignal r => simp [ChannelRequest.ofProto, ChannelRequest.fields, exitSignalFields,
      FieldValue.wire, Proto.ChannelRequest.wire, ExitSignalRequest.wire]
  | forwardPort r => exact absurd rfl hforward
  | _ => simp [ChannelRequest.ofProto, ChannelRequest.fields, FieldValue.wire,
      Proto.ChannelRequest.wire]

theorem requestTypeStr_ofProto (request : Proto.ChannelRequest) :
    (ChannelRequest.ofProto request).requestTypeStr = request.requestType := by
  cases request <;> rfl

theorem writable_dataFields {message : DataOrExtendedDataMessage} (h : message.Encodable) :
    Writable (dataFields message) := by
  obtain ⟨htype, hdata⟩ := h
  unfold dataFields
  split_ifs
  · exact ⟨messageKind_le (by decide), FieldValue.writable_string hdata, trivial⟩
  · exact ⟨messageKind_le (by decide), htype, FieldValue.writable_string hdata, trivial⟩

theorem wire_dataFields (message : DataOrExtendedDataMessage) :
    wire (dataFields message) = message.wire := by
  unfold dataFields DataOrExtendedDataMessage.wire
  split_ifs <;> simp [FieldValue.wire]

theorem writable_fields (h : message.Encodable) : Writable (Message.ofProto message).fields := by
  cases message with
  | channelRequest m =>
    have htype : SshBytesOk (ChannelRequest.ofProto m.request).requestTypeStr := by
      rw [requestTypeStr_ofProto]
      exact m.request.requestType_ok
    exact ⟨messageKind_le (by decide), FieldValue.writable_string htype, trivial,
      writable_fields_request h⟩
  | channelOpenConfirmation m => exact ⟨messageKind_le (by decide), h, trivial⟩
  | channelOpenFailure m =>
    obtain ⟨hreason, hmsg, htag⟩ := h
    exact ⟨messageKind_le (by decide), hreason, FieldValue.writable_string hmsg,
      FieldValue.writable_string htag, trivial⟩
  | data m => exact writable_dataFields h

/-- Both languages write the same fields. -/
theorem wire_fields (hforward : ¬IsForwardPort message) :
    wire (Message.ofProto message).fields = message.wire := by
  cases message with
  | channelRequest m =>
    simp [Message.ofProto, Message.fields, FieldValue.wire, Proto.Message.wire,
      requestTypeStr_ofProto, wire_fields_request hforward]
  | channelOpenConfirmation m => simp [Message.ofProto, Message.fields, FieldValue.wire,
      Proto.Message.wire]
  | channelOpenFailure m => simp [Message.ofProto, Message.fields, FieldValue.wire,
      Proto.Message.wire]
  | data m => exact wire_dataFields m

theorem codes_data {message : DataOrExtendedDataMessage} (h : message.Encodable) :
    Codes (dataLength message) (writeData message) message.wire :=
  wire_dataFields message ▸ codes_dataFields (writable_dataFields h)

/-- `Length` and `Write` of every message but a forwarding request. -/
theorem codes_message (h : message.Encodable) (hforward : ¬IsForwardPort message) :
    Codes (Message.ofProto message).length (Message.ofProto message).write message.wire := by
  have hfields := writable_fields h
  rw [← wire_fields hforward]
  cases message with
  | channelRequest m =>
    refine codes_channelRequest hfields ?_
    intro r hr
    refine hforward ?_
    show m.request.requestType = _
    rw [← requestTypeStr_ofProto, hr]
    rfl
  | channelOpenConfirmation m => exact codes_channelOpenConfirmation hfields
  | channelOpenFailure m => exact codes_channelOpenFailure hfields
  | data m => exact codes_dataFields hfields

/-! ## Reading back -/

/-- Go reads what Rust reads, a forwarding request apart. -/
theorem accepts_of_reads (ending : GoError) {pre : List UInt8}
    (h : StreamCodec.Reads Proto.Message.parse pre message) (hforward : ¬IsForwardPort message) :
    Accepts (parseMessage ending) pre (.ofProto message, none) := by
  have htracks := tracks_parseMessage ending
  intro rest
  obtain ⟨pre', flags, hpre, hform⟩ := htracks.soundReader (h rest) hforward
  obtain rfl := List.append_cancel_right hpre
  obtain ⟨message', hgo, hstrict, hloose⟩ := htracks.complete hform
  -- Rust has accepted, so the booleans are 0 or 1
  have hflags : Strict flags := by
    by_contra hnot
    obtain ⟨err, herr⟩ := hloose hnot rest
    rw [h rest] at herr
    cases herr
  have hsame := (hstrict hflags rest).symm.trans (h rest)
  cases hsame
  exact hgo rest

/-- **One wire form.**  Every message within the limits, a forwarding request apart, is written
    by Go into a slice of `Length` bytes without an error; the slice is filled, with the bytes
    that the Rust encoder appends, and the message is not changed.  In front of anything,
    `ParseMessage` reads these bytes back as the message and stops right behind them. -/
theorem write_eq_proto_encode (message : Proto.Message) (h : message.Encodable)
    (hforward : ¬IsForwardPort message) :
    ∃ bytes, (Message.ofProto message).length = .ok bytes.length ∧
      (∀ buf : List UInt8, buf.length = bytes.length →
        call (Message.ofProto message).writeRef ⟨[], buf⟩ =
          .ok (.ok (.ofProto message), ⟨bytes, []⟩)) ∧
      (∀ out, message.encode out = .ok (out ++ bytes)) ∧
      ∀ ending rest, call (parseMessage ending) (bytes ++ rest) =
        .ok (.ok (.ofProto message, none), rest) := by
  have hcodes := codes_message h hforward
  have hproto := Proto.Message.coded h
  refine ⟨message.wire, hcodes.length, ?_, hproto.encode, ?_⟩
  · intro buf hbuf
    have hwrite := hcodes.writes ⟨[], buf⟩ (Nat.le_of_eq hbuf.symm)
    rw [Message.writeRef_eq hforward, call_bind_of_ok hwrite, ← hbuf, List.drop_length]
    rfl
  · intro ending rest
    exact accepts_of_reads ending hproto.reads hforward rest

/-- A request to run "ls" with a reply. -/
theorem write_eq_proto_encode_exec :
    ∃ bytes, (Message.ofProto (.channelRequest ⟨true, .exec ⟨ascii "ls"⟩⟩)).length =
        .ok bytes.length ∧
      bytes = [0x40, 98, 4] ++ ascii "exec" ++ [1, 2] ++ ascii "ls" := by
  obtain ⟨bytes, hlength, -, hencode, -⟩ :=
    write_eq_proto_encode (.channelRequest ⟨true, .exec ⟨ascii "ls"⟩⟩)
      (show SshBytesOk (ascii "ls") by decide) (by decide)
  refine ⟨bytes, hlength, ?_⟩
  have hbytes := hencode []
  rw [List.nil_append] at hbytes
  exact (Except.ok.inj hbytes).symm

end Ssh3.Go
