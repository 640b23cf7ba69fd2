/-
  Ssh3.Core.MessageReaderSpec

  The channel's own decoder against the one of `ssh3-proto`.

  `parse_message` reads from a stream that delivers its bytes in pieces, and fills every
  buffer with as many reads as it takes.  However the stream is cut, it returns what
  `Message::parse` returns on the bytes of the stream.
-/

import Ssh3.Core.MessageReader
import Ssh3.Proto.MessageCodec
import Ssh3.Proto.Sources

namespace Ssh3.Core

open Proto Lockstep

/-! ## The decoder over two sources -/

section Lockstep

variable {σ τ ε δ : Type} {R : σ → τ → Prop} {E : ε → δ → Prop} {src : ByteSource σ ε}
  {dst : ByteSource τ δ} (h : SameSource R E src dst)

include h

theorem lockstep_readRequestOfType (requestType : List UInt8) :
    InStep R E (readRequestOfType src requestType) (readRequestOfType dst requestType) := by
  have hstring := lockstep_readSshBytesFrom h
  have hnumber := lockstep_readVarIntFrom h
  have hbool := lockstep_readBoolFrom h
  -- one case per request type; the fields are those of its record
  refine lockstep_ite ?_ (lockstep_ite ?_ (lockstep_ite ?_ (lockstep_ite ?_ (lockstep_ite ?_
    (lockstep_ite ?_ (lockstep_ite ?_ (lockstep_ite ?_ (lockstep_ite ?_
      (lockstep_ite ?_ ?_)))))))))
  · refine lockstep_bind hstring fun term => ?_
    refine lockstep_bind hnumber fun charWidth => ?_
    refine lockstep_bind hnumber fun charHeight => ?_
    refine lockstep_bind hnumber fun pixelWidth => ?_
    refine lockstep_bind hnumber fun pixelHeight => ?_
    exact lockstep_bind hstring fun _ => lockstep_pure _
  · refine lockstep_bind hbool fun singleConnection => ?_
    refine lockstep_bind hstring fun protocol => ?_
    refine lockstep_bind hstring fun cookie => ?_
    exact lockstep_bind hnumber fun _ => lockstep_pure _
  · exact lockstep_pure _
  · exact lockstep_bind hstring fun _ => lockstep_pure _
  · exact lockstep_bind hstring fun _ => lockstep_pure _
  · refine lockstep_bind hnumber fun charWidth => ?_
    refine lockstep_bind hnumber fun charHeight => ?_
    refine lockstep_bind hnumber fun pixelWidth => ?_
    exact lockstep_bind hnumber fun _ => lockstep_pure _
  · exact lockstep_bind hstring fun _ => lockstep_pure _
  · exact lockstep_bind hnumber fun _ => lockstep_pure _
  · refine lockstep_bind hstring fun name => ?_
    refine lockstep_bind hbool fun coreDumped => ?_
    refine lockstep_bind hstring fun message => ?_
    exact lockstep_bind hstring fun _ => lockstep_pure _
  · refine lockstep_bind hnumber fun value => ?_
    refine lockstep_bind (lockstep_lift h fun _ => ForwardingProtocol.tryFrom_isProtocol)
      fun protocol => ?_
    refine lockstep_bind hnumber fun value => ?_
    refine lockstep_bind (lockstep_lift h fun _ => ForwardingAddressFamily.tryFrom_isProtocol)
      fun family => ?_
    refine lockstep_bind (h.readExact family.octetLen) fun octets => ?_
    exact lockstep_bind (h.readExact 2) fun _ => lockstep_pure _
  · exact lockstep_throw (h.ofProto _ trivial)

theorem lockstep_readChannelRequest :
    InStep R E (readChannelRequest src) (readChannelRequest dst) := by
  refine lockstep_bind (lockstep_readSshBytesFrom h) fun requestType => ?_
  refine lockstep_bind (lockstep_readBoolFrom h) fun wantReply => ?_
  exact lockstep_bind (lockstep_readRequestOfType h requestType) fun _ => lockstep_pure _

theorem lockstep_parseMessage : InStep R E (parseMessage src) (parseMessage dst) := by
  have hstring := lockstep_readSshBytesFrom h
  have hnumber := lockstep_readVarIntFrom h
  refine lockstep_bind hnumber fun messageType => ?_
  refine lockstep_ite ?_ (lockstep_ite ?_ (lockstep_ite ?_ (lockstep_ite ?_ (lockstep_ite ?_ ?_))))
  · exact lockstep_bind (lockstep_readChannelRequest h) fun _ => lockstep_pure _
  · exact lockstep_bind hnumber fun _ => lockstep_pure _
  · refine lockstep_bind hnumber fun reasonCode => ?_
    refine lockstep_bind hstring fun errorMessage => ?_
    exact lockstep_bind hstring fun _ => lockstep_pure _
  · exact lockstep_bind hstring fun _ => lockstep_pure _
  · refine lockstep_bind hnumber fun dataType => ?_
    exact lockstep_bind hstring fun _ => lockstep_pure _
  · exact lockstep_throw (h.ofProto _ trivial)

end Lockstep

/-! ## The decoder over a cursor -/

theorem readRequestOfType_cursorSource (requestType : List UInt8) :
    readRequestOfType cursorSource requestType = ChannelRequest.parse requestType := by
  unfold readRequestOfType ChannelRequest.parse
  simp only [PtyRequest.parse, X11Request.parse, ExecRequest.parse, SubsystemRequest.parse,
    WindowChangeRequest.parse, SignalRequest.parse, ExitStatusRequest.parse,
    ExitSignalRequest.parse, ForwardingRequest.parse, bind_assoc, pure_bind]
  rfl

/-- Over a cursor, the decoder written over `ReceiveStream` is that of the crate. -/
theorem parseMessage_cursorSource : parseMessage cursorSource = Message.parse := by
  unfold parseMessage Message.parse readChannelRequest ChannelRequestMessage.parsePayload
  simp only [readRequestOfType_cursorSource, ChannelOpenConfirmationMessage.parsePayload,
    ChannelOpenFailureMessage.parsePayload, DataOrExtendedDataMessage.parseDataPayload,
    DataOrExtendedDataMessage.parseExtendedPayload, bind_assoc, pure_bind]
  rfl

/-- On the bytes of a stream it reads back what was encoded. -/
theorem reads_parseMessage (ending : IoError) {message : Message} (h : message.Encodable) :
    StreamCodec.Reads (parseMessage (channelSource ending)) message.wire message := by
  intro rest
  have hsame : SameSource Eq (fun _ _ => True) (channelSource ending) cursorSource :=
    sameSource_bytesSource trivial fun _ _ => trivial
  have hresult := lockstep_parseMessage hsame (message.wire ++ rest) _ rfl
  rw [parseMessage_cursorSource, (Message.coded h).reads rest] at hresult
  generalize (parseMessage (channelSource ending)).run (message.wire ++ rest) = x at hresult ⊢
  cases hresult with
  | ok a heq => rw [heq]

/-! ## The decoder over a stream in pieces -/

/-- `QuinnReceiveStream` -/
def streamSource : ByteSource (Fragments.Stream UInt8 IoError) ChannelError :=
  pieceSource .io .proto

/-- The same error of the protocol, or the end of the input on both sides. -/
inductive SameError (ending : IoError) : ChannelError → Error → Prop
  | protocol {err : Error} (h : err.IsProtocol) : SameError ending (.proto err) err
  | endOfInput : SameError ending (.io ending) (.io .unexpectedEof)

theorem sameSource_streamSource (ending : IoError) :
    SameSource (Holds ending) (SameError ending) streamSource cursorSource :=
  sameSource_pieceSource .endOfInput fun _ h => .protocol h

/-- **The two decoders agree.**  On a stream with any bytes, cut into any pieces,
    `parse_message` returns a message and leaves the bytes `rest` exactly if `Message::parse`
    does on these bytes.  If it fails, so does `Message::parse`: with the same error of the
    protocol, or both at the end of the input. -/
theorem parseMessage_agrees (s : Fragments.Stream UInt8 IoError) :
    (∀ m rest, (∃ t, (parseMessage streamSource).run s = .ok (m, t) ∧ t.bytes = rest) ↔
      Message.parse.run s.bytes = .ok (m, rest)) ∧
    (∀ err, (parseMessage streamSource).run s = .error err →
      (∃ protocolErr : Error, protocolErr.IsProtocol ∧ err = .proto protocolErr ∧
        Message.parse.run s.bytes = .error protocolErr) ∨
      (err = .io s.ending ∧ Message.parse.run s.bytes = .error (.io .unexpectedEof))) := by
  have hsame := lockstep_parseMessage (sameSource_streamSource s.ending) s s.bytes ⟨rfl, rfl⟩
  rw [parseMessage_cursorSource] at hsame
  generalize (parseMessage streamSource).run s = x at hsame ⊢
  generalize Message.parse.run s.bytes = y at hsame ⊢
  cases hsame with
  | @ok t rest m hrest =>
    refine ⟨fun m' rest' => ⟨?_, ?_⟩, ?_⟩
    · rintro ⟨t', heq, rfl⟩
      cases heq
      rw [hrest.1]
    · intro heq
      cases heq
      exact ⟨t, rfl, hrest.1⟩
    · intro err heq
      cases heq
  | error hsame =>
    refine ⟨fun m rest => ⟨?_, ?_⟩, ?_⟩
    · rintro ⟨t, heq, -⟩
      cases heq
    · intro heq
      cases heq
    · intro err heq
      cases heq
      cases hsame with
      | protocol hprotocol => exact .inl ⟨_, hprotocol, rfl, rfl⟩
      | endOfInput => exact .inr ⟨rfl, rfl⟩

end Ssh3.Core
