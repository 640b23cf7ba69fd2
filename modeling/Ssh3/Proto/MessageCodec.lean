/-
  Ssh3.Proto.MessageCodec

  The wire form of every message and the round trip: on a message whose
  numbers fit into 62 bits and whose strings are within the limit, the encoder
  does not panic, emits the wire form, `encoded_len` is its length, and the
  decoder reads it back and stops right behind it.

  One `coded` lemma per type; a message's lemma is assembled from its fields'.
-/

import Ssh3.Proto.Message
import Ssh3.Proto.WireSpec

namespace Ssh3.Proto

open StreamCodec VarInt

/-! ## Fields, for the crate's own cursor -/

theorem reads_readVarInt {value : UInt64} (h : value ≤ MAX_VARINT) :
    Reads readVarInt (varIntBytes value) value :=
  reads_readVarIntFrom _ _ (isVarInt_varIntBytes h)

theorem reads_readSshBytes {bytes : List UInt8} (h : SshBytesOk bytes) :
    Reads readSshBytes (sshBytes bytes) bytes :=
  reads_readSshBytesFrom _ _ (isSshBytes_sshBytes h)

theorem reads_readBool (value : Bool) : Reads readBool [value.toUInt8] value :=
  reads_readBoolFrom _ _ value

/-! ## Which values have a wire form -/

def PtyRequest.Encodable (self : PtyRequest) : Prop :=
  SshBytesOk self.term ∧ self.charWidth ≤ MAX_VARINT ∧ self.charHeight ≤ MAX_VARINT ∧
    self.pixelWidth ≤ MAX_VARINT ∧ self.pixelHeight ≤ MAX_VARINT ∧
    SshBytesOk self.encodedTerminalModes

def X11Request.Encodable (self : X11Request) : Prop :=
  SshBytesOk self.x11AuthenticationProtocol ∧ SshBytesOk self.x11AuthenticationCookie ∧
    self.x11ScreenNumber ≤ MAX_VARINT

def WindowChangeRequest.Encodable (self : WindowChangeRequest) : Prop :=
  self.charWidth ≤ MAX_VARINT ∧ self.charHeight ≤ MAX_VARINT ∧
    self.pixelWidth ≤ MAX_VARINT ∧ self.pixelHeight ≤ MAX_VARINT

def ExitSignalRequest.Encodable (self : ExitSignalRequest) : Prop :=
  SshBytesOk self.signalNameWithoutSig ∧ SshBytesOk self.errorMessageUtf8 ∧
    SshBytesOk self.languageTag

/-- Every number of the request is at most `2 ^ 62 - 1` and every byte string at most
    16 MiB long.  A forwarding request has neither. -/
def ChannelRequest.Encodable : ChannelRequest → Prop
  | .pty request => request.Encodable
  | .x11 request => request.Encodable
  | .shell => True
  | .exec request => SshBytesOk request.command
  | .subsystem request => SshBytesOk request.subsystemName
  | .windowChange request => request.Encodable
  | .signal request => SshBytesOk request.signalNameWithoutSig
  | .exitStatus request => request.exitStatus ≤ MAX_VARINT
  | .exitSignal request => request.Encodable
  | .forwardPort _ => True

def ChannelOpenFailureMessage.Encodable (self : ChannelOpenFailureMessage) : Prop :=
  self.reasonCode ≤ MAX_VARINT ∧ SshBytesOk self.errorMessageUtf8 ∧ SshBytesOk self.languageTag

def DataOrExtendedDataMessage.Encodable (self : DataOrExtendedDataMessage) : Prop :=
  self.dataType ≤ MAX_VARINT ∧ SshBytesOk self.data

def Message.Encodable : Message → Prop
  | .channelRequest message => message.request.Encodable
  | .channelOpenConfirmation message => message.maxPacketSize ≤ MAX_VARINT
  | .channelOpenFailure message => message.Encodable
  | .data message => message.Encodable

/-! ## Wire forms -/

def PtyRequest.wire (self : PtyRequest) : List UInt8 :=
  sshBytes self.term ++ varIntBytes self.charWidth ++ varIntBytes self.charHeight ++
    varIntBytes self.pixelWidth ++ varIntBytes self.pixelHeight ++
    sshBytes self.encodedTerminalModes

def X11Request.wire (self : X11Request) : List UInt8 :=
  [self.singleConnection.toUInt8] ++ sshBytes self.x11AuthenticationProtocol ++
    sshBytes self.x11AuthenticationCookie ++ varIntBytes self.x11ScreenNumber

def WindowChangeRequest.wire (self : WindowChangeRequest) : List UInt8 :=
  varIntBytes self.charWidth ++ varIntBytes self.charHeight ++
    varIntBytes self.pixelWidth ++ varIntBytes self.pixelHeight

def ExitSignalRequest.wire (self : ExitSignalRequest) : List UInt8 :=
  sshBytes self.signalNameWithoutSig ++ [self.coreDumped.toUInt8] ++
    sshBytes self.errorMessageUtf8 ++ sshBytes self.languageTag

def ForwardingRequest.wire (self : ForwardingRequest) : List UInt8 :=
  varIntBytes self.protocol.asU64 ++
    varIntBytes (ForwardingAddressFamily.fromIp self.ipAddress).asU64 ++
    self.ipAddress.octets ++ toBeBytes self.port

def ChannelRequest.wire : ChannelRequest → List UInt8
  | .pty request => request.wire
  | .x11 request => request.wire
  | .shell => []
  | .exec request => sshBytes request.command
  | .subsystem request => sshBytes request.subsystemName
  | .windowChange request => request.wire
  | .signal request => sshBytes request.signalNameWithoutSig
  | .exitStatus request => varIntBytes request.exitStatus
  | .exitSignal request => request.wire
  | .forwardPort request => request.wire

def DataOrExtendedDataMessage.wire (self : DataOrExtendedDataMessage) : List UInt8 :=
  if self.dataType = SSH_EXTENDED_DATA_NONE then
    varIntBytes SSH_MSG_CHANNEL_DATA ++ sshBytes self.data
  else
    varIntBytes SSH_MSG_CHANNEL_EXTENDED_DATA ++ varIntBytes self.dataType ++ sshBytes self.data

/-- The bytes of a message on a channel stream. -/
def Message.wire : Message → List UInt8
  | .channelRequest message =>
    varIntBytes SSH_MSG_CHANNEL_REQUEST ++ sshBytes message.request.requestType ++
      [message.wantReply.toUInt8] ++ message.request.wire
  | .channelOpenConfirmation message =>
    varIntBytes SSH_MSG_CHANNEL_OPEN_CONFIRMATION ++ varIntBytes message.maxPacketSize
  | .channelOpenFailure message =>
    varIntBytes SSH_MSG_CHANNEL_OPEN_FAILURE ++ varIntBytes message.reasonCode ++
      sshBytes message.errorMessageUtf8 ++ sshBytes message.languageTag
  | .data message => message.wire

/-! ## Requests -/

theorem PtyRequest.coded {self : PtyRequest} (h : self.Encodable) :
    Coded self.encode self.encodedLen PtyRequest.parse self self.wire := by
  obtain ⟨hterm, hcw, hch, hpw, hph, hmodes⟩ := h
  -- encoder, length and decoder, field by field; so for every request below
  refine ⟨fun out => ?_, ?_, ?_⟩
  · simp only [PtyRequest.encode, PtyRequest.wire, appendSshBytes_eq hterm, appendVarInt_eq hcw,
      appendVarInt_eq hch, appendVarInt_eq hpw, appendVarInt_eq hph, appendSshBytes_eq hmodes,
      ok_bind, List.append_assoc]
  · simp only [PtyRequest.encodedLen, PtyRequest.wire, sshStringLen_eq hterm, varIntLen_eq hcw,
      varIntLen_eq hch, varIntLen_eq hpw, varIntLen_eq hph, sshStringLen_eq hmodes, ok_bind,
      List.length_append]
    rfl
  · simp only [PtyRequest.wire, List.append_assoc]
    refine reads_bind (reads_readSshBytes hterm) ?_
    refine reads_bind (reads_readVarInt hcw) ?_
    refine reads_bind (reads_readVarInt hch) ?_
    refine reads_bind (reads_readVarInt hpw) ?_
    refine reads_bind (reads_readVarInt hph) ?_
    exact reads_bind_pure (reads_readSshBytes hmodes)

theorem X11Request.coded {self : X11Request} (h : self.Encodable) :
    Coded self.encode self.encodedLen X11Request.parse self self.wire := by
  obtain ⟨hproto, hcookie, hscreen⟩ := h
  refine ⟨fun out => ?_, ?_, ?_⟩
  · simp only [X11Request.encode, X11Request.wire, writeBool, appendSshBytes_eq hproto,
      appendSshBytes_eq hcookie, appendVarInt_eq hscreen, ok_bind, List.append_assoc]
  · simp only [X11Request.encodedLen, X11Request.wire, sshStringLen_eq hproto,
      sshStringLen_eq hcookie, varIntLen_eq hscreen, ok_bind, List.length_append,
      List.length_singleton]
    rfl
  · simp only [X11Request.wire, List.append_assoc]
    refine reads_bind (reads_readBool self.singleConnection) ?_
    refine reads_bind (reads_readSshBytes hproto) ?_
    refine reads_bind (reads_readSshBytes hcookie) ?_
    exact reads_bind_pure (reads_readVarInt hscreen)

theorem WindowChangeRequest.coded {self : WindowChangeRequest} (h : self.Encodable) :
    Coded self.encode self.encodedLen WindowChangeRequest.parse self self.wire := by
  obtain ⟨hcw, hch, hpw, hph⟩ := h
  refine ⟨fun out => ?_, ?_, ?_⟩
  · simp only [WindowChangeRequest.encode, WindowChangeRequest.wire, appendVarInt_eq hcw,
      appendVarInt_eq hch, appendVarInt_eq hpw, appendVarInt_eq hph, ok_bind, List.append_assoc]
  · simp only [WindowChangeRequest.encodedLen, WindowChangeRequest.wire, varIntLen_eq hcw,
      varIntLen_eq hch, varIntLen_eq hpw, varIntLen_eq hph, ok_bind, List.length_append]
    rfl
  · simp only [WindowChangeRequest.wire, List.append_assoc]
    refine reads_bind (reads_readVarInt hcw) ?_
    refine reads_bind (reads_readVarInt hch) ?_
    refine reads_bind (reads_readVarInt hpw) ?_
    exact reads_bind_pure (reads_readVarInt hph)

theorem ExitSignalRequest.coded {self : ExitSignalRequest} (h : self.Encodable) :
    Coded self.encode self.encodedLen ExitSignalRequest.parse self self.wire := by
  obtain ⟨hname, hmsg, htag⟩ := h
  refine ⟨fun out => ?_, ?_, ?_⟩
  · simp only [ExitSignalRequest.encode, ExitSignalRequest.wire, writeBool,
      appendSshBytes_eq hname, appendSshBytes_eq hmsg, appendSshBytes_eq htag, ok_bind,
      List.append_assoc]
  · simp only [ExitSignalRequest.encodedLen, ExitSignalRequest.wire, sshStringLen_eq hname,
      sshStringLen_eq hmsg, sshStringLen_eq htag, ok_bind, List.length_append,
      List.length_singleton]
    rfl
  · simp only [ExitSignalRequest.wire, List.append_assoc]
    refine reads_bind (reads_readSshBytes hname) ?_
    refine reads_bind (reads_readBool self.coreDumped) ?_
    refine reads_bind (reads_readSshBytes hmsg) ?_
    exact reads_bind_pure (reads_readSshBytes htag)

/-- A request that is one string: `exec`, `subsystem` and `signal`. -/
theorem coded_sshBytes {α : Type} {bytes : List UInt8} (h : SshBytesOk bytes)
    (make : List UInt8 → α) :
    Coded (fun out => appendSshBytes out bytes) (sshStringLen bytes)
      (do return make (← readSshBytes)) (make bytes) (sshBytes bytes) :=
  ⟨appendSshBytes_eq h, sshStringLen_eq h, reads_bind_pure (reads_readSshBytes h)⟩

/-- A request that is one number: `exit-status`. -/
theorem coded_varInt {α : Type} {value : UInt64} (h : value ≤ MAX_VARINT) (make : UInt64 → α) :
    Coded (fun out => appendVarInt out value) (varIntLen value)
      (do return make (← readVarInt)) (make value) (varIntBytes value) :=
  ⟨appendVarInt_eq h, varIntLen_eq h, reads_bind_pure (reads_readVarInt h)⟩

/-! ### Forwarding requests -/

theorem ForwardingProtocol.asU64_le (protocol : ForwardingProtocol) :
    protocol.asU64 ≤ MAX_VARINT := by
  cases protocol <;> decide

theorem ForwardingAddressFamily.asU64_le (family : ForwardingAddressFamily) :
    family.asU64 ≤ MAX_VARINT := by
  cases family <;> decide

theorem ForwardingProtocol.tryFrom_asU64 (protocol : ForwardingProtocol) :
    ForwardingProtocol.tryFrom protocol.asU64 = .ok protocol := by
  cases protocol <;> rfl

theorem ForwardingAddressFamily.tryFrom_asU64 (family : ForwardingAddressFamily) :
    ForwardingAddressFamily.tryFrom family.asU64 = .ok family := by
  cases family <;> rfl

theorem IpAddr.octets_length (address : IpAddr) :
    address.octets.length = (ForwardingAddressFamily.fromIp address).octetLen := by
  cases address with
  | v4 address => exact address.property
  | v6 address => exact address.property

theorem IpAddr.ofOctets_octets (address : IpAddr) :
    IpAddr.ofOctets (ForwardingAddressFamily.fromIp address)
      ⟨address.octets, address.octets_length⟩ = address := by
  cases address <;> rfl

theorem fromBeBytes_toBeBytes (port : UInt16) : fromBeBytes ⟨toBeBytes port, rfl⟩ = port := by
  have hlt := port.toNat_lt
  have hhigh : ((port >>> 8).toUInt8.toUInt16 <<< 8).toNat = 2 ^ 8 * (port.toNat / 256) := by
    rw [UInt16.toNat_shiftLeft, UInt8.toNat_toUInt16, UInt16.toNat_toUInt8,
      UInt16.toNat_shiftRight]
    simp only [UInt16.reduceToNat, Nat.reduceMod, Nat.shiftRight_eq_div_pow, Nat.shiftLeft_eq]
    omega
  -- the two bytes do not overlap, so their disjunction is their sum
  apply UInt16.toNat_inj.mp
  show (((port >>> 8).toUInt8.toUInt16 <<< 8) ||| port.toUInt8.toUInt16).toNat = port.toNat
  rw [UInt16.toNat_or, hhigh, UInt8.toNat_toUInt16, UInt16.toNat_toUInt8,
    ← Nat.two_pow_add_eq_or_of_lt (Nat.mod_lt _ (by decide))]
  omega

theorem ForwardingRequest.coded (self : ForwardingRequest) :
    Coded self.encode self.encodedLen ForwardingRequest.parse self self.wire := by
  have hproto := self.protocol.asU64_le
  have hfamily := (ForwardingAddressFamily.fromIp self.ipAddress).asU64_le
  refine ⟨fun out => ?_, ?_, ?_⟩
  · simp only [ForwardingRequest.encode, ForwardingRequest.wire, appendVarInt_eq hproto,
      appendVarInt_eq hfamily, ok_bind, List.append_assoc]
    rfl
  · simp only [ForwardingRequest.encodedLen, ForwardingRequest.wire, varIntLen_eq hproto,
      varIntLen_eq hfamily, ok_bind, List.length_append, self.ipAddress.octets_length]
    rfl
  · simp only [ForwardingRequest.wire, List.append_assoc]
    refine reads_bind (reads_readVarInt hproto) ?_
    -- what the encoder writes for an enumeration is accepted by its `try_from`
    rw [ForwardingProtocol.tryFrom_asU64]
    refine reads_bind (p := []) (reads_pure self.protocol) ?_
    refine reads_bind (reads_readVarInt hfamily) ?_
    rw [ForwardingAddressFamily.tryFrom_asU64]
    refine reads_bind (p := []) (reads_pure _) ?_
    refine reads_bind (reads_readExact _ self.ipAddress.octets self.ipAddress.octets_length) ?_
    rw [self.ipAddress.ofOctets_octets]
    have hport := reads_bind_pure (f := fun port => ForwardingRequest.mk self.protocol
        self.ipAddress (fromBeBytes port))
      (reads_readExact (n := 2) (Error.io .unexpectedEof) (toBeBytes self.port) rfl)
    rw [fromBeBytes_toBeBytes] at hport
    exact hport

/-! ### All requests -/

/-- Reading a field and wrapping it in a constructor. -/
theorem Coded.wrap {α γ : Type} {enc : Encoder} {len : Except Panic Nat} {r : Parser α} {a : α}
    {wire : List UInt8} (h : Coded enc len r a wire) (make : α → γ) :
    Coded enc len (do return make (← r)) (make a) wire :=
  ⟨h.encode, h.length, reads_bind_pure h.reads⟩

theorem ChannelRequest.coded {self : ChannelRequest} (h : self.Encodable) :
    Coded self.encodePayload self.encodedPayloadLen (ChannelRequest.parse self.requestType) self
      self.wire := by
  -- the decoder is chosen by the type string the encoder writes
  cases self with
  | pty request => exact Coded.wrap (PtyRequest.coded h) ChannelRequest.pty
  | x11 request => exact Coded.wrap (X11Request.coded h) ChannelRequest.x11
  | shell => exact ⟨fun out => by rw [ChannelRequest.wire, List.append_nil]; rfl, rfl, reads_pure _⟩
  | exec request =>
    exact Coded.wrap (coded_sshBytes h ExecRequest.mk) ChannelRequest.exec
  | subsystem request =>
    exact Coded.wrap (coded_sshBytes h SubsystemRequest.mk) ChannelRequest.subsystem
  | windowChange request =>
    exact Coded.wrap (WindowChangeRequest.coded h) ChannelRequest.windowChange
  | signal request => exact Coded.wrap (coded_sshBytes h SignalRequest.mk) ChannelRequest.signal
  | exitStatus request =>
    exact Coded.wrap (coded_varInt h ExitStatusRequest.mk) ChannelRequest.exitStatus
  | exitSignal request => exact Coded.wrap (ExitSignalRequest.coded h) ChannelRequest.exitSignal
  | forwardPort request =>
    exact Coded.wrap (ForwardingRequest.coded request) ChannelRequest.forwardPort

theorem ChannelRequest.requestType_ok (self : ChannelRequest) : SshBytesOk self.requestType := by
  cases self <;> simp only [ChannelRequest.requestType] <;> decide

/-! ## Messages -/

theorem messageKind_le {kind : UInt64} (h : kind.toNat < 128) : kind ≤ MAX_VARINT :=
  UInt64.le_iff_toNat_le.mpr (Nat.le_trans (Nat.le_of_lt h) (by decide))

theorem Message.coded_channelRequest {message : ChannelRequestMessage}
    (h : message.request.Encodable) :
    Coded message.encode message.encodedLen Message.parse (.channelRequest message)
      (Message.channelRequest message).wire := by
  have hkind : SSH_MSG_CHANNEL_REQUEST ≤ MAX_VARINT := messageKind_le (by decide)
  have htype := message.request.requestType_ok
  have hreq := ChannelRequest.coded h
  refine ⟨fun out => ?_, ?_, ?_⟩
  · simp only [ChannelRequestMessage.encode, Message.wire, writeBool, appendVarInt_eq hkind,
      appendSshBytes_eq htype, hreq.encode, ok_bind, List.append_assoc]
  · simp only [ChannelRequestMessage.encodedLen, Message.wire, varIntLen_eq hkind,
      sshStringLen_eq htype, hreq.length, ok_bind, List.length_append, List.length_singleton]
    rfl
  · simp only [Message.wire, List.append_assoc]
    refine reads_bind (reads_readVarInt hkind) ?_
    refine reads_bind_pure (f := Message.channelRequest) (a := message) ?_
    refine reads_bind (reads_readSshBytes htype) ?_
    refine reads_bind (reads_readBool message.wantReply) ?_
    exact reads_bind_pure (f := fun request => ChannelRequestMessage.mk message.wantReply request)
      hreq.reads

theorem Message.coded_channelOpenConfirmation {message : ChannelOpenConfirmationMessage}
    (h : message.maxPacketSize ≤ MAX_VARINT) :
    Coded message.encode message.encodedLen Message.parse (.channelOpenConfirmation message)
      (Message.channelOpenConfirmation message).wire := by
  have hkind : SSH_MSG_CHANNEL_OPEN_CONFIRMATION ≤ MAX_VARINT := messageKind_le (by decide)
  refine ⟨fun out => ?_, ?_, ?_⟩
  · simp only [ChannelOpenConfirmationMessage.encode, Message.wire, appendVarInt_eq hkind,
      appendVarInt_eq h, ok_bind, List.append_assoc]
  · simp only [ChannelOpenConfirmationMessage.encodedLen, Message.wire, varIntLen_eq hkind,
      varIntLen_eq h, ok_bind, List.length_append]
    rfl
  · refine reads_bind (reads_readVarInt hkind) ?_
    refine reads_bind_pure (f := Message.channelOpenConfirmation) (a := message) ?_
    exact reads_bind_pure (f := ChannelOpenConfirmationMessage.mk) (reads_readVarInt h)

theorem Message.coded_channelOpenFailure {message : ChannelOpenFailureMessage}
    (h : message.Encodable) :
    Coded message.encode message.encodedLen Message.parse (.channelOpenFailure message)
      (Message.channelOpenFailure message).wire := by
  have hkind : SSH_MSG_CHANNEL_OPEN_FAILURE ≤ MAX_VARINT := messageKind_le (by decide)
  obtain ⟨hreason, hmsg, htag⟩ := h
  refine ⟨fun out => ?_, ?_, ?_⟩
  · simp only [ChannelOpenFailureMessage.encode, Message.wire, appendVarInt_eq hkind,
      appendVarInt_eq hreason, appendSshBytes_eq hmsg, appendSshBytes_eq htag, ok_bind,
      List.append_assoc]
  · simp only [ChannelOpenFailureMessage.encodedLen, Message.wire, varIntLen_eq hkind,
      varIntLen_eq hreason, sshStringLen_eq hmsg, sshStringLen_eq htag, ok_bind,
      List.length_append]
    rfl
  · simp only [Message.wire, List.append_assoc]
    refine reads_bind (reads_readVarInt hkind) ?_
    refine reads_bind_pure (f := Message.channelOpenFailure) (a := message) ?_
    refine reads_bind (reads_readVarInt hreason) ?_
    refine reads_bind (reads_readSshBytes hmsg) ?_
    exact reads_bind_pure (reads_readSshBytes htag)

theorem DataOrExtendedDataMessage.encode_eq {self : DataOrExtendedDataMessage}
    (htype : self.dataType ≤ MAX_VARINT) (hdata : UInt64.ofNat self.data.length ≤ MAX_VARINT)
    (out : List UInt8) : self.encode out = .ok (out ++ self.wire) := by
  have hplain : SSH_MSG_CHANNEL_DATA ≤ MAX_VARINT := messageKind_le (by decide)
  have hext : SSH_MSG_CHANNEL_EXTENDED_DATA ≤ MAX_VARINT := messageKind_le (by decide)
  unfold DataOrExtendedDataMessage.encode DataOrExtendedDataMessage.wire
  by_cases h0 : self.dataType = SSH_EXTENDED_DATA_NONE
  · simp only [if_pos h0, appendVarInt_eq hplain, appendSshBytes_eq_of_le hdata, ok_bind,
      List.append_assoc]
  · simp only [if_neg h0, appendVarInt_eq hext, appendVarInt_eq htype,
      appendSshBytes_eq_of_le hdata, ok_bind, List.append_assoc]

theorem DataOrExtendedDataMessage.encodedLen_eq {self : DataOrExtendedDataMessage}
    (htype : self.dataType ≤ MAX_VARINT) (hdata : UInt64.ofNat self.data.length ≤ MAX_VARINT) :
    self.encodedLen = .ok self.wire.length := by
  have hplain : SSH_MSG_CHANNEL_DATA ≤ MAX_VARINT := messageKind_le (by decide)
  have hext : SSH_MSG_CHANNEL_EXTENDED_DATA ≤ MAX_VARINT := messageKind_le (by decide)
  unfold DataOrExtendedDataMessage.encodedLen DataOrExtendedDataMessage.wire
  by_cases h0 : self.dataType = SSH_EXTENDED_DATA_NONE
  · simp only [if_pos h0, varIntLen_eq hplain, sshStringLen_eq_of_le hdata, ok_bind,
      List.length_append]
    rfl
  · simp only [if_neg h0, varIntLen_eq hext, varIntLen_eq htype, sshStringLen_eq_of_le hdata,
      ok_bind, List.length_append]
    rfl

theorem Message.coded_data {message : DataOrExtendedDataMessage} (h : message.Encodable) :
    Coded message.encode message.encodedLen Message.parse (.data message)
      (Message.data message).wire := by
  obtain ⟨htype, hdata⟩ := h
  refine ⟨message.encode_eq htype hdata.length_le, message.encodedLen_eq htype hdata.length_le, ?_⟩
  obtain ⟨dataType, data⟩ := message
  simp only at htype hdata
  -- a data message has the short form exactly for the data type 0
  by_cases h0 : dataType = SSH_EXTENDED_DATA_NONE
  · subst h0
    simp only [Message.wire, DataOrExtendedDataMessage.wire, if_true]
    refine reads_bind (reads_readVarInt (messageKind_le (by decide))) ?_
    refine reads_bind_pure (f := Message.data) ?_
    exact reads_bind_pure (f := DataOrExtendedDataMessage.mk SSH_EXTENDED_DATA_NONE)
      (reads_readSshBytes hdata)
  · simp only [Message.wire, DataOrExtendedDataMessage.wire, if_neg h0, List.append_assoc]
    refine reads_bind (reads_readVarInt (messageKind_le (by decide))) ?_
    refine reads_bind_pure (f := Message.data) ?_
    refine reads_bind (reads_readVarInt htype) ?_
    exact reads_bind_pure (f := DataOrExtendedDataMessage.mk dataType) (reads_readSshBytes hdata)

/-- Encoder, length function and decoder agree on the wire form of every message with
    one. -/
theorem Message.coded {message : Message} (h : message.Encodable) :
    Coded message.encode message.encodedLen Message.parse message message.wire := by
  cases message with
  | channelRequest message => exact Message.coded_channelRequest h
  | channelOpenConfirmation message => exact Message.coded_channelOpenConfirmation h
  | channelOpenFailure message => exact Message.coded_channelOpenFailure h
  | data message => exact Message.coded_data h

/-- A message starts with its kind, so its wire form is not empty. -/
theorem Message.wire_ne_nil (message : Message) : message.wire ≠ [] := by
  have happend : ∀ (kind : UInt64) (bs : List UInt8), kind ≤ MAX_VARINT →
      varIntBytes kind ++ bs ≠ [] := fun kind bs hkind hnil =>
    (isVarInt_varIntBytes hkind).ne_nil (List.append_eq_nil_iff.mp hnil).1
  cases message with
  | channelRequest message =>
    simp only [Message.wire, List.append_assoc]
    exact happend _ _ (by decide)
  | channelOpenConfirmation message => exact happend _ _ (by decide)
  | channelOpenFailure message =>
    simp only [Message.wire, List.append_assoc]
    exact happend _ _ (by decide)
  | data message =>
    simp only [Message.wire, DataOrExtendedDataMessage.wire]
    split
    · exact happend _ _ (by decide)
    · rw [List.append_assoc]
      exact happend _ _ (by decide)

/-- **Codec round trip.**  A message within the limits is encoded without a panic,
    `encoded_len` is the number of bytes appended, and the decoder reads exactly those
    bytes back in front of any tail; so the encodings of a list of such messages, one
    after the other, decode to that list. -/
theorem Message.encode_parse_roundTrip :
    (∀ message : Message, message.Encodable →
      ∃ bytes, (∀ out, message.encode out = .ok (out ++ bytes)) ∧
        message.encodedLen = .ok bytes.length ∧
        ∀ rest, Message.parse.run (bytes ++ rest) = .ok (message, rest)) ∧
    (∀ messages : List Message, (∀ message ∈ messages, message.Encodable) →
      ∃ bytes, encodeAll Message.encode messages [] = .ok bytes ∧
        readAll Message.parse bytes = .ok messages) := by
  constructor
  · intro message h
    have hc := Message.coded h
    exact ⟨message.wire, hc.encode, hc.length, hc.reads⟩
  · intro messages h
    -- one message after the other: each is read in front of the next
    refine ⟨messages.flatMap Message.wire, ?_, ?_⟩
    · exact encodeAll_eq messages (fun message hm => (Message.coded (h message hm)).encode) []
    · exact readAll_flatMap messages (fun message hm => (Message.coded (h message hm)).reads)
        (fun message _ => message.wire_ne_nil)

/-- The round trip at a message with an extended data type in front of another message. -/
theorem Message.encode_parse_roundTrip_stderr :
    (∃ bytes, (∀ out, (Message.data ⟨1, [0x68, 0x69]⟩).encode out = .ok (out ++ bytes)) ∧
      (Message.data ⟨1, [0x68, 0x69]⟩).encodedLen = .ok bytes.length ∧
      ∀ rest, Message.parse.run (bytes ++ rest) = .ok (.data ⟨1, [0x68, 0x69]⟩, rest)) ∧
    ∃ bytes, encodeAll Message.encode
        [.data ⟨1, [0x68, 0x69]⟩, .channelRequest ⟨true, .shell⟩] [] = .ok bytes ∧
      readAll Message.parse bytes =
        .ok [.data ⟨1, [0x68, 0x69]⟩, .channelRequest ⟨true, .shell⟩] := by
  have hdata : (Message.data ⟨1, [0x68, 0x69]⟩).Encodable := ⟨by decide, by decide⟩
  refine ⟨Message.encode_parse_roundTrip.1 _ hdata, Message.encode_parse_roundTrip.2 _ ?_⟩
  intro message hm
  rcases List.mem_cons.mp hm with rfl | hm
  · exact hdata
  · rw [List.mem_singleton.mp hm]
    exact trivial

end Ssh3.Proto
