/-
  Ssh3.Proto.Normalise

  Parsing and encoding again.  The decoder is lenient: it takes a number in any of
  its widths and extended data of type 0.  The encoder has one form per message.

  What is shown field by field is the range of the decoder: every value it returns
  is one the encoder takes, and its wire form is no longer than what was consumed.
-/

import Ssh3.Proto.MessageCodec

namespace Ssh3.Proto

open StreamCodec VarInt

/-! ## Fields -/

theorem yields_readVarInt :
    Yields readVarInt fun v n => v ≤ MAX_VARINT ∧ (varIntBytes v).length ≤ n := by
  intro input rest v hrun
  obtain ⟨pre, hin, hpre⟩ := readVarIntFrom_sound _ _ hrun
  exact ⟨pre, hin, UInt64.le_iff_toNat_le.mpr hpre.le_max, length_varIntBytes_le_of_isVarInt hpre⟩

theorem yields_readSshBytes :
    Yields readSshBytes fun bytes n => SshBytesOk bytes ∧ (sshBytes bytes).length ≤ n := by
  intro input rest bytes hrun
  obtain ⟨pre, hin, lengthBytes, hpre, hlen, hok⟩ := readSshBytesFrom_sound _ _ hrun
  refine ⟨pre, hin, hok, ?_⟩
  rw [← hok.toNat_length] at hlen
  have hshort := length_varIntBytes_le_of_isVarInt hlen
  rw [hpre, sshBytes, List.length_append, List.length_append]
  omega

theorem yields_readBool : Yields readBool fun _ n => n = 1 := by
  intro input rest value hrun
  obtain ⟨b, mid, hbyte, hthen⟩ := run_bind_eq_ok.mp hrun
  have hin := (readByteFrom_eq_ok _ _).mp hbyte
  refine ⟨[b], ?_, rfl⟩
  -- the byte alone decides, so nothing is consumed after it
  have hmid : mid = rest := by
    split at hthen
    · exact (run_pure_eq_ok.mp hthen).2
    · exact (run_pure_eq_ok.mp hthen).2
    · cases hthen
  rw [hin, hmid]
  rfl

theorem yields_lift {α : Type} (x : Except Error α) :
    Yields (cursorSource.lift x) fun a n => x = .ok a ∧ n = 0 := by
  intro input rest a hrun
  obtain ⟨hx, rfl⟩ := (lift_eq_ok _ _).mp hrun
  exact ⟨[], rfl, hx, rfl⟩

/-! ## Requests -/

theorem PtyRequest.yields_parse :
    Yields PtyRequest.parse fun request n => request.Encodable ∧ request.wire.length ≤ n := by
  apply yields_bind yields_readSshBytes
  rintro term n₁ ⟨hterm, h₁⟩
  apply yields_bind yields_readVarInt
  rintro charWidth n₂ ⟨hcw, h₂⟩
  apply yields_bind yields_readVarInt
  rintro charHeight n₃ ⟨hch, h₃⟩
  apply yields_bind yields_readVarInt
  rintro pixelWidth n₄ ⟨hpw, h₄⟩
  apply yields_bind yields_readVarInt
  rintro pixelHeight n₅ ⟨hph, h₅⟩
  apply yields_bind_pure yields_readSshBytes
  rintro modes n₆ ⟨hmodes, h₆⟩
  refine ⟨⟨hterm, hcw, hch, hpw, hph, hmodes⟩, ?_⟩
  simp only [PtyRequest.wire, List.length_append]
  omega

theorem X11Request.yields_parse :
    Yields X11Request.parse fun request n => request.Encodable ∧ request.wire.length ≤ n := by
  apply yields_bind yields_readBool
  intro singleConnection n₁ h₁
  apply yields_bind yields_readSshBytes
  rintro protocol n₂ ⟨hproto, h₂⟩
  apply yields_bind yields_readSshBytes
  rintro cookie n₃ ⟨hcookie, h₃⟩
  apply yields_bind_pure yields_readVarInt
  rintro screen n₄ ⟨hscreen, h₄⟩
  refine ⟨⟨hproto, hcookie, hscreen⟩, ?_⟩
  simp only [X11Request.wire, List.length_append, List.length_singleton]
  omega

theorem WindowChangeRequest.yields_parse :
    Yields WindowChangeRequest.parse
      fun request n => request.Encodable ∧ request.wire.length ≤ n := by
  apply yields_bind yields_readVarInt
  rintro charWidth n₁ ⟨hcw, h₁⟩
  apply yields_bind yields_readVarInt
  rintro charHeight n₂ ⟨hch, h₂⟩
  apply yields_bind yields_readVarInt
  rintro pixelWidth n₃ ⟨hpw, h₃⟩
  apply yields_bind_pure yields_readVarInt
  rintro pixelHeight n₄ ⟨hph, h₄⟩
  refine ⟨⟨hcw, hch, hpw, hph⟩, ?_⟩
  simp only [WindowChangeRequest.wire, List.length_append]
  omega

theorem ExitSignalRequest.yields_parse :
    Yields ExitSignalRequest.parse
      fun request n => request.Encodable ∧ request.wire.length ≤ n := by
  apply yields_bind yields_readSshBytes
  rintro name n₁ ⟨hname, h₁⟩
  apply yields_bind yields_readBool
  intro coreDumped n₂ h₂
  apply yields_bind yields_readSshBytes
  rintro message n₃ ⟨hmsg, h₃⟩
  apply yields_bind_pure yields_readSshBytes
  rintro tag n₄ ⟨htag, h₄⟩
  refine ⟨⟨hname, hmsg, htag⟩, ?_⟩
  simp only [ExitSignalRequest.wire, List.length_append, List.length_singleton]
  omega

theorem ForwardingProtocol.asU64_of_tryFrom {value : UInt64} {protocol : ForwardingProtocol}
    (h : ForwardingProtocol.tryFrom value = .ok protocol) : protocol.asU64 = value := by
  unfold ForwardingProtocol.tryFrom at h
  split at h
  · cases h
    rfl
  · cases h
    rfl
  · cases h

theorem ForwardingAddressFamily.asU64_of_tryFrom {value : UInt64}
    {family : ForwardingAddressFamily}
    (h : ForwardingAddressFamily.tryFrom value = .ok family) : family.asU64 = value := by
  unfold ForwardingAddressFamily.tryFrom at h
  split at h
  · cases h
    rfl
  · cases h
    rfl
  · cases h

theorem ForwardingAddressFamily.fromIp_ofOctets (family : ForwardingAddressFamily)
    (octets : { octets : List UInt8 // octets.length = family.octetLen }) :
    ForwardingAddressFamily.fromIp (IpAddr.ofOctets family octets) = family := by
  cases family <;> rfl

/-- The enumerations have one number per member, so only the widths of the two numbers
    can differ from what the encoder writes. -/
theorem ForwardingRequest.yields_parse :
    Yields ForwardingRequest.parse fun request n => request.wire.length ≤ n := by
  apply yields_bind yields_readVarInt
  rintro protocolNumber n₁ ⟨-, h₁⟩
  apply yields_bind (yields_lift _)
  rintro protocol n₂ ⟨hprotocol, h₂⟩
  apply yields_bind yields_readVarInt
  rintro familyNumber n₃ ⟨-, h₃⟩
  apply yields_bind (yields_lift _)
  rintro family n₄ ⟨hfamily, h₄⟩
  apply yields_bind (yields_readExact _ family.octetLen)
  intro octets n₅ h₅
  apply yields_bind_pure (yields_readExact _ 2)
  intro port n₆ h₆
  rw [← ForwardingProtocol.asU64_of_tryFrom hprotocol] at h₁
  rw [← ForwardingAddressFamily.asU64_of_tryFrom hfamily] at h₃
  have hport : (toBeBytes (fromBeBytes port)).length = 2 := rfl
  simp only [ForwardingRequest.wire, List.length_append, IpAddr.octets_length,
    ForwardingAddressFamily.fromIp_ofOctets, hport]
  omega

/-! ## Messages -/

/-- The decoder chosen by a type string returns a request of that type. -/
theorem ChannelRequest.yields_parse (requestType : List UInt8) :
    Yields (ChannelRequest.parse requestType) fun request n =>
      request.requestType = requestType ∧ request.Encodable ∧ request.wire.length ≤ n := by
  unfold ChannelRequest.parse
  by_cases hpty : requestType = ascii "pty-req"
  · rw [if_pos hpty]
    exact yields_bind_pure PtyRequest.yields_parse fun request n h => ⟨hpty.symm, h⟩
  rw [if_neg hpty]
  by_cases hx11 : requestType = ascii "x11-req"
  · rw [if_pos hx11]
    exact yields_bind_pure X11Request.yields_parse fun request n h => ⟨hx11.symm, h⟩
  rw [if_neg hx11]
  by_cases hshell : requestType = ascii "shell"
  · rw [if_pos hshell]
    exact yields_pure ⟨hshell.symm, trivial, Nat.le_refl 0⟩
  rw [if_neg hshell]
  by_cases hexec : requestType = ascii "exec"
  · rw [if_pos hexec]
    exact yields_bind_pure (yields_bind_pure yields_readSshBytes fun command n h => h)
      fun (request : ExecRequest) n h => ⟨hexec.symm, h⟩
  rw [if_neg hexec]
  by_cases hsubsystem : requestType = ascii "subsystem"
  · rw [if_pos hsubsystem]
    exact yields_bind_pure (yields_bind_pure yields_readSshBytes fun name n h => h)
      fun (request : SubsystemRequest) n h => ⟨hsubsystem.symm, h⟩
  rw [if_neg hsubsystem]
  by_cases hwindow : requestType = ascii "window-change"
  · rw [if_pos hwindow]
    exact yields_bind_pure WindowChangeRequest.yields_parse fun request n h => ⟨hwindow.symm, h⟩
  rw [if_neg hwindow]
  by_cases hsignal : requestType = ascii "signal"
  · rw [if_pos hsignal]
    exact yields_bind_pure (yields_bind_pure yields_readSshBytes fun name n h => h)
      fun (request : SignalRequest) n h => ⟨hsignal.symm, h⟩
  rw [if_neg hsignal]
  by_cases hstatus : requestType = ascii "exit-status"
  · rw [if_pos hstatus]
    exact yields_bind_pure (yields_bind_pure yields_readVarInt fun status n h => h)
      fun (request : ExitStatusRequest) n h => ⟨hstatus.symm, h⟩
  rw [if_neg hstatus]
  by_cases hexit : requestType = ascii "exit-signal"
  · rw [if_pos hexit]
    exact yields_bind_pure ExitSignalRequest.yields_parse fun request n h => ⟨hexit.symm, h⟩
  rw [if_neg hexit]
  by_cases hforward : requestType = ascii "forward-port"
  · rw [if_pos hforward]
    exact yields_bind_pure ForwardingRequest.yields_parse
      fun request n h => ⟨hforward.symm, trivial, h⟩
  rw [if_neg hforward]
  exact yields_throw

theorem ChannelRequestMessage.yields_parsePayload :
    Yields ChannelRequestMessage.parsePayload fun message n =>
      (Message.channelRequest message).Encodable ∧
        (Message.channelRequest message).wire.length ≤
          (varIntBytes SSH_MSG_CHANNEL_REQUEST).length + n := by
  apply yields_bind yields_readSshBytes
  rintro requestType n₁ ⟨-, h₁⟩
  apply yields_bind yields_readBool
  intro wantReply n₂ h₂
  apply yields_bind_pure (ChannelRequest.yields_parse requestType)
  rintro request n₃ ⟨rfl, hok, h₃⟩
  refine ⟨hok, ?_⟩
  simp only [Message.wire, List.length_append, List.length_singleton]
  omega

theorem ChannelOpenConfirmationMessage.yields_parsePayload :
    Yields ChannelOpenConfirmationMessage.parsePayload fun message n =>
      (Message.channelOpenConfirmation message).Encodable ∧
        (Message.channelOpenConfirmation message).wire.length ≤
          (varIntBytes SSH_MSG_CHANNEL_OPEN_CONFIRMATION).length + n := by
  apply yields_bind_pure yields_readVarInt
  rintro maxPacketSize n ⟨hmax, h⟩
  refine ⟨hmax, ?_⟩
  simp only [Message.wire, List.length_append]
  omega

theorem ChannelOpenFailureMessage.yields_parsePayload :
    Yields ChannelOpenFailureMessage.parsePayload fun message n =>
      (Message.channelOpenFailure message).Encodable ∧
        (Message.channelOpenFailure message).wire.length ≤
          (varIntBytes SSH_MSG_CHANNEL_OPEN_FAILURE).length + n := by
  apply yields_bind yields_readVarInt
  rintro reasonCode n₁ ⟨hreason, h₁⟩
  apply yields_bind yields_readSshBytes
  rintro errorMessage n₂ ⟨hmsg, h₂⟩
  apply yields_bind_pure yields_readSshBytes
  rintro tag n₃ ⟨htag, h₃⟩
  refine ⟨⟨hreason, hmsg, htag⟩, ?_⟩
  simp only [Message.wire, List.length_append]
  omega

theorem DataOrExtendedDataMessage.yields_parseDataPayload :
    Yields DataOrExtendedDataMessage.parseDataPayload fun message n =>
      message.Encodable ∧ message.wire.length ≤ (varIntBytes SSH_MSG_CHANNEL_DATA).length + n := by
  apply yields_bind_pure yields_readSshBytes
  rintro data n ⟨hdata, h⟩
  have htype : SSH_EXTENDED_DATA_NONE ≤ MAX_VARINT := by decide
  refine ⟨⟨htype, hdata⟩, ?_⟩
  simp only [DataOrExtendedDataMessage.wire, if_true, List.length_append]
  omega

/-- Extended data of type 0 is accepted and has the short form of plain data on the way
    back. -/
theorem DataOrExtendedDataMessage.yields_parseExtendedPayload :
    Yields DataOrExtendedDataMessage.parseExtendedPayload fun message n =>
      message.Encodable ∧
        message.wire.length ≤ (varIntBytes SSH_MSG_CHANNEL_EXTENDED_DATA).length + n := by
  apply yields_bind yields_readVarInt
  rintro dataType n₁ ⟨htype, h₁⟩
  apply yields_bind_pure yields_readSshBytes
  rintro data n₂ ⟨hdata, h₂⟩
  refine ⟨⟨htype, hdata⟩, ?_⟩
  -- the two kinds have the same width
  have hkinds : (varIntBytes SSH_MSG_CHANNEL_DATA).length =
      (varIntBytes SSH_MSG_CHANNEL_EXTENDED_DATA).length := by decide
  simp only [DataOrExtendedDataMessage.wire]
  split
  · rw [List.length_append]
    omega
  · rw [List.length_append, List.length_append]
    omega

/-- The range of the decoder lies within the domain of the encoder, and no message is
    longer than what it was parsed from. -/
theorem Message.yields_parse :
    Yields Message.parse fun message n => message.Encodable ∧ message.wire.length ≤ n := by
  apply yields_bind yields_readVarInt
  rintro kind n ⟨-, hkind⟩
  by_cases hrequest : kind = SSH_MSG_CHANNEL_REQUEST
  · rw [if_pos hrequest]
    apply yields_bind_pure ChannelRequestMessage.yields_parsePayload
    rintro message m ⟨hok, h⟩
    exact ⟨hok, by subst hrequest; omega⟩
  rw [if_neg hrequest]
  by_cases hconfirmation : kind = SSH_MSG_CHANNEL_OPEN_CONFIRMATION
  · rw [if_pos hconfirmation]
    apply yields_bind_pure ChannelOpenConfirmationMessage.yields_parsePayload
    rintro message m ⟨hok, h⟩
    exact ⟨hok, by subst hconfirmation; omega⟩
  rw [if_neg hconfirmation]
  by_cases hfailure : kind = SSH_MSG_CHANNEL_OPEN_FAILURE
  · rw [if_pos hfailure]
    apply yields_bind_pure ChannelOpenFailureMessage.yields_parsePayload
    rintro message m ⟨hok, h⟩
    exact ⟨hok, by subst hfailure; omega⟩
  rw [if_neg hfailure]
  by_cases hdata : kind = SSH_MSG_CHANNEL_DATA
  · rw [if_pos hdata]
    apply yields_bind_pure DataOrExtendedDataMessage.yields_parseDataPayload
    rintro message m ⟨hok, h⟩
    exact ⟨hok, by subst hdata; exact Nat.le_trans h (Nat.add_le_add_right hkind m)⟩
  rw [if_neg hdata]
  by_cases hextended : kind = SSH_MSG_CHANNEL_EXTENDED_DATA
  · rw [if_pos hextended]
    apply yields_bind_pure DataOrExtendedDataMessage.yields_parseExtendedPayload
    rintro message m ⟨hok, h⟩
    exact ⟨hok, by subst hextended; exact Nat.le_trans h (Nat.add_le_add_right hkind m)⟩
  rw [if_neg hextended]
  exact yields_throw

/-- **Normal form.**  Whatever bytes a message was parsed from, encoding it again does not
    panic, takes no more bytes than were consumed, as `encoded_len` announces, and
    parses to the same message in front of any tail.  Numbers in any width and extended
    data of type 0 are among what is parsed: the latter comes back as plain data. -/
theorem Message.parse_encode_normalises :
    (∀ (input rest : List UInt8) (message : Message),
      Message.parse.run input = .ok (message, rest) →
        ∃ consumed bytes, input = consumed ++ rest ∧
          (∀ out, message.encode out = .ok (out ++ bytes)) ∧ message.toVec = .ok bytes ∧
          message.encodedLen = .ok bytes.length ∧ bytes.length ≤ consumed.length ∧
          ∀ tail, Message.parse.run (bytes ++ tail) = .ok (message, tail)) ∧
    (∀ kind dataType payload data : List UInt8,
      IsVarInt kind SSH_MSG_CHANNEL_EXTENDED_DATA.toNat → IsVarInt dataType 0 →
      IsSshBytes payload data →
        (∀ rest, Message.parse.run (kind ++ dataType ++ payload ++ rest) =
          .ok (.data ⟨SSH_EXTENDED_DATA_NONE, data⟩, rest)) ∧
        (Message.data ⟨SSH_EXTENDED_DATA_NONE, data⟩).toVec =
          .ok (varIntBytes SSH_MSG_CHANNEL_DATA ++ sshBytes data)) := by
  have hencode : ∀ message : Message, message.Encodable → message.toVec = .ok message.wire := by
    intro message hok
    have hcoded := Message.coded hok
    rw [Message.toVec, hcoded.length, ok_bind, hcoded.encode, List.nil_append]
  constructor
  · intro input rest message hrun
    obtain ⟨consumed, hin, hok, hle⟩ := Message.yields_parse hrun
    have hcoded := Message.coded hok
    exact ⟨consumed, message.wire, hin, hcoded.encode, hencode message hok, hcoded.length, hle,
      hcoded.reads⟩
  · intro kind dataType payload data hkind htype hpayload
    constructor
    · have hread : Reads Message.parse (kind ++ (dataType ++ payload))
          (.data ⟨SSH_EXTENDED_DATA_NONE, data⟩) := by
        apply reads_bind (reads_readVarIntFrom _ _ hkind)
        apply reads_bind_pure (f := Message.data)
        apply reads_bind (reads_readVarIntFrom _ _ (v := SSH_EXTENDED_DATA_NONE) htype)
        exact reads_bind_pure (f := DataOrExtendedDataMessage.mk SSH_EXTENDED_DATA_NONE)
          (reads_readSshBytesFrom _ _ hpayload)
      intro rest
      rw [List.append_assoc kind dataType payload]
      exact hread rest
    · obtain ⟨-, -, -, hdata⟩ := hpayload
      have hzero : SSH_EXTENDED_DATA_NONE ≤ MAX_VARINT := by decide
      exact hencode (.data ⟨SSH_EXTENDED_DATA_NONE, data⟩) ⟨hzero, hdata⟩

/-- Type 0 and the length 1, both in two bytes, behind a kind in two bytes: seven bytes
    are consumed and four are written. -/
theorem Message.parse_encode_normalises_wide :
    Message.parse.run [0x40, 95, 0x40, 0, 0x40, 1, 7] = .ok (.data ⟨0, [7]⟩, []) ∧
    (∃ consumed bytes : List UInt8, [0x40, 95, 0x40, 0, 0x40, 1, 7] = consumed ++ [] ∧
      (∀ out, (Message.data ⟨0, [7]⟩).encode out = .ok (out ++ bytes)) ∧
      (Message.data ⟨0, [7]⟩).toVec = .ok bytes ∧
      (Message.data ⟨0, [7]⟩).encodedLen = .ok bytes.length ∧ bytes.length ≤ consumed.length ∧
      ∀ tail, Message.parse.run (bytes ++ tail) = .ok (.data ⟨0, [7]⟩, tail)) ∧
    (Message.data ⟨0, [7]⟩).toVec = .ok [0x40, 94, 1, 7] := by
  have hrun : Message.parse.run [0x40, 95, 0x40, 0, 0x40, 1, 7] = .ok (.data ⟨0, [7]⟩, []) := by
    rfl
  have hkind : IsVarInt [0x40, 95] 95 := isVarInt_two rfl
  have htype : IsVarInt [0x40, 0] 0 := isVarInt_two rfl
  have hlength : IsVarInt [0x40, 1] 1 := isVarInt_two rfl
  have hpayload : IsSshBytes [0x40, 1, 7] [7] := ⟨[0x40, 1], rfl, hlength, by decide⟩
  have hshort := Message.parse_encode_normalises.2 [0x40, 95] [0x40, 0] [0x40, 1, 7] [7]
    hkind htype hpayload
  exact ⟨hrun, Message.parse_encode_normalises.1 _ _ _ hrun, hshort.2⟩

end Ssh3.Proto
