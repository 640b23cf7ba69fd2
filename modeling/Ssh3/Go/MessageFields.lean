/-
  Ssh3.Go.MessageFields

  A Go message as the list of its fields, with their values, in the order in which `Write`
  puts them into the slice and `ParseMessage` reads them.

  `Length` and `Write` are about the fields alone: `Length` panics if one of them does not
  fit into a varint, and otherwise `Write` fills a slice of `Length` bytes with one field
  after the other.  A forwarding request has fields up to `wantReply`; what its `Write` puts
  behind them is not a list of fields.
-/

import Ssh3.Go.MessageSpec
import Ssh3.Proto.MessageCodec

namespace Ssh3.Go

open Fallible
open StreamCodec (ok_bind bind_eq_ok)
open Proto (MAX_VARINT SshBytesOk varIntBytes sshBytes messageKind_le
  PtyRequest X11Request WindowChangeRequest ExitSignalRequest ChannelOpenConfirmationMessage
  ChannelOpenFailureMessage DataOrExtendedDataMessage SSH_MSG_CHANNEL_REQUEST
  SSH_MSG_CHANNEL_OPEN_CONFIRMATION SSH_MSG_CHANNEL_OPEN_FAILURE SSH_MSG_CHANNEL_DATA
  SSH_MSG_CHANNEL_EXTENDED_DATA SSH_EXTENDED_DATA_NONE)

/-- A field of a message -/
inductive FieldValue where
  | number (value : UInt64)
  | string (bytes : List UInt8)
  | boolean (value : Bool)
  deriving DecidableEq, Repr

def FieldValue.wire : FieldValue → List UInt8
  | .number value => varIntBytes value
  | .string bytes => sshBytes bytes
  | .boolean value => [value.toUInt8]

/-- The number, or the length of the string, is a varint. -/
def FieldValue.Writable : FieldValue → Prop
  | .number value => value ≤ MAX_VARINT
  | .string bytes => bytes.length ≤ MAX_VARINT.toNat
  | .boolean _ => True

def Writable : List FieldValue → Prop
  | [] => True
  | field :: fields => field.Writable ∧ Writable fields

def wire (fields : List FieldValue) : List UInt8 := fields.flatMap FieldValue.wire

@[simp] theorem wire_nil : wire [] = [] := rfl

@[simp] theorem wire_cons (field : FieldValue) (fields : List FieldValue) :
    wire (field :: fields) = field.wire ++ wire fields := rfl

/-! ## The fields of a message -/

def ptyFields (r : PtyRequest) : List FieldValue :=
  [.string r.term, .number r.charWidth, .number r.charHeight, .number r.pixelWidth,
    .number r.pixelHeight, .string r.encodedTerminalModes]

def x11Fields (r : X11Request) : List FieldValue :=
  [.boolean r.singleConnection, .string r.x11AuthenticationProtocol,
    .string r.x11AuthenticationCookie, .number r.x11ScreenNumber]

def windowChangeFields (r : WindowChangeRequest) : List FieldValue :=
  [.number r.charWidth, .number r.charHeight, .number r.pixelWidth, .number r.pixelHeight]

def exitSignalFields (r : ExitSignalRequest) : List FieldValue :=
  [.string r.signalNameWithoutSig, .boolean r.coreDumped, .string r.errorMessageUtf8,
    .string r.languageTag]

def ChannelRequest.fields : ChannelRequest → List FieldValue
  | .pty r => ptyFields r
  | .x11 r => x11Fields r
  | .shell => []
  | .exec r => [.string r.command]
  | .subsystem r => [.string r.subsystemName]
  | .windowChange r => windowChangeFields r
  | .signal r => [.string r.signalNameWithoutSig]
  | .exitStatus r => [.number r.exitStatus]
  | .exitSignal r => exitSignalFields r
  | .forwarding _ => []

def dataFields (m : DataOrExtendedDataMessage) : List FieldValue :=
  if m.dataType = SSH_EXTENDED_DATA_NONE then [.number SSH_MSG_CHANNEL_DATA, .string m.data]
  else [.number SSH_MSG_CHANNEL_EXTENDED_DATA, .number m.dataType, .string m.data]

def Message.fields : Message → List FieldValue
  | .channelRequest ⟨_, none⟩ => []
  | .channelRequest ⟨wantReply, some request⟩ =>
    .number SSH_MSG_CHANNEL_REQUEST :: .string request.requestTypeStr :: .boolean wantReply ::
      request.fields
  | .channelOpenConfirmation m =>
    [.number SSH_MSG_CHANNEL_OPEN_CONFIRMATION, .number m.maxPacketSize]
  | .channelOpenFailure m =>
    [.number SSH_MSG_CHANNEL_OPEN_FAILURE, .number m.reasonCode, .string m.errorMessageUtf8,
      .string m.languageTag]
  | .data m => dataFields m

/-- A request for port forwarding -/
def Message.isForwarding : Message → Bool
  | .channelRequest ⟨_, some (.forwarding _)⟩ => true
  | _ => false

/-! ## Lengths and bytes -/

/-- `Length` and `Write` agree about `wire`. -/
structure Codes (length : Except GoPanic Nat) (w : BufWriter Unit) (wire : List UInt8) : Prop where
  length : length = .ok wire.length
  writes : Writes w wire

/-- A writer that checks the length of the slice first. -/
theorem codes_checked {length : Except GoPanic Nat} {err : Nat → Nat → GoError}
    {k : Unit → BufWriter Unit} {wire : List UInt8} (hlength : length = .ok wire.length)
    (hwrites : Writes (k ()) wire) : Codes length (checkLength length err >>= k) wire :=
  ⟨hlength, writes_checkLength hlength (Nat.le_refl _) hwrites⟩

theorem appendVarInts_eq {attrs : List UInt64} (h : ∀ attr ∈ attrs, attr ≤ MAX_VARINT) :
    appendVarInts attrs = .ok (attrs.flatMap varIntBytes) := by
  have hfold : ∀ b, attrs.foldlM appendVarInt b = .ok (b ++ attrs.flatMap varIntBytes) := by
    induction attrs with
    | nil =>
      intro b
      rw [List.flatMap_nil, List.append_nil]
      rfl
    | cons attr attrs ih =>
      intro b
      rw [List.foldlM_cons, appendVarInt_eq (h attr (List.mem_cons_self ..)), ok_bind,
        ih (fun a ha => h a (List.mem_cons_of_mem _ ha)), List.flatMap_cons, List.append_assoc]
  exact hfold []

variable {s : List UInt8} {request : ChannelRequest}

theorem FieldValue.length_le_of_writable (h : (FieldValue.string s).Writable) :
    UInt64.ofNat s.length ≤ MAX_VARINT :=
  Proto.ofNat_length_le (Nat.lt_succ_of_le h)

theorem codes_string (h : (FieldValue.string s).Writable) :
    Codes (sshStringLen s) (writeSSHString s) (sshBytes s) :=
  ⟨sshStringLen_eq (FieldValue.length_le_of_writable h),
    writes_writeSSHString (FieldValue.length_le_of_writable h)⟩

/-- A request that is one string -/
theorem codes_stringField (h : Writable [.string s]) :
    Codes (sshStringLen s) (writeSSHString s) (wire [.string s]) := by
  rw [wire_cons, wire_nil, List.append_nil]
  exact codes_string h.1

theorem codes_pty {r : PtyRequest} (h : Writable (ptyFields r)) :
    Codes (ptyLength r) (writePty r) (wire (ptyFields r)) := by
  obtain ⟨hterm, hcw, hch, hpw, hph, hmodes, -⟩ := h
  have hterm := codes_string hterm
  have hmodes := codes_string hmodes
  refine codes_checked ?_ ?_
  · simp only [ptyLength, ptyFields, wire_cons, wire_nil, FieldValue.wire, hterm.length,
      varIntLen_eq hcw, varIntLen_eq hch, varIntLen_eq hpw, varIntLen_eq hph, hmodes.length,
      ok_bind, List.length_append, List.length_nil, Nat.add_zero, ← Nat.add_assoc]
    rfl
  · -- the four numbers are appended to one buffer before they are copied
    have hwire : wire (ptyFields r) = sshBytes r.term ++
        ([r.charWidth, r.charHeight, r.pixelWidth, r.pixelHeight].flatMap varIntBytes ++
          sshBytes r.encodedTerminalModes) := by
      simp [ptyFields, FieldValue.wire]
    rw [hwire]
    refine writes_bind hterm.writes ?_
    refine writes_orPanic (appendVarInts_eq ?_) (writes_bind (writes_copy _) hmodes.writes)
    exact List.forall_mem_cons.mpr ⟨hcw, List.forall_mem_cons.mpr
      ⟨hch, List.forall_mem_cons.mpr ⟨hpw, List.forall_mem_singleton.mpr hph⟩⟩⟩

theorem codes_x11 {r : X11Request} (h : Writable (x11Fields r)) :
    Codes (x11Length r) (writeX11 r) (wire (x11Fields r)) := by
  obtain ⟨-, hproto, hcookie, hscreen, -⟩ := h
  have hproto := codes_string hproto
  have hcookie := codes_string hcookie
  refine codes_checked ?_ ?_
  · simp only [x11Length, x11Fields, wire_cons, wire_nil, FieldValue.wire, hproto.length,
      hcookie.length, varIntLen_eq hscreen, ok_bind, List.length_append, List.length_cons,
      List.length_nil, Nat.add_zero, Nat.zero_add, ← Nat.add_assoc]
    rfl
  · simp only [x11Fields, wire_cons, wire_nil, FieldValue.wire, List.append_nil]
    refine writes_bind (writes_putBool r.singleConnection) ?_
    refine writes_bind hproto.writes ?_
    exact writes_bind hcookie.writes (writes_copyVarInt hscreen)

theorem codes_windowChange {r : WindowChangeRequest} (h : Writable (windowChangeFields r)) :
    Codes (windowChangeLength r) (writeWindowChange r) (wire (windowChangeFields r)) := by
  obtain ⟨hcw, hch, hpw, hph, -⟩ := h
  refine codes_checked ?_ ?_
  · simp only [windowChangeLength, windowChangeFields, wire_cons, wire_nil, FieldValue.wire,
      varIntLen_eq hcw, varIntLen_eq hch, varIntLen_eq hpw, varIntLen_eq hph, ok_bind,
      List.length_append, List.length_nil, Nat.add_zero, ← Nat.add_assoc]
    rfl
  · have hwire : wire (windowChangeFields r) =
        [r.charWidth, r.charHeight, r.pixelWidth, r.pixelHeight].flatMap varIntBytes := by
      simp [windowChangeFields, FieldValue.wire]
    rw [hwire]
    refine writes_orPanic (appendVarInts_eq ?_) (writes_copy _)
    exact List.forall_mem_cons.mpr ⟨hcw, List.forall_mem_cons.mpr
      ⟨hch, List.forall_mem_cons.mpr ⟨hpw, List.forall_mem_singleton.mpr hph⟩⟩⟩

theorem codes_exitSignal {r : ExitSignalRequest} (h : Writable (exitSignalFields r)) :
    Codes (exitSignalLength r) (writeExitSignal r) (wire (exitSignalFields r)) := by
  obtain ⟨hname, -, hmsg, htag, -⟩ := h
  have hname := codes_string hname
  have hmsg := codes_string hmsg
  have htag := codes_string htag
  refine codes_checked ?_ ?_
  · simp only [exitSignalLength, exitSignalFields, wire_cons, wire_nil, FieldValue.wire,
      hname.length, hmsg.length, htag.length, ok_bind, List.length_append, List.length_cons,
      List.length_nil, Nat.add_zero, Nat.zero_add, ← Nat.add_assoc]
    rfl
  · simp only [exitSignalFields, wire_cons, wire_nil, FieldValue.wire, List.append_nil]
    refine writes_bind hname.writes ?_
    refine writes_bind (writes_putBool r.coreDumped) ?_
    exact writes_bind hmsg.writes htag.writes

theorem codes_request (h : Writable request.fields) (hforward : ∀ r, request ≠ .forwarding r) :
    Codes request.length request.write (wire request.fields) := by
  cases request with
  | pty r => exact codes_pty h
  | x11 r => exact codes_x11 h
  | shell => exact ⟨rfl, fun buf _ => by rw [ChannelRequest.fields, wire_nil, List.append_nil]; rfl⟩
  | exec r => exact codes_stringField h
  | subsystem r => exact codes_stringField h
  | windowChange r => exact codes_windowChange h
  | signal r => exact codes_stringField h
  | exitStatus r =>
    rw [ChannelRequest.fields, wire_cons, wire_nil, List.append_nil]
    exact codes_checked (varIntLen_eq h.1) (writes_copyVarInt h.1)
  | exitSignal r => exact codes_exitSignal h
  | forwarding r => exact absurd rfl (hforward r)

theorem codes_channelOpenConfirmation {m : ChannelOpenConfirmationMessage}
    (h : Writable (Message.channelOpenConfirmation m).fields) :
    Codes (channelOpenConfirmationLength m) (writeChannelOpenConfirmation m)
      (wire (Message.channelOpenConfirmation m).fields) := by
  obtain ⟨hkind, hsize, -⟩ := h
  have hwire : wire (Message.channelOpenConfirmation m).fields =
      [SSH_MSG_CHANNEL_OPEN_CONFIRMATION, m.maxPacketSize].flatMap varIntBytes := by
    simp [Message.fields, FieldValue.wire]
  constructor
  · simp only [channelOpenConfirmationLength, Message.fields, wire_cons, wire_nil, FieldValue.wire,
      varIntLen_eq hkind, varIntLen_eq hsize, ok_bind, List.length_append, List.length_nil,
      Nat.add_zero]
    rfl
  · rw [hwire]
    refine writes_orPanic (appendVarInts_eq ?_) (writes_copy _)
    exact List.forall_mem_cons.mpr ⟨hkind, List.forall_mem_singleton.mpr hsize⟩

theorem codes_channelOpenFailure {m : ChannelOpenFailureMessage}
    (h : Writable (Message.channelOpenFailure m).fields) :
    Codes (channelOpenFailureLength m) (writeChannelOpenFailure m)
      (wire (Message.channelOpenFailure m).fields) := by
  obtain ⟨hkind, hreason, hmsg, htag, -⟩ := h
  have hmsg := codes_string hmsg
  have htag := codes_string htag
  have hwire : wire (Message.channelOpenFailure m).fields =
      [SSH_MSG_CHANNEL_OPEN_FAILURE, m.reasonCode].flatMap varIntBytes ++
        (sshBytes m.errorMessageUtf8 ++ sshBytes m.languageTag) := by
    simp [Message.fields, FieldValue.wire]
  refine codes_checked ?_ ?_
  · simp only [channelOpenFailureLength, Message.fields, wire_cons, wire_nil, FieldValue.wire,
      varIntLen_eq hkind, varIntLen_eq hreason, hmsg.length, htag.length, ok_bind,
      List.length_append, List.length_nil, Nat.add_zero, ← Nat.add_assoc]
    rfl
  · rw [hwire]
    refine writes_orPanic (appendVarInts_eq ?_) ?_
    · exact List.forall_mem_cons.mpr ⟨hkind, List.forall_mem_singleton.mpr hreason⟩
    · exact writes_bind (writes_copy _) (writes_bind hmsg.writes htag.writes)

theorem codes_dataFields {m : DataOrExtendedDataMessage} (h : Writable (dataFields m)) :
    Codes (dataLength m) (writeData m) (wire (dataFields m)) := by
  unfold dataLength writeData dataFields at *
  -- the short form is for the data type 0
  by_cases h0 : m.dataType = SSH_EXTENDED_DATA_NONE
  · simp only [if_pos h0, wire_cons, wire_nil, FieldValue.wire, List.append_nil] at h ⊢
    obtain ⟨hkind, hdata, -⟩ := h
    have hdata := codes_string hdata
    constructor
    · simp only [varIntLen_eq hkind, hdata.length, ok_bind, List.length_append]
      rfl
    · exact writes_bind (writes_copyVarInt hkind) hdata.writes
  · simp only [if_neg h0, wire_cons, wire_nil, FieldValue.wire, List.append_nil] at h ⊢
    obtain ⟨hkind, htype, hdata, -⟩ := h
    have hdata := codes_string hdata
    constructor
    · simp only [varIntLen_eq hkind, varIntLen_eq htype, hdata.length, ok_bind,
        List.length_append, ← Nat.add_assoc]
      rfl
    · refine writes_bind (writes_copyVarInt hkind) ?_
      exact writes_bind (writes_copyVarInt htype) hdata.writes

theorem codes_channelRequest {wantReply : Bool}
    (h : Writable (Message.channelRequest ⟨wantReply, some request⟩).fields)
    (hforward : ∀ r, request ≠ .forwarding r) :
    Codes (ChannelRequestMessage.mk wantReply (some request)).length
      (ChannelRequestMessage.mk wantReply (some request)).write
      (wire (Message.channelRequest ⟨wantReply, some request⟩).fields) := by
  obtain ⟨hkind, htype, -, hfields⟩ := h
  have htype := codes_string htype
  have hrequest := codes_request hfields hforward
  refine codes_checked ?_ ?_
  · simp only [ChannelRequestMessage.length, Message.fields, wire_cons, FieldValue.wire,
      varIntLen_eq hkind, htype.length, hrequest.length, ok_bind, List.length_append,
      List.length_cons, List.length_nil, Nat.zero_add, ← Nat.add_assoc]
    rfl
  · simp only [Message.fields, wire_cons, FieldValue.wire]
    refine writes_bind (writes_copyVarInt hkind) ?_
    refine writes_bind htype.writes ?_
    exact writes_bind (writes_putBool wantReply) hrequest.writes

/-! ## What `Length` accepts -/

def FieldValue.length : FieldValue → Except GoPanic Nat
  | .number value => varIntLen value
  | .string bytes => sshStringLen bytes
  | .boolean _ => .ok 1

theorem le_of_varIntLen {i : UInt64} {n : Nat} (h : varIntLen i = .ok n) : i ≤ MAX_VARINT := by
  unfold varIntLen at h
  split_ifs at h with h1 h2 h4 h8
  · exact UInt64.le_trans h1 (by decide)
  · exact UInt64.le_trans h2 (by decide)
  · exact UInt64.le_trans h4 (by decide)
  · exact h8

/-- `Length` is an `int`, so no string of a message is longer. -/
theorem FieldValue.writable_of_length {field : FieldValue} {n : Nat} (h : field.length = .ok n)
    (hn : n < 2 ^ 63) : field.Writable := by
  cases field with
  | number value => exact le_of_varIntLen h
  | string bytes =>
    obtain ⟨size, hsize, hsum⟩ := bind_eq_ok.mp h
    cases hsum
    have hle := UInt64.le_iff_toNat_le.mp (le_of_varIntLen hsize)
    have hto : (UInt64.ofNat bytes.length).toNat = bytes.length :=
      UInt64.toNat_ofNat_of_lt (Nat.lt_trans (by omega : bytes.length < 2 ^ 63) (by decide))
    rwa [hto] at hle
  | boolean value => trivial

section Lengths

variable {n : Nat}

theorem writable_pty {r : PtyRequest} (h : ptyLength r = .ok n) (hn : n < 2 ^ 63) :
    Writable (ptyFields r) := by
  unfold ptyLength at h
  obtain ⟨term, hterm, h⟩ := bind_eq_ok.mp h
  obtain ⟨cw, hcw, h⟩ := bind_eq_ok.mp h
  obtain ⟨ch, hch, h⟩ := bind_eq_ok.mp h
  obtain ⟨pw, hpw, h⟩ := bind_eq_ok.mp h
  obtain ⟨ph, hph, h⟩ := bind_eq_ok.mp h
  obtain ⟨modes, hmodes, h⟩ := bind_eq_ok.mp h
  cases h
  exact ⟨FieldValue.writable_of_length hterm (by omega), le_of_varIntLen hcw, le_of_varIntLen hch,
    le_of_varIntLen hpw, le_of_varIntLen hph, FieldValue.writable_of_length hmodes (by omega),
    trivial⟩

theorem writable_x11 {r : X11Request} (h : x11Length r = .ok n) (hn : n < 2 ^ 63) :
    Writable (x11Fields r) := by
  unfold x11Length at h
  obtain ⟨proto, hproto, h⟩ := bind_eq_ok.mp h
  obtain ⟨cookie, hcookie, h⟩ := bind_eq_ok.mp h
  obtain ⟨screen, hscreen, h⟩ := bind_eq_ok.mp h
  cases h
  exact ⟨trivial, FieldValue.writable_of_length hproto (by omega),
    FieldValue.writable_of_length hcookie (by omega), le_of_varIntLen hscreen, trivial⟩

theorem writable_windowChange {r : WindowChangeRequest} (h : windowChangeLength r = .ok n) :
    Writable (windowChangeFields r) := by
  unfold windowChangeLength at h
  obtain ⟨cw, hcw, h⟩ := bind_eq_ok.mp h
  obtain ⟨ch, hch, h⟩ := bind_eq_ok.mp h
  obtain ⟨pw, hpw, h⟩ := bind_eq_ok.mp h
  obtain ⟨ph, hph, -⟩ := bind_eq_ok.mp h
  exact ⟨le_of_varIntLen hcw, le_of_varIntLen hch, le_of_varIntLen hpw, le_of_varIntLen hph,
    trivial⟩

theorem writable_exitSignal {r : ExitSignalRequest} (h : exitSignalLength r = .ok n)
    (hn : n < 2 ^ 63) : Writable (exitSignalFields r) := by
  unfold exitSignalLength at h
  obtain ⟨name, hname, h⟩ := bind_eq_ok.mp h
  obtain ⟨msg, hmsg, h⟩ := bind_eq_ok.mp h
  obtain ⟨tag, htag, h⟩ := bind_eq_ok.mp h
  cases h
  exact ⟨FieldValue.writable_of_length hname (by omega), trivial,
    FieldValue.writable_of_length hmsg (by omega), FieldValue.writable_of_length htag (by omega),
    trivial⟩

theorem writable_request {request : ChannelRequest} (h : request.length = .ok n)
    (hn : n < 2 ^ 63) : Writable request.fields := by
  cases request with
  | pty r => exact writable_pty h hn
  | x11 r => exact writable_x11 h hn
  | shell => trivial
  | exec r => exact ⟨FieldValue.writable_of_length h hn, trivial⟩
  | subsystem r => exact ⟨FieldValue.writable_of_length h hn, trivial⟩
  | windowChange r => exact writable_windowChange h
  | signal r => exact ⟨FieldValue.writable_of_length h hn, trivial⟩
  | exitStatus r => exact ⟨le_of_varIntLen h, trivial⟩
  | exitSignal r => exact writable_exitSignal h hn
  | forwarding r => trivial

theorem writable_data {m : DataOrExtendedDataMessage} (h : dataLength m = .ok n)
    (hn : n < 2 ^ 63) : Writable (dataFields m) := by
  unfold dataLength at h
  unfold dataFields
  split_ifs at h ⊢ with h0
  · obtain ⟨kind, hkind, h⟩ := bind_eq_ok.mp h
    obtain ⟨data, hdata, h⟩ := bind_eq_ok.mp h
    cases h
    exact ⟨le_of_varIntLen hkind, FieldValue.writable_of_length hdata (by omega), trivial⟩
  · obtain ⟨kind, hkind, h⟩ := bind_eq_ok.mp h
    obtain ⟨type, htype, h⟩ := bind_eq_ok.mp h
    obtain ⟨data, hdata, h⟩ := bind_eq_ok.mp h
    cases h
    exact ⟨le_of_varIntLen hkind, le_of_varIntLen htype,
      FieldValue.writable_of_length hdata (by omega), trivial⟩

/-- A message that has a length has fields that are varints. -/
theorem writable_message {m : Message} (h : m.length = .ok n) (hn : n < 2 ^ 63) :
    Writable m.fields := by
  cases m with
  | channelRequest m =>
    obtain ⟨wantReply, request⟩ := m
    cases request with
    | none => trivial
    | some request =>
      obtain ⟨kind, hkind, h⟩ := bind_eq_ok.mp h
      obtain ⟨type, htype, h⟩ := bind_eq_ok.mp h
      obtain ⟨body, hbody, h⟩ := bind_eq_ok.mp h
      cases h
      exact ⟨le_of_varIntLen hkind, FieldValue.writable_of_length htype (by omega), trivial,
        writable_request hbody (by omega)⟩
  | channelOpenConfirmation m =>
    obtain ⟨kind, hkind, h⟩ := bind_eq_ok.mp h
    obtain ⟨size, hsize, -⟩ := bind_eq_ok.mp h
    exact ⟨le_of_varIntLen hkind, le_of_varIntLen hsize, trivial⟩
  | channelOpenFailure m =>
    obtain ⟨kind, hkind, h⟩ := bind_eq_ok.mp h
    obtain ⟨reason, hreason, h⟩ := bind_eq_ok.mp h
    obtain ⟨msg, hmsg, h⟩ := bind_eq_ok.mp h
    obtain ⟨tag, htag, h⟩ := bind_eq_ok.mp h
    cases h
    exact ⟨le_of_varIntLen hkind, le_of_varIntLen hreason,
      FieldValue.writable_of_length hmsg (by omega), FieldValue.writable_of_length htag (by omega),
      trivial⟩
  | data m => exact writable_data h hn

end Lengths

/-! ## What `Write` puts into the slice -/

/-- The slice is filled at least with `bytes`. -/
def FilledWith (bytes : List UInt8) (buf : Buf) : Prop := bytes <+: buf.filled

section Forwarding

variable {bytes : List UInt8}

theorem leads_freeLen : Leads (FilledWith bytes) freeLen (FilledWith bytes) :=
  leads_bind leads_get fun _ => leads_pure _

theorem leads_copy (src : List UInt8) : Leads (FilledWith bytes) (copy src) (FilledWith bytes) := by
  refine leads_get_bind ?_
  intro buf r out hbuf hcall
  cases hcall
  exact hbuf.trans (List.prefix_append _ _)

theorem leads_checkLength (needed : Except GoPanic Nat) (err : Nat → Nat → GoError) :
    Leads (FilledWith bytes) (checkLength needed err) (FilledWith bytes) := by
  refine leads_bind leads_freeLen fun length => ?_
  refine leads_bind (leads_orPanic needed) fun needed => ?_
  split_ifs
  · exact leads_throw _
  · exact leads_pure _

theorem leads_raise (p : GoPanic) {α : Type} :
    Leads (FilledWith bytes) (raise p : BufWriter α) (FilledWith bytes) := by
  intro buf r out _ hcall
  cases hcall

/-- Whatever it writes, it does not touch what stands in the slice before. -/
theorem ForwardingRequest.leads_write (r : ForwardingRequest) :
    Leads (FilledWith bytes) r.write (FilledWith bytes) := by
  unfold ForwardingRequest.write
  refine leads_bind (leads_checkLength _ _) fun _ => ?_
  refine leads_bind (leads_orPanic _) fun attrs => ?_
  refine leads_bind (leads_copy attrs) fun _ => ?_
  -- from the check of the two bytes of the port on
  have hport : Leads (FilledWith bytes) (do
      let length ← freeLen
      if length < 2 then
        raise .indexOutOfRange
      copy (Proto.toBeBytes r.port)
      return { r with ipAddress := attrs.take (min r.ipAddress.length attrs.length) ++
        r.ipAddress.drop (min r.ipAddress.length attrs.length) }) (FilledWith bytes) := by
    refine leads_bind leads_freeLen fun length => ?_
    simp only
    split_ifs
    · exact leads_bind (leads_raise _) fun _ => leads_bind (leads_copy _) fun _ => leads_pure _
    · exact leads_bind (leads_copy _) fun _ => leads_pure _
  refine leads_get_bind ?_
  intro buf result out hbuf hcall
  simp only at hcall
  split_ifs at hcall with hroom
  · cases hcall
  · exact hport _ result out (hbuf.trans (List.prefix_append _ _)) hcall

end Forwarding

variable {buf : List UInt8}

theorem call_write_of_codes {length : Except GoPanic Nat} {w : BufWriter Unit}
    {wire : List UInt8} (h : Codes length w wire) (hlength : length = .ok buf.length) :
    call w ⟨[], buf⟩ = .ok (.ok (), ⟨wire, []⟩) := by
  have hlen : wire.length = buf.length := Except.ok.inj (h.length.symm.trans hlength)
  rw [h.writes ⟨[], buf⟩ (Nat.le_of_eq hlen), hlen, List.drop_length]
  rfl

/-- The part of a request message in front of the request -/
theorem requestMessage_filled {wantReply : Bool} {out : Buf}
    (hlength : (ChannelRequestMessage.mk wantReply (some request)).length = .ok buf.length)
    (hbuf : buf.length < 2 ^ 63)
    (hrequest : ∀ bytes, Leads (FilledWith bytes) request.write (FilledWith bytes))
    (hwrite : call (ChannelRequestMessage.mk wantReply (some request)).write ⟨[], buf⟩ =
      .ok (.ok (), out)) :
    FilledWith (wire [.number SSH_MSG_CHANNEL_REQUEST, .string request.requestTypeStr,
      .boolean wantReply]) out := by
  obtain ⟨hkind, htype, -, -⟩ :=
    writable_message (m := .channelRequest ⟨wantReply, some request⟩) hlength hbuf
  have htype := codes_string htype
  have hhead : Writes (do
      copyVarInt SSH_MSG_CHANNEL_REQUEST
      writeSSHString request.requestTypeStr
      putBool wantReply) (wire [.number SSH_MSG_CHANNEL_REQUEST, .string request.requestTypeStr,
        .boolean wantReply]) :=
    writes_bind (writes_copyVarInt hkind) (writes_bind htype.writes (writes_putBool wantReply))
  have hsplit : (ChannelRequestMessage.mk wantReply (some request)).write = (do
      checkLength (ChannelRequestMessage.mk wantReply (some request)).length
        (.requestBufferTooSmall request.requestTypeStr)
      (do copyVarInt SSH_MSG_CHANNEL_REQUEST
          writeSSHString request.requestTypeStr
          putBool wantReply)
      request.write) := by
    simp only [ChannelRequestMessage.write, ChannelRequestMessage.writeWith, bind_assoc]
  -- `Length` counts the head, so there is room for it
  have hroom : (wire [.number SSH_MSG_CHANNEL_REQUEST, .string request.requestTypeStr,
      .boolean wantReply]).length ≤ buf.length := by
    obtain ⟨kind, hkindLen, h⟩ := bind_eq_ok.mp hlength
    obtain ⟨type, htypeLen, h⟩ := bind_eq_ok.mp h
    obtain ⟨body, -, h⟩ := bind_eq_ok.mp h
    have hkindEq := Except.ok.inj ((varIntLen_eq hkind).symm.trans hkindLen)
    have htypeEq := Except.ok.inj (htype.length.symm.trans htypeLen)
    have hsum : kind + type + 1 + body = buf.length := Except.ok.inj h
    simp only [wire_cons, wire_nil, FieldValue.wire, List.length_append, List.length_cons,
      List.length_nil]
    omega
  rw [hsplit, call_bind_of_ok (call_checkLength hlength (Nat.le_refl _)),
    call_bind_of_ok (hhead ⟨[], buf⟩ hroom)] at hwrite
  refine hrequest _ _ _ _ ?_ hwrite
  exact List.prefix_rfl

/-- `Write` into a slice of `Length` bytes: the fields one after the other, and nothing else
    unless the message requests port forwarding. -/
theorem write_filled {m : Message} {out : Buf}
    (hlength : m.length = .ok buf.length) (hbuf : buf.length < 2 ^ 63)
    (hwrite : call m.write ⟨[], buf⟩ = .ok (.ok (), out)) :
    ∃ tail, out.filled = wire m.fields ++ tail ∧ (m.isForwarding = false → tail = []) := by
  have hfields := writable_message hlength hbuf
  -- every other message is written by a writer that `Codes` describes
  have hcodes : Codes m.length m.write (wire m.fields) →
      ∃ tail, out.filled = wire m.fields ++ tail ∧ (m.isForwarding = false → tail = []) := by
    intro hcodes
    rw [call_write_of_codes hcodes hlength] at hwrite
    cases hwrite
    exact ⟨[], (List.append_nil _).symm, fun _ => rfl⟩
  cases m with
  | channelOpenConfirmation m => exact hcodes (codes_channelOpenConfirmation hfields)
  | channelOpenFailure m => exact hcodes (codes_channelOpenFailure hfields)
  | data m => exact hcodes (codes_dataFields hfields)
  | channelRequest m =>
    obtain ⟨wantReply, request⟩ := m
    cases request with
    | none => cases hlength
    | some request =>
      cases request with
      | forwarding r =>
        have hrequest : ∀ bytes, Leads (FilledWith bytes) (ChannelRequest.forwarding r).write
            (FilledWith bytes) := by
          intro bytes
          exact leads_bind r.leads_write fun _ => leads_pure _
        obtain ⟨tail, htail⟩ := requestMessage_filled hlength hbuf hrequest hwrite
        exact ⟨tail, htail.symm, fun h => absurd h.symm Bool.false_ne_true⟩
      | _ => exact hcodes (codes_channelRequest hfields fun _ => ChannelRequest.noConfusion)

end Ssh3.Go
