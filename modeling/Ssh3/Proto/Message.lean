/-
  Ssh3.Proto.Message

  `ssh3-proto/src/message.rs`: the messages of a channel stream with their
  decoder, their length functions and their encoder, type by type as the crate
  writes them.  `encoded_len` is separate code from `encode` in the source and
  stays separate here; both panic on a number beyond 62 bits.
-/

import Ssh3.Proto.Wire

namespace Ssh3.Proto

open StreamCodec

/-- A byte-string literal of the source. -/
def ascii (s : String) : List UInt8 := s.toList.map fun c => c.toNat.toUInt8

def SSH_MSG_CHANNEL_OPEN_CONFIRMATION : UInt64 := 91
def SSH_MSG_CHANNEL_OPEN_FAILURE : UInt64 := 92
def SSH_MSG_CHANNEL_DATA : UInt64 := 94
def SSH_MSG_CHANNEL_EXTENDED_DATA : UInt64 := 95
def SSH_MSG_CHANNEL_REQUEST : UInt64 := 98

/-- What kind of data a message carries -/
abbrev SshDataType := UInt64

def SSH_EXTENDED_DATA_NONE : SshDataType := 0
def SSH_EXTENDED_DATA_STDERR : SshDataType := 1

/-! ## Forwarding targets -/

abbrev Ipv4Addr := { octets : List UInt8 // octets.length = 4 }
abbrev Ipv6Addr := { octets : List UInt8 // octets.length = 16 }

/-- `std::net::IpAddr` -/
inductive IpAddr where
  | v4 (address : Ipv4Addr)
  | v6 (address : Ipv6Addr)
  deriving DecidableEq, Repr

def IpAddr.octets : IpAddr → List UInt8
  | .v4 address => address.val
  | .v6 address => address.val

/-- What is forwarded -/
inductive ForwardingProtocol where
  | udp
  | tcp
  deriving DecidableEq, Repr

def ForwardingProtocol.asU64 : ForwardingProtocol → UInt64
  | .udp => 0
  | .tcp => 1

def ForwardingProtocol.tryFrom (value : UInt64) : Except Error ForwardingProtocol :=
  match value with
  | 0 => .ok .udp
  | 1 => .ok .tcp
  | value => .error (.invalidForwardingProtocol value)

/-- The kind of an address on the wire -/
inductive ForwardingAddressFamily where
  | ipv4
  | ipv6
  deriving DecidableEq, Repr

def ForwardingAddressFamily.octetLen : ForwardingAddressFamily → Nat
  | .ipv4 => 4
  | .ipv6 => 16

def ForwardingAddressFamily.asU64 : ForwardingAddressFamily → UInt64
  | .ipv4 => 4
  | .ipv6 => 6

def ForwardingAddressFamily.fromIp : IpAddr → ForwardingAddressFamily
  | .v4 _ => .ipv4
  | .v6 _ => .ipv6

def ForwardingAddressFamily.tryFrom (value : UInt64) : Except Error ForwardingAddressFamily :=
  match value with
  | 4 => .ok .ipv4
  | 6 => .ok .ipv6
  | value => .error (.invalidAddressFamily value)

/-- The address held in a buffer of the family's length: the `try_from(octets).unwrap()`
    of the source, which cannot fail on such a buffer. -/
def IpAddr.ofOctets : (family : ForwardingAddressFamily) →
    { octets : List UInt8 // octets.length = family.octetLen } → IpAddr
  | .ipv4, octets => .v4 octets
  | .ipv6, octets => .v6 octets

/-- `u16::to_be_bytes` -/
def toBeBytes (port : UInt16) : List UInt8 := [(port >>> 8).toUInt8, port.toUInt8]

/-- `u16::from_be_bytes` -/
def fromBeBytes (bytes : { xs : List UInt8 // xs.length = 2 }) : UInt16 :=
  ((bytes.val.get ⟨0, by rw [bytes.property]; decide⟩).toUInt16 <<< 8) |||
    (bytes.val.get ⟨1, by rw [bytes.property]; decide⟩).toUInt16

/-! ## Request types -/

/-- `pty-req` -/
structure PtyRequest where
  term : List UInt8
  charWidth : UInt64
  charHeight : UInt64
  pixelWidth : UInt64
  pixelHeight : UInt64
  encodedTerminalModes : List UInt8
  deriving DecidableEq, Repr

/-- `x11-req` -/
structure X11Request where
  singleConnection : Bool
  x11AuthenticationProtocol : List UInt8
  x11AuthenticationCookie : List UInt8
  x11ScreenNumber : UInt64
  deriving DecidableEq, Repr

/-- `exec` -/
structure ExecRequest where
  command : List UInt8
  deriving DecidableEq, Repr

/-- `subsystem` -/
structure SubsystemRequest where
  subsystemName : List UInt8
  deriving DecidableEq, Repr

/-- `window-change` -/
structure WindowChangeRequest where
  charWidth : UInt64
  charHeight : UInt64
  pixelWidth : UInt64
  pixelHeight : UInt64
  deriving DecidableEq, Repr

/-- `signal` -/
structure SignalRequest where
  signalNameWithoutSig : List UInt8
  deriving DecidableEq, Repr

/-- `exit-status` -/
structure ExitStatusRequest where
  exitStatus : UInt64
  deriving DecidableEq, Repr

/-- `exit-signal` -/
structure ExitSignalRequest where
  signalNameWithoutSig : List UInt8
  coreDumped : Bool
  errorMessageUtf8 : List UInt8
  languageTag : List UInt8
  deriving DecidableEq, Repr

/-- `forward-port` -/
structure ForwardingRequest where
  protocol : ForwardingProtocol
  ipAddress : IpAddr
  port : UInt16
  deriving DecidableEq, Repr

/-- The requests on a channel -/
inductive ChannelRequest where
  | pty (request : PtyRequest)
  | x11 (request : X11Request)
  | shell
  | exec (request : ExecRequest)
  | subsystem (request : SubsystemRequest)
  | windowChange (request : WindowChangeRequest)
  | signal (request : SignalRequest)
  | exitStatus (request : ExitStatusRequest)
  | exitSignal (request : ExitSignalRequest)
  | forwardPort (request : ForwardingRequest)
  deriving DecidableEq, Repr

/-- A request, and whether a reply is wanted -/
structure ChannelRequestMessage where
  wantReply : Bool
  request : ChannelRequest
  deriving DecidableEq, Repr

/-- The channel is open, with this packet size. -/
structure ChannelOpenConfirmationMessage where
  maxPacketSize : UInt64
  deriving DecidableEq, Repr

/-- The channel is not opened. -/
structure ChannelOpenFailureMessage where
  reasonCode : UInt64
  errorMessageUtf8 : List UInt8
  languageTag : List UInt8
  deriving DecidableEq, Repr

/-- Data of a kind -/
structure DataOrExtendedDataMessage where
  dataType : SshDataType
  data : List UInt8
  deriving DecidableEq, Repr

/-- The messages on a channel -/
inductive Message where
  | channelRequest (message : ChannelRequestMessage)
  | channelOpenConfirmation (message : ChannelOpenConfirmationMessage)
  | channelOpenFailure (message : ChannelOpenFailureMessage)
  | data (message : DataOrExtendedDataMessage)
  deriving DecidableEq, Repr

/-! ## Decoder -/

/-- A decoder of this crate, over a byte slice. -/
abbrev Parser (α : Type) := Reader UInt8 Error α

def PtyRequest.parse : Parser PtyRequest := do
  return {
    term := ← readSshBytes
    charWidth := ← readVarInt
    charHeight := ← readVarInt
    pixelWidth := ← readVarInt
    pixelHeight := ← readVarInt
    encodedTerminalModes := ← readSshBytes }

def X11Request.parse : Parser X11Request := do
  return {
    singleConnection := ← readBool
    x11AuthenticationProtocol := ← readSshBytes
    x11AuthenticationCookie := ← readSshBytes
    x11ScreenNumber := ← readVarInt }

def ExecRequest.parse : Parser ExecRequest := do
  return { command := ← readSshBytes }

def SubsystemRequest.parse : Parser SubsystemRequest := do
  return { subsystemName := ← readSshBytes }

def WindowChangeRequest.parse : Parser WindowChangeRequest := do
  return {
    charWidth := ← readVarInt
    charHeight := ← readVarInt
    pixelWidth := ← readVarInt
    pixelHeight := ← readVarInt }

def SignalRequest.parse : Parser SignalRequest := do
  return { signalNameWithoutSig := ← readSshBytes }

def ExitStatusRequest.parse : Parser ExitStatusRequest := do
  return { exitStatus := ← readVarInt }

def ExitSignalRequest.parse : Parser ExitSignalRequest := do
  return {
    signalNameWithoutSig := ← readSshBytes
    coreDumped := ← readBool
    errorMessageUtf8 := ← readSshBytes
    languageTag := ← readSshBytes }

def ForwardingRequest.parse : Parser ForwardingRequest := do
  let protocol ← cursorSource.lift (ForwardingProtocol.tryFrom (← readVarInt))
  let family ← cursorSource.lift (ForwardingAddressFamily.tryFrom (← readVarInt))
  let octets ← cursorSource.readExact family.octetLen
  let port ← cursorSource.readExact 2
  return { protocol, ipAddress := IpAddr.ofOctets family octets, port := fromBeBytes port }

/-- By the request type -/
def ChannelRequest.parse (requestType : List UInt8) : Parser ChannelRequest :=
  if requestType = ascii "pty-req" then return .pty (← PtyRequest.parse)
  else if requestType = ascii "x11-req" then return .x11 (← X11Request.parse)
  else if requestType = ascii "shell" then return .shell
  else if requestType = ascii "exec" then return .exec (← ExecRequest.parse)
  else if requestType = ascii "subsystem" then return .subsystem (← SubsystemRequest.parse)
  else if requestType = ascii "window-change" then
    return .windowChange (← WindowChangeRequest.parse)
  else if requestType = ascii "signal" then return .signal (← SignalRequest.parse)
  else if requestType = ascii "exit-status" then return .exitStatus (← ExitStatusRequest.parse)
  else if requestType = ascii "exit-signal" then return .exitSignal (← ExitSignalRequest.parse)
  else if requestType = ascii "forward-port" then
    return .forwardPort (← ForwardingRequest.parse)
  else throw (.unknownRequestType requestType)

def ChannelRequestMessage.parsePayload : Parser ChannelRequestMessage := do
  let requestType ← readSshBytes
  let wantReply ← readBool
  let request ← ChannelRequest.parse requestType
  return { wantReply, request }

def ChannelOpenConfirmationMessage.parsePayload : Parser ChannelOpenConfirmationMessage := do
  return { maxPacketSize := ← readVarInt }

def ChannelOpenFailureMessage.parsePayload : Parser ChannelOpenFailureMessage := do
  return {
    reasonCode := ← readVarInt
    errorMessageUtf8 := ← readSshBytes
    languageTag := ← readSshBytes }

def DataOrExtendedDataMessage.parseDataPayload : Parser DataOrExtendedDataMessage := do
  return { dataType := SSH_EXTENDED_DATA_NONE, data := ← readSshBytes }

def DataOrExtendedDataMessage.parseExtendedPayload : Parser DataOrExtendedDataMessage := do
  return { dataType := ← readVarInt, data := ← readSshBytes }

/-- By the message type -/
def Message.parse : Parser Message := do
  let kind ← readVarInt
  if kind = SSH_MSG_CHANNEL_REQUEST then
    return .channelRequest (← ChannelRequestMessage.parsePayload)
  else if kind = SSH_MSG_CHANNEL_OPEN_CONFIRMATION then
    return .channelOpenConfirmation (← ChannelOpenConfirmationMessage.parsePayload)
  else if kind = SSH_MSG_CHANNEL_OPEN_FAILURE then
    return .channelOpenFailure (← ChannelOpenFailureMessage.parsePayload)
  else if kind = SSH_MSG_CHANNEL_DATA then
    return .data (← DataOrExtendedDataMessage.parseDataPayload)
  else if kind = SSH_MSG_CHANNEL_EXTENDED_DATA then
    return .data (← DataOrExtendedDataMessage.parseExtendedPayload)
  else throw (.unknownMessageType kind)

/-! ## Length functions -/

def PtyRequest.encodedLen (self : PtyRequest) : Except Panic Nat := do
  return (← sshStringLen self.term)
    + (← varIntLen self.charWidth)
    + (← varIntLen self.charHeight)
    + (← varIntLen self.pixelWidth)
    + (← varIntLen self.pixelHeight)
    + (← sshStringLen self.encodedTerminalModes)

def X11Request.encodedLen (self : X11Request) : Except Panic Nat := do
  return 1 + (← sshStringLen self.x11AuthenticationProtocol)
    + (← sshStringLen self.x11AuthenticationCookie)
    + (← varIntLen self.x11ScreenNumber)

def ExecRequest.encodedLen (self : ExecRequest) : Except Panic Nat :=
  sshStringLen self.command

def SubsystemRequest.encodedLen (self : SubsystemRequest) : Except Panic Nat :=
  sshStringLen self.subsystemName

def WindowChangeRequest.encodedLen (self : WindowChangeRequest) : Except Panic Nat := do
  return (← varIntLen self.charWidth)
    + (← varIntLen self.charHeight)
    + (← varIntLen self.pixelWidth)
    + (← varIntLen self.pixelHeight)

def SignalRequest.encodedLen (self : SignalRequest) : Except Panic Nat :=
  sshStringLen self.signalNameWithoutSig

def ExitStatusRequest.encodedLen (self : ExitStatusRequest) : Except Panic Nat :=
  varIntLen self.exitStatus

def ExitSignalRequest.encodedLen (self : ExitSignalRequest) : Except Panic Nat := do
  return (← sshStringLen self.signalNameWithoutSig)
    + 1
    + (← sshStringLen self.errorMessageUtf8)
    + (← sshStringLen self.languageTag)

def ForwardingRequest.encodedLen (self : ForwardingRequest) : Except Panic Nat := do
  let family := ForwardingAddressFamily.fromIp self.ipAddress
  return (← varIntLen self.protocol.asU64) + (← varIntLen family.asU64) + family.octetLen + 2

def ChannelRequest.requestType : ChannelRequest → List UInt8
  | .pty _ => ascii "pty-req"
  | .x11 _ => ascii "x11-req"
  | .shell => ascii "shell"
  | .exec _ => ascii "exec"
  | .subsystem _ => ascii "subsystem"
  | .windowChange _ => ascii "window-change"
  | .signal _ => ascii "signal"
  | .exitStatus _ => ascii "exit-status"
  | .exitSignal _ => ascii "exit-signal"
  | .forwardPort _ => ascii "forward-port"

def ChannelRequest.encodedPayloadLen : ChannelRequest → Except Panic Nat
  | .pty request => request.encodedLen
  | .x11 request => request.encodedLen
  | .shell => .ok 0
  | .exec request => request.encodedLen
  | .subsystem request => request.encodedLen
  | .windowChange request => request.encodedLen
  | .signal request => request.encodedLen
  | .exitStatus request => request.encodedLen
  | .exitSignal request => request.encodedLen
  | .forwardPort request => request.encodedLen

def ChannelRequestMessage.encodedLen (self : ChannelRequestMessage) : Except Panic Nat := do
  return (← varIntLen SSH_MSG_CHANNEL_REQUEST)
    + (← sshStringLen self.request.requestType)
    + 1
    + (← self.request.encodedPayloadLen)

def ChannelOpenConfirmationMessage.encodedLen (self : ChannelOpenConfirmationMessage) :
    Except Panic Nat := do
  return (← varIntLen SSH_MSG_CHANNEL_OPEN_CONFIRMATION) + (← varIntLen self.maxPacketSize)

def ChannelOpenFailureMessage.encodedLen (self : ChannelOpenFailureMessage) :
    Except Panic Nat := do
  return (← varIntLen SSH_MSG_CHANNEL_OPEN_FAILURE)
    + (← varIntLen self.reasonCode)
    + (← sshStringLen self.errorMessageUtf8)
    + (← sshStringLen self.languageTag)

def DataOrExtendedDataMessage.encodedLen (self : DataOrExtendedDataMessage) :
    Except Panic Nat := do
  if self.dataType = SSH_EXTENDED_DATA_NONE then
    return (← varIntLen SSH_MSG_CHANNEL_DATA) + (← sshStringLen self.data)
  else
    return (← varIntLen SSH_MSG_CHANNEL_EXTENDED_DATA)
      + (← varIntLen self.dataType)
      + (← sshStringLen self.data)

def Message.encodedLen : Message → Except Panic Nat
  | .channelRequest message => message.encodedLen
  | .channelOpenConfirmation message => message.encodedLen
  | .channelOpenFailure message => message.encodedLen
  | .data message => message.encodedLen

/-! ## Encoder -/

/-- An encoder appends to a byte vector. -/
abbrev Encoder := List UInt8 → Except Panic (List UInt8)

def PtyRequest.encode (self : PtyRequest) : Encoder := fun out => do
  let out ← appendSshBytes out self.term
  let out ← appendVarInt out self.charWidth
  let out ← appendVarInt out self.charHeight
  let out ← appendVarInt out self.pixelWidth
  let out ← appendVarInt out self.pixelHeight
  appendSshBytes out self.encodedTerminalModes

def X11Request.encode (self : X11Request) : Encoder := fun out => do
  let out := writeBool out self.singleConnection
  let out ← appendSshBytes out self.x11AuthenticationProtocol
  let out ← appendSshBytes out self.x11AuthenticationCookie
  appendVarInt out self.x11ScreenNumber

def ExecRequest.encode (self : ExecRequest) : Encoder := fun out =>
  appendSshBytes out self.command

def SubsystemRequest.encode (self : SubsystemRequest) : Encoder := fun out =>
  appendSshBytes out self.subsystemName

def WindowChangeRequest.encode (self : WindowChangeRequest) : Encoder := fun out => do
  let out ← appendVarInt out self.charWidth
  let out ← appendVarInt out self.charHeight
  let out ← appendVarInt out self.pixelWidth
  appendVarInt out self.pixelHeight

def SignalRequest.encode (self : SignalRequest) : Encoder := fun out =>
  appendSshBytes out self.signalNameWithoutSig

def ExitStatusRequest.encode (self : ExitStatusRequest) : Encoder := fun out =>
  appendVarInt out self.exitStatus

def ExitSignalRequest.encode (self : ExitSignalRequest) : Encoder := fun out => do
  let out ← appendSshBytes out self.signalNameWithoutSig
  let out := writeBool out self.coreDumped
  let out ← appendSshBytes out self.errorMessageUtf8
  appendSshBytes out self.languageTag

def ForwardingRequest.encode (self : ForwardingRequest) : Encoder := fun out => do
  let family := ForwardingAddressFamily.fromIp self.ipAddress
  let out ← appendVarInt out self.protocol.asU64
  let out ← appendVarInt out family.asU64
  let out := out ++ self.ipAddress.octets
  return out ++ toBeBytes self.port

def ChannelRequest.encodePayload : ChannelRequest → Encoder
  | .pty request => request.encode
  | .x11 request => request.encode
  | .shell => fun out => .ok out
  | .exec request => request.encode
  | .subsystem request => request.encode
  | .windowChange request => request.encode
  | .signal request => request.encode
  | .exitStatus request => request.encode
  | .exitSignal request => request.encode
  | .forwardPort request => request.encode

def ChannelRequestMessage.encode (self : ChannelRequestMessage) : Encoder := fun out => do
  let out ← appendVarInt out SSH_MSG_CHANNEL_REQUEST
  let out ← appendSshBytes out self.request.requestType
  let out := writeBool out self.wantReply
  self.request.encodePayload out

def ChannelOpenConfirmationMessage.encode (self : ChannelOpenConfirmationMessage) : Encoder :=
  fun out => do
    let out ← appendVarInt out SSH_MSG_CHANNEL_OPEN_CONFIRMATION
    appendVarInt out self.maxPacketSize

def ChannelOpenFailureMessage.encode (self : ChannelOpenFailureMessage) : Encoder := fun out => do
  let out ← appendVarInt out SSH_MSG_CHANNEL_OPEN_FAILURE
  let out ← appendVarInt out self.reasonCode
  let out ← appendSshBytes out self.errorMessageUtf8
  appendSshBytes out self.languageTag

def DataOrExtendedDataMessage.encode (self : DataOrExtendedDataMessage) : Encoder := fun out => do
  let out ←
    if self.dataType = SSH_EXTENDED_DATA_NONE then
      appendVarInt out SSH_MSG_CHANNEL_DATA
    else do
      let out ← appendVarInt out SSH_MSG_CHANNEL_EXTENDED_DATA
      appendVarInt out self.dataType
  appendSshBytes out self.data

/-- The type and the payload -/
def Message.encode : Message → Encoder
  | .channelRequest message => message.encode
  | .channelOpenConfirmation message => message.encode
  | .channelOpenFailure message => message.encode
  | .data message => message.encode

/-- `to_vec` sizes its vector with `encoded_len` first, so it panics where either
    function does. -/
def Message.toVec (self : Message) : Except Panic (List UInt8) := do
  let _capacity ← self.encodedLen
  self.encode []

end Ssh3.Proto
