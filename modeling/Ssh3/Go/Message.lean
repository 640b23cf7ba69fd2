/-
  Ssh3.Go.Message

  `message/message.go` and `message/channel_request.go`: the Go messages with
  their parsers, `Length` and `Write`.

  The records have the fields of the Rust ones and are shared with
  `Ssh3.Proto.Message`; only the forwarding request differs.  Several parsers
  return a value together with `io.EOF` when their last read ends the stream
  (`unlessEof`), and `ParseRequestMessage` then goes on with a nil request.
-/

import Ssh3.Go.Wire

namespace Ssh3.Go

open Fallible
open Proto (ascii SSH_MSG_CHANNEL_REQUEST SSH_MSG_CHANNEL_OPEN_CONFIRMATION
  SSH_MSG_CHANNEL_OPEN_FAILURE SSH_MSG_CHANNEL_DATA SSH_MSG_CHANNEL_EXTENDED_DATA
  SSH_EXTENDED_DATA_NONE PtyRequest X11Request ExecRequest SubsystemRequest WindowChangeRequest
  SignalRequest ExitStatusRequest ExitSignalRequest ChannelOpenConfirmationMessage
  ChannelOpenFailureMessage DataOrExtendedDataMessage)

/-- A forward-port request, with any values -/
structure ForwardingRequest where
  protocol : UInt64
  addressFamily : UInt64
  /-- `net.IP`: a byte slice of any length -/
  ipAddress : List UInt8
  port : UInt16
  deriving DecidableEq, Repr

/-- The types that implement the `ChannelRequest` interface. -/
inductive ChannelRequest where
  | pty (request : PtyRequest)
  | x11 (request : X11Request)
  | shell
  | exec (request : ExecRequest)
  | subsystem (request : SubsystemRequest)
  | windowChange (request : WindowChangeRequest)
  | signal (request : SignalRequest)
  | exitStatus (request : ExitStatusRequest)
  | exitSignal (request : ExitSignalRequest)
  | forwarding (request : ForwardingRequest)
  deriving DecidableEq, Repr

/-- A channel request -/
structure ChannelRequestMessage where
  wantReply : Bool
  /-- `none` is the nil interface. -/
  channelRequest : Option ChannelRequest
  deriving DecidableEq, Repr

/-- `message.Message` -/
inductive Message where
  | channelRequest (message : ChannelRequestMessage)
  | channelOpenConfirmation (message : ChannelOpenConfirmationMessage)
  | channelOpenFailure (message : ChannelOpenFailureMessage)
  | data (message : DataOrExtendedDataMessage)
  deriving DecidableEq, Repr

/-! ## Parsers -/

section Parsers

variable (ending : GoError)

/-- `x, err := m; if err != nil && err != io.EOF { return nil, wrap(err) }`: on `io.EOF` the
    function goes on with the zero value of `x`, and `err` stays set. -/
def unlessEof {α : Type} (zero : α) (wrap : GoError → GoError) (m : GoReader α) :
    GoReader (α × Option GoError) :=
  tryCatch (do return (← m, none)) fun err =>
    if err = .eof then return (zero, some err) else throw (wrap err)

def parsePtyRequest : GoReader (PtyRequest × Option GoError) := do
  let term ← parseSSHString ending
  let charWidth ← readVarInt ending
  let charHeight ← readVarInt ending
  let pixelWidth ← readVarInt ending
  let pixelHeight ← readVarInt ending
  let (encodedTerminalModes, err) ← unlessEof [] id (parseSSHString ending)
  return ({ term, charWidth, charHeight, pixelWidth, pixelHeight, encodedTerminalModes }, err)

def parseX11Request : GoReader (X11Request × Option GoError) := do
  let singleConnection ← binaryReadBool ending
  let x11AuthenticationProtocol ← parseSSHString ending
  let x11AuthenticationCookie ← parseSSHString ending
  let (x11ScreenNumber, err) ← unlessEof 0 id (readVarInt ending)
  return ({ singleConnection, x11AuthenticationProtocol, x11AuthenticationCookie,
            x11ScreenNumber }, err)

def parseExecRequest : GoReader (ExecRequest × Option GoError) := do
  let (command, err) ← unlessEof [] (fun _ => .advanceTooFar) (parseSSHString ending)
  return ({ command }, err)

def parseSubsystemRequest : GoReader (SubsystemRequest × Option GoError) := do
  let (subsystemName, err) ← unlessEof [] (fun _ => .advanceTooFar) (parseSSHString ending)
  return ({ subsystemName }, err)

def parseWindowChangeRequest : GoReader (WindowChangeRequest × Option GoError) := do
  let charWidth ← readVarInt ending
  let charHeight ← readVarInt ending
  let pixelWidth ← readVarInt ending
  let (pixelHeight, err) ← unlessEof 0 id (readVarInt ending)
  return ({ charWidth, charHeight, pixelWidth, pixelHeight }, err)

def parseSignalRequest : GoReader (SignalRequest × Option GoError) := do
  let (signalNameWithoutSig, err) ← unlessEof [] (fun _ => .advanceTooFar) (parseSSHString ending)
  return ({ signalNameWithoutSig }, err)

def parseExitStatusRequest : GoReader (ExitStatusRequest × Option GoError) := do
  let (exitStatus, err) ← unlessEof 0 id (readVarInt ending)
  return ({ exitStatus }, err)

def parseExitSignalRequest : GoReader (ExitSignalRequest × Option GoError) := do
  -- a string that cannot be read is reported as `bufio.ErrAdvanceTooFar`
  let signalNameWithoutSig ← ExceptT.adapt (fun _ => .advanceTooFar) (parseSSHString ending)
  let coreDumped ← binaryReadBool ending
  let errorMessageUtf8 ← ExceptT.adapt (fun _ => .advanceTooFar) (parseSSHString ending)
  let (languageTag, err) ← unlessEof [] (fun _ => .advanceTooFar) (parseSSHString ending)
  return ({ signalNameWithoutSig, coreDumped, errorMessageUtf8, languageTag }, err)

/-- A parser of `ChannelRequestParseFuncs`, returning the interface. -/
def asRequest {α : Type} (make : α → ChannelRequest) (m : GoReader (α × Option GoError)) :
    GoReader (ChannelRequest × Option GoError) := do
  let (request, err) ← m
  return (make request, err)

/-- `ChannelRequestParseFuncs`: nine request types, "forward-port" is not among them. -/
def channelRequestParseFuncs (requestType : List UInt8) :
    Option (GoReader (ChannelRequest × Option GoError)) :=
  if requestType = ascii "pty-req" then some (asRequest .pty (parsePtyRequest ending))
  else if requestType = ascii "x11-req" then some (asRequest .x11 (parseX11Request ending))
  else if requestType = ascii "shell" then some (return (.shell, none))
  else if requestType = ascii "exec" then some (asRequest .exec (parseExecRequest ending))
  else if requestType = ascii "subsystem" then
    some (asRequest .subsystem (parseSubsystemRequest ending))
  else if requestType = ascii "window-change" then
    some (asRequest .windowChange (parseWindowChangeRequest ending))
  else if requestType = ascii "signal" then some (asRequest .signal (parseSignalRequest ending))
  else if requestType = ascii "exit-status" then
    some (asRequest .exitStatus (parseExitStatusRequest ending))
  else if requestType = ascii "exit-signal" then
    some (asRequest .exitSignal (parseExitSignalRequest ending))
  else none

/-- Looks the request type up and parses what follows. -/
def parseRequestMessage : GoReader (ChannelRequestMessage × Option GoError) := do
  let requestType ← parseSSHString ending
  let wantReply ← binaryReadBool ending
  match channelRequestParseFuncs ending requestType with
  | none => throw (.invalidRequestType requestType)
  | some parseFunc =>
    let (channelRequest, err) ←
      tryCatch (do let (request, err) ← parseFunc; return (some request, err)) fun err =>
        if err = .eof then return (none, some err) else throw err
    return ({ wantReply, channelRequest }, err)

def parseChannelOpenConfirmationMessage : GoReader ChannelOpenConfirmationMessage := do
  let maxPacketSize ← readVarInt ending
  return { maxPacketSize }

def parseChannelOpenFailureMessage : GoReader ChannelOpenFailureMessage := do
  let reasonCode ← readVarInt ending
  let errorMessageUtf8 ← parseSSHString ending
  let languageTag ← parseSSHString ending
  return { reasonCode, errorMessageUtf8, languageTag }

def parseDataMessage : GoReader DataOrExtendedDataMessage := do
  -- unlike the other parsers, this one drops the `io.EOF`
  let (data, _) ← unlessEof [] id (parseSSHString ending)
  return { dataType := SSH_EXTENDED_DATA_NONE, data }

def parseExtendedDataMessage : GoReader (DataOrExtendedDataMessage × Option GoError) := do
  let dataType ← readVarInt ending
  let (data, err) ← unlessEof [] id (parseSSHString ending)
  return ({ dataType, data }, err)

/-- The switch of `ParseMessage`. -/
def parsePayload (typeId : UInt64) : GoReader (Message × Option GoError) :=
  if typeId = SSH_MSG_CHANNEL_REQUEST then do
    let (message, err) ← parseRequestMessage ending
    return (.channelRequest message, err)
  else if typeId = SSH_MSG_CHANNEL_OPEN_CONFIRMATION then
    return (.channelOpenConfirmation (← parseChannelOpenConfirmationMessage ending), none)
  else if typeId = SSH_MSG_CHANNEL_OPEN_FAILURE then
    return (.channelOpenFailure (← parseChannelOpenFailureMessage ending), none)
  else if typeId = SSH_MSG_CHANNEL_DATA then
    return (.data (← parseDataMessage ending), none)
  else if typeId = SSH_MSG_CHANNEL_EXTENDED_DATA then do
    let (message, err) ← parseExtendedDataMessage ending
    return (.data message, err)
  else
    raise .notImplemented

/-- Parses a message by its type. -/
def parseMessage : GoReader (Message × Option GoError) := do
  let typeId ← readVarInt ending
  parsePayload ending typeId

end Parsers

/-! ## `Length` -/

def ptyLength (r : PtyRequest) : Except GoPanic Nat := do
  return (← sshStringLen r.term)
    + (← varIntLen r.charWidth)
    + (← varIntLen r.charHeight)
    + (← varIntLen r.pixelWidth)
    + (← varIntLen r.pixelHeight)
    + (← sshStringLen r.encodedTerminalModes)

def x11Length (r : X11Request) : Except GoPanic Nat := do
  return 1
    + (← sshStringLen r.x11AuthenticationProtocol)
    + (← sshStringLen r.x11AuthenticationCookie)
    + (← varIntLen r.x11ScreenNumber)

def windowChangeLength (r : WindowChangeRequest) : Except GoPanic Nat := do
  return (← varIntLen r.charWidth)
    + (← varIntLen r.charHeight)
    + (← varIntLen r.pixelWidth)
    + (← varIntLen r.pixelHeight)

def exitSignalLength (r : ExitSignalRequest) : Except GoPanic Nat := do
  return (← sshStringLen r.signalNameWithoutSig)
    + 1
    + (← sshStringLen r.errorMessageUtf8)
    + (← sshStringLen r.languageTag)

def ForwardingRequest.length (r : ForwardingRequest) : Except GoPanic Nat := do
  return (← varIntLen r.protocol) + (← varIntLen r.addressFamily) + r.ipAddress.length + 2

def ChannelRequest.length : ChannelRequest → Except GoPanic Nat
  | .pty r => ptyLength r
  | .x11 r => x11Length r
  | .shell => .ok 0
  | .exec r => sshStringLen r.command
  | .subsystem r => sshStringLen r.subsystemName
  | .windowChange r => windowChangeLength r
  | .signal r => sshStringLen r.signalNameWithoutSig
  | .exitStatus r => varIntLen r.exitStatus
  | .exitSignal r => exitSignalLength r
  | .forwarding r => r.length

def ChannelRequest.requestTypeStr : ChannelRequest → List UInt8
  | .pty _ => ascii "pty-req"
  | .x11 _ => ascii "x11-req"
  | .shell => ascii "shell"
  | .exec _ => ascii "exec"
  | .subsystem _ => ascii "subsystem"
  | .windowChange _ => ascii "window-change"
  | .signal _ => ascii "signal"
  | .exitStatus _ => ascii "exit-status"
  | .exitSignal _ => ascii "exit-signal"
  | .forwarding _ => ascii "forward-port"

def ChannelRequestMessage.length (m : ChannelRequestMessage) : Except GoPanic Nat := do
  match m.channelRequest with
  | none => .error .nilDereference
  | some request =>
    -- msg type + request type + wantReply + request content
    return (← varIntLen SSH_MSG_CHANNEL_REQUEST) + (← sshStringLen request.requestTypeStr) + 1
      + (← request.length)

def channelOpenConfirmationLength (m : ChannelOpenConfirmationMessage) : Except GoPanic Nat := do
  return (← varIntLen SSH_MSG_CHANNEL_OPEN_CONFIRMATION) + (← varIntLen m.maxPacketSize)

def channelOpenFailureLength (m : ChannelOpenFailureMessage) : Except GoPanic Nat := do
  return (← varIntLen SSH_MSG_CHANNEL_OPEN_FAILURE) + (← varIntLen m.reasonCode)
    + (← sshStringLen m.errorMessageUtf8) + (← sshStringLen m.languageTag)

def dataLength (m : DataOrExtendedDataMessage) : Except GoPanic Nat := do
  if m.dataType = SSH_EXTENDED_DATA_NONE then
    return (← varIntLen SSH_MSG_CHANNEL_DATA) + (← sshStringLen m.data)
  else
    return (← varIntLen SSH_MSG_CHANNEL_EXTENDED_DATA) + (← varIntLen m.dataType)
      + (← sshStringLen m.data)

def Message.length : Message → Except GoPanic Nat
  | .channelRequest m => m.length
  | .channelOpenConfirmation m => channelOpenConfirmationLength m
  | .channelOpenFailure m => channelOpenFailureLength m
  | .data m => dataLength m

/-! ## `Write` -/

/-- `if len(buf) < r.Length() { return 0, err }` -/
def checkLength (needed : Except GoPanic Nat) (err : Nat → Nat → GoError) : BufWriter Unit := do
  let length ← freeLen
  let needed ← orPanic needed
  if length < needed then
    throw (err length needed)

def tooSmall (text : String) : Nat → Nat → GoError := fun _ _ => .new text

def putBool (value : Bool) : BufWriter Unit :=
  if value then putByte 1 else putByte 0

/-- `for _, attr := range attrs { buf = AppendVarInt(buf, attr) }` -/
def appendVarInts (attrs : List UInt64) : Except GoPanic (List UInt8) :=
  attrs.foldlM appendVarInt []

/-- `consumed += copy(buf[consumed:], AppendVarInt(nil, i))` -/
def copyVarInt (i : UInt64) : BufWriter Unit := do
  copy (← orPanic (appendVarInt [] i))

def writePty (r : PtyRequest) : BufWriter Unit := do
  checkLength (ptyLength r) (tooSmall "buffer too small to write PTY request")
  writeSSHString r.term
  copy (← orPanic (appendVarInts [r.charWidth, r.charHeight, r.pixelWidth, r.pixelHeight]))
  writeSSHString r.encodedTerminalModes

def writeX11 (r : X11Request) : BufWriter Unit := do
  checkLength (x11Length r) (tooSmall "buffer too small to write X11 request")
  putBool r.singleConnection
  writeSSHString r.x11AuthenticationProtocol
  writeSSHString r.x11AuthenticationCookie
  copyVarInt r.x11ScreenNumber

def writeWindowChange (r : WindowChangeRequest) : BufWriter Unit := do
  checkLength (windowChangeLength r) (tooSmall "buffer too small to write PTY request")
  copy (← orPanic (appendVarInts [r.charWidth, r.charHeight, r.pixelWidth, r.pixelHeight]))

def writeExitStatus (r : ExitStatusRequest) : BufWriter Unit := do
  checkLength (varIntLen r.exitStatus) (tooSmall "buffer too small to write PTY request")
  copyVarInt r.exitStatus

def writeExitSignal (r : ExitSignalRequest) : BufWriter Unit := do
  checkLength (exitSignalLength r) (tooSmall "buffer too small to write PTY request")
  writeSSHString r.signalNameWithoutSig
  putBool r.coreDumped
  writeSSHString r.errorMessageUtf8
  writeSSHString r.languageTag

/-- Returns the request as the call leaves it: the address is not copied into the buffer,
    it is the destination of a second copy of the numbers, which the source counts as
    written. -/
def ForwardingRequest.write (r : ForwardingRequest) : BufWriter ForwardingRequest := do
  checkLength r.length (tooSmall "buffer too small to write forwarding request")
  let attrs ← orPanic (appendVarInts [r.addressFamily, r.protocol])
  copy attrs
  let n := min r.ipAddress.length attrs.length
  let ipAddress := attrs.take n ++ r.ipAddress.drop n
  let buf ← get
  if buf.free.length < n then
    raise .sliceOutOfRange
  else
    set (Buf.mk (buf.filled ++ buf.free.take n) (buf.free.drop n))
  if (← freeLen) < 2 then
    raise .indexOutOfRange
  copy (Proto.toBeBytes r.port)
  return { r with ipAddress }

def ChannelRequest.write : ChannelRequest → BufWriter Unit
  | .pty r => writePty r
  | .x11 r => writeX11 r
  | .shell => return
  | .exec r => writeSSHString r.command
  | .subsystem r => writeSSHString r.subsystemName
  | .windowChange r => writeWindowChange r
  | .signal r => writeSSHString r.signalNameWithoutSig
  | .exitStatus r => writeExitStatus r
  | .exitSignal r => writeExitSignal r
  | .forwarding r => do let _ ← r.write

/-- `ChannelRequestMessage.Write`, for a `Write` of the request -/
def ChannelRequestMessage.writeWith {α : Type} (write : ChannelRequest → BufWriter α)
    (m : ChannelRequestMessage) : BufWriter α := do
  match m.channelRequest with
  | none => raise .nilDereference
  | some request =>
    checkLength m.length (.requestBufferTooSmall request.requestTypeStr)
    copyVarInt SSH_MSG_CHANNEL_REQUEST
    writeSSHString request.requestTypeStr
    putBool m.wantReply
    write request

/-- `ChannelRequestMessage.Write`, without the request as the call leaves it -/
def ChannelRequestMessage.write : ChannelRequestMessage → BufWriter Unit :=
  ChannelRequestMessage.writeWith ChannelRequest.write

def writeChannelOpenConfirmation (m : ChannelOpenConfirmationMessage) : BufWriter Unit := do
  copy (← orPanic (appendVarInts [SSH_MSG_CHANNEL_OPEN_CONFIRMATION, m.maxPacketSize]))

def writeChannelOpenFailure (m : ChannelOpenFailureMessage) : BufWriter Unit := do
  checkLength (channelOpenFailureLength m)
    (tooSmall "buffer too small to write channel open failure message")
  copy (← orPanic (appendVarInts [SSH_MSG_CHANNEL_OPEN_FAILURE, m.reasonCode]))
  writeSSHString m.errorMessageUtf8
  writeSSHString m.languageTag

def writeData (m : DataOrExtendedDataMessage) : BufWriter Unit := do
  if m.dataType = SSH_EXTENDED_DATA_NONE then
    copyVarInt SSH_MSG_CHANNEL_DATA
  else
    copyVarInt SSH_MSG_CHANNEL_EXTENDED_DATA
    copyVarInt m.dataType
  writeSSHString m.data

def Message.write : Message → BufWriter Unit
  | .channelRequest m => m.write
  | .channelOpenConfirmation m => writeChannelOpenConfirmation m
  | .channelOpenFailure m => writeChannelOpenFailure m
  | .data m => writeData m

end Ssh3.Go
