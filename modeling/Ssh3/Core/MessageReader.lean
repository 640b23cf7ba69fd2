/-
  Ssh3.Core.MessageReader

  `ssh3-core/src/channel.rs`: the message decoder of a channel's receive stream.
  It is a second decoder of the format, written over `ReceiveStream`, next to the
  one in `ssh3-proto`.
-/

import Ssh3.Core.Channel

namespace Ssh3.Core

open Proto hiding readVarInt readSshBytes readBool
open StreamCodec

/-- A channel's `recv`: the bytes the peer sends before the stream ends with `ending`. -/
def channelSource (ending : IoError) : ByteSource (List UInt8) ChannelError :=
  bytesSource (.io ending) .proto

section Reader

variable {σ ε : Type} (src : ByteSource σ ε)

/-! ### The readers of one field, on a `ReceiveStream` -/

namespace ReceiveStream

/-- `read_byte` of the channel, the same as that of `ssh3-proto` -/
abbrev readByte : StateT σ (Except ε) UInt8 := readByteFrom src

/-- `read_var_int` of the channel -/
abbrev readVarInt : StateT σ (Except ε) UInt64 := readVarIntFrom src

/-- `read_ssh_bytes` of the channel -/
abbrev readSshBytes : StateT σ (Except ε) (List UInt8) := readSshBytesFrom src

/-- `read_bool` of the channel -/
abbrev readBool : StateT σ (Except ε) Bool := readBoolFrom src

end ReceiveStream

open ReceiveStream

/-! ### The messages -/

/-- The `match request_type` of `read_channel_request`. -/
def readRequestOfType (requestType : List UInt8) : StateT σ (Except ε) ChannelRequest :=
  if requestType = ascii "pty-req" then do
    return .pty {
      term := ← readSshBytes src
      charWidth := ← readVarInt src
      charHeight := ← readVarInt src
      pixelWidth := ← readVarInt src
      pixelHeight := ← readVarInt src
      encodedTerminalModes := ← readSshBytes src }
  else if requestType = ascii "x11-req" then do
    return .x11 {
      singleConnection := ← readBool src
      x11AuthenticationProtocol := ← readSshBytes src
      x11AuthenticationCookie := ← readSshBytes src
      x11ScreenNumber := ← readVarInt src }
  else if requestType = ascii "shell" then
    return .shell
  else if requestType = ascii "exec" then do
    return .exec { command := ← readSshBytes src }
  else if requestType = ascii "subsystem" then do
    return .subsystem { subsystemName := ← readSshBytes src }
  else if requestType = ascii "window-change" then do
    return .windowChange {
      charWidth := ← readVarInt src
      charHeight := ← readVarInt src
      pixelWidth := ← readVarInt src
      pixelHeight := ← readVarInt src }
  else if requestType = ascii "signal" then do
    return .signal { signalNameWithoutSig := ← readSshBytes src }
  else if requestType = ascii "exit-status" then do
    return .exitStatus { exitStatus := ← readVarInt src }
  else if requestType = ascii "exit-signal" then do
    return .exitSignal {
      signalNameWithoutSig := ← readSshBytes src
      coreDumped := ← readBool src
      errorMessageUtf8 := ← readSshBytes src
      languageTag := ← readSshBytes src }
  else if requestType = ascii "forward-port" then do
    let protocol ← src.lift (ForwardingProtocol.tryFrom (← readVarInt src))
    let family ← src.lift (ForwardingAddressFamily.tryFrom (← readVarInt src))
    let octets ← src.readExact family.octetLen
    let port ← src.readExact 2
    return .forwardPort {
      protocol, ipAddress := IpAddr.ofOctets family octets, port := fromBeBytes port }
  else throw (src.ofProto (.unknownRequestType requestType))

/-- What follows the message type of a channel request -/
def readChannelRequest : StateT σ (Except ε) ChannelRequestMessage := do
  let requestType ← readSshBytes src
  let wantReply ← readBool src
  let request ← readRequestOfType src requestType
  return { wantReply, request }

/-- One message: its type, and the fields of that type -/
def parseMessage : StateT σ (Except ε) Message := do
  let messageType ← readVarInt src
  if messageType = SSH_MSG_CHANNEL_REQUEST then
    return .channelRequest (← readChannelRequest src)
  else if messageType = SSH_MSG_CHANNEL_OPEN_CONFIRMATION then
    return .channelOpenConfirmation { maxPacketSize := ← readVarInt src }
  else if messageType = SSH_MSG_CHANNEL_OPEN_FAILURE then
    return .channelOpenFailure {
      reasonCode := ← readVarInt src
      errorMessageUtf8 := ← readSshBytes src
      languageTag := ← readSshBytes src }
  else if messageType = SSH_MSG_CHANNEL_DATA then
    return .data { dataType := SSH_EXTENDED_DATA_NONE, data := ← readSshBytes src }
  else if messageType = SSH_MSG_CHANNEL_EXTENDED_DATA then
    return .data { dataType := ← readVarInt src, data := ← readSshBytes src }
  else throw (src.ofProto (.unknownMessageType messageType))

end Reader

end Ssh3.Core
