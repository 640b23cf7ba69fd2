/-
  Ssh3.Interop.Session

  A command that is run on a server and whose output is read by a client, with servers and
  clients of both implementations.

  What the two kinds of clients need to know of a server is its transcript: the stream of
  the session carries a confirmation, then data messages, and behind these one exit status.
  Each server leaves a transcript, however its tasks or goroutines take turns, and each
  client makes of a transcript what the command has written.
-/

import Ssh3.Go.ExecOutputSpec
import Ssh3.Go.RunSession
import Ssh3.Server.ProcessOutputSpec

namespace Ssh3.Interop

open Fallible Transition
open Proto (Message SSH_EXTENDED_DATA_NONE SSH_EXTENDED_DATA_STDERR)
open Ssh3.Core (Endpoint dataOf)

/-! ## Transcripts -/

/-- The last message of a session -/
def exitMessage (code : UInt8) : Message :=
  .channelRequest ⟨false, .exitStatus ⟨code.toUInt64⟩⟩

/-- A server in Rust has confirmed the channel, and its three tasks have come to an end for a
    process that has written `script`. -/
def RustServes (script : List (Server.ProcessOutput.Output × List UInt8)) (code : UInt8)
    (stream : List UInt8) : Prop :=
  ∃ (server accepted : Endpoint) (window : UInt64) (actions : List Server.ProcessOutput.Action)
    (t : Server.ProcessOutput.State),
    server.channel.header = none ∧ server.writes = [] ∧
    Go.validatePacketSize server.channel.info.maxPacketSize = .ok () ∧
    Go.validatePacketSize window = .ok () ∧
    call (Core.confirmChannel window) server = .ok (.ok (), accepted) ∧
    Run Server.ProcessOutput.step anyStep (Server.ProcessOutput.spawnPipeSessionProcess accepted
      script (Server.ProcessOutput.exited code)) actions t ∧
    t.waiter = .done ∧ t.channel.sent = stream

/-- A server in Go has confirmed the channel, and has sent the exit status of a command from
    whose outputs it has read `reads`. -/
def GoServes (reads : Go.ExecOutput.Output → Option Go.ExecOutput.Reads) (code : UInt8)
    (stream : List UInt8) : Prop :=
  ∃ (size : UInt64) (outcomes : List Go.WriteOutcome) (maxPacketSize : UInt64)
    (actions : List Go.ExecOutput.Action) (t : Go.ExecOutput.State),
    Go.validatePacketSize size = .ok () ∧
    Run (Go.ExecOutput.step maxPacketSize (Go.ExecOutput.waitResult code)) anyStep
      (Go.ExecOutput.State.start reads
        ⟨[], (Message.channelOpenConfirmation ⟨size⟩).wire, outcomes⟩) actions t ∧
    t.main = .returned none ∧ t.half.sent = stream

variable {code : UInt8} {stream : List UInt8}

section Clients

variable {stdout stderr : List UInt8} {code : UInt8} {stream rest : List UInt8}

end Clients

/-! ## Any server with any client -/

/-- A server of either implementation has served a command that has written these bytes to its
    outputs and has exited with `code`. -/
def Served (stdout stderr : List UInt8) (code : UInt8) (stream : List UInt8) : Prop :=
  (∃ script, RustServes script code stream ∧ Server.ProcessOutput.written .stdout script = stdout ∧
    Server.ProcessOutput.written .stderr script = stderr) ∨
  ∃ reads, GoServes reads code stream ∧ Go.ExecOutput.bytesRead (reads .stdout) = stdout ∧
    Go.ExecOutput.bytesRead (reads .stderr) = stderr

end Ssh3.Interop
