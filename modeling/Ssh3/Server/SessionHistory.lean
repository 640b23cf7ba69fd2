/-
  Ssh3.Server.SessionHistory

  What a session channel does, as a function of the messages it has received.

  `handle_session_channel` keeps three pieces of optional state.  Seen from outside, only the
  first request that starts a process divides the messages: those before it say which PTY
  the process gets and whether there is an agent socket, and those after it give its input.
  Requests that are refused are reported to the peer and change nothing.

  A message is one that `next_message` returns.
-/

import Mathlib.Data.List.TakeWhile
import Ssh3.Core.PacketLimit
import Ssh3.Server.Session

namespace Ssh3.Server

open Transition Fallible
open Proto (ascii Message PtyRequest SSH_EXTENDED_DATA_NONE SSH_EXTENDED_DATA_STDERR)
open Ssh3.Auth (IoError)
open Ssh3.Core (Endpoint ChannelError writeData)

/-! ## What the messages ask for -/

namespace History

/-- The command of a request that starts a process. -/
def command? : Message → Option SessionCommand
  | .channelRequest ⟨_, .shell⟩ => some .shell
  | .channelRequest ⟨_, .exec exec⟩ => some (.exec ((sshBytesToString exec.command).getD []))
  | _ => none

def pty? : Message → Option PtyRequest
  | .channelRequest ⟨_, .pty pty⟩ => some pty
  | _ => none

def bounded (dimension : UInt64) : UInt16 := UInt16.ofNat (min dimension.toNat 65535)

/-- The size that a request for a PTY or for a change of its window asks for. -/
def size? : Message → Option SessionPtySize
  | .channelRequest ⟨_, .pty pty⟩ =>
    some ⟨bounded pty.charWidth, bounded pty.charHeight, bounded pty.pixelWidth,
      bounded pty.pixelHeight⟩
  | .channelRequest ⟨_, .windowChange change⟩ =>
    some ⟨bounded change.charWidth, bounded change.charHeight, bounded change.pixelWidth,
      bounded change.pixelHeight⟩
  | _ => none

/-- The payload of a data message that is not extended data. -/
def payload? : Message → Option (List UInt8)
  | .data ⟨dataType, data⟩ => if dataType = SSH_EXTENDED_DATA_NONE then some data else none
  | _ => none

def beforeStart (messages : List Message) : List Message :=
  messages.takeWhile fun message => (command? message).isNone

/-- The first request that starts a process, and the messages after it. -/
def fromStart (messages : List Message) : List Message :=
  messages.dropWhile fun message => (command? message).isNone

/-- The PTY of a process that is started after these messages: that of the last request for
    one, with the last size. -/
def ptyAfter (messages : List Message) : Option PendingPty := do
  let pty ← (messages.filterMap pty?).getLast?
  let size ← (messages.filterMap size?).getLast?
  return { term := sshBytesToString pty.term, size }

def forwardsAgent (messages : List Message) : Bool :=
  messages.any fun message => payload? message = some (ascii "forward-agent")

end History

/-! ## What the loop does about them -/

/-- What can be seen of an action outside the channel; the path of the agent's socket is the
    environment's choice. -/
inductive SessionEffect where
  | agentSocket
  | process (pty : Option PendingPty) (hasAgent : Bool) (command : SessionCommand)
  | input (data : List UInt8)
  deriving DecidableEq

def SessionEffect.input? : SessionEffect → Option (List UInt8)
  | .input data => some data
  | _ => none

def Action.effect? : Action → Option SessionEffect
  | .openAgentSocket => some .agentSocket
  | .spawn pty agentSocketPath command _ => some (.process pty agentSocketPath.isSome command)
  | .writeInput data => some (.input data)
  | .writeStderr _ | .resize _ | .kill _ _ => none

namespace History

def agentEffects (messages : List Message) : List SessionEffect :=
  if forwardsAgent messages then [.agentSocket] else []

def startEffects (before : List Message) (request : Message) : List SessionEffect :=
  (command? request).toList.map (.process (ptyAfter before) (forwardsAgent before))

def inputEffects (messages : List Message) : List SessionEffect :=
  (messages.filterMap payload?).map .input

/-- Everything that the loop does, in order. -/
def effects (messages : List Message) : List SessionEffect :=
  agentEffects (beforeStart messages) ++
    match fromStart messages with
    | [] => []
    | request :: rest => startEffects (beforeStart messages) request ++ inputEffects rest

section Append

variable {messages : List Message} {message request : Message} {rest : List Message}

end Append

end History

/-- `write_stderr` has the result of `write_data` on a channel with this packet size, whose
    stream takes every write. -/
def Responses.StderrSucceeds (responses : Responses) (maxPacketSize : UInt64) : Prop :=
  ∃ (text : List UInt8) (s t : Endpoint) (result : Except ChannelError Nat),
    s.channel.info.maxPacketSize = maxPacketSize ∧ s.outcomes = [] ∧
    call (writeData text SSH_EXTENDED_DATA_STDERR) s = .ok (result, t) ∧
    responses.writeStderr = result.map fun _ => ()

/-- Starting a process, writing to it, and opening the PTY and the agent's socket succeed, and
    so do the writes to the stream. -/
structure Responses.Succeed (responses : Responses) (maxPacketSize : UInt64) : Prop where
  stderr : responses.StderrSucceeds maxPacketSize
  openpty : responses.openpty = .ok ()
  spawn : ∃ pid, responses.spawn = .ok pid
  handles : responses.handles = .ok ()
  writeInput : responses.writeInput = .ok ()
  agentSocket : ∃ path, responses.agentSocket = .ok path

/-- What the loop remembers of the messages before the start. -/
structure Waits (messages : List Message) (state : SessionState) : Prop where
  session : state.session = none
  pendingPty : state.pendingPty = History.ptyAfter messages
  agentForwarding : state.agentForwarding.isSome = History.forwardsAgent messages

def Remembers (messages : List Message) (state : SessionState) : Prop :=
  match History.fromStart messages with
  | [] => Waits messages state
  | _ :: _ => state.session.isSome = true

variable {maxPacketSize : UInt64}

/-- The packet size leaves room for a message, so nothing can go wrong. -/
theorem Responses.Succeed.writeStderr {responses : Responses}
    (h : responses.Succeed maxPacketSize) (hsize : 64 ≤ maxPacketSize.toNat) :
    responses.writeStderr = .ok () := by
  obtain ⟨text, s, t, result, rfl, houtcomes, hcall, hresponse⟩ := h.stderr
  obtain ⟨u, hheader, hcomplete, hinfo⟩ := Ssh3.Core.maybeSendHeader_complete houtcomes
  have hover :
      Ssh3.Core.overhead SSH_EXTENDED_DATA_STDERR ≤ u.channel.info.maxPacketSize.toNat := by
    rw [hinfo]
    exact Nat.le_trans (by decide) hsize
  rw [writeData, call_bind_of_ok hheader, call_bind_of_ok (call_get _),
    (Ssh3.Core.writeDataMessages_eq_ok (by decide)).mpr ⟨hover, rfl⟩,
    call_bind_of_ok (call_orPanic_ok _ _)] at hcall
  obtain ⟨n, rfl⟩ := Ssh3.Core.writeMessages_returns hcomplete hcall
  exact hresponse

section Turn

variable {responses : Responses} {state : SessionState} {messages : List Message}
  {maxPacketSize : UInt64}

variable {message : Message}

end Turn

/-! ## Runs -/

def System.effects (self : System) : List SessionEffect :=
  self.log.filterMap fun entry => entry.action.effect?

/-- The session has done what its messages ask for. -/
structure Follows (messages : List Message) (s : System) : Prop where
  effects : s.effects = History.effects messages
  handler : ∀ state, s.handler = some state → Remembers messages state

variable {messages : List Message} {s t : System}

end Ssh3.Server
