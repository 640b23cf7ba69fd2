/-
  Ssh3.Server.ProcessOutput

  `ssh3-server/src/lib.rs`: the tasks that `spawn_pipe_session_process` leaves behind.  Two
  tasks run `pump_process_output`, one for each output of the process, and a third one waits
  for the process and for both of them and then sends the exit status.

  The three tasks use the channel at the same time, so a call of one of its methods is a task
  of `Core.Framing`: slots 0 and 1 are those of the pumps, slot 2 is that of the third task.
  No read from a pipe fails; a pipe takes whatever the process writes.
-/

import Ssh3.Core.Framing
import Ssh3.Server.ReadBuffers

namespace Ssh3.Server.ProcessOutput

open Transition
open Proto (SshDataType Message ChannelRequestMessage Panic IoError SSH_EXTENDED_DATA_NONE
  SSH_EXTENDED_DATA_STDERR)
open Ssh3.Core (ChannelError Endpoint Framing.Call Framing.Task)

/-- The two outputs of a process -/
inductive Output where
  | stdout
  | stderr
  deriving DecidableEq, Repr

def Output.dataType : Output → SshDataType
  | .stdout => SSH_EXTENDED_DATA_NONE
  | .stderr => SSH_EXTENDED_DATA_STDERR

def Output.slot : Output → Nat
  | .stdout => 0
  | .stderr => 1

/-- The slot of the task that waits -/
def waitSlot : Nat := 2

/-- Where a task is in `pump_process_output`. -/
inductive Pump where
  /-- In `reader.read` -/
  | reading
  /-- In `channel.write_data` -/
  | writing
  | finished (err : Option ChannelError)
  | panicked (panic : Panic)
  deriving DecidableEq, Repr

/-- One output of the process: what is in the pipe, whether the process still has its end of
    it, and the task at the other end. -/
structure Side where
  unread : List UInt8
  isOpen : Bool
  pump : Pump
  deriving DecidableEq, Repr

/-- Where the third task is. -/
inductive Waiter where
  /-- In `child.wait` -/
  | child
  /-- In `stdout_task.await` -/
  | stdoutTask
  /-- In `stderr_task.await` -/
  | stderrTask
  /-- In `channel.send_request` -/
  | sending
  | done
  deriving DecidableEq, Repr

/-- `status.code()` of what `child.wait` returns: a process that was killed has none. -/
abbrev WaitResult := Except IoError (Option Int32)

def exitStatus (status : WaitResult) : UInt64 :=
  (max ((status.toOption.bind id).getD 1) 0).toInt64.toUInt64

def exitStatusRequest (status : WaitResult) : ChannelRequestMessage where
  wantReply := false
  request := .exitStatus { exitStatus := exitStatus status }

/-- The process, the tasks that serve it and the channel -/
structure State where
  channel : Core.Framing.State
  /-- What the process has still to write before it exits -/
  script : List (Output × List UInt8)
  running : Bool
  side : Output → Side
  waiter : Waiter
  /-- How the process ends -/
  status : WaitResult

/-- The channel has been accepted, and the process is about to start. -/
def spawnPipeSessionProcess (accepted : Endpoint) (script : List (Output × List UInt8))
    (status : WaitResult) : State where
  channel := {
    Core.Framing.init accepted.channel with
    tasks := List.replicate 3 (.finished none)
    sent := accepted.writes.flatten }
  script := script
  running := true
  side := fun _ => { unread := [], isOpen := true, pump := .reading }
  waiter := .child
  status := status

def State.setSide (s : State) (output : Output) (side : Side) : State :=
  { s with side := Function.update s.side output side }

/-- A task calls a method of the channel. -/
def State.startCall (s : State) (slot : Nat) (call : Framing.Call) : State :=
  { s with channel := s.channel.setTask slot (.start call) }

/-! ## The steps -/

/-- What the process or a task does -/
inductive Action where
  /-- The process writes once more, or exits. -/
  | child
  /-- The process closes an output that it does not use any more. -/
  | hangUp (output : Output)
  /-- `reader.read` returns: `n + 1` bytes, if there are so many and the buffer holds them. -/
  | read (output : Output) (n : Nat)
  /-- `channel.write_data` returns. -/
  | returned (output : Output)
  /-- What the third task waits for has happened. -/
  | wait
  /-- A call goes on, as in `Core.Framing`. -/
  | advance (slot n : Nat)
  deriving DecidableEq, Repr

def State.child (s : State) : Option State :=
  if s.running then
    match s.script with
    | [] => some { s with
        running := false
        side := fun output => { s.side output with isOpen := false } }
    | (output, bytes) :: script =>
      some { s.setSide output { s.side output with
          unread := (s.side output).unread ++ bytes } with script }
  else none

def State.hangUp (s : State) (output : Output) : Option State :=
  if (s.side output).isOpen ∧ ∀ entry ∈ s.script, entry.1 ≠ output then
    some (s.setSide output { s.side output with isOpen := false })
  else none

/-- The number of bytes that a read returns, if there are so many. -/
def State.readLen (s : State) (n : Nat) : Nat :=
  min (n + 1) (readBufferLen s.channel.channel.info.maxPacketSize)

def State.read (s : State) (output : Output) (n : Nat) : Option State :=
  match (s.side output).pump, (s.side output).unread with
  | .reading, [] =>
    -- `read` waits while the pipe is open, and otherwise returns 0
    if (s.side output).isOpen then none
    else some (s.setSide output { s.side output with pump := .finished none })
  | .reading, b :: unread =>
    some ((s.setSide output { s.side output with
        unread := (b :: unread).drop (s.readLen n), pump := .writing }).startCall output.slot
      (.writeData ((b :: unread).take (s.readLen n)) output.dataType))
  | _, _ => none

/-- How `pump_process_output` goes on after a call. -/
def Pump.after : Framing.Task → Option Pump
  | .finished none => some .reading
  | .finished (some err) => some (.finished (some err))
  | .panicked panic => some (.panicked panic)
  | _ => none

def State.returned (s : State) (output : Output) : Option State :=
  match (s.side output).pump with
  | .writing => do
    let pump ← Pump.after (← s.channel.tasks[output.slot]?)
    return s.setSide output { s.side output with pump }
  | _ => none

def Pump.hasEnded : Pump → Bool
  | .finished _ | .panicked _ => true
  | .reading | .writing => false

/-- The results of the two tasks and of `send_request` are dropped. -/
def State.wait (s : State) : Option State :=
  match s.waiter with
  | .child => if s.running then none else some { s with waiter := .stdoutTask }
  | .stdoutTask =>
    if (s.side .stdout).pump.hasEnded then some { s with waiter := .stderrTask } else none
  | .stderrTask =>
    if (s.side .stderr).pump.hasEnded then
      some { s.startCall waitSlot (.sendRequest (exitStatusRequest s.status)) with
        waiter := .sending }
    else none
  | .sending =>
    match s.channel.tasks[waitSlot]? with
    | some (.finished _) | some (.panicked _) => some { s with waiter := .done }
    | _ => none
  | .done => none

/-- The process or a task goes on. -/
def step (s : State) : Action → Option State
  | .child => s.child
  | .hangUp output => s.hangUp output
  | .read output n => s.read output n
  | .returned output => s.returned output
  | .wait => s.wait
  | .advance slot n =>
    (Core.Framing.step s.channel (.advance slot n)).map fun channel => { s with channel }

/-- What a process that does all this writes to one of its outputs. -/
def written (output : Output) (script : List (Output × List UInt8)) : List UInt8 :=
  script.flatMap fun entry => if entry.1 = output then entry.2 else []

end Ssh3.Server.ProcessOutput
