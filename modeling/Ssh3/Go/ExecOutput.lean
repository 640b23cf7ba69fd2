/-
  Ssh3.Go.ExecOutput

  `cmd/ssh3-server.go`: the goroutines that `execCmdInBackground` starts once the command
  runs.  Two of them read its outputs, a third one waits for both of them and then for the
  command, and the main one selects from their three channels, writes to the SSH channel
  and at last sends the exit status.

  The variables that hold the three channels are shared: the main goroutine disables a
  channel by setting its variable to nil, while a reader closes the channel that the
  variable held when it started.

  What the calls of `Read` and `Wait` return is given; when they return is a matter of the
  interleaving.
-/

import Mathlib.Logic.Function.Basic
import Ssh3.Lib.Chan
import Ssh3.Lib.Transition
import Ssh3.Go.ExitStatus
import Ssh3.Go.WriteData

namespace Ssh3.Go.ExecOutput

open Fallible
open Proto (SshDataType)

/-! ## The readers -/

/-- The two outputs of a command -/
inductive Output where
  | stdout
  | stderr
  deriving DecidableEq, Repr

def Output.dataType : Output → SshDataType
  | .stdout => Proto.SSH_EXTENDED_DATA_NONE
  | .stderr => Proto.SSH_EXTENDED_DATA_STDERR

/-- The error of a read -/
inductive ReadError where
  | eof
  | other (text : String)
  deriving DecidableEq, Repr

/-- What a read returns -/
structure ReadResult where
  data : List UInt8
  err : Option ReadError
  deriving DecidableEq, Repr

/-- What the calls of `Read` on an output return, up to the first error. -/
inductive Reads where
  | last (data : List UInt8) (err : ReadError)
  | more (data : List UInt8) (rest : Reads)
  deriving DecidableEq, Repr

/-- The next result -/
def Reads.result : Reads → ReadResult
  | .last data err => { data, err := some err }
  | .more data _ => { data, err := none }

def Reads.bytes : Reads → List UInt8
  | .last data _ => data
  | .more data rest => data ++ rest.bytes

/-- Where `readStdout` or `readStderr` is. -/
inductive ReaderAt where
  /-- In `Read` -/
  | reading (reads : Reads)
  /-- In the send of the first of the results -/
  | sending (reads : Reads)
  /-- In the deferred `close` -/
  | closing
  /-- In the deferred `outputReaders.Done` -/
  | signalling
  | finished
  deriving DecidableEq, Repr

/-- After the send: `if err != nil { return }` -/
def Reads.next : Reads → ReaderAt
  | .last _ _ => .closing
  | .more _ rest => .reading rest

/-- `stdoutR` or `stderrR`, which may be nil -/
def ReaderAt.start : Option Reads → ReaderAt
  | none => .closing
  | some reads => .reading reads

/-- An output: its goroutine and its Go channel -/
structure Stream where
  reader : ReaderAt
  chan : Chan 1 ReadResult
  /-- The variable has been set to nil. -/
  isNil : Bool
  deriving DecidableEq, Repr

/-! ## The other two goroutines -/

/-- Where the goroutine that waits for the command is. -/
inductive WaiterAt where
  /-- In `outputReaders.Wait` -/
  | waiting
  /-- In `runningCommand.Wait` -/
  | reaping
  /-- In the send of the result -/
  | sending
  /-- In `close` -/
  | closing
  | finished
  deriving DecidableEq, Repr

/-- A panic in any goroutine ends the program. -/
inductive Crash where
  | panic (p : GoPanic)
  | sendOnClosedChannel
  | closeOfClosedChannel
  | closeOfNilChannel
  deriving DecidableEq, Repr

/-- Where `execCmdInBackground` is -/
inductive MainAt where
  /-- In `select` -/
  | selecting
  /-- Returned, after a write to the SSH channel failed with `err` or after the exit status -/
  | returned (err : Option GoError)
  | crashed (crash : Crash)
  deriving DecidableEq, Repr

/-- The goroutines of a command and the SSH channel -/
structure State where
  stream : Output → Stream
  /-- The counter of the wait group -/
  outputReaders : Nat
  waiter : WaiterAt
  execResultChan : Chan 1 (Option WaitError)
  /-- The variable `execResultChan` has been set to nil. -/
  execIsNil : Bool
  execExitStatus : UInt64
  main : MainAt
  half : SendHalf

def State.start (reads : Output → Option Reads) (half : SendHalf) : State where
  stream := fun output => { reader := .start (reads output), chan := .make, isNil := false }
  outputReaders := 2
  waiter := .waiting
  execResultChan := .make
  execIsNil := false
  execExitStatus := 0
  main := .selecting
  half := half

def State.setStream (s : State) (output : Output) (stream : Stream) : State :=
  { s with stream := Function.update s.stream output stream }

def State.crash (s : State) (crash : Crash) : State := { s with main := .crashed crash }

/-! ## The steps -/

/-- Which goroutine goes on -/
inductive Action where
  | reader (output : Output)
  | waiter
  /-- `select` takes a case of an output. -/
  | output (output : Output)
  /-- `select` takes the case of the exit status. -/
  | exec
  deriving DecidableEq, Repr

def State.readerStep (s : State) (output : Output) : Option State :=
  match (s.stream output).reader with
  | .reading reads => some (s.setStream output { s.stream output with reader := .sending reads })
  | .sending reads =>
    -- a send on a nil channel blocks for ever
    if (s.stream output).isNil then none
    else
      match (s.stream output).chan.send reads.result with
      | .sent chan => some (s.setStream output { s.stream output with chan, reader := reads.next })
      | .blocked => none
      | .panics => some (s.crash .sendOnClosedChannel)
  | .closing =>
    -- the argument of `close` was evaluated when it was deferred
    match (s.stream output).chan.close with
    | some chan => some (s.setStream output { s.stream output with chan, reader := .signalling })
    | none => some (s.crash .closeOfClosedChannel)
  | .signalling =>
    some { s.setStream output { s.stream output with reader := .finished } with
      outputReaders := s.outputReaders - 1 }
  | .finished => none

section

variable (maxPacketSize : UInt64) (waitErr : Option WaitError)

/-- `waitErr` is what `runningCommand.Wait` returns. -/
def State.waiterStep (s : State) : Option State :=
  match s.waiter with
  | .waiting => if s.outputReaders = 0 then some { s with waiter := .reaping } else none
  | .reaping => some { s with waiter := .sending }
  | .sending =>
    if s.execIsNil then none
    else
      match s.execResultChan.send waitErr with
      | .sent chan => some { s with execResultChan := chan, waiter := .closing }
      | .blocked => none
      | .panics => some (s.crash .sendOnClosedChannel)
  | .closing =>
    if s.execIsNil then some (s.crash .closeOfNilChannel)
    else
      match s.execResultChan.close with
      | some chan => some { s with execResultChan := chan, waiter := .finished }
      | none => some (s.crash .closeOfClosedChannel)
  | .finished => none

/-- All three variables are nil. -/
def State.allNil (s : State) : Bool :=
  (s.stream .stdout).isNil && (s.stream .stderr).isNil && s.execIsNil

/-- The end of a turn of the loop; an error of `SendRequest` is only logged. -/
def State.endTurn (s : State) : State :=
  if s.allNil then
    match call (sendRequest (exitStatusRequest s.execExitStatus)) s.half with
    | .ok (.ok (), half) => { s with half, main := .returned none }
    | .ok (.error err, half) => { s with half, main := .returned (some err) }
    | .error p => s.crash (.panic p)
  else s

/-- The data of a result is written before its error is looked at; the error is only logged. -/
def State.writeResult (s : State) (output : Output) (result : ReadResult) : Option State :=
  match call (WriteData maxPacketSize result.data.length result.data output.dataType) s.half with
  | .ok (.ok (some (_, none)), half) => some { s with half }.endTurn
  | .ok (.ok (some (_, some err)), half) | .ok (.error err, half) =>
    some { s with half, main := .returned (some err) }
  | .ok (.ok none, _) => none
  | .error p => some (s.crash (.panic p))

def State.selectOutput (s : State) (output : Output) : Option State :=
  if (s.stream output).isNil then none
  else
    match (s.stream output).chan.receive with
    | .blocked => none
    | .ended => some (s.setStream output { s.stream output with isNil := true }).endTurn
    | .value result chan =>
      (s.setStream output { s.stream output with chan }).writeResult maxPacketSize output result

def State.selectExec (s : State) : Option State :=
  if s.execIsNil then none
  else
    match s.execResultChan.receive with
    | .blocked => none
    | .ended => some { s with execIsNil := true }.endTurn
    | .value err chan =>
      some { s with execResultChan := chan, execExitStatus := Go.execExitStatus err }.endTurn

/-- One goroutine goes on. -/
def step (s : State) (action : Action) : Option State :=
  match s.main, action with
  | .crashed _, _ => none
  | _, .reader output => s.readerStep output
  | _, .waiter => s.waiterStep waitErr
  | .selecting, .output output => s.selectOutput maxPacketSize output
  | .selecting, .exec => s.selectExec
  | .returned _, _ => none

end

end Ssh3.Go.ExecOutput
