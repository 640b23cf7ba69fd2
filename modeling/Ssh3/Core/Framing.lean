/-
  Ssh3.Core.Framing

  `ssh3-core/src/channel.rs`: any number of tasks that use one channel at the
  same time, over a stream on which every write succeeds.

  `maybe_send_header` takes the header out of the channel under the lock of the
  `header` field and writes it under the lock of the `send` field; every other
  write takes the `send` lock anew.  An action is what a task does between two
  points at which another task may run: one critical section, one wait for the
  `send` lock, or one piece of a `write_all`, of any length.
-/

import Ssh3.Core.Endpoint
import Ssh3.Lib.Transition

namespace Ssh3.Core.Framing

open Proto Transition

/-- The methods that use the send side of a channel, with their arguments. -/
inductive Call where
  | writeData (dataBuf : List UInt8) (dataType : SshDataType)
  | sendMessage (message : Message)
  | sendRequest (request : ChannelRequestMessage)
  | confirmChannel (maxPacketSize : UInt64)
  | sendDatagram (datagram : List UInt8)
  deriving DecidableEq, Repr

/-- Where a task is in its call. -/
inductive Task where
  | start (call : Call)
  /-- In `maybe_send_header`: has the header, waits for the `send` lock -/
  | wantHeader (call : Call) (header : List UInt8)
  /-- In `maybe_send_header`: holds the lock, has still to write `rest` -/
  | writeHeader (call : Call) (rest : List UInt8)
  /-- `maybe_send_header` has returned. -/
  | body (call : Call)
  /-- Waits for the `send` lock to write its messages -/
  | wantSend (call : Call) (messages : List Message)
  /-- Holds the lock, has still to write `rest` and then `messages` -/
  | writing (call : Call) (rest : List UInt8) (messages : List Message)
  | finished (err : Option ChannelError)
  /-- The lock guard of a task that panics is dropped. -/
  | panicked (panic : Panic)
  deriving DecidableEq, Repr

/-- A channel that several tasks write to -/
structure State where
  channel : Channel
  /-- The task that holds the `send` lock -/
  lock : Option Nat
  tasks : List Task
  /-- The bytes on the send stream -/
  sent : List UInt8
  datagrams : List (List UInt8)
  deriving DecidableEq, Repr

def init (channel : Channel) : State where
  channel := channel
  lock := none
  tasks := []
  sent := []
  datagrams := []

def State.setTask (s : State) (i : Nat) (task : Task) : State :=
  { s with tasks := s.tasks.set i task }

/-- What `send_message` and its callers write, and what `write_data` does. -/
def Call.messages (maxPacketSize : UInt64) : Call →
    Except Panic (Except ChannelError (List Message))
  | .writeData dataBuf dataType => writeDataMessages maxPacketSize dataBuf dataType
  | .sendMessage message => .ok (.ok [message])
  | .sendRequest request => .ok (.ok [.channelRequest request])
  | .confirmChannel maxPacketSize => .ok (.ok [.channelOpenConfirmation { maxPacketSize }])
  | .sendDatagram _ => .ok (.ok [])

/-- Wait for the lock, if there is anything to wait for. -/
def State.awaitSend (s : State) (i : Nat) (call : Call) :
    Except Panic (Except ChannelError (List Message)) → State
  | .error panic => s.setTask i (.panicked panic)
  | .ok (.error err) => s.setTask i (.finished (some err))
  | .ok (.ok messages) => s.setTask i (.wantSend call messages)

/-- From the return of `maybe_send_header` up to the wait for the lock; `send_datagram` does
    not lock the stream again. -/
def State.runBody (s : State) (i : Nat) : Call → State
  | .sendDatagram datagram =>
    match s.channel.datagramSender with
    | none => s.setTask i (.finished (some (.datagramSenderMissing s.channel.info.channelId)))
    | some sender =>
      match sender.frame datagram with
      | .error panic => s.setTask i (.panicked panic)
      | .ok buf => { s.setTask i (.finished none) with datagrams := s.datagrams ++ [buf] }
  | call => s.awaitSend i call (call.messages s.channel.info.maxPacketSize)

/-- `confirm_channel` notes its success. -/
def Call.finish (channel : Channel) : Call → Channel
  | .confirmChannel _ => { channel with confirmSent := true }
  | _ => channel

/-- A task is started or goes on -/
inductive Action where
  /-- A task starts a call. -/
  | spawn (call : Call)
  /-- Task `i` goes on; if it writes next, it writes up to `n + 1` bytes. -/
  | advance (i n : Nat)
  deriving DecidableEq, Repr

/-- `none` while the task waits for the lock, and once it is done. -/
def State.advance (s : State) (i n : Nat) : Task → Option State
  | .start call =>
    match s.channel.header with
    | some header => some { s.setTask i (.wantHeader call header) with
        channel := { s.channel with header := none } }
    | none => some (s.setTask i (.body call))
  | .wantHeader call header =>
    if s.lock = none then some { s.setTask i (.writeHeader call header) with lock := some i }
    else none
  | .writeHeader call [] => some { s.setTask i (.body call) with lock := none }
  | .writeHeader call (b :: rest) => some { s.setTask i (.writeHeader call (rest.drop n)) with
      sent := s.sent ++ b :: rest.take n }
  | .body call => some (s.runBody i call)
  | .wantSend call messages =>
    if s.lock = none then some { s.setTask i (.writing call [] messages) with lock := some i }
    else none
  | .writing call [] [] => some { s.setTask i (.finished none) with
      lock := none, channel := call.finish s.channel }
  | .writing call [] (message :: messages) =>
    match message.toVec with
    | .error panic => some { s.setTask i (.panicked panic) with lock := none }
    | .ok encoded => some (s.setTask i (.writing call encoded messages))
  | .writing call (b :: rest) messages =>
    some { s.setTask i (.writing call (rest.drop n) messages) with
      sent := s.sent ++ b :: rest.take n }
  | .finished _ | .panicked _ => none

/-- One task goes on. -/
def step (s : State) : Action → Option State
  | .spawn call => some { s with tasks := s.tasks ++ [.start call] }
  | .advance i n => s.tasks[i]?.bind (s.advance i n)

/-- The header once, then whole messages: `sent` is a beginning of that. -/
def Framed (header sent : List UInt8) : Prop :=
  ∃ messages frames, Encodings messages frames ∧ sent <+: header ++ frames.flatten

/-! ## The condition -/

/-- The task has the header in hand and waits for the lock. -/
def Task.holdsHeader : Task → Bool
  | .wantHeader _ _ => true
  | _ => false

/-- The first thing to be written is a message that can be encoded. -/
def speaks : List Message → Bool
  | [] => false
  | message :: _ => message.toVec.isOk

/-- Before a step: a task that is about to get the `send` lock with something to write, while
    another task waits for the lock with the header in hand. -/
def overtakes (s : State) : Action → Bool
  | .spawn _ => false
  | .advance i _ =>
    match s.tasks[i]? with
    | some (.wantSend _ messages) => speaks messages && s.tasks.any Task.holdsHeader
    | _ => false

/-- No task writes while another one has taken the header. -/
def Orderly (s : State) (a : Action) : Prop := overtakes s a = false

instance (s : State) (a : Action) : Decidable (Orderly s a) :=
  inferInstanceAs (Decidable (_ = _))

end Ssh3.Core.Framing
