/-
  Ssh3.Go.Framing

  `channel.go`: any number of goroutines that use the send side of one channel at the
  same time, over a stream whose `Write` takes its whole buffer.

  An action is what a goroutine does up to the next point at which another one may run,
  or at which the stream may be looked at: getting `sendMutex`, the write of the header,
  or the write of one message.  `sendMutex` is released together with the last of these.
  A panic releases it too, since the unlocking is deferred.

  All writes go through one lock, and each call first writes the header if it is still
  there.  So the stream is the header followed by whole messages, and the messages of a
  call stand together.
-/

import Ssh3.Go.WriteData
import Ssh3.Lib.Tasks
import Ssh3.Lib.Transition

namespace Ssh3.Go.Framing

open Fallible Transition Tasks
open Proto (SshDataType)

/-! ## Goroutines -/

/-- The methods that use the send side of a channel, with their arguments. -/
inductive Call where
  | writeData (dataBuf : List UInt8) (dataType : SshDataType)
  | sendRequest (r : ChannelRequestMessage)
  | confirmChannel (maxPacketSize : UInt64)
  | sendDatagram (datagram : List UInt8)
  | maybeSendHeader
  deriving DecidableEq

/-- Where a goroutine is in its call. -/
inductive Task where
  /-- Before `sendMutex.Lock()` -/
  | start (call : Call)
  /-- Has `sendMutex`; `maybeSendHeaderLocked` comes next. -/
  | locked (call : Call)
  /-- In the loop of `WriteData` -/
  | writing (dataBuf : List UInt8) (dataType : SshDataType) (written : Nat)
  /-- In `sendMessage`, after the header; `confirms` in a call of `confirmChannel` -/
  | sending (m : Message) (confirms : Bool)
  /-- In `confirmChannel`, after `sendMessage` -/
  | confirming
  /-- In `SendDatagram`, after `maybeSendHeader` -/
  | datagram (datagram : List UInt8)
  | returned (written : Nat) (err : Option GoError)
  | panicked (p : GoPanic)
  deriving DecidableEq

/-- One message on the stream, and the goroutine that wrote it. -/
structure Frame where
  task : Nat
  bytes : List UInt8
  deriving DecidableEq

/-- A datagram handed to the transport, and what was on the stream by then. -/
structure SentDatagram where
  datagram : List UInt8
  sentBefore : List UInt8
  deriving DecidableEq

/-- What of the channel does not change. -/
structure ChannelInfo where
  maxPacketSize : UInt64
  conversationStreamID : UInt64
  channelID : UInt64
  channelType : List UInt8
  /-- `c.datagramSender != nil` -/
  hasDatagramSender : Bool
  deriving DecidableEq

/-- A channel that several goroutines write to -/
structure State where
  header : List UInt8
  confirmSent : Bool
  /-- The goroutine that holds `sendMutex` -/
  lock : Option Nat
  tasks : List Task
  /-- The bytes on the send stream -/
  sent : List UInt8
  /-- The messages among them, as bookkeeping -/
  frames : List Frame
  datagrams : List SentDatagram
  deriving DecidableEq

def init (header : List UInt8) (confirmSent : Bool) : State where
  header := header
  confirmSent := confirmSent
  lock := none
  tasks := []
  sent := []
  frames := []
  datagrams := []

def newChannel (info : ChannelInfo) (sendHeader confirmSent : Bool)
    (additionalHeaderBytes : List UInt8) : Except GoPanic State :=
  if sendHeader then do
    let header ← buildHeader info.conversationStreamID info.channelType info.maxPacketSize
      additionalHeaderBytes
    return init header confirmSent
  else
    .ok (init [] confirmSent)

/-! ## Steps -/

namespace State

def setTask (s : State) (i : Nat) (task : Task) : State := { s with tasks := s.tasks.set i task }

/-- The deferred `sendMutex.Unlock()` -/
def unlock (s : State) (i : Nat) (task : Task) : State := { s.setTask i task with lock := none }

/-- `maybeSendHeaderLocked` -/
def sendHeader (s : State) : State := { s with header := [], sent := s.sent ++ s.header }

/-- `c.send.Write(bytes)`, of a message -/
def write (s : State) (i : Nat) (bytes : List UInt8) : State :=
  { s with sent := s.sent ++ bytes, frames := s.frames ++ [⟨i, bytes⟩] }

/-- What follows `maybeSendHeaderLocked` -/
def afterHeader (s : State) (i : Nat) : Call → State
  | .writeData dataBuf dataType => s.setTask i (.writing dataBuf dataType 0)
  | .sendRequest r => s.setTask i (.sending (.channelRequest r) false)
  | .confirmChannel maxPacketSize =>
    s.setTask i (.sending (.channelOpenConfirmation { maxPacketSize }) true)
  | .sendDatagram datagram => s.unlock i (.datagram datagram)
  | .maybeSendHeader => s.unlock i (.returned 0 none)

/-- One turn of the loop of `WriteData` -/
def writeNext (s : State) (i : Nat) (maxPacketSize : UInt64) (dataBuf : List UInt8)
    (dataType : SshDataType) (written : Nat) : State :=
  match call (nextDataMessage maxPacketSize dataType dataBuf) () with
  | .error p => s.unlock i (.panicked p)
  | .ok (.error err, _) => s.unlock i (.returned written (some err))
  | .ok (.ok dataMsg, _) =>
    match call (encodeMessage (.data dataMsg)) () with
    | .error p => s.unlock i (.panicked p)
    | .ok (.error err, _) => s.unlock i (.returned written (some err))
    | .ok (.ok msgBuf, _) =>
      let msgLen := dataMsg.data.length
      (s.write i msgBuf).setTask i (.writing (dataBuf.drop msgLen) dataType (written + msgLen))

/-- The rest of `sendMessage` -/
def send (s : State) (i : Nat) (m : Message) (confirms : Bool) : State :=
  match call (encodeMessage m) () with
  | .error p => s.unlock i (.panicked p)
  | .ok (.error err, _) => s.unlock i (.returned 0 (some err))
  | .ok (.ok buf, _) =>
    (s.write i buf).unlock i (if confirms then .confirming else .returned 0 none)

/-- The rest of `SendDatagram`; `senderErr` is what the sender returns. -/
def sendDatagram (s : State) (i : Nat) (info : ChannelInfo) (datagram : List UInt8)
    (senderErr : Option GoError) : State :=
  if info.hasDatagramSender then
    { s.setTask i (.returned 0 senderErr) with
      datagrams := s.datagrams ++ [{ datagram, sentBefore := s.sent }] }
  else
    s.setTask i (.returned 0 (some (.sentDatagramOnNonDatagramChannel info.channelID)))

/-- `none` while the goroutine waits for `sendMutex`, and once it is done. -/
def advance (s : State) (info : ChannelInfo) (i : Nat) (senderErr : Option GoError) :
    Task → Option State
  | .start call =>
    if s.lock = none then some { s.setTask i (.locked call) with lock := some i } else none
  | .locked call => some (s.sendHeader.afterHeader i call)
  | .writing [] _ written => some (s.unlock i (.returned written none))
  | .writing (b :: bs) dataType written =>
    some (s.writeNext i info.maxPacketSize (b :: bs) dataType written)
  | .sending m confirms => some (s.send i m confirms)
  | .confirming => some { s.setTask i (.returned 0 none) with confirmSent := true }
  | .datagram datagram => some (s.sendDatagram i info datagram senderErr)
  | .returned _ _ | .panicked _ => none

end State

/-- A goroutine is started or goes on -/
inductive Action where
  /-- A goroutine starts a call. -/
  | go (call : Call)
  /-- Goroutine `i` goes on. -/
  | advance (i : Nat) (senderErr : Option GoError)
  deriving DecidableEq

/-- One goroutine goes on. -/
def step (info : ChannelInfo) (s : State) : Action → Option State
  | .go call => some { s with tasks := s.tasks ++ [.start call] }
  | .advance i senderErr => s.tasks[i]?.bind (s.advance info i senderErr)

/-! ## What a goroutine can do -/

def Task.holdsLock : Task → Bool
  | .locked _ | .writing _ _ _ | .sending _ _ => true
  | _ => false

/-- The goroutine is past `maybeSendHeader`. -/
def Task.pastHeader : Task → Bool
  | .start _ | .locked _ => false
  | _ => true

/-- The bytes are those of one message. -/
def IsMessage (bytes : List UInt8) : Prop :=
  ∃ m : Message, call (encodeMessage m) () = .ok (.ok bytes, ())

/-- What a step of goroutine `i`, in the state `old`, does to the state of the channel. -/
inductive Advance (s : State) (i : Nat) (old : Task) : State → Prop
  | lock {task : Task} : s.lock = none → old.pastHeader = false → task.pastHeader = false →
      Advance s i old { s.setTask i task with lock := some i }
  | header {task : Task} {lock : Option Nat} : old.holdsLock = true → old.pastHeader = false →
      task.pastHeader = true → (lock = none ∧ task.holdsLock = false ∨ lock = s.lock) →
      Advance s i old { s.sendHeader.setTask i task with lock }
  | message {task : Task} {lock : Option Nat} {bytes : List UInt8} : old.holdsLock = true →
      old.pastHeader = true → task.pastHeader = true → IsMessage bytes →
      (lock = none ∧ task.holdsLock = false ∨ lock = s.lock) →
      Advance s i old { (s.write i bytes).setTask i task with lock }
  | unlock {task : Task} : old.holdsLock = true → old.pastHeader = true →
      task.holdsLock = false → task.pastHeader = true → Advance s i old (s.unlock i task)
  | outside {task : Task} {confirmSent : Bool} {datagrams : List SentDatagram} :
      old.holdsLock = false → old.pastHeader = true → task.holdsLock = false →
      task.pastHeader = true →
      (∀ d ∈ datagrams, d ∈ s.datagrams ∨ d.sentBefore = s.sent) →
      Advance s i old { s.setTask i task with confirmSent, datagrams }

section Advance

variable {s t : State} {info : ChannelInfo} {i : Nat} {old : Task} {senderErr : Option GoError}

theorem advance_afterHeader (s : State) (i : Nat) (call : Call) :
    Advance s i (.locked call) (s.sendHeader.afterHeader i call) := by
  cases call with
  | writeData dataBuf dataType => exact .header rfl rfl rfl (.inr rfl)
  | sendRequest r => exact .header rfl rfl rfl (.inr rfl)
  | confirmChannel maxPacketSize => exact .header rfl rfl rfl (.inr rfl)
  | sendDatagram datagram => exact .header rfl rfl rfl (.inl ⟨rfl, rfl⟩)
  | maybeSendHeader => exact .header rfl rfl rfl (.inl ⟨rfl, rfl⟩)

theorem advance_writeNext (s : State) (i : Nat) (maxPacketSize : UInt64) (dataBuf : List UInt8)
    (dataType : SshDataType) (written : Nat) :
    Advance s i (.writing dataBuf dataType written)
      (s.writeNext i maxPacketSize dataBuf dataType written) := by
  unfold State.writeNext
  rcases call (nextDataMessage maxPacketSize dataType dataBuf) () with p | ⟨err | dataMsg, _⟩
  · exact .unlock rfl rfl rfl rfl
  · exact .unlock rfl rfl rfl rfl
  · rcases hmessage : call (encodeMessage (.data dataMsg)) () with p | ⟨err | msgBuf, _⟩
    · simp only [hmessage]
      exact .unlock rfl rfl rfl rfl
    · simp only [hmessage]
      exact .unlock rfl rfl rfl rfl
    · simp only [hmessage]
      exact .message rfl rfl rfl ⟨_, hmessage⟩ (.inr rfl)

theorem advance_send (s : State) (i : Nat) (m : Message) (confirms : Bool) :
    Advance s i (.sending m confirms) (s.send i m confirms) := by
  unfold State.send
  rcases hmessage : call (encodeMessage m) () with p | ⟨err | buf, _⟩
  · exact .unlock rfl rfl rfl rfl
  · exact .unlock rfl rfl rfl rfl
  · cases confirms with
    | true => exact .message rfl rfl rfl ⟨m, hmessage⟩ (.inl ⟨rfl, rfl⟩)
    | false => exact .message rfl rfl rfl ⟨m, hmessage⟩ (.inl ⟨rfl, rfl⟩)

theorem advance_sendDatagram (s : State) (i : Nat) (info : ChannelInfo) (datagram : List UInt8)
    (senderErr : Option GoError) :
    Advance s i (.datagram datagram) (s.sendDatagram i info datagram senderErr) := by
  unfold State.sendDatagram
  cases info.hasDatagramSender with
  | true =>
    refine .outside rfl rfl rfl rfl ?_
    intro d hd
    rcases List.mem_append.mp hd with hold | hnew
    · exact .inl hold
    · rw [List.mem_singleton.mp hnew]
      exact .inr rfl
  | false => exact .outside rfl rfl rfl rfl fun d hd => .inl hd

theorem advance_of_eq_some (h : s.advance info i senderErr old = some t) : Advance s i old t := by
  cases old with
  | start call =>
    simp only [State.advance, Option.ite_none_right_eq_some, Option.some.injEq] at h
    obtain ⟨hlock, rfl⟩ := h
    exact .lock hlock rfl rfl
  | locked call =>
    cases h
    exact advance_afterHeader s i call
  | writing dataBuf dataType written =>
    cases dataBuf with
    | nil =>
      cases h
      exact .unlock rfl rfl rfl rfl
    | cons b bs =>
      cases h
      exact advance_writeNext s i info.maxPacketSize (b :: bs) dataType written
  | sending m confirms =>
    cases h
    exact advance_send s i m confirms
  | confirming =>
    cases h
    exact .outside rfl rfl rfl rfl fun d hd => .inl hd
  | datagram datagram =>
    cases h
    exact advance_sendDatagram s i info datagram senderErr
  | returned written err => cases h
  | panicked p => cases h

end Advance

/-! ## The invariant -/

/-- Nothing has been written, or the header and then the messages. -/
def Stream (header : List UInt8) (s : State) : Prop :=
  (s.header = header ∧ s.sent = [] ∧ s.frames = []) ∨
  (s.header = [] ∧ s.sent = header ++ (s.frames.map Frame.bytes).flatten)

/-- The header comes first, messages are whole, and those of a call stay together. -/
structure Inv (header : List UInt8) (s : State) : Prop where
  locked : Locked Task.holdsLock s.lock s.tasks
  stream : Stream header s
  past : ∀ (i : Nat) (task : Task), s.tasks[i]? = some task → task.pastHeader = true → s.header = []
  whole : ∀ frame ∈ s.frames, IsMessage frame.bytes
  /-- A goroutine that is not past the header has written no message. -/
  early : ∀ (i : Nat) (task : Task), s.tasks[i]? = some task → task.pastHeader = false →
    ∀ frame ∈ s.frames, frame.task ≠ i
  bound : ∀ frame ∈ s.frames, frame.task < s.tasks.length
  contiguous : ∀ i, Contiguous Frame.task i s.frames
  /-- The goroutine that holds the lock was the last one to write. -/
  trailing : ∀ i, s.lock = some i → Trailing Frame.task i s.frames
  datagrams : ∀ d ∈ s.datagrams, header <+: d.sentBefore

theorem init_tasks (header : List UInt8) (confirmSent : Bool) (i : Nat) (task : Task) :
    (init header confirmSent).tasks[i]? ≠ some task := by
  simp [init]

theorem inv_init (header : List UInt8) (confirmSent : Bool) :
    Inv header (init header confirmSent) where
  locked := fun i task hget => absurd hget (init_tasks header confirmSent i task)
  stream := .inl ⟨rfl, rfl, rfl⟩
  past := fun i task hget => absurd hget (init_tasks header confirmSent i task)
  whole := nofun
  early := fun i task hget => absurd hget (init_tasks header confirmSent i task)
  bound := nofun
  contiguous := fun _ => (trailing_of_none nofun).contiguous
  trailing := nofun
  datagrams := nofun

theorem Stream.sent_eq {header : List UInt8} {s : State} (h : Stream header s)
    (hnil : s.header = []) : s.sent = header ++ (s.frames.map Frame.bytes).flatten := by
  rcases h with ⟨hheader, hsent, hframes⟩ | ⟨-, hsent⟩
  · rw [hsent, hframes, ← hheader, hnil]
    rfl
  · exact hsent

section Step

variable {header : List UInt8} {s t : State} {i : Nat} {old task : Task} {lock : Option Nat}

theorem Inv.moveLock (h : Inv header s) (hget : s.tasks[i]? = some old)
    (hold : old.holdsLock = true)
    (hlock : lock = none ∧ task.holdsLock = false ∨ lock = s.lock) :
    Locked Task.holdsLock lock (s.tasks.set i task) := by
  rcases hlock with ⟨rfl, hself⟩ | rfl
  · exact h.locked.release hget hold hself
  · exact h.locked.keep fun _ => h.locked i old hget hold

/-- Once the header has been written, a step of one goroutine leaves the others with it. -/
theorem Inv.past_set (h : Inv header s) (hself : s.header = []) :
    ∀ (k : Nat) (other : Task), (s.tasks.set i task)[k]? = some other →
      other.pastHeader = true → s.header = [] :=
  forall_set (fun _ => hself) fun k other hget _ => h.past k other hget

theorem Inv.early_set (h : Inv header s) (hself : task.pastHeader = true) :
    ∀ (k : Nat) (other : Task), (s.tasks.set i task)[k]? = some other →
      other.pastHeader = false → ∀ frame ∈ s.frames, frame.task ≠ k := by
  refine forall_set (fun hearly => ?_) fun k other hget _ => h.early k other hget
  rw [hself] at hearly
  cases hearly

theorem Inv.bound_set (h : Inv header s) :
    ∀ frame ∈ s.frames, frame.task < (s.tasks.set i task).length := by
  intro frame hframe
  rw [List.length_set]
  exact h.bound frame hframe

theorem Inv.advance_lock (h : Inv header s) (hget : s.tasks[i]? = some old) (hlock : s.lock = none)
    (hold : old.pastHeader = false) (hself : task.pastHeader = false) :
    Inv header { s.setTask i task with lock := some i } where
  locked := by
    have hlocked := h.locked
    rw [hlock] at hlocked
    exact hlocked.acquire
  stream := h.stream
  past := by
    refine forall_set (fun hpast => ?_) fun k other hother _ => h.past k other hother
    rw [hself] at hpast
    cases hpast
  whole := h.whole
  early := forall_set (fun _ => h.early i old hget hold) fun k other hother _ =>
    h.early k other hother
  bound := h.bound_set
  contiguous := h.contiguous
  trailing := by
    intro k hk
    cases hk
    exact trailing_of_none (h.early i old hget hold)
  datagrams := h.datagrams

theorem Inv.advance_header (h : Inv header s) (hget : s.tasks[i]? = some old)
    (hold : old.holdsLock = true) (hself : task.pastHeader = true)
    (hlock : lock = none ∧ task.holdsLock = false ∨ lock = s.lock) :
    Inv header { s.sendHeader.setTask i task with lock } where
  locked := h.moveLock hget hold hlock
  stream := by
    refine .inr ⟨rfl, ?_⟩
    show s.sent ++ s.header = header ++ (s.frames.map Frame.bytes).flatten
    rcases h.stream with ⟨hheader, hsent, hframes⟩ | ⟨hnil, hsent⟩
    · rw [hsent, hheader, hframes]
      simp
    · rw [hnil, List.append_nil, hsent]
  past := fun _ _ _ _ => rfl
  whole := h.whole
  early := h.early_set hself
  bound := h.bound_set
  contiguous := h.contiguous
  trailing := by
    intro k hk
    rcases hlock with ⟨hnone, -⟩ | hsame
    · cases hnone.symm.trans hk
    · exact h.trailing k (hsame.symm.trans hk)
  datagrams := h.datagrams

theorem Inv.advance_message {bytes : List UInt8} (h : Inv header s)
    (hget : s.tasks[i]? = some old) (hold : old.holdsLock = true)
    (hpast : old.pastHeader = true) (hself : task.pastHeader = true) (hmessage : IsMessage bytes)
    (hlock : lock = none ∧ task.holdsLock = false ∨ lock = s.lock) :
    Inv header { (s.write i bytes).setTask i task with lock } := by
  have hnil := h.past i old hget hpast
  have hholder := h.locked i old hget hold
  have htrailing : Trailing Frame.task i (s.frames ++ [⟨i, bytes⟩]) :=
    (h.trailing i hholder).append rfl
  refine ⟨h.moveLock hget hold hlock, ?_, h.past_set hnil, ?_, ?_, ?_, ?_, ?_, h.datagrams⟩
  · refine .inr ⟨hnil, ?_⟩
    show s.sent ++ bytes = header ++ ((s.frames ++ [Frame.mk i bytes]).map Frame.bytes).flatten
    rw [h.stream.sent_eq hnil]
    simp
  · intro frame hframe
    rcases List.mem_append.mp hframe with hframe | hframe
    · exact h.whole frame hframe
    · rw [List.mem_singleton.mp hframe]
      exact hmessage
  · -- a goroutine that is not past the header is another one
    refine forall_set (fun hearly => ?_) fun k other hother hk hearly frame hframe => ?_
    · rw [hself] at hearly
      cases hearly
    · rcases List.mem_append.mp hframe with hframe | hframe
      · exact h.early k other hother hearly frame hframe
      · rw [List.mem_singleton.mp hframe]
        exact Ne.symm hk
  · intro frame hframe
    show frame.task < (s.tasks.set i task).length
    rcases List.mem_append.mp hframe with hframe | hframe
    · exact h.bound_set frame hframe
    · rw [List.mem_singleton.mp hframe, List.length_set]
      exact (List.getElem?_eq_some_iff.mp hget).1
  · intro k
    by_cases hk : k = i
    · rw [hk]
      exact htrailing.contiguous
    · exact (h.contiguous k).append_other (Ne.symm hk)
  · intro k hk
    rcases hlock with ⟨hnone, -⟩ | hsame
    · cases hnone.symm.trans hk
    · have hki : some i = some k := hholder.symm.trans (hsame.symm.trans hk)
      cases hki
      exact htrailing

theorem Inv.advance_unlock (h : Inv header s) (hget : s.tasks[i]? = some old)
    (hold : old.holdsLock = true) (hpast : old.pastHeader = true)
    (hlock : task.holdsLock = false) (hself : task.pastHeader = true) :
    Inv header (s.unlock i task) where
  locked := h.locked.release hget hold hlock
  stream := h.stream
  past := h.past_set (h.past i old hget hpast)
  whole := h.whole
  early := h.early_set hself
  bound := h.bound_set
  contiguous := h.contiguous
  trailing := nofun
  datagrams := h.datagrams

theorem Inv.advance_outside {confirmSent : Bool} {datagrams : List SentDatagram}
    (h : Inv header s) (hget : s.tasks[i]? = some old) (hpast : old.pastHeader = true)
    (hlock : task.holdsLock = false) (hself : task.pastHeader = true)
    (hdatagrams : ∀ d ∈ datagrams, d ∈ s.datagrams ∨ d.sentBefore = s.sent) :
    Inv header { s.setTask i task with confirmSent, datagrams } where
  locked := by
    refine h.locked.keep fun hholds => ?_
    rw [hlock] at hholds
    cases hholds
  stream := h.stream
  past := h.past_set (h.past i old hget hpast)
  whole := h.whole
  early := h.early_set hself
  bound := h.bound_set
  contiguous := h.contiguous
  trailing := h.trailing
  datagrams := by
    intro d hd
    rcases hdatagrams d hd with hold | hnew
    · exact h.datagrams d hold
    · rw [hnew, h.stream.sent_eq (h.past i old hget hpast)]
      exact List.prefix_append _ _

theorem Inv.go (h : Inv header s) (call : Call) :
    Inv header { s with tasks := s.tasks ++ [.start call] } where
  locked := h.locked.spawn rfl
  stream := h.stream
  past := forall_append nofun h.past
  whole := h.whole
  early := by
    refine forall_append (fun _ frame hframe => ?_) h.early
    have hlt := h.bound frame hframe
    omega
  bound := by
    intro frame hframe
    have hlt := h.bound frame hframe
    rw [List.length_append]
    omega
  contiguous := h.contiguous
  trailing := h.trailing
  datagrams := h.datagrams

/-- **Step lemma.**  The header stays in front of whole messages, and those of one call stay
    together. -/
theorem Inv.step {info : ChannelInfo} {a : Action} (h : Inv header s)
    (hstep : Framing.step info s a = some t) : Inv header t := by
  cases a with
  | go call =>
    cases hstep
    exact h.go call
  | advance i senderErr =>
    obtain ⟨old, hget, hadvance⟩ := Option.bind_eq_some_iff.mp hstep
    cases advance_of_eq_some hadvance with
    | lock hlock hold hself => exact h.advance_lock hget hlock hold hself
    | header hold _ hself hlock => exact h.advance_header hget hold hself hlock
    | message hold hpast hself hmessage hlock =>
      exact h.advance_message hget hold hpast hself hmessage hlock
    | unlock hold hpast hlock hself => exact h.advance_unlock hget hold hpast hlock hself
    | outside _ hpast hlock hself hdatagrams =>
      exact h.advance_outside hget hpast hlock hself hdatagrams

end Step

theorem newChannel_sendHeader {info : ChannelInfo} {confirmSent : Bool}
    {additionalHeaderBytes : List UInt8} {s : State}
    (h : newChannel info true confirmSent additionalHeaderBytes = .ok s) :
    ∃ header, buildHeader info.conversationStreamID info.channelType info.maxPacketSize
      additionalHeaderBytes = .ok header ∧ s = init header confirmSent := by
  rw [newChannel, if_pos rfl] at h
  cases hheader : buildHeader info.conversationStreamID info.channelType info.maxPacketSize
      additionalHeaderBytes with
  | error p =>
    rw [hheader] at h
    cases h
  | ok header =>
    rw [hheader] at h
    cases h
    exact ⟨header, rfl, rfl⟩

/-- **Framing.**  Whatever goroutines call whatever methods of a channel that was created with
    its header still to send, and however they interleave: the stream is empty, or it is the
    header once and then whole messages; the messages of each call stand together; and every
    datagram was handed to the transport after the whole header was on the stream. -/
theorem concurrent_calls_framed {info : ChannelInfo} {confirmSent : Bool}
    {additionalHeaderBytes : List UInt8} {new s : State} {as : List Action}
    (hnew : newChannel info true confirmSent additionalHeaderBytes = .ok new)
    (h : Run (step info) anyStep new as s) :
    ∃ header, buildHeader info.conversationStreamID info.channelType info.maxPacketSize
        additionalHeaderBytes = .ok header ∧
      (s.sent = [] ∧ s.frames = [] ∨ s.sent = header ++ (s.frames.map Frame.bytes).flatten) ∧
      (∀ frame ∈ s.frames, IsMessage frame.bytes) ∧
      (∀ i, Contiguous Frame.task i s.frames) ∧
      ∀ d ∈ s.datagrams, header <+: d.sentBefore := by
  obtain ⟨header, hheader, rfl⟩ := newChannel_sendHeader hnew
  have hinv : Inv header s := h.invariant (fun _ _ _ hinv _ hstep => hinv.step hstep)
    (inv_init header confirmSent)
  refine ⟨header, hheader, ?_, hinv.whole, hinv.contiguous, hinv.datagrams⟩
  rcases hinv.stream with ⟨-, hsent, hframes⟩ | ⟨-, hsent⟩
  · exact .inl ⟨hsent, hframes⟩
  · exact .inr hsent

def udpChannel : ChannelInfo where
  maxPacketSize := 64
  conversationStreamID := 0
  channelID := 4
  channelType := Proto.ascii "u"
  hasDatagramSender := true

/-- `WriteData` gets the lock before `SendDatagram`, which finds no header left. -/
theorem concurrent_calls_framed_datagram :
    ∃ new s header, newChannel udpChannel true false [] = .ok new ∧
      Run (step udpChannel) anyStep new
        [.go (.sendDatagram [9]), .go (.writeData [1, 2] 0), .advance 1 none, .advance 1 none,
          .advance 1 none, .advance 1 none, .advance 0 none, .advance 0 none, .advance 0 none] s ∧
      s.frames.length = 1 ∧ s.datagrams.length = 1 ∧
      s.sent = header ++ (s.frames.map Frame.bytes).flatten ∧
      ∀ d ∈ s.datagrams, header <+: d.sentBefore := by
  have hnew : newChannel udpChannel true false [] =
      .ok (init [0xc0, 0, 0, 0, 0xaf, 0x36, 0x27, 0xe6, 0, 1, 0x75, 0x40, 64] false) := by
    decide +kernel
  have hlengths : (exec (step udpChannel) anyStep
      (init [0xc0, 0, 0, 0, 0xaf, 0x36, 0x27, 0xe6, 0, 1, 0x75, 0x40, 64] false)
      [.go (.sendDatagram [9]), .go (.writeData [1, 2] 0), .advance 1 none, .advance 1 none,
        .advance 1 none, .advance 1 none, .advance 0 none, .advance 0 none,
        .advance 0 none]).map (fun s => (s.frames.length, s.datagrams.length)) = some (1, 1) := by
    decide +kernel
  obtain ⟨s, hexec, hs⟩ := Option.map_eq_some_iff.mp hlengths
  obtain ⟨hframes, hdatagrams⟩ := Prod.mk.inj hs
  obtain ⟨header, -, hsent, -, -, hbefore⟩ :=
    concurrent_calls_framed hnew (run_of_exec hexec)
  refine ⟨_, s, header, hnew, run_of_exec hexec, hframes, hdatagrams, ?_, hbefore⟩
  rcases hsent with ⟨-, hnil⟩ | hsent
  · rw [hnil] at hframes
    cases hframes
  · exact hsent

end Ssh3.Go.Framing
