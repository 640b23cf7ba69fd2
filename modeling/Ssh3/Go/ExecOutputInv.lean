/-
  Ssh3.Go.ExecOutputInv

  What every step of the goroutines of `execCmdInBackground` preserves.

  A channel is closed only after its last value has been sent, and its variable becomes
  nil only after that value has been received.  So when all three variables are nil, no
  output is left anywhere between a reader and the SSH channel.
-/

import Ssh3.Go.ExecOutput

namespace Ssh3.Go.ExecOutput

open Fallible Transition
open Proto (SshDataType DataOrExtendedDataMessage)

/-! ## What is where -/

theorem Output.dataType_le (output : Output) : output.dataType ≤ Proto.MAX_VARINT := by
  cases output <;> decide

theorem Output.dataType_inj {output other : Output} (h : output.dataType = other.dataType) :
    output = other := by
  cases output <;> cases other <;> first | rfl | exact absurd h (by decide)

/-- The bytes that the reader has still to send -/
def ReaderAt.unsent : ReaderAt → List UInt8
  | .reading reads | .sending reads => reads.bytes
  | .closing | .signalling | .finished => []

theorem Reads.result_next (reads : Reads) :
    reads.result.data ++ reads.next.unsent = reads.bytes := by
  cases reads with
  | last data err => exact List.append_nil data
  | more data rest => rfl

/-- The bytes between an output and the SSH channel -/
def Stream.unsent (stream : Stream) : List UInt8 :=
  stream.chan.buffer.flatMap (·.data) ++ stream.reader.unsent

/-- All that is read from an output -/
def bytesRead : Option Reads → List UInt8
  | none => []
  | some reads => reads.bytes

/-- What the messages for one output carry -/
def carried (output : Output) (messages : List DataOrExtendedDataMessage) : List UInt8 :=
  (messages.filter fun message => message.dataType = output.dataType).flatMap (·.data)

/-- The messages of one call of `WriteData` -/
def dataMessages (output : Output) (payloads : List (List UInt8)) :
    List DataOrExtendedDataMessage :=
  payloads.map fun data => { dataType := output.dataType, data }

theorem carried_append (output : Output) (messages more : List DataOrExtendedDataMessage) :
    carried output (messages ++ more) = carried output messages ++ carried output more := by
  rw [carried, List.filter_append, List.flatMap_append]
  rfl

theorem carried_dataMessages (output : Output) (payloads : List (List UInt8)) :
    carried output (dataMessages output payloads) = payloads.flatten := by
  induction payloads with
  | nil => rfl
  | cons data payloads ih =>
    have hcons := carried_append output (dataMessages output [data]) (dataMessages output payloads)
    have hone : carried output (dataMessages output [data]) = data := by
      simp [carried, dataMessages]
    rw [hone, ih] at hcons
    exact hcons

theorem carried_dataMessages_other {output other : Output} (hne : other ≠ output)
    (payloads : List (List UInt8)) : carried other (dataMessages output payloads) = [] := by
  have hnone : (dataMessages output payloads).filter
      (fun message => message.dataType = other.dataType) = [] := by
    rw [List.filter_eq_nil_iff]
    intro message hmem
    obtain ⟨data, -, rfl⟩ := List.mem_map.mp hmem
    exact fun h => hne (Output.dataType_inj (of_decide_eq_true h)).symm
  rw [carried, hnone]
  rfl

/-- The messages are data messages for one of the outputs, and can be read back. -/
def Sound (messages : List DataOrExtendedDataMessage) : Prop :=
  ∀ message ∈ messages, (∃ output : Output, message.dataType = output.dataType) ∧
    (Proto.Message.data message).Encodable

theorem sound_dataMessages (output : Output) {payloads : List (List UInt8)}
    (h : ∀ payload ∈ payloads, Proto.SshBytesOk payload) :
    Sound (dataMessages output payloads) := by
  intro message hmem
  obtain ⟨data, hdata, rfl⟩ := List.mem_map.mp hmem
  exact ⟨⟨output, rfl⟩, output.dataType_le, h data hdata⟩

/-! ## The invariant -/

/-- A channel is closed once its reader has sent all it had, and its variable is nil only
    after all of that has been received. -/
structure Stream.Ok (stream : Stream) : Prop where
  closed_iff : stream.chan.closed = true ↔
    stream.reader = .signalling ∨ stream.reader = .finished
  drained : stream.isNil = true → stream.chan.closed = true ∧ stream.chan.buffer = []

theorem Stream.Ok.unsent_eq_nil {stream : Stream} (h : stream.Ok) (hnil : stream.isNil = true) :
    stream.unsent = [] := by
  obtain ⟨hclosed, hbuffer⟩ := h.drained hnil
  rw [Stream.unsent, hbuffer]
  obtain hreader | hreader := h.closed_iff.mp hclosed <;> rw [hreader] <;> rfl

def ReaderAt.unfinished : ReaderAt → Nat
  | .finished => 0
  | .reading _ | .sending _ | .closing | .signalling => 1

def WaiterAt.hasSent : WaiterAt → Bool
  | .waiting | .reaping | .sending => false
  | .closing | .finished => true

/-- What holds of the goroutines and their channels. -/
structure Live (waitErr : Option WaitError) (s : State) : Prop where
  stream : ∀ output, (s.stream output).Ok
  readers : s.outputReaders =
    (s.stream .stdout).reader.unfinished + (s.stream .stderr).reader.unfinished
  joined : s.waiter ≠ .waiting → ∀ output, (s.stream output).reader = .finished
  closed_iff : s.execResultChan.closed = true ↔ s.waiter = .finished
  drained : s.execIsNil = true → s.execResultChan.closed = true ∧ s.execResultChan.buffer = []
  unsent : s.waiter.hasSent = false → s.execResultChan.buffer = []
  /-- The result of `Wait` is in its channel, or it has become the exit status. -/
  sent : s.waiter.hasSent = true → s.execResultChan.buffer = [waitErr] ∨
    s.execResultChan.buffer = [] ∧ s.execExitStatus = Go.execExitStatus waitErr

section Messages

variable (base : List UInt8) (total : Output → List UInt8)

/-- The messages sent so far and what is under way are all that is read. -/
def Sending (s : State) : Prop :=
  ∃ messages, s.half.sent ++ s.half.header =
      base ++ (messages.map Proto.Message.data).flatMap Proto.Message.wire ∧
    Sound messages ∧ ∀ output, carried output messages ++ (s.stream output).unsent = total output

/-- All that is read has been sent, and then the exit status. -/
def Delivered (status : UInt64) (half : SendHalf) : Prop :=
  ∃ messages, half.sent = base ++ (messages.map Proto.Message.data ++
      [.channelRequest ⟨false, .exitStatus ⟨status⟩⟩]).flatMap Proto.Message.wire ∧
    Sound messages ∧ ∀ output, carried output messages = total output

def MainOk (waitErr : Option WaitError) (s : State) : Prop :=
  match s.main with
  | .selecting => s.allNil = false ∧ Sending base total s
  | .returned none => Delivered base total (Go.execExitStatus waitErr) s.half
  | .returned (some _) => True
  | .crashed _ => False

/-- What holds until the exit status is sent, and what holds of the loop -/
structure Inv (waitErr : Option WaitError) (s : State) : Prop where
  live : Live waitErr s
  main : MainOk base total waitErr s

end Messages

/-! ## What a step can do -/

section Steps

variable {maxPacketSize : UInt64} {waitErr : Option WaitError}

/-- The steps from a state of the invariant: none of them crashes the program. -/
inductive Stepped (maxPacketSize : UInt64) (waitErr : Option WaitError) (s : State) : State → Prop
  | read {output : Output} {reads : Reads} :
      (s.stream output).reader = .reading reads →
      Stepped maxPacketSize waitErr s
        (s.setStream output { s.stream output with reader := .sending reads })
  | sent {output : Output} {reads : Reads} {chan : Chan 1 ReadResult} :
      (s.stream output).reader = .sending reads →
      (s.stream output).chan.send reads.result = .sent chan →
      Stepped maxPacketSize waitErr s
        (s.setStream output { s.stream output with chan, reader := reads.next })
  | closed {output : Output} :
      (s.stream output).reader = .closing →
      Stepped maxPacketSize waitErr s (s.setStream output { s.stream output with
        chan := { (s.stream output).chan with closed := true }, reader := .signalling })
  | signalled {output : Output} :
      (s.stream output).reader = .signalling →
      Stepped maxPacketSize waitErr s
        { s.setStream output { s.stream output with reader := .finished } with
          outputReaders := s.outputReaders - 1 }
  | waited :
      s.waiter = .waiting → s.outputReaders = 0 →
      Stepped maxPacketSize waitErr s { s with waiter := .reaping }
  | reaped :
      s.waiter = .reaping → Stepped maxPacketSize waitErr s { s with waiter := .sending }
  | execSent {chan : Chan 1 (Option WaitError)} :
      s.waiter = .sending → s.execResultChan.send waitErr = .sent chan →
      Stepped maxPacketSize waitErr s { s with execResultChan := chan, waiter := .closing }
  | execClosed :
      s.waiter = .closing →
      Stepped maxPacketSize waitErr s { s with
        execResultChan := { s.execResultChan with closed := true }, waiter := .finished }
  | wrote {output : Output} {result : ReadResult} {chan : Chan 1 ReadResult} {n : Nat}
      {half : SendHalf} :
      s.main = .selecting → (s.stream output).chan.receive = .value result chan →
      call (WriteData maxPacketSize result.data.length result.data output.dataType) s.half =
        .ok (.ok (some (n, none)), half) →
      Stepped maxPacketSize waitErr s
        { s.setStream output { s.stream output with chan } with half }.endTurn
  | writeFailed {output : Output} {result : ReadResult} {chan : Chan 1 ReadResult}
      {err : GoError} {half : SendHalf} :
      s.main = .selecting → (s.stream output).chan.receive = .value result chan →
      Stepped maxPacketSize waitErr s
        { s.setStream output { s.stream output with chan } with
          half, main := .returned (some err) }
  | disabled {output : Output} :
      s.main = .selecting → (s.stream output).isNil = false →
      (s.stream output).chan.receive = .ended →
      Stepped maxPacketSize waitErr s
        (s.setStream output { s.stream output with isNil := true }).endTurn
  | execReceived {err : Option WaitError} {chan : Chan 1 (Option WaitError)} :
      s.main = .selecting → s.execResultChan.receive = .value err chan →
      Stepped maxPacketSize waitErr s
        { s with execResultChan := chan, execExitStatus := Go.execExitStatus err }.endTurn
  | execDisabled :
      s.main = .selecting → s.execIsNil = false → s.execResultChan.receive = .ended →
      Stepped maxPacketSize waitErr s { s with execIsNil := true }.endTurn

variable {s t : State}

variable {output : Output}

theorem Live.reader_open (h : Live waitErr s) {place : ReaderAt}
    (hreader : (s.stream output).reader = place) (hsignalling : place ≠ .signalling)
    (hfinished : place ≠ .finished) :
    (s.stream output).chan.closed = false ∧ ¬(s.stream output).isNil = true := by
  have hopen : (s.stream output).chan.closed = false := by
    rw [Bool.eq_false_iff]
    intro hclosed
    obtain hplace | hplace := (h.stream output).closed_iff.mp hclosed
    · exact hsignalling (hreader.symm.trans hplace)
    · exact hfinished (hreader.symm.trans hplace)
  refine ⟨hopen, ?_⟩
  intro hnil
  rw [((h.stream output).drained hnil).1] at hopen
  cases hopen

theorem Live.exec_open (h : Live waitErr s) {place : WaiterAt} (hwaiter : s.waiter = place)
    (hfinished : place ≠ .finished) :
    s.execResultChan.closed = false ∧ ¬s.execIsNil = true := by
  have hopen : s.execResultChan.closed = false := by
    rw [Bool.eq_false_iff]
    exact fun hclosed => hfinished (hwaiter.symm.trans (h.closed_iff.mp hclosed))
  refine ⟨hopen, ?_⟩
  intro hnil
  rw [(h.drained hnil).1] at hopen
  cases hopen

theorem stepped_readerStep (h : Live waitErr s)
    (hstep : s.readerStep output = some t) : Stepped maxPacketSize waitErr s t := by
  unfold State.readerStep at hstep
  cases hreader : (s.stream output).reader with
  | reading reads =>
    rw [hreader] at hstep
    cases hstep
    exact .read hreader
  | sending reads =>
    obtain ⟨hopen, hnil⟩ := h.reader_open hreader ReaderAt.noConfusion ReaderAt.noConfusion
    simp only [hreader, if_neg hnil] at hstep
    obtain ⟨chan, hsend⟩ | ⟨-, hsend⟩ := Chan.send_of_open hopen reads.result
    · rw [hsend] at hstep
      cases hstep
      exact .sent hreader hsend
    · rw [hsend] at hstep
      cases hstep
  | closing =>
    obtain ⟨hopen, -⟩ := h.reader_open hreader ReaderAt.noConfusion ReaderAt.noConfusion
    simp only [hreader, Chan.close_of_open hopen] at hstep
    cases hstep
    exact .closed hreader
  | signalling =>
    rw [hreader] at hstep
    cases hstep
    exact .signalled hreader
  | finished =>
    rw [hreader] at hstep
    cases hstep

theorem stepped_waiterStep (h : Live waitErr s) (hstep : s.waiterStep waitErr = some t) :
    Stepped maxPacketSize waitErr s t := by
  unfold State.waiterStep at hstep
  cases hwaiter : s.waiter with
  | waiting =>
    rw [hwaiter] at hstep
    simp only at hstep
    split_ifs at hstep with hzero
    cases hstep
    exact .waited hwaiter hzero
  | reaping =>
    rw [hwaiter] at hstep
    cases hstep
    exact .reaped hwaiter
  | sending =>
    obtain ⟨hopen, hnil⟩ := h.exec_open hwaiter WaiterAt.noConfusion
    simp only [hwaiter, if_neg hnil] at hstep
    obtain ⟨chan, hsend⟩ | ⟨-, hsend⟩ := Chan.send_of_open hopen waitErr
    · rw [hsend] at hstep
      cases hstep
      exact .execSent hwaiter hsend
    · rw [hsend] at hstep
      cases hstep
  | closing =>
    obtain ⟨hopen, hnil⟩ := h.exec_open hwaiter WaiterAt.noConfusion
    simp only [hwaiter, if_neg hnil, Chan.close_of_open hopen] at hstep
    cases hstep
    exact .execClosed hwaiter
  | finished =>
    rw [hwaiter] at hstep
    cases hstep

theorem stepped_selectOutput (hmain : s.main = .selecting)
    (hstep : s.selectOutput maxPacketSize output = some t) :
    Stepped maxPacketSize waitErr s t := by
  unfold State.selectOutput at hstep
  split_ifs at hstep with hnil
  cases hreceive : (s.stream output).chan.receive with
  | blocked =>
    rw [hreceive] at hstep
    cases hstep
  | ended =>
    rw [hreceive] at hstep
    cases hstep
    exact .disabled hmain (Bool.eq_false_iff.mpr hnil) hreceive
  | value result chan =>
    obtain ⟨n, err, half, hwrite⟩ : ∃ n err half,
        call (WriteData maxPacketSize result.data.length result.data output.dataType) s.half =
          .ok (.ok (some (n, err)), half) :=
      WriteData_returns output.dataType_le s.half (Nat.le_refl _)
    rw [hreceive] at hstep
    simp only [State.writeResult, State.setStream, hwrite] at hstep
    cases err with
    | none =>
      cases hstep
      exact .wrote hmain hreceive hwrite
    | some err =>
      cases hstep
      exact .writeFailed hmain hreceive

theorem stepped_selectExec (hmain : s.main = .selecting) (hstep : s.selectExec = some t) :
    Stepped maxPacketSize waitErr s t := by
  unfold State.selectExec at hstep
  split_ifs at hstep with hnil
  cases hreceive : s.execResultChan.receive with
  | blocked =>
    rw [hreceive] at hstep
    cases hstep
  | ended =>
    rw [hreceive] at hstep
    cases hstep
    exact .execDisabled hmain (Bool.eq_false_iff.mpr hnil) hreceive
  | value err chan =>
    rw [hreceive] at hstep
    cases hstep
    exact .execReceived hmain hreceive

theorem stepped_of_step (h : Live waitErr s) {action : Action}
    (hstep : step maxPacketSize waitErr s action = some t) : Stepped maxPacketSize waitErr s t := by
  unfold step at hstep
  split at hstep
  · cases hstep
  · exact stepped_readerStep h hstep
  · exact stepped_waiterStep h hstep
  · exact stepped_selectOutput ‹_› hstep
  · exact stepped_selectExec ‹_› hstep
  · cases hstep

end Steps

/-! ## The invariant is kept -/

section Kept

variable {maxPacketSize : UInt64} {waitErr : Option WaitError} {s t : State}

@[simp] theorem State.stream_setStream_self (s : State) (output : Output) (stream : Stream) :
    (s.setStream output stream).stream output = stream := Function.update_self ..

variable {output : Output}

theorem State.stream_setStream_other (s : State) {other : Output} (h : other ≠ output)
    (stream : Stream) : (s.setStream output stream).stream other = s.stream other :=
  Function.update_of_ne h ..

/-- Only the main goroutine's place and its half of the SSH channel change. -/
theorem State.endTurn_eq (s : State) : ∃ half main, s.endTurn = { s with half, main } := by
  unfold State.endTurn
  split_ifs
  · split
    · exact ⟨_, _, rfl⟩
    · exact ⟨_, _, rfl⟩
    · exact ⟨_, _, rfl⟩
  · exact ⟨_, _, rfl⟩

theorem Live.withMain (h : Live waitErr s) (half : SendHalf) (main : MainAt) :
    Live waitErr { s with half, main } :=
  ⟨h.stream, h.readers, h.joined, h.closed_iff, h.drained, h.unsent, h.sent⟩

theorem Live.endTurn (h : Live waitErr s) : Live waitErr s.endTurn := by
  obtain ⟨half, main, heq⟩ := s.endTurn_eq
  rw [heq]
  exact h.withMain half main

/-- One of the streams changes; the counter of the wait group follows its reader. -/
theorem Live.setStream (h : Live waitErr s) {stream : Stream} {n : Nat} (hok : stream.Ok)
    (hcount : n + (s.stream output).reader.unfinished =
      s.outputReaders + stream.reader.unfinished)
    (hjoined : s.waiter ≠ .waiting → stream.reader = .finished) :
    Live waitErr { s.setStream output stream with outputReaders := n } where
  stream := by
    intro other
    by_cases heq : other = output
    · rw [heq]
      show ((s.setStream output stream).stream output).Ok
      rwa [State.stream_setStream_self]
    · show ((s.setStream output stream).stream other).Ok
      rw [State.stream_setStream_other s heq]
      exact h.stream other
  readers := by
    have hreaders := h.readers
    cases output with
    | stdout =>
      show n = stream.reader.unfinished + (s.stream .stderr).reader.unfinished
      omega
    | stderr =>
      show n = (s.stream .stdout).reader.unfinished + stream.reader.unfinished
      omega
  joined := by
    intro hwaiter other
    by_cases heq : other = output
    · rw [heq]
      show ((s.setStream output stream).stream output).reader = _
      rw [State.stream_setStream_self]
      exact hjoined hwaiter
    · show ((s.setStream output stream).stream other).reader = _
      rw [State.stream_setStream_other s heq]
      exact h.joined hwaiter other
  closed_iff := h.closed_iff
  drained := h.drained
  unsent := h.unsent
  sent := h.sent

/-- A reader that has not finished is waited for. -/
theorem Live.not_joined (h : Live waitErr s)
    (hreader : (s.stream output).reader ≠ .finished) {P : Prop} : s.waiter ≠ .waiting → P :=
  fun hwaiter => absurd (h.joined hwaiter output) hreader

section Sending

variable {base : List UInt8} {total : Output → List UInt8}

variable {output : Output} {stream : Stream} {chan : Chan 1 ReadResult}

/-- A step that is not the main goroutine's moves bytes on within a stream. -/
theorem Sending.setStream (h : Sending base total s)
    (hunsent : stream.unsent = (s.stream output).unsent) (n : Nat) :
    Sending base total { s.setStream output stream with outputReaders := n } := by
  obtain ⟨messages, hsent, hsound, hcarried⟩ := h
  refine ⟨messages, hsent, hsound, ?_⟩
  intro other
  show carried other messages ++ ((s.setStream output stream).stream other).unsent = _
  by_cases heq : other = output
  · rw [heq, State.stream_setStream_self, hunsent]
    exact hcarried output
  · rw [State.stream_setStream_other s heq]
    exact hcarried other

/-- The main goroutine writes the oldest result of a channel. -/
theorem Sending.wrote (h : Sending base total s) {result : ReadResult} {n : Nat} {half : SendHalf}
    (hreceive : (s.stream output).chan.receive = .value result chan)
    (hwrite : call (WriteData maxPacketSize result.data.length result.data output.dataType)
      s.half = .ok (.ok (some (n, none)), half)) :
    Sending base total
      { s.setStream output { s.stream output with chan } with half } := by
  obtain ⟨messages, hsent, hsound, hcarried⟩ := h
  obtain ⟨hheader, payloads, hflat, hpayloads, hwritten⟩ :=
    WriteData_eq_ok output.dataType_le hwrite
  obtain ⟨hbuffer, -⟩ := Chan.receive_eq_value hreceive
  refine ⟨messages ++ dataMessages output payloads, ?_, ?_, ?_⟩
  · have hwire : ((dataMessages output payloads).map Proto.Message.data).flatMap
        Proto.Message.wire = payloads.flatMap (dataWire output.dataType) := by
      rw [dataMessages, List.map_map, List.flatMap_map]
      rfl
    show half.sent ++ half.header = _
    rw [hheader, hwritten, hsent, List.append_nil, List.map_append, List.flatMap_append, hwire,
      List.append_assoc]
  · intro message hmem
    obtain hmem | hmem := List.mem_append.mp hmem
    · exact hsound message hmem
    · exact sound_dataMessages output hpayloads message hmem
  · intro other
    show carried other _ ++ ((s.setStream output _).stream other).unsent = _
    rw [carried_append]
    by_cases heq : other = output
    · have htotal := hcarried output
      rw [Stream.unsent, hbuffer, List.flatMap_cons] at htotal
      rw [heq, State.stream_setStream_self, carried_dataMessages, hflat, ← htotal, Stream.unsent]
      simp only [List.append_assoc]
    · rw [carried_dataMessages_other heq, State.stream_setStream_other s heq, List.append_nil]
      exact hcarried other

theorem Live.exitStatus_of_nil (h : Live waitErr s) (hnil : s.execIsNil = true) :
    s.execExitStatus = Go.execExitStatus waitErr := by
  obtain ⟨hclosed, hbuffer⟩ := h.drained hnil
  have hsent : s.waiter.hasSent = true := by
    rw [h.closed_iff.mp hclosed]
    rfl
  obtain hfull | ⟨-, hstatus⟩ := h.sent hsent
  · rw [hbuffer] at hfull
    cases hfull
  · exact hstatus

/-- At the end of a turn nothing is under way any more if all variables are nil. -/
theorem MainOk.endTurn (hlive : Live waitErr s) (hmain : s.main = .selecting)
    (h : Sending base total s) (hstatus : Go.execExitStatus waitErr ≤ Proto.MAX_VARINT) :
    MainOk base total waitErr s.endTurn := by
  unfold State.endTurn
  split_ifs with hall
  · obtain ⟨⟨hstdout, hstderr⟩, hexec⟩ := by
      simpa only [State.allNil, Bool.and_eq_true] using hall
    obtain ⟨messages, hsent, hsound, hcarried⟩ := h
    have hnone : ∀ output, (s.stream output).unsent = [] := by
      intro output
      cases output with
      | stdout => exact (hlive.stream .stdout).unsent_eq_nil hstdout
      | stderr => exact (hlive.stream .stderr).unsent_eq_nil hstderr
    have hcodes := codes_exitStatusRequest hstatus
    obtain ⟨result, half, hcall⟩ := returns_sendMessage
      (m := .channelRequest (exitStatusRequest _)) hcodes.length hcodes.writes s.half
    rw [hlive.exitStatus_of_nil hexec, sendRequest, hcall]
    cases result with
    | error err => trivial
    | ok u =>
      obtain ⟨-, hwritten⟩ := sendMessage_eq_ok
        (m := .channelRequest (exitStatusRequest _)) hcodes.length hcodes.writes hcall
      refine ⟨messages, ?_, hsound, ?_⟩
      · rw [hwritten, hsent, List.flatMap_append, List.flatMap_singleton, List.append_assoc]
        rfl
      · intro output
        have htotal := hcarried output
        rwa [hnone, List.append_nil] at htotal
  · unfold MainOk
    rw [hmain]
    exact ⟨Bool.eq_false_iff.mpr hall, h⟩

/-- The main goroutine is where it was, and no variable has become nil. -/
theorem MainOk.keep (h : MainOk base total waitErr s) (hmain : t.main = s.main)
    (hhalf : t.half = s.half) (hnil : t.allNil = s.allNil)
    (hsending : Sending base total s → Sending base total t) : MainOk base total waitErr t := by
  unfold MainOk at h ⊢
  rw [hmain]
  cases hs : s.main with
  | selecting =>
    rw [hs] at h
    exact ⟨hnil.trans h.1, hsending h.2⟩
  | returned err =>
    rw [hs] at h
    cases err with
    | none =>
      simp only [hhalf]
      exact h
    | some err => trivial
  | crashed crash =>
    rw [hs] at h
    exact h

theorem State.allNil_setStream (s : State) (h : stream.isNil = (s.stream output).isNil) :
    (s.setStream output stream).allNil = s.allNil := by
  cases output with
  | stdout =>
    show (stream.isNil && (s.stream .stderr).isNil && s.execIsNil) = _
    rw [h]
    rfl
  | stderr =>
    show ((s.stream .stdout).isNil && stream.isNil && s.execIsNil) = _
    rw [h]
    rfl

/-- A reader moves on. -/
theorem Inv.reader (h : Inv base total waitErr s) {place : ReaderAt}
    (hreader : (s.stream output).reader = place) (hne : place ≠ .finished)
    {n : Nat} (hok : stream.Ok) (hnil : stream.isNil = (s.stream output).isNil)
    (hunsent : stream.unsent =
      (s.stream output).chan.buffer.flatMap (·.data) ++ place.unsent)
    (hcount : n + place.unfinished = s.outputReaders + stream.reader.unfinished) :
    Inv base total waitErr { s.setStream output stream with outputReaders := n } := by
  subst hreader
  refine ⟨h.live.setStream hok hcount (h.live.not_joined hne), ?_⟩
  exact h.main.keep rfl rfl (s.allNil_setStream hnil) fun hsending =>
    hsending.setStream hunsent n

theorem Inv.sent (h : Inv base total waitErr s) {reads : Reads}
    (hreader : (s.stream output).reader = .sending reads)
    (hsend : (s.stream output).chan.send reads.result = .sent chan) :
    Inv base total waitErr
      (s.setStream output { s.stream output with chan, reader := reads.next }) := by
  obtain ⟨hbuffer, hclosed⟩ := Chan.send_eq_sent hsend
  obtain ⟨hopen, hnil⟩ := h.live.reader_open hreader ReaderAt.noConfusion ReaderAt.noConfusion
  refine h.reader hreader ReaderAt.noConfusion ⟨?_, ?_⟩ rfl ?_ ?_
  · -- the channel is still open, and the reader has still to close it
    have hnext : ¬(reads.next = .signalling ∨ reads.next = .finished) := by
      cases reads <;> rintro (h | h) <;> cases h
    refine iff_of_false ?_ hnext
    show ¬chan.closed = true
    rw [hclosed, hopen]
    exact Bool.false_ne_true
  · exact fun hnil' => absurd hnil' hnil
  · show chan.buffer.flatMap (·.data) ++ reads.next.unsent = _
    rw [hbuffer, List.flatMap_append, List.flatMap_singleton, List.append_assoc,
      reads.result_next]
    rfl
  · cases reads <;> rfl

theorem Inv.signalled (h : Inv base total waitErr s)
    (hreader : (s.stream output).reader = .signalling) :
    Inv base total waitErr { s.setStream output { s.stream output with reader := .finished } with
      outputReaders := s.outputReaders - 1 } := by
  have hok := h.live.stream output
  have hpos : 0 < s.outputReaders := by
    have hreaders := h.live.readers
    have hone : (s.stream output).reader.unfinished = 1 := by
      rw [hreader]
      rfl
    cases output <;> omega
  refine h.reader hreader ReaderAt.noConfusion ⟨?_, hok.drained⟩ rfl rfl ?_
  · rw [hok.closed_iff, hreader]
    exact iff_of_true (.inl rfl) (.inr rfl)
  · show s.outputReaders - 1 + 1 = s.outputReaders + 0
    omega

theorem Live.finished_of_zero (h : Live waitErr s) (hzero : s.outputReaders = 0)
    (output : Output) : (s.stream output).reader = .finished := by
  have hreaders := h.readers
  have hnone : (s.stream output).reader.unfinished = 0 := by
    cases output <;> omega
  cases hreader : (s.stream output).reader with
  | finished => rfl
  | reading _ | sending _ | closing | signalling =>
    rw [hreader] at hnone
    cases hnone

/-- The goroutine that waits for the command moves on. -/
theorem Inv.waiter (h : Inv base total waitErr s) {chan : Chan 1 (Option WaitError)}
    {waiter : WaiterAt} (hlive : Live waitErr { s with execResultChan := chan, waiter }) :
    Inv base total waitErr { s with execResultChan := chan, waiter } where
  live := hlive
  main := h.main.keep rfl rfl rfl fun hsending => hsending

theorem Inv.sending (h : Inv base total waitErr s) (hmain : s.main = .selecting) :
    Sending base total s := by
  have hok := h.main
  rw [MainOk, hmain] at hok
  exact hok.2

/-- The main goroutine has changed a stream, whose reader stays where it is. -/
theorem Live.select (h : Live waitErr s) (hok : stream.Ok)
    (hreader : stream.reader = (s.stream output).reader) :
    Live waitErr (s.setStream output stream) := by
  have hcount : s.outputReaders + (s.stream output).reader.unfinished =
      s.outputReaders + stream.reader.unfinished := by
    rw [hreader]
  refine h.setStream hok hcount ?_
  intro hwaiter
  rw [hreader]
  exact h.joined hwaiter output

theorem Live.received (h : Live waitErr s) {result : ReadResult}
    (hreceive : (s.stream output).chan.receive = .value result chan) :
    Live waitErr (s.setStream output { s.stream output with chan }) := by
  have hok := h.stream output
  obtain ⟨hbuffer, hclosed⟩ := Chan.receive_eq_value hreceive
  refine h.select ⟨?_, ?_⟩ rfl
  · show chan.closed = true ↔ _
    rw [hclosed]
    exact hok.closed_iff
  · intro hnil
    have hempty := (hok.drained hnil).2
    rw [hbuffer] at hempty
    cases hempty

theorem Live.execReceived (h : Live waitErr s) {err : Option WaitError}
    {chan : Chan 1 (Option WaitError)} (hreceive : s.execResultChan.receive = .value err chan) :
    Live waitErr { s with execResultChan := chan, execExitStatus := Go.execExitStatus err } := by
  obtain ⟨hbuffer, hclosed⟩ := Chan.receive_eq_value hreceive
  have hne : s.execResultChan.buffer ≠ [] := by
    rw [hbuffer]
    exact List.cons_ne_nil _ _
  have hsent : s.waiter.hasSent = true := by
    rw [← Bool.not_eq_false]
    exact fun hunsent => hne (h.unsent hunsent)
  -- the channel has had one value only, the result of `Wait`
  obtain ⟨rfl, hempty⟩ : err = waitErr ∧ chan.buffer = [] := by
    obtain hfull | ⟨hempty, -⟩ := h.sent hsent
    · rw [hbuffer] at hfull
      exact List.cons.inj hfull
    · exact absurd hempty hne
  refine ⟨h.stream, h.readers, h.joined, ?_, ?_, fun _ => hempty, fun _ => .inr ⟨hempty, rfl⟩⟩
  · show chan.closed = true ↔ _
    rw [hclosed]
    exact h.closed_iff
  · exact fun hnil => absurd (h.drained hnil).2 hne

theorem Inv.stepped (hstatus : Go.execExitStatus waitErr ≤ Proto.MAX_VARINT)
    (h : Inv base total waitErr s) (hstep : Stepped maxPacketSize waitErr s t) :
    Inv base total waitErr t := by
  have hlive := h.live
  cases hstep with
  | @read output reads hreader =>
    have hok := hlive.stream output
    refine h.reader hreader ReaderAt.noConfusion ⟨?_, hok.drained⟩ rfl rfl rfl
    rw [hok.closed_iff, hreader]
    constructor <;> rintro (h | h) <;> cases h
  | @sent output reads chan hreader hsend => exact h.sent hreader hsend
  | @closed output hreader =>
    obtain ⟨-, hnil⟩ := hlive.reader_open hreader ReaderAt.noConfusion ReaderAt.noConfusion
    refine h.reader hreader ReaderAt.noConfusion ⟨iff_of_true rfl (.inl rfl), ?_⟩ rfl rfl rfl
    exact fun hnil' => absurd hnil' hnil
  | @signalled output hreader => exact h.signalled hreader
  | waited hwaiter hzero =>
    have hunsent := hlive.unsent (by rw [hwaiter]; rfl)
    have hclosed := hlive.closed_iff
    rw [hwaiter] at hclosed
    exact h.waiter ⟨hlive.stream, hlive.readers, fun _ => hlive.finished_of_zero hzero,
      hclosed.trans (iff_of_false WaiterAt.noConfusion WaiterAt.noConfusion), hlive.drained,
      fun _ => hunsent, fun h => Bool.noConfusion h⟩
  | reaped hwaiter =>
    have hjoined := hlive.joined (by rw [hwaiter]; exact WaiterAt.noConfusion)
    have hunsent := hlive.unsent (by rw [hwaiter]; rfl)
    have hclosed := hlive.closed_iff
    rw [hwaiter] at hclosed
    exact h.waiter ⟨hlive.stream, hlive.readers, fun _ => hjoined,
      hclosed.trans (iff_of_false WaiterAt.noConfusion WaiterAt.noConfusion), hlive.drained,
      fun _ => hunsent, fun h => Bool.noConfusion h⟩
  | @execSent chan hwaiter hsend =>
    have hjoined := hlive.joined (by rw [hwaiter]; exact WaiterAt.noConfusion)
    have hunsent := hlive.unsent (by rw [hwaiter]; rfl)
    obtain ⟨hopen, hnil⟩ := hlive.exec_open hwaiter WaiterAt.noConfusion
    obtain ⟨hbuffer, hclosed⟩ := Chan.send_eq_sent hsend
    rw [hunsent, List.nil_append] at hbuffer
    have hstill : ¬chan.closed = true := by
      rw [hclosed, hopen]
      exact Bool.false_ne_true
    exact h.waiter ⟨hlive.stream, hlive.readers, fun _ => hjoined,
      iff_of_false hstill WaiterAt.noConfusion, fun hnil' => absurd hnil' hnil,
      fun h => Bool.noConfusion h, fun _ => .inl hbuffer⟩
  | execClosed hwaiter =>
    have hjoined := hlive.joined (by rw [hwaiter]; exact WaiterAt.noConfusion)
    have hsent := hlive.sent (by rw [hwaiter]; rfl)
    obtain ⟨-, hnil⟩ := hlive.exec_open hwaiter WaiterAt.noConfusion
    exact h.waiter ⟨hlive.stream, hlive.readers, fun _ => hjoined, iff_of_true rfl rfl,
      fun hnil' => absurd hnil' hnil, fun h => Bool.noConfusion h, fun _ => hsent⟩
  | @wrote output result chan n half hmain hreceive hwrite =>
    have hnext := (hlive.received hreceive).withMain half s.main
    have hsending := (h.sending hmain).wrote hreceive hwrite
    exact ⟨hnext.endTurn, .endTurn hnext hmain hsending hstatus⟩
  | @writeFailed output result chan err half hmain hreceive =>
    exact ⟨(hlive.received hreceive).withMain half _, trivial⟩
  | @disabled output hmain hnil hreceive =>
    obtain ⟨hbuffer, hclosed⟩ := Chan.receive_eq_ended hreceive
    have hok := hlive.stream output
    have hnext : Live waitErr (s.setStream output { s.stream output with isNil := true }) :=
      hlive.select ⟨hok.closed_iff, fun _ => ⟨hclosed, hbuffer⟩⟩ rfl
    have hunsent : ({ s.stream output with isNil := true } : Stream).unsent =
        (s.stream output).unsent := rfl
    have hsending : Sending base total
        (s.setStream output { s.stream output with isNil := true }) :=
      (h.sending hmain).setStream hunsent s.outputReaders
    exact ⟨hnext.endTurn, .endTurn hnext hmain hsending hstatus⟩
  | @execReceived err chan hmain hreceive =>
    have hnext := hlive.execReceived hreceive
    exact ⟨hnext.endTurn, .endTurn hnext hmain (h.sending hmain) hstatus⟩
  | execDisabled hmain hnil hreceive =>
    obtain ⟨hbuffer, hclosed⟩ := Chan.receive_eq_ended hreceive
    have hnext : Live waitErr { s with execIsNil := true } :=
      ⟨hlive.stream, hlive.readers, hlive.joined, hlive.closed_iff,
        fun _ => ⟨hclosed, hbuffer⟩, hlive.unsent, hlive.sent⟩
    exact ⟨hnext.endTurn, .endTurn hnext hmain (h.sending hmain) hstatus⟩

end Sending

end Kept

end Ssh3.Go.ExecOutput
