/-
  Ssh3.Go.ExecOutputSpec

  Every interleaving of the goroutines of `execCmdInBackground` comes to an end, and if no
  write to the SSH channel fails, all that was read from the command has then been sent,
  followed by its exit status.
-/

import Ssh3.Go.ExecOutputInv

namespace Ssh3.Go.ExecOutput

open Fallible Transition

/-! ## Every interleaving comes to an end -/

def Reads.size : Reads → Nat
  | .last _ _ => 1
  | .more _ rest => rest.size + 1

/-- A result is read, sent and received. -/
def ReaderAt.weight : ReaderAt → Nat
  | .reading reads => 3 * reads.size + 2
  | .sending reads => 3 * reads.size + 1
  | .closing => 2
  | .signalling => 1
  | .finished => 0

def nilWeight (isNil : Bool) : Nat := if isNil then 0 else 1

def Stream.weight (stream : Stream) : Nat :=
  stream.reader.weight + stream.chan.buffer.length + nilWeight stream.isNil

def WaiterAt.weight : WaiterAt → Nat
  | .waiting => 5
  | .reaping => 4
  | .sending => 3
  | .closing => 1
  | .finished => 0

/-- How many steps are left at most. -/
def State.weight (s : State) : Nat :=
  (s.stream .stdout).weight + (s.stream .stderr).weight + s.waiter.weight +
    s.execResultChan.buffer.length + nilWeight s.execIsNil

section Weight

variable {maxPacketSize : UInt64} {waitErr : Option WaitError} {s t : State}

theorem State.weight_setStream (s : State) (output : Output) (stream : Stream) :
    (s.setStream output stream).weight + (s.stream output).weight =
      s.weight + stream.weight := by
  cases output with
  | stdout =>
    show stream.weight + (s.stream .stderr).weight + s.waiter.weight +
      s.execResultChan.buffer.length + nilWeight s.execIsNil + (s.stream .stdout).weight = _
    unfold State.weight
    omega
  | stderr =>
    show (s.stream .stdout).weight + stream.weight + s.waiter.weight +
      s.execResultChan.buffer.length + nilWeight s.execIsNil + (s.stream .stderr).weight = _
    unfold State.weight
    omega

theorem State.weight_setStream_lt {output : Output} {stream : Stream}
    (h : stream.weight < (s.stream output).weight) :
    (s.setStream output stream).weight < s.weight := by
  have hsum := s.weight_setStream output stream
  omega

theorem State.weight_endTurn (s : State) : s.endTurn.weight = s.weight := by
  obtain ⟨half, main, heq⟩ := s.endTurn_eq
  rw [heq]
  rfl

theorem Reads.weight_next_lt (reads : Reads) :
    reads.next.weight + 1 < (ReaderAt.sending reads).weight := by
  cases reads with
  | last data err =>
    show 2 + 1 < 3 * 1 + 1
    omega
  | more data rest =>
    show 3 * rest.size + 2 + 1 < 3 * (rest.size + 1) + 1
    omega

theorem Stream.weight_received_lt {stream : Stream} {result : ReadResult}
    {chan : Chan 1 ReadResult} (hreceive : stream.chan.receive = .value result chan) :
    ({ stream with chan } : Stream).weight < stream.weight := by
  obtain ⟨hbuffer, -⟩ := Chan.receive_eq_value hreceive
  show stream.reader.weight + chan.buffer.length + nilWeight stream.isNil < _
  rw [Stream.weight, hbuffer, List.length_cons]
  omega

/-- A reader moves on. -/
theorem State.weight_reader_lt {output : Output} {place : ReaderAt} {stream : Stream}
    (hreader : (s.stream output).reader = place) (hnil : stream.isNil = (s.stream output).isNil)
    (h : stream.reader.weight + stream.chan.buffer.length <
      place.weight + (s.stream output).chan.buffer.length) :
    (s.setStream output stream).weight < s.weight := by
  apply State.weight_setStream_lt
  rw [Stream.weight, Stream.weight, hreader, hnil]
  omega

/-- The goroutine that waits for the command moves on. -/
theorem State.weight_waiter_lt {place waiter : WaiterAt} {chan : Chan 1 (Option WaitError)}
    (hwaiter : s.waiter = place)
    (h : waiter.weight + chan.buffer.length < place.weight + s.execResultChan.buffer.length) :
    State.weight { s with execResultChan := chan, waiter } < s.weight := by
  show (s.stream .stdout).weight + (s.stream .stderr).weight + waiter.weight +
    chan.buffer.length + nilWeight s.execIsNil < _
  rw [State.weight, hwaiter]
  omega

theorem Stepped.weight_lt (h : Stepped maxPacketSize waitErr s t) : t.weight < s.weight := by
  cases h with
  | @read output reads hreader =>
    exact State.weight_reader_lt hreader rfl (Nat.add_lt_add_right (Nat.lt_succ_self _) _)
  | @sent output reads chan hreader hsend =>
    obtain ⟨hbuffer, -⟩ := Chan.send_eq_sent hsend
    have hnext := reads.weight_next_lt
    refine State.weight_reader_lt hreader rfl ?_
    show reads.next.weight + chan.buffer.length < _
    rw [hbuffer, List.length_append, List.length_singleton]
    omega
  | @closed output hreader =>
    exact State.weight_reader_lt hreader rfl (Nat.add_lt_add_right Nat.one_lt_two _)
  | @signalled output hreader =>
    have hlt : (s.setStream output { s.stream output with reader := .finished }).weight <
        s.weight :=
      State.weight_reader_lt hreader rfl (Nat.add_lt_add_right Nat.one_pos _)
    exact hlt
  | waited hwaiter _ =>
    exact State.weight_waiter_lt hwaiter (Nat.add_lt_add_right (Nat.lt_succ_self 4) _)
  | reaped hwaiter =>
    exact State.weight_waiter_lt hwaiter (Nat.add_lt_add_right (Nat.lt_succ_self 3) _)
  | @execSent chan hwaiter hsend =>
    obtain ⟨hbuffer, -⟩ := Chan.send_eq_sent hsend
    refine State.weight_waiter_lt hwaiter ?_
    rw [hbuffer, List.length_append, List.length_singleton]
    show 1 + (_ + 1) < 3 + _
    omega
  | execClosed hwaiter =>
    exact State.weight_waiter_lt hwaiter (Nat.add_lt_add_right Nat.one_pos _)
  | @wrote output result chan n half _ hreceive _ =>
    rw [State.weight_endTurn]
    exact State.weight_setStream_lt (Stream.weight_received_lt hreceive)
  | @writeFailed output result chan err half _ hreceive =>
    exact State.weight_setStream_lt (Stream.weight_received_lt hreceive)
  | @disabled output _ hnil _ =>
    rw [State.weight_endTurn]
    apply State.weight_setStream_lt
    show _ + _ + nilWeight true < _
    rw [Stream.weight, hnil]
    simp only [nilWeight, Bool.false_eq_true, if_true, if_false]
    omega
  | execReceived _ hreceive =>
    obtain ⟨hbuffer, -⟩ := Chan.receive_eq_value hreceive
    rw [State.weight_endTurn]
    unfold State.weight
    simp only [hbuffer, List.length_cons]
    omega
  | execDisabled _ hnil _ =>
    rw [State.weight_endTurn]
    unfold State.weight
    simp only [hnil, nilWeight, Bool.false_eq_true, if_true, if_false]
    omega

end Weight

/-! ## The loop goes on until it returns -/

section Progress

variable {maxPacketSize : UInt64} {waitErr : Option WaitError} {s : State}

/-- A goroutine other than the main one can go on. -/
def State.OthersMove (waitErr : Option WaitError) (s : State) : Prop :=
  (∃ output t, s.readerStep output = some t) ∨ ∃ t, s.waiterStep waitErr = some t

theorem State.OthersMove.step (h : s.OthersMove waitErr) (hmain : s.main = .selecting) :
    ∃ action t, step maxPacketSize waitErr s action = some t := by
  obtain ⟨output, t, h⟩ | ⟨t, h⟩ := h
  · refine ⟨.reader output, t, ?_⟩
    simp only [ExecOutput.step, hmain]
    exact h
  · refine ⟨.waiter, t, ?_⟩
    simp only [ExecOutput.step, hmain]
    exact h

/-- A reader that has not finished can go on, unless its channel is full. -/
theorem Live.reader_moves (h : Live waitErr s) {output : Output}
    (hbuffer : (s.stream output).chan.buffer = [])
    (hfinished : (s.stream output).reader ≠ .finished) :
    ∃ t, s.readerStep output = some t := by
  unfold State.readerStep
  cases hreader : (s.stream output).reader with
  | reading reads => exact ⟨_, rfl⟩
  | sending reads =>
    obtain ⟨hopen, hnil⟩ := h.reader_open hreader ReaderAt.noConfusion ReaderAt.noConfusion
    obtain ⟨chan, hsend⟩ | ⟨hfull, -⟩ := Chan.send_of_open hopen reads.result
    · simp only [if_neg hnil, hsend]
      exact ⟨_, rfl⟩
    · rw [hbuffer] at hfull
      cases hfull
  | closing =>
    obtain ⟨hopen, -⟩ := h.reader_open hreader ReaderAt.noConfusion ReaderAt.noConfusion
    simp only [Chan.close_of_open hopen]
    exact ⟨_, rfl⟩
  | signalling => exact ⟨_, rfl⟩
  | finished => exact absurd hreader hfinished

/-- A stream that is not disabled yet has something to do: its channel has a value or has been
    closed, or its reader can go on. -/
theorem Live.progress_stream (h : Live waitErr s) (hmain : s.main = .selecting)
    {output : Output} (hnil : ¬(s.stream output).isNil = true) :
    ∃ action t, step maxPacketSize waitErr s action = some t := by
  cases hreceive : (s.stream output).chan.receive with
  | value result chan =>
    obtain ⟨n, err, half, hwrite⟩ : ∃ n err half,
        call (WriteData maxPacketSize result.data.length result.data output.dataType) s.half =
          .ok (.ok (some (n, err)), half) :=
      WriteData_returns output.dataType_le s.half (Nat.le_refl _)
    refine ⟨.output output, ?_⟩
    simp only [step, hmain, State.selectOutput, if_neg hnil, hreceive, State.writeResult,
      State.setStream, hwrite]
    cases err with
    | none => exact ⟨_, rfl⟩
    | some err => exact ⟨_, rfl⟩
  | ended =>
    refine ⟨.output output, ?_⟩
    simp only [step, hmain, State.selectOutput, if_neg hnil, hreceive]
    exact ⟨_, rfl⟩
  | blocked =>
    obtain ⟨hbuffer, hopen⟩ := Chan.receive_eq_blocked hreceive
    have hfinished : (s.stream output).reader ≠ .finished := by
      intro hreader
      rw [(h.stream output).closed_iff.mpr (.inr hreader)] at hopen
      cases hopen
    obtain ⟨t, ht⟩ := h.reader_moves hbuffer hfinished
    exact State.OthersMove.step (.inl ⟨output, t, ht⟩) hmain

/-- Once both streams are disabled, the readers finish and the exit status arrives. -/
theorem Live.progress_exec (h : Live waitErr s) (hmain : s.main = .selecting)
    (hstreams : ∀ output, (s.stream output).isNil = true) (hnil : ¬s.execIsNil = true) :
    ∃ action t, step maxPacketSize waitErr s action = some t := by
  by_cases hreaders : ∀ output, (s.stream output).reader = .finished
  · cases hreceive : s.execResultChan.receive with
    | value err chan =>
      refine ⟨.exec, ?_⟩
      simp only [step, hmain, State.selectExec, if_neg hnil, hreceive]
      exact ⟨_, rfl⟩
    | ended =>
      refine ⟨.exec, ?_⟩
      simp only [step, hmain, State.selectExec, if_neg hnil, hreceive]
      exact ⟨_, rfl⟩
    | blocked =>
      obtain ⟨hbuffer, hopen⟩ := Chan.receive_eq_blocked hreceive
      have hzero : s.outputReaders = 0 := by
        rw [h.readers, hreaders, hreaders]
        rfl
      apply State.OthersMove.step (.inr ?_) hmain
      unfold State.waiterStep
      cases hwaiter : s.waiter with
      | waiting => exact ⟨_, if_pos hzero⟩
      | reaping => exact ⟨_, rfl⟩
      | sending =>
        obtain ⟨chan, hsend⟩ | ⟨hfull, -⟩ := Chan.send_of_open hopen waitErr
        · simp only [if_neg hnil, hsend]
          exact ⟨_, rfl⟩
        · rw [hbuffer] at hfull
          cases hfull
      | closing =>
        simp only [if_neg hnil, Chan.close_of_open hopen]
        exact ⟨_, rfl⟩
      | finished =>
        rw [h.closed_iff.mpr hwaiter] at hopen
        cases hopen
  · obtain ⟨output, hreader⟩ := not_forall.mp hreaders
    obtain ⟨-, hbuffer⟩ := (h.stream output).drained (hstreams output)
    obtain ⟨t, ht⟩ := h.reader_moves hbuffer hreader
    exact State.OthersMove.step (.inl ⟨output, t, ht⟩) hmain

variable {base : List UInt8} {total : Output → List UInt8}

theorem Inv.progress (maxPacketSize : UInt64) (h : Inv base total waitErr s)
    (hmain : s.main = .selecting) :
    ∃ action t, step maxPacketSize waitErr s action = some t := by
  have hmainOk := h.main
  rw [MainOk, hmain] at hmainOk
  have hsome : s.allNil = false := hmainOk.1
  by_cases hstreams : ∀ output, (s.stream output).isNil = true
  · have hexec : ¬s.execIsNil = true := by
      intro hnil
      rw [State.allNil, hstreams, hstreams, hnil] at hsome
      cases hsome
    exact h.live.progress_exec hmain hstreams hexec
  · obtain ⟨output, hnil⟩ := not_forall.mp hstreams
    exact h.live.progress_stream hmain hnil

end Progress

/-! ## Whole runs -/

section Runs

variable {maxPacketSize : UInt64} {waitErr : Option WaitError}

theorem Inv.start (reads : Output → Option Reads) (half : SendHalf) :
    Inv (half.sent ++ half.header) (fun output => bytesRead (reads output)) waitErr
      (State.start reads half) := by
  have hreader : ∀ output, ReaderAt.start (reads output) ≠ .signalling ∧
      ReaderAt.start (reads output) ≠ .finished ∧
      (ReaderAt.start (reads output)).unfinished = 1 ∧
      (ReaderAt.start (reads output)).unsent = bytesRead (reads output) := by
    intro output
    cases reads output with
    | none => exact ⟨ReaderAt.noConfusion, ReaderAt.noConfusion, rfl, rfl⟩
    | some reads => exact ⟨ReaderAt.noConfusion, ReaderAt.noConfusion, rfl, rfl⟩
  constructor
  · refine ⟨?_, ?_, ?_, ?_, ?_, fun _ => rfl, ?_⟩
    · intro output
      refine ⟨iff_of_false Bool.false_ne_true ?_, fun hnil => Bool.noConfusion hnil⟩
      exact not_or.mpr ⟨(hreader output).1, (hreader output).2.1⟩
    · show 2 = (ReaderAt.start (reads .stdout)).unfinished +
        (ReaderAt.start (reads .stderr)).unfinished
      rw [(hreader .stdout).2.2.1, (hreader .stderr).2.2.1]
    · exact fun hwaiter => absurd rfl hwaiter
    · exact iff_of_false Bool.false_ne_true WaiterAt.noConfusion
    · exact fun hnil => Bool.noConfusion hnil
    · exact fun hsent => Bool.noConfusion hsent
  · refine ⟨rfl, [], (List.append_nil _).symm, List.forall_mem_nil _, ?_⟩
    exact fun output => (hreader output).2.2.2

theorem Inv.next (hstatus : Go.execExitStatus waitErr ≤ Proto.MAX_VARINT) {base : List UInt8}
    {total : Output → List UInt8} (s : State) (action : Action) (t : State)
    (h : Inv base total waitErr s) (_ : anyStep s action)
    (hstep : step maxPacketSize waitErr s action = some t) : Inv base total waitErr t :=
  h.stepped hstatus (stepped_of_step h.live hstep)

variable {reads : Output → Option Reads} {half : SendHalf} {actions : List Action} {t : State}
  (hstatus : Go.execExitStatus waitErr ≤ Proto.MAX_VARINT)
  (hrun : Run (step maxPacketSize waitErr) anyStep (State.start reads half) actions t)

include hstatus hrun

theorem Inv.run : Inv (half.sent ++ half.header) (fun output => bytesRead (reads output))
    waitErr t :=
  hrun.invariant (Inv.next hstatus) (Inv.start reads half)

end Runs

/-- What `Wait` returns for a command that exits with this code. -/
def waitResult (code : UInt8) : Option WaitError :=
  if code = 0 then none else some (.exitError (.exited code.toUInt32))

/-- A command that writes two bytes and exits with 3; it has no reader for its errors. -/
def twoBytes : Output → Option Reads
  | .stdout => some (.more [104] (.last [105] .eof))
  | .stderr => none

end Ssh3.Go.ExecOutput
