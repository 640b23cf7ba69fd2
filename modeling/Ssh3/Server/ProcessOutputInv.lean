/-
  Ssh3.Server.ProcessOutputInv

  Where the bytes are that a process writes, at any point of a run.

  A byte is in the pipe, then in the call of `write_data` that its pump is in, then in the log
  of the messages on the stream; on every way it stays in line behind the bytes that were
  written before it to the same output (`Flow`).  The exit status is only sent after both
  pumps have come to the end of their pipes, so it is the last message (`Waiting`).
-/

import Ssh3.Core.Serialized
import Ssh3.Server.ProcessOutput

namespace Ssh3.Server.ProcessOutput

open Chunks
open Proto (Message DataOrExtendedDataMessage MAX_VARINT length_varIntBytes_le)
open Ssh3.Core (dataOf chunkLen chunkLen_pos overhead writeDataMessages_eq_ok flatMap_dataOf
  length_wire)
open Ssh3.Core.Framing (Call Task Serial Moved cost cost_cons moved_of_advance)

/-! ## One call of `write_data` -/

/-- The packet sizes for which a message with a full chunk can be read again. -/
structure PacketSize (maxPacketSize : UInt64) : Prop where
  min : 64 ≤ maxPacketSize.toNat
  max : maxPacketSize.toNat ≤ 16 * 1024 * 1024

def dataMessages (maxPacketSize : UInt64) (output : Output) (buf : List UInt8) : List Message :=
  (chunks (chunkLen maxPacketSize output.dataType) buf).map fun chunk =>
    .data { dataType := output.dataType, data := chunk }

section WriteData

variable {maxPacketSize : UInt64} {output : Output} {buf : List UInt8}

theorem Output.dataType_le (output : Output) : output.dataType ≤ MAX_VARINT := by
  cases output <;> decide

theorem Output.overhead_le (output : Output) : overhead output.dataType ≤ 4 := by
  cases output <;> decide

theorem Output.dataType_inj {output other : Output} :
    output.dataType = other.dataType ↔ output = other := by
  cases output <;> cases other <;> decide

theorem Output.slot_inj {output other : Output} : output.slot = other.slot ↔ output = other := by
  cases output <;> cases other <;> decide

theorem Output.slot_ne_waitSlot (output : Output) : output.slot ≠ waitSlot := by
  cases output <;> decide

theorem messages_writeData (h : PacketSize maxPacketSize) :
    (Call.writeData buf output.dataType).messages maxPacketSize =
      .ok (.ok (dataMessages maxPacketSize output buf)) := by
  have hoverhead := output.overhead_le
  have hmin := h.min
  exact (writeDataMessages_eq_ok output.dataType_le).mpr ⟨by omega, rfl⟩

theorem encodable_dataMessages (h : PacketSize maxPacketSize) :
    ∀ message ∈ dataMessages maxPacketSize output buf, message.Encodable := by
  intro message hmessage
  obtain ⟨chunk, hchunk, rfl⟩ := List.mem_map.mp hmessage
  refine ⟨output.dataType_le, ?_⟩
  have hle := length_le_of_mem_chunks chunkLen_pos hchunk
  have hmin := h.min
  have hmax := h.max
  -- a chunk is shorter than a packet
  show chunk.length ≤ 16 * 1024 * 1024
  unfold chunkLen at hle
  omega

theorem isData_dataMessages :
    ∀ message ∈ dataMessages maxPacketSize output buf,
      ∃ data, message = .data ⟨output.dataType, data⟩ := by
  intro message hmessage
  obtain ⟨chunk, -, rfl⟩ := List.mem_map.mp hmessage
  exact ⟨chunk, rfl⟩

theorem flatMap_dataMessages (other : Output) :
    (dataMessages maxPacketSize output buf).flatMap (dataOf other.dataType) =
      if output = other then buf else [] := by
  rw [dataMessages, flatMap_dataOf, flatten_chunks chunkLen_pos]
  simp only [Output.dataType_inj]

/-- Each byte may be a message of its own. -/
theorem cost_chunks {chunkList : List (List UInt8)} (hne : ∀ chunk ∈ chunkList, chunk ≠ []) :
    cost (chunkList.map fun chunk => .data { dataType := output.dataType, data := chunk }) ≤
      13 * chunkList.flatten.length := by
  induction chunkList with
  | nil => exact Nat.le_refl 0
  | cons chunk chunkList ih =>
    have hrest := ih fun other hother => hne other (List.mem_cons_of_mem _ hother)
    have hpos := List.length_pos_iff.mpr (hne chunk List.mem_cons_self)
    have hwire := length_wire output.dataType chunk
    have hprefix := length_varIntBytes_le (UInt64.ofNat chunk.length)
    have hoverhead := output.overhead_le
    rw [List.map_cons, cost_cons, List.flatten_cons, List.length_append]
    show (DataOrExtendedDataMessage.wire { dataType := output.dataType, data := chunk }).length +
      1 + _ ≤ _
    omega

theorem cost_dataMessages : cost (dataMessages maxPacketSize output buf) ≤ 13 * buf.length := by
  have hne : ∀ chunk ∈ chunks (chunkLen maxPacketSize output.dataType) buf, chunk ≠ [] :=
    fun chunk hchunk => ne_nil_of_mem_chunks chunkLen_pos hchunk
  calc cost (dataMessages maxPacketSize output buf)
      ≤ 13 * (chunks (chunkLen maxPacketSize output.dataType) buf).flatten.length :=
        cost_chunks hne
    _ = 13 * buf.length := by rw [flatten_chunks chunkLen_pos]

theorem owed_writeData (h : PacketSize maxPacketSize) :
    (Task.start (.writeData buf output.dataType)).owed maxPacketSize =
      dataMessages maxPacketSize output buf := by
  rw [Task.owed, messages_writeData h]

theorem sound_writeData (h : PacketSize maxPacketSize) :
    (Task.start (.writeData buf output.dataType)).Sound maxPacketSize := by
  refine ⟨⟨_, messages_writeData h, encodable_dataMessages h⟩, ?_⟩
  intro datagram heq
  cases heq

end WriteData

/-! ## What a step does -/

/-- The steps, with what each of them needs. -/
inductive Stepped (s : State) : State → Prop
  | write {output : Output} {bytes : List UInt8} {script : List (Output × List UInt8)}
      (hscript : s.script = (output, bytes) :: script) :
      Stepped s { s.setSide output { s.side output with
          unread := (s.side output).unread ++ bytes } with script }
  | exit (hrunning : s.running = true) (hscript : s.script = []) :
      Stepped s { s with
        running := false
        side := fun output => { s.side output with isOpen := false } }
  | hangUp {output : Output} (hopen : (s.side output).isOpen = true)
      (hscript : ∀ entry ∈ s.script, entry.1 ≠ output) :
      Stepped s (s.setSide output { s.side output with isOpen := false })
  | read {output : Output} {bytes unread : List UInt8}
      (hpump : (s.side output).pump = .reading)
      (hunread : (s.side output).unread = bytes ++ unread) (hbytes : bytes ≠ []) :
      Stepped s ((s.setSide output { s.side output with unread, pump := .writing }).startCall
        output.slot (.writeData bytes output.dataType))
  | endOfFile {output : Output} (hpump : (s.side output).pump = .reading)
      (hunread : (s.side output).unread = []) (hopen : (s.side output).isOpen = false) :
      Stepped s (s.setSide output { s.side output with pump := .finished none })
  | returned {output : Output} {task : Task} {pump : Pump}
      (hpump : (s.side output).pump = .writing)
      (hget : s.channel.tasks[output.slot]? = some task) (hafter : Pump.after task = some pump) :
      Stepped s (s.setSide output { s.side output with pump })
  | joinChild (hwaiter : s.waiter = .child) (hrunning : s.running = false) :
      Stepped s { s with waiter := .stdoutTask }
  | joinStdout (hwaiter : s.waiter = .stdoutTask)
      (hended : (s.side .stdout).pump.hasEnded = true) :
      Stepped s { s with waiter := .stderrTask }
  | joinStderr (hwaiter : s.waiter = .stderrTask)
      (hended : (s.side .stderr).pump.hasEnded = true) :
      Stepped s { s.startCall waitSlot (.sendRequest (exitStatusRequest s.status)) with
        waiter := .sending }
  | sent {task : Task} (hwaiter : s.waiter = .sending)
      (hget : s.channel.tasks[waitSlot]? = some task)
      (hended : (∃ err, task = .finished err) ∨ ∃ panic, task = .panicked panic) :
      Stepped s { s with waiter := .done }
  | advance {slot n : Nat} {task : Task} {channel : Core.Framing.State}
      (hget : s.channel.tasks[slot]? = some task)
      (hadvance : s.channel.advance slot n task = some channel) :
      Stepped s { s with channel }

section Inversion

variable {s t : State}

theorem stepped_of_child (h : s.child = some t) : Stepped s t := by
  unfold State.child at h
  split_ifs at h with hrunning
  split at h
  · rename_i hscript
    cases h
    exact .exit hrunning hscript
  · rename_i hscript
    cases h
    exact .write hscript

theorem stepped_of_hangUp {output : Output} (h : s.hangUp output = some t) : Stepped s t := by
  unfold State.hangUp at h
  split_ifs at h with hguard
  cases h
  exact .hangUp hguard.1 hguard.2

theorem State.readLen_pos (s : State) (n : Nat) : 0 < s.readLen n := by
  have hbuffer : 1 ≤ readBufferLen s.channel.channel.info.maxPacketSize := Nat.le_max_right _ _
  unfold State.readLen
  omega

theorem stepped_of_read {output : Output} {n : Nat} (h : s.read output n = some t) :
    Stepped s t := by
  unfold State.read at h
  split at h
  · rename_i hpump hunread
    split_ifs at h with hopen
    cases h
    exact .endOfFile hpump hunread (Bool.eq_false_iff.mpr hopen)
  · rename_i b unread hpump hunread
    cases h
    have hpos := s.readLen_pos n
    refine .read hpump (hunread.trans (List.take_append_drop _ _).symm) ?_
    rw [Ne, List.take_eq_nil_iff]
    rintro (hzero | hnil)
    · omega
    · cases hnil
  · cases h

theorem stepped_of_returned {output : Output} (h : s.returned output = some t) :
    Stepped s t := by
  unfold State.returned at h
  split at h
  · rename_i hpump
    obtain ⟨task, hget, hrest⟩ := Option.bind_eq_some_iff.mp h
    obtain ⟨pump, hafter, hreturn⟩ := Option.bind_eq_some_iff.mp hrest
    cases hreturn
    exact .returned hpump hget hafter
  · cases h

theorem stepped_of_wait (h : s.wait = some t) : Stepped s t := by
  unfold State.wait at h
  split at h
  · rename_i hwaiter
    split_ifs at h with hrunning
    cases h
    exact .joinChild hwaiter (Bool.eq_false_iff.mpr hrunning)
  · rename_i hwaiter
    split_ifs at h with hended
    cases h
    exact .joinStdout hwaiter hended
  · rename_i hwaiter
    split_ifs at h with hended
    cases h
    exact .joinStderr hwaiter hended
  · rename_i hwaiter
    split at h
    · rename_i err hget
      cases h
      exact .sent hwaiter hget (.inl ⟨err, rfl⟩)
    · rename_i panic hget
      cases h
      exact .sent hwaiter hget (.inr ⟨panic, rfl⟩)
    · cases h
  · cases h

theorem stepped_of_step {a : Action} (h : step s a = some t) : Stepped s t := by
  cases a with
  | child => exact stepped_of_child h
  | hangUp output => exact stepped_of_hangUp h
  | read output n => exact stepped_of_read h
  | returned output => exact stepped_of_returned h
  | wait => exact stepped_of_wait h
  | advance slot n =>
    obtain ⟨channel, hstep, rfl⟩ := Option.map_eq_some_iff.mp h
    obtain ⟨task, hget, hadvance⟩ := Option.bind_eq_some_iff.mp hstep
    exact .advance hget hadvance

end Inversion

/-! ## The invariant -/

def State.maxPacketSize (s : State) : UInt64 := s.channel.channel.info.maxPacketSize

/-- The messages that the call in a slot has still to encode. -/
def State.owed (s : State) (slot : Nat) : List Message :=
  (s.channel.tasks[slot]?.map (Task.owed s.maxPacketSize)).getD []

def exitMessage (status : WaitResult) : Message := .channelRequest (exitStatusRequest status)

def IsData (message : Message) : Prop := ∃ data, message = .data data

/-- Where the bytes of one output are: in the messages of the log, in those that the call of
    its pump owes, in the pipe, or still to be written. -/
structure Flow (output : Output) (total : List UInt8) (log owed : List Message)
    (task : Option Task) (side : Side) (left : List UInt8) : Prop where
  bytes : log.flatMap (dataOf output.dataType) ++
    (owed.flatMap (dataOf output.dataType) ++ (side.unread ++ left)) = total
  typed : ∀ message ∈ owed, ∃ data, message = .data ⟨output.dataType, data⟩
  idle : side.pump ≠ .writing → task = some (.finished none)
  pump : side.pump = .reading ∨ side.pump = .writing ∨
    side.pump = .finished none ∧ side.unread = [] ∧ side.isOpen = false
  closed : side.isOpen = false → left = []

def State.Flows (s : State) (total : List UInt8) (log : List Message) (output : Output) : Prop :=
  Flow output total log (s.owed output.slot) s.channel.tasks[output.slot]? (s.side output)
    (written output s.script)

/-- The exit status comes last. -/
inductive Waiting (exit : Message) (log : List Message) (s : State) : Prop
  | before (hidle : s.channel.tasks[waitSlot]? = some (.finished none))
      (hlog : ∀ message ∈ log, IsData message)
      (hwaiter : s.waiter = .child ∨ s.waiter = .stdoutTask ∨
        s.waiter = .stderrTask ∧ (s.side .stdout).pump = .finished none)
  | after {outputs last : List Message} (houtputs : ∀ message ∈ outputs, IsData message)
      (hlog : log = outputs ++ last) (hlast : last ++ s.owed waitSlot = [exit])
      (hended : ∀ output, (s.side output).pump = .finished none)
      (hwaiter : s.waiter = .sending ∨
        s.waiter = .done ∧ s.channel.tasks[waitSlot]? = some (.finished none))

/-- The run of a process: `log` is what is on the stream after the confirmation. -/
structure Inv (confirmation : Message) (script : List (Output × List UInt8)) (result : WaitResult)
    (log : List Message) (s : State) : Prop where
  serial : Serial (confirmation :: log) s.channel
  slots : s.channel.tasks.length = 3
  packetSize : PacketSize s.maxPacketSize
  status : s.status = result
  exited : s.running = false → ∀ output, (s.side output).isOpen = false
  flow : ∀ output, s.Flows (written output script) log output
  waiting : Waiting (exitMessage result) log s

section Parts

variable {s t : State} {log new : List Message} {output : Output} {total : List UInt8}
  {exit : Message}

theorem State.owed_of_get {slot : Nat} {task : Task}
    (hget : s.channel.tasks[slot]? = some task) : s.owed slot = task.owed s.maxPacketSize := by
  rw [State.owed, hget]
  rfl

theorem State.owed_congr {slot : Nat} (hsize : t.maxPacketSize = s.maxPacketSize)
    (htask : t.channel.tasks[slot]? = s.channel.tasks[slot]?) : t.owed slot = s.owed slot := by
  rw [State.owed, State.owed, hsize, htask]

theorem State.owed_startCall {slot : Nat} {call : Call} {old : Task}
    (hget : s.channel.tasks[slot]? = some old) :
    (s.startCall slot call).owed slot = (Task.start call).owed s.maxPacketSize := by
  have hset : (s.startCall slot call).channel.tasks[slot]? = some (.start call) :=
    Tasks.get_set_self hget
  exact State.owed_of_get hset

/-- A step that is about something else. -/
theorem State.Flows.frame (h : s.Flows total log output) (hside : t.side output = s.side output)
    (hsize : t.maxPacketSize = s.maxPacketSize)
    (htask : t.channel.tasks[output.slot]? = s.channel.tasks[output.slot]?)
    (hscript : written output t.script = written output s.script) : t.Flows total log output := by
  unfold State.Flows
  rw [hside, htask, hscript, State.owed_congr hsize htask]
  exact h

/-- Messages of others. -/
theorem State.Flows.append (h : s.Flows total log output)
    (hnew : new.flatMap (dataOf output.dataType) = []) : s.Flows total (log ++ new) output where
  bytes := by
    rw [List.flatMap_append, hnew, List.append_nil]
    exact h.bytes
  typed := h.typed
  idle := h.idle
  pump := h.pump
  closed := h.closed

theorem State.Flows.idle_of_reading (h : s.Flows total log output)
    (hpump : (s.side output).pump = .reading) :
    s.channel.tasks[output.slot]? = some (.finished none) := by
  refine h.idle ?_
  rw [hpump]
  exact Pump.noConfusion

theorem State.Flows.finished_of_hasEnded (h : s.Flows total log output)
    (hended : (s.side output).pump.hasEnded = true) : (s.side output).pump = .finished none := by
  rcases h.pump with hreading | hwriting | ⟨hfinished, -, -⟩
  · rw [hreading] at hended
    cases hended
  · rw [hwriting] at hended
    cases hended
  · exact hfinished

theorem Waiting.frame (h : Waiting exit log s) (hwaiter : t.waiter = s.waiter)
    (hsize : t.maxPacketSize = s.maxPacketSize)
    (htask : t.channel.tasks[waitSlot]? = s.channel.tasks[waitSlot]?)
    (hended : ∀ output, (s.side output).pump = .finished none →
      (t.side output).pump = .finished none) : Waiting exit log t := by
  cases h with
  | before hidle hlog hwait =>
    refine .before (htask.trans hidle) hlog ?_
    rw [hwaiter]
    rcases hwait with hchild | hstdout | ⟨hstderr, hfinished⟩
    · exact .inl hchild
    · exact .inr (.inl hstdout)
    · exact .inr (.inr ⟨hstderr, hended _ hfinished⟩)
  | after houtputs hlog hlast hfinished hwait =>
    refine .after houtputs hlog ?_ (fun output => hended output (hfinished output)) ?_
    · rw [State.owed_congr hsize htask]
      exact hlast
    · rw [hwaiter, htask]
      exact hwait

/-- Until the exit status is sent there is only data. -/
theorem Waiting.unsent (h : Waiting exit log s) (hsending : s.waiter ≠ .sending)
    (hdone : s.waiter ≠ .done) :
    s.channel.tasks[waitSlot]? = some (.finished none) ∧ (∀ message ∈ log, IsData message) ∧
      (s.waiter = .stderrTask → (s.side .stdout).pump = .finished none) := by
  cases h with
  | before hidle hlog hwaiter =>
    refine ⟨hidle, hlog, fun hstderr => ?_⟩
    rcases hwaiter with hchild | hstdout | ⟨-, hfinished⟩
    · rw [hchild] at hstderr
      cases hstderr
    · rw [hstdout] at hstderr
      cases hstderr
    · exact hfinished
  | after _ _ _ _ hwaiter =>
    rcases hwaiter with hsent | ⟨hsent, -⟩
    · exact absurd hsent hsending
    · exact absurd hsent hdone

/-- From then on, nothing but the exit status follows the data. -/
theorem Waiting.sent (h : Waiting exit log s)
    (hwaiter : s.waiter = .sending ∨ s.waiter = .done) :
    ∃ outputs last, (∀ message ∈ outputs, IsData message) ∧ log = outputs ++ last ∧
      last ++ s.owed waitSlot = [exit] ∧
      (∀ output, (s.side output).pump = .finished none) ∧
      (s.waiter = .done → s.channel.tasks[waitSlot]? = some (.finished none)) := by
  cases h with
  | before _ _ hwait =>
    have hnot : s.waiter ≠ .sending ∧ s.waiter ≠ .done := by
      rcases hwait with hchild | hstdout | ⟨hstderr, -⟩
      · rw [hchild]
        exact ⟨Waiter.noConfusion, Waiter.noConfusion⟩
      · rw [hstdout]
        exact ⟨Waiter.noConfusion, Waiter.noConfusion⟩
      · rw [hstderr]
        exact ⟨Waiter.noConfusion, Waiter.noConfusion⟩
    rcases hwaiter with hsending | hdone
    · exact absurd hsending hnot.1
    · exact absurd hdone hnot.2
  | @after outputs last houtputs hlog hlast hended hwait =>
    refine ⟨outputs, last, houtputs, hlog, hlast, hended, fun hdone => ?_⟩
    rcases hwait with hsending | ⟨-, hidle⟩
    · rw [hdone] at hsending
      cases hsending
    · exact hidle

theorem written_cons (other : Output) (bytes : List UInt8) (script : List (Output × List UInt8)) :
    written output ((other, bytes) :: script) =
      (if other = output then bytes else []) ++ written output script := by
  rw [written, List.flatMap_cons]
  rfl

theorem written_eq_nil {script : List (Output × List UInt8)}
    (h : ∀ entry ∈ script, entry.1 ≠ output) : written output script = [] :=
  List.flatMap_eq_nil_iff.mpr fun entry hentry => if_neg (h entry hentry)

theorem State.setSide_self (s : State) (output : Output) (side : Side) :
    (s.setSide output side).side output = side :=
  Function.update_self ..

theorem State.setSide_other {other : Output} (h : other ≠ output) (s : State) (side : Side) :
    (s.setSide output side).side other = s.side other :=
  Function.update_of_ne h ..

theorem State.forall_setSide {P : Output → Side → Prop} {side : Side} (hself : P output side)
    (hothers : ∀ other, other ≠ output → P other (s.side other)) (other : Output) :
    P other ((s.setSide output side).side other) := by
  by_cases hother : other = output
  · subst hother
    rw [State.setSide_self]
    exact hself
  · rw [State.setSide_other hother]
    exact hothers other hother

end Parts

/-! ## What each step preserves -/

section Steps

variable {s t : State} {log : List Message} {confirmation : Message}
  {script left : List (Output × List UInt8)} {result : WaitResult} {output : Output}

/-- Steps that only change one output. -/
theorem Inv.setSide (h : Inv confirmation script result log s) {side : Side}
    (hopen : (s.side output).isOpen = false → side.isOpen = false)
    (hended : (s.side output).pump = .finished none → side.pump = .finished none)
    (hothers : ∀ other, other ≠ output → written other left = written other s.script)
    (hflow : Flow output (written output script) log (s.owed output.slot)
      s.channel.tasks[output.slot]? side (written output left)) :
    Inv confirmation script result log { s.setSide output side with script := left } where
  serial := h.serial
  slots := h.slots
  packetSize := h.packetSize
  status := h.status
  exited := fun hrunning =>
    State.forall_setSide (P := fun _ side => side.isOpen = false)
      (hopen (h.exited hrunning output)) fun other _ => h.exited hrunning other
  flow := by
    refine State.forall_setSide (P := fun other side => Flow other (written other script) log
      (s.owed other.slot) s.channel.tasks[other.slot]? side (written other left)) hflow ?_
    intro other hother
    rw [hothers other hother]
    exact h.flow other
  waiting := h.waiting.frame rfl rfl rfl
    (State.forall_setSide
      (P := fun other side => (s.side other).pump = .finished none → side.pump = .finished none)
      hended fun _ _ hfinished => hfinished)

theorem Inv.write {bytes : List UInt8} (h : Inv confirmation script result log s)
    (hscript : s.script = (output, bytes) :: left) :
    Inv confirmation script result log { s.setSide output { s.side output with
      unread := (s.side output).unread ++ bytes } with script := left } := by
  have hflow := h.flow output
  have hwritten : written output s.script = bytes ++ written output left := by
    rw [hscript, written_cons, if_pos rfl]
  refine h.setSide id id (fun other hother => ?_) ?_
  · rw [hscript, written_cons, if_neg (Ne.symm hother), List.nil_append]
  · refine ⟨?_, hflow.typed, hflow.idle, ?_, fun hclosed => ?_⟩
    · have hbytes := hflow.bytes
      rw [hwritten] at hbytes
      rw [List.append_assoc]
      exact hbytes
    · rcases hflow.pump with hreading | hwriting | ⟨hfinished, hunread, hclosed⟩
      · exact .inl hreading
      · exact .inr (.inl hwriting)
      -- a process does not write to an output that it has closed
      · have hnil := hflow.closed hclosed
        rw [hwritten, List.append_eq_nil_iff] at hnil
        refine .inr (.inr ⟨hfinished, ?_, hclosed⟩)
        rw [hunread, hnil.1, List.append_nil]
    · have hnil := hflow.closed hclosed
      rw [hwritten, List.append_eq_nil_iff] at hnil
      exact hnil.2

theorem Inv.exit (h : Inv confirmation script result log s) (hscript : s.script = []) :
    Inv confirmation script result log { s with
      running := false
      side := fun output => { s.side output with isOpen := false } } where
  serial := h.serial
  slots := h.slots
  packetSize := h.packetSize
  status := h.status
  exited := fun _ _ => rfl
  flow := by
    intro output
    have hflow := h.flow output
    refine ⟨hflow.bytes, hflow.typed, hflow.idle, ?_, fun _ => ?_⟩
    · rcases hflow.pump with hreading | hwriting | ⟨hfinished, hunread, -⟩
      · exact .inl hreading
      · exact .inr (.inl hwriting)
      · exact .inr (.inr ⟨hfinished, hunread, rfl⟩)
    · show written output s.script = []
      rw [hscript]
      rfl
  waiting := h.waiting.frame rfl rfl rfl fun _ hfinished => hfinished

theorem Inv.hangUp (h : Inv confirmation script result log s)
    (hscript : ∀ entry ∈ s.script, entry.1 ≠ output) :
    Inv confirmation script result log
      (s.setSide output { s.side output with isOpen := false }) := by
  have hflow := h.flow output
  refine h.setSide (fun _ => rfl) id (fun _ _ => rfl) ?_
  refine ⟨hflow.bytes, hflow.typed, hflow.idle, ?_, fun _ => written_eq_nil hscript⟩
  rcases hflow.pump with hreading | hwriting | ⟨hfinished, hunread, -⟩
  · exact .inl hreading
  · exact .inr (.inl hwriting)
  · exact .inr (.inr ⟨hfinished, hunread, rfl⟩)

theorem Inv.endOfFile (h : Inv confirmation script result log s)
    (hpump : (s.side output).pump = .reading) (hunread : (s.side output).unread = [])
    (hopen : (s.side output).isOpen = false) :
    Inv confirmation script result log
      (s.setSide output { s.side output with pump := .finished none }) := by
  have hflow := h.flow output
  refine h.setSide id (fun _ => rfl) (fun _ _ => rfl) ?_
  exact ⟨hflow.bytes, hflow.typed, fun _ => hflow.idle_of_reading hpump,
    .inr (.inr ⟨rfl, hunread, hopen⟩), hflow.closed⟩

theorem Inv.returned {task : Task} {pump : Pump} (h : Inv confirmation script result log s)
    (hpump : (s.side output).pump = .writing)
    (hget : s.channel.tasks[output.slot]? = some task) (hafter : Pump.after task = some pump) :
    Inv confirmation script result log (s.setSide output { s.side output with pump }) := by
  have hflow := h.flow output
  -- no write fails, so the call has succeeded
  have hsound := h.serial.sound output.slot task hget
  obtain ⟨rfl, rfl⟩ : task = .finished none ∧ pump = .reading := by
    cases task with
    | finished err =>
      cases hsound
      cases hafter
      exact ⟨rfl, rfl⟩
    | panicked panic => exact hsound.elim
    | start _ | wantHeader _ _ | writeHeader _ _ | body _ | wantSend _ _ | writing _ _ _ =>
      cases hafter
  refine h.setSide id (fun hfinished => ?_) (fun _ _ => rfl) ?_
  · rw [hpump] at hfinished
    cases hfinished
  · exact ⟨hflow.bytes, hflow.typed, fun _ => hget, .inl rfl, hflow.closed⟩

/-- A pump that has called `write_data`. -/
theorem Inv.startWrite {bytes : List UInt8} {side : Side}
    (h : Inv confirmation script result log s)
    (hidle : s.channel.tasks[output.slot]? = some (.finished none))
    (hpump : (s.side output).pump ≠ .finished none)
    (hopen : side.isOpen = (s.side output).isOpen)
    (hflow : ∀ task, Flow output (written output script) log
      (dataMessages s.maxPacketSize output bytes) task side (written output s.script)) :
    Inv confirmation script result log
      ((s.setSide output side).startCall output.slot (.writeData bytes output.dataType)) where
  serial := h.serial.restart hidle (sound_writeData h.packetSize)
  slots := (List.length_set ..).trans h.slots
  packetSize := h.packetSize
  status := h.status
  exited := fun hrunning =>
    State.forall_setSide (P := fun _ side => side.isOpen = false)
      (hopen.trans (h.exited hrunning output)) fun other _ => h.exited hrunning other
  flow := by
    intro other
    by_cases hother : other = output
    · subst hother
      have howed : ((s.setSide other side).startCall other.slot
          (.writeData bytes other.dataType)).owed other.slot =
            dataMessages s.maxPacketSize other bytes :=
        (State.owed_startCall (s := s.setSide other side) hidle).trans
          (owed_writeData h.packetSize)
      unfold State.Flows
      rw [howed]
      rw [← s.setSide_self other side] at hflow
      exact hflow _
    · exact (h.flow other).frame (State.setSide_other hother s side) rfl
        (List.getElem?_set_ne fun heq => hother (Output.slot_inj.mp heq).symm) rfl
  waiting := h.waiting.frame rfl rfl (List.getElem?_set_ne output.slot_ne_waitSlot)
    (State.forall_setSide
      (P := fun other side => (s.side other).pump = .finished none → side.pump = .finished none)
      (fun hfinished => absurd hfinished hpump) fun _ _ hfinished => hfinished)

theorem Inv.read {bytes unread : List UInt8} (h : Inv confirmation script result log s)
    (hpump : (s.side output).pump = .reading)
    (hunread : (s.side output).unread = bytes ++ unread) :
    Inv confirmation script result log
      ((s.setSide output { s.side output with unread, pump := .writing }).startCall output.slot
        (.writeData bytes output.dataType)) := by
  have hflow := h.flow output
  have hidle := hflow.idle_of_reading hpump
  have hnotFinished : (s.side output).pump ≠ .finished none := by
    rw [hpump]
    exact Pump.noConfusion
  refine h.startWrite hidle hnotFinished rfl fun task => ?_
  refine ⟨?_, isData_dataMessages, fun hne => absurd rfl hne, .inr (.inl rfl), hflow.closed⟩
  -- what was read is now what the call owes
  have hbytes := hflow.bytes
  rw [State.owed_of_get hidle, hunread] at hbytes
  rw [flatMap_dataMessages, if_pos rfl, ← List.append_assoc bytes]
  exact hbytes

/-- Steps of the third task. -/
theorem Inv.setWaiter {waiter : Waiter} (h : Inv confirmation script result log s)
    (hwaiting : Waiting (exitMessage result) log { s with waiter }) :
    Inv confirmation script result log { s with waiter } where
  serial := h.serial
  slots := h.slots
  packetSize := h.packetSize
  status := h.status
  exited := h.exited
  flow := fun output => (h.flow output).frame rfl rfl rfl rfl
  waiting := hwaiting

theorem Inv.unsent (h : Inv confirmation script result log s) {waiter : Waiter}
    (hwaiter : s.waiter = waiter) (hsending : waiter ≠ .sending) (hdone : waiter ≠ .done) :
    s.channel.tasks[waitSlot]? = some (.finished none) ∧ (∀ message ∈ log, IsData message) ∧
      (s.waiter = .stderrTask → (s.side .stdout).pump = .finished none) := by
  subst hwaiter
  exact h.waiting.unsent hsending hdone

theorem Inv.joinChild (h : Inv confirmation script result log s) (hwaiter : s.waiter = .child) :
    Inv confirmation script result log { s with waiter := .stdoutTask } := by
  obtain ⟨hidle, hlog, -⟩ := h.unsent hwaiter Waiter.noConfusion Waiter.noConfusion
  exact h.setWaiter (.before hidle hlog (.inr (.inl rfl)))

theorem Inv.joinStdout (h : Inv confirmation script result log s)
    (hwaiter : s.waiter = .stdoutTask) (hended : (s.side .stdout).pump.hasEnded = true) :
    Inv confirmation script result log { s with waiter := .stderrTask } := by
  obtain ⟨hidle, hlog, -⟩ := h.unsent hwaiter Waiter.noConfusion Waiter.noConfusion
  have hfinished := (h.flow .stdout).finished_of_hasEnded hended
  exact h.setWaiter (.before hidle hlog (.inr (.inr ⟨rfl, hfinished⟩)))

theorem sound_sendRequest (result : WaitResult) (maxPacketSize : UInt64)
    (hresult : exitStatus result ≤ MAX_VARINT) :
    (Task.start (.sendRequest (exitStatusRequest result))).Sound maxPacketSize := by
  refine ⟨⟨_, rfl, ?_⟩, ?_⟩
  · intro message hmessage
    rw [List.mem_singleton.mp hmessage]
    exact hresult
  · intro datagram heq
    cases heq

theorem Inv.joinStderr (h : Inv confirmation script result log s)
    (hresult : exitStatus result ≤ MAX_VARINT) (hwaiter : s.waiter = .stderrTask)
    (hended : (s.side .stderr).pump.hasEnded = true) :
    Inv confirmation script result log
      { s.startCall waitSlot (.sendRequest (exitStatusRequest s.status)) with
        waiter := .sending } := by
  obtain ⟨hidle, hlog, hstdout⟩ := h.unsent hwaiter Waiter.noConfusion Waiter.noConfusion
  rw [h.status]
  refine ⟨h.serial.restart hidle (sound_sendRequest result _ hresult),
    (List.length_set ..).trans h.slots, h.packetSize, h.status, h.exited, ?_, ?_⟩
  · intro output
    exact (h.flow output).frame rfl rfl
      (List.getElem?_set_ne (Ne.symm output.slot_ne_waitSlot)) rfl
  · have hnothing : log = log ++ [] := (List.append_nil log).symm
    refine .after hlog hnothing ?_ (fun output => ?_) (.inl rfl)
    · exact State.owed_startCall hidle
    · cases output with
      | stdout => exact hstdout hwaiter
      | stderr => exact (h.flow .stderr).finished_of_hasEnded hended

theorem Inv.sent {task : Task} (h : Inv confirmation script result log s)
    (hwaiter : s.waiter = .sending) (hget : s.channel.tasks[waitSlot]? = some task)
    (hended : (∃ err, task = .finished err) ∨ ∃ panic, task = .panicked panic) :
    Inv confirmation script result log { s with waiter := .done } := by
  have hsound := h.serial.sound waitSlot task hget
  have hfinished : task = .finished none := by
    rcases hended with ⟨err, rfl⟩ | ⟨panic, rfl⟩
    · exact congrArg Task.finished hsound
    · exact hsound.elim
  rw [hfinished] at hget
  obtain ⟨outputs, last, houtputs, hlog, hlast, hended, -⟩ := h.waiting.sent (.inl hwaiter)
  exact h.setWaiter (.after houtputs hlog hlast hended (.inr ⟨rfl, hget⟩))

end Steps

/-! ## A call goes on -/

section Moves

variable {s : State} {log new : List Message} {confirmation : Message}
  {script : List (Output × List UInt8)} {result : WaitResult} {output other : Output}
  {slot : Nat} {old next : Task} {channel : Core.Framing.State}

theorem State.maxPacketSize_moved (hmoved : Moved s.channel slot old new next channel) :
    { s with channel }.maxPacketSize = s.maxPacketSize :=
  congrArg Core.ChannelInfo.maxPacketSize hmoved.info

theorem State.get_moved (hmoved : Moved s.channel slot old new next channel) {k : Nat}
    (hne : slot ≠ k) : channel.tasks[k]? = s.channel.tasks[k]? := by
  rw [hmoved.tasks, List.getElem?_set_ne hne]

theorem State.owed_moved (hget : s.channel.tasks[slot]? = some old)
    (hmoved : Moved s.channel slot old new next channel) :
    s.owed slot = new ++ { s with channel }.owed slot := by
  have hnext : channel.tasks[slot]? = some next := by
    rw [hmoved.tasks]
    exact Tasks.get_set_self hget
  have howed : { s with channel }.owed slot = next.owed s.maxPacketSize := by
    rw [← State.maxPacketSize_moved hmoved]
    exact State.owed_of_get hnext
  rw [State.owed_of_get hget, howed]
  exact hmoved.owed

theorem flatMap_dataOf_other (hother : other ≠ output)
    (hnew : ∀ message ∈ new, ∃ data, message = .data ⟨output.dataType, data⟩) :
    new.flatMap (dataOf other.dataType) = [] := by
  refine List.flatMap_eq_nil_iff.mpr fun message hmessage => ?_
  obtain ⟨data, rfl⟩ := hnew message hmessage
  exact if_neg fun heq => hother (Output.dataType_inj.mp heq).symm

theorem Inv.moved (h : Inv confirmation script result log s)
    (hget : s.channel.tasks[slot]? = some old)
    (hmoved : Moved s.channel slot old new next channel)
    (hflow : ∀ output, { s with channel }.Flows (written output script) (log ++ new) output)
    (hwaiting : Waiting (exitMessage result) (log ++ new)
      { s with channel }) :
    Inv confirmation script result (log ++ new) { s with channel } where
  serial := h.serial.moved hget hmoved
  slots := by
    rw [hmoved.tasks, List.length_set]
    exact h.slots
  packetSize := by
    rw [State.maxPacketSize_moved hmoved]
    exact h.packetSize
  status := h.status
  exited := h.exited
  flow := hflow
  waiting := hwaiting

/-- The call of a pump. -/
theorem Inv.moved_pump (h : Inv confirmation script result log s)
    (hget : s.channel.tasks[output.slot]? = some old) (hlive : old ≠ .finished none)
    (hmoved : Moved s.channel output.slot old new next channel) :
    Inv confirmation script result (log ++ new) { s with channel } := by
  have hflow := h.flow output
  have howed := State.owed_moved hget hmoved
  have hnew : ∀ message ∈ new, ∃ data, message = .data ⟨output.dataType, data⟩ := by
    intro message hmessage
    refine hflow.typed message ?_
    rw [howed]
    exact List.mem_append_left _ hmessage
  have hwriting : (s.side output).pump = .writing := by
    by_contra hne
    exact hlive (Option.some.inj (hget.symm.trans (hflow.idle hne)))
  refine h.moved hget hmoved (fun other => ?_) ?_
  · by_cases hother : other = output
    · subst hother
      refine ⟨?_, ?_, fun hne => absurd hwriting hne, hflow.pump, hflow.closed⟩
      · have hbytes := hflow.bytes
        rw [howed, List.flatMap_append, List.append_assoc, ← List.append_assoc] at hbytes
        rw [List.flatMap_append]
        exact hbytes
      · intro message hmessage
        refine hflow.typed message ?_
        rw [howed]
        exact List.mem_append_right _ hmessage
    · have hslot : output.slot ≠ other.slot := fun heq => hother (Output.slot_inj.mp heq).symm
      have hkept : { s with channel }.Flows (written other script) log other :=
        (h.flow other).frame rfl (State.maxPacketSize_moved hmoved)
          (State.get_moved hmoved hslot) rfl
      exact hkept.append (flatMap_dataOf_other hother hnew)
  · cases h.waiting with
    | before hidle hlog hwaiter =>
      refine .before ((State.get_moved hmoved output.slot_ne_waitSlot).trans hidle) ?_ hwaiter
      intro message hmessage
      rcases List.mem_append.mp hmessage with hold | hmine
      · exact hlog message hold
      · obtain ⟨data, hdata⟩ := hnew message hmine
        exact ⟨_, hdata⟩
    -- the pumps have ended before the exit status is sent
    | after _ _ _ hended _ =>
      rw [hended output] at hwriting
      cases hwriting

/-- The call of the third task. -/
theorem Inv.moved_waiter (h : Inv confirmation script result log s)
    (hget : s.channel.tasks[waitSlot]? = some old) (hlive : old ≠ .finished none)
    (hmoved : Moved s.channel waitSlot old new next channel) :
    Inv confirmation script result (log ++ new) { s with channel } := by
  cases h.waiting with
  | before hidle _ _ => exact absurd (Option.some.inj (hget.symm.trans hidle)) hlive
  | @after outputs last houtputs hlog hlast hended hwaiter =>
    have howed := State.owed_moved hget hmoved
    rw [howed, ← List.append_assoc] at hlast
    have hexit : ∀ message ∈ new, message = exitMessage result := by
      intro message hmessage
      rw [← List.mem_singleton, ← hlast]
      exact List.mem_append_left _ (List.mem_append_right _ hmessage)
    refine h.moved hget hmoved (fun output => ?_) ?_
    · have hkept : { s with channel }.Flows (written output script) log output :=
        (h.flow output).frame rfl (State.maxPacketSize_moved hmoved)
          (State.get_moved hmoved (Ne.symm output.slot_ne_waitSlot)) rfl
      refine hkept.append (List.flatMap_eq_nil_iff.mpr fun message hmessage => ?_)
      rw [hexit message hmessage]
      rfl
    · refine .after houtputs ?_ hlast hended ?_
      · rw [hlog, List.append_assoc]
      · rcases hwaiter with hsending | ⟨-, hidle⟩
        · exact .inl hsending
        · exact absurd (Option.some.inj (hget.symm.trans hidle)) hlive

/-- Whose call it is. -/
theorem caller_of_slot (h : slot < 3) :
    slot = waitSlot ∨ ∃ output : Output, slot = output.slot := by
  obtain rfl | rfl | rfl : slot = 0 ∨ slot = 1 ∨ slot = 2 := by omega
  · exact .inr ⟨.stdout, rfl⟩
  · exact .inr ⟨.stderr, rfl⟩
  · exact .inl rfl

theorem Inv.advance {n : Nat} (h : Inv confirmation script result log s)
    (hget : s.channel.tasks[slot]? = some old)
    (hadvance : s.channel.advance slot n old = some channel) :
    ∃ new, Inv confirmation script result (log ++ new) { s with channel } := by
  obtain ⟨new, next, hmoved⟩ :=
    moved_of_advance h.serial.header (h.serial.sound slot old hget) hadvance
  have hlive : old ≠ .finished none := by
    rintro rfl
    cases hadvance
  obtain ⟨hlt, -⟩ := List.getElem?_eq_some_iff.mp hget
  rw [h.slots] at hlt
  refine ⟨new, ?_⟩
  rcases caller_of_slot hlt with rfl | ⟨output, rfl⟩
  · exact h.moved_waiter hget hlive hmoved
  · exact h.moved_pump hget hlive hmoved

/-- **Step lemma.**  A step keeps the invariant, and what it sends is added to the log. -/
theorem Inv.stepped {t : State} (h : Inv confirmation script result log s)
    (hresult : exitStatus result ≤ MAX_VARINT) (hstep : Stepped s t) :
    ∃ new, Inv confirmation script result (log ++ new) t := by
  -- only the calls add to the log
  have hsame : ∀ {u : State}, Inv confirmation script result log u →
      ∃ new, Inv confirmation script result (log ++ new) u := by
    intro u hu
    refine ⟨[], ?_⟩
    rw [List.append_nil]
    exact hu
  cases hstep with
  | write hscript => exact hsame (h.write hscript)
  | exit _ hscript => exact hsame (h.exit hscript)
  | hangUp _ hscript => exact hsame (h.hangUp hscript)
  | read hpump hunread _ => exact hsame (h.read hpump hunread)
  | endOfFile hpump hunread hopen => exact hsame (h.endOfFile hpump hunread hopen)
  | returned hpump hget hafter => exact hsame (h.returned hpump hget hafter)
  | joinChild hwaiter _ => exact hsame (h.joinChild hwaiter)
  | joinStdout hwaiter hended => exact hsame (h.joinStdout hwaiter hended)
  | joinStderr hwaiter hended => exact hsame (h.joinStderr hresult hwaiter hended)
  | sent hwaiter hget hended => exact hsame (h.sent hwaiter hget hended)
  | advance hget hadvance => exact h.advance hget hadvance

end Moves

end Ssh3.Server.ProcessOutput
