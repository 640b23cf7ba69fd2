/-
  Ssh3.Server.ProcessOutputSpec

  The output of a process reaches the client whole.

  Every step of the three tasks takes something away from the work that is left, and until the
  exit status is sent some step can be taken, so every run comes to its end.  There the
  invariant says what is on the stream, and `runCaptureOnClient_eq` what a client makes of it.
-/

import Ssh3.Client.Capture
import Ssh3.Server.ProcessOutputInv

namespace Ssh3.Server.ProcessOutput

open Transition Fallible
open Proto (ascii Message ChannelOpenConfirmationMessage ChannelRequestMessage MAX_VARINT)
open StreamCodec (bind_eq_ok)
open Ssh3.Core (Endpoint Encodings dataOf confirmChannel sendMessage_eq_ok le_max_of_varIntLen
  freshEndpoint)
open Ssh3.Core.Framing (Call Task cost moved_of_advance toVec_of_encodable)
open Ssh3.Client (Setup SessionRequest Continues requestSession runCaptureOnClient
  runCaptureOnClient_eq)

/-! ## Progress -/

section Progress

variable {s t : State} {log : List Message} {confirmation : Message}
  {script : List (Output × List UInt8)} {result : WaitResult} {output : Output}

theorem State.child_enabled (hrunning : s.running = true) : ∃ t, s.child = some t := by
  rw [State.child, if_pos hrunning]
  split
  · exact ⟨_, rfl⟩
  · exact ⟨_, rfl⟩

theorem State.read_enabled (hpump : (s.side output).pump = .reading)
    (hopen : (s.side output).isOpen = false) : ∃ t, s.read output 0 = some t := by
  rw [State.read, hpump]
  cases (s.side output).unread with
  | nil =>
    show ∃ t, (if (s.side output).isOpen = true then _ else _) = some t
    rw [if_neg (Bool.eq_false_iff.mp hopen)]
    exact ⟨_, rfl⟩
  | cons b unread => exact ⟨_, rfl⟩

theorem State.returned_enabled (hpump : (s.side output).pump = .writing)
    (hget : s.channel.tasks[output.slot]? = some (.finished none)) :
    ∃ t, s.returned output = some t := by
  rw [State.returned, hpump, hget]
  exact ⟨_, rfl⟩

theorem State.wait_enabled (hrunning : s.running = false)
    (hended : ∀ output, (s.side output).pump = .finished none)
    (hget : s.channel.tasks[waitSlot]? = some (.finished none)) (hdone : s.waiter ≠ .done) :
    ∃ t, s.wait = some t := by
  unfold State.wait
  rw [hrunning, hended, hended, hget]
  cases hwaiter : s.waiter with
  | child | stdoutTask | stderrTask | sending => exact ⟨_, rfl⟩
  | done => exact absurd hwaiter hdone

/-- Until the exit status is sent, something can happen. -/
theorem Inv.progress (h : Inv confirmation script result log s) (hdone : s.waiter ≠ .done) :
    ∃ a t, step s a = some t := by
  by_cases hlive : ∃ (i : Nat) (task : Task), s.channel.tasks[i]? = some task ∧
      task ≠ .finished none
  · obtain ⟨i, task, hget, hne⟩ := hlive
    obtain ⟨j, channel, hstep⟩ := h.serial.progress hget hne
    refine ⟨.advance j 0, { s with channel }, ?_⟩
    rw [step, hstep]
    rfl
  -- every call has returned
  have hidle : ∀ slot, slot < 3 → s.channel.tasks[slot]? = some (.finished none) := by
    intro slot hslot
    rw [← h.slots] at hslot
    have hget := List.getElem?_eq_getElem hslot
    by_contra hne
    refine hlive ⟨slot, _, hget, fun heq => hne ?_⟩
    rw [hget, heq]
  cases hrunning : s.running with
  | true =>
    obtain ⟨t, ht⟩ := State.child_enabled hrunning
    exact ⟨.child, t, ht⟩
  | false =>
    have hclosed := h.exited hrunning
    by_cases hended : ∀ output, (s.side output).pump = .finished none
    · obtain ⟨t, ht⟩ := State.wait_enabled hrunning hended (hidle waitSlot (by decide)) hdone
      exact ⟨.wait, t, ht⟩
    · obtain ⟨output, hpump⟩ := not_forall.mp hended
      have hslot : output.slot < 3 := by cases output <;> decide
      rcases (h.flow output).pump with hreading | hwriting | ⟨hfinished, -, -⟩
      · obtain ⟨t, ht⟩ := State.read_enabled hreading (hclosed output)
        exact ⟨.read output 0, t, ht⟩
      · obtain ⟨t, ht⟩ := State.returned_enabled hwriting (hidle output.slot hslot)
        exact ⟨.returned output, t, ht⟩
      · exact absurd hfinished hpump

end Progress

/-! ## Termination -/

def Pump.weight : Pump → Nat
  | .reading => 1
  | .writing => 2
  | .finished _ | .panicked _ => 0

/-- A byte in a pipe may take a call of its own. -/
def Side.weight (side : Side) : Nat :=
  20 * side.unread.length + side.isOpen.toNat + side.pump.weight

/-- The call that sends the exit status is part of what the third task has still to do. -/
def Waiter.weight (status : WaitResult) : Waiter → Nat
  | .child => cost [exitMessage status] + 8
  | .stdoutTask => cost [exitMessage status] + 7
  | .stderrTask => cost [exitMessage status] + 6
  | .sending => 1
  | .done => 0

def scriptWeight (script : List (Output × List UInt8)) : Nat :=
  (script.map fun entry => 20 * entry.2.length + 1).sum

def State.sides (s : State) : Nat := (s.side .stdout).weight + (s.side .stderr).weight

def State.calls (s : State) : Nat := (s.channel.tasks.map (Task.work s.maxPacketSize)).sum

/-- A bound on the steps that are left. -/
def State.weight (s : State) : Nat :=
  scriptWeight s.script + s.running.toNat + s.sides +
    s.waiter.weight s.status + s.calls

section Termination

variable {s t : State} {log : List Message} {confirmation : Message}
  {script : List (Output × List UInt8)} {result : WaitResult}

theorem State.sides_setSide (s : State) (output : Output) (side : Side) :
    (s.setSide output side).sides + (s.side output).weight = s.sides + side.weight := by
  cases output with
  | stdout =>
    show side.weight + (s.side .stderr).weight + _ = _ + _ + _
    omega
  | stderr =>
    show (s.side .stdout).weight + side.weight + _ = _ + _ + _
    omega

theorem Pump.weight_after {task : Task} {pump : Pump} (h : Pump.after task = some pump) :
    pump.weight < 2 := by
  unfold Pump.after at h
  split at h
  · cases h
    exact Nat.one_lt_two
  · cases h
    exact Nat.two_pos
  · cases h
    exact Nat.two_pos
  · cases h

theorem Side.weight_close (side : Side) : { side with isOpen := false }.weight ≤ side.weight := by
  show 20 * side.unread.length + 0 + side.pump.weight ≤ _ + _ + _
  omega

/-! ### What an update does to it -/

theorem State.weight_setSide (s : State) (output : Output) (side : Side)
    (left : List (Output × List UInt8)) :
    State.weight { s.setSide output side with script := left } + (s.side output).weight +
      scriptWeight s.script = s.weight + side.weight + scriptWeight left := by
  have hsides := s.sides_setSide output side
  show scriptWeight left + s.running.toNat + (s.setSide output side).sides +
    s.waiter.weight s.status + s.calls + _ + _ = _
  unfold State.weight
  omega

theorem State.weight_setSide_add (s : State) (output : Output) (side : Side) :
    (s.setSide output side).weight + (s.side output).weight = s.weight + side.weight := by
  have hweight : (s.setSide output side).weight + (s.side output).weight + _ = _ :=
    s.weight_setSide output side s.script
  omega

theorem State.weight_setSide_lt {output : Output} {side : Side}
    (h : side.weight < (s.side output).weight) : (s.setSide output side).weight < s.weight := by
  have hweight := s.weight_setSide_add output side
  omega

theorem State.weight_setWaiter (s : State) (waiter : Waiter) :
    State.weight { s with waiter } + s.waiter.weight s.status =
      s.weight + waiter.weight s.status := by
  show scriptWeight s.script + s.running.toNat + s.sides +
    waiter.weight s.status + s.calls + _ = _
  unfold State.weight
  omega

theorem State.weight_setTask {slot : Nat} {old next : Task} {channel : Core.Framing.State}
    (hget : s.channel.tasks[slot]? = some old)
    (hsize : State.maxPacketSize { s with channel } = s.maxPacketSize)
    (htasks : channel.tasks = s.channel.tasks.set slot next) :
    State.weight { s with channel } + old.work s.maxPacketSize =
      s.weight + next.work s.maxPacketSize := by
  have hcalls : State.calls { s with channel } + old.work s.maxPacketSize =
      s.calls + next.work s.maxPacketSize := by
    rw [State.calls, hsize, htasks]
    exact Tasks.sum_map_set hget (Task.work s.maxPacketSize)
  show scriptWeight s.script + s.running.toNat + s.sides +
    s.waiter.weight s.status + State.calls { s with channel } + _ = _
  unfold State.weight
  omega

theorem State.weight_startCall {slot : Nat} {call : Call}
    (hget : s.channel.tasks[slot]? = some (.finished none)) :
    (s.startCall slot call).weight = s.weight + (Task.start call).work s.maxPacketSize :=
  State.weight_setTask hget rfl rfl

/-! ### The steps -/

/-- A pump that reads at least a byte calls `write_data`. -/
theorem Inv.weight_read_lt {output : Output} {bytes unread : List UInt8}
    (h : Inv confirmation script result log s) (hpump : (s.side output).pump = .reading)
    (hunread : (s.side output).unread = bytes ++ unread) (hbytes : bytes ≠ []) :
    ((s.setSide output { s.side output with unread, pump := .writing }).startCall output.slot
      (.writeData bytes output.dataType)).weight < s.weight := by
  have hidle := (h.flow output).idle_of_reading hpump
  have hpos := List.length_pos_iff.mpr hbytes
  have hcost : cost (dataMessages s.maxPacketSize output bytes) ≤ 13 * bytes.length :=
    cost_dataMessages
  have hwork : (Task.start (.writeData bytes output.dataType)).work s.maxPacketSize =
      cost (dataMessages s.maxPacketSize output bytes) + 4 := by
    rw [Task.work, owed_writeData h.packetSize]
    rfl
  have hside : (s.side output).weight + 1 =
      Side.weight { s.side output with unread, pump := .writing } + 20 * bytes.length := by
    simp only [Side.weight, hpump, hunread, List.length_append, Pump.weight]
    omega
  have hweight := s.weight_setSide_add output { s.side output with unread, pump := .writing }
  generalize ({ s.side output with unread, pump := .writing } : Side) = side at hside hweight ⊢
  have hcall : ((s.setSide output side).startCall output.slot
      (.writeData bytes output.dataType)).weight = _ :=
    State.weight_startCall (s := s.setSide output side) hidle
  calc ((s.setSide output side).startCall output.slot (.writeData bytes output.dataType)).weight
      = (s.setSide output side).weight + (cost (dataMessages s.maxPacketSize output bytes) + 4) :=
        hcall.trans (congrArg _ hwork)
    _ < s.weight := by omega

/-- Every step leaves less to do. -/
theorem Inv.weight_lt (h : Inv confirmation script result log s) (hstep : Stepped s t) :
    t.weight < s.weight := by
  cases hstep with
  | @write output bytes left hscript =>
    have hweight := s.weight_setSide output { s.side output with
      unread := (s.side output).unread ++ bytes } left
    have hside : Side.weight { s.side output with unread := (s.side output).unread ++ bytes } =
        (s.side output).weight + 20 * bytes.length := by
      simp only [Side.weight, List.length_append]
      omega
    have hleft : scriptWeight s.script = 20 * bytes.length + 1 + scriptWeight left := by
      rw [hscript, scriptWeight, List.map_cons, List.sum_cons]
      rfl
    omega
  | exit hrunning hscript =>
    have hstdout := (s.side .stdout).weight_close
    have hstderr := (s.side .stderr).weight_close
    show scriptWeight s.script + 0 +
      (Side.weight ⟨(s.side .stdout).unread, false, (s.side .stdout).pump⟩ +
        Side.weight ⟨(s.side .stderr).unread, false, (s.side .stderr).pump⟩) +
      s.waiter.weight s.status + s.calls < _
    unfold State.weight State.sides
    rw [hrunning, Bool.toNat_true]
    omega
  | @hangUp output hopen hscript =>
    refine State.weight_setSide_lt ?_
    simp only [Side.weight, hopen, Bool.toNat_true, Bool.toNat_false]
    omega
  | @read output bytes unread hpump hunread hbytes => exact h.weight_read_lt hpump hunread hbytes
  | @endOfFile output hpump hunread hopen =>
    refine State.weight_setSide_lt ?_
    simp only [Side.weight, hpump, Pump.weight]
    omega
  | @returned output task pump hpump hget hafter =>
    have hlighter := Pump.weight_after hafter
    have hwriting : Pump.writing.weight = 2 := rfl
    refine State.weight_setSide_lt ?_
    simp only [Side.weight, hpump, hwriting]
    omega
  | joinChild hwaiter hrunning =>
    have hweight := s.weight_setWaiter .stdoutTask
    rw [hwaiter] at hweight
    simp only [Waiter.weight] at hweight
    omega
  | joinStdout hwaiter hended =>
    have hweight := s.weight_setWaiter .stderrTask
    rw [hwaiter] at hweight
    simp only [Waiter.weight] at hweight
    omega
  | joinStderr hwaiter hended =>
    obtain ⟨hidle, -, -⟩ := h.unsent hwaiter Waiter.noConfusion Waiter.noConfusion
    have hcall : (s.startCall waitSlot (.sendRequest (exitStatusRequest s.status))).weight =
        s.weight + (cost [exitMessage s.status] + 4) :=
      State.weight_startCall hidle
    have hweight := State.weight_setWaiter
      (s.startCall waitSlot (.sendRequest (exitStatusRequest s.status))) .sending
    have hbefore : (s.startCall waitSlot (.sendRequest (exitStatusRequest s.status))).waiter =
        .stderrTask := hwaiter
    rw [hcall, hbefore] at hweight
    -- the call is lighter than what was set aside for it
    have hsum : State.weight _ + (cost [exitMessage s.status] + 6) =
      s.weight + (cost [exitMessage s.status] + 4) + 1 := hweight
    refine Nat.lt_of_add_lt_add_right
      (n := cost [exitMessage s.status] + 6) ?_
    rw [hsum]
    omega
  | sent hwaiter hget hended =>
    have hweight := s.weight_setWaiter .done
    rw [hwaiter] at hweight
    simp only [Waiter.weight] at hweight
    omega
  | advance hget hadvance =>
    obtain ⟨new, next, hmoved⟩ :=
      moved_of_advance h.serial.header (h.serial.sound _ _ hget) hadvance
    have hweight := State.weight_setTask hget (State.maxPacketSize_moved hmoved) hmoved.tasks
    have hlt : next.work s.maxPacketSize < Task.work s.maxPacketSize _ := hmoved.work_lt
    omega

end Termination

/-! ## Whole runs -/

section Runs

variable {s t : State} {log : List Message} {confirmation : Message}
  {script : List (Output × List UInt8)} {result : WaitResult}

/-- The result of a process that exits. -/
def exited (code : UInt8) : WaitResult := .ok (some (Int32.ofNat code.toNat))

theorem exitStatus_exited (code : UInt8) :
    exitStatus (exited code) = code.toUInt64 ∧
      code.toUInt64.toUInt32.toInt32 = Int32.ofNat code.toNat := by
  obtain ⟨⟨code⟩⟩ := code
  revert code
  decide +kernel

theorem exitStatus_exited_le (code : UInt8) : exitStatus (exited code) ≤ MAX_VARINT := by
  rw [(exitStatus_exited code).1, UInt64.le_iff_toNat_le, UInt8.toNat_toUInt64]
  exact Nat.le_trans (Nat.le_of_lt code.toNat_lt) (by decide)

/-- What `accept_channel` has sent when it returns the channel. -/
theorem confirmed_of_confirmChannel {server accepted : Endpoint} {window : UInt64}
    (hheader : server.channel.header = none) (hwrites : server.writes = [])
    (h : call (confirmChannel window) server = .ok (.ok (), accepted)) :
    window ≤ MAX_VARINT ∧ accepted.channel.header = none ∧
      accepted.channel.info = server.channel.info ∧
      accepted.writes.flatten =
        (Message.channelOpenConfirmation { maxPacketSize := window }).wire := by
  obtain ⟨⟨⟩, mid, hsend, hnote⟩ := call_bind_eq_ok.mp h
  obtain ⟨encoded, outcomes, hencoded, rfl⟩ := sendMessage_eq_ok hsend
  cases hnote
  have hwindow : window ≤ MAX_VARINT := by
    obtain ⟨len, hlen, -⟩ := bind_eq_ok.mp hencoded
    obtain ⟨kindLen, -, hrest⟩ := bind_eq_ok.mp hlen
    obtain ⟨windowLen, hwindowLen, -⟩ := bind_eq_ok.mp hrest
    exact le_max_of_varIntLen hwindowLen
  have hwire : (Message.channelOpenConfirmation { maxPacketSize := window }).toVec = .ok _ :=
    toVec_of_encodable hwindow
  rw [hencoded] at hwire
  refine ⟨hwindow, rfl, rfl, ?_⟩
  rw [hwrites, hheader]
  exact (List.append_nil encoded).trans (Except.ok.inj hwire)

theorem Inv.init {accepted : Endpoint} (hheader : accepted.channel.header = none)
    (hsize : PacketSize accepted.channel.info.maxPacketSize)
    (hwrites : accepted.writes.flatten = confirmation.wire)
    (hencodable : confirmation.Encodable) :
    Inv confirmation script result [] (spawnPipeSessionProcess accepted script result) where
  serial := by
    have htasks : ∀ (i : Nat) (task : Task),
        (List.replicate 3 (Task.finished none))[i]? = some task → task = .finished none :=
      fun i task hget => List.eq_of_mem_replicate (List.mem_of_getElem? hget)
    refine ⟨hheader, fun i task hget => ?_, fun i task hget hholds => ?_, ?_, .free rfl ?_⟩
    · rw [htasks i task hget]
      rfl
    · rw [htasks i task hget] at hholds
      cases hholds
    · exact List.forall_mem_singleton.mpr hencodable
    · rw [List.flatMap_singleton]
      exact hwrites
  slots := rfl
  packetSize := hsize
  status := rfl
  exited := by
    intro hrunning
    cases hrunning
  flow := by
    intro output
    have hidle : (spawnPipeSessionProcess accepted script result).channel.tasks[output.slot]? =
        some (.finished none) := by
      cases output <;> rfl
    refine ⟨?_, ?_, fun _ => hidle, .inl rfl, fun hclosed => ?_⟩
    · rw [State.owed_of_get hidle]
      rfl
    · rw [State.owed_of_get hidle]
      exact List.forall_mem_nil _
    · cases hclosed
  waiting := .before rfl (List.forall_mem_nil _) (.inl rfl)

/-- **Run lemma.**  A run has no more steps than its first state has weight, and every state on
    it keeps the invariant, for a log of what has been sent. -/
theorem Inv.run {as : List Action} (hresult : exitStatus result ≤ MAX_VARINT)
    (h : Inv confirmation script result log s) (hrun : Run step anyStep s as t) :
    as.length ≤ s.weight ∧ ∃ log', Inv confirmation script result log' t := by
  have hstep : ∀ (s : State) (a : Action) (t : State),
      (∃ log, Inv confirmation script result log s) → anyStep s a → step s a = some t →
        ∃ log, Inv confirmation script result log t := by
    rintro s a t ⟨log, hs⟩ - hst
    obtain ⟨new, ht⟩ := hs.stepped hresult (stepped_of_step hst)
    exact ⟨log ++ new, ht⟩
  have hlower : ∀ (s : State) (a : Action) (t : State),
      (∃ log, Inv confirmation script result log s) → anyStep s a → step s a = some t →
        t.weight < s.weight := by
    rintro s a t ⟨log, hs⟩ - hst
    exact hs.weight_lt (stepped_of_step hst)
  have hle := hrun.length_le hstep hlower ⟨log, h⟩
  exact ⟨by omega, hrun.invariant hstep ⟨log, h⟩⟩

/-- Once the third task is done, everything is on the stream. -/
theorem Inv.delivered (h : Inv confirmation script result log s) (hdone : s.waiter = .done) :
    ∃ outputs : List Message, (∀ message ∈ outputs, IsData message) ∧
      (∀ message ∈ confirmation :: (outputs ++ [exitMessage result]), message.Encodable) ∧
      s.channel.sent = (confirmation :: (outputs ++ [exitMessage result])).flatMap Message.wire ∧
      ∀ output, outputs.flatMap (dataOf output.dataType) = written output script := by
  obtain ⟨outputs, last, houtputs, hlog, hlast, hended, hreturned⟩ := h.waiting.sent (.inr hdone)
  have hidle := hreturned hdone
  have hpumps : ∀ output : Output, s.channel.tasks[output.slot]? = some (.finished none) := by
    intro output
    refine (h.flow output).idle ?_
    rw [hended output]
    exact Pump.noConfusion
  obtain rfl : last = [exitMessage result] := by
    rw [State.owed_of_get hidle] at hlast
    exact (List.append_nil last).symm.trans hlast
  subst hlog
  refine ⟨outputs, houtputs, h.serial.encodable, ?_, fun output => ?_⟩
  · cases h.serial.stream with
    | free _ hsent => exact hsent
    -- all three calls have returned
    | held _ hget _ =>
      obtain ⟨hlt, -⟩ := List.getElem?_eq_some_iff.mp hget
      rw [h.slots] at hlt
      rcases caller_of_slot hlt with rfl | ⟨output, rfl⟩
      · rw [hidle] at hget
        cases hget
      · rw [hpumps output] at hget
        cases hget
  · have hflow := h.flow output
    have hbytes := hflow.bytes
    rcases hflow.pump with hreading | hwriting | ⟨-, hunread, hclosed⟩
    · rw [hended output] at hreading
      cases hreading
    · rw [hended output] at hwriting
      cases hwriting
    · have hexit : [exitMessage result].flatMap (dataOf output.dataType) = [] := rfl
      rw [State.owed_of_get (hpumps output), hunread, hflow.closed hclosed,
        List.flatMap_append, hexit, List.append_nil] at hbytes
      exact (List.append_nil _).symm.trans hbytes

theorem encodings_wire {messages : List Message} (h : ∀ message ∈ messages, message.Encodable) :
    Encodings messages (messages.map Message.wire) := by
  rw [Encodings, List.forall₂_map_right_iff, List.forall₂_same]
  exact fun message hmessage => toVec_of_encodable (h message hmessage)

/-- **Command output reaches the client whole.**  A channel has been accepted, and a process
    that exits with `code` writes `script` to its two outputs.  However the tasks take turns,
    they come to an end, and then the stream has the confirmation of the channel on it, the
    data, and one exit status behind all of it.  A client that has opened the channel and reads
    that stream returns what was written to each output. -/
theorem runCaptureOnClient_returns_output {server accepted : Endpoint} {window : UInt64}
    (hheader : server.channel.header = none) (hwrites : server.writes = [])
    (hmin : 64 ≤ server.channel.info.maxPacketSize.toNat)
    (hmax : server.channel.info.maxPacketSize.toNat ≤ 16 * 1024 * 1024)
    (hconfirm : call (confirmChannel window) server = .ok (.ok (), accepted))
    (script : List (Output × List UInt8)) (code : UInt8) :
    ∃ bound, ∀ (as : List Action) (t : State),
      Run step anyStep (spawnPipeSessionProcess accepted script (exited code)) as t →
      as.length ≤ bound ∧
      (t.waiter ≠ .done → ∃ a u, step t a = some u) ∧
      (t.waiter = .done →
        (∃ outputs frames, (∀ message ∈ outputs, IsData message) ∧
          Encodings (.channelOpenConfirmation { maxPacketSize := window } ::
            (outputs ++ [.channelRequest ⟨false, .exitStatus ⟨code.toUInt64⟩⟩])) frames ∧
          t.channel.sent = frames.flatten) ∧
        ∀ (setup : Setup) (request : SessionRequest) (client started : Endpoint)
          (rest : List UInt8), client.channel.confirmSent = true →
          client.incoming = t.channel.sent ++ rest →
          call (requestSession setup request) client = .ok (.ok (), started) →
          ∃ final, call (runCaptureOnClient setup request) client = .ok (.ok {
            serverHeader := setup.serverHeader
            exitStatus := Int32.ofNat code.toNat
            stdout := written .stdout script
            stderr := written .stderr script }, final)) := by
  obtain ⟨hwindow, hnone, hinfo, hsent⟩ := confirmed_of_confirmChannel hheader hwrites hconfirm
  have hsize : PacketSize accepted.channel.info.maxPacketSize := by
    rw [hinfo]
    exact ⟨hmin, hmax⟩
  have hinit : Inv (.channelOpenConfirmation { maxPacketSize := window }) script (exited code) []
      (spawnPipeSessionProcess accepted script (exited code)) :=
    Inv.init hnone hsize hsent hwindow
  refine ⟨(spawnPipeSessionProcess accepted script (exited code)).weight, fun as t hrun => ?_⟩
  obtain ⟨hlen, log, ht⟩ := hinit.run (exitStatus_exited_le code) hrun
  refine ⟨hlen, ht.progress, fun hdone => ?_⟩
  obtain ⟨hstatus, hnarrow⟩ := exitStatus_exited code
  obtain ⟨outputs, houtputs, hencodable, hstream, hwritten⟩ := ht.delivered hdone
  have hexit : exitMessage (exited code) =
      .channelRequest ⟨false, .exitStatus ⟨code.toUInt64⟩⟩ := by
    rw [exitMessage, exitStatusRequest, hstatus]
  rw [hexit] at hencodable hstream
  constructor
  · exact ⟨outputs, _, houtputs, encodings_wire hencodable, hstream⟩
  · intro setup request client started rest hopened hincoming hrequest
    -- the client passes over the confirmation and collects the data
    have hmessages : ∀ message ∈ Message.channelOpenConfirmation { maxPacketSize := window } ::
        outputs, message.Encodable ∧ Continues message := by
      intro message hmessage
      rcases List.mem_cons.mp hmessage with rfl | hmessage
      · exact ⟨hwindow, trivial⟩
      · obtain ⟨data, rfl⟩ := houtputs message hmessage
        exact ⟨hencodable _ (List.mem_cons_of_mem _ (List.mem_append_left _ hmessage)), trivial⟩
    have hbytes : client.incoming =
        (Message.channelOpenConfirmation { maxPacketSize := window } :: outputs ++
          [Message.channelRequest ⟨false, .exitStatus ⟨code.toUInt64⟩⟩]).flatMap
            Message.wire ++ rest := by
      rw [hincoming, hstream]
      rfl
    have hcode : code.toUInt64 ≤ MAX_VARINT := by
      rw [← hstatus]
      exact exitStatus_exited_le code
    obtain ⟨final, hfinal⟩ := runCaptureOnClient_eq hrequest hbytes hmessages hcode hopened
    rw [hnarrow] at hfinal
    refine ⟨final, ?_⟩
    rw [hfinal, ← hwritten .stdout, ← hwritten .stderr]
    rfl

/-- A run of a process that writes a byte to each output and exits with 3. -/
def twoBytes : List Action :=
  [.child, .read .stdout 0, .child, .read .stderr 0, .child,
    -- the first call, with the second one waiting for the lock
    .advance 0 0, .advance 0 0, .advance 1 0, .advance 0 0, .advance 1 0, .advance 0 0,
    .advance 0 9, .advance 0 0, .returned .stdout,
    .advance 1 0, .wait, .advance 1 0, .advance 1 9, .read .stdout 0, .wait, .advance 1 0,
    .returned .stderr, .read .stderr 0, .wait,
    -- both pumps have ended
    .advance 2 0, .advance 2 0, .advance 2 0, .advance 2 0, .advance 2 99, .advance 2 0, .wait]

theorem runCaptureOnClient_returns_two_bytes :
    ∃ (accepted : Endpoint) (t : State) (final : Endpoint),
      call (confirmChannel 30000) (freshEndpoint 64) = .ok (.ok (), accepted) ∧
      Run step anyStep (spawnPipeSessionProcess accepted
        [(.stdout, ascii "a"), (.stderr, ascii "b")] (exited 3)) twoBytes t ∧
      t.waiter = .done ∧
      call (runCaptureOnClient ⟨none, false, none, none, .ok ()⟩ .shell)
          { freshEndpoint 30000 with incoming := t.channel.sent } =
        .ok (.ok ⟨none, 3, ascii "a", ascii "b"⟩, final) := by
  let accepted : Endpoint := { freshEndpoint 64 with
    writes := [(Message.channelOpenConfirmation { maxPacketSize := 30000 }).wire] }
  have haccepted : call (confirmChannel 30000) (freshEndpoint 64) = .ok (.ok (), accepted) := rfl
  have hwaiter : (exec step anyStep (spawnPipeSessionProcess accepted
      [(.stdout, ascii "a"), (.stderr, ascii "b")] (exited 3)) twoBytes).map State.waiter =
        some .done := by
    decide +kernel
  obtain ⟨t, hexec, hdone⟩ := Option.map_eq_some_iff.mp hwaiter
  have hrun := run_of_exec hexec
  obtain ⟨bound, hall⟩ := runCaptureOnClient_returns_output rfl rfl (by decide) (by decide)
    haccepted [(.stdout, ascii "a"), (.stderr, ascii "b")] 3
  obtain ⟨-, hclient⟩ := (hall twoBytes t hrun).2.2 hdone
  obtain ⟨final, hfinal⟩ := hclient ⟨none, false, none, none, .ok ()⟩ .shell
    { freshEndpoint 30000 with incoming := t.channel.sent } _ [] rfl
    (List.append_nil t.channel.sent).symm rfl
  exact ⟨accepted, t, final, haccepted, hrun, hdone, hfinal⟩

end Runs

end Ssh3.Server.ProcessOutput
