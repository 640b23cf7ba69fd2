/-
  Ssh3.Go.ExitStatus

  `cmd/ssh3-server.go`, the end of `execCmdInBackground`: how the result of
  `Wait` becomes the exit-status request that ends a session, and when the
  client gets to see it.
-/

import Ssh3.Go.Channel
import Ssh3.Go.MessageCodec

namespace Ssh3.Go

open Fallible

/-- How a process ended.  An exit code has 8 bits on Unix and 32 on Windows. -/
inductive ProcessState where
  | exited (code : UInt32)
  | signaled (signal : UInt8)
  deriving DecidableEq, Repr

/-- `ExitCode`: -1 if the process was terminated by a signal. -/
def ProcessState.exitCode : ProcessState → Int64
  | .exited code => code.toUInt64.toInt64
  | .signaled _ => -1

/-- The errors of `exec.Cmd.Wait`. -/
inductive WaitError where
  | exitError (state : ProcessState)
  /-- Any other error, such as one of copying the command's output -/
  | other
  deriving DecidableEq, Repr

/-- `execExitStatus`, from the error of `Wait`. -/
def execExitStatus : Option WaitError → UInt64
  | some (.exitError state) => state.exitCode.toUInt64
  | some .other => 0
  | none => 0

def exitStatusRequest (exitStatus : UInt64) : ChannelRequestMessage :=
  { wantReply := false, channelRequest := some (.exitStatus { exitStatus }) }

/-- The last thing the goroutine does; an error of the channel is only logged. -/
def reportExitStatus (waitErr : Option WaitError) : GoM SendHalf Unit :=
  tryCatch (sendRequest (exitStatusRequest (execExitStatus waitErr))) fun _ => pure ()

/-! ## The request on the wire -/

/-- The bytes of the request: those the Rust encoder writes for it. -/
def exitStatusWire (exitStatus : UInt64) : List UInt8 :=
  (Proto.Message.channelRequest ⟨false, .exitStatus ⟨exitStatus⟩⟩).wire

theorem exitStatus_encodable {exitStatus : UInt64} (h : exitStatus ≤ Proto.MAX_VARINT) :
    (Proto.Message.channelRequest ⟨false, .exitStatus ⟨exitStatus⟩⟩).Encodable := h

theorem exitStatus_not_forwardPort (exitStatus : UInt64) :
    ¬IsForwardPort (.channelRequest ⟨false, .exitStatus ⟨exitStatus⟩⟩) := by
  show Proto.ascii "exit-status" ≠ Proto.ascii "forward-port"
  decide

theorem codes_exitStatusRequest {exitStatus : UInt64} (h : exitStatus ≤ Proto.MAX_VARINT) :
    Codes (exitStatusRequest exitStatus).length (exitStatusRequest exitStatus).write
      (exitStatusWire exitStatus) :=
  codes_message (exitStatus_encodable h) (exitStatus_not_forwardPort exitStatus)

theorem accepts_exitStatusWire (ending : GoError) {exitStatus : UInt64}
    (h : exitStatus ≤ Proto.MAX_VARINT) :
    Accepts (parseMessage ending) (exitStatusWire exitStatus)
      (.channelRequest (exitStatusRequest exitStatus), none) :=
  accepts_of_reads ending (Proto.Message.coded (exitStatus_encodable h)).reads
    (exitStatus_not_forwardPort exitStatus)

/-! ## When the report reaches the client -/

/-- An exit code fits into 62 bits; the -1 of a process that a signal ended does not. -/
theorem execExitStatus_le_iff (waitErr : Option WaitError) :
    execExitStatus waitErr ≤ Proto.MAX_VARINT ↔
      ∀ signal, waitErr ≠ some (.exitError (.signaled signal)) := by
  constructor
  · rintro hle signal rfl
    have hstatus : execExitStatus (some (.exitError (.signaled signal))) = 0 - 1 := rfl
    rw [hstatus] at hle
    exact absurd hle (by decide)
  · intro hnot
    cases waitErr with
    | none => decide
    | some err =>
      cases err with
      | other => decide
      | exitError state =>
        cases state with
        | signaled signal => exact absurd rfl (hnot signal)
        | exited code =>
          -- an exit code has 32 bits, so the conversions keep its value
          have hcode := code.toNat_lt
          apply UInt64.le_iff_toNat_le.mpr
          show code.toUInt64.toInt64.toUInt64.toNat ≤ Proto.MAX_VARINT.toNat
          rw [UInt64.toUInt64_toInt64, UInt32.toNat_toUInt64]
          exact Nat.le_trans (Nat.le_of_lt hcode) (by decide)

/-- The report of a status that fits is sent whole. -/
theorem reportExitStatus_sent {waitErr : Option WaitError}
    (h : execExitStatus waitErr ≤ Proto.MAX_VARINT) (header sent : List UInt8) :
    call (reportExitStatus waitErr) ⟨header, sent, []⟩ =
      .ok (.ok (), ⟨[], sent ++ header ++ exitStatusWire (execExitStatus waitErr), []⟩) := by
  have hsend := sendMessage_complete (m := .channelRequest (exitStatusRequest _))
    (codes_exitStatusRequest h).length (codes_exitStatusRequest h).writes header sent
  unfold reportExitStatus sendRequest
  rw [call_tryCatch, hsend]

/-- **Exit reporting.**  For every way a command can end, on a channel whose stream takes
    every write: the status is at most `2 ^ 62 - 1`, the report is sent without a panic
    right behind what was sent before, and the client's next message is that exit status,
    exactly if the command was not ended by a signal. -/
theorem reportExitStatus_received_iff (waitErr : Option WaitError) (header sent : List UInt8) :
    (execExitStatus waitErr ≤ Proto.MAX_VARINT ∧
      ∃ wire, call (reportExitStatus waitErr) ⟨header, sent, []⟩ =
          .ok (.ok (), ⟨[], sent ++ header ++ wire, []⟩) ∧
        ∀ ending confirmReceived rest,
          call (NextMessage ending) ⟨true, confirmReceived, wire ++ rest⟩ =
            .ok (.ok (.channelRequest (exitStatusRequest (execExitStatus waitErr))),
              ⟨true, confirmReceived, rest⟩)) ↔
      ∀ signal, waitErr ≠ some (.exitError (.signaled signal)) := by
  rw [← execExitStatus_le_iff]
  constructor
  · rintro ⟨hle, -⟩
    exact hle
  · intro hle
    refine ⟨hle, exitStatusWire _, reportExitStatus_sent hle header sent, ?_⟩
    intro ending confirmReceived rest
    have hne : exitStatusWire (execExitStatus waitErr) ≠ [] := Proto.Message.wire_ne_nil _
    exact NextMessage_request ending (accepts_exitStatusWire ending hle) hne confirmReceived rest

/-- A command killed with SIGKILL: the goroutine panics in `Length`. -/
theorem reportExitStatus_panics_on_kill :
    ¬execExitStatus (some (.exitError (.signaled 9))) ≤ Proto.MAX_VARINT ∧
      call (reportExitStatus (some (.exitError (.signaled 9)))) ⟨[], [], []⟩ =
        .error (.varIntLen 18446744073709551615) := by
  constructor
  · decide
  · have hlength : (Message.channelRequest (exitStatusRequest
        (execExitStatus (some (.exitError (.signaled 9)))))).length =
        .error (.varIntLen 18446744073709551615) := rfl
    unfold reportExitStatus sendRequest
    rw [call_tryCatch, sendMessage_panics hlength]

end Ssh3.Go
