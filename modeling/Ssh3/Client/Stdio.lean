/-
  Ssh3.Client.Stdio

  `ssh3-client/src/lib.rs`: `run_stdio_on_client`, and the exit code that `main` makes
  of its result.

  The exit status of the remote process is a number of up to 62 bits on the wire.  The
  library keeps its low 32 bits, and `main` the low eight of these, so a status other than
  zero can come out as zero: `exitStatus_reported_iff` says for which ones it does not.
-/

import Ssh3.Client.Capture

namespace Ssh3.Client

open Proto Fallible
open Ssh3.Core (Endpoint ChannelError nextMessage dataOf Ahead length_le_length_wires freshEndpoint)

/-- `ClientError`, with the errors of the local terminal, which a captured session does not
    meet. -/
inductive StdioError where
  | client (err : ClientError)
  | io (err : IoError)
  deriving DecidableEq, Repr

/-- The channel and the local output. -/
structure Stdio where
  endpoint : Endpoint
  stdout : List UInt8
  stderr : List UInt8
  /-- What the coming writes to the local output return, with their flush; all others
      succeed -/
  outcomes : List (Except IoError Unit)
  deriving Repr

/-- The local terminal, if there is one. -/
structure LocalTerminal where
  /-- What `detect_local_terminal` returns -/
  detected : Except IoError (Option LocalTerminalInfo)
  /-- What `enable_raw_mode` returns -/
  rawMode : Except IoError Unit
  deriving Repr

/-- A call of the client on a channel and the user's terminal -/
abbrev StdioM (α : Type) := Comp Stdio StdioError Panic α

/-- A part of the session that does not touch the local output. -/
def onClient {α : Type} (m : ClientM α) : StdioM α := fun s =>
  match call m s.endpoint with
  | .error panic => .error panic
  | .ok (.error err, endpoint) => .ok (.error (.client err), { s with endpoint })
  | .ok (.ok a, endpoint) => .ok (.ok a, { s with endpoint })

def onTerminal {α : Type} (result : Except IoError α) : StdioM α :=
  match result with
  | .ok a => pure a
  | .error err => throw (.io err)

/-! ## The session -/

/-- `write_all` and `flush` of one of the two outputs. -/
def writeOutput (written : Stdio → Stdio) : StdioM Unit := do
  let s ← get
  match s.outcomes with
  | [] => set (written s)
  | .ok () :: outcomes => set { written s with outcomes }
  | .error err :: _ => throw (.io err)

/-- The part of `build_session_runtime` that needs a terminal: raw mode is for a shell only. -/
def enterRawMode (request : SessionRequest) (detected : Option LocalTerminalInfo)
    (terminal : LocalTerminal) : StdioM Unit :=
  match request, detected with
  | .shell, some _ => onTerminal terminal.rawMode
  | _, _ => pure ()

/-- `run_stdio_on_client` up to its loop. -/
def requestStdioSession (setup : Setup) (request : SessionRequest) (terminal : LocalTerminal) :
    StdioM Unit := do
  let detected ← onTerminal terminal.detected
  if setup.forwardAgent then
    onClient sendForwardAgentRequest
  onClient (sendInitialSessionRequests request detected)
  enterRawMode request detected terminal
  onClient (buildSessionRuntime setup)

/-- At most `n` passes of the loop. -/
def stdioWithin : Nat → StdioM Int32
  | 0 => do throw (.client (.channel (.io (← get).endpoint.ending)))
  | n + 1 => do
    match ← onClient (onChannel nextMessage) with
    | .data data =>
      if data.dataType = SSH_EXTENDED_DATA_NONE then do
        writeOutput fun s => { s with stdout := s.stdout ++ data.data }
        stdioWithin n
      else if data.dataType = SSH_EXTENDED_DATA_STDERR then do
        writeOutput fun s => { s with stderr := s.stderr ++ data.data }
        stdioWithin n
      else stdioWithin n
    | .channelRequest message =>
      match message.request with
      | .exitStatus status => return status.exitStatus.toUInt32.toInt32
      | .exitSignal signal => throw (.client (.exitSignal signal))
      | _ => stdioWithin n
    | _ => stdioWithin n

/-- Every pass reads at least a byte, so the bound is never reached. -/
def runStdioOnClient (setup : Setup) (request : SessionRequest) (terminal : LocalTerminal) :
    StdioM Int32 := do
  requestStdioSession setup request terminal
  stdioWithin ((← get).endpoint.incoming.length + 1)

/-- `ExitCode::from(status as u8)`, or `ExitCode::FAILURE`. -/
def mainExitCode : Except StdioError Int32 → UInt8
  | .ok status => status.toUInt32.toUInt8
  | .error _ => 1

/-! ## What the requests leave alone -/

section Requests

variable {s t : Stdio}

theorem call_onClient_eq_ok {α : Type} {m : ClientM α} {a : α} :
    call (onClient m) s = .ok (.ok a, t) ↔
      ∃ endpoint, call m s.endpoint = .ok (.ok a, endpoint) ∧ t = { s with endpoint } := by
  show onClient m s = _ ↔ _
  unfold onClient
  rcases call m s.endpoint with p | ⟨err | b, endpoint⟩
  · constructor
    · intro h
      cases h
    · rintro ⟨endpoint, h, -⟩
      cases h
  · constructor
    · intro h
      cases h
    · rintro ⟨endpoint, h, -⟩
      cases h
  · constructor
    · intro h
      cases h
      exact ⟨endpoint, rfl, rfl⟩
    · rintro ⟨endpoint, h, rfl⟩
      cases h
      rfl

theorem call_onTerminal_eq_ok {α : Type} {result : Except IoError α} {a : α}
    (h : call (onTerminal result) s = .ok (.ok a, t)) : t = s := by
  cases result with
  | error err => cases h
  | ok b =>
    cases h
    rfl

/-- The receive side of the channel and the local output are as they were. -/
structure SameSession (s t : Stdio) : Prop where
  receiver : SameReceiver s.endpoint t.endpoint
  outcomes : t.outcomes = s.outcomes

theorem sameSession_onClient {m : ClientM Unit}
    (hm : ∀ {u v : Endpoint}, call m u = .ok (.ok (), v) → SameReceiver u v)
    (h : call (onClient m) s = .ok (.ok (), t)) : SameSession s t := by
  obtain ⟨endpoint, hcall, rfl⟩ := call_onClient_eq_ok.mp h
  exact ⟨hm hcall, rfl⟩

theorem SameSession.trans {u : Stdio} (h : SameSession s t) (h' : SameSession t u) :
    SameSession s u :=
  ⟨h.receiver.trans h'.receiver, h'.outcomes.trans h.outcomes⟩

theorem sameSession_requestStdioSession {setup : Setup} {request : SessionRequest}
    {terminal : LocalTerminal}
    (h : call (requestStdioSession setup request terminal) s = .ok (.ok (), t)) :
    SameSession s t := by
  unfold requestStdioSession at h
  obtain ⟨detected, s₁, hdetected, h₁⟩ := call_bind_eq_ok.mp h
  obtain rfl := call_onTerminal_eq_ok hdetected
  -- the part behind the forwarding request, from any state
  have hrest : ∀ {u : Stdio}, call (do
      onClient (sendInitialSessionRequests request detected)
      enterRawMode request detected terminal
      onClient (buildSessionRuntime setup) : StdioM Unit) u = .ok (.ok (), t) →
      SameSession u t := by
    intro u hu
    obtain ⟨⟨⟩, u₁, hrequests, hu₁⟩ := call_bind_eq_ok.mp hu
    obtain ⟨⟨⟩, u₂, hraw, hruntime⟩ := call_bind_eq_ok.mp hu₁
    have hsame : u₂ = u₁ := by
      unfold enterRawMode at hraw
      split at hraw
      · exact call_onTerminal_eq_ok hraw
      · cases hraw
        rfl
    subst hsame
    exact (sameSession_onClient sameReceiver_sendInitialSessionRequests hrequests).trans
      (sameSession_onClient sameReceiver_buildSessionRuntime hruntime)
  cases hforward : setup.forwardAgent with
  | true =>
    simp only [hforward, if_true] at h₁
    obtain ⟨⟨⟩, s₂, hagent, h₂⟩ := call_bind_eq_ok.mp h₁
    exact (sameSession_onClient sameReceiver_sendForwardAgentRequest hagent).trans (hrest h₂)
  | false =>
    simp only [hforward, Bool.false_eq_true, if_false] at h₁
    exact hrest h₁

end Requests

/-! ## The exit status -/

section ExitStatus

variable {s : Stdio}

theorem call_writeOutput (houtcomes : s.outcomes = []) (written : Stdio → Stdio) :
    call (writeOutput written) s = .ok (.ok (), written s) := by
  rw [writeOutput, call_bind_of_ok (call_get s), houtcomes]
  rfl

/-- The two loops of the client agree: if the local output takes the data, this one returns the
    exit status that the other one captures. -/
theorem stdioWithin_of_captureWithin {serverHeader : Option (List UInt8)}
    {stdout stderr : List UInt8} {n : Nat} {captured : CapturedSession} {endpoint : Endpoint}
    (houtcomes : s.outcomes = [])
    (h : call (captureWithin serverHeader n stdout stderr) s.endpoint =
      .ok (.ok captured, endpoint)) :
    ∃ t, call (stdioWithin n) s = .ok (.ok captured.exitStatus, t) := by
  -- pass by pass; they receive the same messages
  induction n generalizing s stdout stderr with
  | zero => cases h
  | succ n ih =>
    rw [captureWithin] at h
    obtain ⟨message, mid, hnext, hthen⟩ := call_bind_eq_ok.mp h
    rw [stdioWithin, call_bind_of_ok (call_onClient_eq_ok.mpr ⟨mid, hnext, rfl⟩)]
    cases message with
    | channelOpenConfirmation _ | channelOpenFailure _ =>
      exact ih (s := { s with endpoint := mid }) houtcomes hthen
    | channelRequest message =>
      obtain ⟨wantReply, request⟩ := message
      cases request with
      | exitStatus status =>
        cases hthen
        exact ⟨_, rfl⟩
      | exitSignal signal => cases hthen
      | pty _ | x11 _ | shell | exec _ | subsystem _ | windowChange _ | signal _ | forwardPort _ =>
        exact ih (s := { s with endpoint := mid }) houtcomes hthen
    | data data =>
      have hwrite (written : Stdio → Stdio) :=
        call_writeOutput (s := { s with endpoint := mid }) houtcomes written
      by_cases hstdout : data.dataType = SSH_EXTENDED_DATA_NONE
      · simp only [if_pos hstdout] at hthen ⊢
        rw [call_bind_of_ok (hwrite _)]
        exact ih houtcomes hthen
      · simp only [if_neg hstdout] at hthen ⊢
        by_cases hstderr : data.dataType = SSH_EXTENDED_DATA_STDERR
        · simp only [if_pos hstderr] at hthen ⊢
          rw [call_bind_of_ok (hwrite _)]
          exact ih houtcomes hthen
        · simp only [if_neg hstderr] at hthen ⊢
          exact ih (s := { s with endpoint := mid }) houtcomes hthen

end ExitStatus

theorem runStdioOnClient_eq {s started : Stdio} {setup : Setup} {request : SessionRequest}
    {terminal : LocalTerminal} {rest : List UInt8} {status : ExitStatusRequest}
    {wantReply : Bool} {messages : List Message}
    (hrequest : call (requestStdioSession setup request terminal) s = .ok (.ok (), started))
    (hincoming : s.endpoint.incoming =
      (messages ++ [Message.channelRequest ⟨wantReply, .exitStatus status⟩]).flatMap
        Message.wire ++ rest)
    (hmessages : ∀ message ∈ messages, message.Encodable ∧ Continues message)
    (hstatus : status.exitStatus ≤ MAX_VARINT)
    (hconfirm : s.endpoint.channel.confirmSent = true) (houtcomes : s.outcomes = []) :
    ∃ t, call (runStdioOnClient setup request terminal) s =
      .ok (.ok status.exitStatus.toUInt32.toInt32, t) := by
  have hsame := sameSession_requestStdioSession hrequest
  rw [runStdioOnClient, call_bind_of_ok hrequest, call_bind_of_ok (call_get started)]
  have hpasses : messages.length < started.endpoint.incoming.length + 1 := by
    have hle := length_le_length_wires messages
    rw [hsame.receiver.incoming, hincoming, List.flatMap_append]
    simp only [List.length_append]
    omega
  obtain ⟨u, hcapture⟩ : ∃ u, call (captureWithin none _ [] []) started.endpoint =
      .ok (.ok { exitStatus := status.exitStatus.toUInt32.toInt32, .. }, u) :=
    captureWithin_eq (hsame.receiver.confirmSent.trans hconfirm)
      (Ahead.of_incoming (hsame.receiver.incoming.trans hincoming)) hmessages hstatus hpasses
  exact stdioWithin_of_captureWithin (hsame.outcomes.trans houtcomes) hcapture

/-! ## The casts -/

theorem narrowed_eq_zero_iff (value : UInt64) :
    value.toUInt32.toInt32 = 0 ↔ value.toNat % 2 ^ 32 = 0 := by
  rw [← UInt64.toNat_toUInt32]
  constructor
  · intro h
    have hback := congrArg Int32.toUInt32 h
    rw [UInt32.toUInt32_toInt32] at hback
    rw [hback]
    rfl
  · intro h
    have hzero : value.toUInt32 = 0 := UInt32.toNat_inj.mp h
    rw [hzero]
    rfl

theorem mainExitCode_eq_zero_iff (value : UInt64) :
    mainExitCode (.ok value.toUInt32.toInt32) = 0 ↔ value.toNat % 256 = 0 := by
  have hcode : (mainExitCode (.ok value.toUInt32.toInt32)).toNat = value.toNat % 256 := by
    rw [mainExitCode, UInt32.toUInt32_toInt32, UInt32.toNat_toUInt8, UInt64.toNat_toUInt32]
    omega
  rw [← hcode]
  exact UInt8.toNat_inj.symm

/-- **Reporting the exit status.**  In a session that the exit status ends, both client loops
    return; the process exits with 0 exactly for the status 0, and so does the captured status,
    if and only if the status is 0 or no multiple of 256. -/
theorem exitStatus_reported_iff {value : UInt64} (hvalue : value.toNat ≤ 2 ^ 62 - 1)
    {setup : Setup} {request : SessionRequest} {terminal : LocalTerminal} {s : Stdio}
    {started : Stdio} {captureStarted : Endpoint} {messages : List Message} {wantReply : Bool}
    {rest : List UInt8}
    (hincoming : s.endpoint.incoming =
      (messages ++ [Message.channelRequest ⟨wantReply, .exitStatus ⟨value⟩⟩]).flatMap
        Message.wire ++ rest)
    (hmessages : ∀ message ∈ messages, message.Encodable ∧ Continues message)
    (hconfirm : s.endpoint.channel.confirmSent = true) (houtcomes : s.outcomes = [])
    (hstdio : call (requestStdioSession setup request terminal) s = .ok (.ok (), started))
    (hcapture : call (requestSession setup request) s.endpoint = .ok (.ok (), captureStarted)) :
    ∃ status t captured u,
      call (runStdioOnClient setup request terminal) s = .ok (.ok status, t) ∧
      call (runCaptureOnClient setup request) s.endpoint = .ok (.ok captured, u) ∧
      (((mainExitCode (.ok status) = 0 ↔ value = 0) ∧ (captured.exitStatus = 0 ↔ value = 0)) ↔
        (value = 0 ∨ value.toNat % 256 ≠ 0)) := by
  have hmax : value ≤ MAX_VARINT := UInt64.le_iff_toNat_le.mpr hvalue
  obtain ⟨t, ht⟩ := runStdioOnClient_eq hstdio hincoming hmessages hmax hconfirm houtcomes
  obtain ⟨u, hu⟩ := runCaptureOnClient_eq hcapture hincoming hmessages hmax hconfirm
  refine ⟨_, t, _, u, ht, hu, ?_⟩
  have hzero : value = 0 ↔ value.toNat = 0 := UInt64.toNat_inj.symm
  simp only [mainExitCode_eq_zero_iff, narrowed_eq_zero_iff, hzero]
  omega

/-- A session without a terminal in which the exit status is the only message. -/
def bareSession (value : UInt64) : Stdio where
  endpoint := { freshEndpoint 64 with
    incoming := (Message.channelRequest ⟨false, .exitStatus ⟨value⟩⟩).wire }
  stdout := []
  stderr := []
  outcomes := []

def bareSetup : Setup where
  serverHeader := none
  forwardAgent := false
  agentSocket := none
  authSock := none
  closed := .ok ()

def noTerminal : LocalTerminal where
  detected := .ok none
  rawMode := .ok ()

/-- The status 3 is reported as it is. -/
theorem exitStatus_reported_iff_three :
    ∃ status t captured u,
      call (runStdioOnClient bareSetup .shell noTerminal) (bareSession 3) = .ok (.ok status, t) ∧
      call (runCaptureOnClient bareSetup .shell) (bareSession 3).endpoint =
        .ok (.ok captured, u) ∧
      (((mainExitCode (.ok status) = 0 ↔ (3 : UInt64) = 0) ∧
        (captured.exitStatus = 0 ↔ (3 : UInt64) = 0)) ↔
        ((3 : UInt64) = 0 ∨ (3 : UInt64).toNat % 256 ≠ 0)) := by
  have hstdio : ∃ started, call (requestStdioSession bareSetup .shell noTerminal)
      (bareSession 3) = .ok (.ok (), started) := ⟨_, rfl⟩
  have hcapture : ∃ started, call (requestSession bareSetup .shell) (bareSession 3).endpoint =
      .ok (.ok (), started) := ⟨_, rfl⟩
  obtain ⟨started, hstarted⟩ := hstdio
  obtain ⟨captureStarted, hcaptureStarted⟩ := hcapture
  have hincoming : (bareSession 3).endpoint.incoming =
      ([] ++ [Message.channelRequest ⟨false, .exitStatus ⟨3⟩⟩]).flatMap Message.wire ++ [] := rfl
  exact exitStatus_reported_iff (by decide) hincoming (List.forall_mem_nil _) rfl rfl hstarted
    hcaptureStarted

/-- The status 256 makes the process exit with 0, and 2 ^ 32 is captured as 0. -/
theorem exitStatus_256_reported_as_success :
    (∃ status t, call (runStdioOnClient bareSetup .shell noTerminal) (bareSession 256) =
        .ok (.ok status, t) ∧ mainExitCode (.ok status) = 0) ∧
    ∃ captured u,
      call (runCaptureOnClient bareSetup .shell) (bareSession 4294967296).endpoint =
        .ok (.ok captured, u) ∧ captured.exitStatus = 0 :=
  ⟨⟨256, _, rfl, rfl⟩, _, _, rfl, rfl⟩

end Ssh3.Client
