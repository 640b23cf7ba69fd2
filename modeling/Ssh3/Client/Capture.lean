/-
  Ssh3.Client.Capture

  `ssh3-client/src/lib.rs`: `run_capture_on_client`, from the channel that
  `open_session_channel` returns to the result of the session.

  The client asks for a shell or a command, closes its side of the stream unless it forwards
  an agent, and then collects the data messages of the two types until the exit status of the
  process arrives.  `runCaptureOnClient_eq` says what it returns when the stream carries
  one.
-/

import Ssh3.Core.NextMessage
import Ssh3.Core.PacketLimit

namespace Ssh3.Client

open Proto Fallible
open Ssh3.Core (Endpoint ChannelError writeData sendRequest nextMessage dataOf writeData_eq_ok
  sendMessage_eq_ok Ahead length_le_length_wires skips_nextMessage)

/-- What is to be run -/
inductive SessionRequest where
  | shell
  | exec (command : List UInt8)
  deriving DecidableEq, Repr

/-- The size of the user's terminal -/
structure TerminalSize where
  charWidth : UInt16
  charHeight : UInt16
  pixelWidth : UInt16
  pixelHeight : UInt16
  deriving DecidableEq, Repr

/-- The user's terminal -/
structure LocalTerminalInfo where
  term : Option (List UInt8)
  size : TerminalSize
  deriving DecidableEq, Repr

/-- What `run_capture_on_client` returns -/
structure CapturedSession where
  serverHeader : Option (List UInt8)
  exitStatus : Int32
  stdout : List UInt8
  stderr : List UInt8
  deriving DecidableEq, Repr

/-- The errors that end a captured session after its channel has been opened. -/
inductive ClientError where
  | channel (err : ChannelError)
  | agentUnavailable
  | exitSignal (signal : ExitSignalRequest)
  deriving DecidableEq, Repr

/-- What the session reads of `ActiveClient` and `ClientConfig`, and of the environment. -/
structure Setup where
  serverHeader : Option (List UInt8)
  forwardAgent : Bool
  agentSocket : Option (List UInt8)
  /-- `SSH_AUTH_SOCK` -/
  authSock : Option (List UInt8)
  /-- What `close` of the send stream returns -/
  closed : Except IoError Unit
  deriving DecidableEq, Repr

/-- A call of the client on a channel -/
abbrev ClientM (α : Type) := Comp Endpoint ClientError Panic α

/-- `ClientError::from` for the errors of a channel -/
def onChannel {α : Type} (m : Core.ChannelM α) : ClientM α := ExceptT.adapt .channel m

/-! ## The requests -/

def sendForwardAgentRequest : ClientM Unit := do
  let _ ← onChannel (writeData (ascii "forward-agent") SSH_EXTENDED_DATA_NONE)

def resolveAgentSocketPath (setup : Setup) : Except ClientError (List UInt8) :=
  match setup.agentSocket.or setup.authSock with
  | some path => .ok path
  | none => .error .agentUnavailable

/-- Without a terminal, only the path of the agent's socket can be missing. -/
def buildSessionRuntime (setup : Setup) : ClientM Unit :=
  if setup.forwardAgent then
    match resolveAgentSocketPath setup with
    | .ok _ => pure ()
    | .error err => throw err
  else pure ()

def sendPtyRequest (terminal : LocalTerminalInfo) : ClientM Unit :=
  onChannel (sendRequest {
    wantReply := true
    request := .pty {
      term := terminal.term.getD []
      charWidth := terminal.size.charWidth.toUInt64
      charHeight := terminal.size.charHeight.toUInt64
      pixelWidth := terminal.size.pixelWidth.toUInt64
      pixelHeight := terminal.size.pixelHeight.toUInt64
      encodedTerminalModes := [] } })

def SessionRequest.message : SessionRequest → ChannelRequestMessage
  | .shell => { wantReply := true, request := .shell }
  | .exec command => { wantReply := true, request := .exec { command } }

/-- What is asked for before the command -/
def sendInitialSessionRequests (request : SessionRequest) (terminal : Option LocalTerminalInfo) :
    ClientM Unit := do
  match request, terminal with
  | .shell, some terminal => sendPtyRequest terminal
  | _, _ => pure ()
  onChannel (sendRequest request.message)

def close (setup : Setup) : ClientM Unit :=
  match setup.closed with
  | .ok () => pure ()
  | .error err => throw (.channel (.io err))

/-- `run_capture_on_client` up to its loop. -/
def requestSession (setup : Setup) (request : SessionRequest) : ClientM Unit := do
  if setup.forwardAgent then
    sendForwardAgentRequest
  buildSessionRuntime setup
  sendInitialSessionRequests request none
  if !setup.forwardAgent then
    close setup

/-! ## The loop -/

/-- At most `n` passes of the loop. -/
def captureWithin (serverHeader : Option (List UInt8)) :
    Nat → List UInt8 → List UInt8 → ClientM CapturedSession
  | 0, _, _ => do throw (.channel (.io (← get).ending))
  | n + 1, stdout, stderr => do
    match ← onChannel nextMessage with
    | .data data =>
      if data.dataType = SSH_EXTENDED_DATA_NONE then
        captureWithin serverHeader n (stdout ++ data.data) stderr
      else if data.dataType = SSH_EXTENDED_DATA_STDERR then
        captureWithin serverHeader n stdout (stderr ++ data.data)
      else captureWithin serverHeader n stdout stderr
    | .channelRequest message =>
      match message.request with
      | .exitStatus status =>
        -- `as i32` keeps the low 32 bits
        return { serverHeader, exitStatus := status.exitStatus.toUInt32.toInt32, stdout, stderr }
      | .exitSignal signal => throw (.exitSignal signal)
      | _ => captureWithin serverHeader n stdout stderr
    | _ => captureWithin serverHeader n stdout stderr

/-- Every pass reads at least a byte, so the bound is never reached. -/
def capture (serverHeader : Option (List UInt8)) : ClientM CapturedSession := do
  captureWithin serverHeader ((← get).incoming.length + 1) [] []

/-- Runs a command and returns what it has written -/
def runCaptureOnClient (setup : Setup) (request : SessionRequest) : ClientM CapturedSession := do
  requestSession setup request
  capture setup.serverHeader

/-! ## What the requests leave alone -/

/-- The receive side of the channel is as it was. -/
structure SameReceiver (s t : Endpoint) : Prop where
  incoming : t.incoming = s.incoming
  confirmSent : t.channel.confirmSent = s.channel.confirmSent

section Requests

variable {s t : Endpoint}

theorem call_onChannel_eq_ok {α : Type} {m : Core.ChannelM α} {a : α} :
    call (onChannel m) s = .ok (.ok a, t) ↔ call m s = .ok (.ok a, t) :=
  call_adapt_eq_ok

theorem SameReceiver.trans {u : Endpoint} (h : SameReceiver s t) (h' : SameReceiver t u) :
    SameReceiver s u :=
  ⟨h'.incoming.trans h.incoming, h'.confirmSent.trans h.confirmSent⟩

theorem sameReceiver_sendForwardAgentRequest
    (h : call sendForwardAgentRequest s = .ok (.ok (), t)) : SameReceiver s t := by
  obtain ⟨n, mid, hwrite, hreturn⟩ := call_bind_eq_ok.mp h
  cases hreturn
  obtain ⟨messages, frames, outcomes, -, -, -, rfl⟩ :=
    writeData_eq_ok (call_onChannel_eq_ok.mp hwrite)
  exact ⟨rfl, rfl⟩

theorem sameReceiver_buildSessionRuntime {setup : Setup}
    (h : call (buildSessionRuntime setup) s = .ok (.ok (), t)) : SameReceiver s t := by
  unfold buildSessionRuntime at h
  split_ifs at h with hforward
  · cases hpath : resolveAgentSocketPath setup with
    | error err =>
      rw [hpath] at h
      cases h
    | ok path =>
      rw [hpath] at h
      cases h
      exact ⟨rfl, rfl⟩
  · cases h
    exact ⟨rfl, rfl⟩

theorem sameReceiver_sendRequest {message : ChannelRequestMessage}
    (h : call (onChannel (sendRequest message)) s = .ok (.ok (), t)) : SameReceiver s t := by
  obtain ⟨encoded, outcomes, -, rfl⟩ := sendMessage_eq_ok (call_onChannel_eq_ok.mp h)
  exact ⟨rfl, rfl⟩

theorem sameReceiver_sendInitialSessionRequests {request : SessionRequest}
    {terminal : Option LocalTerminalInfo}
    (h : call (sendInitialSessionRequests request terminal) s = .ok (.ok (), t)) :
    SameReceiver s t := by
  -- only a shell in a terminal is preceded by a request for one
  cases request with
  | exec command => exact sameReceiver_sendRequest h
  | shell =>
    cases terminal with
    | none => exact sameReceiver_sendRequest h
    | some terminal =>
      obtain ⟨⟨⟩, mid, hpty, hshell⟩ := call_bind_eq_ok.mp h
      exact (sameReceiver_sendRequest hpty).trans (sameReceiver_sendRequest hshell)

theorem sameReceiver_close {setup : Setup} (h : call (close setup) s = .ok (.ok (), t)) :
    SameReceiver s t := by
  unfold close at h
  cases hclosed : setup.closed with
  | error err =>
    rw [hclosed] at h
    cases h
  | ok result =>
    rw [hclosed] at h
    cases h
    exact ⟨rfl, rfl⟩

theorem sameReceiver_requestSession {setup : Setup} {request : SessionRequest}
    (h : call (requestSession setup request) s = .ok (.ok (), t)) : SameReceiver s t := by
  unfold requestSession at h
  cases hforward : setup.forwardAgent with
  | true =>
    simp only [hforward, if_true, Bool.not_true, Bool.false_eq_true, if_false] at h
    obtain ⟨⟨⟩, s₁, hagent, h₁⟩ := call_bind_eq_ok.mp h
    obtain ⟨⟨⟩, s₂, hruntime, h₂⟩ := call_bind_eq_ok.mp h₁
    obtain ⟨⟨⟩, s₃, hrequests, h₃⟩ := call_bind_eq_ok.mp h₂
    cases h₃
    exact ((sameReceiver_sendForwardAgentRequest hagent).trans
      (sameReceiver_buildSessionRuntime hruntime)).trans
      (sameReceiver_sendInitialSessionRequests hrequests)
  | false =>
    simp only [hforward, Bool.false_eq_true, if_false, Bool.not_false, if_true] at h
    obtain ⟨⟨⟩, s₁, hruntime, h₁⟩ := call_bind_eq_ok.mp h
    obtain ⟨⟨⟩, s₂, hrequests, hclose⟩ := call_bind_eq_ok.mp h₁
    exact ((sameReceiver_buildSessionRuntime hruntime).trans
      (sameReceiver_sendInitialSessionRequests hrequests)).trans (sameReceiver_close hclose)

end Requests

/-! ## Receiving what was encoded -/

section Receiving

variable {base s : Endpoint} {rest : List UInt8}

/-- The loops of the client go on after the message. -/
def Continues : Message → Prop
  | .channelOpenFailure _ => False
  | .channelRequest message =>
    match message.request with
    | .exitStatus _ | .exitSignal _ => False
    | _ => True
  | .channelOpenConfirmation _ | .data _ => True

/-- What the loop returns on a stream with an exit status behind messages that do not end it. -/
theorem captureWithin_eq {serverHeader : Option (List UInt8)} {status : ExitStatusRequest}
    {wantReply : Bool} {messages : List Message} {stdout stderr : List UInt8} {n : Nat}
    (hconfirm : base.channel.confirmSent = true)
    (hahead : Ahead base rest s
      (messages ++ [Message.channelRequest ⟨wantReply, .exitStatus status⟩]))
    (hmessages : ∀ message ∈ messages, message.Encodable ∧ Continues message)
    (hstatus : status.exitStatus ≤ MAX_VARINT) (hn : messages.length < n) :
    ∃ t, call (captureWithin serverHeader n stdout stderr) s = .ok (.ok {
        serverHeader
        exitStatus := status.exitStatus.toUInt32.toInt32
        stdout := stdout ++ messages.flatMap (dataOf SSH_EXTENDED_DATA_NONE)
        stderr := stderr ++ messages.flatMap (dataOf SSH_EXTENDED_DATA_STDERR) }, t) := by
  have hskips := skips_nextMessage hconfirm rest
  -- one pass for each message that is returned, and the last one for the exit status
  induction messages generalizing s stdout stderr n with
  | nil =>
    obtain ⟨n, rfl⟩ : ∃ k, n = k + 1 := ⟨n - 1, by omega⟩
    obtain ⟨t, hnext, -⟩ := hskips.next_eq hahead hstatus rfl
    refine ⟨t, ?_⟩
    rw [captureWithin, call_bind_of_ok (call_onChannel_eq_ok.mpr hnext)]
    simp only [List.flatMap_nil, List.append_nil]
    rfl
  | cons message messages ih =>
    obtain ⟨hencodable, hcontinues⟩ := hmessages message List.mem_cons_self
    have hothers : ∀ message ∈ messages, message.Encodable ∧ Continues message :=
      fun other hother => hmessages other (List.mem_cons_of_mem _ hother)
    rw [List.length_cons] at hn
    rw [List.cons_append] at hahead
    obtain ⟨n, rfl⟩ : ∃ k, n = k + 1 := ⟨n - 1, by omega⟩
    cases message with
    | channelOpenConfirmation confirmation =>
      exact ih (hahead.pass hencodable rfl) hothers (by omega)
    | channelOpenFailure failure => exact hcontinues.elim
    | channelRequest message =>
      obtain ⟨u, hnext, hbehind⟩ := hskips.next_eq hahead hencodable rfl
      obtain ⟨wantReply, request⟩ := message
      rw [captureWithin, call_bind_of_ok (call_onChannel_eq_ok.mpr hnext)]
      cases request with
      | exitStatus status => exact hcontinues.elim
      | exitSignal signal => exact hcontinues.elim
      | pty _ | x11 _ | shell | exec _ | subsystem _ | windowChange _ | signal _ | forwardPort _ =>
        exact ih hbehind hothers (by omega)
    | data data =>
      obtain ⟨u, hnext, hbehind⟩ := hskips.next_eq hahead hencodable rfl
      rw [captureWithin, call_bind_of_ok (call_onChannel_eq_ok.mpr hnext)]
      simp only [List.flatMap_cons, ← List.append_assoc, dataOf]
      by_cases hstdout : data.dataType = SSH_EXTENDED_DATA_NONE
      · have hother : data.dataType ≠ SSH_EXTENDED_DATA_STDERR := by
          rw [hstdout]
          decide
        rw [if_pos hstdout, if_pos hstdout, if_neg hother, List.append_nil]
        exact ih hbehind hothers (by omega)
      · rw [if_neg hstdout, if_neg hstdout, List.append_nil]
        by_cases hstderr : data.dataType = SSH_EXTENDED_DATA_STDERR
        · rw [if_pos hstderr, if_pos hstderr]
          exact ih hbehind hothers (by omega)
        · rw [if_neg hstderr, if_neg hstderr, List.append_nil]
          exact ih hbehind hothers (by omega)

/-- A session whose requests are taken returns what the stream carries. -/
theorem runCaptureOnClient_eq {setup : Setup} {request : SessionRequest}
    {status : ExitStatusRequest} {wantReply : Bool} {started : Endpoint} {messages : List Message}
    (hrequest : call (requestSession setup request) s = .ok (.ok (), started))
    (hincoming : s.incoming =
      (messages ++ [Message.channelRequest ⟨wantReply, .exitStatus status⟩]).flatMap
        Message.wire ++ rest)
    (hmessages : ∀ message ∈ messages, message.Encodable ∧ Continues message)
    (hstatus : status.exitStatus ≤ MAX_VARINT) (hconfirm : s.channel.confirmSent = true) :
    ∃ t, call (runCaptureOnClient setup request) s = .ok (.ok {
        serverHeader := setup.serverHeader
        exitStatus := status.exitStatus.toUInt32.toInt32
        stdout := messages.flatMap (dataOf SSH_EXTENDED_DATA_NONE)
        stderr := messages.flatMap (dataOf SSH_EXTENDED_DATA_STDERR) }, t) := by
  have hsame := sameReceiver_requestSession hrequest
  rw [runCaptureOnClient, call_bind_of_ok hrequest, capture, call_bind_of_ok (call_get started)]
  refine captureWithin_eq (hsame.confirmSent.trans hconfirm)
    (Ahead.of_incoming (hsame.incoming.trans hincoming)) hmessages hstatus ?_
  have hle := length_le_length_wires messages
  rw [hsame.incoming, hincoming, List.flatMap_append]
  simp only [List.length_append]
  omega

end Receiving

end Ssh3.Client
