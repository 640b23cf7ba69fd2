/-
  Ssh3.Go.SessionSpec

  What serving a session channel comes to, told from its messages alone.

  `refused` says of a message, from the messages before it, whether the loop returns at
  it; `erroneous` is the stricter notion for which extended data is always an error.
  The two differ on one message: extended data that says "forward-agent", before a
  command was started.
-/

import Ssh3.Go.Channel
import Ssh3.Go.Session

namespace Ssh3.Go.Session

open Fallible
open Proto (ascii SSH_EXTENDED_DATA_NONE SSH_EXTENDED_DATA_STDERR)

/-! ## The messages of a channel -/

/-- The messages that a channel can receive: data, and the requests that have a parser. -/
def IsReturned : Message → Prop
  | .channelRequest ⟨_, some (.forwarding _)⟩ => False
  | .channelRequest ⟨_, some _⟩ => True
  | .channelRequest ⟨_, none⟩ => False
  | .channelOpenConfirmation _ => False
  | .channelOpenFailure _ => False
  | .data _ => True

section Received

variable {ending : GoError}

/-- A parser of requests that a channel can receive -/
def ParsesReturned (parseFunc : GoReader (ChannelRequest × Option GoError)) : Prop :=
  ∀ {input rest : List UInt8} {request : ChannelRequest} {err : Option GoError},
    call parseFunc input = .ok (.ok (request, err), rest) →
    ∀ wantReply, IsReturned (.channelRequest ⟨wantReply, request⟩)

theorem parsesReturned_asRequest {α : Type} {make : α → ChannelRequest}
    {m : GoReader (α × Option GoError)}
    (hmake : ∀ wantReply a, IsReturned (.channelRequest ⟨wantReply, make a⟩)) :
    ParsesReturned (asRequest make m) := by
  intro input rest request err hcall wantReply
  obtain ⟨⟨a, err'⟩, mid, -, hret⟩ := call_bind_eq_ok.mp hcall
  cases hret
  exact hmake wantReply a

theorem parsesReturned_ite {c : Prop} [Decidable c]
    {m : GoReader (ChannelRequest × Option GoError)}
    {entry : Option (GoReader (ChannelRequest × Option GoError))} (hm : ParsesReturned m)
    (h : ∀ parseFunc ∈ entry, ParsesReturned parseFunc) :
    ∀ parseFunc ∈ (if c then some m else entry), ParsesReturned parseFunc := by
  intro parseFunc hentry
  split_ifs at hentry with hc
  · cases hentry
    exact hm
  · exact h parseFunc hentry

/-- "forward-port" has no parser. -/
theorem parsesReturned_of_parseFunc (requestType : List UInt8) :
    ∀ parseFunc ∈ channelRequestParseFuncs ending requestType, ParsesReturned parseFunc := by
  have hshell : ParsesReturned (return (.shell, none)) := by
    intro input rest request err hcall wantReply
    cases hcall
    trivial
  unfold channelRequestParseFuncs
  refine parsesReturned_ite (parsesReturned_asRequest fun _ _ => by trivial) ?_
  refine parsesReturned_ite (parsesReturned_asRequest fun _ _ => by trivial) ?_
  refine parsesReturned_ite hshell ?_
  refine parsesReturned_ite (parsesReturned_asRequest fun _ _ => by trivial) ?_
  refine parsesReturned_ite (parsesReturned_asRequest fun _ _ => by trivial) ?_
  refine parsesReturned_ite (parsesReturned_asRequest fun _ _ => by trivial) ?_
  refine parsesReturned_ite (parsesReturned_asRequest fun _ _ => by trivial) ?_
  refine parsesReturned_ite (parsesReturned_asRequest fun _ _ => by trivial) ?_
  exact parsesReturned_ite (parsesReturned_asRequest fun _ _ => by trivial) nofun

theorem isReturned_of_parseRequestMessage {input rest : List UInt8}
    {message : ChannelRequestMessage}
    (h : call (parseRequestMessage ending) input = .ok (.ok (message, none), rest)) :
    IsReturned (.channelRequest message) := by
  obtain ⟨requestType, _, -, h⟩ := call_bind_eq_ok.mp h
  obtain ⟨wantReply, start, -, h⟩ := call_bind_eq_ok.mp h
  cases hfunc : channelRequestParseFuncs ending requestType with
  | none => rw [hfunc] at h; cases h
  | some parseFunc =>
    rw [hfunc] at h
    obtain ⟨⟨channelRequest, err⟩, mid, hcatch, hret⟩ := call_bind_eq_ok.mp h
    cases hret
    rw [call_tryCatch, call_bind] at hcatch
    rcases hparse : call parseFunc start with p | ⟨err | ⟨request, err⟩, rest'⟩
    · rw [hparse] at hcatch
      cases hcatch
    · -- the request is nil only next to an error
      rw [hparse] at hcatch
      simp only at hcatch
      split_ifs at hcatch <;> cases hcatch
    · rw [hparse] at hcatch
      cases hcatch
      exact parsesReturned_of_parseFunc requestType parseFunc hfunc hparse wantReply

theorem isReturned_of_parseMessage {input rest : List UInt8} {message : Message}
    (h : call (parseMessage ending) input = .ok (.ok (message, none), rest))
    (hconfirmation : ∀ m, message ≠ .channelOpenConfirmation m)
    (hfailure : ∀ m, message ≠ .channelOpenFailure m) : IsReturned message := by
  obtain ⟨typeId, start, -, h⟩ := call_bind_eq_ok.mp h
  cases message with
  | channelRequest message =>
    unfold parsePayload at h
    split_ifs at h with hrequest hconfirm hopen hdata hextended
    · obtain ⟨⟨parsed, err⟩, mid, hparse, hret⟩ := call_bind_eq_ok.mp h
      cases hret
      exact isReturned_of_parseRequestMessage hparse
    · obtain ⟨_, _, -, hret⟩ := call_bind_eq_ok.mp h
      cases hret
    · obtain ⟨_, _, -, hret⟩ := call_bind_eq_ok.mp h
      cases hret
    · obtain ⟨_, _, -, hret⟩ := call_bind_eq_ok.mp h
      cases hret
    · obtain ⟨⟨_, _⟩, _, -, hret⟩ := call_bind_eq_ok.mp h
      cases hret
    · cases h
  | channelOpenConfirmation m => exact absurd rfl (hconfirmation m)
  | channelOpenFailure m => exact absurd rfl (hfailure m)
  | data m => trivial

theorem isReturned_of_nextMessageLoop {fuel : Nat} {half half' : RecvHalf} {message : Message}
    (h : call (nextMessageLoop ending fuel) half = .ok (.ok message, half')) :
    IsReturned message := by
  induction fuel generalizing half with
  | zero => cases h
  | succ fuel ih =>
    obtain ⟨received, mid, hnext, h⟩ := call_bind_eq_ok.mp h
    have hparse : ∃ rest, call (parseMessage ending) half.recv =
        .ok (.ok (received, none), rest) := by
      rw [call_nextMessage] at hnext
      rcases hcall : call (parseMessage ending) half.recv with p | ⟨err | ⟨m, err | _⟩, rest⟩ <;>
        rw [hcall] at hnext <;> cases hnext
      exact ⟨_, rfl⟩
    obtain ⟨rest, hparse⟩ := hparse
    cases received with
    | channelRequest m =>
      obtain ⟨now, _, -, h⟩ := call_bind_eq_ok.mp h
      cases hsent : now.confirmSent with
      | false => rw [hsent] at h; cases h
      | true =>
        rw [hsent] at h
        cases h
        exact isReturned_of_parseMessage hparse nofun nofun
    | channelOpenConfirmation m =>
      dsimp only at h
      cases hsize : validatePacketSize m.maxPacketSize with
      | error err => rw [hsize] at h; cases h
      | ok _ =>
        rw [hsize] at h
        obtain ⟨_, _, -, h⟩ := call_bind_eq_ok.mp h
        exact ih h
    | channelOpenFailure m => cases h
    | data m =>
      obtain ⟨now, _, -, h⟩ := call_bind_eq_ok.mp h
      cases hsent : now.confirmSent with
      | false => rw [hsent] at h; cases h
      | true =>
        rw [hsent] at h
        cases h
        trivial

/-- Whatever a channel receives, it is one of these messages. -/
theorem isReturned_of_NextMessage {half half' : RecvHalf} {message : Message}
    (h : call (NextMessage ending) half = .ok (.ok message, half')) : IsReturned message := by
  obtain ⟨_, _, -, h⟩ := call_bind_eq_ok.mp h
  exact isReturned_of_nextMessageLoop h

/-- A request to run "ls" with a reply -/
theorem isReturned_of_NextMessage_exec :
    call (NextMessage .eof) ⟨true, false, [0x40, 98, 4] ++ ascii "exec" ++ [1, 2] ++ ascii "ls"⟩ =
        .ok (.ok (.channelRequest ⟨true, some (.exec ⟨ascii "ls"⟩)⟩), ⟨true, false, []⟩) ∧
      IsReturned (.channelRequest ⟨true, some (.exec ⟨ascii "ls"⟩)⟩) := by
  have hcall : call (NextMessage .eof)
        ⟨true, false, [0x40, 98, 4] ++ ascii "exec" ++ [1, 2] ++ ascii "ls"⟩ =
      .ok (.ok (.channelRequest ⟨true, some (.exec ⟨ascii "ls"⟩)⟩), ⟨true, false, []⟩) := rfl
  exact ⟨hcall, isReturned_of_NextMessage hcall⟩

end Received

/-! ## The state of a session, from its messages -/

/-- The message asks for a command to be started. -/
def starts : Message → Bool
  | .channelRequest ⟨_, some .shell⟩ => true
  | .channelRequest ⟨_, some (.exec _)⟩ => true
  | _ => false

def requestsPty : Message → Bool
  | .channelRequest ⟨_, some (.pty _)⟩ => true
  | _ => false

def isExtended : Message → Bool
  | .data message => message.dataType ≠ SSH_EXTENDED_DATA_NONE
  | _ => false

def payload? : Message → Option (List UInt8)
  | .data message =>
    if message.dataType = SSH_EXTENDED_DATA_NONE then some message.data else none
  | _ => none

def started (before : List Exchange) : Bool := before.any fun x => starts x.message

def hasPty (before : List Exchange) : Bool := before.any fun x => requestsPty x.message

/-- The request is an error after the messages `before`. -/
def refusedRequest (before : List Exchange) : ChannelRequest → Bool
  | .pty _ => started before || hasPty before
  | .shell => started before
  | .exec _ => started before
  | .windowChange _ => !hasPty before
  | .signal request => !started before ||
    (signals.lookup (ascii "SIG" ++ request.signalNameWithoutSig)).isNone
  | .x11 _ => true
  | .subsystem _ => true
  | .exitStatus _ => true
  | .exitSignal _ => true
  | .forwarding _ => false

/-- The loop returns at the message if it comes after the messages `before`. -/
def refused (before : List Exchange) (x : Exchange) : Bool :=
  match x.message with
  | .channelRequest ⟨_, some request⟩ => refusedRequest before request
  | .channelRequest ⟨_, none⟩ => false
  | .channelOpenConfirmation _ => false
  | .channelOpenFailure _ => false
  | .data message =>
    if started before then message.dataType ≠ SSH_EXTENDED_DATA_NONE
    else message.data ≠ ascii "forward-agent" || x.responses.agentSocket.toOption.isNone

/-- The message is an error after the messages `before`: a second PTY or one after the start, a
    second start, a window change without a PTY, a signal that comes before the start or is not
    known, an unsupported request, data before the start that does not say "forward-agent" or
    whose socket cannot be opened, and any extended data. -/
def erroneous (before : List Exchange) (x : Exchange) : Bool :=
  refused before x || isExtended x.message

/-- The messages before the first erroneous one -/
def untilError (before : List Exchange) : List Exchange → List Exchange
  | [] => []
  | x :: rest => if erroneous before x then [] else x :: untilError (before ++ [x]) rest

/-- The messages up to the first erroneous one, which is the last -/
def throughError (before : List Exchange) : List Exchange → List Exchange
  | [] => []
  | x :: rest => if erroneous before x then [x] else x :: throughError (before ++ [x]) rest

/-- The messages after the one that asks for the command -/
def afterStart (xs : List Exchange) : List Exchange :=
  (xs.dropWhile fun x => !starts x.message).tail

/-- The bytes that the messages bring for the input of the command -/
def inputOf (xs : List Exchange) : List UInt8 :=
  ((xs.map Exchange.message).filterMap payload?).flatten

/-- If extended data is taken for a request to forward the agent, nothing is done after it: it is
    the last message, or the loop returns at the next one. -/
def harmless (before : List Exchange) : List Exchange → Bool
  | [] => true
  | x :: rest =>
    if refused before x then true
    else if isExtended x.message then rest.head?.all (refused (before ++ [x]))
    else harmless (before ++ [x]) rest

/-! ## One message -/

/-- The message is one that a channel can receive, and a command can be started and a PTY opened
    for it. -/
structure Exchange.Answered (x : Exchange) : Prop where
  returned : IsReturned x.message
  openPty : x.responses.openPty = .ok ()
  createCommand : x.responses.createCommand = .ok ()
  start : x.responses.start = .ok ()

/-- The session is what the messages `before` lead to. -/
structure Matches (before : List Exchange) (session : RunningSession) : Prop where
  channelState : session.channelState = if started before then .opened else .larval
  runningCmd : session.runningCmd.isSome = started before
  pty : session.pty.isSome = hasPty before

/-- What a message does that is not refused. -/
inductive Accepted (before : List Exchange) (session : RunningSession) :
    Message → RunningSession → List Effect → Prop where
  | pty {wantReply : Bool} {request : Proto.PtyRequest} {pty : OpenPty}
      (hstarted : started before = false) (hpty : hasPty before = false) :
      Accepted before session (.channelRequest ⟨wantReply, some (.pty request)⟩)
        { session with pty := some pty } [.openPty, .setWinsize pty.winSize]
  | start {message : Message} {command : RunningCommand} (hstarts : starts message = true)
      (hstarted : started before = false) :
      Accepted before session message
        { session with runningCmd := some command, channelState := .opened }
        [.start command session.pty session.authAgentSocketPath]
  | windowChange {wantReply : Bool} {request : Proto.WindowChangeRequest} {pty : OpenPty}
      (hpty : hasPty before = true) :
      Accepted before session (.channelRequest ⟨wantReply, some (.windowChange request)⟩)
        { session with pty := some pty } [.setWinsize pty.winSize]
  | signal {wantReply : Bool} {request : Proto.SignalRequest} {number : Nat}
      (hstarted : started before = true) :
      Accepted before session (.channelRequest ⟨wantReply, some (.signal request)⟩) session
        [.signal number]
  | forwardAgent {message : Proto.DataOrExtendedDataMessage} {path : List UInt8}
      (hstarted : started before = false) :
      Accepted before session (.data message) { session with authAgentSocketPath := path }
        [.listenAgentSocket path]
  | input {message : Proto.DataOrExtendedDataMessage} (hstarted : started before = true)
      (htype : message.dataType = SSH_EXTENDED_DATA_NONE) :
      Accepted before session (.data message) session [.writeInput message.data]

section Steps

variable {before : List Exchange} {session : RunningSession} {x : Exchange}

theorem Matches.larval (h : Matches before session) (hstarted : started before = false) :
    session.channelState = .larval := by
  rw [h.channelState, hstarted]
  rfl

theorem Matches.opened (h : Matches before session) (hstarted : started before = true) :
    session.channelState = .opened := by
  rw [h.channelState, hstarted]
  rfl

theorem Matches.command (h : Matches before session) (hstarted : started before = true) :
    session.runningCmd.isNone = false := by
  rw [← Option.not_isSome, h.runningCmd, hstarted]
  rfl

/-- How the loop handles a message: it returns an error exactly if the message is refused, and
    does nothing then. -/
def Handles (before : List Exchange) (session : RunningSession) (x : Exchange)
    (handled : Handled) : Prop :=
  (refused before x = true ∧ handled.effects = [] ∧ ∃ err, handled.err = some err) ∨
  (refused before x = false ∧ handled.err = none ∧
    Accepted before session x.message handled.session handled.effects)

theorem Handles.refuse {err : SessionError} (h : refused before x = true) :
    Handles before session x (refuse session err) :=
  .inl ⟨h, rfl, err, rfl⟩

variable {wantReply : Bool} {responses : Responses}

theorem handles_pty (h : Matches before session) (hopen : responses.openPty = .ok ())
    (request : Proto.PtyRequest) :
    Handles before session ⟨.channelRequest ⟨wantReply, some (.pty request)⟩, responses⟩
      (newPtyReq session request responses) := by
  have hrefused : refused before ⟨.channelRequest ⟨wantReply, some (.pty request)⟩, responses⟩ =
      (started before || hasPty before) := rfl
  unfold newPtyReq
  cases hstarted : started before with
  | true =>
    rw [if_pos (by rw [h.opened hstarted]; nofun)]
    exact .refuse (by rw [hrefused, hstarted, Bool.true_or])
  | false =>
    rw [if_neg (by rw [h.larval hstarted]; exact fun hne => hne rfl), h.pty]
    cases hpty : hasPty before with
    | true =>
      rw [if_pos rfl]
      exact .refuse (by rw [hrefused, hstarted, hpty, Bool.false_or])
    | false =>
      rw [if_neg Bool.false_ne_true, hopen]
      exact .inr ⟨by rw [hrefused, hstarted, hpty, Bool.false_or], rfl, .pty hstarted hpty⟩

theorem handles_command (h : Matches before session) {message : Message}
    (hstarts : starts message = true)
    (hrefused : refused before ⟨message, responses⟩ = started before)
    (hcreate : responses.createCommand = .ok ()) (hstart : responses.start = .ok ())
    (loginShell : Bool) (command : List UInt8) (args : List (List UInt8)) :
    Handles before session ⟨message, responses⟩
      (newCommand session loginShell command args responses) := by
  unfold newCommand
  cases hstarted : started before with
  | true =>
    rw [if_pos (by rw [h.opened hstarted]; nofun)]
    exact .refuse (by rw [hrefused, hstarted])
  | false =>
    rw [if_neg (by rw [h.larval hstarted]; exact fun hne => hne rfl), hcreate]
    dsimp only [execCmdInBackground]
    rw [hstart]
    exact .inr ⟨by rw [hrefused, hstarted], rfl, .start hstarts hstarted⟩

theorem handles_windowChange (h : Matches before session) (request : Proto.WindowChangeRequest) :
    Handles before session ⟨.channelRequest ⟨wantReply, some (.windowChange request)⟩, responses⟩
      (newWindowChangeReq session request) := by
  have hrefused :
      refused before ⟨.channelRequest ⟨wantReply, some (.windowChange request)⟩, responses⟩ =
        !hasPty before := rfl
  have hpty := h.pty
  unfold newWindowChangeReq
  cases hopen : session.pty with
  | none =>
    rw [hopen] at hpty
    exact .refuse (by rw [hrefused, ← hpty]; rfl)
  | some pty =>
    rw [hopen] at hpty
    exact .inr ⟨by rw [hrefused, ← hpty]; rfl, rfl, .windowChange hpty.symm⟩

theorem handles_signal (h : Matches before session) (request : Proto.SignalRequest) :
    Handles before session ⟨.channelRequest ⟨wantReply, some (.signal request)⟩, responses⟩
      (newSignalReq session (ascii "session") request) := by
  have hrefused :
      refused before ⟨.channelRequest ⟨wantReply, some (.signal request)⟩, responses⟩ =
        (!started before ||
          (signals.lookup (ascii "SIG" ++ request.signalNameWithoutSig)).isNone) := rfl
  unfold newSignalReq
  cases hstarted : started before with
  | false =>
    rw [if_pos (h.larval hstarted)]
    exact .refuse (by rw [hrefused, hstarted]; rfl)
  | true =>
    rw [if_neg (by rw [h.opened hstarted]; nofun), if_pos rfl, h.command hstarted,
      if_neg Bool.false_ne_true]
    cases hsignal : signals.lookup (ascii "SIG" ++ request.signalNameWithoutSig) with
    | none => exact .refuse (by rw [hrefused, hsignal, Option.isNone_none, Bool.or_true])
    | some number =>
      exact .inr ⟨by rw [hrefused, hstarted, hsignal]; rfl, rfl, .signal hstarted⟩

theorem handles_data (h : Matches before session) (message : Proto.DataOrExtendedDataMessage)
    (shell : List UInt8) :
    Handles before session ⟨.data message, responses⟩
      (handleMessage session (ascii "session") shell (.data message) responses) := by
  have hrefused : refused before ⟨.data message, responses⟩ =
      if started before then decide (message.dataType ≠ SSH_EXTENDED_DATA_NONE)
      else decide (message.data ≠ ascii "forward-agent") ||
        responses.agentSocket.toOption.isNone := rfl
  dsimp only [handleMessage]
  cases hstarted : started before with
  | false =>
    rw [hstarted, if_neg Bool.false_ne_true] at hrefused
    rw [if_pos (h.larval hstarted)]
    by_cases hagent : message.data = ascii "forward-agent"
    · rw [if_pos hagent]
      rw [decide_eq_false (not_not_intro hagent), Bool.false_or] at hrefused
      unfold forwardAgent
      cases hsocket : responses.agentSocket with
      | error err =>
        refine .inl ⟨by rw [hrefused, hsocket]; rfl, rfl, _, rfl⟩
      | ok path => exact .inr ⟨by rw [hrefused, hsocket]; rfl, rfl, .forwardAgent hstarted⟩
    · rw [if_neg hagent]
      exact .refuse (by rw [hrefused, decide_eq_true hagent, Bool.true_or])
  | true =>
    rw [hstarted, if_pos rfl] at hrefused
    have hopened : session.channelState ≠ .larval := by
      rw [h.opened hstarted]
      nofun
    rw [if_neg hopened]
    unfold newDataReq
    rw [if_neg hopened, if_pos rfl, h.command hstarted, if_neg Bool.false_ne_true]
    by_cases htype : message.dataType = SSH_EXTENDED_DATA_NONE
    · rw [if_pos htype]
      exact .inr ⟨by rw [hrefused]; exact decide_eq_false (not_not_intro htype), rfl,
        .input hstarted htype⟩
    · rw [if_neg htype]
      exact .refuse (by rw [hrefused]; exact decide_eq_true htype)

theorem handles_of_answered (h : Matches before session) (hx : x.Answered) (shell : List UInt8) :
    Handles before session x
      (handleMessage session (ascii "session") shell x.message x.responses) := by
  obtain ⟨message, responses⟩ := x
  obtain ⟨hreturned, hopen, hcreate, hstart⟩ := hx
  cases message with
  | data message => exact handles_data h message shell
  | channelOpenConfirmation message => exact hreturned.elim
  | channelOpenFailure message => exact hreturned.elim
  | channelRequest message =>
    obtain ⟨wantReply, request⟩ := message
    cases request with
    | none => exact hreturned.elim
    | some request =>
      cases request with
      | pty request => exact handles_pty h hopen request
      | shell => exact handles_command h rfl rfl hcreate hstart _ _ _
      | exec request => exact handles_command h rfl rfl hcreate hstart _ _ _
      | windowChange request => exact handles_windowChange h request
      | signal request => exact handles_signal h request
      | forwarding request => exact hreturned.elim
      | x11 request => exact .refuse rfl
      | subsystem request => exact .refuse rfl
      | exitStatus request => exact .refuse rfl
      | exitSignal request => exact .refuse rfl

theorem started_append (before : List Exchange) (x : Exchange) :
    started (before ++ [x]) = (started before || starts x.message) := by
  rw [started, List.any_append, List.any_cons, List.any_nil, Bool.or_false]
  rfl

theorem hasPty_append (before : List Exchange) (x : Exchange) :
    hasPty (before ++ [x]) = (hasPty before || requestsPty x.message) := by
  rw [hasPty, List.any_append, List.any_cons, List.any_nil, Bool.or_false]
  rfl

theorem requestsPty_of_starts {message : Message} (h : starts message = true) :
    requestsPty message = false := by
  unfold starts at h
  split at h
  · rfl
  · rfl
  · cases h

theorem Accepted.matches {session' : RunningSession} {effects : List Effect}
    (h : Matches before session) (ha : Accepted before session x.message session' effects) :
    Matches (before ++ [x]) session' := by
  obtain ⟨hstate, hcommand, hopen⟩ := h
  obtain ⟨message, responses⟩ := x
  -- most messages leave the command alone
  have hplain : ∀ t : RunningSession, starts message = false →
      t.channelState = session.channelState → t.runningCmd = session.runningCmd →
      t.pty.isSome = (hasPty before || requestsPty message) →
      Matches (before ++ [⟨message, responses⟩]) t := by
    intro t hstarts hsame hcmd hpty
    have hstarted : started (before ++ [⟨message, responses⟩]) = started before := by
      rw [started_append, hstarts, Bool.or_false]
    refine ⟨?_, ?_, ?_⟩
    · rw [hstarted, hsame, hstate]
    · rw [hstarted, hcmd, hcommand]
    · rw [hasPty_append, hpty]
  cases ha with
  | pty hstarted hpty => exact hplain _ rfl rfl rfl (Bool.or_true _).symm
  | windowChange hpty => exact hplain _ rfl rfl rfl (by rw [hpty]; rfl)
  | signal hstarted => exact hplain _ rfl rfl rfl (by rw [hopen]; exact (Bool.or_false _).symm)
  | forwardAgent hstarted =>
    exact hplain _ rfl rfl rfl (by rw [hopen]; exact (Bool.or_false _).symm)
  | input hstarted htype =>
    exact hplain _ rfl rfl rfl (by rw [hopen]; exact (Bool.or_false _).symm)
  | start hstarts hstarted =>
    have hnow : started (before ++ [⟨message, responses⟩]) = true := by
      rw [started_append, hstarts, Bool.or_true]
    refine ⟨?_, ?_, ?_⟩
    · rw [hnow]
      rfl
    · rw [hnow]
      rfl
    · rw [hasPty_append, requestsPty_of_starts hstarts, Bool.or_false]
      exact hopen

end Steps

/-! ## The whole channel -/

section Runs

variable (shell : List UInt8) (ending : Option GoError)

/-- What serving a session channel does. -/
def effects (session : RunningSession) (xs : List Exchange) : List Effect :=
  (serve (ascii "session") shell ending session xs).effects

variable {before : List Exchange} {session : RunningSession} {x : Exchange}

theorem effects_nil (session : RunningSession) :
    effects shell ending session [] = [] ∨ effects shell ending session [] = [.closeInput] := by
  show atEnd session ending = [] ∨ atEnd session ending = [.closeInput]
  unfold atEnd waitForRunningCommandAfterInputEOF
  split
  · split_ifs
    · exact .inr rfl
    · exact .inl rfl
  · exact .inl rfl

theorem effects_nil_larval (h : session.channelState = .larval) :
    effects shell ending session [] = [] := by
  show atEnd session ending = []
  unfold atEnd waitForRunningCommandAfterInputEOF
  rw [h, if_neg (by nofun)]
  split <;> rfl

theorem effects_refused (h : Matches before session) (hx : x.Answered)
    (hrefused : refused before x = true) (rest : List Exchange) :
    effects shell ending session (x :: rest) = [] := by
  obtain ⟨-, heffects, err, herr⟩ | ⟨haccepted, -, -⟩ := handles_of_answered h hx shell
  · rw [effects, serve]
    dsimp only
    rw [herr]
    exact heffects
  · rw [hrefused] at haccepted
    cases haccepted

theorem effects_accepted (h : Matches before session) (hx : x.Answered)
    (haccepted : refused before x = false) :
    ∃ session' now, Accepted before session x.message session' now ∧ ∀ rest,
      effects shell ending session (x :: rest) = now ++ effects shell ending session' rest := by
  obtain ⟨hrefused, -, -⟩ | ⟨-, herr, ha⟩ := handles_of_answered h hx shell
  · rw [haccepted] at hrefused
    cases hrefused
  · refine ⟨_, _, ha, fun rest => ?_⟩
    rw [effects, serve]
    dsimp only
    rw [herr]
    rfl

variable {xs : List Exchange} {message : Message} {session' : RunningSession}

/-- Induction over the messages of a channel: the loop returns at a refused message, and goes on
    with the next session after any other. -/
theorem serve_induction {P : List Exchange → RunningSession → List Exchange → Prop}
    (nil : ∀ {before session}, Matches before session → P before session [])
    (refuse : ∀ {before session x rest}, refused before x = true →
      (∀ ys, effects shell ending session (x :: ys) = []) → P before session (x :: rest))
    (accept : ∀ {before session x rest session' now}, (∀ y ∈ rest, y.Answered) →
      Matches (before ++ [x]) session' → refused before x = false →
      Accepted before session x.message session' now →
      (∀ ys, effects shell ending session (x :: ys) = now ++ effects shell ending session' ys) →
      P (before ++ [x]) session' rest → P before session (x :: rest))
    (hxs : ∀ x ∈ xs, x.Answered) (h : Matches before session) :
    P before session xs := by
  induction xs generalizing before session with
  | nil => exact nil h
  | cons x rest ih =>
    have hx := hxs x List.mem_cons_self
    have hrest : ∀ y ∈ rest, y.Answered := fun y hy => hxs y (List.mem_cons_of_mem _ hy)
    cases hrefused : refused before x with
    | true => exact refuse hrefused (effects_refused shell ending h hx hrefused)
    | false =>
      obtain ⟨session', now, ha, heffects⟩ := effects_accepted shell ending h hx hrefused
      have h' := ha.matches h
      exact accept hrest h' hrefused ha heffects (ih hrest h')

/-! ## What is done once -/

def Effect.isStart : Effect → Bool
  | .start .. => true
  | _ => false

def Effect.isOpenPty : Effect → Bool
  | .openPty => true
  | _ => false

/-- A command is started once, and before that a PTY is opened once. -/
structure Once (before : List Exchange) (es : List Effect) : Prop where
  start : es.countP Effect.isStart ≤ if started before then 0 else 1
  pty : es.countP Effect.isOpenPty ≤ if started before || hasPty before then 0 else 1
  order : es.Pairwise fun e e' => e.isStart = true → e'.isOpenPty = false

theorem once_of_all {es : List Effect} (before : List Exchange)
    (hstart : ∀ e ∈ es, e.isStart = false) (hpty : ∀ e ∈ es, e.isOpenPty = false) :
    Once before es where
  start := by
    have hnone : es.countP Effect.isStart = 0 :=
      List.countP_eq_zero.mpr fun e he => by rw [hstart e he]; exact Bool.false_ne_true
    omega
  pty := by
    have hnone : es.countP Effect.isOpenPty = 0 :=
      List.countP_eq_zero.mpr fun e he => by rw [hpty e he]; exact Bool.false_ne_true
    omega
  order := List.pairwise_of_forall_mem_list fun e _ e' he' _ => hpty e' he'

variable {now : List Effect}

/-- A message that neither starts a command nor opens a PTY leaves the bounds as they are. -/
theorem Once.append {es : List Effect} (h : Once (before ++ [x]) es)
    (hstarts : starts x.message = false) (hrequests : requestsPty x.message = false)
    (hstart : ∀ e ∈ now, e.isStart = false) (hpty : ∀ e ∈ now, e.isOpenPty = false) :
    Once before (now ++ es) := by
  obtain ⟨hstart₁, hpty₁, horder₁⟩ := once_of_all before hstart hpty
  obtain ⟨hstart₂, hpty₂, horder₂⟩ := h
  rw [started_append, hstarts, Bool.or_false] at hstart₂ hpty₂
  rw [hasPty_append, hrequests, Bool.or_false] at hpty₂
  have hnone : now.countP Effect.isStart = 0 :=
    List.countP_eq_zero.mpr fun e he => by rw [hstart e he]; exact Bool.false_ne_true
  have hnopty : now.countP Effect.isOpenPty = 0 :=
    List.countP_eq_zero.mpr fun e he => by rw [hpty e he]; exact Bool.false_ne_true
  refine ⟨?_, ?_, List.pairwise_append.mpr ⟨horder₁, horder₂, fun e he e' _ hs => ?_⟩⟩
  · rw [List.countP_append, hnone, Nat.zero_add]
    exact hstart₂
  · rw [List.countP_append, hnopty, Nat.zero_add]
    exact hpty₂
  · rw [hstart e he] at hs
    cases hs

theorem once_serve (hxs : ∀ x ∈ xs, x.Answered)
    (h : Matches before session) : Once before (effects shell ending session xs) := by
  refine serve_induction shell ending
    (P := fun before session xs => Once before (effects shell ending session xs)) ?_ ?_ ?_ hxs h
  · intro before session _
    obtain hnil | hclose := effects_nil shell ending session
    · rw [hnil]
      exact once_of_all before (List.forall_mem_nil _) (List.forall_mem_nil _)
    · rw [hclose]
      exact once_of_all before (by simp [Effect.isStart]) (by simp [Effect.isOpenPty])
  · intro before session x rest _ heffects
    rw [heffects]
    exact once_of_all before (List.forall_mem_nil _) (List.forall_mem_nil _)
  · intro before session x rest session' now _ _ _ ha heffects hrest
    rw [heffects]
    obtain ⟨message, responses⟩ := x
    cases ha with
    | pty hstarted hpty =>
      obtain ⟨hstart, hptys, horder⟩ := hrest
      rw [started_append, hstarted, Bool.false_or] at hstart hptys
      rw [hasPty_append, hpty, Bool.false_or] at hptys
      refine ⟨?_, ?_, ?_⟩
      · simpa [List.countP_cons, Effect.isStart, hstarted, starts] using hstart
      · simpa [List.countP_cons, Effect.isOpenPty, hstarted, hpty, starts, requestsPty] using hptys
      · simpa [Effect.isStart] using horder
    | start hstarts hstarted =>
      obtain ⟨hstart, hptys, horder⟩ := hrest
      rw [started_append, hstarted, Bool.false_or] at hstart hptys
      simp only [hstarts, Bool.true_or, if_true, Nat.le_zero] at hstart hptys
      refine ⟨?_, ?_, List.pairwise_cons.mpr ⟨fun e he _ => ?_, horder⟩⟩
      · simp [List.countP_cons, Effect.isStart, hstarted, hstart]
      · simp [Effect.isOpenPty, hptys]
      · have hnone := List.countP_eq_zero.mp hptys e he
        exact Bool.eq_false_iff.mpr hnone
    | windowChange _ =>
      exact hrest.append rfl rfl (by simp [Effect.isStart]) (by simp [Effect.isOpenPty])
    | signal _ =>
      exact hrest.append rfl rfl (by simp [Effect.isStart]) (by simp [Effect.isOpenPty])
    | forwardAgent _ =>
      exact hrest.append rfl rfl (by simp [Effect.isStart]) (by simp [Effect.isOpenPty])
    | input _ _ =>
      exact hrest.append rfl rfl (by simp [Effect.isStart]) (by simp [Effect.isOpenPty])

/-! ## Where the loop stops -/

theorem Accepted.ne_nil (h : Accepted before session message session' now) : now ≠ [] := by
  cases h <;> exact List.cons_ne_nil _ _

/-- Extended data is refused once a command was started. -/
theorem Accepted.started_of_extended (h : Accepted before session message session' now)
    (hextended : isExtended message = true) :
    started before = false ∧ starts message = false := by
  cases h with
  | pty => cases hextended
  | start hstarts hstarted => exact ⟨hstarted, by cases message <;> first | rfl | cases hextended⟩
  | windowChange => cases hextended
  | signal => cases hextended
  | forwardAgent hstarted => exact ⟨hstarted, rfl⟩
  | input hstarted htype => simp [isExtended, htype] at hextended

/-- Before a command is started, every message that is not refused does something. -/
theorem effects_eq_nil_iff (h : Matches before session) (hlarval : started before = false)
    (hxs : ∀ x ∈ xs, x.Answered) :
    effects shell ending session xs = [] ↔ xs.head?.all (refused before) = true := by
  cases xs with
  | nil => simp [effects_nil_larval shell ending (h.larval hlarval)]
  | cons y rest =>
    have hy := hxs y List.mem_cons_self
    rw [List.head?_cons, Option.all_some]
    cases hrefused : refused before y with
    | true => simp [effects_refused shell ending h hy hrefused]
    | false =>
      obtain ⟨session', now, ha, heffects⟩ := effects_accepted shell ending h hy hrefused
      simp [heffects, ha.ne_nil]

theorem erroneous_of_refused (h : refused before x = true) : erroneous before x = true := by
  rw [erroneous, h, Bool.true_or]

/-- Nothing is done after the first erroneous message exactly if extended data that is taken for
    a request to forward the agent is harmless. -/
theorem effects_throughError_iff (hxs : ∀ x ∈ xs, x.Answered) (h : Matches before session) :
    effects shell ending session xs = effects shell ending session (throughError before xs) ↔
      harmless before xs = true := by
  refine serve_induction shell ending
    (P := fun before session xs =>
      effects shell ending session xs = effects shell ending session (throughError before xs) ↔
        harmless before xs = true) ?_ ?_ ?_ hxs h
  · intro before session _
    exact iff_of_true rfl rfl
  · intro before session x rest hrefused heffects
    rw [throughError, if_pos (erroneous_of_refused hrefused), heffects, heffects, harmless,
      if_pos hrefused]
    exact iff_of_true rfl rfl
  · intro before session x rest session' now hrest h' haccepted ha heffects ih
    have herroneous : erroneous before x = isExtended x.message := by
      rw [erroneous, haccepted, Bool.false_or]
    rw [throughError, herroneous, harmless, haccepted, if_neg Bool.false_ne_true]
    cases hextended : isExtended x.message with
    | false =>
      rw [if_neg Bool.false_ne_true, if_neg Bool.false_ne_true, heffects, heffects,
        List.append_cancel_left_eq]
      exact ih
    | true =>
      obtain ⟨hstarted, hstarts⟩ := ha.started_of_extended hextended
      have hlarval : started (before ++ [x]) = false := by
        rw [started_append, hstarted, hstarts, Bool.false_or]
      rw [if_pos rfl, if_pos rfl, heffects, heffects, List.append_cancel_left_eq,
        effects_nil_larval shell ending (h'.larval hlarval)]
      exact effects_eq_nil_iff shell ending h' hlarval hrest

/-! ## The input of the command -/

def Effect.input? : Effect → Option (List UInt8)
  | .writeInput data => some data
  | _ => none

/-- The bytes written to the input of the command -/
def written (es : List Effect) : List UInt8 := (es.filterMap Effect.input?).flatten

theorem written_append (es es' : List Effect) :
    written (es ++ es') = written es ++ written es' := by
  rw [written, List.filterMap_append, List.flatten_append]
  rfl

/-- The messages of `xs` that come after the start, which may have been among `before` -/
def sinceStart (before xs : List Exchange) : List Exchange :=
  if started before then xs else afterStart xs

theorem inputOf_cons (x : Exchange) (xs : List Exchange) :
    inputOf (x :: xs) = (payload? x.message).getD [] ++ inputOf xs := by
  unfold inputOf
  rw [List.map_cons]
  cases hpayload : payload? x.message with
  | none => rw [List.filterMap_cons_none hpayload, Option.getD_none, List.nil_append]
  | some data => rw [List.filterMap_cons_some hpayload, List.flatten_cons, Option.getD_some]

theorem inputOf_sinceStart_cons (before : List Exchange) (x : Exchange) (xs : List Exchange) :
    inputOf (sinceStart before (x :: xs)) =
      (if started before then (payload? x.message).getD [] else []) ++
        inputOf (sinceStart (before ++ [x]) xs) := by
  unfold sinceStart
  rw [started_append]
  cases started before with
  | true =>
    rw [if_pos rfl, if_pos rfl, Bool.true_or, if_pos rfl]
    exact inputOf_cons x xs
  | false =>
    rw [if_neg Bool.false_ne_true, if_neg Bool.false_ne_true, Bool.false_or, List.nil_append]
    unfold afterStart
    cases hstarts : starts x.message with
    | true => rw [List.dropWhile_cons_of_neg (by simp [hstarts]), if_pos rfl, List.tail_cons]
    | false => rw [List.dropWhile_cons_of_pos (by simp [hstarts]), if_neg Bool.false_ne_true]

theorem Accepted.written (h : Accepted before session message session' now) :
    written now = if started before then (payload? message).getD [] else [] := by
  cases h with
  | pty hstarted hpty => rw [hstarted]; rfl
  | start hstarts hstarted => rw [hstarted]; rfl
  | windowChange hpty => exact (ite_self _).symm
  | signal hstarted => exact (ite_self _).symm
  | forwardAgent hstarted => rw [hstarted]; rfl
  | input hstarted htype =>
    rw [hstarted, payload?, if_pos htype, if_pos rfl, Option.getD_some]
    exact List.append_nil _

theorem written_effects (hxs : ∀ x ∈ xs, x.Answered)
    (h : Matches before session) (hharmless : harmless before xs = true) :
    written (effects shell ending session xs) =
      inputOf (sinceStart before (untilError before xs)) := by
  have hnil : ∀ before, inputOf (sinceStart before []) = [] := by
    intro before
    unfold sinceStart
    split_ifs <;> rfl
  refine serve_induction shell ending
    (P := fun before session xs => harmless before xs = true →
      written (effects shell ending session xs) =
        inputOf (sinceStart before (untilError before xs))) ?_ ?_ ?_ hxs h hharmless
  · intro before session _ _
    rw [untilError, hnil]
    obtain heffects | heffects := effects_nil shell ending session
    · rw [heffects]
      rfl
    · rw [heffects]
      rfl
  · intro before session x rest hrefused heffects _
    rw [heffects, untilError, if_pos (erroneous_of_refused hrefused), hnil]
    rfl
  · intro before session x rest session' now hrest h' haccepted ha heffects ih hharmless
    rw [harmless, haccepted, if_neg Bool.false_ne_true] at hharmless
    rw [heffects, written_append, ha.written, untilError, erroneous, haccepted, Bool.false_or]
    cases hextended : isExtended x.message with
    | false =>
      rw [hextended, if_neg Bool.false_ne_true] at hharmless
      rw [if_neg Bool.false_ne_true, inputOf_sinceStart_cons, ih hharmless]
    | true =>
      rw [hextended, if_pos rfl] at hharmless
      obtain ⟨hstarted, hstarts⟩ := ha.started_of_extended hextended
      have hlarval : started (before ++ [x]) = false := by
        rw [started_append, hstarted, hstarts, Bool.false_or]
      rw [(effects_eq_nil_iff shell ending h' hlarval hrest).mpr hharmless, hstarted, if_pos rfl,
        hnil]
      rfl

end Runs

/-- The history of a session channel: at most one command is started and at most one PTY opened,
    never after the start; the input of the command is the data between the request for it and
    the first error; and the messages after the first error do nothing. -/
structure FollowsHistory (shell : List UInt8) (ending : Option GoError) (xs : List Exchange) :
    Prop where
  start : (effects shell ending {} xs).countP Effect.isStart ≤ 1
  pty : (effects shell ending {} xs).countP Effect.isOpenPty ≤ 1
  order : (effects shell ending {} xs).Pairwise fun e e' =>
    e.isStart = true → e'.isOpenPty = false
  input : written (effects shell ending {} xs) = inputOf (afterStart (untilError [] xs))
  frozen : effects shell ending {} xs = effects shell ending {} (throughError [] xs)

/-- **The history of a session.**  It is as described exactly if extended data that says
    "forward-agent" and comes before the start is either the last message, or followed by a
    message at which the loop returns. -/
theorem followsHistory_iff (shell : List UInt8) (ending : Option GoError) {xs : List Exchange}
    (hxs : ∀ x ∈ xs, x.Answered) : FollowsHistory shell ending xs ↔ harmless [] xs = true := by
  have hinit : Matches [] {} := ⟨rfl, rfl, rfl⟩
  constructor
  · intro h
    exact (effects_throughError_iff shell ending hxs hinit).mp h.frozen
  · intro hharmless
    obtain ⟨hstart, hpty, horder⟩ := once_serve shell ending hxs hinit
    exact ⟨hstart, hpty, horder, written_effects shell ending hxs hinit hharmless,
      (effects_throughError_iff shell ending hxs hinit).mpr hharmless⟩

/-- Every call made for the message succeeds. -/
def answered (message : Message) : Exchange := ⟨message, { agentSocket := .ok (ascii "/tmp/a") }⟩

theorem answered_data (message : Proto.DataOrExtendedDataMessage) :
    (answered (.data message)).Answered := ⟨trivial, rfl, rfl, rfl⟩

theorem answered_exec (wantReply : Bool) (request : Proto.ExecRequest) :
    (answered (.channelRequest ⟨wantReply, some (.exec request)⟩)).Answered :=
  ⟨trivial, rfl, rfl, rfl⟩

/-- A PTY, a command with input, and a second PTY after which input is not taken. -/
theorem followsHistory_iff_second_pty : ∃ xs, FollowsHistory (ascii "/bin/sh") none xs ∧
    written (effects (ascii "/bin/sh") none {} xs) = ascii "hello" := by
  let data (bytes : List UInt8) := answered (.data ⟨SSH_EXTENDED_DATA_NONE, bytes⟩)
  let pty := answered (.channelRequest ⟨true, some (.pty ⟨ascii "vt100", 80, 24, 0, 0, []⟩)⟩)
  let exec := answered (.channelRequest ⟨true, some (.exec ⟨ascii "cat"⟩)⟩)
  have hpty : pty.Answered := ⟨trivial, rfl, rfl, rfl⟩
  have hxs : ∀ x ∈ [pty, exec, data (ascii "hel"), data (ascii "lo"), pty, data (ascii "late")],
      x.Answered := by
    simp only [List.forall_mem_cons]
    exact ⟨hpty, answered_exec _ _, answered_data _, answered_data _, hpty, answered_data _,
      List.forall_mem_nil _⟩
  exact ⟨_, (followsHistory_iff (ascii "/bin/sh") none hxs).mpr (by decide +kernel),
    by decide +kernel⟩

/-- A command is started after extended data, which is taken for a request to forward the agent. -/
theorem start_after_extended_data : ∃ xs, (∀ x ∈ xs, x.Answered) ∧
    ¬FollowsHistory (ascii "/bin/sh") none xs := by
  refine ⟨[answered (.data ⟨SSH_EXTENDED_DATA_STDERR, ascii "forward-agent"⟩),
    answered (.channelRequest ⟨true, some (.exec ⟨ascii "id"⟩)⟩)], ?_, ?_⟩
  · simp only [List.forall_mem_cons]
    exact ⟨answered_data _, answered_exec _ _, List.forall_mem_nil _⟩
  · intro h
    exact absurd h.frozen (by decide +kernel)

end Ssh3.Go.Session
