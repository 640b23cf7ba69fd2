/-
  Ssh3.Go.Session

  `cmd/ssh3-server.go`: the goroutine that serves a session channel of the Go
  server, with the handlers of its messages.

  A handler gets the `runningSession` of its channel and what the operating system
  answers (`Responses`); it leaves the session behind, with what it did and the
  `error` that it returns (`Handled`).  The loop returns at the first error, after
  which its deferred calls close the channel and the conversation.

  Every channel that is not a forwarding channel is served by this loop, whatever its
  type.  `runningSessions` has an entry for each of them from before the loop starts
  and no entry is ever removed, so the lookups of the handlers succeed.  The copying
  of the output of a command (`execCmdInBackground` starts it) is left out: it shares
  only the channel with the loop.
-/

import Ssh3.Go.Message

namespace Ssh3.Go

open Proto (ascii SSH_EXTENDED_DATA_NONE PtyRequest ExecRequest WindowChangeRequest SignalRequest
  DataOrExtendedDataMessage)

namespace Session

/-- `signals`, with the numbers of the signals -/
def signals : List (List UInt8 × Nat) :=
  [(ascii "SIGABRT", 0x6), (ascii "SIGALRM", 0xe), (ascii "SIGBUS", 0x7),
    (ascii "SIGCHLD", 0x11), (ascii "SIGCLD", 0x11), (ascii "SIGCONT", 0x12),
    (ascii "SIGFPE", 0x8), (ascii "SIGHUP", 0x1), (ascii "SIGILL", 0x4),
    (ascii "SIGINT", 0x2), (ascii "SIGIO", 0x1d), (ascii "SIGIOT", 0x6),
    (ascii "SIGKILL", 0x9), (ascii "SIGPIPE", 0xd), (ascii "SIGPOLL", 0x1d),
    (ascii "SIGPROF", 0x1b), (ascii "SIGPWR", 0x1e), (ascii "SIGQUIT", 0x3),
    (ascii "SIGSEGV", 0xb), (ascii "SIGSTKFLT", 0x10), (ascii "SIGSTOP", 0x13),
    (ascii "SIGSYS", 0x1f), (ascii "SIGTERM", 0xf), (ascii "SIGTRAP", 0x5),
    (ascii "SIGTSTP", 0x14), (ascii "SIGTTIN", 0x15), (ascii "SIGTTOU", 0x16),
    (ascii "SIGUNUSED", 0x1f), (ascii "SIGURG", 0x17), (ascii "SIGUSR1", 0xa),
    (ascii "SIGUSR2", 0xc), (ascii "SIGVTALRM", 0x1a), (ascii "SIGWINCH", 0x1c),
    (ascii "SIGXCPU", 0x18), (ascii "SIGXFSZ", 0x19)]

/-! ## The session -/

/-- The constants of type `channelType` -/
inductive ChannelState where
  /-- `LARVAL` -/
  | larval
  /-- `OPEN` -/
  | opened
  deriving DecidableEq, Repr

/-- `pty.Winsize` -/
structure Winsize where
  rows : UInt16
  cols : UInt16
  x : UInt16
  y : UInt16
  deriving DecidableEq, Repr

/-- The conversions to `uint16` drop the high bits. -/
def Winsize.ofRequest (charWidth charHeight pixelWidth pixelHeight : UInt64) : Winsize where
  rows := charHeight.toUInt16
  cols := charWidth.toUInt16
  x := pixelWidth.toUInt16
  y := pixelHeight.toUInt16

/-- A PTY that was opened -/
structure OpenPty where
  winSize : Winsize
  term : List UInt8
  deriving DecidableEq, Repr

/-- The arguments from which `CreateCommand` makes the `exec.Cmd` -/
structure RunningCommand where
  /-- `TERM=…`, or empty without a PTY -/
  env : List UInt8
  loginShell : Bool
  command : List UInt8
  args : List (List UInt8)
  deriving DecidableEq, Repr

/-- The session of a channel -/
structure RunningSession where
  channelState : ChannelState := .larval
  pty : Option OpenPty := none
  /-- Set together with `runningCmdDone` -/
  runningCmd : Option RunningCommand := none
  authAgentSocketPath : List UInt8 := []
  deriving DecidableEq, Repr

/-- What the loop does to its surroundings. -/
inductive Effect where
  | openPty
  | setWinsize (winSize : Winsize)
  /-- A command was started, on the PTY if there is one; `SSH_AUTH_SOCK` is set if the path of
      the agent's socket is not empty -/
  | start (command : RunningCommand) (pty : Option OpenPty) (authAgentSocketPath : List UInt8)
  /-- The bytes given to `stdinW.Write`, whose result is not looked at -/
  | writeInput (data : List UInt8)
  | closeInput
  | signal (number : Nat)
  | listenAgentSocket (path : List UInt8)
  deriving DecidableEq, Repr

/-- The errors of the session handlers -/
inductive SessionError where
  /-- "cannot request new pty on already established session" -/
  | ptyOnEstablishedSession
  /-- "cannot request new pty on a channel with an already existing pty" -/
  | existingPty
  /-- "cannot request new shell on already established session" -/
  | shellOnEstablishedSession
  /-- "cannot change window size without a requested pty on channel %d (conv %d)" -/
  | windowChangeWithoutPty
  /-- "cannot send signal for channel in LARVAL state (channel %d, conv %d)" -/
  | signalInLarvalState
  /-- "unhandled signal SIG%s" -/
  | unhandledSignal (name : List UInt8)
  /-- "invalid data on ssh channel with LARVAL state" -/
  | invalidLarvalData
  /-- "cannot receive data for channel in LARVAL state (channel %d, conv %d)" -/
  | dataInLarvalState
  /-- "extended data type forbidden server PTY" -/
  | extendedDataForbidden
  /-- "there is no running command on Channel %d (conv %d) to feed the received data" -/
  | noRunningCommand
  /-- "channel type %s not implemented" -/
  | channelTypeNotImplemented (channelType : List UInt8)
  /-- "%T not implemented" -/
  | notImplemented (requestType : List UInt8)
  /-- An error of a call, passed on -/
  | failed (err : GoError)
  deriving DecidableEq, Repr

/-- The results of the calls that handling one message may make. -/
structure Responses where
  /-- `pty.Open` -/
  openPty : Except GoError Unit := .ok ()
  /-- `CreateCommand` or `CreateCommandPipeOutput` -/
  createCommand : Except GoError Unit := .ok ()
  /-- `StartWithSizeAndPty` or `Start` -/
  start : Except GoError Unit := .ok ()
  /-- `openAgentSocketAndForwardAgent` -/
  agentSocket : Except GoError (List UInt8)

/-- What a handler leaves behind; `err` is the error that it returns. -/
structure Handled where
  session : RunningSession
  effects : List Effect := []
  err : Option SessionError := none

/-! ## The handlers -/

section Handlers

variable (session : RunningSession)

/-- `err` is returned before anything was done. -/
def refuse (err : SessionError) : Handled := { session, err := some err }

def newPtyReq (request : PtyRequest) (responses : Responses) : Handled :=
  if session.channelState ≠ .larval then refuse session .ptyOnEstablishedSession
  else if session.pty.isSome then refuse session .existingPty
  else
    let winSize := Winsize.ofRequest request.charWidth request.charHeight request.pixelWidth
      request.pixelHeight
    match responses.openPty with
    | .error err => refuse session (.failed err)
    | .ok () =>
      { session := { session with pty := some { winSize, term := request.term } }
        effects := [.openPty, .setWinsize winSize] }

def execCmdInBackground (command : RunningCommand) (responses : Responses) : Handled :=
  match responses.start with
  | .error err => refuse session (.failed err)
  | .ok () =>
    { session, effects := [.start command session.pty session.authAgentSocketPath] }

def newCommand (loginShell : Bool) (command : List UInt8) (args : List (List UInt8))
    (responses : Responses) : Handled :=
  if session.channelState ≠ .larval then refuse session .shellOnEstablishedSession
  else
    let env := match session.pty with
      | some pty => ascii "TERM=" ++ pty.term
      | none => []
    match responses.createCommand with
    | .error err => refuse session (.failed err)
    | .ok () =>
      let runningCommand := { env, loginShell, command, args }
      -- the session counts as established even if the command cannot be started
      let session := { session with runningCmd := some runningCommand, channelState := .opened }
      execCmdInBackground session runningCommand responses

/-- `shell` is the login shell of the user. -/
def newShellReq (shell : List UInt8) (responses : Responses) : Handled :=
  newCommand session true shell [] responses

def newCommandInShellReq (shell : List UInt8) (request : ExecRequest) (responses : Responses) :
    Handled :=
  newCommand session false shell [ascii "-c", request.command] responses

def newWindowChangeReq (request : WindowChangeRequest) : Handled :=
  match session.pty with
  | none => refuse session .windowChangeWithoutPty
  | some pty =>
    let winSize := Winsize.ofRequest request.charWidth request.charHeight request.pixelWidth
      request.pixelHeight
    { session := { session with pty := some { pty with winSize } }
      effects := [.setWinsize winSize] }

def newSignalReq (channelType : List UInt8) (request : SignalRequest) : Handled :=
  if session.channelState = .larval then refuse session .signalInLarvalState
  else if channelType = ascii "session" then
    if session.runningCmd.isNone then refuse session .noRunningCommand
    else match signals.lookup (ascii "SIG" ++ request.signalNameWithoutSig) with
      | none => refuse session (.unhandledSignal request.signalNameWithoutSig)
      | some number => { session, effects := [.signal number] }
  else refuse session (.channelTypeNotImplemented channelType)

def newDataReq (channelType : List UInt8) (request : DataOrExtendedDataMessage) : Handled :=
  if session.channelState = .larval then refuse session .dataInLarvalState
  else if channelType = ascii "session" then
    if session.runningCmd.isNone then refuse session .noRunningCommand
    else if request.dataType = SSH_EXTENDED_DATA_NONE then
      { session, effects := [.writeInput request.data] }
    else refuse session .extendedDataForbidden
  else refuse session (.channelTypeNotImplemented channelType)

/-- `runningSession.authAgentSocketPath, err = openAgentSocketAndForwardAgent(…)`: the path is
    empty after an error. -/
def forwardAgent (responses : Responses) : Handled :=
  match responses.agentSocket with
  | .error err => refuse { session with authAgentSocketPath := [] } (.failed err)
  | .ok path =>
    { session := { session with authAgentSocketPath := path }
      effects := [.listenAgentSocket path] }

variable (channelType shell : List UInt8)

/-- Dispatches on the kind of request -/
def handleRequest (request : ChannelRequest) (responses : Responses) : Handled :=
  match request with
  | .pty request => newPtyReq session request responses
  | .x11 _ => refuse session (.notImplemented (ascii "message.X11Request"))
  | .shell => newShellReq session shell responses
  | .exec request => newCommandInShellReq session shell request responses
  | .subsystem _ => refuse session (.notImplemented (ascii "message.SubsystemRequest"))
  | .windowChange request => newWindowChangeReq session request
  | .signal request => newSignalReq session channelType request
  | .exitStatus _ => refuse session (.notImplemented (ascii "message.ExitStatusRequest"))
  | .exitSignal _ => refuse session (.notImplemented (ascii "message.ExitSignalRequest"))
  | .forwarding _ => { session }

/-- The body of the loop.  A message that no case of the `switch` is for is passed over. -/
def handleMessage (message : Message) (responses : Responses) : Handled :=
  match message with
  | .channelRequest ⟨_, some request⟩ => handleRequest session channelType shell request responses
  | .channelRequest ⟨_, none⟩ => { session }
  | .data message =>
    if session.channelState = .larval then
      -- the type of the data is not looked at here
      if message.data = ascii "forward-agent" then forwardAgent session responses
      else refuse session .invalidLarvalData
    else newDataReq session channelType message
  | .channelOpenConfirmation _ => { session }
  | .channelOpenFailure _ => { session }

/-- The input of a command is closed and the command is waited for. -/
def waitForRunningCommandAfterInputEOF : List Effect :=
  if session.channelState = .opened ∧ session.runningCmd.isSome ∧ session.pty.isNone then
    [.closeInput]
  else []

/-- The checks of the error of `NextMessage`; it is `none` while the loop waits for a message. -/
def atEnd (ending : Option GoError) : List Effect :=
  match ending with
  | some .eof => waitForRunningCommandAfterInputEOF session
  | _ => []

end Handlers

/-! ## The loop -/

/-- A message that `NextMessage` returned, and the answers to the calls made for it. -/
structure Exchange where
  message : Message
  responses : Responses

/-- What serving the channel came to; `err` is the error of the handler at which it ended. -/
structure Served where
  effects : List Effect
  err : Option SessionError

section Loop

variable (channelType shell : List UInt8)

/-- The loop over the messages of the channel; `ending` is how `NextMessage` goes on after the
    last of them. -/
def serve (ending : Option GoError) : RunningSession → List Exchange → Served
  | session, [] => ⟨atEnd session ending, none⟩
  | session, x :: rest =>
    let handled := handleMessage session channelType shell x.message x.responses
    match handled.err with
    | some err => ⟨handled.effects, some err⟩
    | none =>
      let served := serve ending handled.session rest
      ⟨handled.effects ++ served.effects, served.err⟩

end Loop

end Session

end Ssh3.Go
