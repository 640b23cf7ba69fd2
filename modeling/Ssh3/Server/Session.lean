/-
  Ssh3.Server.Session

  `ssh3-server/src/lib.rs`: `handle_session_channel`, the loop that serves a session
  channel, and the process it starts.

  Handling one message is a function of the state of the loop and of what the
  operating system and the channel answer (`Responses`); it gives the actions taken and
  the new state, or the error with which the loop ends.  The child is owned by another
  task, which waits for it: `System` puts the loop, the child and the wait task together,
  and its runs are their interleavings.

  The environment given to the process (`configure_process`) and the copying of its
  output are left out: nothing in the loop depends on them.
-/

import Ssh3.Lib.Transition
import Ssh3.Proto.Message
import Ssh3.Server.Authorization

namespace Ssh3.Server

open Proto (ascii Message ChannelRequest PtyRequest WindowChangeRequest SignalRequest
  SSH_EXTENDED_DATA_NONE)
open Ssh3.Core (ChannelError)
open Ssh3.Auth

/-! ## Requests -/

def clampU64ToU16 (value : UInt64) : UInt16 := (min value 65535).toUInt16

def sshBytesToString (bytes : List UInt8) : Option (List UInt8) :=
  if bytes = [] then none else some (Text.fromUtf8Lossy bytes)

/-- The size of a PTY -/
structure SessionPtySize where
  charWidth : UInt16
  charHeight : UInt16
  pixelWidth : UInt16
  pixelHeight : UInt16
  deriving DecidableEq, Repr

def SessionPtySize.fromPtyRequest (request : PtyRequest) : SessionPtySize :=
  { charWidth := clampU64ToU16 request.charWidth
    charHeight := clampU64ToU16 request.charHeight
    pixelWidth := clampU64ToU16 request.pixelWidth
    pixelHeight := clampU64ToU16 request.pixelHeight }

def SessionPtySize.fromWindowChange (request : WindowChangeRequest) : SessionPtySize :=
  { charWidth := clampU64ToU16 request.charWidth
    charHeight := clampU64ToU16 request.charHeight
    pixelWidth := clampU64ToU16 request.pixelWidth
    pixelHeight := clampU64ToU16 request.pixelHeight }

/-- A PTY that was asked for -/
structure PendingPty where
  term : Option (List UInt8)
  size : SessionPtySize
  deriving DecidableEq, Repr

/-- What a session runs -/
inductive SessionCommand where
  | shell
  | exec (command : List UInt8)
  deriving DecidableEq, Repr

/-- The signals of `nix::sys::signal::Signal` that can be requested -/
inductive Signal where
  | SIGABRT | SIGALRM | SIGBUS | SIGCHLD | SIGCONT | SIGFPE | SIGHUP | SIGILL | SIGINT
  | SIGPIPE | SIGQUIT | SIGSEGV | SIGSTOP | SIGTERM | SIGTRAP | SIGTSTP | SIGTTIN | SIGTTOU
  | SIGUSR1 | SIGUSR2 | SIGWINCH | SIGXCPU | SIGXFSZ
  deriving DecidableEq, Repr

def signalNames : List (List UInt8 × Signal) :=
  [(ascii "ABRT", .SIGABRT), (ascii "IOT", .SIGABRT), (ascii "ALRM", .SIGALRM),
    (ascii "BUS", .SIGBUS), (ascii "CHLD", .SIGCHLD), (ascii "CLD", .SIGCHLD),
    (ascii "CONT", .SIGCONT), (ascii "FPE", .SIGFPE), (ascii "HUP", .SIGHUP),
    (ascii "ILL", .SIGILL), (ascii "INT", .SIGINT), (ascii "PIPE", .SIGPIPE),
    (ascii "QUIT", .SIGQUIT), (ascii "SEGV", .SIGSEGV), (ascii "STOP", .SIGSTOP),
    (ascii "TERM", .SIGTERM), (ascii "TRAP", .SIGTRAP), (ascii "TSTP", .SIGTSTP),
    (ascii "TTIN", .SIGTTIN), (ascii "TTOU", .SIGTTOU), (ascii "USR1", .SIGUSR1),
    (ascii "USR2", .SIGUSR2), (ascii "WINCH", .SIGWINCH), (ascii "XCPU", .SIGXCPU),
    (ascii "XFSZ", .SIGXFSZ)]

def parseSignalRequest (request : SignalRequest) : Option Signal :=
  let signalName := (Text.fromUtf8Lossy request.signalNameWithoutSig).map Text.toAsciiUppercase
  let signalName := if (ascii "SIG").isPrefixOf signalName then signalName.drop 3 else signalName
  signalNames.lookup signalName

/-! ## What the loop does, and what it is answered -/

/-- What the handler does to the outside -/
inductive Action where
  | writeStderr (message : List UInt8)
  /-- A process was started, with this pid -/
  | spawn (pty : Option PendingPty) (agentSocketPath : Option (List UInt8))
      (command : SessionCommand) (pid : UInt32)
  | writeInput (data : List UInt8)
  | resize (size : SessionPtySize)
  | kill (pid : Int32) (signal : Signal)
  | openAgentSocket
  deriving DecidableEq, Repr

/-- The results of the calls that handling one message may make. -/
structure Responses where
  writeStderr : Except ChannelError Unit := .ok ()
  /-- `openpty`, and the copies of the slave -/
  openpty : Except IoError Unit := .ok ()
  /-- `process.spawn()`, with the pid of the child -/
  spawn : Except IoError UInt32
  /-- What is taken from a started process: its stdin, or the copies of the master -/
  handles : Except IoError Unit := .ok ()
  writeInput : Except IoError Unit := .ok ()
  resize : Except IoError Unit := .ok ()
  kill : Except IoError Unit := .ok ()
  /-- `open_agent_socket_and_forward_agent`, with the path of the socket -/
  agentSocket : Except IoError (List UInt8)
  /-- `{other:?}` -/
  debug : ChannelRequest → List UInt8 := fun _ => []

/-- A session with its process -/
structure RunningSession where
  childId : Option UInt32
  /-- `pty.is_some()`: input and window changes go to the PTY -/
  pty : Bool
  deriving DecidableEq, Repr

/-- The local variables of the loop. -/
structure SessionState where
  pendingPty : Option PendingPty := none
  /-- The path of the agent's socket -/
  agentForwarding : Option (List UInt8) := none
  session : Option RunningSession := none
  deriving DecidableEq, Repr

variable (responses : Responses)

/-- Every error is a `ServerError::Io`. -/
def RunningSession.applyWindowChange (self : RunningSession) (size : SessionPtySize) :
    List Action × Except IoError Unit :=
  if self.pty then ([.resize size], responses.resize)
  else ([], .error ⟨.unsupported, ascii "window-change requires a PTY-backed session"⟩)

/-- Every error is a `ServerError::Io`. -/
def RunningSession.sendSignal (self : RunningSession) (request : SignalRequest) :
    List Action × Except IoError Unit :=
  match parseSignalRequest request with
  | none => ([], .error ⟨.invalidInput,
      ascii "unsupported signal: " ++ Text.fromUtf8Lossy request.signalNameWithoutSig⟩)
  | some signal =>
    match self.childId with
    | none => ([], .error ⟨.other, ascii "running session does not have a child pid"⟩)
    | some childId =>
      let pid := childId.toInt32
      -- the leader of a session of its own, with a PTY: its whole process group
      ([.kill (if self.pty then -pid else pid) signal], responses.kill)

/-- `spawn_pipe_session_process` or, with a pending PTY, `spawn_pty_session_process`.  The wait
    task owns the child from here on; a process whose handles cannot be taken is dropped. -/
def spawnSessionProcess (pendingPty : Option PendingPty) (agentSocketPath : Option (List UInt8))
    (command : SessionCommand) : List Action × Except ServerError RunningSession :=
  match (if pendingPty.isSome then responses.openpty else .ok ()) with
  | .error err => ([], .error (.io err))
  | .ok () =>
    match responses.spawn with
    | .error err => ([], .error (.io err))
    | .ok pid =>
      ([.spawn pendingPty agentSocketPath command pid],
        match responses.handles with
        | .error err => .error (.io err)
        | .ok () => .ok { childId := some pid, pty := pendingPty.isSome })

/-! ## The loop -/

/-- What handling a message gives: the actions, and the state in which the loop goes on. -/
abbrev Handled := List Action × Except ServerError SessionState

def writeStderr (state : SessionState) (message : List UInt8) : Handled :=
  ([.writeStderr message],
    match responses.writeStderr with
    | .error err => .error (.channel err)
    | .ok () => .ok state)

/-- `if let Err(err) = … { write_stderr(…, format!("{err}\n")) }` -/
def reportError (state : SessionState) : List Action × Except IoError Unit → Handled
  | (actions, .ok ()) => (actions, .ok state)
  | (actions, .error err) =>
    let (more, result) := writeStderr responses state (err.message ++ ascii "\n")
    (actions ++ more, result)

/-- Starts the process of the session -/
def startSession (state : SessionState) (command : SessionCommand) : Handled :=
  match state.session with
  | some _ => writeStderr responses state (ascii "session is already running\n")
  | none =>
    match spawnSessionProcess responses state.pendingPty state.agentForwarding command with
    | (actions, .error err) => (actions, .error err)
    | (actions, .ok session) => (actions, .ok { state with session := some session })

/-- Dispatches on the kind of request -/
def handleRequest (state : SessionState) : ChannelRequest → Handled
  | .pty pty =>
    match state.session with
    | some _ =>
      writeStderr responses state (ascii "cannot request a PTY after the session has started\n")
    | none =>
      let pendingPty :=
        { term := sshBytesToString pty.term, size := SessionPtySize.fromPtyRequest pty }
      ([], .ok { state with pendingPty := some pendingPty })
  | .shell => startSession responses state .shell
  | .exec exec =>
    startSession responses state (.exec ((sshBytesToString exec.command).getD []))
  | .signal signal =>
    match state.session with
    | some session => reportError responses state (session.sendSignal responses signal)
    | none =>
      writeStderr responses state (ascii "cannot signal a session before it has started\n")
  | .windowChange windowChange =>
    let size := SessionPtySize.fromWindowChange windowChange
    match state.session, state.pendingPty with
    | some session, _ => reportError responses state (session.applyWindowChange responses size)
    | none, some pendingPty => ([], .ok { state with pendingPty := some { pendingPty with size } })
    | none, none => writeStderr responses state
        (ascii "window-change requires a pending or running PTY session\n")
  | other => writeStderr responses state
      (ascii "unsupported session request: " ++ responses.debug other ++ ascii "\n")

def handleData (state : SessionState) (data : List UInt8) : Handled :=
  match state.session with
  | some _ =>
    ([.writeInput data],
      match responses.writeInput with
      | .error err => .error (.io err)
      | .ok () => .ok state)
  | none =>
    if data ≠ ascii "forward-agent" then
      writeStderr responses state
        (ascii "cannot send session data before the session has started\n")
    else
      match state.agentForwarding with
      | some _ => ([], .ok state)
      | none =>
        match responses.agentSocket with
        | .error err => ([.openAgentSocket], .error (.io err))
        | .ok path => ([.openAgentSocket], .ok { state with agentForwarding := some path })

/-- One turn of the loop of `handle_session_channel`, after `next_message`. -/
def handleMessage (state : SessionState) : Message → Handled
  | .channelRequest request => handleRequest responses state request.request
  | .data message =>
    if message.dataType ≠ SSH_EXTENDED_DATA_NONE then
      writeStderr responses state (ascii "unsupported extended data message\n")
    else handleData responses state message.data
  | _ => ([], .ok state)

/-! ## The loop, the child and the wait task -/

/-- How far a process has got -/
inductive ChildStatus where
  | running
  | exited
  /-- `child.wait()` has returned: the pid may be given to another process -/
  | reaped
  deriving DecidableEq, Repr

/-- A process of the session -/
structure Child where
  pid : UInt32
  status : ChildStatus
  deriving DecidableEq, Repr

/-- An action, with the children of the session at the time it was taken. -/
structure LogEntry where
  action : Action
  children : List Child
  deriving DecidableEq, Repr

/-- The handler of a session and the processes -/
structure System where
  /-- `none` when the loop has ended -/
  handler : Option SessionState := some {}
  /-- The processes started by this session -/
  children : List Child := []
  log : List LogEntry := []
  deriving DecidableEq, Repr

/-- A message, or the end of a process or of the stream -/
inductive SessionEvent where
  | message (message : Message) (responses : Responses)
  /-- `next_message` fails -/
  | readError
  | childExits (pid : UInt32)
  /-- The wait task reaps the child -/
  | waitReturns (pid : UInt32)

def Action.spawned : Action → Option Child
  | .spawn _ _ _ pid => some ⟨pid, .running⟩
  | _ => none

/-- The child with this pid goes on to its next status. -/
def System.moveChild (self : System) (pid : UInt32) (before after : ChildStatus) :
    Option System :=
  if ⟨pid, before⟩ ∈ self.children then
    some { self with children := self.children.map fun child =>
      if child = ⟨pid, before⟩ then ⟨pid, after⟩ else child }
  else none

/-- The loop goes on, or ends, after what handling a message gave. -/
def System.record (self : System) (handled : Handled) : System where
  handler := handled.2.toOption
  children := self.children ++ handled.1.filterMap Action.spawned
  log := self.log ++ handled.1.map fun action => { action, children := self.children }

/-- One step.  A message is handled in one: at most one call in it is about a process, and
    nothing else in it depends on the child. -/
def System.step (self : System) : SessionEvent → Option System
  | .message message responses =>
    self.handler.map fun state => self.record (handleMessage responses state message)
  | .readError => self.handler.map fun _ => { self with handler := none }
  | .childExits pid => self.moveChild pid .running .exited
  | .waitReturns pid => self.moveChild pid .exited .reaped

end Ssh3.Server
