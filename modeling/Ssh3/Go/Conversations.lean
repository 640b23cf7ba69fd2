/-
  Ssh3.Go.Conversations

  `server.go`, `resources_manager.go` and `transport.go`: how a Go server finds the
  conversation of a channel or a datagram, while conversations begin and end and
  connections come and go.

  The server maps a connection to a manager, under `Server.lock`; a manager maps a control
  stream id to a conversation, under its own lock.  The handler of an authenticated request
  holds the lock of the manager from before the response to after the insertion.  So a peer
  that has seen the response finds the lock taken or the conversation in the map.

  An action is one critical section, or one operation between two of them.  A manager is not
  kept by its connection alone: a handler that gets past authentication after
  `removeConnection` makes a new one.
-/

import Ssh3.Go.Channel
import Ssh3.Go.Forwarding
import Ssh3.Go.Serve
import Ssh3.Lib.Tasks

namespace Ssh3.Go.Conversations

open Fallible Transition Tasks
open Serve (Conn Took)

/-! ## Conversations and managers -/

/-- A `*Conversation`.  The handler of a request is given one of its own, and the stream of
    the request becomes its control stream. -/
structure Conversation where
  connection : Conn
  controlStream : UInt64
  deriving DecidableEq

/-- `lock` is the control stream of the handler that holds the lock across its response; the
    other critical sections are single actions. -/
structure ConversationsManager where
  connection : Conn
  conversations : UInt64 → Option Conversation
  lock : Option UInt64

def newConversationManager (connection : Conn) : ConversationsManager where
  connection := connection
  conversations := fun _ => none
  lock := none

/-- Where the handler of a request is; `m` is its manager. -/
inductive Handler where
  | absent
  /-- Up to the call of the handler of `GetHTTPHandlerFunc` -/
  | authenticating
  /-- Answered without a conversation -/
  | refused
  | hasManager (m : Nat)
  /-- Has the lock; `w.WriteHeader(http.StatusOK)` and `HTTPStream()` come next. -/
  | locked (m : Nat)
  /-- Has sent the response and still has the lock. -/
  | responded (m : Nat)
  /-- Has put the conversation into the map and still has the lock. -/
  | inserted (m : Nat)
  /-- In `conversationHandler` -/
  | handling (m : Nat)
  /-- After `removeConversation` -/
  | ended
  deriving DecidableEq

namespace Handler

def Answered : Handler → Prop
  | .responded _ | .inserted _ | .handling _ | .ended => True
  | _ => False

def Inserted : Handler → Prop
  | .inserted _ | .handling _ | .ended => True
  | _ => False

end Handler

/-! ## What arrives -/

/-- What the header of a channel says -/
structure ChannelInfo where
  conversationStreamID : UInt64
  channelID : UInt64
  channelType : List UInt8
  maxPacketSize : UInt64
  deriving DecidableEq

/-- The header of a channel, and the stream after it. -/
def readHeader (channelID : UInt64) (recv : GoStream) :
    Except GoPanic (Except GoError (ChannelInfo × GoStream)) :=
  match call (parseHeader recv.ending) recv.bytes with
  | .error p => .error p
  | .ok (.error err, _) => .ok (.error err)
  | .ok (.ok (conversationStreamID, channelType, maxPacketSize), rest) =>
    .ok (.ok ({ conversationStreamID, channelID, channelType, maxPacketSize },
      recv.drop (recv.bytes.length - rest.length)))

/-- The target of a `direct-udp` or `direct-tcp` channel -/
def readRemoteAddr (info : ChannelInfo) (recv : GoStream) :
    Except GoPanic (Except GoError (Option (List UInt8 × UInt16))) :=
  if info.channelType = Proto.ascii "direct-udp" ∨ info.channelType = Proto.ascii "direct-tcp" then
    (call parseForwardingHeader recv).map fun (result, _) => result.map some
  else .ok (.ok none)

/-- What a peer sends: a stream after its frame type, or a datagram, with the id that
    `receiveDatagrams` has read off it. -/
inductive Message where
  | stream (streamID : UInt64) (recv : GoStream)
  | datagram (controlStreamID : UInt64) (payload : List UInt8)

/-- The control stream that a message names. -/
def Message.Names (controlStream : UInt64) : Message → Prop
  | .stream streamID recv =>
    ∃ info rest, readHeader streamID recv = .ok (.ok (info, rest)) ∧
      info.conversationStreamID = controlStream
  | .datagram controlStreamID _ => controlStreamID = controlStream

theorem Message.names_unique {message : Message} {id id' : UInt64} (h : message.Names id)
    (h' : message.Names id') : id = id' := by
  cases message with
  | stream streamID recv =>
    obtain ⟨info, rest, hread, rfl⟩ := h
    obtain ⟨info', rest', hread', rfl⟩ := h'
    rw [hread] at hread'
    cases hread'
    rfl
  | datagram controlStreamID payload =>
    cases h
    exact h'

/-- Why a stream is rejected, or a datagram skipped. -/
inductive Rejection where
  /-- "unauthenticated connection cannot open SSH3 channel %d" -/
  | unauthenticated
  /-- "could not find SSH3 conversation with control stream id %d for new channel %d" -/
  | unknownConversation
  /-- An error in the header, or in the target of a forwarding -/
  | malformed (err : GoError)
  deriving DecidableEq

/-- Where the goroutine is that handles a message. -/
inductive Phase where
  | start
  | hasManager (m : Nat)
  /-- The message names this control stream; `getConversation` comes next. -/
  | named (m : Nat) (controlStreamID : UInt64)
  | found (conversation : Conversation)
  | delivered (conversation : Conversation)
  | rejected (reason : Rejection)
  | panicked (p : GoPanic)
  deriving DecidableEq

def Phase.isFinal : Phase → Bool
  | .delivered _ | .rejected _ | .panicked _ => true
  | _ => false

/-- The message was taken for one of a conversation that does not exist. -/
def Phase.Unknown (phase : Phase) : Prop :=
  phase = .rejected .unauthenticated ∨ phase = .rejected .unknownConversation

/-- A message on its way to a conversation -/
structure Incoming where
  connection : Conn
  message : Message
  phase : Phase

/-- The goroutine `receiveDatagrams` of the connection is busy with this message. -/
def Incoming.occupies (self : Incoming) (connection : Conn) : Bool :=
  match self.message with
  | .stream _ _ => false
  | .datagram _ _ => self.connection == connection && !self.phase.isFinal

/-- A channel in an accept queue, with the connection of its stream. -/
structure Channel where
  connection : Conn
  info : ChannelInfo
  remoteAddr : Option (List UInt8 × UInt16)

/-- A datagram for `AddDatagram`, with the connection it came from and the id it named. -/
structure Datagram where
  connection : Conn
  controlStreamID : UInt64
  payload : List UInt8

/-! ## The server -/

/-- The server with its tables of connections and conversations -/
structure State where
  serve : Serve.State
  /-- `s.conversations`: the manager of a connection -/
  conversations : Conn → Option Nat
  managers : Nat → ConversationsManager
  /-- How many managers have been made -/
  created : Nat
  /-- By the conversation that the handler is given -/
  handlers : Conversation → Handler
  incoming : List Incoming
  channelsAcceptQueue : Conversation → List Channel
  /-- The calls of `AddDatagram` -/
  datagrams : Conversation → List Datagram

def init : State where
  serve := Serve.init
  conversations := fun _ => none
  managers := fun _ => newConversationManager 0
  created := 0
  handlers := fun _ => .absent
  incoming := []
  channelsAcceptQueue := fun _ => []
  datagrams := fun _ => []

namespace State

def setHandler (s : State) (conv : Conversation) (h : Handler) : State :=
  { s with handlers := Function.update s.handlers conv h }

def setManager (s : State) (m : Nat) (manager : ConversationsManager) : State :=
  { s with managers := Function.update s.managers m manager }

def setPhase (s : State) (i : Nat) (task : Incoming) (phase : Phase) : State :=
  { s with incoming := s.incoming.set i { task with phase } }

/-- What is left of `s.conversations` by a step of `Serve`, `Close` or `serveConnection`:
    `removeConnection` deletes from both maps in one critical section. -/
def conversationsAfter (s : State) : Serve.Action → Conn → Option Nat
  | .removeConnection conn => Function.update s.conversations conn none
  | _ => s.conversations

def afterServe (s : State) (serve : Serve.State) (a : Serve.Action) : State :=
  { s with serve, conversations := s.conversationsAfter a }

def getOrCreateConversationsManager (s : State) (conv : Conversation) : State :=
  match s.conversations conv.connection with
  | some m => s.setHandler conv (.hasManager m)
  | none =>
    { (s.setManager s.created (newConversationManager conv.connection)).setHandler conv
        (.hasManager s.created) with
      conversations := Function.update s.conversations conv.connection (some s.created)
      created := s.created + 1 }

/-- The handler goes on, after authentication; `none` while it waits for the lock. -/
def handle (s : State) (conv : Conversation) : Handler → Option State
  | .authenticating => some (s.getOrCreateConversationsManager conv)
  | .hasManager m =>
    if (s.managers m).lock = none then
      some ((s.setManager m { s.managers m with lock := some conv.controlStream }).setHandler conv
        (.locked m))
    else none
  | .locked m => some (s.setHandler conv (.responded m))
  | .responded m =>
    some ((s.setManager m { s.managers m with
      conversations := Function.update (s.managers m).conversations conv.controlStream
        (some conv) }).setHandler conv (.inserted m))
  | .inserted m =>
    some ((s.setManager m { s.managers m with lock := none }).setHandler conv (.handling m))
  -- `conversationHandler` returns; `removeConversation` needs the lock
  | .handling m =>
    if (s.managers m).lock = none then
      some ((s.setManager m { s.managers m with
        conversations := Function.update (s.managers m).conversations conv.controlStream
          none }).setHandler conv .ended)
    else none
  | .absent | .refused | .ended => none

/-- The rest of `acceptSSHChannel`, or of the loop body of `receiveDatagrams` -/
def deliver (s : State) (i : Nat) (task : Incoming) (conv : Conversation) : State :=
  match task.message with
  | .datagram controlStreamID payload =>
    { s.setPhase i task (.delivered conv) with
      datagrams := Function.update s.datagrams conv
        (s.datagrams conv ++ [{ connection := task.connection, controlStreamID, payload }]) }
  | .stream streamID recv =>
    match readHeader streamID recv with
    | .error p => s.setPhase i task (.panicked p)
    | .ok (.error err) => s.setPhase i task (.rejected (.malformed err))
    | .ok (.ok (info, rest)) =>
      match readRemoteAddr info rest with
      | .error p => s.setPhase i task (.panicked p)
      | .ok (.error err) => s.setPhase i task (.rejected (.malformed err))
      | .ok (.ok remoteAddr) =>
        { s.setPhase i task (.delivered conv) with
          channelsAcceptQueue := Function.update s.channelsAcceptQueue conv
            (s.channelsAcceptQueue conv ++ [{ connection := task.connection, info, remoteAddr }]) }

/-- What follows `getConversationsManager` -/
def afterManager (message : Message) (m : Nat) : Phase :=
  match message with
  | .stream _ _ => .hasManager m
  | .datagram controlStreamID _ => .named m controlStreamID

/-- What follows `parseHeader` -/
def afterHeader (message : Message) (m : Nat) : Phase :=
  match message with
  | .stream streamID recv =>
    match readHeader streamID recv with
    | .error p => .panicked p
    | .ok (.error err) => .rejected (.malformed err)
    | .ok (.ok (info, _)) => .named m info.conversationStreamID
  | .datagram controlStreamID _ => .named m controlStreamID

/-- The goroutine of a message goes on; `none` while it waits for the lock. -/
def advance (s : State) (i : Nat) (task : Incoming) : Option State :=
  match task.phase with
  | .start =>
    match s.conversations task.connection with
    | none => some (s.setPhase i task (.rejected .unauthenticated))
    | some m => some (s.setPhase i task (afterManager task.message m))
  | .hasManager m => some (s.setPhase i task (afterHeader task.message m))
  | .named m controlStreamID =>
    if (s.managers m).lock = none then
      match (s.managers m).conversations controlStreamID with
      | none => some (s.setPhase i task (.rejected .unknownConversation))
      | some conv => some (s.setPhase i task (.found conv))
    else none
  | .found conv => some (s.deliver i task conv)
  | .delivered _ | .rejected _ | .panicked _ => none

def arrive (s : State) (connection : Conn) (message : Message) : State :=
  { s with incoming := s.incoming ++ [{ connection, message, phase := .start }] }

end State

/-- What the server or a peer does -/
inductive Action where
  | serve (a : Serve.Action)
  /-- A request comes in on a stream of its own. -/
  | request (conv : Conversation)
  /-- It is answered without a conversation. -/
  | refuse (conv : Conversation)
  | handle (conv : Conversation)
  | acceptStream (connection : Conn) (streamID : UInt64) (recv : GoStream)
  | receiveDatagram (connection : Conn) (datagram : List UInt8)
  | advance (i : Nat)

/-- The server or a peer does something. -/
def step (s : State) : Action → Option State
  | .serve a => (Serve.step s.serve a).map fun serve => s.afterServe serve a
  | .request conv =>
    if s.handlers conv = .absent ∧ s.serve.goroutines conv.connection = .running then
      some (s.setHandler conv .authenticating)
    else none
  | .refuse conv =>
    if s.handlers conv = .authenticating then some (s.setHandler conv .refused) else none
  | .handle conv => s.handle conv (s.handlers conv)
  | .acceptStream connection streamID recv =>
    if s.serve.goroutines connection = .running then
      some (s.arrive connection (.stream streamID recv))
    else none
  | .receiveDatagram connection datagram =>
    -- one goroutine receives the datagrams of a connection, and may outlive `serveConnection`
    if s.serve.goroutines connection ≠ .absent ∧
        ∀ task ∈ s.incoming, task.occupies connection = false then
      match call (readVarInt .eof) datagram with
      | .ok (.ok controlStreamID, payload) =>
        some (s.arrive connection (.datagram controlStreamID payload))
      | _ => some s
    else none
  | .advance i => s.incoming[i]?.bind (s.advance i)

/-! ## What a step can do -/

/-- A step, by what it changes. -/
inductive Moved (s : State) : Action → State → Prop
  | serve {a : Serve.Action} {serve : Serve.State} (htook : Took s.serve a serve) :
      Moved s (.serve a) (s.afterServe serve a)
  | request {conv : Conversation} (hhandler : s.handlers conv = .absent)
      (hrunning : s.serve.goroutines conv.connection = .running) :
      Moved s (.request conv) (s.setHandler conv .authenticating)
  | refuse {conv : Conversation} (hhandler : s.handlers conv = .authenticating) :
      Moved s (.refuse conv) (s.setHandler conv .refused)
  | getManager {conv : Conversation} {m : Nat} (hhandler : s.handlers conv = .authenticating)
      (hmanager : s.conversations conv.connection = some m) :
      Moved s (.handle conv) (s.setHandler conv (.hasManager m))
  | createManager {conv : Conversation} (hhandler : s.handlers conv = .authenticating)
      (hmanager : s.conversations conv.connection = none) :
      Moved s (.handle conv)
        { (s.setManager s.created (newConversationManager conv.connection)).setHandler conv
            (.hasManager s.created) with
          conversations := Function.update s.conversations conv.connection (some s.created)
          created := s.created + 1 }
  | lock {conv : Conversation} {m : Nat} (hhandler : s.handlers conv = .hasManager m)
      (hlock : (s.managers m).lock = none) :
      Moved s (.handle conv)
        ((s.setManager m { s.managers m with lock := some conv.controlStream }).setHandler conv
          (.locked m))
  | respond {conv : Conversation} {m : Nat} (hhandler : s.handlers conv = .locked m) :
      Moved s (.handle conv) (s.setHandler conv (.responded m))
  | insert {conv : Conversation} {m : Nat} (hhandler : s.handlers conv = .responded m) :
      Moved s (.handle conv)
        ((s.setManager m { s.managers m with
          conversations := Function.update (s.managers m).conversations conv.controlStream
            (some conv) }).setHandler conv (.inserted m))
  | unlock {conv : Conversation} {m : Nat} (hhandler : s.handlers conv = .inserted m) :
      Moved s (.handle conv)
        ((s.setManager m { s.managers m with lock := none }).setHandler conv (.handling m))
  | remove {conv : Conversation} {m : Nat} (hhandler : s.handlers conv = .handling m)
      (hlock : (s.managers m).lock = none) :
      Moved s (.handle conv)
        ((s.setManager m { s.managers m with
          conversations := Function.update (s.managers m).conversations conv.controlStream
            none }).setHandler conv .ended)
  | arrive {a : Action} {connection : Conn} {message : Message} (ha : ∀ conv, a ≠ .handle conv) :
      Moved s a (s.arrive connection message)
  | skip {a : Action} (ha : ∀ conv, a ≠ .handle conv) : Moved s a s
  | advance {i : Nat} {task : Incoming} {t : State} (htask : s.incoming[i]? = some task)
      (hnext : s.advance i task = some t) : Moved s (.advance i) t

theorem moved_of_handle {s t : State} {conv : Conversation}
    (h : s.handle conv (s.handlers conv) = some t) : Moved s (.handle conv) t := by
  cases hhandler : s.handlers conv with
  | authenticating =>
    rw [hhandler] at h
    cases h
    unfold State.getOrCreateConversationsManager
    split
    · exact .getManager hhandler ‹_›
    · exact .createManager hhandler ‹_›
  | hasManager m =>
    rw [hhandler] at h
    obtain ⟨hlock, heq⟩ := Option.ite_none_right_eq_some.mp h
    cases heq
    exact .lock hhandler hlock
  | locked m =>
    rw [hhandler] at h
    cases h
    exact .respond hhandler
  | responded m =>
    rw [hhandler] at h
    cases h
    exact .insert hhandler
  | inserted m =>
    rw [hhandler] at h
    cases h
    exact .unlock hhandler
  | handling m =>
    rw [hhandler] at h
    obtain ⟨hlock, heq⟩ := Option.ite_none_right_eq_some.mp h
    cases heq
    exact .remove hhandler hlock
  | absent =>
    rw [hhandler] at h
    cases h
  | refused =>
    rw [hhandler] at h
    cases h
  | ended =>
    rw [hhandler] at h
    cases h

theorem moved_of_step {s t : State} {a : Action} (h : step s a = some t) : Moved s a t := by
  cases a with
  | serve a =>
    obtain ⟨serve, hserve, rfl⟩ := Option.map_eq_some_iff.mp h
    exact .serve (Serve.took_of_step hserve)
  | request conv =>
    obtain ⟨⟨hhandler, hrunning⟩, heq⟩ := Option.ite_none_right_eq_some.mp h
    cases heq
    exact .request hhandler hrunning
  | refuse conv =>
    obtain ⟨hhandler, heq⟩ := Option.ite_none_right_eq_some.mp h
    cases heq
    exact .refuse hhandler
  | handle conv => exact moved_of_handle h
  | acceptStream connection streamID recv =>
    obtain ⟨_, heq⟩ := Option.ite_none_right_eq_some.mp h
    cases heq
    exact .arrive nofun
  | receiveDatagram connection datagram =>
    obtain ⟨_, heq⟩ := Option.ite_none_right_eq_some.mp h
    split at heq
    · cases heq
      exact .arrive nofun
    · cases heq
      exact .skip nofun
  | advance i =>
    obtain ⟨task, htask, hnext⟩ := Option.bind_eq_some_iff.mp h
    exact .advance htask hnext

end Ssh3.Go.Conversations
