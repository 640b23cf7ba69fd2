/-
  Ssh3.Server.TcpForwarding

  `ssh3-server/src/lib.rs`: `handle_tcp_forwarding` with its two tasks, from the moment the
  target is connected.

  The channel is shared: the two tasks and the function that awaits them have an `Arc` of it,
  and so has the map of the conversation, which never gives one up.  The send stream is
  closed by `Channel::close`, which is not called here, or when the last `Arc` is dropped.
  So the end of the target's stream ends the task that reads it and nothing else.
-/

import Ssh3.Core.WriteDataSpec
import Ssh3.Lib.Transition
import Ssh3.Server.ReadBuffers

namespace Ssh3.Server.TcpForwarding

open Proto Fallible Transition StreamCodec
open Ssh3.Core (Endpoint ChannelError overhead writeData writeData_frames writeData_succeeds
  readAll_dataMessages freshEndpoint)

/-- The errors of the two tasks -/
inductive TaskError where
  | channel (err : ChannelError)
  | io (err : IoError)
  deriving DecidableEq, Repr

/-- A spawned task. -/
inductive Task where
  | running
  | returned (result : Except TaskError Unit)
  | panicked (panic : Panic)

def Task.isRunning : Task → Bool
  | .running => true
  | .returned _ | .panicked _ => false

/-- Where `handle_tcp_forwarding` is. -/
inductive Handler where
  /-- In `to_socket.await` -/
  | toSocket
  /-- In `from_socket.await` -/
  | fromSocket
  | returned
  deriving DecidableEq, Repr

/-- The channel, the socket and the tasks between them -/
structure State where
  endpoint : Endpoint
  /-- What the target has sent and the server has not read; then the target's stream ends -/
  unread : List UInt8
  /-- What has been written to the target -/
  written : List UInt8
  toSocket : Task
  fromSocket : Task
  handler : Handler
  connected : Bool
  /-- `handle_conversation` is in its loop -/
  conversation : Bool
  /-- The send stream of the channel is finished -/
  sendClosed : Bool

/-- An accepted channel, which is in the map, and a target that sends `bytes` and then ends its
    stream. -/
def start (accepted : Endpoint) (bytes : List UInt8) : State where
  endpoint := accepted
  unread := bytes
  written := []
  toSocket := .running
  fromSocket := .running
  handler := .toSocket
  connected := true
  conversation := true
  sendClosed := false

/-! ## References to the channel -/

/-- The conversation is kept by its loop and by the function that serves the channel. -/
def State.conversationAlive (s : State) : Bool :=
  s.conversation || s.handler != .returned

/-- The number of `Arc`s of the channel. -/
def State.references (s : State) : Nat :=
  s.toSocket.isRunning.toNat + s.fromSocket.isRunning.toNat + (s.handler != .returned).toNat +
    s.conversationAlive.toNat

/-- Dropping the last `Arc` drops the send stream, and `quinn` finishes it. -/
def State.dropUnreferenced (s : State) : State :=
  { s with sendClosed := s.sendClosed || s.references == 0 }

/-! ## The steps -/

/-- What `channel.next_message` of `to_socket` returns, with the result of writing to the target
    where that is what follows. -/
inductive ClientEvent where
  | message (message : Message) (written : Except IoError Unit)
  | failed (err : ChannelError)

/-- What a task, the handler or the client does -/
inductive Action where
  | toSocket (event : ClientEvent)
  /-- `reader.read` returns: `n + 1` bytes, if there are so many and the buffer holds them. -/
  | fromSocket (n : Nat)
  /-- What the handler awaits has ended. -/
  | handler
  | disconnect
  /-- A task sees that the connection is closed. -/
  | toSocketClosed
  | fromSocketClosed
  /-- `handle_conversation` leaves its loop: the connection is closed, or a channel could not be
      accepted. -/
  | leaveConversation

/-- Data of type 0 is passed on, everything else is ignored. -/
def State.relayMessage (s : State) : ClientEvent → State
  | .failed err => { s with toSocket := .returned (.error (.channel err)) }
  | .message (.data data) written =>
    if data.dataType = SSH_EXTENDED_DATA_NONE then
      match written with
      | .ok () => { s with written := s.written ++ data.data }
      | .error err => { s with toSocket := .returned (.error (.io err)) }
    else s
  | .message _ _ => s

/-- The number of bytes that a read returns, if there are so many. -/
def State.readLen (s : State) (n : Nat) : Nat :=
  min (n + 1) (readBufferLen s.endpoint.channel.info.maxPacketSize)

def State.relayBytes (s : State) (n : Nat) : State :=
  match s.unread with
  | [] => { s with fromSocket := .returned (.ok ()) }
  | b :: unread =>
    match call (writeData ((b :: unread).take (s.readLen n)) SSH_EXTENDED_DATA_NONE)
        s.endpoint with
    | .error panic =>
      { s with unread := (b :: unread).drop (s.readLen n), fromSocket := .panicked panic }
    | .ok (.error err, endpoint) =>
      { s with
        endpoint
        unread := (b :: unread).drop (s.readLen n)
        fromSocket := .returned (.error (.channel err)) }
    | .ok (.ok _, endpoint) =>
      { s with endpoint, unread := (b :: unread).drop (s.readLen n) }

def State.awaitNext (s : State) : Option State :=
  match s.handler with
  | .toSocket => if s.toSocket.isRunning then none else some { s with handler := .fromSocket }
  | .fromSocket => if s.fromSocket.isRunning then none else some { s with handler := .returned }
  | .returned => none

def State.act (s : State) : Action → Option State
  | .toSocket event => if s.toSocket.isRunning then some (s.relayMessage event) else none
  | .fromSocket n => if s.fromSocket.isRunning then some (s.relayBytes n) else none
  | .handler => s.awaitNext
  | .disconnect => some { s with connected := false }
  | .toSocketClosed =>
    if s.toSocket.isRunning && !s.connected then some { s with toSocket := .returned (.ok ()) }
    else none
  | .fromSocketClosed =>
    if s.fromSocket.isRunning && !s.connected then
      some { s with fromSocket := .returned (.ok ()) }
    else none
  | .leaveConversation => some { s with conversation := false }

/-- A task, the handler or the client goes on. -/
def step (s : State) (a : Action) : Option State := (s.act a).map State.dropUnreferenced

/-- The conversation and the connection go on. -/
def goesOn (_ : State) : Action → Prop
  | .disconnect | .leaveConversation => False
  | .toSocket _ | .fromSocket _ | .handler | .toSocketClosed | .fromSocketClosed => True

/-! ## The send stream -/

section SendStream

variable {s t : State} {a : Action}

/-- What no task does: finish the stream itself, or drop the conversation. -/
structure Kept (s t : State) : Prop where
  sendClosed : t.sendClosed = s.sendClosed
  conversation : t.conversation = s.conversation

theorem kept_relayMessage (s : State) (event : ClientEvent) : Kept s (s.relayMessage event) := by
  unfold State.relayMessage
  split
  · exact ⟨rfl, rfl⟩
  · split
    · split
      · exact ⟨rfl, rfl⟩
      · exact ⟨rfl, rfl⟩
    · exact ⟨rfl, rfl⟩
  · exact ⟨rfl, rfl⟩

theorem kept_relayBytes (s : State) (n : Nat) : Kept s (s.relayBytes n) := by
  unfold State.relayBytes
  split
  · exact ⟨rfl, rfl⟩
  · -- whatever `write_data` returns
    split
    · exact ⟨rfl, rfl⟩
    · exact ⟨rfl, rfl⟩
    · exact ⟨rfl, rfl⟩

theorem kept_awaitNext (h : s.awaitNext = some t) : Kept s t := by
  unfold State.awaitNext at h
  split at h
  · obtain ⟨-, ht⟩ := Option.ite_none_left_eq_some.mp h
    cases ht
    exact ⟨rfl, rfl⟩
  · obtain ⟨-, ht⟩ := Option.ite_none_left_eq_some.mp h
    cases ht
    exact ⟨rfl, rfl⟩
  · cases h

theorem kept_act (h : s.act a = some t) (hguard : goesOn s a) : Kept s t := by
  cases a with
  | toSocket event =>
    obtain ⟨-, ht⟩ := Option.ite_none_right_eq_some.mp h
    cases ht
    exact kept_relayMessage s event
  | fromSocket n =>
    obtain ⟨-, ht⟩ := Option.ite_none_right_eq_some.mp h
    cases ht
    exact kept_relayBytes s n
  | handler => exact kept_awaitNext h
  | disconnect | leaveConversation => exact hguard.elim
  | toSocketClosed | fromSocketClosed =>
    obtain ⟨-, ht⟩ := Option.ite_none_right_eq_some.mp h
    cases ht
    exact ⟨rfl, rfl⟩

/-- The reference in the map is enough to keep the stream. -/
theorem references_pos (h : s.conversation = true) : 0 < s.references := by
  have halive : s.conversationAlive = true := by
    rw [State.conversationAlive, h, Bool.true_or]
  rw [State.references, halive, Bool.toNat_true]
  omega

/-- The map still has the channel, and its send stream is open. -/
structure Open (s : State) : Prop where
  conversation : s.conversation = true
  sendClosed : s.sendClosed = false

theorem Open.next (h : Open s) (hguard : goesOn s a) (hstep : step s a = some t) : Open t := by
  obtain ⟨u, hact, rfl⟩ := Option.map_eq_some_iff.mp hstep
  have hkept := kept_act hact hguard
  have hconversation : u.conversation = true := hkept.conversation.trans h.conversation
  have hreferenced : (u.references == 0) = false :=
    beq_false_of_ne (Nat.pos_iff_ne_zero.mp (references_pos hconversation))
  refine ⟨hconversation, ?_⟩
  show (u.sendClosed || u.references == 0) = false
  rw [hkept.sendClosed, h.sendClosed, hreferenced]
  rfl

theorem Open.run {as : List Action} (h : Open s) (hrun : Run step goesOn s as t) : Open t :=
  hrun.invariant (fun _ _ _ hopen hguard hstep => hopen.next hguard hstep) h

end SendStream

/-! ## The data -/

section Data

variable {accepted : Endpoint} {bytes : List UInt8} {s t : State} {a : Action}

/-- The data messages of type 0 with the given payloads, as bytes. -/
def dataWire (payloads : List (List UInt8)) : List UInt8 :=
  (payloads.map fun data => Message.data { dataType := SSH_EXTENDED_DATA_NONE, data }).flatMap
    Message.wire

/-- A channel as it is after `accept_channel`: it has no header to send, there is room for a
    message in a packet, and the stream takes what is written. -/
structure Accepted (accepted : Endpoint) : Prop where
  header : accepted.channel.header = none
  outcomes : accepted.outcomes = []
  limit : accepted.channel.info.maxPacketSize ≤ MAX_SSH_STRING_LEN
  room : overhead SSH_EXTENDED_DATA_NONE ≤ accepted.channel.info.maxPacketSize.toNat

/-- What the server has read of the target's bytes is on the stream. -/
structure Relayed (accepted : Endpoint) (bytes : List UInt8) (s : State) : Prop where
  channel : Accepted s.endpoint
  data : ∃ payloads : List (List UInt8),
    (∀ data ∈ payloads, data ≠ [] ∧ SshBytesOk data) ∧
      s.endpoint.bytes = accepted.bytes ++ dataWire payloads ∧ payloads.flatten ++ s.unread = bytes
  connected : s.connected = true
  ended : s.fromSocket.isRunning = false → s.unread = []

/-- The task that reads from the target is where it was. -/
structure SameSource (s t : State) : Prop where
  endpoint : t.endpoint = s.endpoint
  unread : t.unread = s.unread
  fromSocket : t.fromSocket = s.fromSocket
  connected : t.connected = s.connected

theorem sameSource_relayMessage (s : State) (event : ClientEvent) :
    SameSource s (s.relayMessage event) := by
  unfold State.relayMessage
  split
  · exact ⟨rfl, rfl, rfl, rfl⟩
  · split
    · split
      · exact ⟨rfl, rfl, rfl, rfl⟩
      · exact ⟨rfl, rfl, rfl, rfl⟩
    · exact ⟨rfl, rfl, rfl, rfl⟩
  · exact ⟨rfl, rfl, rfl, rfl⟩

theorem sameSource_awaitNext (h : s.awaitNext = some t) : SameSource s t := by
  unfold State.awaitNext at h
  split at h
  · obtain ⟨-, ht⟩ := Option.ite_none_left_eq_some.mp h
    cases ht
    exact ⟨rfl, rfl, rfl, rfl⟩
  · obtain ⟨-, ht⟩ := Option.ite_none_left_eq_some.mp h
    cases ht
    exact ⟨rfl, rfl, rfl, rfl⟩
  · cases h

theorem Relayed.frame (h : Relayed accepted bytes s) (hsame : SameSource s t) :
    Relayed accepted bytes t := by
  obtain ⟨hendpoint, hunread, hfrom, hconnected⟩ := hsame
  refine ⟨?_, ?_, ?_, ?_⟩
  · rw [hendpoint]
    exact h.channel
  · rw [hendpoint, hunread]
    exact h.data
  · rw [hconnected]
    exact h.connected
  · rw [hfrom, hunread]
    exact h.ended

theorem Relayed.start (h : Accepted accepted) (bytes : List UInt8) :
    Relayed accepted bytes (start accepted bytes) where
  channel := h
  data := ⟨[], List.forall_mem_nil _, (List.append_nil _).symm, rfl⟩
  connected := rfl
  ended := fun hended => Bool.noConfusion hended

theorem dataWire_append (payloads more : List (List UInt8)) :
    dataWire (payloads ++ more) = dataWire payloads ++ dataWire more := by
  rw [dataWire, List.map_append, List.flatMap_append]
  rfl

theorem Relayed.relayBytes (h : Relayed accepted bytes s)
    (hrunning : s.fromSocket.isRunning = true) (n : Nat) :
    Relayed accepted bytes (s.relayBytes n) := by
  obtain ⟨hheader, houtcomes, hlimit, hroom⟩ := h.channel
  obtain ⟨payloads, hpayloads, hbytes, hunread⟩ := h.data
  unfold State.relayBytes
  split
  next hnil => exact ⟨h.channel, h.data, h.connected, fun _ => hnil⟩
  next b unread hcons =>
    have htype : SSH_EXTENDED_DATA_NONE ≤ MAX_VARINT := by decide
    obtain ⟨m, t, hcall, hopen⟩ := writeData_succeeds hheader houtcomes hlimit hroom htype
      ((b :: unread).take (s.readLen n))
    obtain ⟨more, outcomes, hmore, hflatten, -, rfl⟩ := writeData_frames hlimit htype hcall
    rw [hcall]
    refine ⟨⟨rfl, hopen, hlimit, hroom⟩, ⟨payloads ++ more, ?_, ?_, ?_⟩, h.connected, ?_⟩
    · intro data hdata
      rcases List.mem_append.mp hdata with hold | hnew
      · exact hpayloads data hold
      · exact hmore data hnew
    · show (s.endpoint.writes ++ s.endpoint.channel.header.toList ++ _).flatten = _
      rw [hheader, Option.toList_none, List.append_nil, List.flatten_append, dataWire_append,
        ← List.append_assoc, ← hbytes, dataWire, List.flatMap_def]
      rfl
    · rw [List.flatten_append, List.append_assoc, hflatten, List.take_append_drop, ← hcons, hunread]
    · -- the task goes on
      intro hended
      exact Bool.noConfusion (hrunning.symm.trans hended)

theorem Relayed.next (h : Relayed accepted bytes s) (hguard : goesOn s a)
    (hstep : step s a = some t) : Relayed accepted bytes t := by
  obtain ⟨u, hact, rfl⟩ := Option.map_eq_some_iff.mp hstep
  have hu : Relayed accepted bytes u := by
    cases a with
    | toSocket event =>
      obtain ⟨-, ht⟩ := Option.ite_none_right_eq_some.mp hact
      cases ht
      exact h.frame (sameSource_relayMessage s event)
    | fromSocket n =>
      obtain ⟨hrunning, ht⟩ := Option.ite_none_right_eq_some.mp hact
      cases ht
      exact h.relayBytes hrunning n
    | handler => exact h.frame (sameSource_awaitNext hact)
    | disconnect | leaveConversation => exact hguard.elim
    | toSocketClosed | fromSocketClosed =>
      -- no task sees a connection closed that is not
      obtain ⟨hclosed, -⟩ := Option.ite_none_right_eq_some.mp hact
      rw [h.connected, Bool.not_true, Bool.and_false] at hclosed
      cases hclosed
  exact hu.frame ⟨rfl, rfl, rfl, rfl⟩

theorem Relayed.run {as : List Action} (h : Relayed accepted bytes s)
    (hrun : Run step goesOn s as t) : Relayed accepted bytes t :=
  hrun.invariant (fun _ _ _ hrelayed hguard hstep => hrelayed.next hguard hstep) h

end Data

/-! ## The end of the stream -/

/-- Behind what was there when the channel was accepted, the stream carries data messages of
    type 0 with these bytes. -/
def Carries (accepted : Endpoint) (bytes : List UInt8) (s : State) : Prop :=
  ∃ (new : List UInt8) (payloads : List (List UInt8)), s.endpoint.bytes = accepted.bytes ++ new ∧
    readAll Message.parse new =
      .ok (payloads.map fun data => .data { dataType := SSH_EXTENDED_DATA_NONE, data }) ∧
    payloads.flatten = bytes

theorem Relayed.carries {accepted : Endpoint} {bytes : List UInt8} {s : State}
    (h : Relayed accepted bytes s) :
    ∃ sent, Carries accepted sent s ∧ sent ++ s.unread = bytes := by
  obtain ⟨payloads, hpayloads, hbytes, hunread⟩ := h.data
  exact ⟨payloads.flatten, ⟨dataWire payloads, payloads, hbytes,
    readAll_dataMessages (by decide) hpayloads, rfl⟩, hunread⟩

theorem Relayed.carries_of_ended {accepted : Endpoint} {bytes : List UInt8} {s : State}
    (h : Relayed accepted bytes s) (hended : s.fromSocket.isRunning = false) :
    Carries accepted bytes s := by
  obtain ⟨sent, hcarries, hunread⟩ := h.carries
  rw [h.ended hended, List.append_nil] at hunread
  exact hunread ▸ hcarries

/-- **The target's data is relayed.**  In every state that the two tasks and the client can lead
    to, the stream carries the data of the target as far as it was read, in order; and the task
    that reads it has not ended before all of it was. -/
theorem target_data_relayed {accepted : Endpoint} (h : Accepted accepted) (bytes : List UInt8)
    {as : List Action} {t : State} (hrun : Run step goesOn (start accepted bytes) as t) :
    (∃ sent, Carries accepted sent t ∧ sent ++ t.unread = bytes) ∧
      (t.fromSocket.isRunning = false → Carries accepted bytes t) := by
  have hrelayed := (Relayed.start h bytes).run hrun
  exact ⟨hrelayed.carries, hrelayed.carries_of_ended⟩

/-- A target that has sent three bytes, of which two have been read -/
theorem target_data_relayed_two :
    ∃ t, Run step goesOn (start (freshEndpoint 64) [1, 2, 3]) [.fromSocket 1] t ∧
      t.unread = [3] ∧
      ∃ sent, Carries (freshEndpoint 64) sent t ∧ sent ++ t.unread = [1, 2, 3] := by
  have haccepted : Accepted (freshEndpoint 64) := ⟨rfl, rfl, by decide, by decide⟩
  have hrun : Run step goesOn (start (freshEndpoint 64) [1, 2, 3]) [.fromSocket 1] _ :=
    .cons trivial rfl (.nil _)
  exact ⟨_, hrun, rfl, (target_data_relayed haccepted [1, 2, 3] hrun).1⟩

/-- While the conversation goes on, the server can always still get to the point where the
    stream is finished behind the data.  This is less than that it eventually does. -/
def RelaysEndOfStream (accepted : Endpoint) (bytes : List UInt8) : Prop :=
  ∀ as t, Run step goesOn (start accepted bytes) as t →
    ∃ bs u, Run step goesOn t bs u ∧ u.sendClosed = true ∧ Carries accepted bytes u

/-- **The end of the target's stream is not relayed.**  Whatever the target sends and whatever
    the client does, the send stream of the channel stays open as long as the conversation goes
    on. -/
theorem endOfStream_never_relayed (accepted : Endpoint) (bytes : List UInt8) :
    (∀ as t, Run step goesOn (start accepted bytes) as t → t.sendClosed = false) ∧
      ¬RelaysEndOfStream accepted bytes := by
  have hopen : ∀ as t, Run step goesOn (start accepted bytes) as t → t.sendClosed = false :=
    fun as t hrun => (Open.run ⟨rfl, rfl⟩ hrun).sendClosed
  refine ⟨hopen, fun hrelays => ?_⟩
  obtain ⟨bs, u, hrun, hclosed, -⟩ := hrelays [] _ (.nil _)
  rw [hopen bs u hrun] at hclosed
  cases hclosed

/-- The target sends three bytes and ends its stream.  All of it has been read, the data is on
    the stream, and the server waits for the client, with the send stream open. -/
theorem three_bytes_without_end :
    ∃ t, Run step goesOn (start (freshEndpoint 64) [1, 2, 3]) [.fromSocket 9, .fromSocket 0] t ∧
      t.endpoint.bytes = [0x40, 94, 3, 1, 2, 3] ∧ t.unread = [] ∧
      t.fromSocket.isRunning = false ∧ t.sendClosed = false ∧
      step t .handler = none ∧ (∀ n, step t (.fromSocket n) = none) ∧
      step t .toSocketClosed = none ∧ step t .fromSocketClosed = none :=
  ⟨_, .cons trivial rfl (.cons trivial rfl (.nil _)), rfl, rfl, rfl, rfl, rfl, fun _ => rfl, rfl,
    rfl⟩

end Ssh3.Server.TcpForwarding
