/-
  Ssh3.Go.Datagrams

  `receiveDatagrams` of `transport.go` and the goroutine that `EstablishClientConversation`
  starts: the loops in Go that hand the datagrams of a connection to their channels.

  As for the loops in Rust, each datagram comes with the conversations as they stand when it
  is handled, and what counts is what reaches a channel that is registered then.  The queues
  are those of `Ssh3.Go.Reordering`: `realises_addDatagram` says what a call of `AddDatagram`
  does to them.
-/

import Ssh3.Go.Reordering
import Ssh3.Go.WireSpec
import Ssh3.H3.Datagrams

namespace Ssh3.Go

open Fallible Ssh3.Core
open H3 (Lookup)

/-- `AddDatagram` without the queues: what is handed to a channel, or the id of the channel that
    is not found.  The payload is set aside for that id; see `Reordering.callAddDatagram`. -/
def addDatagram (conversation : Conversation) : GoReader (Except UInt64 Delivery) := do
  let channelID ← readVarInt .eof
  let payload ← get
  return if channelID ∈ conversation.channels then
    .ok { controlStreamId := conversation.controlStreamId, channelId := channelID, payload }
  else .error channelID

/-- One datagram, in either loop: those for unknown conversations and channels are no error. -/
def handleDatagram (lookup : Lookup) : GoReader (Option Delivery) := do
  let id ← readVarInt .eof
  match lookup.find id with
  | none => return none
  | some conversation => return (← addDatagram conversation).toOption

section

variable {κ : Type} (lookupOf : κ → Lookup)

/-- `receiveDatagrams` of the server, which goes on after every error -/
def receiveDatagrams : List (κ × List UInt8) → List (Option Delivery)
  | [] => []
  | (side, datagram) :: received =>
    match call (handleDatagram (lookupOf side)) datagram with
    | .error _ => []
    | .ok (.error _, _) => none :: receiveDatagrams received
    | .ok (.ok delivery, _) => delivery :: receiveDatagrams received

/-- The goroutine of the client, which returns at the first error -/
def receiveClientDatagrams : List (κ × List UInt8) → List (Option Delivery)
  | [] => []
  | (side, datagram) :: received =>
    match call (handleDatagram (lookupOf side)) datagram with
    | .error _ => []
    | .ok (.error _, _) => []
    | .ok (.ok delivery, _) => delivery :: receiveClientDatagrams received

end

/-! ## With the queues -/

/-- `addDatagram` on what starts with the id of a channel -/
theorem call_addDatagram {datagram payload : List UInt8} {c : UInt64}
    (h : call (readVarInt .eof) datagram = .ok (.ok c, payload)) (conversation : Conversation) :
    call (addDatagram conversation) datagram =
      .ok (.ok (if c ∈ conversation.channels then
        .ok ⟨conversation.controlStreamId, c, payload⟩ else .error c), payload) := by
  rw [addDatagram, call_bind_of_ok h, call_bind_of_ok (call_get payload)]
  rfl

namespace Reordering

/-- A call of `AddDatagram` in which nothing else happens, `none` as long as it waits for room in
    the queue of the channel -/
def callAddDatagram (s : State) (datagram : List UInt8) (consumerWaits : Bool) : Option State := do
  let s ← step s (.getChannel datagram)
  match s.dispatcher with
  -- it has returned the error of reading the id
  | .idle => return s
  | .found _ _ => step s (.waitAddDatagram consumerWaits)
  | .missing _ _ => step s (.addDanglingDatagramsQueue consumerWaits)

/-- A conversation with the channels that the manager holds, without their queues -/
def ChannelsManager.view (self : ChannelsManager) (conversation : Conversation) : Conversation :=
  { conversation with channels := self.channels.keys }

/-- What each result of `addDatagram` stands for: nothing happens, the payload is sent to the
    channel, or it is set aside for an id without a channel and no channel changes. -/
inductive Realises (self : ChannelsManager) (consumerWaits : Bool) :
    Except GoError (Except UInt64 Delivery) → Option ChannelsManager → Prop
  | error {err : GoError} : Realises self consumerWaits (.error err) (some self)
  | delivery {delivery : Delivery} {channel : Channel} :
      self.channels.lookup delivery.channelId = some channel →
      Realises self consumerWaits (.ok (.ok delivery))
        ((channel.send delivery.payload consumerWaits).map fun channel =>
          { self with channels := self.channels.insert delivery.channelId channel })
  | aside {id : UInt64} {payload : List UInt8} {manager : ChannelsManager} :
      manager = self.addDanglingDatagramsQueue id ⟨[payload], 10⟩ consumerWaits →
      manager.channels = self.channels →
      Realises self consumerWaits (.ok (.error id)) (some manager)

theorem channels_addDangling {m : ChannelsManager} {id : UInt64} (h : m.channels.lookup id = none)
    (queue : DatagramsQueue) (consumerWaits : Bool) :
    (m.addDanglingDatagramsQueue id queue consumerWaits).channels = m.channels := by
  unfold ChannelsManager.addDanglingDatagramsQueue
  rw [h]
  cases m.danglingDgramQueues.lookup id with
  | some existing => rfl
  | none =>
    simp only
    split_ifs <;> rfl

section

variable {s : State} (hidle : s.dispatcher = .idle) {datagram : List UInt8}

include hidle

theorem callAddDatagram_of_error {err : GoError} {rest : List UInt8}
    (hcall : call (readVarInt .eof) datagram = .ok (.error err, rest)) (consumerWaits : Bool) :
    callAddDatagram s datagram consumerWaits = some s := by
  simp only [callAddDatagram, step, hidle, hcall, Option.bind_eq_bind, Option.bind_some]
  rfl

theorem callAddDatagram_of_registered {c : UInt64} {payload : List UInt8} {channel : Channel}
    (hcall : call (readVarInt .eof) datagram = .ok (.ok c, payload))
    (hlookup : s.manager.channels.lookup c = some channel) (consumerWaits : Bool) :
    (callAddDatagram s datagram consumerWaits).map State.manager =
      (channel.send payload consumerWaits).map fun channel =>
        { s.manager with channels := s.manager.channels.insert c channel } := by
  have hmem : c ∈ s.manager.channels := AList.lookup_isSome.mp (by rw [hlookup]; rfl)
  simp only [callAddDatagram, step, hidle, hcall, if_pos hmem, Option.bind_eq_bind,
    Option.bind_some, hlookup]
  cases channel.send payload consumerWaits <;> rfl

theorem callAddDatagram_of_unregistered {c : UInt64} {payload : List UInt8}
    (hcall : call (readVarInt .eof) datagram = .ok (.ok c, payload))
    (hmem : c ∉ s.manager.channels) (consumerWaits : Bool) :
    (callAddDatagram s datagram consumerWaits).map State.manager =
      some (s.manager.addDanglingDatagramsQueue c ⟨[payload], 10⟩ consumerWaits) := by
  simp only [callAddDatagram, step, hidle, hcall, if_neg hmem, Option.bind_eq_bind,
    Option.bind_some, Option.map_some]
  rfl

/-- While the conversation goes on, a call that waits does not end in an error. -/
theorem waitCancelled_eq_none {t : State} (hopen : s.closed = false)
    (h : step s (.getChannel datagram) = some t) : step t .waitCancelled = none := by
  obtain ⟨-, rfl | ⟨c, payload, rfl⟩⟩ := step_getChannel h
  · simp only [step, hidle]
  · by_cases hmem : c ∈ s.manager.channels
    · simp only [step, if_pos hmem, hopen, Bool.false_eq_true, if_false]
    · simp only [step, if_neg hmem]

/-- **Refinement.**  A call of `AddDatagram` that nothing interrupts does with the queues what
    `addDatagram` says without them, from every state in which no other call is going on. -/
theorem realises_addDatagram (conversation : Conversation) (consumerWaits : Bool) :
    ∃ result rest, call (addDatagram (s.manager.view conversation)) datagram = .ok (result, rest) ∧
      Realises s.manager consumerWaits result
        ((callAddDatagram s datagram consumerWaits).map State.manager) := by
  have hsame := sameLanguage_readVarInt .eof (.io .unexpectedEof) (id : Proto.Error → _)
  rcases hread : Proto.readVarInt.run datagram with err | ⟨c, payload⟩
  · obtain ⟨err', left, hcall⟩ := hsame.of_error hread
    refine ⟨_, _, call_bind_of_error hcall, ?_⟩
    rw [callAddDatagram_of_error hidle hcall]
    exact .error
  · have hcall := hsame.of_ok hread
    refine ⟨_, _, call_addDatagram hcall _, ?_⟩
    cases hlookup : s.manager.channels.lookup c with
    | some channel =>
      have hview : c ∈ (s.manager.view conversation).channels :=
        AList.lookup_isSome.mp (by rw [hlookup]; rfl)
      rw [if_pos hview, callAddDatagram_of_registered hidle hcall hlookup]
      exact .delivery hlookup
    | none =>
      have hview : c ∉ (s.manager.view conversation).channels := AList.lookup_eq_none.mp hlookup
      rw [if_neg hview, callAddDatagram_of_unregistered hidle hcall hview]
      exact .aside rfl (channels_addDangling hlookup _ _)

end

end Reordering

end Ssh3.Go
