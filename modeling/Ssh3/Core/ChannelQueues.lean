/-
  Ssh3.Core.ChannelQueues

  `ssh3-core/src/conversation.rs`: a conversation with the queues of its channels and
  the queues it sets aside for channels that are not registered yet.

  `Ssh3.Core.Conversation` says to which channel a datagram is handed, and
  `Ssh3.Core.Reordering` what happens around the registration of one channel.  Here a
  call of `add_datagram` runs with nothing else going on, and the whole state after it
  is described.  A channel stands as its `datagrams_queue`.
-/

import Mathlib.Data.List.AList
import Ssh3.Core.Conversation
import Ssh3.Core.Reordering

namespace Ssh3.Core

open Proto
open Reordering (DANGLING_DATAGRAM_QUEUE_SIZE)

/-! ## Queues within their capacity -/

namespace DatagramQueue

def Fits (self : DatagramQueue) : Prop := self.items.length ≤ self.capacity

theorem fits_pushBack {self : DatagramQueue} (h : self.HasRoom) (datagram : Datagram) :
    (self.pushBack datagram).Fits := by
  unfold HasRoom at h
  simp only [Fits, pushBack, List.length_append, List.length_singleton]
  omega

theorem Fits.add {self : DatagramQueue} (h : self.Fits) (datagram : Datagram) :
    (self.add datagram).1.Fits := by
  by_cases hroom : self.HasRoom
  · rw [add_of_hasRoom hroom]
    exact fits_pushBack hroom datagram
  · rw [add_of_not_hasRoom hroom]
    exact h

theorem fits_of_waitAdd {self queue : DatagramQueue} {datagram : Datagram}
    (h : self.waitAdd datagram = some queue) : queue.Fits := by
  obtain ⟨hroom, rfl⟩ := waitAdd_eq_some.mp h
  exact fits_pushBack hroom datagram

theorem Fits.next {self queue : DatagramQueue} {datagram : Datagram} (h : self.Fits)
    (hnext : self.next = some (datagram, queue)) : queue.Fits := by
  obtain ⟨hitems, hcapacity⟩ := next_eq_some.mp hnext
  unfold Fits at h ⊢
  rw [hitems, List.length_cons] at h
  omega

end DatagramQueue

/-- A queue as its operations leave it: it is created empty and never filled beyond its
    capacity. -/
structure BoundedQueue where
  queue : DatagramQueue
  fits : queue.Fits

namespace BoundedQueue

def new (capacity : Nat) : BoundedQueue := ⟨DatagramQueue.new capacity, Nat.zero_le _⟩

def add (self : BoundedQueue) (datagram : Datagram) : BoundedQueue :=
  ⟨(self.queue.add datagram).1, self.fits.add datagram⟩

def waitAdd (self : BoundedQueue) (datagram : Datagram) : Option BoundedQueue :=
  match h : self.queue.waitAdd datagram with
  | none => none
  | some queue => some ⟨queue, DatagramQueue.fits_of_waitAdd h⟩

def next (self : BoundedQueue) : Option (Datagram × BoundedQueue) :=
  match h : self.queue.next with
  | none => none
  | some (datagram, queue) => some (datagram, ⟨queue, self.fits.next h⟩)

variable {self queue : BoundedQueue} {datagram : Datagram}

theorem waitAdd_eq_some :
    self.waitAdd datagram = some queue ↔
      self.queue.HasRoom ∧ queue.queue = self.queue.pushBack datagram := by
  rw [← DatagramQueue.waitAdd_eq_some, waitAdd]
  split
  next h => simp [h]
  next added h =>
    obtain ⟨queue, hfits⟩ := queue
    simp [h]

theorem waitAdd_eq_none : self.waitAdd datagram = none ↔ ¬self.queue.HasRoom := by
  have hqueue : self.queue.waitAdd datagram = none ↔ ¬self.queue.HasRoom :=
    DatagramQueue.waitAdd_eq_none
  rw [← hqueue, waitAdd]
  split
  next h => simp [h]
  next added h => simp [h]

theorem next_eq_some :
    self.next = some (datagram, queue) ↔
      self.queue.items = datagram :: queue.queue.items ∧
        queue.queue.capacity = self.queue.capacity := by
  rw [← DatagramQueue.next_eq_some, next]
  split
  next h => simp [h]
  next first rest h =>
    obtain ⟨queue, hfits⟩ := queue
    simp [h]

theorem next_eq_none : self.next = none ↔ self.queue.items = [] := by
  obtain ⟨⟨items, capacity⟩, hfits⟩ := self
  cases items with
  | nil => exact ⟨fun _ => rfl, fun _ => rfl⟩
  | cons d items => exact ⟨nofun, nofun⟩

end BoundedQueue

/-! ## A conversation and its queues -/

/-- A conversation with the queues of its channels -/
structure LiveConversation where
  controlStreamId : UInt64
  conversationId : ConversationId
  defaultDatagramsQueueSize : Nat
  channels : AList fun _ : UInt64 => BoundedQueue
  danglingDatagramQueues : AList fun _ : UInt64 => BoundedQueue

namespace LiveConversation

def getChannel (self : LiveConversation) (channelId : UInt64) : Option BoundedQueue :=
  self.channels.lookup channelId

/-- The channel's queue changes; its place in the map does not. -/
def setQueue (self : LiveConversation) (channelId : UInt64) (queue : BoundedQueue) :
    LiveConversation :=
  { self with channels := self.channels.insert channelId queue }

def addDanglingDatagramsQueue (self : LiveConversation) (channelId : UInt64)
    (queue : BoundedQueue) : LiveConversation :=
  match self.getChannel channelId with
  | some existing => self.setQueue channelId (queue.queue.items.foldl BoundedQueue.add existing)
  | none =>
    { self with danglingDatagramQueues := self.danglingDatagramQueues.insert channelId queue }

/-- `none` while the call waits for room in the queue. -/
def addDatagram (self : LiveConversation) (datagram : List UInt8) :
    Option (Except ConversationError Unit × LiveConversation) :=
  match readVarInt.run datagram with
  | .error err => some (.error (.proto err), self)
  | .ok (channelId, payload) =>
    match self.getChannel channelId with
    | some queue => do
      let queue ← queue.waitAdd payload
      return (.ok (), self.setQueue channelId queue)
    | none =>
      let queue := (BoundedQueue.new DANGLING_DATAGRAM_QUEUE_SIZE).add payload
      some (.error (.channelNotFound channelId), self.addDanglingDatagramsQueue channelId queue)

/-- The conversation without its queues. -/
def view (self : LiveConversation) : Conversation where
  controlStreamId := self.controlStreamId
  conversationId := self.conversationId
  defaultDatagramsQueueSize := self.defaultDatagramsQueueSize
  channels := self.channels.keys

theorem getChannel_setQueue (self : LiveConversation) (channelId : UInt64)
    (queue : BoundedQueue) (id : UInt64) :
    (self.setQueue channelId queue).getChannel id =
      if id = channelId then some queue else self.getChannel id := by
  by_cases h : id = channelId
  · subst h
    rw [if_pos rfl]
    exact AList.lookup_insert _
  · rw [if_neg h]
    exact AList.lookup_insert_ne h

theorem mem_view_channels {self : LiveConversation} {channelId : UInt64} :
    channelId ∈ self.view.channels ↔ ∃ queue, self.getChannel channelId = some queue := by
  rw [← Option.isSome_iff_exists]
  exact AList.lookup_isSome.symm

section AddDatagram

variable {self : LiveConversation} {datagram payload : List UInt8} {channelId : UInt64}

theorem addDatagram_of_error {err : Error} (h : readVarInt.run datagram = .error err) :
    self.addDatagram datagram = some (.error (.proto err), self) := by
  rw [addDatagram, h]

theorem addDatagram_of_registered {queue : BoundedQueue}
    (h : readVarInt.run datagram = .ok (channelId, payload))
    (hqueue : self.getChannel channelId = some queue) :
    self.addDatagram datagram =
      (queue.waitAdd payload).map fun queue => (.ok (), self.setQueue channelId queue) := by
  rw [addDatagram, h]
  simp only [hqueue]
  cases queue.waitAdd payload with
  | none => rfl
  | some added => rfl

theorem addDatagram_of_unregistered (h : readVarInt.run datagram = .ok (channelId, payload))
    (hnone : self.getChannel channelId = none) :
    self.addDatagram datagram = some (.error (.channelNotFound channelId),
      { self with
        danglingDatagramQueues := self.danglingDatagramQueues.insert channelId
          ((BoundedQueue.new DANGLING_DATAGRAM_QUEUE_SIZE).add payload) }) := by
  rw [addDatagram, h]
  simp only [hnone, addDanglingDatagramsQueue]

end AddDatagram

end LiveConversation

end Ssh3.Core
