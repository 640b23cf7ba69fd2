/-
  Ssh3.Core.Reordering

  `ssh3-core/src/conversation.rs`: datagrams that arrive around the registration
  of their channel.

  One dispatcher calls `Conversation::add_datagram` for one channel id while
  `ChannelsManager::add_channel` registers the channel.  The two maps of the
  manager are only accessed at that id, so each stands here as its entry for it.
  Queues are shared by reference (`Arc`): a queue is its index in the list of
  all queues created, and index 0 is the queue the channel is created with.

  An action is what a task does in one critical section.  `expected` is
  bookkeeping: the datagrams in the order of their arrival, without those that
  met a full queue.
-/

import Ssh3.Core.Queue
import Ssh3.Lib.Transition

namespace Ssh3.Core.Reordering

open Transition

def DANGLING_DATAGRAM_QUEUE_SIZE : Nat := 10

/-- The index of a queue: an `Arc` of it -/
abbrev QueueRef := Nat

/-- Where the dispatcher is in its call of `add_datagram`. -/
inductive Dispatcher where
  | idle
  /-- `get_channel` returned the channel. -/
  | foundChannel (datagram : Datagram)
  /-- In `wait_add`, on the queue that `wait_add_datagram` cloned -/
  | waiting (datagram : Datagram) (queue : QueueRef)
  /-- `get_channel` returned nothing. -/
  | foundNone (datagram : Datagram)
  /-- `add_dangling_datagrams_queue` found the channel after all. -/
  | offering (datagram : Datagram)
  deriving DecidableEq, Repr

/-- Where the registering task is in its call of `add_channel`. -/
inductive Registration where
  | notStarted
  /-- After the critical section, with the pending queue it took out of the map -/
  | inserted (pending : QueueRef)
  | done
  deriving DecidableEq, Repr

/-- One channel, and the tasks that register it and hand datagrams to it -/
structure State where
  queues : List DatagramQueue
  /-- The channel is in the map of channels. -/
  registered : Bool
  /-- The entry in the map of dangling queues -/
  dangling : Option QueueRef
  /-- The channel's `datagrams_queue` -/
  current : QueueRef
  dispatcher : Dispatcher
  registration : Registration
  /-- What the channel's consumer has read so far -/
  received : List Datagram
  expected : List Datagram
  deriving DecidableEq, Repr

def init (datagramsQueueSize : Nat) : State where
  queues := [DatagramQueue.new datagramsQueueSize]
  registered := false
  dangling := none
  current := 0
  dispatcher := .idle
  registration := .notStarted
  received := []
  expected := []

def State.queue (s : State) (ref : QueueRef) : DatagramQueue :=
  s.queues.getD ref (DatagramQueue.new 0)

def State.setQueue (s : State) (ref : QueueRef) (queue : DatagramQueue) : State :=
  { s with queues := s.queues.set ref queue }

/-- What a task does under one lock -/
inductive Action where
  /-- A datagram arrives and the dispatcher looks its channel up. -/
  | getChannel (datagram : Datagram)
  /-- `wait_add_datagram` clones the channel's queue. -/
  | cloneQueue
  /-- The push that ends `wait_add` -/
  | waitAdd
  /-- The critical section of `add_dangling_datagrams_queue` -/
  | addDangling
  /-- `channel.add_datagram` for the datagram of a queue that was not needed -/
  | offer
  /-- The critical section of `add_channel` -/
  | addChannel
  /-- The `set_datagram_queue` at the end of `add_channel` -/
  | setDatagramQueue
  /-- The consumer reads; it is handed the channel once it is registered. -/
  | receive
  deriving DecidableEq, Repr

/-- One task goes on. -/
def step (s : State) : Action → Option State
  | .getChannel datagram =>
    match s.dispatcher with
    | .idle =>
      -- `get_channel`, in its own critical section
      let found := if s.registered then .foundChannel datagram else .foundNone datagram
      some { s with dispatcher := found, expected := s.expected ++ [datagram] }
    | _ => none
  | .cloneQueue =>
    match s.dispatcher with
    | .foundChannel datagram => some { s with dispatcher := .waiting datagram s.current }
    | _ => none
  | .waitAdd =>
    match s.dispatcher with
    | .waiting datagram ref => do
      -- no step while the queue is full: `wait_add` waits
      let queue ← (s.queue ref).waitAdd datagram
      return { s.setQueue ref queue with dispatcher := .idle }
    | _ => none
  | .addDangling =>
    match s.dispatcher with
    | .foundNone datagram =>
      if s.registered then
        -- the queue is handed back, and its datagram offered to the channel
        some { s with dispatcher := .offering datagram }
      else
        -- a new queue with this datagram becomes the map's entry, whatever was there
        let queue := ((DatagramQueue.new DANGLING_DATAGRAM_QUEUE_SIZE).add datagram).1
        some { s with
          queues := s.queues ++ [queue], dangling := some s.queues.length, dispatcher := .idle }
    | _ => none
  | .offer =>
    match s.dispatcher with
    | .offering datagram =>
      match (s.queue s.current).add datagram with
      | (queue, true) => some { s.setQueue s.current queue with dispatcher := .idle }
      | (_, false) => some { s with dispatcher := .idle, expected := s.expected.dropLast }
    | _ => none
  | .addChannel =>
    match s.registration with
    | .notStarted =>
      -- the critical section also takes the dangling queue out of its map
      let registration := match s.dangling with
        | some pending => .inserted pending
        | none => .done
      some { s with registered := true, dangling := none, registration }
    | _ => none
  | .setDatagramQueue =>
    match s.registration with
    | .inserted pending => some { s with current := pending, registration := .done }
    | _ => none
  | .receive =>
    match s.registration with
    | .done => do
      let (datagram, queue) ← (s.queue s.current).next
      return { s.setQueue s.current queue with received := s.received ++ [datagram] }
    | _ => none

theorem State.queue_setQueue (s : State) {ref : QueueRef} (h : ref < s.queues.length)
    (queue : DatagramQueue) : (s.setQueue ref queue).queue ref = queue := by
  simp [State.queue, State.setQueue, h]

theorem State.length_setQueue (s : State) (ref : QueueRef) (queue : DatagramQueue) :
    (s.setQueue ref queue).queues.length = s.queues.length := by
  simp [State.setQueue]

/-! ## What each action does -/

section Step

variable {s t : State}

theorem step_getChannel {d : Datagram} :
    step s (.getChannel d) = some t ↔ s.dispatcher = .idle ∧
      { s with
        dispatcher := if s.registered then .foundChannel d else .foundNone d
        expected := s.expected ++ [d] } = t := by
  cases hd : s.dispatcher <;> simp [step, hd]

theorem step_cloneQueue :
    step s .cloneQueue = some t ↔ ∃ d, s.dispatcher = .foundChannel d ∧
      { s with dispatcher := .waiting d s.current } = t := by
  cases hd : s.dispatcher <;> simp [step, hd]

theorem step_waitAdd :
    step s .waitAdd = some t ↔ ∃ d ref, s.dispatcher = .waiting d ref ∧ (s.queue ref).HasRoom ∧
      { s.setQueue ref ((s.queue ref).pushBack d) with dispatcher := .idle } = t := by
  cases hd : s.dispatcher <;>
    simp [step, hd, Option.bind_eq_some_iff, DatagramQueue.waitAdd_eq_some, and_assoc]

theorem step_addDangling :
    step s .addDangling = some t ↔ ∃ d, s.dispatcher = .foundNone d ∧
      ((s.registered = true ∧ { s with dispatcher := .offering d } = t) ∨
       (s.registered = false ∧ { s with
          queues := s.queues ++ [⟨[d], DANGLING_DATAGRAM_QUEUE_SIZE⟩]
          dangling := some s.queues.length
          dispatcher := .idle } = t)) := by
  have hadd : ∀ d, ((DatagramQueue.new DANGLING_DATAGRAM_QUEUE_SIZE).add d).1 =
      ⟨[d], DANGLING_DATAGRAM_QUEUE_SIZE⟩ := fun _ => rfl
  cases hd : s.dispatcher <;> cases hr : s.registered <;> simp [step, hd, hr, hadd]

theorem step_offer :
    step s .offer = some t ↔ ∃ d, s.dispatcher = .offering d ∧
      (((s.queue s.current).HasRoom ∧
          { s.setQueue s.current ((s.queue s.current).pushBack d) with dispatcher := .idle } = t) ∨
       (¬(s.queue s.current).HasRoom ∧
          { s with dispatcher := .idle, expected := s.expected.dropLast } = t)) := by
  by_cases hroom : (s.queue s.current).HasRoom
  · cases hd : s.dispatcher <;> simp [step, hd, hroom, DatagramQueue.add_of_hasRoom hroom]
  · cases hd : s.dispatcher <;> simp [step, hd, hroom, DatagramQueue.add_of_not_hasRoom hroom]

theorem step_addChannel :
    step s .addChannel = some t ↔ s.registration = .notStarted ∧
      { s with
        registered := true
        dangling := none
        registration := match s.dangling with
          | some pending => .inserted pending
          | none => .done } = t := by
  cases hr : s.registration <;> simp [step, hr]

theorem step_setDatagramQueue :
    step s .setDatagramQueue = some t ↔ ∃ pending, s.registration = .inserted pending ∧
      { s with current := pending, registration := .done } = t := by
  cases hr : s.registration <;> simp [step, hr]

theorem step_receive :
    step s .receive = some t ↔ s.registration = .done ∧ ∃ d queue,
      (s.queue s.current).items = d :: queue.items ∧
      queue.capacity = (s.queue s.current).capacity ∧
      { s.setQueue s.current queue with received := s.received ++ [d] } = t := by
  cases hr : s.registration <;>
    simp [step, hr, Option.bind_eq_some_iff, DatagramQueue.next_eq_some, and_assoc]

end Step

end Ssh3.Core.Reordering
