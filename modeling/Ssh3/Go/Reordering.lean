/-
  Ssh3.Go.Reordering

  `resources_manager.go`, `conversation.go` and `util/util.go`: datagrams that arrive
  around the registration of their channel.

  One dispatcher calls `Conversation.AddDatagram` on one datagram after the other, while
  `addChannel` registers channels and consumers receive.  An action is what a task does in
  one critical section of the manager, or in one operation on the Go channel of a queue.

  A send on a Go channel goes to a receiver that waits, when the buffer is empty, and into
  the buffer otherwise; so an action that sends says whether a consumer waits.  This is
  what makes a queue of size 0 usable.

  `arrived` and `processed` are bookkeeping.  A datagram counts as dropped by what the
  manager holds when it is processed: `drops` is stated on its own and not read off what
  `addDanglingDatagramsQueue` does.
-/

import Mathlib.Data.List.AList
import Ssh3.Core.Queue
import Ssh3.Go.Wire
import Ssh3.Lib.Transition

namespace Ssh3.Go.Reordering

open Transition Fallible
open Ssh3.Core (Datagram)

/-! ## Queues and channels -/

/-- The buffer of the Go channel in a `DatagramsQueue`. -/
abbrev DatagramsQueue := Ssh3.Core.DatagramQueue

def newDatagramsQueue (len : Nat) : DatagramsQueue := .new len

/-- What of a `channelImpl` has to do with datagrams, and what its consumer has received. -/
structure Channel where
  datagramsQueue : DatagramsQueue
  received : List Datagram
  deriving DecidableEq

/-- A consumer takes the datagram at once if it waits. -/
def Channel.Takes (self : Channel) (consumerWaits : Bool) : Prop :=
  consumerWaits = true ∧ self.datagramsQueue.items = []

instance (self : Channel) (consumerWaits : Bool) : Decidable (self.Takes consumerWaits) :=
  inferInstanceAs (Decidable (_ ∧ _))

/-- The case `q.c <- datagram` of a `select`; `none` when it cannot be chosen. -/
def Channel.send (self : Channel) (datagram : Datagram) (consumerWaits : Bool) : Option Channel :=
  if self.Takes consumerWaits then some { self with received := self.received ++ [datagram] }
  else (self.datagramsQueue.waitAdd datagram).map fun queue => { self with datagramsQueue := queue }

/-- `addDatagram`: a datagram that cannot be sent is dropped. -/
def Channel.addDatagram (self : Channel) (datagram : Datagram) (consumerWaits : Bool) : Channel :=
  (self.send datagram consumerWaits).getD self

/-! ## The manager -/

/-- At most 128 not-yet-open channels may buffer reordered QUIC datagrams. -/
def maxDanglingDatagramChannels : Nat := 128

/-- The channels of a conversation, and the queues that are set aside -/
structure ChannelsManager where
  channels : AList fun _ : UInt64 => Channel
  danglingDgramQueues : AList fun _ : UInt64 => DatagramsQueue
  deriving DecidableEq

namespace ChannelsManager

/-- Of a new channel, with an empty queue of the given size. -/
def addChannel (self : ChannelsManager) (id : UInt64) (queueSize : Nat) : ChannelsManager where
  channels :=
    let dgramsQueue := (self.danglingDgramQueues.lookup id).getD (newDatagramsQueue queueSize)
    self.channels.insert id { datagramsQueue := dgramsQueue, received := [] }
  danglingDgramQueues := self.danglingDgramQueues.erase id

/-- Sets a queue aside, or adds to the one that is. -/
def addDanglingDatagramsQueue (self : ChannelsManager) (id : UInt64) (queue : DatagramsQueue)
    (consumerWaits : Bool) : ChannelsManager :=
  match self.channels.lookup id with
  -- a channel has recently been added
  | some channel =>
    let channel := queue.items.foldl (fun channel dgram => channel.addDatagram dgram consumerWaits)
      channel
    { self with channels := self.channels.insert id channel }
  | none =>
    match self.danglingDgramQueues.lookup id with
    | some existing =>
      let existing := queue.items.foldl (fun existing dgram => (existing.add dgram).1) existing
      { self with danglingDgramQueues := self.danglingDgramQueues.insert id existing }
    | none =>
      if self.danglingDgramQueues.keys.length < maxDanglingDatagramChannels then
        { self with danglingDgramQueues := self.danglingDgramQueues.insert id queue }
      else self

/-- The datagrams that have been received or are queued for an id, in this order. -/
def handed (self : ChannelsManager) (id : UInt64) : List Datagram :=
  match self.channels.lookup id with
  | some channel => channel.received ++ channel.datagramsQueue.items
  | none =>
    match self.danglingDgramQueues.lookup id with
    | some queue => queue.items
    | none => []

/-- Whether a datagram that is not waited for is dropped: the queue for its id is full, or
    there is none and 128 other ids have one already. -/
def drops (self : ChannelsManager) (id : UInt64) (consumerWaits : Bool) : Bool :=
  match self.channels.lookup id with
  | some channel => decide (¬channel.Takes consumerWaits ∧ ¬channel.datagramsQueue.HasRoom)
  | none =>
    match self.danglingDgramQueues.lookup id with
    | some queue => decide (¬queue.HasRoom)
    | none => decide (128 ≤ self.danglingDgramQueues.keys.length)

end ChannelsManager

/-! ## The tasks -/

/-- Where the dispatcher is in its call of `AddDatagram`. -/
inductive Dispatcher where
  | idle
  /-- `getChannel` returned the channel. -/
  | found (id : UInt64) (datagram : Datagram)
  /-- `getChannel` returned nothing. -/
  | missing (id : UInt64) (datagram : Datagram)
  deriving DecidableEq

/-- A datagram the dispatcher is done with -/
structure Processed where
  id : UInt64
  datagram : Datagram
  dropped : Bool
  deriving DecidableEq

/-- The manager and the tasks around it -/
structure State where
  manager : ChannelsManager
  dispatcher : Dispatcher
  /-- The context of the conversation is done. -/
  closed : Bool
  /-- The datagrams `AddDatagram` was called on, with the id they start with -/
  arrived : List (UInt64 × Datagram)
  processed : List Processed
  deriving DecidableEq

def init : State where
  manager := ⟨∅, ∅⟩
  dispatcher := .idle
  closed := false
  arrived := []
  processed := []

/-- What a task does in one critical section -/
inductive Action where
  /-- `AddDatagram`, up to the end of `getChannel` -/
  | getChannel (datagram : List UInt8)
  /-- `waitAddDatagram` sends the datagram. -/
  | waitAddDatagram (consumerWaits : Bool)
  /-- `waitAddDatagram` returns the cause of the context's end instead. -/
  | waitCancelled
  | addDanglingDatagramsQueue (consumerWaits : Bool)
  | addChannel (id : UInt64) (queueSize : Nat)
  /-- The consumer of a channel takes a datagram out of its queue. -/
  | receive (id : UInt64)
  | close

/-- One task goes on. -/
def step (s : State) : Action → Option State
  | .getChannel datagram =>
    match s.dispatcher with
    | .idle =>
      match call (readVarInt .eof) datagram with
      | .ok (.ok id, payload) =>
        let dispatcher :=
          if id ∈ s.manager.channels then .found id payload else .missing id payload
        some { s with dispatcher, arrived := s.arrived ++ [(id, payload)] }
      -- `AddDatagram` returns the error
      | _ => some s
    | _ => none
  | .waitAddDatagram consumerWaits =>
    match s.dispatcher with
    | .found id datagram => do
      -- no step while the channel cannot take it: `waitAddDatagram` waits
      let channel ← s.manager.channels.lookup id
      let channel ← channel.send datagram consumerWaits
      return { s with
        manager := { s.manager with channels := s.manager.channels.insert id channel }
        dispatcher := .idle
        processed := s.processed ++ [⟨id, datagram, false⟩] }
    | _ => none
  | .waitCancelled =>
    match s.dispatcher with
    | .found _ _ => if s.closed then some { s with dispatcher := .idle } else none
    | _ => none
  | .addDanglingDatagramsQueue consumerWaits =>
    match s.dispatcher with
    | .missing id datagram =>
      let dgramQueue := ((newDatagramsQueue 10).add datagram).1
      some { s with
        manager := s.manager.addDanglingDatagramsQueue id dgramQueue consumerWaits
        dispatcher := .idle
        processed := s.processed ++ [⟨id, datagram, s.manager.drops id consumerWaits⟩] }
    | _ => none
  | .addChannel id queueSize => some { s with manager := s.manager.addChannel id queueSize }
  | .receive id => do
    let channel ← s.manager.channels.lookup id
    let (datagram, queue) ← channel.datagramsQueue.next
    let channel := { datagramsQueue := queue, received := channel.received ++ [datagram] }
    return { s with manager := { s.manager with channels := s.manager.channels.insert id channel } }
  | .close => some { s with closed := true }

/-- Channels are added under distinct ids. -/
def DistinctIds (s : State) : Action → Prop
  | .addChannel id _ => id ∉ s.manager.channels
  | _ => True

instance (s : State) (a : Action) : Decidable (DistinctIds s a) :=
  match a with
  | .addChannel _ _ => inferInstanceAs (Decidable (¬_))
  | .getChannel _ | .waitAddDatagram _ | .waitCancelled | .addDanglingDatagramsQueue _
  | .receive _ | .close => inferInstanceAs (Decidable True)

/-- The datagram that `AddDatagram` is working on. -/
def State.inFlight (s : State) : List (UInt64 × Datagram) :=
  match s.dispatcher with
  | .idle => []
  | .found id datagram | .missing id datagram => [(id, datagram)]

/-- The datagrams for an id that have been processed and not dropped. -/
def State.kept (s : State) (id : UInt64) : List Datagram :=
  (s.processed.filter fun p => p.id = id ∧ p.dropped = false).map (·.datagram)

/-! ## What the operations do to the datagrams handed on -/

theorem Channel.handed_of_send {c c' : Channel} {d : Datagram} {consumerWaits : Bool}
    (h : c.send d consumerWaits = some c') :
    c'.received ++ c'.datagramsQueue.items = c.received ++ c.datagramsQueue.items ++ [d] := by
  unfold Channel.send at h
  by_cases htakes : c.Takes consumerWaits
  · rw [if_pos htakes] at h
    cases h
    simp [htakes.2]
  · rw [if_neg htakes] at h
    obtain ⟨queue, hqueue, rfl⟩ := Option.map_eq_some_iff.mp h
    obtain ⟨-, rfl⟩ := Ssh3.Core.DatagramQueue.waitAdd_eq_some.mp hqueue
    simp [Ssh3.Core.DatagramQueue.pushBack]

theorem Channel.send_eq_none {c : Channel} {d : Datagram} {consumerWaits : Bool} :
    c.send d consumerWaits = none ↔ ¬c.Takes consumerWaits ∧ ¬c.datagramsQueue.HasRoom := by
  unfold Channel.send
  by_cases htakes : c.Takes consumerWaits
  · simp [htakes]
  · rw [if_neg htakes, Option.map_eq_none_iff, Ssh3.Core.DatagramQueue.waitAdd_eq_none]
    exact (and_iff_right htakes).symm

namespace ChannelsManager

variable {m : ChannelsManager} {id id' : UInt64}

theorem handed_of_channel {c : Channel} (h : m.channels.lookup id = some c) :
    m.handed id = c.received ++ c.datagramsQueue.items := by
  rw [handed, h]

theorem handed_insert_channel (c : Channel) :
    ({ m with channels := m.channels.insert id c } : ChannelsManager).handed id' =
      if id' = id then c.received ++ c.datagramsQueue.items else m.handed id' := by
  by_cases h : id' = id
  · subst h
    rw [if_pos rfl]
    exact handed_of_channel (AList.lookup_insert _)
  · rw [if_neg h]
    simp only [handed, AList.lookup_insert_ne h]

theorem handed_insert_dangling (hnone : m.channels.lookup id = none) (queue : DatagramsQueue) :
    ({ m with danglingDgramQueues := m.danglingDgramQueues.insert id queue } :
        ChannelsManager).handed id' =
      if id' = id then queue.items else m.handed id' := by
  by_cases h : id' = id
  · subst h
    simp only [if_pos, handed, hnone, AList.lookup_insert]
  · simp only [if_neg h, handed, AList.lookup_insert_ne h]

/-- The channel takes over the queue that was set aside for its id. -/
theorem handed_addChannel (hnone : m.channels.lookup id = none) (queueSize : Nat) :
    (m.addChannel id queueSize).handed id' = m.handed id' := by
  by_cases h : id' = id
  · subst h
    simp only [handed, addChannel, AList.lookup_insert, hnone]
    cases m.danglingDgramQueues.lookup id' with
    | none => rfl
    | some queue => rfl
  · simp only [handed, addChannel, AList.lookup_insert_ne h, AList.lookup_erase_ne h]

/-- A datagram that is not dropped comes last. -/
theorem handed_addDangling (d : Datagram) (consumerWaits : Bool) :
    (m.addDanglingDatagramsQueue id ⟨[d], 10⟩ consumerWaits).handed id' =
      if id' = id ∧ m.drops id consumerWaits = false then m.handed id' ++ [d]
      else m.handed id' := by
  unfold addDanglingDatagramsQueue drops
  cases hchannel : m.channels.lookup id with
  | some c =>
    simp only [List.foldl_cons, List.foldl_nil, Channel.addDatagram]
    rw [handed_insert_channel]
    by_cases hid : id' = id
    · subst hid
      rw [handed_of_channel hchannel, if_pos rfl]
      cases hsend : c.send d consumerWaits with
      | none =>
        have hfull := Channel.send_eq_none.mp hsend
        simp [hfull]
      | some c' =>
        have hroom : ¬(¬c.Takes consumerWaits ∧ ¬c.datagramsQueue.HasRoom) := by
          rw [← Channel.send_eq_none (d := d), hsend]
          exact nofun
        simp only [Option.getD_some, Channel.handed_of_send hsend, decide_eq_false hroom, and_self,
          if_true]
    · simp only [hid, if_false, false_and]
  | none =>
    cases hqueue : m.danglingDgramQueues.lookup id with
    | some queue =>
      simp only [List.foldl_cons, List.foldl_nil]
      rw [handed_insert_dangling hchannel]
      by_cases hid : id' = id
      · subst hid
        have hhanded : m.handed id' = queue.items := by rw [handed, hchannel, hqueue]
        by_cases hroom : queue.HasRoom
        · simp [hroom, hhanded, Ssh3.Core.DatagramQueue.add_of_hasRoom hroom,
            Ssh3.Core.DatagramQueue.pushBack]
        · simp [hroom, hhanded, Ssh3.Core.DatagramQueue.add_of_not_hasRoom hroom]
      · simp only [hid, if_false, false_and]
    | none =>
      by_cases hcount : m.danglingDgramQueues.keys.length < maxDanglingDatagramChannels
      · have hdrops : ¬128 ≤ m.danglingDgramQueues.keys.length := Nat.not_le.mpr hcount
        simp only [if_pos hcount, decide_eq_false hdrops, and_true]
        rw [handed_insert_dangling hchannel]
        by_cases hid : id' = id
        · subst hid
          have hhanded : m.handed id' = [] := by rw [handed, hchannel, hqueue]
          rw [if_pos rfl, if_pos rfl, hhanded]
          rfl
        · simp only [if_neg hid]
      · have hdrops : 128 ≤ m.danglingDgramQueues.keys.length := Nat.not_lt.mp hcount
        simp [if_neg hcount, hdrops]

/-! ## Bounds on what is set aside -/

/-- No queue is set aside for a channel, and what is set aside is bounded. -/
structure WellFormed (m : ChannelsManager) : Prop where
  disjoint : ∀ id, id ∈ m.channels → id ∉ m.danglingDgramQueues
  count : m.danglingDgramQueues.keys.length ≤ 128
  queues : ∀ id queue, m.danglingDgramQueues.lookup id = some queue →
    queue.capacity = 10 ∧ queue.items.length ≤ 10

theorem WellFormed.insert_channel (h : m.WellFormed) (hid : id ∈ m.channels) (c : Channel) :
    ({ m with channels := m.channels.insert id c } : ChannelsManager).WellFormed where
  disjoint := by
    intro id' hmem
    rcases (AList.mem_insert _).mp hmem with rfl | hmem
    · exact h.disjoint _ hid
    · exact h.disjoint _ hmem
  count := h.count
  queues := h.queues

theorem WellFormed.insert_dangling (h : m.WellFormed) (hid : id ∉ m.channels)
    (hcount : id ∈ m.danglingDgramQueues ∨ m.danglingDgramQueues.keys.length < 128)
    {queue : DatagramsQueue} (hqueue : queue.capacity = 10 ∧ queue.items.length ≤ 10) :
    ({ m with danglingDgramQueues := m.danglingDgramQueues.insert id queue } :
      ChannelsManager).WellFormed where
  disjoint := by
    intro id' hmem hdangling
    rcases (AList.mem_insert _).mp hdangling with rfl | hdangling
    · exact hid hmem
    · exact h.disjoint _ hmem hdangling
  count := by
    have hold := h.count
    simp only [AList.keys_insert, List.length_cons]
    by_cases hmem : id ∈ m.danglingDgramQueues.keys
    · rw [List.length_erase_of_mem hmem]
      have hpos := List.length_pos_of_mem hmem
      omega
    · rw [List.erase_of_not_mem hmem]
      have hlt := hcount.resolve_left hmem
      omega
  queues := by
    intro id' queue' hlookup
    by_cases heq : id' = id
    · subst heq
      rw [AList.lookup_insert, Option.some.injEq] at hlookup
      rw [← hlookup]
      exact hqueue
    · rw [AList.lookup_insert_ne heq] at hlookup
      exact h.queues _ _ hlookup

theorem WellFormed.addChannel (h : m.WellFormed) (queueSize : Nat) :
    (m.addChannel id queueSize).WellFormed where
  disjoint := by
    intro id' hmem hdangling
    obtain ⟨hne, hdangling⟩ := AList.mem_erase.mp hdangling
    rcases (AList.mem_insert _).mp hmem with rfl | hmem
    · exact hne rfl
    · exact h.disjoint _ hmem hdangling
  count := by
    have hold := h.count
    have hle := List.length_erase_le (a := id) (l := m.danglingDgramQueues.keys)
    simp only [ChannelsManager.addChannel, AList.keys_erase]
    omega
  queues := by
    intro id' queue hlookup
    by_cases heq : id' = id
    · subst heq
      simp [ChannelsManager.addChannel] at hlookup
    · simp only [ChannelsManager.addChannel, AList.lookup_erase_ne heq] at hlookup
      exact h.queues _ _ hlookup

theorem WellFormed.addDangling (h : m.WellFormed) (d : Datagram) (consumerWaits : Bool) :
    (m.addDanglingDatagramsQueue id ⟨[d], 10⟩ consumerWaits).WellFormed := by
  unfold addDanglingDatagramsQueue
  cases hchannel : m.channels.lookup id with
  | some c =>
    have hid : id ∈ m.channels := AList.lookup_isSome.mp (by rw [hchannel]; rfl)
    exact h.insert_channel hid _
  | none =>
    have hid : id ∉ m.channels := AList.lookup_eq_none.mp hchannel
    cases hqueue : m.danglingDgramQueues.lookup id with
    | some queue =>
      have hmem : id ∈ m.danglingDgramQueues := AList.lookup_isSome.mp (by rw [hqueue]; rfl)
      obtain ⟨hcapacity, hlength⟩ := h.queues _ _ hqueue
      refine h.insert_dangling hid (.inl hmem) ?_
      simp only [List.foldl_cons, List.foldl_nil]
      by_cases hroom : queue.HasRoom
      · rw [Ssh3.Core.DatagramQueue.add_of_hasRoom hroom]
        have hlt : queue.items.length < queue.capacity := hroom
        refine ⟨hcapacity, ?_⟩
        simp only [Ssh3.Core.DatagramQueue.pushBack, List.length_append, List.length_singleton]
        omega
      · rw [Ssh3.Core.DatagramQueue.add_of_not_hasRoom hroom]
        exact ⟨hcapacity, hlength⟩
    | none =>
      simp only
      by_cases hcount : m.danglingDgramQueues.keys.length < maxDanglingDatagramChannels
      · rw [if_pos hcount]
        exact h.insert_dangling hid (.inr hcount) ⟨rfl, by simp⟩
      · rw [if_neg hcount]
        exact h

end ChannelsManager

/-! ## What each action does -/

section Step

variable {s t : State}

theorem step_getChannel {bytes : List UInt8} (h : step s (.getChannel bytes) = some t) :
    s.dispatcher = .idle ∧ (t = s ∨ ∃ id d, t = { s with
      dispatcher := if id ∈ s.manager.channels then .found id d else .missing id d
      arrived := s.arrived ++ [(id, d)] }) := by
  cases hdispatcher : s.dispatcher with
  | idle =>
    simp only [step, hdispatcher] at h
    refine ⟨rfl, ?_⟩
    split at h
    · exact .inr ⟨_, _, (Option.some.inj h).symm⟩
    · exact .inl (Option.some.inj h).symm
  | found id d => simp [step, hdispatcher] at h
  | missing id d => simp [step, hdispatcher] at h

theorem step_waitAddDatagram {w : Bool} (h : step s (.waitAddDatagram w) = some t) :
    ∃ id d c c', s.dispatcher = .found id d ∧ s.manager.channels.lookup id = some c ∧
      c.send d w = some c' ∧
      t = { s with
        manager := { s.manager with channels := s.manager.channels.insert id c' }
        dispatcher := .idle
        processed := s.processed ++ [⟨id, d, false⟩] } := by
  cases hdispatcher : s.dispatcher with
  | found id d =>
    simp only [step, hdispatcher] at h
    obtain ⟨c, hc, h⟩ := Option.bind_eq_some_iff.mp h
    obtain ⟨c', hc', h⟩ := Option.bind_eq_some_iff.mp h
    exact ⟨id, d, c, c', rfl, hc, hc', (Option.some.inj h).symm⟩
  | idle => simp [step, hdispatcher] at h
  | missing id d => simp [step, hdispatcher] at h

theorem step_waitCancelled (h : step s .waitCancelled = some t) :
    s.closed = true ∧ t = { s with dispatcher := .idle } := by
  cases hdispatcher : s.dispatcher with
  | found id d =>
    simp only [step, hdispatcher] at h
    cases hclosed : s.closed with
    | true =>
      simp only [hclosed, if_true] at h
      exact ⟨rfl, (Option.some.inj h).symm⟩
    | false => simp [hclosed] at h
  | idle => simp [step, hdispatcher] at h
  | missing id d => simp [step, hdispatcher] at h

theorem step_addDangling {w : Bool} (h : step s (.addDanglingDatagramsQueue w) = some t) :
    ∃ id d, s.dispatcher = .missing id d ∧
      t = { s with
        manager := s.manager.addDanglingDatagramsQueue id ⟨[d], 10⟩ w
        dispatcher := .idle
        processed := s.processed ++ [⟨id, d, s.manager.drops id w⟩] } := by
  cases hdispatcher : s.dispatcher with
  | missing id d =>
    simp only [step, hdispatcher] at h
    exact ⟨id, d, rfl, (Option.some.inj h).symm⟩
  | idle => simp [step, hdispatcher] at h
  | found id d => simp [step, hdispatcher] at h

theorem step_receive {id : UInt64} (h : step s (.receive id) = some t) :
    ∃ c d queue, s.manager.channels.lookup id = some c ∧
      c.datagramsQueue.items = d :: queue.items ∧
      t = { s with manager := { s.manager with
        channels := s.manager.channels.insert id ⟨queue, c.received ++ [d]⟩ } } := by
  obtain ⟨c, hc, h⟩ := Option.bind_eq_some_iff.mp h
  obtain ⟨⟨d, queue⟩, hnext, h⟩ := Option.bind_eq_some_iff.mp h
  obtain ⟨hitems, -⟩ := Ssh3.Core.DatagramQueue.next_eq_some.mp hnext
  exact ⟨c, d, queue, hc, hitems, (Option.some.inj h).symm⟩

end Step

/-! ## The invariant -/

def Processed.key (p : Processed) : UInt64 × Datagram := (p.id, p.datagram)

structure Inv (s : State) : Prop where
  wellFormed : s.manager.WellFormed
  delivered : ∀ id, s.manager.handed id = s.kept id
  found : ∀ id d, s.dispatcher = .found id d → id ∈ s.manager.channels
  /-- Nothing is given up, and nothing overtakes, before the conversation is closed. -/
  inOrder : s.closed = false → s.arrived = s.processed.map Processed.key ++ s.inFlight

theorem inv_init : Inv init where
  wellFormed := by
    refine ⟨?_, Nat.zero_le _, ?_⟩
    · intro id hmem
      exact absurd hmem (AList.notMem_empty _)
    · intro id queue h
      cases h
  delivered := fun _ => rfl
  found := by
    intro id d h
    cases h
  inOrder := fun _ => rfl

section Step

variable {s t : State}

theorem kept_append (s : State) (m : ChannelsManager) (p : Processed) (id : UInt64) :
    State.kept { s with
      manager := m, dispatcher := .idle, processed := s.processed ++ [p] } id =
      if id = p.id ∧ p.dropped = false then s.kept id ++ [p.datagram] else s.kept id := by
  simp only [State.kept, List.filter_append, List.map_append]
  by_cases h : id = p.id ∧ p.dropped = false
  · rw [if_pos h, List.filter_cons_of_pos (by simp [h])]
    rfl
  · have hskip : ¬decide (p.id = id ∧ p.dropped = false) = true := by
      rw [decide_eq_true_eq]
      rintro ⟨hid, hdropped⟩
      exact h ⟨hid.symm, hdropped⟩
    simp only [if_neg h, List.filter_cons, hskip, List.filter_nil, List.map_nil, List.append_nil,
      Bool.false_eq_true, if_false]

/-- The datagram in flight has been processed. -/
theorem Inv.processed {m : ChannelsManager} {id : UInt64} {d : Datagram} {dropped : Bool}
    (h : Inv s) (hm : m.WellFormed) (hflight : s.inFlight = [(id, d)])
    (hhanded : ∀ id', m.handed id' =
      if id' = id ∧ dropped = false then s.manager.handed id' ++ [d] else s.manager.handed id') :
    Inv { s with
      manager := m, dispatcher := .idle, processed := s.processed ++ [⟨id, d, dropped⟩] } where
  wellFormed := hm
  delivered := by
    intro id'
    rw [kept_append, ← h.delivered id']
    exact hhanded id'
  found := by
    intro id' d' hfound
    cases hfound
  inOrder := by
    intro hclosed
    have horder := h.inOrder hclosed
    rw [hflight] at horder
    simpa [State.inFlight, Processed.key] using horder

/-- **Step lemma.**  A channel is handed what was processed for it and not dropped, and nothing
    overtakes before the conversation is closed. -/
theorem Inv.step {a : Action} (h : Inv s) (hguard : DistinctIds s a)
    (hstep : Reordering.step s a = some t) : Inv t := by
  cases a with
  | getChannel bytes =>
    obtain ⟨hidle, rfl | ⟨id, d, rfl⟩⟩ := step_getChannel hstep
    · exact h
    · refine ⟨h.wellFormed, h.delivered, ?_, ?_⟩
      · intro id' d' hfound
        by_cases hmem : id ∈ s.manager.channels
        · simp only [if_pos hmem] at hfound
          cases hfound
          exact hmem
        · simp [if_neg hmem] at hfound
      · intro hclosed
        have horder := h.inOrder hclosed
        rw [State.inFlight, hidle, List.append_nil] at horder
        by_cases hmem : id ∈ s.manager.channels
        · simp [State.inFlight, if_pos hmem, horder]
        · simp [State.inFlight, if_neg hmem, horder]
  | waitAddDatagram w =>
    obtain ⟨id, d, c, c', hfound, hc, hsend, rfl⟩ := step_waitAddDatagram hstep
    refine h.processed (h.wellFormed.insert_channel (h.found _ _ hfound) _)
      (by rw [State.inFlight, hfound]) ?_
    intro id'
    rw [ChannelsManager.handed_insert_channel]
    by_cases hid : id' = id
    · subst hid
      rw [if_pos rfl, if_pos ⟨rfl, rfl⟩, Channel.handed_of_send hsend,
        ChannelsManager.handed_of_channel hc]
    · rw [if_neg hid, if_neg fun hboth => hid hboth.1]
  | waitCancelled =>
    obtain ⟨hclosed, rfl⟩ := step_waitCancelled hstep
    refine ⟨h.wellFormed, h.delivered, nofun, fun hopen => ?_⟩
    cases hclosed.symm.trans hopen
  | addDanglingDatagramsQueue w =>
    obtain ⟨id, d, hmissing, rfl⟩ := step_addDangling hstep
    exact h.processed (h.wellFormed.addDangling d w) (by rw [State.inFlight, hmissing])
      fun id' => ChannelsManager.handed_addDangling d w
  | addChannel id queueSize =>
    cases hstep
    have hnone : s.manager.channels.lookup id = none := AList.lookup_eq_none.mpr hguard
    refine ⟨h.wellFormed.addChannel queueSize, ?_, ?_, h.inOrder⟩
    · intro id'
      exact (ChannelsManager.handed_addChannel hnone queueSize).trans (h.delivered id')
    · intro id' d hfound
      exact (AList.mem_insert _).mpr (.inr (h.found id' d hfound))
  | receive id =>
    obtain ⟨c, d, queue, hc, hitems, rfl⟩ := step_receive hstep
    have hid : id ∈ s.manager.channels := AList.lookup_isSome.mp (by rw [hc]; rfl)
    refine ⟨h.wellFormed.insert_channel hid _, ?_, ?_, h.inOrder⟩
    · intro id'
      -- the datagram moves from the front of the queue to the end of what was received
      show ChannelsManager.handed _ id' = s.kept id'
      rw [← h.delivered id', ChannelsManager.handed_insert_channel]
      by_cases heq : id' = id
      · subst heq
        rw [if_pos rfl, ChannelsManager.handed_of_channel hc, hitems]
        simp
      · rw [if_neg heq]
    · intro id' d' hfound
      exact (AList.mem_insert _).mpr (.inr (h.found id' d' hfound))
  | close =>
    cases hstep
    exact ⟨h.wellFormed, h.delivered, h.found, nofun⟩

end Step

/-- **Reordered datagrams.**  In every interleaving of the dispatcher with channels that are
    added under distinct ids and with their consumers, no id is both registered and dangling,
    at most 128 queues dangle, and each holds at most 10 datagrams.  As long as the
    conversation is not closed, the datagrams that arrived are those processed and the one in
    flight, and for every id those received and then those queued are the ones processed and
    not dropped, in the order of their arrival. -/
theorem reordered_datagrams {as : List Action} {s : State}
    (h : Run step DistinctIds init as s) :
    (∀ id, ¬(id ∈ s.manager.channels ∧ id ∈ s.manager.danglingDgramQueues)) ∧
    s.manager.danglingDgramQueues.keys.length ≤ 128 ∧
    (∀ id queue, s.manager.danglingDgramQueues.lookup id = some queue →
      queue.items.length ≤ 10) ∧
    (s.closed = false → s.arrived = s.processed.map Processed.key ++ s.inFlight ∧
      ∀ id, s.manager.handed id = s.kept id) := by
  have hinv : Inv s := h.invariant (fun _ _ _ hinv hguard hstep => hinv.step hguard hstep) inv_init
  refine ⟨?_, hinv.wellFormed.count, ?_, ?_⟩
  · rintro id ⟨hchannel, hdangling⟩
    exact hinv.wellFormed.disjoint id hchannel hdangling
  · intro id queue hqueue
    exact (hinv.wellFormed.queues id queue hqueue).2
  · intro hclosed
    exact ⟨hinv.inOrder hclosed, hinv.delivered⟩

/-- The first datagram for channel 4 is set aside, the channel is registered while the
    dispatcher is at the second one, and the third one finds it. -/
theorem reordered_datagrams_around_registration :
    ∃ s, Run step DistinctIds init
        [.getChannel [4, 1], .addDanglingDatagramsQueue false, .getChannel [4, 2],
          .addChannel 4 8, .addDanglingDatagramsQueue false, .getChannel [4, 3],
          .receive 4, .waitAddDatagram false] s ∧
      s.kept 4 = [[1], [2], [3]] ∧ s.manager.handed 4 = s.kept 4 := by
  have hrun : Run step DistinctIds init
      [.getChannel [4, 1], .addDanglingDatagramsQueue false, .getChannel [4, 2],
        .addChannel 4 8, .addDanglingDatagramsQueue false, .getChannel [4, 3],
        .receive 4, .waitAddDatagram false]
      { manager := ⟨AList.singleton 4 ⟨⟨[[2], [3]], 10⟩, [[1]]⟩, ∅⟩
        dispatcher := .idle, closed := false
        arrived := [(4, [1]), (4, [2]), (4, [3])]
        processed := [⟨4, [1], false⟩, ⟨4, [2], false⟩, ⟨4, [3], false⟩] } :=
    run_of_exec rfl
  exact ⟨_, hrun, rfl, ((reordered_datagrams hrun).2.2.2 rfl).2 4⟩

end Ssh3.Go.Reordering
