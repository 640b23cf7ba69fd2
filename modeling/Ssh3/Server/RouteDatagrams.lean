/-
  Ssh3.Server.RouteDatagrams

  `ssh3-server/src/lib.rs`: the loop that receives the datagrams of a connection,
  while the consumers of the channels take them out of their queues.

  There is one loop for all channels.  While the queue of one channel is full the loop
  waits in `wait_add`, so that the datagrams of every other channel wait too: the loop
  is a dispatcher as in `Ssh3.Lib.HeadOfLine`.
-/

import Ssh3.H3.Addressing
import Ssh3.Lib.HeadOfLine

namespace Ssh3.Server.RouteDatagrams

open Ssh3.Core H3 Transition
open HeadOfLine (Action InTime)

/-! ## The loop and the consumers -/

/-- The loop, the queues and their consumers -/
structure State where
  router : LiveRouter
  /-- What `read_datagram` is going to return -/
  incoming : List (List UInt8)
  /-- What the consumer of each channel has received -/
  received : ChannelAddress → List Datagram
  /-- The error that has ended the loop -/
  ended : Option DatagramDispatchError

def start (router : LiveRouter) (incoming : List (List UInt8)) : State where
  router := router
  incoming := incoming
  received := fun _ => []
  ended := none

namespace State

/-- One turn of the loop of `route_datagrams`; `none` while it waits. -/
def routeNext (s : State) : Option State :=
  match s.ended, s.incoming with
  | none, datagram :: incoming =>
    match s.router.routeRegisteredDatagram datagram with
    | none => none
    | some (.ok _, router) => some { s with router, incoming }
    | some (.error err, router) => some { s with router, incoming, ended := some err }
  | _, _ => none

/-- `Channel::receive_datagram`, called by the consumer of a channel. -/
def receiveDatagram (s : State) (channel : ChannelAddress) : Option State := do
  let queue ← s.router.queue channel
  let (datagram, queue) ← queue.next
  return { s with
    router := s.router.setQueue channel queue
    received := Function.update s.received channel (s.received channel ++ [datagram]) }

end State

/-- The loop or a consumer goes on. -/
def step (s : State) : Action ChannelAddress → Option State
  | .dispatch => s.routeNext
  | .take channel => s.receiveDatagram channel

/-! ## Queues -/

def items (router : LiveRouter) (channel : ChannelAddress) : List Datagram :=
  match router.queue channel with
  | none => []
  | some queue => queue.queue.items

def capacity (router : LiveRouter) (channel : ChannelAddress) : Nat :=
  match router.queue channel with
  | none => 0
  | some queue => queue.queue.capacity

/-- Everything the loop has put into the queue of a channel, and what was there before. -/
def State.enqueued (s : State) (channel : ChannelAddress) : List Datagram :=
  s.received channel ++ items s.router channel

/-- The loop waits, and the channel's consumer has drained its queue. -/
def Settled (channel : ChannelAddress) (s : State) : Prop :=
  step s .dispatch = none ∧ items s.router channel = []

def isFor (channel : ChannelAddress) (datagram : List UInt8) : Bool :=
  (address datagram).any fun addressed => addressed.1 = channel

theorem isFor_eq_true {channel : ChannelAddress} {datagram : List UInt8} :
    isFor channel datagram = true ↔ ∃ payload, address datagram = some (channel, payload) := by
  unfold isFor
  cases address datagram with
  | none => simp
  | some addressed =>
    obtain ⟨other, payload⟩ := addressed
    simp

theorem exists_address {a b : ChannelAddress} {datagram : List UInt8}
    (h : isFor a datagram = true ∨ isFor b datagram = true) :
    ∃ channel payload, address datagram = some (channel, payload) ∧
      (channel = a ∨ channel = b) := by
  rcases h with h | h
  · obtain ⟨payload, haddress⟩ := isFor_eq_true.mp h
    exact ⟨a, payload, haddress, .inl rfl⟩
  · obtain ⟨payload, haddress⟩ := isFor_eq_true.mp h
    exact ⟨b, payload, haddress, .inr rfl⟩

section Queues

variable {router : LiveRouter} {channel : ChannelAddress} {old queue : BoundedQueue}

theorem items_of_queue (h : router.queue channel = some queue) :
    items router channel = queue.queue.items := by
  rw [items, h]

theorem capacity_of_queue (h : router.queue channel = some queue) :
    capacity router channel = queue.queue.capacity := by
  rw [capacity, h]

theorem items_setQueue (h : router.queue channel = some old) :
    items (router.setQueue channel queue) =
      Function.update (items router) channel queue.queue.items := by
  funext other
  unfold items
  rw [LiveRouter.queue_setQueue h]
  by_cases heq : other = channel
  · subst heq
    rw [if_pos rfl, Function.update_self]
  · rw [if_neg heq, Function.update_of_ne heq]

theorem capacity_setQueue (h : router.queue channel = some old)
    (hcapacity : queue.queue.capacity = old.queue.capacity) :
    capacity (router.setQueue channel queue) = capacity router := by
  funext other
  unfold capacity
  rw [LiveRouter.queue_setQueue h]
  by_cases heq : other = channel
  · rw [if_pos heq, heq, h]
    exact hcapacity
  · rw [if_neg heq]

end Queues

/-! ## The loop is a dispatcher -/

def State.toDispatcher (s : State) : HeadOfLine.State ChannelAddress Datagram where
  input := s.incoming.filterMap address
  buffer := items s.router
  taken := s.received

/-- The datagrams are all for registered channels. -/
structure Inv (capacities : ChannelAddress → Nat) (s : State) : Prop where
  running : s.ended = none
  known : ∀ datagram ∈ s.incoming, ∃ channel payload queue,
    address datagram = some (channel, payload) ∧ s.router.queue channel = some queue
  capacities : capacity s.router = capacities

section Simulation

variable {capacities : ChannelAddress → Nat} {s t : State}

variable {channel : ChannelAddress} {queue : BoundedQueue}

theorem routeNext_cons {datagram payload : List UInt8} {incoming : List (List UInt8)}
    (hrunning : s.ended = none)
    (hincoming : s.incoming = datagram :: incoming)
    (haddress : address datagram = some (channel, payload))
    (hqueue : s.router.queue channel = some queue) :
    s.routeNext = (queue.waitAdd payload).map fun added =>
      { s with router := s.router.setQueue channel added, incoming } := by
  rw [State.routeNext, hrunning, hincoming]
  simp only [LiveRouter.route_of_queue haddress hqueue]
  cases queue.waitAdd payload with
  | none => rfl
  | some added => rfl

theorem receiveDatagram_eq (hqueue : s.router.queue channel = some queue) :
    s.receiveDatagram channel = queue.next.map fun next =>
      { s with
        router := s.router.setQueue channel next.2
        received := Function.update s.received channel (s.received channel ++ [next.1]) } := by
  rw [State.receiveDatagram, hqueue]
  cases hnext : queue.next with
  | none => simp [hnext]
  | some next => simp [hnext]

theorem Inv.map_routeNext (h : Inv capacities s) :
    (step s .dispatch).map State.toDispatcher =
      HeadOfLine.step capacities s.toDispatcher .dispatch := by
  cases hincoming : s.incoming with
  | nil => simp [step, State.routeNext, HeadOfLine.step, State.toDispatcher, hincoming]
  | cons datagram incoming =>
    obtain ⟨channel, payload, queue, haddress, hqueue⟩ :=
      h.known datagram (by rw [hincoming]; exact List.mem_cons_self)
    have hinput : s.toDispatcher.input =
        (channel, payload) :: incoming.filterMap address := by
      rw [State.toDispatcher, hincoming, List.filterMap_cons, haddress]
    have hitems : s.toDispatcher.buffer channel = queue.queue.items := items_of_queue hqueue
    have hcapacity : capacities channel = queue.queue.capacity := by
      rw [← h.capacities, capacity_of_queue hqueue]
    rw [step, routeNext_cons h.running hincoming haddress hqueue]
    cases hadded : queue.waitAdd payload with
    | none =>
      have hfull := BoundedQueue.waitAdd_eq_none.mp hadded
      refine (HeadOfLine.step_dispatch_eq_none.mpr (.inr ⟨channel, payload, _, hinput, ?_⟩)).symm
      rw [hitems, hcapacity]
      exact Nat.not_lt.mp hfull
    | some added =>
      obtain ⟨hroom, hpushed⟩ := BoundedQueue.waitAdd_eq_some.mp hadded
      refine (HeadOfLine.step_dispatch.mpr ⟨channel, payload, _, hinput, ?_, ?_⟩).symm
      · rw [hitems, hcapacity]
        exact hroom
      · simp only [State.toDispatcher, items_setQueue hqueue, hpushed, items_of_queue hqueue]
        rfl

theorem map_receiveDatagram (capacities : ChannelAddress → Nat) (s : State)
    (channel : ChannelAddress) :
    (step s (.take channel)).map State.toDispatcher =
      HeadOfLine.step capacities s.toDispatcher (.take channel) := by
  cases hqueue : s.router.queue channel with
  | none =>
    simp [step, State.receiveDatagram, HeadOfLine.step, State.toDispatcher, items, hqueue]
  | some queue =>
    rw [step, receiveDatagram_eq hqueue]
    have hitems : s.toDispatcher.buffer channel = queue.queue.items := items_of_queue hqueue
    cases hnext : queue.next with
    | none =>
      rw [HeadOfLine.step, hitems, BoundedQueue.next_eq_none.mp hnext]
      rfl
    | some next =>
      obtain ⟨datagram, rest⟩ := next
      obtain ⟨hfirst, -⟩ := BoundedQueue.next_eq_some.mp hnext
      refine (HeadOfLine.step_take.mpr ⟨datagram, _, hitems.trans hfirst, ?_⟩).symm
      simp only [State.toDispatcher, items_setQueue hqueue]

/-- **Simulation.**  The loop and the consumers do what a dispatcher does. -/
theorem Inv.map_step (h : Inv capacities s) (a : Action ChannelAddress) :
    (step s a).map State.toDispatcher = HeadOfLine.step capacities s.toDispatcher a := by
  cases a with
  | dispatch => exact h.map_routeNext
  | take channel => exact map_receiveDatagram capacities s channel

/-- A new queue of the same capacity for a registered channel. -/
theorem Inv.setQueue {old : BoundedQueue}
    {incoming : List (List UInt8)} {received : ChannelAddress → List Datagram}
    (h : Inv capacities s) (hqueue : s.router.queue channel = some old)
    (hcapacity : queue.queue.capacity = old.queue.capacity)
    (hincoming : ∀ datagram ∈ incoming, datagram ∈ s.incoming) :
    Inv capacities
      { s with router := s.router.setQueue channel queue, incoming, received } where
  running := h.running
  known := by
    intro datagram hmem
    obtain ⟨other, payload, found, haddress, hfound⟩ := h.known datagram (hincoming datagram hmem)
    by_cases heq : other = channel
    · exact ⟨other, payload, queue, haddress, by rw [LiveRouter.queue_setQueue hqueue, if_pos heq]⟩
    · refine ⟨other, payload, found, haddress, ?_⟩
      rw [LiveRouter.queue_setQueue hqueue, if_neg heq]
      exact hfound
  capacities := (capacity_setQueue hqueue hcapacity).trans h.capacities

theorem Inv.step {a : Action ChannelAddress} (h : Inv capacities s)
    (hstep : RouteDatagrams.step s a = some t) : Inv capacities t := by
  cases a with
  | dispatch =>
    cases hincoming : s.incoming with
    | nil => simp [RouteDatagrams.step, State.routeNext, hincoming] at hstep
    | cons datagram incoming =>
      obtain ⟨channel, payload, queue, haddress, hqueue⟩ :=
        h.known datagram (by rw [hincoming]; exact List.mem_cons_self)
      rw [RouteDatagrams.step, routeNext_cons h.running hincoming haddress hqueue] at hstep
      obtain ⟨added, hadded, rfl⟩ := Option.map_eq_some_iff.mp hstep
      obtain ⟨-, hpushed⟩ := BoundedQueue.waitAdd_eq_some.mp hadded
      refine h.setQueue hqueue (by rw [hpushed]; rfl) fun d hd => ?_
      rw [hincoming]
      exact List.mem_cons_of_mem _ hd
  | take channel =>
    cases hqueue : s.router.queue channel with
    | none => simp [RouteDatagrams.step, State.receiveDatagram, hqueue] at hstep
    | some queue =>
      rw [RouteDatagrams.step, receiveDatagram_eq hqueue] at hstep
      obtain ⟨⟨datagram, rest⟩, hnext, rfl⟩ := Option.map_eq_some_iff.mp hstep
      obtain ⟨-, hcapacity⟩ := BoundedQueue.next_eq_some.mp hnext
      exact h.setQueue hqueue hcapacity fun d hd => hd

theorem Inv.run {as : List (Action ChannelAddress)} (h : Inv capacities s)
    (hrun : Run RouteDatagrams.step anyStep s as t) : Inv capacities t :=
  hrun.invariant (fun _ _ _ h _ hstep => h.step hstep) h

theorem Inv.simulate {as : List (Action ChannelAddress)} (h : Inv capacities s)
    (hrun : Run RouteDatagrams.step anyStep s as t) :
    Run (HeadOfLine.step capacities) anyStep s.toDispatcher as t.toDispatcher :=
  hrun.simulate (fun _ a h => h.map_step a) (fun _ _ _ h hstep => h.step hstep) h

theorem Inv.settled_iff (h : Inv capacities s) (channel : ChannelAddress) :
    Settled channel s ↔ HeadOfLine.Settled capacities channel s.toDispatcher := by
  unfold Settled HeadOfLine.Settled
  rw [← h.map_step, Option.map_eq_none_iff]
  rfl

theorem filterMap_address_filter (channel : ChannelAddress) (incoming : List (List UInt8)) :
    (incoming.filter fun datagram => !isFor channel datagram).filterMap address =
      (incoming.filterMap address).filter fun addressed => addressed.1 ≠ channel := by
  rw [List.filterMap_filter, List.filter_filterMap]
  apply List.filterMap_congr
  intro datagram _
  unfold isFor
  cases address datagram with
  | none => rfl
  | some addressed =>
    by_cases h : addressed.1 = channel
    · simp [h, Option.filter]
    · simp [h, Option.filter]

end Simulation

/-! ## One channel beside another -/

section TwoChannels

variable {router : LiveRouter} {v a b : UInt64} {queueA queueB : BoundedQueue}
  {incoming : List (List UInt8)}

theorem inv_start (hA : router.queue (v, a) = some queueA) (hB : router.queue (v, b) = some queueB)
    (hincoming : ∀ datagram ∈ incoming,
      isFor (v, a) datagram = true ∨ isFor (v, b) datagram = true) :
    Inv (capacity router) (start router incoming) where
  running := rfl
  known := by
    intro datagram hmem
    obtain ⟨channel, payload, haddress, rfl | rfl⟩ := exists_address (hincoming datagram hmem)
    · exact ⟨(v, a), payload, queueA, haddress, hA⟩
    · exact ⟨(v, b), payload, queueB, haddress, hB⟩
  capacities := rfl

end TwoChannels

/-- **Starvation.**  Let a conversation have the channels `a` and `b`, and let only datagrams for
    these two arrive.  From every state the loop and the consumer of `b` get to a state where
    the loop waits and the queue of `b` is drained.  What the loop has enqueued for `b` by then
    is what it would have enqueued without the datagrams for `a` exactly if the queue of `b`
    has no capacity at all, or if before each datagram for `b` there are no more datagrams for
    `a` than the queue of `a` had room for and its consumer has received. -/
theorem enqueued_without_other_iff {router : LiveRouter} {v a b : UInt64} (hab : a ≠ b)
    {queueA queueB : BoundedQueue} (hA : router.queue (v, a) = some queueA)
    (hB : router.queue (v, b) = some queueB) {incoming : List (List UInt8)}
    (hincoming : ∀ datagram ∈ incoming,
      isFor (v, a) datagram = true ∨ isFor (v, b) datagram = true) :
    (∀ as s, Run step anyStep (start router incoming) as s →
      ∃ bs t, (∀ action ∈ bs, action = .dispatch ∨ action = .take (v, b)) ∧
        Run step anyStep s bs t ∧ Settled (v, b) t) ∧
    ∀ as s bs t,
      Run step anyStep (start router incoming) as s → Settled (v, b) s →
      Run step anyStep (start router (incoming.filter fun datagram => !isFor (v, a) datagram))
        bs t → Settled (v, b) t →
      (s.enqueued (v, b) = t.enqueued (v, b) ↔
        queueB.queue.capacity = 0 ∨
        InTime (v, a) (v, b)
          (queueA.queue.capacity - queueA.queue.items.length + as.count (.take (v, a)))
          (incoming.filterMap address)) := by
  constructor
  · intro as s hrun
    have hs : Inv (capacity router) s := (inv_start hA hB hincoming).run hrun
    obtain ⟨bs, u, hbs, hdispatched, hsettled⟩ :=
      HeadOfLine.exists_settled (capacity router) (v, b) s.toDispatcher
    obtain ⟨t, ht, rfl⟩ := hdispatched.lift (fun _ a h => h.map_step a)
      (fun _ _ _ h hstep => h.step hstep) hs
    exact ⟨bs, t, hbs, ht, ((hs.run ht).settled_iff (v, b)).mpr hsettled⟩
  · intro as s bs t hs hsettled ht hsettled'
    have hfiltered : ∀ datagram ∈ incoming.filter fun datagram => !isFor (v, a) datagram,
        isFor (v, a) datagram = true ∨ isFor (v, b) datagram = true :=
      fun datagram hmem => hincoming datagram (List.mem_filter.mp hmem).1
    have hinv := inv_start hA hB hincoming
    have hinv' := inv_start hA hB hfiltered
    -- the two runs as runs of a dispatcher, the second without the items of `a`
    have hdispatched' := hinv'.simulate ht
    have hinput : (start router
          (incoming.filter fun datagram => !isFor (v, a) datagram)).toDispatcher =
        { (start router incoming).toDispatcher with
          input := (incoming.filterMap address).filter fun addressed => addressed.1 ≠ (v, a) } := by
      simp only [State.toDispatcher, start, filterMap_address_filter]
    rw [hinput] at hdispatched'
    have hne : (v, a) ≠ (v, b) := fun heq => hab (Prod.mk.inj heq).2
    have hiff := HeadOfLine.handed_eq_iff hne ?_ ?_ (hinv.simulate hs)
      (((hinv.run hs).settled_iff (v, b)).mp hsettled) hdispatched'
      (((hinv'.run ht).settled_iff (v, b)).mp hsettled')
    · have hbuffer : (start router incoming).toDispatcher.buffer (v, a) = queueA.queue.items :=
        items_of_queue hA
      rw [hbuffer, capacity_of_queue hA, capacity_of_queue hB] at hiff
      exact hiff
    · rw [capacity_of_queue hA]
      show (items router (v, a)).length ≤ _
      rw [items_of_queue hA]
      exact queueA.fits
    · intro addressed hmem
      obtain ⟨datagram, hdatagram, haddress⟩ := List.mem_filterMap.mp hmem
      obtain ⟨channel, payload, hpayload, hchannel⟩ :=
        exists_address (hincoming datagram hdatagram)
      cases haddress.symm.trans hpayload
      exact hchannel

/-- Channel 4 has room for one datagram, and the one for channel 8 comes right behind it. -/
theorem enqueued_without_other_in_time :
    ∃ s t, Run step anyStep (start sampleRouter [[0, 4, 1], [0, 8, 3]])
        [.dispatch, .dispatch, .take (0, 8)] s ∧
      Run step anyStep (start sampleRouter [[0, 8, 3]]) [.dispatch, .take (0, 8)] t ∧
      s.enqueued (0, 8) = t.enqueued (0, 8) := by
  have hA : sampleRouter.queue (0, 4) = some (BoundedQueue.new 1) := rfl
  have hB : sampleRouter.queue (0, 8) = some (BoundedQueue.new 1) := rfl
  have htime : InTime (0, 4) (0, 8) (1 - 0 + 0) ([[0, 4, 1], [0, 8, 3]].filterMap address) := by
    intro pre x post hsplit _
    -- there is one datagram for channel 4 in all
    have hcount : (HeadOfLine.itemsFor (0, 4)
        ([[0, 4, 1], [0, 8, 3]].filterMap address)).length = 1 := rfl
    rw [hsplit, HeadOfLine.itemsFor_append, List.length_append] at hcount
    omega
  have hincoming : ∀ datagram ∈ [[0, 4, 1], [0, 8, 3]],
      isFor (0, 4) datagram = true ∨ isFor (0, 8) datagram = true := by decide
  have hboth : ∃ s, Run step anyStep (start sampleRouter [[0, 4, 1], [0, 8, 3]])
      [.dispatch, .dispatch, .take (0, 8)] s ∧ Settled (0, 8) s :=
    ⟨_, run_of_exec rfl, rfl, rfl⟩
  have halone : ∃ t, Run step anyStep (start sampleRouter [[0, 8, 3]])
      [.dispatch, .take (0, 8)] t ∧ Settled (0, 8) t :=
    ⟨_, run_of_exec rfl, rfl, rfl⟩
  obtain ⟨s, hs, hsettled⟩ := hboth
  obtain ⟨t, ht, hsettled'⟩ := halone
  have hiff := (enqueued_without_other_iff (by decide) hA hB hincoming).2 _ s _ t hs hsettled ht
    hsettled'
  exact ⟨s, t, hs, ht, hiff.mpr (.inr htime)⟩

/-- Nobody receives from channel 4, whose queue has room for one datagram.  The loop waits with
    the second one for ever, and the datagram for channel 8 stays behind it. -/
theorem datagram_stuck_behind_full_queue :
    ∃ s t, Run step anyStep (start sampleRouter [[0, 4, 1], [0, 4, 2], [0, 8, 3]]) [.dispatch] s ∧
      Settled (0, 8) s ∧
      Run step anyStep (start sampleRouter
        ([[0, 4, 1], [0, 4, 2], [0, 8, 3]].filter fun datagram => !isFor (0, 4) datagram))
        [.dispatch, .take (0, 8)] t ∧
      Settled (0, 8) t ∧ s.enqueued (0, 8) = [] ∧ t.enqueued (0, 8) = [[3]] :=
  ⟨_, _, run_of_exec rfl, ⟨rfl, rfl⟩, run_of_exec rfl, ⟨rfl, rfl⟩, rfl, rfl⟩

end Ssh3.Server.RouteDatagrams
