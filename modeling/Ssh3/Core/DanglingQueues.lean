/-
  Ssh3.Core.DanglingQueues

  How many queues a conversation sets aside for channels that are not registered
  (`dangling_datagram_queues` in `ssh3-core/src/conversation.rs`).

  A queue is set aside for every channel id that a datagram names, and taken away when a channel
  with this id is registered.  Nothing else limits their number: the Go implementation keeps at
  most `maxDanglingDatagramChannels` of them.
-/

import Mathlib.Data.List.Range
import Ssh3.Core.ChannelQueues
import Ssh3.Lib.Transition

namespace Ssh3.Core.LiveConversation

open Proto Transition VarInt
open Reordering (DANGLING_DATAGRAM_QUEUE_SIZE)

/-! ## The life of a conversation -/

def new (controlStreamId : UInt64) (conversationId : ConversationId)
    (defaultDatagramsQueueSize : Nat) : LiveConversation where
  controlStreamId
  conversationId
  defaultDatagramsQueueSize
  channels := ∅
  danglingDatagramQueues := ∅

/-- `add_channel`; the queue set aside takes the place of the queue of the channel. -/
def addChannel (self : LiveConversation) (channelId : UInt64) (queue : BoundedQueue) :
    LiveConversation :=
  { self with
    channels := self.channels.insert channelId
      ((self.danglingDatagramQueues.lookup channelId).getD queue)
    danglingDatagramQueues := self.danglingDatagramQueues.erase channelId }

/-- What happens to a conversation -/
inductive Event where
  /-- The peer sends a datagram. -/
  | datagram (bytes : List UInt8)
  /-- A channel is opened, or one that was accepted is registered. -/
  | addChannel (channelId : UInt64) (datagramsQueueSize : Nat)
  /-- The reader of a channel takes a datagram. -/
  | receive (channelId : UInt64)
  deriving DecidableEq, Repr

/-- `none` while a datagram waits for room, or a reader for a datagram -/
def step (self : LiveConversation) : Event → Option LiveConversation
  | .datagram bytes => (self.addDatagram bytes).map Prod.snd
  | .addChannel channelId datagramsQueueSize =>
    some (self.addChannel channelId (BoundedQueue.new datagramsQueueSize))
  | .receive channelId => do
    let queue ← self.getChannel channelId
    let received ← queue.next
    return self.setQueue channelId received.2

/-- `dangling_datagram_queues.len()` -/
def danglingLen (self : LiveConversation) : Nat := self.danglingDatagramQueues.keys.length

/-- No conversation ever sets more than `bound` queues aside. -/
def DanglingBounded (bound : Nat) : Prop :=
  ∀ controlStreamId conversationId defaultDatagramsQueueSize events s,
    Run step anyStep (new controlStreamId conversationId defaultDatagramsQueueSize) events s →
      s.danglingLen ≤ bound

/-! ## What one event does -/

section Step

variable {self t : LiveConversation}

/-- What each event does, by what the datagram names -/
inductive Stepped (self : LiveConversation) : Event → LiveConversation → Prop
  | unreadable {bytes : List UInt8} {err : Error} (read : readVarInt.run bytes = .error err) :
      Stepped self (.datagram bytes) self
  | handed {bytes payload : List UInt8} {channelId : UInt64} {queue queue' : BoundedQueue}
      (read : readVarInt.run bytes = .ok (channelId, payload))
      (registered : self.getChannel channelId = some queue) :
      Stepped self (.datagram bytes) (self.setQueue channelId queue')
  | setAside {bytes payload : List UInt8} {channelId : UInt64} {queue : BoundedQueue}
      (read : readVarInt.run bytes = .ok (channelId, payload))
      (unregistered : self.getChannel channelId = none) :
      Stepped self (.datagram bytes)
        { self with danglingDatagramQueues := self.danglingDatagramQueues.insert channelId queue }
  | added {channelId : UInt64} {datagramsQueueSize : Nat} :
      Stepped self (.addChannel channelId datagramsQueueSize)
        (self.addChannel channelId (BoundedQueue.new datagramsQueueSize))
  | received {channelId : UInt64} {queue queue' : BoundedQueue}
      (registered : self.getChannel channelId = some queue) :
      Stepped self (.receive channelId) (self.setQueue channelId queue')

theorem stepped_of_step {event : Event} (h : self.step event = some t) :
    Stepped self event t := by
  cases event with
  | datagram bytes =>
    cases hread : readVarInt.run bytes with
    | error err =>
      rw [step, addDatagram_of_error hread] at h
      cases h
      exact .unreadable hread
    | ok value =>
      obtain ⟨channelId, payload⟩ := value
      cases hchannel : self.getChannel channelId with
      | none =>
        rw [step, addDatagram_of_unregistered hread hchannel] at h
        cases h
        exact .setAside hread hchannel
      | some queue =>
        rw [step, addDatagram_of_registered hread hchannel, Option.map_map] at h
        obtain ⟨queue', -, rfl⟩ := Option.map_eq_some_iff.mp h
        exact .handed hread hchannel
  | addChannel channelId datagramsQueueSize =>
    cases h
    exact .added
  | receive channelId =>
    obtain ⟨queue, hchannel, h⟩ := Option.bind_eq_some_iff.mp h
    obtain ⟨taken, -, h⟩ := Option.bind_eq_some_iff.mp h
    cases h
    exact .received hchannel

end Step

/-! ## Which queues are set aside -/

/-- The channel that a datagram names -/
def Event.named? : Event → Option UInt64
  | .datagram bytes => (readVarInt.run bytes).toOption.map Prod.fst
  | _ => none

def Event.registered? : Event → Option UInt64
  | .addChannel channelId _ => some channelId
  | _ => none

def named (events : List Event) : List UInt64 := events.filterMap Event.named?

def registered (events : List Event) : List UInt64 := events.filterMap Event.registered?

/-- The queues are those of the channels that were named and never registered. -/
structure Tracks (events : List Event) (s : LiveConversation) : Prop where
  channels : ∀ id, (s.getChannel id).isSome = true ↔ id ∈ registered events
  dangling : ∀ id, id ∈ s.danglingDatagramQueues ↔ id ∈ named events ∧ id ∉ registered events

variable {event : Event} {events : List Event}

theorem mem_named_concat {id : UInt64} :
    id ∈ named (events ++ [event]) ↔ id ∈ named events ∨ event.named? = some id :=
  mem_filterMap_concat

theorem mem_registered_concat {id : UInt64} :
    id ∈ registered (events ++ [event]) ↔ id ∈ registered events ∨ event.registered? = some id :=
  mem_filterMap_concat

theorem named?_of_ok {bytes payload : List UInt8} {channelId : UInt64}
    (h : readVarInt.run bytes = .ok (channelId, payload)) :
    (Event.datagram bytes).named? = some channelId := by
  rw [Event.named?, h]
  rfl

theorem named?_of_error {bytes : List UInt8} {err : Error}
    (h : readVarInt.run bytes = .error err) : (Event.datagram bytes).named? = none := by
  rw [Event.named?, h]
  rfl

theorem tracks_new (controlStreamId : UInt64) (conversationId : ConversationId)
    (defaultDatagramsQueueSize : Nat) :
    Tracks [] (new controlStreamId conversationId defaultDatagramsQueueSize) := by
  constructor
  · intro id
    simp [new, getChannel, registered]
  · intro id
    simp [new, named]

/-- A channel's queue may change; which channels there are does not. -/
theorem isSome_getChannel_setQueue {self : LiveConversation} {channelId : UInt64}
    {queue queue' : BoundedQueue} (h : self.getChannel channelId = some queue) (id : UInt64) :
    ((self.setQueue channelId queue').getChannel id).isSome = (self.getChannel id).isSome := by
  rw [getChannel_setQueue]
  by_cases hid : id = channelId
  · rw [if_pos hid, hid, h]
    rfl
  · rw [if_neg hid]

/-- **Step lemma.**  An event leaves queues for the channels that were named and never
    registered. -/
theorem Tracks.stepped {self t : LiveConversation}
    (h : Tracks events self) (hstep : Stepped self event t) : Tracks (events ++ [event]) t := by
  have hregistered : ∀ {channelId queue}, self.getChannel channelId = some queue →
      channelId ∈ registered events := by
    intro channelId queue hchannel
    rw [← h.channels, hchannel]
    rfl
  cases hstep with
  | unreadable read =>
    constructor
    · intro id
      simpa [mem_registered_concat, Event.registered?] using h.channels id
    · intro id
      simpa [mem_registered_concat, mem_named_concat, Event.registered?, named?_of_error read]
        using h.dangling id
  | @handed bytes payload channelId queue queue' read channel =>
    constructor
    · intro id
      rw [isSome_getChannel_setQueue channel]
      simpa [mem_registered_concat, Event.registered?] using h.channels id
    · -- the channel that is named has been registered
      intro id
      have hid : channelId = id → id ∈ registered events := by
        rintro rfl
        exact hregistered channel
      have hdangling : id ∈ (self.setQueue channelId queue').danglingDatagramQueues ↔ _ :=
        h.dangling id
      rw [hdangling, mem_named_concat, mem_registered_concat, named?_of_ok read]
      simp only [Event.registered?, Option.some.injEq, reduceCtorEq, or_false]
      tauto
  | @setAside bytes payload channelId queue read channel =>
    have hnot : channelId ∉ registered events := by
      rw [← h.channels, channel]
      exact Bool.false_ne_true
    constructor
    · intro id
      simpa [mem_registered_concat, Event.registered?, getChannel] using h.channels id
    · intro id
      have hid : channelId = id → id ∉ registered events := by
        rintro rfl
        exact hnot
      rw [AList.mem_insert, h.dangling, mem_named_concat, mem_registered_concat,
        named?_of_ok read]
      simp only [Event.registered?, Option.some.injEq, reduceCtorEq, or_false, eq_comm (a := id)]
      tauto
  | @added channelId datagramsQueueSize =>
    constructor
    · intro id
      rw [mem_registered_concat, ← h.channels]
      simp only [Event.registered?, Option.some.injEq]
      by_cases hid : id = channelId
      · subst hid
        simp [getChannel, addChannel]
      · rw [getChannel, addChannel, AList.lookup_insert_ne hid, or_iff_left (Ne.symm hid)]
        rfl
    · intro id
      rw [mem_registered_concat, mem_named_concat]
      simp only [Event.registered?, Event.named?, addChannel, Option.some.injEq, reduceCtorEq,
        or_false, not_or]
      rw [AList.mem_erase, h.dangling, and_comm (a := id ≠ channelId), and_assoc]
      simp only [ne_eq, eq_comm (a := id)]
  | received channel =>
    constructor
    · intro id
      rw [isSome_getChannel_setQueue channel]
      simpa [mem_registered_concat, Event.registered?] using h.channels id
    · intro id
      simpa [mem_registered_concat, mem_named_concat, Event.registered?, Event.named?, setQueue]
        using h.dangling id

/-- **Run lemma.**  There are queues for the channels that were named and never registered,
    whatever the events since the start. -/
theorem tracks_of_run {controlStreamId : UInt64} {conversationId : ConversationId}
    {defaultDatagramsQueueSize : Nat} {s : LiveConversation}
    (h : Run step anyStep (new controlStreamId conversationId defaultDatagramsQueueSize) events s) :
    Tracks events s := by
  refine h.history (fun before s event t htracks _ hstep => ?_) (tracks_new _ _ _)
  exact htracks.stepped (stepped_of_step hstep)

/-! ## How many there are -/

section Count

variable {controlStreamId : UInt64} {conversationId : ConversationId}
  {defaultDatagramsQueueSize : Nat} {events : List Event} {s : LiveConversation}

/-- A channel id on the wire has 62 bits. -/
theorem toNat_lt_of_mem_named {id : UInt64} (h : id ∈ named events) : id.toNat < 2 ^ 62 := by
  obtain ⟨event, -, hevent⟩ := List.mem_filterMap.mp h
  cases event with
  | datagram bytes =>
    cases hread : readVarInt.run bytes with
    | error err => cases (named?_of_error hread).symm.trans hevent
    | ok value =>
      cases (named?_of_ok hread).symm.trans hevent
      obtain ⟨pre, -, hvar⟩ := readVarIntFrom_sound _ _ hread
      have hle := hvar.le_max
      simp only [maxVarInt] at hle
      omega
  | addChannel => cases hevent
  | receive => cases hevent

theorem danglingLen_le
    (hrun : Run step anyStep
      (new controlStreamId conversationId defaultDatagramsQueueSize) events s) :
    s.danglingLen ≤ 2 ^ 62 := by
  have htracks := tracks_of_run hrun
  have hnodup : (s.danglingDatagramQueues.keys.map UInt64.toNat).Nodup :=
    s.danglingDatagramQueues.keys_nodup.map fun _ _ => UInt64.toNat_inj.mp
  have hsubset : s.danglingDatagramQueues.keys.map UInt64.toNat ⊆ List.range (2 ^ 62) := by
    intro n hn
    obtain ⟨id, hid, rfl⟩ := List.mem_map.mp hn
    have hnamed := ((htracks.dangling id).mp (AList.mem_keys.mpr hid)).1
    exact List.mem_range.mpr (toNat_lt_of_mem_named hnamed)
  have hlength := (List.subperm_of_subset hnodup hsubset).length_le
  rwa [List.length_map, List.length_range] at hlength

/-- Datagrams for channels that nobody has opened are all taken. -/
theorem run_datagrams (self : LiveConversation) (h : ∀ id, self.getChannel id = none)
    (datagrams : List (List UInt8)) :
    ∃ t, Run step anyStep self (datagrams.map Event.datagram) t := by
  induction datagrams generalizing self with
  | nil => exact ⟨self, .nil self⟩
  | cons bytes datagrams ih =>
    obtain ⟨left, hstep, hleft⟩ : ∃ left, self.step (.datagram bytes) = some left ∧
        ∀ id, left.getChannel id = none := by
      cases hread : readVarInt.run bytes with
      | error err =>
        rw [step, addDatagram_of_error hread]
        exact ⟨_, rfl, h⟩
      | ok value =>
        rw [step, addDatagram_of_unregistered hread (h value.1)]
        exact ⟨_, rfl, h⟩
    obtain ⟨t, hrun⟩ := ih left hleft
    exact ⟨t, .cons trivial hstep hrun⟩

/-- An empty datagram for each of the first `n` channel ids -/
def flood (n : Nat) : List (List UInt8) :=
  (List.range n).map fun i => varIntBytes (UInt64.ofNat i)

theorem mem_named_flood {n i : Nat} (hi : i < n) (hn : n ≤ 2 ^ 62) :
    UInt64.ofNat i ∈ named ((flood n).map Event.datagram) := by
  have hlt : i < 2 ^ 64 := by omega
  have htoNat : (UInt64.ofNat i).toNat = i := UInt64.toNat_ofNat_of_lt hlt
  have hle : UInt64.ofNat i ≤ MAX_VARINT := by
    rw [UInt64.le_iff_toNat_le, htoNat]
    show i ≤ 4611686018427387903
    omega
  have hread : readVarInt.run (varIntBytes (UInt64.ofNat i)) = .ok (UInt64.ofNat i, []) := by
    have hreads := reads_readVarIntFrom (Error.io .unexpectedEof) id (isVarInt_varIntBytes hle) []
    rwa [List.append_nil] at hreads
  refine List.mem_filterMap.mpr ⟨.datagram (varIntBytes (UInt64.ofNat i)), ?_, named?_of_ok hread⟩
  exact List.mem_map_of_mem (List.mem_map_of_mem (List.mem_range.mpr hi))

/-- Each of them has its queue. -/
theorem flooded (controlStreamId : UInt64) (conversationId : ConversationId)
    (defaultDatagramsQueueSize : Nat) {n : Nat} (hn : n ≤ 2 ^ 62) :
    ∃ s, Run step anyStep (new controlStreamId conversationId defaultDatagramsQueueSize)
      ((flood n).map Event.datagram) s ∧ n ≤ s.danglingLen := by
  obtain ⟨s, hrun⟩ := run_datagrams
    (new controlStreamId conversationId defaultDatagramsQueueSize) (fun _ => rfl) (flood n)
  have htracks := tracks_of_run hrun
  have hinj : ∀ i ∈ List.range n, ∀ j ∈ List.range n, UInt64.ofNat i = UInt64.ofNat j → i = j := by
    intro i hi j hj heq
    have hi : i < 2 ^ 64 := by have := List.mem_range.mp hi; omega
    have hj : j < 2 ^ 64 := by have := List.mem_range.mp hj; omega
    have htoNat := congrArg UInt64.toNat heq
    exact (UInt64.toNat_ofNat_of_lt hi).symm.trans (htoNat.trans (UInt64.toNat_ofNat_of_lt hj))
  have hnodup : ((List.range n).map UInt64.ofNat).Nodup :=
    List.nodup_range.map_on hinj
  have hsubset : (List.range n).map UInt64.ofNat ⊆ s.danglingDatagramQueues.keys := by
    intro id hid
    obtain ⟨i, hi, rfl⟩ := List.mem_map.mp hid
    refine AList.mem_keys.mp ((htracks.dangling _).mpr ⟨?_, ?_⟩)
    · exact mem_named_flood (List.mem_range.mp hi) hn
    · -- no channel was opened
      simp [registered, Event.registered?]
  have hlength := (List.subperm_of_subset hnodup hsubset).length_le
  rw [List.length_map, List.length_range] at hlength
  exact ⟨s, hrun, hlength⟩

end Count

theorem danglingBounded_iff (bound : Nat) : DanglingBounded bound ↔ 2 ^ 62 ≤ bound := by
  constructor
  · intro h
    by_contra hlt
    have hsucc : bound + 1 ≤ 2 ^ 62 := by omega
    obtain ⟨s, hrun, hlen⟩ := flooded 0 zeroConversation 0 hsucc
    have hle := h _ _ _ _ s hrun
    omega
  · intro h controlStreamId conversationId defaultDatagramsQueueSize events s hrun
    exact (danglingLen_le hrun).trans h

/-- The bound of the Go implementation does not hold. -/
theorem dangling_exceeds_128 :
    ∃ s, Run step anyStep (new 0 zeroConversation 10) ((flood 129).map Event.datagram) s ∧
      ((flood 129).map Event.datagram).length = 129 ∧ 128 < s.danglingLen ∧
      ¬DanglingBounded 128 := by
  obtain ⟨s, hrun, hlen⟩ := flooded 0 zeroConversation 10 (show 129 ≤ 2 ^ 62 by decide)
  refine ⟨s, hrun, ?_, hlen, fun h => ?_⟩
  · rw [List.length_map, flood, List.length_map, List.length_range]
  · have hle := h _ _ _ _ s hrun
    omega

end Ssh3.Core.LiveConversation
