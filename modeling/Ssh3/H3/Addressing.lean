/-
  Ssh3.H3.Addressing

  `ssh3-h3/src/lib.rs`: where a datagram ends up, from the bytes that
  `ConversationDatagramSender::send` builds on one side to the queue that
  `route_registered_datagram` adds the payload to on the other.

  `Ssh3.H3.Datagrams` has the same function without the queues; what it calls a
  delivery is an addition to the queue of a channel here.
-/

import Ssh3.Core.ChannelQueues
import Ssh3.Core.Endpoint
import Ssh3.H3.Datagrams

namespace Ssh3.H3

open Proto Ssh3.Core Quinn StreamCodec VarInt

/-! ## The router and the queues behind it -/

/-- `IncomingChannelRouter`, with all that its conversations hold. -/
structure LiveRouter where
  conversations : AList fun _ : UInt64 => LiveConversation
  controlStreamId_of_lookup : ∀ {controlStreamId : UInt64} {conversation : LiveConversation},
    conversations.lookup controlStreamId = some conversation →
      conversation.controlStreamId = controlStreamId

namespace LiveRouter

def new : LiveRouter := ⟨∅, nofun⟩

def conversation (self : LiveRouter) (controlStreamId : UInt64) : Option LiveConversation :=
  self.conversations.lookup controlStreamId

theorem lookup_insert (self : LiveRouter) (conversation : LiveConversation)
    (controlStreamId : UInt64) :
    (self.conversations.insert conversation.controlStreamId conversation).lookup controlStreamId =
      if controlStreamId = conversation.controlStreamId then some conversation
      else self.conversation controlStreamId := by
  by_cases h : controlStreamId = conversation.controlStreamId
  · subst h
    rw [if_pos rfl]
    exact AList.lookup_insert _
  · rw [if_neg h]
    exact AList.lookup_insert_ne h

def registerConversation (self : LiveRouter) (conversation : LiveConversation) : LiveRouter where
  conversations := self.conversations.insert conversation.controlStreamId conversation
  controlStreamId_of_lookup := by
    intro controlStreamId found h
    rw [lookup_insert] at h
    by_cases heq : controlStreamId = conversation.controlStreamId
    · rw [if_pos heq] at h
      cases h
      exact heq.symm
    · rw [if_neg heq] at h
      exact self.controlStreamId_of_lookup h

theorem conversation_registerConversation (self : LiveRouter) (conversation : LiveConversation)
    (controlStreamId : UInt64) :
    (self.registerConversation conversation).conversation controlStreamId =
      if controlStreamId = conversation.controlStreamId then some conversation
      else self.conversation controlStreamId :=
  self.lookup_insert conversation controlStreamId

/-- The `match` on the result of `add_datagram`.  The conversation that is returned stands as its
    control stream. -/
def afterAdd (controlStreamId : UInt64) :
    Except ConversationError Unit → Except DatagramDispatchError (Option UInt64)
  | .ok () | .error (.channelNotFound _) => .ok (some controlStreamId)
  | .error err => .error (.conversation err)

/-- `none` while the call waits for room in a queue. -/
def routeRegisteredDatagram (self : LiveRouter) (datagram : List UInt8) :
    Option (Except DatagramDispatchError (Option UInt64) × LiveRouter) :=
  match readVarInt.run datagram with
  | .error err => some (.error (.proto err), self)
  | .ok (controlStreamId, rest) =>
    match self.conversation controlStreamId with
    | none => some (.ok none, self)
    | some conversation => do
      let (result, conversation) ← conversation.addDatagram rest
      -- the conversation is shared, so that the router sees what has become of it
      return (afterAdd controlStreamId result, self.registerConversation conversation)

end LiveRouter

/-! ## Addresses -/

/-- The control stream of a conversation and one of its channels. -/
abbrev ChannelAddress := UInt64 × UInt64

/-- The two numbers in front of a payload. -/
def address (datagram : List UInt8) : Option (ChannelAddress × List UInt8) :=
  match readVarInt.run datagram with
  | .error _ => none
  | .ok (controlStreamId, rest) =>
    match readVarInt.run rest with
    | .error _ => none
    | .ok (channelId, payload) => some ((controlStreamId, channelId), payload)

theorem address_eq_some {datagram payload : List UInt8} {channel : ChannelAddress} :
    address datagram = some (channel, payload) ↔
      ∃ rest, readVarInt.run datagram = .ok (channel.1, rest) ∧
        readVarInt.run rest = .ok (channel.2, payload) := by
  obtain ⟨v, c⟩ := channel
  unfold address
  rcases readVarInt.run datagram with err | ⟨v', rest⟩
  · simp
  · rcases hrest : readVarInt.run rest with err | ⟨c', payload'⟩
    · simp only [hrest, Except.ok.injEq, Prod.mk.injEq, reduceCtorEq, false_iff]
      rintro ⟨rest', ⟨-, rfl⟩, h⟩
      cases hrest.symm.trans h
    · simp only [hrest, Option.some.injEq, Except.ok.injEq, Prod.mk.injEq]
      constructor
      · rintro ⟨⟨rfl, rfl⟩, rfl⟩
        exact ⟨rest, ⟨rfl, rfl⟩, hrest⟩
      · rintro ⟨rest', ⟨rfl, rfl⟩, h⟩
        cases hrest.symm.trans h
        exact ⟨⟨rfl, rfl⟩, rfl⟩

/-- Two numbers below 2^62 can be sent, and are read back by the two layers in turn. -/
theorem exists_frame (sender : ConversationDatagramSender)
    (hcontrol : sender.controlStreamId ≤ MAX_VARINT) (hchannel : sender.channelId ≤ MAX_VARINT)
    (payload : List UInt8) :
    ∃ bytes, sender.frame payload = .ok bytes ∧
      address bytes = some ((sender.controlStreamId, sender.channelId), payload) := by
  refine ⟨varIntBytes sender.controlStreamId ++ (varIntBytes sender.channelId ++ payload), ?_, ?_⟩
  · unfold ConversationDatagramSender.frame
    rw [appendVarInt_eq hcontrol, List.nil_append, ok_bind, appendVarInt_eq hchannel,
      ok_bind, List.append_assoc]
    rfl
  · exact address_eq_some.mpr ⟨varIntBytes sender.channelId ++ payload,
      reads_readVarIntFrom _ _ (isVarInt_varIntBytes hcontrol) _,
      reads_readVarIntFrom _ _ (isVarInt_varIntBytes hchannel) _⟩

namespace LiveRouter

def queue (self : LiveRouter) (channel : ChannelAddress) : Option BoundedQueue :=
  (self.conversation channel.1).bind fun conversation => conversation.getChannel channel.2

def setQueue (self : LiveRouter) (channel : ChannelAddress) (queue : BoundedQueue) : LiveRouter :=
  match self.conversation channel.1 with
  | none => self
  | some conversation => self.registerConversation (conversation.setQueue channel.2 queue)

/-- `t` differs from `s` at most in one channel's queue: the other channels and conversations are
    as they were, and so is all else of the channel's own conversation, its dangling queues
    included. -/
structure SameBut (channel : ChannelAddress) (s t : LiveRouter) : Prop where
  queue : ∀ other, other ≠ channel → t.queue other = s.queue other
  conversation : ∀ controlStreamId, controlStreamId ≠ channel.1 →
    t.conversation controlStreamId = s.conversation controlStreamId
  apart : (t.conversation channel.1).map (fun conversation => { conversation with channels := ∅ }) =
    (s.conversation channel.1).map fun conversation => { conversation with channels := ∅ }

section SetQueue

variable {self : LiveRouter} {channel : ChannelAddress} {old : BoundedQueue}

theorem queue_eq_some : self.queue channel = some old ↔
    ∃ conversation, self.conversation channel.1 = some conversation ∧
      conversation.getChannel channel.2 = some old :=
  Option.bind_eq_some_iff

theorem setQueue_of_conversation {conversation : LiveConversation}
    (h : self.conversation channel.1 = some conversation) (queue : BoundedQueue) :
    self.setQueue channel queue =
      self.registerConversation (conversation.setQueue channel.2 queue) := by
  rw [setQueue, h]

theorem conversation_setQueue {conversation : LiveConversation}
    (h : self.conversation channel.1 = some conversation) (queue : BoundedQueue)
    (controlStreamId : UInt64) :
    (self.setQueue channel queue).conversation controlStreamId =
      if controlStreamId = channel.1 then some (conversation.setQueue channel.2 queue)
      else self.conversation controlStreamId := by
  have hcontrol : (conversation.setQueue channel.2 queue).controlStreamId = channel.1 := by
    show conversation.controlStreamId = channel.1
    exact self.controlStreamId_of_lookup h
  rw [setQueue_of_conversation h, conversation_registerConversation, hcontrol]

theorem queue_setQueue (h : self.queue channel = some old) (queue : BoundedQueue)
    (other : ChannelAddress) :
    (self.setQueue channel queue).queue other =
      if other = channel then some queue else self.queue other := by
  obtain ⟨conversation, hconversation, hchannel⟩ := queue_eq_some.mp h
  obtain ⟨v, c⟩ := channel
  obtain ⟨v', c'⟩ := other
  unfold LiveRouter.queue
  rw [conversation_setQueue hconversation]
  by_cases hv : v' = v
  · subst hv
    simp only [if_true, Option.bind_some, LiveConversation.getChannel_setQueue, hconversation,
      Prod.mk.injEq, true_and]
  · simp only [hv, if_false, Prod.mk.injEq, false_and]

theorem sameBut_setQueue (h : self.queue channel = some old) (queue : BoundedQueue) :
    SameBut channel self (self.setQueue channel queue) := by
  obtain ⟨conversation, hconversation, hchannel⟩ := queue_eq_some.mp h
  refine ⟨fun other hne => ?_, fun id hne => ?_, ?_⟩
  · rw [queue_setQueue h, if_neg hne]
  · rw [conversation_setQueue hconversation, if_neg hne]
  · rw [conversation_setQueue hconversation, if_pos rfl, hconversation]
    rfl

end SetQueue

/-! ## What becomes of a datagram -/

section Route

variable {self : LiveRouter} {datagram rest payload : List UInt8} {v c : UInt64}
  {conversation : LiveConversation}

theorem route_of_error {err : Error} (h : readVarInt.run datagram = .error err) :
    self.routeRegisteredDatagram datagram = some (.error (.proto err), self) := by
  rw [routeRegisteredDatagram, h]

theorem route_of_unknown (h : readVarInt.run datagram = .ok (v, rest))
    (hnone : self.conversation v = none) :
    self.routeRegisteredDatagram datagram = some (.ok none, self) := by
  rw [routeRegisteredDatagram, h]
  simp only [hnone]

theorem route_of_known (h : readVarInt.run datagram = .ok (v, rest))
    (hconversation : self.conversation v = some conversation) :
    self.routeRegisteredDatagram datagram =
      (conversation.addDatagram rest).map fun added =>
        (afterAdd v added.1, self.registerConversation added.2) := by
  rw [routeRegisteredDatagram, h]
  simp only [hconversation]
  cases conversation.addDatagram rest with
  | none => rfl
  | some added => rfl

/-- A datagram for a registered channel goes to the queue of that channel, or waits for it. -/
theorem route_of_queue {channel : ChannelAddress} {queue : BoundedQueue}
    (h : address datagram = some (channel, payload)) (hqueue : self.queue channel = some queue) :
    self.routeRegisteredDatagram datagram =
      (queue.waitAdd payload).map fun added =>
        (.ok (some channel.1), self.setQueue channel added) := by
  obtain ⟨rest, hcontrol, hchannel⟩ := address_eq_some.mp h
  obtain ⟨conversation, hconversation, hfound⟩ := queue_eq_some.mp hqueue
  rw [route_of_known hcontrol hconversation,
    LiveConversation.addDatagram_of_registered hchannel hfound, Option.map_map]
  simp only [setQueue_of_conversation hconversation]
  rfl

/-- A datagram for another channel of a known conversation is set aside. -/
theorem route_of_unregistered (h : readVarInt.run datagram = .ok (v, rest))
    (hconversation : self.conversation v = some conversation)
    (hrest : readVarInt.run rest = .ok (c, payload)) (hnone : conversation.getChannel c = none) :
    self.routeRegisteredDatagram datagram = some (.ok (some v),
      self.registerConversation { conversation with
        danglingDatagramQueues := conversation.danglingDatagramQueues.insert c
          ((BoundedQueue.new Reordering.DANGLING_DATAGRAM_QUEUE_SIZE).add payload) }) := by
  rw [route_of_known h hconversation,
    LiveConversation.addDatagram_of_unregistered hrest hnone]
  rfl

/-- The queues of the channels depend on nothing else of a conversation. -/
theorem queue_registerConversation {conversation' : LiveConversation}
    (h : self.conversation v = some conversation) (hcontrol : conversation'.controlStreamId = v)
    (hchannels : conversation'.channels = conversation.channels) (channel : ChannelAddress) :
    (self.registerConversation conversation').queue channel = self.queue channel := by
  unfold LiveRouter.queue
  rw [conversation_registerConversation, hcontrol]
  by_cases hv : channel.1 = v
  · rw [if_pos hv, hv, h, Option.bind_some, Option.bind_some, LiveConversation.getChannel,
      hchannels, LiveConversation.getChannel]
  · rw [if_neg hv]

end Route

/-! ## Deliveries -/

/-- The router without the queues. -/
def view (self : LiveRouter) : IncomingChannelRouter where
  conversations := self.conversations.entries.map fun entry => entry.2.view

theorem conversation_view (self : LiveRouter) (v : UInt64) :
    self.view.conversation v = (self.conversation v).map LiveConversation.view := by
  have hcontrol : ∀ entry ∈ self.conversations.entries, entry.2.controlStreamId = entry.1 := by
    intro entry hentry
    exact self.controlStreamId_of_lookup (AList.mem_lookup_iff.mpr hentry)
  unfold view IncomingChannelRouter.conversation LiveRouter.conversation AList.lookup
  generalize self.conversations.entries = entries at hcontrol ⊢
  -- the first entry with the key is the first conversation with the control stream
  induction entries with
  | nil => rfl
  | cons entry entries ih =>
    obtain ⟨v', conversation⟩ := entry
    rw [List.forall_mem_cons] at hcontrol
    have hhead : conversation.view.controlStreamId = v' := hcontrol.1
    by_cases hv : v' = v
    · subst hv
      rw [List.dlookup_cons_eq]
      simp only [List.map_cons, List.find?_cons, hhead, decide_true, Option.map_some]
    · rw [List.dlookup_cons_ne _ _ (Ne.symm hv), ← ih hcontrol.2]
      simp only [List.map_cons, List.find?_cons, hhead, decide_eq_false hv]

/-- What each result of the function without queues stands for. -/
inductive Realises (self : LiveRouter) : Except DatagramDispatchError (Option Delivery) →
    Option (Except DatagramDispatchError (Option UInt64) × LiveRouter) → Prop
  | error {err : DatagramDispatchError} {t : LiveRouter} :
      (∀ v, t.conversation v = self.conversation v) →
      Realises self (.error err) (some (.error err, t))
  | delivery {delivery : Delivery} {queue : BoundedQueue} :
      self.queue (delivery.controlStreamId, delivery.channelId) = some queue →
      Realises self (.ok (some delivery)) ((queue.waitAdd delivery.payload).map fun added =>
        (.ok (some delivery.controlStreamId),
          self.setQueue (delivery.controlStreamId, delivery.channelId) added))
  | nothing {found : Option UInt64} {t : LiveRouter} :
      (∀ channel, t.queue channel = self.queue channel) →
      Realises self (.ok none) (some (.ok found, t))

/-- **Refinement.**  Routing with the queues does what routing without them says: the same
    errors, and each delivery is an addition to the queue of its channel. -/
theorem realises_view (self : LiveRouter) (datagram : List UInt8) :
    Realises self (H3.routeRegisteredDatagram self.view datagram)
      (self.routeRegisteredDatagram datagram) := by
  rw [routeRegisteredDatagram_eq_route]
  rcases hread : readVarInt.run datagram with err | ⟨v, rest⟩
  · rw [H3.route_of_control_error hread, route_of_error hread]
    exact .error fun _ => rfl
  · cases hconversation : self.conversation v with
    | none =>
      have hfind : self.view.conversation v = none := by
        rw [conversation_view, hconversation]
        rfl
      rw [H3.route_of_find_none hread hfind, route_of_unknown hread hconversation]
      exact .nothing fun _ => rfl
    | some conversation =>
      have hcontrol : conversation.controlStreamId = v :=
        self.controlStreamId_of_lookup hconversation
      have hfind : self.view.conversation v = some conversation.view := by
        rw [conversation_view, hconversation]
        rfl
      rcases hrest : readVarInt.run rest with err | ⟨c, payload⟩
      · rw [H3.route_of_channel_error hread hfind hrest, route_of_known hread hconversation,
          LiveConversation.addDatagram_of_error hrest]
        refine .error fun id => ?_
        rw [conversation_registerConversation, hcontrol]
        by_cases hid : id = v
        · rw [if_pos hid, hid, hconversation]
        · rw [if_neg hid]
      · rw [H3.route_of_channel hread hfind hrest]
        cases hqueue : conversation.getChannel c with
        | none =>
          have hmem : c ∉ conversation.view.channels := by
            rw [LiveConversation.mem_view_channels, hqueue]
            rintro ⟨queue, hsome⟩
            cases hsome
          rw [if_neg hmem, route_of_unregistered hread hconversation hrest hqueue]
          exact .nothing (queue_registerConversation hconversation hcontrol rfl)
        | some queue =>
          have hmem : c ∈ conversation.view.channels :=
            LiveConversation.mem_view_channels.mpr ⟨queue, hqueue⟩
          have hfound : self.queue (v, c) = some queue :=
            queue_eq_some.mpr ⟨conversation, hconversation, hqueue⟩
          rw [if_pos hmem,
            route_of_queue (address_eq_some.mpr ⟨rest, hread, hrest⟩) hfound]
          exact .delivery hfound

end LiveRouter

/-- **Addressing.**  The bytes that are sent for a channel of a conversation reach the queue of
    that channel and change nothing else, or wait for room in it.  If the conversation is not
    registered nothing changes; if only the channel is not, no queue of a channel changes. -/
theorem datagram_reaches_addressed_queue {v c : UInt64} (hv : v.toNat < 2 ^ 62)
    (hc : c.toNat < 2 ^ 62) (payload : List UInt8) (router : LiveRouter) :
    ∃ bytes, ConversationDatagramSender.frame ⟨v, c⟩ payload = .ok bytes ∧
      (∀ queue, router.queue (v, c) = some queue →
        (queue.queue.HasRoom → ∃ router' queue',
          router.routeRegisteredDatagram bytes = some (.ok (some v), router') ∧
          router'.queue (v, c) = some queue' ∧
          queue'.queue = queue.queue.pushBack payload ∧
          LiveRouter.SameBut (v, c) router router') ∧
        (¬queue.queue.HasRoom → router.routeRegisteredDatagram bytes = none)) ∧
      (router.conversation v = none →
        router.routeRegisteredDatagram bytes = some (.ok none, router)) ∧
      (∀ conversation, router.conversation v = some conversation →
        conversation.getChannel c = none → ∃ router',
          router.routeRegisteredDatagram bytes = some (.ok (some v), router') ∧
          (∀ channel, router'.queue channel = router.queue channel) ∧
          ∀ v', v' ≠ v → router'.conversation v' = router.conversation v') := by
  have hle : ∀ {id : UInt64}, id.toNat < 2 ^ 62 → id ≤ MAX_VARINT := by
    intro id hid
    rw [UInt64.le_iff_toNat_le]
    exact Nat.le_of_lt_succ hid
  obtain ⟨bytes, hframe, haddress⟩ := exists_frame ⟨v, c⟩ (hle hv) (hle hc) payload
  obtain ⟨rest, hcontrol, hchannel⟩ := address_eq_some.mp haddress
  refine ⟨bytes, hframe, fun queue hqueue => ⟨fun hroom => ?_, fun hfull => ?_⟩, ?_, ?_⟩
  · let added : BoundedQueue :=
      ⟨queue.queue.pushBack payload, DatagramQueue.fits_pushBack hroom payload⟩
    have hadded : queue.waitAdd payload = some added :=
      BoundedQueue.waitAdd_eq_some.mpr ⟨hroom, rfl⟩
    refine ⟨router.setQueue (v, c) added, added, ?_, ?_, rfl,
      LiveRouter.sameBut_setQueue hqueue added⟩
    · rw [LiveRouter.route_of_queue haddress hqueue, hadded]
      rfl
    · rw [LiveRouter.queue_setQueue hqueue, if_pos rfl]
  · rw [LiveRouter.route_of_queue haddress hqueue, BoundedQueue.waitAdd_eq_none.mpr hfull]
    rfl
  · intro hnone
    exact LiveRouter.route_of_unknown hcontrol hnone
  · intro conversation hconversation hnone
    have hid : conversation.controlStreamId = v :=
      router.controlStreamId_of_lookup hconversation
    refine ⟨_, LiveRouter.route_of_unregistered hcontrol hconversation hchannel hnone,
      LiveRouter.queue_registerConversation hconversation hid rfl, fun v' hne => ?_⟩
    rw [LiveRouter.conversation_registerConversation, hid, if_neg hne]

/-- One conversation, on control stream 0, with the channels 4 and 8. -/
def sampleRouter : LiveRouter :=
  LiveRouter.new.registerConversation {
    controlStreamId := 0
    conversationId := zeroConversation
    defaultDatagramsQueueSize := 1
    channels := (AList.singleton 8 (BoundedQueue.new 1)).insert 4 (BoundedQueue.new 1)
    danglingDatagramQueues := ∅ }

theorem datagram_reaches_addressed_queue_four :
    ∃ bytes router' queue',
      ConversationDatagramSender.frame ⟨0, 4⟩ [7] = .ok bytes ∧
      sampleRouter.routeRegisteredDatagram bytes = some (.ok (some 0), router') ∧
      router'.queue (0, 4) = some queue' ∧ queue'.queue.items = [[7]] ∧
      LiveRouter.SameBut (0, 4) sampleRouter router' := by
  obtain ⟨bytes, hframe, hregistered, -⟩ :=
    datagram_reaches_addressed_queue (v := 0) (c := 4) (by decide) (by decide) [7] sampleRouter
  have hqueue : sampleRouter.queue (0, 4) = some (BoundedQueue.new 1) := rfl
  obtain ⟨router', queue', hroute, hqueue', hitems, hsame⟩ :=
    (hregistered _ hqueue).1 (by decide)
  refine ⟨bytes, router', queue', hframe, hroute, hqueue', ?_, hsame⟩
  rw [hitems]
  rfl

end Ssh3.H3
