/-
  Ssh3.H3.Datagrams

  `ssh3-h3/src/lib.rs` and `ssh3-server/src/lib.rs`: the loops that receive the
  datagrams of a connection and hand each payload to its channel, on the client
  and on the server.

  Each datagram comes with the conversation, or on the server the router, as it
  stands when the datagram is handled.
-/

import Ssh3.Quinn.Router

namespace Ssh3.H3

open Proto Ssh3.Core Quinn StreamCodec VarInt ErrorLoop

/-- Why a datagram loop ends -/
inductive DatagramDispatchError where
  | connection (err : ConnectionError)
  | proto (err : Error)
  | conversation (err : ConversationError)
  deriving DecidableEq, Repr

/-- The `match` on the result of `add_datagram`, in both loops: a channel that is not there is
    no error for them. -/
def afterAdd : Except ConversationError Delivery → Except DatagramDispatchError (Option Delivery)
  | .ok delivery => .ok (some delivery)
  | .error (.channelNotFound _) => .ok none
  | .error err => .error (.conversation err)

/-- On the client, which has one conversation.  The result is what has been handed to a
    channel. -/
def dispatchDatagram (conversation : Conversation) (datagram : List UInt8) :
    Except DatagramDispatchError (Option Delivery) :=
  match readVarInt.run datagram with
  | .error err => .error (.proto err)
  | .ok (controlStreamId, rest) =>
    if controlStreamId ≠ conversation.controlStreamId then
      .ok none
    else
      afterAdd (conversation.addDatagram rest)

def dispatchDatagramsForever (received : List (Conversation × List UInt8))
    (ending : ConnectionError) : List (Option Delivery) × DatagramDispatchError :=
  run (fun item => dispatchDatagram item.1 item.2) (.connection ending) received

/-- On the server, for all conversations of the connection. -/
def routeRegisteredDatagram (channelRouter : IncomingChannelRouter) (datagram : List UInt8) :
    Except DatagramDispatchError (Option Delivery) :=
  match readVarInt.run datagram with
  | .error err => .error (.proto err)
  | .ok (controlStreamId, rest) =>
    match channelRouter.conversation controlStreamId with
    | none => .ok none
    | some conversation => afterAdd (conversation.addDatagram rest)

def routeDatagrams (received : List (IncomingChannelRouter × List UInt8))
    (ending : ConnectionError) : List (Option Delivery) × DatagramDispatchError :=
  run (fun item => routeRegisteredDatagram item.1 item.2) (.connection ending) received

/-! ## Both loops as one -/

/-- How one side of the connection finds the conversation of a control stream. -/
structure Lookup where
  find : UInt64 → Option Conversation
  controlStreamId_of_find : ∀ {controlStreamId : UInt64} {conversation : Conversation},
    find controlStreamId = some conversation → conversation.controlStreamId = controlStreamId

def clientLookup (conversation : Conversation) : Lookup where
  find controlStreamId :=
    if controlStreamId = conversation.controlStreamId then some conversation else none
  controlStreamId_of_find := by
    intro controlStreamId found h
    rw [Option.ite_none_right_eq_some] at h
    rw [← Option.some.inj h.2, h.1]

def serverLookup (channelRouter : IncomingChannelRouter) : Lookup where
  find := channelRouter.conversation
  controlStreamId_of_find := IncomingChannelRouter.controlStreamId_of_conversation

def route (lookup : Lookup) (datagram : List UInt8) :
    Except DatagramDispatchError (Option Delivery) :=
  match readVarInt.run datagram with
  | .error err => .error (.proto err)
  | .ok (controlStreamId, rest) =>
    match lookup.find controlStreamId with
    | none => .ok none
    | some conversation => afterAdd (conversation.addDatagram rest)

theorem dispatchDatagram_eq_route (conversation : Conversation) (datagram : List UInt8) :
    dispatchDatagram conversation datagram = route (clientLookup conversation) datagram := by
  unfold dispatchDatagram route clientLookup
  rcases readVarInt.run datagram with err | ⟨controlStreamId, rest⟩
  · rfl
  · by_cases heq : controlStreamId = conversation.controlStreamId
    · simp only [heq, ne_eq, not_true_eq_false, if_false, if_true]
    · simp only [heq, ne_eq, not_false_eq_true, if_false, if_true]

theorem routeRegisteredDatagram_eq_route (channelRouter : IncomingChannelRouter)
    (datagram : List UInt8) :
    routeRegisteredDatagram channelRouter datagram = route (serverLookup channelRouter) datagram :=
  rfl

/-! ## Malformed datagrams -/

/-- A control id and a channel id can be read from the datagram. -/
def wellFormed (datagram : List UInt8) : Bool :=
  match readVarInt.run datagram with
  | .error _ => false
  | .ok (_, rest) => (readVarInt.run rest).isOk

theorem wellFormed_eq_true {datagram : List UInt8} :
    wellFormed datagram = true ↔ ∃ v rest c payload,
      readVarInt.run datagram = .ok (v, rest) ∧ readVarInt.run rest = .ok (c, payload) := by
  unfold wellFormed
  rcases hcontrol : readVarInt.run datagram with err | ⟨v, rest⟩
  · exact ⟨nofun, fun ⟨_, _, _, _, h, _⟩ => nomatch h⟩
  · show (readVarInt.run rest).isOk = true ↔ _
    rcases hchannel : readVarInt.run rest with err | ⟨c, payload⟩
    · constructor
      · exact nofun
      · rintro ⟨_, _, _, _, h, hok⟩
        cases h
        cases hchannel.symm.trans hok
    · exact ⟨fun _ => ⟨v, rest, c, payload, rfl, hchannel⟩, fun _ => rfl⟩

/-- The datagrams that are not malformed start with two complete numbers. -/
theorem wellFormed_iff (datagram : List UInt8) :
    wellFormed datagram = true ↔
      ∃ controlBytes channelBytes payload, ∃ v c : UInt64,
        datagram = controlBytes ++ (channelBytes ++ payload) ∧
        IsVarInt controlBytes v.toNat ∧ IsVarInt channelBytes c.toNat := by
  rw [wellFormed_eq_true]
  constructor
  · rintro ⟨v, rest, c, payload, hcontrol, hchannel⟩
    obtain ⟨controlBytes, rfl, hv⟩ := readVarIntFrom_sound _ _ hcontrol
    obtain ⟨channelBytes, rfl, hc⟩ := readVarIntFrom_sound _ _ hchannel
    exact ⟨controlBytes, channelBytes, payload, v, c, rfl, hv, hc⟩
  · rintro ⟨controlBytes, channelBytes, payload, v, c, rfl, hv, hc⟩
    exact ⟨v, channelBytes ++ payload, c, payload, reads_readVarIntFrom _ _ hv _,
      reads_readVarIntFrom _ _ hc _⟩

/-! ## What ends a loop, and what it hands on -/

/-- The control id cannot be read, or it is that of a conversation on this side and the channel
    id cannot be read. -/
def EndsLoop (lookup : Lookup) (datagram : List UInt8) : Prop :=
  ∀ v rest, readVarInt.run datagram = .ok (v, rest) →
    lookup.find v ≠ none ∧ ∀ c payload, readVarInt.run rest ≠ .ok (c, payload)

/-- The datagram carries a payload for a channel that is registered with its conversation. -/
def Carries (lookup : Lookup) (v c : UInt64) (payload datagram : List UInt8) : Prop :=
  ∃ rest conversation, readVarInt.run datagram = .ok (v, rest) ∧
    readVarInt.run rest = .ok (c, payload) ∧ lookup.find v = some conversation ∧
    c ∈ conversation.channels

def payloadFor (v c : UInt64) : Option Delivery → Option (List UInt8)
  | none => none
  | some delivery =>
    if delivery.controlStreamId = v ∧ delivery.channelId = c then some delivery.payload else none

/-- What a loop has handed to one channel. -/
def payloads (v c : UInt64) (loop : List (Option Delivery) × DatagramDispatchError) :
    List (List UInt8) :=
  loop.1.filterMap (payloadFor v c)

section Route

variable {lookup : Lookup} {datagram : List UInt8}

theorem route_of_control_error {err : Error} (h : readVarInt.run datagram = .error err) :
    route lookup datagram = .error (.proto err) := by
  rw [route, h]

variable {rest payload : List UInt8} {v c : UInt64}

theorem route_of_find_none
    (h : readVarInt.run datagram = .ok (v, rest)) (hfind : lookup.find v = none) :
    route lookup datagram = .ok none := by
  rw [route, h]
  simp only [hfind]

theorem route_of_channel_error {conversation : Conversation}
    {err : Error} (h : readVarInt.run datagram = .ok (v, rest))
    (hfind : lookup.find v = some conversation) (hrest : readVarInt.run rest = .error err) :
    route lookup datagram = .error (.conversation (.proto err)) := by
  rw [route, h]
  simp only [hfind, Conversation.addDatagram, hrest]
  rfl

/-- A datagram for a channel that is not registered is no error of the loop. -/
theorem route_of_channel {conversation : Conversation}
    (h : readVarInt.run datagram = .ok (v, rest)) (hfind : lookup.find v = some conversation)
    (hrest : readVarInt.run rest = .ok (c, payload)) :
    route lookup datagram =
      .ok (if c ∈ conversation.channels then some ⟨v, c, payload⟩ else none) := by
  rw [route, h]
  simp only [hfind, Conversation.addDatagram, hrest, lookup.controlStreamId_of_find hfind]
  by_cases hmem : c ∈ conversation.channels
  · rw [if_pos hmem, if_pos hmem]
    rfl
  · rw [if_neg hmem, if_neg hmem]
    rfl

theorem fatal_route_iff : Fatal (route lookup) datagram ↔ EndsLoop lookup datagram := by
  constructor
  · rintro ⟨err, herr⟩ v rest hread
    cases hfind : lookup.find v with
    | none => cases (route_of_find_none hread hfind).symm.trans herr
    | some conversation =>
      refine ⟨nofun, ?_⟩
      intro c payload hrest
      cases (route_of_channel hread hfind hrest).symm.trans herr
  · intro hends
    rcases hread : readVarInt.run datagram with err | ⟨v, rest⟩
    · exact ⟨_, route_of_control_error hread⟩
    -- the control id can be read, so it is the channel id that cannot
    · obtain ⟨hfound, hnone⟩ := hends v rest hread
      obtain ⟨conversation, hfind⟩ := Option.ne_none_iff_exists'.mp hfound
      rcases hrest : readVarInt.run rest with err | ⟨c, payload⟩
      · exact ⟨_, route_of_channel_error hread hfind hrest⟩
      · exact absurd hrest (hnone c payload)

theorem yield_route_eq_some : yield (route lookup) (payloadFor v c) datagram = some payload ↔
    Carries lookup v c payload datagram := by
  constructor
  · intro h
    rcases hread : readVarInt.run datagram with err | ⟨v', rest⟩
    · rw [yield, route_of_control_error hread] at h
      cases h
    · cases hfind : lookup.find v' with
      | none =>
        rw [yield, route_of_find_none hread hfind] at h
        cases h
      | some conversation =>
        rcases hrest : readVarInt.run rest with err | ⟨c', payload'⟩
        · rw [yield, route_of_channel_error hread hfind hrest] at h
          cases h
        · rw [yield, route_of_channel hread hfind hrest] at h
          -- for a channel that is not registered the datagram is set aside
          by_cases hmem : c' ∈ conversation.channels
          · simp only [if_pos hmem, payloadFor, Option.ite_none_right_eq_some,
              Option.some.injEq] at h
            obtain ⟨⟨rfl, rfl⟩, rfl⟩ := h
            exact ⟨rest, conversation, hread, hrest, hfind, hmem⟩
          · simp only [if_neg hmem] at h
            cases h
  · rintro ⟨rest, conversation, hread, hrest, hfind, hmem⟩
    rw [yield, route_of_channel hread hfind hrest, if_pos hmem]
    exact if_pos ⟨rfl, rfl⟩

theorem Carries.wellFormed
    (h : Carries lookup v c payload datagram) : wellFormed datagram = true := by
  obtain ⟨rest, conversation, hread, hrest, -⟩ := h
  exact wellFormed_eq_true.mpr ⟨v, rest, c, payload, hread, hrest⟩

theorem EndsLoop.malformed (h : EndsLoop lookup datagram) : wellFormed datagram = false := by
  rw [← Bool.not_eq_true, wellFormed_eq_true]
  rintro ⟨v, rest, c, payload, hread, hrest⟩
  exact (h v rest hread).2 c payload hrest

end Route

/-! ## Delivery in the presence of malformed datagrams -/

/-- No datagram for the channel is received after one that ends the loop. -/
def NoneAfterEnding {κ : Type} (lookupOf : κ → Lookup) (v c : UInt64)
    (received : List (κ × List UInt8)) : Prop :=
  ∀ pre item post, received = pre ++ item :: post → EndsLoop (lookupOf item.1) item.2 →
    ∀ later ∈ post, ∀ payload, ¬Carries (lookupOf later.1) v c payload later.2

theorem payloads_run_route_iff {κ : Type} (lookupOf : κ → Lookup) (v c : UInt64)
    (ending : DatagramDispatchError) (received : List (κ × List UInt8)) :
    payloads v c (run (fun item => route (lookupOf item.1) item.2) ending received) =
        payloads v c (run (fun item => route (lookupOf item.1) item.2) ending
          (received.filter fun item => wellFormed item.2)) ↔
      NoneAfterEnding lookupOf v c received := by
  let handle : κ × List UInt8 → _ := fun item => route (lookupOf item.1) item.2
  have hcarries : ∀ item payload, yield handle (payloadFor v c) item = some payload ↔
      Carries (lookupOf item.1) v c payload item.2 := fun _ _ => yield_route_eq_some
  have hends : ∀ item, Fatal handle item ↔ EndsLoop (lookupOf item.1) item.2 :=
    fun _ => fatal_route_iff
  -- the filter takes out what ends the loop, and nothing the channel would get
  have hyield : ∀ item : κ × List UInt8, wellFormed item.2 = false →
      yield handle (payloadFor v c) item = none := by
    intro item hmalformed
    rw [Option.eq_none_iff_forall_ne_some]
    intro payload hsome
    cases hmalformed.symm.trans ((hcarries item payload).mp hsome).wellFormed
  have hfatal : ∀ item : κ × List UInt8, Fatal handle item → wellFormed item.2 = false :=
    fun item h => ((hends item).mp h).malformed
  unfold payloads
  rw [run_filter_eq_iff hyield hfatal]
  unfold Unaffected NoneAfterEnding
  simp only [hends, Option.eq_none_iff_forall_ne_some, ne_eq, hcarries]

/-- **Malformed datagrams.**  What a channel gets from the loop of the server, or from that of
    the client, is what it would get without the malformed datagrams exactly if none of its
    datagrams comes after one that ends the loop. -/
theorem payloads_eq_filtered_iff (v c : UInt64) (ending : ConnectionError) :
    (∀ received : List (IncomingChannelRouter × List UInt8),
      payloads v c (routeDatagrams received ending) =
          payloads v c (routeDatagrams (received.filter fun item => wellFormed item.2) ending) ↔
        NoneAfterEnding serverLookup v c received) ∧
    (∀ received : List (Conversation × List UInt8),
      payloads v c (dispatchDatagramsForever received ending) =
          payloads v c
            (dispatchDatagramsForever (received.filter fun item => wellFormed item.2) ending) ↔
        NoneAfterEnding clientLookup v c received) := by
  constructor
  · intro received
    unfold routeDatagrams
    simp only [routeRegisteredDatagram_eq_route]
    exact payloads_run_route_iff serverLookup v c (.connection ending) received
  · intro received
    unfold dispatchDatagramsForever
    simp only [dispatchDatagram_eq_route]
    exact payloads_run_route_iff clientLookup v c (.connection ending) received

/-- One conversation, on control stream 0, with channel 4. -/
def sampleConversation : Conversation where
  controlStreamId := 0
  conversationId := zeroConversation
  defaultDatagramsQueueSize := 10
  channels := [4]

/-- After an empty datagram the server and the client deliver nothing any more. -/
theorem payload_lost_after_empty :
    payloads 0 4 (routeDatagrams
      [(⟨[sampleConversation]⟩, []), (⟨[sampleConversation]⟩, [0, 4, 7])] .timedOut) = [] ∧
    payloads 0 4 (routeDatagrams
      ([(⟨[sampleConversation]⟩, []), (⟨[sampleConversation]⟩, [0, 4, 7])].filter
        fun item => wellFormed item.2) .timedOut) = [[7]] ∧
    payloads 0 4 (dispatchDatagramsForever
      [(sampleConversation, []), (sampleConversation, [0, 4, 7])] .timedOut) = [] ∧
    payloads 0 4 (dispatchDatagramsForever
      ([(sampleConversation, []), (sampleConversation, [0, 4, 7])].filter
        fun item => wellFormed item.2) .timedOut) = [[7]] := by
  decide +kernel

end Ssh3.H3
