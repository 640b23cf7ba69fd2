/-
  Ssh3.Go.AcceptChannel

  `conversation.go` and `channel.go`: channels that a peer opens, from the queue through
  `AcceptChannel` to `NextMessage`.

  `AcceptChannel` confirms a channel and does not look at the error of `confirmChannel`, which
  sets `confirmSent` only if the confirmation was written.  The flag is looked at when the
  peer sends something.
-/

import Ssh3.Go.ParseErrors
import Ssh3.Go.WriteData
import Ssh3.Lib.Tasks
import Ssh3.Lib.Transition

namespace Ssh3.Go.AcceptChannel

open Fallible Transition Tasks
open Proto (ChannelOpenConfirmationMessage)

/-! ## Channels -/

/-- The fields of `channelImpl` that are used here; what there is to read is passed to
    `NextMessage`. -/
structure ChannelImpl where
  channelID : UInt64
  send : SendHalf
  confirmSent : Bool
  confirmReceived : Bool
  deriving DecidableEq, Repr

/-- `NewChannel` for a channel that the peer has opened: there is no header to be sent. -/
def incomingChannel (channelID : UInt64) (outcomes : List WriteOutcome) : ChannelImpl where
  channelID
  send := ⟨[], [], outcomes⟩
  confirmSent := false
  confirmReceived := true

def ChannelImpl.confirmChannel (c : ChannelImpl) (maxPacketSize : UInt64) :
    Except GoPanic (Except GoError Unit × ChannelImpl) :=
  match call (sendMessage (.channelOpenConfirmation ⟨maxPacketSize⟩)) c.send with
  | .error p => .error p
  | .ok (.ok (), send) => .ok (.ok (), { c with send, confirmSent := true })
  | .ok (.error err, send) => .ok (.error err, { c with send })

/-- How the stream ends from which the channel reads: `io.EOF`, or an error of the stream. -/
def streamEnding : Option UInt64 → GoError
  | none => .eof
  | some code => .stream code

def ChannelImpl.NextMessage (c : ChannelImpl) (recv : List UInt8) (code : Option UInt64) :
    Except GoPanic (Except GoError Message × ChannelImpl) :=
  match call (Go.NextMessage (streamEnding code)) ⟨c.confirmSent, c.confirmReceived, recv⟩ with
  | .error p => .error p
  | .ok (result, half) =>
    .ok (result,
      { c with confirmSent := half.confirmSent, confirmReceived := half.confirmReceived })

/-! ## The conversation -/

/-- `maxPacketSize` of a conversation: its constructors return an error for any other size. -/
abbrev PacketSize := { size : UInt64 // validatePacketSize size = .ok () }

/-- What has to do with accepting channels -/
structure Conversation where
  /-- The channels that the peer will open -/
  arriving : List ChannelImpl
  channelsAcceptQueue : List ChannelImpl
  /-- The channels that `AcceptChannel` has returned, and added to the manager -/
  channels : List ChannelImpl
  /-- The results of the calls of `NextMessage`, with the position of the channel -/
  received : List (Nat × Except GoError Message)

/-- What the receiver or the caller of `AcceptChannel` does -/
inductive Action where
  /-- `channelsAcceptQueue.Add` -/
  | add
  /-- A call of `AcceptChannel` that finds a channel; one that finds none waits, or returns
      the error of its context. -/
  | acceptChannel
  /-- A call of `NextMessage`: what the stream has to read, and how it ends -/
  | nextMessage (i : Nat) (recv : List UInt8) (code : Option UInt64)

def start (incoming : List (UInt64 × List WriteOutcome)) : Conversation where
  arriving := incoming.map fun (channelID, outcomes) => incomingChannel channelID outcomes
  channelsAcceptQueue := []
  channels := []
  received := []

/-- A channel is queued, accepted or read from. -/
def step (maxPacketSize : PacketSize) (s : Conversation) : Action → Option Conversation
  | .add =>
    match s.arriving with
    | [] => none
    | channel :: arriving =>
      some { s with arriving, channelsAcceptQueue := s.channelsAcceptQueue ++ [channel] }
  | .acceptChannel =>
    match s.channelsAcceptQueue with
    | [] => none
    | channel :: queue =>
      match channel.confirmChannel maxPacketSize with
      | .error _ => none
      -- the result is dropped
      | .ok (_, channel) =>
        some { s with channelsAcceptQueue := queue, channels := s.channels ++ [channel] }
  | .nextMessage i recv code =>
    s.channels[i]?.bind fun channel =>
      match channel.NextMessage recv code with
      | .error _ => none
      | .ok (result, channel) =>
        some { s with
          channels := s.channels.set i channel, received := s.received ++ [(i, result)] }

/-! ## The confirmation -/

section Confirmation

variable {maxPacketSize : PacketSize}

def confirmation (maxPacketSize : UInt64) : List UInt8 :=
  wire (Message.channelOpenConfirmation ⟨maxPacketSize⟩).fields

theorem codes_confirmation (maxPacketSize : PacketSize) :
    Codes (Message.channelOpenConfirmation ⟨maxPacketSize⟩).length
      (Message.channelOpenConfirmation ⟨maxPacketSize⟩).write (confirmation maxPacketSize) := by
  obtain ⟨-, hle⟩ := validatePacketSize_eq_ok.mp maxPacketSize.property
  have hmax : maxPacketSize.val ≤ Proto.MAX_VARINT :=
    UInt64.le_iff_toNat_le.mpr (Nat.le_trans hle (by decide))
  exact codes_channelOpenConfirmation ⟨Proto.messageKind_le (by decide), hmax, trivial⟩

/-- The stream takes the confirmation of the channel. -/
def TakesConfirmation (maxPacketSize : UInt64) (outcomes : List WriteOutcome) : Prop :=
  ∀ outcome ∈ outcomes.head?, outcome.Complete (confirmation maxPacketSize)

variable (channelID : UInt64) {outcomes : List WriteOutcome}

theorem confirmChannel_of_takes (h : TakesConfirmation maxPacketSize outcomes) :
    ∃ channel, (incomingChannel channelID outcomes).confirmChannel maxPacketSize =
        .ok (.ok (), channel) ∧
      channel.confirmSent = true ∧ channel.send.sent = confirmation maxPacketSize := by
  have hheader : (SendHalf.mk [] [] outcomes).header = [] := rfl
  have hsend := sendMessage_of_takesWhole (codes_confirmation maxPacketSize) hheader h
  unfold ChannelImpl.confirmChannel incomingChannel
  simp only [hsend]
  exact ⟨_, rfl, rfl, List.nil_append _⟩

theorem confirmChannel_of_not_takes (h : ¬TakesConfirmation maxPacketSize outcomes) :
    ∃ err channel, (incomingChannel channelID outcomes).confirmChannel maxPacketSize =
        .ok (.error err, channel) ∧ channel.confirmSent = false := by
  have hheader : (SendHalf.mk [] [] outcomes).header = [] := rfl
  obtain ⟨err, half, hsend⟩ :=
    sendMessage_of_not_takesWhole (codes_confirmation maxPacketSize) hheader h
  unfold ChannelImpl.confirmChannel incomingChannel
  simp only [hsend]
  exact ⟨err, _, rfl, rfl⟩

end Confirmation

/-! ## `NextMessage` and the flag -/

section NextMessage

variable {ending : GoError} {half half' : RecvHalf} {result : Except GoError Message}

theorem confirmSent_nextMessage (h : call (nextMessage ending) half = .ok (result, half')) :
    half'.confirmSent = half.confirmSent ∧ ∀ err, result = .error err → ParseError ending err := by
  rw [call_nextMessage] at h
  rcases hparse : call (parseMessage ending) half.recv with p | ⟨err | ⟨message, err⟩, left⟩
  · rw [hparse] at h
    cases h
  · rw [hparse] at h
    cases h
    refine ⟨rfl, ?_⟩
    rintro _ ⟨⟩
    exact errorsIn_parseMessage ending _ _ _ _ hparse rfl
  · cases err with
    | some err =>
      rw [hparse] at h
      cases h
      refine ⟨rfl, ?_⟩
      rintro _ ⟨⟩
      exact errorsIn_parseMessage ending _ _ _ _ hparse rfl
    | none =>
      rw [hparse] at h
      cases h
      refine ⟨rfl, ?_⟩
      rintro _ ⟨⟩

theorem validatePacketSize_eq_error {size : UInt64} {err : GoError}
    (h : validatePacketSize size = .error err) : err = .packetSizeOutOfRange size := by
  unfold validatePacketSize at h
  split_ifs at h
  cases h
  rfl

/-- On a confirmed channel, no message is refused for that reason. -/
theorem nextMessageLoop_of_confirmSent {fuel : Nat}
    (hending : ending ≠ .messageOnNonConfirmedChannel) (hsent : half.confirmSent = true)
    (h : call (nextMessageLoop ending fuel) half = .ok (result, half')) :
    half'.confirmSent = true ∧ result ≠ .error .messageOnNonConfirmedChannel := by
  induction fuel generalizing half with
  | zero =>
    cases h
    refine ⟨hsent, ?_⟩
    intro heq
    exact hending (Except.error.inj heq)
  | succ fuel ih =>
    rw [nextMessageLoop, call_bind] at h
    rcases hnext : call (nextMessage ending) half with p | ⟨err | message, mid⟩
    · rw [hnext] at h
      cases h
    · obtain ⟨hkept, herr⟩ := confirmSent_nextMessage hnext
      have hparse := herr err rfl
      rw [hnext] at h
      cases h
      refine ⟨hkept.trans hsent, ?_⟩
      intro heq
      rw [Except.error.inj heq] at hparse
      cases hparse
      exact hending rfl
    · obtain ⟨hkept, -⟩ := confirmSent_nextMessage hnext
      have hmid : mid.confirmSent = true := hkept.trans hsent
      rw [hnext] at h
      cases message with
      | channelOpenConfirmation m =>
        simp only at h
        cases hvalid : validatePacketSize m.maxPacketSize with
        | error err =>
          rw [hvalid] at h
          cases h
          refine ⟨hmid, ?_⟩
          rw [validatePacketSize_eq_error hvalid]
          intro heq
          cases heq
        | ok u =>
          rw [hvalid] at h
          have hloop : call (nextMessageLoop ending fuel) { mid with confirmReceived := true } =
              .ok (result, half') := h
          have hkept : ({ mid with confirmReceived := true } : RecvHalf).confirmSent = true := hmid
          exact ih hkept hloop
      | channelOpenFailure m =>
        cases h
        refine ⟨hmid, ?_⟩
        intro heq
        cases heq
      | channelRequest m =>
        simp only at h
        rw [call_bind_of_ok (call_get _), hmid] at h
        cases h
        refine ⟨hmid, ?_⟩
        intro heq
        cases heq
      | data m =>
        simp only at h
        rw [call_bind_of_ok (call_get _), hmid] at h
        cases h
        refine ⟨hmid, ?_⟩
        intro heq
        cases heq

theorem streamEnding_ne (code : Option UInt64) :
    streamEnding code ≠ .messageOnNonConfirmedChannel := by
  cases code with
  | none => exact GoError.noConfusion
  | some code => exact GoError.noConfusion

theorem NextMessage_of_confirmSent {channel channel' : ChannelImpl} {recv : List UInt8}
    {code : Option UInt64} (hsent : channel.confirmSent = true)
    (h : channel.NextMessage recv code = .ok (result, channel')) :
    channel'.confirmSent = true ∧ channel'.send = channel.send ∧
      result ≠ .error .messageOnNonConfirmedChannel := by
  unfold ChannelImpl.NextMessage at h
  rcases hcall : call (Go.NextMessage (streamEnding code))
    ⟨channel.confirmSent, channel.confirmReceived, recv⟩ with p | ⟨result', half⟩
  · simp only [hcall] at h
    cases h
  · simp only [hcall] at h
    cases h
    unfold Go.NextMessage at hcall
    rw [call_bind_of_ok (call_get _)] at hcall
    obtain ⟨hkept, hne⟩ := nextMessageLoop_of_confirmSent (streamEnding_ne code) hsent hcall
    exact ⟨hkept, rfl, hne⟩

end NextMessage

/-! ## Runs -/

section Runs

variable {maxPacketSize : PacketSize} {incoming : List (UInt64 × List WriteOutcome)}
  {s t : Conversation}

/-- Every channel that was returned has its confirmation written, and no message on it was
    refused because it has not. -/
structure OnlyConfirmed (maxPacketSize : UInt64) (s : Conversation) : Prop where
  written : ∀ channel ∈ s.channels, channel.send.sent = confirmation maxPacketSize
  received : ∀ x ∈ s.received, x.2 ≠ .error .messageOnNonConfirmedChannel

/-- A channel that waits to be accepted, on a stream that takes its confirmation -/
def Pending (maxPacketSize : UInt64) (channel : ChannelImpl) : Prop :=
  ∃ channelID outcomes, channel = incomingChannel channelID outcomes ∧
    TakesConfirmation maxPacketSize outcomes

/-- Only channels that have been accepted are confirmed. -/
structure Inv (maxPacketSize : UInt64) (s : Conversation) : Prop where
  arriving : ∀ channel ∈ s.arriving, Pending maxPacketSize channel
  queued : ∀ channel ∈ s.channelsAcceptQueue, Pending maxPacketSize channel
  channels : ∀ (i : Nat) (channel : ChannelImpl), s.channels[i]? = some channel →
    channel.confirmSent = true ∧ channel.send.sent = confirmation maxPacketSize
  received : ∀ x ∈ s.received, x.2 ≠ .error .messageOnNonConfirmedChannel

theorem inv_start (h : ∀ x ∈ incoming, TakesConfirmation maxPacketSize x.2) :
    Inv maxPacketSize (start incoming) where
  arriving channel hmem := by
    obtain ⟨x, hx, rfl⟩ := List.mem_map.mp hmem
    exact ⟨x.1, x.2, rfl, h x hx⟩
  queued _ hmem := by cases hmem
  channels _ _ hget := by cases hget
  received _ hmem := by cases hmem

theorem Inv.stepped {a : Action} (h : Inv maxPacketSize s)
    (hstep : step maxPacketSize s a = some t) : Inv maxPacketSize t := by
  cases a with
  | add =>
    unfold step at hstep
    cases harriving : s.arriving with
    | nil =>
      simp only [harriving] at hstep
      cases hstep
    | cons channel arriving =>
      simp only [harriving] at hstep
      cases hstep
      have hpending := List.forall_mem_cons.mp (harriving ▸ h.arriving)
      refine ⟨hpending.2, ?_, h.channels, h.received⟩
      intro other hmem
      rcases List.mem_append.mp hmem with hmem | hmem
      · exact h.queued other hmem
      · cases List.mem_singleton.mp hmem
        exact hpending.1
  | acceptChannel =>
    unfold step at hstep
    cases hqueue : s.channelsAcceptQueue with
    | nil =>
      simp only [hqueue] at hstep
      cases hstep
    | cons channel queue =>
      have hpending := List.forall_mem_cons.mp (hqueue ▸ h.queued)
      obtain ⟨channelID, outcomes, rfl, htakes⟩ := hpending.1
      obtain ⟨channel, hconfirm, hsent, hwritten⟩ := confirmChannel_of_takes channelID htakes
      simp only [hqueue, hconfirm] at hstep
      cases hstep
      exact ⟨h.arriving, hpending.2, forall_append ⟨hsent, hwritten⟩ h.channels, h.received⟩
  | nextMessage i recv code =>
    obtain ⟨channel, hget, hcall⟩ := Option.bind_eq_some_iff.mp hstep
    obtain ⟨hsent, hwritten⟩ := h.channels i channel hget
    rcases hnext : channel.NextMessage recv code with p | ⟨result, channel'⟩
    · simp only [hnext] at hcall
      cases hcall
    · obtain ⟨hkept, hsend, hne⟩ := NextMessage_of_confirmSent hsent hnext
      simp only [hnext] at hcall
      cases hcall
      refine ⟨h.arriving, h.queued, ?_, ?_⟩
      · exact forall_set ⟨hkept, hsend ▸ hwritten⟩ fun k other hother _ => h.channels k other hother
      · intro x hmem
        rcases List.mem_append.mp hmem with hmem | hmem
        · exact h.received x hmem
        · cases List.mem_singleton.mp hmem
          exact hne

theorem Inv.onlyConfirmed (h : Inv maxPacketSize s) : OnlyConfirmed maxPacketSize s where
  written channel hmem := by
    obtain ⟨i, hget⟩ := List.mem_iff_getElem?.mp hmem
    exact (h.channels i channel hget).2
  received := h.received

/-! A conversation that accepts each channel when it arrives. -/

theorem exists_confirmChannel (maxPacketSize : PacketSize) (channelID : UInt64)
    (outcomes : List WriteOutcome) :
    ∃ result channel, (incomingChannel channelID outcomes).confirmChannel maxPacketSize =
      .ok (result, channel) := by
  by_cases h : TakesConfirmation maxPacketSize outcomes
  · obtain ⟨channel, hconfirm, -, -⟩ := confirmChannel_of_takes channelID h
    exact ⟨_, channel, hconfirm⟩
  · obtain ⟨err, channel, hconfirm, -⟩ := confirmChannel_of_not_takes channelID h
    exact ⟨_, channel, hconfirm⟩

theorem run_accept {channel channel' : ChannelImpl} {arriving : List ChannelImpl}
    {result : Except GoError Unit} (hqueue : s.channelsAcceptQueue = [])
    (harriving : s.arriving = channel :: arriving)
    (hconfirm : channel.confirmChannel maxPacketSize = .ok (result, channel')) :
    Run (step maxPacketSize) anyStep s [.add, .acceptChannel]
      { s with arriving, channels := s.channels ++ [channel'] } := by
  have hadd : step maxPacketSize s .add =
      some { s with arriving, channelsAcceptQueue := [channel] } := by
    simp only [step, harriving, hqueue, List.nil_append]
  have haccept : step maxPacketSize { s with arriving, channelsAcceptQueue := [channel] }
      .acceptChannel = some { s with arriving, channels := s.channels ++ [channel'] } := by
    simp only [step, hconfirm, hqueue]
  exact .cons trivial hadd (.cons trivial haccept (.nil _))

theorem exists_run_accept (maxPacketSize : PacketSize) {before : List (UInt64 × List WriteOutcome)}
    {rest : List ChannelImpl} (hqueue : s.channelsAcceptQueue = [])
    (harriving : s.arriving = before.map (fun x => incomingChannel x.1 x.2) ++ rest) :
    ∃ as t, Run (step maxPacketSize) anyStep s as t ∧ t.channelsAcceptQueue = [] ∧
      t.arriving = rest := by
  induction before generalizing s with
  | nil => exact ⟨[], s, .nil s, hqueue, harriving⟩
  | cons x before ih =>
    obtain ⟨result, channel, hconfirm⟩ := exists_confirmChannel maxPacketSize x.1 x.2
    have hfirst := run_accept hqueue harriving hconfirm
    obtain ⟨as, t, hrun, hempty, hrest⟩ := ih
      (s := { s with arriving := _, channels := s.channels ++ [channel] }) hqueue rfl
    exact ⟨_, t, hfirst.append hrun, hempty, hrest⟩

/-- A request to start a shell -/
def shellBytes : List UInt8 := [0x40, 98, 5] ++ Proto.ascii "shell" ++ [0]

theorem NextMessage_of_not_confirmSent {channel : ChannelImpl} (h : channel.confirmSent = false) :
    ∃ channel', channel.NextMessage shellBytes none =
      .ok (.error .messageOnNonConfirmedChannel, channel') := by
  have hcall : call (Go.NextMessage (streamEnding none))
      ⟨false, channel.confirmReceived, shellBytes⟩ =
      .ok (.error .messageOnNonConfirmedChannel, ⟨false, channel.confirmReceived, []⟩) := by
    cases channel.confirmReceived <;> rfl
  unfold ChannelImpl.NextMessage
  rw [h, hcall]
  exact ⟨_, rfl⟩

/-- The peer sends a message on the channel whose confirmation was not written. -/
theorem exists_run_refused {before after : List (UInt64 × List WriteOutcome)} (channelID : UInt64)
    {outcomes : List WriteOutcome} (h : ¬TakesConfirmation maxPacketSize outcomes) :
    ∃ as s, Run (step maxPacketSize) anyStep (start (before ++ (channelID, outcomes) :: after))
      as s ∧ ¬OnlyConfirmed maxPacketSize s := by
  have harriving : (start (before ++ (channelID, outcomes) :: after)).arriving =
      before.map (fun x => incomingChannel x.1 x.2) ++
        incomingChannel channelID outcomes ::
          after.map (fun x => incomingChannel x.1 x.2) := by
    simp [start]
  obtain ⟨as, t, hrun, hempty, hnext⟩ := exists_run_accept maxPacketSize rfl harriving
  obtain ⟨err, channel, hconfirm, hsent⟩ := confirmChannel_of_not_takes channelID h
  have haccept := run_accept hempty hnext hconfirm
  obtain ⟨channel', hrefused⟩ := NextMessage_of_not_confirmSent hsent
  let u : Conversation := { t with
    arriving := after.map (fun x => incomingChannel x.1 x.2), channels := t.channels ++ [channel] }
  have hget : u.channels[t.channels.length]? = some channel := List.getElem?_concat_length
  have hlast : step maxPacketSize u (.nextMessage t.channels.length shellBytes none) =
      some { u with
        channels := u.channels.set t.channels.length channel',
        received := u.received ++
          [(t.channels.length, .error .messageOnNonConfirmedChannel)] } := by
    rw [step, hget, Option.bind_some, hrefused]
  refine ⟨_, _, (hrun.append haccept).append (.cons trivial hlast (.nil _)), ?_⟩
  intro honly
  exact honly.received _ (List.mem_append_right _ (List.mem_singleton_self _)) rfl

/-- **Confirmed channels.**  Whatever channels the peer opens, every channel that
    `AcceptChannel` returns in whatever run has had its confirmation written, and no message on
    it is refused because it has not, exactly if the streams of all channels take their
    confirmations. -/
theorem onlyConfirmed_iff (maxPacketSize : PacketSize)
    (incoming : List (UInt64 × List WriteOutcome)) :
    (∀ as s, Run (step maxPacketSize) anyStep (start incoming) as s →
      OnlyConfirmed maxPacketSize s) ↔
      ∀ x ∈ incoming, TakesConfirmation maxPacketSize x.2 := by
  constructor
  · intro hruns x hmem
    by_contra hnot
    obtain ⟨before, after, rfl⟩ := List.append_of_mem hmem
    obtain ⟨as, s, hrun, hrefused⟩ := exists_run_refused x.1 hnot
    exact hrefused (hruns as s hrun)
  · intro htakes as s hrun
    have hinv : Inv maxPacketSize s :=
      hrun.invariant (fun _ _ _ h _ hstep => h.stepped hstep) (inv_start htakes)
    exact hinv.onlyConfirmed

/-- A reset stream: the channel is returned, its first message is refused. -/
theorem unconfirmed_channel_returned :
    ∃ s, Run (step ⟨1024, rfl⟩) anyStep (start [(4, [⟨0, some (.stream 7)⟩])])
      [.add, .acceptChannel, .nextMessage 0 shellBytes none] s ∧
      s.channels.map (fun channel => (channel.channelID, channel.send.sent)) = [(4, [])] ∧
      s.received = [(0, .error .messageOnNonConfirmedChannel)] ∧ ¬OnlyConfirmed 1024 s := by
  refine ⟨_, .cons trivial rfl (.cons trivial rfl (.cons trivial rfl (.nil _))), rfl, rfl, ?_⟩
  intro honly
  exact honly.received _ (List.mem_singleton_self _) rfl

end Runs

end Ssh3.Go.AcceptChannel
