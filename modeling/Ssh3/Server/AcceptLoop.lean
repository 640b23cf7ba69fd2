/-
  Ssh3.Server.AcceptLoop

  `ssh3-server/src/lib.rs` and `ssh3-core/src/conversation.rs`: the loop of
  `handle_conversation` that accepts the channels of a conversation.

  The error of a confirmation leaves `accept_channel_with_metadata` with the question mark
  there and leaves the loop with the question mark here, so that the first channel which
  cannot be confirmed is the last one that is looked at.
-/

import Ssh3.Core.Endpoint
import Ssh3.Lib.Transition
import Ssh3.Server.Authorization

namespace Ssh3.Server.AcceptLoop

open Fallible Transition Ssh3.Core
open Proto (Panic)

/-- A channel that the peer opens, with its streams -/
structure Incoming where
  channel : AcceptedChannel
  endpoint : Endpoint
  inner : endpoint.channel = channel.inner

/-- `inner.confirm_channel(self.max_packet_size)` -/
def Incoming.confirmChannel (x : Incoming) (maxPacketSize : UInt64) :
    Except Panic (Except ChannelError Unit × Endpoint) :=
  call (Core.confirmChannel maxPacketSize) x.endpoint

def Incoming.isConfirmed (x : Incoming) (maxPacketSize : UInt64) : Bool :=
  match x.confirmChannel maxPacketSize with
  | .ok (.ok (), _) => true
  | .ok (.error _, _) | .error _ => false

/-- Where the loop is. -/
inductive Loop where
  /-- In the `select!`, with no channel taken from the queue -/
  | selecting
  /-- In the `select!`, with the call in `confirm_channel` for this channel -/
  | confirming (x : Incoming)
  | returned (result : Except ServerError Unit)
  | panicked (panic : Panic)

def Loop.pending : Loop → List Incoming
  | .confirming x => [x]
  | .selecting | .returned _ | .panicked _ => []

def Loop.isRunning : Loop → Bool
  | .selecting | .confirming _ => true
  | .returned _ | .panicked _ => false

/-- The loop that accepts channels, and its handlers -/
structure State where
  /-- What the peer will open -/
  arriving : List Incoming
  channelsAcceptQueue : List Incoming
  isOpen : Bool
  loop : Loop
  /-- The channels whose confirmation has been tried -/
  tried : List Incoming
  /-- The ids added to the `channels_manager` -/
  registered : List UInt64
  /-- The channels handed to `handle_accepted_channel` -/
  served : List AcceptedChannel

def start (incoming : List Incoming) : State where
  arriving := incoming
  channelsAcceptQueue := []
  isOpen := true
  loop := .selecting
  tried := []
  registered := []
  served := []

/-- What the peer, the loop or a handler does -/
inductive Action where
  /-- `queue_incoming_accepted_channel` -/
  | queueIncoming
  | close
  /-- `connection.closed()` is ready: the loop breaks, and a call of
      `accept_channel_with_metadata` that is not done is dropped. -/
  | closed
  /-- The call takes a channel from the queue. -/
  | take
  /-- The call comes back from `confirm_channel`. -/
  | confirm

/-- The peer, the loop or a handler goes on. -/
def step (maxPacketSize : UInt64) (s : State) : Action → Option State
  | .queueIncoming =>
    match s.arriving with
    | [] => none
    | x :: arriving => some { s with arriving, channelsAcceptQueue := s.channelsAcceptQueue ++ [x] }
  | .close => some { s with isOpen := false }
  | .closed =>
    if s.isOpen = false ∧ s.loop.isRunning then some { s with loop := .returned (.ok ()) } else none
  | .take =>
    match s.loop, s.channelsAcceptQueue with
    | .selecting, x :: queue => some { s with channelsAcceptQueue := queue, loop := .confirming x }
    | _, _ => none
  | .confirm =>
    match s.loop with
    | .confirming x =>
      match x.confirmChannel maxPacketSize with
      | .error panic => some { s with loop := .panicked panic, tried := s.tried ++ [x] }
      | .ok (.error err, _) =>
        some { s with
          loop := .returned (.error (.conversation (.channel err)))
          tried := s.tried ++ [x] }
      | .ok (.ok (), _) =>
        some { s with
          loop := .selecting
          tried := s.tried ++ [x]
          registered := s.registered ++ [x.channel.inner.info.channelId]
          served := s.served ++ [x.channel] }
    | .selecting | .returned _ | .panicked _ => none

/-! ## One channel does not harm the others -/

/-- The channels are taken in the order of the queue; those that are confirmed are registered
    and served, and while the connection is open the loop goes on with the others. -/
structure HarmsOnlyItself (maxPacketSize : UInt64) (incoming : List Incoming) (s : State) :
    Prop where
  served : s.served = (s.tried.filter (·.isConfirmed maxPacketSize)).map (·.channel)
  registered : s.registered = s.served.map (·.inner.info.channelId)
  running : s.isOpen = true → s.loop.isRunning = true
  waiting : s.isOpen = true →
    incoming = s.tried ++ s.loop.pending ++ s.channelsAcceptQueue ++ s.arriving

section Runs

variable {maxPacketSize : UInt64} {incoming : List Incoming} {s t : State}

/-- While all channels are confirmed -/
structure Inv (maxPacketSize : UInt64) (incoming : List Incoming) (s : State) : Prop
    extends HarmsOnlyItself maxPacketSize incoming s where
  confirmed : ∀ x ∈ s.loop.pending ++ s.channelsAcceptQueue ++ s.arriving,
    x.isConfirmed maxPacketSize = true

theorem inv_start (h : ∀ x ∈ incoming, x.isConfirmed maxPacketSize = true) :
    Inv maxPacketSize incoming (start incoming) where
  served := rfl
  registered := rfl
  running _ := rfl
  waiting _ := rfl
  confirmed := h

theorem confirmChannel_of_isConfirmed {x : Incoming} (h : x.isConfirmed maxPacketSize = true) :
    ∃ endpoint, x.confirmChannel maxPacketSize = .ok (.ok (), endpoint) := by
  unfold Incoming.isConfirmed at h
  rcases hcall : x.confirmChannel maxPacketSize with panic | ⟨err | ⟨⟩, endpoint⟩
  · rw [hcall] at h
    cases h
  · rw [hcall] at h
    cases h
  · exact ⟨endpoint, rfl⟩

theorem Inv.stepped {a : Action} (h : Inv maxPacketSize incoming s)
    (hstep : step maxPacketSize s a = some t) : Inv maxPacketSize incoming t := by
  cases a with
  | queueIncoming =>
    unfold step at hstep
    cases harriving : s.arriving with
    | nil =>
      simp only [harriving] at hstep
      cases hstep
    | cons x arriving =>
      simp only [harriving] at hstep
      cases hstep
      refine ⟨⟨h.served, h.registered, h.running, ?_⟩, ?_⟩
      · intro hopen
        rw [h.waiting hopen, harriving]
        simp
      · intro y hy
        refine h.confirmed y ?_
        rw [harriving]
        simpa using hy
  | close =>
    cases hstep
    refine ⟨⟨h.served, h.registered, ?_, ?_⟩, h.confirmed⟩
    · intro hopen
      cases hopen
    · intro hopen
      cases hopen
  | closed =>
    obtain ⟨⟨hclosed, -⟩, heq⟩ := Option.ite_none_right_eq_some.mp hstep
    cases heq
    refine ⟨⟨h.served, h.registered, ?_, ?_⟩, ?_⟩
    · intro hopen
      rw [hclosed] at hopen
      cases hopen
    · intro hopen
      rw [hclosed] at hopen
      cases hopen
    · intro y hy
      refine h.confirmed y ?_
      simp only [Loop.pending, List.nil_append] at hy
      rw [List.append_assoc]
      exact List.mem_append_right _ hy
  | take =>
    rw [step] at hstep
    split at hstep
    next x queue hloop hqueue =>
      cases hstep
      have hpending := h.confirmed
      rw [hloop, hqueue] at hpending
      refine ⟨⟨h.served, h.registered, fun _ => rfl, ?_⟩, hpending⟩
      intro hopen
      rw [h.waiting hopen, hloop, hqueue]
      simp [Loop.pending]
    next => cases hstep
  | confirm =>
    unfold step at hstep
    cases hloop : s.loop with
    | confirming x =>
      have hpending := h.confirmed
      rw [hloop] at hpending
      have hx : x.isConfirmed maxPacketSize = true := hpending x (List.mem_cons_self ..)
      obtain ⟨endpoint, hconfirm⟩ := confirmChannel_of_isConfirmed hx
      simp only [hloop, hconfirm] at hstep
      cases hstep
      refine ⟨⟨?_, ?_, fun _ => rfl, ?_⟩, ?_⟩
      · simp [h.served, hx]
      · simp [h.registered]
      · intro hopen
        rw [h.waiting hopen, hloop]
        simp [Loop.pending]
      · intro y hy
        exact hpending y (List.mem_cons_of_mem _ hy)
    | selecting | returned _ | panicked _ =>
      simp only [hloop] at hstep
      cases hstep

/-- The loop with the first channel of the peer, whichever way its confirmation ends -/
theorem run_first {x : Incoming} {arriving : List Incoming} (hqueue : s.channelsAcceptQueue = [])
    (harriving : s.arriving = x :: arriving) (hloop : s.loop = .selecting)
    (hconfirm : step maxPacketSize { s with arriving, loop := .confirming x } .confirm = some t) :
    Run (step maxPacketSize) anyStep s [.queueIncoming, .take, .confirm] t := by
  have hadd : step maxPacketSize s .queueIncoming =
      some { s with arriving, channelsAcceptQueue := [x] } := by
    simp only [step, harriving, hqueue, List.nil_append]
  have htake : step maxPacketSize { s with arriving, channelsAcceptQueue := [x] } .take =
      some { s with arriving, loop := .confirming x } := by
    simp only [step, hloop, hqueue]
  exact .cons trivial hadd (.cons trivial htake (.cons trivial hconfirm (.nil _)))

theorem exists_run_ended (hqueue : s.channelsAcceptQueue = []) (hloop : s.loop = .selecting)
    (hopen : s.isOpen = true) (h : ∃ x ∈ s.arriving, x.isConfirmed maxPacketSize = false) :
    ∃ as t, Run (step maxPacketSize) anyStep s as t ∧ t.isOpen = true ∧
      t.loop.isRunning = false := by
  obtain ⟨x, hmem, hx⟩ := h
  -- on the channels in front of the one that is not confirmed
  induction harriving : s.arriving generalizing s with
  | nil =>
    rw [harriving] at hmem
    cases hmem
  | cons first arriving ih =>
    rcases hconfirm : first.confirmChannel maxPacketSize with panic | ⟨err | ⟨⟩, endpoint⟩
    · have hstep : step maxPacketSize { s with arriving, loop := .confirming first } .confirm =
          some { s with arriving, loop := .panicked panic, tried := s.tried ++ [first] } := by
        simp only [step, hconfirm]
      exact ⟨_, _, run_first hqueue harriving hloop hstep, hopen, rfl⟩
    · have hstep : step maxPacketSize { s with arriving, loop := .confirming first } .confirm =
          some { s with
            arriving, loop := .returned (.error (.conversation (.channel err)))
            tried := s.tried ++ [first] } := by
        simp only [step, hconfirm]
      exact ⟨_, _, run_first hqueue harriving hloop hstep, hopen, rfl⟩
    · have hne : x ≠ first := by
        rintro rfl
        rw [Incoming.isConfirmed, hconfirm] at hx
        cases hx
      let next : State := { s with
        arriving, tried := s.tried ++ [first]
        registered := s.registered ++ [first.channel.inner.info.channelId]
        served := s.served ++ [first.channel] }
      have hfirst : Run (step maxPacketSize) anyStep s [.queueIncoming, .take, .confirm] next :=
        run_first hqueue harriving hloop (by simp only [step, hconfirm, hloop, next])
      rw [harriving] at hmem
      obtain ⟨as, t, hrun, hresult⟩ := ih (s := next) hqueue hloop hopen
        (List.mem_of_ne_of_mem hne hmem) rfl
      exact ⟨_, t, hfirst.append hrun, hresult⟩

/-- **A channel that cannot be confirmed.**  For every sequence of channels, the loop registers
    and serves exactly those that are confirmed and goes on with the others while the
    connection is open, in every run, exactly if there is no channel in the sequence that
    cannot be confirmed. -/
theorem harmsOnlyItself_iff (maxPacketSize : UInt64) (incoming : List Incoming) :
    (∀ as s, Run (step maxPacketSize) anyStep (start incoming) as s →
      HarmsOnlyItself maxPacketSize incoming s) ↔
      ∀ x ∈ incoming, x.isConfirmed maxPacketSize = true := by
  constructor
  · intro hruns x hmem
    by_contra hnot
    obtain ⟨as, t, hrun, hopen, hended⟩ := exists_run_ended (s := start incoming) rfl rfl rfl
      ⟨x, hmem, Bool.eq_false_iff.mpr hnot⟩
    have hrunning := (hruns as t hrun).running hopen
    rw [hended] at hrunning
    cases hrunning
  · intro hconfirmed as s hrun
    have hinv : Inv maxPacketSize incoming s :=
      hrun.invariant (fun _ _ _ h _ hstep => h.stepped hstep) (inv_start hconfirmed)
    exact hinv.toHarmsOnlyItself

end Runs

def sessionChannel (channelId : UInt64) : Core.Channel where
  info := {
    maxPacketSize := 1024
    conversationStreamId := 0
    conversationId := zeroConversation
    channelId
    channelType := Proto.ascii "session" }
  confirmSent := false
  confirmReceived := true
  header := none
  datagramSender := none
  datagramsQueueSize := 0

/-- A session channel of the peer, with the outcomes of the writes on its stream -/
def incomingSession (channelId : UInt64) (outcomes : List Core.WriteOutcome) : Incoming where
  channel := .channel (sessionChannel channelId)
  endpoint := {
    channel := sessionChannel channelId
    incoming := []
    ending := .unexpectedEof
    writes := []
    outcomes
    datagrams := [] }
  inner := rfl

/-- Two channels are in the queue and the stream of the first one fails: the loop returns an
    error on the open connection, and the second channel is neither confirmed nor served. -/
theorem second_channel_not_served :
    ∃ s, Run (step 1024) anyStep
      (start [incomingSession 4 [some (0, .connectionReset)], incomingSession 8 []])
      [.queueIncoming, .queueIncoming, .take, .confirm] s ∧
      (incomingSession 8 []).isConfirmed 1024 = true ∧ s.isOpen = true ∧
      s.loop = .returned (.error (.conversation (.channel (.io .connectionReset)))) ∧
      s.channelsAcceptQueue = [incomingSession 8 []] ∧ s.served = [] ∧
      (∀ a t, step 1024 s a = some t → t.served = []) := by
  refine ⟨_, .cons trivial rfl (.cons trivial rfl (.cons trivial rfl (.cons trivial rfl (.nil _)))),
    rfl, rfl, rfl, rfl, rfl, ?_⟩
  intro a t hstep
  cases a <;> cases hstep
  rfl

end Ssh3.Server.AcceptLoop
