/-
  Ssh3.Core.ReorderingSpec

  Datagrams around the registration of their channel, continued: as long as at
  most one datagram is set aside for the channel and none reaches a queue that
  `add_channel` is about to replace, nothing is lost or reordered.

  `Inv` is the invariant of such runs.  Its first field says where every
  expected datagram is: read already, in the queue the channel ends up with, or
  in the hands of the dispatcher.
-/

import Ssh3.Core.Reordering

namespace Ssh3.Core.Reordering

open Transition

/-! ## The condition -/

/-- `add_channel` has made the channel visible and still has to replace its queue. -/
def State.Replacing (s : State) : Prop :=
  match s.registration with
  | .inserted _ => True
  | _ => False

instance (s : State) : Decidable s.Replacing :=
  match h : s.registration with
  | .inserted _ => .isTrue (by rw [State.Replacing, h]; trivial)
  | .notStarted | .done => .isFalse (by rw [State.Replacing, h]; exact id)

/-- Before a step: a datagram is set aside only while no other is, and none is handed to a
    queue that `add_channel` is about to replace. -/
def Undisturbed (s : State) : Action → Prop
  | .addDangling => s.registered = false → s.dangling = none
  | .cloneQueue => ¬s.Replacing
  | .offer => s.Replacing → ¬(s.queue s.current).HasRoom
  | _ => True

instance (s : State) (a : Action) : Decidable (Undisturbed s a) :=
  match a with
  | .addDangling => inferInstanceAs (Decidable (_ → _))
  | .cloneQueue => inferInstanceAs (Decidable (¬_))
  | .offer => inferInstanceAs (Decidable (_ → _))
  | .getChannel _ | .waitAdd | .addChannel | .setDatagramQueue | .receive =>
    inferInstanceAs (Decidable True)

/-! ## The invariant -/

/-- The queue the channel has once it is registered. -/
def State.finalQueue (s : State) : QueueRef :=
  match s.registration with
  | .notStarted => s.dangling.getD s.current
  | .inserted pending => pending
  | .done => s.current

/-- The datagram the dispatcher is holding. -/
def State.inFlight (s : State) : List Datagram :=
  match s.dispatcher with
  | .idle => []
  | .foundChannel datagram | .waiting datagram _ | .foundNone datagram | .offering datagram =>
    [datagram]

/-- What a consumer has read or will read, in this order. -/
def State.readable (s : State) : List Datagram :=
  s.received ++ (s.queue s.finalQueue).items

/-- What is read, and what is in flight, is what has arrived. -/
structure Inv (s : State) : Prop where
  delivered : s.readable ++ s.inFlight = s.expected
  finalValid : s.finalQueue < s.queues.length
  currentValid : s.current < s.queues.length
  registered : s.registered = true ↔ s.registration ≠ .notStarted
  noneDangling : s.registered = true → s.dangling = none
  /-- Before registration the channel's own queue is untouched. -/
  untouched : s.registration = .notStarted → s.received = [] ∧ (s.queue s.current).items = []
  found : ∀ d, s.dispatcher = .foundChannel d ∨ s.dispatcher = .offering d → s.registered = true
  waiting : ∀ d ref, s.dispatcher = .waiting d ref → s.registration = .done ∧ ref = s.current

theorem inv_init (datagramsQueueSize : Nat) : Inv (init datagramsQueueSize) where
  delivered := rfl
  finalValid := Nat.zero_lt_one
  currentValid := Nat.zero_lt_one
  registered := ⟨(by intro h; cases h), (fun h => absurd rfl h)⟩
  noneDangling := fun _ => rfl
  untouched := fun _ => ⟨rfl, rfl⟩
  found := by
    intro d h
    rcases h with h | h
    · cases h
    · cases h
  waiting := by
    intro d ref h
    cases h

/-! ## Every undisturbed step keeps the invariant -/

section Step

variable {s t : State}

theorem Inv.getChannel {d : Datagram} (h : Inv s) (hstep : step s (.getChannel d) = some t) :
    Inv t := by
  obtain ⟨hidle, rfl⟩ := step_getChannel.mp hstep
  have hdelivered := h.delivered
  rw [State.inFlight, hidle, List.append_nil] at hdelivered
  -- the new datagram is in flight, whichever way the look-up of its channel went
  refine ⟨?_, h.finalValid, h.currentValid, h.registered, h.noneDangling, h.untouched, ?_, ?_⟩
  · show s.readable ++ _ = s.expected ++ [d]
    rw [← hdelivered]
    cases s.registered with
    | true => rfl
    | false => rfl
  · intro d' hfound
    cases hreg : s.registered with
    | true => rfl
    | false => simp [hreg] at hfound
  · intro d' ref hwaiting
    cases hreg : s.registered with
    | true => simp [hreg] at hwaiting
    | false => simp [hreg] at hwaiting

theorem Inv.cloneQueue (h : Inv s) (hguard : ¬s.Replacing)
    (hstep : step s .cloneQueue = some t) : Inv t := by
  obtain ⟨d, hfound, rfl⟩ := step_cloneQueue.mp hstep
  have hdelivered := h.delivered
  rw [State.inFlight, hfound] at hdelivered
  have hregistered := h.found d (.inl hfound)
  refine ⟨hdelivered, h.finalValid, h.currentValid, h.registered, h.noneDangling, h.untouched,
    ?_, ?_⟩
  · intro d' _
    exact hregistered
  · intro d' ref hwaiting
    cases hwaiting
    -- visible and not about to be replaced: the queue is the final one
    refine ⟨?_, rfl⟩
    cases hreg : s.registration with
    | notStarted => exact absurd hreg (h.registered.mp hregistered)
    | inserted pending => exact absurd (by rw [State.Replacing, hreg]; trivial) hguard
    | done => rfl

/-- Both references stay valid when the content of a queue changes. -/
theorem Inv.valid_setQueue (h : Inv s) (ref : QueueRef) (queue : DatagramQueue) :
    s.finalQueue < (s.setQueue ref queue).queues.length ∧
      s.current < (s.setQueue ref queue).queues.length := by
  rw [s.length_setQueue]
  exact ⟨h.finalValid, h.currentValid⟩

/-- Pushing the datagram in flight to the channel's final queue. -/
theorem Inv.push {d : Datagram} (h : Inv s) (hdone : s.registration = .done)
    (hflight : s.inFlight = [d]) :
    Inv { s.setQueue s.current ((s.queue s.current).pushBack d) with dispatcher := .idle } := by
  have hdelivered := h.delivered
  have hfinal : s.finalQueue = s.current := by rw [State.finalQueue, hdone]
  rw [hflight, State.readable, hfinal] at hdelivered
  obtain ⟨hfinalValid, hcurrentValid⟩ :=
    h.valid_setQueue s.current ((s.queue s.current).pushBack d)
  -- the datagram moves from the dispatcher to the end of the final queue
  refine ⟨?_, hfinalValid, hcurrentValid, h.registered, h.noneDangling, ?_, ?_, ?_⟩
  · show s.received ++ ((s.setQueue s.current _).queue s.finalQueue).items ++ [] = s.expected
    rw [hfinal, s.queue_setQueue h.currentValid, List.append_nil, ← hdelivered]
    exact (List.append_assoc ..).symm
  · intro hnot
    cases hdone.symm.trans hnot
  · intro d' hfound
    rcases hfound with hfound | hfound
    · cases hfound
    · cases hfound
  · intro d' ref hwaiting
    cases hwaiting

theorem Inv.waitAdd (h : Inv s) (hstep : step s .waitAdd = some t) : Inv t := by
  obtain ⟨d, ref, hwaiting, -, rfl⟩ := step_waitAdd.mp hstep
  -- the queue that was cloned is still the current one
  obtain ⟨hdone, rfl⟩ := h.waiting d ref hwaiting
  exact h.push hdone (by rw [State.inFlight, hwaiting])

theorem Inv.addDangling (h : Inv s) (hguard : s.registered = false → s.dangling = none)
    (hstep : step s .addDangling = some t) : Inv t := by
  obtain ⟨d, hnone, hcase⟩ := step_addDangling.mp hstep
  have hdelivered := h.delivered
  rw [State.inFlight, hnone] at hdelivered
  rcases hcase with ⟨hreg, rfl⟩ | ⟨hreg, rfl⟩
  · -- registered in the meantime: the datagram stays in flight
    refine ⟨hdelivered, h.finalValid, h.currentValid, h.registered, h.noneDangling, h.untouched,
      ?_, ?_⟩
    · intro d' _
      exact hreg
    · intro d' ref hwaiting
      cases hwaiting
  · -- nothing was set aside before, so this datagram is the first one expected
    have hnot : s.registration = .notStarted := by
      by_contra hstarted
      rw [h.registered.mpr hstarted] at hreg
      cases hreg
    obtain ⟨hreceived, hitems⟩ := h.untouched hnot
    have hexpected : s.expected = [d] := by
      rw [State.readable, State.finalQueue, hnot, hguard hreg, hreceived] at hdelivered
      rw [← hdelivered]
      show [] ++ (s.queue s.current).items ++ [d] = [d]
      rw [hitems]
      rfl
    refine ⟨?_, ?_, ?_, h.registered, ?_, ?_, ?_, ?_⟩
    -- the new queue is the last one, and this datagram is all it holds
    · rw [State.readable, State.finalQueue]
      simp only [hnot, hreceived, hexpected, State.queue, State.inFlight, Option.getD_some]
      simp
    · rw [State.finalQueue]
      simp only [hnot, Option.getD_some, List.length_append, List.length_singleton]
      exact Nat.lt_succ_self _
    · rw [List.length_append]
      exact Nat.lt_succ_of_lt h.currentValid
    · intro htrue
      cases hreg.symm.trans htrue
    · intro _
      refine ⟨hreceived, ?_⟩
      rw [← hitems]
      simp only [State.queue, List.getD_eq_getElem?_getD, List.getElem?_append_left h.currentValid]
    · intro d' hfound
      rcases hfound with hfound | hfound
      · cases hfound
      · cases hfound
    · intro d' ref hwaiting
      cases hwaiting

theorem Inv.offer (h : Inv s) (hguard : s.Replacing → ¬(s.queue s.current).HasRoom)
    (hstep : step s .offer = some t) : Inv t := by
  obtain ⟨d, hoffering, hcase⟩ := step_offer.mp hstep
  have hflight : s.inFlight = [d] := by rw [State.inFlight, hoffering]
  have hregistered := h.found d (.inr hoffering)
  rcases hcase with ⟨hroom, rfl⟩ | ⟨-, rfl⟩
  · -- room in a queue that is about to be replaced is what the guard excludes
    refine h.push ?_ hflight
    cases hreg : s.registration with
    | notStarted => exact absurd hreg (h.registered.mp hregistered)
    | inserted pending => exact absurd hroom (hguard (by rw [State.Replacing, hreg]; trivial))
    | done => rfl
  · -- a full queue: the datagram is dropped, and no longer expected
    have hdelivered := h.delivered
    rw [hflight] at hdelivered
    refine ⟨?_, h.finalValid, h.currentValid, h.registered, h.noneDangling, h.untouched, ?_, ?_⟩
    · show s.readable ++ [] = s.expected.dropLast
      rw [← hdelivered, List.append_nil, List.dropLast_concat]
    · intro d' _
      exact hregistered
    · intro d' ref hwaiting
      cases hwaiting

theorem Inv.addChannel (h : Inv s) (hstep : step s .addChannel = some t) : Inv t := by
  obtain ⟨hnot, rfl⟩ := step_addChannel.mp hstep
  have hfinalOld : s.finalQueue = s.dangling.getD s.current := by rw [State.finalQueue, hnot]
  have hdelivered := h.delivered
  have hvalid := h.finalValid
  rw [State.readable, hfinalOld] at hdelivered
  rw [hfinalOld] at hvalid
  have hnowait : ∀ d ref, s.dispatcher ≠ .waiting d ref := by
    intro d ref hwaiting
    have hdone := (h.waiting d ref hwaiting).1
    cases hnot.symm.trans hdone
  -- the queue that was to become the final one is final now, or pending
  cases hdangling : s.dangling
  all_goals
    rw [hdangling] at hdelivered hvalid
    refine ⟨hdelivered, hvalid, h.currentValid, ?_, ?_, ?_, ?_, ?_⟩
    · exact ⟨fun _ => nofun, fun _ => rfl⟩
    · intro _
      rfl
    · intro hbad
      cases hbad
    · intro d _
      rfl
    · intro d ref hwaiting
      exact absurd hwaiting (hnowait d ref)

theorem Inv.setDatagramQueue (h : Inv s) (hstep : step s .setDatagramQueue = some t) : Inv t := by
  obtain ⟨pending, hinserted, rfl⟩ := step_setDatagramQueue.mp hstep
  have hfinal : s.finalQueue = pending := by rw [State.finalQueue, hinserted]
  have hdelivered := h.delivered
  have hvalid := h.finalValid
  rw [State.readable, hfinal] at hdelivered
  rw [hfinal] at hvalid
  have hregistered : s.registered = true := by
    rw [h.registered, hinserted]
    intro hbad
    cases hbad
  -- what was readable before through the pending queue is in the current one now
  refine ⟨hdelivered, hvalid, hvalid, ?_, h.noneDangling, ?_, ?_, ?_⟩
  · exact ⟨fun _ => nofun, fun _ => hregistered⟩
  · intro hbad
    cases hbad
  · intro d _
    exact hregistered
  · intro d ref hwaiting
    cases hinserted.symm.trans (h.waiting d ref hwaiting).1

theorem Inv.receive (h : Inv s) (hstep : step s .receive = some t) : Inv t := by
  obtain ⟨hdone, d, queue, hitems, -, rfl⟩ := step_receive.mp hstep
  have hfinal : s.finalQueue = s.current := by rw [State.finalQueue, hdone]
  have hdelivered := h.delivered
  rw [State.readable, hfinal, hitems] at hdelivered
  obtain ⟨hfinalValid, hcurrentValid⟩ := h.valid_setQueue s.current queue
  -- the first datagram of the final queue moves to the end of what was received
  refine ⟨?_, hfinalValid, hcurrentValid, h.registered, h.noneDangling, ?_, h.found, h.waiting⟩
  · show s.received ++ [d] ++ ((s.setQueue s.current queue).queue s.finalQueue).items ++
      s.inFlight = s.expected
    rw [hfinal, s.queue_setQueue h.currentValid, ← hdelivered]
    simp
  · intro hnot
    cases hdone.symm.trans hnot

/-- **Step lemma.**  A step that disturbs no registration keeps what can be read, and what is in
    flight, as expected. -/
theorem Inv.step {a : Action} (h : Inv s) (hguard : Undisturbed s a)
    (hstep : step s a = some t) : Inv t := by
  cases a with
  | getChannel d => exact h.getChannel hstep
  | cloneQueue => exact h.cloneQueue hguard hstep
  | waitAdd => exact h.waitAdd hstep
  | addDangling => exact h.addDangling hguard hstep
  | offer => exact h.offer hguard hstep
  | addChannel => exact h.addChannel hstep
  | setDatagramQueue => exact h.setDatagramQueue hstep
  | receive => exact h.receive hstep

theorem Inv.of_run {datagramsQueueSize : Nat} {as : List Action}
    (h : Run Reordering.step Undisturbed (init datagramsQueueSize) as s) : Inv s :=
  h.invariant (fun _ _ _ hinv hguard hstep => hinv.step hguard hstep) (inv_init _)

/-! ## No queue is without room for ever -/

def Roomy (s : State) : Prop := ∀ queue ∈ s.queues, 0 < queue.capacity

theorem Roomy.queue (h : Roomy s) {ref : QueueRef} (hvalid : ref < s.queues.length) :
    0 < (s.queue ref).capacity := by
  rw [State.queue, List.getD_eq_getElem?_getD, List.getElem?_eq_getElem hvalid]
  exact h _ (List.getElem_mem hvalid)

theorem Roomy.setQueue (h : Roomy s) {ref : QueueRef} (hvalid : ref < s.queues.length)
    {queue : DatagramQueue} (hcapacity : queue.capacity = (s.queue ref).capacity) :
    Roomy (s.setQueue ref queue) := by
  intro queue' hmem
  rcases List.mem_or_eq_of_mem_set hmem with hmem | rfl
  · exact h queue' hmem
  · rw [hcapacity]
    exact h.queue hvalid

theorem Roomy.step {a : Action} (h : Roomy s) (hinv : Inv s)
    (hstep : Reordering.step s a = some t) : Roomy t := by
  cases a with
  | getChannel d =>
    obtain ⟨-, rfl⟩ := step_getChannel.mp hstep
    exact h
  | cloneQueue =>
    obtain ⟨d, -, rfl⟩ := step_cloneQueue.mp hstep
    exact h
  | waitAdd =>
    obtain ⟨d, ref, hwaiting, -, rfl⟩ := step_waitAdd.mp hstep
    obtain ⟨-, rfl⟩ := hinv.waiting d ref hwaiting
    exact h.setQueue hinv.currentValid rfl
  | addDangling =>
    obtain ⟨d, -, ⟨-, rfl⟩ | ⟨-, rfl⟩⟩ := step_addDangling.mp hstep
    · exact h
    -- the new queue has the capacity of a dangling one
    · intro queue hmem
      rcases List.mem_append.mp hmem with hmem | hmem
      · exact h queue hmem
      · rw [List.mem_singleton.mp hmem]
        exact Nat.succ_pos 9
  | offer =>
    obtain ⟨d, -, ⟨-, rfl⟩ | ⟨-, rfl⟩⟩ := step_offer.mp hstep
    · exact h.setQueue hinv.currentValid rfl
    · exact h
  | addChannel =>
    obtain ⟨-, rfl⟩ := step_addChannel.mp hstep
    exact h
  | setDatagramQueue =>
    obtain ⟨pending, -, rfl⟩ := step_setDatagramQueue.mp hstep
    exact h
  | receive =>
    obtain ⟨-, d, queue, -, hcapacity, rfl⟩ := step_receive.mp hstep
    exact h.setQueue hinv.currentValid hcapacity

theorem Roomy.of_run {datagramsQueueSize : Nat} (hpos : 0 < datagramsQueueSize)
    {as : List Action} (h : Run Reordering.step Undisturbed (init datagramsQueueSize) as s) :
    Inv s ∧ Roomy s := by
  refine h.invariant (P := fun s => Inv s ∧ Roomy s) ?_ ⟨inv_init _, ?_⟩
  · rintro s a t ⟨hinv, hroomy⟩ hguard hstep
    exact ⟨hinv.step hguard hstep, hroomy.step hinv hstep⟩
  · intro queue hmem
    rw [List.mem_singleton.mp hmem]
    exact hpos

/-! ## Once no datagram arrives any more, all of them get read -/

/-- An undisturbed step that is not an arrival. -/
def Settling (s : State) (a : Action) : Prop :=
  Undisturbed s a ∧ ∀ d, a ≠ .getChannel d

/-- The channel is registered and its consumer has read all that was expected. -/
def State.Settled (s : State) : Prop :=
  s.registration = .done ∧ s.dispatcher = .idle ∧ s.received = s.expected

def Dispatcher.work : Dispatcher → Nat
  | .idle => 0
  | .waiting _ _ | .offering _ => 1
  | .foundChannel _ | .foundNone _ => 2

def Registration.work : Registration → Nat
  | .notStarted => 2
  | .inserted _ => 1
  | .done => 0

/-- A bound on the steps that are left before the state is settled. -/
def State.work (s : State) : Nat :=
  s.registration.work + s.dispatcher.work + (s.expected.length - s.received.length)

theorem Settling.lowers_work {a : Action} (hinv : Inv s) (hsettling : Settling s a)
    (hstep : Reordering.step s a = some t) : t.work < s.work := by
  cases a with
  | getChannel d => exact absurd rfl (hsettling.2 d)
  | cloneQueue =>
    obtain ⟨d, hfound, rfl⟩ := step_cloneQueue.mp hstep
    simp only [State.work, hfound, Dispatcher.work]
    omega
  | waitAdd =>
    obtain ⟨d, ref, hwaiting, -, rfl⟩ := step_waitAdd.mp hstep
    simp only [State.work, State.setQueue, hwaiting, Dispatcher.work]
    omega
  | addDangling =>
    obtain ⟨d, hnone, ⟨-, rfl⟩ | ⟨-, rfl⟩⟩ := step_addDangling.mp hstep
    · simp only [State.work, hnone, Dispatcher.work]
      omega
    · simp only [State.work, hnone, Dispatcher.work]
      omega
  | offer =>
    obtain ⟨d, hoffering, ⟨-, rfl⟩ | ⟨-, rfl⟩⟩ := step_offer.mp hstep
    · simp only [State.work, State.setQueue, hoffering, Dispatcher.work]
      omega
    -- the datagram is dropped, and with it the last one expected
    · simp only [State.work, hoffering, Dispatcher.work, List.length_dropLast]
      omega
  | addChannel =>
    obtain ⟨hnot, rfl⟩ := step_addChannel.mp hstep
    cases hdangling : s.dangling with
    | none =>
      simp only [State.work, hnot, Registration.work]
      omega
    | some pending =>
      simp only [State.work, hnot, Registration.work]
      omega
  | setDatagramQueue =>
    obtain ⟨pending, hinserted, rfl⟩ := step_setDatagramQueue.mp hstep
    simp only [State.work, hinserted, Registration.work]
    omega
  | receive =>
    obtain ⟨hdone, d, queue, hitems, -, rfl⟩ := step_receive.mp hstep
    -- what is read now was expected and had not been read
    have hlength := congrArg List.length hinv.delivered
    rw [State.readable, State.finalQueue, hdone, hitems] at hlength
    simp only [List.length_append, List.length_cons] at hlength
    simp only [State.work, State.setQueue, List.length_append, List.length_singleton]
    omega

theorem State.not_replacing (hdone : s.registration = .done) : ¬s.Replacing := by
  rw [State.Replacing, hdone]
  exact id

/-- With an empty queue, the dispatcher can go on. -/
theorem Inv.dispatcher_enabled (h : Inv s) (hdone : s.registration = .done)
    (hroom : (s.queue s.current).HasRoom) (hbusy : s.dispatcher ≠ .idle) :
    ∃ a t, Settling s a ∧ Reordering.step s a = some t := by
  have hnot := State.not_replacing hdone
  cases hdispatcher : s.dispatcher with
  | idle => exact absurd hdispatcher hbusy
  | foundChannel d =>
    exact ⟨.cloneQueue, _, ⟨hnot, nofun⟩, step_cloneQueue.mpr ⟨d, hdispatcher, rfl⟩⟩
  | waiting d ref =>
    obtain ⟨-, rfl⟩ := h.waiting d ref hdispatcher
    exact ⟨.waitAdd, _, ⟨trivial, nofun⟩, step_waitAdd.mpr ⟨d, _, hdispatcher, hroom, rfl⟩⟩
  | foundNone d =>
    -- it will find the channel that was registered since
    have hregistered : s.registered = true := by
      rw [h.registered, hdone]
      nofun
    refine ⟨.addDangling, _, ⟨?_, nofun⟩,
      step_addDangling.mpr ⟨d, hdispatcher, .inl ⟨hregistered, rfl⟩⟩⟩
    intro hfalse
    cases hregistered.symm.trans hfalse
  | offering d =>
    exact ⟨.offer, _, ⟨fun hrep => absurd hrep hnot, nofun⟩,
      step_offer.mpr ⟨d, hdispatcher, .inl ⟨hroom, rfl⟩⟩⟩

theorem Inv.settled_or_enabled (h : Inv s) (hroomy : Roomy s) :
    s.Settled ∨ ∃ a t, Settling s a ∧ Reordering.step s a = some t := by
  cases hreg : s.registration with
  | notStarted =>
    exact .inr ⟨.addChannel, _, ⟨trivial, nofun⟩, step_addChannel.mpr ⟨hreg, rfl⟩⟩
  | inserted pending =>
    exact .inr ⟨.setDatagramQueue, _, ⟨trivial, nofun⟩,
      step_setDatagramQueue.mpr ⟨pending, hreg, rfl⟩⟩
  | done =>
    cases hitems : (s.queue s.current).items with
    | cons d items =>
      -- the consumer goes first, which makes room for the dispatcher
      exact .inr ⟨.receive, _, ⟨trivial, nofun⟩,
        step_receive.mpr ⟨hreg, d, ⟨items, _⟩, hitems, rfl, rfl⟩⟩
    | nil =>
      by_cases hidle : s.dispatcher = .idle
      · -- nothing is queued and nothing is in flight
        have hdelivered := h.delivered
        rw [State.readable, State.finalQueue, hreg, State.inFlight, hidle, hitems,
          List.append_nil, List.append_nil] at hdelivered
        exact .inl ⟨hreg, hidle, hdelivered⟩
      · refine .inr (h.dispatcher_enabled hreg ?_ hidle)
        rw [DatagramQueue.HasRoom, hitems]
        exact hroomy.queue h.currentValid

/-- **Delivery.**  In every undisturbed run, a registered channel's consumer has read, will find
    in its queue or will be handed by the dispatcher exactly the expected datagrams, in the
    order of their arrival; and once no further datagram arrives, every continuation comes to
    an end, which it reaches only when the consumer has read all of them. -/
theorem delivered_of_undisturbed {datagramsQueueSize : Nat} {as : List Action}
    (h : Run Reordering.step Undisturbed (init datagramsQueueSize) as s) :
    (s.registration = .done →
      s.received ++ (s.queue s.current).items ++ s.inFlight = s.expected) ∧
    (0 < datagramsQueueSize → ∃ bound, ∀ bs t, Run Reordering.step Settling s bs t →
      bs.length ≤ bound ∧
      (t.Settled ∨ ∃ a u, Settling t a ∧ Reordering.step t a = some u)) := by
  constructor
  · intro hdone
    have hdelivered := (Inv.of_run h).delivered
    rw [State.readable, State.finalQueue, hdone] at hdelivered
    exact hdelivered
  · intro hpos
    refine ⟨s.work, fun bs t hrun => ⟨?_, ?_⟩⟩
    -- every step that is not an arrival lowers `work`
    · have hbound := hrun.length_le (P := Inv) (m := State.work)
        (fun _ _ _ hinv hguard hstep => hinv.step hguard.1 hstep)
        (fun _ _ _ hinv hguard hstep => hguard.lowers_work hinv hstep) (Inv.of_run h)
      omega
    -- the continuation is part of one undisturbed run from the start
    · have hboth := h.append (hrun.mono fun _ _ hguard => hguard.1)
      obtain ⟨hinv, hroomy⟩ := Roomy.of_run hpos hboth
      exact hinv.settled_or_enabled hroomy

end Step

/-- One datagram arrives before the registration and one after it. -/
theorem delivered_of_undisturbed_one_aside :
    ∃ s, Run step Undisturbed (init 8)
        [.getChannel [1], .addDangling, .addChannel, .setDatagramQueue,
          .getChannel [2], .cloneQueue, .waitAdd] s ∧
      s.expected = [[1], [2]] ∧
      s.received ++ (s.queue s.current).items ++ s.inFlight = s.expected := by
  have hrun : Run step Undisturbed (init 8)
      [.getChannel [1], .addDangling, .addChannel, .setDatagramQueue,
        .getChannel [2], .cloneQueue, .waitAdd]
      { queues := [⟨[], 8⟩, ⟨[[1], [2]], 10⟩], registered := true, dangling := none, current := 1
        dispatcher := .idle, registration := .done, received := [], expected := [[1], [2]] } :=
    run_of_exec (by decide)
  exact ⟨_, hrun, rfl, (delivered_of_undisturbed hrun).1 rfl⟩

/-! ## What a disturbed run loses -/

def NotArrival (_ : State) (a : Action) : Prop := ∀ d, a ≠ .getChannel d

/-- Nothing is under way and the datagram is not where the consumer reads. -/
structure Lost (d : Datagram) (s : State) : Prop where
  idle : s.dispatcher = .idle
  done : s.registration = .done
  currentValid : s.current < s.queues.length
  notReceived : d ∉ s.received
  notQueued : d ∉ (s.queue s.current).items

theorem Lost.step {d : Datagram} {s t : State} {a : Action} (h : Lost d s)
    (hguard : NotArrival s a) (hstep : Reordering.step s a = some t) : Lost d t := by
  cases a with
  | getChannel d' => exact absurd rfl (hguard d')
  | cloneQueue =>
    obtain ⟨d', hfound, -⟩ := step_cloneQueue.mp hstep
    cases h.idle.symm.trans hfound
  | waitAdd =>
    obtain ⟨d', ref, hwaiting, -⟩ := step_waitAdd.mp hstep
    cases h.idle.symm.trans hwaiting
  | addDangling =>
    obtain ⟨d', hnone, -⟩ := step_addDangling.mp hstep
    cases h.idle.symm.trans hnone
  | offer =>
    obtain ⟨d', hoffering, -⟩ := step_offer.mp hstep
    cases h.idle.symm.trans hoffering
  | addChannel =>
    obtain ⟨hnot, -⟩ := step_addChannel.mp hstep
    cases h.done.symm.trans hnot
  | setDatagramQueue =>
    obtain ⟨pending, hinserted, -⟩ := step_setDatagramQueue.mp hstep
    cases h.done.symm.trans hinserted
  | receive =>
    -- the only step left moves a datagram from the queue to the consumer
    obtain ⟨hdone, d', queue, hitems, -, rfl⟩ := step_receive.mp hstep
    have hnotQueued := h.notQueued
    rw [hitems, List.mem_cons, not_or] at hnotQueued
    refine ⟨h.idle, hdone, ?_, ?_, ?_⟩
    · show s.current < (s.setQueue s.current queue).queues.length
      rw [s.length_setQueue]
      exact h.currentValid
    · show d ∉ s.received ++ [d']
      rw [List.mem_append, List.mem_singleton, not_or]
      exact ⟨h.notReceived, hnotQueued.1⟩
    · show d ∉ ((s.setQueue s.current queue).queue s.current).items
      rw [s.queue_setQueue h.currentValid]
      exact hnotQueued.2

/-- Two datagrams arrive before the registration: the queue made for the second one takes the
    place of the first one's, and the first datagram is never read. -/
theorem first_of_two_aside_never_read :
    ∃ s, Run step anyStep (init 8)
        [.getChannel [1], .addDangling, .getChannel [2], .addDangling,
          .addChannel, .setDatagramQueue] s ∧
      s.expected = [[1], [2]] ∧
      ∀ bs t, Run step NotArrival s bs t → [1] ∉ t.received := by
  refine ⟨{ queues := [⟨[], 8⟩, ⟨[[1]], 10⟩, ⟨[[2]], 10⟩], registered := true, dangling := none
            current := 2, dispatcher := .idle, registration := .done
            received := [], expected := [[1], [2]] },
    run_of_exec (by decide), rfl, fun bs t hrun => ?_⟩
  have hlost := hrun.invariant (P := Lost [1]) (fun _ _ _ h hguard hstep => h.step hguard hstep)
    ⟨rfl, rfl, by decide, by decide, by decide⟩
  exact hlost.notReceived

end Ssh3.Core.Reordering
