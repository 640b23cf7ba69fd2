/-
  Ssh3.Core.AcceptQueue

  `ssh3-core/src/queue.rs` and `conversation.rs`: the queue of the channels that wait to be
  accepted, with any number of tasks that accept and any number of calls of `add`, in any
  interleaving.

  Two calls of `add` leave one permit if no task waits yet.  The task that takes the permit
  goes on taking channels as long as it calls again, but if it has made its last call before
  the queue is empty, the others may sleep beside a channel that nobody will take.
-/

import Mathlib.Algebra.Order.BigOperators.Group.List
import Ssh3.Lib.Notify
import Ssh3.Lib.Tasks
import Ssh3.Lib.Transition

namespace Ssh3.Core.AcceptQueue

open Transition Tasks

/-- Where a task is that accepts channels. -/
inductive Place where
  /-- Not in a call of `accept_channel_with_metadata` -/
  | idle
  /-- At the head of the loop in `wait_next` -/
  | looping
  /-- Behind `notified()`, which registers nothing -/
  | created
  /-- The queue was empty; the future has not been polled yet. -/
  | checked
  /-- In `notified.await` -/
  | waiting
  deriving DecidableEq, Repr

/-- A task that accepts channels -/
structure Consumer (α : Type) where
  /-- How many calls it makes after the first; `none` if it always calls again -/
  furtherCalls : Option Nat
  /-- What its calls have returned -/
  accepted : List α
  place : Place
  deriving DecidableEq, Repr

def Consumer.callsAgain {α : Type} (c : Consumer α) : Bool :=
  match c.furtherCalls with
  | none => true
  | some n => c.accepted.length ≤ n

theorem Consumer.callsAgain_eq_false {α : Type} {c : Consumer α} :
    c.callsAgain = false ↔ ∃ n, c.furtherCalls = some n ∧ n < c.accepted.length := by
  unfold callsAgain
  cases c.furtherCalls with
  | none => simp
  | some n => simp

/-- The queue and the tasks around it -/
structure State (α : Type) where
  queue : List α
  notify : Notify
  /-- What is still to be added -/
  toAdd : List α
  /-- The calls of `add` that have not notified yet -/
  adding : Nat
  consumers : List (Consumer α)
  deriving DecidableEq, Repr

/-- What a task does under one lock, or without one -/
inductive Action where
  /-- `self.queue.lock().unwrap().push_back(item)` -/
  | push
  /-- `self.notify.notify_one()` in a call of `add` -/
  | notifyOne (wake : Option Nat)
  /-- The next step of a task that accepts -/
  | consume (i : Nat)
  deriving DecidableEq, Repr

section

variable {α : Type}

namespace State

def setConsumer (s : State α) (i : Nat) (c : Consumer α) : State α :=
  { s with consumers := s.consumers.set i c }

/-- `next`: the call returns what is first in the queue, or the task goes on to `otherwise`. -/
def next (s : State α) (i : Nat) (c : Consumer α) (otherwise : Place) : State α :=
  match s.queue with
  | [] => s.setConsumer i { c with place := otherwise }
  | item :: queue =>
    { s.setConsumer i { c with accepted := c.accepted ++ [item], place := .idle } with queue }

def consume (s : State α) (i : Nat) (c : Consumer α) : Option (State α) :=
  match c.place with
  | .idle => if c.callsAgain then some (s.next i c .looping) else none
  | .looping => some (s.setConsumer i { c with place := .created })
  | .created => some (s.next i c .checked)
  | .checked =>
    let place := if (s.notify.poll i).1 then .looping else .waiting
    some { s.setConsumer i { c with place } with notify := (s.notify.poll i).2 }
  | .waiting =>
    (s.notify.resume i).map fun notify =>
      { s.setConsumer i { c with place := .looping } with notify }

end State

/-- One task goes on. -/
def step (s : State α) : Action → Option (State α)
  | .push =>
    match s.toAdd with
    | [] => none
    | item :: toAdd =>
      some { s with queue := s.queue ++ [item], toAdd, adding := s.adding + 1 }
  | .notifyOne wake =>
    if s.adding = 0 then none
    else (s.notify.notifyOne wake).map fun notify => { s with notify, adding := s.adding - 1 }
  | .consume i => s.consumers[i]?.bind (s.consume i)

/-- An empty queue, the tasks that will accept and what will be added -/
def start (callers : List (Option Nat)) (items : List α) : State α where
  queue := []
  notify := .new
  toAdd := items
  adding := 0
  consumers := callers.map fun furtherCalls => ⟨furtherCalls, [], .idle⟩

/-! ## A lost wakeup -/

/-- The task waits and has not been notified. -/
def State.Sleeps (s : State α) (i : Nat) (c : Consumer α) : Prop :=
  c.place = .waiting ∧ i ∉ s.notify.notified

/-- The task has made all its calls. -/
def Consumer.Done (c : Consumer α) : Prop := c.place = .idle ∧ c.callsAgain = false

/-- There is something in the queue, and nobody will take it: no permit is stored and none is
    on its way, and the tasks that are still in a call all sleep. -/
structure LostWakeup (s : State α) : Prop where
  queued : s.queue ≠ []
  permit : s.notify.permit = false
  adding : s.adding = 0
  asleep : ∀ i c, s.consumers[i]? = some c → s.Sleeps i c ∨ c.Done
  someone : ∃ i c, s.consumers[i]? = some c ∧ s.Sleeps i c

/-- It stays there: unless something is added, nothing can happen any more. -/
theorem LostWakeup.step_eq_none {s : State α} (h : LostWakeup s) (htoAdd : s.toAdd = [])
    (a : Action) : step s a = none := by
  cases a with
  | push => rw [step, htoAdd]
  | notifyOne wake => rw [step, if_pos h.adding]
  | consume i =>
    cases hget : s.consumers[i]? with
    | none => rw [step, hget, Option.bind_none]
    | some c =>
      rw [step, hget, Option.bind_some, State.consume]
      obtain ⟨hwaiting, hnot⟩ | ⟨hidle, hdone⟩ := h.asleep i c hget
      · rw [hwaiting]
        simp only [Notify.resume, if_neg hnot, Option.map_none]
      · simp only [hidle, hdone, Bool.false_eq_true, if_false]

/-! ## What a step can do -/

/-- What a step does to the queue and to one task -/
inductive Stepped (s : State α) : State α → Prop
  | pushed {item : α} {toAdd : List α} :
      s.toAdd = item :: toAdd →
      Stepped s { s with queue := s.queue ++ [item], toAdd, adding := s.adding + 1 }
  | notified {wake : Option Nat} {notify : Notify} :
      s.notify.notifyOne wake = some notify →
      Stepped s { s with notify, adding := s.adding - 1 }
  | took {i : Nat} {c : Consumer α} {item : α} {queue : List α} :
      s.consumers[i]? = some c → c.place ≠ .waiting → s.queue = item :: queue →
      Stepped s { s.setConsumer i { c with accepted := c.accepted ++ [item], place := .idle } with
        queue }
  | foundEmpty {i : Nat} {c : Consumer α} {place : Place} :
      s.consumers[i]? = some c → c.place ≠ .waiting → s.queue = [] →
      Stepped s (s.setConsumer i { c with place })
  | created {i : Nat} {c : Consumer α} :
      s.consumers[i]? = some c → c.place ≠ .waiting →
      Stepped s (s.setConsumer i { c with place := .created })
  | tookPermit {i : Nat} {c : Consumer α} :
      s.consumers[i]? = some c → c.place ≠ .waiting → s.notify.permit = true →
      Stepped s { s.setConsumer i { c with place := .looping } with
        notify := (s.notify.poll i).2 }
  | registered {i : Nat} {c : Consumer α} :
      s.consumers[i]? = some c → c.place = .checked → ¬s.notify.permit = true →
      Stepped s { s.setConsumer i { c with place := .waiting } with
        notify := (s.notify.poll i).2 }
  | resumed {i : Nat} {c : Consumer α} {notify : Notify} :
      s.consumers[i]? = some c → s.notify.resume i = some notify →
      Stepped s { s.setConsumer i { c with place := .looping } with notify }

variable {s t : State α}

theorem State.next_of_nil (h : s.queue = []) (i : Nat) (c : Consumer α) (otherwise : Place) :
    s.next i c otherwise = s.setConsumer i { c with place := otherwise } := by
  rw [State.next, h]

theorem State.next_of_cons {item : α} {queue : List α} (h : s.queue = item :: queue) (i : Nat)
    (c : Consumer α) (otherwise : Place) :
    s.next i c otherwise =
      { s.setConsumer i { c with accepted := c.accepted ++ [item], place := .idle } with
        queue } := by
  rw [State.next, h]

variable {c old : Consumer α} {i count n : Nat} {callers : List (Option Nat)}
  {pre : List (Consumer α)}

theorem stepped_next (hget : s.consumers[i]? = some c)
    (hplace : c.place ≠ .waiting) (otherwise : Place) : Stepped s (s.next i c otherwise) := by
  cases hqueue : s.queue with
  | nil =>
    rw [State.next_of_nil hqueue]
    exact .foundEmpty hget hplace hqueue
  | cons item queue =>
    rw [State.next_of_cons hqueue]
    exact .took hget hplace hqueue

theorem stepped_consume (hget : s.consumers[i]? = some c)
    (hstep : s.consume i c = some t) : Stepped s t := by
  unfold State.consume at hstep
  have hnot : ∀ {place : Place}, c.place = place → place ≠ .waiting → c.place ≠ .waiting :=
    fun heq hne h => hne (heq.symm.trans h)
  cases hplace : c.place with
  | idle =>
    rw [hplace] at hstep
    simp only at hstep
    split_ifs at hstep
    cases hstep
    exact stepped_next hget (hnot hplace Place.noConfusion) .looping
  | looping =>
    rw [hplace] at hstep
    cases hstep
    exact .created hget (hnot hplace Place.noConfusion)
  | created =>
    rw [hplace] at hstep
    cases hstep
    exact stepped_next hget (hnot hplace Place.noConfusion) .checked
  | checked =>
    simp only [hplace] at hstep
    by_cases hpermit : s.notify.permit = true
    · rw [(Notify.poll_of_permit hpermit i).1] at hstep
      cases hstep
      exact .tookPermit hget (hnot hplace Place.noConfusion) hpermit
    · rw [(Notify.poll_of_not_permit hpermit i).1] at hstep
      cases hstep
      exact .registered hget hplace hpermit
  | waiting =>
    rw [hplace] at hstep
    obtain ⟨notify, hresume, rfl⟩ := Option.map_eq_some_iff.mp hstep
    exact .resumed hget hresume

theorem stepped_of_step {a : Action} (hstep : step s a = some t) : Stepped s t := by
  cases a with
  | push =>
    unfold step at hstep
    cases htoAdd : s.toAdd with
    | nil =>
      rw [htoAdd] at hstep
      cases hstep
    | cons item toAdd =>
      rw [htoAdd] at hstep
      cases hstep
      exact .pushed htoAdd
  | notifyOne wake =>
    unfold step at hstep
    simp only at hstep
    split_ifs at hstep
    obtain ⟨notify, hnotify, rfl⟩ := Option.map_eq_some_iff.mp hstep
    exact .notified hnotify
  | consume i =>
    obtain ⟨c, hget, hconsume⟩ := Option.bind_eq_some_iff.mp hstep
    exact stepped_consume hget hconsume

/-! ## The invariant -/

/-- A task at one of these places looks at the queue before it waits. -/
def Place.isAwake : Place → Bool
  | .idle | .looping | .created => true
  | .checked | .waiting => false

/-- Somebody is told that there is something in the queue, or is going to look, or has made
    its last call. -/
inductive State.Signalled (s : State α) : Prop
  | adding (h : s.adding ≠ 0)
  | permit (h : s.notify.permit = true)
  | notified (h : s.notify.notified ≠ [])
  | awake (i : Nat) (c : Consumer α) (hget : s.consumers[i]? = some c)
      (h : c.place.isAwake = true)

def State.taken (s : State α) : Nat := (s.consumers.map (·.accepted.length)).sum

/-- Nothing is lost, and while something is queued some task has been told. -/
structure Inv (callers : List (Option Nat)) (count : Nat) (s : State α) : Prop where
  callers : s.consumers.map (·.furtherCalls) = callers
  registered : ∀ i, i ∈ s.notify.waiting ∨ i ∈ s.notify.notified →
    ∃ c, s.consumers[i]? = some c ∧ c.place = .waiting
  counted : s.taken + s.queue.length + s.toAdd.length = count
  signalled : s.queue ≠ [] → s.Signalled

theorem inv_start (callers : List (Option Nat)) (items : List α) :
    Inv callers items.length (start callers items) where
  callers := by simp [start, Function.comp_def]
  registered i := by simp [start, Notify.new]
  counted := by
    have htaken : (start callers items).taken = 0 := by
      simp [State.taken, start, Function.comp_def]
    rw [htaken]
    simp [start]
  signalled h := absurd rfl h

theorem State.get_setConsumer_self (hget : s.consumers[i]? = some old) (c : Consumer α) :
    (s.setConsumer i c).consumers[i]? = some c :=
  get_set_self hget

theorem State.get_setConsumer_other {j : Nat} (h : j ≠ i) (c : Consumer α) :
    (s.setConsumer i c).consumers[j]? = s.consumers[j]? :=
  List.getElem?_set_ne (Ne.symm h)

theorem State.taken_setConsumer (hget : s.consumers[i]? = some old) (c : Consumer α) :
    (s.setConsumer i c).taken + old.accepted.length = s.taken + c.accepted.length :=
  sum_map_set hget _

/-- A task that does not wait is not registered, so it may go anywhere. -/
theorem Inv.registered_setConsumer (h : Inv callers count s) (hget : s.consumers[i]? = some old)
    (hplace : old.place ≠ .waiting) (c : Consumer α) (j : Nat)
    (hmem : j ∈ s.notify.waiting ∨ j ∈ s.notify.notified) :
    ∃ other, (s.setConsumer i c).consumers[j]? = some other ∧ other.place = .waiting := by
  obtain ⟨other, hother, hwaiting⟩ := h.registered j hmem
  have hne : j ≠ i := by
    rintro rfl
    rw [hget] at hother
    cases hother
    exact hplace hwaiting
  exact ⟨other, by rwa [State.get_setConsumer_other hne], hwaiting⟩

theorem Inv.callers_setConsumer (h : Inv callers count s) (hget : s.consumers[i]? = some old)
    (hcalls : c.furtherCalls = old.furtherCalls) :
    (s.setConsumer i c).consumers.map (·.furtherCalls) = callers :=
  (map_set_of_eq hget hcalls).trans h.callers

theorem State.taken_setPlace (hget : s.consumers[i]? = some c)
    (place : Place) : (s.setConsumer i { c with place }).taken = s.taken :=
  Nat.add_right_cancel (State.taken_setConsumer hget { c with place })

theorem Inv.stepped (h : Inv callers count s) (hstep : Stepped s t) : Inv callers count t := by
  have hcounted := h.counted
  cases hstep with
  | @pushed item toAdd htoAdd =>
    refine ⟨h.callers, h.registered, ?_, fun _ => .adding (Nat.succ_ne_zero _)⟩
    show s.taken + (s.queue ++ [item]).length + toAdd.length = count
    rw [htoAdd, List.length_cons] at hcounted
    rw [List.length_append, List.length_singleton]
    omega
  | @notified wake notify hnotify =>
    refine ⟨h.callers,
      fun i hmem => h.registered i (Notify.registered_of_notifyOne hnotify hmem), hcounted,
      fun _ => ?_⟩
    obtain hpermit | hnotified := Notify.notifyOne_signals hnotify
    · exact .permit hpermit
    · exact .notified hnotified
  | @took i c item queue hget hplace hqueue =>
    refine ⟨h.callers_setConsumer hget rfl, h.registered_setConsumer hget hplace _, ?_,
      fun _ => ?_⟩
    · have htaken := State.taken_setConsumer hget
        { c with accepted := c.accepted ++ [item], place := .idle }
      rw [List.length_append, List.length_singleton] at htaken
      rw [hqueue, List.length_cons] at hcounted
      show State.taken (s.setConsumer i _) + queue.length + s.toAdd.length = count
      omega
    · exact .awake i _ (State.get_setConsumer_self hget _) rfl
  | @foundEmpty i c place hget hplace hqueue =>
    refine ⟨h.callers_setConsumer hget rfl, h.registered_setConsumer hget hplace _, ?_,
      fun hne => absurd hqueue hne⟩
    show State.taken _ + s.queue.length + s.toAdd.length = count
    rwa [State.taken_setPlace hget]
  | @created i c hget hplace =>
    refine ⟨h.callers_setConsumer hget rfl, h.registered_setConsumer hget hplace _, ?_,
      fun _ => ?_⟩
    · show State.taken _ + s.queue.length + s.toAdd.length = count
      rwa [State.taken_setPlace hget]
    · exact .awake i _ (State.get_setConsumer_self hget _) rfl
  | @tookPermit i c hget hplace hpermit =>
    obtain ⟨-, -, hwaiting, hnotified⟩ := Notify.poll_of_permit hpermit i
    refine ⟨h.callers_setConsumer hget rfl, ?_, ?_, fun _ => ?_⟩
    · show ∀ j, j ∈ (s.notify.poll i).2.waiting ∨ j ∈ (s.notify.poll i).2.notified → _
      rw [hwaiting, hnotified]
      exact h.registered_setConsumer hget hplace _
    · show State.taken (s.setConsumer i _) + s.queue.length + s.toAdd.length = count
      rwa [State.taken_setPlace hget]
    · exact .awake i _ (State.get_setConsumer_self hget _) rfl
  | @registered i c hget hplace hpermit =>
    obtain ⟨-, -, hwaiting, hnotified⟩ := Notify.poll_of_not_permit hpermit i
    have hnot : c.place ≠ .waiting := by
      rw [hplace]
      exact Place.noConfusion
    refine ⟨h.callers_setConsumer hget rfl, ?_, ?_, fun hne => ?_⟩
    · show ∀ j, j ∈ (s.notify.poll i).2.waiting ∨ j ∈ (s.notify.poll i).2.notified → _
      rw [hwaiting, hnotified]
      intro j hmem
      by_cases hj : j = i
      · rw [hj]
        exact ⟨_, State.get_setConsumer_self hget _, rfl⟩
      · refine h.registered_setConsumer hget hnot _ j ?_
        rwa [List.mem_append, List.mem_singleton, or_iff_left hj] at hmem
    · show State.taken (s.setConsumer i _) + s.queue.length + s.toAdd.length = count
      rwa [State.taken_setPlace hget]
    · -- this task was not the one that looks at the queue
      cases h.signalled hne with
      | adding hadding => exact .adding hadding
      | permit hpermit' => exact absurd hpermit' hpermit
      | notified hne' =>
        refine .notified ?_
        show (s.notify.poll i).2.notified ≠ []
        rwa [hnotified]
      | awake j other hother hawake =>
        have hj : j ≠ i := by
          rintro rfl
          rw [hget] at hother
          cases hother
          rw [hplace] at hawake
          cases hawake
        exact .awake j other ((State.get_setConsumer_other hj _).trans hother) hawake
  | @resumed i c notify hget hresume =>
    obtain ⟨-, rfl⟩ := Notify.resume_eq_some hresume
    refine ⟨h.callers_setConsumer hget rfl, ?_, ?_, fun _ => ?_⟩
    · intro j hmem
      obtain ⟨hj, hmem⟩ := Notify.registered_unregister hmem
      obtain ⟨other, hother, hwaiting⟩ := h.registered j hmem
      exact ⟨other, (State.get_setConsumer_other hj _).trans hother, hwaiting⟩
    · show State.taken (s.setConsumer i _) + s.queue.length + s.toAdd.length = count
      rwa [State.taken_setPlace hget]
    · exact .awake i _ (State.get_setConsumer_self hget _) rfl

theorem Inv.run {as : List Action}
    (h : Inv callers count s) (hrun : Run step anyStep s as t) : Inv callers count t :=
  hrun.invariant (fun _ _ _ h _ hstep => h.stepped (stepped_of_step hstep)) h

/-! ## When no wakeup is lost -/

/-- Nobody who waits sleeps beside a channel for ever if there is only one task, or if every
    task goes on until all there is has been taken. -/
theorem Inv.not_lostWakeup (h : Inv callers count s)
    (hcallers : callers.length ≤ 1 ∨ ∀ n, some n ∈ callers → count ≤ n + 1) :
    ¬LostWakeup s := by
  intro hlost
  cases h.signalled hlost.queued with
  | adding hadding => exact hadding hlost.adding
  | permit hpermit =>
    rw [hlost.permit] at hpermit
    cases hpermit
  | notified hne =>
    obtain ⟨i, hmem⟩ := List.exists_mem_of_ne_nil _ hne
    obtain ⟨c, hget, hwaiting⟩ := h.registered i (.inr hmem)
    obtain ⟨-, hsleeps⟩ | ⟨hidle, -⟩ := hlost.asleep i c hget
    · exact hsleeps hmem
    · rw [hidle] at hwaiting
      cases hwaiting
  | awake i c hget hawake =>
    -- it is one that has made all its calls
    obtain ⟨hwaiting, -⟩ | ⟨hidle, hdone⟩ := hlost.asleep i c hget
    · rw [hwaiting] at hawake
      cases hawake
    · obtain ⟨n, hcalls, hn⟩ := c.callsAgain_eq_false.mp hdone
      obtain hone | hmany := hcallers
      · obtain ⟨j, other, hother, hsleeps, -⟩ := hlost.someone
        have hlength := congrArg List.length h.callers
        rw [List.length_map] at hlength
        have hi := (List.getElem?_eq_some_iff.mp hget).1
        have hj := (List.getElem?_eq_some_iff.mp hother).1
        obtain rfl : i = j := by omega
        rw [hget] at hother
        cases hother
        rw [hidle] at hsleeps
        cases hsleeps
      · have hmem : some n ∈ callers := by
          rw [← h.callers, ← hcalls]
          exact List.mem_map_of_mem (List.mem_of_getElem? hget)
        have hcount := hmany n hmem
        have hle : c.accepted.length ≤ s.taken :=
          List.single_le_sum (fun _ _ => Nat.zero_le _) _
            (List.mem_map_of_mem (List.mem_of_getElem? hget))
        have hpos := List.length_pos_iff.mpr hlost.queued
        have hcounted := h.counted
        omega

/-! ## How a wakeup is lost -/

theorem step_consume (hget : s.consumers[i]? = some c) : step s (.consume i) = s.consume i c := by
  rw [step, hget]
  rfl

theorem State.setConsumer_setConsumer (s : State α) (i : Nat) (c d : Consumer α) :
    (s.setConsumer i c).setConsumer i d = s.setConsumer i d := by
  rw [setConsumer, setConsumer, setConsumer, List.set_set]

section

variable {post : List (Consumer α)} (hconsumers : s.consumers = pre ++ c :: post)

include hconsumers

theorem State.get_middle : s.consumers[pre.length]? = some c := by
  rw [hconsumers, List.getElem?_append_right (Nat.le_refl _), Nat.sub_self]
  rfl

theorem State.set_middle (d : Consumer α) : s.consumers.set pre.length d = pre ++ d :: post := by
  rw [hconsumers, List.set_append_right _ _ (Nat.le_refl _), Nat.sub_self, List.set_cons_zero]

end

/-- A task calls, and finds the queue empty twice. -/
theorem run_enter (hqueue : s.queue = [])
    (hget : s.consumers[i]? = some c) (hidle : c.place = .idle) (hagain : c.callsAgain = true) :
    Run step anyStep s [.consume i, .consume i, .consume i]
      (s.setConsumer i { c with place := .checked }) := by
  have hcall : step s (.consume i) = some (s.setConsumer i { c with place := .looping }) := by
    rw [step_consume hget, State.consume, hidle]
    simp only [hagain, if_true, State.next_of_nil hqueue]
  have hcreate : step (s.setConsumer i { c with place := .looping }) (.consume i) =
      some (s.setConsumer i { c with place := .created }) := by
    rw [step_consume (State.get_setConsumer_self hget _), State.consume,
      State.setConsumer_setConsumer]
  have hcheck : step (s.setConsumer i { c with place := .created }) (.consume i) =
      some (s.setConsumer i { c with place := .checked }) := by
    have hqueue' : (s.setConsumer i { c with place := .created }).queue = [] := hqueue
    rw [step_consume (State.get_setConsumer_self hget _), State.consume]
    simp only [State.next_of_nil hqueue', State.setConsumer_setConsumer]
  exact .cons trivial hcall (.cons trivial hcreate (.cons trivial hcheck (.nil _)))

theorem run_enter_all {callers : List (Consumer α)} (hqueue : s.queue = [])
    (hcallers : ∀ c ∈ callers, c.place = .idle ∧ c.callsAgain = true)
    (hconsumers : s.consumers = pre ++ callers) :
    ∃ as, Run step anyStep s as
      { s with consumers := pre ++ callers.map fun c => { c with place := .checked } } := by
  induction callers generalizing s pre with
  | nil =>
    refine ⟨[], ?_⟩
    rw [List.map_nil, ← hconsumers]
    exact .nil s
  | cons c callers ih =>
    obtain ⟨⟨hidle, hagain⟩, hothers⟩ := List.forall_mem_cons.mp hcallers
    have hget := State.get_middle hconsumers
    have hnext : (s.setConsumer pre.length { c with place := .checked }).consumers =
        (pre ++ [{ c with place := .checked }]) ++ callers :=
      (State.set_middle hconsumers _).trans (List.append_cons ..)
    obtain ⟨as, has⟩ := ih (s := s.setConsumer pre.length { c with place := .checked }) hqueue
      hothers hnext
    rw [List.append_assoc] at has
    exact ⟨_, (run_enter hqueue hget hidle hagain).append has⟩

/-- With no task waiting, the calls of `add` leave one permit. -/
theorem run_add_all {toAdd : List α} (htoAdd : s.toAdd = toAdd) (hadding : s.adding = 0)
    (hwaiting : s.notify.waiting = []) :
    ∃ as notify, Run step anyStep s as { s with queue := s.queue ++ toAdd, toAdd := [], notify } ∧
      notify.notified = s.notify.notified ∧
      (s.notify.permit = true ∨ toAdd ≠ [] → notify.permit = true) := by
  induction toAdd generalizing s with
  | nil =>
    refine ⟨[], s.notify, ?_, rfl, fun h => h.resolve_right fun hne => hne rfl⟩
    rw [List.append_nil, ← htoAdd]
    exact .nil s
  | cons item toAdd ih =>
    obtain ⟨kept, hkept⟩ : ∃ kept, s.notify.notifyOne none = some kept := ⟨_, dif_pos hwaiting⟩
    obtain ⟨hpermit, hwaiting', hnotified⟩ := Notify.notifyOne_none hkept
    let pushed : State α := { s with queue := s.queue ++ [item], toAdd, adding := s.adding + 1 }
    let added : State α := { s with queue := s.queue ++ [item], toAdd, notify := kept }
    have hpush : step s .push = some pushed := by
      rw [step, htoAdd]
    have hnotify : step pushed (.notifyOne none) = some added := by
      have hkept' : pushed.notify.notifyOne none = some kept := hkept
      rw [step, if_neg (Nat.succ_ne_zero _), hkept']
      rfl
    obtain ⟨as, notify, hrun, hnotified', hpermit'⟩ :=
      ih (s := added) rfl hadding (hwaiting'.trans hwaiting)
    have hqueue : added.queue ++ toAdd = s.queue ++ item :: toAdd := by
      rw [List.append_assoc, List.singleton_append]
    rw [hqueue] at hrun
    exact ⟨_, notify, .cons trivial hpush (.cons trivial hnotify hrun),
      hnotified'.trans hnotified, fun _ => hpermit' (.inl hpermit)⟩

/-- A task that has been let in takes as many channels as it makes calls. -/
theorem run_take_all {left : Nat} (hget : s.consumers[i]? = some c)
    (hidle : c.place = .idle) (hcalls : c.furtherCalls = some n)
    (hleft : c.accepted.length + left = n + 1) (hqueue : left ≤ s.queue.length) :
    ∃ as, ∃ last : Consumer α, last.Done ∧
      Run step anyStep s as { s.setConsumer i last with queue := s.queue.drop left } := by
  induction left generalizing s c with
  | zero =>
    refine ⟨[], c, ⟨hidle, Consumer.callsAgain_eq_false.mpr ⟨n, hcalls, by omega⟩⟩, ?_⟩
    have hsame : s.consumers.set i c = s.consumers := by
      obtain ⟨hlt, rfl⟩ := List.getElem?_eq_some_iff.mp hget
      exact List.set_getElem_self hlt
    rw [State.setConsumer, hsame, List.drop_zero]
    exact .nil s
  | succ left ih =>
    obtain ⟨item, queue, hitems⟩ := List.exists_cons_of_length_pos (Nat.lt_of_lt_of_le
      (Nat.succ_pos left) hqueue)
    have hagain : c.callsAgain = true := by
      rw [← Bool.not_eq_false, Consumer.callsAgain_eq_false, hcalls]
      rintro ⟨m, hm, hlt⟩
      cases hm
      omega
    let next : Consumer α := { c with accepted := c.accepted ++ [item], place := .idle }
    have htake : step s (.consume i) = some { s.setConsumer i next with queue } := by
      rw [step_consume hget, State.consume, hidle]
      simp only [hagain, if_true, State.next_of_cons hitems]
      rfl
    have hleft' : next.accepted.length + left = n + 1 := by
      show (c.accepted ++ [item]).length + left = n + 1
      rw [List.length_append, List.length_singleton]
      omega
    rw [hitems, List.length_cons] at hqueue
    obtain ⟨as, last, hdone, hrun⟩ := ih (s := { s.setConsumer i next with queue })
      (State.get_setConsumer_self hget next) rfl hcalls hleft' (Nat.le_of_succ_le_succ hqueue)
    refine ⟨.consume i :: as, last, hdone, .cons trivial htake ?_⟩
    rw [hitems, List.drop_succ_cons, ← s.setConsumer_setConsumer i next last]
    exact hrun

/-- The others poll their futures, and no permit is left. -/
theorem run_poll_all {callers : List (Consumer α)} (hpermit : s.notify.permit = false)
    (hcallers : ∀ c ∈ callers, c.place = .checked) {post : List (Consumer α)}
    (hconsumers : s.consumers = pre ++ (callers ++ post)) :
    ∃ as notify, Run step anyStep s as { s with
        notify
        consumers := pre ++ (callers.map (fun c => { c with place := .waiting }) ++ post) } ∧
      notify.permit = false ∧ notify.notified = s.notify.notified := by
  induction callers generalizing s pre with
  | nil =>
    refine ⟨[], s.notify, ?_, hpermit, rfl⟩
    rw [List.map_nil, ← hconsumers]
    exact .nil s
  | cons c callers ih =>
    obtain ⟨hchecked, hothers⟩ := List.forall_mem_cons.mp hcallers
    have hget := State.get_middle hconsumers
    have hnot : ¬s.notify.permit = true := by
      rw [hpermit]
      exact Bool.false_ne_true
    obtain ⟨hready, hpermit', -, hnotified⟩ := Notify.poll_of_not_permit hnot pre.length
    let polled : State α := { s.setConsumer pre.length { c with place := .waiting } with
      notify := (s.notify.poll pre.length).2 }
    have hpoll : step s (.consume pre.length) = some polled := by
      rw [step_consume hget, State.consume, hchecked]
      simp only [hready]
      rfl
    have hnext : polled.consumers =
        (pre ++ [{ c with place := .waiting }]) ++ (callers ++ post) :=
      (State.set_middle hconsumers _).trans (List.append_cons ..)
    obtain ⟨as, notify, hrun, hpermit'', hnotified'⟩ := ih (s := polled) hpermit' hothers hnext
    rw [List.append_assoc] at hrun
    exact ⟨_, notify, .cons trivial hpoll hrun, hpermit'', hnotified'.trans hnotified⟩

/-- One task takes the permit, and with it the first channel. -/
theorem run_admit {item : α} {queue : List α}
    (hget : s.consumers[i]? = some c) (hchecked : c.place = .checked)
    (hpermit : s.notify.permit = true) (hqueue : s.queue = item :: queue) :
    ∃ as notify, Run step anyStep s as
        { s.setConsumer i { c with accepted := c.accepted ++ [item], place := .idle } with
          queue, notify } ∧
      notify.permit = false ∧ notify.notified = s.notify.notified := by
  obtain ⟨hready, hpermit', -, hnotified⟩ := Notify.poll_of_permit hpermit i
  let woken : State α := { s.setConsumer i { c with place := .looping } with
    notify := (s.notify.poll i).2 }
  have hget' : woken.consumers[i]? = some { c with place := .looping } :=
    State.get_setConsumer_self hget _
  have hpoll : step s (.consume i) = some woken := by
    rw [step_consume hget, State.consume, hchecked]
    simp only [hready]
    rfl
  have hcreate : step woken (.consume i) =
      some (woken.setConsumer i { c with place := .created }) := by
    rw [step_consume hget']
    rfl
  have htake : step (woken.setConsumer i { c with place := .created }) (.consume i) =
      some { woken.setConsumer i { c with accepted := c.accepted ++ [item], place := .idle } with
        queue } := by
    have hqueue' : (woken.setConsumer i { c with place := .created }).queue = item :: queue :=
      hqueue
    rw [step_consume (State.get_setConsumer_self hget' _), State.consume]
    simp only [State.next_of_cons hqueue', State.setConsumer_setConsumer]
  refine ⟨[.consume i, .consume i, .consume i], (s.notify.poll i).2, ?_, hpermit', hnotified⟩
  rw [← s.setConsumer_setConsumer i { c with place := .looping }]
  exact .cons trivial hpoll (.cons trivial hcreate (.cons trivial htake (.nil _)))

/-- The task with the permit makes all its calls, and finds something each time. -/
theorem run_serve {post : List (Consumer α)}
    (hconsumers : s.consumers = pre ++ c :: post) (hchecked : c.place = .checked)
    (hcalls : c.furtherCalls = some n) (hnone : c.accepted = [])
    (hpermit : s.notify.permit = true) (hqueue : n + 1 ≤ s.queue.length) :
    ∃ as notify, ∃ last : Consumer α, last.Done ∧
      Run step anyStep s as
        { s with queue := s.queue.drop (n + 1), notify, consumers := pre ++ last :: post } ∧
      notify.permit = false ∧ notify.notified = s.notify.notified := by
  obtain ⟨item, queue, hitems⟩ := List.exists_cons_of_length_pos (Nat.lt_of_lt_of_le
    (Nat.succ_pos n) hqueue)
  have hget := State.get_middle hconsumers
  obtain ⟨as, notify, hadmit, hpermit', hnotified⟩ := run_admit hget hchecked hpermit hitems
  let first : Consumer α := { c with accepted := c.accepted ++ [item], place := .idle }
  let admitted : State α := { s.setConsumer pre.length first with queue, notify }
  have hfirst : first.accepted.length + n = n + 1 := by
    show (c.accepted ++ [item]).length + n = n + 1
    rw [hnone, List.nil_append, List.length_singleton, Nat.add_comm]
  have hlength : n ≤ queue.length := by
    rw [hitems, List.length_cons] at hqueue
    exact Nat.le_of_succ_le_succ hqueue
  have hget' : admitted.consumers[pre.length]? = some first := State.get_setConsumer_self hget _
  obtain ⟨bs, last, hdone, htake⟩ := run_take_all hget' rfl hcalls hfirst hlength
  refine ⟨as ++ bs, notify, last, hdone, ?_, hpermit', hnotified⟩
  have hlast : (admitted.setConsumer pre.length last).consumers = pre ++ last :: post := by
    show (s.consumers.set _ _).set _ _ = _
    rw [List.set_set, State.set_middle hconsumers]
  rw [hitems, List.drop_succ_cons, ← hlast]
  exact hadmit.append htake

/-- A task that has not accepted anything -/
def caller (place : Place) (furtherCalls : Option Nat) : Consumer α := ⟨furtherCalls, [], place⟩

theorem map_caller (callers : List (Option Nat)) (place next : Place) :
    (callers.map (caller (α := α) place)).map (fun c => { c with place := next }) =
      callers.map (caller next) := by
  rw [List.map_map]
  rfl

theorem run_start (callers : List (Option Nat)) (items : List α) :
    ∃ as notify, Run step anyStep (start callers items) as
        ⟨items, notify, [], 0, callers.map (caller .checked)⟩ ∧
      notify.notified = [] ∧ (items ≠ [] → notify.permit = true) := by
  have hfresh : ∀ c ∈ callers.map (caller (α := α) .idle),
      c.place = .idle ∧ c.callsAgain = true := by
    intro c hc
    obtain ⟨calls, -, rfl⟩ := List.mem_map.mp hc
    refine ⟨rfl, ?_⟩
    cases calls with
    | none => rfl
    | some m => exact decide_eq_true (Nat.zero_le m)
  have hconsumers : (start callers items).consumers = [] ++ callers.map (caller .idle) := rfl
  obtain ⟨as, hchecked⟩ := run_enter_all rfl hfresh hconsumers
  rw [List.nil_append, map_caller] at hchecked
  let checked : State α := ⟨[], .new, items, 0, callers.map (caller .checked)⟩
  have hwaiting : checked.notify.waiting = [] := rfl
  obtain ⟨bs, notify, hadded, hnotified, hpermit⟩ := run_add_all (s := checked) rfl rfl hwaiting
  exact ⟨as ++ bs, notify, hchecked.append hadded, hnotified, fun hne => hpermit (.inr hne)⟩

theorem lostWakeup_of_waiting {before after : List (Option Nat)} {last : Consumer α}
    {notify : Notify} {items : List α} (hdone : last.Done)
    (hnotified : notify.notified = []) (hpermit : notify.permit = false)
    (hfew : n + 1 < items.length) (hmany : 1 < (before ++ some n :: after).length) :
    LostWakeup ⟨items.drop (n + 1), notify, [], 0,
      before.map (caller .waiting) ++ last :: after.map (caller .waiting)⟩ where
  queued := by
    rw [Ne, List.drop_eq_nil_iff, Nat.not_le]
    exact hfew
  permit := hpermit
  adding := rfl
  asleep i c hget := by
    have hnot : i ∉ notify.notified := by
      rw [hnotified]
      exact List.not_mem_nil
    have hmem := List.mem_of_getElem? hget
    rw [List.mem_append, List.mem_cons] at hmem
    obtain hmem | rfl | hmem := hmem
    · obtain ⟨calls, -, rfl⟩ := List.mem_map.mp hmem
      exact .inl ⟨rfl, hnot⟩
    · exact .inr hdone
    · obtain ⟨calls, -, rfl⟩ := List.mem_map.mp hmem
      exact .inl ⟨rfl, hnot⟩
  someone := by
    have hwaiting : ∃ c ∈ before.map (caller (α := α) .waiting) ++
        last :: after.map (caller .waiting), c.place = .waiting := by
      rw [List.length_append, List.length_cons] at hmany
      cases before with
      | cons calls before => exact ⟨_, List.mem_cons_self, rfl⟩
      | nil =>
        cases after with
        | cons calls after => exact ⟨_, List.mem_cons_of_mem _ List.mem_cons_self, rfl⟩
        | nil =>
          simp only [List.length_nil] at hmany
          omega
    obtain ⟨c, hmem, hplace⟩ := hwaiting
    obtain ⟨i, hget⟩ := List.mem_iff_getElem?.mp hmem
    refine ⟨i, c, hget, hplace, ?_⟩
    show i ∉ notify.notified
    rw [hnotified]
    exact List.not_mem_nil

/-- All tasks find the queue empty before anything is added, and the one that takes the permit
    makes its last call before the queue is empty again. -/
theorem exists_lostWakeup {items : List α}
    (hmany : 1 < callers.length) (hmem : some n ∈ callers) (hfew : n + 1 < items.length) :
    ∃ as t, Run step anyStep (start callers items) as t ∧ LostWakeup t := by
  have hitems : items ≠ [] := List.ne_nil_of_length_pos (Nat.zero_lt_of_lt hfew)
  obtain ⟨before, after, rfl⟩ := List.append_of_mem hmem
  obtain ⟨as₁, notify₁, hrun₁, hnotified₁, hpermit₁⟩ :=
    run_start (before ++ some n :: after) items
  have hconsumers₁ : (before ++ some n :: after).map (caller (α := α) .checked) =
      before.map (caller .checked) ++ caller .checked (some n) :: after.map (caller .checked) := by
    rw [List.map_append, List.map_cons]
  let filled : State α :=
    ⟨items, notify₁, [], 0, (before ++ some n :: after).map (caller .checked)⟩
  obtain ⟨as₂, notify₂, last, hdone, hrun₂, hpermit₂, hnotified₂⟩ :=
    run_serve (s := filled) hconsumers₁ rfl rfl rfl (hpermit₁ hitems) (Nat.le_of_lt hfew)
  have hchecked : ∀ callers : List (Option Nat), ∀ c ∈ callers.map (caller (α := α) .checked),
      c.place = .checked := by
    intro callers c hc
    obtain ⟨calls, -, rfl⟩ := List.mem_map.mp hc
    rfl
  -- those in front of it poll their futures, and those behind it
  let served : State α := ⟨items.drop (n + 1), notify₂, [], 0,
    before.map (caller .checked) ++ last :: after.map (caller .checked)⟩
  obtain ⟨as₃, notify₃, hrun₃, hpermit₃, hnotified₃⟩ :=
    run_poll_all (s := served) hpermit₂ (hchecked before) (List.nil_append _).symm
  rw [map_caller, List.nil_append] at hrun₃
  let half : State α := ⟨items.drop (n + 1), notify₃, [], 0,
    before.map (caller .waiting) ++ last :: after.map (caller .checked)⟩
  have hconsumers₃ : half.consumers =
      (before.map (caller .waiting) ++ [last]) ++ (after.map (caller .checked) ++ []) := by
    rw [List.append_nil, List.append_assoc, List.singleton_append]
  obtain ⟨as₄, notify₄, hrun₄, hpermit₄, hnotified₄⟩ :=
    run_poll_all (s := half) hpermit₃ (hchecked after) hconsumers₃
  rw [map_caller, List.append_nil, List.append_assoc, List.singleton_append] at hrun₄
  have hnotified : notify₄.notified = [] :=
    hnotified₄.trans (hnotified₃.trans (hnotified₂.trans hnotified₁))
  refine ⟨_, _, hrun₁.append (hrun₂.append (hrun₃.append hrun₄)), ?_⟩
  exact lostWakeup_of_waiting hdone hnotified hpermit₄ hfew hmany

/-- **Accept queue.**  No schedule leaves a task asleep beside a channel that nobody will take if
    and only if there is at most one task that accepts, or each of them calls at least as often
    as something is added. -/
theorem noLostWakeup_iff (callers : List (Option Nat)) (items : List α) :
    (∀ as t, Run step anyStep (start callers items) as t → ¬LostWakeup t) ↔
      callers.length ≤ 1 ∨ ∀ n, some n ∈ callers → items.length ≤ n + 1 := by
  constructor
  · intro hnever
    by_contra hnot
    push Not at hnot
    obtain ⟨hmany, n, hmem, hfew⟩ := hnot
    obtain ⟨as, t, hrun, hlost⟩ := exists_lostWakeup hmany hmem hfew
    exact hnever as t hrun hlost
  · intro hcallers as t hrun
    exact ((inv_start callers items).run hrun).not_lostWakeup hcallers

end

/-- Two tasks that accept once, and two channels: both tasks check, both channels are added, and
    the second task sleeps while the second channel is in the queue. -/
theorem second_channel_never_accepted :
    ∃ t : State Nat, Run step anyStep (start [some 0, some 0] [4, 8])
      [.consume 0, .consume 0, .consume 0, .consume 1, .consume 1, .consume 1,
        .push, .notifyOne none, .push, .notifyOne none,
        .consume 0, .consume 0, .consume 0, .consume 1] t ∧
      t.queue = [8] ∧ LostWakeup t ∧ ∀ a, step t a = none := by
  have hlost : LostWakeup ⟨[4, 8].drop (0 + 1),
      ⟨false, [1], [], fun h => absurd h Bool.false_ne_true⟩, [], 0,
      ([] : List (Option Nat)).map (caller .waiting) ++
        ⟨some 0, [4], .idle⟩ :: [some 0].map (caller .waiting)⟩ :=
    lostWakeup_of_waiting ⟨rfl, rfl⟩ rfl rfl (by decide) (by decide)
  exact ⟨_, run_of_exec (by decide +kernel), rfl, hlost, hlost.step_eq_none rfl⟩

end Ssh3.Core.AcceptQueue

