/-
  Ssh3.Core.SharedQueue

  `ssh3-core/src/queue.rs`: a `DatagramQueue` that any number of tasks use at the same time.

  A call takes effect in the critical section in which it pushes or pops, and two logs are
  written there: what has been accepted and what has been handed out, each with the task
  that did it.  Everything else a call does is to wait and to notify, and what holds of the
  queue does not depend on who is notified: a waiting task may also be woken for nothing,
  or be dropped.
-/

import Ssh3.Core.ChannelQueues
import Ssh3.Lib.HeadOfLine
import Ssh3.Lib.Notify
import Ssh3.Lib.Tasks

namespace Ssh3.Core.SharedQueue

open Transition Tasks
open HeadOfLine (itemsFor)

/-- The methods of the queue -/
inductive Call where
  | add (datagram : Datagram)
  | waitAdd (datagram : Datagram)
  | next
  | waitNext
  deriving DecidableEq, Repr

/-- What a call returns -/
inductive Result where
  /-- Of `add` -/
  | added (taken : Bool)
  /-- Of `wait_add` -/
  | completed
  /-- Of `next` and `wait_next` -/
  | next (datagram : Option Datagram)
  deriving DecidableEq, Repr

/-- Where a call is. -/
inductive Phase where
  /-- At its beginning, or at the head of the loop -/
  | called
  /-- Behind `notified()` -/
  | created
  /-- The queue was full, or empty; the future has not been polled yet. -/
  | checked
  /-- In `notified.await` -/
  | waiting
  /-- Behind the critical section, before `notify_one` -/
  | notifying (result : Result)
  | returned (result : Result)
  /-- Dropped while it waited -/
  | cancelled
  deriving DecidableEq, Repr

/-- A task and its call -/
structure Task where
  call : Call
  phase : Phase
  deriving DecidableEq, Repr

/-- The two `Notify`s -/
inductive Side where
  | notEmpty
  | notFull
  deriving DecidableEq, Repr

def Call.awaits : Call → Side
  | .add _ | .waitAdd _ => .notFull
  | .next | .waitNext => .notEmpty

def Call.notifies : Call → Side
  | .add _ | .waitAdd _ => .notEmpty
  | .next | .waitNext => .notFull

/-- The queue, its two `Notify`s and the tasks -/
structure State where
  queue : DatagramQueue
  notify : Side → Notify
  tasks : List Task
  /-- The datagrams in the order in which they were pushed, with the tasks -/
  accepted : List (Nat × Datagram)
  /-- The datagrams in the order in which they were popped -/
  handed : List (Nat × Datagram)

def start (capacity : Nat) : State where
  queue := .new capacity
  notify _ := .new
  tasks := []
  accepted := []
  handed := []

/-- A task calls or goes on -/
inductive Action where
  /-- A new task makes a call. -/
  | call (call : Call)
  /-- A task goes on; if it notifies, then this one. -/
  | run (i : Nat) (wake : Option Nat)
  /-- A waiting task is woken for nothing. -/
  | wakeSpuriously (i : Nat)
  /-- A waiting task is dropped; a notification it has is passed on. -/
  | cancel (i : Nat) (wake : Option Nat)
  deriving DecidableEq, Repr

namespace State

def setPhase (s : State) (i : Nat) (task : Task) (phase : Phase) : State :=
  { s with tasks := s.tasks.set i { task with phase } }

def setNotify (s : State) (side : Side) (notify : Notify) : State :=
  { s with notify := Function.update s.notify side notify }

def push (s : State) (i : Nat) (task : Task) (datagram : Datagram) (queue : DatagramQueue)
    (result : Result) : State :=
  { s.setPhase i task (.notifying result) with
    queue, accepted := s.accepted ++ [(i, datagram)] }

/-- `next`, up to its `notify_one` -/
def pop (s : State) (i : Nat) (task : Task) (otherwise : Phase) : State :=
  match s.queue.next with
  | some (datagram, queue) =>
    { s.setPhase i task (.notifying (.next (some datagram))) with
      queue, handed := s.handed ++ [(i, datagram)] }
  | none => s.setPhase i task otherwise

def runTask (s : State) (i : Nat) (task : Task) (wake : Option Nat) : Option State :=
  match task.phase, task.call with
  | .called, .add datagram =>
    match s.queue.add datagram with
    | (queue, true) => some (s.push i task datagram queue (.added true))
    | (_, false) => some (s.setPhase i task (.returned (.added false)))
  | .called, .next => some (s.pop i task (.returned (.next none)))
  | .called, .waitAdd _ | .called, .waitNext => some (s.setPhase i task .created)
  | .created, .waitAdd datagram =>
    match s.queue.waitAdd datagram with
    | some queue => some (s.push i task datagram queue .completed)
    | none => some (s.setPhase i task .checked)
  | .created, .waitNext => some (s.pop i task .checked)
  | .created, .add _ | .created, .next => none
  | .checked, call =>
    let phase := if ((s.notify call.awaits).poll i).1 then .called else .waiting
    some ((s.setPhase i task phase).setNotify call.awaits ((s.notify call.awaits).poll i).2)
  | .waiting, call =>
    ((s.notify call.awaits).resume i).map ((s.setPhase i task .called).setNotify call.awaits)
  | .notifying result, call =>
    ((s.notify call.notifies).notifyOne wake).map
      ((s.setPhase i task (.returned result)).setNotify call.notifies)
  | .returned _, _ | .cancelled, _ => none

end State

/-- A task calls or goes on. -/
def step (s : State) : Action → Option State
  | .call call => some { s with tasks := s.tasks ++ [⟨call, .called⟩] }
  | .run i wake => s.tasks[i]?.bind fun task => s.runTask i task wake
  | .wakeSpuriously i =>
    s.tasks[i]?.bind fun task =>
      if task.phase = .waiting then
        some ((s.setPhase i task .called).setNotify task.call.awaits
          ((s.notify task.call.awaits).unregister i))
      else none
  | .cancel i wake =>
    s.tasks[i]?.bind fun task =>
      if task.phase = .waiting then
        ((s.notify task.call.awaits).drop i wake).map
          ((s.setPhase i task .cancelled).setNotify task.call.awaits)
      else none

/-! ## What a task has done to the queue -/

def Phase.result? : Phase → Option Result
  | .notifying result | .returned result => some result
  | .called | .created | .checked | .waiting | .cancelled => none

/-- The datagram of a call that has pushed it: `add` returns true, `wait_add` completes. -/
def Task.accepted (task : Task) : Option Datagram :=
  match task.call, task.phase.result? with
  | .add datagram, some (.added true) => some datagram
  | .waitAdd datagram, some .completed => some datagram
  | _, _ => none

/-- The datagram that the call returns, or will return -/
def Task.handed (task : Task) : Option Datagram :=
  match task.phase.result? with
  | some (.next datagram) => datagram
  | _ => none

/-! ## What a step can do -/

/-- A new call, or one task that goes on -/
inductive Stepped (s : State) : State → Prop
  | called (call : Call) : Stepped s { s with tasks := s.tasks ++ [⟨call, .called⟩] }
  | moved {i : Nat} {task : Task} {phase : Phase} {notify : Side → Notify} :
      s.tasks[i]? = some task → task.phase.result? = none → phase.result? = none →
      Stepped s { s.setPhase i task phase with notify }
  | returned {i : Nat} {task : Task} {result : Result} {notify : Side → Notify} :
      s.tasks[i]? = some task → task.phase = .notifying result →
      Stepped s { s.setPhase i task (.returned result) with notify }
  | refused {i : Nat} {datagram : Datagram} :
      s.tasks[i]? = some ⟨.add datagram, .called⟩ → ¬s.queue.HasRoom →
      Stepped s (s.setPhase i ⟨.add datagram, .called⟩ (.returned (.added false)))
  | foundEmpty {i : Nat} {task : Task} :
      s.tasks[i]? = some task → task.phase.result? = none →
      Stepped s (s.setPhase i task (.returned (.next none)))
  | pushed {i : Nat} {task : Task} {datagram : Datagram} {result : Result} :
      s.tasks[i]? = some task → task.phase.result? = none → s.queue.HasRoom →
      Task.accepted ⟨task.call, .notifying result⟩ = some datagram →
      Task.handed ⟨task.call, .notifying result⟩ = none →
      Stepped s (s.push i task datagram (s.queue.pushBack datagram) result)
  | popped {i : Nat} {task : Task} {datagram : Datagram} {queue : DatagramQueue} :
      s.tasks[i]? = some task → task.phase.result? = none →
      s.queue.next = some (datagram, queue) →
      Stepped s { s.setPhase i task (.notifying (.next (some datagram))) with
        queue, handed := s.handed ++ [(i, datagram)] }

variable {s t : State}

variable {i : Nat} {task : Task}

theorem stepped_pop (hget : s.tasks[i]? = some task)
    (hresult : task.phase.result? = none) {otherwise : Phase}
    (hotherwise : Stepped s (s.setPhase i task otherwise)) :
    Stepped s (s.pop i task otherwise) := by
  unfold State.pop
  split
  next datagram queue hnext => exact .popped hget hresult hnext
  next => exact hotherwise

theorem stepped_runTask {wake : Option Nat}
    (hget : s.tasks[i]? = some task) (hstep : s.runTask i task wake = some t) : Stepped s t := by
  obtain ⟨call, phase⟩ := task
  cases phase with
  | called =>
    cases call with
    | add datagram =>
      unfold State.runTask at hstep
      by_cases hroom : s.queue.HasRoom
      · simp only [DatagramQueue.add_of_hasRoom hroom] at hstep
        cases hstep
        exact .pushed hget rfl hroom rfl rfl
      · simp only [DatagramQueue.add_of_not_hasRoom hroom] at hstep
        cases hstep
        exact .refused hget hroom
    | next =>
      cases hstep
      exact stepped_pop hget rfl (.foundEmpty hget rfl)
    | waitAdd datagram =>
      cases hstep
      exact .moved hget rfl rfl
    | waitNext =>
      cases hstep
      exact .moved hget rfl rfl
  | created =>
    have hchecked : Stepped s (s.setPhase i ⟨call, .created⟩ .checked) := .moved hget rfl rfl
    cases call with
    | waitAdd datagram =>
      unfold State.runTask at hstep
      cases hadd : s.queue.waitAdd datagram with
      | some queue =>
        simp only [hadd] at hstep
        cases hstep
        obtain ⟨hroom, rfl⟩ := DatagramQueue.waitAdd_eq_some.mp hadd
        exact .pushed hget rfl hroom rfl rfl
      | none =>
        simp only [hadd] at hstep
        cases hstep
        exact hchecked
    | waitNext =>
      cases hstep
      exact stepped_pop hget rfl hchecked
    | add datagram => cases hstep
    | next => cases hstep
  | checked =>
    cases hstep
    exact .moved hget rfl (by split_ifs <;> rfl)
  | waiting =>
    obtain ⟨notify, -, rfl⟩ := Option.map_eq_some_iff.mp hstep
    exact .moved hget rfl rfl
  | notifying result =>
    obtain ⟨notify, -, rfl⟩ := Option.map_eq_some_iff.mp hstep
    exact .returned hget rfl
  | returned result => cases hstep
  | cancelled => cases hstep

theorem stepped_of_step {a : Action} (hstep : step s a = some t) : Stepped s t := by
  cases a with
  | call call =>
    cases hstep
    exact .called call
  | run i wake =>
    obtain ⟨task, hget, hrun⟩ := Option.bind_eq_some_iff.mp hstep
    exact stepped_runTask hget hrun
  | wakeSpuriously i =>
    obtain ⟨task, hget, hwake⟩ := Option.bind_eq_some_iff.mp hstep
    obtain ⟨hwaiting, heq⟩ := Option.ite_none_right_eq_some.mp hwake
    cases heq
    exact .moved hget (by rw [hwaiting]; rfl) rfl
  | cancel i wake =>
    obtain ⟨task, hget, hcancel⟩ := Option.bind_eq_some_iff.mp hstep
    obtain ⟨hwaiting, hdrop⟩ := Option.ite_none_right_eq_some.mp hcancel
    obtain ⟨notify, -, rfl⟩ := Option.map_eq_some_iff.mp hdrop
    exact .moved hget (by rw [hwaiting]; rfl) rfl

/-! ## The invariant -/

/-- The entries of each task in a log are what it has done, which is one thing at most. -/
def Logged (done : Task → Option Datagram) (tasks : List Task) (log : List (Nat × Datagram)) :
    Prop :=
  ∀ i, itemsFor i log = (tasks[i]?.bind done).toList

section Logged

variable {done : Task → Option Datagram} {tasks : List Task} {log : List (Nat × Datagram)}
  {i : Nat} {task next : Task}

theorem Logged.call (h : Logged done tasks log) (hdone : done task = none) :
    Logged done (tasks ++ [task]) log := by
  intro k
  rw [h k]
  rcases Nat.lt_trichotomy k tasks.length with hlt | rfl | hgt
  · rw [List.getElem?_append_left hlt]
  · rw [List.getElem?_concat_length, List.getElem?_eq_none (Nat.le_refl _), Option.bind_none,
      Option.bind_some, hdone]
  · rw [List.getElem?_eq_none (Nat.le_of_lt hgt), List.getElem?_eq_none]
    rw [List.length_append, List.length_singleton]
    exact hgt

/-- A task that does nothing to the queue -/
theorem Logged.keep (h : Logged done tasks log) (hget : tasks[i]? = some task)
    (hdone : done next = done task) : Logged done (tasks.set i next) log := by
  intro k
  rw [h k]
  by_cases hk : k = i
  · rw [hk, hget, get_set_self hget, Option.bind_some, Option.bind_some, hdone]
  · rw [List.getElem?_set_ne (Ne.symm hk)]

/-- A task that does something to the queue -/
theorem Logged.append (h : Logged done tasks log) (hget : tasks[i]? = some task)
    (hnone : done task = none) {datagram : Datagram} (hdone : done next = some datagram) :
    Logged done (tasks.set i next) (log ++ [(i, datagram)]) := by
  intro k
  rw [HeadOfLine.itemsFor_append, h k]
  by_cases hk : k = i
  · rw [hk, hget, get_set_self hget, Option.bind_some, Option.bind_some, hnone, hdone,
      HeadOfLine.itemsFor_cons_self]
    rfl
  · rw [List.getElem?_set_ne (Ne.symm hk), HeadOfLine.itemsFor_cons_ne (Ne.symm hk)]
    exact List.append_nil _

end Logged

/-- The queue is first in, first out, and keeps to its capacity. -/
structure Inv (capacity : Nat) (s : State) : Prop where
  capacity : s.queue.capacity = capacity
  fits : s.queue.Fits
  order : s.accepted.map (·.2) = s.handed.map (·.2) ++ s.queue.items
  accepted : Logged Task.accepted s.tasks s.accepted
  handed : Logged Task.handed s.tasks s.handed
  /-- Only a call that has pushed or popped has somebody to notify. -/
  notifying : ∀ (i : Nat) (task : Task), s.tasks[i]? = some task →
    task.phase ≠ .notifying (.added false)

theorem inv_start (capacity : Nat) : Inv capacity (start capacity) where
  capacity := rfl
  fits := Nat.zero_le _
  order := rfl
  accepted _ := rfl
  handed _ := rfl
  notifying _ _ hget := by cases hget

section Phase

variable {task : Task} {phase : Phase} {result : Result}

theorem Task.accepted_of_result? (h : task.phase.result? = none) : task.accepted = none := by
  unfold Task.accepted
  rw [h]
  cases task.call <;> rfl

theorem Task.handed_of_result? (h : task.phase.result? = none) : task.handed = none := by
  unfold Task.handed
  rw [h]

theorem Task.accepted_next (task : Task) {datagram : Option Datagram}
    (h : phase.result? = some (.next datagram)) :
    Task.accepted { task with phase } = none := by
  unfold Task.accepted
  simp only [h]
  cases task.call <;> rfl

theorem result_ne_of_accepted {call : Call} {datagram : Datagram}
    (h : Task.accepted ⟨call, .notifying result⟩ = some datagram) : result ≠ .added false := by
  rintro rfl
  cases call <;> cases h

end Phase

variable {capacity : Nat}

/-- A step that only moves a task -/
theorem Inv.keep (h : Inv capacity s) {phase : Phase} (hget : s.tasks[i]? = some task)
    (haccepted : Task.accepted { task with phase } = task.accepted)
    (hhanded : Task.handed { task with phase } = task.handed)
    (hphase : phase ≠ .notifying (.added false)) (notify : Side → Notify) :
    Inv capacity { s.setPhase i task phase with notify } where
  capacity := h.capacity
  fits := h.fits
  order := h.order
  accepted := h.accepted.keep hget haccepted
  handed := h.handed.keep hget hhanded
  notifying := forall_set hphase fun k other hother _ => h.notifying k other hother

theorem Inv.stepped (h : Inv capacity s) (hstep : Stepped s t) : Inv capacity t := by
  cases hstep with
  | called call =>
    have haccepted : Task.accepted ⟨call, .called⟩ = none := Task.accepted_of_result? rfl
    have hcalled : Phase.called ≠ .notifying (.added false) := Phase.noConfusion
    exact ⟨h.capacity, h.fits, h.order, h.accepted.call haccepted, h.handed.call rfl,
      forall_append hcalled h.notifying⟩
  | @moved i task phase notify hget hold hnew =>
    have haccepted : Task.accepted { task with phase } = task.accepted := by
      rw [Task.accepted_of_result? hold]
      exact Task.accepted_of_result? hnew
    have hhanded : Task.handed { task with phase } = task.handed := by
      rw [Task.handed_of_result? hold]
      exact Task.handed_of_result? hnew
    refine h.keep hget haccepted hhanded ?_ notify
    rintro rfl
    cases hnew
  | @returned i task result notify hget hold =>
    obtain ⟨call, phase⟩ := task
    cases hold
    have haccepted : Task.accepted ⟨call, .returned result⟩ =
        Task.accepted ⟨call, .notifying result⟩ := rfl
    exact h.keep hget haccepted rfl Phase.noConfusion notify
  | @refused i datagram hget hroom =>
    have haccepted : Task.accepted ⟨.add datagram, .returned (.added false)⟩ =
        Task.accepted ⟨.add datagram, .called⟩ := rfl
    exact h.keep hget haccepted rfl Phase.noConfusion s.notify
  | @foundEmpty i task hget hold =>
    have haccepted : Task.accepted { task with phase := .returned (.next none) } =
        task.accepted := by
      rw [Task.accepted_of_result? hold]
      exact Task.accepted_next task rfl
    have hhanded : Task.handed { task with phase := .returned (.next none) } = task.handed := by
      rw [Task.handed_of_result? hold]
      rfl
    exact h.keep hget haccepted hhanded Phase.noConfusion s.notify
  | @pushed i task datagram result hget hold hroom haccepted hhanded =>
    refine ⟨h.capacity, DatagramQueue.fits_pushBack hroom datagram, ?_, ?_, ?_, ?_⟩
    · show (s.accepted ++ [(i, datagram)]).map (·.2) =
        s.handed.map (·.2) ++ (s.queue.items ++ [datagram])
      rw [List.map_append, h.order, List.append_assoc]
      rfl
    · exact h.accepted.append hget (Task.accepted_of_result? hold) haccepted
    · exact h.handed.keep hget (hhanded.trans (Task.handed_of_result? hold).symm)
    · refine forall_set ?_ fun k other hother _ => h.notifying k other hother
      intro heq
      exact result_ne_of_accepted haccepted (Phase.notifying.inj heq)
  | @popped i task datagram queue hget hold hnext =>
    obtain ⟨hitems, hcapacity⟩ := DatagramQueue.next_eq_some.mp hnext
    refine ⟨hcapacity.trans h.capacity, h.fits.next hnext, ?_, ?_, ?_, ?_⟩
    · show s.accepted.map (·.2) = (s.handed ++ [(i, datagram)]).map (·.2) ++ queue.items
      rw [h.order, hitems, List.map_append, List.append_assoc]
      rfl
    · refine h.accepted.keep hget ?_
      rw [Task.accepted_of_result? hold]
      exact Task.accepted_next task rfl
    · exact h.handed.append hget (Task.handed_of_result? hold) rfl
    · refine forall_set ?_ fun k other hother _ => h.notifying k other hother
      intro heq
      cases heq

theorem Inv.run {as : List Action} (h : Inv capacity s)
    (hrun : Run step anyStep s as t) : Inv capacity t :=
  hrun.invariant (fun _ _ _ h _ hstep => h.stepped (stepped_of_step hstep)) h

/-! ## The queue as its users see it -/

/-- The call of task `i` returns false in the step. -/
def Refuses (i : Nat) (s t : State) : Prop :=
  ∃ task next : Task, s.tasks[i]? = some task ∧ t.tasks[i]? = some next ∧
    task.phase ≠ .returned (.added false) ∧ next.phase = .returned (.added false)

theorem Refuses.of_setPhase {k : Nat} {phase : Phase}
    (h : Refuses k s t) (htasks : t.tasks = s.tasks.set i ⟨task.call, phase⟩)
    (hget : s.tasks[i]? = some task) : phase = .returned (.added false) := by
  obtain ⟨old, new, hold, hnew, hne, heq⟩ := h
  rw [htasks] at hnew
  by_cases hk : k = i
  · rw [hk, get_set_self hget] at hnew
    cases hnew
    exact heq
  · -- the step was another task's
    rw [List.getElem?_set_ne (Ne.symm hk), hold] at hnew
    cases hnew
    exact absurd heq hne

/-- `add` returns false only if the queue is full at that moment. -/
theorem Inv.full_of_refuses (h : Inv capacity s) (hstep : Stepped s t)
    (hrefuses : Refuses i s t) : s.queue.items.length = capacity := by
  cases hstep with
  | called call =>
    obtain ⟨old, new, hold, hnew, hne, heq⟩ := hrefuses
    rw [List.getElem?_append_left (List.getElem?_eq_some_iff.mp hold).1, hold] at hnew
    cases hnew
    exact absurd heq hne
  | moved hget hold hnew =>
    rw [hrefuses.of_setPhase rfl hget] at hnew
    cases hnew
  | returned hget hold =>
    cases hrefuses.of_setPhase rfl hget
    exact absurd hold (h.notifying _ _ hget)
  | refused hget hroom =>
    exact Nat.le_antisymm (h.capacity ▸ h.fits) (h.capacity ▸ Nat.not_lt.mp hroom)
  | foundEmpty hget hold => cases hrefuses.of_setPhase rfl hget
  | pushed hget hold hroom haccepted hhanded => cases hrefuses.of_setPhase rfl hget
  | popped hget hold hnext => cases hrefuses.of_setPhase rfl hget

/-- What the users of a queue of this capacity can rely on. -/
structure BoundedFifo (capacity : Nat) (s : State) : Prop where
  bounded : s.queue.items.length ≤ capacity
  /-- What has been handed out is the beginning of what has been accepted, and the rest is
      in the queue: nothing is lost, and nothing is handed out twice. -/
  fifo : s.accepted.map (·.2) = s.handed.map (·.2) ++ s.queue.items
  /-- A datagram was accepted from a task iff its `add` has true for its result or its
      `wait_add` has completed its push, and then once. -/
  accepted : Logged Task.accepted s.tasks s.accepted
  /-- A datagram was handed to a task iff it is the result of its call. -/
  handed : Logged Task.handed s.tasks s.handed
  refused : ∀ a t i, step s a = some t → Refuses i s t → s.queue.items.length = capacity

theorem boundedFifo {capacity : Nat} {as : List Action}
    (hrun : Run step anyStep (start capacity) as s) : BoundedFifo capacity s := by
  have hinv : Inv capacity s := (inv_start capacity).run hrun
  refine ⟨?_, hinv.order, hinv.accepted, hinv.handed, ?_⟩
  · have hfits := hinv.fits
    rw [DatagramQueue.Fits, hinv.capacity] at hfits
    exact hfits
  · intro a t i hstep hrefuses
    exact hinv.full_of_refuses (stepped_of_step hstep) hrefuses

/-- Two producers and a queue of one: the second waits, is woken for nothing, waits again, and
    pushes when a consumer has made room; another one's `add` is refused before. -/
theorem boundedFifo_two_producers :
    ∃ s, Run step anyStep (start 1)
      [.call (.add [1]), .call (.waitAdd [2]), .call (.add [3]), .call .waitNext,
        .run 0 none, .run 0 none, .run 1 none, .run 1 none, .run 1 none, .run 2 none,
        .wakeSpuriously 1, .run 1 none, .run 1 none, .run 1 none,
        .run 3 none, .run 3 none, .run 3 (some 1), .run 1 none, .run 1 none, .run 1 none] s ∧
      BoundedFifo 1 s ∧ s.accepted = [(0, [1]), (1, [2])] ∧ s.handed = [(3, [1])] ∧
      s.queue.items = [[2]] := by
  have hexec : (exec step anyStep (start 1)
      [.call (.add [1]), .call (.waitAdd [2]), .call (.add [3]), .call .waitNext,
        .run 0 none, .run 0 none, .run 1 none, .run 1 none, .run 1 none, .run 2 none,
        .wakeSpuriously 1, .run 1 none, .run 1 none, .run 1 none,
        .run 3 none, .run 3 none, .run 3 (some 1), .run 1 none, .run 1 none, .run 1 none]).map
      (fun s => (s.accepted, s.handed, s.queue.items)) =
      some ([(0, [1]), (1, [2])], [(3, [1])], [[2]]) := by
    decide +kernel
  obtain ⟨s, hs, hlogs⟩ := Option.map_eq_some_iff.mp hexec
  simp only [Prod.mk.injEq] at hlogs
  have hrun := run_of_exec hs
  exact ⟨s, hrun, boundedFifo hrun, hlogs⟩

end Ssh3.Core.SharedQueue
