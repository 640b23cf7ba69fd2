/-
  Ssh3.Lib.Notify

  tokio's `Notify`.  A notification wakes one of the tasks that wait; if none does, it is
  kept as a permit for the next one, and there is never more than one permit.  A future
  that has been made but not polled is not waiting.

  Tasks are numbers, and which of the waiting tasks is woken is left open.
-/

import Mathlib.Data.List.Basic

/-- `tokio::sync::Notify` -/
structure Notify where
  permit : Bool
  /-- The tasks whose futures are registered and have not been notified -/
  waiting : List Nat
  /-- The tasks that have been notified and have not gone on yet -/
  notified : List Nat
  exclusive : permit = true → waiting = []
  deriving DecidableEq, Repr

namespace Notify

def new : Notify := ⟨false, [], [], fun _ => rfl⟩

/-- `notify_one`, waking the given task, or none if no task waits. -/
def notifyOne (self : Notify) : Option Nat → Option Notify
  | some task =>
    if task ∈ self.waiting then
      some {
        permit := self.permit
        waiting := self.waiting.filter (· ≠ task)
        notified := task :: self.notified
        exclusive := fun hpermit => by rw [self.exclusive hpermit, List.filter_nil] }
    else none
  | none =>
    if h : self.waiting = [] then some { self with permit := true, exclusive := fun _ => h }
    else none

/-- The first poll of a future, and whether it is ready: it takes the permit, or it is
    registered. -/
def poll (self : Notify) (task : Nat) : Bool × Notify :=
  if h : self.permit = true then
    (true, { self with permit := false, exclusive := fun _ => self.exclusive h })
  else
    (false, { self with
      waiting := self.waiting ++ [task]
      exclusive := fun hpermit => absurd hpermit h })

/-- The future of the task is gone. -/
def unregister (self : Notify) (task : Nat) : Notify where
  permit := self.permit
  waiting := self.waiting.filter (· ≠ task)
  notified := self.notified.filter (· ≠ task)
  exclusive hpermit := by rw [self.exclusive hpermit, List.filter_nil]

/-- The future of a task that has been notified is ready. -/
def resume (self : Notify) (task : Nat) : Option Notify :=
  if task ∈ self.notified then some (self.unregister task) else none

/-- The future is dropped.  A notification that it has received is passed on. -/
def drop (self : Notify) (task : Nat) (wake : Option Nat) : Option Notify :=
  if task ∈ self.notified then (self.unregister task).notifyOne wake
  else some (self.unregister task)

section

variable {self next : Notify} {task other : Nat}

theorem notifyOne_some (h : self.notifyOne (some task) = some next) :
    task ∈ self.waiting ∧ next.waiting = self.waiting.filter (· ≠ task) ∧
      next.notified = task :: self.notified := by
  rw [notifyOne] at h
  split_ifs at h with hmem
  cases h
  exact ⟨hmem, rfl, rfl⟩

theorem notifyOne_none (h : self.notifyOne none = some next) :
    next.permit = true ∧ next.waiting = self.waiting ∧ next.notified = self.notified := by
  rw [notifyOne] at h
  split_ifs at h
  cases h
  exact ⟨rfl, rfl, rfl⟩

/-- A notification is never without effect. -/
theorem notifyOne_signals {wake : Option Nat} (h : self.notifyOne wake = some next) :
    next.permit = true ∨ next.notified ≠ [] := by
  cases wake with
  | none => exact .inl (notifyOne_none h).1
  | some task =>
    rw [(notifyOne_some h).2.2]
    exact .inr (List.cons_ne_nil _ _)

theorem registered_of_notifyOne {wake : Option Nat} (h : self.notifyOne wake = some next)
    (hmem : other ∈ next.waiting ∨ other ∈ next.notified) :
    other ∈ self.waiting ∨ other ∈ self.notified := by
  cases wake with
  | none =>
    obtain ⟨-, hwaiting, hnotified⟩ := notifyOne_none h
    rwa [hwaiting, hnotified] at hmem
  | some task =>
    obtain ⟨htask, hwaiting, hnotified⟩ := notifyOne_some h
    rw [hwaiting, hnotified, List.mem_filter, List.mem_cons] at hmem
    obtain ⟨hmem, -⟩ | rfl | hmem := hmem
    · exact .inl hmem
    · exact .inl htask
    · exact .inr hmem

theorem poll_of_permit (h : self.permit = true) (task : Nat) :
    (self.poll task).1 = true ∧ (self.poll task).2.permit = false ∧
      (self.poll task).2.waiting = self.waiting ∧
      (self.poll task).2.notified = self.notified := by
  unfold poll
  rw [dif_pos h]
  exact ⟨rfl, rfl, rfl, rfl⟩

theorem poll_of_not_permit (h : ¬self.permit = true) (task : Nat) :
    (self.poll task).1 = false ∧ (self.poll task).2.permit = false ∧
      (self.poll task).2.waiting = self.waiting ++ [task] ∧
      (self.poll task).2.notified = self.notified := by
  unfold poll
  rw [dif_neg h]
  exact ⟨rfl, Bool.eq_false_iff.mpr h, rfl, rfl⟩

theorem registered_unregister
    (hmem : other ∈ (self.unregister task).waiting ∨ other ∈ (self.unregister task).notified) :
    other ≠ task ∧ (other ∈ self.waiting ∨ other ∈ self.notified) := by
  simp only [unregister, List.mem_filter, decide_eq_true_eq] at hmem
  obtain ⟨hmem, hne⟩ | ⟨hmem, hne⟩ := hmem
  · exact ⟨hne, .inl hmem⟩
  · exact ⟨hne, .inr hmem⟩

theorem resume_eq_some (h : self.resume task = some next) :
    task ∈ self.notified ∧ next = self.unregister task := by
  unfold resume at h
  split_ifs at h with hmem
  exact ⟨hmem, (Option.some.inj h).symm⟩

end

end Notify
