/-
  Ssh3.Core.Queue

  `ssh3-core/src/queue.rs`: the bounded queue of datagrams.  Each operation is
  what it does while it holds the queue's lock.
-/

import Mathlib.Tactic.Ring

namespace Ssh3.Core

/-- The payload of a datagram -/
abbrev Datagram := List UInt8

/-- A bounded queue of datagrams -/
structure DatagramQueue where
  items : List Datagram
  capacity : Nat
  deriving DecidableEq, Repr

namespace DatagramQueue

def new (capacity : Nat) : DatagramQueue := ⟨[], capacity⟩

def HasRoom (self : DatagramQueue) : Prop := self.items.length < self.capacity

instance (self : DatagramQueue) : Decidable self.HasRoom := inferInstanceAs (Decidable (_ < _))

def pushBack (self : DatagramQueue) (datagram : Datagram) : DatagramQueue :=
  { self with items := self.items ++ [datagram] }

/-- `add`: the result says whether the datagram was taken. -/
def add (self : DatagramQueue) (datagram : Datagram) : DatagramQueue × Bool :=
  if self.items.length ≥ self.capacity then (self, false) else (self.pushBack datagram, true)

/-- One pass of the loop in `wait_add`: `none` when the task goes on waiting. -/
def waitAdd (self : DatagramQueue) (datagram : Datagram) : Option DatagramQueue :=
  if self.items.length < self.capacity then some (self.pushBack datagram) else none

def next (self : DatagramQueue) : Option (Datagram × DatagramQueue) :=
  match self.items with
  | [] => none
  | datagram :: items => some (datagram, { self with items })

variable {self : DatagramQueue} {datagram : Datagram}

theorem add_of_hasRoom (h : self.HasRoom) (datagram : Datagram) :
    self.add datagram = (self.pushBack datagram, true) :=
  if_neg (Nat.not_le.mpr h)

theorem add_of_not_hasRoom (h : ¬self.HasRoom) (datagram : Datagram) :
    self.add datagram = (self, false) :=
  if_pos (Nat.not_lt.mp h)

theorem waitAdd_eq_some {queue : DatagramQueue} :
    self.waitAdd datagram = some queue ↔ self.HasRoom ∧ queue = self.pushBack datagram := by
  unfold waitAdd
  by_cases h : self.items.length < self.capacity
  · rw [if_pos h]
    constructor
    · intro heq
      exact ⟨h, (Option.some.inj heq).symm⟩
    · rintro ⟨-, rfl⟩
      rfl
  · rw [if_neg h]
    constructor
    · intro heq
      cases heq
    · rintro ⟨hroom, -⟩
      exact absurd hroom h

theorem waitAdd_eq_none : self.waitAdd datagram = none ↔ ¬self.HasRoom := by
  unfold waitAdd HasRoom
  by_cases h : self.items.length < self.capacity
  · simp [h]
  · simp [h]

theorem next_eq_some {queue : DatagramQueue} : self.next = some (datagram, queue) ↔
    self.items = datagram :: queue.items ∧ queue.capacity = self.capacity := by
  obtain ⟨items, capacity⟩ := self
  obtain ⟨items', capacity'⟩ := queue
  cases items with
  | nil => simp [next]
  | cons d items =>
    simp only [next, Option.some.injEq, Prod.mk.injEq, DatagramQueue.mk.injEq, List.cons.injEq]
    constructor
    · rintro ⟨rfl, rfl, rfl⟩
      exact ⟨⟨rfl, rfl⟩, rfl⟩
    · rintro ⟨⟨rfl, rfl⟩, rfl⟩
      exact ⟨rfl, rfl, rfl⟩

end DatagramQueue

end Ssh3.Core
