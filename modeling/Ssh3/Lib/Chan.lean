/-
  Ssh3.Lib.Chan

  A channel between goroutines: a buffer of a fixed capacity, and whether it has been
  closed.  A send waits for room, a receive for a value or for the end of them.
-/

import Mathlib.Tactic.Ring

/-- A buffered channel -/
structure Chan (capacity : Nat) (α : Type) where
  buffer : List α
  closed : Bool
  fits : buffer.length ≤ capacity
  deriving DecidableEq, Repr

namespace Chan

variable {capacity : Nat} {α : Type}

/-- `make(chan α, capacity)` -/
def make : Chan capacity α := ⟨[], false, Nat.zero_le _⟩

/-- What a send does -/
inductive Sent (capacity : Nat) (α : Type) where
  | sent (c : Chan capacity α)
  | blocked
  /-- "send on closed channel" -/
  | panics

/-- `c <- a` -/
def send (c : Chan capacity α) (a : α) : Sent capacity α :=
  if c.closed then .panics
  else if h : c.buffer.length < capacity then
    .sent { c with buffer := c.buffer ++ [a], fits := by rw [List.length_append]; exact h }
  else .blocked

/-- What a receive does -/
inductive Received (capacity : Nat) (α : Type) where
  | value (a : α) (c : Chan capacity α)
  /-- `ok` is false -/
  | ended
  | blocked

/-- `a, ok := <-c` -/
def receive (c : Chan capacity α) : Received capacity α :=
  match c with
  | ⟨a :: buffer, closed, fits⟩ => .value a ⟨buffer, closed, Nat.le_of_succ_le fits⟩
  | ⟨[], true, _⟩ => .ended
  | ⟨[], false, _⟩ => .blocked

/-- `close(c)`; a second one panics. -/
def close (c : Chan capacity α) : Option (Chan capacity α) :=
  if c.closed then none else some { c with closed := true }

variable {c : Chan capacity α}

theorem send_eq_sent {d : Chan capacity α} {a : α} (h : c.send a = .sent d) :
    d.buffer = c.buffer ++ [a] ∧ d.closed = c.closed := by
  unfold send at h
  split_ifs at h
  cases h
  exact ⟨rfl, rfl⟩

theorem send_of_open (hopen : c.closed = false) (a : α) :
    (∃ d, c.send a = .sent d) ∨ c.buffer.length = capacity ∧ c.send a = .blocked := by
  have hnot : ¬c.closed = true := by
    rw [hopen]
    exact Bool.false_ne_true
  rw [send, if_neg hnot]
  have hfits := c.fits
  split_ifs with hroom
  · exact .inl ⟨_, rfl⟩
  · exact .inr ⟨by omega, rfl⟩

theorem receive_eq_value {d : Chan capacity α} {a : α} (h : c.receive = .value a d) :
    c.buffer = a :: d.buffer ∧ d.closed = c.closed := by
  obtain ⟨_ | ⟨b, buffer⟩, closed, fits⟩ := c
  · cases closed <;> cases h
  · cases h
    exact ⟨rfl, rfl⟩

theorem receive_eq_ended (h : c.receive = .ended) : c.buffer = [] ∧ c.closed = true := by
  obtain ⟨_ | ⟨b, buffer⟩, closed, fits⟩ := c
  · cases closed
    · cases h
    · exact ⟨rfl, rfl⟩
  · cases h

/-- A receive waits only on an open channel without values. -/
theorem receive_eq_blocked (h : c.receive = .blocked) : c.buffer = [] ∧ c.closed = false := by
  obtain ⟨_ | ⟨b, buffer⟩, closed, fits⟩ := c
  · cases closed
    · exact ⟨rfl, rfl⟩
    · cases h
  · cases h

theorem close_of_open (hopen : c.closed = false) : c.close = some { c with closed := true } := by
  rw [close, hopen]
  rfl

end Chan
