/-
  Ssh3.Lib.Tasks

  Tasks that run concurrently, as a list of the states they are in: what holds of every
  task when one of them moves or a new one starts, who holds a lock, and where the
  entries of a task stand in a log that is only written under the lock.
-/

import Mathlib.Tactic.Ring

namespace Tasks

variable {τ : Type}

/-! ## One task moves, the others stay -/

section Update

variable {tasks : List τ} {i : Nat} {task old : τ} {P : Nat → τ → Prop}

theorem forall_set (hself : P i task)
    (hothers : ∀ k other, tasks[k]? = some other → k ≠ i → P k other) :
    ∀ k other, (tasks.set i task)[k]? = some other → P k other := by
  intro k other hget
  by_cases hk : k = i
  · subst hk
    rw [List.getElem?_set_self'] at hget
    cases htask : tasks[k]? with
    | none =>
      rw [htask] at hget
      cases hget
    | some _ =>
      rw [htask] at hget
      cases hget
      exact hself
  · rw [List.getElem?_set_ne (Ne.symm hk)] at hget
    exact hothers k other hget hk

theorem forall_append (hself : P tasks.length task)
    (hothers : ∀ k other, tasks[k]? = some other → P k other) :
    ∀ k other, (tasks ++ [task])[k]? = some other → P k other := by
  intro k other hget
  rcases Nat.lt_trichotomy k tasks.length with hlt | rfl | hgt
  · rw [List.getElem?_append_left hlt] at hget
    exact hothers k other hget
  · rw [List.getElem?_concat_length] at hget
    cases hget
    exact hself
  · rw [List.getElem?_eq_none (by rw [List.length_append, List.length_singleton]; omega)] at hget
    cases hget

theorem get_set_self (hget : tasks[i]? = some old) : (tasks.set i task)[i]? = some task := by
  rw [List.getElem?_set_self', hget]
  rfl

/-- What all tasks have to do, when one of them moves. -/
theorem sum_map_set (hget : tasks[i]? = some old) (f : τ → Nat) :
    ((tasks.set i task).map f).sum + f old = (tasks.map f).sum + f task := by
  induction tasks generalizing i with
  | nil => cases hget
  | cons first tasks ih =>
    cases i with
    | zero =>
      cases hget
      simp only [List.set_cons_zero, List.map_cons, List.sum_cons]
      omega
    | succ i =>
      have hrest := ih (i := i) hget
      simp only [List.set_cons_succ, List.map_cons, List.sum_cons]
      omega

/-- What a move does not change. -/
theorem map_set_of_eq {β : Type} {f : τ → β} (hget : tasks[i]? = some old)
    (h : f task = f old) : (tasks.set i task).map f = tasks.map f := by
  obtain ⟨hlt, rfl⟩ := List.getElem?_eq_some_iff.mp hget
  have hmap : i < (tasks.map f).length := by rwa [List.length_map]
  have hsame : f task = (tasks.map f)[i] := by rw [h, List.getElem_map]
  rw [List.map_set, hsame, List.set_getElem_self]

end Update

/-! ## Mutual exclusion -/

/-- A task in a state that holds the lock is the one that has it. -/
def Locked (holds : τ → Bool) (lock : Option Nat) (tasks : List τ) : Prop :=
  ∀ i task, tasks[i]? = some task → holds task = true → lock = some i

section Locked

variable {holds : τ → Bool} {lock : Option Nat} {tasks : List τ} {i : Nat} {task old : τ}

theorem Locked.keep (h : Locked holds lock tasks) (hself : holds task = true → lock = some i) :
    Locked holds lock (tasks.set i task) :=
  forall_set hself fun k other hget _ => h k other hget

theorem Locked.spawn (h : Locked holds lock tasks) (hself : holds task = false) :
    Locked holds lock (tasks ++ [task]) := by
  refine forall_append (fun hholds => ?_) h
  rw [hself] at hholds
  cases hholds

theorem Locked.acquire (h : Locked holds none tasks) :
    Locked holds (some i) (tasks.set i task) :=
  forall_set (fun _ => rfl) fun k other hget _ hholds => nomatch h k other hget hholds

theorem Locked.release (h : Locked holds lock tasks) (hget : tasks[i]? = some old)
    (hold : holds old = true) (hself : holds task = false) :
    Locked holds none (tasks.set i task) := by
  refine forall_set (fun hholds => ?_) fun k other hother hk hholds => ?_
  · rw [hself] at hholds
    cases hholds
  -- two holders of the lock are the same task
  · have hlock := (h k other hother hholds).symm.trans (h i old hget hold)
    exact absurd (Option.some.inj hlock) hk

end Locked

/-! ## A log that is written under the lock -/

section Log

variable {β : Type} {owner : β → Nat} {i : Nat} {log : List β} {x : β}

/-- The entries of task `i` stand together. -/
def Contiguous (owner : β → Nat) (i : Nat) (log : List β) : Prop :=
  ∃ before mine after, log = before ++ mine ++ after ∧ (∀ x ∈ mine, owner x = i) ∧
    ∀ x ∈ before ++ after, owner x ≠ i

/-- The entries of task `i`, if any, are the last ones. -/
def Trailing (owner : β → Nat) (i : Nat) (log : List β) : Prop :=
  ∃ before mine, log = before ++ mine ∧ (∀ x ∈ mine, owner x = i) ∧ ∀ x ∈ before, owner x ≠ i

theorem trailing_of_none (h : ∀ x ∈ log, owner x ≠ i) : Trailing owner i log :=
  ⟨log, [], (List.append_nil log).symm, by simp, h⟩

theorem Trailing.contiguous (h : Trailing owner i log) : Contiguous owner i log := by
  obtain ⟨before, mine, rfl, hmine, hbefore⟩ := h
  exact ⟨before, mine, [], by rw [List.append_nil], hmine, by rwa [List.append_nil]⟩

theorem Trailing.append (h : Trailing owner i log) (hx : owner x = i) :
    Trailing owner i (log ++ [x]) := by
  obtain ⟨before, mine, rfl, hmine, hbefore⟩ := h
  refine ⟨before, mine ++ [x], by rw [List.append_assoc], ?_, hbefore⟩
  rw [List.forall_mem_append]
  exact ⟨hmine, by simpa using hx⟩

theorem Contiguous.append_other (h : Contiguous owner i log) (hx : owner x ≠ i) :
    Contiguous owner i (log ++ [x]) := by
  obtain ⟨before, mine, after, rfl, hmine, hothers⟩ := h
  refine ⟨before, mine, after ++ [x], by rw [List.append_assoc], hmine, ?_⟩
  rw [← List.append_assoc, List.forall_mem_append]
  exact ⟨hothers, by simpa using hx⟩

end Log

end Tasks
