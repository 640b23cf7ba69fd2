/-
  Ssh3.Lib.Skipping

  A call that takes items from the front of a stream, passes over some of them, noting that
  it did, and returns at the first other one.  `results` lists what successive calls return,
  in terms of the items alone; `Skips.calls_eq` is the induction over the calls.
-/

import Ssh3.Lib.Fallible

namespace Skipping

open Fallible

variable {σ e π α ι : Type}

/-- What the calls return, up to the first error.  The verdict on an item is what it makes a
    call return, unless the call passes over it. -/
def results (verdict : ι → Option (Except e α)) (ending : e) : List ι → List (Except e α)
  | [] => [.error ending]
  | item :: items =>
    match verdict item with
    | none => results verdict ending items
    | some (.error err) => [.error err]
    | some (.ok a) => .ok a :: results verdict ending items

/-- A call `next` that runs a loop which follows the verdicts, from the states in which `items`
    are still to come and one of the items so far was passed over or not.  It has a pass of the
    loop for every item. -/
structure Skips (next : Comp σ e π α) (loop : Nat → Comp σ e π α) (state : List ι → Bool → σ)
    (verdict : ι → Option (Except e α)) (Ok : ι → Prop) : Prop where
  enough : ∀ (items : List ι) (passed : Bool), ∃ n, items.length ≤ n ∧
    call next (state items passed) = call (loop n) (state items passed)
  pass : ∀ {item : ι} (items : List ι) (passed : Bool) (n : Nat), Ok item → verdict item = none →
    call (loop (n + 1)) (state (item :: items) passed) = call (loop n) (state items true)
  stop : ∀ {item : ι} {result : Except e α} (items : List ι) (passed : Bool) (n : Nat), Ok item →
    verdict item = some result →
    call (loop (n + 1)) (state (item :: items) passed) = .ok (result, state items passed)

section

variable {verdict : ι → Option (Except e α)} {ending : e} {item : ι} {items : List ι}

theorem results_of_none (h : verdict item = none) :
    results verdict ending (item :: items) = results verdict ending items := by
  rw [results, h]

theorem results_of_error {err : e} (h : verdict item = some (.error err)) :
    results verdict ending (item :: items) = [.error err] := by
  rw [results, h]

theorem results_of_ok {a : α} (h : verdict item = some (.ok a)) :
    results verdict ending (item :: items) = .ok a :: results verdict ending items := by
  rw [results, h]

theorem results_ne_nil (items : List ι) : results verdict ending items ≠ [] := by
  fun_induction results verdict ending items with
  | case2 item items hnone ih => exact ih
  | case1 | case3 | case4 => exact List.cons_ne_nil _ _

/-- What calls from `s` have still to return, behind items that will be passed over. -/
def Ahead (state : List ι → Bool → σ) (verdict : ι → Option (Except e α)) (Ok : ι → Prop) (s : σ)
    (items : List ι) : Prop :=
  ∃ skipped passed, (∀ item ∈ skipped, Ok item ∧ verdict item = none) ∧
    s = state (skipped ++ items) passed

variable {next : Comp σ e π α} {loop : Nat → Comp σ e π α} {state : List ι → Bool → σ}
  {Ok : ι → Prop} {s : σ}

/-- An item that is passed over needs no call of its own. -/
theorem Ahead.pass (h : Ahead state verdict Ok s (item :: items)) (hok : Ok item)
    (hnone : verdict item = none) : Ahead state verdict Ok s items := by
  obtain ⟨skipped, passed, hskipped, rfl⟩ := h
  refine ⟨skipped ++ [item], passed, ?_, by rw [List.append_assoc, List.singleton_append]⟩
  intro other hother
  rcases List.mem_append.mp hother with hmem | hmem
  · exact hskipped other hmem
  · rw [List.mem_singleton.mp hmem]
    exact ⟨hok, hnone⟩

variable (h : Skips next loop state verdict Ok)

include h

theorem Skips.call_append {skipped : List ι} {result : Except e α}
    (hskipped : ∀ item ∈ skipped, Ok item ∧ verdict item = none) (hok : Ok item)
    (hresult : verdict item = some result) (passed : Bool) {n : Nat}
    (hn : (skipped ++ item :: items).length ≤ n) :
    call (loop n) (state (skipped ++ item :: items) passed) =
      .ok (result, state items (passed || !skipped.isEmpty)) := by
  induction skipped generalizing passed n with
  | nil =>
    rw [List.nil_append] at hn ⊢
    obtain ⟨n, rfl⟩ : ∃ k, n = k + 1 := Nat.exists_eq_succ_of_ne_zero (Nat.ne_zero_of_lt hn)
    rw [h.stop items passed n hok hresult, List.isEmpty_nil, Bool.not_true, Bool.or_false]
  | cons first skipped ih =>
    rw [List.cons_append] at hn ⊢
    obtain ⟨n, rfl⟩ : ∃ k, n = k + 1 := Nat.exists_eq_succ_of_ne_zero (Nat.ne_zero_of_lt hn)
    obtain ⟨⟨hfirst, hnone⟩, hothers⟩ := List.forall_mem_cons.mp hskipped
    have hrest := ih hothers true (Nat.le_of_succ_le_succ hn)
    rw [h.pass _ passed n hfirst hnone, hrest, List.isEmpty_cons, Bool.not_false, Bool.true_or,
      Bool.or_true]

/-- An item that is not passed over is what the next call returns. -/
theorem Skips.next_eq {result : Except e α} (hahead : Ahead state verdict Ok s (item :: items))
    (hok : Ok item) (hresult : verdict item = some result) :
    ∃ t, call next s = .ok (result, t) ∧ Ahead state verdict Ok t items := by
  obtain ⟨skipped, passed, hskipped, rfl⟩ := hahead
  obtain ⟨n, hn, hnext⟩ := h.enough (skipped ++ item :: items) passed
  refine ⟨state items (passed || !skipped.isEmpty), ?_, [], _, List.forall_mem_nil _, rfl⟩
  rw [hnext]
  exact h.call_append hskipped hok hresult passed hn

variable
  (hend : ∀ passed n, call (loop n) (state [] passed) = .ok (.error ending, state [] passed))

include hend

/-- One call takes the items up to the first that is not passed over, and returns the first of
    the results. -/
theorem Skips.call_eq (hok : ∀ item ∈ items, Ok item) (passed : Bool) {n : Nat}
    (hn : items.length ≤ n) :
    ∃ consumed remaining result, items = consumed ++ remaining ∧
      call (loop n) (state items passed) = .ok (result,
        state remaining (passed || consumed.any fun item => (verdict item).isNone)) ∧
      (results verdict ending items = [result] ∨
        results verdict ending items = result :: results verdict ending remaining) := by
  induction items generalizing passed n with
  | nil =>
    refine ⟨[], [], .error ending, rfl, ?_, .inl rfl⟩
    rw [List.any_nil, Bool.or_false]
    exact hend passed n
  | cons item items ih =>
    obtain ⟨n, rfl⟩ : ∃ k, n = k + 1 := Nat.exists_eq_succ_of_ne_zero (Nat.ne_zero_of_lt hn)
    obtain ⟨hitem, hothers⟩ := List.forall_mem_cons.mp hok
    cases hverdict : verdict item with
    | none =>
      obtain ⟨consumed, remaining, result, rfl, hcall, hresults⟩ :=
        ih hothers true (Nat.le_of_succ_le_succ hn)
      refine ⟨item :: consumed, remaining, result, rfl, ?_, ?_⟩
      · rw [h.pass _ passed n hitem hverdict, hcall, List.any_cons, hverdict, Option.isNone_none,
          Bool.true_or, Bool.or_true]
      · rw [results_of_none hverdict]
        exact hresults
    | some result =>
      refine ⟨[item], items, result, rfl, ?_, ?_⟩
      · rw [h.stop items passed n hitem hverdict, List.any_cons, hverdict, Option.isNone_some,
          List.any_nil, Bool.or_false, Bool.or_false]
      · cases result with
        | error err => exact .inl (results_of_error hverdict)
        | ok a => exact .inr (results_of_ok hverdict)

/-- The first `n` results, and what has been consumed for them -/
theorem Skips.calls_eq (hok : ∀ item ∈ items, Ok item) (passed : Bool) {n : Nat}
    (hn : n ≤ (results verdict ending items).length) :
    ∃ consumed remaining, items = consumed ++ remaining ∧
      calls next n (state items passed) = .ok ((results verdict ending items).take n,
        state remaining (passed || consumed.any fun item => (verdict item).isNone)) := by
  -- on the calls, each of which starts where the one before has stopped
  induction n generalizing items passed with
  | zero =>
    refine ⟨[], items, rfl, ?_⟩
    rw [List.any_nil, Bool.or_false]
    rfl
  | succ n ih =>
    obtain ⟨fuel, hfuel, hloop⟩ := h.enough items passed
    obtain ⟨first, behind, result, rfl, hcall, hresults⟩ := h.call_eq hend hok passed hfuel
    rw [← hloop] at hcall
    rcases hresults with hlast | hmore
    · -- the call has returned an error, so it is the last one
      rw [hlast] at hn ⊢
      obtain rfl : n = 0 := by
        rw [List.length_singleton] at hn
        omega
      exact ⟨first, behind, rfl, calls_succ hcall rfl⟩
    · rw [hmore] at hn ⊢
      obtain ⟨second, remaining, rfl, hcalls⟩ := ih
        (fun item hmem => hok item (List.mem_append_right _ hmem)) _ (Nat.le_of_succ_le_succ hn)
      refine ⟨first ++ second, remaining, (List.append_assoc ..).symm, ?_⟩
      rw [calls_succ hcall hcalls, List.any_append, Bool.or_assoc]
      rfl

end

end Skipping
