/-
  Ssh3.Lib.Chunks

  A list cut into pieces of a given length, the last one possibly shorter.

  The recursion is on a bound for the number of pieces, so that the definition
  computes; `chunks_cons` is the equation to reason with.
-/

import Mathlib.Tactic.Ring

namespace Chunks

variable {α : Type}

def chunksWithin (n : Nat) : Nat → List α → List (List α)
  | 0, _ => []
  | _ + 1, [] => []
  | bound + 1, x :: xs => (x :: xs).take n :: chunksWithin n bound ((x :: xs).drop n)

/-- `xs.chunks(n)`, for `n > 0`. -/
def chunks (n : Nat) (xs : List α) : List (List α) := chunksWithin n xs.length xs

@[simp] theorem chunks_nil (n : Nat) : chunks n ([] : List α) = [] := rfl

variable {n : Nat} {xs : List α}

/-- A larger bound changes nothing. -/
theorem chunksWithin_of_length_le {bound : Nat} (hn : 0 < n)
    (h : xs.length ≤ bound) : chunksWithin n bound xs = chunks n xs := by
  unfold chunks
  -- both bounds go down with every piece, at different speeds
  induction bound using Nat.strong_induction_on generalizing xs with
  | _ bound ih =>
    cases xs with
    | nil => cases bound <;> rfl
    | cons x xs =>
      obtain ⟨bound, rfl⟩ : ∃ b, bound = b + 1 := ⟨bound - 1, by rw [List.length_cons] at h; omega⟩
      have hdrop : ((x :: xs).drop n).length ≤ xs.length := by
        rw [List.length_drop, List.length_cons]
        omega
      have hxs : xs.length ≤ bound := by
        rw [List.length_cons] at h
        omega
      rw [List.length_cons, chunksWithin, chunksWithin, ih bound (by omega) (by omega),
        ih xs.length (by omega) hdrop]

theorem chunks_cons (hn : 0 < n) (x : α) (xs : List α) :
    chunks n (x :: xs) = (x :: xs).take n :: chunks n ((x :: xs).drop n) := by
  have hdrop : ((x :: xs).drop n).length ≤ xs.length := by
    rw [List.length_drop, List.length_cons]
    omega
  rw [← chunksWithin_of_length_le hn hdrop]
  rfl

theorem chunks_of_length_le (hne : xs ≠ []) (h : xs.length ≤ n) : chunks n xs = [xs] := by
  cases xs with
  | nil => exact absurd rfl hne
  | cons x xs =>
    have hn : 0 < n := Nat.lt_of_lt_of_le (Nat.succ_pos xs.length) h
    rw [chunks_cons hn, List.take_of_length_le h, List.drop_of_length_le h, chunks_nil]

/-- Induction on a list, one piece at a time. -/
theorem chunks_induction (hn : 0 < n) {motive : List α → Prop} (nil : motive [])
    (cons : ∀ x xs, motive ((x :: xs).drop n) → motive (x :: xs)) (xs : List α) : motive xs := by
  -- on the length of what is left
  induction hlen : xs.length using Nat.strong_induction_on generalizing xs with
  | _ len ih =>
    cases xs with
    | nil => exact nil
    | cons x xs =>
      rw [List.length_cons] at hlen
      refine cons x xs (ih (len - n) (by omega) _ ?_)
      rw [List.length_drop, List.length_cons, hlen]

theorem flatten_chunks (hn : 0 < n) (xs : List α) : (chunks n xs).flatten = xs := by
  induction xs using chunks_induction hn with
  | nil => rfl
  | cons x xs ih => rw [chunks_cons hn, List.flatten_cons, ih, List.take_append_drop]

theorem ne_nil_of_mem_chunks (hn : 0 < n) {chunk : List α}
    (h : chunk ∈ chunks n xs) : chunk ≠ [] := by
  induction xs using chunks_induction hn with
  | nil => cases h
  | cons x xs ih =>
    rw [chunks_cons hn] at h
    rcases List.mem_cons.mp h with rfl | hrest
    · rw [Ne, List.take_eq_nil_iff]
      simp [Nat.pos_iff_ne_zero.mp hn]
    · exact ih hrest

/-- No piece is longer than the first one. -/
theorem length_le_of_mem_chunks (hn : 0 < n) {chunk : List α}
    (h : chunk ∈ chunks n xs) : chunk.length ≤ min n xs.length := by
  induction xs using chunks_induction hn with
  | nil => cases h
  | cons x xs ih =>
    rw [chunks_cons hn] at h
    rcases List.mem_cons.mp h with rfl | hrest
    · rw [List.length_take]
    · have hle := ih hrest
      rw [List.length_drop] at hle
      omega

end Chunks
