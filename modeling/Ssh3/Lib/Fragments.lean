/-
  Ssh3.Lib.Fragments

  A byte stream as a reader meets it: in pieces.

  One read into a buffer of `n` symbols gives at most `n` symbols of the piece that
  comes next, so at least one unless the stream is at its end, and possibly fewer than
  asked for.  Every sequence of short reads is that of a stream cut where they end.
  The error that ends the stream is reported by a read that gives nothing or, if the
  stream is `eager`, already by the read that gives the last symbol.

    * `Follows m r` — a computation on the stream does, however the stream is cut, what
      the computation `r` on its symbols does.
-/

import Ssh3.Lib.Fallible

namespace Fragments

open Fallible

variable {β ε π α γ : Type}

/-- What one read can return -/
abbrev Piece (β : Type) := { xs : List β // xs ≠ [] }

/-- A stream that is read piece by piece -/
structure Stream (β ε : Type) where
  pieces : List (Piece β)
  ending : ε
  eager : Bool

/-- The pieces without the first `k` symbols. -/
def dropPieces : Nat → List (Piece β) → List (Piece β)
  | _, [] => []
  | k, piece :: pieces =>
    if h : k < piece.val.length then
      ⟨piece.val.drop k, fun hnil => by rw [List.drop_eq_nil_iff] at hnil; omega⟩ :: pieces
    else dropPieces (k - piece.val.length) pieces

namespace Stream

/-- The symbols that are still unread. -/
def bytes (s : Stream β ε) : List β := s.pieces.flatMap (·.val)

def drop (k : Nat) (s : Stream β ε) : Stream β ε := { s with pieces := dropPieces k s.pieces }

/-- How many symbols one read into a buffer of `n` gives. -/
def readLength (n : Nat) (s : Stream β ε) : Nat :=
  match s.pieces with
  | [] => 0
  | piece :: _ => min n piece.val.length

/-- One read into a buffer of `n` symbols. -/
def read (n : Nat) (s : Stream β ε) : (List β × Option ε) × Stream β ε :=
  match s.pieces with
  | [] => (([], some s.ending), s)
  | piece :: _ =>
    let rest := s.drop (min n piece.val.length)
    ((piece.val.take n, if s.eager ∧ rest.bytes = [] then some s.ending else none), rest)

end Stream

/-! ## Dropping symbols -/

theorem piece_length_pos (piece : Piece β) : 0 < piece.val.length :=
  List.length_pos_iff.mpr piece.property

theorem flatMap_dropPieces (k : Nat) (pieces : List (Piece β)) :
    (dropPieces k pieces).flatMap (·.val) = (pieces.flatMap (·.val)).drop k := by
  induction pieces generalizing k with
  | nil => simp [dropPieces]
  | cons piece pieces ih =>
    rw [dropPieces, List.flatMap_cons]
    by_cases h : k < piece.val.length
    · rw [dif_pos h, List.flatMap_cons, List.drop_append_of_le_length (by omega)]
    · have hpiece : piece.val.drop k = [] := List.drop_of_length_le (by omega)
      rw [dif_neg h, ih, List.drop_append, hpiece, List.nil_append]

theorem dropPieces_dropPieces (i j : Nat) (pieces : List (Piece β)) :
    dropPieces j (dropPieces i pieces) = dropPieces (i + j) pieces := by
  induction pieces generalizing i with
  | nil => rfl
  | cons piece pieces ih =>
    rw [dropPieces, dropPieces]
    by_cases hi : i < piece.val.length
    · rw [dif_pos hi, dropPieces]
      simp only [List.length_drop, List.drop_drop]
      by_cases hij : i + j < piece.val.length
      · rw [dif_pos (by omega), dif_pos hij]
      · rw [dif_neg (by omega), dif_neg hij]
        congr 1
        omega
    · rw [dif_neg hi, ih, dif_neg (by omega)]
      congr 1
      omega

namespace Stream

@[simp] theorem ending_drop (k : Nat) (s : Stream β ε) : (s.drop k).ending = s.ending := rfl

@[simp] theorem eager_drop (k : Nat) (s : Stream β ε) : (s.drop k).eager = s.eager := rfl

@[simp] theorem bytes_drop (k : Nat) (s : Stream β ε) : (s.drop k).bytes = s.bytes.drop k :=
  flatMap_dropPieces k s.pieces

theorem drop_drop (i j : Nat) (s : Stream β ε) : (s.drop i).drop j = s.drop (i + j) := by
  simp only [drop, dropPieces_dropPieces]

/-! ## One read -/

theorem readLength_le (n : Nat) (s : Stream β ε) :
    s.readLength n ≤ n ∧ s.readLength n ≤ s.bytes.length := by
  unfold readLength bytes
  cases s.pieces with
  | nil => simp
  | cons piece pieces =>
    simp only [List.flatMap_cons, List.length_append]
    omega

theorem readLength_pos {n : Nat} (hn : 0 < n) {s : Stream β ε} (hs : s.bytes ≠ []) :
    0 < s.readLength n := by
  unfold bytes at hs
  unfold readLength
  cases hpieces : s.pieces with
  | nil => simp [hpieces] at hs
  | cons piece pieces =>
    have hpos := piece_length_pos piece
    simp only [lt_min_iff]
    omega

/-- A read gives the next symbols, and an error if there are none, or none left and the
    stream is eager. -/
theorem read_eq (n : Nat) (s : Stream β ε) :
    s.read n = ((s.bytes.take (s.readLength n),
      if s.bytes = [] ∨ s.eager ∧ s.bytes.length ≤ s.readLength n then some s.ending else none),
      s.drop (s.readLength n)) := by
  cases hpieces : s.pieces with
  | nil =>
    have hbytes : s.bytes = [] := by rw [bytes, hpieces, List.flatMap_nil]
    have hdrop : s.drop (s.readLength n) = s := by
      rw [drop, hpieces, dropPieces, ← hpieces]
    simp [read, hpieces, hbytes, hdrop]
  | cons piece pieces =>
    have hpos := piece_length_pos piece
    have hbytes : s.bytes = piece.val ++ pieces.flatMap (·.val) := by
      rw [bytes, hpieces, List.flatMap_cons]
    have hlength : s.readLength n = min n piece.val.length := by rw [readLength, hpieces]
    have hne : s.bytes ≠ [] := by
      rw [hbytes]
      exact List.append_ne_nil_of_left_ne_nil piece.property _
    have htake : s.bytes.take (min n piece.val.length) = piece.val.take n := by
      rw [hbytes, List.take_append_of_le_length (by omega), ← List.take_take,
        List.take_length]
    simp only [read, hpieces, hlength, htake, bytes_drop, List.drop_eq_nil_iff, hne, false_or]

end Stream

/-! ## Filling a buffer -/

theorem drop_zero (s : Stream β ε) : s.drop 0 = s := by
  unfold Stream.drop
  cases s with
  | mk pieces ending eager =>
    cases pieces with
    | nil => rfl
    | cons piece pieces => simp [dropPieces, piece_length_pos piece]

namespace Stream

/-- Read until `n` symbols are there.  `fuel` bounds the number of reads; every one of them
    gives a symbol, so that `n` are enough. -/
def fill : Nat → Nat → Stream β ε → Except ε (List β × Stream β ε)
  | _, 0, s => .ok ([], s)
  | 0, _ + 1, s => .error s.ending
  | fuel + 1, n + 1, s =>
    match s.read (n + 1) with
    | (([], _), _) => .error s.ending
    | ((x :: xs, _), rest) => do
      let (ys, t) ← fill fuel (n - xs.length) rest
      return (x :: xs ++ ys, t)

theorem fill_eq {fuel n : Nat} (hfuel : n ≤ fuel) (s : Stream β ε) :
    fill fuel n s =
      if n ≤ s.bytes.length then .ok (s.bytes.take n, s.drop n) else .error s.ending := by
  induction fuel generalizing n s with
  | zero =>
    obtain rfl : n = 0 := by omega
    simp [fill, drop_zero]
  | succ fuel ih =>
    cases n with
    | zero => simp [fill, drop_zero]
    | succ n =>
      have hread := s.read_eq (n + 1)
      obtain ⟨hle, hbytes⟩ := s.readLength_le (n + 1)
      have hlength : (s.bytes.take (s.readLength (n + 1))).length = s.readLength (n + 1) := by
        rw [List.length_take]
        omega
      rw [fill, hread]
      cases htake : s.bytes.take (s.readLength (n + 1)) with
      | nil =>
        -- a read gives nothing only at the end of the stream
        have hnil : s.bytes = [] := by
          by_contra hne
          have hpos : 0 < s.readLength (n + 1) := readLength_pos (Nat.succ_pos n) hne
          rw [htake] at hlength
          simp only [List.length_nil] at hlength
          omega
        simp [hnil]
      | cons x xs =>
        rw [htake, List.length_cons] at hlength
        have hsum : xs.length + 1 + (n - xs.length) = n + 1 := by omega
        simp only
        rw [ih (by omega), bytes_drop, List.length_drop, ending_drop, drop_drop, ← hlength]
        by_cases hn : n + 1 ≤ s.bytes.length
        · rw [if_pos hn, if_pos (by omega), ← hsum, List.take_add, hlength, htake]
          rfl
        · rw [if_neg hn, if_neg (by omega)]
          rfl

/-- Fill a buffer of `n` symbols. -/
def readExact (n : Nat) (s : Stream β ε) :
    Except ε ({ xs : List β // xs.length = n } × Stream β ε) := do
  let (xs, t) ← s.fill n n
  -- the loop ends when the buffer is full
  if h : xs.length = n then .ok (⟨xs, h⟩, t) else .error s.ending

/-- What the pieces are does not matter. -/
theorem readExact_eq (n : Nat) (s : Stream β ε) :
    s.readExact n =
      (StreamCodec.readExact s.ending n).run s.bytes >>= fun (xs, _) => .ok (xs, s.drop n) := by
  unfold readExact StreamCodec.readExact
  rw [fill_eq (Nat.le_refl n)]
  simp only [StateT.run]
  by_cases h : n ≤ s.bytes.length
  · have hlength : (s.bytes.take n).length = n := List.length_take_of_le h
    rw [if_pos h, dif_pos h]
    show (if h : (s.bytes.take n).length = n then _ else _) = _
    rw [dif_pos hlength]
    rfl
  · rw [if_neg h, dif_neg h]
    rfl

end Stream

/-! ## A stream in one piece -/

namespace Stream

/-- The symbols in one piece, and the end after them. -/
def whole (xs : List β) (ending : ε) : Stream β ε where
  pieces := if h : xs ≠ [] then [⟨xs, h⟩] else []
  ending := ending
  eager := false

@[simp] theorem bytes_whole (xs : List β) (ending : ε) : (whole xs ending).bytes = xs := by
  cases xs with
  | nil => rfl
  | cons x xs => exact List.append_nil _

theorem drop_whole (k : Nat) (xs : List β) (ending : ε) :
    (whole xs ending).drop k = whole (xs.drop k) ending := by
  cases xs with
  | nil => rw [List.drop_nil]; rfl
  | cons x xs =>
    show Stream.mk (dropPieces k [⟨x :: xs, _⟩]) ending false = _
    by_cases h : k < (x :: xs).length
    · have hne : (x :: xs).drop k ≠ [] := by
        rw [ne_eq, List.drop_eq_nil_iff]
        omega
      rw [dropPieces, dif_pos h, whole, dif_pos hne]
    · have hnil : (x :: xs).drop k = [] := List.drop_of_length_le (by omega)
      rw [dropPieces, dif_neg h, hnil]
      rfl

theorem readLength_whole (n : Nat) (xs : List β) (ending : ε) :
    (whole xs ending).readLength n = min n xs.length := by
  cases xs with
  | nil => exact (Nat.min_zero n).symm
  | cons x xs => rfl

end Stream

/-! ## Independence of the pieces -/

/-- However the stream is cut, `m` gives what `r` gives on its symbols and leaves the stream
    after the symbols that `r` takes. -/
def Follows (m : Comp (Stream β ε) ε π α) (r : ε → Comp (List β) ε π α) : Prop :=
  ∀ s : Stream β ε, ∃ result k, k ≤ s.bytes.length ∧
    call (r s.ending) s.bytes = .ok (result, s.bytes.drop k) ∧ call m s = .ok (result, s.drop k)

theorem follows_pure (a : α) :
    Follows (pure a : Comp (Stream β ε) ε π α) fun _ => pure a := by
  intro s
  refine ⟨.ok a, 0, Nat.zero_le _, ?_, ?_⟩
  · rw [List.drop_zero]
    rfl
  · rw [drop_zero]
    rfl

theorem follows_bind {m : Comp (Stream β ε) ε π α} {r : ε → Comp (List β) ε π α}
    {k : α → Comp (Stream β ε) ε π γ} {l : ε → α → Comp (List β) ε π γ} (hm : Follows m r)
    (hk : ∀ a, Follows (k a) fun ending => l ending a) :
    Follows (m >>= k) fun ending => r ending >>= l ending := by
  intro s
  obtain ⟨result, i, hi, hr, hcall⟩ := hm s
  cases result with
  | error err => exact ⟨.error err, i, hi, call_bind_of_error hr, call_bind_of_error hcall⟩
  | ok a =>
    obtain ⟨result, j, hj, hl, hrest⟩ := hk a (s.drop i)
    rw [Stream.bytes_drop, List.length_drop] at hj
    refine ⟨result, i + j, by omega, ?_, ?_⟩
    · rw [call_bind_of_ok hr, ← List.drop_drop]
      simpa using hl
    · rw [call_bind_of_ok hcall, hrest, Stream.drop_drop]

theorem follows_ite {c : Prop} [Decidable c] {m n : Comp (Stream β ε) ε π α}
    {r q : ε → Comp (List β) ε π α} (hpos : Follows m r) (hneg : Follows n q) :
    Follows (if c then m else n) fun ending => if c then r ending else q ending := by
  by_cases hc : c
  · simpa only [if_pos hc] using hpos
  · simpa only [if_neg hc] using hneg

end Fragments
