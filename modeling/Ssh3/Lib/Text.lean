/-
  Ssh3.Lib.Text

  Strings as their UTF-8 bytes: splitting at a separator, trimming, and cutting
  into lines and words.

  A separator that is a single ASCII byte can be looked for byte by byte, since no
  byte of a longer character is below 128.  White space is Unicode's, which has
  characters of up to three bytes.
-/

import Mathlib.Tactic.Ring

namespace Text

/-! ## Splitting at a separator -/

section

variable {α : Type} [DecidableEq α]

/-- What stands before the first separator, and what after it. -/
def splitOnce (sep : α) : List α → Option (List α × List α)
  | [] => none
  | x :: xs =>
    if x = sep then some ([], xs)
    else (splitOnce sep xs).map fun parts => (x :: parts.1, parts.2)

/-- What stands before the last separator, and what after it. -/
def rsplitOnce (sep : α) (xs : List α) : Option (List α × List α) :=
  (splitOnce sep xs.reverse).map fun parts => (parts.2.reverse, parts.1.reverse)

/-- The same for the first separator, with nothing after it if there is none. -/
def cut (sep : α) (xs : List α) : List α × List α := (splitOnce sep xs).getD (xs, [])

theorem splitOnce_append {sep : α} {before : List α} (h : sep ∉ before) (after : List α) :
    splitOnce sep (before ++ sep :: after) = some (before, after) := by
  induction before with
  | nil => simp only [List.nil_append, splitOnce, if_true]
  | cons x xs ih =>
    rw [List.mem_cons, not_or] at h
    obtain ⟨hx, hxs⟩ := h
    rw [List.cons_append, splitOnce, if_neg (Ne.symm hx), ih hxs]
    rfl

theorem rsplitOnce_append {sep : α} {after : List α} (h : sep ∉ after) (before : List α) :
    rsplitOnce sep (before ++ sep :: after) = some (before, after) := by
  have hreverse : (before ++ sep :: after).reverse = after.reverse ++ sep :: before.reverse := by
    simp
  have hnot : sep ∉ after.reverse := fun hmem => h (List.mem_reverse.mp hmem)
  rw [rsplitOnce, hreverse, splitOnce_append hnot]
  simp

/-- No part of a string that is split has the separator in it. -/
theorem not_mem_of_mem_splitOn {sep : α} {part xs : List α} (h : part ∈ xs.splitOn sep) :
    sep ∉ part := by
  induction xs generalizing part with
  | nil =>
    rw [List.splitOn_nil, List.mem_singleton] at h
    rw [h]
    exact List.not_mem_nil
  | cons x xs ih =>
    rw [List.splitOn_cons_eq_if_modifyHead] at h
    by_cases hx : x = sep
    · rw [if_pos (beq_iff_eq.mpr hx), List.mem_cons] at h
      obtain rfl | h := h
      · exact List.not_mem_nil
      · exact ih h
    · obtain ⟨first, more, hsplit⟩ := List.exists_cons_of_ne_nil (List.splitOn_ne_nil sep xs)
      rw [if_neg (fun heq => hx (beq_iff_eq.mp heq)), hsplit, List.modifyHead_cons,
        List.mem_cons] at h
      rw [hsplit] at ih
      obtain rfl | h := h
      · rw [List.mem_cons, not_or]
        exact ⟨Ne.symm hx, ih List.mem_cons_self⟩
      · exact ih (List.mem_cons_of_mem _ h)

/-- Two pieces have the separator between them and nowhere else. -/
theorem eq_of_splitOn_pair {sep : α} {xs first second : List α}
    (h : xs.splitOn sep = [first, second]) :
    xs = first ++ sep :: second ∧ sep ∉ first ∧ sep ∉ second := by
  have hpart : ∀ part ∈ [first, second], sep ∉ part := by
    rw [← h]
    exact fun part hpart => not_mem_of_mem_splitOn hpart
  have hxs : [sep].intercalate (xs.splitOn sep) = xs := List.intercalate_splitOn sep
  rw [h] at hxs
  exact ⟨by simpa using hxs.symm, hpart first (by simp), hpart second (by simp)⟩

end

/-! ## White space -/

/-- Without the white space character it starts with, if it does. -/
def stripSpace : List UInt8 → Option (List UInt8)
  | 0xC2 :: b :: rest => if b = 0x85 ∨ b = 0xA0 then some rest else none
  | 0xE1 :: 0x9A :: 0x80 :: rest => some rest
  | 0xE2 :: 0x80 :: b :: rest =>
    if 0x80 ≤ b ∧ b ≤ 0x8A ∨ b = 0xA8 ∨ b = 0xA9 ∨ b = 0xAF then some rest else none
  | 0xE2 :: 0x81 :: 0x9F :: rest => some rest
  | 0xE3 :: 0x80 :: 0x80 :: rest => some rest
  | b :: rest => if 9 ≤ b ∧ b ≤ 13 ∨ b = 32 then some rest else none
  | [] => none

/-- The same for the last character of a string whose bytes are given backwards. -/
def stripSpaceBack : List UInt8 → Option (List UInt8)
  | 0x85 :: 0xC2 :: rest => some rest
  | 0xA0 :: 0xC2 :: rest => some rest
  | 0x80 :: 0x9A :: 0xE1 :: rest => some rest
  | 0x9F :: 0x81 :: 0xE2 :: rest => some rest
  | 0x80 :: 0x80 :: 0xE3 :: rest => some rest
  | b :: 0x80 :: 0xE2 :: rest =>
    if 0x80 ≤ b ∧ b ≤ 0x8A ∨ b = 0xA8 ∨ b = 0xA9 ∨ b = 0xAF then some rest
    -- the two bytes before a space need not be those of a character
    else if 9 ≤ b ∧ b ≤ 13 ∨ b = 32 then some (0x80 :: 0xE2 :: rest)
    else none
  | b :: rest => if 9 ≤ b ∧ b ≤ 13 ∨ b = 32 then some rest else none
  | [] => none

/-- `strip` as often as it applies, at most `bound` times. -/
def stripAll (strip : List UInt8 → Option (List UInt8)) : Nat → List UInt8 → List UInt8
  | 0, bytes => bytes
  | bound + 1, bytes =>
    match strip bytes with
    | some rest => stripAll strip bound rest
    | none => bytes

def trimStart (bytes : List UInt8) : List UInt8 := stripAll stripSpace bytes.length bytes

def trimEnd (bytes : List UInt8) : List UInt8 :=
  (stripAll stripSpaceBack bytes.length bytes.reverse).reverse

def trim (bytes : List UInt8) : List UInt8 := trimEnd (trimStart bytes)

/-- The pieces between white space characters, empty ones included; `piece` is the piece being
    read, backwards. -/
def splitSpaces (piece : List UInt8) : Nat → List UInt8 → List (List UInt8)
  | 0, _ => [piece.reverse]
  | _ + 1, [] => [piece.reverse]
  | bound + 1, b :: rest =>
    match stripSpace (b :: rest) with
    | some rest => piece.reverse :: splitSpaces [] bound rest
    | none => splitSpaces (b :: piece) bound rest

/-- The words between white space. -/
def words (bytes : List UInt8) : List (List UInt8) :=
  (splitSpaces [] bytes.length bytes).filter (· ≠ [])

/-! ## Lines and case -/

/-- Without the carriage return it ends with, if it does. -/
def dropCarriageReturn (line : List UInt8) : List UInt8 :=
  if line.getLast? = some 13 then line.dropLast else line

/-- The lines, each without its line feed and a carriage return before it.  A last line without
    a line feed counts if it is not empty. -/
def lines (bytes : List UInt8) : List (List UInt8) :=
  let pieces := bytes.splitOn 10
  let last := pieces.getLast?.getD []
  pieces.dropLast.map dropCarriageReturn ++ (if last = [] then [] else [last])

def toAsciiLowercase (b : UInt8) : UInt8 := if 65 ≤ b ∧ b ≤ 90 then b + 32 else b

def toAsciiUppercase (b : UInt8) : UInt8 := if 97 ≤ b ∧ b ≤ 122 then b - 32 else b

def eqIgnoreAsciiCase (xs ys : List UInt8) : Bool :=
  decide (xs.map toAsciiLowercase = ys.map toAsciiLowercase)

/-- The bytes are those of a string. -/
def validUtf8 (bytes : List UInt8) : Bool := (ByteArray.mk bytes.toArray).validateUTF8

theorem validUtf8_append {xs ys : List UInt8} (hxs : validUtf8 xs = true)
    (hys : validUtf8 ys = true) : validUtf8 (xs ++ ys) = true := by
  have happend : ByteArray.mk (xs ++ ys).toArray =
      ByteArray.mk xs.toArray ++ ByteArray.mk ys.toArray := ByteArray.ext rfl
  rw [validUtf8, ByteArray.validateUTF8_eq_true_iff] at hxs hys ⊢
  rw [happend]
  exact hxs.append hys

/-- The ranges of the bytes that follow the first byte of a character of several bytes; `none`
    for a byte that starts no character. -/
def continuations (b : UInt8) : Option (List (UInt8 × UInt8)) :=
  if b < 0x80 then some []
  else if 0xC2 ≤ b ∧ b ≤ 0xDF then some [(0x80, 0xBF)]
  else if b = 0xE0 then some [(0xA0, 0xBF), (0x80, 0xBF)]
  else if b = 0xED then some [(0x80, 0x9F), (0x80, 0xBF)]
  else if 0xE1 ≤ b ∧ b ≤ 0xEF then some [(0x80, 0xBF), (0x80, 0xBF)]
  else if b = 0xF0 then some [(0x90, 0xBF), (0x80, 0xBF), (0x80, 0xBF)]
  else if b = 0xF4 then some [(0x80, 0x8F), (0x80, 0xBF), (0x80, 0xBF)]
  else if 0xF1 ≤ b ∧ b ≤ 0xF3 then some [(0x80, 0xBF), (0x80, 0xBF), (0x80, 0xBF)]
  else none

/-- U+FFFD -/
def replacement : List UInt8 := [0xEF, 0xBF, 0xBD]

/-- Decode after the bytes `char` of a character that the ranges `expected` complete. -/
def lossyAfter (char : List UInt8) (expected : List (UInt8 × UInt8)) : List UInt8 → List UInt8
  | [] => if expected = [] then [] else replacement
  | b :: rest =>
    let restart := match continuations b with
      | none => replacement ++ lossyAfter [] [] rest
      | some [] => b :: lossyAfter [] [] rest
      | some ranges => lossyAfter [b] ranges rest
    match expected with
    | [] => restart
    | (low, high) :: more =>
      -- a byte out of range ends the maximal invalid part and is looked at again
      if ¬(low ≤ b ∧ b ≤ high) then replacement ++ restart
      else if more = [] then char ++ b :: lossyAfter [] [] rest
      else lossyAfter (char ++ [b]) more rest

/-- `String::from_utf8_lossy` -/
def fromUtf8Lossy (bytes : List UInt8) : List UInt8 := lossyAfter [] [] bytes

end Text
