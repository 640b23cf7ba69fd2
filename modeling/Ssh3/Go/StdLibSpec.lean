/-
  Ssh3.Go.StdLibSpec

  Numbers in Go's standard library: what `strconv.Atoi` accepts, and that it reads back what
  `%d` prints.
-/

import Ssh3.Go.StdLib
import Ssh3.Lib.Words

namespace Ssh3.Go

open Proto (ascii)

/-! ## What `Atoi` accepts -/

variable {n : Nat} {text : List UInt8} {value : Int} {b : UInt8} {c : Char}

theorem isDigit_of_digitsValue {value : Nat}
    (h : digitsValue text n = some value) : ∀ b ∈ text, 48 ≤ b ∧ b ≤ 57 := by
  induction text generalizing n with
  | nil => exact fun b hb => by cases hb
  | cons c rest ih =>
    rw [digitsValue] at h
    split at h
    case isTrue hdigit => exact List.forall_mem_cons.mpr ⟨hdigit, ih h⟩
    case isFalse => cases h

theorem isDigit_of_unsignedValue {value : Nat}
    (h : unsignedValue text = some value) : ∀ b ∈ text, 48 ≤ b ∧ b ≤ 57 := by
  rw [unsignedValue] at h
  split at h
  · cases h
  · exact isDigit_of_digitsValue h

/-- A number is an optional sign and its digits, and fits into an `int`. -/
theorem atoi_eq_some (h : atoi text = some value) :
    ∃ sign digits n, text = sign ++ digits ∧ unsignedValue digits = some n ∧
      (sign = [45] ∧ value = -n ∧ n ≤ 2 ^ 63 ∨
        (sign = [43] ∨ sign = []) ∧ value = n ∧ n < 2 ^ 63) := by
  unfold atoi at h
  split at h
  · split at h
    case h_1 n hvalue =>
      split at h
      case isTrue hn =>
        cases h
        exact ⟨[45], _, n, rfl, hvalue, .inl ⟨rfl, rfl, hn⟩⟩
      case isFalse => cases h
    case h_2 => cases h
  · split at h
    case h_1 n hvalue =>
      split at h
      case isTrue hn =>
        cases h
        exact ⟨[43], _, n, rfl, hvalue, .inr ⟨.inl rfl, rfl, hn⟩⟩
      case isFalse => cases h
    case h_2 => cases h
  · split at h
    case h_1 n hvalue =>
      split at h
      case isTrue hn =>
        cases h
        exact ⟨[], _, n, rfl, hvalue, .inr ⟨.inr rfl, rfl, hn⟩⟩
      case isFalse => cases h
    case h_2 => cases h

theorem not_mem_of_atoi (h : atoi text = some value)
    (hsign : b ≠ 43 ∧ b ≠ 45) (hdigit : ¬(48 ≤ b ∧ b ≤ 57)) : b ∉ text := by
  obtain ⟨sign, digits, n, rfl, hvalue, hsigns⟩ := atoi_eq_some h
  have hdigits : b ∉ digits := fun hmem => hdigit (isDigit_of_unsignedValue hvalue b hmem)
  rw [List.mem_append, not_or]
  refine ⟨?_, hdigits⟩
  obtain ⟨rfl, -⟩ | ⟨rfl | rfl, -⟩ := hsigns
  · exact fun hmem => hsign.2 (List.mem_singleton.mp hmem)
  · exact fun hmem => hsign.1 (List.mem_singleton.mp hmem)
  · exact List.not_mem_nil

theorem range_of_atoi (h : atoi text = some value) : -2 ^ 63 ≤ value ∧ value < 2 ^ 63 := by
  obtain ⟨sign, digits, n, -, -, ⟨-, rfl, hn⟩ | ⟨-, rfl, hn⟩⟩ := atoi_eq_some h
  · omega
  · omega

theorem atoi_of_unsignedValue (h : unsignedValue text = some n)
    (hn : n < 2 ^ 63) : atoi text = some (n : Int) := by
  -- digits do not start with a sign
  have hdigit := isDigit_of_unsignedValue h
  have hhead : ∀ (sign : UInt8) (rest : List UInt8), ¬48 ≤ sign → text ≠ sign :: rest := by
    rintro sign rest hsign rfl
    exact hsign (hdigit sign List.mem_cons_self).1
  unfold atoi
  split
  case h_1 rest => exact absurd rfl (hhead 45 rest (by decide))
  case h_2 rest => exact absurd rfl (hhead 43 rest (by decide))
  case h_3 =>
    rw [h]
    exact if_pos hn

/-! ## What `%d` prints -/

theorem isDigit_of_mem_repr (h : c ∈ (Nat.repr n).toList) : c.isDigit = true := by
  rw [Nat.repr, String.toList_ofList] at h
  exact Nat.isDigit_of_mem_toDigits (by decide) (by decide) h

theorem toNat_of_isDigit (h : c.isDigit = true) : 48 ≤ c.toNat ∧ c.toNat ≤ 57 := by
  rw [Char.isDigit, Bool.and_eq_true, decide_eq_true_eq, decide_eq_true_eq] at h
  exact ⟨h.1, h.2⟩

/-- The byte of a digit -/
theorem toUInt8_of_isDigit (h : c.isDigit = true) :
    48 ≤ c.toNat.toUInt8 ∧ c.toNat.toUInt8 ≤ 57 ∧ c.toNat.toUInt8.toNat = c.toNat := by
  obtain ⟨hlow, hhigh⟩ := toNat_of_isDigit h
  have hbyte : ∀ n ≤ 57, 48 ≤ n → 48 ≤ n.toUInt8 ∧ n.toUInt8 ≤ 57 ∧ n.toUInt8.toNat = n := by
    decide
  exact hbyte c.toNat hhigh hlow

theorem formatInt_ofNat (n : Nat) : formatInt (n : Int) = ascii (Nat.repr n) := rfl

theorem formatInt_negSucc (n : Nat) :
    formatInt (Int.negSucc n) = 45 :: ascii (Nat.repr (n + 1)) := by
  show ascii ("-" ++ Nat.repr (n + 1)) = _
  rw [ascii, String.toList_append, List.map_append]
  rfl

theorem mem_formatInt {n : Int} (h : b ∈ formatInt n) : b = 45 ∨ 48 ≤ b ∧ b ≤ 57 := by
  have hdigit : ∀ m : Nat, b ∈ ascii (Nat.repr m) → 48 ≤ b ∧ b ≤ 57 := by
    intro m hmem
    obtain ⟨c, hc, rfl⟩ := List.mem_map.mp hmem
    have hbyte := toUInt8_of_isDigit (isDigit_of_mem_repr hc)
    exact ⟨hbyte.1, hbyte.2.1⟩
  cases n with
  | ofNat n => exact .inr (hdigit n h)
  | negSucc n =>
    rw [formatInt_negSucc, List.mem_cons] at h
    exact h.imp_right (hdigit (n + 1))

theorem isPlain_of_mem_formatInt {n : Int} (h : b ∈ formatInt n) : Text.isPlain b = true := by
  have hplain : ∀ n < 58, 48 ≤ n → Text.isPlain n.toUInt8 = true := by decide
  obtain rfl | ⟨hlow, hhigh⟩ := mem_formatInt h
  · decide
  · have hlow' : 48 ≤ b.toNat := UInt8.le_iff_toNat_le.mp hlow
    have hhigh' : b.toNat ≤ 57 := UInt8.le_iff_toNat_le.mp hhigh
    have hbyte := hplain b.toNat (by omega) hlow'
    rwa [Nat.toUInt8, UInt8.ofNat_toNat] at hbyte

/-! ## Reading a printed number -/

theorem digitsValue_map {cs : List Char} (h : ∀ c ∈ cs, c.isDigit = true) (n : Nat) :
    digitsValue (cs.map fun c => c.toNat.toUInt8) n = some (Nat.ofDigitChars 10 cs n) := by
  induction cs generalizing n with
  | nil => rfl
  | cons c cs ih =>
    obtain ⟨hc, hcs⟩ := List.forall_mem_cons.mp h
    obtain ⟨hlow, hhigh, htoNat⟩ := toUInt8_of_isDigit hc
    rw [List.map_cons, digitsValue, if_pos ⟨hlow, hhigh⟩, ih hcs, Nat.ofDigitChars_cons, htoNat,
      Nat.mul_comm n 10]
    rfl

theorem unsignedValue_repr (n : Nat) : unsignedValue (ascii (Nat.repr n)) = some n := by
  have hne : ascii (Nat.repr n) ≠ [] := by
    rw [ascii, Nat.repr, String.toList_ofList]
    simp [Nat.toDigits_ne_nil]
  have hdigit : ∀ c ∈ (Nat.repr n).toList, c.isDigit = true := fun c hc => isDigit_of_mem_repr hc
  rw [unsignedValue, if_neg hne, ascii, digitsValue_map hdigit, Nat.repr, String.toList_ofList,
    Nat.ofDigitChars_ten_toDigits]

/-- Every `int` is read back as it was printed. -/
theorem atoi_formatInt {n : Int} (hlow : -2 ^ 63 ≤ n) (hhigh : n < 2 ^ 63) :
    atoi (formatInt n) = some n := by
  cases n with
  | ofNat n =>
    rw [Int.ofNat_eq_natCast] at hhigh ⊢
    rw [formatInt_ofNat]
    exact atoi_of_unsignedValue (unsignedValue_repr n) (by omega)
  | negSucc n =>
    have hn : n + 1 ≤ 2 ^ 63 := by omega
    rw [formatInt_negSucc, atoi, unsignedValue_repr]
    simp only [if_pos hn]
    rfl

end Ssh3.Go
