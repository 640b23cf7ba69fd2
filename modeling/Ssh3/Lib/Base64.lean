/-
  Ssh3.Lib.Base64

  Base64 with an alphabet and a choice of padding, and its decoder: no line breaks
  and no missing or surplus padding.  The bits of the last symbol that stand for
  nothing have to be zero for a strict decoder.

  Encoding takes three bytes at a time and the decoder four symbols; what is left
  at the end is a group of one or two bytes.
-/

import Mathlib.Tactic.Ring

namespace Base64

/-- Sixty-four symbols and their values. -/
structure Alphabet where
  symbol : Nat → UInt8
  value : UInt8 → Option Nat
  value_symbol : ∀ v, v < 64 → value (symbol v) = some v

/-- The letters, the digits and two more symbols. -/
def alphanumeric (plus slash : UInt8) (v : Nat) : UInt8 :=
  if v < 26 then UInt8.ofNat (v + 65)
  else if v < 52 then UInt8.ofNat (v + 71)
  else if v < 62 then UInt8.ofNat (v - 4)
  else if v = 62 then plus
  else slash

def alphanumericValue (plus slash : UInt8) (c : UInt8) : Option Nat :=
  if 65 ≤ c ∧ c ≤ 90 then some (c.toNat - 65)
  else if 97 ≤ c ∧ c ≤ 122 then some (c.toNat - 71)
  else if 48 ≤ c ∧ c ≤ 57 then some (c.toNat + 4)
  else if c = plus then some 62
  else if c = slash then some 63
  else none

/-- `A–Z a–z 0–9 + /` -/
def standard : Alphabet where
  symbol := alphanumeric 43 47
  value := alphanumericValue 43 47
  value_symbol := by decide

/-- `A–Z a–z 0–9 - _` -/
def urlSafe : Alphabet where
  symbol := alphanumeric 45 95
  value := alphanumericValue 45 95
  value_symbol := by decide

/-- The padding symbol `=` -/
def pad : UInt8 := 61

/-- An alphabet, and what is asked of padding and of unused bits -/
structure Engine where
  alphabet : Alphabet
  padded : Bool
  strict : Bool
  /-- The padding symbol is none of the alphabet. -/
  value_pad : alphabet.value pad = none

def STANDARD : Engine where
  alphabet := standard
  padded := true
  strict := true
  value_pad := by decide

def URL_SAFE_NO_PAD : Engine where
  alphabet := urlSafe
  padded := false
  strict := true
  value_pad := by decide

/-! ## Encoding and decoding -/

def Engine.padding (e : Engine) (n : Nat) : List UInt8 :=
  if e.padded then List.replicate n pad else []

def Engine.encode (e : Engine) : List UInt8 → List UInt8
  | [] => []
  | [a] =>
    e.alphabet.symbol (a.toNat / 4) :: e.alphabet.symbol (a.toNat % 4 * 16) :: e.padding 2
  | [a, b] =>
    e.alphabet.symbol (a.toNat / 4) :: e.alphabet.symbol (a.toNat % 4 * 16 + b.toNat / 16) ::
      e.alphabet.symbol (b.toNat % 16 * 4) :: e.padding 1
  | a :: b :: c :: rest =>
    e.alphabet.symbol (a.toNat / 4) :: e.alphabet.symbol (a.toNat % 4 * 16 + b.toNat / 16) ::
      e.alphabet.symbol (b.toNat % 16 * 4 + c.toNat / 64) :: e.alphabet.symbol (c.toNat % 64) ::
        e.encode rest

/-- Two symbols that stand for one byte. -/
def Engine.decodeOne (e : Engine) (w x : UInt8) : Option (List UInt8) :=
  match e.alphabet.value w, e.alphabet.value x with
  | some w, some x =>
    if ¬e.strict ∨ x % 16 = 0 then some [UInt8.ofNat (w * 4 + x / 16)] else none
  | _, _ => none

/-- Three symbols that stand for two bytes. -/
def Engine.decodeTwo (e : Engine) (w x y : UInt8) : Option (List UInt8) :=
  match e.alphabet.value w, e.alphabet.value x, e.alphabet.value y with
  | some w, some x, some y =>
    if ¬e.strict ∨ y % 4 = 0 then
      some [UInt8.ofNat (w * 4 + x / 16), UInt8.ofNat (x % 16 * 16 + y / 4)]
    else none
  | _, _, _ => none

/-- Four symbols that stand for three bytes. -/
def Engine.decodeThree (e : Engine) (w x y z : UInt8) : Option (List UInt8) :=
  match e.alphabet.value w, e.alphabet.value x, e.alphabet.value y, e.alphabet.value z with
  | some w, some x, some y, some z =>
    some [UInt8.ofNat (w * 4 + x / 16), UInt8.ofNat (x % 16 * 16 + y / 4),
      UInt8.ofNat (y % 4 * 64 + z)]
  | _, _, _, _ => none

def Engine.decode (e : Engine) : List UInt8 → Option (List UInt8)
  | [] => some []
  | [_] => none
  | [w, x] => if e.padded then none else e.decodeOne w x
  | [w, x, y] => if e.padded then none else e.decodeTwo w x y
  | w :: x :: y :: z :: rest =>
    if e.padded ∧ rest = [] ∧ z = pad then
      if y = pad then e.decodeOne w x else e.decodeTwo w x y
    else
      match e.decodeThree w x y z, e.decode rest with
      | some bytes, some more => some (bytes ++ more)
      | _, _ => none

/-! ## Decoding what was encoded -/

section

variable {e : Engine}

theorem Engine.symbol_ne_pad {v : Nat} (hv : v < 64) : e.alphabet.symbol v ≠ pad := by
  intro h
  have hvalue := e.alphabet.value_symbol v hv
  rw [h, e.value_pad] at hvalue
  exact absurd hvalue (by simp)

theorem Engine.decodeOne_symbol (a : UInt8) :
    e.decodeOne (e.alphabet.symbol (a.toNat / 4)) (e.alphabet.symbol (a.toNat % 4 * 16)) =
      some [a] := by
  have ha := a.toNat_lt
  have hbyte : a.toNat / 4 * 4 + a.toNat % 4 * 16 / 16 = a.toNat := by omega
  rw [decodeOne, e.alphabet.value_symbol _ (by omega), e.alphabet.value_symbol _ (by omega)]
  simp only [Nat.mul_mod_left, or_true, if_true, hbyte, UInt8.ofNat_toNat]

theorem Engine.decodeTwo_symbol (a b : UInt8) :
    e.decodeTwo (e.alphabet.symbol (a.toNat / 4))
      (e.alphabet.symbol (a.toNat % 4 * 16 + b.toNat / 16))
      (e.alphabet.symbol (b.toNat % 16 * 4)) = some [a, b] := by
  have ha := a.toNat_lt
  have hb := b.toNat_lt
  have hfirst : a.toNat / 4 * 4 + (a.toNat % 4 * 16 + b.toNat / 16) / 16 = a.toNat := by omega
  have hsecond :
      (a.toNat % 4 * 16 + b.toNat / 16) % 16 * 16 + b.toNat % 16 * 4 / 4 = b.toNat := by omega
  rw [decodeTwo, e.alphabet.value_symbol _ (by omega), e.alphabet.value_symbol _ (by omega),
    e.alphabet.value_symbol _ (by omega)]
  simp only [Nat.mul_mod_left, or_true, if_true, hfirst, hsecond, UInt8.ofNat_toNat]

theorem Engine.decodeThree_symbol (a b c : UInt8) :
    e.decodeThree (e.alphabet.symbol (a.toNat / 4))
      (e.alphabet.symbol (a.toNat % 4 * 16 + b.toNat / 16))
      (e.alphabet.symbol (b.toNat % 16 * 4 + c.toNat / 64)) (e.alphabet.symbol (c.toNat % 64)) =
      some [a, b, c] := by
  have ha := a.toNat_lt
  have hb := b.toNat_lt
  have hc := c.toNat_lt
  have hfirst : a.toNat / 4 * 4 + (a.toNat % 4 * 16 + b.toNat / 16) / 16 = a.toNat := by omega
  have hsecond :
      (a.toNat % 4 * 16 + b.toNat / 16) % 16 * 16 + (b.toNat % 16 * 4 + c.toNat / 64) / 4 =
        b.toNat := by omega
  have hthird : (b.toNat % 16 * 4 + c.toNat / 64) % 4 * 64 + c.toNat % 64 = c.toNat := by omega
  rw [decodeThree, e.alphabet.value_symbol _ (by omega), e.alphabet.value_symbol _ (by omega),
    e.alphabet.value_symbol _ (by omega), e.alphabet.value_symbol _ (by omega)]
  simp only [hfirst, hsecond, hthird, UInt8.ofNat_toNat]

theorem Engine.decode_encode (e : Engine) (bytes : List UInt8) :
    e.decode (e.encode bytes) = some bytes := by
  -- the groups of the encoder are those of the decoder
  induction bytes using Engine.encode.induct with
  | case1 => rfl
  | case2 a =>
    cases hpad : e.padded with
    | false =>
      simp only [encode, padding, hpad, decode, Bool.false_eq_true, if_false]
      exact decodeOne_symbol a
    | true =>
      simp only [encode, padding, hpad, decode, if_true, List.replicate, and_self]
      exact decodeOne_symbol a
  | case3 a b =>
    cases hpad : e.padded with
    | false =>
      simp only [encode, padding, hpad, decode, Bool.false_eq_true, if_false]
      exact decodeTwo_symbol a b
    | true =>
      have hsymbol : e.alphabet.symbol (b.toNat % 16 * 4) ≠ pad := symbol_ne_pad (by omega)
      simp only [encode, padding, hpad, decode, if_true, List.replicate, and_self, hsymbol,
        if_false]
      exact decodeTwo_symbol a b
  | case4 a b c rest ih =>
    have hsymbol : e.alphabet.symbol (c.toNat % 64) ≠ pad := symbol_ne_pad (by omega)
    simp only [encode, decode, hsymbol, and_false, if_false, decodeThree_symbol, ih,
      List.cons_append, List.nil_append]

theorem Engine.encode_injective (e : Engine) : Function.Injective e.encode := by
  intro xs ys h
  have hdecode := e.decode_encode xs
  rw [h, e.decode_encode] at hdecode
  exact (Option.some.inj hdecode).symm

/-- What an encoding consists of. -/
theorem Engine.eq_symbol_or_pad_of_mem_encode {bytes : List UInt8} {c : UInt8}
    (h : c ∈ e.encode bytes) :
    (∃ v, v < 64 ∧ c = e.alphabet.symbol v) ∨ c = pad := by
  have hpadding : ∀ n, c ∈ e.padding n → c = pad := by
    intro n hn
    unfold padding at hn
    split at hn
    · exact List.eq_of_mem_replicate hn
    · exact absurd hn List.not_mem_nil
  induction bytes using Engine.encode.induct with
  | case1 => exact absurd h List.not_mem_nil
  | case2 a =>
    have ha := a.toNat_lt
    simp only [encode, List.mem_cons] at h
    rcases h with rfl | rfl | h
    · exact .inl ⟨_, by omega, rfl⟩
    · exact .inl ⟨_, by omega, rfl⟩
    · exact .inr (hpadding _ h)
  | case3 a b =>
    have ha := a.toNat_lt
    have hb := b.toNat_lt
    simp only [encode, List.mem_cons] at h
    rcases h with rfl | rfl | rfl | h
    · exact .inl ⟨_, by omega, rfl⟩
    · exact .inl ⟨_, by omega, rfl⟩
    · exact .inl ⟨_, by omega, rfl⟩
    · exact .inr (hpadding _ h)
  | case4 a b c rest ih =>
    have ha := a.toNat_lt
    have hb := b.toNat_lt
    have hc := c.toNat_lt
    simp only [encode, List.mem_cons] at h
    rcases h with rfl | rfl | rfl | rfl | h
    · exact .inl ⟨_, by omega, rfl⟩
    · exact .inl ⟨_, by omega, rfl⟩
    · exact .inl ⟨_, by omega, rfl⟩
    · exact .inl ⟨_, by omega, rfl⟩
    · exact ih h

/-- A byte that is neither a symbol nor the padding occurs in no encoding. -/
theorem Engine.not_mem_encode {c : UInt8} (hvalue : e.alphabet.value c = none) (hpad : c ≠ pad)
    (bytes : List UInt8) : c ∉ e.encode bytes := by
  intro h
  rcases eq_symbol_or_pad_of_mem_encode h with ⟨v, hv, rfl⟩ | rfl
  · rw [e.alphabet.value_symbol v hv] at hvalue
    exact absurd hvalue (by simp)
  · exact hpad rfl

end

end Base64
