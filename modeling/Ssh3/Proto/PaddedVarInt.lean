/-
  Ssh3.Proto.PaddedVarInt

  `append_var_int_with_len` of `ssh3-proto/src/wire.rs`: a varint in a width chosen by the
  caller, wider than needed where there is room.

  The loops of the source push one byte a round.  What they push is described first: the
  zeros between the width bits and the number, then the bytes of the number from the top.
-/

import Ssh3.Proto.WireSpec

namespace Ssh3.Proto

open StreamCodec VarInt

/-- The panics of a writer with a given width; `π` are those of the writers without. -/
inductive PaddedPanic (π : Type) where
  /-- "invalid varint length" -/
  | invalidLength
  /-- "cannot encode {value} in {length} bytes" -/
  | cannotEncode (value : UInt64) (length : Nat)
  /-- A panic of `var_int_len` or `append_var_int` -/
  | inner (panic : π)
  deriving DecidableEq, Repr

/-- `(value >> (shift_index * 8)) as u8` -/
def byteAt (value : UInt64) (shiftIndex : Nat) : UInt8 :=
  (value >>> UInt64.ofNat (shiftIndex * 8)).toUInt8

def appendVarIntWithLen (out : List UInt8) (value : UInt64) (length : Nat) :
    Except (PaddedPanic Panic) (List UInt8) :=
  if ¬(length = 1 ∨ length = 2 ∨ length = 4 ∨ length = 8) then
    .error .invalidLength
  else
    match varIntLen value with
    | .error panic => .error (.inner panic)
    | .ok actualLen =>
      if actualLen > length then
        .error (.cannotEncode value length)
      else if actualLen = length then
        (appendVarInt out value).mapError .inner
      else
        let out :=
          if length = 2 then out ++ [0b01000000]
          else if length = 4 then out ++ [0b10000000]
          else if length = 8 then out ++ [0b11000000]
          else out
        -- `for _ in 1..(length - actual_len)`
        let out := (List.range' 1 (length - actualLen - 1)).foldl (fun out _ => out ++ [0]) out
        -- `for shift_index in (0..actual_len).rev()`
        .ok ((List.range actualLen).reverse.foldl
          (fun out shiftIndex => out ++ [byteAt value shiftIndex]) out)

/-! ## What the loops push -/

/-- The low `n` bytes of a number, the highest first. -/
def lowBytes (value : UInt64) : Nat → List UInt8
  | 0 => []
  | n + 1 => byteAt value n :: lowBytes value n

@[simp] theorem length_lowBytes (value : UInt64) (n : Nat) : (lowBytes value n).length = n := by
  induction n with
  | zero => rfl
  | succ n ih => rw [lowBytes, List.length_cons, ih]

theorem foldl_byteAt (value : UInt64) (n : Nat) (out : List UInt8) :
    (List.range n).reverse.foldl (fun out shiftIndex => out ++ [byteAt value shiftIndex]) out =
      out ++ lowBytes value n := by
  induction n generalizing out with
  | zero => exact (List.append_nil out).symm
  | succ n ih =>
    rw [List.range_succ, List.reverse_append, List.reverse_singleton, List.singleton_append,
      List.foldl_cons, ih, lowBytes, List.append_assoc, List.singleton_append]

theorem foldl_zero (n s : Nat) (out : List UInt8) :
    (List.range' s n).foldl (fun out _ => out ++ [0]) out = out ++ List.replicate n 0 := by
  induction n generalizing s out with
  | zero => exact (List.append_nil out).symm
  | succ n ih =>
    rw [List.range'_succ, List.foldl_cons, ih, List.replicate_succ, List.append_assoc,
      List.singleton_append]

theorem beNat_lowBytes (value : UInt64) {n : Nat} (hn : n ≤ 8) :
    beNat (lowBytes value n) = value.toNat % 256 ^ n := by
  induction n with
  | zero => exact (Nat.mod_one _).symm
  | succ n ih =>
    have hlt : n * 8 < 2 ^ 64 := by omega
    have hshift : (UInt64.ofNat (n * 8)).toNat = 8 * n :=
      (UInt64.toNat_ofNat_of_lt hlt).trans (Nat.mul_comm n 8)
    have hbyte : (byteAt value n).toNat =
        value.toNat / 256 ^ (lowBytes value n).length % 256 := by
      rw [length_lowBytes]
      exact toNat_shiftRight_byte value _ n hshift (by omega)
    have hlow : beNat (lowBytes value n) = value.toNat % 256 ^ (lowBytes value n).length := by
      rw [length_lowBytes]
      exact ih (by omega)
    have hcons := beNat_cons hbyte hlow
    rwa [length_lowBytes] at hcons

theorem beNat_replicate_zero_append (n : Nat) (bs : List UInt8) :
    beNat (List.replicate n 0 ++ bs) = beNat bs := by
  induction n with
  | zero => rfl
  | succ n ih =>
    rw [List.replicate_succ, List.cons_append, beNat, ih, UInt8.toNat_zero, Nat.zero_mul,
      Nat.zero_add]

/-! ## What is written -/

/-- The width bits, zeros, and the number in as many bytes as it needs are an encoding of it. -/
theorem isVarInt_padded {value : UInt64} {b : UInt8} {k n : Nat} (hk : k < 4)
    (hb : b.toNat = 64 * k) (hvalue : value.toNat < 256 ^ n) (hn : n < 2 ^ k) (hn8 : n ≤ 8) :
    IsVarInt (b :: (List.replicate (2 ^ k - n - 1) 0 ++ lowBytes value n)) value.toNat := by
  have hlength : (List.replicate (2 ^ k - n - 1) 0 ++ lowBytes value n).length = 2 ^ k - 1 := by
    rw [List.length_append, List.length_replicate, length_lowBytes]
    omega
  -- the number leaves the first byte to the width bits
  have hfits : value.toNat < 256 ^ (2 ^ k - 1) :=
    Nat.lt_of_lt_of_le hvalue (Nat.pow_le_pow_right (by decide) (by omega))
  apply isVarInt_cons hk
  · rw [hlength]
    omega
  · rw [hlength]
    omega
  · rw [hlength, hb, Nat.div_eq_of_lt hfits, Nat.add_zero]
  · rw [hlength, Nat.mod_eq_of_lt hfits, beNat_replicate_zero_append, beNat_lowBytes value hn8,
      Nat.mod_eq_of_lt hvalue]

/-- The number fits into the bytes it is written in. -/
theorem toNat_lt_of_varIntLen {value : UInt64} {n : Nat} (h : varIntLen value = .ok n) :
    value.toNat < 256 ^ n ∧ n ≤ 8 := by
  unfold varIntLen at h
  split_ifs at h with h₁ h₂ h₃ h₄
  · have h₁ : value.toNat ≤ 63 := UInt64.le_iff_toNat_le.mp h₁
    cases h
    omega
  · have h₂ : value.toNat ≤ 16383 := UInt64.le_iff_toNat_le.mp h₂
    cases h
    omega
  · have h₃ : value.toNat ≤ 1073741823 := UInt64.le_iff_toNat_le.mp h₃
    cases h
    omega
  · have h₄ : value.toNat ≤ 4611686018427387903 := UInt64.le_iff_toNat_le.mp h₄
    cases h
    omega

/-- A width that has room for the number is filled with an encoding of it. -/
theorem appendVarIntWithLen_spec {value : UInt64} {n w : Nat} (hw : w ∈ [1, 2, 4, 8])
    (hlen : varIntLen value = .ok n) (hle : value ≤ MAX_VARINT) (hnw : n ≤ w) :
    ∃ bytes, bytes.length = w ∧ IsVarInt bytes value.toNat ∧
      ∀ out, appendVarIntWithLen out value w = .ok (out ++ bytes) := by
  have hmem : w = 1 ∨ w = 2 ∨ w = 4 ∨ w = 8 := by simpa using hw
  obtain ⟨hfits, hn8⟩ := toNat_lt_of_varIntLen hlen
  have hshort : n = (varIntBytes value).length :=
    Except.ok.inj (hlen.symm.trans (varIntLen_eq hle))
  by_cases heq : n = w
  · -- no room to spare
    refine ⟨varIntBytes value, by omega, isVarInt_varIntBytes hle, fun out => ?_⟩
    simp only [appendVarIntWithLen, hlen, appendVarInt_eq hle]
    rw [if_neg (not_not_intro hmem), if_neg (by omega), if_pos heq]
    rfl
  · have hpos : 0 < n := by
      rw [hshort]
      exact List.length_pos_iff.mpr (isVarInt_varIntBytes hle).ne_nil
    have hpadded : ∀ (k : Nat) (b : UInt8), k < 4 → b.toNat = 64 * k → w = 2 ^ k →
        ∃ bytes : List UInt8, bytes.length = w ∧ IsVarInt bytes value.toNat ∧
          bytes = b :: (List.replicate (w - n - 1) 0 ++ lowBytes value n) := by
      intro k b hk hb hwk
      refine ⟨_, ?_, ?_, rfl⟩
      · rw [List.length_cons, List.length_append, List.length_replicate, length_lowBytes]
        omega
      · rw [hwk]
        exact isVarInt_padded hk hb hfits (by omega) hn8
    have hwrite : ∀ out, appendVarIntWithLen out value w =
        .ok ((if w = 2 then out ++ [0b01000000] else if w = 4 then out ++ [0b10000000]
          else if w = 8 then out ++ [0b11000000] else out) ++
          (List.replicate (w - n - 1) 0 ++ lowBytes value n)) := by
      intro out
      simp only [appendVarIntWithLen, hlen]
      rw [if_neg (not_not_intro hmem), if_neg (by omega), if_neg heq, foldl_zero, foldl_byteAt,
        List.append_assoc]
    -- the width is not 1, since a shorter encoding has no bytes
    obtain rfl | rfl | rfl | rfl := hmem
    · omega
    · obtain ⟨bytes, hlength, hvar, hbytes⟩ := hpadded 1 0b01000000 (by decide) rfl rfl
      refine ⟨bytes, hlength, hvar, fun out => ?_⟩
      rw [hwrite, if_pos rfl, List.append_assoc, List.singleton_append, hbytes]
    · obtain ⟨bytes, hlength, hvar, hbytes⟩ := hpadded 2 0b10000000 (by decide) rfl rfl
      refine ⟨bytes, hlength, hvar, fun out => ?_⟩
      rw [hwrite, if_neg (by decide), if_pos rfl, List.append_assoc, List.singleton_append, hbytes]
    · obtain ⟨bytes, hlength, hvar, hbytes⟩ := hpadded 3 0b11000000 (by decide) rfl rfl
      refine ⟨bytes, hlength, hvar, fun out => ?_⟩
      rw [hwrite, if_neg (by decide), if_neg (by decide), if_pos rfl, List.append_assoc,
        List.singleton_append, hbytes]

end Ssh3.Proto
