/-
  Ssh3.Lib.VarInt

  The variable-length integer format of QUIC as a relation between byte
  strings and numbers, independent of any encoder or decoder.

  An encoding occupies `2 ^ k` bytes for some `k < 4`; read big-endian, its two
  topmost bits are `k` and the remaining `8 * 2 ^ k - 2` bits are the value.
  A value has up to four encodings, one per width it fits in.
-/

import Mathlib.Tactic.Ring

namespace VarInt

/-- Big-endian value of a byte string. -/
def beNat : List UInt8 → Nat
  | [] => 0
  | b :: bs => b.toNat * 256 ^ bs.length + beNat bs

/-- Number of value bits in an encoding of `2 ^ k` bytes. -/
def valueBits (k : Nat) : Nat := 8 * 2 ^ k - 2

/-- `bs` encodes `v` in `2 ^ k` bytes. -/
def IsVarIntOfWidth (k : Nat) (bs : List UInt8) (v : Nat) : Prop :=
  bs.length = 2 ^ k ∧ v < 2 ^ valueBits k ∧ beNat bs = k * 2 ^ valueBits k + v

/-- `bs` is an encoding of `v`, in one of the four widths. -/
def IsVarInt (bs : List UInt8) (v : Nat) : Prop :=
  ∃ k < 4, IsVarIntOfWidth k bs v

/-- Largest value with an encoding. -/
def maxVarInt : Nat := 2 ^ 62 - 1

/-! ## Bounds -/

theorem beNat_lt (bs : List UInt8) : beNat bs < 256 ^ bs.length := by
  induction bs with
  | nil => simp [beNat]
  | cons b bs ih =>
    have hb : b.toNat < 256 := b.toNat_lt
    have hmul : b.toNat * 256 ^ bs.length + 256 ^ bs.length ≤ 256 * 256 ^ bs.length := by
      rw [← Nat.succ_mul]
      exact Nat.mul_le_mul_right _ hb
    simp only [beNat, List.length_cons, Nat.pow_succ]
    omega

variable {b b₁ b₂ : UInt8} {bs : List UInt8} {k v : Nat}

/-- The bytes of a number, one by one. -/
theorem beNat_cons {n : Nat}
    (hb : b.toNat = n / 256 ^ bs.length % 256) (hbs : beNat bs = n % 256 ^ bs.length) :
    beNat (b :: bs) = n % 256 ^ (bs.length + 1) := by
  rw [beNat, hb, hbs, Nat.mod_pow_succ, Nat.mul_comm, Nat.add_comm]

/-- The weight of the width bits. -/
theorem two_pow_valueBits {n : Nat} (hlen : n + 1 = 2 ^ k) : 2 ^ valueBits k = 64 * 256 ^ n := by
  rw [show (256 : Nat) = 2 ^ 8 from rfl, show (64 : Nat) = 2 ^ 6 from rfl, ← Nat.pow_mul,
    ← Nat.pow_add]
  congr 1
  unfold valueBits
  omega

/-- The width and the topmost bits, in front of the bytes below them. -/
theorem isVarInt_cons (hk : k < 4) (hlen : bs.length + 1 = 2 ^ k) (hv : v < 64 * 256 ^ bs.length)
    (hb : b.toNat = 64 * k + v / 256 ^ bs.length) (hbs : beNat bs = v % 256 ^ bs.length) :
    IsVarInt (b :: bs) v := by
  have hbits := two_pow_valueBits hlen
  refine ⟨k, hk, hlen, by rw [hbits]; exact hv, ?_⟩
  calc beNat (b :: bs)
      = (64 * k + v / 256 ^ bs.length) * 256 ^ bs.length + v % 256 ^ bs.length := by
        rw [beNat, hb, hbs]
    _ = k * (64 * 256 ^ bs.length) +
          (256 ^ bs.length * (v / 256 ^ bs.length) + v % 256 ^ bs.length) := by ring
    _ = k * 2 ^ valueBits k + v := by rw [Nat.div_add_mod, hbits]

theorem IsVarInt.le_max (h : IsVarInt bs v) : v ≤ maxVarInt := by
  obtain ⟨k, hk, -, hv, -⟩ := h
  -- the widest encoding has 62 value bits
  have hpow : 2 ^ valueBits k ≤ 2 ^ 62 := by
    apply Nat.pow_le_pow_right (by decide)
    match k, hk with
    | 0, _ | 1, _ | 2, _ | 3, _ => decide
  simp only [maxVarInt]
  omega

/-- A value that does not fit into the value bits of a width needs the next width. -/
theorem IsVarInt.two_mul_le_length (h : IsVarInt bs v)
    (hv : 2 ^ valueBits k ≤ v) : 2 * 2 ^ k ≤ bs.length := by
  obtain ⟨j, -, hlen, hlt, -⟩ := h
  have hjk : k < j := by
    by_contra hle
    -- the value bits grow with the width
    have hpow : 2 ^ j ≤ 2 ^ k := Nat.pow_le_pow_right (by decide) (by omega)
    have hbits : 2 ^ valueBits j ≤ 2 ^ valueBits k := by
      apply Nat.pow_le_pow_right (by decide)
      unfold valueBits
      omega
    omega
  calc 2 * 2 ^ k = 2 ^ (k + 1) := by rw [Nat.pow_succ, Nat.mul_comm]
    _ ≤ 2 ^ j := Nat.pow_le_pow_right (by decide) hjk
    _ = bs.length := hlen.symm

theorem IsVarInt.ne_nil (h : IsVarInt bs v) : bs ≠ [] := by
  obtain ⟨k, -, hlen, -⟩ := h
  intro hnil
  rw [hnil] at hlen
  exact absurd hlen.symm (Nat.pos_iff_ne_zero.mp (Nat.two_pow_pos k))

/-! ## The four widths, byte by byte

The first byte carries the width in its two top bits; `c` below is its low six
bits. -/

theorem isVarInt_one (h : b.toNat / 64 = 0) : IsVarInt [b] b.toNat :=
  ⟨0, by decide, rfl, by simp only [valueBits]; omega, by simp [beNat]⟩

theorem isVarInt_two (h : b₁.toNat / 64 = 1) :
    IsVarInt [b₁, b₂] (b₂.toNat + b₁.toNat % 64 * 2 ^ 8) := by
  have h₂ := b₂.toNat_lt
  refine ⟨1, by decide, rfl, ?_, ?_⟩
  · simp only [valueBits]; omega
  · simp only [beNat, valueBits, List.length_cons, List.length_nil]; omega

theorem isVarInt_four {b₃ b₄ : UInt8} (h : b₁.toNat / 64 = 2) :
    IsVarInt [b₁, b₂, b₃, b₄]
      (b₄.toNat + b₃.toNat * 2 ^ 8 + b₂.toNat * 2 ^ 16 + b₁.toNat % 64 * 2 ^ 24) := by
  have h₂ := b₂.toNat_lt
  have h₃ := b₃.toNat_lt
  have h₄ := b₄.toNat_lt
  refine ⟨2, by decide, rfl, ?_, ?_⟩
  · simp only [valueBits]; omega
  · simp only [beNat, valueBits, List.length_cons, List.length_nil]; omega

theorem isVarInt_eight {b₃ b₄ b₅ b₆ b₇ b₈ : UInt8} (h : b₁.toNat / 64 = 3) :
    IsVarInt [b₁, b₂, b₃, b₄, b₅, b₆, b₇, b₈]
      (b₈.toNat + b₇.toNat * 2 ^ 8 + b₆.toNat * 2 ^ 16 + b₅.toNat * 2 ^ 24 +
        b₄.toNat * 2 ^ 32 + b₃.toNat * 2 ^ 40 + b₂.toNat * 2 ^ 48 +
        b₁.toNat % 64 * 2 ^ 56) := by
  have h₂ := b₂.toNat_lt
  have h₃ := b₃.toNat_lt
  have h₄ := b₄.toNat_lt
  have h₅ := b₅.toNat_lt
  have h₆ := b₆.toNat_lt
  have h₇ := b₇.toNat_lt
  have h₈ := b₈.toNat_lt
  refine ⟨3, by decide, rfl, ?_, ?_⟩
  · simp only [valueBits]; omega
  · simp only [beNat, valueBits, List.length_cons, List.length_nil]; omega

/-- The width of an encoding is in the top two bits of its first byte. -/
theorem IsVarIntOfWidth.head_div (h : IsVarIntOfWidth k (b :: bs) v) : b.toNat / 64 = k := by
  obtain ⟨hlen, hv, hval⟩ := h
  have htail := beNat_lt bs
  rw [List.length_cons] at hlen
  have hbits := two_pow_valueBits hlen
  rw [beNat, hbits] at hval
  rw [hbits] at hv
  have hpos : 0 < 256 ^ bs.length := Nat.pow_pos (by decide)
  generalize 256 ^ bs.length = P at *
  -- both bounds by comparing with the weight of the first byte
  apply Nat.div_eq_of_lt_le
  · apply Nat.le_of_mul_le_mul_right _ hpos
    have hk : k * (64 * P) = k * 64 * P := (Nat.mul_assoc ..).symm
    by_contra hlt
    have hsucc : b.toNat * P + P ≤ k * 64 * P := by
      rw [← Nat.succ_mul]
      apply Nat.mul_le_mul_right
      by_contra hge
      exact hlt (Nat.mul_le_mul_right P (by omega))
    omega
  · by_contra hge
    have hmul : (k + 1) * 64 * P ≤ b.toNat * P := Nat.mul_le_mul_right P (by omega)
    have hk : (k + 1) * 64 * P = k * (64 * P) + 64 * P := by
      rw [Nat.mul_assoc, Nat.succ_mul]
    omega

/-- Inversion: an encoding is one of the four shapes above. -/
theorem IsVarInt.shape (h : IsVarInt bs v) : (∃ b₁, bs = [b₁] ∧ b₁.toNat / 64 = 0 ∧ v = b₁.toNat) ∨
    (∃ b₁ b₂, bs = [b₁, b₂] ∧ b₁.toNat / 64 = 1 ∧
      v = b₂.toNat + b₁.toNat % 64 * 2 ^ 8) ∨
    (∃ b₁ b₂ b₃ b₄, bs = [b₁, b₂, b₃, b₄] ∧ b₁.toNat / 64 = 2 ∧
      v = b₄.toNat + b₃.toNat * 2 ^ 8 + b₂.toNat * 2 ^ 16 + b₁.toNat % 64 * 2 ^ 24) ∨
    (∃ b₁ b₂ b₃ b₄ b₅ b₆ b₇ b₈, bs = [b₁, b₂, b₃, b₄, b₅, b₆, b₇, b₈] ∧ b₁.toNat / 64 = 3 ∧
      v = b₈.toNat + b₇.toNat * 2 ^ 8 + b₆.toNat * 2 ^ 16 + b₅.toNat * 2 ^ 24 +
        b₄.toNat * 2 ^ 32 + b₃.toNat * 2 ^ 40 + b₂.toNat * 2 ^ 48 +
        b₁.toNat % 64 * 2 ^ 56) := by
  obtain ⟨k, hk, h⟩ := h
  have hlen := h.1
  have hval := h.2.2
  -- the width fixes the number of bytes
  match k, hk, bs, hlen with
  | 0, _, [b₁], _ =>
    have hhead := h.head_div
    simp only [beNat, valueBits, List.length_nil] at hval
    exact .inl ⟨b₁, rfl, hhead, by omega⟩
  | 1, _, [b₁, b₂], _ =>
    have hhead := h.head_div
    simp only [beNat, valueBits, List.length_cons, List.length_nil] at hval
    exact .inr (.inl ⟨b₁, b₂, rfl, hhead, by omega⟩)
  | 2, _, [b₁, b₂, b₃, b₄], _ =>
    have hhead := h.head_div
    simp only [beNat, valueBits, List.length_cons, List.length_nil] at hval
    exact .inr (.inr (.inl ⟨b₁, b₂, b₃, b₄, rfl, hhead, by omega⟩))
  | 3, _, [b₁, b₂, b₃, b₄, b₅, b₆, b₇, b₈], _ =>
    have hhead := h.head_div
    simp only [beNat, valueBits, List.length_cons, List.length_nil] at hval
    exact .inr (.inr (.inr ⟨b₁, b₂, b₃, b₄, b₅, b₆, b₇, b₈, rfl, hhead, by omega⟩))

end VarInt
