/-
  Ssh3.Proto.WireSpec

  The wire readers and writers against the number format: the varint reader
  accepts exactly the encodings of `VarInt.IsVarInt`, the writer emits one of
  them, and SSH strings and booleans are read back as written.

  Later modules use these spec lemmas and never unfold a reader or a writer.
-/

import Ssh3.Proto.Wire

namespace Ssh3.Proto

open StreamCodec VarInt

/-! ## Bit operations on one byte -/

/-- The width bits of a first byte. -/
theorem widthBits_toNat (b : UInt8) : ((b &&& 0xc0) >>> 6).toNat = b.toNat / 64 := by
  have hb := b.toNat_lt
  have hmask : (b &&& 0xc0 : UInt8).toNat >>> 6 = b.toNat >>> 6 &&& 3 := by
    rw [UInt8.toNat_and]
    exact Nat.shiftRight_and_distrib ..
  -- the mask and the shift commute, and three is all two bits can hold
  rw [UInt8.toNat_shiftRight]
  show (b &&& 0xc0 : UInt8).toNat >>> 6 = _
  rw [hmask, Nat.shiftRight_eq_div_pow, Nat.and_two_pow_sub_one_eq_mod _ 2]
  omega

/-- The value bits of a first byte. -/
theorem valueBits_toNat (b : UInt8) : (b &&& 0x3f).toNat = b.toNat % 64 := by
  rw [UInt8.toNat_and]
  exact Nat.and_two_pow_sub_one_eq_mod b.toNat 6

/-- Setting the width bits of a byte whose value fits below them. -/
theorem toNat_or_width (b : UInt8) (k : Nat) (w : UInt8) (hw : w.toNat = 64 * k)
    (hb : b.toNat < 64) : (b ||| w).toNat = 64 * k + b.toNat := by
  rw [UInt8.toNat_or, hw, Nat.or_comm]
  exact (Nat.two_pow_add_eq_or_of_lt (i := 6) hb k).symm

/-- Adding a byte above the bits an accumulator uses: neither the shift nor the sum
    overflows. -/
theorem toNat_add_byte {acc : UInt64} {n : Nat} (hacc : acc.toNat = n) (b : UInt8) (s : UInt64)
    (hs : s.toNat ≤ 56) (hn : n < 2 ^ s.toNat) :
    (acc + (b.toUInt64 <<< s)).toNat = n + b.toNat * 2 ^ s.toNat := by
  have hb : b.toNat + 1 ≤ 2 ^ 8 := b.toNat_lt
  have hpow : 2 ^ s.toNat ≤ 2 ^ 56 := Nat.pow_le_pow_right (by decide) hs
  have hsum : n + b.toNat * 2 ^ s.toNat < 2 ^ 64 := by
    calc n + b.toNat * 2 ^ s.toNat < 2 ^ s.toNat + b.toNat * 2 ^ s.toNat := by omega
      _ = (b.toNat + 1) * 2 ^ s.toNat := by rw [Nat.succ_mul, Nat.add_comm]
      _ ≤ 2 ^ 8 * 2 ^ 56 := Nat.mul_le_mul hb hpow
      _ = 2 ^ 64 := rfl
  rw [UInt64.toNat_add, UInt64.toNat_shiftLeft, Nat.mod_eq_of_lt (by omega : s.toNat < 64),
    Nat.shiftLeft_eq, UInt8.toNat_toUInt64, hacc, Nat.mod_eq_of_lt (a := b.toNat * _) (by omega),
    Nat.mod_eq_of_lt hsum]

/-! The sums of `read_var_int`, from the last byte up: every partial sum stays below the place
of the next byte. -/

theorem toNat_twoBytes (b₁ b₂ : UInt8) :
    (b₂.toUInt64 + ((b₁ &&& 0x3f).toUInt64 <<< 8)).toNat =
      b₂.toNat + b₁.toNat % 64 * 2 ^ 8 := by
  have h₂ := b₂.toNat_lt
  have e₁ := toNat_add_byte (UInt8.toNat_toUInt64 b₂) (b₁ &&& 0x3f) 8 (by decide) h₂
  rw [e₁, valueBits_toNat]
  rfl

theorem toNat_fourBytes (b₁ b₂ b₃ b₄ : UInt8) :
    (b₄.toUInt64 + (b₃.toUInt64 <<< 8) + (b₂.toUInt64 <<< 16)
        + ((b₁ &&& 0x3f).toUInt64 <<< 24)).toNat =
      b₄.toNat + b₃.toNat * 2 ^ 8 + b₂.toNat * 2 ^ 16 + b₁.toNat % 64 * 2 ^ 24 := by
  have h₂ := b₂.toNat_lt
  have h₃ := b₃.toNat_lt
  have h₄ := b₄.toNat_lt
  have e₃ := toNat_add_byte (UInt8.toNat_toUInt64 b₄) b₃ 8 (by decide) h₄
  have e₂ := toNat_add_byte e₃ b₂ 16 (by decide) (by simp only [UInt64.reduceToNat]; omega)
  have e₁ := toNat_add_byte e₂ (b₁ &&& 0x3f) 24 (by decide)
    (by simp only [UInt64.reduceToNat]; omega)
  rw [e₁, valueBits_toNat]
  rfl

theorem toNat_eightBytes (b₁ b₂ b₃ b₄ b₅ b₆ b₇ b₈ : UInt8) :
    (b₈.toUInt64 + (b₇.toUInt64 <<< 8) + (b₆.toUInt64 <<< 16) + (b₅.toUInt64 <<< 24)
        + (b₄.toUInt64 <<< 32) + (b₃.toUInt64 <<< 40) + (b₂.toUInt64 <<< 48)
        + ((b₁ &&& 0x3f).toUInt64 <<< 56)).toNat =
      b₈.toNat + b₇.toNat * 2 ^ 8 + b₆.toNat * 2 ^ 16 + b₅.toNat * 2 ^ 24 + b₄.toNat * 2 ^ 32 +
        b₃.toNat * 2 ^ 40 + b₂.toNat * 2 ^ 48 + b₁.toNat % 64 * 2 ^ 56 := by
  have h₂ := b₂.toNat_lt
  have h₃ := b₃.toNat_lt
  have h₄ := b₄.toNat_lt
  have h₅ := b₅.toNat_lt
  have h₆ := b₆.toNat_lt
  have h₇ := b₇.toNat_lt
  have h₈ := b₈.toNat_lt
  have e₇ := toNat_add_byte (UInt8.toNat_toUInt64 b₈) b₇ 8 (by decide) h₈
  have e₆ := toNat_add_byte e₇ b₆ 16 (by decide) (by simp only [UInt64.reduceToNat]; omega)
  have e₅ := toNat_add_byte e₆ b₅ 24 (by decide) (by simp only [UInt64.reduceToNat]; omega)
  have e₄ := toNat_add_byte e₅ b₄ 32 (by decide) (by simp only [UInt64.reduceToNat]; omega)
  have e₃ := toNat_add_byte e₄ b₃ 40 (by decide) (by simp only [UInt64.reduceToNat]; omega)
  have e₂ := toNat_add_byte e₃ b₂ 48 (by decide) (by simp only [UInt64.reduceToNat]; omega)
  have e₁ := toNat_add_byte e₂ (b₁ &&& 0x3f) 56 (by decide)
    (by simp only [UInt64.reduceToNat]; omega)
  rw [e₁, valueBits_toNat]
  rfl

/-- One byte of a 64-bit word. -/
theorem toNat_shiftRight_byte (v s : UInt64) (n : Nat) (hs : s.toNat = 8 * n) (hn : n < 8) :
    (v >>> s).toUInt8.toNat = v.toNat / 256 ^ n % 256 := by
  have hlt : s.toNat < 64 := by omega
  rw [UInt64.toNat_toUInt8, UInt64.toNat_shiftRight, Nat.mod_eq_of_lt hlt,
    Nat.shiftRight_eq_div_pow, hs, Nat.pow_mul]

/-- The first byte of an encoding. -/
theorem toNat_shiftRight_or_width (v s : UInt64) (n k : Nat) (w : UInt8) (hs : s.toNat = 8 * n)
    (hn : n < 8) (hw : w.toNat = 64 * k) (hv : v.toNat < 64 * 256 ^ n) :
    ((v >>> s).toUInt8 ||| w).toNat = 64 * k + v.toNat / 256 ^ n := by
  have hdiv : v.toNat / 256 ^ n < 64 := Nat.div_lt_of_lt_mul (by rwa [Nat.mul_comm] at hv)
  have hbyte := toNat_shiftRight_byte v s n hs hn
  rw [Nat.mod_eq_of_lt (by omega)] at hbyte
  rw [toNat_or_width _ k w hw (by omega), hbyte]

/-! ## Bytes and booleans -/

section Readers

variable {ε : Type} (ending : ε) (ofProto : Error → ε)

theorem reads_readByteFrom (b : UInt8) :
    Reads (readByteFrom (bytesSource ending ofProto)) [b] b := by
  have h := reads_readExact ending [b] rfl
  exact reads_bind_pure (f := single) h

variable {input rest bytes : List UInt8}

theorem readByteFrom_eq_ok {b : UInt8} :
    (readByteFrom (bytesSource ending ofProto)).run input = .ok (b, rest) ↔ input = b :: rest := by
  cases input with
  | nil =>
    constructor
    · intro h
      cases h
    · intro h
      cases h
  | cons c input =>
    have h := reads_readByteFrom ending ofProto c input
    rw [List.singleton_append] at h
    rw [h]
    simp

theorem reads_readBoolFrom (value : Bool) :
    Reads (readBoolFrom (bytesSource ending ofProto)) [value.toUInt8] value := by
  have h := reads_readByteFrom ending ofProto value.toUInt8
  cases value with
  | false => exact reads_bind (q := []) h (reads_pure false)
  | true => exact reads_bind (q := []) h (reads_pure true)

/-! ## Varints -/

/-- The reader accepts every encoding of a value, in each of the four widths. -/
theorem reads_readVarIntFrom {pre : List UInt8} {v : UInt64} (h : IsVarInt pre v.toNat) :
    Reads (readVarIntFrom (bytesSource ending ofProto)) pre v := by
  have hbyte := reads_readByteFrom ending ofProto
  -- one case per width; the first byte tells the reader how many follow
  rcases h.shape with ⟨b₁, rfl, hk, hv⟩ | ⟨b₁, b₂, rfl, hk, hv⟩ | ⟨b₁, b₂, b₃, b₄, rfl, hk, hv⟩ |
      ⟨b₁, b₂, b₃, b₄, b₅, b₆, b₇, b₈, rfl, hk, hv⟩
  · refine reads_bind (q := []) (hbyte b₁) ?_
    simp only [widthBits_toNat, hk]
    have hval : (b₁ &&& 0x3f).toUInt64 = v := by
      apply UInt64.toNat_inj.mp
      rw [UInt8.toNat_toUInt64, valueBits_toNat, hv]
      omega
    rw [hval]
    exact reads_pure v
  · refine reads_bind (q := [b₂]) (hbyte b₁) ?_
    simp only [widthBits_toNat, hk]
    refine reads_bind (q := []) (hbyte b₂) ?_
    have hval : b₂.toUInt64 + ((b₁ &&& 0x3f).toUInt64 <<< 8) = v :=
      UInt64.toNat_inj.mp ((toNat_twoBytes b₁ b₂).trans hv.symm)
    rw [hval]
    exact reads_pure v
  · refine reads_bind (q := [b₂, b₃, b₄]) (hbyte b₁) ?_
    simp only [widthBits_toNat, hk]
    refine reads_bind (q := [b₃, b₄]) (hbyte b₂) ?_
    refine reads_bind (q := [b₄]) (hbyte b₃) ?_
    refine reads_bind (q := []) (hbyte b₄) ?_
    have hval : b₄.toUInt64 + (b₃.toUInt64 <<< 8) + (b₂.toUInt64 <<< 16)
        + ((b₁ &&& 0x3f).toUInt64 <<< 24) = v :=
      UInt64.toNat_inj.mp ((toNat_fourBytes b₁ b₂ b₃ b₄).trans hv.symm)
    rw [hval]
    exact reads_pure v
  · refine reads_bind (q := [b₂, b₃, b₄, b₅, b₆, b₇, b₈]) (hbyte b₁) ?_
    simp only [widthBits_toNat, hk]
    refine reads_bind (q := [b₃, b₄, b₅, b₆, b₇, b₈]) (hbyte b₂) ?_
    refine reads_bind (q := [b₄, b₅, b₆, b₇, b₈]) (hbyte b₃) ?_
    refine reads_bind (q := [b₅, b₆, b₇, b₈]) (hbyte b₄) ?_
    refine reads_bind (q := [b₆, b₇, b₈]) (hbyte b₅) ?_
    refine reads_bind (q := [b₇, b₈]) (hbyte b₆) ?_
    refine reads_bind (q := [b₈]) (hbyte b₇) ?_
    refine reads_bind (q := []) (hbyte b₈) ?_
    have hval : b₈.toUInt64 + (b₇.toUInt64 <<< 8) + (b₆.toUInt64 <<< 16) + (b₅.toUInt64 <<< 24)
        + (b₄.toUInt64 <<< 32) + (b₃.toUInt64 <<< 40) + (b₂.toUInt64 <<< 48)
        + ((b₁ &&& 0x3f).toUInt64 <<< 56) = v :=
      UInt64.toNat_inj.mp ((toNat_eightBytes b₁ b₂ b₃ b₄ b₅ b₆ b₇ b₈).trans hv.symm)
    rw [hval]
    exact reads_pure v

/-- What the reader accepts is an encoding of the value it returns. -/
theorem readVarIntFrom_sound {v : UInt64}
    (h : (readVarIntFrom (bytesSource ending ofProto)).run input = .ok (v, rest)) :
    ∃ pre, input = pre ++ rest ∧ IsVarInt pre v.toNat := by
  have key : ∀ pre (w : Nat), w < 2 ^ 64 → IsVarInt pre w → ∀ tail, input = pre ++ tail →
      ∃ pre, input = pre ++ rest ∧ IsVarInt pre v.toNat := by
    -- an encoding at the front of the input is what the reader returns
    intro pre w hw hpre tail hin
    have hto : (UInt64.ofNat w).toNat = w := UInt64.toNat_ofNat_of_lt hw
    have hread := reads_readVarIntFrom ending ofProto (v := UInt64.ofNat w) (by rwa [hto]) tail
    rw [← hin, h] at hread
    cases hread
    exact ⟨pre, hin, by rwa [hto]⟩
  have hlt : ∀ {pre : List UInt8} {w : Nat}, IsVarInt pre w → w < 2 ^ 64 := by
    intro pre w hpre
    have := hpre.le_max
    simp only [maxVarInt] at this
    omega
  unfold readVarIntFrom at h
  obtain ⟨b₁, r₁, h₁, h⟩ := run_bind_eq_ok.mp h
  rw [readByteFrom_eq_ok] at h₁
  have hb₁ := b₁.toNat_lt
  simp only [widthBits_toNat] at h
  -- the width is read off the first byte, and the rest of the run says that the bytes are there
  obtain hk | hk | hk | hk : b₁.toNat / 64 = 0 ∨ b₁.toNat / 64 = 1 ∨ b₁.toNat / 64 = 2 ∨
      b₁.toNat / 64 = 3 := by omega
  · exact key _ _ (hlt (isVarInt_one hk)) (isVarInt_one hk) r₁ h₁
  · rw [hk] at h
    obtain ⟨b₂, r₂, h₂, -⟩ := run_bind_eq_ok.mp h
    rw [readByteFrom_eq_ok] at h₂
    subst h₂
    exact key _ _ (hlt (isVarInt_two hk)) (isVarInt_two hk) r₂ h₁
  · rw [hk] at h
    obtain ⟨b₂, r₂, h₂, h⟩ := run_bind_eq_ok.mp h
    obtain ⟨b₃, r₃, h₃, h⟩ := run_bind_eq_ok.mp h
    obtain ⟨b₄, r₄, h₄, -⟩ := run_bind_eq_ok.mp h
    rw [readByteFrom_eq_ok] at h₂ h₃ h₄
    subst h₂ h₃ h₄
    exact key _ _ (hlt (isVarInt_four hk)) (isVarInt_four hk) r₄ h₁
  · rw [hk] at h
    obtain ⟨b₂, r₂, h₂, h⟩ := run_bind_eq_ok.mp h
    obtain ⟨b₃, r₃, h₃, h⟩ := run_bind_eq_ok.mp h
    obtain ⟨b₄, r₄, h₄, h⟩ := run_bind_eq_ok.mp h
    obtain ⟨b₅, r₅, h₅, h⟩ := run_bind_eq_ok.mp h
    obtain ⟨b₆, r₆, h₆, h⟩ := run_bind_eq_ok.mp h
    obtain ⟨b₇, r₇, h₇, h⟩ := run_bind_eq_ok.mp h
    obtain ⟨b₈, r₈, h₈, -⟩ := run_bind_eq_ok.mp h
    rw [readByteFrom_eq_ok] at h₂ h₃ h₄ h₅ h₆ h₇ h₈
    subst h₂ h₃ h₄ h₅ h₆ h₇ h₈
    exact key _ _ (hlt (isVarInt_eight hk)) (isVarInt_eight hk) r₈ h₁

/-! ## SSH strings -/

/-- A byte string within the limit every reader enforces. -/
def SshBytesOk (bytes : List UInt8) : Prop := bytes.length ≤ MAX_SSH_STRING_LEN.toNat

instance (bytes : List UInt8) : Decidable (SshBytesOk bytes) :=
  inferInstanceAs (Decidable (_ ≤ _))

theorem SshBytesOk.toNat_length (h : SshBytesOk bytes) :
    (UInt64.ofNat bytes.length).toNat = bytes.length :=
  UInt64.toNat_ofNat_of_lt (Nat.lt_of_le_of_lt h (by decide))

/-- `pre` is an accepted encoding of the string `bytes`: a length in any varint width,
    within the resource limit, then the bytes. -/
def IsSshBytes (pre bytes : List UInt8) : Prop :=
  ∃ lengthBytes, pre = lengthBytes ++ bytes ∧ IsVarInt lengthBytes bytes.length ∧
    SshBytesOk bytes

theorem checkedSshStringLength_eq_ok {length : UInt64} {n : Nat} :
    checkedSshStringLength length = .ok n ↔
      length.toNat ≤ MAX_SSH_STRING_LEN.toNat ∧ length.toNat = n := by
  unfold checkedSshStringLength
  -- a longer string is refused before its buffer is allocated
  split_ifs with h
  · have hlt : MAX_SSH_STRING_LEN.toNat < length.toNat := UInt64.lt_iff_toNat_lt.mp h
    constructor
    · intro h
      cases h
    · rintro ⟨hle, -⟩
      omega
  · have hle : length.toNat ≤ MAX_SSH_STRING_LEN.toNat := UInt64.le_iff_toNat_le.mp (by
      exact UInt64.not_lt.mp h)
    constructor
    · intro h
      cases h
      exact ⟨hle, rfl⟩
    · rintro ⟨-, rfl⟩
      rfl

theorem lift_eq_ok {α : Type} {x : Except Error α} {a : α} :
    ((bytesSource ending ofProto).lift x).run input = .ok (a, rest) ↔ x = .ok a ∧ input = rest := by
  cases x with
  | error e =>
    constructor
    · intro h
      cases h
    · rintro ⟨h, -⟩
      cases h
  | ok b =>
    constructor
    · intro h
      obtain ⟨rfl, rfl⟩ := run_pure_eq_ok.mp h
      exact ⟨rfl, rfl⟩
    · rintro ⟨h, rfl⟩
      cases h
      rfl

theorem reads_readSshBytesFrom {pre : List UInt8} (h : IsSshBytes pre bytes) :
    Reads (readSshBytesFrom (bytesSource ending ofProto)) pre bytes := by
  obtain ⟨lengthBytes, rfl, hvar, hle⟩ := h
  have hto := hle.toNat_length
  have hlen := reads_readVarIntFrom ending ofProto (v := UInt64.ofNat bytes.length) (by rwa [hto])
  have hcheck : checkedSshStringLength (UInt64.ofNat bytes.length) = .ok bytes.length :=
    checkedSshStringLength_eq_ok.mpr ⟨by rwa [hto], hto⟩
  refine reads_bind hlen ?_
  rw [hcheck]
  refine reads_bind (p := []) (reads_pure bytes.length) ?_
  exact reads_bind_pure (f := fun out : { xs : List UInt8 // xs.length = bytes.length } => out.val)
    (reads_readExact ending bytes rfl)

theorem readSshBytesFrom_sound
    (h : (readSshBytesFrom (bytesSource ending ofProto)).run input = .ok (bytes, rest)) :
    ∃ pre, input = pre ++ rest ∧ IsSshBytes pre bytes := by
  -- length, check, bytes
  obtain ⟨length, mid, hvar, h⟩ := run_bind_eq_ok.mp h
  obtain ⟨n, mid', hlift, h⟩ := run_bind_eq_ok.mp h
  obtain ⟨out, rest', hout, h⟩ := run_bind_eq_ok.mp h
  obtain ⟨rfl, rfl⟩ := run_pure_eq_ok.mp h
  obtain ⟨lengthBytes, rfl, hlen⟩ := readVarIntFrom_sound ending ofProto hvar
  obtain ⟨hcheck, rfl⟩ := (lift_eq_ok ending ofProto).mp hlift
  obtain ⟨hle, hn⟩ := checkedSshStringLength_eq_ok.mp hcheck
  have hmid := readExact_eq_ok.mp hout
  have hlength := out.property
  refine ⟨lengthBytes ++ out.val, ?_, lengthBytes, rfl, ?_, ?_⟩
  · rw [hmid, List.append_assoc]
  · rw [hlength, ← hn]
    exact hlen
  · show out.val.length ≤ _
    omega

end Readers

/-! ## The varint writer -/

/-- The bytes `append_var_int` appends for a value it can encode. -/
def varIntBytes (value : UInt64) : List UInt8 :=
  match appendVarInt [] value with
  | .ok bytes => bytes
  | .error _ => []

variable {value : UInt64} {bytes : List UInt8}

theorem appendVarInt_eq (h : value ≤ MAX_VARINT) (out : List UInt8) :
    appendVarInt out value = .ok (out ++ varIntBytes value) := by
  unfold varIntBytes appendVarInt
  split_ifs with h₁ h₂ h₃ h₄
  · rfl
  · rfl
  · rfl
  · rfl
  · exact absurd h h₄

/-- The writer panics on every value that has no encoding. -/
theorem appendVarInt_eq_ok {out : List UInt8} : appendVarInt out value = .ok bytes ↔
    value ≤ MAX_VARINT ∧ bytes = out ++ varIntBytes value := by
  constructor
  · intro h
    have hle : value ≤ MAX_VARINT := by
      by_contra hgt
      have hbig : ∀ limit, limit ≤ MAX_VARINT → ¬value ≤ limit :=
        fun limit hlimit hvalue => hgt (UInt64.le_trans hvalue hlimit)
      rw [appendVarInt, if_neg (hbig _ (by decide)), if_neg (hbig _ (by decide)),
        if_neg (hbig _ (by decide)), if_neg (hbig _ (by decide))] at h
      cases h
    rw [appendVarInt_eq hle] at h
    exact ⟨hle, (Except.ok.inj h).symm⟩
  · rintro ⟨hle, rfl⟩
    exact appendVarInt_eq hle out

theorem varIntLen_eq (h : value ≤ MAX_VARINT) :
    varIntLen value = .ok (varIntBytes value).length := by
  unfold varIntBytes appendVarInt varIntLen
  split_ifs with h₁ h₂ h₃ h₄
  · rfl
  · rfl
  · rfl
  · rfl
  · exact absurd h h₄

/-- The writer emits an encoding of its value. -/
theorem isVarInt_varIntBytes (h : value ≤ MAX_VARINT) :
    IsVarInt (varIntBytes value) value.toNat := by
  have hle : value.toNat ≤ 4611686018427387903 := UInt64.le_iff_toNat_le.mp h
  -- the bytes below the first one, from the last one up
  have hlast : beNat [value.toUInt8] = value.toNat % 256 ^ 1 := by
    rw [beNat, UInt64.toNat_toUInt8]
    simp [beNat]
  unfold varIntBytes appendVarInt
  split_ifs with h₁ h₂ h₃ h₄
  · have h₁ : value.toNat ≤ 63 := UInt64.le_iff_toNat_le.mp h₁
    refine isVarInt_cons (k := 0) (by decide) rfl (by simp only [List.length_nil]; omega) ?_ ?_
    · rw [UInt64.toNat_toUInt8]
      simp only [List.length_nil]
      omega
    · exact (Nat.mod_one _).symm
  · have h₂ : value.toNat ≤ 16383 := UInt64.le_iff_toNat_le.mp h₂
    have hv : value.toNat < 64 * 256 ^ 1 := by omega
    exact isVarInt_cons (k := 1) (by decide) rfl hv
      (toNat_shiftRight_or_width value 8 1 1 0x40 rfl (by decide) rfl hv) hlast
  · have h₃ : value.toNat ≤ 1073741823 := UInt64.le_iff_toNat_le.mp h₃
    have hv : value.toNat < 64 * 256 ^ 3 := by omega
    have b₁ := beNat_cons (toNat_shiftRight_byte value 8 1 rfl (by decide)) hlast
    have b₂ := beNat_cons (toNat_shiftRight_byte value 16 2 rfl (by decide)) b₁
    exact isVarInt_cons (k := 2) (by decide) rfl hv
      (toNat_shiftRight_or_width value 24 3 2 0x80 rfl (by decide) rfl hv) b₂
  · have hv : value.toNat < 64 * 256 ^ 7 := by omega
    have b₁ := beNat_cons (toNat_shiftRight_byte value 8 1 rfl (by decide)) hlast
    have b₂ := beNat_cons (toNat_shiftRight_byte value 16 2 rfl (by decide)) b₁
    have b₃ := beNat_cons (toNat_shiftRight_byte value 24 3 rfl (by decide)) b₂
    have b₄ := beNat_cons (toNat_shiftRight_byte value 32 4 rfl (by decide)) b₃
    have b₅ := beNat_cons (toNat_shiftRight_byte value 40 5 rfl (by decide)) b₄
    have b₆ := beNat_cons (toNat_shiftRight_byte value 48 6 rfl (by decide)) b₅
    exact isVarInt_cons (k := 3) (by decide) rfl hv
      (toNat_shiftRight_or_width value 56 7 3 0xc0 rfl (by decide) rfl hv) b₆
  · exact absurd h h₄

/-- The writer's encoding is the shortest one. -/
theorem length_varIntBytes_le (value : UInt64) : (varIntBytes value).length ≤ 8 := by
  rw [varIntBytes, appendVarInt]
  split_ifs <;> exact Nat.le_of_ble_eq_true rfl

/-- The length of every string that has an encoding is a number that has one. -/
theorem ofNat_length_le (h : bytes.length < 2 ^ 62) : UInt64.ofNat bytes.length ≤ MAX_VARINT := by
  rw [UInt64.le_iff_toNat_le, UInt64.toNat_ofNat_of_lt' (Nat.lt_trans h (by decide))]
  exact Nat.le_pred_of_lt h

theorem length_varIntBytes_le_of_isVarInt {pre : List UInt8}
    (h : IsVarInt pre value.toNat) : (varIntBytes value).length ≤ pre.length := by
  have hpos : 0 < pre.length := List.length_pos_iff.mpr h.ne_nil
  unfold varIntBytes appendVarInt
  split_ifs with h₁ h₂ h₃ h₄
  · exact hpos
  · have h₁ : ¬value.toNat ≤ 63 := fun hle => h₁ (UInt64.le_iff_toNat_le.mpr hle)
    exact h.two_mul_le_length (k := 0) (by rw [valueBits]; omega)
  · have h₂ : ¬value.toNat ≤ 16383 := fun hle => h₂ (UInt64.le_iff_toNat_le.mpr hle)
    exact h.two_mul_le_length (k := 1) (by rw [valueBits]; omega)
  · have h₃ : ¬value.toNat ≤ 1073741823 := fun hle => h₃ (UInt64.le_iff_toNat_le.mpr hle)
    exact h.two_mul_le_length (k := 2) (by rw [valueBits]; omega)
  · exact Nat.zero_le _

/-! ## The string writer -/

/-- The bytes `append_ssh_bytes` appends. -/
def sshBytes (bytes : List UInt8) : List UInt8 :=
  varIntBytes (UInt64.ofNat bytes.length) ++ bytes

theorem SshBytesOk.length_le (h : SshBytesOk bytes) : UInt64.ofNat bytes.length ≤ MAX_VARINT := by
  apply UInt64.le_iff_toNat_le.mpr
  rw [h.toNat_length]
  exact Nat.le_trans h (by decide)

/-- The writer has no limit of its own below that of the length prefix. -/
theorem appendSshBytes_eq_of_le (h : UInt64.ofNat bytes.length ≤ MAX_VARINT) (out : List UInt8) :
    appendSshBytes out bytes = .ok (out ++ sshBytes bytes) := by
  unfold appendSshBytes
  rw [appendVarInt_eq h, sshBytes, ← List.append_assoc]
  rfl

theorem appendSshBytes_eq_ok {out result : List UInt8} : appendSshBytes out bytes = .ok result ↔
    UInt64.ofNat bytes.length ≤ MAX_VARINT ∧ result = out ++ sshBytes bytes := by
  constructor
  · intro h
    have hle : UInt64.ofNat bytes.length ≤ MAX_VARINT := by
      obtain ⟨prefixed, happend, -⟩ := bind_eq_ok.mp h
      exact (appendVarInt_eq_ok.mp happend).1
    rw [appendSshBytes_eq_of_le hle] at h
    exact ⟨hle, (Except.ok.inj h).symm⟩
  · rintro ⟨hle, rfl⟩
    exact appendSshBytes_eq_of_le hle out

theorem sshStringLen_eq_of_le (h : UInt64.ofNat bytes.length ≤ MAX_VARINT) :
    sshStringLen bytes = .ok (sshBytes bytes).length := by
  unfold sshStringLen
  rw [varIntLen_eq h, sshBytes, List.length_append]
  rfl

theorem appendSshBytes_eq (h : SshBytesOk bytes) (out : List UInt8) :
    appendSshBytes out bytes = .ok (out ++ sshBytes bytes) :=
  appendSshBytes_eq_of_le h.length_le out

theorem sshStringLen_eq (h : SshBytesOk bytes) : sshStringLen bytes = .ok (sshBytes bytes).length :=
  sshStringLen_eq_of_le h.length_le

theorem isSshBytes_sshBytes (h : SshBytesOk bytes) : IsSshBytes (sshBytes bytes) bytes := by
  have hvar := isVarInt_varIntBytes h.length_le
  rw [h.toNat_length] at hvar
  exact ⟨_, rfl, hvar, h⟩

end Ssh3.Proto
