/-
  Ssh3.Go.PaddedVarInt

  `AppendVarIntWithLen` of `util/wire.go`, and the varint functions of both languages side by
  side: as functions that either give a result or none they are the same, so what is shown
  for one language holds for the other.
-/

import Ssh3.Go.WireSpec
import Ssh3.Proto.PaddedVarInt

namespace Ssh3.Go

open Fallible StreamCodec VarInt
open Proto (PaddedPanic lowBytes)

def appendVarIntWithLen (b : List UInt8) (i : UInt64) (length : Nat) :
    Except (PaddedPanic GoPanic) (List UInt8) :=
  if length ≠ 1 ∧ length ≠ 2 ∧ length ≠ 4 ∧ length ≠ 8 then
    .error .invalidLength
  else
    match varIntLen i with
    | .error panic => .error (.inner panic)
    | .ok l =>
      if l = length then
        (appendVarInt b i).mapError .inner
      else if l > length then
        .error (.cannotEncode i length)
      else
        let b :=
          if length = 2 then b ++ [0b01000000]
          else if length = 4 then b ++ [0b10000000]
          else if length = 8 then b ++ [0b11000000]
          else b
        -- `for j := uint64(1); j < length-l; j++`
        let b := (List.range' 1 (length - l - 1)).foldl (fun b _ => b ++ [0]) b
        -- `for j := uint64(0); j < l; j++`
        .ok ((List.range l).foldl
          (fun b j => b ++ [(i >>> UInt64.ofNat (8 * (l - 1 - j))).toUInt8]) b)

/-- The loop counts up where the Rust loop counts down. -/
theorem foldl_shiftRight (i : UInt64) (l : Nat) (b : List UInt8) :
    (List.range l).foldl (fun b j => b ++ [(i >>> UInt64.ofNat (8 * (l - 1 - j))).toUInt8]) b =
      b ++ lowBytes i l := by
  induction l generalizing b with
  | zero => exact (List.append_nil b).symm
  | succ l ih =>
    have hshift : ∀ j, 8 * (l + 1 - 1 - (j + 1)) = 8 * (l - 1 - j) := by
      intro j
      omega
    rw [List.range_succ_eq_map, List.foldl_cons, List.foldl_map]
    simp only [Nat.succ_eq_add_one, hshift]
    rw [ih, lowBytes, List.append_assoc, List.singleton_append, Nat.sub_zero, Nat.add_sub_cancel,
      Nat.mul_comm, Proto.byteAt]

/-- Both languages write the same bytes in a given width, and panic on the same arguments. -/
theorem toOption_appendVarIntWithLen (b : List UInt8) (i : UInt64) (length : Nat) :
    (appendVarIntWithLen b i length).toOption =
      (Proto.appendVarIntWithLen b i length).toOption := by
  have hcheck : (length ≠ 1 ∧ length ≠ 2 ∧ length ≠ 4 ∧ length ≠ 8) ↔
      ¬(length = 1 ∨ length = 2 ∨ length = 4 ∨ length = 8) := by omega
  simp only [appendVarIntWithLen, Proto.appendVarIntWithLen, varIntLen_eq_proto,
    appendVarInt_eq_proto, foldl_shiftRight, Proto.foldl_byteAt]
  by_cases hlength : length = 1 ∨ length = 2 ∨ length = 4 ∨ length = 8
  · rw [if_neg (mt hcheck.mp (not_not_intro hlength)), if_neg (not_not_intro hlength)]
    cases Proto.varIntLen i with
    | error panic => rfl
    | ok l =>
      -- the two checks of the length come in the other order
      obtain hlt | heq | hgt := Nat.lt_trichotomy l length
      · have hlen : ¬l = length ∧ ¬l > length := by omega
        simp only [Except.mapError, if_neg hlen.1, if_neg hlen.2]
        rfl
      · have hgt : ¬l > length := by omega
        simp only [Except.mapError, if_pos heq, if_neg hgt]
        cases Proto.appendVarInt b i with
        | error panic => rfl
        | ok bytes => rfl
      · have hne : ¬l = length := by omega
        simp only [Except.mapError, if_neg hne, if_pos hgt]
        rfl
  · rw [if_pos (hcheck.mpr hlength), if_pos hlength]
    rfl

/-! ## Both languages -/

/-- The varint functions of one language.  A reader gives the value and the bytes it leaves;
    `none` is an error of the reader or a panic of the others. -/
structure VarIntFunctions where
  read : List UInt8 → Option (UInt64 × List UInt8)
  append : List UInt8 → UInt64 → Option (List UInt8)
  appendWithLen : List UInt8 → UInt64 → Nat → Option (List UInt8)
  len : UInt64 → Option Nat

/-- The value of a call that neither fails nor panics, and the state it leaves. -/
def succeeded {σ e π α : Type} : Except π (Except e α × σ) → Option (α × σ)
  | .ok (.ok value, rest) => some (value, rest)
  | _ => none

def rustVarInts : VarIntFunctions where
  read input := (Proto.readVarInt.run input).toOption
  append out value := (Proto.appendVarInt out value).toOption
  appendWithLen out value length := (Proto.appendVarIntWithLen out value length).toOption
  len value := (Proto.varIntLen value).toOption

/-- A stream that ends with the error `ending` once its bytes are used up. -/
def goVarInts (ending : GoError) : VarIntFunctions where
  read input := succeeded (call (readVarInt ending) input)
  append b i := (appendVarInt b i).toOption
  appendWithLen b i length := (appendVarIntWithLen b i length).toOption
  len i := (varIntLen i).toOption

namespace VarIntFunctions

/-- `bytes` are what `v` is written as: whatever is in front of them and behind them, they are
    appended to the one and read back from the other. -/
structure WritesAs (funs : VarIntFunctions) (write : List UInt8 → Option (List UInt8))
    (v : UInt64) (bytes : List UInt8) : Prop where
  written : ∀ out, write out = some (out ++ bytes)
  readBack : ∀ rest, funs.read (bytes ++ rest) = some (v, rest)

/-- What is asked of the functions of a language -/
structure Correct (funs : VarIntFunctions) : Prop where
  /-- Exactly `var_int_len` bytes are written, and every encoding that is read as the value
      has as many. -/
  shortest : ∀ v : UInt64, v.toNat ≤ 2 ^ 62 - 1 → ∃ bytes,
    funs.WritesAs (funs.append · v) v bytes ∧ funs.len v = some bytes.length ∧
      ∀ pre rest, funs.read (pre ++ rest) = some (v, rest) → bytes.length ≤ pre.length
  /-- Every width with enough room is filled. -/
  padded : ∀ v : UInt64, v.toNat ≤ 2 ^ 62 - 1 → ∀ w ∈ [1, 2, 4, 8], ∀ n, funs.len v = some n →
    n ≤ w → ∃ bytes, bytes.length = w ∧ funs.WritesAs (funs.appendWithLen · v w) v bytes
  bounded : ∀ input v rest, funs.read input = some (v, rest) → v.toNat ≤ 2 ^ 62 - 1

end VarIntFunctions

theorem succeeded_of_sameLanguage {m : GoReader UInt64} {r : Reader UInt8 Proto.Error UInt64}
    (h : SameLanguage m r) (input : List UInt8) :
    succeeded (call m input) = (r.run input).toOption := by
  cases hr : r.run input with
  | error err =>
    obtain ⟨goErr, rest, hcall⟩ := h.of_error hr
    rw [hcall]
    rfl
  | ok p =>
    rw [h.of_ok hr]
    rfl

theorem goVarInts_eq (ending : GoError) : goVarInts ending = rustVarInts := by
  have hread : ∀ input, succeeded (call (readVarInt ending) input) =
      (Proto.readVarInt.run input).toOption :=
    succeeded_of_sameLanguage (sameLanguage_readVarInt ending _ _)
  have happend : ∀ b i, (appendVarInt b i).toOption = (Proto.appendVarInt b i).toOption := by
    intro b i
    rw [appendVarInt_eq_proto]
    cases Proto.appendVarInt b i with
    | error panic => rfl
    | ok bytes => rfl
  have hlen : ∀ i, (varIntLen i).toOption = (Proto.varIntLen i).toOption := by
    intro i
    rw [varIntLen_eq_proto]
    cases Proto.varIntLen i with
    | error panic => rfl
    | ok n => rfl
  simp only [goVarInts, rustVarInts, hread, happend, toOption_appendVarIntWithLen, hlen]

theorem rustVarInts_read_eq_some {input rest : List UInt8} {v : UInt64} :
    rustVarInts.read input = some (v, rest) ↔ Proto.readVarInt.run input = .ok (v, rest) := by
  show (Proto.readVarInt.run input).toOption = _ ↔ _
  cases Proto.readVarInt.run input with
  | error err =>
    constructor
    · intro h
      cases h
    · intro h
      cases h
  | ok p =>
    show some p = some (v, rest) ↔ _
    rw [Option.some.injEq, Except.ok.injEq]

/-- An encoding that is read front to back is one of the format. -/
theorem isVarInt_of_read {pre rest : List UInt8} {v : UInt64}
    (h : rustVarInts.read (pre ++ rest) = some (v, rest)) : IsVarInt pre v.toNat := by
  obtain ⟨pre', happend, hvar⟩ :=
    Proto.readVarIntFrom_sound _ _ (rustVarInts_read_eq_some.mp h)
  rwa [List.append_cancel_right happend]

theorem read_of_isVarInt {bytes : List UInt8} {v : UInt64} (h : IsVarInt bytes v.toNat)
    (rest : List UInt8) : rustVarInts.read (bytes ++ rest) = some (v, rest) :=
  rustVarInts_read_eq_some.mpr (Proto.reads_readVarIntFrom _ _ h rest)

theorem rustVarInts_correct : rustVarInts.Correct where
  shortest v hv := by
    have hle : v ≤ Proto.MAX_VARINT := UInt64.le_iff_toNat_le.mpr hv
    refine ⟨Proto.varIntBytes v, ⟨fun out => ?_, ?_⟩, ?_, ?_⟩
    · show (Proto.appendVarInt out v).toOption = _
      rw [Proto.appendVarInt_eq hle]
      rfl
    · exact read_of_isVarInt (Proto.isVarInt_varIntBytes hle)
    · show (Proto.varIntLen v).toOption = _
      rw [Proto.varIntLen_eq hle]
      rfl
    · intro pre rest hread
      exact Proto.length_varIntBytes_le_of_isVarInt (isVarInt_of_read hread)
  padded v hv w hw n hlen hnw := by
    have hle : v ≤ Proto.MAX_VARINT := UInt64.le_iff_toNat_le.mpr hv
    have hlen : Proto.varIntLen v = .ok n := by
      have hbytes := Proto.varIntLen_eq hle
      have hsome : (Proto.varIntLen v).toOption = some n := hlen
      rw [hbytes] at hsome ⊢
      rw [Option.some.inj hsome]
    obtain ⟨bytes, hlength, hvar, hwrite⟩ := Proto.appendVarIntWithLen_spec hw hlen hle hnw
    refine ⟨bytes, hlength, fun out => ?_, read_of_isVarInt hvar⟩
    show (Proto.appendVarIntWithLen out v w).toOption = _
    rw [hwrite]
    rfl
  bounded input v rest hread := by
    obtain ⟨pre, -, hvar⟩ := Proto.readVarIntFrom_sound _ _ (rustVarInts_read_eq_some.mp hread)
    exact hvar.le_max

/-- **Variable-length integers.**  The functions of each language write as few bytes as can be,
    fill every width with room, and read back what they write; and those in Go do what those in
    Rust do, however the stream ends. -/
theorem varInts_correct_and_equal :
    rustVarInts.Correct ∧
      ∀ ending, (goVarInts ending).Correct ∧ goVarInts ending = rustVarInts := by
  refine ⟨rustVarInts_correct, fun ending => ?_⟩
  rw [goVarInts_eq]
  exact ⟨rustVarInts_correct, rfl⟩

end Ssh3.Go
