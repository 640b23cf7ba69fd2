/-
  Ssh3.Go.WireSpec

  The Go readers and writers against the Rust ones: varints and SSH strings are
  accepted by both languages on exactly the same inputs, with the same value
  and the same remaining input, and both write the same bytes.  What
  `Ssh3.Proto.WireSpec` says about the format carries over through these lemmas.
-/

import Ssh3.Go.Wire
import Ssh3.Proto.WireSpec

namespace Ssh3.Go

open Fallible StreamCodec VarInt

/-! ## Readers -/

section Readers

variable (ending : GoError) {ε : Type} (eof : ε) (ofProto : Proto.Error → ε)

theorem sameLanguage_readFull (n : Nat) :
    SameLanguage (readFull ending n) (StreamCodec.readExact eof n) := by
  intro input
  simp only [StreamCodec.readExact, StateT.run, call, ExceptT.run, readFull]
  by_cases h : n ≤ input.length
  · simp only [dif_pos h]
  · simp only [dif_neg h]
    -- three errors, but an error in every case
    split_ifs
    · exact ⟨_, _, rfl⟩
    · exact ⟨_, _, rfl⟩
    · exact ⟨_, _, rfl⟩

theorem sameLanguage_readByte :
    SameLanguage (readByte ending) (Proto.readByteFrom (Proto.bytesSource eof ofProto)) :=
  sameLanguage_bind (sameLanguage_readFull ending eof 1) fun _ => sameLanguage_pure _

/-- Both languages read the same varints. -/
theorem sameLanguage_readVarInt :
    SameLanguage (readVarInt ending) (Proto.readVarIntFrom (Proto.bytesSource eof ofProto)) := by
  have hbyte := sameLanguage_readByte ending eof ofProto
  -- both functions read byte by byte and branch on the same width
  refine sameLanguage_bind hbyte fun b₁ => ?_
  refine sameLanguage_ite (fun _ => sameLanguage_pure _) fun _ => ?_
  refine sameLanguage_bind hbyte fun b₂ => ?_
  refine sameLanguage_ite (fun _ => sameLanguage_pure _) fun _ => ?_
  refine sameLanguage_bind hbyte fun b₃ => ?_
  refine sameLanguage_bind hbyte fun b₄ => ?_
  refine sameLanguage_ite (fun _ => sameLanguage_pure _) fun _ => ?_
  refine sameLanguage_bind hbyte fun b₅ => ?_
  refine sameLanguage_bind hbyte fun b₆ => ?_
  refine sameLanguage_bind hbyte fun b₇ => ?_
  refine sameLanguage_bind hbyte fun b₈ => ?_
  exact sameLanguage_pure _

/-- Both languages read the same SSH strings, up to the same limit. -/
theorem sameLanguage_parseSSHString :
    SameLanguage (parseSSHString ending)
      (Proto.readSshBytesFrom (Proto.bytesSource eof ofProto)) := by
  refine sameLanguage_bind ((sameLanguage_readVarInt ending eof ofProto).adapt _) fun length => ?_
  by_cases h : length > MaxSSHStringLength
  · have hcheck : Proto.checkedSshStringLength length = .error (.invalidLength length) := if_pos h
    intro input
    rw [hcheck, if_pos h]
    exact ⟨_, _, rfl⟩
  · have hcheck : Proto.checkedSshStringLength length = .ok length.toNat := if_neg h
    rw [hcheck, if_neg h]
    have hout := (sameLanguage_readFull ending eof length.toNat).adapt GoError.invalidSSHString
    exact sameLanguage_bind hout fun _ => sameLanguage_pure _

theorem accepts_readVarInt {pre : List UInt8} {v : UInt64} (h : IsVarInt pre v.toNat) :
    Accepts (readVarInt ending) pre v :=
  (sameLanguage_readVarInt ending () fun _ => ()).accepts (Proto.reads_readVarIntFrom _ _ h)

theorem readVarInt_sound {input rest : List UInt8} {v : UInt64}
    (h : call (readVarInt ending) input = .ok (.ok v, rest)) :
    ∃ pre, input = pre ++ rest ∧ IsVarInt pre v.toNat :=
  Proto.readVarIntFrom_sound () (fun _ => ())
    ((sameLanguage_readVarInt ending () fun _ => ()).reader_of_call h)

theorem accepts_parseSSHString {pre bytes : List UInt8} (h : Proto.IsSshBytes pre bytes) :
    Accepts (parseSSHString ending) pre bytes :=
  (sameLanguage_parseSSHString ending () fun _ => ()).accepts (Proto.reads_readSshBytesFrom _ _ h)

/-- Unlike Rust, Go takes every byte for a boolean. -/
theorem accepts_binaryReadBool (flag : UInt8) :
    Accepts (binaryReadBool ending) [flag] (flag != 0) :=
  accepts_bind_pure (f := fun b : UInt8 => b != 0)
    ((sameLanguage_readByte ending () fun _ => ()).accepts (Proto.reads_readByteFrom _ _ flag))

theorem binaryReadBool_sound {input rest : List UInt8} {value : Bool}
    (h : call (binaryReadBool ending) input = .ok (.ok value, rest)) :
    ∃ flag, input = flag :: rest ∧ value = (flag != 0) := by
  obtain ⟨flag, mid, hbyte, hpure⟩ := call_bind_eq_ok.mp h
  cases hpure
  have hrun := (sameLanguage_readByte ending () fun _ => ()).reader_of_call hbyte
  exact ⟨flag, (Proto.readByteFrom_eq_ok _ _).mp hrun, rfl⟩

theorem returns_readVarInt : Returns (readVarInt ending) :=
  (sameLanguage_readVarInt ending () fun _ => ()).returns

theorem returns_parseSSHString : Returns (parseSSHString ending) :=
  (sameLanguage_parseSSHString ending () fun _ => ()).returns

theorem returns_binaryReadBool : Returns (binaryReadBool ending) :=
  returns_bind (sameLanguage_readByte ending () fun _ => ()).returns fun _ => returns_pure _

/-! ## Errors of the readers -/

theorem fails_readByte : Fails (readByte ending) (· = ending) := by
  intro input err left h
  cases input with
  | nil =>
    cases h
    rfl
  | cons b input => cases h

/-- A varint is read byte by byte, so an `io.EOF` stays an `io.EOF`. -/
theorem fails_readVarInt : Fails (readVarInt ending) (· = ending) := by
  have hbyte := fails_readByte ending
  refine fails_bind hbyte fun b₁ => ?_
  refine fails_ite (fails_pure _) ?_
  refine fails_bind hbyte fun b₂ => ?_
  refine fails_ite (fails_pure _) ?_
  refine fails_bind hbyte fun b₃ => fails_bind hbyte fun b₄ => ?_
  refine fails_ite (fails_pure _) ?_
  refine fails_bind hbyte fun b₅ => fails_bind hbyte fun b₆ => ?_
  refine fails_bind hbyte fun b₇ => fails_bind hbyte fun b₈ => ?_
  exact fails_pure _

/-- Every error of a string is wrapped, so none of them is `io.EOF`. -/
theorem parseSSHString_error {input rest : List UInt8} {err : GoError}
    (h : call (parseSSHString ending) input = .ok (.error err, rest)) :
    ∃ reason, err = .invalidSSHString reason := by
  unfold parseSSHString at h
  rcases call_bind_eq_error h with hlength | ⟨length, mid, -, h⟩
  · exact call_adapt_eq_error hlength
  · simp only at h
    split_ifs at h with hlong
    · cases h
      exact ⟨_, rfl⟩
    · rcases call_bind_eq_error h with hout | ⟨out, mid', -, hpure⟩
      · exact call_adapt_eq_error hout
      · cases hpure

end Readers

/-! ## Writers -/

/-- Both languages append the same bytes for a number, and panic on the same numbers. -/
theorem appendVarInt_eq_proto (b : List UInt8) (i : UInt64) :
    appendVarInt b i = (Proto.appendVarInt b i).mapError fun _ => .appendVarInt i := by
  unfold appendVarInt Proto.appendVarInt maxVarInt1 maxVarInt2 maxVarInt4 maxVarInt8
    Proto.MAX_VARINT_1 Proto.MAX_VARINT_2 Proto.MAX_VARINT_4 Proto.MAX_VARINT_8
  split_ifs <;> rfl

theorem varIntLen_eq_proto (i : UInt64) :
    varIntLen i = (Proto.varIntLen i).mapError fun _ => .varIntLen i := by
  unfold varIntLen Proto.varIntLen maxVarInt1 maxVarInt2 maxVarInt4 maxVarInt8
    Proto.MAX_VARINT_1 Proto.MAX_VARINT_2 Proto.MAX_VARINT_4 Proto.MAX_VARINT_8
  split_ifs <;> rfl

theorem appendVarInt_eq {i : UInt64} (h : i ≤ Proto.MAX_VARINT) (b : List UInt8) :
    appendVarInt b i = .ok (b ++ Proto.varIntBytes i) := by
  rw [appendVarInt_eq_proto, Proto.appendVarInt_eq h]
  rfl

theorem varIntLen_eq {i : UInt64} (h : i ≤ Proto.MAX_VARINT) :
    varIntLen i = .ok (Proto.varIntBytes i).length := by
  rw [varIntLen_eq_proto, Proto.varIntLen_eq h]
  rfl

theorem sshStringLen_eq {s : List UInt8} (h : UInt64.ofNat s.length ≤ Proto.MAX_VARINT) :
    sshStringLen s = .ok (Proto.sshBytes s).length := by
  unfold sshStringLen
  rw [varIntLen_eq h, Proto.sshBytes, List.length_append]
  rfl

/-- In a slice with enough room, `w` writes exactly `bytes`. -/
def Writes (w : BufWriter Unit) (bytes : List UInt8) : Prop :=
  ∀ buf : Buf, bytes.length ≤ buf.free.length →
    call w buf = .ok (.ok (), ⟨buf.filled ++ bytes, buf.free.drop bytes.length⟩)

theorem writes_bind {w : BufWriter Unit} {k : Unit → BufWriter Unit} {p q : List UInt8}
    (hw : Writes w p) (hk : Writes (k ()) q) : Writes (w >>= k) (p ++ q) := by
  intro buf hroom
  rw [List.length_append] at hroom
  rw [call_bind_of_ok (hw buf (by omega)), hk _ (by rw [List.length_drop]; omega)]
  simp only [List.append_assoc, List.drop_drop, List.length_append]

theorem call_freeLen (buf : Buf) : call freeLen buf = .ok (.ok buf.free.length, buf) := rfl

theorem writes_copy (src : List UInt8) : Writes (copy src) src := by
  intro buf hroom
  show Except.ok (Except.ok (), Buf.mk (buf.filled ++ src.take (min buf.free.length src.length))
    (buf.free.drop (min buf.free.length src.length))) = _
  rw [Nat.min_eq_right hroom, List.take_length]

theorem writes_putByte (b : UInt8) : Writes (putByte b) [b] := by
  rintro ⟨filled, free⟩ hroom
  cases free with
  | nil => simp at hroom
  | cons c free => rfl

theorem writes_orPanic {α : Type} {x : Except GoPanic α} {a : α} {k : α → BufWriter Unit}
    {bytes : List UInt8} (hx : x = .ok a) (hk : Writes (k a) bytes) :
    Writes (orPanic x >>= k) bytes := by
  subst hx
  exact hk

theorem writes_writeSSHString {s : List UInt8}
    (h : UInt64.ofNat s.length ≤ Proto.MAX_VARINT) :
    Writes (writeSSHString s) (Proto.sshBytes s) := by
  refine writes_orPanic (sshStringLen_eq h) ?_
  intro buf hroom
  have hlen : ¬buf.free.length < (Proto.sshBytes s).length := by omega
  -- past the length check, two copies
  have hcopies : Writes (do
      let bytes ← orPanic (appendVarInt [] (UInt64.ofNat s.length))
      copy bytes
      copy s) (Proto.sshBytes s) := by
    refine writes_orPanic (appendVarInt_eq h []) ?_
    exact writes_bind (writes_copy _) (writes_copy s)
  rw [call_bind_of_ok (call_freeLen buf), if_neg hlen]
  exact hcopies buf hroom

end Ssh3.Go
