/-
  Ssh3.Proto.Sources

  The readers of `ssh3-proto/src/wire.rs` and their copies in the transport crates are one
  function over different byte sources.  Over two sources that fill buffers in lockstep,
  they run in lockstep.  A stream that delivers its bytes in pieces is such a source, next
  to the bytes themselves.
-/

import Ssh3.Lib.Fragments
import Ssh3.Lib.Lockstep
import Ssh3.Proto.Message

namespace Ssh3.Proto

open Lockstep StreamCodec

/-- An error of the codec itself, not of the stream it reads from. -/
def Error.IsProtocol : Error → Prop
  | .io _ => False
  | _ => True

/-- Two sources that fill every buffer alike and wrap the errors of the codec in related ones. -/
structure SameSource {σ τ ε δ : Type} (R : σ → τ → Prop) (E : ε → δ → Prop)
    (src : ByteSource σ ε) (dst : ByteSource τ δ) : Prop where
  readExact : ∀ n, InStep R E (src.readExact n) (dst.readExact n)
  ofProto : ∀ err, err.IsProtocol → E (src.ofProto err) (dst.ofProto err)

/-- `quinn::RecvStream`: a stream whose reads give what has arrived.  `read_exact` reads until
    the buffer is full. -/
def pieceSource {ε : Type} (ofIo : IoError → ε) (ofProto : Error → ε) :
    ByteSource (Fragments.Stream UInt8 IoError) ε where
  readExact n := fun s => (s.readExact n).mapError ofIo
  ofProto := ofProto

/-- The stream holds these bytes before its end. -/
def Holds (ending : IoError) (s : Fragments.Stream UInt8 IoError) (bytes : List UInt8) : Prop :=
  s.bytes = bytes ∧ s.ending = ending

/-- A stream in pieces against its bytes, with endings and wrapped errors that are related. -/
theorem sameSource_pieceSource {ε δ : Type} {E : ε → δ → Prop} {ofIo : IoError → ε}
    {ofProto : Error → ε} {ending : IoError} {ending' : δ} {ofProto' : Error → δ}
    (hending : E (ofIo ending) ending')
    (hofProto : ∀ err, err.IsProtocol → E (ofProto err) (ofProto' err)) :
    SameSource (Holds ending) E (pieceSource ofIo ofProto) (bytesSource ending' ofProto') where
  readExact n := by
    rintro s _ ⟨rfl, rfl⟩
    show SameResult _ _ ((s.readExact n).mapError ofIo) _
    rw [Fragments.Stream.readExact_eq]
    simp only [bytesSource, StreamCodec.readExact, StateT.run]
    by_cases h : n ≤ s.bytes.length
    · rw [dif_pos h, dif_pos h]
      exact .ok _ ⟨Fragments.Stream.bytes_drop n s, rfl⟩
    · rw [dif_neg h, dif_neg h]
      exact .error hending
  ofProto := hofProto

/-- The same bytes, with endings and wrapped errors that are related -/
theorem sameSource_bytesSource {ε δ : Type} {E : ε → δ → Prop} {ending : ε} {ending' : δ}
    {ofProto : Error → ε} {ofProto' : Error → δ} (hending : E ending ending')
    (hofProto : ∀ err, err.IsProtocol → E (ofProto err) (ofProto' err)) :
    SameSource Eq E (bytesSource ending ofProto) (bytesSource ending' ofProto') where
  readExact n := by
    rintro s _ rfl
    simp only [bytesSource, StreamCodec.readExact, StateT.run]
    by_cases h : n ≤ s.length
    · rw [dif_pos h, dif_pos h]
      exact .ok _ rfl
    · rw [dif_neg h, dif_neg h]
      exact .error hending
  ofProto := hofProto

theorem checkedSshStringLength_isProtocol {length : UInt64} {err : Error}
    (h : checkedSshStringLength length = .error err) : err.IsProtocol := by
  unfold checkedSshStringLength at h
  split_ifs at h
  cases h
  trivial

theorem ForwardingProtocol.tryFrom_isProtocol {value : UInt64} {err : Error}
    (h : ForwardingProtocol.tryFrom value = .error err) : err.IsProtocol := by
  unfold ForwardingProtocol.tryFrom at h
  split at h
  · cases h
  · cases h
  · cases h
    trivial

theorem ForwardingAddressFamily.tryFrom_isProtocol {value : UInt64} {err : Error}
    (h : ForwardingAddressFamily.tryFrom value = .error err) : err.IsProtocol := by
  unfold ForwardingAddressFamily.tryFrom at h
  split at h
  · cases h
  · cases h
  · cases h
    trivial

section Readers

variable {σ τ ε δ α : Type} {R : σ → τ → Prop} {E : ε → δ → Prop} {src : ByteSource σ ε}
  {dst : ByteSource τ δ} (h : SameSource R E src dst)

include h

theorem lockstep_lift {x : Except Error α} (hx : ∀ err, x = .error err → err.IsProtocol) :
    InStep R E (src.lift x) (dst.lift x) := by
  cases x with
  | ok a => exact lockstep_pure a
  | error err => exact lockstep_throw (h.ofProto err (hx err rfl))

theorem lockstep_readByteFrom : InStep R E (readByteFrom src) (readByteFrom dst) :=
  lockstep_bind (h.readExact 1) fun _ => lockstep_pure _

theorem lockstep_readVarIntFrom : InStep R E (readVarIntFrom src) (readVarIntFrom dst) := by
  have hbyte := lockstep_readByteFrom h
  refine lockstep_bind hbyte fun b₁ => ?_
  refine lockstep_ite (lockstep_pure _) ?_
  refine lockstep_bind hbyte fun b₂ => ?_
  refine lockstep_ite (lockstep_pure _) ?_
  refine lockstep_bind hbyte fun b₃ => ?_
  refine lockstep_bind hbyte fun b₄ => ?_
  refine lockstep_ite (lockstep_pure _) ?_
  refine lockstep_bind hbyte fun b₅ => ?_
  refine lockstep_bind hbyte fun b₆ => ?_
  refine lockstep_bind hbyte fun b₇ => ?_
  refine lockstep_bind hbyte fun b₈ => ?_
  exact lockstep_pure _

theorem lockstep_readSshBytesFrom :
    InStep R E (readSshBytesFrom src) (readSshBytesFrom dst) := by
  refine lockstep_bind (lockstep_readVarIntFrom h) fun length => ?_
  refine lockstep_bind (lockstep_lift h fun _ => checkedSshStringLength_isProtocol) fun length => ?_
  exact lockstep_bind (h.readExact length) fun _ => lockstep_pure _

theorem lockstep_readBoolFrom : InStep R E (readBoolFrom src) (readBoolFrom dst) := by
  refine lockstep_bind (lockstep_readByteFrom h) fun byte => ?_
  split
  · exact lockstep_pure false
  · exact lockstep_pure true
  · exact lockstep_throw (h.ofProto _ trivial)

end Readers

end Ssh3.Proto
