/-
  Ssh3.Proto.Wire

  `ssh3-proto/src/wire.rs`: varints, SSH strings and booleans.

  The readers are written once, over a `ByteSource`.  The crate's own
  functions read from a cursor over bytes (`cursorSource`); the two transport
  crates hold copies of `read_var_int`, `read_ssh_bytes` and `read_bool` that
  differ only in where the bytes come from and in how a codec error is wrapped,
  and instantiate the same definitions in their own modules.

  The encoders append to a byte vector and panic on a number that does not fit
  into 62 bits, so they return `Except Panic`.
-/

import Ssh3.Lib.Reader
import Ssh3.Lib.VarInt

namespace Ssh3.Proto

open StreamCodec VarInt

def MAX_VARINT_1 : UInt64 := 63
def MAX_VARINT_2 : UInt64 := 16383
def MAX_VARINT_4 : UInt64 := 1073741823
def MAX_VARINT_8 : UInt64 := 4611686018427387903

def MAX_VARINT : UInt64 := MAX_VARINT_8

/-- Resource limit for a single incoming SSH string, in every transport reader. -/
def MAX_SSH_STRING_LEN : UInt64 := 16 * 1024 * 1024

/-- The `std::io::ErrorKind`s a stream read can end with. -/
inductive IoError where
  | unexpectedEof
  | connectionReset
  | notConnected
  deriving DecidableEq, Repr

/-- The errors of `ssh3-proto` -/
inductive Error where
  | io (err : IoError)
  | invalidBool (value : UInt8)
  | invalidLength (length : UInt64)
  | unknownMessageType (kind : UInt64)
  | unknownRequestType (kind : List UInt8)
  | invalidForwardingProtocol (protocol : UInt64)
  | invalidAddressFamily (family : UInt64)
  deriving DecidableEq, Repr

/-- The panics of the encoder. -/
inductive Panic where
  /-- `append_var_int`: "{value:#x} doesn't fit into 62 bits" -/
  | appendVarInt (value : UInt64)
  /-- `var_int_len`: "value doesn't fit into 62 bits: {value}" -/
  | varIntLen (value : UInt64)
  deriving DecidableEq, Repr

/-! ## Reading -/

/-- Where a decoder takes its bytes from: how a buffer is filled, and how an error
    of this crate is wrapped in the source's own error type. -/
structure ByteSource (σ ε : Type) where
  readExact : (n : Nat) → StateT σ (Except ε) { xs : List UInt8 // xs.length = n }
  ofProto : Error → ε

/-- Bytes that are all there, followed by `ending`. -/
def bytesSource {ε : Type} (ending : ε) (ofProto : Error → ε) : ByteSource (List UInt8) ε where
  readExact := StreamCodec.readExact ending
  ofProto := ofProto

section Readers

variable {σ ε : Type} (src : ByteSource σ ε)

/-- The `?` operator on a result of this crate. -/
def ByteSource.lift {α : Type} : Except Error α → StateT σ (Except ε) α
  | .ok a => pure a
  | .error e => throw (src.ofProto e)

def readByteFrom : StateT σ (Except ε) UInt8 := do
  let byte ← src.readExact 1
  return single byte

/-- The first two bits say how many bytes there are. -/
def readVarIntFrom : StateT σ (Except ε) UInt64 := do
  let firstByte ← readByteFrom src
  let len := 1 <<< ((firstByte &&& 0xc0) >>> 6).toNat
  let b1 := firstByte &&& 0x3f
  if len = 1 then
    return b1.toUInt64
  let b2 ← readByteFrom src
  if len = 2 then
    return b2.toUInt64 + (b1.toUInt64 <<< 8)
  let b3 ← readByteFrom src
  let b4 ← readByteFrom src
  if len = 4 then
    return b4.toUInt64 + (b3.toUInt64 <<< 8) + (b2.toUInt64 <<< 16) + (b1.toUInt64 <<< 24)
  let b5 ← readByteFrom src
  let b6 ← readByteFrom src
  let b7 ← readByteFrom src
  let b8 ← readByteFrom src
  return b8.toUInt64 + (b7.toUInt64 <<< 8) + (b6.toUInt64 <<< 16) + (b5.toUInt64 <<< 24)
    + (b4.toUInt64 <<< 32) + (b3.toUInt64 <<< 40) + (b2.toUInt64 <<< 48) + (b1.toUInt64 <<< 56)

/-- Validate an untrusted wire length before allocating its buffer.  `usize` has 64
    bits, so the conversion that follows the check in the source cannot fail. -/
def checkedSshStringLength (length : UInt64) : Except Error Nat :=
  if length > MAX_SSH_STRING_LEN then
    .error (.invalidLength length)
  else
    .ok length.toNat

/-- A length and so many bytes -/
def readSshBytesFrom : StateT σ (Except ε) (List UInt8) := do
  let length ← readVarIntFrom src
  let length ← src.lift (checkedSshStringLength length)
  let out ← src.readExact length
  return out.val

def readBoolFrom : StateT σ (Except ε) Bool := do
  match ← readByteFrom src with
  | 0 => return false
  | 1 => return true
  | value => throw (src.ofProto (.invalidBool value))

end Readers

/-- `std::io::Cursor` over a byte slice, as the crate's own decoder is called. -/
def cursorSource : ByteSource (List UInt8) Error := bytesSource (.io .unexpectedEof) id

def readVarInt : Reader UInt8 Error UInt64 := readVarIntFrom cursorSource
def readSshBytes : Reader UInt8 Error (List UInt8) := readSshBytesFrom cursorSource
def readBool : Reader UInt8 Error Bool := readBoolFrom cursorSource

/-! ## Writing -/

/-- In as few bytes as can be -/
def appendVarInt (out : List UInt8) (value : UInt64) : Except Panic (List UInt8) :=
  if value ≤ MAX_VARINT_1 then
    .ok (out ++ [value.toUInt8])
  else if value ≤ MAX_VARINT_2 then
    .ok (out ++ [(value >>> 8).toUInt8 ||| 0x40, value.toUInt8])
  else if value ≤ MAX_VARINT_4 then
    .ok (out ++ [(value >>> 24).toUInt8 ||| 0x80, (value >>> 16).toUInt8,
      (value >>> 8).toUInt8, value.toUInt8])
  else if value ≤ MAX_VARINT_8 then
    .ok (out ++ [(value >>> 56).toUInt8 ||| 0xc0, (value >>> 48).toUInt8,
      (value >>> 40).toUInt8, (value >>> 32).toUInt8, (value >>> 24).toUInt8,
      (value >>> 16).toUInt8, (value >>> 8).toUInt8, value.toUInt8])
  else
    .error (.appendVarInt value)

def varIntLen (value : UInt64) : Except Panic Nat :=
  if value ≤ MAX_VARINT_1 then
    .ok 1
  else if value ≤ MAX_VARINT_2 then
    .ok 2
  else if value ≤ MAX_VARINT_4 then
    .ok 4
  else if value ≤ MAX_VARINT_8 then
    .ok 8
  else
    .error (.varIntLen value)

def appendSshBytes (out bytes : List UInt8) : Except Panic (List UInt8) := do
  let out ← appendVarInt out (UInt64.ofNat bytes.length)
  return out ++ bytes

def sshStringLen (bytes : List UInt8) : Except Panic Nat := do
  return (← varIntLen (UInt64.ofNat bytes.length)) + bytes.length

def writeBool (out : List UInt8) (value : Bool) : List UInt8 :=
  out ++ [value.toUInt8]

end Ssh3.Proto
