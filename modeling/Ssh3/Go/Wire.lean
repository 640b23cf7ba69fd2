/-
  Ssh3.Go.Wire

  `util/wire.go`: the Go implementation of varints and SSH strings.

  A Go function returning `(T, error)` is a computation that can fail; its
  `if err != nil { return zero, err }` is the monad's bind.  A Go `panic` is a
  third outcome.  Bytes are read with `io.ReadFull` everywhere, so a reader
  sees a byte string and the error the stream ends with.
-/

import Ssh3.Lib.Fallible
import Ssh3.Proto.Message

namespace Ssh3.Go

open Fallible

/-- The errors of the Go packages. -/
inductive GoError where
  /-- `io.EOF` -/
  | eof
  /-- `io.ErrUnexpectedEOF` -/
  | unexpectedEof
  /-- `io.ErrShortWrite` -/
  | shortWrite
  /-- `bufio.ErrAdvanceTooFar` -/
  | advanceTooFar
  /-- An error of the QUIC stream, such as a reset by the peer -/
  | stream (code : UInt64)
  /-- `util.InvalidSSHString` -/
  | invalidSSHString (reason : GoError)
  /-- "SSH string length %d exceeds %d" -/
  | sshStringTooLong (length : UInt64)
  /-- "SSH3 packet size %d outside allowed range [64, %d]" -/
  | packetSizeOutOfRange (size : UInt64)
  /-- "invalid request message type %s" -/
  | invalidRequestType (requestType : List UInt8)
  /-- "invalid address family: %d" -/
  | invalidAddressFamily (addressFamily : UInt64)
  /-- "buffer too small to write varint: %d < %d" -/
  | varIntBufferTooSmall (length needed : Nat)
  /-- "buffer too small to write message for channel request of type %T: %d < %d" -/
  | requestBufferTooSmall (requestType : List UInt8) (length needed : Nat)
  /-- `ChannelOpenFailure` -/
  | channelOpenFailure (reasonCode : UInt64) (errorMsg : List UInt8)
  /-- `MessageOnNonConfirmedChannel`; the message it holds is only printed -/
  | messageOnNonConfirmedChannel
  /-- `SentDatagramOnNonDatagramChannel` -/
  | sentDatagramOnNonDatagramChannel (channelID : UInt64)
  /-- `errors.New` with a constant text -/
  | new (text : String)
  deriving DecidableEq, Repr

/-- The panics of the Go packages. -/
inductive GoPanic where
  /-- `ParseMessage`: "not implemented" -/
  | notImplemented
  /-- `AppendVarInt`: "%#x doesn't fit into 62 bits" -/
  | appendVarInt (value : UInt64)
  /-- `VarIntLen`: "value doesn't fit into 62 bits: " -/
  | varIntLen (value : UInt64)
  /-- A method call on a nil interface -/
  | nilDereference
  | indexOutOfRange
  | sliceOutOfRange
  deriving DecidableEq, Repr

/-- A Go function over a state, with a result `(α, error)`. -/
abbrev GoM (σ α : Type) := Comp σ GoError GoPanic α

/-- A Go function that reads from a stream. -/
abbrev GoReader (α : Type) := GoM (List UInt8) α

def maxVarInt1 : UInt64 := 63
def maxVarInt2 : UInt64 := 16383
def maxVarInt4 : UInt64 := 1073741823
def maxVarInt8 : UInt64 := 4611686018427387903

/-- Bounds allocations controlled by a peer. -/
def MaxSSHStringLength : UInt64 := 16 * 1024 * 1024

/-! ## Reading -/

/-- `ReadVarInt`, with the `ReadByte` of any reader -/
def readVarIntWith {σ : Type} (readByte : GoM σ UInt8) : GoM σ UInt64 := do
  let firstByte ← readByte
  -- the first two bits of the first byte encode the length
  let len := 1 <<< ((firstByte &&& 0xc0) >>> 6).toNat
  let b1 := firstByte &&& (0xff - 0xc0)
  if len = 1 then
    return b1.toUInt64
  let b2 ← readByte
  if len = 2 then
    return b2.toUInt64 + (b1.toUInt64 <<< 8)
  let b3 ← readByte
  let b4 ← readByte
  if len = 4 then
    return b4.toUInt64 + (b3.toUInt64 <<< 8) + (b2.toUInt64 <<< 16) + (b1.toUInt64 <<< 24)
  let b5 ← readByte
  let b6 ← readByte
  let b7 ← readByte
  let b8 ← readByte
  return b8.toUInt64 + (b7.toUInt64 <<< 8) + (b6.toUInt64 <<< 16) + (b5.toUInt64 <<< 24)
    + (b4.toUInt64 <<< 32) + (b3.toUInt64 <<< 40) + (b2.toUInt64 <<< 48) + (b1.toUInt64 <<< 56)

section Readers

-- the error of the stream once its bytes are used up: `io.EOF` after a clean end
variable (ending : GoError)

/-- `io.ReadFull` into a buffer of `n` bytes: the stream's own error if not a single byte
    could be read, `io.ErrUnexpectedEOF` if an `io.EOF` cut the buffer short. -/
def readFull (n : Nat) : GoReader { xs : List UInt8 // xs.length = n } := fun input =>
  if h : n ≤ input.length then
    .ok (.ok ⟨input.take n, by rw [List.length_take]; omega⟩, input.drop n)
  else if input = [] then
    .ok (.error ending, [])
  else if ending = .eof then
    .ok (.error .unexpectedEof, [])
  else
    .ok (.error ending, [])

def readByte : GoReader UInt8 := do
  let b ← readFull ending 1
  return StreamCodec.single b

/-- `ReadVarInt` of this stream -/
def readVarInt : GoReader UInt64 := readVarIntWith (readByte ending)

/-- A length and so many bytes -/
def parseSSHString : GoReader (List UInt8) := do
  let length ← ExceptT.adapt GoError.invalidSSHString (readVarInt ending)
  if length > MaxSSHStringLength then
    throw (.invalidSSHString (.sshStringTooLong length))
  let out ← ExceptT.adapt GoError.invalidSSHString (readFull ending length.toNat)
  return out.val

/-- `binary.Read(buf, binary.BigEndian, &value)` for a `bool`: any byte but 0 is true. -/
def binaryReadBool : GoReader Bool := do
  let b ← readByte ending
  return b != 0

end Readers

/-! ## Writing -/

def appendVarInt (b : List UInt8) (i : UInt64) : Except GoPanic (List UInt8) :=
  if i ≤ maxVarInt1 then
    .ok (b ++ [i.toUInt8])
  else if i ≤ maxVarInt2 then
    .ok (b ++ [(i >>> 8).toUInt8 ||| 0x40, i.toUInt8])
  else if i ≤ maxVarInt4 then
    .ok (b ++ [(i >>> 24).toUInt8 ||| 0x80, (i >>> 16).toUInt8, (i >>> 8).toUInt8, i.toUInt8])
  else if i ≤ maxVarInt8 then
    .ok (b ++ [(i >>> 56).toUInt8 ||| 0xc0, (i >>> 48).toUInt8, (i >>> 40).toUInt8,
      (i >>> 32).toUInt8, (i >>> 24).toUInt8, (i >>> 16).toUInt8, (i >>> 8).toUInt8, i.toUInt8])
  else
    .error (.appendVarInt i)

def varIntLen (i : UInt64) : Except GoPanic Nat :=
  if i ≤ maxVarInt1 then
    .ok 1
  else if i ≤ maxVarInt2 then
    .ok 2
  else if i ≤ maxVarInt4 then
    .ok 4
  else if i ≤ maxVarInt8 then
    .ok 8
  else
    .error (.varIntLen i)

def sshStringLen (s : List UInt8) : Except GoPanic Nat := do
  return (← varIntLen (UInt64.ofNat s.length)) + s.length

/-- A byte slice that is being filled from the left: `buf[:consumed]` and `buf[consumed:]`.
    A function that is passed `buf[consumed:]` works on the same slice. -/
structure Buf where
  filled : List UInt8
  free : List UInt8
  deriving DecidableEq, Repr

/-- A function that fills a slice -/
abbrev BufWriter (α : Type) := GoM Buf α

/-- `len(buf[consumed:])` -/
def freeLen : BufWriter Nat := do
  return (← get).free.length

/-- `consumed += copy(buf[consumed:], src)`: copies what fits. -/
def copy (src : List UInt8) : BufWriter Unit := do
  let buf ← get
  let n := min buf.free.length src.length
  set (Buf.mk (buf.filled ++ src.take n) (buf.free.drop n))

/-- `buf[consumed] = b; consumed += 1` -/
def putByte (b : UInt8) : BufWriter Unit := do
  let buf ← get
  match buf.free with
  | [] => raise .indexOutOfRange
  | _ :: free => set (Buf.mk (buf.filled ++ [b]) free)

def writeSSHString (s : List UInt8) : BufWriter Unit := do
  let needed ← orPanic (sshStringLen s)
  let length ← freeLen
  if length < needed then
    throw (.varIntBufferTooSmall length needed)
  let buf ← orPanic (appendVarInt [] (UInt64.ofNat s.length))
  copy buf
  copy s

end Ssh3.Go
