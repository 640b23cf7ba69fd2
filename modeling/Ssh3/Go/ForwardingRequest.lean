/-
  Ssh3.Go.ForwardingRequest

  `ParseForwardingRequest` of `message/channel_request.go`, and what `Write` makes of a request
  that forwards a port.

  `Write` puts the family before the protocol, copies the two numbers over the address of the
  request instead of the address into the slice, and counts that copy: it returns 6 for every
  request, with two bytes of the slice left as they were.  The parser reads what the Rust
  encoder writes.
-/

import Ssh3.Go.Forwarding
import Ssh3.Go.MessageSpec
import Ssh3.Proto.MessageCodec

namespace Ssh3.Go

open Fallible Fragments

def SSHProtocolUDP : UInt64 := 0
def SSHForwardingProtocolTCP : UInt64 := 1

/-- `_, err = buf.Read(p)` for a new buffer `p` of `n` bytes, by a caller that goes on after an
    `io.EOF` -/
def streamReadUnlessEof (n : Nat) : GoM GoStream (List UInt8 × Option GoError) := fun s =>
  match s.read n with
  | ((bytes, none), rest) => .ok (.ok (bytes ++ List.replicate (n - bytes.length) 0, none), rest)
  | ((bytes, some err), rest) =>
    if err = .eof then
      .ok (.ok (bytes ++ List.replicate (n - bytes.length) 0, some err), rest)
    else .ok (.error err, rest)

/-- The error is returned beside the request. -/
def parseForwardingRequest : GoM GoStream (ForwardingRequest × Option GoError) := do
  let protocol ← readVarIntWith streamReadByte
  if protocol ≠ SSHForwardingProtocolTCP ∧ protocol ≠ SSHProtocolUDP then
    throw (.new ("invalid protocol number: " ++ toString protocol.toNat))
  let addressFamily ← readVarIntWith streamReadByte
  match addressLength addressFamily with
  | .error err => throw err
  | .ok length =>
    let ipAddress ← streamRead length
    let (portBuf, err) ← streamReadUnlessEof 2
    return ({ protocol, addressFamily, ipAddress, port := bigEndianUint16 portBuf }, err)

/-! ## Requests for an address -/

/-- A request with a protocol, and an address of the length its family says. -/
structure ValidForwardingRequest extends ForwardingRequest where
  protocol_valid : protocol = SSHForwardingProtocolTCP ∨ protocol = SSHProtocolUDP
  address_valid : addressFamily = SSHAFIpv4 ∧ ipAddress.length = 4 ∨
    addressFamily = SSHAFIpv6 ∧ ipAddress.length = 16

namespace ValidForwardingRequest

/-- The request with the same values on the Rust side -/
def rust (r : ValidForwardingRequest) : Proto.ForwardingRequest where
  protocol := if r.protocol = SSHForwardingProtocolTCP then .tcp else .udp
  ipAddress :=
    if h : r.ipAddress.length = 4 then .v4 ⟨r.ipAddress, h⟩
    else .v6 ⟨r.ipAddress, by have := r.address_valid; omega⟩
  port := r.port

theorem protocol_rust (r : ValidForwardingRequest) : r.rust.protocol.asU64 = r.protocol := by
  unfold rust
  rcases r.protocol_valid with h | h
  · simp only [h, if_true]
    rfl
  · rw [h]
    rfl

theorem family_rust (r : ValidForwardingRequest) :
    (Proto.ForwardingAddressFamily.fromIp r.rust.ipAddress).asU64 = r.addressFamily := by
  unfold rust
  rcases r.address_valid with ⟨hfamily, hlength⟩ | ⟨hfamily, hlength⟩
  · rw [hfamily]
    simp only [dif_pos hlength]
    rfl
  · rw [hfamily]
    simp only [dif_neg (show ¬r.ipAddress.length = 4 by omega)]
    rfl

theorem octets_rust (r : ValidForwardingRequest) : r.rust.ipAddress.octets = r.ipAddress := by
  unfold rust
  by_cases h : r.ipAddress.length = 4
  · simp only [dif_pos h]
    rfl
  · simp only [dif_neg h]
    rfl

/-- A slice of `Length` bytes to write the request into -/
abbrev Slice (r : ValidForwardingRequest) :=
  { slice : List UInt8 // r.length = .ok slice.length }

/-- `Write` returns `Length` and leaves the request as it is, its bytes are those of the Rust
    encoder, and the parser gives the request back. -/
def RoundTrips (r : ValidForwardingRequest) (slice : r.Slice) : Prop :=
  ∃ buf, call r.write ⟨[], slice.val⟩ = .ok (.ok r.toForwardingRequest, buf) ∧
    r.length = .ok buf.filled.length ∧
    r.rust.encode [] = .ok (buf.filled ++ buf.free) ∧
    ∃ rest, call parseForwardingRequest (Stream.whole (buf.filled ++ buf.free) .eof) =
      .ok (.ok (r.toForwardingRequest, none), rest)

/-! ## Reading -/

section Parser

variable (rest : List UInt8)

theorem call_readVarInt_whole {v : UInt64} (h : v ≤ Proto.MAX_VARINT) :
    call (readVarIntWith streamReadByte) (Stream.whole (Proto.varIntBytes v ++ rest) .eof) =
      .ok (.ok v, Stream.whole rest .eof) := by
  obtain ⟨result, k, -, hbytes, hstream⟩ :=
    follows_readVarIntWith (Stream.whole (Proto.varIntBytes v ++ rest) .eof)
  have hread : call (readVarInt .eof) (Proto.varIntBytes v ++ rest) = .ok (.ok v, rest) :=
    accepts_readVarInt .eof (Proto.isVarInt_varIntBytes h) rest
  rw [Stream.bytes_whole] at hbytes
  rw [Stream.drop_whole] at hstream
  change call (readVarInt .eof) _ = _ at hbytes
  rw [hread] at hbytes
  injection hbytes with hbytes
  injection hbytes with hresult hrest
  rw [hstream, ← hresult, ← hrest]

theorem read_whole {bytes : List UInt8} (hne : bytes ≠ []) :
    (Stream.whole (bytes ++ rest) GoError.eof).read bytes.length =
      ((bytes, none), Stream.whole rest .eof) := by
  have hlength : min bytes.length (bytes ++ rest).length = bytes.length := by
    rw [List.length_append]
    omega
  have hno : ¬(bytes ++ rest = [] ∨ (Stream.whole (bytes ++ rest) GoError.eof).eager = true ∧
      (bytes ++ rest).length ≤ bytes.length) := by
    rintro (hnil | ⟨heager, -⟩)
    · exact hne (List.append_eq_nil_iff.mp hnil).1
    · cases heager
  rw [Stream.read_eq, Stream.readLength_whole, Stream.bytes_whole, hlength, if_neg hno,
    Stream.drop_whole, List.take_left, List.drop_left]

theorem call_streamRead_whole {bytes : List UInt8} (hne : bytes ≠ []) :
    call (streamRead bytes.length) (Stream.whole (bytes ++ rest) .eof) =
      .ok (.ok bytes, Stream.whole rest .eof) := by
  have hread := read_whole rest hne
  simp only [call, ExceptT.run, StateT.run, streamRead, hread, Nat.sub_self, List.replicate_zero,
    List.append_nil]

theorem call_streamReadUnlessEof_whole {bytes : List UInt8} (hne : bytes ≠ []) :
    call (streamReadUnlessEof bytes.length) (Stream.whole (bytes ++ rest) .eof) =
      .ok (.ok (bytes, none), Stream.whole rest .eof) := by
  have hread := read_whole rest hne
  simp only [call, ExceptT.run, StateT.run, streamReadUnlessEof, hread, Nat.sub_self,
    List.replicate_zero, List.append_nil]

end Parser

theorem bigEndianUint16_toBeBytes (port : UInt16) :
    bigEndianUint16 (Proto.toBeBytes port) = port := by
  rw [bigEndianUint16, UInt16.or_comm]
  exact Proto.fromBeBytes_toBeBytes port

theorem protocol_le (r : ValidForwardingRequest) : r.protocol ≤ Proto.MAX_VARINT := by
  rcases r.protocol_valid with h | h
  all_goals
    rw [h]
    decide

theorem addressFamily_le (r : ValidForwardingRequest) : r.addressFamily ≤ Proto.MAX_VARINT := by
  rcases r.address_valid with ⟨h, -⟩ | ⟨h, -⟩
  all_goals
    rw [h]
    decide

theorem addressLength_eq (r : ValidForwardingRequest) :
    addressLength r.addressFamily = .ok r.ipAddress.length := by
  rcases r.address_valid with ⟨hfamily, hlength⟩ | ⟨hfamily, hlength⟩
  all_goals
    rw [hfamily, hlength]
    rfl

theorem four_le_length (r : ValidForwardingRequest) : 4 ≤ r.ipAddress.length := by
  have hvalid := r.address_valid
  omega

theorem ipAddress_ne_nil (r : ValidForwardingRequest) : r.ipAddress ≠ [] :=
  List.ne_nil_of_length_pos (Nat.lt_of_lt_of_le (by decide) r.four_le_length)

/-- The bytes of a request: the protocol, the family, the address and the port -/
def wire (r : ValidForwardingRequest) : List UInt8 :=
  Proto.varIntBytes r.protocol ++ (Proto.varIntBytes r.addressFamily ++
    (r.ipAddress ++ (Proto.toBeBytes r.port ++ [])))

theorem encode_rust (r : ValidForwardingRequest) : r.rust.encode [] = .ok r.wire := by
  have hport : r.rust.port = r.port := rfl
  rw [r.rust.coded.encode, Proto.ForwardingRequest.wire, protocol_rust, family_rust, octets_rust,
    hport, wire]
  simp only [List.append_nil, List.nil_append, List.append_assoc]

theorem parseForwardingRequest_wire (r : ValidForwardingRequest) :
    call parseForwardingRequest (Stream.whole r.wire .eof) =
      .ok (.ok (r.toForwardingRequest, none), Stream.whole [] .eof) := by
  have hprotocol : ¬(r.protocol ≠ SSHForwardingProtocolTCP ∧ r.protocol ≠ SSHProtocolUDP) :=
    fun h => r.protocol_valid.elim h.1 h.2
  have hport : call (streamReadUnlessEof 2) (Stream.whole (Proto.toBeBytes r.port ++ []) .eof) =
      .ok (.ok (Proto.toBeBytes r.port, none), Stream.whole [] .eof) :=
    call_streamReadUnlessEof_whole [] (show Proto.toBeBytes r.port ≠ [] from List.cons_ne_nil _ _)
  rw [parseForwardingRequest, wire, call_bind_of_ok (call_readVarInt_whole _ r.protocol_le)]
  simp only [if_neg hprotocol]
  rw [call_bind_of_ok (call_readVarInt_whole _ r.addressFamily_le), addressLength_eq]
  simp only
  rw [call_bind_of_ok (call_streamRead_whole _ r.ipAddress_ne_nil),
    call_bind_of_ok hport]
  simp only [bigEndianUint16_toBeBytes]
  rfl

/-- The parser reads what the Rust encoder writes. -/
theorem parseForwardingRequest_encode (r : ValidForwardingRequest) :
    ∃ bytes, r.rust.encode [] = .ok bytes ∧
      call parseForwardingRequest (Stream.whole bytes .eof) =
        .ok (.ok (r.toForwardingRequest, none), Stream.whole [] .eof) :=
  ⟨r.wire, r.encode_rust, r.parseForwardingRequest_wire⟩

/-! ## Writing -/

theorem length_eq (r : ValidForwardingRequest) : r.length = .ok (r.ipAddress.length + 4) := by
  have hprotocol : varIntLen r.protocol = .ok 1 := by
    rcases r.protocol_valid with h | h
    all_goals
      rw [h]
      rfl
  have hfamily : varIntLen r.addressFamily = .ok 1 := by
    rcases r.address_valid with ⟨h, -⟩ | ⟨h, -⟩
    all_goals
      rw [h]
      rfl
  rw [ForwardingRequest.length, hprotocol, hfamily]
  show Except.ok (1 + 1 + r.ipAddress.length + 2) = _
  congr 1
  omega

theorem appendVarInts_eq (r : ValidForwardingRequest) :
    appendVarInts [r.addressFamily, r.protocol] =
      .ok [r.addressFamily.toUInt8, r.protocol.toUInt8] := by
  rcases r.protocol_valid with hprotocol | hprotocol
  all_goals
    rw [hprotocol]
    rcases r.address_valid with ⟨hfamily, -⟩ | ⟨hfamily, -⟩
    all_goals
      rw [hfamily]
      rfl

/-- The numbers in the wrong order and over the address, two bytes that are not written, and the
    port. -/
theorem call_write (r : ValidForwardingRequest) (slice : r.Slice) :
    call r.write ⟨[], slice.val⟩ =
      .ok (.ok { r.toForwardingRequest with
          ipAddress := [r.addressFamily.toUInt8, r.protocol.toUInt8] ++ r.ipAddress.drop 2 },
        ⟨[r.addressFamily.toUInt8, r.protocol.toUInt8] ++ (slice.val.drop 2).take 2 ++
          Proto.toBeBytes r.port, ((slice.val.drop 2).drop 2).drop 2⟩) := by
  have hip := r.four_le_length
  have hslice : slice.val.length = r.ipAddress.length + 4 :=
    Except.ok.inj (slice.property.symm.trans r.length_eq)
  have hmin : min r.ipAddress.length 2 = 2 := by omega
  have hfree : 2 ≤ (slice.val.drop 2).length := by
    rw [List.length_drop]
    omega
  have hport : 2 ≤ ((slice.val.drop 2).drop 2).length := by
    rw [List.length_drop, List.length_drop]
    omega
  rw [ForwardingRequest.write, call_bind_of_ok (call_checkLength slice.property (Nat.le_refl _)),
    appendVarInts_eq, call_bind_of_ok (call_orPanic_ok _ _),
    call_bind_of_ok (writes_copy _ _ (by show 2 ≤ slice.val.length; omega))]
  -- the second copy goes over the address, and skips as many bytes of the slice
  simp only [List.length_cons, List.length_nil, Nat.zero_add, hmin]
  rw [call_bind_of_ok (call_get _), if_neg (Nat.not_lt.mpr hfree)]
  have hcopy := writes_copy (Proto.toBeBytes r.port)
    ⟨[r.addressFamily.toUInt8, r.protocol.toUInt8] ++ (slice.val.drop 2).take 2,
      (slice.val.drop 2).drop 2⟩ hport
  rw [call_bind_of_ok (call_set _ _), call_bind_of_ok (call_freeLen _),
    if_neg (Nat.not_lt.mpr hport)]
  exact call_bind_of_ok hcopy

/-- **Forward-port requests.**  No valid request is read back from what `Write` leaves, since it
    has no place for the address. -/
theorem not_roundTrips (r : ValidForwardingRequest) (slice : r.Slice) : ¬r.RoundTrips slice := by
  rintro ⟨buf, hwrite, hlength, -⟩
  have hip := r.four_le_length
  rw [call_write] at hwrite
  rw [← (Prod.mk.inj (Except.ok.inj hwrite)).2] at hlength
  -- six bytes are filled, and `Length` is at least eight
  have hfilled := Except.ok.inj (r.length_eq.symm.trans hlength)
  simp only [List.length_append, List.length_cons, List.length_nil, List.length_take,
    Proto.toBeBytes] at hfilled
  omega

/-- Forward TCP to port 80 of 127.0.0.1. -/
def loopback : ValidForwardingRequest where
  protocol := SSHForwardingProtocolTCP
  addressFamily := SSHAFIpv4
  ipAddress := [127, 0, 0, 1]
  port := 80
  protocol_valid := .inl rfl
  address_valid := .inl ⟨rfl, rfl⟩

theorem loopback_not_written :
    loopback.length = .ok 8 ∧
      loopback.rust.encode [] = .ok [1, 4, 127, 0, 0, 1, 0, 80] ∧
      call loopback.write ⟨[], List.replicate 8 0⟩ =
        .ok (.ok { loopback.toForwardingRequest with ipAddress := [4, 1, 0, 1] },
          ⟨[4, 1, 0, 0, 0, 80], [0, 0]⟩) ∧
      unread (call parseForwardingRequest (Stream.whole [4, 1, 0, 0, 0, 80, 0, 0] .eof)) =
        .ok (.error (.new "invalid protocol number: 4"), [1, 0, 0, 0, 80, 0, 0]) ∧
      ¬loopback.RoundTrips ⟨List.replicate 8 0, rfl⟩ := by
  have hwrite : call loopback.write ⟨[], List.replicate 8 0⟩ =
      .ok (.ok { loopback.toForwardingRequest with ipAddress := [4, 1, 0, 1] },
        ⟨[4, 1, 0, 0, 0, 80], [0, 0]⟩) := by decide +kernel
  refine ⟨rfl, by decide +kernel, hwrite, by decide +kernel, ?_⟩
  rintro ⟨buf, hroundTrip, -⟩
  rw [hwrite] at hroundTrip
  cases hroundTrip

end ValidForwardingRequest

end Ssh3.Go
