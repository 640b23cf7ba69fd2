/-
  Ssh3.Go.Forwarding

  `channel.go`: `buildForwardingChannelAdditionalBytes` and `parseForwardingHeader`, the
  target of a `direct-udp` or `direct-tcp` channel, the latter read from a stream that comes
  in pieces.

  The family is read with `ReadByte`, which fills its buffer.  The address and the port
  are each read with one `Read`, whose count is ignored: what it does not fill stays
  zero, and what it leaves is read as the next field.  The target read is the one that
  the bytes encode exactly when both reads happen to be whole.
-/

import Ssh3.Lib.Fragments
import Ssh3.Go.Wire

namespace Ssh3.Go

open Fallible Fragments

/-- A QUIC stream.  `quic-go` reports the end together with the last bytes if it knows it. -/
abbrev GoStream := Fragments.Stream UInt8 GoError

/-! ## Reading from a stream -/

/-- `StreamByteReader.ReadByte`: `io.ReadFull` into one byte is one `Read`, and drops an error
    that comes with the byte. -/
def streamReadByte : GoM GoStream UInt8 := fun s =>
  match s.read 1 with
  | ((b :: _, _), rest) => .ok (.ok b, rest)
  | (([], _), rest) => .ok (.error s.ending, rest)

/-- `_, err = buf.Read(p)` for a new buffer `p` of `n` bytes, and the contents of `p` -/
def streamRead (n : Nat) : GoM GoStream (List UInt8) := fun s =>
  match s.read n with
  | ((_, some err), rest) => .ok (.error err, rest)
  | ((bytes, none), rest) => .ok (.ok (bytes ++ List.replicate (n - bytes.length) 0), rest)

/-! ## The forwarding header -/

def SSHAFIpv4 : UInt64 := 4
def SSHAFIpv6 : UInt64 := 6

/-- Every address that is not four bytes long is sent as an IPv6 address. -/
def buildForwardingChannelAdditionalBytes (remoteAddr : List UInt8) (port : UInt16) :
    Except GoPanic (List UInt8) := do
  let addressFamily := if remoteAddr.length = 4 then SSHAFIpv4 else SSHAFIpv6
  let buf ← appendVarInt [] addressFamily
  return buf ++ remoteAddr ++ Proto.toBeBytes port

/-- The length of the buffer for the address -/
def addressLength (addressFamily : UInt64) : Except GoError Nat :=
  if addressFamily = SSHAFIpv4 then .ok 4
  else if addressFamily = SSHAFIpv6 then .ok 16
  else .error (.invalidAddressFamily addressFamily)

/-- `binary.BigEndian.Uint16`, on two bytes -/
def bigEndianUint16 (b : List UInt8) : UInt16 :=
  (b.getD 1 0).toUInt16 ||| ((b.getD 0 0).toUInt16 <<< 8)

/-- The two reads after the family -/
def readForwardingTarget (length : Nat) : GoM GoStream (List UInt8 × UInt16) := do
  let address ← streamRead length
  let portBuf ← streamRead 2
  return (address, bigEndianUint16 portBuf)

/-- The target in front of a forwarding channel -/
def parseForwardingHeader : GoM GoStream (List UInt8 × UInt16) := do
  let addressFamily ← readVarIntWith streamReadByte
  match addressLength addressFamily with
  | .error err => throw err
  | .ok length => readForwardingTarget length

/-! ## What the bytes encode -/

/-- The next `n` bytes, or the error that the stream ends with. -/
def takeBytes (ending : GoError) (n : Nat) : GoReader (List UInt8) := fun input =>
  if n ≤ input.length then .ok (.ok (input.take n), input.drop n)
  else .ok (.error ending, [])

/-- An address of the given length, and a port. -/
def forwardingTarget (ending : GoError) (length : Nat) : GoReader (List UInt8 × UInt16) := do
  let address ← takeBytes ending length
  let portBuf ← takeBytes ending 2
  return (address, bigEndianUint16 portBuf)

/-- The target that follows a channel header in a byte string. -/
def forwardingHeader (ending : GoError) : GoReader (List UInt8 × UInt16) := do
  let addressFamily ← readVarInt ending
  match addressLength addressFamily with
  | .error err => throw err
  | .ok length => forwardingTarget ending length

/-- The result of a call, with the bytes left unread. -/
def unread {α : Type} (result : Except GoPanic (Except GoError α × GoStream)) :
    Except GoPanic (Except GoError α × List UInt8) :=
  result.map fun (r, s) => (r, s.bytes)

@[simp] theorem unread_ok {α : Type} (r : Except GoError α) (s : GoStream) :
    unread (.ok (r, s)) = .ok (r, s.bytes) := rfl

/-! ## Reads that are whole -/

/-- The read of an address of `n` bytes and the read of a port give what the stream holds.  If
    it holds both fields, each read is whole and the end is not reported with the last of
    them; if it is cut short, the reads come to its end. -/
def ReadsWhole (s : GoStream) (n : Nat) : Prop :=
  let first := s.readLength n
  let second := (s.drop first).readLength 2
  if n + 2 ≤ s.bytes.length then
    first = n ∧ second = 2 ∧ (s.eager → n + 2 < s.bytes.length)
  else s.bytes.length = first ∨ (s.eager ∧ s.bytes.length = first + second)

/-- If a known family follows, the reads after it are whole. -/
def FieldsWhole (s : GoStream) : Prop :=
  ∀ addressFamily rest n,
    call (readVarInt s.ending) s.bytes = .ok (.ok addressFamily, rest) →
    addressLength addressFamily = .ok n →
    ReadsWhole (s.drop (s.bytes.length - rest.length)) n

/-! ## The family -/

theorem follows_streamReadByte : Follows streamReadByte readByte := by
  intro s
  cases hbytes : s.bytes with
  | nil =>
    have hlength : s.readLength 1 = 0 := by
      have hle := (s.readLength_le 1).2
      rw [hbytes, List.length_nil] at hle
      omega
    refine ⟨.error s.ending, 0, Nat.le_refl _, rfl, ?_⟩
    simp only [call, ExceptT.run, StateT.run, streamReadByte, Stream.read_eq, hlength, hbytes,
      List.take_nil]
  | cons b rest =>
    have hlength : s.readLength 1 = 1 := by
      have hne : s.bytes ≠ [] := by simp [hbytes]
      have hpos := Stream.readLength_pos Nat.one_pos hne
      have hle := (s.readLength_le 1).1
      omega
    refine ⟨.ok b, 1, by simp, ?_, ?_⟩
    · rfl
    · simp only [call, ExceptT.run, StateT.run, streamReadByte, Stream.read_eq, hlength, hbytes,
        List.take_succ_cons]

/-- The family does not depend on how the stream is cut. -/
theorem follows_readVarIntWith : Follows (readVarIntWith streamReadByte) readVarInt := by
  have hbyte := follows_streamReadByte
  refine follows_bind hbyte fun b₁ => ?_
  refine follows_ite (follows_pure _) ?_
  refine follows_bind hbyte fun b₂ => ?_
  refine follows_ite (follows_pure _) ?_
  refine follows_bind hbyte fun b₃ => ?_
  refine follows_bind hbyte fun b₄ => ?_
  refine follows_ite (follows_pure _) ?_
  refine follows_bind hbyte fun b₅ => ?_
  refine follows_bind hbyte fun b₆ => ?_
  refine follows_bind hbyte fun b₇ => ?_
  refine follows_bind hbyte fun b₈ => ?_
  exact follows_pure _

/-! ## The two reads -/

theorem call_streamRead (n : Nat) (s : GoStream) :
    call (streamRead n) s =
      if s.bytes = [] ∨ s.eager ∧ s.bytes.length ≤ s.readLength n then
        .ok (.error s.ending, s.drop (s.readLength n))
      else
        .ok (.ok (s.bytes.take (s.readLength n) ++ List.replicate (n - s.readLength n) 0),
          s.drop (s.readLength n)) := by
  have hle := (s.readLength_le n).2
  simp only [call, ExceptT.run, StateT.run, streamRead, Stream.read_eq]
  split_ifs
  · rfl
  · simp only [List.length_take, Nat.min_eq_left hle]

theorem call_takeBytes (ending : GoError) (n : Nat) (input : List UInt8) :
    call (takeBytes ending n) input =
      if n ≤ input.length then .ok (.ok (input.take n), input.drop n)
      else .ok (.error ending, []) := rfl

/-- The two reads, when neither gives an error. -/
theorem call_readForwardingTarget {n first second : Nat} {s : GoStream}
    (hfirst : s.readLength n = first) (hsecond : (s.drop first).readLength 2 = second)
    (hbytes : first < s.bytes.length)
    (heager : s.eager → first + second < s.bytes.length) :
    call (readForwardingTarget n) s =
      .ok (.ok (s.bytes.take first ++ List.replicate (n - first) 0,
        bigEndianUint16 ((s.bytes.drop first).take second ++ List.replicate (2 - second) 0)),
        s.drop (first + second)) := by
  have hne : ¬(s.bytes = [] ∨ s.eager ∧ s.bytes.length ≤ s.readLength n) := by
    rintro (hnil | ⟨heag, hle⟩)
    · simp [hnil] at hbytes
    · omega
  have hne' : ¬((s.drop first).bytes = [] ∨ (s.drop first).eager ∧
      (s.drop first).bytes.length ≤ (s.drop first).readLength 2) := by
    rw [Stream.bytes_drop, Stream.eager_drop, List.drop_eq_nil_iff, List.length_drop, hsecond]
    rintro (hnil | ⟨heag, hle⟩)
    · omega
    · have := heager heag
      omega
  unfold readForwardingTarget
  rw [call_bind, call_streamRead, if_neg hne, hfirst]
  simp only
  rw [call_bind, call_streamRead, if_neg hne', hsecond, Stream.drop_drop, Stream.bytes_drop]
  rfl

/-- The two reads, when one of them gives an error: the stream is at its end. -/
theorem call_readForwardingTarget_error {n first second : Nat} {s : GoStream}
    (hfirst : s.readLength n = first) (hsecond : (s.drop first).readLength 2 = second)
    (hend : s.bytes.length = first ∨ (s.eager ∧ s.bytes.length = first + second)) :
    ∃ k, s.bytes.length ≤ k ∧
      call (readForwardingTarget n) s = .ok (.error s.ending, s.drop k) := by
  unfold readForwardingTarget
  by_cases hfirstErr : s.bytes = [] ∨ s.eager ∧ s.bytes.length ≤ s.readLength n
  · refine ⟨s.readLength n, ?_, ?_⟩
    · rcases hfirstErr with hnil | ⟨_, hle⟩
      · simp [hnil]
      · exact hle
    · rw [call_bind, call_streamRead, if_pos hfirstErr]
  · have hsecondErr : (s.drop first).bytes = [] ∨ (s.drop first).eager ∧
        (s.drop first).bytes.length ≤ (s.drop first).readLength 2 := by
      rw [Stream.bytes_drop, Stream.eager_drop, List.drop_eq_nil_iff, List.length_drop, hsecond]
      rcases hend with hend | ⟨heager, hend⟩
      · exact .inl (by omega)
      · exact .inr ⟨heager, by omega⟩
    refine ⟨first + second, ?_, ?_⟩
    · rcases hend with hend | ⟨_, hend⟩
      · omega
      · omega
    · rw [call_bind, call_streamRead, if_neg hfirstErr, hfirst]
      simp only
      rw [call_bind, call_streamRead, if_pos hsecondErr, hsecond, Stream.drop_drop,
        Stream.ending_drop]

theorem call_forwardingTarget (ending : GoError) (n : Nat) (input : List UInt8) :
    call (forwardingTarget ending n) input =
      if n + 2 ≤ input.length then
        .ok (.ok (input.take n, bigEndianUint16 ((input.drop n).take 2)), input.drop (n + 2))
      else .ok (.error ending, []) := by
  unfold forwardingTarget
  rw [call_bind, call_takeBytes]
  by_cases hn : n ≤ input.length
  · rw [if_pos hn]
    simp only
    rw [call_bind, call_takeBytes, List.length_drop]
    by_cases hport : n + 2 ≤ input.length
    · rw [if_pos hport, if_pos (by omega), List.drop_drop]
      rfl
    · rw [if_neg hport, if_neg (by omega)]
  · rw [if_neg hn, if_neg (by omega)]

/-- The reads after the family give what the bytes encode exactly when they are whole. -/
theorem unread_readForwardingTarget_iff (n : Nat) (s : GoStream) :
    unread (call (readForwardingTarget n) s) = call (forwardingTarget s.ending n) s.bytes ↔
      ReadsWhole s n := by
  have hfirst := s.readLength_le n
  have hsecond := (s.drop (s.readLength n)).readLength_le 2
  rw [Stream.bytes_drop, List.length_drop] at hsecond
  rw [call_forwardingTarget]
  unfold ReadsWhole
  -- an error comes only at the end of the stream
  by_cases hend : s.bytes.length = s.readLength n ∨
      (s.eager ∧ s.bytes.length = s.readLength n + (s.drop (s.readLength n)).readLength 2)
  · obtain ⟨k, hk, hcall⟩ := call_readForwardingTarget_error rfl rfl hend
    have hunread : unread (call (readForwardingTarget n) s) = .ok (.error s.ending, []) := by
      rw [hcall, unread_ok, Stream.bytes_drop, List.drop_of_length_le hk]
    rw [hunread]
    by_cases hlong : n + 2 ≤ s.bytes.length
    · rw [if_pos hlong, if_pos hlong]
      refine iff_of_false (by simp) ?_
      rintro ⟨h1, h2, h3⟩
      rcases hend with hend | ⟨heager, hend⟩
      · omega
      · have := h3 heager
        omega
    · rw [if_neg hlong, if_neg hlong]
      exact iff_of_true rfl hend
  · have hfits : s.readLength n < s.bytes.length := by
      rw [not_or] at hend
      omega
    have heager : s.eager →
        s.readLength n + (s.drop (s.readLength n)).readLength 2 < s.bytes.length := by
      intro heager
      rw [not_or, not_and] at hend
      have hne := hend.2 heager
      omega
    rw [call_readForwardingTarget rfl rfl hfits heager, unread_ok, Stream.bytes_drop]
    by_cases hlong : n + 2 ≤ s.bytes.length
    · rw [if_pos hlong, if_pos hlong]
      constructor
      · intro h
        -- a short read leaves too many bytes
        injection h with h
        injection h with _ hdrop
        have hlength := congrArg List.length hdrop
        rw [List.length_drop, List.length_drop] at hlength
        have hn : s.readLength n = n := by omega
        have htwo : (s.drop (s.readLength n)).readLength 2 = 2 := by omega
        refine ⟨hn, htwo, fun h => ?_⟩
        have hlt := heager h
        omega
      · rintro ⟨hn, htwo, _⟩
        rw [htwo, hn]
        simp
    · rw [if_neg hlong, if_neg hlong]
      exact iff_of_false (by simp) hend

/-! ## The header -/

/-- **Fragmentation.**  The result of `parseForwardingHeader` and the bytes it leaves are those
    that the bytes of the stream determine, exactly when its two plain reads are whole. -/
theorem parseForwardingHeader_iff (s : GoStream) :
    unread (call parseForwardingHeader s) = call (forwardingHeader s.ending) s.bytes ↔
      FieldsWhole s := by
  obtain ⟨result, k, hk, hbytes, hstream⟩ := follows_readVarIntWith s
  unfold parseForwardingHeader forwardingHeader FieldsWhole
  rw [call_bind, call_bind, hstream, hbytes]
  cases result with
  | error err =>
    refine iff_of_true ?_ (by simp)
    simp only [unread_ok, Stream.bytes_drop]
  | ok addressFamily =>
    simp only [Except.ok.injEq, Prod.mk.injEq]
    cases hlength : addressLength addressFamily with
    | error err =>
      refine iff_of_true ?_ ?_
      · show unread (.ok (.error err, s.drop k)) = .ok (.error err, s.bytes.drop k)
        rw [unread_ok, Stream.bytes_drop]
      · rintro family rest n ⟨rfl, -⟩ h
        rw [hlength] at h
        cases h
    | ok n =>
      have hiff := unread_readForwardingTarget_iff n (s.drop k)
      rw [Stream.ending_drop, Stream.bytes_drop] at hiff
      simp only
      rw [hiff]
      have hskip : s.bytes.length - (s.bytes.drop k).length = k := by
        rw [List.length_drop]
        omega
      constructor
      · rintro h family rest m ⟨rfl, rfl⟩ hm
        rw [hlength, Except.ok.injEq] at hm
        rw [hskip, ← hm]
        exact h
      · intro h
        have := h addressFamily _ n ⟨rfl, rfl⟩ hlength
        rwa [hskip] at this

/-- The bytes of 127.0.0.1, port 8080, cut after the first byte of the address: a target on
    another host, at port 0, and three bytes too many for the messages. -/
def cutTarget : GoStream where
  pieces := [⟨[4, 127], by decide⟩, ⟨[0, 0, 1, 0x1f, 0x90], by decide⟩]
  ending := .eof
  eager := false

theorem parseForwardingHeader_cut :
    call (forwardingHeader .eof) cutTarget.bytes = .ok (.ok ([127, 0, 0, 1], 8080), []) ∧
      unread (call parseForwardingHeader cutTarget) =
        .ok (.ok ([127, 0, 0, 0], 0), [1, 0x1f, 0x90]) := by
  decide +kernel

end Ssh3.Go
