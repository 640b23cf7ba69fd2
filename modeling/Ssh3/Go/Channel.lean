/-
  Ssh3.Go.Channel

  `channel.go`: sending and receiving messages on a Go channel, one call at a
  time (`sendMutex` makes every sending call atomic).

  What the QUIC stream does with a `Write` is the environment's choice: the
  sending half holds the outcomes of the coming writes, and once the list is
  used up every write is complete.
-/

import Ssh3.Go.MessageSpec

namespace Ssh3.Go

open Fallible

/-- From 64 bytes to 16 MiB -/
def validatePacketSize (size : UInt64) : Except GoError Unit :=
  -- reserve room for the largest data-message header and its length varint
  if size < 64 ∨ size > MaxSSHStringLength then
    .error (.packetSizeOutOfRange size)
  else
    .ok ()

theorem validatePacketSize_eq_ok {size : UInt64} :
    validatePacketSize size = .ok () ↔ 64 ≤ size.toNat ∧ size.toNat ≤ 16 * 1024 * 1024 := by
  have hlow : size < 64 ↔ size.toNat < 64 := UInt64.lt_iff_toNat_lt
  have hhigh : size > MaxSSHStringLength ↔ 16 * 1024 * 1024 < size.toNat :=
    UInt64.lt_iff_toNat_lt
  unfold validatePacketSize
  split_ifs with h <;> rw [hlow, hhigh] at h
  · constructor
    · intro herr
      cases herr
    · intro hrange
      omega
  · constructor
    · intro _
      omega
    · intro _
      rfl

def buildHeader (conversationStreamID : UInt64) (channelType : List UInt8)
    (maxPacketSize : UInt64) (additionalBytes : List UInt8) : Except GoPanic (List UInt8) := do
  let length ← sshStringLen channelType
  -- the error of `WriteSSHString` is dropped
  let (_, channelTypeBuf) ← call (writeSSHString channelType) ⟨[], List.replicate length 0⟩
  let buf ← appendVarInt [] 0xaf3627e6
  let buf ← appendVarInt buf conversationStreamID
  let buf ← appendVarInt (buf ++ channelTypeBuf.filled ++ channelTypeBuf.free) maxPacketSize
  return buf ++ additionalBytes

/-- `parseHeader`, with the check of its error that every caller makes. -/
def parseHeader (ending : GoError) : GoReader (UInt64 × List UInt8 × UInt64) := do
  let conversationControlStreamID ← readVarInt ending
  let channelType ← parseSSHString ending
  let maxPacketSize ← readVarInt ending
  match validatePacketSize maxPacketSize with
  | .error err => throw err
  | .ok () => return (conversationControlStreamID, channelType, maxPacketSize)

/-! ## Sending -/

/-- The result of one `Write` on the stream: how many bytes it takes, and its error. -/
structure WriteOutcome where
  taken : Nat
  err : Option GoError
  deriving DecidableEq, Repr

/-- The fields of `channelImpl` that sending uses. -/
structure SendHalf where
  /-- The part of the channel header that is still to be written -/
  header : List UInt8
  /-- Everything the stream has taken so far -/
  sent : List UInt8
  outcomes : List WriteOutcome
  deriving DecidableEq, Repr

/-- `c.send.Write(p)` -/
def streamWrite (p : List UInt8) : GoM SendHalf Nat := do
  let half ← get
  match half.outcomes with
  | [] =>
    set { half with sent := half.sent ++ p }
    return p.length
  | outcome :: outcomes =>
    let n := min outcome.taken p.length
    set { half with sent := half.sent ++ p.take n, outcomes }
    match outcome.err with
    | some err => throw err
    | none => return n

theorem streamWrite_complete (p header sent : List UInt8) :
    call (streamWrite p) ⟨header, sent, []⟩ = .ok (.ok p.length, ⟨header, sent ++ p, []⟩) := rfl

/-- What a write of `p` returns -/
def WriteOutcome.result (outcome : WriteOutcome) (p : List UInt8) : Except GoError Nat :=
  match outcome.err with
  | some err => .error err
  | none => .ok (min outcome.taken p.length)

theorem WriteOutcome.result_eq_ok {outcome : WriteOutcome} {p : List UInt8} {n : Nat} :
    outcome.result p = .ok n ↔ outcome.err = none ∧ n = min outcome.taken p.length := by
  unfold WriteOutcome.result
  cases herr : outcome.err with
  | some err => simp
  | none => simp [eq_comm]

theorem streamWrite_next (p header sent : List UInt8) (outcome : WriteOutcome)
    (outcomes : List WriteOutcome) :
    call (streamWrite p) ⟨header, sent, outcome :: outcomes⟩ =
      .ok (outcome.result p,
        ⟨header, sent ++ p.take (min outcome.taken p.length), outcomes⟩) := by
  unfold streamWrite WriteOutcome.result
  rw [call_bind_of_ok (call_get _)]
  cases herr : outcome.err with
  | some err =>
    simp only [herr]
    rfl
  | none =>
    simp only [herr]
    rfl

/-- Writes what is left of the header -/
def maybeSendHeaderLocked : GoM SendHalf Unit := do
  let header := (← get).header
  if header.length > 0 then
    let written ← streamWrite header
    modify fun half => { half with header := header.drop written }
    if header.drop written ≠ [] then
      throw .shortWrite

theorem maybeSendHeaderLocked_complete (header sent : List UInt8) :
    call maybeSendHeaderLocked ⟨header, sent, []⟩ = .ok (.ok (), ⟨[], sent ++ header, []⟩) := by
  unfold maybeSendHeaderLocked
  rw [call_bind_of_ok (call_get _)]
  by_cases h : header.length > 0
  · rw [if_pos h, call_bind_of_ok (streamWrite_complete header header sent),
      call_bind_of_ok (call_modify _ _), List.drop_length, if_neg (by simp)]
    rfl
  · have hnil : header = [] := List.length_eq_zero_iff.mp (by omega)
    subst hnil
    rw [if_neg h, List.append_nil]
    rfl

/-- `buf := make([]byte, length); _, err = m.Write(buf)` -/
def writeToBuffer {σ : Type} (m : Message) (length : Nat) : GoM σ (List UInt8) := fun s =>
  match call m.write ⟨[], List.replicate length 0⟩ with
  | .error p => .error p
  | .ok (.error err, _) => .ok (.error err, s)
  | .ok (.ok (), buf) => .ok (.ok (buf.filled ++ buf.free), s)

theorem call_writeToBuffer {σ : Type} (m : Message) (length : Nat) (s : σ) :
    call (writeToBuffer m length) s =
      match call m.write ⟨[], List.replicate length 0⟩ with
      | .error p => .error p
      | .ok (.error err, _) => .ok (.error err, s)
      | .ok (.ok (), buf) => .ok (.ok (buf.filled ++ buf.free), s) := rfl

/-- A buffer of exactly the length of the message -/
theorem call_writeToBuffer_of_writes {m : Message} {wire : List UInt8}
    (hwrite : Writes m.write wire) {σ : Type} (s : σ) :
    call (writeToBuffer m wire.length) s = .ok (.ok wire, s) := by
  have hfill := hwrite ⟨[], List.replicate wire.length 0⟩ (by simp)
  rw [call_writeToBuffer, hfill]
  simp

def sendMessage (m : Message) : GoM SendHalf Unit := do
  maybeSendHeaderLocked
  let length ← orPanic m.length
  let buf ← writeToBuffer m length
  let n ← streamWrite buf
  if n ≠ buf.length then
    throw .shortWrite

/-- Over a stream that takes every write, a message whose `Length` and `Write` agree on
    `wire` is sent right behind the header. -/
theorem sendMessage_complete {m : Message} {wire : List UInt8}
    (hlength : m.length = .ok wire.length) (hwrite : Writes m.write wire)
    (header sent : List UInt8) :
    call (sendMessage m) ⟨header, sent, []⟩ = .ok (.ok (), ⟨[], sent ++ header ++ wire, []⟩) := by
  unfold sendMessage
  rw [call_bind_of_ok (maybeSendHeaderLocked_complete header sent), hlength,
    call_bind_of_ok (call_orPanic_ok _ _), call_bind_of_ok (call_writeToBuffer_of_writes hwrite _),
    call_bind_of_ok (streamWrite_complete ..), if_neg (by simp)]
  rfl

/-- The buffer is sized before anything of the message is written, so a message whose
    `Length` panics takes the sender down. -/
theorem sendMessage_panics {m : Message} {p : GoPanic} (hlength : m.length = .error p)
    (header sent : List UInt8) : call (sendMessage m) ⟨header, sent, []⟩ = .error p := by
  unfold sendMessage
  rw [call_bind_of_ok (maybeSendHeaderLocked_complete header sent), hlength]
  rfl

def sendRequest (r : ChannelRequestMessage) : GoM SendHalf Unit :=
  sendMessage (.channelRequest r)

/-! ### Calls that return

Whatever the stream does with a write, a call comes back; if it reports no error, the stream
has taken the pending header and all of what the call writes. -/

theorem returns_streamWrite (p : List UInt8) : Returns (streamWrite p) := by
  intro half
  obtain ⟨header, sent, outcomes⟩ := half
  cases outcomes with
  | nil => exact ⟨_, _, streamWrite_complete p header sent⟩
  | cons outcome outcomes => exact ⟨_, _, streamWrite_next p header sent outcome outcomes⟩

theorem streamWrite_eq_ok {p : List UInt8} {half half' : SendHalf} {n : Nat}
    (h : call (streamWrite p) half = .ok (.ok n, half')) :
    n ≤ p.length ∧ half'.header = half.header ∧ half'.sent = half.sent ++ p.take n := by
  obtain ⟨header, sent, outcomes⟩ := half
  cases outcomes with
  | nil =>
    rw [streamWrite_complete] at h
    cases h
    exact ⟨Nat.le_refl _, rfl, by rw [List.take_length]⟩
  | cons outcome outcomes =>
    rw [streamWrite_next] at h
    obtain ⟨hresult, rfl⟩ := Prod.mk.inj (Except.ok.inj h)
    obtain ⟨-, rfl⟩ := WriteOutcome.result_eq_ok.mp hresult
    exact ⟨Nat.min_le_right _ _, rfl, rfl⟩

theorem returns_maybeSendHeaderLocked : Returns maybeSendHeaderLocked := by
  intro half
  unfold maybeSendHeaderLocked
  rw [call_bind_of_ok (call_get _)]
  by_cases hpos : half.header.length > 0
  · rw [if_pos hpos]
    obtain ⟨result, mid, hwrite⟩ := returns_streamWrite half.header half
    cases result with
    | error err => exact ⟨_, _, call_bind_of_error hwrite⟩
    | ok written =>
      rw [call_bind_of_ok hwrite, call_bind_of_ok (call_modify _ _)]
      split_ifs
      · exact ⟨_, _, rfl⟩
      · exact ⟨_, _, rfl⟩
  · rw [if_neg hpos]
    exact ⟨_, _, rfl⟩

theorem maybeSendHeaderLocked_eq_ok {half half' : SendHalf}
    (h : call maybeSendHeaderLocked half = .ok (.ok (), half')) :
    half'.header = [] ∧ half'.sent = half.sent ++ half.header := by
  unfold maybeSendHeaderLocked at h
  rw [call_bind_of_ok (call_get _)] at h
  by_cases hpos : half.header.length > 0
  · rw [if_pos hpos] at h
    obtain ⟨written, mid, hwrite, h⟩ := call_bind_eq_ok.mp h
    obtain ⟨hle, -, hsent⟩ := streamWrite_eq_ok hwrite
    rw [call_bind_of_ok (call_modify _ _)] at h
    split_ifs at h with hrest
    · cases h
    · -- nothing of the header is left, so all of it was written
      have hdrop : half.header.drop written = [] := not_not.mp hrest
      have hall : half.header.take written = half.header :=
        List.take_of_length_le (List.drop_eq_nil_iff.mp hdrop)
      cases h
      exact ⟨hdrop, by rw [hsent, hall]⟩
  · have hnil : half.header = [] := List.length_eq_zero_iff.mp (by omega)
    rw [if_neg hpos] at h
    cases h
    exact ⟨hnil, by rw [hnil, List.append_nil]⟩

section

variable {m : Message} {wire : List UInt8} (hlength : m.length = .ok wire.length)
  (hwrite : Writes m.write wire)

include hlength hwrite

theorem returns_sendMessage : Returns (sendMessage m) := by
  apply returns_bind returns_maybeSendHeaderLocked
  intro _ half
  rw [hlength, call_bind_of_ok (call_orPanic_ok _ _),
    call_bind_of_ok (call_writeToBuffer_of_writes hwrite half)]
  obtain ⟨result, half', hstream⟩ := returns_streamWrite wire half
  cases result with
  | error err => exact ⟨_, _, call_bind_of_error hstream⟩
  | ok n =>
    rw [call_bind_of_ok hstream]
    split_ifs
    · exact ⟨_, _, rfl⟩
    · exact ⟨_, _, rfl⟩

theorem sendMessage_eq_ok {half half' : SendHalf}
    (h : call (sendMessage m) half = .ok (.ok (), half')) :
    half'.header = [] ∧ half'.sent = half.sent ++ half.header ++ wire := by
  unfold sendMessage at h
  obtain ⟨_, mid, hheader, h⟩ := call_bind_eq_ok.mp h
  obtain ⟨hnone, hsent⟩ := maybeSendHeaderLocked_eq_ok hheader
  rw [hlength, call_bind_of_ok (call_orPanic_ok _ _),
    call_bind_of_ok (call_writeToBuffer_of_writes hwrite mid)] at h
  obtain ⟨n, last, hstream, h⟩ := call_bind_eq_ok.mp h
  obtain ⟨-, hkept, hwritten⟩ := streamWrite_eq_ok hstream
  split_ifs at h with hshort
  · cases h
  · have hn : n = wire.length := not_not.mp hshort
    cases h
    exact ⟨hkept.trans hnone, by rw [hwritten, hsent, hn, List.take_length]⟩

end

/-! ## Receiving -/

/-- The fields of `channelImpl` that receiving uses. -/
structure RecvHalf where
  confirmSent : Bool
  confirmReceived : Bool
  /-- The bytes of the receive stream that are not read yet -/
  recv : List UInt8
  deriving DecidableEq, Repr

section Receiving

variable (ending : GoError)

/-- `nextMessage`, with the check of its error at the top of `NextMessage`. -/
def nextMessage : GoM RecvHalf Message := fun half =>
  match call (parseMessage ending) half.recv with
  | .error p => .error p
  | .ok (.error err, rest) => .ok (.error err, { half with recv := rest })
  | .ok (.ok (_, some err), rest) => .ok (.error err, { half with recv := rest })
  | .ok (.ok (message, none), rest) => .ok (.ok message, { half with recv := rest })

theorem call_nextMessage (half : RecvHalf) :
    call (nextMessage ending) half =
      match call (parseMessage ending) half.recv with
      | .error p => .error p
      | .ok (.error err, rest) => .ok (.error err, { half with recv := rest })
      | .ok (.ok (_, some err), rest) => .ok (.error err, { half with recv := rest })
      | .ok (.ok (message, none), rest) => .ok (.ok message, { half with recv := rest }) := rfl

/-- `NextMessage` calls itself after a confirmation.  `fuel` bounds the recursion; a
    confirmation takes at least one byte off the stream, so with one unit per byte the
    stream is at its end when the fuel is used up. -/
def nextMessageLoop : Nat → GoM RecvHalf Message
  | 0 => throw ending
  | fuel + 1 => do
    match ← nextMessage ending with
    | .channelOpenConfirmation message =>
      match validatePacketSize message.maxPacketSize with
      | .error err => throw err
      | .ok () =>
        modify fun half => { half with confirmReceived := true }
        nextMessageLoop fuel
    | .channelOpenFailure message =>
      throw (.channelOpenFailure message.reasonCode message.errorMessageUtf8)
    | genericMessage =>
      if !(← get).confirmSent then
        throw .messageOnNonConfirmedChannel
      return genericMessage

/-- `channelImpl.NextMessage`: neither a confirmation nor an open failure is returned. -/
def NextMessage : GoM RecvHalf Message := do
  nextMessageLoop ending (← get).recv.length

/-- A request at the front of the stream is what a confirmed channel receives next. -/
theorem NextMessage_request {request : ChannelRequestMessage} {wire : List UInt8}
    (hparse : Accepts (parseMessage ending) wire (.channelRequest request, none))
    (hne : wire ≠ []) (confirmReceived : Bool) (rest : List UInt8) :
    call (NextMessage ending) ⟨true, confirmReceived, wire ++ rest⟩ =
      .ok (.ok (.channelRequest request), ⟨true, confirmReceived, rest⟩) := by
  have hnext : call (nextMessage ending) ⟨true, confirmReceived, wire ++ rest⟩ =
      .ok (.ok (.channelRequest request), ⟨true, confirmReceived, rest⟩) := by
    rw [call_nextMessage, hparse rest]
  unfold NextMessage
  rw [call_bind_of_ok (call_get _)]
  -- the message is not empty, so there is fuel for one call
  obtain ⟨n, hn⟩ : ∃ n, (wire ++ rest).length = n + 1 := by
    have hpos := List.length_pos_iff.mpr hne
    exact ⟨(wire ++ rest).length - 1, by rw [List.length_append]; omega⟩
  rw [hn, nextMessageLoop, call_bind_of_ok hnext]
  rfl

end Receiving

end Ssh3.Go
