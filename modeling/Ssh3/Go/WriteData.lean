/-
  Ssh3.Go.WriteData

  `channel.go`: `WriteData`, which cuts a buffer into data messages that stay within the
  packet size of the channel.

  Unlike its Rust counterpart it reserves eight bytes for the length of the data.  The
  packet size is checked in every turn of the loop, so that there is room for at least 46
  bytes of data and the loop comes to an end.
-/

import Mathlib.Data.List.Forall2
import Ssh3.Core.PacketLimit
import Ssh3.Go.Channel
import Ssh3.Go.MessageCodec

namespace Ssh3.Go

open Fallible Chunks
open Proto (DataOrExtendedDataMessage SshDataType)

/-! ## The function -/

/-- `msgBuf := make([]byte, m.Length()); _, err := m.Write(msgBuf)` -/
def encodeMessage {σ : Type} (m : Message) : GoM σ (List UInt8) := do
  let length ← orPanic m.length
  writeToBuffer m length

/-- The next message of the loop, for what is left of the buffer. -/
def nextDataMessage {σ : Type} (maxPacketSize : UInt64) (dataType : SshDataType)
    (dataBuf : List UInt8) : GoM σ DataOrExtendedDataMessage := do
  match validatePacketSize maxPacketSize with
  | .error err => throw err
  | .ok () =>
    -- the maximum possible varint size, not the empty string's one-byte prefix
    let overhead := UInt64.ofNat (← orPanic (dataLength { dataType, data := [] })) + 7
    let msgLen := min (maxPacketSize - overhead).toNat dataBuf.length
    return { dataType, data := dataBuf.take msgLen }

/-- One turn of the loop, with the length of the data sent. -/
def sendNextData (maxPacketSize : UInt64) (dataType : SshDataType) (dataBuf : List UInt8) :
    GoM SendHalf Nat := do
  let dataMsg ← nextDataMessage maxPacketSize dataType dataBuf
  let msgBuf ← encodeMessage (.data dataMsg)
  let n ← streamWrite msgBuf
  if n ≠ msgBuf.length then
    throw .shortWrite
  return dataMsg.data.length

/-- The loop, with the count and the error it returns.  The result is `none` if the fuel is
    used up before the loop has ended. -/
def writeDataLoop (maxPacketSize : UInt64) (dataType : SshDataType) :
    Nat → List UInt8 → Nat → GoM SendHalf (Option (Nat × Option GoError))
  | _, [], written => return some (written, none)
  | 0, _ :: _, _ => return none
  | fuel + 1, b :: bs, written => do
    match ← attempt (sendNextData maxPacketSize dataType (b :: bs)) with
    | .error err => return some (written, some err)
    | .ok msgLen =>
      writeDataLoop maxPacketSize dataType fuel ((b :: bs).drop msgLen) (written + msgLen)

/-- Writes a buffer as data messages within the packet size -/
def WriteData (maxPacketSize : UInt64) (fuel : Nat) (dataBuf : List UInt8)
    (dataType : SshDataType) : GoM SendHalf (Option (Nat × Option GoError)) := do
  match ← attempt maybeSendHeaderLocked with
  | .error err => return some (0, some err)
  | .ok () => writeDataLoop maxPacketSize dataType fuel dataBuf 0

/-! ## A data message on the wire -/

section DataMessage

variable {dataType : SshDataType} {data : List UInt8}

/-- The bytes of a data message: those the Rust encoder writes for it. -/
def dataWire (dataType : SshDataType) (data : List UInt8) : List UInt8 :=
  DataOrExtendedDataMessage.wire { dataType, data }

theorem codes_dataWire (htype : dataType ≤ Proto.MAX_VARINT) (hdata : Proto.SshBytesOk data) :
    Codes (dataLength { dataType, data }) (writeData { dataType, data })
      (dataWire dataType data) :=
  codes_data ⟨htype, hdata⟩

theorem accepts_dataWire (ending : GoError) (htype : dataType ≤ Proto.MAX_VARINT)
    (hdata : Proto.SshBytesOk data) :
    Accepts (parseMessage ending) (dataWire dataType data)
      (.data { dataType, data }, none) := by
  have hencodable : (Proto.Message.data { dataType, data }).Encodable := ⟨htype, hdata⟩
  exact accepts_of_reads ending (Proto.Message.coded hencodable).reads not_false

end DataMessage

/-! ## Whole writes -/

def WriteOutcome.Complete (outcome : WriteOutcome) (p : List UInt8) : Prop :=
  outcome.err = none ∧ p.length ≤ outcome.taken

namespace SendHalf

/-- The next write takes the whole of `p`. -/
def TakesWhole (half : SendHalf) (p : List UInt8) : Prop :=
  ∀ outcome ∈ half.outcomes.head?, outcome.Complete p

/-- After a write that took the whole of `p`. -/
def wrote (half : SendHalf) (p : List UInt8) : SendHalf :=
  { half with sent := half.sent ++ p, outcomes := half.outcomes.tail }

/-- The next writes take all the frames. -/
def TakesAll (half : SendHalf) : List (List UInt8) → Prop
  | [] => True
  | frame :: frames => half.TakesWhole frame ∧ (half.wrote frame).TakesAll frames

def wroteAll (half : SendHalf) (frames : List (List UInt8)) : SendHalf := frames.foldl wrote half

/-- The pending header, if there is one, is taken whole. -/
def TakesHeader (half : SendHalf) : Prop := half.header ≠ [] → half.TakesWhole half.header

/-- After the pending header has been written. -/
def sentHeader (half : SendHalf) : SendHalf :=
  if half.header = [] then half else { half.wrote half.header with header := [] }

theorem sent_wroteAll (half : SendHalf) (frames : List (List UInt8)) :
    (half.wroteAll frames).sent = half.sent ++ frames.flatten ∧
      (half.wroteAll frames).header = half.header := by
  induction frames generalizing half with
  | nil => simp [wroteAll]
  | cons frame frames ih =>
    obtain ⟨hsent, hheader⟩ := ih (half.wrote frame)
    refine ⟨?_, hheader⟩
    rw [wroteAll, List.foldl_cons, ← wroteAll, hsent, wrote, List.flatten_cons, List.append_assoc]

/-- Without an outcome to the contrary, every write is whole. -/
theorem takesAll_of_outcomes_eq_nil {half : SendHalf} (h : half.outcomes = [])
    (frames : List (List UInt8)) : half.TakesAll frames := by
  induction frames generalizing half with
  | nil => trivial
  | cons frame frames ih =>
    refine ⟨by simp [TakesWhole, h], ih ?_⟩
    rw [wrote, h, List.tail_nil]

theorem sent_sentHeader (half : SendHalf) :
    half.sentHeader.sent = half.sent ++ half.header ∧ half.sentHeader.header = [] := by
  unfold sentHeader
  by_cases h : half.header = []
  · simp [h]
  · simp [h, wrote]

end SendHalf

variable {half : SendHalf}

theorem streamWrite_of_takesWhole {p : List UInt8} (h : half.TakesWhole p) :
    call (streamWrite p) half = .ok (.ok p.length, half.wrote p) := by
  obtain ⟨header, sent, outcomes⟩ := half
  cases outcomes with
  | nil => rfl
  | cons outcome outcomes =>
    obtain ⟨herr, htaken⟩ := h outcome rfl
    have hmin : min outcome.taken p.length = p.length := Nat.min_eq_right htaken
    rw [streamWrite_next, WriteOutcome.result_eq_ok.mpr ⟨herr, hmin.symm⟩, hmin, List.take_length]
    rfl

/-- A write that does not take the whole of `p` returns an error or another count. -/
theorem streamWrite_of_not_takesWhole {p : List UInt8} (h : ¬half.TakesWhole p) :
    ∃ result half', call (streamWrite p) half = .ok (result, half') ∧ result ≠ .ok p.length := by
  obtain ⟨header, sent, outcomes⟩ := half
  cases outcomes with
  | nil => exact absurd (by simp [SendHalf.TakesWhole]) h
  | cons outcome outcomes =>
    have hnot : ¬outcome.Complete p := by
      intro hcomplete
      refine h fun o ho => ?_
      cases ho
      exact hcomplete
    refine ⟨_, _, streamWrite_next p header sent outcome outcomes, ?_⟩
    intro hresult
    obtain ⟨herr, hcount⟩ := WriteOutcome.result_eq_ok.mp hresult
    exact hnot ⟨herr, by omega⟩

theorem maybeSendHeaderLocked_of_takesHeader (h : half.TakesHeader) :
    call maybeSendHeaderLocked half = .ok (.ok (), half.sentHeader) := by
  unfold maybeSendHeaderLocked SendHalf.sentHeader
  rw [call_bind_of_ok (call_get _)]
  by_cases hnil : half.header = []
  · simp only [hnil, List.length_nil, gt_iff_lt, Nat.lt_irrefl, if_false, if_true]
    rfl
  · have hpos : half.header.length > 0 := List.length_pos_iff.mpr hnil
    rw [if_pos hpos, call_bind_of_ok (streamWrite_of_takesWhole (h hnil)),
      call_bind_of_ok (call_modify _ _), List.drop_length, if_neg (by simp), if_neg hnil]
    rfl

/-! A message on a channel whose header has been sent, or that has none. -/

section Message

variable {m : Message} {wire : List UInt8} (hcodes : Codes m.length m.write wire)
  {half : SendHalf} (hheader : half.header = [])

include hcodes hheader

theorem call_sendMessage_of_header_nil :
    call (sendMessage m) half = call (do
      let n ← streamWrite wire
      if n ≠ wire.length then
        throw .shortWrite) half := by
  have hsent : half.sentHeader = half := if_pos hheader
  unfold sendMessage
  rw [call_bind_of_ok (maybeSendHeaderLocked_of_takesHeader fun hne => absurd hheader hne), hsent,
    hcodes.length, call_bind_of_ok (call_orPanic_ok _ _),
    call_bind_of_ok (call_writeToBuffer_of_writes hcodes.writes half)]

theorem sendMessage_of_takesWhole (h : half.TakesWhole wire) :
    call (sendMessage m) half = .ok (.ok (), half.wrote wire) := by
  rw [call_sendMessage_of_header_nil hcodes hheader,
    call_bind_of_ok (streamWrite_of_takesWhole h), if_neg (by simp)]
  rfl

theorem sendMessage_of_not_takesWhole (h : ¬half.TakesWhole wire) :
    ∃ err half', call (sendMessage m) half = .ok (.error err, half') := by
  rw [call_sendMessage_of_header_nil hcodes hheader]
  obtain ⟨result, half', hwrite, hne⟩ := streamWrite_of_not_takesWhole h
  cases result with
  | error err => exact ⟨err, half', call_bind_of_error hwrite⟩
  | ok n =>
    have hshort : n ≠ wire.length := fun heq => hne (congrArg Except.ok heq)
    rw [call_bind_of_ok hwrite, if_pos hshort]
    exact ⟨.shortWrite, half', rfl⟩

end Message

/-! ## One turn of the loop -/

section Loop

variable {maxPacketSize : UInt64} {dataType : SshDataType}

/-- The data of a message of full size. -/
def maxData (maxPacketSize : UInt64) (dataType : SshDataType) : Nat :=
  maxPacketSize.toNat - (Core.overhead dataType + 7)

theorem overhead_le (dataType : SshDataType) : Core.overhead dataType ≤ 11 := by
  have hplain : (Proto.varIntBytes Proto.SSH_MSG_CHANNEL_DATA).length = 2 := rfl
  have hext : (Proto.varIntBytes Proto.SSH_MSG_CHANNEL_EXTENDED_DATA).length = 2 := rfl
  have hempty : (Proto.sshBytes []).length = 1 := rfl
  have htype := Proto.length_varIntBytes_le dataType
  unfold Core.overhead DataOrExtendedDataMessage.wire
  by_cases h0 : dataType = Proto.SSH_EXTENDED_DATA_NONE
  · simp only [if_pos h0, List.length_append, hplain, hempty]
    omega
  · simp only [if_neg h0, List.length_append, hext, hempty]
    omega

theorem maxData_pos (hsize : 64 ≤ maxPacketSize.toNat) : 0 < maxData maxPacketSize dataType := by
  have hoverhead := overhead_le dataType
  unfold maxData
  omega

/-- The subtraction does not wrap. -/
theorem toNat_maxData (hsize : 64 ≤ maxPacketSize.toNat) :
    (maxPacketSize - (UInt64.ofNat (Core.overhead dataType) + 7)).toNat =
      maxData maxPacketSize dataType := by
  have hoverhead := overhead_le dataType
  have hofNat : (UInt64.ofNat (Core.overhead dataType)).toNat = Core.overhead dataType :=
    UInt64.toNat_ofNat_of_lt' (Nat.lt_of_le_of_lt hoverhead (by decide))
  have hsum : (UInt64.ofNat (Core.overhead dataType) + 7).toNat = Core.overhead dataType + 7 := by
    rw [UInt64.toNat_add, hofNat]
    show (Core.overhead dataType + 7) % 2 ^ 64 = _
    omega
  rw [UInt64.toNat_sub_of_le _ _ (by rw [UInt64.le_iff_toNat_le, hsum]; omega), hsum]
  rfl

variable {data dataBuf bs : List UInt8} {half : SendHalf} {b : UInt8} {fuel : Nat}

/-- A piece of the buffer fits into a message within the packet size. -/
theorem length_dataWire_le (hsize : 64 ≤ maxPacketSize.toNat)
    (h : data.length ≤ maxData maxPacketSize dataType) :
    (dataWire dataType data).length ≤ maxPacketSize.toNat := by
  have hwire := Core.length_wire dataType data
  have hprefix := Proto.length_varIntBytes_le (UInt64.ofNat data.length)
  have hoverhead := overhead_le dataType
  unfold maxData at h
  unfold dataWire
  omega

theorem sshBytesOk_of_le (hsize : maxPacketSize.toNat ≤ 16 * 1024 * 1024)
    (h : data.length ≤ maxData maxPacketSize dataType) : Proto.SshBytesOk data := by
  have hmax : Proto.MAX_SSH_STRING_LEN.toNat = 16 * 1024 * 1024 := rfl
  unfold maxData at h
  unfold Proto.SshBytesOk
  omega

variable (hsize : 64 ≤ maxPacketSize.toNat ∧ maxPacketSize.toNat ≤ 16 * 1024 * 1024)
  (htype : dataType ≤ Proto.MAX_VARINT)

include htype

theorem call_encodeMessage_data {σ : Type} (hdata : Proto.SshBytesOk data) (s : σ) :
    call (encodeMessage (.data { dataType, data })) s = .ok (.ok (dataWire dataType data), s) := by
  have hcodes := codes_dataWire htype hdata
  have hwrites : Writes (Message.write (.data { dataType, data })) (dataWire dataType data) :=
    hcodes.writes
  unfold encodeMessage
  simp only [Message.length, hcodes.length]
  rw [call_bind_of_ok (call_orPanic_ok _ _)]
  exact call_writeToBuffer_of_writes hwrites s

include hsize

theorem call_nextDataMessage {σ : Type} (dataBuf : List UInt8) (s : σ) :
    call (nextDataMessage maxPacketSize dataType dataBuf) s =
      .ok (.ok { dataType, data := dataBuf.take (maxData maxPacketSize dataType) }, s) := by
  have hlength : dataLength { dataType, data := [] } = .ok (Core.overhead dataType) :=
    (codes_dataWire htype (Nat.zero_le _)).length
  unfold nextDataMessage
  simp only [validatePacketSize_eq_ok.mpr hsize, hlength]
  rw [call_bind_of_ok (call_orPanic_ok _ _)]
  simp only [toNat_maxData hsize.1, ← List.take_eq_take_min]
  rfl

omit htype in
/-- The piece of the buffer that goes into the next message -/
theorem take_ok (dataBuf : List UInt8) :
    Proto.SshBytesOk (dataBuf.take (maxData maxPacketSize dataType)) :=
  sshBytesOk_of_le hsize.2 (List.length_take_le _ _)

/-- One turn over a stream that takes the message. -/
theorem sendNextData_of_takesWhole
    (h : half.TakesWhole (dataWire dataType (dataBuf.take (maxData maxPacketSize dataType)))) :
    call (sendNextData maxPacketSize dataType dataBuf) half =
      .ok (.ok (dataBuf.take (maxData maxPacketSize dataType)).length,
        half.wrote (dataWire dataType (dataBuf.take (maxData maxPacketSize dataType)))) := by
  unfold sendNextData
  rw [call_bind_of_ok (call_nextDataMessage hsize htype dataBuf half),
    call_bind_of_ok (call_encodeMessage_data htype (take_ok hsize dataBuf) half),
    call_bind_of_ok (streamWrite_of_takesWhole h), if_neg (by simp)]
  rfl

theorem sendNextData_of_not_takesWhole
    (h : ¬half.TakesWhole (dataWire dataType (dataBuf.take (maxData maxPacketSize dataType)))) :
    ∃ err half',
      call (sendNextData maxPacketSize dataType dataBuf) half = .ok (.error err, half') := by
  unfold sendNextData
  rw [call_bind_of_ok (call_nextDataMessage hsize htype dataBuf half),
    call_bind_of_ok (call_encodeMessage_data htype (take_ok hsize dataBuf) half)]
  obtain ⟨result, half', hcall, hne⟩ := streamWrite_of_not_takesWhole h
  cases result with
  | error err => exact ⟨err, half', call_bind_of_error hcall⟩
  | ok n =>
    have hshort : n ≠ (dataWire dataType (dataBuf.take (maxData maxPacketSize dataType))).length :=
      fun heq => hne (by rw [heq])
    rw [call_bind_of_ok hcall, if_pos hshort]
    exact ⟨.shortWrite, half', rfl⟩

/-! ## The whole loop -/

theorem writeDataLoop_turn (fuel written : Nat)
    (h : half.TakesWhole
      (dataWire dataType ((b :: bs).take (maxData maxPacketSize dataType)))) :
    call (writeDataLoop maxPacketSize dataType (fuel + 1) (b :: bs) written) half =
      call (writeDataLoop maxPacketSize dataType fuel
        ((b :: bs).drop (maxData maxPacketSize dataType))
        (written + ((b :: bs).take (maxData maxPacketSize dataType)).length))
        (half.wrote (dataWire dataType ((b :: bs).take (maxData maxPacketSize dataType)))) := by
  have hturn := sendNextData_of_takesWhole hsize htype h
  have hdrop : (b :: bs).drop ((b :: bs).take (maxData maxPacketSize dataType)).length =
      (b :: bs).drop (maxData maxPacketSize dataType) := by
    rw [List.length_take, ← List.drop_eq_drop_min]
  rw [writeDataLoop, call_bind, call_attempt, hturn]
  simp only [hdrop]

theorem writeDataLoop_turn_error (fuel written : Nat)
    (h : ¬half.TakesWhole
      (dataWire dataType ((b :: bs).take (maxData maxPacketSize dataType)))) :
    ∃ err half', call (writeDataLoop maxPacketSize dataType (fuel + 1) (b :: bs) written) half =
      .ok (.ok (some (written, some err)), half') := by
  obtain ⟨err, half', hturn⟩ := sendNextData_of_not_takesWhole hsize htype h
  rw [writeDataLoop, call_bind, call_attempt, hturn]
  exact ⟨err, half', rfl⟩

/-- The frames of the messages of one call. -/
def dataFrames (maxPacketSize : UInt64) (dataType : SshDataType) (dataBuf : List UInt8) :
    List (List UInt8) :=
  (chunks (maxData maxPacketSize dataType) dataBuf).map (dataWire dataType)

omit htype in
theorem dataFrames_cons (b : UInt8) (bs : List UInt8) :
    dataFrames maxPacketSize dataType (b :: bs) =
      dataWire dataType ((b :: bs).take (maxData maxPacketSize dataType)) ::
        dataFrames maxPacketSize dataType ((b :: bs).drop (maxData maxPacketSize dataType)) := by
  rw [dataFrames, chunks_cons (maxData_pos hsize.1), List.map_cons]
  rfl

omit htype in
theorem length_drop_le (h : (b :: bs).length ≤ fuel + 1) :
    ((b :: bs).drop (maxData maxPacketSize dataType)).length ≤ fuel := by
  have hpos : 0 < maxData maxPacketSize dataType := maxData_pos hsize.1
  rw [List.length_drop]
  omega

theorem writeDataLoop_of_takesAll (written : Nat) (hfuel : dataBuf.length ≤ fuel)
    (h : half.TakesAll (dataFrames maxPacketSize dataType dataBuf)) :
    call (writeDataLoop maxPacketSize dataType fuel dataBuf written) half =
      .ok (.ok (some (written + dataBuf.length, none)),
        half.wroteAll (dataFrames maxPacketSize dataType dataBuf)) := by
  -- on the fuel: every turn takes at least one byte off the buffer
  induction fuel generalizing dataBuf written half with
  | zero =>
    obtain rfl := List.length_eq_zero_iff.mp (Nat.le_zero.mp hfuel)
    rfl
  | succ fuel ih =>
    cases dataBuf with
    | nil => rfl
    | cons b bs =>
      rw [dataFrames_cons hsize] at h ⊢
      obtain ⟨hfirst, hrest⟩ := h
      have hcount : written + ((b :: bs).take (maxData maxPacketSize dataType)).length +
          ((b :: bs).drop (maxData maxPacketSize dataType)).length =
          written + (b :: bs).length := by
        rw [List.length_take, List.length_drop]
        omega
      rw [writeDataLoop_turn hsize htype fuel written hfirst,
        ih _ (length_drop_le hsize hfuel) hrest, hcount]
      rfl

theorem writeDataLoop_of_failure (written : Nat) (hfuel : dataBuf.length ≤ fuel) {k : Nat}
    (hk : k < (dataFrames maxPacketSize dataType dataBuf).length)
    (h : half.TakesAll ((dataFrames maxPacketSize dataType dataBuf).take k))
    (hfail : ¬(half.wroteAll ((dataFrames maxPacketSize dataType dataBuf).take k)).TakesWhole
      ((dataFrames maxPacketSize dataType dataBuf).getD k [])) :
    ∃ err half', call (writeDataLoop maxPacketSize dataType fuel dataBuf written) half =
      .ok (.ok (some (written +
        ((chunks (maxData maxPacketSize dataType) dataBuf).take k).flatten.length, some err)),
        half') := by
  induction fuel generalizing dataBuf written half k with
  | zero =>
    obtain rfl := List.length_eq_zero_iff.mp (Nat.le_zero.mp hfuel)
    cases hk
  | succ fuel ih =>
    cases dataBuf with
    | nil => cases hk
    | cons b bs =>
      rw [dataFrames_cons hsize] at hk h hfail
      cases k with
      | zero =>
        -- this is the message that fails
        exact writeDataLoop_turn_error hsize htype fuel written hfail
      | succ k =>
        rw [List.take_succ_cons] at h hfail
        rw [List.getD_cons_succ] at hfail
        obtain ⟨hfirst, hrest⟩ := h
        obtain ⟨err, half', hcall⟩ := ih
          (written + ((b :: bs).take (maxData maxPacketSize dataType)).length)
          (length_drop_le hsize hfuel) (Nat.lt_of_succ_lt_succ hk) hrest hfail
        refine ⟨err, half', ?_⟩
        rw [writeDataLoop_turn hsize htype fuel written hfirst, hcall,
          chunks_cons (maxData_pos hsize.1), List.take_succ_cons, List.flatten_cons,
          List.length_append, Nat.add_assoc]

omit hsize htype in
theorem WriteData_eq (hheader : half.TakesHeader) (fuel : Nat) (dataBuf : List UInt8) :
    call (WriteData maxPacketSize fuel dataBuf dataType) half =
      call (writeDataLoop maxPacketSize dataType fuel dataBuf 0) half.sentHeader := by
  unfold WriteData
  rw [call_bind, call_attempt, maybeSendHeaderLocked_of_takesHeader hheader]

/-! ## Calls that return -/

omit hsize in
/-- A turn comes back.  If it reports no error, it has sent the first bytes of the buffer, and
    at least one unless there are none. -/
theorem call_sendNextData (dataBuf : List UInt8) (half : SendHalf) :
    (∃ err half', call (sendNextData maxPacketSize dataType dataBuf) half =
      .ok (.error err, half')) ∨
    ∃ n half', call (sendNextData maxPacketSize dataType dataBuf) half = .ok (.ok n, half') ∧
      (dataBuf ≠ [] → 0 < n) ∧ Proto.SshBytesOk (dataBuf.take n) ∧
      half'.header = half.header ∧
      half'.sent = half.sent ++ dataWire dataType (dataBuf.take n) := by
  cases hvalid : validatePacketSize maxPacketSize with
  | error err =>
    have hnext : call (nextDataMessage maxPacketSize dataType dataBuf) half =
        .ok (.error err, half) := by
      unfold nextDataMessage
      simp only [hvalid]
      rfl
    exact .inl ⟨err, half, call_bind_of_error hnext⟩
  | ok u =>
    have hsize := validatePacketSize_eq_ok.mp hvalid
    have hpos : 0 < maxData maxPacketSize dataType := maxData_pos hsize.1
    by_cases htakes : half.TakesWhole
        (dataWire dataType (dataBuf.take (maxData maxPacketSize dataType)))
    · refine .inr ⟨_, _, sendNextData_of_takesWhole hsize htype htakes, ?_, ?_, rfl, ?_⟩
      · intro hne
        have hlength := List.length_pos_iff.mpr hne
        rw [List.length_take]
        omega
      · rw [List.length_take, ← List.take_eq_take_min]
        exact take_ok hsize dataBuf
      · rw [List.length_take, ← List.take_eq_take_min]
        rfl
    · exact .inl (sendNextData_of_not_takesWhole hsize htype htakes)

omit hsize in
theorem writeDataLoop_returns (written : Nat) (half : SendHalf) (hfuel : dataBuf.length ≤ fuel) :
    ∃ n err half', call (writeDataLoop maxPacketSize dataType fuel dataBuf written) half =
      .ok (.ok (some (n, err)), half') := by
  -- on the fuel: a turn that goes on has taken a byte off the buffer
  induction fuel generalizing dataBuf written half with
  | zero =>
    obtain rfl := List.length_eq_zero_iff.mp (Nat.le_zero.mp hfuel)
    exact ⟨_, _, _, rfl⟩
  | succ fuel ih =>
    cases dataBuf with
    | nil => exact ⟨_, _, _, rfl⟩
    | cons b bs =>
      rw [writeDataLoop, call_bind, call_attempt]
      obtain ⟨err, half', hturn⟩ | ⟨n, half', hturn, hpos, -⟩ :=
        call_sendNextData htype (b :: bs) half
      · rw [hturn]
        exact ⟨_, _, _, rfl⟩
      · rw [hturn]
        apply ih
        have hn := hpos (List.cons_ne_nil _ _)
        rw [List.length_drop]
        omega

omit hsize in
theorem writeDataLoop_eq_ok {written n : Nat} {half' : SendHalf}
    (h : call (writeDataLoop maxPacketSize dataType fuel dataBuf written) half =
      .ok (.ok (some (n, none)), half')) :
    half'.header = half.header ∧ ∃ payloads : List (List UInt8), payloads.flatten = dataBuf ∧
      (∀ payload ∈ payloads, Proto.SshBytesOk payload) ∧
      half'.sent = half.sent ++ payloads.flatMap (dataWire dataType) := by
  induction fuel generalizing dataBuf written half with
  | zero =>
    cases dataBuf with
    | nil =>
      cases h
      exact ⟨rfl, [], rfl, List.forall_mem_nil _, (List.append_nil _).symm⟩
    | cons b bs => cases h
  | succ fuel ih =>
    cases dataBuf with
    | nil =>
      cases h
      exact ⟨rfl, [], rfl, List.forall_mem_nil _, (List.append_nil _).symm⟩
    | cons b bs =>
      rw [writeDataLoop, call_bind, call_attempt] at h
      obtain ⟨err, mid, hturn⟩ | ⟨k, mid, hturn, -, hok, hheader, hsent⟩ :=
        call_sendNextData htype (b :: bs) half
      · rw [hturn] at h
        cases h
      · rw [hturn] at h
        obtain ⟨hkept, payloads, hflat, hall, hrest⟩ := ih h
        refine ⟨hkept.trans hheader, (b :: bs).take k :: payloads, ?_, ?_, ?_⟩
        · rw [List.flatten_cons, hflat, List.take_append_drop]
        · exact List.forall_mem_cons.mpr ⟨hok, hall⟩
        · rw [hrest, hsent, List.flatMap_cons, List.append_assoc]

omit hsize in
/-- `WriteData` comes back, whatever the stream does. -/
theorem WriteData_returns (half : SendHalf) (hfuel : dataBuf.length ≤ fuel) :
    ∃ n err half', call (WriteData maxPacketSize fuel dataBuf dataType) half =
      .ok (.ok (some (n, err)), half') := by
  obtain ⟨result, mid, hheader⟩ := returns_maybeSendHeaderLocked half
  rw [WriteData, call_bind, call_attempt, hheader]
  cases result with
  | error err => exact ⟨_, _, _, rfl⟩
  | ok u => exact writeDataLoop_returns htype 0 mid hfuel

omit hsize in
/-- If it reports no error, the whole buffer has been sent, in data messages behind the
    pending header. -/
theorem WriteData_eq_ok {n : Nat} {half' : SendHalf}
    (h : call (WriteData maxPacketSize fuel dataBuf dataType) half =
      .ok (.ok (some (n, none)), half')) :
    half'.header = [] ∧ ∃ payloads : List (List UInt8), payloads.flatten = dataBuf ∧
      (∀ payload ∈ payloads, Proto.SshBytesOk payload) ∧
      half'.sent = half.sent ++ half.header ++ payloads.flatMap (dataWire dataType) := by
  obtain ⟨result, mid, hheader⟩ := returns_maybeSendHeaderLocked half
  rw [WriteData, call_bind, call_attempt, hheader] at h
  cases result with
  | error err => cases h
  | ok u =>
    obtain ⟨hnone, hsent⟩ := maybeSendHeaderLocked_eq_ok hheader
    obtain ⟨hkept, payloads, hflat, hall, hrest⟩ := writeDataLoop_eq_ok htype h
    exact ⟨hkept.trans hnone, payloads, hflat, hall, by rw [hrest, hsent]⟩

end Loop

/-! ## The messages of one call -/

/-- **Chunking.**  Let the packet size of the channel be one that `validatePacketSize` allows.
    The messages of a call of `WriteData` carry its data type and together its buffer; none is
    empty, and none is longer than the packet size.  If the stream takes them all, the call
    returns the length of the buffer and has written them right behind the pending header; if
    a message is not taken whole, the count returned is that of the messages before it. -/
theorem WriteData_chunks {maxPacketSize : UInt64} {dataType : SshDataType}
    (hsize : 64 ≤ maxPacketSize.toNat ∧ maxPacketSize.toNat ≤ 16 * 1024 * 1024)
    (htype : dataType ≤ Proto.MAX_VARINT) (dataBuf : List UInt8) :
    ∃ frames payloads : List (List UInt8), payloads.flatten = dataBuf ∧
      List.Forall₂ (fun frame payload => payload ≠ [] ∧ frame.length ≤ maxPacketSize.toNat ∧
        ∀ ending, Accepts (parseMessage ending) frame (.data { dataType, data := payload }, none))
        frames payloads ∧
      ∀ (half : SendHalf) (fuel : Nat), half.TakesHeader → dataBuf.length ≤ fuel →
        (half.sentHeader.TakesAll frames → ∃ half',
          call (WriteData maxPacketSize fuel dataBuf dataType) half =
            .ok (.ok (some (dataBuf.length, none)), half') ∧
          half'.header = [] ∧ half'.sent = half.sent ++ half.header ++ frames.flatten) ∧
        ∀ k < frames.length, half.sentHeader.TakesAll (frames.take k) →
          ¬(half.sentHeader.wroteAll (frames.take k)).TakesWhole (frames.getD k []) →
          ∃ err half', call (WriteData maxPacketSize fuel dataBuf dataType) half =
            .ok (.ok (some ((payloads.take k).flatten.length, some err)), half') := by
  have hpos : 0 < maxData maxPacketSize dataType := maxData_pos hsize.1
  refine ⟨dataFrames maxPacketSize dataType dataBuf,
    chunks (maxData maxPacketSize dataType) dataBuf, flatten_chunks hpos dataBuf, ?_, ?_⟩
  · rw [dataFrames, List.forall₂_map_left_iff, List.forall₂_same]
    intro payload hpayload
    have hle : payload.length ≤ maxData maxPacketSize dataType :=
      Nat.le_trans (length_le_of_mem_chunks hpos hpayload) (Nat.min_le_left _ _)
    exact ⟨ne_nil_of_mem_chunks hpos hpayload, length_dataWire_le hsize.1 hle,
      fun ending => accepts_dataWire ending htype (sshBytesOk_of_le hsize.2 hle)⟩
  · intro half fuel hheader hfuel
    obtain ⟨hsent, hnone⟩ := half.sent_sentHeader
    rw [WriteData_eq hheader]
    constructor
    · intro htakes
      have hcall := writeDataLoop_of_takesAll hsize htype 0 hfuel htakes
      rw [Nat.zero_add] at hcall
      obtain ⟨hwritten, hheader'⟩ :=
        half.sentHeader.sent_wroteAll (dataFrames maxPacketSize dataType dataBuf)
      exact ⟨_, hcall, hheader'.trans hnone, by rw [hwritten, hsent]⟩
    · intro k hk htakes hfail
      have hcall := writeDataLoop_of_failure hsize htype 0 hfuel hk htakes hfail
      rwa [Nat.zero_add] at hcall

/-- A hundred bytes in messages of at most 64, behind a pending header. -/
theorem WriteData_chunks_hundred :
    ∃ (frames payloads : List (List UInt8)) (half' : SendHalf),
      payloads.flatten = List.replicate 100 7 ∧
      call (WriteData 64 100 (List.replicate 100 7) 0) ⟨[1, 2], [], []⟩ =
        .ok (.ok (some (100, none)), half') ∧ half'.sent = [1, 2] ++ frames.flatten := by
  have hsize : 64 ≤ (64 : UInt64).toNat ∧ (64 : UInt64).toNat ≤ 16 * 1024 * 1024 := by decide
  have htype : (0 : SshDataType) ≤ Proto.MAX_VARINT := by decide
  obtain ⟨frames, payloads, hpayloads, -, hcalls⟩ :=
    WriteData_chunks hsize htype (List.replicate 100 7)
  have hheader : SendHalf.TakesHeader ⟨[1, 2], [], []⟩ := by
    simp [SendHalf.TakesHeader, SendHalf.TakesWhole]
  obtain ⟨half', hcall, -, hsent⟩ := (hcalls _ 100 hheader (by simp)).1
    (SendHalf.takesAll_of_outcomes_eq_nil rfl frames)
  exact ⟨frames, payloads, half', hpayloads, hcall, hsent⟩

end Ssh3.Go
