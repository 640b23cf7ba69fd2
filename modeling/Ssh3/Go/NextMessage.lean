/-
  Ssh3.Go.NextMessage

  `NextMessage` on a stream of encoded messages, against `next_message`.

  As in Rust, a call passes over open confirmations and ends at the first other message.
  But the Go receiver looks at the packet size that a confirmation names and returns an
  error if it is out of range, where the Rust receiver goes on.
-/

import Ssh3.Core.NextMessage
import Ssh3.Go.Channel
import Ssh3.Go.MessageCodec

namespace Ssh3.Go

open Fallible Skipping
open Ssh3.Core (openFailure length_le_length_wires)

/-! ## The calls -/

/-- What a message makes a call return; a confirmation in range is passed over. -/
def verdict : Proto.Message → Option (Except GoError Message)
  | .channelOpenConfirmation message =>
    match validatePacketSize message.maxPacketSize with
    | .error err => some (.error err)
    | .ok () => none
  | .channelOpenFailure message =>
    some (.error (.channelOpenFailure message.reasonCode message.errorMessageUtf8))
  | message => some (.ok (.ofProto message))

theorem verdict_of_valid {message : Proto.ChannelOpenConfirmationMessage}
    (h : validatePacketSize message.maxPacketSize = .ok ()) :
    verdict (.channelOpenConfirmation message) = none := by
  simp only [verdict, h]

theorem verdict_of_outOfRange {message : Proto.ChannelOpenConfirmationMessage} {err : GoError}
    (h : validatePacketSize message.maxPacketSize = .error err) :
    verdict (.channelOpenConfirmation message) = some (.error err) := by
  simp only [verdict, h]

/-- The messages that both languages read. -/
structure Readable (message : Proto.Message) : Prop where
  encodable : message.Encodable
  notForwardPort : ¬IsForwardPort message

/-- The state after calls have read `base` up to these messages and `rest`, and have passed over
    a confirmation or not. -/
def RecvHalf.reading (base : RecvHalf) (rest : List UInt8) (messages : List Proto.Message)
    (confirmed : Bool) : RecvHalf :=
  { base with
    confirmReceived := base.confirmReceived || confirmed
    recv := messages.flatMap Proto.Message.wire ++ rest }

theorem reading_false {s : RecvHalf} {messages : List Proto.Message} {rest : List UInt8}
    (h : s.recv = messages.flatMap Proto.Message.wire ++ rest) :
    s.reading rest messages false = s := by
  rw [RecvHalf.reading, ← h, Bool.or_false]

section Receiving

variable (ending : GoError) {base s : RecvHalf} {message : Proto.Message} {rest : List UInt8}

theorem nextMessage_reading (h : Readable message) (messages : List Proto.Message)
    (confirmed : Bool) :
    call (nextMessage ending) (base.reading rest (message :: messages) confirmed) =
      .ok (.ok (.ofProto message), base.reading rest messages confirmed) := by
  have haccepts := accepts_of_reads ending (Proto.Message.coded h.encodable).reads
    h.notForwardPort (messages.flatMap Proto.Message.wire ++ rest)
  rw [call_nextMessage]
  simp only [RecvHalf.reading, List.flatMap_cons, List.append_assoc, haccepts]

theorem nextMessageLoop_nil (hrecv : s.recv = []) (n : Nat) :
    call (nextMessageLoop ending n) s = .ok (.error ending, s) := by
  cases n with
  | zero => rfl
  | succ n =>
    have hnext : call (nextMessage ending) s = .ok (.error ending, s) := by
      obtain ⟨confirmSent, confirmReceived, recv⟩ := s
      cases hrecv
      rfl
    rw [nextMessageLoop, call_bind_of_error hnext]

/-- On encoded messages, a call passes over the confirmations in range and ends at the first
    other message. -/
theorem skips_NextMessage (hconfirm : base.confirmSent = true) (rest : List UInt8) :
    Skips (NextMessage ending) (nextMessageLoop ending) (base.reading rest) verdict Readable where
  enough := by
    intro messages confirmed
    refine ⟨(base.reading rest messages confirmed).recv.length, ?_, ?_⟩
    · have hle := length_le_length_wires messages
      simp only [RecvHalf.reading, List.length_append]
      omega
    · rw [NextMessage, call_bind_of_ok (call_get _)]
  pass := by
    intro message messages confirmed n hreadable hverdict
    rw [nextMessageLoop, call_bind_of_ok (nextMessage_reading ending hreadable messages confirmed)]
    cases message with
    | channelRequest _ | channelOpenFailure _ | data _ => cases hverdict
    | channelOpenConfirmation message =>
      cases hvalid : validatePacketSize message.maxPacketSize with
      | error err =>
        rw [verdict_of_outOfRange hvalid] at hverdict
        cases hverdict
      | ok u =>
        simp only [Message.ofProto, hvalid]
        rw [call_bind_of_ok (call_modify _ _)]
        simp only [RecvHalf.reading, Bool.or_true]
  stop := by
    intro message result messages confirmed n hreadable hverdict
    rw [nextMessageLoop, call_bind_of_ok (nextMessage_reading ending hreadable messages confirmed)]
    cases message with
    | channelOpenConfirmation message =>
      cases hvalid : validatePacketSize message.maxPacketSize with
      | ok u =>
        rw [verdict_of_valid hvalid] at hverdict
        cases hverdict
      | error err =>
        rw [verdict_of_outOfRange hvalid] at hverdict
        cases hverdict
        simp only [Message.ofProto, hvalid]
        rfl
    | channelOpenFailure failure =>
      cases hverdict
      rfl
    | channelRequest message | data message =>
      cases hverdict
      show call (get >>= _) _ = _
      rw [call_bind_of_ok (call_get _)]
      simp only [RecvHalf.reading, hconfirm]
      rfl

/-- What the calls from `s` have still to return, of the stream that `base` reads. -/
abbrev Ahead (base : RecvHalf) (rest : List UInt8) (s : RecvHalf)
    (messages : List Proto.Message) : Prop :=
  Skipping.Ahead (base.reading rest) verdict Readable s messages

/-- The first `n` results -/
theorem calls_NextMessage {messages : List Proto.Message}
    (hrecv : s.recv = messages.flatMap Proto.Message.wire)
    (hreadable : ∀ message ∈ messages, Readable message) (hconfirm : s.confirmSent = true)
    {n : Nat} (hn : n ≤ (results verdict ending messages).length) :
    ∃ t, calls (NextMessage ending) n s = .ok ((results verdict ending messages).take n, t) := by
  obtain ⟨consumed, remaining, -, hcalls⟩ := (skips_NextMessage ending hconfirm []).calls_eq
    (fun passed n => nextMessageLoop_nil ending rfl n) hreadable false hn
  rw [← List.append_nil (messages.flatMap Proto.Message.wire)] at hrecv
  rw [reading_false hrecv] at hcalls
  exact ⟨_, hcalls⟩

end Receiving

/-! ## Against the Rust receiver -/

/-- The Go result that stands for a result of `next_message`; an error that is not sent by the
    peer is how the stream ends. -/
def resultOfProto (ending : GoError) : Except Core.ChannelError Proto.Message →
    Except GoError Message
  | .ok message => .ok (.ofProto message)
  | .error (.openFailure reasonCode errorMsg) => .error (.channelOpenFailure reasonCode errorMsg)
  | .error _ => .error ending

/-- Every confirmation in front of the first refusal is one that Go passes over. -/
def ConfirmationsInRange : List Proto.Message → Prop
  | [] => True
  | .channelOpenConfirmation message :: messages =>
    validatePacketSize message.maxPacketSize = .ok () ∧ ConfirmationsInRange messages
  | .channelOpenFailure _ :: _ => True
  | _ :: messages => ConfirmationsInRange messages

section Agreement

variable (ending : GoError) (ioEnding : Proto.IoError) {messages : List Proto.Message}

/-- With confirmations in range, the two receivers return the same. -/
theorem results_eq_map (h : ConfirmationsInRange messages) :
    results verdict ending messages =
      (results Core.verdict (.io ioEnding) messages).map (resultOfProto ending) := by
  induction messages with
  | nil => rfl
  | cons message messages ih =>
    cases message with
    | channelOpenConfirmation confirmation =>
      obtain ⟨hsize, hrest⟩ := h
      rw [results_of_none (verdict_of_valid hsize), results_of_none rfl, ih hrest]
    | channelOpenFailure failure => rfl
    | channelRequest request =>
      exact congrArg (.ok (.ofProto (.channelRequest request)) :: ·) (ih h)
    | data data => exact congrArg (.ok (.ofProto (.data data)) :: ·) (ih h)

/-- What Rust returns for the messages in front of a confirmation out of range, Go returns
    as well; then Go fails, and Rust goes on. -/
theorem results_outOfRange {before : List Proto.Message}
    (after : List Proto.Message) {confirmation : Proto.ChannelOpenConfirmationMessage}
    {err : GoError}
    (hbefore : ∀ message ∈ before, openFailure message = none)
    (hrange : ConfirmationsInRange before)
    (hsize : validatePacketSize confirmation.maxPacketSize = .error err) :
    ∃ shared : List Proto.Message,
      results verdict ending (before ++ .channelOpenConfirmation confirmation :: after) =
        shared.map (fun message => .ok (.ofProto message)) ++ [.error err] ∧
      results Core.verdict (.io ioEnding)
          (before ++ .channelOpenConfirmation confirmation :: after) =
        shared.map .ok ++ results Core.verdict (.io ioEnding) after := by
  induction before with
  | nil => exact ⟨[], results_of_error (verdict_of_outOfRange hsize), rfl⟩
  | cons message before ih =>
    obtain ⟨hmessage, hrest⟩ := List.forall_mem_cons.mp hbefore
    cases message with
    | channelOpenConfirmation passed =>
      obtain ⟨hpassed, hrange⟩ := hrange
      obtain ⟨shared, hgo, hrust⟩ := ih hrest hrange
      refine ⟨shared, ?_, hrust⟩
      rw [List.cons_append, results_of_none (verdict_of_valid hpassed), hgo]
    | channelOpenFailure failure => cases hmessage
    | channelRequest request =>
      obtain ⟨shared, hgo, hrust⟩ := ih hrest hrange
      exact ⟨.channelRequest request :: shared, congrArg (_ :: ·) hgo, congrArg (_ :: ·) hrust⟩
    | data data =>
      obtain ⟨shared, hgo, hrust⟩ := ih hrest hrange
      exact ⟨.data data :: shared, congrArg (_ :: ·) hgo, congrArg (_ :: ·) hrust⟩

end Agreement

/-- **Two receivers, one stream.**  A Rust and a Go channel that have both confirmed read the
    same encoded messages.  If the confirmations among them name packet sizes within range, the
    first `n` calls of `NextMessage` return what the first `n` calls of `next_message` return,
    up to the first error.  A confirmation out of range is where they part: Go returns what
    Rust returns for the messages in front of it and then an error, and Rust goes on with the
    messages behind it. -/
theorem NextMessage_agrees_with_next_message (messages : List Proto.Message)
    (hreadable : ∀ message ∈ messages, Readable message) (s : Core.Endpoint) (half : RecvHalf)
    (hencoded : StreamCodec.encodeAll Proto.Message.encode messages [] = .ok s.incoming)
    (hrecv : half.recv = s.incoming) (hrust : s.channel.confirmSent = true)
    (hgo : half.confirmSent = true) (ending : GoError) :
    (ConfirmationsInRange messages →
      ∀ n ≤ (Core.nextMessageResults s.ending messages).length, ∃ results t half',
        calls Core.nextMessage n s = .ok (results, t) ∧
        calls (NextMessage ending) n half =
          .ok (results.map (resultOfProto ending), half')) ∧
    (∀ before confirmation after,
      messages = before ++ .channelOpenConfirmation confirmation :: after →
      (∀ message ∈ before, openFailure message = none) → ConfirmationsInRange before →
      ¬(64 ≤ confirmation.maxPacketSize.toNat ∧
        confirmation.maxPacketSize.toNat ≤ 16 * 1024 * 1024) →
      ∃ (shared : List Proto.Message) (t : Core.Endpoint) (half' : RecvHalf),
        calls Core.nextMessage (shared.length + 1) s =
          .ok (shared.map .ok ++ (Core.nextMessageResults s.ending after).take 1, t) ∧
        calls (NextMessage ending) (shared.length + 1) half =
          .ok (shared.map (fun message => .ok (.ofProto message)) ++
            [.error (.packetSizeOutOfRange confirmation.maxPacketSize)], half')) := by
  have hwires : s.incoming = messages.flatMap Proto.Message.wire := by
    have hall := StreamCodec.encodeAll_eq messages
      (fun message hmem => (Proto.Message.coded (hreadable message hmem).encodable).encode) []
    rw [hencoded] at hall
    exact Except.ok.inj hall
  have hcore {n : Nat} (hn : n ≤ (Core.nextMessageResults s.ending messages).length) :
      ∃ t, calls Core.nextMessage n s =
        .ok ((Core.nextMessageResults s.ending messages).take n, t) := by
    obtain ⟨consumed, remaining, -, hcalls⟩ := Core.calls_nextMessage hwires
      (fun message hmem => (hreadable message hmem).encodable) hrust hn
    exact ⟨_, hcalls⟩
  have hcalls {n : Nat} (hn : n ≤ (results verdict ending messages).length) :=
    calls_NextMessage ending (hrecv.trans hwires) hreadable hgo hn
  simp only [Core.nextMessageResults_eq] at hcore ⊢
  constructor
  · intro hrange n hn
    have hsame := results_eq_map ending s.ending hrange
    obtain ⟨t, ht⟩ := hcore hn
    obtain ⟨half', hhalf⟩ := hcalls (n := n) (by rw [hsame, List.length_map]; exact hn)
    refine ⟨_, t, half', ht, ?_⟩
    rw [hhalf, hsame, List.map_take]
  · rintro before confirmation after rfl hbefore hrange hsize
    -- the size is the one the error names
    have herr : validatePacketSize confirmation.maxPacketSize =
        .error (.packetSizeOutOfRange confirmation.maxPacketSize) := by
      cases hvalid : validatePacketSize confirmation.maxPacketSize with
      | ok u => exact absurd (validatePacketSize_eq_ok.mp hvalid) hsize
      | error err =>
        unfold validatePacketSize at hvalid
        split_ifs at hvalid
        cases hvalid
        rfl
    obtain ⟨shared, hgoResults, hrustResults⟩ :=
      results_outOfRange ending s.ending after hbefore hrange herr
    have hmore : 0 < (results Core.verdict (.io s.ending) after).length :=
      List.length_pos_iff.mpr (results_ne_nil after)
    obtain ⟨t, ht⟩ := hcore (n := shared.length + 1) (by
      rw [hrustResults, List.length_append, List.length_map]
      omega)
    obtain ⟨half', hhalf⟩ := hcalls (n := shared.length + 1) (by
      rw [hgoResults, List.length_append, List.length_map, List.length_singleton])
    refine ⟨shared, t, half', ?_, ?_⟩
    · rw [ht, hrustResults, List.take_append, List.length_map, Nat.add_sub_cancel_left,
        List.take_of_length_le (by rw [List.length_map]; omega)]
    · rw [hhalf, hgoResults, List.take_of_length_le (by
        rw [List.length_append, List.length_map, List.length_singleton])]

/-- Data between a confirmation that is in range and one that is not. -/
def mixedStream : List Proto.Message :=
  [.channelOpenConfirmation ⟨100⟩, .data ⟨0, [104, 105]⟩, .channelOpenConfirmation ⟨5⟩,
    .channelRequest ⟨true, .shell⟩]

/-- Both return the data; the second call fails in Go and returns the request in Rust. -/
theorem NextMessage_agrees_on_mixedStream :
    ∃ (shared : List Proto.Message) (t : Core.Endpoint) (half' : RecvHalf),
    calls Core.nextMessage (shared.length + 1)
        { Core.freshEndpoint 64 with incoming := mixedStream.flatMap Proto.Message.wire } =
      .ok (shared.map .ok ++ [.ok (.channelRequest ⟨true, .shell⟩)], t) ∧
    calls (NextMessage .eof) (shared.length + 1)
        ⟨true, false, mixedStream.flatMap Proto.Message.wire⟩ =
      .ok (shared.map (fun message => .ok (.ofProto message)) ++
        [.error (.packetSizeOutOfRange 5)], half') := by
  have hreadable : ∀ message ∈ mixedStream, Readable message := by
    have hmax : (100 : UInt64) ≤ Proto.MAX_VARINT := by decide
    have hsmall : (5 : UInt64) ≤ Proto.MAX_VARINT := by decide
    simp only [mixedStream, List.forall_mem_cons]
    exact ⟨⟨hmax, by decide⟩, ⟨⟨by decide, by decide⟩, by decide⟩, ⟨hsmall, by decide⟩,
      ⟨trivial, by decide⟩, List.forall_mem_nil _⟩
  exact (NextMessage_agrees_with_next_message mixedStream hreadable
    { Core.freshEndpoint 64 with incoming := mixedStream.flatMap Proto.Message.wire }
    ⟨true, false, mixedStream.flatMap Proto.Message.wire⟩ rfl rfl rfl rfl .eof).2
    [.channelOpenConfirmation ⟨100⟩, .data ⟨0, [104, 105]⟩] ⟨5⟩ [.channelRequest ⟨true, .shell⟩]
    rfl (List.forall_mem_cons.mpr ⟨rfl, List.forall_mem_singleton.mpr rfl⟩)
    ⟨by decide, trivial⟩ (by decide)

end Ssh3.Go
