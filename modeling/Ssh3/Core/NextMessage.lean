/-
  Ssh3.Core.NextMessage

  `next_message` on a stream of encoded messages.

  A call passes over open confirmations, which it notes, and ends at the first other
  message: data and requests are returned, a refused channel is an error, and so is
  the end of the stream.  `nextMessageResults` lists what successive calls return, in
  terms of the messages alone.
-/

import Ssh3.Core.MessageReaderSpec
import Ssh3.Core.PacketLimit
import Ssh3.Lib.Skipping

namespace Ssh3.Core

open Proto Fallible StreamCodec Skipping

def isOpenConfirmation : Message → Bool
  | .channelOpenConfirmation _ => true
  | .channelRequest _ | .channelOpenFailure _ | .data _ => false

/-- The error of a message that refuses the channel. -/
def openFailure : Message → Option ChannelError
  | .channelOpenFailure message =>
    some (.openFailure message.reasonCode message.errorMessageUtf8)
  | .channelRequest _ | .channelOpenConfirmation _ | .data _ => none

/-- What the calls return, up to the first error: the messages that are no confirmations, and
    then the failure they end at, or the end of the stream. -/
def nextMessageResults (ending : IoError) (messages : List Message) :
    List (Except ChannelError Message) :=
  ((messages.takeWhile fun message => (openFailure message).isNone).filter
      fun message => !isOpenConfirmation message).map .ok ++
    [.error ((messages.findSome? openFailure).getD (.io ending))]

/-- What a message makes a call return; a confirmation is passed over. -/
def verdict : Message → Option (Except ChannelError Message)
  | .channelOpenConfirmation _ => none
  | .channelOpenFailure message =>
    some (.error (.openFailure message.reasonCode message.errorMessageUtf8))
  | .channelRequest message => some (.ok (.channelRequest message))
  | .data message => some (.ok (.data message))

theorem isNone_verdict (message : Message) :
    (verdict message).isNone = isOpenConfirmation message := by
  cases message <;> rfl

theorem nextMessageResults_eq (ending : IoError) (messages : List Message) :
    nextMessageResults ending messages = results verdict (.io ending) messages := by
  induction messages with
  | nil => rfl
  | cons message messages ih =>
    cases message with
    | channelOpenFailure failure => rfl
    | channelOpenConfirmation confirmation => exact ih
    | channelRequest request => exact congrArg (.ok (.channelRequest request) :: ·) ih
    | data data => exact congrArg (.ok (.data data) :: ·) ih

/-! ## The calls -/

/-- The state after calls have read `base` up to these messages and `rest`, and have seen a
    confirmation or not. -/
def Endpoint.reading (base : Endpoint) (rest : List UInt8) (messages : List Message)
    (confirmed : Bool) : Endpoint :=
  { base with
    channel := { base.channel with
      confirmReceived := base.channel.confirmReceived || confirmed }
    incoming := messages.flatMap Message.wire ++ rest }

theorem reading_false {s : Endpoint} {messages : List Message} {rest : List UInt8}
    (h : s.incoming = messages.flatMap Message.wire ++ rest) :
    s.reading rest messages false = s := by
  rw [Endpoint.reading, ← h, Bool.or_false]

/-- No message is encoded in no bytes. -/
theorem length_le_length_wires (messages : List Message) :
    messages.length ≤ (messages.flatMap Message.wire).length := by
  induction messages with
  | nil => exact Nat.le_refl 0
  | cons message messages ih =>
    have hpos := List.length_pos_iff.mpr message.wire_ne_nil
    rw [List.flatMap_cons, List.length_append, List.length_cons]
    omega

section Receiving

variable {base s t : Endpoint} {message : Message} {rest : List UInt8}

theorem recvMessage_reading (h : message.Encodable) (messages : List Message) (confirmed : Bool) :
    call recvMessage (base.reading rest (message :: messages) confirmed) =
      .ok (.ok message, base.reading rest messages confirmed) := by
  have hread := reads_parseMessage base.ending h (messages.flatMap Message.wire ++ rest)
  rw [recvMessage, call_bind_of_ok (call_get _)]
  simp only [Endpoint.reading, List.flatMap_cons, List.append_assoc, hread]
  rfl

theorem nextMessageWithin_nil (hincoming : s.incoming = []) (n : Nat) :
    call (nextMessageWithin (n + 1)) s = .ok (.error (.io s.ending), s) := by
  have hrecv : call recvMessage s = .ok (.error (.io s.ending), s) := by
    rw [recvMessage, call_bind_of_ok (call_get s), hincoming]
    rfl
  rw [nextMessageWithin, call_bind_of_error hrecv]

/-- On encoded messages, a call notes the confirmations and ends at the first other message. -/
theorem skips_nextMessage (hconfirm : base.channel.confirmSent = true) (rest : List UInt8) :
    Skips nextMessage (fun n => nextMessageWithin (n + 1)) (base.reading rest) verdict
      Message.Encodable where
  enough := by
    intro messages confirmed
    refine ⟨(base.reading rest messages confirmed).incoming.length, ?_, ?_⟩
    · have hle := length_le_length_wires messages
      simp only [Endpoint.reading, List.length_append]
      omega
    · rw [nextMessage, call_bind_of_ok (call_get _)]
  pass := by
    intro message messages confirmed n hencodable hverdict
    cases message with
    | channelOpenFailure _ | channelRequest _ | data _ => cases hverdict
    | channelOpenConfirmation confirmation =>
      rw [nextMessageWithin, call_bind_of_ok (recvMessage_reading hencodable messages confirmed)]
      show call (noteConfirmation >>= _) _ = _
      rw [noteConfirmation, call_bind_of_ok (call_modify _ _)]
      simp only [Endpoint.reading, Bool.or_true]
  stop := by
    intro message result messages confirmed n hencodable hverdict
    rw [nextMessageWithin, call_bind_of_ok (recvMessage_reading hencodable messages confirmed)]
    cases message with
    | channelOpenConfirmation _ => cases hverdict
    | channelOpenFailure failure =>
      cases hverdict
      rfl
    | channelRequest message | data message =>
      cases hverdict
      show call (get >>= _) _ = _
      rw [call_bind_of_ok (call_get _)]
      exact congrArg (call · _) (if_pos hconfirm)

/-- What the calls from `s` have still to return, of the stream that `base` reads. -/
abbrev Ahead (base : Endpoint) (rest : List UInt8) (s : Endpoint) (messages : List Message) :
    Prop :=
  Skipping.Ahead (base.reading rest) verdict Message.Encodable s messages

theorem Ahead.of_incoming {messages : List Message}
    (hincoming : s.incoming = messages.flatMap Message.wire ++ rest) : Ahead s rest s messages :=
  ⟨[], false, List.forall_mem_nil _, (reading_false hincoming).symm⟩

/-- The first `n` results, and what has been consumed for them. -/
theorem calls_nextMessage {messages : List Message}
    (hincoming : s.incoming = messages.flatMap Message.wire)
    (hencodable : ∀ message ∈ messages, message.Encodable)
    (hconfirm : s.channel.confirmSent = true) {n : Nat}
    (hn : n ≤ (nextMessageResults s.ending messages).length) :
    ∃ consumed remaining, messages = consumed ++ remaining ∧
      calls nextMessage n s = .ok ((nextMessageResults s.ending messages).take n,
        s.reading [] remaining (consumed.any isOpenConfirmation)) := by
  rw [nextMessageResults_eq] at hn ⊢
  obtain ⟨consumed, remaining, hsplit, hcalls⟩ := (skips_nextMessage hconfirm []).calls_eq
    (fun passed n => nextMessageWithin_nil rfl n) hencodable false hn
  rw [← List.append_nil (messages.flatMap Message.wire)] at hincoming
  simp only [reading_false hincoming, isNone_verdict, Bool.false_or] at hcalls
  exact ⟨consumed, remaining, hsplit, hcalls⟩

/-! ## Before the confirmation is sent -/

theorem recvMessage_eq_ok (h : call recvMessage s = .ok (.ok message, t)) :
    ∃ incoming, t = { s with incoming } := by
  rw [recvMessage, call_bind_of_ok (call_get s)] at h
  cases hparse : (parseMessage (channelSource s.ending)).run s.incoming with
  | error err =>
    rw [hparse] at h
    cases err <;> cases h
  | ok result =>
    rw [hparse] at h
    cases h
    exact ⟨result.2, rfl⟩

theorem nextMessageWithin_unconfirmed (hconfirm : s.channel.confirmSent = false) (n : Nat) :
    call (nextMessageWithin n) s ≠ .ok (.ok message, t) := by
  -- no pass sets the flag that the last one reads
  induction n generalizing s with
  | zero =>
    intro h
    cases h
  | succ n ih =>
    intro h
    rw [nextMessageWithin] at h
    obtain ⟨first, mid, hrecv, hthen⟩ := call_bind_eq_ok.mp h
    obtain ⟨incoming, rfl⟩ := recvMessage_eq_ok hrecv
    cases first with
    | channelOpenConfirmation confirmation =>
      exact ih (s := { s with
        channel := { s.channel with confirmReceived := true }, incoming }) hconfirm hthen
    | channelOpenFailure failure => cases hthen
    | channelRequest _ | data _ =>
      change call (get >>= _) _ = _ at hthen
      rw [call_bind_of_ok (call_get _), if_neg (by rw [hconfirm]; decide)] at hthen
      cases hthen

end Receiving

/-- **In-order delivery.**  On a stream of encoded messages, the calls of `next_message` on a
    channel whose confirmation has been sent return the messages that are no confirmations, in
    order, and then the error of the first open failure or of the end of the stream.  After any
    number of these calls, `confirm_received` is set exactly if it was before or one of the
    messages consumed was a confirmation.  Until the confirmation is sent, no call returns a
    message, whatever the stream carries. -/
theorem nextMessage_delivers_in_order :
    (∀ (s : Endpoint) (messages : List Message),
      (∀ message ∈ messages, message.Encodable) →
      encodeAll Message.encode messages [] = .ok s.incoming →
      s.channel.confirmSent = true →
      ∀ n ≤ (nextMessageResults s.ending messages).length, ∃ consumed remaining t,
        messages = consumed ++ remaining ∧
        calls nextMessage n s = .ok ((nextMessageResults s.ending messages).take n, t) ∧
        encodeAll Message.encode remaining [] = .ok t.incoming ∧
        (t.channel.confirmReceived = true ↔ s.channel.confirmReceived = true ∨
          ∃ message ∈ consumed, isOpenConfirmation message = true)) ∧
    (∀ s : Endpoint, s.channel.confirmSent = false →
      ∀ message t, call nextMessage s ≠ .ok (.ok message, t)) := by
  have hencode : ∀ messages : List Message, (∀ message ∈ messages, message.Encodable) →
      encodeAll Message.encode messages [] = .ok (messages.flatMap Message.wire) :=
    fun messages hok =>
      encodeAll_eq messages (fun message hmem => (Message.coded (hok message hmem)).encode) []
  constructor
  · intro s messages hencodable hencoded hconfirm n hn
    rw [hencode messages hencodable] at hencoded
    obtain ⟨consumed, remaining, rfl, hcalls⟩ :=
      calls_nextMessage (Except.ok.inj hencoded).symm hencodable hconfirm hn
    refine ⟨consumed, remaining, _, rfl, hcalls, ?_, ?_⟩
    · rw [hencode remaining fun message hmem => hencodable message (List.mem_append_right _ hmem)]
      exact congrArg Except.ok (List.append_nil _).symm
    · show (s.channel.confirmReceived || consumed.any isOpenConfirmation) = true ↔ _
      rw [Bool.or_eq_true, List.any_eq_true]
  · intro s hconfirm message t h
    rw [nextMessage, call_bind_of_ok (call_get s)] at h
    exact nextMessageWithin_unconfirmed hconfirm _ h

/-- A confirmation, two bytes of data and an open failure, in front of another message. -/
def refusedStream : List Message :=
  [.channelOpenConfirmation ⟨100⟩, .data ⟨0, [104, 105]⟩, .channelOpenFailure ⟨2, [33], []⟩,
    .channelRequest ⟨true, .shell⟩]

/-- The data and the failure, with a confirmation consumed; and no message on a channel whose
    own confirmation is still to be sent. -/
theorem nextMessage_delivers_refusedStream :
    (∃ consumed remaining t, refusedStream = consumed ++ remaining ∧
      calls nextMessage 2
          { freshEndpoint 64 with incoming := refusedStream.flatMap Message.wire } =
        .ok ([.ok (.data ⟨0, [104, 105]⟩), .error (.openFailure 2 [33])], t) ∧
      encodeAll Message.encode remaining [] = .ok t.incoming ∧
      (t.channel.confirmReceived = true ↔ (freshEndpoint 64).channel.confirmReceived = true ∨
        ∃ message ∈ consumed, isOpenConfirmation message = true)) ∧
    ∃ unsent : Endpoint, unsent.channel.confirmSent = false ∧
      unsent.incoming = refusedStream.flatMap Message.wire ∧
      ∀ message t, call nextMessage unsent ≠ .ok (.ok message, t) := by
  have hencodable : ∀ message ∈ refusedStream, message.Encodable := by
    have hmax : (100 : UInt64) ≤ MAX_VARINT := by decide
    simp only [refusedStream, List.forall_mem_cons]
    exact ⟨hmax, ⟨by decide, by decide⟩, ⟨by decide, by decide, by decide⟩, trivial,
      List.forall_mem_nil _⟩
  let unsent : Endpoint := { freshEndpoint 64 with
    channel := { (freshEndpoint 64).channel with confirmSent := false }
    incoming := refusedStream.flatMap Message.wire }
  constructor
  · exact nextMessage_delivers_in_order.1
      { freshEndpoint 64 with incoming := refusedStream.flatMap Message.wire } refusedStream
      hencodable rfl rfl 2 (by decide)
  · exact ⟨unsent, rfl, rfl, nextMessage_delivers_in_order.2 unsent rfl⟩

end Ssh3.Core
