/-
  Ssh3.Go.MessageSpec

  When the Go decoder panics.  Every parser below `ParseMessage` returns a value
  or an error on every input; `ParseMessage` itself panics exactly on a message
  type it has no case for.
-/

import Ssh3.Go.Message
import Ssh3.Go.WireSpec

namespace Ssh3.Go

open Fallible VarInt
open Proto (SSH_MSG_CHANNEL_REQUEST SSH_MSG_CHANNEL_OPEN_CONFIRMATION
  SSH_MSG_CHANNEL_OPEN_FAILURE SSH_MSG_CHANNEL_DATA SSH_MSG_CHANNEL_EXTENDED_DATA)

variable (ending : GoError)

/-! ## The parsers of the payloads return -/

theorem returns_unlessEof {α : Type} {zero : α} {wrap : GoError → GoError} {m : GoReader α}
    (h : Returns m) : Returns (unlessEof zero wrap m) := by
  apply returns_tryCatch (returns_bind h fun _ => returns_pure _)
  intro err
  split_ifs
  · exact returns_pure _
  · exact returns_throw _

theorem returns_asRequest {α : Type} {make : α → ChannelRequest}
    {m : GoReader (α × Option GoError)} (h : Returns m) : Returns (asRequest make m) :=
  returns_bind h fun _ => returns_pure _

theorem returns_parsePtyRequest : Returns (parsePtyRequest ending) := by
  have hstring := returns_parseSSHString ending
  have hnumber := returns_readVarInt ending
  refine returns_bind hstring fun term => ?_
  refine returns_bind hnumber fun charWidth => ?_
  refine returns_bind hnumber fun charHeight => ?_
  refine returns_bind hnumber fun pixelWidth => ?_
  refine returns_bind hnumber fun pixelHeight => ?_
  exact returns_bind (returns_unlessEof hstring) fun _ => returns_pure _

theorem returns_parseX11Request : Returns (parseX11Request ending) := by
  have hstring := returns_parseSSHString ending
  refine returns_bind (returns_binaryReadBool ending) fun singleConnection => ?_
  refine returns_bind hstring fun protocol => ?_
  refine returns_bind hstring fun cookie => ?_
  exact returns_bind (returns_unlessEof (returns_readVarInt ending)) fun _ => returns_pure _

theorem returns_parseWindowChangeRequest : Returns (parseWindowChangeRequest ending) := by
  have hnumber := returns_readVarInt ending
  refine returns_bind hnumber fun charWidth => ?_
  refine returns_bind hnumber fun charHeight => ?_
  refine returns_bind hnumber fun pixelWidth => ?_
  exact returns_bind (returns_unlessEof hnumber) fun _ => returns_pure _

theorem returns_parseExitSignalRequest : Returns (parseExitSignalRequest ending) := by
  have hstring := returns_parseSSHString ending
  refine returns_bind (returns_adapt _ hstring) fun name => ?_
  refine returns_bind (returns_binaryReadBool ending) fun coreDumped => ?_
  refine returns_bind (returns_adapt _ hstring) fun message => ?_
  exact returns_bind (returns_unlessEof hstring) fun _ => returns_pure _

/-- One entry of a map that is written as a chain of comparisons. -/
theorem of_entry {α : Type} {P : α → Prop} {c : Prop} [Decidable c] {a x : α} {others : Option α}
    (ha : P a) (hothers : others = some x → P x) (h : (if c then some a else others) = some x) :
    P x := by
  by_cases hc : c
  · rw [if_pos hc] at h
    cases h
    exact ha
  · rw [if_neg hc] at h
    exact hothers h

/-- Every parser in the map returns. -/
theorem returns_channelRequestParseFuncs {requestType : List UInt8}
    {parseFunc : GoReader (ChannelRequest × Option GoError)}
    (h : channelRequestParseFuncs ending requestType = some parseFunc) : Returns parseFunc := by
  have hstring := returns_parseSSHString ending
  unfold channelRequestParseFuncs at h
  revert h
  -- one step per entry of the map, in its order
  refine of_entry (returns_asRequest (returns_parsePtyRequest ending)) ?_
  refine of_entry (returns_asRequest (returns_parseX11Request ending)) ?_
  refine of_entry (returns_pure _) ?_
  refine of_entry
    (returns_asRequest (returns_bind (returns_unlessEof hstring) fun _ => returns_pure _)) ?_
  refine of_entry
    (returns_asRequest (returns_bind (returns_unlessEof hstring) fun _ => returns_pure _)) ?_
  refine of_entry (returns_asRequest (returns_parseWindowChangeRequest ending)) ?_
  refine of_entry
    (returns_asRequest (returns_bind (returns_unlessEof hstring) fun _ => returns_pure _)) ?_
  refine of_entry (returns_asRequest
    (returns_bind (returns_unlessEof (returns_readVarInt ending)) fun _ => returns_pure _)) ?_
  refine of_entry (returns_asRequest (returns_parseExitSignalRequest ending)) ?_
  intro hnone
  cases hnone

theorem returns_parseRequestMessage : Returns (parseRequestMessage ending) := by
  refine returns_bind (returns_parseSSHString ending) fun requestType => ?_
  refine returns_bind (returns_binaryReadBool ending) fun wantReply => ?_
  split
  · exact returns_throw _
  · next parseFunc hfunc =>
    have hparse := returns_channelRequestParseFuncs ending hfunc
    refine returns_bind (returns_tryCatch ?_ fun err => ?_) fun _ => returns_pure _
    · exact returns_bind hparse fun _ => returns_pure _
    · split_ifs
      · exact returns_pure _
      · exact returns_throw _

theorem returns_parseChannelOpenFailureMessage :
    Returns (parseChannelOpenFailureMessage ending) := by
  refine returns_bind (returns_readVarInt ending) fun reasonCode => ?_
  refine returns_bind (returns_parseSSHString ending) fun message => ?_
  exact returns_bind (returns_parseSSHString ending) fun _ => returns_pure _

/-! ## `ParseMessage` -/

/-- The message types `ParseMessage` has a case for. -/
def ParsedType (typeId : UInt64) : Prop :=
  typeId = SSH_MSG_CHANNEL_REQUEST ∨ typeId = SSH_MSG_CHANNEL_OPEN_CONFIRMATION ∨
    typeId = SSH_MSG_CHANNEL_OPEN_FAILURE ∨ typeId = SSH_MSG_CHANNEL_DATA ∨
    typeId = SSH_MSG_CHANNEL_EXTENDED_DATA

theorem returns_parsePayload {typeId : UInt64} (h : ParsedType typeId) :
    Returns (parsePayload ending typeId) := by
  have hstring := returns_parseSSHString ending
  have hnumber := returns_readVarInt ending
  unfold parsePayload
  split_ifs with h₁ h₂ h₃ h₄ h₅
  · exact returns_bind (returns_parseRequestMessage ending) fun _ => returns_pure _
  · exact returns_bind (returns_bind hnumber fun _ => returns_pure _) fun _ => returns_pure _
  · exact returns_bind (returns_parseChannelOpenFailureMessage ending) fun _ => returns_pure _
  · exact returns_bind (returns_bind (returns_unlessEof hstring) fun _ => returns_pure _)
      fun _ => returns_pure _
  · refine returns_bind (returns_bind hnumber fun dataType => ?_) fun _ => returns_pure _
    exact returns_bind (returns_unlessEof hstring) fun _ => returns_pure _
  · rcases h with h | h | h | h | h
    · exact absurd h h₁
    · exact absurd h h₂
    · exact absurd h h₃
    · exact absurd h h₄
    · exact absurd h h₅

theorem parsePayload_panics {typeId : UInt64} (h : ¬ParsedType typeId) (input : List UInt8) :
    call (parsePayload ending typeId) input = .error .notImplemented := by
  unfold parsePayload ParsedType at *
  simp only [not_or] at h
  -- the switch has no case for this type
  rw [if_neg h.1, if_neg h.2.1, if_neg h.2.2.1, if_neg h.2.2.2.1, if_neg h.2.2.2.2]
  rfl

/-- **When the Go decoder returns.**  On a stream of any bytes with any ending,
    `ParseMessage` returns a message or an error, rather than panicking, exactly if the
    bytes do not start with a complete varint whose value is a type it has no case for. -/
theorem parseMessage_returns_iff (bytes : List UInt8) :
    (∃ result rest, call (parseMessage ending) bytes = .ok (result, rest)) ↔
      ∀ pre rest (typeId : UInt64), bytes = pre ++ rest → IsVarInt pre typeId.toNat →
        ParsedType typeId := by
  unfold parseMessage
  constructor
  · rintro ⟨result, rest', hcall⟩ pre rest typeId rfl hpre
    by_contra hnot
    rw [call_bind_of_ok (accepts_readVarInt ending hpre rest), parsePayload_panics ending hnot]
      at hcall
    cases hcall
  · intro h
    -- without a complete varint the error of the reader is returned
    obtain ⟨r, mid, hread⟩ := returns_readVarInt ending bytes
    cases r with
    | error err => exact ⟨.error err, mid, call_bind_of_error hread⟩
    | ok typeId =>
      obtain ⟨pre, hbytes, hpre⟩ := readVarInt_sound ending hread
      rw [call_bind_of_ok hread]
      exact returns_parsePayload ending (h pre mid typeId hbytes hpre) mid

/-- `SSH_MSG_CHANNEL_CLOSE` (97), which an SSH peer sends in the ordinary course, takes the
    decoder down. -/
theorem parseMessage_panics_on_channelClose :
    call (parseMessage .eof) [0x40, 0x61] = .error .notImplemented := rfl

/-! ## Writing into a slice -/

theorem call_checkLength {needed : Except GoPanic Nat} {err : Nat → Nat → GoError} {n : Nat}
    {buf : Buf} (hneeded : needed = .ok n) (hn : n ≤ buf.free.length) :
    call (checkLength needed err) buf = .ok (.ok (), buf) := by
  subst hneeded
  unfold checkLength
  rw [call_bind_of_ok (call_freeLen buf), call_bind_of_ok (call_orPanic_ok _ _),
    if_neg (Nat.not_lt.mpr hn)]
  rfl

theorem writes_checkLength {needed : Except GoPanic Nat} {err : Nat → Nat → GoError} {n : Nat}
    {k : Unit → BufWriter Unit} {bytes : List UInt8} (hneeded : needed = .ok n)
    (hn : n ≤ bytes.length) (hk : Writes (k ()) bytes) :
    Writes (checkLength needed err >>= k) bytes := by
  intro buf hroom
  rw [call_bind_of_ok (call_checkLength hneeded (Nat.le_trans hn hroom))]
  exact hk buf hroom

theorem writes_copyVarInt {i : UInt64} (h : i ≤ Proto.MAX_VARINT) :
    Writes (copyVarInt i) (Proto.varIntBytes i) :=
  writes_orPanic (appendVarInt_eq h []) (writes_copy _)

theorem writes_putBool (value : Bool) : Writes (putBool value) [value.toUInt8] := by
  cases value with
  | false => exact writes_putByte 0
  | true => exact writes_putByte 1

end Ssh3.Go
