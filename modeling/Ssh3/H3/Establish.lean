/-
  Ssh3.H3.Establish

  `ssh3-h3/src/lib.rs`: `establish_client_conversation`, the CONNECT request of a client in Rust.
-/

import Ssh3.Core.Channel

namespace Ssh3.H3

open Proto (ascii)
open Ssh3.Core (ConversationId)

/-- The User-Agent and the `Server` header of the implementation in Rust -/
def SSH3_VERSION_STRING : List UInt8 :=
  ascii "SSH 3.0 ssh3-rust 0.1.0 experimental_spec_version=alpha-00"

/-- Why a client has no conversation; `ε` are the errors of the connection. -/
inductive ClientConversationError (ε : Type) where
  | conversationId (err : ε)
  | stream (err : ε)
  | unexpectedStatus (status : Nat)
  deriving DecidableEq, Repr

/-- `establish_client_conversation`, from the conversation id that the connection exports and the
    status of the response; the version of the server is not looked at. -/
def establishClientConversation {ε : Type} (generateConversationId : Except ε ConversationId)
    (recvResponse : Except ε Nat) : Except (ClientConversationError ε) ConversationId :=
  match generateConversationId with
  | .error err => .error (.conversationId err)
  | .ok conversationId =>
    match recvResponse with
    | .error err => .error (.stream err)
    | .ok status =>
      if status ≠ 200 then .error (.unexpectedStatus status) else .ok conversationId

theorem establishClientConversation_eq_ok {ε : Type}
    {generateConversationId : Except ε ConversationId} {recvResponse : Except ε Nat}
    {id : ConversationId} :
    establishClientConversation generateConversationId recvResponse = .ok id ↔
      generateConversationId = .ok id ∧ recvResponse = .ok 200 := by
  unfold establishClientConversation
  cases generateConversationId with
  | error err => simp
  | ok conversationId =>
    cases recvResponse with
    | error err => simp
    | ok status =>
      by_cases hstatus : status = 200
      · simp [hstatus]
      · simp [hstatus]

end Ssh3.H3
