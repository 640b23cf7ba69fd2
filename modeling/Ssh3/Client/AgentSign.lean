/-
  Ssh3.Client.AgentSign

  `SshAgentClient::sign` of `ssh3-client/src/agent.rs`: the request for a signature, and what
  an agent reads from it.

  The lengths of the key and of the data are cast to `u32` without a check.  Only the length of
  the whole payload is checked, and both of them are part of it.
-/

import Ssh3.Client.Agent

namespace Ssh3.Client.Agent

open StreamCodec
open Proto (ascii)

def SSH_AGENTC_SIGN_REQUEST : UInt8 := 13
def SSH_AGENT_SIGN_RESPONSE : UInt8 := 14

/-! ## The client -/

/-- `bytes.len() as u32` keeps the low 32 bits of the length. -/
def appendSshString (buf bytes : List UInt8) : List UInt8 :=
  buf ++ toBeBytes (UInt32.ofNat bytes.length) ++ bytes

/-- The payload of `sign` -/
def signPayload (keyBlob data : List UInt8) (flags : UInt32) : List UInt8 :=
  let payload := [SSH_AGENTC_SIGN_REQUEST]
  let payload := appendSshString payload keyBlob
  let payload := appendSshString payload data
  payload ++ toBeBytes flags

section

variable {Signature : Type}
-- `Signature::try_from` of the ssh-key crate
variable (signatureOf : List UInt8 → Option Signature)

/-- What `sign` does with the reply -/
def parseSignature : Cursor Signature := do
  let kind ← readByte
  if kind = SSH_AGENT_SIGN_RESPONSE then
    let signatureBlob ← readSshString
    if (← get) ≠ [] then
      throw (.io .invalidData (ascii "trailing bytes in SSH agent sign reply"))
    match signatureOf signatureBlob with
    | some signature => return signature
    | none => throw .sshKey
  else if kind = SSH_AGENT_FAILURE then
    throw .agentKeyNotFound
  else
    throw (.io .invalidData
      (ascii ("unexpected SSH agent sign reply type " ++ toString kind.toNat)))

/-- `sign`, behind `write_message` -/
def awaitSignature : AgentM Signature := do
  let response ← readMessage
  match (parseSignature signatureOf).run response with
  | .ok (signature, _) => return signature
  | .error err => throw err

/-- Asks the agent for a signature -/
def sign (keyBlob data : List UInt8) (flags : UInt32) : AgentM Signature := do
  writeMessage (signPayload keyBlob data flags)
  awaitSignature signatureOf

end

/-! ## The agent -/

/-- What the agent is asked to sign, and how -/
structure SignRequest where
  keyBlob : List UInt8
  data : List UInt8
  flags : UInt32
  deriving DecidableEq, Repr

/-- A request for a signature: its type, the key, the data, the flags. -/
def readSignRequest : Cursor SignRequest := do
  let kind ← readByte
  if kind = SSH_AGENTC_SIGN_REQUEST then
    let keyBlob ← readSshString
    let data ← readSshString
    let flags ← readU32
    return { keyBlob, data, flags }
  else
    throw (.io .invalidData (ascii "not a sign request"))

/-- A message is its length and as many bytes; neither it nor the request in it leaves anything
    over. -/
def DecodesTo (message : List UInt8) (request : SignRequest) : Prop :=
  ∃ payload, readSshString.run message = .ok (payload, []) ∧
    readSignRequest.run payload = .ok (request, [])

/-! ## What is sent -/

theorem appendSshString_eq (buf bytes : List UInt8) :
    appendSshString buf bytes = buf ++ sshString bytes := List.append_assoc ..

theorem signPayload_eq (keyBlob data : List UInt8) (flags : UInt32) :
    signPayload keyBlob data flags =
      SSH_AGENTC_SIGN_REQUEST :: (sshString keyBlob ++ (sshString data ++ toBeBytes flags)) := by
  simp only [signPayload, appendSshString_eq, List.append_assoc, List.cons_append,
    List.nil_append]

/-- The payload is longer than the two strings in it. -/
theorem length_signPayload (keyBlob data : List UInt8) (flags : UInt32) :
    (signPayload keyBlob data flags).length = 13 + keyBlob.length + data.length := by
  rw [signPayload_eq, List.length_cons, List.length_append, List.length_append, length_sshString,
    length_sshString, length_toBeBytes]
  omega

theorem run_readSignRequest {keyBlob data : List UInt8} (flags : UInt32)
    (hkey : keyBlob.length < 2 ^ 32) (hdata : data.length < 2 ^ 32) :
    readSignRequest.run (signPayload keyBlob data flags) = .ok (⟨keyBlob, data, flags⟩, []) := by
  have hkind : readByte.run (signPayload keyBlob data flags) = .ok (SSH_AGENTC_SIGN_REQUEST,
      sshString keyBlob ++ (sshString data ++ toBeBytes flags)) := by
    rw [signPayload_eq]
    rfl
  have hflags : readU32.run (toBeBytes flags) = .ok (flags, []) := by
    have hread := reads_readU32 flags []
    rwa [List.append_nil] at hread
  rw [readSignRequest, run_bind_of_ok hkind, if_pos rfl,
    run_bind_of_ok (reads_readSshString hkey _), run_bind_of_ok (reads_readSshString hdata _),
    run_bind_of_ok hflags]
  rfl

theorem writeMessage_eq_ok {payload : List UInt8} {stream stream' : UnixStream}
    (h : (writeMessage payload).run stream = .ok ((), stream')) :
    payload.length < 2 ^ 32 ∧ stream'.written = stream.written ++ sshString payload := by
  obtain ⟨incoming, written, writable⟩ := stream
  rw [writeMessage] at h
  split at h
  case isTrue hlt =>
    refine ⟨hlt, ?_⟩
    cases writable with
    | true =>
      cases h
      rw [sshString, List.append_assoc]
    | false => cases h
  case isFalse => cases h

/-- The agent gets the request that `sign` was called with, before `sign` waits for the reply. -/
theorem sign_request_framed {Signature : Type} (signatureOf : List UInt8 → Option Signature)
    {keyBlob data : List UInt8} {flags : UInt32} {stream stream' : UnixStream}
    (h : (writeMessage (signPayload keyBlob data flags)).run stream = .ok ((), stream')) :
    (sign signatureOf keyBlob data flags).run stream =
        (awaitSignature signatureOf).run stream' ∧
      ∃ message, stream'.written = stream.written ++ message ∧
        DecodesTo message ⟨keyBlob, data, flags⟩ ∧
        (UInt32.ofNat keyBlob.length).toNat = keyBlob.length ∧
        (UInt32.ofNat data.length).toNat = data.length := by
  obtain ⟨hfits, hwritten⟩ := writeMessage_eq_ok h
  -- the check of the whole length covers both lengths
  have hlengths : keyBlob.length < 2 ^ 32 ∧ data.length < 2 ^ 32 := by
    rw [length_signPayload] at hfits
    omega
  have hmessage := reads_readSshString hfits []
  rw [List.append_nil] at hmessage
  refine ⟨run_bind_of_ok h, _, hwritten, ⟨_, hmessage, ?_⟩, ?_, ?_⟩
  · exact run_readSignRequest flags hlengths.1 hlengths.2
  · exact UInt32.toNat_ofNat_of_lt' hlengths.1
  · exact UInt32.toNat_ofNat_of_lt' hlengths.2

/-- The key `07`, the data `01 02` and the flag for SHA-256. -/
theorem sign_request_framed_rsa :
    ∃ stream', (writeMessage (signPayload [7] [1, 2] 2)).run ⟨[], [], true⟩ = .ok ((), stream') ∧
      stream'.written = [0, 0, 0, 16, 13, 0, 0, 0, 1, 7, 0, 0, 0, 2, 1, 2, 0, 0, 0, 2] ∧
      ∃ message, stream'.written = [] ++ message ∧ DecodesTo message ⟨[7], [1, 2], 2⟩ := by
  have hwrite : (writeMessage (signPayload [7] [1, 2] 2)).run ⟨[], [], true⟩ =
      .ok ((), ⟨[], [0, 0, 0, 16, 13, 0, 0, 0, 1, 7, 0, 0, 0, 2, 1, 2, 0, 0, 0, 2], true⟩) := rfl
  obtain ⟨-, message, hwritten, hdecodes, -⟩ := sign_request_framed (fun _ => some ()) hwrite
  exact ⟨_, hwrite, rfl, message, hwritten, hdecodes⟩

end Ssh3.Client.Agent
