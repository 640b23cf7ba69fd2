/-
  Ssh3.Client.Agent

  `ssh3-client/src/agent.rs`: asking an SSH agent for its identities and selecting one.

  The reply of the agent is decoded into a list of identities, and the selection is a search
  in it.  The decoder gives up at the first key that the ssh-key crate cannot parse, so a key
  that nobody asked for can keep the client from finding the one it looks for.
-/

import Ssh3.Auth.Token
import Ssh3.Lib.Reader

namespace Ssh3.Client.Agent

open StreamCodec
open Proto (ascii)
open Auth (PublicKey fromBytesBe)

def SSH_AGENT_FAILURE : UInt8 := 5
def SSH_AGENTC_REQUEST_IDENTITIES : UInt8 := 11
def SSH_AGENT_IDENTITIES_ANSWER : UInt8 := 12

/-- The kinds of I/O errors that the agent's client gives -/
inductive ErrorKind where
  | unexpectedEof
  | invalidData
  | invalidInput
  | brokenPipe
  deriving DecidableEq, Repr

/-- The errors of the crate that selecting an identity can end with; those of ssh-key are not
    told apart. -/
inductive ClientError where
  | io (kind : ErrorKind) (message : List UInt8)
  | sshKey
  | agentKeyNotFound
  | unsupportedAgentKey (algorithm : List UInt8)
  deriving DecidableEq, Repr

/-- Which key of the agent is to be used -/
inductive AgentSelection where
  | first
  | publicKey (path : List UInt8)
  deriving DecidableEq, Repr

/-- A key that the agent holds -/
structure AgentIdentity where
  keyBlob : List UInt8
  publicKey : PublicKey
  deriving DecidableEq, Repr

/-- The ssh-key crate, with the file system it reads from. -/
structure SshKey where
  /-- `PublicKey::from_bytes` -/
  fromBytes : List UInt8 → Option PublicKey
  /-- `PublicKey::to_bytes` -/
  toBytes : PublicKey → Option (List UInt8)
  /-- `PublicKey::read_openssh_file` -/
  readPublicKey : List UInt8 → Option PublicKey
  /-- `PrivateKey::read_openssh_file`, and the public key of the private one -/
  readPrivateKey : List UInt8 → Option PublicKey
  /-- `path.display()` -/
  display : List UInt8 → List UInt8

/-! ## The messages of an agent -/

/-- `u32::to_be_bytes` -/
def toBeBytes (value : UInt32) : List UInt8 :=
  [UInt8.ofNat (value.toNat >>> 24), UInt8.ofNat (value.toNat >>> 16),
    UInt8.ofNat (value.toNat >>> 8), UInt8.ofNat value.toNat]

/-- `u32::from_be_bytes` -/
def fromBeBytes (bytes : List UInt8) : UInt32 := UInt32.ofNat (fromBytesBe bytes)

/-- Reading in a reply of the agent -/
abbrev Cursor (α : Type) := Reader UInt8 ClientError α

def readByte : Cursor UInt8 := do
  let byte ← readExact (.io .unexpectedEof (ascii "truncated SSH agent message")) 1
  return single byte

def readU32 : Cursor UInt32 := do
  let bytes ← readExact (.io .unexpectedEof (ascii "truncated SSH agent u32")) 4
  return fromBeBytes bytes.val

def readSshString : Cursor (List UInt8) := do
  let len ← readU32
  let value ← readExact (.io .unexpectedEof (ascii "truncated SSH agent string")) len.toNat
  return value.val

/-- The socket of the agent -/
structure UnixStream where
  /-- What the agent has sent and is not read yet -/
  incoming : List UInt8
  written : List UInt8
  /-- Whether a write succeeds -/
  writable : Bool
  deriving DecidableEq, Repr

/-- A method of the agent's client -/
abbrev AgentM (α : Type) := StateT UnixStream (Except ClientError) α

/-- `self.stream.write_all(&bytes)` -/
def writeAll (bytes : List UInt8) : AgentM Unit := do
  let stream ← get
  if stream.writable then
    set { stream with written := stream.written ++ bytes }
  else
    throw (.io .brokenPipe [])

/-- `self.stream.read_exact(&mut buf)` for a buffer of `n` bytes -/
def streamReadExact (n : Nat) : AgentM (List UInt8) := do
  let stream ← get
  if n ≤ stream.incoming.length then
    set { stream with incoming := stream.incoming.drop n }
    return stream.incoming.take n
  else
    throw (.io .unexpectedEof (ascii "failed to fill whole buffer"))

def writeMessage (payload : List UInt8) : AgentM Unit := do
  if payload.length < 2 ^ 32 then
    writeAll (toBeBytes (UInt32.ofNat payload.length))
    writeAll payload
  else
    throw (.io .invalidInput (ascii "SSH agent payload exceeds u32 length"))

def readMessage : AgentM (List UInt8) := do
  let len ← streamReadExact 4
  streamReadExact (fromBeBytes len).toNat

/-! ## Selecting an identity -/

section Client

variable (lib : SshKey)

/-- The loop of `list_identities` -/
def readIdentities : Nat → List AgentIdentity → Cursor (List AgentIdentity)
  | 0, identities => return identities
  | n + 1, identities => do
    let keyBlob ← readSshString
    let _comment ← readSshString
    match lib.fromBytes keyBlob with
    | none => throw .sshKey -- the entries after it are not looked at
    | some publicKey => readIdentities n (identities ++ [{ keyBlob, publicKey }])

/-- `list_identities`, behind `read_message` -/
def parseIdentities : Cursor (List AgentIdentity) := do
  let kind ← readByte
  if kind = SSH_AGENT_IDENTITIES_ANSWER then
    let count ← readU32
    let identities ← readIdentities lib count.toNat []
    if (← get) ≠ [] then
      throw (.io .invalidData (ascii "trailing bytes in SSH agent identities reply"))
    return identities
  else if kind = SSH_AGENT_FAILURE then
    throw .agentKeyNotFound
  else
    throw (.io .invalidData
      (ascii ("unexpected SSH agent reply type " ++ toString kind.toNat)))

/-- The keys that the agent holds -/
def listIdentities : AgentM (List AgentIdentity) := do
  writeMessage [SSH_AGENTC_REQUEST_IDENTITIES]
  let response ← readMessage
  match (parseIdentities lib).run response with
  | .ok (identities, _) => return identities
  | .error err => throw err

def loadAgentPublicKey (path : List UInt8) : Except ClientError PublicKey :=
  -- a public key, a private key, or the public key beside a private one
  match (lib.readPublicKey path).or
      ((lib.readPrivateKey path).or (lib.readPublicKey (lib.display path ++ ascii ".pub"))) with
  | some publicKey => .ok publicKey
  | none => .error .sshKey

def isSupportedAgentKey (publicKey : PublicKey) : Bool :=
  match publicKey.keyData with
  | .ed25519 _ | .rsa _ => true
  | .dsa _ | .ecdsa _ _ | .skEcdsaSha2NistP256 _ | .skEd25519 _ | .other _ _ => false

/-- `expected.to_bytes()` of the key in the file -/
def expectedBlob (path : List UInt8) : Except ClientError (List UInt8) := do
  let expected ← loadAgentPublicKey lib path
  match lib.toBytes expected with
  | some blob => return blob
  | none => throw .sshKey

/-- What `select_identity` does with the identities -/
def selectAmong (identities : List AgentIdentity) :
    AgentSelection → Except ClientError AgentIdentity
  | .first =>
    match identities.find? fun identity => isSupportedAgentKey identity.publicKey with
    | some identity => .ok identity
    | none => .error .agentKeyNotFound
  | .publicKey path => do
    let expected ← expectedBlob lib path
    match identities.find? fun identity => identity.keyBlob = expected with
    | none => throw .agentKeyNotFound
    | some identity =>
      if ¬isSupportedAgentKey identity.publicKey then
        throw (.unsupportedAgentKey identity.publicKey.algorithm)
      else
        return identity

/-- The key of the agent that is used to log in -/
def selectIdentity (selection : AgentSelection) : AgentM AgentIdentity := do
  let identities ← listIdentities lib
  match selectAmong lib identities selection with
  | .ok identity => return identity
  | .error err => throw err

end Client

/-! ## The reply of an agent -/

/-- An entry of the reply, before its key is parsed -/
structure Entry where
  keyBlob : List UInt8
  comment : List UInt8
  deriving DecidableEq, Repr

def sshString (bytes : List UInt8) : List UInt8 :=
  toBeBytes (UInt32.ofNat bytes.length) ++ bytes

def Entry.wire (entry : Entry) : List UInt8 := sshString entry.keyBlob ++ sshString entry.comment

def identitiesAnswer (entries : List Entry) : List UInt8 :=
  SSH_AGENT_IDENTITIES_ANSWER ::
    (toBeBytes (UInt32.ofNat entries.length) ++ entries.flatMap Entry.wire)

/-- A reply whose length is a `u32`, as it has to be to be sent. -/
structure IdentitiesReply where
  entries : List Entry
  fits : (identitiesAnswer entries).length < 2 ^ 32

def IdentitiesReply.wire (reply : IdentitiesReply) : List UInt8 :=
  sshString (identitiesAnswer reply.entries)

/-! ## What is selected -/

section Selection

variable (lib : SshKey)

/-- The identity of an entry whose key the crate can parse -/
def Entry.identity? (entry : Entry) : Option AgentIdentity :=
  (lib.fromBytes entry.keyBlob).map fun publicKey => { keyBlob := entry.keyBlob, publicKey }

/-- The entries with a key that parses to an Ed25519 or RSA key, in their order -/
def supportedIdentities (entries : List Entry) : List AgentIdentity :=
  (entries.filterMap (Entry.identity? lib)).filter fun identity =>
    isSupportedAgentKey identity.publicKey

/-- The entry that the selection is about, if there is one -/
def wanted (entries : List Entry) : AgentSelection → Option AgentIdentity
  | .first => (supportedIdentities lib entries).head?
  | .publicKey path =>
    match expectedBlob lib path with
    | .error _ => none
    | .ok blob => (supportedIdentities lib entries).find? fun identity => identity.keyBlob = blob

/-- The result is the wanted entry, whatever else the agent holds. -/
structure OthersDoNotMatter (selection : AgentSelection) (entries : List Entry)
    (result : Except ClientError AgentIdentity) : Prop where
  found : ∀ identity, wanted lib entries selection = some identity → result = .ok identity
  notFound : result = .error .agentKeyNotFound → wanted lib entries selection = none

/-- The crate can parse every key of the agent. -/
def AllParse (entries : List Entry) : Prop :=
  ∀ entry ∈ entries, (lib.fromBytes entry.keyBlob).isSome = true

end Selection

section Reply

theorem fromBeBytes_toBeBytes (value : UInt32) : fromBeBytes (toBeBytes value) = value := by
  have hlt := value.toNat_lt
  have hvalue : fromBytesBe (toBeBytes value) = value.toNat := by
    simp only [fromBytesBe, toBeBytes, List.foldl_cons, List.foldl_nil, UInt8.toNat_ofNat',
      Nat.shiftRight_eq_div_pow]
    omega
  rw [fromBeBytes, hvalue, UInt32.ofNat_toNat]

theorem length_toBeBytes (value : UInt32) : (toBeBytes value).length = 4 := rfl

theorem reads_readU32 (value : UInt32) : Reads readU32 (toBeBytes value) value := by
  have hbytes := reads_readExact
    (ClientError.io .unexpectedEof (ascii "truncated SSH agent u32")) (toBeBytes value)
    (length_toBeBytes value)
  have hread : Reads readU32 (toBeBytes value) (fromBeBytes (toBeBytes value)) :=
    reads_bind_pure hbytes
  rwa [fromBeBytes_toBeBytes] at hread

theorem reads_readSshString {bytes : List UInt8} (h : bytes.length < 2 ^ 32) :
    Reads readSshString (sshString bytes) bytes := by
  have hlen := (UInt32.toNat_ofNat_of_lt' h).symm
  refine reads_bind (reads_readU32 _) ?_
  exact reads_bind_pure (f := fun value => value.val) (reads_readExact _ bytes hlen)

/-- The lengths of an entry are `u32`s. -/
def Entry.Fits (entry : Entry) : Prop :=
  entry.keyBlob.length < 2 ^ 32 ∧ entry.comment.length < 2 ^ 32

variable {lib : SshKey} {entries : List Entry}

theorem run_readIdentities_succ {entry : Entry} (hfits : entry.Fits) (n : Nat)
    (identities : List AgentIdentity) (rest : List UInt8) :
    (readIdentities lib (n + 1) identities).run (entry.wire ++ rest) =
      match lib.fromBytes entry.keyBlob with
      | none => .error .sshKey
      | some publicKey =>
        (readIdentities lib n (identities ++ [⟨entry.keyBlob, publicKey⟩])).run rest := by
  rw [Entry.wire, List.append_assoc, readIdentities,
    run_bind_of_ok (reads_readSshString hfits.1 _), run_bind_of_ok (reads_readSshString hfits.2 _)]
  cases lib.fromBytes entry.keyBlob <;> rfl

/-- The loop collects the identities, unless a key does not parse: then it fails, whatever
    has been collected. -/
theorem run_readIdentities (hfits : ∀ entry ∈ entries, entry.Fits)
    (identities : List AgentIdentity) :
    (readIdentities lib entries.length identities).run (entries.flatMap Entry.wire) =
      if entries.all fun entry => (lib.fromBytes entry.keyBlob).isSome then
        .ok (identities ++ entries.filterMap (Entry.identity? lib), [])
      else
        .error .sshKey := by
  -- by induction on the entries that are left, whatever has been collected
  induction entries generalizing identities with
  | nil =>
    rw [List.filterMap_nil, List.append_nil]
    rfl
  | cons entry entries ih =>
    obtain ⟨hentry, hrest⟩ := List.forall_mem_cons.mp hfits
    rw [List.flatMap_cons, List.length_cons, run_readIdentities_succ hentry, List.all_cons]
    cases hkey : lib.fromBytes entry.keyBlob with
    | none => rfl
    | some publicKey =>
      have hidentity : entry.identity? lib = some ⟨entry.keyBlob, publicKey⟩ := by
        rw [Entry.identity?, hkey]
        rfl
      rw [List.filterMap_cons_some hidentity, Option.isSome_some, Bool.true_and]
      show (readIdentities lib entries.length _).run (entries.flatMap Entry.wire) = _
      rw [ih hrest, List.append_assoc]
      rfl

/-! An answer that is sent has a length below `2 ^ 32`, so every length in it is. -/

theorem length_sshString (bytes : List UInt8) : (sshString bytes).length = 4 + bytes.length := by
  rw [sshString, List.length_append, length_toBeBytes]

theorem length_wire (entry : Entry) :
    entry.wire.length = 8 + entry.keyBlob.length + entry.comment.length := by
  rw [Entry.wire, List.length_append, length_sshString, length_sshString]
  omega

theorem length_wire_le_flatMap {entry : Entry} (hmem : entry ∈ entries) :
    entry.wire.length ≤ (entries.flatMap Entry.wire).length := by
  obtain ⟨before, after, rfl⟩ := List.append_of_mem hmem
  rw [List.flatMap_append, List.flatMap_cons, List.length_append, List.length_append]
  omega

theorem length_le_flatMap : entries.length ≤ (entries.flatMap Entry.wire).length := by
  induction entries with
  | nil => exact Nat.zero_le _
  | cons entry entries ih =>
    rw [List.flatMap_cons, List.length_append, List.length_cons, length_wire]
    omega

theorem length_identitiesAnswer (entries : List Entry) :
    (identitiesAnswer entries).length = 5 + (entries.flatMap Entry.wire).length := by
  rw [identitiesAnswer, List.length_cons, List.length_append, length_toBeBytes]
  omega

variable (reply : IdentitiesReply)

theorem IdentitiesReply.entry_fits : ∀ entry ∈ reply.entries, entry.Fits := by
  intro entry hmem
  have hfits := reply.fits
  have hle := length_wire_le_flatMap hmem
  rw [length_identitiesAnswer] at hfits
  rw [length_wire] at hle
  constructor <;> omega

theorem IdentitiesReply.count_fits : reply.entries.length < 2 ^ 32 := by
  have hfits := reply.fits
  have hle : reply.entries.length ≤ _ := length_le_flatMap
  rw [length_identitiesAnswer] at hfits
  omega

/-- The whole answer: all identities, or the error of the key that does not parse -/
theorem run_parseIdentities :
    (parseIdentities lib).run (identitiesAnswer reply.entries) =
      if reply.entries.all fun entry => (lib.fromBytes entry.keyBlob).isSome then
        .ok (reply.entries.filterMap (Entry.identity? lib), [])
      else
        .error .sshKey := by
  have hcount := UInt32.toNat_ofNat_of_lt' reply.count_fits
  have hkind : readByte.run (identitiesAnswer reply.entries) = .ok (SSH_AGENT_IDENTITIES_ANSWER,
    toBeBytes (UInt32.ofNat reply.entries.length) ++ reply.entries.flatMap Entry.wire) := rfl
  have hloop : (readIdentities lib reply.entries.length []).run _ = _ :=
    run_readIdentities reply.entry_fits []
  rw [parseIdentities, run_bind_of_ok hkind, if_pos rfl, run_bind_of_ok (reads_readU32 _ _),
    hcount, StateT.run_bind, hloop]
  split
  · rfl
  · rfl

theorem run_streamReadExact (stream : UnixStream) (bytes rest : List UInt8) :
    (streamReadExact bytes.length).run { stream with incoming := bytes ++ rest } =
      .ok (bytes, { stream with incoming := rest }) := by
  have hle : bytes.length ≤ (bytes ++ rest).length := by
    rw [List.length_append]
    omega
  show (if bytes.length ≤ (bytes ++ rest).length then _ else _ : AgentM (List UInt8)).run _ = _
  rw [if_pos hle]
  show Except.ok ((bytes ++ rest).take bytes.length,
    { stream with incoming := (bytes ++ rest).drop bytes.length }) = _
  rw [List.take_left, List.drop_left]

theorem run_readMessage (stream : UnixStream) (rest : List UInt8) :
    readMessage.run { stream with incoming := reply.wire ++ rest } =
      .ok (identitiesAnswer reply.entries, { stream with incoming := rest }) := by
  have hlen := UInt32.toNat_ofNat_of_lt' reply.fits
  have hheader := run_streamReadExact stream
    (toBeBytes (UInt32.ofNat (identitiesAnswer reply.entries).length))
    (identitiesAnswer reply.entries ++ rest)
  rw [length_toBeBytes] at hheader
  rw [readMessage, IdentitiesReply.wire, sshString, List.append_assoc, run_bind_of_ok hheader,
    fromBeBytes_toBeBytes, hlen, run_streamReadExact]

/-- The agent reads the request and answers with the reply; more may follow. -/
def answering (written rest : List UInt8) : UnixStream :=
  { incoming := reply.wire ++ rest, written, writable := true }

variable (written rest : List UInt8)

theorem run_listIdentities :
    (listIdentities lib).run (answering reply written rest) =
      if reply.entries.all fun entry => (lib.fromBytes entry.keyBlob).isSome then
        .ok (reply.entries.filterMap (Entry.identity? lib),
          { incoming := rest, writable := true
            written := written ++ toBeBytes 1 ++ [SSH_AGENTC_REQUEST_IDENTITIES] })
      else
        .error .sshKey := by
  have hwrite : (writeMessage [SSH_AGENTC_REQUEST_IDENTITIES]).run (answering reply written rest) =
      .ok ((), answering reply
        (written ++ toBeBytes 1 ++ [SSH_AGENTC_REQUEST_IDENTITIES]) rest) := rfl
  have hread : readMessage.run (answering reply
      (written ++ toBeBytes 1 ++ [SSH_AGENTC_REQUEST_IDENTITIES]) rest) = _ :=
    run_readMessage reply (answering reply _ rest) rest
  rw [listIdentities, run_bind_of_ok hwrite, run_bind_of_ok hread]
  rw [run_parseIdentities]
  by_cases hall : (reply.entries.all fun entry => (lib.fromBytes entry.keyBlob).isSome) = true
  · rw [if_pos hall, if_pos hall]
    rfl
  · rw [if_neg hall, if_neg hall]
    rfl

/-- `select_identity` searches among the identities if every key of the agent parses; if one
    does not, that is the result. -/
theorem run_selectIdentity (selection : AgentSelection) :
    (selectIdentity lib selection).run' (answering reply written rest) =
      if reply.entries.all fun entry => (lib.fromBytes entry.keyBlob).isSome then
        selectAmong lib (reply.entries.filterMap (Entry.identity? lib)) selection
      else
        .error .sshKey := by
  rw [StateT.run'_eq, selectIdentity, StateT.run_bind, run_listIdentities]
  split
  · show Prod.fst <$> StateT.run (match selectAmong lib _ selection with
      | .ok identity => pure identity
      | .error err => throw err) _ = _
    cases selectAmong lib (reply.entries.filterMap (Entry.identity? lib)) selection <;> rfl
  · rfl

end Reply

/-! ## The other keys -/

section Others

variable {lib : SshKey} {entries : List Entry}

theorem keyBlob_inj {first second : AgentIdentity}
    (hfirst : first ∈ entries.filterMap (Entry.identity? lib))
    (hsecond : second ∈ entries.filterMap (Entry.identity? lib))
    (hblob : first.keyBlob = second.keyBlob) : first = second := by
  obtain ⟨entry, -, hentry⟩ := List.mem_filterMap.mp hfirst
  obtain ⟨other, -, hother⟩ := List.mem_filterMap.mp hsecond
  obtain ⟨publicKey, hkey, rfl⟩ := Option.map_eq_some_iff.mp hentry
  obtain ⟨otherKey, hotherKey, rfl⟩ := Option.map_eq_some_iff.mp hother
  have hsame : some publicKey = some otherKey := by
    rw [← hkey, ← hotherKey]
    exact congrArg lib.fromBytes hblob
  cases hsame
  exact congrArg (AgentIdentity.mk · publicKey) hblob

theorem othersDoNotMatter_of_none {selection : AgentSelection}
    {result : Except ClientError AgentIdentity} (hnone : wanted lib entries selection = none) :
    OthersDoNotMatter lib selection entries result := by
  constructor
  · intro identity hidentity
    rw [hnone] at hidentity
    cases hidentity
  · intro _
    exact hnone

theorem othersDoNotMatter_first :
    OthersDoNotMatter lib .first entries
      (selectAmong lib (entries.filterMap (Entry.identity? lib)) .first) := by
  -- the first of the supported ones is the first one that is supported
  have hwanted : wanted lib entries .first = (entries.filterMap (Entry.identity? lib)).find?
      fun identity => isSupportedAgentKey identity.publicKey := List.head?_filter ..
  constructor
  · intro identity hidentity
    rw [selectAmong, ← hwanted, hidentity]
  · intro herror
    rw [selectAmong, ← hwanted] at herror
    cases hfound : wanted lib entries .first with
    | none => rfl
    | some identity =>
      rw [hfound] at herror
      cases herror

/-- Entries with the blob that is looked for are all the same, so the search need not know which
    of them are supported. -/
theorem find?_keyBlob {blob : List UInt8} {identity : AgentIdentity}
    (hfind : (supportedIdentities lib entries).find? (fun identity => identity.keyBlob = blob) =
      some identity) :
    (entries.filterMap (Entry.identity? lib)).find? (fun identity => identity.keyBlob = blob) =
        some identity ∧
      isSupportedAgentKey identity.publicKey = true := by
  have hblob : identity.keyBlob = blob := by simpa using List.find?_some hfind
  obtain ⟨hmem, hsupported⟩ := List.mem_filter.mp (List.mem_of_find?_eq_some hfind)
  refine ⟨?_, hsupported⟩
  cases hfirst : (entries.filterMap (Entry.identity? lib)).find?
      fun identity => identity.keyBlob = blob with
  | none => exact absurd (decide_eq_true hblob) (List.find?_eq_none.mp hfirst identity hmem)
  | some first =>
    have hfirstBlob : first.keyBlob = blob := by simpa using List.find?_some hfirst
    have hsame := keyBlob_inj (List.mem_of_find?_eq_some hfirst) hmem
      (hfirstBlob.trans hblob.symm)
    rw [hsame]

theorem othersDoNotMatter_publicKey (path : List UInt8) :
    OthersDoNotMatter lib (.publicKey path) entries
      (selectAmong lib (entries.filterMap (Entry.identity? lib)) (.publicKey path)) := by
  cases hblob : expectedBlob lib path with
  | error err =>
    have hnone : wanted lib entries (.publicKey path) = none := by
      rw [wanted, hblob]
    exact othersDoNotMatter_of_none hnone
  | ok blob =>
    have hwanted : wanted lib entries (.publicKey path) = (supportedIdentities lib entries).find?
        fun identity => identity.keyBlob = blob := by
      rw [wanted, hblob]
    -- the code searches for the blob first and looks at the algorithm then
    have hselect : selectAmong lib (entries.filterMap (Entry.identity? lib)) (.publicKey path) =
        match (entries.filterMap (Entry.identity? lib)).find?
            fun identity => identity.keyBlob = blob with
        | none => .error .agentKeyNotFound
        | some identity =>
          if ¬isSupportedAgentKey identity.publicKey then
            .error (.unsupportedAgentKey identity.publicKey.algorithm)
          else .ok identity := by
      rw [selectAmong, hblob]
      rfl
    constructor
    · intro identity hidentity
      rw [hwanted] at hidentity
      obtain ⟨hfind, hsupported⟩ := find?_keyBlob hidentity
      rw [hselect, hfind]
      exact if_neg (not_not_intro hsupported)
    · intro herror
      cases hfound : wanted lib entries (.publicKey path) with
      | none => rfl
      | some identity =>
        rw [hwanted] at hfound
        obtain ⟨hfind, hsupported⟩ := find?_keyBlob hfound
        rw [hselect, hfind] at herror
        change (if _ then _ else _) = _ at herror
        rw [if_neg (not_not_intro hsupported)] at herror
        cases herror

theorem othersDoNotMatter_selectAmong (selection : AgentSelection) :
    OthersDoNotMatter lib selection entries
      (selectAmong lib (entries.filterMap (Entry.identity? lib)) selection) := by
  cases selection with
  | first => exact othersDoNotMatter_first
  | publicKey path => exact othersDoNotMatter_publicKey path

/-- **Selection.**  The other keys of the agent do not matter for what is selected if and only if
    all keys of the reply parse, or the selection is about none of them. -/
theorem othersDoNotMatter_iff (lib : SshKey) (selection : AgentSelection)
    (reply : IdentitiesReply) (written rest : List UInt8) :
    OthersDoNotMatter lib selection reply.entries
        ((selectIdentity lib selection).run' (answering reply written rest)) ↔
      AllParse lib reply.entries ∨ wanted lib reply.entries selection = none := by
  rw [run_selectIdentity]
  split
  case isTrue hparse =>
    refine iff_of_true (othersDoNotMatter_selectAmong selection) (.inl ?_)
    exact List.all_eq_true.mp hparse
  case isFalse hparse =>
    -- the result is an error, and not that there is no such key
    constructor
    · intro hothers
      right
      cases hwanted : wanted lib reply.entries selection with
      | none => rfl
      | some identity => cases hothers.found identity hwanted
    · rintro (hall | hnone)
      · exact absurd (List.all_eq_true.mpr hall) hparse
      · exact othersDoNotMatter_of_none hnone

/-- The crate on keys of type "ssh-ed25519"; of the others, it knows none that is used here. -/
def ed25519Keys : SshKey where
  fromBytes blob :=
    if sshString (ascii "ssh-ed25519") ++ [0, 0, 0, 32] <+: blob ∧ blob.length = 51 then
      some ⟨.ed25519 (blob.drop 19)⟩
    else none
  toBytes publicKey := match publicKey.keyData with
    | .ed25519 key => some (sshString (ascii "ssh-ed25519") ++ sshString key)
    | _ => none
  readPublicKey _ := none
  readPrivateKey _ := none
  display path := path

/-- An Ed448 key, of a type that the crate does not know -/
def ed448Blob : List UInt8 :=
  sshString (ascii "ssh-ed448") ++ sshString [
    0x5f, 0xd7, 0x44, 0x9b, 0x59, 0xb4, 0x61, 0xfd, 0x2c, 0xe7, 0x87, 0xec, 0x61, 0x6a, 0xd4, 0x6a,
    0x1d, 0xa1, 0x34, 0x24, 0x85, 0xa7, 0x0e, 0x1f, 0x8a, 0x0e, 0xa7, 0x5d, 0x80, 0xe9, 0x67, 0x78,
    0xed, 0xf1, 0x24, 0x76, 0x9b, 0x46, 0xc7, 0x06, 0x1b, 0xd6, 0x78, 0x3d, 0xf1, 0xe5, 0x0f, 0x6c,
    0xd1, 0xfa, 0x1a, 0xbe, 0xaf, 0xe8, 0x25, 0x61, 0x80]

/-- The bytes of an Ed25519 key -/
def ed25519Key : List UInt8 := [
  0xd7, 0x5a, 0x98, 0x01, 0x82, 0xb1, 0x0a, 0xb7, 0xd5, 0x4b, 0xfe, 0xd3, 0xc9, 0x64, 0x07, 0x3a,
  0x0e, 0xe1, 0x72, 0xf3, 0xda, 0xa6, 0x23, 0x25, 0xaf, 0x02, 0x1a, 0x68, 0xf7, 0x07, 0x51, 0x1a]

/-- The blob of this key -/
def ed25519Blob : List UInt8 := sshString (ascii "ssh-ed25519") ++ sshString ed25519Key

/-- An agent with the Ed448 key, and a supported key after it -/
def ed448AndEd25519 : IdentitiesReply where
  entries := [⟨ed448Blob, ascii "work"⟩, ⟨ed25519Blob, ascii "alice@example.org"⟩]
  fits := by decide +kernel

/-- The supported key is there, and the answer is an error about the other one. -/
theorem supported_key_not_selected :
    wanted ed25519Keys ed448AndEd25519.entries .first =
        some ⟨ed25519Blob, ⟨.ed25519 ed25519Key⟩⟩ ∧
      (selectIdentity ed25519Keys .first).run' (answering ed448AndEd25519 [] []) =
        .error .sshKey ∧
      ¬OthersDoNotMatter ed25519Keys .first ed448AndEd25519.entries
        ((selectIdentity ed25519Keys .first).run' (answering ed448AndEd25519 [] [])) := by
  have hresult : (selectIdentity ed25519Keys .first).run' (answering ed448AndEd25519 [] []) =
      .error .sshKey := by decide +kernel
  have hwanted : wanted ed25519Keys ed448AndEd25519.entries .first =
      some ⟨ed25519Blob, ⟨.ed25519 ed25519Key⟩⟩ := by decide +kernel
  refine ⟨hwanted, hresult, ?_⟩
  intro hothers
  have hfound := hothers.found _ hwanted
  rw [hresult] at hfound
  cases hfound

end Others

end Ssh3.Client.Agent
