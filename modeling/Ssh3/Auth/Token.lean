/-
  Ssh3.Auth.Token

  `ssh3-auth/src/lib.rs`: building and verifying the JWT bearer token with which a
  client authenticates by a public key.

  The crates the code calls are parameters: `Crypto` for the signature schemes of
  ssh-key, p256 and rsa, `Json` for serde_json on one type of record.  Their own
  error values are left out of `AuthError`.  Strings are their UTF-8 bytes.
-/

import Ssh3.Core.Channel
import Ssh3.Lib.Base64
import Ssh3.Lib.Text

namespace Ssh3.Auth

open Proto (ascii)
open Ssh3.Core (ConversationId)
open Base64 (STANDARD URL_SAFE_NO_PAD)

def TOKEN_AUDIENCE : List UInt8 := ascii "unused"
def TOKEN_SUBJECT : List UInt8 := ascii "ssh3"
def TOKEN_LIFETIME_SECS : UInt64 := 60

/-! ## Errors and the clock -/

/-- `std::io::ErrorKind` -/
inductive ErrorKind where
  | notFound
  | permissionDenied
  | invalidInput
  | unsupported
  | other
  | os (code : Int32)
  deriving DecidableEq, Repr

/-- `std::io::Error` -/
structure IoError where
  kind : ErrorKind
  message : List UInt8
  deriving DecidableEq, Repr

/-- `std::time::Duration` -/
structure Duration where
  secs : UInt64
  nanos : Nat
  deriving DecidableEq, Repr

/-- The errors of `ssh3-auth` -/
inductive AuthError where
  | io (err : IoError)
  /-- `SystemTimeError`: how far before the epoch the clock is -/
  | time (before : Duration)
  | json
  | base64
  | reqwest
  | sshKey
  | invalidKeyMaterial (message : List UInt8)
  | invalidToken (message : List UInt8)
  | unsupportedAlgorithm (algorithm : List UInt8)
  deriving DecidableEq, Repr

/-- `std::time::SystemTime`: seconds since the epoch, as the operating system counts them -/
structure SystemTime where
  secs : Int64
  nanos : Fin 1000000000
  deriving DecidableEq, Repr

/-- `self.duration_since(UNIX_EPOCH)` -/
def SystemTime.durationSinceEpoch (self : SystemTime) : Except Duration Duration :=
  if 0 ≤ self.secs then .ok ⟨self.secs.toUInt64, self.nanos.val⟩
  else if self.nanos.val = 0 then .error ⟨(-self.secs).toUInt64, 0⟩
  else .error ⟨(-self.secs).toUInt64 - 1, 1000000000 - self.nanos.val⟩

/-- The clock reads `now`. -/
def unixTimestampNow (now : SystemTime) : Except AuthError UInt64 :=
  match now.durationSinceEpoch with
  | .ok duration => .ok duration.secs
  | .error before => .error (.time before)

/-- `result.ok_or(err)?` -/
def okOr {α : Type} (err : AuthError) : Option α → Except AuthError α
  | some a => .ok a
  | none => .error err

/-- `if !holds { return Err(err) }` -/
def ensure (holds : Prop) [Decidable holds] (err : AuthError) : Except AuthError Unit :=
  if holds then .ok () else .error err

theorem okOr_eq_ok {α : Type} {err : AuthError} {x : Option α} {a : α} :
    okOr err x = .ok a ↔ x = some a := by
  cases x with
  | none => exact ⟨nofun, nofun⟩
  | some b => rw [okOr, Except.ok.injEq, Option.some.injEq]

theorem ensure_eq_ok {holds : Prop} [Decidable holds] {err : AuthError} {u : Unit} :
    ensure holds err = .ok u ↔ holds := by
  unfold ensure
  split
  · exact ⟨fun _ => ‹holds›, fun _ => rfl⟩
  · exact ⟨nofun, fun h => absurd h ‹¬holds›⟩

/-! ## Keys -/

/-- The curves of ECDSA keys -/
inductive EcdsaCurve where
  | nistP256
  | nistP384
  | nistP521
  deriving DecidableEq, Repr

/-- The components are given as `as_positive_bytes` has them. -/
structure RsaPublicKey where
  n : Option (List UInt8)
  e : Option (List UInt8)
  deriving DecidableEq, Repr

/-- `ssh_key::public::KeyData` -/
inductive KeyData where
  | dsa (key : List UInt8)
  | ecdsa (curve : EcdsaCurve) (sec1 : List UInt8)
  | ed25519 (key : List UInt8)
  | rsa (key : RsaPublicKey)
  | skEcdsaSha2NistP256 (key : List UInt8)
  | skEd25519 (key : List UInt8)
  | other (algorithm : List UInt8) (key : List UInt8)
  deriving DecidableEq, Repr

/-- An OpenSSH public key -/
structure PublicKey where
  keyData : KeyData
  deriving DecidableEq, Repr

/-- `public_key.algorithm().as_str()` -/
def PublicKey.algorithm (self : PublicKey) : List UInt8 :=
  match self.keyData with
  | .dsa _ => ascii "ssh-dss"
  | .ecdsa .nistP256 _ => ascii "ecdsa-sha2-nistp256"
  | .ecdsa .nistP384 _ => ascii "ecdsa-sha2-nistp384"
  | .ecdsa .nistP521 _ => ascii "ecdsa-sha2-nistp521"
  | .ed25519 _ => ascii "ssh-ed25519"
  | .rsa _ => ascii "ssh-rsa"
  | .skEcdsaSha2NistP256 _ => ascii "sk-ecdsa-sha2-nistp256@openssh.com"
  | .skEd25519 _ => ascii "sk-ssh-ed25519@openssh.com"
  | .other algorithm _ => algorithm

/-- An RSA key pair as it stands in a key file -/
structure RsaKeypair where
  publicKey : RsaPublicKey
  d : Option (List UInt8)
  p : Option (List UInt8)
  q : Option (List UInt8)
  deriving DecidableEq, Repr

/-- The key pairs that can sign, and the others -/
inductive KeypairData where
  | ecdsaNistP256 (publicKey privateKey : List UInt8)
  | rsa (keypair : RsaKeypair)
  | ed25519 (publicKey privateKey : List UInt8)
  /-- Encrypted keys and those of the other algorithms -/
  | other (data : List UInt8)
  deriving DecidableEq, Repr

/-- The public half, where it can be read. -/
def KeypairData.publicKey : KeypairData → Option KeyData
  | .ecdsaNistP256 publicKey _ => some (.ecdsa .nistP256 publicKey)
  | .rsa keypair => some (.rsa keypair.publicKey)
  | .ed25519 publicKey _ => some (.ed25519 publicKey)
  | .other _ => none

/-- An OpenSSH private key -/
structure PrivateKey where
  publicKey : PublicKey
  keyData : KeypairData
  /-- The public key is the public half of the key pair. -/
  publicKey_eq : ∀ data, keyData.publicKey = some data → publicKey.keyData = data

/-- The algorithms of bearer tokens -/
inductive JwtAlgorithm where
  | edDsa
  | es256
  | rs256
  deriving DecidableEq, Repr

def JwtAlgorithm.asStr : JwtAlgorithm → List UInt8
  | .edDsa => ascii "EdDSA"
  | .es256 => ascii "ES256"
  | .rs256 => ascii "RS256"

/-- The algorithm of a key, if it can sign tokens -/
def jwtAlgorithmForPublicKey (publicKey : PublicKey) : Except AuthError JwtAlgorithm :=
  match publicKey.keyData with
  | .ed25519 _ => .ok .edDsa
  | .ecdsa .nistP256 _ => .ok .es256
  | .rsa _ => .ok .rs256
  | _ => .error (.unsupportedAlgorithm publicKey.algorithm)

/-! ## Signatures -/

/-- `RsaBigUint::from_bytes_be` -/
def fromBytesBe (bytes : List UInt8) : Nat := bytes.foldl (fun n b => n * 256 + b.toNat) 0

def rsaBiguint (bytes : Option (List UInt8)) : Except AuthError Nat :=
  match bytes with
  | some bytes => .ok (fromBytesBe bytes)
  | none => .error (.invalidKeyMaterial (ascii "invalid RSA key component"))

/-- `rsa::RsaPublicKey` -/
structure JwtRsaPublicKey where
  n : Nat
  e : Nat
  deriving DecidableEq, Repr

/-- `rsa::RsaPrivateKey` -/
structure JwtRsaPrivateKey where
  n : Nat
  e : Nat
  d : Nat
  primes : List Nat
  deriving DecidableEq, Repr

/-- The signature schemes.  A constructor that can refuse its argument is given by whether it
    accepts it, a signing operation by the bytes of the signature. -/
structure Crypto where
  /-- `Signature::new(Algorithm::Ed25519, bytes)` -/
  ed25519Signature : List UInt8 → Bool
  /-- `try_sign` of ssh-key's private keys -/
  trySign : PrivateKey → List UInt8 → Option (List UInt8)
  /-- `verify` of ssh-key's public keys -/
  verify : PublicKey → List UInt8 → List UInt8 → Bool
  /-- `P256SigningKey::from_slice` -/
  p256SigningKey : List UInt8 → Bool
  p256TrySign : List UInt8 → List UInt8 → Option (List UInt8)
  /-- `P256VerifyingKey::from_sec1_bytes` -/
  p256VerifyingKey : List UInt8 → Bool
  /-- `P256Signature::from_slice` -/
  p256Signature : List UInt8 → Bool
  p256Verify : List UInt8 → List UInt8 → List UInt8 → Bool
  /-- `JwtRsaPublicKey::new` -/
  rsaPublicKey : JwtRsaPublicKey → Bool
  /-- `JwtRsaPrivateKey::from_components` -/
  rsaPrivateKey : JwtRsaPrivateKey → Bool
  rsaValidate : JwtRsaPrivateKey → Bool
  /-- `try_sign_with_rng`, on what the random number generator gives -/
  rsaTrySign : JwtRsaPrivateKey → List UInt8 → Option (List UInt8)
  /-- `RsaSignature::try_from` -/
  rsaSignature : List UInt8 → Bool
  rsaVerify : JwtRsaPublicKey → List UInt8 → List UInt8 → Bool

section

variable (crypto : Crypto)

def rsaPublicKey (key : RsaPublicKey) : Except AuthError JwtRsaPublicKey := do
  let n ← rsaBiguint key.n
  let e ← rsaBiguint key.e
  ensure (crypto.rsaPublicKey ⟨n, e⟩) (.invalidKeyMaterial (ascii "invalid RSA public key"))
  return ⟨n, e⟩

def rsaPrivateKey (keypair : RsaKeypair) : Except AuthError JwtRsaPrivateKey := do
  let n ← rsaBiguint keypair.publicKey.n
  let e ← rsaBiguint keypair.publicKey.e
  let d ← rsaBiguint keypair.d
  let p ← rsaBiguint keypair.p
  let q ← rsaBiguint keypair.q
  let key : JwtRsaPrivateKey := ⟨n, e, d, [p, q]⟩
  ensure (crypto.rsaPrivateKey key) (.invalidKeyMaterial (ascii "invalid RSA private key"))
  ensure (crypto.rsaValidate key) (.invalidKeyMaterial (ascii "invalid RSA private key"))
  return key

def signJwtSignature (privateKey : PrivateKey) (jwtAlgorithm : JwtAlgorithm)
    (signingInput : List UInt8) : Except AuthError (List UInt8) :=
  match jwtAlgorithm with
  | .edDsa =>
    okOr (.invalidToken (ascii "could not sign bearer token"))
      (crypto.trySign privateKey signingInput)
  | .es256 =>
    match privateKey.keyData with
    | .ecdsaNistP256 _ key => do
      ensure (crypto.p256SigningKey key) (.invalidKeyMaterial (ascii "invalid P-256 private key"))
      okOr (.invalidToken (ascii "could not sign bearer token"))
        (crypto.p256TrySign key signingInput)
    | _ => .error (.unsupportedAlgorithm privateKey.publicKey.algorithm)
  | .rs256 =>
    match privateKey.keyData with
    | .rsa keypair => do
      let key ← rsaPrivateKey crypto keypair
      okOr (.invalidToken (ascii "could not sign bearer token"))
        (crypto.rsaTrySign key signingInput)
    | _ => .error (.unsupportedAlgorithm privateKey.publicKey.algorithm)

/-- `P256VerifyingKey::from_sec1_bytes(sec1)` and the check of a signature against it. -/
def verifyP256 (sec1 signingInput signatureBytes : List UInt8) : Except AuthError Unit := do
  ensure (crypto.p256VerifyingKey sec1) (.invalidKeyMaterial (ascii "invalid P-256 public key"))
  ensure (crypto.p256Signature signatureBytes) (.invalidToken (ascii "malformed ES256 signature"))
  ensure (crypto.p256Verify sec1 signingInput signatureBytes)
    (.invalidToken (ascii "JWT signature verification failed"))

/-- The check of a signature against an RSA key. -/
def verifyRsa (key : JwtRsaPublicKey) (signingInput signatureBytes : List UInt8) :
    Except AuthError Unit := do
  ensure (crypto.rsaSignature signatureBytes) (.invalidToken (ascii "malformed RS256 signature"))
  ensure (crypto.rsaVerify key signingInput signatureBytes)
    (.invalidToken (ascii "JWT signature verification failed"))

/-- Whether the signature is that of the key -/
def verifyJwtSignature (publicKey : PublicKey) (jwtAlgorithm : JwtAlgorithm)
    (signingInput signatureBytes : List UInt8) : Except AuthError Unit :=
  match jwtAlgorithm with
  | .edDsa => do
    ensure (crypto.ed25519Signature signatureBytes) .sshKey
    ensure (crypto.verify publicKey signingInput signatureBytes)
      (.invalidToken (ascii "JWT signature verification failed"))
  | .es256 =>
    match publicKey.keyData with
    | .ecdsa .nistP256 sec1 => verifyP256 crypto sec1 signingInput signatureBytes
    | _ => .error (.unsupportedAlgorithm publicKey.algorithm)
  | .rs256 =>
    match publicKey.keyData with
    | .rsa key => do
      let key ← rsaPublicKey crypto key
      verifyRsa crypto key signingInput signatureBytes
    | _ => .error (.unsupportedAlgorithm publicKey.algorithm)

end

/-! ## The token -/

/-- The header of a bearer token -/
structure JwtHeader where
  alg : List UInt8
  typ : List UInt8
  deriving DecidableEq, Repr

/-- The claims of a bearer token -/
structure JwtClaims where
  iss : List UInt8
  sub : List UInt8
  aud : List UInt8
  iat : UInt64
  exp : UInt64
  clientId : List UInt8
  jti : List UInt8
  deriving DecidableEq, Repr

/-- serde_json on one type of record. -/
structure Json (α : Type) where
  toVec : α → Option (List UInt8)
  fromSlice : List UInt8 → Option α

/-- What is written for `a` is read as `a`. -/
def Json.RoundTrips {α : Type} (json : Json α) (a : α) : Prop :=
  ∀ bytes, json.toVec a = some bytes → json.fromSlice bytes = some a

/-- How `serde_json` writes and reads the two parts of a token -/
structure JwtJson where
  header : Json JwtHeader
  claims : Json JwtClaims

def conversationIdBase64 (conversationId : ConversationId) : List UInt8 :=
  STANDARD.encode conversationId.val

/-- The header of a token that is built. -/
def bearerHeader (jwtAlgorithm : JwtAlgorithm) : JwtHeader where
  alg := jwtAlgorithm.asStr
  typ := ascii "JWT"

/-- The claims of a token that is built. -/
def bearerClaims (username : List UInt8) (conversationId : ConversationId) (now : UInt64) :
    JwtClaims where
  iss := username
  sub := TOKEN_SUBJECT
  aud := TOKEN_AUDIENCE
  iat := now
  exp := now + TOKEN_LIFETIME_SECS
  clientId := ascii "ssh3-" ++ username
  jti := conversationIdBase64 conversationId

/-- `format!("{first}.{second}")` -/
def joinDot (first second : List UInt8) : List UInt8 := first ++ 46 :: second

section

variable (json : JwtJson)

def buildBearerTokenWithSigner {ε : Type} (ofAuthError : AuthError → ε) (now : SystemTime)
    (publicKey : PublicKey) (username : List UInt8) (conversationId : ConversationId)
    (signer : JwtAlgorithm → List UInt8 → Except ε (List UInt8)) : Except ε (List UInt8) := do
  let jwtAlgorithm ← (jwtAlgorithmForPublicKey publicKey).mapError ofAuthError
  let now ← (unixTimestampNow now).mapError ofAuthError
  let header ← (okOr .json (json.header.toVec (bearerHeader jwtAlgorithm))).mapError ofAuthError
  let claims ← (okOr .json
    (json.claims.toVec (bearerClaims username conversationId now))).mapError ofAuthError
  let signingInput := joinDot (URL_SAFE_NO_PAD.encode header) (URL_SAFE_NO_PAD.encode claims)
  let signature ← signer jwtAlgorithm signingInput
  return joinDot signingInput (URL_SAFE_NO_PAD.encode signature)

/-- A token that the key signs for a conversation -/
def buildBearerToken (crypto : Crypto) (now : SystemTime) (privateKey : PrivateKey)
    (username : List UInt8) (conversationId : ConversationId) : Except AuthError (List UInt8) :=
  buildBearerTokenWithSigner json id now privateKey.publicKey username conversationId
    (signJwtSignature crypto privateKey)

/-- The three parts of a token: what is signed, and in it the header and the claims, and the
    signature. -/
structure TokenParts where
  signingInput : List UInt8
  headerPart : List UInt8
  claimsPart : List UInt8
  signaturePart : List UInt8
  deriving DecidableEq, Repr

/-- `token.rsplit_once('.')`, and `split_once('.')` on the first part. -/
def splitToken (token : List UInt8) : Except AuthError TokenParts := do
  let (signingInput, signaturePart) ←
    okOr (.invalidToken (ascii "malformed bearer token")) (Text.rsplitOnce 46 token)
  let (headerPart, claimsPart) ←
    okOr (.invalidToken (ascii "malformed bearer token")) (Text.splitOnce 46 signingInput)
  return { signingInput, headerPart, claimsPart, signaturePart }

/-- `serde_json::from_slice(&URL_SAFE_NO_PAD.decode(part)?)?` -/
def decodeJson {α : Type} (fromSlice : List UInt8 → Option α) (part : List UInt8) :
    Except AuthError α := do
  let bytes ← okOr .base64 (URL_SAFE_NO_PAD.decode part)
  okOr .json (fromSlice bytes)

/-- Whether the token is signed by the key and is for this user and conversation -/
def verifyBearerToken (crypto : Crypto) (now : SystemTime) (publicKey : PublicKey)
    (token expectedUsername : List UInt8) (conversationId : ConversationId) :
    Except AuthError Unit := do
  let jwtAlgorithm ← jwtAlgorithmForPublicKey publicKey
  let parts ← splitToken token
  let header ← decodeJson json.header.fromSlice parts.headerPart
  ensure (header.alg = jwtAlgorithm.asStr) (.invalidToken (ascii "unexpected JWT alg"))
  let claims ← decodeJson json.claims.fromSlice parts.claimsPart
  let now ← unixTimestampNow now
  ensure (claims.iss = expectedUsername) (.invalidToken (ascii "unexpected JWT issuer"))
  ensure (claims.sub = TOKEN_SUBJECT) (.invalidToken (ascii "unexpected JWT subject"))
  ensure (claims.aud = TOKEN_AUDIENCE) (.invalidToken (ascii "unexpected JWT audience"))
  ensure (claims.clientId = ascii "ssh3-" ++ expectedUsername)
    (.invalidToken (ascii "unexpected JWT client_id"))
  ensure (claims.jti = conversationIdBase64 conversationId)
    (.invalidToken (ascii "unexpected JWT jti"))
  ensure (¬claims.iat > now) (.invalidToken (ascii "JWT issued-at is in the future"))
  ensure (¬claims.exp ≤ now) (.invalidToken (ascii "JWT is expired"))
  let signature ← okOr .base64 (URL_SAFE_NO_PAD.decode parts.signaturePart)
  verifyJwtSignature crypto publicKey jwtAlgorithm parts.signingInput signature

end

end Ssh3.Auth
