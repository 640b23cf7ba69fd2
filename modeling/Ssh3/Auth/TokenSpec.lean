/-
  Ssh3.Auth.TokenSpec

  What `verify_bearer_token` accepts: one characterisation, from which follow the
  binding of a token to a user and a connection, and the period in which a token
  that was built is accepted.
-/

import Ssh3.Auth.Token
import Ssh3.Proto.MessageCodec

namespace Ssh3.Auth

open Proto (ascii)
open StreamCodec (bind_eq_ok)
open Ssh3.Core (ConversationId zeroConversation)
open Base64 (STANDARD URL_SAFE_NO_PAD)

/-! ## Acceptance -/

/-- The claims name the user and the connection. -/
structure JwtClaims.AreFor (claims : JwtClaims) (username : List UInt8)
    (conversationId : ConversationId) : Prop where
  iss : claims.iss = username
  sub : claims.sub = TOKEN_SUBJECT
  aud : claims.aud = TOKEN_AUDIENCE
  clientId : claims.clientId = ascii "ssh3-" ++ username
  jti : claims.jti = conversationIdBase64 conversationId

section

variable {json : JwtJson} {crypto : Crypto}

theorem verifyBearerToken_eq_ok {now : SystemTime} {publicKey : PublicKey}
    {token username : List UInt8} {conversationId : ConversationId} :
    verifyBearerToken json crypto now publicKey token username conversationId = .ok () ↔
      ∃ jwtAlgorithm parts header claims secs signature,
        jwtAlgorithmForPublicKey publicKey = .ok jwtAlgorithm ∧
        splitToken token = .ok parts ∧
        decodeJson json.header.fromSlice parts.headerPart = .ok header ∧
        header.alg = jwtAlgorithm.asStr ∧
        decodeJson json.claims.fromSlice parts.claimsPart = .ok claims ∧
        unixTimestampNow now = .ok secs ∧
        claims.AreFor username conversationId ∧
        claims.iat ≤ secs ∧ secs < claims.exp ∧
        URL_SAFE_NO_PAD.decode parts.signaturePart = some signature ∧
        verifyJwtSignature crypto publicKey jwtAlgorithm parts.signingInput signature = .ok () := by
  simp only [verifyBearerToken, bind_eq_ok, ensure_eq_ok, okOr_eq_ok, exists_const]
  constructor
  · rintro ⟨jwtAlgorithm, halg, parts, hparts, header, hheader, hheaderAlg, claims, hclaims, secs,
      hsecs, hiss, hsub, haud, hclientId, hjti, hiat, hexp, signature, hsignature, hverify⟩
    exact ⟨jwtAlgorithm, parts, header, claims, secs, signature, halg, hparts, hheader, hheaderAlg,
      hclaims, hsecs, ⟨hiss, hsub, haud, hclientId, hjti⟩, UInt64.not_lt.mp hiat,
      UInt64.not_le.mp hexp, hsignature, hverify⟩
  · rintro ⟨jwtAlgorithm, parts, header, claims, secs, signature, halg, hparts, hheader,
      hheaderAlg, hclaims, hsecs, ⟨hiss, hsub, haud, hclientId, hjti⟩, hiat, hexp, hsignature,
      hverify⟩
    exact ⟨jwtAlgorithm, halg, parts, hparts, header, hheader, hheaderAlg, claims, hclaims, secs,
      hsecs, hiss, hsub, haud, hclientId, hjti, UInt64.not_lt.mpr hiat, UInt64.not_le.mpr hexp,
      signature, hsignature, hverify⟩

theorem conversationIdBase64_injective : Function.Injective conversationIdBase64 := by
  intro first second h
  exact Subtype.ext (STANDARD.encode_injective h)

/-- Claims are for one user and one connection only. -/
theorem JwtClaims.AreFor.unique {claims : JwtClaims} {u₁ u₂ : List UInt8} {c₁ c₂ : ConversationId}
    (h₁ : claims.AreFor u₁ c₁) (h₂ : claims.AreFor u₂ c₂) : u₁ = u₂ ∧ c₁ = c₂ := by
  constructor
  · rw [← h₁.iss, h₂.iss]
  · apply conversationIdBase64_injective
    rw [← h₁.jti, h₂.jti]

/-- Two verifications of one token, by whichever keys and at whichever times, are about the same
    user and the same connection: the claims depend on the token alone. -/
theorem verifyBearerToken_unique {t₁ t₂ : SystemTime} {k₁ k₂ : PublicKey}
    {token u₁ u₂ : List UInt8} {c₁ c₂ : ConversationId}
    (h₁ : verifyBearerToken json crypto t₁ k₁ token u₁ c₁ = .ok ())
    (h₂ : verifyBearerToken json crypto t₂ k₂ token u₂ c₂ = .ok ()) : u₁ = u₂ ∧ c₁ = c₂ := by
  obtain ⟨-, parts₁, -, claims₁, -, -, -, hparts₁, -, -, hclaims₁, -, hfor₁, -⟩ :=
    verifyBearerToken_eq_ok.mp h₁
  obtain ⟨-, parts₂, -, claims₂, -, -, -, hparts₂, -, -, hclaims₂, -, hfor₂, -⟩ :=
    verifyBearerToken_eq_ok.mp h₂
  have hparts : parts₁ = parts₂ := Except.ok.inj (hparts₁.symm.trans hparts₂)
  subst hparts
  have hclaims : claims₁ = claims₂ := Except.ok.inj (hclaims₁.symm.trans hclaims₂)
  subst hclaims
  exact hfor₁.unique hfor₂

end

/-! ## The parts of a token that was built -/

/-- The dot is no symbol of the encoding. -/
theorem dot_not_mem_encode (bytes : List UInt8) : 46 ∉ URL_SAFE_NO_PAD.encode bytes :=
  Base64.Engine.not_mem_encode (by decide) (by decide) bytes

/-- Splitting at the last dot and then at the first one gives back the three encodings. -/
theorem splitToken_joinDot (header claims signature : List UInt8) :
    splitToken (joinDot
      (joinDot (URL_SAFE_NO_PAD.encode header) (URL_SAFE_NO_PAD.encode claims))
      (URL_SAFE_NO_PAD.encode signature)) =
      .ok {
        signingInput := joinDot (URL_SAFE_NO_PAD.encode header) (URL_SAFE_NO_PAD.encode claims)
        headerPart := URL_SAFE_NO_PAD.encode header
        claimsPart := URL_SAFE_NO_PAD.encode claims
        signaturePart := URL_SAFE_NO_PAD.encode signature } := by
  have hlast := Text.rsplitOnce_append (dot_not_mem_encode signature)
    (joinDot (URL_SAFE_NO_PAD.encode header) (URL_SAFE_NO_PAD.encode claims))
  have hfirst := Text.splitOnce_append (dot_not_mem_encode header) (URL_SAFE_NO_PAD.encode claims)
  unfold splitToken
  rw [joinDot, hlast]
  show (okOr _ (Text.splitOnce 46 (joinDot _ _)) >>= _) = _
  rw [joinDot, hfirst]
  rfl

theorem decodeJson_encode {α : Type} {fromSlice : List UInt8 → Option α} {bytes : List UInt8}
    {a : α} (h : fromSlice bytes = some a) :
    decodeJson fromSlice (URL_SAFE_NO_PAD.encode bytes) = .ok a := by
  rw [decodeJson, Base64.Engine.decode_encode]
  show okOr _ (fromSlice bytes) = _
  rw [h]
  rfl

section

variable {json : JwtJson} {crypto : Crypto}

theorem mapError_id {ε α : Type} (x : Except ε α) : x.mapError id = x := by
  cases x with
  | error e => rfl
  | ok a => rfl

theorem buildBearerToken_eq_ok {built : SystemTime} {key : PrivateKey}
    {username token : List UInt8} {conversationId : ConversationId} :
    buildBearerToken json crypto built key username conversationId = .ok token ↔
      ∃ jwtAlgorithm secs header claims signature,
        jwtAlgorithmForPublicKey key.publicKey = .ok jwtAlgorithm ∧
        unixTimestampNow built = .ok secs ∧
        json.header.toVec (bearerHeader jwtAlgorithm) = some header ∧
        json.claims.toVec (bearerClaims username conversationId secs) = some claims ∧
        signJwtSignature crypto key jwtAlgorithm
          (joinDot (URL_SAFE_NO_PAD.encode header) (URL_SAFE_NO_PAD.encode claims)) =
          .ok signature ∧
        joinDot (joinDot (URL_SAFE_NO_PAD.encode header) (URL_SAFE_NO_PAD.encode claims))
          (URL_SAFE_NO_PAD.encode signature) = token := by
  simp only [buildBearerToken, buildBearerTokenWithSigner, mapError_id, bind_eq_ok, okOr_eq_ok]
  constructor
  · rintro ⟨alg, halg, secs, hsecs, header, hheader, claims, hclaims, signature, hsign, htoken⟩
    exact ⟨alg, secs, header, claims, signature, halg, hsecs, hheader, hclaims, hsign,
      Except.ok.inj htoken⟩
  · rintro ⟨alg, secs, header, claims, signature, halg, hsecs, hheader, hclaims, hsign, rfl⟩
    exact ⟨alg, halg, secs, hsecs, header, hheader, claims, hclaims, signature, hsign, rfl⟩

/-! ## Honest signatures -/

/-- The signature schemes accept what this key signs. -/
structure Crypto.Honest (crypto : Crypto) (key : PrivateKey) : Prop where
  ed25519 : ∀ data, key.publicKey.keyData = .ed25519 data → ∀ input signature,
    crypto.trySign key input = some signature →
      crypto.ed25519Signature signature ∧ crypto.verify key.publicKey input signature
  p256 : ∀ publicKey privateKey, key.keyData = .ecdsaNistP256 publicKey privateKey →
    ∀ input signature, crypto.p256TrySign privateKey input = some signature →
      crypto.p256VerifyingKey publicKey ∧ crypto.p256Signature signature ∧
        crypto.p256Verify publicKey input signature
  rsa : ∀ keypair privateKey, key.keyData = .rsa keypair →
    Auth.rsaPrivateKey crypto keypair = .ok privateKey →
    ∀ input signature, crypto.rsaTrySign privateKey input = some signature →
      crypto.rsaPublicKey ⟨privateKey.n, privateKey.e⟩ ∧ crypto.rsaSignature signature ∧
        crypto.rsaVerify ⟨privateKey.n, privateKey.e⟩ input signature

/-- The public key read for verifying has the modulus and the exponent of the private key read
    for signing. -/
theorem rsaPublicKey_of_rsaPrivateKey {keypair : RsaKeypair} {key : JwtRsaPrivateKey}
    (h : rsaPrivateKey crypto keypair = .ok key) (hok : crypto.rsaPublicKey ⟨key.n, key.e⟩) :
    rsaPublicKey crypto keypair.publicKey = .ok ⟨key.n, key.e⟩ := by
  simp only [rsaPrivateKey, bind_eq_ok] at h
  obtain ⟨n, hn, e, he, d, -, p, -, q, -, -, -, -, -, hkey⟩ := h
  cases Except.ok.inj hkey
  simp only [rsaPublicKey, bind_eq_ok, ensure_eq_ok]
  exact ⟨n, hn, e, he, (), hok, rfl⟩

theorem verifyJwtSignature_of_sign {key : PrivateKey} (honest : crypto.Honest key)
    {jwtAlgorithm : JwtAlgorithm} (halg : jwtAlgorithmForPublicKey key.publicKey = .ok jwtAlgorithm)
    {input signature : List UInt8}
    (hsign : signJwtSignature crypto key jwtAlgorithm input = .ok signature) :
    verifyJwtSignature crypto key.publicKey jwtAlgorithm input signature = .ok () := by
  cases jwtAlgorithm with
  | edDsa =>
    obtain ⟨data, hdata⟩ : ∃ data, key.publicKey.keyData = .ed25519 data := by
      unfold jwtAlgorithmForPublicKey at halg
      split at halg
      · exact ⟨_, ‹_›⟩
      all_goals cases halg
    obtain ⟨hform, hverify⟩ := honest.ed25519 data hdata input signature (okOr_eq_ok.mp hsign)
    simp only [verifyJwtSignature, bind_eq_ok, ensure_eq_ok]
    exact ⟨(), hform, hverify⟩
  | es256 =>
    unfold signJwtSignature at hsign
    cases hdata : key.keyData with
    | ecdsaNistP256 publicKey privateKey =>
      simp only [hdata, bind_eq_ok, ensure_eq_ok, okOr_eq_ok] at hsign
      obtain ⟨-, -, hsignature⟩ := hsign
      obtain ⟨hkey, hform, hverify⟩ := honest.p256 publicKey privateKey hdata input signature
        hsignature
      have hpublic : key.publicKey.keyData = .ecdsa .nistP256 publicKey :=
        key.publicKey_eq _ (by rw [hdata]; rfl)
      simp only [verifyJwtSignature, hpublic, verifyP256, bind_eq_ok, ensure_eq_ok]
      exact ⟨(), hkey, (), hform, hverify⟩
    | rsa keypair => simp only [hdata] at hsign; cases hsign
    | ed25519 publicKey privateKey => simp only [hdata] at hsign; cases hsign
    | other data => simp only [hdata] at hsign; cases hsign
  | rs256 =>
    unfold signJwtSignature at hsign
    cases hdata : key.keyData with
    | rsa keypair =>
      simp only [hdata, bind_eq_ok, okOr_eq_ok] at hsign
      obtain ⟨privateKey, hprivate, hsignature⟩ := hsign
      obtain ⟨hkey, hform, hverify⟩ := honest.rsa keypair privateKey hdata hprivate input signature
        hsignature
      have hpublic : key.publicKey.keyData = .rsa keypair.publicKey :=
        key.publicKey_eq _ (by rw [hdata]; rfl)
      simp only [verifyJwtSignature, hpublic, verifyRsa, bind_eq_ok, ensure_eq_ok]
      exact ⟨_, rsaPublicKey_of_rsaPrivateKey hprivate hkey, (), hform, hverify⟩
    | ecdsaNistP256 publicKey privateKey => simp only [hdata] at hsign; cases hsign
    | ed25519 publicKey privateKey => simp only [hdata] at hsign; cases hsign
    | other data => simp only [hdata] at hsign; cases hsign

/-! ## The lifetime of a token -/

theorem toUInt64_toNat_lt {x : Int64} (h : 0 ≤ x) : x.toUInt64.toNat < 2 ^ 63 := by
  have hpos : 0 ≤ x.toBitVec.toInt := Int64.le_iff_toInt_le.mp h
  have hlt := x.toBitVec.isLt
  rw [BitVec.toInt_eq_toNat_cond] at hpos
  show x.toBitVec.toNat < 2 ^ 63
  split at hpos
  · omega
  · omega

/-- The clock counts its seconds in 63 bits. -/
theorem unixTimestampNow_lt {now : SystemTime} {secs : UInt64}
    (h : unixTimestampNow now = .ok secs) : secs.toNat < 2 ^ 63 := by
  unfold unixTimestampNow SystemTime.durationSinceEpoch at h
  split at h
  · next duration hduration =>
    split at hduration
    · next hpos =>
      cases hduration
      cases h
      exact toUInt64_toNat_lt hpos
    · split at hduration
      · cases hduration
      · cases hduration
  · cases h

theorem exp_toNat {now : SystemTime} {secs : UInt64} (h : unixTimestampNow now = .ok secs)
    (username : List UInt8) (conversationId : ConversationId) :
    (bearerClaims username conversationId secs).exp.toNat =
      secs.toNat + TOKEN_LIFETIME_SECS.toNat := by
  have hlt := unixTimestampNow_lt h
  show (secs + TOKEN_LIFETIME_SECS).toNat = _
  have hlife : TOKEN_LIFETIME_SECS.toNat = 60 := rfl
  rw [UInt64.toNat_add, hlife]
  omega

theorem bearerClaims_areFor (username : List UInt8) (conversationId : ConversationId)
    (secs : UInt64) :
    (bearerClaims username conversationId secs).AreFor username conversationId :=
  ⟨rfl, rfl, rfl, rfl, rfl⟩

/-- The clock is within the lifetime of a token built at `built`. -/
def WithinLifetime (built now : SystemTime) : Prop :=
  ∃ t s, unixTimestampNow built = .ok t ∧ unixTimestampNow now = .ok s ∧
    t.toNat ≤ s.toNat ∧ s.toNat < t.toNat + TOKEN_LIFETIME_SECS.toNat

/-- serde_json reads back the two records of the token. -/
structure JwtJson.RoundTrips (json : JwtJson) (key : PublicKey) (username : List UInt8)
    (conversationId : ConversationId) (built : SystemTime) : Prop where
  header : ∀ jwtAlgorithm, jwtAlgorithmForPublicKey key = .ok jwtAlgorithm →
    json.header.RoundTrips (bearerHeader jwtAlgorithm)
  claims : ∀ secs, unixTimestampNow built = .ok secs →
    json.claims.RoundTrips (bearerClaims username conversationId secs)

theorem verifyBearerToken_of_build {key : PrivateKey} {username token : List UInt8}
    {conversationId : ConversationId} {built : SystemTime} (honest : crypto.Honest key)
    (hjson : json.RoundTrips key.publicKey username conversationId built)
    (hbuild : buildBearerToken json crypto built key username conversationId = .ok token)
    (now : SystemTime) :
    verifyBearerToken json crypto now key.publicKey token username conversationId = .ok () ↔
      WithinLifetime built now := by
  obtain ⟨alg, t, headerBytes, claimsBytes, signature, halg, ht, hheader, hclaims, hsign, rfl⟩ :=
    buildBearerToken_eq_ok.mp hbuild
  have hexp := exp_toNat ht username conversationId
  have hheaderOk := decodeJson_encode (hjson.header alg halg headerBytes hheader)
  have hclaimsOk := decodeJson_encode (hjson.claims t ht claimsBytes hclaims)
  have hparts := splitToken_joinDot headerBytes claimsBytes signature
  rw [verifyBearerToken_eq_ok]
  constructor
  · rintro ⟨-, parts, -, claims, s, -, -, hsplit, -, -, hdecode, hs, -, hiat, hlt, -⟩
    -- the claims that were read are those that were written
    cases Except.ok.inj (hparts.symm.trans hsplit)
    cases Except.ok.inj (hclaimsOk.symm.trans hdecode)
    refine ⟨t, s, ht, hs, UInt64.le_iff_toNat_le.mp hiat, ?_⟩
    rw [← hexp]
    exact UInt64.lt_iff_toNat_lt.mp hlt
  · rintro ⟨t', s, ht', hs, hle, hlt⟩
    cases Except.ok.inj (ht.symm.trans ht')
    refine ⟨alg, _, bearerHeader alg, bearerClaims username conversationId t, s, signature, halg,
      hparts, hheaderOk, rfl, hclaimsOk, hs, bearerClaims_areFor username conversationId t,
      UInt64.le_iff_toNat_le.mpr hle, ?_, Base64.Engine.decode_encode _ _,
      verifyJwtSignature_of_sign honest halg hsign⟩
    rw [UInt64.lt_iff_toNat_lt, hexp]
    exact hlt

end

/-- Whatever the token and the keys, two acceptances of a token are for the same user and the
    same connection; and what `build_bearer_token` returns is accepted for its user and its
    connection from the second it was built for the length of its lifetime, and at no other
    time. -/
theorem bearerToken_bound (json : JwtJson) (crypto : Crypto) :
    (∀ (k₁ k₂ : PublicKey) (t₁ t₂ : SystemTime) (u₁ u₂ : List UInt8) (c₁ c₂ : ConversationId)
        (token : List UInt8),
      verifyBearerToken json crypto t₁ k₁ token u₁ c₁ = .ok () →
      verifyBearerToken json crypto t₂ k₂ token u₂ c₂ = .ok () → u₁ = u₂ ∧ c₁ = c₂) ∧
    (∀ (key : PrivateKey) (username : List UInt8) (conversationId : ConversationId)
        (built : SystemTime) (token : List UInt8),
      crypto.Honest key → json.RoundTrips key.publicKey username conversationId built →
      buildBearerToken json crypto built key username conversationId = .ok token →
      ∀ now, verifyBearerToken json crypto now key.publicKey token username conversationId =
        .ok () ↔ WithinLifetime built now) := by
  refine ⟨?_, ?_⟩
  · intro k₁ k₂ t₁ t₂ u₁ u₂ c₁ c₂ token h₁ h₂
    exact verifyBearerToken_unique h₁ h₂
  · intro key username conversationId built token honest hjson hbuild now
    exact verifyBearerToken_of_build honest hjson hbuild now

/-! ## One token -/

/-- serde_json on the one record that is written. -/
def jsonOf {α : Type} [DecidableEq α] (a : α) (text : List UInt8) : Json α where
  toVec := fun b => if b = a then some text else none
  fromSlice := fun bytes => if bytes = text then some a else none

theorem jsonOf_roundTrips {α : Type} [DecidableEq α] (a : α) (text : List UInt8) :
    (jsonOf a text).RoundTrips a := by
  intro bytes h
  simp only [jsonOf, if_true, Option.some.injEq] at h
  simp only [jsonOf, h, if_true]

def aliceHeader : List UInt8 := ascii "\x7b\"alg\":\"EdDSA\",\"typ\":\"JWT\"\x7d"

def aliceClaims : List UInt8 :=
  ascii ("\x7b\"iss\":\"alice\",\"sub\":\"ssh3\",\"aud\":\"unused\",\"iat\":1700000000," ++
    "\"exp\":1700000060,\"client_id\":\"ssh3-alice\"," ++
    "\"jti\":\"AAAAAAAAAAAAAAAAAAAAAAAAAAAAAAAAAAAAAAAAAAA=\"\x7d")

def aliceJson : JwtJson where
  header := jsonOf (bearerHeader .edDsa) aliceHeader
  claims := jsonOf (bearerClaims (ascii "alice") zeroConversation 1700000000) aliceClaims

def aliceKey : PrivateKey where
  publicKey := ⟨.ed25519 [
    0xd7, 0x5a, 0x98, 0x01, 0x82, 0xb1, 0x0a, 0xb7, 0xd5, 0x4b, 0xfe, 0xd3, 0xc9, 0x64, 0x07, 0x3a,
    0x0e, 0xe1, 0x72, 0xf3, 0xda, 0xa6, 0x23, 0x25, 0xaf, 0x02, 0x1a, 0x68, 0xf7, 0x07, 0x51, 0x1a]⟩
  keyData := .ed25519 [
    0xd7, 0x5a, 0x98, 0x01, 0x82, 0xb1, 0x0a, 0xb7, 0xd5, 0x4b, 0xfe, 0xd3, 0xc9, 0x64, 0x07, 0x3a,
    0x0e, 0xe1, 0x72, 0xf3, 0xda, 0xa6, 0x23, 0x25, 0xaf, 0x02, 0x1a, 0x68, 0xf7, 0x07, 0x51, 0x1a]
    [0x9d, 0x61, 0xb1, 0x9d, 0xef, 0xfd, 0x5a, 0x60, 0xba, 0x84, 0x4a, 0xf4, 0x92, 0xec, 0x2c, 0xc4,
    0x44, 0x49, 0xc5, 0x69, 0x7b, 0x32, 0x69, 0x19, 0x70, 0x3b, 0xac, 0x03, 0x1c, 0xae, 0x7f, 0x60]
  publicKey_eq := fun _ h => Option.some.inj h

/-- The Ed25519 signature of the header and the claims above under this key. -/
def aliceSignature : List UInt8 := [
  0x02, 0x16, 0x41, 0x5f, 0x03, 0x4f, 0x83, 0xfe, 0xee, 0x8c, 0x35, 0x78, 0xb2, 0xa2, 0xde, 0xe4,
  0x55, 0x6f, 0x1a, 0xa8, 0x4f, 0xe1, 0x11, 0xbe, 0x1f, 0x1a, 0x3d, 0x6f, 0x4f, 0x4f, 0x2b, 0x10,
  0xbe, 0x8c, 0x8a, 0xe5, 0x93, 0xe9, 0x64, 0xeb, 0xec, 0x8f, 0x2d, 0x6d, 0x99, 0x80, 0xce, 0xaf,
  0xf7, 0xd4, 0x7a, 0x01, 0x4a, 0x82, 0x3a, 0xce, 0x17, 0x7e, 0x8e, 0xdb, 0xbb, 0x4c, 0xee, 0x0c]

def aliceSigningInput : List UInt8 :=
  joinDot (URL_SAFE_NO_PAD.encode aliceHeader) (URL_SAFE_NO_PAD.encode aliceClaims)

/-- The signature schemes on this one input. -/
def aliceCrypto : Crypto where
  ed25519Signature := fun bytes => bytes.length = 64
  trySign := fun _ input => if input = aliceSigningInput then some aliceSignature else none
  verify := fun key input signature =>
    key = aliceKey.publicKey ∧ input = aliceSigningInput ∧ signature = aliceSignature
  p256SigningKey := fun _ => false
  p256TrySign := fun _ _ => none
  p256VerifyingKey := fun _ => false
  p256Signature := fun _ => false
  p256Verify := fun _ _ _ => false
  rsaPublicKey := fun _ => false
  rsaPrivateKey := fun _ => false
  rsaValidate := fun _ => false
  rsaTrySign := fun _ _ => none
  rsaSignature := fun _ => false
  rsaVerify := fun _ _ _ => false

theorem aliceCrypto_honest : aliceCrypto.Honest aliceKey where
  ed25519 := by
    intro _ _ input signature h
    simp only [aliceCrypto] at h
    split at h
    · next hinput =>
      cases h
      simp [aliceCrypto, hinput, aliceSignature]
    · cases h
  p256 := nofun
  rsa := nofun

theorem aliceJson_roundTrips :
    aliceJson.RoundTrips aliceKey.publicKey (ascii "alice") zeroConversation ⟨1700000000, 0⟩ where
  header := by
    intro alg halg
    cases halg
    exact jsonOf_roundTrips _ _
  claims := by
    intro secs hsecs
    cases hsecs
    exact jsonOf_roundTrips _ _

/-- A token built for alice is accepted in its last second and no longer in the next. -/
theorem bearerToken_alice :
    ∃ token,
      buildBearerToken aliceJson aliceCrypto ⟨1700000000, 0⟩ aliceKey (ascii "alice")
        zeroConversation = .ok token ∧
      verifyBearerToken aliceJson aliceCrypto ⟨1700000059, 0⟩ aliceKey.publicKey token
        (ascii "alice") zeroConversation = .ok () ∧
      verifyBearerToken aliceJson aliceCrypto ⟨1700000060, 0⟩ aliceKey.publicKey token
        (ascii "alice") zeroConversation ≠ .ok () := by
  have hbuild : buildBearerToken aliceJson aliceCrypto ⟨1700000000, 0⟩ aliceKey (ascii "alice")
      zeroConversation =
        .ok (joinDot aliceSigningInput (URL_SAFE_NO_PAD.encode aliceSignature)) := by
    rw [buildBearerToken_eq_ok]
    refine ⟨.edDsa, 1700000000, aliceHeader, aliceClaims, aliceSignature, rfl, rfl, ?_, ?_, ?_, rfl⟩
    · simp only [aliceJson, jsonOf, if_true]
    · simp only [aliceJson, jsonOf, if_true]
    · rw [← aliceSigningInput]
      have hsign : aliceCrypto.trySign aliceKey aliceSigningInput = some aliceSignature := by
        simp only [aliceCrypto, if_true]
      simp only [signJwtSignature, hsign, okOr]
  have hiff := (bearerToken_bound aliceJson aliceCrypto).2 aliceKey (ascii "alice")
    zeroConversation ⟨1700000000, 0⟩ _ aliceCrypto_honest aliceJson_roundTrips hbuild
  refine ⟨_, hbuild, (hiff _).mpr ⟨1700000000, 1700000059, rfl, rfl, by decide, by decide⟩, ?_⟩
  intro hverify
  obtain ⟨t, s, ht, hs, -, hlt⟩ := (hiff _).mp hverify
  cases ht
  cases hs
  exact absurd hlt (by decide)

end Ssh3.Auth
