/-
  Ssh3.Auth.Identity

  `ssh3-auth/src/lib.rs`: the identities a user authorizes in their files, and the
  verification of an OpenID Connect token against one of them.

  Reading a file, asking an issuer and parsing an OpenSSH key are parameters.
-/

import Ssh3.Auth.Token

namespace Ssh3.Auth

open Proto (ascii)
open Base64 (URL_SAFE_NO_PAD)

/-! ## Authorized identities -/

/-- Who may log in with an OpenID Connect token -/
structure OidcIdentity where
  clientId : List UInt8
  issuerUrl : List UInt8
  email : List UInt8
  deriving DecidableEq, Repr

/-- A line of an identities file -/
inductive AuthorizedIdentity where
  | publicKey (key : PublicKey)
  | oidc (identity : OidcIdentity)
  deriving DecidableEq, Repr

/-- `oidc <client id> <issuer> <email>` -/
def parseOidcIdentity (line : List UInt8) : Option OidcIdentity :=
  match Text.words line with
  | [kind, clientId, issuerUrl, email] =>
    if kind = ascii "oidc" then some { clientId, issuerUrl, email } else none
  | _ => none

section

-- `trimmed.parse::<AuthorizedKeyEntry>()` and its public key
variable (parseAuthorizedKey : List UInt8 → Option PublicKey)

/-- What one line of a file stands for. -/
def parseIdentityLine (line : List UInt8) : Option AuthorizedIdentity :=
  let trimmed := Text.trim line
  if trimmed = [] ∨ trimmed.head? = some 35 then none
  else
    match parseOidcIdentity trimmed with
    | some identity => some (.oidc identity)
    | none => (parseAuthorizedKey trimmed).map .publicKey

def parseAuthorizedIdentities (contents : List UInt8) : List AuthorizedIdentity :=
  (Text.lines contents).filterMap (parseIdentityLine parseAuthorizedKey)

/-- `read` is what reading each of the files gives.  A file that is not there has no
    identities; any other error ends the loop. -/
def loadAuthorizedIdentities : List (Except IoError (List UInt8)) →
    Except AuthError (List AuthorizedIdentity)
  | [] => .ok []
  | .ok contents :: read => do
    let identities ← loadAuthorizedIdentities read
    return parseAuthorizedIdentities parseAuthorizedKey contents ++ identities
  | .error err :: read =>
    if err.kind = .notFound then loadAuthorizedIdentities read else .error (.io err)

end

/-! ## OpenID Connect -/

/-- The header of an identity token -/
structure OidcJwtHeader where
  alg : List UInt8
  kid : Option (List UInt8)
  deriving DecidableEq, Repr

/-- `aud`: a text or a list of texts -/
inductive OidcAudience where
  | one (value : List UInt8)
  | many (values : List (List UInt8))
  deriving DecidableEq, Repr

def OidcAudience.contains (self : OidcAudience) (expected : List UInt8) : Bool :=
  match self with
  | .one value => decide (value = expected)
  | .many values => values.any fun value => decide (value = expected)

/-- The claims of an identity token that are checked -/
structure OidcClaims where
  iss : List UInt8
  aud : OidcAudience
  exp : UInt64
  nonce : Option (List UInt8)
  email : Option (List UInt8)
  emailVerified : Bool
  deriving DecidableEq, Repr

/-- What an issuer says about itself -/
structure OidcDiscoveryDocument where
  issuer : List UInt8
  jwksUri : List UInt8
  deriving DecidableEq, Repr

/-- A key of an issuer -/
structure OidcJwk where
  kty : List UInt8
  kid : Option (List UInt8)
  alg : Option (List UInt8)
  n : Option (List UInt8)
  e : Option (List UInt8)
  crv : Option (List UInt8)
  x : Option (List UInt8)
  y : Option (List UInt8)
  deriving DecidableEq, Repr

/-- serde_json on the parts of an OpenID Connect token. -/
structure OidcJson where
  header : List UInt8 → Option OidcJwtHeader
  claims : List UInt8 → Option OidcClaims

/-- What the issuer answers: the document at a URL, once sent, accepted and parsed. -/
structure OidcIssuer where
  discovery : List UInt8 → Option OidcDiscoveryDocument
  jwks : List UInt8 → Option (List OidcJwk)

def oidcJwkSupportsAlgorithm (jwk : OidcJwk) (alg : List UInt8) : Bool :=
  if alg = ascii "RS256" then
    decide (jwk.kty = ascii "RSA") && jwk.n.isSome && jwk.e.isSome
  else if alg = ascii "ES256" then
    decide (jwk.kty = ascii "EC") && decide (jwk.crv = some (ascii "P-256")) && jwk.x.isSome &&
      jwk.y.isSome
  else false

def selectOidcJwk (jwks : List OidcJwk) (header : OidcJwtHeader) : Except AuthError OidcJwk :=
  okOr (.invalidToken (ascii "no matching OIDC JWK found")) <| jwks.find? fun jwk =>
    (header.kid.all fun expected => decide (jwk.kid = some expected)) &&
      (jwk.alg.all fun expected => decide (expected = header.alg)) &&
      oidcJwkSupportsAlgorithm jwk header.alg

/-- A base64url field of a JWK. -/
def decodeField (missing : List UInt8) (field : Option (List UInt8)) :
    Except AuthError (List UInt8) := do
  let encoded ← okOr (.invalidKeyMaterial missing) field
  okOr .base64 (URL_SAFE_NO_PAD.decode encoded)

section

variable (crypto : Crypto)

def verifyOidcJwkSignature (jwk : OidcJwk) (alg signingInput signatureBytes : List UInt8) :
    Except AuthError Unit :=
  if alg = ascii "RS256" then do
    let n ← decodeField (ascii "missing RSA modulus") jwk.n
    let e ← decodeField (ascii "missing RSA exponent") jwk.e
    let key ← rsaPublicKey crypto ⟨some n, some e⟩
    verifyRsa crypto key signingInput signatureBytes
  else if alg = ascii "ES256" then do
    let x ← decodeField (ascii "missing EC x coordinate") jwk.x
    let y ← decodeField (ascii "missing EC y coordinate") jwk.y
    ensure (x.length = 32 ∧ y.length = 32)
      (.invalidKeyMaterial (ascii "invalid P-256 public key coordinates"))
    -- SEC1 uncompressed point: tag followed by x and y
    verifyP256 crypto (4 :: x ++ y) signingInput signatureBytes
  else .error (.unsupportedAlgorithm alg)

/-- `issuer_url.trim_end_matches('/')` -/
def trimEndSlashes (url : List UInt8) : List UInt8 := (url.reverse.dropWhile (· = 47)).reverse

/-- Whether the token is signed by the issuer and is for this identity and nonce -/
def verifyOidcIdentityToken (json : OidcJson) (now : SystemTime) (issuer : OidcIssuer)
    (identity : OidcIdentity) (token : List UInt8) (expectedNonce : Option (List UInt8)) :
    Except AuthError Unit := do
  let parts ← splitToken token
  let header ← decodeJson json.header parts.headerPart
  let claims ← decodeJson json.claims parts.claimsPart
  let now ← unixTimestampNow now
  ensure (claims.iss = identity.issuerUrl) (.invalidToken (ascii "unexpected OIDC issuer"))
  ensure (claims.aud.contains identity.clientId)
    (.invalidToken (ascii "unexpected OIDC audience"))
  ensure (¬claims.exp ≤ now) (.invalidToken (ascii "OIDC token is expired"))
  ensure (claims.email = some identity.email) (.invalidToken (ascii "unexpected OIDC email"))
  ensure claims.emailVerified (.invalidToken (ascii "OIDC email is not verified"))
  ensure (expectedNonce.all fun nonce => decide (claims.nonce = some nonce))
    (.invalidToken (ascii "unexpected OIDC nonce"))
  let discovery ← okOr .reqwest <| issuer.discovery
    (trimEndSlashes identity.issuerUrl ++ ascii "/.well-known/openid-configuration")
  ensure (discovery.issuer = identity.issuerUrl)
    (.invalidToken (ascii "unexpected OIDC discovery issuer"))
  let jwks ← okOr .reqwest (issuer.jwks discovery.jwksUri)
  let jwk ← selectOidcJwk jwks header
  let signature ← okOr .base64 (URL_SAFE_NO_PAD.decode parts.signaturePart)
  verifyOidcJwkSignature crypto jwk header.alg parts.signingInput signature

end

end Ssh3.Auth
