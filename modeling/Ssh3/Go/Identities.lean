/-
  Ssh3.Go.Identities

  `server_auth/authorized_identities.go` and the public key plugin: the verifiers a
  user's identity files stand for, and what each of them accepts.

  An `IdentityVerifier` of the source is an interface; its two implementations are
  the constructors here, and a verifier of a plugin is the function it stands for.
  go-oidc, golang-jwt and the key parser of x/crypto are parameters.
-/

import Ssh3.Go.Plugins
import Ssh3.Go.StdLib

namespace Ssh3.Go

open Proto (ascii)

/-! ## Verifiers -/

/-- The `Verify` of a plugin's verifier: whether a request proves the identity, for a
    base64-encoded conversation id. -/
abbrev RequestIdentityVerifier := HttpRequest → List UInt8 → Bool

/-- Who may log in with an OpenID Connect token -/
structure OpenIDConnectIdentity where
  clientID : List UInt8
  issuerURL : List UInt8
  email : List UInt8
  deriving DecidableEq, Repr

/-- What checks a request for an identity -/
inductive IdentityVerifier where
  | oidc (identity : OpenIDConnectIdentity)
  | plugin (verifier : RequestIdentityVerifier)

/-- A verified `oidc.IDToken`; its claims are what `token.Claims` unmarshals, if it can. -/
structure IDToken where
  issuer : List UInt8
  nonce : Option (List UInt8)
  /-- `email` and `email_verified` -/
  email : Option (List UInt8 × Bool)
  deriving DecidableEq, Repr

/-- `oidc.NewProvider` for an issuer and `Verify` for a client id, on a raw token -/
abbrev OidcProvider := List UInt8 → List UInt8 → List UInt8 → Option IDToken

/-- Whether the token is one of the issuer for this client and nonce -/
def verifyRawToken (provider : OidcProvider) (clientID issuerURL rawIDToken expectedNonce :
    List UInt8) : Option IDToken :=
  match provider issuerURL clientID rawIDToken with
  | none => none
  | some token =>
    if expectedNonce = [] then some token
    else
      match token.nonce with
      | none => none
      | some nonce => if nonce = expectedNonce then some token else none

/-- What a verifier is given: the request, or the token in it. -/
inductive Candidate where
  | request (r : HttpRequest)
  | jwtTokenString (token : List UInt8)
  deriving DecidableEq, Repr

/-- Whether a request is from this identity -/
def OpenIDConnectIdentity.verify (i : OpenIDConnectIdentity) (provider : OidcProvider)
    (candidate : Candidate) (base64ConversationID : List UInt8) : Bool :=
  match candidate with
  | .request _ => false
  | .jwtTokenString rawIDToken =>
    match verifyRawToken provider i.clientID i.issuerURL rawIDToken base64ConversationID with
    | none => false
    | some token =>
      if token.issuer ≠ i.issuerURL then false
      else
        match token.email with
        | none => false
        | some (email, emailVerified) => emailVerified && decide (email = i.email)

/-- A plugin is asked about a request only. -/
def IdentityVerifier.verify (provider : OidcProvider) (self : IdentityVerifier)
    (candidate : Candidate) (base64ConversationID : List UInt8) : Bool :=
  match self with
  | .oidc identity => identity.verify provider candidate base64ConversationID
  | .plugin verifier =>
    match candidate with
    | .request r => verifier r base64ConversationID
    | .jwtTokenString _ => false

/-! ## Bearer credentials -/

def parseBearerAuth (auth : List UInt8) : Option (List UInt8) :=
  let scheme := ascii "Bearer "
  if auth.length < scheme.length ∨ ¬Text.eqIgnoreAsciiCase (auth.take scheme.length) scheme then
    none
  else some (auth.drop scheme.length)

def bearerAuth (r : HttpRequest) : Option (List UInt8) :=
  let auth := r.get (ascii "Authorization")
  if auth = [] then none else parseBearerAuth auth

/-! ## Identity files -/

/-- A user of the system -/
structure User where
  username : List UInt8
  dir : List UInt8
  deriving DecidableEq, Repr

/-- A plugin parses an identity line for a user.  It returns no verifier for a line that it does
    not know. -/
abbrev ServerAuthPlugin := Plugins.ServerAuthPlugin RequestIdentityVerifier (List UInt8)

def defaultIdentitiesFileNames (user : User) : List (List UInt8) :=
  [joinPaths [user.dir, ascii ".ssh3", ascii "authorized_identities"],
    joinPaths [user.dir, ascii ".ssh", ascii "authorized_keys"]]

/-- Why a line is no identity -/
inductive IdentityError where
  | badOidcFormat (tokens : Nat) (identityStr : List UInt8)
  | unknownFormat
  deriving DecidableEq, Repr

/-- The error of a malformed `oidc` line hides what the plugins made of it. -/
def parseIdentity (plugins : List ServerAuthPlugin) (user : User) (identityStr : List UInt8) :
    Except IdentityError (List IdentityVerifier) :=
  let pluginIdentities :=
    (Plugins.findIdentities plugins user.username identityStr).map IdentityVerifier.plugin
  if ascii "oidc" <+: identityStr then
    match Text.words identityStr with
    | [_, clientID, issuerURL, email] =>
      .ok (pluginIdentities ++ [.oidc { clientID, issuerURL, email }])
    | tokens => .error (.badOidcFormat tokens.length identityStr)
  else if pluginIdentities.isEmpty then .error .unknownFormat
  else .ok pluginIdentities

/-- The registered plugins, in the order in which Go iterates over their map at a line. -/
abbrev PluginRegistry := Nat → List ServerAuthPlugin

/-- The verifiers of one line; blank lines, comments and lines with an error have none. -/
def parseIdentityLine (plugins : List ServerAuthPlugin) (user : User) (line : List UInt8) :
    List IdentityVerifier :=
  if Text.trim line = [] then []
  else if line.head? = some 35 then []
  else
    match parseIdentity plugins user line with
    | .ok identities => identities
    | .error _ => []

/-- Why an identities file cannot be read -/
inductive FileError where
  /-- `os.IsNotExist` -/
  | notExist
  | other (text : String)
  /-- `bufio.ErrTooLong` -/
  | tooLong
  deriving DecidableEq, Repr

/-- A file that was opened: what reading it gives, and how reading and closing it end. -/
structure OpenFile where
  contents : List UInt8
  readError : Option FileError
  closeError : Option FileError
  deriving DecidableEq, Repr

/-- The verifiers of all the lines that were scanned. -/
def parseLines (registry : PluginRegistry) (user : User) (lines : List (List UInt8)) :
    List IdentityVerifier :=
  lines.zipIdx.flatMap fun entry => parseIdentityLine (registry entry.2) user entry.1

/-- The identities, together with the error the scanner ended with. -/
def parseAuthorizedIdentitiesFile (registry : PluginRegistry) (user : User) (file : OpenFile) :
    List IdentityVerifier × Option FileError :=
  let (lines, tooLong) := scanLines file.contents
  (parseLines registry user lines, if tooLong then some .tooLong else file.readError)

/-- `open` is the result of opening each of the files. -/
def getAuthorizedIdentities (user : User) :
    List (PluginRegistry × Except FileError OpenFile) → Except FileError (List IdentityVerifier)
  | [] => .ok []
  | (registry, .ok file) :: rest =>
    let (newIdentities, err) := parseAuthorizedIdentitiesFile registry user file
    match err.or file.closeError with
    | some err => .error err
    | none =>
      match getAuthorizedIdentities user rest with
      | .ok identities => .ok (newIdentities ++ identities)
      | .error err => .error err
  | (_, .error err) :: rest =>
    if err = .notExist then getAuthorizedIdentities user rest else .error err

/-! ## The public key plugin -/

/-- A parsed `authorized_keys` line: the type of its key, and the key. -/
structure AuthorizedKey where
  keyType : List UInt8
  pubkey : List UInt8
  deriving DecidableEq, Repr

/-- The values of `jwt.MapClaims` that are looked at. -/
inductive ClaimValue where
  | string (value : List UInt8)
  | other
  deriving DecidableEq, Repr

/-- `jwt.Parse` with a key and the options of the plugin: the issuer, the subject `ssh3`, the
    audience `unused`, a check of the issue time, and the methods RS256, EdDSA and ES256.  It gives
    the claims of a valid token. -/
abbrev JwtParser := (token pubkey issuer : List UInt8) → Option (List (List UInt8 × ClaimValue))

/-- The verifier of tokens that a public key has signed -/
structure PubkeyJWTIdentityVerifier where
  username : List UInt8
  pubkey : List UInt8
  deriving DecidableEq, Repr

def PubkeyJWTIdentityVerifier.verify (jwtParse : JwtParser) (v : PubkeyJWTIdentityVerifier) :
    RequestIdentityVerifier := fun request base64ConversationID =>
  match parseBearerAuth (request.get (ascii "Authorization")) with
  | none => false
  | some jwtToken =>
    match jwtParse jwtToken v.pubkey v.username with
    | none => false
    | some claims =>
      (claims.lookup (ascii "exp")).isSome &&
        decide (claims.lookup (ascii "client_id") = some (.string (ascii "ssh3-" ++ v.username))) &&
        decide (claims.lookup (ascii "jti") = some (.string base64ConversationID))

def pubkeyAuthPlugin (jwtParse : JwtParser)
    (parseAuthorizedKey : List UInt8 → Option AuthorizedKey) : ServerAuthPlugin :=
  fun username identityStr =>
  match parseAuthorizedKey identityStr with
  | none => .ok none
  | some key =>
    if key.keyType = ascii "ssh-rsa" ∨ key.keyType = ascii "ecdsa-sha2-nistp256" ∨
        key.keyType = ascii "ssh-ed25519" then
      .ok (some (PubkeyJWTIdentityVerifier.verify jwtParse ⟨username, key.pubkey⟩))
    else .error (ascii "SSH authorized identity \"" ++ key.keyType ++ ascii "\" not implemented")

end Ssh3.Go
