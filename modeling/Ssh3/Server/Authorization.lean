/-
  Ssh3.Server.Authorization

  `ssh3-server/src/lib.rs`: who is served on a connection.  From the addresses and
  the CONNECT request to the user as whom the channels of the conversation are
  handled: finding out the requested user, the credentials, and the decision.

  The operating system is a `World`.  What can change between two calls (the files,
  the clock, an issuer) is indexed by the call, so that nothing is assumed about it.
  The platform is Linux.
-/

import Ssh3.Auth.Identity
import Ssh3.Core.Conversation
import Ssh3.Server.ReadBuffers

namespace Ssh3.Server

open Proto (ascii IpAddr SocketAddr)
open Ssh3.Core (ConversationId ConversationError ChannelError AcceptedChannel)
open Ssh3.Auth

/-! ## The world -/

/-- `nix::unistd::User` -/
structure User where
  name : List UInt8
  dir : List UInt8
  shell : List UInt8
  uid : UInt32
  gid : UInt32
  deriving DecidableEq, Repr

/-- The result of `getspnam_r`. -/
inductive ShadowLookup where
  /-- The password field of the entry, unless it is a null pointer -/
  | entry (passwordHash : Option (List UInt8))
  | noEntry
  | error (status : Int32)
  deriving DecidableEq, Repr

/-- The system that the server asks -/
structure World where
  userFromName : List UInt8 → Except IoError (Option User)
  /-- `getspnam_r` with a buffer of the given length -/
  getspnam : List UInt8 → Nat → ShadowLookup
  crypt : List UInt8 → List UInt8 → Except IoError (List UInt8)
  /-- `std::fs::read_to_string`, on the file at an index of the list of paths -/
  readToString : Nat → List UInt8 → Except IoError (List UInt8)
  parseAuthorizedKey : List UInt8 → Option PublicKey
  /-- The clock, while the identity at an index is tried -/
  clock : Nat → SystemTime
  issuer : Nat → OidcIssuer
  /-- How an address is displayed -/
  displayAddr : SocketAddr → List UInt8
  crypto : Crypto
  jwtJson : JwtJson
  oidcJson : OidcJson

/-- The fields of `ServerConfig` that decide who is served. -/
structure AccessConfig extends ServerConfig where
  bindAddr : SocketAddr := ⟨.v4 ⟨[127, 0, 0, 1], rfl⟩, 4433⟩
  serverHeader : List UInt8 :=
    ascii "SSH 3.0 ssh3-rust 0.1.0 experimental_spec_version=alpha-00"
  defaultDatagramsQueueSize : Nat := 10
  requireAuthentication : Bool := false
  allowInsecureUnauthenticatedRemote : Bool := false
  enablePasswordLogin : Bool := false
  authorizedIdentityPaths : List (List UInt8) := []
  defaultUser : Option (List UInt8)
  passwordVerifier : Option (List UInt8 → List UInt8 → Except IoError Bool) := none

/-! ## The request -/

/-- The method of a request -/
inductive Method where
  | connect
  | other (name : List UInt8)
  deriving DecidableEq, Repr

/-- `http::Request<()>`; the names of the headers are in lower case. -/
structure Request where
  method : Method
  query : Option (List UInt8)
  headers : List (List UInt8 × List UInt8)
  protocol : Option (List UInt8)
  deriving DecidableEq, Repr

/-- `value.to_str().ok()` on the first header of this name -/
def Request.header (self : Request) (name : List UInt8) : Option (List UInt8) :=
  match self.headers.lookup name with
  | some value =>
    if value.all fun b => (32 ≤ b && b < 127) || b == 9 then some value else none
  | none => none

def isSsh3Connect (request : Request) : Bool :=
  decide (request.method = .connect) && decide (request.protocol = some (ascii "ssh3"))

def extractQueryParam (request : Request) (name : List UInt8) : Option (List UInt8) :=
  match request.query with
  | none => none
  | some query => (query.splitOn 38).findSome? fun entry =>
    -- `splitn(2, '=')`, the value defaulting to the empty string
    let (key, value) := Text.cut 61 entry
    if key = name ∧ value ≠ [] then some value else none

/-- From the credentials, the header or the query -/
def requestedUsername (request : Request) (config : AccessConfig) : Option (List UInt8) :=
  let fromHeader := ((request.header (ascii "x-ssh3-user")).map Text.trim).filter (· ≠ [])
  (fromHeader.or (extractQueryParam request (ascii "user"))).or config.defaultUser

/-- What the `Authorization` header gives -/
inductive RequestAuthorization where
  | none
  | basic (username password : List UInt8)
  | bearer (token : List UInt8)
  deriving DecidableEq, Repr

def stripScheme (value scheme : List UInt8) : Option (List UInt8) :=
  if value.length > scheme.length ∧
      Text.eqIgnoreAsciiCase (value.take scheme.length) scheme ∧
      value[scheme.length]? = some 32 then
    some (Text.trim (value.drop (scheme.length + 1)))
  else Option.none

/-- `BASE64_STANDARD.decode`, `String::from_utf8` and `split_once(':')` -/
def parseBasicCredentials (encoded : List UInt8) : Option (List UInt8 × List UInt8) :=
  match Base64.STANDARD.decode encoded with
  | some decoded => if Text.validUtf8 decoded then Text.splitOnce 58 decoded else Option.none
  | Option.none => Option.none

/-- A header with the scheme `Basic` is never looked at as a `Bearer` one. -/
def parseRequestAuthorization (request : Request) : RequestAuthorization :=
  match request.header (ascii "authorization") with
  | Option.none => .none
  | some value =>
    match stripScheme value (ascii "Basic") with
    | some encoded =>
      match parseBasicCredentials encoded with
      | some (username, password) => .basic username password
      | Option.none => .none
    | Option.none =>
      match stripScheme value (ascii "Bearer") with
      | some token => if token = [] then .none else .bearer token
      | Option.none => .none

/-! ## The user -/

/-- The user a session runs as -/
structure SessionUser where
  username : List UInt8
  homeDir : List UInt8
  shell : List UInt8
  uid : UInt32
  gid : UInt32
  deriving DecidableEq, Repr

def lookupSessionUser (world : World) (username : List UInt8) : Except IoError SessionUser :=
  match world.userFromName username with
  | .error err => .error err
  | .ok none => .error ⟨.notFound, ascii "unknown user: " ++ username⟩
  | .ok (some user) =>
    .ok {
      username := user.name
      homeDir := user.dir
      shell := if user.shell = [] then ascii "/bin/sh" else user.shell
      uid := user.uid
      gid := user.gid }

/-- The name in non-empty Basic credentials goes before the other ways to ask for a user. -/
def sessionUsername (request : Request) (authorization : RequestAuthorization)
    (config : AccessConfig) : Option (List UInt8) :=
  match authorization with
  | .basic username _ => if username = [] then requestedUsername request config else some username
  | _ => requestedUsername request config

/-- The user the session is for -/
def resolveSessionUser (world : World) (request : Request) (authorization : RequestAuthorization)
    (config : AccessConfig) : Except IoError SessionUser :=
  match sessionUsername request authorization config with
  | some username => lookupSessionUser world username
  | none =>
    .error ⟨.permissionDenied,
      ascii "no SSH3 user was requested and no default server user is configured"⟩

/-- `PathBuf::join` with a relative path -/
def joinPath (base path : List UInt8) : List UInt8 :=
  match base.getLast? with
  | none => path
  | some last => if last = 47 then base ++ path else base ++ 47 :: path

def defaultAuthorizedIdentityPaths (sessionUser : SessionUser) : List (List UInt8) :=
  [joinPath (joinPath sessionUser.homeDir (ascii ".ssh3")) (ascii "authorized_identities"),
    joinPath (joinPath sessionUser.homeDir (ascii ".ssh")) (ascii "authorized_keys")]

def configuredAuthorizedIdentityPaths (config : AccessConfig) (sessionUser : SessionUser) :
    List (List UInt8) :=
  if config.authorizedIdentityPaths = [] then defaultAuthorizedIdentityPaths sessionUser
  else config.authorizedIdentityPaths

def shouldAuthenticate (config : AccessConfig) : Bool :=
  config.requireAuthentication || config.enablePasswordLogin ||
    !config.authorizedIdentityPaths.isEmpty

/-! ## Passwords -/

/-- `nix::libc::ERANGE` -/
def ERANGE : Int32 := 34

/-- The `loop` of `default_password_verifier`, in which the buffer is doubled up to `2 ^ 20`
    bytes, so at most `bound` times for a buffer of `2 ^ (20 - bound)`. -/
def lookupShadow (world : World) (username : List UInt8) : Nat → Nat → ShadowLookup
  | 0, bufferLen => world.getspnam username bufferLen
  | bound + 1, bufferLen =>
    match world.getspnam username bufferLen with
    | .error status =>
      if status = ERANGE ∧ bufferLen < 2 ^ 20 then
        lookupShadow world username bound (bufferLen * 2)
      else .error status
    | found => found

def defaultPasswordVerifier (world : World) (username password : List UInt8) :
    Except IoError Bool :=
  if 0 ∈ username then .error ⟨.invalidInput, ascii "username contains NUL byte"⟩
  else if 0 ∈ password then .error ⟨.invalidInput, ascii "password contains NUL byte"⟩
  else
    match lookupShadow world username 10 1024 with
    | .error status => .error ⟨.os status, []⟩
    | .noEntry => .ok false
    | .entry none => .ok false
    | .entry (some storedBytes) =>
      -- no password, or a locked account
      if storedBytes = [] ∨ storedBytes.head? = some 33 ∨ storedBytes.head? = some 42 then .ok false
      else
        match world.crypt password storedBytes with
        | .error err => .error err
        | .ok computed => .ok (decide (computed = storedBytes))

def verifyPassword (world : World) (config : AccessConfig) (username password : List UInt8) :
    Except IoError Bool :=
  match config.passwordVerifier with
  | some verifier => verifier username password
  | none => defaultPasswordVerifier world username password

def platformPasswordAuthAvailable : Bool := true

def passwordAuthAvailable (config : AccessConfig) : Bool :=
  config.passwordVerifier.isSome || platformPasswordAuthAvailable

/-! ## The decision -/

/-- The token is accepted for an identity, the `k`-th that is tried. -/
def acceptsToken (world : World) (sessionUser : SessionUser) (conversationId : ConversationId)
    (token : List UInt8) (k : Nat) : AuthorizedIdentity → Bool
  | .publicKey key =>
    (verifyBearerToken world.jwtJson world.crypto (world.clock k) key token sessionUser.username
      conversationId).isOk
  | .oidc identity =>
    (verifyOidcIdentityToken world.crypto world.oidcJson (world.clock k) (world.issuer k) identity
      token (some (conversationIdBase64 conversationId))).isOk

/-- The loop over the identities, which ends with the first that accepts the token. -/
def anyAcceptsToken (world : World) (sessionUser : SessionUser) (conversationId : ConversationId)
    (token : List UInt8) : Nat → List AuthorizedIdentity → Bool
  | _, [] => false
  | k, identity :: identities =>
    if acceptsToken world sessionUser conversationId token k identity then true
    else anyAcceptsToken world sessionUser conversationId token (k + 1) identities

def loadAuthorizedIdentitiesFromPaths (world : World) (paths : List (List UInt8)) :
    Except AuthError (List AuthorizedIdentity) :=
  loadAuthorizedIdentities world.parseAuthorizedKey
    (paths.zipIdx.map fun entry => world.readToString entry.2 entry.1)

/-- Whether the request may log in as the user -/
def authorizeRequest (world : World) (authorization : RequestAuthorization)
    (sessionUser : SessionUser) (conversationId : ConversationId) (config : AccessConfig) :
    Except AuthError Bool :=
  if ¬shouldAuthenticate config then .ok true
  else
    match authorization with
    | .basic username password =>
      if ¬config.enablePasswordLogin ∨ username ≠ sessionUser.username then .ok false
      else (verifyPassword world config username password).mapError .io
    | .bearer token =>
      match loadAuthorizedIdentitiesFromPaths world
          (configuredAuthorizedIdentityPaths config sessionUser) with
      | .error err => .error err
      | .ok identities =>
        if identities = [] then .ok false
        else .ok (anyAcceptsToken world sessionUser conversationId token 0 identities)
    | .none => .ok false

/-! ## Addresses -/

/-- `Ipv4Addr::is_loopback`: `127.0.0.0/8` -/
def isLoopbackV4 (octets : List UInt8) : Bool := decide (octets.head? = some 127)

def isLoopbackIp : IpAddr → Bool
  | .v4 address => isLoopbackV4 address.val
  | .v6 address =>
    decide (address.val = List.replicate 15 0 ++ [1]) ||
      -- `to_ipv4_mapped`: `::ffff:a.b.c.d`
      (decide (address.val.take 12 = List.replicate 10 0 ++ [255, 255]) &&
        isLoopbackV4 (address.val.drop 12))

/-- The errors of `ssh3-server` -/
inductive ServerError where
  | auth (err : AuthError)
  | io (err : IoError)
  | buildResponse
  | serverConversation
  | conversation (err : ConversationError)
  | channel (err : ChannelError)
  deriving DecidableEq, Repr

def validateListenerAddr (world : World) (config : AccessConfig) (addr : SocketAddr) :
    Except ServerError Unit :=
  if ¬isLoopbackIp addr.ip ∧ ¬shouldAuthenticate config ∧
      ¬config.allowInsecureUnauthenticatedRemote then
    .error (.io ⟨.invalidInput, ascii "non-loopback listener " ++ world.displayAddr addr ++
      ascii (" requires authentication; enable --require-auth, --authorized-identity, or " ++
        "--enable-password-login, or explicitly opt into insecure development with " ++
        "--allow-insecure-unauthenticated-remote")⟩)
  else .ok ()

def validateServerConfig (world : World) (config : AccessConfig) : Except ServerError Unit :=
  if config.enablePasswordLogin ∧ ¬passwordAuthAvailable config then
    .error (.io ⟨.unsupported, ascii "password authentication is not supported on this platform"⟩)
  else validateListenerAddr world config config.bindAddr

/-- A caller can pass an existing connection with a default (loopback) config.  The peer must be
    local too, including platforms without local-IP metadata. -/
def validateConnectionAddresses (config : AccessConfig) (localIp : Option IpAddr)
    (remoteAddr : SocketAddr) : Except ServerError Unit :=
  if ¬shouldAuthenticate config ∧ ¬config.allowInsecureUnauthenticatedRemote ∧
      (¬isLoopbackIp remoteAddr.ip ∨ localIp.any fun ip => !isLoopbackIp ip) then
    .error (.io ⟨.permissionDenied, ascii ("non-loopback connections require authentication; " ++
      "allow_insecure_unauthenticated_remote is for deliberately insecure development only")⟩)
  else .ok ()

/-! ## Serving a connection -/

/-- The answers of the server -/
inductive StatusCode where
  | ok
  | unauthorized
  | notFound
  deriving DecidableEq, Repr

/-- `as_u16` of the status -/
def StatusCode.asU16 : StatusCode → Nat
  | .ok => 200
  | .unauthorized => 401
  | .notFound => 404

/-- What the server does on a connection, as far as the peer can tell. -/
inductive Event where
  | closeConnection (reason : List UInt8)
  | sendResponse (status : StatusCode) (server : Option (List UInt8))
  | finish
  | handleAcceptedChannel (channel : AcceptedChannel) (sessionUser : SessionUser)
  | unregisterConversation (controlStreamId : UInt64)
  deriving DecidableEq, Repr

/-- A call that has taken some events and returned. -/
abbrev Outcome := List Event × Except ServerError Unit

/-- Whether the two operations on the control stream succeed. -/
structure ControlStream where
  sends : Bool
  finishes : Bool
  deriving DecidableEq, Repr

/-- A conversation, with what accepting channels on it will give until the connection closes. -/
structure AcceptedServerConversation where
  request : Request
  controlStreamId : UInt64
  conversationId : ConversationId
  controlStream : ControlStream
  channels : List (Except ConversationError AcceptedChannel)
  deriving DecidableEq

/-- `HeaderValue::from_str` accepts the text. -/
def validHeaderValue (value : List UInt8) : Bool :=
  value.all fun b => (32 ≤ b && b ≠ 127) || b == 9

/-- A response without channels: `send_response` and `finish`. -/
def refuse (controlStream : ControlStream) (status : StatusCode) : Outcome :=
  if ¬controlStream.sends then ([], .error .serverConversation)
  else if ¬controlStream.finishes then
    ([.sendResponse status none], .error .serverConversation)
  else ([.sendResponse status none, .finish], .ok ())

/-- The loop over the accepted channels. -/
def acceptChannels (sessionUser : SessionUser) :
    List (Except ConversationError AcceptedChannel) → Outcome
  | [] => ([], .ok ())
  | .error err :: _ => ([], .error (.conversation err))
  | .ok channel :: channels =>
    (.handleAcceptedChannel channel sessionUser :: (acceptChannels sessionUser channels).1,
      (acceptChannels sessionUser channels).2)

/-- The inner `async` block of `handle_conversation`. -/
def respond (world : World) (accepted : AcceptedServerConversation) (config : AccessConfig) :
    Outcome :=
  if ¬isSsh3Connect accepted.request then refuse accepted.controlStream .notFound
  else
    let authorization := parseRequestAuthorization accepted.request
    match resolveSessionUser world accepted.request authorization config with
    | .error _ => refuse accepted.controlStream .unauthorized
    | .ok sessionUser =>
      match authorizeRequest world authorization sessionUser accepted.conversationId config with
      | .error err => ([], .error (.auth err))
      | .ok false => refuse accepted.controlStream .unauthorized
      | .ok true =>
        if ¬validHeaderValue config.serverHeader then ([], .error .buildResponse)
        else if ¬accepted.controlStream.sends then ([], .error .serverConversation)
        else
          (.sendResponse .ok (some config.serverHeader) ::
              (acceptChannels sessionUser accepted.channels).1,
            (acceptChannels sessionUser accepted.channels).2)

/-- Answers the request and serves the channels -/
def handleConversation (world : World) (accepted : AcceptedServerConversation)
    (config : AccessConfig) : Outcome :=
  ((respond world accepted config).1 ++ [.unregisterConversation accepted.controlStreamId],
    (respond world accepted config).2)

/-- A QUIC connection: its addresses, and what setting up HTTP/3 on it and accepting a request
    will give. -/
structure Connection where
  localIp : Option IpAddr
  remoteAddress : SocketAddr
  driver : Except ServerError Unit
  acceptConversation : UInt64 → Nat → Except ServerError (Option AcceptedServerConversation)

/-- Checks the addresses and serves the conversation -/
def serveConnection (world : World) (connection : Connection) (config : AccessConfig) : Outcome :=
  match validateServerConfig world config with
  | .error err => ([], .error err)
  | .ok () =>
    match validateConnectionAddresses config connection.localIp connection.remoteAddress with
    | .error err =>
      ([.closeConnection (ascii "unauthenticated remote access is disabled")], .error err)
    | .ok () =>
      match connection.driver with
      | .error err => ([], .error err)
      | .ok () =>
        match connection.acceptConversation config.maxPacketSize
            config.defaultDatagramsQueueSize with
        | .error err => ([], .error err)
        | .ok none => ([], .ok ())
        | .ok (some accepted) => handleConversation world accepted config

end Ssh3.Server
