/-
  Ssh3.Go.ServerAuth

  `server_auth/auth.go` and `server_auth/handlers.go`: the HTTP handler that
  authenticates a request and then calls the handler of the server.

  The handlers of the source are closures over a response writer, a shared flag and
  a continuation.  Here a handler is a function on the state they share, and the
  state records in order what was done.  Closing the conversation and flushing are
  deferred in the source, so they come last, the later deferred one first.
-/

import Ssh3.Core.Channel
import Ssh3.Go.Channel
import Ssh3.Go.Identities
import Ssh3.Go.Version

namespace Ssh3.Go

open Proto (ascii)
open Ssh3.Core (ConversationId zeroConversation)

/-! ## Handlers -/

/-- What the handler does to the response and the connection -/
inductive HandlerEvent where
  | setServerHeader (value : List UInt8)
  /-- `http.Error` -/
  | httpError (message : List UInt8) (status : Nat)
  | writeHeader (status : Nat)
  | newServerConversation (id : ConversationId)
  /-- `handlerFunc(username, conv, w, r)` -/
  | authenticatedHandler (username : List UInt8) (id : ConversationId)
  | closeConversation (id : ConversationId)
  | flush
  deriving DecidableEq, Repr

/-- What the handlers have done so far -/
structure HandlerState where
  authenticated : Bool := false
  events : List HandlerEvent := []
  deriving DecidableEq, Repr

/-- An `AuthenticatedHandlerFunc` or what wraps it -/
abbrev Handler := HandlerState → HandlerState

def emit (event : HandlerEvent) : Handler := fun s => { s with events := s.events ++ [event] }

/-- `completeAuth`, the continuation of every way to authenticate -/
def completeAuth (id : ConversationId) (username : List UInt8) : Handler := fun s =>
  { authenticated := true, events := s.events ++ [.authenticatedHandler username id] }

/-! ## The world -/

/-- The user database, the files and the identity providers. -/
structure AuthWorld where
  getUser : List UInt8 → Option User
  /-- The hash in the shadow entry of a user -/
  getspnam : List UInt8 → Option (List UInt8)
  /-- `C.GoString(C.crypt(..))` -/
  crypt : List UInt8 → List UInt8 → List UInt8
  /-- The identity file at an index, opened, and the registered plugins while it is parsed -/
  openFile : Nat → List UInt8 → PluginRegistry × Except FileError OpenFile
  provider : OidcProvider

/-- `Crypt` -/
def cryptPassword (world : AuthWorld) (clearPassword setting : List UInt8) :
    Except String (List UInt8) :=
  let hashedPassword := world.crypt clearPassword setting
  if hashedPassword = [] then .error "password hashing failed"
  else if hashedPassword.head? = some 42 then .error "bad password hashing"
  else .ok hashedPassword

def userPasswordAuthentication (world : AuthWorld) (username password : List UInt8) :
    Except String Bool :=
  match world.getspnam username with
  | none => .ok false
  | some hashedPassword =>
    match cryptPassword world password hashedPassword with
    | .ok candidate => .ok (decide (candidate = hashedPassword))
    | .error err => .error err

/-! ## Ways to authenticate -/

/-- Checks a username and a password -/
def handleBasicAuth (world : AuthWorld) (handlerFunc : List UInt8 → Handler) (r : HttpRequest) :
    Handler :=
  match r.basicAuth with
  | none => emit (.writeHeader StatusUnauthorized)
  | some (username, password) =>
    match userPasswordAuthentication world username password with
    | .ok true => handlerFunc username
    | _ => emit (.writeHeader StatusUnauthorized)

/-- Hands a bearer token on to the identities -/
def handleBearerAuth (handlerFunc : List UInt8 → Handler) (r : HttpRequest) : Handler :=
  match bearerAuth r with
  | none => emit (.writeHeader StatusUnauthorized)
  | some bearerString => handlerFunc bearerString

/-- The loop over the identities ends with the first that verifies the token. -/
def handleJWTAuth (world : AuthWorld) (username base64ConversationID : List UInt8)
    (handlerFunc : List UInt8 → Handler) (token : List UInt8) : List IdentityVerifier → Handler
  | [] => emit (.writeHeader StatusUnauthorized)
  | identity :: identities =>
    if identity.verify world.provider (.jwtTokenString token) base64ConversationID then
      handlerFunc username
    else handleJWTAuth world username base64ConversationID handlerFunc token identities

/-- The loop over the plugin verifiers, the first that verifies the request. -/
def pluginVerifies (r : HttpRequest) (base64ConversationID : List UInt8) :
    List IdentityVerifier → Bool
  | [] => false
  | .plugin verifier :: identities =>
    if verifier r base64ConversationID then true
    else pluginVerifies r base64ConversationID identities
  | .oidc _ :: identities => pluginVerifies r base64ConversationID identities

def requestUsername (r : HttpRequest) : List UInt8 :=
  if r.urlUsername = [] then queryGet r.rawQuery (ascii "user") else r.urlUsername

def authorizedIdentities (world : AuthWorld) (user : User) :
    Except FileError (List IdentityVerifier) :=
  getAuthorizedIdentities user
    ((defaultIdentitiesFileNames user).zipIdx.map fun entry => world.openFile entry.2 entry.1)

/-- The part of the handler from the user name on. -/
def authenticate (world : AuthWorld) (enablePasswordLogin : Bool) (r : HttpRequest)
    (id : ConversationId) : Handler :=
  let base64ConvID := stdEncoding.encode id.val
  let username := requestUsername r
  match world.getUser username with
  | none => emit (.writeHeader StatusUnauthorized)
  | some user =>
    match authorizedIdentities world user with
    | .error _ => emit (.writeHeader StatusUnauthorized)
    | .ok identityVerifiers =>
      if pluginVerifies r base64ConvID identityVerifiers then completeAuth id username
      else
        let authorization := r.get (ascii "Authorization")
        if enablePasswordLogin ∧ ascii "Basic " <+: authorization then
          handleBasicAuth world (completeAuth id) r
        else if ascii "Bearer " <+: authorization then
          handleBearerAuth (fun token =>
            handleJWTAuth world username base64ConvID (completeAuth id) token identityVerifiers) r
        else emit (.writeHeader StatusUnauthorized)

/-! ## The whole handler -/

/-- The QUIC connection of a request: the state of TLS, and the exported id. -/
structure RequestConnection where
  handshakeComplete : Bool
  generateConversationID : Except GoError ConversationId
  deriving DecidableEq

def newServerConversation (qconn : RequestConnection) (maxPacketSize : UInt64) :
    Except GoError ConversationId := do
  validatePacketSize maxPacketSize
  qconn.generateConversationID

/-- The deferred `conv.Close()` -/
def closeUnlessAuthenticated (id : ConversationId) : Handler := fun s =>
  if s.authenticated then s else emit (.closeConversation id) s

/-- The part of the handler after the checks of the version. -/
def handleConnection (world : AuthWorld) (enablePasswordLogin : Bool) (maxPacketSize : UInt64)
    (r : HttpRequest) (connection : Option RequestConnection) : Handler :=
  match connection with
  | none => emit (.httpError (ascii "HTTP/3 connection unavailable") StatusInternalServerError)
  | some qconn =>
    -- do not process early data (0-RTT) when performing authorization, to avoid replay attacks
    if ¬qconn.handshakeComplete then emit (.writeHeader StatusTooEarly)
    else
      match newServerConversation qconn maxPacketSize with
      | .error _ => emit (.writeHeader StatusInternalServerError)
      | .ok id => fun s =>
        closeUnlessAuthenticated id
          (authenticate world enablePasswordLogin r id (emit (.newServerConversation id) s))

/-- What a request meets: its connection, and whether its writer can be flushed. -/
structure Exchange where
  request : HttpRequest
  connection : Option RequestConnection
  flusher : Bool
  deriving DecidableEq

def serveRequest (world : AuthWorld) (enablePasswordLogin : Bool) (maxPacketSize : UInt64)
    (exchange : Exchange) : Handler := fun s =>
  let s := emit (.setServerHeader thisVersion.getVersionString) s
  match parseVersionString (exchange.request.get (ascii "User-Agent")) with
  | .error _ => emit (.httpError (ascii "Unsupported SSH3 user-agent") StatusForbidden) s
  | .ok peerVersion =>
    if ¬isVersionSupported peerVersion then
      emit (.httpError (ascii "Unsupported version: " ++ peerVersion.protocolVersion.string ++
        ascii " not supported by server with version " ++ thisVersion.protocolVersion.string)
        StatusForbidden) s
    else
      let s := handleConnection world enablePasswordLogin maxPacketSize exchange.request
        exchange.connection s
      if exchange.flusher then emit .flush s else s

/-- The platform a server was built for. -/
structure Platform where
  goos : List UInt8
  goarch : List UInt8
  deriving DecidableEq, Repr

/-- Looks at the `Authorization` header. -/
def handleAuths (platform : Platform) (world : AuthWorld) (enablePasswordLogin : Bool)
    (defaultMaxPacketSize : UInt64) : Except (List UInt8) (Exchange → Handler) :=
  if platform.goos ≠ ascii "linux" ∧ enablePasswordLogin then
    .error (ascii "password login not supported on " ++ platform.goos ++ ascii "/" ++
      platform.goarch ++ ascii " systems")
  else .ok (serveRequest world enablePasswordLogin defaultMaxPacketSize)

end Ssh3.Go
