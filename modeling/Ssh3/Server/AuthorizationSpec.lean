/-
  Ssh3.Server.AuthorizationSpec

  Whoever is served was authorized: a response with status 200 on a connection, and
  every channel handled on it, belongs to one user for whom the request carried
  accepted credentials, unless the server is configured to serve without any.

  `Grant` is what it takes to be served as a user.  `authorizeRequest_grant` derives
  it from the decision and the address checks, and the rest of the module carries it
  along the control flow of `serve_connection`.
-/

import Ssh3.Auth.TokenSpec
import Ssh3.Server.Authorization

namespace Ssh3.Server

open Proto (ascii IpAddr SocketAddr)
open StreamCodec (bind_eq_ok)
open Ssh3.Core (ConversationId ConversationError AcceptedChannel zeroConversation)
open Ssh3.Auth

/-! ## What it takes to be served -/

/-- The request carried a password that the verifier accepted for this user. -/
def ByPassword (world : World) (config : AccessConfig) (request : Request) (user : SessionUser) :
    Prop :=
  shouldAuthenticate config ∧ config.enablePasswordLogin ∧
    ∃ password, parseRequestAuthorization request = .basic user.username password ∧
      verifyPassword world config user.username password = .ok true

/-- The file at an index of those that hold the identities of a user. -/
def IdentityFile (config : AccessConfig) (user : SessionUser) (index : Nat) (path : List UInt8) :
    Prop :=
  (config.authorizedIdentityPaths ≠ [] ∧ config.authorizedIdentityPaths[index]? = some path) ∨
    (config.authorizedIdentityPaths = [] ∧
      (defaultAuthorizedIdentityPaths user)[index]? = some path)

/-- `verify_bearer_token` or `verify_oidc_identity_token` accepts the token, at the `k`-th reading
    of the clock. -/
def Accepts (world : World) (user : SessionUser) (conversationId : ConversationId)
    (token : List UInt8) (k : Nat) : AuthorizedIdentity → Prop
  | .publicKey key =>
    verifyBearerToken world.jwtJson world.crypto (world.clock k) key token user.username
      conversationId = .ok ()
  | .oidc identity =>
    verifyOidcIdentityToken world.crypto world.oidcJson (world.clock k) (world.issuer k) identity
      token (some (conversationIdBase64 conversationId)) = .ok ()

/-- The request carried a token that an identity in one of the user's files accepts. -/
def ByToken (world : World) (config : AccessConfig) (request : Request)
    (conversationId : ConversationId) (user : SessionUser) : Prop :=
  shouldAuthenticate config ∧
    ∃ token, parseRequestAuthorization request = .bearer token ∧
      ∃ index path contents identity k, IdentityFile config user index path ∧
        world.readToString index path = .ok contents ∧
        identity ∈ parseAuthorizedIdentities world.parseAuthorizedKey contents ∧
        Accepts world user conversationId token k identity

/-- The server does not authenticate, and the connection is local as far as is known, or need not
    be. -/
def WithoutAuthentication (config : AccessConfig) (localIp : Option IpAddr)
    (remoteAddr : SocketAddr) : Prop :=
  ¬shouldAuthenticate config ∧
    (config.allowInsecureUnauthenticatedRemote ∨
      (isLoopbackIp remoteAddr.ip ∧ ∀ ip, localIp = some ip → isLoopbackIp ip))

def Grant (world : World) (config : AccessConfig) (connection : Connection)
    (accepted : AcceptedServerConversation) (user : SessionUser) : Prop :=
  ByPassword world config accepted.request user ∨
    ByToken world config accepted.request accepted.conversationId user ∨
    WithoutAuthentication config connection.localIp connection.remoteAddress

/-! ## The decision -/

variable {identity : AuthorizedIdentity} {user : SessionUser} {world : World}
  {identities : List AuthorizedIdentity} {config : AccessConfig}

theorem accepts_of_acceptsToken {conversationId : ConversationId} {token : List UInt8} {k : Nat}
    (h : acceptsToken world user conversationId token k identity) :
    Accepts world user conversationId token k identity := by
  have hok : ∀ x : Except AuthError Unit, x.isOk = true → x = .ok () := by
    intro x hx
    cases x with
    | error err => cases hx
    | ok u => rfl
  cases identity with
  | publicKey key => exact hok _ h
  | oidc identity => exact hok _ h

theorem exists_accepts_of_anyAcceptsToken {conversationId : ConversationId} {token : List UInt8}
    {k : Nat} (h : anyAcceptsToken world user conversationId token k identities) :
    ∃ identity ∈ identities, ∃ j, Accepts world user conversationId token j identity := by
  induction identities generalizing k with
  | nil => cases h
  | cons identity identities ih =>
    rw [anyAcceptsToken] at h
    split at h
    · next haccepts =>
      exact ⟨identity, List.mem_cons_self, k, accepts_of_acceptsToken haccepts⟩
    · obtain ⟨later, hmem, hlater⟩ := ih h
      exact ⟨later, List.mem_cons_of_mem _ hmem, hlater⟩

/-- Every identity that was loaded stands in a file that was read. -/
theorem exists_read_of_mem_load {parseAuthorizedKey : List UInt8 → Option PublicKey}
    {read : List (Except IoError (List UInt8))}
    (h : loadAuthorizedIdentities parseAuthorizedKey read = .ok identities)
    (hmem : identity ∈ identities) :
    ∃ contents, Except.ok contents ∈ read ∧
      identity ∈ parseAuthorizedIdentities parseAuthorizedKey contents := by
  induction read generalizing identities with
  | nil =>
    cases h
    cases hmem
  | cons result read ih =>
    cases result with
    | ok contents =>
      obtain ⟨more, hload, hidentities⟩ := bind_eq_ok.mp h
      cases hidentities
      rcases List.mem_append.mp hmem with hhere | hthere
      · exact ⟨contents, List.mem_cons_self, hhere⟩
      · obtain ⟨other, hother, hidentity⟩ := ih hload hthere
        exact ⟨other, List.mem_cons_of_mem _ hother, hidentity⟩
    | error err =>
      rw [loadAuthorizedIdentities] at h
      split at h
      · obtain ⟨other, hother, hidentity⟩ := ih h hmem
        exact ⟨other, List.mem_cons_of_mem _ hother, hidentity⟩
      · cases h

theorem identityFile_of_getElem? {index : Nat} {path : List UInt8}
    (h : (configuredAuthorizedIdentityPaths config user)[index]? = some path) :
    IdentityFile config user index path := by
  unfold configuredAuthorizedIdentityPaths at h
  split at h
  · next hnone => exact .inr ⟨hnone, h⟩
  · next hsome => exact .inl ⟨hsome, h⟩

theorem exists_file_of_mem_loadFromPaths
    (h : loadAuthorizedIdentitiesFromPaths world
      (configuredAuthorizedIdentityPaths config user) = .ok identities)
    (hmem : identity ∈ identities) :
    ∃ index path contents, IdentityFile config user index path ∧
      world.readToString index path = .ok contents ∧
      identity ∈ parseAuthorizedIdentities world.parseAuthorizedKey contents := by
  obtain ⟨contents, hread, hidentity⟩ := exists_read_of_mem_load h hmem
  obtain ⟨⟨path, index⟩, hentry, hcontents⟩ := List.mem_map.mp hread
  have hindex := List.mem_zipIdx_iff_getElem?.mp hentry
  exact ⟨index, path, contents, identityFile_of_getElem? hindex, hcontents, hidentity⟩

theorem withoutAuthentication_of_validate {localIp : Option IpAddr}
    {remoteAddr : SocketAddr} (hauth : ¬shouldAuthenticate config)
    (h : validateConnectionAddresses config localIp remoteAddr = .ok ()) :
    WithoutAuthentication config localIp remoteAddr := by
  unfold validateConnectionAddresses at h
  split at h
  · cases h
  · next hvalid =>
    refine ⟨hauth, ?_⟩
    by_cases hallow : config.allowInsecureUnauthenticatedRemote = true
    · exact .inl hallow
    · right
      have hlocal : ¬(¬isLoopbackIp remoteAddr.ip ∨ localIp.any fun ip => !isLoopbackIp ip) :=
        fun hor => hvalid ⟨hauth, hallow, hor⟩
      rw [not_or, not_not] at hlocal
      refine ⟨hlocal.1, ?_⟩
      rintro ip rfl
      have hip := hlocal.2
      simpa using hip

/-- A positive decision on a connection whose addresses were let through. -/
theorem authorizeRequest_grant {connection : Connection} {accepted : AcceptedServerConversation}
    (haddr : validateConnectionAddresses config connection.localIp connection.remoteAddress =
      .ok ())
    (h : authorizeRequest world (parseRequestAuthorization accepted.request) user
      accepted.conversationId config = .ok true) :
    Grant world config connection accepted user := by
  unfold authorizeRequest at h
  split at h
  · next hauth => exact .inr (.inr (withoutAuthentication_of_validate hauth haddr))
  · next hauth =>
    rw [not_not] at hauth
    cases hparse : parseRequestAuthorization accepted.request with
    | none =>
      rw [hparse] at h
      cases h
    | basic username password =>
      simp only [hparse] at h
      split at h
      · cases h
      · next hlogin =>
        rw [not_or, not_not, not_not] at hlogin
        obtain ⟨henabled, rfl⟩ := hlogin
        refine .inl ⟨hauth, henabled, password, hparse, ?_⟩
        cases hverify : verifyPassword world config user.username password with
        | error err =>
          rw [hverify] at h
          cases h
        | ok answer =>
          rw [hverify] at h
          cases h
          rfl
    | bearer token =>
      simp only [hparse] at h
      split at h
      · cases h
      · next identities hload =>
        split at h
        · cases h
        · obtain ⟨identity, hmem, k, haccepts⟩ :=
            exists_accepts_of_anyAcceptsToken (Except.ok.inj h)
          obtain ⟨index, path, contents, hfile, hread, hidentity⟩ :=
            exists_file_of_mem_loadFromPaths hload hmem
          exact .inr (.inl ⟨hauth, token, hparse, index, path, contents, identity, k, hfile,
            hread, hidentity, haccepts⟩)

/-! ## What follows the decision -/

/-- A response with status 200, or the handling of a channel. -/
def Event.Serves : Event → Prop
  | .sendResponse .ok _ => True
  | .handleAcceptedChannel _ _ => True
  | _ => False

variable {event : Event}

theorem not_serves_of_mem_refuse {controlStream : ControlStream} {status : StatusCode}
    (h : event ∈ (refuse controlStream status).1) (hstatus : status ≠ .ok) :
    ¬event.Serves := by
  have hresponse : ¬(Event.sendResponse status none).Serves := by
    cases status with
    | ok => exact absurd rfl hstatus
    | unauthorized => exact id
    | notFound => exact id
  unfold refuse at h
  split at h
  · cases h
  · split at h
    · cases List.mem_singleton.mp h
      exact hresponse
    · rcases List.mem_cons.mp h with rfl | hfinish
      · exact hresponse
      · cases List.mem_singleton.mp hfinish
        exact id

/-- Every channel of the conversation is handled for the same user. -/
theorem eq_of_mem_acceptChannels {channels : List (Except ConversationError AcceptedChannel)}
    (h : event ∈ (acceptChannels user channels).1) :
    ∃ channel, event = .handleAcceptedChannel channel user := by
  induction channels with
  | nil => cases h
  | cons result channels ih =>
    cases result with
    | error err => cases h
    | ok channel =>
      rcases List.mem_cons.mp h with rfl | hlater
      · exact ⟨channel, rfl⟩
      · exact ih hlater

/-- The only way to serve: the user is known and the decision positive. -/
theorem respond_of_serves {accepted : AcceptedServerConversation}
    (h : event ∈ (respond world accepted config).1)
    (hserves : event.Serves) :
    ∃ user, authorizeRequest world (parseRequestAuthorization accepted.request) user
        accepted.conversationId config = .ok true ∧
      (respond world accepted config).1 =
        .sendResponse .ok (some config.serverHeader) ::
          (acceptChannels user accepted.channels).1 := by
  unfold respond at h ⊢
  by_cases hconnect : ¬isSsh3Connect accepted.request
  · rw [if_pos hconnect] at h
    exact absurd hserves (not_serves_of_mem_refuse h (by decide))
  · rw [if_neg hconnect] at h ⊢
    simp only at h ⊢
    cases hresolve : resolveSessionUser world accepted.request
        (parseRequestAuthorization accepted.request) config with
    | error err =>
      simp only [hresolve] at h
      exact absurd hserves (not_serves_of_mem_refuse h (by decide))
    | ok user =>
      simp only [hresolve] at h ⊢
      cases hdecision : authorizeRequest world (parseRequestAuthorization accepted.request) user
          accepted.conversationId config with
      | error err =>
        rw [hdecision] at h
        cases h
      | ok decision =>
        cases decision with
        | false =>
          simp only [hdecision] at h
          exact absurd hserves (not_serves_of_mem_refuse h (by decide))
        | true =>
          simp only [hdecision] at h ⊢
          -- the header or the stream can still fail, and then nothing is sent
          by_cases hheader : ¬validHeaderValue config.serverHeader
          · rw [if_pos hheader] at h
            cases h
          · rw [if_neg hheader] at h ⊢
            by_cases hsends : ¬accepted.controlStream.sends
            · rw [if_pos hsends] at h
              cases h
            · rw [if_neg hsends]
              exact ⟨user, hdecision, rfl⟩

/-- What `serve_connection` has done before it serves. -/
theorem serveConnection_of_serves {connection : Connection}
    (h : event ∈ (serveConnection world connection config).1) (hserves : event.Serves) :
    ∃ accepted user,
      connection.acceptConversation config.maxPacketSize config.defaultDatagramsQueueSize =
        .ok (some accepted) ∧
      Grant world config connection accepted user ∧
      (serveConnection world connection config).1 =
        .sendResponse .ok (some config.serverHeader) ::
          (acceptChannels user accepted.channels).1 ++
          [.unregisterConversation accepted.controlStreamId] := by
  unfold serveConnection at h ⊢
  cases hconfig : validateServerConfig world config with
  | error err =>
    rw [hconfig] at h
    cases h
  | ok _ =>
    simp only [hconfig] at h ⊢
    cases haddr : validateConnectionAddresses config connection.localIp
        connection.remoteAddress with
    | error err =>
      rw [haddr] at h
      cases List.mem_singleton.mp h
      cases hserves
    | ok _ =>
      simp only [haddr] at h ⊢
      cases hdriver : connection.driver with
      | error err =>
        rw [hdriver] at h
        cases h
      | ok _ =>
        simp only [hdriver] at h ⊢
        cases haccept : connection.acceptConversation config.maxPacketSize
            config.defaultDatagramsQueueSize with
        | error err =>
          rw [haccept] at h
          cases h
        | ok accepted =>
          cases accepted with
          | none =>
            rw [haccept] at h
            cases h
          | some accepted =>
            simp only [haccept, handleConversation] at h ⊢
            rcases List.mem_append.mp h with hrespond | hunregister
            · obtain ⟨user, hdecision, hevents⟩ := respond_of_serves hrespond hserves
              refine ⟨accepted, user, rfl, authorizeRequest_grant haddr hdecision, ?_⟩
              rw [hevents]
            · cases List.mem_singleton.mp hunregister
              cases hserves

/-- If the server answers 200, then there is one user as whom it handles every channel of the
    conversation, and the connection or the request grants access as this user.  Before that
    answer it handles no channel. -/
theorem serveConnection_sound (world : World) (connection : Connection) (config : AccessConfig) :
    (∀ server, Event.sendResponse .ok server ∈ (serveConnection world connection config).1 →
      ∃ accepted user,
        connection.acceptConversation config.maxPacketSize config.defaultDatagramsQueueSize =
          .ok (some accepted) ∧
        (∀ channel served, Event.handleAcceptedChannel channel served ∈
          (serveConnection world connection config).1 → served = user) ∧
        (ByPassword world config accepted.request user ∨
          ByToken world config accepted.request accepted.conversationId user ∨
          WithoutAuthentication config connection.localIp connection.remoteAddress)) ∧
    (∀ channel served,
      Event.handleAcceptedChannel channel served ∈ (serveConnection world connection config).1 →
      (serveConnection world connection config).1.head? =
        some (.sendResponse .ok (some config.serverHeader))) := by
  constructor
  · intro server h
    obtain ⟨accepted, user, haccept, hgrant, hevents⟩ := serveConnection_of_serves h trivial
    refine ⟨accepted, user, haccept, ?_, hgrant⟩
    intro channel served hserved
    rw [hevents] at hserved
    rcases List.mem_append.mp hserved with hhandled | hunregister
    · rcases List.mem_cons.mp hhandled with hresponse | hchannel
      · cases hresponse
      · obtain ⟨_, heq⟩ := eq_of_mem_acceptChannels hchannel
        cases heq
        rfl
    · cases List.mem_singleton.mp hunregister
  · intro channel served h
    obtain ⟨accepted, user, -, -, hevents⟩ := serveConnection_of_serves h trivial
    rw [hevents]
    rfl

/-! ## Two connections -/

/-- A server machine with one account and no identity files. -/
def oneUserWorld : World where
  userFromName := fun name =>
    if name = ascii "alice" then
      .ok (some ⟨name, ascii "/home/alice", ascii "/bin/bash", 1000, 1000⟩)
    else .ok none
  getspnam := fun _ _ => .noEntry
  crypt := fun _ _ => .error ⟨.os 22, []⟩
  readToString := fun _ _ => .error ⟨.notFound, []⟩
  parseAuthorizedKey := fun _ => none
  clock := fun _ => ⟨1700000000, 0⟩
  issuer := fun _ => ⟨fun _ => none, fun _ => none⟩
  displayAddr := fun _ => ascii "127.0.0.1:4433"
  crypto := aliceCrypto
  jwtJson := aliceJson
  oidcJson := ⟨fun _ => none, fun _ => none⟩

def aliceUser : SessionUser :=
  ⟨ascii "alice", ascii "/home/alice", ascii "/bin/bash", 1000, 1000⟩

def sessionChannel : AcceptedChannel :=
  .channel {
    info := ⟨30000, 0, zeroConversation, 4, ascii "session"⟩
    confirmSent := true
    confirmReceived := true
    header := none
    datagramSender := none
    datagramsQueueSize := 10 }

/-- A CONNECT request and a session channel, on a connection from a loopback address whose local
    address is not reported. -/
def aliceConnection (headers : List (List UInt8 × List UInt8)) : Connection where
  localIp := none
  remoteAddress := ⟨.v4 ⟨[127, 0, 0, 1], rfl⟩, 50000⟩
  driver := .ok ()
  acceptConversation := fun _ _ => .ok (some {
    request := ⟨.connect, none, headers, some (ascii "ssh3")⟩
    controlStreamId := 0
    conversationId := zeroConversation
    controlStream := ⟨true, true⟩
    channels := [.ok sessionChannel] })

/-- Password login for the one account, and nothing else. -/
def passwordConfig : AccessConfig where
  defaultUser := none
  enablePasswordLogin := true
  passwordVerifier := some fun username password =>
    .ok (decide (username = ascii "alice" ∧ password = ascii "secret"))

def passwordConnection : Connection :=
  aliceConnection [(ascii "authorization", ascii "Basic YWxpY2U6c2VjcmV0")]

/-- The user and the password in the header are those that were verified. -/
theorem serveConnection_sound_password :
    ∃ accepted user, passwordConnection.acceptConversation 30000 10 = .ok (some accepted) ∧
      Event.handleAcceptedChannel sessionChannel user ∈
        (serveConnection oneUserWorld passwordConnection passwordConfig).1 ∧
      ByPassword oneUserWorld passwordConfig accepted.request user := by
  have hserved : Event.handleAcceptedChannel sessionChannel aliceUser ∈
      (serveConnection oneUserWorld passwordConnection passwordConfig).1 := by decide +kernel
  obtain ⟨accepted, user, haccept, huser, hgrant⟩ :=
    (serveConnection_sound oneUserWorld passwordConnection passwordConfig).1
      (some passwordConfig.serverHeader) (by decide +kernel)
  cases huser sessionChannel aliceUser hserved
  refine ⟨accepted, aliceUser, haccept, hserved, ?_⟩
  rcases hgrant with hpassword | ⟨-, token, htoken, -⟩ | ⟨hauth, -⟩
  · exact hpassword
  · cases haccept
    have hbasic : parseRequestAuthorization
        ⟨.connect, none, [(ascii "authorization", ascii "Basic YWxpY2U6c2VjcmV0")],
          some (ascii "ssh3")⟩ = .basic (ascii "alice") (ascii "secret") := by decide +kernel
    rw [hbasic] at htoken
    cases htoken
  · exact absurd rfl hauth

/-- Where the platform does not report the local address, a loopback peer is served without
    authentication, although no local address is known to be a loopback one. -/
theorem serveConnection_unknown_local :
    ¬∀ (world : World) (connection : Connection) (config : AccessConfig)
        (accepted : AcceptedServerConversation) (channel : AcceptedChannel) (user : SessionUser),
      connection.acceptConversation config.maxPacketSize config.defaultDatagramsQueueSize =
        .ok (some accepted) →
      Event.sendResponse .ok (some config.serverHeader) ∈
        (serveConnection world connection config).1 →
      Event.handleAcceptedChannel channel user ∈
        (serveConnection world connection config).1 →
      ByPassword world config accepted.request user ∨
        ByToken world config accepted.request accepted.conversationId user ∨
        (¬shouldAuthenticate config ∧
          (config.allowInsecureUnauthenticatedRemote ∨
            (isLoopbackIp connection.remoteAddress.ip ∧
              ∃ ip, connection.localIp = some ip ∧ isLoopbackIp ip))) := by
  intro h
  have hlocal := h oneUserWorld (aliceConnection []) { defaultUser := some (ascii "alice") } _
    sessionChannel aliceUser rfl (by decide +kernel) (by decide +kernel)
  rcases hlocal with ⟨hauth, -⟩ | ⟨hauth, -⟩ | ⟨-, hallow | ⟨-, ip, hip, -⟩⟩
  · exact absurd hauth (by decide)
  · exact absurd hauth (by decide)
  · exact absurd hallow (by decide)
  · cases hip

/-! ## The response of a connection -/

/-- The response that was sent on the control stream, with the server it names -/
def responseOf : List Event → Option (StatusCode × Option (List UInt8))
  | [] => none
  | .sendResponse status server :: _ => some (status, server)
  | _ :: events => responseOf events

theorem responseOf_refuse {controlStream : ControlStream} {status : StatusCode}
    (hstatus : status ≠ .ok) :
    (∀ response ∈ responseOf (refuse controlStream status).1, response.1 ≠ .ok) ∧
      ∀ event ∈ (refuse controlStream status).1, ¬event.Serves := by
  refine ⟨?_, fun event hmem => not_serves_of_mem_refuse hmem hstatus⟩
  unfold refuse
  split
  · exact fun response hresponse => by cases hresponse
  · split
    all_goals
      intro response hresponse
      cases hresponse
      exact hstatus

/-- The response names the server if and only if it is an acceptance, and one that serves is. -/
theorem responseOf_respond (world : World) (accepted : AcceptedServerConversation)
    (config : AccessConfig) :
    responseOf (respond world accepted config).1 = some (.ok, some config.serverHeader) ∧
        (∃ event ∈ (respond world accepted config).1, event.Serves) ∨
      (∀ response ∈ responseOf (respond world accepted config).1, response.1 ≠ .ok) ∧
        ∀ event ∈ (respond world accepted config).1, ¬event.Serves := by
  have hnothing : (∀ response ∈ responseOf [], response.1 ≠ .ok) ∧
      ∀ event ∈ ([] : List Event), ¬event.Serves :=
    ⟨fun response hmem => (by cases hmem), List.forall_mem_nil _⟩
  unfold respond
  split
  · exact .inr (responseOf_refuse (by decide))
  · simp only
    split
    · exact .inr (responseOf_refuse (by decide))
    · split
      · exact .inr hnothing
      · exact .inr (responseOf_refuse (by decide))
      · split
        · exact .inr hnothing
        · split
          · exact .inr hnothing
          · exact .inl ⟨rfl, _, List.mem_cons_self, trivial⟩

end Ssh3.Server
