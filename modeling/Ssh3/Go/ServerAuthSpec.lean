/-
  Ssh3.Go.ServerAuthSpec

  The handler of the server is called at most once for a request, and only for a user
  who was authenticated; otherwise the conversation is closed and the client gets an
  error status.

  Every way to authenticate is either its continuation or the refusal with status
  401, as a handler: `authenticate_cases` says so once for all of them, and what the
  whole handler does follows from it.
-/

import Ssh3.Go.ServerAuth

namespace Ssh3.Go

open Proto (ascii)
open StreamCodec (bind_eq_ok)
open Ssh3.Core (ConversationId zeroConversation)

/-! ## Being authenticated -/

/-- What a verifier was given comes from the request. -/
def FromRequest (r : HttpRequest) (candidate : Candidate) : Prop :=
  candidate = .request r ∨ ∃ token, bearerAuth r = some token ∧ candidate = .jwtTokenString token

/-- A verifier parsed from one of the user's own identity files returned true on the request, for
    the conversation of its connection. -/
def VerifiedByIdentity (world : AuthWorld) (r : HttpRequest) (id : ConversationId)
    (username : List UInt8) : Prop :=
  ∃ user, world.getUser username = some user ∧
    ∃ index path registry file verifier candidate,
      (defaultIdentitiesFileNames user)[index]? = some path ∧
      world.openFile index path = (registry, .ok file) ∧
      verifier ∈ (parseAuthorizedIdentitiesFile registry user file).1 ∧
      FromRequest r candidate ∧
      verifier.verify world.provider candidate (stdEncoding.encode id.val) = true

/-- The password in the request's Basic credentials was accepted for the user in them. -/
def VerifiedByPassword (world : AuthWorld) (enablePasswordLogin : Bool) (r : HttpRequest)
    (username : List UInt8) : Prop :=
  enablePasswordLogin ∧ ∃ password, r.basicAuth = some (username, password) ∧
    userPasswordAuthentication world username password = .ok true

def Authenticated (world : AuthWorld) (enablePasswordLogin : Bool) (r : HttpRequest)
    (id : ConversationId) (username : List UInt8) : Prop :=
  VerifiedByIdentity world r id username ∨
    VerifiedByPassword world enablePasswordLogin r username

/-! ## Where the verifiers come from -/

variable {identities : List IdentityVerifier} {user : User} {id : ConversationId} {r : HttpRequest}
  {username base64ConversationID : List UInt8}

theorem exists_file_of_mem_getAuthorizedIdentities
    {files : List (PluginRegistry × Except FileError OpenFile)}
    (h : getAuthorizedIdentities user files = .ok identities)
    {verifier : IdentityVerifier} (hmem : verifier ∈ identities) :
    ∃ registry file, (registry, Except.ok file) ∈ files ∧
      verifier ∈ (parseAuthorizedIdentitiesFile registry user file).1 := by
  induction files generalizing identities with
  | nil =>
    cases h
    cases hmem
  | cons entry files ih =>
    obtain ⟨registry, result⟩ := entry
    cases result with
    | ok file =>
      simp only [getAuthorizedIdentities] at h
      cases herr : ((parseAuthorizedIdentitiesFile registry user file).2.or file.closeError) with
      | some err =>
        simp only [herr] at h
        cases h
      | none =>
        simp only [herr] at h
        cases hrest : getAuthorizedIdentities user files with
        | error err =>
          simp only [hrest] at h
          cases h
        | ok more =>
          simp only [hrest] at h
          cases h
          rcases List.mem_append.mp hmem with hhere | hthere
          · exact ⟨registry, file, List.mem_cons_self, hhere⟩
          · obtain ⟨registry', file', hfile, hverifier⟩ := ih hrest hthere
            exact ⟨registry', file', List.mem_cons_of_mem _ hfile, hverifier⟩
    | error err =>
      rw [getAuthorizedIdentities] at h
      split at h
      · obtain ⟨registry', file', hfile, hverifier⟩ := ih h hmem
        exact ⟨registry', file', List.mem_cons_of_mem _ hfile, hverifier⟩
      · cases h

/-- Any of the verifiers that accepts something from the request proves the user's identity. -/
theorem verifiedByIdentity_of_mem {world : AuthWorld} (huser : world.getUser username = some user)
    (h : authorizedIdentities world user = .ok identities)
    {verifier : IdentityVerifier} (hmem : verifier ∈ identities) {candidate : Candidate}
    (hfrom : FromRequest r candidate)
    (hverify : verifier.verify world.provider candidate (stdEncoding.encode id.val) = true) :
    VerifiedByIdentity world r id username := by
  obtain ⟨registry, file, hopened, hverifier⟩ :=
    exists_file_of_mem_getAuthorizedIdentities h hmem
  obtain ⟨⟨path, index⟩, hentry, hfile⟩ := List.mem_map.mp hopened
  have hindex := List.mem_zipIdx_iff_getElem?.mp hentry
  exact ⟨user, huser, index, path, registry, file, verifier, candidate, hindex, hfile, hverifier,
    hfrom, hverify⟩

/-! ## Each way is its continuation or a refusal -/

theorem handleBasicAuth_cases (world : AuthWorld) (handlerFunc : List UInt8 → Handler)
    (r : HttpRequest) :
    (∃ username password, r.basicAuth = some (username, password) ∧
      userPasswordAuthentication world username password = .ok true ∧
      handleBasicAuth world handlerFunc r = handlerFunc username) ∨
    handleBasicAuth world handlerFunc r = emit (.writeHeader StatusUnauthorized) := by
  unfold handleBasicAuth
  cases hbasic : r.basicAuth with
  | none => exact .inr rfl
  | some credentials =>
    obtain ⟨username, password⟩ := credentials
    simp only
    split
    · next hpassword => exact .inl ⟨username, password, rfl, hpassword, rfl⟩
    · exact .inr rfl

theorem handleJWTAuth_cases (world : AuthWorld) (username base64ConversationID : List UInt8)
    (handlerFunc : List UInt8 → Handler) (token : List UInt8)
    (identities : List IdentityVerifier) :
    (∃ verifier ∈ identities,
      verifier.verify world.provider (.jwtTokenString token) base64ConversationID = true ∧
      handleJWTAuth world username base64ConversationID handlerFunc token identities =
        handlerFunc username) ∨
    handleJWTAuth world username base64ConversationID handlerFunc token identities =
      emit (.writeHeader StatusUnauthorized) := by
  induction identities with
  | nil => exact .inr rfl
  | cons identity identities ih =>
    rw [handleJWTAuth]
    split
    · next hverify => exact .inl ⟨identity, List.mem_cons_self, hverify, rfl⟩
    · rcases ih with ⟨verifier, hmem, hverify, heq⟩ | heq
      · exact .inl ⟨verifier, List.mem_cons_of_mem _ hmem, hverify, heq⟩
      · exact .inr heq

theorem exists_mem_of_pluginVerifies {provider : OidcProvider}
    (h : pluginVerifies r base64ConversationID identities = true) :
    ∃ verifier ∈ identities, verifier.verify provider (.request r) base64ConversationID = true := by
  induction identities with
  | nil => cases h
  | cons identity identities ih =>
    cases identity with
    | plugin verifier =>
      rw [pluginVerifies] at h
      split at h
      · next hverify => exact ⟨.plugin verifier, List.mem_cons_self, hverify⟩
      · obtain ⟨later, hmem, hverify⟩ := ih h
        exact ⟨later, List.mem_cons_of_mem _ hmem, hverify⟩
    | oidc identity =>
      obtain ⟨later, hmem, hverify⟩ := ih h
      exact ⟨later, List.mem_cons_of_mem _ hmem, hverify⟩

/-- The user the handler is called for is authenticated, whichever way was taken. -/
theorem authenticate_cases (world : AuthWorld) (enablePasswordLogin : Bool) (r : HttpRequest)
    (id : ConversationId) :
    (∃ username, Authenticated world enablePasswordLogin r id username ∧
      authenticate world enablePasswordLogin r id = completeAuth id username) ∨
    authenticate world enablePasswordLogin r id = emit (.writeHeader StatusUnauthorized) := by
  simp only [authenticate]
  cases huser : world.getUser (requestUsername r) with
  | none => exact .inr rfl
  | some user =>
    cases hidentities : authorizedIdentities world user with
    | error err =>
      simp only [hidentities]
      exact .inr trivial
    | ok identities =>
      simp only [hidentities]
      split
      -- a plugin verifies the request
      · next hplugin =>
        obtain ⟨verifier, hmem, hverify⟩ := exists_mem_of_pluginVerifies hplugin
        exact .inl ⟨requestUsername r, .inl (verifiedByIdentity_of_mem huser hidentities hmem
          (.inl rfl) hverify), rfl⟩
      · split
        -- Basic: the name in the credentials is the one that counts
        · next hbasic =>
          rcases handleBasicAuth_cases world (completeAuth id) r with
            ⟨username, password, hcredentials, hpassword, heq⟩ | heq
          · exact .inl ⟨username, .inr ⟨hbasic.1, password, hcredentials, hpassword⟩, heq⟩
          · exact .inr heq
        · split
          -- Bearer: the token is verified for the requested user
          · unfold handleBearerAuth
            cases htoken : bearerAuth r with
            | none => exact .inr rfl
            | some token =>
              simp only
              rcases handleJWTAuth_cases world (requestUsername r) (stdEncoding.encode id.val)
                (completeAuth id) token identities with ⟨verifier, hmem, hverify, heq⟩ | heq
              · exact .inl ⟨requestUsername r, .inl (verifiedByIdentity_of_mem huser hidentities
                  hmem (.inr ⟨token, htoken, rfl⟩) hverify), heq⟩
              · exact .inr heq
          · exact .inr rfl

/-! ## What the whole handler does -/

/-- The status an event writes. -/
def HandlerEvent.status : HandlerEvent → Option Nat
  | .httpError _ status => some status
  | .writeHeader status => some status
  | _ => none

/-- A status that tells the client of an error. -/
def HandlerEvent.IsError (event : HandlerEvent) : Prop :=
  ∃ status, event.status = some status ∧ 400 ≤ status

/-- The event is a call of the server's handler. -/
def HandlerEvent.callsHandler : HandlerEvent → Bool
  | .authenticatedHandler _ _ => true
  | _ => false

/-- What is done for a request between setting the header and flushing: it is refused before there
    is a conversation, the user is authenticated, or the conversation is closed. -/
inductive Outcome (world : AuthWorld) (enablePasswordLogin : Bool) (exchange : Exchange) :
    List HandlerEvent → Prop
  | refused {error : HandlerEvent} (h : error.IsError) :
      Outcome world enablePasswordLogin exchange [error]
  | authenticated {qconn : RequestConnection} {version : Version} {id : ConversationId}
      {username : List UInt8} (hconnection : exchange.connection = some qconn)
      (hhandshake : qconn.handshakeComplete) (hid : qconn.generateConversationID = .ok id)
      (hversion : parseVersionString (exchange.request.get (ascii "User-Agent")) = .ok version)
      (hsupported : isVersionSupported version)
      (hauth : Authenticated world enablePasswordLogin exchange.request id username) :
      Outcome world enablePasswordLogin exchange
        [.newServerConversation id, .authenticatedHandler username id]
  | closed (id : ConversationId) :
      Outcome world enablePasswordLogin exchange
        [.newServerConversation id, .writeHeader StatusUnauthorized, .closeConversation id]

section

variable {world : AuthWorld} {enablePasswordLogin : Bool} {exchange : Exchange}
  {outcome : List HandlerEvent}

/-- An error is no call and creates no conversation. -/
theorem HandlerEvent.IsError.other {event : HandlerEvent} (h : event.IsError) :
    event.callsHandler = false ∧ (∀ username id, event ≠ .authenticatedHandler username id) ∧
      ∀ id, event ≠ .newServerConversation id := by
  obtain ⟨status, hstatus, -⟩ := h
  cases event with
  | httpError message code => exact ⟨rfl, fun _ _ => nofun, fun _ => nofun⟩
  | writeHeader code => exact ⟨rfl, fun _ _ => nofun, fun _ => nofun⟩
  | setServerHeader value => cases hstatus
  | newServerConversation id => cases hstatus
  | authenticatedHandler username id => cases hstatus
  | closeConversation id => cases hstatus
  | flush => cases hstatus

theorem Outcome.countP_le (h : Outcome world enablePasswordLogin exchange outcome) :
    outcome.countP HandlerEvent.callsHandler ≤ 1 := by
  cases h with
  | refused herror =>
    rw [List.countP_singleton, herror.other.1]
    decide
  | authenticated => exact Nat.le_refl 1
  | closed id => exact Nat.zero_le 1

theorem Outcome.of_call (h : Outcome world enablePasswordLogin exchange outcome)
    {username : List UInt8} {id : ConversationId}
    (hmem : .authenticatedHandler username id ∈ outcome) :
    (∃ qconn, exchange.connection = some qconn ∧ qconn.handshakeComplete ∧
      qconn.generateConversationID = .ok id) ∧
    (∃ version, parseVersionString (exchange.request.get (ascii "User-Agent")) = .ok version ∧
      isVersionSupported version) ∧
    Authenticated world enablePasswordLogin exchange.request id username := by
  cases h with
  | refused herror => exact absurd (List.mem_singleton.mp hmem).symm (herror.other.2.1 _ _)
  | authenticated hconnection hhandshake hid hversion hsupported hauth =>
    simp only [List.mem_cons, List.not_mem_nil, or_false, reduceCtorEq, false_or,
      HandlerEvent.authenticatedHandler.injEq] at hmem
    obtain ⟨rfl, rfl⟩ := hmem
    exact ⟨⟨_, hconnection, hhandshake, hid⟩, ⟨_, hversion, hsupported⟩, hauth⟩
  | closed id => simp at hmem

theorem Outcome.of_no_call (h : Outcome world enablePasswordLogin exchange outcome)
    (hnone : ∀ username id, .authenticatedHandler username id ∉ outcome) :
    (∀ id, .newServerConversation id ∈ outcome → .closeConversation id ∈ outcome) ∧
      ∃ event ∈ outcome, event.IsError := by
  cases h with
  | refused herror =>
    refine ⟨fun id hmem => ?_, _, List.mem_singleton_self _, herror⟩
    exact absurd (List.mem_singleton.mp hmem).symm (herror.other.2.2 id)
  | authenticated => exact absurd (List.mem_cons_of_mem _ List.mem_cons_self) (hnone _ _)
  | closed id =>
    refine ⟨fun id' hmem => ?_, .writeHeader StatusUnauthorized, by simp, _, rfl, by decide⟩
    simpa using hmem

end

theorem generateConversationID_of_new {qconn : RequestConnection} {maxPacketSize : UInt64}
    (h : newServerConversation qconn maxPacketSize = .ok id) :
    qconn.generateConversationID = .ok id := by
  obtain ⟨-, -, hgenerated⟩ := bind_eq_ok.mp h
  exact hgenerated

section

variable (world : AuthWorld) (enablePasswordLogin : Bool) (maxPacketSize : UInt64)
  (exchange : Exchange)

theorem handleConnection_outcome {version : Version}
    (hversion : parseVersionString (exchange.request.get (ascii "User-Agent")) = .ok version)
    (hsupported : isVersionSupported version) (events : List HandlerEvent) :
    ∃ outcome, Outcome world enablePasswordLogin exchange outcome ∧
      (handleConnection world enablePasswordLogin maxPacketSize exchange.request
        exchange.connection ⟨false, events⟩).events = events ++ outcome := by
  unfold handleConnection
  cases hconnection : exchange.connection with
  | none => exact ⟨_, .refused ⟨_, rfl, by decide⟩, rfl⟩
  | some qconn =>
    simp only
    by_cases hhandshake : ¬qconn.handshakeComplete
    · rw [if_pos hhandshake]
      exact ⟨_, .refused ⟨_, rfl, by decide⟩, rfl⟩
    · rw [if_neg hhandshake]
      rw [not_not] at hhandshake
      cases hnew : newServerConversation qconn maxPacketSize with
      | error err => exact ⟨_, .refused ⟨_, rfl, by decide⟩, rfl⟩
      | ok id =>
        simp only
        have hid := generateConversationID_of_new hnew
        rcases authenticate_cases world enablePasswordLogin exchange.request id with
          ⟨username, hauth, heq⟩ | heq
        · refine ⟨_, .authenticated hconnection hhandshake hid hversion hsupported hauth, ?_⟩
          rw [heq]
          simp [closeUnlessAuthenticated, completeAuth, emit]
        · refine ⟨_, .closed id, ?_⟩
          rw [heq]
          simp [closeUnlessAuthenticated, emit]

/-- The events of a request: the header of the server, one of the outcomes, and perhaps a flush. -/
theorem serveRequest_events :
    ∃ outcome after, Outcome world enablePasswordLogin exchange outcome ∧
      (after = [] ∨ after = [.flush]) ∧
      (serveRequest world enablePasswordLogin maxPacketSize exchange {}).events =
        .setServerHeader thisVersion.getVersionString :: (outcome ++ after) := by
  simp only [serveRequest]
  cases hversion : parseVersionString (exchange.request.get (ascii "User-Agent")) with
  | error err => exact ⟨_, [], .refused ⟨_, rfl, by decide⟩, .inl rfl, rfl⟩
  | ok version =>
    by_cases hsupported : ¬isVersionSupported version
    · simp only [if_pos hsupported]
      exact ⟨_, [], .refused ⟨_, rfl, by decide⟩, .inl rfl, rfl⟩
    · simp only [if_neg hsupported]
      rw [not_not] at hsupported
      obtain ⟨outcome, houtcome, hevents⟩ := handleConnection_outcome world enablePasswordLogin
        maxPacketSize exchange hversion hsupported [.setServerHeader thisVersion.getVersionString]
      -- the state the connection is handled in has the header already
      cases exchange.flusher with
      | false =>
        refine ⟨outcome, [], houtcome, .inl rfl, ?_⟩
        rw [List.append_nil]
        exact hevents
      | true =>
        refine ⟨outcome, [.flush], houtcome, .inr rfl, ?_⟩
        rw [← List.cons_append]
        exact congrArg (· ++ [HandlerEvent.flush]) hevents

end

/-- The handler of the server is called at most once.  It is called only after a complete handshake,
    for a supported version and for a user who proved their identity by one of their own identity
    files or, where that is enabled, by their password.  If it is not called, a conversation that
    was created is closed and an error status is written. -/
theorem handleAuths_sound {platform : Platform} {world : AuthWorld} {enablePasswordLogin : Bool}
    {maxPacketSize : UInt64} {handler : Exchange → Handler}
    (h : handleAuths platform world enablePasswordLogin maxPacketSize = .ok handler)
    (exchange : Exchange) :
    (handler exchange {}).events.countP HandlerEvent.callsHandler ≤ 1 ∧
    (∀ username id, .authenticatedHandler username id ∈ (handler exchange {}).events →
      (∃ qconn, exchange.connection = some qconn ∧ qconn.handshakeComplete ∧
        qconn.generateConversationID = .ok id) ∧
      (∃ version, parseVersionString (exchange.request.get (ascii "User-Agent")) = .ok version ∧
        isVersionSupported version) ∧
      (VerifiedByIdentity world exchange.request id username ∨
        VerifiedByPassword world enablePasswordLogin exchange.request username)) ∧
    ((∀ username id, .authenticatedHandler username id ∉ (handler exchange {}).events) →
      (∀ id, .newServerConversation id ∈ (handler exchange {}).events →
        .closeConversation id ∈ (handler exchange {}).events) ∧
      ∃ event ∈ (handler exchange {}).events, event.IsError) := by
  unfold handleAuths at h
  split at h
  · cases h
  cases h
  obtain ⟨outcome, after, houtcome, hafter, hevents⟩ :=
    serveRequest_events world enablePasswordLogin maxPacketSize exchange
  rw [hevents]
  have hquiet : ∀ event ∈ after, event = .flush := by
    rcases hafter with rfl | rfl
    · exact fun _ => nofun
    · exact fun _ hmem => List.mem_singleton.mp hmem
  -- only the outcome has calls and conversations in it
  have hcalls : ∀ username id, HandlerEvent.authenticatedHandler username id ∈
      .setServerHeader thisVersion.getVersionString :: (outcome ++ after) →
      .authenticatedHandler username id ∈ outcome := by
    intro username id hmem
    simp only [List.mem_cons, List.mem_append, reduceCtorEq, false_or] at hmem
    rcases hmem with hmem | hmem
    · exact hmem
    · cases hquiet _ hmem
  have hcreates : ∀ id, HandlerEvent.newServerConversation id ∈
      .setServerHeader thisVersion.getVersionString :: (outcome ++ after) →
      .newServerConversation id ∈ outcome := by
    intro id hmem
    simp only [List.mem_cons, List.mem_append, reduceCtorEq, false_or] at hmem
    rcases hmem with hmem | hmem
    · exact hmem
    · cases hquiet _ hmem
  have hcount : (HandlerEvent.setServerHeader thisVersion.getVersionString ::
      (outcome ++ after)).countP HandlerEvent.callsHandler =
      outcome.countP HandlerEvent.callsHandler := by
    have hzero : after.countP HandlerEvent.callsHandler = 0 := by
      rw [List.countP_eq_zero]
      intro event hmem
      rw [hquiet event hmem]
      decide
    rw [List.countP_cons_of_neg (by decide), List.countP_append, hzero, Nat.add_zero]
  rw [hcount]
  refine ⟨houtcome.countP_le, fun username id hmem => houtcome.of_call (hcalls username id hmem),
    fun hnone => ?_⟩
  obtain ⟨hclosed, event, hmem, herror⟩ := houtcome.of_no_call fun username id hmem =>
    hnone username id (List.mem_cons_of_mem _ (List.mem_append_left _ hmem))
  refine ⟨fun id hnew => ?_, event, List.mem_cons_of_mem _ (List.mem_append_left _ hmem), herror⟩
  exact List.mem_cons_of_mem _ (List.mem_append_left _ (hclosed id (hcreates id hnew)))

/-! ## Tokens are bound to the connection -/

/-- What the verifiers of the public key plugin accept. -/
theorem pubkeyAuthPlugin_verify {jwtParse : JwtParser}
    {parseAuthorizedKey : List UInt8 → Option AuthorizedKey} {identityStr : List UInt8}
    {verifier : RequestIdentityVerifier}
    (h : pubkeyAuthPlugin jwtParse parseAuthorizedKey username identityStr = .ok (some verifier))
    (hverify : verifier r base64ConversationID = true) :
    ∃ token pubkey claims, parseBearerAuth (r.get (ascii "Authorization")) = some token ∧
      jwtParse token pubkey username = some claims ∧
      claims.lookup (ascii "client_id") = some (.string (ascii "ssh3-" ++ username)) ∧
      claims.lookup (ascii "jti") = some (.string base64ConversationID) := by
  unfold pubkeyAuthPlugin at h
  split at h
  · cases h
  · next key hkey =>
    split at h
    · cases h
      unfold PubkeyJWTIdentityVerifier.verify at hverify
      split at hverify
      · cases hverify
      · next token htoken =>
        split at hverify
        · cases hverify
        · next claims hclaims =>
          simp only [Bool.and_eq_true, decide_eq_true_eq] at hverify
          exact ⟨token, key.pubkey, claims, htoken, hclaims, hverify.1.2, hverify.2⟩
    · cases h

theorem OpenIDConnectIdentity.nonce_of_verify {identity : OpenIDConnectIdentity}
    {provider : OidcProvider} {candidate : Candidate}
    (hid : base64ConversationID ≠ [])
    (h : identity.verify provider candidate base64ConversationID = true) :
    ∃ token idToken, candidate = .jwtTokenString token ∧
      provider identity.issuerURL identity.clientID token = some idToken ∧
      idToken.nonce = some base64ConversationID := by
  cases candidate with
  | request r => cases h
  | jwtTokenString token =>
    simp only [OpenIDConnectIdentity.verify, verifyRawToken, if_neg hid] at h
    cases hprovider : provider identity.issuerURL identity.clientID token with
    | none =>
      simp only [hprovider] at h
      cases h
    | some idToken =>
      cases hnonce : idToken.nonce with
      | none =>
        simp only [hprovider, hnonce] at h
        cases h
      | some nonce =>
        simp only [hprovider, hnonce] at h
        by_cases hsame : nonce = base64ConversationID
        · exact ⟨token, idToken, rfl, hprovider, by rw [hnonce, hsame]⟩
        · simp only [if_neg hsame] at h
          cases h

/-- Every plugin verifier of a parsed file was made by a plugin, for the user and a line of it. -/
theorem exists_plugin_of_mem {registry : PluginRegistry} {file : OpenFile}
    {verifier : RequestIdentityVerifier}
    (h : .plugin verifier ∈ (parseAuthorizedIdentitiesFile registry user file).1) :
    ∃ line number, ∃ plugin ∈ registry number, plugin user.username line = .ok (some verifier) := by
  obtain ⟨⟨line, number⟩, -, hline⟩ := List.mem_flatMap.mp h
  refine ⟨line, number, ?_⟩
  have hfound : verifier ∈ Plugins.findIdentities (registry number) user.username line := by
    unfold parseIdentityLine at hline
    split at hline
    · cases hline
    split at hline
    · cases hline
    split at hline
    · next identities hparse =>
      unfold parseIdentity at hparse
      simp only at hparse
      split at hparse
      · split at hparse
        · cases hparse
          simpa using hline
        · cases hparse
      · split at hparse
        · cases hparse
        · cases hparse
          simpa using hline
    · cases hline
  obtain ⟨plugin, hplugin, hresult⟩ := List.mem_filterMap.mp hfound
  refine ⟨plugin, hplugin, ?_⟩
  cases hcall : plugin user.username line with
  | error err =>
    rw [hcall] at hresult
    cases hresult
  | ok found =>
    rw [hcall] at hresult
    simp only at hresult
    rw [hresult]

theorem stdEncoding_encode_ne_nil (id : ConversationId) : stdEncoding.encode id.val ≠ [] := by
  intro h
  have hnil : id.val = [] := stdEncoding.encode_injective h
  have hlength := id.property
  rw [hnil] at hlength
  cases hlength

/-- The request has a bearer token that names the conversation: in the `jti` claim of a valid
    token of the user, or in the nonce of a token that an identity provider has issued. -/
def NamesConversation (world : AuthWorld) (jwtParse : JwtParser) (r : HttpRequest)
    (id : ConversationId) (username : List UInt8) : Prop :=
  ∃ token, parseBearerAuth (r.get (ascii "Authorization")) = some token ∧
    ((∃ user pubkey claims, world.getUser username = some user ∧
        jwtParse token pubkey user.username = some claims ∧
        claims.lookup (ascii "jti") = some (.string (stdEncoding.encode id.val))) ∨
      ∃ (identity : OpenIDConnectIdentity) (idToken : IDToken),
        world.provider identity.issuerURL identity.clientID token = some idToken ∧
        idToken.nonce = some (stdEncoding.encode id.val))

/-- With the public key plugin alone, whatever proves an identity is a bearer token that names the
    conversation of this connection. -/
theorem VerifiedByIdentity.bound {world : AuthWorld} {jwtParse : JwtParser}
    {parseAuthorizedKey : List UInt8 → Option AuthorizedKey}
    (hplugins : ∀ index path number,
      (world.openFile index path).1 number = [pubkeyAuthPlugin jwtParse parseAuthorizedKey])
    (h : VerifiedByIdentity world r id username) :
    NamesConversation world jwtParse r id username := by
  obtain ⟨user, huser, index, path, registry, file, verifier, candidate, -, hfile, hmem, hfrom,
    hverify⟩ := h
  have hregistry : ∀ number, registry number = [pubkeyAuthPlugin jwtParse parseAuthorizedKey] := by
    intro number
    have hplugin := hplugins index path number
    rwa [hfile] at hplugin
  cases verifier with
  | plugin verifier =>
    cases candidate with
    | jwtTokenString token => cases hverify
    | request r' =>
      obtain ⟨line, number, plugin, hplugin, hmade⟩ := exists_plugin_of_mem hmem
      rw [hregistry number, List.mem_singleton] at hplugin
      subst hplugin
      obtain ⟨token, pubkey, claims, htoken, hclaims, -, hjti⟩ :=
        pubkeyAuthPlugin_verify hmade hverify
      rcases hfrom with hfrom | ⟨token', -, hfrom⟩
      · cases hfrom
        exact ⟨token, htoken, .inl ⟨user, pubkey, claims, huser, hclaims, hjti⟩⟩
      · cases hfrom
  | oidc identity =>
    obtain ⟨token, idToken, rfl, hprovider, hnonce⟩ :=
      identity.nonce_of_verify (stdEncoding_encode_ne_nil id) hverify
    rcases hfrom with hfrom | ⟨token', htoken, hfrom⟩
    · cases hfrom
    · cases hfrom
      unfold bearerAuth at htoken
      simp only at htoken
      split at htoken
      · cases htoken
      · exact ⟨token, htoken, .inr ⟨identity, idToken, hprovider, hnonce⟩⟩

/-- **No token is good for another connection.**  With the public key plugin alone, a request that
    gets to the authenticated handler has the password of the user, if such logins are enabled, or
    a bearer token that names the conversation of the handler, and this conversation is the one
    that the handshake of the request's own connection determines. -/
theorem token_names_own_connection {world : AuthWorld} {enablePasswordLogin : Bool}
    {maxPacketSize : UInt64} {exchange : Exchange} {username : List UInt8} {id : ConversationId}
    {jwtParse : JwtParser} {parseAuthorizedKey : List UInt8 → Option AuthorizedKey}
    (hplugins : ∀ index path number,
      (world.openFile index path).1 number = [pubkeyAuthPlugin jwtParse parseAuthorizedKey])
    (hcalled : .authenticatedHandler username id ∈
      (serveRequest world enablePasswordLogin maxPacketSize exchange {}).events) :
    (∃ qconn, exchange.connection = some qconn ∧ qconn.handshakeComplete ∧
      qconn.generateConversationID = .ok id) ∧
    (VerifiedByPassword world enablePasswordLogin exchange.request username ∨
      NamesConversation world jwtParse exchange.request id username) := by
  obtain ⟨outcome, after, houtcome, hafter, hevents⟩ :=
    serveRequest_events world enablePasswordLogin maxPacketSize exchange
  -- the call is part of the outcome: the other events set the header and flush
  have hmem : .authenticatedHandler username id ∈ outcome := by
    rw [hevents] at hcalled
    simp only [List.mem_cons, List.mem_append, reduceCtorEq, false_or] at hcalled
    obtain hmem | hmem := hcalled
    · exact hmem
    · obtain rfl | rfl := hafter
      · cases hmem
      · cases List.mem_singleton.mp hmem
  obtain ⟨hconnection, -, hauthenticated⟩ := houtcome.of_call hmem
  refine ⟨hconnection, ?_⟩
  obtain hidentity | hpassword := hauthenticated
  · exact .inr (hidentity.bound hplugins)
  · exact .inl hpassword

/-! ## A password login -/

/-- A server with one account, without identity files. -/
def passwordWorld : AuthWorld where
  getUser := fun name =>
    if name = ascii "alice" then some ⟨name, ascii "/home/alice"⟩ else none
  getspnam := fun name =>
    if name = ascii "alice" then some (ascii "$1$abcdefgh$cHJi5PXp/ki/ktXzqlk6I1") else none
  crypt := fun password _ =>
    if password = ascii "secret" then ascii "$1$abcdefgh$cHJi5PXp/ki/ktXzqlk6I1" else ascii "*0"
  openFile := fun _ _ => (fun _ => [], .error .notExist)
  provider := fun _ _ _ => none

def passwordExchange : Exchange where
  request := {
    header := [(ascii "User-Agent", thisVersion.getVersionString),
      (ascii "Authorization", ascii "Basic YWxpY2U6c2VjcmV0")]
    urlUsername := []
    rawQuery := ascii "user=alice" }
  connection := some ⟨true, .ok zeroConversation⟩
  flusher := true

theorem handleAuths_sound_password :
    ∃ handler, handleAuths ⟨ascii "linux", ascii "amd64"⟩ passwordWorld true 30000 = .ok handler ∧
      .authenticatedHandler (ascii "alice") zeroConversation ∈
        (handler passwordExchange {}).events ∧
      (VerifiedByIdentity passwordWorld passwordExchange.request zeroConversation (ascii "alice") ∨
        VerifiedByPassword passwordWorld true passwordExchange.request (ascii "alice")) := by
  have hcalled : HandlerEvent.authenticatedHandler (ascii "alice") zeroConversation ∈
      (serveRequest passwordWorld true 30000 passwordExchange {}).events := by decide +kernel
  have hhandler : handleAuths ⟨ascii "linux", ascii "amd64"⟩ passwordWorld true 30000 =
      .ok (serveRequest passwordWorld true 30000) := rfl
  have hsound := (handleAuths_sound hhandler passwordExchange).2.1
  exact ⟨_, hhandler, hcalled, (hsound (ascii "alice") zeroConversation hcalled).2.2⟩

/-! ## A login with a key -/

/-- `ssh.ParseAuthorizedKey` on lines without options: the type of the key and its blob, which
    starts with the type again. -/
def parseKeyLine (line : List UInt8) : Option AuthorizedKey :=
  match Text.words line with
  | keyType :: encoded :: _ =>
    match stdEncoding.decode encoded with
    | some blob =>
      if [0, 0, 0, UInt8.ofNat keyType.length] ++ keyType <+: blob then some ⟨keyType, blob⟩
      else none
    | none => none
  | _ => none

/-- An Ed25519 key in the form of `authorized_keys` -/
def keyLine : List UInt8 :=
  ascii "ssh-ed25519 AAAAC3NzaC1lZDI1NTE5AAAAINdamAGCsQq31Uv+08lkBzoO4XLz2qYjJa8CGmj3B1Ea" ++
    ascii " alice@example.org"

/-- A token that this key has signed, for the conversation of 32 zero bytes -/
def keyToken : List UInt8 :=
  ascii "eyJhbGciOiJFZERTQSIsInR5cCI6IkpXVCJ9.eyJpc3MiOiJhbGljZSIsImlhdCI6MTcwMDAwMDAwMCwiZXh" ++
  ascii "wIjoxNzAwMDAwMDEwLCJzdWIiOiJzc2gzIiwiYXVkIjoidW51c2VkIiwiY2xpZW50X2lkIjoic3NoMy1hbGl" ++
  ascii "jZSIsImp0aSI6IkFBQUFBQUFBQUFBQUFBQUFBQUFBQUFBQUFBQUFBQUFBQUFBQUFBQUFBQUE9In0.1yePFQ9" ++
  ascii "C7CDDGCVS8AtOuzoRaJIFnGywS7n46mLrrqXn_Lu9laViaxoJsPikAWO0ydGgBmJscaVAcnUVsW1NBg"

/-- `jwt.Parse` on this token; any other signature, key or issuer is refused. -/
def parseKeyToken : JwtParser := fun token pubkey issuer =>
  if token = keyToken ∧ (parseKeyLine keyLine).map AuthorizedKey.pubkey = some pubkey ∧
      issuer = ascii "alice" then
    some [(ascii "iss", .string (ascii "alice")), (ascii "iat", .other), (ascii "exp", .other),
      (ascii "sub", .string (ascii "ssh3")), (ascii "aud", .string (ascii "unused")),
      (ascii "client_id", .string (ascii "ssh3-alice")),
      (ascii "jti", .string (ascii "AAAAAAAAAAAAAAAAAAAAAAAAAAAAAAAAAAAAAAAAAAA="))]
  else none

/-- The same account with an authorized key -/
def keyWorld : AuthWorld where
  __ := passwordWorld
  openFile := fun _ _ =>
    (fun _ => [pubkeyAuthPlugin parseKeyToken parseKeyLine], .ok ⟨keyLine, none, none⟩)

/-- A request with the token -/
def keyExchange : Exchange where
  __ := passwordExchange
  request := { passwordExchange.request with
    header := [(ascii "User-Agent", thisVersion.getVersionString),
      (ascii "Authorization", ascii "Bearer " ++ keyToken)] }

theorem token_names_own_connection_key :
    .authenticatedHandler (ascii "alice") zeroConversation ∈
        (serveRequest keyWorld false 30000 keyExchange {}).events ∧
      (VerifiedByPassword keyWorld false keyExchange.request (ascii "alice") ∨
        NamesConversation keyWorld parseKeyToken keyExchange.request zeroConversation
          (ascii "alice")) := by
  have hcalled : .authenticatedHandler (ascii "alice") zeroConversation ∈
      (serveRequest keyWorld false 30000 keyExchange {}).events := by decide +kernel
  exact ⟨hcalled, (token_names_own_connection (fun _ _ _ => rfl) hcalled).2⟩

end Ssh3.Go
