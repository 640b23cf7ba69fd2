/-
  Ssh3.Go.HttpHandler

  `server.go`: `GetHTTPHandlerFunc`, and the response that a request gets from it and from the
  handler of `HandleAuths` around it.

  A CONNECT request is answered with 200 if and only if a conversation is registered for it, and
  no client is refused for a version that the server supports.
-/

import Ssh3.Go.ServerAuthSpec

namespace Ssh3.Go

open Proto (ascii)
open Ssh3.Core (ConversationId)

/-- The response writer of a request, and the conversations the server has registered for it. -/
structure Reply where
  server : List UInt8 := []
  statusCode : Option Nat := none
  registered : List (List UInt8 × ConversationId) := []
  deriving DecidableEq, Repr

/-- `w.WriteHeader`: only the first status is sent. -/
def Reply.writeHeader (status : Nat) (reply : Reply) : Reply :=
  { reply with statusCode := reply.statusCode.or (some status) }

/-- `GetHTTPHandlerFunc`, for a writer whose stream can be hijacked or cannot -/
def httpHandlerFunc (method : List UInt8) (connection : Option RequestConnection) (streamer : Bool)
    (username : List UInt8) (id : ConversationId) (reply : Reply) : Reply :=
  if method = ascii "CONNECT" then
    if connection.isNone ∨ ¬streamer then reply.writeHeader StatusInternalServerError
    else { reply.writeHeader 200 with registered := reply.registered ++ [(username, id)] }
  else reply

/-- A step of the handler, as its response writer sees it -/
def Reply.on (method : List UInt8) (connection : Option RequestConnection) (streamer : Bool)
    (reply : Reply) : HandlerEvent → Reply
  | .setServerHeader value => { reply with server := value }
  | .httpError _ status => reply.writeHeader status
  | .writeHeader status => reply.writeHeader status
  | .newServerConversation _ => reply
  | .authenticatedHandler username id =>
    httpHandlerFunc method connection streamer username id reply
  | .closeConversation _ => reply
  | .flush => reply.writeHeader 200

/-- The reply to a request; a handler that writes no status has accepted it. -/
def replyTo (world : AuthWorld) (enablePasswordLogin : Bool) (maxPacketSize : UInt64)
    (method : List UInt8) (exchange : Exchange) (streamer : Bool) : Reply :=
  let reply := (serveRequest world enablePasswordLogin maxPacketSize exchange {}).events.foldl
    (Reply.on method exchange.connection streamer) {}
  reply.writeHeader 200

/-- `req.Header.Set("User-Agent", ..)` -/
def Exchange.withUserAgent (exchange : Exchange) (userAgent : List UInt8) : Exchange :=
  { exchange with
    request := { exchange.request with
      header := (ascii "User-Agent", userAgent) :: exchange.request.header } }

section

variable (world : AuthWorld) (enablePasswordLogin : Bool) (maxPacketSize : UInt64)

/-- The server announces itself in any case.  It accepts a request if and only if it registers a
    conversation for it, and what it forbids was forbidden before the authentication. -/
theorem replyTo_connect (exchange : Exchange) (streamer : Bool) :
    let reply := replyTo world enablePasswordLogin maxPacketSize (ascii "CONNECT") exchange streamer
    reply.server = thisVersion.getVersionString ∧
      ((∃ username id, reply.registered = [(username, id)]) ∧ reply.statusCode = some 200 ∨
        reply.registered = [] ∧ ∃ status, reply.statusCode = some status ∧ 400 ≤ status ∧
          (status = StatusForbidden → ∃ event ∈ (serveRequest world enablePasswordLogin
            maxPacketSize exchange {}).events, event.status = some StatusForbidden)) := by
  intro reply
  obtain ⟨outcome, after, houtcome, hafter, hevents⟩ :=
    serveRequest_events world enablePasswordLogin maxPacketSize exchange
  -- once there is a status, a flush adds nothing
  have hflush : ∀ (start : Reply) (status : Nat), start.statusCode = some status →
      (after.foldl (Reply.on (ascii "CONNECT") exchange.connection streamer) start).writeHeader 200
        = start := by
    intro start status hstatus
    have hwrite : start.writeHeader 200 = start := by
      unfold Reply.writeHeader
      rw [hstatus]
      obtain ⟨server, code, registered⟩ := start
      cases hstatus
      rfl
    obtain rfl | rfl := hafter
    · exact hwrite
    · change (start.writeHeader 200).writeHeader 200 = start
      rw [hwrite, hwrite]
  have hreply : reply = ((after.foldl (Reply.on (ascii "CONNECT") exchange.connection streamer)
      (outcome.foldl (Reply.on (ascii "CONNECT") exchange.connection streamer)
        { server := thisVersion.getVersionString })).writeHeader 200) := by
    simp only [reply, replyTo, hevents, List.foldl_cons, List.foldl_append, Reply.on]
  rw [hreply, hevents]
  cases houtcome with
  | @refused error herror =>
    obtain ⟨status, hstatus, hle⟩ := herror
    have hforbidden : status = StatusForbidden → ∃ event ∈
        .setServerHeader thisVersion.getVersionString :: ([error] ++ after),
        event.status = some StatusForbidden := by
      rintro rfl
      exact ⟨error, List.mem_cons_of_mem _ List.mem_cons_self, hstatus⟩
    cases error with
    | httpError _ _ | writeHeader _ =>
      cases hstatus
      rw [hflush _ status rfl]
      exact ⟨rfl, .inr ⟨rfl, status, rfl, hle, hforbidden⟩⟩
    | setServerHeader _ | newServerConversation _ | authenticatedHandler _ _
    | closeConversation _ | flush => cases hstatus
  | @authenticated qconn version id username hconnection hhandshake hid hversion hsupported hauth =>
    cases streamer with
    | true =>
      rw [hconnection]
      rw [hconnection] at hflush
      rw [hflush _ 200 rfl]
      exact ⟨rfl, .inl ⟨⟨username, id, rfl⟩, rfl⟩⟩
    | false =>
      rw [hconnection]
      rw [hconnection] at hflush
      rw [hflush _ StatusInternalServerError rfl]
      exact ⟨rfl, .inr ⟨rfl, _, rfl, by decide, fun h => absurd h (by decide)⟩⟩
  | closed id =>
    rw [hflush _ StatusUnauthorized rfl]
    exact ⟨rfl, .inr ⟨rfl, _, rfl, by decide, fun h => absurd h (by decide)⟩⟩

/-- Behind the check of the version nothing is forbidden. -/
theorem handleConnection_not_forbidden (request : HttpRequest)
    (connection : Option RequestConnection) (start : HandlerState)
    (hstart : start.authenticated = false)
    (hevents : ∀ event ∈ start.events, event.status ≠ some StatusForbidden) :
    ∀ event ∈ (handleConnection world enablePasswordLogin maxPacketSize request connection
      start).events, event.status ≠ some StatusForbidden := by
  -- each branch appends events, none of which has that status
  have happend : ∀ outcome : List HandlerEvent,
      outcome.all (fun event => event.status != some StatusForbidden) →
      ∀ event ∈ start.events ++ outcome, event.status ≠ some StatusForbidden := by
    intro outcome houtcome event hmem
    obtain hbefore | hnew := List.mem_append.mp hmem
    · exact hevents event hbefore
    · exact bne_iff_ne.mp (List.all_eq_true.mp houtcome event hnew)
  obtain ⟨authenticated, events⟩ := start
  cases hstart
  unfold handleConnection
  cases connection with
  | none => exact happend [_] rfl
  | some qconn =>
    simp only
    split
    · exact happend [_] rfl
    · cases newServerConversation qconn maxPacketSize with
      | error err => exact happend [_] rfl
      | ok id =>
        simp only
        obtain ⟨username, -, heq⟩ | heq :=
          authenticate_cases world enablePasswordLogin request id
        · rw [heq]
          simpa [closeUnlessAuthenticated, completeAuth, emit] using
            happend [.newServerConversation id, .authenticatedHandler username id] rfl
        · rw [heq]
          simpa [closeUnlessAuthenticated, emit] using
            happend [.newServerConversation id, .writeHeader StatusUnauthorized,
              .closeConversation id] rfl

/-- A client of a supported version is not refused for its version. -/
theorem replyTo_not_forbidden {exchange : Exchange} {streamer : Bool} {version : Version}
    (hversion : parseVersionString (exchange.request.get (ascii "User-Agent")) = .ok version)
    (hsupported : isVersionSupported version) :
    (replyTo world enablePasswordLogin maxPacketSize (ascii "CONNECT") exchange
      streamer).statusCode ≠ some StatusForbidden := by
  have hevents : ∀ event ∈ (serveRequest world enablePasswordLogin maxPacketSize exchange
      {}).events, event.status ≠ some StatusForbidden := by
    have hconnection := handleConnection_not_forbidden world enablePasswordLogin maxPacketSize
      exchange.request exchange.connection
      (emit (.setServerHeader thisVersion.getVersionString) {}) rfl
      (by simp [emit, HandlerEvent.status])
    simp only [serveRequest, hversion, hsupported, not_true_eq_false, if_false]
    split
    · intro event hmem
      obtain hbefore | hflush := List.mem_append.mp hmem
      · exact hconnection event hbefore
      · cases List.mem_singleton.mp hflush
        simp [HandlerEvent.status]
    · exact hconnection
  obtain ⟨-, ⟨-, hok⟩ | ⟨-, status, hstatus, -, hforbidden⟩⟩ :=
    replyTo_connect world enablePasswordLogin maxPacketSize exchange streamer
  · rw [hok]
    decide
  · rw [hstatus]
    intro heq
    obtain ⟨event, hmem, hevent⟩ := hforbidden (Option.some.inj heq)
    exact hevents event hmem hevent

end

end Ssh3.Go
