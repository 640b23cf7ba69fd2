/-
  Ssh3.Interop.Bootstrap

  How a conversation starts, with clients and servers of both implementations.

  A client believes in a conversation once it has read status 200; a server, once it has sent it.
  Between the implementations stand the versions: the Go server refuses the clients whose
  User-Agent it does not support, and the Go client fails on a server whose `Server` header it
  cannot parse.  Whatever the requests are and whatever becomes of the responses on their way,
  the two sides agree.
-/

import Ssh3.Go.Establish
import Ssh3.Go.HttpHandler
import Ssh3.H3.Establish
import Ssh3.Server.AuthorizationSpec

namespace Ssh3.Interop

open Proto (ascii)
open Go (GoError HttpResponse thisVersion AVAILABLE_CLIENT_VERSIONS)
open Ssh3.Core (ConversationId)

/-- What becomes of a response on its way: the rest of it that is read, or an error instead. -/
abbrev Delivery := Nat → Except GoError (Int × List UInt8)

/-- What a client reads, given what was sent: nothing can be read if nothing was sent. -/
def readResponse (delivery : Except GoError (Int × List UInt8)) :
    Option (Nat × List UInt8) → Except GoError HttpResponse
  | none => .error .eof
  | some (statusCode, server) =>
    delivery.map fun rest => ⟨statusCode, server, rest.1, rest.2⟩

variable {delivery : Except GoError (Int × List UInt8)}

theorem readResponse_eq_ok {sent : Option (Nat × List UInt8)} {rsp : HttpResponse} :
    readResponse delivery sent = .ok rsp ↔
      delivery = .ok (rsp.contentLength, rsp.body) ∧
        sent = some (rsp.statusCode, rsp.server) := by
  obtain ⟨statusCode, server, contentLength, body⟩ := rsp
  cases sent with
  | none => simp [readResponse]
  | some response =>
    cases delivery with
    | error err => simp [readResponse, Except.map]
    | ok rest =>
      constructor
      · intro h
        cases h
        exact ⟨rfl, rfl⟩
      · rintro ⟨hrest, hresponse⟩
        cases hrest
        cases hresponse
        rfl

theorem isOk_iff_exists : delivery.isOk ↔ ∃ rest, delivery = .ok rest := by
  cases delivery with
  | error err => simp [Except.isOk, Except.toBool]
  | ok rest => simp [Except.isOk, Except.toBool]

/-- What a server in Go sends for a CONNECT request with this User-Agent -/
def goSends (reply : Go.Reply) : Option (Nat × List UInt8) :=
  reply.statusCode.map (·, reply.server)

/-- What a server in Rust sends; without a `Server` header, Go reads an empty one. -/
def rustSends (events : List Server.Event) : Option (Nat × List UInt8) :=
  (Server.responseOf events).map fun response => (response.1.asU16, response.2.getD [])

/-- The client in Go meets a server that sends the same response to every request with a given
    User-Agent.  Unless it is refused with 403 by a server of another version, it asks once, and
    there is a conversation if and only if it reads the acceptance of a known version. -/
theorem go_client_asks_once (delivery : Delivery)
    (sends : List UInt8 → Option (Nat × List UInt8))
    (hsends : ∀ server, sends thisVersion.getVersionString = some (Go.StatusForbidden, server) →
      server = thisVersion.getVersionString) :
    let establishment := Go.establishClientConversation
      (fun number userAgent => readResponse (delivery number) (sends userAgent))
      AVAILABLE_CLIENT_VERSIONS
    establishment.requests = [thisVersion] ∧
      ∀ peer, establishment.result = .ok peer ↔ (delivery 0).isOk ∧ ∃ server,
        sends thisVersion.getVersionString = some (200, server) ∧
          Go.parseVersionString server = .ok peer := by
  intro establishment
  obtain ⟨version, hretries, -, -⟩ | ⟨-, hrequests, hresult⟩ :=
    Go.establishClientConversation_cases
      fun number userAgent => readResponse (delivery number) (sends userAgent)
  · -- a server of this very version is not asked again
    obtain ⟨announced, ⟨rsp, hread, hstatus, hparse⟩, hretry⟩ := hretries
    have hsent := (readResponse_eq_ok.mp hread).2
    rw [hstatus] at hsent
    rw [hsends _ hsent] at hparse
    have hthis : Go.parseVersionString thisVersion.getVersionString = .ok thisVersion := by
      decide +kernel
    cases hthis.symm.trans hparse
    have hlegacy := (Go.retryVersion_eq_some hretry).1
    exact absurd hlegacy.symm Go.legacyProtocol_ne
  · refine ⟨hrequests, fun peer => ?_⟩
    rw [hresult, isOk_iff_exists]
    constructor
    · rintro ⟨rsp, hread, hstatus, hparse⟩
      obtain ⟨hdelivery, hsent⟩ := readResponse_eq_ok.mp hread
      rw [hstatus] at hsent
      exact ⟨⟨_, hdelivery⟩, rsp.server, hsent, hparse⟩
    · rintro ⟨⟨rest, hdelivery⟩, server, hsent, hparse⟩
      exact ⟨⟨200, server, rest.1, rest.2⟩, readResponse_eq_ok.mpr ⟨hdelivery, hsent⟩, rfl, hparse⟩

/-- The client in Rust reads one response and looks at its status only. -/
theorem rust_client_accepts {exported : Except GoError ConversationId}
    {sent : Option (Nat × List UInt8)}
    {id : ConversationId} :
    H3.establishClientConversation exported ((readResponse delivery sent).map (·.statusCode)) =
        .ok id ↔
      exported = .ok id ∧ delivery.isOk ∧ ∃ server, sent = some (200, server) := by
  rw [H3.establishClientConversation_eq_ok, isOk_iff_exists]
  refine and_congr_right fun _ => ?_
  constructor
  · intro h
    cases hread : readResponse delivery sent with
    | error err =>
      rw [hread] at h
      cases h
    | ok rsp =>
      rw [hread] at h
      obtain ⟨hdelivery, hsent⟩ := readResponse_eq_ok.mp hread
      have hstatus : rsp.statusCode = 200 := Except.ok.inj h
      rw [hstatus] at hsent
      exact ⟨⟨_, hdelivery⟩, _, hsent⟩
  · rintro ⟨⟨rest, rfl⟩, server, rfl⟩
    rfl

/-- The version that the client in Rust sends, as Go parses it -/
def rustVersion : Go.Version :=
  ⟨ascii "SSH", ⟨3, 0, ascii "alpha-00"⟩, ⟨ascii "ssh3-rust", 0, 1, 0⟩⟩

section

variable (world : Go.AuthWorld) (enablePasswordLogin : Bool) (maxPacketSize : UInt64)
  (exchange : Go.Exchange) (streamer : Bool)

/-- The reply of a server in Go to a CONNECT request with this User-Agent -/
def goReply (userAgent : List UInt8) : Go.Reply :=
  Go.replyTo world enablePasswordLogin maxPacketSize (ascii "CONNECT")
    (exchange.withUserAgent userAgent) streamer

theorem get_withUserAgent (userAgent : List UInt8) :
    (exchange.withUserAgent userAgent).request.get (ascii "User-Agent") = userAgent := by
  simp [Go.Exchange.withUserAgent, Go.HttpRequest.get]

theorem goSends_goReply (userAgent : List UInt8) (status : Nat) (server : List UInt8) :
    goSends (goReply world enablePasswordLogin maxPacketSize exchange streamer userAgent) =
        some (status, server) →
      server = thisVersion.getVersionString := by
  intro hsends
  have hreply := Go.replyTo_connect world enablePasswordLogin maxPacketSize
    (exchange.withUserAgent userAgent) streamer
  unfold goSends at hsends
  obtain ⟨code, -, heq⟩ := Option.map_eq_some_iff.mp hsends
  cases heq
  exact hreply.1

/-- The server in Go accepts a request if and only if it has registered one conversation. -/
theorem goSends_accepts (userAgent : List UInt8) :
    (∃ server, goSends
        (goReply world enablePasswordLogin maxPacketSize exchange streamer userAgent) =
          some (200, server)) ↔
      ∃ username id, (goReply world enablePasswordLogin maxPacketSize exchange streamer
        userAgent).registered = [(username, id)] := by
  have hreply := Go.replyTo_connect world enablePasswordLogin maxPacketSize
    (exchange.withUserAgent userAgent) streamer
  obtain ⟨-, ⟨⟨username, id, hregistered⟩, hstatus⟩ | ⟨hregistered, status, hstatus, hle, -⟩⟩ :=
    hreply
  · constructor
    · exact fun _ => ⟨username, id, hregistered⟩
    · intro _
      have hsends := congrArg (Option.map (·, (Go.replyTo world enablePasswordLogin maxPacketSize
        (ascii "CONNECT") (exchange.withUserAgent userAgent) streamer).server)) hstatus
      exact ⟨_, hsends⟩
  · constructor
    · rintro ⟨server, hsends⟩
      unfold goSends goReply at hsends
      rw [hstatus] at hsends
      cases hsends
      exact absurd hle (by decide)
    · rintro ⟨username, id, hone⟩
      unfold goReply at hone
      rw [hregistered] at hone
      cases hone

end

/-- The server in Rust accepts a request if and only if it serves it, and its acceptance names the
    configured version.  It forbids nothing. -/
theorem rustSends_respond (world : Server.World) (accepted : Server.AcceptedServerConversation)
    (config : Server.AccessConfig) :
    ((∃ event ∈ (Server.respond world accepted config).1, event.Serves) ↔
        ∃ server, rustSends (Server.respond world accepted config).1 = some (200, server)) ∧
      (∀ server, rustSends (Server.respond world accepted config).1 = some (200, server) →
        server = config.serverHeader) ∧
      ∀ server, rustSends (Server.respond world accepted config).1 ≠
        some (Go.StatusForbidden, server) := by
  unfold rustSends
  obtain ⟨hok, hserves⟩ | ⟨hother, hnot⟩ := Server.responseOf_respond world accepted config
  · rw [hok]
    refine ⟨⟨fun _ => ⟨_, rfl⟩, fun _ => hserves⟩, fun server hsent => ?_, fun server hsent => ?_⟩
    · cases hsent
      rfl
    · cases hsent
  · have hrefused : ∀ status server, status = 200 ∨ status = Go.StatusForbidden →
        (Server.responseOf (Server.respond world accepted config).1).map
            (fun response => (response.1.asU16, response.2.getD [])) ≠ some (status, server) := by
      rintro status server hstatus hsent
      obtain ⟨response, hresponse, heq⟩ := Option.map_eq_some_iff.mp hsent
      have hok := hother response hresponse
      cases heq
      cases hcode : response.1 with
      | ok => exact hok hcode
      | unauthorized | notFound =>
        rw [hcode] at hstatus
        exact absurd hstatus (by decide)
    refine ⟨⟨?_, ?_⟩, fun server hsent => ?_, fun server => hrefused _ server (.inr rfl)⟩
    · rintro ⟨event, hmem, hserves⟩
      exact absurd hserves (hnot event hmem)
    · rintro ⟨server, hsent⟩
      exact absurd hsent (hrefused _ server (.inl rfl))
    · exact absurd hsent (hrefused _ server (.inl rfl))

/-- A client and a server agree on whether there is a conversation, in any combination of the two
    implementations, if the response of the server reaches the client:

    * The client in Go sends one request to either server.  It has a conversation with a server in
      Go if and only if that has registered one, and then each knows the version of the other.  It
      has a conversation with a server in Rust if and only if that serves and is configured to
      announce a version that can be parsed.
    * The client in Rust, which can export a conversation id, has a conversation with a server in
      Go if and only if that has registered one, and with one in Rust if and only if that serves.
    * The server in Go refuses neither client for its version. -/
theorem bootstrap_agrees (world : Go.AuthWorld) (enablePasswordLogin : Bool)
    (maxPacketSize : UInt64) (exchange : Go.Exchange) (streamer : Bool) (rustWorld : Server.World)
    (accepted : List UInt8 → Server.AcceptedServerConversation) (config : Server.AccessConfig)
    (delivery : Delivery) (exported : Except GoError ConversationId) :
    let reply := goReply world enablePasswordLogin maxPacketSize exchange streamer
    let events := fun userAgent => (Server.respond rustWorld (accepted userAgent) config).1
    let goClient := fun sends => Go.establishClientConversation
      (fun number userAgent => readResponse (delivery number) (sends userAgent))
      AVAILABLE_CLIENT_VERSIONS
    let rustClient := fun sends => H3.establishClientConversation exported
      ((readResponse (delivery 0) (sends H3.SSH3_VERSION_STRING)).map (·.statusCode))
    ((goClient fun userAgent => goSends (reply userAgent)).requests = [thisVersion] ∧
      ∀ peer, (goClient fun userAgent => goSends (reply userAgent)).result = .ok peer ↔
        (delivery 0).isOk ∧ peer = thisVersion ∧
          ∃ username id, (reply thisVersion.getVersionString).registered = [(username, id)]) ∧
    ((goClient fun userAgent => rustSends (events userAgent)).requests = [thisVersion] ∧
      ∀ peer, (goClient fun userAgent => rustSends (events userAgent)).result = .ok peer ↔
        (delivery 0).isOk ∧ Go.parseVersionString config.serverHeader = .ok peer ∧
          ∃ event ∈ events thisVersion.getVersionString, event.Serves) ∧
    (∀ id, rustClient (fun userAgent => goSends (reply userAgent)) = .ok id ↔
        exported = .ok id ∧ (delivery 0).isOk ∧
          ∃ username id', (reply H3.SSH3_VERSION_STRING).registered = [(username, id')]) ∧
    (∀ id, rustClient (fun userAgent => rustSends (events userAgent)) = .ok id ↔
        exported = .ok id ∧ (delivery 0).isOk ∧
          ∃ event ∈ events H3.SSH3_VERSION_STRING, event.Serves) ∧
    (reply thisVersion.getVersionString).statusCode ≠ some Go.StatusForbidden ∧
      (reply H3.SSH3_VERSION_STRING).statusCode ≠ some Go.StatusForbidden := by
  intro reply events goClient rustClient
  have hthis : Go.parseVersionString thisVersion.getVersionString = .ok thisVersion := by
    decide +kernel
  have hrust : Go.parseVersionString H3.SSH3_VERSION_STRING = .ok rustVersion := by
    decide +kernel
  obtain ⟨hgoOnce, hgoResult⟩ := go_client_asks_once delivery
    (fun userAgent => goSends (reply userAgent))
    fun server => goSends_goReply world enablePasswordLogin maxPacketSize exchange streamer _ _ _
  obtain ⟨hrustOnce, hrustResult⟩ := go_client_asks_once delivery
    (fun userAgent => rustSends (events userAgent))
    fun server hsent => absurd hsent
      ((rustSends_respond rustWorld (accepted thisVersion.getVersionString) config).2.2 server)
  have hregistered := goSends_accepts world enablePasswordLogin maxPacketSize exchange streamer
  refine ⟨⟨hgoOnce, fun peer => ?_⟩, ⟨hrustOnce, fun peer => ?_⟩, fun id => ?_, fun id => ?_,
    ?_, ?_⟩
  · refine (hgoResult peer).trans (and_congr_right fun _ => ?_)
    constructor
    · rintro ⟨server, hsent, hparse⟩
      have hserver := goSends_goReply world enablePasswordLogin maxPacketSize exchange streamer
        _ _ _ hsent
      rw [hserver, hthis] at hparse
      cases hparse
      exact ⟨rfl, (hregistered _).mp ⟨server, hsent⟩⟩
    · rintro ⟨rfl, hone⟩
      obtain ⟨server, hsent⟩ := (hregistered _).mpr hone
      have hserver := goSends_goReply world enablePasswordLogin maxPacketSize exchange streamer
        _ _ _ hsent
      exact ⟨server, hsent, hserver ▸ hthis⟩
  · refine (hrustResult peer).trans (and_congr_right fun _ => ?_)
    obtain ⟨hserves, hheader, -⟩ :=
      rustSends_respond rustWorld (accepted thisVersion.getVersionString) config
    constructor
    · rintro ⟨server, hsent, hparse⟩
      exact ⟨hheader server hsent ▸ hparse, hserves.mpr ⟨server, hsent⟩⟩
    · rintro ⟨hparse, hserved⟩
      obtain ⟨server, hsent⟩ := hserves.mp hserved
      exact ⟨server, hsent, (hheader server hsent).symm ▸ hparse⟩
  · refine rust_client_accepts.trans ?_
    rw [hregistered]
  · refine rust_client_accepts.trans ?_
    rw [(rustSends_respond rustWorld (accepted H3.SSH3_VERSION_STRING) config).1]
  · refine Go.replyTo_not_forbidden world enablePasswordLogin maxPacketSize ?_
      (show Go.isVersionSupported thisVersion by decide)
    rw [get_withUserAgent]
    exact hthis
  · refine Go.replyTo_not_forbidden world enablePasswordLogin maxPacketSize ?_
      (show Go.isVersionSupported rustVersion by decide)
    rw [get_withUserAgent]
    exact hrust

end Ssh3.Interop
