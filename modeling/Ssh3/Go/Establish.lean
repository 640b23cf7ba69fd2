/-
  Ssh3.Go.Establish

  `EstablishClientConversation` of `conversation.go`: the CONNECT request that starts a
  conversation, and the version it is sent again with to a server that is older.

  A server of an old release checks the version of the client exactly and refuses others with
  403.  The client then looks up the version that the server has announced among the versions it
  can pretend to be, and sends the request once more.  The server is anything that answers: the
  answer to a request depends on its number and on the User-Agent in it.
-/

import Ssh3.Go.VersionSpec
import Ssh3.Go.Wire

namespace Ssh3.Go

open Proto (ascii)

/-! ## The client -/

/-- What the client looks at in an `http.Response`. -/
structure HttpResponse where
  statusCode : Nat
  /-- `rsp.Header.Get("Server")`, empty if there is none -/
  server : List UInt8
  contentLength : Int
  body : List UInt8
  deriving DecidableEq, Repr

/-- Why there is no conversation -/
inductive EstablishError where
  /-- The request could not be sent, or its response could not be read. -/
  | transport (err : GoError)
  | invalidSSHVersion (versionString : List UInt8)
  | unauthorized
  | otherHTTPError (hasBody : Bool) (body : List UInt8) (statusCode : Nat)
  deriving DecidableEq, Repr

/-- `Version{}` -/
def Version.zero : Version := ⟨[], ⟨0, 0, []⟩, ⟨[], 0, 0, 0⟩⟩

def doReq (answer : List UInt8 → Except GoError HttpResponse) (version : Version) :
    Except EstablishError (HttpResponse × Version) :=
  match answer version.getVersionString with
  | .error err => .error (.transport err)
  | .ok rsp =>
    match parseVersionString rsp.server with
    | .ok serverVersion => .ok (rsp, serverVersion)
    | .error _ =>
      -- a server of no known version is an error only if it has accepted the request
      if rsp.statusCode = 200 then .error (.invalidSSHVersion rsp.server)
      else .ok (rsp, .zero)

/-- `matchingVersionIndex`: the version of the server itself, or else the first version of its
    protocol. -/
def matchingVersion (supportedVersions : List Version) (serverVersion : Version) :
    Option Version :=
  match exactMatch supportedVersions serverVersion with
  | some index => supportedVersions[index]?
  | none => supportedVersions.find? (·.protocolVersion = serverVersion.protocolVersion)

/-- What is made of the last response; a conversation keeps the version of its peer. -/
def concludeEstablishment (rsp : HttpResponse) (serverVersion : Version) :
    Except EstablishError Version :=
  if rsp.statusCode = 200 then .ok serverVersion
  else if rsp.statusCode = StatusUnauthorized then .error .unauthorized
  else .error (.otherHTTPError (decide (0 < rsp.contentLength)) (rsp.body.take (2 ^ 20))
    rsp.statusCode)

/-- The versions that were announced in the requests, and what the call returned. -/
structure Establishment where
  requests : List Version
  result : Except EstablishError Version
  deriving DecidableEq, Repr

/-- Asks with one version after the other. -/
def establishClientConversation (answer : Nat → List UInt8 → Except GoError HttpResponse)
    (supportedVersions : List Version) : Establishment :=
  match doReq (answer 0) thisVersion with
  | .error err => ⟨[thisVersion], .error err⟩
  | .ok (rsp, serverVersion) =>
    if rsp.statusCode = StatusForbidden ∧
        serverVersion.protocolVersion ≠ thisVersion.protocolVersion then
      match matchingVersion supportedVersions serverVersion with
      | none => ⟨[thisVersion], concludeEstablishment rsp serverVersion⟩
      | some version =>
        match doReq (answer 1) version with
        | .error err => ⟨[thisVersion, version], .error err⟩
        | .ok (rsp, serverVersion) =>
          ⟨[thisVersion, version], concludeEstablishment rsp serverVersion⟩
    else ⟨[thisVersion], concludeEstablishment rsp serverVersion⟩

/-! ## One request -/

/-- A server that accepts the request and says which version it runs. -/
def AcceptsAs (answer : List UInt8 → Except GoError HttpResponse) (version peer : Version) :
    Prop :=
  ∃ rsp, answer version.getVersionString = .ok rsp ∧ rsp.statusCode = 200 ∧
    parseVersionString rsp.server = .ok peer

/-- A server that refuses the version and says which version it runs. -/
def RefusesAs (answer : List UInt8 → Except GoError HttpResponse) (version peer : Version) :
    Prop :=
  ∃ rsp, answer version.getVersionString = .ok rsp ∧ rsp.statusCode = StatusForbidden ∧
    parseVersionString rsp.server = .ok peer

section

variable {answer : List UInt8 → Except GoError HttpResponse} {version : Version}

variable {rsp : HttpResponse} {serverVersion : Version}

theorem doReq_eq_ok (h : doReq answer version = .ok (rsp, serverVersion)) :
    answer version.getVersionString = .ok rsp ∧
      (parseVersionString rsp.server = .ok serverVersion ∨
        serverVersion = .zero ∧ rsp.statusCode ≠ 200) := by
  unfold doReq at h
  cases hanswer : answer version.getVersionString with
  | error err =>
    rw [hanswer] at h
    cases h
  | ok response =>
    simp only [hanswer] at h
    cases hparse : parseVersionString response.server with
    | ok parsed =>
      simp only [hparse] at h
      cases h
      exact ⟨rfl, .inl hparse⟩
    | error err =>
      simp only [hparse] at h
      by_cases hstatus : response.statusCode = 200
      · rw [if_pos hstatus] at h
        cases h
      · rw [if_neg hstatus] at h
        cases h
        exact ⟨rfl, .inr ⟨rfl, hstatus⟩⟩

theorem doReq_of_parsed (hanswer : answer version.getVersionString = .ok rsp)
    (hparse : parseVersionString rsp.server = .ok serverVersion) :
    doReq answer version = .ok (rsp, serverVersion) := by
  unfold doReq
  simp only [hanswer, hparse]

theorem concludeEstablishment_eq_ok {peer : Version} :
    concludeEstablishment rsp serverVersion = .ok peer ↔
      rsp.statusCode = 200 ∧ serverVersion = peer := by
  unfold concludeEstablishment
  by_cases hok : rsp.statusCode = 200
  · rw [if_pos hok, Except.ok.injEq]
    exact ⟨fun h => ⟨hok, h⟩, fun h => h.2⟩
  · rw [if_neg hok]
    constructor
    · intro h
      split at h
      · cases h
      · cases h
    · exact fun h => absurd h.1 hok

/-- A request that was answered leads to a conversation if and only if it was accepted. -/
theorem concludeEstablishment_of_doReq {peer : Version}
    (h : doReq answer version = .ok (rsp, serverVersion)) :
    concludeEstablishment rsp serverVersion = .ok peer ↔ AcceptsAs answer version peer := by
  obtain ⟨hanswer, hversion⟩ := doReq_eq_ok h
  rw [concludeEstablishment_eq_ok]
  constructor
  · rintro ⟨hstatus, rfl⟩
    obtain hparse | ⟨-, hrefused⟩ := hversion
    · exact ⟨rsp, hanswer, hstatus, hparse⟩
    · exact absurd hstatus hrefused
  · rintro ⟨rsp', hanswer', hstatus, hparse⟩
    cases hanswer.symm.trans hanswer'
    have hsame := doReq_of_parsed hanswer hparse
    rw [h, Except.ok.injEq, Prod.mk.injEq] at hsame
    exact ⟨hstatus, hsame.2⟩

theorem not_acceptsAs_of_doReq {err : EstablishError} (h : doReq answer version = .error err)
    (peer : Version) : ¬AcceptsAs answer version peer := by
  rintro ⟨rsp, hanswer, -, hparse⟩
  rw [doReq_of_parsed hanswer hparse] at h
  cases h

end

/-! ## The version of the second request -/

variable {v : Version}

/-- A version is looked up exactly first. -/
theorem matchingVersion_of_mem {supportedVersions : List Version}
    (h : v ∈ supportedVersions) : matchingVersion supportedVersions v = some v := by
  unfold matchingVersion exactMatch
  cases hindex : supportedVersions.findIdx? (· = v) with
  | none =>
    rw [List.findIdx?_eq_none_iff] at hindex
    exact absurd (hindex v h) (by simp)
  | some index =>
    simp only
    obtain ⟨hlt, hfound, -⟩ := List.findIdx?_eq_some_iff_getElem.mp hindex
    rw [List.getElem?_eq_getElem hlt, of_decide_eq_true hfound]

theorem matchingVersion_of_not_mem {supportedVersions : List Version} (h : v ∉ supportedVersions) :
    matchingVersion supportedVersions v =
      supportedVersions.find? (·.protocolVersion = v.protocolVersion) := by
  have hnone : exactMatch supportedVersions v = none := by
    unfold exactMatch
    rw [List.findIdx?_eq_none_iff]
    intro supported hmem
    exact decide_eq_false fun heq => h (heq ▸ hmem)
  unfold matchingVersion
  rw [hnone]

/-- The oldest protocol, which had no spec version -/
def legacyProtocol : ProtocolVersion := ⟨3, 0, []⟩

/-- The release a server of the oldest protocol is met with if its own is unknown -/
def legacyVersion : Version :=
  ⟨ascii "SSH", legacyProtocol, ⟨SOFTWARE_IMPLEMENTATION_NAME, 0, 1, 5⟩⟩

theorem protocolVersion_of_mem_available (h : v ∈ AVAILABLE_CLIENT_VERSIONS) :
    v = thisVersion ∨ v.protocolVersion = legacyProtocol := by
  simp only [AVAILABLE_CLIENT_VERSIONS, List.mem_cons, List.not_mem_nil, or_false] at h
  obtain rfl | rfl | rfl | rfl := h
  · exact .inl rfl
  · exact .inr rfl
  · exact .inr rfl
  · exact .inr rfl

theorem legacyProtocol_ne : legacyProtocol ≠ thisVersion.protocolVersion := by
  decide

/-- The version to send the request again with: a server of another protocol is met only if that
    is the oldest one, with its own release if the client knows it. -/
def retryVersion (serverVersion : Version) : Option Version :=
  if serverVersion.protocolVersion = legacyProtocol then
    some (if serverVersion ∈ AVAILABLE_CLIENT_VERSIONS then serverVersion else legacyVersion)
  else none

theorem matchingVersion_available (h : v.protocolVersion ≠ thisVersion.protocolVersion) :
    matchingVersion AVAILABLE_CLIENT_VERSIONS v = retryVersion v := by
  unfold retryVersion
  by_cases hmem : v ∈ AVAILABLE_CLIENT_VERSIONS
  · have hlegacy : v.protocolVersion = legacyProtocol := by
      obtain hthis | hlegacy := protocolVersion_of_mem_available hmem
      · exact absurd (congrArg Version.protocolVersion hthis) h
      · exact hlegacy
    rw [matchingVersion_of_mem hmem, if_pos hlegacy, if_pos hmem]
  · rw [matchingVersion_of_not_mem hmem]
    by_cases hlegacy : v.protocolVersion = legacyProtocol
    · rw [if_pos hlegacy, if_neg hmem, hlegacy]
      decide
    · rw [if_neg hlegacy, List.find?_eq_none]
      intro supported hsupported
      rw [decide_eq_true_iff]
      intro heq
      obtain rfl | hsupportedLegacy := protocolVersion_of_mem_available hsupported
      · exact h heq.symm
      · exact hlegacy (heq.symm.trans hsupportedLegacy)

/-! ## The whole call -/

/-- The request is sent again exactly if the server refused this version and announced one of the
    oldest protocol. -/
def Retries (answer : Nat → List UInt8 → Except GoError HttpResponse) (version : Version) : Prop :=
  ∃ announced, RefusesAs (answer 0) thisVersion announced ∧ retryVersion announced = some version

theorem retryVersion_eq_some {announced version : Version}
    (h : retryVersion announced = some version) :
    announced.protocolVersion = legacyProtocol ∧
      version = if announced ∈ AVAILABLE_CLIENT_VERSIONS then announced else legacyVersion := by
  unfold retryVersion at h
  by_cases hlegacy : announced.protocolVersion = legacyProtocol
  · rw [if_pos hlegacy, Option.some.injEq] at h
    exact ⟨hlegacy, h.symm⟩
  · rw [if_neg hlegacy] at h
    cases h

/-- What the client does, by what it has got for its first request. -/
theorem establishClientConversation_cases
    (answer : Nat → List UInt8 → Except GoError HttpResponse) :
    let establishment := establishClientConversation answer AVAILABLE_CLIENT_VERSIONS
    (∃ version, Retries answer version ∧ establishment.requests = [thisVersion, version] ∧
      ∀ peer, establishment.result = .ok peer ↔ AcceptsAs (answer 1) version peer) ∨
    (∀ version, ¬Retries answer version) ∧ establishment.requests = [thisVersion] ∧
      ∀ peer, establishment.result = .ok peer ↔ AcceptsAs (answer 0) thisVersion peer := by
  intro establishment
  cases hfirst : doReq (answer 0) thisVersion with
  | error err =>
    have heq : establishment = ⟨[thisVersion], .error err⟩ := by
      simp only [establishment, establishClientConversation, hfirst]
    refine .inr ⟨?_, by rw [heq], fun peer => ?_⟩
    · -- a response with a version would have been returned
      rintro version ⟨announced, ⟨rsp, hanswer, -, hparse⟩, -⟩
      rw [doReq_of_parsed hanswer hparse] at hfirst
      cases hfirst
    · have hnot := not_acceptsAs_of_doReq hfirst peer
      rw [heq]
      exact ⟨fun h => (by cases h), fun h => absurd h hnot⟩
  | ok response =>
    obtain ⟨rsp, serverVersion⟩ := response
    obtain ⟨hanswer, hversion⟩ := doReq_eq_ok hfirst
    have hone : establishment = ⟨[thisVersion], concludeEstablishment rsp serverVersion⟩ →
        ∀ peer, establishment.result = .ok peer ↔ AcceptsAs (answer 0) thisVersion peer := by
      intro heq peer
      rw [heq]
      exact concludeEstablishment_of_doReq hfirst
    -- the version in the response is the one that the decision is made on
    have hannounced : ∀ version, Retries answer version →
        rsp.statusCode = StatusForbidden ∧ retryVersion serverVersion = some version := by
      rintro version ⟨announced, ⟨rsp', hanswer', hstatus, hparse⟩, hretry⟩
      cases hanswer.symm.trans hanswer'
      have hsame := doReq_of_parsed hanswer hparse
      rw [hfirst, Except.ok.injEq, Prod.mk.injEq] at hsame
      exact ⟨hstatus, hsame.2 ▸ hretry⟩
    by_cases hrefused : rsp.statusCode = StatusForbidden ∧
        serverVersion.protocolVersion ≠ thisVersion.protocolVersion
    · cases hretry : retryVersion serverVersion with
      | none =>
        have heq : establishment = ⟨[thisVersion], concludeEstablishment rsp serverVersion⟩ := by
          simp only [establishment, establishClientConversation, hfirst, if_pos hrefused,
            matchingVersion_available hrefused.2, hretry]
        refine .inr ⟨fun version hretries => ?_, by rw [heq], hone heq⟩
        have hsome := (hannounced version hretries).2
        rw [hretry] at hsome
        cases hsome
      | some version =>
        -- a version that could not be parsed is of no protocol
        have hparse : parseVersionString rsp.server = .ok serverVersion := by
          obtain hparse | ⟨rfl, -⟩ := hversion
          · exact hparse
          · have hlegacy := (retryVersion_eq_some hretry).1
            exact absurd hlegacy (by decide)
        refine .inl ⟨version, ⟨serverVersion, ⟨rsp, hanswer, hrefused.1, hparse⟩, hretry⟩, ?_⟩
        cases hsecond : doReq (answer 1) version with
        | error err =>
          have heq : establishment = ⟨[thisVersion, version], .error err⟩ := by
            simp only [establishment, establishClientConversation, hfirst, if_pos hrefused,
              matchingVersion_available hrefused.2, hretry, hsecond]
          refine ⟨by rw [heq], fun peer => ?_⟩
          have hnot := not_acceptsAs_of_doReq hsecond peer
          rw [heq]
          exact ⟨fun h => (by cases h), fun h => absurd h hnot⟩
        | ok last =>
          obtain ⟨rsp', serverVersion'⟩ := last
          have heq : establishment =
              ⟨[thisVersion, version], concludeEstablishment rsp' serverVersion'⟩ := by
            simp only [establishment, establishClientConversation, hfirst, if_pos hrefused,
              matchingVersion_available hrefused.2, hretry, hsecond]
          refine ⟨by rw [heq], fun peer => ?_⟩
          rw [heq]
          exact concludeEstablishment_of_doReq hsecond
    · have heq : establishment = ⟨[thisVersion], concludeEstablishment rsp serverVersion⟩ := by
        simp only [establishment, establishClientConversation, hfirst, if_neg hrefused]
      refine .inr ⟨fun version hretries => ?_, by rw [heq], hone heq⟩
      obtain ⟨hstatus, hretry⟩ := hannounced version hretries
      have hlegacy := (retryVersion_eq_some hretry).1
      exact hrefused ⟨hstatus, hlegacy ▸ legacyProtocol_ne⟩

/-- An old release is met as itself. -/
theorem retryVersion_available (hmem : v ∈ AVAILABLE_CLIENT_VERSIONS)
    (hother : v ≠ thisVersion) : retryVersion v = some v := by
  obtain hthis | hlegacy := protocolVersion_of_mem_available hmem
  · exact absurd hthis hother
  · unfold retryVersion
    rw [if_pos hlegacy, if_pos hmem]

/-- The client sends one request, or two.  It sends the second exactly if the first was refused by
    a server that announced a version of the oldest protocol, and it sends it as that very release
    if it knows it.  There is a conversation if and only if the last request was accepted by a
    server that announces its version.  A server of any release that the client knows, which
    refuses the newer version, is asked again as itself, and accepts. -/
theorem establishment_negotiates (answer : Nat → List UInt8 → Except GoError HttpResponse) :
    let establishment := establishClientConversation answer AVAILABLE_CLIENT_VERSIONS
    (∀ version, establishment.requests = [thisVersion, version] ↔ Retries answer version) ∧
    (establishment.requests = [thisVersion] ↔ ∀ version, ¬Retries answer version) ∧
    (∀ peer, establishment.result = .ok peer ↔ ∃ number version,
      number + 1 = establishment.requests.length ∧
      establishment.requests[number]? = some version ∧ AcceptsAs (answer number) version peer) ∧
    ∀ release ∈ AVAILABLE_CLIENT_VERSIONS, release ≠ thisVersion →
      RefusesAs (answer 0) thisVersion release → AcceptsAs (answer 1) release release →
      establishment = ⟨[thisVersion, release], .ok release⟩ := by
  intro establishment
  have hcases := establishClientConversation_cases answer
  have hreach : ∀ release ∈ AVAILABLE_CLIENT_VERSIONS, release ≠ thisVersion →
      RefusesAs (answer 0) thisVersion release → Retries answer release := by
    intro release hmem hother hrefuses
    exact ⟨release, hrefuses, retryVersion_available hmem hother⟩
  obtain ⟨version, hretries, hrequests, hresult⟩ | ⟨hnone, hrequests, hresult⟩ := hcases
  · have hunique : ∀ version', Retries answer version' → version' = version := by
      rintro version' ⟨announced', ⟨rsp', hanswer', -, hparse'⟩, hretry'⟩
      obtain ⟨announced, ⟨rsp, hanswer, -, hparse⟩, hretry⟩ := hretries
      cases hanswer.symm.trans hanswer'
      cases hparse.symm.trans hparse'
      exact Option.some.inj (hretry'.symm.trans hretry)
    refine ⟨fun version' => ?_, ?_, fun peer => ?_, ?_⟩
    · rw [hrequests]
      constructor
      · intro heq
        cases heq
        exact hretries
      · intro hretries'
        rw [hunique version' hretries']
    · rw [hrequests]
      constructor
      · intro heq
        cases heq
      · exact fun hnone => absurd hretries (hnone version)
    · rw [hresult, hrequests]
      constructor
      · exact fun haccepts => ⟨1, version, rfl, rfl, haccepts⟩
      · rintro ⟨number, version', hlast, hversion, haccepts⟩
        cases hlast
        cases hversion
        exact haccepts
    · intro release hmem hother hrefuses haccepts
      have hversion := hunique release (hreach release hmem hother hrefuses)
      have hok : establishment.result = .ok release := (hresult release).mpr (hversion ▸ haccepts)
      calc establishment = ⟨establishment.requests, establishment.result⟩ := rfl
        _ = ⟨[thisVersion, release], .ok release⟩ := by rw [hrequests, hok, hversion]
  · refine ⟨fun version => ?_, ?_, fun peer => ?_, ?_⟩
    · rw [hrequests]
      constructor
      · intro heq
        cases heq
      · exact fun hretries => absurd hretries (hnone version)
    · exact ⟨fun _ => hnone, fun _ => hrequests⟩
    · rw [hresult, hrequests]
      constructor
      · exact fun haccepts => ⟨0, thisVersion, rfl, rfl, haccepts⟩
      · rintro ⟨number, version', hlast, hversion, haccepts⟩
        cases hlast
        cases hversion
        exact haccepts
    · intro release hmem hother hrefuses haccepts
      exact absurd (hreach release hmem hother hrefuses) (hnone release)

/-- Release 0.1.4, whose servers serve their own release and refuse the others -/
def oldRelease : Version := ⟨ascii "SSH", legacyProtocol, ⟨SOFTWARE_IMPLEMENTATION_NAME, 0, 1, 4⟩⟩

def oldServer (_ : Nat) (userAgent : List UInt8) : Except GoError HttpResponse :=
  .ok ⟨if userAgent = oldRelease.getVersionString then 200 else StatusForbidden,
    oldRelease.getVersionString, -1, []⟩

theorem establishment_negotiates_old :
    establishClientConversation oldServer AVAILABLE_CLIENT_VERSIONS =
      ⟨[thisVersion, oldRelease], .ok oldRelease⟩ := by
  have hparse : parseVersionString oldRelease.getVersionString = .ok oldRelease := by
    decide +kernel
  refine (establishment_negotiates oldServer).2.2.2 oldRelease (by decide) (by decide) ?_ ?_
  · exact ⟨_, rfl, by decide +kernel, hparse⟩
  · exact ⟨_, rfl, by decide +kernel, hparse⟩

end Ssh3.Go
