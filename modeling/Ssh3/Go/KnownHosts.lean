/-
  Ssh3.Go.KnownHosts

  `known_hosts.go`, `client/config/config.go` and `getConfigOptions` of `cmd/ssh3.go`: the
  host a client connects to, and the file of the certificates it trusts for its hosts.

  The file has one line for each certificate, with the host, a word and the certificate in
  base64 between blanks.  The host is written as it is, and its path is what net/url
  decoded, so nothing keeps a blank or a line feed out of it.
-/

import Mathlib.Data.List.Basic
import Mathlib.Logic.Function.Basic
import Ssh3.Lib.Words
import Ssh3.Go.StdLib

namespace Ssh3.Go

open Proto (ascii)

/-! ## The host -/

/-- The fields of a `Config` that say where to connect to; `NewConfig` is the only way to make
    one. -/
structure Config where
  username : List UInt8
  hostname : List UInt8
  port : Int
  urlPath : List UInt8
  rooted : urlPath.head? = some 47

def NewConfig (username hostname : List UInt8) (port : Int) (urlPath : List UInt8) : Config :=
  if h : urlPath.head? = some 47 then { username, hostname, port, urlPath, rooted := h }
  else { username, hostname, port, urlPath := 47 :: urlPath, rooted := rfl }

def Config.CanonicalHostFormat (o : Config) : List UInt8 :=
  o.hostname ++ 58 :: (formatInt o.port ++ o.urlPath)

/-- The parts of a parsed `url.URL` that are looked at. -/
structure HostUrl where
  hostname : List UInt8
  port : List UInt8
  /-- `Path`, which is decoded -/
  path : List UInt8
  username : List UInt8
  rawQuery : List UInt8
  deriving DecidableEq, Repr

/-- What `GetConfigForHost` finds in the configuration file; no port is -1. -/
structure ConfigForHost where
  hostname : List UInt8
  port : Int
  user : List UInt8
  urlPath : List UInt8
  deriving DecidableEq, Repr

/-- Why the configuration cannot be used -/
inductive ConfigError where
  | getConfigForHost (text : List UInt8)
  /-- The error of `strconv.Atoi` -/
  | invalidPort (port : List UInt8)
  /-- "no username could be found" -/
  | noUsername
  deriving DecidableEq, Repr

/-- A port in the URL that is a number but too large ends `getConfigOptions` with a nil
    configuration and a nil error. -/
def optionsPort (urlPort : List UInt8) (configPort : Int) : Except ConfigError (Option Int) :=
  if urlPort ≠ [] then
    match atoi urlPort with
    | some parsedPort => .ok (if parsedPort < 0xffff then some parsedPort else none)
    | none => .error (.invalidPort urlPort)
  else if configPort ≠ -1 then .ok (some configPort)
  else .ok (some 443)

/-- `currentUser` is the username of `osuser.Current`. -/
def optionsUsername (hostUrl : HostUrl) (configUser : List UInt8)
    (currentUser : Option (List UInt8)) : List UInt8 :=
  if hostUrl.username ≠ [] then hostUrl.username
  else if queryGet hostUrl.rawQuery (ascii "user") ≠ [] then
    queryGet hostUrl.rawQuery (ascii "user")
  else if configUser ≠ [] then configUser
  else currentUser.getD []

def getConfigOptions (hostUrl : HostUrl) (configForHost : Except (List UInt8) ConfigForHost)
    (currentUser : Option (List UInt8)) : Except ConfigError (Option Config) :=
  match configForHost with
  | .error text => .error (.getConfigForHost text)
  | .ok config =>
    match optionsPort hostUrl.port config.port with
    | .error err => .error err
    | .ok none => .ok none
    | .ok (some port) =>
      let username := optionsUsername hostUrl config.user currentUser
      if username = [] then .error .noUsername
      else
        .ok (some (NewConfig username
          (if config.hostname = [] then hostUrl.hostname else config.hostname) port
          (if hostUrl.path = [] then config.urlPath else hostUrl.path)))

/-! ## The file -/

/-- crypto/x509 -/
structure X509 (Certificate : Type) where
  /-- The bytes a certificate was parsed from -/
  raw : Certificate → List UInt8
  parseCertificate : List UInt8 → Option Certificate
  parse_raw : ∀ cert, parseCertificate (raw cert) = some cert
  parse_nil : parseCertificate [] = none

/-- `map[string][]*x509.Certificate` -/
abbrev KnownHosts (Certificate : Type) := List UInt8 → Option (List Certificate)

section

variable {Certificate : Type} (x509 : X509 Certificate)

/-- The line without its line feed -/
def knownHostLine (host : List UInt8) (cert : Certificate) : List UInt8 :=
  host ++ ascii " x509-certificate " ++ stdEncoding.encode (x509.raw cert)

/-- `AppendKnownHost` on the contents of the file; one that does not exist is created. -/
def AppendKnownHost (file : Option (List UInt8)) (host : List UInt8) (cert : Certificate) :
    Option (List UInt8) :=
  some (file.getD [] ++ (knownHostLine x509 host cert ++ [10]))

/-- The host and the certificate of a valid line. -/
def parseKnownHost (line : List UInt8) : Option (List UInt8 × Certificate) :=
  match Text.words (Text.trim line) with
  | [host, kind, encoded] =>
    if kind ≠ ascii "x509-certificate" then none
    else
      match stdDecodeString encoded with
      | none => none
      | some certBytes => (x509.parseCertificate certBytes).map fun cert => (host, cert)
  | _ => none

/-- `knownHosts[host] = append(knownHosts[host], cert)` -/
def KnownHosts.add (knownHosts : KnownHosts Certificate) (host : List UInt8)
    (cert : Certificate) : KnownHosts Certificate :=
  Function.update knownHosts host (some ((knownHosts host).getD [] ++ [cert]))

/-- The loop over the lines, from the line number `i` on. -/
def parseKnownHostsLoop : Nat → List (List UInt8) → KnownHosts Certificate → List Nat →
    KnownHosts Certificate × List Nat
  | _, [], knownHosts, invalidLines => (knownHosts, invalidLines)
  | i, line :: lines, knownHosts, invalidLines =>
    match parseKnownHost x509 line with
    | some (host, cert) =>
      parseKnownHostsLoop (i + 1) lines (KnownHosts.add knownHosts host cert) invalidLines
    | none => parseKnownHostsLoop (i + 1) lines knownHosts (invalidLines ++ [i])

/-- `ParseKnownHosts` on the contents of the file, if there is one.  That the scanner stopped
    at a line that is too long is not noticed. -/
def ParseKnownHosts (file : Option (List UInt8)) : KnownHosts Certificate × List Nat :=
  match file with
  | none => (fun _ => none, [])
  | some contents => parseKnownHostsLoop x509 0 (scanLines contents).1 (fun _ => none) []

/-- The certificates that `setupQUICConnection` adds to its pool for the host. -/
def trustedCertificates (knownHosts : KnownHosts Certificate) (options : Config) :
    List Certificate :=
  (knownHosts options.CanonicalHostFormat).getD []

/-- The file after these calls of `AppendKnownHost`, from before it existed. -/
def appendKnownHosts (entries : List (Config × Certificate)) : Option (List UInt8) :=
  entries.foldl (fun file entry => AppendKnownHost x509 file entry.1.CanonicalHostFormat entry.2)
    none

end

/-- The certificates that were appended for a host. -/
def certificatesFor {Certificate : Type} (entries : List (Config × Certificate))
    (host : List UInt8) : List Certificate :=
  (entries.filter fun entry => entry.1.CanonicalHostFormat = host).map (·.2)

end Ssh3.Go
