/-
  Ssh3.Go.Version

  `version.go`: the version string a client sends as its User-Agent, and which
  versions the server supports.
-/

import Ssh3.Go.StdLib

namespace Ssh3.Go

open Proto (ascii)

def PROTOCOL_MAJOR : Int := 3
def PROTOCOL_MINOR : Int := 0
def PROTOCOL_EXPERIMENTAL_SPEC_VERSION : List UInt8 := ascii "alpha-00"

def SOFTWARE_IMPLEMENTATION_NAME : List UInt8 := ascii "francoismichel/ssh3"
def SOFTWARE_MAJOR : Int := 0
def SOFTWARE_MINOR : Int := 1
def SOFTWARE_PATCH : Int := 7

/-- The implementation and its version -/
structure SoftwareVersion where
  implementationName : List UInt8
  major : Int
  minor : Int
  patch : Int
  deriving DecidableEq, Repr

/-- The version of the protocol -/
structure ProtocolVersion where
  major : Int
  minor : Int
  experimentalSpecVersion : List UInt8
  deriving DecidableEq, Repr

/-- What the two sides announce to each other -/
structure Version where
  protocolName : List UInt8
  protocolVersion : ProtocolVersion
  softwareVersion : SoftwareVersion
  deriving DecidableEq, Repr

/-- Why a text is no version -/
inductive VersionError where
  | invalidSSHVersion (versionString : List UInt8)
  | invalidProtocolVersion (versionString : List UInt8)
  | invalidSoftwareVersion (versionString : List UInt8)
  deriving DecidableEq, Repr

def thisVersion : Version where
  protocolName := ascii "SSH"
  protocolVersion := ⟨PROTOCOL_MAJOR, PROTOCOL_MINOR, PROTOCOL_EXPERIMENTAL_SPEC_VERSION⟩
  softwareVersion := ⟨SOFTWARE_IMPLEMENTATION_NAME, SOFTWARE_MAJOR, SOFTWARE_MINOR, SOFTWARE_PATCH⟩

/-- What the client can pretend to be, this version first -/
def AVAILABLE_CLIENT_VERSIONS : List Version :=
  [thisVersion,
    ⟨ascii "SSH", ⟨3, 0, []⟩, ⟨SOFTWARE_IMPLEMENTATION_NAME, 0, 1, 5⟩⟩,
    ⟨ascii "SSH", ⟨3, 0, []⟩, ⟨SOFTWARE_IMPLEMENTATION_NAME, 0, 1, 4⟩⟩,
    ⟨ascii "SSH", ⟨3, 0, []⟩, ⟨SOFTWARE_IMPLEMENTATION_NAME, 0, 1, 3⟩⟩]

/-- The legacy versions without a spec version are those of this implementation before 0.1.6. -/
def isVersionSupported (other : Version) : Bool :=
  let this := thisVersion
  if other.protocolVersion.major ≠ this.protocolVersion.major ∨
      other.protocolVersion.minor ≠ this.protocolVersion.minor then false
  else if other.protocolVersion.experimentalSpecVersion = [] ∧
      other.softwareVersion.implementationName = ascii "francoismichel/ssh3" ∧
      other.softwareVersion.major = 0 ∧ other.softwareVersion.minor = 1 ∧
      other.softwareVersion.patch ≤ 5 then
    decide (other.softwareVersion.patch ≥ 3)
  else decide (other.protocolVersion.experimentalSpecVersion = ascii "alpha-00")

def parseSoftwareVersion (implementationName versionString : List UInt8) :
    Except VersionError SoftwareVersion :=
  match versionString.splitOn 46 with
  | [major, minor, patch] =>
    match atoi major, atoi minor, atoi patch with
    | some major, some minor, some patch => .ok { implementationName, major, minor, patch }
    | _, _, _ => .error (.invalidSoftwareVersion versionString)
  | _ => .error (.invalidSoftwareVersion versionString)

/-- `major + "." + minor` of a protocol version; the error names the whole string. -/
def parseMajorMinor (versionString field : List UInt8) : Except VersionError (Int × Int) :=
  match field.splitOn 46 with
  | [major, minor] =>
    match atoi major, atoi minor with
    | some major, some minor => .ok (major, minor)
    | _, _ => .error (.invalidSSHVersion versionString)
  | _ => .error (.invalidProtocolVersion versionString)

def parseProtocolVersion (versionString : List UInt8) : Except VersionError ProtocolVersion :=
  match versionString.splitOn 95 with
  | [field] => do
    let (major, minor) ← parseMajorMinor versionString field
    return ⟨major, minor, []⟩
  | [field, experimentalSpecVersion] => do
    let (major, minor) ← parseMajorMinor versionString field
    return ⟨major, minor, experimentalSpecVersion⟩
  | _ => .error (.invalidProtocolVersion versionString)

def ProtocolVersion.string (v : ProtocolVersion) : List UInt8 :=
  let ret := formatInt v.major ++ ascii "." ++ formatInt v.minor
  if v.experimentalSpecVersion = [] then ret
  else ret ++ ascii "_" ++ v.experimentalSpecVersion

def Version.getVersionString (v : Version) : List UInt8 :=
  let ret := v.protocolName ++ ascii " " ++ formatInt v.protocolVersion.major ++ ascii "." ++
    formatInt v.protocolVersion.minor ++ ascii " " ++ v.softwareVersion.implementationName ++
    ascii " " ++ formatInt v.softwareVersion.major ++ ascii "." ++
    formatInt v.softwareVersion.minor ++ ascii "." ++ formatInt v.softwareVersion.patch
  if v.protocolVersion.experimentalSpecVersion = [] then ret
  else ret ++ ascii " experimental_spec_version=" ++ v.protocolVersion.experimentalSpecVersion

/-- A custom version field, which can announce a spec version. -/
def applyVersionField (protocolVersion : ProtocolVersion) (field : List UInt8) : ProtocolVersion :=
  match field.splitOn 61 with
  | [name, value] =>
    if name = ascii "experimental_spec_version" then
      { protocolVersion with experimentalSpecVersion := value }
    else protocolVersion
  | _ => protocolVersion

/-- `SSH <protocol> <implementation> <software> <fields>` -/
def parseVersionString (versionString : List UInt8) : Except VersionError Version :=
  match Text.words versionString with
  | protocolName :: protocol :: implementationName :: software :: fields => do
    let protocolVersion ← parseProtocolVersion protocol
    let softwareVersion ← parseSoftwareVersion implementationName software
    return { protocolName, protocolVersion := fields.foldl applyVersionField protocolVersion,
             softwareVersion }
  | _ => .error (.invalidSSHVersion versionString)

end Ssh3.Go
