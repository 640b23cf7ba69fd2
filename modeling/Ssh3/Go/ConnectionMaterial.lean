/-
  Ssh3.Go.ConnectionMaterial

  `GetConfigForHost` of `client_auth.go`, and `getConfigOptions` and
  `getConnectionMaterialFromURL` of `cmd/ssh3.go`: what a client connects to and authenticates
  with, from its URL, its configuration file and its command line.

  The port is the one of the URL, of the file, or 443.  A port of the URL that is a number, but
  not below 65535, makes `getConfigOptions` return nil and the nil error of `strconv.Atoi`, and
  `getConnectionMaterialFromURL` takes the absence of an error for a configuration.
-/

import Ssh3.Go.KnownHosts
import Ssh3.Go.Wire

namespace Ssh3.Go.ConnectionMaterial

open Proto (ascii)

/-- A `*ssh_config.Config` -/
structure SshConfig where
  get : List UInt8 → List UInt8 → Except (List UInt8) (List UInt8)
  /-- `GetAll`, which can return nil -/
  getAll : List UInt8 → List UInt8 → Except (List UInt8) (Option (List (List UInt8)))

/-- A `client_config.OptionParser` -/
structure OptionParser (Opt : Type) where
  optionConfigName : List UInt8
  parse : List (List UInt8) → Except (List UInt8) Opt

/-- `map[client_config.OptionName]client_config.Option` -/
abbrev Options (Opt : Type) := List UInt8 → Option Opt

/-- The options of the command line take the place of those in the file. -/
def Options.override {Opt : Type} (options : Options Opt) (cliOptions : List (List UInt8 × Opt)) :
    Options Opt :=
  cliOptions.foldl (fun options option => Function.update options option.1 (some option.2)) options

/-- Where the client runs. -/
structure ClientEnv (Method Agent : Type) where
  /-- The username of `osuser.Current` -/
  currentUser : Option (List UInt8)
  /-- `os.Getenv("SSH_AUTH_SOCK")` -/
  sshAuthSock : List UInt8
  /-- `net.Dial` of a unix socket, with the client of the agent behind it -/
  dial : List UInt8 → Except (List UInt8) Agent
  /-- `NewPrivkeyFileAuthMethod`, which expands the home directory -/
  newPrivkeyFileAuthMethod : List UInt8 → Method

/-- All that `GetConfigForHost` finds. -/
structure FoundConfig (Method Opt : Type) extends ConfigForHost where
  authMethodsToTry : List Method
  pluginOptions : Options Opt

/-- A `Config` with all its fields. -/
structure ClientConfig (Method Opt : Type) extends Config where
  authMethods : List Method
  options : Options Opt

/-- Why there is no connection material -/
inductive MaterialError where
  /-- "could not apply config to %s: %s" -/
  | applyConfig (err : ConfigError)
  /-- "failed to open SSH_AUTH_SOCK: %s" -/
  | openAuthSock (text : List UInt8)
  deriving DecidableEq, Repr

section Client

variable {Method Agent Opt : Type} (env : ClientEnv Method Agent)

/-- `util.InvalidConfig` -/
def invalidConfig (field value : List UInt8) : List UInt8 :=
  ascii "Invalid " ++ field ++ ascii " config field: \"" ++ value ++ ascii "\""

/-- The loop over the option parsers, in the order the map gives them. -/
def parseOptions (config : SshConfig) (host : List UInt8) :
    List (List UInt8 × OptionParser Opt) → Options Opt → Except (List UInt8) (Options Opt)
  | [], pluginOptions => return pluginOptions
  | (optionName, optionParser) :: rest, pluginOptions => do
    match ← config.getAll host optionParser.optionConfigName with
    | none => parseOptions config host rest pluginOptions
    | some optionValues =>
      let option ← optionParser.parse optionValues
      parseOptions config host rest (Function.update pluginOptions optionName (some option))

/-- A port in the file that is not a number is no port. -/
def GetConfigForHost (host : List UInt8) (config : Option SshConfig)
    (pluginsOptionsParsers : List (List UInt8 × OptionParser Opt)) :
    Except (List UInt8) (FoundConfig Method Opt) :=
  match config with
  | none =>
    return { hostname := [], port := -1, user := [], urlPath := [], authMethodsToTry := []
             pluginOptions := fun _ => none }
  | some config => do
    let hostname ← config.get host (ascii "HostName")
    let portStr ← config.get host (ascii "Port")
    let user ← config.get host (ascii "User")
    let urlPath ← config.get host (ascii "URLPath")
    if urlPath ≠ [] ∧ urlPath.head? ≠ some 47 then
      throw (invalidConfig (ascii "URLPath") urlPath)
    -- the error of `strconv.Atoi` on the port is overwritten by the one of this call
    let identityFiles ← config.getAll host (ascii "IdentityFile")
    let pluginOptions ← parseOptions config host pluginsOptionsParsers fun _ => none
    return { hostname, port := (atoi portStr).getD (-1), user, urlPath
             authMethodsToTry := (identityFiles.getD []).map env.newPrivkeyFileAuthMethod
             pluginOptions }

/-- `getConfigOptions` with the authentication methods and the options of its result -/
def getConfigOptions (hostUrl : HostUrl) (sshConfig : Option SshConfig)
    (optionParsers : List (List UInt8 × OptionParser Opt)) :
    Except ConfigError (Option (ClientConfig Method Opt)) :=
  match GetConfigForHost env hostUrl.hostname sshConfig optionParsers with
  | .error text => .error (.getConfigForHost text)
  | .ok found =>
    (Go.getConfigOptions hostUrl (.ok found.toConfigForHost) env.currentUser).map
      (Option.map fun config =>
        { config with authMethods := found.authMethodsToTry, options := found.pluginOptions })

/-- The client of the agent, if there is an SSH_AUTH_SOCK -/
def openAgent : Except (List UInt8) (Option Agent) :=
  if env.sshAuthSock ≠ [] then (env.dial env.sshAuthSock).map some else return none

/-- The options and the methods to log in with -/
def getConnectionMaterialFromURL (hostUrl : HostUrl) (sshConfig : Option SshConfig)
    (cliAuthMethods : List Method) (cliOptions : List (List UInt8 × Opt))
    (optionParsers : List (List UInt8 × OptionParser Opt)) :
    Except GoPanic (Except MaterialError (Option Agent × ClientConfig Method Opt)) :=
  match getConfigOptions env hostUrl sshConfig optionParsers with
  | .error err => return .error (.applyConfig err)
  | .ok configOptions =>
    match openAgent env with
    | .error text => return .error (.openAuthSock text)
    | .ok agentClient =>
      match configOptions with
      | none => throw .nilDereference -- configOptions.AuthMethods()
      | some config =>
        return .ok (agentClient,
          { NewConfig config.username config.hostname config.port config.urlPath with
            authMethods := cliAuthMethods ++ config.authMethods
            options := Options.override config.options cliOptions })

end Client

/-! ## Usable ports -/

/-- The port of the URL is not what is wrong, and it is used. -/
def Uses {Method Opt : Type} (port : Int) :
    Except ConfigError (Option (ClientConfig Method Opt)) → Prop
  | .ok (some config) => config.port = port
  | .ok none => False
  | .error (.invalidPort _) => False
  | .error (.getConfigForHost _) => True
  | .error .noUsername => True

section Spec

variable {Method Agent Opt : Type} (env : ClientEnv Method Agent) (hostUrl : HostUrl)
  (sshConfig : Option SshConfig) (cliAuthMethods : List Method)
  (cliOptions : List (List UInt8 × Opt))
  (optionParsers : List (List UInt8 × OptionParser Opt))

/-- Every port that comes out is in range, a port in range of the URL is used, and nothing is
    nil. -/
structure UsablePort : Prop where
  usable : ∀ result, getConfigOptions env hostUrl sshConfig optionParsers = .ok result →
    ∃ config, result = some config ∧ 1 ≤ config.port ∧ config.port ≤ 65535
  accepted : ∀ port, atoi hostUrl.port = some port → 1 ≤ port → port ≤ 65535 →
    Uses port (getConfigOptions env hostUrl sshConfig optionParsers)
  noNil : getConnectionMaterialFromURL env hostUrl sshConfig cliAuthMethods cliOptions
    optionParsers ≠ .error .nilDereference

/-- The URL has a port that is no number or below 65535, or the file has a port in range or
    none; without a username there is an error before a port that is too small is used. -/
def GoodPort (found : ConfigForHost) (username : List UInt8) : Prop :=
  if hostUrl.port ≠ [] then
    ∀ port, atoi hostUrl.port = some port → port < 65535 ∧ (1 ≤ port ∨ username = [])
  else
    found.port = -1 ∨ (1 ≤ found.port ∧ found.port ≤ 65535) ∨ username = []

end Spec

section

variable {Method Agent Opt : Type} {env : ClientEnv Method Agent} {hostUrl : HostUrl}
  {sshConfig : Option SshConfig} {cliAuthMethods : List Method}
  {cliOptions : List (List UInt8 × Opt)}
  {optionParsers : List (List UInt8 × OptionParser Opt)} {found : FoundConfig Method Opt}

theorem port_newConfig (username hostname urlPath : List UInt8) (port : Int) :
    (NewConfig username hostname port urlPath).port = port := by
  rw [NewConfig]
  split
  · rfl
  · rfl

theorem goodPort_iff {found : ConfigForHost} {username : List UInt8} :
    GoodPort hostUrl found username ↔
      ∀ port?, optionsPort hostUrl.port found.port = .ok port? →
        ∃ port, port? = some port ∧ (username = [] ∨ 1 ≤ port ∧ port ≤ 65535) := by
  rw [GoodPort, optionsPort]
  by_cases hurl : hostUrl.port ≠ []
  · -- the port of the URL, which is used if it is below 65535
    rw [if_pos hurl, if_pos hurl]
    cases atoi hostUrl.port with
    | none => exact iff_of_true (fun _ h => by cases h) (fun _ h => by cases h)
    | some port =>
      constructor
      · intro hgood port? hport
        obtain ⟨hlt, hpos⟩ := hgood port rfl
        cases hport
        rw [if_pos hlt]
        exact ⟨port, rfl, hpos.symm.imp_right fun hpos => ⟨hpos, by omega⟩⟩
      · rintro hgood _ ⟨⟩
        obtain ⟨used, hused, hrange⟩ := hgood _ rfl
        split at hused
        case isTrue hlt =>
          cases hused
          exact ⟨hlt, hrange.symm.imp_left And.left⟩
        case isFalse => cases hused
  · -- the port of the file, or 443
    rw [if_neg hurl, if_neg hurl]
    by_cases hconfig : found.port ≠ -1
    · rw [if_pos hconfig]
      constructor
      · rintro (hnone | hgood) _ ⟨⟩
        · exact absurd hnone hconfig
        · exact ⟨found.port, rfl, hgood.symm⟩
      · intro hgood
        obtain ⟨port, hport, hrange⟩ := hgood _ rfl
        cases hport
        exact .inr hrange.symm
    · rw [if_neg hconfig]
      refine iff_of_true (.inl (not_not.mp hconfig)) ?_
      rintro _ ⟨⟩
      exact ⟨443, rfl, .inr (by decide)⟩

theorem optionsPort_of_atoi {urlPort : List UInt8} {configPort port : Int}
    (h : atoi urlPort = some port) :
    optionsPort urlPort configPort = .ok (if port < 0xffff then some port else none) := by
  have hne : urlPort ≠ [] := by
    rintro rfl
    cases h
  rw [optionsPort, if_pos hne, h]

theorem optionsPort_eq_error {urlPort : List UInt8} {configPort : Int} {err : ConfigError}
    (h : optionsPort urlPort configPort = .error err) :
    err = .invalidPort urlPort ∧ atoi urlPort = none := by
  cases hatoi : atoi urlPort with
  | some port =>
    rw [optionsPort_of_atoi hatoi] at h
    cases h
  | none =>
    rw [optionsPort, hatoi] at h
    split_ifs at h
    cases h
    exact ⟨rfl, rfl⟩

/-- The only panic is the one on a nil configuration. -/
theorem getConfigOptions_of_nilDereference
    (h : getConnectionMaterialFromURL env hostUrl sshConfig cliAuthMethods cliOptions
      optionParsers = .error .nilDereference) :
    getConfigOptions env hostUrl sshConfig optionParsers = .ok none := by
  rw [getConnectionMaterialFromURL] at h
  split at h
  · cases h
  · split at h
    · cases h
    · split at h
      · assumption
      · cases h

theorem usablePort_of_error {err : ConfigError}
    (herror : getConfigOptions env hostUrl sshConfig optionParsers = .error err)
    (hport : ∀ text, err = .invalidPort text → atoi hostUrl.port = none) :
    UsablePort env hostUrl sshConfig cliAuthMethods cliOptions optionParsers := by
  refine ⟨?_, ?_, ?_⟩
  · intro result hresult
    rw [herror] at hresult
    cases hresult
  · intro port hatoi _ _
    rw [herror]
    cases err with
    | invalidPort text =>
      rw [hport text rfl] at hatoi
      cases hatoi
    | getConfigForHost text => exact trivial
    | noUsername => exact trivial
  · intro hpanic
    rw [getConfigOptions_of_nilDereference hpanic] at herror
    cases herror

section Outcome

variable (hfound : GetConfigForHost env hostUrl.hostname sshConfig optionParsers = .ok found)
include hfound

theorem getConfigOptions_of_found :
    getConfigOptions env hostUrl sshConfig optionParsers =
      match optionsPort hostUrl.port found.port with
      | .error err => .error err
      | .ok none => .ok none
      | .ok (some port) =>
        if optionsUsername hostUrl found.user env.currentUser = [] then .error .noUsername
        else
          .ok (some { NewConfig (optionsUsername hostUrl found.user env.currentUser)
            (if found.hostname = [] then hostUrl.hostname else found.hostname) port
            (if hostUrl.path = [] then found.urlPath else hostUrl.path) with
            authMethods := found.authMethodsToTry, options := found.pluginOptions }) := by
  rw [getConfigOptions, hfound]
  simp only [Go.getConfigOptions]
  cases optionsPort hostUrl.port found.port with
  | error err => rfl
  | ok port? =>
    cases port? with
    | none => rfl
    | some port =>
      by_cases huser : optionsUsername hostUrl found.user env.currentUser = []
      · simp only [if_pos huser]
        rfl
      · simp only [if_neg huser]
        rfl

/-- With a port, there is a configuration with it or no username. -/
theorem getConfigOptions_of_port {port : Int}
    (hport : optionsPort hostUrl.port found.port = .ok (some port)) :
    (optionsUsername hostUrl found.user env.currentUser = [] ∧
        getConfigOptions env hostUrl sshConfig optionParsers = .error .noUsername) ∨
      optionsUsername hostUrl found.user env.currentUser ≠ [] ∧
        ∃ config : ClientConfig Method Opt, config.port = port ∧
          getConfigOptions env hostUrl sshConfig optionParsers = .ok (some config) := by
  rw [getConfigOptions_of_found hfound, hport]
  by_cases huser : optionsUsername hostUrl found.user env.currentUser = []
  · exact .inl ⟨huser, if_pos huser⟩
  · exact .inr ⟨huser, _, port_newConfig .., if_neg huser⟩

theorem usablePort_of_goodPort
    (hgood : GoodPort hostUrl found.toConfigForHost
      (optionsUsername hostUrl found.user env.currentUser)) :
    UsablePort env hostUrl sshConfig cliAuthMethods cliOptions optionParsers := by
  rw [goodPort_iff] at hgood
  cases hport : optionsPort hostUrl.port found.port with
  | error err =>
    have herror := getConfigOptions_of_found hfound
    rw [hport] at herror
    exact usablePort_of_error herror fun _ _ => (optionsPort_eq_error hport).2
  | ok port? =>
    obtain ⟨port, rfl, hrange⟩ := hgood port? hport
    rcases getConfigOptions_of_port hfound hport with ⟨-, herror⟩ | ⟨huser, config, rfl, hconfig⟩
    · exact usablePort_of_error herror fun _ h => by cases h
    · refine ⟨?_, ?_, ?_⟩
      · intro result hresult
        rw [hconfig] at hresult
        cases hresult
        exact ⟨config, rfl, hrange.resolve_left huser⟩
      · -- the port that is used is the one of the URL
        intro urlPort hatoi _ _
        rw [optionsPort_of_atoi hatoi] at hport
        rw [hconfig]
        split at hport
        · cases hport
          rfl
        · cases hport
      · intro hpanic
        rw [getConfigOptions_of_nilDereference hpanic] at hconfig
        cases hconfig

theorem UsablePort.goodPort
    (h : UsablePort env hostUrl sshConfig cliAuthMethods cliOptions optionParsers) :
    GoodPort hostUrl found.toConfigForHost
      (optionsUsername hostUrl found.user env.currentUser) := by
  rw [goodPort_iff]
  intro port? hport
  cases port? with
  | none =>
    -- neither a configuration nor an error
    have heq := getConfigOptions_of_found hfound
    rw [hport] at heq
    obtain ⟨config, hconfig, -⟩ := h.usable none heq
    cases hconfig
  | some port =>
    refine ⟨port, rfl, ?_⟩
    rcases getConfigOptions_of_port hfound hport with ⟨huser, -⟩ | ⟨-, config, rfl, hconfig⟩
    · exact .inl huser
    · obtain ⟨used, hused, hrange⟩ := h.usable (some config) hconfig
      cases hused
      exact .inr hrange

end Outcome

/-- **Ports.**  The port is always in range, that of the URL is used where it is, and no
    configuration is missing, if and only if the configuration that is found for the host has a
    good port. -/
theorem usablePort_iff {Method Agent Opt : Type} (env : ClientEnv Method Agent)
    (hostUrl : HostUrl) (sshConfig : Option SshConfig) (cliAuthMethods : List Method)
    (cliOptions : List (List UInt8 × Opt))
    (optionParsers : List (List UInt8 × OptionParser Opt)) :
    UsablePort env hostUrl sshConfig cliAuthMethods cliOptions optionParsers ↔
      ∀ found, GetConfigForHost env hostUrl.hostname sshConfig optionParsers = .ok found →
        GoodPort hostUrl found.toConfigForHost
          (optionsUsername hostUrl found.user env.currentUser) := by
  constructor
  · intro h found hfound
    exact h.goodPort hfound
  · intro hgood
    cases hfound : GetConfigForHost env hostUrl.hostname sshConfig optionParsers with
    | ok found => exact usablePort_of_goodPort hfound (hgood found hfound)
    | error text =>
      have herror : getConfigOptions env hostUrl sshConfig optionParsers =
          .error (.getConfigForHost text) := by
        rw [getConfigOptions, hfound]
      exact usablePort_of_error herror fun _ h => by cases h

/-- No SSH agent, and nothing else to find out about -/
def bareEnv : ClientEnv Unit Unit where
  currentUser := none
  sshAuthSock := []
  dial _ := .ok ()
  newPrivkeyFileAuthMethod _ := ()

def noParsers : List (List UInt8 × OptionParser Unit) := []

/-- `https://alice@example.org:65535/` -/
def lastPort : HostUrl where
  hostname := ascii "example.org"
  port := ascii "65535"
  path := ascii "/"
  username := ascii "alice"
  rawQuery := []

theorem last_port_dereferences_nil :
    atoi lastPort.port = some 65535 ∧
      getConfigOptions bareEnv lastPort none noParsers = .ok none ∧
      getConnectionMaterialFromURL bareEnv lastPort none [] [] noParsers =
        .error .nilDereference ∧
      ¬UsablePort bareEnv lastPort none [] [] noParsers := by
  have hpanic : getConnectionMaterialFromURL bareEnv lastPort none [] [] noParsers =
      .error .nilDereference := rfl
  refine ⟨by decide +kernel, rfl, hpanic, ?_⟩
  intro h
  exact h.noNil hpanic

end

end Ssh3.Go.ConnectionMaterial
