/-
  Ssh3.Go.Plugins

  `internal/plugins.go`: the two registries of authentication plugins, and what becomes of a
  sequence of calls to them.

  Two statements of the source reach beyond what their functions are for.  `closeRegistry` is a
  method of either registry, but the flag that it clears is always that of the server's.  And
  `FindIdentitiesFromAuthorizedIdentityString` takes the read lock of the server's registry and
  never gives it back.
-/

import Mathlib.Data.List.AList
import Ssh3.Lib.Transition
import Ssh3.Proto.Message

namespace Ssh3.Go.Plugins

open Transition
open Proto (ascii)

/-! ## `sync.RWMutex` -/

/-- `sync.RWMutex` -/
structure RWMutex where
  writer : Bool
  readers : Nat
  deriving DecidableEq, Repr

namespace RWMutex

def Free (m : RWMutex) : Prop := m.writer = false ∧ m.readers = 0

instance (m : RWMutex) : Decidable m.Free := inferInstanceAs (Decidable (_ ∧ _))

/-- `none` as long as the call waits -/
def lock (m : RWMutex) : Option RWMutex := if m.Free then some { m with writer := true } else none

def unlock (m : RWMutex) : RWMutex := { m with writer := false }

def rLock (m : RWMutex) : Option RWMutex :=
  if m.writer = false then some { m with readers := m.readers + 1 } else none

theorem lock_eq_some {m held : RWMutex} : m.lock = some held ↔ m.Free ∧ held = ⟨true, 0⟩ := by
  obtain ⟨writer, readers⟩ := m
  unfold lock
  split
  case isTrue h =>
    obtain ⟨rfl, rfl⟩ := h
    simp [Free, eq_comm]
  case isFalse h => simp [h]

theorem unlock_of_free {m : RWMutex} (h : m.Free) : unlock ⟨true, 0⟩ = m := by
  obtain ⟨writer, readers⟩ := m
  obtain ⟨rfl, rfl⟩ := h
  rfl

end RWMutex

/-! ## The registries -/

/-- A registry of plugins -/
structure PluginsRegistry (T : Type) where
  registrationsOpen : Bool
  registerMutex : RWMutex
  plugins : AList fun _ : List UInt8 => T

/-- `util.ClosedPluginsRegistry` -/
inductive RegistrationError where
  | closedPluginsRegistry
  deriving DecidableEq, Repr

/-- The panic of a registration -/
inductive PluginPanic where
  /-- "registerPlugin called twice for same auth plugin name " -/
  | registeredTwice (name : List UInt8)
  deriving DecidableEq, Repr

def newPluginsRegistry {T : Type} : PluginsRegistry T where
  registrationsOpen := true
  registerMutex := ⟨false, 0⟩
  plugins := ∅

/-- `none` as long as the call waits for the lock; a registry is never nil here. -/
def PluginsRegistry.registerPlugin {T : Type} (r : PluginsRegistry T) (name : List UInt8)
    (plugin : T) : Option (Except PluginPanic (Option RegistrationError) × PluginsRegistry T) :=
  r.registerMutex.lock.map fun held =>
    -- the deferred `Unlock`
    let r := { r with registerMutex := held.unlock }
    if r.registrationsOpen = false then
      (.ok (some .closedPluginsRegistry), r)
    else if (r.plugins.lookup name).isSome then
      (.error (.registeredTwice name), r)
    else
      (.ok none, { r with plugins := r.plugins.insert name plugin })

/-- `auth.ServerAuthPlugin`, from the username and the line of the file of identities to a
    `RequestIdentityVerifier` (`V`), nil or an error (`E`) -/
abbrev ServerAuthPlugin (V E : Type) := List UInt8 → List UInt8 → Except E (Option V)

/-- The loop of `FindIdentitiesFromAuthorizedIdentityString`, over the plugins in the order in
    which Go goes through their map; the error of a plugin is only logged. -/
def findIdentities {V E : Type} (plugins : List (ServerAuthPlugin V E))
    (username authorizedIdentityString : List UInt8) : List V :=
  plugins.filterMap fun plugin =>
    match plugin username authorizedIdentityString with
    | .ok identity => identity
    | .error _ => none

/-- The two registries; `C` is `auth.ClientAuthPlugin`. -/
structure Registries (V E C : Type) where
  serverRegistry : PluginsRegistry (ServerAuthPlugin V E)
  clientRegistry : PluginsRegistry C

/-- The registry of the server, or of the client -/
inductive Side where
  | server
  | client
  deriving DecidableEq, Repr

namespace Registries

variable {V E C : Type}

def initial : Registries V E C := ⟨newPluginsRegistry, newPluginsRegistry⟩

def registerMutex (s : Registries V E C) : Side → RWMutex
  | .server => s.serverRegistry.registerMutex
  | .client => s.clientRegistry.registerMutex

def setMutex (s : Registries V E C) : Side → RWMutex → Registries V E C
  | .server, m => { s with serverRegistry := { s.serverRegistry with registerMutex := m } }
  | .client, m => { s with clientRegistry := { s.clientRegistry with registerMutex := m } }

/-- `closeRegistry` of the registry on this side -/
def closeRegistry (s : Registries V E C) (side : Side) : Option (Registries V E C) :=
  (s.registerMutex side).lock.map fun held =>
    let s := s.setMutex side held.unlock
    -- `serverRegistry.registrationsOpen = false`, whatever the receiver
    { s with serverRegistry := { s.serverRegistry with registrationsOpen := false } }

/-- `FindIdentitiesFromAuthorizedIdentityString`, with the plugins in the order of the map -/
def findIdentitiesFromAuthorizedIdentityString (s : Registries V E C)
    (username authorizedIdentityString : List UInt8) : Option (List V × Registries V E C) :=
  s.serverRegistry.registerMutex.rLock.map fun held =>
    let plugins := s.serverRegistry.plugins.entries.map Sigma.snd
    -- there is no `RUnlock`
    (findIdentities plugins username authorizedIdentityString, s.setMutex .server held)

end Registries

/-! ## Calls -/

/-- The functions of the package -/
inductive Call (V E C : Type) where
  | registerServerAuthPlugin (name : List UInt8) (plugin : ServerAuthPlugin V E)
  | registerClientAuthPlugin (name : List UInt8) (plugin : C)
  | closeServerPluginsRegistry
  | closeClientPluginsRegistry
  | findIdentities (username authorizedIdentityString : List UInt8)

/-- What a call returns -/
inductive Reply (V : Type) where
  | registration (result : Except PluginPanic (Option RegistrationError))
  | closed
  | identities (identities : List V)

section

variable {V E C : Type}

/-- `none` if the call waits for a lock: nothing else is running that could give it back. -/
def step (s : Registries V E C) : Call V E C → Option (Reply V × Registries V E C)
  | .registerServerAuthPlugin name plugin =>
    (s.serverRegistry.registerPlugin name plugin).map fun r =>
      (.registration r.1, { s with serverRegistry := r.2 })
  | .registerClientAuthPlugin name plugin =>
    (s.clientRegistry.registerPlugin name plugin).map fun r =>
      (.registration r.1, { s with clientRegistry := r.2 })
  | .closeServerPluginsRegistry => (s.closeRegistry .server).map fun s => (.closed, s)
  | .closeClientPluginsRegistry => (s.closeRegistry .client).map fun s => (.closed, s)
  | .findIdentities username authorizedIdentityString =>
    (s.findIdentitiesFromAuthorizedIdentityString username authorizedIdentityString).map
      fun r => (.identities r.1, r.2)

/-- The state that a call leaves -/
def next (s : Registries V E C) (call : Call V E C) : Option (Registries V E C) :=
  (step s call).map Prod.snd

/-- All the calls returned, and `s` is the state after them. -/
def Reached (calls : List (Call V E C)) (s : Registries V E C) : Prop :=
  Run next anyStep .initial calls s

/-- In the sequence, `call` is made in the state `s`, after the calls `before`. -/
def Made (calls before : List (Call V E C)) (call : Call V E C) (s : Registries V E C) : Prop :=
  (∃ after, calls = before ++ call :: after) ∧ Reached before s

def Reply.Panicked : Reply V → Prop
  | .registration (.error _) => True
  | _ => False

/-- The registry that a call closes or queries -/
def Call.closesOrQueries : Call V E C → Option Side
  | .closeServerPluginsRegistry => some .server
  | .closeClientPluginsRegistry => some .client
  | .findIdentities _ _ => some .server
  | _ => none

/-- The open flag and the plugins are as before; the lock is not looked at. -/
def Unchanged {T : Type} (r r' : PluginsRegistry T) : Prop :=
  r'.registrationsOpen = r.registrationsOpen ∧ r'.plugins = r.plugins

/-- Every call returns, a registration fails just after its own registry is closed, and a call
    changes no other registry. -/
structure Independent (calls : List (Call V E C)) : Prop where
  returns : ∀ before call s, Made calls before call s →
    ∃ reply t, step s call = some (reply, t) ∧ ¬reply.Panicked
  serverRegistration : ∀ before name plugin s result t,
    Made calls before (.registerServerAuthPlugin name plugin) s →
    step s (.registerServerAuthPlugin name plugin) = some (.registration result, t) →
      (result = .ok none ↔ .closeServerPluginsRegistry ∉ before)
  clientRegistration : ∀ before name plugin s result t,
    Made calls before (.registerClientAuthPlugin name plugin) s →
    step s (.registerClientAuthPlugin name plugin) = some (.registration result, t) →
      (result = .ok none ↔ .closeClientPluginsRegistry ∉ before)
  frame : ∀ before call s reply t, Made calls before call s → step s call = some (reply, t) →
    (call.closesOrQueries = some .server → Unchanged s.clientRegistry t.clientRegistry) ∧
      (call.closesOrQueries = some .client → Unchanged s.serverRegistry t.serverRegistry)

/-- The name that a call registers with the registry on this side -/
def Call.name? : Side → Call V E C → Option (List UInt8)
  | .server, .registerServerAuthPlugin name _ => some name
  | .client, .registerClientAuthPlugin name _ => some name
  | _, _ => none

def names (side : Side) (calls : List (Call V E C)) : List (List UInt8) :=
  calls.filterMap (Call.name? side)

/-- No name is registered twice with the same registry. -/
def DistinctNames (calls : List (Call V E C)) : Prop := ∀ side, (names side calls).Nodup

/-- Nobody has looked for identities before a call that locks the server's registry, the
    server's registry has been closed before the client's is, and no client plugin is
    registered after that. -/
def Harmless (before : List (Call V E C)) : Call V E C → Prop
  | .registerServerAuthPlugin _ _ => ∀ username line, .findIdentities username line ∉ before
  | .registerClientAuthPlugin _ _ => .closeClientPluginsRegistry ∉ before
  | .closeServerPluginsRegistry => ∀ username line, .findIdentities username line ∉ before
  | .closeClientPluginsRegistry => .closeServerPluginsRegistry ∈ before
  | .findIdentities _ _ => True

/-- Every call of the sequence is harmless where it stands. -/
def AllHarmless (calls : List (Call V E C)) : Prop :=
  ∀ before call after, calls = before ++ call :: after → Harmless before call

end

end Ssh3.Go.Plugins
