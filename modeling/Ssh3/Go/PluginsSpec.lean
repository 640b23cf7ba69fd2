/-
  Ssh3.Go.PluginsSpec

  Which sequences of calls the plugin registries serve as two registries of their own would.

  The state that a sequence of calls leads to is described by the calls in it (`Tracks`): the
  server's flag is cleared by either closing call, the client's by none, and the server's lock
  is free as long as nobody has looked for identities.
-/

import Mathlib.Data.List.Induction
import Ssh3.Go.Plugins

namespace Ssh3.Go.Plugins

open Transition
open Proto (ascii)

/-! ## The functions of a registry -/

section Registry

variable {T : Type} {r r' : PluginsRegistry T} {name : List UInt8} {plugin : T}
  {result : Except PluginPanic (Option RegistrationError)}

/-- What `registerPlugin` does once it has the lock -/
inductive Registered (r : PluginsRegistry T) (name : List UInt8) (plugin : T) :
    Except PluginPanic (Option RegistrationError) → PluginsRegistry T → Prop
  | closed (notOpen : r.registrationsOpen = false) :
      Registered r name plugin (.ok (some .closedPluginsRegistry)) r
  | twice (isOpen : r.registrationsOpen = true) (dup : (r.plugins.lookup name).isSome = true) :
      Registered r name plugin (.error (.registeredTwice name)) r
  | new (isOpen : r.registrationsOpen = true) :
      Registered r name plugin (.ok none) { r with plugins := r.plugins.insert name plugin }

theorem registerPlugin_of_free (h : r.registerMutex.Free) (name : List UInt8) (plugin : T) :
    ∃ result r', r.registerPlugin name plugin = some (result, r') ∧
      Registered r name plugin result r' := by
  have hlock : r.registerMutex.lock = some ⟨true, 0⟩ := RWMutex.lock_eq_some.mpr ⟨h, rfl⟩
  simp only [PluginsRegistry.registerPlugin, hlock, Option.map_some, RWMutex.unlock_of_free h]
  split
  case isTrue hclosed => exact ⟨_, _, rfl, .closed hclosed⟩
  case isFalse hopen =>
    rw [Bool.not_eq_false] at hopen
    split
    case isTrue hdup => exact ⟨_, _, rfl, .twice hopen hdup⟩
    case isFalse => exact ⟨_, _, rfl, .new hopen⟩

theorem registerPlugin_eq_some (h : r.registerPlugin name plugin = some (result, r')) :
    r.registerMutex.Free ∧ Registered r name plugin result r' := by
  have hfree : r.registerMutex.Free := by
    obtain ⟨held, hlock, -⟩ := Option.map_eq_some_iff.mp h
    exact (RWMutex.lock_eq_some.mp hlock).1
  obtain ⟨result₀, r₀, heq, hregistered⟩ := registerPlugin_of_free hfree name plugin
  cases heq.symm.trans h
  exact ⟨hfree, hregistered⟩

namespace Registered

theorem flag_eq (h : Registered r name plugin result r') :
    r'.registrationsOpen = r.registrationsOpen := by
  cases h <;> rfl

theorem mutex_eq (h : Registered r name plugin result r') :
    r'.registerMutex = r.registerMutex := by
  cases h <;> rfl

theorem lookup_isSome (h : Registered r name plugin result r') {other : List UInt8}
    (hsome : (r'.plugins.lookup other).isSome = true) :
    other = name ∨ (r.plugins.lookup other).isSome = true := by
  cases h with
  | closed => exact .inr hsome
  | twice => exact .inr hsome
  | new =>
    by_cases heq : other = name
    · exact .inl heq
    · rw [AList.lookup_insert_ne heq] at hsome
      exact .inr hsome

/-- A new name is registered with an open registry, and refused by a closed one. -/
theorem result_eq (h : Registered r name plugin result r')
    (hnew : ¬(r.plugins.lookup name).isSome = true) :
    result = if r.registrationsOpen then .ok none else .ok (some .closedPluginsRegistry) := by
  cases h with
  | closed notOpen => rw [notOpen]; rfl
  | twice _ dup => exact absurd dup hnew
  | new isOpen => rw [isOpen]; rfl

end Registered

end Registry

section Registries

variable {V E C : Type} {s t : Registries V E C}

theorem setMutex_self (s : Registries V E C) (side : Side) :
    s.setMutex side (s.registerMutex side) = s := by
  cases side <;> rfl

theorem closeRegistry_of_free {side : Side} (h : (s.registerMutex side).Free) :
    s.closeRegistry side =
      some { s with serverRegistry := { s.serverRegistry with registrationsOpen := false } } := by
  have hlock : (s.registerMutex side).lock = some ⟨true, 0⟩ := RWMutex.lock_eq_some.mpr ⟨h, rfl⟩
  rw [Registries.closeRegistry, hlock]
  simp only [Option.map_some, RWMutex.unlock_of_free h, setMutex_self]

theorem closeRegistry_eq_some {side : Side} (h : s.closeRegistry side = some t) :
    (s.registerMutex side).Free ∧
      t = { s with serverRegistry := { s.serverRegistry with registrationsOpen := false } } := by
  have hfree : (s.registerMutex side).Free := by
    obtain ⟨held, hlock, -⟩ := Option.map_eq_some_iff.mp h
    exact (RWMutex.lock_eq_some.mp hlock).1
  exact ⟨hfree, Option.some.inj (h.symm.trans (closeRegistry_of_free hfree))⟩

theorem findIdentities_eq_some {username line : List UInt8} {identities : List V}
    (h : s.findIdentitiesFromAuthorizedIdentityString username line = some (identities, t)) :
    t = { s with serverRegistry := { s.serverRegistry with registerMutex :=
      { s.serverRegistry.registerMutex with
        readers := s.serverRegistry.registerMutex.readers + 1 } } } := by
  obtain ⟨held, hlock, hresult⟩ := Option.map_eq_some_iff.mp h
  cases hresult
  unfold RWMutex.rLock at hlock
  split at hlock
  case isTrue =>
    rw [← Option.some.inj hlock]
    rfl
  case isFalse => cases hlock

end Registries

/-! ## What one call does -/

section Step

variable {V E C : Type} {s t : Registries V E C} {reply : Reply V}

/-- The ways a call returns -/
inductive Stepped (s : Registries V E C) : Call V E C → Reply V → Registries V E C → Prop
  | registerServer {name : List UInt8} {plugin : ServerAuthPlugin V E}
      {result : Except PluginPanic (Option RegistrationError)}
      {r : PluginsRegistry (ServerAuthPlugin V E)}
      (free : s.serverRegistry.registerMutex.Free)
      (registered : Registered s.serverRegistry name plugin result r) :
      Stepped s (.registerServerAuthPlugin name plugin) (.registration result)
        { s with serverRegistry := r }
  | registerClient {name : List UInt8} {plugin : C}
      {result : Except PluginPanic (Option RegistrationError)} {r : PluginsRegistry C}
      (registered : Registered s.clientRegistry name plugin result r) :
      Stepped s (.registerClientAuthPlugin name plugin) (.registration result)
        { s with clientRegistry := r }
  | closeServer (free : s.serverRegistry.registerMutex.Free) :
      Stepped s .closeServerPluginsRegistry .closed
        { s with serverRegistry := { s.serverRegistry with registrationsOpen := false } }
  | closeClient :
      Stepped s .closeClientPluginsRegistry .closed
        { s with serverRegistry := { s.serverRegistry with registrationsOpen := false } }
  | find {username line : List UInt8} {identities : List V} :
      Stepped s (.findIdentities username line) (.identities identities)
        { s with serverRegistry := { s.serverRegistry with registerMutex :=
          { s.serverRegistry.registerMutex with
            readers := s.serverRegistry.registerMutex.readers + 1 } } }

theorem stepped_of_step {call : Call V E C} (h : step s call = some (reply, t)) :
    Stepped s call reply t := by
  cases call with
  | registerServerAuthPlugin name plugin =>
    obtain ⟨⟨result, r⟩, hregister, heq⟩ := Option.map_eq_some_iff.mp h
    cases heq
    obtain ⟨hfree, hregistered⟩ := registerPlugin_eq_some hregister
    exact .registerServer hfree hregistered
  | registerClientAuthPlugin name plugin =>
    obtain ⟨⟨result, r⟩, hregister, heq⟩ := Option.map_eq_some_iff.mp h
    cases heq
    exact .registerClient (registerPlugin_eq_some hregister).2
  | closeServerPluginsRegistry =>
    obtain ⟨closed, hclose, heq⟩ := Option.map_eq_some_iff.mp h
    cases heq
    obtain ⟨hfree, rfl⟩ := closeRegistry_eq_some hclose
    exact .closeServer hfree
  | closeClientPluginsRegistry =>
    obtain ⟨closed, hclose, heq⟩ := Option.map_eq_some_iff.mp h
    cases heq
    obtain ⟨-, rfl⟩ := closeRegistry_eq_some hclose
    exact .closeClient
  | findIdentities username line =>
    obtain ⟨⟨identities, found⟩, hfind, heq⟩ := Option.map_eq_some_iff.mp h
    cases heq
    cases findIdentities_eq_some hfind
    exact .find

end Step

/-! ## What a sequence of calls leads to -/

section Sequences

variable {V E C : Type}

/-- What the calls so far leave of the registries -/
structure Tracks (before : List (Call V E C)) (s : Registries V E C) : Prop where
  serverOpen : s.serverRegistry.registrationsOpen = true ↔
    .closeServerPluginsRegistry ∉ before ∧ .closeClientPluginsRegistry ∉ before
  clientOpen : s.clientRegistry.registrationsOpen = true
  serverFree : s.serverRegistry.registerMutex.Free ↔
    ∀ username line, .findIdentities username line ∉ before
  serverWriter : s.serverRegistry.registerMutex.writer = false
  clientFree : s.clientRegistry.registerMutex.Free
  serverPlugins : ∀ name, (s.serverRegistry.plugins.lookup name).isSome = true →
    name ∈ names .server before
  clientPlugins : ∀ name, (s.clientRegistry.plugins.lookup name).isSome = true →
    name ∈ names .client before

theorem tracks_initial : Tracks [] (.initial : Registries V E C) where
  serverOpen := by simp [Registries.initial, newPluginsRegistry]
  clientOpen := rfl
  serverFree := by simp [Registries.initial, newPluginsRegistry, RWMutex.Free]
  serverWriter := rfl
  clientFree := ⟨rfl, rfl⟩
  serverPlugins name h := by cases h
  clientPlugins name h := by cases h

/-- **Step lemma.**  What a call leaves is described by the calls with it. -/
theorem Tracks.stepped {before : List (Call V E C)} {call : Call V E C} {s t : Registries V E C}
    {reply : Reply V} (h : Tracks before s) (hstep : Stepped s call reply t) :
    Tracks (before ++ [call]) t := by
  have hserver : ∀ name, (s.serverRegistry.plugins.lookup name).isSome = true →
      name ∈ names .server (before ++ [call]) :=
    fun name hsome => mem_filterMap_concat.mpr (.inl (h.serverPlugins name hsome))
  have hclient : ∀ name, (s.clientRegistry.plugins.lookup name).isSome = true →
      name ∈ names .client (before ++ [call]) :=
    fun name hsome => mem_filterMap_concat.mpr (.inl (h.clientPlugins name hsome))
  cases hstep with
  | registerServer free registered =>
    refine ⟨?_, h.clientOpen, ?_, ?_, h.clientFree, ?_, hclient⟩
    · simpa [registered.flag_eq] using h.serverOpen
    · simpa [registered.mutex_eq] using h.serverFree
    · simpa [registered.mutex_eq] using h.serverWriter
    · intro name hsome
      obtain rfl | hold := registered.lookup_isSome hsome
      · exact mem_filterMap_concat.mpr (.inr rfl)
      · exact hserver name hold
  | registerClient registered =>
    refine ⟨?_, ?_, ?_, h.serverWriter, ?_, hserver, ?_⟩
    · simpa using h.serverOpen
    · exact registered.flag_eq.trans h.clientOpen
    · simpa using h.serverFree
    · simpa [registered.mutex_eq] using h.clientFree
    · intro name hsome
      obtain rfl | hold := registered.lookup_isSome hsome
      · exact mem_filterMap_concat.mpr (.inr rfl)
      · exact hclient name hold
  | closeServer free =>
    refine ⟨by simp, h.clientOpen, ?_, h.serverWriter, h.clientFree, hserver, hclient⟩
    simpa using h.serverFree
  | closeClient =>
    refine ⟨by simp, h.clientOpen, ?_, h.serverWriter, h.clientFree, hserver, hclient⟩
    simpa using h.serverFree
  | @find username line identities =>
    refine ⟨?_, h.clientOpen, ?_, h.serverWriter, h.clientFree, hserver, hclient⟩
    · simpa using h.serverOpen
    · -- the lock is not free any more
      refine iff_of_false (fun hfree => Nat.succ_ne_zero _ hfree.2) fun hnone => ?_
      exact hnone username line (List.mem_append_right _ List.mem_cons_self)

/-- **Run lemma.**  What any sequence of calls leaves is described by the calls. -/
theorem Reached.tracks {before : List (Call V E C)} {s : Registries V E C}
    (h : Reached before s) : Tracks before s := by
  refine Run.history (fun before s call t htracks _ hnext => ?_) h tracks_initial
  obtain ⟨⟨reply, left⟩, hstep, rfl⟩ := Option.map_eq_some_iff.mp hnext
  exact htracks.stepped (stepped_of_step hstep)

theorem Reached.concat {before : List (Call V E C)} {call : Call V E C} {s t : Registries V E C}
    {reply : Reply V} (h : Reached before s) (hstep : step s call = some (reply, t)) :
    Reached (before ++ [call]) t := by
  have hnext : next s call = some t := by rw [next, hstep]; rfl
  exact Run.append h (.cons trivial hnext (.nil t))

/-! ## Names that are registered once -/

variable {calls before : List (Call V E C)}

theorem DistinctNames.not_mem (h : DistinctNames calls) {side : Side} {call : Call V E C}
    {after : List (Call V E C)} (hcalls : calls = before ++ call :: after) {name : List UInt8}
    (hname : call.name? side = some name) : name ∉ names side before := by
  have hnodup := h side
  rw [hcalls, names, List.filterMap_append, List.filterMap_cons_some hname,
    List.nodup_append] at hnodup
  exact fun hmem => hnodup.2.2 name hmem name List.mem_cons_self rfl

/-! ## Sequences that are served well -/

section Served

variable {s : Registries V E C}

theorem server_result_eq (hdistinct : DistinctNames calls) {name : List UInt8}
    {plugin : ServerAuthPlugin V E} {result : Except PluginPanic (Option RegistrationError)}
    {r : PluginsRegistry (ServerAuthPlugin V E)}
    (hmade : Made calls before (.registerServerAuthPlugin name plugin) s)
    (h : Registered s.serverRegistry name plugin result r) :
    result = if s.serverRegistry.registrationsOpen then .ok none
      else .ok (some .closedPluginsRegistry) := by
  obtain ⟨⟨after, hcalls⟩, hreached⟩ := hmade
  apply h.result_eq
  exact fun hdup => hdistinct.not_mem hcalls rfl (hreached.tracks.serverPlugins name hdup)

theorem client_result_eq (hdistinct : DistinctNames calls) {name : List UInt8} {plugin : C}
    {result : Except PluginPanic (Option RegistrationError)} {r : PluginsRegistry C}
    (hmade : Made calls before (.registerClientAuthPlugin name plugin) s)
    (h : Registered s.clientRegistry name plugin result r) : result = .ok none := by
  obtain ⟨⟨after, hcalls⟩, hreached⟩ := hmade
  have hopen := hreached.tracks.clientOpen
  have hresult := h.result_eq fun hdup =>
    hdistinct.not_mem hcalls rfl (hreached.tracks.clientPlugins name hdup)
  rwa [if_pos hopen] at hresult

/-- The client's registry is closed after the server's only, so the server's flag is down
    exactly when the server's registry has been closed. -/
theorem AllHarmless.serverOpen_iff (h : AllHarmless calls) {call : Call V E C}
    (hmade : Made calls before call s) :
    s.serverRegistry.registrationsOpen = true ↔ .closeServerPluginsRegistry ∉ before := by
  obtain ⟨⟨after, hcalls⟩, hreached⟩ := hmade
  rw [hreached.tracks.serverOpen]
  refine and_iff_left_of_imp fun hserver hclient => ?_
  obtain ⟨first, rest, rfl⟩ := List.append_of_mem hclient
  have hfirst : Harmless first .closeClientPluginsRegistry := by
    refine h first _ (rest ++ call :: after) ?_
    rw [hcalls, List.append_assoc, List.cons_append]
  exact hserver (List.mem_append_left _ hfirst)

theorem AllHarmless.returns (h : AllHarmless calls) (hdistinct : DistinctNames calls)
    {call : Call V E C} (hmade : Made calls before call s) :
    ∃ reply t, step s call = some (reply, t) ∧ ¬reply.Panicked := by
  obtain ⟨⟨after, hcalls⟩, hreached⟩ := id hmade
  have htracks := hreached.tracks
  have hharmless := h before call after hcalls
  cases call with
  | registerServerAuthPlugin name plugin =>
    obtain ⟨result, r, heq, hregistered⟩ :=
      registerPlugin_of_free (htracks.serverFree.mpr hharmless) name plugin
    refine ⟨.registration result, _, by rw [step, heq]; rfl, ?_⟩
    rw [server_result_eq hdistinct hmade hregistered]
    split
    · exact fun hpanicked => hpanicked
    · exact fun hpanicked => hpanicked
  | registerClientAuthPlugin name plugin =>
    obtain ⟨result, r, heq, hregistered⟩ :=
      registerPlugin_of_free htracks.clientFree name plugin
    refine ⟨.registration result, _, by rw [step, heq]; rfl, ?_⟩
    rw [client_result_eq hdistinct hmade hregistered]
    exact fun hpanicked => hpanicked
  | closeServerPluginsRegistry =>
    have hclose : s.closeRegistry .server = _ :=
      closeRegistry_of_free (htracks.serverFree.mpr hharmless)
    exact ⟨.closed, _, by rw [step, hclose]; rfl, fun hpanicked => hpanicked⟩
  | closeClientPluginsRegistry =>
    have hclose : s.closeRegistry .client = _ := closeRegistry_of_free htracks.clientFree
    exact ⟨.closed, _, by rw [step, hclose]; rfl, fun hpanicked => hpanicked⟩
  | findIdentities username line =>
    have hlock : s.serverRegistry.registerMutex.rLock = some _ := if_pos htracks.serverWriter
    have hfind : s.findIdentitiesFromAuthorizedIdentityString username line = _ :=
      congrArg (Option.map _) hlock
    exact ⟨.identities _, _, by rw [step, hfind]; rfl, fun hpanicked => hpanicked⟩

theorem AllHarmless.independent (h : AllHarmless calls) (hdistinct : DistinctNames calls) :
    Independent calls where
  returns before call s hmade := h.returns hdistinct hmade
  serverRegistration before name plugin s result t hmade hstep := by
    cases stepped_of_step hstep with
    | registerServer free registered =>
      rw [server_result_eq hdistinct hmade registered, ← h.serverOpen_iff hmade]
      cases s.serverRegistry.registrationsOpen <;> simp
  clientRegistration before name plugin s result t hmade hstep := by
    obtain ⟨after, hcalls⟩ := hmade.1
    have hharmless : .closeClientPluginsRegistry ∉ before := h before _ after hcalls
    cases stepped_of_step hstep with
    | registerClient registered =>
      exact iff_of_true (client_result_eq hdistinct hmade registered) hharmless
  frame before call s reply t hmade hstep := by
    obtain ⟨after, hcalls⟩ := hmade.1
    have hharmless := h before call after hcalls
    cases stepped_of_step hstep with
    | registerServer | registerClient =>
      constructor
      · intro hside
        cases hside
      · intro hside
        cases hside
    | closeServer =>
      refine ⟨fun _ => ⟨rfl, rfl⟩, fun hside => ?_⟩
      cases hside
    | closeClient =>
      refine ⟨fun hside => ?_, fun _ => ⟨?_, rfl⟩⟩
      · cases hside
      · -- the flag that is cleared has been cleared before
        have hopen : ¬s.serverRegistry.registrationsOpen = true :=
          fun hopen => (h.serverOpen_iff hmade).mp hopen hharmless
        exact ((Bool.not_eq_true _).mp hopen).symm
    | find =>
      refine ⟨fun _ => ⟨rfl, rfl⟩, fun hside => ?_⟩
      cases hside

end Served

/-! ## Sequences that are not -/

/-- If all calls return, the state before each of them is reached. -/
theorem Independent.reached (h : Independent calls) (before after : List (Call V E C))
    (hcalls : calls = before ++ after) : ∃ s, Reached before s := by
  induction before using List.reverseRecOn generalizing after with
  | nil => exact ⟨.initial, .nil _⟩
  | append_singleton before call ih =>
    rw [List.append_assoc, List.singleton_append] at hcalls
    obtain ⟨s, hreached⟩ := ih (call :: after) hcalls
    obtain ⟨reply, t, hstep, -⟩ := h.returns before call s ⟨⟨after, hcalls⟩, hreached⟩
    exact ⟨t, hreached.concat hstep⟩

/-- The first call that closes the client's registry finds the server's closed. -/
theorem Independent.closeServer_mem (h : Independent calls) {after : List (Call V E C)}
    (hcalls : calls = before ++ .closeClientPluginsRegistry :: after)
    (hfirst : .closeClientPluginsRegistry ∉ before) : .closeServerPluginsRegistry ∈ before := by
  obtain ⟨s, hreached⟩ := h.reached before _ hcalls
  have hmade : Made calls before .closeClientPluginsRegistry s := ⟨⟨after, hcalls⟩, hreached⟩
  by_contra hserver
  have hopen : s.serverRegistry.registrationsOpen = true :=
    hreached.tracks.serverOpen.mpr ⟨hserver, hfirst⟩
  obtain ⟨reply, t, hstep, -⟩ := h.returns before _ s hmade
  have hflag := ((h.frame before _ s reply t hmade hstep).2 rfl).1
  cases stepped_of_step hstep with
  | closeClient =>
    have hfalse : false = s.serverRegistry.registrationsOpen := hflag
    cases hfalse.trans hopen

theorem Independent.allHarmless (h : Independent calls) : AllHarmless calls := by
  intro before call after hcalls
  obtain ⟨s, hreached⟩ := h.reached before _ hcalls
  have hmade : Made calls before call s := ⟨⟨after, hcalls⟩, hreached⟩
  obtain ⟨reply, t, hstep, hpanic⟩ := h.returns before call s hmade
  have hstepped := stepped_of_step hstep
  have htracks := hreached.tracks
  cases hstepped with
  | registerServer free => exact htracks.serverFree.mp free
  | closeServer free => exact htracks.serverFree.mp free
  | find => trivial
  | registerClient registered =>
    have hregistration := h.clientRegistration before _ _ s _ _ hmade hstep
    -- the client's flag is never cleared
    cases registered with
    | closed notOpen => cases notOpen.symm.trans htracks.clientOpen
    | twice => exact absurd trivial hpanic
    | new => exact hregistration.mp rfl
  | closeClient =>
    have hmem : (.closeClientPluginsRegistry : Call V E C) ∈
        before ++ [.closeClientPluginsRegistry] := List.mem_append_right _ List.mem_cons_self
    obtain ⟨first, rest, hsplit, hfirst⟩ := List.eq_append_cons_of_mem hmem
    have hwhole : calls = first ++ .closeClientPluginsRegistry :: (rest ++ after) := by
      rw [hcalls, List.append_cons, hsplit, List.append_assoc, List.cons_append]
    have hserver := h.closeServer_mem hwhole hfirst
    have hboth : (.closeServerPluginsRegistry : Call V E C) ∈
        before ++ [.closeClientPluginsRegistry] := by
      rw [hsplit]
      exact List.mem_append_left _ hserver
    simpa [Harmless] using hboth

/-- **Registries.**  The registries of plugins do not get in each other's way if and only if
    every call is harmless where it stands. -/
theorem plugins_independent_iff (hdistinct : DistinctNames calls) :
    Independent calls ↔ AllHarmless calls :=
  ⟨Independent.allHarmless, fun h => h.independent hdistinct⟩

end Sequences

/-- The client's registry is used and closed, and the server's was closed before. -/
theorem plugins_independent_client_first :
    DistinctNames ([.registerClientAuthPlugin (ascii "agent") (), .closeServerPluginsRegistry,
        .closeClientPluginsRegistry] : List (Call Unit Unit Unit)) ∧
      Independent ([.registerClientAuthPlugin (ascii "agent") (), .closeServerPluginsRegistry,
        .closeClientPluginsRegistry] : List (Call Unit Unit Unit)) := by
  have hdistinct : DistinctNames ([.registerClientAuthPlugin (ascii "agent") (),
      .closeServerPluginsRegistry, .closeClientPluginsRegistry] : List (Call Unit Unit Unit)) := by
    intro side
    cases side <;> decide
  refine ⟨hdistinct, (plugins_independent_iff hdistinct).mpr ?_⟩
  intro before call after hcalls
  -- each of the three calls in turn
  rcases before with _ | ⟨first, _ | ⟨second, _ | ⟨third, rest⟩⟩⟩
  · cases hcalls
    exact List.not_mem_nil
  · cases hcalls
    simp [Harmless]
  · cases hcalls
    simp [Harmless]
  · simp at hcalls

/-- After a query, registering a server plugin waits for ever.  After the client's registry has
    been closed, a server plugin is refused and a client plugin is not. -/
theorem registries_interfere :
    (∃ s : Registries Unit Unit Unit, Reached [.findIdentities [] []] s ∧
        step s (.registerServerAuthPlugin (ascii "oidc") fun _ _ => .ok none) = none) ∧
      (∃ s t : Registries Unit Unit Unit, Reached [.closeClientPluginsRegistry] s ∧
        step s (.registerServerAuthPlugin (ascii "oidc") fun _ _ => .ok none) =
          some (.registration (.ok (some .closedPluginsRegistry)), t)) ∧
      (∃ s t : Registries Unit Unit Unit, Reached [.closeClientPluginsRegistry] s ∧
        step s (.registerClientAuthPlugin (ascii "agent") ()) =
          some (.registration (.ok none), t)) ∧
      ¬Independent ([.findIdentities [] [],
        .registerServerAuthPlugin (ascii "oidc") fun _ _ => .ok none] :
        List (Call Unit Unit Unit)) := by
  have hquery : ∃ s : Registries Unit Unit Unit, Reached [.findIdentities [] []] s ∧
      step s (.registerServerAuthPlugin (ascii "oidc") fun _ _ => .ok none) = none :=
    ⟨_, .cons trivial rfl (.nil _), rfl⟩
  refine ⟨hquery, ⟨_, _, .cons trivial rfl (.nil _), rfl⟩, ⟨_, _, .cons trivial rfl (.nil _), rfl⟩,
    fun h => ?_⟩
  obtain ⟨s, hreached, hwaits⟩ := hquery
  obtain ⟨reply, t, hstep, -⟩ := h.returns [.findIdentities [] []] _ s ⟨⟨[], rfl⟩, hreached⟩
  cases hwaits.symm.trans hstep

end Ssh3.Go.Plugins
