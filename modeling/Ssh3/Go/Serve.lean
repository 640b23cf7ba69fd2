/-
  Ssh3.Go.Serve

  `transport.go` and `server.go`: the life of the listener and of the connections of a Go
  server, under one call of `Serve`, one call of `Close` and a `serveConnection` goroutine
  for each connection.

  An action is one critical section of `Server.lock`, or one operation on the listener or on
  a connection.  The environment decides what `Accept` returns and when, also after the
  listener has been closed, when a peer closes its connection, and when `serveConnection`
  leaves its loop.

  `accepted` is bookkeeping.
-/

import Mathlib.Data.Finset.Basic
import Mathlib.Logic.Function.Basic
import Ssh3.Lib.Transition

namespace Ssh3.Go.Serve

open Transition

/-! ## Goroutines -/

/-- A `*quic.Conn`, as the key of a map. -/
abbrev Conn := Nat

/-- The listener that `quic.ListenEarly` makes. -/
inductive Listener where
  | absent
  | listening
  | closed
  deriving DecidableEq

/-- Where the call of `Serve` is. -/
inductive Serving where
  | idle
  /-- `quic.ListenEarly` has returned; the listener is not yet in the server. -/
  | listened
  /-- In `listener.Accept` -/
  | accepting
  /-- `listener.Accept` has returned a connection; it is not yet in the server. -/
  | accepted (conn : Conn)
  /-- The connection is in the server; `go s.serveConnection(conn)` comes next. -/
  | registered (conn : Conn)
  /-- The server was closed in the meantime; `conn.CloseWithError` comes next. -/
  | dropping (conn : Conn)
  /-- `listener.Close()` comes next, on the way out or deferred. -/
  | returning
  | returned
  deriving DecidableEq

/-- Where the call of `Close` is. -/
inductive Closing where
  | idle
  /-- The connections that are still to be closed, and whether there is a listener to close. -/
  | closing (connections : Finset Conn) (listener : Bool)
  | returned
  deriving DecidableEq

/-- Where the `serveConnection` goroutine of a connection is. -/
inductive Goroutine where
  | absent
  /-- Up to the return from `handleBidiStreams`, or from a failed `NewRawServerConn` -/
  | running
  /-- The deferred `conn.CloseWithError` comes next. -/
  | returning
  /-- The deferred `s.removeConnection(conn)` comes next. -/
  | removing
  | finished
  deriving DecidableEq

/-- The server and its goroutines -/
structure State where
  /-- `s.closed` -/
  closed : Bool
  /-- `s.listener != nil` -/
  published : Bool
  /-- The keys of `s.connections` -/
  connections : Finset Conn
  listener : Listener
  /-- The connections that are closed, by the server or by the peer -/
  closedConns : Finset Conn
  /-- The connections that `Accept` has returned -/
  accepted : Finset Conn
  serving : Serving
  closing : Closing
  goroutines : Conn → Goroutine

def init : State where
  closed := false
  published := false
  connections := ∅
  listener := .absent
  closedConns := ∅
  accepted := ∅
  serving := .idle
  closing := .idle
  goroutines := fun _ => .absent

/-! ## Steps -/

/-- What `Serve`, `Close` or a connection's goroutine does -/
inductive Action where
  -- `Serve`
  | listen
  | listenFails
  | publish
  | accept (conn : Conn)
  | acceptFails
  | register
  | spawn
  | drop
  | closeListener
  -- `Close`
  | close
  | closeNext (conn : Conn)
  | closeReturns
  -- `serveConnection`
  | connectionReturns (conn : Conn)
  | closeConnection (conn : Conn)
  | removeConnection (conn : Conn)
  -- the peer, or a timeout
  | peerCloses (conn : Conn)
  deriving DecidableEq

namespace State

def closeConn (s : State) (conn : Conn) : State :=
  { s with closedConns := insert conn s.closedConns }

def setGoroutine (s : State) (conn : Conn) (g : Goroutine) : State :=
  { s with goroutines := Function.update s.goroutines conn g }

/-- `listener.Close()` -/
def closeListener (s : State) : State := { s with listener := .closed }

/-- The first critical section of `Serve` -/
def publish (s : State) : State :=
  if s.closed then { s with serving := .returning }
  else { s with published := true, serving := .accepting }

/-- The critical section of the accept loop -/
def register (s : State) (conn : Conn) : State :=
  if s.closed then { s with serving := .dropping conn }
  else { s with connections := insert conn s.connections, serving := .registered conn }

end State

/-- `none` where the goroutine is elsewhere. -/
def step (s : State) : Action → Option State
  | .listen =>
    if s.serving = .idle then some { s with listener := .listening, serving := .listened }
    else none
  | .listenFails => if s.serving = .idle then some { s with serving := .returned } else none
  | .publish => if s.serving = .listened then some s.publish else none
  | .accept conn =>
    -- each call returns another connection
    if s.serving = .accepting ∧ conn ∉ s.accepted then
      some { s with accepted := insert conn s.accepted, serving := .accepted conn }
    else none
  | .acceptFails => if s.serving = .accepting then some { s with serving := .returning } else none
  | .register =>
    match s.serving with
    | .accepted conn => some (s.register conn)
    | _ => none
  | .spawn =>
    match s.serving with
    | .registered conn => some { s.setGoroutine conn .running with serving := .accepting }
    | _ => none
  | .drop =>
    match s.serving with
    | .dropping conn => some { s.closeConn conn with serving := .returning }
    | _ => none
  | .closeListener =>
    if s.serving = .returning then some { s.closeListener with serving := .returned } else none
  | .close =>
    if s.closing = .idle then
      some { s with closed := true, closing := .closing s.connections s.published }
    else none
  | .closeNext conn =>
    match s.closing with
    | .closing connections listener =>
      if conn ∈ connections then
        some { s.closeConn conn with closing := .closing (connections.erase conn) listener }
      else none
    | _ => none
  | .closeReturns =>
    match s.closing with
    | .closing connections listener =>
      if connections = ∅ then
        some { (if listener then s.closeListener else s) with closing := .returned }
      else none
    | _ => none
  | .connectionReturns conn =>
    if s.goroutines conn = .running then some (s.setGoroutine conn .returning) else none
  | .closeConnection conn =>
    if s.goroutines conn = .returning then some ((s.closeConn conn).setGoroutine conn .removing)
    else none
  | .removeConnection conn =>
    if s.goroutines conn = .removing then
      some { s.setGoroutine conn .finished with connections := s.connections.erase conn }
    else none
  | .peerCloses conn => if conn ∈ s.accepted then some (s.closeConn conn) else none

/-- A step, with the place from which its goroutine takes it. -/
inductive Took (s : State) : Action → State → Prop
  | listen (hs : s.serving = .idle) :
      Took s .listen { s with listener := .listening, serving := .listened }
  | listenFails (hs : s.serving = .idle) : Took s .listenFails { s with serving := .returned }
  | refuse (hs : s.serving = .listened) (hclosed : s.closed = true) :
      Took s .publish { s with serving := .returning }
  | publish (hs : s.serving = .listened) (hopen : s.closed = false) :
      Took s .publish { s with published := true, serving := .accepting }
  | accept {conn : Conn} (hs : s.serving = .accepting) (hnew : conn ∉ s.accepted) :
      Took s (.accept conn)
        { s with accepted := insert conn s.accepted, serving := .accepted conn }
  | acceptFails (hs : s.serving = .accepting) : Took s .acceptFails { s with serving := .returning }
  | reject {conn : Conn} (hs : s.serving = .accepted conn) (hclosed : s.closed = true) :
      Took s .register { s with serving := .dropping conn }
  | register {conn : Conn} (hs : s.serving = .accepted conn) (hopen : s.closed = false) :
      Took s .register
        { s with connections := insert conn s.connections, serving := .registered conn }
  | spawn {conn : Conn} (hs : s.serving = .registered conn) :
      Took s .spawn { s.setGoroutine conn .running with serving := .accepting }
  | drop {conn : Conn} (hs : s.serving = .dropping conn) :
      Took s .drop { s.closeConn conn with serving := .returning }
  | closeListener (hs : s.serving = .returning) :
      Took s .closeListener { s.closeListener with serving := .returned }
  | close (hs : s.closing = .idle) :
      Took s .close { s with closed := true, closing := .closing s.connections s.published }
  | closeNext {conn : Conn} {connections : Finset Conn} {listener : Bool}
      (hs : s.closing = .closing connections listener) :
      Took s (.closeNext conn)
        { s.closeConn conn with closing := .closing (connections.erase conn) listener }
  | closeReturns (hs : s.closing = .closing ∅ true) :
      Took s .closeReturns { s.closeListener with closing := .returned }
  | closeReturnsUnlistened (hs : s.closing = .closing ∅ false) :
      Took s .closeReturns { s with closing := .returned }
  | connectionReturns {conn : Conn} (hs : s.goroutines conn = .running) :
      Took s (.connectionReturns conn) (s.setGoroutine conn .returning)
  | closeConnection {conn : Conn} (hs : s.goroutines conn = .returning) :
      Took s (.closeConnection conn) ((s.closeConn conn).setGoroutine conn .removing)
  | removeConnection {conn : Conn} (hs : s.goroutines conn = .removing) :
      Took s (.removeConnection conn)
        { s.setGoroutine conn .finished with connections := s.connections.erase conn }
  | peerCloses {conn : Conn} : Took s (.peerCloses conn) (s.closeConn conn)

variable {a : Action} {s t : State} {c : Conn}

theorem took_of_step (h : step s a = some t) : Took s a t := by
  cases a with
  | listen =>
    obtain ⟨hs, heq⟩ := Option.ite_none_right_eq_some.mp h
    cases heq
    exact .listen hs
  | listenFails =>
    obtain ⟨hs, heq⟩ := Option.ite_none_right_eq_some.mp h
    cases heq
    exact .listenFails hs
  | publish =>
    obtain ⟨hs, heq⟩ := Option.ite_none_right_eq_some.mp h
    cases heq
    unfold State.publish
    split
    · exact .refuse hs ‹_›
    · exact .publish hs (Bool.eq_false_iff.mpr ‹_›)
  | accept conn =>
    obtain ⟨⟨hs, hnew⟩, heq⟩ := Option.ite_none_right_eq_some.mp h
    cases heq
    exact .accept hs hnew
  | acceptFails =>
    obtain ⟨hs, heq⟩ := Option.ite_none_right_eq_some.mp h
    cases heq
    exact .acceptFails hs
  | register =>
    simp only [step] at h
    split at h
    · cases h
      unfold State.register
      split
      · exact .reject ‹_› ‹_›
      · exact .register ‹_› (Bool.eq_false_iff.mpr ‹_›)
    · cases h
  | spawn =>
    simp only [step] at h
    split at h
    · cases h
      exact .spawn ‹_›
    · cases h
  | drop =>
    simp only [step] at h
    split at h
    · cases h
      exact .drop ‹_›
    · cases h
  | closeListener =>
    obtain ⟨hs, heq⟩ := Option.ite_none_right_eq_some.mp h
    cases heq
    exact .closeListener hs
  | close =>
    obtain ⟨hs, heq⟩ := Option.ite_none_right_eq_some.mp h
    cases heq
    exact .close hs
  | closeNext conn =>
    simp only [step] at h
    split at h
    · obtain ⟨_, heq⟩ := Option.ite_none_right_eq_some.mp h
      cases heq
      exact .closeNext ‹_›
    · cases h
  | closeReturns =>
    simp only [step] at h
    split at h
    · rename_i listener hs
      obtain ⟨hempty, heq⟩ := Option.ite_none_right_eq_some.mp h
      cases heq
      rw [hempty] at hs
      cases listener with
      | true => exact .closeReturns hs
      | false => exact .closeReturnsUnlistened hs
    · cases h
  | connectionReturns conn =>
    obtain ⟨hs, heq⟩ := Option.ite_none_right_eq_some.mp h
    cases heq
    exact .connectionReturns hs
  | closeConnection conn =>
    obtain ⟨hs, heq⟩ := Option.ite_none_right_eq_some.mp h
    cases heq
    exact .closeConnection hs
  | removeConnection conn =>
    obtain ⟨hs, heq⟩ := Option.ite_none_right_eq_some.mp h
    cases heq
    exact .removeConnection hs
  | peerCloses conn =>
    obtain ⟨_, heq⟩ := Option.ite_none_right_eq_some.mp h
    cases heq
    exact .peerCloses

/-! ## The connections -/

/-- The connection that `Serve` has accepted and not yet passed on. -/
def Serving.Holds (serving : Serving) (conn : Conn) : Prop :=
  serving = .accepted conn ∨ serving = .registered conn ∨ serving = .dropping conn

/-- `serveConnection` has started and has not yet removed its connection. -/
def Goroutine.Serves (g : Goroutine) : Prop :=
  g = .running ∨ g = .returning ∨ g = .removing

/-- What holds of each connection at any time. -/
structure Tracked (s : State) (c : Conn) : Prop where
  /-- It is in the server from its registration to its removal. -/
  registered : c ∈ s.connections ↔ s.serving = .registered c ∨ (s.goroutines c).Serves
  fresh : s.serving.Holds c → s.goroutines c = .absent
  known : s.goroutines c ≠ .absent ∨ s.serving.Holds c → c ∈ s.accepted
  left : s.goroutines c = .removing ∨ s.goroutines c = .finished → c ∈ s.closedConns
  /-- It does not get lost. -/
  accounted : c ∈ s.accepted → c ∈ s.closedConns ∨ c ∈ s.connections ∨ s.serving.Holds c

theorem tracked_init (c : Conn) : Tracked init c := by
  constructor <;> simp [init, Goroutine.Serves, Serving.Holds]

/-- A step that is about something else, or closes the connection. -/
theorem Tracked.keep (h : Tracked s c) (hgoroutine : t.goroutines c = s.goroutines c)
    (hconnections : c ∈ t.connections ↔ c ∈ s.connections)
    (haccepted : c ∈ t.accepted ↔ c ∈ s.accepted)
    (hclosedConns : c ∈ s.closedConns → c ∈ t.closedConns)
    (hregistered : t.serving = .registered c ↔ s.serving = .registered c)
    (hholds : t.serving.Holds c ↔ s.serving.Holds c) : Tracked t c where
  registered := by
    rw [hconnections, hregistered, hgoroutine]
    exact h.registered
  fresh := by
    rw [hholds, hgoroutine]
    exact h.fresh
  known := by
    rw [hholds, hgoroutine, haccepted]
    exact h.known
  left := by
    rw [hgoroutine]
    exact fun hleft => hclosedConns (h.left hleft)
  accounted := by
    rw [haccepted, hconnections, hholds]
    exact fun hc => (h.accounted hc).imp_left hclosedConns

/-- `Serve` moves between places where it does not hold the connection. -/
theorem Tracked.move (h : Tracked s c) (hgoroutine : t.goroutines c = s.goroutines c)
    (hconnections : c ∈ t.connections ↔ c ∈ s.connections)
    (haccepted : c ∈ t.accepted ↔ c ∈ s.accepted)
    (hclosedConns : c ∈ s.closedConns → c ∈ t.closedConns)
    (hold : ¬s.serving.Holds c) (hnew : ¬t.serving.Holds c) : Tracked t c := by
  refine h.keep hgoroutine hconnections haccepted hclosedConns ⟨fun heq => ?_, fun heq => ?_⟩
    ⟨fun hc => absurd hc hnew, fun hc => absurd hc hold⟩
  · exact absurd (.inr (.inl heq)) hnew
  · exact absurd (.inr (.inl heq)) hold

theorem tracked_step (h : Tracked s c) (htook : Took s a t) : Tracked t c := by
  have hregistered := h.registered
  have hfresh := h.fresh
  have hknown := h.known
  have hleft := h.left
  cases htook with
  | listen hs | listenFails hs | refuse hs | publish hs | acceptFails hs | closeListener hs =>
    refine h.move rfl .rfl .rfl id ?_ ?_ <;> simp [hs, Serving.Holds]
  | @accept conn hs hnew =>
    by_cases hc : c = conn
    · subst hc
      constructor <;> simp_all [Serving.Holds]
    · refine h.move rfl .rfl ?_ id ?_ ?_ <;> simp [hs, Serving.Holds, hc, Ne.symm hc]
  | @reject conn hs _ =>
    by_cases hc : c = conn
    · subst hc
      constructor <;> simp_all [Serving.Holds]
    · refine h.move rfl .rfl .rfl id ?_ ?_ <;> simp [hs, Serving.Holds, Ne.symm hc]
  | @register conn hs _ =>
    by_cases hc : c = conn
    · subst hc
      constructor <;> simp_all [Serving.Holds]
    · refine h.move rfl ?_ .rfl id ?_ ?_ <;> simp [hs, Serving.Holds, hc, Ne.symm hc]
  | @spawn conn hs =>
    by_cases hc : c = conn
    · subst hc
      constructor <;> simp_all [State.setGoroutine, Serving.Holds, Goroutine.Serves]
    · refine h.move (Function.update_of_ne hc _ _) .rfl .rfl id ?_ ?_ <;>
        simp [hs, Serving.Holds, Ne.symm hc]
  | @drop conn hs =>
    by_cases hc : c = conn
    · subst hc
      constructor <;> simp_all [State.closeConn, Serving.Holds]
    · refine h.move rfl .rfl .rfl Finset.mem_insert_of_mem ?_ ?_ <;>
        simp [hs, Serving.Holds, Ne.symm hc]
  | close | closeReturns | closeReturnsUnlistened => exact h.keep rfl .rfl .rfl id .rfl .rfl
  | closeNext | peerCloses =>
    exact h.keep rfl .rfl .rfl Finset.mem_insert_of_mem .rfl .rfl
  | @connectionReturns conn hs =>
    by_cases hc : c = conn
    · subst hc
      constructor <;> simp_all [State.setGoroutine, Goroutine.Serves]
    · exact h.keep (Function.update_of_ne hc _ _) .rfl .rfl id .rfl .rfl
  | @closeConnection conn hs =>
    by_cases hc : c = conn
    · subst hc
      constructor <;> simp_all [State.setGoroutine, State.closeConn, Goroutine.Serves]
    · exact h.keep (Function.update_of_ne hc _ _) .rfl .rfl Finset.mem_insert_of_mem .rfl .rfl
  | @removeConnection conn hs =>
    by_cases hc : c = conn
    · subst hc
      have hnot : s.serving ≠ .registered c := by
        intro heq
        have habsent := hfresh (.inr (.inl heq))
        rw [hs] at habsent
        cases habsent
      constructor <;> simp_all [State.setGoroutine, Goroutine.Serves]
    · exact h.keep (Function.update_of_ne hc _ _) (by simp [hc]) .rfl id .rfl .rfl

theorem started_step (htook : Took s a t)
    (hc : s.goroutines c ≠ .absent) : t.goroutines c ≠ .absent := by
  cases htook with
  | @spawn conn _ | @connectionReturns conn _ | @closeConnection conn _
  | @removeConnection conn _ =>
    by_cases heq : c = conn
    · subst heq
      simp [State.setGoroutine]
    · simp only [State.setGoroutine, Function.update_of_ne heq]
      exact hc
  | _ => exact hc

theorem finished_step (h : Tracked s c) (htook : Took s a t)
    (hc : s.goroutines c = .finished) : t.goroutines c = .finished := by
  cases htook with
  | @spawn conn hs =>
    have hne : c ≠ conn := by
      rintro rfl
      rw [h.fresh (.inr (.inl hs))] at hc
      cases hc
    exact (Function.update_of_ne hne _ _).trans hc
  | @connectionReturns conn hs | @closeConnection conn hs | @removeConnection conn hs =>
    have hne : c ≠ conn := by
      rintro rfl
      rw [hs] at hc
      cases hc
    exact (Function.update_of_ne hne _ _).trans hc
  | _ => exact hc

theorem connections_step (htook : Took s a t)
    (hc : c ∈ s.connections) (ha : a ≠ .removeConnection c) : c ∈ t.connections := by
  cases htook with
  | register => exact Finset.mem_insert_of_mem hc
  | @removeConnection conn _ =>
    refine Finset.mem_erase.mpr ⟨?_, hc⟩
    rintro rfl
    exact ha rfl
  | _ => exact hc

/-! ## The listener -/

namespace State

/-- The listener of `Serve` is in the server while it accepts, and is closed once it has
    returned. -/
def ServingOk (s : State) : Prop :=
  match s.serving with
  | .idle => s.published = false ∧ s.listener ≠ .listening
  | .listened => s.published = false
  | .accepting | .accepted _ | .registered _ | .dropping _ => s.published = true
  | .returning => True
  | .returned => s.listener ≠ .listening

/-- What `Close` has found in the server, it has closed or is going to close. -/
def ClosingOk (s : State) : Prop :=
  match s.closing with
  | .idle => s.closed = false
  | .closing connections listener =>
    s.closed = true ∧ (s.published = true → listener = true) ∧
      ∀ c ∈ s.connections, c ∈ s.closedConns ∨ c ∈ connections
  | .returned =>
    s.closed = true ∧ (s.published = true → s.listener ≠ .listening) ∧
      ∀ c ∈ s.connections, c ∈ s.closedConns

end State

/-- What holds of every connection, of `Serve` and of `Close` -/
structure Inv (s : State) : Prop where
  tracked : ∀ c, Tracked s c
  serving : s.ServingOk
  closing : s.ClosingOk

theorem inv_init : Inv init := ⟨tracked_init, ⟨rfl, nofun⟩, rfl⟩

/-- `Close` does not see a step that publishes and registers nothing, and leaves what is
    closed closed. -/
theorem closingOk_keep (h : s.ClosingOk) (hclosing : t.closing = s.closing)
    (hclosed : t.closed = s.closed) (hpublished : t.published = true → s.published = true)
    (hlistener : s.published = true → s.listener ≠ .listening → t.listener ≠ .listening)
    (hconnections : ∀ c ∈ t.connections, c ∈ s.connections)
    (hclosedConns : ∀ c ∈ s.closedConns, c ∈ t.closedConns) : t.ClosingOk := by
  unfold State.ClosingOk at h ⊢
  rw [hclosing, hclosed]
  cases hs : s.closing with
  | idle =>
    rw [hs] at h
    exact h
  | closing connections listener =>
    rw [hs] at h
    obtain ⟨hclosed, hlisten, hconns⟩ := h
    refine ⟨hclosed, fun hp => hlisten (hpublished hp), fun c hc => ?_⟩
    exact (hconns c (hconnections c hc)).imp_left (hclosedConns c)
  | returned =>
    rw [hs] at h
    obtain ⟨hclosed, hlisten, hconns⟩ := h
    refine ⟨hclosed, fun hp => ?_, fun c hc => hclosedConns c (hconns c (hconnections c hc))⟩
    exact hlistener (hpublished hp) (hlisten (hpublished hp))

/-- Before `Close` has begun, anything may be added. -/
theorem closingOk_of_open (h : s.ClosingOk) (hopen : s.closed = false)
    (hclosing : t.closing = s.closing) (hclosed : t.closed = s.closed) : t.ClosingOk := by
  unfold State.ClosingOk at h ⊢
  rw [hclosing, hclosed]
  cases hs : s.closing with
  | idle => exact hopen
  | closing connections listener =>
    rw [hs, hopen] at h
    cases h.1
  | returned =>
    rw [hs, hopen] at h
    cases h.1

theorem closingOk_step (h : Inv s) (htook : Took s a t) : t.ClosingOk := by
  have hserving := h.serving
  have hclosing := h.closing
  cases htook with
  | listen hs =>
    -- `s.listener` is not yet set, so `Close` does not rely on it
    rw [State.ServingOk, hs] at hserving
    refine closingOk_keep hclosing rfl rfl id ?_ (fun _ => id) (fun _ => id)
    intro hpublished
    rw [hserving.1] at hpublished
    cases hpublished
  | listenFails | refuse | accept | acceptFails | reject | spawn | connectionReturns =>
    exact closingOk_keep hclosing rfl rfl id (fun _ => id) (fun _ => id) fun _ => id
  | publish _ hopen | register _ hopen => exact closingOk_of_open hclosing hopen rfl rfl
  | closeListener =>
    exact closingOk_keep hclosing rfl rfl id (fun _ _ => nofun) (fun _ => id) fun _ => id
  | drop | closeConnection | peerCloses =>
    exact closingOk_keep hclosing rfl rfl id (fun _ => id) (fun _ => id)
      fun _ => Finset.mem_insert_of_mem
  | removeConnection =>
    exact closingOk_keep hclosing rfl rfl id (fun _ => id) (fun _ => Finset.mem_of_mem_erase)
      fun _ => id
  | close => exact ⟨rfl, id, fun _ => .inr⟩
  | @closeNext conn connections listener hs =>
    rw [State.ClosingOk, hs] at hclosing
    obtain ⟨hclosed, hlisten, hconns⟩ := hclosing
    refine ⟨hclosed, hlisten, fun c hc => ?_⟩
    by_cases heq : c = conn
    · subst heq
      exact .inl (Finset.mem_insert_self _ _)
    · exact (hconns c hc).imp Finset.mem_insert_of_mem fun hmem => Finset.mem_erase.mpr ⟨heq, hmem⟩
  | closeReturns hs =>
    rw [State.ClosingOk, hs] at hclosing
    obtain ⟨hclosed, _, hconns⟩ := hclosing
    refine ⟨hclosed, fun _ => nofun, fun c hc => ?_⟩
    exact (hconns c hc).resolve_right (Finset.notMem_empty c)
  | closeReturnsUnlistened hs =>
    rw [State.ClosingOk, hs] at hclosing
    obtain ⟨hclosed, hlisten, hconns⟩ := hclosing
    refine ⟨hclosed, ?_, fun c hc => (hconns c hc).resolve_right (Finset.notMem_empty c)⟩
    exact fun hpublished => absurd (hlisten hpublished) Bool.false_ne_true

theorem servingOk_step (h : s.ServingOk) (htook : Took s a t) : t.ServingOk := by
  unfold State.ServingOk at h ⊢
  cases htook with
  | listen hs | listenFails hs =>
    rw [hs] at h
    simp [h]
  | publish | refuse | acceptFails => trivial
  | accept hs | reject hs | register hs | spawn hs =>
    rw [hs] at h
    exact h
  | drop => trivial
  | closeListener => simp [State.closeListener]
  | close | closeNext | closeReturnsUnlistened | connectionReturns | closeConnection
  | removeConnection | peerCloses => exact h
  | closeReturns => cases hs : s.serving <;> simp_all [State.closeListener]

theorem inv_step (h : Inv s) (htook : Took s a t) : Inv t where
  tracked c := tracked_step (h.tracked c) htook
  serving := servingOk_step h.serving htook
  closing := closingOk_step h htook

theorem inv_run {as : List Action} (hs : Inv s) (h : Run step anyStep s as t) : Inv t :=
  h.invariant (fun _ _ _ h _ hstep => inv_step h (took_of_step hstep)) hs

/-! ## After `Close` -/

/-- A connection that `Accept` returns once `closed` is set is not passed on. -/
theorem unserved_step (h : s.closed = true ∧ s.serving ≠ .registered c ∧ s.goroutines c = .absent)
    (htook : Took s a t) :
    t.closed = true ∧ t.serving ≠ .registered c ∧ t.goroutines c = .absent := by
  obtain ⟨hclosed, hserving, habsent⟩ := h
  cases htook with
  | publish _ hopen | register _ hopen =>
    rw [hclosed] at hopen
    cases hopen
  | listen | listenFails | refuse | accept | acceptFails | reject | drop | closeListener =>
    exact ⟨hclosed, nofun, habsent⟩
  | @spawn conn hs =>
    have hne : c ≠ conn := by
      rintro rfl
      exact hserving hs
    exact ⟨hclosed, nofun, (Function.update_of_ne hne _ _).trans habsent⟩
  | close => exact ⟨rfl, hserving, habsent⟩
  | closeNext | closeReturns | closeReturnsUnlistened | peerCloses =>
    exact ⟨hclosed, hserving, habsent⟩
  | @connectionReturns conn hs | @closeConnection conn hs | @removeConnection conn hs =>
    have hne : c ≠ conn := by
      rintro rfl
      rw [habsent] at hs
      cases hs
    exact ⟨hclosed, hserving, (Function.update_of_ne hne _ _).trans habsent⟩

/-- Every goroutine has finished, or waits for its listener or its connection, which is still
    open: `Accept` and `AcceptStream` return at once when it is closed. -/
def Quiescent (s : State) : Prop :=
  (s.serving = .idle ∨ s.serving = .returned ∨
    s.serving = .accepting ∧ s.listener = .listening) ∧
  ∀ c, s.goroutines c = .absent ∨ s.goroutines c = .finished ∨
    s.goroutines c = .running ∧ c ∉ s.closedConns

/-- **`Close` leaves nothing open.**  Once it has returned and the other goroutines have come to
    rest, no listener is open and every connection that was ever accepted is closed; and from
    its return on, no connection that is accepted is served. -/
theorem close_leaves_nothing_open {s : State} {as : List Action} (h : Run step anyStep init as s)
    (hreturned : s.closing = .returned) :
    (Quiescent s → s.listener ≠ .listening ∧ ∀ c ∈ s.accepted, c ∈ s.closedConns) ∧
    ∀ bs t, Run step anyStep s bs t → ∀ c ∉ s.accepted, t.goroutines c = .absent := by
  obtain ⟨htracked, hserving, hclosing⟩ := inv_run inv_init h
  rw [State.ClosingOk, hreturned] at hclosing
  obtain ⟨hclosed, hlisten, hconns⟩ := hclosing
  constructor
  · rintro ⟨hrest, -⟩
    have hholds : ∀ c, ¬s.serving.Holds c := by
      intro c
      rcases hrest with hs | hs | ⟨hs, -⟩ <;> simp [hs, Serving.Holds]
    constructor
    · rw [State.ServingOk] at hserving
      rcases hrest with hs | hs | ⟨hs, hlistening⟩ <;> rw [hs] at hserving
      · exact hserving.2
      · exact hserving
      -- `Serve` cannot be waiting, since `Close` has closed its listener
      · exact absurd hlistening (hlisten hserving)
    · intro c hc
      rcases (htracked c).accounted hc with hc | hc | hc
      · exact hc
      · exact hconns c hc
      · exact absurd hc (hholds c)
  · intro bs t hrest c hc
    have habsent : s.goroutines c = .absent := by
      by_contra hne
      exact hc ((htracked c).known (.inl hne))
    have hnot : s.serving ≠ .registered c := fun heq =>
      hc ((htracked c).known (.inr (.inr (.inl heq))))
    have hinv := hrest.invariant (fun _ _ _ h _ hstep => unserved_step h (took_of_step hstep))
      ⟨hclosed, hnot, habsent⟩
    exact hinv.2.2

/-- `Close` comes between the return of `Accept` and the registration of a second connection. -/
theorem close_leaves_nothing_open_while_accepting : ∃ s as, Run step anyStep init as s ∧
    s.closing = .returned ∧ Quiescent s ∧ s.listener ≠ .listening ∧ s.accepted = {1, 0} ∧
    ∀ c ∈ s.accepted, c ∈ s.closedConns := by
  have hrun : ∃ s, Run step anyStep init
      [.listen, .publish, .accept 0, .register, .spawn, .accept 1, .close, .register, .closeNext 0,
        .closeReturns, .drop, .closeListener, .connectionReturns 0, .closeConnection 0,
        .removeConnection 0] s ∧ s.closing = .returned ∧ s.serving = .returned ∧
      s.accepted = {1, 0} ∧
      s.goroutines = Function.update (Function.update (Function.update (Function.update
        (fun _ => .absent) 0 .running) 0 .returning) 0 .removing) 0 .finished :=
    ⟨_, run_of_exec rfl, rfl, rfl, rfl, rfl⟩
  obtain ⟨s, hrun, hreturned, hserving, haccepted, hgoroutines⟩ := hrun
  have hquiescent : Quiescent s := by
    refine ⟨.inr (.inl hserving), fun c => ?_⟩
    rw [hgoroutines]
    by_cases hc : c = 0
    · simp [hc]
    · simp [hc]
  obtain ⟨hlistener, hconns⟩ := (close_leaves_nothing_open hrun hreturned).1 hquiescent
  exact ⟨s, _, hrun, hreturned, hquiescent, hlistener, haccepted, hconns⟩

end Ssh3.Go.Serve
