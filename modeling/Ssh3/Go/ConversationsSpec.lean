/-
  Ssh3.Go.ConversationsSpec

  What a Go server does with channels and datagrams, and what it keeps of a connection.

  Messages go to the conversations they name and to no others, and a message that can only
  have been sent after the response of its conversation finds it.  The map from connections
  to managers, however, may keep an entry for good: `removeConnection` runs once for a
  connection, and a request handler may ask for its manager after that.
-/

import Ssh3.Go.ConversationsInv

namespace Ssh3.Go.Conversations

open Transition Tasks
open Serve (Conn Took)

/-! ## Nothing is missed -/

/-- The peer can have seen the response of the conversation, which is still being handled on
    a connection that has not been removed. -/
def State.Live (s : State) (conv : Conversation) : Prop :=
  (s.handlers conv).Answered ∧ s.handlers conv ≠ .ended ∧ ¬s.Removed conv.connection

variable {conv : Conversation} {s : State} {i : Nat} {task : Incoming} {a : Action} {c : Conn}

/-- The manager of a conversation that is being handled is in the server, and its lock is
    taken or the conversation is in the map. -/
theorem Inv.live (h : Inv s) (hlive : s.Live conv) :
    ∃ m, s.conversations conv.connection = some m ∧
      ((s.managers m).lock = none →
        (s.managers m).conversations conv.controlStream = some conv) := by
  obtain ⟨hanswered, hended, hremoved⟩ := hlive
  have hok := h.handlers conv
  cases hhandler : s.handlers conv with
  | absent | authenticating | refused | hasManager _ | locked _ =>
    rw [hhandler] at hanswered
    cases hanswered
  | responded m =>
    rw [hhandler] at hok
    refine ⟨m, hok.1.current hremoved, fun hlock => ?_⟩
    rw [hok.2] at hlock
    cases hlock
  | inserted m =>
    rw [hhandler] at hok
    exact ⟨m, hok.1.current hremoved, fun _ => hok.2.2⟩
  | handling m =>
    rw [hhandler] at hok
    exact ⟨m, hok.1.current hremoved, fun _ => hok.2⟩
  | ended => exact absurd hhandler hended

/-- Why a message has just been taken for one of an unknown conversation. -/
def State.Misses (s : State) (i : Nat) (task : Incoming) : Prop :=
  ∃ old, s.incoming[i]? = some old ∧ old.connection = task.connection ∧
    old.message = task.message ∧
    (s.conversations old.connection = none ∨
      ∃ m controlStreamID, old.phase = .named m controlStreamID ∧ (s.managers m).lock = none ∧
        (s.managers m).conversations controlStreamID = none)

theorem deliver_eq (s : State) (i : Nat) (task : Incoming) (conv : Conversation) :
    ∃ phase channelsAcceptQueue datagrams, ¬phase.Unknown ∧
      s.deliver i task conv = { s.setPhase i task phase with channelsAcceptQueue, datagrams } := by
  unfold State.deliver
  split
  · exact ⟨.delivered conv, _, _, nofun, rfl⟩
  · split
    · exact ⟨.panicked _, _, _, nofun, rfl⟩
    · exact ⟨.rejected (.malformed _), _, _, nofun, rfl⟩
    · split
      · exact ⟨.panicked _, _, _, nofun, rfl⟩
      · exact ⟨.rejected (.malformed _), _, _, nofun, rfl⟩
      · exact ⟨.delivered conv, _, _, nofun, rfl⟩

variable {t : State}

theorem advanced_eq (htask : s.incoming[i]? = some task) (hadvanced : Advanced s i task t) :
    ∃ phase channelsAcceptQueue datagrams,
      t = { s.setPhase i task phase with channelsAcceptQueue, datagrams } ∧
      (phase.Unknown → s.Misses i { task with phase }) := by
  cases hadvanced with
  | @moves phase _ hknown => exact ⟨phase, _, _, rfl, fun hu => absurd hu hknown⟩
  | unauthenticated hphase hnone =>
    exact ⟨_, _, _, rfl, fun _ => ⟨task, htask, rfl, rfl, .inl hnone⟩⟩
  | unknown hphase hlock hnone =>
    exact ⟨_, _, _, rfl, fun _ => ⟨task, htask, rfl, rfl, .inr ⟨_, _, hphase, hlock, hnone⟩⟩⟩
  | @delivers conv _ _ _ =>
    obtain ⟨phase, queues, datagrams, hknown, heq⟩ := deliver_eq s i task conv
    exact ⟨phase, queues, datagrams, heq, fun hu => absurd hu hknown⟩

theorem misses_of_advanced {k : Nat} {other : Incoming}
    (htask : s.incoming[i]? = some task) (hadvanced : Advanced s i task t)
    (hother : t.incoming[k]? = some other) (hunknown : other.phase.Unknown) :
    s.incoming[k]? = some other ∨ s.Misses k other := by
  obtain ⟨phase, queues, datagrams, rfl, hmisses⟩ := advanced_eq htask hadvanced
  refine forall_set (P := fun k other => other.phase.Unknown → s.incoming[k]? = some other ∨
    s.Misses k other) (fun hu => .inr (hmisses hu)) (fun _ _ hget _ _ => .inl hget) k other hother
    hunknown

theorem misses_of_moved (h : Inv s) (hmoved : Moved s a t) {k : Nat}
    {other : Incoming} (hother : t.incoming[k]? = some other) (hunknown : other.phase.Unknown) :
    s.incoming[k]? = some other ∨ s.Misses k other := by
  cases hmoved with
  | advance htask hnext =>
    exact misses_of_advanced htask (advanced_of_eq_some h htask hnext) hother hunknown
  | @arrive connection message =>
    refine .inl ?_
    revert hunknown
    refine forall_append (P := fun k other => other.phase.Unknown → s.incoming[k]? = some other)
      (by nofun) (fun _ _ hget _ => hget) k other hother
  | serve | request | refuse | getManager | createManager | lock | respond | insert | unlock
  | remove | skip => exact .inl hother

/-- A message for a conversation that is being handled is not missed. -/
theorem Inv.not_misses (h : Inv s) (hlive : s.Live conv)
    (hconnection : task.connection = conv.connection)
    (hnames : task.message.Names conv.controlStream) : ¬s.Misses i task := by
  rintro ⟨old, hold, hconn, hmessage, hwhy⟩
  obtain ⟨m, hm, hentry⟩ := h.live hlive
  rw [← hmessage] at hnames
  rw [hconn, hconnection, hm] at hwhy
  rcases hwhy with hnone | ⟨m', id, hphase, hlock, hnone⟩
  · cases hnone
  · have hok := h.incoming i old hold
    rw [State.IncomingOk, hphase] at hok
    have hid := Message.names_unique hok.2 hnames
    -- it looked into the manager that is in the server
    have hm' := hok.1.current (by rw [hconn, hconnection]; exact hlive.2.2)
    rw [hconn, hconnection, hm, Option.some.injEq] at hm'
    subst hm' hid
    rw [hentry hlock] at hnone
    cases hnone

/-- A handler that has answered goes on handling its conversation, and then ends. -/
theorem handler_of_moved (h : Inv s) (hmoved : Moved s a t)
    (hanswered : (s.handlers conv).Answered) :
    (t.handlers conv).Answered ∧ (s.handlers conv = .ended → t.handlers conv = .ended) := by
  have hset : ∀ conv' old new, s.handlers conv' = old → old ≠ .ended →
      (old.Answered → new.Answered) → t.handlers = Function.update s.handlers conv' new →
      (t.handlers conv).Answered ∧ (s.handlers conv = .ended → t.handlers conv = .ended) := by
    intro conv' old new hold hne hnew ht
    rw [ht]
    by_cases hc : conv = conv'
    · subst hc
      rw [Function.update_self]
      rw [hold] at hanswered ⊢
      exact ⟨hnew hanswered, fun hended => absurd hended hne⟩
    · rw [Function.update_of_ne hc]
      exact ⟨hanswered, id⟩
  cases hmoved with
  | request hhandler | refuse hhandler | getManager hhandler | createManager hhandler
  | lock hhandler | respond hhandler => exact hset _ _ _ hhandler nofun nofun rfl
  | insert hhandler | unlock hhandler | remove hhandler =>
    refine hset _ _ _ hhandler nofun ?_ rfl
    exact fun _ => trivial
  | serve | arrive | skip => exact ⟨hanswered, id⟩
  | advance htask hnext =>
    obtain ⟨_, _, _, rfl, _⟩ := advanced_eq htask (advanced_of_eq_some h htask hnext)
    exact ⟨hanswered, id⟩

theorem removed_of_moved (h : Inv s) (hmoved : Moved s a t)
    (hremoved : s.Removed c) : t.Removed c := by
  cases hmoved with
  | serve htook => exact Serve.finished_step (h.tracked c) htook hremoved
  | advance htask hnext =>
    obtain ⟨_, _, _, rfl, _⟩ := advanced_eq htask (advanced_of_eq_some h htask hnext)
    exact hremoved
  | _ => exact hremoved

/-- A conversation that is being handled was so at any time since the response. -/
theorem live_of_moved (h : Inv s) (hmoved : Moved s a t)
    (hanswered : (s.handlers conv).Answered) (hlive : t.Live conv) :
    s.Live conv := by
  obtain ⟨_, hended, hremoved⟩ := hlive
  refine ⟨hanswered, fun hs => ?_, fun hs => ?_⟩
  · exact hended ((handler_of_moved h hmoved hanswered).2 hs)
  · exact hremoved (removed_of_moved h hmoved hs)

/-- What holds of the messages that arrive after the response of a conversation. -/
structure Heard (conv : Conversation) (n : Nat) (s : State) : Prop where
  inv : Inv s
  answered : (s.handlers conv).Answered
  known : ∀ (i : Nat) (task : Incoming), n ≤ i → s.incoming[i]? = some task →
    task.connection = conv.connection → task.message.Names conv.controlStream →
    task.phase.Unknown → ¬s.Live conv

theorem heard_step {n : Nat} (h : Heard conv n s) (hmoved : Moved s a t) : Heard conv n t where
  inv := inv_step h.inv hmoved
  answered := (handler_of_moved h.inv hmoved h.answered).1
  known i task hi hget hconnection hnames hunknown hlive := by
    have hbefore := live_of_moved h.inv hmoved h.answered hlive
    rcases misses_of_moved h.inv hmoved hget hunknown with hold | hmisses
    · exact h.known i task hi hold hconnection hnames hunknown hbefore
    · exact h.inv.not_misses hbefore hconnection hnames hmisses

/-- **Channels and datagrams go to authenticated conversations, and none is missed.**  What is
    queued for a conversation came on its connection and named its control stream, and the
    authenticated handler had inserted the conversation.  And a message that arrives after
    the response of a conversation and names it is taken for one of an unknown conversation
    only if the conversation has ended, or `serveConnection` has returned and removed the
    connection. -/
theorem delivered_to_authenticated {s : State} {as : List Action}
    (h : Run step anyStep init as s) :
    (∀ conv, ∀ ch ∈ s.channelsAcceptQueue conv,
      s.InsertedAt conv ch.connection ch.info.conversationStreamID) ∧
    (∀ conv, ∀ d ∈ s.datagrams conv, s.InsertedAt conv d.connection d.controlStreamID) ∧
    ∀ bs t conv (i : Nat) (task : Incoming), Run step anyStep s bs t →
      (s.handlers conv).Answered → s.incoming.length ≤ i → t.incoming[i]? = some task →
      task.connection = conv.connection → task.message.Names conv.controlStream →
      task.phase.Unknown → t.handlers conv = .ended ∨ t.Removed conv.connection := by
  have hinv := inv_run inv_init h
  refine ⟨hinv.queued, hinv.added, ?_⟩
  intro bs t conv i task hrun hanswered hi hget hconnection hnames hunknown
  have hstart : Heard conv s.incoming.length s := by
    refine ⟨hinv, hanswered, fun k other hk hother => ?_⟩
    rw [List.getElem?_eq_none hk] at hother
    cases hother
  have hend := hrun.invariant (fun _ _ _ h _ hstep => heard_step h (moved_of_step hstep)) hstart
  have hdead := hend.known i task hi hget hconnection hnames hunknown
  by_contra hnot
  rw [not_or] at hnot
  exact hdead ⟨hend.answered, hnot.1, hnot.2⟩

/-- A channel of type "session" for the conversation with control stream 0. -/
def sessionStream : GoStream where
  pieces := [⟨[0, 7, 115, 101, 115, 115, 105, 111, 110, 0x40, 0x40], by decide⟩]
  ending := .eof
  eager := false

/-- The stream comes between the response and the insertion, and waits for the lock. -/
theorem delivered_to_authenticated_early : ∃ as s bs t, Run step anyStep init as s ∧
    Run step anyStep s bs t ∧ (s.handlers ⟨0, 0⟩).Answered ∧ s.incoming.length ≤ 0 ∧
    (t.incoming.map Incoming.phase) = [.delivered ⟨0, 0⟩] ∧
    (t.channelsAcceptQueue ⟨0, 0⟩).length = 1 ∧
    ∀ ch ∈ t.channelsAcceptQueue ⟨0, 0⟩,
      t.InsertedAt ⟨0, 0⟩ ch.connection ch.info.conversationStreamID := by
  have hresponds : ∃ s, Run step anyStep init
      [.serve .listen, .serve .publish, .serve (.accept 0), .serve .register, .serve .spawn,
        .request ⟨0, 0⟩, .handle ⟨0, 0⟩, .handle ⟨0, 0⟩, .handle ⟨0, 0⟩] s ∧
      s.handlers ⟨0, 0⟩ = .responded 0 ∧ s.incoming = [] ∧
      ∃ t, Run step anyStep s
        [.acceptStream 0 4 sessionStream, .advance 0, .advance 0, .handle ⟨0, 0⟩, .handle ⟨0, 0⟩,
          .advance 0, .advance 0] t ∧
        (t.incoming.map Incoming.phase) = [.delivered ⟨0, 0⟩] ∧
        (t.channelsAcceptQueue ⟨0, 0⟩).length = 1 :=
    ⟨_, run_of_exec rfl, rfl, rfl, _, run_of_exec rfl, rfl, rfl⟩
  obtain ⟨s, hrun, hhandler, hincoming, t, hrest, hphase, hlength⟩ := hresponds
  refine ⟨_, s, _, t, hrun, hrest, ?_, ?_, hphase, hlength, ?_⟩
  · rw [hhandler]
    trivial
  · rw [hincoming]
    exact Nat.le_refl 0
  · exact (delivered_to_authenticated (hrun.append hrest)).1 ⟨0, 0⟩

/-! ## What is left of a connection -/

/-- What a step does to the two maps of the server. -/
inductive Maps (s : State) (a : Action) (t : State) : Prop
  | serve {act : Serve.Action} (ha : a = .serve act) (htook : Took s.serve act t.serve)
      (hmap : t.conversations = s.conversationsAfter act)
  | manager {conv : Conversation} (ha : a = .handle conv)
      (hhandler : s.handlers conv = .authenticating) (hserve : t.serve = s.serve)
      (hentry : t.conversations conv.connection ≠ none)
      (hothers : ∀ c ≠ conv.connection, t.conversations c = s.conversations c)
  | neither (hhandler : ∀ conv, a = .handle conv → s.handlers conv ≠ .authenticating)
      (hserve : t.serve = s.serve) (hmap : t.conversations = s.conversations)

theorem maps_of_moved (h : Inv s) (hmoved : Moved s a t) : Maps s a t := by
  have hother : ∀ conv handler, a = .handle conv → s.handlers conv = handler →
      handler ≠ .authenticating →
      ∀ conv', a = .handle conv' → s.handlers conv' ≠ .authenticating := by
    rintro conv handler rfl hhandler hne conv' heq
    cases heq
    rwa [hhandler]
  cases hmoved with
  | serve htook => exact .serve rfl htook rfl
  | getManager hhandler hmanager =>
    refine .manager rfl hhandler rfl ?_ fun _ _ => rfl
    rw [State.setHandler, hmanager]
    exact Option.some_ne_none _
  | createManager hhandler hmanager =>
    refine .manager rfl hhandler rfl ?_ fun c hc => Function.update_of_ne hc _ _
    simp
  | lock hhandler | respond hhandler | insert hhandler | unlock hhandler | remove hhandler =>
    refine .neither (hother _ _ rfl hhandler ?_) rfl rfl
    intro heq
    cases heq
  | request | refuse =>
    refine .neither ?_ rfl rfl
    intro conv heq
    cases heq
  | arrive ha | skip ha => exact .neither (fun conv heq => absurd heq (ha conv)) rfl rfl
  | advance htask hnext =>
    obtain ⟨_, _, _, rfl, _⟩ := advanced_eq htask (advanced_of_eq_some h htask hnext)
    refine .neither ?_ rfl rfl
    intro conv heq
    cases heq

theorem conversationsAfter_of_ne {act : Serve.Action}
    (h : act ≠ .removeConnection c) : s.conversationsAfter act c = s.conversations c := by
  cases act with
  | removeConnection conn =>
    refine Function.update_of_ne ?_ _ _
    rintro rfl
    exact h rfl
  | _ => rfl

/-- The handler that asks for a manager is on a connection that has not been removed. -/
def InTime (s : State) : Action → Prop
  | .handle conv => s.handlers conv = .authenticating → conv.connection ∈ s.serve.connections
  | _ => True

instance (s : State) : (a : Action) → Decidable (InTime s a)
  | .handle conv =>
    inferInstanceAs (Decidable (s.handlers conv = .authenticating →
      conv.connection ∈ s.serve.connections))
  | .serve _ | .request _ | .refuse _ | .acceptStream _ _ _ | .receiveDatagram _ _ | .advance _ =>
    .isTrue trivial

/-- Every key of `s.conversations` is a key of `s.connections`. -/
def NoLeak (s : State) : Prop := ∀ c, s.conversations c ≠ none → c ∈ s.serve.connections

theorem noLeak_step (h : Inv s) (hguard : InTime s a)
    (hmoved : Moved s a t) (hleak : NoLeak s) : NoLeak t := by
  intro c hc
  cases maps_of_moved h hmoved with
  | @serve act _ htook hmap =>
    rw [hmap] at hc
    have hne : act ≠ .removeConnection c := by
      rintro rfl
      exact hc (Function.update_self _ _ _)
    rw [conversationsAfter_of_ne hne] at hc
    exact Serve.connections_step htook (hleak c hc) hne
  | @manager conv ha hhandler hserve _ hothers =>
    rw [hserve]
    by_cases heq : c = conv.connection
    · subst ha heq
      exact hguard hhandler
    · rw [hothers c heq] at hc
      exact hleak c hc
  | neither _ hserve hmap =>
    rw [hserve]
    rw [hmap] at hc
    exact hleak c hc

/-- An entry for a connection that has been removed. -/
def Leaked (s : State) (c : Conn) : Prop := s.conversations c ≠ none ∧ s.Removed c

/-- `removeConnection` does not run again for the connection. -/
theorem leaked_step (h : Inv s) (hmoved : Moved s a t) (hleaked : Leaked s c) : Leaked t c := by
  obtain ⟨hentry, hremoved⟩ := hleaked
  refine ⟨?_, removed_of_moved h hmoved hremoved⟩
  cases maps_of_moved h hmoved with
  | @serve act _ htook hmap =>
    have hne : act ≠ .removeConnection c := by
      rintro rfl
      generalize t.serve = serve at htook
      cases htook with
      | removeConnection hs =>
        rw [State.Removed, hs] at hremoved
        cases hremoved
    rwa [hmap, conversationsAfter_of_ne hne]
  | @manager conv _ _ _ hnew hothers =>
    by_cases heq : c = conv.connection
    · subst heq
      exact hnew
    · rwa [hothers c heq]
  | neither _ _ hmap => rwa [hmap]

theorem leaked_of_late (h : Inv s) (hmoved : Moved s a t)
    (hlate : ¬InTime s a) : ∃ c, Leaked t c := by
  cases a with
  | handle conv =>
    rw [InTime, Classical.not_imp] at hlate
    obtain ⟨hhandler, hout⟩ := hlate
    have hstarted := h.started conv (by rw [hhandler]; nofun)
    have hremoved : s.Removed conv.connection := by
      rw [(h.tracked conv.connection).registered, not_or] at hout
      have hnot := hout.2
      unfold Serve.Goroutine.Serves at hnot
      unfold State.Removed
      cases hg : s.serve.goroutines conv.connection <;> simp_all
    refine ⟨conv.connection, ?_, removed_of_moved h hmoved hremoved⟩
    cases maps_of_moved h hmoved with
    | serve ha => cases ha
    | manager ha _ _ hentry _ =>
      cases ha
      exact hentry
    | neither hnot _ _ => exact absurd hhandler (hnot conv rfl)
  | _ => exact absurd trivial hlate

theorem not_noLeak (h : Inv s) (hleaked : Leaked s c) : ¬NoLeak s := by
  intro hleak
  have hremoved := hleaked.2
  unfold State.Removed at hremoved
  rcases (h.tracked c).registered.mp (hleak c hleaked.1) with hs | hs
  · have habsent := (h.tracked c).fresh (.inr (.inl hs))
    rw [hremoved] at habsent
    cases habsent
  · rw [hremoved] at hs
    simp [Serve.Goroutine.Serves] at hs

theorem inTime_of_noLeak {as : List Action} (h : Run step anyStep s as t)
    (hs : Inv s) (hleak : NoLeak t) : Run step InTime s as t := by
  induction h with
  | nil s => exact .nil s
  | @cons s t u a as _ hstep hrest ih =>
    have hmoved := moved_of_step hstep
    have ht := inv_step hs hmoved
    refine .cons ?_ hstep (ih ht hleak)
    by_contra hlate
    obtain ⟨c, hleaked⟩ := leaked_of_late hs hmoved hlate
    have hend : Inv u ∧ Leaked u c :=
      hrest.invariant (P := fun s => Inv s ∧ Leaked s c)
        (fun _ _ _ h _ hstep => ⟨inv_step h.1 (moved_of_step hstep),
          leaked_step h.1 (moved_of_step hstep) h.2⟩) ⟨ht, hleaked⟩
    exact not_noLeak hend.1 hend.2 hleak

/-- **No entry is left behind**, exactly if every request handler that asks for a manager does
    so before its connection is removed. -/
theorem noLeak_iff {s : State} {as : List Action} (h : Run step anyStep init as s) :
    NoLeak s ↔ Run step InTime init as s := by
  refine ⟨inTime_of_noLeak h inv_init, fun hrun => ?_⟩
  have hend := hrun.invariant (P := fun s => Inv s ∧ NoLeak s)
    (fun _ _ _ h hguard hstep => ⟨inv_step h.1 (moved_of_step hstep),
      noLeak_step h.1 hguard (moved_of_step hstep) h.2⟩)
    ⟨inv_init, fun _ hc => absurd rfl hc⟩
  exact hend.2

/-- The request is authenticated before its connection is closed and removed. -/
theorem noLeak_iff_in_time : ∃ as s, Run step anyStep init as s ∧ Run step InTime init as s ∧
    s.serve.goroutines 0 = .finished ∧ NoLeak s := by
  have hrun : ∃ s, Run step InTime init
      [.serve .listen, .serve .publish, .serve (.accept 0), .serve .register, .serve .spawn,
        .request ⟨0, 0⟩, .handle ⟨0, 0⟩, .serve (.connectionReturns 0),
        .serve (.closeConnection 0), .serve (.removeConnection 0), .handle ⟨0, 0⟩] s ∧
      s.serve.goroutines 0 = .finished :=
    ⟨_, run_of_exec rfl, rfl⟩
  obtain ⟨s, hrun, hfinished⟩ := hrun
  have hany : Run step anyStep init _ s := hrun.mono fun _ _ _ => trivial
  exact ⟨_, s, hany, hrun, hfinished, (noLeak_iff hany).mpr hrun⟩

/-- A request is still being authenticated when its connection is closed and removed. -/
theorem leak_of_late_handler : ∃ s as, Run step anyStep init as s ∧
    s.conversations 0 = some 0 ∧ 0 ∈ s.serve.closedConns ∧ 0 ∉ s.serve.connections := by
  have hrun : ∃ s, Run step anyStep init
      [.serve .listen, .serve .publish, .serve (.accept 0), .serve .register, .serve .spawn,
        .request ⟨0, 0⟩, .serve (.peerCloses 0), .serve (.connectionReturns 0),
        .serve (.closeConnection 0), .serve (.removeConnection 0), .handle ⟨0, 0⟩] s ∧
      s.conversations 0 = some 0 ∧ s.serve.closedConns = {0} ∧ s.serve.connections = ∅ :=
    ⟨_, run_of_exec rfl, rfl, rfl, rfl⟩
  obtain ⟨s, hrun, hentry, hclosed, hconnections⟩ := hrun
  exact ⟨s, _, hrun, hentry, by rw [hclosed]; decide, by rw [hconnections]; decide⟩

end Ssh3.Go.Conversations
