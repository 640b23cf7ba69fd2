/-
  Ssh3.Go.ConversationsInv

  What stays true of the managers, the handlers and the messages of a Go server, in any
  interleaving of its goroutines.

  A handler keeps its manager to itself where it matters: another handler with the same
  manager is on the same connection, so it has another control stream id, and it cannot get
  the lock in between.  What a message finds in a manager was put there under that id by the
  handler of the conversation.
-/

import Ssh3.Go.Conversations

namespace Ssh3.Go.Conversations

open Transition Tasks
open Serve (Conn Took)

/-! ## What stays true of managers and conversations -/

namespace State

def Removed (s : State) (c : Conn) : Prop := s.serve.goroutines c = .finished

/-- The manager was made for the connection, and is the one in the server until the
    connection is removed. -/
structure Current (s : State) (c : Conn) (m : Nat) : Prop where
  created : m < s.created
  connection : (s.managers m).connection = c
  current : ¬s.Removed c → s.conversations c = some m

/-- The handler of an authenticated request on this connection has put the conversation into
    the map under this id. -/
structure InsertedAt (s : State) (conv : Conversation) (c : Conn) (controlStreamID : UInt64) :
    Prop where
  connection : c = conv.connection
  controlStream : controlStreamID = conv.controlStream
  inserted : (s.handlers conv).Inserted

/-- What a handler knows of its manager. -/
def HandlerOk (s : State) (conv : Conversation) : Handler → Prop
  | .absent | .authenticating | .refused | .ended => True
  | .hasManager m => s.Current conv.connection m
  | .locked m | .responded m =>
    s.Current conv.connection m ∧ (s.managers m).lock = some conv.controlStream
  | .inserted m =>
    s.Current conv.connection m ∧ (s.managers m).lock = some conv.controlStream ∧
      (s.managers m).conversations conv.controlStream = some conv
  | .handling m =>
    s.Current conv.connection m ∧
      (s.managers m).conversations conv.controlStream = some conv

/-- What the goroutine of a message knows. -/
def IncomingOk (s : State) (task : Incoming) : Prop :=
  match task.phase with
  | .start | .rejected _ | .panicked _ => True
  | .hasManager m => s.Current task.connection m
  | .named m controlStreamID =>
    s.Current task.connection m ∧ task.message.Names controlStreamID
  | .found conv | .delivered conv =>
    ∃ controlStreamID, task.message.Names controlStreamID ∧
      s.InsertedAt conv task.connection controlStreamID

end State

/-- What reaches a conversation comes from the connection and control stream it is kept under. -/
structure Inv (s : State) : Prop where
  tracked : ∀ c, Serve.Tracked s.serve c
  started : ∀ conv, s.handlers conv ≠ .absent → s.serve.goroutines conv.connection ≠ .absent
  known : ∀ c m, s.conversations c = some m → s.Current c m
  handlers : ∀ conv, s.HandlerOk conv (s.handlers conv)
  inserted : ∀ m controlStreamID conv, (s.managers m).conversations controlStreamID = some conv →
    s.InsertedAt conv (s.managers m).connection controlStreamID
  incoming : ∀ (i : Nat) (task : Incoming), s.incoming[i]? = some task → s.IncomingOk task
  queued : ∀ conv, ∀ ch ∈ s.channelsAcceptQueue conv,
    s.InsertedAt conv ch.connection ch.info.conversationStreamID
  added : ∀ conv, ∀ d ∈ s.datagrams conv, s.InsertedAt conv d.connection d.controlStreamID

theorem inv_init : Inv init where
  tracked := Serve.tracked_init
  started := by simp [init]
  known := by simp [init]
  handlers _ := trivial
  inserted := by simp [init, newConversationManager]
  incoming := by simp [init]
  queued := by simp [init]
  added := by simp [init]

/-- What every step keeps. -/
structure Extends (s t : State) : Prop where
  current : ∀ c m, s.Current c m → t.Current c m
  inserted : ∀ conv, (s.handlers conv).Inserted → (t.handlers conv).Inserted

namespace Extends

variable {s t : State} (h : Extends s t)

include h

theorem insertedAt {conv : Conversation} {c : Conn} {controlStreamID : UInt64}
    (hat : s.InsertedAt conv c controlStreamID) : t.InsertedAt conv c controlStreamID :=
  ⟨hat.connection, hat.controlStream, h.inserted conv hat.inserted⟩

theorem incomingOk {task : Incoming} (hok : s.IncomingOk task) : t.IncomingOk task := by
  unfold State.IncomingOk at hok ⊢
  cases hphase : task.phase with
  | start | rejected _ | panicked _ => trivial
  | hasManager m =>
    rw [hphase] at hok
    exact h.current _ m hok
  | named m controlStreamID =>
    rw [hphase] at hok
    exact ⟨h.current _ m hok.1, hok.2⟩
  | found conv | delivered conv =>
    rw [hphase] at hok
    obtain ⟨controlStreamID, hnames, hat⟩ := hok
    exact ⟨controlStreamID, hnames, h.insertedAt hat⟩

/-- The facts of a handler stay as long as nobody else changes its entry or takes its lock. -/
theorem handlerOk {conv : Conversation} {handler : Handler} (hok : s.HandlerOk conv handler)
    (hlock : ∀ m, s.Current conv.connection m →
      (s.managers m).lock = some conv.controlStream → (t.managers m).lock = some conv.controlStream)
    (hentry : ∀ m, s.Current conv.connection m →
      (s.managers m).conversations conv.controlStream = some conv →
      (t.managers m).conversations conv.controlStream = some conv) :
    t.HandlerOk conv handler := by
  cases handler with
  | absent | authenticating | refused | ended => trivial
  | hasManager m => exact h.current _ m hok
  | locked m | responded m => exact ⟨h.current _ m hok.1, hlock m hok.1 hok.2⟩
  | inserted m =>
    exact ⟨h.current _ m hok.1, hlock m hok.1 hok.2.1, hentry m hok.1 hok.2.2⟩
  | handling m => exact ⟨h.current _ m hok.1, hentry m hok.1 hok.2⟩

end Extends

/-! ## Each kind of step keeps the invariant -/

section Steps

variable {s : State}

theorem Inv.serve (h : Inv s) {a : Serve.Action} {serve : Serve.State}
    (htook : Took s.serve a serve) : Inv (s.afterServe serve a) := by
  have hkeeps : ∀ c m, s.conversations c = some m → ¬(s.afterServe serve a).Removed c →
      s.conversationsAfter a c = some m := by
    intro c m hm hremoved
    cases htook with
    | @removeConnection conn _ =>
      have hne : c ≠ conn := by
        rintro rfl
        exact hremoved (Function.update_self _ _ _)
      exact (Function.update_of_ne hne _ _).trans hm
    | _ => exact hm
  have hsubset : ∀ c m, s.conversationsAfter a c = some m → s.conversations c = some m := by
    intro c m hm
    cases a with
    | removeConnection conn =>
      by_cases hc : c = conn
      · subst hc
        rw [State.conversationsAfter, Function.update_self] at hm
        cases hm
      · rwa [State.conversationsAfter, Function.update_of_ne hc] at hm
    | _ => exact hm
  have hext : Extends s (s.afterServe serve a) := by
    refine ⟨fun c m hm => ⟨hm.created, hm.connection, fun hremoved => ?_⟩, fun _ hi => hi⟩
    refine hkeeps c m (hm.current fun hs => ?_) hremoved
    exact hremoved (Serve.finished_step (h.tracked c) htook hs)
  exact {
    tracked := fun c => Serve.tracked_step (h.tracked c) htook
    started := fun conv hconv => Serve.started_step htook (h.started conv hconv)
    known := fun c m hm => hext.current c m (h.known c m (hsubset c m hm))
    handlers := fun conv => hext.handlerOk (h.handlers conv) (fun _ _ hl => hl) fun _ _ he => he
    inserted := fun m id conv he => hext.insertedAt (h.inserted m id conv he)
    incoming := fun i task hget => hext.incomingOk (h.incoming i task hget)
    queued := fun conv ch hch => hext.insertedAt (h.queued conv ch hch)
    added := fun conv d hd => hext.insertedAt (h.added conv d hd) }

variable {t : State} {conv : Conversation} {handler : Handler} {m i : Nat}
  {manager : ConversationsManager} {task : Incoming}

/-- A step that leaves what arrives alone has to account for handlers and managers only. -/
theorem Inv.extend (h : Inv s) (hext : Extends s t) (hserve : t.serve = s.serve)
    (hincoming : t.incoming = s.incoming)
    (hqueues : t.channelsAcceptQueue = s.channelsAcceptQueue)
    (hdatagrams : t.datagrams = s.datagrams)
    (hstarted : ∀ conv, t.handlers conv ≠ .absent → s.serve.goroutines conv.connection ≠ .absent)
    (hknown : ∀ c m, t.conversations c = some m → t.Current c m)
    (hhandlers : ∀ conv, t.HandlerOk conv (t.handlers conv))
    (hinserted : ∀ m id conv, (t.managers m).conversations id = some conv →
      t.InsertedAt conv (t.managers m).connection id) : Inv t where
  tracked := by
    rw [hserve]
    exact h.tracked
  started := by
    rw [hserve]
    exact hstarted
  known := hknown
  handlers := hhandlers
  inserted := hinserted
  incoming i task hget := by
    rw [hincoming] at hget
    exact hext.incomingOk (h.incoming i task hget)
  queued conv ch hch := by
    rw [hqueues] at hch
    exact hext.insertedAt (h.queued conv ch hch)
  added conv d hd := by
    rw [hdatagrams] at hd
    exact hext.insertedAt (h.added conv d hd)

/-- A handler moves on and touches no manager. -/
theorem Inv.setHandler (h : Inv s)
    (hstarted : s.serve.goroutines conv.connection ≠ .absent) (hok : s.HandlerOk conv handler)
    (hinserted : (s.handlers conv).Inserted → handler.Inserted) :
    Inv (s.setHandler conv handler) := by
  have hext : Extends s (s.setHandler conv handler) := by
    refine ⟨fun c m hm => ⟨hm.created, hm.connection, hm.current⟩, fun conv' hi => ?_⟩
    by_cases hc : conv' = conv
    · subst hc
      simpa [State.setHandler] using hinserted hi
    · simpa [State.setHandler, hc] using hi
  refine h.extend hext rfl rfl rfl rfl (fun conv' hconv' => ?_)
    (fun c m hm => hext.current c m (h.known c m hm)) (fun conv' => ?_)
    fun m id conv' he => hext.insertedAt (h.inserted m id conv' he)
  · by_cases hc : conv' = conv
    · subst hc
      exact hstarted
    · exact h.started conv' (by simpa [State.setHandler, hc] using hconv')
  · refine hext.handlerOk ?_ (fun _ _ hl => hl) fun _ _ he => he
    by_cases hc : conv' = conv
    · subst hc
      simpa [State.setHandler] using hok
    · simpa [State.setHandler, hc] using h.handlers conv'

/-- Two handlers with one manager are on one connection, and so have different ids. -/
theorem State.Current.controlStream_ne {conv' : Conversation}
    (hm : s.Current conv.connection m) (hm' : s.Current conv'.connection m) (hne : conv' ≠ conv) :
    conv'.controlStream ≠ conv.controlStream := by
  intro heq
  have hconnection : conv'.connection = conv.connection := hm'.connection.symm.trans hm.connection
  cases conv
  cases conv'
  cases hconnection
  cases heq
  exact hne rfl

/-- A manager stays the manager of its connection, whatever its handler changes in it. -/
theorem extends_manage (hconnection : manager.connection = (s.managers m).connection)
    (hinserted : (s.handlers conv).Inserted → handler.Inserted) :
    Extends s ((s.setManager m manager).setHandler conv handler) where
  current c m' hm' := by
    refine ⟨hm'.created, ?_, hm'.current⟩
    show (Function.update s.managers m manager m').connection = c
    by_cases hm : m' = m
    · subst hm
      rw [Function.update_self, hconnection]
      exact hm'.connection
    · rw [Function.update_of_ne hm]
      exact hm'.connection
  inserted conv' hi := by
    show (Function.update s.handlers conv handler conv').Inserted
    by_cases hc : conv' = conv
    · subst hc
      rw [Function.update_self]
      exact hinserted hi
    · rw [Function.update_of_ne hc]
      exact hi

/-- The other handlers do not notice: none of them has the id or the lock of this one. -/
theorem Inv.handlerOk_manage (h : Inv s) (hcurrent : s.Current conv.connection m)
    (hentries : ∀ id ≠ conv.controlStream,
      manager.conversations id = (s.managers m).conversations id)
    (hlock : ∀ id ≠ conv.controlStream, (s.managers m).lock = some id → manager.lock = some id)
    (hext : Extends s ((s.setManager m manager).setHandler conv handler)) {conv' : Conversation}
    (hne : conv' ≠ conv) :
    ((s.setManager m manager).setHandler conv handler).HandlerOk conv' (s.handlers conv') := by
  refine hext.handlerOk (h.handlers conv') ?_ ?_
  · intro m' hm' hl
    show (Function.update s.managers m manager m').lock = _
    by_cases hm : m' = m
    · subst hm
      rw [Function.update_self]
      exact hlock _ (hcurrent.controlStream_ne hm' hne) hl
    · rwa [Function.update_of_ne hm]
  · intro m' hm' he
    show (Function.update s.managers m manager m').conversations _ = _
    by_cases hm : m' = m
    · subst hm
      rw [Function.update_self, hentries _ (hcurrent.controlStream_ne hm' hne)]
      exact he
    · rwa [Function.update_of_ne hm]

/-- A handler changes its manager: only its own entry, and not the lock of another handler. -/
theorem Inv.manage (h : Inv s) (hstarted : s.handlers conv ≠ .absent)
    (hcurrent : s.Current conv.connection m)
    (hconnection : manager.connection = (s.managers m).connection)
    (hentries : ∀ id ≠ conv.controlStream,
      manager.conversations id = (s.managers m).conversations id)
    (hlock : ∀ id ≠ conv.controlStream, (s.managers m).lock = some id → manager.lock = some id)
    (hinserted : (s.handlers conv).Inserted → handler.Inserted)
    (hentry : ∀ conv', manager.conversations conv.controlStream = some conv' →
      (s.managers m).conversations conv.controlStream = some conv' ∨
        conv' = conv ∧ handler.Inserted)
    (hok : ∀ t : State, t.Current conv.connection m → t.managers m = manager →
      t.HandlerOk conv handler) :
    Inv ((s.setManager m manager).setHandler conv handler) := by
  have hext := extends_manage hconnection hinserted
  have hothers : ∀ conv' ≠ conv, ((s.setManager m manager).setHandler conv handler).HandlerOk
      conv' (s.handlers conv') :=
    fun conv' hne => h.handlerOk_manage hcurrent hentries hlock hext hne
  generalize ht : (s.setManager m manager).setHandler conv handler = t at hext hothers ⊢
  have hmanager : t.managers m = manager := by
    rw [← ht]
    exact Function.update_self _ _ _
  have hmanagers : ∀ m' ≠ m, t.managers m' = s.managers m' := by
    intro m' hne
    rw [← ht]
    exact Function.update_of_ne hne _ _
  have hhandler : t.handlers conv = handler := by
    rw [← ht]
    exact Function.update_self _ _ _
  have hhandlers : ∀ conv' ≠ conv, t.handlers conv' = s.handlers conv' := by
    intro conv' hne
    rw [← ht]
    exact Function.update_of_ne hne _ _
  refine h.extend hext (by rw [← ht]; rfl) (by rw [← ht]; rfl) (by rw [← ht]; rfl)
    (by rw [← ht]; rfl) (fun conv' hconv' => ?_) (fun c m' hm' => ?_) (fun conv' => ?_)
    fun m' id conv' he => ?_
  · by_cases hc : conv' = conv
    · subst hc
      exact h.started conv' hstarted
    · rw [hhandlers conv' hc] at hconv'
      exact h.started conv' hconv'
  · refine hext.current c m' (h.known c m' ?_)
    rwa [← ht] at hm'
  · by_cases hc : conv' = conv
    · subst hc
      rw [hhandler]
      exact hok t (hext.current _ m hcurrent) hmanager
    · rw [hhandlers conv' hc]
      exact hothers conv' hc
  · by_cases hm : m' = m
    · subst hm
      rw [hmanager] at he ⊢
      rw [hconnection]
      by_cases hid : id = conv.controlStream
      · subst hid
        rcases hentry conv' he with hold | ⟨rfl, hi⟩
        · exact hext.insertedAt (h.inserted m' _ conv' hold)
        · exact ⟨hcurrent.connection, rfl, by rwa [hhandler]⟩
      · rw [hentries id hid] at he
        exact hext.insertedAt (h.inserted m' id conv' he)
    · rw [hmanagers m' hm] at he ⊢
      exact hext.insertedAt (h.inserted m' id conv' he)

/-- A new manager for a connection that has none in the server. -/
theorem Inv.allocate (h : Inv s) {c : Conn} (hnone : s.conversations c = none) :
    Inv { s.setManager s.created (newConversationManager c) with
          conversations := Function.update s.conversations c (some s.created)
          created := s.created + 1 } ∧
    State.Current { s.setManager s.created (newConversationManager c) with
          conversations := Function.update s.conversations c (some s.created)
          created := s.created + 1 } c s.created := by
  generalize ht : { s.setManager s.created (newConversationManager c) with
      conversations := Function.update s.conversations c (some s.created)
      created := s.created + 1 } = t
  have hmanager : t.managers s.created = newConversationManager c := by
    rw [← ht]
    exact Function.update_self _ _ _
  have hmanagers : ∀ m ≠ s.created, t.managers m = s.managers m := by
    intro m hm
    rw [← ht]
    exact Function.update_of_ne hm _ _
  have hnew : t.Current c s.created := by
    refine ⟨?_, by rw [hmanager]; rfl, fun _ => ?_⟩
    · rw [← ht]
      exact Nat.lt_succ_self _
    · rw [← ht]
      exact Function.update_self _ _ _
  have hext : Extends s t := by
    refine ⟨fun c' m hm => ⟨?_, ?_, fun hremoved => ?_⟩, fun conv hi => ?_⟩
    · rw [← ht]
      exact Nat.lt_succ_of_lt hm.created
    · rw [hmanagers m (Nat.ne_of_lt hm.created)]
      exact hm.connection
    -- a manager that is still the current one of `c` would be in the server
    · rw [← ht] at hremoved ⊢
      have hold := hm.current hremoved
      have hne : c' ≠ c := by
        rintro rfl
        rw [hnone] at hold
        cases hold
      exact (Function.update_of_ne hne _ _).trans hold
    · rw [← ht]
      exact hi
  refine ⟨?_, hnew⟩
  refine h.extend hext (by rw [← ht]; rfl) (by rw [← ht]; rfl) (by rw [← ht]; rfl)
    (by rw [← ht]; rfl) (by rw [← ht]; exact h.started) (fun c' m hm => ?_) (fun conv => ?_)
    fun m id conv he => ?_
  · by_cases hc : c' = c
    · subst hc
      rw [← ht] at hm
      cases (Function.update_self _ _ _).symm.trans hm
      exact hnew
    · rw [← ht] at hm
      exact hext.current c' m (h.known c' m ((Function.update_of_ne hc _ _).symm.trans hm))
  · have hhandler : t.handlers conv = s.handlers conv := by
      rw [← ht]
      rfl
    rw [hhandler]
    refine hext.handlerOk (h.handlers conv) (fun m hm hl => ?_) fun m hm he => ?_
    · rwa [hmanagers m (Nat.ne_of_lt hm.created)]
    · rwa [hmanagers m (Nat.ne_of_lt hm.created)]
  · by_cases hm : m = s.created
    · subst hm
      rw [hmanager] at he
      cases he
    · rw [hmanagers m hm] at he ⊢
      exact hext.insertedAt (h.inserted m id conv he)

/-- A step that leaves handlers and managers alone has to account for what arrives only. -/
theorem Inv.receive (h : Inv s) {incoming : List Incoming}
    {channelsAcceptQueue : Conversation → List Channel} {datagrams : Conversation → List Datagram}
    (hincoming : ∀ (i : Nat) (task : Incoming), incoming[i]? = some task → s.IncomingOk task)
    (hqueued : ∀ conv, ∀ ch ∈ channelsAcceptQueue conv,
      s.InsertedAt conv ch.connection ch.info.conversationStreamID)
    (hadded : ∀ conv, ∀ d ∈ datagrams conv, s.InsertedAt conv d.connection d.controlStreamID) :
    Inv { s with incoming, channelsAcceptQueue, datagrams } := by
  have hext : Extends s { s with incoming, channelsAcceptQueue, datagrams } :=
    ⟨fun c m hm => ⟨hm.created, hm.connection, hm.current⟩, fun _ hi => hi⟩
  exact {
    tracked := h.tracked
    started := h.started
    known := fun c m hm => hext.current c m (h.known c m hm)
    handlers := fun conv => hext.handlerOk (h.handlers conv) (fun _ _ hl => hl) fun _ _ he => he
    inserted := fun m id conv he => hext.insertedAt (h.inserted m id conv he)
    incoming := fun i task hget => hext.incomingOk (hincoming i task hget)
    queued := fun conv ch hch => hext.insertedAt (hqueued conv ch hch)
    added := fun conv d hd => hext.insertedAt (hadded conv d hd) }

/-- The goroutine of a message moves on. -/
theorem Inv.setPhase (h : Inv s) {phase : Phase}
    (hok : s.IncomingOk { task with phase }) : Inv (s.setPhase i task phase) :=
  h.receive (forall_set hok fun k other hget _ => h.incoming k other hget) h.queued h.added

/-- One more entry, in the queue of one conversation. -/
theorem forall_mem_update {β : Type} {queues : Conversation → List β} {x : β}
    {P : Conversation → β → Prop} (h : ∀ conv, ∀ y ∈ queues conv, P conv y) (hx : P conv x) :
    ∀ conv', ∀ y ∈ Function.update queues conv (queues conv ++ [x]) conv', P conv' y := by
  intro conv' y hy
  by_cases hc : conv' = conv
  · subst hc
    rw [Function.update_self] at hy
    rcases List.mem_append.mp hy with hold | hnew
    · exact h conv' y hold
    · cases List.mem_singleton.mp hnew
      exact hx
  · rw [Function.update_of_ne hc] at hy
    exact h conv' y hy

theorem Inv.deliver (h : Inv s)
    {controlStreamID : UInt64} (hnames : task.message.Names controlStreamID)
    (hat : s.InsertedAt conv task.connection controlStreamID) : Inv (s.deliver i task conv) := by
  have hincoming := forall_set (i := i) (P := fun _ task => s.IncomingOk task)
    (show s.IncomingOk { task with phase := .delivered conv } from ⟨controlStreamID, hnames, hat⟩)
    fun k other hget _ => h.incoming k other hget
  unfold State.deliver
  cases hmessage : task.message with
  | datagram id payload =>
    rw [hmessage] at hnames
    cases hnames
    exact h.receive hincoming h.queued (forall_mem_update h.added hat)
  | stream streamID recv =>
    rw [hmessage] at hnames
    obtain ⟨info, rest, hread, rfl⟩ := hnames
    simp only [hread]
    rcases readRemoteAddr info rest with p | err | remoteAddr
    · exact h.setPhase trivial
    · exact h.setPhase trivial
    · exact h.receive hincoming (forall_mem_update h.queued hat) h.added

/-- What the goroutine of a message can do. -/
inductive Advanced (s : State) (i : Nat) (task : Incoming) : State → Prop
  | moves {phase : Phase} (hok : s.IncomingOk { task with phase }) (hknown : ¬phase.Unknown) :
      Advanced s i task (s.setPhase i task phase)
  | unauthenticated (hphase : task.phase = .start)
      (hnone : s.conversations task.connection = none) :
      Advanced s i task (s.setPhase i task (.rejected .unauthenticated))
  | unknown {m : Nat} {controlStreamID : UInt64} (hphase : task.phase = .named m controlStreamID)
      (hlock : (s.managers m).lock = none)
      (hnone : (s.managers m).conversations controlStreamID = none) :
      Advanced s i task (s.setPhase i task (.rejected .unknownConversation))
  | delivers {conv : Conversation} {controlStreamID : UInt64}
      (hnames : task.message.Names controlStreamID)
      (hat : s.InsertedAt conv task.connection controlStreamID) :
      Advanced s i task (s.deliver i task conv)

theorem advanced_afterManager (hm : s.Current task.connection m) :
    Advanced s i task (s.setPhase i task (State.afterManager task.message m)) := by
  cases hmessage : task.message with
  | stream streamID recv => exact .moves hm nofun
  | datagram controlStreamID payload =>
    refine .moves ⟨hm, ?_⟩ nofun
    show task.message.Names controlStreamID
    rw [hmessage]
    rfl

theorem advanced_afterHeader (hm : s.Current task.connection m) :
    Advanced s i task (s.setPhase i task (State.afterHeader task.message m)) := by
  cases hmessage : task.message with
  | stream streamID recv =>
    simp only [State.afterHeader]
    rcases hread : readHeader streamID recv with p | err | ⟨info, rest⟩
    · exact .moves trivial nofun
    · exact .moves trivial nofun
    · refine .moves ⟨hm, ?_⟩ nofun
      show task.message.Names info.conversationStreamID
      rw [hmessage]
      exact ⟨info, rest, hread, rfl⟩
  | datagram controlStreamID payload =>
    refine .moves ⟨hm, ?_⟩ nofun
    show task.message.Names controlStreamID
    rw [hmessage]
    rfl

theorem advanced_of_eq_some (h : Inv s)
    (htask : s.incoming[i]? = some task) (hnext : s.advance i task = some t) :
    Advanced s i task t := by
  have hok := h.incoming i task htask
  unfold State.IncomingOk at hok
  unfold State.advance at hnext
  cases hphase : task.phase with
  | start =>
    simp only [hphase] at hnext
    cases hm : s.conversations task.connection with
    | none =>
      rw [hm] at hnext
      cases hnext
      exact .unauthenticated hphase hm
    | some m =>
      rw [hm] at hnext
      cases hnext
      exact advanced_afterManager (h.known _ m hm)
  | hasManager m =>
    rw [hphase] at hok hnext
    cases hnext
    exact advanced_afterHeader hok
  | named m controlStreamID =>
    rw [hphase] at hok
    simp only [hphase] at hnext
    obtain ⟨hlock, hfound⟩ := Option.ite_none_right_eq_some.mp hnext
    cases hentry : (s.managers m).conversations controlStreamID with
    | none =>
      rw [hentry] at hfound
      cases hfound
      exact .unknown hphase hlock hentry
    | some conv =>
      rw [hentry] at hfound
      cases hfound
      have hat := h.inserted m controlStreamID conv hentry
      rw [hok.1.connection] at hat
      exact .moves ⟨controlStreamID, hok.2, hat⟩ nofun
  | found conv =>
    rw [hphase] at hok hnext
    cases hnext
    obtain ⟨controlStreamID, hnames, hat⟩ := hok
    exact .delivers hnames hat
  | delivered conv | rejected reason | panicked p =>
    rw [hphase] at hnext
    cases hnext

theorem Inv.advance (h : Inv s) (hadvanced : Advanced s i task t) : Inv t := by
  cases hadvanced with
  | moves hok _ => exact h.setPhase hok
  | unauthenticated | unknown => exact h.setPhase trivial
  | delivers hnames hat => exact h.deliver hnames hat

theorem inv_step {a : Action} (h : Inv s) (hmoved : Moved s a t) : Inv t := by
  cases hmoved with
  | serve htook => exact h.serve htook
  | request hhandler hrunning =>
    refine h.setHandler (by rw [hrunning]; nofun) trivial ?_
    rw [hhandler]
    exact id
  | @refuse conv hhandler =>
    refine h.setHandler (h.started conv (by rw [hhandler]; nofun)) trivial ?_
    rw [hhandler]
    exact id
  | @getManager conv m hhandler hmanager =>
    refine h.setHandler (h.started conv (by rw [hhandler]; nofun)) (h.known _ m hmanager) ?_
    rw [hhandler]
    exact id
  | @createManager conv hhandler hmanager =>
    obtain ⟨hnew, hcurrent⟩ := h.allocate hmanager
    have hinserted : (s.handlers conv).Inserted → (Handler.hasManager s.created).Inserted := by
      rw [hhandler]
      exact id
    exact hnew.setHandler (h.started conv (by rw [hhandler]; nofun)) hcurrent hinserted
  | @lock conv m hhandler hlock =>
    have hok := h.handlers conv
    rw [hhandler] at hok
    refine h.manage (by rw [hhandler]; nofun) hok rfl (fun _ _ => rfl) (fun id _ hid => ?_) ?_
      (fun _ => .inl) fun t ht hmanager => ⟨ht, by rw [hmanager]⟩
    · rw [hlock] at hid
      cases hid
    · rw [hhandler]
      exact id
  | @respond conv m hhandler =>
    have hok := h.handlers conv
    rw [hhandler] at hok
    refine h.setHandler (h.started conv (by rw [hhandler]; nofun)) hok ?_
    rw [hhandler]
    exact id
  | @insert conv m hhandler =>
    have hok := h.handlers conv
    rw [hhandler] at hok
    refine h.manage (by rw [hhandler]; nofun) hok.1 rfl
      (fun id hid => Function.update_of_ne hid _ _) (fun _ _ => id)
      (fun _ => trivial) (fun conv' he => .inr ⟨?_, trivial⟩) fun t ht hmanager => ⟨ht, ?_, ?_⟩
    · cases (Function.update_self _ _ _).symm.trans he
      rfl
    · rw [hmanager]
      exact hok.2
    · rw [hmanager]
      exact Function.update_self _ _ _
  | @unlock conv m hhandler =>
    have hok := h.handlers conv
    rw [hhandler] at hok
    refine h.manage (by rw [hhandler]; nofun) hok.1 rfl (fun _ _ => rfl) (fun id hne hid => ?_)
      (fun _ => trivial) (fun _ => .inl) fun t ht hmanager => ⟨ht, ?_⟩
    · rw [hok.2.1, Option.some.injEq] at hid
      exact absurd hid.symm hne
    · rw [hmanager]
      exact hok.2.2
  | @remove conv m hhandler hlock =>
    have hok := h.handlers conv
    rw [hhandler] at hok
    refine h.manage (by rw [hhandler]; nofun) hok.1 rfl
      (fun id hid => Function.update_of_ne hid _ _) (fun _ _ => id)
      (fun _ => trivial) (fun conv' he => ?_) fun _ _ _ => trivial
    cases (Function.update_self _ _ _).symm.trans he
  | arrive =>
    exact h.receive (forall_append trivial h.incoming) h.queued h.added
  | skip => exact h
  | advance htask hnext => exact h.advance (advanced_of_eq_some h htask hnext)

end Steps

theorem inv_run {s t : State} {as : List Action} (hs : Inv s) (h : Run step anyStep s as t) :
    Inv t :=
  h.invariant (fun _ _ _ h _ hstep => inv_step h (moved_of_step hstep)) hs

end Ssh3.Go.Conversations
