/-
  Ssh3.Server.SessionSpec

  Which process a session channel signals.

  `RunningSession` keeps the pid of the child as long as the loop runs, while the wait
  task reaps the child as soon as it has ended.  A signal request handled after that is
  sent to a pid, or a process group, that no longer belongs to the session.  A run sends
  every signal to its own child exactly when it handles no such request.

  The proofs go through one statement of what handling a message can do to processes:
  start one, signal one, or neither.
-/

import Ssh3.Server.Session

namespace Ssh3.Server

open Transition
open Proto (ascii Message ChannelRequest SignalRequest SSH_EXTENDED_DATA_NONE)
open Ssh3.Auth

/-! ## The property -/

/-- A signal goes to a child of the session that has not been reaped, or to its process
    group. -/
def LogEntry.HitsOwnChild (entry : LogEntry) : Prop :=
  match entry.action with
  | .kill pid _ => ∃ child ∈ entry.children, child.status ≠ .reaped ∧
      (pid = child.pid.toInt32 ∨ pid = -child.pid.toInt32)
  | _ => True

/-- The pid that a message makes the loop signal: the one that the session remembers, if the
    message asks for a signal by a name that is known. -/
def SessionState.signalTarget (state : SessionState) : Message → Option UInt32
  | .channelRequest ⟨_, .signal request⟩ =>
    match parseSignalRequest request with
    | some _ => state.session.bind (·.childId)
    | none => none
  | _ => none

/-- The event is a request to signal the child after it has been reaped. -/
def SignalsReapedChild (s : System) : SessionEvent → Prop
  | .message message _ => ∃ state pid, s.handler = some state ∧
      state.signalTarget message = some pid ∧
      ∀ child ∈ s.children, child.pid = pid → child.status = .reaped
  | _ => False

/-! ## What handling a message does to processes -/

/-- The action neither starts nor signals a process. -/
def Action.Quiet : Action → Prop
  | .spawn .. => False
  | .kill .. => False
  | _ => True

variable {message : Message} {state : SessionState}

/-- Only a session is signalled, at the pid that it remembers. -/
theorem signalTarget_eq_some {pid : UInt32} (h : state.signalTarget message = some pid) :
    ∃ session, state.session = some session ∧ session.childId = some pid := by
  unfold SessionState.signalTarget at h
  split at h
  · split at h
    · exact Option.bind_eq_some_iff.mp h
    · cases h
  · cases h

/-- No process is started or signalled, and the session stays the same. -/
structure Handled.Quiet (state : SessionState) (handled : Handled) : Prop where
  actions : ∀ action ∈ handled.1, action.Quiet
  session : ∀ state', handled.2 = .ok state' → state'.session = state.session

/-- The three kinds of messages, by what they do to processes. -/
inductive Effect (state : SessionState) (message : Message) : Handled → Prop
  | quiet {handled : Handled} :
      handled.Quiet state → state.signalTarget message = none → Effect state message handled
  | spawn {pty : Option PendingPty} {path : Option (List UInt8)} {command : SessionCommand}
      {pid : UInt32} {result : Except ServerError SessionState} :
      state.session = none →
      (∀ state', result = .ok state' → ∃ session, state'.session = some session ∧
        session.childId = some pid) →
      state.signalTarget message = none →
      Effect state message ([.spawn pty path command pid], result)
  | kill {pid : UInt32} {target : Int32} {signal : Signal} {handled : Handled} :
      state.signalTarget message = some pid →
      target = pid.toInt32 ∨ target = -pid.toInt32 →
      handled.Quiet state →
      Effect state message (.kill target signal :: handled.1, handled.2)

section
variable {responses : Responses} {state : SessionState} {message : Message}

theorem quiet_ok {actions : List Action} {state' : SessionState}
    (hactions : ∀ action ∈ actions, action.Quiet) (h : state'.session = state.session) :
    Handled.Quiet state (actions, .ok state') where
  actions := hactions
  session := by
    intro t ht
    cases ht
    exact h

theorem quiet_error {actions : List Action} {err : ServerError}
    (h : ∀ action ∈ actions, action.Quiet) : Handled.Quiet state (actions, .error err) where
  actions := h
  session := by simp

theorem quiet_writeStderr (text : List UInt8) : (writeStderr responses state text).Quiet state := by
  unfold writeStderr
  cases responses.writeStderr with
  | error err => exact quiet_error (by simp [Action.Quiet])
  | ok u => exact quiet_ok (by simp [Action.Quiet]) rfl

/-- An error that is only reported adds nothing that concerns a process. -/
theorem reportError_eq (actions : List Action) (result : Except IoError Unit) :
    ∃ handled : Handled, handled.Quiet state ∧
      reportError responses state (actions, result) = (actions ++ handled.1, handled.2) := by
  cases result with
  | ok u => exact ⟨([], .ok state), quiet_ok (by simp) rfl, by simp [reportError]⟩
  | error err => exact ⟨_, quiet_writeStderr _, rfl⟩

theorem effect_startSession {command : SessionCommand}
    (h : state.signalTarget message = none) :
    Effect state message (startSession responses state command) := by
  unfold startSession
  cases hsession : state.session with
  | some session => exact .quiet (quiet_writeStderr _) h
  | none =>
    simp only [spawnSessionProcess]
    cases (if state.pendingPty.isSome then responses.openpty else .ok ()) with
    | error err => exact .quiet (quiet_error (by simp)) h
    | ok u =>
      cases responses.spawn with
      | error err => exact .quiet (quiet_error (by simp)) h
      | ok pid =>
        cases responses.handles with
        | error err => exact .spawn hsession (by simp) h
        | ok u =>
          refine .spawn hsession ?_ h
          intro state' hstate'
          cases hstate'
          exact ⟨_, rfl, rfl⟩

theorem effect_sendSignal {request : SignalRequest} {session : RunningSession} {wantReply : Bool}
    (hsession : state.session = some session) :
    Effect state (.channelRequest ⟨wantReply, .signal request⟩)
      (reportError responses state (session.sendSignal responses request)) := by
  unfold RunningSession.sendSignal
  cases hsignal : parseSignalRequest request with
  | none =>
    obtain ⟨handled, hquiet, heq⟩ := reportError_eq [] _
    rw [heq]
    exact .quiet hquiet (by simp [SessionState.signalTarget, hsignal])
  | some signal =>
    cases hchild : session.childId with
    | none =>
      obtain ⟨handled, hquiet, heq⟩ := reportError_eq [] _
      rw [heq]
      exact .quiet hquiet (by simp [SessionState.signalTarget, hsignal, hsession, hchild])
    | some pid =>
      obtain ⟨handled, hquiet, heq⟩ := reportError_eq [_] responses.kill
      rw [heq]
      have htarget : state.signalTarget (.channelRequest ⟨wantReply, .signal request⟩) =
          some pid := by
        simp [SessionState.signalTarget, hsignal, hsession, hchild]
      refine .kill htarget ?_ hquiet
      cases session.pty with
      | true => exact .inr rfl
      | false => exact .inl rfl

theorem effect_windowChange {size : SessionPtySize} {session : RunningSession}
    (h : state.signalTarget message = none) :
    Effect state message
      (reportError responses state (session.applyWindowChange responses size)) := by
  unfold RunningSession.applyWindowChange
  cases session.pty with
  | false =>
    obtain ⟨handled, hquiet, heq⟩ := reportError_eq [] _
    rw [if_neg Bool.false_ne_true, heq]
    exact .quiet hquiet h
  | true =>
    obtain ⟨handled, hquiet, heq⟩ := reportError_eq [.resize size] responses.resize
    rw [if_pos rfl, heq]
    refine .quiet ⟨?_, hquiet.session⟩ h
    intro action haction
    rcases List.mem_cons.mp haction with rfl | hmore
    · trivial
    · exact hquiet.actions action hmore

theorem effect_handleData {data : List UInt8} (h : state.signalTarget message = none) :
    Effect state message (handleData responses state data) := by
  unfold handleData
  cases hsession : state.session with
  | some session =>
    cases responses.writeInput with
    | error err => exact .quiet (quiet_error (by simp [Action.Quiet])) h
    | ok u => exact .quiet (quiet_ok (by simp [Action.Quiet]) rfl) h
  | none =>
    by_cases hdata : data ≠ ascii "forward-agent"
    · rw [if_pos hdata]
      exact .quiet (quiet_writeStderr _) h
    · rw [if_neg hdata]
      cases state.agentForwarding with
      | some path => exact .quiet (quiet_ok (by simp) rfl) h
      | none =>
        cases responses.agentSocket with
        | error err => exact .quiet (quiet_error (by simp [Action.Quiet])) h
        | ok path => exact .quiet (quiet_ok (by simp [Action.Quiet]) hsession.symm) h

theorem effect_handleRequest (wantReply : Bool) (request : ChannelRequest) :
    Effect state (.channelRequest ⟨wantReply, request⟩)
      (handleRequest responses state request) := by
  cases request with
  | pty pty =>
    simp only [handleRequest]
    cases hsession : state.session with
    | some session => exact .quiet (quiet_writeStderr _) rfl
    | none => exact .quiet (quiet_ok (by simp) hsession.symm) rfl
  | shell => exact effect_startSession rfl
  | exec exec => exact effect_startSession rfl
  | signal signal =>
    simp only [handleRequest]
    cases hsession : state.session with
    | some session => exact effect_sendSignal hsession
    | none =>
      refine .quiet (quiet_writeStderr _) ?_
      rw [SessionState.signalTarget, hsession]
      cases parseSignalRequest signal with
      | none => rfl
      | some _ => rfl
  | windowChange windowChange =>
    simp only [handleRequest]
    cases hsession : state.session with
    | some session => exact effect_windowChange rfl
    | none =>
      cases state.pendingPty with
      | some pendingPty => exact .quiet (quiet_ok (by simp) hsession.symm) rfl
      | none => exact .quiet (quiet_writeStderr _) rfl
  | x11 | subsystem | exitStatus | exitSignal | forwardPort =>
    exact .quiet (quiet_writeStderr _) rfl

/-- Handling a message starts a process only if there is no session yet, and signals one only
    if the message asks for it, and then the one that the session remembers. -/
theorem effect_handleMessage (responses : Responses) (state : SessionState) (message : Message) :
    Effect state message (handleMessage responses state message) := by
  cases message with
  | channelRequest request => exact effect_handleRequest request.wantReply request.request
  | data message =>
    simp only [handleMessage]
    by_cases htype : message.dataType ≠ SSH_EXTENDED_DATA_NONE
    · rw [if_pos htype]
      exact .quiet (quiet_writeStderr _) rfl
    · rw [if_neg htype]
      exact effect_handleData rfl
  | channelOpenConfirmation | channelOpenFailure => exact .quiet (quiet_ok (by simp) rfl) rfl

end

/-! ## Runs -/

/-- The session remembers the pid of its only child. -/
def System.Inv (s : System) : Prop :=
  ∀ state, s.handler = some state →
    match state.session with
    | none => s.children = []
    | some session => ∃ child, s.children = [child] ∧ session.childId = some child.pid

theorem System.inv_start : ({} : System).Inv := by
  intro state h
  cases h
  rfl

theorem filterMap_spawned {actions : List Action} (h : ∀ action ∈ actions, action.Quiet) :
    actions.filterMap Action.spawned = [] := by
  rw [List.filterMap_eq_nil_iff]
  intro action haction
  have hquiet := h action haction
  cases action with
  | spawn => exact hquiet.elim
  | _ => rfl

theorem hitsOwnChild_of_quiet {action : Action} (h : action.Quiet) (children : List Child) :
    LogEntry.HitsOwnChild ⟨action, children⟩ := by
  cases action with
  | kill => exact h.elim
  | _ => trivial

variable {s : System}

/-- A child that moves on keeps its pid, and the loop is not concerned. -/
theorem System.inv_moveChild {t : System} {pid : UInt32} {before after : ChildStatus}
    (hs : s.Inv) (h : s.moveChild pid before after = some t) : t.Inv ∧ t.log = s.log := by
  unfold System.moveChild at h
  split_ifs at h
  cases h
  refine ⟨?_, rfl⟩
  intro state hstate
  have hinv := hs state hstate
  cases hsession : state.session with
  | none =>
    simp only [hsession] at hinv
    simp only [hinv, List.map_nil]
  | some session =>
    simp only [hsession] at hinv
    obtain ⟨child, hchildren, hchild⟩ := hinv
    simp only [hchildren, List.map_cons, List.map_nil, List.cons.injEq, and_true]
    by_cases hmoved : child = ⟨pid, before⟩
    · rw [if_pos hmoved]
      exact ⟨_, rfl, by rw [hchild, hmoved]⟩
    · rw [if_neg hmoved]
      exact ⟨_, rfl, hchild⟩

theorem System.inv_record {handled : Handled} (hs : s.Inv) (hstate : s.handler = some state)
    (heffect : Effect state message handled) : (s.record handled).Inv := by
  have hinv := hs state hstate
  intro state' hstate'
  have hok : handled.2 = .ok state' := by
    cases hresult : handled.2 with
    | error err => simp [System.record, hresult, Except.toOption] at hstate'
    | ok state => simpa [System.record, hresult, Except.toOption] using hstate'
  -- without a new process, the children and the session are those of before
  have hkept : handled.1.filterMap Action.spawned = [] → state'.session = state.session →
      match state'.session with
      | none => (s.record handled).children = []
      | some session => ∃ child, (s.record handled).children = [child] ∧
          session.childId = some child.pid := by
    intro hnone hsame
    simp only [System.record, hnone, List.append_nil, hsame]
    exact hinv
  cases heffect with
  | quiet hquiet _ => exact hkept (filterMap_spawned hquiet.actions) (hquiet.session _ hok)
  | kill _ _ hquiet =>
    have hnone := filterMap_spawned hquiet.actions
    exact hkept hnone (hquiet.session _ hok)
  | spawn hnone hsession _ =>
    simp only [hnone] at hinv
    obtain ⟨session, hsome, hchild⟩ := hsession _ hok
    simp only [hsome, System.record, hinv]
    exact ⟨_, rfl, hchild⟩

/-- The signals sent for a message are for the session's own child exactly when the message
    is no late signal request. -/
theorem System.hitsOwnChild_record
    {handled : Handled} (hs : s.Inv) (hstate : s.handler = some state)
    (heffect : Effect state message handled) (responses : Responses) :
    (∀ action ∈ handled.1, LogEntry.HitsOwnChild ⟨action, s.children⟩) ↔
      ¬SignalsReapedChild s (.message message responses) := by
  have hnone (htarget : state.signalTarget message = none) :
      ¬SignalsReapedChild s (.message message responses) := by
    rintro ⟨state', pid, hstate', hsome, _⟩
    rw [hstate, Option.some.injEq] at hstate'
    rw [← hstate', htarget] at hsome
    cases hsome
  cases heffect with
  | quiet hquiet htarget =>
    exact iff_of_true (fun a ha => hitsOwnChild_of_quiet (hquiet.actions a ha) _) (hnone htarget)
  | spawn _ _ htarget => exact iff_of_true (by simp [LogEntry.HitsOwnChild]) (hnone htarget)
  | @kill pid target signal handled htarget hpid hquiet =>
    obtain ⟨session, hsession, hchildId⟩ := signalTarget_eq_some htarget
    have hinv := hs state hstate
    simp only [hsession, hchildId] at hinv
    obtain ⟨child, hchildren, hchild⟩ := hinv
    cases hchild
    -- both sides say that the only child has not been reaped
    have hhits : LogEntry.HitsOwnChild ⟨.kill target signal, s.children⟩ ↔
        child.status ≠ .reaped := by
      simp [LogEntry.HitsOwnChild, hchildren, hpid]
    have hlate : SignalsReapedChild s (.message message responses) ↔
        child.status = .reaped := by
      simp [SignalsReapedChild, hstate, htarget, hchildren]
    rw [hlate, List.forall_mem_cons, hhits]
    exact and_iff_left fun a ha => hitsOwnChild_of_quiet (hquiet.actions a ha) _

/-- **Step lemma.**  A step keeps the invariant, and the signals it sends are all for the
    session's own child exactly when it is no late signal request. -/
theorem System.step_spec {t : System} {event : SessionEvent} (hs : s.Inv)
    (h : s.step event = some t) :
    t.Inv ∧ ∃ new, t.log = s.log ++ new ∧
      ((∀ entry ∈ new, entry.HitsOwnChild) ↔ ¬SignalsReapedChild s event) := by
  cases event with
  | childExits pid =>
    obtain ⟨hinv, hlog⟩ := inv_moveChild hs h
    exact ⟨hinv, [], by rw [hlog, List.append_nil], by simp [SignalsReapedChild]⟩
  | waitReturns pid =>
    obtain ⟨hinv, hlog⟩ := inv_moveChild hs h
    exact ⟨hinv, [], by rw [hlog, List.append_nil], by simp [SignalsReapedChild]⟩
  | readError =>
    obtain ⟨state, hstate, rfl⟩ := Option.map_eq_some_iff.mp h
    exact ⟨nofun, [], by rw [List.append_nil], by simp [SignalsReapedChild]⟩
  | message message responses =>
    obtain ⟨state, hstate, rfl⟩ := Option.map_eq_some_iff.mp h
    have heffect := effect_handleMessage responses state message
    refine ⟨inv_record hs hstate heffect, _, rfl, ?_⟩
    rw [List.forall_mem_map]
    exact hitsOwnChild_record hs hstate heffect responses

/-- **Signals of a session.**  In any interleaving of the messages on a session channel with
    the end of its child and the wait task, every signal is for a child of the session that
    has not been reaped, exactly when no request for a signal is handled once it has been. -/
theorem signals_hit_own_child_iff {events : List SessionEvent} {s : System}
    (h : Run System.step anyStep {} events s) :
    (∀ entry ∈ s.log, entry.HitsOwnChild) ↔
      Run System.step (fun s event => ¬SignalsReapedChild s event) {} events s := by
  have hlog : _ ↔ _ ∧ Run System.step (fun s event => ¬SignalsReapedChild s event) {} events s :=
    h.log_iff System.log LogEntry.HitsOwnChild
      (fun s event t hs hstep => (System.step_spec hs hstep).1)
      (fun s event t hs hstep => (System.step_spec hs hstep).2) System.inv_start
  rw [hlog]
  exact and_iff_right (by simp)

/-! ## Two runs -/

/-- A request, where every call succeeds and a started process gets the pid 7. -/
def requestEvent (request : ChannelRequest) : SessionEvent :=
  .message (.channelRequest ⟨false, request⟩) { spawn := .ok 7, agentSocket := .ok [] }

def termEvent : SessionEvent := requestEvent (.signal ⟨ascii "TERM"⟩)

def execEvent : SessionEvent := requestEvent (.exec ⟨ascii "true"⟩)

def spawnEntry : LogEntry := ⟨.spawn none none (.exec (ascii "true")) 7, []⟩

def killEntry (status : ChildStatus) : LogEntry := ⟨.kill 7 .SIGTERM, [⟨7, status⟩]⟩

def afterSignal (atSignal atEnd : ChildStatus) : System where
  handler := some { session := some ⟨some 7, false⟩ }
  children := [⟨7, atEnd⟩]
  log := [spawnEntry, killEntry atSignal]

/-- The child is signalled while it runs, or is not yet reaped. -/
theorem signals_hit_own_child_in_time :
    Run System.step (fun s event => ¬SignalsReapedChild s event) {}
      [execEvent, .childExits 7, termEvent, .waitReturns 7] (afterSignal .exited .reaped) := by
  have hrun : Run System.step anyStep {} [execEvent, .childExits 7, termEvent, .waitReturns 7]
      (afterSignal .exited .reaped) := run_of_exec (by decide +kernel)
  refine (signals_hit_own_child_iff hrun).mp ?_
  intro entry hentry
  simp only [afterSignal, List.mem_cons, List.not_mem_nil, or_false] at hentry
  obtain rfl | rfl := hentry
  · trivial
  · exact ⟨⟨7, .exited⟩, by decide, by decide, .inl rfl⟩

/-- The child has ended and been reaped when the signal is requested: the signal goes to
    whichever process has got the pid 7 since. -/
theorem signal_after_reaping :
    ∃ s, Run System.step anyStep {} [execEvent, .childExits 7, .waitReturns 7, termEvent] s ∧
      ∃ entry ∈ s.log, ¬entry.HitsOwnChild := by
  refine ⟨afterSignal .reaped .reaped, run_of_exec (by decide +kernel), killEntry .reaped,
    by simp [afterSignal], ?_⟩
  rintro ⟨child, hchild, hstatus, -⟩
  obtain rfl := List.mem_singleton.mp hchild
  exact hstatus rfl

end Ssh3.Server
