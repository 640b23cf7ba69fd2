/-
  Ssh3.Core.FramingSpec

  Concurrent use of a channel, continued: as long as no task gets the `send`
  lock with a message to write while another one waits for it with the header in
  hand, the stream is the header followed by whole messages.

  `Stage` is the invariant of such runs.  It follows the header: still in the
  channel, in the hands of a task, partly written, or written.
-/

import Mathlib.Data.List.Forall2
import Ssh3.Core.Framing
import Ssh3.Lib.Tasks

namespace Ssh3.Core.Framing

open Proto Transition
open Tasks (forall_set forall_append get_set_self)

/-! ## Mutual exclusion -/

def Task.holdsLock : Task → Bool
  | .writeHeader _ _ | .writing _ _ _ => true
  | _ => false

/-- A task that has got the `send` lock is the one that holds it. -/
def Locked (lock : Option Nat) (tasks : List Task) : Prop :=
  ∀ i task, tasks[i]? = some task → task.holdsLock = true → lock = some i

section Locked

variable {lock : Option Nat} {tasks : List Task} {i : Nat} {task old : Task}

theorem Locked.keep (h : Locked lock tasks) (hself : task.holdsLock = true → lock = some i) :
    Locked lock (tasks.set i task) :=
  Tasks.Locked.keep h hself

theorem Locked.acquire (h : Locked none tasks) : Locked (some i) (tasks.set i task) :=
  Tasks.Locked.acquire h

theorem Locked.release (h : Locked lock tasks) (hget : tasks[i]? = some old)
    (hold : old.holdsLock = true) (hself : task.holdsLock = false) :
    Locked none (tasks.set i task) :=
  Tasks.Locked.release h hget hold hself

end Locked

/-! ## What a task can do -/

/-- Neither the header nor the lock is with this task. -/
def Task.Quiet : Task → Prop
  | .start _ | .body _ | .wantSend _ _ | .finished _ | .panicked _ => True
  | _ => False

theorem Task.Quiet.not_holdsLock {task : Task} (h : task.Quiet) : task.holdsLock = false := by
  cases task with
  | writeHeader call rest => exact absurd h id
  | writing call rest messages => exact absurd h id
  | start _ | wantHeader _ _ | body _ | wantSend _ _ | finished _ | panicked _ => rfl

/-- The moves of task `i`, by what they do to the header, the lock and the stream. -/
inductive Advance (s : State) (i : Nat) : Task → State → Prop
  | takeHeader {call : Call} {header : List UInt8} (hheader : s.channel.header = some header) :
      Advance s i (.start call) { s.setTask i (.wantHeader call header) with
        channel := { s.channel with header := none } }
  | quiet {old task : Task} {datagrams : List (List UInt8)} (hold : old.Quiet)
      (hheader : s.channel.header = none ∨ ∀ call, old ≠ .start call) (htask : task.Quiet) :
      Advance s i old { s.setTask i task with datagrams }
  | lockHeader {call : Call} {header : List UInt8} (hfree : s.lock = none) :
      Advance s i (.wantHeader call header)
        { s.setTask i (.writeHeader call header) with lock := some i }
  | writeHeader {call : Call} {bytes rest : List UInt8} :
      Advance s i (.writeHeader call (bytes ++ rest))
        { s.setTask i (.writeHeader call rest) with sent := s.sent ++ bytes }
  | releaseHeader {call : Call} :
      Advance s i (.writeHeader call []) { s.setTask i (.body call) with lock := none }
  | lockSend {call : Call} {messages : List Message} (hfree : s.lock = none) :
      Advance s i (.wantSend call messages)
        { s.setTask i (.writing call [] messages) with lock := some i }
  | encode {call : Call} {message : Message} {messages : List Message} {encoded : List UInt8}
      (hencoded : message.toVec = .ok encoded) :
      Advance s i (.writing call [] (message :: messages))
        (s.setTask i (.writing call encoded messages))
  | write {call : Call} {bytes rest : List UInt8} {messages : List Message}
      (hbytes : bytes ≠ []) :
      Advance s i (.writing call (bytes ++ rest) messages)
        { s.setTask i (.writing call rest messages) with sent := s.sent ++ bytes }
  | release {call : Call} {messages : List Message} {task : Task} {channel : Channel}
      (htask : task.Quiet) (hheader : channel.header = s.channel.header) :
      Advance s i (.writing call [] messages)
        { s.setTask i task with lock := none, channel }

section Advance

variable {s t : State} {i : Nat}

theorem Advance.quietTask {old task : Task} (hold : old.Quiet)
    (hheader : s.channel.header = none ∨ ∀ call, old ≠ .start call) (htask : task.Quiet) :
    Advance s i old (s.setTask i task) := by
  have hquiet : Advance s i old { s.setTask i task with datagrams := s.datagrams } :=
    .quiet hold hheader htask
  exact hquiet

theorem Advance.of_body (s : State) (i : Nat) (call : Call) :
    Advance s i (.body call) (s.runBody i call) := by
  have hbody : ∀ caller, Task.body call ≠ .start caller := by
    intro caller heq
    cases heq
  -- a panic, an error or messages to send: in each case the task stays quiet
  have hawait : ∀ result, Advance s i (.body call) (s.awaitSend i call result) := by
    intro result
    rcases result with panic | err | messages
    · exact .quietTask trivial (.inr hbody) trivial
    · exact .quietTask trivial (.inr hbody) trivial
    · exact .quietTask trivial (.inr hbody) trivial
  cases call with
  | sendDatagram datagram =>
    rw [State.runBody]
    cases s.channel.datagramSender with
    | none => exact .quietTask trivial (.inr hbody) trivial
    | some sender =>
      cases hframe : sender.frame datagram with
      | error panic =>
        simp only [hframe]
        exact .quietTask trivial (.inr hbody) trivial
      | ok buf =>
        simp only [hframe]
        exact .quiet trivial (.inr hbody) trivial
  | writeData dataBuf dataType => exact hawait (Call.messages _ (.writeData dataBuf dataType))
  | sendMessage message => exact hawait (Call.messages 0 (.sendMessage message))
  | sendRequest request => exact hawait (Call.messages 0 (.sendRequest request))
  | confirmChannel maxPacketSize => exact hawait (Call.messages 0 (.confirmChannel maxPacketSize))

theorem Call.finish_header (call : Call) (channel : Channel) :
    (call.finish channel).header = channel.header := by
  cases call with
  | confirmChannel maxPacketSize => rfl
  | writeData _ _ | sendMessage _ | sendRequest _ | sendDatagram _ => rfl

theorem Advance.of_advance {n : Nat} {task : Task} (h : s.advance i n task = some t) :
    Advance s i task t := by
  cases task with
  | start call =>
    rw [State.advance] at h
    cases hheader : s.channel.header with
    | none =>
      rw [hheader] at h
      cases h
      exact .quietTask trivial (.inl hheader) trivial
    | some header =>
      rw [hheader] at h
      cases h
      exact .takeHeader hheader
  | wantHeader call header =>
    rw [State.advance] at h
    split_ifs at h with hfree
    cases h
    exact .lockHeader hfree
  | writeHeader call rest =>
    cases rest with
    | nil =>
      cases h
      exact .releaseHeader
    | cons b rest =>
      cases h
      -- one write takes a byte and up to `n` more
      have hrest : b :: rest = (b :: rest.take n) ++ rest.drop n := by
        rw [List.cons_append, List.take_append_drop]
      nth_rewrite 1 [hrest]
      exact .writeHeader
  | body call =>
    cases h
    exact .of_body s i call
  | wantSend call messages =>
    rw [State.advance] at h
    split_ifs at h with hfree
    cases h
    exact .lockSend hfree
  | writing call rest messages =>
    cases rest with
    | cons b rest =>
      cases h
      have hrest : b :: rest = (b :: rest.take n) ++ rest.drop n := by
        rw [List.cons_append, List.take_append_drop]
      nth_rewrite 1 [hrest]
      exact .write (List.cons_ne_nil _ _)
    | nil =>
      cases messages with
      | nil =>
        cases h
        exact .release trivial (call.finish_header s.channel)
      | cons message messages =>
        rw [State.advance] at h
        cases hencoded : message.toVec with
        | error panic =>
          rw [hencoded] at h
          cases h
          exact .release trivial rfl
        | ok encoded =>
          rw [hencoded] at h
          cases h
          exact .encode hencoded
  | finished err => cases h
  | panicked panic => cases h

/-- **Step lemma**, mutual exclusion: only the task that holds the lock writes. -/
theorem Locked.advance {old : Task} (h : Locked s.lock s.tasks) (hget : s.tasks[i]? = some old)
    (hadvance : Advance s i old t) : Locked t.lock t.tasks := by
  cases hadvance with
  | takeHeader hheader => exact h.keep nofun
  | quiet hold hheader htask =>
    refine h.keep fun hholds => ?_
    rw [htask.not_holdsLock] at hholds
    cases hholds
  | lockHeader hfree | lockSend hfree =>
    rw [hfree] at h
    exact h.acquire
  | writeHeader | encode hencoded | write hbytes => exact h.keep fun _ => h i _ hget rfl
  | releaseHeader => exact h.release hget rfl rfl
  | release htask hheader => exact h.release hget rfl htask.not_holdsLock

end Advance

/-! ## Where the header is -/

/-- Nothing of these messages reaches the stream. -/
def Silent (messages : List Message) : Prop := speaks messages = false

/-- The header is kept, is taken, is being written, or is in front of whole frames. -/
inductive Stage (header : List UInt8) (s : State) : Prop
  | kept (hheader : s.channel.header = some header) (hsent : s.sent = [])
      (htasks : ∀ (i : Nat) (task : Task), s.tasks[i]? = some task → ∃ call, task = .start call)
  | taken (j : Nat) (call : Call) (hheader : s.channel.header = none)
      (hj : s.tasks[j]? = some (.wantHeader call header)) (hsent : s.sent = [])
      (hothers : ∀ (i : Nat) (task : Task), s.tasks[i]? = some task → i ≠ j →
        task.Quiet ∨ ∃ call messages, task = .writing call [] messages ∧ Silent messages)
  | writing (j : Nat) (call : Call) (rest : List UInt8) (hheader : s.channel.header = none)
      (hj : s.tasks[j]? = some (.writeHeader call rest)) (hsent : s.sent ++ rest = header)
      (hothers : ∀ (i : Nat) (task : Task), s.tasks[i]? = some task → i ≠ j → task.Quiet)
  | written (rest : List UInt8) (messages : List Message) (frames : List (List UInt8))
      (hheader : s.channel.header = none) (hframes : Encodings messages frames)
      (hsent : s.sent ++ rest = header ++ frames.flatten) (hfree : s.lock = none → rest = [])
      (htasks : ∀ (i : Nat) (task : Task), s.tasks[i]? = some task →
        task.Quiet ∨ ∃ call messages, task = .writing call rest messages)

section Stage

variable {header : List UInt8} {s t : State} {i : Nat}

theorem Stage.framed (h : Stage header s) : Framed header s.sent := by
  cases h with
  | kept _ hsent =>
    rw [hsent]
    exact ⟨[], [], .nil, List.nil_prefix⟩
  | taken _ _ _ _ hsent =>
    rw [hsent]
    exact ⟨[], [], .nil, List.nil_prefix⟩
  | writing _ _ rest _ _ hsent =>
    refine ⟨[], [], .nil, rest, ?_⟩
    rw [hsent, List.flatten_nil, List.append_nil]
  | written rest messages frames _ hframes hsent => exact ⟨messages, frames, hframes, rest, hsent⟩

theorem Stage.spawn (h : Stage header s) (call : Call) :
    Stage header { s with tasks := s.tasks ++ [.start call] } := by
  have hold : ∀ {j : Nat} {task : Task}, s.tasks[j]? = some task →
      (s.tasks ++ [Task.start call])[j]? = some task := by
    intro j task hj
    rw [List.getElem?_append_left (List.getElem?_eq_some_iff.mp hj).1]
    exact hj
  -- a new task starts without the header, in every stage
  cases h with
  | kept hheader hsent htasks => exact .kept hheader hsent (forall_append ⟨call, rfl⟩ htasks)
  | taken j caller hheader hj hsent hothers =>
    exact .taken j caller hheader (hold hj) hsent
      (forall_append (fun _ => .inl trivial) hothers)
  | writing j caller rest hheader hj hsent hothers =>
    exact .writing j caller rest hheader (hold hj) hsent
      (forall_append (fun _ => trivial) hothers)
  | written rest messages frames hheader hframes hsent hfree htasks =>
    exact .written rest messages frames hheader hframes hsent hfree
      (forall_append (.inl trivial) htasks)

/-- A task without the lock and the header goes on without them. -/
theorem Stage.quiet {old task : Task} {datagrams : List (List UInt8)} (h : Stage header s)
    (hget : s.tasks[i]? = some old) (hold : old.Quiet)
    (hheld : s.channel.header = none ∨ ∀ call, old ≠ .start call) (htask : task.Quiet) :
    Stage header { s.setTask i task with datagrams } := by
  cases h with
  | kept hheader hsent htasks =>
    -- in the first stage a task that starts would take the header
    obtain ⟨call, rfl⟩ := htasks i old hget
    rcases hheld with hnone | hstart
    · cases hheader.symm.trans hnone
    · exact absurd rfl (hstart call)
  | taken j call hheader hj hsent hothers =>
    have hne : j ≠ i := by
      rintro rfl
      cases hj.symm.trans hget
      exact hold
    refine .taken j call hheader ?_ hsent ?_
    · exact (List.getElem?_set_ne hne.symm).trans hj
    · exact forall_set (fun _ => .inl htask) fun k other hk _ => hothers k other hk
  | writing j call rest hheader hj hsent hothers =>
    have hne : j ≠ i := by
      rintro rfl
      cases hj.symm.trans hget
      exact hold
    refine .writing j call rest hheader ?_ hsent ?_
    · exact (List.getElem?_set_ne hne.symm).trans hj
    · exact forall_set (fun _ => htask) fun k other hk _ => hothers k other hk
  | written rest messages frames hheader hframes hsent hfree htasks =>
    exact .written rest messages frames hheader hframes hsent hfree
      (forall_set (.inl htask) fun k other hk _ => htasks k other hk)

variable {call : Call} {rest : List UInt8} {messages : List Message}

theorem Stage.takeHeader {taken : List UInt8} (h : Stage header s)
    (hget : s.tasks[i]? = some (.start call)) (htaken : s.channel.header = some taken) :
    Stage header { s.setTask i (.wantHeader call taken) with
      channel := { s.channel with header := none } } := by
  cases h with
  | kept hheader hsent htasks =>
    -- what it takes is the header the channel was created with
    cases hheader.symm.trans htaken
    refine .taken i call rfl (get_set_self hget) hsent (forall_set (fun hne => absurd rfl hne) ?_)
    intro k other hk _ _
    obtain ⟨caller, rfl⟩ := htasks k other hk
    exact .inl trivial
  | taken j caller hheader _ _ _ => cases hheader.symm.trans htaken
  | writing j caller rest hheader _ _ _ => cases hheader.symm.trans htaken
  | written rest messages frames hheader _ _ _ _ => cases hheader.symm.trans htaken

theorem Stage.lockHeader {taken : List UInt8} (h : Stage header s)
    (hlocked : Locked s.lock s.tasks) (hget : s.tasks[i]? = some (.wantHeader call taken))
    (hfree : s.lock = none) :
    Stage header { s.setTask i (.writeHeader call taken) with lock := some i } := by
  cases h with
  | kept _ _ htasks =>
    obtain ⟨caller, hbad⟩ := htasks i _ hget
    cases hbad
  | taken j caller hheader hj hsent hothers =>
    -- only one task has taken the header
    have heq : i = j := by
      by_contra hne
      rcases hothers i _ hget hne with hquiet | ⟨_, _, hbad, _⟩
      · exact hquiet
      · cases hbad
    subst heq
    cases hj.symm.trans hget
    refine .writing i call header hheader (get_set_self hget) ?_
      (forall_set (fun hne => absurd rfl hne) ?_)
    · show s.sent ++ header = header
      rw [hsent, List.nil_append]
    · -- the lock was free, so none of the others was writing
      intro k other hk hne _
      rcases hothers k other hk hne with hquiet | ⟨_, _, rfl, _⟩
      · exact hquiet
      · cases hfree.symm.trans (hlocked k _ hk rfl)
  | writing j caller rest _ hj _ _ => cases hfree.symm.trans (hlocked j _ hj rfl)
  | written rest messages frames _ _ _ _ htasks =>
    rcases htasks i _ hget with hquiet | ⟨_, _, hbad⟩
    · exact absurd hquiet id
    · cases hbad

/-- Only in the third stage does a task write the header, and it is this one. -/
theorem Stage.writing_of_get (h : Stage header s)
    (hget : s.tasks[i]? = some (.writeHeader call rest)) :
    s.channel.header = none ∧ s.sent ++ rest = header ∧
      ∀ (k : Nat) (task : Task), s.tasks[k]? = some task → k ≠ i → task.Quiet := by
  -- in the other three stages no task is at this point
  cases h with
  | kept _ _ htasks =>
    obtain ⟨caller, hbad⟩ := htasks i _ hget
    cases hbad
  | taken j caller _ hj _ hothers =>
    by_cases heq : i = j
    · subst heq
      cases hj.symm.trans hget
    · rcases hothers i _ hget heq with hquiet | ⟨_, _, hbad, _⟩
      · exact absurd hquiet id
      · cases hbad
  | writing j caller left hheader hj hsent hothers =>
    have heq : i = j := by
      by_contra hne
      exact hothers i _ hget hne
    subst heq
    cases hj.symm.trans hget
    exact ⟨hheader, hsent, hothers⟩
  | written left messages frames _ _ _ _ htasks =>
    rcases htasks i _ hget with hquiet | ⟨_, _, hbad⟩
    · exact absurd hquiet id
    · cases hbad

theorem Stage.writeHeader {bytes : List UInt8} (h : Stage header s)
    (hget : s.tasks[i]? = some (.writeHeader call (bytes ++ rest))) :
    Stage header { s.setTask i (.writeHeader call rest) with sent := s.sent ++ bytes } := by
  obtain ⟨hheader, hsent, hothers⟩ := h.writing_of_get hget
  refine .writing i call rest hheader (get_set_self hget) ?_
    (forall_set (fun hne => absurd rfl hne) fun k other hk hne _ => hothers k other hk hne)
  show s.sent ++ bytes ++ rest = header
  rw [List.append_assoc]
  exact hsent

theorem Stage.releaseHeader (h : Stage header s)
    (hget : s.tasks[i]? = some (.writeHeader call [])) :
    Stage header { s.setTask i (.body call) with lock := none } := by
  obtain ⟨hheader, hsent, hothers⟩ := h.writing_of_get hget
  -- the header is complete, and no message has been sent yet
  refine .written [] [] [] hheader .nil ?_ (fun _ => rfl)
    (forall_set (.inl trivial) fun k other hk hne => .inl (hothers k other hk hne))
  show s.sent ++ [] = header ++ [].flatten
  rw [hsent, List.flatten_nil, List.append_nil]

/-- A task that holds the lock for its messages: either the header is still in another task's
    hands and this one has nothing to say, or the header is on the stream. -/
theorem Stage.cases_of_writing (h : Stage header s) (hlocked : Locked s.lock s.tasks)
    (hget : s.tasks[i]? = some (.writing call rest messages)) :
    (rest = [] ∧ Silent messages ∧ ∃ j caller, j ≠ i ∧ s.channel.header = none ∧
      s.tasks[j]? = some (.wantHeader caller header) ∧ s.sent = [] ∧
      ∀ (k : Nat) (task : Task), s.tasks[k]? = some task → k ≠ i → k ≠ j → task.Quiet) ∨
    (s.channel.header = none ∧ ∃ sent frames, Encodings sent frames ∧
      s.sent ++ rest = header ++ frames.flatten ∧
      ∀ (k : Nat) (task : Task), s.tasks[k]? = some task → k ≠ i → task.Quiet) := by
  -- by mutual exclusion no other task is writing
  have hnot : ∀ k other, s.tasks[k]? = some other → k ≠ i → other.holdsLock = true → False := by
    intro k other hk hne hholds
    have hlock := (hlocked k other hk hholds).symm.trans (hlocked i _ hget rfl)
    exact hne (Option.some.inj hlock)
  cases h with
  | kept _ _ htasks =>
    obtain ⟨caller, hbad⟩ := htasks i _ hget
    cases hbad
  | taken j caller hheader hj hsent hothers =>
    have hne : j ≠ i := by
      rintro rfl
      cases hj.symm.trans hget
    rcases hothers i _ hget hne.symm with hquiet | ⟨_, _, hwriting, hsilent⟩
    · exact absurd hquiet id
    · cases hwriting
      refine .inl ⟨rfl, hsilent, j, caller, hne, hheader, hj, hsent, ?_⟩
      intro k other hk hki hkj
      rcases hothers k other hk hkj with hquiet | ⟨_, _, rfl, _⟩
      · exact hquiet
      · exact absurd rfl (fun hholds => hnot k _ hk hki hholds)
  | writing j caller left _ hj _ hothers =>
    have hne : i ≠ j := by
      rintro rfl
      cases hj.symm.trans hget
    exact absurd (hothers i _ hget hne) id
  | written left sent frames hheader hframes hsent _ htasks =>
    rcases htasks i _ hget with hquiet | ⟨_, _, hwriting⟩
    · exact absurd hquiet id
    · cases hwriting
      refine .inr ⟨hheader, sent, frames, hframes, hsent, ?_⟩
      intro k other hk hne
      rcases htasks k other hk with hquiet | ⟨_, _, rfl⟩
      · exact hquiet
      · exact absurd rfl (fun hholds => hnot k _ hk hne hholds)

theorem Stage.lockSend (h : Stage header s)
    (hget : s.tasks[i]? = some (.wantSend call messages)) (hfree : s.lock = none)
    (hlocked : Locked s.lock s.tasks)
    (horderly : speaks messages = true → s.tasks.any Task.holdsHeader = false) :
    Stage header { s.setTask i (.writing call [] messages) with lock := some i } := by
  cases h with
  | kept _ _ htasks =>
    obtain ⟨caller, hbad⟩ := htasks i _ hget
    cases hbad
  | taken j caller hheader hj hsent hothers =>
    have hne : j ≠ i := by
      rintro rfl
      cases hj.symm.trans hget
    -- the guard: with a header still to be written, this task has nothing to say
    have hsilent : Silent messages := by
      by_contra hspeaks
      have hnone := horderly (Bool.not_eq_false _ ▸ hspeaks)
      have hany : s.tasks.any Task.holdsHeader = true :=
        List.any_eq_true.mpr ⟨_, List.mem_of_getElem? hj, rfl⟩
      cases hnone.symm.trans hany
    refine .taken j caller hheader ?_ hsent ?_
    · exact (List.getElem?_set_ne hne.symm).trans hj
    · exact forall_set (fun _ => .inr ⟨call, messages, rfl, hsilent⟩)
        fun k other hk _ => hothers k other hk
  | writing j caller rest _ hj _ _ => cases hfree.symm.trans (hlocked j _ hj rfl)
  | written rest sent frames hheader hframes hsent hnone htasks =>
    cases hnone hfree
    exact .written [] sent frames hheader hframes hsent (fun _ => rfl)
      (forall_set (.inr ⟨call, messages, rfl⟩) fun k other hk _ => htasks k other hk)

theorem Stage.encode {message : Message}
    {encoded : List UInt8} (h : Stage header s) (hlocked : Locked s.lock s.tasks)
    (hget : s.tasks[i]? = some (.writing call [] (message :: messages)))
    (hencoded : message.toVec = .ok encoded) :
    Stage header (s.setTask i (.writing call encoded messages)) := by
  rcases h.cases_of_writing hlocked hget with ⟨_, hsilent, _⟩ |
    ⟨hheader, sent, frames, hframes, hsent, hothers⟩
  · -- a message that can be encoded would not be silent
    rw [Silent, speaks, hencoded] at hsilent
    cases hsilent
  · rw [List.append_nil] at hsent
    refine .written encoded (sent ++ [message]) (frames ++ [encoded]) hheader ?_ ?_ ?_
      (forall_set (.inr ⟨call, messages, rfl⟩) fun k other hk hne => .inl (hothers k other hk hne))
    · exact List.rel_append hframes (.cons hencoded .nil)
    · show s.sent ++ encoded = _
      rw [hsent, List.flatten_append, List.flatten_singleton, List.append_assoc]
    · intro hfree
      cases hfree.symm.trans (hlocked i _ hget rfl)

theorem Stage.write {bytes : List UInt8} (h : Stage header s) (hlocked : Locked s.lock s.tasks)
    (hget : s.tasks[i]? = some (.writing call (bytes ++ rest) messages)) (hbytes : bytes ≠ []) :
    Stage header { s.setTask i (.writing call rest messages) with sent := s.sent ++ bytes } := by
  rcases h.cases_of_writing hlocked hget with ⟨hnil, _⟩ |
    ⟨hheader, sent, frames, hframes, hsent, hothers⟩
  · -- a silent task has nothing to write
    exact absurd (List.append_eq_nil_iff.mp hnil).1 hbytes
  · refine .written rest sent frames hheader hframes ?_ ?_
      (forall_set (.inr ⟨call, messages, rfl⟩) fun k other hk hne => .inl (hothers k other hk hne))
    · show s.sent ++ bytes ++ rest = _
      rw [List.append_assoc]
      exact hsent
    · intro hfree
      cases hfree.symm.trans (hlocked i _ hget rfl)

theorem Stage.release {task : Task} {channel : Channel}
    (h : Stage header s) (hlocked : Locked s.lock s.tasks)
    (hget : s.tasks[i]? = some (.writing call [] messages)) (htask : task.Quiet)
    (hchannel : channel.header = s.channel.header) :
    Stage header { s.setTask i task with lock := none, channel } := by
  rcases h.cases_of_writing hlocked hget with
    ⟨_, _, j, caller, hne, hheader, hj, hsent, hothers⟩ |
    ⟨hheader, sent, frames, hframes, hsent, hothers⟩
  · -- nothing was written, and the header is still with the other task
    refine .taken j caller (hchannel.trans hheader) ?_ hsent
      (forall_set (fun _ => .inl htask) fun k other hk hki hkj => .inl (hothers k other hk hki hkj))
    exact (List.getElem?_set_ne hne.symm).trans hj
  · exact .written [] sent frames (hchannel.trans hheader) hframes hsent (fun _ => rfl)
      (forall_set (.inl htask) fun k other hk hne => .inl (hothers k other hk hne))

/-- **Step lemma.**  If no message overtakes it, the header is kept back or comes first. -/
theorem Stage.step {a : Action} (h : Stage header s) (hlocked : Locked s.lock s.tasks)
    (horderly : Orderly s a) (hstep : Framing.step s a = some t) : Stage header t := by
  cases a with
  | spawn call =>
    cases hstep
    exact h.spawn call
  | advance i n =>
    obtain ⟨task, hget, hadvance⟩ := Option.bind_eq_some_iff.mp hstep
    cases Advance.of_advance hadvance with
    | takeHeader hheader => exact h.takeHeader hget hheader
    | quiet hold hheader htask => exact h.quiet hget hold hheader htask
    | lockHeader hfree => exact h.lockHeader hlocked hget hfree
    | writeHeader => exact h.writeHeader hget
    | releaseHeader => exact h.releaseHeader hget
    | lockSend hfree =>
      refine h.lockSend hget hfree hlocked fun hspeaks => ?_
      rw [Orderly, overtakes, hget] at horderly
      simpa only [hspeaks, Bool.true_and] using horderly
    | encode hencoded => exact h.encode hlocked hget hencoded
    | write hbytes => exact h.write hlocked hget hbytes
    | release htask hheader => exact h.release hlocked hget htask hheader

theorem Locked.step {a : Action} (h : Locked s.lock s.tasks)
    (hstep : Framing.step s a = some t) : Locked t.lock t.tasks := by
  cases a with
  | spawn call =>
    cases hstep
    exact forall_append nofun h
  | advance i n =>
    obtain ⟨task, hget, hadvance⟩ := Option.bind_eq_some_iff.mp hstep
    exact h.advance hget (.of_advance hadvance)

end Stage

/-! ## Whole runs -/

/-- **Framing.**  Whatever calls run concurrently on a new channel that has to send its header:
    in every orderly run the stream holds a beginning of the encoded header followed by whole
    encoded messages. -/
theorem framed_of_orderly {conversationStreamId : UInt64} {conversationId : ConversationId}
    {channelId : UInt64} {channelType : List UInt8} {maxPacketSize : UInt64}
    {datagramSender : Option ConversationDatagramSender} {confirmSent confirmReceived : Bool}
    {datagramsQueueSize : Nat} {additionalHeaderBytes : Option (List UInt8)} {channel : Channel}
    {as : List Action} {s : State}
    (hnew : Channel.new conversationStreamId conversationId channelId channelType maxPacketSize
      datagramSender true confirmSent confirmReceived datagramsQueueSize
      additionalHeaderBytes = .ok channel)
    (hrun : Run step Orderly (init channel) as s) :
    ∃ header, ChannelHeader.encode { conversationStreamId, channelType, maxPacketSize }
      additionalHeaderBytes = .ok header ∧ Framed header s.sent := by
  obtain ⟨header, hencode, hheader, -⟩ := Channel.new_sendHeader hnew
  have hinit : Locked (init channel).lock (init channel).tasks ∧ Stage header (init channel) := by
    constructor
    · intro i task hget
      cases hget
    · refine .kept hheader rfl ?_
      intro i task hget
      cases hget
  -- mutual exclusion and the stage of the header are preserved together
  have hinv := hrun.invariant (P := fun s => Locked s.lock s.tasks ∧ Stage header s) ?_ hinit
  · exact ⟨header, hencode, hinv.2.framed⟩
  · rintro s a t ⟨hlocked, hstage⟩ horderly hstep
    exact ⟨hlocked.step hstep, hstage.step hlocked horderly hstep⟩

/-! ## Two tasks on a session channel -/

def sessionChannel : Channel where
  info := {
    maxPacketSize := 1024
    conversationStreamId := 0
    conversationId := zeroConversation
    channelId := 4
    channelType := ascii "session" }
  confirmSent := true
  confirmReceived := false
  header := some [0xc0, 0, 0, 0, 0xaf, 0x36, 0x27, 0xe6, 0,
    7, 0x73, 0x65, 0x73, 0x73, 0x69, 0x6f, 0x6e, 0x44, 0]
  datagramSender := none
  datagramsQueueSize := 8

def shellRequest : ChannelRequestMessage := { wantReply := true, request := .shell }

def resizeRequest : ChannelRequestMessage where
  wantReply := false
  request := .windowChange { charWidth := 80, charHeight := 24, pixelWidth := 0, pixelHeight := 0 }

/-- The second task waits until the first one has written the header. -/
theorem framed_of_orderly_two_requests :
    ∃ s, Run step Orderly (init sessionChannel)
        [.spawn (.sendRequest shellRequest), .spawn (.sendRequest resizeRequest),
          .advance 0 0, .advance 1 0, .advance 1 0, .advance 0 0, .advance 0 99, .advance 0 0,
          .advance 1 0, .advance 1 0, .advance 1 3] s ∧
      ∃ header, ChannelHeader.encode
        { conversationStreamId := 0, channelType := ascii "session", maxPacketSize := 1024 }
        none = .ok header ∧ Framed header s.sent := by
  have hnew : Channel.new 0 zeroConversation 4 (ascii "session") 1024 none true true
      false 8 none = .ok sessionChannel := by decide +kernel
  have hsome : (exec step Orderly (init sessionChannel)
      [.spawn (.sendRequest shellRequest), .spawn (.sendRequest resizeRequest),
        .advance 0 0, .advance 1 0, .advance 1 0, .advance 0 0, .advance 0 99, .advance 0 0,
        .advance 1 0, .advance 1 0, .advance 1 3]).isSome = true := by decide +kernel
  obtain ⟨s, hexec⟩ := Option.isSome_iff_exists.mp hsome
  exact ⟨s, run_of_exec hexec, framed_of_orderly hnew (run_of_exec hexec)⟩

/-- The first task has taken the header when the second one, which finds no header left, gets
    the lock and writes the first byte of its request. -/
theorem request_overtakes_header :
    ∃ s header, Channel.new 0 zeroConversation 4 (ascii "session") 1024 none true true
        false 8 none = .ok sessionChannel ∧
      ChannelHeader.encode
        { conversationStreamId := 0, channelType := ascii "session", maxPacketSize := 1024 }
        none = .ok header ∧
      Run step anyStep (init sessionChannel)
        [.spawn (.sendRequest shellRequest), .spawn (.sendRequest resizeRequest),
          .advance 0 0, .advance 1 0, .advance 1 0, .advance 1 0, .advance 1 0, .advance 1 0] s ∧
      ¬Framed header s.sent := by
  have hsent : (exec step anyStep (init sessionChannel)
      [.spawn (.sendRequest shellRequest), .spawn (.sendRequest resizeRequest),
        .advance 0 0, .advance 1 0, .advance 1 0, .advance 1 0, .advance 1 0,
        .advance 1 0]).map State.sent = some [0x40] := by decide +kernel
  obtain ⟨s, hexec, hs⟩ := Option.map_eq_some_iff.mp hsent
  refine ⟨s, [0xc0, 0, 0, 0, 0xaf, 0x36, 0x27, 0xe6, 0,
    7, 0x73, 0x65, 0x73, 0x73, 0x69, 0x6f, 0x6e, 0x44, 0], by decide +kernel, by decide +kernel,
    run_of_exec hexec, ?_⟩
  -- a header starts with 0xc0, so 0x40 is the beginning of none
  rintro ⟨messages, frames, -, hprefix⟩
  rw [hs, List.cons_append, List.cons_prefix_cons] at hprefix
  exact absurd hprefix.1 (by decide)

end Ssh3.Core.Framing
