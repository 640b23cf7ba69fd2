/-
  Ssh3.Core.Serialized

  What concurrent calls put on the send stream of a channel that has no header to send,
  which is every channel that was accepted: their messages, one after the other.

  `log` is the list of the messages that have been encoded for the stream so far.  A step
  of a call takes at most one message from what the call owes and puts it at the end of
  the log.  A call that has not returned can always go on, or waits for one that can.
-/

import Ssh3.Core.FramingSpec
import Ssh3.Core.PacketLimit

namespace Ssh3.Core.Framing

open Proto Transition
open StreamCodec (ok_bind)

theorem toVec_of_encodable {message : Message} (h : message.Encodable) :
    message.toVec = .ok message.wire := by
  have hcoded := Message.coded h
  rw [Message.toVec, hcoded.length, ok_bind, hcoded.encode, List.nil_append]

/-! ## One call -/

/-- The messages that a call has still to encode -/
def Task.owed (maxPacketSize : UInt64) : Task → List Message
  | .start call | .body call =>
    match call.messages maxPacketSize with
    | .ok (.ok messages) => messages
    | _ => []
  | .wantSend _ messages | .writing _ _ messages => messages
  | .wantHeader _ _ | .writeHeader _ _ | .finished _ | .panicked _ => []

/-- A call that writes messages, all of which can be encoded, and is not in
    `maybe_send_header` -/
def Task.Sound (maxPacketSize : UInt64) : Task → Prop
  | .start call | .body call =>
    (∃ messages, call.messages maxPacketSize = .ok (.ok messages) ∧
      ∀ message ∈ messages, message.Encodable) ∧
    ∀ datagram, call ≠ .sendDatagram datagram
  | .wantSend _ messages | .writing _ _ messages => ∀ message ∈ messages, message.Encodable
  | .finished err => err = none
  | .wantHeader _ _ | .writeHeader _ _ | .panicked _ => False

/-- The steps it takes to write messages: one to encode each of them, and one for each byte -/
def cost (messages : List Message) : Nat :=
  (messages.map fun message => message.wire.length + 1).sum

/-- The steps that a call still takes besides those of the messages that it owes -/
def Task.left : Task → Nat
  | .start _ => 4
  | .body _ => 3
  | .wantSend _ _ => 2
  | .writing _ rest _ => 1 + rest.length
  | .wantHeader _ _ | .writeHeader _ _ | .finished _ | .panicked _ => 0

/-- A bound on the steps that a call still takes -/
def Task.work (maxPacketSize : UInt64) (task : Task) : Nat :=
  cost (task.owed maxPacketSize) + task.left

/-- The moves of a sound call: `new` is what it adds to the log. -/
inductive Moved (s : State) (i : Nat) : Task → List Message → Task → State → Prop
  | start {call : Call} : Moved s i (.start call) [] (.body call) (s.setTask i (.body call))
  | body {call : Call} {messages : List Message}
      (hmessages : call.messages s.channel.info.maxPacketSize = .ok (.ok messages)) :
      Moved s i (.body call) [] (.wantSend call messages) (s.setTask i (.wantSend call messages))
  | lock {call : Call} {messages : List Message} (hfree : s.lock = none) :
      Moved s i (.wantSend call messages) [] (.writing call [] messages)
        { s.setTask i (.writing call [] messages) with lock := some i }
  | encode {call : Call} {message : Message} {messages : List Message} :
      Moved s i (.writing call [] (message :: messages)) [message]
        (.writing call message.wire messages)
        (s.setTask i (.writing call message.wire messages))
  | write {call : Call} {bytes rest : List UInt8} {messages : List Message}
      (hbytes : bytes ≠ []) :
      Moved s i (.writing call (bytes ++ rest) messages) [] (.writing call rest messages)
        { s.setTask i (.writing call rest messages) with sent := s.sent ++ bytes }
  | release {call : Call} :
      Moved s i (.writing call [] []) [] (.finished none)
        { s.setTask i (.finished none) with lock := none, channel := call.finish s.channel }

section Moved

variable {s t : State} {i n : Nat} {old next : Task} {new log : List Message}

theorem Call.finish_info (call : Call) (channel : Channel) :
    (call.finish channel).info = channel.info := by
  cases call with
  | confirmChannel maxPacketSize => rfl
  | writeData _ _ | sendMessage _ | sendRequest _ | sendDatagram _ => rfl

theorem moved_of_advance (hheader : s.channel.header = none)
    (hsound : old.Sound s.channel.info.maxPacketSize) (h : s.advance i n old = some t) :
    ∃ new next, Moved s i old new next t := by
  cases old with
  | start call =>
    rw [State.advance, hheader] at h
    cases h
    exact ⟨_, _, .start⟩
  | body call =>
    obtain ⟨⟨messages, hmessages, -⟩, hdatagram⟩ := hsound
    cases h
    have hbody : s.runBody i call = s.setTask i (.wantSend call messages) := by
      cases call with
      | sendDatagram datagram => exact absurd rfl (hdatagram datagram)
      | writeData _ _ | sendMessage _ | sendRequest _ | confirmChannel _ =>
        rw [State.runBody, hmessages]
        · rfl
        · intro datagram heq
          cases heq
    rw [hbody]
    exact ⟨_, _, .body hmessages⟩
  | wantSend call messages =>
    rw [State.advance] at h
    split_ifs at h with hfree
    cases h
    exact ⟨_, _, .lock hfree⟩
  | writing call rest messages =>
    cases rest with
    | cons b rest =>
      cases h
      have hrest : b :: rest = (b :: rest.take n) ++ rest.drop n := by
        rw [List.cons_append, List.take_append_drop]
      rw [hrest]
      exact ⟨[], .writing call (rest.drop n) messages, .write (List.cons_ne_nil _ _)⟩
    | nil =>
      cases messages with
      | nil =>
        cases h
        exact ⟨_, _, .release⟩
      | cons message messages =>
        rw [State.advance, toVec_of_encodable (hsound message List.mem_cons_self)] at h
        cases h
        exact ⟨_, _, .encode⟩
  | wantHeader call header => exact hsound.elim
  | writeHeader call rest => exact hsound.elim
  | finished err => cases h
  | panicked panic => exact hsound.elim

theorem Moved.tasks (h : Moved s i old new next t) : t.tasks = s.tasks.set i next := by
  cases h <;> rfl

theorem Moved.info (h : Moved s i old new next t) : t.channel.info = s.channel.info := by
  cases h with
  | release => exact Call.finish_info _ _
  | start | body _ | lock _ | encode | write _ => rfl

theorem Moved.header (h : Moved s i old new next t) : t.channel.header = s.channel.header := by
  cases h with
  | release => exact Call.finish_header _ _
  | start | body _ | lock _ | encode | write _ => rfl

/-- What a call owes goes to the log, message by message. -/
theorem Moved.owed (h : Moved s i old new next t) :
    old.owed s.channel.info.maxPacketSize = new ++ next.owed s.channel.info.maxPacketSize := by
  cases h with
  | body hmessages =>
    rw [Task.owed, hmessages]
    rfl
  | start | lock _ | encode | write _ | release => rfl

theorem cost_cons (message : Message) (messages : List Message) :
    cost (message :: messages) = message.wire.length + 1 + cost messages := by
  rw [cost, List.map_cons, List.sum_cons]
  rfl

theorem Moved.work_lt (h : Moved s i old new next t) :
    next.work s.channel.info.maxPacketSize < old.work s.channel.info.maxPacketSize := by
  unfold Task.work
  rw [h.owed]
  cases h with
  | encode =>
    simp only [Task.left, List.singleton_append, cost_cons, List.length_nil]
    omega
  | write hbytes =>
    have hpos := List.length_pos_iff.mpr hbytes
    simp only [Task.left, List.nil_append, List.length_append]
    omega
  | start | body _ | lock _ | release =>
    simp only [Task.left, List.nil_append, List.length_nil]
    omega

theorem Moved.sound (h : Moved s i old new next t)
    (hsound : old.Sound s.channel.info.maxPacketSize) :
    next.Sound s.channel.info.maxPacketSize := by
  cases h with
  | start => exact hsound
  | body hmessages =>
    obtain ⟨⟨messages, hsome, hencodable⟩, -⟩ := hsound
    rw [hmessages] at hsome
    cases hsome
    exact hencodable
  | lock _ => exact hsound
  | encode => exact fun message hm => hsound message (List.mem_cons_of_mem _ hm)
  | write _ => exact hsound
  | release => rfl

end Moved

/-! ## The stream -/

/-- The bytes on the stream, and those that the holder of the lock has still to write, are the
    messages of the log. -/
inductive OnStream (log : List Message) (s : State) : Prop
  | free (hlock : s.lock = none) (hsent : s.sent = log.flatMap Message.wire)
  | held {i : Nat} {call : Call} {rest : List UInt8} {messages : List Message}
      (hlock : s.lock = some i) (hget : s.tasks[i]? = some (.writing call rest messages))
      (hsent : s.sent ++ rest = log.flatMap Message.wire)

/-- A channel without a header, used by sound calls only. -/
structure Serial (log : List Message) (s : State) : Prop where
  header : s.channel.header = none
  sound : ∀ (i : Nat) (task : Task), s.tasks[i]? = some task →
    task.Sound s.channel.info.maxPacketSize
  locked : Locked s.lock s.tasks
  encodable : ∀ message ∈ log, message.Encodable
  stream : OnStream log s

section Serial

variable {s t : State} {i : Nat} {old next : Task} {new log : List Message}

theorem Serial.of_writing {call : Call} {rest : List UInt8} {messages : List Message}
    (h : Serial log s) (hget : s.tasks[i]? = some (.writing call rest messages)) :
    s.lock = some i ∧ s.sent ++ rest = log.flatMap Message.wire := by
  have hmine : s.lock = some i := h.locked i _ hget rfl
  refine ⟨hmine, ?_⟩
  cases h.stream with
  | free hlock hsent =>
    rw [hlock] at hmine
    cases hmine
  | held hlock hget' hsent =>
    rw [hlock] at hmine
    cases hmine
    rw [hget] at hget'
    cases hget'
    exact hsent

/-- A task that does not write leaves the stream to the one that does. -/
theorem OnStream.setTask (h : OnStream log s) (hget : s.tasks[i]? = some old)
    (hold : old.holdsLock = false) : OnStream log (s.setTask i next) := by
  cases h with
  | free hlock hsent => exact .free hlock hsent
  | @held j call rest messages hlock hget' hsent =>
    have hne : i ≠ j := by
      rintro rfl
      rw [hget] at hget'
      cases hget'
      cases hold
    have hkept : (s.tasks.set i next)[j]? = some (.writing call rest messages) := by
      rw [List.getElem?_set_ne hne]
      exact hget'
    exact .held hlock hkept hsent

theorem Serial.onStream (h : Serial log s) (hget : s.tasks[i]? = some old)
    (hmoved : Moved s i old new next t) : OnStream (log ++ new) t := by
  cases hmoved with
  | start | body _ =>
    rw [List.append_nil]
    exact h.stream.setTask hget rfl
  | lock hfree =>
    rw [List.append_nil]
    refine .held rfl (Tasks.get_set_self hget) ?_
    cases h.stream with
    | free _ hsent =>
      rw [List.append_nil]
      exact hsent
    | held hlock _ _ =>
      rw [hfree] at hlock
      cases hlock
  | encode =>
    obtain ⟨hlock, hsent⟩ := h.of_writing hget
    refine .held hlock (Tasks.get_set_self hget) ?_
    rw [List.append_nil] at hsent
    show s.sent ++ _ = _
    rw [hsent, List.flatMap_append, List.flatMap_singleton]
  | write _ =>
    obtain ⟨hlock, hsent⟩ := h.of_writing hget
    rw [List.append_nil]
    refine .held hlock (Tasks.get_set_self hget) ?_
    rw [List.append_assoc]
    exact hsent
  | release =>
    obtain ⟨-, hsent⟩ := h.of_writing hget
    rw [List.append_nil] at hsent ⊢
    exact .free rfl hsent

theorem Moved.locked (h : Locked s.lock s.tasks) (hget : s.tasks[i]? = some old)
    (hmoved : Moved s i old new next t) : Locked t.lock t.tasks := by
  cases hmoved with
  | start | body _ =>
    refine h.keep fun hholds => ?_
    cases hholds
  | lock hfree =>
    rw [hfree] at h
    exact h.acquire
  | encode | write _ => exact h.keep fun _ => h i _ hget rfl
  | release => exact h.release hget rfl rfl

/-- **Step lemma.**  What a call encodes comes next on the stream. -/
theorem Serial.moved (h : Serial log s) (hget : s.tasks[i]? = some old)
    (hmoved : Moved s i old new next t) : Serial (log ++ new) t where
  header := by
    rw [hmoved.header]
    exact h.header
  sound := by
    rw [hmoved.tasks, hmoved.info]
    exact Tasks.forall_set (hmoved.sound (h.sound i old hget)) fun k other hk _ =>
      h.sound k other hk
  locked := hmoved.locked h.locked hget
  encodable := by
    intro message hm
    rcases List.mem_append.mp hm with hlog | hnew
    · exact h.encodable message hlog
    · have hsound := h.sound i old hget
      cases hmoved with
      | encode =>
        rw [List.mem_singleton.mp hnew]
        exact hsound _ List.mem_cons_self
      | start | body _ | lock _ | write _ | release => cases hnew
  stream := h.onStream hget hmoved

/-- A task that is done with a call starts another one. -/
theorem Serial.restart (h : Serial log s) {call : Call}
    (hget : s.tasks[i]? = some (.finished none))
    (hsound : (Task.start call).Sound s.channel.info.maxPacketSize) :
    Serial log (s.setTask i (.start call)) where
  header := h.header
  sound := Tasks.forall_set hsound fun k other hk _ => h.sound k other hk
  locked := by
    refine Tasks.Locked.keep h.locked fun hholds => ?_
    cases hholds
  encodable := h.encodable
  stream := h.stream.setTask hget rfl

/-- A call that has not returned can go on, or waits for the lock of one that can. -/
theorem Serial.progress (h : Serial log s) {task : Task} (hget : s.tasks[i]? = some task)
    (hleft : task ≠ .finished none) : ∃ j t, step s (.advance j 0) = some t := by
  have hsound := h.sound i task hget
  have hadvance : ∀ j other, s.tasks[j]? = some other →
      (∃ t, s.advance j 0 other = some t) → ∃ j t, step s (.advance j 0) = some t := by
    rintro j other hj ⟨t, ht⟩
    refine ⟨j, t, ?_⟩
    rw [step, hj]
    exact ht
  -- a task that writes can always go on
  have hwriting : ∀ (j : Nat) (call : Call) (rest : List UInt8) (messages : List Message),
      s.tasks[j]? = some (Task.writing call rest messages) →
      ∃ j t, step s (.advance j 0) = some t := by
    intro j call rest messages hj
    refine hadvance j _ hj ?_
    cases rest with
    | cons b rest => exact ⟨_, rfl⟩
    | nil =>
      cases messages with
      | nil => exact ⟨_, rfl⟩
      | cons message messages =>
        have hencodable := h.sound j _ hj message List.mem_cons_self
        rw [State.advance, toVec_of_encodable hencodable]
        exact ⟨_, rfl⟩
  cases task with
  | start call =>
    refine hadvance i _ hget ?_
    rw [State.advance, h.header]
    exact ⟨_, rfl⟩
  | body call => exact hadvance i _ hget ⟨_, rfl⟩
  | wantSend call messages =>
    cases h.stream with
    | free hlock hsent =>
      refine hadvance i _ hget ?_
      rw [State.advance, if_pos hlock]
      exact ⟨_, rfl⟩
    | held hlock hget' hsent => exact hwriting _ _ _ _ hget'
  | writing call rest messages => exact hwriting i call rest messages hget
  | wantHeader call header => exact hsound.elim
  | writeHeader call rest => exact hsound.elim
  | finished err => exact absurd (congrArg Task.finished hsound) hleft
  | panicked panic => exact hsound.elim

end Serial

end Ssh3.Core.Framing
