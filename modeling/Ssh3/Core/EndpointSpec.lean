/-
  Ssh3.Core.EndpointSpec

  What no method of a channel changes, whether it succeeds or not: the packet
  size, and that the bytes on the send stream start with the header.

  A header that could only be sent in part is the last thing on its stream, as a
  stream that has failed takes nothing more.
-/

import Ssh3.Core.Endpoint

namespace Ssh3.Core

open Proto Fallible

def Endpoint.bytes (self : Endpoint) : List UInt8 := self.writes.flatten

/-- The next write fails and takes nothing. -/
def Endpoint.Failed (self : Endpoint) : Prop :=
  ∃ err rest, self.outcomes = some (0, err) :: rest

/-- The header is no longer with the channel. -/
structure Ready (limit : UInt64) (header : List UInt8) (s : Endpoint) : Prop where
  limit : s.channel.info.maxPacketSize = limit
  noHeader : s.channel.header = none
  bytes : header <+: s.bytes ∨ (s.Failed ∧ s.bytes <+: header)

def Opened (limit : UInt64) (header : List UInt8) (s : Endpoint) : Prop :=
  (s.channel.info.maxPacketSize = limit ∧ s.channel.header = some header ∧ s.bytes = []) ∨
    Ready limit header s

theorem Opened.limit {limit : UInt64} {header : List UInt8} {s : Endpoint}
    (h : Opened limit header s) : s.channel.info.maxPacketSize = limit := by
  rcases h with ⟨hlimit, -⟩ | hready
  · exact hlimit
  · exact hready.limit

/-- What is on the stream is a beginning of the header and what may follow it. -/
theorem Opened.bytes_prefix {limit : UInt64} {header : List UInt8} {s : Endpoint}
    (h : Opened limit header s) : ∃ more, s.bytes <+: header ++ more := by
  rcases h with ⟨-, -, hnil⟩ | hready
  · exact ⟨[], by rw [hnil]; exact List.nil_prefix⟩
  · rcases hready.bytes with ⟨more, hmore⟩ | ⟨-, hprefix⟩
    · exact ⟨more, [], by rw [List.append_nil, hmore]⟩
    · exact ⟨[], by rw [List.append_nil]; exact hprefix⟩

/-- Nothing of it is about what comes in. -/
theorem Opened.withIncoming {limit : UInt64} {header : List UInt8} {s : Endpoint}
    (h : Opened limit header s) (incoming : List UInt8) :
    Opened limit header { s with incoming } := by
  rcases h with hkept | hready
  · exact .inl hkept
  · exact .inr ⟨hready.limit, hready.noHeader, hready.bytes⟩

section Methods

variable {limit : UInt64} {header : List UInt8}

/-- What a write does to the stream, whatever its outcome. -/
theorem writeAll_cases {buf : List UInt8} {s t : Endpoint} {r : Except ChannelError Unit}
    (h : call (writeAll buf) s = .ok (r, t)) :
    t.channel = s.channel ∧
    ((t.bytes = s.bytes ++ buf ∧ ¬s.Failed) ∨
     (t.Failed ∧ ∃ taken, t.bytes = s.bytes ++ buf.take taken ∧ (s.Failed → taken = 0))) := by
  have hflatten : ∀ last, (s.writes ++ [last]).flatten = s.writes.flatten ++ last := by
    intro last
    rw [List.flatten_append, List.flatten_singleton]
  rw [writeAll, call_bind_of_ok (call_get s)] at h
  -- a stream that fails once fails from then on
  cases houtcomes : s.outcomes with
  | nil =>
    rw [houtcomes] at h
    cases h
    refine ⟨rfl, .inl ⟨hflatten buf, ?_⟩⟩
    rintro ⟨err, rest, hfailed⟩
    cases houtcomes.symm.trans hfailed
  | cons outcome outcomes =>
    rw [houtcomes] at h
    cases outcome with
    | none =>
      cases h
      refine ⟨rfl, .inl ⟨hflatten buf, ?_⟩⟩
      rintro ⟨err, rest, hfailed⟩
      cases houtcomes.symm.trans hfailed
    | some failure =>
      obtain ⟨taken, err⟩ := failure
      cases h
      refine ⟨rfl, .inr ⟨⟨err, outcomes, rfl⟩, taken, hflatten _, ?_⟩⟩
      rintro ⟨err, rest, hfailed⟩
      cases houtcomes.symm.trans hfailed
      rfl

theorem leads_writeAll (buf : List UInt8) :
    Leads (Ready limit header) (writeAll buf) (Ready limit header) := by
  intro s r t hs h
  obtain ⟨hchannel, hbytes⟩ := writeAll_cases h
  refine ⟨?_, ?_, ?_⟩
  · rw [hchannel]
    exact hs.limit
  · rw [hchannel]
    exact hs.noHeader
  · rcases hs.bytes with hprefix | ⟨hfailed, hprefix⟩
    · left
      rcases hbytes with ⟨hsum, -⟩ | ⟨-, taken, hsum, -⟩
      · rw [hsum]
        exact hprefix.trans (List.prefix_append _ _)
      · rw [hsum]
        exact hprefix.trans (List.prefix_append _ _)
    · -- a failed stream takes nothing more
      right
      rcases hbytes with ⟨-, hnot⟩ | ⟨hfailed', taken, hsum, hzero⟩
      · exact absurd hfailed hnot
      · rw [hsum, hzero hfailed, List.take_zero, List.append_nil]
        exact ⟨hfailed', hprefix⟩

theorem leads_maybeSendHeader :
    Leads (Opened limit header) maybeSendHeader (Ready limit header) := by
  refine leads_get_bind fun s r t hs h => ?_
  rcases hs with ⟨hlimit, hheader, hnil⟩ | hready
  · rw [hheader] at h
    -- the header is taken before it is written, so the write sees a channel without one
    obtain ⟨hchannel, hbytes⟩ :=
      writeAll_cases (s := { s with channel := { s.channel with header := none } }) h
    have hempty : Endpoint.bytes { s with channel := { s.channel with header := none } } = [] :=
      hnil
    refine ⟨?_, ?_, ?_⟩
    · rw [hchannel]
      exact hlimit
    · rw [hchannel]
    · rcases hbytes with ⟨hsum, -⟩ | ⟨hfailed, taken, hsum, -⟩
      · left
        rw [hsum, hempty]
        exact List.prefix_rfl
      · right
        rw [hsum, hempty]
        exact ⟨hfailed, List.take_prefix _ _⟩
  · rw [hready.noHeader] at h
    cases h
    exact hready

theorem leads_writeMessages (messages : List Message) (written : Nat) :
    Leads (Ready limit header) (writeMessages messages written) (Ready limit header) := by
  -- one write per message
  induction messages generalizing written with
  | nil => exact leads_pure written
  | cons message messages ih =>
    refine leads_bind (leads_orPanic _) fun encoded => ?_
    exact leads_bind (leads_writeAll encoded) fun _ => ih _

theorem leads_writeData (dataBuf : List UInt8) (dataType : SshDataType) :
    Leads (Opened limit header) (writeData dataBuf dataType) (Ready limit header) := by
  refine leads_bind leads_maybeSendHeader fun _ => ?_
  refine leads_bind leads_get fun s => ?_
  refine leads_bind (leads_orPanic _) fun messages => ?_
  cases messages with
  | error err => exact leads_throw err
  | ok messages => exact leads_writeMessages messages 0

theorem leads_sendMessage (message : Message) :
    Leads (Opened limit header) (sendMessage message) (Ready limit header) := by
  refine leads_bind leads_maybeSendHeader fun _ => ?_
  exact leads_bind (leads_orPanic _) fun encoded => leads_writeAll encoded

theorem leads_confirmChannel (maxPacketSize : UInt64) :
    Leads (Opened limit header) (confirmChannel maxPacketSize) (Ready limit header) := by
  refine leads_bind (leads_sendMessage _) fun _ => leads_modify fun s hs => ?_
  exact ⟨hs.limit, hs.noHeader, hs.bytes⟩

theorem leads_sendDatagram (datagram : List UInt8) :
    Leads (Opened limit header) (sendDatagram datagram) (Ready limit header) := by
  refine leads_bind leads_maybeSendHeader fun _ => leads_get_bind fun s r t hs h => ?_
  cases hsender : s.channel.datagramSender with
  | none =>
    rw [hsender] at h
    cases h
    exact hs
  | some sender =>
    rw [hsender] at h
    cases hframe : sender.frame datagram with
    | error panic =>
      simp only [hframe] at h
      cases h
    | ok buf =>
      simp only [hframe] at h
      cases h
      exact ⟨hs.limit, hs.noHeader, hs.bytes⟩

/-! ### Receiving -/

theorem leads_recvMessage :
    Leads (Opened limit header) recvMessage (Opened limit header) := by
  refine leads_get_bind fun s r t hs h => ?_
  cases hparse : (parseMessage (channelSource s.ending)).run s.incoming with
  | error err =>
    rw [hparse] at h
    -- the end of the stream leaves what has come in as it is
    cases err with
    | io err =>
      cases h
      exact hs
    | proto _ | openFailure _ _ | nonConfirmed _ | datagramSenderMissing _
    | maxPacketSizeTooSmall _ _ =>
      cases h
      exact hs.withIncoming []
  | ok result =>
    rw [hparse] at h
    cases h
    exact hs.withIncoming result.2

theorem leads_noteConfirmation :
    Leads (Opened limit header) noteConfirmation (Opened limit header) := by
  refine leads_modify fun s hs => ?_
  rcases hs with hkept | hready
  · exact .inl hkept
  · exact .inr ⟨hready.limit, hready.noHeader, hready.bytes⟩

theorem leads_waitForConfirmation :
    Leads (Opened limit header) waitForConfirmation (Opened limit header) := by
  refine leads_bind leads_get fun s => ?_
  split
  · exact leads_pure ()
  · refine leads_bind leads_recvMessage fun message => ?_
    cases message with
    | channelOpenConfirmation message => exact leads_noteConfirmation
    | channelOpenFailure message => exact leads_throw _
    | channelRequest message => exact leads_throw _
    | data message => exact leads_throw _

theorem leads_nextMessageWithin (n : Nat) :
    Leads (Opened limit header) (nextMessageWithin n) (Opened limit header) := by
  induction n with
  | zero => exact leads_bind leads_get fun s => leads_throw _
  | succ n ih =>
    -- requests and data are returned, or refused on a channel that is not confirmed
    have hother : ∀ other, Leads (Opened limit header)
        (do if (← get).channel.confirmSent then return other else throw (.nonConfirmed other) :
          ChannelM Message) (Opened limit header) := by
      intro other
      refine leads_bind leads_get fun s => ?_
      split
      · exact leads_pure other
      · exact leads_throw _
    refine leads_bind leads_recvMessage fun message => ?_
    cases message with
    | channelOpenConfirmation message => exact leads_bind leads_noteConfirmation fun _ => ih
    | channelOpenFailure message => exact leads_throw _
    | channelRequest message => exact hother _
    | data message => exact hother _

theorem leads_nextMessage :
    Leads (Opened limit header) nextMessage (Opened limit header) :=
  leads_bind leads_get fun _ => leads_nextMessageWithin _

end Methods

end Ssh3.Core
