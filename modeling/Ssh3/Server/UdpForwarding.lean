/-
  Ssh3.Server.UdpForwarding

  `ssh3-server/src/lib.rs`: the `from_socket` task of `handle_udp_forwarding`, with
  `Channel::send_datagram` and `QuinnDatagramSender::send_datagram` under it.

  The task reads a packet into a buffer of the channel's packet size, which cuts off what
  does not fit, and sends it on with `?`.  A datagram over the limit of the connection is an
  error there, so it ends the task: `forwards_fitting_iff` says for which packets that makes
  no difference to what the client gets.
-/

import Ssh3.Core.PacketLimit
import Ssh3.Server.ReadBuffers

namespace Ssh3.Server.UdpForwarding

open Proto Fallible
open StreamCodec (ok_bind)
open Ssh3.Core (Endpoint ChannelError ChannelM ConversationDatagramSender maybeSendHeader
  freshEndpoint)

/-- The errors of the task. -/
inductive ForwardingError where
  | channel (err : ChannelError)
  /-- `SendDatagramError::TooLarge`, an `InvalidData` by the time it gets here -/
  | tooLarge
  deriving DecidableEq, Repr

/-- A call of the forwarding on its channel -/
abbrev ForwardingM (α : Type) := Comp Endpoint ForwardingError Panic α

def onChannel {α : Type} (m : ChannelM α) : ForwardingM α := ExceptT.adapt .channel m

/-- `QuinnDatagramSender::send_datagram` on a connection that is up; `limit` is what a datagram
    may hold. -/
def quinnSendDatagram (limit : Nat) (buf : List UInt8) : ForwardingM Unit :=
  if buf.length ≤ limit then modify fun s => { s with datagrams := s.datagrams ++ [buf] }
  else throw .tooLarge

def sendDatagram (limit : Nat) (datagram : List UInt8) : ForwardingM Unit := do
  onChannel maybeSendHeader
  let s ← get
  match s.channel.datagramSender with
  | none => throw (.channel (.datagramSenderMissing s.channel.info.channelId))
  | some sender => do
    let buf ← orPanic (sender.frame datagram)
    quinnSendDatagram limit buf

/-- The loop of `from_socket` over the packets that arrive; after the last one it waits.
    `recv` keeps of a packet what fits into the buffer. -/
def fromSocket (limit : Nat) : List (List UInt8) → ForwardingM Unit
  | [] => pure ()
  | packet :: packets => do
    let buf := packet.take (readBufferLen (← get).channel.info.maxPacketSize)
    sendDatagram limit buf
    fromSocket limit packets

/-! ## Framed packets -/

/-- What the connection is handed for a packet. -/
def framed (sender : ConversationDatagramSender) (packet : List UInt8) : List UInt8 :=
  varIntBytes sender.controlStreamId ++ varIntBytes sender.channelId ++ packet

def Fits (limit : Nat) (sender : ConversationDatagramSender) (packet : List UInt8) : Prop :=
  (framed sender packet).length ≤ limit

instance (limit : Nat) (sender : ConversationDatagramSender) (packet : List UInt8) :
    Decidable (Fits limit sender packet) := inferInstanceAs (Decidable (_ ≤ _))

/-- An accepted forwarding channel: no header to send, and a sender with stream ids. -/
structure Forwarding (sender : ConversationDatagramSender) (s : Endpoint) : Prop where
  header : s.channel.header = none
  datagramSender : s.channel.datagramSender = some sender
  controlStreamId : sender.controlStreamId ≤ MAX_VARINT
  channelId : sender.channelId ≤ MAX_VARINT

section Loop

variable {limit : Nat} {sender : ConversationDatagramSender} {s : Endpoint}

theorem length_framed (packet : List UInt8) :
    (framed sender packet).length = (framed sender []).length + packet.length := by
  rw [framed, framed, List.length_append, List.append_nil]

theorem call_sendDatagram (limit : Nat) (h : Forwarding sender s) (datagram : List UInt8) :
    call (sendDatagram limit datagram) s =
      if Fits limit sender datagram then
        .ok (.ok (), { s with datagrams := s.datagrams ++ [framed sender datagram] })
      else .ok (.error .tooLarge, s) := by
  have hheader : call (onChannel maybeSendHeader) s = .ok (.ok (), s) := by
    apply call_adapt_eq_ok.mpr
    rw [maybeSendHeader, call_bind_of_ok (call_get s), h.header]
    rfl
  have hframe : sender.frame datagram = .ok (framed sender datagram) := by
    rw [ConversationDatagramSender.frame, appendVarInt_eq h.controlStreamId, ok_bind,
      appendVarInt_eq h.channelId, ok_bind, List.nil_append]
    rfl
  rw [sendDatagram, call_bind_of_ok hheader, call_bind_of_ok (call_get s), h.datagramSender]
  simp only [hframe]
  rw [call_bind_of_ok (call_orPanic_ok _ _), quinnSendDatagram]
  by_cases hfits : Fits limit sender datagram
  · have hlen : (framed sender datagram).length ≤ limit := hfits
    rw [if_pos hfits, if_pos hlen]
    rfl
  · have hlen : ¬(framed sender datagram).length ≤ limit := hfits
    rw [if_neg hfits, if_neg hlen]
    rfl

/-- The packets sent, as they are sent: up to the first that does not fit. -/
def sentPackets (limit bufLen : Nat) (sender : ConversationDatagramSender) :
    List (List UInt8) → List (List UInt8)
  | [] => []
  | packet :: packets =>
    if Fits limit sender (packet.take bufLen) then
      packet.take bufLen :: sentPackets limit bufLen sender packets
    else []

theorem call_fromSocket (limit : Nat) (h : Forwarding sender s) (packets : List (List UInt8)) :
    ∃ result t, call (fromSocket limit packets) s = .ok (result, t) ∧
      t.datagrams = s.datagrams ++
        (sentPackets limit (readBufferLen s.channel.info.maxPacketSize) sender packets).map
          (framed sender) := by
  induction packets generalizing s with
  | nil => exact ⟨.ok (), s, rfl, (List.append_nil _).symm⟩
  | cons packet packets ih =>
    rw [fromSocket, call_bind_of_ok (call_get s), sentPackets]
    have hsend := call_sendDatagram limit h
      (packet.take (readBufferLen s.channel.info.maxPacketSize))
    split_ifs at hsend ⊢ with hfits
    · obtain ⟨result, t, hrest, hdatagrams⟩ := ih (s := { s with
        datagrams := s.datagrams ++ [framed sender
          (packet.take (readBufferLen s.channel.info.maxPacketSize))] })
        ⟨h.header, h.datagramSender, h.controlStreamId, h.channelId⟩
      refine ⟨result, t, ?_, ?_⟩
      · rw [call_bind_of_ok hsend]
        exact hrest
      · rw [hdatagrams, List.map_cons, List.append_assoc, List.singleton_append]
    · -- the error leaves the loop, with what has been sent
      refine ⟨.error .tooLarge, s, ?_, (List.append_nil _).symm⟩
      rw [call_bind_of_error hsend]

end Loop

/-! ## Which packets are forwarded as they should be -/

section Packets

variable {limit bufLen : Nat} {sender : ConversationDatagramSender}
  {packets : List (List UInt8)}

/-- Either every packet fits the connection and the buffer, or the buffer exceeds what fits the
    connection and nothing that fits comes after a packet that does not. -/
def Harmless (limit bufLen : Nat) (sender : ConversationDatagramSender)
    (packets : List (List UInt8)) : Prop :=
  (∀ packet ∈ packets, Fits limit sender packet ∧ packet.length ≤ bufLen) ∨
    (¬Fits limit sender (List.replicate bufLen 0) ∧ ∃ before after, packets = before ++ after ∧
      (∀ packet ∈ before, Fits limit sender packet) ∧ ∀ packet ∈ after, ¬Fits limit sender packet)

theorem Harmless.take (h : Harmless limit bufLen sender packets) (n : Nat) :
    Harmless limit bufLen sender (packets.take n) := by
  rcases h with hall | ⟨hbuf, before, after, rfl, hbefore, hafter⟩
  · exact .inl fun packet hmem => hall packet (List.mem_of_mem_take hmem)
  · refine .inr ⟨hbuf, before.take n, after.take (n - before.length), List.take_append, ?_, ?_⟩
    · exact fun packet hmem => hbefore packet (List.mem_of_mem_take hmem)
    · exact fun packet hmem => hafter packet (List.mem_of_mem_take hmem)

theorem fits_iff (packet : List UInt8) :
    Fits limit sender packet ↔ (framed sender []).length + packet.length ≤ limit := by
  rw [Fits, length_framed]

theorem filter_of_fits {packet : List UInt8} (h : Fits limit sender packet)
    (packets : List (List UInt8)) :
    (packet :: packets).filter (Fits limit sender ·) =
      packet :: packets.filter (Fits limit sender ·) := by
  rw [List.filter_cons, if_pos (decide_eq_true h)]

theorem filter_of_not_fits {packet : List UInt8} (h : ¬Fits limit sender packet)
    (packets : List (List UInt8)) :
    (packet :: packets).filter (Fits limit sender ·) =
      packets.filter (Fits limit sender ·) := by
  rw [List.filter_cons, if_neg (by rw [decide_eq_true_iff]; exact h)]

theorem sentPackets_eq_filter (h : Harmless limit bufLen sender packets) :
    sentPackets limit bufLen sender packets = packets.filter (Fits limit sender ·) := by
  rcases h with hall | ⟨hbuf, before, after, rfl, hbefore, hafter⟩
  · -- nothing is cut off and nothing is refused
    induction packets with
    | nil => rfl
    | cons packet packets ih =>
      obtain ⟨hfits, hlen⟩ := hall packet List.mem_cons_self
      rw [sentPackets, List.take_of_length_le hlen, if_pos hfits,
        ih fun other hother => hall other (List.mem_cons_of_mem _ hother),
        filter_of_fits hfits]
  · rw [fits_iff, List.length_replicate] at hbuf
    have hnone : after.filter (Fits limit sender ·) = [] :=
      List.filter_eq_nil_iff.mpr fun packet hmem hfits =>
        hafter packet hmem (of_decide_eq_true hfits)
    have hstop : sentPackets limit bufLen sender after = [] := by
      -- the first packet behind the last that fits is too large even when cut
      cases after with
      | nil => rfl
      | cons packet after =>
        have hlarge := hafter packet List.mem_cons_self
        rw [fits_iff] at hlarge
        rw [sentPackets, if_neg]
        rw [fits_iff, List.length_take]
        omega
    induction before with
    | nil => rw [List.nil_append, hstop, hnone]
    | cons packet before ih =>
      have hfits := hbefore packet List.mem_cons_self
      have hlen : packet.length ≤ bufLen := by
        rw [fits_iff] at hfits
        omega
      rw [List.cons_append, sentPackets, List.take_of_length_le hlen, if_pos hfits,
        ih fun other hother => hbefore other (List.mem_cons_of_mem _ hother),
        filter_of_fits hfits]

theorem harmless_of_sentPackets
    (h : ∀ n, sentPackets limit bufLen sender (packets.take n) =
      (packets.take n).filter (Fits limit sender ·)) :
    Harmless limit bufLen sender packets := by
  induction packets with
  | nil => exact .inl (List.forall_mem_nil _)
  | cons packet packets ih =>
    have hone := h 1
    rw [List.take_succ_cons, List.take_zero, sentPackets] at hone
    by_cases hfits : Fits limit sender packet
    · -- it is sent, so it must be sent whole
      rw [filter_of_fits hfits] at hone
      have hwhole : packet.take bufLen = packet := by
        split_ifs at hone
        exact (List.cons.inj hone).1
      have hlen : packet.length ≤ bufLen := by
        have hsame := congrArg List.length hwhole
        rw [List.length_take] at hsame
        omega
      have hrest : Harmless limit bufLen sender packets := by
        apply ih
        intro n
        have hnext := h (n + 1)
        rw [List.take_succ_cons, sentPackets, hwhole, if_pos hfits,
          filter_of_fits hfits] at hnext
        exact (List.cons.inj hnext).2
      rcases hrest with hall | ⟨hbuf, before, after, rfl, hbefore, hafter⟩
      · exact .inl (List.forall_mem_cons.mpr ⟨⟨hfits, hlen⟩, hall⟩)
      · exact .inr ⟨hbuf, packet :: before, after, rfl,
          List.forall_mem_cons.mpr ⟨hfits, hbefore⟩, hafter⟩
    · -- nothing may be sent of it, so the loop ends here and nothing behind it may fit
      rw [filter_of_not_fits hfits] at hone
      have hcut : ¬Fits limit sender (packet.take bufLen) := by
        intro hcut
        rw [if_pos hcut] at hone
        cases hone
      have hall := h (packets.length + 1)
      rw [List.take_succ_cons, List.take_length, sentPackets, if_neg hcut,
        filter_of_not_fits hfits] at hall
      refine .inr ⟨?_, [], packet :: packets, rfl, List.forall_mem_nil _,
        List.forall_mem_cons.mpr ⟨hfits, ?_⟩⟩
      · rw [fits_iff, List.length_take] at hcut
        rw [fits_iff, List.length_replicate]
        omega
      · intro other hother hfits
        exact List.filter_eq_nil_iff.mp hall.symm other hother (decide_eq_true hfits)

end Packets

/-- **Dropping what does not fit.**  At every point of a sequence of packets, the datagrams sent
    are exactly the packets that fit the limit of the connection so far, whole and in order, if
    and only if the sequence is harmless: a packet that does not fit ends the task, and one that
    is longer than the read buffer is cut. -/
theorem forwards_fitting_iff {sender : ConversationDatagramSender} {s : Endpoint}
    (h : Forwarding sender s) (limit : Nat) (packets : List (List UInt8)) :
    (∀ n, ∃ result t, call (fromSocket limit (packets.take n)) s = .ok (result, t) ∧
      t.datagrams = s.datagrams ++
        ((packets.take n).filter (Fits limit sender ·)).map (framed sender)) ↔
    Harmless limit (readBufferLen s.channel.info.maxPacketSize) sender packets := by
  have hinj : Function.Injective (framed sender) := fun p q heq => List.append_cancel_left heq
  constructor
  · intro hforwards
    apply harmless_of_sentPackets
    intro n
    obtain ⟨result, t, hcall, hsent⟩ := hforwards n
    obtain ⟨result', t', hcall', hsent'⟩ := call_fromSocket limit h (packets.take n)
    rw [hcall] at hcall'
    cases hcall'
    exact List.map_injective_iff.mpr hinj (List.append_cancel_left (hsent'.symm.trans hsent))
  · intro hharmless n
    obtain ⟨result, t, hcall, hsent⟩ := call_fromSocket limit h (packets.take n)
    rw [sentPackets_eq_filter (hharmless.take n)] at hsent
    exact ⟨result, t, hcall, hsent⟩

/-- A forwarding channel with a buffer of 64 bytes. -/
def forwardingEndpoint : Endpoint :=
  { freshEndpoint 64 with
    channel := { (freshEndpoint 64).channel with datagramSender := some ⟨0, 4⟩ } }

theorem forwarding_forwardingEndpoint : Forwarding ⟨0, 4⟩ forwardingEndpoint where
  header := rfl
  datagramSender := rfl
  controlStreamId := by decide
  channelId := by decide

/-- Two packets that fit. -/
theorem forwards_fitting_iff_two_packets :
    (∀ n, ∃ result t, call (fromSocket 5 ([[1, 2], [3]].take n)) forwardingEndpoint =
        .ok (result, t) ∧
      t.datagrams = forwardingEndpoint.datagrams ++
        (([[1, 2], [3]].take n).filter (Fits 5 ⟨0, 4⟩ ·)).map (framed ⟨0, 4⟩)) ↔
    Harmless 5 (readBufferLen forwardingEndpoint.channel.info.maxPacketSize) ⟨0, 4⟩
      [[1, 2], [3]] :=
  forwards_fitting_iff forwarding_forwardingEndpoint 5 [[1, 2], [3]]

/-- A packet of four bytes does not fit a datagram of five, and nothing is sent after it. -/
theorem packet_after_oversized_is_lost :
    ∃ result t, call (fromSocket 5 [[1, 2, 3, 4], [5]]) forwardingEndpoint = .ok (result, t) ∧
      t.datagrams = [] ∧ Fits 5 ⟨0, 4⟩ [5] :=
  ⟨_, _, rfl, rfl, by decide⟩

end Ssh3.Server.UdpForwarding
