/-
  Ssh3.Interop.Datagrams

  The loops in Go that hand the datagrams of a connection to their channels, next to those in
  Rust.

  On both sides each datagram comes with the conversations as they stand when it is handled, the
  channels have room for what they are given, and the conversations go on.
-/

import Ssh3.Go.Datagrams

namespace Ssh3.Interop

open Fallible Ssh3.Core Go ErrorLoop
open H3 (Lookup route Carries payloadFor payloads NoneAfterEnding serverLookup clientLookup)

/-- A datagram is handled alike in both languages. -/
theorem call_handleDatagram (lookup : Lookup) (datagram : List UInt8) :
    (∃ delivery rest, route lookup datagram = .ok delivery ∧
      call (handleDatagram lookup) datagram = .ok (.ok delivery, rest)) ∨
    ∃ err err' rest, route lookup datagram = .error err ∧
      call (handleDatagram lookup) datagram = .ok (.error err', rest) := by
  have hsame := sameLanguage_readVarInt .eof (.io .unexpectedEof) (id : Proto.Error → _)
  rcases hread : Proto.readVarInt.run datagram with err | ⟨v, rest⟩
  · obtain ⟨err', left, hcall⟩ := hsame.of_error hread
    exact .inr ⟨_, err', left, H3.route_of_control_error hread, call_bind_of_error hcall⟩
  have hid := hsame.of_ok hread
  cases hfind : lookup.find v with
  | none =>
    refine .inl ⟨none, rest, H3.route_of_find_none hread hfind, ?_⟩
    rw [handleDatagram, call_bind_of_ok hid, hfind]
    rfl
  | some conversation =>
    rcases hrest : Proto.readVarInt.run rest with err | ⟨c, payload⟩
    · obtain ⟨err', left, hcall⟩ := hsame.of_error hrest
      refine .inr ⟨_, err', left, H3.route_of_channel_error hread hfind hrest, ?_⟩
      rw [handleDatagram, call_bind_of_ok hid, hfind]
      exact call_bind_of_error (call_bind_of_error hcall)
    · refine .inl ⟨_, payload, H3.route_of_channel hread hfind hrest, ?_⟩
      have hadd := call_addDatagram (hsame.of_ok hrest) conversation
      rw [lookup.controlStreamId_of_find hfind] at hadd
      rw [handleDatagram, call_bind_of_ok hid, hfind]
      refine (call_bind_of_ok hadd).trans ?_
      by_cases hmem : c ∈ conversation.channels
      · rw [if_pos hmem, if_pos hmem]
        rfl
      · rw [if_neg hmem, if_neg hmem]
        rfl

section

variable {κ : Type} (lookupOf : κ → Lookup)

theorem filterMap_receiveDatagrams (v c : UInt64) (received : List (κ × List UInt8)) :
    (receiveDatagrams lookupOf received).filterMap (payloadFor v c) =
      received.filterMap
        (yield (fun item => route (lookupOf item.1) item.2) (payloadFor v c)) := by
  induction received with
  | nil => rfl
  | cons item received ih =>
    rw [List.filterMap_cons, ← ih, yield]
    obtain ⟨delivery, rest, hroute, hcall⟩ | ⟨err, err', rest, hroute, hcall⟩ :=
      call_handleDatagram (lookupOf item.1) item.2
    · simp only [receiveDatagrams, hcall, hroute, List.filterMap_cons]
    · simp only [receiveDatagrams, hcall, hroute]
      rfl

theorem receiveClientDatagrams_eq (ending : H3.DatagramDispatchError)
    (received : List (κ × List UInt8)) :
    receiveClientDatagrams lookupOf received =
      (run (fun item => route (lookupOf item.1) item.2) ending received).1 := by
  induction received with
  | nil => rfl
  | cons item received ih =>
    obtain ⟨delivery, rest, hroute, hcall⟩ | ⟨err, err', rest, hroute, hcall⟩ :=
      call_handleDatagram (lookupOf item.1) item.2
    · simp only [receiveClientDatagrams, run, hcall, hroute, ih]
    · simp only [receiveClientDatagrams, run, hcall, hroute]

end

/-- **Datagrams in both languages.**  Given the same datagrams, a channel gets from the server in
    Go every payload that is for it and is handled while it is registered, in order, whatever else
    is received.  From the server in Rust it gets the same if and only if none of these datagrams
    comes after one that ends that loop.  The clients hand on the same as each other. -/
theorem datagrams_interoperate (v c : UInt64) (ending : Quinn.ConnectionError) :
    (∀ received : List (Quinn.IncomingChannelRouter × List UInt8),
      let delivered := (receiveDatagrams serverLookup received).filterMap (payloadFor v c)
      Picks (fun item payload => Carries (serverLookup item.1) v c payload item.2) received
          delivered ∧
        (payloads v c (H3.routeDatagrams received ending) = delivered ↔
          NoneAfterEnding serverLookup v c received)) ∧
    ∀ received : List (Conversation × List UInt8),
      receiveClientDatagrams clientLookup received =
        (H3.dispatchDatagramsForever received ending).1 := by
  refine ⟨fun received => ?_, fun received => ?_⟩
  · intro delivered
    have hdelivered := filterMap_receiveDatagrams serverLookup v c received
    have hcarries : ∀ (item : Quinn.IncomingChannelRouter × List UInt8) payload,
        yield (fun item => route (serverLookup item.1) item.2) (payloadFor v c) item =
            some payload ↔ Carries (serverLookup item.1) v c payload item.2 :=
      fun _ _ => H3.yield_route_eq_some
    refine ⟨(picks_iff_eq_filterMap hcarries _ _).mpr hdelivered, ?_⟩
    rw [show delivered = _ from hdelivered]
    unfold payloads H3.routeDatagrams
    simp only [H3.routeRegisteredDatagram_eq_route]
    rw [run_filterMap_eq_iff]
    have hends : ∀ item : Quinn.IncomingChannelRouter × List UInt8,
        Fatal (fun item => route (serverLookup item.1) item.2) item ↔
          H3.EndsLoop (serverLookup item.1) item.2 := fun _ => H3.fatal_route_iff
    unfold Unaffected NoneAfterEnding
    simp only [hends, Option.eq_none_iff_forall_ne_some, ne_eq, hcarries]
  · unfold H3.dispatchDatagramsForever
    simp only [H3.dispatchDatagram_eq_route]
    exact receiveClientDatagrams_eq clientLookup _ received

end Ssh3.Interop
