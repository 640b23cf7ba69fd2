/-
  Ssh3.Go.ParseAddrPort

  `parseAddrPort` of `cmd/ssh3.go` on every string: the ways it can end, against the format
  `localport/ip@remoteport`.

  The function looks at the first two pieces between slashes and at the first two pieces
  between at signs of the second one.  A piece that is missing is a panic, further pieces are
  not looked at, and `Atoi` takes a sign.
-/

import Ssh3.Go.ForwardingTarget

namespace Ssh3.Go.ForwardingTarget

open Proto (ascii)

/-! ## The format -/

/-- A port in decimal digits -/
def IsPort (text : List UInt8) (port : Int) : Prop :=
  ∃ n : Nat, unsignedValue text = some n ∧ n ≤ 65535 ∧ port = n

/-- `localport/ip@remoteport` -/
def IsAddrPort (parsers : IpParsers) (addrPort : List UInt8) (localPort : Int)
    (remoteIP : List UInt8) (remotePort : Int) : Prop :=
  ∃ localText ipText portText, addrPort = localText ++ 47 :: (ipText ++ 64 :: portText) ∧
    IsPort localText localPort ∧ parsers.parseIP ipText = some remoteIP ∧
      IsPort portText remotePort

/-- The parser returns on this text, and accepts it just if it has the form. -/
structure TotalAndExact (parsers : IpParsers) (addrPort : List UInt8) : Prop where
  returns : ∃ result, parseAddrPort parsers addrPort = .ok result
  inRange : ∀ localPort remoteIP remotePort,
    parseAddrPort parsers addrPort = .ok (.ok (localPort, remoteIP, remotePort)) →
      (0 ≤ localPort ∧ localPort ≤ 65535) ∧ (0 ≤ remotePort ∧ remotePort ≤ 65535) ∧
        ∃ text, parsers.parseIP text = some remoteIP
  succeeds_iff : ∀ localPort remoteIP remotePort,
    parseAddrPort parsers addrPort = .ok (.ok (localPort, remoteIP, remotePort)) ↔
      IsAddrPort parsers addrPort localPort remoteIP remotePort

/-- The text is no number, or a number that is too large. -/
def NoPort (text : List UInt8) : Prop := ∀ port, atoi text = some port → 0xFFFF < port

/-- One of the three pieces that are looked at is there and is refused. -/
inductive Refused (parsers : IpParsers) (addrPort : List UInt8) : Prop
  | localPort {localText : List UInt8} {more : List (List UInt8)}
      (slash : addrPort.splitOn 47 = localText :: more) (port : NoPort localText)
  | remoteIP {localText remote ipText : List UInt8} {more ports : List (List UInt8)}
      (slash : addrPort.splitOn 47 = localText :: remote :: more)
      (atSign : remote.splitOn 64 = ipText :: ports) (ip : parsers.parseIP ipText = none)
  | remotePort {localText remote ipText portText : List UInt8} {more others : List (List UInt8)}
      (slash : addrPort.splitOn 47 = localText :: remote :: more)
      (atSign : remote.splitOn 64 = ipText :: portText :: others) (port : NoPort portText)

/-! ## The ways `parseAddrPort` ends -/

theorem parsePort_eq_ok {text : List UInt8} {port : Int} (h : parsePort text = .ok port) :
    atoi text = some port ∧ port ≤ 0xFFFF := by
  rw [parsePort] at h
  cases hatoi : atoi text with
  | none =>
    rw [hatoi] at h
    cases h
  | some value =>
    rw [hatoi] at h
    simp only at h
    split at h
    case isTrue => cases h
    case isFalse hle =>
      cases h
      exact ⟨rfl, by omega⟩

theorem parsePort_eq_error {text : List UInt8} {err : AddrPortError}
    (h : parsePort text = .error err) : NoPort text := by
  intro port hatoi
  by_contra hle
  rw [parsePort_of_atoi hatoi (by omega)] at h
  cases h

theorem NoPort.ne_ok {text : List UInt8} (h : NoPort text) {port : Int} :
    parsePort text ≠ .ok port := by
  intro hok
  obtain ⟨hatoi, hle⟩ := parsePort_eq_ok hok
  have hlt := h port hatoi
  omega

/-- What `parseAddrPort` returns, by the pieces of the string -/
inductive Ends (parsers : IpParsers) (addrPort : List UInt8) :
    Except GoPanic (Except AddrPortError (Int × List UInt8 × Int)) → Prop
  | localPort {localText : List UInt8} {more : List (List UInt8)} {err : AddrPortError}
      (slash : addrPort.splitOn 47 = localText :: more) (port : parsePort localText = .error err) :
      Ends parsers addrPort (.ok (.error err))
  | noSlash {localText : List UInt8} {localPort : Int} (slash : addrPort.splitOn 47 = [localText])
      (port : parsePort localText = .ok localPort) :
      Ends parsers addrPort (.error .indexOutOfRange)
  | remoteIP {localText remote ipText : List UInt8} {more ports : List (List UInt8)}
      (slash : addrPort.splitOn 47 = localText :: remote :: more)
      (atSign : remote.splitOn 64 = ipText :: ports) (ip : parsers.parseIP ipText = none) :
      Ends parsers addrPort (.ok (.error (.parseIP ipText)))
  | noAt {localText remote ipText ip : List UInt8} {more : List (List UInt8)} {localPort : Int}
      (slash : addrPort.splitOn 47 = localText :: remote :: more)
      (port : parsePort localText = .ok localPort) (atSign : remote.splitOn 64 = [ipText])
      (ip : parsers.parseIP ipText = some ip) :
      Ends parsers addrPort (.error .indexOutOfRange)
  | remotePort {localText remote ipText portText : List UInt8} {more others : List (List UInt8)}
      {err : AddrPortError} (slash : addrPort.splitOn 47 = localText :: remote :: more)
      (atSign : remote.splitOn 64 = ipText :: portText :: others)
      (port : parsePort portText = .error err) : Ends parsers addrPort (.ok (.error err))
  | done {localText remote ipText ip portText : List UInt8} {more others : List (List UInt8)}
      {localPort remotePort : Int} (slash : addrPort.splitOn 47 = localText :: remote :: more)
      (localPortOk : parsePort localText = .ok localPort)
      (atSign : remote.splitOn 64 = ipText :: portText :: others)
      (ipOk : parsers.parseIP ipText = some ip) (portOk : parsePort portText = .ok remotePort) :
      Ends parsers addrPort (.ok (.ok (localPort, ip, remotePort)))

theorem ends_parseAddrPort (parsers : IpParsers) (addrPort : List UInt8) :
    Ends parsers addrPort (parseAddrPort parsers addrPort) := by
  obtain ⟨localText, more, hslash⟩ :=
    List.exists_cons_of_ne_nil (List.splitOn_ne_nil 47 addrPort)
  have hlocal : index (localText :: more) 0 = .ok localText := rfl
  simp only [parseAddrPort, hslash, hlocal, bind, Except.bind]
  cases hport : parsePort localText with
  | error err => exact .localPort hslash hport
  | ok localPort =>
    cases more with
    | nil => exact .noSlash hslash hport
    | cons remote more =>
      obtain ⟨ipText, ports, hat⟩ := List.exists_cons_of_ne_nil (List.splitOn_ne_nil 64 remote)
      have hremote : index (localText :: remote :: more) 1 = .ok remote := rfl
      have htext : index (ipText :: ports) 0 = .ok ipText := rfl
      simp only [hremote, hat, htext]
      cases hip : parsers.parseIP ipText with
      | none => exact .remoteIP hslash hat hip
      | some ip =>
        cases ports with
        | nil => exact .noAt hslash hport hat hip
        | cons portText others =>
          have hindex : index (ipText :: portText :: others) 1 = .ok portText := rfl
          simp only [hindex]
          cases hremotePort : parsePort portText with
          | error err => exact .remotePort hslash hat hremotePort
          | ok remotePort => exact .done hslash hport hat hip hremotePort

section

variable {parsers : IpParsers} {addrPort : List UInt8}

theorem refused_of_error {err : AddrPortError}
    (h : parseAddrPort parsers addrPort = .ok (.error err)) : Refused parsers addrPort := by
  have hends := ends_parseAddrPort parsers addrPort
  rw [h] at hends
  cases hends with
  | localPort slash port => exact .localPort slash (parsePort_eq_error port)
  | remoteIP slash atSign ip => exact .remoteIP slash atSign ip
  | remotePort slash atSign port => exact .remotePort slash atSign (parsePort_eq_error port)

theorem Refused.returns_error (h : Refused parsers addrPort) :
    ∃ err, parseAddrPort parsers addrPort = .ok (.error err) := by
  have hends := ends_parseAddrPort parsers addrPort
  generalize parseAddrPort parsers addrPort = result at hends ⊢
  cases hends with
  | localPort slash port => exact ⟨_, rfl⟩
  | remoteIP slash atSign ip => exact ⟨_, rfl⟩
  | remotePort slash atSign port => exact ⟨_, rfl⟩
  -- to end in another way all pieces up to the missing one have to be fine
  | noSlash slash port =>
    cases h with
    | localPort slash' noPort =>
      cases slash'.symm.trans slash
      exact absurd port noPort.ne_ok
    | remoteIP slash' => cases slash'.symm.trans slash
    | remotePort slash' => cases slash'.symm.trans slash
  | noAt slash port atSign ip =>
    cases h with
    | localPort slash' noPort =>
      cases slash'.symm.trans slash
      exact absurd port noPort.ne_ok
    | remoteIP slash' atSign' noIp =>
      cases slash'.symm.trans slash
      cases atSign'.symm.trans atSign
      cases noIp.symm.trans ip
    | remotePort slash' atSign' =>
      cases slash'.symm.trans slash
      cases atSign'.symm.trans atSign
  | done slash localPortOk atSign ipOk portOk =>
    cases h with
    | localPort slash' noPort =>
      cases slash'.symm.trans slash
      exact absurd localPortOk noPort.ne_ok
    | remoteIP slash' atSign' noIp =>
      cases slash'.symm.trans slash
      cases atSign'.symm.trans atSign
      cases noIp.symm.trans ipOk
    | remotePort slash' atSign' noPort =>
      cases slash'.symm.trans slash
      cases atSign'.symm.trans atSign
      exact absurd portOk noPort.ne_ok

/-! ## Strings of the format -/

theorem IsPort.atoi_eq {text : List UInt8} {port : Int} (h : IsPort text port) :
    atoi text = some port := by
  obtain ⟨n, hvalue, hle, rfl⟩ := h
  exact atoi_of_unsignedValue hvalue (by omega)

theorem IsPort.range {text : List UInt8} {port : Int} (h : IsPort text port) :
    0 ≤ port ∧ port ≤ 65535 := by
  obtain ⟨n, -, hle, rfl⟩ := h
  omega

variable {localPort remotePort : Int} {remoteIP : List UInt8}

theorem IsAddrPort.parseAddrPort_eq
    (h : IsAddrPort parsers addrPort localPort remoteIP remotePort) :
    parseAddrPort parsers addrPort = .ok (.ok (localPort, remoteIP, remotePort)) := by
  obtain ⟨localText, ipText, portText, rfl, hlocal, hip, hremote⟩ := h
  exact parseAddrPort_append hlocal.atoi_eq hlocal.range.2 hip hremote.atoi_eq hremote.range.2

theorem IsAddrPort.totalAndExact
    (h : IsAddrPort parsers addrPort localPort remoteIP remotePort) :
    TotalAndExact parsers addrPort := by
  have hresult := h.parseAddrPort_eq
  -- the values of the format are what is returned, so there are no others
  have hsame : ∀ l ip r, parseAddrPort parsers addrPort = .ok (.ok (l, ip, r)) →
      IsAddrPort parsers addrPort l ip r := by
    intro l ip r hother
    cases hresult.symm.trans hother
    exact h
  refine ⟨⟨_, hresult⟩, ?_, fun l ip r => ⟨hsame l ip r, IsAddrPort.parseAddrPort_eq⟩⟩
  intro l ip r hother
  obtain ⟨_, ipText, _, -, hlocal, hip, hremote⟩ := hsame l ip r hother
  exact ⟨hlocal.range, hremote.range, ipText, hip⟩

theorem Refused.totalAndExact (h : Refused parsers addrPort) : TotalAndExact parsers addrPort := by
  obtain ⟨err, hresult⟩ := h.returns_error
  have hnot : ∀ {l ip r}, parseAddrPort parsers addrPort ≠ .ok (.ok (l, ip, r)) := by
    intro l ip r hok
    cases hresult.symm.trans hok
  exact ⟨⟨_, hresult⟩, fun l ip r hok => absurd hok hnot,
    fun l ip r => ⟨fun hok => absurd hok hnot, fun hform => absurd hform.parseAddrPort_eq hnot⟩⟩

end

/-- **Port forwarding arguments.**  The parser returns, and accepts exactly what has the form, on
    the arguments that have it and on those of which a piece is refused; on no others. -/
theorem parseAddrPort_totalAndExact_iff (parsers : IpParsers) (addrPort : List UInt8) :
    TotalAndExact parsers addrPort ↔
      (∃ localPort remoteIP remotePort,
        IsAddrPort parsers addrPort localPort remoteIP remotePort) ∨ Refused parsers addrPort := by
  constructor
  · intro h
    obtain ⟨result, hresult⟩ := h.returns
    cases result with
    | error err => exact .inr (refused_of_error hresult)
    | ok values => exact .inl ⟨_, _, _, (h.succeeds_iff _ _ _).mp hresult⟩
  · rintro (⟨localPort, remoteIP, remotePort, h⟩ | h)
    · exact h.totalAndExact
    · exact h.totalAndExact

/-- Without the address the client panics; a negative port and a second address are taken. -/
theorem addrPort_panics_or_misread :
    parseAddrPort documentationParsers (ascii "8080") = .error .indexOutOfRange ∧
      parseAddrPort documentationParsers (ascii "-1/192.0.2.1@80") =
        .ok (.ok (-1, v4InV6Prefix ++ [192, 0, 2, 1], 80)) ∧
      parseAddrPort documentationParsers (ascii "8080/192.0.2.1@80/192.0.2.2@81") =
        .ok (.ok (8080, v4InV6Prefix ++ [192, 0, 2, 1], 80)) ∧
      ¬TotalAndExact documentationParsers (ascii "8080") ∧
      ¬TotalAndExact documentationParsers (ascii "-1/192.0.2.1@80") := by
  have hpanic : parseAddrPort documentationParsers (ascii "8080") = .error .indexOutOfRange := by
    decide +kernel
  have hnegative : parseAddrPort documentationParsers (ascii "-1/192.0.2.1@80") =
      .ok (.ok (-1, v4InV6Prefix ++ [192, 0, 2, 1], 80)) := by
    decide +kernel
  refine ⟨hpanic, hnegative, by decide +kernel, fun h => ?_, fun h => ?_⟩
  · obtain ⟨result, hresult⟩ := h.returns
    cases hpanic.symm.trans hresult
  · have hrange := (h.inRange _ _ _ hnegative).1.1
    omega

end Ssh3.Go.ForwardingTarget
