/-
  Ssh3.Go.ForwardingTarget

  `parseAddrPort` and the forwarding targets of `ClientMain` in `cmd/ssh3.go`, up to the bytes
  that `OpenUDPForwardingChannel` and `OpenTCPForwardingChannel` send for a target, beside those
  of the Rust client.

  `net.ParseIP` gives every address in 16 bytes, and nobody shortens them: the family, which
  is taken from the length of the address, is always 6.
-/

import Ssh3.Go.Forwarding
import Ssh3.Go.StdLibSpec
import Ssh3.Proto.ChannelHeader

namespace Ssh3.Go.ForwardingTarget

open Proto (ascii IpAddr)

/-! ## `net.IP` -/

/-- The first bytes of an IPv4 address in 16 bytes -/
def v4InV6Prefix : List UInt8 := [0, 0, 0, 0, 0, 0, 0, 0, 0, 0, 0xff, 0xff]

/-- `ip.To4()` -/
def to4 (ip : List UInt8) : Option (List UInt8) :=
  if ip.length = 4 then some ip
  else if ip.length = 16 ∧ ip.take 12 = v4InV6Prefix then some (ip.drop 12)
  else none

/-- `ip.To16()` -/
def to16 (ip : List UInt8) : Option (List UInt8) :=
  if ip.length = 4 then some (v4InV6Prefix ++ ip)
  else if ip.length = 16 then some ip
  else none

/-- A `net.UDPAddr` or `net.TCPAddr` -/
structure NetAddr where
  ip : List UInt8
  port : Int
  deriving DecidableEq, Repr

/-- The parsers of addresses.  An address is made of hexadecimal digits, dots and colons. -/
structure IpParsers where
  /-- `net.ParseIP`; no address is nil -/
  parseIP : List UInt8 → Option (List UInt8)
  /-- `IpAddr::from_str` -/
  fromStr : List UInt8 → Option IpAddr
  slash_not_mem : ∀ text, (parseIP text).isSome = true → 47 ∉ text
  at_not_mem : ∀ text, (parseIP text).isSome = true → 64 ∉ text

/-! ## The command line -/

/-- The errors of `parseAddrPort` -/
inductive AddrPortError where
  /-- "could not convert %s to int: %s" -/
  | convert (text : List UInt8)
  /-- "UDP port too large %d" -/
  | portTooLarge (port : Int)
  /-- "could not parse IP %s" -/
  | parseIP (text : List UInt8)
  deriving DecidableEq, Repr

/-- `array[i]` -/
def index (array : List (List UInt8)) (i : Nat) : Except GoPanic (List UInt8) :=
  match array[i]? with
  | some text => .ok text
  | none => .error .indexOutOfRange

/-- A port with its check, which leaves negative numbers in -/
def parsePort (text : List UInt8) : Except AddrPortError Int :=
  match atoi text with
  | none => .error (.convert text)
  | some port => if port > 0xFFFF then .error (.portTooLarge port) else .ok port

/-- `<local port>/<remote IP>@<remote port>` -/
def parseAddrPort (parsers : IpParsers) (addrPort : List UInt8) :
    Except GoPanic (Except AddrPortError (Int × List UInt8 × Int)) := do
  let array := addrPort.splitOn 47
  match parsePort (← index array 0) with
  | .error err => return .error err
  | .ok localPort =>
    let array := (← index array 1).splitOn 64
    let text ← index array 0
    match parsers.parseIP text with
    | none => return .error (.parseIP text)
    | some remoteIP =>
      match parsePort (← index array 1) with
      | .error err => return .error err
      | .ok remotePort => return .ok (localPort, remoteIP, remotePort)

/-- The local and the remote address of `ClientMain`.  An error of `parseAddrPort` is logged,
    and its nil address is then not recognized, which ends the client. -/
def forwardingAddrs (parsers : IpParsers) (argument : List UInt8) :
    Except GoPanic (Option (NetAddr × NetAddr)) := do
  match ← parseAddrPort parsers argument with
  | .error _ => return none
  | .ok (localPort, remoteIP, remotePort) =>
    -- `To4` decides which loopback address to listen on, and nothing else
    if (to4 remoteIP).isSome then
      return some (⟨v4InV6Prefix ++ [127, 0, 0, 1], localPort⟩, ⟨remoteIP, remotePort⟩)
    else if (to16 remoteIP).isSome then
      return some (⟨List.replicate 15 0 ++ [1], localPort⟩, ⟨remoteIP, remotePort⟩)
    else
      return none

/-- What `OpenUDPForwardingChannel` and `OpenTCPForwardingChannel` append to the header of the
    channel for the target of the command line -/
def targetBytes (parsers : IpParsers) (argument : List UInt8) :
    Except GoPanic (Option (List UInt8)) := do
  match ← forwardingAddrs parsers argument with
  | none => return none
  | some (_, remoteAddr) =>
    return some (← buildForwardingChannelAdditionalBytes remoteAddr.ip
      (UInt16.ofInt remoteAddr.port))

/-! ## Targets that both clients know -/

/-- The 16 bytes of an address -/
def in16 : IpAddr → List UInt8
  | .v4 address => v4InV6Prefix ++ address.val
  | .v6 address => address.val

/-- A target on the command line: the local port, the address as both parsers read it, and the
    remote port. -/
structure Target (parsers : IpParsers) where
  localText : List UInt8
  localPort : Int
  local_atoi : atoi localText = some localPort
  local_le : localPort ≤ 0xFFFF
  ipText : List UInt8
  addr : IpAddr
  fromStr_eq : parsers.fromStr ipText = some addr
  parseIP_eq : parsers.parseIP ipText = some (in16 addr)
  portText : List UInt8
  port : UInt16
  port_atoi : atoi portText = some (port.toNat : Int)

def Target.argument {parsers : IpParsers} (target : Target parsers) : List UInt8 :=
  target.localText ++ 47 :: (target.ipText ++ 64 :: target.portText)

/-- The Go client sends for the target what the Rust client sends. -/
structure NamedIdentically {parsers : IpParsers} (target : Target parsers) : Prop where
  same : ∃ bytes, targetBytes parsers target.argument = .ok (some bytes) ∧
    Proto.buildForwardingAdditionalBytes target.addr target.port = .ok bytes
  ipv4 : ∀ address, target.addr = .v4 address →
    targetBytes parsers target.argument =
      .ok (some (4 :: (address.val ++ Proto.toBeBytes target.port)))

section

variable {parsers : IpParsers} (target : Target parsers)

theorem parsePort_of_atoi {text : List UInt8} {port : Int} (h : atoi text = some port)
    (hle : port ≤ 0xFFFF) : parsePort text = .ok port := by
  rw [parsePort, h]
  exact if_neg (by omega)

/-- A target is taken apart where it was put together. -/
theorem parseAddrPort_append {localText ipText portText remoteIP : List UInt8}
    {localPort remotePort : Int} (hlocal : atoi localText = some localPort)
    (hlocalLe : localPort ≤ 0xFFFF) (hip : parsers.parseIP ipText = some remoteIP)
    (hremote : atoi portText = some remotePort) (hremoteLe : remotePort ≤ 0xFFFF) :
    parseAddrPort parsers (localText ++ 47 :: (ipText ++ 64 :: portText)) =
      .ok (.ok (localPort, remoteIP, remotePort)) := by
  have hsome : (parsers.parseIP ipText).isSome = true := by
    rw [hip]
    rfl
  -- neither separator is in a number or an address
  have hlocalText : 47 ∉ localText := not_mem_of_atoi hlocal (by decide) (by decide)
  have hportText : 47 ∉ portText ∧ 64 ∉ portText :=
    ⟨not_mem_of_atoi hremote (by decide) (by decide),
      not_mem_of_atoi hremote (by decide) (by decide)⟩
  have hremoteText : 47 ∉ ipText ++ 64 :: portText := by
    simp [parsers.slash_not_mem _ hsome, hportText.1]
  have hslash : (localText ++ 47 :: (ipText ++ 64 :: portText)).splitOn 47 =
      [localText, ipText ++ 64 :: portText] := by
    rw [List.splitOn_append_cons_self_of_not_mem hlocalText, List.splitOn_eq_singleton hremoteText]
  have hat : (ipText ++ 64 :: portText).splitOn 64 = [ipText, portText] := by
    rw [List.splitOn_append_cons_self_of_not_mem (parsers.at_not_mem _ hsome),
      List.splitOn_eq_singleton hportText.2]
  -- the local port, the address, the remote port
  rw [parseAddrPort, hslash]
  show (match parsePort localText with | .error _ => _ | .ok _ => _) = _
  rw [parsePort_of_atoi hlocal hlocalLe]
  show ((index ((ipText ++ 64 :: portText).splitOn 64) 0) >>= _) = _
  rw [hat]
  show (match parsers.parseIP ipText with | none => _ | some _ => _) = _
  rw [hip]
  show (match parsePort portText with | .error _ => _ | .ok _ => _) = _
  rw [parsePort_of_atoi hremote hremoteLe]
  rfl

theorem parseAddrPort_argument :
    parseAddrPort parsers target.argument =
      .ok (.ok (target.localPort, in16 target.addr, (target.port.toNat : Int))) := by
  have hle : (target.port.toNat : Int) ≤ 0xFFFF := by
    have := target.port.toNat_lt
    omega
  exact parseAddrPort_append target.local_atoi target.local_le target.parseIP_eq target.port_atoi
    hle

theorem length_in16 (addr : IpAddr) : (in16 addr).length = 16 := by
  cases addr with
  | v4 address => rw [in16, List.length_append, address.property]; rfl
  | v6 address => exact address.property

theorem ofInt_toNat (port : UInt16) : UInt16.ofInt (port.toNat : Int) = port := by
  have hlt := port.toNat_lt
  have hmod : ((port.toNat : Int) % 2 ^ 16).toNat = port.toNat := by omega
  rw [UInt16.ofInt, hmod, UInt16.ofNat_toNat]

/-- The address stays as `net.ParseIP` gave it. -/
theorem forwardingAddrs_argument :
    ∃ localAddr, forwardingAddrs parsers target.argument =
      .ok (some (localAddr, ⟨in16 target.addr, (target.port.toNat : Int)⟩)) := by
  have hlength := length_in16 target.addr
  have hto16 : (to16 (in16 target.addr)).isSome = true := by
    rw [to16, if_neg (by omega), if_pos hlength]
    rfl
  rw [forwardingAddrs, parseAddrPort_argument]
  show ∃ localAddr, (if (to4 (in16 target.addr)).isSome = true then _ else _) = _
  by_cases hto4 : (to4 (in16 target.addr)).isSome = true
  · rw [if_pos hto4]
    exact ⟨_, rfl⟩
  · rw [if_neg hto4, if_pos hto16]
    exact ⟨_, rfl⟩

/-- Go announces the family 6 and 16 bytes for every address. -/
theorem targetBytes_argument :
    targetBytes parsers target.argument =
      .ok (some (6 :: (in16 target.addr ++ Proto.toBeBytes target.port))) := by
  have hlength := length_in16 target.addr
  have hbuild : buildForwardingChannelAdditionalBytes (in16 target.addr) target.port =
      .ok (6 :: (in16 target.addr ++ Proto.toBeBytes target.port)) := by
    rw [buildForwardingChannelAdditionalBytes, if_neg (by omega)]
    rfl
  obtain ⟨localAddr, hremote⟩ := forwardingAddrs_argument target
  rw [targetBytes, hremote]
  show (buildForwardingChannelAdditionalBytes (in16 target.addr) (UInt16.ofInt _) >>= _) = _
  rw [ofInt_toNat, hbuild]
  rfl

/-- **Targets.**  The Go client sends for a target what the Rust client sends if and only if its
    address is an IPv6 address. -/
theorem namedIdentically_iff {parsers : IpParsers} (target : Target parsers) :
    NamedIdentically target ↔ ∃ address, target.addr = .v6 address := by
  have hgo := targetBytes_argument target
  cases haddr : target.addr with
  | v4 address =>
    -- the families differ
    rw [haddr] at hgo
    constructor
    · intro h
      have hipv4 := h.ipv4 address haddr
      rw [hgo] at hipv4
      cases hipv4
    · rintro ⟨_, ⟨⟩⟩
  | v6 address =>
    rw [haddr] at hgo
    refine iff_of_true ⟨⟨_, hgo, ?_⟩, ?_⟩ ⟨address, rfl⟩
    · rw [haddr]
      rfl
    · intro _ hv4
      rw [haddr] at hv4
      cases hv4

/-- Parsers that know one address. -/
def documentationParsers : IpParsers where
  parseIP text :=
    if text = ascii "192.0.2.1" then some (v4InV6Prefix ++ [192, 0, 2, 1]) else none
  fromStr text := if text = ascii "192.0.2.1" then some (.v4 ⟨[192, 0, 2, 1], rfl⟩) else none
  slash_not_mem text h := by
    split at h
    case isTrue heq =>
      rw [heq]
      decide
    case isFalse => cases h
  at_not_mem text h := by
    split at h
    case isTrue heq =>
      rw [heq]
      decide
    case isFalse => cases h

/-- `8080/192.0.2.1@80` -/
def documentationTarget : Target documentationParsers where
  localText := ascii "8080"
  localPort := 8080
  local_atoi := by decide
  local_le := by decide
  ipText := ascii "192.0.2.1"
  addr := .v4 ⟨[192, 0, 2, 1], rfl⟩
  fromStr_eq := by decide
  parseIP_eq := by decide
  portText := ascii "80"
  port := 80
  port_atoi := by decide

theorem ipv4_target_announced_as_ipv6 :
    targetBytes documentationParsers (ascii "8080/192.0.2.1@80") =
        .ok (some [6, 0, 0, 0, 0, 0, 0, 0, 0, 0, 0, 255, 255, 192, 0, 2, 1, 0, 80]) ∧
      Proto.buildForwardingAdditionalBytes documentationTarget.addr documentationTarget.port =
        .ok [4, 192, 0, 2, 1, 0, 80] ∧
      ¬NamedIdentically documentationTarget := by
  have hargument : documentationTarget.argument = ascii "8080/192.0.2.1@80" := by decide
  have hgo : targetBytes documentationParsers (ascii "8080/192.0.2.1@80") =
      .ok (some [6, 0, 0, 0, 0, 0, 0, 0, 0, 0, 0, 255, 255, 192, 0, 2, 1, 0, 80]) := by
    decide +kernel
  refine ⟨hgo, by decide, ?_⟩
  intro h
  have hipv4 := h.ipv4 _ rfl
  rw [hargument, hgo] at hipv4
  cases hipv4

end

end Ssh3.Go.ForwardingTarget
