/-
  Ssh3.Go.MessageLanguage

  Which byte strings the Go decoder and the Rust decoder accept as a message.

  Both read the same fields in the same order, so the format is written down once, as
  the list of fields of each message and request type (`Fields`, `layout`).  The two
  decoders part at two places only: Go takes every byte but 0 for true where Rust
  refuses all bytes but 0 and 1, and Go has no parser for "forward-port".

    * `Tracks form R m r` — the Go parser `m` accepts exactly the byte strings of the
      form, and the Rust parser `r` those of them whose booleans are 0 or 1, both with
      the same value and the same remaining input.
-/

import Ssh3.Go.MessageSpec
import Ssh3.Proto.ChannelHeader

namespace Ssh3.Go

open Fallible StreamCodec VarInt
open Proto (ascii Parser IsSshBytes SSH_MSG_CHANNEL_REQUEST SSH_MSG_CHANNEL_OPEN_CONFIRMATION
  SSH_MSG_CHANNEL_OPEN_FAILURE SSH_MSG_CHANNEL_DATA SSH_MSG_CHANNEL_EXTENDED_DATA
  SSH_EXTENDED_DATA_NONE)

/-! ## The same message in both languages -/

/-- The address is written with the number of bytes of its family. -/
def ForwardingRequest.ofProto (request : Proto.ForwardingRequest) : ForwardingRequest where
  protocol := request.protocol.asU64
  addressFamily := (Proto.ForwardingAddressFamily.fromIp request.ipAddress).asU64
  ipAddress := request.ipAddress.octets
  port := request.port

def ChannelRequest.ofProto : Proto.ChannelRequest → ChannelRequest
  | .pty request => .pty request
  | .x11 request => .x11 request
  | .shell => .shell
  | .exec request => .exec request
  | .subsystem request => .subsystem request
  | .windowChange request => .windowChange request
  | .signal request => .signal request
  | .exitStatus request => .exitStatus request
  | .exitSignal request => .exitSignal request
  | .forwardPort request => .forwarding (.ofProto request)

/-- The Go message that denotes the same as a Rust message. -/
def Message.ofProto : Proto.Message → Message
  | .channelRequest message =>
    .channelRequest { wantReply := message.wantReply,
                      channelRequest := some (.ofProto message.request) }
  | .channelOpenConfirmation message => .channelOpenConfirmation message
  | .channelOpenFailure message => .channelOpenFailure message
  | .data message => .data message

/-- A request of the one type that Go can write and cannot read. -/
def IsForwardPort : Proto.Message → Prop
  | .channelRequest message => message.request.requestType = ascii "forward-port"
  | _ => False

instance : DecidablePred IsForwardPort
  | .channelRequest message =>
    inferInstanceAs (Decidable (message.request.requestType = ascii "forward-port"))
  | .channelOpenConfirmation _ => inferInstanceAs (Decidable False)
  | .channelOpenFailure _ => inferInstanceAs (Decidable False)
  | .data _ => inferInstanceAs (Decidable False)

/-! ## The format -/

/-- The kinds of fields -/
inductive Field where
  | number
  | string
  | boolean

/-- `pre` consists of these fields, numbers in any varint width and booleans of any value;
    `flags` are its booleans. -/
def Fields : List Field → List UInt8 → List UInt8 → Prop
  | [], pre, flags => pre = [] ∧ flags = []
  | .number :: fields, pre, flags =>
    ∃ (value : UInt64) (p q : List UInt8), pre = p ++ q ∧ IsVarInt p value.toNat ∧
      Fields fields q flags
  | .string :: fields, pre, flags =>
    ∃ bytes p q : List UInt8, pre = p ++ q ∧ IsSshBytes p bytes ∧ Fields fields q flags
  | .boolean :: fields, pre, flags =>
    ∃ (flag : UInt8) (q more : List UInt8), pre = flag :: q ∧ flags = flag :: more ∧
      Fields fields q more

/-- The fields of a request of each type that both languages read. -/
def layout (requestType : List UInt8) : Option (List Field) :=
  if requestType = ascii "pty-req" then
    some [.string, .number, .number, .number, .number, .string]
  else if requestType = ascii "x11-req" then some [.boolean, .string, .string, .number]
  else if requestType = ascii "shell" then some []
  else if requestType = ascii "exec" then some [.string]
  else if requestType = ascii "subsystem" then some [.string]
  else if requestType = ascii "window-change" then some [.number, .number, .number, .number]
  else if requestType = ascii "signal" then some [.string]
  else if requestType = ascii "exit-status" then some [.number]
  else if requestType = ascii "exit-signal" then some [.string, .boolean, .string, .string]
  else none

/-- What stands behind the type of a request: `want_reply` and the fields of the type. -/
def RequestBody (requestType pre flags : List UInt8) : Prop :=
  ∃ fields, layout requestType = some fields ∧ Fields (.boolean :: fields) pre flags

/-- What stands behind the message type. -/
def Payload (kind : UInt64) (pre flags : List UInt8) : Prop :=
  if kind = SSH_MSG_CHANNEL_REQUEST then
    ∃ requestType p q : List UInt8, pre = p ++ q ∧ IsSshBytes p requestType ∧
      RequestBody requestType q flags
  else if kind = SSH_MSG_CHANNEL_OPEN_CONFIRMATION then Fields [.number] pre flags
  else if kind = SSH_MSG_CHANNEL_OPEN_FAILURE then Fields [.number, .string, .string] pre flags
  else if kind = SSH_MSG_CHANNEL_DATA then Fields [.string] pre flags
  else if kind = SSH_MSG_CHANNEL_EXTENDED_DATA then Fields [.number, .string] pre flags
  else False

/-- `pre` is a message of a type that both languages read, up to the values of its
    booleans `flags`. -/
def MessageBytes (pre flags : List UInt8) : Prop :=
  ∃ (kind : UInt64) (p q : List UInt8), pre = p ++ q ∧ IsVarInt p kind.toNat ∧ Payload kind q flags

/-- Every boolean is 0 or 1. -/
def Strict (flags : List UInt8) : Prop := ∀ flag ∈ flags, flag ≤ 1

/-! ## Two parsers of one format -/

/-- How the results of a Go parser stand for values of a Rust parser. -/
structure Results (α γ : Type) where
  /-- The Go result for a value -/
  view : α → γ
  /-- The error returned with the result is nil -/
  accepted : γ → Prop
  /-- Go has a parser for the value -/
  shared : α → Prop

/-- A parser whose value is used by the one that calls it. -/
def Results.plain {α : Type} : Results α α := ⟨id, fun _ => True, fun _ => True⟩

/-- A parser that may return an error next to its value. -/
def Results.nilErr {α γ : Type} (view : α → γ) (shared : α → Prop) :
    Results α (γ × Option GoError) :=
  ⟨fun a => (view a, none), fun c => c.2 = none, shared⟩

/-- A parser in Go and one in Rust read the same inputs of this form alike. -/
structure Tracks {α γ : Type} (form : List UInt8 → List UInt8 → Prop) (R : Results α γ)
    (m : GoReader γ) (r : Parser α) : Prop where
  complete : ∀ {pre flags : List UInt8}, form pre flags → ∃ a, Accepts m pre (R.view a) ∧
    (Strict flags → Reads r pre a) ∧
    (¬Strict flags → ∀ rest, ∃ err, r.run (pre ++ rest) = .error err)
  sound : ∀ {input rest : List UInt8} {c : γ}, call m input = .ok (.ok c, rest) →
    R.accepted c → ∃ pre flags, input = pre ++ rest ∧ form pre flags
  soundReader : ∀ {input rest : List UInt8} {a : α}, r.run input = .ok (a, rest) →
    R.shared a → ∃ pre flags, input = pre ++ rest ∧ form pre flags

/-- One field: both parsers accept the byte strings with a value, and return the value. -/
structure Keyed {α : Type} (key : α → List UInt8 → Prop) (m : GoReader α) (r : Parser α) :
    Prop where
  accepts : ∀ {a : α} {pre : List UInt8}, key a pre → Accepts m pre a
  reads : ∀ {a : α} {pre : List UInt8}, key a pre → Reads r pre a
  sound : ∀ {input rest : List UInt8} {a : α}, call m input = .ok (.ok a, rest) →
    ∃ pre, input = pre ++ rest ∧ key a pre
  soundReader : ∀ {input rest : List UInt8} {a : α}, r.run input = .ok (a, rest) →
    ∃ pre, input = pre ++ rest ∧ key a pre

section Fields

variable (ending : GoError)

theorem keyed_number :
    Keyed (fun (v : UInt64) pre => IsVarInt pre v.toNat) (readVarInt ending) Proto.readVarInt where
  accepts := accepts_readVarInt ending
  reads := Proto.reads_readVarIntFrom _ _
  sound := readVarInt_sound ending
  soundReader := Proto.readVarIntFrom_sound _ _

/-- A string, whatever its errors are turned into. -/
theorem keyed_string {m : GoReader (List UInt8)} (h : SameLanguage m Proto.readSshBytes) :
    Keyed (fun s pre => IsSshBytes pre s) m Proto.readSshBytes where
  accepts hkey := h.accepts (Proto.reads_readSshBytesFrom _ _ hkey)
  reads := Proto.reads_readSshBytesFrom _ _
  sound hcall := Proto.readSshBytesFrom_sound _ _ (h.reader_of_call hcall)
  soundReader := Proto.readSshBytesFrom_sound _ _

theorem sameLanguage_string : SameLanguage (parseSSHString ending) Proto.readSshBytes :=
  sameLanguage_parseSSHString ending _ _

end Fields

section Tracks

variable {α β γ δ : Type} {form : List UInt8 → List UInt8 → Prop}

theorem tracks_pure (R : Results α γ) (a : α) :
    Tracks (Fields []) R (pure (R.view a)) (pure a) where
  complete := by
    rintro pre flags ⟨rfl, rfl⟩
    refine ⟨a, accepts_pure _, fun _ => reads_pure a, fun hnot => absurd ?_ hnot⟩
    intro flag hflag
    cases hflag
  sound := by
    intro input rest c hcall _
    cases hcall
    exact ⟨[], [], rfl, rfl, rfl⟩
  soundReader := by
    intro input rest b hrun _
    obtain ⟨-, rfl⟩ := run_pure_eq_ok.mp hrun
    exact ⟨[], [], rfl, rfl, rfl⟩

variable {key : α → List UInt8 → Prop} {m : GoReader α} {r : Parser α} {R : Results α γ}
  {flag : UInt8}

/-- A field in front of a form that may depend on its value. -/
theorem tracks_bind
    {forms : α → List UInt8 → List UInt8 → Prop} {R : Results β γ} {k : α → GoReader γ}
    {l : α → Parser β} (h : Keyed key m r) (hk : ∀ a, Tracks (forms a) R (k a) (l a)) :
    Tracks (fun pre flags => ∃ a p q, pre = p ++ q ∧ key a p ∧ forms a q flags) R (m >>= k)
      (r >>= l) where
  complete := by
    rintro pre flags ⟨a, p, q, rfl, hkey, hform⟩
    obtain ⟨b, haccepts, hstrict, hloose⟩ := (hk a).complete hform
    refine ⟨b, accepts_bind (h.accepts hkey) haccepts, ?_, ?_⟩
    · exact fun hflags => reads_bind (h.reads hkey) (hstrict hflags)
    · intro hflags rest
      obtain ⟨err, herr⟩ := hloose hflags rest
      refine ⟨err, ?_⟩
      rw [List.append_assoc, run_bind_of_ok (h.reads hkey (q ++ rest)), herr]
  sound := by
    intro input rest c hcall hc
    obtain ⟨a, mid, hm, hnext⟩ := call_bind_eq_ok.mp hcall
    obtain ⟨p, rfl, hkey⟩ := h.sound hm
    obtain ⟨q, flags, rfl, hform⟩ := (hk a).sound hnext hc
    exact ⟨p ++ q, flags, (List.append_assoc ..).symm, a, p, q, rfl, hkey, hform⟩
  soundReader := by
    intro input rest b hrun hb
    obtain ⟨a, mid, hr, hnext⟩ := run_bind_eq_ok.mp hrun
    obtain ⟨p, rfl, hkey⟩ := h.soundReader hr
    obtain ⟨q, flags, rfl, hform⟩ := (hk a).soundReader hnext hb
    exact ⟨p ++ q, flags, (List.append_assoc ..).symm, a, p, q, rfl, hkey, hform⟩

/-- Mapping the result of the Go parser. -/
theorem Tracks.mapGo {S : Results α δ} {m : GoReader γ}
    (h : Tracks form R m r) (g : γ → δ) (hview : ∀ a, g (R.view a) = S.view a)
    (haccepted : ∀ c, S.accepted (g c) → R.accepted c)
    (hshared : ∀ a, S.shared a → R.shared a) :
    Tracks form S (m >>= fun c => pure (g c)) r where
  complete := by
    intro pre flags hform
    obtain ⟨a, haccepts, hreader⟩ := h.complete hform
    exact ⟨a, hview a ▸ accepts_bind_pure haccepts, hreader⟩
  sound := by
    intro input rest c hcall hc
    obtain ⟨c', mid, hm, hpure⟩ := call_bind_eq_ok.mp hcall
    cases hpure
    exact h.sound hm (haccepted c' hc)
  soundReader hrun ha := h.soundReader hrun (hshared _ ha)

/-- Mapping the results of both parsers. -/
theorem Tracks.map {S : Results β δ} {m : GoReader γ}
    (h : Tracks form R m r) (g : γ → δ) (f : α → β) (hview : ∀ a, g (R.view a) = S.view (f a))
    (haccepted : ∀ c, S.accepted (g c) → R.accepted c)
    (hshared : ∀ a, S.shared (f a) → R.shared a) :
    Tracks form S (m >>= fun c => pure (g c)) (r >>= fun a => pure (f a)) := by
  have hgo : Tracks form ⟨fun a => S.view (f a), S.accepted, fun a => S.shared (f a)⟩
      (m >>= fun c => pure (g c)) r := h.mapGo g hview haccepted hshared
  refine ⟨?_, hgo.sound, ?_⟩
  · intro pre flags hform
    obtain ⟨a, haccepts, hstrict, hloose⟩ := hgo.complete hform
    refine ⟨f a, haccepts, fun hflags => reads_bind_pure (hstrict hflags), ?_⟩
    intro hflags rest
    obtain ⟨err, herr⟩ := hloose hflags rest
    refine ⟨err, ?_⟩
    rw [StateT.run_bind, herr]
    rfl
  · intro input rest b hrun hb
    obtain ⟨a, mid, hr, hpure⟩ := run_bind_eq_ok.mp hrun
    obtain ⟨rfl, rfl⟩ := run_pure_eq_ok.mp hpure
    exact hgo.soundReader hr hb

/-- Handling errors without accepting anything more. -/
theorem Tracks.tryCatch {m : GoReader γ} (h : Tracks form R m r) {handle : GoError → GoReader γ}
    (hhandle : ∀ err input c rest, call (handle err) input = .ok (.ok c, rest) → ¬R.accepted c) :
    Tracks form R (tryCatch m handle) r where
  complete := by
    intro pre flags hform
    obtain ⟨a, haccepts, hreader⟩ := h.complete hform
    exact ⟨a, accepts_tryCatch haccepts, hreader⟩
  sound := by
    intro input rest c hcall hc
    rw [call_tryCatch] at hcall
    rcases hm : call m input with p | ⟨err | b, mid⟩
    · rw [hm] at hcall
      cases hcall
    · rw [hm] at hcall
      exact absurd hc (hhandle err mid c rest hcall)
    · rw [hm] at hcall
      cases hcall
      exact h.sound hm hc
  soundReader := h.soundReader

theorem tracks_field (h : Keyed key m r) :
    Tracks (fun pre flags => ∃ a p q, pre = p ++ q ∧ key a p ∧ Fields [] q flags)
      Results.plain m r where
  complete := by
    rintro pre flags ⟨a, p, q, rfl, hkey, rfl, rfl⟩
    rw [List.append_nil]
    refine ⟨a, h.accepts hkey, fun _ => h.reads hkey, fun hnot => absurd ?_ hnot⟩
    intro flag hflag
    cases hflag
  sound := by
    intro input rest a hcall _
    obtain ⟨p, rfl, hkey⟩ := h.sound hcall
    exact ⟨p, [], rfl, a, p, [], (List.append_nil p).symm, hkey, rfl, rfl⟩
  soundReader := by
    intro input rest a hrun _
    obtain ⟨p, rfl, hkey⟩ := h.soundReader hrun
    exact ⟨p, [], rfl, a, p, [], (List.append_nil p).symm, hkey, rfl, rfl⟩

/-- A result that comes with `io.EOF` is not accepted, and all other errors are passed on. -/
theorem not_accepted_of_handle {view : α → γ} {shared : α → Prop} (zero : γ)
    (wrap : GoError → GoError) (err : GoError) (input : List UInt8) (c : γ × Option GoError)
    (rest : List UInt8)
    (h : call (if err = .eof then return (zero, some err) else throw (wrap err) : GoReader _)
      input = .ok (.ok c, rest)) : ¬(Results.nilErr view shared).accepted c := by
  split_ifs at h
  · cases h
    exact nofun
  · cases h

/-- The last field of a record.  Its `io.EOF` is returned next to the record. -/
theorem tracks_last (h : Keyed key m r) (zero : α) (wrap : GoError → GoError) :
    Tracks (fun pre flags => ∃ a p q, pre = p ++ q ∧ key a p ∧ Fields [] q flags)
      (Results.nilErr id fun _ => True) (unlessEof zero wrap m) r :=
  ((tracks_field h).mapGo (fun a => (a, none)) (fun _ => rfl) (fun _ _ => trivial)
    (fun _ _ => trivial)).tryCatch (not_accepted_of_handle zero wrap)

theorem strict_cons {flags : List UInt8} : Strict (flag :: flags) ↔ flag ≤ 1 ∧ Strict flags :=
  List.forall_mem_cons

/-- The two bytes that Rust reads as a boolean. -/
theorem readBool_of_le (h : flag ≤ 1) : Reads Proto.readBool [flag] (flag != 0) := by
  have hnat : flag.toNat ≤ 1 := UInt8.le_iff_toNat_le.mp h
  have hflag : flag = 0 ∨ flag = 1 := by
    rw [← UInt8.toNat_inj, ← UInt8.toNat_inj]
    show flag.toNat = 0 ∨ flag.toNat = 1
    omega
  rcases hflag with rfl | rfl
  · exact Proto.reads_readBool false
  · exact Proto.reads_readBool true

theorem readBool_of_not_le (h : ¬flag ≤ 1) (rest : List UInt8) :
    Proto.readBool.run (flag :: rest) = .error (.invalidBool flag) := by
  unfold Proto.readBool Proto.readBoolFrom
  have hbyte := Proto.reads_readByteFrom (Proto.Error.io .unexpectedEof) id flag rest
  rw [List.singleton_append] at hbyte
  rw [Proto.cursorSource, run_bind_of_ok hbyte]
  split
  · exact absurd (by decide) h
  · exact absurd (by decide) h
  · rfl

theorem readBool_sound {input rest : List UInt8} {value : Bool}
    (h : Proto.readBool.run input = .ok (value, rest)) :
    ∃ flag, input = flag :: rest ∧ flag ≤ 1 := by
  obtain ⟨flag, mid, hbyte, hmatch⟩ := run_bind_eq_ok.mp h
  rw [Proto.cursorSource, Proto.readByteFrom_eq_ok] at hbyte
  subst hbyte
  split at hmatch
  · exact ⟨0, by rw [(run_pure_eq_ok.mp hmatch).2], by decide⟩
  · exact ⟨1, by rw [(run_pure_eq_ok.mp hmatch).2], by decide⟩
  · cases hmatch

/-- A boolean: Rust refuses what is neither 0 nor 1. -/
theorem tracks_boolean (ending : GoError) {fields : List Field} {R : Results β γ}
    {k : Bool → GoReader γ} {l : Bool → Parser β}
    (hk : ∀ value, Tracks (Fields fields) R (k value) (l value)) :
    Tracks (Fields (.boolean :: fields)) R (binaryReadBool ending >>= k)
      (Proto.readBool >>= l) where
  complete := by
    rintro pre flags ⟨flag, q, more, rfl, rfl, hq⟩
    obtain ⟨b, haccepts, hstrict, hloose⟩ := (hk (flag != 0)).complete hq
    refine ⟨b, accepts_bind (accepts_binaryReadBool ending flag) haccepts, ?_, ?_⟩
    · intro hflags
      obtain ⟨hflag, hmore⟩ := strict_cons.mp hflags
      exact reads_bind (readBool_of_le hflag) (hstrict hmore)
    · intro hflags rest
      by_cases hflag : flag ≤ 1
      · -- this one is read, so a later one is refused
        have hmore : ¬Strict more := fun hmore => hflags (strict_cons.mpr ⟨hflag, hmore⟩)
        obtain ⟨err, herr⟩ := hloose hmore rest
        have hread := readBool_of_le hflag (q ++ rest)
        exact ⟨err, (run_bind_of_ok hread).trans herr⟩
      · refine ⟨.invalidBool flag, ?_⟩
        rw [List.cons_append, StateT.run_bind, readBool_of_not_le hflag]
        rfl
  sound := by
    intro input rest c hcall hc
    obtain ⟨value, mid, hbool, hnext⟩ := call_bind_eq_ok.mp hcall
    obtain ⟨flag, rfl, rfl⟩ := binaryReadBool_sound ending hbool
    obtain ⟨q, more, rfl, hq⟩ := (hk _).sound hnext hc
    exact ⟨flag :: q, flag :: more, rfl, flag, q, more, rfl, rfl, hq⟩
  soundReader := by
    intro input rest b hrun hb
    obtain ⟨value, mid, hbool, hnext⟩ := run_bind_eq_ok.mp hrun
    obtain ⟨flag, rfl, -⟩ := readBool_sound hbool
    obtain ⟨q, more, rfl, hq⟩ := (hk value).soundReader hnext hb
    exact ⟨flag :: q, flag :: more, rfl, flag, q, more, rfl, rfl, hq⟩

end Tracks

/-! ## Requests -/

section Requests

variable (ending : GoError)

theorem tracks_parsePtyRequest :
    Tracks (Fields [.string, .number, .number, .number, .number, .string])
      (Results.nilErr id fun _ => True) (parsePtyRequest ending) Proto.PtyRequest.parse := by
  have hstring := keyed_string (sameLanguage_string ending)
  have hnumber := keyed_number ending
  refine tracks_bind hstring fun term => ?_
  refine tracks_bind hnumber fun charWidth => ?_
  refine tracks_bind hnumber fun charHeight => ?_
  refine tracks_bind hnumber fun pixelWidth => ?_
  refine tracks_bind hnumber fun pixelHeight => ?_
  exact (tracks_last hstring [] id).map _ _ (fun _ => rfl) (fun _ h => h) (fun _ h => h)

theorem tracks_parseX11Request :
    Tracks (Fields [.boolean, .string, .string, .number])
      (Results.nilErr id fun _ => True) (parseX11Request ending) Proto.X11Request.parse := by
  have hstring := keyed_string (sameLanguage_string ending)
  refine tracks_boolean ending fun singleConnection => ?_
  refine tracks_bind hstring fun protocol => ?_
  refine tracks_bind hstring fun cookie => ?_
  exact (tracks_last (keyed_number ending) 0 id).map _ _ (fun _ => rfl) (fun _ h => h)
    (fun _ h => h)

theorem tracks_parseWindowChangeRequest :
    Tracks (Fields [.number, .number, .number, .number]) (Results.nilErr id fun _ => True)
      (parseWindowChangeRequest ending) Proto.WindowChangeRequest.parse := by
  have hnumber := keyed_number ending
  refine tracks_bind hnumber fun charWidth => ?_
  refine tracks_bind hnumber fun charHeight => ?_
  refine tracks_bind hnumber fun pixelWidth => ?_
  exact (tracks_last hnumber 0 id).map _ _ (fun _ => rfl) (fun _ h => h) (fun _ h => h)

theorem tracks_parseExitSignalRequest :
    Tracks (Fields [.string, .boolean, .string, .string]) (Results.nilErr id fun _ => True)
      (parseExitSignalRequest ending) Proto.ExitSignalRequest.parse := by
  have hstring := keyed_string (sameLanguage_string ending)
  have hadapted := keyed_string ((sameLanguage_string ending).adapt fun _ => .advanceTooFar)
  refine tracks_bind hadapted fun name => ?_
  refine tracks_boolean ending fun coreDumped => ?_
  refine tracks_bind hadapted fun message => ?_
  exact (tracks_last hstring [] _).map _ _ (fun _ => rfl) (fun _ h => h) (fun _ h => h)

/-- A request that is one string. -/
theorem tracks_stringRequest {α : Type} (make : List UInt8 → α) (wrap : GoError → GoError) :
    Tracks (Fields [.string]) (Results.nilErr id fun _ => True)
      (do
        let (s, err) ← unlessEof [] wrap (parseSSHString ending)
        return (make s, err))
      (do return make (← Proto.readSshBytes)) :=
  (tracks_last (keyed_string (sameLanguage_string ending)) [] wrap).map _ _ (fun _ => rfl)
    (fun _ h => h) (fun _ h => h)

theorem tracks_parseExitStatusRequest :
    Tracks (Fields [.number]) (Results.nilErr id fun _ => True)
      (parseExitStatusRequest ending) Proto.ExitStatusRequest.parse :=
  (tracks_last (keyed_number ending) 0 id).map _ _ (fun _ => rfl) (fun _ h => h) (fun _ h => h)

/-- The results of the parsers for all requests. -/
def requestResults : Results Proto.ChannelRequest (ChannelRequest × Option GoError) :=
  Results.nilErr ChannelRequest.ofProto fun request =>
    request.requestType ≠ ascii "forward-port"

/-- The entry of a request type in the three tables: it stands in all of them or in none. -/
def SameEntry (requestType : List UInt8) (fields : Option (List Field))
    (parseFunc : Option (GoReader (ChannelRequest × Option GoError)))
    (parse : Parser Proto.ChannelRequest) : Prop :=
  match fields with
  | some fields => ∃ m, parseFunc = some m ∧ Tracks (Fields fields) requestResults m parse
  | none => parseFunc = none ∧
      parse = if requestType = ascii "forward-port" then
          return .forwardPort (← Proto.ForwardingRequest.parse)
        else throw (.unknownRequestType requestType)

/-- One entry of three tables that are written as chains of comparisons. -/
theorem SameEntry.ite {requestType : List UInt8} {c : Prop} [Decidable c] {fields : List Field}
    {m : GoReader (ChannelRequest × Option GoError)} {parse parse' : Parser Proto.ChannelRequest}
    {others : Option (List Field)}
    {others' : Option (GoReader (ChannelRequest × Option GoError))}
    (h : Tracks (Fields fields) requestResults m parse)
    (hothers : SameEntry requestType others others' parse') :
    SameEntry requestType (if c then some fields else others) (if c then some m else others')
      (if c then parse else parse') := by
  by_cases hc : c
  · simp only [if_pos hc]
    exact ⟨m, rfl, h⟩
  · simp only [if_neg hc]
    exact hothers

/-- A request of one type as a request. -/
theorem Tracks.asRequest {α : Type} {form : List UInt8 → List UInt8 → Prop}
    {m : GoReader (α × Option GoError)} {r : Parser α}
    (h : Tracks form (Results.nilErr id fun _ => True) m r) (make : α → ChannelRequest)
    (makeProto : α → Proto.ChannelRequest)
    (hmake : ∀ a, ChannelRequest.ofProto (makeProto a) = make a) :
    Tracks form requestResults (asRequest make m) (do return makeProto (← r)) :=
  h.map (fun c => (make c.1, c.2)) makeProto
    (fun a => congrArg (fun request => (request, none)) (hmake a).symm) (fun _ h => h)
    (fun _ _ => trivial)

theorem sameEntry_channelRequest (requestType : List UInt8) :
    SameEntry requestType (layout requestType) (channelRequestParseFuncs ending requestType)
      (Proto.ChannelRequest.parse requestType) := by
  unfold layout channelRequestParseFuncs Proto.ChannelRequest.parse
  refine SameEntry.ite ((tracks_parsePtyRequest ending).asRequest _ _ fun _ => rfl) ?_
  refine SameEntry.ite ((tracks_parseX11Request ending).asRequest _ _ fun _ => rfl) ?_
  refine SameEntry.ite (tracks_pure requestResults .shell) ?_
  refine SameEntry.ite ((tracks_stringRequest ending _ _).asRequest _ _ fun _ => rfl) ?_
  refine SameEntry.ite ((tracks_stringRequest ending _ _).asRequest _ _ fun _ => rfl) ?_
  refine SameEntry.ite ((tracks_parseWindowChangeRequest ending).asRequest _ _ fun _ => rfl) ?_
  refine SameEntry.ite ((tracks_stringRequest ending _ _).asRequest _ _ fun _ => rfl) ?_
  refine SameEntry.ite ((tracks_parseExitStatusRequest ending).asRequest _ _ fun _ => rfl) ?_
  refine SameEntry.ite ((tracks_parseExitSignalRequest ending).asRequest _ _ fun _ => rfl) ?_
  exact ⟨rfl, rfl⟩

end Requests

/-! ## Messages -/

section Messages

variable (ending : GoError)

def requestMessageResults :
    Results Proto.ChannelRequestMessage (ChannelRequestMessage × Option GoError) :=
  Results.nilErr (fun message => ⟨message.wantReply, some (.ofProto message.request)⟩)
    fun message => message.request.requestType ≠ ascii "forward-port"

def messageResults : Results Proto.Message (Message × Option GoError) :=
  Results.nilErr Message.ofProto fun message => ¬IsForwardPort message

/-- Two parsers that accept nothing in common. -/
theorem tracks_none {α γ : Type} {R : Results α γ} {m : GoReader γ} {r : Parser α}
    {form : List UInt8 → List UInt8 → Prop} (hform : ∀ pre flags, ¬form pre flags)
    (hm : ∀ input c rest, call m input ≠ .ok (.ok c, rest))
    (hr : ∀ input a rest, r.run input = .ok (a, rest) → ¬R.shared a) :
    Tracks form R m r where
  complete h := absurd h (hform _ _)
  sound hcall _ := absurd hcall (hm _ _ _)
  soundReader hrun ha := absurd ha (hr _ _ _ hrun)

theorem Tracks.ite {α γ : Type} {R : Results α γ} {c : Prop} [Decidable c]
    {form form' : List UInt8 → List UInt8 → Prop} {m m' : GoReader γ} {r r' : Parser α}
    (hpos : Tracks form R m r) (hneg : Tracks form' R m' r') :
    Tracks (fun pre flags => if c then form pre flags else form' pre flags) R
      (if c then m else m') (if c then r else r') := by
  by_cases hc : c
  · simpa only [if_pos hc] using hpos
  · simpa only [if_neg hc] using hneg

/-- Behind the type of a request. -/
theorem tracks_requestBody (requestType : List UInt8) :
    Tracks (RequestBody requestType) requestMessageResults
      (do
        let wantReply ← binaryReadBool ending
        match channelRequestParseFuncs ending requestType with
        | none => throw (.invalidRequestType requestType)
        | some parseFunc =>
          let (channelRequest, err) ←
            tryCatch (do let (request, err) ← parseFunc; return (some request, err)) fun err =>
              if err = .eof then return (none, some err) else throw err
          return ({ wantReply, channelRequest }, err))
      (do
        let wantReply ← Proto.readBool
        let request ← Proto.ChannelRequest.parse requestType
        return { wantReply, request }) := by
  have hentry := sameEntry_channelRequest ending requestType
  cases hlayout : layout requestType with
  | some fields =>
    rw [hlayout] at hentry
    obtain ⟨m, hm, htracks⟩ := hentry
    have hform : RequestBody requestType = Fields (.boolean :: fields) := by
      funext pre flags
      simp only [RequestBody, hlayout, Option.some.injEq, exists_eq_left']
    rw [hform, hm]
    refine tracks_boolean ending fun wantReply => ?_
    -- an `io.EOF` of the request's parser is returned next to a nil request
    have hsome := htracks.mapGo
      (S := Results.nilErr (fun a => some (ChannelRequest.ofProto a)) requestResults.shared)
      (fun c => (some c.1, c.2)) (fun _ => rfl) (fun _ h => h) (fun _ h => h)
    have hcaught := hsome.tryCatch (not_accepted_of_handle none id)
    exact hcaught.map _ _ (fun _ => rfl) (fun _ h => h) (fun _ h => h)
  | none =>
    rw [hlayout] at hentry
    obtain ⟨hnone, hparse⟩ := hentry
    rw [hnone, hparse]
    refine tracks_none ?_ ?_ ?_
    · rintro pre flags ⟨fields, hfields, -⟩
      rw [hlayout] at hfields
      cases hfields
    · intro input c rest hcall
      obtain ⟨wantReply, mid, -, hthrow⟩ := call_bind_eq_ok.mp hcall
      cases hthrow
    · intro input message rest hrun
      obtain ⟨wantReply, mid, -, hrun⟩ := run_bind_eq_ok.mp hrun
      obtain ⟨request, mid', hrequest, hrun⟩ := run_bind_eq_ok.mp hrun
      obtain ⟨rfl, -⟩ := run_pure_eq_ok.mp hrun
      split_ifs at hrequest with hforward
      · obtain ⟨forwarding, _, _, hpure⟩ := run_bind_eq_ok.mp hrequest
        obtain ⟨rfl, -⟩ := run_pure_eq_ok.mp hpure
        exact fun hshared => hshared rfl
      · cases hrequest

/-- The `io.EOF` that `ParseDataMessage` drops does not occur. -/
theorem tracks_parseDataMessage :
    Tracks (Fields [.string]) Results.plain (parseDataMessage ending)
      Proto.DataOrExtendedDataMessage.parseDataPayload := by
  have hlast := tracks_last (keyed_string (sameLanguage_string ending)) [] id
  have hnil : ∀ {input rest : List UInt8} {c : List UInt8 × Option GoError},
      call (unlessEof [] id (parseSSHString ending)) input = .ok (.ok c, rest) → c.2 = none := by
    intro input rest c hcall
    unfold unlessEof at hcall
    rw [call_tryCatch, call_bind] at hcall
    rcases hstring : call (parseSSHString ending) input with p | ⟨err | s, mid⟩
    · rw [hstring] at hcall
      cases hcall
    · obtain ⟨reason, rfl⟩ := parseSSHString_error ending hstring
      rw [hstring] at hcall
      cases hcall
    · rw [hstring] at hcall
      cases hcall
      rfl
  have hall : Tracks (Fields [.string])
      ⟨fun s => (s, none), fun _ => True, fun _ => True⟩
      (unlessEof [] id (parseSSHString ending)) Proto.readSshBytes :=
    ⟨hlast.complete, fun hcall _ => hlast.sound hcall (hnil hcall), hlast.soundReader⟩
  exact hall.map _ _ (fun _ => rfl) (fun _ h => h) (fun _ h => h)

theorem tracks_parsePayload (kind : UInt64) :
    Tracks (Payload kind) messageResults (parsePayload ending kind)
      (if kind = SSH_MSG_CHANNEL_REQUEST then
        return .channelRequest (← Proto.ChannelRequestMessage.parsePayload)
      else if kind = SSH_MSG_CHANNEL_OPEN_CONFIRMATION then
        return .channelOpenConfirmation (← Proto.ChannelOpenConfirmationMessage.parsePayload)
      else if kind = SSH_MSG_CHANNEL_OPEN_FAILURE then
        return .channelOpenFailure (← Proto.ChannelOpenFailureMessage.parsePayload)
      else if kind = SSH_MSG_CHANNEL_DATA then
        return .data (← Proto.DataOrExtendedDataMessage.parseDataPayload)
      else if kind = SSH_MSG_CHANNEL_EXTENDED_DATA then
        return .data (← Proto.DataOrExtendedDataMessage.parseExtendedPayload)
      else throw (.unknownMessageType kind)) := by
  have hstring := keyed_string (sameLanguage_string ending)
  have hnumber := keyed_number ending
  unfold Payload parsePayload
  refine Tracks.ite ?_ (Tracks.ite ?_ (Tracks.ite ?_ (Tracks.ite ?_ (Tracks.ite ?_ ?_))))
  · have hbody := tracks_bind hstring (tracks_requestBody ending)
    exact hbody.map _ _ (fun _ => rfl) (fun _ h => h) (fun _ h => h)
  · have hfield := (tracks_field hnumber).map (S := Results.plain)
      Proto.ChannelOpenConfirmationMessage.mk Proto.ChannelOpenConfirmationMessage.mk
      (fun _ => rfl) (fun _ h => h) (fun _ h => h)
    exact hfield.map _ _ (fun _ => rfl) (fun _ _ => trivial) (fun _ _ => trivial)
  · have hfields : Tracks (Fields [.number, .string, .string]) Results.plain
        (parseChannelOpenFailureMessage ending) Proto.ChannelOpenFailureMessage.parsePayload := by
      refine tracks_bind hnumber fun reasonCode => ?_
      refine tracks_bind hstring fun errorMessage => ?_
      exact (tracks_field hstring).map _ _ (fun _ => rfl) (fun _ h => h) (fun _ h => h)
    exact hfields.map _ _ (fun _ => rfl) (fun _ _ => trivial) (fun _ _ => trivial)
  · exact (tracks_parseDataMessage ending).map _ _ (fun _ => rfl) (fun _ _ => trivial)
      (fun _ _ => trivial)
  · have hfields : Tracks (Fields [.number, .string]) (Results.nilErr id fun _ => True)
        (parseExtendedDataMessage ending)
        Proto.DataOrExtendedDataMessage.parseExtendedPayload := by
      refine tracks_bind hnumber fun dataType => ?_
      exact (tracks_last hstring [] id).map _ _ (fun _ => rfl) (fun _ h => h) (fun _ h => h)
    exact hfields.map _ _ (fun _ => rfl) (fun _ h => h) (fun _ _ => trivial)
  · exact tracks_none (fun _ _ h => h) (fun _ _ _ h => by cases h) (fun _ _ _ h => by cases h)

/-- The decoders of the two languages read one format, up to the values of booleans and
    the requests of type "forward-port". -/
theorem tracks_parseMessage :
    Tracks MessageBytes messageResults (parseMessage ending) Proto.Message.parse :=
  tracks_bind (keyed_number ending) (tracks_parsePayload ending)

end Messages

/-! ## Requests of type "forward-port" -/

/-- `pre` is a forwarding request: protocol, address family, address, port. -/
def IsForwardingRequest (pre : List UInt8) : Prop :=
  ∃ (protocol : Proto.ForwardingProtocol) (addr : Proto.SocketAddr) (p q : List UInt8),
    pre = p ++ q ∧ IsVarInt p protocol.asU64.toNat ∧ Proto.IsForwardingTarget q addr

/-- The bytes start with a message that requests port forwarding. -/
def ForwardPortBytes (bytes : List UInt8) : Prop :=
  ∃ (flag : UInt8) (kind type body rest : List UInt8),
    bytes = kind ++ (type ++ (flag :: body ++ rest)) ∧
    IsVarInt kind SSH_MSG_CHANNEL_REQUEST.toNat ∧ IsSshBytes type (ascii "forward-port") ∧
    flag ≤ 1 ∧ IsForwardingRequest body

section ForwardPort

variable {bytes input rest : List UInt8}

theorem forwardingProtocol_eq_of_tryFrom {value : UInt64} {protocol : Proto.ForwardingProtocol}
    (h : Proto.ForwardingProtocol.tryFrom value = .ok protocol) : value = protocol.asU64 := by
  unfold Proto.ForwardingProtocol.tryFrom at h
  split at h
  · cases h
    rfl
  · cases h
    rfl
  · cases h

/-- A forwarding request is a protocol in front of a forwarding target. -/
theorem forwardingRequest_parse_eq :
    Proto.ForwardingRequest.parse = (do
      let protocol ← Proto.cursorSource.lift
        (Proto.ForwardingProtocol.tryFrom (← Proto.readVarInt))
      let addr ← Proto.parseForwardingPayloadFrom Proto.cursorSource
      return { protocol, ipAddress := addr.ip, port := addr.port }) := by
  unfold Proto.ForwardingRequest.parse Proto.parseForwardingPayloadFrom Proto.readVarInt
  simp only [bind_assoc, pure_bind]

theorem reads_forwardingRequest {pre : List UInt8} (h : IsForwardingRequest pre) :
    ∃ request, Reads Proto.ForwardingRequest.parse pre request := by
  obtain ⟨protocol, addr, p, q, rfl, hprotocol, htarget⟩ := h
  rw [forwardingRequest_parse_eq]
  refine ⟨⟨protocol, addr.ip, addr.port⟩, ?_⟩
  refine reads_bind (Proto.reads_readVarIntFrom _ _ hprotocol) ?_
  rw [Proto.ForwardingProtocol.tryFrom_asU64]
  refine reads_bind (p := []) (reads_pure protocol) ?_
  exact reads_bind_pure (f := fun addr : Proto.SocketAddr =>
    Proto.ForwardingRequest.mk protocol addr.ip addr.port)
    (Proto.reads_parseForwardingPayloadFrom _ _ htarget)

theorem forwardingRequest_sound {request : Proto.ForwardingRequest}
    (h : Proto.ForwardingRequest.parse.run input = .ok (request, rest)) :
    ∃ pre, input = pre ++ rest ∧ IsForwardingRequest pre := by
  rw [forwardingRequest_parse_eq] at h
  obtain ⟨value, mid, hvalue, h⟩ := run_bind_eq_ok.mp h
  obtain ⟨protocol, mid', hlift, h⟩ := run_bind_eq_ok.mp h
  obtain ⟨addr, rest', haddr, h⟩ := run_bind_eq_ok.mp h
  obtain ⟨rfl, rfl⟩ := run_pure_eq_ok.mp h
  obtain ⟨p, rfl, hp⟩ := Proto.readVarIntFrom_sound _ _ hvalue
  obtain ⟨hprotocol, rfl⟩ := (Proto.lift_eq_ok _ _).mp hlift
  obtain ⟨q, rfl, hq⟩ := Proto.parseForwardingPayloadFrom_sound _ _ haddr
  obtain rfl := forwardingProtocol_eq_of_tryFrom hprotocol
  exact ⟨p ++ q, (List.append_assoc ..).symm, protocol, addr, p, q, rfl, hp, hq⟩

/-- Whatever the parser returns is a request of this type. -/
def ParsesType (requestType : List UInt8) (r : Parser Proto.ChannelRequest) : Prop :=
  ∀ input request rest, r.run input = .ok (request, rest) → request.requestType = requestType

theorem parsesType_ite {requestType name : List UInt8} {α : Type} {r : Parser α}
    {f : α → Proto.ChannelRequest} {others : Parser Proto.ChannelRequest}
    (hmake : ∀ a, (f a).requestType = name) (hothers : ParsesType requestType others) :
    ParsesType requestType
      (if requestType = name then (do return f (← r)) else others) := by
  by_cases hc : requestType = name
  · rw [if_pos hc]
    intro input request rest hrun
    obtain ⟨a, _, _, hpure⟩ := run_bind_eq_ok.mp hrun
    obtain ⟨rfl, -⟩ := run_pure_eq_ok.mp hpure
    rw [hmake, hc]
  · rwa [if_neg hc]

theorem parsesType_channelRequest (requestType : List UInt8) :
    ParsesType requestType (Proto.ChannelRequest.parse requestType) := by
  unfold Proto.ChannelRequest.parse
  refine parsesType_ite (fun _ => rfl) ?_
  refine parsesType_ite (fun _ => rfl) ?_
  refine parsesType_ite (r := pure ()) (f := fun _ => .shell) (fun _ => rfl) ?_
  refine parsesType_ite (fun _ => rfl) ?_
  refine parsesType_ite (fun _ => rfl) ?_
  refine parsesType_ite (fun _ => rfl) ?_
  refine parsesType_ite (fun _ => rfl) ?_
  refine parsesType_ite (fun _ => rfl) ?_
  refine parsesType_ite (fun _ => rfl) ?_
  refine parsesType_ite (fun _ => rfl) ?_
  intro input request rest hrun
  cases hrun

theorem parse_forwardPort :
    Proto.ChannelRequest.parse (ascii "forward-port") =
      (do return .forwardPort (← Proto.ForwardingRequest.parse)) :=
  rfl

theorem not_forwardPort_of_map {α : Type} {r : Parser α} {make : α → Proto.Message}
    {message : Proto.Message}
    (h : StateT.run (do return make (← r)) input = .ok (message, rest))
    (hmake : ∀ a, ¬IsForwardPort (make a)) : ¬IsForwardPort message := by
  obtain ⟨a, _, _, hpure⟩ := run_bind_eq_ok.mp h
  obtain ⟨rfl, -⟩ := run_pure_eq_ok.mp hpure
  exact hmake a

/-- Rust reads a request of type "forward-port" only from such bytes. -/
theorem forwardPortBytes_of_parse {message : Proto.Message} (hforward : IsForwardPort message)
    (h : Proto.Message.parse.run bytes = .ok (message, rest)) : ForwardPortBytes bytes := by
  obtain ⟨kind, mid, hread, hpayload⟩ := run_bind_eq_ok.mp h
  obtain ⟨kindBytes, rfl, hkind⟩ := Proto.readVarIntFrom_sound _ _ hread
  by_cases hrequest : kind = SSH_MSG_CHANNEL_REQUEST
  · subst hrequest
    rw [if_pos rfl] at hpayload
    obtain ⟨request, mid', hrun, hpure⟩ := run_bind_eq_ok.mp hpayload
    obtain ⟨rfl, rfl⟩ := run_pure_eq_ok.mp hpure
    -- type, `want_reply`, and the fields of the type
    obtain ⟨requestType, r₁, hstring, hrun⟩ := run_bind_eq_ok.mp hrun
    obtain ⟨wantReply, r₂, hbool, hrun⟩ := run_bind_eq_ok.mp hrun
    obtain ⟨body, r₃, hbody, hrun⟩ := run_bind_eq_ok.mp hrun
    obtain ⟨rfl, rfl⟩ := run_pure_eq_ok.mp hrun
    obtain rfl : requestType = ascii "forward-port" :=
      (parsesType_channelRequest requestType _ _ _ hbody).symm.trans hforward
    rw [parse_forwardPort] at hbody
    obtain ⟨forwarding, r₄, hforwarding, hpure⟩ := run_bind_eq_ok.mp hbody
    obtain ⟨-, rfl⟩ := run_pure_eq_ok.mp hpure
    obtain ⟨typeBytes, rfl, htype⟩ := Proto.readSshBytesFrom_sound _ _ hstring
    obtain ⟨flag, rfl, hflag⟩ := readBool_sound hbool
    obtain ⟨pre, rfl, hpre⟩ := forwardingRequest_sound hforwarding
    exact ⟨flag, kindBytes, typeBytes, pre, r₄, rfl, hkind, htype, hflag, hpre⟩
  · -- the other kinds of message are not requests
    rw [if_neg hrequest] at hpayload
    split_ifs at hpayload
    · exact absurd hforward (not_forwardPort_of_map hpayload fun _ => not_false)
    · exact absurd hforward (not_forwardPort_of_map hpayload fun _ => not_false)
    · exact absurd hforward (not_forwardPort_of_map hpayload fun _ => not_false)
    · exact absurd hforward (not_forwardPort_of_map hpayload fun _ => not_false)
    · cases hpayload

/-- Rust accepts a request of type "forward-port", and Go does not know the type. -/
theorem parse_of_forwardPortBytes (ending : GoError) (h : ForwardPortBytes bytes) :
    (∃ message rest, Proto.Message.parse.run bytes = .ok (message, rest)) ∧
      ∃ rest, call (parseMessage ending) bytes =
        .ok (.error (.invalidRequestType (ascii "forward-port")), rest) := by
  obtain ⟨flag, kind, type, body, rest, rfl, hkind, htype, hflag, hbody⟩ := h
  constructor
  · obtain ⟨request, hrequest⟩ := reads_forwardingRequest hbody
    have hparse : Reads Proto.Message.parse (kind ++ (type ++ ([flag] ++ body)))
        (.channelRequest ⟨flag != 0, .forwardPort request⟩) := by
      refine reads_bind (Proto.reads_readVarIntFrom _ _ hkind) ?_
      refine reads_bind_pure (f := Proto.Message.channelRequest) ?_
      refine reads_bind (Proto.reads_readSshBytesFrom _ _ htype) ?_
      refine reads_bind (readBool_of_le hflag) ?_
      rw [parse_forwardPort]
      exact reads_bind_pure (f := Proto.ChannelRequestMessage.mk (flag != 0))
        (reads_bind_pure (f := Proto.ChannelRequest.forwardPort) hrequest)
    have hrun := hparse rest
    simp only [List.append_assoc] at hrun
    exact ⟨_, _, hrun⟩
  · refine ⟨body ++ rest, ?_⟩
    unfold parseMessage
    rw [call_bind_of_ok (accepts_readVarInt ending hkind _)]
    show call (parseRequestMessage ending >>= _) _ = _
    apply call_bind_of_error
    have hbool := accepts_binaryReadBool ending flag (body ++ rest)
    rw [List.singleton_append] at hbool
    unfold parseRequestMessage
    rw [call_bind_of_ok (accepts_parseSSHString ending htype _), List.cons_append,
      call_bind_of_ok hbool]
    rfl

end ForwardPort

/-! ## When the two languages agree -/

/-- The bytes start with a message one of whose booleans is neither 0 nor 1. -/
def LooseBoolean (bytes : List UInt8) : Prop :=
  ∃ pre flags rest, bytes = pre ++ rest ∧ MessageBytes pre flags ∧ ¬Strict flags

/-- Go returns a message with a nil error exactly if Rust returns one, and then it is the
    same message and the same bytes are left. -/
def Agree (ending : GoError) (bytes : List UInt8) : Prop :=
  ((∃ m rest, call (parseMessage ending) bytes = .ok (.ok (m, none), rest)) ↔
    ∃ message rest, Proto.Message.parse.run bytes = .ok (message, rest)) ∧
  ∀ m rest message rest', call (parseMessage ending) bytes = .ok (.ok (m, none), rest) →
    Proto.Message.parse.run bytes = .ok (message, rest') →
    m = Message.ofProto message ∧ rest = rest'

/-- **Where the two decoders agree.**  They agree on a byte string exactly if it starts neither
    with a message that has a boolean other than 0 and 1, which only Go accepts, nor with a
    request of type "forward-port", which only Rust accepts. -/
theorem agree_iff (ending : GoError) (bytes : List UInt8) :
    Agree ending bytes ↔ ¬LooseBoolean bytes ∧ ¬ForwardPortBytes bytes := by
  have htracks := tracks_parseMessage ending
  constructor
  · rintro ⟨haccept, -⟩
    constructor
    · rintro ⟨pre, flags, rest, rfl, hpre, hloose⟩
      obtain ⟨message, hgo, -, hrust⟩ := htracks.complete hpre
      obtain ⟨err, herr⟩ := hrust hloose rest
      obtain ⟨message', rest', hrun⟩ := haccept.mp ⟨_, rest, hgo rest⟩
      rw [herr] at hrun
      cases hrun
    · intro hforward
      obtain ⟨hrust, rest, hgo⟩ := parse_of_forwardPortBytes ending hforward
      obtain ⟨m, rest', hcall⟩ := haccept.mpr hrust
      rw [hgo] at hcall
      cases hcall
  · rintro ⟨hstrict, hforward⟩
    -- the bytes of a message are read by both parsers, as the same message
    have hboth : ∀ pre flags rest, bytes = pre ++ rest → MessageBytes pre flags →
        ∃ message, call (parseMessage ending) bytes = .ok (.ok (.ofProto message, none), rest) ∧
          Proto.Message.parse.run bytes = .ok (message, rest) := by
      rintro pre flags rest rfl hpre
      obtain ⟨message, hgo, hrust, -⟩ := htracks.complete hpre
      have hflags : Strict flags := by
        by_contra hloose
        exact hstrict ⟨pre, flags, rest, rfl, hpre, hloose⟩
      exact ⟨message, hgo rest, hrust hflags rest⟩
    have hgo : ∀ m rest, call (parseMessage ending) bytes = .ok (.ok (m, none), rest) →
        ∃ message, m = .ofProto message ∧ Proto.Message.parse.run bytes = .ok (message, rest) := by
      intro m rest hcall
      obtain ⟨pre, flags, hbytes, hpre⟩ := htracks.sound hcall rfl
      obtain ⟨message, hcall', hrun⟩ := hboth pre flags rest hbytes hpre
      rw [hcall] at hcall'
      cases hcall'
      exact ⟨message, rfl, hrun⟩
    refine ⟨⟨?_, ?_⟩, ?_⟩
    · rintro ⟨m, rest, hcall⟩
      obtain ⟨message, -, hrun⟩ := hgo m rest hcall
      exact ⟨message, rest, hrun⟩
    · rintro ⟨message, rest, hrun⟩
      have hshared : ¬IsForwardPort message := fun h => hforward (forwardPortBytes_of_parse h hrun)
      obtain ⟨pre, flags, hbytes, hpre⟩ := htracks.soundReader hrun hshared
      obtain ⟨message', hcall, -⟩ := hboth pre flags rest hbytes hpre
      exact ⟨_, rest, hcall⟩
    · intro m rest message rest' hcall hrun
      obtain ⟨message', rfl, hrun'⟩ := hgo m rest hcall
      rw [hrun] at hrun'
      cases hrun'
      exact ⟨rfl, rfl⟩

/-- An "exec" request for the command "x" whose `want_reply` is 2, and a request to forward
    UDP to a port of 127.0.0.1. -/
theorem not_agree_on_looseBoolean_and_forwardPort :
    ¬Agree .eof ([0x40, 98, 4] ++ ascii "exec" ++ [2, 1] ++ ascii "x") ∧
      ¬Agree .eof ([0x40, 98, 12] ++ ascii "forward-port" ++ [0, 0, 4, 127, 0, 0, 1, 0, 80]) := by
  constructor
  · intro h
    obtain ⟨message, rest, hrun⟩ := h.1.mp
      ⟨.channelRequest ⟨true, some (.exec ⟨ascii "x"⟩)⟩, [], rfl⟩
    cases hrun
  · intro h
    obtain ⟨m, rest, hcall⟩ := h.1.mpr
      ⟨.channelRequest ⟨false, .forwardPort ⟨.udp, .v4 ⟨[127, 0, 0, 1], rfl⟩, 80⟩⟩, [], rfl⟩
    cases hcall

end Ssh3.Go
