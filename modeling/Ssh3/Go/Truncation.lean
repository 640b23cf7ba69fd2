/-
  Ssh3.Go.Truncation

  `ParseMessage`, `nextMessage` and `NextMessage` on a stream that ends within a message.

  Numbers and booleans are read byte by byte, and a byte that is not there is `io.EOF`, which
  every parser returns as it is; only the errors of strings are wrapped.  So the error tells
  the end of a stream within a message from the end between two messages exactly if the
  stream ends within a string.
-/

import Ssh3.Go.Channel
import Ssh3.Go.MessageCodec
import Ssh3.Go.ParseErrors

namespace Ssh3.Go

open Fallible
open Proto (MAX_VARINT varIntBytes sshBytes SSH_MSG_CHANNEL_OPEN_CONFIRMATION
  SSH_MSG_CHANNEL_OPEN_FAILURE SSH_MSG_CHANNEL_DATA SSH_MSG_CHANNEL_EXTENDED_DATA
  SSH_EXTENDED_DATA_NONE)

/-! ## Where a stream ends -/

/-- Not a string -/
def FieldValue.isScalar : FieldValue → Bool
  | .number _ | .boolean _ => true
  | .string _ => false

/-- `ParseSSHString` has a limit, `WriteSSHString` has none. -/
def FieldValue.isReadable : FieldValue → Bool
  | .string bytes => bytes.length ≤ MaxSSHStringLength.toNat
  | .number _ | .boolean _ => true

/-- A stream that ends `k` bytes behind the first byte of the fields ends in a number or a
    boolean, or right in front of one, and the strings before it are within the limit. -/
def endsAtScalar : List FieldValue → Nat → Bool
  | [], _ => false
  | field :: fields, k =>
    if k < field.wire.length then field.isScalar
    else field.isReadable && endsAtScalar fields (k - field.wire.length)

/-! ## Reading a field that is cut short -/

section Field

variable {α γ : Type}

/-- `m` reads the field, refuses a string that is too long, and returns `io.EOF` on what is
    left of the field when it is cut short iff the field is not a string. -/
structure ReadsField (m : GoReader α) (field : FieldValue) (a : α) : Prop where
  accepts : field.isReadable = true → Accepts m field.wire a
  refuses : field.isReadable = false → ∀ rest, ∃ err left,
    call m (field.wire ++ rest) = .ok (.error err, left) ∧ err ≠ .eof
  cut : ∀ k < field.wire.length, ∃ err left,
    call m (field.wire.take k) = .ok (.error err, left) ∧ (err = .eof ↔ field.isScalar = true)

theorem readVarInt_cut {value : UInt64} (h : value ≤ MAX_VARINT) {k : Nat}
    (hk : k < (varIntBytes value).length) :
    ∃ left, call (readVarInt .eof) ((varIntBytes value).take k) = .ok (.error .eof, left) := by
  obtain ⟨result, left, hcall⟩ := returns_readVarInt .eof ((varIntBytes value).take k)
  cases result with
  | error err =>
    cases fails_readVarInt .eof _ _ _ hcall
    exact ⟨left, hcall⟩
  | ok read =>
    -- the varint would end before the end of the number
    obtain ⟨pre, hpre, hvarint⟩ := readVarInt_sound .eof hcall
    have hshort := accepts_readVarInt .eof hvarint (left ++ (varIntBytes value).drop k)
    rw [← List.append_assoc, ← hpre, List.take_append_drop] at hshort
    have hfull := accepts_readVarInt .eof (Proto.isVarInt_varIntBytes h) []
    rw [List.append_nil, hshort] at hfull
    have hnil : left ++ (varIntBytes value).drop k = [] :=
      congrArg Prod.snd (Except.ok.inj hfull)
    have hdrop := (List.append_eq_nil_iff.mp hnil).2
    rw [List.drop_eq_nil_iff] at hdrop
    omega

theorem readsField_number {value : UInt64} (h : value ≤ MAX_VARINT) :
    ReadsField (readVarInt .eof) (.number value) value where
  accepts _ := accepts_readVarInt .eof (Proto.isVarInt_varIntBytes h)
  refuses hreadable := by cases hreadable
  cut k hk := by
    obtain ⟨left, hcall⟩ := readVarInt_cut h hk
    exact ⟨.eof, left, hcall, iff_of_true rfl rfl⟩

theorem readsField_boolean (value : Bool) :
    ReadsField (binaryReadBool .eof) (.boolean value) value where
  accepts _ := by
    have haccepts := accepts_binaryReadBool .eof value.toUInt8
    cases value <;> exact haccepts
  refuses hreadable := by cases hreadable
  cut k hk := by
    have hzero : k = 0 := Nat.lt_one_iff.mp hk
    subst hzero
    exact ⟨.eof, [], rfl, iff_of_true rfl rfl⟩

variable {input bytes left : List UInt8} {wrap : GoError → GoError}

theorem readFull_cut {n : Nat} (h : input.length < n) :
    ∃ err left, call (readFull .eof n) input = .ok (.error err, left) := by
  obtain ⟨result, left, hcall⟩ := (sameLanguage_readFull .eof () n).returns input
  cases result with
  | error err => exact ⟨err, left, hcall⟩
  | ok out =>
    have hrun := (sameLanguage_readFull .eof () n).reader_of_call hcall
    have hlen := congrArg List.length (StreamCodec.readExact_eq_ok.mp hrun)
    rw [List.length_append, out.property] at hlen
    omega

/-- Behind the length of a string -/
theorem call_parseSSHString (h : (FieldValue.string bytes).Writable) (input : List UInt8) :
    call (parseSSHString .eof) (varIntBytes (UInt64.ofNat bytes.length) ++ input) =
      call (do
        if UInt64.ofNat bytes.length > MaxSSHStringLength then
          throw (.invalidSSHString (.sshStringTooLong (UInt64.ofNat bytes.length)))
        let out ← ExceptT.adapt GoError.invalidSSHString
          (readFull .eof (UInt64.ofNat bytes.length).toNat)
        return out.val) input := by
  have hlength := accepts_readVarInt .eof
    (Proto.isVarInt_varIntBytes (FieldValue.length_le_of_writable h)) input
  unfold parseSSHString
  rw [call_bind_of_ok (call_adapt_eq_ok.mpr hlength)]

theorem FieldValue.toNat_length (h : (FieldValue.string bytes).Writable) :
    (UInt64.ofNat bytes.length).toNat = bytes.length :=
  UInt64.toNat_ofNat_of_lt (Nat.lt_of_le_of_lt h (by decide))

theorem parseSSHString_refuses (h : (FieldValue.string bytes).Writable)
    (hreadable : (FieldValue.string bytes).isReadable = false) (input : List UInt8) :
    ∃ err left, call (parseSSHString .eof) (varIntBytes (UInt64.ofNat bytes.length) ++ input) =
      .ok (.error err, left) := by
  have hlong : UInt64.ofNat bytes.length > MaxSSHStringLength := by
    apply UInt64.lt_iff_toNat_lt.mpr
    rw [FieldValue.toNat_length h]
    exact Nat.not_le.mp (of_decide_eq_false hreadable)
  rw [call_parseSSHString h, if_pos hlong]
  exact ⟨_, _, rfl⟩

theorem parseSSHString_cut (h : (FieldValue.string bytes).Writable) {k : Nat}
    (hk : k < (sshBytes bytes).length) :
    ∃ err left, call (parseSSHString .eof) ((sshBytes bytes).take k) = .ok (.error err, left) := by
  unfold sshBytes at hk ⊢
  by_cases hlength : k < (varIntBytes (UInt64.ofNat bytes.length)).length
  · -- the stream ends within the length
    rw [List.take_append_of_le_length (Nat.le_of_lt hlength)]
    obtain ⟨left, hcall⟩ := readVarInt_cut (FieldValue.length_le_of_writable h) hlength
    refine ⟨.invalidSSHString .eof, left, ?_⟩
    refine call_bind_of_error ?_
    rw [call_adapt, hcall]
    rfl
  · rw [List.take_append, List.take_of_length_le (Nat.not_lt.mp hlength)]
    cases hreadable : (FieldValue.string bytes).isReadable with
    | false => exact parseSSHString_refuses h hreadable _
    | true =>
      have hshort : ¬UInt64.ofNat bytes.length > MaxSSHStringLength := by
        intro hlong
        have hlt := UInt64.lt_iff_toNat_lt.mp hlong
        rw [FieldValue.toNat_length h] at hlt
        exact Nat.not_le.mpr hlt (of_decide_eq_true hreadable)
      have hcut : (bytes.take (k - (varIntBytes (UInt64.ofNat bytes.length)).length)).length <
          (UInt64.ofNat bytes.length).toNat := by
        rw [FieldValue.toNat_length h, List.length_take]
        rw [List.length_append] at hk
        omega
      obtain ⟨err, left, hcall⟩ := readFull_cut hcut
      rw [call_parseSSHString h, if_neg hshort]
      refine ⟨.invalidSSHString err, left, ?_⟩
      refine call_bind_of_error ?_
      rw [call_adapt, hcall]
      rfl

/-- The errors of strings are wrapped. -/
theorem readsField_string (h : (FieldValue.string bytes).Writable) :
    ReadsField (parseSSHString .eof) (.string bytes) bytes where
  accepts hreadable :=
    accepts_parseSSHString .eof (Proto.isSshBytes_sshBytes (of_decide_eq_true hreadable))
  refuses hreadable rest := by
    obtain ⟨err, left, hcall⟩ := parseSSHString_refuses h hreadable (bytes ++ rest)
    obtain ⟨reason, rfl⟩ := parseSSHString_error .eof hcall
    refine ⟨.invalidSSHString reason, left, ?_, GoError.noConfusion⟩
    rw [← hcall, ← List.append_assoc]
    rfl
  cut k hk := by
    obtain ⟨err, left, hcall⟩ := parseSSHString_cut h hk
    obtain ⟨reason, rfl⟩ := parseSSHString_error .eof hcall
    exact ⟨_, left, hcall, iff_of_false GoError.noConfusion Bool.false_ne_true⟩

variable {m : GoReader α} {field : FieldValue} {a : α}

/-- A string whose errors the parser replaces -/
theorem ReadsField.adapt (h : ReadsField m field a) (hstring : field.isScalar = false)
    {f : GoError → GoError} (hf : ∀ err, f err ≠ .eof) :
    ReadsField (ExceptT.adapt f m : GoReader α) field a where
  accepts hreadable rest := call_adapt_eq_ok.mpr (h.accepts hreadable rest)
  refuses hreadable rest := by
    obtain ⟨err, left, hcall, -⟩ := h.refuses hreadable rest
    refine ⟨f err, left, ?_, hf err⟩
    rw [call_adapt, hcall]
    rfl
  cut k hk := by
    obtain ⟨err, left, hcall, -⟩ := h.cut k hk
    refine ⟨f err, left, ?_, iff_of_false (hf err) (Bool.eq_false_iff.mp hstring)⟩
    rw [call_adapt, hcall]
    rfl

variable {zero : α}

theorem call_unlessEof_of_ok (h : call m input = .ok (.ok a, left)) :
    call (unlessEof zero wrap m) input = .ok (.ok (a, none), left) := by
  unfold unlessEof
  rw [call_tryCatch, call_bind_of_ok h]
  rfl

theorem call_unlessEof_of_error
    {err : GoError} (h : call m input = .ok (.error err, left)) (herr : err ≠ .eof) :
    call (unlessEof zero wrap m) input = .ok (.error (wrap err), left) := by
  unfold unlessEof
  rw [call_tryCatch, call_bind_of_error h]
  show call (if err = .eof then _ else _) left = _
  rw [if_neg herr]
  rfl

theorem call_unlessEof_of_eof (h : call m input = .ok (.error .eof, left)) :
    call (unlessEof zero wrap m) input = .ok (.ok (zero, some .eof), left) := by
  unfold unlessEof
  rw [call_tryCatch, call_bind_of_error h]
  rfl

/-- `unlessEof` has nothing to do for a string. -/
theorem ReadsField.unlessEof (h : ReadsField m field a) (hstring : field.isScalar = false)
    (zero : α) (hwrap : ∀ err, err ≠ .eof → wrap err ≠ .eof) :
    ReadsField (unlessEof zero wrap m) field (a, none) where
  accepts hreadable rest := call_unlessEof_of_ok (h.accepts hreadable rest)
  refuses hreadable rest := by
    obtain ⟨err, left, hcall, herr⟩ := h.refuses hreadable rest
    exact ⟨wrap err, left, call_unlessEof_of_error hcall herr, hwrap err herr⟩
  cut k hk := by
    obtain ⟨err, left, hcall, herr⟩ := h.cut k hk
    have hne : err ≠ .eof := fun heq => Bool.eq_false_iff.mp hstring (herr.mp heq)
    exact ⟨wrap err, left, call_unlessEof_of_error hcall hne,
      iff_of_false (hwrap err hne) (Bool.eq_false_iff.mp hstring)⟩

end Field

/-! ## Parsers -/

section Parser

variable {α γ : Type} {m : GoReader (α × Option GoError)} {field : FieldValue}
  {fields : List FieldValue} {tail : List UInt8}

/-- On every part of the fields and the tail, the parser returns an error, and it is `io.EOF`
    iff the part ends at a number or a boolean. -/
def Cuts (m : GoReader (α × Option GoError)) (fields : List FieldValue) (tail : List UInt8) :
    Prop :=
  ∀ k < (wire fields ++ tail).length, ∃ result left err,
    call m ((wire fields ++ tail).take k) = .ok (result, left) ∧
    errorOf result = some err ∧ (err = .eof ↔ endsAtScalar fields k = true)

theorem cuts_nil (m : GoReader (α × Option GoError)) : Cuts m [] [] := by
  intro k hk
  cases hk

theorem cuts_throw {err : GoError} (herr : err ≠ .eof) (tail : List UInt8) :
    Cuts (throw err : GoReader (α × Option GoError)) [] tail := by
  intro k _
  exact ⟨.error err, tail.take k, err, rfl, rfl, iff_of_false herr Bool.false_ne_true⟩

/-- One field, and what the parser does behind it -/
theorem cuts_bind {first : GoReader γ} {next : γ → GoReader (α × Option GoError)} {c : γ}
    (hfirst : ReadsField first field c) (hnext : Cuts (next c) fields tail) :
    Cuts (first >>= next) (field :: fields) tail := by
  intro k hk
  rw [wire_cons, List.append_assoc] at hk ⊢
  rw [endsAtScalar]
  by_cases hcut : k < field.wire.length
  · rw [List.take_append_of_le_length (Nat.le_of_lt hcut), if_pos hcut]
    obtain ⟨err, left, hcall, herr⟩ := hfirst.cut k hcut
    exact ⟨.error err, left, err, call_bind_of_error hcall, rfl, herr⟩
  · rw [List.take_append, List.take_of_length_le (Nat.not_lt.mp hcut), if_neg hcut]
    cases hreadable : field.isReadable with
    | false =>
      obtain ⟨err, left, hcall, herr⟩ :=
        hfirst.refuses hreadable ((wire fields ++ tail).take (k - field.wire.length))
      exact ⟨.error err, left, err, call_bind_of_error hcall, rfl,
        iff_of_false herr Bool.false_ne_true⟩
    | true =>
      have hlt : k - field.wire.length < (wire fields ++ tail).length := by
        rw [List.length_append] at hk
        omega
      rw [call_bind_of_ok (hfirst.accepts hreadable _)]
      exact hnext _ hlt

/-- A number at the end, where the parser goes on with 0 and returns `io.EOF` next to it -/
theorem cuts_lastNumber {value : UInt64} (h : value ≤ MAX_VARINT)
    {next : UInt64 × Option GoError → GoReader (α × Option GoError)} {make : UInt64 → α}
    (hnext : ∀ p, next p = pure (make p.1, p.2)) :
    Cuts (unlessEof 0 id (readVarInt .eof) >>= next) [.number value] [] := by
  intro k hk
  simp only [wire_cons, wire_nil, List.append_nil] at hk ⊢
  obtain ⟨err, left, hcall, herr⟩ := (readsField_number h).cut k hk
  obtain rfl := herr.mpr rfl
  refine ⟨.ok (make 0, some .eof), left, .eof, ?_, rfl, ?_⟩
  · rw [call_bind_of_ok (call_unlessEof_of_eof hcall), hnext]
    rfl
  · rw [endsAtScalar, if_pos hk]
    exact iff_of_true rfl rfl

theorem Cuts.map (h : Cuts m fields tail)
    {next : α × Option GoError → GoReader (γ × Option GoError)} {make : α → γ}
    (hnext : ∀ p, next p = pure (make p.1, p.2)) : Cuts (m >>= next) fields tail := by
  intro k hk
  obtain ⟨result, left, err, hcall, herr, hiff⟩ := h k hk
  cases result with
  | error reason => exact ⟨.error reason, left, err, call_bind_of_error hcall, herr, hiff⟩
  | ok p =>
    refine ⟨.ok (make p.1, p.2), left, err, ?_, herr, hiff⟩
    rw [call_bind_of_ok hcall, hnext]
    rfl

/-- `ParseRequestMessage` returns a message without a request next to `io.EOF`. -/
theorem Cuts.nilOnEof (h : Cuts m fields tail) :
    Cuts (tryCatch (do let (request, err) ← m; return (some request, err)) fun err =>
      if err = .eof then return (none, some err) else throw err) fields tail := by
  intro k hk
  obtain ⟨result, left, err, hcall, herr, hiff⟩ := h k hk
  rw [call_tryCatch]
  cases result with
  | error reason =>
    cases herr
    rw [call_bind_of_error hcall]
    show ∃ result left' err', call (if err = .eof then _ else _) left = _ ∧ _
    by_cases heof : err = .eof
    · rw [if_pos heof]
      exact ⟨.ok (none, some err), left, err, rfl, rfl, hiff⟩
    · rw [if_neg heof]
      exact ⟨.error err, left, err, rfl, rfl, hiff⟩
  | ok p =>
    rw [call_bind_of_ok hcall]
    exact ⟨.ok (some p.1, p.2), left, err, rfl, herr, hiff⟩

end Parser

/-! ## Requests -/

section Request

theorem ne_eof_of_ne (err : GoError) (h : err ≠ .eof) : id err ≠ .eof := h

theorem advanceTooFar_ne_eof (err : GoError) (_ : err ≠ .eof) :
    (fun _ => GoError.advanceTooFar) err ≠ .eof := GoError.noConfusion

theorem cuts_parsePtyRequest {r : Proto.PtyRequest} (h : Writable (ptyFields r)) :
    Cuts (parsePtyRequest .eof) (ptyFields r) [] := by
  obtain ⟨hterm, hcw, hch, hpw, hph, hmodes, -⟩ := h
  refine cuts_bind (readsField_string hterm) ?_
  refine cuts_bind (readsField_number hcw) ?_
  refine cuts_bind (readsField_number hch) ?_
  refine cuts_bind (readsField_number hpw) ?_
  refine cuts_bind (readsField_number hph) ?_
  exact cuts_bind ((readsField_string hmodes).unlessEof rfl [] ne_eof_of_ne) (cuts_nil _)

theorem cuts_parseX11Request {r : Proto.X11Request} (h : Writable (x11Fields r)) :
    Cuts (parseX11Request .eof) (x11Fields r) [] := by
  obtain ⟨-, hproto, hcookie, hscreen, -⟩ := h
  refine cuts_bind (readsField_boolean r.singleConnection) ?_
  refine cuts_bind (readsField_string hproto) ?_
  refine cuts_bind (readsField_string hcookie) ?_
  exact cuts_lastNumber hscreen fun _ => rfl

theorem cuts_parseWindowChangeRequest {r : Proto.WindowChangeRequest}
    (h : Writable (windowChangeFields r)) :
    Cuts (parseWindowChangeRequest .eof) (windowChangeFields r) [] := by
  obtain ⟨hcw, hch, hpw, hph, -⟩ := h
  refine cuts_bind (readsField_number hcw) ?_
  refine cuts_bind (readsField_number hch) ?_
  refine cuts_bind (readsField_number hpw) ?_
  exact cuts_lastNumber hph fun _ => rfl

theorem cuts_parseExitSignalRequest {r : Proto.ExitSignalRequest}
    (h : Writable (exitSignalFields r)) :
    Cuts (parseExitSignalRequest .eof) (exitSignalFields r) [] := by
  obtain ⟨hname, -, hmsg, htag, -⟩ := h
  refine cuts_bind ((readsField_string hname).adapt rfl fun _ => GoError.noConfusion) ?_
  -- the one field of the request whose `io.EOF` gets through
  refine cuts_bind (readsField_boolean r.coreDumped) ?_
  refine cuts_bind ((readsField_string hmsg).adapt rfl fun _ => GoError.noConfusion) ?_
  exact cuts_bind ((readsField_string htag).unlessEof rfl [] advanceTooFar_ne_eof) (cuts_nil _)

theorem cuts_stringRequest {bytes : List UInt8} (h : Writable [.string bytes]) {α : Type}
    {next : List UInt8 × Option GoError → GoReader (α × Option GoError)} :
    Cuts (unlessEof [] (fun _ => .advanceTooFar) (parseSSHString .eof) >>= next) [.string bytes]
      [] :=
  cuts_bind ((readsField_string h.1).unlessEof rfl [] advanceTooFar_ne_eof) (cuts_nil _)

theorem cuts_parseFunc {request : ChannelRequest} (h : Writable request.fields)
    (hforward : ∀ r, request ≠ .forwarding r) :
    ∃ parseFunc, channelRequestParseFuncs .eof request.requestTypeStr = some parseFunc ∧
      Cuts parseFunc request.fields [] := by
  cases request with
  | pty r => exact ⟨_, rfl, (cuts_parsePtyRequest h).map fun _ => rfl⟩
  | x11 r => exact ⟨_, rfl, (cuts_parseX11Request h).map fun _ => rfl⟩
  | shell => exact ⟨_, rfl, cuts_nil _⟩
  | exec r => exact ⟨_, rfl, (cuts_stringRequest h).map fun _ => rfl⟩
  | subsystem r => exact ⟨_, rfl, (cuts_stringRequest h).map fun _ => rfl⟩
  | windowChange r => exact ⟨_, rfl, (cuts_parseWindowChangeRequest h).map fun _ => rfl⟩
  | signal r => exact ⟨_, rfl, (cuts_stringRequest h).map fun _ => rfl⟩
  | exitStatus r => exact ⟨_, rfl, (cuts_lastNumber h.1 fun _ => rfl).map fun _ => rfl⟩
  | exitSignal r => exact ⟨_, rfl, (cuts_parseExitSignalRequest h).map fun _ => rfl⟩
  | forwarding r => exact absurd rfl (hforward r)

theorem cuts_parseRequestMessage {wantReply : Bool} {request : ChannelRequest}
    {tail : List UInt8} (htype : (FieldValue.string request.requestTypeStr).Writable)
    (hfields : Writable request.fields) (htail : (∀ r, request ≠ .forwarding r) → tail = []) :
    Cuts (parseRequestMessage .eof)
      (.string request.requestTypeStr :: .boolean wantReply :: request.fields) tail := by
  refine cuts_bind (readsField_string htype) ?_
  refine cuts_bind (readsField_boolean wantReply) ?_
  by_cases hforward : ∀ r, request ≠ .forwarding r
  · obtain ⟨parseFunc, hparse, hcuts⟩ := cuts_parseFunc hfields hforward
    rw [htail hforward, hparse]
    exact hcuts.nilOnEof.map fun _ => rfl
  · -- there is no parser for it, whatever stands behind `wantReply`
    obtain ⟨r, rfl⟩ := not_forall_not.mp hforward
    exact cuts_throw GoError.noConfusion tail

end Request

/-! ## Messages -/

theorem cuts_confirmation {m : Proto.ChannelOpenConfirmationMessage}
    (h : m.maxPacketSize ≤ MAX_VARINT) :
    Cuts (parsePayload .eof SSH_MSG_CHANNEL_OPEN_CONFIRMATION) [.number m.maxPacketSize] [] := by
  have hparse : parsePayload .eof SSH_MSG_CHANNEL_OPEN_CONFIRMATION = (do
      let maxPacketSize ← readVarInt .eof
      return (.channelOpenConfirmation ⟨maxPacketSize⟩, none)) := by
    show (parseChannelOpenConfirmationMessage .eof >>= _) = _
    rw [parseChannelOpenConfirmationMessage, bind_assoc]
    rfl
  rw [hparse]
  exact cuts_bind (readsField_number h) (cuts_nil _)

theorem cuts_openFailure {m : Proto.ChannelOpenFailureMessage}
    (h : Writable [.number m.reasonCode, .string m.errorMessageUtf8, .string m.languageTag]) :
    Cuts (parsePayload .eof SSH_MSG_CHANNEL_OPEN_FAILURE)
      [.number m.reasonCode, .string m.errorMessageUtf8, .string m.languageTag] [] := by
  have hparse : parsePayload .eof SSH_MSG_CHANNEL_OPEN_FAILURE = (do
      let reasonCode ← readVarInt .eof
      let errorMessageUtf8 ← parseSSHString .eof
      let languageTag ← parseSSHString .eof
      return (.channelOpenFailure ⟨reasonCode, errorMessageUtf8, languageTag⟩, none)) := by
    show (parseChannelOpenFailureMessage .eof >>= _) = _
    simp only [parseChannelOpenFailureMessage, bind_assoc]
    rfl
  obtain ⟨hreason, hmsg, htag, -⟩ := h
  rw [hparse]
  refine cuts_bind (readsField_number hreason) ?_
  refine cuts_bind (readsField_string hmsg) ?_
  exact cuts_bind (readsField_string htag) (cuts_nil _)

theorem cuts_data {data : List UInt8} (h : (FieldValue.string data).Writable) :
    Cuts (parsePayload .eof SSH_MSG_CHANNEL_DATA) [.string data] [] := by
  have hparse : parsePayload .eof SSH_MSG_CHANNEL_DATA = (do
      let read ← unlessEof [] id (parseSSHString .eof)
      return (.data ⟨SSH_EXTENDED_DATA_NONE, read.1⟩, none)) := by
    show (parseDataMessage .eof >>= _) = _
    rw [parseDataMessage, bind_assoc]
    rfl
  rw [hparse]
  exact cuts_bind ((readsField_string h).unlessEof rfl [] ne_eof_of_ne) (cuts_nil _)

theorem cuts_extendedData {dataType : UInt64} {data : List UInt8}
    (htype : dataType ≤ MAX_VARINT) (hdata : (FieldValue.string data).Writable) :
    Cuts (parsePayload .eof SSH_MSG_CHANNEL_EXTENDED_DATA) [.number dataType, .string data] [] := by
  have hcuts : Cuts (parseExtendedDataMessage .eof) [.number dataType, .string data] [] := by
    refine cuts_bind (readsField_number htype) ?_
    exact cuts_bind ((readsField_string hdata).unlessEof rfl [] ne_eof_of_ne) (cuts_nil _)
  exact hcuts.map fun _ => rfl

/-- A message that can be written has a type. -/
theorem fields_ne_nil {m : Message} {n : Nat} (h : m.length = .ok n) : m.fields ≠ [] := by
  cases m with
  | channelRequest m =>
    obtain ⟨wantReply, request⟩ := m
    cases request with
    | none => cases h
    | some request => exact List.cons_ne_nil _ _
  | channelOpenConfirmation m => exact List.cons_ne_nil _ _
  | channelOpenFailure m => exact List.cons_ne_nil _ _
  | data m =>
    show dataFields m ≠ []
    unfold dataFields
    split_ifs
    · exact List.cons_ne_nil _ _
    · exact List.cons_ne_nil _ _

theorem cuts_parseMessage {m : Message} {tail : List UInt8} (h : Writable m.fields)
    (hne : m.fields ≠ []) (htail : m.isForwarding = false → tail = []) :
    Cuts (parseMessage .eof) m.fields tail := by
  cases m with
  | channelRequest m =>
    obtain ⟨wantReply, request⟩ := m
    cases request with
    | none => exact absurd rfl hne
    | some request =>
      obtain ⟨hkind, htype, -, hfields⟩ := h
      refine cuts_bind (readsField_number hkind) ?_
      refine (cuts_parseRequestMessage htype hfields ?_).map fun _ => rfl
      intro hforward
      refine htail ?_
      cases request with
      | forwarding r => exact absurd rfl (hforward r)
      | _ => rfl
  | channelOpenConfirmation m =>
    obtain rfl := htail rfl
    exact cuts_bind (readsField_number h.1) (cuts_confirmation h.2.1)
  | channelOpenFailure m =>
    obtain rfl := htail rfl
    exact cuts_bind (readsField_number h.1) (cuts_openFailure h.2)
  | data m =>
    obtain rfl := htail rfl
    unfold Message.fields dataFields at h ⊢
    by_cases h0 : m.dataType = SSH_EXTENDED_DATA_NONE
    · simp only [if_pos h0] at h ⊢
      exact cuts_bind (readsField_number h.1) (cuts_data h.2.1)
    · simp only [if_neg h0] at h ⊢
      exact cuts_bind (readsField_number h.1) (cuts_extendedData h.2.1 h.2.2.1)

/-! ## A stream that ends within a message -/

/-- `ParseMessage` and both methods of the channel tell that the message is not complete. -/
structure ReportsTruncation (input : List UInt8) : Prop where
  parseMessage : ∃ result left err, call (parseMessage .eof) input = .ok (result, left) ∧
    errorOf result = some err ∧ err ≠ .eof
  nextMessage : ∀ confirmSent confirmReceived, ∃ err half,
    call (nextMessage .eof) ⟨confirmSent, confirmReceived, input⟩ = .ok (.error err, half) ∧
    err ≠ .eof
  NextMessage : ∀ confirmSent confirmReceived, ∃ err half,
    call (NextMessage .eof) ⟨confirmSent, confirmReceived, input⟩ = .ok (.error err, half) ∧
    err ≠ .eof

variable {err : GoError} {left : List UInt8} {result : Except GoError (Message × Option GoError)}

theorem call_nextMessage_error {half : RecvHalf}
    (hcall : call (parseMessage .eof) half.recv = .ok (result, left))
    (herr : errorOf result = some err) :
    call (nextMessage .eof) half = .ok (.error err, { half with recv := left }) := by
  rw [call_nextMessage, hcall]
  cases result with
  | error reason =>
    cases herr
    rfl
  | ok p =>
    obtain ⟨message, reason⟩ := p
    cases herr
    rfl

theorem call_NextMessage_error {half : RecvHalf} (hne : half.recv ≠ [])
    (hcall : call (parseMessage .eof) half.recv = .ok (result, left))
    (herr : errorOf result = some err) :
    call (NextMessage .eof) half = .ok (.error err, { half with recv := left }) := by
  unfold NextMessage
  rw [call_bind_of_ok (call_get _)]
  obtain ⟨n, hn⟩ := Nat.exists_eq_succ_of_ne_zero (List.length_eq_zero_iff.not.mpr hne)
  rw [hn, nextMessageLoop]
  exact call_bind_of_error (call_nextMessage_error hcall herr)

theorem reportsTruncation_iff {input : List UInt8} (hne : input ≠ [])
    (hcall : call (parseMessage .eof) input = .ok (result, left))
    (herr : errorOf result = some err) : ReportsTruncation input ↔ err ≠ .eof := by
  constructor
  · rintro ⟨⟨result', left', err', hcall', herr', hne'⟩, -, -⟩
    rw [hcall] at hcall'
    cases hcall'
    rw [herr] at herr'
    cases herr'
    exact hne'
  · intro heof
    refine ⟨⟨result, left, err, hcall, herr, heof⟩, ?_, ?_⟩
    · intro confirmSent confirmReceived
      exact ⟨err, _, call_nextMessage_error hcall herr, heof⟩
    · intro confirmSent confirmReceived
      exact ⟨err, _, call_NextMessage_error hne hcall herr, heof⟩

/-- **The end of a stream within a message.**  Whatever message is written, into a slice of
    the length that `Length` gives for it, a stream that ends behind the first byte and before
    the last one of what was written is reported as truncated exactly if it does not end in or
    right in front of a number or a boolean, behind strings within the limit of the reader. -/
theorem reportsTruncation_take_iff (m : Message) {buf : List UInt8} {out : Buf}
    (hlength : m.length = .ok buf.length) (hbuf : buf.length < 2 ^ 63)
    (hwrite : call m.write ⟨[], buf⟩ = .ok (.ok (), out)) {k : Nat} (hpos : 0 < k)
    (hk : k < out.filled.length) :
    ReportsTruncation (out.filled.take k) ↔ endsAtScalar m.fields k = false := by
  obtain ⟨tail, hfilled, htail⟩ := write_filled hlength hbuf hwrite
  have hfields := writable_message hlength hbuf
  have hne := fields_ne_nil hlength
  rw [hfilled] at hk ⊢
  obtain ⟨result, left, err, hcall, herr, hiff⟩ := cuts_parseMessage hfields hne htail k hk
  have htake : (wire m.fields ++ tail).take k ≠ [] := by
    intro hnil
    rcases List.take_eq_nil_iff.mp hnil with hzero | hnil
    · omega
    · rw [hnil] at hk
      cases hk
  rw [reportsTruncation_iff htake hcall herr, ne_eq, hiff, Bool.not_eq_true]

/-- A request to run "ls" whose command is cut short -/
theorem reportsTruncation_exec :
    ReportsTruncation
      (([0x40, 98, 4] ++ Proto.ascii "exec" ++ [1, 2] ++ Proto.ascii "ls").take 10) := by
  have hlength : (Message.channelRequest ⟨true, some (.exec ⟨Proto.ascii "ls"⟩)⟩).length =
      .ok (List.replicate 11 (0 : UInt8)).length := rfl
  have hwrite : call (Message.channelRequest ⟨true, some (.exec ⟨Proto.ascii "ls"⟩)⟩).write
      ⟨[], List.replicate 11 0⟩ =
      .ok (.ok (), ⟨[0x40, 98, 4] ++ Proto.ascii "exec" ++ [1, 2] ++ Proto.ascii "ls", []⟩) := rfl
  exact (reportsTruncation_take_iff _ hlength (by decide) hwrite (by decide) (by decide)).mpr
    (by decide)

/-- A stream that ends in front of the exit status: the message has lost its last byte, and
    the error is the one of a channel that has been closed. -/
theorem exitStatus_cut_is_eof :
    ∃ bytes : List UInt8,
      (Message.channelRequest ⟨false, some (.exitStatus ⟨1⟩)⟩).length = .ok 16 ∧
      call (Message.channelRequest ⟨false, some (.exitStatus ⟨1⟩)⟩).write
        ⟨[], List.replicate 16 0⟩ = .ok (.ok (), ⟨bytes, []⟩) ∧
      bytes.length = 16 ∧
      call (NextMessage .eof) ⟨true, true, bytes.take 15⟩ =
        .ok (.error .eof, ⟨true, true, []⟩) ∧
      ¬ReportsTruncation (bytes.take 15) := by
  have hnext : call (NextMessage .eof)
      ⟨true, true, ([0x40, 98, 11] ++ Proto.ascii "exit-status" ++ [0, 1]).take 15⟩ =
      .ok (.error .eof, ⟨true, true, []⟩) := rfl
  refine ⟨[0x40, 98, 11] ++ Proto.ascii "exit-status" ++ [0, 1], rfl, rfl, rfl, hnext, ?_⟩
  intro h
  obtain ⟨err, half, hcall, hne⟩ := h.NextMessage true true
  rw [hnext] at hcall
  cases hcall
  exact hne rfl

end Ssh3.Go
