/-
  Ssh3.Go.ParseErrors

  The errors of `ParseMessage`: that of the stream, a string that cannot be read, and a
  request of an unknown type.
-/

import Ssh3.Go.MessageSpec

namespace Ssh3.Go

open Fallible

/-- The error among the results of a parser, next to a value or alone. -/
def errorOf {α : Type} : Except GoError (α × Option GoError) → Option GoError
  | .error err => some err
  | .ok (_, err) => err

/-- An error of a parser, on a stream that ends with `ending` -/
inductive ParseError (ending : GoError) : GoError → Prop
  | ending : ParseError ending ending
  | invalidSSHString (reason : GoError) : ParseError ending (.invalidSSHString reason)
  /-- What several parsers make of the error of a string -/
  | advanceTooFar : ParseError ending .advanceTooFar
  | invalidRequestType (requestType : List UInt8) :
      ParseError ending (.invalidRequestType requestType)

section Rules

variable {α γ : Type} {P : GoError → Prop}

/-- Every error that `m` returns, next to a value or alone, is one of `P`. -/
def ErrorsIn (P : GoError → Prop) (m : GoReader (α × Option GoError)) : Prop :=
  ∀ input result left err, call m input = .ok (result, left) → errorOf result = some err → P err

theorem errorsIn_pure (a : α) : ErrorsIn P (pure (a, none)) := by
  intro input result left err hcall herr
  cases hcall
  cases herr

theorem errorsIn_throw {err : GoError} (h : P err) :
    ErrorsIn P (throw err : GoReader (α × Option GoError)) := by
  intro input result left err' hcall herr
  cases hcall
  cases herr
  exact h

theorem errorsIn_bind {m : GoReader γ} {k : γ → GoReader (α × Option GoError)} (hm : Fails m P)
    (hk : ∀ c, ErrorsIn P (k c)) : ErrorsIn P (m >>= k) := by
  intro input result left err hcall herr
  rw [call_bind] at hcall
  rcases hfirst : call m input with p | ⟨reason | c, mid⟩
  · rw [hfirst] at hcall
    cases hcall
  · rw [hfirst] at hcall
    cases hcall
    cases herr
    exact hm _ _ _ hfirst
  · rw [hfirst] at hcall
    exact hk c _ _ _ _ hcall herr

variable {m : GoReader (α × Option GoError)}

theorem ErrorsIn.map (h : ErrorsIn P m)
    {k : α × Option GoError → GoReader (γ × Option GoError)} {make : α → γ}
    (hk : ∀ p, k p = pure (make p.1, p.2)) : ErrorsIn P (m >>= k) := by
  intro input result left err hcall herr
  rw [call_bind] at hcall
  rcases hfirst : call m input with p | ⟨reason | c, mid⟩
  · rw [hfirst] at hcall
    cases hcall
  · rw [hfirst] at hcall
    cases hcall
    exact h _ _ _ _ hfirst herr
  · rw [hfirst] at hcall
    simp only [hk] at hcall
    cases hcall
    exact h _ _ _ _ hfirst herr

theorem errorsIn_unlessEof {m : GoReader α} {zero : α} {wrap : GoError → GoError}
    (hm : Fails m P) (hwrap : ∀ err, P err → P (wrap err)) :
    ErrorsIn P (unlessEof zero wrap m) := by
  intro input result left err hcall herr
  unfold unlessEof at hcall
  rw [call_tryCatch, call_bind] at hcall
  rcases hfirst : call m input with p | ⟨reason | a, mid⟩
  · rw [hfirst] at hcall
    cases hcall
  · have hreason := hm _ _ _ hfirst
    rw [hfirst] at hcall
    simp only at hcall
    split_ifs at hcall
    · cases hcall
      cases herr
      exact hreason
    · cases hcall
      cases herr
      exact hwrap _ hreason
  · rw [hfirst] at hcall
    cases hcall
    cases herr

/-- `ParseRequestMessage` on the error of a request -/
theorem ErrorsIn.nilOnEof (h : ErrorsIn P m) :
    ErrorsIn P (tryCatch (do let (request, err) ← m; return (some request, err)) fun err =>
      if err = .eof then return (none, some err) else throw err) := by
  intro input result left err hcall herr
  rw [call_tryCatch, call_bind] at hcall
  rcases hfirst : call m input with p | ⟨reason | a, mid⟩
  · rw [hfirst] at hcall
    cases hcall
  · have hreason := h _ _ _ _ hfirst rfl
    rw [hfirst] at hcall
    simp only at hcall
    split_ifs at hcall
    · cases hcall
      cases herr
      exact hreason
    · cases hcall
      cases herr
      exact hreason
  · rw [hfirst] at hcall
    cases hcall
    exact h _ _ _ _ hfirst herr

theorem ErrorsIn.fails (h : ErrorsIn P m) : Fails m P :=
  fun _ _ _ hcall => h _ _ _ _ hcall rfl

end Rules

section Parsers

variable (ending : GoError)

theorem fails_number : Fails (readVarInt ending) (ParseError ending) := by
  intro input err left hcall
  rw [fails_readVarInt ending _ _ _ hcall]
  exact .ending

theorem fails_string : Fails (parseSSHString ending) (ParseError ending) := by
  intro input err left hcall
  obtain ⟨reason, rfl⟩ := parseSSHString_error ending hcall
  exact .invalidSSHString reason

theorem fails_boolean : Fails (binaryReadBool ending) (ParseError ending) := by
  refine fails_bind ?_ fun _ => fails_pure _
  intro input err left hcall
  rw [fails_readByte ending _ _ _ hcall]
  exact .ending

theorem fails_advanceTooFar {α : Type} (m : GoReader α) :
    Fails (ExceptT.adapt (fun _ => .advanceTooFar) m : GoReader α) (ParseError ending) := by
  intro input err left hcall
  obtain ⟨reason, rfl⟩ := call_adapt_eq_error hcall
  exact .advanceTooFar

/-- A request that is one string -/
theorem errorsIn_stringRequest {α : Type} {make : List UInt8 → α}
    {k : List UInt8 × Option GoError → GoReader (α × Option GoError)}
    (hk : ∀ p, k p = pure (make p.1, p.2)) :
    ErrorsIn (ParseError ending)
      (unlessEof [] (fun _ => .advanceTooFar) (parseSSHString ending) >>= k) :=
  (errorsIn_unlessEof (fails_string ending) fun _ _ => .advanceTooFar).map hk

theorem errorsIn_parsePtyRequest : ErrorsIn (ParseError ending) (parsePtyRequest ending) := by
  have hnumber := fails_number ending
  refine errorsIn_bind (fails_string ending) fun term => ?_
  refine errorsIn_bind hnumber fun charWidth => errorsIn_bind hnumber fun charHeight => ?_
  refine errorsIn_bind hnumber fun pixelWidth => errorsIn_bind hnumber fun pixelHeight => ?_
  exact (errorsIn_unlessEof (fails_string ending) fun _ h => h).map fun _ => rfl

theorem errorsIn_parseX11Request : ErrorsIn (ParseError ending) (parseX11Request ending) := by
  refine errorsIn_bind (fails_boolean ending) fun singleConnection => ?_
  refine errorsIn_bind (fails_string ending) fun protocol => ?_
  refine errorsIn_bind (fails_string ending) fun cookie => ?_
  exact (errorsIn_unlessEof (fails_number ending) fun _ h => h).map fun _ => rfl

theorem errorsIn_parseWindowChangeRequest :
    ErrorsIn (ParseError ending) (parseWindowChangeRequest ending) := by
  have hnumber := fails_number ending
  refine errorsIn_bind hnumber fun charWidth => errorsIn_bind hnumber fun charHeight => ?_
  refine errorsIn_bind hnumber fun pixelWidth => ?_
  exact (errorsIn_unlessEof hnumber fun _ h => h).map fun _ => rfl

theorem errorsIn_parseExitSignalRequest :
    ErrorsIn (ParseError ending) (parseExitSignalRequest ending) := by
  refine errorsIn_bind (fails_advanceTooFar ending _) fun name => ?_
  refine errorsIn_bind (fails_boolean ending) fun coreDumped => ?_
  refine errorsIn_bind (fails_advanceTooFar ending _) fun message => ?_
  exact errorsIn_stringRequest ending fun _ => rfl

theorem errorsIn_channelRequestParseFuncs {requestType : List UInt8}
    {parseFunc : GoReader (ChannelRequest × Option GoError)}
    (h : channelRequestParseFuncs ending requestType = some parseFunc) :
    ErrorsIn (ParseError ending) parseFunc := by
  have hstring : ∀ {α : Type} {make : List UInt8 → α} {make' : α → ChannelRequest},
      ErrorsIn (ParseError ending) (asRequest make' (do
        let read ← unlessEof [] (fun _ => .advanceTooFar) (parseSSHString ending)
        return (make read.1, read.2))) :=
    (errorsIn_stringRequest ending fun _ => rfl).map fun _ => rfl
  unfold channelRequestParseFuncs at h
  revert h
  -- one step per entry of the map, in its order
  refine of_entry ((errorsIn_parsePtyRequest ending).map fun _ => rfl) ?_
  refine of_entry ((errorsIn_parseX11Request ending).map fun _ => rfl) ?_
  refine of_entry (errorsIn_pure _) ?_
  refine of_entry hstring ?_
  refine of_entry hstring ?_
  refine of_entry ((errorsIn_parseWindowChangeRequest ending).map fun _ => rfl) ?_
  refine of_entry hstring ?_
  refine of_entry
    (((errorsIn_unlessEof (fails_number ending) fun _ h => h).map fun _ => rfl).map fun _ => rfl) ?_
  refine of_entry ((errorsIn_parseExitSignalRequest ending).map fun _ => rfl) ?_
  intro hnone
  cases hnone

theorem errorsIn_parseRequestMessage :
    ErrorsIn (ParseError ending) (parseRequestMessage ending) := by
  refine errorsIn_bind (fails_string ending) fun requestType => ?_
  refine errorsIn_bind (fails_boolean ending) fun wantReply => ?_
  split
  · exact errorsIn_throw (.invalidRequestType requestType)
  · next parseFunc hfunc =>
    exact (errorsIn_channelRequestParseFuncs ending hfunc).nilOnEof.map fun _ => rfl

theorem errorsIn_parsePayload (typeId : UInt64) :
    ErrorsIn (ParseError ending) (parsePayload ending typeId) := by
  unfold parsePayload
  split_ifs
  · exact (errorsIn_parseRequestMessage ending).map fun _ => rfl
  · exact errorsIn_bind (fails_bind (fails_number ending) fun _ => fails_pure _)
      fun _ => errorsIn_pure _
  · refine errorsIn_bind (fails_bind (fails_number ending) fun reasonCode => ?_)
      fun _ => errorsIn_pure _
    refine fails_bind (fails_string ending) fun message => ?_
    exact fails_bind (fails_string ending) fun _ => fails_pure _
  · have hdata : ErrorsIn (ParseError ending) (unlessEof [] id (parseSSHString ending)) :=
      errorsIn_unlessEof (fails_string ending) fun _ h => h
    exact errorsIn_bind (fails_bind hdata.fails fun _ => fails_pure _) fun _ => errorsIn_pure _
  · have hdata : ErrorsIn (ParseError ending) (parseExtendedDataMessage ending) := by
      refine errorsIn_bind (fails_number ending) fun dataType => ?_
      exact (errorsIn_unlessEof (fails_string ending) fun _ h => h).map fun _ => rfl
    exact hdata.map fun _ => rfl
  · intro input result left err hcall _
    cases hcall

/-- Whatever the bytes are, the error of `ParseMessage` is one of these. -/
theorem errorsIn_parseMessage : ErrorsIn (ParseError ending) (parseMessage ending) :=
  errorsIn_bind (fails_number ending) (errorsIn_parsePayload ending)

end Parsers

end Ssh3.Go
