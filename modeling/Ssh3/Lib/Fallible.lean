/-
  Ssh3.Lib.Fallible

  Computations of a language whose functions return an error as a value and
  may also panic: a state `σ`, errors `e` that a caller can handle and after
  which the state is what the call left behind, and panics `π`, after which
  there is no state.

    * `Returns m` — `m` never panics.
    * `Fails m P` — every error of `m` is one of `P`.
    * `Leads P m Q` — from a state with `P`, `m` ends in one with `Q`, by whichever
      of its two ways it returns.
    * `Accepts m pre a` — as a stream reader, `m` reads exactly `pre` as `a`.
    * `SameLanguage m r` — `m` never panics and succeeds exactly where the plain
      reader `r` does, with the same value and the same remaining input.

  All of them are closed under the monad operations.  `SameLanguage` carries the
  results about one implementation of a format over to a second one.
-/

import Ssh3.Lib.Reader

namespace Fallible

open StreamCodec

/-- State, errors as values, and panics. -/
abbrev Comp (σ e π α : Type) := ExceptT e (StateT σ (Except π)) α

variable {σ e π α γ : Type}

/-- The result of a call from a state: a panic, or an error or a value together with the
    state left behind. -/
def call (m : Comp σ e π α) (s : σ) : Except π (Except e α × σ) := m.run.run s

/-- Abort with a panic. -/
def raise (p : π) : Comp σ e π α := fun _ => .error p

/-- A computation that can only panic. -/
def orPanic (x : Except π α) : Comp σ e π α := fun s =>
  match x with
  | .ok a => .ok (.ok a, s)
  | .error p => .error p

/-- The result as a value, for a caller that goes on after an error. -/
def attempt (m : Comp σ e π α) : Comp σ e π (Except e α) := fun s =>
  match m.run.run s with
  | .error p => .error p
  | .ok (result, t) => .ok (.ok result, t)

/-- The results of `n` calls one after the other, whichever way each of them returns. -/
def calls (m : Comp σ e π α) : Nat → σ → Except π (List (Except e α) × σ)
  | 0, s => .ok ([], s)
  | n + 1, s => do
    let (result, t) ← call m s
    let (results, u) ← calls m n t
    return (result :: results, u)

/-! ## Running a composite computation -/

variable {s t : σ} {a : α} {k : α → Comp σ e π γ} {e' : Type}

theorem calls_succ {m : Comp σ e π α} {n : Nat} {u : σ} {result : Except e α}
    {results : List (Except e α)} (h : call m s = .ok (result, t))
    (hrest : calls m n t = .ok (results, u)) :
    calls m (n + 1) s = .ok (result :: results, u) := by
  rw [calls, h]
  show (calls m n t >>= fun p => pure (result :: p.1, p.2)) = _
  rw [hrest]
  rfl

@[simp] theorem call_orPanic_ok (a : α) (s : σ) :
    call (orPanic (.ok a) : Comp σ e π α) s = .ok (.ok a, s) := rfl

@[simp] theorem call_get (s : σ) : call (get : Comp σ e π σ) s = .ok (.ok s, s) := rfl

@[simp] theorem call_set (s t : σ) : call (set t : Comp σ e π Unit) s = .ok (.ok (), t) := rfl

@[simp] theorem call_modify (f : σ → σ) (s : σ) :
    call (modify f : Comp σ e π Unit) s = .ok (.ok (), f s) := rfl

theorem call_bind (m : Comp σ e π α) (k : α → Comp σ e π γ) (s : σ) :
    call (m >>= k) s =
      match call m s with
      | .error p => .error p
      | .ok (.error err, s') => .ok (.error err, s')
      | .ok (.ok a, s') => call (k a) s' := by
  show (m.run.run s >>= fun r => (ExceptT.bindCont k r.1).run r.2) = _
  unfold call
  cases m.run.run s with
  | error p => rfl
  | ok r =>
    obtain ⟨r, s'⟩ := r
    cases r with
    | error err => rfl
    | ok a => rfl

theorem call_bind_of_ok {m : Comp σ e π α}
    (h : call m s = .ok (.ok a, t)) : call (m >>= k) s = call (k a) t := by
  rw [call_bind, h]

theorem call_bind_of_error {m : Comp σ e π α} {s' : σ} {err : e}
    (h : call m s = .ok (.error err, s')) : call (m >>= k) s = .ok (.error err, s') := by
  rw [call_bind, h]

/-- A successful `bind` splits into two successful calls. -/
theorem call_bind_eq_ok {m : Comp σ e π α} {c : γ} : call (m >>= k) s = .ok (.ok c, t) ↔
    ∃ a mid, call m s = .ok (.ok a, mid) ∧ call (k a) mid = .ok (.ok c, t) := by
  rw [call_bind]
  constructor
  · intro h
    rcases hm : call m s with p | ⟨err | a, mid⟩
    · rw [hm] at h; cases h
    · rw [hm] at h; cases h
    · rw [hm] at h
      exact ⟨a, mid, rfl, h⟩
  · rintro ⟨a, mid, hm, hk⟩
    rw [hm]
    exact hk

/-- The error of a `bind` is that of one of its two parts. -/
theorem call_bind_eq_error {m : Comp σ e π α} {err : e}
    (h : call (m >>= k) s = .ok (.error err, t)) :
    call m s = .ok (.error err, t) ∨
      ∃ a mid, call m s = .ok (.ok a, mid) ∧ call (k a) mid = .ok (.error err, t) := by
  rw [call_bind] at h
  rcases hm : call m s with p | ⟨err' | a, mid⟩
  · rw [hm] at h
    cases h
  · rw [hm] at h
    cases h
    exact .inl rfl
  · rw [hm] at h
    exact .inr ⟨a, mid, rfl, h⟩

/-- A call that returns has got past what can only panic. -/
theorem call_orPanic_bind_eq_ok {x : Except π α}
    {result : Except e γ} (h : call (orPanic x >>= k) s = .ok (result, t)) :
    ∃ a, x = .ok a ∧ call (k a) s = .ok (result, t) := by
  cases x with
  | error p => cases h
  | ok a => exact ⟨a, rfl, h⟩

theorem call_attempt (m : Comp σ e π α) (s : σ) :
    call (attempt m) s =
      match call m s with
      | .error p => .error p
      | .ok (result, t) => .ok (.ok result, t) := rfl

theorem call_tryCatch (m : Comp σ e π α) (handle : e → Comp σ e π α) (s : σ) :
    call (tryCatch m handle) s =
      match call m s with
      | .error p => .error p
      | .ok (.error err, s') => call (handle err) s'
      | .ok (.ok a, s') => .ok (.ok a, s') := by
  show (m.run.run s >>= fun r => StateT.run (match r.1 with
    | .ok a => pure (.ok a)
    | .error err => handle err : StateT σ (Except π) (Except e α)) r.2) = _
  unfold call
  cases m.run.run s with
  | error p => rfl
  | ok r =>
    obtain ⟨r, s'⟩ := r
    cases r with
    | error err => rfl
    | ok a => rfl

theorem call_adapt (f : e → e') (m : Comp σ e π α) (s : σ) :
    call (ExceptT.adapt f m : Comp σ e' π α) s =
      match call m s with
      | .error p => .error p
      | .ok (r, s') => .ok (r.mapError f, s') := by
  show (Except.mapError f <$> m.run).run s = _
  rw [StateT.run_map]
  unfold call
  cases m.run.run s with
  | error p => rfl
  | ok r => rfl

theorem call_adapt_eq_ok {f : e → e'} {m : Comp σ e π α} :
    call (ExceptT.adapt f m : Comp σ e' π α) s = .ok (.ok a, t) ↔
      call m s = .ok (.ok a, t) := by
  rw [call_adapt]
  rcases call m s with p | ⟨reason | b, mid⟩
  · constructor <;> (intro h; cases h)
  · constructor <;> (intro h; cases h)
  · constructor <;> (intro h; cases h; rfl)

theorem call_adapt_eq_error {f : e → e'} {m : Comp σ e π α} {err : e'}
    (h : call (ExceptT.adapt f m : Comp σ e' π α) s = .ok (.error err, t)) :
    ∃ reason, err = f reason := by
  rw [call_adapt] at h
  rcases hm : call m s with p | ⟨reason | a, mid⟩
  · rw [hm] at h
    cases h
  · rw [hm] at h
    cases h
    exact ⟨reason, rfl⟩
  · rw [hm] at h
    cases h

/-! ## Panic freedom -/

/-- `m` never panics: from every state it returns a value or an error. -/
def Returns (m : Comp σ e π α) : Prop := ∀ s, ∃ r s', call m s = .ok (r, s')

theorem returns_pure (a : α) : Returns (pure a : Comp σ e π α) := fun s => ⟨.ok a, s, rfl⟩

theorem returns_throw (err : e) : Returns (throw err : Comp σ e π α) :=
  fun s => ⟨.error err, s, rfl⟩

theorem returns_bind {m : Comp σ e π α} (hm : Returns m)
    (hk : ∀ a, Returns (k a)) : Returns (m >>= k) := by
  intro s
  obtain ⟨r, s', h⟩ := hm s
  cases r with
  | error err => exact ⟨.error err, s', call_bind_of_error h⟩
  | ok a =>
    rw [call_bind_of_ok h]
    exact hk a s'

theorem returns_tryCatch {m : Comp σ e π α} {handle : e → Comp σ e π α}
    (hm : Returns m) (hhandle : ∀ err, Returns (handle err)) : Returns (tryCatch m handle) := by
  intro s
  obtain ⟨r, s', h⟩ := hm s
  rw [call_tryCatch, h]
  cases r with
  | error err => exact hhandle err s'
  | ok a => exact ⟨.ok a, s', rfl⟩

theorem returns_adapt (f : e → e') {m : Comp σ e π α} (hm : Returns m) :
    Returns (ExceptT.adapt f m : Comp σ e' π α) := by
  intro s
  obtain ⟨r, s', h⟩ := hm s
  rw [call_adapt, h]
  exact ⟨_, s', rfl⟩

/-! ## The errors -/

/-- Every error that `m` returns is one of `P`. -/
def Fails (m : Comp σ e π α) (P : e → Prop) : Prop :=
  ∀ s err t, call m s = .ok (.error err, t) → P err

section Fails

variable {P : e → Prop}

theorem fails_pure (a : α) : Fails (pure a : Comp σ e π α) P := by
  intro s err t h
  cases h

theorem fails_bind {m : Comp σ e π α} {k : α → Comp σ e π γ} (hm : Fails m P)
    (hk : ∀ a, Fails (k a) P) : Fails (m >>= k) P := by
  intro s err t h
  rcases call_bind_eq_error h with hm' | ⟨a, mid, -, hk'⟩
  · exact hm s err t hm'
  · exact hk a mid err t hk'

theorem fails_ite {c : Prop} [Decidable c] {m k : Comp σ e π α} (hm : Fails m P)
    (hk : Fails k P) : Fails (if c then m else k) P := by
  split_ifs
  · exact hm
  · exact hk

end Fails

/-! ## The state left behind -/

/-- Whether `m` returns a value or an error, it leads from `P` to `Q`. -/
def Leads (P : σ → Prop) (m : Comp σ e π α) (Q : σ → Prop) : Prop :=
  ∀ s r t, P s → call m s = .ok (r, t) → Q t

section Leads

variable {P Q : σ → Prop}

theorem leads_pure (a : α) : Leads P (pure a : Comp σ e π α) P := by
  intro s r t hs h
  cases h
  exact hs

theorem leads_throw (err : e) : Leads P (throw err : Comp σ e π α) P := by
  intro s r t hs h
  cases h
  exact hs

theorem leads_orPanic (x : Except π α) : Leads P (orPanic x : Comp σ e π α) P := by
  intro s r t hs h
  cases x with
  | error p => cases h
  | ok a =>
    cases h
    exact hs

theorem leads_get : Leads P (get : Comp σ e π σ) P := by
  intro s r t hs h
  cases h
  exact hs

theorem leads_modify {f : σ → σ} (hf : ∀ s, P s → Q (f s)) :
    Leads P (modify f : Comp σ e π Unit) Q := by
  intro s r t hs h
  cases h
  exact hf s hs

theorem leads_bind {m : Comp σ e π α} {k : α → Comp σ e π γ} (hm : Leads P m Q)
    (hk : ∀ a, Leads Q (k a) Q) : Leads P (m >>= k) Q := by
  intro s r t hs h
  rw [call_bind] at h
  rcases hcall : call m s with p | ⟨err | a, mid⟩
  · rw [hcall] at h
    cases h
  · rw [hcall] at h
    cases h
    exact hm s _ _ hs hcall
  · rw [hcall] at h
    exact hk a mid r t (hm s _ _ hs hcall) h

/-- After a `get` the state is known. -/
theorem leads_get_bind {k : σ → Comp σ e π γ}
    (hk : ∀ s r t, P s → call (k s) s = .ok (r, t) → Q t) :
    Leads P ((get : Comp σ e π σ) >>= k) Q := by
  intro s r t hs h
  rw [call_bind_of_ok (call_get s)] at h
  exact hk s r t hs h

end Leads

/-! ## Stream readers -/

variable {β ε : Type}

/-- `m` reads exactly `pre` as `a`, whatever follows. -/
def Accepts (m : Comp (List β) e π α) (pre : List β) (a : α) : Prop :=
  ∀ rest, call m (pre ++ rest) = .ok (.ok a, rest)

theorem accepts_pure (a : α) : Accepts (pure a : Comp (List β) e π α) [] a := fun _ => rfl

variable {m : Comp (List β) e π α} {p : List β}

theorem accepts_bind {k : α → Comp (List β) e π γ}
    {q : List β} {c : γ} (hm : Accepts m p a) (hk : Accepts (k a) q c) :
    Accepts (m >>= k) (p ++ q) c := by
  intro rest
  rw [List.append_assoc, call_bind_of_ok (hm (q ++ rest))]
  exact hk rest

theorem accepts_bind_pure {f : α → γ}
    (hm : Accepts m p a) : Accepts (m >>= fun x => pure (f x)) p (f a) := by
  have h := accepts_bind (k := fun x => pure (f x)) hm (accepts_pure (f a))
  rwa [List.append_nil] at h

theorem accepts_tryCatch {handle : e → Comp (List β) e π α}
    (hm : Accepts m p a) : Accepts (tryCatch m handle) p a := by
  intro rest
  rw [call_tryCatch, hm rest]

/-- `m` never panics, and on every input it succeeds exactly if `r` does, with the same
    value and the same remaining input. -/
def SameLanguage (m : Comp (List β) e π α) (r : Reader β ε α) : Prop :=
  ∀ input,
    match r.run input with
    | .ok (a, rest) => call m input = .ok (.ok a, rest)
    | .error _ => ∃ err rest, call m input = .ok (.error err, rest)

variable {input : List β} {r : Reader β ε α}

theorem SameLanguage.of_ok
    (h : SameLanguage m r) {rest : List β} (hr : r.run input = .ok (a, rest)) :
    call m input = .ok (.ok a, rest) := by
  have := h input
  rwa [hr] at this

theorem SameLanguage.of_error (h : SameLanguage m r) {x : ε} (hr : r.run input = .error x) :
    ∃ err rest, call m input = .ok (.error err, rest) := by
  have := h input
  rwa [hr] at this

theorem sameLanguage_pure (a : α) :
    SameLanguage (pure a : Comp (List β) e π α) (pure a : Reader β ε α) := fun _ => rfl

theorem sameLanguage_bind {k : α → Comp (List β) e π γ}
    {l : α → Reader β ε γ} (hm : SameLanguage m r)
    (hk : ∀ a, SameLanguage (k a) (l a)) : SameLanguage (m >>= k) (r >>= l) := by
  intro input
  rw [StateT.run_bind]
  cases hr : r.run input with
  | error x =>
    obtain ⟨err, rest, hcall⟩ := hm.of_error hr
    exact ⟨err, rest, call_bind_of_error hcall⟩
  | ok p =>
    obtain ⟨a, mid⟩ := p
    rw [call_bind_of_ok (hm.of_ok hr)]
    exact hk a mid

theorem sameLanguage_ite {c : Prop} [Decidable c] {n : Comp (List β) e π α}
    {s : Reader β ε α} (hpos : c → SameLanguage m r) (hneg : ¬c → SameLanguage n s) :
    SameLanguage (if c then m else n) (if c then r else s) := by
  by_cases hc : c
  · rw [if_pos hc, if_pos hc]
    exact hpos hc
  · rw [if_neg hc, if_neg hc]
    exact hneg hc

/-- Wrapping the errors does not change what is accepted. -/
theorem SameLanguage.adapt (f : e → e') (h : SameLanguage m r) :
    SameLanguage (ExceptT.adapt f m : Comp (List β) e' π α) r := by
  intro input
  rw [call_adapt]
  cases hr : r.run input with
  | error x =>
    obtain ⟨err, rest, hcall⟩ := h.of_error hr
    exact ⟨f err, rest, by rw [hcall]; rfl⟩
  | ok p =>
    rw [h.of_ok hr]
    rfl

theorem SameLanguage.returns (h : SameLanguage m r) : Returns m := by
  intro input
  cases hr : r.run input with
  | error x =>
    obtain ⟨err, rest, hcall⟩ := h.of_error hr
    exact ⟨.error err, rest, hcall⟩
  | ok p => exact ⟨.ok p.1, p.2, h.of_ok hr⟩

theorem SameLanguage.accepts
    (h : SameLanguage m r) {pre : List β} (hr : Reads r pre a) : Accepts m pre a :=
  fun rest => h.of_ok (hr rest)

/-- What `m` accepts, `r` accepts. -/
theorem SameLanguage.reader_of_call (h : SameLanguage m r) {rest : List β}
    (hcall : call m input = .ok (.ok a, rest)) : r.run input = .ok (a, rest) := by
  cases hr : r.run input with
  | error x =>
    obtain ⟨err, rest', herr⟩ := h.of_error hr
    rw [hcall] at herr
    cases herr
  | ok p =>
    have hok := h.of_ok hr
    rw [hcall] at hok
    cases hok
    rfl

end Fallible
