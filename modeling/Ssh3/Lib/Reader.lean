/-
  Ssh3.Lib.Reader

  Readers over a list of symbols, and the notion every wire-format proof is
  phrased with:

    * `Reads r pre a` — on any input that starts with `pre`, the reader `r`
      returns `a` and leaves exactly what follows `pre`.

  It is the completeness half of a codec proof (what a writer emits is read
  back), and it is closed under the monad operations, so a composite reader
  inherits it from its fields.  The other half is

    * `Yields r Q` — whenever `r` succeeds, it has consumed a prefix of its input,
      and `Q` holds of the value and of the length of that prefix.

  It has the same closure rules; a single field is proved by taking a successful
  run apart with `run_bind_eq_ok`.
-/

import Mathlib.Tactic.Ring

namespace StreamCodec

variable {β ε α γ : Type}

/-- A reader consumes a prefix of its input and returns a value, or fails. -/
abbrev Reader (β ε α : Type) := StateT (List β) (Except ε) α

/-- Fill a buffer of `n` symbols; `ending` is the error of the underlying source
    when it ends before the buffer is full. -/
def readExact (ending : ε) (n : Nat) : Reader β ε { xs : List β // xs.length = n } :=
  fun input =>
    if h : n ≤ input.length then
      .ok (⟨input.take n, by rw [List.length_take]; omega⟩, input.drop n)
    else
      .error ending

/-- The symbol in a buffer of one. -/
def single (xs : { xs : List β // xs.length = 1 }) : β :=
  xs.val.get ⟨0, by rw [xs.property]; decide⟩

/-- `r` reads exactly `pre` as `a`, whatever follows. -/
def Reads (r : Reader β ε α) (pre : List β) (a : α) : Prop :=
  ∀ rest, r.run (pre ++ rest) = .ok (a, rest)

/-! ## Computations that may fail -/

theorem ok_bind (a : α) (f : α → Except ε γ) : (Except.ok a >>= f) = f a := rfl

variable {c : γ} {input rest : List β} {k : α → Reader β ε γ} {r : Reader β ε α} {a : α}

theorem bind_eq_ok {x : Except ε α} {f : α → Except ε γ} :
    (x >>= f) = .ok c ↔ ∃ a, x = .ok a ∧ f a = .ok c := by
  cases x with
  | error e => exact ⟨nofun, nofun⟩
  | ok a => exact ⟨fun h => ⟨a, rfl, h⟩, fun ⟨_, ha, h⟩ => Except.ok.inj ha ▸ h⟩

/-! ## Running a composite reader -/

/-- A successful `bind` splits into a successful first reader and a successful
    continuation. -/
theorem run_bind_eq_ok : (r >>= k).run input = .ok (c, rest) ↔
    ∃ a mid, r.run input = .ok (a, mid) ∧ (k a).run mid = .ok (c, rest) := by
  rw [StateT.run_bind, bind_eq_ok]
  constructor
  · rintro ⟨⟨a, mid⟩, hr, hk⟩
    exact ⟨a, mid, hr, hk⟩
  · rintro ⟨a, mid, hr, hk⟩
    exact ⟨(a, mid), hr, hk⟩

theorem run_pure_eq_ok {c : α} :
    (pure a : Reader β ε α).run input = .ok (c, rest) ↔ a = c ∧ input = rest := by
  rw [StateT.run_pure]
  constructor
  · intro h
    cases h
    exact ⟨rfl, rfl⟩
  · rintro ⟨rfl, rfl⟩
    rfl

theorem run_bind_of_ok {σ : Type} {r : StateT σ (Except ε) α} {k : α → StateT σ (Except ε) γ}
    {state mid : σ} (h : r.run state = .ok (a, mid)) :
    (r >>= k).run state = (k a).run mid := by
  rw [StateT.run_bind, h]
  rfl

/-! ## `Reads` -/

theorem reads_pure (a : α) : Reads (pure a : Reader β ε α) [] a := fun _ => rfl

theorem reads_bind {p q : List β}
    (hr : Reads r p a) (hk : Reads (k a) q c) : Reads (r >>= k) (p ++ q) c := by
  intro rest
  rw [List.append_assoc, run_bind_of_ok (hr (q ++ rest))]
  exact hk rest

/-- The last field of a record: nothing is read after it. -/
theorem reads_bind_pure {f : α → γ} {pre : List β}
    (hr : Reads r pre a) : Reads (r >>= fun x => pure (f x)) pre (f a) := by
  have h := reads_bind (k := fun x => pure (f x)) hr (reads_pure (f a))
  rwa [List.append_nil] at h

theorem reads_readExact (ending : ε) {n : Nat} (xs : List β) (h : xs.length = n) :
    Reads (readExact ending n) xs ⟨xs, h⟩ := by
  subst h
  intro rest
  simp [readExact, StateT.run]

theorem readExact_eq_ok {ending : ε} {n : Nat} {xs : { xs : List β // xs.length = n }} :
    (readExact ending n).run input = .ok (xs, rest) ↔ input = xs.val ++ rest := by
  constructor
  · intro h
    simp only [readExact, StateT.run] at h
    split at h
    · cases h
      exact (List.take_append_drop n input).symm
    · cases h
  · rintro rfl
    exact reads_readExact ending xs.val xs.property rest

/-- Two prefixes of one input that are both read leave the same tail and value. -/
theorem Reads.unique {pre pre' rest' : List β} {a' : α}
    (h : Reads r pre a) (h' : Reads r pre' a') (heq : pre ++ rest = pre' ++ rest') :
    pre = pre' ∧ a = a' ∧ rest = rest' := by
  have h₁ := h rest
  rw [heq, h' rest'] at h₁
  cases h₁
  exact ⟨List.append_cancel_right heq, rfl, rfl⟩

/-! ## `Yields` -/

/-- Whenever `r` succeeds it has consumed a prefix of its input, and `Q` holds of the
    value and of the number of symbols consumed. -/
def Yields (r : Reader β ε α) (Q : α → Nat → Prop) : Prop :=
  ∀ ⦃input rest : List β⦄ ⦃a : α⦄, r.run input = .ok (a, rest) →
    ∃ pre, input = pre ++ rest ∧ Q a pre.length

theorem yields_pure {Q : α → Nat → Prop} (h : Q a 0) : Yields (pure a : Reader β ε α) Q := by
  intro input rest c hrun
  obtain ⟨rfl, rfl⟩ := run_pure_eq_ok.mp hrun
  exact ⟨[], rfl, h⟩

theorem yields_throw {e : ε} {Q : α → Nat → Prop} : Yields (throw e : Reader β ε α) Q := by
  intro input rest a hrun
  cases hrun

/-- The continuation's postcondition counts what was consumed before it. -/
theorem yields_bind {P : α → Nat → Prop} {Q : γ → Nat → Prop} (hr : Yields r P)
    (hk : ∀ a n, P a n → Yields (k a) fun c m => Q c (n + m)) : Yields (r >>= k) Q := by
  intro input rest c hrun
  obtain ⟨a, mid, hfirst, hthen⟩ := run_bind_eq_ok.mp hrun
  obtain ⟨pre, rfl, ha⟩ := hr hfirst
  obtain ⟨post, rfl, hc⟩ := hk a pre.length ha hthen
  refine ⟨pre ++ post, (List.append_assoc ..).symm, ?_⟩
  rw [List.length_append]
  exact hc

/-- The last field of a record: nothing is read after it. -/
theorem yields_bind_pure {f : α → γ} {P : α → Nat → Prop}
    {Q : γ → Nat → Prop} (hr : Yields r P) (h : ∀ a n, P a n → Q (f a) n) :
    Yields (r >>= fun x => pure (f x)) Q :=
  yields_bind hr fun a n ha => yields_pure (h a n ha)

theorem yields_readExact (ending : ε) (n : Nat) :
    Yields (readExact ending n : Reader β ε _) fun _ m => m = n := by
  intro input rest xs hrun
  exact ⟨xs.val, readExact_eq_ok.mp hrun, xs.property⟩

/-! ## Values with a wire form

A format has three independently written functions per type: an encoder that appends
to an output and may fail, a length function, and a reader.  `Coded` says that on one
value they agree about one byte string. -/

/-- `wire` is what `enc` appends for `a`, has the length `len` announces, and is read
    back as `a`. -/
structure Coded {π : Type} (enc : List β → Except π (List β)) (len : Except π Nat)
    (r : Reader β ε α) (a : α) (wire : List β) : Prop where
  encode : ∀ out, enc out = .ok (out ++ wire)
  length : len = .ok wire.length
  reads : Reads r wire a

/-- Encode a list of items one after the other. -/
def encodeAll {π : Type} (enc : α → List β → Except π (List β)) :
    List α → List β → Except π (List β)
  | [], out => .ok out
  | a :: items, out => do
    let out ← enc a out
    encodeAll enc items out

theorem encodeAll_eq {π : Type} {enc : α → List β → Except π (List β)} {wire : α → List β}
    (items : List α) (h : ∀ a ∈ items, ∀ out, enc a out = .ok (out ++ wire a)) (out : List β) :
    encodeAll enc items out = .ok (out ++ items.flatMap wire) := by
  induction items generalizing out with
  | nil => simp [encodeAll]
  | cons a items ih =>
    have htail := ih (fun x hx => h x (List.mem_cons_of_mem _ hx)) (out ++ wire a)
    rw [encodeAll, h a (List.mem_cons_self ..), List.flatMap_cons, ← List.append_assoc, ← htail]
    rfl

/-! ## Reading a whole input as a list of items -/

/-- Read items until the input is exhausted.  `fuel` bounds the number of items;
    `readAll` supplies one per symbol, which a reader that consumes at least one
    symbol per item never uses up. -/
def readItems (r : Reader β ε α) : Nat → List β → Except ε (List α)
  | _, [] => .ok []
  | 0, _ => .ok []
  | fuel + 1, input => do
    let (a, rest) ← r.run input
    let items ← readItems r fuel rest
    return a :: items

/-- Read items until the input is exhausted. -/
def readAll (r : Reader β ε α) (input : List β) : Except ε (List α) :=
  readItems r input.length input

theorem readItems_flatMap {enc : α → List β} (items : List α)
    (hr : ∀ a ∈ items, Reads r (enc a) a) (hne : ∀ a ∈ items, enc a ≠ []) :
    ∀ fuel, (items.flatMap enc).length ≤ fuel →
      readItems r fuel (items.flatMap enc) = .ok items := by
  induction items with
  | nil =>
    intro fuel _
    cases fuel <;> rfl
  | cons a items ih =>
    intro fuel hfuel
    have hpos : 0 < (enc a).length := List.length_pos_iff.mpr (hne a (List.mem_cons_self ..))
    rw [List.flatMap_cons] at hfuel ⊢
    rw [List.length_append] at hfuel
    obtain ⟨n, rfl⟩ : ∃ n, fuel = n + 1 := ⟨fuel - 1, by omega⟩
    have htail := ih (fun x hx => hr x (List.mem_cons_of_mem _ hx))
      (fun x hx => hne x (List.mem_cons_of_mem _ hx)) n (by omega)
    have hhead := hr a (List.mem_cons_self ..) (items.flatMap enc)
    obtain ⟨b, bs, hb⟩ : ∃ b bs, enc a ++ items.flatMap enc = b :: bs := by
      cases h : enc a with
      | nil => rw [h] at hpos; simp at hpos
      | cons b bs => exact ⟨b, bs ++ items.flatMap enc, rfl⟩
    rw [hb] at hhead ⊢
    simp only [readItems, hhead]
    show (readItems r n (items.flatMap enc) >>= fun items => pure (a :: items)) = _
    rw [htail]
    rfl

/-- The concatenated encodings of a list of items read back to that list. -/
theorem readAll_flatMap {enc : α → List β} (items : List α)
    (hr : ∀ a ∈ items, Reads r (enc a) a) (hne : ∀ a ∈ items, enc a ≠ []) :
    readAll r (items.flatMap enc) = .ok items :=
  readItems_flatMap items hr hne _ (Nat.le_refl _)

end StreamCodec
