/-
  Ssh3.Lib.Lockstep

  Two computations with states and errors of their own that do the same: started in
  related states, both return the same value and related states, or both fail with
  related errors.

  A program that is written over an interface is in lockstep with itself over any two
  implementations that are; the rules below follow the program.
-/

namespace Lockstep

variable {σ τ ε δ α γ : Type}

/-- The results of two computations agree. -/
inductive SameResult (R : σ → τ → Prop) (E : ε → δ → Prop) :
    Except ε (α × σ) → Except δ (α × τ) → Prop
  | ok {s : σ} {t : τ} (a : α) (h : R s t) : SameResult R E (.ok (a, s)) (.ok (a, t))
  | error {e : ε} {d : δ} (h : E e d) : SameResult R E (.error e) (.error d)

/-- From related states, the two computations give results that agree. -/
def InStep (R : σ → τ → Prop) (E : ε → δ → Prop) (m : StateT σ (Except ε) α)
    (n : StateT τ (Except δ) α) : Prop :=
  ∀ s t, R s t → SameResult R E (m.run s) (n.run t)

variable {R : σ → τ → Prop} {E : ε → δ → Prop}

theorem lockstep_pure (a : α) :
    InStep R E (pure a : StateT σ (Except ε) α) (pure a : StateT τ (Except δ) α) :=
  fun _ _ h => .ok a h

theorem lockstep_throw {e : ε} {d : δ} (h : E e d) :
    InStep R E (throw e : StateT σ (Except ε) α) (throw d : StateT τ (Except δ) α) :=
  fun _ _ _ => .error h

theorem lockstep_bind {m : StateT σ (Except ε) α} {n : StateT τ (Except δ) α}
    {k : α → StateT σ (Except ε) γ} {l : α → StateT τ (Except δ) γ} (hm : InStep R E m n)
    (hk : ∀ a, InStep R E (k a) (l a)) : InStep R E (m >>= k) (n >>= l) := by
  intro s t hst
  rw [StateT.run_bind, StateT.run_bind]
  have hresult := hm s t hst
  generalize m.run s = x at hresult ⊢
  generalize n.run t = y at hresult ⊢
  cases hresult with
  | ok a h => exact hk a _ _ h
  | error h => exact .error h

theorem lockstep_ite {c : Prop} [Decidable c] {m m' : StateT σ (Except ε) α}
    {n n' : StateT τ (Except δ) α} (hpos : InStep R E m n) (hneg : InStep R E m' n') :
    InStep R E (if c then m else m') (if c then n else n') := by
  by_cases hc : c
  · rwa [if_pos hc, if_pos hc]
  · rwa [if_neg hc, if_neg hc]

end Lockstep
