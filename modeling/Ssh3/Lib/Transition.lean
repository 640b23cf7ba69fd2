/-
  Ssh3.Lib.Transition

  Runs of a labelled transition system whose steps may be restricted by a
  guard: a condition on the state before a step and on the action taken.

  `step s a = none` means that the action `a` is not enabled in `s`.  A system
  of several tasks is one whose actions say which task moves, so that its runs
  are the interleavings of the tasks.
-/

import Mathlib.Tactic.Ring

namespace Transition

variable {σ ι : Type} (step : σ → ι → Option σ) (guard : σ → ι → Prop)

/-- `Run step guard s as t`: taking the actions `as` from `s` leads to `t`, and every step
    met the guard. -/
inductive Run : σ → List ι → σ → Prop
  | nil (s : σ) : Run s [] s
  | cons {s t u : σ} {a : ι} {as : List ι} :
      guard s a → step s a = some t → Run t as u → Run s (a :: as) u

/-- The guard that allows every step. -/
def anyStep : σ → ι → Prop := fun _ _ => True

instance : ∀ (s : σ) (a : ι), Decidable (anyStep s a) := fun _ _ => inferInstanceAs (Decidable True)

variable {step guard}

theorem Run.append {s t u : σ} {as bs : List ι} (h : Run step guard s as t)
    (h' : Run step guard t bs u) : Run step guard s (as ++ bs) u := by
  induction h with
  | nil s => exact h'
  | cons hguard hstep _ ih => exact .cons hguard hstep (ih h')

/-- **Invariant rule.**  What every guarded step preserves holds at the end of every
    guarded run from a state where it holds. -/
theorem Run.invariant {P : σ → Prop}
    (hstep : ∀ s a t, P s → guard s a → step s a = some t → P t)
    {s t : σ} {as : List ι} (h : Run step guard s as t) (hs : P s) : P t := by
  induction h with
  | nil s => exact hs
  | cons hguard hnext _ ih => exact ih (hstep _ _ _ hs hguard hnext)

/-- **History rule.**  A relation between the actions taken so far and the state that every
    guarded step keeps holds after every guarded run. -/
theorem Run.history {P : List ι → σ → Prop}
    (hstep : ∀ before s a t, P before s → guard s a → step s a = some t → P (before ++ [a]) t)
    {before as : List ι} {s t : σ} (h : Run step guard s as t) (hs : P before s) :
    P (before ++ as) t := by
  induction h generalizing before with
  | nil s => rwa [List.append_nil]
  | cons hguard hnext _ ih =>
    have hrest := ih (hstep _ _ _ _ hs hguard hnext)
    rwa [List.append_assoc, List.singleton_append] at hrest

/-- What the actions of a history say, each by itself, after one more action -/
theorem mem_filterMap_concat {β : Type} {f : ι → Option β} {before : List ι} {a : ι} {b : β} :
    b ∈ (before ++ [a]).filterMap f ↔ b ∈ before.filterMap f ∨ f a = some b := by
  rw [List.filterMap_append, List.mem_append]
  simp

/-- **Variant rule.**  A measure that every guarded step lowers, where the invariant holds,
    bounds the length of every guarded run. -/
theorem Run.length_le {P : σ → Prop} {m : σ → Nat}
    (hinv : ∀ s a t, P s → guard s a → step s a = some t → P t)
    (hlower : ∀ s a t, P s → guard s a → step s a = some t → m t < m s)
    {s t : σ} {as : List ι} (h : Run step guard s as t) (hs : P s) :
    as.length + m t ≤ m s := by
  induction h with
  | nil s => simp
  | cons hguard hstep _ ih =>
    have hrest := ih (hinv _ _ _ hs hguard hstep)
    have hfirst := hlower _ _ _ hs hguard hstep
    rw [List.length_cons]
    omega

theorem Run.mono {guard' : σ → ι → Prop} (hguard : ∀ s a, guard s a → guard' s a)
    {s t : σ} {as : List ι} (h : Run step guard s as t) : Run step guard' s as t := by
  induction h with
  | nil s => exact .nil s
  | cons hg hstep _ ih => exact .cons (hguard _ _ hg) hstep ih

/-- **Log rule.**  Let every step from a state of the invariant extend the log by entries that
    are all good exactly when the guard holds of the step.  Then the log of a run has only
    good entries exactly when the run is a guarded one. -/
theorem Run.log_iff {β : Type} (log : σ → List β) (good : β → Prop) {inv : σ → Prop}
    (hinv : ∀ s a t, inv s → step s a = some t → inv t)
    (hlog : ∀ s a t, inv s → step s a = some t →
      ∃ new, log t = log s ++ new ∧ ((∀ x ∈ new, good x) ↔ guard s a))
    {s t : σ} {as : List ι} (h : Run step anyStep s as t) (hs : inv s) :
    (∀ x ∈ log t, good x) ↔ (∀ x ∈ log s, good x) ∧ Run step guard s as t := by
  induction h with
  | nil s => exact ⟨fun hgood => ⟨hgood, .nil s⟩, fun h => h.1⟩
  | cons _ hstep _ ih =>
    obtain ⟨new, hnew, hguard⟩ := hlog _ _ _ hs hstep
    rw [ih (hinv _ _ _ hs hstep), hnew]
    constructor
    · rintro ⟨hgood, hrest⟩
      have hfirst := hguard.mp fun x hx => hgood x (List.mem_append_right _ hx)
      exact ⟨fun x hx => hgood x (List.mem_append_left _ hx), .cons hfirst hstep hrest⟩
    · rintro ⟨hgood, hrun⟩
      cases hrun with
      | cons hfirst hstep' hrest =>
        rw [hstep] at hstep'
        cases hstep'
        refine ⟨fun x hx => ?_, hrest⟩
        rcases List.mem_append.mp hx with hold | hnew
        · exact hgood x hold
        · exact hguard.mpr hfirst x hnew

section Simulation

variable {τ : Type} {step' : τ → ι → Option τ} {f : σ → τ} {inv : σ → Prop}

/-- **Simulation rule.**  Let `f` take the steps from the states of an invariant to the steps
    of another system, and take disabled actions to disabled ones.  Then it takes runs to
    runs. -/
theorem Run.simulate (hstep : ∀ s a, inv s → (step s a).map f = step' (f s) a)
    (hinv : ∀ s a t, inv s → step s a = some t → inv t)
    {s t : σ} {as : List ι} (h : Run step anyStep s as t) (hs : inv s) :
    Run step' anyStep (f s) as (f t) := by
  induction h with
  | nil s => exact .nil (f s)
  | @cons s t u a as _ hnext _ ih =>
    have hsame := hstep s a hs
    rw [hnext] at hsame
    exact .cons trivial hsame.symm (ih (hinv _ _ _ hs hnext))

/-- Conversely, every run of the other system comes from one of this system. -/
theorem Run.lift (hstep : ∀ s a, inv s → (step s a).map f = step' (f s) a)
    (hinv : ∀ s a t, inv s → step s a = some t → inv t)
    {s : σ} {u : τ} {as : List ι} (h : Run step' anyStep (f s) as u) (hs : inv s) :
    ∃ t, Run step anyStep s as t ∧ f t = u := by
  induction as generalizing s with
  | nil =>
    cases h
    exact ⟨s, .nil s, rfl⟩
  | cons a as ih =>
    cases h with
    | cons _ hnext hrest =>
      rw [← hstep s a hs] at hnext
      obtain ⟨t, ht, rfl⟩ := Option.map_eq_some_iff.mp hnext
      obtain ⟨u', hrun, hu'⟩ := ih hrest (hinv _ _ _ hs ht)
      exact ⟨u', .cons trivial ht hrun, hu'⟩

end Simulation

/-- Take the actions one after the other, as long as they are enabled and allowed. -/
def exec (step : σ → ι → Option σ) (guard : σ → ι → Prop) [∀ s a, Decidable (guard s a)] :
    σ → List ι → Option σ
  | s, [] => some s
  | s, a :: as => if guard s a then (step s a).bind fun t => exec step guard t as else none

theorem run_of_exec [∀ s a, Decidable (guard s a)] {s t : σ} {as : List ι}
    (h : exec step guard s as = some t) : Run step guard s as t := by
  induction as generalizing s with
  | nil =>
    rw [exec, Option.some.injEq] at h
    subst h
    exact .nil s
  | cons a as ih =>
    rw [exec] at h
    by_cases hguard : guard s a
    · rw [if_pos hguard] at h
      obtain ⟨t', hstep, hrest⟩ := Option.bind_eq_some_iff.mp h
      exact .cons hguard hstep (ih hrest)
    · rw [if_neg hguard] at h
      cases h

end Transition
