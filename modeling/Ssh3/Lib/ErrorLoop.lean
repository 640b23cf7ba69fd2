/-
  Ssh3.Lib.ErrorLoop

  A loop that handles one item after the other and ends with the first error,
  compared with handling every item on its own.

  `select` picks out of the results the part an observer is interested in, so
  that two loops may differ for one observer and agree for another.
-/

import Mathlib.Tactic.Ring

namespace ErrorLoop

variable {ι ε ο β : Type}

/-- The results before the first error, and that error; `ending` is the error with which the
    source of the items itself ends. -/
def run (handle : ι → Except ε ο) (ending : ε) : List ι → List ο × ε
  | [] => ([], ending)
  | x :: xs =>
    match handle x with
    | .ok o => (o :: (run handle ending xs).1, (run handle ending xs).2)
    | .error err => ([], err)

/-- What the observer gets from one item, handled on its own. -/
def yield (handle : ι → Except ε ο) (select : ο → Option β) (x : ι) : Option β :=
  match handle x with
  | .ok o => select o
  | .error _ => none

def Fatal (handle : ι → Except ε ο) (x : ι) : Prop := ∃ err, handle x = .error err

/-- Nothing the observer would get comes after an item that ends the loop. -/
def Unaffected (handle : ι → Except ε ο) (select : ο → Option β) (xs : List ι) : Prop :=
  ∀ pre x post, xs = pre ++ x :: post → Fatal handle x → ∀ y ∈ post, yield handle select y = none

/-- The outputs are those of the items that have one, in the order of the items. -/
inductive Picks (R : ι → β → Prop) : List ι → List β → Prop
  | nil : Picks R [] []
  | take {x : ι} {b : β} {xs : List ι} {bs : List β} (h : R x b) (hrest : Picks R xs bs) :
      Picks R (x :: xs) (b :: bs)
  | skip {x : ι} {xs : List ι} {bs : List β} (h : ∀ b, ¬R x b) (hrest : Picks R xs bs) :
      Picks R (x :: xs) bs

section

variable {handle : ι → Except ε ο} {select : ο → Option β} {ending : ε}

theorem yield_of_fatal {x : ι} (h : Fatal handle x) : yield handle select x = none := by
  obtain ⟨err, herr⟩ := h
  rw [yield, herr]

theorem unaffected_cons_of_fatal {x : ι} {xs : List ι} (h : Fatal handle x) :
    Unaffected handle select (x :: xs) ↔ ∀ y ∈ xs, yield handle select y = none := by
  constructor
  · intro hun
    exact hun [] x xs rfl h
  · intro hnone pre z post heq _ y hy
    apply hnone
    -- every item of `post` stands behind the first one
    cases pre with
    | nil =>
      cases heq
      exact hy
    | cons p pre =>
      cases heq
      exact List.mem_append_right _ (List.mem_cons_of_mem _ hy)

theorem unaffected_cons_of_ok {x : ι} {xs : List ι} {o : ο} (h : handle x = .ok o) :
    Unaffected handle select (x :: xs) ↔ Unaffected handle select xs := by
  constructor
  · intro hun pre z post heq
    exact hun (x :: pre) z post (by rw [heq, List.cons_append])
  · intro hun pre z post heq hfatal
    cases pre with
    | nil =>
      cases heq
      obtain ⟨err, herr⟩ := hfatal
      cases h.symm.trans herr
    | cons p pre =>
      cases heq
      exact hun pre z post rfl hfatal

/-- **Error rule.**  The observer gets from the loop what it would get from every item on its
    own exactly if nothing it would get comes after an item that ends the loop. -/
theorem run_filterMap_eq_iff (xs : List ι) :
    (run handle ending xs).1.filterMap select = xs.filterMap (yield handle select) ↔
      Unaffected handle select xs := by
  -- on the items: an error ends the loop, everything else passes on
  induction xs with
  | nil =>
    constructor
    · intro _ pre x post heq
      cases pre <;> cases heq
    · intro _
      rfl
  | cons x xs ih =>
    cases hx : handle x with
    | error err =>
      have hfatal : Fatal handle x := ⟨err, hx⟩
      rw [unaffected_cons_of_fatal hfatal, List.filterMap_cons, yield_of_fatal hfatal, run, hx]
      -- the loop is over, so nothing that follows may yield anything
      show [] = xs.filterMap (yield handle select) ↔ _
      rw [eq_comm, List.filterMap_eq_nil_iff]
    | ok o =>
      have hyield : yield handle select x = select o := by rw [yield, hx]
      rw [unaffected_cons_of_ok hx, ← ih, run, hx, List.filterMap_cons, List.filterMap_cons, hyield]
      cases select o with
      | none => exact Iff.rfl
      | some b =>
        show b :: _ = b :: _ ↔ _
        rw [List.cons.injEq, and_iff_right rfl]

/-- The same, against the loop over the items that pass a filter; what does not pass yields
    nothing, and what ends the loop does not pass. -/
theorem run_filter_eq_iff {p : ι → Bool} (hyield : ∀ x, p x = false → yield handle select x = none)
    (hfatal : ∀ x, Fatal handle x → p x = false) (xs : List ι) :
    (run handle ending xs).1.filterMap select =
        (run handle ending (xs.filter p)).1.filterMap select ↔ Unaffected handle select xs := by
  -- the filtered loop meets no error at all
  have hfiltered : Unaffected handle select (xs.filter p) := by
    intro pre x post heq hx
    have hmem : x ∈ xs.filter p := by
      rw [heq]
      exact List.mem_append_right _ List.mem_cons_self
    cases (hfatal x hx).symm.trans (List.mem_filter.mp hmem).2
  have hsame : (xs.filter p).filterMap (yield handle select) =
      xs.filterMap (yield handle select) := by
    rw [List.filterMap_filter]
    congr 1
    funext x
    cases hp : p x with
    | true => rfl
    | false => exact (hyield x hp).symm
  rw [(run_filterMap_eq_iff _).mpr hfiltered, hsame, run_filterMap_eq_iff]

/-- A relation that a function decides picks what the function maps to. -/
theorem picks_iff_eq_filterMap {R : ι → β → Prop} {f : ι → Option β}
    (hf : ∀ x b, f x = some b ↔ R x b) (xs : List ι) (bs : List β) :
    Picks R xs bs ↔ bs = xs.filterMap f := by
  constructor
  · intro hpicks
    induction hpicks with
    | nil => rfl
    | take h _ ih => rw [List.filterMap_cons, (hf _ _).mpr h, ih]
    | skip h _ ih =>
      have hnone : f _ = none := Option.eq_none_iff_forall_ne_some.mpr fun b hb =>
        h b ((hf _ b).mp hb)
      rw [List.filterMap_cons, hnone, ih]
  · rintro rfl
    induction xs with
    | nil => exact .nil
    | cons x xs ih =>
      rw [List.filterMap_cons]
      cases hx : f x with
      | none =>
        refine .skip (fun b hb => ?_) ih
        cases hx.symm.trans ((hf x b).mpr hb)
      | some b => exact .take ((hf x b).mp hx) ih

/-- The error rule, against a description of what an item gives the observer. -/
theorem picks_run_iff {R : ι → β → Prop} (hyield : ∀ x b, yield handle select x = some b ↔ R x b)
    (xs : List ι) :
    Picks R xs ((run handle ending xs).1.filterMap select) ↔ Unaffected handle select xs := by
  rw [picks_iff_eq_filterMap hyield, run_filterMap_eq_iff]

end

end ErrorLoop
