/-
  Ssh3.Lib.HeadOfLine

  Head-of-line blocking.  One dispatcher takes the items of one input in their order
  and puts each into the bounded buffer of its key.  While that buffer is full the
  dispatcher waits, and everything behind the item waits with it.  Consumers take
  items out of the buffers at any time.

  `handed_eq_iff` says exactly when the items of one key can hold up those of another.
-/

import Mathlib.Data.List.Basic
import Mathlib.Data.List.Count
import Mathlib.Logic.Function.Basic
import Ssh3.Lib.Transition

namespace HeadOfLine

open Transition

variable {κ α : Type} [DecidableEq κ]

/-- A dispatcher in front of bounded buffers -/
structure State (κ α : Type) where
  /-- What the dispatcher has not taken yet -/
  input : List (κ × α)
  buffer : κ → List α
  /-- What the consumers have taken -/
  taken : κ → List α

/-- The dispatcher or a consumer goes on -/
inductive Action (κ : Type) where
  | dispatch
  | take (key : κ)
  deriving DecidableEq

def step (capacity : κ → Nat) (s : State κ α) : Action κ → Option (State κ α)
  | .dispatch =>
    match s.input with
    | [] => none
    | (key, item) :: input =>
      if (s.buffer key).length < capacity key then
        some { s with input, buffer := Function.update s.buffer key (s.buffer key ++ [item]) }
      else
        none
  | .take key =>
    match s.buffer key with
    | [] => none
    | item :: items =>
      some { s with
        buffer := Function.update s.buffer key items
        taken := Function.update s.taken key (s.taken key ++ [item]) }

/-- Everything that has been put into the buffer of a key. -/
def State.handed (s : State κ α) (key : κ) : List α := s.taken key ++ s.buffer key

def itemsFor (key : κ) (input : List (κ × α)) : List α :=
  input.filterMap fun x => if x.1 = key then some x.2 else none

/-- The dispatcher waits, for input or for room, and the consumer of `key` has taken all there
    is for it. -/
def Settled (capacity : κ → Nat) (key : κ) (s : State κ α) : Prop :=
  step capacity s .dispatch = none ∧ s.buffer key = []

/-- Before every item for `b` there are at most `room` items for `a`. -/
def InTime (a b : κ) (room : Nat) (input : List (κ × α)) : Prop :=
  ∀ pre x post, input = pre ++ x :: post → x.1 = b → (itemsFor a pre).length ≤ room

/-! ## The items of a key -/

section Items

variable {a b key : κ} {xs ys : List (κ × α)}

theorem itemsFor_append : itemsFor key (xs ++ ys) = itemsFor key xs ++ itemsFor key ys :=
  List.filterMap_append

theorem itemsFor_cons_self (item : α) :
    itemsFor key ((key, item) :: xs) = item :: itemsFor key xs := by
  rw [itemsFor, List.filterMap_cons, if_pos rfl, itemsFor]

theorem itemsFor_cons_ne (h : a ≠ key) (item : α) :
    itemsFor key ((a, item) :: xs) = itemsFor key xs := by
  rw [itemsFor, List.filterMap_cons, if_neg h, itemsFor]

theorem itemsFor_eq_nil : itemsFor key xs = [] ↔ ∀ x ∈ xs, x.1 ≠ key := by
  simp [itemsFor]

theorem itemsFor_filter_ne (h : a ≠ b) :
    itemsFor b (xs.filter fun x => x.1 ≠ a) = itemsFor b xs := by
  unfold itemsFor
  rw [List.filterMap_filter]
  apply List.filterMap_congr
  intro x _
  by_cases hx : x.1 = a
  · simp [hx, h]
  · simp [hx]

end Items

/-! ## What a step does -/

section Step

variable {capacity : κ → Nat} {s t : State κ α}

theorem step_dispatch : step capacity s .dispatch = some t ↔
    ∃ key item input, s.input = (key, item) :: input ∧
      (s.buffer key).length < capacity key ∧
      t = { s with input, buffer := Function.update s.buffer key (s.buffer key ++ [item]) } := by
  rcases hinput : s.input with _ | ⟨⟨key, item⟩, input⟩
  · simp [step, hinput]
  · by_cases hroom : (s.buffer key).length < capacity key
    · simp [step, hinput, hroom, eq_comm]
    · simp [step, hinput, hroom]

theorem step_take {key : κ} : step capacity s (.take key) = some t ↔
    ∃ item items, s.buffer key = item :: items ∧
      t = { s with
        buffer := Function.update s.buffer key items
        taken := Function.update s.taken key (s.taken key ++ [item]) } := by
  cases hbuffer : s.buffer key with
  | nil => simp [step, hbuffer]
  | cons item items => simp [step, hbuffer, eq_comm]

theorem step_dispatch_eq_none : step capacity s .dispatch = none ↔
    s.input = [] ∨ ∃ key item input, s.input = (key, item) :: input ∧
      capacity key ≤ (s.buffer key).length := by
  rcases hinput : s.input with _ | ⟨⟨key, item⟩, input⟩
  · simp [step, hinput]
  · by_cases hroom : (s.buffer key).length < capacity key
    · simp [step, hinput, hroom]
    · simp [step, hinput, hroom, Nat.not_lt.mp hroom]

theorem handed_update (s : State κ α) (key : κ) (item : α) (input : List (κ × α)) (k : κ) :
    State.handed
        { s with input, buffer := Function.update s.buffer key (s.buffer key ++ [item]) } k =
      s.handed k ++ itemsFor k [(key, item)] := by
  by_cases hk : key = k
  · subst hk
    simp [State.handed, itemsFor]
  · simp [State.handed, itemsFor, hk, Function.update_of_ne (Ne.symm hk)]

theorem handed_take {key : κ} (h : step capacity s (.take key) = some t) (k : κ) :
    t.handed k = s.handed k := by
  obtain ⟨item, items, hbuffer, rfl⟩ := step_take.mp h
  by_cases hk : k = key
  · subst hk
    simp [State.handed, hbuffer]
  · simp [State.handed, Function.update_of_ne hk]

end Step

/-! ## What a run does -/

section Run

variable {capacity : κ → Nat} {s t : State κ α} {as : List (Action κ)}

/-- The dispatcher has gone through `done`, the first part of the input. -/
structure Progress (s : State κ α) (as : List (Action κ)) (t : State κ α)
    (done : List (κ × α)) : Prop where
  input : s.input = done ++ t.input
  handed : ∀ key, t.handed key = s.handed key ++ itemsFor key done
  taken : ∀ key, (t.taken key).length = (s.taken key).length + as.count (.take key)

theorem progress_nil (s : State κ α) : Progress s [] s [] where
  input := rfl
  handed := fun _ => (List.append_nil _).symm
  taken := fun _ => rfl

variable {done : List (κ × α)} {key : κ}

theorem Progress.dispatch {mid : State κ α}
    (hstep : step capacity s .dispatch = some mid) (h : Progress mid as t done) :
    ∃ x, Progress s (.dispatch :: as) t (x :: done) := by
  obtain ⟨key, item, input, hinput, -, rfl⟩ := step_dispatch.mp hstep
  refine ⟨(key, item), ?_, fun k => ?_, fun k => ?_⟩
  · rw [hinput, List.cons_append]
    exact congrArg _ h.input
  · rw [h.handed k, handed_update, List.append_assoc, ← itemsFor_append]
    rfl
  · have hne : Action.dispatch ≠ Action.take k := nofun
    rw [h.taken k, List.count_cons_of_ne hne]

theorem Progress.take {mid : State κ α}
    (hstep : step capacity s (.take key) = some mid) (h : Progress mid as t done) :
    Progress s (.take key :: as) t done := by
  have hhanded := handed_take hstep
  obtain ⟨item, items, hbuffer, rfl⟩ := step_take.mp hstep
  refine ⟨h.input, fun k => ?_, fun k => ?_⟩
  · rw [h.handed k, hhanded k]
  · rw [h.taken k]
    by_cases hk : k = key
    · subst hk
      simp only [Function.update_self, List.length_append, List.length_singleton,
        List.count_cons_self]
      omega
    · have hne : Action.take key ≠ Action.take k := fun heq => hk (Action.take.inj heq).symm
      simp only [Function.update_of_ne hk]
      rw [List.count_cons_of_ne hne]

theorem exists_progress (h : Run (step capacity) anyStep s as t) :
    ∃ done, Progress s as t done := by
  induction h with
  | nil s => exact ⟨[], progress_nil s⟩
  | @cons s mid t a as _ hstep _ ih =>
    obtain ⟨done, hdone⟩ := ih
    cases a with
    | dispatch =>
      obtain ⟨x, hx⟩ := hdone.dispatch hstep
      exact ⟨x :: done, hx⟩
    | take key => exact ⟨done, hdone.take hstep⟩

theorem length_buffer_le (h : Run (step capacity) anyStep s as t)
    (hs : (s.buffer key).length ≤ capacity key) : (t.buffer key).length ≤ capacity key := by
  refine h.invariant (P := fun s => (s.buffer key).length ≤ capacity key) ?_ hs
  intro s a t hs _ hstep
  cases a with
  | dispatch =>
    obtain ⟨k, item, input, -, hroom, rfl⟩ := step_dispatch.mp hstep
    by_cases hk : key = k
    · subst hk
      simp only [Function.update_self, List.length_append, List.length_singleton]
      omega
    · simpa only [Function.update_of_ne hk] using hs
  | take k =>
    obtain ⟨item, items, hbuffer, rfl⟩ := step_take.mp hstep
    by_cases hk : key = k
    · subst hk
      simp only [Function.update_self]
      rw [hbuffer, List.length_cons] at hs
      omega
    · simpa only [Function.update_of_ne hk] using hs

/-- A buffer without any capacity stays as it is. -/
theorem handed_of_capacity_zero (hcapacity : capacity key = 0)
    (h : Run (step capacity) anyStep s as t) : t.handed key = s.handed key := by
  refine h.invariant (P := fun t => t.handed key = s.handed key) ?_ rfl
  intro u a t hu _ hstep
  cases a with
  | dispatch =>
    obtain ⟨k, item, input, -, hroom, rfl⟩ := step_dispatch.mp hstep
    have hk : k ≠ key := by
      rintro rfl
      omega
    rw [handed_update, itemsFor_cons_ne hk, hu]
    exact List.append_nil _
  | take k => rw [handed_take hstep, hu]

/-- As many items for a key have been dispatched as its buffer had room for, and as have been
    taken out of it. -/
theorem Progress.length_itemsFor (h : Progress s as t done) (key : κ) :
    (s.buffer key).length + (itemsFor key done).length =
      (t.buffer key).length + as.count (.take key) := by
  have hlength := congrArg List.length (h.handed key)
  have htaken := h.taken key
  simp only [State.handed, List.length_append] at hlength
  omega

end Run

/-! ## Runs that have settled -/

section Settled

variable {capacity : κ → Nat} {a b : κ} {s t u : State κ α} {as bs : List (Action κ)}

/-- The dispatcher and the consumer of one key get there, whatever the other consumers do. -/
theorem exists_settled (capacity : κ → Nat) (key : κ) (s : State κ α) :
    ∃ as t, (∀ action ∈ as, action = .dispatch ∨ action = .take key) ∧
      Run (step capacity) anyStep s as t ∧ Settled capacity key t := by
  -- each dispatch shortens the input by one item, and lengthens the buffer by at most one
  induction hn : 2 * s.input.length + (s.buffer key).length using Nat.strong_induction_on
    generalizing s with
  | _ n ih =>
    have hcontinue : ∀ (action : Action κ) (mid : State κ α),
        (action = .dispatch ∨ action = .take key) → step capacity s action = some mid →
        2 * mid.input.length + (mid.buffer key).length < n →
        ∃ as t, (∀ action ∈ as, action = .dispatch ∨ action = .take key) ∧
          Run (step capacity) anyStep s as t ∧ Settled capacity key t := by
      intro action mid haction hstep hlt
      obtain ⟨as, t, has, hrun, hsettled⟩ := ih _ hlt mid rfl
      exact ⟨action :: as, t, List.forall_mem_cons.mpr ⟨haction, has⟩,
        .cons trivial hstep hrun, hsettled⟩
    cases hbuffer : s.buffer key with
    | cons item items =>
      refine hcontinue (.take key) _ (.inr rfl) (step_take.mpr ⟨item, items, hbuffer, rfl⟩) ?_
      rw [hbuffer, List.length_cons] at hn
      simp only [Function.update_self]
      omega
    | nil =>
      cases hdispatch : step capacity s .dispatch with
      | none => exact ⟨[], s, nofun, .nil s, hdispatch, hbuffer⟩
      | some mid =>
        refine hcontinue .dispatch mid (.inl rfl) hdispatch ?_
        obtain ⟨k, item, input, hinput, -, rfl⟩ := step_dispatch.mp hdispatch
        rw [hinput, List.length_cons] at hn
        by_cases hk : key = k
        · subst hk
          simp only [Function.update_self, List.length_append, List.length_singleton]
          omega
        · simp only [Function.update_of_ne hk]
          omega

/-- A settled dispatcher that has input left waits for room in another buffer. -/
theorem Settled.blocked (h : Settled capacity b s) (hb : 0 < capacity b) :
    s.input = [] ∨ ∃ key item input, s.input = (key, item) :: input ∧ key ≠ b ∧
      capacity key ≤ (s.buffer key).length := by
  obtain ⟨hstep, hbuffer⟩ := h
  rcases step_dispatch_eq_none.mp hstep with hnil | ⟨key, item, input, hinput, hfull⟩
  · exact .inl hnil
  · refine .inr ⟨key, item, input, hinput, ?_, hfull⟩
    rintro rfl
    rw [hbuffer, List.length_nil] at hfull
    omega

/-- On its own, a key gets all its items. -/
theorem handed_alone (hb : 0 < capacity b) (hkeys : ∀ x ∈ s.input, x.1 = b)
    (h : Run (step capacity) anyStep s as t) (hsettled : Settled capacity b t) :
    t.handed b = s.handed b ++ itemsFor b s.input := by
  obtain ⟨done, hdone⟩ := exists_progress h
  rcases hsettled.blocked hb with hnil | ⟨key, item, input, hinput, hkey, -⟩
  · rw [hdone.handed, hdone.input, hnil, List.append_nil]
  · refine absurd (hkeys (key, item) ?_) hkey
    rw [hdone.input, hinput]
    exact List.mem_append_right _ List.mem_cons_self

/-- Next to another key, nothing for `b` is left behind exactly if its items come in time. -/
theorem no_items_left_iff (hb : 0 < capacity b) (hfits : (s.buffer a).length ≤ capacity a)
    (hkeys : ∀ x ∈ s.input, x.1 = a ∨ x.1 = b) {done : List (κ × α)}
    (h : Run (step capacity) anyStep s as t) (hdone : Progress s as t done)
    (hsettled : Settled capacity b t) :
    itemsFor b t.input = [] ↔
      InTime a b (capacity a - (s.buffer a).length + as.count (.take a)) s.input := by
  have hcount := hdone.length_itemsFor a
  constructor
  · intro hnone pre x post hsplit hx
    -- the item is not among those left, so that what is before it has been dispatched
    have hle := length_buffer_le h hfits
    have hpre : pre <+: done := by
      rw [hdone.input] at hsplit
      rcases List.append_eq_append_iff.mp hsplit with ⟨mid, rfl, hmid⟩ | ⟨mid, rfl, -⟩
      · have hmem : x ∈ t.input := by
          rw [hmid]
          exact List.mem_append_right _ List.mem_cons_self
        exact absurd hx (itemsFor_eq_nil.mp hnone x hmem)
      · exact List.prefix_append pre mid
    obtain ⟨rest, rfl⟩ := hpre
    rw [itemsFor_append, List.length_append] at hcount
    omega
  · intro htime
    rw [itemsFor_eq_nil]
    intro x hx hxb
    -- the dispatcher waits at an item for `a`, with the item for `b` behind it
    rcases hsettled.blocked hb with hnil | ⟨key, item, input, hinput, hkey, hfull⟩
    · rw [hnil] at hx
      cases hx
    · have hmem : (key, item) ∈ s.input := by
        rw [hdone.input, hinput]
        exact List.mem_append_right _ List.mem_cons_self
      obtain rfl : key = a := (hkeys _ hmem).resolve_right hkey
      have hx' : x ∈ input := by
        rw [hinput] at hx
        rcases List.mem_cons.mp hx with rfl | hx
        · exact absurd hxb hkey
        · exact hx
      obtain ⟨before, after, rfl⟩ := List.append_of_mem hx'
      have hbound := htime (done ++ (key, item) :: before) x after
        (by rw [hdone.input, hinput]; simp) hxb
      rw [itemsFor_append, itemsFor_cons_self, List.length_append, List.length_cons] at hbound
      omega

/-- **Head-of-line blocking.**  With the items for `a` and without them, the same is handed to
    `b` exactly if nothing can be handed to `b` at all, or if before each of its items there
    are no more items for `a` than the buffer of `a` had room for and its consumer took. -/
theorem handed_eq_iff (hab : a ≠ b) (hfits : (s.buffer a).length ≤ capacity a)
    (hkeys : ∀ x ∈ s.input, x.1 = a ∨ x.1 = b)
    (ht : Run (step capacity) anyStep s as t) (hsettled : Settled capacity b t)
    (hu : Run (step capacity) anyStep { s with input := s.input.filter fun x => x.1 ≠ a } bs u)
    (hsettled' : Settled capacity b u) :
    t.handed b = u.handed b ↔ capacity b = 0 ∨
      InTime a b (capacity a - (s.buffer a).length + as.count (.take a)) s.input := by
  rcases Nat.eq_zero_or_pos (capacity b) with hzero | hpos
  · have hsame : t.handed b = u.handed b :=
      (handed_of_capacity_zero hzero ht).trans (handed_of_capacity_zero hzero hu).symm
    exact ⟨fun _ => .inl hzero, fun _ => hsame⟩
  · have halone : u.handed b = s.handed b ++ itemsFor b s.input := by
      rw [handed_alone hpos ?_ hu hsettled', itemsFor_filter_ne hab]
      · rfl
      · intro x hx
        obtain ⟨hmem, hne⟩ := List.mem_filter.mp hx
        exact (hkeys x hmem).resolve_left (of_decide_eq_true hne)
    obtain ⟨done, hdone⟩ := exists_progress ht
    calc t.handed b = u.handed b ↔ itemsFor b t.input = [] := by
          rw [halone, hdone.handed, hdone.input, itemsFor_append, ← List.append_assoc]
          simp
      _ ↔ InTime a b (capacity a - (s.buffer a).length + as.count (.take a)) s.input :=
          no_items_left_iff hpos hfits hkeys ht hdone hsettled
      _ ↔ _ := by
          have hne : capacity b ≠ 0 := Nat.ne_of_gt hpos
          simp [hne]

end Settled

end HeadOfLine
