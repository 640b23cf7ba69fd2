/-
  Ssh3.Lib.Words

  White space as a set of characters, and the words that stand between them.

  The bytes of a string need not be those of characters.  Since a white space character
  starts with a byte that no other one of them continues with, the words are found at the
  same places from either end.
-/

import Mathlib.Data.List.Basic
import Ssh3.Lib.Text

namespace Text

/-! ## White space characters -/

/-- The bytes of one white space character. -/
def IsSpaceChar : List UInt8 → Prop
  | [b] => 9 ≤ b ∧ b ≤ 13 ∨ b = 32
  | [a, b] => a = 0xC2 ∧ (b = 0x85 ∨ b = 0xA0)
  | [a, b, c] =>
    a = 0xE1 ∧ b = 0x9A ∧ c = 0x80 ∨
    a = 0xE2 ∧ b = 0x80 ∧ (0x80 ≤ c ∧ c ≤ 0x8A ∨ c = 0xA8 ∨ c = 0xA9 ∨ c = 0xAF) ∨
    a = 0xE2 ∧ b = 0x81 ∧ c = 0x9F ∨
    a = 0xE3 ∧ b = 0x80 ∧ c = 0x80
  | _ => False

/-- A byte that a character does not start with. -/
def Continuation (b : UInt8) : Prop := 0x80 ≤ b ∧ b < 0xC0

instance (b : UInt8) : Decidable (Continuation b) := inferInstanceAs (Decidable (_ ∧ _))

theorem isSpaceChar_space : IsSpaceChar [32] := .inr rfl

variable {b : UInt8} {bytes rest c after word : List UInt8}

theorem stripSpace_cons_of_ascii (hb : b < 0x80) (rest : List UInt8) :
    stripSpace (b :: rest) = if 9 ≤ b ∧ b ≤ 13 ∨ b = 32 then some rest else none := by
  have hC2 : b ≠ 0xC2 := by rintro rfl; exact absurd hb (by decide)
  have hE1 : b ≠ 0xE1 := by rintro rfl; exact absurd hb (by decide)
  have hE2 : b ≠ 0xE2 := by rintro rfl; exact absurd hb (by decide)
  have hE3 : b ≠ 0xE3 := by rintro rfl; exact absurd hb (by decide)
  rw [stripSpace]
  all_goals intros; simp_all

theorem stripSpace_eq_some_iff :
    stripSpace bytes = some rest ↔ ∃ c, IsSpaceChar c ∧ bytes = c ++ rest := by
  constructor
  · intro h
    unfold stripSpace at h
    split at h
    · split_ifs at h with hb
      cases h
      exact ⟨[0xC2, _], ⟨rfl, hb⟩, rfl⟩
    · cases h
      exact ⟨[0xE1, 0x9A, 0x80], .inl ⟨rfl, rfl, rfl⟩, rfl⟩
    · split_ifs at h with hb
      cases h
      exact ⟨[0xE2, 0x80, _], .inr (.inl ⟨rfl, rfl, hb⟩), rfl⟩
    · cases h
      exact ⟨[0xE2, 0x81, 0x9F], .inr (.inr (.inl ⟨rfl, rfl, rfl⟩)), rfl⟩
    · cases h
      exact ⟨[0xE3, 0x80, 0x80], .inr (.inr (.inr ⟨rfl, rfl, rfl⟩)), rfl⟩
    · split_ifs at h with hb
      cases h
      exact ⟨[_], hb, rfl⟩
    · cases h
  · rintro ⟨c, hc, rfl⟩
    match c, hc with
    | [b], hc =>
      have hb : 9 ≤ b ∧ b ≤ 13 ∨ b = 32 := hc
      have hascii : b < 0x80 := by
        obtain ⟨-, h13⟩ | rfl := hb
        · exact UInt8.lt_of_le_of_lt h13 (by decide)
        · decide
      rw [List.singleton_append, stripSpace_cons_of_ascii hascii, if_pos hb]
    | [_, b], ⟨rfl, hb⟩ => exact if_pos hb
    | [_, _, _], .inl ⟨rfl, rfl, rfl⟩ => rfl
    | [_, _, c], .inr (.inl ⟨rfl, rfl, hc⟩) => exact if_pos hc
    | [_, _, _], .inr (.inr (.inl ⟨rfl, rfl, rfl⟩)) => rfl
    | [_, _, _], .inr (.inr (.inr ⟨rfl, rfl, rfl⟩)) => rfl

theorem stripSpaceBack_eq_some (h : stripSpaceBack bytes = some rest) :
    ∃ c, IsSpaceChar c ∧ bytes = c.reverse ++ rest := by
  unfold stripSpaceBack at h
  split at h
  · cases h
    exact ⟨[0xC2, 0x85], ⟨rfl, .inl rfl⟩, rfl⟩
  · cases h
    exact ⟨[0xC2, 0xA0], ⟨rfl, .inr rfl⟩, rfl⟩
  · cases h
    exact ⟨[0xE1, 0x9A, 0x80], .inl ⟨rfl, rfl, rfl⟩, rfl⟩
  · cases h
    exact ⟨[0xE2, 0x81, 0x9F], .inr (.inr (.inl ⟨rfl, rfl, rfl⟩)), rfl⟩
  · cases h
    exact ⟨[0xE3, 0x80, 0x80], .inr (.inr (.inr ⟨rfl, rfl, rfl⟩)), rfl⟩
  · split_ifs at h with hb hb
    · cases h
      exact ⟨[0xE2, 0x80, _], .inr (.inl ⟨rfl, rfl, hb⟩), rfl⟩
    · cases h
      exact ⟨[_], hb, rfl⟩
  · split_ifs at h with hb
    cases h
    exact ⟨[_], hb, rfl⟩
  · cases h

/-- A white space character starts with a byte that no character continues with, and goes on
    with ones that do. -/
theorem IsSpaceChar.cons (h : IsSpaceChar c) :
    ∃ b more, c = b :: more ∧ ¬Continuation b ∧ ∀ x ∈ more, Continuation x := by
  have htwo : ∀ {x y : UInt8}, Continuation x → Continuation y → ∀ z ∈ [x, y], Continuation z :=
    fun hx hy => List.forall_mem_cons.mpr ⟨hx, List.forall_mem_singleton.mpr hy⟩
  match c, h with
  | [b], h =>
    have hb : ¬Continuation b := by
      rintro ⟨hle, -⟩
      obtain ⟨-, h13⟩ | rfl := h
      · exact absurd (UInt8.le_trans hle h13) (by decide)
      · exact absurd hle (by decide)
    exact ⟨b, [], rfl, hb, List.forall_mem_nil _⟩
  | [_, b], ⟨rfl, h⟩ =>
    have hb : Continuation b := by
      obtain rfl | rfl := h <;> decide
    exact ⟨_, _, rfl, by decide, List.forall_mem_singleton.mpr hb⟩
  | [_, _, _], .inl ⟨rfl, rfl, rfl⟩ =>
    exact ⟨_, _, rfl, by decide, htwo (by decide) (by decide)⟩
  | [_, _, c], .inr (.inl ⟨rfl, rfl, h⟩) =>
    have hc : Continuation c := by
      obtain ⟨hle, hle'⟩ | rfl | rfl | rfl := h
      · exact ⟨hle, UInt8.lt_of_le_of_lt hle' (by decide)⟩
      all_goals decide
    exact ⟨_, _, rfl, by decide, htwo (by decide) hc⟩
  | [_, _, _], .inr (.inr (.inl ⟨rfl, rfl, rfl⟩)) =>
    exact ⟨_, _, rfl, by decide, htwo (by decide) (by decide)⟩
  | [_, _, _], .inr (.inr (.inr ⟨rfl, rfl, rfl⟩)) =>
    exact ⟨_, _, rfl, by decide, htwo (by decide) (by decide)⟩

theorem stripSpace_append_of_some (h : stripSpace bytes = some rest)
    (after : List UInt8) : stripSpace (bytes ++ after) = some (rest ++ after) := by
  obtain ⟨c, hc, rfl⟩ := stripSpace_eq_some_iff.mp h
  exact stripSpace_eq_some_iff.mpr ⟨c, hc, List.append_assoc c rest after⟩

/-- A string that does not start with white space does not come to do so by what is appended,
    unless that could complete a character. -/
theorem stripSpace_append_of_none (hne : bytes ≠ [])
    (h : stripSpace bytes = none) (hafter : ∀ b ∈ after.head?, ¬Continuation b) :
    stripSpace (bytes ++ after) = none := by
  rw [Option.eq_none_iff_forall_not_mem]
  intro rest hrest
  obtain ⟨c, hc, heq⟩ := stripSpace_eq_some_iff.mp hrest
  obtain ⟨more, rfl, hmore⟩ | ⟨more, rfl, -⟩ := List.append_eq_append_iff.mp heq
  · -- the character goes on in `after`
    cases more with
    | nil =>
      rw [List.append_nil] at hc
      have hsome : stripSpace bytes = some [] :=
        stripSpace_eq_some_iff.mpr ⟨bytes, hc, (List.append_nil bytes).symm⟩
      rw [h] at hsome
      cases hsome
    | cons b more =>
      obtain ⟨first, tail, hfirst, -, htail⟩ := hc.cons
      have hmem : b ∈ tail := by
        cases bytes with
        | nil => exact absurd rfl hne
        | cons x xs =>
          rw [List.cons_append] at hfirst
          rw [← (List.cons.inj hfirst).2]
          exact List.mem_append_right _ List.mem_cons_self
      rw [hmore] at hafter
      exact hafter b rfl (htail b hmem)
  · have hsome : stripSpace (c ++ more) = some more := stripSpace_eq_some_iff.mpr ⟨c, hc, rfl⟩
    rw [h] at hsome
    cases hsome

theorem IsSpaceChar.head (hc : IsSpaceChar c) (after : List UInt8) :
    ∀ b ∈ (c ++ after).head?, ¬Continuation b := by
  obtain ⟨b, more, rfl, hb, -⟩ := hc.cons
  intro x hx
  cases hx
  exact hb

/-! ## Words -/

/-- The words of a string after the bytes `piece` of a word, which are given backwards. -/
def wordsAfter (piece bytes : List UInt8) : List (List UInt8) :=
  (splitSpaces piece bytes.length bytes).filter (· ≠ [])

theorem splitSpaces_bound (piece bytes : List UInt8) {bound : Nat} (h : bytes.length ≤ bound) :
    splitSpaces piece bound bytes = splitSpaces piece bytes.length bytes := by
  induction bound using Nat.strongRecOn generalizing piece bytes with
  | ind bound ih =>
    match bound, bytes, h with
    | 0, [], _ => rfl
    | bound + 1, [], _ => rfl
    | bound + 1, b :: rest, h =>
      rw [List.length_cons] at h ⊢
      rw [splitSpaces, splitSpaces]
      cases hstrip : stripSpace (b :: rest) with
      | none => exact ih bound (Nat.lt_succ_self _) _ _ (by omega)
      | some after =>
        obtain ⟨c, hc, heq⟩ := stripSpace_eq_some_iff.mp hstrip
        obtain ⟨first, more, rfl, -, -⟩ := hc.cons
        have hlength := congrArg List.length heq
        rw [List.length_append, List.length_cons, List.length_cons] at hlength
        show _ :: splitSpaces [] bound after = _ :: splitSpaces [] rest.length after
        rw [ih bound (Nat.lt_succ_self _) _ _ (by omega),
          ih rest.length (by omega) _ _ (by omega)]

theorem filter_piece {piece : List UInt8} (h : piece ≠ []) :
    [piece.reverse].filter (· ≠ []) = [piece.reverse] := by
  simp [h]

theorem wordsAfter_nil (piece : List UInt8) :
    wordsAfter piece [] = [piece.reverse].filter (· ≠ []) := rfl

theorem wordsAfter_space (piece : List UInt8) (hc : IsSpaceChar c) (rest : List UInt8) :
    wordsAfter piece (c ++ rest) = [piece.reverse].filter (· ≠ []) ++ words rest := by
  have hstrip : stripSpace (c ++ rest) = some rest := stripSpace_eq_some_iff.mpr ⟨c, hc, rfl⟩
  obtain ⟨b, more, rfl, -, -⟩ := hc.cons
  have hlength : rest.length ≤ (more ++ rest).length := by
    rw [List.length_append]
    omega
  rw [List.cons_append] at hstrip ⊢
  rw [wordsAfter, List.length_cons, splitSpaces, hstrip]
  show List.filter _ (_ :: splitSpaces [] _ rest) = _
  rw [splitSpaces_bound [] rest hlength, ← List.singleton_append, List.filter_append]
  rfl

theorem wordsAfter_other (piece : List UInt8) (h : stripSpace (b :: rest) = none) :
    wordsAfter piece (b :: rest) = wordsAfter (b :: piece) rest := by
  rw [wordsAfter, List.length_cons, splitSpaces, h]
  rfl

/-- Induction over a string as the words of it are found. -/
theorem spaces_induction {motive : List UInt8 → Prop} (nil : motive [])
    (space : ∀ c rest, IsSpaceChar c → motive rest → motive (c ++ rest))
    (other : ∀ b rest, stripSpace (b :: rest) = none → motive rest → motive (b :: rest))
    (bytes : List UInt8) : motive bytes := by
  induction hn : bytes.length using Nat.strongRecOn generalizing bytes with
  | ind n ih =>
    cases bytes with
    | nil => exact nil
    | cons b rest =>
      rw [List.length_cons] at hn
      cases hstrip : stripSpace (b :: rest) with
      | none => exact other b rest hstrip (ih rest.length (by omega) rest rfl)
      | some after =>
        obtain ⟨c, hc, heq⟩ := stripSpace_eq_some_iff.mp hstrip
        rw [heq]
        obtain ⟨first, more, rfl, -, -⟩ := hc.cons
        have hlength := congrArg List.length heq
        rw [List.length_append, List.length_cons, List.length_cons] at hlength
        exact space _ after hc (ih after.length (by omega) after rfl)

theorem wordsAfter_append_space (hc : IsSpaceChar c) (piece bytes : List UInt8) :
    wordsAfter piece (bytes ++ c) = wordsAfter piece bytes := by
  induction bytes using spaces_induction generalizing piece with
  | nil =>
    have h := wordsAfter_space piece hc []
    rw [List.append_nil] at h
    exact h.trans (List.append_nil _)
  | space c' rest hc' ih =>
    have h := ih []
    rw [List.append_assoc, wordsAfter_space piece hc', wordsAfter_space piece hc']
    exact congrArg (_ ++ ·) h
  | other b rest hb ih =>
    have hhead := hc.head []
    rw [List.append_nil] at hhead
    have hnone : stripSpace (b :: (rest ++ c)) = none :=
      stripSpace_append_of_none (List.cons_ne_nil b rest) hb hhead
    rw [wordsAfter_other piece hb, List.cons_append, wordsAfter_other piece hnone]
    exact ih _

/-- White space around a string does not change its words. -/
theorem words_trim (bytes : List UInt8) : words (trim bytes) = words bytes := by
  have hstart : ∀ bound rest, words (stripAll stripSpace bound rest) = words rest := by
    intro bound
    induction bound with
    | zero => exact fun _ => rfl
    | succ bound ih =>
      intro rest
      rw [stripAll]
      cases hstrip : stripSpace rest with
      | none => rfl
      | some after =>
        obtain ⟨c, hc, rfl⟩ := stripSpace_eq_some_iff.mp hstrip
        exact (ih after).trans (wordsAfter_space [] hc after).symm
  have hend : ∀ bound rest,
      words (stripAll stripSpaceBack bound rest).reverse = words rest.reverse := by
    intro bound
    induction bound with
    | zero => exact fun _ => rfl
    | succ bound ih =>
      intro rest
      rw [stripAll]
      cases hstrip : stripSpaceBack rest with
      | none => rfl
      | some after =>
        obtain ⟨c, hc, rfl⟩ := stripSpaceBack_eq_some hstrip
        rw [List.reverse_append, List.reverse_reverse]
        exact (ih after).trans (wordsAfter_append_space hc [] after.reverse).symm
  rw [trim, trimEnd, hend, List.reverse_reverse, trimStart, hstart]

/-- A string that does not start with white space starts with its first word. -/
theorem words_cons_of_none (h : stripSpace (b :: rest) = none) :
    ∃ word more, words (b :: rest) = (b :: word) :: more := by
  have hpiece : ∀ bytes piece : List UInt8, piece ≠ [] →
      ∃ word more, wordsAfter piece bytes = (piece.reverse ++ word) :: more := by
    intro bytes
    induction bytes using spaces_induction with
    | nil =>
      intro piece hne
      refine ⟨[], [], ?_⟩
      rw [wordsAfter_nil, List.append_nil, filter_piece hne]
    | space c rest hc _ =>
      intro piece hne
      refine ⟨[], words rest, ?_⟩
      rw [wordsAfter_space piece hc, List.append_nil, filter_piece hne]
      rfl
    | other x rest hx ih =>
      intro piece _
      obtain ⟨word, more, heq⟩ := ih (x :: piece) (List.cons_ne_nil _ _)
      refine ⟨x :: word, more, ?_⟩
      rw [wordsAfter_other piece hx, heq, List.reverse_cons, List.append_assoc]
      rfl
  obtain ⟨word, more, heq⟩ := hpiece rest [b] (List.cons_ne_nil _ _)
  exact ⟨word, more, (wordsAfter_other [] h).trans heq⟩

/-! ## Strings without white space -/

/-- No white space character stands anywhere in the string. -/
def Spaceless (bytes : List UInt8) : Prop := ∀ rest, rest <:+ bytes → stripSpace rest = none

theorem Spaceless.of_suffix (h : Spaceless bytes)
    (hafter : after <:+ bytes) : Spaceless after := fun rest hrest => h rest (hrest.trans hafter)

theorem Spaceless.tail (h : Spaceless (b :: bytes)) :
    Spaceless bytes := h.of_suffix (List.suffix_cons b bytes)

theorem spaceless_nil : Spaceless [] := by
  intro rest hrest
  rw [List.suffix_nil.mp hrest]
  rfl

theorem spaceless_append_iff (hafter : ∀ b ∈ after.head?, ¬Continuation b) :
    Spaceless (bytes ++ after) ↔ Spaceless bytes ∧ Spaceless after := by
  constructor
  · intro h
    refine ⟨?_, h.of_suffix (List.suffix_append bytes after)⟩
    rintro rest ⟨before, rfl⟩
    have hnone := h (rest ++ after) ⟨before, by rw [List.append_assoc]⟩
    rw [Option.eq_none_iff_forall_not_mem]
    intro stripped hsome
    rw [stripSpace_append_of_some hsome after] at hnone
    cases hnone
  · rintro ⟨hbytes, hrest⟩ suffix ⟨before, heq⟩
    obtain ⟨middle, rfl, rfl⟩ | ⟨middle, rfl, rfl⟩ := List.append_eq_append_iff.mp heq
    · by_cases hmiddle : middle = []
      · rw [hmiddle, List.nil_append]
        exact hrest after (List.suffix_refl _)
      · apply stripSpace_append_of_none hmiddle _ hafter
        exact hbytes middle (List.suffix_append before middle)
    · exact hrest suffix (List.suffix_append middle suffix)

/-- An ASCII byte that is not white space -/
def isPlain (b : UInt8) : Bool := decide (b < 0x80) && !decide (9 ≤ b ∧ b ≤ 13 ∨ b = 32)

theorem stripSpace_of_isPlain (h : isPlain b = true) (rest : List UInt8) :
    stripSpace (b :: rest) = none := by
  rw [isPlain, Bool.and_eq_true, Bool.not_eq_true', decide_eq_true_eq,
    decide_eq_false_iff_not] at h
  rw [stripSpace_cons_of_ascii h.1, if_neg h.2]

theorem spaceless_plain_append {before : List UInt8} (h : ∀ b ∈ before, isPlain b = true)
    (hafter : Spaceless after) : Spaceless (before ++ after) := by
  induction before with
  | nil => exact hafter
  | cons b before ih =>
    obtain ⟨hb, hbefore⟩ := List.forall_mem_cons.mp h
    intro rest hrest
    obtain rfl | hrest := List.suffix_cons_iff.mp hrest
    · exact stripSpace_of_isPlain hb _
    · exact ih hbefore rest hrest

theorem spaceless_of_plain (h : ∀ b ∈ bytes, isPlain b = true) : Spaceless bytes := by
  rw [← List.append_nil bytes]
  exact spaceless_plain_append h spaceless_nil

theorem stripAll_of_none {strip : List UInt8 → Option (List UInt8)}
    (h : strip bytes = none) (bound : Nat) : stripAll strip bound bytes = bytes := by
  cases bound with
  | zero => rfl
  | succ bound => rw [stripAll, h]

theorem trim_spaceless (h : Spaceless bytes) : trim bytes = bytes := by
  have hback : stripSpaceBack bytes.reverse = none := by
    cases hstrip : stripSpaceBack bytes.reverse with
    | none => rfl
    | some rest =>
      -- a space at the end would be one in the string
      obtain ⟨c, hc, heq⟩ := stripSpaceBack_eq_some hstrip
      have hsuffix : c <:+ bytes := by
        refine ⟨rest.reverse, ?_⟩
        rw [← List.reverse_inj, heq, List.reverse_append, List.reverse_reverse]
      have hsome : stripSpace c = some [] :=
        stripSpace_eq_some_iff.mpr ⟨c, hc, (List.append_nil c).symm⟩
      rw [h c hsuffix] at hsome
      cases hsome
  rw [trim, trimStart, stripAll_of_none (h bytes (List.suffix_refl _)), trimEnd,
    stripAll_of_none hback, List.reverse_reverse]

theorem Spaceless.lineFeed_not_mem (h : Spaceless bytes) : 10 ∉ bytes := by
  intro hmem
  obtain ⟨before, after, rfl⟩ := List.append_of_mem hmem
  have hnone := h (10 :: after) (List.suffix_append before _)
  cases hnone

theorem wordsAfter_spaceless (h : Spaceless word) (hc : IsSpaceChar c) (piece rest : List UInt8) :
    wordsAfter piece (word ++ (c ++ rest)) =
      [piece.reverse ++ word].filter (· ≠ []) ++ words rest := by
  induction word generalizing piece with
  | nil => rw [List.nil_append, List.append_nil, wordsAfter_space piece hc]
  | cons b word ih =>
    have hb : stripSpace (b :: word ++ (c ++ rest)) = none :=
      stripSpace_append_of_none (List.cons_ne_nil _ _) (h _ (List.suffix_refl _)) (hc.head rest)
    rw [List.cons_append] at hb ⊢
    rw [wordsAfter_other piece hb, ih h.tail, List.reverse_cons, List.append_assoc]
    rfl

/-- A word in front of white space -/
theorem words_spaceless_append (hne : word ≠ []) (h : Spaceless word)
    (hc : IsSpaceChar c) (rest : List UInt8) :
    words (word ++ (c ++ rest)) = word :: words rest := by
  refine (wordsAfter_spaceless h hc [] rest).trans ?_
  simp [hne]

theorem words_spaceless (hne : word ≠ []) (h : Spaceless word) : words word = [word] := by
  have hspace := words_spaceless_append hne h isSpaceChar_space []
  rw [List.append_nil] at hspace
  exact (wordsAfter_append_space isSpaceChar_space [] word).symm.trans hspace

/-- The words have no white space in them if none starts within the bytes read so far. -/
theorem spaceless_of_mem_wordsAfter {piece : List UInt8}
    (hnone : ∀ rest, rest <:+ piece.reverse → rest ≠ [] → stripSpace (rest ++ bytes) = none)
    (hmem : word ∈ wordsAfter piece bytes) : Spaceless word := by
  induction bytes using spaces_induction generalizing piece with
  | nil =>
    rw [wordsAfter_nil, List.mem_filter, List.mem_singleton] at hmem
    intro rest hrest
    rw [hmem.1] at hrest
    by_cases hne : rest = []
    · rw [hne]
      rfl
    · have hstrip := hnone rest hrest hne
      rwa [List.append_nil] at hstrip
  | space c after hc ih =>
    rw [wordsAfter_space piece hc, List.mem_append, List.mem_filter, List.mem_singleton] at hmem
    obtain ⟨rfl, -⟩ | hmem := hmem
    · intro rest hrest
      by_cases hne : rest = []
      · rw [hne]
        rfl
      · rw [Option.eq_none_iff_forall_not_mem]
        intro stripped hsome
        have hstrip := hnone rest hrest hne
        rw [stripSpace_append_of_some hsome] at hstrip
        cases hstrip
    · refine ih ?_ hmem
      intro rest hrest hne
      exact absurd (List.suffix_nil.mp hrest) hne
  | other b after hb ih =>
    rw [wordsAfter_other piece hb] at hmem
    refine ih ?_ hmem
    intro rest hrest hne
    rw [List.reverse_cons, List.suffix_concat_iff] at hrest
    obtain rfl | ⟨before, rfl, hbefore⟩ := hrest
    · exact absurd rfl hne
    · rw [List.append_assoc, List.singleton_append]
      by_cases hnil : before = []
      · rw [hnil]
        exact hb
      · exact hnone before hbefore hnil

theorem ne_nil_of_mem_words (h : word ∈ words bytes) : word ≠ [] :=
  of_decide_eq_true (List.mem_filter.mp h).2

theorem spaceless_of_mem_words (h : word ∈ words bytes) : Spaceless word := by
  refine spaceless_of_mem_wordsAfter ?_ h
  intro rest hrest hne
  exact absurd (List.suffix_nil.mp hrest) hne

/-! ## Lines -/

theorem dropCarriageReturn_cases (line : List UInt8) :
    line = dropCarriageReturn line ∨ line = dropCarriageReturn line ++ [13] := by
  unfold dropCarriageReturn
  split_ifs with h
  · obtain ⟨init, rfl⟩ := List.getLast?_eq_some_iff.mp h
    exact .inr (by rw [List.dropLast_concat])
  · exact .inl rfl

theorem words_dropCarriageReturn (line : List UInt8) :
    words (dropCarriageReturn line) = words line := by
  obtain h | h := dropCarriageReturn_cases line
  · rw [← h]
  · have hreturn : IsSpaceChar [13] := .inl (by decide)
    conv_rhs => rw [h]
    exact (wordsAfter_append_space hreturn [] _).symm

section

variable {β : Type} {f : List UInt8 → Option β}
  (hreturn : ∀ line, f (dropCarriageReturn line) = f line)

include hreturn

theorem filterMap_dropCarriageReturn (lines : List (List UInt8)) :
    (lines.map dropCarriageReturn).filterMap f = lines.filterMap f := by
  have hcomp : f ∘ dropCarriageReturn = f := funext hreturn
  rw [List.filterMap_map, hcomp]

/-- What the lines give to a function that a carriage return at the end of a line makes no
    difference to. -/
theorem filterMap_lines (hnil : f [] = none) (bytes : List UInt8) :
    (lines bytes).filterMap f = (bytes.splitOn 10).filterMap f := by
  obtain ⟨init, last, hpieces⟩ :=
    (List.eq_nil_or_concat' (bytes.splitOn 10)).resolve_left (List.splitOn_ne_nil 10 bytes)
  have hlines : lines bytes =
      init.map dropCarriageReturn ++ (if last = [] then [] else [last]) := by
    rw [lines, hpieces, List.dropLast_concat, List.getLast?_concat]
    rfl
  rw [hlines, hpieces, List.filterMap_append, List.filterMap_append,
    filterMap_dropCarriageReturn hreturn]
  split_ifs with hlast
  · rw [hlast, List.filterMap_cons_none hnil]
  · rfl

end

end Text
