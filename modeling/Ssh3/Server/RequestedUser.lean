/-
  Ssh3.Server.RequestedUser

  The user that the client of one implementation asks the server of the other for.

  `Dial` of the Go client writes the username into the query of its CONNECT URL with
  `url.Values.Encode`.  The Go server reads it back with `URL.Query().Get`, which undoes
  the escapes.  The Rust server cuts the query by hand and keeps them.
-/

import Ssh3.Go.StdLib
import Ssh3.Server.Authorization

namespace Ssh3.Go

open Proto (ascii)

/-- The query of the CONNECT URL in `Dial`: `urlQuery.Encode()` after
    `urlQuery.Set("user", config.Username())` on an empty query. -/
def dialRawQuery (username : List UInt8) : List UInt8 :=
  queryEscape (ascii "user") ++ 61 :: queryEscape username

/-! ## Escapes -/

theorem unreserved_upperhex : ∀ n < 16, unreserved (upperhex n) = true := by decide

theorem unhex_upperhex : ∀ n < 16, unhex (upperhex n) = some (UInt8.ofNat n) := by decide

theorem queryEscape_cons (b : UInt8) (s : List UInt8) :
    queryEscape (b :: s) = escapeByte b ++ queryEscape s := List.flatMap_cons

theorem escapeByte_ne_nil (b : UInt8) : escapeByte b ≠ [] := by
  unfold escapeByte
  split_ifs <;> exact List.cons_ne_nil _ _

theorem length_le_length_queryEscape (s : List UInt8) : s.length ≤ (queryEscape s).length := by
  induction s with
  | nil => exact Nat.le_refl 0
  | cons b s ih =>
    have hb : 0 < (escapeByte b).length := List.length_pos_iff.mpr (escapeByte_ne_nil b)
    rw [queryEscape_cons, List.length_append, List.length_cons]
    omega

/-- What an escaped string is made of. -/
theorem mem_queryEscape {c : UInt8} {s : List UInt8} (h : c ∈ queryEscape s) :
    unreserved c = true ∨ c = 43 ∨ c = 37 := by
  obtain ⟨b, -, hc⟩ := List.mem_flatMap.mp h
  have hsize : b.toNat < 256 := UInt8.toNat_lt b
  unfold escapeByte at hc
  split_ifs at hc with hb hspace
  · rw [List.mem_singleton.mp hc]
    exact .inl hb
  · exact .inr (.inl (List.mem_singleton.mp hc))
  · simp only [List.mem_cons, List.not_mem_nil, or_false] at hc
    obtain rfl | rfl | rfl := hc
    · exact .inr (.inr rfl)
    · exact .inl (unreserved_upperhex _ (by omega))
    · exact .inl (unreserved_upperhex _ (by omega))

/-- The separators of a query are escaped. -/
theorem not_mem_queryEscape {c : UInt8} (hc : unreserved c = false) (hplus : c ≠ 43)
    (hpercent : c ≠ 37) (s : List UInt8) : c ∉ queryEscape s := by
  intro hmem
  obtain h | h | h := mem_queryEscape hmem
  · rw [hc] at h
    cases h
  · exact hplus h
  · exact hpercent h

/-- Only a string without escapes is its own escaped form: an escape is longer than the byte it
    stands for, and a space is the one byte that becomes another one. -/
theorem queryEscape_eq_self_iff (s : List UInt8) :
    queryEscape s = s ↔ ∀ b ∈ s, unreserved b = true := by
  induction s with
  | nil => exact iff_of_true rfl (List.forall_mem_nil _)
  | cons b s ih =>
    have hlength := length_le_length_queryEscape s
    rw [queryEscape_cons, List.forall_mem_cons]
    by_cases hb : unreserved b = true
    · rw [escapeByte, if_pos hb, List.singleton_append, List.cons_inj_right, ih]
      exact (and_iff_right hb).symm
    · have hne : escapeByte b ++ queryEscape s ≠ b :: s := by
        intro heq
        unfold escapeByte at heq
        rw [if_neg hb] at heq
        split_ifs at heq with hspace
        · rw [hspace] at heq
          cases heq
        · have h := congrArg List.length heq
          simp only [List.length_append, List.length_cons, List.length_nil] at h
          omega
      exact iff_of_false hne fun h => hb h.1

/-! ## The Go server undoes them -/

theorem toNat_nibbles (b : UInt8) :
    UInt8.ofNat (b.toNat / 16) * 16 + UInt8.ofNat (b.toNat % 16) = b := by
  apply UInt8.toNat_inj.mp
  have hb : b.toNat < 256 := UInt8.toNat_lt b
  simp only [UInt8.toNat_add, UInt8.toNat_mul, UInt8.toNat_ofNat', UInt8.reduceToNat]
  omega

theorem queryUnescape_escapeByte (b : UInt8) (s : List UInt8) :
    queryUnescape (escapeByte b ++ s) = (queryUnescape s).map (b :: ·) := by
  have hsize : b.toNat < 256 := UInt8.toNat_lt b
  unfold escapeByte
  split_ifs with hb hspace
  · -- a byte that stays is neither `%` nor `+`
    have hpercent : b ≠ 37 := by
      rintro rfl
      exact absurd hb (by decide)
    have hplus : b ≠ 43 := by
      rintro rfl
      exact absurd hb (by decide)
    rw [List.singleton_append, queryUnescape]
    · exact fun _ _ _ h => absurd h hpercent
    · exact hpercent
    · exact hplus
  · rw [hspace]
    rfl
  · show queryUnescape (37 :: upperhex (b.toNat / 16) :: upperhex (b.toNat % 16) :: s) = _
    rw [queryUnescape, unhex_upperhex _ (by omega), unhex_upperhex _ (by omega)]
    cases queryUnescape s with
    | none => rfl
    | some bytes =>
      show some _ = some _
      rw [toNat_nibbles]

theorem queryUnescape_queryEscape (s : List UInt8) : queryUnescape (queryEscape s) = some s := by
  induction s with
  | nil => rfl
  | cons b s ih => rw [queryEscape_cons, queryUnescape_escapeByte, ih, Option.map_some]

/-- The query of `Dial` is a single entry, with the name before the only `=`. -/
theorem splitOn_dialRawQuery (username : List UInt8) :
    (dialRawQuery username).splitOn 38 = [dialRawQuery username] ∧
      Text.cut 61 (dialRawQuery username) = (ascii "user", queryEscape username) := by
  have hname : queryEscape (ascii "user") = ascii "user" := by decide
  constructor
  · apply List.splitOn_eq_singleton
    intro hmem
    rw [dialRawQuery, hname, List.mem_append, List.mem_cons] at hmem
    obtain h | h | h := hmem
    · exact absurd h (by decide)
    · exact absurd h (by decide)
    · exact not_mem_queryEscape (by decide) (by decide) (by decide) _ h
  · rw [Text.cut, dialRawQuery, hname, Text.splitOnce_append (by decide)]
    rfl

/-- `r.URL.Query().Get("user")` of the Go server is the username the Go client was given. -/
theorem queryGet_dialRawQuery (username : List UInt8) :
    queryGet (dialRawQuery username) (ascii "user") = username := by
  obtain ⟨hsplit, hcut⟩ := splitOn_dialRawQuery username
  have hsemicolon : 59 ∉ dialRawQuery username := by
    intro hmem
    rw [dialRawQuery, List.mem_append, List.mem_cons] at hmem
    obtain h | h | h := hmem
    · exact not_mem_queryEscape (by decide) (by decide) (by decide) _ h
    · exact absurd h (by decide)
    · exact not_mem_queryEscape (by decide) (by decide) (by decide) _ h
  have hne : dialRawQuery username ≠ [] :=
    List.append_ne_nil_of_right_ne_nil _ (List.cons_ne_nil _ _)
  have hname : queryUnescape (ascii "user") = some (ascii "user") := by decide
  have hentry : parseQueryEntry (dialRawQuery username) = some (ascii "user", username) := by
    rw [parseQueryEntry, if_neg (not_or.mpr ⟨hsemicolon, hne⟩), hcut, hname,
      queryUnescape_queryEscape]
  rw [queryGet, hsplit, List.filterMap_cons_some hentry, List.filterMap_nil, List.lookup_cons_self]
  rfl

end Ssh3.Go

namespace Ssh3.Server

open Proto (ascii)
open Go (dialRawQuery queryEscape unreserved)

/-! ## The Rust server keeps them -/

theorem requestedUsername_dialRawQuery {request : Request} {username : List UInt8}
    (hname : username ≠ []) (hquery : request.query = some (dialRawQuery username))
    (hheader : request.headers.lookup (ascii "x-ssh3-user") = none) (config : AccessConfig) :
    requestedUsername request config = some (queryEscape username) := by
  obtain ⟨hsplit, hcut⟩ := Go.splitOn_dialRawQuery username
  have hnone : request.header (ascii "x-ssh3-user") = none := by
    rw [Request.header, hheader]
  have hvalue : queryEscape username ≠ [] := by
    have hlength := Go.length_le_length_queryEscape username
    have hpos := List.length_pos_iff.mpr hname
    apply List.length_pos_iff.mp
    omega
  have hparam : extractQueryParam request (ascii "user") = some (queryEscape username) := by
    rw [extractQueryParam, hquery]
    simp only [hsplit, List.findSome?_cons, hcut, true_and]
    rw [if_pos hvalue]
  rw [requestedUsername, hnone, hparam]
  rfl

/-- The Rust server finds the username of the Go client in the query exactly if no byte of it
    has to be escaped. -/
theorem requestedUsername_eq_iff {request : Request} {username : List UInt8}
    (hname : username ≠ []) (hquery : request.query = some (dialRawQuery username))
    (hheader : request.headers.lookup (ascii "x-ssh3-user") = none) (config : AccessConfig) :
    requestedUsername request config = some username ↔ ∀ b ∈ username, unreserved b = true := by
  rw [requestedUsername_dialRawQuery hname hquery hheader config, Option.some_inj]
  exact Go.queryEscape_eq_self_iff username

/-- The CONNECT request of the Go client for this username; it has no user header. -/
def dialRequest (username : List UInt8) : Request where
  method := .connect
  query := some (dialRawQuery username)
  headers := []
  protocol := some (ascii "ssh3")

theorem requestedUsername_eq_iff_alice :
    requestedUsername (dialRequest (ascii "alice")) { defaultUser := none } =
      some (ascii "alice") :=
  (requestedUsername_eq_iff (by decide) rfl rfl _).mpr
    ((Go.queryEscape_eq_self_iff _).mp (by decide))

/-- The account that is then looked up is another one than the Go server looks up. -/
theorem requestedUsername_keeps_escapes :
    requestedUsername (dialRequest (ascii "alice@example.org")) { defaultUser := none } =
        some (ascii "alice%40example.org") ∧
      Go.queryGet (dialRawQuery (ascii "alice@example.org")) (ascii "user") =
        ascii "alice@example.org" := by
  decide

end Ssh3.Server
