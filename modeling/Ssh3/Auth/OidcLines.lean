/-
  Ssh3.Auth.OidcLines

  The OpenID Connect identities that the two servers find in one file.

  Rust trims a line and asks for a first word `oidc`; Go asks for a line that starts with
  `oidc` and counts its words.  They differ on two kinds of lines: one that is indented,
  which only Rust accepts, and one whose first word goes on after `oidc`, which only Go
  accepts.
-/

import Mathlib.Data.List.Basic
import Mathlib.Data.List.TakeWhile
import Ssh3.Lib.Words
import Ssh3.Auth.Identity
import Ssh3.Go.Identities

namespace Ssh3

/-- The client id, the issuer and the email address of an identity. -/
abbrev OidcTriple := List UInt8 × List UInt8 × List UInt8

namespace Auth

def AuthorizedIdentity.oidcTriple : AuthorizedIdentity → Option OidcTriple
  | .publicKey _ => none
  | .oidc identity => some (identity.clientId, identity.issuerUrl, identity.email)

def oidcIdentities (parseAuthorizedKey : List UInt8 → Option PublicKey) (contents : List UInt8) :
    List OidcTriple :=
  (parseAuthorizedIdentities parseAuthorizedKey contents).filterMap (·.oidcTriple)

end Auth

namespace Go

def IdentityVerifier.oidcTriple : IdentityVerifier → Option OidcTriple
  | .oidc identity => some (identity.clientID, identity.issuerURL, identity.email)
  | .plugin _ => none

def oidcIdentities (registry : PluginRegistry) (user : User) (file : OpenFile) :
    List OidcTriple :=
  (parseAuthorizedIdentitiesFile registry user file).1.filterMap (·.oidcTriple)

end Go

open Proto (ascii)

/-! ## One line -/

/-- The first word of a line and the other three, if there are four. -/
def fourWords (line : List UInt8) : Option (List UInt8 × OidcTriple) :=
  match Text.words line with
  | [kind, clientId, issuerUrl, email] => some (kind, clientId, issuerUrl, email)
  | _ => none

/-- A line of four words that only one of the servers takes for an identity: its first word is
    `oidc` but it does not start with it, or it starts with `oidc` and its first word is longer. -/
def OneSided (line : List UInt8) : Prop :=
  ∃ kind triple, fourWords line = some (kind, triple) ∧
    ¬(kind = ascii "oidc" ↔ ascii "oidc" <+: line)

def Auth.lineTriple (line : List UInt8) : Option OidcTriple :=
  (fourWords line).bind fun found => if found.1 = ascii "oidc" then some found.2 else none

def Go.lineTriple (line : List UInt8) : Option OidcTriple :=
  (fourWords line).bind fun found => if ascii "oidc" <+: line then some found.2 else none

theorem lineTriple_eq_iff (line : List UInt8) :
    Auth.lineTriple line = Go.lineTriple line ↔ ¬OneSided line := by
  unfold Auth.lineTriple Go.lineTriple OneSided
  cases hfour : fourWords line with
  | none =>
    refine iff_of_true rfl ?_
    rintro ⟨kind, triple, h, -⟩
    cases h
  | some found =>
    obtain ⟨kind, triple⟩ := found
    have hone : (∃ k t, some (kind, triple) = some (k, t) ∧
        ¬(k = ascii "oidc" ↔ ascii "oidc" <+: line)) ↔
        ¬(kind = ascii "oidc" ↔ ascii "oidc" <+: line) := by
      constructor
      · rintro ⟨k, t, heq, h⟩
        cases heq
        exact h
      · exact fun h => ⟨kind, triple, rfl, h⟩
    rw [hone, not_not]
    show (if kind = ascii "oidc" then some triple else none) =
      (if ascii "oidc" <+: line then some triple else none) ↔ _
    by_cases hkind : kind = ascii "oidc" <;> by_cases hline : ascii "oidc" <+: line <;>
      simp [hkind, hline]

theorem fourWords_trim (line : List UInt8) : fourWords (Text.trim line) = fourWords line := by
  rw [fourWords, fourWords, Text.words_trim]

theorem fourWords_dropCarriageReturn (line : List UInt8) :
    fourWords (Text.dropCarriageReturn line) = fourWords line := by
  rw [fourWords, fourWords, Text.words_dropCarriageReturn]

theorem Auth.lineTriple_nil : Auth.lineTriple [] = none := rfl

theorem Go.lineTriple_nil : Go.lineTriple [] = none := rfl

theorem Auth.lineTriple_dropCarriageReturn (line : List UInt8) :
    Auth.lineTriple (Text.dropCarriageReturn line) = Auth.lineTriple line := by
  rw [Auth.lineTriple, Auth.lineTriple, fourWords_dropCarriageReturn]

theorem Go.lineTriple_dropCarriageReturn (line : List UInt8) :
    Go.lineTriple (Text.dropCarriageReturn line) = Go.lineTriple line := by
  have hstart : ascii "oidc" <+: Text.dropCarriageReturn line ↔ ascii "oidc" <+: line := by
    obtain h | h := Text.dropCarriageReturn_cases line
    · rw [← h]
    · conv_rhs => rw [h]
      rw [List.prefix_concat_iff]
      -- the carriage return is not one of the four bytes
      have hne : ascii "oidc" ≠ Text.dropCarriageReturn line ++ [13] := by
        intro heq
        have hlast := congrArg List.getLast? heq
        rw [List.getLast?_concat] at hlast
        exact absurd hlast (by decide)
      exact (or_iff_right hne).symm
  simp only [Go.lineTriple, fourWords_dropCarriageReturn, hstart]

/-- A comment is never an identity of Rust's: its first word starts with `#`. -/
theorem Auth.lineTriple_of_trim {line : List UInt8}
    (h : Text.trim line = [] ∨ (Text.trim line).head? = some 35) : Auth.lineTriple line = none := by
  rw [Auth.lineTriple, ← fourWords_trim]
  obtain h | h := h
  · rw [h]
    rfl
  · obtain ⟨rest, hrest⟩ := List.head?_eq_some_iff.mp h
    have hspace : Text.stripSpace (35 :: rest) = none := rfl
    obtain ⟨word, more, hwords⟩ := Text.words_cons_of_none hspace
    rw [hrest, fourWords, hwords]
    split
    next kind _ _ _ heq =>
      cases heq
      rfl
    next => rfl

theorem Auth.parseOidcIdentity_eq (line : List UInt8) :
    (Auth.parseOidcIdentity line).map (fun identity =>
      (identity.clientId, identity.issuerUrl, identity.email)) = Auth.lineTriple line := by
  rw [Auth.parseOidcIdentity, Auth.lineTriple, fourWords]
  obtain _ | ⟨kind, _ | ⟨clientId, _ | ⟨issuerUrl, _ | ⟨email, _ | ⟨_, _⟩⟩⟩⟩⟩ := Text.words line
  case cons.cons.cons.cons.nil =>
    show Option.map _ (if kind = ascii "oidc" then _ else _) =
      if kind = ascii "oidc" then some (clientId, issuerUrl, email) else none
    split_ifs <;> rfl
  all_goals rfl

theorem Auth.parseIdentityLine_oidcTriple (parseAuthorizedKey : List UInt8 → Option PublicKey)
    (line : List UInt8) :
    (Auth.parseIdentityLine parseAuthorizedKey line).bind (·.oidcTriple) =
      Auth.lineTriple line := by
  have htrim : Auth.lineTriple line = Auth.lineTriple (Text.trim line) := by
    rw [Auth.lineTriple, Auth.lineTriple, fourWords_trim]
  rw [Auth.parseIdentityLine]
  split_ifs with hskip
  · exact (Auth.lineTriple_of_trim hskip).symm
  · rw [htrim, ← Auth.parseOidcIdentity_eq]
    cases Auth.parseOidcIdentity (Text.trim line) with
    | some identity => rfl
    | none => cases parseAuthorizedKey (Text.trim line) <;> rfl

/-- The verifiers of the plugins are none of these identities. -/
theorem Go.filterMap_plugin (verifiers : List Go.RequestIdentityVerifier) :
    (verifiers.map Go.IdentityVerifier.plugin).filterMap (·.oidcTriple) = [] := by
  rw [List.filterMap_map, List.filterMap_eq_nil_iff]
  exact fun _ _ => rfl

theorem Go.lineTriple_of_not_prefix {line : List UInt8} (h : ¬ascii "oidc" <+: line) :
    Go.lineTriple line = none := by
  rw [Go.lineTriple, Option.bind_eq_none_iff]
  exact fun _ _ => if_neg h

theorem Go.parseIdentityLine_oidcTriple (plugins : List Go.ServerAuthPlugin) (user : Go.User)
    (line : List UInt8) :
    (Go.parseIdentityLine plugins user line).filterMap (·.oidcTriple) =
      (Go.lineTriple line).toList := by
  rw [Go.parseIdentityLine]
  split_ifs with hblank hcomment
  · rw [Go.lineTriple, ← fourWords_trim, hblank]
    rfl
  · have hstart : ¬ascii "oidc" <+: line := by
      rintro ⟨rest, rfl⟩
      have hhead : (ascii "oidc" ++ rest).head? = some 111 := rfl
      rw [hhead] at hcomment
      exact absurd hcomment (by decide)
    rw [Go.lineTriple_of_not_prefix hstart]
    rfl
  · by_cases hstart : ascii "oidc" <+: line
    · simp only [Go.parseIdentity, Go.lineTriple, fourWords, if_pos hstart]
      obtain _ | ⟨kind, _ | ⟨clientId, _ | ⟨issuerUrl, _ | ⟨email, _ | ⟨_, _⟩⟩⟩⟩⟩ :=
        Text.words line
      case cons.cons.cons.cons.nil =>
        show List.filterMap _ (_ ++ [Go.IdentityVerifier.oidc _]) = _
        rw [List.filterMap_append, Go.filterMap_plugin]
        rfl
      all_goals rfl
    · rw [Go.lineTriple_of_not_prefix hstart, Go.parseIdentity, if_neg hstart]
      split_ifs
      · rfl
      · exact Go.filterMap_plugin _

/-! ## A file -/

theorem Auth.oidcIdentities_eq (parseAuthorizedKey : List UInt8 → Option PublicKey)
    (contents : List UInt8) :
    Auth.oidcIdentities parseAuthorizedKey contents =
      (contents.splitOn 10).filterMap Auth.lineTriple := by
  have hline : (fun line => (Auth.parseIdentityLine parseAuthorizedKey line).bind (·.oidcTriple)) =
      Auth.lineTriple := funext (Auth.parseIdentityLine_oidcTriple parseAuthorizedKey)
  rw [Auth.oidcIdentities, Auth.parseAuthorizedIdentities, List.filterMap_filterMap, hline]
  exact Text.filterMap_lines Auth.lineTriple_dropCarriageReturn Auth.lineTriple_nil contents

theorem Go.parseLines_oidcTriple (registry : Go.PluginRegistry) (user : Go.User)
    (lines : List (List UInt8)) :
    (Go.parseLines registry user lines).filterMap (·.oidcTriple) =
      lines.filterMap Go.lineTriple := by
  rw [Go.parseLines, List.filterMap_flatMap]
  simp only [Go.parseIdentityLine_oidcTriple]
  -- the number of a line chooses its plugins only
  have hfst : lines.zipIdx.flatMap (fun entry => (Go.lineTriple entry.1).toList) =
      (lines.zipIdx.map Prod.fst).flatMap (fun line => (Go.lineTriple line).toList) := by
    rw [List.flatMap_map]
  rw [hfst, List.zipIdx_map_fst, List.filterMap_eq_flatMap_toList]

/-- With no line that is too long for it, the scanner returns all of them. -/
theorem Go.filterMap_scanLines {β : Type} {f : List UInt8 → Option β} (hnil : f [] = none)
    (hreturn : ∀ line, f (Text.dropCarriageReturn line) = f line) {contents : List UInt8}
    (hshort : ∀ line ∈ contents.splitOn 10, line.length < Go.maxScanTokenSize) :
    (Go.scanLines contents).1.filterMap f = (contents.splitOn 10).filterMap f := by
  obtain ⟨init, last, hpieces⟩ :=
    (List.eq_nil_or_concat' (contents.splitOn 10)).resolve_left (List.splitOn_ne_nil 10 contents)
  rw [hpieces] at hshort
  have hall : ((init ++ if last = [] then [] else [last]).takeWhile fun line =>
      line.length < Go.maxScanTokenSize) = init ++ if last = [] then [] else [last] := by
    rw [List.takeWhile_eq_self_iff]
    intro line hmem
    apply decide_eq_true
    apply hshort line
    split_ifs at hmem
    · rw [List.append_nil] at hmem
      exact List.mem_append_left _ hmem
    · exact hmem
  rw [Go.scanLines_of_splitOn hpieces, hall, Text.filterMap_dropCarriageReturn hreturn, hpieces,
    List.filterMap_append, List.filterMap_append]
  split_ifs with hlast
  · rw [hlast, List.filterMap_cons_none hnil]
  · rfl

theorem Go.oidcIdentities_eq (registry : Go.PluginRegistry) (user : Go.User) {file : Go.OpenFile}
    (hshort : ∀ line ∈ file.contents.splitOn 10, line.length < Go.maxScanTokenSize) :
    Go.oidcIdentities registry user file =
      (file.contents.splitOn 10).filterMap Go.lineTriple := by
  rw [← Go.filterMap_scanLines Go.lineTriple_nil Go.lineTriple_dropCarriageReturn hshort]
  exact Go.parseLines_oidcTriple registry user _

/-- The files made of some of the lines of a file give the two servers the same identities
    exactly if none of its lines is one-sided.  Two one-sided lines can hide each other in the
    file itself, but not in the files that have only one of them. -/
theorem oidcIdentities_agree_iff (parseAuthorizedKey : List UInt8 → Option Auth.PublicKey)
    (registry : Go.PluginRegistry) (user : Go.User) (readError closeError : Option Go.FileError)
    {contents : List UInt8}
    (hshort : ∀ line ∈ contents.splitOn 10, line.length < Go.maxScanTokenSize) :
    (∀ chosen, chosen.Sublist (contents.splitOn 10) →
      Auth.oidcIdentities parseAuthorizedKey ([10].intercalate chosen) =
        Go.oidcIdentities registry user ⟨[10].intercalate chosen, readError, closeError⟩) ↔
      ∀ line ∈ contents.splitOn 10, ¬OneSided line := by
  have hsplit : ∀ chosen : List (List UInt8), chosen ≠ [] →
      chosen.Sublist (contents.splitOn 10) → ([10].intercalate chosen).splitOn 10 = chosen := by
    intro chosen hne hsub
    apply List.splitOn_intercalate 10 _ hne
    exact fun line hmem => Text.not_mem_of_mem_splitOn (hsub.subset hmem)
  have hfile : ∀ chosen : List (List UInt8), chosen ≠ [] →
      chosen.Sublist (contents.splitOn 10) →
      (Auth.oidcIdentities parseAuthorizedKey ([10].intercalate chosen) =
        Go.oidcIdentities registry user ⟨[10].intercalate chosen, readError, closeError⟩ ↔
        chosen.filterMap Auth.lineTriple = chosen.filterMap Go.lineTriple) := by
    intro chosen hne hsub
    have heq := hsplit chosen hne hsub
    rw [Auth.oidcIdentities_eq, Go.oidcIdentities_eq registry user, heq]
    show ∀ line ∈ ([10].intercalate chosen).splitOn 10, _
    rw [heq]
    exact fun line hmem => hshort line (hsub.subset hmem)
  constructor
  · intro hagree line hmem
    have hsub : [line].Sublist (contents.splitOn 10) := List.singleton_sublist.mpr hmem
    have h := (hfile [line] (List.cons_ne_nil _ _) hsub).mp (hagree [line] hsub)
    rw [List.filterMap_eq_flatMap_toList, List.filterMap_eq_flatMap_toList,
      List.flatMap_singleton, List.flatMap_singleton] at h
    have htriple := congrArg List.head? h
    rw [Option.head?_toList, Option.head?_toList] at htriple
    exact (lineTriple_eq_iff line).mp htriple
  · intro hlines chosen hsub
    by_cases hne : chosen = []
    · rw [hne]
      rfl
    · rw [hfile chosen hne hsub]
      apply List.filterMap_congr
      intro line hmem
      exact (lineTriple_eq_iff line).mpr (hlines line (hsub.subset hmem))

/-- A file with a comment and an identity, for servers without plugins. -/
theorem oidcIdentities_agree_alice :
    Auth.oidcIdentities (fun _ => none)
        ([10].intercalate [ascii "# admins", ascii "oidc app https://idp alice@example.org"]) =
      Go.oidcIdentities (fun _ => []) ⟨ascii "root", ascii "/root"⟩
        ⟨[10].intercalate [ascii "# admins", ascii "oidc app https://idp alice@example.org"],
          none, none⟩ := by
  have hsplit : (ascii "# admins\noidc app https://idp alice@example.org").splitOn 10 =
      [ascii "# admins", ascii "oidc app https://idp alice@example.org"] := by
    decide
  have hshort : ∀ line ∈ (ascii "# admins\noidc app https://idp alice@example.org").splitOn 10,
      line.length < Go.maxScanTokenSize := by
    rw [hsplit]
    decide
  refine (oidcIdentities_agree_iff _ _ _ _ _ hshort).mpr ?_ _ ?_
  · rw [hsplit, List.forall_mem_cons, List.forall_mem_singleton]
    exact ⟨(lineTriple_eq_iff _).mp (by decide), (lineTriple_eq_iff _).mp (by decide)⟩
  · rw [hsplit]

/-- An indented line lets the user in on the Rust server only, and a longer first word on the Go
    server only. -/
theorem oidcIdentities_differ :
    Auth.oidcIdentities (fun _ => none) (ascii " oidc app https://idp alice@example.org\n") =
        [(ascii "app", ascii "https://idp", ascii "alice@example.org")] ∧
      Go.oidcIdentities (fun _ => []) ⟨ascii "root", ascii "/root"⟩
        ⟨ascii " oidc app https://idp alice@example.org\n", none, none⟩ = [] ∧
      Auth.oidcIdentities (fun _ => none) (ascii "oidc2 app https://idp bob@example.org\n") = [] ∧
      Go.oidcIdentities (fun _ => []) ⟨ascii "root", ascii "/root"⟩
          ⟨ascii "oidc2 app https://idp bob@example.org\n", none, none⟩ =
        [(ascii "app", ascii "https://idp", ascii "bob@example.org")] := by
  decide +kernel

end Ssh3
