/-
  Ssh3.Go.KnownHostsSpec

  When the file of known hosts says what was appended to it.

  The hosts that are read back are words, so a host with white space in it is never read
  back; and the scanner gives up at a line of 64 KiB.  Without these two the file is read
  back as it was written.
-/

import Ssh3.Go.KnownHosts
import Ssh3.Go.StdLibSpec

namespace Ssh3.Go

open Proto (ascii)
open Text (Spaceless)

/-! ## Strings without white space -/

theorem isPlain_of_mem_encode {bytes : List UInt8} {b : UInt8}
    (h : b ∈ stdEncoding.encode bytes) : Text.isPlain b = true := by
  have hsymbol : ∀ v < 64, Text.isPlain (stdEncoding.alphabet.symbol v) = true := by decide
  obtain ⟨v, hv, rfl⟩ | rfl := Base64.Engine.eq_symbol_or_pad_of_mem_encode h
  · exact hsymbol v hv
  · decide

theorem Config.spaceless_iff (o : Config) :
    Spaceless o.CanonicalHostFormat ↔ Spaceless o.hostname ∧ Spaceless o.urlPath := by
  have hcolon : ∀ b ∈ (58 :: (formatInt o.port ++ o.urlPath)).head?, ¬Text.Continuation b := by
    intro b hb
    cases hb
    decide
  have hslash : ∀ b ∈ o.urlPath.head?, ¬Text.Continuation b := by
    intro b hb
    rw [o.rooted] at hb
    cases hb
    decide
  have hport : Spaceless (58 :: formatInt o.port) := by
    apply Text.spaceless_of_plain
    intro b hb
    obtain rfl | hb := List.mem_cons.mp hb
    · decide
    · exact isPlain_of_mem_formatInt hb
  have hrest : Spaceless (58 :: (formatInt o.port ++ o.urlPath)) ↔ Spaceless o.urlPath := by
    rw [← List.cons_append, Text.spaceless_append_iff hslash]
    exact and_iff_right hport
  rw [Config.CanonicalHostFormat, Text.spaceless_append_iff hcolon, hrest]

theorem Config.canonicalHostFormat_ne_nil (o : Config) : o.CanonicalHostFormat ≠ [] :=
  List.append_ne_nil_of_right_ne_nil _ (List.cons_ne_nil _ _)

/-! ## One line -/

section

variable {Certificate : Type} (x509 : X509 Certificate)

theorem X509.encode_ne_nil (cert : Certificate) : stdEncoding.encode (x509.raw cert) ≠ [] := by
  intro hnil
  have hraw : x509.raw cert = [] := stdEncoding.encode_injective hnil
  have hparse := x509.parse_raw cert
  rw [hraw, x509.parse_nil] at hparse
  cases hparse

theorem stdDecodeString_encode (bytes : List UInt8) :
    stdDecodeString (stdEncoding.encode bytes) = some bytes := by
  have hkeep : (stdEncoding.encode bytes).filter (fun b => b ≠ 10 ∧ b ≠ 13) =
      stdEncoding.encode bytes := by
    rw [List.filter_eq_self]
    intro b hb
    have hplain := isPlain_of_mem_encode hb
    apply decide_eq_true
    constructor
    · rintro rfl
      exact absurd hplain (by decide)
    · rintro rfl
      exact absurd hplain (by decide)
  rw [stdDecodeString, hkeep]
  exact stdEncoding.decode_encode bytes

variable {host : List UInt8}

theorem words_knownHostLine (hne : host ≠ []) (hhost : Spaceless host) (cert : Certificate) :
    Text.words (knownHostLine x509 host cert) =
      [host, ascii "x509-certificate", stdEncoding.encode (x509.raw cert)] := by
  have hkind : Spaceless (ascii "x509-certificate") :=
    Text.spaceless_of_plain (List.all_eq_true.mp (by decide))
  have hencoded : Spaceless (stdEncoding.encode (x509.raw cert)) :=
    Text.spaceless_of_plain fun b hb => isPlain_of_mem_encode hb
  have hline : knownHostLine x509 host cert = host ++ ([32] ++ (ascii "x509-certificate" ++
      ([32] ++ stdEncoding.encode (x509.raw cert)))) := by
    rw [knownHostLine, List.append_assoc]
    rfl
  rw [hline, Text.words_spaceless_append hne hhost Text.isSpaceChar_space,
    Text.words_spaceless_append (by decide) hkind Text.isSpaceChar_space,
    Text.words_spaceless (x509.encode_ne_nil cert) hencoded]

theorem parseKnownHost_dropCarriageReturn (line : List UInt8) :
    parseKnownHost x509 (Text.dropCarriageReturn line) = parseKnownHost x509 line := by
  rw [parseKnownHost, parseKnownHost, Text.words_trim, Text.words_trim,
    Text.words_dropCarriageReturn]

/-- A line is read back if its host has no white space in it. -/
theorem parseKnownHost_line (hne : host ≠ []) (hhost : Spaceless host) (cert : Certificate) :
    parseKnownHost x509 (knownHostLine x509 host cert) = some (host, cert) := by
  rw [parseKnownHost, Text.words_trim, words_knownHostLine x509 hne hhost]
  simp only [ne_eq, not_true_eq_false, if_false, stdDecodeString_encode, x509.parse_raw,
    Option.map_some]

/-- The hosts that are read back are words. -/
theorem spaceless_of_parseKnownHost {line : List UInt8} {cert : Certificate}
    (h : parseKnownHost x509 line = some (host, cert)) : Spaceless host := by
  unfold parseKnownHost at h
  split at h
  next first kind encoded hwords =>
    have hfirst : Spaceless first := by
      apply Text.spaceless_of_mem_words
      rw [hwords]
      exact List.mem_cons_self
    split_ifs at h
    cases hbytes : stdDecodeString encoded with
    | none =>
      rw [hbytes] at h
      cases h
    | some certBytes =>
      rw [hbytes] at h
      obtain ⟨found, -, heq⟩ := Option.map_eq_some_iff.mp h
      cases heq
      exact hfirst
  next => cases h

theorem lineFeed_not_mem_knownHostLine (hhost : Spaceless host)
    (cert : Certificate) : 10 ∉ knownHostLine x509 host cert := by
  intro hmem
  rw [knownHostLine, List.mem_append, List.mem_append] at hmem
  obtain (hmem | hmem) | hmem := hmem
  · exact hhost.lineFeed_not_mem hmem
  · exact absurd hmem (by decide)
  · exact absurd (isPlain_of_mem_encode hmem) (by decide)

end

/-! ## The lines of the file -/

/-- The scanner returns a line, unless it is too long and ends the scan. -/
theorem scanLines_append {line : List UInt8} (h : 10 ∉ line) (rest : List UInt8) :
    (scanLines (line ++ 10 :: rest)).1 =
      if line.length < maxScanTokenSize then
        Text.dropCarriageReturn line :: (scanLines rest).1
      else [] := by
  obtain ⟨init, last, hrest⟩ :=
    (List.eq_nil_or_concat' (rest.splitOn 10)).resolve_left (List.splitOn_ne_nil 10 rest)
  have hall : (line ++ 10 :: rest).splitOn 10 = (line :: init) ++ [last] := by
    rw [List.splitOn_append_cons_self_of_not_mem h, hrest]
    rfl
  rw [scanLines_of_splitOn hall, scanLines_of_splitOn hrest, List.cons_append]
  simp only [List.takeWhile_cons, decide_eq_true_eq]
  by_cases hfits : line.length < maxScanTokenSize
  · rw [if_pos hfits, if_pos hfits, List.map_cons]
  · rw [if_neg hfits, if_neg hfits, List.map_nil]

section

variable {Certificate : Type} (x509 : X509 Certificate)

/-- The line of an entry -/
def entryLine (entry : Config × Certificate) : List UInt8 :=
  knownHostLine x509 entry.1.CanonicalHostFormat entry.2

/-- The entry can be read back. -/
structure Storable (entry : Config × Certificate) : Prop where
  hostname : Spaceless entry.1.hostname
  urlPath : Spaceless entry.1.urlPath
  fits : (entryLine x509 entry).length < maxScanTokenSize

theorem appendKnownHosts_eq (entries : List (Config × Certificate)) :
    (appendKnownHosts x509 entries).getD [] =
      entries.flatMap fun entry => entryLine x509 entry ++ [10] := by
  have hfrom : ∀ file : Option (List UInt8),
      (entries.foldl (fun file entry =>
        AppendKnownHost x509 file entry.1.CanonicalHostFormat entry.2) file).getD [] =
      file.getD [] ++ entries.flatMap fun entry => entryLine x509 entry ++ [10] := by
    induction entries with
    | nil => exact fun file => (List.append_nil _).symm
    | cons entry entries ih =>
      intro file
      rw [List.foldl_cons, ih, List.flatMap_cons, ← List.append_assoc]
      rfl
  exact (hfrom none).trans (List.nil_append _)

theorem ParseKnownHosts_eq (file : Option (List UInt8)) :
    ParseKnownHosts x509 file =
      parseKnownHostsLoop x509 0 (scanLines (file.getD [])).1 (fun _ => none) [] := by
  cases file with
  | none => rfl
  | some contents => rfl

/-- The map after these certificates have been added. -/
def addAll (knownHosts : KnownHosts Certificate) (entries : List (Config × Certificate)) :
    KnownHosts Certificate :=
  entries.foldl (fun knownHosts entry =>
    KnownHosts.add knownHosts entry.1.CanonicalHostFormat entry.2) knownHosts

theorem addAll_eq (knownHosts : KnownHosts Certificate) (entries : List (Config × Certificate))
    (host : List UInt8) :
    addAll knownHosts entries host =
      if certificatesFor entries host = [] then knownHosts host
      else some ((knownHosts host).getD [] ++ certificatesFor entries host) := by
  induction entries generalizing knownHosts with
  | nil => rfl
  | cons entry entries ih =>
    have hstep : addAll knownHosts (entry :: entries) =
        addAll (KnownHosts.add knownHosts entry.1.CanonicalHostFormat entry.2) entries := rfl
    rw [hstep, ih]
    by_cases heq : entry.1.CanonicalHostFormat = host
    · have hcerts : certificatesFor (entry :: entries) host =
          entry.2 :: certificatesFor entries host := by
        simp [certificatesFor, heq]
      have hadd : KnownHosts.add knownHosts entry.1.CanonicalHostFormat entry.2 host =
          some ((knownHosts host).getD [] ++ [entry.2]) := by
        rw [KnownHosts.add, heq, Function.update_self]
      rw [hcerts, hadd, if_neg (List.cons_ne_nil _ _)]
      split_ifs with hnone
      · rw [hnone]
      · rw [Option.getD_some, List.append_assoc]
        rfl
    · have hcerts : certificatesFor (entry :: entries) host = certificatesFor entries host := by
        simp [certificatesFor, heq]
      have hadd : KnownHosts.add knownHosts entry.1.CanonicalHostFormat entry.2 host =
          knownHosts host := Function.update_of_ne (Ne.symm heq) ..
      rw [hcerts, hadd]

variable {x509}

variable {entries : List (Config × Certificate)} {entry : Config × Certificate}

/-- The lines of entries that can be read back are read back, whatever follows. -/
theorem parseKnownHostsLoop_storable
    (h : ∀ entry ∈ entries, Storable x509 entry) (rest : List UInt8) (i : Nat)
    (knownHosts : KnownHosts Certificate) (invalidLines : List Nat) :
    parseKnownHostsLoop x509 i
        (scanLines ((entries.flatMap fun entry => entryLine x509 entry ++ [10]) ++ rest)).1
        knownHosts invalidLines =
      parseKnownHostsLoop x509 (i + entries.length) (scanLines rest).1
        (addAll knownHosts entries) invalidLines := by
  induction entries generalizing i knownHosts with
  | nil => rfl
  | cons entry entries ih =>
    obtain ⟨hentry, hentries⟩ := List.forall_mem_cons.mp h
    have hhost : Spaceless entry.1.CanonicalHostFormat :=
      entry.1.spaceless_iff.mpr ⟨hentry.hostname, hentry.urlPath⟩
    have hnot : 10 ∉ entryLine x509 entry := lineFeed_not_mem_knownHostLine x509 hhost entry.2
    have hsplit : ((entry :: entries).flatMap fun entry => entryLine x509 entry ++ [10]) ++ rest =
        entryLine x509 entry ++
          10 :: ((entries.flatMap fun entry => entryLine x509 entry ++ [10]) ++ rest) := by
      rw [List.flatMap_cons, List.append_assoc, List.append_assoc, List.singleton_append]
    have hparse := (parseKnownHost_dropCarriageReturn x509 (entryLine x509 entry)).trans
      (parseKnownHost_line x509 entry.1.canonicalHostFormat_ne_nil hhost entry.2)
    rw [hsplit, scanLines_append hnot, if_pos hentry.fits, parseKnownHostsLoop, hparse]
    show parseKnownHostsLoop x509 (i + 1) _ _ _ = _
    rw [ih hentries, List.length_cons, Nat.add_right_comm]
    rfl

/-- A host that is known after the loop was known before or has no white space in it. -/
theorem spaceless_of_parseKnownHostsLoop {lines : List (List UInt8)} {i : Nat}
    {knownHosts : KnownHosts Certificate} {invalidLines : List Nat} {host : List UInt8}
    (h : (parseKnownHostsLoop x509 i lines knownHosts invalidLines).1 host ≠ none) :
    knownHosts host ≠ none ∨ Spaceless host := by
  induction lines generalizing i knownHosts invalidLines with
  | nil => exact .inl h
  | cons line lines ih =>
    rw [parseKnownHostsLoop] at h
    cases hline : parseKnownHost x509 line with
    | none =>
      rw [hline] at h
      exact ih h
    | some found =>
      obtain ⟨known, cert⟩ := found
      rw [hline] at h
      obtain hknown | hspaceless := ih h
      · by_cases heq : host = known
        · rw [heq]
          exact .inr (spaceless_of_parseKnownHost x509 hline)
        · rw [KnownHosts.add, Function.update_of_ne heq] at hknown
          exact .inl hknown
      · exact .inr hspaceless

/-! ## The whole file -/

/-- The file says exactly what was appended to it. -/
structure Faithful (x509 : X509 Certificate) (entries : List (Config × Certificate)) : Prop where
  noInvalidLine : (ParseKnownHosts x509 (appendKnownHosts x509 entries)).2 = []
  /-- For each host the certificates appended for it, in order, and no other host -/
  known : ∀ host, (ParseKnownHosts x509 (appendKnownHosts x509 entries)).1 host =
    if certificatesFor entries host = [] then none else some (certificatesFor entries host)
  /-- No certificate of another host is trusted. -/
  trusted : ∀ options : Config,
    trustedCertificates (ParseKnownHosts x509 (appendKnownHosts x509 entries)).1 options =
      certificatesFor entries options.CanonicalHostFormat

theorem mem_certificatesFor (h : entry ∈ entries) :
    entry.2 ∈ certificatesFor entries entry.1.CanonicalHostFormat := by
  apply List.mem_map.mpr
  exact ⟨entry, List.mem_filter.mpr ⟨h, decide_eq_true rfl⟩, rfl⟩

theorem Faithful.spaceless (h : Faithful x509 entries) (hmem : entry ∈ entries) :
    Spaceless entry.1.hostname ∧ Spaceless entry.1.urlPath := by
  have hcerts : certificatesFor entries entry.1.CanonicalHostFormat ≠ [] :=
    List.ne_nil_of_mem (mem_certificatesFor hmem)
  have hknown := h.known entry.1.CanonicalHostFormat
  rw [if_neg hcerts, ParseKnownHosts_eq] at hknown
  have hsome : (parseKnownHostsLoop x509 0
      (scanLines ((appendKnownHosts x509 entries).getD [])).1 (fun _ => none) []).1
        entry.1.CanonicalHostFormat ≠ none := by
    rw [hknown]
    exact Option.some_ne_none _
  obtain hnone | hspaceless := spaceless_of_parseKnownHostsLoop hsome
  · exact absurd rfl hnone
  · exact entry.1.spaceless_iff.mp hspaceless

theorem faithful_of_storable
    (h : ∀ entry ∈ entries, Storable x509 entry) : Faithful x509 entries := by
  have hloop := parseKnownHostsLoop_storable h [] 0 (fun _ => none) []
  rw [List.append_nil, ← appendKnownHosts_eq, ← ParseKnownHosts_eq] at hloop
  have hparse : ParseKnownHosts x509 (appendKnownHosts x509 entries) =
      (addAll (fun _ => none) entries, []) := hloop
  have hknown : ∀ host, (ParseKnownHosts x509 (appendKnownHosts x509 entries)).1 host =
      if certificatesFor entries host = [] then none
      else some (certificatesFor entries host) := by
    rw [hparse]
    exact fun host => addAll_eq (fun _ => none) entries host
  refine ⟨by rw [hparse], hknown, ?_⟩
  intro options
  rw [trustedCertificates, hknown]
  split_ifs with hnone
  · exact hnone.symm
  · rfl

/-- What stands behind a line that is too long is not read: its own certificate, too, is
    missing. -/
theorem not_faithful_of_tooLong {before after : List (Config × Certificate)}
    (hbefore : ∀ other ∈ before, Storable x509 other)
    (hhost : Spaceless entry.1.CanonicalHostFormat)
    (hlong : ¬(entryLine x509 entry).length < maxScanTokenSize) :
    ¬Faithful x509 (before ++ entry :: after) := by
  intro hfaithful
  have hnot : 10 ∉ entryLine x509 entry := lineFeed_not_mem_knownHostLine x509 hhost entry.2
  have hcontents : ((before ++ entry :: after).flatMap fun entry => entryLine x509 entry ++ [10]) =
      (before.flatMap fun entry => entryLine x509 entry ++ [10]) ++ (entryLine x509 entry ++
        10 :: after.flatMap fun entry => entryLine x509 entry ++ [10]) := by
    rw [List.flatMap_append, List.flatMap_cons, List.append_assoc, List.singleton_append]
  have hparse : ParseKnownHosts x509 (appendKnownHosts x509 (before ++ entry :: after)) =
      (addAll (fun _ => none) before, []) := by
    rw [ParseKnownHosts_eq, appendKnownHosts_eq, hcontents, parseKnownHostsLoop_storable hbefore,
      scanLines_append hnot, if_neg hlong]
    rfl
  have hcerts : certificatesFor (before ++ entry :: after) entry.1.CanonicalHostFormat =
      certificatesFor before entry.1.CanonicalHostFormat ++
        entry.2 :: certificatesFor after entry.1.CanonicalHostFormat := by
    simp [certificatesFor]
  have hne : certificatesFor (before ++ entry :: after) entry.1.CanonicalHostFormat ≠ [] := by
    rw [hcerts]
    exact List.append_ne_nil_of_right_ne_nil _ (List.cons_ne_nil _ _)
  have hknown : addAll (fun _ => none) before entry.1.CanonicalHostFormat =
      some (certificatesFor (before ++ entry :: after) entry.1.CanonicalHostFormat) := by
    have hhosts := hfaithful.known entry.1.CanonicalHostFormat
    rwa [hparse, if_neg hne] at hhosts
  rw [addAll_eq, hcerts] at hknown
  split_ifs at hknown
  have hlength := congrArg List.length (Option.some_inj.mp hknown)
  simp only [Option.getD_none, List.nil_append, List.length_append, List.length_cons] at hlength
  omega

/-- **Known hosts.**  The file of known hosts says exactly what was appended to it if and only
    if no host name and no path has white space in it and no line is as long as 64 KiB. -/
theorem knownHosts_faithful_iff (x509 : X509 Certificate)
    (entries : List (Config × Certificate)) :
    Faithful x509 entries ↔ ∀ entry ∈ entries, Storable x509 entry := by
  refine ⟨?_, faithful_of_storable⟩
  intro hfaithful
  -- on how many of the first entries can be read back
  have hfirst : ∀ n, ∀ entry ∈ entries.take n, Storable x509 entry := by
    intro n
    induction n with
    | zero => exact List.forall_mem_nil _
    | succ n ih =>
      intro entry hmem
      rw [List.take_add_one, List.mem_append] at hmem
      obtain hmem | hmem := hmem
      · exact ih entry hmem
      · have hget : entries[n]? = some entry := Option.mem_toList.mp hmem
        have hentry : entry ∈ entries := List.mem_of_getElem? hget
        obtain ⟨hname, hpath⟩ := hfaithful.spaceless hentry
        refine ⟨hname, hpath, ?_⟩
        by_contra hlong
        have hsplit : entries = entries.take n ++ entry :: entries.drop (n + 1) := by
          obtain ⟨hlt, hval⟩ := List.getElem?_eq_some_iff.mp hget
          rw [← hval, List.getElem_cons_drop, List.take_append_drop]
        rw [hsplit] at hfaithful
        exact not_faithful_of_tooLong ih (entry.1.spaceless_iff.mpr ⟨hname, hpath⟩) hlong
          hfaithful
  have hall := hfirst entries.length
  rwa [List.take_length] at hall

end

/-! ## A forged entry -/

/-- Certificates of one byte -/
def byteCertificates : X509 UInt8 where
  raw cert := [cert]
  parseCertificate bytes := if bytes.length = 1 then bytes.head? else none
  parse_raw _ := rfl
  parse_nil := rfl

/-- No entry in the configuration file -/
def noConfig : ConfigForHost := ⟨[], -1, [], []⟩

/-- `https://alice@evil.example/%0Abank.example:443/` -/
def evilUrl : HostUrl :=
  ⟨ascii "evil.example", [], ascii "/\nbank.example:443/", ascii "alice", []⟩

def bankUrl : HostUrl := ⟨ascii "bank.example", [], ascii "/", ascii "alice", []⟩

/-- The certificate that was accepted for the one host is trusted for the other. -/
theorem certificate_trusted_for_other_host :
    ∃ evil bank : Config,
      getConfigOptions evilUrl (.ok noConfig) none = .ok (some evil) ∧
      getConfigOptions bankUrl (.ok noConfig) none = .ok (some bank) ∧
      certificatesFor [(evil, (7 : UInt8))] bank.CanonicalHostFormat = [] ∧
      trustedCertificates
        (ParseKnownHosts byteCertificates (appendKnownHosts byteCertificates [(evil, 7)])).1 bank =
          [7] ∧
      (ParseKnownHosts byteCertificates (appendKnownHosts byteCertificates [(evil, 7)])).2 =
        [0] := by
  refine ⟨_, _, rfl, rfl, ?_, ?_, ?_⟩
  · decide +kernel
  · decide +kernel
  · decide +kernel

end Ssh3.Go
