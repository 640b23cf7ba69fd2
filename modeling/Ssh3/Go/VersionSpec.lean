/-
  Ssh3.Go.VersionSpec

  Parsing a version string and printing the version again.

  The spec version is read from two places: behind an underscore in the protocol version, and
  from a field `experimental_spec_version=`.  It is printed in the second one only, and a field
  with a second equal sign is not read back, while an underscore lets equal signs through.
-/

import Ssh3.Go.StdLibSpec
import Ssh3.Go.Version

namespace Ssh3.Go

open Proto (ascii)
open StreamCodec (bind_eq_ok)
open Text (Spaceless)

/-! ## Negotiation -/

/-- `slices.Index(supportedVersions, serverVersion)` -/
def exactMatch (supportedVersions : List Version) (serverVersion : Version) : Option Nat :=
  supportedVersions.findIdx? (· = serverVersion)

/-- The printed version is parsed to the same version, and everything decided on it is decided
    in the same way. -/
structure SurvivesPrinting (v : Version) : Prop where
  reparsed : parseVersionString v.getVersionString = .ok v
  sameAnswers : ∀ v', parseVersionString v.getVersionString = .ok v' →
    isVersionSupported v' = isVersionSupported v ∧
      ∀ supportedVersions, exactMatch supportedVersions v' = exactMatch supportedVersions v

variable {v : Version} {versionString : List UInt8} {major minor : Int}

theorem survivesPrinting_of_reparsed
    (h : parseVersionString v.getVersionString = .ok v) : SurvivesPrinting v := by
  refine ⟨h, fun v' hv' => ?_⟩
  cases h.symm.trans hv'
  exact ⟨rfl, fun _ => rfl⟩

/-! ## The spec version -/

/-- A field that announces a spec version -/
def Announces (field : List UInt8) : Prop :=
  ∃ value, 61 ∉ value ∧ field = ascii "experimental_spec_version" ++ 61 :: value

/-- The spec version behind the underscore of the protocol version has an equal sign in it, and
    no field announces another one. -/
def EqualSignKept (versionString : List UInt8) : Prop :=
  ∃ protocolName protocol implementationName software fields number spec,
    Text.words versionString =
      protocolName :: protocol :: implementationName :: software :: fields ∧
    protocol.splitOn 95 = [number, spec] ∧ 61 ∈ spec ∧ ∀ field ∈ fields, ¬Announces field

theorem splitOn_announces {value : List UInt8} :
    (ascii "experimental_spec_version" ++ 61 :: value).splitOn 61 =
      ascii "experimental_spec_version" :: value.splitOn 61 :=
  List.splitOn_append_cons_self_of_not_mem (by decide) value

theorem applyVersionField_of_announces {value : List UInt8} (h : 61 ∉ value)
    (protocolVersion : ProtocolVersion) :
    applyVersionField protocolVersion (ascii "experimental_spec_version" ++ 61 :: value) =
      { protocolVersion with experimentalSpecVersion := value } := by
  unfold applyVersionField
  rw [splitOn_announces, List.splitOn_eq_singleton h]
  exact if_pos rfl

theorem applyVersionField_of_not_announces {field : List UInt8} (h : ¬Announces field)
    (protocolVersion : ProtocolVersion) :
    applyVersionField protocolVersion field = protocolVersion := by
  unfold applyVersionField
  split
  case h_1 name value hsplit =>
    obtain ⟨hfield, -, hvalue⟩ := Text.eq_of_splitOn_pair hsplit
    rw [if_neg]
    rintro rfl
    exact h ⟨value, hvalue, hfield⟩
  case h_2 => rfl

/-- The last field that announces a spec version decides, and it has no equal sign in it. -/
theorem equalSign_mem_foldl {protocolVersion : ProtocolVersion} {fields : List (List UInt8)} :
    61 ∈ (fields.foldl applyVersionField protocolVersion).experimentalSpecVersion ↔
      61 ∈ protocolVersion.experimentalSpecVersion ∧ ∀ field ∈ fields, ¬Announces field := by
  induction fields generalizing protocolVersion with
  | nil => simp
  | cons field fields ih =>
    rw [List.foldl_cons, ih, List.forall_mem_cons]
    by_cases hfield : Announces field
    · obtain ⟨value, hvalue, rfl⟩ := hfield
      rw [applyVersionField_of_announces hvalue]
      constructor
      · exact fun h => absurd h.1 hvalue
      · exact fun h => absurd ⟨value, hvalue, rfl⟩ h.2.1
    · rw [applyVersionField_of_not_announces hfield]
      constructor
      · exact fun h => ⟨h.1, hfield, h.2⟩
      · exact fun h => ⟨h.1, h.2.2⟩

/-! ## What the parser returns -/

/-- An `int` of 64 bits -/
def FitsInt (n : Int) : Prop := -2 ^ 63 ≤ n ∧ n < 2 ^ 63

/-- The parts of a version that was parsed: its names are words, its numbers are `int`s. -/
structure Parsed (v : Version) : Prop where
  protocolName : v.protocolName ≠ [] ∧ Spaceless v.protocolName
  implementationName :
    v.softwareVersion.implementationName ≠ [] ∧ Spaceless v.softwareVersion.implementationName
  spec : Spaceless v.protocolVersion.experimentalSpecVersion
  protocol : FitsInt v.protocolVersion.major ∧ FitsInt v.protocolVersion.minor
  software : FitsInt v.softwareVersion.major ∧ FitsInt v.softwareVersion.minor ∧
    FitsInt v.softwareVersion.patch

theorem parseMajorMinor_eq_ok {field : List UInt8} {numbers : Int × Int}
    (h : parseMajorMinor versionString field = .ok numbers) :
    FitsInt numbers.1 ∧ FitsInt numbers.2 := by
  unfold parseMajorMinor at h
  split at h
  · split at h
    case h_1 hmajor hminor =>
      cases h
      exact ⟨range_of_atoi hmajor, range_of_atoi hminor⟩
    case h_2 => cases h
  · cases h

theorem parseProtocolVersion_eq_ok {text : List UInt8} {v : ProtocolVersion}
    (h : parseProtocolVersion text = .ok v) :
    (FitsInt v.major ∧ FitsInt v.minor) ∧
      ((∃ number, text.splitOn 95 = [number]) ∧ v.experimentalSpecVersion = [] ∨
        ∃ number, text.splitOn 95 = [number, v.experimentalSpecVersion]) := by
  unfold parseProtocolVersion at h
  split at h
  case h_1 field hsplit =>
    obtain ⟨numbers, hnumbers, hv⟩ := bind_eq_ok.mp h
    cases hv
    exact ⟨parseMajorMinor_eq_ok hnumbers, .inl ⟨⟨field, hsplit⟩, rfl⟩⟩
  case h_2 field spec hsplit =>
    obtain ⟨numbers, hnumbers, hv⟩ := bind_eq_ok.mp h
    cases hv
    exact ⟨parseMajorMinor_eq_ok hnumbers, .inr ⟨field, hsplit⟩⟩
  case h_3 => cases h

theorem parseSoftwareVersion_eq_ok {implementationName text : List UInt8} {v : SoftwareVersion}
    (h : parseSoftwareVersion implementationName text = .ok v) :
    v.implementationName = implementationName ∧
      FitsInt v.major ∧ FitsInt v.minor ∧ FitsInt v.patch := by
  unfold parseSoftwareVersion at h
  split at h
  · split at h
    case h_1 hmajor hminor hpatch =>
      cases h
      exact ⟨rfl, range_of_atoi hmajor, range_of_atoi hminor, range_of_atoi hpatch⟩
    case h_2 => cases h
  · cases h

theorem parseVersionString_eq_ok (h : parseVersionString versionString = .ok v) :
    ∃ protocolName protocol implementationName software fields protocolVersion,
      Text.words versionString =
        protocolName :: protocol :: implementationName :: software :: fields ∧
      parseProtocolVersion protocol = .ok protocolVersion ∧
      parseSoftwareVersion implementationName software = .ok v.softwareVersion ∧
      v.protocolName = protocolName ∧
      v.protocolVersion = fields.foldl applyVersionField protocolVersion := by
  unfold parseVersionString at h
  split at h
  case h_1 protocolName protocol implementationName software fields hwords =>
    obtain ⟨protocolVersion, hprotocol, hrest⟩ := bind_eq_ok.mp h
    obtain ⟨softwareVersion, hsoftware, hv⟩ := bind_eq_ok.mp hrest
    cases hv
    exact ⟨_, _, _, _, _, _, hwords, hprotocol, hsoftware, rfl, rfl⟩
  case h_2 => cases h

/-- The fields do not change the numbers, and a spec version they announce is the end of a word. -/
theorem applyVersionField_cases (protocolVersion : ProtocolVersion) (field : List UInt8) :
    (applyVersionField protocolVersion field).major = protocolVersion.major ∧
      (applyVersionField protocolVersion field).minor = protocolVersion.minor ∧
      ((applyVersionField protocolVersion field).experimentalSpecVersion =
          protocolVersion.experimentalSpecVersion ∨
        (applyVersionField protocolVersion field).experimentalSpecVersion <:+ field) := by
  by_cases hfield : Announces field
  · obtain ⟨value, hvalue, rfl⟩ := hfield
    rw [applyVersionField_of_announces hvalue]
    refine ⟨rfl, rfl, .inr ⟨ascii "experimental_spec_version" ++ [61], ?_⟩⟩
    rw [List.append_assoc, List.singleton_append]
  · rw [applyVersionField_of_not_announces hfield]
    exact ⟨rfl, rfl, .inl rfl⟩

theorem foldl_applyVersionField {fields : List (List UInt8)}
    (hfields : ∀ field ∈ fields, Spaceless field) {protocolVersion : ProtocolVersion}
    (hspec : Spaceless protocolVersion.experimentalSpecVersion) :
    (fields.foldl applyVersionField protocolVersion).major = protocolVersion.major ∧
      (fields.foldl applyVersionField protocolVersion).minor = protocolVersion.minor ∧
      Spaceless (fields.foldl applyVersionField protocolVersion).experimentalSpecVersion := by
  induction fields generalizing protocolVersion with
  | nil => exact ⟨rfl, rfl, hspec⟩
  | cons field fields ih =>
    obtain ⟨hfield, hrest⟩ := List.forall_mem_cons.mp hfields
    obtain ⟨hmajor, hminor, hone⟩ := applyVersionField_cases protocolVersion field
    have hnext : Spaceless (applyVersionField protocolVersion field).experimentalSpecVersion := by
      obtain hsame | hsuffix := hone
      · rw [hsame]
        exact hspec
      · exact hfield.of_suffix hsuffix
    rw [List.foldl_cons, ← hmajor, ← hminor]
    exact ih hrest hnext

theorem parsed_of_parseVersionString (h : parseVersionString versionString = .ok v) : Parsed v := by
  obtain ⟨protocolName, protocol, implementationName, software, fields, protocolVersion, hwords,
    hprotocol, hsoftware, hname, hversion⟩ := parseVersionString_eq_ok h
  obtain ⟨hnumbers, hplace⟩ := parseProtocolVersion_eq_ok hprotocol
  obtain ⟨himplementation, hsoftwareNumbers⟩ := parseSoftwareVersion_eq_ok hsoftware
  have hword : ∀ word ∈ protocolName :: protocol :: implementationName :: software :: fields,
      word ≠ [] ∧ Spaceless word := by
    rw [← hwords]
    exact fun word hmem => ⟨Text.ne_nil_of_mem_words hmem, Text.spaceless_of_mem_words hmem⟩
  -- a spec version behind an underscore is the end of a word, too
  have hspec : Spaceless protocolVersion.experimentalSpecVersion := by
    obtain ⟨-, hnil⟩ | ⟨number, hsplit⟩ := hplace
    · rw [hnil]
      exact Text.spaceless_nil
    · obtain ⟨hprotocolText, -⟩ := Text.eq_of_splitOn_pair hsplit
      refine (hword protocol (by simp)).2.of_suffix ⟨number ++ [95], ?_⟩
      rw [hprotocolText, List.append_assoc, List.singleton_append]
  have hfields : ∀ field ∈ fields, Spaceless field := by
    intro field hmem
    exact (hword field (by simp [hmem])).2
  obtain ⟨hmajor, hminor, hlast⟩ := foldl_applyVersionField hfields hspec
  constructor
  · rw [hname]
    exact hword _ (by simp)
  · rw [himplementation]
    exact hword _ (by simp)
  · rw [hversion]
    exact hlast
  · rw [hversion, hmajor, hminor]
    exact hnumbers
  · exact hsoftwareNumbers

/-! ## Parsing what was printed -/

/-- The field that the spec version is printed in, if there is one -/
def specFields (spec : List UInt8) : List (List UInt8) :=
  if spec = [] then [] else [ascii "experimental_spec_version" ++ 61 :: spec]

theorem foldl_specFields (major minor : Int) (spec : List UInt8) :
    (specFields spec).foldl applyVersionField ⟨major, minor, []⟩ =
      ⟨major, minor, if 61 ∈ spec then [] else spec⟩ := by
  unfold specFields
  by_cases hnil : spec = []
  · rw [if_pos hnil, hnil]
    rfl
  · rw [if_neg hnil]
    by_cases hequal : 61 ∈ spec
    · -- the second equal sign hides the field from the parser
      have hnot : ¬Announces (ascii "experimental_spec_version" ++ 61 :: spec) := by
        rintro ⟨value, hvalue, heq⟩
        have htail := List.append_cancel_left heq
        rw [List.cons.injEq] at htail
        exact hvalue (htail.2 ▸ hequal)
      rw [if_pos hequal, List.foldl_cons, applyVersionField_of_not_announces hnot]
      rfl
    · rw [if_neg hequal, List.foldl_cons, applyVersionField_of_announces hequal]
      rfl

theorem not_mem_formatInt {b : UInt8} (hsign : b ≠ 45) (hdigit : ¬(48 ≤ b ∧ b ≤ 57)) (n : Int) :
    b ∉ formatInt n := by
  intro hmem
  obtain heq | hrange := mem_formatInt hmem
  · exact hsign heq
  · exact hdigit hrange

theorem parseMajorMinor_formatInt (versionString : List UInt8)
    (hmajor : FitsInt major) (hminor : FitsInt minor) :
    parseMajorMinor versionString (formatInt major ++ 46 :: formatInt minor) =
      .ok (major, minor) := by
  have hdot : ∀ n, 46 ∉ formatInt n := not_mem_formatInt (by decide) (by decide)
  unfold parseMajorMinor
  rw [List.splitOn_append_cons_self_of_not_mem (hdot major), List.splitOn_eq_singleton (hdot minor)]
  simp only [atoi_formatInt hmajor.1 hmajor.2, atoi_formatInt hminor.1 hminor.2]

theorem parseProtocolVersion_formatInt (hmajor : FitsInt major) (hminor : FitsInt minor) :
    parseProtocolVersion (formatInt major ++ 46 :: formatInt minor) = .ok ⟨major, minor, []⟩ := by
  have hunderscore : 95 ∉ formatInt major ++ 46 :: formatInt minor := by
    have hnumber : ∀ n, 95 ∉ formatInt n := not_mem_formatInt (by decide) (by decide)
    simp [hnumber]
  unfold parseProtocolVersion
  rw [List.splitOn_eq_singleton hunderscore]
  simp only [parseMajorMinor_formatInt _ hmajor hminor]
  rfl

theorem parseSoftwareVersion_formatInt (implementationName : List UInt8) {patch : Int}
    (hmajor : FitsInt major) (hminor : FitsInt minor) (hpatch : FitsInt patch) :
    parseSoftwareVersion implementationName
        (formatInt major ++ 46 :: (formatInt minor ++ 46 :: formatInt patch)) =
      .ok ⟨implementationName, major, minor, patch⟩ := by
  have hdot : ∀ n, 46 ∉ formatInt n := not_mem_formatInt (by decide) (by decide)
  unfold parseSoftwareVersion
  rw [List.splitOn_append_cons_self_of_not_mem (hdot major),
    List.splitOn_append_cons_self_of_not_mem (hdot minor), List.splitOn_eq_singleton (hdot patch)]
  simp only [atoi_formatInt hmajor.1 hmajor.2, atoi_formatInt hminor.1 hminor.2,
    atoi_formatInt hpatch.1 hpatch.2]

theorem getVersionString_eq (v : Version) :
    v.getVersionString = v.protocolName ++ ([32] ++
      ((formatInt v.protocolVersion.major ++ 46 :: formatInt v.protocolVersion.minor) ++ ([32] ++
        (v.softwareVersion.implementationName ++ ([32] ++
          ((formatInt v.softwareVersion.major ++ 46 :: (formatInt v.softwareVersion.minor ++
              46 :: formatInt v.softwareVersion.patch)) ++
            (specFields v.protocolVersion.experimentalSpecVersion).flatMap ([32] ++ ·))))))) := by
  have hspace : ascii " " = [32] := rfl
  have hdot : ascii "." = [46] := rfl
  have hfield : ascii " experimental_spec_version=" =
      [32] ++ (ascii "experimental_spec_version" ++ [61]) := by decide
  rw [Version.getVersionString, specFields, hspace, hdot, hfield]
  by_cases hnil : v.protocolVersion.experimentalSpecVersion = []
  · simp [hnil]
  · simp [hnil]

theorem spaceless_number_append (n : Int) {after : List UInt8} (h : Spaceless after) :
    Spaceless (formatInt n ++ 46 :: after) := by
  have hdot : Spaceless ([46] ++ after) :=
    Text.spaceless_plain_append (List.all_eq_true.mp (by decide)) h
  exact Text.spaceless_plain_append (fun b hb => isPlain_of_mem_formatInt hb) hdot

/-- The blanks that were printed are the only ones. -/
theorem words_getVersionString (h : Parsed v) :
    Text.words v.getVersionString = v.protocolName ::
      (formatInt v.protocolVersion.major ++ 46 :: formatInt v.protocolVersion.minor) ::
      v.softwareVersion.implementationName ::
      (formatInt v.softwareVersion.major ++ 46 :: (formatInt v.softwareVersion.minor ++
        46 :: formatInt v.softwareVersion.patch)) ::
      specFields v.protocolVersion.experimentalSpecVersion := by
  have hnumber : ∀ n, Spaceless (formatInt n) := by
    intro n
    exact Text.spaceless_of_plain fun b hb => isPlain_of_mem_formatInt hb
  have hprotocol := spaceless_number_append v.protocolVersion.major
    (hnumber v.protocolVersion.minor)
  have hsoftware := spaceless_number_append v.softwareVersion.major
    (spaceless_number_append v.softwareVersion.minor (hnumber v.softwareVersion.patch))
  have hspace := Text.isSpaceChar_space
  rw [getVersionString_eq, Text.words_spaceless_append h.protocolName.1 h.protocolName.2 hspace,
    Text.words_spaceless_append (by simp) hprotocol hspace,
    Text.words_spaceless_append h.implementationName.1 h.implementationName.2 hspace]
  congr 3
  unfold specFields
  by_cases hnil : v.protocolVersion.experimentalSpecVersion = []
  · rw [if_pos hnil, List.flatMap_nil, List.append_nil]
    exact Text.words_spaceless (by simp) hsoftware
  · have hfield : Spaceless (ascii "experimental_spec_version" ++
        61 :: v.protocolVersion.experimentalSpecVersion) := by
      have hvalue : Spaceless ([61] ++ v.protocolVersion.experimentalSpecVersion) :=
        Text.spaceless_plain_append (List.all_eq_true.mp (by decide)) h.spec
      exact Text.spaceless_plain_append (List.all_eq_true.mp (by decide)) hvalue
    rw [if_neg hnil, List.flatMap_singleton, Text.words_spaceless_append (by simp) hsoftware hspace,
      Text.words_spaceless (by simp) hfield]

/-- A spec version with an equal sign is lost, and everything else is read back. -/
theorem parseVersionString_getVersionString (h : Parsed v) :
    parseVersionString v.getVersionString = .ok
      { v with
        protocolVersion := { v.protocolVersion with
          experimentalSpecVersion := if 61 ∈ v.protocolVersion.experimentalSpecVersion then []
            else v.protocolVersion.experimentalSpecVersion } } := by
  have hprotocol := parseProtocolVersion_formatInt h.protocol.1 h.protocol.2
  have hsoftware := parseSoftwareVersion_formatInt v.softwareVersion.implementationName
    h.software.1 h.software.2.1 h.software.2.2
  unfold parseVersionString
  rw [words_getVersionString h]
  simp only [hprotocol, hsoftware, bind, Except.bind, pure, Except.pure, foldl_specFields]

theorem survivesPrinting_iff_not_mem (h : Parsed v) :
    SurvivesPrinting v ↔ 61 ∉ v.protocolVersion.experimentalSpecVersion := by
  have hreparsed := parseVersionString_getVersionString h
  constructor
  · intro hsurvives hequal
    rw [if_pos hequal] at hreparsed
    have hsame := Except.ok.inj (hreparsed.symm.trans hsurvives.reparsed)
    have hspec := congrArg (fun v : Version => v.protocolVersion.experimentalSpecVersion) hsame
    rw [← hspec] at hequal
    cases hequal
  · intro hequal
    rw [if_neg hequal] at hreparsed
    exact survivesPrinting_of_reparsed hreparsed

/-- An equal sign in the spec version comes from behind the underscore. -/
theorem equalSign_mem_iff (h : parseVersionString versionString = .ok v) :
    61 ∈ v.protocolVersion.experimentalSpecVersion ↔ EqualSignKept versionString := by
  obtain ⟨protocolName, protocol, implementationName, software, fields, protocolVersion, hwords,
    hprotocol, -, -, hversion⟩ := parseVersionString_eq_ok h
  obtain ⟨-, hplace⟩ := parseProtocolVersion_eq_ok hprotocol
  rw [hversion, equalSign_mem_foldl]
  constructor
  · rintro ⟨hequal, hfields⟩
    obtain ⟨-, hnil⟩ | ⟨number, hsplit⟩ := hplace
    · rw [hnil] at hequal
      cases hequal
    · exact ⟨_, _, _, _, _, _, _, hwords, hsplit, hequal, hfields⟩
  · rintro ⟨_, _, _, _, _, number', spec, hwords', hsplit', hequal, hfields⟩
    cases hwords.symm.trans hwords'
    refine ⟨?_, hfields⟩
    obtain ⟨⟨number, hsplit⟩, -⟩ | ⟨number, hsplit⟩ := hplace
    · cases hsplit.symm.trans hsplit'
    · cases hsplit.symm.trans hsplit'
      exact hequal

/-- **Versions.**  A version that was parsed is parsed again from what it is printed as if and
    only if no equal sign was kept in it. -/
theorem version_survivesPrinting_iff {versionString : List UInt8} {v : Version}
    (h : parseVersionString versionString = .ok v) :
    SurvivesPrinting v ↔ ¬EqualSignKept versionString := by
  rw [survivesPrinting_iff_not_mem (parsed_of_parseVersionString h), equalSign_mem_iff h]

/-- `SSH 3.0_alpha-00 francoismichel/ssh3 0.1.7` -/
theorem version_survivesPrinting_this :
    parseVersionString (ascii "SSH 3.0_alpha-00 francoismichel/ssh3 0.1.7") = .ok thisVersion ∧
      SurvivesPrinting thisVersion ∧
      ¬EqualSignKept (ascii "SSH 3.0_alpha-00 francoismichel/ssh3 0.1.7") := by
  have hparse : parseVersionString (ascii "SSH 3.0_alpha-00 francoismichel/ssh3 0.1.7") =
      .ok thisVersion := by
    decide +kernel
  have hprint : parseVersionString thisVersion.getVersionString = .ok thisVersion := by
    decide +kernel
  have hsurvives := survivesPrinting_of_reparsed hprint
  exact ⟨hparse, hsurvives, (version_survivesPrinting_iff hparse).mp hsurvives⟩

/-- The server is not supported, but the version it announces is one of those that are once it
    has been printed and parsed again. -/
theorem version_changed_by_printing :
    ∃ v v', parseVersionString (ascii "SSH 3.0_a=b francoismichel/ssh3 0.1.4") = .ok v ∧
      v.getVersionString =
        ascii "SSH 3.0 francoismichel/ssh3 0.1.4 experimental_spec_version=a=b" ∧
      parseVersionString v.getVersionString = .ok v' ∧ v' ≠ v ∧
      isVersionSupported v = false ∧ isVersionSupported v' = true ∧
      exactMatch AVAILABLE_CLIENT_VERSIONS v = none ∧
      exactMatch AVAILABLE_CLIENT_VERSIONS v' = some 2 ∧ ¬SurvivesPrinting v := by
  have hprint : parseVersionString
      (ascii "SSH 3.0 francoismichel/ssh3 0.1.4 experimental_spec_version=a=b") =
      .ok ⟨ascii "SSH", ⟨3, 0, []⟩, ⟨ascii "francoismichel/ssh3", 0, 1, 4⟩⟩ := by
    decide +kernel
  have hstring : (⟨ascii "SSH", ⟨3, 0, ascii "a=b"⟩,
      ⟨ascii "francoismichel/ssh3", 0, 1, 4⟩⟩ : Version).getVersionString =
      ascii "SSH 3.0 francoismichel/ssh3 0.1.4 experimental_spec_version=a=b" := by
    decide +kernel
  refine ⟨⟨ascii "SSH", ⟨3, 0, ascii "a=b"⟩, ⟨ascii "francoismichel/ssh3", 0, 1, 4⟩⟩,
    ⟨ascii "SSH", ⟨3, 0, []⟩, ⟨ascii "francoismichel/ssh3", 0, 1, 4⟩⟩, ?_, hstring, ?_, ?_, ?_, ?_,
    ?_, ?_, fun h => ?_⟩
  · decide +kernel
  · rw [hstring, hprint]
  · decide +kernel
  · decide +kernel
  · decide +kernel
  · decide +kernel
  · decide +kernel
  · have hreparsed := h.reparsed
    rw [hstring, hprint] at hreparsed
    cases hreparsed

end Ssh3.Go
