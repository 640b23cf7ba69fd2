/-
  Ssh3.Client.Credentials

  The Authorization header, from the client that writes it (`basic_authorization_value` of
  `ssh3-client/src/lib.rs`, `bearer_authorization_value` of `ssh3-auth/src/lib.rs`) to the
  server that reads it (`parse_request_authorization`, in `Ssh3.Server.Authorization`).

  A username with a colon is the one thing that Basic credentials cannot hold: the server splits
  at the first colon, so that the password may have some.
-/

import Ssh3.Lib.Words
import Ssh3.Server.Authorization

namespace Ssh3.Client

open Proto (ascii)
open Server (Request parseRequestAuthorization parseBasicCredentials stripScheme)

def basicAuthorizationValue (username password : List UInt8) : List UInt8 :=
  ascii "Basic " ++ Base64.STANDARD.encode (username ++ 58 :: password)

def bearerAuthorizationValue (token : List UInt8) : List UInt8 := ascii "Bearer " ++ token

/-- A visible ASCII character that is no space -/
def isGraphic (b : UInt8) : Bool := decide (33 ≤ b ∧ b ≤ 126)

/-- The first Authorization header of the request has this value. -/
def Carries (request : Request) (value : List UInt8) : Prop :=
  request.headers.lookup (ascii "authorization") = some value

instance (request : Request) (value : List UInt8) : Decidable (Carries request value) :=
  inferInstanceAs (Decidable (_ = _))

section

variable {request : Request}

theorem isPlain_of_isGraphic {b : UInt8} (h : isGraphic b = true) : Text.isPlain b = true := by
  obtain ⟨hlow, hhigh⟩ := of_decide_eq_true h
  have hascii : b < 0x80 := UInt8.lt_of_le_of_lt hhigh (by decide)
  have hspace : ¬(9 ≤ b ∧ b ≤ 13 ∨ b = 32) := by
    rintro (⟨-, hle⟩ | rfl)
    · exact absurd (UInt8.le_trans hlow hle) (by decide)
    · exact absurd hlow (by decide)
  rw [Text.isPlain, decide_eq_true hascii, decide_eq_false hspace]
  rfl

theorem isGraphic_encode (bytes : List UInt8) :
    (Base64.STANDARD.encode bytes).all isGraphic = true := by
  have hsymbol : ∀ v < 64, isGraphic (Base64.STANDARD.alphabet.symbol v) = true := by decide
  rw [List.all_eq_true]
  intro b hb
  obtain ⟨v, hv, rfl⟩ | rfl := Base64.Engine.eq_symbol_or_pad_of_mem_encode hb
  · exact hsymbol v hv
  · decide

theorem trim_of_graphic {bytes : List UInt8} (h : bytes.all isGraphic = true) :
    Text.trim bytes = bytes := by
  rw [List.all_eq_true] at h
  exact Text.trim_spaceless (Text.spaceless_of_plain fun b hb => isPlain_of_isGraphic (h b hb))

theorem stripScheme_append (scheme rest : List UInt8) :
    stripScheme (scheme ++ 32 :: rest) scheme = some (Text.trim rest) := by
  have hlength : (scheme ++ 32 :: rest).length > scheme.length := by
    rw [List.length_append, List.length_cons]
    omega
  have hcase : Text.eqIgnoreAsciiCase ((scheme ++ 32 :: rest).take scheme.length) scheme =
      true := by
    rw [List.take_left, Text.eqIgnoreAsciiCase]
    exact decide_eq_true rfl
  have hspace : (scheme ++ 32 :: rest)[scheme.length]? = some 32 := by
    rw [List.getElem?_append_right (Nat.le_refl _), Nat.sub_self]
    rfl
  have hdrop : (scheme ++ 32 :: rest).drop (scheme.length + 1) = rest :=
    List.drop_length_add_append 1
  rw [stripScheme, if_pos ⟨hlength, hcase, hspace⟩, hdrop]

theorem header_of_carries {scheme credentials : List UInt8}
    (h : Carries request (scheme ++ 32 :: credentials)) (hscheme : scheme.all isGraphic = true)
    (hcredentials : credentials.all isGraphic = true) :
    request.header (ascii "authorization") = some (scheme ++ 32 :: credentials) := by
  have hgraphic : ∀ {bytes : List UInt8}, bytes.all isGraphic = true →
      (bytes.all fun b => (32 ≤ b && b < 127) || b == 9) = true := by
    intro bytes hbytes
    rw [List.all_eq_true] at hbytes ⊢
    intro b hb
    obtain ⟨hlow, hhigh⟩ := of_decide_eq_true (hbytes b hb)
    have hspace : 32 ≤ b := UInt8.le_trans (by decide) hlow
    have hdelete : b < 127 := UInt8.lt_of_le_of_lt hhigh (by decide)
    rw [decide_eq_true hspace, decide_eq_true hdelete]
    rfl
  rw [Request.header, h]
  refine if_pos ?_
  rw [List.all_append, List.all_cons, hgraphic hscheme, hgraphic hcredentials]
  rfl

theorem parseBasicCredentials_encode {username password : List UInt8}
    (husername : Text.validUtf8 username = true) (hpassword : Text.validUtf8 password = true)
    (hcolon : 58 ∉ username) :
    parseBasicCredentials (Base64.STANDARD.encode (username ++ 58 :: password)) =
      some (username, password) := by
  have hseparator : Text.validUtf8 [58] = true := by decide +kernel
  have hvalid : Text.validUtf8 (username ++ 58 :: password) = true :=
    Text.validUtf8_append husername (Text.validUtf8_append hseparator hpassword)
  rw [parseBasicCredentials, Base64.Engine.decode_encode]
  simp only [if_pos hvalid]
  exact Text.splitOnce_append hcolon password

theorem parseRequestAuthorization_of_basic {username password : List UInt8}
    (husername : Text.validUtf8 username = true) (hpassword : Text.validUtf8 password = true)
    (hcolon : 58 ∉ username)
    (hcarries : Carries request (basicAuthorizationValue username password)) :
    parseRequestAuthorization request = .basic username password := by
  have hencoded := isGraphic_encode (username ++ 58 :: password)
  have hheader : request.header (ascii "authorization") =
      some (ascii "Basic" ++ 32 :: Base64.STANDARD.encode (username ++ 58 :: password)) :=
    header_of_carries hcarries (by decide) hencoded
  rw [parseRequestAuthorization, hheader]
  -- nothing is trimmed, since an encoding has no white space
  simp only [stripScheme_append, trim_of_graphic hencoded,
    parseBasicCredentials_encode husername hpassword hcolon]

theorem parseRequestAuthorization_of_bearer {token : List UInt8} (hne : token ≠ [])
    (hgraphic : token.all isGraphic = true)
    (hcarries : Carries request (bearerAuthorizationValue token)) :
    parseRequestAuthorization request = .bearer token := by
  have hbasic : stripScheme (ascii "Bearer" ++ 32 :: token) (ascii "Basic") = none := by
    -- the first five letters are not those of the other scheme
    refine if_neg ?_
    rintro ⟨-, hcase, -⟩
    cases hcase
  have hheader : request.header (ascii "authorization") =
      some (ascii "Bearer" ++ 32 :: token) := header_of_carries hcarries (by decide) hgraphic
  rw [parseRequestAuthorization, hheader]
  simp only [hbasic, stripScheme_append, trim_of_graphic hgraphic, if_neg hne]

theorem credentials_survive (request : Request) :
    (∀ username password, Text.validUtf8 username = true → Text.validUtf8 password = true →
      58 ∉ username → Carries request (basicAuthorizationValue username password) →
      parseRequestAuthorization request = .basic username password) ∧
    (∀ token, token ≠ [] → token.all isGraphic = true →
      Carries request (bearerAuthorizationValue token) →
      parseRequestAuthorization request = .bearer token) :=
  ⟨fun _ _ husername hpassword hcolon hcarries =>
      parseRequestAuthorization_of_basic husername hpassword hcolon hcarries,
    fun _ hne hgraphic hcarries => parseRequestAuthorization_of_bearer hne hgraphic hcarries⟩

/-- A CONNECT request with one header -/
def authorizedRequest (value : List UInt8) : Request where
  method := .connect
  query := none
  headers := [(ascii "authorization", value)]
  protocol := some (ascii "ssh3")

theorem credentials_survive_alice :
    parseRequestAuthorization (authorizedRequest (ascii "Basic YWxpY2U6YTpi")) =
        .basic (ascii "alice") (ascii "a:b") ∧
      parseRequestAuthorization (authorizedRequest (ascii "Bearer abc")) =
        .bearer (ascii "abc") := by
  constructor
  · exact (credentials_survive _).1 _ _ (by decide +kernel) (by decide +kernel) (by decide)
      (by decide)
  · exact (credentials_survive _).2 _ (by decide) (by decide) (by decide)

end

end Ssh3.Client
