import Strero.AuthBase64

/-!
# Which headers pass

A client writes the header of its credentials with `auth_encode_basic_credentials`. That header
passes the check, and here is when no other one does.
-/

namespace AuthUtils

open CString Base64

/-- The text that `auth_encode_basic_credentials` prints into its array of 128 bytes. -/
def printedCredentials (username password : List UInt8) : List UInt8 :=
  (username ++ ':'.toUInt8 :: password).take 127

/-- `auth_encode_basic_credentials`. -/
def authEncodeBasicCredentials (username password : List UInt8) : List UInt8 :=
  authBase64Encode (printedCredentials username password)

/-- The header of the configured credentials. -/
def AuthConfig.basicHeader (config : AuthConfig) : List UInt8 :=
  ascii "Basic " ++ authBase64Encode (config.username.bytes ++ ':'.toUInt8 :: config.password.bytes)

/-! ### What a header comes to -/

section Parsing

variable {tableAddress : UInt32} {header text username password : List UInt8}

/-- A header with base64, or what is taken for it. -/
theorem authParseBasicHeader_basic (hlength : text.length % 4 = 0) :
    authParseBasicHeader tableAddress (ascii "Basic " ++ text) =
      if 128 ≤ (decodeGroups tableAddress text).length then .overflow
      else match strchr (cString (decodeGroups tableAddress text)) ':'.toUInt8 with
        | none => .failed
        | some colon =>
          .credentials
            (.copy 64 size64_pos (between (cString (decodeGroups tableAddress text)) colon))
            (.copy 64 size64_pos (colon.drop 1)) := by
  have hbasic : (ascii "Basic ").isPrefixOf (ascii "Basic " ++ text) = true :=
    List.isPrefixOf_iff_prefix.mpr (List.prefix_append _ _)
  have hdrop : (ascii "Basic " ++ text).drop 6 = text := rfl
  rw [authParseBasicHeader, hbasic, hdrop, authBase64Decode, if_neg (not_not.mpr hlength)]
  rfl

/-- Other headers are refused. -/
theorem authParseBasicHeader_failed
    (h : ∀ text, header = ascii "Basic " ++ text → text.length % 4 ≠ 0) :
    authParseBasicHeader tableAddress header = .failed := by
  unfold authParseBasicHeader
  split_ifs with hbasic
  · rfl
  · rw [Bool.not_eq_true', Bool.not_eq_false, List.isPrefixOf_iff_prefix] at hbasic
    obtain ⟨text, rfl⟩ := hbasic
    have hdrop : (ascii "Basic " ++ text).drop 6 = text := rfl
    rw [hdrop, authBase64Decode, if_pos (h text rfl)]

/-- So a header that is not refused is one of these. -/
theorem exists_of_ne_failed (h : authParseBasicHeader tableAddress header ≠ .failed) :
    ∃ text, header = ascii "Basic " ++ text ∧ text.length % 4 = 0 := by
  by_contra hnone
  push Not at hnone
  exact h (authParseBasicHeader_failed hnone)

/-- The two parts around the first colon are copied. -/
theorem authParseBasicHeader_split (hlength : text.length % 4 = 0)
    (hfits : (decodeGroups tableAddress text).length < 128)
    (hsplit : cString (decodeGroups tableAddress text) = username ++ ':'.toUInt8 :: password)
    (hcolon : ':'.toUInt8 ∉ username) :
    authParseBasicHeader tableAddress (ascii "Basic " ++ text) =
      .credentials (.copy 64 size64_pos username) (.copy 64 size64_pos password) := by
  rw [authParseBasicHeader_basic hlength, if_neg (by omega), hsplit, strchr_append hcolon]
  dsimp only
  rw [between_append]
  rfl

/-- A header that comes to credentials has them around the first colon. -/
theorem exists_split {first second : FixedString 64}
    (h : authParseBasicHeader tableAddress header = .credentials first second) :
    ∃ text username password, header = ascii "Basic " ++ text ∧ text.length % 4 = 0 ∧
      cString (decodeGroups tableAddress text) = username ++ ':'.toUInt8 :: password ∧
      ':'.toUInt8 ∉ username ∧ first = .copy 64 size64_pos username ∧
      second = .copy 64 size64_pos password := by
  have hparsed : authParseBasicHeader tableAddress header ≠ .failed := by simp [h]
  obtain ⟨text, rfl, hlength⟩ := exists_of_ne_failed hparsed
  rw [authParseBasicHeader_basic hlength] at h
  split_ifs at h
  cases hfound : strchr (cString (decodeGroups tableAddress text)) ':'.toUInt8 with
  | none => simp [hfound] at h
  | some colon =>
    obtain ⟨username, password, hsplit, hcolon, rfl⟩ := exists_of_strchr hfound
    rw [hfound, hsplit] at h
    dsimp only at h
    rw [between_append] at h
    injection h with hfirst hsecond
    exact ⟨text, username, password, rfl, hlength, hsplit, hcolon, hfirst.symm, hsecond.symm⟩

/-- Only bytes for which there is no room are written past the array. -/
theorem exists_of_overflow (h : authParseBasicHeader tableAddress header = .overflow) :
    ∃ text, header = ascii "Basic " ++ text ∧ text.length % 4 = 0 ∧
      128 ≤ (decodeGroups tableAddress text).length := by
  have hparsed : authParseBasicHeader tableAddress header ≠ .failed := by simp [h]
  obtain ⟨text, rfl, hlength⟩ := exists_of_ne_failed hparsed
  rw [authParseBasicHeader_basic hlength] at h
  split_ifs at h with hroom
  · exact ⟨text, rfl, hlength, hroom⟩
  · split at h <;> cases h

end Parsing

/-! ### One text for the credentials -/

/-- The text is the only one that the check takes for its credentials: what it decodes to fits
into the array of 128 bytes, and if that has a colon then the text is the base64 of what is in
front of the colon and behind it, neither of which is cut. -/
structure PlainlySpelled (tableAddress : UInt32) (text : List UInt8) : Prop where
  fits : (decodeGroups tableAddress text).length < 128
  encoded : ∀ username password,
    cString (decodeGroups tableAddress text) = username ++ ':'.toUInt8 :: password →
      ':'.toUInt8 ∉ username →
        text = authBase64Encode (username ++ ':'.toUInt8 :: password) ∧
          username.length < 64 ∧ password.length < 64

/-- The check ends with success, or nothing is known about how it ends because it writes past
the array. -/
def MayPass (tableAddress : UInt32) (header : List UInt8) (config : AuthConfig) : Prop :=
  authValidateBasic tableAddress (some header) config = some .success ∨
    authValidateBasic tableAddress (some header) config = none

instance (tableAddress : UInt32) (header : List UInt8) (config : AuthConfig) :
    Decidable (MayPass tableAddress header config) :=
  inferInstanceAs (Decidable (_ ∨ _))

section OneText

variable {tableAddress : UInt32} {header text : List UInt8} {config : AuthConfig}

/-- The header of the credentials is written and read back. -/
theorem decodeGroups_credentials (tableAddress : UInt32) (username password : FixedString 64) :
    cString (decodeGroups tableAddress
      (authBase64Encode (username.bytes ++ ':'.toUInt8 :: password.bytes))) =
        username.bytes ++ ':'.toUInt8 :: password.bytes := by
  have hzero : 0 ∉ username.bytes ++ ':'.toUInt8 :: password.bytes := by
    rw [List.mem_append, List.mem_cons]
    rintro (hmem | hcolon | hmem)
    · exact username.noNul hmem
    · exact absurd hcolon (by decide)
    · exact password.noNul hmem
  rw [authBase64Encode_eq, decodeGroups_encode, cString_of_notMem hzero]

/-- What fits into an array is not cut. -/
theorem copy_bytes_eq {source : List UInt8} (hzero : 0 ∉ source) (hlength : source.length < 64) :
    (FixedString.copy 64 size64_pos source).bytes = source :=
  (strncpy_eq_self_iff size64_pos source).mpr ⟨hlength, hzero⟩

/-- A plainly spelled header passes only under the configuration it is written for. -/
theorem eq_basicHeader (hplain : ∀ text, header = ascii "Basic " ++ text → text.length % 4 = 0 →
      PlainlySpelled tableAddress text) (h : MayPass tableAddress header config) :
    header = config.basicHeader := by
  rcases h with hsuccess | hpast
  · obtain ⟨_, hsome, hparse⟩ := authValidateBasic_success hsuccess
    cases hsome
    obtain ⟨text, username, password, rfl, hlength, hsplit, hcolon, hfirst, hsecond⟩ :=
      exists_split hparse
    obtain ⟨htext, husername, hpassword⟩ :=
      (hplain text rfl hlength).encoded username password hsplit hcolon
    have hzero := zero_notMem_cString (decodeGroups tableAddress text)
    rw [hsplit, List.mem_append, List.mem_cons, not_or, not_or] at hzero
    rw [AuthConfig.basicHeader, hfirst, hsecond, copy_bytes_eq hzero.1 husername,
      copy_bytes_eq hzero.2.2 hpassword, ← htext]
  · have hoverflow : authParseBasicHeader tableAddress header = .overflow := by
      rw [authValidateBasic] at hpast
      cases hparse : authParseBasicHeader tableAddress header with
      | overflow => rfl
      | failed => simp [hparse] at hpast
      | credentials username password =>
        rw [hparse] at hpast
        dsimp only at hpast
        split_ifs at hpast
    obtain ⟨text, rfl, hlength, hroom⟩ := exists_of_overflow hoverflow
    have hfits := (hplain text rfl hlength).fits
    omega

/-- Otherwise some configuration is passed by a header that is not its own. -/
theorem plainlySpelled_of_forall (hlength : text.length % 4 = 0)
    (h : ∀ config, MayPass tableAddress (ascii "Basic " ++ text) config →
      ascii "Basic " ++ text = config.basicHeader) :
    PlainlySpelled tableAddress text := by
  have hfits : (decodeGroups tableAddress text).length < 128 := by
    by_contra hroom
    let config : AuthConfig :=
      ⟨true, false, .copy 64 size64_pos [], .copy 64 size64_pos []⟩
    have hpast : authValidateBasic tableAddress (some (ascii "Basic " ++ text)) config = none := by
      rw [authValidateBasic, authParseBasicHeader_basic hlength, if_pos (by omega)]
    have htext := List.append_cancel_left (h config (.inr hpast))
    rw [htext, authBase64Encode_eq, decodeGroups_encode] at hroom
    exact hroom (by decide)
  refine ⟨hfits, fun username password hsplit hcolon => ?_⟩
  let config : AuthConfig :=
    ⟨true, false, .copy 64 size64_pos username, .copy 64 size64_pos password⟩
  have hpass : authValidateBasic tableAddress (some (ascii "Basic " ++ text)) config =
      some .success := by
    rw [authValidateBasic, authParseBasicHeader_split hlength hfits hsplit hcolon]
    exact if_pos ⟨rfl, rfl⟩
  have htext : text = authBase64Encode (config.username.bytes ++ ':'.toUInt8 ::
    config.password.bytes) := List.append_cancel_left (h config (.inl hpass))
  -- The text decodes to what was copied, so nothing was cut.
  have hsame := decodeGroups_credentials tableAddress config.username config.password
  rw [← htext, hsplit] at hsame
  have hcolon' : ':'.toUInt8 ∉ config.username.bytes := fun hmem =>
    hcolon ((List.takeWhile_prefix _).subset (List.mem_of_mem_take hmem))
  obtain ⟨husername, hpassword⟩ := append_cons_inj hcolon hcolon' hsame
  refine ⟨by rw [htext, ← husername, ← hpassword], ?_, ?_⟩
  · rw [husername]
    exact config.username.fits
  · rw [hpassword]
    exact config.password.fits

end OneText

/-- Only the header of the configured credentials can pass, whatever they are, exactly if the
header is plainly spelled or no base64 at all. -/
theorem mayPass_imp_iff (tableAddress : UInt32) (header : List UInt8) :
    (∀ config, MayPass tableAddress header config → header = config.basicHeader) ↔
      ∀ text, header = ascii "Basic " ++ text → text.length % 4 = 0 →
        PlainlySpelled tableAddress text := by
  constructor
  · rintro h text rfl hlength
    exact plainlySpelled_of_forall hlength h
  · exact fun hplain config => eq_basicHeader hplain

/-- The credentials `admin:secret` with a NUL behind them pass as well. -/
theorem mayPass_zero_behind :
    ¬∀ (tableAddress : UInt32) (header : List UInt8) (config : AuthConfig),
      authValidateBasic tableAddress (some header) config = some .success →
        header = config.basicHeader := by
  intro h
  have hheader := h 0 (ascii "Basic YWRtaW46c2VjcmV0AA==") (adminConfig "secret")
    (by decide +kernel)
  exact absurd hheader (by decide +kernel)

/-! ### The header of a client that knows the credentials -/

section Complete

variable {request line text : List UInt8} {config : AuthConfig}

/-- The value of a header ends in front of the end of its line. -/
theorem extractAuthHeader_line (hfound : strstr request (ascii "Authorization:") = some line)
    (hbegins : ascii "Authorization: Basic " ++ text ++ ascii "\r\n" <+: line)
    (hline : '\r'.toUInt8 ∉ text) (hlength : text.length < 250) :
    extractAuthHeader request = some (ascii "Basic " ++ text) := by
  obtain ⟨rest, rfl⟩ := hbegins
  have hvalue : ((ascii "Authorization: Basic " ++ text ++ ascii "\r\n" ++ rest).drop 14).dropWhile
      (· = ' '.toUInt8) = (ascii "Basic " ++ text) ++ (ascii "\r\n" ++ rest) := by
    rw [List.append_assoc, List.append_assoc, List.append_assoc]
    rfl
  have hnone : strstr (ascii "Basic " ++ text) (ascii "\r\n") = none := by
    refine strstr_eq_none_iff.mpr fun hoccurs => ?_
    rcases List.mem_append.mp (hoccurs.subset List.mem_cons_self) with hmem | hmem
    · exact absurd hmem (by decide)
    · exact hline hmem
  have hstop : strstr ((ascii "Basic " ++ text) ++ (ascii "\r\n" ++ rest)) (ascii "\r\n") =
      some (ascii "\r\n" ++ rest) :=
    (strstr_append_cons _ (by decide) hnone).trans (strstr_of_begins (List.prefix_append _ _))
  have hcut : (ascii "Basic " ++ text).length ≤ 255 := by
    rw [List.length_append]
    change 6 + text.length ≤ 255
    omega
  simp only [extractAuthHeader, hfound, Option.orElse_some, Option.bind_eq_bind, Option.bind_some,
    hvalue, hstop, between_append, List.take_of_length_le hcut]

/-- Every array on the way of the credentials holds what is put into it. The array for the
base64 is the caller's and needs 173 bytes. -/
structure ArraysSuffice (tableAddress : UInt32) (config : AuthConfig) (header : List UInt8) :
    Prop where
  credentials : printedCredentials config.username.bytes config.password.bytes =
    config.username.bytes ++ ':'.toUInt8 :: config.password.bytes
  encoded : (authEncodeBasicCredentials config.username.bytes config.password.bytes).length < 173
  copied : header.length < 256
  decoded : ∀ bytes, authBase64Decode tableAddress (header.drop 6) = some bytes →
    bytes.length < 128
  fields : authParseBasicHeader tableAddress header =
    .credentials config.username config.password

/-- The credentials of an array each, with a colon between them, fit into 128 bytes. -/
theorem printedCredentials_eq (username password : FixedString 64) :
    printedCredentials username.bytes password.bytes =
      username.bytes ++ ':'.toUInt8 :: password.bytes := by
  have husername := username.fits
  have hpassword := password.fits
  refine List.take_of_length_le ?_
  rw [List.length_append, List.length_cons]
  omega

/-- The header of the configured credentials is read back. -/
theorem arraysSuffice_basicHeader (tableAddress : UInt32) (config : AuthConfig)
    (hcolon : ':'.toUInt8 ∉ config.username.bytes) :
    ArraysSuffice tableAddress config config.basicHeader := by
  have husername := config.username.fits
  have hpassword := config.password.fits
  have hsplit := decodeGroups_credentials tableAddress config.username config.password
  have hbytes := decodeGroups_encode tableAddress
    (config.username.bytes ++ ':'.toUInt8 :: config.password.bytes)
  have hlength := base64Alphabet.length_encode
    (config.username.bytes ++ ':'.toUInt8 :: config.password.bytes)
  rw [authBase64Encode_eq] at hsplit
  have hdecoded : (config.username.bytes ++ ':'.toUInt8 :: config.password.bytes).length < 128 := by
    rw [List.length_append, List.length_cons]
    omega
  constructor
  · exact printedCredentials_eq config.username config.password
  · rw [authEncodeBasicCredentials, printedCredentials_eq, authBase64Encode_eq, hlength]
    omega
  · rw [AuthConfig.basicHeader, authBase64Encode_eq, List.length_append, hlength]
    change 6 + _ < 256
    omega
  · intro bytes hsome
    have hdrop : config.basicHeader.drop 6 = base64Alphabet.encode
        (config.username.bytes ++ ':'.toUInt8 :: config.password.bytes) := by
      rw [AuthConfig.basicHeader, authBase64Encode_eq]
      rfl
    rw [hdrop, authBase64Decode_alphabet] at hsome
    rwa [← Option.some.inj hsome]
  · rw [AuthConfig.basicHeader, authBase64Encode_eq,
      authParseBasicHeader_split (by omega) (by rwa [hbytes]) hsplit hcolon,
      FixedString.copy_bytes, FixedString.copy_bytes]

end Complete

/-- A request with the header that a client writes for the configured credentials passes, and no
array on the way is too small for them. -/
theorem authCheckHttpRequest_credentials (tableAddress : UInt32) {request line : List UInt8}
    (config : AuthConfig) (client : ClientInfo) (hcolon : ':'.toUInt8 ∉ config.username.bytes)
    (hfound : strstr request (ascii "Authorization:") = some line)
    (hbegins : ascii "Authorization: Basic " ++
      authEncodeBasicCredentials config.username.bytes config.password.bytes ++ ascii "\r\n" <+:
        line) :
    authCheckHttpRequest tableAddress request config client = some .success ∧
      ∃ header, extractAuthHeader request = some header ∧
        ArraysSuffice tableAddress config header := by
  have hheader : extractAuthHeader request = some config.basicHeader := by
    have hlength := base64Alphabet.length_encode
      (config.username.bytes ++ ':'.toUInt8 :: config.password.bytes)
    have husername := config.username.fits
    have hpassword := config.password.fits
    rw [authEncodeBasicCredentials, printedCredentials_eq, authBase64Encode_eq] at hbegins
    rw [AuthConfig.basicHeader, authBase64Encode_eq]
    refine extractAuthHeader_line hfound hbegins
      (notMem_encode (by decide +kernel) (by decide) _) ?_
    rw [hlength, List.length_append, List.length_cons]
    omega
  have hsuffice := arraysSuffice_basicHeader tableAddress config hcolon
  refine ⟨?_, config.basicHeader, hheader, hsuffice⟩
  unfold authCheckHttpRequest
  split_ifs
  · rfl
  · rw [hheader, authValidateBasic, hsuffice.fields]
    exact if_pos ⟨rfl, rfl⟩

/-- The request with `admin:secret` is one of these. -/
theorem authCheckHttpRequest_credentials_admin :
    authCheckHttpRequest 0 basicRequest (adminConfig "secret") lanClient = some .success ∧
      ∃ header, extractAuthHeader basicRequest = some header ∧
        ArraysSuffice 0 (adminConfig "secret") header := by
  have hfound : strstr basicRequest (ascii "Authorization:") = some (basicRequest.drop 22) := by
    decide +kernel
  exact authCheckHttpRequest_credentials 0 (adminConfig "secret") lanClient (by decide +kernel)
    hfound (by decide +kernel)

end AuthUtils
