import Strero.Lib.CString

/-!
# Authentication

Basic authentication and the WS-Security username token, on the text of a
request. A request is the list of bytes before its terminating NUL. The value
`none` stands for a write past the end of the array for the decoded credentials.
-/

namespace AuthUtils

open CString

/-- `auth_result_t`. -/
inductive AuthResult
  | success | required | invalid | error
deriving DecidableEq, Repr

/-- `auth_config_t`. -/
structure AuthConfig where
  enabled : Bool
  localhostBypass : Bool
  username : FixedString 64
  password : FixedString 64
deriving DecidableEq

/-- `client_info_t`: the peer's address and whether it is local. -/
structure ClientInfo where
  address : UInt32
  isLocalhost : Bool
deriving DecidableEq

/-- `auth_is_localhost`, on an address in host order. -/
def authIsLocalhost (address : UInt32) : Bool := address >>> 24 = 127 || address = 0

/-- `auth_get_client_info`, from what `getpeername` returns. -/
def authGetClientInfo (peer : Option UInt32) : Option ClientInfo :=
  peer.map fun address => ⟨address, authIsLocalhost address⟩

/-- `auth_is_required`. -/
def authIsRequired (config : AuthConfig) (client : ClientInfo) : Bool :=
  if !config.enabled then false
  else if config.localhostBypass && client.isLocalhost then false
  else true

/-! ### Basic authentication -/

/-- `base64_chars`. -/
def base64Chars : List UInt8 :=
  ascii "ABCDEFGHIJKLMNOPQRSTUVWXYZabcdefghijklmnopqrstuvwxyz0123456789+/"

/-- The value of a character. Outside the alphabet `strchr` returns NULL, and
the code subtracts the address of the table from it. -/
def sextet (tableAddress : UInt32) (c : UInt8) : UInt32 :=
  if c = '='.toUInt8 then 0
  else match base64Chars.idxOf? c with
    | some i => UInt32.ofNat i
    | none => 0 - tableAddress

/-- The bytes of one group of four characters. -/
def decodeGroup (tableAddress : UInt32) (a b c d : UInt8) : List UInt8 :=
  let triple := sextet tableAddress a <<< 18 + sextet tableAddress b <<< 12 +
    sextet tableAddress c <<< 6 + sextet tableAddress d
  [(triple >>> 16).toUInt8] ++ (if c ≠ '='.toUInt8 then [(triple >>> 8).toUInt8] else []) ++
    if d ≠ '='.toUInt8 then [triple.toUInt8] else []

/-- The loop of `auth_base64_decode`. -/
def decodeGroups (tableAddress : UInt32) : List UInt8 → List UInt8
  | a :: b :: c :: d :: rest => decodeGroup tableAddress a b c d ++ decodeGroups tableAddress rest
  | _ => []

/-- `auth_base64_decode`. -/
def authBase64Decode (tableAddress : UInt32) (input : List UInt8) : Option (List UInt8) :=
  if input.length % 4 ≠ 0 then none else some (decodeGroups tableAddress input)

/-- What `auth_parse_basic_header` comes to. -/
inductive ParsedHeader
  | overflow
  | failed
  | credentials (username password : FixedString 64)
deriving DecidableEq

/-- `auth_parse_basic_header`. The decoded bytes and a NUL go into an array of
128 bytes, which is then read as a string. -/
def authParseBasicHeader (tableAddress : UInt32) (authHeader : List UInt8) : ParsedHeader :=
  if !(ascii "Basic ").isPrefixOf authHeader then .failed
  else match authBase64Decode tableAddress (authHeader.drop 6) with
    | none => .failed
    | some decoded =>
      if 128 ≤ decoded.length then .overflow
      else match strchr (cString decoded) ':'.toUInt8 with
        | none => .failed
        | some colon =>
          .credentials (.copy 64 size64_pos (between (cString decoded) colon))
            (.copy 64 size64_pos (colon.drop 1))

/-- `auth_validate_basic`. -/
def authValidateBasic (tableAddress : UInt32) (authHeader : Option (List UInt8))
    (config : AuthConfig) : Option AuthResult :=
  match authHeader with
  | none => some .required
  | some header =>
    match authParseBasicHeader tableAddress header with
    | .overflow => none
    | .failed => some .invalid
    | .credentials username password =>
      if username = config.username ∧ password = config.password then some .success
      else some .invalid

/-- `extract_auth_header`. Without an end of line the rest of the request is the
value, and with one it is cut to the 255 bytes of the copy. -/
def extractAuthHeader (request : List UInt8) : Option (List UInt8) := do
  let line ← (strstr request (ascii "Authorization:")).orElse fun _ =>
    strstr request (ascii "authorization:")
  let value := (line.drop 14).dropWhile (· = ' '.toUInt8)
  match (strstr value (ascii "\r\n")).orElse fun _ => strstr value (ascii "\n") with
  | none => some value
  | some stop => some ((between value stop).take 255)

/-- `auth_check_http_request`. -/
def authCheckHttpRequest (tableAddress : UInt32) (request : List UInt8) (config : AuthConfig)
    (client : ClientInfo) : Option AuthResult :=
  if !authIsRequired config client then some .success
  else authValidateBasic tableAddress (extractAuthHeader request) config

/-- `auth_check_rtsp_request`. -/
def authCheckRtspRequest (tableAddress : UInt32) (request : List UInt8) (config : AuthConfig)
    (client : ClientInfo) : Option AuthResult :=
  authCheckHttpRequest tableAddress request config client

/-! ### WS-Security -/

/-- Where the text of the first `Username` element starts. -/
def usernameStart (request : List UInt8) : Option (List UInt8) :=
  match strstr request (ascii "<wsse:Username>"), strstr request (ascii "<Username>") with
  | some qualified, some plain =>
    if before qualified plain then some (qualified.drop 15) else some (plain.drop 10)
  | some qualified, none => some (qualified.drop 15)
  | none, some plain => some (plain.drop 10)
  | none, none => none

/-- `parse_ws_security_token`: the username, and a password that is always
empty. -/
def parseWsSecurityToken (request : List UInt8) : Option (FixedString 64 × FixedString 64) := do
  let start ← usernameStart request
  let stop ← earlier (strstr start (ascii "</wsse:Username>")) (strstr start (ascii "</Username>"))
  some (.copy 64 size64_pos (between start stop), .copy 64 size64_pos [])

/-- The request holds both elements of a WS-Security header. -/
def hasUsernameToken (request : List UInt8) : Bool :=
  (contains request (ascii "<Security") || contains request (ascii "<wsse:Security")) &&
    (contains request (ascii "<UsernameToken") || contains request (ascii "<wsse:UsernameToken"))

/-- `auth_check_onvif_request`. -/
def authCheckOnvifRequest (tableAddress : UInt32) (request : List UInt8) (config : AuthConfig)
    (client : ClientInfo) : Option AuthResult :=
  if !authIsRequired config client then some .success
  else if hasUsernameToken request then
    match parseWsSecurityToken request with
    | some (username, _) =>
      if username = config.username then some .success else some .invalid
    | none => authCheckHttpRequest tableAddress request config client
  else authCheckHttpRequest tableAddress request config client

/-! ### What a successful check says about the password -/

/-- A header passes only with the configured credentials in it. -/
theorem authValidateBasic_success {tableAddress : UInt32} {authHeader : Option (List UInt8)}
    {config : AuthConfig} (h : authValidateBasic tableAddress authHeader config = some .success) :
    ∃ header, authHeader = some header ∧ authParseBasicHeader tableAddress header =
      .credentials config.username config.password := by
  cases authHeader with
  | none => cases h
  | some header =>
    refine ⟨header, rfl, ?_⟩
    rw [authValidateBasic] at h
    cases hparse : authParseBasicHeader tableAddress header with
    | overflow => simp [hparse] at h
    | failed => simp [hparse] at h
    | credentials username password =>
      rw [hparse] at h
      dsimp only at h
      split_ifs at h with hequal
      · rw [hequal.1, hequal.2]
      · cases h

/-- One header passes under one password only. -/
theorem authCheckHttpRequest_password {tableAddress : UInt32} {request : List UInt8}
    {client : ClientInfo} {config₁ config₂ : AuthConfig}
    (hrequired₁ : authIsRequired config₁ client = true)
    (hrequired₂ : authIsRequired config₂ client = true)
    (h₁ : authCheckHttpRequest tableAddress request config₁ client = some .success)
    (h₂ : authCheckHttpRequest tableAddress request config₂ client = some .success) :
    config₁.password = config₂.password := by
  rw [authCheckHttpRequest, hrequired₁] at h₁
  rw [authCheckHttpRequest, hrequired₂] at h₂
  obtain ⟨header, hheader, hparse₁⟩ := authValidateBasic_success h₁
  obtain ⟨header', hheader', hparse₂⟩ := authValidateBasic_success h₂
  obtain rfl : header = header' := Option.some.inj (hheader.symm.trans hheader')
  rw [hparse₁] at hparse₂
  injection hparse₂

/-- The request carries a WS-Security username token for `username`. -/
def TokenNames (request : List UInt8) (username : FixedString 64) : Prop :=
  hasUsernameToken request = true ∧ (parseWsSecurityToken request).map Prod.fst = some username

instance (request : List UInt8) (username : FixedString 64) :
    Decidable (TokenNames request username) :=
  inferInstanceAs (Decidable (_ ∧ _))

/-- A token for the configured user is enough. -/
theorem authCheckOnvifRequest_of_token {tableAddress : UInt32} {request : List UInt8}
    {client : ClientInfo} {config : AuthConfig} (hrequired : authIsRequired config client = true)
    (htoken : TokenNames request config.username) :
    authCheckOnvifRequest tableAddress request config client = some .success := by
  obtain ⟨hhas, hname⟩ := htoken
  obtain ⟨token, hparse, hname⟩ := Option.map_eq_some_iff.mp hname
  rw [authCheckOnvifRequest, hrequired, hhas, hparse]
  simp [hname]

/-- Without one, only the Basic header can succeed. -/
theorem authCheckOnvifRequest_of_not_token {tableAddress : UInt32} {request : List UInt8}
    {client : ClientInfo} {config : AuthConfig} (hrequired : authIsRequired config client = true)
    (htoken : ¬TokenNames request config.username)
    (h : authCheckOnvifRequest tableAddress request config client = some .success) :
    authCheckHttpRequest tableAddress request config client = some .success := by
  rw [authCheckOnvifRequest, hrequired] at h
  cases hhas : hasUsernameToken request with
  | false => simpa [hhas] using h
  | true =>
    cases hparse : parseWsSecurityToken request with
    | none => simpa [hhas, hparse] using h
    | some token =>
      have hname : token.1 ≠ config.username := fun hname =>
        htoken ⟨hhas, by rw [hparse, Option.map_some, hname]⟩
      simp [hhas, hparse, hname] at h

/-- One request passes under two passwords of one user exactly when it carries a
token for that user. -/
theorem not_success_twice_iff (tableAddress : UInt32) (request : List UInt8)
    (client : ClientInfo) {config₁ config₂ : AuthConfig}
    (husername : config₁.username = config₂.username)
    (hpassword : config₁.password ≠ config₂.password)
    (hrequired₁ : authIsRequired config₁ client = true)
    (hrequired₂ : authIsRequired config₂ client = true) :
    ¬(authCheckOnvifRequest tableAddress request config₁ client = some .success ∧
        authCheckOnvifRequest tableAddress request config₂ client = some .success) ↔
      ¬TokenNames request config₁.username := by
  refine not_congr ⟨?_, fun htoken => ?_⟩
  · rintro ⟨h₁, h₂⟩
    by_contra htoken
    exact hpassword (authCheckHttpRequest_password hrequired₁ hrequired₂
      (authCheckOnvifRequest_of_not_token hrequired₁ htoken h₁)
      (authCheckOnvifRequest_of_not_token hrequired₂ (husername ▸ htoken) h₂))
  · exact ⟨authCheckOnvifRequest_of_token hrequired₁ htoken,
      authCheckOnvifRequest_of_token hrequired₂ (husername ▸ htoken)⟩

/-- Authentication for the user `admin`, also of local clients. -/
def adminConfig (password : String) : AuthConfig where
  enabled := true
  localhostBypass := false
  username := .copy 64 size64_pos (ascii "admin")
  password := .copy 64 size64_pos (ascii password)

/-- A client on the local network. -/
def lanClient : ClientInfo := ⟨0xC0A80002, false⟩

/-- A request with the Basic credentials `admin:secret`. -/
def basicRequest : List UInt8 :=
  ascii "POST /onvif HTTP/1.1\r\nAuthorization: Basic YWRtaW46c2VjcmV0\r\n\r\n"

/-- A request with a token that names `admin` and proves nothing. -/
def tokenRequest : List UInt8 :=
  ascii "POST /onvif HTTP/1.1\r\n\r\n<wsse:Security><wsse:UsernameToken>" ++
    ascii "<wsse:Username>admin</wsse:Username></wsse:UsernameToken></wsse:Security>"

/-- The Basic credentials `admin:secret` pass, and under one password only. -/
theorem not_success_twice_basicRequest :
    authCheckOnvifRequest 0 basicRequest (adminConfig "secret") lanClient = some .success ∧
      ¬(authCheckOnvifRequest 0 basicRequest (adminConfig "secret") lanClient = some .success ∧
        authCheckOnvifRequest 0 basicRequest (adminConfig "other") lanClient = some .success) :=
  ⟨by decide +kernel, (not_success_twice_iff 0 basicRequest lanClient (by decide +kernel)
    (by decide +kernel) (by decide) (by decide)).mpr (by decide +kernel)⟩

/-- A token without any password passes under every password. -/
theorem tokenRequest_success_twice :
    ¬∀ (tableAddress : UInt32) (request : List UInt8) (client : ClientInfo)
        (config₁ config₂ : AuthConfig), config₁.username = config₂.username →
      config₁.password ≠ config₂.password → authIsRequired config₁ client = true →
      authIsRequired config₂ client = true →
      ¬(authCheckOnvifRequest tableAddress request config₁ client = some .success ∧
        authCheckOnvifRequest tableAddress request config₂ client = some .success) := fun h =>
  h 0 tokenRequest lanClient (adminConfig "secret") (adminConfig "other") rfl (by decide +kernel)
    rfl rfl (by decide +kernel)

end AuthUtils
