import Strero.Onvif
import Strero.Rtsp.Setup

/-!
# The URI of a stream

A client asks the ONVIF service for the URI of a profile and the RTSP server for the stream
behind it. The service finds the profile by a search through the XML and writes a port and a
stream name of its own into the URI. This file says when the server answers under that URI with
the stream of the profile.
-/

namespace Onvif

open CString Scanf ConfigFile Rtsp

/-! ### The handler -/

/-- The text behind the start of a token. -/
def tokenStart (body : List UInt8) : Option (List UInt8) :=
  ((strstr body (ascii "ProfileToken>")).map (List.drop 13)).orElse fun _ =>
    ((strstr body (ascii "trt:ProfileToken>")).map (List.drop 17)).orElse fun _ =>
      (strstr body (ascii "ProfileToken=\"")).map (List.drop 14)

/-- What ends a token. -/
def tokenClosing (body : List UInt8) : List UInt8 :=
  if contains body (ascii "ProfileToken=\"") then ascii "\"" else ascii "</"

/-- The token of a request, `Profile_1` if none is found that fits. -/
def profileToken (request : List UInt8) : List UInt8 :=
  match (strstr request (ascii "\r\n\r\n")).map (List.drop 4) with
  | none => ascii "Profile_1"
  | some body =>
    match tokenStart body with
    | none => ascii "Profile_1"
    | some start =>
      match strstr start (tokenClosing body) with
      | none => ascii "Profile_1"
      | some stop =>
        let token := between start stop
        if token.length < 32 then token else ascii "Profile_1"

/-- The parts of `rtsp_uri`. -/
structure StreamUri where
  serverIp : FixedString 64
  rtspPort : ℤ
  streamName : List UInt8

/-- The URI of `handle_get_stream_uri`. -/
def streamUri (serverIp : FixedString 64) (request : List UInt8) : StreamUri where
  serverIp := serverIp
  rtspPort := 554
  streamName := if profileToken request = ascii "Profile_2" then ascii "ch1" else ascii "ch0"

/-- The string in `rtsp_uri`. -/
def StreamUri.text (uri : StreamUri) : List UInt8 :=
  (ascii "rtsp://" ++ uri.serverIp.bytes ++ ascii ":" ++ printInt uri.rtspPort ++ ascii "/" ++
    uri.streamName).take 127

/-- What stands behind the URI in the response. -/
def responseEnd : List UInt8 :=
  ascii "</tt:Uri><tt:InvalidAfterConnect>false</tt:InvalidAfterConnect>" ++
    ascii "<tt:InvalidAfterReboot>false</tt:InvalidAfterReboot>" ++
    ascii "<tt:Timeout>PT60S</tt:Timeout></trt:MediaUri></trt:GetStreamUriResponse>"

/-- `handle_get_stream_uri`: the body of its response. -/
def handleGetStreamUri (serverIp : FixedString 64) (request : List UInt8) : List UInt8 :=
  (ascii "<trt:GetStreamUriResponse><trt:MediaUri><tt:Uri>" ++
    (streamUri serverIp request).text ++ responseEnd).take 1023

/-- The response has the URI. -/
theorem text_infix_response (serverIp : FixedString 64) (request : List UInt8) :
    (streamUri serverIp request).text <:+: handleGetStreamUri serverIp request := by
  have htext : (streamUri serverIp request).text.length ≤ 127 := List.length_take_le _ _
  have hstart : (ascii "<trt:GetStreamUriResponse><trt:MediaUri><tt:Uri>").length = 48 := rfl
  have hend : responseEnd.length = 187 := by decide +kernel
  unfold handleGetStreamUri
  rw [List.take_of_length_le (by simp only [List.length_append]; omega)]
  exact List.infix_append _ _ _

/-! ### Requests -/

/-- The profiles that `GetProfiles` lists. -/
inductive Profile
  | main
  | sub
deriving DecidableEq

/-- The token of a profile. -/
def Profile.token : Profile → List UInt8
  | .main => ascii "Profile_1"
  | .sub => ascii "Profile_2"

/-- The channel of a profile. -/
def Profile.channel : Profile → ℕ
  | .main => 0
  | .sub => 1

/-- The name that the service has for the stream of a profile. -/
def Profile.streamName : Profile → List UInt8
  | .main => ascii "ch0"
  | .sub => ascii "ch1"

/-- The accepted spellings of a token. -/
inductive Spelling
  | element
  | prefixedElement
  | attributeValue
deriving DecidableEq

/-- What stands in front of the token and behind it. -/
def Spelling.texts : Spelling → List UInt8 × List UInt8
  | .element => (ascii "<ProfileToken>", ascii "</ProfileToken>")
  | .prefixedElement => (ascii "<trt:ProfileToken>", ascii "</trt:ProfileToken>")
  | .attributeValue => (ascii "ProfileToken=\"", ascii "\"")

/-- The end of the headers. -/
def headersEnd : List UInt8 := ascii "\r\n\r\n"

/-- A request whose body names a profile, between other texts. -/
structure StreamUriRequest where
  headers : List UInt8
  headers_end : strstr (headers ++ headersEnd) headersEnd = some headersEnd
  front : List UInt8
  spelling : Spelling
  profile : Profile
  back : List UInt8

namespace StreamUriRequest

/-- The body of the request. -/
def body (r : StreamUriRequest) : List UInt8 :=
  r.front ++ (r.spelling.texts.1 ++ (r.profile.token ++ (r.spelling.texts.2 ++ r.back)))

/-- The text of the request. -/
def bytes (r : StreamUriRequest) : List UInt8 := r.headers ++ headersEnd ++ r.body

/-- The text that the handler reads a token from begins with `Profile_2` and what it takes for
the end of a token. -/
def ReadsSub (r : StreamUriRequest) : Prop :=
  ∃ start ∈ tokenStart r.body, ascii "Profile_2" ++ tokenClosing r.body <+: start

instance ReadsSub.decidable (r : StreamUriRequest) : Decidable r.ReadsSub :=
  inferInstanceAs (Decidable (∃ start ∈ tokenStart r.body, _))

/-- The search for the body finds the body. -/
theorem strstr_headersEnd (r : StreamUriRequest) :
    (strstr r.bytes (ascii "\r\n\r\n")).map (List.drop 4) = some r.body := by
  have hfound := strstr_append r.headers_end r.body
  rw [bytes, show ascii "\r\n\r\n" = headersEnd from rfl, hfound]
  rfl

/-- The token is `Profile_2` exactly if that is read. -/
theorem profileToken_eq_iff (r : StreamUriRequest) :
    profileToken r.bytes = ascii "Profile_2" ↔ r.ReadsSub := by
  have hother : ascii "Profile_1" ≠ ascii "Profile_2" := by decide
  have hclosing : strstr (ascii "Profile_2" ++ tokenClosing r.body) (tokenClosing r.body) =
      some (tokenClosing r.body) := by
    unfold tokenClosing
    split <;> decide
  unfold profileToken ReadsSub
  rw [r.strstr_headersEnd]
  dsimp only
  cases tokenStart r.body with
  | none => simp [hother]
  | some start =>
    simp only [Option.mem_def, Option.some.injEq, exists_eq_left', ← between_strstr_iff hclosing]
    cases strstr start (tokenClosing r.body) with
    | none => simp [hother]
    | some stop =>
      simp only [Option.some.injEq, exists_eq_left']
      split
      case isTrue => rfl
      case isFalse hlong =>
        refine iff_of_false hother fun htoken => hlong ?_
        rw [htoken]
        decide

/-! ### Requests that name a profile once -/

/-- The texts around the token have no token of their own. -/
def NamesOnce (r : StreamUriRequest) : Prop :=
  ¬ascii "ProfileToken" <:+: r.front ∧ ¬ascii "ProfileToken" <:+: r.back

instance NamesOnce.decidable (r : StreamUriRequest) : Decidable r.NamesOnce :=
  inferInstanceAs (Decidable (_ ∧ _))

/-- A text that begins with the name of the token is not found where that is not. -/
theorem notInfix_of_name (needle : List UInt8) {text : List UInt8}
    (hneedle : ascii "ProfileToken" <+: needle)
    (h : ¬ascii "ProfileToken" <:+: text) : ¬needle <:+: text :=
  fun hfound => h (hneedle.isInfix.trans hfound)

/-- The token of an element is found. -/
theorem tokenStart_element {front lead : List UInt8} (hfront : ¬ascii "ProfileToken" <:+: front)
    (hlead : lead = ascii "<" ∨ lead = ascii "<trt:") (rest : List UInt8) :
    tokenStart (front ++ (lead ++ (ascii "ProfileToken>" ++ rest))) = some rest := by
  have hnone : strstr (front ++ lead) (ascii "ProfileToken>") = none := by
    rw [strstr_eq_none_iff]
    have hwhole := notInfix_of_name (ascii "ProfileToken>") (by decide) hfront
    rcases hlead with rfl | rfl
    · rw [show ascii "<" = '<'.toUInt8 :: [] from rfl, infix_append_cons_iff (by decide)]
      exact not_or.mpr ⟨hwhole, by decide⟩
    · rw [show ascii "<trt:" = '<'.toUInt8 :: ascii "trt:" from rfl,
        infix_append_cons_iff (by decide)]
      exact not_or.mpr ⟨hwhole, by decide⟩
  have hfound : strstr (front ++ (lead ++ (ascii "ProfileToken>" ++ rest)))
      (ascii "ProfileToken>") = some (ascii "ProfileToken>" ++ rest) := by
    rw [← List.append_assoc]
    exact (strstr_append_cons (c := 'P'.toUInt8) (ascii "rofileToken>") (by decide)
      hnone).trans (strstr_of_begins (List.prefix_append _ _))
  unfold tokenStart
  rw [hfound]
  rfl

/-- An element is not an attribute. -/
theorem tokenClosing_element {front back : List UInt8} {spelling : Spelling} (profile : Profile)
    (hfront : ¬ascii "ProfileToken" <:+: front) (hback : ¬ascii "ProfileToken" <:+: back)
    (hspelling : spelling ≠ .attributeValue) :
    tokenClosing (front ++ (spelling.texts.1 ++ (profile.token ++ (spelling.texts.2 ++ back)))) =
      ascii "</" := by
  obtain ⟨name, hname, htexts⟩ : ∃ name,
      (name = ascii "ProfileToken" ∨ name = ascii "trt:ProfileToken") ∧
        spelling.texts = ('<'.toUInt8 :: (name ++ ['>'.toUInt8]),
          '<'.toUInt8 :: (ascii "/" ++ name ++ ['>'.toUInt8])) := by
    cases spelling with
    | element => exact ⟨_, .inl rfl, rfl⟩
    | prefixedElement => exact ⟨_, .inr rfl, rfl⟩
    | attributeValue => exact absurd rfl hspelling
  have hnone : ¬ascii "ProfileToken=\"" <:+: front ++ '<'.toUInt8 :: (name ++ '>'.toUInt8 ::
      (profile.token ++ '<'.toUInt8 :: (ascii "/" ++ name ++ '>'.toUInt8 :: back))) := by
    rw [infix_append_cons_iff (by decide), infix_append_cons_iff (by decide),
      infix_append_cons_iff (by decide), infix_append_cons_iff (by decide)]
    simp only [not_or]
    refine ⟨notInfix_of_name _ (by decide) hfront, ?_, ?_, ?_,
      notInfix_of_name _ (by decide) hback⟩
    · rcases hname with rfl | rfl <;> decide
    · cases profile <;> decide
    · rcases hname with rfl | rfl <;> decide
  rw [htexts]
  simp only [List.cons_append, List.append_assoc, List.nil_append] at hnone ⊢
  unfold tokenClosing contains
  rw [strstr_eq_none_iff.mpr hnone]
  rfl

/-- The value of an attribute is found, up to its quote. -/
theorem tokenStart_attribute {front back : List UInt8} (profile : Profile)
    (hfront : ¬ascii "ProfileToken" <:+: front) (hback : ¬ascii "ProfileToken" <:+: back) :
    let body := front ++ (ascii "ProfileToken=\"" ++ (profile.token ++ (ascii "\"" ++ back)))
    tokenStart body = some (profile.token ++ (ascii "\"" ++ back)) ∧
      tokenClosing body = ascii "\"" := by
  intro body
  have hleft : ¬ascii "ProfileToken>" <:+: front ++ ascii "ProfileToken" := by
    rw [← strstr_eq_none_iff]
    have hnone := strstr_eq_none_iff.mpr
      (notInfix_of_name (ascii "ProfileToken>") (by decide) hfront)
    exact (strstr_append_cons (c := 'P'.toUInt8) (ascii "rofileToken>") (by decide)
      hnone).trans (by decide)
  have helement : ¬ascii "ProfileToken>" <:+: body := by
    rw [show body = front ++ ascii "ProfileToken" ++ '='.toUInt8 :: ('"'.toUInt8 ::
      (profile.token ++ '"'.toUInt8 :: back)) by
        simp only [body, List.append_assoc]
        rfl, infix_append_cons_iff (by decide)]
    refine not_or.mpr ⟨hleft, ?_⟩
    rw [← List.cons_append, infix_append_cons_iff (by decide)]
    refine not_or.mpr ⟨?_, notInfix_of_name _ (by decide) hback⟩
    cases profile <;> decide
  have hprefixed : ¬ascii "trt:ProfileToken>" <:+: body := fun hfound =>
    helement (List.IsInfix.trans (by decide) hfound)
  have hfound : strstr body (ascii "ProfileToken=\"") =
      some (ascii "ProfileToken=\"" ++ (profile.token ++ (ascii "\"" ++ back))) := by
    have hnone := strstr_eq_none_iff.mpr
      (notInfix_of_name (ascii "ProfileToken=\"") (by decide) hfront)
    exact (strstr_append_cons (c := 'P'.toUInt8) (ascii "rofileToken=\"") (by decide)
      hnone).trans (strstr_of_begins (List.prefix_append _ _))
  unfold tokenStart tokenClosing contains
  rw [strstr_eq_none_iff.mpr helement, strstr_eq_none_iff.mpr hprefixed, hfound]
  exact ⟨rfl, rfl⟩

/-- The token that is named once is what the handler reads, up to what ends it. -/
theorem tokenStart_of_namesOnce {r : StreamUriRequest} (h : r.NamesOnce) :
    tokenStart r.body = some (r.profile.token ++ (r.spelling.texts.2 ++ r.back)) ∧
      tokenClosing r.body <+: r.spelling.texts.2 := by
  obtain ⟨hfront, hback⟩ := h
  unfold body
  cases r.spelling with
  | element =>
    refine ⟨tokenStart_element hfront (.inl rfl) _, ?_⟩
    rw [tokenClosing_element r.profile hfront hback (by decide)]
    decide
  | prefixedElement =>
    refine ⟨tokenStart_element hfront (.inr rfl) _, ?_⟩
    rw [tokenClosing_element r.profile hfront hback (by decide)]
    decide
  | attributeValue =>
    obtain ⟨hstart, hclosing⟩ := tokenStart_attribute r.profile hfront hback
    exact ⟨hstart, hclosing ▸ List.prefix_rfl⟩

/-- A request that names one profile once is read right. -/
theorem readsSub_iff_of_namesOnce {r : StreamUriRequest} (h : r.NamesOnce) :
    r.ReadsSub ↔ r.profile = .sub := by
  obtain ⟨hstart, hclosing⟩ := tokenStart_of_namesOnce h
  unfold ReadsSub
  simp only [hstart, Option.mem_def, Option.some.injEq, exists_eq_left']
  cases hprofile : r.profile with
  | main =>
    refine iff_of_false (fun hread => ?_) (by decide)
    have hsame := List.prefix_of_prefix_length_le ((List.prefix_append _ _).trans hread)
      (List.prefix_append Profile.main.token _) (by decide)
    exact absurd hsame (by decide)
  | sub =>
    refine iff_of_true ?_ rfl
    exact (List.prefix_append_right_inj _).mpr (hclosing.trans (List.prefix_append _ _))

/-! ### The URI -/

/-- The stream name that the request leads to. -/
def streamName (r : StreamUriRequest) : List UInt8 :=
  if r.ReadsSub then ascii "ch1" else ascii "ch0"

theorem streamUri_streamName (serverIp : FixedString 64) (r : StreamUriRequest) :
    (streamUri serverIp r.bytes).streamName = r.streamName := by
  unfold streamUri streamName
  simp only [r.profileToken_eq_iff]

theorem length_streamName (r : StreamUriRequest) : r.streamName.length = 3 := by
  unfold streamName
  split <;> rfl

/-- The URI is not cut. -/
theorem streamUri_text (serverIp : FixedString 64) (r : StreamUriRequest) :
    (streamUri serverIp r.bytes).text =
      ascii "rtsp://" ++ (serverIp.bytes ++ (ascii ":554/" ++ r.streamName)) := by
  unfold StreamUri.text
  rw [streamUri_streamName]
  have hport : ascii ":" ++ printInt 554 ++ ascii "/" = ascii ":554/" := by decide
  have htext : ascii "rtsp://" ++ serverIp.bytes ++ ascii ":" ++ printInt 554 ++ ascii "/" ++
      r.streamName = ascii "rtsp://" ++ (serverIp.bytes ++ (ascii ":554/" ++ r.streamName)) := by
    rw [← hport]
    simp only [List.append_assoc]
  have hip := serverIp.fits
  have hname := r.length_streamName
  have hscheme : (ascii "rtsp://").length = 7 := rfl
  have hmiddle : (ascii ":554/").length = 5 := rfl
  refine (congrArg (List.take 127) htext).trans (List.take_of_length_le ?_)
  simp only [List.length_append]
  omega

/-- The URL of a request for the URI: the text up to white space. -/
def url (serverIp : FixedString 64) (r : StreamUriRequest) : Url where
  bytes := (streamUri serverIp r.bytes).text.takeWhile (!isSpace ·)
  ne_nil := by
    rw [streamUri_text]
    exact List.cons_ne_nil _ _
  noSpace c hc := by simpa using List.mem_takeWhile_imp hc

/-- The server stores the URL of a request for the URI. -/
theorem describe_scan (serverIp : FixedString 64) (r : StreamUriRequest) (rest : List UInt8) :
    requestLine.scan (ascii "DESCRIBE" ++ ' '.toUInt8 ::
      ((streamUri serverIp r.bytes).text ++ ' '.toUInt8 :: rest)) =
        some (ascii "DESCRIBE", (r.url serverIp).field) := by
  have hsplit := (List.takeWhile_append_dropWhile (p := (!isSpace ·))
    (l := (streamUri serverIp r.bytes).text)).symm
  cases hmore : (streamUri serverIp r.bytes).text.dropWhile (!isSpace ·) with
  | nil =>
    rw [hmore, List.append_nil] at hsplit
    rw [hsplit]
    exact requestLine_scan (by decide) (by decide +kernel) (by decide) (r.url serverIp) (by decide)
      rest
  | cons blank more =>
    have hblank : isSpace blank = true := by
      have hhead := List.head_dropWhile_not (!isSpace ·) (hmore ▸ List.cons_ne_nil _ _)
      simpa [hmore] using hhead
    rw [hmore] at hsplit
    rw [hsplit, List.append_assoc, List.cons_append]
    exact requestLine_scan (by decide) (by decide +kernel) (by decide) (r.url serverIp) hblank _

/-- The path behind the server's address, the port and the name. -/
def pathBehindAddress (serverIp name : List UInt8) : Option (List UInt8) :=
  pathBehindHost ((serverIp ++ (ascii ":554/" ++ name)).takeWhile (!isSpace ·))

/-- The path of the URI. -/
theorem urlPath_url (serverIp : FixedString 64) (r : StreamUriRequest) :
    urlPath (r.url serverIp).field = pathBehindAddress serverIp.bytes r.streamName := by
  have hbytes : (r.url serverIp).bytes = ascii "rtsp://" ++
      (serverIp.bytes ++ (ascii ":554/" ++ r.streamName)).takeWhile (!isSpace ·) := by
    unfold url
    dsimp only
    rw [streamUri_text, List.takeWhile_append_of_pos (by decide +kernel)]
  have hlength : (r.url serverIp).bytes.length < 255 := by
    have htext : (streamUri serverIp r.bytes).text.length ≤ 127 := List.length_take_le _ _
    have hcut := (List.takeWhile_prefix (!isSpace ·)
      (l := (streamUri serverIp r.bytes).text)).length_le
    exact Nat.lt_of_le_of_lt (hcut.trans htext) (by decide)
  rw [Url.field_of_lt hlength, hbytes]
  unfold urlPath
  rw [if_pos (List.prefix_append _ _)]
  rfl

/-! ### Agreement -/

/-- The response has a URI with the port of the server, and DESCRIBE under it shows the stream
with the channel of the profile if that is enabled. -/
def Agrees (server : Config) (streams : List Stream) (serverIp : FixedString 64)
    (r : StreamUriRequest) : Prop :=
  (streamUri serverIp r.bytes).text <:+: handleGetStreamUri serverIp r.bytes ∧
    (streamUri serverIp r.bytes).rtspPort = server.listenPort ∧
    ∀ stream, streams[r.profile.channel]? = some stream → stream.enabled = true →
      ∃ found : StreamConfig, found.channel = (r.profile.channel : ℕ) ∧
        describedStream server (r.url serverIp).field = some found ∧
        ∀ (client : Client) (exchange : Exchange),
          client.Describes server exchange (r.url serverIp).field found

/-- The server listens on port 554, and the stream of the profile, if enabled, is added to it
and found first under the path of the URI. -/
def HasAddress (settings : ModuleConfig) (streams : List Stream) (serverIp : FixedString 64)
    (calls : SetupCalls) (r : StreamUriRequest) : Prop :=
  settings.port % 2 ^ 16 = 554 ∧
    ∀ stream, streams[r.profile.channel]? = some stream → stream.enabled = true →
      calls.addStream r.profile.channel = true ∧
        FoundFirst calls streams (pathBehindAddress serverIp.bytes r.streamName)
          r.profile.channel stream

/-- Behind an address without a slash and white space the path is the name. -/
theorem pathBehindAddress_eq {serverIp name : List UInt8} (hslash : '/'.toUInt8 ∉ serverIp)
    (hip : ∀ c ∈ serverIp, isSpace c = false) (hname : ∀ c ∈ name, isSpace c = false)
    (hne : name ≠ []) : pathBehindAddress serverIp name = some name := by
  have hmiddle : ∀ c ∈ ascii ":554/", (!isSpace c) = true := by decide +kernel
  have hspace : ∀ c ∈ serverIp ++ (ascii ":554/" ++ name), (!isSpace c) = true := by
    intro c hc
    rcases List.mem_append.mp hc with hc | hc
    · rw [hip c hc]
      rfl
    · rcases List.mem_append.mp hc with hc | hc
      · exact hmiddle c hc
      · rw [hname c hc]
        rfl
  unfold pathBehindAddress
  rw [List.takeWhile_eq_self_iff.mpr hspace]
  refine pathBehindHost_eq_some.mpr ⟨hne, serverIp ++ ascii ":554", ?_, ?_, ?_⟩
  · simp [ascii]
  · exact fun hmem => (List.mem_append.mp hmem).elim hslash (by decide)
  · rw [List.append_assoc]
    rfl

/-- For an ordinary address and a request that names its profile once, the endpoint has to be the
service's own name for the profile. -/
theorem hasAddress_iff_of_namesOnce {settings : ModuleConfig} {streams : List Stream}
    {serverIp : FixedString 64} {calls : SetupCalls} {r : StreamUriRequest} (h : r.NamesOnce)
    (hslash : '/'.toUInt8 ∉ serverIp.bytes) (hip : ∀ c ∈ serverIp.bytes, isSpace c = false) :
    r.HasAddress settings streams serverIp calls ↔ settings.port % 2 ^ 16 = 554 ∧
      ∀ stream, streams[r.profile.channel]? = some stream → stream.enabled = true →
        calls.addStream r.profile.channel = true ∧
          FoundFirst calls streams (some r.profile.streamName) r.profile.channel stream := by
  have hname : r.streamName = r.profile.streamName := by
    unfold streamName
    simp only [readsSub_iff_of_namesOnce h]
    cases r.profile <;> rfl
  have hpath : pathBehindAddress serverIp.bytes r.streamName =
      some (r.profile.streamName) := by
    rw [hname]
    cases r.profile <;> exact pathBehindAddress_eq hslash hip (by decide +kernel) (by decide)
  unfold HasAddress
  rw [hpath]

/-- The service and the server agree on the address of a profile exactly if the profile has the
address that the service writes into every URI. -/
theorem addresses_agree_iff {settings : ModuleConfig} {streams : List Stream}
    {serverIp : FixedString 64} {tableAddress : UInt32} {calls : SetupCalls} {server : Config}
    (h : setupRtspServer settings streams serverIp tableAddress calls = some server)
    (r : StreamUriRequest) :
    r.Agrees server streams serverIp ↔ r.HasAddress settings streams serverIp calls := by
  obtain ⟨hport, hstreams, -⟩ := setupRtspServer_some h
  have hchannel : r.profile.channel < maxVideoStreams.toNat := by
    cases r.profile <;> decide
  have hfound := exists_describedStream_iff hstreams (r.url serverIp).field_noSpace hchannel
  rw [r.urlPath_url] at hfound
  unfold Agrees HasAddress Config.listenPort
  rw [hport, and_iff_right (text_infix_response serverIp r.bytes)]
  refine and_congr eq_comm (forall_congr' fun stream => forall_congr' fun hstream =>
    forall_congr' fun henabled => ?_)
  constructor
  · rintro ⟨found, hfoundChannel, hdescribed, -⟩
    obtain ⟨own, hown, hserved, hfirst⟩ := hfound.mp ⟨found, hdescribed, hfoundChannel⟩
    obtain rfl : own = stream := Option.some.inj (hown.symm.trans hstream)
    exact ⟨((Bool.and_eq_true _ _).mp hserved).2, hfirst⟩
  · rintro ⟨hadded, hfirst⟩
    have hserved : served calls r.profile.channel stream = true := by
      rw [served, henabled, hadded, Bool.and_true]
    obtain ⟨found, hdescribed, hfoundChannel⟩ := hfound.mpr ⟨stream, hstream, hserved, hfirst⟩
    exact ⟨found, hfoundChannel, hdescribed, fun client => client.describes_of_described hdescribed⟩

/-! ### A camera with two streams -/

/-- A request with the profile as an element. -/
def asksFor (profile : Profile) : StreamUriRequest where
  headers := ascii "POST /onvif/media_service HTTP/1.1"
  headers_end := by decide +kernel
  front := ascii "<trt:GetStreamUri>"
  spelling := .prefixedElement
  profile := profile
  back := ascii "</trt:GetStreamUri>"

/-- The settings of the server, with a port. -/
def cameraSettings (port : ℤ) : ModuleConfig where
  enabled := true
  port := port
  auth := openConfig.auth
  maxClients := openConfig.maxClients
  maxClients_pos := openConfig.maxClients_pos
  maxClients_le := openConfig.maxClients_le
  sessionTimeout := openConfig.sessionTimeout
  sessionTimeout_pos := openConfig.sessionTimeout_pos
  sessionTimeout_lt := openConfig.sessionTimeout_lt
  tlsEnabled := false

/-- An enabled stream with an endpoint. -/
def cameraStream (endpoint : String) : Stream :=
  { Stream.zeroed with enabled := true, rtspEndpoint := .copy 64 size64_pos (ascii endpoint) }

/-- All calls succeed. -/
def cameraCalls : SetupCalls := ⟨fun _ => true, true, fun _ => some .h264, fun _ => true, true⟩

/-- The second profile has the address of a stream that is configured like the service's URIs. -/
theorem addresses_agree_ch1 :
    ∃ server, setupRtspServer (cameraSettings 554) [cameraStream "ch0", cameraStream "ch1"]
        openConfig.serverIp 0 cameraCalls = some server ∧
      (asksFor .sub).Agrees server [cameraStream "ch0", cameraStream "ch1"]
        openConfig.serverIp := by
  obtain ⟨server, hserver⟩ := Option.isSome_iff_exists.mp (show (setupRtspServer
    (cameraSettings 554) [cameraStream "ch0", cameraStream "ch1"] openConfig.serverIp 0
      cameraCalls).isSome by decide +kernel)
  refine ⟨server, hserver, (addresses_agree_iff hserver (asksFor .sub)).mpr ?_⟩
  refine (hasAddress_iff_of_namesOnce (by decide +kernel) (by decide +kernel)
    (by decide +kernel)).mpr ⟨by decide, fun stream hstream _ => ⟨rfl, ?_, ?_⟩⟩
  · obtain rfl := Option.some.inj hstream
    rintro name ⟨⟩
    decide +kernel
  · intro earlier hlt other hother _
    obtain rfl : earlier = 0 := Nat.lt_one_iff.mp hlt
    obtain rfl := Option.some.inj hother
    exact ⟨_, rfl, by decide +kernel⟩

/-- On another port, and under other endpoints, there is nothing under the service's URIs. -/
theorem not_addresses_agree :
    ∃ server, setupRtspServer (cameraSettings 8554) [cameraStream "main", cameraStream "sub"]
        openConfig.serverIp 0 cameraCalls = some server ∧
      server.listenPort = 8554 ∧
      (streamUri openConfig.serverIp (asksFor .sub).bytes).rtspPort = 554 ∧
      describedStream server ((asksFor .sub).url openConfig.serverIp).field = none ∧
      ¬(asksFor .sub).Agrees server [cameraStream "main", cameraStream "sub"]
        openConfig.serverIp := by
  obtain ⟨server, hserver⟩ := Option.isSome_iff_exists.mp (show (setupRtspServer
    (cameraSettings 8554) [cameraStream "main", cameraStream "sub"] openConfig.serverIp 0
      cameraCalls).isSome by decide +kernel)
  obtain ⟨hport, hstreams, -⟩ := setupRtspServer_some hserver
  have hlisten : server.listenPort = 8554 := by
    rw [Config.listenPort, hport]
    decide
  refine ⟨server, hserver, hlisten, rfl, ?_, ?_⟩
  · have hpath : pathBehindAddress openConfig.serverIp.bytes (asksFor .sub).streamName =
        some (ascii "ch1") := by
      decide +kernel
    rw [describedStream_eq server (Url.field_noSpace _), urlPath_url, hpath]
    dsimp only
    rw [Config.findStream, hstreams]
    decide +kernel
  · rintro ⟨-, hsame, -⟩
    rw [hlisten] at hsame
    exact absurd hsame (by decide)

end StreamUriRequest

end Onvif
