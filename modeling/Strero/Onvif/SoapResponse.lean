import Strero.Lib.Printf
import Strero.Lib.Scanf

/-!
# SOAP responses

`send_soap_response` prints the envelope and the body of a response into one array and then uses
that array as a format for the action and the identifier in the header. So the body is a format
too, and it holds text of requests and of the configuration.
-/

namespace Onvif

open CString Printf

/-- `soap_envelope_header`, in front of the action. -/
def soapEnvelopeStart : List UInt8 :=
  ascii "<?xml version=\"1.0\" encoding=\"UTF-8\"?>" ++
    ascii "<SOAP-ENV:Envelope xmlns:SOAP-ENV=\"http://www.w3.org/2003/05/soap-envelope\"" ++
    ascii " xmlns:wsa=\"http://www.w3.org/2005/08/addressing\"" ++
    ascii " xmlns:wsa5=\"http://www.w3.org/2005/08/addressing\"" ++
    ascii " xmlns:tds=\"http://www.onvif.org/ver10/device/wsdl\"" ++
    ascii " xmlns:trt=\"http://www.onvif.org/ver10/media/wsdl\"" ++
    ascii " xmlns:tt=\"http://www.onvif.org/ver10/schema\"" ++
    ascii " xmlns:tptz=\"http://www.onvif.org/ver20/ptz/wsdl\"" ++
    ascii " xmlns:timg=\"http://www.onvif.org/ver20/imaging/wsdl\"" ++
    ascii " xmlns:ter=\"http://www.onvif.org/ver10/error\"" ++
    ascii " xmlns:tev=\"http://www.onvif.org/ver10/events/wsdl\"" ++
    ascii " xmlns:wsnt=\"http://docs.oasis-open.org/wsn/b-2\">" ++
    ascii "<SOAP-ENV:Header><wsa:Action>"

/-- `soap_envelope_header`, between the action and the identifier. -/
def soapEnvelopeMiddle : List UInt8 := ascii "</wsa:Action><wsa:MessageID>urn:uuid:"

/-- `soap_envelope_header`, behind the identifier. -/
def soapEnvelopeEnd : List UInt8 := ascii "</wsa:MessageID></SOAP-ENV:Header><SOAP-ENV:Body>"

/-- `soap_envelope_header`, with two texts for the action and the identifier. -/
def soapEnvelopeHeader (action uuid : List UInt8) : List UInt8 :=
  soapEnvelopeStart ++ (action ++ (soapEnvelopeMiddle ++ (uuid ++ soapEnvelopeEnd)))

/-- `soap_envelope_footer`. -/
def soapEnvelopeFooter : List UInt8 := ascii "</SOAP-ENV:Body></SOAP-ENV:Envelope>"

/-- `send_soap_response`: the payload that it hands to `http_send_response`. -/
def sendSoapResponse (action uuid body : List UInt8) : Option (List UInt8) :=
  (snprintf 8192 (ascii "%s%s%s")
    [soapEnvelopeHeader (ascii "%s") (ascii "%s"), body, soapEnvelopeFooter]).bind
    fun soapResponse => snprintf 8192 soapResponse [action, uuid]

/-- The payload as it is meant: the envelope with the action and the identifier around the body. -/
def soapEnvelope (action uuid body : List UInt8) : List UInt8 :=
  soapEnvelopeHeader action uuid ++ (body ++ soapEnvelopeFooter)

variable {action uuid body : List UInt8}

/-- The start of the header has no directive, and a fixed length. -/
theorem soapEnvelopeStart_plain :
    percent ∉ soapEnvelopeStart ∧ soapEnvelopeStart.length = 634 := by
  unfold soapEnvelopeStart
  repeat rw [ascii_ofList]
  decide +kernel

/-- Neither has the text between the action and the identifier. -/
theorem soapEnvelopeMiddle_plain :
    percent ∉ soapEnvelopeMiddle ∧ soapEnvelopeMiddle.length = 37 := by
  rw [soapEnvelopeMiddle, ascii_ofList]
  decide

/-- Nor the end. -/
theorem soapEnvelopeEnd_plain : percent ∉ soapEnvelopeEnd ∧ soapEnvelopeEnd.length = 49 := by
  rw [soapEnvelopeEnd, ascii_ofList]
  decide

/-- Nor the footer. -/
theorem soapEnvelopeFooter_plain :
    percent ∉ soapEnvelopeFooter ∧ soapEnvelopeFooter.length = 36 := by
  rw [soapEnvelopeFooter, ascii_ofList]
  decide

/-- The header around the action and the identifier has a fixed length. -/
theorem length_soapEnvelopeHeader (action uuid : List UInt8) :
    (soapEnvelopeHeader action uuid).length = 720 + action.length + uuid.length := by
  have hstart := soapEnvelopeStart_plain.2
  have hmiddle := soapEnvelopeMiddle_plain.2
  have hend := soapEnvelopeEnd_plain.2
  simp only [soapEnvelopeHeader, List.length_append]
  omega

/-- The first pass cuts off what is too long. -/
theorem snprintf_parts (size : ℕ) (header body footer : List UInt8) :
    snprintf size (ascii "%s%s%s") [header, body, footer] =
      some ((header ++ (body ++ footer)).take (size - 1)) := by
  have hsplit : ascii "%s%s%s" = ascii "%s" ++ (ascii "%s" ++ (ascii "%s" ++ [])) := by decide
  rw [snprintf, hsplit, format_string, format_string, format_string, format]
  simp

/-- The second pass replaces the two placeholders of the header, and treats what comes behind it
as a format without arguments. -/
theorem format_header (rest : List UInt8) :
    format (soapEnvelopeHeader (ascii "%s") (ascii "%s") ++ rest) [action, uuid] =
      (format rest []).map (soapEnvelopeHeader action uuid ++ ·) := by
  have hstart := soapEnvelopeStart_plain.1
  have hmiddle := soapEnvelopeMiddle_plain.1
  have hend := soapEnvelopeEnd_plain.1
  unfold soapEnvelopeHeader
  simp only [List.append_assoc, format_append hstart, format_append hmiddle, format_append hend,
    format_string, Option.map_map]
  rfl

/-- The payload is the envelope if and only if there is no percent sign in the body and neither
pass cuts anything off. -/
theorem sendSoapResponse_eq_some_iff :
    sendSoapResponse action uuid body = some (soapEnvelope action uuid body) ↔
      percent ∉ body ∧ (soapEnvelope (ascii "%s") (ascii "%s") body).length < 8192 ∧
        (soapEnvelope action uuid body).length < 8192 := by
  have hheader : (soapEnvelopeHeader (ascii "%s") (ascii "%s")).length ≤ 8191 := by
    rw [length_soapEnvelopeHeader]
    decide
  have hfooter := soapEnvelopeFooter_plain.1
  unfold sendSoapResponse soapEnvelope
  rw [snprintf_parts, Option.bind_some, snprintf, List.take_append, List.take_of_length_le hheader,
    format_header, Option.map_map, Option.map_eq_some_iff]
  simp only [List.length_append, Function.comp_apply]
  constructor
  · rintro ⟨out, hout, hpayload⟩
    have hlengths := congrArg List.length hpayload
    obtain ⟨hle, hlt⟩ := length_format_le hout
    simp only [List.length_take, List.length_append] at hlengths hle hlt
    refine ⟨fun hmem => ?_, by omega, by omega⟩
    -- A sign that is not cut off makes the payload shorter.
    rw [List.take_of_length_le (by rw [List.length_append]; omega)] at hlt
    have hshorter := hlt (List.mem_append_left _ hmem)
    omega
  · rintro ⟨hbody, hfirst, hsecond⟩
    have hplain : percent ∉ body ++ soapEnvelopeFooter := by
      rw [List.mem_append, not_or]
      exact ⟨hbody, hfooter⟩
    rw [List.take_of_length_le (by rw [List.length_append]; omega)]
    refine ⟨_, format_eq_self_iff.mpr hplain, ?_⟩
    rw [List.take_of_length_le (by simp only [List.length_append]; omega)]

/-! ### A body with text of a request -/

/-- The settings of a stream that a response describes. -/
structure EncoderSettings where
  format : FixedString 16
  width : ℤ
  height : ℤ
  fps : ℤ
  bitrate : ℤ
  gopLength : ℤ
  h264Profile : List UInt8
  serverIp : FixedString 64
  sessionTimeout : ℤ

/-- `config_token` of `handle_get_video_encoder_configuration`: the text behind the first
`ConfigurationToken>` of the body, if it fits. -/
def configurationToken (request : List UInt8) : List UInt8 :=
  match (strstr request (ascii "\r\n\r\n")).map (List.drop 4) with
  | none => ascii "VideoEncoder_1"
  | some requestBody =>
    match (strstr requestBody (ascii "ConfigurationToken>")).map (List.drop 19) with
    | none => ascii "VideoEncoder_1"
    | some tokenStart =>
      match strstr tokenStart (ascii "</") with
      | none => ascii "VideoEncoder_1"
      | some tokenEnd =>
        if (between tokenStart tokenEnd).length < 32 then between tokenStart tokenEnd
        else ascii "VideoEncoder_1"

/-- The start of the response, up to the first copy of the token. -/
def encoderConfigurationStart : List UInt8 :=
  ascii "<trt:GetVideoEncoderConfigurationResponse><trt:Configuration token=\""

/-- The rest of the response. -/
def encoderConfigurationEnd (token : List UInt8) (settings : EncoderSettings) : List UInt8 :=
  ascii "\"><tt:Name>" ++ token ++ ascii "</tt:Name><tt:UseCount>1</tt:UseCount><tt:Encoding>" ++
    settings.format.bytes ++ ascii "</tt:Encoding><tt:Resolution><tt:Width>" ++
    printInt settings.width ++ ascii "</tt:Width><tt:Height>" ++ printInt settings.height ++
    ascii "</tt:Height></tt:Resolution><tt:Quality>" ++ printInt 5 ++
    ascii "</tt:Quality><tt:RateControl><tt:FrameRateLimit>" ++ printInt settings.fps ++
    ascii "</tt:FrameRateLimit><tt:EncodingInterval>1</tt:EncodingInterval><tt:BitrateLimit>" ++
    printInt settings.bitrate ++ ascii "</tt:BitrateLimit></tt:RateControl><tt:H264>" ++
    ascii "<tt:GovLength>" ++ printInt settings.gopLength ++
    ascii "</tt:GovLength><tt:H264Profile>" ++ settings.h264Profile ++
    ascii "</tt:H264Profile></tt:H264><tt:Multicast><tt:Address><tt:Type>IPv4</tt:Type>" ++
    ascii "<tt:IPv4Address>" ++ settings.serverIp.bytes ++
    ascii "</tt:IPv4Address></tt:Address><tt:Port>0</tt:Port><tt:TTL>0</tt:TTL>" ++
    ascii "<tt:AutoStart>false</tt:AutoStart></tt:Multicast><tt:SessionTimeout>PT" ++
    printInt settings.sessionTimeout ++
    ascii "S</tt:SessionTimeout></trt:Configuration></trt:GetVideoEncoderConfigurationResponse>"

/-- The body of the response of `handle_get_video_encoder_configuration`, by the settings of the
two streams. -/
def encoderConfigurationBody (main sub : EncoderSettings) (request : List UInt8) : List UInt8 :=
  let token := configurationToken request
  let settings := if token = ascii "VideoEncoder_2" then sub else main
  (encoderConfigurationStart ++ (token ++ encoderConfigurationEnd token settings)).take 1023

/-- The action of the response. -/
def encoderConfigurationAction : List UInt8 :=
  ascii "http://www.onvif.org/ver10/media/wsdl/GetVideoEncoderConfigurationResponse"

/-- `handle_get_video_encoder_configuration`: the payload of its response. -/
def handleGetVideoEncoderConfiguration (main sub : EncoderSettings) (uuid request : List UInt8) :
    Option (List UInt8) :=
  sendSoapResponse encoderConfigurationAction uuid (encoderConfigurationBody main sub request)

/-- A token fits into its array. -/
theorem length_configurationToken_lt (request : List UInt8) :
    (configurationToken request).length < 32 := by
  have hdefault : (ascii "VideoEncoder_1").length < 32 := by decide
  unfold configurationToken
  split
  · exact hdefault
  · split
    · exact hdefault
    · split
      · exact hdefault
      · split
        · assumption
        · exact hdefault

/-- No request whose token has a percent sign gets the response that is meant. -/
theorem handleGetVideoEncoderConfiguration_ne {main sub : EncoderSettings}
    {uuid request : List UInt8} (htoken : percent ∈ configurationToken request) :
    handleGetVideoEncoderConfiguration main sub uuid request ≠
      some (soapEnvelope encoderConfigurationAction uuid
        (encoderConfigurationBody main sub request)) := by
  refine fun heq => (sendSoapResponse_eq_some_iff.mp heq).1 ?_
  have hlength := length_configurationToken_lt request
  have hstart : encoderConfigurationStart.length = 68 := by
    rw [encoderConfigurationStart, ascii_ofList]
    rfl
  unfold encoderConfigurationBody
  dsimp only
  rw [List.take_append, List.take_of_length_le (by omega), List.take_append,
    List.take_of_length_le (by omega)]
  exact List.mem_append_right _ (List.mem_append_left _ htoken)

/-! ### Verbatim responses -/

/-- Settings of a stream. -/
def mainSettings : EncoderSettings where
  format := .copy 16 size16_pos (ascii "H264")
  width := 1920
  height := 1080
  fps := 25
  bitrate := 3000
  gopLength := 50
  h264Profile := ascii "Main"
  serverIp := .copy 64 size64_pos (ascii "192.168.0.1")
  sessionTimeout := 60

/-- A request whose token is a directive. -/
def directiveRequest : List UInt8 :=
  ascii "POST /onvif/media_service HTTP/1.1\r\n\r\n<soap:Body>" ++
    ascii "<trt:ConfigurationToken>%s</trt:ConfigurationToken></soap:Body>"

end Onvif
