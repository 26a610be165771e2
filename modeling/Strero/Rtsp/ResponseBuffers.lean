import Strero.Lib.Decimal
import Strero.Lib.Snprintf
import Strero.Rtsp.ServerTurns

/-!
# The buffers for responses

`generate_sdp` and `send_rtsp_response` print into buffers on the stack, with a call of
`snprintf` for each piece of the text. Here are the pieces, and that no run of the server
prints more of them than there is room for.
-/

namespace Rtsp

open CString Scanf Snprintf

/-! ### Stream descriptions -/

/-- `MAX_SDP_SIZE`. -/
def maxSdpSize : ℕ := 2048

/-- The texts of an audio section. -/
def audioTexts (config : Config) (streamName : List UInt8)
    (format bandwidth encoding track direction : String) : List (List UInt8) :=
  [ascii "m=audio " ++ ascii format ++ ascii "\r\n",
    ascii "c=IN IP4 0.0.0.0\r\n",
    ascii "b=AS:" ++ ascii bandwidth ++ ascii "\r\n",
    ascii "a=rtpmap:" ++ ascii encoding ++ ascii "\r\n",
    ascii "a=control:rtsp://" ++ config.serverIp.bytes ++ ascii ":" ++ printInt config.port ++
      ascii "/" ++ streamName ++ ascii "/" ++ ascii track ++ ascii "\r\n",
    ascii "a=" ++ ascii direction ++ ascii "\r\n"]

/-- The texts of the sections for the ONVIF backchannel. -/
def backchannelTexts (config : Config) (streamName : List UInt8) : List (List UInt8) :=
  audioTexts config streamName "0 RTP/AVP 0" "64" "0 PCMU/8000" "audio" "recvonly" ++
  audioTexts config streamName "0 RTP/AVP 0" "64" "0 PCMU/8000" "G711_audiobackchannel"
    "sendonly" ++
  audioTexts config streamName "98 RTP/AVP 98" "32" "98 G726-16/8000" "G726_audiobackchannel"
    "sendonly"

/-- The texts that `generate_sdp` prints for a stream. The number of the session is cut off
after 15 digits. -/
def sdpTexts (config : Config) (streamName : List UInt8) (client : Client) (time : Int32)
    (stream : StreamConfig) : List (List UInt8) :=
  let name := stream.streamName.bytes
  let sessionId := (printInt32 time).take 15
  [ascii "v=0\r\n",
    ascii "o=- " ++ sessionId ++ ascii " " ++ sessionId ++ ascii " IN IP4 " ++
      config.serverIp.bytes ++ ascii "\r\n",
    ascii "s=thingino " ++ name ++ ascii "\r\n",
    ascii "i=" ++ name ++ ascii "\r\n",
    ascii "t=0 0\r\n",
    ascii "a=tool:Thingino Streamer v1.0\r\n",
    ascii "a=type:broadcast\r\n",
    ascii "a=control:*\r\n",
    ascii "a=range:npt=now-\r\n",
    ascii "a=x-qt-text-nam:thingino " ++ name ++ ascii "\r\n",
    ascii "a=x-qt-text-inf:" ++ name ++ ascii "\r\n",
    ascii "m=video 0 RTP/AVP " ++ printInt stream.codec.payloadType.toNat ++ ascii "\r\n",
    ascii "c=IN IP4 0.0.0.0\r\n",
    ascii "b=AS:" ++ printInt32 (videoBandwidth stream) ++ ascii "\r\n",
    formatLines stream.codec,
    ascii "a=control:track1\r\n"] ++
  (if stream.streamInfo.bytes = [] then []
    else [ascii "a=x-desc:" ++ stream.streamInfo.bytes ++ ascii "\r\n"]) ++
  [ascii "a=x-dimensions:" ++ printInt32 stream.width ++ ascii "," ++ printInt32 stream.height ++
      ascii "\r\n",
    ascii "a=framerate:" ++ printInt32 stream.fps ++ ascii "\r\n"] ++
  (if client.supportsBackchannel then backchannelTexts config streamName else [])

theorem length_printInt32_le (n : Int32) : (printInt32 n).length ≤ 11 := by
  refine length_printInt_le (by decide) ?_
  have hlower := n.le_toInt
  have hupper := n.toInt_lt
  omega

variable {config : Config} {streamName : List UInt8} {client : Client} {time : Int32}

theorem audioTexts_flatten (config : Config) (streamName : List UInt8)
    (format bandwidth encoding track direction : String) :
    (audioTexts config streamName format bandwidth encoding track direction).flatten =
      audioSection config streamName format bandwidth encoding track direction := by
  have hconnection : ascii "\r\nc=IN IP4 0.0.0.0\r\nb=AS:" =
      ascii "\r\n" ++ (ascii "c=IN IP4 0.0.0.0\r\n" ++ ascii "b=AS:") := by decide
  have hencoding : ascii "\r\na=rtpmap:" = ascii "\r\n" ++ ascii "a=rtpmap:" := by decide
  have hcontrol : ascii "\r\na=control:rtsp://" = ascii "\r\n" ++ ascii "a=control:rtsp://" := by
    decide
  have hdirection : ascii "\r\na=" = ascii "\r\n" ++ ascii "a=" := by decide
  unfold audioTexts audioSection
  rw [hconnection, hencoding, hcontrol, hdirection]
  simp only [List.flatten_cons, List.flatten_nil, List.append_assoc, List.append_nil]

theorem audioTexts_length_le (hport : config.port.natAbs < 10 ^ 10)
    (hname : streamName.length < 64) (format bandwidth encoding track direction : String) :
    (audioTexts config streamName format bandwidth encoding track direction).flatten.length ≤
      232 + (ascii format).length + (ascii bandwidth).length + (ascii encoding).length +
        (ascii track).length + (ascii direction).length := by
  have hip := config.serverIp.fits
  have hprinted := length_printInt_le (by decide) hport
  simp only [audioTexts, List.flatten_cons, List.flatten_nil, List.length_append, ascii]
  simp
  omega

theorem backchannelTexts_flatten (config : Config) (streamName : List UInt8) :
    (backchannelTexts config streamName).flatten = backchannelSections config streamName := by
  unfold backchannelTexts backchannelSections
  simp only [List.flatten_append, audioTexts_flatten]

theorem backchannelTexts_length_le (hport : config.port.natAbs < 10 ^ 10)
    (hname : streamName.length < 64) :
    (backchannelTexts config streamName).flatten.length ≤ 845 := by
  have hlength := fun format bandwidth encoding track direction =>
    audioTexts_length_le hport hname format bandwidth encoding track direction
  have haudio := hlength "0 RTP/AVP 0" "64" "0 PCMU/8000" "audio" "recvonly"
  have hg711 := hlength "0 RTP/AVP 0" "64" "0 PCMU/8000" "G711_audiobackchannel" "sendonly"
  have hg726 := hlength "98 RTP/AVP 98" "32" "98 G726-16/8000" "G726_audiobackchannel" "sendonly"
  have htracks : (ascii "0 RTP/AVP 0").length = 11 ∧ (ascii "98 RTP/AVP 98").length = 13 ∧
      (ascii "64").length = 2 ∧ (ascii "32").length = 2 ∧ (ascii "0 PCMU/8000").length = 11 ∧
      (ascii "98 G726-16/8000").length = 15 ∧ (ascii "audio").length = 5 ∧
      (ascii "G711_audiobackchannel").length = 21 ∧
      (ascii "G726_audiobackchannel").length = 21 ∧ (ascii "recvonly").length = 8 ∧
      (ascii "sendonly").length = 8 := by decide
  unfold backchannelTexts
  simp only [List.flatten_append, List.length_append]
  omega

theorem formatLines_length_le (codec : Codec) : (formatLines codec).length ≤ 88 := by
  cases codec <;> decide

variable {stream : StreamConfig}

/-- The texts make up the description. -/
theorem generateSdp_eq (hstream : config.findStream streamName = some stream) :
    generateSdp config streamName client time =
      some (sdpTexts config streamName client time stream).flatten := by
  have hsession : (printInt32 time).take 15 = printInt32 time :=
    List.take_of_length_le ((length_printInt32_le time).trans (by decide))
  unfold generateSdp sdpTexts
  rw [hstream, hsession]
  simp only [List.flatten_append, apply_ite List.flatten, List.flatten_cons, List.flatten_nil,
    backchannelTexts_flatten, List.append_assoc, List.append_nil]
  rfl

/-- The description of a stream leaves room in its buffer. -/
theorem sdpTexts_length_lt (hport : config.port.natAbs < 10 ^ 10)
    (hname : streamName.length < 64) :
    (sdpTexts config streamName client time stream).flatten.length < maxSdpSize := by
  have hip := config.serverIp.fits
  have hstream := stream.streamName.fits
  have hinfo := stream.streamInfo.fits
  have hback := backchannelTexts_length_le hport hname
  have hformat := formatLines_length_le stream.codec
  have hpayload : (printInt stream.codec.payloadType.toNat).length ≤ 2 := by
    cases stream.codec <;> decide
  have hprinted := length_printInt32_le
  have hbandwidth := hprinted (videoBandwidth stream)
  have hwidth := hprinted stream.width
  have hheight := hprinted stream.height
  have hfps := hprinted stream.fps
  have hdescription : (if stream.streamInfo.bytes = [] then []
      else [ascii "a=x-desc:" ++ stream.streamInfo.bytes ++ ascii "\r\n"]).flatten.length ≤
        138 := by
    split
    · decide
    · simp [ascii]
      omega
  have haudio : (if client.supportsBackchannel then backchannelTexts config streamName
      else []).flatten.length ≤ 845 := by
    split
    · exact hback
    · decide
  unfold sdpTexts maxSdpSize
  simp only [List.flatten_append, List.length_append, List.flatten_cons, List.flatten_nil,
    List.length_nil, List.length_take]
  simp [ascii] at *
  omega

/-- The names and the numbers in a description end no string. -/
theorem zero_notMem_printInt (n : ℤ) : 0 ∉ printInt n := by
  intro hmem
  rw [printInt, List.mem_append] at hmem
  rcases hmem with hsign | hdigit
  · split at hsign
    · exact absurd hsign (by decide)
    · cases hsign
  · exact absurd (isDigit_of_mem_digits hdigit) (by decide)

theorem zero_notMem_audioTexts (hname : 0 ∉ streamName) {format bandwidth encoding track : String}
    {direction : String} (hformat : 0 ∉ ascii format) (hbandwidth : 0 ∉ ascii bandwidth)
    (hencoding : 0 ∉ ascii encoding) (htrack : 0 ∉ ascii track)
    (hdirection : 0 ∉ ascii direction) :
    0 ∉ (audioTexts config streamName format bandwidth encoding track direction).flatten := by
  have hip := config.serverIp.noNul
  have hport := zero_notMem_printInt config.port
  simp only [audioTexts, List.flatten_cons, List.flatten_nil, List.mem_append, not_or]
  simp only [hformat, hbandwidth, hencoding, htrack, hdirection, hname, hip, hport]
  simp [ascii]

theorem zero_notMem_backchannelTexts (hname : 0 ∉ streamName) :
    0 ∉ (backchannelTexts config streamName).flatten := by
  unfold backchannelTexts
  simp only [List.flatten_append, List.mem_append, not_or]
  refine ⟨⟨?_, ?_⟩, ?_⟩
  · exact zero_notMem_audioTexts hname (by decide) (by decide) (by decide) (by decide) (by decide)
  · exact zero_notMem_audioTexts hname (by decide) (by decide) (by decide) (by decide) (by decide)
  · exact zero_notMem_audioTexts hname (by decide) (by decide) (by decide) (by decide) (by decide)

theorem zero_notMem_sdpTexts (hname : 0 ∉ streamName) :
    0 ∉ (sdpTexts config streamName client time stream).flatten := by
  have hip := config.serverIp.noNul
  have hstream := stream.streamName.noNul
  have hinfo := stream.streamInfo.noNul
  have hback : 0 ∉ (backchannelTexts config streamName).flatten :=
    zero_notMem_backchannelTexts hname
  have hformat : 0 ∉ formatLines stream.codec := by cases stream.codec <;> decide
  have hsession : 0 ∉ (printInt32 time).take 15 := fun hmem =>
    zero_notMem_printInt _ (List.mem_of_mem_take hmem)
  have hprinted : ∀ n, 0 ∉ printInt32 n := fun n => zero_notMem_printInt _
  unfold sdpTexts
  simp only [List.flatten_append, List.flatten_cons, List.flatten_nil, List.mem_append, not_or,
    apply_ite List.flatten]
  simp only [hip, hstream, hformat, hsession, hprinted, zero_notMem_printInt]
  split <;> split <;> simp [ascii, hinfo, hback]

/-! ### Responses -/

/-- The headers that a handler passes: a literal, or the transport with the two ports or
channels. -/
inductive Headers
  | literal (text : String)
  | transport (start : String) (rtpPort rtcpPort : ℤ)

/-- Their text, by what `%d` prints for a number. -/
def Headers.text (print : ℤ → List UInt8) : Headers → List UInt8
  | .literal text => ascii text
  | .transport start rtpPort rtcpPort =>
    ascii start ++ print rtpPort ++ ascii "-" ++ print rtcpPort ++ ascii "\r\n"

/-- The texts in front of the body: the status, the session and the headers. -/
def Response.headTexts (response : Response) (print : ℤ → List UInt8) (headers : List UInt8) :
    List (List UInt8) :=
  [ascii "RTSP/1.0 " ++ printInt response.statusCode ++ ascii " " ++ ascii response.statusText ++
    ascii "\r\nCSeq: " ++ print response.cseq ++
    ascii "\r\nServer: Thingino RTSP Server\r\n"] ++
  (if response.sessionId = [] then []
    else [ascii "Session: " ++ response.sessionId ++ ascii "\r\n"]) ++
  (if headers = [] then [] else [headers])

/-- The last text, with the body if there is one. -/
def bodyText : Option (List UInt8) → List UInt8
  | some body => ascii "Content-Type: application/sdp\r\nContent-Length: " ++
      printInt (cString body).length ++ ascii "\r\n\r\n" ++ cString body
  | none => ascii "\r\n"

/-- The texts that `send_rtsp_response` prints. -/
def Response.texts (response : Response) (print : ℤ → List UInt8) (headers : List UInt8) :
    List (List UInt8) :=
  response.headTexts print headers ++ [bodyText response.body]

/-- What `%d` prints for a number of a request, by what `sscanf` has stored for it. For a number
that is no `int` that is up to the C library. -/
def printStored (stored : ℤ → Int32) (n : ℤ) : List UInt8 := printInt32 (stored n)

/-- The body is a description that `generate_sdp` has printed whole. -/
def IsDescription (config : Config) (body : List UInt8) : Prop :=
  ∃ streamName client time stream, config.findStream streamName = some stream ∧
    generateSdp config streamName client time = some body ∧
    PrintsWhole maxSdpSize (sdpTexts config streamName client time stream) ∧
    body = (sdpTexts config streamName client time stream).flatten

/-- The response is printed whole, and so are its headers and its body. The length that it names
is that of its body. -/
def Response.Fits (response : Response) (config : Config) (stored : ℤ → Int32) : Prop :=
  ∃ headers : Headers, response.headers = headers.text printInt ∧
    PrintsWhole 512 [headers.text (printStored stored)] ∧
    PrintsWhole maxRtspBufferSize
      (response.texts (printStored stored) (headers.text (printStored stored))) ∧
    ∀ body ∈ response.body, IsDescription config body ∧ ∃ head,
      (response.texts (printStored stored) (headers.text (printStored stored))).flatten =
        head ++ ascii "Content-Length: " ++ printInt body.length ++ ascii "\r\n\r\n" ++ body

theorem length_printStored_le (stored : ℤ → Int32) (n : ℤ) :
    (printStored stored n).length ≤ 11 := length_printInt32_le _

variable {stored : ℤ → Int32}

/-- The description of a stream is one. -/
theorem isDescription_of_generateSdp {body : List UInt8} (hport : config.port.natAbs < 10 ^ 10)
    (h : generateSdp config streamName client time = some body) : IsDescription config body := by
  obtain ⟨stream, hstream, -⟩ := Option.bind_eq_some_iff.mp h
  have hname : streamName.length < 64 := by
    have hsame := List.find?_some hstream
    rw [decide_eq_true_eq] at hsame
    exact hsame ▸ stream.streamName.fits
  have hbody := (generateSdp_eq hstream).symm.trans h
  exact ⟨_, _, _, stream, hstream, h, printsWhole_iff.mpr (sdpTexts_length_lt hport hname),
    (Option.some.inj hbody).symm⟩

/-- A description is shorter than its buffer. -/
theorem IsDescription.length_lt {body : List UInt8} (h : IsDescription config body) :
    body.length < maxSdpSize := by
  obtain ⟨_, _, _, _, -, -, hwhole, rfl⟩ := h
  exact printsWhole_iff.mp hwhole

/-- A description is a string: there is no NUL in it. -/
theorem IsDescription.cString_eq {body : List UInt8} (h : IsDescription config body) :
    cString body = body := by
  obtain ⟨_, _, _, stream, hstream, -, -, rfl⟩ := h
  have hname := List.find?_some hstream
  rw [decide_eq_true_eq] at hname
  exact cString_of_notMem (zero_notMem_sdpTexts (hname ▸ stream.streamName.noNul))

/-- Headers for which their buffer is large enough, whatever the numbers in them are. -/
def Headers.Small (headers : Headers) : Prop :=
  ∀ print : ℤ → List UInt8, (∀ n, (print n).length ≤ 11) → (headers.text print).length < 512

theorem Headers.literal_small {text : String} (h : (ascii text).length < 512) :
    (Headers.literal text).Small := fun _ _ => h

theorem Headers.transport_small {start : String} (h : (ascii start).length < 480)
    (rtpPort rtcpPort : ℤ) : (Headers.transport start rtpPort rtcpPort).Small := by
  intro print hprint
  have hrtp := hprint rtpPort
  have hrtcp := hprint rtcpPort
  have hdash : (ascii "-").length = 1 := by decide
  have hend : (ascii "\r\n").length = 2 := by decide
  simp only [Headers.text, List.length_append]
  omega

/-- The texts in front of the body are short if their parts are. -/
theorem Response.headTexts_length_le {response : Response} {print : ℤ → List UInt8}
    {headers : List UInt8} (hprint : ∀ n, (print n).length ≤ 11) (hheaders : headers.length < 512)
    (hcode : response.statusCode < 1000) (htext : (ascii response.statusText).length ≤ 21)
    (hsession : response.sessionId.length < 32) :
    (response.headTexts print headers).flatten.length ≤ 640 := by
  have hnumber : (printInt response.statusCode).length ≤ 3 := by
    rw [printInt_natCast]
    exact length_digits_le (by decide) hcode
  have hcseq := hprint response.cseq
  have hsessionText : (if response.sessionId = [] then []
      else [ascii "Session: " ++ response.sessionId ++ ascii "\r\n"]).flatten.length ≤ 42 := by
    split
    · exact Nat.zero_le _
    · simp only [List.flatten_cons, List.flatten_nil, List.length_append, List.length_nil]
      simp [ascii]
      omega
  have hheaderText : (if headers = [] then [] else [headers]).flatten.length < 512 := by
    split
    · exact Nat.zero_lt_succ _
    · simpa using hheaders
  have hfixed : (ascii "RTSP/1.0 ").length = 9 ∧ (ascii " ").length = 1 ∧
      (ascii "\r\nCSeq: ").length = 8 ∧
      (ascii "\r\nServer: Thingino RTSP Server\r\n").length = 32 := by decide
  simp only [Response.headTexts, List.flatten_append, List.length_append, List.flatten_cons,
    List.flatten_nil, List.length_nil]
  omega

/-- The last text names the length of a description in front of it. -/
theorem IsDescription.bodyText_eq {body : List UInt8} (h : IsDescription config body) :
    bodyText (some body) = ascii "Content-Type: application/sdp\r\n" ++
      (ascii "Content-Length: " ++ printInt body.length ++ ascii "\r\n\r\n" ++ body) := by
  have htype : ascii "Content-Type: application/sdp\r\nContent-Length: " =
      ascii "Content-Type: application/sdp\r\n" ++ ascii "Content-Length: " := by decide
  rw [bodyText, htype, h.cString_eq]
  simp only [List.append_assoc]

/-- There is room for the last text behind the others. -/
theorem bodyText_length_le {body : Option (List UInt8)}
    (hbody : ∀ text ∈ body, IsDescription config text) : (bodyText body).length ≤ 2200 := by
  cases body with
  | none => decide
  | some text =>
    have hdescription := hbody text rfl
    have hlt := hdescription.length_lt
    rw [maxSdpSize] at hlt
    have hprinted : (printInt (text.length : ℕ)).length ≤ 4 := by
      rw [printInt_natCast]
      exact length_digits_le (by decide) (by omega)
    have hfixed : (ascii "Content-Type: application/sdp\r\n").length = 31 ∧
        (ascii "Content-Length: ").length = 16 ∧ (ascii "\r\n\r\n").length = 4 := by decide
    simp only [hdescription.bodyText_eq, List.length_append]
    omega

/-- A response with a short status fits. -/
theorem Response.fits {response : Response} {headers : Headers}
    (hheaders : response.headers = headers.text printInt) (hsmall : headers.Small)
    (hcode : response.statusCode < 1000) (htext : (ascii response.statusText).length ≤ 21)
    (hsession : response.sessionId.length < 32)
    (hbody : ∀ body ∈ response.body, IsDescription config body) :
    response.Fits config stored := by
  have hlength := hsmall _ (length_printStored_le stored)
  refine ⟨headers, hheaders, printsWhole_iff.mpr (by simpa using hlength),
    printsWhole_iff.mpr ?_, fun body hsome => ⟨hbody body hsome, ?_⟩⟩
  · have hhead := Response.headTexts_length_le (length_printStored_le stored) hlength hcode htext
      hsession
    have hend := bodyText_length_le hbody
    rw [Response.texts, List.flatten_append, List.length_append, List.flatten_singleton,
      maxRtspBufferSize]
    omega
  · have hend := (hbody body hsome).bodyText_eq
    rw [Option.mem_def] at hsome
    rw [Response.texts, hsome, List.flatten_append, List.flatten_singleton, hend]
    refine ⟨(response.headTexts (printStored stored)
      (headers.text (printStored stored))).flatten ++
        ascii "Content-Type: application/sdp\r\n", ?_⟩
    simp only [List.append_assoc]

/-! ### The handlers -/

/-- The number of the session fits into the slot, and so do all responses into their buffers.
What is printed does not depend on whether it can be sent. -/
structure Client.ResponsesFit (client : Client) (config : Config) (stored : ℤ → Int32) :
    Prop where
  session : client.sessionId.length < 32
  responses : ∀ response ∈ client.responses, response.Fits config stored

variable {exchange : Exchange}

/-- One more response that fits. -/
theorem Client.ResponsesFit.sendRtspResponse (h : client.ResponsesFit config stored)
    {headers : Headers} (hsmall : headers.Small) {statusCode : ℕ} (hcode : statusCode < 1000)
    {statusText : String} (htext : (ascii statusText).length ≤ 21) {body : Option (List UInt8)}
    (hbody : ∀ sdp ∈ body, IsDescription config sdp) :
    (client.sendRtspResponse exchange statusCode statusText (headers.text printInt)
      body).1.ResponsesFit config stored := by
  unfold Client.sendRtspResponse
  split
  · refine ⟨h.session, fun response hresponse => ?_⟩
    rcases List.mem_append.mp hresponse with hold | hnew
    · exact h.responses response hold
    · obtain rfl := List.mem_singleton.mp hnew
      exact Response.fits rfl hsmall hcode htext h.session hbody
  · exact h

/-- A literal and no body. -/
theorem Client.ResponsesFit.literal (h : client.ResponsesFit config stored) {text : String}
    (hsmall : (ascii text).length < 512) {statusCode : ℕ} (hcode : statusCode < 1000)
    {statusText : String} (htext : (ascii statusText).length ≤ 21) :
    (client.sendRtspResponse exchange statusCode statusText (ascii text)
      none).1.ResponsesFit config stored :=
  h.sendRtspResponse (Headers.literal_small hsmall) hcode htext (fun _ hbody => by cases hbody)

/-- An answer without headers. -/
theorem Client.ResponsesFit.plain (h : client.ResponsesFit config stored) {statusCode : ℕ}
    (hcode : statusCode < 1000) {statusText : String} (htext : (ascii statusText).length ≤ 21) :
    (client.sendRtspResponse exchange statusCode statusText [] none).1.ResponsesFit
      config stored :=
  h.literal (show (ascii "").length < 512 by decide) hcode htext

theorem Client.ResponsesFit.handleDescribeRequest (h : client.ResponsesFit config stored)
    (hport : config.port.natAbs < 10 ^ 10) (url : List UInt8) :
    (client.handleDescribeRequest config exchange url).1.ResponsesFit config stored := by
  have hflag : Client.ResponsesFit { client with
      supportsBackchannel := contains client.requestBuffer backchannelHeader } config stored :=
    ⟨h.session, h.responses⟩
  unfold Client.handleDescribeRequest
  dsimp only
  split
  · exact hflag.plain (by decide) (by decide)
  · split
    · exact hflag.plain (by decide) (by decide)
    · split
      · exact hflag.plain (by decide) (by decide)
      · rename_i sdp hsdp
        have hnone : (Headers.literal "").Small := Headers.literal_small (by decide)
        refine hflag.sendRtspResponse hnone (by decide) (by decide) fun body hbody => ?_
        obtain rfl := Option.some.inj hbody
        exact isDescription_of_generateSdp hport hsdp

theorem Client.ResponsesFit.finishSetup (h : client.ResponsesFit config stored)
    {transport : String} (hshort : (ascii transport).length < 480) :
    (client.finishSetup exchange transport).1.ResponsesFit config stored := by
  have hready : Client.ResponsesFit { client with state := .ready } config stored :=
    ⟨h.session, h.responses⟩
  exact hready.sendRtspResponse (Headers.transport_small hshort client.rtpPort client.rtcpPort)
    (by decide) (by decide) (fun _ hbody => by cases hbody)

/-- The status for a target that is refused is short. -/
theorem Client.setupTarget_short {url : List UInt8} {statusCode : ℕ} {statusText : String}
    (h : client.setupTarget config url = .error (statusCode, statusText)) :
    statusCode < 1000 ∧ (ascii statusText).length ≤ 21 := by
  unfold Client.setupTarget at h
  split at h
  · cases h
    decide
  · dsimp only at h
    split at h
    · cases h
      decide
    · split at h
      · cases h
        decide
      · cases h

theorem Client.ResponsesFit.handleSetupRequest (h : client.ResponsesFit config stored)
    (url transport : List UInt8) :
    (client.handleSetupRequest config exchange url transport).1.ResponsesFit config stored := by
  unfold Client.handleSetupRequest
  split
  · rename_i statusCode statusText herror
    obtain ⟨hcode, htext⟩ := Client.setupTarget_short herror
    exact h.plain hcode htext
  · rename_i stream trackId _
    have hselect : (client.selectStream stream trackId).ResponsesFit config stored := by
      unfold Client.selectStream
      split <;> exact ⟨h.session, h.responses⟩
    obtain ⟨hsession, hresponses⟩ := hselect
    dsimp only
    split
    · unfold Client.setupTcpTransport
      dsimp only
      split
      all_goals
        refine Client.ResponsesFit.finishSetup ?_ ?_
        · exact ⟨hsession, hresponses⟩
        · decide
    · unfold Client.setupUdpTransport
      dsimp only
      split
      · refine Client.ResponsesFit.plain ?_ ?_ ?_
        · exact ⟨hsession, hresponses⟩
        · decide
        · decide
      · split
        · refine Client.ResponsesFit.plain ?_ ?_ ?_
          · exact ⟨hsession, hresponses⟩
          · decide
          · decide
        · refine Client.ResponsesFit.finishSetup ?_ ?_
          · exact ⟨hsession, hresponses⟩
          · decide

theorem Client.ResponsesFit.handlePlayRequest (h : client.ResponsesFit config stored) :
    (client.handlePlayRequest exchange).1.ResponsesFit config stored := by
  have hflag : (if contains client.requestBuffer backchannelHeader then
      { client with supportsBackchannel := true } else client).ResponsesFit config stored := by
    split <;> exact ⟨h.session, h.responses⟩
  unfold Client.handlePlayRequest
  dsimp only
  generalize (if contains client.requestBuffer backchannelHeader then
    { client with supportsBackchannel := true } else client) = flagged at hflag
  split
  · exact hflag.plain (by decide) (by decide)
  · have hplaying : Client.ResponsesFit { flagged with
        state := .playing, rtpSeq := exchange.rtpSeq, rtpSsrc := exchange.rtpSsrc }
        config stored := ⟨hflag.session, hflag.responses⟩
    have hsent : (Client.sendRtspResponse _ exchange 200 "OK" (ascii "Range: npt=0.000-\r\n")
        none).1.ResponsesFit config stored :=
      hplaying.literal (by decide) (by decide) (by decide)
    split
    · exact ⟨hsent.session, hsent.responses⟩
    · exact hsent

theorem Client.ResponsesFit.handleRequest (h : client.ResponsesFit config stored)
    (hport : config.port.natAbs < 10 ^ 10) (request : Request) :
    (client.handleRequest config exchange request).client.ResponsesFit config stored := by
  unfold Client.handleRequest
  cases request.method with
  | options => exact h.literal (by decide) (by decide) (by decide)
  | describe => exact h.handleDescribeRequest hport request.url
  | setup => exact h.handleSetupRequest request.url request.transport
  | play => exact h.handlePlayRequest
  | pause =>
    have hready : Client.ResponsesFit { client with state := .ready } config stored :=
      ⟨h.session, h.responses⟩
    unfold Client.handlePauseRequest
    dsimp only
    split
    · exact h.plain (by decide) (by decide)
    · exact hready.plain (by decide) (by decide)
  | teardown =>
    have hinit : Client.ResponsesFit { client with state := .init } config stored :=
      ⟨h.session, h.responses⟩
    have hsent : (Client.sendRtspResponse _ exchange 200 "OK" [] none).1.ResponsesFit
        config stored := hinit.plain (by decide) (by decide)
    exact ⟨Nat.zero_lt_succ _, hsent.responses⟩
  | unknown => exact h.plain (by decide) (by decide)

/-- What is read, whether it is served or not, is answered with responses that fit. -/
theorem Client.ResponsesFit.handleClientConnection (h : client.ResponsesFit config stored)
    (hport : config.port.natAbs < 10 ^ 10) {handled : Handled}
    (hhandled : client.handleClientConnection config exchange = some handled) :
    handled.client.ResponsesFit config stored := by
  unfold Client.handleClientConnection at hhandled
  dsimp only at hhandled
  split at hhandled
  · cases hhandled
    exact h
  · split_ifs at hhandled with hempty hinterleaved
    · cases hhandled
      exact h
    · cases hhandled
      exact h
    · split at hhandled
      · cases hhandled
        exact ⟨h.session, h.responses⟩
      · rename_i request _
        have hread : Client.ResponsesFit
            { client with lastActivityUs := exchange.now, cseq := request.cseq } config stored :=
          ⟨h.session, h.responses⟩
        split_ifs at hhandled with hunknown
        · cases hhandled
          exact hread
        · split at hhandled
          · cases hhandled
          · cases hhandled
            exact hread.literal (by decide) (by decide) (by decide)
          · cases hhandled
            exact hread.literal (by decide) (by decide) (by decide)
          · cases hhandled
            exact hread.plain (by decide) (by decide)
          · cases hhandled
            exact hread.handleRequest hport request

/-! ### The server -/

/-- The responses of all slots fit. -/
def Server.ResponsesFit (server : Server) (stored : ℤ → Int32) : Prop :=
  ∀ slot, (server.clients slot).ResponsesFit server.config stored

/-- A slot that is served keeps to it. -/
theorem Client.ResponsesFit.serve {after : Client} {k : ℤ}
    (h : client.ResponsesFit config stored) (hport : config.port.natAbs < 10 ^ 10)
    (hserve : client.serve config exchange = some (after, k)) :
    after.ResponsesFit config stored := by
  have hmarked : client.pauseInterleaved.ResponsesFit config stored := by
    unfold Client.pauseInterleaved
    split <;> exact ⟨h.session, h.responses⟩
  obtain ⟨handled, hhandled, hrest⟩ := Option.bind_eq_some_iff.mp hserve
  obtain ⟨hsession, hresponses⟩ := hmarked.handleClientConnection hport hhandled
  have hrestored : (handled.restore client.state).ResponsesFit config stored := by
    unfold Handled.restore
    split <;> exact ⟨hsession, hresponses⟩
  dsimp only at hrest
  split_ifs at hrest
  · obtain ⟨rfl, -⟩ := Prod.mk.inj (Option.some.inj hrest)
    exact ⟨Nat.zero_lt_succ _, hrestored.responses⟩
  · obtain ⟨rfl, -⟩ := Prod.mk.inj (Option.some.inj hrest)
    exact hrestored

/-- A new connection begins without responses. -/
theorem Client.ResponsesFit.accept (client : Client) (connection : Connection) :
    (client.accept connection).ResponsesFit config stored := by
  refine ⟨?_, fun response hresponse => absurd hresponse List.not_mem_nil⟩
  simp [Client.accept, generateSessionId]

/-- No turn breaks the rule. -/
theorem Server.ResponsesFit.turn {server after : Server} (h : server.ResponsesFit stored)
    (hport : server.config.port.natAbs < 10 ^ 10) {turn : Turn}
    (hturn : server.turn turn = some after) : after.ResponsesFit stored := by
  intro slot
  have hbefore := h slot
  rw [Server.turn_config hturn]
  have hturned := Server.turn_turned hturn slot
  generalize after.clients slot = client at hturned ⊢
  cases hturned with
  | same => exact hbefore
  | accepted connection =>
    have haccept : ((server.clients slot).accept connection).ResponsesFit server.config stored :=
      Client.ResponsesFit.accept _ connection
    exact ⟨haccept.session, haccept.responses⟩
  | acceptedTls connection =>
    have haccept : ((server.clients slot).accept connection).ResponsesFit server.config stored :=
      Client.ResponsesFit.accept _ connection
    exact ⟨haccept.session, haccept.responses⟩
  | handshakeFailed connection => exact Client.ResponsesFit.accept _ connection
  | served hserve => exact hbefore.serve hport hserve
  | cleaned => exact ⟨Nat.zero_lt_succ _, hbefore.responses⟩
  | dropped => exact ⟨hbefore.session, hbefore.responses⟩

/-- Whatever else the slots contain at first, with the flag for the backchannel or without it,
and whatever the clients send, every response and every description in one is printed whole. -/
theorem Server.responsesFit_of_run {server after : Server} {turns : List Turn}
    (hport : -2 ^ 31 ≤ server.config.port ∧ server.config.port < 2 ^ 31)
    (hslots : ∀ slot, (server.clients slot).sessionId.length < 32 ∧
      (server.clients slot).responses = [])
    (hrun : turns.foldlM Server.turn server = some after) : after.ResponsesFit stored := by
  have hbound : server.config.port.natAbs < 10 ^ 10 := by omega
  have hnone : server.ResponsesFit stored := by
    refine fun slot => ⟨(hslots slot).1, ?_⟩
    rw [(hslots slot).2]
    exact fun response hresponse => absurd hresponse List.not_mem_nil
  have hstep : ∀ (before : Server) (turn : Turn) (next : Server),
      before.ResponsesFit stored ∧ before.config = server.config → before.turn turn = some next →
      next.ResponsesFit stored ∧ next.config = server.config := by
    rintro before turn next ⟨hfit, hconfig⟩ hturn
    exact ⟨hfit.turn (hconfig ▸ hbound) hturn, (Server.turn_config hturn).trans hconfig⟩
  exact (Runs.invariant_foldlM hstep hrun ⟨hnone, rfl⟩).1

/-- DESCRIBE of the only stream. -/
def describeViewed : Exchange :=
  .receive "DESCRIBE rtsp://192.168.1.10/ch0 RTSP/1.0\r\nCSeq: 2\r\n\r\n" (by decide)

/-- A server whose slots hold the header of the backchannel in their buffers. -/
def offeringServer : Server :=
  { Server.create openConfig with
    clients := fun _ => { Client.initial with requestBuffer := backchannelHeader } }

/-- DESCRIBE of a stream with a backchannel is answered with a response that fits. -/
theorem Server.responsesFit_describeViewed :
    ∃ after, [Turn.accept viewerConnection, .serve 0 describeViewed].foldlM Server.turn
        offeringServer = some after ∧ after.ResponsesFit Int32.ofInt := by
  have hsome : ([Turn.accept viewerConnection, .serve 0 describeViewed].foldlM Server.turn
      offeringServer).isSome = true := by decide +kernel
  obtain ⟨after, hafter⟩ := Option.isSome_iff_exists.mp hsome
  have hslots : ∀ slot, (offeringServer.clients slot).sessionId.length < 32 ∧
      (offeringServer.clients slot).responses = [] := fun _ => ⟨Nat.zero_lt_succ 31, rfl⟩
  exact ⟨after, hafter, Server.responsesFit_of_run (by decide) hslots hafter⟩

end Rtsp
