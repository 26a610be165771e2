import Strero.Http.Server
import Strero.Lib.Decimal
import Strero.Lib.Sending

/-!
# Sending a response

Three functions write a header and what it announces to a socket. `http_send_binary` sends again
what `send` has not taken. `http_send_response`, and the loop that sends the images of an MJPEG
stream, only look for errors.
-/

namespace Http.Delivery

open CString Scanf Sending

/-! ### Headers -/

/-- The header of `http_send_response`. -/
def responseHeader (statusCode : ℕ) (contentType : List UInt8) (bodyLen : ℕ) : List UInt8 :=
  ascii "HTTP/1.1 " ++ printInt statusCode ++ ascii " " ++ ascii (httpGetStatusText statusCode) ++
    ascii "\r\nContent-Type: " ++ contentType ++
    ascii "\r\nContent-Length: " ++ printInt bodyLen ++
    ascii "\r\nConnection: close\r\nCache-Control: no-cache\r\n\r\n"

/-- The header of `http_send_binary`. -/
def binaryHeader (contentType : List UInt8) (dataSize : ℕ) : List UInt8 :=
  ascii "HTTP/1.1 200 OK\r\nContent-Type: " ++ contentType ++
    ascii "\r\nContent-Length: " ++ printInt dataSize ++
    ascii "\r\nConnection: close\r\nCache-Control: no-cache, no-store, must-revalidate\r\n" ++
    ascii "Pragma: no-cache\r\nExpires: 0\r\nAccept-Ranges: bytes\r\n" ++
    ascii "Access-Control-Allow-Origin: *\r\nX-Content-Type-Options: nosniff\r\n" ++
    ascii "Transfer-Encoding: identity\r\n\r\n"

/-- The header of `http_send_mjpeg_frame_header`. -/
def frameHeader (jpegSize : ℕ) : List UInt8 :=
  ascii "--thingino_streamer_mjpeg_boundary\r\nContent-Type: image/jpeg\r\nContent-Length: " ++
    printInt jpegSize ++ ascii "\r\n\r\n"

/-- What is sent between two images. -/
def frameSeparator : List UInt8 := ascii "\r\n"

/-- The lines after the status line are those of the response that the server gives. -/
theorem responseHeader_eq (statusCode : ℕ) (contentType body : String) :
    responseHeader statusCode (ascii contentType) (ascii body).length =
      ascii "HTTP/1.1 " ++ printInt statusCode ++ ascii " " ++
        ascii (Http.httpSendResponse statusCode contentType body).statusText ++ ascii "\r\n" ++
        (Http.httpSendResponse statusCode contentType body).headers ++ ascii "\r\n" := by
  have htype : ascii "\r\nContent-Type: " = ascii "\r\n" ++ ascii "Content-Type: " := by decide
  have hend : ascii "\r\nConnection: close\r\nCache-Control: no-cache\r\n\r\n" =
      ascii "\r\nConnection: close\r\nCache-Control: no-cache\r\n" ++ ascii "\r\n" := by decide
  unfold responseHeader Http.httpSendResponse
  rw [htype, hend]
  simp only [List.append_assoc]

/-! ### The three functions -/

/-- The bytes of a header that `snprintf` has printed into an array. Where the array is too
small, `send` would read behind it. -/
def printed (size : ℕ) (header : List UInt8) : Option (List UInt8) :=
  if header.length < size then some header else none

/-- `http_send_response`. -/
def httpSendResponse (statusCode : ℕ) (contentType body : Option (List UInt8))
    (connection : Connection UInt8) : Option (Connection UInt8) := do
  let text := cString (body.getD [])
  let header ← printed 512
    (responseHeader statusCode (contentType.getD (ascii "text/plain")) text.length)
  let sent ← connection.send header
  if sent.1.isError then some sent.2
  else if text.length > 0 then (sent.2.send text).map Prod.snd
  else some sent.2

/-- `http_send_binary`. -/
def httpSendBinary (contentType : Option (List UInt8)) (data : List UInt8)
    (connection : Connection UInt8) : Option (Connection UInt8) := do
  let header ← printed 512
    (binaryHeader (contentType.getD (ascii "application/octet-stream")) data.length)
  let sent ← sendLoop connection.written header connection.results
  if !sent.1 then some sent.2
  else (sendLoop sent.2.written data sent.2.results).map Prod.snd

/-- `http_send_mjpeg_frame_header`. -/
def httpSendMjpegFrameHeader (jpegSize : ℕ) (connection : Connection UInt8) :
    Option (Result × Connection UInt8) :=
  (printed 256 (frameHeader jpegSize)).bind connection.send

/-- The part of the loop of `mjpeg_stream_thread` that sends an image. -/
def sendFrame (jpeg : List UInt8) (connection : Connection UInt8) :
    Option (Connection UInt8) := do
  let sent ← httpSendMjpegFrameHeader jpeg.length connection
  if sent.1.isError then some sent.2
  else
    let sent ← sent.2.send jpeg
    if sent.1.isError then some sent.2 else (sent.2.send frameSeparator).map Prod.snd

/-- A call of one of the three functions. The size of an image is a number of 32 bits. -/
inductive Writer
  | response (statusCode : ℕ) (contentType body : Option (List UInt8))
  | binary (contentType : Option (List UInt8)) (data : List UInt8)
  | frame (jpeg : List UInt8) (hsize : jpeg.length < 4294967296)

/-- The call writes to a connection. -/
def Writer.write : Writer → Connection UInt8 → Option (Connection UInt8)
  | .response statusCode contentType body => httpSendResponse statusCode contentType body
  | .binary contentType data => httpSendBinary contentType data
  | .frame jpeg _ => sendFrame jpeg

/-- The header that the call prints. -/
def Writer.header : Writer → List UInt8
  | .response statusCode contentType body =>
    responseHeader statusCode (contentType.getD (ascii "text/plain"))
      (cString (body.getD [])).length
  | .binary contentType data =>
    binaryHeader (contentType.getD (ascii "application/octet-stream")) data.length
  | .frame jpeg _ => frameHeader jpeg.length

/-- What the call has to write after the header, in the parts that it offers first. -/
def Writer.content : Writer → List (List UInt8)
  | .response _ _ body => if cString (body.getD []) = [] then [] else [cString (body.getD [])]
  | .binary _ data => [data]
  | .frame jpeg _ => [jpeg, frameSeparator]

/-- The whole response. -/
def Writer.whole (writer : Writer) : List UInt8 := writer.header ++ writer.content.flatten

/-- The whole response is written to the connection, and nothing else. -/
def Writer.Delivers (writer : Writer) (results : List Result) : Prop :=
  ∃ rest, writer.write ⟨[], results⟩ = some ⟨writer.whole, rest⟩

variable {results : List Result}

/-! ### The functions that do not send again -/

/-- The last part is not looked at. -/
theorem map_snd_send (connection : Connection UInt8) (part : List UInt8) :
    (connection.send part).map Prod.snd = connection.sendParts [part] := by
  simp only [Connection.sendParts, ite_self, Option.map_eq_bind]
  rfl

theorem write_response {statusCode : ℕ} {contentType body : Option (List UInt8)}
    (hfits : (Writer.response statusCode contentType body).header.length < 512)
    (connection : Connection UInt8) :
    (Writer.response statusCode contentType body).write connection =
      connection.sendParts ((Writer.response statusCode contentType body).header ::
        (Writer.response statusCode contentType body).content) := by
  unfold Writer.header at hfits ⊢
  unfold Writer.write httpSendResponse Writer.content
  dsimp only at hfits ⊢
  rw [printed, if_pos hfits, Option.bind_eq_bind, Option.bind_some, Connection.sendParts]
  refine congrArg (connection.send _).bind (funext fun sent => if_congr Iff.rfl rfl ?_)
  by_cases hempty : cString (body.getD []) = []
  · rw [if_pos hempty, if_neg (by rw [hempty]; decide), Connection.sendParts]
  · rw [if_neg hempty, if_pos (List.length_pos_iff.mpr hempty), map_snd_send]

/-- The header of an image fits into its array. -/
theorem length_frameHeader_lt {jpegSize : ℕ} (hsize : jpegSize < 4294967296) :
    (frameHeader jpegSize).length < 256 := by
  have hdigits : (digits jpegSize).length ≤ 10 :=
    length_digits_le (by decide) (hsize.trans (by decide))
  rw [frameHeader, printInt_natCast, List.length_append, List.length_append]
  have hfront : (ascii
      "--thingino_streamer_mjpeg_boundary\r\nContent-Type: image/jpeg\r\nContent-Length: ").length =
      78 := by decide +kernel
  have hend : (ascii "\r\n\r\n").length = 4 := by decide
  omega

theorem write_frame {jpeg : List UInt8} (hsize : jpeg.length < 4294967296)
    (connection : Connection UInt8) :
    (Writer.frame jpeg hsize).write connection =
      connection.sendParts
        ((Writer.frame jpeg hsize).header :: (Writer.frame jpeg hsize).content) := by
  unfold Writer.write sendFrame httpSendMjpegFrameHeader Writer.content
  dsimp only
  rw [printed, if_pos (length_frameHeader_lt hsize), Option.bind_some, Connection.sendParts]
  refine congrArg (connection.send _).bind (funext fun sent => if_congr Iff.rfl rfl ?_)
  rw [Connection.sendParts]
  refine congrArg (sent.2.send _).bind (funext fun sent => if_congr Iff.rfl rfl ?_)
  exact map_snd_send sent.2 frameSeparator

/-- A function that offers each part once writes everything if and only if each part is taken at
once. -/
theorem delivers_iff_takesAll {writer : Writer}
    (hwrite : ∀ connection,
      writer.write connection = connection.sendParts (writer.header :: writer.content))
    (h : Progresses results (writer.header :: writer.content).length) :
    writer.Delivers results ↔ TakesAll results (writer.header :: writer.content) := by
  obtain ⟨connection, hconnection, -, hiff⟩ := exists_sendParts [] h
  rw [List.nil_append, List.flatten_cons, ← Writer.whole] at hiff
  rw [← hiff, Writer.Delivers, hwrite, hconnection]
  constructor
  · rintro ⟨rest, hrest⟩
    rw [Option.some.inj hrest]
  · intro hwritten
    exact ⟨connection.results, by rw [← hwritten]⟩

/-! ### The function that sends again -/

/-- The data of `http_send_binary` arrive whatever `send` takes at a time. -/
theorem delivers_binary {contentType : Option (List UInt8)} {data : List UInt8}
    (hfits : (Writer.binary contentType data).header.length < 512)
    (h : Progresses results (Writer.binary contentType data).whole.length) :
    (Writer.binary contentType data).Delivers results := by
  rw [Writer.whole, List.length_append] at h
  obtain ⟨rest, hheader, hrest⟩ := sendLoop_of_progresses [] h
  rw [List.nil_append] at hheader
  have hcontent : Progresses rest (data.length + 0) := by simpa [Writer.content] using hrest
  obtain ⟨last, hdata, -⟩ :=
    sendLoop_of_progresses (Writer.binary contentType data).header hcontent
  refine ⟨last, ?_⟩
  unfold Writer.header at hfits hheader hdata
  dsimp only at hfits hheader hdata
  rw [Writer.write, httpSendBinary, printed, if_pos hfits]
  refine (congrArg (Option.bind · _) hheader).trans ?_
  dsimp only [Option.bind_some]
  rw [if_neg (by decide), hdata]
  simp [Writer.whole, Writer.header, Writer.content]

/-- A header that is too long for its array is not sent. -/
theorem Writer.Delivers.fits {writer : Writer} (h : writer.Delivers results) :
    writer.header.length < 512 := by
  obtain ⟨rest, hrest⟩ := h
  by_contra hlong
  unfold Writer.header at hlong
  cases writer with
  | response statusCode contentType body =>
    unfold Writer.write httpSendResponse at hrest
    dsimp only at hrest
    rw [printed, if_neg hlong] at hrest
    cases hrest
  | binary contentType data =>
    unfold Writer.write httpSendBinary at hrest
    dsimp only at hrest
    rw [printed, if_neg hlong] at hrest
    cases hrest
  | frame jpeg hsize =>
    have hfits := length_frameHeader_lt hsize
    dsimp only at hlong
    omega

/-- There are no more parts than bytes. -/
theorem Writer.length_content_lt (writer : Writer) :
    writer.content.length < writer.whole.length := by
  have hline : (ascii "\r\n\r\n").length = 4 := by decide
  rw [Writer.whole, List.length_append]
  cases writer with
  | response statusCode contentType body =>
    have hheader : 2 < (Writer.response statusCode contentType body).header.length := by
      rw [Writer.header, responseHeader, List.length_append]
      exact Nat.lt_add_left _ (by decide)
    rw [Writer.content]
    split_ifs <;> simp only [List.length_nil, List.length_singleton] <;> omega
  | binary contentType data =>
    have hheader : 1 < (Writer.binary contentType data).header.length := by
      rw [Writer.header, binaryHeader, List.length_append]
      exact Nat.lt_add_left _ (by decide)
    exact Nat.lt_add_right _ hheader
  | frame jpeg hsize =>
    have hheader : 2 < (Writer.frame jpeg hsize).header.length := by
      rw [Writer.header, frameHeader, List.length_append, hline]
      omega
    exact Nat.lt_add_right _ hheader

/-- With connections that take something in each call, the whole response is written if and only
if the header fits into its array, and the parts are sent by the function that sends again or
are taken at once. -/
theorem delivers_iff (writer : Writer) (results : List Result)
    (h : Progresses results writer.whole.length) :
    writer.Delivers results ↔ writer.header.length < 512 ∧
      ((∃ contentType data, writer = .binary contentType data) ∨
        TakesAll results (writer.header :: writer.content)) := by
  rw [← and_iff_right_of_imp fun h : writer.Delivers results => h.fits]
  refine and_congr_right fun hfits => ?_
  cases writer with
  | response statusCode contentType body =>
    rw [delivers_iff_takesAll (write_response hfits) (h.mono (Writer.length_content_lt _))]
    refine (or_iff_right ?_).symm
    rintro ⟨_, _, hbinary⟩
    cases hbinary
  | binary contentType data =>
    exact iff_of_true (delivers_binary hfits h) (.inl ⟨contentType, data, rfl⟩)
  | frame jpeg hsize =>
    rw [delivers_iff_takesAll (write_frame hsize) (h.mono (Writer.length_content_lt _))]
    refine (or_iff_right ?_).symm
    rintro ⟨_, _, hbinary⟩
    cases hbinary

/-- An image is delivered over a connection that takes 300 bytes at once. -/
theorem delivers_smallImage :
    (Writer.frame [0xFF, 0xD8] (by decide)).Delivers (List.replicate 90 (.sent 300)) := by
  have hprogress : Progresses (List.replicate 90 (.sent 300))
      (Writer.frame [0xFF, 0xD8] (by decide)).whole.length :=
    ⟨by decide +kernel, fun result hresult => ⟨300, by decide, List.eq_of_mem_replicate hresult⟩⟩
  refine (delivers_iff _ _ hprogress).mpr ⟨by decide +kernel, .inr ?_⟩
  refine takesAll_cons.mpr ⟨by decide +kernel, ?_⟩
  exact takesAll_cons.mpr ⟨by decide, takesAll_cons.mpr ⟨by decide, takesAll_nil⟩⟩

/-- Of a short page the second byte is lost, where the second call has room for one only. -/
theorem not_delivers_shortPage :
    ¬∀ (writer : Writer) (results : List Result), writer.header.length < 512 →
      Progresses results writer.whole.length → writer.Delivers results := by
  intro h
  have hprogress : Progresses (.sent 512 :: List.replicate 200 (.sent 1))
      (Writer.response 200 (some (ascii "text/html")) (some (ascii "ok"))).whole.length := by
    refine ⟨by decide +kernel, fun result hresult => ?_⟩
    rcases List.mem_cons.mp hresult with rfl | hrest
    · exact ⟨512, by decide, rfl⟩
    · exact ⟨1, by decide, List.eq_of_mem_replicate hrest⟩
  obtain ⟨rest, hrest⟩ := h _ _ (by decide +kernel) hprogress
  have hwritten := congrArg (Option.map Connection.written) hrest
  rw [Option.map_some] at hwritten
  dsimp only at hwritten
  exact absurd hwritten (by decide +kernel)

end Http.Delivery
