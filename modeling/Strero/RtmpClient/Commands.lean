import Strero.Lib.CString
import Strero.Lib.Wire

/-!
# Commands of the RTMP client

The client builds its three commands in stack buffers of fixed size. Every
`rtmp_client_encode_*` function appends at the current position and fails when
the buffer is too small.
-/

namespace RtmpClient

open Wire CString

/-- `rtmp_client_encode_string` at the end of what the buffer holds. The length
is kept in sixteen bits. -/
def rtmpClientEncodeString (bufferSize : ℕ) (buffer string : List UInt8) : Option (List UInt8) :=
  let length := string.length % 65536
  if buffer.length + 3 + length > bufferSize then none
  else some (buffer ++ 0x02 :: putBe16 (UInt32.ofNat length) ++ string.take length)

/-- `rtmp_client_encode_number`, of a double given by its bits. -/
def rtmpClientEncodeNumber (bufferSize : ℕ) (buffer : List UInt8) (bits : UInt64) :
    Option (List UInt8) :=
  if buffer.length + 9 > bufferSize then none
  else
    let bytes := ([56, 48, 40, 32, 24, 16, 8, 0] : List UInt64).map fun i =>
      ((bits >>> i) &&& 0xFF).toUInt8
    some (buffer ++ 0x00 :: bytes)

/-- One more byte, as `rtmp_client_encode_object_start` writes its marker and
the commands write a null. -/
def encodeByte (bufferSize : ℕ) (buffer : List UInt8) (byte : UInt8) : Option (List UInt8) :=
  if buffer.length + 1 > bufferSize then none else some (buffer ++ [byte])

/-- `rtmp_client_encode_object_start`. -/
def rtmpClientEncodeObjectStart (bufferSize : ℕ) (buffer : List UInt8) : Option (List UInt8) :=
  encodeByte bufferSize buffer 0x03

/-- The values that `rtmp_client_encode_object_property` knows, by their type
argument. -/
inductive PropertyValue
  | string (value : List UInt8)
  | number (bits : UInt64)
  | boolean (value : UInt8)

/-- `rtmp_client_encode_object_property`. -/
def rtmpClientEncodeObjectProperty (bufferSize : ℕ) (buffer name : List UInt8)
    (value : PropertyValue) : Option (List UInt8) :=
  let nameLength := name.length % 65536
  if buffer.length + 2 + nameLength > bufferSize then none
  else
    let buffer := buffer ++ putBe16 (UInt32.ofNat nameLength) ++ name.take nameLength
    match value with
    | .string value => rtmpClientEncodeString bufferSize buffer value
    | .number bits => rtmpClientEncodeNumber bufferSize buffer bits
    | .boolean value =>
      if buffer.length + 2 > bufferSize then none
      else some (buffer ++ [0x01, if value ≠ 0 then 1 else 0])

/-- `rtmp_client_encode_object_end`. -/
def rtmpClientEncodeObjectEnd (bufferSize : ℕ) (buffer : List UInt8) : Option (List UInt8) :=
  if buffer.length + 3 > bufferSize then none else some (buffer ++ [0x00, 0x00, 0x09])

/-- The parsed URL and the key of a stream target. The strings hold no NUL. -/
structure Target where
  host : List UInt8
  port : ℤ
  app : List UInt8
  stream : List UInt8
  streamKey : List UInt8
deriving DecidableEq, Repr

/-- The `tcUrl` of the connect command, cut to its buffer by `snprintf`. -/
def Target.tcUrl (t : Target) : List UInt8 :=
  (ascii "rtmp://" ++ t.host ++ ascii ":" ++ ascii (toString t.port) ++ ascii "/" ++ t.app).take 511

/-- The payload that `rtmp_client_connect` builds. -/
def connectCommand (t : Target) : Option (List UInt8) := do
  let size := 1024
  let buffer ← rtmpClientEncodeString size [] (ascii "connect")
  let buffer ← rtmpClientEncodeNumber size buffer 0x3FF0000000000000
  let buffer ← rtmpClientEncodeObjectStart size buffer
  let buffer ← rtmpClientEncodeObjectProperty size buffer (ascii "app") (.string t.app)
  let buffer ← rtmpClientEncodeObjectProperty size buffer (ascii "type")
    (.string (ascii "nonprivate"))
  let buffer ← rtmpClientEncodeObjectProperty size buffer (ascii "flashVer")
    (.string (ascii "FMLE/3.0"))
  let buffer ← rtmpClientEncodeObjectProperty size buffer (ascii "tcUrl") (.string t.tcUrl)
  rtmpClientEncodeObjectEnd size buffer

/-- The payload that `rtmp_client_create_stream` builds. -/
def createStreamCommand : Option (List UInt8) := do
  let size := 256
  let buffer ← rtmpClientEncodeString size [] (ascii "createStream")
  let buffer ← rtmpClientEncodeNumber size buffer 0x4000000000000000
  encodeByte size buffer 0x05

/-- The name to publish under: the stream of the URL, or else the key. -/
def Target.publishName (t : Target) : List UInt8 :=
  if t.stream.length > 0 then t.stream else t.streamKey

/-- The payload that `rtmp_client_publish` builds. -/
def publishCommand (t : Target) : Option (List UInt8) :=
  if t.publishName.length = 0 then none
  else do
    let size := 512
    let buffer ← rtmpClientEncodeString size [] (ascii "publish")
    let buffer ← rtmpClientEncodeNumber size buffer 0
    let buffer ← encodeByte size buffer 0x05
    let buffer ← rtmpClientEncodeString size buffer t.publishName
    rtmpClientEncodeString size buffer (ascii "live")

end RtmpClient
