import Strero.AuthUtils
import Strero.Lib.Scanf
import Strero.Rtsp.Client

/-!
# RTSP requests

What a request says, by `sscanf` and `strstr` on its text, and what its URL names
in the table of streams: a stream, and for SETUP a track of it.
-/

namespace Rtsp

open CString Scanf AuthUtils

/-! ### The request line and the headers -/

/-- `rtsp_method_t`, as far as a request is parsed to it. -/
inductive Method
  | unknown | options | describe | setup | play | pause | teardown
deriving DecidableEq, Repr

/-- What `parse_rtsp_request` stores, and the text it has read. -/
structure Request where
  text : List UInt8
  method : Method
  url : List UInt8
  cseq : ℤ
deriving DecidableEq

/-- The method of a name. -/
def methodOfName (name : List UInt8) : Method :=
  if name = ascii "OPTIONS" then .options
  else if name = ascii "DESCRIBE" then .describe
  else if name = ascii "SETUP" then .setup
  else if name = ascii "PLAY" then .play
  else if name = ascii "PAUSE" then .pause
  else if name = ascii "TEARDOWN" then .teardown
  else .unknown

/-- `"%31s %255s"`. -/
def requestLine : Scanner (List UInt8 × List UInt8) := do
  let name ← word (some 31)
  space
  let url ← word (some 255)
  return (name, url)

/-- `"CSeq: %d"`. -/
def cseqHeader : Scanner ℤ := do
  literal "CSeq:"
  space
  int

/-- `parse_rtsp_request`. -/
def parseRtspRequest (request : List UInt8) : Option Request := do
  let (name, url) ← requestLine.scan request
  if ascii "RTSP/" <+: name then none
  else some {
    text := request
    method := methodOfName name
    url := url
    cseq := ((strstr request (ascii "CSeq:")).bind cseqHeader.scan).getD 0 }

/-- `"Transport: %255[^\r\n]"`. -/
def transportHeader : Scanner (List UInt8) := do
  literal "Transport:"
  space
  set (some 255) fun c => c ≠ '\r'.toUInt8 && c ≠ '\n'.toUInt8

/-- The value of the transport header, empty without one. -/
def Request.transport (request : Request) : List UInt8 :=
  ((strstr request.text (ascii "Transport:")).bind transportHeader.scan).getD []

/-- `"%*[^;];%*[^;];interleaved=%d-%d"`, and the same for another parameter. -/
def transportPair (parameter : String) : Scanner (ℤ × ℤ) := do
  let _ ← set none (· ≠ ';'.toUInt8)
  literal ";"
  let _ ← set none (· ≠ ';'.toUInt8)
  literal ";"
  literal parameter
  let first ← int
  literal "-"
  let second ← int
  return (first, second)

/-! ### Streams and tracks -/

/-- `video_stream_config_t`. -/
structure StreamConfig where
  channel : ℤ
  codec : Codec
  width : Int32
  height : Int32
  fps : Int32
  streamName : FixedString 64
  streamInfo : FixedString 128
deriving DecidableEq

/-- `rtsp_server_config_t`, within the bounds that `rtsp_module_config_validate`
checks, with the streams added to the server, the address that its SDP shows, and
the address of the table of base64 characters. -/
structure Config where
  port : ℤ
  auth : AuthConfig
  maxClients : ℤ
  maxClients_pos : 0 < maxClients
  maxClients_le : maxClients ≤ 100
  sessionTimeout : ℕ
  sessionTimeout_pos : 0 < sessionTimeout
  sessionTimeout_lt : sessionTimeout < 2 ^ 31
  tlsEnabled : Bool
  streams : List StreamConfig
  serverIp : FixedString 64
  tableAddress : UInt32
deriving DecidableEq

/-- The search for a stream by its name. -/
def Config.findStream (config : Config) (streamName : List UInt8) : Option StreamConfig :=
  config.streams.find? fun stream => streamName = stream.streamName.bytes

/-- `"rtsp://%*[^/]/%s"`, and the same for another scheme. -/
def pathAfterHost (scheme : String) : Scanner (List UInt8) := do
  literal scheme
  let _ ← set none (· ≠ '/'.toUInt8)
  literal "/"
  word none

/-- `"/%s"`. -/
def pathAlone : Scanner (List UInt8) := do
  literal "/"
  word none

/-- `extract_stream_name_from_url`. -/
def extractStreamNameFromUrl (config : Config) (url : List UInt8) : Option (List UInt8) :=
  (pathAfterHost "rtsp://").scan url |>.orElse fun _ =>
  (pathAfterHost "rtsps://").scan url |>.orElse fun _ =>
  pathAlone.scan url |>.orElse fun _ =>
  config.streams.head?.map fun stream => stream.streamName.bytes

/-- What a stream name means to `handle_setup_request`. -/
structure Track where
  streamName : List UInt8
  trackId : ℤ
  isBackchannel : Bool
deriving DecidableEq

/-- The suffixes with a fixed track, in the order in which they are looked for. -/
def trackSuffixes : List (String × ℤ × Bool) :=
  [("/G711_audiobackchannel", 3, true), ("/G726_audiobackchannel", 4, true), ("/audio", 2, false),
    ("/track1", 1, false), ("/track2", 2, false)]

/-- The stream name is cut at the first suffix found in it. -/
def splitTrack (streamName : List UInt8) : Track :=
  match trackSuffixes.findSome? fun (suffix, trackId, isBackchannel) =>
      (strstr streamName (ascii suffix)).map fun stop =>
        (⟨between streamName stop, trackId, isBackchannel⟩ : Track) with
  | some track => track
  | none =>
    match strstr streamName (ascii "/trackID=") with
    | some stop => ⟨between streamName stop, atoi (stop.drop 9), false⟩
    | none => ⟨streamName, 0, false⟩

end Rtsp
