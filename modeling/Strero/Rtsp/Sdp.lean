import Strero.Rtsp.Request
import Strero.Rtsp.RtpSender

/-!
# Stream descriptions

The text that `generate_sdp` prints for DESCRIBE. The arithmetic on the size of
the picture is that of `int`, with 32 bits.
-/

namespace Rtsp

open CString

/-- The estimate of the bandwidth, in kilobits per second. -/
def videoBandwidth (stream : StreamConfig) : Int32 :=
  let estimate := stream.width * stream.height * stream.fps / 1000
  let atLeast := if estimate < 1000 then 1000 else estimate
  if 10000 < atLeast then 10000 else atLeast

/-- `%d` of a 32-bit number. -/
def printInt32 (n : Int32) : List UInt8 := printInt n.toInt

/-- The lines on the payload format. -/
def formatLines (codec : Codec) : List UInt8 :=
  let payloadType := printInt codec.payloadType.toNat
  match codec with
  | .h264 => ascii "a=rtpmap:" ++ payloadType ++ ascii " H264/90000\r\na=fmtp:" ++ payloadType ++
      ascii " profile-level-id=42e01f;packetization-mode=1\r\n"
  | .h265 => ascii "a=rtpmap:" ++ payloadType ++ ascii " H265/90000\r\na=fmtp:" ++ payloadType ++
      ascii " profile-space=0;profile-id=1;tier-flag=0;level-id=93\r\n"

/-- One audio section of a backchannel: its format, bandwidth and encoding, the
track in its URL, and its direction. -/
def audioSection (config : Config) (streamName : List UInt8)
    (format bandwidth encoding track direction : String) : List UInt8 :=
  ascii "m=audio " ++ ascii format ++ ascii "\r\nc=IN IP4 0.0.0.0\r\nb=AS:" ++ ascii bandwidth ++
    ascii "\r\na=rtpmap:" ++ ascii encoding ++ ascii "\r\na=control:rtsp://" ++
    config.serverIp.bytes ++ ascii ":" ++ printInt config.port ++ ascii "/" ++ streamName ++
    ascii "/" ++ ascii track ++ ascii "\r\na=" ++ ascii direction ++ ascii "\r\n"

/-- The sections for clients that support the ONVIF backchannel. -/
def backchannelSections (config : Config) (streamName : List UInt8) : List UInt8 :=
  audioSection config streamName "0 RTP/AVP 0" "64" "0 PCMU/8000" "audio" "recvonly" ++
  audioSection config streamName "0 RTP/AVP 0" "64" "0 PCMU/8000" "G711_audiobackchannel"
    "sendonly" ++
  audioSection config streamName "98 RTP/AVP 98" "32" "98 G726-16/8000" "G726_audiobackchannel"
    "sendonly"

/-- `generate_sdp`, at the given time, for the stream of a name. -/
def generateSdp (config : Config) (streamName : List UInt8) (client : Client) (time : Int32) :
    Option (List UInt8) := do
  let stream ← config.findStream streamName
  let name := stream.streamName.bytes
  return ascii "v=0\r\n" ++
    ascii "o=- " ++ printInt32 time ++ ascii " " ++ printInt32 time ++ ascii " IN IP4 " ++
      config.serverIp.bytes ++ ascii "\r\n" ++
    ascii "s=thingino " ++ name ++ ascii "\r\n" ++
    ascii "i=" ++ name ++ ascii "\r\n" ++
    ascii "t=0 0\r\n" ++
    ascii "a=tool:Thingino Streamer v1.0\r\n" ++
    ascii "a=type:broadcast\r\n" ++
    ascii "a=control:*\r\n" ++
    ascii "a=range:npt=now-\r\n" ++
    ascii "a=x-qt-text-nam:thingino " ++ name ++ ascii "\r\n" ++
    ascii "a=x-qt-text-inf:" ++ name ++ ascii "\r\n" ++
    ascii "m=video 0 RTP/AVP " ++ printInt stream.codec.payloadType.toNat ++ ascii "\r\n" ++
    ascii "c=IN IP4 0.0.0.0\r\n" ++
    ascii "b=AS:" ++ printInt32 (videoBandwidth stream) ++ ascii "\r\n" ++
    formatLines stream.codec ++
    ascii "a=control:track1\r\n" ++
    (if stream.streamInfo.bytes = [] then []
      else ascii "a=x-desc:" ++ stream.streamInfo.bytes ++ ascii "\r\n") ++
    ascii "a=x-dimensions:" ++ printInt32 stream.width ++ ascii "," ++ printInt32 stream.height ++
      ascii "\r\n" ++
    ascii "a=framerate:" ++ printInt32 stream.fps ++ ascii "\r\n" ++
    if client.supportsBackchannel then backchannelSections config streamName else []

end Rtsp
