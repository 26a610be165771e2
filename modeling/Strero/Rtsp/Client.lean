import Mathlib.Algebra.Group.Int.Defs
import Mathlib.Algebra.Group.Nat.Defs
import Mathlib.Data.Int.Notation
import Mathlib.Data.Nat.Notation

/-!
# The client slots of the RTSP server

A slot holds what the server knows of one connection: its session, where its
media go, and the stream that it plays. Microseconds are kept in an unsigned
long, which has 32 bits on the camera.
-/

namespace Rtsp

/-- `rtsp_client_state_t`. -/
inductive ClientState
  | init | ready | playing | paused
deriving DecidableEq, Repr

/-- `video_codec_t`. -/
inductive Codec
  | h264 | h265
deriving DecidableEq, Repr

/-- `rtsp_transport_mode_t`. -/
inductive TransportMode
  | udp | tcp
deriving DecidableEq, Repr

/-- `struct sockaddr_in`: address and port in host order. -/
structure SocketAddress where
  address : UInt32
  port : UInt16
deriving DecidableEq, Repr

/-- A response passed to `send_rtsp_response`, with the fields of the slot that
are printed in it. -/
structure Response where
  statusCode : ℕ
  statusText : String
  cseq : ℤ
  sessionId : List UInt8
  headers : List UInt8
  body : Option (List UInt8)
deriving DecidableEq, Repr

/-- `rtsp_client_t`. The responses are those sent on the connection so far. -/
structure Client where
  socketFd : ℤ
  clientAddress : UInt32
  state : ClientState
  sessionId : List UInt8
  cseq : ℤ
  rtpAddress : SocketAddress
  rtcpAddress : SocketAddress
  rtpPort : ℤ
  rtcpPort : ℤ
  rtpSocketFd : ℤ
  rtpSeq : UInt16
  rtpTimestamp : UInt32
  rtpSsrc : UInt32
  videoChannel : ℤ
  codec : Codec
  transportMode : TransportMode
  requestBuffer : List UInt8
  lastActivityUs : UInt32
  active : Bool
  needsIdr : Bool
  idrWaitStartUs : UInt32
  supportsBackchannel : Bool
  useTls : Bool
  sslContext : Bool
  responses : List Response
deriving DecidableEq

/-- A slot as `rtsp_server_create` leaves it. -/
def Client.initial : Client where
  socketFd := -1
  clientAddress := 0
  state := .init
  sessionId := []
  cseq := 0
  rtpAddress := ⟨0, 0⟩
  rtcpAddress := ⟨0, 0⟩
  rtpPort := 0
  rtcpPort := 0
  rtpSocketFd := -1
  rtpSeq := 0
  rtpTimestamp := 0
  rtpSsrc := 0
  videoChannel := 0
  codec := .h264
  transportMode := .udp
  requestBuffer := []
  lastActivityUs := 0
  active := false
  needsIdr := false
  idrWaitStartUs := 0
  supportsBackchannel := false
  useTls := false
  sslContext := false
  responses := []

end Rtsp
