import Strero.Lib.CString
import Strero.Lib.Wire
import Strero.Rtsp.Client

/-!
# Sending NAL units in RTP packets

`send_rtp_packet` sends a short NAL unit in one packet and hands a longer one to
the function of its codec, which cuts it into fragments. What the calls of the
network return is a parameter. All calls are recorded, and a function returns
what the function of the source returns.
-/

namespace Rtsp

open CString Wire

/-- A call that writes to a socket. -/
inductive Call
  | sendto (socket : ℤ) (address : SocketAddress) (packet : List UInt8)
  | tlsWrite (bytes : List UInt8)
  | send (socket : ℤ) (bytes : List UInt8)
deriving DecidableEq

/-- The bytes offered to the network. -/
def Call.bytes : Call → List UInt8
  | .sendto _ _ packet => packet
  | .tlsWrite bytes => bytes
  | .send _ bytes => bytes

/-- What the `n`-th call returns: the number of bytes taken, or -1. -/
abbrev Network := ℕ → List UInt8 → ℤ

/-- A client and the calls made for it so far. -/
structure Sender where
  client : Client
  calls : List Call
deriving DecidableEq

/-- One call. -/
def Sender.call (s : Sender) (net : Network) (c : Call) : Sender × ℤ :=
  ({ s with calls := s.calls ++ [c] }, net s.calls.length c.bytes)

/-- `client->rtp_seq++`. -/
def Sender.nextSeq (s : Sender) : Sender :=
  { s with client := { s.client with rtpSeq := s.client.rtpSeq + 1 } }

/-- `RTP_PAYLOAD_TYPE_H264` and `RTP_PAYLOAD_TYPE_H265`. -/
def Codec.payloadType : Codec → UInt8
  | .h264 => 96
  | .h265 => 97

/-- `MAX_RTP_PACKET_SIZE`. -/
def maxRtpPacketSize : ℕ := 1200

/-- `RTP_HEADER_SIZE`. -/
def rtpHeaderSize : ℕ := 12

/-- The twelve bytes of the RTP header. -/
def rtpHeader (client : Client) (payloadType : UInt8) (timestamp : UInt32) (marker : Bool) :
    List UInt8 :=
  [0x80, if marker then payloadType ||| 0x80 else payloadType] ++
    putBe16 client.rtpSeq.toUInt32 ++ putBe32 timestamp ++ putBe32 client.rtpSsrc

@[simp] theorem rtpHeader_length (client : Client) (payloadType : UInt8) (timestamp : UInt32)
    (marker : Bool) : (rtpHeader client payloadType timestamp marker).length = rtpHeaderSize := rfl

/-- The four bytes in front of a packet on the RTSP connection. -/
def interleavedHeader (client : Client) (packetSize : ℕ) : List UInt8 :=
  ['$'.toUInt8, UInt8.ofInt client.rtpPort] ++ putBe16 (UInt32.ofNat packetSize)

/-- A packet in a datagram; the result says whether the call succeeded. -/
def Sender.sendDatagram (s : Sender) (net : Network) (packet : List UInt8) : Sender × Bool :=
  let r := s.call net (.sendto s.client.rtpSocketFd s.client.rtpAddress packet)
  (r.1, decide (0 ≤ r.2))

/-- A packet on the RTSP connection, in a single write. -/
def Sender.sendInterleaved (s : Sender) (net : Network) (packet : List UInt8) : Sender × Bool :=
  let tcpPacket := interleavedHeader s.client packet.length ++ packet
  let r := s.call net (.tlsWrite tcpPacket)
  (r.1, decide ((tcpPacket.length : ℤ) ≤ r.2))

/-- A packet on the RTSP connection, its header and its bytes in two sends. -/
def Sender.sendInterleavedTwice (s : Sender) (net : Network) (packet : List UInt8) :
    Sender × Bool :=
  let header := s.call net (.send s.client.socketFd (interleavedHeader s.client packet.length))
  if header.2 < 4 then (header.1, false)
  else
    let r := header.1.call net (.send header.1.client.socketFd packet)
    (r.1, decide ((packet.length : ℤ) ≤ r.2))

/-- A packet of the H.264 functions. -/
def Sender.sendH264 (s : Sender) (net : Network) (packet : List UInt8) : Sender × Bool :=
  match s.client.transportMode with
  | .udp => s.sendDatagram net packet
  | .tcp => s.sendInterleaved net packet

/-- A packet of the H.265 functions. -/
def Sender.sendH265 (s : Sender) (net : Network) (packet : List UInt8) : Sender × Bool :=
  match s.client.transportMode with
  | .udp => s.sendDatagram net packet
  | .tcp => s.sendInterleavedTwice net packet

/-- The data without a start code in front of it. -/
def skipStartCode : List UInt8 → List UInt8
  | 0 :: 0 :: 0 :: 1 :: rest => rest
  | 0 :: 0 :: 1 :: rest => rest
  | data => data

theorem skipStartCode_length (data : List UInt8) :
    (skipStartCode data).length ≤ data.length ∧ data.length ≤ (skipStartCode data).length + 4 := by
  unfold skipStartCode
  split <;> simp <;> omega

/-! ### Fragments -/

/-- `max_payload_size` of `send_h264_fragmented_rtp`. -/
def maxPayloadH264 : ℕ := maxRtpPacketSize - rtpHeaderSize - 2

/-- `max_payload_size` of `send_h265_fragmented_rtp`. -/
def maxPayloadH265 : ℕ := maxRtpPacketSize - rtpHeaderSize - 3

/-- The loop of the fragmenting functions over the bytes that remain, with the
headers of a codec in front of each payload. -/
def fragmentLoop (net : Network) (sendPacket : Sender → Network → List UInt8 → Sender × Bool)
    (codec : Codec) (maxPayloadSize : ℕ) [NeZero maxPayloadSize]
    (fuHeader : Bool → Bool → List UInt8) (timestamp : UInt32) (marker : Bool) (s : Sender)
    (data : List UInt8) (fragmentsSent : ℕ) : Sender × ℤ :=
  if data.length = 0 then (s, fragmentsSent)
  else
    let isFirst := decide (fragmentsSent = 0)
    let isLast := decide (data.length ≤ maxPayloadSize)
    let payloadSize := if data.length > maxPayloadSize then maxPayloadSize else data.length
    let packet := rtpHeader s.client codec.payloadType timestamp (isLast && marker) ++
      (fuHeader isFirst isLast ++ data.take payloadSize)
    let r := sendPacket s.nextSeq net packet
    if r.2 then
      fragmentLoop net sendPacket codec maxPayloadSize fuHeader timestamp marker r.1
        (data.drop payloadSize) (fragmentsSent + 1)
    else (r.1, -1)
termination_by data.length
decreasing_by
  have := NeZero.ne maxPayloadSize
  rw [List.length_drop]
  grind

instance : NeZero maxPayloadH264 := ⟨by decide⟩
instance : NeZero maxPayloadH265 := ⟨by decide⟩

/-- The FU indicator and the FU header of H.264. -/
def fuHeaderH264 (nalHeader : UInt8) (isFirst isLast : Bool) : List UInt8 :=
  [(nalHeader &&& 0x60) ||| 28,
    (if isFirst then 0x80 else 0) ||| (if isLast then 0x40 else 0) ||| (nalHeader &&& 0x1F)]

/-- `send_h264_fragmented_rtp`. -/
def sendH264FragmentedRtp (net : Network) (s : Sender) (data : List UInt8) (timestamp : UInt32)
    (marker : Bool) : Sender × ℤ :=
  if data.length > 300 * 1024 then (s, -1)
  else match skipStartCode data with
    | [] => (s, 0)
    | nalHeader :: nalData =>
      if (nalHeader :: nalData).length ≤ maxPayloadH264 then
        let packet := rtpHeader s.client Codec.h264.payloadType timestamp marker ++
          nalHeader :: nalData
        let r := s.nextSeq.sendH264 net packet
        (r.1, if r.2 then packet.length else -1)
      else
        fragmentLoop net Sender.sendH264 .h264 maxPayloadH264 (fuHeaderH264 nalHeader) timestamp
          marker s nalData 0

/-- The payload header and the FU header of H.265. -/
def fuHeaderH265 (b₀ b₁ : UInt8) (isFirst isLast : Bool) : List UInt8 :=
  let nalHeader := getBe16 b₀ b₁
  let nalType := (nalHeader >>> 9) &&& 0x3F
  let nuhLayerId := (nalHeader >>> 3) &&& 0x3F
  let nuhTemporalId := nalHeader &&& 0x07
  let payloadHdr := ((49 : UInt32) <<< 9) ||| (nuhLayerId <<< 3) ||| nuhTemporalId
  putBe16 payloadHdr ++
    [nalType.toUInt8 ||| (if isFirst then 0x80 else 0) ||| (if isLast then 0x40 else 0)]

/-- `send_h265_fragmented_rtp`. -/
def sendH265FragmentedRtp (net : Network) (s : Sender) (data : List UInt8) (timestamp : UInt32)
    (marker : Bool) : Sender × ℤ :=
  let nalUnitData := skipStartCode data
  if nalUnitData.length ≤ maxPayloadH265 then
    let packet := rtpHeader s.client Codec.h265.payloadType timestamp marker ++ nalUnitData
    let r := s.nextSeq.sendH265 net packet
    (r.1, if r.2 then packet.length else -1)
  else match nalUnitData with
    | b₀ :: b₁ :: nalData =>
      fragmentLoop net Sender.sendH265 .h265 maxPayloadH265 (fuHeaderH265 b₀ b₁) timestamp marker s
        nalData 0
    | _ => (s, 0)

/-! ### `send_rtp_packet` -/

/-- The words that a packet on the RTSP connection must not begin with. -/
def looksLikeText (packet : List UInt8) : Bool :=
  ["RTSP", "GET ", "POST", "OPTI"].any fun word => (ascii word).isPrefixOf packet

/-- The sending part of `send_rtp_packet`. -/
def Sender.sendSingle (s : Sender) (net : Network) (packet : List UInt8) : Sender × ℤ :=
  match s.client.transportMode with
  | .udp =>
    if s.client.rtpSocketFd < 0 then (s, -1)
    else
      let r := s.sendDatagram net packet
      (r.1, if r.2 then packet.length else -1)
  | .tcp =>
    if looksLikeText packet then (s, 0)
    else
      let r := s.sendInterleaved net packet
      (r.1, if r.2 then packet.length else -1)

/-- `send_rtp_packet`. The sequence number is counted before the checks of the
data. -/
def sendRtpPacket (net : Network) (s : Sender) (data : List UInt8) (timestamp : UInt32)
    (marker : Bool) : Sender × ℤ :=
  if s.client.state ≠ .playing then (s, 0)
  else if data.length > maxRtpPacketSize - rtpHeaderSize - 4 then
    match s.client.codec with
    | .h264 => sendH264FragmentedRtp net s data timestamp marker
    | .h265 => sendH265FragmentedRtp net s data timestamp marker
  else
    let header := rtpHeader s.client s.client.codec.payloadType timestamp marker
    match s.client.codec with
    | .h265 =>
      let nalData := skipStartCode data
      if nalData.length ≥ 2 then s.nextSeq.sendSingle net (header ++ nalData)
      else (s.nextSeq, 0)
    | .h264 => s.nextSeq.sendSingle net (header ++ data)

end Rtsp
