import Strero.Lib.FragmentationUnits
import Strero.Rtsp.RtpSender

/-!
# The packets that a client receives

When every call succeeds, the sender puts on the wire the packets of the payloads
into which the NAL unit is cut, numbered from the client's sequence number on.
A receiver of the payload format makes the NAL unit of them again.
-/

namespace Rtsp

open CString Wire Rtp

/-- Every call takes all bytes that it is offered. -/
def Network.Succeeds (net : Network) : Prop := ∀ n bytes, net n bytes = bytes.length

/-- The datagrams among the calls. -/
def datagrams (calls : List Call) : List (List UInt8) :=
  calls.filterMap fun
    | .sendto _ _ packet => some packet
    | _ => none

/-- The bytes written to the RTSP connection. -/
def connectionBytes (calls : List Call) : List UInt8 :=
  calls.flatMap fun
    | .sendto _ _ _ => []
    | .tlsWrite bytes => bytes
    | .send _ bytes => bytes

/-- The packets that reach the client, or none when they cannot be read. -/
def Client.received (client : Client) (calls : List Call) : Option (List Packet) :=
  match client.transportMode with
  | .udp => (datagrams calls).mapM Packet.decode
  | .tcp => (deframe (connectionBytes calls)).bind fun frames =>
      (frames.map Prod.snd).mapM Packet.decode

/-- The calls carry the packets, as datagrams or as frames of the connection. -/
def Client.Carries (client : Client) (calls : List Call) (packets : List (List UInt8)) : Prop :=
  match client.transportMode with
  | .udp => datagrams calls = packets
  | .tcp => connectionBytes calls = packets.flatMap (frame (UInt8.ofInt client.rtpPort))

theorem Client.carries_nil (client : Client) : client.Carries [] [] := by
  unfold Client.Carries
  cases client.transportMode <;> rfl

theorem Client.Carries.append {client : Client} {calls₁ calls₂ : List Call}
    {packets₁ packets₂ : List (List UInt8)} (h₁ : client.Carries calls₁ packets₁)
    (h₂ : client.Carries calls₂ packets₂) :
    client.Carries (calls₁ ++ calls₂) (packets₁ ++ packets₂) := by
  unfold Client.Carries at h₁ h₂ ⊢
  cases htransport : client.transportMode with
  | udp =>
    simp only [htransport, datagrams, List.filterMap_append] at h₁ h₂ ⊢
    rw [h₁, h₂]
  | tcp =>
    simp only [htransport, connectionBytes, List.flatMap_append] at h₁ h₂ ⊢
    rw [h₁, h₂]

/-- Short packets that are carried are received. -/
theorem Client.Carries.received {client : Client} {calls : List Call} {packets : List Packet}
    (h : client.Carries calls (packets.map Packet.encode))
    (htype : ∀ p ∈ packets, p.payloadType < 128)
    (hlength : ∀ p ∈ packets, p.encode.length < 2 ^ 16) :
    client.received calls = some packets := by
  unfold Client.Carries at h
  unfold Client.received
  cases htransport : client.transportMode with
  | udp =>
    simp only [htransport] at h ⊢
    rw [h, Packet.mapM_decode_encode htype]
  | tcp =>
    simp only [htransport] at h ⊢
    have hframes : deframe (connectionBytes calls) =
        some ((packets.map Packet.encode).map (UInt8.ofInt client.rtpPort, ·)) := by
      rw [h]
      refine deframe_frames _ fun bytes hbytes => ?_
      obtain ⟨p, hp, rfl⟩ := List.mem_map.mp hbytes
      exact hlength p hp
    rw [hframes, Option.bind_some, List.map_map]
    simpa using Packet.mapM_decode_encode htype

/-! ### Single packets -/

/-- The common parts of the packets that are sent to a client. -/
def Client.stream (client : Client) (codec : Codec) (timestamp : UInt32) : Stream :=
  ⟨codec.payloadType, timestamp, client.rtpSsrc⟩

/-- From `s` to `s'`, the sender has put packets on the wire, and it has counted
them. -/
structure Sender.Emits (s s' : Sender) (packets : List Packet) : Prop where
  client : s'.client = { s.client with rtpSeq := s.client.rtpSeq + UInt16.ofNat packets.length }
  calls : ∃ calls, s'.calls = s.calls ++ calls ∧
    s.client.Carries calls (packets.map Packet.encode)

theorem Sender.emits_nil (s : Sender) : s.Emits s [] :=
  ⟨by simp, [], by simp, s.client.carries_nil⟩

theorem Sender.Emits.trans {s₁ s₂ s₃ : Sender} {packets₁ packets₂ : List Packet}
    (h₁ : s₁.Emits s₂ packets₁) (h₂ : s₂.Emits s₃ packets₂) :
    s₁.Emits s₃ (packets₁ ++ packets₂) := by
  obtain ⟨hclient₁, calls₁, hcalls₁, hcarries₁⟩ := h₁
  obtain ⟨hclient₂, calls₂, hcalls₂, hcarries₂⟩ := h₂
  refine ⟨?_, calls₁ ++ calls₂, by rw [hcalls₂, hcalls₁, List.append_assoc], ?_⟩
  · rw [hclient₂, hclient₁, List.length_append, UInt16.ofNat_add, ← UInt16.add_assoc]
  · rw [List.map_append]
    refine hcarries₁.append ?_
    rw [hclient₁] at hcarries₂
    exact hcarries₂

/-- The header and a payload are the packet with the client's next number. -/
theorem rtpHeader_append (client : Client) (codec : Codec) (timestamp : UInt32) (marker : Bool)
    (payload : List UInt8) :
    rtpHeader client codec.payloadType timestamp marker ++ payload =
      (Packet.mk marker codec.payloadType client.rtpSeq timestamp client.rtpSsrc
        payload).encode := by
  cases marker <;> simp [rtpHeader, Packet.encode]

section Sending

variable {net : Network} (hnet : net.Succeeds)
include hnet

/-- A datagram is carried. -/
theorem Sender.sendDatagram_emits {s : Sender} (htransport : s.client.transportMode = .udp)
    {p : Packet} :
    s.Emits (s.nextSeq.sendDatagram net p.encode).1 [p] ∧
      (s.nextSeq.sendDatagram net p.encode).2 = true := by
  refine ⟨⟨rfl, [_], rfl, ?_⟩, ?_⟩
  · rw [Client.Carries, htransport]
    rfl
  · simp [Sender.sendDatagram, Sender.call, hnet _ _]

/-- A packet in one write to the connection is carried. -/
theorem Sender.sendInterleaved_emits {s : Sender} (htransport : s.client.transportMode = .tcp)
    {p : Packet} :
    s.Emits (s.nextSeq.sendInterleaved net p.encode).1 [p] ∧
      (s.nextSeq.sendInterleaved net p.encode).2 = true := by
  refine ⟨⟨rfl, [_], rfl, ?_⟩, ?_⟩
  · rw [Client.Carries, htransport]
    simp [connectionBytes, interleavedHeader, frame, Sender.nextSeq]
  · simp [Sender.sendInterleaved, Sender.call, hnet _ _, Call.bytes]

/-- A packet in two writes to the connection is carried. -/
theorem Sender.sendInterleavedTwice_emits {s : Sender} (htransport : s.client.transportMode = .tcp)
    {p : Packet} :
    s.Emits (s.nextSeq.sendInterleavedTwice net p.encode).1 [p] ∧
      (s.nextSeq.sendInterleavedTwice net p.encode).2 = true := by
  have hheader : ¬((interleavedHeader s.nextSeq.client p.encode.length).length : ℤ) < 4 := by
    simp [interleavedHeader]
  have hcalls : s.nextSeq.sendInterleavedTwice net p.encode =
      (⟨s.nextSeq.client, s.calls ++
          [.send s.client.socketFd (interleavedHeader s.client p.encode.length),
            .send s.client.socketFd p.encode]⟩, true) := by
    rw [Sender.sendInterleavedTwice]
    simp only [Sender.call, hnet _ _, Call.bytes, if_neg hheader]
    simp [Sender.nextSeq, interleavedHeader]
  rw [hcalls]
  refine ⟨⟨rfl, _, rfl, ?_⟩, rfl⟩
  rw [Client.Carries, htransport]
  simp [connectionBytes, interleavedHeader, frame]

theorem Sender.sendH264_emits (s : Sender) (p : Packet) :
    s.Emits (s.nextSeq.sendH264 net p.encode).1 [p] ∧
      (s.nextSeq.sendH264 net p.encode).2 = true := by
  unfold Sender.sendH264
  cases htransport : s.nextSeq.client.transportMode with
  | udp => exact s.sendDatagram_emits hnet htransport
  | tcp => exact s.sendInterleaved_emits hnet htransport

theorem Sender.sendH265_emits (s : Sender) (p : Packet) :
    s.Emits (s.nextSeq.sendH265 net p.encode).1 [p] ∧
      (s.nextSeq.sendH265 net p.encode).2 = true := by
  unfold Sender.sendH265
  cases htransport : s.nextSeq.client.transportMode with
  | udp => exact s.sendDatagram_emits hnet htransport
  | tcp => exact s.sendInterleavedTwice_emits hnet htransport

end Sending

/-! ### Fragments -/

/-- The payload of a fragment. -/
def fuPayload (fuHeader : Bool → Bool → List UInt8) (p : Piece) : List UInt8 :=
  fuHeader p.start p.stop ++ p.data

/-- The loop sends the pieces that remain. -/
theorem fragmentLoop_emits {net : Network}
    {sendPacket : Sender → Network → List UInt8 → Sender × Bool}
    (hsend : ∀ (s : Sender) (p : Packet), s.Emits (sendPacket s.nextSeq net p.encode).1 [p] ∧
      (sendPacket s.nextSeq net p.encode).2 = true)
    (codec : Codec) (maxPayloadSize : ℕ) [NeZero maxPayloadSize]
    (fuHeader : Bool → Bool → List UInt8) (timestamp : UInt32) (marker : Bool) (s : Sender)
    {data : List UInt8} (hdata : data ≠ []) (fragmentsSent : ℕ) :
    s.Emits
      (fragmentLoop net sendPacket codec maxPayloadSize fuHeader timestamp marker s data
        fragmentsSent).1
      (packetize (s.client.stream codec timestamp) marker s.client.rtpSeq
        ((pieces maxPayloadSize (decide (fragmentsSent = 0)) data).map (fuPayload fuHeader))) := by
  induction hlength : data.length using Nat.strong_induction_on
    generalizing s data fragmentsSent with
  | _ n ih =>
    have hne : ¬data.length = 0 := fun h => hdata (List.length_eq_zero_iff.mp h)
    rw [fragmentLoop, if_neg hne, pieces]
    by_cases hfits : data.length ≤ maxPayloadSize
    · -- the last fragment
      obtain ⟨hemits, hok⟩ := hsend s
        ⟨marker, codec.payloadType, s.client.rtpSeq, timestamp, s.client.rtpSsrc,
          fuHeader (decide (fragmentsSent = 0)) true ++ data⟩
      simp only [hfits, decide_true, Bool.true_and, rtpHeader_append, Nat.not_lt.mpr hfits,
        if_false, if_true, List.take_length, List.drop_length, hok]
      rw [fragmentLoop, if_pos List.length_nil]
      exact hemits
    · -- a fragment that others follow
      obtain ⟨hemits, hok⟩ := hsend s
        ⟨false, codec.payloadType, s.client.rtpSeq, timestamp, s.client.rtpSsrc,
          fuHeader (decide (fragmentsSent = 0)) false ++ data.take maxPayloadSize⟩
      have hlong : data.length > maxPayloadSize := Nat.lt_of_not_le hfits
      simp only [hfits, decide_false, Bool.false_and, rtpHeader_append, hlong, if_true, if_false,
        hok]
      have hmax : 0 < maxPayloadSize := Nat.pos_of_neZero maxPayloadSize
      have hdrop : (data.drop maxPayloadSize).length < n := by
        rw [List.length_drop]
        omega
      have hrest := ih _ hdrop
        (sendPacket s.nextSeq net (Packet.encode ⟨false, codec.payloadType, s.client.rtpSeq,
          timestamp, s.client.rtpSsrc,
          fuHeader (decide (fragmentsSent = 0)) false ++ data.take maxPayloadSize⟩)).1
        (List.ne_nil_of_length_pos (by rw [List.length_drop]; omega)) (fragmentsSent + 1) rfl
      rw [List.map_cons, packetize_cons _ _ (by simpa using pieces_ne_nil _ _)]
      have htrans := hemits.trans hrest
      rw [hemits.client] at htrans
      exact htrans

/-! ### NAL units -/

/-- The payloads that carry a NAL unit of H.264. -/
def h264Payloads (nal : List UInt8) : List (List UInt8) :=
  if nal.length ≤ maxPayloadH264 then [nal]
  else match nal with
    | [] => []
    | nalHeader :: data =>
      (pieces maxPayloadH264 true data).map (fuPayload (fuHeaderH264 nalHeader))

/-- The payloads that carry a NAL unit of H.265. -/
def h265Payloads (nal : List UInt8) : List (List UInt8) :=
  if nal.length ≤ maxPayloadH265 then [nal]
  else match nal with
    | b₀ :: b₁ :: data => (pieces maxPayloadH265 true data).map (fuPayload (fuHeaderH265 b₀ b₁))
    | _ => []

theorem h264Payloads_of_le {nal : List UInt8} (hfits : nal.length ≤ maxPayloadH264) :
    h264Payloads nal = [nal] := if_pos hfits

theorem h264Payloads_cons {nalHeader : UInt8} {data : List UInt8}
    (hlong : ¬(nalHeader :: data).length ≤ maxPayloadH264) :
    h264Payloads (nalHeader :: data) =
      (pieces maxPayloadH264 true data).map (fuPayload (fuHeaderH264 nalHeader)) := if_neg hlong

theorem h265Payloads_of_le {nal : List UInt8} (hfits : nal.length ≤ maxPayloadH265) :
    h265Payloads nal = [nal] := if_pos hfits

theorem h265Payloads_cons {b₀ b₁ : UInt8} {data : List UInt8}
    (hlong : ¬(b₀ :: b₁ :: data).length ≤ maxPayloadH265) :
    h265Payloads (b₀ :: b₁ :: data) =
      (pieces maxPayloadH265 true data).map (fuPayload (fuHeaderH265 b₀ b₁)) := if_neg hlong

/-- The payloads of the packets that `send_rtp_packet` sends for some data. -/
def Codec.sentPayloads (codec : Codec) (data : List UInt8) : List (List UInt8) :=
  match codec with
  | .h264 =>
    if data.length ≤ maxRtpPacketSize - rtpHeaderSize - 4 then [data]
    else if data.length > 300 * 1024 then []
    else h264Payloads (skipStartCode data)
  | .h265 => h265Payloads (skipStartCode data)

/-- `send_rtp_packet` does not turn the data away: a NAL unit of H.265 needs its
two header bytes, and a UDP client its socket. -/
structure Client.CanSend (client : Client) (data : List UInt8) : Prop where
  playing : client.state = .playing
  socket : client.transportMode = .udp → 0 ≤ client.rtpSocketFd
  header : client.codec = .h265 → 2 ≤ (skipStartCode data).length

section Sending

variable {net : Network} (hnet : net.Succeeds)
include hnet

theorem Sender.sendSingle_emits {s : Sender}
    (hsocket : s.client.transportMode = .udp → 0 ≤ s.client.rtpSocketFd) (p : Packet) :
    s.Emits (s.nextSeq.sendSingle net p.encode).1 [p] := by
  unfold Sender.sendSingle
  cases htransport : s.nextSeq.client.transportMode with
  | udp =>
    have hfd : ¬s.nextSeq.client.rtpSocketFd < 0 := not_lt.mpr (hsocket htransport)
    simp only [if_neg hfd]
    exact (s.sendDatagram_emits hnet htransport).1
  | tcp =>
    have htext : looksLikeText p.encode = false := by
      simp [looksLikeText, Packet.encode, ascii, List.isPrefixOf]
    simp only [htext]
    exact (s.sendInterleaved_emits hnet htransport).1

theorem sendH264FragmentedRtp_emits (s : Sender) {data : List UInt8} (timestamp : UInt32)
    (marker : Bool) (hlength : data.length ≤ 300 * 1024) (hne : skipStartCode data ≠ []) :
    s.Emits (sendH264FragmentedRtp net s data timestamp marker).1
      (packetize (s.client.stream .h264 timestamp) marker s.client.rtpSeq
        (h264Payloads (skipStartCode data))) := by
  rw [sendH264FragmentedRtp, if_neg (by omega)]
  cases hnal : skipStartCode data with
  | nil => exact absurd hnal hne
  | cons nalHeader nalData =>
    by_cases hfits : (nalHeader :: nalData).length ≤ maxPayloadH264
    · rw [h264Payloads_of_le hfits]
      dsimp only
      rw [if_pos hfits, rtpHeader_append]
      exact (s.sendH264_emits hnet _).1
    · have hdata : nalData ≠ [] := by
        rintro rfl
        exact hfits (by simp [maxPayloadH264, maxRtpPacketSize, rtpHeaderSize])
      rw [h264Payloads_cons hfits]
      dsimp only
      rw [if_neg hfits]
      exact fragmentLoop_emits (fun s p => s.sendH264_emits hnet p) .h264 maxPayloadH264 _
        timestamp marker s hdata 0

theorem sendH265FragmentedRtp_emits (s : Sender) {data : List UInt8} (timestamp : UInt32)
    (marker : Bool) :
    s.Emits (sendH265FragmentedRtp net s data timestamp marker).1
      (packetize (s.client.stream .h265 timestamp) marker s.client.rtpSeq
        (h265Payloads (skipStartCode data))) := by
  unfold sendH265FragmentedRtp
  by_cases hfits : (skipStartCode data).length ≤ maxPayloadH265
  · rw [h265Payloads_of_le hfits]
    dsimp only
    rw [if_pos hfits, rtpHeader_append]
    exact (s.sendH265_emits hnet _).1
  · have hlong : maxPayloadH265 < (skipStartCode data).length := Nat.lt_of_not_le hfits
    obtain ⟨b₀, b₁, b₂, nalData, hnal⟩ :
        ∃ b₀ b₁ b₂ nalData, skipStartCode data = b₀ :: b₁ :: b₂ :: nalData := by
      match skipStartCode data, hlong with
      | b₀ :: b₁ :: b₂ :: nalData, _ => exact ⟨b₀, b₁, b₂, nalData, rfl⟩
    rw [hnal] at hfits ⊢
    rw [h265Payloads_cons hfits]
    dsimp only
    rw [if_neg hfits]
    exact fragmentLoop_emits (fun s p => s.sendH265_emits hnet p) .h265 maxPayloadH265 _
      timestamp marker s (List.cons_ne_nil b₂ nalData) 0

/-- A packet that the client can be sent is sent in the packets of its payloads. -/
theorem sendRtpPacket_emits (s : Sender) {data : List UInt8} (timestamp : UInt32) (marker : Bool)
    (hsend : s.client.CanSend data) :
    s.Emits (sendRtpPacket net s data timestamp marker).1
      (packetize (s.client.stream s.client.codec timestamp) marker s.client.rtpSeq
        (s.client.codec.sentPayloads data)) := by
  have hplaying : ¬s.client.state ≠ .playing := not_not.mpr hsend.playing
  have hskip := skipStartCode_length data
  rw [sendRtpPacket, if_neg hplaying]
  by_cases hshort : data.length ≤ maxRtpPacketSize - rtpHeaderSize - 4
  · rw [if_neg (Nat.not_lt.mpr hshort)]
    cases hcodec : s.client.codec with
    | h264 =>
      simp only [Codec.sentPayloads, if_pos hshort, rtpHeader_append]
      exact Sender.sendSingle_emits hnet hsend.socket _
    | h265 =>
      have hfits : (skipStartCode data).length ≤ maxPayloadH265 :=
        hskip.1.trans (hshort.trans (by decide))
      simp only [Codec.sentPayloads, h265Payloads_of_le hfits, rtpHeader_append]
      rw [if_pos (hsend.header hcodec)]
      exact Sender.sendSingle_emits hnet hsend.socket _
  · rw [if_pos (Nat.lt_of_not_le hshort)]
    cases hcodec : s.client.codec with
    | h264 =>
      simp only [Codec.sentPayloads, if_neg hshort]
      by_cases hlarge : data.length > 300 * 1024
      · rw [if_pos hlarge, sendH264FragmentedRtp, if_pos hlarge]
        exact s.emits_nil
      · rw [if_neg hlarge]
        refine sendH264FragmentedRtp_emits hnet s timestamp marker (Nat.le_of_not_lt hlarge) ?_
        refine List.ne_nil_of_length_pos ?_
        simp only [maxRtpPacketSize, rtpHeaderSize] at hshort
        omega
    | h265 => exact sendH265FragmentedRtp_emits hnet s timestamp marker

end Sending

end Rtsp
