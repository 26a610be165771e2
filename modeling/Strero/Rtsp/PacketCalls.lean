import Strero.Rtsp.FrameSender

/-!
# The calls that write packets

Whatever the network does, a function that sends a NAL unit makes calls of four kinds, each for
a packet with the timestamp that it was given. What is true of these calls is true of all calls
for the unit.
-/

namespace Rtsp

/-- A packet with the timestamp in its header. -/
def IsRtpPacket (timestamp : UInt32) (packet : List UInt8) : Prop :=
  ∃ client payloadType marker payload,
    packet = rtpHeader client payloadType timestamp marker ++ payload

/-- What is known of a client while packets are sent to it, and what is then known of the calls
for them. -/
structure CallRule (timestamp : UInt32) (Inv : Client → Prop) (P : Call → Prop) : Prop where
  rtpSeq : ∀ {client} rtpSeq, Inv client → Inv { client with rtpSeq := rtpSeq }
  datagram : ∀ {client packet}, Inv client → client.transportMode = .udp →
    IsRtpPacket timestamp packet → P (.sendto client.rtpSocketFd client.rtpAddress packet)
  interleaved : ∀ {client packet}, Inv client → client.transportMode = .tcp →
    IsRtpPacket timestamp packet →
    P (.tlsWrite (interleavedHeader client packet.length ++ packet))
  header : ∀ {client packet}, Inv client → client.transportMode = .tcp →
    IsRtpPacket timestamp packet →
    P (.send client.socketFd (interleavedHeader client packet.length))
  packet : ∀ {client packet}, Inv client → client.transportMode = .tcp →
    IsRtpPacket timestamp packet → P (.send client.socketFd packet)

/-- From `s` to `s'` only calls of this kind have been made. -/
def Sender.Makes (Inv : Client → Prop) (P : Call → Prop) (s s' : Sender) : Prop :=
  Inv s'.client ∧ ∃ calls, s'.calls = s.calls ++ calls ∧ ∀ call ∈ calls, P call

variable {timestamp : UInt32} {Inv : Client → Prop} {P : Call → Prop} {s : Sender}

theorem Sender.Makes.refl (h : Inv s.client) : s.Makes Inv P s :=
  ⟨h, [], (List.append_nil _).symm, fun _ hmem => by cases hmem⟩

theorem Sender.Makes.trans {s₁ s₂ s₃ : Sender} (h₁ : s₁.Makes Inv P s₂)
    (h₂ : s₂.Makes Inv P s₃) : s₁.Makes Inv P s₃ := by
  obtain ⟨-, calls₁, hcalls₁, hkind₁⟩ := h₁
  obtain ⟨hinv, calls₂, hcalls₂, hkind₂⟩ := h₂
  exact ⟨hinv, calls₁ ++ calls₂, by rw [hcalls₂, hcalls₁, List.append_assoc],
    List.forall_mem_append.mpr ⟨hkind₁, hkind₂⟩⟩

theorem Sender.makes_call (net : Network) {c : Call} (h : Inv s.client) (hc : P c) :
    s.Makes Inv P (s.call net c).1 :=
  ⟨h, [c], rfl, List.forall_mem_singleton.mpr hc⟩

namespace CallRule

variable (hrule : CallRule timestamp Inv P) (net : Network) (h : Inv s.client)
include hrule h

/-- The number of the next packet is counted. -/
theorem nextSeq : s.Makes Inv P s.nextSeq :=
  ⟨hrule.rtpSeq _ h, [], (List.append_nil _).symm, fun _ hmem => by cases hmem⟩

section Packet

variable {packet : List UInt8} (hpacket : IsRtpPacket timestamp packet)
include hpacket

theorem sendDatagram (hmode : s.client.transportMode = .udp) :
    s.Makes Inv P (s.sendDatagram net packet).1 :=
  s.makes_call net h (hrule.datagram h hmode hpacket)

theorem sendInterleaved (hmode : s.client.transportMode = .tcp) :
    s.Makes Inv P (s.sendInterleaved net packet).1 :=
  s.makes_call net h (hrule.interleaved h hmode hpacket)

theorem sendInterleavedTwice (hmode : s.client.transportMode = .tcp) :
    s.Makes Inv P (s.sendInterleavedTwice net packet).1 := by
  have hheader := s.makes_call net h (hrule.header h hmode hpacket)
  unfold Sender.sendInterleavedTwice
  dsimp only
  split
  · exact hheader
  · exact hheader.trans (Sender.makes_call net h (hrule.packet h hmode hpacket))

theorem sendH264 : s.Makes Inv P (s.sendH264 net packet).1 := by
  unfold Sender.sendH264
  cases hmode : s.client.transportMode with
  | udp => exact hrule.sendDatagram net h hpacket hmode
  | tcp => exact hrule.sendInterleaved net h hpacket hmode

theorem sendH265 : s.Makes Inv P (s.sendH265 net packet).1 := by
  unfold Sender.sendH265
  cases hmode : s.client.transportMode with
  | udp => exact hrule.sendDatagram net h hpacket hmode
  | tcp => exact hrule.sendInterleavedTwice net h hpacket hmode

theorem sendSingle : s.Makes Inv P (s.sendSingle net packet).1 := by
  unfold Sender.sendSingle
  cases hmode : s.client.transportMode with
  | udp =>
    dsimp only
    split
    · exact .refl h
    · exact hrule.sendDatagram net h hpacket hmode
  | tcp =>
    dsimp only
    split
    · exact .refl h
    · exact hrule.sendInterleaved net h hpacket hmode

end Packet

/-- The loop over the fragments, by the bytes that remain. -/
theorem fragmentLoop {sendPacket : Sender → Network → List UInt8 → Sender × Bool}
    (hsend : ∀ {s : Sender} {packet}, Inv s.client → IsRtpPacket timestamp packet →
      s.Makes Inv P (sendPacket s net packet).1)
    (codec : Codec) (maxPayloadSize : ℕ) [NeZero maxPayloadSize]
    (fuHeader : Bool → Bool → List UInt8) (marker : Bool) (data : List UInt8)
    (fragmentsSent : ℕ) :
    s.Makes Inv P
      (Rtsp.fragmentLoop net sendPacket codec maxPayloadSize fuHeader timestamp marker s data
        fragmentsSent).1 := by
  fun_induction Rtsp.fragmentLoop net sendPacket codec maxPayloadSize fuHeader timestamp marker s
    data fragmentsSent with
  | case1 s data fragmentsSent hempty => exact .refl h
  | case2 s data fragmentsSent hmore isFirst isLast payloadSize packet r hsent ih =>
    have hcounted := hrule.nextSeq h
    have hpacket : IsRtpPacket timestamp packet := ⟨_, _, _, _, rfl⟩
    have hmade := hsend hcounted.1 hpacket
    exact (hcounted.trans hmade).trans (ih hmade.1)
  | case3 s data fragmentsSent hmore isFirst isLast payloadSize packet r hsent =>
    have hcounted := hrule.nextSeq h
    have hpacket : IsRtpPacket timestamp packet := ⟨_, _, _, _, rfl⟩
    exact hcounted.trans (hsend hcounted.1 hpacket)

/-- A NAL unit of H.264. -/
theorem sendH264FragmentedRtp (data : List UInt8) (marker : Bool) :
    s.Makes Inv P (Rtsp.sendH264FragmentedRtp net s data timestamp marker).1 := by
  unfold Rtsp.sendH264FragmentedRtp
  split
  · exact .refl h
  · split
    · exact .refl h
    · split
      · have hcounted := hrule.nextSeq h
        exact hcounted.trans (hrule.sendH264 net hcounted.1 ⟨_, _, _, _, rfl⟩)
      · exact hrule.fragmentLoop net h (fun h hpacket => hrule.sendH264 net h hpacket) _ _ _
          marker _ 0

/-- A NAL unit of H.265. -/
theorem sendH265FragmentedRtp (data : List UInt8) (marker : Bool) :
    s.Makes Inv P (Rtsp.sendH265FragmentedRtp net s data timestamp marker).1 := by
  unfold Rtsp.sendH265FragmentedRtp
  dsimp only
  split
  · have hcounted := hrule.nextSeq h
    exact hcounted.trans (hrule.sendH265 net hcounted.1 ⟨_, _, _, _, rfl⟩)
  · split
    · exact hrule.fragmentLoop net h (fun h hpacket => hrule.sendH265 net h hpacket) _ _ _
        marker _ 0
    · exact .refl h

/-- A NAL unit. -/
theorem sendRtpPacket (data : List UInt8) (marker : Bool) :
    s.Makes Inv P (Rtsp.sendRtpPacket net s data timestamp marker).1 := by
  have hcounted := hrule.nextSeq h
  have hsingle : ∀ payloadType payload, s.Makes Inv P (s.nextSeq.sendSingle net
      (rtpHeader s.client payloadType timestamp marker ++ payload)).1 :=
    fun _ _ => hcounted.trans (hrule.sendSingle net hcounted.1 ⟨_, _, _, _, rfl⟩)
  unfold Rtsp.sendRtpPacket
  split
  · exact .refl h
  · split
    · split
      · exact hrule.sendH264FragmentedRtp net h data marker
      · exact hrule.sendH265FragmentedRtp net h data marker
    · split
      · dsimp only
        split
        · exact hsingle _ _
        · exact hcounted
      · exact hsingle _ _

/-- The units of a frame. -/
theorem sendNals (frame : List UInt8) (nals : List NalRange) :
    s.Makes Inv P (Rtsp.sendNals net frame timestamp s nals) := by
  induction nals generalizing s with
  | nil => exact .refl h
  | cons nal nals ih =>
    rw [Rtsp.sendNals]
    split
    · have hsent := hrule.sendRtpPacket net h (nal.bytes frame) nals.isEmpty
      exact hsent.trans (ih hsent.1)
    · exact ih h

end CallRule

end Rtsp
