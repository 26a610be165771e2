import Strero.Rtsp.FrameSender

/-!
# A rule for the functions that send

Two senders that are related and read the same do the same, packet by packet. If the
relation is kept by the number of a packet and by the three ways to write one, then it is
kept by every function that sends, and the results are the same. With equality as a part
of the relation this is the rule for invariants of one sender.
-/

namespace Rtsp

/-- The fields that decide what is sent agree. -/
structure Client.SendsAlike (c d : Client) : Prop where
  state : c.state = d.state
  codec : c.codec = d.codec
  transportMode : c.transportMode = d.transportMode
  rtpSocketFd : c.rtpSocketFd = d.rtpSocketFd
  rtpSeq : c.rtpSeq = d.rtpSeq
  rtpSsrc : c.rtpSsrc = d.rtpSsrc

/-- The senders that two functions return are related, and their results are the same. -/
def Related (R : Sender → Sender → Prop) {α : Type*} (r r' : Sender × α) : Prop :=
  R r.1 r'.1 ∧ r.2 = r'.2

/-- A relation that is kept by the steps of which the functions that send consist. -/
structure SendRule (net : Network) (R : Sender → Sender → Prop) : Prop where
  alike : ∀ {s t}, R s t → s.client.SendsAlike t.client
  nextSeq : ∀ {s t}, R s t → R s.nextSeq t.nextSeq
  datagram : ∀ {s t} packet, R s t → packet.length ≤ maxRtpPacketSize →
    s.client.transportMode = .udp →
    Related R (s.sendDatagram net packet) (t.sendDatagram net packet)
  interleaved : ∀ {s t} packet, R s t → packet.length ≤ maxRtpPacketSize →
    s.client.transportMode = .tcp →
    Related R (s.sendInterleaved net packet) (t.sendInterleaved net packet)
  interleavedTwice : ∀ {s t} packet, R s t → packet.length ≤ maxRtpPacketSize →
    s.client.transportMode = .tcp →
    Related R (s.sendInterleavedTwice net packet) (t.sendInterleavedTwice net packet)

/-- So are the sizes that are returned if the packet was written. -/
theorem Related.size {R : Sender → Sender → Prop} {r r' : Sender × Bool} (h : Related R r r')
    (size : ℤ) : Related R (r.1, if r.2 then size else -1) (r'.1, if r'.2 then size else -1) := by
  rw [h.2]
  exact ⟨h.1, rfl⟩

/-- The header of a packet is the same. -/
theorem Client.SendsAlike.rtpHeader {c d : Client} (h : c.SendsAlike d) :
    Rtsp.rtpHeader c = Rtsp.rtpHeader d := by
  funext payloadType timestamp marker
  rw [Rtsp.rtpHeader, Rtsp.rtpHeader, h.rtpSeq, h.rtpSsrc]

namespace SendRule

variable {net : Network} {R : Sender → Sender → Prop} (hrule : SendRule net R) {s t : Sender}
include hrule

/-- A packet of the H.264 functions. -/
theorem sendH264 (h : R s t) {packet : List UInt8} (hsize : packet.length ≤ maxRtpPacketSize) :
    Related R (s.sendH264 net packet) (t.sendH264 net packet) := by
  have htransport := (hrule.alike h).transportMode
  unfold Sender.sendH264
  rw [← htransport]
  cases hmode : s.client.transportMode with
  | udp => exact hrule.datagram packet h hsize hmode
  | tcp => exact hrule.interleaved packet h hsize hmode

/-- A packet of the H.265 functions. -/
theorem sendH265 (h : R s t) {packet : List UInt8} (hsize : packet.length ≤ maxRtpPacketSize) :
    Related R (s.sendH265 net packet) (t.sendH265 net packet) := by
  have htransport := (hrule.alike h).transportMode
  unfold Sender.sendH265
  rw [← htransport]
  cases hmode : s.client.transportMode with
  | udp => exact hrule.datagram packet h hsize hmode
  | tcp => exact hrule.interleavedTwice packet h hsize hmode

/-- The loop over the fragments, by the bytes that remain. -/
theorem fragmentLoop {sendPacket : Sender → Network → List UInt8 → Sender × Bool}
    (hsend : ∀ {s t packet}, R s t → packet.length ≤ maxRtpPacketSize →
      Related R (sendPacket s net packet) (sendPacket t net packet))
    (codec : Codec) (maxPayloadSize : ℕ) [NeZero maxPayloadSize]
    {fuHeader : Bool → Bool → List UInt8}
    (hfits : ∀ isFirst isLast,
      rtpHeaderSize + (fuHeader isFirst isLast).length + maxPayloadSize ≤ maxRtpPacketSize)
    (timestamp : UInt32) (marker : Bool) (h : R s t)
    (data : List UInt8) (fragmentsSent : ℕ) :
    Related R
      (Rtsp.fragmentLoop net sendPacket codec maxPayloadSize fuHeader timestamp marker s data
        fragmentsSent)
      (Rtsp.fragmentLoop net sendPacket codec maxPayloadSize fuHeader timestamp marker t data
        fragmentsSent) := by
  induction hlength : data.length using Nat.strong_induction_on
    generalizing s t data fragmentsSent with
  | _ n ih =>
    rw [Rtsp.fragmentLoop]
    conv => arg 3; rw [Rtsp.fragmentLoop]
    by_cases hempty : data.length = 0
    · rw [if_pos hempty, if_pos hempty]
      exact ⟨h, rfl⟩
    · rw [if_neg hempty, if_neg hempty, (hrule.alike h).rtpHeader]
      dsimp only
      have hchunk : (if data.length > maxPayloadSize then maxPayloadSize else data.length) ≤
          maxPayloadSize := by
        split <;> omega
      have hsize : (Rtsp.rtpHeader t.client codec.payloadType timestamp
          (decide (data.length ≤ maxPayloadSize) && marker) ++
            (fuHeader (decide (fragmentsSent = 0)) (decide (data.length ≤ maxPayloadSize)) ++
              data.take (if data.length > maxPayloadSize then maxPayloadSize
                else data.length))).length ≤ maxRtpPacketSize := by
        have := hfits (decide (fragmentsSent = 0)) (decide (data.length ≤ maxPayloadSize))
        simp only [List.length_append, rtpHeader_length, List.length_take]
        omega
      generalize Rtsp.rtpHeader t.client codec.payloadType timestamp _ ++ _ = packet at hsize ⊢
      obtain ⟨hnext, hresult⟩ := hsend (hrule.nextSeq h) hsize
      rw [hresult]
      split
      · refine ih _ ?_ hnext _ _ rfl
        have := NeZero.pos maxPayloadSize
        rw [List.length_drop]
        split <;> omega
      · exact ⟨hnext, rfl⟩

/-- A NAL unit of H.264. -/
theorem sendH264FragmentedRtp (h : R s t) (data : List UInt8) (timestamp : UInt32)
    (marker : Bool) :
    Related R (Rtsp.sendH264FragmentedRtp net s data timestamp marker)
      (Rtsp.sendH264FragmentedRtp net t data timestamp marker) := by
  unfold Rtsp.sendH264FragmentedRtp
  split
  · exact ⟨h, rfl⟩
  · cases skipStartCode data with
    | nil => exact ⟨h, rfl⟩
    | cons nalHeader nalData =>
      dsimp only
      split
      · rw [(hrule.alike h).rtpHeader]
        refine (hrule.sendH264 (hrule.nextSeq h) ?_).size _
        rename_i hshort
        simp only [maxPayloadH264, maxRtpPacketSize, rtpHeaderSize] at hshort
        simp only [List.length_append, rtpHeader_length, maxRtpPacketSize, rtpHeaderSize]
        omega
      · exact hrule.fragmentLoop (fun h hsize => hrule.sendH264 h hsize) .h264 maxPayloadH264
          (fun _ _ => le_rfl) timestamp marker h nalData 0

/-- A NAL unit of H.265. -/
theorem sendH265FragmentedRtp (h : R s t) (data : List UInt8) (timestamp : UInt32)
    (marker : Bool) :
    Related R (Rtsp.sendH265FragmentedRtp net s data timestamp marker)
      (Rtsp.sendH265FragmentedRtp net t data timestamp marker) := by
  unfold Rtsp.sendH265FragmentedRtp
  dsimp only
  split
  · rw [(hrule.alike h).rtpHeader]
    refine (hrule.sendH265 (hrule.nextSeq h) ?_).size _
    rename_i hshort
    simp only [maxPayloadH265, maxRtpPacketSize, rtpHeaderSize] at hshort
    simp only [List.length_append, rtpHeader_length, maxRtpPacketSize, rtpHeaderSize]
    omega
  · split
    · exact hrule.fragmentLoop (fun h hsize => hrule.sendH265 h hsize) .h265 maxPayloadH265
        (fun _ _ => le_rfl) timestamp marker h _ 0
    · exact ⟨h, rfl⟩

/-- A packet that holds a whole NAL unit. -/
theorem sendSingle (h : R s t) {packet : List UInt8} (hsize : packet.length ≤ maxRtpPacketSize) :
    Related R (s.sendSingle net packet) (t.sendSingle net packet) := by
  have halike := hrule.alike h
  unfold Sender.sendSingle
  rw [← halike.transportMode, ← halike.rtpSocketFd]
  cases hmode : s.client.transportMode with
  | udp =>
    dsimp only
    split
    · exact ⟨h, rfl⟩
    · exact (hrule.datagram packet h hsize hmode).size _
  | tcp =>
    dsimp only
    split
    · exact ⟨h, rfl⟩
    · exact (hrule.interleaved packet h hsize hmode).size _

/-- A NAL unit. -/
theorem sendRtpPacket (h : R s t) (data : List UInt8) (timestamp : UInt32) (marker : Bool) :
    Related R (Rtsp.sendRtpPacket net s data timestamp marker)
      (Rtsp.sendRtpPacket net t data timestamp marker) := by
  have halike := hrule.alike h
  unfold Rtsp.sendRtpPacket
  rw [← halike.state, ← halike.codec, ← halike.rtpHeader]
  split_ifs
  · exact ⟨h, rfl⟩
  · cases s.client.codec with
    | h264 => exact hrule.sendH264FragmentedRtp h data timestamp marker
    | h265 => exact hrule.sendH265FragmentedRtp h data timestamp marker
  · rename_i hshort
    have hfits : ∀ payloadType nal, nal.length ≤ data.length →
        (Rtsp.rtpHeader s.client payloadType timestamp marker ++ nal).length ≤
          maxRtpPacketSize := by
      intro payloadType nal hnal
      simp only [maxRtpPacketSize, rtpHeaderSize] at hshort
      simp only [List.length_append, rtpHeader_length, maxRtpPacketSize, rtpHeaderSize]
      omega
    cases s.client.codec with
    | h264 => exact hrule.sendSingle (hrule.nextSeq h) (hfits _ _ le_rfl)
    | h265 =>
      dsimp only
      split_ifs
      · exact hrule.sendSingle (hrule.nextSeq h) (hfits _ _ (skipStartCode_length data).1)
      · exact ⟨hrule.nextSeq h, rfl⟩

/-- The units of a frame. -/
theorem sendNals (frame : List UInt8) (timestamp : UInt32) (h : R s t) (nals : List NalRange) :
    R (Rtsp.sendNals net frame timestamp s nals) (Rtsp.sendNals net frame timestamp t nals) := by
  induction nals generalizing s t with
  | nil => exact h
  | cons nal nals ih =>
    apply ih
    split_ifs
    · exact (hrule.sendRtpPacket h _ timestamp _).1
    · exact h

/-- A frame. -/
theorem sendFrameToClient (clock : RtpClock) (h : R s t) (frame : List UInt8) (channel : Fin 4)
    (currentTime : UInt64) (random : UInt32) :
    Option.Rel (fun r r' => r.1 = r'.1 ∧ Related R r.2 r'.2)
      (Rtsp.sendFrameToClient net clock s frame channel currentTime random)
      (Rtsp.sendFrameToClient net clock t frame channel currentTime random) := by
  unfold Rtsp.sendFrameToClient
  rw [← (hrule.alike h).state]
  split_ifs
  · exact .some ⟨rfl, h, rfl⟩
  · exact .some ⟨rfl, h, rfl⟩
  · exact .none
  · cases findNals frame 0 [] with
    | none => exact .none
    | some nals => exact .some ⟨rfl, hrule.sendNals frame _ h nals, rfl⟩

end SendRule

/-! ### Invariants of a sender -/

/-- The rule for an invariant of one sender. -/
theorem SendRule.of_invariant {net : Network} {Inv : Sender → Prop}
    (hnextSeq : ∀ {s}, Inv s → Inv s.nextSeq)
    (hdatagram : ∀ {s} packet, Inv s → packet.length ≤ maxRtpPacketSize →
      s.client.transportMode = .udp → Inv (s.sendDatagram net packet).1)
    (hinterleaved : ∀ {s} packet, Inv s → packet.length ≤ maxRtpPacketSize →
      s.client.transportMode = .tcp → Inv (s.sendInterleaved net packet).1)
    (hinterleavedTwice : ∀ {s} packet, Inv s → packet.length ≤ maxRtpPacketSize →
      s.client.transportMode = .tcp → Inv (s.sendInterleavedTwice net packet).1) :
    SendRule net fun s t => s = t ∧ Inv s where
  alike := by
    rintro s _ ⟨rfl, -⟩
    exact ⟨rfl, rfl, rfl, rfl, rfl, rfl⟩
  nextSeq := by
    rintro s _ ⟨rfl, h⟩
    exact ⟨rfl, hnextSeq h⟩
  datagram := by
    rintro s _ packet ⟨rfl, h⟩ hsize hmode
    exact ⟨⟨rfl, hdatagram packet h hsize hmode⟩, rfl⟩
  interleaved := by
    rintro s _ packet ⟨rfl, h⟩ hsize hmode
    exact ⟨⟨rfl, hinterleaved packet h hsize hmode⟩, rfl⟩
  interleavedTwice := by
    rintro s _ packet ⟨rfl, h⟩ hsize hmode
    exact ⟨⟨rfl, hinterleavedTwice packet h hsize hmode⟩, rfl⟩

section Frames

variable {net : Network} {clock clock' : RtpClock} {s s' : Sender} {n : ℕ} {frame : List UInt8}
  {channel : Fin 4} {currentTime : UInt64} {random : UInt32}

/-- An invariant of a sender holds after a frame. -/
theorem SendRule.invariant {Inv : Sender → Prop} (hrule : SendRule net fun s t => s = t ∧ Inv s)
    (hinv : Inv s)
    (h : Rtsp.sendFrameToClient net clock s frame channel currentTime random =
      some (clock', s', n)) : Inv s' := by
  have hsent := hrule.sendFrameToClient clock (s := s) ⟨rfl, hinv⟩ frame channel currentTime random
  rw [h] at hsent
  cases hsent with
  | some hrelated => exact hrelated.2.1.2

/-- Sending a frame changes no field of the slot but the number of the next packet. -/
theorem sendFrameToClient_client
    (h : Rtsp.sendFrameToClient net clock s frame channel currentTime random =
      some (clock', s', n)) :
    ∃ rtpSeq, s'.client = { s.client with rtpSeq := rtpSeq } := by
  have hrule : SendRule net fun t t' =>
      t = t' ∧ ∃ rtpSeq, t.client = { s.client with rtpSeq := rtpSeq } := by
    apply SendRule.of_invariant
    · rintro t ⟨rtpSeq, ht⟩
      exact ⟨t.client.rtpSeq + 1, by rw [Sender.nextSeq, ht]⟩
    · exact fun _ ht _ _ => ht
    · exact fun _ ht _ _ => ht
    · intro t packet ht _ _
      unfold Sender.sendInterleavedTwice
      dsimp only
      split <;> exact ht
  exact hrule.invariant ⟨s.client.rtpSeq, rfl⟩ h

end Frames

end Rtsp
