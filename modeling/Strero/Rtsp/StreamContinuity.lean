import Strero.Rtsp.FrameSender
import Strero.Rtsp.PayloadRoundTrip

/-!
# Continuity of a stream

Between two requests a client gets the frames of its channel one after the other.
Unless a unit is dropped after its number was taken, or the last unit of a frame
is dropped, the packets are numbered without gap and each frame ends with the one
packet that has the marker.
-/

namespace Rtsp

open Wire Rtp

/-! ### The units that are found -/

theorem setLastSize_offset (nals : List NalRange) (stop : ℕ) :
    (setLastSize nals stop).map (·.offset) = nals.map (·.offset) := by
  unfold setLastSize
  cases h : nals.getLast? with
  | none => simp [List.getLast?_eq_none_iff.mp h]
  | some nal =>
    obtain ⟨front, rfl⟩ := List.getLast?_eq_some_iff.mp h
    simp

/-- The last unit found ends where it was said to end. -/
theorem size_of_mem_setLastSize {nals : List NalRange} {stop : ℕ} {nal : NalRange}
    (hnal : nal ∈ (setLastSize nals stop).getLast?) : nal.size = stop - nal.offset := by
  unfold setLastSize at hnal
  cases h : nals.getLast? with
  | none => simp [h] at hnal
  | some last =>
    simp only [h, List.getLast?_concat, Option.mem_def, Option.some.injEq] at hnal
    rw [← hnal]

theorem offset_lt_of_mem_setLastSize {nals : List NalRange} {stop limit : ℕ}
    (hnals : ∀ nal ∈ nals, nal.offset < limit) :
    ∀ nal ∈ setLastSize nals stop, nal.offset < limit := by
  intro nal hnal
  have hmem : nal.offset ∈ (setLastSize nals stop).map (·.offset) := List.mem_map_of_mem hnal
  rw [setLastSize_offset] at hmem
  obtain ⟨other, hother, heq⟩ := List.mem_map.mp hmem
  exact heq ▸ hnals other hother

theorem offset_lt_of_recordNal {nals result : List NalRange} {offset length limit : ℕ}
    (h : recordNal nals offset length = some result) (hlimit : offset + length < limit)
    (hnals : ∀ nal ∈ nals, nal.offset < limit) : ∀ nal ∈ result, nal.offset < limit := by
  unfold recordNal at h
  split_ifs at h
  obtain rfl := Option.some.inj h
  intro nal hnal
  rcases List.mem_append.mp hnal with hnal | hnal
  · exact offset_lt_of_mem_setLastSize hnals nal hnal
  · obtain rfl := List.mem_singleton.mp hnal
    exact hlimit

/-- The units that are found begin in the frame, and the last one reaches to its
end. -/
theorem findNals_spec {frame : List UInt8} {offset : ℕ} {nals result : List NalRange}
    (h : findNals frame offset nals = some result)
    (hnals : ∀ nal ∈ nals, nal.offset < frame.length) :
    (∀ nal ∈ result, nal.offset < frame.length) ∧
      ∀ nal ∈ result.getLast?, nal.size = frame.length - nal.offset := by
  fun_induction findNals frame offset nals with
  | case1 offset nals hin hcode ih =>
    obtain ⟨recorded, hrecord, hfind⟩ := Option.bind_eq_some_iff.mp h
    exact ih recorded hfind (offset_lt_of_recordNal hrecord (by omega) hnals)
  | case2 offset nals hin hcode hcode' ih =>
    obtain ⟨recorded, hrecord, hfind⟩ := Option.bind_eq_some_iff.mp h
    exact ih recorded hfind (offset_lt_of_recordNal hrecord (by omega) hnals)
  | case3 offset nals hin hcode hcode' ih => exact ih h hnals
  | case4 offset nals hout =>
    obtain rfl := Option.some.inj h
    exact ⟨offset_lt_of_mem_setLastSize hnals, fun nal hnal => size_of_mem_setLastSize hnal⟩

/-! ### The packets of a frame -/

/-- Data that `send_rtp_packet` does not send: a large unit of H.264, or a unit
of H.265 without its header. -/
def Codec.drops (codec : Codec) (data : List UInt8) : Bool :=
  match codec with
  | .h264 => decide (300 * 1024 < data.length)
  | .h265 => decide ((skipStartCode data).length < 2)

theorem sentPayloads_of_drops_h264 {data : List UInt8} (hdrops : Codec.drops .h264 data = true) :
    Codec.sentPayloads .h264 data = [] := by
  have hlarge : 300 * 1024 < data.length := of_decide_eq_true hdrops
  have hlong : ¬data.length ≤ maxRtpPacketSize - rtpHeaderSize - 4 := by
    simp only [maxRtpPacketSize, rtpHeaderSize]
    omega
  rw [Codec.sentPayloads, if_neg hlong, if_pos hlarge]

theorem sentPayloads_ne_nil {codec : Codec} {data : List UInt8}
    (hkeeps : codec.drops data = false) : codec.sentPayloads data ≠ [] := by
  cases codec with
  | h264 =>
    have hlarge : ¬data.length > 300 * 1024 := of_decide_eq_false hkeeps
    simp only [Codec.sentPayloads]
    split_ifs with hshort
    · simp
    · refine h264Payloads_ne_nil (List.ne_nil_of_length_pos ?_)
      have := (skipStartCode_length data).2
      simp only [maxRtpPacketSize, rtpHeaderSize] at hshort
      omega
  | h265 => exact h265Payloads_ne_nil (Nat.le_of_not_lt (of_decide_eq_false hkeeps))

/-- The payloads of the packets for an entry. -/
def NalRange.payloads (nal : NalRange) (codec : Codec) (frame : List UInt8) : List (List UInt8) :=
  if nal.offset < frame.length ∧ 0 < nal.size then codec.sentPayloads (nal.bytes frame) else []

/-- A frame on which the sender neither loses count nor loses the marker: it can
be searched, no unit of H.265 lacks its header, and the last unit is dropped only
along with all others. -/
structure FrameFits (codec : Codec) (frame : List UInt8) : Prop where
  length : frame.length ≠ 1 ∧ frame.length ≠ 2
  count : (findNals frame 0 []).isSome = true
  header : codec = .h265 → ∀ nals ∈ findNals frame 0 [], ∀ nal ∈ nals, 0 < nal.size →
    codec.drops (nal.bytes frame) = false
  last : ∀ nals ∈ findNals frame 0 [], ∀ last ∈ nals.getLast?,
    codec.drops (last.bytes frame) = true →
    ∀ nal ∈ nals, 0 < nal.size → codec.drops (nal.bytes frame) = true

/-- The last unit of a frame that fits is sent, if anything is. -/
theorem FrameFits.payloads_last {codec : Codec} {frame : List UInt8} (hfits : FrameFits codec frame)
    {nals : List NalRange} (hnals : nals ∈ findNals frame 0 [])
    (hsent : nals.flatMap (·.payloads codec frame) ≠ []) {last : NalRange}
    (hlast : last ∈ nals.getLast?) : last.payloads codec frame ≠ [] := by
  obtain ⟨hoffsets, hsize⟩ := findNals_spec hnals (by simp)
  have hmem : last ∈ nals := List.mem_of_getLast? hlast
  have hin : last.offset < frame.length ∧ 0 < last.size := by
    have := hoffsets last hmem
    have := hsize last hlast
    omega
  rw [NalRange.payloads, if_pos hin]
  by_cases hdrops : codec.drops (last.bytes frame) = true
  · refine absurd ?_ hsent
    have hall := hfits.last nals hnals last hlast hdrops
    rw [List.flatMap_eq_nil_iff]
    intro nal hnal
    cases codec with
    | h264 =>
      rw [NalRange.payloads]
      split_ifs with hrange
      · exact sentPayloads_of_drops_h264 (hall nal hnal hrange.2)
      · rfl
    | h265 =>
      have hkeeps := hfits.header rfl nals hnals last hmem hin.2
      rw [hdrops] at hkeeps
      cases hkeeps
  · exact sentPayloads_ne_nil (Bool.not_eq_true _ ▸ hdrops)

section Sending

variable {net : Network} (hnet : net.Succeeds)
include hnet

/-- The loop sends the payloads of all units as those of one. -/
theorem sendNals_emits (frame : List UInt8) (timestamp : UInt32) (s : Sender)
    (hplaying : s.client.state = .playing)
    (hsocket : s.client.transportMode = .udp → 0 ≤ s.client.rtpSocketFd) (nals : List NalRange)
    (hheader : s.client.codec = .h265 → ∀ nal ∈ nals, 0 < nal.size →
      2 ≤ (skipStartCode (nal.bytes frame)).length)
    (hlast : nals.flatMap (·.payloads s.client.codec frame) ≠ [] →
      ∀ last ∈ nals.getLast?, last.payloads s.client.codec frame ≠ []) :
    s.Emits (sendNals net frame timestamp s nals)
      (packetize (s.client.stream s.client.codec timestamp) true s.client.rtpSeq
        (nals.flatMap (·.payloads s.client.codec frame))) := by
  induction nals generalizing s with
  | nil => exact s.emits_nil
  | cons nal nals ih =>
    have hfirst : s.Emits (if nal.offset < frame.length ∧ 0 < nal.size then
          (sendRtpPacket net s (nal.bytes frame) timestamp nals.isEmpty).1 else s)
        (packetize (s.client.stream s.client.codec timestamp) nals.isEmpty s.client.rtpSeq
          (nal.payloads s.client.codec frame)) := by
      rw [NalRange.payloads]
      split_ifs with hin
      · exact sendRtpPacket_emits hnet s timestamp nals.isEmpty ⟨hplaying, hsocket,
          fun hcodec => hheader hcodec nal List.mem_cons_self hin.2⟩
      · exact s.emits_nil
    rw [sendNals]
    generalize (if nal.offset < frame.length ∧ 0 < nal.size then
      (sendRtpPacket net s (nal.bytes frame) timestamp nals.isEmpty).1 else s) = s' at hfirst ⊢
    cases nals with
    | nil => simpa [sendNals] using hfirst
    | cons next nals =>
      have hclient := hfirst.client
      have hrest := ih s' (by rw [hclient]; exact hplaying) (by rw [hclient]; exact hsocket)
        (by
          rw [hclient]
          exact fun hcodec other hother => hheader hcodec other (List.mem_cons_of_mem nal hother))
        (by
          rw [hclient]
          intro hsent last hmem
          refine hlast (fun hnil => hsent ?_) last (by rwa [List.getLast?_cons_cons])
          rw [List.flatMap_cons, List.append_eq_nil_iff] at hnil
          exact hnil.2)
      rw [hclient] at hrest
      have htrans := hfirst.trans hrest
      rw [packetize_length] at htrans
      rw [List.flatMap_cons]
      by_cases hnone : (next :: nals).flatMap (·.payloads s.client.codec frame) = []
      · -- the last unit is dropped, and so is this one
        have hall : (nal :: next :: nals).flatMap (·.payloads s.client.codec frame) = [] := by
          by_contra hsent
          obtain ⟨last, hmem⟩ : ∃ last, last ∈ (next :: nals).getLast? :=
            ⟨_, List.getLast?_eq_some_getLast (List.cons_ne_nil next nals)⟩
          refine hlast hsent last (by rwa [List.getLast?_cons_cons]) ?_
          exact List.flatMap_eq_nil_iff.mp hnone last (List.mem_of_getLast? hmem)
        rw [List.flatMap_cons, List.append_eq_nil_iff] at hall
        rw [hall.1, hnone] at htrans ⊢
        exact htrans
      · rw [packetize_append hnone]
        exact htrans

/-- A frame that fits is sent in packets that are numbered and marked as those
of one unit. -/
theorem sendFrameToClient_emits (clock : RtpClock) (s : Sender) {frame : List UInt8}
    (channel : Fin 4) (currentTime : UInt64) (random : UInt32)
    (hplaying : s.client.state = .playing)
    (hsocket : s.client.transportMode = .udp → 0 ≤ s.client.rtpSocketFd)
    (hfits : FrameFits s.client.codec frame) :
    ∃ clock' s' n timestamp payloads,
      sendFrameToClient net clock s frame channel currentTime random = some (clock', s', n) ∧
      s.Emits s' (packetize (s.client.stream s.client.codec timestamp) true s.client.rtpSeq
        payloads) ∧
      ∀ payload ∈ payloads, rtpHeaderSize + payload.length ≤ maxRtpPacketSize := by
  by_cases hempty : frame.length = 0
  · exact ⟨clock, s, 0, 0, [], by rw [sendFrameToClient, if_pos hempty], s.emits_nil, by simp⟩
  · obtain ⟨nals, hnals⟩ := Option.isSome_iff_exists.mp hfits.count
    have hlong : ¬frame.length < 3 := by
      have := hfits.length
      omega
    let r := calculateMonotonicRtpTimestamp clock channel currentTime random
    refine ⟨r.1, _, nals.length, r.2, _, ?_, sendNals_emits hnet frame _ s hplaying hsocket nals
      (fun hcodec nal hnal hsize => ?_) (fun hsent _ => hfits.payloads_last hnals hsent),
      fun payload hpayload => ?_⟩
    · rw [sendFrameToClient, if_neg hempty, if_neg (not_not.mpr hplaying), if_neg hlong, hnals]
      rfl
    · have hkeeps := hfits.header hcodec nals hnals nal hnal hsize
      rw [hcodec] at hkeeps
      exact Nat.le_of_not_lt (of_decide_eq_false hkeeps)
    · obtain ⟨nal, -, hmem⟩ := List.mem_flatMap.mp hpayload
      unfold NalRange.payloads at hmem
      split_ifs at hmem
      · exact length_le_of_mem_sentPayloads hmem
      · cases hmem

end Sending

/-! ### Runs -/

/-- A frame, with what the sender reads besides it. -/
structure FrameArrival where
  frame : List UInt8
  channel : Fin 4
  currentTime : UInt64
  random : UInt32

/-- The frames delivered to a client between two requests, with the calls made
for each. -/
def sendFrames (net : Network) : RtpClock → Sender → List FrameArrival →
    Option (Sender × List (List Call))
  | _, s, [] => some (s, [])
  | clock, s, arrival :: arrivals => do
    let (clock', s', _) ← sendFrameToClient net clock s arrival.frame arrival.channel
      arrival.currentTime arrival.random
    let (last, calls) ← sendFrames net clock' s' arrivals
    some (last, s'.calls.drop s.calls.length :: calls)

/-- The packets of all frames are numbered in sequence from the client's number
on, and the packets of each frame end with the only one that has the marker. -/
def Client.Continuous (client : Client) (calls : List (List Call)) : Prop :=
  ∃ packets ∈ calls.mapM client.received,
    Consecutive client.rtpSeq (packets.flatten.map (·.sequenceNumber)) ∧
    ∀ ps ∈ packets, ps ≠ [] → ps.map (·.marker) = List.replicate (ps.length - 1) false ++ [true]

instance (client : Client) (calls : List (List Call)) : Decidable (client.Continuous calls) :=
  inferInstanceAs (Decidable (∃ packets ∈ calls.mapM client.received, _ ∧ _))

theorem Client.received_setSeq (client : Client) (seq : UInt16) :
    { client with rtpSeq := seq }.received = client.received := rfl

/-- In every run of frames that fit, the stream is continuous. -/
theorem sendFrames_continuous {net : Network} (hnet : net.Succeeds) (clock : RtpClock) (s : Sender)
    (hplaying : s.client.state = .playing)
    (hsocket : s.client.transportMode = .udp → 0 ≤ s.client.rtpSocketFd)
    {arrivals : List FrameArrival}
    (hfits : ∀ arrival ∈ arrivals, FrameFits s.client.codec arrival.frame) :
    ∃ last calls, sendFrames net clock s arrivals = some (last, calls) ∧
      s.client.Continuous calls := by
  induction arrivals generalizing clock s with
  | nil => exact ⟨s, [], rfl, [], rfl, trivial, by simp⟩
  | cons arrival arrivals ih =>
    obtain ⟨clock', s', n, timestamp, payloads, hsend, hemits, hlength⟩ :=
      sendFrameToClient_emits hnet clock s arrival.channel arrival.currentTime arrival.random
        hplaying hsocket (hfits arrival List.mem_cons_self)
    have hclient := hemits.client
    obtain ⟨last, calls, hrest, packets, hpackets, hseq, hmarker⟩ := ih clock' s'
      (by rw [hclient]; exact hplaying) (by rw [hclient]; exact hsocket)
      (by rw [hclient]; exact fun a ha => hfits a (List.mem_cons_of_mem arrival ha))
    refine ⟨last, s'.calls.drop s.calls.length :: calls, ?_,
      packetize (s.client.stream s.client.codec timestamp) true s.client.rtpSeq payloads :: packets,
      ?_, ?_, ?_⟩
    · rw [sendFrames, hsend]
      simp [hrest]
    · rw [hclient, Client.received_setSeq] at hpackets
      rw [List.mapM_cons, hemits.received hlength, Option.mem_def.mp hpackets]
      rfl
    · rw [hclient] at hseq
      rw [List.flatten_cons, List.map_append, consecutive_append, List.length_map]
      exact ⟨packetize_consecutive, hseq⟩
    · intro ps hps hne
      rcases List.mem_cons.mp hps with rfl | hps
      · have hpayloads : payloads ≠ [] := by
          rintro rfl
          exact hne rfl
        rw [packetize_marker hpayloads, packetize_length]
      · exact hmarker ps hps hne

/-- A parameter set and a slice of H.264. -/
def parametersAndSlice : FrameArrival where
  frame := [0, 0, 0, 1, 0x67, 0x42, 0, 0, 1, 0x65, 0x88, 0x84]
  channel := 0
  currentTime := 1000000
  random := 7

/-- A unit of H.265 with half a header in front of a slice. -/
def shortUnitAndSlice : FrameArrival where
  frame := [0, 0, 0, 1, 0x40, 0, 0, 0, 1, 0x26, 0x01, 0xAF]
  channel := 0
  currentTime := 1000000
  random := 7

/-- Two frames of H.264 keep the stream continuous. -/
theorem sendFrames_continuous_parametersAndSlice :
    ∃ last calls, sendFrames goodNetwork .initial (udpSender .h264)
        [parametersAndSlice, parametersAndSlice] = some (last, calls) ∧
      (udpSender .h264).client.Continuous calls :=
  sendFrames_continuous goodNetwork_succeeds .initial (udpSender .h264) rfl (fun _ => by decide)
    fun arrival harrival => by
      have hfits : FrameFits .h264 parametersAndSlice.frame :=
        ⟨by decide, by decide +kernel, nofun, by decide +kernel⟩
      simp only [List.mem_cons, List.not_mem_nil, or_false, or_self] at harrival
      exact harrival ▸ hfits

/-- The short unit takes a number that no packet has. -/
theorem shortUnit_skips_number :
    ¬∀ (net : Network) (clock : RtpClock) (s : Sender) (arrivals : List FrameArrival),
      net.Succeeds → s.client.state = .playing →
      (s.client.transportMode = .udp → 0 ≤ s.client.rtpSocketFd) →
      ∃ last calls, sendFrames net clock s arrivals = some (last, calls) ∧
        s.client.Continuous calls := by
  intro h
  obtain ⟨last, calls, hcalls, hcontinuous⟩ := h goodNetwork .initial (udpSender .h265)
    [shortUnitAndSlice] goodNetwork_succeeds rfl fun _ => by decide
  have hgap : ∀ r ∈ sendFrames goodNetwork .initial (udpSender .h265) [shortUnitAndSlice],
      ¬(udpSender .h265).client.Continuous r.2 := by
    decide +kernel
  exact hgap _ hcalls hcontinuous

end Rtsp
